import FixtureDraft.Grammar.Lexeme
import FixtureDraft.Grammar.Token

/-!
# Reading tokens

A source text is read from the front, one lexeme at a time. Blanks and comments are skipped. The
directives that only concern a compiler are notes, which stand between the tokens that rules read.
The conditional directives become tokens, and the condition behind one ends with a token of its own
at the end of the line.

Inside an interpolated string text and holes alternate; a stack of modes remembers what encloses
the place that is read.
-/

namespace FixtureDraft.Grammar

/-- What encloses the place that is read: the text of an interpolated string, or a hole in it
with the brackets and the conditionals open there. -/
inductive Mode
  | quoted (style : QuoteStyle)
  | hole (style : QuoteStyle) (depth conditionals : Nat)
deriving DecidableEq, Repr

/-- How a condition behind a directive stands: none is being read, or one that could not end
here, or one that could. -/
inductive Condition
  | absent
  | unfinished
  | finished
deriving DecidableEq, Repr

/-- The state of the reading: the text still to be read and its place in bytes, whether its
line was blank so far, the condition and the modes. -/
structure Lexer where
  rest : List Char
  position : Nat
  lineStart : Bool
  condition : Condition
  modes : List Mode

/-- What comes next, and how many characters it takes. -/
inductive Step
  | skip (length : Nat)
  | note (length : Nat)
  | token (kind : TokenKind) (length : Nat) (modes : List Mode)
  | stuck

/-! ## Directives -/

/-- Words of the rest of a directive's line, comments aside. -/
def lineWords (cs : List Char) : List (List Char) :=
  let rec go (word : List Char) : List Char → List (List Char)
    | [] => if word.isEmpty then [] else [word.reverse]
    | '/' :: '/' :: _ => if word.isEmpty then [] else [word.reverse]
    | c :: cs =>
      if isGap c then if word.isEmpty then go [] cs else word.reverse :: go [] cs
      else go (c :: word) cs
  go [] cs

/-- Whether a directive that is a note may have the line `line` behind its name. -/
def isNote (name : String) (line : List Char) : Bool :=
  let words := (lineWords line).map String.ofList
  match name with
  | "region" | "endregion" => true
  | "error" | "warning" | "define" | "undef" => !line.all isGap
  | "nullable" =>
    match words with
    | [setting] => ["enable", "disable", "restore"].contains setting
    | [setting, target] =>
      ["enable", "disable", "restore"].contains setting
        && ["annotations", "warnings"].contains target
    | _ => false
  | "pragma" =>
    match words with
    | "warning" :: setting :: _ => ["enable", "disable", "restore"].contains setting
    | ["checksum", _, _, _] => true
    | _ => false
  | "line" =>
    match words with
    | word :: _ =>
      word == "default" || word == "hidden"
        || (word.toList.head?.any fun c => c.isDigit || c == '(')
    | [] => false
  | _ => false

/-- The name of a directive and the length up to its end. -/
def directiveHead (cs : List Char) : Nat × List Char :=
  let gap := (cs.drop 1).takeWhile fun c => c == ' ' || c == '\t'
  let name := (cs.drop (1 + gap.length)).takeWhile Char.isAlpha
  (1 + gap.length + name.length, name)

/-- The directive at the start of `cs`. -/
def directiveStep (modes : List Mode) (cs : List Char) : Step :=
  let (length, name) := directiveHead cs
  let name := String.ofList name
  if ["if", "elif", "else", "endif"].contains name then .token .directive length modes
  else
    let line := (cs.drop length).takeWhile (· != '\n')
    let whole := length + line.length
    if isNote name line && (cs.drop whole).head? == some '\n' then .note whole else .stuck

/-! ## Code -/

/-- The modes after a mark in a hole: brackets and conditionals are counted. -/
def modesAfterMark (modes : List Mode) (mark : List Char) (next : Option Char) : List Mode :=
  match modes with
  | .hole q depth conditionals :: outer =>
    match mark with
    | ['('] | ['['] | ['{'] => .hole q (depth + 1) conditionals :: outer
    | [')'] | [']'] | ['}'] => .hole q (depth - 1) conditionals :: outer
    | ['?'] =>
      if depth = 0 && next != some '.' && next != some '[' then
        .hole q depth (conditionals + 1) :: outer
      else modes
    | [':'] => if depth = 0 then .hole q depth (conditionals - 1) :: outer else modes
    | _ => modes
  | _ => modes

/-- A token of the given length; none, if the length is zero. -/
def Step.ofLength (kind : TokenKind) (modes : List Mode) : Nat → Option Step
  | 0 => none
  | n + 1 => some (.token kind (n + 1) modes)

/-- The end of a hole, or the format behind its expression. -/
def holeStep? (modes : List Mode) (cs : List Char) : Option Step :=
  match modes, cs with
  | .hole q 0 _ :: outer, '}' :: _ =>
    if q.braces ≤ runLength '}' cs then some (.token .holeClose q.braces outer) else none
  | .hole _ 0 0 :: _, ':' :: rest =>
    let length := (rest.takeWhile fun c => c != '}' && c != '"').length
    if rest.head? = some ':' || length = 0 then none else some (.token .format (1 + length) modes)
  | _, _ => none

/-- The lexeme at the start of `cs`, which is code and no gap. -/
def lexemeStep (modes : List Mode) (cs : List Char) : Step :=
  let string? := (stringLength? cs).bind (Step.ofLength .text modes)
  let quote? := (quoteOpen? cs).map fun (n, q) => Step.token .quoteOpen n (.quoted q :: modes)
  let word? := Step.ofLength .word modes (wordLength cs)
  let number? := Step.ofLength .number modes (numberLength cs)
  let character? := (characterLength? cs).bind (Step.ofLength .character modes)
  let mark? :=
    let n := markLength cs
    Step.ofLength .mark (modesAfterMark modes (cs.take n) (cs.drop n).head?) n
  ((((((holeStep? modes cs).or string?).or quote?).or word?).or number?).or
    (character?.or mark?)).getD .stuck

/-- What comes next in code. -/
def codeStep (s : Lexer) : Step :=
  match s.rest with
  | [] => .stuck
  | c :: cs =>
    if isGap c then
      if s.condition = .absent then .skip (1 + (cs.takeWhile isGap).length)
      else if c = '\n' && s.condition = .finished then .token .lineEnd 1 s.modes
      else .skip 1
    else if c = '/' && cs.head? = some '/' then .skip (lineCommentLength s.rest)
    else if c = '/' && cs.head? = some '*' then
      match blockCommentTail 2 (cs.drop 1) with
      | some n => .skip n
      | none => .stuck
    else if c = '#' then
      if s.position = 0 && cs.head? = some '!' then .skip (lineCommentLength s.rest)
      else if s.lineStart then directiveStep s.modes s.rest
      else .stuck
    else lexemeStep s.modes s.rest

/-! ## Interpolated strings -/

/-- What comes next in the text of an interpolated string. -/
def quotedStep (q : QuoteStyle) (outer : List Mode) (cs : List Char) : Step :=
  let closing := quoteCloseLength q cs
  let opening := holeOpenLength q cs
  if closing ≠ 0 then .token .quoteClose closing outer
  else if opening ≠ 0 then .token .holeOpen opening (.hole q 0 0 :: .quoted q :: outer)
  else
    match quoteTextLength q 0 0 cs with
    | 0 => .stuck
    | n + 1 => .token .quoteText (n + 1) (.quoted q :: outer)

/-! ## The whole text -/

/-- The number of characters that a step takes. -/
def Step.length : Step → Nat
  | skip n => n
  | note n => n
  | token _ n _ => n
  | stuck => 0

/-- What comes next. No lexeme holds the character with number zero. -/
def Lexer.next (s : Lexer) : Step :=
  let step := match s.modes with
    | .quoted q :: outer => quotedStep q outer s.rest
    | _ => codeStep s
  if (s.rest.take step.length).contains '\x00' then .stuck else step

/-- The number of bytes that write `cs`. -/
def byteLength (cs : List Char) : Nat :=
  cs.foldl (fun n c => n + c.utf8Size) 0

/-- The condition after a token. An operand or a closing bracket may be its last token. -/
def Condition.after (c : Condition) (kind : TokenKind) (text : String) : Condition :=
  if kind = .directive then if text == "if" || text == "elif" then .unfinished else .absent
  else if kind = .lineEnd then .absent
  else if c = .absent then .absent
  else if kind = .mark && text != ")" then .unfinished
  else .finished

/-- The text that a token keeps: a directive keeps its name alone. -/
def Token.textOf (kind : TokenKind) (lexeme : List Char) : String :=
  String.ofList (if kind = .directive then lexeme.filter Char.isAlpha else lexeme)

/-- The state behind a lexeme of `n` characters that leaves the condition and the modes alone. -/
def Lexer.past (s : Lexer) (n : Nat) : Lexer :=
  let lexeme := s.rest.take n
  { s with
    rest := s.rest.drop n
    position := s.position + byteLength lexeme
    lineStart := lexeme.all isGap && (s.lineStart || lexeme.contains '\n') }

/-- The note of `n` characters that is read next. It keeps its name alone. -/
def Lexer.noteHere (s : Lexer) (n : Nat) : Token :=
  ⟨.note, String.ofList (directiveHead s.rest).2, s.position, (s.past n).position⟩

/-- Reads the rest of the text in at most `fuel` steps, behind the tokens `read`. Where no
lexeme begins, a fault is the last token. -/
def tokensFrom : (fuel : Nat) → Lexer → (read : List Token) → List Token
  | 0, _, read => read.reverse
  | fuel + 1, s, read =>
    if s.rest.isEmpty && s.modes.isEmpty then read.reverse
    else
      match s.next with
      | .stuck => (⟨.fault, "", s.position, s.position + 1⟩ :: read).reverse
      | .skip n => tokensFrom fuel (s.past n) read
      | .note n => tokensFrom fuel (s.past n) (s.noteHere n :: read)
      | .token kind n modes =>
        let lexeme := s.rest.take n
        let text := Token.textOf kind lexeme
        let stop := s.position + byteLength lexeme
        tokensFrom fuel
          { rest := s.rest.drop n
            position := stop
            lineStart := kind == .lineEnd
            condition := s.condition.after kind text
            modes }
          (⟨kind, text, s.position, stop⟩ :: read)

/-- The tokens of a source text. -/
def tokens (code : String) : List Token :=
  let cs := code.toList
  tokensFrom (cs.length + 1) ⟨cs, 0, true, .absent, []⟩ []

end FixtureDraft.Grammar
