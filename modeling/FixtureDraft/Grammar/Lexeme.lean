import FixtureDraft.Text.Letters

/-!
# Lexemes

How far the tokens of a source text reach. Each function here looks at the text that is still
to be read and gives the number of characters of the lexeme that begins there; a lexeme that
is not there, or not finished, has length zero or none.
-/

namespace FixtureDraft.Grammar

open FixtureDraft.Text

/-- White space between tokens. -/
def isGap (c : Char) : Bool :=
  (9 ≤ c.toNat && c.toNat ≤ 13) || c == ' ' || c == '\u00a0' || c == '\ufeff' || c == '\u3000'

/-- Whether `c` is a hexadecimal digit. -/
def isHexDigit (c : Char) : Bool :=
  c.isDigit || ('a' ≤ c && c ≤ 'f') || ('A' ≤ c && c ≤ 'F')

/-- How many times `c` stands at the start of `cs`. -/
def runLength (c : Char) (cs : List Char) : Nat :=
  (cs.takeWhile (· == c)).length

/-! ## Comments -/

/-- A comment up to the end of its line; the line end is no part of it. -/
def lineCommentLength (cs : List Char) : Nat :=
  (cs.takeWhile fun c => c != '\n' && c != '\r').length

/-- The rest of a bracketed comment, `n` characters of which are read. -/
def blockCommentTail (n : Nat) : List Char → Option Nat
  | '*' :: '/' :: _ => some (n + 2)
  | _ :: cs => blockCommentTail (n + 1) cs
  | [] => none

/-! ## Words -/

/-- A character of an identifier written by its number. -/
def escapeLength : List Char → Nat
  | '\\' :: 'u' :: cs => if 4 ≤ ((cs.take 4).takeWhile isHexDigit).length then 6 else 0
  | '\\' :: 'U' :: cs => if 8 ≤ ((cs.take 8).takeWhile isHexDigit).length then 10 else 0
  | _ => 0

/-- The rest of a word, `n` characters of which are read; `skip` more belong to an escape. -/
def wordTail (skip n : Nat) : List Char → Nat
  | [] => n
  | c :: cs =>
    match skip with
    | k + 1 => wordTail k (n + 1) cs
    | 0 =>
      if isContinue c then wordTail 0 (n + 1) cs
      else match escapeLength (c :: cs) with
        | 0 => n
        | k + 1 => wordTail k (n + 1) cs

/-- An identifier or keyword without a leading `@`. -/
def bareWordLength : List Char → Nat
  | [] => 0
  | c :: cs =>
    if isStart c || c == '_' then wordTail 0 1 cs
    else match escapeLength (c :: cs) with
      | 0 => 0
      | k + 1 => wordTail k 1 cs

/-- An identifier or keyword. -/
def wordLength : List Char → Nat
  | '@' :: cs =>
    match bareWordLength cs with
    | 0 => 0
    | n + 1 => n + 2
  | cs => bareWordLength cs

/-! ## Numbers -/

/-- Digits with underscores among them, but none at the end. -/
def digitsLength (isDigit : Char → Bool) (cs : List Char) : Nat :=
  ((cs.takeWhile fun c => isDigit c || c == '_').reverse.dropWhile (· == '_')).length

/-- Decimal digits; the first character is one. -/
def decimalLength : List Char → Nat
  | [] => 0
  | c :: cs => if c.isDigit then digitsLength Char.isDigit (c :: cs) else 0

/-- The letter that marks an unsigned integer. -/
def isUnsignedMark (c : Char) : Bool := c == 'u' || c == 'U'

/-- The letter that marks a long integer. -/
def isLongMark (c : Char) : Bool := c == 'l' || c == 'L'

/-- The letters that mark a number with a fraction. -/
def isRealMark : Char → Bool
  | 'f' | 'F' | 'd' | 'D' | 'm' | 'M' => true
  | _ => false

/-- The letters that may end an integer. -/
def integerSuffixLength : List Char → Nat
  | a :: b :: _ =>
    if isUnsignedMark a then if isLongMark b then 2 else 1
    else if isLongMark a then if isUnsignedMark b then 2 else 1
    else 0
  | [a] => if isUnsignedMark a || isLongMark a then 1 else 0
  | [] => 0

/-- The exponent of a number. Its digits may end with underscores. -/
def exponentLength : List Char → Nat
  | e :: cs =>
    if e == 'e' || e == 'E' then
      let sign := match cs with
        | '+' :: _ => 1
        | '-' :: _ => 1
        | _ => 0
      match cs.drop sign with
      | d :: ds =>
        if d.isDigit then
          2 + sign + (ds.takeWhile fun c => c.isDigit || c == '_').length
        else 0
      | [] => 0
    else 0
  | [] => 0

/-- The digits behind a point, with the point. -/
def fractionLength : List Char → Nat
  | '.' :: cs =>
    match decimalLength cs with
    | 0 => 0
    | n + 1 => n + 2
  | _ => 0

/-- A number in decimal. -/
def decimalNumberLength (cs : List Char) : Nat :=
  let whole := decimalLength cs
  let fraction := fractionLength (cs.drop whole)
  let digits := whole + fraction
  if digits = 0 then 0
  else
    let exponent := exponentLength (cs.drop digits)
    let n := digits + exponent
    match cs.drop n with
    | c :: rest =>
      if isRealMark c then n + 1
      else if fraction + exponent = 0 then n + integerSuffixLength (c :: rest)
      else n
    | [] => n

/-- A number. -/
def numberLength (cs : List Char) : Nat :=
  let based (isDigit : Char → Bool) (ds : List Char) : Nat :=
    match digitsLength isDigit ds with
    | 0 => decimalNumberLength cs
    | n + 1 => n + 3 + integerSuffixLength (ds.drop (n + 1))
  match cs with
  | '0' :: 'x' :: ds => based isHexDigit ds
  | '0' :: 'X' :: ds => based isHexDigit ds
  | '0' :: 'b' :: ds => based (fun c => c == '0' || c == '1') ds
  | '0' :: 'B' :: ds => based (fun c => c == '0' || c == '1') ds
  | _ => decimalNumberLength cs

/-! ## Characters and strings -/

/-- The letters and marks that stand for a character behind a backslash. -/
def isEscaped (c : Char) : Bool :=
  ['a', 'b', 'e', 'f', 'n', 'r', 't', 'v', '\'', '"', '\\', '?', '0'].contains c

/-- A character written with a backslash, by a letter or by its number. -/
def escapedLength : List Char → Nat
  | '\\' :: 'x' :: cs =>
    match ((cs.take 4).takeWhile isHexDigit).length with
    | 0 => 0
    | n + 1 => n + 3
  | '\\' :: c :: cs => if isEscaped c then 2 else escapeLength ('\\' :: c :: cs)
  | _ => 0

/-- A character between single quotes. -/
def characterLength? : List Char → Option Nat
  | '\'' :: '\\' :: cs =>
    match escapedLength ('\\' :: cs) with
    | 0 => none
    | n + 1 => if (cs.drop n).head? = some '\'' then some (n + 3) else none
  | '\'' :: c :: '\'' :: _ => if c = '\'' then none else some 3
  | _ => none

/-- The letters that may follow a string. -/
def encodingLength : List Char → Nat
  | 'u' :: '8' :: _ => 2
  | 'U' :: '8' :: _ => 2
  | _ => 0

/-- The rest of a string on one line, `n` characters of which are read. Nothing but blanks may
stand between the end of the line and the closing quote. -/
def stringTail (n : Nat) : List Char → Option Nat
  | '"' :: cs => some (n + 1 + encodingLength cs)
  | '\n' :: cs =>
    match cs.dropWhile isGap with
    | '"' :: rest => some (n + 2 + (cs.takeWhile isGap).length + encodingLength rest)
    | _ => none
  | '\\' :: _ :: cs => stringTail (n + 2) cs
  | _ :: cs => stringTail (n + 1) cs
  | [] => none

/-- The rest of a verbatim string, in which a quote is written twice. -/
def verbatimTail (n : Nat) : List Char → Option Nat
  | '"' :: '"' :: cs => verbatimTail (n + 2) cs
  | '"' :: cs => some (n + 1 + encodingLength cs)
  | _ :: cs => verbatimTail (n + 1) cs
  | [] => none

/-- The rest of a raw string, which ends at `quotes` quotes in a row; `seen` of them were
read last. -/
def rawTail (quotes seen n : Nat) : List Char → Option Nat
  | '"' :: cs =>
    if seen + 1 = quotes then some (n + 1 + encodingLength cs)
    else rawTail quotes (seen + 1) (n + 1) cs
  | _ :: cs => rawTail quotes 0 (n + 1) cs
  | [] => none

/-- A string without holes. -/
def stringLength? : List Char → Option Nat
  | '@' :: '"' :: cs => verbatimTail 2 cs
  | '"' :: cs =>
    let quotes := runLength '"' ('"' :: cs)
    if 3 ≤ quotes then rawTail quotes 0 quotes (cs.drop (quotes - 1)) else stringTail 1 cs
  | _ => none

/-! ## Interpolated strings -/

/-- How an interpolated string is written: the dollar signs before it, the quotes around it,
and whether backslashes and line ends stand for themselves in it. Three quotes or more make
it raw. -/
structure QuoteStyle where
  dollars : Nat
  quotes : Nat
  verbatim : Bool
deriving DecidableEq, Repr

namespace QuoteStyle

/-- Whether every character of the string stands for itself. -/
def isRaw (q : QuoteStyle) : Bool := 3 ≤ q.quotes

/-- The number of braces that open a hole. -/
def braces (q : QuoteStyle) : Nat := if q.isRaw then q.dollars else 1

end QuoteStyle

/-- The start of an interpolated string and its style. -/
def quoteOpen? : List Char → Option (Nat × QuoteStyle)
  | '@' :: '$' :: '"' :: _ => some (3, ⟨1, 1, true⟩)
  | '$' :: '@' :: '"' :: _ => some (3, ⟨1, 1, true⟩)
  | '$' :: cs =>
    let dollars := runLength '$' ('$' :: cs)
    let quotes := runLength '"' (cs.drop (dollars - 1))
    if 3 ≤ quotes then some (dollars + quotes, ⟨dollars, quotes, false⟩)
    else if 1 ≤ quotes && dollars == 1 then some (2, ⟨1, 1, false⟩)
    else none
  | _ => none

/-- The end of an interpolated string: zero, unless it stands there. -/
def quoteCloseLength (q : QuoteStyle) (cs : List Char) : Nat :=
  let quotes := runLength '"' cs
  if q.isRaw then if q.quotes ≤ quotes then q.quotes else 0
  else if quotes = 0 || (q.verbatim && 2 ≤ quotes) then 0 else 1

/-- The start of a hole: zero, unless it stands there. -/
def holeOpenLength (q : QuoteStyle) (cs : List Char) : Nat :=
  let braces := runLength '{' cs
  if braces = q.braces then braces else 0

/-- Plain text of an interpolated string: up to a hole, the end, or a character that may not
stand there. `skip` characters belong to the text for certain. -/
def quoteTextLength (q : QuoteStyle) (skip n : Nat) : List Char → Nat
  | [] => n
  | c :: cs =>
    match skip with
    | k + 1 => quoteTextLength q k (n + 1) cs
    | 0 =>
      let run := runLength c (c :: cs)
      if q.isRaw then
        if c = '"' then
          if q.quotes ≤ run then n else quoteTextLength q (run - 1) (n + 1) cs
        else if c = '{' then
          if run = q.braces then n
          else if run < q.braces then quoteTextLength q (run - 1) (n + 1) cs
          else n + (run - q.braces)
        else quoteTextLength q 0 (n + 1) cs
      else if c = '"' then
        if q.verbatim && 2 ≤ run then quoteTextLength q 1 (n + 1) cs else n
      else if c = '{' || c = '}' then
        if 2 ≤ run then quoteTextLength q 1 (n + 1) cs else n
      else if c = '\\' && !q.verbatim then
        match escapedLength (c :: cs) with
        | 0 => n
        | k + 1 => quoteTextLength q k (n + 1) cs
      else if c = '\n' && !q.verbatim then n
      else quoteTextLength q 0 (n + 1) cs

/-! ## Marks -/

/-- Whether two characters make one operator. -/
def isPair : Char → Char → Bool
  | '=', '>' | '=', '=' | '!', '=' | '<', '=' | '<', '<' | '&', '&' | '|', '|' | '+', '+'
  | '-', '-' | '+', '=' | '-', '=' | '*', '=' | '/', '=' | '%', '=' | '&', '=' | '|', '='
  | '^', '=' | '-', '>' | ':', ':' | '.', '.' | '?', '?' => true
  | _, _ => false

/-- Whether one character is an operator, a bracket or another mark. -/
def isSingle : Char → Bool
  | '{' | '}' | '(' | ')' | '[' | ']' | ';' | ',' | '.' | ':' | '?' | '<' | '>' | '=' | '+'
  | '-' | '*' | '/' | '%' | '&' | '|' | '^' | '!' | '~' => true
  | _ => false

/-- Operators, brackets and other marks; the longest wins. -/
def markLength : List Char → Nat
  | '<' :: '<' :: '=' :: _ => 3
  | '?' :: '?' :: '=' :: _ => 3
  | c :: d :: _ => if isPair c d then 2 else if isSingle c then 1 else 0
  | [c] => if isSingle c then 1 else 0
  | [] => 0

end FixtureDraft.Grammar
