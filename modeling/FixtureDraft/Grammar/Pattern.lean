import FixtureDraft.Grammar.Token
import FixtureDraft.Tree.Basic

/-!
# Patterns over tokens

A grammar is a value: a pattern for each of its rules. `Pattern.run` reads tokens by a pattern
and builds the syntax tree on the way. Choices are ordered, and what an alternative has read
counts for nothing once it is refused.

A token that is read becomes a leaf. A node gathers the leaves and nodes read inside it; with
`onto` it also takes over the node read just before, so that `a.b.c` grows to the left.
-/

namespace FixtureDraft.Grammar

open FixtureDraft.Tree

/-- What one token may be. A leaf that stands for itself only is anonymous. -/
inductive Terminal
  | word (text : String)
  | mark (text : String)
  | directive (name : String)
  | name (except : List String)
  | leaf (kind : TokenKind) (as : Kind)
  | anyBut (marks : List String)
deriving Repr

namespace Terminal

/-- Whether `t` is such a token. -/
def accepts (t : Token) : Terminal → Bool
  | word w => t.kind == .word && t.text == w
  | mark m => t.kind == .mark && t.text == m
  | directive d => t.kind == .directive && t.text == d
  | name except => t.kind == .word && !except.contains t.text
  | leaf k _ => t.kind == k
  | anyBut marks => t.kind != .fault && !(t.kind == .mark && marks.contains t.text)

/-- The kind of an anonymous leaf. -/
def anonymousKind (text : String) : Kind :=
  if text == "," then .comma
  else if text == "(" then .openParenthesis
  else if text == ")" then .closeParenthesis
  else .other text

/-- The leaf for a token that was accepted. -/
def leafOf (t : Token) : Terminal → Node
  | name _ => .node { kind := .identifier, start := t.start, stop := t.stop } []
  | leaf _ k => .node { kind := k, start := t.start, stop := t.stop } []
  | _ => .node { kind := anonymousKind t.text, start := t.start, stop := t.stop, named := false } []

end Terminal

/-- What may be read, over the rules `R` of a grammar. -/
inductive Pattern (R : Type)
  | empty
  | terminal (t : Terminal)
  | glued
  | seq (p q : Pattern R)
  | alt (p q : Pattern R)
  | many (p : Pattern R)
  | ahead (p : Pattern R)
  | absent (p : Pattern R)
  | node (kind : Kind) (p : Pattern R)
  | onto (kind : Kind) (p : Pattern R)
  | field (f : Field) (p : Pattern R)
  | tag (kind : Kind)
  | lastIs (kinds : List Kind)
  | rule (r : R)

/-- The state of the reading: the tokens to come, the end of the last token read, the nodes
read at this depth (the last one first), the kind that the node being read has turned out to
be of, and the start of the furthest token that was refused. -/
structure Reading where
  rest : List Token
  last : Nat
  nodes : List Node
  tag : Option Kind
  reach : Nat

/-- How a pattern fares: it reads on, or it is refused. -/
inductive Outcome
  | read (r : Reading)
  | refused (reach : Nat)

namespace Reading

/-- Where the next token starts; at the end of the text, where the last one ended. -/
def here (r : Reading) : Nat :=
  match r.rest with
  | t :: _ => t.start
  | [] => r.last

/-- Refuses the next token. -/
def refuse (r : Reading) : Outcome :=
  .refused (max r.reach r.here)

/-- Reads one token, or refuses it. -/
def take (r : Reading) (t : Terminal) : Outcome :=
  match r.rest with
  | tok :: rest =>
    if t.accepts tok then .read { r with rest, last := tok.stop, nodes := t.leafOf tok :: r.nodes }
    else r.refuse
  | [] => r.refuse

/-- Remembers a refusal and stays in place. -/
def withReach (r : Reading) (reach : Nat) : Reading :=
  { r with reach := max r.reach reach }

/-- The state in which the inside of a node is read, behind the nodes `inside`. -/
def enter (r : Reading) (inside : List Node) : Reading :=
  { r with nodes := inside, tag := none }

/-- The state after a node: what was read inside becomes its children. -/
def leave (outer inner : Reading) (kind : Kind) (start : Nat) (before : List Node) : Reading :=
  let label : Label := { kind := inner.tag.getD kind, start, stop := inner.last }
  { inner with nodes := .node label inner.nodes.reverse :: before, tag := outer.tag }

end Reading

/-- The node as the part `f` of its parent. -/
def asField (f : Field) : Node → Node
  | .node l cs => .node { l with field := some f } cs

namespace Pattern

variable {R : Type}

/-- Reads by a pattern of the grammar `g`, with nesting and repetition bounded by `fuel`. -/
def run (g : R → Pattern R) : (fuel : Nat) → Pattern R → Reading → Outcome
  | 0, _, r => r.refuse
  | fuel + 1, p, r =>
    match p with
    | empty => .read r
    | terminal t => r.take t
    | glued =>
      match r.rest with
      | t :: _ => if t.start = r.last then .read r else r.refuse
      | [] => r.refuse
    | seq p q =>
      match run g fuel p r with
      | .read r => run g fuel q r
      | .refused reach => .refused reach
    | alt p q =>
      match run g fuel p r with
      | .read r => .read r
      | .refused reach => run g fuel q (r.withReach reach)
    | many p =>
      match run g fuel p r with
      | .read r => run g fuel (many p) r
      | .refused reach => .read (r.withReach reach)
    | ahead p =>
      match run g fuel p r with
      | .read s => .read (r.withReach s.reach)
      | .refused reach => .refused reach
    | absent p =>
      match run g fuel p r with
      | .read _ => r.refuse
      | .refused _ => .read r
    | node kind p =>
      match run g fuel p (r.enter []) with
      | .read s => .read (r.leave s kind r.here r.nodes)
      | .refused reach => .refused reach
    | onto kind p =>
      match r.nodes with
      | n :: before =>
        match run g fuel p (r.enter [n]) with
        | .read s => .read (r.leave s kind n.start before)
        | .refused reach => .refused reach
      | [] => r.refuse
    | field f p =>
      match run g fuel p { r with nodes := [] } with
      | .read s => .read { s with nodes := s.nodes.map (asField f) ++ r.nodes }
      | .refused reach => .refused reach
    | tag kind => .read { r with tag := some kind }
    | lastIs kinds =>
      match r.nodes with
      | n :: _ => if kinds.contains n.kind then .read r else r.refuse
      | [] => r.refuse
    | rule r' => run g fuel (g r') r

/-! ## Derived patterns -/

/-- All of them, one after the other. -/
def all : List (Pattern R) → Pattern R
  | [] => empty
  | [p] => p
  | p :: ps => seq p (all ps)

/-- The first of them that is not refused. -/
def any : List (Pattern R) → Pattern R
  | [] => absent empty
  | [p] => p
  | p :: ps => alt p (any ps)

/-- The pattern, or nothing. -/
def optional (p : Pattern R) : Pattern R := alt p empty

/-- The keyword `w`. -/
def kw (w : String) : Pattern R := terminal (.word w)

/-- The mark `m`. -/
def op (m : String) : Pattern R := terminal (.mark m)

/-- Any word but some. -/
def name (except : List String) : Pattern R := terminal (.name except)

/-- One of the keywords. -/
def kwIn (ws : List String) : Pattern R := any (ws.map kw)

/-- One of the marks. -/
def opIn (ms : List String) : Pattern R := any (ms.map op)

/-- One or more of them, with commas between. -/
def separated (p : Pattern R) : Pattern R :=
  seq p (many (seq (op ",") p))

/-- Any number of them, with commas between. -/
def listed (p : Pattern R) : Pattern R := optional (separated p)

/-- Any number of them, with commas between; one more comma may follow. -/
def listedLoosely (p : Pattern R) : Pattern R := seq (listed p) (optional (op ","))

/-- The pattern between braces. -/
def braced (p : Pattern R) : Pattern R := all [op "\x7b", p, op "\x7d"]

/-- Reads `p` behind a condition that reads nothing. -/
def guarded (condition p : Pattern R) : Pattern R := seq (ahead condition) p

end Pattern

end FixtureDraft.Grammar
