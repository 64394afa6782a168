import FixtureDraft.Grammar.Lexer
import FixtureDraft.Grammar.Statements

/-!
# From a source text to its syntax tree

Every text has a tree. A text that the grammar does not accept as a whole has a tree with one
fault in it, at the furthest token that was refused. The notes of a text are put into the tree where
they stand, whatever the rules were that read the tokens around them.
-/

namespace FixtureDraft.Grammar

open FixtureDraft.Tree

/-- The tree of a text of `size` bytes whose first wrong token is at `position`. -/
def faultTree (size position : Nat) : Node :=
  .node { kind := kindNamed "compilation_unit", start := 0, stop := size }
    [.node { kind := .fault, start := position, stop := size } []]

/-- Enough for every reading of `count` tokens: between two tokens the rules nest to a depth
that does not depend on the text. -/
def fuelFor (count : Nat) : Nat := 1000 * (count + 1)

/-- The node of a note. -/
def noteNode (t : Token) : Node :=
  .node { kind := kindNamed ("preproc_" ++ t.text), start := t.start, stop := t.stop } []

mutual

/-- The tree with `x` in the innermost node around it. -/
def addNote (x : Node) : Node → Node
  | .node l cs => .node l (addNoteAmong x cs)

/-- The trees with `x` inside the one around it, or else between two of them. -/
def addNoteAmong (x : Node) : List Node → List Node
  | [] => [x]
  | c :: cs =>
    if x.stop ≤ c.start then x :: c :: cs
    else if x.stop ≤ c.stop then addNote x c :: cs
    else c :: addNoteAmong x cs

end

/-- The tree of the text of `size` bytes that the tokens `ts` were read from. -/
def treeOfTokens (size : Nat) (ts : List Token) : Node :=
  match Pattern.run grammar (fuelFor ts.length) compilationUnit ⟨ts, 0, [], none, 0⟩ with
  | .read r =>
    match r.rest, r.nodes with
    | [], [tree] => tree
    | _, _ => faultTree size (max r.reach r.here)
  | .refused reach => faultTree size reach

/-- The syntax tree of a source text. -/
def parse (code : String) : Node :=
  let (notes, read) := (tokens code).partition (·.kind == .note)
  notes.foldl (fun tree t => addNote (noteNode t) tree) (treeOfTokens code.utf8ByteSize read)

end FixtureDraft.Grammar
