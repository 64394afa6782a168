import FixtureDraft.Text.Utf8
import FixtureDraft.Tree.Basic

/-!
# Source texts

The text that a syntax tree was read from. Nodes point into its bytes: `Source.text` is what
a node spans, `Source.line` and `Source.column` say where a byte stands, both from one on.
-/

namespace FixtureDraft.Tree

open FixtureDraft.Text

/-- A source text as bytes. -/
structure Source where
  bytes : Bytes

namespace Source

/-- The source that `code` writes. -/
def ofText (code : String) : Source := ⟨encode code⟩

/-- The text of a node. A node that cuts a character apart shows U+FFFD there. -/
def text (s : Source) (n : Node) : String :=
  decodeLossy ((s.bytes.drop n.start).take (n.stop - n.start))

/-- The line that the byte at `i` stands on. -/
def line (s : Source) (i : Nat) : Nat :=
  (s.bytes.take i).count 10 + 1

/-- The place in its line, in bytes, of the byte at `i`. -/
def column (s : Source) (i : Nat) : Nat :=
  ((s.bytes.take i).reverse.takeWhile (· != 10)).length + 1

theorem line_mono (s : Source) {i j : Nat} (h : i ≤ j) : s.line i ≤ s.line j := by
  have : (s.bytes.take i).Sublist (s.bytes.take j) :=
    (List.take_prefix_take_left h).sublist
  exact Nat.add_le_add_right (this.count_le 10) 1

end Source

end FixtureDraft.Tree
