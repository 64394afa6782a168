import FixtureDraft.Text.Printable

/-!
# Quoted texts

A text shown between quotes on one line. Single quotes are taken unless the text holds one and
holds no double quote. The quote taken, the backslash and every unprintable character are
written as escapes.
-/

namespace FixtureDraft.Text

/-- The last `width` hexadecimal digits of `n`, in lower case. -/
def hexDigits : (width : Nat) → Nat → List Char
  | 0, _ => []
  | w + 1, n => hexDigits w (n / 16) ++ [Nat.digitChar (n % 16)]

/-- The shortest of the escapes by number that has room for `c`. -/
def escapeByNumber (c : Char) : List Char :=
  if c.toNat < 0x100 then '\\' :: 'x' :: hexDigits 2 c.toNat
  else if c.toNat < 0x10000 then '\\' :: 'u' :: hexDigits 4 c.toNat
  else '\\' :: 'U' :: hexDigits 8 c.toNat

/-- How `c` is written between two marks `mark`. -/
def quoteChar (mark c : Char) : List Char :=
  if c = mark || c = '\\' then ['\\', c]
  else if c = '\n' then ['\\', 'n']
  else if c = '\r' then ['\\', 'r']
  else if c = '\t' then ['\\', 't']
  else if isPrintable c then [c]
  else escapeByNumber c

/-- The quotation mark taken for a text. -/
def quoteMark (cs : List Char) : Char :=
  if cs.contains '\'' && !cs.contains '"' then '"' else '\''

/-- `s` between quotes. -/
def quote (s : String) : String :=
  let cs := s.toList
  String.ofList (quoteMark cs :: cs.flatMap (quoteChar (quoteMark cs)) ++ [quoteMark cs])

theorem length_hexDigits (w n : Nat) : (hexDigits w n).length = w := by
  induction w generalizing n with
  | zero => rfl
  | succ w ih => simp [hexDigits, ih]

/-- A quoted text never breaks the line. -/
theorem not_newline_mem_quoteChar (mark c : Char) (hm : mark ≠ '\n') :
    '\n' ∉ quoteChar mark c := by
  have digit : ∀ w n, '\n' ∉ hexDigits w n := by
    intro w
    induction w with
    | zero => simp [hexDigits]
    | succ w ih =>
      intro n
      have hn : '\n' ≠ Nat.digitChar (n % 16) := by
        have : n % 16 < 16 := Nat.mod_lt _ (by decide)
        generalize n % 16 = k at this
        revert k
        decide
      simp [hexDigits, ih, hn]
  unfold quoteChar escapeByNumber
  repeat' split
  all_goals simp_all
  all_goals grind

end FixtureDraft.Text
