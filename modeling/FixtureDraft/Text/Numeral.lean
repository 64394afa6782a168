import FixtureDraft.Text.Blank
import FixtureDraft.Text.Digits

/-!
# Integers in text

Reading an integer: padding around it, one sign, decimal digits of any script, and single
underscores between digits. Writing one with its digits in groups of three.
-/

namespace FixtureDraft.Text

/-- The longest numeral that is read, in digits. -/
def maxDigits : Nat := 4300

/-- Reads on behind a digit: `value` and `count` are those of the digits so far. -/
def digitsFrom (value count : Nat) : List Char → Option (Nat × Nat)
  | [] => some (value, count)
  | '_' :: c :: cs => do
    let d ← digitValue? c
    digitsFrom (value * 10 + d) (count + 1) cs
  | c :: cs => do
    let d ← digitValue? c
    digitsFrom (value * 10 + d) (count + 1) cs

/-- The value of an unsigned numeral. -/
def natural? (cs : List Char) : Option Nat := do
  let c :: cs := cs | none
  let d ← digitValue? c
  let (value, count) ← digitsFrom d 1 cs
  if count ≤ maxDigits then some value else none

/-- Whether `c` may stand around a numeral: a blank, but no information separator. -/
def isPadding (c : Char) : Bool :=
  isBlank c && !(0x1c ≤ c.toNat && c.toNat ≤ 0x1f)

/-- A numeral without the padding around it. -/
def withoutPadding (cs : List Char) : List Char :=
  ((cs.dropWhile isPadding).reverse.dropWhile isPadding).reverse

/-- The integer written in `s`, padding around it aside. -/
def integer? (s : String) : Option Int :=
  match withoutPadding s.toList with
  | '-' :: cs => (natural? cs).map fun n => -(n : Int)
  | '+' :: cs => (natural? cs).map Int.ofNat
  | cs => (natural? cs).map Int.ofNat

/-- Digits in groups of three, from the last digit on. The digits come and go in reverse. -/
def groupReversed : List Char → List Char
  | a :: b :: c :: d :: cs => a :: b :: c :: ',' :: groupReversed (d :: cs)
  | cs => cs

/-- `n` in decimal with a comma before every third digit from the right. -/
def grouped (n : Nat) : String :=
  String.ofList (groupReversed (toString n).toList.reverse).reverse

/-- The integer `n` in the same way. -/
def groupedInt (n : Int) : String :=
  (if n < 0 then "-" else "") ++ grouped n.natAbs

end FixtureDraft.Text
