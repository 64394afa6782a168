import FixtureDraft.Text.Ranges

/-!
# White space

The white-space characters of plain text, and the operations that trim, drop or squash them.
Squashing turns every run of blanks into one space and drops the runs at both ends.
-/

namespace FixtureDraft.Text

/-- The white-space characters: the Unicode class and the four information separators. -/
def blankRanges : List (Nat × Nat) :=
  [(0x09, 0x0d), (0x1c, 0x20), (0x85, 0x85), (0xa0, 0xa0), (0x1680, 0x1680), (0x2000, 0x200a),
   (0x2028, 0x2029), (0x202f, 0x202f), (0x205f, 0x205f), (0x3000, 0x3000)]

/-- Whether `c` is white space. -/
def isBlank (c : Char) : Bool :=
  inRanges blankRanges c

/-- `cs` without the blanks at its start. -/
def trimStart (cs : List Char) : List Char :=
  cs.dropWhile isBlank

/-- `cs` without the blanks at its end. -/
def trimEnd (cs : List Char) : List Char :=
  (trimStart cs.reverse).reverse

/-- `cs` without the blanks at both ends. -/
def trim (cs : List Char) : List Char :=
  trimEnd (trimStart cs)

/-- A text read up to some point by `squash`: what is kept so far, last character first, and
whether a blank followed it. -/
structure Squashed where
  kept : List Char
  gap : Bool

namespace Squashed

/-- Reads one more character. A blank only opens a gap, and only behind a kept character; the
next character closes the gap with one space. -/
def push (s : Squashed) (c : Char) : Squashed :=
  if isBlank c then { s with gap := !s.kept.isEmpty }
  else ⟨c :: (if s.gap then ' ' :: s.kept else s.kept), false⟩

end Squashed

/-- Every run of blanks as one space, and none at the ends. -/
def squash (s : String) : String :=
  String.ofList (s.toList.foldl Squashed.push ⟨[], false⟩).kept.reverse

/-- All characters but the blanks. -/
def withoutBlanks (s : String) : String :=
  String.ofList (s.toList.filter (!isBlank ·))

/-- Whether `s` holds no character but blanks. -/
def isBlankText (s : String) : Bool :=
  s.toList.all isBlank

theorem not_isBlank_of_mem_withoutBlanks {s : String} {c : Char}
    (h : c ∈ (withoutBlanks s).toList) : isBlank c = false := by
  simp only [withoutBlanks, String.toList_ofList, List.mem_filter] at h
  simpa using h.2

end FixtureDraft.Text
