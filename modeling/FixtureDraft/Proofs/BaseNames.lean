import FixtureDraft.Mocking
import Mathlib

/-!
# How the name of a type is read off its text

First all that stands in angle brackets is left out, then the blanks around the rest and the
question marks behind it, and then all up to the last `::` and up to the last point. Each step is
described here by what it does to a text that is put together from others.
-/

namespace FixtureDraft

open FixtureDraft.Text

/-! ## Angle brackets -/

/-- Texts in which every angle bracket has its partner. -/
inductive Balanced : List Char → Prop
  | nil : Balanced []
  | char {c : Char} {cs : List Char} (hopen : c ≠ '<') (hclose : c ≠ '>') (hcs : Balanced cs) :
      Balanced (c :: cs)
  | angles {inner cs : List Char} (hinner : Balanced inner) (hcs : Balanced cs) :
      Balanced ('<' :: inner ++ '>' :: cs)

namespace Balanced

lemma append {xs ys : List Char} (hxs : Balanced xs) (hys : Balanced ys) :
    Balanced (xs ++ ys) := by
  induction hxs with
  | nil => exact hys
  | char hopen hclose _ ih => exact .char hopen hclose ih
  | angles hinner _ _ ih =>
    rw [List.append_assoc, List.cons_append]
    exact .angles hinner ih

lemma flatMap {α : Type} {f : α → List Char} {xs : List α} (h : ∀ x ∈ xs, Balanced (f x)) :
    Balanced (xs.flatMap f) := by
  induction xs with
  | nil => exact .nil
  | cons x xs ih =>
    rw [List.flatMap_cons]
    exact (h x (List.mem_cons_self ..)).append (ih fun y hy => h y (List.mem_cons_of_mem _ hy))

end Balanced

/-- The angle brackets. -/
def angleChars : List Char := ['<', '>']

lemma Balanced.of_disjoint {cs : List Char} (h : cs.Disjoint angleChars) : Balanced cs := by
  induction cs with
  | nil => exact .nil
  | cons c cs ih =>
    obtain ⟨hc, hcs⟩ := List.disjoint_cons_left.mp h
    exact .char (fun heq => hc (by simp [heq, angleChars]))
      (fun heq => hc (by simp [heq, angleChars])) (ih hcs)

lemma outsideAngles_cons {c : Char} (hopen : c ≠ '<') (hclose : c ≠ '>') (depth : ℤ)
    (cs : List Char) :
    outsideAngles depth (c :: cs)
      = if depth = 0 then c :: outsideAngles depth cs else outsideAngles depth cs := by
  rw [outsideAngles]
  · exact hopen
  · exact hclose

/-- Inside of brackets nothing of a balanced text is kept, and it leaves the depth as it was. -/
lemma outsideAngles_hidden {xs : List Char} (hxs : Balanced xs) {depth : ℤ} (hdepth : 0 < depth)
    (ys : List Char) : outsideAngles depth (xs ++ ys) = outsideAngles depth ys := by
  induction hxs generalizing depth ys with
  | nil => rfl
  | char hopen hclose _ ih =>
    rw [List.cons_append, outsideAngles_cons hopen hclose, if_neg (by omega), ih hdepth]
  | angles _ _ hinner hcs =>
    -- one level deeper and back
    rw [List.append_assoc, List.cons_append, outsideAngles, hinner (by omega), List.cons_append,
      outsideAngles, Int.add_sub_cancel, hcs hdepth]

/-- What is read of a text outside of all brackets. -/
def shown (cs : List Char) : List Char := outsideAngles 0 cs

lemma shown_append {xs : List Char} (hxs : Balanced xs) (ys : List Char) :
    shown (xs ++ ys) = shown xs ++ shown ys := by
  induction hxs with
  | nil => rfl
  | char hopen hclose _ ih =>
    rw [shown, List.cons_append, outsideAngles_cons hopen hclose, if_pos rfl, shown,
      outsideAngles_cons hopen hclose, if_pos rfl, List.cons_append]
    exact congrArg _ ih
  | angles hinner _ _ ih =>
    rw [List.append_assoc, shown, List.cons_append, outsideAngles,
      outsideAngles_hidden hinner (by decide), shown, List.cons_append, List.cons_append,
      outsideAngles, outsideAngles, outsideAngles_hidden hinner (by decide), outsideAngles]
    exact ih

lemma shown_of_disjoint {cs : List Char} (h : cs.Disjoint angleChars) : shown cs = cs := by
  induction cs with
  | nil => rfl
  | cons c cs ih =>
    obtain ⟨hc, hcs⟩ := List.disjoint_cons_left.mp h
    rw [shown, outsideAngles_cons (fun heq => hc (by simp [heq, angleChars]))
      (fun heq => hc (by simp [heq, angleChars])), if_pos rfl]
    exact congrArg _ (ih hcs)

lemma shown_flatMap {α : Type} {f : α → List Char} {xs : List α} (h : ∀ x ∈ xs, Balanced (f x)) :
    shown (xs.flatMap f) = xs.flatMap fun x => shown (f x) := by
  induction xs with
  | nil => rfl
  | cons x xs ih =>
    rw [List.flatMap_cons, List.flatMap_cons, shown_append (h x (List.mem_cons_self ..)),
      ih fun y hy => h y (List.mem_cons_of_mem _ hy)]

/-- A balanced text in brackets is not read. -/
lemma shown_angles {inner : List Char} (h : Balanced inner) :
    shown ('<' :: inner ++ ['>']) = [] := by
  rw [shown, List.cons_append, outsideAngles, outsideAngles_hidden h (by decide)]
  rfl

/-! ## Ends -/

lemma trim_eq_self {cs : List Char} (hhead : ∀ c, cs.head? = some c → isBlank c = false)
    (hlast : ∀ c, cs.getLast? = some c → isBlank c = false) : trim cs = cs := by
  have hstart : ∀ ds : List Char, (∀ c, ds.head? = some c → isBlank c = false) →
      trimStart ds = ds := by
    intro ds hds
    cases ds with
    | nil => rfl
    | cons c cs => exact List.dropWhile_cons_of_neg (by simp [hds c rfl])
  rw [trim, hstart cs hhead, trimEnd, hstart cs.reverse fun c hc => hlast c (by simpa using hc),
    List.reverse_reverse]

/-- Question marks at the end are left out, and nothing before them. -/
lemma dropQuestionMarks {cs marks : List Char} (hlast : cs.getLast? ≠ some '?')
    (hmarks : ∀ c ∈ marks, c = '?') :
    ((cs ++ marks).reverse.dropWhile (· == '?')).reverse = cs := by
  rw [List.reverse_append, List.dropWhile_append_of_pos (by simpa using hmarks)]
  rw [← List.head?_reverse] at hlast
  cases hcs : cs.reverse with
  | nil => exact (List.reverse_eq_nil_iff.mp hcs).symm
  | cons c ds =>
    rw [hcs] at hlast
    rw [List.dropWhile_cons_of_neg (by simpa using hlast), ← hcs, List.reverse_reverse]

/-! ## Qualification -/

/-- What stands between the names of a qualified name. -/
inductive Joint
  | point
  | colons
deriving DecidableEq

/-- The text of it. -/
def Joint.chars : Joint → List Char
  | point => ['.']
  | colons => [':', ':']

/-- The characters of joints. -/
def jointChars : List Char := ['.', ':']

/-- What follows the last qualification. -/
def unqualified (cs : List Char) : List Char := afterPoint (afterAlias cs)

lemma baseTypeName_ofList (cs : List Char) :
    baseTypeName (String.ofList cs)
      = String.ofList
          (unqualified ((trim (shown cs)).reverse.dropWhile (· == '?')).reverse) := by
  rw [baseTypeName, String.toList_ofList]
  rfl

/-- Of what is read of a type that has no blanks at its ends, the question marks at its end and the
qualification are left out. -/
lemma baseTypeName_of_shown {cs body marks : List Char} {c d : Char}
    (hshown : shown cs = body ++ marks) (hmarks : ∀ m ∈ marks, m = '?')
    (hhead : body.head? = some c) (hc : isBlank c = false)
    (hlast : body.getLast? = some d) (hd : isBlank d = false) (hmark : d ≠ '?') :
    baseTypeName (String.ofList cs) = String.ofList (unqualified body) := by
  have htrim : trim (shown cs) = shown cs := by
    rw [hshown]
    refine trim_eq_self (fun e he => ?_) fun e he => ?_
    · rw [List.head?_append, hhead] at he
      obtain rfl : c = e := by simpa using he
      exact hc
    · rw [List.getLast?_append, hlast] at he
      cases hend : marks.getLast? with
      | none =>
        obtain rfl : d = e := by simpa [hend] using he
        exact hd
      | some m =>
        obtain rfl : m = e := by simpa [hend] using he
        rw [hmarks m (List.mem_of_getLast? hend)]
        decide
  have hbody : body.getLast? ≠ some '?' := by
    rw [hlast]
    simpa using hmark
  rw [baseTypeName_ofList, htrim, hshown, dropQuestionMarks hbody hmarks]

lemma beforeColons_append {xs : List Char} (hxs : ':' ∉ xs) (ys : List Char) :
    beforeColons (xs ++ ys) = xs ++ beforeColons ys := by
  induction xs with
  | nil => rfl
  | cons x xs ih =>
    have hx : x ≠ ':' := fun h => hxs (h ▸ List.mem_cons_self ..)
    rw [List.cons_append, beforeColons]
    · rw [ih fun h => hxs (List.mem_cons_of_mem _ h), List.cons_append]
    · rintro _ rfl
      exact absurd rfl hx

lemma afterAlias_append (xs : List Char) {ys : List Char} (hys : ':' ∉ ys) :
    afterAlias (xs ++ ys) = afterAlias xs ++ ys := by
  rw [afterAlias, List.reverse_append, beforeColons_append (by rwa [List.mem_reverse]),
    List.reverse_append, List.reverse_reverse, afterAlias]

lemma afterPoint_append (xs : List Char) {ys : List Char} (hys : '.' ∉ ys) :
    afterPoint (xs ++ ys) = afterPoint xs ++ ys := by
  have hall : ∀ c ∈ ys.reverse, (c != '.') = true := by
    intro c hc
    simpa using fun heq : c = '.' => hys (heq ▸ List.mem_reverse.mp hc)
  rw [afterPoint, List.reverse_append, List.takeWhile_append_of_pos hall, List.reverse_append,
    List.reverse_reverse, afterPoint]

lemma afterPoint_point (xs : List Char) : afterPoint (xs ++ ['.']) = [] := by
  rw [afterPoint, List.reverse_append]
  rfl

lemma afterPoint_behind (xs : List Char) {ys : List Char} (hys : '.' ∉ ys) :
    afterPoint (xs ++ '.' :: ys) = ys := by
  rw [List.append_cons, afterPoint_append _ hys, afterPoint_point, List.nil_append]

/-- A text without qualification is kept at the end of whatever it follows. -/
lemma unqualified_append (xs : List Char) {ys : List Char} (hys : ys.Disjoint jointChars) :
    unqualified (xs ++ ys) = unqualified xs ++ ys := by
  rw [unqualified, afterAlias_append _ fun h => hys h (by decide),
    afterPoint_append _ fun h => hys h (by decide), unqualified]

/-- Nothing is left of a text that ends in a joint. -/
lemma unqualified_joint (xs : List Char) (j : Joint) : unqualified (xs ++ j.chars) = [] := by
  cases j with
  | point =>
    rw [unqualified, Joint.chars, afterAlias_append _ (by decide)]
    exact afterPoint_point _
  | colons =>
    rw [unqualified, Joint.chars, afterAlias, List.reverse_append]
    rfl

/-- What follows the last joint is the unqualified name. -/
lemma unqualified_behind (xs : List Char) (j : Joint) {ys : List Char}
    (hys : ys.Disjoint jointChars) :
    unqualified (xs ++ j.chars ++ ys) = ys := by
  rw [unqualified_append _ hys, unqualified_joint, List.nil_append]

end FixtureDraft
