import FixtureDraft.Proofs.MockedTypes

/-!
# The last identifier of a type name

A type name is a chain of identifiers with points between them, perhaps behind the alias of a
namespace, and perhaps marked as nullable. Each identifier may have type arguments, and these may be
any text in which the angle brackets are balanced. Nothing in them leaks out: what is read off the
name is the last identifier of its chain (`baseTypeName_eq_last`).
-/

namespace FixtureDraft

open FixtureDraft.Text

/-! ## Type names and their texts -/

/-- An identifier, and the text of its type arguments, if it has any. -/
structure ChainLink where
  name : Identifier
  arguments : Option { cs : List Char // Balanced cs } := none

/-- Type names: the links in front of the last one, and the last one. -/
structure TypeName where
  qualifier : Option Identifier := none
  outer : List ChainLink := []
  last : ChainLink
  nullable : Bool := false

namespace ChainLink

/-- The arguments of a link in their brackets. -/
def argumentChars (l : ChainLink) : List Char :=
  l.arguments.elim [] fun cs => '<' :: cs.val ++ ['>']

/-- The text of a link. -/
def chars (l : ChainLink) : List Char := l.name.chars ++ l.argumentChars

lemma argumentChars_balanced (l : ChainLink) : Balanced l.argumentChars := by
  rw [argumentChars]
  cases l.arguments with
  | none => exact .nil
  | some cs => exact .angles cs.property .nil

lemma balanced (l : ChainLink) : Balanced l.chars :=
  (Balanced.of_disjoint l.name.noAngles).append l.argumentChars_balanced

/-- Only the identifier of a link is read. -/
lemma shown_chars (l : ChainLink) : shown l.chars = l.name.chars := by
  have harguments : shown l.argumentChars = [] := by
    rw [argumentChars]
    cases l.arguments with
    | none => rfl
    | some cs => exact shown_angles cs.property
  rw [chars, shown_append (.of_disjoint l.name.noAngles), shown_of_disjoint l.name.noAngles,
    harguments, List.append_nil]

end ChainLink

namespace TypeName

/-- The alias of a namespace with its colons. -/
def qualifierChars (t : TypeName) : List Char :=
  t.qualifier.elim [] fun n => n.chars ++ Joint.colons.chars

/-- The text of a type name. -/
def chars (t : TypeName) : List Char :=
  t.qualifierChars ++ t.outer.flatMap (fun l => l.chars ++ Joint.point.chars) ++ t.last.chars
    ++ nullableMark t.nullable

/-- The text of a type name. -/
def text (t : TypeName) : String := String.ofList t.chars

/-! ## What is read of them -/

/-- What is read of a type name in front of its last identifier. -/
def front (t : TypeName) : List Char :=
  t.qualifierChars ++ t.outer.flatMap fun l => l.name.chars ++ Joint.point.chars

lemma qualifierChars_noAngles (t : TypeName) : t.qualifierChars.Disjoint angleChars := by
  rw [qualifierChars]
  cases t.qualifier with
  | none => exact List.disjoint_nil_left _
  | some n => exact List.disjoint_append_left.mpr ⟨n.noAngles, Joint.noAngles .colons⟩

/-- The identifiers of a type name are read, and what is between them and behind them. -/
lemma shown_chars (t : TypeName) :
    shown t.chars = t.front ++ t.last.name.chars ++ nullableMark t.nullable := by
  have hpoint : ∀ l : ChainLink, Balanced (l.chars ++ Joint.point.chars) :=
    fun l => l.balanced.append (.of_disjoint (Joint.noAngles .point))
  have hlink : ∀ l : ChainLink,
      shown (l.chars ++ Joint.point.chars) = l.name.chars ++ Joint.point.chars := by
    intro l
    rw [shown_append l.balanced, l.shown_chars, shown_of_disjoint (Joint.noAngles .point)]
  have hqualifier : Balanced t.qualifierChars := .of_disjoint t.qualifierChars_noAngles
  have houter : Balanced (t.outer.flatMap fun l => l.chars ++ Joint.point.chars) :=
    .flatMap fun l _ => hpoint l
  rw [chars, shown_append ((hqualifier.append houter).append t.last.balanced),
    shown_append (hqualifier.append houter), shown_append hqualifier,
    shown_of_disjoint t.qualifierChars_noAngles, shown_flatMap fun l _ => hpoint l,
    t.last.shown_chars, shown_of_disjoint (nullableMark_noAngles t.nullable), front]
  simp only [hlink]

/-- In front of the last identifier there is a joint, if there is anything. -/
lemma front_eq (t : TypeName) : t.front = [] ∨ ∃ cs j, t.front = cs ++ Joint.chars j := by
  -- a point if there are links in front, else the colons behind the alias
  obtain hnil | ⟨outer, l, houter⟩ := List.eq_nil_or_concat t.outer
  · rw [front, hnil, List.flatMap_nil, List.append_nil, qualifierChars]
    cases t.qualifier with
    | none => exact Or.inl rfl
    | some n => exact Or.inr ⟨n.chars, .colons, rfl⟩
  · refine Or.inr ⟨t.qualifierChars
      ++ ((outer.flatMap fun l => l.name.chars ++ Joint.point.chars) ++ l.name.chars), .point, ?_⟩
    rw [front, houter, List.concat_eq_append, List.flatMap_append, List.flatMap_singleton]
    simp only [List.append_assoc]

/-- What follows the last joint is the last identifier. -/
lemma unqualified_front (t : TypeName) :
    unqualified (t.front ++ t.last.name.chars) = t.last.name.chars := by
  have hname : t.last.name.chars.Disjoint jointChars := t.last.name.disjoint jointChars_subset
  obtain hfront | ⟨cs, j, hfront⟩ := t.front_eq
  · rw [hfront]
    exact unqualified_append [] hname
  · rw [hfront]
    exact unqualified_behind cs j hname

/-- A type name is read from its first character on, which is no blank. -/
lemma exists_head (t : TypeName) :
    ∃ c cs, t.front ++ t.last.name.chars = c :: cs ∧ isBlank c = false := by
  have hname : ∀ (n : Identifier) (rest : List Char),
      ∃ c cs, n.chars ++ rest = c :: cs ∧ isBlank c = false := by
    intro n rest
    obtain ⟨c, cs, hn⟩ := List.exists_cons_of_ne_nil n.ne_nil
    exact ⟨c, cs ++ rest, by rw [hn, List.cons_append],
      not_isBlank (n.isName c (by rw [hn]; exact List.mem_cons_self ..))⟩
  -- the first of its identifiers may be the alias, one in front of the last, or the last
  rw [front, qualifierChars]
  cases t.qualifier with
  | some n =>
    rw [Option.elim_some, List.append_assoc, List.append_assoc]
    exact hname n _
  | none =>
    rw [Option.elim_none, List.nil_append]
    cases t.outer with
    | nil => simpa using hname t.last.name []
    | cons l outer =>
      rw [List.flatMap_cons, List.append_assoc, List.append_assoc]
      exact hname l.name _

/-- A type name without its mark is read up to its last character, which is one of a name. -/
lemma exists_last (t : TypeName) :
    ∃ cs c, t.front ++ t.last.name.chars = cs ++ [c] ∧ isNameChar c = true := by
  obtain hnil | ⟨cs, c, hname⟩ := List.eq_nil_or_concat t.last.name.chars
  · exact absurd hnil t.last.name.ne_nil
  · refine ⟨t.front ++ cs, c, ?_, t.last.name.isName c (by rw [hname]; simp)⟩
    rw [hname, List.concat_eq_append, List.append_assoc]

end TypeName

/-- The name that is read off a type name is the last identifier of its chain, whatever its alias,
its other identifiers and all type arguments are. -/
theorem baseTypeName_eq_last (t : TypeName) : baseTypeName t.text = t.last.name.text := by
  obtain ⟨c, cs, hhead, hc⟩ := t.exists_head
  obtain ⟨ds, d, hlast, hd⟩ := t.exists_last
  have hmark : d ≠ '?' := by
    rintro rfl
    exact absurd hd (by decide)
  have hread : baseTypeName t.text
      = String.ofList (unqualified (t.front ++ t.last.name.chars)) :=
    baseTypeName_of_shown t.shown_chars (nullableMark_eq t.nullable) (by rw [hhead]; rfl) hc
      (by rw [hlast, List.getLast?_concat]) (not_isBlank hd) hmark
  rw [hread, t.unqualified_front, Identifier.text]

/-- Points, colons, question marks and brackets in type arguments are no part of the name. -/
example : baseTypeName "global::Data<A.B?>.IStore<(int, C::D<E.F[]>?), ?.>?" = "IStore" := by decide

end FixtureDraft
