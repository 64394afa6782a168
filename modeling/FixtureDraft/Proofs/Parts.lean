import FixtureDraft.Declaration.Partial
import Mathlib

/-!
# Groups of parts

The parts of one partial class form a group, and every other class is a group by itself. Groups
stand in the order of their first members. `mergeParts_eq_map_joined` says that merging joins each
group into one class; the lemmas after it say what the joined class has from its members.
-/

namespace FixtureDraft

namespace ClassDeclaration

/-- A class keeps its parts when another one joins it. -/
lemma samePart_join {c d : ClassDeclaration} (h : c.samePart d = true) (e : ClassDeclaration) :
    (c.join d).samePart e = c.samePart e := by
  have hpart : c.isPart = true := by
    simp only [samePart, Bool.and_eq_true] at h
    exact h.1.1.1
  have hjoin : (c.join d).isPart = true := by
    simp only [isPart, isPartial, Bool.and_eq_true] at hpart ⊢
    refine ⟨?_, hpart.2⟩
    rw [List.contains_iff_mem] at hpart ⊢
    exact List.mem_append_left _ hpart.1
  rw [samePart, samePart, hjoin, hpart]
  rfl

/-- Parts of a part's class are parts of the same class. -/
lemma samePart_trans {c d e : ClassDeclaration} (hcd : c.samePart d = true)
    (hde : d.samePart e = true) : c.samePart e = true := by
  simp only [samePart, Bool.and_eq_true, beq_iff_eq] at hcd hde ⊢
  obtain ⟨⟨⟨hc, -⟩, hspace⟩, hname⟩ := hcd
  obtain ⟨⟨⟨-, he⟩, hspace'⟩, hname'⟩ := hde
  exact ⟨⟨⟨hc, he⟩, hspace.trans hspace'⟩, hname.trans hname'⟩

/-- One public part makes the joined class public. -/
lemma isPublic_join (c d : ClassDeclaration) :
    (c.join d).isPublic = (c.isPublic || d.isPublic) := by
  rw [Bool.eq_iff_iff, Bool.or_eq_true]
  simp only [isPublic, join, List.contains_iff_mem, List.mem_append, List.mem_filter,
    Bool.not_eq_true']
  constructor
  · rintro (h | ⟨h, -⟩)
    · exact Or.inl h
    · exact Or.inr h
  · rintro (h | h)
    · exact Or.inl h
    · by_cases hc : "public" ∈ c.modifiers
      · exact Or.inl hc
      · exact Or.inr ⟨h, by simpa using hc⟩

end ClassDeclaration

/-! ## Groups -/

/-- Classes that become one class: the first of them, and the others in their order. -/
structure ClassGroup where
  first : ClassDeclaration
  others : List ClassDeclaration

namespace ClassGroup

/-- All classes of the group. -/
def members (g : ClassGroup) : List ClassDeclaration := g.first :: g.others

/-- The class that the group becomes. -/
def joined (g : ClassGroup) : ClassDeclaration := g.others.foldl ClassDeclaration.join g.first

/-- The public methods of all members, in the order in which they are declared. -/
def publicMethods (g : ClassGroup) : List Method :=
  (g.members.flatMap (·.methods)).filter Method.isPublic

/-- Whether the group gets a fixture: it is not nested, and some member is public. -/
def qualifies (g : ClassGroup) : Bool := !g.first.nested && g.members.any (·.isPublic)

end ClassGroup

/-- The classes that are no parts of the class that `c` is a part of. -/
def ClassDeclaration.strangers (c : ClassDeclaration) (cs : List ClassDeclaration) :
    List ClassDeclaration :=
  cs.filter fun d => !c.samePart d

/-- The groups of some classes. All parts of one class are in the group of the first of them; any
other class is alone in its group. -/
def groups : List ClassDeclaration → List ClassGroup
  | [] => []
  | c :: cs => ⟨c, cs.filter c.samePart⟩ :: groups (c.strangers cs)
termination_by cs => cs.length
decreasing_by exact Nat.lt_succ_of_le (List.length_filter_le _ _)

/-- What makes lists of classes the groups of `cs`: every class is in one of them, once; groups and
their members keep the order of the classes; and parts are together exactly if they are parts of
one class. -/
structure IsGrouping (gs : List ClassGroup) (cs : List ClassDeclaration) : Prop where
  perm : (gs.flatMap ClassGroup.members).Perm cs
  order : (gs.map ClassGroup.first).Sublist cs
  members_order : ∀ g ∈ gs, g.members.Sublist cs
  together : ∀ g ∈ gs, ∀ d ∈ g.others, g.first.samePart d = true
  apart : gs.Pairwise fun g h => ∀ c ∈ g.members, ∀ d ∈ h.members, c.samePart d = false

/-- A group put before the groups of the strangers of its first member. -/
lemma IsGrouping.cons {gs : List ClassGroup} {c : ClassDeclaration} {cs : List ClassDeclaration}
    (h : IsGrouping gs (c.strangers cs)) :
    IsGrouping (⟨c, cs.filter c.samePart⟩ :: gs) (c :: cs) where
  perm := by
    rw [List.flatMap_cons, ClassGroup.members, List.cons_append]
    refine List.Perm.cons c ?_
    have hsplit : (cs.filter c.samePart ++ c.strangers cs).Perm cs :=
      List.filter_append_perm _ _
    exact (List.Perm.append_left _ h.perm).trans hsplit
  order := by
    rw [List.map_cons]
    exact (h.order.trans List.filter_sublist).cons_cons c
  members_order := by
    intro g hg
    rcases List.mem_cons.mp hg with rfl | hg
    · exact List.filter_sublist.cons_cons c
    · exact ((h.members_order g hg).trans List.filter_sublist).cons c
  together := by
    intro g hg d hd
    rcases List.mem_cons.mp hg with rfl | hg
    · exact (List.mem_filter.mp hd).2
    · exact h.together g hg d hd
  apart := by
    refine List.pairwise_cons.mpr ⟨fun g hg d hd e he => ?_, h.apart⟩
    -- a part of the new group's class in a later group would be one of its own members
    have hstranger : c.samePart e = false := by
      have hmem := (h.members_order g hg).subset he
      simpa using (List.mem_filter.mp hmem).2
    rcases List.mem_cons.mp hd with rfl | hd
    · exact hstranger
    · by_contra hde
      have hce := ClassDeclaration.samePart_trans (List.mem_filter.mp hd).2
        (Bool.eq_true_of_not_eq_false hde)
      rw [hstranger] at hce
      cases hce

/-- The groups of some classes are their groups. -/
theorem isGrouping_groups (cs : List ClassDeclaration) : IsGrouping (groups cs) cs := by
  induction cs using groups.induct with
  | case1 =>
    rw [groups]
    exact ⟨.nil, .slnil, by simp, by simp, .nil⟩
  | case2 c cs ih =>
    rw [groups]
    exact ih.cons

/-! ## Merging -/

/-- The first of the merged classes takes up its own parts and leaves the rest to the others. -/
lemma foldl_addPart_cons (c : ClassDeclaration) (merged cs : List ClassDeclaration) :
    cs.foldl (fun merged d => addPart d merged) (c :: merged)
      = (cs.filter c.samePart).foldl ClassDeclaration.join c
        :: (c.strangers cs).foldl (fun merged d => addPart d merged) merged := by
  induction cs generalizing c merged with
  | nil => rfl
  | cons d cs ih =>
    rw [List.foldl_cons, addPart]
    by_cases h : c.samePart d = true
    · have hsame : (c.join d).samePart = c.samePart :=
        funext (ClassDeclaration.samePart_join h)
      have hstrangers : c.strangers (d :: cs) = c.strangers cs :=
        List.filter_cons_of_neg (by simp [h])
      rw [if_pos h, ih, hstrangers, List.filter_cons_of_pos h, List.foldl_cons,
        ClassDeclaration.strangers, hsame]
      rfl
    · have hstrangers : c.strangers (d :: cs) = d :: c.strangers cs :=
        List.filter_cons_of_pos (by simp [h])
      rw [if_neg h, ih, hstrangers, List.filter_cons_of_neg h, List.foldl_cons]

/-- Merging makes one class of each group. -/
theorem mergeParts_eq_map_joined (cs : List ClassDeclaration) :
    mergeParts cs = (groups cs).map ClassGroup.joined := by
  induction cs using groups.induct with
  | case1 => simp [groups, mergeParts]
  | case2 c cs ih =>
    rw [mergeParts, List.foldl_cons, addPart, foldl_addPart_cons, groups, List.map_cons, ← ih]
    rfl

/-! ## Joined classes -/

namespace ClassGroup

/-- What joining leaves as it is in the first class. -/
lemma foldl_join_first (c : ClassDeclaration) (ds : List ClassDeclaration) :
    (ds.foldl ClassDeclaration.join c).name = c.name
      ∧ (ds.foldl ClassDeclaration.join c).namespaces = c.namespaces
      ∧ (ds.foldl ClassDeclaration.join c).nested = c.nested := by
  induction ds generalizing c with
  | nil => exact ⟨rfl, rfl, rfl⟩
  | cons d ds ih => exact ih (c.join d)

lemma foldl_join_methods (c : ClassDeclaration) (ds : List ClassDeclaration) :
    (ds.foldl ClassDeclaration.join c).methods = c.methods ++ ds.flatMap (·.methods) := by
  induction ds generalizing c with
  | nil => simp
  | cons d ds ih =>
    rw [List.foldl_cons, ih, List.flatMap_cons, ← List.append_assoc]
    rfl

lemma foldl_join_isPublic (c : ClassDeclaration) (ds : List ClassDeclaration) :
    (ds.foldl ClassDeclaration.join c).isPublic = (c.isPublic || ds.any (·.isPublic)) := by
  induction ds generalizing c with
  | nil => simp
  | cons d ds ih =>
    rw [List.foldl_cons, ih, ClassDeclaration.isPublic_join, List.any_cons, Bool.or_assoc]

@[simp] lemma joined_name (g : ClassGroup) : g.joined.name = g.first.name :=
  (foldl_join_first _ _).1

@[simp] lemma joined_namespaces (g : ClassGroup) : g.joined.namespaces = g.first.namespaces :=
  (foldl_join_first _ _).2.1

@[simp] lemma joined_nested (g : ClassGroup) : g.joined.nested = g.first.nested :=
  (foldl_join_first _ _).2.2

/-- The joined class has the methods of all members, in their order. -/
lemma joined_methods (g : ClassGroup) : g.joined.methods = g.members.flatMap (·.methods) := by
  rw [joined, foldl_join_methods, members, List.flatMap_cons]

/-- The joined class gets a fixture exactly if the group does. -/
lemma joined_qualifies (g : ClassGroup) : g.joined.qualifies = g.qualifies := by
  rw [ClassDeclaration.qualifies, joined_nested, joined, foldl_join_isPublic, qualifies, members,
    List.any_cons, Bool.and_comm]

end ClassGroup

end FixtureDraft
