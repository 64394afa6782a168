import FixtureDraft.Fixture.Draft
import FixtureDraft.Proofs.Parts
import Mathlib

/-!
# Merging as an operation on lists of classes

Joining classes is associative, so it does not matter in how many steps the parts of a class are
put together: merging two lists is merging what each of them merges to. What a list merges to has
one class for each group of parts, in the place of the first part and made of the members of all of
them. So a class may be cut into parts in any way, with other classes between them, and its fixture
stays the same.
-/

namespace FixtureDraft

namespace ClassDeclaration

/-! ## Joining -/

/-- A class is a part of its own class exactly if it may have parts at all. -/
lemma samePart_self (c : ClassDeclaration) : c.samePart c = c.isPart := by
  simp [samePart]

lemma samePart_comm (c d : ClassDeclaration) : c.samePart d = d.samePart c := by
  rw [Bool.eq_iff_iff]
  simp only [samePart, Bool.and_eq_true, beq_iff_eq]
  constructor
  · rintro ⟨⟨⟨hc, hd⟩, hspaces⟩, hname⟩
    exact ⟨⟨⟨hd, hc⟩, hspaces.symm⟩, hname.symm⟩
  · rintro ⟨⟨⟨hd, hc⟩, hspaces⟩, hname⟩
    exact ⟨⟨⟨hc, hd⟩, hspaces.symm⟩, hname.symm⟩

/-- Parts of one class have the same parts. -/
lemma samePart_congr {c d : ClassDeclaration} (h : c.samePart d = true) (e : ClassDeclaration) :
    c.samePart e = d.samePart e := by
  rw [Bool.eq_iff_iff]
  constructor
  · intro hce
    rw [samePart_comm] at h
    exact samePart_trans h hce
  · exact samePart_trans h

/-- The order in which parts are joined matters, but not how they are bracketed. -/
lemma join_assoc (c d e : ClassDeclaration) : (c.join d).join e = c.join (d.join e) := by
  -- a modifier of `e` is new to `c` and `d` joined if it is new to each of them
  have hmodifiers :
      (e.modifiers.filter fun m =>
          !(c.modifiers ++ d.modifiers.filter fun m => !c.modifiers.contains m).contains m)
        = (e.modifiers.filter fun m => !d.modifiers.contains m).filter
            fun m => !c.modifiers.contains m := by
    rw [List.filter_filter]
    refine List.filter_congr fun m _ => ?_
    simp only [List.contains_eq_mem, List.mem_append, List.mem_filter]
    by_cases hc : m ∈ c.modifiers <;> simp [hc]
  simp only [join, List.filter_append, List.append_assoc, hmodifiers]

lemma foldl_join_join (c d : ClassDeclaration) (es : List ClassDeclaration) :
    es.foldl join (c.join d) = c.join (es.foldl join d) := by
  induction es generalizing d with
  | nil => rfl
  | cons e es ih => rw [List.foldl_cons, List.foldl_cons, join_assoc, ih]

/-- Parts that are joined to a class leave it a part of what it was a part of. -/
lemma samePart_foldl_join {c : ClassDeclaration} {ds : List ClassDeclaration}
    (h : ∀ d ∈ ds, c.samePart d = true) : (ds.foldl join c).samePart = c.samePart := by
  induction ds generalizing c with
  | nil => rfl
  | cons d ds ih =>
    have hjoin : (c.join d).samePart = c.samePart :=
      funext (samePart_join (h d (List.mem_cons_self ..)))
    rw [List.foldl_cons, ih, hjoin]
    intro e he
    rw [hjoin]
    exact h e (List.mem_cons_of_mem _ he)

/-- `m` is the class of which `parts` are the parts: it stands for `c`, the first of them, and has
the members of all parts in their order, and the modifiers of all. -/
structure Unites (m c : ClassDeclaration) (parts : List ClassDeclaration) : Prop where
  name : m.name = c.name
  namespaces : m.namespaces = c.namespaces
  nested : m.nested = c.nested
  line : m.line = c.line
  constructors : m.constructors = parts.flatMap (·.constructors)
  methods : m.methods = parts.flatMap (·.methods)
  modifiers : ∀ w, w ∈ m.modifiers ↔ ∃ d ∈ parts, w ∈ d.modifiers

lemma mem_modifiers_join {c d : ClassDeclaration} {w : String} :
    w ∈ (c.join d).modifiers ↔ w ∈ c.modifiers ∨ w ∈ d.modifiers := by
  simp only [join, List.mem_append, List.mem_filter, List.contains_eq_mem]
  by_cases hc : w ∈ c.modifiers <;> simp [hc]

/-- What is left when all parts are joined to the first one. -/
lemma unites_foldl_join (c : ClassDeclaration) (ds : List ClassDeclaration) :
    (ds.foldl join c).Unites c (c :: ds) := by
  induction ds generalizing c with
  | nil => exact ⟨rfl, rfl, rfl, rfl, by simp, by simp, by simp⟩
  | cons d ds ih =>
    have hrest := ih (c.join d)
    refine ⟨hrest.name, hrest.namespaces, hrest.nested, hrest.line, ?_, ?_, fun w => ?_⟩
    · rw [List.foldl_cons, hrest.constructors]
      simp [join]
    · rw [List.foldl_cons, hrest.methods]
      simp [join]
    · rw [List.foldl_cons, hrest.modifiers]
      simp [mem_modifiers_join, or_assoc]

end ClassDeclaration

open ClassDeclaration (join samePart_self samePart_congr samePart_foldl_join foldl_join_join)

/-! ## One class at a time -/

/-- The first class takes up its parts, and the rest is merged without them. -/
lemma mergeParts_cons (c : ClassDeclaration) (cs : List ClassDeclaration) :
    mergeParts (c :: cs) = (cs.filter c.samePart).foldl join c :: mergeParts (c.strangers cs) :=
  foldl_addPart_cons c [] cs

lemma strangers_eq_self {c : ClassDeclaration} {cs : List ClassDeclaration}
    (h : ∀ d ∈ cs, c.samePart d = false) : c.strangers cs = cs :=
  List.filter_eq_self.mpr fun d hd => by simp [h d hd]

/-- Classes that have no parts of one class among them are left as they are. -/
lemma mergeParts_of_pairwise {cs : List ClassDeclaration}
    (h : cs.Pairwise fun c d => c.samePart d = false) : mergeParts cs = cs := by
  induction cs with
  | nil => rfl
  | cons c cs ih =>
    obtain ⟨hc, hcs⟩ := List.pairwise_cons.mp h
    have hnone : cs.filter c.samePart = [] :=
      List.filter_eq_nil_iff.mpr fun d hd => by simp [hc d hd]
    rw [mergeParts_cons, hnone, strangers_eq_self hc, ih hcs]
    rfl

/-- Merging does not mix what a test tells apart, if the test says the same of all parts of a
class. -/
lemma filter_mergeParts {p : ClassDeclaration → Bool}
    (hp : ∀ c d, c.samePart d = true → p c = p d) (cs : List ClassDeclaration) :
    (mergeParts cs).filter p = mergeParts (cs.filter p) := by
  induction cs using groups.induct with
  | case1 => rfl
  | case2 c cs ih =>
    have hparts : ∀ d ∈ cs.filter c.samePart, c.samePart d = true := fun d hd =>
      (List.mem_filter.mp hd).2
    have hjoined : p ((cs.filter c.samePart).foldl join c) = p c := by
      cases hfilter : cs.filter c.samePart with
      | nil => rfl
      | cons d ds =>
        apply hp
        rw [hfilter] at hparts
        rw [samePart_foldl_join hparts, samePart_congr (hparts d (List.mem_cons_self ..)),
          ClassDeclaration.samePart_comm]
        exact hparts d (List.mem_cons_self ..)
    have hstrangers : (c.strangers cs).filter p = c.strangers (cs.filter p) := by
      rw [ClassDeclaration.strangers, ClassDeclaration.strangers, List.filter_filter,
        List.filter_filter]
      exact List.filter_congr fun d _ => Bool.and_comm _ _
    rw [mergeParts_cons]
    by_cases hc : p c = true
    · have hsame : (cs.filter p).filter c.samePart = cs.filter c.samePart := by
        rw [List.filter_filter]
        refine List.filter_congr fun d _ => ?_
        cases hcd : c.samePart d with
        | false => rfl
        | true => rw [← hp c d hcd, hc]; rfl
      rw [List.filter_cons_of_pos (by rw [hjoined, hc]), ih, List.filter_cons_of_pos hc,
        mergeParts_cons, hsame, hstrangers]
    · -- with `c` all its parts fail the test
      have hnone : cs.filter p = c.strangers (cs.filter p) := by
        refine (strangers_eq_self fun d hd => ?_).symm
        by_contra hcd
        apply hc
        rw [hp c d (Bool.eq_true_of_not_eq_false hcd)]
        exact (List.mem_filter.mp hd).2
      rw [List.filter_cons_of_neg (by rw [hjoined]; exact hc), ih, List.filter_cons_of_neg hc,
        hstrangers, ← hnone]

/-- The merged classes are no parts of one another. -/
lemma pairwise_mergeParts (cs : List ClassDeclaration) :
    (mergeParts cs).Pairwise fun c d => c.samePart d = false := by
  induction cs using groups.induct with
  | case1 => exact .nil
  | case2 c cs ih =>
    rw [mergeParts_cons]
    refine List.pairwise_cons.mpr ⟨fun d hd => ?_, ih⟩
    rw [samePart_foldl_join fun e he => (List.mem_filter.mp he).2]
    have hsame : ∀ e f, ClassDeclaration.samePart e f = true →
        (!c.samePart e) = !c.samePart f := fun e f hef => by
      rw [c.samePart_comm e, samePart_congr hef, ClassDeclaration.samePart_comm]
    rw [ClassDeclaration.strangers, ← filter_mergeParts hsame] at hd
    simpa using (List.mem_filter.mp hd).2

/-- What is merged stays as it is. -/
lemma mergeParts_mergeParts (cs : List ClassDeclaration) :
    mergeParts (mergeParts cs) = mergeParts cs :=
  mergeParts_of_pairwise (pairwise_mergeParts cs)

/-! ## Several lists -/

/-- A test for the parts of one class says the same of all parts of a class. -/
lemma samePart_eq_of_samePart (c : ClassDeclaration) {d e : ClassDeclaration}
    (h : d.samePart e = true) : c.samePart d = c.samePart e := by
  rw [c.samePart_comm d, c.samePart_comm e, samePart_congr h]

/-- All parts of one class merge to one class. -/
lemma mergeParts_filter_samePart (c : ClassDeclaration) {d : ClassDeclaration}
    {ds cs : List ClassDeclaration} (h : cs.filter c.samePart = d :: ds) :
    mergeParts (cs.filter c.samePart) = [ds.foldl join d] := by
  have hparts : ∀ e ∈ d :: ds, c.samePart e = true := by
    rw [← h]
    exact fun e he => (List.mem_filter.mp he).2
  have hd := hparts d (List.mem_cons_self ..)
  have htail : ∀ e ∈ ds, d.samePart e = true := by
    intro e he
    rw [← samePart_congr hd]
    exact hparts e (List.mem_cons_of_mem _ he)
  have hnone : d.strangers ds = [] :=
    List.filter_eq_nil_iff.mpr fun e he => by simp [htail e he]
  rw [h, mergeParts_cons, List.filter_eq_self.mpr htail, hnone]
  rfl

/-- Classes are added to merged ones as well after they have been merged themselves. -/
lemma foldl_addPart_mergeParts (merged cs : List ClassDeclaration) :
    (mergeParts cs).foldl (fun merged c => addPart c merged) merged
      = cs.foldl (fun merged c => addPart c merged) merged := by
  induction merged generalizing cs with
  | nil => exact mergeParts_mergeParts cs
  | cons c merged ih =>
    have hstrangers : c.strangers (mergeParts cs) = mergeParts (c.strangers cs) :=
      filter_mergeParts (fun d e h => by rw [samePart_eq_of_samePart c h]) cs
    have hjoined : ((mergeParts cs).filter c.samePart).foldl join c
        = (cs.filter c.samePart).foldl join c := by
      rw [filter_mergeParts (fun d e h => samePart_eq_of_samePart c h)]
      cases hfilter : cs.filter c.samePart with
      | nil => rfl
      | cons d ds =>
        rw [← hfilter, mergeParts_filter_samePart c hfilter, hfilter]
        exact (foldl_join_join c d ds).symm
    rw [foldl_addPart_cons, foldl_addPart_cons, hstrangers, hjoined, ih]

/-- Merging two lists is merging what each of them merges to. -/
lemma mergeParts_append (xs ys : List ClassDeclaration) :
    mergeParts (xs ++ ys) = mergeParts (mergeParts xs ++ mergeParts ys) := by
  have hsplit : ∀ as bs : List ClassDeclaration, mergeParts (as ++ bs)
      = bs.foldl (fun merged c => addPart c merged) (mergeParts as) := fun as bs =>
    List.foldl_append
  rw [hsplit, hsplit, mergeParts_mergeParts, foldl_addPart_mergeParts]

/-! ## Places -/

/-- The classes that no class before them, and none of `before`, has as a part of its own class. -/
def leadersBehind (before : List ClassDeclaration) : List ClassDeclaration → List ClassDeclaration
  | [] => []
  | c :: cs =>
    if before.any (·.samePart c) then leadersBehind (c :: before) cs
    else c :: leadersBehind (c :: before) cs

/-- The classes that stand first among their parts, and all classes that are no parts. -/
def leaders (cs : List ClassDeclaration) : List ClassDeclaration := leadersBehind [] cs

lemma leadersBehind_eq (before cs : List ClassDeclaration) :
    leadersBehind before cs
      = (groups (cs.filter fun c => !before.any (·.samePart c))).map ClassGroup.first := by
  induction cs generalizing before with
  | nil => simp [leadersBehind, groups]
  | cons c cs ih =>
    rw [leadersBehind, ih]
    by_cases hc : before.any (·.samePart c) = true
    · -- the parts of `c` are parts of a class in `before` too
      have hsame : ∀ d, (!(c :: before).any (·.samePart d)) = !before.any (·.samePart d) := by
        intro d
        rw [List.any_cons]
        cases hcd : c.samePart d with
        | false => rfl
        | true =>
          obtain ⟨b, hb, hbc⟩ := List.any_eq_true.mp hc
          have hany : before.any (·.samePart d) = true :=
            List.any_eq_true.mpr ⟨b, hb, ClassDeclaration.samePart_trans hbc hcd⟩
          rw [hany]
          rfl
      rw [if_pos hc, List.filter_cons_of_neg (by simp [hc])]
      simp only [hsame]
    · have hfilter : (cs.filter fun d => !(c :: before).any (·.samePart d))
          = c.strangers (cs.filter fun d => !before.any (·.samePart d)) := by
        rw [ClassDeclaration.strangers, List.filter_filter]
        exact List.filter_congr fun d _ => by rw [List.any_cons, Bool.not_or]
      rw [if_neg hc, List.filter_cons_of_pos (by simpa using hc), groups, List.map_cons, hfilter]

/-- The leaders are the first members of the groups. -/
lemma leaders_eq (cs : List ClassDeclaration) : leaders cs = (groups cs).map ClassGroup.first := by
  rw [leaders, leadersBehind_eq]
  simp

namespace ClassGroup

/-- The members of a group of parts are all parts of the class that its first member is a part
of. -/
lemma members_eq_filter {cs : List ClassDeclaration} {g : ClassGroup} (hg : g ∈ groups cs)
    (hpart : g.first.isPart = true) : g.members = cs.filter g.first.samePart := by
  induction cs using groups.induct with
  | case1 => simp [groups] at hg
  | case2 c cs ih =>
    rw [groups] at hg
    rcases List.mem_cons.mp hg with rfl | hg
    · rw [List.filter_cons_of_pos (by rw [samePart_self]; exact hpart)]
      rfl
    · have hfirst : g.first ∈ c.strangers cs :=
        (isGrouping_groups _).order.subset (List.mem_map_of_mem hg)
      have hc : c.samePart g.first = false := by
        simpa using (List.mem_filter.mp hfirst).2
      rw [ih hg, List.filter_cons_of_neg (by rw [ClassDeclaration.samePart_comm, hc]; decide),
        ClassDeclaration.strangers, List.filter_filter]
      refine List.filter_congr fun d _ => ?_
      cases hd : g.first.samePart d with
      | false => rfl
      | true => rw [← samePart_eq_of_samePart c hd, hc]; rfl

/-- A class that is no part is alone in its group. -/
lemma others_eq_nil {cs : List ClassDeclaration} {g : ClassGroup} (hg : g ∈ groups cs)
    (hpart : g.first.isPart = false) : g.others = [] := by
  refine List.eq_nil_iff_forall_not_mem.mpr fun d hd => ?_
  have hsame := (isGrouping_groups cs).together g hg d hd
  simp [ClassDeclaration.samePart, hpart] at hsame

end ClassGroup

/-- `ms` is what `cs` merges to: nested and non-partial classes stay as they are and where they
are; no two classes of `ms` are parts of one class; and each class stands in the place of the first
of its parts, which it unites. -/
structure IsMerging (ms cs : List ClassDeclaration) : Prop where
  kept : ms.filter (!·.isPart) = cs.filter (!·.isPart)
  apart : ms.Pairwise fun c d => c.samePart d = false
  placed : List.Forall₂
    (fun c m => if c.isPart then m.Unites c (cs.filter c.samePart) else m = c) (leaders cs) ms

lemma isMerging_mergeParts (cs : List ClassDeclaration) : IsMerging (mergeParts cs) cs where
  kept := by
    have hpart : ∀ c d : ClassDeclaration, c.samePart d = true → (!c.isPart) = !d.isPart := by
      intro c d h
      rw [← samePart_self, samePart_congr h, ClassDeclaration.samePart_comm, samePart_congr h,
        samePart_self]
    rw [filter_mergeParts hpart]
    -- classes that are no parts have no parts among them
    refine mergeParts_of_pairwise (List.Pairwise.imp_of_mem ?_ (List.pairwise_of_forall fun _ _ =>
      trivial))
    intro c d hc _ _
    have hno : c.isPart = false := by simpa using (List.mem_filter.mp hc).2
    simp [ClassDeclaration.samePart, hno]
  apart := pairwise_mergeParts cs
  placed := by
    rw [leaders_eq, mergeParts_eq_map_joined, List.forall₂_map_left_iff,
      List.forall₂_map_right_iff]
    refine List.forall₂_same.mpr fun g hg => ?_
    cases hpart : g.first.isPart with
    | true =>
      rw [if_pos rfl, ← g.members_eq_filter hg hpart]
      exact ClassDeclaration.unites_foldl_join _ _
    | false =>
      rw [if_neg (by decide), ClassGroup.joined, g.others_eq_nil hg hpart]
      rfl

/-! ## Cutting a class into parts -/

/-- What a file is drafted from: nothing but the names, the constructors and the methods of its
class. -/
lemma draftFile_congr {c d : ClassDeclaration} (hname : c.name = d.name)
    (hspaces : c.namespaces = d.namespaces) (hconstructors : c.constructors = d.constructors)
    (hmethods : c.methods = d.methods) (rule : MockRule) (usings : List String) :
    draftFile rule usings c = draftFile rule usings d := by
  cases c
  cases d
  simp only at hname hspaces hconstructors hmethods
  subst hname hspaces hconstructors hmethods
  rfl

/-- `cs` and `ds` merge to one class each of which `c` is a part, and these two classes get the same
file. -/
def SameFileFor (c : ClassDeclaration) (cs ds : List ClassDeclaration) : Prop :=
  ∃ m n, (mergeParts cs).filter c.samePart = [m] ∧ (mergeParts ds).filter c.samePart = [n]
    ∧ m.qualifies = n.qualifies
    ∧ ∀ rule usings, draftFile rule usings m = draftFile rule usings n

namespace ClassDeclaration

/-- `parts` are parts of the class that `c` is a part of, and together they are `c`. -/
def IsCutInto (c : ClassDeclaration) (parts : List ClassDeclaration) : Prop :=
  (∀ d ∈ parts, c.samePart d = true) ∧ c.Unites c parts

/-- A class that unites parts gets a fixture exactly if one of them is public, as long as it is not
nested. -/
lemma Unites.qualifies_eq {m n c d : ClassDeclaration} {ps qs : List ClassDeclaration}
    (hm : m.Unites c ps) (hn : n.Unites d qs) (hnested : c.nested = d.nested)
    (hmodifiers : ∀ w, (∃ p ∈ ps, w ∈ p.modifiers) ↔ ∃ q ∈ qs, w ∈ q.modifiers) :
    m.qualifies = n.qualifies := by
  have hpublic : m.isPublic = n.isPublic := by
    rw [Bool.eq_iff_iff, isPublic, isPublic, List.contains_iff_mem, List.contains_iff_mem,
      hm.modifiers, hn.modifiers]
    exact hmodifiers _
  rw [ClassDeclaration.qualifies, ClassDeclaration.qualifies, hpublic, hm.nested, hn.nested,
    hnested]

/-- All parts of a class that stand in a list are united in one class of what it merges to. -/
lemma exists_unites {c d : ClassDeclaration} {cs : List ClassDeclaration}
    (hd : d ∈ cs.filter c.samePart) :
    ∃ m e, (mergeParts cs).filter c.samePart = [m] ∧ c.samePart e = true
      ∧ m.Unites e (cs.filter c.samePart) := by
  cases hfilter : cs.filter c.samePart with
  | nil => rw [hfilter] at hd; cases hd
  | cons e es =>
    refine ⟨es.foldl join e, e, ?_, ?_, unites_foldl_join e es⟩
    · rw [filter_mergeParts fun d e h => samePart_eq_of_samePart c h]
      exact mergeParts_filter_samePart c hfilter
    · have he : e ∈ cs.filter c.samePart := hfilter ▸ List.mem_cons_self ..
      exact (List.mem_filter.mp he).2

/-- The names of a class and of its parts. -/
lemma names_of_samePart {c d : ClassDeclaration} (h : c.samePart d = true) :
    c.name = d.name ∧ c.namespaces = d.namespaces ∧ c.nested = d.nested := by
  simp only [samePart, isPart, Bool.and_eq_true, Bool.not_eq_true', beq_iff_eq] at h
  obtain ⟨⟨⟨⟨-, hc⟩, ⟨-, hd⟩⟩, hspaces⟩, hname⟩ := h
  exact ⟨hname, hspaces, hc.trans hd.symm⟩

end ClassDeclaration

/-- Lists in which the parts of a class have the same members and modifiers all in all have the
same file for it. -/
lemma sameFileFor_of_parts {c d e : ClassDeclaration} {cs ds : List ClassDeclaration}
    (hd : d ∈ cs.filter c.samePart) (he : e ∈ ds.filter c.samePart)
    (hconstructors : (cs.filter c.samePart).flatMap (·.constructors)
      = (ds.filter c.samePart).flatMap (·.constructors))
    (hmethods : (cs.filter c.samePart).flatMap (·.methods)
      = (ds.filter c.samePart).flatMap (·.methods))
    (hmodifiers : ∀ w, (∃ p ∈ cs.filter c.samePart, w ∈ p.modifiers)
      ↔ ∃ q ∈ ds.filter c.samePart, w ∈ q.modifiers) :
    SameFileFor c cs ds := by
  obtain ⟨m, p, hm, hp, hunites⟩ := ClassDeclaration.exists_unites hd
  obtain ⟨n, q, hn, hq, hunites'⟩ := ClassDeclaration.exists_unites he
  obtain ⟨hname, hspaces, hnested⟩ := ClassDeclaration.names_of_samePart hp
  obtain ⟨hname', hspaces', hnested'⟩ := ClassDeclaration.names_of_samePart hq
  refine ⟨m, n, hm, hn, hunites.qualifies_eq hunites' (hnested.symm.trans hnested') hmodifiers, ?_⟩
  apply draftFile_congr
  · rw [hunites.name, hunites'.name, ← hname, hname']
  · rw [hunites.namespaces, hunites'.namespaces, ← hspaces, hspaces']
  · rw [hunites.constructors, hunites'.constructors, hconstructors]
  · rw [hunites.methods, hunites'.methods, hmethods]

/-- A class cut into parts, among which classes of other names may stand, keeps its file. -/
lemma sameFileFor_of_isCutInto {c : ClassDeclaration} {as bs ds parts : List ClassDeclaration}
    (hpart : c.isPart = true) (hcut : c.IsCutInto parts)
    (hds : ds.filter c.samePart = as.filter c.samePart ++ parts ++ bs.filter c.samePart) :
    SameFileFor c (as ++ c :: bs) ds := by
  obtain ⟨hparts, hunites⟩ := hcut
  have hcs : (as ++ c :: bs).filter c.samePart
      = as.filter c.samePart ++ c :: bs.filter c.samePart := by
    rw [List.filter_append, List.filter_cons_of_pos (by rw [samePart_self, hpart])]
  -- `c` is partial, so one of its parts must be, and there is at least one
  obtain ⟨p, hp, -⟩ : ∃ p ∈ parts, "partial" ∈ p.modifiers := by
    rw [← hunites.modifiers, ← List.contains_iff_mem]
    exact (Bool.and_eq_true_iff.mp hpart).1
  have hmem : c ∈ (as ++ c :: bs).filter c.samePart := by
    rw [hcs]
    exact List.mem_append_right _ (List.mem_cons_self ..)
  have hmem' : p ∈ ds.filter c.samePart := by
    rw [hds]
    exact List.mem_append_left _ (List.mem_append_right _ hp)
  apply sameFileFor_of_parts hmem hmem'
  · rw [hcs, hds]
    simp [hunites.constructors]
  · rw [hcs, hds]
    simp [hunites.methods]
  · intro w
    rw [hcs, hds]
    simp only [List.mem_append, List.mem_cons, or_and_right, exists_or, exists_eq_left,
      ← hunites.modifiers w, or_assoc]

/-- Merging is a homomorphism of lists, and what is merged stays as it is. It leaves alone what is
no part and puts one class in the place of the first part of each class, with the members and the
modifiers of all of them. So a class may be cut into parts, with classes of other names among them,
and has the same file as before. -/
theorem merging_is_homomorphic :
    (∀ xs ys, mergeParts (xs ++ ys) = mergeParts (mergeParts xs ++ mergeParts ys))
    ∧ (∀ cs, mergeParts (mergeParts cs) = mergeParts cs)
    ∧ (∀ cs, IsMerging (mergeParts cs) cs)
    ∧ ∀ (c : ClassDeclaration) (as bs ds parts : List ClassDeclaration), c.isPart = true →
        c.IsCutInto parts →
        ds.filter c.samePart = as.filter c.samePart ++ parts ++ bs.filter c.samePart →
        SameFileFor c (as ++ c :: bs) ds :=
  ⟨mergeParts_append, mergeParts_mergeParts, isMerging_mergeParts,
    fun _ _ _ _ _ hpart hcut hds => sameFileFor_of_isCutInto hpart hcut hds⟩

/-- A partial class that is declared in one piece. -/
def wholeClass : ClassDeclaration :=
  { name := "Store"
    constructors := [{ parameters := [{ name := "log", type := "ILog" }], line := 4 }]
    methods := [{ name := "Get", modifiers := ["public"] }, { name := "Put" }]
    modifiers := ["public", "partial"]
    namespaces := ["Shop"]
    line := 3 }

/-- The part of it that has the constructor and the first method. -/
def firstPart : ClassDeclaration :=
  { wholeClass with methods := wholeClass.methods.take 1, modifiers := ["partial"], line := 7 }

/-- The part of it that has the other method. -/
def secondPart : ClassDeclaration :=
  { wholeClass with
    constructors := [], methods := wholeClass.methods.drop 1, modifiers := ["partial", "public"] }

/-- A class of another name. -/
def otherClass : ClassDeclaration :=
  { name := "Log", modifiers := ["partial"], namespaces := ["Shop"] }

theorem merging_is_homomorphic_for_two_parts :
    wholeClass.isPart = true ∧ wholeClass.IsCutInto [firstPart, secondPart]
      ∧ [firstPart, otherClass, secondPart].filter wholeClass.samePart
        = [].filter wholeClass.samePart ++ [firstPart, secondPart]
          ++ [otherClass].filter wholeClass.samePart
      ∧ SameFileFor wholeClass [wholeClass, otherClass] [firstPart, otherClass, secondPart] := by
  have hpart : wholeClass.isPart = true := by decide
  have hcut : wholeClass.IsCutInto [firstPart, secondPart] := by
    refine ⟨by decide, rfl, rfl, rfl, rfl, rfl, rfl, fun w => ?_⟩
    simp only [wholeClass, firstPart, secondPart, List.mem_cons, List.not_mem_nil, or_false,
      exists_eq_or_imp, exists_eq_left]
    tauto
  have hfilter : [firstPart, otherClass, secondPart].filter wholeClass.samePart
      = [].filter wholeClass.samePart ++ [firstPart, secondPart]
        ++ [otherClass].filter wholeClass.samePart := by decide
  exact ⟨hpart, hcut, hfilter,
    merging_is_homomorphic.2.2.2 wholeClass [] [otherClass] _ _ hpart hcut hfilter⟩

end FixtureDraft
