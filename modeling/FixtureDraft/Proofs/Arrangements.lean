import FixtureDraft.Proofs.Occurrences
import FixtureDraft.Proofs.UnitFixtures

/-!
# Arrangements of methods

A class may declare its methods in many orders. What matters for its fixture is only how the public
methods of one name follow each other, since the methods are sorted by name first and a stable sort
is determined by its classes of equal elements. The overloads of one name stand in one run then, so
they are numbered in the order in which they are declared. Main statement:
`draftFixture_of_overloads`.
-/

namespace FixtureDraft

/-! ## Sorted lists and their overloads -/

/-- The public methods of one name, in the order in which they are declared. -/
def ClassDeclaration.overloads (c : ClassDeclaration) (name : String) : List Method :=
  (c.methods.filter Method.isPublic).filter (·.name == name)

/-- No method of a list in rising order comes before its first one. -/
lemma name_le_of_mem {m n : Method} {ms : List Method}
    (hsorted : (m :: ms).Pairwise fun m n => m.name ≤ n.name) (hn : n ∈ m :: ms) :
    m.name ≤ n.name := by
  rcases List.mem_cons.mp hn with rfl | hn
  · exact String.le_refl _
  · exact List.rel_of_pairwise_cons hsorted hn

/-- The overloads of all names hold all methods. -/
lemma mem_of_filter_name_eq {ms ns : List Method}
    (h : ∀ name, ms.filter (·.name == name) = ns.filter (·.name == name)) {m : Method}
    (hm : m ∈ ms) : m ∈ ns := by
  have hfilter : m ∈ ms.filter (·.name == m.name) := List.mem_filter.mpr ⟨hm, beq_self_eq_true _⟩
  rw [h] at hfilter
  exact List.mem_of_mem_filter hfilter

/-- Two lists in rising order are the same if their overloads are the same for each name: a stable
sort leaves no choice. -/
lemma eq_of_filter_name_eq {ms ns : List Method}
    (hms : ms.Pairwise fun m n => m.name ≤ n.name) (hns : ns.Pairwise fun m n => m.name ≤ n.name)
    (h : ∀ name, ms.filter (·.name == name) = ns.filter (·.name == name)) : ms = ns := by
  induction ms generalizing ns with
  | nil =>
    cases ns with
    | nil => rfl
    | cons n ns =>
      have hn : n ∈ [] := mem_of_filter_name_eq (fun k => (h k).symm) List.mem_cons_self
      exact absurd hn List.not_mem_nil
  | cons m ms ih =>
    cases ns with
    | nil =>
      have hm : m ∈ [] := mem_of_filter_name_eq h List.mem_cons_self
      exact absurd hm List.not_mem_nil
    | cons n ns =>
      -- each list holds the first method of the other one, so both of these have the least name
      have hm : m ∈ n :: ns := mem_of_filter_name_eq h List.mem_cons_self
      have hn : n ∈ m :: ms := mem_of_filter_name_eq (fun k => (h k).symm) List.mem_cons_self
      have hname : m.name = n.name :=
        String.le_antisymm (name_le_of_mem hms hn) (name_le_of_mem hns hm)
      have hfirst := h m.name
      rw [List.filter_cons_of_pos (by simp), List.filter_cons_of_pos (by simp [hname])] at hfirst
      obtain rfl : m = n := (List.cons.inj hfirst).1
      have hrest : ∀ name, ms.filter (·.name == name) = ns.filter (·.name == name) := by
        intro name
        have hall := h name
        rw [List.filter_cons, List.filter_cons] at hall
        split at hall
        · exact (List.cons.inj hall).2
        · exact hall
      exact congrArg (List.cons m) (ih hms.tail hns.tail hrest)

/-- In a list in rising order the overloads of a name stand together, between the methods of lesser
names and those of greater names. -/
lemma exists_run_of_sorted {ms : List Method} (hms : ms.Pairwise fun m n => m.name ≤ n.name)
    (name : String) :
    ∃ before after, ms = before ++ (ms.filter (·.name == name) ++ after)
      ∧ (∀ m ∈ before, m.name < name) ∧ ∀ m ∈ after, name < m.name := by
  induction ms with
  | nil => exact ⟨[], [], rfl, by simp, by simp⟩
  | cons m ms ih =>
    obtain ⟨before, after, hsplit, hbefore, hafter⟩ := ih hms.tail
    rcases lt_trichotomy m.name name with hlt | heq | hgt
    · refine ⟨m :: before, after, ?_, ?_, hafter⟩
      · rw [List.filter_cons_of_neg (by simpa using ne_of_lt hlt), List.cons_append, ← hsplit]
      · intro n hn
        rcases List.mem_cons.mp hn with rfl | hn
        · exact hlt
        · exact hbefore n hn
    · -- nothing behind `m` has a lesser name
      have hnone : before = [] := by
        rw [List.eq_nil_iff_forall_not_mem]
        intro n hn
        have hmem : n ∈ m :: ms := by
          rw [hsplit]
          exact List.mem_cons_of_mem _ (List.mem_append_left _ hn)
        exact absurd (hbefore n hn) (not_lt_of_ge (heq ▸ name_le_of_mem hms hmem))
      rw [hnone, List.nil_append] at hsplit
      refine ⟨[], after, ?_, by simp, hafter⟩
      rw [List.filter_cons_of_pos (by simpa using heq), List.nil_append, List.cons_append,
        ← hsplit]
    · have hlater : ∀ n ∈ m :: ms, name < n.name := by
        intro n hn
        exact lt_of_lt_of_le hgt (name_le_of_mem hms hn)
      have hnone : (m :: ms).filter (·.name == name) = [] := by
        rw [List.filter_eq_nil_iff]
        intro n hn
        simpa using ne_of_gt (hlater n hn)
      exact ⟨[], m :: ms, by rw [hnone]; rfl, by simp, hlater⟩

/-! ## Candidates of a run -/

/-- What methods want does not depend on methods of greater names behind them, and the other way
round. -/
lemma candidateNames_append {ms ns : List Method} (h : ∀ m ∈ ms, ∀ n ∈ ns, m.name < n.name) :
    candidateNames ((ms ++ ns).map (·.name))
      = candidateNames (ms.map (·.name)) ++ candidateNames (ns.map (·.name)) := by
  have hchange : ∀ x ∈ (ms.map (·.name)).getLast?, ∀ y ∈ (ns.map (·.name)).head?,
      (x == y) = false := by
    intro x hx y hy
    obtain ⟨m, hm, rfl⟩ := List.mem_map.mp (List.mem_of_mem_getLast? hx)
    obtain ⟨n, hn, rfl⟩ := List.mem_map.mp (List.mem_of_mem_head? hy)
    simpa using ne_of_lt (h m hm n hn)
  rw [candidateNames_eq, candidateNames_eq, candidateNames_eq, List.map_append,
    List.splitBy_append hchange, List.flatMap_append]

/-- Several methods of one name want their places among each other. -/
lemma candidateNames_overloads {ms : List Method} {name : String} (hms : ∀ m ∈ ms, m.name = name)
    (hlength : 2 ≤ ms.length) :
    candidateNames (ms.map (·.name))
      = (List.range ms.length).map fun i => numbered name i ++ "Test" := by
  obtain ⟨k, hk⟩ : ∃ k, ms.length = k + 2 := ⟨ms.length - 2, by omega⟩
  have hnames : ms.map (·.name) = List.replicate (k + 2) name := by
    rw [← hk, ← List.map_const]
    exact List.map_congr_left hms
  have hrun : candidateNames (List.replicate (k + 1 + 1) name ++ [])
      = wantedTestNames (List.replicate (k + 1 + 1) name) ++ candidateNames [] :=
    candidateNames_run (by simp)
  rw [List.append_nil] at hrun
  rw [hnames, hrun, wantedTestNames_replicate, hk]
  exact List.append_nil _

/-- Methods of other names stand beside no candidate of `name`. -/
lemma filter_zip_eq_nil {ms : List Method} {name : String} (hms : ∀ m ∈ ms, m.name ≠ name)
    (candidates : List String) : (ms.zip candidates).filter (·.1.name == name) = [] := by
  rw [List.filter_eq_nil_iff]
  intro x hx
  simpa using hms x.1 (List.of_mem_zip hx).1

lemma length_candidateNames (names : List String) :
    (candidateNames names).length = names.length := List.length_mapIdx

/-- The overloads of a name, of which there are several, want their places among each other, in the
order in which the class declares them. -/
lemma candidates_of_overloads (c : ClassDeclaration) {name : String}
    (hlength : 2 ≤ (c.overloads name).length) :
    (c.publicMethods.zip (candidateNames (c.publicMethods.map (·.name)))).filter
        (·.1.name == name)
      = (c.overloads name).zipIdx.map fun (m, i) => (m, numbered name i ++ "Test") := by
  obtain ⟨hsorted, hfilter⟩ := isSortedByName_publicMethods c
  obtain ⟨before, after, hsplit, hbefore, hafter⟩ := exists_run_of_sorted hsorted name
  rw [hfilter name, ← ClassDeclaration.overloads] at hsplit
  have hrun : ∀ m ∈ c.overloads name, m.name = name := by
    intro m hm
    simpa using (List.mem_filter.mp hm).2
  have hgreater : ∀ m ∈ before, ∀ n ∈ c.overloads name ++ after, m.name < n.name := by
    intro m hm n hn
    rcases List.mem_append.mp hn with hn | hn
    · exact hrun n hn ▸ hbefore m hm
    · exact lt_trans (hbefore m hm) (hafter n hn)
  have hgreater' : ∀ m ∈ c.overloads name, ∀ n ∈ after, m.name < n.name := by
    intro m hm n hn
    exact hrun m hm ▸ hafter n hn
  -- the methods before the run and behind it are paired with candidates of their own
  rw [hsplit, candidateNames_append hgreater, candidateNames_append hgreater',
    candidateNames_overloads hrun hlength,
    List.zip_append (by rw [length_candidateNames, List.length_map]),
    List.zip_append (by rw [List.length_map, List.length_range]), List.filter_append,
    List.filter_append, filter_zip_eq_nil fun m hm => ne_of_lt (hbefore m hm),
    filter_zip_eq_nil fun m hm => ne_of_gt (hafter m hm), List.nil_append, List.append_nil]
  have hall : ∀ x ∈ (c.overloads name).zip ((List.range (c.overloads name).length).map
      fun i => numbered name i ++ "Test"), (x.1.name == name) = true := by
    intro x hx
    simpa using hrun x.1 (List.of_mem_zip hx).1
  rw [List.filter_eq_self.mpr hall]
  refine List.ext_getElem (by simp) fun i hi hi' => ?_
  simp

/-! ## Fixtures of arranged methods -/

/-- The sorted public methods are told by the overloads of each name. -/
lemma publicMethods_congr {c d : ClassDeclaration}
    (h : ∀ name, c.overloads name = d.overloads name) : c.publicMethods = d.publicMethods := by
  obtain ⟨hsorted, hfilter⟩ := isSortedByName_publicMethods c
  obtain ⟨hsorted', hfilter'⟩ := isSortedByName_publicMethods d
  apply eq_of_filter_name_eq hsorted hsorted'
  intro name
  rw [hfilter, hfilter']
  exact h name

/-- Classes that differ in nothing but their methods have one fixture if the overloads of each name
are the same in the same order. The names of the tests are reserved for candidates in the order of
the sorted methods, and of several overloads each has its place among them as its candidate. -/
theorem draftFixture_of_overloads (rule : MockRule) (c : ClassDeclaration) :
    (∀ d : ClassDeclaration, { c with methods := [] } = { d with methods := [] } →
        (∀ name, c.overloads name = d.overloads name) → draftFixture rule c = draftFixture rule d)
      ∧ (draftFixture rule c).tests
        = (reserveAll (candidateNames (c.publicMethods.map (·.name))) []).zipWith
            (draftTest (SetupPlan.ofClass rule c)) c.publicMethods
      ∧ ∀ name, 2 ≤ (c.overloads name).length →
          (c.publicMethods.zip (candidateNames (c.publicMethods.map (·.name)))).filter
              (·.1.name == name)
            = (c.overloads name).zipIdx.map fun (m, i) => (m, numbered name i ++ "Test") := by
  refine ⟨?_, ?_, fun name hlength => candidates_of_overloads c hlength⟩
  · intro d hrest hsame
    have hname : c.name = d.name := (ClassDeclaration.mk.inj hrest).1
    have hsetup : SetupPlan.ofClass rule c = SetupPlan.ofClass rule d := by
      show SetupPlan.ofClass rule { c with methods := [] } = SetupPlan.ofClass rule d
      rw [hrest]
      rfl
    rw [draftFixture, draftFixture, hname, hsetup, publicMethods_congr hsame]
  · rw [candidateNames_eq]
    rfl

/-- Two overloads `Get` and a method `Put`, once with `Put` and a private `Get` between the two and
once with `Put` in front: the fixture is the same, and the overloads want the places 0 and 1. -/
theorem draftFixture_of_overloads_for_moved_method :
    let byName : Method :=
      { name := "Get", parameters := [⟨"name", "string", none⟩], modifiers := ["public"] }
    let byNumber : Method :=
      { name := "Get", parameters := [⟨"number", "int", none⟩], modifiers := ["public"] }
    let put : Method := { name := "Put", modifiers := ["public"] }
    let c : ClassDeclaration :=
      { name := "A", methods := [byNumber, put, { name := "Get" }, byName] }
    let d : ClassDeclaration := { name := "A", methods := [put, byNumber, byName] }
    draftFixture MockRule.usual c = draftFixture MockRule.usual d
      ∧ (c.publicMethods.zip (candidateNames (c.publicMethods.map (·.name)))).filter
          (·.1.name == "Get") = [(byNumber, "Get0Test"), (byName, "Get1Test")] := by
  intro byName byNumber put c d
  have hsame : ∀ name, c.overloads name = d.overloads name := by
    intro name
    have hpublic : c.methods.filter Method.isPublic = [byNumber, put, byName] := by decide +kernel
    have hpublic' : d.methods.filter Method.isPublic = [put, byNumber, byName] := by
      decide +kernel
    rw [ClassDeclaration.overloads, ClassDeclaration.overloads, hpublic, hpublic']
    by_cases hget : "Get" = name
    · subst hget
      decide +kernel
    · simp [List.filter_cons, byNumber, byName, hget]
  have hindices := (draftFixture_of_overloads MockRule.usual c).2.2 "Get" (by decide +kernel)
  refine ⟨(draftFixture_of_overloads MockRule.usual c).1 d rfl hsame, ?_⟩
  rw [hindices]
  decide +kernel

end FixtureDraft
