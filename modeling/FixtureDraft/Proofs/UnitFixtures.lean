import FixtureDraft.Proofs.Parts
import FixtureDraft.Proofs.TestNames

/-!
# Fixtures of a unit

A unit whose parts are joined has one fixture for each group of classes that qualifies, in the
order of the groups. Its tests call the public methods of all members of the group, one test a
method, in the stable order by name: `draftFiles_mergeParts`.
-/

namespace FixtureDraft

/-! ## The order of methods -/

/-- `sorted` holds the methods of `methods` in rising order of their names, and methods of one name
in the order in which they stand there. -/
def IsSortedByName (sorted methods : List Method) : Prop :=
  sorted.Pairwise (fun m n => m.name ≤ n.name)
    ∧ ∀ name, sorted.filter (·.name == name) = methods.filter (·.name == name)

lemma nameLE_trans (l m n : Method) (hlm : l.nameLE m = true) (hmn : m.nameLE n = true) :
    l.nameLE n = true := by
  simp only [Method.nameLE, decide_eq_true_eq] at hlm hmn ⊢
  exact String.le_trans hlm hmn

lemma nameLE_total (m n : Method) : (m.nameLE n || n.nameLE m) = true := by
  simp only [Method.nameLE, Bool.or_eq_true, decide_eq_true_eq]
  exact String.le_total m.name n.name

/-- Sorting keeps the order of methods of one name: as they stand they are sorted already, so they
are a sublist of the sorted methods. -/
lemma filter_mergeSort_nameLE (methods : List Method) (name : String) :
    (methods.mergeSort Method.nameLE).filter (·.name == name)
      = methods.filter (·.name == name) := by
  have hsorted : (methods.filter (·.name == name)).Pairwise fun m n => m.nameLE n := by
    refine List.Pairwise.imp_of_mem ?_ (List.pairwise_of_forall fun _ _ => trivial)
    intro m n hm hn _
    have hm' : m.name = name := by simpa using (List.mem_filter.mp hm).2
    have hn' : n.name = name := by simpa using (List.mem_filter.mp hn).2
    simp [Method.nameLE, hm', hn']
  have hsub := List.sublist_mergeSort nameLE_trans nameLE_total hsorted List.filter_sublist
  have hfilter := hsub.filter (·.name == name)
  simp only [List.filter_filter, Bool.and_self] at hfilter
  have hlength := ((List.mergeSort_perm methods Method.nameLE).filter (·.name == name)).length_eq
  exact (hfilter.eq_of_length hlength.symm).symm

/-- The public methods of a class are sorted by name. -/
lemma isSortedByName_publicMethods (c : ClassDeclaration) :
    IsSortedByName c.publicMethods (c.methods.filter Method.isPublic) := by
  refine ⟨?_, filter_mergeSort_nameLE _⟩
  refine (List.pairwise_mergeSort nameLE_trans nameLE_total _).imp ?_
  intro m n h
  simpa [Method.nameLE] using h

/-! ## Tests and the methods they call -/

/-- The test calls `m` on `receiver` and keeps what the method returns, if it returns anything. It
first declares a local for each parameter, of the parameter's type, and passes the locals on in
order, each in the way in which the parameter is passed. -/
def FixtureMethod.Calls (t : FixtureMethod) (receiver : String) (m : Method) : Prop :=
  ∃ locals : List Parameter,
    locals.map (fun p => (p.type, p.passing)) = m.parameters.map (fun p => (p.type, p.passing))
      ∧ locals.map (fun p => p.type ++ " " ++ p.name ++ " = default;") <+: t.statements
      ∧ (if m.isVoid then "" else "var actual = ")
        ++ (receiver ++ "." ++ m.name ++ "("
          ++ ", ".intercalate (locals.map fun p => Passing.spelled p.passing p.name) ++ ")" ++ ";")
        ∈ t.statements

/-- Renaming leaves the types of parameters and how they are passed. -/
lemma map_type_renameReserved (reserved : List String) (ps : List Parameter)
    (taken : List String) :
    (renameReserved reserved ps taken).map (fun p => (p.type, p.passing))
      = ps.map (fun p => (p.type, p.passing)) := by
  induction ps generalizing taken with
  | nil => rfl
  | cons p ps ih =>
    rw [renameReserved]
    split
    · rw [List.map_cons, List.map_cons]
      exact congrArg (List.cons (p.type, p.passing)) (ih _)
    · rw [List.map_cons, List.map_cons, ih]

/-- The test drafted for a method calls it: on the class if it is static, else on the field that
holds the instance. -/
lemma calls_draftTest (s : SetupPlan) (name : String) (m : Method) :
    (draftTest s name m).Calls (if m.isStatic then s.className else s.subject) m := by
  set receiver := if m.isStatic then s.className else s.subject with hreceiver
  have hpassed : (fun p : Parameter => Passing.spelled p.passing p.name) = Parameter.argument := by
    rw [Passing.spelled_eq_argument]
    rfl
  refine ⟨testLocals receiver m, map_type_renameReserved _ _ _, ?_, ?_⟩
  · rw [draftTest, ← hreceiver]
    simp only [testBody]
    rw [List.append_assoc]
    exact List.prefix_append _ _
  · rw [draftTest, ← hreceiver, hpassed]
    simp only [testBody]
    refine List.mem_append_left _ (List.mem_append_right _ ?_)
    by_cases hvoid : m.isVoid = true
    · rw [if_pos hvoid, if_pos hvoid, String.empty_append]
      exact List.mem_singleton_self _
    · rw [if_neg hvoid, if_neg hvoid, ← String.append_assoc]
      exact List.mem_cons_self ..

/-- Drafting a test for each method keeps their order. -/
lemma forall₂_zipWith_draftTest (s : SetupPlan) (names : List String) (methods : List Method)
    (h : names.length = methods.length) :
    List.Forall₂ (fun m t => FixtureMethod.Calls t (if m.isStatic then s.className else s.subject) m)
      methods (names.zipWith (draftTest s) methods) := by
  induction methods generalizing names with
  | nil => rw [List.zipWith_nil_right]; exact .nil
  | cons m methods ih =>
    cases names with
    | nil => cases h
    | cons name names =>
      rw [List.zipWith_cons_cons]
      exact .cons (calls_draftTest s name m) (ih names (by simpa using h))

/-! ## Groups and their fixtures -/

/-- `f` is the fixture file of the group: it is named for the class, and its tests are in the order
of the sorted public methods of all members, each test calling the method that it stands for. -/
structure ClassGroup.HasFixture (g : ClassGroup) (f : FixtureFile) : Prop where
  name : f.fixture.name = g.first.name ++ "Tests"
  namespaces : f.namespaces = fixtureNamespaces g.first.namespaces
  tests : ∃ methods subject, IsSortedByName methods g.publicMethods
    ∧ ⟨g.first.name, subject⟩ ∈ f.fixture.fields
    ∧ List.Forall₂
        (fun m t => FixtureMethod.Calls t (if m.isStatic then g.first.name else subject) m)
        methods f.fixture.tests

/-- The file drafted for a joined class is the fixture file of its group. -/
lemma hasFixture_draftFile (rule : MockRule) (usings : List String) (g : ClassGroup) :
    g.HasFixture (draftFile rule usings g.joined) where
  name := by
    rw [← g.joined_name]
    rfl
  namespaces := by
    rw [← g.joined_namespaces]
    rfl
  tests := by
    refine ⟨g.joined.publicMethods, (SetupPlan.ofClass rule g.joined).subject, ?_, ?_, ?_⟩
    · rw [ClassGroup.publicMethods, ← g.joined_methods]
      exact isSortedByName_publicMethods g.joined
    · rw [← g.joined_name]
      exact List.mem_append_right _ (List.mem_singleton_self _)
    · rw [← g.joined_name]
      exact forall₂_zipWith_draftTest (SetupPlan.ofClass rule g.joined) _ _ (by simp)

/-- A unit with joined parts has one file for each group that qualifies. -/
lemma draftFiles_eq_map_joined (rule : MockRule) (usings : List String)
    (classes : List ClassDeclaration) :
    draftFiles rule { usings, classes := mergeParts classes }
      = ((groups classes).filter ClassGroup.qualifies).map
          fun g => draftFile rule usings g.joined := by
  have hqualifies : ClassDeclaration.qualifies ∘ ClassGroup.joined = ClassGroup.qualifies :=
    funext ClassGroup.joined_qualifies
  rw [draftFiles, SourceUnit.qualifying, mergeParts_eq_map_joined, List.filter_map, hqualifies,
    List.map_map]
  rfl

/-- The groups that qualify and the files drafted for a unit with joined parts correspond to each
other in order, each file being the fixture file of its group. -/
theorem draftFiles_mergeParts (rule : MockRule) (usings : List String)
    (classes : List ClassDeclaration) :
    IsGrouping (groups classes) classes
      ∧ List.Forall₂ ClassGroup.HasFixture ((groups classes).filter ClassGroup.qualifies)
          (draftFiles rule { usings, classes := mergeParts classes }) := by
  refine ⟨isGrouping_groups classes, ?_⟩
  rw [draftFiles_eq_map_joined, List.forall₂_map_right_iff]
  exact List.forall₂_same.mpr fun g _ => hasFixture_draftFile rule usings g

end FixtureDraft
