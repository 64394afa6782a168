import FixtureDraft.Proofs.TestNames

/-!
# Members of a fixture

The fields, the setup method and the tests of a fixture come from three supplies of names. Inside
each supply no two names are equal, and `Setup` is never one of the others. What is left is a field
that is named like a test or like the fixture itself; `memberNames_distinct_iff` says that nothing
else can clash, and that nothing clashes at all where no name of the source begins with an
underscore.
-/

namespace FixtureDraft

/-- The names of all members, in the order in which they are printed. -/
def Fixture.memberNames (f : Fixture) : List String :=
  f.fields.map (·.name) ++ f.setup.name :: f.tests.map (·.name)

/-- Whether a name begins with an underscore. -/
def BeginsWithUnderscore (name : String) : Prop :=
  name.toList.head? = some '_'

instance (name : String) : Decidable (BeginsWithUnderscore name) :=
  inferInstanceAs (Decidable (_ = _))

/-- What is put behind a name leaves its beginning as it is. -/
lemma beginsWithUnderscore_of_prefix {x y : String} (h : BeginsWithUnderscore x)
    (hxy : x.toList <+: y.toList) : BeginsWithUnderscore y := by
  obtain ⟨rest, hrest⟩ := hxy
  unfold BeginsWithUnderscore at h ⊢
  cases hchars : x.toList with
  | nil => rw [hchars] at h; cases h
  | cons c cs => rw [← hrest, hchars]; rw [hchars] at h; exact h

/-- The free name for a name that begins with an underscore does so too. -/
lemma beginsWithUnderscore_freeName {x : String} (hx : BeginsWithUnderscore x)
    (taken : List String) : BeginsWithUnderscore (freeName x taken) :=
  beginsWithUnderscore_of_prefix hx (prefix_freeName x taken)

/-! ## Names of the setup -/

/-- The name wanted for the field of a mock begins with an underscore. -/
lemma beginsWithUnderscore_wantedName {rule : MockRule} {p : Parameter}
    (hmocked : rule p.type = true) : BeginsWithUnderscore (Dependency.wantedName rule p) := by
  rw [Dependency.wantedName, if_pos hmocked, BeginsWithUnderscore, String.toList_append]
  rfl

lemma dependencies_cons (rule : MockRule) (p : Parameter) (ps : List Parameter)
    (taken : List String) :
    dependencies rule (p :: ps) taken =
      let name := freeName (Dependency.wantedName rule p) taken
      (⟨p, name, rule p.type⟩ :: (dependencies rule ps (name :: taken)).1,
        (dependencies rule ps (name :: taken)).2) := rfl

/-- What serves the parameters goes by the names reserved for them. -/
lemma map_name_dependencies (rule : MockRule) (ps : List Parameter) (taken : List String) :
    (dependencies rule ps taken).1.map (·.name)
      = reserveAll (ps.map (Dependency.wantedName rule)) taken := by
  induction ps generalizing taken with
  | nil => rfl
  | cons p ps ih =>
    rw [dependencies_cons, List.map_cons, List.map_cons, reserveAll_cons, ih]

/-- Behind the parameters, the names reserved for them are taken too. -/
lemma taken_dependencies (rule : MockRule) (ps : List Parameter) (taken : List String) :
    (dependencies rule ps taken).2
      = (reserveAll (ps.map (Dependency.wantedName rule)) taken).reverse ++ taken := by
  induction ps generalizing taken with
  | nil => rfl
  | cons p ps ih =>
    rw [dependencies_cons, List.map_cons, reserveAll_cons, List.reverse_cons, List.append_assoc]
    exact ih _

/-- Each name is a free one for what its parameter wants, and the rule says what is mocked. -/
lemma of_mem_dependencies {rule : MockRule} {ps : List Parameter} {taken : List String}
    {d : Dependency} (hd : d ∈ (dependencies rule ps taken).1) :
    d.mocked = rule d.parameter.type ∧
      ∃ others, d.name = freeName (Dependency.wantedName rule d.parameter) others := by
  induction ps generalizing taken with
  | nil => cases hd
  | cons p ps ih =>
    rw [dependencies_cons] at hd
    rcases List.mem_cons.mp hd with rfl | hd
    · exact ⟨rfl, taken, rfl⟩
    · exact ih hd

/-- Mocks are held by fields, and no other dependency is. -/
lemma map_name_filterMap_field? (ds : List Dependency) :
    (ds.filterMap Dependency.field?).map (·.name) = (ds.filter (·.mocked)).map (·.name) := by
  induction ds with
  | nil => rfl
  | cons d ds ih =>
    cases hmocked : d.mocked with
    | true => simp [Dependency.field?, hmocked, ih]
    | false => simp [Dependency.field?, hmocked, ih]

namespace SetupPlan

/-- All names of a setup, the locals included, are reserved in turn. -/
lemma names_ofClass (rule : MockRule) (c : ClassDeclaration) :
    (ofClass rule c).served.map (·.name) ++ [(ofClass rule c).subject]
      = reserveAll (c.primaryConstructor.parameters.map (Dependency.wantedName rule)
          ++ [instanceField c.name]) [] := by
  have hserved : (ofClass rule c).served
      = (dependencies rule c.primaryConstructor.parameters []).1 := rfl
  have hsubject : (ofClass rule c).subject = freeName (instanceField c.name)
      (dependencies rule c.primaryConstructor.parameters []).2 := rfl
  rw [hserved, hsubject, map_name_dependencies, taken_dependencies, reserveAll_append]
  rfl

/-- No two names of a setup are equal. -/
lemma nodup_names_ofClass (rule : MockRule) (c : ClassDeclaration) :
    ((ofClass rule c).served.map (·.name) ++ [(ofClass rule c).subject]).Nodup := by
  rw [names_ofClass]
  exact nodup_reserveAll _ _

/-- No two fields have one name. -/
lemma nodup_fields (rule : MockRule) (c : ClassDeclaration) :
    ((ofClass rule c).fields.map (·.name)).Nodup := by
  refine (nodup_names_ofClass rule c).sublist ?_
  rw [fields, List.map_append, map_name_filterMap_field?]
  exact (List.filter_sublist.map _).append (List.Sublist.refl _)

/-- The field of the instance under test begins with an underscore. -/
lemma beginsWithUnderscore_instanceField (className : String) :
    BeginsWithUnderscore (instanceField className) := by
  unfold BeginsWithUnderscore instanceField
  split
  · rfl
  · rw [String.toList_ofList]
    rfl

/-- A field holds a mock that serves a parameter, or else the instance under test. -/
lemma name_of_mem_fields {s : SetupPlan} {f : FixtureField} (hf : f ∈ s.fields) :
    (∃ d ∈ s.served, d.mocked = true ∧ f.name = d.name) ∨ f.name = s.subject := by
  have hname : f.name ∈ s.fields.map (·.name) := List.mem_map_of_mem hf
  rw [fields, List.map_append, map_name_filterMap_field?, List.mem_append] at hname
  refine hname.imp (fun hmock => ?_) fun hsubject => List.mem_singleton.mp hsubject
  obtain ⟨d, hd, heq⟩ := List.mem_map.mp hmock
  obtain ⟨hd, hmocked⟩ := List.mem_filter.mp hd
  exact ⟨d, hd, hmocked, heq.symm⟩

/-- Every field begins with an underscore. -/
lemma beginsWithUnderscore_of_mem_fields {rule : MockRule} {c : ClassDeclaration}
    {f : FixtureField} (hf : f ∈ (ofClass rule c).fields) : BeginsWithUnderscore f.name := by
  obtain ⟨d, hd, hmocked, hfield⟩ | hsubject := name_of_mem_fields hf
  · obtain ⟨hrule, others, hname⟩ := of_mem_dependencies hd
    rw [hmocked] at hrule
    rw [hfield, hname]
    exact beginsWithUnderscore_freeName (beginsWithUnderscore_wantedName hrule.symm) others
  · rw [hsubject]
    exact beginsWithUnderscore_freeName (beginsWithUnderscore_instanceField c.name) _

end SetupPlan

/-! ## Names of the tests -/

/-- The tests of a fixture go by the names assigned to the public methods. -/
lemma map_name_tests (rule : MockRule) (c : ClassDeclaration) :
    (draftFixture rule c).tests.map (·.name) = testNames (c.publicMethods.map (·.name)) := by
  rw [draftFixture, List.map_zipWith]
  refine List.ext_getElem (by simp) fun i hi hi' => ?_
  rw [List.getElem_zipWith]
  rfl

/-! ## All members -/

/-- `Setup` ends in no letter that a test name can end in. -/
lemma setup_not_mem_testNames (methods : List String) : "Setup" ∉ testNames methods := by
  intro h
  obtain ⟨c, hlast, hc⟩ := getLast?_of_mem_testNames h
  obtain rfl : c = 'p' := (Option.some.inj hlast).symm
  revert hc
  decide

/-- The name of a fixture ends in no letter that a test name can end in. -/
lemma fixtureName_not_mem_testNames (className : String) (methods : List String) :
    className ++ "Tests" ∉ testNames methods := by
  intro h
  obtain ⟨c, hlast, hc⟩ := getLast?_of_mem_testNames h
  rw [String.toList_append, List.getLast?_append_of_ne_nil _ (by decide)] at hlast
  obtain rfl : c = 's' := (Option.some.inj hlast).symm
  revert hc
  decide

/-- The name of a fixture is not that of its setup method. -/
lemma fixtureName_ne_setup (className : String) : className ++ "Tests" ≠ "Setup" := by
  intro h
  have hlast := congrArg (fun s => s.toList.getLast?) h
  rw [String.toList_append, List.getLast?_append_of_ne_nil _ (by decide)] at hlast
  revert hlast
  decide

/-- The members of a fixture by where their names come from. -/
lemma memberNames_draftFixture (rule : MockRule) (c : ClassDeclaration) :
    (draftFixture rule c).memberNames
      = (SetupPlan.ofClass rule c).fields.map (·.name)
        ++ "Setup" :: testNames (c.publicMethods.map (·.name)) := by
  rw [Fixture.memberNames, map_name_tests]
  rfl

/-- Only fields can clash, with a test or with the fixture. -/
lemma memberNames_distinct_iff_fields (rule : MockRule) (c : ClassDeclaration) :
    (draftFixture rule c).memberNames.Nodup
        ∧ (draftFixture rule c).name ∉ (draftFixture rule c).memberNames
      ↔ ∀ f ∈ (SetupPlan.ofClass rule c).fields, f.name ≠ c.name ++ "Tests"
          ∧ f.name ∉ testNames (c.publicMethods.map (·.name)) := by
  have hname : (draftFixture rule c).name = c.name ++ "Tests" := rfl
  rw [memberNames_draftFixture, hname]
  constructor
  · rintro ⟨hnodup, hfresh⟩ f hf
    have hmem : f.name ∈ (SetupPlan.ofClass rule c).fields.map (·.name) :=
      List.mem_map_of_mem hf
    refine ⟨fun heq => hfresh (List.mem_append_left _ (heq ▸ hmem)), fun htest => ?_⟩
    exact (List.disjoint_of_nodup_append hnodup) hmem (List.mem_cons_of_mem _ htest)
  · intro hfields
    refine ⟨List.Nodup.append (SetupPlan.nodup_fields rule c) ?_ ?_, ?_⟩
    · exact List.nodup_cons.mpr ⟨setup_not_mem_testNames _, nodup_testNames _⟩
    · intro x hx hother
      obtain ⟨f, hf, rfl⟩ := List.mem_map.mp hx
      rcases List.mem_cons.mp hother with hsetup | htest
      · have hunder := SetupPlan.beginsWithUnderscore_of_mem_fields hf
        rw [hsetup] at hunder
        revert hunder
        decide
      · exact (hfields f hf).2 htest
    · intro hmem
      rcases List.mem_append.mp hmem with hfield | hother
      · obtain ⟨f, hf, heq⟩ := List.mem_map.mp hfield
        exact (hfields f hf).1 heq
      · rcases List.mem_cons.mp hother with hsetup | htest
        · exact fixtureName_ne_setup _ hsetup
        · exact fixtureName_not_mem_testNames _ _ htest

/-- The members of a fixture have names of their own, other than that of the fixture, exactly if no
field is named like the fixture or like a test. That is so for every class whose name and whose
public methods' names begin with no underscore. -/
theorem memberNames_distinct_iff (rule : MockRule) (c : ClassDeclaration) :
    ((draftFixture rule c).memberNames.Nodup
        ∧ (draftFixture rule c).name ∉ (draftFixture rule c).memberNames
      ↔ ∀ f ∈ (SetupPlan.ofClass rule c).fields, f.name ≠ c.name ++ "Tests"
          ∧ f.name ∉ testNames (c.publicMethods.map (·.name)))
    ∧ (¬ BeginsWithUnderscore c.name ∧ (∀ m ∈ c.publicMethods, ¬ BeginsWithUnderscore m.name) →
        (draftFixture rule c).memberNames.Nodup
          ∧ (draftFixture rule c).name ∉ (draftFixture rule c).memberNames) := by
  refine ⟨memberNames_distinct_iff_fields rule c, ?_⟩
  rintro ⟨hclass, hmethods⟩
  rw [memberNames_distinct_iff_fields]
  intro f hf
  have hunder := SetupPlan.beginsWithUnderscore_of_mem_fields hf
  constructor
  · intro heq
    rw [heq, BeginsWithUnderscore, String.toList_append] at hunder
    cases hchars : c.name.toList with
    | nil => rw [hchars] at hunder; exact absurd hunder (by decide)
    | cons d ds => rw [hchars] at hunder; exact hclass (by rw [BeginsWithUnderscore, hchars]; exact hunder)
  · intro htest
    obtain ⟨name, hname, hhead⟩ := exists_of_mem_testNames_of_head?_eq htest hunder
    obtain ⟨m, hm, rfl⟩ := List.mem_map.mp hname
    exact hmethods m hm hhead

/-- A mock for the parameter `xTest` is held by the field `_xTest`, and that is the name of the
test for a method `_x`. A mock for `xTests` has the name of the fixture for a class `_x`. -/
theorem memberNames_clash :
    ¬ (draftFixture MockRule.usual
        { name := "A"
          constructors := [{ parameters := [{ name := "xTest", type := "IB" }] }]
          methods := [{ name := "_x", modifiers := ["public"] }] }).memberNames.Nodup
    ∧ (draftFixture MockRule.usual
        { name := "_x"
          constructors := [{ parameters := [{ name := "xTests", type := "IB" }] }] }).name
      ∈ (draftFixture MockRule.usual
        { name := "_x"
          constructors := [{ parameters := [{ name := "xTests", type := "IB" }] }] }).memberNames := by
  decide +kernel

end FixtureDraft
