import FixtureDraft.Proofs.Locals

/-!
# Bodies of tests

A test declares one local for each parameter of its method and passes these locals on to the method.
A local goes by the name of its parameter, unless the test needs that name for something else; then
the least number that makes the name free is put behind it. `test_renames_parameters` says that this
renaming hits just the names that are reserved, that no two locals get one name, and that the call
passes on the very locals that are declared.
-/

namespace FixtureDraft

/-! ## Renamings -/

/-- The new names of those parameters whose own name is reserved. -/
def newNames (reserved : List String) (named : List (Parameter × String)) : List String :=
  (named.filter fun s => reserved.contains s.1.name).map (·.2)

/-- Whether `named` gives the parameters `ps` names for their locals, and gives a new one just to
those whose own name is reserved. A new name is the least free one: neither reserved, nor the name
of a parameter, nor a new name given before. -/
structure Renames (reserved : List String) (ps : List Parameter)
    (named : List (Parameter × String)) : Prop where
  parameters : named.map (·.1) = ps
  nodup : (named.map (·.2)).Nodup
  free : ∀ s ∈ named, s.2 ∉ reserved
  kept : ∀ s ∈ named, s.1.name ∉ reserved → s.2 = s.1.name
  renamed : ∀ before s after, named = before ++ s :: after → s.1.name ∈ reserved →
    IsLeastFree s.1.name (reserved ++ ps.map (·.name) ++ newNames reserved before) s.2

/-- The parameters with the names of their locals. -/
def withLocals (reserved : List String) (ps : List Parameter) (taken : List String) :
    List (Parameter × String) :=
  ps.zip ((renameReserved reserved ps taken).map (·.name))

section Renamings

variable {reserved : List String}

lemma withLocals_of_mem {p : Parameter} (hp : p.name ∈ reserved) (ps : List Parameter)
    (taken : List String) :
    withLocals reserved (p :: ps) taken
      = (p, freeName p.name taken) :: withLocals reserved ps (freeName p.name taken :: taken) := by
  rw [withLocals, renameReserved_cons, if_pos (by simpa using hp)]
  rfl

lemma withLocals_of_not_mem {p : Parameter} (hp : p.name ∉ reserved) (ps : List Parameter)
    (taken : List String) :
    withLocals reserved (p :: ps) taken = (p, p.name) :: withLocals reserved ps taken := by
  rw [withLocals, renameReserved_cons, if_neg (by simpa using hp)]
  rfl

/-- The locals are the parameters under their new names. -/
lemma renameReserved_eq_map (ps : List Parameter) (taken : List String) :
    renameReserved reserved ps taken
      = (withLocals reserved ps taken).map fun s => { s.1 with name := s.2 } := by
  induction ps generalizing taken with
  | nil => rfl
  | cons p ps ih =>
    rw [renameReserved_cons]
    by_cases hp : p.name ∈ reserved
    · rw [withLocals_of_mem hp, if_pos (by simpa using hp), ih, List.map_cons]
    · rw [withLocals_of_not_mem hp, if_neg (by simpa using hp), ih, List.map_cons]

lemma map_fst_withLocals (ps : List Parameter) (taken : List String) :
    (withLocals reserved ps taken).map (·.1) = ps := by
  induction ps generalizing taken with
  | nil => rfl
  | cons p ps ih =>
    by_cases hp : p.name ∈ reserved
    · rw [withLocals_of_mem hp, List.map_cons, ih]
    · rw [withLocals_of_not_mem hp, List.map_cons, ih]

lemma map_snd_withLocals (ps : List Parameter) (taken : List String) :
    (withLocals reserved ps taken).map (·.2)
      = (renameReserved reserved ps taken).map (·.name) := by
  rw [renameReserved_eq_map, List.map_map]
  rfl

/-- A name that is not reserved is kept. -/
lemma snd_of_mem_withLocals {ps : List Parameter} {taken : List String} {s : Parameter × String}
    (hs : s ∈ withLocals reserved ps taken) (hname : s.1.name ∉ reserved) : s.2 = s.1.name := by
  induction ps generalizing taken with
  | nil => cases hs
  | cons p ps ih =>
    by_cases hp : p.name ∈ reserved
    · rw [withLocals_of_mem hp] at hs
      obtain rfl | hs := List.mem_cons.mp hs
      · exact absurd hp hname
      · exact ih hs
    · rw [withLocals_of_not_mem hp] at hs
      obtain rfl | hs := List.mem_cons.mp hs
      · rfl
      · exact ih hs

/-- A reserved name is replaced by the one that is free when the parameter is met: by then the new
names of the parameters before it are taken too. -/
lemma snd_of_withLocals_eq {ps : List Parameter} {taken : List String}
    {before after : List (Parameter × String)} {s : Parameter × String}
    (h : withLocals reserved ps taken = before ++ s :: after) (hname : s.1.name ∈ reserved) :
    s.2 = freeName s.1.name ((newNames reserved before).reverse ++ taken) := by
  -- by the parameters: a new name goes from those still to come to those that are taken
  induction ps generalizing taken before with
  | nil => simp [withLocals] at h
  | cons p ps ih =>
    by_cases hp : p.name ∈ reserved
    · rw [withLocals_of_mem hp] at h
      cases before with
      | nil =>
        obtain ⟨rfl, -⟩ := List.cons.inj h
        rfl
      | cons b before =>
        obtain ⟨rfl, hrest⟩ := List.cons.inj h
        have hnew : newNames reserved ((p, freeName p.name taken) :: before)
            = freeName p.name taken :: newNames reserved before := by
          simp [newNames, hp]
        rw [ih hrest, hnew, List.reverse_cons, List.append_assoc, List.singleton_append]
    · rw [withLocals_of_not_mem hp] at h
      cases before with
      | nil =>
        obtain ⟨rfl, -⟩ := List.cons.inj h
        exact absurd hname hp
      | cons b before =>
        obtain ⟨rfl, hrest⟩ := List.cons.inj h
        have hnew : newNames reserved ((p, p.name) :: before) = newNames reserved before := by
          simp [newNames, hp]
        rw [ih hrest, hnew]

/-- The locals of a test are a renaming of its parameters, if these have different names. -/
lemma renames_withLocals {ps : List Parameter} (hps : (ps.map (·.name)).Nodup) :
    Renames reserved ps (withLocals reserved ps (reserved ++ ps.map (·.name))) where
  parameters := map_fst_withLocals ps _
  nodup := by
    rw [map_snd_withLocals]
    exact nodup_renameReserved hps fun p hp => List.mem_append_right _ (List.mem_map_of_mem hp)
  free := by
    intro s hs
    have hmem : s.2 ∈ (renameReserved reserved ps (reserved ++ ps.map (·.name))).map (·.name) := by
      rw [← map_snd_withLocals]
      exact List.mem_map_of_mem hs
    obtain ⟨l, hl, hname⟩ := List.mem_map.mp hmem
    rw [← hname]
    exact not_mem_of_mem_renameReserved (List.subset_append_left _ _) hl
  kept := fun s hs => snd_of_mem_withLocals hs
  renamed := by
    intro before s after h hname
    rw [snd_of_withLocals_eq h hname]
    have htaken : s.1.name
        ∈ (newNames reserved before).reverse ++ (reserved ++ ps.map (·.name)) :=
      List.mem_append_right _ (List.mem_append_left _ hname)
    refine (isLeastFree_freeName htaken).congr fun y => ?_
    simp only [List.mem_append, List.mem_reverse]
    exact or_comm

end Renamings

/-! ## What a test does with its locals -/

/-- The statements of a test of `m` under `named` locals: it declares each with the default value of
its parameter's type, calls `m` on `receiver` with all of them, each behind the passing word of its
parameter, compares what `m` returns, and fails. -/
def testStatements (receiver : String) (m : Method) (named : List (Parameter × String)) :
    List String :=
  let declared := named.map fun s => s.1.type ++ " " ++ s.2 ++ " = default;"
  let passed := named.map fun s => Passing.spelled s.1.passing s.2
  let call := receiver ++ "." ++ m.name ++ "(" ++ ", ".intercalate passed ++ ")"
  let acted :=
    if m.isVoid then [call ++ ";"]
    else ["var actual = " ++ call ++ ";", m.returns ++ " expected = default;",
      "Assert.That(actual, Is.EqualTo(expected));"]
  declared ++ acted ++ ["Assert.Fail(\"autogenerated\");"]

/-- A test body declares and passes on the locals that its parameters get. -/
lemma testBody_eq_testStatements (receiver : String) (m : Method) :
    testBody receiver m = testStatements receiver m
      (withLocals (reservedNames receiver) m.parameters
        (reservedNames receiver ++ m.parameters.map (·.name))) := by
  have hlocals : testLocals receiver m
      = (withLocals (reservedNames receiver) m.parameters
          (reservedNames receiver ++ m.parameters.map (·.name))).map
            fun s => { s.1 with name := s.2 } := renameReserved_eq_map _ _
  simp only [testBody, testStatements, Passing.spelled_eq_argument]
  rw [hlocals, List.map_map, List.map_map]
  rfl

/-- The last field of a fixture holds the instance under test. -/
lemma getLast?_fields (rule : MockRule) (c : ClassDeclaration) :
    (draftFixture rule c).fields.getLast? = some ⟨c.name, (SetupPlan.ofClass rule c).subject⟩ :=
  List.getLast?_concat

/-- A public method is tested by the test in its place, which calls it on the class or on the
instance. -/
lemma getElem?_tests (rule : MockRule) {c : ClassDeclaration} {i : ℕ} {m : Method}
    (hm : c.publicMethods[i]? = some m) :
    ∃ t, (draftFixture rule c).tests[i]? = some t
      ∧ t.statements = testBody ((SetupPlan.ofClass rule c).receiver m) m := by
  have hlt : i < (testNames (c.publicMethods.map (·.name))).length := by
    rw [length_testNames, List.length_map]
    exact (List.getElem?_eq_some_iff.mp hm).1
  obtain ⟨name, hname⟩ : ∃ name, (testNames (c.publicMethods.map (·.name)))[i]? = some name :=
    ⟨_, List.getElem?_eq_getElem hlt⟩
  refine ⟨draftTest (SetupPlan.ofClass rule c) name m, ?_, rfl⟩
  simp only [draftFixture]
  rw [List.getElem?_zipWith, hname, hm]

/-- The test of a public method whose parameters have different names first declares a local for
each parameter, of the parameter's type, and then passes these locals on. It calls the method on the
class if the method is static, and else on the last field of the fixture, which holds the instance.
The locals are called like their parameters, except for those that would have the name of what the
method is called on, or of one of the two results. -/
theorem test_renames_parameters (rule : MockRule) (c : ClassDeclaration) {i : ℕ} {m : Method}
    (hm : c.publicMethods[i]? = some m) (hparameters : (m.parameters.map (·.name)).Nodup) :
    ∃ t subject named,
      (draftFixture rule c).tests[i]? = some t
        ∧ (draftFixture rule c).fields.getLast? = some ⟨c.name, subject⟩
        ∧ Renames (reservedNames (if m.isStatic then c.name else subject)) m.parameters named
        ∧ t.statements = testStatements (if m.isStatic then c.name else subject) m named := by
  obtain ⟨t, ht, hbody⟩ := getElem?_tests rule hm
  refine ⟨t, (SetupPlan.ofClass rule c).subject, _, ht, getLast?_fields rule c,
    renames_withLocals hparameters, ?_⟩
  rw [hbody]
  exact testBody_eq_testStatements _ m

/-- A method `M(int actual2, ref int actual, int expected, int _a)` of a class `A`: the locals for
the last three of its parameters are `actual3`, `expected2` and `_a2`. -/
theorem test_renames_crowded_parameters :
    let m : Method :=
      { name := "M"
        parameters := [⟨"actual2", "int", none⟩, ⟨"actual", "int", some .byRef⟩,
          ⟨"expected", "int", none⟩, ⟨"_a", "int", none⟩]
        modifiers := ["public"] }
    let c : ClassDeclaration := { name := "A", methods := [m] }
    c.publicMethods[0]? = some m ∧ (m.parameters.map (·.name)).Nodup
      ∧ (∃ t subject named,
        (draftFixture MockRule.usual c).tests[0]? = some t
          ∧ (draftFixture MockRule.usual c).fields.getLast? = some ⟨"A", subject⟩
          ∧ Renames (reservedNames subject) m.parameters named
          ∧ t.statements = testStatements subject m named)
      ∧ (draftFixture MockRule.usual c).tests.map (·.statements) =
        [["int actual2 = default;", "int actual3 = default;", "int expected2 = default;",
          "int _a2 = default;", "_a.M(actual2, ref actual3, expected2, _a2);",
          "Assert.Fail(\"autogenerated\");"]] := by
  intro m c
  have hm : c.publicMethods[0]? = some m := by decide +kernel
  have hparameters : (m.parameters.map (·.name)).Nodup := by decide
  exact ⟨hm, hparameters, test_renames_parameters MockRule.usual c hm hparameters,
    by decide +kernel⟩

end FixtureDraft
