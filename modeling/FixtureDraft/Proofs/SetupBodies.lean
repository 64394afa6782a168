import FixtureDraft.Proofs.Members

/-!
# Bodies of setups

A setup serves the parameters of the first constructor with the fewest of them, each by one
statement that binds one name, and then creates the instance under test from these names. Read as a
list of actions, the statements can be carried out in turn: no name is read before it is bound, none
is bound twice, and each field of the fixture is set once. `setup_wires_constructor` says all this
for every class, also where two parameters have one name.
-/

namespace FixtureDraft

/-! ## The constructor that is called -/

/-- Whether `k` is the first one of `ks` with the fewest parameters. -/
def IsFirstSimplest (k : Constructor) (ks : List Constructor) : Prop :=
  ∃ before after, ks = before ++ k :: after
    ∧ (∀ j ∈ before, k.parameters.length < j.parameters.length)
    ∧ ∀ j ∈ after, k.parameters.length ≤ j.parameters.length

/-- One more constructor behind the others is chosen only if it is simpler than all of them. -/
lemma IsFirstSimplest.concat {k : Constructor} {ks : List Constructor} (h : IsFirstSimplest k ks)
    (j : Constructor) : IsFirstSimplest (ClassDeclaration.simpler k j) (ks ++ [j]) := by
  obtain ⟨before, after, rfl, hbefore, hafter⟩ := h
  unfold ClassDeclaration.simpler
  split
  · -- none of the others is as simple as `k`, and `j` is simpler than that
    rename_i hlt
    refine ⟨before ++ k :: after, [], rfl, ?_, by simp⟩
    intro i hi
    rw [List.mem_append, List.mem_cons] at hi
    obtain hi | rfl | hi := hi
    · exact hlt.trans (hbefore i hi)
    · exact hlt
    · exact lt_of_lt_of_le hlt (hafter i hi)
  · rename_i hle
    refine ⟨before, after ++ [j], by simp, hbefore, ?_⟩
    intro i hi
    rw [List.mem_append, List.mem_singleton] at hi
    obtain hi | rfl := hi
    · exact hafter i hi
    · omega

lemma IsFirstSimplest.foldl {k : Constructor} {seen : List Constructor}
    (h : IsFirstSimplest k seen) (ks : List Constructor) :
    IsFirstSimplest (ks.foldl ClassDeclaration.simpler k) (seen ++ ks) := by
  induction ks generalizing k seen with
  | nil => rwa [List.append_nil]
  | cons j ks ih =>
    rw [List.foldl_cons, List.append_cons]
    exact ih (h.concat j)

/-- The primary constructor of a class is the first one with the fewest parameters, if the class has
any. -/
lemma isFirstSimplest_primaryConstructor {c : ClassDeclaration} (h : c.constructors ≠ []) :
    IsFirstSimplest c.primaryConstructor c.constructors := by
  rw [ClassDeclaration.primaryConstructor]
  cases hks : c.constructors with
  | nil => exact absurd hks h
  | cons k ks =>
    have hone : IsFirstSimplest k [k] := ⟨[], [], rfl, by simp, by simp⟩
    exact hone.foldl ks

lemma primaryConstructor_of_eq_nil {c : ClassDeclaration} (h : c.constructors = []) :
    c.primaryConstructor = {} := by
  rw [ClassDeclaration.primaryConstructor, h]

/-! ## Actions -/

/-- What a statement of a setup does: it sets a field to a strict mock of a type, declares a local
with the default value of a type, or sets a field to a new instance of a class. -/
inductive SetupAction
  | mock (field type : String)
  | declare (name type : String)
  | create (field className : String) (arguments : List (Option Passing × String))

namespace SetupAction

/-- The statement. -/
def text : SetupAction → String
  | mock field type => field ++ " = new Mock<" ++ type ++ ">(MockBehavior.Strict).Object;"
  | declare name type => type ++ " " ++ name ++ " = default;"
  | create field className arguments =>
    let passed := arguments.map fun a => Passing.spelled a.1 a.2
    field ++ " = new " ++ className ++ "(" ++ ", ".intercalate passed ++ ");"

/-- The name that gets a value. -/
def target : SetupAction → String
  | mock field _ => field
  | declare name _ => name
  | create field _ _ => field

/-- The names that are read. -/
def reads : SetupAction → List String
  | create _ _ arguments => arguments.map (·.2)
  | _ => []

/-- Whether a field gets the value. -/
def setsField : SetupAction → Bool
  | declare _ _ => false
  | _ => true

/-- The action that serves a parameter under a name: the rule says whether by a mock. -/
def serving (rule : MockRule) (p : Parameter) (name : String) : SetupAction :=
  if rule p.type then mock name p.type else declare name p.type

variable {rule : MockRule} {p : Parameter} {name className : String}
  {arguments : List (Option Passing × String)}

@[simp] lemma target_create : (create name className arguments).target = name := rfl

@[simp] lemma reads_create : (create name className arguments).reads = arguments.map (·.2) := rfl

@[simp] lemma setsField_create : (create name className arguments).setsField = true := rfl

@[simp] lemma target_serving : (serving rule p name).target = name := by
  unfold serving
  split <;> rfl

@[simp] lemma reads_serving : (serving rule p name).reads = [] := by
  unfold serving
  split <;> rfl

@[simp] lemma setsField_serving : (serving rule p name).setsField = rule p.type := by
  unfold serving
  split
  · exact (by assumption : rule p.type = true).symm
  · exact (Bool.eq_false_of_not_eq_true (by assumption)).symm

/-- The statement for what serves a parameter. -/
lemma text_serving :
    (serving rule p name).text = Dependency.statement ⟨p, name, rule p.type⟩ := by
  unfold serving Dependency.statement
  split <;> rfl

end SetupAction

/-- Whether actions can be carried out in turn once the names in `bound` have a value: every name
that is read has one, none gets a second one, and a name is set as a field exactly if it is one. -/
inductive Runs (fields : List String) : (bound : List String) → List SetupAction → Prop
  | done {bound} : Runs fields bound []
  | next {bound a actions} (reads : ∀ n ∈ a.reads, n ∈ bound) (fresh : a.target ∉ bound)
      (field : a.target ∈ fields ↔ a.setsField = true)
      (rest : Runs fields (a.target :: bound) actions) : Runs fields bound (a :: actions)

section Runs

variable {fields bound : List String} {actions more : List SetupAction}

/-- Actions run one after another if the later ones run behind what the earlier ones bind. -/
lemma Runs.append (h : Runs fields bound actions)
    (hmore : Runs fields ((actions.map SetupAction.target).reverse ++ bound) more) :
    Runs fields bound (actions ++ more) := by
  induction h with
  | done => exact hmore
  | next reads fresh field rest ih =>
    refine .next reads fresh field (ih ?_)
    rwa [List.map_cons, List.reverse_cons, List.append_assoc] at hmore

/-- Actions that read nothing run if they bind different names that are new. -/
lemma runs_of_nodup (hreads : ∀ a ∈ actions, a.reads = [])
    (hnodup : (actions.map SetupAction.target).Nodup)
    (hfresh : ∀ a ∈ actions, a.target ∉ bound)
    (hfields : ∀ a ∈ actions, a.target ∈ fields ↔ a.setsField = true) :
    Runs fields bound actions := by
  induction actions generalizing bound with
  | nil => exact .done
  | cons a actions ih =>
    rw [List.forall_mem_cons] at hreads hfresh hfields
    rw [List.map_cons, List.nodup_cons] at hnodup
    refine .next (by simp [hreads.1]) hfresh.1 hfields.1 ?_
    refine ih hreads.2 hnodup.2 (fun b hb => ?_) hfields.2
    rw [List.mem_cons, not_or]
    exact ⟨fun heq => hnodup.1 (heq ▸ List.mem_map_of_mem hb), hfresh.2 b hb⟩

/-- Where no name is bound twice, the names that are set as fields are the targets of no other
actions. -/
lemma target_mem_fields_iff (hnodup : (actions.map SetupAction.target).Nodup) {a : SetupAction}
    (ha : a ∈ actions) :
    a.target ∈ (actions.filter SetupAction.setsField).map SetupAction.target
      ↔ a.setsField = true := by
  constructor
  · intro h
    obtain ⟨b, hb, htarget⟩ := List.mem_map.mp h
    obtain ⟨hb, hsets⟩ := List.mem_filter.mp hb
    rwa [← List.inj_on_of_nodup_map hnodup hb ha htarget]
  · exact fun h => List.mem_map_of_mem (List.mem_filter.mpr ⟨ha, h⟩)

end Runs

/-! ## The actions of a setup -/

/-- The actions that serve parameters, each under a name, and then create an instance of a class
from these names, each passed on in the way of its parameter. -/
def setupActions (rule : MockRule) (className subject : String)
    (served : List (Parameter × String)) : List SetupAction :=
  served.map (fun s => SetupAction.serving rule s.1 s.2)
    ++ [.create subject className (served.map fun s => (s.1.passing, s.2))]

/-- The fields for those of the served parameters that the rule mocks, and then the field for the
instance. -/
def setupFields (rule : MockRule) (className subject : String)
    (served : List (Parameter × String)) : List FixtureField :=
  (served.filter fun s => rule s.1.type).map (fun s => ⟨s.1.type, s.2⟩) ++ [⟨className, subject⟩]

section Actions

variable {rule : MockRule} {className subject : String} {served : List (Parameter × String)}

lemma map_target_setupActions :
    (setupActions rule className subject served).map SetupAction.target
      = served.map (·.2) ++ [subject] := by
  simp [setupActions, Function.comp_def]

/-- The actions set the fields in their order. -/
lemma map_target_filter_setupActions :
    ((setupActions rule className subject served).filter SetupAction.setsField).map
        SetupAction.target
      = (setupFields rule className subject served).map (·.name) := by
  simp [setupActions, setupFields, List.filter_map, List.filter_cons, Function.comp_def]

/-- The actions of a setup run if no two of them bind one name. -/
lemma runs_setupActions (hnodup : (served.map (·.2) ++ [subject]).Nodup) :
    Runs ((setupFields rule className subject served).map (·.name)) []
      (setupActions rule className subject served) := by
  have htargets : ((setupActions rule className subject served).map SetupAction.target).Nodup := by
    rwa [map_target_setupActions]
  have hfields := fun a ha => target_mem_fields_iff htargets (a := a) ha
  rw [map_target_filter_setupActions] at hfields
  have hcreate : SetupAction.create subject className (served.map fun s => (s.1.passing, s.2))
      ∈ setupActions rule className subject served :=
    List.mem_append_right _ (List.mem_singleton_self _)
  rw [List.nodup_append] at hnodup
  refine Runs.append (runs_of_nodup ?_ ?_ (by simp) fun a ha => ?_) (.next ?_ ?_ ?_ .done)
  · intro a ha
    obtain ⟨s, -, rfl⟩ := List.mem_map.mp ha
    exact SetupAction.reads_serving
  · simpa [Function.comp_def] using hnodup.1
  · exact hfields a (List.mem_append_left _ ha)
  · -- all that is passed to the constructor is bound by then
    simp [Function.comp_def]
  · intro hmem
    have hbound : subject ∈ served.map (·.2) := by
      simpa [Function.comp_def] using hmem
    exact hnodup.2.2 subject hbound subject (List.mem_singleton_self _) rfl
  · exact hfields _ hcreate

end Actions

namespace SetupPlan

/-- What serves the parameters of the constructor, as parameters with their names. -/
def named (s : SetupPlan) : List (Parameter × String) :=
  s.served.map fun d => (d.parameter, d.name)

/-- The parameters are served in their order. -/
lemma map_parameter_dependencies (rule : MockRule) (ps : List Parameter) (taken : List String) :
    (dependencies rule ps taken).1.map (·.parameter) = ps := by
  induction ps generalizing taken with
  | nil => rfl
  | cons p ps ih =>
    rw [dependencies_cons, List.map_cons]
    exact congrArg (List.cons p) (ih _)

variable (rule : MockRule) (c : ClassDeclaration)

/-- The statements of the setup are those of its actions. -/
lemma statements_ofClass :
    (ofClass rule c).method.statements
      = (setupActions rule c.name (ofClass rule c).subject (ofClass rule c).named).map
          SetupAction.text := by
  have hserved : (ofClass rule c).served.map Dependency.statement
      = (ofClass rule c).served.map fun d =>
          (SetupAction.serving rule d.parameter d.name).text := by
    refine List.map_congr_left fun d hd => ?_
    rw [SetupAction.text_serving, ← (of_mem_dependencies hd).1]
  have hcreation : (ofClass rule c).creation
      = (SetupAction.create (ofClass rule c).subject c.name
          ((ofClass rule c).named.map fun s => (s.1.passing, s.2))).text := by
    rw [SetupAction.text, Passing.spelled_eq_argument, named, List.map_map, List.map_map]
    rfl
  rw [method, hserved, hcreation, setupActions, List.map_append, named, List.map_map, List.map_map,
    List.map_map]
  rfl

/-- The fields of the fixture are those for mocks and the one for the instance under test. -/
lemma fields_ofClass :
    (ofClass rule c).fields
      = setupFields rule c.name (ofClass rule c).subject (ofClass rule c).named := by
  rw [fields, setupFields, named, List.filter_map, List.map_map, ← List.filterMap_eq_map,
    List.filterMap_filter]
  refine congrArg (· ++ _) (List.filterMap_congr fun d hd => ?_)
  simp [Dependency.field?, (of_mem_dependencies hd).1]

end SetupPlan

/-- The setup of a fixture serves the parameters of the first constructor with the fewest, or none
if the class has no constructor. One statement for each of them binds a name: it sets a field to a
strict mock of the parameter's type if the rule says so, and else declares a local of that type. The
last statement creates the instance under test from these names, each behind the passing word of its
parameter, and sets the field for it. All these names are different; the fields are those for mocks,
in the order of the parameters, and the one for the instance; and the statements can be carried out
in turn and set each field once. -/
theorem setup_wires_constructor (rule : MockRule) (c : ClassDeclaration) :
    let f := draftFixture rule c
    let subject := (SetupPlan.ofClass rule c).subject
    ∃ served : List (Parameter × String),
      (c.constructors = [] ∧ served = []
          ∨ ∃ k, IsFirstSimplest k c.constructors ∧ served.map (·.1) = k.parameters)
        ∧ f.setup.statements = (setupActions rule c.name subject served).map SetupAction.text
        ∧ (served.map (·.2) ++ [subject]).Nodup
        ∧ f.fields = setupFields rule c.name subject served
        ∧ ((setupActions rule c.name subject served).filter SetupAction.setsField).map
            SetupAction.target = f.fields.map (·.name)
        ∧ Runs (f.fields.map (·.name)) [] (setupActions rule c.name subject served) := by
  intro f subject
  have hparameters : (SetupPlan.ofClass rule c).named.map (·.1)
      = c.primaryConstructor.parameters := by
    rw [SetupPlan.named, List.map_map]
    exact SetupPlan.map_parameter_dependencies rule _ _
  have hnames : ((SetupPlan.ofClass rule c).named.map (·.2) ++ [subject]).Nodup := by
    rw [SetupPlan.named, List.map_map]
    exact SetupPlan.nodup_names_ofClass rule c
  have hfields : f.fields = setupFields rule c.name subject (SetupPlan.ofClass rule c).named :=
    SetupPlan.fields_ofClass rule c
  refine ⟨(SetupPlan.ofClass rule c).named, ?_, SetupPlan.statements_ofClass rule c, hnames,
    hfields, ?_, ?_⟩
  · by_cases hnone : c.constructors = []
    · rw [primaryConstructor_of_eq_nil hnone] at hparameters
      exact Or.inl ⟨hnone, List.map_eq_nil_iff.mp hparameters⟩
    · exact Or.inr ⟨_, isFirstSimplest_primaryConstructor hnone, hparameters⟩
  · rw [hfields]
    exact map_target_filter_setupActions
  · rw [hfields]
    exact runs_setupActions hnames

/-- Two mocks and a local between them want the name `_x`, and the local is passed by reference. -/
example :
    (draftFixture MockRule.usual
      { name := "A"
        constructors := [{ parameters := [⟨"x", "IFoo", none⟩, ⟨"_x", "int", some .byRef⟩,
          ⟨"@x", "IFoo", none⟩] }] }).setup.statements
      = ["_x = new Mock<IFoo>(MockBehavior.Strict).Object;", "int _x2 = default;",
        "_x3 = new Mock<IFoo>(MockBehavior.Strict).Object;", "_a = new A(_x, ref _x2, _x3);"] := by
  decide

end FixtureDraft
