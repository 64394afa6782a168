import FixtureDraft.Declaration.Basic
import FixtureDraft.Fixture.Basic
import FixtureDraft.Mocking
import FixtureDraft.Naming

/-!
# Drafting fixtures

A fixture is drafted from the declaration of a class. Its setup serves every parameter of the
primary constructor, with a mock in a field or with a local of default value, and creates the
instance under test. Each public method gets a test that calls it with locals of default value,
compares what it returns, and then fails until somebody completes it.

Among the fields and locals of the setup, among the locals of a test and among the tests no two
names clash: whatever a name is wanted for, it is reserved first.
-/

namespace FixtureDraft

/-- The declaration of a local with the default value of its type. -/
def Parameter.defaultLocal (p : Parameter) : String :=
  s!"{p.type} {p.name} = default;"

/-! ## Setup -/

/-- What serves a parameter of the constructor: a mock in the field `name`, or a local. -/
structure Dependency where
  parameter : Parameter
  name : String
  mocked : Bool
deriving DecidableEq, Repr

namespace Dependency

/-- The name wanted for what serves `p`. A field has no `@` before its name. -/
def wantedName (rule : MockRule) (p : Parameter) : String :=
  if rule p.type then "_" ++ String.ofList (p.name.toList.dropWhile (· == '@')) else p.name

/-- The field of a mock. -/
def field? (d : Dependency) : Option FixtureField :=
  if d.mocked then some ⟨d.parameter.type, d.name⟩ else none

/-- Sets the field, or declares the local. -/
def statement (d : Dependency) : String :=
  if d.mocked then s!"{d.name} = new Mock<{d.parameter.type}>(MockBehavior.Strict).Object;"
  else { d.parameter with name := d.name }.defaultLocal

/-- What is passed to the constructor. -/
def argument (d : Dependency) : String :=
  Passing.argument d.parameter.passing d.name

end Dependency

/-- What serves the parameters `ps`, with a name of its own each, and all names taken then. -/
def dependencies (rule : MockRule) : (ps : List Parameter) → (taken : List String) →
    List Dependency × List String
  | [], taken => ([], taken)
  | p :: ps, taken =>
    let (name, taken) := reserve (Dependency.wantedName rule p) taken
    let (served, taken) := dependencies rule ps taken
    (⟨p, name, rule p.type⟩ :: served, taken)

/-- All that is known of a setup: what serves the constructor, and the field that holds the
instance under test. -/
structure SetupPlan where
  className : String
  served : List Dependency
  subject : String
deriving DecidableEq, Repr

namespace SetupPlan

/-- The plan for a class. -/
def ofClass (rule : MockRule) (c : ClassDeclaration) : SetupPlan :=
  let (served, taken) := dependencies rule c.primaryConstructor.parameters []
  { className := c.name, served, subject := freeName (instanceField c.name) taken }

/-- The fields of the fixture. -/
def fields (s : SetupPlan) : List FixtureField :=
  s.served.filterMap Dependency.field? ++ [⟨s.className, s.subject⟩]

/-- The creation of the instance under test. -/
def creation (s : SetupPlan) : String :=
  let arguments := ", ".intercalate (s.served.map Dependency.argument)
  s!"{s.subject} = new {s.className}({arguments});"

/-- The setup method. -/
def method (s : SetupPlan) : FixtureMethod :=
  { name := "Setup"
    statements := s.served.map Dependency.statement ++ [s.creation]
    mark := "SetUp" }

end SetupPlan

/-! ## Tests -/

/-- Renames the parameters whose name is reserved. The new names keep clear of `taken`. -/
def renameReserved (reserved : List String) : (ps : List Parameter) → (taken : List String) →
    List Parameter
  | [], _ => []
  | p :: ps, taken =>
    if reserved.contains p.name then
      let (name, taken) := reserve p.name taken
      { p with name } :: renameReserved reserved ps taken
    else p :: renameReserved reserved ps taken

/-- The parameters of `m` under the names of their locals in a test that calls `receiver`. No
local hides the receiver or a local that the test needs for results. -/
def testLocals (receiver : String) (m : Method) : List Parameter :=
  let reserved := [receiver, "actual", "expected"]
  renameReserved reserved m.parameters (reserved ++ m.parameters.map (·.name))

/-- The body of a test that calls `m` on `receiver`. -/
def testBody (receiver : String) (m : Method) : List String :=
  let locals := testLocals receiver m
  let arguments := ", ".intercalate (locals.map Parameter.argument)
  let call := s!"{receiver}.{m.name}({arguments})"
  locals.map Parameter.defaultLocal
    ++ (if m.isVoid then [call ++ ";"]
      else [s!"var actual = {call};", s!"{m.returns} expected = default;",
        "Assert.That(actual, Is.EqualTo(expected));"])
    ++ ["Assert.Fail(\"autogenerated\");"]

/-- The test of `m`, a method of the class that `s` sets up. -/
def draftTest (s : SetupPlan) (name : String) (m : Method) : FixtureMethod :=
  { name, statements := testBody (if m.isStatic then s.className else s.subject) m }

/-! ## Fixtures -/

/-- The fixture of a class. -/
def draftFixture (rule : MockRule) (c : ClassDeclaration) : Fixture :=
  let setup := SetupPlan.ofClass rule c
  let methods := c.publicMethods
  { name := c.name ++ "Tests"
    fields := setup.fields
    setup := setup.method
    tests := (testNames (methods.map (·.name))).zipWith (draftTest setup) methods }

/-- The using directives that every fixture needs. -/
def fixtureUsings : List String := ["using NUnit.Framework;", "using Moq;"]

/-- The file for a class of a source with the given using directives. -/
def draftFile (rule : MockRule) (usings : List String) (c : ClassDeclaration) : FixtureFile :=
  { usings := usings ++ fixtureUsings
    namespaces := fixtureNamespaces c.namespaces
    fixture := draftFixture rule c }

/-- A file for every class of a source that gets a fixture. -/
def draftFiles (rule : MockRule) (u : SourceUnit) : List FixtureFile :=
  u.qualifying.map (draftFile rule u.usings)

end FixtureDraft
