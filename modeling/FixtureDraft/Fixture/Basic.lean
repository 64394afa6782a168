/-!
# Fixtures

A fixture file holds one test class: fields, a setup method and test methods, each of which is
a list of statements. `FixtureFile.code` is its text.
-/

namespace FixtureDraft

/-- A private field of a test class. -/
structure FixtureField where
  type : String
  name : String
deriving DecidableEq, Repr

/-- A public method without parameters and result. -/
structure FixtureMethod where
  name : String
  statements : List String
  mark : String := "Test"
deriving DecidableEq, Repr

/-- A test class. -/
structure Fixture where
  name : String
  fields : List FixtureField
  setup : FixtureMethod
  tests : List FixtureMethod := []
deriving DecidableEq, Repr

/-- A file with one test class in namespaces, the outermost first. -/
structure FixtureFile where
  usings : List String
  namespaces : List String
  fixture : Fixture
deriving DecidableEq, Repr

/-- The name of the test class behind those of its namespaces. Files go by it. -/
def FixtureFile.qualifiedName (f : FixtureFile) : String :=
  ".".intercalate (f.namespaces ++ [f.fixture.name])

/-! ## Lines of code -/

/-- One step of indentation. -/
def indentation : String := "    "

/-- A line moved in by one step. An empty line stays empty. -/
def indent (line : String) : String :=
  if line = "" then "" else indentation ++ line

/-- Lines between braces, under the lines of a header. -/
def inBraces (header inside : List String) : List String :=
  header ++ "\x7b" :: inside ++ ["\x7d"]

/-- The declaration of a field. -/
def FixtureField.line (f : FixtureField) : String :=
  "private " ++ f.type ++ " " ++ f.name ++ ";"

/-- The lines of a method. -/
def FixtureMethod.lines (m : FixtureMethod) : List String :=
  inBraces ["[" ++ m.mark ++ "]", "public void " ++ m.name ++ "()"]
    (m.statements.map (indentation ++ ·))

/-- Adds a method to the lines of a class body, behind an empty line unless it is the first. -/
def addMethod (body : List String) (m : FixtureMethod) : List String :=
  if body.isEmpty then m.lines else body ++ "" :: m.lines

namespace Fixture

/-- The lines between the braces of the class, not yet moved in. -/
def body (f : Fixture) : List String :=
  (f.setup :: f.tests).foldl addMethod (f.fields.map FixtureField.line)

/-- The lines of the class. -/
def lines (f : Fixture) : List String :=
  inBraces ["[TestFixture]", "public class " ++ f.name] (f.body.map indent)

end Fixture

/-- Lines inside a namespace, or inside several. -/
def inNamespaces : (namespaces lines : List String) → List String
  | [], lines => lines
  | n :: ns, lines => inBraces ["namespace " ++ n] ((inNamespaces ns lines).map indent)

namespace FixtureFile

/-- The lines of the file. An empty line stands behind the using directives, if there are
any. -/
def lines (f : FixtureFile) : List String :=
  f.usings ++ (if f.usings.isEmpty then [] else [""]) ++ inNamespaces f.namespaces f.fixture.lines

/-- The text of the file. Each line is ended. -/
def code (f : FixtureFile) : String :=
  "\n".intercalate f.lines ++ "\n"

end FixtureFile

end FixtureDraft
