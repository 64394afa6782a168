import FixtureDraft.Data.Value

/-!
# Tools

The two tools that clients may call, with what they say about themselves: a name, a description
and the schema of their arguments.
-/

namespace FixtureDraft.Tool

open FixtureDraft.Data

/-- A tool as it is announced. -/
structure Definition where
  name : String
  description : String
  schema : Value
deriving Repr

/-- The definition as a value. -/
def Definition.value (d : Definition) : Value :=
  .object [("name", .text d.name), ("description", .text d.description), ("inputSchema", d.schema)]

/-! ## Schemas -/

/-- The schema of an argument. -/
def argument (name type description : String) (more : List (String × Value) := []) :
    String × Value :=
  (name, .object ([("type", .text type)] ++ more ++ [("description", .text description)]))

/-- The schema of the number of workers of a stage. -/
def workersArgument (stage : String) : String × Value :=
  argument (stage ++ "_workers") "integer"
    s!"Parallelism of the {stage} stage (default: 1)" [("minimum", .integer 1)]

/-- The schema of the arguments of a tool. -/
def schemaOf (arguments : List (String × Value)) (required : List String) : Value :=
  .object ([("type", .text "object"), ("properties", .object arguments)]
    ++ (if required.isEmpty then [] else [("required", .texts required)]))

/-! ## The tools -/

/-- The tool for one source. -/
def scaffoldTests : Definition where
  name := "scaffold_tests"
  description := "Generate NUnit test scaffolds for C# code. "
    ++ "Each public class gets a [TestFixture] with a [SetUp] that mocks "
    ++ "interface-typed constructor dependencies with Moq, and one "
    ++ "Arrange/Act/Assert skeleton per public method that fails until completed."
  schema := schemaOf
    [argument "file_path" "string" "Path to the C# file to scaffold tests for",
     argument "code" "string" "C# code content (alternative to file_path)",
     argument "output_dir" "string"
       "Directory where to save the generated test files (optional)"] []

/-- The tool for many files. -/
def scaffoldFiles : Definition where
  name := "scaffold_files"
  description := "Generate NUnit test scaffolds for many C# files concurrently. "
    ++ "Files flow through read, generate and write stages, each with its own "
    ++ "degree of parallelism; one <Namespace>.<Class>Tests.cs file is written "
    ++ "per public class."
  schema := schemaOf
    [argument "paths" "array" "C# source files to scaffold"
       [("items", .object [("type", .text "string")])],
     argument "output_dir" "string" "Directory receiving the generated test files",
     workersArgument "read", workersArgument "generate", workersArgument "write",
     argument "fail_fast" "boolean" "Abort on the first failing file (default: true)"]
    ["paths", "output_dir"]

/-- All tools, in the order in which they are announced. -/
def definitions : List Definition := [scaffoldTests, scaffoldFiles]

end FixtureDraft.Tool
