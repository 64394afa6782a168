import FixtureDraft.Batch.Run
import FixtureDraft.CommandLine.Arguments
import FixtureDraft.Files.Survey

/-!
# The command line

What the program does with its arguments and with files: it ends with an exit code and with what
it prints, and leaves the files as they are then. Wrong usage and help touch no file.
-/

namespace FixtureDraft.CommandLine

open FixtureDraft.Batch
open FixtureDraft.Files

/-! ## Texts -/

/-- The name of the program. -/
def programName : String := "nunit-scaffold"

/-- How to call the program. -/
def usageText : String :=
  "usage: nunit-scaffold [-h] [-v]\n"
    ++ "                      paths output_dir read_workers generate_workers\n"
    ++ "                      write_workers\n"

/-- What the program is for, and what its arguments mean. -/
def helpText : String :=
  usageText ++ "\n"
    ++ "Generate NUnit test scaffolds for C# source files\n\n"
    ++ "positional arguments:\n"
    ++ "  paths             Input C# files separated by '|'\n"
    ++ "  output_dir        Directory receiving the generated test files\n"
    ++ "  read_workers      Parallelism of the read stage\n"
    ++ "  generate_workers  Parallelism of the generate stage\n"
    ++ "  write_workers     Parallelism of the write stage\n\n"
    ++ "options:\n"
    ++ "  -h, --help        show this help message and exit\n"
    ++ "  -v, --verbose     Enable debug logging\n"

/-! ## Endings -/

/-- How the program ends. -/
inductive Ending
  | help
  | finished (code : Nat) (output errors : String)
deriving DecidableEq, Repr

/-- What ends the program without an exit code of its own: a path that no path can be, or an
argument that is nothing. -/
inductive Crash
  | path (fault : PathFault)
  | nothing (p : Positional)
deriving DecidableEq, Repr

/-- What a crash leaves behind in one line. -/
def Crash.message : Crash → String
  | path fault => fault.message
  | nothing .paths => "'list' object has no attribute 'split'"
  | nothing .outputDir => "expected str, bytes or os.PathLike object, not list"
  | nothing p => s!"{p.name} must be an integer (got [])"

namespace Ending

/-- The ending after wrong usage. -/
def usage (message : String) : Ending :=
  finished 2 "" (usageText ++ s!"{programName}: error: {message}\n")

/-- The ending after a batch that could not be finished. -/
def failure (message : String) : Ending :=
  finished 1 "" s!"Error: {message}\n"

/-- The ending after a batch with a report. -/
def ofReport (r : Report) : Ending :=
  finished (if r.success then 0 else 1) r.summary ""

/-- The ending of a batch. -/
def ofResult : Except RunFault Report → Except Crash Ending
  | .ok report => .ok (ofReport report)
  | .error (.folder .nulByte) => .error (.path .nulByte)
  | .error fault => .ok (failure fault.message)

end Ending

/-- The first argument behind the paths that is nothing; the folder counts last. -/
def Arguments.nothing? (a : Arguments) : Option Positional :=
  if a.readWorkers.isNone then some .readWorkers
  else if a.generateWorkers.isNone then some .generateWorkers
  else if a.writeWorkers.isNone then some .writeWorkers
  else if a.outputDir.isNone then some .outputDir
  else none

/-- Runs the program with its arguments. -/
def run (e : Engine) (s : Store) (args : List String) : Store × Except Crash Ending :=
  match parseArguments args with
  | .error .help => (s, .ok .help)
  | .error (.usage message) => (s, .ok (.usage message))
  | .ok arguments =>
    match arguments.paths.map splitPaths, arguments.nothing? with
    | none, _ => (s, .error (.nothing .paths))
    | some [], _ => (s, .ok (.usage "at least one input path is required"))
    | some _, some p => (s, .error (.nothing p))
    | some paths, none =>
      let folder := .ofText (arguments.outputDir.getD "")
      let (s, result) := { engine := e, folder : Job }.run s paths
      (s, Ending.ofResult result)

/-- The places that the paths among the arguments lead through, in a store with this home. -/
def placesFor (s : Store) (args : List String) : List (List String) :=
  match parseArguments args with
  | .error _ => []
  | .ok arguments =>
    (arguments.outputDir.toList ++ (arguments.paths.map splitPaths).getD []).flatMap
      fun p => s.placesOf (.ofText p)

end FixtureDraft.CommandLine
