import FixtureDraft.CommandLine.Run

/-!
# The program

Reads the arguments and the files they name, lets the command line run on them, writes what it
has changed and prints what it says.
-/

namespace FixtureDraft

open FixtureDraft.Files
open FixtureDraft.CommandLine

/-- The name by which the system knows a place. -/
def placeText (place : List String) : String :=
  "/" ++ "/".intercalate place

/-- What stands at a place of the file system. What cannot be read counts as not there. -/
def probe (place : List String) : IO (Option Entry) := do
  try
    return some (.file (← IO.FS.readBinFile (placeText place)).toList)
  catch
    | .inappropriateType .. => return some .folder
    | _ => return none

/-- The store with what stands at some places of the file system. -/
def survey (s : Store) (places : List (List String)) : IO Store :=
  places.foldlM
    (fun s place => do
      match ← probe place with
      | some e => return s.put place e
      | none => return s) s

/-- Puts something at a place of the file system. -/
def commit : List String × Entry → IO Unit
  | (place, .folder) => IO.FS.createDir (placeText place)
  | (place, .file content) => IO.FS.writeBinFile (placeText place) content.toByteArray

/-- Prints how the program ended and gives the exit code. -/
def conclude : Except Crash Ending → IO UInt32
  | .ok .help => do
    IO.print helpText
    return 0
  | .ok (.finished code output errors) => do
    IO.print output
    IO.eprint errors
    return code.toUInt32
  | .error crash => do
    IO.eprintln crash.message
    return 1

end FixtureDraft

open FixtureDraft FixtureDraft.Files FixtureDraft.CommandLine in
/-- The program. What stands where it wants to write decides whether it can, so it runs a second
time when those places are known too. -/
def main (args : List String) : IO UInt32 := do
  let home : Store := { home := (Path.ofText (← IO.currentDir).toString).steps }
  let inputs ← survey home (placesFor home args)
  let known ← survey inputs ((inputs.changes (run {} inputs args).1).map (·.1))
  let (after, ending) := run {} known args
  (known.changes after).forM commit
  conclude ending
