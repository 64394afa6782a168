import FixtureDraft.Service.Batch
import FixtureDraft.Service.Generation
import FixtureDraft.Tool.Definition

/-!
# Calling tools

A call names a tool and brings arguments. The answer is a text, for errors too; only a path
that no path can be ends a call without an answer.
-/

namespace FixtureDraft.Tool

open FixtureDraft.Data
open FixtureDraft.Files
open FixtureDraft.Service

/-- The answer to a call, if there is one, and the files after it. -/
abbrev Answer := Store × Except PathFault String

/-- The text of an error. -/
def errorText (e : ServiceError) : String := s!"Error: {e.message}"

/-- Fixtures for one source, as a text for people. -/
def callTests (e : Engine) (s : Store) (arguments : Value) : Answer :=
  let text (key : String) : Option String := (arguments.member? key).bind Value.text?
  let request : GenerationRequest :=
    { code := text "code", file := text "file_path", folder := text "output_dir" }
  match generateAndSave e {} s request with
  | (s, .ok generated) => (s, .ok generated.text)
  | (s, .error (.error error)) => (s, .ok (errorText error))
  | (s, .error (.path fault)) => (s, .error fault)

/-- The request for a batch that the arguments of a call make. -/
def batchRequest (arguments : Value) : BatchRequest :=
  let workers (key : String) : Value := (arguments.member? key).getD (.integer 1)
  { paths := ((arguments.member? "paths").bind Value.texts?).getD []
    folder := (arguments.member? "output_dir").bind Value.text?
    workers :=
      { read := workers "read_workers"
        generate := workers "generate_workers"
        write := workers "write_workers" }
    strict := ((arguments.member? "fail_fast").map Value.isYes).getD true }

/-- Fixtures for many files, with the report as JSON. -/
def callFiles (e : Engine) (s : Store) (arguments : Value) : Answer :=
  match (batchRequest arguments).run e s with
  | (s, .ok report) => (s, .ok report.value.json)
  | (s, .error (.error error)) => (s, .ok (errorText error))
  | (s, .error (.path fault)) => (s, .error fault)

/-- Calls the tool of that name. -/
def dispatch (e : Engine) (s : Store) (name : String) (arguments : Value) : Answer :=
  if name = scaffoldTests.name then callTests e s arguments
  else if name = scaffoldFiles.name then callFiles e s arguments
  else (s, .ok s!"Unknown tool: {name}")

end FixtureDraft.Tool
