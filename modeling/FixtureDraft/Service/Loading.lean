import FixtureDraft.Files.Store
import FixtureDraft.Service.Outcome
import FixtureDraft.Text.Numeral

/-!
# Loading a source

A source comes from a file or from the request itself. A file has to have a known extension, to
be there and to be a text; no source may be too large.
-/

namespace FixtureDraft.Service

open FixtureDraft.Data
open FixtureDraft.Files
open FixtureDraft.Text

/-- Why a source is not loaded. Some faults of paths are no error of the service: they end the
request without an outcome. -/
inductive LoadFault
  | error (e : ServiceError)
  | path (fault : PathFault)
deriving Repr

/-- The limits for sources: their size in characters, and the extensions of their files. -/
structure Limits where
  maxSize : Int := 1000000
  extensions : List String := [".cs"]
deriving DecidableEq, Repr

/-- A source, and the file that it comes from, as the request names it. -/
structure LoadedCode where
  content : String
  sourcePath : Option String := none
deriving DecidableEq, Repr

namespace Limits

/-- A service error that ends the loading. -/
def refuse {α : Type} (code : ErrorCode) (message : String)
    (details : List (String × Value) := []) : Except LoadFault α :=
  .error (.error { code, message, details })

/-- The error that a file has no known extension. -/
def wrongExtension (l : Limits) (extension : String) : ServiceError :=
  let shown := if extension = "" then "no extension" else extension
  { code := .invalidExtension
    message := s!"Only C# files allowed (got {shown})"
    details := [
      ("extension", .text extension),
      ("allowed", .texts (l.extensions.mergeSort fun a b => decide (a ≤ b)))] }

/-- The path of a source file, if the file may be loaded. -/
def validatePath (l : Limits) (s : Store) (file : String) : Except LoadFault Path := do
  let path := Path.ofText file
  if !l.extensions.contains path.suffix then
    throw (.error (l.wrongExtension path.suffix))
  match s.look path with
  | .error fault => throw (.path fault)
  | .ok none => refuse .fileNotFound s!"File not found: {file}"
  | .ok (some .folder) => refuse .validationError s!"Path is not a file: {file}"
  | .ok (some (.file _)) => return path

/-- The source, if it is not too large. -/
def checkSize (l : Limits) (what : String) (code : LoadedCode) : Except LoadFault LoadedCode :=
  let size := code.content.length
  if l.maxSize < size then
    refuse .fileTooLarge
      s!"{what} too large: {groupedInt size} bytes (max: {groupedInt l.maxSize})"
      [("size", .integer size), ("max_size", .integer l.maxSize)]
  else .ok code

/-- The source in a file. As stores have no permissions, no file is refused for lack of one. -/
def loadFile (l : Limits) (s : Store) (file : String) : Except LoadFault LoadedCode := do
  let path ← l.validatePath s file
  match s.readText path.text with
  | .error fault => refuse .internalError s!"Error reading file: {fault.message}"
  | .ok content => l.checkSize "File" { content, sourcePath := some file }

/-- The source of a request. A file counts more than code, and a file without a name is none. -/
def load (l : Limits) (s : Store) (code file : Option String) : Except LoadFault LoadedCode :=
  match file.filter (· != ""), code with
  | some file, _ => l.loadFile s file
  | none, some code => l.checkSize "Code" { content := code }
  | none, none => refuse .missingInput "Please provide either 'file_path' or 'code'"

end Limits

end FixtureDraft.Service
