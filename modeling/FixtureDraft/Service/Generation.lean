import FixtureDraft.Analysis
import FixtureDraft.Service.Loading

/-!
# Fixtures for one source

Loads a source, generates its fixtures and saves them, if a folder is given. A file that cannot
be saved is no error: the fixtures are there all the same, and a warning tells of it.
-/

namespace FixtureDraft.Service

open FixtureDraft.Data
open FixtureDraft.Files
open FixtureDraft.Text

/-- What a request for fixtures gives: the files, the path of the source, the paths saved to
and the warnings. -/
structure Generated where
  files : List FixtureFile
  sourcePath : Option String := none
  savedTo : List String := []
  warnings : List String := []
deriving Repr

/-- A request for fixtures. -/
structure GenerationRequest where
  code : Option String := none
  file : Option String := none
  folder : Option String := none
deriving DecidableEq, Repr

/-- What has been saved. -/
structure Saving where
  savedTo : List String := []
  warnings : List String := []
deriving DecidableEq, Repr

/-- A coordinate as a value. -/
def coordinateValue : Option Nat → Value
  | some n => .integer n
  | none => .null

/-- The error that a source is faulty. -/
def parseError (fault : SourceFault) : ServiceError :=
  { code := .parseError
    message := s!"Cannot generate tests: {fault.message}"
    details := [("line", coordinateValue fault.line), ("column", coordinateValue fault.column)] }

/-- The error that a source is not loaded. -/
def loadError (e : ServiceError) : ServiceError :=
  { e with message := s!"Cannot generate tests: {e.message}" }

/-- Generates the fixtures of the request's source. No file is written. -/
def generate (e : Engine) (l : Limits) (s : Store) (r : GenerationRequest) :
    Except LoadFault Generated :=
  match l.load s r.code r.file with
  | .error (.error error) => .error (.error (loadError error))
  | .error (.path fault) => .error (.path fault)
  | .ok loaded =>
    match e.files loaded.content with
    | .error fault => .error (.error (parseError fault))
    | .ok files =>
      .ok {
        files
        sourcePath := loaded.sourcePath
        warnings := if files.isEmpty then ["No public classes found"] else [] }

/-! ## Saving -/

/-- Saves a text, and first makes the folders around its path. As stores have no permissions,
neither is refused for lack of one. -/
def saveText (s : Store) (target : Path) (text : String) : Store × Option PathFault :=
  match s.makeFolders target.parent with
  | (s, some fault) => (s, some fault)
  | (s, none) =>
    match s.write target (encode text) with
    | .ok s => (s, none)
    | .error fault => (s, some fault)

/-- Saves files into a folder, in turn. A path that no path can be ends the saving. -/
def saveAll (folder : Path) : List FixtureFile → Store → Store × Except PathFault Saving
  | [], s => (s, .ok {})
  | f :: fs, s =>
    let target := folder.join (.ofText (f.qualifiedName ++ ".cs"))
    match saveText s target f.code with
    | (s, some .nulByte) => (s, .error .nulByte)
    | (s, some fault) =>
      let (s, rest) := saveAll folder fs s
      let warning := s!"Could not save to file: Failed to save file: {fault.message}"
      (s, rest.map fun r => { r with warnings := warning :: r.warnings })
    | (s, none) =>
      let (s, rest) := saveAll folder fs s
      (s, rest.map fun r => { r with savedTo := target.text :: r.savedTo })

/-- Generates the fixtures of the request's source and saves them into the request's folder. A
folder without a name is none. -/
def generateAndSave (e : Engine) (l : Limits) (s : Store) (r : GenerationRequest) :
    Store × Except LoadFault Generated :=
  match generate e l s r, r.folder.filter (· != "") with
  | .error fault, _ => (s, .error fault)
  | .ok generated, none => (s, .ok generated)
  | .ok generated, some folder =>
    match saveAll (.ofText folder) generated.files s with
    | (s, .error fault) => (s, .error (.path fault))
    | (s, .ok saving) =>
      (s, .ok { generated with
        savedTo := saving.savedTo
        warnings := generated.warnings ++ saving.warnings })

/-! ## Texts -/

/-- A line across the page. -/
def separatorLine : String := String.ofList (List.replicate 60 '=')

/-- What was generated as a text for people: a list of the test classes, what there is to
note, and the files. -/
def Generated.text (g : Generated) : String :=
  let noted (title : String) (lines : List String) : List String :=
    if lines.isEmpty then [] else "" :: title :: lines.map ("  - " ++ ·)
  "\n".intercalate (
    [s!"Generated {g.files.length} test class(es)"]
      ++ g.files.map (fun f =>
        s!"  - {f.qualifiedName}: {f.fixture.tests.length} test method(s)")
      ++ noted "Warnings/Notes:" g.warnings
      ++ noted "Saved to:" g.savedTo
      ++ g.files.flatMap fun f =>
        ["", separatorLine, f.qualifiedName ++ ".cs", separatorLine, "", f.code])

end FixtureDraft.Service
