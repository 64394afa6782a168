import FixtureDraft.Analysis
import FixtureDraft.Batch.Report
import FixtureDraft.Files.Store

/-!
# Running a batch

Source files are read, fixtures are generated from them, and the fixtures are written into one
folder. A stage handles its items one by one; what fails in a stage does not reach the next one.
A tolerant batch notes its failures and goes on with the rest. A strict one ends at its first
failure.

Every file of a batch goes by its qualified name, and the first to claim a name has it.
-/

namespace FixtureDraft.Batch

open FixtureDraft.Data
open FixtureDraft.Files

/-! ## Failures -/

/-- Why an item failed. -/
inductive Cause
  | unread (fault : ReadFault)
  | unparsed (fault : SourceFault)
  | duplicate (name : String)
  | unwritten (fault : PathFault)
deriving DecidableEq, Repr

/-- The complaint that a second test class has a name. -/
def duplicateMessage (name : String) : String :=
  s!"Duplicate generated test class: {name}"

/-- The cause in one line. -/
def Cause.message : Cause → String
  | unread fault => fault.message
  | unparsed fault => fault.message
  | duplicate name => duplicateMessage name
  | unwritten fault => fault.message

/-- An item that failed in a stage. -/
structure StageFault where
  stage : Stage
  item : String
  cause : Cause
deriving DecidableEq, Repr

/-- The complaint that a stage failed. -/
def stageMessage (stage item cause : String) : String :=
  s!"{stage} stage failed for {item}: {cause}"

namespace StageFault

/-- The fault in one line. -/
def message (f : StageFault) : String :=
  stageMessage f.stage.word f.item f.cause.message

/-- The fault as it is reported. -/
def failure (f : StageFault) : Failure :=
  { stage := f.stage.word, item := f.item, error := f.cause.message }

end StageFault

/-- Why a batch has no report: its folder cannot be made, or a strict batch met a failure. -/
inductive RunFault
  | folder (fault : PathFault)
  | stage (fault : StageFault)
deriving DecidableEq, Repr

/-- The fault in one line. -/
def RunFault.message : RunFault → String
  | folder fault => fault.message
  | stage fault => fault.message

/-! ## Workers -/

/-- How many workers each stage asks for, as given. -/
structure Workers where
  read : Value := .integer 1
  generate : Value := .integer 1
  write : Value := .integer 1
deriving Repr

namespace Workers

/-- What is wrong with a number of workers, if anything is. -/
def complaint? (name : String) : Value → Option String
  | .integer n => if n < 1 then some s!"{name} must be at least 1 (got {n})" else none
  | v => some s!"{name} must be an integer (got {v.shown})"

/-- The first thing that is wrong with the numbers of workers. -/
def check (w : Workers) : Except String Unit :=
  match (complaint? "read_workers" w.read <|> complaint? "generate_workers" w.generate)
      <|> complaint? "write_workers" w.write with
  | some complaint => .error complaint
  | none => .ok ()

end Workers

/-! ## Stages -/

/-- What a stage made of its items: results under the names of their items, and faults. -/
structure StageRun (β : Type) where
  results : List (String × β) := []
  faults : List StageFault := []

namespace StageRun

/-- Adds the item handled before all others. -/
def push {β : Type} (run : StageRun β) (stage : Stage) (item : String) :
    Except Cause β → StageRun β
  | .ok result => { run with results := (item, result) :: run.results }
  | .error cause => { run with faults := ⟨stage, item, cause⟩ :: run.faults }

end StageRun

/-- Handles items independently of each other. -/
def runStage {α β : Type} (stage : Stage) (handle : α → Except Cause β) :
    List (String × α) → StageRun β
  | [] => {}
  | (item, a) :: items => (runStage stage handle items).push stage item (handle a)

/-- Reads the source files. -/
def readStage (s : Store) (paths : List String) : StageRun String :=
  runStage .read (fun path => (s.readText path).mapError .unread) (paths.map fun p => (p, p))

/-- Generates fixtures from source texts. -/
def generateStage (e : Engine) (sources : List (String × String)) :
    StageRun (List FixtureFile) :=
  runStage .generate (fun code => (e.files code).mapError .unparsed) sources

/-- A batch to run: the engine, the folder and the extension of the files, and whether the
batch is strict. -/
structure Job where
  engine : Engine := {}
  folder : Path
  extension : String := ".cs"
  strict : Bool := true

namespace Job

/-- Where a file is written. -/
def target (j : Job) (f : FixtureFile) : Path :=
  j.folder.join (.ofText (f.qualifiedName ++ j.extension))

/-- Writes a file whose name none of `claimed` has. -/
def writeFile (j : Job) (claimed : List String) (s : Store) (f : FixtureFile) :
    Except Cause Store :=
  if claimed.contains f.qualifiedName then .error (.duplicate f.qualifiedName)
  else (s.write (j.target f) (Text.encode f.code)).mapError .unwritten

/-- Writes files one after another. A name is claimed even if its file cannot be written. -/
def writeStage (j : Job) : (claimed : List String) → Store → List FixtureFile →
    Store × StageRun String
  | _, s, [] => (s, {})
  | claimed, s, f :: fs =>
    match j.writeFile claimed s f with
    | .ok s =>
      let (s, run) := j.writeStage (f.qualifiedName :: claimed) s fs
      (s, run.push .write f.qualifiedName (.ok (j.target f).text))
    | .error cause =>
      let (s, run) := if j.strict then (s, {}) else j.writeStage (f.qualifiedName :: claimed) s fs
      (s, run.push .write f.qualifiedName (.error cause))

/-- The fault that ends a strict batch. -/
def stopsAt (j : Job) (faults : List StageFault) : Option RunFault :=
  if j.strict then faults.head?.map .stage else none

/-- The order of written files in a report. -/
def textLE (a b : String) : Bool := decide (a ≤ b)

/-- Runs the batch on the files that `paths` name. -/
def run (j : Job) (s : Store) (paths : List String) : Store × Except RunFault Report :=
  match s.makeFolders j.folder with
  | (s, some fault) => (s, .error (.folder fault))
  | (s, none) =>
    let reading := readStage s paths
    match j.stopsAt reading.faults with
    | some fault => (s, .error fault)
    | none =>
      let generating := generateStage j.engine reading.results
      match j.stopsAt generating.faults with
      | some fault => (s, .error fault)
      | none =>
        let (s, writing) := j.writeStage [] s (generating.results.flatMap (·.2))
        match j.stopsAt writing.faults with
        | some fault => (s, .error fault)
        | none =>
          (s, .ok {
            read := reading.results.map (·.1)
            written := (writing.results.map (·.2)).mergeSort textLE
            failures := (reading.faults ++ generating.faults ++ writing.faults).map
              StageFault.failure })

end Job

end FixtureDraft.Batch
