import FixtureDraft.Batch.Run
import FixtureDraft.Service.Outcome
import FixtureDraft.Text.Blank

/-!
# Fixtures for many files

Checks a request for a batch, runs the batch, and turns what may go wrong into errors.
-/

namespace FixtureDraft.Service

open FixtureDraft.Batch
open FixtureDraft.Data
open FixtureDraft.Files

/-- A request for a batch. -/
structure BatchRequest where
  paths : List String
  folder : Option String
  workers : Workers := {}
  strict : Bool := true
deriving Repr

/-- Why a batch has no report: an error, or a path that cannot be one. -/
inductive BatchFault
  | error (e : ServiceError)
  | path (fault : PathFault)
deriving Repr

namespace BatchRequest

/-- The folder of the request, if nothing that is required is missing and the numbers of workers
are right. -/
def check (r : BatchRequest) : Except ServiceError String :=
  if r.paths.isEmpty then
    .error { code := .missingInput, message := "'paths' is required and cannot be empty" }
  else
    match r.folder.filter (!Text.isBlankText ·) with
    | none =>
      .error { code := .missingInput, message := "'output_dir' is required and cannot be empty" }
    | some folder =>
      match r.workers.check with
      | .error complaint => .error { code := .validationError, message := complaint }
      | .ok () => .ok folder

/-- The fault of a batch as one of the service. -/
def faultOf : RunFault → BatchFault
  | .folder .nulByte => .path .nulByte
  | .folder fault =>
    .error {
      code := .internalError
      message := s!"Cannot prepare output directory: {fault.message}" }
  | .stage fault =>
    .error {
      code := .pipelineError
      message := fault.message
      details := [("stage", .text fault.stage.word), ("item", .text fault.item)] }

/-- Runs the batch. -/
def run (e : Engine) (s : Store) (r : BatchRequest) : Store × Except BatchFault Report :=
  match r.check with
  | .error error => (s, .error (.error error))
  | .ok folder =>
    let job : Job := { engine := e, folder := .ofText folder, strict := r.strict }
    let (s, report) := job.run s r.paths
    (s, report.mapError faultOf)

end BatchRequest

end FixtureDraft.Service
