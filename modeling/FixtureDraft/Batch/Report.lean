import FixtureDraft.Data.Value

/-!
# Reports of batches

A batch of source files goes through three stages. Its report names the sources that were read
and the files that were written, and tells of each item that failed where it failed and why.
-/

namespace FixtureDraft.Batch

open FixtureDraft.Data

/-- A stage of a batch. -/
inductive Stage
  | read
  | generate
  | write
deriving DecidableEq, Repr

/-- The word for a stage. -/
def Stage.word : Stage → String
  | read => "read"
  | generate => "generate"
  | write => "write"

/-- An item that failed, for a report. -/
structure Failure where
  stage : String
  item : String
  error : String
deriving DecidableEq, Repr

/-- The failure as a value. -/
def Failure.value (f : Failure) : Value :=
  .object [("stage", .text f.stage), ("item", .text f.item), ("error", .text f.error)]

/-- What came of a batch. -/
structure Report where
  read : List String := []
  written : List String := []
  failures : List Failure := []
deriving DecidableEq, Repr

namespace Report

/-- Whether nothing failed. -/
def success (r : Report) : Bool := r.failures.isEmpty

/-- The report as a value, with the numbers first. -/
def value (r : Report) : Value :=
  .object [
    ("summary", .object [
      ("read", .integer r.read.length),
      ("written", .integer r.written.length),
      ("failed", .integer r.failures.length)]),
    ("written", .texts r.written),
    ("failures", .array (r.failures.map Failure.value))]

/-- The lines of a short summary: the numbers, and the failures. -/
def summaryLines (r : Report) : List String :=
  s!"Read {r.read.length} file(s), wrote {r.written.length} test file(s)"
    :: r.failures.map fun f => s!"  failed [{f.stage}] {f.item}: {f.error}"

/-- The summary as text. Each line is ended. -/
def summary (r : Report) : String :=
  String.join (r.summaryLines.map (· ++ "\n"))

end Report

end FixtureDraft.Batch
