import FixtureDraft.Batch.Line

/-!
# Strict lines

A strict batch ends at its first failure. The worker that met it stops, and then all others are
stopped, which may take a while: until then they go on with what they have. `Line.StrictStep` is a
step of such a line, and `Line.Ends` says how the batch may end.
-/

namespace FixtureDraft.Batch

variable {α ρ β : Type}

/-- A worker has failed if one of its items did. -/
def Worker.HasFailed (w : Worker α ρ β) : Prop := ∃ e ∈ w.log, e.2.isOk = false

/-- In the second pool, those workers that have failed in the first one are as they were. -/
def Pool.Leaves (p p' : Pool α ρ β) : Prop :=
  ∀ (i : Nat) (w : Worker α ρ β), p.workers[i]? = some w → w.HasFailed → p'.workers[i]? = some w

/-- The faults of all stages. -/
def Ledger.faults (g : Ledger) (j : Job) : List StageFault :=
  g.read.faults reader ++ g.generate.faults j.generator ++ g.write.faults j.writer

namespace Line

/-- One thing happens, and no worker that has failed takes part in it. -/
structure StrictStep (j : Job) (l l' : Line) : Prop where
  step : Step j l l'
  reading : l.reading.Leaves l'.reading
  generating : l.generating.Leaves l'.generating
  writing : l.writing.Leaves l'.writing

/-- How a strict batch ends: with its report if the line is finished, or with a fault that some
worker met. -/
inductive Ends (j : Job) (l : Line) : Except RunFault Report → Prop
  | report (hfinished : l.Finished) : Ends j l (.ok (l.ledger.report j))
  | fault {f : StageFault} (hfault : f ∈ l.ledger.faults j) : Ends j l (.error (.stage f))

end Line

end FixtureDraft.Batch
