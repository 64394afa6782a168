import FixtureDraft.Batch.Run

/-!
# A batch as a line of workers

The stages of a batch work side by side. Each stage has workers that take items from the queue of
the stage, handle them, and put what they made of them into the queue of the next stage. A queue
has room for two items for each worker that takes from it, and a full one has to be waited for.
When all workers of a stage are done, the stage puts a closing mark for each worker of the next
one into its queue, and a worker that takes a mark is done.

Which worker goes on next is left open: `Line.Step` relates a line to every line that may come
next. The line is that of a tolerant batch. `Job.run` goes through the stages one after the
other instead; both keep the same ledger of what became of every item.
-/

namespace FixtureDraft.Batch

open FixtureDraft.Data
open FixtureDraft.Files

variable {α ρ β : Type}

/-! ## Handlers -/

/-- What the workers share: the files, and the names that are claimed. -/
structure Disk where
  store : Store
  claimed : List String := []

/-- How a stage handles an item. What `accept` does is done as the item is taken; `handle` takes
time, and others may work meanwhile. -/
structure Handler (α ρ β : Type) where
  stage : Stage
  label : α → String
  accept : Disk → α → Except Cause Disk := fun d _ => .ok d
  handle : Disk → α → Except Cause (Disk × ρ)
  outputs : α → ρ → List β

/-- Reads a source file. -/
def reader : Handler String String (String × String) where
  stage := .read
  label path := path
  handle d path := ((d.store.readText path).mapError .unread).map (d, ·)
  outputs path code := [(path, code)]

namespace Job

/-- Generates fixtures from a source text. -/
def generator (j : Job) : Handler (String × String) (List FixtureFile) FixtureFile where
  stage := .generate
  label source := source.1
  handle d source := ((j.engine.files source.2).mapError .unparsed).map (d, ·)
  outputs _ files := files

/-- Writes a file. Its name is claimed before that, or it is refused. -/
def writer (j : Job) : Handler FixtureFile String Empty where
  stage := .write
  label f := f.qualifiedName
  accept d f :=
    if d.claimed.contains f.qualifiedName then .error (.duplicate f.qualifiedName)
    else .ok { d with claimed := f.qualifiedName :: d.claimed }
  handle d f :=
    ((d.store.write (j.target f) (Text.encode f.code)).mapError .unwritten).map fun s =>
      ({ d with store := s }, (j.target f).text)
  outputs _ _ := []

end Job

/-! ## Logs -/

/-- What became of items, in the order in which they were handled. -/
abbrev Log (α ρ : Type) := List (α × Except Cause ρ)

namespace Log

/-- The items that were handled. -/
def items (log : Log α ρ) : List α := log.map (·.1)

/-- The items that did not fail, with their results. -/
def results (log : Log α ρ) : List (α × ρ) :=
  log.filterMap fun e => e.2.toOption.map (e.1, ·)

/-- The faults of the items that failed. -/
def faults (h : Handler α ρ β) (log : Log α ρ) : List StageFault :=
  log.filterMap fun e =>
    match e.2 with
    | .ok _ => none
    | .error cause => some ⟨h.stage, h.label e.1, cause⟩

/-- What the results hand on to the next stage. -/
def outputs (h : Handler α ρ β) (log : Log α ρ) : List β :=
  log.results.flatMap fun e => h.outputs e.1 e.2

end Log

/-- The logs of the three stages. -/
structure Ledger where
  read : Log String String
  generate : Log (String × String) (List FixtureFile)
  write : Log FixtureFile String

/-- The report that a ledger makes. -/
def Ledger.report (g : Ledger) (j : Job) : Report where
  read := g.read.results.map (·.1)
  written := (g.write.results.map (·.2)).mergeSort Job.textLE
  failures :=
    (g.read.faults reader ++ g.generate.faults j.generator ++ g.write.faults j.writer).map
      StageFault.failure

/-! ## Workers of one stage -/

/-- What a worker is doing: it handles an item, hands on outputs, or is done. It waits for the
next item when no output is left. -/
inductive Activity (α β : Type)
  | handling (item : α)
  | passing (outputs : List β)
  | done

/-- A worker, and what it has handled. -/
structure Worker (α ρ β : Type) where
  activity : Activity α β := .passing []
  log : Log α ρ := []

/-- The workers of a stage with the queue they take from, where `none` is a closing mark, and the
number of marks that the stage still has to put into the next queue. -/
structure Pool (α ρ β : Type) where
  inbox : List (Option α) := []
  workers : List (Worker α ρ β)
  marks : Nat

namespace Pool

/-- Workers with nothing to do yet. -/
def start (workers marks : Nat) : Pool α ρ β :=
  { workers := List.replicate workers {}, marks }

/-- The queue is not full. -/
def HasRoom (p : Pool α ρ β) : Prop := p.inbox.length < 2 * p.workers.length

/-- All workers are done. -/
def Closed (p : Pool α ρ β) : Prop := ∀ w ∈ p.workers, w.activity matches .done

/-- Puts an item or a mark into the queue. -/
def put (p : Pool α ρ β) (x : Option α) : Pool α ρ β := { p with inbox := p.inbox ++ [x] }

/-- What became of the items of the stage, worker by worker. -/
def log (p : Pool α ρ β) : Log α ρ := p.workers.flatMap (·.log)

/-- A worker takes an item or a mark from the queue, or ends the handling of its item. -/
inductive Step (h : Handler α ρ β) : Disk → Pool α ρ β → Disk → Pool α ρ β → Prop
  | close {d inbox before log after marks} :
    Step h d ⟨none :: inbox, before ++ ⟨.passing [], log⟩ :: after, marks⟩
      d ⟨inbox, before ++ ⟨.done, log⟩ :: after, marks⟩
  | take {d d' a inbox before log after marks} (haccept : h.accept d a = .ok d') :
    Step h d ⟨some a :: inbox, before ++ ⟨.passing [], log⟩ :: after, marks⟩
      d' ⟨inbox, before ++ ⟨.handling a, log⟩ :: after, marks⟩
  | refuse {d a cause inbox before log after marks} (haccept : h.accept d a = .error cause) :
    Step h d ⟨some a :: inbox, before ++ ⟨.passing [], log⟩ :: after, marks⟩
      d ⟨inbox, before ++ ⟨.passing [], log ++ [(a, .error cause)]⟩ :: after, marks⟩
  | finish {d d' a r inbox before log after marks} (hhandle : h.handle d a = .ok (d', r)) :
    Step h d ⟨inbox, before ++ ⟨.handling a, log⟩ :: after, marks⟩
      d' ⟨inbox, before ++ ⟨.passing (h.outputs a r), log ++ [(a, .ok r)]⟩ :: after, marks⟩
  | fail {d a cause inbox before log after marks} (hhandle : h.handle d a = .error cause) :
    Step h d ⟨inbox, before ++ ⟨.handling a, log⟩ :: after, marks⟩
      d ⟨inbox, before ++ ⟨.passing [], log ++ [(a, .error cause)]⟩ :: after, marks⟩

/-- A worker hands on an output, or the stage, with all workers done, a mark. -/
inductive Emits : Pool α ρ β → Option β → Pool α ρ β → Prop
  | output {inbox before b bs log after marks} :
    Emits ⟨inbox, before ++ ⟨.passing (b :: bs), log⟩ :: after, marks⟩
      (some b) ⟨inbox, before ++ ⟨.passing bs, log⟩ :: after, marks⟩
  | mark {p : Pool α ρ β} {marks : Nat} (hclosed : p.Closed) (hmarks : p.marks = marks + 1) :
    Emits p none { p with marks }

end Pool

/-! ## The line -/

/-- The number of workers that a value asks for. -/
def Workers.count : Value → Nat
  | .integer n => n.toNat
  | _ => 0

/-- The stages at work, and what has yet to be put into the first queue. -/
structure Line where
  disk : Disk
  feed : List (Option String)
  reading : Pool String String (String × String)
  generating : Pool (String × String) (List FixtureFile) FixtureFile
  writing : Pool FixtureFile String Empty

namespace Line

/-- The line before anything is done. -/
def start (w : Workers) (s : Store) (paths : List String) : Line where
  disk := { store := s }
  feed := paths.map some ++ List.replicate (Workers.count w.read) none
  reading := .start (Workers.count w.read) (Workers.count w.generate)
  generating := .start (Workers.count w.generate) (Workers.count w.write)
  writing := .start (Workers.count w.write) 0

/-- One thing happens: an item or a mark is put into a queue that has room, or a worker takes one
or ends its handling. -/
inductive Step (j : Job) : Line → Line → Prop
  | feed {l : Line} {x feed} (hfeed : l.feed = x :: feed) (hroom : l.reading.HasRoom) :
    Step j l { l with feed, reading := l.reading.put x }
  | read {l : Line} {disk reading} (hstep : l.reading.Step reader l.disk disk reading) :
    Step j l { l with disk, reading }
  | passSource {l : Line} {x reading} (hemits : l.reading.Emits x reading)
      (hroom : l.generating.HasRoom) :
    Step j l { l with reading, generating := l.generating.put x }
  | generate {l : Line} {disk generating}
      (hstep : l.generating.Step j.generator l.disk disk generating) :
    Step j l { l with disk, generating }
  | passFile {l : Line} {x generating} (hemits : l.generating.Emits x generating)
      (hroom : l.writing.HasRoom) :
    Step j l { l with generating, writing := l.writing.put x }
  | write {l : Line} {disk writing} (hstep : l.writing.Step j.writer l.disk disk writing) :
    Step j l { l with disk, writing }

/-- Everything is fed, and every stage is closed and has closed the next one. -/
structure Finished (l : Line) : Prop where
  feed : l.feed = []
  reading : l.reading.Closed ∧ l.reading.marks = 0
  generating : l.generating.Closed ∧ l.generating.marks = 0
  writing : l.writing.Closed

/-- The logs of the stages. -/
def ledger (l : Line) : Ledger where
  read := l.reading.log
  generate := l.generating.log
  write := l.writing.log

end Line

end FixtureDraft.Batch
