import FixtureDraft.Proofs.BatchFiles

/-!
# Stages with one worker

A worker that is alone in its stage handles items in the order in which they come and hands on their
outputs in that order. Where all stages are so, a line keeps its items in order from end to end
(`Line.InOrder`), and a single writer of a strict batch has come as far as the batch would have,
stage by stage (`Job.WritesInTurn`).
-/

namespace FixtureDraft.Batch

open FixtureDraft.Files

variable {α ρ β : Type}

/-! ## One worker -/

/-- What a single worker has before it, does and has done, in order. -/
structure Lane (α ρ β : Type) where
  queue : List α
  busy : List α
  owed : List β
  log : Log α ρ

/-- The items that came, in the order of their coming. -/
def Lane.arrived (v : Lane α ρ β) : List α := v.log.items ++ v.busy ++ v.queue

/-- What a step of a single worker does. -/
inductive LaneStep (h : Handler α ρ β) : Disk → Lane α ρ β → Disk → Lane α ρ β → Prop
  | silent {d v} : LaneStep h d v d v
  | take {d d' a queue log} (haccept : h.accept d a = .ok d') :
    LaneStep h d ⟨a :: queue, [], [], log⟩ d' ⟨queue, [a], [], log⟩
  | refuse {d a cause queue log} (haccept : h.accept d a = .error cause) :
    LaneStep h d ⟨a :: queue, [], [], log⟩ d ⟨queue, [], [], log ++ [(a, .error cause)]⟩
  | finish {d d' a r queue log} (hhandle : h.handle d a = .ok (d', r)) :
    LaneStep h d ⟨queue, [a], [], log⟩ d' ⟨queue, [], h.outputs a r, log ++ [(a, .ok r)]⟩
  | fail {d a cause queue log} (hhandle : h.handle d a = .error cause) :
    LaneStep h d ⟨queue, [a], [], log⟩ d ⟨queue, [], [], log ++ [(a, .error cause)]⟩

namespace Log

lemma items_append (log log' : Log α ρ) : (log ++ log').items = log.items ++ log'.items :=
  List.map_append

lemma outputs_append (h : Handler α ρ β) (log log' : Log α ρ) :
    (log ++ log').outputs h = log.outputs h ++ log'.outputs h := by
  rw [outputs, results, List.filterMap_append, List.flatMap_append]
  rfl

/-- Every source that was read is handed on. -/
lemma outputs_reader (log : Log String String) : log.outputs reader = log.results := by
  simp [outputs, reader]

lemma faults_append (h : Handler α ρ β) (log log' : Log α ρ) :
    (log ++ log').faults h = log.faults h ++ log'.faults h :=
  List.filterMap_append

end Log

namespace LaneStep

variable {h : Handler α ρ β} {d d' : Disk} {v v' : Lane α ρ β}

/-- The items stay in order. -/
lemma arrived_eq (hstep : LaneStep h d v d' v') : v'.arrived = v.arrived := by
  cases hstep
  case silent => rfl
  all_goals simp [Lane.arrived, Log.items]

/-- Where what was handed on and is owed is what the log makes, in order, it stays so. -/
lemma handed_append_owed (hstep : LaneStep h d v d' v') {handed : List β}
    (hmade : handed ++ v.owed = v.log.outputs h) : handed ++ v'.owed = v'.log.outputs h := by
  cases hstep with
  | silent => exact hmade
  | take _ => exact hmade
  | refuse _ | fail _ =>
    rw [Log.outputs_append, ← hmade]
    simp [Log.outputs, Log.results, Except.toOption]
  | finish _ =>
    rw [Log.outputs_append, ← hmade]
    simp [Log.outputs, Log.results, Except.toOption]

/-- A stage that only looks at the files adds to its log what it makes of the item at hand. -/
lemma log_cases {handle : Disk → α → Except Cause ρ} (haccept : ∀ d a, h.accept d a = .ok d)
    (hhandle : ∀ d a, h.handle d a = (handle d a).map (d, ·)) (hstep : LaneStep h d v d' v') :
    d' = d ∧ (v'.log = v.log ∨ ∃ a, v.busy = [a] ∧ v'.log = v.log ++ [(a, handle d a)]) := by
  cases hstep with
  | silent => exact ⟨rfl, Or.inl rfl⟩
  | take htaken =>
    rw [haccept] at htaken
    exact ⟨(Except.ok.inj htaken).symm, Or.inl rfl⟩
  | refuse hrefused =>
    rw [haccept] at hrefused
    cases hrefused
  | @finish _ a r _ _ hdone =>
    rw [hhandle] at hdone
    cases hresult : handle d a with
    | error cause => simp [hresult, Except.map] at hdone
    | ok r' =>
      simp only [hresult, Except.map, Except.ok.injEq, Prod.mk.injEq] at hdone
      obtain ⟨rfl, rfl⟩ := hdone
      exact ⟨rfl, Or.inr ⟨a, rfl, by rw [hresult]⟩⟩
  | @fail a cause _ _ hfailed =>
    rw [hhandle] at hfailed
    cases hresult : handle d a with
    | ok r => simp [hresult, Except.map] at hfailed
    | error cause' =>
      simp only [hresult, Except.map, Except.error.injEq] at hfailed
      obtain rfl := hfailed
      exact ⟨rfl, Or.inr ⟨a, rfl, by rw [hresult]⟩⟩

end LaneStep

namespace Pool

variable {h : Handler α ρ β} {d d' : Disk} {p p' : Pool α ρ β} {x : Option β}

/-- The items of a pool, in order if it has one worker. -/
def lane (p : Pool α ρ β) : Lane α ρ β where
  queue := p.inbox.reduceOption
  busy := p.workers.flatMap Worker.busy
  owed := p.workers.flatMap Worker.owed
  log := p.log

/-- A single worker has none before and after it. -/
private lemma eq_nil_of_length_eq_one {γ : Type} {before after : List γ} {w : γ}
    (hone : (before ++ w :: after).length = 1) : before = [] ∧ after = [] := by
  rw [List.length_append, List.length_cons] at hone
  exact ⟨List.length_eq_zero_iff.mp (by omega), List.length_eq_zero_iff.mp (by omega)⟩

/-- With a single worker a step of the pool is one of that worker. -/
lemma Step.laneStep (hstep : p.Step h d d' p') (hone : p.workers.length = 1) :
    LaneStep h d p.lane d' p'.lane := by
  cases hstep with
  | close =>
    obtain ⟨rfl, rfl⟩ := eq_nil_of_length_eq_one hone
    exact .silent
  | take haccept =>
    obtain ⟨rfl, rfl⟩ := eq_nil_of_length_eq_one hone
    simpa [lane, log, Worker.busy, Worker.owed] using LaneStep.take haccept
  | refuse haccept =>
    obtain ⟨rfl, rfl⟩ := eq_nil_of_length_eq_one hone
    simpa [lane, log, Worker.busy, Worker.owed] using LaneStep.refuse haccept
  | finish hhandle =>
    obtain ⟨rfl, rfl⟩ := eq_nil_of_length_eq_one hone
    simpa [lane, log, Worker.busy, Worker.owed] using LaneStep.finish hhandle
  | fail hhandle =>
    obtain ⟨rfl, rfl⟩ := eq_nil_of_length_eq_one hone
    simpa [lane, log, Worker.busy, Worker.owed] using LaneStep.fail hhandle

/-- The first of the outputs is handed on, and nothing else changes. -/
lemma Emits.lane_eq (hemits : p.Emits x p') (hone : p.workers.length = 1) :
    p.lane = { p'.lane with owed := x.toList ++ p'.lane.owed } := by
  cases hemits with
  | output =>
    obtain ⟨rfl, rfl⟩ := eq_nil_of_length_eq_one hone
    simp [lane, log, Worker.busy, Worker.owed]
  | mark _ _ => rfl

lemma Emits.log_eq (hemits : p.Emits x p') (hone : p.workers.length = 1) : p.log = p'.log :=
  congrArg Lane.log (hemits.lane_eq hone)

lemma arrived_put (p : Pool α ρ β) (x : Option α) :
    (p.put x).lane.arrived = p.lane.arrived ++ x.toList := by
  cases x
  all_goals simp [put, lane, Lane.arrived, List.reduceOption, log]

/-- A pool that is closed and has an empty queue has nothing but its log. -/
lemma Ready.arrived_eq {left : ℕ} (hready : p.Ready left) (hclosed : p.Closed) :
    p.lane.arrived = p.log.items ∧ p.lane.owed = [] := by
  have hview := hready.view_eq hclosed
  have hbusy : (p.lane.busy : Multiset α) = 0 := congrArg View.busy hview
  have howed : (p.lane.owed : Multiset β) = 0 := congrArg View.owed hview
  rw [Multiset.coe_eq_zero] at hbusy howed
  refine ⟨?_, howed⟩
  rw [Lane.arrived, hbusy, show p.lane.queue = [] by simp [lane, hready.inbox_eq_nil hclosed]]
  simp [lane]

/-- A single worker that has failed is left as it is. -/
lemma Leaves.lane_eq (hleaves : p.Leaves p') (hone : p.workers.length = 1)
    (hone' : p'.workers.length = 1) (hfailed : p.log.faults h ≠ []) :
    p'.lane.busy = p.lane.busy ∧ p'.log = p.log := by
  obtain ⟨w, hw⟩ := List.length_eq_one_iff.mp hone
  obtain ⟨w', hw'⟩ := List.length_eq_one_iff.mp hone'
  have hlog : p.log = w.log := by simp [log, hw]
  have hhas : w.HasFailed := by
    by_contra hnot
    refine hfailed (Log.faults_eq_nil_iff.mpr fun e he => ?_)
    by_contra hbad
    exact hnot ⟨e, hlog ▸ he, by simpa using hbad⟩
  have hsame := hleaves 0 w (by simp [hw]) hhas
  rw [hw', List.getElem?_cons_zero, Option.some.injEq] at hsame
  simp [lane, log, hw, hw', hsame]

end Pool

/-! ## Items in order -/

namespace Line

variable {j : Job} {l l' : Line} {paths : List String}

/-- Every stage has a single worker, and gets its items in the order in which the stage before it
has made them. -/
structure InOrder (j : Job) (paths : List String) (l : Line) : Prop where
  readers : l.reading.workers.length = 1
  generators : l.generating.workers.length = 1
  writers : l.writing.workers.length = 1
  reading : l.reading.lane.arrived ++ l.feed.reduceOption = paths
  generating : l.generating.lane.arrived ++ l.reading.lane.owed = l.reading.log.outputs reader
  writing :
    l.writing.lane.arrived ++ l.generating.lane.owed = l.generating.log.outputs j.generator

lemma inOrder_start (j : Job) (s : Store) (paths : List String) :
    (start {} s paths).InOrder j paths := by
  refine ⟨rfl, rfl, rfl, ?_, rfl, rfl⟩
  show ([] : List String) ++ (paths.map some ++ [none]).reduceOption = paths
  simp [List.reduceOption]

/-- Whatever happens next, the items stay in order. -/
lemma InOrder.step (horder : l.InOrder j paths) (hstep : Step j l l') : l'.InOrder j paths := by
  obtain ⟨hreaders, hgenerators, hwriters, hreading, hgenerating, hwriting⟩ := horder
  -- a worker changes nothing about what came to it, and what is handed on is put at the end
  cases hstep with
  | @feed x feed hfeed _ =>
    refine ⟨hreaders, hgenerators, hwriters, ?_, hgenerating, hwriting⟩
    rw [hfeed] at hreading
    rw [← hreading, Pool.arrived_put, List.append_assoc]
    cases x
    all_goals rfl
  | read hstep =>
    have hlane := hstep.laneStep hreaders
    refine ⟨hstep.workers_length.1.trans hreaders, hgenerators, hwriters, ?_,
      hlane.handed_append_owed hgenerating, hwriting⟩
    rw [hlane.arrived_eq, hreading]
  | @passSource x reading hemits _ =>
    have hlane := hemits.lane_eq hreaders
    refine ⟨hemits.workers_length.1.trans hreaders, hgenerators, hwriters, ?_, ?_, hwriting⟩
    · rw [← hreading, hlane]
      rfl
    · rw [Pool.arrived_put, List.append_assoc]
      rw [hlane] at hgenerating
      exact hgenerating.trans (congrArg (Log.outputs reader) (congrArg Lane.log hlane))
  | generate hstep =>
    have hlane := hstep.laneStep hgenerators
    refine ⟨hreaders, hstep.workers_length.1.trans hgenerators, hwriters, hreading, ?_,
      hlane.handed_append_owed hwriting⟩
    rw [hlane.arrived_eq, hgenerating]
  | @passFile x generating hemits _ =>
    have hlane := hemits.lane_eq hgenerators
    refine ⟨hreaders, hemits.workers_length.1.trans hgenerators, hwriters, hreading, ?_, ?_⟩
    · rw [← hgenerating, hlane]
      rfl
    · rw [Pool.arrived_put, List.append_assoc]
      rw [hlane] at hwriting
      exact hwriting.trans (congrArg (Log.outputs j.generator) (congrArg Lane.log hlane))
  | write hstep =>
    refine ⟨hreaders, hgenerators, hstep.workers_length.1.trans hwriters, hreading, hgenerating, ?_⟩
    rw [(hstep.laneStep hwriters).arrived_eq, hwriting]

end Line

/-! ## Writing in order -/

/-- One run of a stage after another. -/
def StageRun.append (r r' : StageRun β) : StageRun β where
  results := r.results ++ r'.results
  faults := r.faults ++ r'.faults

lemma StageRun.append_nil (r : StageRun β) : r.append {} = r := by
  simp [append]

/-- An entry at the end of a log comes before all that follows. -/
lemma Log.append_push (h : Handler α ρ β) (log : Log α ρ) (a : α) (result : Except Cause ρ)
    (run : StageRun ρ) : (log.stageRun h).append (run.push h.stage (h.label a) result) =
      (Log.stageRun h (log ++ [(a, result)])).append run := by
  cases result
  all_goals
    simp [stageRun, StageRun.append, StageRun.push, results, faults, Except.toOption]

namespace Job

/-- Writing the files of the log has led to the store `s`, and whatever files follow are written
there, with the names `claimed` being claimed. -/
def Continues (j : Job) (s₀ : Store) (claimed : List String) (s : Store)
    (log : Log FixtureFile String) : Prop :=
  ∀ rest, j.writeStage [] s₀ (log.items ++ rest) =
    ((j.writeStage claimed s rest).1,
      (log.stageRun j.writer).append (j.writeStage claimed s rest).2)

/-- How far a single writer of a strict batch has come: it waits for a file, it handles one whose
name it has claimed, or it has failed. -/
inductive WritesInTurn (j : Job) (s₀ : Store) :
    Disk → List FixtureFile → Log FixtureFile String → Prop
  | waiting {d log} (hnone : log.faults j.writer = [])
      (hrest : j.Continues s₀ d.claimed d.store log) : WritesInTurn j s₀ d [] log
  | handling {s claimed f log} (hnone : log.faults j.writer = [])
      (hnew : f.qualifiedName ∉ claimed) (hrest : j.Continues s₀ claimed s log) :
    WritesInTurn j s₀ ⟨s, f.qualifiedName :: claimed⟩ [f] log
  | stopped {d fault log} (hfault : log.faults j.writer = [fault])
      (hrest : ∀ rest, j.writeStage [] s₀ (log.items ++ rest) =
        (d.store, log.stageRun j.writer)) : WritesInTurn j s₀ d [] log

variable {j : Job} {s₀ s s' : Store} {claimed : List String} {f : FixtureFile}
  {log : Log FixtureFile String}

lemma continues_nil (j : Job) (s₀ : Store) : j.Continues s₀ [] s₀ [] := by
  intro rest
  simp [Log.items, StageRun.append, Log.stageRun, Log.results, Log.faults]

/-- Writing goes on behind a file that is written. -/
lemma Continues.concat_ok (hrest : j.Continues s₀ claimed s log)
    (hfile : j.writeFile claimed s f = .ok s') :
    j.Continues s₀ (f.qualifiedName :: claimed) s' (log ++ [(f, .ok (j.target f).text)]) := by
  intro rest
  have hnext := hrest (f :: rest)
  simp only [writeStage, hfile] at hnext
  rw [Log.items_append, List.append_assoc]
  exact hnext.trans (Prod.ext rfl (Log.append_push j.writer log f _ _))

/-- Writing stops at a file that fails. -/
lemma Continues.concat_error (hstrict : j.strict = true) (hrest : j.Continues s₀ claimed s log)
    {cause : Cause} (hfile : j.writeFile claimed s f = .error cause) (rest : List FixtureFile) :
    j.writeStage [] s₀ ((log ++ [(f, .error cause)] : Log FixtureFile String).items ++ rest) =
      (s, Log.stageRun j.writer (log ++ [(f, .error cause)])) := by
  have hnext := hrest (f :: rest)
  simp only [writeStage, hfile, hstrict, if_true] at hnext
  rw [Log.items_append, List.append_assoc]
  refine hnext.trans (Prod.ext rfl ?_)
  exact (Log.append_push j.writer log f _ {}).trans (StageRun.append_nil _)

/-- A step of the writer takes it further, if it leaves the writer alone that has failed. -/
lemma WritesInTurn.step (hstrict : j.strict = true) {d d' : Disk}
    {v v' : Lane FixtureFile String Empty} (hturn : j.WritesInTurn s₀ d v.busy v.log)
    (hstep : LaneStep j.writer d v d' v')
    (hleft : v.log.faults j.writer ≠ [] → v'.busy = v.busy ∧ v'.log = v.log) :
    j.WritesInTurn s₀ d' v'.busy v'.log := by
  have hfault : ∀ {log : Log FixtureFile String} {f : FixtureFile} {cause : Cause},
      log.faults j.writer = [] → Log.faults j.writer (log ++ [(f, .error cause)])
        = [⟨.write, f.qualifiedName, cause⟩] := by
    intro log f cause hnone
    rw [Log.faults_append, hnone]
    rfl
  -- a writer that has failed neither takes a file nor adds to its log
  cases hstep with
  | silent => exact hturn
  | take haccept =>
    cases hturn with
    | stopped hstopped _ => cases (hleft (by simp [hstopped])).1
    | waiting hnone hrest =>
      obtain ⟨hnew, rfl⟩ := writer_accept_ok haccept
      exact .handling hnone hnew hrest
  | refuse haccept =>
    cases hturn with
    | stopped hstopped _ => simpa using (hleft (by simp [hstopped])).2
    | waiting hnone hrest =>
      obtain ⟨hclaimed, rfl⟩ := writer_accept_error haccept
      exact .stopped (hfault hnone)
        (hrest.concat_error hstrict (writeFile_of_mem _ hclaimed))
  | finish hhandle =>
    cases hturn with
    | handling hnone hnew hrest =>
      obtain ⟨s', hwrite, rfl, rfl⟩ := writer_handle_ok hhandle
      refine .waiting (by rw [Log.faults_append, hnone]; rfl) (hrest.concat_ok ?_)
      rw [writeFile_of_notMem _ hnew, hwrite]
      rfl
  | fail hhandle =>
    cases hturn with
    | handling hnone hnew hrest =>
      obtain ⟨fault, hwrite, rfl⟩ := writer_handle_error hhandle
      refine .stopped (hfault hnone) (hrest.concat_error hstrict ?_)
      rw [writeFile_of_notMem _ hnew, hwrite]
      rfl

/-- A writer that has done nothing has left the files alone. -/
lemma WritesInTurn.store_eq {d : Disk} (hturn : j.WritesInTurn s₀ d [] []) : d.store = s₀ := by
  cases hturn with
  | stopped hfault _ => cases hfault
  | waiting _ hrest => exact (congrArg Prod.fst (hrest [])).symm

/-- A writer without a fault and with nothing to do has written the files of its log. -/
lemma WritesInTurn.writeStage_eq {d : Disk} (hturn : j.WritesInTurn s₀ d [] log)
    (hnone : log.faults j.writer = []) :
    j.writeStage [] s₀ log.items = (d.store, log.stageRun j.writer) := by
  cases hturn with
  | stopped hfault _ =>
    rw [hnone] at hfault
    cases hfault
  | waiting _ hrest =>
    have hhere := hrest []
    rw [List.append_nil] at hhere
    exact hhere.trans (Prod.ext rfl (StageRun.append_nil _))

/-- A writer that has met a fault has met no other one, and has stopped where the stage would. -/
lemma WritesInTurn.of_fault {d : Disk} {busy : List FixtureFile} {fault : StageFault}
    (hturn : j.WritesInTurn s₀ d busy log) (hfault : fault ∈ log.faults j.writer) :
    log.faults j.writer = [fault] ∧ ∀ rest,
      j.writeStage [] s₀ (log.items ++ rest) = (d.store, log.stageRun j.writer) := by
  cases hturn with
  | stopped hstopped hrest =>
    rw [hstopped] at hfault ⊢
    exact ⟨by rw [List.mem_singleton.mp hfault], hrest⟩
  | waiting hnone _ | handling hnone _ _ =>
    rw [hnone] at hfault
    cases hfault

end Job

end FixtureDraft.Batch
