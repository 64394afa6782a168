import FixtureDraft.Proofs.Pools

/-!
# Closing marks

How a stage comes to its end. `Pool.Ready` says how items and closing marks stand in a queue, and
`Pool.Ready.settled_of_stuck` that workers who cannot go on have emptied it. `Pool.Linked` and
`Pool.Fed` say where the marks come from. What is left to do gets less with every step
(`Pool.Step.load_lt`).
-/

namespace FixtureDraft.Batch

variable {α ρ β : Type}

namespace Worker

/-- Whether the worker handles an item. -/
def isBusy (w : Worker α ρ β) : Bool := w.activity matches .handling _

/-- Whether the worker is done. -/
def isDone (w : Worker α ρ β) : Bool := w.activity matches .done

end Worker

namespace Pool

/-! ## Queues with closing marks -/

/-- The number of workers that are done. -/
def doneCount (p : Pool α ρ β) : ℕ := p.workers.countP Worker.isDone

/-- The number of workers that handle an item. -/
def busyCount (p : Pool α ρ β) : ℕ := p.workers.countP Worker.isBusy

/-- In the queue stand items and then marks. Each worker has its mark: `left` of them are yet to
be put, others stand in the queue, and the rest were taken by workers that are done. No mark is
taken before the items. -/
structure Ready (p : Pool α ρ β) (left : ℕ) : Prop where
  staffed : 0 < p.workers.length
  queue : ∃ items marks, p.inbox = items.map some ++ List.replicate marks none
    ∧ left + marks + p.doneCount = p.workers.length ∧ (0 < p.doneCount → items = [])

/-- A closed pool is one whose workers are all counted as done. -/
lemma closed_iff (p : Pool α ρ β) : p.Closed ↔ p.doneCount = p.workers.length :=
  (List.countP_eq_length (p := Worker.isDone)).symm

section Marks

variable {h : Handler α ρ β} {d d' : Disk} {p p' : Pool α ρ β} {x : Option β} {left : ℕ}

lemma length_workers_start (workers marks : ℕ) :
    (start workers marks : Pool α ρ β).workers.length = workers :=
  List.length_replicate

lemma ready_start {workers : ℕ} (hpos : 0 < workers) (marks : ℕ) :
    (start workers marks : Pool α ρ β).Ready workers := by
  refine ⟨?_, [], 0, rfl, ?_, fun _ => rfl⟩
  · rwa [length_workers_start]
  · simp [start, doneCount, Worker.isDone, List.countP_replicate]

/-- A step takes no worker away, and leaves the marks for the next stage. -/
lemma Step.workers_length (hstep : p.Step h d d' p') :
    p'.workers.length = p.workers.length ∧ p'.marks = p.marks := by
  cases hstep
  all_goals simp

lemma Emits.workers_length (hemits : p.Emits x p') :
    p'.workers.length = p.workers.length ∧ p'.doneCount = p.doneCount ∧ p'.inbox = p.inbox := by
  cases hemits
  all_goals simp [doneCount, Worker.isDone]

lemma Emits.ready (hemits : p.Emits x p') (hready : p.Ready left) : p'.Ready left := by
  obtain ⟨hstaffed, items, marks, hinbox, hcount, hitems⟩ := hready
  obtain ⟨hlength, hdone, hsame⟩ := hemits.workers_length
  exact ⟨by omega, items, marks, hsame ▸ hinbox, by omega, fun hpos => hitems (by omega)⟩

/-- Outputs come from workers that are not all done. -/
lemma Emits.of_some {b : β} (hemits : p.Emits (some b) p') :
    ¬ p.Closed ∧ p'.marks = p.marks := by
  cases hemits with
  | output =>
    refine ⟨fun hclosed => ?_, rfl⟩
    have hw := hclosed _ (List.mem_append_right _ List.mem_cons_self)
    simp at hw

/-- Marks come from a stage whose workers are all done. -/
lemma Emits.of_none (hemits : p.Emits none p') : p'.Closed ∧ p.marks = p'.marks + 1 := by
  cases hemits with
  | mark hclosed hmarks => exact ⟨hclosed, hmarks⟩

/-- A worker that takes a step is not done. -/
lemma Step.not_closed (hstep : p.Step h d d' p') : ¬ p.Closed := by
  intro hclosed
  cases hstep
  all_goals
    have hw := hclosed _ (List.mem_append_right _ List.mem_cons_self)
    simp at hw

/-- What a step does to the queue: a mark is taken, an item is taken, or nothing is taken and the
handling of an item ends. -/
lemma Step.queue_cases (hstep : p.Step h d d' p') :
    (p.inbox = none :: p'.inbox ∧ p'.doneCount = p.doneCount + 1 ∧ p'.busyCount = p.busyCount) ∨
    (∃ a, p.inbox = some a :: p'.inbox ∧ p'.doneCount = p.doneCount
      ∧ p'.busyCount ≤ p.busyCount + 1) ∨
    (p.inbox = p'.inbox ∧ p'.doneCount = p.doneCount ∧ p.busyCount = p'.busyCount + 1) := by
  cases hstep with
  | close =>
    refine Or.inl ⟨rfl, ?_, ?_⟩
    · simp [doneCount, List.countP_cons, Worker.isDone]
      omega
    · simp [busyCount, Worker.isBusy]
  | take _ =>
    refine Or.inr (Or.inl ⟨_, rfl, ?_, ?_⟩)
    · simp [doneCount, Worker.isDone]
    · simp [busyCount, List.countP_cons, Worker.isBusy]
      omega
  | refuse _ =>
    refine Or.inr (Or.inl ⟨_, rfl, ?_, ?_⟩)
    · simp [doneCount, Worker.isDone]
    · simp [busyCount, Worker.isBusy]
  | finish _ =>
    refine Or.inr (Or.inr ⟨rfl, ?_, ?_⟩)
    · simp [doneCount, Worker.isDone]
    · simp [busyCount, List.countP_cons, Worker.isBusy]
      omega
  | fail _ =>
    refine Or.inr (Or.inr ⟨rfl, ?_, ?_⟩)
    · simp [doneCount, Worker.isDone]
    · simp [busyCount, List.countP_cons, Worker.isBusy]
      omega

/-- Items and marks stay in order while workers take them. -/
lemma Step.ready (hstep : p.Step h d d' p') (hready : p.Ready left) : p'.Ready left := by
  have hlength := hstep.workers_length.1
  obtain ⟨hstaffed, items, marks, hinbox, hcount, hitems⟩ := hready
  refine ⟨by omega, ?_⟩
  rcases hstep.queue_cases with ⟨hmark, hdone, -⟩ | ⟨a, hitem, hdone, -⟩ | ⟨hsame, hdone, -⟩
  · -- the first thing in the queue is a mark, so there are no items
    cases items with
    | cons b items => simp [hinbox] at hmark
    | nil =>
      cases marks with
      | zero => simp [hinbox] at hmark
      | succ marks =>
        rw [hinbox, List.map_nil, List.nil_append, List.replicate_succ] at hmark
        exact ⟨[], marks, (List.cons.inj hmark).2.symm, by omega, fun _ => rfl⟩
  · -- the first thing is an item, so no worker is done
    cases items with
    | nil => cases marks <;> simp [hinbox, List.replicate_succ] at hitem
    | cons b items =>
      rw [hinbox, List.map_cons, List.cons_append] at hitem
      refine ⟨items, marks, (List.cons.inj hitem).2.symm, by omega, fun hpos => ?_⟩
      exact absurd (hitems (by omega)) (by simp)
  · exact ⟨items, marks, hsame ▸ hinbox, by omega, fun hpos => hitems (by omega)⟩

/-- An item may be put into the queue while no mark was put there. -/
lemma Ready.put_some (hready : p.Ready left) (hleft : left = p.workers.length) (a : α) :
    (p.put (some a)).Ready left := by
  obtain ⟨hstaffed, items, marks, hinbox, hcount, -⟩ := hready
  -- all marks are yet to be put, so none stands in the queue and none was taken
  have hmarks : marks = 0 := by omega
  have hdone : p.doneCount = 0 := by omega
  refine ⟨hstaffed, items ++ [a], 0, ?_, ?_, fun h => ?_⟩
  · simp [put, hinbox, hmarks]
  · show left + 0 + p.doneCount = p.workers.length
    omega
  · exact absurd h (by show ¬ 0 < p.doneCount; omega)

/-- A mark may be put into the queue as long as there is one left. -/
lemma Ready.put_none (hready : p.Ready (left + 1)) : (p.put none).Ready left := by
  obtain ⟨hstaffed, items, marks, hinbox, hcount, hitems⟩ := hready
  refine ⟨hstaffed, items, marks + 1, ?_, ?_, hitems⟩
  · rw [put, hinbox, List.append_assoc, List.replicate_succ']
  · show left + (marks + 1) + p.doneCount = p.workers.length
    omega

/-- A stage that is closed has emptied its queue. -/
lemma Ready.inbox_eq_nil (hready : p.Ready left) (hclosed : p.Closed) : p.inbox = [] := by
  obtain ⟨hstaffed, items, marks, hinbox, hcount, hitems⟩ := hready
  rw [closed_iff] at hclosed
  -- as many marks were taken as there are workers, which leaves none for the queue
  have hmarks : marks = 0 := by omega
  rw [hinbox, hitems (by omega), hmarks]
  rfl

/-- A worker that is not done waits for the next thing in the queue, or can go on anyway. -/
lemma exists_step_or_idle (h : Handler α ρ β) (d : Disk) (p : Pool α ρ β) (w : Worker α ρ β)
    (hw : w ∈ p.workers) :
    (∃ d' p', p.Step h d d' p') ∨ (∃ x p', p.Emits x p') ∨ w.activity = .passing []
      ∨ w.isDone = true := by
  obtain ⟨before, after, hworkers⟩ := List.append_of_mem hw
  obtain ⟨activity, log⟩ := w
  obtain ⟨inbox, workers, marks⟩ := p
  simp only at hworkers
  subst hworkers
  cases activity with
  | handling a =>
    cases hhandle : h.handle d a with
    | ok result => exact Or.inl ⟨_, _, .finish hhandle⟩
    | error cause => exact Or.inl ⟨_, _, .fail hhandle⟩
  | passing outputs =>
    cases outputs with
    | nil => exact Or.inr (Or.inr (Or.inl rfl))
    | cons b bs => exact Or.inr (Or.inl ⟨_, _, .output⟩)
  | done => exact Or.inr (Or.inr (Or.inr rfl))

/-- A waiting worker takes whatever stands in the queue. -/
lemma exists_step_of_idle (h : Handler α ρ β) (d : Disk) {p : Pool α ρ β} {w : Worker α ρ β}
    (hw : w ∈ p.workers) (hidle : w.activity = .passing []) (hinbox : p.inbox ≠ []) :
    ∃ d' p', p.Step h d d' p' := by
  obtain ⟨before, after, hworkers⟩ := List.append_of_mem hw
  obtain ⟨activity, log⟩ := w
  obtain ⟨inbox, workers, marks⟩ := p
  simp only at hworkers hidle
  subst hworkers hidle
  cases inbox with
  | nil => exact absurd rfl hinbox
  | cons x inbox =>
    cases x with
    | none => exact ⟨_, _, .close⟩
    | some a =>
      cases haccept : h.accept d a with
      | ok d' => exact ⟨_, _, .take haccept⟩
      | error cause => exact ⟨_, _, .refuse haccept⟩

/-- Workers of which none can go on have emptied their queue. If no mark is yet to come, they are
done and have closed the next stage. -/
lemma Ready.settled_of_stuck (hready : p.Ready left)
    (hstep : ∀ d' p', ¬ p.Step h d d' p') (hemits : ∀ x p', ¬ p.Emits x p') :
    p.inbox = [] ∧ (left = 0 → p.Closed ∧ p.marks = 0) := by
  have hinbox : p.inbox = [] := by
    -- otherwise every worker is done, for one that waits would take what stands there
    by_contra hne
    refine hne (hready.inbox_eq_nil fun w hw => ?_)
    rcases exists_step_or_idle h d p w hw with ⟨d', p', hs⟩ | ⟨x, p', he⟩ | hidle | hdone
    · exact absurd hs (hstep d' p')
    · exact absurd he (hemits x p')
    · obtain ⟨d', p', hs⟩ := exists_step_of_idle h d hw hidle hne
      exact absurd hs (hstep d' p')
    · exact hdone
  refine ⟨hinbox, fun hleft => ?_⟩
  obtain ⟨-, items, marks, hqueue, hcount, -⟩ := hready
  have hmarks : marks = 0 := by
    rw [hinbox] at hqueue
    simpa using (List.append_eq_nil_iff.mp hqueue.symm).2
  have hclosed : p.Closed := by
    rw [closed_iff]
    omega
  refine ⟨hclosed, ?_⟩
  by_contra hne
  obtain ⟨n, hn⟩ := Nat.exists_eq_succ_of_ne_zero hne
  exact hemits _ _ (.mark hclosed hn)

/-- A stage that is closed has nothing but its logs. -/
lemma Ready.view_eq (hready : p.Ready left) (hclosed : p.Closed) : p.view = ⟨0, 0, 0, p.log⟩ := by
  have hbusy : p.workers.flatMap Worker.busy = [] := by
    refine List.flatMap_eq_nil_iff.mpr fun w hw => ?_
    have hdone := hclosed w hw
    unfold Worker.busy
    split at hdone <;> simp_all
  have howed : p.workers.flatMap Worker.owed = [] := by
    refine List.flatMap_eq_nil_iff.mpr fun w hw => ?_
    have hdone := hclosed w hw
    unfold Worker.owed
    split at hdone <;> simp_all
  simp [view, hready.inbox_eq_nil hclosed, hbusy, howed, List.reduceOption]

end Marks

/-! ## The first stage -/

/-- What is yet to be fed are items and then marks. The workers get all their marks from there,
and none before the items. -/
structure Fed (p : Pool α ρ β) (feed : List (Option α)) : Prop where
  feed : ∃ items marks, feed = items.map some ++ List.replicate marks none
    ∧ p.Ready marks ∧ (items ≠ [] → marks = p.workers.length)

namespace Fed

variable {h : Handler α ρ β} {d d' : Disk} {p p' : Pool α ρ β} {x : Option β}
  {y : Option α} {feed : List (Option α)}

lemma start {workers : ℕ} (hpos : 0 < workers) (marks : ℕ) (items : List α) :
    (Pool.start workers marks : Pool α ρ β).Fed
      (items.map some ++ List.replicate workers none) :=
  ⟨items, workers, rfl, ready_start hpos marks, fun _ => (length_workers_start _ _).symm⟩

lemma step (hfed : p.Fed feed) (hstep : p.Step h d d' p') : p'.Fed feed := by
  obtain ⟨items, marks, hfeed, hready, hall⟩ := hfed
  exact ⟨items, marks, hfeed, hstep.ready hready, by rwa [hstep.workers_length.1]⟩

lemma emits (hfed : p.Fed feed) (hemits : p.Emits x p') : p'.Fed feed := by
  obtain ⟨items, marks, hfeed, hready, hall⟩ := hfed
  exact ⟨items, marks, hfeed, hemits.ready hready, by rwa [hemits.workers_length.1]⟩

/-- Feeding goes on with the items, and then with the marks. -/
lemma put (hfed : p.Fed (y :: feed)) : (p.put y).Fed feed := by
  obtain ⟨items, marks, hfeed, hready, hall⟩ := hfed
  cases items with
  | cons a items =>
    obtain ⟨rfl, hrest⟩ := List.cons.inj hfeed
    have hmarks : marks = p.workers.length := hall (by simp)
    exact ⟨items, marks, hrest, hready.put_some hmarks a, fun _ => hmarks⟩
  | nil =>
    cases marks with
    | zero => simp at hfeed
    | succ marks =>
      obtain ⟨rfl, hrest⟩ := List.cons.inj hfeed
      exact ⟨[], marks, hrest, hready.put_none, fun hne => absurd rfl hne⟩

end Fed

/-! ## Stages that follow each other -/

/-- The workers of the stage `q` get their marks from the stage `p`, which puts none before it is
closed. -/
structure Linked {σ γ : Type} (p : Pool α ρ β) (q : Pool β σ γ) : Prop where
  ready : q.Ready p.marks
  closed : p.Closed ∨ p.marks = q.workers.length

namespace Linked

variable {σ γ : Type} {h : Handler α ρ β} {h' : Handler β σ γ} {d d' : Disk}
  {p p' : Pool α ρ β} {q q' : Pool β σ γ} {x : Option β} {y : Option γ}

lemma start {n : ℕ} (hpos : 0 < n) (workers marks : ℕ) :
    Linked (Pool.start workers n : Pool α ρ β) (Pool.start n marks : Pool β σ γ) :=
  ⟨ready_start hpos marks, Or.inr (length_workers_start n marks).symm⟩

lemma step_left (hlinked : Linked p q) (hstep : p.Step h d d' p') : Linked p' q := by
  obtain ⟨hready, hclosed⟩ := hlinked
  have hmarks := hstep.workers_length.2
  refine ⟨by rwa [hmarks], Or.inr ?_⟩
  rw [hmarks]
  exact hclosed.resolve_left hstep.not_closed

lemma step_right (hlinked : Linked p q) (hstep : q.Step h' d d' q') : Linked p q' :=
  ⟨hstep.ready hlinked.ready, by rw [hstep.workers_length.1]; exact hlinked.closed⟩

lemma emits_right (hlinked : Linked p q) (hemits : q.Emits y q') : Linked p q' :=
  ⟨hemits.ready hlinked.ready, by rw [hemits.workers_length.1]; exact hlinked.closed⟩

/-- What comes from a stage is put where it keeps the next queue in order. -/
lemma put (hlinked : Linked p q) (hemits : p.Emits x p') : Linked p' (q.put x) := by
  obtain ⟨hready, hclosed⟩ := hlinked
  cases x with
  | some b =>
    -- a stage that still has outputs is not closed, so it has put no mark
    obtain ⟨hopen, hmarks⟩ := hemits.of_some
    have hall : p.marks = q.workers.length := hclosed.resolve_left hopen
    refine ⟨?_, Or.inr (hmarks.trans hall)⟩
    rw [hmarks]
    exact hready.put_some hall b
  | none =>
    obtain ⟨hclosed', hmarks⟩ := hemits.of_none
    rw [hmarks] at hready
    exact ⟨hready.put_none, Or.inl hclosed'⟩

end Linked

/-! ## Work that is left -/

/-- What is left to do for the workers with what stands in their queue. -/
def load (p : Pool α ρ β) : ℕ := 2 * p.inbox.length + p.busyCount

/-- How many outputs and marks the stage has to put into the next queue, as things are. -/
def due (p : Pool α ρ β) : ℕ := (p.workers.flatMap Worker.owed).length + p.marks

/-- A step gets something done. -/
lemma Step.load_lt {h : Handler α ρ β} {d d' : Disk} {p p' : Pool α ρ β}
    (hstep : p.Step h d d' p') : p'.load < p.load := by
  rcases hstep.queue_cases with ⟨hmark, -, hbusy⟩ | ⟨a, hitem, -, hbusy⟩ | ⟨hsame, -, hbusy⟩
  · rw [load, load, hmark, List.length_cons]
    omega
  · rw [load, load, hitem, List.length_cons]
    omega
  · rw [load, load, hsame]
    omega

/-- What is handed on is no longer due. -/
lemma Emits.due_eq {p p' : Pool α ρ β} {x : Option β} (hemits : p.Emits x p') :
    p.due = p'.due + 1 ∧ p'.load = p.load := by
  cases hemits with
  | output =>
    refine ⟨?_, ?_⟩
    · simp [due, Worker.owed]
      omega
    · simp [load, busyCount, Worker.isBusy]
  | mark _ hmarks =>
    refine ⟨?_, rfl⟩
    simp only [due, hmarks]
    omega

lemma load_put (p : Pool α ρ β) (x : Option α) : (p.put x).load = p.load + 2 := by
  simp [put, load, busyCount]
  omega

end Pool

end FixtureDraft.Batch
