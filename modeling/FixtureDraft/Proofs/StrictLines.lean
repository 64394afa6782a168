import FixtureDraft.Batch.Strict
import FixtureDraft.Proofs.Schedules

/-!
# Strict lines and tolerant ones

A strict line does nothing that a tolerant one could not do. As long as no item has failed both
may do the same (`Line.strictStep_of_faults_eq_nil`); where one has, the strict line is never
finished (`Line.Halted.faults_eq_nil_of_finished`), and a tolerant one that goes on keeps the
fault (`Line.faults_subset_of_reach`). `Job.Finishes` says how a batch may end, be it strict or
tolerant.
-/

namespace FixtureDraft.Batch

variable {α ρ β : Type}

/-! ## Faults of logs -/

namespace Log

variable {h : Handler α ρ β} {log log' : Log α ρ}

/-- A fault tells of an entry of the log. -/
lemma mem_faults {f : StageFault} : f ∈ log.faults h ↔
    ∃ e ∈ log, ∃ cause, e.2 = .error cause ∧ f = ⟨h.stage, h.label e.1, cause⟩ := by
  rw [faults, List.mem_filterMap]
  refine exists_congr fun e => and_congr_right fun _ => ?_
  obtain ⟨a, result⟩ := e
  cases result with
  | ok r => simp
  | error cause => simp [eq_comm]

lemma faults_eq_nil_iff : log.faults h = [] ↔ ∀ e ∈ log, e.2.isOk = true := by
  rw [faults, List.filterMap_eq_nil_iff]
  refine forall₂_congr fun e _ => ?_
  obtain ⟨a, result⟩ := e
  cases result with
  | ok r => simp [Except.isOk, Except.toBool]
  | error cause => simp [Except.isOk, Except.toBool]

lemma faults_subset (hsub : log ⊆ log') : log.faults h ⊆ log'.faults h := by
  intro f hf
  obtain ⟨e, he, hfault⟩ := mem_faults.mp hf
  exact mem_faults.mpr ⟨e, hsub he, hfault⟩

end Log

/-! ## Logs grow -/

/-- No entry is taken from the logs. -/
lemma Effect.logged_subset {h : Handler α ρ β} {d d' : Disk} {v v' : View α ρ β}
    (heffect : Effect h d v d' v') : v.logged ⊆ v'.logged := by
  cases heffect with
  | silent | take _ => exact Multiset.Subset.refl _
  | refuse _ | finish _ | fail _ => exact Multiset.subset_cons _ _

namespace Pool

variable {h : Handler α ρ β} {d d' : Disk} {p p' : Pool α ρ β} {x : Option β}

lemma Step.log_subset (hstep : p.Step h d d' p') : p.log ⊆ p'.log :=
  fun _ he => hstep.effect.logged_subset (Multiset.mem_coe.mpr he)

lemma Emits.log_perm (hemits : p.Emits x p') : p.log.Perm p'.log :=
  Multiset.coe_eq_coe.mp (congrArg View.logged hemits.view_eq)

end Pool

/-- A ledger of longer logs has more faults. -/
lemma Ledger.faults_subset {g g' : Ledger} (j : Job) (hread : g.read ⊆ g'.read)
    (hgenerate : g.generate ⊆ g'.generate) (hwrite : g.write ⊆ g'.write) :
    g.faults j ⊆ g'.faults j := by
  intro f hf
  rw [faults, List.mem_append, List.mem_append] at hf ⊢
  rcases hf with (hf | hf) | hf
  · exact Or.inl (Or.inl (Log.faults_subset hread hf))
  · exact Or.inl (Or.inr (Log.faults_subset hgenerate hf))
  · exact Or.inr (Log.faults_subset hwrite hf)

/-! ## Workers that have failed -/

namespace Pool

variable {h : Handler α ρ β} {d d' : Disk} {p p' : Pool α ρ β} {x : Option β}

/-- Workers that have failed wait for an item that they will not take. -/
def Halted (p : Pool α ρ β) : Prop := ∀ w ∈ p.workers, w.HasFailed → w.activity = .passing []

/-- A worker that does not stay as it is has not failed. -/
private lemma Leaves.not_hasFailed {inbox inbox' : List (Option α)} {marks marks' : ℕ}
    {before after : List (Worker α ρ β)} {w w' : Worker α ρ β}
    (hleaves : Leaves ⟨inbox, before ++ w :: after, marks⟩ ⟨inbox', before ++ w' :: after, marks'⟩)
    (hne : w' ≠ w) : ¬ w.HasFailed := by
  intro hfailed
  have hsame := hleaves before.length w (by simp) hfailed
  simp only [List.getElem?_append_right (Nat.le_refl _), Nat.sub_self, List.getElem?_cons_zero,
    Option.some.injEq] at hsame
  exact hne hsame

/-- Where one worker changes, only that one has to be looked at. -/
private lemma Halted.set {inbox inbox' : List (Option α)} {marks marks' : ℕ}
    {before after : List (Worker α ρ β)} {w w' : Worker α ρ β}
    (hhalted : Halted ⟨inbox, before ++ w :: after, marks⟩)
    (hw' : w'.HasFailed → w'.activity = .passing []) :
    Halted ⟨inbox', before ++ w' :: after, marks'⟩ := by
  intro v hv
  rcases List.mem_append.mp hv with hv | hv
  · exact hhalted v (List.mem_append_left _ hv)
  · rcases List.mem_cons.mp hv with rfl | hv
    · exact hw'
    · exact hhalted v (List.mem_append_right _ (List.mem_cons_of_mem _ hv))

lemma Halted.step (hhalted : p.Halted) (hstep : p.Step h d d' p') (hleaves : p.Leaves p') :
    p'.Halted := by
  -- a worker that fails waits afterwards; any other step is one of a worker that has not failed
  cases hstep with
  | refuse _ => exact hhalted.set fun _ => rfl
  | fail _ => exact hhalted.set fun _ => rfl
  | close =>
    refine hhalted.set fun hfailed => absurd ?_ (hleaves.not_hasFailed (by simp))
    exact hfailed
  | take _ =>
    refine hhalted.set fun hfailed => absurd ?_ (hleaves.not_hasFailed (by simp))
    exact hfailed
  | finish _ =>
    refine hhalted.set fun hfailed => absurd ?_ (hleaves.not_hasFailed (by simp))
    obtain ⟨e, he, hnot⟩ := hfailed
    rcases List.mem_append.mp he with he | he
    · exact ⟨e, he, hnot⟩
    · rw [List.mem_singleton.mp he] at hnot
      cases hnot

lemma Halted.emits (hhalted : p.Halted) (hemits : p.Emits x p') : p'.Halted := by
  cases hemits with
  | mark _ _ => exact hhalted
  | @output inbox before b bs log after marks =>
    -- the worker still had an output, so it has not failed
    refine hhalted.set fun hfailed => ?_
    have hactivity := hhalted ⟨.passing (b :: bs), log⟩
      (List.mem_append_right _ List.mem_cons_self) hfailed
    simp at hactivity

lemma halted_start (workers marks : ℕ) : (start workers marks : Pool α ρ β).Halted := by
  rintro w hw ⟨e, he, -⟩
  rw [List.eq_of_mem_replicate hw] at he
  cases he

/-- Where all workers came to be done none has failed. -/
lemma Halted.faults_eq_nil_of_closed (hhalted : p.Halted) (hclosed : p.Closed) :
    p.log.faults h = [] := by
  rw [Log.faults_eq_nil_iff]
  intro e he
  obtain ⟨w, hw, he⟩ := List.mem_flatMap.mp he
  by_contra hnot
  have hdone := hclosed w hw
  rw [hhalted w hw ⟨e, he, by simpa using hnot⟩] at hdone
  simp at hdone

/-- As long as no item has failed there is no worker to be left as it is. -/
lemma leaves_of_faults_eq_nil (hnone : p.log.faults h = []) (p' : Pool α ρ β) : p.Leaves p' := by
  rintro i w hw ⟨e, he, hnot⟩
  have hok := Log.faults_eq_nil_iff.mp hnone e
    (List.mem_flatMap.mpr ⟨w, List.mem_of_getElem? hw, he⟩)
  rw [hok] at hnot
  cases hnot

end Pool

/-! ## Lines -/

namespace Line

variable {j : Job} {l l' : Line}

/-- Whatever happens, the faults stay. -/
lemma Step.faults_subset (hstep : Step j l l') : l.ledger.faults j ⊆ l'.ledger.faults j := by
  -- by the steps: one log grows at most, and the others stay as they are
  cases hstep with
  | feed _ _ => exact List.Subset.refl _
  | read hstep =>
    exact Ledger.faults_subset j hstep.log_subset (.refl _) (.refl _)
  | passSource hemits _ =>
    exact Ledger.faults_subset j hemits.log_perm.subset (.refl _) (.refl _)
  | generate hstep =>
    exact Ledger.faults_subset j (.refl _) hstep.log_subset (.refl _)
  | passFile hemits _ =>
    exact Ledger.faults_subset j (.refl _) hemits.log_perm.subset (.refl _)
  | write hstep =>
    exact Ledger.faults_subset j (.refl _) (.refl _) hstep.log_subset

lemma faults_subset_of_reach (hreach : Relation.ReflTransGen (Step j) l l') :
    l.ledger.faults j ⊆ l'.ledger.faults j := by
  induction hreach with
  | refl => exact List.Subset.refl _
  | tail _ hstep ih => exact List.Subset.trans ih hstep.faults_subset

/-- In every stage, workers that have failed wait. -/
structure Halted (l : Line) : Prop where
  reading : l.reading.Halted
  generating : l.generating.Halted
  writing : l.writing.Halted

lemma halted_start (w : Workers) (s : Files.Store) (paths : List String) :
    (start w s paths).Halted :=
  ⟨Pool.halted_start _ _, Pool.halted_start _ _, Pool.halted_start _ _⟩

lemma Halted.step (hhalted : l.Halted) (hstrict : StrictStep j l l') : l'.Halted := by
  obtain ⟨hread, hgenerate, hwrite⟩ := hhalted
  obtain ⟨hstep, hreading, hgenerating, hwriting⟩ := hstrict
  cases hstep with
  | feed _ _ => exact ⟨hread, hgenerate, hwrite⟩
  | read hstep => exact ⟨hread.step hstep hreading, hgenerate, hwrite⟩
  | passSource hemits _ => exact ⟨hread.emits hemits, hgenerate, hwrite⟩
  | generate hstep => exact ⟨hread, hgenerate.step hstep hgenerating, hwrite⟩
  | passFile hemits _ => exact ⟨hread, hgenerate.emits hemits, hwrite⟩
  | write hstep => exact ⟨hread, hgenerate, hwrite.step hstep hwriting⟩

lemma halted_of_reach {w : Workers} {s : Files.Store} {paths : List String}
    (hreach : Relation.ReflTransGen (StrictStep j) (start w s paths) l) : l.Halted := by
  induction hreach with
  | refl => exact halted_start w s paths
  | tail _ hstep ih => exact ih.step hstep

/-- A strict line that is finished has met no fault. -/
lemma Halted.faults_eq_nil_of_finished (hhalted : l.Halted) (hfinished : l.Finished) (j : Job) :
    l.ledger.faults j = [] := by
  rw [Ledger.faults, List.append_eq_nil_iff, List.append_eq_nil_iff]
  exact ⟨⟨hhalted.reading.faults_eq_nil_of_closed hfinished.reading.1,
    hhalted.generating.faults_eq_nil_of_closed hfinished.generating.1⟩,
    hhalted.writing.faults_eq_nil_of_closed hfinished.writing⟩

/-- As long as no item has failed, a strict line may do whatever a tolerant one does. -/
lemma strictStep_of_faults_eq_nil (hnone : l.ledger.faults j = []) (hstep : Step j l l') :
    StrictStep j l l' := by
  rw [Ledger.faults, List.append_eq_nil_iff, List.append_eq_nil_iff] at hnone
  obtain ⟨⟨hread, hgenerate⟩, hwrite⟩ := hnone
  exact ⟨hstep, Pool.leaves_of_faults_eq_nil hread _, Pool.leaves_of_faults_eq_nil hgenerate _,
    Pool.leaves_of_faults_eq_nil hwrite _⟩

/-- A strict line comes nowhere where a tolerant one could not come. -/
lemma reach_of_strict (hreach : Relation.ReflTransGen (StrictStep j) l l') :
    Relation.ReflTransGen (Step j) l l' := by
  induction hreach with
  | refl => exact .refl
  | tail _ hstep ih => exact ih.tail hstep.step

/-- No strict line goes on for ever. -/
theorem wellFounded_strictStep (j : Job) : WellFounded fun l' l : Line => StrictStep j l l' :=
  Subrelation.wf StrictStep.step (wellFounded_step j)

/-- A strict line on which nothing can happen has come to an end. -/
theorem Sound.exists_ends (hsound : l.Sound) (j : Job) :
    (∃ e, l.Ends j e) ∨ ∃ l', StrictStep j l l' := by
  cases hfaults : l.ledger.faults j with
  | cons f faults => exact Or.inl ⟨_, .fault (hfaults ▸ List.mem_cons_self)⟩
  | nil =>
    rcases hsound.exists_step j with hfinished | ⟨l', hstep⟩
    · exact Or.inl ⟨_, .report hfinished⟩
    · exact Or.inr ⟨l', strictStep_of_faults_eq_nil hfaults hstep⟩

/-! ## From the one to the other -/

lemma sound_of_reach {w : Workers} (hworkers : w.check = .ok ()) {s : Files.Store}
    {paths : List String} (hreach : Relation.ReflTransGen (Step j) (start w s paths) l) :
    l.Sound := by
  induction hreach with
  | refl => exact sound_start hworkers s paths
  | tail _ hstep ih => exact ih.step hstep

/-- A line can be gone on with until it is finished. -/
theorem Sound.exists_finished (hsound : l.Sound) (j : Job) :
    ∃ l', Relation.ReflTransGen (Step j) l l' ∧ l'.Finished := by
  induction l using (wellFounded_step j).induction with
  | h l ih =>
    rcases hsound.exists_step j with hfinished | ⟨next, hstep⟩
    · exact ⟨l, .refl, hfinished⟩
    · obtain ⟨l', hreach, hfinished⟩ := ih next hstep (hsound.step hstep)
      exact ⟨l', .head hstep hreach, hfinished⟩

/-- Every tolerant line was a strict one until the first fault. -/
theorem exists_strict_of_reach {first : Line} (hreach : Relation.ReflTransGen (Step j) first l) :
    ∃ l₀, Relation.ReflTransGen (StrictStep j) first l₀ ∧ Relation.ReflTransGen (Step j) l₀ l ∧
      (l₀ = l ∨ l₀.ledger.faults j ≠ []) := by
  induction hreach with
  | refl => exact ⟨first, .refl, .refl, Or.inl rfl⟩
  | @tail l l' _ hstep ih =>
    obtain ⟨l₀, hstrict, hrest, rfl | hfaulty⟩ := ih
    · by_cases hnone : l₀.ledger.faults j = []
      · exact ⟨l', hstrict.tail (strictStep_of_faults_eq_nil hnone hstep), .refl, Or.inl rfl⟩
      · exact ⟨l₀, hstrict, .single hstep, Or.inr hnone⟩
    · exact ⟨l₀, hstrict, hrest.tail hstep, Or.inr hfaulty⟩

/-- A line on which no item has failed may have been a strict one. -/
lemma reach_strict_of_faults_eq_nil {first : Line}
    (hreach : Relation.ReflTransGen (Step j) first l) (hnone : l.ledger.faults j = []) :
    Relation.ReflTransGen (StrictStep j) first l := by
  obtain ⟨l₀, hstrict, hrest, rfl | hfaulty⟩ := exists_strict_of_reach hreach
  · exact hstrict
  · -- a fault on the way would still be there
    have hsubset := faults_subset_of_reach hrest
    rw [hnone] at hsubset
    exact absurd (List.eq_nil_of_subset_nil hsubset) hfaulty

/-- A line takes its steps alike for strict and tolerant batches. -/
lemma Step.withStrict (strict : Bool) (hstep : Step j l l') : Step { j with strict } l l' := by
  cases hstep with
  | feed hfeed hroom => exact .feed hfeed hroom
  | read hstep => exact .read hstep
  | passSource hemits hroom => exact .passSource hemits hroom
  | generate hstep => exact .generate hstep
  | passFile hemits hroom => exact .passFile hemits hroom
  | write hstep => exact .write hstep

end Line

/-! ## Ends of batches -/

/-- How a batch may end, and with which store: as it does stage by stage, or as a line of so many
workers does. The line of a strict batch may end at a failure; that of a tolerant one goes on until
it is finished. -/
inductive Job.Finishes (j : Job) (w : Workers) (s : Files.Store) (paths : List String) :
    Files.Store × Except RunFault Report → Prop
  | inTurn : Finishes j w s paths (j.run s paths)
  | strictly {s₀ l result} (hstrict : j.strict = true) (hworkers : w.check = .ok ())
    (hfolder : s.makeFolders j.folder = (s₀, none))
    (hreach : Relation.ReflTransGen (Line.StrictStep j) (Line.start w s₀ paths) l)
    (hends : l.Ends j result) : Finishes j w s paths (l.disk.store, result)
  | tolerantly {s₀ l} (htolerant : j.strict = false) (hworkers : w.check = .ok ())
    (hfolder : s.makeFolders j.folder = (s₀, none))
    (hreach : Relation.ReflTransGen (Line.Step j) (Line.start w s₀ paths) l)
    (hfinished : l.Finished) : Finishes j w s paths (l.disk.store, .ok (l.ledger.report j))

end FixtureDraft.Batch
