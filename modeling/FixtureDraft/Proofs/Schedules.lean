import FixtureDraft.Proofs.Marks

/-!
# Every schedule comes to its end

However the workers of a line take turns, each step leaves less to do (`wellFounded_step`), and a
line on which nothing can happen any more is finished (`Sound.exists_step`): the closing marks
reach every worker, and no queue stays full for ever.
-/

namespace FixtureDraft.Batch

namespace Workers

/-- A number of workers that is accepted is at least one. -/
lemma count_pos_of_complaint? {name : String} {v : Data.Value} (h : complaint? name v = none) :
    0 < count v := by
  cases v with
  | integer n =>
    have hn : ¬ n < 1 := by
      intro hlt
      simp [complaint?, hlt] at h
    show 0 < n.toNat
    omega
  | _ => simp [complaint?] at h

/-- Where the numbers of workers are accepted, every stage has a worker. -/
lemma count_pos {w : Workers} (h : w.check = .ok ()) :
    0 < count w.read ∧ 0 < count w.generate ∧ 0 < count w.write := by
  unfold check at h
  split at h
  · exact absurd h (by simp)
  · rename_i hnone
    rw [Option.orElse_eq_none, Option.orElse_eq_none] at hnone
    exact ⟨count_pos_of_complaint? hnone.1.1, count_pos_of_complaint? hnone.1.2,
      count_pos_of_complaint? hnone.2⟩

end Workers

namespace Line

variable {j : Job} {l l' : Line}

/-! ## Marks -/

/-- Every worker gets its mark from the stage before it. -/
structure Sound (l : Line) : Prop where
  fed : l.reading.Fed l.feed
  reading_generating : l.reading.Linked l.generating
  generating_writing : l.generating.Linked l.writing
  writing_marks : l.writing.marks = 0

lemma sound_start {w : Workers} (hw : w.check = .ok ()) (s : Files.Store)
    (paths : List String) : (start w s paths).Sound := by
  obtain ⟨hread, hgenerate, hwrite⟩ := Workers.count_pos hw
  exact ⟨Pool.Fed.start hread _ paths, Pool.Linked.start hgenerate _ _,
    Pool.Linked.start hwrite _ _, rfl⟩

/-- Whatever happens next, every worker still gets its mark. -/
lemma Sound.step (hsound : l.Sound) (hstep : Step j l l') : l'.Sound := by
  obtain ⟨hfed, hreadgen, hgenwrite, hmarks⟩ := hsound
  cases hstep with
  | feed hfeed _ =>
    exact ⟨(hfeed ▸ hfed).put, ⟨hreadgen.ready, hreadgen.closed⟩, hgenwrite, hmarks⟩
  | read hstep =>
    exact ⟨hfed.step hstep, hreadgen.step_left hstep, hgenwrite, hmarks⟩
  | passSource hemits _ =>
    exact ⟨hfed.emits hemits, hreadgen.put hemits, ⟨hgenwrite.ready, hgenwrite.closed⟩, hmarks⟩
  | generate hstep =>
    exact ⟨hfed, hreadgen.step_right hstep, hgenwrite.step_left hstep, hmarks⟩
  | passFile hemits _ =>
    exact ⟨hfed, hreadgen.emits_right hemits, hgenwrite.put hemits, hmarks⟩
  | write hstep =>
    exact ⟨hfed, hreadgen, hgenwrite.step_right hstep, hstep.workers_length.2.trans hmarks⟩

/-! ## Progress -/

/-- A line on which nothing can happen is finished. -/
theorem Sound.exists_step (hsound : l.Sound) (j : Job) : l.Finished ∨ ∃ l', Step j l l' := by
  by_cases hnext : ∃ l', Step j l l'
  · exact Or.inr hnext
  push Not at hnext
  refine Or.inl ?_
  obtain ⟨⟨items, marks, hfeed, hready, -⟩, hreadgen, hgenwrite, hmarks⟩ := hsound
  -- from the last stage to the first one: who cannot go on has an empty queue, so that the
  -- stage before has room to hand on
  have hroom : ∀ {α ρ β : Type} {p : Pool α ρ β}, 0 < p.workers.length → p.inbox = [] →
      p.HasRoom := by
    intro α ρ β p hpos hinbox
    rw [Pool.HasRoom, hinbox, List.length_nil]
    omega
  have hnomarks : ∀ x p', ¬ l.writing.Emits x p' := by
    intro x p' hemits
    cases x with
    | some b => exact b.elim
    | none =>
      have hmarks' := hemits.of_none.2
      omega
  obtain ⟨hwriteempty, hwritedone⟩ := hgenwrite.ready.settled_of_stuck
    (h := j.writer) (d := l.disk) (fun d' p' hs => hnext _ (.write hs)) hnomarks
  obtain ⟨hgenempty, hgendone⟩ := hreadgen.ready.settled_of_stuck
    (h := j.generator) (d := l.disk) (fun d' p' hs => hnext _ (.generate hs))
    (fun x p' he => hnext _ (.passFile he (hroom hgenwrite.ready.staffed hwriteempty)))
  obtain ⟨hreadempty, hreaddone⟩ := hready.settled_of_stuck
    (h := reader) (d := l.disk) (fun d' p' hs => hnext _ (.read hs))
    (fun x p' he => hnext _ (.passSource he (hroom hreadgen.ready.staffed hgenempty)))
  have hfed : l.feed = [] := by
    cases hl : l.feed with
    | nil => rfl
    | cons x feed => exact absurd (.feed hl (hroom hready.staffed hreadempty)) (hnext _)
  have hmarks0 : marks = 0 := by
    rw [hfed] at hfeed
    simpa using (List.append_eq_nil_iff.mp hfeed.symm).2
  -- and from the first stage to the last one: who gets no more marks is done
  have hread := hreaddone hmarks0
  have hgen := hgendone hread.2
  exact ⟨hfed, hread, hgen, (hwritedone hgen.2).1⟩

/-! ## The end of a schedule -/

/-- What is left to do: for the readers, then for those who generate, then for those who write.
What an earlier stage gets done may be more to do for a later one. -/
def workLeft (l : Line) : ℕ ×ₗ ℕ ×ₗ ℕ :=
  toLex (3 * l.feed.length + l.reading.load,
    toLex (3 * l.reading.due + l.generating.load, 3 * l.generating.due + l.writing.load))

/-- Whatever happens, less is left to do. -/
lemma workLeft_lt (hstep : Step j l l') : l'.workLeft < l.workLeft := by
  simp only [workLeft, Prod.Lex.toLex_lt_toLex]
  cases hstep with
  | feed hfeed _ =>
    refine Or.inl ?_
    simp only [Pool.load_put, hfeed, List.length_cons]
    omega
  | read hstep =>
    refine Or.inl ?_
    have hload := hstep.load_lt
    simp only
    omega
  | passSource hemits _ =>
    obtain ⟨hdue, hload⟩ := hemits.due_eq
    refine Or.inr ⟨by simp only [hload], Or.inl ?_⟩
    simp only [Pool.load_put, hdue]
    omega
  | generate hstep =>
    refine Or.inr ⟨rfl, Or.inl ?_⟩
    have hload := hstep.load_lt
    simp only
    omega
  | passFile hemits _ =>
    obtain ⟨hdue, hload⟩ := hemits.due_eq
    refine Or.inr ⟨rfl, Or.inr ⟨by simp only [hload], ?_⟩⟩
    simp only [Pool.load_put, hdue]
    omega
  | write hstep =>
    refine Or.inr ⟨rfl, Or.inr ⟨rfl, ?_⟩⟩
    have hload := hstep.load_lt
    simp only
    omega

/-- No line goes on for ever. -/
theorem wellFounded_step (j : Job) : WellFounded fun l' l : Line => Step j l l' :=
  Subrelation.wf workLeft_lt (InvImage.wf workLeft wellFounded_lt)

end Line

end FixtureDraft.Batch
