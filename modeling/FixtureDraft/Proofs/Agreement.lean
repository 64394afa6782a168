import FixtureDraft.Proofs.Orders

/-!
# Strict and tolerant batches agree

A strict batch has a report exactly if a tolerant one tells of no failure, and then both tell the
same; otherwise it ends with one of the failures that the tolerant one tells of (`Agree`). So it
is stage by stage (`Job.run_agree`), and side by side for every schedule (`Line.Ends.exists_agree`,
`Line.exists_ends_agree`). That any strict batch agrees with any tolerant one takes names without
slashes (`strict_batch_agrees`).
-/

namespace FixtureDraft.Batch

open FixtureDraft.Files

/-! ## Agreement -/

/-- The end of a strict batch agrees with the report of a tolerant one, each with the store that
the batch leaves. -/
structure Agree (strict : Store × Except RunFault Report) (tolerant : Store × Report) : Prop where
  report_iff : (∃ r, strict.2 = .ok r) ↔ tolerant.2.failures = []
  report : ∀ r, strict.2 = .ok r →
    r.Alike tolerant.2 ∧ ∀ place, strict.1.find? place = tolerant.1.find? place
  fault : ∀ e, strict.2 = .error e →
    ∃ f : StageFault, e = .stage f ∧ f.failure ∈ tolerant.2.failures

namespace Agree

variable {s s' s'' : Store} {r r' : Report} {e : Except RunFault Report}

/-- A batch without failures may have been strict or tolerant. -/
lemma of_report (hnone : r.failures = []) : Agree (s, .ok r) (s, r) where
  report_iff := ⟨fun _ => hnone, fun _ => ⟨r, rfl⟩⟩
  report := by
    rintro r' hr'
    obtain rfl := Except.ok.inj hr'
    exact ⟨⟨.refl _, rfl, .refl _⟩, fun _ => rfl⟩
  fault := by rintro e he; cases he

/-- A fault agrees with a report that tells of it. -/
lemma of_fault {f : StageFault} (hf : f.failure ∈ r.failures) :
    Agree (s, .error (.stage f)) (s', r) where
  report_iff := by
    refine ⟨?_, fun hnone => ?_⟩
    · rintro ⟨r', hr'⟩
      cases hr'
    · rw [hnone] at hf
      cases hf
  report := by rintro r' hr'; cases hr'
  fault := by
    rintro e he
    obtain rfl := Except.error.inj he
    exact ⟨f, rfl, hf⟩

/-- What agrees with one report agrees with one that tells the same. -/
lemma alike (hagree : Agree (s, e) (s', r)) (halike : r.Alike r')
    (hstores : r.failures = [] → ∀ place, s'.find? place = s''.find? place) :
    Agree (s, e) (s'', r') where
  report_iff := by
    refine hagree.report_iff.trans ⟨fun hnone => ?_, fun hnone => ?_⟩
    · exact (hnone ▸ halike.failures).nil_eq.symm
    · exact (hnone ▸ halike.failures).eq_nil
  report := by
    intro report hreport
    obtain ⟨hsame, hfind⟩ := hagree.report report hreport
    have hnone := hagree.report_iff.mp ⟨report, hreport⟩
    refine ⟨⟨hsame.read.trans halike.read, hsame.written.trans halike.written,
      hsame.failures.trans halike.failures⟩, fun place => ?_⟩
    exact (hfind place).trans (hstores hnone place)
  fault := by
    intro fault hfault
    obtain ⟨f, hf, hmem⟩ := hagree.fault fault hfault
    exact ⟨f, hf, halike.failures.subset hmem⟩

end Agree

/-! ## Stage by stage -/

namespace Job

/-- A strict batch writes as a tolerant one does until the first fault. -/
lemma writeStage_strict (j : Job) (files : List FixtureFile) (claimed : List String) (s : Store) :
    let strict := ({ j with strict := true } : Job).writeStage claimed s files
    let tolerant := ({ j with strict := false } : Job).writeStage claimed s files
    strict.2.faults.head? = tolerant.2.faults.head? ∧
      (tolerant.2.faults = [] → strict = tolerant) := by
  induction files generalizing claimed s with
  | nil => exact ⟨rfl, fun _ => rfl⟩
  | cons f files ih =>
    have hstrict : ({ j with strict := true } : Job).writeFile claimed s f
        = j.writeFile claimed s f := rfl
    have htolerant : ({ j with strict := false } : Job).writeFile claimed s f
        = j.writeFile claimed s f := rfl
    simp only [writeStage, hstrict, htolerant]
    cases j.writeFile claimed s f with
    | ok s' =>
      obtain ⟨hhead, hsame⟩ := ih (f.qualifiedName :: claimed) s'
      refine ⟨hhead, fun hnone => ?_⟩
      have hrest := hsame hnone
      simp only [hrest]
      rfl
    | error cause =>
      refine ⟨rfl, fun hnone => ?_⟩
      simp [StageRun.push] at hnone

/-- Stage by stage, a strict batch agrees with the tolerant one. -/
theorem run_agree (j : Job) {s s₀ : Store} (paths : List String)
    (hfolder : s.makeFolders j.folder = (s₀, none)) :
    ∃ (s' : Store) (r : Report), ({ j with strict := false } : Job).run s paths = (s', .ok r) ∧
      Agree (({ j with strict := true } : Job).run s paths) (s', r) := by
  have htolerant : ∀ faults, ({ j with strict := false } : Job).stopsAt faults = none :=
    fun _ => rfl
  have hstrict : ∀ faults, ({ j with strict := true } : Job).stopsAt faults
      = faults.head?.map .stage := fun _ => rfl
  simp only [run, hfolder, htolerant, hstrict]
  refine ⟨_, _, rfl, ?_⟩
  obtain ⟨hhead, hsame⟩ := j.writeStage_strict
    ((generateStage j.engine (readStage s₀ paths).results).results.flatMap (·.2)) [] s₀
  -- the first stage with a fault ends the strict batch
  cases hread : (readStage s₀ paths).faults with
  | cons f faults => exact .of_fault (by simp)
  | nil =>
    cases hgenerate : (generateStage j.engine (readStage s₀ paths).results).faults with
    | cons f faults => exact .of_fault (by simp)
    | nil =>
      simp only [List.head?_nil, Option.map_none, hhead]
      set tolerant := ({ j with strict := false } : Job).writeStage [] s₀ _ with htol
      cases hwrite : tolerant.2.faults with
      | cons f faults => exact .of_fault (by simp)
      | nil =>
        rw [hsame hwrite, hwrite]
        exact .of_report rfl

end Job

/-! ## Side by side -/

namespace Line

variable {j : Job} {w : Workers} {s₀ : Store} {paths : List String} {l l' : Line}

/-- However a strict line ends, it agrees with a line that goes on until it is finished. -/
lemma Ends.exists_agree {e : Except RunFault Report} (hends : l.Ends j e) (hhalted : l.Halted)
    (hsound : l.Sound) : ∃ l', Relation.ReflTransGen (Step j) l l' ∧ l'.Finished ∧
      Agree (l.disk.store, e) (l'.disk.store, l'.ledger.report j) := by
  cases hends with
  | report hfinished =>
    have hnone := hhalted.faults_eq_nil_of_finished hfinished j
    exact ⟨l, .refl, hfinished, .of_report (List.map_eq_nil_iff.mpr hnone)⟩
  | fault hfault =>
    obtain ⟨l', hreach, hfinished⟩ := hsound.exists_finished j
    have hfault' := faults_subset_of_reach hreach hfault
    exact ⟨l', hreach, hfinished, .of_fault (List.mem_map_of_mem hfault')⟩

/-- However a tolerant line is finished, it agrees with a strict one that it was before. -/
lemma exists_ends_agree (hreach : Relation.ReflTransGen (Step j) (start w s₀ paths) l')
    (hfinished : l'.Finished) :
    ∃ l e, Relation.ReflTransGen (StrictStep j) (start w s₀ paths) l ∧
      Relation.ReflTransGen (Step j) l l' ∧ l.Ends j e ∧
      Agree (l.disk.store, e) (l'.disk.store, l'.ledger.report j) := by
  obtain ⟨l, hstrict, hrest, rfl | hfaulty⟩ := exists_strict_of_reach hreach
  · have hnone := (halted_of_reach hstrict).faults_eq_nil_of_finished hfinished j
    exact ⟨l, _, hstrict, .refl, .report hfinished, .of_report (List.map_eq_nil_iff.mpr hnone)⟩
  · obtain ⟨f, hfault⟩ := List.exists_mem_of_ne_nil _ hfaulty
    have hfault' := faults_subset_of_reach hrest hfault
    exact ⟨l, _, hstrict, hrest, .fault hfault, .of_fault (List.mem_map_of_mem hfault')⟩

end Line

namespace Job.Finishes

variable {j : Job} {w : Workers} {s s₀ : Store} {paths : List String}
  {o : Store × Except RunFault Report}

/-- However a strict batch ends, a tolerant one may end so that both agree. -/
lemma exists_agree (hfinishes : ({ j with strict := true } : Job).Finishes w s paths o)
    (hfolder : s.makeFolders j.folder = (s₀, none)) :
    ∃ s' r, ({ j with strict := false } : Job).Finishes w s paths (s', .ok r) ∧
      Agree o (s', r) := by
  cases hfinishes with
  | inTurn =>
    obtain ⟨s', r, hrun, hagree⟩ := j.run_agree paths hfolder
    exact ⟨s', r, hrun ▸ .inTurn, hagree⟩
  | tolerantly htolerant => cases htolerant
  | strictly _ hworkers hfolder' hreach hends =>
    have hreached := Line.reach_of_strict hreach
    obtain ⟨l', hrest, hfinished, hagree⟩ := hends.exists_agree (Line.halted_of_reach hreach)
      (Line.sound_of_reach hworkers hreached)
    -- the steps of a strict line are those of a tolerant one
    have htolerant := Relation.ReflTransGen.mono (fun _ _ hstep => hstep.withStrict false) _ _
      (hreached.trans hrest)
    exact ⟨_, _, .tolerantly rfl hworkers hfolder' htolerant hfinished, hagree⟩

/-- A tolerant batch whose folder can be made has a report. -/
lemma exists_report (hfinishes : ({ j with strict := false } : Job).Finishes w s paths o)
    (hfolder : s.makeFolders j.folder = (s₀, none)) : ∃ r, o.2 = .ok r := by
  cases hfinishes with
  | inTurn =>
    obtain ⟨s', r, hrun, -⟩ := j.run_agree paths hfolder
    exact ⟨r, congrArg Prod.snd hrun⟩
  | strictly hstrict => cases hstrict
  | tolerantly => exact ⟨_, rfl⟩

end Job.Finishes

/-- A strict batch whose folder can be made agrees with a tolerant one. It does so stage by stage,
and side by side: no strict schedule goes on for ever or gets stuck before it ends; its end agrees
with a tolerant schedule that goes on from there, and every tolerant schedule has passed such an
end. Where no name has a slash and no file is written where a source stands, any end of a strict
batch agrees with any end of a tolerant one of other numbers of workers, but for the reasons why
sources were not read; and also in these if no path leads through a place where a file is
written. -/
theorem strict_batch_agrees (j : Job) (w : Workers) (s s₀ : Store) (paths : List String)
    (hworkers : w.check = .ok ()) (hfolder : s.makeFolders j.folder = (s₀, none)) :
    (∃ (s' : Store) (r : Report), ({ j with strict := false } : Job).run s paths = (s', .ok r) ∧
      Agree (({ j with strict := true } : Job).run s paths) (s', r)) ∧
    WellFounded (fun l' l : Line => Line.StrictStep j l l') ∧
    (∀ l, Relation.ReflTransGen (Line.StrictStep j) (Line.start w s₀ paths) l →
      ((∃ e, l.Ends j e) ∨ ∃ l', Line.StrictStep j l l') ∧
      ∀ e, l.Ends j e → ∃ l', Relation.ReflTransGen (Line.Step j) l l' ∧ l'.Finished ∧
        Agree (l.disk.store, e) (l'.disk.store, l'.ledger.report j)) ∧
    (∀ l', Relation.ReflTransGen (Line.Step j) (Line.start w s₀ paths) l' → l'.Finished →
      ∃ l e, Relation.ReflTransGen (Line.StrictStep j) (Line.start w s₀ paths) l ∧
        Relation.ReflTransGen (Line.Step j) l l' ∧ l.Ends j e ∧
        Agree (l.disk.store, e) (l'.disk.store, l'.ledger.report j)) ∧
    (j.extension = ".cs" → j.Apart s₀ paths → ∀ w' o o',
      ({ j with strict := true } : Job).Finishes w s paths o →
      ({ j with strict := false } : Job).Finishes w' s paths o' →
      ∃ r, o'.2 = .ok r ∧ (∃ r', r'.AlikeButReasons r ∧ Agree o (o'.1, r')) ∧
        (j.Clear s₀ paths → Agree o (o'.1, r))) := by
  refine ⟨j.run_agree paths hfolder, Line.wellFounded_strictStep j, fun l hreach => ?_,
    fun l' hreach hfinished => Line.exists_ends_agree hreach hfinished, ?_⟩
  · have hsound := Line.sound_of_reach hworkers (Line.reach_of_strict hreach)
    exact ⟨hsound.exists_ends j, fun e hends =>
      hends.exists_agree (Line.halted_of_reach hreach) hsound⟩
  · intro hext hapart w' o o' hstrict htolerant
    obtain ⟨r, hreport⟩ := htolerant.exists_report hfolder
    -- the strict batch agrees with what a tolerant one may come to, and that is like any other
    obtain ⟨s₁, r₁, hfinishes, hagree⟩ := hstrict.exists_agree hfolder
    set tolerant : Job := { j with strict := false } with htolerantJob
    have hone : tolerant.Completes s paths (s₁, r₁) := ⟨w, hfinishes⟩
    have hother : tolerant.Completes s paths (o'.1, r) := by
      refine ⟨w', ?_⟩
      rw [← hreport]
      exact htolerant
    have hapart' : tolerant.Apart s₀ paths := ⟨hapart.no_slash, hapart.not_target⟩
    obtain ⟨hreasons, halike, hstores⟩ := hone.alike hother rfl hext hfolder hapart' (.refl _)
    have hleft : r₁.failures = [] → ∀ place, s₁.find? place = o'.1.find? place := by
      intro hnone
      exact hstores (hone.nodup_of_failures_eq_nil rfl hext hfolder hapart' hnone)
    refine ⟨r, hreport, ⟨r₁, hreasons, ?_⟩, fun hclear => ?_⟩
    · exact hagree.alike ⟨.refl _, rfl, .refl _⟩ hleft
    · exact hagree.alike (halike ⟨hclear.no_slash, hclear.not_through⟩) hleft

/-- A path that is given twice, so that its file is once a duplicate: a strict batch agrees with a
tolerant one stage by stage, and however the workers take turns. -/
theorem strict_batch_agrees_for_repeated_path :
    (∃ (s' : Store) (r : Report),
      sampleJob.run (sampleStore false) ["A.cs", "A.cs"] = (s', .ok r) ∧
      Agree (({ sampleJob with strict := true } : Job).run (sampleStore false) ["A.cs", "A.cs"])
        (s', r)) ∧
    ∀ w' o o',
      ({ sampleJob with strict := true } : Job).Finishes {} (sampleStore false)
        ["A.cs", "A.cs"] o →
      sampleJob.Finishes w' (sampleStore false) ["A.cs", "A.cs"] o' →
      ∃ r, o'.2 = .ok r ∧ Agree o (o'.1, r) := by
  have hclear : sampleJob.Clear (sampleStore true) ["A.cs", "A.cs"] :=
    clear_sample.of_subset (by simp)
  obtain ⟨hrun, -, -, -, hends⟩ := strict_batch_agrees sampleJob {} _ _ ["A.cs", "A.cs"] rfl
    makeFolders_sampleStore
  refine ⟨hrun, fun w' o o' hstrict htolerant => ?_⟩
  obtain ⟨r, hreport, -, hagree⟩ := hends rfl hclear.apart w' o o' hstrict htolerant
  exact ⟨r, hreport, hagree hclear⟩

end FixtureDraft.Batch
