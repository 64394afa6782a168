import FixtureDraft.Proofs.Schedules
import FixtureDraft.Proofs.StagedRuns

/-!
# A tolerant batch accounts for every item

Whether a tolerant batch runs stage by stage (`Job.run_eq_report`) or as a line of workers, however
many they are and however they take turns (`Line.sound_and_balanced`), it comes to its end with a
ledger that accounts for every path, every source and every file.
-/

namespace FixtureDraft.Batch

open FixtureDraft.Files

variable {j : Job} {s s₀ : Store} {paths : List String}

/-! ## Stage by stage -/

namespace Job

/-- A tolerant batch that runs stage by stage reports what its ledger tells. -/
lemma run_eq_stagedLedger (hext : j.extension = ".cs") (htolerant : j.strict = false)
    (hfolder : s.makeFolders j.folder = (s₀, none)) (hapart : j.Apart s₀ paths) :
    ∃ s' : Store, j.run s paths = (s', .ok ((j.stagedLedger s₀ paths).report j)) ∧
      (j.stagedLedger s₀ paths).Accounts j s₀ s' paths ∧ Store.SameFolders s₀ s' := by
  set read := readLog s₀ paths with hreadlog
  set generate := generateLog j.engine read.results with hgeneratelog
  set write := j.writeLog [] s₀ (generate.outputs j.generator) with hwritelog
  have hledger : j.stagedLedger s₀ paths = ⟨read, generate, write⟩ := rfl
  have hpaths : read.items = paths := items_readLog s₀ paths
  have hsources : generate.items = read.results := items_generateLog j.engine read.results
  have hread := readOutcome_readLog s₀ paths
  have hgenerate := files_generateLog j.engine read.results
  have hslash : ∀ f ∈ generate.outputs j.generator, '/' ∉ f.qualifiedName.toList := by
    intro f hf
    exact hapart.no_slash f (contributes_of_mem_outputs (List.Perm.of_eq hpaths).subset hread
      (List.Perm.of_eq hsources).subset hgenerate hf)
  obtain ⟨d, hstage, hwrote⟩ := writeStage_eq s₀ hext htolerant
    (generate.outputs j.generator) { store := s₀ } [] 0 (by simp) hslash (fun _ => Iff.rfl)
    (Wrote.start j s₀)
  rw [zero_add] at hwrote
  refine ⟨d.store, ?_, ?_, hwrote.folders⟩
  · have hstops : ∀ faults, j.stopsAt faults = none := by
      intro faults
      simp [stopsAt, htolerant]
    have hwritten : (write.stageRun j.writer).results.map (·.2) = write.results.map (·.2) := by
      rw [Log.stageRun, List.map_map]
      rfl
    simp only [run, hfolder, hstops, readStage_eq, ← hreadlog, results_stageRun_reader,
      generateStage_eq, ← hgeneratelog, flatMap_results_stageRun, hstage, ← hwritelog, hwritten,
      hledger]
    rfl
  · rw [hledger]
    exact Ledger.accounts_of_wrote hext hapart (.of_eq hpaths) hread (.of_eq hsources) hgenerate
      (.of_eq (j.items_writeLog _ _ _)) hwrote

/-- A tolerant batch that runs stage by stage has a ledger that accounts for it. -/
lemma run_eq_report (hext : j.extension = ".cs") (htolerant : j.strict = false)
    (hfolder : s.makeFolders j.folder = (s₀, none)) (hapart : j.Apart s₀ paths) :
    ∃ (s' : Store) (g : Ledger),
      j.run s paths = (s', .ok (g.report j)) ∧ g.Accounts j s₀ s' paths := by
  obtain ⟨s', hrun, haccounts, -⟩ := run_eq_stagedLedger hext htolerant hfolder hapart
  exact ⟨s', _, hrun, haccounts⟩

end Job

/-! ## Side by side -/

namespace Line

variable {l l' : Line}

/-- What holds of a line at any time: every path is still to be fed or came to the readers, what
the readers made is owed or came to those who generate, and what these made is owed or came to
the writers; and the logs tell what the files bear out. -/
structure Balanced (l : Line) (j : Job) (s₀ : Store) (paths : List String) : Prop where
  paths : (l.feed.reduceOption : Multiset String) + l.reading.view.accepted = paths
  sources : l.generating.view.accepted + l.reading.view.owed
    = l.reading.view.logged.bind reader.made
  files : l.writing.view.accepted + l.generating.view.owed
    = l.generating.view.logged.bind j.generator.made
  read : ∀ e ∈ l.reading.view.logged, ReadOutcome s₀ e.1 e.2
  generate : ∀ e ∈ l.generating.view.logged, e.2 = (j.engine.files e.1.2).mapError .unparsed
  wrote : j.Wrote s₀ l.disk l.writing.view.busy l.writing.view.logged

lemma balanced_start (j : Job) (w : Workers) (s : Store) (paths : List String) :
    (start w s paths).Balanced j s paths := by
  have hview : ∀ {α ρ β : Type} (n marks : ℕ),
      (Pool.start n marks : Pool α ρ β).view = ⟨0, 0, 0, 0⟩ := by
    intro α ρ β n marks
    simp [Pool.view, Pool.start, Pool.log, Worker.busy, Worker.owed, List.reduceOption]
  refine ⟨?_, ?_, ?_, ?_, ?_, ?_⟩
  · simp [start, hview, View.accepted, List.reduceOption]
  · simp [start, hview, View.accepted]
  · simp [start, hview, View.accepted]
  · simp [start, hview]
  · simp [start, hview]
  · simp only [start, hview]
    exact Job.Wrote.start j s

/-- A handler that only asks for something leaves everything as it is. -/
private lemma handle_eq_ok {ρ ε : Type} {x : Except ε ρ} {c : ε → Cause} {d d' : Disk} {r : ρ}
    (h : (x.mapError c).map (d, ·) = .ok (d', r)) : d' = d ∧ x = .ok r := by
  cases x with
  | ok r' =>
    simp only [Except.mapError, Except.map, Except.ok.injEq, Prod.mk.injEq] at h
    exact ⟨h.1.symm, congrArg _ h.2⟩
  | error fault => simp [Except.mapError, Except.map] at h

private lemma handle_eq_error {ρ ε : Type} {x : Except ε ρ} {c : ε → Cause} {d : Disk}
    {cause : Cause} (h : (x.mapError c).map (d, ·) = .error cause) :
    ∃ fault, cause = c fault ∧ x = .error fault := by
  cases x with
  | ok r => simp [Except.mapError, Except.map] at h
  | error fault =>
    simp only [Except.mapError, Except.map, Except.error.injEq] at h
    exact ⟨fault, h.symm, rfl⟩

namespace Balanced

/-- An item of a log came to its stage. -/
lemma mem_accepted {α ρ β : Type} {v : View α ρ β} {e : α × Except Cause ρ}
    (he : e ∈ v.logged) : e.1 ∈ v.accepted :=
  Multiset.mem_add.mpr (Or.inr (Multiset.mem_map_of_mem _ he))

/-- What came to the readers is a path of the batch. -/
lemma mem_paths (hbalanced : l.Balanced j s₀ paths) {path : String}
    (hpath : path ∈ l.reading.view.accepted) : path ∈ paths := by
  rw [← Multiset.mem_coe, ← hbalanced.paths]
  exact Multiset.mem_add.mpr (Or.inr hpath)

/-- What came to the writers is what the batch gives rise to. -/
lemma contributes (hbalanced : l.Balanced j s₀ paths) {f : FixtureFile}
    (hf : f ∈ l.writing.view.accepted) : j.Contributes s₀ paths f := by
  refine contributes_of_mem_made _ _ (fun e he => hbalanced.mem_paths (mem_accepted he))
    hbalanced.read (fun e he => ?_) hbalanced.generate ?_
  · rw [← hbalanced.sources]
    exact Multiset.mem_add.mpr (Or.inl (mem_accepted he))
  · rw [← hbalanced.files]
    exact Multiset.mem_add.mpr (Or.inl hf)

/-- Whatever was written, a path is read as if nothing was: it leads to the same place, and there
stands no target. -/
lemma toOption_readText (hbalanced : l.Balanced j s₀ paths) (hapart : j.Apart s₀ paths)
    {path : String} (hpath : path ∈ paths) :
    (l.disk.store.readText path).toOption = (s₀.readText path).toOption := by
  refine Store.toOption_readText_congr hbalanced.wrote.folders fun place hplace => ?_
  refine hbalanced.wrote.untouched place fun e he _ => ?_
  exact hapart.not_target path hpath place hplace e.1 (hbalanced.contributes (mem_accepted he))

/-- A step of a reader leaves the files, and what it logs is what reading the path comes to. -/
lemma read_step (hbalanced : l.Balanced j s₀ paths) (hapart : j.Apart s₀ paths) {d : Disk}
    {v : View String String (String × String)} (heffect : Effect reader l.disk l.reading.view d v) :
    d = l.disk ∧ ∀ e ∈ v.logged, ReadOutcome s₀ e.1 e.2 := by
  refine ⟨heffect.disk_eq (fun a d'' h => (Except.ok.inj h).symm)
    (fun a d'' r h => (handle_eq_ok h).1), fun e he => ?_⟩
  have hpath : e.1 ∈ paths := by
    refine hbalanced.mem_paths ?_
    rw [← heffect.accepted_eq]
    exact mem_accepted he
  -- what is found now is what was there at the start
  have hsame := hbalanced.toOption_readText hapart hpath
  obtain ⟨path, result⟩ := e
  rcases heffect.mem_logged he with he | ⟨cause, rfl, hfail⟩ | ⟨code, rfl, hhandle⟩
  · exact hbalanced.read _ he
  · obtain ⟨fault, rfl, hfault⟩ := handle_eq_error (hfail.resolve_left (by simp [reader]))
    refine .unread fault fun code hcode => ?_
    rw [hfault, hcode] at hsame
    simp [Except.toOption] at hsame
  · rw [(handle_eq_ok hhandle).2] at hsame
    cases hcode : s₀.readText path with
    | ok code' =>
      rw [hcode] at hsame
      simp only [Except.toOption, Option.some.injEq] at hsame
      exact .read (hsame ▸ hcode)
    | error fault =>
      rw [hcode] at hsame
      simp [Except.toOption] at hsame

/-- A step of a generating worker leaves the files, and what it logs is the engine's answer. -/
lemma generate_step (hbalanced : l.Balanced j s₀ paths) {d : Disk}
    {v : View (String × String) (List FixtureFile) FixtureFile}
    (heffect : Effect j.generator l.disk l.generating.view d v) :
    d = l.disk ∧ ∀ e ∈ v.logged, e.2 = (j.engine.files e.1.2).mapError .unparsed := by
  refine ⟨heffect.disk_eq (fun a d'' h => (Except.ok.inj h).symm)
    (fun a d'' r h => (handle_eq_ok h).1), fun e he => ?_⟩
  obtain ⟨source, result⟩ := e
  rcases heffect.mem_logged he with he | ⟨cause, rfl, hfail⟩ | ⟨files, rfl, hhandle⟩
  · exact hbalanced.generate _ he
  · obtain ⟨fault, rfl, hfault⟩ :=
      handle_eq_error (hfail.resolve_left (by simp [Job.generator]))
    simp only [hfault]
    rfl
  · simp only [(handle_eq_ok hhandle).2]
    rfl

/-- Whatever happens next, the line is balanced. -/
lemma step (hapart : j.Apart s₀ paths) (hext : j.extension = ".cs")
    (hbalanced : l.Balanced j s₀ paths) (hstep : Step j l l') : l'.Balanced j s₀ paths := by
  have ⟨hpaths, hsources, hfiles, hread, hgenerate, hwrote⟩ := hbalanced
  -- by the steps: each moves items from one side of a balance to the other, or along one side
  cases hstep with
  | @feed x feed hfeed _ =>
    refine ⟨?_, ?_, hfiles, ?_, hgenerate, hwrote⟩
    · rw [← hpaths, hfeed]
      cases x with
      | none => simp [Pool.view_put, View.accepted, List.reduceOption_cons_of_none]
      | some path =>
        simp only [Pool.view_put, View.accepted, List.reduceOption_cons_of_some,
          Option.toList_some, ← Multiset.cons_coe, ← Multiset.singleton_add, Multiset.coe_nil]
        abel
    · simpa only [Pool.view_put] using hsources
    · simpa only [Pool.view_put] using hread
  | read hstep =>
    have heffect := hstep.effect
    obtain ⟨hdisk, hread'⟩ := hbalanced.read_step hapart heffect
    refine ⟨?_, heffect.handed_add_owed hsources, hfiles, hread', hgenerate, ?_⟩
    · rw [← hpaths]
      simp only [heffect.accepted_eq]
    · simp only [hdisk]
      exact hwrote
  | passSource hemits _ =>
    have hview := hemits.view_eq
    refine ⟨?_, ?_, ?_, ?_, ?_, hwrote⟩
    · rw [← hpaths, hview]
      rfl
    · rw [hview] at hsources
      simp only [Pool.view_put, View.accepted] at hsources ⊢
      rw [← hsources]
      abel
    · simpa only [Pool.view_put] using hfiles
    · rw [hview] at hread
      exact hread
    · simpa only [Pool.view_put] using hgenerate
  | generate hstep =>
    have heffect := hstep.effect
    obtain ⟨hdisk, hgenerate'⟩ := hbalanced.generate_step heffect
    refine ⟨hpaths, ?_, heffect.handed_add_owed hfiles, hread, hgenerate', ?_⟩
    · simp only [heffect.accepted_eq]
      exact hsources
    · simp only [hdisk]
      exact hwrote
  | passFile hemits _ =>
    have hview := hemits.view_eq
    refine ⟨hpaths, ?_, ?_, hread, ?_, ?_⟩
    · rw [hview] at hsources
      exact hsources
    · rw [hview] at hfiles
      simp only [Pool.view_put, View.accepted] at hfiles ⊢
      rw [← hfiles]
      abel
    · rw [hview] at hgenerate
      exact hgenerate
    · simpa only [Pool.view_put] using hwrote
  | write hstep =>
    have heffect := hstep.effect
    refine ⟨hpaths, hsources, ?_, hread, hgenerate, ?_⟩
    · simp only [heffect.accepted_eq]
      exact hfiles
    · refine hwrote.effect hext (fun f hf => ?_) heffect
      exact hapart.no_slash f (hbalanced.contributes hf)

/-- A finished line has a ledger that accounts for the batch. -/
lemma accounts (hapart : j.Apart s₀ paths) (hext : j.extension = ".cs")
    (hbalanced : l.Balanced j s₀ paths) (hsound : l.Sound) (hfinished : l.Finished) :
    l.ledger.Accounts j s₀ l.disk.store paths := by
  obtain ⟨hpaths, hsources, hfiles, hread, hgenerate, hwrote⟩ := hbalanced
  -- the queues are empty and nothing is owed, so that only the logs are left in the balance
  obtain ⟨_, _, _, hready, _⟩ := hsound.fed
  rw [hready.view_eq hfinished.reading.1] at hpaths hsources hread
  rw [hsound.reading_generating.ready.view_eq hfinished.generating.1] at hsources hfiles hgenerate
  rw [hsound.generating_writing.ready.view_eq hfinished.writing] at hfiles hwrote
  simp only [View.accepted, hfinished.feed, List.reduceOption_nil, Multiset.coe_nil, zero_add,
    add_zero, Log.bind_made, Multiset.map_coe] at hpaths hsources hfiles
  refine Ledger.accounts_of_wrote hext hapart ?_ hread ?_ hgenerate ?_ hwrote
  · exact Multiset.coe_eq_coe.mp hpaths
  · have hmade : Log.outputs reader l.reading.log = Log.results l.reading.log := by
      simp [Log.outputs, reader]
    rw [hmade] at hsources
    exact Multiset.coe_eq_coe.mp hsources
  · exact Multiset.coe_eq_coe.mp hfiles

end Balanced

/-- What holds of every line that a batch comes to. -/
lemma sound_and_balanced {w : Workers} (hworkers : w.check = .ok ()) (hapart : j.Apart s₀ paths)
    (hext : j.extension = ".cs")
    (hreach : Relation.ReflTransGen (Step j) (start w s₀ paths) l) :
    l.Sound ∧ l.Balanced j s₀ paths := by
  induction hreach with
  | refl => exact ⟨sound_start hworkers s₀ paths, balanced_start j w s₀ paths⟩
  | tail _ hstep ih => exact ⟨ih.1.step hstep, ih.2.step hapart hext hstep⟩

end Line

/-! ## Every item is accounted for -/

/-- A tolerant batch whose folder can be made accounts for every item. It does so stage by stage,
and as a line of workers: no schedule goes on for ever, none gets stuck before the line is
finished, and the ledger of a finished line accounts for the batch. -/
theorem tolerant_batch_accounts (j : Job) (w : Workers) (s s₀ : Store) (paths : List String)
    (htolerant : j.strict = false) (hext : j.extension = ".cs") (hworkers : w.check = .ok ())
    (hfolder : s.makeFolders j.folder = (s₀, none)) (hapart : j.Apart s₀ paths) :
    (∃ (s' : Store) (g : Ledger), j.run s paths = (s', .ok (g.report j))
      ∧ g.Accounts j s₀ s' paths) ∧
    WellFounded (fun l' l : Line => Line.Step j l l') ∧
    ∀ l, Relation.ReflTransGen (Line.Step j) (Line.start w s₀ paths) l →
      (l.Finished ∨ ∃ l', Line.Step j l l') ∧
      (l.Finished → l.ledger.Accounts j s₀ l.disk.store paths) := by
  refine ⟨Job.run_eq_report hext htolerant hfolder hapart, Line.wellFounded_step j,
    fun l hreach => ?_⟩
  obtain ⟨hsound, hbalanced⟩ := Line.sound_and_balanced hworkers hapart hext hreach
  exact ⟨hsound.exists_step j, hbalanced.accounts hapart hext hsound⟩

/-- A tolerant batch into the folder `out`. -/
def sampleJob : Job := { folder := { steps := ["out"] }, strict := false }

/-- A store with a source of one class and, if it was made, the folder `out`. -/
def sampleStore (made : Bool) : Store where
  entries := (if made then [(["out"], .folder)] else [])
    ++ [(["A.cs"], .file (Text.encode "public class A { }"))]

lemma makeFolders_sampleStore :
    (sampleStore false).makeFolders sampleJob.folder = (sampleStore true, none) := by
  show Store.makeFoldersBack 0 ["out"] (sampleStore false) = _
  rw [Store.makeFoldersBack]
  simp only [Store.makeFolder, String.contains_char_eq]
  decide +kernel

/-- All files that the source gives rise to have one name. -/
lemma qualifiedName_of_sample {f : FixtureFile}
    (hf : sampleJob.Contributes (sampleStore true) ["A.cs", "A.cs"] f) :
    f.qualifiedName = "ATests" := by
  have hread : ((sampleStore true).readText "A.cs").toOption = some "public class A { }" := by
    simp only [Store.readText, Store.read, String.contains_char_eq]
    decide +kernel
  have hfiles : ((sampleJob.engine.files "public class A { }").toOption.map
      (List.map FixtureFile.qualifiedName)) = some ["ATests"] := by
    decide +kernel
  obtain ⟨path, hpath, code, files, hcode, hmade, hf⟩ := hf
  obtain rfl : path = "A.cs" := by simpa using hpath
  rw [hcode] at hread
  obtain rfl : code = "public class A { }" := Option.some.inj hread
  rw [hmade] at hfiles
  have hmem : f.qualifiedName ∈ files.map FixtureFile.qualifiedName := List.mem_map_of_mem hf
  rw [show files.map FixtureFile.qualifiedName = ["ATests"] from Option.some.inj hfiles] at hmem
  simpa using hmem

/-- A path that is given twice: its file is written once, and is once a duplicate. -/
theorem tolerant_batch_accounts_for_repeated_path :
    ∃ (s' : Store) (g : Ledger),
      sampleJob.run (sampleStore false) ["A.cs", "A.cs"] = (s', .ok (g.report sampleJob))
      ∧ g.Accounts sampleJob (sampleStore true) s' ["A.cs", "A.cs"] := by
  refine (tolerant_batch_accounts sampleJob {} _ _ _ rfl rfl rfl makeFolders_sampleStore
    ⟨?_, ?_⟩).1
  · intro f hf
    rw [qualifiedName_of_sample hf]
    decide
  · intro path hpath place hplace f hf
    obtain rfl : path = "A.cs" := by simpa using hpath
    have hplaces : ((sampleStore true).placeNamed "A.cs").toOption = some ["A.cs"] := by
      decide +kernel
    rw [hplace] at hplaces
    obtain rfl : place = ["A.cs"] := Option.some.inj hplaces
    rw [Job.target, qualifiedName_of_sample hf]
    decide +kernel

end FixtureDraft.Batch
