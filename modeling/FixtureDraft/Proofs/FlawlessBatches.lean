import FixtureDraft.Proofs.Agreement
import FixtureDraft.Proofs.BatchFiles

/-!
# Batches without a flaw

A strict batch has a report exactly if nothing is wrong with it from the start: its sources are
read and parsed, its files have different names, and nothing is in the way of any file
(`Job.Flawless`). Then it has read all sources and all its files are on disk. Otherwise it ends with
a fault. So it is stage by stage and for every schedule (`Job.Finishes.cases`).
-/

namespace FixtureDraft.Batch

open FixtureDraft.Files

variable {j : Job} {s s₀ s' : Store} {paths : List String}

/-- Nothing is wrong with a batch that finds the store `s`. -/
structure Job.Flawless (j : Job) (s : Store) (paths : List String) : Prop where
  sources : ∀ path ∈ paths, ∃ code files,
    s.readText path = .ok code ∧ j.engine.files code = .ok files
  names : ((j.filesOf s paths).map FixtureFile.qualifiedName).Nodup
  targets : ∀ f ∈ j.filesOf s paths, ∃ place, s.Writable (j.target f) place

/-- An attempt succeeds if nothing is in the way of the file. -/
lemma Job.isOk_attempt (j : Job) (s : Store) (f : FixtureFile) :
    (j.attempt s f.qualifiedName).isOk = true ↔ ∃ place, s.Writable (j.target f) place := by
  have hattempt : j.attempt s f.qualifiedName
      = ((s.write (j.target f) []).map fun _ => (j.target f).text).mapError .unwritten := rfl
  rw [hattempt]
  constructor
  · intro hok
    cases hwrite : s.write (j.target f) [] with
    | error fault =>
      rw [hwrite] at hok
      cases hok
    | ok s' => exact Store.Writable.of_write hwrite
  · rintro ⟨place, hplace⟩
    rw [hplace.write_eq]
    rfl

/-! ## Ledgers without faults -/

namespace Ledger

variable {g : Ledger}

lemma failures_eq_nil_iff : (g.report j).failures = [] ↔
    (∀ e ∈ g.read, e.2.isOk = true) ∧ (∀ e ∈ g.generate, e.2.isOk = true) ∧
      ∀ e ∈ g.write, e.2.isOk = true := by
  rw [report, List.map_eq_nil_iff, List.append_eq_nil_iff, List.append_eq_nil_iff,
    Log.faults_eq_nil_iff, Log.faults_eq_nil_iff, Log.faults_eq_nil_iff, and_assoc]

/-- The sources of a ledger are good exactly if none of them failed. -/
lemma Accounts.sources_iff (haccounts : g.Accounts j s s' paths) :
    ((∀ e ∈ g.read, e.2.isOk = true) ∧ ∀ e ∈ g.generate, e.2.isOk = true) ↔
      ∀ path ∈ paths, ∃ code files,
        s.readText path = .ok code ∧ j.engine.files code = .ok files := by
  constructor
  · rintro ⟨hread, hgenerate⟩ path hpath
    obtain ⟨⟨path', result⟩, he, rfl⟩ := List.mem_map.mp (haccounts.paths.symm.subset hpath)
    have houtcome : ReadOutcome s path' result := haccounts.read _ he
    cases houtcome with
    | unread fault _ => cases hread _ he
    | @read code hcode =>
      -- the source came to the next stage
      have hresult : (path', code) ∈ g.read.results :=
        List.mem_filterMap.mpr ⟨_, he, rfl⟩
      obtain ⟨e, hmem, hsource⟩ := List.mem_map.mp (haccounts.sources.symm.subset hresult)
      have hok := hgenerate e hmem
      rw [haccounts.generate e hmem, hsource] at hok
      cases hfiles : j.engine.files code with
      | error fault =>
        rw [hfiles] at hok
        cases hok
      | ok files => exact ⟨code, files, hcode, hfiles⟩
  · intro hsources
    have hcodes : ∀ e ∈ g.read, ∃ code files,
        e.2 = .ok code ∧ j.engine.files code = .ok files := by
      intro e he
      obtain ⟨path, result⟩ := e
      obtain ⟨code, files, hcode, hfiles⟩ :=
        hsources path (haccounts.paths.subset (List.mem_map_of_mem he))
      have houtcome : ReadOutcome s path result := haccounts.read _ he
      cases houtcome with
      | unread _ hnone => exact absurd hcode (hnone code)
      | read hcode' =>
        obtain rfl := Except.ok.inj (hcode'.symm.trans hcode)
        exact ⟨_, files, rfl, hfiles⟩
    refine ⟨fun e he => ?_, fun e he => ?_⟩
    · obtain ⟨code, -, hcode, -⟩ := hcodes e he
      rw [hcode]
      rfl
    · have hsource := haccounts.sources.subset (List.mem_map_of_mem he)
      obtain ⟨entry, hentry, hresult⟩ := List.mem_filterMap.mp hsource
      obtain ⟨code, files, hcode, hfiles⟩ := hcodes entry hentry
      rw [hcode] at hresult
      have hsame : (entry.1, code) = e.1 := Option.some.inj hresult
      have hfiles' : j.engine.files e.1.2 = .ok files := by
        rw [← hsame]
        exact hfiles
      rw [haccounts.generate e he, hfiles']
      rfl

/-- A ledger tells of no failure exactly if nothing was wrong with the batch. -/
theorem Accounts.failures_eq_nil_iff (haccounts : g.Accounts j s s' paths)
    (hattempts : g.AttemptsFromStart j s) :
    (g.report j).failures = [] ↔ j.Flawless s paths := by
  have hitems := haccounts.items_perm
  constructor
  · intro hnone
    obtain ⟨hread, hgenerate, hwrite⟩ := Ledger.failures_eq_nil_iff.mp hnone
    have hnames := haccounts.nodup_of_failures_eq_nil hnone
    refine ⟨haccounts.sources_iff.mp ⟨hread, hgenerate⟩,
      (hitems.map FixtureFile.qualifiedName).nodup_iff.mp hnames, fun f hf => ?_⟩
    obtain ⟨e, he, rfl⟩ := List.mem_map.mp (hitems.symm.subset hf)
    have hok := hwrite e he
    rw [hattempts e he (haccounts.isAttempt_of_nodup hnames he)] at hok
    exact (j.isOk_attempt s e.1).mp hok
  · intro hflawless
    obtain ⟨hread, hgenerate⟩ := haccounts.sources_iff.mpr hflawless.sources
    have hnames := (hitems.map FixtureFile.qualifiedName).nodup_iff.mpr hflawless.names
    refine Ledger.failures_eq_nil_iff.mpr ⟨hread, hgenerate, fun e he => ?_⟩
    rw [hattempts e he (haccounts.isAttempt_of_nodup hnames he)]
    have hfile : e.1 ∈ j.filesOf s paths := hitems.subset (List.mem_map_of_mem he)
    exact (j.isOk_attempt s e.1).mpr (hflawless.targets e.1 hfile)

end Ledger

/-! ## Ends of strict batches -/

/-- What a strict batch tells and leaves in the end where nothing is wrong with it. -/
structure Job.Succeeds (j : Job) (s₀ : Store) (paths : List String) (s' : Store) (r : Report) :
    Prop where
  read : r.read.Perm paths
  written : r.written = ((j.filesOf s₀ paths).map fun f => (j.target f).text).mergeSort Job.textLE
  failures : r.failures = []
  folders : Store.SameFolders s₀ s'
  onDisk : ∀ f ∈ j.filesOf s₀ paths, ∃ place, s'.place (j.target f) = .ok place ∧
    s'.find? place = some (.file (Text.encode f.code))

namespace Ledger

variable {g : Ledger}

/-- A ledger without failures tells of a success. -/
lemma Accounts.succeeds (haccounts : g.Accounts j s s' paths)
    (hattempts : g.AttemptsFromStart j s) (hfolders : Store.SameFolders s s')
    (hnone : (g.report j).failures = []) : j.Succeeds s paths s' (g.report j) := by
  obtain ⟨hread, -, hwrite⟩ := Ledger.failures_eq_nil_iff.mp hnone
  have hflawless := (haccounts.failures_eq_nil_iff hattempts).mp hnone
  have hpaths : g.read.results.map (·.1) = g.read.items := by
    rw [Log.results, Log.items, List.map_filterMap, ← List.filterMap_eq_map]
    refine List.filterMap_congr fun e he => ?_
    obtain ⟨path, result⟩ := e
    cases result with
    | ok code => rfl
    | error cause => cases hread _ he
  have hwritten : g.write.results.map (·.2) = g.write.items.map fun f => (j.target f).text := by
    rw [Log.results, Log.items, List.map_filterMap, List.map_map, ← List.filterMap_eq_map]
    refine List.filterMap_congr fun e he => ?_
    obtain ⟨f, result⟩ := e
    have houtcome : j.Outcome s' _ f result := haccounts.write _ he
    cases houtcome with
    | saved _ _ => rfl
    | duplicate _ => cases hwrite _ he
    | unsaved _ => cases hwrite _ he
  refine ⟨?_, ?_, hnone, hfolders, fun f hf => ?_⟩
  · rw [report, hpaths]
    exact haccounts.paths
  · rw [report, hwritten]
    exact Job.mergeSort_congr (haccounts.items_perm.map _)
  · obtain ⟨e, he, rfl⟩ := List.mem_map.mp (haccounts.items_perm.symm.subset hf)
    obtain ⟨place, hplace⟩ := hflawless.targets e.1 hf
    exact ⟨place, (hfolders.place_ok_iff _ _).mpr hplace.leads,
      haccounts.find?_target hfolders he (hwrite e he) hplace.leads⟩

end Ledger

namespace Job

/-- The ledger of the tolerant batch that does without the strictness. -/
lemma run_tolerant (hext : j.extension = ".cs") (hfolder : s.makeFolders j.folder = (s₀, none))
    (hapart : j.Apart s₀ paths) :
    let tolerant : Job := { j with strict := false }
    ∃ (s' : Store) (g : Ledger), tolerant.run s paths = (s', .ok (g.report tolerant)) ∧
      g.Accounts tolerant s₀ s' paths ∧ g.AttemptsFromStart tolerant s₀ ∧
      Store.SameFolders s₀ s' := by
  intro tolerant
  have hapart' : tolerant.Apart s₀ paths := ⟨hapart.no_slash, hapart.not_target⟩
  obtain ⟨s', hrun, haccounts, hfolders⟩ :=
    run_eq_stagedLedger (j := tolerant) hext rfl hfolder hapart'
  have hfrom := fromStart_stagedLedger (j := tolerant) hext
    (Store.isFolder_of_makeFolders hfolder) fun f hf =>
      hapart'.no_slash f (haccounts.contributes hf)
  exact ⟨s', _, hrun, haccounts, hfrom.attempts, hfolders⟩

/-- Stage by stage, a strict batch succeeds if nothing is wrong with it. -/
lemma run_of_flawless (hext : j.extension = ".cs") (hfolder : s.makeFolders j.folder = (s₀, none))
    (hapart : j.Apart s₀ paths) (hflawless : j.Flawless s₀ paths) :
    ∃ s' r, j.run s paths = (s', .ok r) ∧ j.Succeeds s₀ paths s' r := by
  obtain ⟨s', hwritten, -⟩ := exists_writeAll hflawless.targets
  have hrun := run_eq_of_writeAll hfolder hflawless.sources hflawless.names hwritten
  -- the tolerant batch does the same, and has a ledger
  obtain ⟨s'', g, hledger, haccounts, hattempts, hfolders⟩ := run_tolerant hext hfolder hapart
  have hrun' := run_eq_of_writeAll (j := { j with strict := false }) hfolder hflawless.sources
    hflawless.names hwritten
  obtain ⟨rfl, hreport⟩ := Prod.mk.inj (hledger.symm.trans hrun')
  have hreport := Except.ok.inj hreport
  obtain ⟨hread, hwritten', hfailures, hsame, hdisk⟩ :=
    haccounts.succeeds hattempts hfolders (congrArg Report.failures hreport)
  rw [hreport] at hread hwritten' hfailures
  exact ⟨s'', _, hrun, hread, hwritten', hfailures, hsame, hdisk⟩

/-- Stage by stage, a strict batch that has a report was one without a flaw. -/
lemma flawless_of_run (hstrict : j.strict = true) (hext : j.extension = ".cs")
    (hfolder : s.makeFolders j.folder = (s₀, none)) (hapart : j.Apart s₀ paths) :
    (∃ r, (j.run s paths).2 = .ok r ∧ j.Flawless s₀ paths) ∨
      ∃ f, (j.run s paths).2 = .error (.stage f) := by
  obtain ⟨s', g, hledger, haccounts, hattempts, -⟩ := run_tolerant hext hfolder hapart
  obtain ⟨s'', r, hrun, hagree⟩ := j.run_agree paths hfolder
  obtain ⟨-, hreport⟩ := Prod.mk.inj (hrun.symm.trans hledger)
  have hsame : ({ j with strict := true } : Job) = j := by rw [← hstrict]
  rw [hsame] at hagree
  cases hresult : (j.run s paths).2 with
  | ok r' =>
    have hnone := hagree.report_iff.mp ⟨r', hresult⟩
    rw [Except.ok.inj hreport] at hnone
    have hflawless := (haccounts.failures_eq_nil_iff hattempts).mp hnone
    exact Or.inl ⟨r', rfl, hflawless.sources, hflawless.names, hflawless.targets⟩
  | error e =>
    obtain ⟨f, rfl, -⟩ := hagree.fault e hresult
    exact Or.inr ⟨f, rfl⟩

/-- However a strict batch ends whose folder can be made: it succeeds if nothing was wrong with it,
and otherwise it ends with a fault of some item. -/
theorem Finishes.cases {w : Workers} {o : Store × Except RunFault Report}
    (hfinishes : j.Finishes w s paths o)
    (hstrict : j.strict = true) (hext : j.extension = ".cs")
    (hfolder : s.makeFolders j.folder = (s₀, none)) (hapart : j.Apart s₀ paths) :
    (j.Flawless s₀ paths ∧ ∃ r, o.2 = .ok r ∧ j.Succeeds s₀ paths o.1 r) ∨
      (¬ j.Flawless s₀ paths ∧ ∃ f, o.2 = .error (.stage f)) := by
  cases hfinishes with
  | inTurn =>
    by_cases hflawless : j.Flawless s₀ paths
    · obtain ⟨s', r, hrun, hsucceeds⟩ := run_of_flawless hext hfolder hapart hflawless
      rw [hrun]
      exact Or.inl ⟨hflawless, r, rfl, hsucceeds⟩
    · rcases flawless_of_run hstrict hext hfolder hapart with ⟨-, -, hflawless'⟩ | hfault
      · exact absurd hflawless' hflawless
      · exact Or.inr ⟨hflawless, hfault⟩
  | tolerantly htolerant =>
    rw [hstrict] at htolerant
    cases htolerant
  | @strictly s₁ l result _ hworkers hfolder' hreach hends =>
    obtain rfl : s₁ = s₀ := (Prod.mk.inj (hfolder'.symm.trans hfolder)).1
    have hreached := Line.reach_of_strict hreach
    have hthere := Store.isFolder_of_makeFolders hfolder
    cases hends with
    | report hfinished =>
      obtain ⟨hbalanced, hattempts⟩ := Line.balanced_and_attempts hapart hext hthere hreached
      have haccounts := hbalanced.accounts hapart hext (Line.sound_of_reach hworkers hreached)
        hfinished
      have hnone : (l.ledger.report j).failures = [] := List.map_eq_nil_iff.mpr
        ((Line.halted_of_reach hreach).faults_eq_nil_of_finished hfinished j)
      exact Or.inl ⟨(haccounts.failures_eq_nil_iff hattempts).mp hnone, _, rfl,
        haccounts.succeeds hattempts hbalanced.wrote.folders hnone⟩
    | @fault f hfault =>
      -- a line that goes on from here is finished with the fault in its ledger
      obtain ⟨l', hrest, hfinished⟩ :=
        (Line.sound_of_reach hworkers hreached).exists_finished j
      have hreached' := hreached.trans hrest
      obtain ⟨hbalanced, hattempts⟩ := Line.balanced_and_attempts hapart hext hthere hreached'
      have haccounts := hbalanced.accounts hapart hext (Line.sound_of_reach hworkers hreached')
        hfinished
      refine Or.inr ⟨fun hflawless => ?_, f, rfl⟩
      have hnone := (haccounts.failures_eq_nil_iff hattempts).mpr hflawless
      have hfault' := Line.faults_subset_of_reach hrest hfault
      rw [show l'.ledger.faults j = [] from List.map_eq_nil_iff.mp hnone] at hfault'
      cases hfault'

end Job

/-- The source of the sample gives rise to one file, and nothing is in its way. -/
lemma exists_sampleFile : ∃ f : FixtureFile,
    ({ sampleJob with strict := true } : Job).filesOf (sampleStore true) ["A.cs"] = [f] ∧
    ({ sampleJob with strict := true } : Job).Flawless (sampleStore true) ["A.cs"] := by
  obtain ⟨f, hname, hfiles, hread⟩ := exists_file (sampleStore true) "A.cs" "public class A { }"
    "ATests"
    (by simp only [Store.readText, Store.read, String.contains_char_eq]; decide +kernel)
    (by decide +kernel)
  have hmade : ({ sampleJob with strict := true } : Job).filesOf (sampleStore true) ["A.cs"]
      = [f] := by
    have hfiles' : ({ sampleJob with strict := true } : Job).engine.files "public class A { }"
        = .ok [f] := hfiles
    simp [Job.filesOf, hread, hfiles', Except.toOption]
  have hwritable : (sampleStore true).Writable (sampleJob.target f) ["out", "ATests.cs"] := by
    rw [Job.target, hname]
    refine ⟨?_, by decide +kernel, by decide +kernel⟩
    simp only [String.contains_char_eq]
    decide +kernel
  refine ⟨f, hmade, ⟨fun path hpath => ?_, ?_, fun g hg => ?_⟩⟩
  · rw [List.mem_singleton.mp hpath]
    exact ⟨_, _, hread, hfiles⟩
  · rw [hmade]
    simp
  · rw [hmade] at hg
    rw [List.mem_singleton.mp hg]
    exact ⟨_, hwritable⟩

end FixtureDraft.Batch
