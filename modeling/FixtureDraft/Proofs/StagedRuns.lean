import FixtureDraft.Proofs.Ledgers

/-!
# The ledger of a batch that runs stage by stage

`Job.run` keeps no ledger, but its stages say what one would hold (`Job.run_eq_report`): each
stage makes the results and the faults of a log that has one entry for each of its items.
-/

namespace FixtureDraft.Batch

open FixtureDraft.Files

variable {α ρ β γ : Type}

/-! ## Logs of the stages -/

/-- The log as the run of a stage. -/
def Log.stageRun (h : Handler α ρ β) (log : Log α ρ) : StageRun ρ where
  results := log.results.map fun e => (h.label e.1, e.2)
  faults := log.faults h

/-- An entry before all others is what is pushed. -/
lemma Log.stageRun_cons (h : Handler α ρ β) (a : α) (result : Except Cause ρ) (log : Log α ρ) :
    Log.stageRun h ((a, result) :: log) =
      (log.stageRun h).push h.stage (h.label a) result := by
  cases result
  all_goals rfl

/-- Items that are handled independently make a log of one entry each. -/
lemma runStage_map (h : Handler α ρ β) (handle : γ → Except Cause ρ) (key : α → γ)
    (items : List α) :
    runStage h.stage handle (items.map fun a => (h.label a, key a)) =
      Log.stageRun h (items.map fun a => (a, handle (key a))) := by
  induction items with
  | nil => rfl
  | cons a items ih =>
    rw [List.map_cons, List.map_cons, runStage, ih, Log.stageRun_cons]

/-- The log of reading paths. -/
def readLog (s : Store) (paths : List String) : Log String String :=
  paths.map fun path => (path, (s.readText path).mapError .unread)

/-- The log of generating fixtures from sources. -/
def generateLog (e : Engine) (sources : List (String × String)) :
    Log (String × String) (List FixtureFile) :=
  sources.map fun source => (source, (e.files source.2).mapError .unparsed)

lemma items_readLog (s : Store) (paths : List String) : (readLog s paths).items = paths := by
  rw [Log.items, readLog, List.map_map]
  exact List.map_id _

lemma readOutcome_readLog (s : Store) (paths : List String) :
    ∀ e ∈ readLog s paths, ReadOutcome s e.1 e.2 := by
  intro e he
  obtain ⟨path, -, rfl⟩ := List.mem_map.mp he
  exact readOutcome_readText s path

lemma items_generateLog (e : Engine) (sources : List (String × String)) :
    (generateLog e sources).items = sources := by
  rw [Log.items, generateLog, List.map_map]
  exact List.map_id _

lemma files_generateLog (e : Engine) (sources : List (String × String)) :
    ∀ entry ∈ generateLog e sources, entry.2 = (e.files entry.1.2).mapError .unparsed := by
  intro entry hentry
  obtain ⟨source, -, rfl⟩ := List.mem_map.mp hentry
  rfl

lemma readStage_eq (s : Store) (paths : List String) :
    readStage s paths = (readLog s paths).stageRun reader :=
  runStage_map reader (fun path => (s.readText path).mapError .unread) id paths

lemma generateStage_eq (j : Job) (sources : List (String × String)) :
    generateStage j.engine sources = (generateLog j.engine sources).stageRun j.generator := by
  have hmap := runStage_map j.generator (fun code => (j.engine.files code).mapError .unparsed)
    (·.2) sources
  have hid : (sources.map fun source => (j.generator.label source, source.2)) = sources :=
    List.map_id sources
  rw [hid] at hmap
  exact hmap

/-- What the sources were read as is what the next stage works on. -/
lemma results_stageRun_reader (log : Log String String) :
    (log.stageRun reader).results = log.results :=
  List.map_id _

/-- The files of all results are what the next stage works on. -/
lemma flatMap_results_stageRun (j : Job)
    (log : Log (String × String) (List FixtureFile)) :
    (log.stageRun j.generator).results.flatMap (·.2) = log.outputs j.generator := by
  rw [Log.stageRun, List.flatMap_map]
  rfl

/-! ## Writing -/

namespace Job

variable {j : Job} {s₀ : Store}

/-- A file is refused if its name is claimed. -/
lemma writeFile_of_mem (s : Store) {f : FixtureFile} {claimed : List String}
    (hname : f.qualifiedName ∈ claimed) :
    j.writeFile claimed s f = .error (.duplicate f.qualifiedName) := by
  rw [writeFile, if_pos (by simpa using hname)]

/-- A file is attempted if its name is not claimed. -/
lemma writeFile_of_notMem (s : Store) {f : FixtureFile} {claimed : List String}
    (hname : f.qualifiedName ∉ claimed) : j.writeFile claimed s f =
      (s.write (j.target f) (Text.encode f.code)).mapError .unwritten := by
  rw [writeFile, if_neg (by simpa using hname)]

/-- A file that was written makes and removes no folder. -/
lemma sameFolders_writeFile {s s' : Store} {f : FixtureFile} {claimed : List String}
    (hfile : j.writeFile claimed s f = .ok s') : Store.SameFolders s s' := by
  by_cases hname : f.qualifiedName ∈ claimed
  · rw [writeFile_of_mem s hname] at hfile
    cases hfile
  · rw [writeFile_of_notMem s hname] at hfile
    cases hwrite : s.write (j.target f) (Text.encode f.code) with
    | error fault => simp [hwrite, Except.mapError] at hfile
    | ok s'' =>
      simp only [hwrite, Except.mapError, Except.ok.injEq] at hfile
      exact hfile ▸ Store.sameFolders_write hwrite

/-- Writing one file takes what the workers of the last stage do: the file is accepted and
handled, or it is refused. -/
lemma wrote_writeFile (hext : j.extension = ".cs") {d : Disk} {f : FixtureFile}
    {logged : Multiset (FixtureFile × Except Cause String)}
    (hslash : ∀ e ∈ logged, '/' ∉ e.1.qualifiedName.toList)
    (hslash' : '/' ∉ f.qualifiedName.toList) (hwrote : j.Wrote s₀ d 0 logged)
    {claimed : List String} (hclaimed : ∀ name, name ∈ claimed ↔ name ∈ d.claimed) :
    ∃ d', (∀ name, name ∈ f.qualifiedName :: claimed ↔ name ∈ d'.claimed) ∧
      match j.writeFile claimed d.store f with
      | .ok s => d'.store = s ∧ j.Wrote s₀ d' 0 ((f, .ok (j.target f).text) ::ₘ logged)
      | .error cause => d'.store = d.store ∧ j.Wrote s₀ d' 0 ((f, .error cause) ::ₘ logged) := by
  -- the file alone in the queue, or alone in the hands of a writer
  have hslashed : ∀ b : Multiset FixtureFile, (∀ g ∈ b, g = f) →
      ∀ g ∈ b + logged.map (·.1), '/' ∉ g.qualifiedName.toList := by
    intro b hb g hg
    rcases Multiset.mem_add.mp hg with hg | hg
    · rw [hb g hg]
      exact hslash'
    · obtain ⟨e, he, rfl⟩ := Multiset.mem_map.mp hg
      exact hslash e he
  by_cases hname : f.qualifiedName ∈ d.claimed
  · have hrefused := writeFile_of_mem (j := j) d.store ((hclaimed _).mpr hname)
    have haccept : j.writer.accept d f = .error (.duplicate f.qualifiedName) := by
      simp [writer, hname]
    refine ⟨d, fun name => ?_, ?_⟩
    · -- a name that is claimed once more is claimed as before
      rw [List.mem_cons, hclaimed]
      exact ⟨fun h => h.elim (fun heq => heq ▸ hname) id, Or.inr⟩
    · rw [hrefused]
      refine ⟨rfl, ?_⟩
      exact hwrote.effect (v := ⟨f ::ₘ 0, 0, 0, logged⟩) hext
        (by simpa [View.accepted] using hslashed {f} (by simp)) (.refuse haccept)
  · have haccept : j.writer.accept d f =
        .ok { d with claimed := f.qualifiedName :: d.claimed } := by
      simp [writer, hname]
    have htaken := hwrote.effect (v := ⟨f ::ₘ 0, 0, 0, logged⟩) hext
      (by simpa [View.accepted] using hslashed {f} (by simp)) (.take haccept)
    have hwrite := writeFile_of_notMem (j := j) d.store (mt (hclaimed _).mp hname)
    have hnames : ∀ name, name ∈ f.qualifiedName :: claimed ↔
        name ∈ f.qualifiedName :: d.claimed := by
      intro name
      rw [List.mem_cons, List.mem_cons, hclaimed]
    rw [hwrite]
    cases hstore : d.store.write (j.target f) (Text.encode f.code) with
    | ok s =>
      refine ⟨{ store := s, claimed := f.qualifiedName :: d.claimed }, hnames, rfl, ?_⟩
      refine htaken.effect (v := ⟨0, f ::ₘ 0, 0, logged⟩) hext
        (by simpa [View.accepted] using hslashed {f} (by simp)) (.finish ?_)
      simp [writer, hstore, Except.mapError, Except.map]
    | error fault =>
      refine ⟨{ d with claimed := f.qualifiedName :: d.claimed }, hnames, rfl, ?_⟩
      refine htaken.effect (v := ⟨0, f ::ₘ 0, 0, logged⟩) hext
        (by simpa [View.accepted] using hslashed {f} (by simp)) (.fail ?_)
      simp [writer, hstore, Except.mapError, Except.map]

/-- The log of writing files one after another, where nothing ends it. -/
def writeLog (j : Job) : (claimed : List String) → Store → List FixtureFile →
    Log FixtureFile String
  | _, _, [] => []
  | claimed, s, f :: fs =>
    match j.writeFile claimed s f with
    | .ok s' => (f, .ok (j.target f).text) :: j.writeLog (f.qualifiedName :: claimed) s' fs
    | .error cause => (f, .error cause) :: j.writeLog (f.qualifiedName :: claimed) s fs

/-- The log has one entry for each file. -/
lemma items_writeLog (j : Job) (files : List FixtureFile) (claimed : List String) (s : Store) :
    (j.writeLog claimed s files).items = files := by
  induction files generalizing claimed s with
  | nil => rfl
  | cons f files ih =>
    rw [writeLog]
    cases j.writeFile claimed s f with
    | ok s' => exact congrArg (f :: ·) (ih _ s')
    | error cause => exact congrArg (f :: ·) (ih _ s)

/-- A tolerant batch makes the results and the faults of this log, and keeps what holds of the
files. -/
lemma writeStage_eq (s₀ : Store) (hext : j.extension = ".cs") (htolerant : j.strict = false)
    (files : List FixtureFile) :
    ∀ (d : Disk) (claimed : List String) (logged : Multiset (FixtureFile × Except Cause String)),
      (∀ e ∈ logged, '/' ∉ e.1.qualifiedName.toList) →
      (∀ f ∈ files, '/' ∉ f.qualifiedName.toList) →
      (∀ name, name ∈ claimed ↔ name ∈ d.claimed) → j.Wrote s₀ d 0 logged →
      ∃ d' : Disk, j.writeStage claimed d.store files
            = (d'.store, (j.writeLog claimed d.store files).stageRun j.writer)
          ∧ j.Wrote s₀ d' 0 (logged + j.writeLog claimed d.store files) := by
  -- the list of names may hold one twice, so it only has to agree with the disk on its members
  induction files with
  | nil =>
    intro d claimed logged _ _ _ hwrote
    exact ⟨d, rfl, by simpa [writeLog] using hwrote⟩
  | cons f files ih =>
    intro d claimed logged hslash hfiles hclaimed hwrote
    have hslash' := hfiles f List.mem_cons_self
    obtain ⟨d₁, hnames, hfile⟩ := wrote_writeFile hext hslash hslash' hwrote hclaimed
    have hslashes : ∀ result : Except Cause String, ∀ e ∈ (f, result) ::ₘ logged,
        '/' ∉ e.1.qualifiedName.toList := by
      intro result e he
      rcases Multiset.mem_cons.mp he with rfl | he
      · exact hslash'
      · exact hslash e he
    rw [writeStage, writeLog]
    cases hresult : j.writeFile claimed d.store f with
    | ok s =>
      rw [hresult] at hfile
      obtain ⟨rfl, hwrote'⟩ := hfile
      obtain ⟨d', hstage, hlog⟩ := ih d₁ _ _ (hslashes _)
        (fun g hg => hfiles g (List.mem_cons_of_mem _ hg)) hnames hwrote'
      refine ⟨d', ?_, ?_⟩
      · simp only [hstage, Log.stageRun_cons]
        rfl
      · rwa [← Multiset.cons_coe, Multiset.add_cons, ← Multiset.cons_add]
    | error cause =>
      rw [hresult] at hfile
      obtain ⟨hstore, hwrote'⟩ := hfile
      obtain ⟨d', hstage, hlog⟩ := ih d₁ _ _ (hslashes _)
        (fun g hg => hfiles g (List.mem_cons_of_mem _ hg)) hnames hwrote'
      rw [hstore] at hstage hlog
      refine ⟨d', ?_, ?_⟩
      · simp only [htolerant, hstage, Log.stageRun_cons]
        rfl
      · rwa [← Multiset.cons_coe, Multiset.add_cons, ← Multiset.cons_add]

end Job

/-! ## The ledger -/

/-- The ledger of a tolerant batch whose stages run one after the other. -/
def Job.stagedLedger (j : Job) (s : Store) (paths : List String) : Ledger :=
  let read := readLog s paths
  let generate := generateLog j.engine read.results
  ⟨read, generate, j.writeLog [] s (generate.outputs j.generator)⟩

end FixtureDraft.Batch
