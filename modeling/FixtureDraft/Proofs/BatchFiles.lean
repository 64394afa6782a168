import FixtureDraft.Proofs.StagedRuns
import FixtureDraft.Proofs.StrictLines

/-!
# The files of a batch

`Job.filesOf` lists the files that the sources of a batch give rise to, as often as they do. They
are what every ledger tells of (`Ledger.Accounts.items_perm`). Where all sources are read and parsed
and all files have names and places of their own, a batch does nothing but write them one after
another (`Job.run_eq_of_writeAll`).
-/

namespace FixtureDraft.Batch

open FixtureDraft.Files

variable {j : Job} {s s₀ s' : Store} {paths : List String}

/-- The files that the sources named by `paths` give rise to, source by source. -/
def Job.filesOf (j : Job) (s : Store) (paths : List String) : List FixtureFile :=
  (paths.filterMap fun path => (s.readText path).toOption).flatMap fun code =>
    (j.engine.files code).toOption.getD []

lemma mem_filesOf {f : FixtureFile} : f ∈ j.filesOf s paths ↔ j.Contributes s paths f := by
  simp only [Job.filesOf, List.mem_flatMap, List.mem_filterMap, Job.Contributes]
  constructor
  · rintro ⟨code, ⟨path, hpath, hcode⟩, hf⟩
    cases hread : s.readText path with
    | error fault => simp [hread, Except.toOption] at hcode
    | ok code' =>
      obtain rfl : code' = code := by simpa [hread, Except.toOption] using hcode
      cases hfiles : j.engine.files code' with
      | error fault => simp [hfiles, Except.toOption] at hf
      | ok files =>
        have hmem : f ∈ files := by simpa [hfiles, Except.toOption] using hf
        exact ⟨path, hpath, code', files, hread, hfiles, hmem⟩
  · rintro ⟨path, hpath, code, files, hread, hfiles, hf⟩
    refine ⟨code, ⟨path, hpath, by simp [hread, Except.toOption]⟩, ?_⟩
    simpa [hfiles, Except.toOption]

lemma filesOf_append (j : Job) (s : Store) (paths paths' : List String) :
    j.filesOf s (paths ++ paths') = j.filesOf s paths ++ j.filesOf s paths' := by
  simp only [Job.filesOf, List.filterMap_append, List.flatMap_append]

lemma filesOf_pair {path path' : String} {f g : FixtureFile} (hf : j.filesOf s [path] = [f])
    (hg : j.filesOf s [path'] = [g]) : j.filesOf s [path, path'] = [f, g] := by
  rw [← List.singleton_append, filesOf_append, hf, hg, List.singleton_append]

/-- A source that gives rise to one file. -/
lemma exists_file (s : Store) (path code name : String)
    (hread : (s.readText path).toOption = some code)
    (hmade : (Engine.files {} code).toOption.map (List.map FixtureFile.qualifiedName)
      = some [name]) :
    ∃ f, f.qualifiedName = name ∧ Engine.files {} code = .ok [f] ∧
      s.readText path = .ok code := by
  cases hcode : s.readText path with
  | error fault =>
    rw [hcode] at hread
    cases hread
  | ok code' =>
    rw [hcode] at hread
    obtain rfl : code' = code := Option.some.inj hread
    cases hfiles : Engine.files {} code' with
    | error fault =>
      rw [hfiles] at hmade
      cases hmade
    | ok files =>
      rw [hfiles] at hmade
      obtain ⟨f, rfl, hname⟩ := List.map_eq_singleton_iff.mp (Option.some.inj hmade)
      exact ⟨f, hname, rfl, rfl⟩

/-! ## Files in ledgers -/

/-- What was generated is what the engine makes of the sources. -/
lemma Log.outputs_generator {log : Log (String × String) (List FixtureFile)}
    (hlog : ∀ e ∈ log, e.2 = (j.engine.files e.1.2).mapError .unparsed) :
    log.outputs j.generator =
      (log.items.map (·.2)).flatMap fun code => (j.engine.files code).toOption.getD [] := by
  rw [outputs, results, items, List.map_map, List.flatMap_map, List.filterMap_eq_flatMap_toList,
    List.flatMap_assoc]
  refine List.flatMap_congr fun e he => ?_
  obtain ⟨source, result⟩ := e
  have hresult : result = (j.engine.files source.2).mapError .unparsed := hlog _ he
  cases hfiles : j.engine.files source.2 with
  | ok files => simp [hresult, hfiles, Except.mapError, Except.toOption, Job.generator]
  | error fault => simp [hresult, hfiles, Except.mapError, Except.toOption]

/-- What was read is what the store holds. -/
lemma Log.map_results_reader {log : Log String String}
    (hlog : ∀ e ∈ log, ReadOutcome s e.1 e.2) :
    log.results.map (·.2) = log.items.filterMap fun path => (s.readText path).toOption := by
  rw [(read_eq hlog).1, List.map_filterMap]
  refine List.filterMap_congr fun path _ => ?_
  cases (s.readText path).toOption
  all_goals rfl

/-- A ledger tells of all files of the batch. -/
lemma Ledger.Accounts.items_perm {g : Ledger} (haccounts : g.Accounts j s s' paths) :
    g.write.items.Perm (j.filesOf s paths) := by
  have hsources : (g.generate.items.map (·.2)).Perm
      (paths.filterMap fun path => (s.readText path).toOption) := by
    refine (haccounts.sources.map _).trans ?_
    rw [Log.map_results_reader haccounts.read]
    exact haccounts.paths.filterMap _
  refine haccounts.files.trans ?_
  rw [Log.outputs_generator haccounts.generate]
  exact hsources.flatMap_right _

/-- Reading and generating make the files of the batch, in their order. -/
lemma outputs_generateLog (j : Job) (s : Store) (paths : List String) :
    (generateLog j.engine (readLog s paths).results).outputs j.generator = j.filesOf s paths := by
  rw [Log.outputs_generator (files_generateLog j.engine _), items_generateLog,
    Log.map_results_reader (readOutcome_readLog s paths), items_readLog]
  rfl

/-! ## Batches of good sources -/

/-- Where there is no fault there is none to stop at. -/
lemma Job.stopsAt_nil (j : Job) : j.stopsAt [] = none := by
  rw [stopsAt]
  split
  all_goals rfl

/-- Where all sources are read and parsed, only writing is left to do. -/
lemma Job.run_eq_writeStage (hfolder : s.makeFolders j.folder = (s₀, none))
    (hsources : ∀ path ∈ paths, ∃ code files,
      s₀.readText path = .ok code ∧ j.engine.files code = .ok files) :
    let written := j.writeStage [] s₀ (j.filesOf s₀ paths)
    j.run s paths = (written.1, match j.stopsAt written.2.faults with
      | some fault => .error fault
      | none => .ok {
          read := paths
          written := (written.2.results.map (·.2)).mergeSort textLE
          failures := written.2.faults.map StageFault.failure }) := by
  have hread : ((readLog s₀ paths).stageRun reader).faults = [] := by
    refine Log.faults_eq_nil_iff.mpr fun e he => ?_
    obtain ⟨path, hpath, rfl⟩ := List.mem_map.mp he
    obtain ⟨code, files, hcode, -⟩ := hsources path hpath
    simp [hcode, Except.mapError, Except.isOk, Except.toBool]
  have hresults : (readLog s₀ paths).results
      = paths.filterMap fun path => (s₀.readText path).toOption.map (path, ·) := by
    rw [(Log.read_eq (readOutcome_readLog s₀ paths)).1, items_readLog]
  have hnames : (readLog s₀ paths).results.map (·.1) = paths := by
    rw [hresults, List.map_filterMap]
    refine (List.filterMap_congr fun path hpath => ?_).trans List.filterMap_some
    obtain ⟨code, files, hcode, -⟩ := hsources path hpath
    simp [hcode, Except.toOption]
  have hgenerate : ((generateLog j.engine (readLog s₀ paths).results).stageRun
      j.generator).faults = [] := by
    refine Log.faults_eq_nil_iff.mpr fun e he => ?_
    obtain ⟨source, hsource, rfl⟩ := List.mem_map.mp he
    rw [hresults] at hsource
    obtain ⟨path, hpath, hsource⟩ := List.mem_filterMap.mp hsource
    obtain ⟨code, files, hcode, hfiles⟩ := hsources path hpath
    obtain rfl : (path, code) = source := by simpa [hcode, Except.toOption] using hsource
    simp [hfiles, Except.mapError, Except.isOk, Except.toBool]
  simp only [run, hfolder, readStage_eq, hread, stopsAt_nil, results_stageRun_reader,
    generateStage_eq, hgenerate, flatMap_results_stageRun, outputs_generateLog, hnames,
    List.nil_append]
  cases j.stopsAt (j.writeStage [] s₀ (j.filesOf s₀ paths)).2.faults
  all_goals rfl

/-- Whatever goes wrong as files are written goes wrong in the last stage. -/
lemma Job.stage_of_mem_faults {fault : StageFault} {files : List FixtureFile} :
    ∀ {claimed : List String} {s : Store},
      fault ∈ (j.writeStage claimed s files).2.faults → fault.stage = .write := by
  induction files with
  | nil =>
    intro claimed s hfault
    cases hfault
  | cons f files ih =>
    intro claimed s hfault
    rw [writeStage] at hfault
    cases hfile : j.writeFile claimed s f with
    | ok s' =>
      simp only [hfile, StageRun.push] at hfault
      exact ih hfault
    | error cause =>
      simp only [hfile, StageRun.push, List.mem_cons] at hfault
      rcases hfault with rfl | hfault
      · rfl
      · cases hstrict : j.strict with
        | true => simp [hstrict] at hfault
        | false =>
          simp only [hstrict, Bool.false_eq_true, if_false] at hfault
          exact ih hfault

/-- A batch of good sources does not end in a stage before the last one. -/
lemma Job.stage_of_run (hfolder : s.makeFolders j.folder = (s₀, none))
    (hsources : ∀ path ∈ paths, ∃ code files,
      s₀.readText path = .ok code ∧ j.engine.files code = .ok files)
    {fault : StageFault} (hfault : (j.run s paths).2 = .error (.stage fault)) :
    fault.stage = .write := by
  rw [run_eq_writeStage hfolder hsources] at hfault
  cases hstops : j.stopsAt (j.writeStage [] s₀ (j.filesOf s₀ paths)).2.faults with
  | none => simp [hstops] at hfault
  | some e =>
    simp only [hstops, Except.error.injEq] at hfault
    obtain rfl := hfault
    rw [stopsAt] at hstops
    split at hstops
    · obtain ⟨f, hhead, hf⟩ := Option.map_eq_some_iff.mp hstops
      obtain rfl : f = fault := by simpa using hf
      exact stage_of_mem_faults (List.mem_of_head? hhead)
    · cases hstops

/-! ## Batches of good files -/

namespace Job

/-- The store after files were written one after another. -/
def writeAll (j : Job) (s : Store) (files : List FixtureFile) : Except PathFault Store :=
  files.foldlM (fun s f => s.write (j.target f) (Text.encode f.code)) s

lemma writeAll_cons {f : FixtureFile} {files : List FixtureFile} {s₁ : Store}
    (hwrite : s.write (j.target f) (Text.encode f.code) = .ok s₁) :
    j.writeAll s (f :: files) = j.writeAll s₁ files := by
  rw [writeAll, List.foldlM_cons, hwrite]
  rfl

/-- Where nothing is in the way of any file all of them are written. -/
lemma exists_writeAll {files : List FixtureFile} :
    ∀ {s : Store}, (∀ f ∈ files, ∃ place, s.Writable (j.target f) place) →
      ∃ s', j.writeAll s files = .ok s' ∧ Store.SameFolders s s' := by
  induction files with
  | nil => exact fun {s} _ => ⟨s, rfl, .refl s⟩
  | cons f files ih =>
    intro s hwritable
    obtain ⟨place, hplace⟩ := hwritable f List.mem_cons_self
    have hwrite := hplace.write_eq (Text.encode f.code)
    have hsame := Store.sameFolders_write hwrite
    -- a file is in nobody's way
    obtain ⟨s', hrest, hsame'⟩ := ih (s := s.put place (.file (Text.encode f.code))) fun g hg => by
      obtain ⟨place', hplace'⟩ := hwritable g (List.mem_cons_of_mem _ hg)
      exact ⟨place', hplace'.sameFolders hsame⟩
    exact ⟨s', (writeAll_cons hwrite).trans hrest, hsame.trans hsame'⟩

/-- Files of different names are written as if no name had to be claimed. -/
lemma writeStage_of_writeAll {files : List FixtureFile} :
    ∀ {s : Store} {claimed : List String}, (files.map FixtureFile.qualifiedName).Nodup →
      (∀ f ∈ files, f.qualifiedName ∉ claimed) → j.writeAll s files = .ok s' →
      j.writeStage claimed s files =
        (s', { results := files.map fun f => (f.qualifiedName, (j.target f).text) }) := by
  induction files with
  | nil =>
    intro s claimed _ _ hwritten
    obtain rfl : s = s' := Except.ok.inj hwritten
    rfl
  | cons f files ih =>
    intro s claimed hnodup hclaimed hwritten
    obtain ⟨hname, hnodup⟩ := List.nodup_cons.mp hnodup
    cases hwrite : s.write (j.target f) (Text.encode f.code) with
    | error fault =>
      rw [writeAll, List.foldlM_cons, hwrite] at hwritten
      cases hwritten
    | ok s₁ =>
      rw [writeAll_cons hwrite] at hwritten
      have hfresh : ∀ g ∈ files, g.qualifiedName ∉ f.qualifiedName :: claimed := by
        intro g hg hmem
        rcases List.mem_cons.mp hmem with hsame | hmem
        · exact hname (hsame ▸ List.mem_map_of_mem hg)
        · exact hclaimed g (List.mem_cons_of_mem _ hg) hmem
      rw [writeStage, writeFile_of_notMem s (hclaimed f List.mem_cons_self), hwrite]
      simp only [Except.mapError, ih hnodup hfresh hwritten]
      rfl

/-- A batch of good sources and good files writes the files one after another. -/
lemma run_eq_of_writeAll (hfolder : s.makeFolders j.folder = (s₀, none))
    (hsources : ∀ path ∈ paths, ∃ code files,
      s₀.readText path = .ok code ∧ j.engine.files code = .ok files)
    (hnames : ((j.filesOf s₀ paths).map FixtureFile.qualifiedName).Nodup)
    (hwritten : j.writeAll s₀ (j.filesOf s₀ paths) = .ok s') :
    j.run s paths = (s', .ok {
      read := paths
      written := ((j.filesOf s₀ paths).map fun f => (j.target f).text).mergeSort textLE }) := by
  have hstage := writeStage_of_writeAll hnames (fun f _ => List.not_mem_nil) hwritten
  rw [run_eq_writeStage hfolder hsources, hstage]
  simp only [stopsAt_nil, List.map_map, List.map_nil]
  rfl

end Job

end FixtureDraft.Batch
