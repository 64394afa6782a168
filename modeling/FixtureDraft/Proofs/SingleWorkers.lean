import FixtureDraft.Proofs.FlawlessBatches
import FixtureDraft.Proofs.Lanes

/-!
# One source and one worker in each stage

A strict line of single workers that is given one source keeps it in order, and comes to the same
end as the batch stage by stage (`Line.eq_run_of_ends`).
-/

namespace FixtureDraft.Batch

open FixtureDraft.Files

/-! ## Batches of one source -/

namespace Job

variable {j : Job} {s s₀ : Store} {path code : String} {files : List FixtureFile}

/-- The files that a batch of one good source gives rise to. -/
lemma filesOf_single (hread : s.readText path = .ok code)
    (hfiles : j.engine.files code = .ok files) : j.filesOf s [path] = files := by
  simp [filesOf, hread, hfiles, Except.toOption]

/-- All sources of such a batch are good. -/
lemma sources_single (hread : s.readText path = .ok code)
    (hfiles : j.engine.files code = .ok files) : ∀ path' ∈ [path], ∃ code files,
      s.readText path' = .ok code ∧ j.engine.files code = .ok files := by
  intro path' hpath'
  rw [List.mem_singleton.mp hpath']
  exact ⟨code, files, hread, hfiles⟩

/-- A source that is not read ends a strict batch. -/
lemma run_of_unread (hstrict : j.strict = true) (hfolder : s.makeFolders j.folder = (s₀, none))
    {fault : ReadFault} (hread : s₀.readText path = .error fault) :
    j.run s [path] = (s₀, .error (.stage ⟨.read, path, .unread fault⟩)) := by
  simp [run, hfolder, readStage, runStage, hread, Except.mapError, StageRun.push, stopsAt, hstrict]

/-- A source that is not parsed ends a strict batch. -/
lemma run_of_unparsed (hstrict : j.strict = true) (hfolder : s.makeFolders j.folder = (s₀, none))
    (hread : s₀.readText path = .ok code) {fault : SourceFault}
    (hfiles : j.engine.files code = .error fault) :
    j.run s [path] = (s₀, .error (.stage ⟨.generate, path, .unparsed fault⟩)) := by
  simp [run, hfolder, readStage, generateStage, runStage, hread, hfiles, Except.mapError,
    StageRun.push, stopsAt, hstrict]

end Job

/-! ## How far the workers have come -/

namespace Line

variable {j : Job} {s s₀ : Store} {path : String} {l l' : Line}

/-- How far the single workers have come with one source: they keep it in order, have read it as it
was at the beginning, and have written its files in turn. -/
structure InTurn (j : Job) (s₀ : Store) (path : String) (l : Line) : Prop where
  order : l.InOrder j [path]
  read : l.reading.log = readLog s₀ l.reading.log.items
  generated : l.generating.log = generateLog j.engine l.generating.log.items
  wrote : j.WritesInTurn s₀ l.disk l.writing.lane.busy l.writing.log

lemma inTurn_start (j : Job) (s₀ : Store) (path : String) :
    (start {} s₀ [path]).InTurn j s₀ path :=
  ⟨inOrder_start j s₀ [path], rfl, rfl, .waiting rfl (Job.continues_nil j s₀)⟩

/-- As long as nothing is read the files are as they were. -/
lemma InTurn.store_eq (hturn : l.InTurn j s₀ path) (hunread : l.reading.log = []) :
    l.disk.store = s₀ := by
  have hsources := hturn.order.generating
  rw [hunread, show Log.outputs reader [] = [] from rfl, List.append_eq_nil_iff] at hsources
  have hungenerated : l.generating.log = [] := List.map_eq_nil_iff.mp
    (List.append_eq_nil_iff.mp (List.append_eq_nil_iff.mp hsources.1).1).1
  have hfiles := hturn.order.writing
  rw [hungenerated, show Log.outputs j.generator [] = [] from rfl, List.append_eq_nil_iff] at hfiles
  obtain ⟨hitems, hbusy⟩ :=
    List.append_eq_nil_iff.mp (List.append_eq_nil_iff.mp hfiles.1).1
  have hwrote := hturn.wrote
  rw [hbusy, show l.writing.log = [] from List.map_eq_nil_iff.mp hitems] at hwrote
  exact hwrote.store_eq

/-- A step of a strict line takes its workers further. -/
lemma InTurn.step (hstrict : j.strict = true) (hturn : l.InTurn j s₀ path)
    (hstep : StrictStep j l l') : l'.InTurn j s₀ path := by
  obtain ⟨hstep, -, -, hleaves⟩ := hstep
  have horder := hturn.order.step hstep
  have hunread := hturn.store_eq
  obtain ⟨horder₀, hread, hgenerated, hwrote⟩ := hturn
  cases hstep with
  | feed _ _ => exact ⟨horder, hread, hgenerated, hwrote⟩
  | @passSource x reading hemits _ =>
    refine ⟨horder, ?_, hgenerated, hwrote⟩
    show reading.log = readLog s₀ reading.log.items
    rw [← hemits.log_eq horder₀.readers]
    exact hread
  | @passFile x generating hemits _ =>
    refine ⟨horder, hread, ?_, hwrote⟩
    show generating.log = generateLog j.engine generating.log.items
    rw [← hemits.log_eq horder₀.generators]
    exact hgenerated
  | @read disk reading hstep =>
    obtain ⟨rfl, hlog⟩ := (hstep.laneStep horder₀.readers).log_cases
      (fun _ _ => rfl) fun _ _ => rfl
    refine ⟨horder, ?_, hgenerated, hwrote⟩
    show reading.lane.log = readLog s₀ reading.lane.log.items
    rcases hlog with hlog | ⟨a, hbusy, hlog⟩
    · rw [hlog]
      exact hread
    · -- there is only one path, so that nothing was read before
      have hlength := congrArg List.length horder₀.reading
      simp only [Lane.arrived, hbusy, List.length_append, List.length_singleton] at hlength
      have hnone : l.reading.lane.log.items = [] := List.length_eq_zero_iff.mp (by omega)
      have hunread' : l.reading.lane.log = [] := List.map_eq_nil_iff.mp hnone
      rw [hlog, hunread', hunread hunread']
      rfl
  | @generate disk generating hstep =>
    obtain ⟨rfl, hlog⟩ := (hstep.laneStep horder₀.generators).log_cases
      (fun _ _ => rfl) fun _ _ => rfl
    refine ⟨horder, hread, ?_, hwrote⟩
    show generating.lane.log = generateLog j.engine generating.lane.log.items
    rcases hlog with hlog | ⟨a, -, hlog⟩
    · rw [hlog]
      exact hgenerated
    · rw [hlog, Log.items_append, generateLog, List.map_append]
      exact congrArg (· ++ _) hgenerated
  | write hstep =>
    have hlane := hstep.laneStep horder₀.writers
    exact ⟨horder, hread, hgenerated, hwrote.step hstrict hlane fun hfailed =>
      hleaves.lane_eq horder₀.writers horder.writers hfailed⟩

lemma inTurn_of_reach (hstrict : j.strict = true)
    (hreach : Relation.ReflTransGen (StrictStep j) (start {} s₀ [path]) l) :
    l.InTurn j s₀ path := by
  induction hreach with
  | refl => exact inTurn_start j s₀ path
  | tail _ hstep ih => exact ih.step hstrict hstep

namespace InTurn

/-- What was read so far begins what there is to read. -/
lemma reading_begins (hturn : l.InTurn j s₀ path) : l.reading.log <+: readLog s₀ [path] := by
  have hitems : l.reading.log.items <+: [path] := by
    rw [← hturn.order.reading, Lane.arrived, List.append_assoc, List.append_assoc]
    exact List.prefix_append _ _
  rw [hturn.read]
  exact hitems.map _

/-- What was generated so far begins what there is to generate. -/
lemma generating_begins (hturn : l.InTurn j s₀ path) :
    l.generating.log <+: generateLog j.engine (readLog s₀ [path]).results := by
  have hitems : l.generating.log.items <+: (readLog s₀ [path]).results := by
    refine List.IsPrefix.trans ?_ (hturn.reading_begins.filterMap _)
    have hsources := hturn.order.generating
    rw [Log.outputs_reader] at hsources
    rw [Log.results] at hsources
    rw [← hsources, Lane.arrived, List.append_assoc, List.append_assoc]
    exact List.prefix_append _ _
  rw [hturn.generated]
  exact hitems.map _

/-- What was taken to be written so far begins what there is to write. -/
lemma writing_begins (hturn : l.InTurn j s₀ path) :
    l.writing.log.items ++ l.writing.lane.busy <+: j.filesOf s₀ [path] := by
  have hfiles : l.writing.lane.arrived <+: j.filesOf s₀ [path] := by
    obtain ⟨rest, hrest⟩ := hturn.generating_begins
    rw [← outputs_generateLog, ← hrest, Log.outputs_append, ← hturn.order.writing,
      List.append_assoc]
    exact List.prefix_append _ _
  exact (List.prefix_append _ _).trans hfiles

/-- Without files to write the files are left as they were. -/
lemma of_filesOf_eq_nil (hturn : l.InTurn j s₀ path) (hnone : j.filesOf s₀ [path] = []) :
    l.disk.store = s₀ ∧ l.writing.log = [] := by
  have hbegins := hturn.writing_begins
  rw [hnone, List.prefix_nil, List.append_eq_nil_iff] at hbegins
  have hunwritten : l.writing.log = [] := List.map_eq_nil_iff.mp hbegins.1
  have hwrote := hturn.wrote
  rw [hbegins.2, hunwritten] at hwrote
  exact ⟨hwrote.store_eq, hunwritten⟩

/-- In the end everything was read, generated and written. -/
lemma of_finished (hturn : l.InTurn j s₀ path) (hsound : l.Sound) (hfinished : l.Finished) :
    l.reading.log = readLog s₀ [path] ∧
      l.generating.log = generateLog j.engine (readLog s₀ [path]).results ∧
      l.writing.log.items = j.filesOf s₀ [path] ∧ l.writing.lane.busy = [] := by
  obtain ⟨hfeed, ⟨hreaders, -⟩, ⟨hgenerators, -⟩, hwriters⟩ := hfinished
  obtain ⟨⟨items, marks, -, hready, -⟩, hlinked, hlinked', -⟩ := hsound
  obtain ⟨hreading, hread⟩ := hready.arrived_eq hreaders
  obtain ⟨hgenerating, hgenerated⟩ := hlinked.ready.arrived_eq hgenerators
  obtain ⟨hwriting, -⟩ := hlinked'.ready.arrived_eq hwriters
  have hpaths := hturn.order.reading
  have hsources := hturn.order.generating
  have hfiles := hturn.order.writing
  rw [hreading, hfeed] at hpaths
  rw [hgenerating, hread, List.append_nil] at hsources
  rw [hwriting, hgenerated, List.append_nil] at hfiles
  have hreadLog : l.reading.log = readLog s₀ [path] := by
    rw [hturn.read]
    exact congrArg _ ((List.append_nil _).symm.trans hpaths)
  have hgenerateLog : l.generating.log = generateLog j.engine (readLog s₀ [path]).results := by
    rw [hturn.generated, hsources, Log.outputs_reader, hreadLog]
  refine ⟨hreadLog, hgenerateLog, ?_, ?_⟩
  · rw [hfiles, hgenerateLog, outputs_generateLog]
  · have hlength := congrArg List.length hwriting
    have hlog : l.writing.lane.log = l.writing.log := rfl
    rw [Lane.arrived, hlog, List.length_append, List.length_append] at hlength
    exact List.length_eq_zero_iff.mp (by omega)

end InTurn

/-! ## The end -/

variable {result : Except RunFault Report}

/-- Where the source gives rise to a fault before there is a file to write the line ends with it. -/
lemma eq_fault_of_ends (hstrict : j.strict = true)
    (hreach : Relation.ReflTransGen (StrictStep j) (start {} s₀ [path]) l)
    (hends : l.Ends j result) (hnone : j.filesOf s₀ [path] = []) {fault : StageFault}
    (hfaults : (readLog s₀ [path]).faults reader ++
      (generateLog j.engine (readLog s₀ [path]).results).faults j.generator = [fault]) :
    (l.disk.store, result) = (s₀, .error (.stage fault)) := by
  have hturn := inTurn_of_reach hstrict hreach
  obtain ⟨hstore, hunwritten⟩ := hturn.of_filesOf_eq_nil hnone
  cases hends with
  | report hfinished =>
    have hsound := sound_of_reach (w := {}) rfl (reach_of_strict hreach)
    obtain ⟨hread, hgenerated, -⟩ := hturn.of_finished hsound hfinished
    have hclean := (halted_of_reach hreach).faults_eq_nil_of_finished hfinished j
    have hledger : l.ledger.faults j = [fault] := by
      rw [Ledger.faults, ledger, hread, hgenerated, hunwritten, hfaults]
      rfl
    rw [hledger] at hclean
    cases hclean
  | @fault f hf =>
    have hledger : l.ledger.faults j ⊆ [fault] := by
      rw [← hfaults, Ledger.faults, ledger, hunwritten]
      intro f hf
      simp only [List.mem_append] at hf ⊢
      rcases hf with (hf | hf) | hf
      · exact Or.inl (Log.faults_subset hturn.reading_begins.subset hf)
      · exact Or.inr (Log.faults_subset hturn.generating_begins.subset hf)
      · cases hf
    rw [hstore, List.mem_singleton.mp (hledger hf)]

/-- A strict line of single workers that is given one source ends as the batch does stage by
stage. -/
theorem eq_run_of_ends (hstrict : j.strict = true) (hfolder : s.makeFolders j.folder = (s₀, none))
    (hreach : Relation.ReflTransGen (StrictStep j) (start {} s₀ [path]) l)
    (hends : l.Ends j result) : (l.disk.store, result) = j.run s [path] := by
  cases hread : s₀.readText path with
  | error fault =>
    rw [Job.run_of_unread hstrict hfolder hread]
    refine eq_fault_of_ends hstrict hreach hends ?_ ?_
    · simp [Job.filesOf, hread, Except.toOption]
    · simp [readLog, generateLog, hread, Except.mapError, Log.faults, Log.results, reader,
        Except.toOption]
  | ok code =>
    cases hfiles : j.engine.files code with
    | error fault =>
      rw [Job.run_of_unparsed hstrict hfolder hread hfiles]
      refine eq_fault_of_ends hstrict hreach hends ?_ ?_
      · simp [Job.filesOf, hread, hfiles, Except.toOption]
      · simp [readLog, generateLog, hread, hfiles, Except.mapError, Log.faults, Log.results,
          Job.generator, Except.toOption]
    | ok files =>
      rw [Job.run_eq_writeStage hfolder (Job.sources_single hread hfiles)]
      have hturn := inTurn_of_reach hstrict hreach
      cases hends with
      | report hfinished =>
        have hsound := sound_of_reach (w := {}) rfl (reach_of_strict hreach)
        obtain ⟨hreadLog, -, hitems, hbusy⟩ := hturn.of_finished hsound hfinished
        have hclean := (halted_of_reach hreach).faults_eq_nil_of_finished hfinished j
        have hnone : l.writing.log.faults j.writer = [] := (List.append_eq_nil_iff.mp hclean).2
        have hwrote := hturn.wrote
        rw [hbusy] at hwrote
        have hstage := hwrote.writeStage_eq hnone
        rw [hitems] at hstage
        have hreport : l.ledger.report j = {
            read := [path]
            written := (l.writing.log.results.map (·.2)).mergeSort Job.textLE } := by
          have hfailures : (l.ledger.report j).failures = [] := List.map_eq_nil_iff.mpr hclean
          have hreadPaths : (l.ledger.report j).read = [path] := by
            rw [Ledger.report, ledger, hreadLog]
            simp [readLog, Log.results, hread, Except.mapError, Except.toOption]
          rw [← hfailures, ← hreadPaths]
          rfl
        simp only [hstage, hreport, Log.stageRun, hnone, Job.stopsAt_nil, List.map_map]
        rfl
      | @fault f hf =>
        have hwriting : f ∈ l.writing.log.faults j.writer := by
          simp only [Ledger.faults, List.mem_append] at hf
          rcases hf with (hf | hf) | hf
          · have hf' := Log.faults_subset hturn.reading_begins.subset hf
            simp [readLog, hread, Except.mapError, Log.faults] at hf'
          · have hf' := Log.faults_subset hturn.generating_begins.subset hf
            simp [readLog, generateLog, hread, hfiles, Except.mapError, Log.faults, Log.results,
              Except.toOption] at hf'
          · exact hf
        obtain ⟨hsingle, hstage⟩ := hturn.wrote.of_fault hwriting
        obtain ⟨rest, hrest⟩ := (List.prefix_append _ _).trans hturn.writing_begins
        have hhere := hstage rest
        rw [hrest] at hhere
        simp only [hhere, Log.stageRun, hsingle, Job.stopsAt, hstrict]
        rfl

end Line

/-- However a strict batch ends that has one worker in each stage and one source, it ends as it does
stage by stage. -/
theorem Job.Finishes.eq_run {j : Job} {s s₀ : Store} {path : String}
    {o : Store × Except RunFault Report} (hfinishes : j.Finishes {} s [path] o)
    (hstrict : j.strict = true) (hfolder : s.makeFolders j.folder = (s₀, none)) :
    o = j.run s [path] := by
  cases hfinishes with
  | inTurn => rfl
  | tolerantly htolerant =>
    rw [hstrict] at htolerant
    cases htolerant
  | strictly _ _ hfolder' hreach hends =>
    obtain rfl := (Prod.mk.inj (hfolder'.symm.trans hfolder)).1
    exact Line.eq_run_of_ends hstrict hfolder hreach hends

end FixtureDraft.Batch
