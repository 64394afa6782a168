import FixtureDraft.Proofs.CompleteArguments
import FixtureDraft.Proofs.FlawlessBatches
import FixtureDraft.Proofs.Orders
import FixtureDraft.Proofs.PathTexts

/-!
# What the exit code tells

The program ends with 2 if it is used wrongly and then touches no file, with 0 if nothing is wrong
with the batch that its arguments ask for, and with 1 otherwise (`exit_code_tells`). After a 0 all
files of the batch are on disk and the summary counts them. This holds of names without slashes; two
names with slashes can share one place, and a 0 then hides that one file is lost
(`exit_code_hides_lost_file`).
-/

namespace FixtureDraft.CommandLine

open FixtureDraft.Batch
open FixtureDraft.Files

/-! ## What arguments ask for -/

namespace Arguments

/-- The paths of the sources. -/
def listed (a : Arguments) : List String := (a.paths.map splitPaths).getD []

/-- The batch to run. -/
def job (a : Arguments) (e : Engine) : Job where
  engine := e
  folder := .ofText (a.outputDir.getD "")

lemma nothing?_eq_none {a : Arguments} (hgiven : ∀ p, a.Given p) : a.nothing? = none := by
  have hread := hgiven .readWorkers
  have hgenerate := hgiven .generateWorkers
  have hwrite := hgiven .writeWorkers
  have hfolder := hgiven .outputDir
  simp only [Given] at hread hgenerate hwrite hfolder
  simp only [nothing?, ← Option.not_isSome, hread, hgenerate, hwrite, hfolder, Bool.not_true,
    Bool.false_eq_true, if_false]

end Arguments

/-- The arguments are used wrongly: they cannot be read, or they list no source. -/
def Misused (args : List String) : Prop :=
  (∃ message, parseArguments args = .error (.usage message)) ∨
    ∃ a, parseArguments args = .ok a ∧ a.listed = []

/-- How the program may end: as it does stage by stage, or as its batch may finish if its arguments
ask for one. -/
inductive MayEnd (e : Engine) (s : Store) (args : List String) :
    Store × Except Crash Ending → Prop
  | inTurn : MayEnd e s args (run e s args)
  | ofBatch {a s' result} (hparse : parseArguments args = .ok a) (hlisted : a.listed ≠ [])
    (hfinishes : (a.job e).Finishes a.workers s a.listed (s', result)) :
    MayEnd e s args (s', Ending.ofResult result)

/-! ## Single cases -/

variable {e : Engine} {s s₀ : Store} {args : List String} {a : Arguments}

/-- Wrong usage ends with the code 2 and changes nothing. -/
lemma run_of_misused (hmisused : Misused args)
    (hgiven : ∀ a, parseArguments args = .ok a → ∀ p, a.Given p) :
    ∃ message, run e s args = (s, .ok (.usage message)) := by
  rcases hmisused with ⟨message, hparse⟩ | ⟨a, hparse, hlisted⟩
  · exact ⟨message, by rw [run, hparse]⟩
  · obtain ⟨text, htext⟩ := Option.isSome_iff_exists.mp (hgiven a hparse .paths)
    have hnone : splitPaths text = [] := by
      rw [Arguments.listed, htext] at hlisted
      exact hlisted
    refine ⟨"at least one input path is required", ?_⟩
    rw [run, hparse]
    simp only [htext, Option.map_some, hnone]

/-- Otherwise the batch is run. -/
lemma run_of_listed (hparse : parseArguments args = .ok a) (hlisted : a.listed ≠ [])
    (hgiven : ∀ p, a.Given p) :
    run e s args = (((a.job e).run s a.listed).1,
      Ending.ofResult ((a.job e).run s a.listed).2) := by
  obtain ⟨text, htext⟩ := Option.isSome_iff_exists.mp (hgiven .paths)
  have hpaths : a.listed = splitPaths text := by
    rw [Arguments.listed, htext]
    rfl
  rw [hpaths] at hlisted ⊢
  rw [run, hparse]
  simp only [htext, Option.map_some, Arguments.nothing?_eq_none hgiven]
  rfl

/-- The summary of a batch without failures. -/
def countsText (read written : ℕ) : String :=
  s!"Read {read} file(s), wrote {written} test file(s)" ++ "\n"

lemma ofReport_of_success {r : Report} (hnone : r.failures = []) :
    Ending.ofReport r = .finished 0 (countsText r.read.length r.written.length) "" := by
  have hsummary : r.summary = countsText r.read.length r.written.length := by
    rw [Report.summary, Report.summaryLines, hnone]
    rfl
  rw [Ending.ofReport, Report.success, hnone, hsummary]
  rfl

/-! ## All cases -/

/-- What the command line is about: the arguments do not ask for help, each positional argument is
given a text, the folder has no NUL in its name, no file of the batch has a slash in its name, and
none is written where a source stands. -/
structure Proper (e : Engine) (s : Store) (args : List String) : Prop where
  noHelp : parseArguments args ≠ .error .help
  given : ∀ a, parseArguments args = .ok a → ∀ p, a.Given p
  noNul : ∀ a, parseArguments args = .ok a → '\x00' ∉ (a.outputDir.getD "").toList
  apart : ∀ a s₀, parseArguments args = .ok a → s.makeFolders (a.job e).folder = (s₀, none) →
    (a.job e).Apart s₀ a.listed

/-- The arguments are in order, the folder can be made, and nothing is wrong with the batch. -/
def Smooth (e : Engine) (s : Store) (args : List String) : Prop :=
  ∃ a s₀, parseArguments args = .ok a ∧ a.listed ≠ [] ∧
    s.makeFolders (a.job e).folder = (s₀, none) ∧ (a.job e).Flawless s₀ a.listed

lemma Smooth.not_misused (hsmooth : Smooth e s args) : ¬ Misused args := by
  obtain ⟨a, s₀, hparse, hlisted, -⟩ := hsmooth
  rintro (⟨message, hparse'⟩ | ⟨a', hparse', hnone⟩)
  · rw [hparse] at hparse'
    cases hparse'
  · rw [hparse] at hparse'
    obtain rfl := Except.ok.inj hparse'
    exact hlisted hnone

variable {o : Store × Except Crash Ending}

/-- A folder that cannot be made ends the program with the code 1. -/
lemma ofResult_of_folder {fault : PathFault} (hfault : fault ≠ .nulByte) :
    ∃ errors, Ending.ofResult (.error (.folder fault)) = .ok (.finished 1 "" errors) := by
  cases fault with
  | refused why path => exact ⟨_, rfl⟩
  | nulByte => exact absurd rfl hfault

/-- The batch is run on the arguments, and the program ends as the batch finishes. -/
lemma MayEnd.exists_result (hend : MayEnd e s args o) (hproper : Proper e s args)
    (hparse : parseArguments args = .ok a) (hlisted : a.listed ≠ []) :
    ∃ result, (a.job e).Finishes a.workers s a.listed (o.1, result) ∧
      o.2 = Ending.ofResult result := by
  cases hend with
  | inTurn =>
    rw [run_of_listed hparse hlisted (hproper.given a hparse)]
    exact ⟨_, .inTurn, rfl⟩
  | @ofBatch a' s' result hparse' _ hfinishes =>
    obtain rfl : a' = a := Except.ok.inj (hparse'.symm.trans hparse)
    exact ⟨result, hfinishes, rfl⟩

/-- A batch whose folder cannot be made ends the program with the code 1. -/
lemma ofResult_of_finishes (hproper : Proper e s args) (hparse : parseArguments args = .ok a)
    {s₁ s' : Store} {fault : PathFault} {result : Except RunFault Report}
    (hfolder : s.makeFolders (a.job e).folder = (s₁, some fault))
    (hfinishes : (a.job e).Finishes a.workers s a.listed (s', result)) :
    ∃ errors, Ending.ofResult result = .ok (.finished 1 "" errors) := by
  have hfault := Store.makeFolders_ne_nulByte s (hproper.noNul a hparse)
  rw [show s.makeFolders (.ofText (a.outputDir.getD "")) = (s₁, some fault) from hfolder] at hfault
  generalize hend : (s', result) = last at hfinishes
  cases hfinishes with
  | inTurn =>
    have hrun : (a.job e).run s a.listed = (s₁, .error (.folder fault)) := by
      simp only [Job.run, hfolder]
    obtain ⟨-, rfl⟩ := Prod.mk.inj (hend.trans hrun)
    exact ofResult_of_folder fun heq => hfault (congrArg some heq)
  | strictly _ _ hfolder' | tolerantly _ _ hfolder' =>
    -- no line starts without the folder
    rw [hfolder] at hfolder'
    cases (Prod.mk.inj hfolder').2

/-- Whatever happens, the program comes to one of three ends. -/
lemma MayEnd.cases (hend : MayEnd e s args o) (hproper : Proper e s args) :
    (Misused args ∧ o.1 = s ∧ ∃ output errors, o.2 = .ok (.finished 2 output errors)) ∨
    (¬ Misused args ∧ ¬ Smooth e s args ∧ ∃ errors, o.2 = .ok (.finished 1 "" errors)) ∨
    ∃ a s₀ r, parseArguments args = .ok a ∧ a.listed ≠ [] ∧
      s.makeFolders (a.job e).folder = (s₀, none) ∧ (a.job e).Flawless s₀ a.listed ∧
      (a.job e).Succeeds s₀ a.listed o.1 r ∧ o.2 = .ok (.ofReport r) := by
  by_cases hmisused : Misused args
  · obtain ⟨message, hrun⟩ := run_of_misused (e := e) (s := s) hmisused hproper.given
    cases hend with
    | inTurn =>
      rw [hrun]
      exact Or.inl ⟨hmisused, rfl, _, _, rfl⟩
    | ofBatch hparse hlisted _ =>
      rcases hmisused with ⟨message, hparse'⟩ | ⟨a', hparse', hnone⟩
      · rw [hparse] at hparse'
        cases hparse'
      · rw [hparse] at hparse'
        obtain rfl := Except.ok.inj hparse'
        exact absurd hnone hlisted
  · cases hparse : parseArguments args with
    | error stop =>
      cases stop with
      | help => exact absurd hparse hproper.noHelp
      | usage message => exact absurd (Or.inl ⟨message, hparse⟩) hmisused
    | ok a =>
      have hlisted : a.listed ≠ [] := fun hnone => hmisused (Or.inr ⟨a, hparse, hnone⟩)
      obtain ⟨result, hfinishes, hending⟩ := hend.exists_result hproper hparse hlisted
      cases hfolder : s.makeFolders (a.job e).folder with
      | mk s₀ fault? =>
      cases fault? with
      | some fault =>
        obtain ⟨errors, herrors⟩ := ofResult_of_finishes hproper hparse hfolder hfinishes
        refine Or.inr (Or.inl ⟨hmisused, ?_, errors, hending.trans herrors⟩)
        rintro ⟨a', s₁, hparse', -, hfolder', -⟩
        obtain rfl := Except.ok.inj (hparse'.symm.trans hparse)
        cases (Prod.mk.inj (hfolder'.symm.trans hfolder)).2
      | none =>
        rcases hfinishes.cases rfl rfl hfolder (hproper.apart a s₀ hparse hfolder) with
          ⟨hflawless, r, rfl, hsucceeds⟩ | ⟨hflawed, f, rfl⟩
        · exact Or.inr (Or.inr ⟨a, s₀, r, rfl, hlisted, hfolder, hflawless, hsucceeds, hending⟩)
        · refine Or.inr (Or.inl ⟨hmisused, ?_, _, hending⟩)
          rintro ⟨a', s₁, hparse', -, hfolder', hflawless⟩
          obtain rfl := Except.ok.inj (hparse'.symm.trans hparse)
          obtain rfl := (Prod.mk.inj (hfolder'.symm.trans hfolder)).1
          exact hflawed hflawless

/-- The program always comes to an end with an exit code, and the code tells what happened: 2 that
it was used wrongly, and then no file was touched; 0 that nothing was wrong, and then every file of
the batch is on disk and the summary counts the sources and the files; and 1 everything else. -/
theorem exit_code_tells (e : Engine) (s : Store) (args : List String)
    (hproper : Proper e s args) :
    (∀ a s₀, parseArguments args = .ok a → s.makeFolders (a.job e).folder = (s₀, none) →
      WellFounded (fun l' l : Line => Line.StrictStep (a.job e) l l') ∧
      ∀ l, Relation.ReflTransGen (Line.StrictStep (a.job e)) (Line.start a.workers s₀ a.listed) l →
        (∃ result, l.Ends (a.job e) result) ∨ ∃ l', Line.StrictStep (a.job e) l l') ∧
    ∀ o, MayEnd e s args o → ∃ code output errors, o.2 = .ok (.finished code output errors) ∧
      (code = 2 ↔ Misused args) ∧ (code = 2 → o.1 = s) ∧
      (code = 0 ↔ Smooth e s args) ∧
      (code = 0 → ∀ a s₀, parseArguments args = .ok a →
        s.makeFolders (a.job e).folder = (s₀, none) →
        (∀ f ∈ (a.job e).filesOf s₀ a.listed, ∃ place,
          o.1.place ((a.job e).target f) = .ok place ∧
            o.1.find? place = some (.file (Text.encode f.code))) ∧
        output = countsText a.listed.length ((a.job e).filesOf s₀ a.listed).length ∧
        errors = "") ∧
      (¬ Misused args → ¬ Smooth e s args → code = 1) := by
  refine ⟨fun a s₀ hparse _ => ⟨Line.wellFounded_strictStep _, fun l hreach => ?_⟩,
    fun o hend => ?_⟩
  · exact (Line.sound_of_reach (workers_check hparse) (Line.reach_of_strict hreach)).exists_ends _
  rcases hend.cases hproper with ⟨hmisused, hsame, output, errors, hending⟩ |
    ⟨hused, hrough, errors, hending⟩ |
    ⟨a, s₀, r, hparse, hlisted, hfolder, hflawless, hsucceeds, hending⟩
  · have hrough : ¬ Smooth e s args := fun hsmooth => hsmooth.not_misused hmisused
    exact ⟨2, output, errors, hending, by simp [hmisused], fun _ => hsame, by simp [hrough],
      by simp, fun hused => absurd hmisused hused⟩
  · exact ⟨1, "", errors, hending, by simp [hused], by simp, by simp [hrough], by simp,
      fun _ _ => rfl⟩
  · have hsmooth : Smooth e s args := ⟨a, s₀, hparse, hlisted, hfolder, hflawless⟩
    rw [ofReport_of_success hsucceeds.failures] at hending
    refine ⟨0, _, _, hending, by simp [hsmooth.not_misused], by simp, by simp [hsmooth],
      fun _ a' s₁ hparse' hfolder' => ?_, fun _ hrough => absurd hsmooth hrough⟩
    obtain rfl := Except.ok.inj (hparse'.symm.trans hparse)
    obtain rfl := (Prod.mk.inj (hfolder'.symm.trans hfolder)).1
    refine ⟨hsucceeds.onDisk, ?_, rfl⟩
    rw [hsucceeds.read.length_eq, hsucceeds.written, List.length_mergeSort, List.length_map]

/-- Arguments for one worker in each stage. -/
def plainArguments (paths folder : String) : Arguments where
  paths := some paths
  outputDir := some folder
  readWorkers := some 1
  generateWorkers := some 1
  writeWorkers := some 1

lemma parseArguments_of_toOption {args : List String} {a : Arguments}
    (h : (parseArguments args).toOption = some a) : parseArguments args = .ok a := by
  cases hresult : parseArguments args with
  | error stop =>
    rw [hresult] at h
    cases h
  | ok a' =>
    rw [hresult] at h
    exact congrArg _ (Option.some.inj h)

lemma parse_sample :
    parseArguments ["A.cs", "out", "1", "1", "1"] = .ok (plainArguments "A.cs" "out") :=
  parseArguments_of_toOption (by decide +kernel)

lemma job_sample : (plainArguments "A.cs" "out").listed = ["A.cs"] ∧
    (plainArguments "A.cs" "out").job {} = { sampleJob with strict := true } := by
  have hfolder : Path.ofText "out" = { steps := ["out"] } := by decide +kernel
  refine ⟨by decide +kernel, ?_⟩
  show ({ engine := {}, folder := .ofText "out" } : Job) = _
  rw [hfolder]
  rfl

/-- One source with one class. -/
theorem exit_code_tells_for_one_source :
    ∃ s' f place, run {} (sampleStore false) ["A.cs", "out", "1", "1", "1"]
        = (s', .ok (.finished 0 (countsText 1 1) "")) ∧
      sampleJob.filesOf (sampleStore true) ["A.cs"] = [f] ∧
      s'.place (sampleJob.target f) = .ok place ∧
      s'.find? place = some (.file (Text.encode f.code)) := by
  obtain ⟨f, hmade, hflawless⟩ := exists_sampleFile
  obtain ⟨hlisted, hjob⟩ := job_sample
  have hfolder : (sampleStore false).makeFolders ((plainArguments "A.cs" "out").job {}).folder
      = (sampleStore true, none) := by
    rw [hjob]
    exact makeFolders_sampleStore
  have hproper : Proper {} (sampleStore false) ["A.cs", "out", "1", "1", "1"] := by
    refine ⟨by rw [parse_sample]; simp, fun a ha => ?_, fun a ha => ?_, fun a s₀ ha hs₀ => ?_⟩
    all_goals obtain rfl := Except.ok.inj (parse_sample.symm.trans ha)
    · exact given_of_count_le_one parse_sample (by decide)
    · decide +kernel
    · obtain rfl := (Prod.mk.inj (hs₀.symm.trans hfolder)).1
      rw [hjob, hlisted]
      have hapart := Job.Apart.of_subset (List.take_subset 1 _)
        clear_sample.apart
      exact ⟨hapart.no_slash, hapart.not_target⟩
  have hsmooth : Smooth {} (sampleStore false) ["A.cs", "out", "1", "1", "1"] := by
    refine ⟨_, _, parse_sample, by simp [hlisted], hfolder, ?_⟩
    rw [hjob, hlisted]
    exact hflawless
  obtain ⟨-, hends⟩ := exit_code_tells {} (sampleStore false) _ hproper
  obtain ⟨code, output, errors, hending, -, -, hzero, hdisk, -⟩ := hends _ .inTurn
  obtain rfl := hzero.mpr hsmooth
  obtain ⟨hfiles, rfl, rfl⟩ := hdisk rfl _ _ parse_sample hfolder
  rw [hjob, hlisted, hmade] at hfiles hending
  obtain ⟨place, hplace, hfind⟩ := hfiles f List.mem_cons_self
  exact ⟨_, f, place, Prod.ext rfl hending, hmade, hplace, hfind⟩

/-- A code 0 may hide that a file is lost, if the names of two files have slashes: both are written
at one place. -/
theorem exit_code_hides_lost_file :
    ∃ a s' f, parseArguments ["P.cs|Q.cs", "o", "1", "1", "1"] = .ok a ∧
      a.listed = ["P.cs", "Q.cs"] ∧
      slashedStore.makeFolders (a.job {}).folder = (slashedStore, none) ∧
      run {} slashedStore ["P.cs|Q.cs", "o", "1", "1", "1"]
        = (s', .ok (.finished 0 (countsText 2 2) "")) ∧
      (((a.job {}).filesOf slashedStore a.listed).map FixtureFile.qualifiedName).Nodup ∧
      f ∈ (a.job {}).filesOf slashedStore a.listed ∧
      ¬ ∃ place, s'.place ((a.job {}).target f) = .ok place ∧
        s'.find? place = some (.file (Text.encode f.code)) := by
  have hparse : parseArguments ["P.cs|Q.cs", "o", "1", "1", "1"]
      = .ok (plainArguments "P.cs|Q.cs" "o") := parseArguments_of_toOption (by decide +kernel)
  have hlisted : (plainArguments "P.cs|Q.cs" "o").listed = ["P.cs", "Q.cs"] := by decide +kernel
  have hjob : (plainArguments "P.cs|Q.cs" "o").job {} = slashedJob true := rfl
  obtain ⟨f, g, hcodes, hf, hg, hmade⟩ := exists_slashed
  obtain ⟨hP, hQ, -⟩ := hmade true
  have hne : f.qualifiedName ≠ g.qualifiedName := by
    rw [hf, hg]
    decide
  have hPQ := filesOf_pair hP hQ
  obtain ⟨s', r, hrun, hnone, hread, hwritten, hfolders, hfind⟩ :=
    run_slashedJob true (by simp) hPQ (by simp [hf]) (by simp [hg]) hne
  refine ⟨_, s', f, hparse, hlisted, ?_, ?_, ?_, ?_, ?_⟩
  · rw [hjob]
    exact makeFolders_slashedStore true
  · have hgiven := given_of_count_le_one hparse (by decide)
    rw [run_of_listed hparse (by simp [hlisted]) hgiven, hjob, hlisted, hrun]
    rw [show Ending.ofResult (.ok r) = .ok (.ofReport r) from rfl, ofReport_of_success hnone,
      hread, hwritten]
    rfl
  · rw [hjob, hlisted, hPQ]
    simp [hne]
  · rw [hjob, hlisted, hPQ]
    simp
  · rintro ⟨place, hplace, hfile⟩
    have hleads := (writable_slashedStore true (f := f) (by simp [hf])).leads
    rw [hjob] at hplace
    obtain rfl := Except.ok.inj (((hfolders.place_ok_iff _ _).mpr hleads).symm.trans hplace)
    rw [hfind] at hfile
    exact hcodes (by simpa using hfile.symm)

end FixtureDraft.CommandLine
