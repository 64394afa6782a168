import FixtureDraft.Proofs.FewerFolders
import FixtureDraft.Proofs.SavedFiles
import FixtureDraft.Proofs.SingleWorkers

/-!
# One source, two ways

The fixtures of one source file can be asked for by a request or by a batch of that file alone. Both
leave the same files and name the same paths, and a source that is not parsed is told of by both
(`request_agrees_with_batch`). They may leave different folders: a batch makes its folder at once,
and a request makes one only when there is a file to save.
-/

namespace FixtureDraft.Files.Store

variable {s s' : Store} {path : String} {bytes : Text.Bytes}

/-- The text of a file whose path is written as its steps are. -/
lemma readText_of_look (hnormal : (Path.ofText path).text = path)
    (hfile : s.look (.ofText path) = .ok (some (.file bytes))) :
    s.readText path = (textOf bytes).mapError .notText := by
  obtain ⟨hnul, place, hplace, hfind⟩ := look_eq_some_iff.mp hfile
  have hne : (Path.ofText path).steps ≠ [] := by
    intro hnone
    rw [Store.place, hnone] at hplace
    obtain rfl := Except.ok.inj hplace
    rw [find?_origin] at hfind
    cases hfind
  have hnamed := s.placeNamed_text hne fun step hstep =>
    ⟨(Path.mem_ofText hstep).1, (Path.mem_ofText hstep).2.1⟩
  rw [hnormal] at hnamed hnul
  simp [readText, read, hnul, hnamed, hplace, bytesAt, hfind, Except.mapError]

end FixtureDraft.Files.Store

namespace FixtureDraft.Service

open FixtureDraft.Batch
open FixtureDraft.Files
open FixtureDraft.Text

/-- The request for the fixtures of one file. -/
def fileRequest (path folder : String) : GenerationRequest where
  file := some path
  folder := some folder

/-- The batch into a folder, as it is by default. -/
def folderJob (e : Engine) (folder : String) : Job where
  engine := e
  folder := .ofText folder

variable {e : Engine} {l : Limits} {s s₀ : Store} {path folder : String}

/-! ## The source -/

/-- A source file that a request may load: its path is written as its steps are, its extension is
known, and its text is not too large. -/
structure Loadable (l : Limits) (s : Store) (path : String) : Prop where
  normal : (Path.ofText path).text = path
  suffix : (Path.ofText path).suffix ∈ l.extensions
  file : ∃ bytes, s.look (.ofText path) = .ok (some (.file bytes))
  size : ∀ code, s.readText path = .ok code → (code.length : ℤ) ≤ l.maxSize

namespace Loadable

/-- The file is read alike after folders were made. -/
lemma readText_eq (h : Loadable l s path) (hgrows : Store.Grows s s₀) :
    s₀.readText path = s.readText path := by
  obtain ⟨bytes, hfile⟩ := h.file
  rw [Store.readText_of_look h.normal (hgrows.look_eq_some hfile),
    Store.readText_of_look h.normal hfile]

/-- The file is loaded if it can be read. -/
lemma load_eq (h : Loadable l s path) : l.load s none (some path) =
    match s.readText path with
    | .error fault => Limits.refuse .internalError s!"Error reading file: {fault.message}"
    | .ok content => .ok { content, sourcePath := some path } := by
  obtain ⟨bytes, hfile⟩ := h.file
  have hname : path ≠ "" := by
    intro hempty
    have hnormal := h.normal
    rw [hempty] at hnormal
    exact absurd hnormal (by decide)
  have hload : l.load s none (some path) = l.loadFile s path := by
    simp [Limits.load, Option.filter, hname]
  have hpath : l.validatePath s path = .ok (.ofText path) := by
    simp [Limits.validatePath, h.suffix, hfile]
    rfl
  rw [hload, Limits.loadFile, hpath]
  show (match s.readText (Path.ofText path).text with | .error _ => _ | .ok _ => _) = _
  rw [h.normal]
  cases hread : s.readText path with
  | error fault => rfl
  | ok content =>
    show l.checkSize "File" _ = _
    rw [Limits.checkSize, if_neg (not_lt.mpr (h.size content hread))]

/-- A file that is not read is an error of the service. -/
lemma request_of_unread (h : Loadable l s path) {fault : ReadFault}
    (hread : s.readText path = .error fault) (e : Engine) (folder : String) :
    ∃ error : ServiceError, error.code = .internalError ∧
      generateAndSave e l s (fileRequest path folder) = (s, .error (.error error)) := by
  have hload := h.load_eq
  rw [hread] at hload
  simp only [generateAndSave, generate, fileRequest, hload, Limits.refuse]
  exact ⟨_, rfl, rfl⟩

/-- A source that is not parsed is one, too. -/
lemma request_of_unparsed (h : Loadable l s path) {code : String} {fault : SourceFault}
    (hread : s.readText path = .ok code) (hfiles : e.files code = .error fault) (folder : String) :
    generateAndSave e l s (fileRequest path folder) = (s, .error (.error (parseError fault))) := by
  have hload := h.load_eq
  rw [hread] at hload
  simp only [generateAndSave, generate, fileRequest, hload, hfiles]

/-- The files of a source that is parsed are saved. -/
lemma request_of_files (h : Loadable l s path) {code : String} {files : List FixtureFile}
    (hread : s.readText path = .ok code) (hfiles : e.files code = .ok files)
    (hfolder : isBlankText folder = false) :
    (∃ fault, generateAndSave e l s (fileRequest path folder) =
        ((saveAll (.ofText folder) files s).1, .error (.path fault)) ∧
      (saveAll (.ofText folder) files s).2 = .error fault) ∨
    ∃ g saving, generateAndSave e l s (fileRequest path folder) =
        ((saveAll (.ofText folder) files s).1, .ok g) ∧
      (saveAll (.ofText folder) files s).2 = .ok saving ∧ g.savedTo = saving.savedTo := by
  have hload := h.load_eq
  rw [hread] at hload
  have hne : folder ≠ "" := by
    intro hempty
    rw [hempty] at hfolder
    cases hfolder
  have hfilter : (some folder).filter (· != "") = some folder := by simp [Option.filter, hne]
  simp only [generateAndSave, generate, fileRequest, hload, hfiles, hfilter]
  cases hsaved : saveAll (.ofText folder) files s with
  | mk s' result =>
    cases result with
    | error fault => exact Or.inl ⟨fault, rfl, rfl⟩
    | ok saving => exact Or.inr ⟨_, saving, rfl, rfl, rfl⟩

end Loadable

/-! ## The files -/

/-- Where all files can be written into the larger store a request saves them in the smaller one. -/
lemma saveAll_within {folder : Path} {files : List FixtureFile} {j : Job}
    (htarget : ∀ f, j.target f = saveTarget folder f) :
    ∀ {t u u' : Store}, Store.Within t u →
      (∀ f ∈ files, ∃ place, u.Writable (j.target f) place) → j.writeAll u files = .ok u' →
      ∃ t', saveAll folder files t
          = (t', .ok { savedTo := files.map fun f => (j.target f).text }) ∧ Store.Within t' u' := by
  induction files with
  | nil =>
    intro t u u' hwithin _ hwritten
    obtain rfl := Except.ok.inj hwritten
    exact ⟨t, rfl, hwithin⟩
  | cons f files ih =>
    intro t u u' hwithin hwritable hwritten
    obtain ⟨place, hplace⟩ := hwritable f List.mem_cons_self
    -- the folder around the file is there in the larger store, and is made in the smaller one
    obtain ⟨t₁, hmade, hwithin₁, haround⟩ :=
      Store.makeFolders_within hwithin hplace.isFolder_parent.1
    have hplace₁ := hwithin₁.writable hplace haround
    have hwrite := hplace.write_eq (encode f.code)
    have hsame := Store.sameFolders_write hwrite
    rw [Job.writeAll_cons hwrite] at hwritten
    obtain ⟨t', hsaved, hwithin'⟩ := ih (hwithin₁.put_file hplace.free (encode f.code))
      (fun g hg => by
        obtain ⟨place', hplace'⟩ := hwritable g (List.mem_cons_of_mem _ hg)
        exact ⟨place', hplace'.sameFolders hsame⟩) hwritten
    have hsave : saveText t (saveTarget folder f) f.code
        = (t₁.put place (.file (encode f.code)), none) := by
      rw [← htarget, saveText, hmade]
      simp only [hplace₁.write_eq]
    refine ⟨t', ?_, hwithin'⟩
    rw [saveAll_cons_saved hsave, hsaved, List.map_cons, htarget f]
    rfl

/-- A request and a batch come to the same: they leave the same files, both are done or both are
not, and they name the same paths. -/
structure RequestAgrees (request : Store × Except LoadFault Generated)
    (batch : Store × Except RunFault Report) : Prop where
  files : ∀ place content, request.1.find? place = some (.file content) ↔
    batch.1.find? place = some (.file content)
  done : (∃ g, request.2 = .ok g) ↔ ∃ r, batch.2 = .ok r
  written : ∀ g r, request.2 = .ok g → batch.2 = .ok r →
    g.savedTo.mergeSort Job.textLE = r.written

/-- The files that a source gives rise to have names of their own, and nothing is in the way of any
of them. -/
def GoodFiles (j : Job) (s : Store) (files : List FixtureFile) : Prop :=
  (files.map FixtureFile.qualifiedName).Nodup ∧
    ∀ f ∈ files, ∃ place, s.Writable (j.target f) place

section Batch

variable (h : Loadable l s path) (hblank : isBlankText folder = false)
  (hfolder : s.makeFolders (folderJob e folder).folder = (s₀, none))

include h hfolder

/-- The batch reads what the request reads. -/
lemma readText_of_makeFolders : s₀.readText path = s.readText path := by
  have hgrows := Store.grows_makeFolders s (folderJob e folder).folder
  rw [hfolder] at hgrows
  exact h.readText_eq hgrows

include hblank

/-- Where all files can be written the request and the batch come to the same. -/
lemma requestAgrees_run
    (hgood : ∀ code files, s.readText path = .ok code → e.files code = .ok files →
      GoodFiles (folderJob e folder) s₀ files) :
    RequestAgrees (generateAndSave e l s (fileRequest path folder))
      ((folderJob e folder).run s [path]) := by
  have hsame := readText_of_makeFolders h hfolder
  have hwithin := Store.within_makeFolders s (folderJob e folder).folder
  rw [hfolder] at hwithin
  cases hread : s.readText path with
  | error fault =>
    obtain ⟨error, -, hrequest⟩ := h.request_of_unread hread e folder
    rw [hrequest, Job.run_of_unread rfl hfolder (hsame.trans hread)]
    exact ⟨hwithin.file_iff, by simp, by simp⟩
  | ok code =>
    cases hfiles : e.files code with
    | error fault =>
      rw [h.request_of_unparsed hread hfiles,
        Job.run_of_unparsed rfl hfolder (hsame.trans hread) hfiles]
      exact ⟨hwithin.file_iff, by simp, by simp⟩
    | ok files =>
      obtain ⟨hnames, hwritable⟩ := hgood code files hread hfiles
      have hread₀ : s₀.readText path = .ok code := hsame.trans hread
      have hmade : (folderJob e folder).filesOf s₀ [path] = files :=
        Job.filesOf_single hread₀ hfiles
      obtain ⟨s', hwritten, -⟩ := Job.exists_writeAll hwritable
      have htarget : ∀ f, (folderJob e folder).target f = saveTarget (.ofText folder) f :=
        fun _ => rfl
      obtain ⟨t', hsaved, hwithin'⟩ := saveAll_within htarget hwithin hwritable hwritten
      have hrun := Job.run_eq_of_writeAll (j := folderJob e folder) hfolder
        (Job.sources_single hread₀ hfiles) (hmade.symm ▸ hnames) (hmade.symm ▸ hwritten)
      rw [hmade] at hrun
      rcases h.request_of_files hread hfiles hblank with
        ⟨fault, -, hfault⟩ | ⟨g, saving, hrequest, hsaving, hg⟩
      · rw [hsaved] at hfault
        cases hfault
      · rw [hsaved] at hrequest hsaving
        obtain rfl := Except.ok.inj hsaving
        rw [hrequest, hrun]
        refine ⟨hwithin'.file_iff, by simp, fun g' r hg' hr => ?_⟩
        rw [← Except.ok.inj hg', ← Except.ok.inj hr, hg]

/-- Both or neither tell of a source that is not parsed. -/
lemma unparsed_iff :
    (∃ error, (generateAndSave e l s (fileRequest path folder)).2 = .error (.error error) ∧
      error.code = .parseError) ↔
    ∃ f fault, ((folderJob e folder).run s [path]).2 = .error (.stage f) ∧
      f.stage = .generate ∧ f.cause = .unparsed fault := by
  have hsame := readText_of_makeFolders h hfolder
  cases hread : s.readText path with
  | error fault =>
    obtain ⟨error, hcode, hrequest⟩ := h.request_of_unread hread e folder
    rw [hrequest, Job.run_of_unread rfl hfolder (hsame.trans hread)]
    simp [hcode]
  | ok code =>
    cases hfiles : e.files code with
    | error fault =>
      rw [h.request_of_unparsed hread hfiles,
        Job.run_of_unparsed rfl hfolder (hsame.trans hread) hfiles]
      simp [parseError]
    | ok files =>
      have hrequest : ∀ error,
          (generateAndSave e l s (fileRequest path folder)).2 ≠ .error (.error error) := by
        intro error
        rcases h.request_of_files hread hfiles hblank with
          ⟨fault, hrequest, -⟩ | ⟨g, saving, hrequest, -⟩
        all_goals simp [hrequest]
      refine ⟨fun ⟨error, herror, _⟩ => absurd herror (hrequest error), ?_⟩
      rintro ⟨f, fault, hrun, hstage, -⟩
      have hwrite := Job.stage_of_run hfolder (Job.sources_single (hsame.trans hread) hfiles) hrun
      rw [hstage] at hwrite
      cases hwrite

end Batch

/-- A request for the fixtures of one file and the batch of that file alone, with one worker in each
stage, tell of the same sources that they are not parsed. Where the files have names of their own
and can be written once the folder is made, both come to the same. -/
theorem request_agrees_with_batch (e : Engine) (l : Limits) (s s₀ : Store) (path folder : String)
    (h : Loadable l s path) (hblank : isBlankText folder = false)
    (hfolder : s.makeFolders (folderJob e folder).folder = (s₀, none))
    (batch : Store × Except RunFault Report)
    (hfinishes : (folderJob e folder).Finishes {} s [path] batch) :
    ((∀ code files, s.readText path = .ok code → e.files code = .ok files →
        GoodFiles (folderJob e folder) s₀ files) →
      RequestAgrees (generateAndSave e l s (fileRequest path folder)) batch) ∧
    ((∃ error, (generateAndSave e l s (fileRequest path folder)).2 = .error (.error error) ∧
        error.code = .parseError) ↔
      ∃ f fault, batch.2 = .error (.stage f) ∧ f.stage = .generate ∧
        f.cause = .unparsed fault) := by
  rw [hfinishes.eq_run rfl hfolder]
  exact ⟨requestAgrees_run h hblank hfolder, unparsed_iff h hblank hfolder⟩

/-- A source of one class, and a folder that is not there yet. -/
theorem request_agrees_with_batch_of_one_class :
    RequestAgrees (generateAndSave {} {} (sampleStore false) (fileRequest "A.cs" "out"))
      ((folderJob {} "out").run (sampleStore false) ["A.cs"]) := by
  obtain ⟨f, hmade, hflawless⟩ := exists_sampleFile
  have hcode : ∀ made code, (sampleStore made).readText "A.cs" = .ok code →
      code = "public class A { }" := by
    intro made code hread
    have hsample : ((sampleStore made).readText "A.cs").toOption = some "public class A { }" := by
      simp only [Store.readText, Store.read, String.contains_char_eq]
      cases made
      all_goals decide +kernel
    rw [hread] at hsample
    exact Option.some.inj hsample
  have hfolder : (folderJob {} "out").folder = sampleJob.folder := by decide +kernel
  have hloadable : Loadable {} (sampleStore false) "A.cs" := by
    refine ⟨by decide +kernel, by decide +kernel, ⟨encode "public class A { }", ?_⟩,
      fun code hread => ?_⟩
    · simp only [Store.look, String.contains_char_eq]
      decide +kernel
    · rw [hcode false code hread]
      decide +kernel
  refine (request_agrees_with_batch {} {} _ (sampleStore true) "A.cs" "out" hloadable
    (by decide +kernel) ?_ _ .inTurn).1 fun code files hread hfiles => ?_
  · rw [hfolder]
    exact makeFolders_sampleStore
  · -- the files of the source are those of the sample, with or without the folder
    obtain rfl := hcode false code hread
    obtain ⟨code, files', hread', hfiles'⟩ := hflawless.sources "A.cs" (by simp)
    obtain rfl := hcode true code hread'
    obtain rfl : files' = files := Except.ok.inj (hfiles'.symm.trans hfiles)
    have hnames := hflawless.names
    have htargets := hflawless.targets
    rw [Job.filesOf_single hread' hfiles'] at hnames htargets
    refine ⟨hnames, fun g hg => ?_⟩
    rw [Job.target, hfolder]
    exact htargets g hg

end FixtureDraft.Service
