import FixtureDraft.Proofs.PathTexts
import FixtureDraft.Proofs.SavedFiles

/-!
# How requests end

A request for fixtures fails with an error and leaves the store as it was, or it is done with all
the files that were generated, whether they could be saved or not (`SavedInTurn`). It ends in
neither way for two kinds of paths only: the path of the source has a step that is too long
(`Overlong`), or the folder to save into has a NUL in its text (`request_ends`).
-/

namespace FixtureDraft.Files.Store

variable {s s' : Store} {p : Path} {content : Text.Bytes}

/-! ## Faults of paths -/

/-- A path is too long where a folder is left by a step that is. -/
lemma follow_nameTooLong_iff {place : List String} {steps : List String} :
    s.follow place steps = .error .nameTooLong ↔
      ∃ before step after q, steps = before ++ step :: after ∧ s.follow place before = .ok q ∧
        s.find? q = some .folder ∧ maxStep < step.utf8ByteSize := by
  constructor
  · intro h
    induction steps generalizing place with
    | nil => cases h
    | cons step steps ih =>
      unfold follow at h
      split at h
      · cases h
      · cases h
      · rename_i hfolder
        split at h
        · rename_i hlong
          exact ⟨[], step, steps, place, rfl, rfl, hfolder, hlong⟩
        · rename_i hshort
          obtain ⟨before, long, after, q, rfl, hbefore, hq⟩ := ih h
          refine ⟨step :: before, long, after, q, rfl, ?_, hq⟩
          exact follow_cons_ok.mpr ⟨hfolder, not_lt.mp hshort, hbefore⟩
  · rintro ⟨before, step, after, q, rfl, hbefore, hfolder, hlong⟩
    induction before generalizing place with
    | nil =>
      obtain rfl := Except.ok.inj hbefore
      rw [List.nil_append, follow, hfolder]
      exact if_pos hlong
    | cons first before ih =>
      obtain ⟨hplace, hshort, hrest⟩ := follow_cons_ok.mp hbefore
      rw [List.cons_append, follow, hplace]
      exact (if_neg (not_lt.mpr hshort)).trans (ih hrest)

/-- Where a path leads nowhere, something is missing, or no folder, or too long. -/
lemma follow_error {place : List String} {steps : List String} {why : Refusal}
    (h : s.follow place steps = .error why) :
    why = .notFound ∨ why = .notFolder ∨ why = .nameTooLong := by
  induction steps generalizing place with
  | nil => cases h
  | cons step steps ih =>
    unfold follow at h
    split at h
    · exact Or.inl (Except.error.inj h).symm
    · exact Or.inr (Or.inl (Except.error.inj h).symm)
    · split at h
      · exact Or.inr (Or.inr (Except.error.inj h).symm)
      · exact ih h

/-- One can look everywhere but where a step is too long. -/
lemma look_eq_error_iff {fault : PathFault} : s.look p = .error fault ↔
    p.text.contains '\x00' = false ∧ s.place p = .error .nameTooLong ∧
      fault = .refused .nameTooLong p.text := by
  unfold look
  by_cases hnul : p.text.contains '\x00' = true
  · simp [hnul]
  · cases hplace : s.place p with
    | ok place => simp [hnul]
    | error why =>
      rcases follow_error hplace with rfl | rfl | rfl
      · simp [hnul]
      · simp [hnul]
      · simp [hnul, eq_comm]

/-- A file whose path has no NUL is written, or refused. -/
lemma write_ne_nulByte (hnul : ∀ step ∈ p.steps, '\x00' ∉ step.toList) :
    s.write p content ≠ .error .nulByte := by
  unfold write
  rw [if_neg (by simp [contains_nul_text hnul])]
  split
  · simp
  · split
    all_goals simp

/-- The folders around a folder are made only if that is not found. -/
lemma makeFolders_of_fault {fault : PathFault} (hfault : s.makeFolder p = .error fault)
    (hfound : ∀ path, fault ≠ .refused .notFound path) :
    s.makeFolders p = s.unlessFolder p fault := by
  have hback : (⟨p.slashes, p.steps.reverse.reverse⟩ : Path) = p := by
    rw [List.reverse_reverse]
  rw [makeFolders, makeFoldersBack.eq_def]
  -- the branch for what is not found is ruled out by `hfound`
  simp only [hback, hfault]

/-- No folder is made whose path has a NUL. -/
lemma makeFolders_of_nul (hnul : p.text.contains '\x00' = true) :
    s.makeFolders p = (s, some .nulByte) := by
  have hfault : s.makeFolder p = .error .nulByte := by
    unfold makeFolder
    rw [if_pos hnul]
  exact makeFolders_of_fault hfault (by simp)

end FixtureDraft.Files.Store

namespace FixtureDraft.Service

open FixtureDraft.Batch
open FixtureDraft.Files
open FixtureDraft.Text

/-! ## Loading -/

/-- The path of a source is too long: its extension is known, so that one looks for it, and on the
way a folder is left by a step that is too long. -/
structure Overlong (l : Limits) (s : Store) (file : String) : Prop where
  named : file ≠ ""
  suffix : (Path.ofText file).suffix ∈ l.extensions
  noNul : (Path.ofText file).text.contains '\x00' = false
  step : ∃ before step after place, (Path.ofText file).steps = before ++ step :: after ∧
    s.follow (s.origin (Path.ofText file).rooted) before = .ok place ∧
    s.find? place = some .folder ∧ Store.maxStep < step.utf8ByteSize

section Load

variable {l : Limits} {s : Store} {code file : Option String} {fault : PathFault}

lemma checkSize_ne_path (what : String) (loaded : LoadedCode) :
    l.checkSize what loaded ≠ .error (.path fault) := by
  unfold Limits.checkSize Limits.refuse
  simp only
  split <;> simp

/-- A path that is looked for ends the loading if one cannot look there. -/
lemma validatePath_eq_path_iff {path : String} : l.validatePath s path = .error (.path fault) ↔
    (Path.ofText path).suffix ∈ l.extensions ∧ s.look (.ofText path) = .error fault := by
  unfold Limits.validatePath
  by_cases hsuffix : (Path.ofText path).suffix ∈ l.extensions
  · cases hlook : s.look (.ofText path) with
    | error fault' => simp [hsuffix, hlook, throw, throwThe, MonadExceptOf.throw, eq_comm]
    | ok entry =>
      cases entry with
      | none => simp [hsuffix, hlook, Limits.refuse]
      | some entry => cases entry <;> simp [hsuffix, hlook, Limits.refuse, pure, Except.pure]
  · simp [hsuffix, throw, throwThe, MonadExceptOf.throw, bind, Except.bind]

lemma loadFile_eq_path_iff {path : String} : l.loadFile s path = .error (.path fault) ↔
    l.validatePath s path = .error (.path fault) := by
  unfold Limits.loadFile
  cases hpath : l.validatePath s path with
  | error e => simp [bind, Except.bind]
  | ok p =>
    cases hread : s.readText p.text with
    | error e => simp [bind, Except.bind, hread, Limits.refuse]
    | ok content => simp [bind, Except.bind, hread, checkSize_ne_path]

lemma overlong_iff {path : String} : Overlong l s path ↔
    path ≠ "" ∧ ∃ fault, l.loadFile s path = .error (.path fault) := by
  simp only [loadFile_eq_path_iff, validatePath_eq_path_iff, Store.look_eq_error_iff]
  constructor
  · intro h
    exact ⟨h.named, _, h.suffix, h.noNul, Store.follow_nameTooLong_iff.mpr h.step, rfl⟩
  · rintro ⟨hnamed, fault, hsuffix, hnul, hplace, -⟩
    exact ⟨hnamed, hsuffix, hnul, Store.follow_nameTooLong_iff.mp hplace⟩

/-- The loading ends without an outcome exactly for a path that is too long. -/
lemma load_path_iff : (∃ fault, l.load s code file = .error (.path fault)) ↔
    ∃ path, file = some path ∧ Overlong l s path := by
  have hcode : ∀ fault, l.load s code none ≠ .error (.path fault) := by
    intro fault
    cases code with
    | none => simp [Limits.load, Limits.refuse]
    | some code => simp [Limits.load, checkSize_ne_path]
  cases file with
  | none => simp [hcode]
  | some path =>
    by_cases hpath : path = ""
    · subst hpath
      have hnone : l.load s code (some "") = l.load s code none := rfl
      simp [hnone, hcode, overlong_iff]
    · have hsome : l.load s code (some path) = l.loadFile s path := by
        simp [Limits.load, Option.filter, hpath]
      simp [hsome, overlong_iff, hpath]

end Load

/-! ## Saving -/

/-- Saving files in turn turns the store `s` into `s'`. Each file is tried, whatever became of those
before it; its path is noted if it is saved, and a warning tells why if it is refused. -/
inductive SavedInTurn (folder : Path) : List FixtureFile → Store → Store → Saving → Prop
  | nil {s} : SavedInTurn folder [] s s {}
  | saved {f fs s s₁ s' saving} (hsave : saveText s (saveTarget folder f) f.code = (s₁, none))
    (hrest : SavedInTurn folder fs s₁ s' saving) :
    SavedInTurn folder (f :: fs) s s'
      { saving with savedTo := (saveTarget folder f).text :: saving.savedTo }
  | refused {f fs s s₁ s' saving why path}
    (hsave : saveText s (saveTarget folder f) f.code = (s₁, some (.refused why path)))
    (hrest : SavedInTurn folder fs s₁ s' saving) :
    SavedInTurn folder (f :: fs) s s' { saving with
      warnings := ("Could not save to file: Failed to save file: "
        ++ (PathFault.refused why path).message) :: saving.warnings }

section Save

variable {folder : Path} {files : List FixtureFile} {f : FixtureFile} {s : Store}

/-- A text is saved or refused where no step of the path has a NUL. -/
lemma saveText_ne_nulByte {target : Path} {text : String}
    (hnul : ∀ step ∈ target.steps, '\x00' ∉ step.toList) :
    (saveText s target text).2 ≠ some .nulByte := by
  have hparent : ∀ step ∈ target.parent.steps, '\x00' ∉ step.toList := fun step hstep =>
    hnul step (List.mem_of_mem_dropLast hstep)
  have hfolders := s.makeFolders_ne_nulByte_of_steps hparent
  unfold saveText
  split
  · rename_i s₁ fault heq
    rw [heq] at hfolders
    exact hfolders
  · rename_i s₁ heq
    split
    · simp
    · rename_i fault hwrite
      intro hfault
      obtain rfl := Option.some.inj hfault
      exact Store.write_ne_nulByte hnul hwrite

/-- The steps of a target are those of the folder and of the name. -/
lemma noNul_saveTarget {text : String} (hfolder : '\x00' ∉ text.toList)
    (hname : '\x00' ∉ f.qualifiedName.toList) :
    ∀ step ∈ (saveTarget (.ofText text) f).steps, '\x00' ∉ step.toList := by
  have hfile : '\x00' ∉ (f.qualifiedName ++ ".cs").toList := by
    rw [String.toList_append, List.mem_append]
    rintro (hmem | hmem)
    · exact hname hmem
    · exact absurd hmem (by decide)
  intro step hstep hmem
  unfold saveTarget Path.join at hstep
  split at hstep
  · exact hfile ((Path.mem_ofText hstep).2.2 hmem)
  · rcases List.mem_append.mp hstep with hstep | hstep
    · exact hfolder ((Path.mem_ofText hstep).2.2 hmem)
    · exact hfile ((Path.mem_ofText hstep).2.2 hmem)

/-- All files are tried in turn where no target has a NUL. -/
lemma saveAll_inTurn (hnul : ∀ f ∈ files, ∀ step ∈ (saveTarget folder f).steps,
    '\x00' ∉ step.toList) :
    ∃ s' saving, saveAll folder files s = (s', .ok saving) ∧
      SavedInTurn folder files s s' saving := by
  induction files generalizing s with
  | nil => exact ⟨s, {}, rfl, .nil⟩
  | cons f fs ih =>
    have hrest := fun s₁ => ih (s := s₁) fun g hg => hnul g (List.mem_cons_of_mem _ hg)
    cases hsave : saveText s (saveTarget folder f) f.code with
    | mk s₁ fault? =>
      obtain ⟨s', saving, hall, hturn⟩ := hrest s₁
      cases fault? with
      | none =>
        refine ⟨s', _, ?_, .saved hsave hturn⟩
        rw [saveAll_cons_saved hsave, hall]
        rfl
      | some fault =>
        cases fault with
        | nulByte =>
          have hne : (saveText s (saveTarget folder f) f.code).2 ≠ some .nulByte :=
            saveText_ne_nulByte (hnul f List.mem_cons_self)
          rw [hsave] at hne
          exact absurd rfl hne
        | refused why path =>
          refine ⟨s', _, ?_, .refused hsave hturn⟩
          unfold saveTarget at hsave
          rw [saveAll, hsave]
          simp only [hall]
          rfl

/-- A target is below the folder, unless the name of the file begins at the root. -/
lemma mem_steps_parent_saveTarget (hname : f.qualifiedName.toList.head? ≠ some '/') {step : String}
    (hstep : step ∈ folder.steps) : step ∈ (saveTarget folder f).parent.steps := by
  have hrooted : (Path.ofText (f.qualifiedName ++ ".cs")).rooted = false := by
    have hhead : ((f.qualifiedName ++ ".cs").toList.takeWhile (· == '/')) = [] := by
      rw [String.toList_append]
      cases hchars : f.qualifiedName.toList with
      | nil => rfl
      | cons c cs =>
        rw [hchars] at hname
        exact List.takeWhile_cons_of_neg (by simpa using hname)
    unfold Path.rooted Path.ofText Path.rootSlashes
    simp only [hhead]
    rfl
  have hsteps : (Path.ofText (f.qualifiedName ++ ".cs")).steps ≠ [] := by
    have hmem : 'c' ∈ (f.qualifiedName ++ ".cs").toList := by
      rw [String.toList_append]
      exact List.mem_append_right _ (by decide)
    obtain ⟨last, hlast, -⟩ := Path.exists_of_mem hmem (by decide) (by decide)
    exact List.ne_nil_of_mem hlast
  unfold saveTarget Path.join Path.parent
  rw [if_neg (by simp [hrooted]), List.dropLast_append_of_ne_nil hsteps]
  exact List.mem_append_left _ hstep

/-- Nothing is saved into a folder whose text has a NUL, and the saving ends at once. -/
lemma saveAll_of_nul {text : String} (hnul : '\x00' ∈ text.toList)
    (hname : f.qualifiedName.toList.head? ≠ some '/') (fs : List FixtureFile) :
    saveAll (.ofText text) (f :: fs) s = (s, .error .nulByte) := by
  have hcontains : (saveTarget (.ofText text) f).parent.text.contains '\x00' = true := by
    rw [String.contains_char_eq, decide_eq_true_iff]
    obtain ⟨step, hstep, hmem⟩ := Path.exists_of_mem hnul (by decide) (by decide)
    exact Path.mem_text_of_mem (mem_steps_parent_saveTarget hname hstep) hmem
  have hsave : saveText s (saveTarget (.ofText text) f) f.code = (s, some .nulByte) := by
    unfold saveText
    rw [Store.makeFolders_of_nul hcontains]
  unfold saveTarget at hsave
  rw [saveAll, hsave]

end Save

/-! ## Requests -/

/-- The request fails with the error `err`, for its source is not loaded or not parsed. -/
def FailsWith (e : Engine) (l : Limits) (s : Store) (r : GenerationRequest) (err : ServiceError) :
    Prop :=
  (∃ cause, l.load s r.code r.file = .error (.error cause) ∧ err = loadError cause) ∨
    ∃ loaded fault, l.load s r.code r.file = .ok loaded ∧ e.files loaded.content = .error fault ∧
      err = parseError fault

/-- What saving into the folder of a request does. Without a folder nothing is saved. -/
def SavedInto (folder? : Option String) (files : List FixtureFile) (s s' : Store)
    (saving : Saving) : Prop :=
  match folder?.filter (· != "") with
  | none => s' = s ∧ saving = {}
  | some folder => SavedInTurn (.ofText folder) files s s' saving

/-- The warnings of a request before anything is saved. -/
def emptyWarnings (files : List FixtureFile) : List String :=
  if files.isEmpty then ["No public classes found"] else []

/-- The request is done with all the files that were generated, and has tried to save them. -/
structure DoneWith (s s' : Store) (r : GenerationRequest) (loaded : LoadedCode)
    (generated : List FixtureFile) (g : Generated) : Prop where
  files : g.files = generated
  sourcePath : g.sourcePath = loaded.sourcePath
  saving : ∃ saving, SavedInto r.folder generated s s' saving ∧ g.savedTo = saving.savedTo ∧
    g.warnings = emptyWarnings generated ++ saving.warnings

section Request

variable {e : Engine} {l : Limits} {s s' : Store} {r : GenerationRequest} {loaded : LoadedCode}
  {files : List FixtureFile}

/-- A request whose source is refused changes nothing. -/
lemma generateAndSave_of_refused {cause : ServiceError}
    (hload : l.load s r.code r.file = .error (.error cause)) :
    generateAndSave e l s r = (s, .error (.error (loadError cause))) := by
  simp only [generateAndSave, generate, hload]

/-- A request whose source has a path that cannot be used ends without an outcome. -/
lemma generateAndSave_of_path {fault : PathFault}
    (hload : l.load s r.code r.file = .error (.path fault)) :
    generateAndSave e l s r = (s, .error (.path fault)) := by
  simp only [generateAndSave, generate, hload]

/-- A request whose source is not parsed changes nothing. -/
lemma generateAndSave_of_unparsed {fault : SourceFault}
    (hload : l.load s r.code r.file = .ok loaded) (hfiles : e.files loaded.content = .error fault) :
    generateAndSave e l s r = (s, .error (.error (parseError fault))) := by
  simp only [generateAndSave, generate, hload, hfiles]

/-- A request without a folder is done with the files that were generated. -/
lemma generateAndSave_of_noFolder (hload : l.load s r.code r.file = .ok loaded)
    (hfiles : e.files loaded.content = .ok files) (hfolder : r.folder.filter (· != "") = none) :
    generateAndSave e l s r
      = (s, .ok { files, sourcePath := loaded.sourcePath, warnings := emptyWarnings files }) := by
  simp only [generateAndSave, generate, hload, hfiles, hfolder, emptyWarnings]

/-- A request with a folder saves the files that were generated. -/
lemma generateAndSave_of_folder {folder : String} (hload : l.load s r.code r.file = .ok loaded)
    (hfiles : e.files loaded.content = .ok files)
    (hfolder : r.folder.filter (· != "") = some folder) :
    generateAndSave e l s r = ((saveAll (.ofText folder) files s).1,
      ((saveAll (.ofText folder) files s).2.mapError LoadFault.path).map fun saving =>
        { files
          sourcePath := loaded.sourcePath
          savedTo := saving.savedTo
          warnings := emptyWarnings files ++ saving.warnings }) := by
  simp only [generateAndSave, generate, hload, hfiles, hfolder, emptyWarnings]
  cases saveAll (.ofText folder) files s with
  | mk s₁ result => cases result <;> rfl

/-- A request fails exactly if its source is not loaded or not parsed. -/
lemma fails_iff {err : ServiceError} : generateAndSave e l s r = (s', .error (.error err)) ↔
    s' = s ∧ FailsWith e l s r err := by
  unfold FailsWith
  cases hload : l.load s r.code r.file with
  | error fault =>
    cases fault with
    | error cause =>
      rw [generateAndSave_of_refused hload]
      simp [eq_comm]
    | path fault =>
      rw [generateAndSave_of_path hload]
      simp
  | ok loaded =>
    cases hfiles : e.files loaded.content with
    | error fault =>
      rw [generateAndSave_of_unparsed hload hfiles]
      simp [hfiles, eq_comm]
    | ok files =>
      refine iff_of_false (fun hfails => ?_) (by simp [hfiles])
      cases hfolder : r.folder.filter (· != "") with
      | none =>
        rw [generateAndSave_of_noFolder hload hfiles hfolder] at hfails
        cases (Prod.mk.inj hfails).2
      | some folder =>
        rw [generateAndSave_of_folder hload hfiles hfolder] at hfails
        have hresult := (Prod.mk.inj hfails).2
        cases hsave : (saveAll (.ofText folder) files s).2 with
        | error fault =>
          rw [hsave] at hresult
          cases hresult
        | ok saving =>
          rw [hsave] at hresult
          cases hresult

/-- A request is done with all its files, and each is tried in turn, if no NUL is in the way. -/
lemma done_of_files (hload : l.load s r.code r.file = .ok loaded)
    (hfiles : e.files loaded.content = .ok files)
    (hnames : ∀ f ∈ files, '\x00' ∉ f.qualifiedName.toList)
    (hnul : ∀ folder, r.folder = some folder → '\x00' ∉ folder.toList) :
    ∃ s' g, generateAndSave e l s r = (s', .ok g) ∧ DoneWith s s' r loaded files g := by
  cases hfolder : r.folder.filter (· != "") with
  | none =>
    refine ⟨s, _, generateAndSave_of_noFolder hload hfiles hfolder, rfl, rfl, {}, ?_, rfl, ?_⟩
    · unfold SavedInto
      rw [hfolder]
      exact ⟨rfl, rfl⟩
    · exact (List.append_nil _).symm
  | some folder =>
    have hgiven : r.folder = some folder := (Option.filter_eq_some_iff.mp hfolder).1
    obtain ⟨s', saving, hsave, hturn⟩ := saveAll_inTurn (s := s) fun f hf =>
      noNul_saveTarget (hnul folder hgiven) (hnames f hf)
    have hdone := generateAndSave_of_folder hload hfiles hfolder
    rw [hsave] at hdone
    refine ⟨s', _, hdone, rfl, rfl, saving, ?_, rfl, rfl⟩
    unfold SavedInto
    rw [hfolder]
    exact hturn

/-- A request ends without an outcome exactly if the path of its source is too long, or if the
folder to save its files into has a NUL. -/
lemma endsWithout_iff (hnames : ∀ loaded files, l.load s r.code r.file = .ok loaded →
      e.files loaded.content = .ok files →
      ∀ f ∈ files, '\x00' ∉ f.qualifiedName.toList ∧ f.qualifiedName.toList.head? ≠ some '/') :
    (∃ fault, generateAndSave e l s r = (s', .error (.path fault))) ↔
      s' = s ∧ ((∃ path, r.file = some path ∧ Overlong l s path) ∨
        ∃ folder loaded files, r.folder = some folder ∧ '\x00' ∈ folder.toList ∧
          l.load s r.code r.file = .ok loaded ∧ e.files loaded.content = .ok files ∧
          files ≠ []) := by
  rw [← @load_path_iff l s r.code r.file]
  cases hload : l.load s r.code r.file with
  | error fault =>
    cases fault with
    | error cause =>
      rw [generateAndSave_of_refused hload]
      simp
    | path fault =>
      rw [generateAndSave_of_path hload]
      simp [eq_comm]
  | ok loaded =>
    cases hfiles : e.files loaded.content with
    | error fault =>
      rw [generateAndSave_of_unparsed hload hfiles]
      simp [hfiles]
    | ok files =>
      have hplain := hnames loaded files hload hfiles
      by_cases hnul : ∃ folder, r.folder = some folder ∧ '\x00' ∈ folder.toList
      · obtain ⟨folder, hfolder, hmem⟩ := hnul
        have hnamed : folder ≠ "" := by
          rintro rfl
          cases hmem
        have hfilter : r.folder.filter (· != "") = some folder := by
          simp [hfolder, Option.filter, hnamed]
        rw [generateAndSave_of_folder hload hfiles hfilter]
        cases files with
        | nil =>
          refine iff_of_false ?_ (by simp [hfiles])
          rintro ⟨fault, hends⟩
          cases (Prod.mk.inj hends).2
        | cons f fs =>
          rw [saveAll_of_nul hmem (hplain f List.mem_cons_self).2]
          simp [hfolder, hmem, hfiles, Except.mapError, Except.map, eq_comm]
      · have hfree : ∀ folder, r.folder = some folder → '\x00' ∉ folder.toList :=
          fun folder hfolder hmem => hnul ⟨folder, hfolder, hmem⟩
        obtain ⟨s₁, g, hdone, -⟩ := done_of_files hload hfiles (fun f hf => (hplain f hf).1) hfree
        rw [hdone]
        refine iff_of_false (by simp) ?_
        rintro ⟨-, ⟨fault, hpath⟩ | ⟨folder, -, -, hfolder, hmem, -⟩⟩
        · cases hpath
        · exact hfree folder hfolder hmem

end Request

/-- How a request ends. It fails exactly if its source is not loaded or not parsed, and then the
store is as it was. If the files are generated the request is done with exactly these, whatever
becomes of saving them. It ends without an outcome, and again changes nothing, exactly if the path
of the source is too long or if there are files to save and the folder has a NUL in its text. -/
theorem request_ends (e : Engine) (l : Limits) (s : Store) (r : GenerationRequest) :
    (∀ s' err, generateAndSave e l s r = (s', .error (.error err)) ↔
      s' = s ∧ FailsWith e l s r err) ∧
    (∀ loaded files, l.load s r.code r.file = .ok loaded → e.files loaded.content = .ok files →
      (∀ f ∈ files, '\x00' ∉ f.qualifiedName.toList) →
      (∀ folder, r.folder = some folder → '\x00' ∉ folder.toList) →
      ∃ s' g, generateAndSave e l s r = (s', .ok g) ∧ DoneWith s s' r loaded files g) ∧
    ((∀ loaded files, l.load s r.code r.file = .ok loaded → e.files loaded.content = .ok files →
      ∀ f ∈ files, '\x00' ∉ f.qualifiedName.toList ∧ f.qualifiedName.toList.head? ≠ some '/') →
      ∀ s', (∃ fault, generateAndSave e l s r = (s', .error (.path fault))) ↔
        s' = s ∧ ((∃ path, r.file = some path ∧ Overlong l s path) ∨
          ∃ folder loaded files, r.folder = some folder ∧ '\x00' ∈ folder.toList ∧
            l.load s r.code r.file = .ok loaded ∧ e.files loaded.content = .ok files ∧
            files ≠ [])) := by
  refine ⟨fun s' err => fails_iff, fun loaded files hload hfiles hnames hnul => ?_,
    fun hnames s' => endsWithout_iff hnames⟩
  exact done_of_files hload hfiles hnames hnul

/-! Requests for the fixture of one class: into a folder that is a file, so that it is not saved,
and into a folder whose text has a NUL. -/

/-- A store with a file `o`. -/
def blockedStore : Store := { entries := [(["o"], .file [])] }

/-- A request for the fixture of a class, to be saved into a folder. -/
def classRequest (folder : String) : GenerationRequest where
  code := some "public class A { }"
  folder := some folder

lemma load_classRequest (s : Store) (folder : String) :
    ({} : Limits).load s (classRequest folder).code (classRequest folder).file
      = .ok { content := "public class A { }" } := by
  rfl

lemma files_classRequest : ∃ f, ({} : Engine).files "public class A { }" = .ok [f] ∧
    f.qualifiedName = "ATests" := by
  have hnames : (({} : Engine).files "public class A { }").toOption.map
      (List.map FixtureFile.qualifiedName) = some ["ATests"] := by
    decide +kernel
  cases hfiles : ({} : Engine).files "public class A { }" with
  | error fault => simp [hfiles, Except.toOption] at hnames
  | ok files =>
    rw [hfiles] at hnames
    obtain ⟨f, fs, rfl, hname, hfs⟩ := List.map_eq_cons_iff.mp (Option.some.inj hnames)
    obtain rfl := List.map_eq_nil_iff.mp hfs
    exact ⟨f, rfl, hname⟩

/-- Where the folder is a file, the fixture is not saved. -/
lemma saveText_blockedStore {f : FixtureFile} (hname : f.qualifiedName = "ATests") :
    saveText blockedStore (saveTarget (.ofText "o") f) f.code
      = (blockedStore, some (.refused .alreadyThere "o")) := by
  have htarget : saveTarget (.ofText "o") f = ⟨0, ["o", "ATests.cs"]⟩ := by
    rw [saveTarget, hname]
    decide +kernel
  have hfolders : blockedStore.makeFolders ⟨0, ["o"]⟩
      = (blockedStore, some (.refused .alreadyThere "o")) := by
    have hfault : blockedStore.makeFolder ⟨0, ["o"]⟩ = .error (.refused .alreadyThere "o") := by
      simp only [Store.makeFolder, String.contains_char_eq]
      rfl
    have hblocked : blockedStore.isFolder ⟨0, ["o"]⟩ = false := by
      simp only [Store.isFolder, Store.look, String.contains_char_eq]
      rfl
    rw [Store.makeFolders_of_fault hfault (by simp)]
    exact if_neg (by simp [hblocked])
  have hparent : (⟨0, ["o", "ATests.cs"]⟩ : Files.Path).parent = ⟨0, ["o"]⟩ := rfl
  unfold saveText
  rw [htarget, hparent, hfolders]

/-- A request whose fixture cannot be saved is done with a warning; one with a NUL in its folder
ends without an outcome; one without a source fails. -/
theorem classRequests_end :
    (∃ g, generateAndSave {} {} blockedStore (classRequest "o") = (blockedStore, .ok g) ∧
      g.files.map FixtureFile.qualifiedName = ["ATests"] ∧ g.savedTo = [] ∧
      g.warnings = ["Could not save to file: Failed to save file: [Errno 17] File exists: 'o'"]) ∧
    (∃ fault, generateAndSave {} {} blockedStore (classRequest "o\x00")
      = (blockedStore, .error (.path fault))) ∧
    ∃ err, generateAndSave {} {} blockedStore {} = (blockedStore, .error (.error err)) := by
  obtain ⟨f, hfiles, hname⟩ := files_classRequest
  have hplain : ∀ g ∈ [f],
      '\x00' ∉ g.qualifiedName.toList ∧ g.qualifiedName.toList.head? ≠ some '/' := by
    intro g hg
    rw [List.mem_singleton.mp hg, hname]
    decide
  refine ⟨?_, ?_, ?_⟩
  · obtain ⟨s', g, hdone, hgfiles, -, saving, hsaved, hsavedTo, hwarnings⟩ :=
      (request_ends {} {} blockedStore (classRequest "o")).2.1 _ [f]
        (load_classRequest blockedStore "o") hfiles (fun g hg => (hplain g hg).1)
        (by simp [classRequest])
    change SavedInTurn (.ofText "o") [f] blockedStore s' saving at hsaved
    cases hsaved with
    | saved hsave hrest =>
      rw [saveText_blockedStore hname] at hsave
      cases hsave
    | refused hsave hrest =>
      rw [saveText_blockedStore hname] at hsave
      cases hsave
      cases hrest
      have hmessage : "Could not save to file: Failed to save file: "
          ++ (PathFault.refused .alreadyThere "o").message
            = "Could not save to file: Failed to save file: [Errno 17] File exists: 'o'" := by
        decide +kernel
      rw [hmessage] at hwarnings
      exact ⟨g, hdone, by simp [hgfiles, hname], hsavedTo, hwarnings⟩
  · refine ((request_ends {} {} blockedStore (classRequest "o\x00")).2.2 ?_ blockedStore).mpr
      ⟨rfl, Or.inr ⟨_, _, [f], rfl, by decide, load_classRequest _ _, hfiles, by simp⟩⟩
    intro loaded files hload hloaded
    rw [load_classRequest] at hload
    obtain rfl := Except.ok.inj hload
    rw [hfiles] at hloaded
    obtain rfl := Except.ok.inj hloaded
    exact hplain
  · exact ⟨_, ((request_ends {} {} blockedStore {}).1 blockedStore _).mpr
      ⟨rfl, Or.inl ⟨_, rfl, rfl⟩⟩⟩

/-- Not every request is done or fails: one with a file to save ends without an outcome if there is
a NUL in the text of the folder. -/
theorem not_forall_request_done_or_failed : ¬ ∀ (e : Engine) (l : Limits) (s : Store)
    (r : GenerationRequest), ∃ s',
      (∃ g, generateAndSave e l s r = (s', .ok g)) ∨
        ∃ err, generateAndSave e l s r = (s', .error (.error err)) := by
  intro hall
  obtain ⟨f, hfiles, hname⟩ := files_classRequest
  have hslash : f.qualifiedName.toList.head? ≠ some '/' := by
    rw [hname]
    decide
  have hfolder : (classRequest "o\x00").folder.filter (· != "") = some "o\x00" := rfl
  have hends := generateAndSave_of_folder (load_classRequest blockedStore "o\x00") hfiles hfolder
  rw [saveAll_of_nul (by decide) hslash] at hends
  obtain ⟨s', ⟨g, hdone⟩ | ⟨err, hfails⟩⟩ := hall {} {} blockedStore (classRequest "o\x00")
  · rw [hends] at hdone
    cases (Prod.mk.inj hdone).2
  · rw [hends] at hfails
    cases (Prod.mk.inj hfails).2

end FixtureDraft.Service
