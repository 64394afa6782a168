import FixtureDraft.Proofs.Folders
import FixtureDraft.Proofs.Targets
import FixtureDraft.Service.Generation

/-!
# Files that a request has saved

A request saves its files one after another and says of each that it is saved, or warns that it is
not. `Saves` says what this makes of the store. A file that was saved is on disk afterwards unless
a later one was written at its place, so that nothing is lost among files of different names
(`Saves.onDisk`). A request does not ask whether two of its files have one name, and then saves one
over the other (`saveAll_pair`).
-/

namespace FixtureDraft.Service

open FixtureDraft.Batch
open FixtureDraft.Data
open FixtureDraft.Files
open FixtureDraft.Text

/-- Where a file is saved. -/
def saveTarget (folder : Path) (f : FixtureFile) : Path :=
  folder.join (.ofText (f.qualifiedName ++ ".cs"))

/-- The beginning of a warning that a file was not saved. -/
def unsavedMark : String := "Could not save to file"

/-- Whether a warning says that a file was not saved. -/
def isUnsavedWarning (warning : String) : Bool :=
  unsavedMark.toList.isPrefixOf warning.toList

/-- Saving files in turn turns the store `s` into `s'` and notes the paths and the warnings. Before
a file is written folders may be made; a file that is not saved gets a warning. -/
inductive Saves (folder : Path) : List FixtureFile → Store → Store → Saving → Prop
  | nil {s} : Saves folder [] s s {}
  | saved {f fs s s₁ s₂ s' saving} (hfolders : s.Grows s₁)
    (hwrite : s₁.write (saveTarget folder f) (encode f.code) = .ok s₂)
    (hrest : Saves folder fs s₂ s' saving) :
    Saves folder (f :: fs) s s'
      { saving with savedTo := (saveTarget folder f).text :: saving.savedTo }
  | unsaved {f fs s s₁ s' saving warning} (hfolders : s.Grows s₁)
    (hwarning : isUnsavedWarning warning = true) (hrest : Saves folder fs s₁ s' saving) :
    Saves folder (f :: fs) s s' { saving with warnings := warning :: saving.warnings }

variable {folder : Path} {files : List FixtureFile} {s s' : Store} {saving : Saving}

/-! ## Saving one file -/

/-- A text is saved by writing it behind the making of folders; otherwise nothing is taken away. -/
lemma saveText_cases (s : Store) (target : Path) (text : String) :
    (∃ s₁ s₂, s.Grows s₁ ∧ s₁.write target (encode text) = .ok s₂
        ∧ saveText s target text = (s₂, none)) ∨
      ∃ s₁ fault, s.Grows s₁ ∧ saveText s target text = (s₁, some fault) := by
  have hgrows := Store.grows_makeFolders s target.parent
  unfold saveText
  split
  case h_1 s₁ fault heq =>
    rw [heq] at hgrows
    exact Or.inr ⟨s₁, fault, hgrows, rfl⟩
  case h_2 s₁ heq =>
    rw [heq] at hgrows
    cases hwrite : s₁.write target (encode text) with
    | ok s₂ => exact Or.inl ⟨s₁, s₂, hgrows, hwrite, rfl⟩
    | error fault => exact Or.inr ⟨s₁, fault, hgrows, rfl⟩

/-- Nothing is in the way of saving a file at a place: the folder around it is there, its path
can be written, and no folder stands at its place. -/
structure Savable (folder : Path) (s : Store) (f : FixtureFile) (place : List String) :
    Prop where
  around : s.isFolder (saveTarget folder f).parent = true
  noNul : (saveTarget folder f).text.contains '\x00' = false
  leads : s.place (saveTarget folder f) = .ok place
  free : s.find? place ≠ some .folder

namespace Savable

variable {f : FixtureFile} {place : List String}

/-- Whether something is in the way depends on the folders only. -/
lemma sameFolders (h : Savable folder s f place) (hsame : Store.SameFolders s s') :
    Savable folder s' f place where
  around := hsame.keeps.isFolder h.around
  noNul := h.noNul
  leads := (hsame.place_ok_iff _ _).mpr h.leads
  free := fun hfolder => h.free ((hsame.folder_iff place).mp hfolder)

/-- A file is saved where nothing is in the way. -/
lemma saveText_eq (h : Savable folder s f place) :
    ∃ s', s.write (saveTarget folder f) (encode f.code) = .ok s' ∧
      saveText s (saveTarget folder f) f.code = (s', none) := by
  have hwrite : s.write (saveTarget folder f) (encode f.code)
      = .ok (s.put place (.file (encode f.code))) := by
    rw [Store.write_of_place h.noNul h.leads, if_neg h.free]
  refine ⟨_, hwrite, ?_⟩
  rw [saveText, Store.makeFolders_of_isFolder h.around]
  simp only [hwrite]

end Savable

/-! ## Saving files in turn -/

lemma isUnsavedWarning_append (text : String) :
    isUnsavedWarning s!"Could not save to file: Failed to save file: {text}" = true := by
  have hmark : "Could not save to file: Failed to save file: "
      = unsavedMark ++ ": Failed to save file: " := by decide
  rw [isUnsavedWarning, List.isPrefixOf_iff_prefix]
  show unsavedMark.toList <+: ("Could not save to file: Failed to save file: " ++ text).toList
  rw [hmark, String.append_assoc, String.toList_append]
  exact List.prefix_append _ _

/-- A file that is saved is noted, and the rest is saved after it. -/
lemma saveAll_cons_saved {f : FixtureFile} {fs : List FixtureFile}
    (hsave : saveText s (saveTarget folder f) f.code = (s', none)) :
    saveAll folder (f :: fs) s = ((saveAll folder fs s').1,
      (saveAll folder fs s').2.map fun rest =>
        { rest with savedTo := (saveTarget folder f).text :: rest.savedTo }) := by
  rw [saveTarget] at hsave ⊢
  rw [saveAll, hsave]

/-- Of a file that is refused a warning is noted, and the rest is saved all the same. -/
lemma saveAll_cons_refused {f : FixtureFile} (fs : List FixtureFile) {why : Refusal} {path : String}
    (hsave : saveText s (saveTarget folder f) f.code = (s', some (.refused why path))) :
    ∃ warning, isUnsavedWarning warning = true ∧
      saveAll folder (f :: fs) s = ((saveAll folder fs s').1,
        (saveAll folder fs s').2.map fun rest =>
          { rest with warnings := warning :: rest.warnings }) := by
  refine ⟨_, isUnsavedWarning_append (PathFault.refused why path).message, ?_⟩
  rw [saveTarget] at hsave
  rw [saveAll, hsave]

/-- The rest of the files is saved before what became of the first one is added. -/
private lemma eq_of_map_eq_ok {x : Store × Except PathFault Saving} {note : Saving → Saving}
    (h : (x.1, x.2.map note) = (s', .ok saving)) :
    ∃ rest, x = (s', .ok rest) ∧ saving = note rest := by
  obtain ⟨after, result⟩ := x
  obtain ⟨rfl, hresult⟩ := Prod.mk.inj h
  cases result with
  | error fault => cases hresult
  | ok rest => exact ⟨rest, rfl, (Except.ok.inj hresult).symm⟩

/-- What `saveAll` does if it comes to its end. -/
lemma saves_of_saveAll (h : saveAll folder files s = (s', .ok saving)) :
    Saves folder files s s' saving := by
  induction files generalizing s saving with
  | nil =>
    obtain ⟨rfl, hsaving⟩ := Prod.mk.inj h
    obtain rfl := Except.ok.inj hsaving
    exact .nil
  | cons f fs ih =>
    rcases saveText_cases s (saveTarget folder f) f.code with
      ⟨s₁, s₂, hgrows, hwrite, htext⟩ | ⟨s₁, fault, hgrows, htext⟩
    · rw [saveAll_cons_saved htext] at h
      obtain ⟨rest, hrest, rfl⟩ := eq_of_map_eq_ok h
      exact .saved hgrows hwrite (ih hrest)
    · cases fault with
      | nulByte =>
        rw [saveTarget] at htext
        rw [saveAll, htext] at h
        cases (Prod.mk.inj h).2
      | refused why path =>
        obtain ⟨warning, hwarning, hcons⟩ := saveAll_cons_refused fs htext
        rw [hcons] at h
        obtain ⟨rest, hrest, rfl⟩ := eq_of_map_eq_ok h
        exact .unsaved hgrows hwarning (ih hrest)

namespace Saves

/-- Every file is either noted as saved or warned of. -/
lemma length_add (h : Saves folder files s s' saving) :
    saving.savedTo.length + saving.warnings.length = files.length
      ∧ ∀ warning ∈ saving.warnings, isUnsavedWarning warning = true := by
  induction h with
  | nil => exact ⟨rfl, by simp⟩
  | saved _ _ _ ih =>
    refine ⟨?_, ih.2⟩
    simp only [List.length_cons, ← ih.1]
    omega
  | unsaved _ hwarning _ ih =>
    refine ⟨?_, ?_⟩
    · simp only [List.length_cons, ← ih.1]
      omega
    · intro warning hmem
      rcases List.mem_cons.mp hmem with rfl | hmem
      · exact hwarning
      · exact ih.2 warning hmem

/-- No folder is taken away. -/
lemma keeps (h : Saves folder files s s' saving) : Store.Keeps s s' := by
  induction h with
  | nil => exact (Store.Grows.refl _).keeps
  | saved hfolders hwrite _ ih =>
    exact (hfolders.keeps.trans (Store.sameFolders_write hwrite).keeps).trans ih
  | unsaved hfolders _ _ ih => exact hfolders.keeps.trans ih

/-- What stands at a place stays there if it is the target of no file. -/
lemma find?_of_ne (h : Saves folder files s s' saving) {place : List String} {e : Entry}
    (hne : ∀ f ∈ files, s'.place (saveTarget folder f) ≠ .ok place)
    (hplace : s.find? place = some e) : s'.find? place = some e := by
  induction h with
  | nil => exact hplace
  | saved hfolders hwrite hrest ih =>
    refine ih (fun f hf => hne f (List.mem_cons_of_mem _ hf)) ?_
    rw [Store.find?_write_of_ne hwrite, hfolders.entry place e hplace]
    -- a target that is written leads to the same place at the end
    intro htarget
    have hkeeps := (Store.sameFolders_write hwrite).keeps.trans hrest.keeps
    exact hne _ List.mem_cons_self (hkeeps.place_ok htarget)
  | unsaved hfolders _ _ ih =>
    exact ih (fun f hf => hne f (List.mem_cons_of_mem _ hf)) (hfolders.entry place e hplace)

/-- A path that is noted is the target of one of the files. -/
lemma exists_of_mem_savedTo (h : Saves folder files s s' saving) {text : String}
    (htext : text ∈ saving.savedTo) : ∃ f ∈ files, (saveTarget folder f).text = text := by
  induction h with
  | nil => cases htext
  | saved _ _ _ ih =>
    rcases List.mem_cons.mp htext with rfl | htext
    · exact ⟨_, List.mem_cons_self, rfl⟩
    · obtain ⟨f, hf, heq⟩ := ih htext
      exact ⟨f, List.mem_cons_of_mem _ hf, heq⟩
  | unsaved _ _ _ ih =>
    obtain ⟨f, hf, heq⟩ := ih htext
    exact ⟨f, List.mem_cons_of_mem _ hf, heq⟩

end Saves

/-- Two files are saved one after the other where nothing is in the way of either. The second one
stands at its place afterwards, and the paths lead where they led before. -/
lemma saveAll_pair {f g : FixtureFile} {place place' : List String}
    (hf : Savable folder s f place) (hg : Savable folder s g place') :
    ∃ s', saveAll folder [f, g] s
        = (s', .ok { savedTo := [(saveTarget folder f).text, (saveTarget folder g).text] }) ∧
      Store.SameFolders s s' ∧ s'.find? place' = some (.file (encode g.code)) := by
  obtain ⟨s₁, hwrite, hsave⟩ := hf.saveText_eq
  -- the first file changes no folder, so nothing is in the way of the second one
  have hsame := Store.sameFolders_write hwrite
  have hg₁ := hg.sameFolders hsame
  obtain ⟨s₂, hwrite₂, hsave₂⟩ := hg₁.saveText_eq
  refine ⟨s₂, ?_, hsame.trans (Store.sameFolders_write hwrite₂),
    Store.find?_write_self hwrite₂ hg₁.leads⟩
  rw [saveAll_cons_saved hsave, saveAll_cons_saved hsave₂]
  rfl

/-! ## Files of different names -/

/-- The file stands as it was generated where its path leads. -/
def OnDisk (folder : Path) (s : Store) (f : FixtureFile) : Prop :=
  ∃ place, s.place (saveTarget folder f) = .ok place
    ∧ s.find? place = some (.file (encode f.code))

/-- Targets that are written alike are those of files of one name. -/
lemma qualifiedName_eq_of_saveTarget_text {f g : FixtureFile}
    (hf : '/' ∉ f.qualifiedName.toList) (hg : '/' ∉ g.qualifiedName.toList)
    (htext : (saveTarget folder f).text = (saveTarget folder g).text) :
    f.qualifiedName = g.qualifiedName :=
  Job.qualifiedName_eq_of_text (j := { folder }) rfl hf hg htext

/-- A file of another name does not make a path be noted. -/
lemma Saves.text_not_mem_savedTo (h : Saves folder files s s' saving) {f : FixtureFile}
    (hname : f.qualifiedName ∉ files.map FixtureFile.qualifiedName)
    (hslash : ∀ g ∈ f :: files, '/' ∉ g.qualifiedName.toList) :
    (saveTarget folder f).text ∉ saving.savedTo := by
  intro hmem
  obtain ⟨g, hg, htext⟩ := h.exists_of_mem_savedTo hmem
  refine hname (List.mem_map.mpr ⟨g, hg, ?_⟩)
  exact qualifiedName_eq_of_saveTarget_text (hslash g (List.mem_cons_of_mem _ hg))
    (hslash f List.mem_cons_self) htext

/-- A file that was written stays while files of other names are saved. -/
lemma Saves.onDisk_of_write (h : Saves folder files s s' saving) {s₀ : Store} {f : FixtureFile}
    (hwrite : s₀.write (saveTarget folder f) (encode f.code) = .ok s)
    (hname : f.qualifiedName ∉ files.map FixtureFile.qualifiedName)
    (hslash : ∀ g ∈ f :: files, '/' ∉ g.qualifiedName.toList) : OnDisk folder s' f := by
  obtain ⟨place, hplace, -, -⟩ := Store.write_eq_ok hwrite
  have hplace' : s'.place (saveTarget folder f) = .ok place :=
    ((Store.sameFolders_write hwrite).keeps.trans h.keeps).place_ok hplace
  refine ⟨place, hplace', ?_⟩
  refine h.find?_of_ne (fun g hg hsame => ?_) (Store.find?_write_self hwrite hplace)
  refine hname (List.mem_map.mpr ⟨g, hg, ?_⟩)
  exact Job.qualifiedName_eq_of_place (j := { folder }) rfl
    (hslash g (List.mem_cons_of_mem _ hg)) (hslash f List.mem_cons_self) hsame hplace'

/-- Among files of different names no path is noted twice, and a file whose path is noted is on
disk at the end. -/
lemma Saves.onDisk (h : Saves folder files s s' saving)
    (hnames : (files.map FixtureFile.qualifiedName).Nodup)
    (hslash : ∀ f ∈ files, '/' ∉ f.qualifiedName.toList) :
    saving.savedTo.Nodup ∧
      ∀ f ∈ files, (saveTarget folder f).text ∈ saving.savedTo → OnDisk folder s' f := by
  induction h with
  | nil => exact ⟨List.nodup_nil, by simp⟩
  | @saved f fs s s₁ s₂ s' saving hfolders hwrite hrest ih =>
    obtain ⟨hname, hnames⟩ := List.nodup_cons.mp hnames
    obtain ⟨hnodup, hdisk⟩ := ih hnames fun g hg => hslash g (List.mem_cons_of_mem _ hg)
    refine ⟨List.nodup_cons.mpr ⟨hrest.text_not_mem_savedTo hname hslash, hnodup⟩,
      fun g hg hmem => ?_⟩
    rcases List.mem_cons.mp hg with rfl | hg
    · exact hrest.onDisk_of_write hwrite hname hslash
    · -- a later file has another name, so that its path is one of those noted later
      rcases List.mem_cons.mp hmem with htext | hmem
      · refine absurd (List.mem_map.mpr ⟨g, hg, ?_⟩) hname
        exact qualifiedName_eq_of_saveTarget_text (hslash g (List.mem_cons_of_mem _ hg))
          (hslash f List.mem_cons_self) htext
      · exact hdisk g hg hmem
  | @unsaved f fs s s₁ s' saving warning hfolders hwarning hrest ih =>
    obtain ⟨hname, hnames⟩ := List.nodup_cons.mp hnames
    obtain ⟨hnodup, hdisk⟩ := ih hnames fun g hg => hslash g (List.mem_cons_of_mem _ hg)
    refine ⟨hnodup, fun g hg hmem => ?_⟩
    rcases List.mem_cons.mp hg with rfl | hg
    · exact absurd hmem (hrest.text_not_mem_savedTo hname hslash)
    · exact hdisk g hg hmem

/-! ## Requests -/

variable {e : Engine} {l : Limits} {r : GenerationRequest} {folder : String} {g : Generated}

/-- A request with a folder that is done has generated its files and saved them in turn. -/
lemma generateAndSave_eq_ok (hfolder : r.folder = some folder) (hne : folder ≠ "")
    (hdone : generateAndSave e l s r = (s', .ok g)) :
    ∃ generated saving, generate e l s r = .ok generated ∧
      Saves (.ofText folder) generated.files s s' saving ∧ g.files = generated.files
        ∧ g.savedTo = saving.savedTo ∧ g.warnings = generated.warnings ++ saving.warnings := by
  have hfilter : r.folder.filter (· != "") = some folder := by
    rw [hfolder]
    simp [Option.filter, hne]
  unfold generateAndSave at hdone
  rw [hfilter] at hdone
  cases hgenerate : generate e l s r with
  | error fault => simp [hgenerate] at hdone
  | ok generated =>
    simp only [hgenerate] at hdone
    split at hdone
    · cases (Prod.mk.inj hdone).2
    · rename_i s₁ saving hsave
      obtain ⟨rfl, hg⟩ := Prod.mk.inj hdone
      obtain rfl := Except.ok.inj hg
      exact ⟨generated, saving, rfl, saves_of_saveAll hsave, rfl, rfl, rfl⟩

/-- A warning of a request before anything is saved is no warning that a file was not saved. -/
lemma not_isUnsavedWarning_of_generate {generated : Generated}
    (hgenerate : generate e l s r = .ok generated) :
    ∀ warning ∈ generated.warnings, isUnsavedWarning warning = false := by
  unfold generate at hgenerate
  split at hgenerate
  · cases hgenerate
  · cases hgenerate
  · split at hgenerate
    · cases hgenerate
    · obtain rfl := Except.ok.inj hgenerate
      intro warning hwarning
      simp only at hwarning
      split at hwarning
      · obtain rfl := List.mem_singleton.mp hwarning
        decide
      · cases hwarning

/-! ## Requests for two files -/

/-- A store with a folder `o`. -/
def folderStore : Store := { entries := [(["o"], .folder)] }

/-- A request for the fixtures of a code, to be saved in the folder `o`. -/
def folderRequest (code : String) : GenerationRequest where
  code := some code
  folder := some "o"

/-- In the folder `o` nothing is in the way of the fixture of a class `A` or `B`. -/
lemma savable_folderStore {f : FixtureFile} (hname : f.qualifiedName ∈ ["ATests", "BTests"]) :
    Savable (.ofText "o") folderStore f ["o", f.qualifiedName ++ ".cs"] := by
  have htarget : saveTarget (.ofText "o") f = ⟨0, ["o", f.qualifiedName ++ ".cs"]⟩ := by
    rw [saveTarget]
    generalize f.qualifiedName = name at hname
    fin_cases hname
    all_goals decide +kernel
  generalize f.qualifiedName = name at hname htarget
  refine ⟨?_, ?_, ?_, ?_⟩
  all_goals fin_cases hname
  all_goals
    simp only [htarget, Store.isFolder, Store.look, String.contains_char_eq, ne_eq]
    decide +kernel

/-- A request for a code with two files of known names saves them one after the other. -/
lemma generateAndSave_pair (code name name' : String)
    (hfiles : ((generate {} {} folderStore (folderRequest code)).toOption.map fun g =>
        (g.files.map FixtureFile.qualifiedName, decide (g.files.map (encode ·.code)).Nodup))
      = some ([name, name'], true))
    (hname : name ∈ ["ATests", "BTests"]) (hname' : name' ∈ ["ATests", "BTests"]) :
    ∃ s' g f f', generateAndSave {} {} folderStore (folderRequest code) = (s', .ok g) ∧
      g.files = [f, f'] ∧ f.qualifiedName = name ∧ f'.qualifiedName = name' ∧
      g.savedTo = [(saveTarget (.ofText "o") f).text, (saveTarget (.ofText "o") f').text] ∧
      s'.place (saveTarget (.ofText "o") f) = .ok ["o", name ++ ".cs"] ∧
      s'.find? ["o", name' ++ ".cs"] = some (.file (encode f'.code)) ∧
      encode f.code ≠ encode f'.code := by
  cases hgenerate : generate {} {} folderStore (folderRequest code) with
  | error fault => simp [hgenerate, Except.toOption] at hfiles
  | ok generated =>
    simp only [hgenerate, Except.toOption, Option.map_some, Option.some.injEq, Prod.mk.injEq,
      decide_eq_true_eq] at hfiles
    obtain ⟨hnames, hcodes⟩ := hfiles
    obtain ⟨f, fs, hf, rfl, hfs⟩ := List.map_eq_cons_iff.mp hnames
    obtain ⟨f', gs, rfl, rfl, hgs⟩ := List.map_eq_cons_iff.mp hfs
    obtain rfl := List.map_eq_nil_iff.mp hgs
    have hsavable := savable_folderStore hname
    obtain ⟨s', hsave, hsame, hdisk⟩ := saveAll_pair hsavable (savable_folderStore hname')
    have hfolder : (folderRequest code).folder.filter (· != "") = some "o" := by
      simp [folderRequest, Option.filter]
    refine ⟨s', { generated with
      savedTo := [(saveTarget (.ofText "o") f).text, (saveTarget (.ofText "o") f').text]
      warnings := generated.warnings ++ [] }, f, f', ?_, hf, rfl, rfl, rfl,
      (hsame.place_ok_iff _ _).mpr hsavable.leads, hdisk, by simpa [hf] using hcodes⟩
    rw [generateAndSave, hgenerate, hfolder]
    simp only [hf, hsave]

/-- Of every file a request that is done either notes the path, or warns. Where the files have
different names it notes no path twice, and every file whose path it notes is on disk. -/
theorem saved_files_on_disk (e : Engine) (l : Limits) (s s' : Store) (r : GenerationRequest)
    (folder : String) (g : Generated) (hfolder : r.folder = some folder) (hne : folder ≠ "")
    (hdone : generateAndSave e l s r = (s', .ok g)) :
    g.savedTo.length + (g.warnings.filter isUnsavedWarning).length = g.files.length ∧
      ((g.files.map FixtureFile.qualifiedName).Nodup →
        (∀ f ∈ g.files, '/' ∉ f.qualifiedName.toList) →
        g.savedTo.Nodup ∧ ∀ f ∈ g.files, (saveTarget (.ofText folder) f).text ∈ g.savedTo →
          OnDisk (.ofText folder) s' f) := by
  obtain ⟨generated, saving, hgenerate, hsaves, hfiles, hsaved, hwarnings⟩ :=
    generateAndSave_eq_ok hfolder hne hdone
  refine ⟨?_, fun hnames hslash => ?_⟩
  · obtain ⟨hlength, hmarked⟩ := hsaves.length_add
    have hfirst : generated.warnings.filter isUnsavedWarning = [] := by
      refine List.filter_eq_nil_iff.mpr fun warning hwarning => ?_
      simp [not_isUnsavedWarning_of_generate hgenerate warning hwarning]
    rw [hwarnings, List.filter_append, hfirst, List.nil_append,
      List.filter_eq_self.mpr hmarked, hsaved, hfiles, hlength]
  · rw [hfiles] at hnames hslash ⊢
    rw [hsaved]
    exact hsaves.onDisk hnames hslash

/-- The fixtures of two classes are saved next to each other and both are on disk. -/
theorem two_saved_files_on_disk :
    ∃ s' g, generateAndSave {} {} folderStore
        (folderRequest "public class A { } public class B { }") = (s', .ok g) ∧
      g.files.length = 2 ∧ g.savedTo.Nodup ∧ ∀ f ∈ g.files, OnDisk (.ofText "o") s' f := by
  obtain ⟨s', g, f, f', hdone, hfiles, hf, hf', hsaved, -⟩ := generateAndSave_pair
    "public class A { } public class B { }" "ATests" "BTests" (by decide +kernel) (by decide)
    (by decide)
  obtain ⟨-, hdisk⟩ := saved_files_on_disk {} {} folderStore s' _ "o" g rfl (by decide) hdone
  obtain ⟨hnodup, hdisk⟩ := hdisk (by simp [hfiles, hf, hf']) (by simp [hfiles, hf, hf'])
  refine ⟨s', g, hdone, by simp [hfiles], hnodup, fun f hf => hdisk f hf ?_⟩
  rw [hsaved]
  simp only [hfiles, List.mem_cons, List.not_mem_nil, or_false] at hf
  rcases hf with rfl | rfl <;> simp

/-- A request may note a path twice, and a file whose path it notes may be lost: a class and its
generic namesake have files of one name, and the second is saved over the first. -/
theorem saved_files_overwritten :
    ∃ s' g, generateAndSave {} {} folderStore
        (folderRequest "public class A { } public class A<T> { public void M() { } }")
          = (s', .ok g) ∧
      ¬ g.savedTo.Nodup ∧ ∃ f ∈ g.files, (saveTarget (.ofText "o") f).text ∈ g.savedTo ∧
        ¬ OnDisk (.ofText "o") s' f := by
  obtain ⟨s', g, f, f', hdone, hfiles, hf, hf', hsaved, hplace, hfind, hcodes⟩ :=
    generateAndSave_pair "public class A { } public class A<T> { public void M() { } }"
      "ATests" "ATests" (by decide +kernel) (by decide) (by decide)
  have htexts : (saveTarget (.ofText "o") f').text = (saveTarget (.ofText "o") f).text := by
    rw [saveTarget, saveTarget, hf, hf']
  refine ⟨s', g, hdone, by simp [hsaved, htexts], f, by simp [hfiles], by simp [hsaved], ?_⟩
  rintro ⟨place, hplace', hfirst⟩
  obtain rfl := Except.ok.inj (hplace.symm.trans hplace')
  rw [hfind] at hfirst
  exact hcodes (by simpa using hfirst.symm)

end FixtureDraft.Service
