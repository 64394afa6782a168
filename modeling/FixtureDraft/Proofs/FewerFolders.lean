import FixtureDraft.Proofs.PathTexts

/-!
# Stores with fewer folders

`Store.Within` relates a store to one with the same files that may have more folders. What is a
folder there can be made here (`Store.makeFolders_within`), where a file can be written there it can
be written here (`Within.writable`), and a file that is put in both keeps them related
(`Within.put_file`).
-/

namespace FixtureDraft.Files

namespace Store

variable {s s' t u u' : Store} {p : Path} {place : List String}

/-- The stores have the same files, and all folders of the first are folders of the second. -/
structure Within (t u : Store) : Prop where
  home : u.home = t.home
  folder : ∀ place, t.find? place = some .folder → u.find? place = some .folder
  file_iff : ∀ place content,
    t.find? place = some (.file content) ↔ u.find? place = some (.file content)

namespace Within

lemma refl (s : Store) : Within s s := ⟨rfl, fun _ h => h, fun _ _ => Iff.rfl⟩

lemma trans (h : Within s t) (h' : Within t u) : Within s u :=
  ⟨h'.home.trans h.home, fun place hplace => h'.folder place (h.folder place hplace),
    fun place content => (h.file_iff place content).trans (h'.file_iff place content)⟩

lemma keeps (h : Within t u) : Keeps t u := ⟨h.home, h.folder⟩

lemma origin_eq (h : Within t u) (rooted : Bool) : u.origin rooted = t.origin rooted := by
  rw [origin, origin, h.home]

/-- Where the larger store has a folder, the smaller one has it or has nothing. -/
lemma find?_of_folder (h : Within t u) (hfolder : u.find? place = some .folder) :
    t.find? place = some .folder ∨ t.find? place = none := by
  cases hfind : t.find? place with
  | none => exact Or.inr rfl
  | some e =>
    cases e with
    | folder => exact Or.inl rfl
    | file content =>
      rw [(h.file_iff place content).mp hfind] at hfolder
      cases hfolder

/-- A path that leads somewhere in the larger store leads there in the smaller one, or a folder on
its way is missing. -/
lemma follow_of_ok (h : Within t u) {steps : List String} {start : List String}
    (hfollow : u.follow start steps = .ok place) :
    t.follow start steps = .ok place ∨ t.follow start steps = .error .notFound := by
  induction steps generalizing start with
  | nil => exact Or.inl hfollow
  | cons step steps ih =>
    obtain ⟨hfolder, hsize, hrest⟩ := follow_cons_ok.mp hfollow
    rcases h.find?_of_folder hfolder with hfind | hfind
    · rw [follow, hfind]
      simp only [if_neg (Nat.not_lt.mpr hsize)]
      exact ih hrest
    · rw [follow, hfind]
      exact Or.inr rfl

/-- A folder of the larger store is put in the smaller one, where nothing was. -/
lemma put_folder (h : Within t u) (hnone : t.find? place = none)
    (hfolder : u.find? place = some .folder) : Within (t.put place .folder) u := by
  obtain ⟨hgrows, hput⟩ := grows_put .folder hnone
  refine ⟨h.home, fun other hother => ?_, fun other content => ?_⟩
  · by_cases hsame : other = place
    · rw [hsame]
      exact hfolder
    · rw [find?_put_of_ne t .folder hsame] at hother
      exact h.folder other hother
  · by_cases hsame : other = place
    · rw [hsame, hput, hfolder]
    · rw [find?_put_of_ne t .folder hsame]
      exact h.file_iff other content

end Within

/-! ## Making folders -/

/-- A folder that is made is a new one. -/
lemma within_makeFolder (h : s.makeFolder p = .ok s') : Within s s' := by
  obtain ⟨-, place, -, hnone, rfl⟩ := makeFolder_eq_ok h
  obtain ⟨hgrows, hput⟩ := grows_put .folder hnone
  refine ⟨rfl, fun other => hgrows.entry other .folder, fun other content => ⟨?_, ?_⟩⟩
  · exact hgrows.entry other (.file content)
  · intro hother
    by_cases hsame : other = place
    · rw [hsame, hput] at hother
      cases hother
    · rwa [find?_put_of_ne s .folder hsame] at hother

/-- Making folders leaves the files as they are. -/
theorem within_makeFolders (s : Store) (p : Path) : Within s (s.makeFolders p).1 :=
  (makes_makeFoldersBack p.slashes p.steps.reverse s).rel Within.refl (fun _ _ _ => Within.trans)
    fun _ _ _ => within_makeFolder

/-! ## Folders that are there in the larger store -/

/-- Where a path starts there is a folder. -/
lemma find?_origin (s : Store) (rooted : Bool) : s.find? (s.origin rooted) = some .folder := by
  rw [find?, if_pos]
  rw [origin]
  split
  · rfl
  · exact List.isPrefixOf_iff_prefix.mpr (List.prefix_refl _)

/-- A path that leads somewhere leaves from a folder. -/
lemma isFolder_parent {slashes : ℕ} {steps : List String} {step : String}
    (hnul : (Path.mk slashes (steps ++ [step])).text.contains '\x00' = false)
    (hplace : s.place ⟨slashes, steps ++ [step]⟩ = .ok place) :
    s.isFolder ⟨slashes, steps⟩ = true := by
  obtain ⟨before, hbefore, hfolder, -⟩ := follow_concat_ok.mp hplace
  refine isFolder_iff.mpr ⟨?_, before, hbefore, hfolder⟩
  rw [String.contains_char_eq, decide_eq_false_iff_not] at hnul ⊢
  intro hmem
  obtain ⟨step', hstep', hc⟩ := Path.exists_of_mem_text hmem (by decide) (by decide)
  exact hnul (Path.mem_text_of_mem (List.mem_append_left _ hstep') hc)

/-- Behind a folder the next step is not missing. -/
lemma place_concat_ne_notFound {slashes : ℕ} {steps : List String}
    (hfolder : s.isFolder ⟨slashes, steps⟩ = true) (step : String) :
    s.place ⟨slashes, steps ++ [step]⟩ ≠ .error .notFound := by
  obtain ⟨-, before, hbefore, hfind⟩ := isFolder_iff.mp hfolder
  rw [place]
  rw [place] at hbefore
  have hfollow := follow_concat_of_folder hbefore hfind step
  rw [show (⟨slashes, steps ++ [step]⟩ : Path).rooted = (⟨slashes, steps⟩ : Path).rooted from rfl,
    hfollow]
  split
  all_goals simp

/-- Where a folder stands in the larger store, the smaller one has it or gets it, if the way there
is open. -/
lemma makeFolder_within (h : Within t u) (hfolder : u.isFolder p = true)
    (hplace : t.place p ≠ .error .notFound) :
    (∃ t', t.makeFolder p = .ok t' ∧ Within t' u) ∨
      (t.makeFolder p = .error (.refused .alreadyThere p.text) ∧
        t.unlessFolder p (.refused .alreadyThere p.text) = (t, none)) := by
  obtain ⟨hnul, place, hleads, hfind⟩ := isFolder_iff.mp hfolder
  rw [Store.place, h.origin_eq] at hleads
  have hhere : t.place p = .ok place := (h.follow_of_ok hleads).resolve_right hplace
  rcases h.find?_of_folder hfind with hthere | hnone
  · have hisFolder : t.isFolder p = true := isFolder_iff.mpr ⟨hnul, place, hhere, hthere⟩
    refine Or.inr ⟨?_, by rw [unlessFolder, hisFolder]; rfl⟩
    simp [makeFolder, hnul, hhere, hthere]
  · refine Or.inl ⟨_, ?_, h.put_folder hnone hfind⟩
    simp [makeFolder, hnul, hhere, hnone]

/-- Where the way is open no other folder is made. -/
lemma makeFoldersBack_of_place {slashes : ℕ} {back : List String} (h : Within t u)
    (hfolder : u.isFolder ⟨slashes, back.reverse⟩ = true)
    (hplace : t.place ⟨slashes, back.reverse⟩ ≠ .error .notFound) :
    ∃ t', makeFoldersBack slashes back t = (t', none) ∧ Within t' u := by
  rw [makeFoldersBack.eq_def]
  rcases makeFolder_within h hfolder hplace with ⟨t', hmade, hwithin⟩ | ⟨hthere, hunless⟩
  · simp only [hmade]
    exact ⟨t', rfl, hwithin⟩
  · simp only [hthere]
    exact ⟨t, hunless, h⟩

/-- A folder of the larger store can be made in the smaller one, with the folders around it. -/
lemma makeFoldersBack_within {slashes : ℕ} {back : List String} (h : Within t u)
    (hfolder : u.isFolder ⟨slashes, back.reverse⟩ = true) :
    ∃ t', makeFoldersBack slashes back t = (t', none) ∧ Within t' u := by
  induction back generalizing t with
  | nil => exact makeFoldersBack_of_place h hfolder (by simp [place, follow])
  | cons step around ih =>
    by_cases hplace : t.place ⟨slashes, (step :: around).reverse⟩ = .error .notFound
    · -- a folder around it is missing in the smaller store, and is made first
      obtain ⟨hnul, place, hleads, -⟩ := isFolder_iff.mp hfolder
      have hmissing : t.makeFolder ⟨slashes, (step :: around).reverse⟩
          = .error (.refused .notFound (Path.text ⟨slashes, (step :: around).reverse⟩)) := by
        simp only [makeFolder, hnul, hplace]
        rfl
      rw [List.reverse_cons] at hnul hleads
      obtain ⟨t₁, hmade₁, hwithin₁⟩ := ih h (isFolder_parent hnul hleads)
      have haround : t₁.isFolder ⟨slashes, around.reverse⟩ = true := by
        have hthere := (makes_makeFoldersBack slashes around t).isFolder
        rw [hmade₁] at hthere
        exact hthere rfl
      have hplace₁ : t₁.place ⟨slashes, (step :: around).reverse⟩ ≠ .error .notFound := by
        rw [List.reverse_cons]
        exact place_concat_ne_notFound haround step
      rw [makeFoldersBack]
      simp only [hmissing, hmade₁]
      rcases makeFolder_within hwithin₁ hfolder hplace₁ with
        ⟨t', hmade, hwithin⟩ | ⟨hthere, hunless⟩
      · simp only [hmade]
        exact ⟨t', rfl, hwithin⟩
      · simp only [hthere]
        exact ⟨t₁, hunless, hwithin₁⟩
    · exact makeFoldersBack_of_place h hfolder hplace

/-- A folder of the larger store can be made in the smaller one. -/
theorem makeFolders_within (h : Within t u) (hfolder : u.isFolder p = true) :
    ∃ t', t.makeFolders p = (t', none) ∧ Within t' u ∧ t'.isFolder p = true := by
  have hback : u.isFolder ⟨p.slashes, p.steps.reverse.reverse⟩ = true := by
    rwa [List.reverse_reverse]
  obtain ⟨t', hmade, hwithin⟩ := makeFoldersBack_within h hback
  exact ⟨t', hmade, hwithin, isFolder_of_makeFolders hmade⟩

/-! ## Files that are written in both stores -/

namespace Within

/-- The stores stay related if the same file is put in both. -/
lemma put_file (h : Within t u) (hfree : u.find? place ≠ some .folder) (content : Text.Bytes) :
    Within (t.put place (.file content)) (u.put place (.file content)) := by
  have hfree' : t.find? place ≠ some .folder := fun hfolder => hfree (h.folder place hfolder)
  refine ⟨h.home, fun other hother => ?_, fun other content' => ?_⟩
  · by_cases hsame : other = place
    · rw [hsame, find?_put_self hfree'] at hother
      cases hother
    · rw [find?_put_of_ne t _ hsame] at hother
      rw [find?_put_of_ne u _ hsame]
      exact h.folder other hother
  · by_cases hsame : other = place
    · rw [hsame, find?_put_self hfree', find?_put_self hfree]
    · rw [find?_put_of_ne t _ hsame, find?_put_of_ne u _ hsame]
      exact h.file_iff other content'

end Within

/-- A path at which a file can be written has a last step, and the folder around it is there. -/
lemma Writable.isFolder_parent (h : u.Writable p place) :
    u.isFolder p.parent = true ∧ p.steps ≠ [] := by
  have hne : p.steps ≠ [] := by
    intro hnone
    have hleads := h.leads
    rw [Store.place, hnone] at hleads
    obtain rfl := Except.ok.inj hleads
    exact h.free (find?_origin u p.rooted)
  refine ⟨?_, hne⟩
  have hpath : p = ⟨p.slashes, p.steps.dropLast ++ [p.steps.getLast hne]⟩ := by
    rw [List.dropLast_append_getLast]
  have hnul := h.noNul
  have hleads := h.leads
  rw [hpath] at hnul hleads
  exact Store.isFolder_parent hnul hleads

/-- Where nothing is in the way in the larger store there is nothing in the smaller one either, if
it has the folder around the file. -/
lemma Within.writable (h : Within t u) (hwritable : u.Writable p place)
    (hparent : t.isFolder p.parent = true) : t.Writable p place := by
  have hne := hwritable.isFolder_parent.2
  refine ⟨hwritable.noNul, ?_, fun hfolder => hwritable.free (h.folder place hfolder)⟩
  have hleads := hwritable.leads
  rw [Store.place, h.origin_eq] at hleads
  refine (h.follow_of_ok hleads).resolve_right ?_
  have haround : t.isFolder ⟨p.slashes, p.steps.dropLast⟩ = true := hparent
  have hplace := place_concat_ne_notFound haround (p.steps.getLast hne)
  rwa [List.dropLast_append_getLast] at hplace

end Store

end FixtureDraft.Files
