import FixtureDraft.Proofs.Stores

/-!
# What making folders changes

Making a folder, and the folders around it, adds to a store and takes nothing away
(`grows_makeFolders`). If nothing went wrong the folder is there afterwards
(`isFolder_of_makeFolders`), and where it is there already nothing changes
(`makeFolders_of_isFolder`). Paths that lead somewhere lead to the same place in a store that has
all the folders and perhaps more (`Keeps`).
-/

namespace FixtureDraft.Files

namespace Store

variable {s s' s'' : Store} {p : Path}

/-! ## Stores that keep their folders -/

/-- The second store has the home folder and all the folders of the first one. -/
structure Keeps (s s' : Store) : Prop where
  home : s'.home = s.home
  folder : ∀ place, s.find? place = some .folder → s'.find? place = some .folder

namespace Keeps

lemma trans (h : Keeps s s') (h' : Keeps s' s'') : Keeps s s'' :=
  ⟨h'.home.trans h.home, fun place hplace => h'.folder place (h.folder place hplace)⟩

lemma follow_ok (h : Keeps s s') {place q : List String} {steps : List String}
    (hfollow : s.follow place steps = .ok q) : s'.follow place steps = .ok q := by
  induction steps generalizing place with
  | nil => simpa [follow] using hfollow
  | cons step steps ih =>
    rw [follow_cons_ok] at hfollow ⊢
    exact ⟨h.folder place hfollow.1, hfollow.2.1, ih hfollow.2.2⟩

/-- A path that leads somewhere leads there still. -/
lemma place_ok (h : Keeps s s') {q : List String} (hplace : s.place p = .ok q) :
    s'.place p = .ok q := by
  rw [place, origin, h.home]
  exact h.follow_ok hplace

end Keeps

lemma SameFolders.keeps (h : SameFolders s s') : Keeps s s' :=
  ⟨h.home, fun place => (h.folder_iff place).mpr⟩

/-- Whatever stands in the first store stands in the second one. -/
structure Grows (s s' : Store) : Prop where
  home : s'.home = s.home
  entry : ∀ place e, s.find? place = some e → s'.find? place = some e

namespace Grows

lemma refl (s : Store) : Grows s s := ⟨rfl, fun _ _ h => h⟩

lemma trans (h : Grows s s') (h' : Grows s' s'') : Grows s s'' :=
  ⟨h'.home.trans h.home, fun place e hplace => h'.entry place e (h.entry place e hplace)⟩

lemma keeps (h : Grows s s') : Keeps s s' := ⟨h.home, fun place => h.entry place .folder⟩

end Grows

/-- What is put where nothing stood adds to the store, and it stands there. -/
lemma grows_put {place : List String} (e : Entry) (hplace : s.find? place = none) :
    Grows s (s.put place e) ∧ (s.put place e).find? place = some e := by
  refine ⟨⟨rfl, fun other e' hother => ?_⟩, find?_put_self (by simp [hplace]) e⟩
  have hne : other ≠ place := by
    intro heq
    rw [heq, hplace] at hother
    cases hother
  rw [find?_put_of_ne s e hne, hother]

/-! ## One folder -/

/-- Something stands at the end of a path exactly if the path can be written and it stands at its
place. -/
lemma look_eq_some_iff {e : Entry} : s.look p = .ok (some e) ↔
    p.text.contains '\x00' = false ∧ ∃ place, s.place p = .ok place ∧ s.find? place = some e := by
  unfold look
  by_cases hnul : p.text.contains '\x00' = true
  · simp [hnul]
  · cases hplace : s.place p with
    | error why => cases why <;> simp [hnul]
    | ok place => simp [hnul]

/-- A path leads to a folder exactly if it can be written and a folder stands at its place. -/
lemma isFolder_iff : s.isFolder p = true ↔
    p.text.contains '\x00' = false ∧ ∃ place, s.place p = .ok place
      ∧ s.find? place = some .folder := by
  rw [← look_eq_some_iff]
  unfold isFolder
  split
  · simp [*]
  · rename_i hlook
    simpa using hlook

lemma Keeps.isFolder (h : Keeps s s') (hfolder : s.isFolder p = true) : s'.isFolder p = true := by
  rw [isFolder_iff] at hfolder ⊢
  obtain ⟨hnul, place, hplace, hfind⟩ := hfolder
  exact ⟨hnul, place, h.place_ok hplace, h.folder place hfind⟩

/-- What stands at the end of a path stands there in every store that has more. -/
lemma Grows.look_eq_some (h : Grows s s') {e : Entry} (hlook : s.look p = .ok (some e)) :
    s'.look p = .ok (some e) := by
  obtain ⟨hnul, place, hplace, hfind⟩ := look_eq_some_iff.mp hlook
  exact look_eq_some_iff.mpr ⟨hnul, place, h.keeps.place_ok hplace, h.entry place e hfind⟩

/-- A folder is made where nothing stood. -/
lemma makeFolder_eq_ok (h : s.makeFolder p = .ok s') : p.text.contains '\x00' = false ∧
    ∃ place, s.place p = .ok place ∧ s.find? place = none ∧ s' = s.put place .folder := by
  unfold makeFolder at h
  split at h
  · cases h
  · rename_i hnul
    split at h
    · cases h
    · rename_i place hplace
      split at h
      · cases h
      · rename_i hnone
        exact ⟨by simpa using hnul, place, hplace, hnone, (Except.ok.inj h).symm⟩

/-- A refusal names the path as it is written. -/
lemma makeFolder_eq_refused {why : Refusal} {text : String}
    (h : s.makeFolder p = .error (.refused why text)) : text = p.text := by
  unfold makeFolder at h
  split at h
  · cases h
  · split at h
    · cases h
      rfl
    · split at h
      · cases h
        rfl
      · cases h

/-- A folder that is made is one thing more in the store. -/
lemma grows_makeFolder (h : s.makeFolder p = .ok s') : Grows s s' ∧ s'.isFolder p = true := by
  obtain ⟨hnul, place, hplace, hnone, rfl⟩ := makeFolder_eq_ok h
  obtain ⟨hgrows, hfind⟩ := grows_put .folder hnone
  exact ⟨hgrows, isFolder_iff.mpr ⟨hnul, place, hgrows.keeps.place_ok hplace, hfind⟩⟩

/-! ## A folder and those around it -/

/-- What comes of trying to make a folder: it is made, it is there already, or it is refused. -/
inductive Tries (p : Path) (s : Store) : Store × Option PathFault → Prop
  | made {after} (hmade : s.makeFolder p = .ok after) : Tries p s (after, none)
  | there (hfolder : s.isFolder p = true) : Tries p s (s, none)
  | refused {fault} (hfault : s.makeFolder p = .error fault) : Tries p s (s, some fault)

/-- What comes of making the folder whose steps are `back` in reverse: it is tried, or the folders
around it are made first, and then it is tried if nothing has gone wrong. -/
inductive Makes (slashes : ℕ) : List String → Store → Store × Option PathFault → Prop
  | tried {back first o} (htries : Tries ⟨slashes, back.reverse⟩ first o) :
    Makes slashes back first o
  | stuck {step around first last fault}
      (haround : Makes slashes around first (last, some fault)) :
    Makes slashes (step :: around) first (last, some fault)
  | behind {step around first next o} (haround : Makes slashes around first (next, none))
      (htries : Tries ⟨slashes, (step :: around).reverse⟩ next o) :
    Makes slashes (step :: around) first o

lemma tries_unlessFolder {fault : PathFault} (hfault : s.makeFolder p = .error fault) :
    Tries p s (s.unlessFolder p fault) := by
  unfold unlessFolder
  split
  · rename_i hthere
    exact .there (Bool.and_eq_true_iff.mp hthere).2
  · exact .refused hfault

/-- This is what `makeFoldersBack` does. -/
lemma makes_makeFoldersBack (slashes : ℕ) (back : List String) (s : Store) :
    Makes slashes back s (makeFoldersBack slashes back s) := by
  induction back generalizing s with
  | nil =>
    rw [makeFoldersBack]
    split
    case h_1 hmade => exact .tried (.made hmade)
    case h_2 hfault => exact .tried (.refused (makeFolder_eq_refused hfault ▸ hfault))
    case h_3 hfault => exact .tried (tries_unlessFolder hfault)
  | cons step around ih =>
    rw [makeFoldersBack]
    split
    case h_1 hmade => exact .tried (.made hmade)
    case h_3 hfault => exact .tried (tries_unlessFolder hfault)
    case h_2 =>
      have haround := ih s
      split
      case h_1 heq =>
        rw [heq] at haround
        exact .stuck haround
      case h_2 s₁ heq =>
        rw [heq] at haround
        refine .behind haround ?_
        split
        case h_1 hmade => exact .made hmade
        case h_2 hfault => exact .refused (makeFolder_eq_refused hfault ▸ hfault)
        case h_3 hfault => exact tries_unlessFolder hfault

namespace Makes

variable {slashes : ℕ} {back : List String} {o : Store × Option PathFault}

/-- What making one folder does to a store, making many does. -/
lemma rel {R : Store → Store → Prop} (hmakes : Makes slashes back s o) (hrefl : ∀ s, R s s)
    (htrans : ∀ s s' s'', R s s' → R s' s'' → R s s'')
    (hmake : ∀ s s' p, s.makeFolder p = .ok s' → R s s') : R s o.1 := by
  have htry : ∀ {p s o}, Tries p s o → R s o.1 := by
    intro p s o htries
    cases htries with
    | made hmade => exact hmake s _ p hmade
    | there _ => exact hrefl s
    | refused _ => exact hrefl s
  induction hmakes with
  | tried htries => exact htry htries
  | stuck _ ih => exact ih
  | behind _ htries ih => exact htrans _ _ _ ih (htry htries)

/-- The folder is there if nothing went wrong. -/
lemma isFolder (hmakes : Makes slashes back s o) (hnone : o.2 = none) :
    o.1.isFolder ⟨slashes, back.reverse⟩ = true := by
  have htry : ∀ {p s}, Tries p s o → o.1.isFolder p = true := by
    intro p s htries
    cases htries with
    | made hmade => exact (grows_makeFolder hmade).2
    | there hfolder => exact hfolder
    | refused _ => cases hnone
  cases hmakes with
  | tried htries => exact htry htries
  | stuck _ => cases hnone
  | behind _ htries => exact htry htries

end Makes

/-- Making folders takes nothing away. -/
theorem grows_makeFolders (s : Store) (p : Path) : Grows s (s.makeFolders p).1 :=
  (makes_makeFoldersBack p.slashes p.steps.reverse s).rel Grows.refl (fun _ _ _ => Grows.trans)
    fun _ _ _ hmade => (grows_makeFolder hmade).1

/-- A folder that was made is there. -/
theorem isFolder_of_makeFolders (h : s.makeFolders p = (s', none)) : s'.isFolder p = true := by
  have hfolder := (makes_makeFoldersBack p.slashes p.steps.reverse s).isFolder
  rw [List.reverse_reverse] at hfolder
  unfold makeFolders at h
  rw [h] at hfolder
  exact hfolder rfl

/-- A folder that is there is not made again. -/
theorem makeFolders_of_isFolder (h : s.isFolder p = true) : s.makeFolders p = (s, none) := by
  obtain ⟨hnul, place, hplace, hfind⟩ := isFolder_iff.mp h
  have hthere : s.makeFolder p = .error (.refused .alreadyThere p.text) := by
    simp [makeFolder, hnul, hplace, hfind]
  have hback : (⟨p.slashes, p.steps.reverse.reverse⟩ : Path) = p := by
    rw [List.reverse_reverse]
  rw [makeFolders, makeFoldersBack.eq_def]
  simp only [hback, hthere]
  simp [unlessFolder, h]

end Store

end FixtureDraft.Files
