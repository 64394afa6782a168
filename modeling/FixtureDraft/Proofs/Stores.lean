import FixtureDraft.Files.Survey
import Mathlib

/-!
# What writing a file changes

Writing a file changes what stands at one place, and it makes and removes no folder. Where paths
lead depends only on the folders, so they lead to the same places afterwards.
-/

namespace FixtureDraft.Files

namespace Store

/-! ## Places -/

/-- Entries at one place can be dropped without a trace at another. -/
private lemma lookup_filter_ne {place other : List String} (h : other ≠ place)
    (entries : List (List String × Entry)) :
    (entries.filter (·.1 != place)).lookup other = entries.lookup other := by
  induction entries with
  | nil => rfl
  | cons entry entries ih =>
    obtain ⟨key, e⟩ := entry
    by_cases hkey : key = place
    · have hother : (other == key) = false := by rw [hkey]; simpa using h
      simp [hkey, List.lookup_cons, hkey ▸ hother, ih]
    · rw [List.filter_cons_of_pos (by simpa using hkey), List.lookup_cons, List.lookup_cons, ih]

/-- Something else put at a place leaves the other places as they are. -/
lemma find?_put_of_ne (s : Store) {place other : List String} (e : Entry) (h : other ≠ place) :
    (s.put place e).find? other = s.find? other := by
  have hne : (other == place) = false := by simpa using h
  simp only [find?, put, List.lookup_cons, hne, lookup_filter_ne h]

/-- What is put where no folder stands is found there. -/
lemma find?_put_self {s : Store} {place : List String} (hfree : s.find? place ≠ some .folder)
    (e : Entry) : (s.put place e).find? place = some e := by
  refine find?_put s place e ?_
  by_contra hhome
  exact hfree (by simp [find?, Bool.not_eq_false _ ▸ hhome])

/-- A path is followed past a step only if a folder is left and the step is not too long. -/
lemma follow_cons_ok {s : Store} {place q : List String} {step : String} {steps : List String} :
    s.follow place (step :: steps) = .ok q ↔
      s.find? place = some .folder ∧ step.utf8ByteSize ≤ maxStep
        ∧ s.follow (advance place step) steps = .ok q := by
  rw [follow]
  split
  case h_1 hnone => simp [hnone]
  case h_2 hfile => simp [hfile]
  case h_3 hfolder =>
    by_cases hlong : maxStep < step.utf8ByteSize
    · simp [hlong]
    · simp [hfolder, hlong, Nat.not_lt.mp hlong]

/-- A path with one more step leads where that step leads from the place before it. -/
lemma follow_concat_ok {s : Store} {place q : List String} {step : String} {steps : List String} :
    s.follow place (steps ++ [step]) = .ok q ↔
      ∃ before, s.follow place steps = .ok before ∧ s.find? before = some .folder
        ∧ step.utf8ByteSize ≤ maxStep ∧ advance before step = q := by
  induction steps generalizing place with
  | nil =>
    rw [List.nil_append, follow_cons_ok]
    simp [follow]
  | cons first steps ih =>
    rw [List.cons_append, follow_cons_ok, ih]
    constructor
    · rintro ⟨hfolder, hsize, before, hbefore, hrest⟩
      exact ⟨before, follow_cons_ok.mpr ⟨hfolder, hsize, hbefore⟩, hrest⟩
    · rintro ⟨before, hbefore, hrest⟩
      obtain ⟨hfolder, hsize, hfollow⟩ := follow_cons_ok.mp hbefore
      exact ⟨hfolder, hsize, before, hfollow, hrest⟩

/-! ## Stores with the same folders -/

/-- Two stores with the same home folder and with folders at the same places. -/
structure SameFolders (s s' : Store) : Prop where
  home : s'.home = s.home
  folder_iff : ∀ place, s'.find? place = some .folder ↔ s.find? place = some .folder

namespace SameFolders

variable {s s' s'' : Store}

lemma refl (s : Store) : SameFolders s s := ⟨rfl, fun _ => Iff.rfl⟩

lemma trans (h : SameFolders s s') (h' : SameFolders s' s'') : SameFolders s s'' :=
  ⟨h'.home.trans h.home, fun place => (h'.folder_iff place).trans (h.folder_iff place)⟩

/-- Steps that lead to a place lead to the same one. -/
lemma follow_ok_iff (h : SameFolders s s') (place q : List String) (steps : List String) :
    s'.follow place steps = .ok q ↔ s.follow place steps = .ok q := by
  induction steps generalizing place with
  | nil => simp [follow]
  | cons step steps ih => rw [follow_cons_ok, follow_cons_ok, ih, h.folder_iff]

lemma place_ok_iff (h : SameFolders s s') (p : Path) (q : List String) :
    s'.place p = .ok q ↔ s.place p = .ok q := by
  have horigin : s'.origin p.rooted = s.origin p.rooted := by
    rw [origin, origin, h.home]
  rw [place, place, horigin]
  exact h.follow_ok_iff _ _ _

lemma placeNamed_ok_iff (h : SameFolders s s') (text : String) (q : List String) :
    s'.placeNamed text = .ok q ↔ s.placeNamed text = .ok q := by
  have horigin : s'.origin (text.startsWith "/") = s.origin (text.startsWith "/") := by
    rw [origin, origin, h.home]
  by_cases hempty : text = ""
  · simp [placeNamed, hempty]
  · simp only [placeNamed, hempty, if_false, horigin]
    exact h.follow_ok_iff _ _ _

end SameFolders

/-! ## Writing -/

/-- A file is written at the place of its path, unless a folder stands there. -/
lemma write_eq_ok {s s' : Store} {p : Path} {content : Text.Bytes}
    (h : s.write p content = .ok s') :
    ∃ place, s.place p = .ok place ∧ s.find? place ≠ some .folder
      ∧ s' = s.put place (.file content) := by
  unfold write at h
  split at h
  · exact absurd h (by simp)
  · split at h
    · exact absurd h (by simp)
    · rename_i place hplace
      split at h
      · exact absurd h (by simp)
      · rename_i hfolder
        exact ⟨place, hplace, hfolder, (Except.ok.inj h).symm⟩

variable {s s' : Store} {p : Path} {content : Text.Bytes}

/-- The file stands at the place of its path. -/
lemma find?_write_self (h : s.write p content = .ok s') {place : List String}
    (hplace : s.place p = .ok place) : s'.find? place = some (.file content) := by
  obtain ⟨place', hplace', hfolder, rfl⟩ := write_eq_ok h
  obtain rfl : place' = place := Except.ok.inj (hplace'.symm.trans hplace)
  exact find?_put_self hfolder _

/-- Nothing changes at the other places. -/
lemma find?_write_of_ne (h : s.write p content = .ok s') {other : List String}
    (hother : s.place p ≠ .ok other) : s'.find? other = s.find? other := by
  obtain ⟨place, hplace, -, rfl⟩ := write_eq_ok h
  refine find?_put_of_ne s _ fun heq => ?_
  exact hother (heq ▸ hplace)

/-- No folder is made or removed. -/
lemma sameFolders_write (h : s.write p content = .ok s') : SameFolders s s' := by
  obtain ⟨place, hplace, hfolder, hs'⟩ := write_eq_ok h
  refine ⟨by rw [hs']; rfl, fun other => ?_⟩
  -- the place itself was no folder before and is a file now
  by_cases hother : other = place
  · subst hother
    rw [find?_write_self h hplace]
    simp [hfolder]
  · rw [find?_write_of_ne h fun hp => hother (Except.ok.inj (hplace.symm.trans hp)).symm]

/-! ## Reading -/

/-- A text is read alike from two stores with the same folders if the same thing stands where
its name leads. -/
lemma toOption_readText_congr (h : SameFolders s s') {text : String}
    (hsame : ∀ place, s.placeNamed text = .ok place → s'.find? place = s.find? place) :
    (s'.readText text).toOption = (s.readText text).toOption := by
  by_cases hnul : text.contains '\x00'
  · simp [readText, read, hnul]
  · cases hplace : s.placeNamed text with
    | ok place =>
      have hplace' := (h.placeNamed_ok_iff text place).mpr hplace
      simp [readText, read, hnul, hplace, hplace', bytesAt, hsame place hplace]
    | error why =>
      have hplace' : ∀ place, s'.placeNamed text ≠ .ok place := by
        intro place hp
        rw [(h.placeNamed_ok_iff text place).mp hp] at hplace
        exact absurd hplace (by simp)
      cases hs' : s'.placeNamed text with
      | ok place => exact absurd hs' (hplace' place)
      | error why' => simp [readText, read, hnul, hplace, hs', Except.toOption]

/-- The places that a text leads through. -/
def placesNamed (s : Store) (text : String) : List (List String) :=
  let steps := (splitSteps text).filter (· != "")
  placesAlong (s.origin (text.startsWith "/")) (if text.endsWith "/" then steps ++ ["."] else steps)

/-- Steps lead to the same place, or are refused alike, where the same things stand along them. -/
lemma follow_congr {s s' : Store} {steps : List String} {place : List String}
    (hsame : ∀ q ∈ placesAlong place steps, s'.find? q = s.find? q) :
    s'.follow place steps = s.follow place steps := by
  induction steps generalizing place with
  | nil => rfl
  | cons step steps ih =>
    rw [follow, follow, hsame place List.mem_cons_self,
      ih fun q hq => hsame q (List.mem_cons_of_mem _ hq)]

/-- A place that a text names is one that it leads through. -/
lemma mem_placesNamed {s : Store} {text : String} {place : List String}
    (hplace : s.placeNamed text = .ok place) : place ∈ s.placesNamed text := by
  by_cases hempty : text = ""
  · simp [placeNamed, hempty] at hplace
  · simp only [placeNamed, hempty, if_false] at hplace
    exact mem_placesAlong_of_follow hplace

/-- A text is read alike, or is unread for the same reason, where the same things stand along its
name. -/
lemma readText_congr {s s' : Store} (hhome : s'.home = s.home) {text : String}
    (hsame : ∀ q ∈ s.placesNamed text, s'.find? q = s.find? q) :
    s'.readText text = s.readText text := by
  have horigin : s'.origin (text.startsWith "/") = s.origin (text.startsWith "/") := by
    rw [origin, origin, hhome]
  have hplace : s'.placeNamed text = s.placeNamed text := by
    by_cases hempty : text = ""
    · simp [placeNamed, hempty]
    · simp only [placeNamed, hempty, if_false, horigin]
      exact follow_congr hsame
  have hread : s'.read text = s.read text := by
    rw [read, read, hplace]
    cases hnamed : s.placeNamed text with
    | error why => rfl
    | ok place => simp only [bytesAt, hsame place (mem_placesNamed hnamed)]
  rw [readText, readText, hread]

/-! ## Where a file can be written -/

/-- One step further than a folder leads somewhere unless the step is too long. -/
lemma follow_concat_of_folder {s : Store} {place before : List String} {steps : List String}
    (hbefore : s.follow place steps = .ok before) (hfolder : s.find? before = some .folder)
    (step : String) :
    s.follow place (steps ++ [step]) =
      if maxStep < step.utf8ByteSize then .error .nameTooLong else .ok (advance before step) := by
  induction steps generalizing place with
  | nil =>
    obtain rfl := Except.ok.inj hbefore
    rw [List.nil_append, follow, hfolder]
    rfl
  | cons first steps ih =>
    obtain ⟨hfirst, hsize, hrest⟩ := follow_cons_ok.mp hbefore
    rw [List.cons_append, follow, hfirst]
    simp only [if_neg (Nat.not_lt.mpr hsize)]
    exact ih hrest

/-- A file is written where its path leads, unless a folder stands there. -/
lemma write_of_place {s : Store} {p : Path} {place : List String}
    (hnul : p.text.contains '\x00' = false) (hplace : s.place p = .ok place)
    (content : Text.Bytes) :
    s.write p content = if s.find? place = some .folder then .error (.refused .isFolder p.text)
      else .ok (s.put place (.file content)) := by
  unfold write
  rw [if_neg (by simp [hnul])]
  simp only [hplace]
  split
  · rw [if_pos ‹_›]
  · rw [if_neg ‹_›]

/-- Nothing is in the way of a file at the path `p`: it leads to `place`, where no folder stands. -/
structure Writable (s : Store) (p : Path) (place : List String) : Prop where
  noNul : p.text.contains '\x00' = false
  leads : s.place p = .ok place
  free : s.find? place ≠ some .folder

namespace Writable

variable {s s' : Store} {p : Path} {place : List String}

lemma write_eq (h : s.Writable p place) (content : Text.Bytes) :
    s.write p content = .ok (s.put place (.file content)) := by
  rw [write_of_place h.noNul h.leads, if_neg h.free]

/-- A file that was written could be written. -/
lemma of_write {content : Text.Bytes} (h : s.write p content = .ok s') :
    ∃ place, s.Writable p place := by
  obtain ⟨place, hplace, hfree, -⟩ := write_eq_ok h
  refine ⟨place, ?_, hplace, hfree⟩
  by_contra hnul
  rw [Bool.not_eq_false] at hnul
  simp [write, hnul] at h

/-- Whether something is in the way depends on the folders only. -/
lemma sameFolders (h : s.Writable p place) (hsame : SameFolders s s') : s'.Writable p place where
  noNul := h.noNul
  leads := (hsame.place_ok_iff _ _).mpr h.leads
  free := fun hfolder => h.free ((hsame.folder_iff place).mp hfolder)

end Writable

/-- Whether a file can be written at a path, and why not, depends on the folders only, where the
path leads to the same place. What is written has no part in it. -/
lemma write_map_congr {γ : Type} {s s' : Store} {p : Path} (hfolders : SameFolders s s')
    (hplace : s'.place p = s.place p) (content content' : Text.Bytes) (r : γ) :
    (s'.write p content').map (fun _ => r) = (s.write p content).map (fun _ => r) := by
  by_cases hnul : p.text.contains '\x00' = true
  · simp [write, hnul]
  · rw [Bool.not_eq_true] at hnul
    cases hleads : s.place p with
    | error why => simp [write, hnul, hplace, hleads]
    | ok place =>
      rw [write_of_place hnul hleads, write_of_place hnul (hplace.trans hleads)]
      by_cases hfolder : s.find? place = some .folder
      · rw [if_pos hfolder, if_pos ((hfolders.folder_iff place).mpr hfolder)]
      · rw [if_neg hfolder, if_neg fun h => hfolder ((hfolders.folder_iff place).mp h)]
        rfl

end Store

end FixtureDraft.Files
