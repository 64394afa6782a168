import FixtureDraft.Files.Store

/-!
# Surveys

A program that works on a store needs only the places that its paths lead through, and leaves
behind only the places that it has changed. So a store can stand for a file system of any size:
fill it along some paths, run, and keep what is new.
-/

namespace FixtureDraft.Files

/-- The places that steps lead through, the first and the last one included. -/
def placesAlong (place : List String) : (steps : List String) → List (List String)
  | [] => [place]
  | step :: steps => place :: placesAlong (Store.advance place step) steps

/-- A place that steps lead to is one that they lead through. -/
theorem mem_placesAlong_of_follow {s : Store} {steps : List String} :
    ∀ {place last : List String}, s.follow place steps = .ok last →
      last ∈ placesAlong place steps := by
  induction steps with
  | nil =>
    intro place last h
    simp only [Store.follow, Except.ok.injEq] at h
    simp [placesAlong, h]
  | cons step steps ih =>
    intro place last h
    simp only [Store.follow] at h
    split at h
    · simp at h
    · simp at h
    · split at h
      · simp at h
      · exact List.mem_cons_of_mem _ (ih h)

namespace Store

/-- The places that a path leads through. -/
def placesOf (s : Store) (p : Path) : List (List String) :=
  placesAlong (s.origin p.rooted) p.steps

/-- What stands in `after` and not in `s`, in the order in which it was put there. -/
def changes (s after : Store) : List (List String × Entry) :=
  after.entries.reverse.filter fun (place, e) => s.find? place != some e

theorem mem_changes {s after : Store} {place : List String} {e : Entry} :
    (place, e) ∈ s.changes after ↔ (place, e) ∈ after.entries ∧ s.find? place ≠ some e := by
  simp [changes]

end Store

end FixtureDraft.Files
