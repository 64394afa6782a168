import FixtureDraft.Batch.Run
import FixtureDraft.Proofs.Stores

/-!
# Where the files of a batch are written

A qualified name without slashes is one step from the folder of the batch. Files with different
names are written at different places, and their paths differ as texts.
-/

namespace FixtureDraft

open FixtureDraft.Files

/-! ## Paths of one more step -/

namespace Files.Path

/-- A text without slashes is one step. -/
lemma splitSteps_of_not_mem {text : String} (h : '/' ∉ text.toList) :
    splitSteps text = [text] := by
  rw [splitSteps, List.splitOn_eq_singleton h, List.map_singleton, String.ofList_toList]

lemma rootSlashes_of_not_mem {text : String} (h : '/' ∉ text.toList) : rootSlashes text = 0 := by
  have htake : text.toList.takeWhile (· == '/') = [] := by
    cases htext : text.toList with
    | nil => rfl
    | cons c cs =>
      have hc : c ≠ '/' := by
        intro heq
        exact h (by simp [htext, heq])
      rw [List.takeWhile_cons_of_neg (by simpa using hc)]
  rw [rootSlashes, htake]
  rfl

/-- A text without slashes that is a step leads one step on. -/
lemma join_ofText (p : Path) {text : String} (h : '/' ∉ text.toList)
    (hstep : isStep text = true) :
    p.join (ofText text) = { p with steps := p.steps ++ [text] } := by
  rw [ofText, rootSlashes_of_not_mem h, splitSteps_of_not_mem h]
  simp [join, rooted, hstep]

/-- The text of a path of at least one step ends with the last step. -/
lemma text_concat (slashes : ℕ) (steps : List String) :
    ∃ start : String, ∀ step, (Path.mk slashes (steps ++ [step])).text = start ++ step := by
  by_cases hsteps : steps = []
  · refine ⟨String.ofList (List.replicate slashes '/'), fun step => ?_⟩
    simp [text, hsteps]
  · refine ⟨String.ofList (List.replicate slashes '/') ++ ("/".intercalate steps ++ "/"),
      fun step => ?_⟩
    rw [text, String.intercalate_append_of_ne_nil hsteps (by simp)]
    simp [String.append_assoc]

end Files.Path

/-! ## Targets -/

namespace Batch.Job

variable {j : Job} {f g : FixtureFile}

/-- The last step of a target. It leads down, for it is neither a point nor two of them. -/
private lemma targetStep_ne (name : String) :
    name ++ ".cs" ≠ "" ∧ name ++ ".cs" ≠ "." ∧ name ++ ".cs" ≠ ".." := by
  have hlength : (name ++ ".cs").length = name.length + 3 := by
    rw [String.length_append]
    rfl
  refine ⟨?_, ?_, ?_⟩
  all_goals
    intro heq
    rw [heq] at hlength
    have hshort : ∀ n : ℕ, n < 3 → n ≠ name.length + 3 := by omega
    exact hshort _ (by decide) hlength

/-- A file is written one step from the folder of the batch. -/
lemma target_eq (hext : j.extension = ".cs") (hname : '/' ∉ f.qualifiedName.toList) :
    j.target f = { j.folder with steps := j.folder.steps ++ [f.qualifiedName ++ ".cs"] } := by
  obtain ⟨hempty, hpoint, -⟩ := targetStep_ne f.qualifiedName
  rw [target, hext]
  refine Path.join_ofText j.folder ?_ ?_
  · rw [String.toList_append, List.mem_append]
    rintro (hmem | hmem)
    · exact hname hmem
    · exact absurd hmem (by decide)
  · simp [Path.isStep, hempty, hpoint]

/-- Files written at one place have one name. -/
lemma qualifiedName_eq_of_place (hext : j.extension = ".cs")
    (hf : '/' ∉ f.qualifiedName.toList) (hg : '/' ∉ g.qualifiedName.toList) {s : Store}
    {place : List String} (hplace : s.place (j.target f) = .ok place)
    (hplace' : s.place (j.target g) = .ok place) : f.qualifiedName = g.qualifiedName := by
  rw [target_eq hext hf, Store.place] at hplace
  rw [target_eq hext hg, Store.place] at hplace'
  obtain ⟨before, hbefore, -, -, rfl⟩ := Store.follow_concat_ok.mp hplace
  obtain ⟨before', hbefore', -, -, hplaces⟩ := Store.follow_concat_ok.mp hplace'
  -- both targets leave from the folder of the batch
  obtain rfl : before' = before := Except.ok.inj (hbefore'.symm.trans hbefore)
  obtain ⟨-, hpoint, hup⟩ := targetStep_ne f.qualifiedName
  obtain ⟨-, hpoint', hup'⟩ := targetStep_ne g.qualifiedName
  simp only [Store.advance, if_neg hpoint, if_neg hup, if_neg hpoint', if_neg hup'] at hplaces
  have hsteps : [g.qualifiedName ++ ".cs"] = [f.qualifiedName ++ ".cs"] :=
    List.append_cancel_left hplaces
  exact (String.append_left_inj _).mp (List.singleton_inj.mp hsteps).symm

/-- Files whose targets are written alike have one name. -/
lemma qualifiedName_eq_of_text (hext : j.extension = ".cs")
    (hf : '/' ∉ f.qualifiedName.toList) (hg : '/' ∉ g.qualifiedName.toList)
    (htext : (j.target f).text = (j.target g).text) : f.qualifiedName = g.qualifiedName := by
  obtain ⟨start, hstart⟩ := Path.text_concat j.folder.slashes j.folder.steps
  rw [target_eq hext hf, target_eq hext hg] at htext
  have hsteps : start ++ (f.qualifiedName ++ ".cs") = start ++ (g.qualifiedName ++ ".cs") := by
    rw [← hstart, ← hstart]
    exact htext
  exact (String.append_left_inj _).mp ((String.append_right_inj _).mp hsteps)

end Batch.Job

end FixtureDraft
