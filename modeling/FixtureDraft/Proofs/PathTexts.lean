import FixtureDraft.Proofs.Folders
import FixtureDraft.Proofs.Targets

/-!
# Paths as texts

The steps of a path that was read from a text hold its characters and no slashes. Written as a text
again, such a path leads where it led (`Store.placeNamed_text`), and if the text has no NUL, neither
have the path and the folders around it (`Store.makeFolders_ne_nulByte`).
-/

namespace FixtureDraft.Files

/-! ## Steps between slashes -/

/-- The pieces of a list hold its members, but not the one that parts them. -/
lemma mem_splitOn {a : Char} {xs piece : List Char} (h : piece ∈ xs.splitOn a) :
    a ∉ piece ∧ piece ⊆ xs := by
  induction xs generalizing piece with
  | nil =>
    rw [List.splitOn_nil] at h
    rw [List.mem_singleton.mp h]
    exact ⟨List.not_mem_nil, List.Subset.refl _⟩
  | cons x xs ih =>
    rw [List.splitOn_cons_eq_if_modifyHead] at h
    by_cases hx : (x == a) = true
    · rw [if_pos hx] at h
      rcases List.mem_cons.mp h with rfl | h
      · exact ⟨List.not_mem_nil, List.nil_subset _⟩
      · exact ⟨(ih h).1, List.subset_cons_of_subset _ (ih h).2⟩
    · rw [if_neg hx] at h
      cases hsplit : xs.splitOn a with
      | nil => exact absurd hsplit (List.splitOn_ne_nil a xs)
      | cons first rest =>
        rw [hsplit] at h ih
        rcases List.mem_cons.mp h with rfl | h
        · obtain ⟨hnot, hsub⟩ := ih List.mem_cons_self
          refine ⟨fun hmem => ?_, List.cons_subset_cons x hsub⟩
          rcases List.mem_cons.mp hmem with rfl | hmem
          · simp at hx
          · exact hnot hmem
        · obtain ⟨hnot, hsub⟩ := ih (List.mem_cons_of_mem _ h)
          exact ⟨hnot, List.subset_cons_of_subset _ hsub⟩

/-- Every other member of a list is in one of its pieces. -/
lemma exists_mem_splitOn {a c : Char} {xs : List Char} (hc : c ∈ xs) (hne : c ≠ a) :
    ∃ piece ∈ xs.splitOn a, c ∈ piece := by
  induction xs with
  | nil => cases hc
  | cons x xs ih =>
    rw [List.splitOn_cons_eq_if_modifyHead]
    by_cases hx : (x == a) = true
    · have hcx : c ∈ xs := by
        rcases List.mem_cons.mp hc with rfl | hc
        · exact absurd (beq_iff_eq.mp hx) hne
        · exact hc
      obtain ⟨piece, hpiece, hmem⟩ := ih hcx
      rw [if_pos hx]
      exact ⟨piece, List.mem_cons_of_mem _ hpiece, hmem⟩
    · rw [if_neg hx]
      cases hsplit : xs.splitOn a with
      | nil => exact absurd hsplit (List.splitOn_ne_nil a xs)
      | cons first rest =>
        rw [hsplit] at ih
        rw [List.modifyHead_cons]
        rcases List.mem_cons.mp hc with rfl | hc
        · exact ⟨_, List.mem_cons_self, List.mem_cons_self⟩
        · obtain ⟨piece, hpiece, hmem⟩ := ih hc
          rcases List.mem_cons.mp hpiece with rfl | hpiece
          · exact ⟨_, List.mem_cons_self, List.mem_cons_of_mem _ hmem⟩
          · exact ⟨piece, List.mem_cons_of_mem _ hpiece, hmem⟩

namespace Path

variable {p : Path} {text step : String}

/-- A step of a path that was read from a text. -/
lemma mem_ofText (h : step ∈ (ofText text).steps) :
    isStep step = true ∧ '/' ∉ step.toList ∧ step.toList ⊆ text.toList := by
  obtain ⟨hmem, hstep⟩ := List.mem_filter.mp h
  obtain ⟨piece, hpiece, rfl⟩ := List.mem_map.mp hmem
  rw [String.toList_ofList]
  exact ⟨hstep, (mem_splitOn hpiece).1, (mem_splitOn hpiece).2⟩

/-- A character of a text is in a step of its path, but for slashes and points. -/
lemma exists_of_mem {c : Char} (hc : c ∈ text.toList) (hslash : c ≠ '/') (hpoint : c ≠ '.') :
    ∃ step ∈ (ofText text).steps, c ∈ step.toList := by
  obtain ⟨piece, hpiece, hmem⟩ := exists_mem_splitOn hc hslash
  have hchars : c ∈ (String.ofList piece).toList := by rwa [String.toList_ofList]
  refine ⟨_, List.mem_filter.mpr ⟨List.mem_map.mpr ⟨piece, hpiece, rfl⟩, ?_⟩, hchars⟩
  rw [isStep, Bool.and_eq_true, bne_iff_ne, bne_iff_ne]
  constructor
  · intro hempty
    rw [hempty] at hchars
    cases hchars
  · intro hdot
    rw [hdot] at hchars
    exact hpoint (List.mem_singleton.mp hchars)

/-- A character between slashes. -/
private lemma mem_intercalate {c : Char} {steps : List String}
    (h : c ∈ ("/".intercalate steps).toList) (hslash : c ≠ '/') :
    ∃ step ∈ steps, c ∈ step.toList := by
  induction steps with
  | nil => cases h
  | cons step steps ih =>
    cases steps with
    | nil => exact ⟨step, List.mem_cons_self, by simpa using h⟩
    | cons next steps =>
      rw [String.intercalate_cons_cons, String.toList_append, String.toList_append,
        List.mem_append, List.mem_append] at h
      rcases h with (h | h) | h
      · exact ⟨step, List.mem_cons_self, h⟩
      · exact absurd (List.mem_singleton.mp h) hslash
      · obtain ⟨step', hmem, hc⟩ := ih h
        exact ⟨step', List.mem_cons_of_mem _ hmem, hc⟩

/-- A character of a path is one of its steps, but for slashes and the point that stands for no
steps. -/
lemma exists_of_mem_text {c : Char} (h : c ∈ p.text.toList) (hslash : c ≠ '/')
    (hpoint : c ≠ '.') : ∃ step ∈ p.steps, c ∈ step.toList := by
  unfold Path.text at h
  split at h
  · exact absurd (List.mem_singleton.mp h) hpoint
  · rw [String.toList_append, String.toList_ofList, List.mem_append] at h
    rcases h with h | h
    · exact absurd (List.eq_of_mem_replicate h) hslash
    · exact mem_intercalate h hslash

/-- A character of a step stands in the text of the path. -/
lemma mem_text_of_mem {c : Char} (hstep : step ∈ p.steps) (hc : c ∈ step.toList) :
    c ∈ p.text.toList := by
  have hjoined : ∀ steps : List String, step ∈ steps → c ∈ ("/".intercalate steps).toList := by
    intro steps hmem
    induction steps with
    | nil => cases hmem
    | cons first steps ih =>
      cases steps with
      | nil =>
        rw [List.mem_singleton.mp hmem] at hc
        simpa using hc
      | cons next steps =>
        rw [String.intercalate_cons_cons, String.toList_append, String.toList_append,
          List.mem_append, List.mem_append]
        rcases List.mem_cons.mp hmem with rfl | hmem
        · exact Or.inl (Or.inl hc)
        · exact Or.inr (ih hmem)
  have hne : p.steps.isEmpty = false := by
    rw [List.isEmpty_eq_false_iff]
    exact List.ne_nil_of_mem hstep
  rw [Path.text, if_neg (by simp [hne]), String.toList_append]
  exact List.mem_append_right _ (hjoined p.steps hstep)

/-- The text of a path with steps. -/
lemma toList_text (hne : p.steps ≠ []) : p.text.toList =
    List.replicate p.slashes '/' ++ ['/'].intercalate (p.steps.map String.toList) := by
  rw [Path.text, if_neg (by simp [hne]), String.toList_append, String.toList_ofList,
    String.toList_intercalate]
  rfl

/-- The steps of a path can be told from its text. -/
lemma splitSteps_text (hne : p.steps ≠ []) (hslash : ∀ step ∈ p.steps, '/' ∉ step.toList) :
    splitSteps p.text = List.replicate p.slashes "" ++ p.steps := by
  have hsplit : ∀ n : ℕ, (List.replicate n '/' ++
        ['/'].intercalate (p.steps.map String.toList)).splitOn '/'
      = List.replicate n [] ++ p.steps.map String.toList := by
    intro n
    induction n with
    | zero =>
      refine List.splitOn_intercalate '/' (fun piece hpiece => ?_) (by simpa using hne)
      obtain ⟨step, hstep, rfl⟩ := List.mem_map.mp hpiece
      exact hslash step hstep
    | succ n ih =>
      rw [List.replicate_succ, List.cons_append, List.splitOn_cons_eq_if_modifyHead,
        if_pos (beq_self_eq_true '/'), ih]
      rfl
  have hback : (p.steps.map String.toList).map String.ofList = p.steps := by
    rw [List.map_map]
    exact (List.map_congr_left fun step _ => String.ofList_toList).trans (List.map_id _)
  rw [splitSteps, toList_text hne, hsplit, List.map_append, hback, List.map_replicate]

/-- A good step begins and ends with a character that is no slash. -/
private lemma exists_char (hstep : isStep step = true) : ∃ c cs, step.toList = c :: cs := by
  cases hchars : step.toList with
  | nil =>
    rw [String.toList_eq_nil_iff.mp hchars] at hstep
    cases hstep
  | cons c cs => exact ⟨c, cs, rfl⟩

/-- The text of a path of good steps begins with a slash exactly if the path is rooted. -/
lemma startsWith_text (hne : p.steps ≠ [])
    (hsteps : ∀ step ∈ p.steps, isStep step = true ∧ '/' ∉ step.toList) :
    p.text.startsWith "/" = p.rooted := by
  obtain ⟨slashes, steps⟩ := p
  have htext := toList_text hne
  cases slashes with
  | succ n =>
    refine String.startsWith_string_iff.mpr ?_
    rw [htext]
    exact ⟨_, rfl⟩
  | zero =>
    refine String.startsWith_string_eq_false_iff.mpr ?_
    rintro ⟨rest, hrest⟩
    cases steps with
    | nil => exact hne rfl
    | cons first steps =>
      obtain ⟨hfirst, hslash⟩ := hsteps first List.mem_cons_self
      obtain ⟨c, cs, hchars⟩ := exists_char hfirst
      have hbegin : ∃ more, ['/'].intercalate ((first :: steps).map String.toList)
          = first.toList ++ more := by
        cases steps with
        | nil => exact ⟨[], by simp⟩
        | cons next steps => exact ⟨_, List.intercalate_cons_cons.trans (List.append_assoc _ _ _)⟩
      obtain ⟨more, hmore⟩ := hbegin
      rw [htext, hmore, hchars] at hrest
      have hhead : '/' = c := (List.cons.inj hrest).1
      exact hslash (by rw [hchars, hhead]; exact List.mem_cons_self)

/-- The text of a path of good steps does not end with a slash. -/
lemma endsWith_text (hne : p.steps ≠ [])
    (hsteps : ∀ step ∈ p.steps, isStep step = true ∧ '/' ∉ step.toList) :
    p.text.endsWith "/" = false := by
  obtain ⟨slashes, steps⟩ := p
  obtain ⟨start, hstart⟩ := text_concat slashes steps.dropLast
  have htext := hstart (steps.getLast hne)
  rw [List.dropLast_append_getLast hne] at htext
  obtain ⟨hlast, hslash⟩ := hsteps _ (List.getLast_mem hne)
  rw [String.endsWith_eq_endsWith_toSlice, ← Bool.not_eq_true, String.Slice.endsWith_string_iff,
    String.copy_toSlice, htext, String.toList_append]
  rintro ⟨rest, hrest⟩
  -- the last character would be one of the last step
  obtain ⟨c, cs, hchars⟩ := exists_char hlast
  have hend := congrArg List.getLast? hrest
  rw [hchars, List.getLast?_append_cons, ← hchars] at hend
  exact hslash (List.mem_of_getLast? (hend.symm.trans List.getLast?_concat))

end Path

namespace Store

/-- The text of a path leads where the path leads. -/
lemma placeNamed_text (s : Store) {p : Path} (hne : p.steps ≠ [])
    (hsteps : ∀ step ∈ p.steps, Path.isStep step = true ∧ '/' ∉ step.toList) :
    s.placeNamed p.text = s.place p := by
  have hsplit := Path.splitSteps_text hne fun step hstep => (hsteps step hstep).2
  have hempty : ∀ step ∈ p.steps, (step != "") = true := fun step hstep =>
    (Bool.and_eq_true_iff.mp (hsteps step hstep).1).1
  have hfilter : (splitSteps p.text).filter (· != "") = p.steps := by
    rw [hsplit, List.filter_append, List.filter_eq_self.mpr hempty, List.filter_eq_nil_iff.mpr,
      List.nil_append]
    intro step hstep
    rw [List.eq_of_mem_replicate hstep]
    decide
  have htext : p.text ≠ "" := by
    intro hnone
    rw [hnone] at hfilter
    exact hne hfilter.symm
  simp only [placeNamed, htext, if_false, hfilter, Path.startsWith_text hne hsteps,
    Path.endsWith_text hne hsteps]
  rfl

/-! ## Texts without NUL -/

/-- A path whose steps have no NUL has none. -/
lemma contains_nul_text {p : Path} (hnul : ∀ step ∈ p.steps, '\x00' ∉ step.toList) :
    p.text.contains '\x00' = false := by
  rw [String.contains_char_eq, decide_eq_false_iff_not]
  intro hmem
  obtain ⟨step, hstep, hc⟩ := Path.exists_of_mem_text hmem (by decide) (by decide)
  exact hnul step hstep hc

/-- A path whose steps have no NUL can be used as a path. -/
lemma makeFolder_ne_nulByte (s : Store) {p : Path}
    (hnul : ∀ step ∈ p.steps, '\x00' ∉ step.toList) : s.makeFolder p ≠ .error .nulByte := by
  unfold makeFolder
  rw [if_neg (by simp [contains_nul_text hnul])]
  split
  · simp
  · split
    all_goals simp

lemma Makes.ne_nulByte {slashes : ℕ} {back : List String} {s : Store}
    {o : Store × Option PathFault} (hmakes : Makes slashes back s o)
    (hnul : ∀ step ∈ back, '\x00' ∉ step.toList) : o.2 ≠ some .nulByte := by
  have htry : ∀ {p s o}, Tries p s o → (∀ step ∈ p.steps, '\x00' ∉ step.toList) →
      o.2 ≠ some .nulByte := by
    intro p s o htries hsteps
    cases htries with
    | made _ => simp
    | there _ => simp
    | refused hfault =>
      intro heq
      obtain rfl := Option.some.inj heq
      exact makeFolder_ne_nulByte s hsteps hfault
  induction hmakes with
  | tried htries => exact htry htries fun step hstep => hnul step (List.mem_reverse.mp hstep)
  | stuck _ ih => exact ih fun step hstep => hnul step (List.mem_cons_of_mem _ hstep)
  | behind _ htries _ => exact htry htries fun step hstep => hnul step (List.mem_reverse.mp hstep)

/-- The folders of a path whose steps have no NUL can be made, or are refused. -/
lemma makeFolders_ne_nulByte_of_steps (s : Store) {p : Path}
    (hnul : ∀ step ∈ p.steps, '\x00' ∉ step.toList) : (s.makeFolders p).2 ≠ some .nulByte :=
  (makes_makeFoldersBack _ _ s).ne_nulByte fun step hstep =>
    hnul step (List.mem_reverse.mp hstep)

/-- A folder whose path was read from a text without NUL can be made, or is refused. -/
lemma makeFolders_ne_nulByte (s : Store) {text : String} (hnul : '\x00' ∉ text.toList) :
    (s.makeFolders (.ofText text)).2 ≠ some .nulByte :=
  makeFolders_ne_nulByte_of_steps s fun _ hstep hmem => hnul ((Path.mem_ofText hstep).2.2 hmem)

end Store

end FixtureDraft.Files
