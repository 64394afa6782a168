import FixtureDraft.Proofs.Members

/-!
# Test names in closed form

What a method wants as the name of its test depends on its run of neighbours of one name, and what
it gets depends only on how many methods before it want the same: the first one gets the wanted name
and the next ones get it with 2, 3, … behind it. No number is skipped, since a wanted name ends in
`Test` and a renamed one in a digit.
-/

namespace FixtureDraft

/-! ## Names that end in no digit -/

/-- Whether a name has a last character and this is no digit. -/
def EndsPlain (name : String) : Prop :=
  ∃ c, name.toList.getLast? = some c ∧ c.isDigit = false

lemma endsPlain_append_test (name : String) : EndsPlain (name ++ "Test") := by
  refine ⟨'t', ?_, by decide⟩
  rw [String.toList_append, List.getLast?_append_of_ne_nil _ (by decide)]
  rfl

lemma rdropWhile_of_endsPlain {name : String} (h : EndsPlain name) :
    name.toList.rdropWhile Char.isDigit = name.toList := by
  obtain ⟨c, hlast, hc⟩ := h
  rw [List.rdropWhile_eq_self_iff]
  intro hne
  rw [List.getLast?_eq_some_getLast hne, Option.some.injEq] at hlast
  rw [hlast, hc]
  decide

/-- A number is all that can be taken off the end of a numbered name. -/
lemma rdropWhile_numbered {name : String} (h : EndsPlain name) (k : ℕ) :
    (numbered name k).toList.rdropWhile Char.isDigit = name.toList := by
  have hdigits : ∀ c ∈ (Nat.toDigits 10 k).reverse, c.isDigit = true := fun c hc =>
    Nat.isDigit_of_mem_toDigits (by decide) (by decide) (List.mem_reverse.mp hc)
  rw [toList_numbered, List.rdropWhile, List.reverse_append, List.dropWhile_append_of_pos hdigits]
  exact rdropWhile_of_endsPlain h

lemma numbered_ne_of_endsPlain {v w : String} (hv : EndsPlain v) (hw : EndsPlain w) (k : ℕ) :
    numbered v k ≠ w := by
  intro h
  have hstem := rdropWhile_numbered hv k
  rw [h, rdropWhile_of_endsPlain hw] at hstem
  rw [String.toList_inj.mp hstem] at h
  exact numbered_ne v k h

lemma numbered_inj_of_endsPlain {v w : String} (hv : EndsPlain v) (hw : EndsPlain w) {j k : ℕ}
    (h : numbered v j = numbered w k) : v = w ∧ j = k := by
  have hstem := rdropWhile_numbered hv j
  rw [h, rdropWhile_numbered hw] at hstem
  obtain rfl := String.toList_inj.mp hstem
  exact ⟨rfl, numbered_injective w h⟩

/-! ## Names by occurrence -/

lemma occurrenceName_inj {v w : String} (hv : EndsPlain v) (hw : EndsPlain w) {m n : ℕ}
    (h : occurrenceName v m = occurrenceName w n) : v = w ∧ m = n := by
  cases m with
  | zero =>
    cases n with
    | zero => exact ⟨h, rfl⟩
    | succ n => exact absurd h.symm (numbered_ne_of_endsPlain hw hv _)
  | succ m =>
    cases n with
    | zero => exact absurd h (numbered_ne_of_endsPlain hv hw _)
    | succ n =>
      obtain ⟨hvw, hmn⟩ := numbered_inj_of_endsPlain hv hw h
      exact ⟨hvw, by omega⟩

/-- The names in `taken` are those that were given to the ones who wanted `wanted`. -/
def GivenFor (taken wanted : List String) : Prop :=
  ∀ x, x ∈ taken ↔ ∃ w n, n < wanted.count w ∧ x = occurrenceName w n

/-- As long as all wanted names end in no digit, who wants a name gets it by the number of those who
wanted it before. -/
lemma freeName_of_givenFor {taken wanted : List String} {name : String}
    (hgiven : GivenFor taken wanted) (hwanted : ∀ w ∈ wanted, EndsPlain w)
    (hname : EndsPlain name) :
    freeName name taken = occurrenceName name (wanted.count name) := by
  have hplain : ∀ w n, n < wanted.count w → EndsPlain w := fun w n hn =>
    hwanted w (List.count_pos_iff.mp (by omega))
  have hfree : occurrenceName name (wanted.count name) ∉ taken := by
    intro hmem
    obtain ⟨w, n, hn, heq⟩ := (hgiven _).mp hmem
    obtain ⟨rfl, hcount⟩ := occurrenceName_inj hname (hplain w n hn) heq
    omega
  have hbefore : ∀ i < wanted.count name, occurrenceName name i ∈ taken := fun i hi =>
    (hgiven _).mpr ⟨name, i, hi, rfl⟩
  exact freeName_eq_occurrenceName hfree hbefore

/-- One more name given keeps the account of the names given. -/
lemma GivenFor.concat {taken wanted : List String} (hgiven : GivenFor taken wanted)
    (name : String) :
    GivenFor (occurrenceName name (wanted.count name) :: taken) (wanted ++ [name]) := by
  intro x
  rw [List.mem_cons, hgiven x]
  constructor
  · rintro (rfl | ⟨w, n, hn, rfl⟩)
    · exact ⟨name, wanted.count name, by simp, rfl⟩
    · exact ⟨w, n, by rw [List.count_append]; omega, rfl⟩
  · rintro ⟨w, n, hn, rfl⟩
    rw [List.count_append] at hn
    by_cases hlt : n < wanted.count w
    · exact Or.inr ⟨w, n, hlt, rfl⟩
    · have hsingle : [name].count w ≤ 1 := List.count_le_length
      obtain rfl : w = name :=
        List.mem_singleton.mp (List.count_pos_iff.mp (show 0 < [name].count w by omega))
      exact Or.inl (by rw [show n = wanted.count w by omega])

/-- Names reserved in turn, by the number of those who wanted the same name before. -/
lemma reserveAll_eq_mapIdx {taken before names : List String} (hgiven : GivenFor taken before)
    (hbefore : ∀ w ∈ before, EndsPlain w) (hnames : ∀ w ∈ names, EndsPlain w) :
    reserveAll names taken
      = names.mapIdx fun i w => occurrenceName w ((before ++ names.take i).count w) := by
  induction names generalizing taken before with
  | nil => rfl
  | cons name names ih =>
    have hname := hnames name (List.mem_cons_self ..)
    have hmore : ∀ w ∈ before ++ [name], EndsPlain w := by
      intro w hw
      rcases List.mem_append.mp hw with hw | hw
      · exact hbefore w hw
      · exact List.mem_singleton.mp hw ▸ hname
    have hfree := freeName_of_givenFor hgiven hbefore hname
    rw [reserveAll_cons, List.mapIdx_cons, hfree,
      ih (hgiven.concat name) hmore fun w hw => hnames w (List.mem_cons_of_mem _ hw)]
    simp

/-! ## Runs of one name -/

/-- What a method wants as the name of its test, with the names of the methods before it and after
it: a number tells it from neighbours of the same name. -/
def candidateName (before : List String) (name : String) (after : List String) : String :=
  let index := (before.reverse.takeWhile (· == name)).length
  if index = 0 ∧ after.head? ≠ some name then name ++ "Test" else numbered name index ++ "Test"

/-- What the methods want as the names of their tests. -/
def candidateNames (names : List String) : List String :=
  names.mapIdx fun i name => candidateName (names.take i) name (names.drop (i + 1))

/-- Names are made of runs of one name, each of which is followed by another name or by nothing. -/
lemma run_induction {P : List String → Prop} (nil : P [])
    (run : ∀ name k rest, rest.head? ≠ some name → P rest →
      P (List.replicate (k + 1) name ++ rest)) (names : List String) : P names := by
  match names with
  | [] => exact nil
  | name :: names =>
    have hrun : names.takeWhile (· == name)
        = List.replicate (names.takeWhile (· == name)).length name :=
      List.eq_replicate_iff.mpr ⟨rfl, fun b hb => by simpa using List.mem_takeWhile_imp hb⟩
    have hrest : (names.dropWhile (· == name)).head? ≠ some name := by
      intro h
      have hnot := List.head?_dropWhile_not (· == name) names
      rw [h] at hnot
      simp at hnot
    have hnames : name :: names
        = List.replicate ((names.takeWhile (· == name)).length + 1) name
          ++ names.dropWhile (· == name) := by
      rw [List.replicate_succ, ← hrun, List.cons_append, List.takeWhile_append_dropWhile]
    rw [hnames]
    exact run name _ _ hrest (run_induction nil run _)
termination_by names.length
decreasing_by exact Nat.lt_succ_of_le (List.length_dropWhile_le _ _)

/-- Inside a run, a method wants its place in the run, unless it is alone. -/
lemma candidateName_in_run {name : String} {j k : ℕ} {rest : List String} (hj : j ≤ k)
    (hrest : rest.head? ≠ some name) :
    candidateName (List.replicate j name) name (List.replicate (k - j) name ++ rest)
      = if k = 0 then name ++ "Test" else numbered name j ++ "Test" := by
  have hindex : ((List.replicate j name).reverse.takeWhile (· == name)).length = j := by
    rw [List.reverse_replicate, List.takeWhile_replicate, if_pos (by simp), List.length_replicate]
  have hfollows : (List.replicate (k - j) name ++ rest).head? ≠ some name ↔ k = j := by
    cases hkj : k - j with
    | zero =>
      constructor
      · intro _
        omega
      · intro _
        exact hrest
    | succ i =>
      constructor
      · intro h
        exact absurd rfl h
      · intro _
        omega
  simp only [candidateName, hindex, hfollows]
  by_cases hk : k = 0
  · rw [if_pos hk, if_pos (by omega)]
  · rw [if_neg hk, if_neg (by omega)]

/-- A run of one name before another one has no part in what a method wants. -/
lemma candidateName_behind_run {name : String} {k i : ℕ} {rest after : List String}
    (hrest : rest.head? ≠ some name) (hi : i < rest.length) :
    candidateName (List.replicate k name ++ rest.take i) rest[i] after
      = candidateName (rest.take i) rest[i] after := by
  have hindex : ((List.replicate k name ++ rest.take i).reverse.takeWhile (· == rest[i])).length
      = ((rest.take i).reverse.takeWhile (· == rest[i])).length := by
    rw [List.reverse_append, List.takeWhile_append]
    split
    next hall =>
      -- all of `rest` up to here has the one name, so `rest` begins with it
      have hsame : ∀ x ∈ rest.take i, x = rest[i] := by
        intro x hx
        rw [← List.mem_reverse, ← (List.takeWhile_prefix (· == rest[i])).eq_of_length hall] at hx
        simpa using List.mem_takeWhile_imp hx
      have hhead : rest.head? = some rest[i] := by
        cases rest with
        | nil => cases hi
        | cons y ys =>
          cases i with
          | zero => rfl
          | succ i => exact congrArg some (hsame y (by simp))
      have hne : name ≠ rest[i] := by
        intro h
        exact hrest (h ▸ hhead)
      rw [List.reverse_replicate, List.takeWhile_replicate, if_neg (by simpa using hne),
        List.append_nil]
      exact hall.symm
    next => rfl
  simp only [candidateName, hindex]

lemma wantedTestNames_replicate (name : String) (k : ℕ) :
    wantedTestNames (List.replicate (k + 1) name)
      = (List.range (k + 1)).map fun j =>
          if k = 0 then name ++ "Test" else numbered name j ++ "Test" := by
  cases k with
  | zero => rfl
  | succ k =>
    rw [List.replicate_succ, List.replicate_succ, wantedTestNames]
    · rw [← List.replicate_succ, ← List.replicate_succ]
      refine List.ext_getElem (by simp) fun j hj hj' => ?_
      simp
    · intro x h
      cases h

/-- The first run wants its names, and the methods behind it want what they want without it. -/
lemma candidateNames_run {name : String} {k : ℕ} {rest : List String}
    (hrest : rest.head? ≠ some name) :
    candidateNames (List.replicate (k + 1) name ++ rest)
      = wantedTestNames (List.replicate (k + 1) name) ++ candidateNames rest := by
  rw [candidateNames, List.mapIdx_append, wantedTestNames_replicate, candidateNames]
  congr 1
  · refine List.ext_getElem (by simp) fun j hj hj' => ?_
    have hjk : j ≤ k := by
      rw [List.length_mapIdx, List.length_replicate] at hj
      omega
    rw [List.getElem_mapIdx, List.getElem_replicate, List.getElem_map, List.getElem_range,
      ← candidateName_in_run hjk hrest, List.take_append_of_le_length (by simp; omega),
      List.take_replicate, List.drop_append_of_le_length (by simp; omega), List.drop_replicate,
      show min j (k + 1) = j by omega, show k + 1 - (j + 1) = k - j by omega]
  · refine List.ext_getElem (by simp) fun i hi hi' => ?_
    have hlength : i < rest.length := by
      rw [List.length_mapIdx] at hi
      exact hi
    rw [List.getElem_mapIdx, List.getElem_mapIdx, ← candidateName_behind_run hrest hlength,
      Nat.add_comm i, List.take_length_add_append, Nat.add_assoc, List.drop_length_add_append]

/-- The names that are wanted for all runs, one method at a time. -/
lemma candidateNames_eq (names : List String) :
    candidateNames names = (names.splitBy (· == ·)).flatMap wantedTestNames := by
  induction names using run_induction with
  | nil => rfl
  | run name k rest hrest ih =>
    have hrun : (List.replicate (k + 1) name).splitBy (· == ·) = [List.replicate (k + 1) name] :=
      List.splitBy_of_isChain (by simp) (List.isChain_replicate_of_rel _ (by simp))
    have hsplit : (List.replicate (k + 1) name ++ rest).splitBy (· == ·)
        = List.replicate (k + 1) name :: rest.splitBy (· == ·) := by
      rw [List.splitBy_append, hrun]
      · rfl
      · intro x hx y hy
        obtain rfl : x = name := List.eq_of_mem_replicate (List.mem_of_mem_getLast? hx)
        rw [beq_eq_false_iff_ne]
        rintro rfl
        exact hrest hy
    rw [candidateNames_run hrest, hsplit, List.flatMap_cons, ih]

/-! ## Assigned names -/

lemma endsPlain_of_mem_candidateNames {names : List String} {w : String}
    (hw : w ∈ candidateNames names) : EndsPlain w := by
  rw [candidateNames_eq] at hw
  obtain ⟨run, -, hmem⟩ := List.mem_flatMap.mp hw
  obtain ⟨name, -, rfl | ⟨i, rfl⟩⟩ := exists_of_mem_wantedTestNames hmem
  · exact endsPlain_append_test name
  · exact endsPlain_append_test (numbered name i)

/-- A method gets what it wants, with the number of methods before it that want the same, and one
more, behind it if there are any. -/
lemma testNames_eq_mapIdx (names : List String) :
    testNames names = (candidateNames names).mapIdx fun i w =>
      occurrenceName w (((candidateNames names).take i).count w) := by
  have hnone : GivenFor [] [] := by
    intro x
    simp
  rw [testNames, ← candidateNames_eq, reserveAll_eq_mapIdx hnone (by simp) fun w hw =>
    endsPlain_of_mem_candidateNames hw]
  rfl

/-- Every method gets one test name: what it wants if no method before it wants the same, and else
that with the number of these methods and one more behind it. The names are pairwise distinct, and
none is the name of the setup or that of a fixture. -/
theorem testNames_closed_form (names : List String) :
    (testNames names).length = names.length
      ∧ testNames names = ((candidateNames names).mapIdx fun i w =>
          occurrenceName w (((candidateNames names).take i).count w))
      ∧ (testNames names).Nodup
      ∧ "Setup" ∉ testNames names
      ∧ ∀ s : String, s ++ "Tests" ∉ testNames names :=
  ⟨length_testNames names, testNames_eq_mapIdx names, nodup_testNames names,
    setup_not_mem_testNames names, fun s => fixtureName_not_mem_testNames s names⟩

example : candidateNames ["Get", "Get", "Get0"] = ["Get0Test", "Get1Test", "Get0Test"] := by
  decide +kernel

example : testNames ["Get", "Get", "Get0"] = ["Get0Test", "Get1Test", "Get0Test2"] := by
  decide +kernel

end FixtureDraft
