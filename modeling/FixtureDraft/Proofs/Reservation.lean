import FixtureDraft.Naming
import Mathlib

/-!
# Reserved names

Facts about `freeName` and `reserveAll`: a reserved name is free, it is the wanted name with
nothing or a number behind it, and names reserved one after another are pairwise distinct. The
search for a free name ends, as no name is tried twice and only so many are taken. Main statement:
`reserve_fresh_and_least`.
-/

namespace FixtureDraft

/-! ## Numbered names -/

/-- A numbered name is the name and then the decimal digits of the number. -/
lemma toList_numbered (name : String) (k : ℕ) :
    (numbered name k).toList = name.toList ++ Nat.toDigits 10 k := by
  rw [numbered, String.toList_append, Nat.toString_eq_repr, Nat.toList_repr]

/-- Different numbers make different names. -/
lemma numbered_injective (name : String) : Function.Injective (numbered name) := by
  intro j k h
  have hlist : name.toList ++ Nat.toDigits 10 j = name.toList ++ Nat.toDigits 10 k := by
    rw [← toList_numbered, ← toList_numbered, h]
  have hdigits : Nat.toDigits 10 j = Nat.toDigits 10 k := List.append_cancel_left hlist
  rw [← Nat.ofDigitChars_ten_toDigits (n := j), hdigits, Nat.ofDigitChars_ten_toDigits]

/-- A number makes a name longer, so the name itself is no candidate. -/
lemma numbered_ne (name : String) (k : ℕ) : numbered name k ≠ name := by
  intro h
  have hlist := toList_numbered name k
  rw [h] at hlist
  exact Nat.toDigits_ne_nil (List.self_eq_append_right.mp hlist)

/-! ## Names by occurrence -/

/-- What the `n`-th one of those who want `w` gets, counted from zero. -/
def occurrenceName (w : String) (n : ℕ) : String :=
  if n = 0 then w else numbered w (n + 1)

lemma occurrenceName_zero (w : String) : occurrenceName w 0 = w := rfl

lemma occurrenceName_succ (w : String) (n : ℕ) :
    occurrenceName w (n + 1) = numbered w (n + 2) := rfl

/-- No name is given twice. -/
lemma occurrenceName_injective (w : String) : Function.Injective (occurrenceName w) := by
  intro m n h
  cases m with
  | zero =>
    cases n with
    | zero => rfl
    | succ n => exact absurd h.symm (numbered_ne w _)
  | succ m =>
    cases n with
    | zero => exact absurd h (numbered_ne w _)
    | succ n =>
      have hnumbers := numbered_injective w h
      omega

/-- If all before the `n`-th one are taken, there are at least `n` taken names. -/
lemma le_card_of_occurrenceName_mem {name : String} {taken : List String} {n : ℕ}
    (h : ∀ i < n, occurrenceName name i ∈ taken) : n ≤ taken.toFinset.card := by
  have hsub : (Finset.range n).image (occurrenceName name) ⊆ taken.toFinset := by
    intro x hx
    obtain ⟨i, hi, rfl⟩ := Finset.mem_image.mp hx
    exact List.mem_toFinset.mpr (h i (Finset.mem_range.mp hi))
  calc n = ((Finset.range n).image (occurrenceName name)).card := by
        rw [Finset.card_image_of_injective _ (occurrenceName_injective name), Finset.card_range]
    _ ≤ taken.toFinset.card := Finset.card_le_card hsub

/-! ## Free names -/

/-- Among as many candidates as there are taken names, one is free: together with the name
itself they would otherwise be more names than are taken. -/
lemma exists_numbered_not_mem {name : String} {taken : List String} (h : name ∈ taken) :
    ∃ k ∈ List.range' 2 taken.length, numbered name k ∉ taken := by
  by_contra hall
  push Not at hall
  have hmem : ∀ i < taken.length + 1, occurrenceName name i ∈ taken := by
    intro i hi
    cases i with
    | zero => exact h
    | succ i => exact hall (i + 2) (List.mem_range'_1.mpr ⟨by omega, by omega⟩)
  have hle := (le_card_of_occurrenceName_mem hmem).trans taken.toFinset_card_le
  omega

/-- The name that is chosen for a taken one has the least number, from two on, that makes it
free. -/
lemma freeName_least {name : String} {taken : List String} (h : name ∈ taken) :
    ∃ k, 2 ≤ k ∧ freeName name taken = numbered name k ∧ numbered name k ∉ taken
      ∧ ∀ j, 2 ≤ j → j < k → numbered name j ∈ taken := by
  obtain ⟨j, hj, hfree⟩ := exists_numbered_not_mem h
  have hsome : ((List.range' 2 taken.length).find? fun k =>
      !taken.contains (numbered name k)).isSome := by
    rw [List.find?_isSome]
    exact ⟨j, hj, by simpa using hfree⟩
  obtain ⟨k, hk⟩ := Option.isSome_iff_exists.mp hsome
  obtain ⟨hfirst, hrange, hbelow⟩ := List.find?_range'_eq_some.mp hk
  refine ⟨k, (List.mem_range'_1.mp hrange).1, ?_, by simpa using hfirst, ?_⟩
  · rw [freeName, if_pos (by simpa using h), hk]
  · intro i hi hik
    simpa using hbelow i hi hik

/-- Whether `x` is the name with the least number behind it, from two on, that is not taken. -/
def IsLeastFree (name : String) (taken : List String) (x : String) : Prop :=
  ∃ k, 2 ≤ k ∧ x = numbered name k ∧ x ∉ taken ∧ ∀ j, 2 ≤ j → j < k → numbered name j ∈ taken

/-- Only which names are taken counts, and not their order. -/
lemma IsLeastFree.congr {name x : String} {taken others : List String}
    (h : IsLeastFree name taken x) (hsame : ∀ y, y ∈ taken ↔ y ∈ others) :
    IsLeastFree name others x := by
  obtain ⟨k, hk, hx, hfree, hbelow⟩ := h
  exact ⟨k, hk, hx, fun hmem => hfree ((hsame x).mpr hmem),
    fun j hj hjk => (hsame _).mp (hbelow j hj hjk)⟩

lemma isLeastFree_freeName {name : String} {taken : List String} (h : name ∈ taken) :
    IsLeastFree name taken (freeName name taken) := by
  obtain ⟨k, hk, hname, hfree, hbelow⟩ := freeName_least h
  exact ⟨k, hk, hname, hname ▸ hfree, hbelow⟩

/-- The name that is chosen for a taken one is a candidate that is free. -/
lemma freeName_of_mem {name : String} {taken : List String} (h : name ∈ taken) :
    ∃ k, freeName name taken = numbered name k ∧ numbered name k ∉ taken := by
  obtain ⟨k, -, hk, hfree, -⟩ := freeName_least h
  exact ⟨k, hk, hfree⟩

lemma freeName_of_not_mem {name : String} {taken : List String} (h : name ∉ taken) :
    freeName name taken = name := by
  rw [freeName, if_neg (by simpa using h)]

/-- The first one that is not taken is the free name. -/
lemma freeName_eq_occurrenceName {name : String} {taken : List String} {n : ℕ}
    (hfree : occurrenceName name n ∉ taken) (hbefore : ∀ i < n, occurrenceName name i ∈ taken) :
    freeName name taken = occurrenceName name n := by
  cases n with
  | zero =>
    rw [occurrenceName_zero] at hfree ⊢
    exact freeName_of_not_mem hfree
  | succ n =>
    have hname : name ∈ taken := hbefore 0 n.succ_pos
    obtain ⟨k, hk, hfreeName, hnot, hleast⟩ := freeName_least hname
    -- all numbers below `n + 2` are taken, and this one is not
    have hle : k ≤ n + 2 := by
      by_contra hlt
      exact hfree (hleast (n + 2) (by omega) (by omega))
    have hge : n + 2 ≤ k := by
      by_contra hlt
      obtain ⟨i, rfl⟩ : ∃ i, k = i + 2 := ⟨k - 2, by omega⟩
      exact hnot (hbefore (i + 1) (by omega))
    rw [hfreeName, occurrenceName_succ, hle.antisymm hge]

/-- A free name is the wanted name, or that name with a number behind it. -/
lemma freeName_eq_or (name : String) (taken : List String) :
    freeName name taken = name ∨ ∃ k, freeName name taken = numbered name k := by
  by_cases h : name ∈ taken
  · obtain ⟨k, hk, -⟩ := freeName_of_mem h
    exact Or.inr ⟨k, hk⟩
  · exact Or.inl (freeName_of_not_mem h)

/-- A free name is free. -/
theorem freeName_not_mem (name : String) (taken : List String) :
    freeName name taken ∉ taken := by
  by_cases h : name ∈ taken
  · obtain ⟨k, hk, hfree⟩ := freeName_of_mem h
    rwa [hk]
  · rwa [freeName_of_not_mem h]

/-- Nothing is put before a wanted name. -/
lemma prefix_freeName (name : String) (taken : List String) :
    name.toList <+: (freeName name taken).toList := by
  rcases freeName_eq_or name taken with h | ⟨k, h⟩
  · rw [h]
  · rw [h, toList_numbered]
    exact List.prefix_append _ _

/-- The last character of a free name is that of the wanted name, or a digit. -/
lemma getLast?_freeName (name : String) (taken : List String) :
    (freeName name taken).toList.getLast? = name.toList.getLast? ∨
      ∃ c, (freeName name taken).toList.getLast? = some c ∧ c.isDigit = true := by
  rcases freeName_eq_or name taken with h | ⟨k, h⟩
  · exact Or.inl (by rw [h])
  · refine Or.inr ⟨(Nat.toDigits 10 k).getLast Nat.toDigits_ne_nil, ?_, ?_⟩
    · rw [h, toList_numbered, List.getLast?_append_of_ne_nil _ Nat.toDigits_ne_nil,
        List.getLast?_eq_some_getLast Nat.toDigits_ne_nil]
    · exact Nat.isDigit_of_mem_toDigits (by decide) (by decide) (List.getLast_mem _)

/-! ## Names reserved in turn -/

lemma reserveAll_cons (name : String) (names taken : List String) :
    reserveAll (name :: names) taken
      = freeName name taken :: reserveAll names (freeName name taken :: taken) := rfl

/-- Reserving some names and then others is reserving all of them. -/
lemma reserveAll_append (xs ys taken : List String) :
    reserveAll (xs ++ ys) taken
      = reserveAll xs taken ++ reserveAll ys ((reserveAll xs taken).reverse ++ taken) := by
  induction xs generalizing taken with
  | nil => rfl
  | cons x xs ih =>
    rw [List.cons_append, reserveAll_cons, reserveAll_cons, ih, List.cons_append,
      List.reverse_cons, List.append_assoc, List.singleton_append]

@[simp] lemma length_reserveAll (names taken : List String) :
    (reserveAll names taken).length = names.length := by
  induction names generalizing taken with
  | nil => rfl
  | cons name names ih => rw [reserveAll_cons, List.length_cons, ih, List.length_cons]

/-- No reserved name was taken before. -/
lemma not_mem_of_mem_reserveAll {names taken : List String} {x : String}
    (hx : x ∈ reserveAll names taken) : x ∉ taken := by
  induction names generalizing taken with
  | nil => cases hx
  | cons name names ih =>
    rw [reserveAll_cons] at hx
    rcases List.mem_cons.mp hx with rfl | hx
    · exact freeName_not_mem name taken
    · exact fun hmem => ih hx (List.mem_cons_of_mem _ hmem)

/-- Names reserved in turn are pairwise distinct. -/
theorem nodup_reserveAll (names taken : List String) : (reserveAll names taken).Nodup := by
  induction names generalizing taken with
  | nil => exact List.nodup_nil
  | cons name names ih =>
    rw [reserveAll_cons]
    refine List.nodup_cons.mpr ⟨fun hmem => ?_, ih _⟩
    exact not_mem_of_mem_reserveAll hmem (List.mem_cons_self ..)

/-- Every reserved name is a free name for one of the wanted names. -/
lemma exists_of_mem_reserveAll {names taken : List String} {x : String}
    (hx : x ∈ reserveAll names taken) : ∃ name ∈ names, ∃ others, x = freeName name others := by
  induction names generalizing taken with
  | nil => cases hx
  | cons name names ih =>
    rw [reserveAll_cons] at hx
    rcases List.mem_cons.mp hx with rfl | hx
    · exact ⟨name, List.mem_cons_self .., taken, rfl⟩
    · obtain ⟨wanted, hwanted, others, rfl⟩ := ih hx
      exact ⟨wanted, List.mem_cons_of_mem _ hwanted, others, rfl⟩

/-! ## The search, turn by turn -/

/-- A name that is tried, and the number that it has. The wanted name itself counts as the first. -/
structure Candidate where
  text : String
  number : ℕ

/-- What is tried for a name after so many renumberings. As long as a candidate is taken, the name
with the next number is tried in its place. -/
inductive Candidate.TriedAfter (name : String) (taken : List String) :
    (turns : ℕ) → Candidate → Prop
  | start : TriedAfter name taken 0 ⟨name, 1⟩
  | renumber {turns : ℕ} {c : Candidate} (hc : TriedAfter name taken turns c)
      (htaken : c.text ∈ taken) :
      TriedAfter name taken (turns + 1) ⟨numbered name (c.number + 1), c.number + 1⟩

namespace Candidate.TriedAfter

variable {name : String} {taken : List String} {turns : ℕ} {c : Candidate}

/-- Each renumbering leaves one more taken name behind. -/
lemma eq_occurrenceName (h : TriedAfter name taken turns c) :
    c = ⟨occurrenceName name turns, turns + 1⟩ ∧ ∀ i < turns, occurrenceName name i ∈ taken := by
  induction h with
  | start => exact ⟨rfl, fun i hi => absurd hi (Nat.not_lt_zero i)⟩
  | @renumber turns c _ htaken ih =>
    obtain ⟨rfl, hbehind⟩ := ih
    refine ⟨rfl, fun i hi => ?_⟩
    obtain hi | rfl := Nat.lt_succ_iff_lt_or_eq.mp hi
    · exact hbehind i hi
    · exact htaken

/-- There are no more renumberings than taken names. -/
lemma turns_le_card (h : TriedAfter name taken turns c) : turns ≤ taken.toFinset.card :=
  le_card_of_occurrenceName_mem h.eq_occurrenceName.2

/-- A candidate that is not taken is the free name. -/
lemma text_eq_freeName (h : TriedAfter name taken turns c) (hfree : c.text ∉ taken) :
    c.text = freeName name taken := by
  obtain ⟨rfl, hbehind⟩ := h.eq_occurrenceName
  exact (freeName_eq_occurrenceName hfree hbehind).symm

/-- The search ends: else it would be renumbered more often than there are taken names. -/
lemma exists_not_mem (name : String) (taken : List String) :
    ∃ turns c, TriedAfter name taken turns c ∧ c.text ∉ taken := by
  by_contra hnone
  push Not at hnone
  -- a search that never ends can be renumbered any number of times
  have hforever : ∀ turns, ∃ c, TriedAfter name taken turns c := by
    intro turns
    induction turns with
    | zero => exact ⟨_, .start⟩
    | succ turns ih =>
      obtain ⟨c, hc⟩ := ih
      exact ⟨_, hc.renumber (hnone turns c hc)⟩
  obtain ⟨c, hc⟩ := hforever (taken.toFinset.card + 1)
  exact absurd hc.turns_le_card (Nat.not_succ_le_self _)

end Candidate.TriedAfter

/-- The search for a free name ends after at most as many renumberings as there are taken names, and
with the name that is reserved. That is the wanted name, if it is not taken, and else the name with
the least number from two on that is not; it is all that the taken names gain. So names that are
reserved in turn differ from each other and from all names taken before. -/
theorem reserve_fresh_and_least (name : String) (names taken : List String) :
    (∀ turns c, Candidate.TriedAfter name taken turns c → turns ≤ taken.toFinset.card)
      ∧ (∃ turns c, Candidate.TriedAfter name taken turns c ∧ c.text ∉ taken)
      ∧ (∀ turns c, Candidate.TriedAfter name taken turns c → c.text ∉ taken →
          c.text = (reserve name taken).1)
      ∧ (name ∉ taken → (reserve name taken).1 = name)
      ∧ (name ∈ taken → IsLeastFree name taken (reserve name taken).1)
      ∧ (reserve name taken).1 ∉ taken
      ∧ (reserve name taken).2.toFinset = insert (reserve name taken).1 taken.toFinset
      ∧ (reserveAll names taken).length = names.length
      ∧ (reserveAll names taken).Nodup
      ∧ (reserveAll names taken).Disjoint taken := by
  refine ⟨fun _ _ h => h.turns_le_card, Candidate.TriedAfter.exists_not_mem name taken,
    fun _ _ h hfree => h.text_eq_freeName hfree, freeName_of_not_mem, isLeastFree_freeName,
    freeName_not_mem name taken, ?_, length_reserveAll names taken, nodup_reserveAll names taken,
    fun _ hx => not_mem_of_mem_reserveAll hx⟩
  rw [reserve, List.toFinset_cons]

/-- With `a` and `a2` taken, one more `a` becomes `a3`, after two renumberings. -/
theorem reserve_fresh_and_least_for_taken_name :
    "a" ∈ ["a", "a2"] ∧ (reserve "a" ["a", "a2"]).1 = "a3"
      ∧ IsLeastFree "a" ["a", "a2"] (reserve "a" ["a", "a2"]).1
      ∧ reserveAll ["a", "b", "a"] ["a", "a2"] = ["a3", "b", "a4"]
      ∧ (reserveAll ["a", "b", "a"] ["a", "a2"]).Nodup := by
  have hmem : "a" ∈ ["a", "a2"] := by decide
  obtain ⟨-, -, -, -, hleast, -, -, -, hnodup, -⟩ :=
    reserve_fresh_and_least "a" ["a", "b", "a"] ["a", "a2"]
  exact ⟨hmem, by decide +kernel, hleast hmem, by decide +kernel, hnodup⟩

end FixtureDraft
