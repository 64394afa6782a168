import FixtureDraft.Fixture.Draft
import FixtureDraft.Proofs.Reservation

/-!
# Names of tests

Every method gets a test name, in the order of the methods, and no two of these are equal. A test
name begins like the name of its method and ends in `Test` or in a digit, which tells it apart
from the name of the setup method and from that of a fixture.
-/

namespace FixtureDraft

/-! ## Wanted names -/

/-- Every method of a run wants one name. -/
@[simp] lemma length_wantedTestNames (run : List String) :
    (wantedTestNames run).length = run.length := by
  unfold wantedTestNames
  split
  · rfl
  · rw [List.length_map, List.length_zipIdx]

/-- A wanted name is the name of a method of the run, perhaps with a number, and then `Test`. -/
lemma exists_of_mem_wantedTestNames {run : List String} {x : String}
    (hx : x ∈ wantedTestNames run) :
    ∃ name ∈ run, x = name ++ "Test" ∨ ∃ i, x = numbered name i ++ "Test" := by
  unfold wantedTestNames at hx
  split at hx
  · rename_i name
    exact ⟨name, List.mem_singleton_self name, Or.inl (List.mem_singleton.mp hx)⟩
  · obtain ⟨⟨name, i⟩, hmem, rfl⟩ := List.mem_map.mp hx
    exact ⟨name, List.fst_mem_of_mem_zipIdx hmem, Or.inr ⟨i, rfl⟩⟩

/-- The runs of equal names make up the list of names. -/
lemma mem_of_mem_splitBy {names run : List String} {name : String}
    (hrun : run ∈ names.splitBy (· == ·)) (hname : name ∈ run) : name ∈ names := by
  rw [← List.flatten_splitBy (· == ·) names]
  exact List.mem_flatten.mpr ⟨run, hrun, hname⟩

/-! ## Assigned names -/

/-- Every method gets one test name. -/
@[simp] theorem length_testNames (methods : List String) :
    (testNames methods).length = methods.length := by
  have hruns : (methods.splitBy (· == ·)).flatten.length = methods.length := by
    rw [List.flatten_splitBy]
  rw [testNames, length_reserveAll, List.length_flatMap, ← hruns, List.length_flatten]
  congr 1
  exact List.map_congr_left fun run _ => length_wantedTestNames run

theorem nodup_testNames (methods : List String) : (testNames methods).Nodup :=
  nodup_reserveAll _ _

/-- An assigned name is a free name for what some method wants. -/
lemma exists_of_mem_testNames {methods : List String} {x : String} (hx : x ∈ testNames methods) :
    ∃ name ∈ methods, ∃ wanted others, x = freeName wanted others ∧
      (wanted = name ++ "Test" ∨ ∃ i, wanted = numbered name i ++ "Test") := by
  obtain ⟨wanted, hwanted, others, rfl⟩ := exists_of_mem_reserveAll hx
  obtain ⟨run, hrun, hwanted⟩ := List.mem_flatMap.mp hwanted
  obtain ⟨name, hname, hshape⟩ := exists_of_mem_wantedTestNames hwanted
  exact ⟨name, mem_of_mem_splitBy hrun hname, wanted, others, rfl, hshape⟩

/-- A test name ends in a `t` or in a digit. -/
lemma getLast?_of_mem_testNames {methods : List String} {x : String}
    (hx : x ∈ testNames methods) :
    ∃ c, x.toList.getLast? = some c ∧ (c = 't' ∨ c.isDigit = true) := by
  obtain ⟨name, -, wanted, others, rfl, hwanted⟩ := exists_of_mem_testNames hx
  have hlast : wanted.toList.getLast? = some 't' := by
    rcases hwanted with rfl | ⟨i, rfl⟩ <;>
      rw [String.toList_append, List.getLast?_append_of_ne_nil _ (by decide)] <;> rfl
  rcases getLast?_freeName wanted others with h | ⟨c, h, hc⟩
  · exact ⟨'t', by rw [h, hlast], Or.inl rfl⟩
  · exact ⟨c, h, Or.inr hc⟩

/-- A test name begins with the name of a method, which `T` or a digit follows if it is empty. -/
lemma exists_prefix_of_mem_testNames {methods : List String} {x : String}
    (hx : x ∈ testNames methods) :
    ∃ name ∈ methods, ∃ c rest, x.toList = name.toList ++ c :: rest ∧
      (c = 'T' ∨ c.isDigit = true) := by
  obtain ⟨name, hname, wanted, others, rfl, hwanted⟩ := exists_of_mem_testNames hx
  obtain ⟨more, hmore⟩ := prefix_freeName wanted others
  refine ⟨name, hname, ?_⟩
  rw [← hmore]
  rcases hwanted with rfl | ⟨i, rfl⟩
  · exact ⟨'T', 'e' :: 's' :: 't' :: more, by simp [String.toList_append], Or.inl rfl⟩
  · rw [String.toList_append, toList_numbered]
    cases hdigits : Nat.toDigits 10 i with
    | nil => exact absurd hdigits Nat.toDigits_ne_nil
    | cons d ds =>
      have hd : d.isDigit = true :=
        Nat.isDigit_of_mem_toDigits (b := 10) (n := i) (by decide) (by decide) (by rw [hdigits]; simp)
      exact ⟨d, ds ++ "Test".toList ++ more, by simp, Or.inr hd⟩

/-- A test begins with an underscore only if its method does. -/
lemma exists_of_mem_testNames_of_head?_eq {methods : List String} {x : String}
    (hx : x ∈ testNames methods) (hhead : x.toList.head? = some '_') :
    ∃ name ∈ methods, name.toList.head? = some '_' := by
  obtain ⟨name, hname, c, rest, hlist, hc⟩ := exists_prefix_of_mem_testNames hx
  refine ⟨name, hname, ?_⟩
  rw [hlist] at hhead
  cases hchars : name.toList with
  | nil =>
    rw [hchars, List.nil_append, List.head?_cons, Option.some.injEq] at hhead
    subst hhead
    exact absurd hc (by decide)
  | cons d ds =>
    rw [hchars] at hhead
    exact hhead

end FixtureDraft
