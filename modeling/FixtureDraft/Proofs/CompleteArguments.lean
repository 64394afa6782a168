import FixtureDraft.Batch.Run
import FixtureDraft.CommandLine.Run
import Mathlib

/-!
# What arguments of the command line hold

Arguments that are read without a complaint name numbers of workers that a batch accepts
(`workers_check`). Each positional argument is given a text, unless a second `--` takes its place:
with one at most all are given (`given_of_count_le_one`).
-/

namespace FixtureDraft.CommandLine

open FixtureDraft.Batch
open FixtureDraft.Data

/-! ## Numbers of workers -/

/-- A positional argument was given a text. -/
def Arguments.Given (a : Arguments) : Positional → Prop
  | .paths => a.paths.isSome
  | .outputDir => a.outputDir.isSome
  | .readWorkers => a.readWorkers.isSome
  | .generateWorkers => a.generateWorkers.isSome
  | .writeWorkers => a.writeWorkers.isSome

/-- The numbers of workers, one where none is given. -/
def Arguments.workers (a : Arguments) : Workers where
  read := .integer (a.readWorkers.getD 1)
  generate := .integer (a.generateWorkers.getD 1)
  write := .integer (a.writeWorkers.getD 1)

/-- All numbers of workers that are given are positive. -/
structure Arguments.Positive (a : Arguments) : Prop where
  read : ∀ n ∈ a.readWorkers, 1 ≤ n
  generate : ∀ n ∈ a.generateWorkers, 1 ≤ n
  write : ∀ n ∈ a.writeWorkers, 1 ≤ n

/-- A number that is accepted is positive. -/
lemma one_le_of_workersOf {p : Positional} {text : String} {given : Option Int}
    (h : workersOf p text = .ok given) : ∃ n, given = some n ∧ 1 ≤ n := by
  unfold workersOf parallelism at h
  split at h
  · rename_i n hparallel
    split at hparallel
    · cases hparallel
    · rename_i m hm
      by_cases hsmall : m < 1
      · rw [if_pos hsmall] at hparallel
        cases hparallel
      · rw [if_neg hsmall] at hparallel
        obtain rfl := Except.ok.inj hparallel
        exact ⟨m, (Except.ok.inj h).symm, by omega⟩
  · cases h

/-- Setting a positional argument gives it a text, takes none from the others, and keeps the
numbers positive. -/
lemma Arguments.set_eq_ok {a a' : Arguments} {p : Positional} {text : String}
    (h : a.set p text = .ok a') :
    a'.Given p ∧ (∀ q, a.Given q → a'.Given q) ∧ (a.Positive → a'.Positive) := by
  have hcount : ∀ {x : Except Stop (Option Int)} {note : Option Int → Arguments},
      x.map note = .ok a' → ∃ given, x = .ok given ∧ a' = note given := by
    intro x note hx
    cases x with
    | error stop => cases hx
    | ok given => exact ⟨given, rfl, (Except.ok.inj hx).symm⟩
  cases p with
  | paths =>
    obtain rfl := Except.ok.inj h
    refine ⟨rfl, fun q hq => ?_, fun hpositive => ⟨hpositive.1, hpositive.2, hpositive.3⟩⟩
    cases q with
    | paths => rfl
    | _ => exact hq
  | outputDir =>
    obtain rfl := Except.ok.inj h
    refine ⟨rfl, fun q hq => ?_, fun hpositive => ⟨hpositive.1, hpositive.2, hpositive.3⟩⟩
    cases q with
    | outputDir => rfl
    | _ => exact hq
  | readWorkers =>
    obtain ⟨given, hgiven, rfl⟩ := hcount h
    obtain ⟨n, rfl, hn⟩ := one_le_of_workersOf hgiven
    refine ⟨rfl, fun q hq => ?_, fun hpositive => ⟨?_, hpositive.2, hpositive.3⟩⟩
    · cases q with
      | readWorkers => rfl
      | _ => exact hq
    · intro m hm
      obtain rfl := Option.some.inj hm
      exact hn
  | generateWorkers =>
    obtain ⟨given, hgiven, rfl⟩ := hcount h
    obtain ⟨n, rfl, hn⟩ := one_le_of_workersOf hgiven
    refine ⟨rfl, fun q hq => ?_, fun hpositive => ⟨hpositive.1, ?_, hpositive.3⟩⟩
    · cases q with
      | generateWorkers => rfl
      | _ => exact hq
    · intro m hm
      obtain rfl := Option.some.inj hm
      exact hn
  | writeWorkers =>
    obtain ⟨given, hgiven, rfl⟩ := hcount h
    obtain ⟨n, rfl, hn⟩ := one_le_of_workersOf hgiven
    refine ⟨rfl, fun q hq => ?_, fun hpositive => ⟨hpositive.1, hpositive.2, ?_⟩⟩
    · cases q with
      | writeWorkers => rfl
      | _ => exact hq
    · intro m hm
      obtain rfl := Option.some.inj hm
      exact hn

/-! ## Reading words -/

/-- What holds of a reading: the numbers of workers are positive, and if `full`, a positional
argument that is not waited for was given. -/
structure Reading.Holds (full : Bool) (r : Reading) : Prop where
  positive : r.arguments.Positive
  given : full = true → ∀ p, p ∈ r.waiting ∨ r.arguments.Given p

namespace Reading

variable {full : Bool} {r r' : Reading}

lemma holds_start (full : Bool) : Holds full {} := by
  refine ⟨⟨?_, ?_, ?_⟩, fun _ p => Or.inl ?_⟩
  · intro n hn
    cases hn
  · intro n hn
    cases hn
  · intro n hn
    cases hn
  · cases p
    all_goals decide

/-- Turning on switches gives and takes no positional argument. -/
lemma Holds.turnOn {k : Cluster} (hholds : r.Holds full) (h : r.turnOn k = .ok r') :
    r'.Holds full := by
  unfold Reading.turnOn at h
  split at h
  · cases h
  · obtain rfl := Except.ok.inj h
    refine ⟨⟨hholds.positive.1, hholds.positive.2, hholds.positive.3⟩, fun hfull p => ?_⟩
    refine (hholds.given hfull p).imp_right fun hgiven => ?_
    cases p
    all_goals exact hgiven

/-- A text is given to the positional argument that is next, unless it is a second separator. -/
lemma Holds.readText {text : String} (hholds : r.Holds full)
    (htext : full = true → text ≠ "--") (h : r.readText text = .ok r') : r'.Holds full := by
  unfold Reading.readText at h
  split at h
  · obtain rfl := Except.ok.inj h
    exact ⟨hholds.positive, hholds.given⟩
  · rename_i p waiting hwaiting
    by_cases hsilent : (text == "--" && !r.opened) = true
    · simp only [hsilent, if_true] at h
      obtain rfl := Except.ok.inj h
      refine ⟨hholds.positive, fun hfull => ?_⟩
      simp only [Bool.and_eq_true, beq_iff_eq] at hsilent
      exact absurd hsilent.1 (htext hfull)
    · simp only [hsilent] at h
      cases hset : r.arguments.set p text with
      | error stop =>
        rw [hset] at h
        cases h
      | ok a =>
        rw [hset] at h
        obtain rfl := Except.ok.inj h
        obtain ⟨hgiven, hkept, hpositive⟩ := Arguments.set_eq_ok hset
        refine ⟨hpositive hholds.positive, fun hfull q => ?_⟩
        rcases hholds.given hfull q with hq | hq
        · rw [hwaiting] at hq
          rcases List.mem_cons.mp hq with rfl | hq
          · exact Or.inr hgiven
          · exact Or.inl hq
        · exact Or.inr (hkept q hq)

/-- Whatever word is read, the reading holds what it should. -/
lemma Holds.read {word : Word} (hholds : r.Holds full)
    (hword : full = true → word ≠ .text "--") (h : r.read word = .ok r') : r'.Holds full := by
  cases word with
  | text s => exact hholds.readText (fun hfull hs => hword hfull (by rw [hs])) h
  | separator =>
    obtain rfl := Except.ok.inj h
    unfold Reading.readSeparator
    split
    · exact ⟨hholds.positive, hholds.given⟩
    · split
      all_goals exact ⟨hholds.positive, hholds.given⟩
  | «switch» s attached =>
    cases attached with
    | none => exact hholds.turnOn h
    | some value => cases h
  | cluster s more =>
    simp only [Reading.read, bind, Except.bind] at h
    split at h
    · cases h
    · exact hholds.turnOn h
  | unknown s =>
    obtain rfl := Except.ok.inj h
    exact ⟨hholds.positive, hholds.given⟩

/-- The same for all words, one after another. -/
lemma Holds.foldlM {words : List Word} (hholds : r.Holds full)
    (hwords : full = true → .text "--" ∉ words) (h : words.foldlM Reading.read r = .ok r') :
    r'.Holds full := by
  induction words generalizing r with
  | nil =>
    obtain rfl : r = r' := Except.ok.inj h
    exact hholds
  | cons word words ih =>
    rw [List.foldlM_cons] at h
    simp only [bind, Except.bind] at h
    split at h
    · cases h
    · rename_i next hnext
      refine ih (hholds.read (fun hfull hword => ?_) hnext) (fun hfull hmem => ?_) h
      · exact hwords hfull (hword ▸ List.mem_cons_self)
      · exact hwords hfull (List.mem_cons_of_mem _ hmem)

end Reading

/-! ## Sorting arguments -/

/-- A text is sorted as it is. -/
lemma eq_of_noSwitch {arg text : String} (h : noSwitch arg = .text text) : text = arg := by
  unfold noSwitch at h
  split at h
  · exact (Word.text.inj h).symm
  · cases h

lemma eq_of_sortArgument {arg text : String} (h : sortArgument arg = .ok (.text text)) :
    text = arg := by
  unfold sortArgument at h
  split at h
  · -- behind a dash it is a text only if it is no switch
    simp only at h
    split at h
    · cases h
    · cases h
    · split at h
      · unfold sortLong at h
        simp only at h
        split at h
        · cases h
        · exact eq_of_noSwitch (Except.ok.inj h)
        · cases h
      · split at h
        · cases h
        · exact eq_of_noSwitch (Except.ok.inj h)
  · exact (Word.text.inj (Except.ok.inj h)).symm

/-- The first separator is no text, so that there is one only if a second one follows. -/
lemma text_notMem_of_count {args : List String} {words : List Word}
    (h : sortArguments args = .ok words) (hcount : args.count "--" ≤ 1) :
    .text "--" ∉ words := by
  induction args generalizing words with
  | nil =>
    obtain rfl := Except.ok.inj h
    exact List.not_mem_nil
  | cons arg args ih =>
    unfold sortArguments at h
    by_cases hseparator : arg = "--"
    · rw [if_pos hseparator] at h
      obtain rfl := Except.ok.inj h
      rw [hseparator, List.count_cons_self] at hcount
      have hnone : "--" ∉ args := List.count_eq_zero.mp (by omega)
      intro hmem
      rcases List.mem_cons.mp hmem with hword | hmem
      · cases hword
      · obtain ⟨text, htext, heq⟩ := List.mem_map.mp hmem
        exact hnone (Word.text.inj heq ▸ htext)
    · rw [if_neg hseparator] at h
      rw [List.count_cons_of_ne hseparator] at hcount
      cases hword : sortArgument arg with
      | error stop =>
        rw [hword] at h
        cases h
      | ok word =>
        cases hrest : sortArguments args with
        | error stop =>
          rw [hword, hrest] at h
          cases h
        | ok rest =>
          rw [hword, hrest] at h
          obtain rfl := Except.ok.inj h
          intro hmem
          rcases List.mem_cons.mp hmem with rfl | hmem
          · exact hseparator (eq_of_sortArgument hword).symm
          · exact ih hrest hcount hmem

/-! ## Arguments without a complaint -/

variable {args : List String} {a : Arguments}

/-- What holds at the end of the reading. -/
private lemma holds_of_parseArguments (full : Bool) (h : parseArguments args = .ok a)
    (hcount : full = true → args.count "--" ≤ 1) :
    a.Positive ∧ (full = true → ∀ p, a.Given p) := by
  unfold parseArguments at h
  cases hwords : sortArguments args with
  | error stop =>
    rw [hwords] at h
    cases h
  | ok words =>
    cases hread : words.foldlM Reading.read {} with
    | error stop =>
      simp only [hwords, hread, bind, Except.bind] at h
      cases h
    | ok r =>
      simp only [hwords, hread, bind, Except.bind] at h
      obtain ⟨hpositive, hgiven⟩ := (Reading.holds_start full).foldlM
        (fun hfull => text_notMem_of_count hwords (hcount hfull)) hread
      -- nothing is waited for at the end
      unfold Reading.finish at h
      cases hwaiting : r.waiting with
      | cons p waiting => simp [hwaiting] at h
      | nil =>
        cases hextras : r.extras with
        | cons text extras => simp [hwaiting, hextras] at h
        | nil =>
          simp only [hwaiting, hextras, List.isEmpty_nil, Bool.not_true, Bool.false_eq_true,
            if_false] at h
          obtain rfl := Except.ok.inj h
          refine ⟨hpositive, fun hfull p => (hgiven hfull p).resolve_left ?_⟩
          rw [hwaiting]
          exact List.not_mem_nil

/-- The numbers of workers are such as a batch accepts. -/
theorem workers_check (h : parseArguments args = .ok a) : a.workers.check = .ok () := by
  obtain ⟨⟨hread, hgenerate, hwrite⟩, -⟩ := holds_of_parseArguments false h (by simp)
  have hnone : ∀ (name : String) (given : Option Int), (∀ n ∈ given, 1 ≤ n) →
      Workers.complaint? name (.integer (given.getD 1)) = none := by
    intro name given hgiven
    cases given with
    | none => rfl
    | some n =>
      have hn := hgiven n rfl
      exact if_neg (by simpa using hn)
  rw [Workers.check, Arguments.workers, hnone _ _ hread, hnone _ _ hgenerate, hnone _ _ hwrite]
  rfl

/-- With one separator at most, every positional argument is given a text. -/
theorem given_of_count_le_one (h : parseArguments args = .ok a) (hcount : args.count "--" ≤ 1)
    (p : Positional) : a.Given p :=
  (holds_of_parseArguments true h fun _ => hcount).2 rfl p

end FixtureDraft.CommandLine
