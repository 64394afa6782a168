import FixtureDraft.Proofs.Pools
import FixtureDraft.Proofs.Targets

/-!
# The files that a batch has written

Every file of a batch is refused, for its name is claimed, or attempted. `Job.Wrote` says what
holds of the files at any time: each name is claimed by one attempt, a file that was saved is
still there as it was written, and places that are no target of a saved file are as before.
-/

namespace FixtureDraft.Batch

open FixtureDraft.Files

/-! ## What becomes of a file -/

/-- The file was not refused for its name. -/
def isAttempt (e : FixtureFile × Except Cause String) : Bool :=
  match e.2 with
  | .error (.duplicate _) => false
  | _ => true

/-- What became of a file, where attempts were made for the files called `names`: it is saved and
its code stands at its target, or an attempt for its name made it a duplicate, or it could not be
written. -/
inductive Job.Outcome (j : Job) (s : Store) (names : List String) (f : FixtureFile) :
    Except Cause String → Prop
  | saved {place} (hplace : s.place (j.target f) = .ok place)
    (hfile : s.find? place = some (.file (Text.encode f.code))) :
    Outcome j s names f (.ok (j.target f).text)
  | duplicate (hname : f.qualifiedName ∈ names) :
    Outcome j s names f (.error (.duplicate f.qualifiedName))
  | unsaved (fault : PathFault) : Outcome j s names f (.error (.unwritten fault))

namespace Job

variable {j : Job} {f : FixtureFile} {d d' : Disk}

/-- A name that is taken is none that was taken before. -/
lemma writer_accept_ok (h : j.writer.accept d f = .ok d') :
    f.qualifiedName ∉ d.claimed ∧ d' = { d with claimed := f.qualifiedName :: d.claimed } := by
  by_cases hname : f.qualifiedName ∈ d.claimed
  · simp [writer, hname] at h
  · simp only [writer, List.contains_eq_mem, hname, decide_false, Bool.false_eq_true, if_false,
      Except.ok.injEq] at h
    exact ⟨hname, h.symm⟩

lemma writer_accept_error {cause : Cause} (h : j.writer.accept d f = .error cause) :
    f.qualifiedName ∈ d.claimed ∧ cause = .duplicate f.qualifiedName := by
  by_cases hname : f.qualifiedName ∈ d.claimed
  · simp only [writer, List.contains_eq_mem, hname, decide_true, if_true,
      Except.error.injEq] at h
    exact ⟨hname, h.symm⟩
  · simp [writer, hname] at h

lemma writer_handle_ok {r : String} (h : j.writer.handle d f = .ok (d', r)) :
    ∃ s, d.store.write (j.target f) (Text.encode f.code) = .ok s ∧ d' = { d with store := s }
      ∧ r = (j.target f).text := by
  simp only [writer] at h
  cases hwrite : d.store.write (j.target f) (Text.encode f.code) with
  | error fault => simp [hwrite, Except.mapError, Except.map] at h
  | ok s =>
    simp only [hwrite, Except.mapError, Except.map, Except.ok.injEq, Prod.mk.injEq] at h
    exact ⟨s, rfl, h.1.symm, h.2.symm⟩

lemma writer_handle_error {cause : Cause} (h : j.writer.handle d f = .error cause) :
    ∃ fault, d.store.write (j.target f) (Text.encode f.code) = .error fault
      ∧ cause = .unwritten fault := by
  simp only [writer] at h
  cases hwrite : d.store.write (j.target f) (Text.encode f.code) with
  | error fault =>
    simp only [hwrite, Except.mapError, Except.map, Except.error.injEq] at h
    exact ⟨fault, rfl, h.symm⟩
  | ok s => simp [hwrite, Except.mapError, Except.map] at h

/-- More attempts change nothing about a file that was handled. -/
lemma Outcome.mono {s : Store} {names names' : List String} {result : Except Cause String}
    (houtcome : j.Outcome s names f result) (hsub : names ⊆ names') :
    j.Outcome s names' f result := by
  cases houtcome with
  | saved hplace hfile => exact .saved hplace hfile
  | duplicate hname => exact .duplicate (hsub hname)
  | unsaved fault => exact .unsaved fault

/-! ## The invariant -/

/-- What holds of the files after some were handled, while those in `busy` are attempted. -/
structure Wrote (j : Job) (s₀ : Store) (d : Disk) (busy : Multiset FixtureFile)
    (logged : Multiset (FixtureFile × Except Cause String)) : Prop where
  folders : Store.SameFolders s₀ d.store
  claimed : (d.claimed : Multiset String) = busy.map FixtureFile.qualifiedName
    + (logged.filter (isAttempt ·)).map fun e => e.1.qualifiedName
  nodup : d.claimed.Nodup
  outcome : ∀ e ∈ logged, j.Outcome d.store d.claimed e.1 e.2
  untouched : ∀ place,
    (∀ e ∈ logged, e.2.isOk = true → s₀.place (j.target e.1) ≠ .ok place) →
      d.store.find? place = s₀.find? place

namespace Wrote

variable {s₀ : Store} {busy : Multiset FixtureFile}
  {logged : Multiset (FixtureFile × Except Cause String)}

lemma start (j : Job) (s₀ : Store) : j.Wrote s₀ { store := s₀ } 0 0 :=
  ⟨.refl s₀, rfl, List.nodup_nil, by simp, by simp⟩

/-- A file that is written now has another name than any that was saved before. -/
lemma qualifiedName_ne (hwrote : j.Wrote s₀ d (f ::ₘ busy) logged)
    {e : FixtureFile × Except Cause String} (he : e ∈ logged) (hok : e.2.isOk = true) :
    e.1.qualifiedName ≠ f.qualifiedName := by
  intro hname
  -- an attempt claimed the name for `e`, and one claims it for `f`: no name is claimed twice
  have hattempt : isAttempt e = true := by
    obtain ⟨g, result⟩ := e
    cases result with
    | ok r => rfl
    | error cause => simp [Except.isOk, Except.toBool] at hok
  have hnodup : (d.claimed : Multiset String).Nodup := hwrote.nodup
  rw [hwrote.claimed, Multiset.map_cons, Multiset.cons_add, Multiset.nodup_cons] at hnodup
  refine hnodup.1 (Multiset.mem_add.mpr (Or.inr ?_))
  rw [← hname]
  exact Multiset.mem_map.mpr ⟨e, Multiset.mem_filter.mpr ⟨he, hattempt⟩, rfl⟩

/-- A file is written, and those that were saved before stay as they are. -/
lemma finish (hext : j.extension = ".cs")
    (hslash : ∀ e ∈ logged, '/' ∉ e.1.qualifiedName.toList)
    (hslash' : '/' ∉ f.qualifiedName.toList) (hwrote : j.Wrote s₀ d (f ::ₘ busy) logged)
    {s : Store} (hwrite : d.store.write (j.target f) (Text.encode f.code) = .ok s) :
    j.Wrote s₀ { d with store := s } busy ((f, .ok (j.target f).text) ::ₘ logged) := by
  have hfolders := Store.sameFolders_write hwrite
  obtain ⟨place, hplace, -, -⟩ := Store.write_eq_ok hwrite
  refine ⟨hwrote.folders.trans hfolders, ?_, hwrote.nodup, ?_, ?_⟩
  · rw [hwrote.claimed, Multiset.filter_cons_of_pos _ (by rfl), Multiset.map_cons,
      Multiset.map_cons, Multiset.cons_add, Multiset.add_cons]
  · intro e he
    rcases Multiset.mem_cons.mp he with rfl | he
    · exact .saved ((hfolders.place_ok_iff _ _).mpr hplace) (Store.find?_write_self hwrite hplace)
    · have hne := hwrote.qualifiedName_ne he
      obtain ⟨g, result⟩ := e
      have houtcome : j.Outcome d.store d.claimed g result := hwrote.outcome _ he
      cases houtcome with
      | duplicate hname => exact .duplicate hname
      | unsaved fault => exact .unsaved fault
      | @saved place' hplace' hfile =>
        refine .saved ((hfolders.place_ok_iff _ _).mpr hplace') ?_
        rw [Store.find?_write_of_ne hwrite, hfile]
        -- the same place would mean the same name
        intro hsame
        exact hne rfl (qualifiedName_eq_of_place hext (hslash _ he) hslash' hplace' hsame)
  · -- a place that is no target of a saved file is not the one that was written
    intro other hother
    have hnew := hother _ (Multiset.mem_cons_self _ _) rfl
    rw [Store.find?_write_of_ne hwrite]
    · exact hwrote.untouched other fun e he => hother e (Multiset.mem_cons_of_mem he)
    · intro hp
      exact hnew ((hwrote.folders.place_ok_iff _ _).mp hp)

/-- Whatever a writer does next, the invariant stays. -/
lemma effect (hext : j.extension = ".cs") {v v' : View FixtureFile String Empty}
    (hslash : ∀ f ∈ v.accepted, '/' ∉ f.qualifiedName.toList)
    (hwrote : j.Wrote s₀ d v.busy v.logged) (heffect : Effect j.writer d v d' v') :
    j.Wrote s₀ d' v'.busy v'.logged := by
  -- taking a file claims its name; the other steps leave the claims, and only `finish` writes
  cases heffect with
  | silent => exact hwrote
  | take haccept =>
    obtain ⟨hname, rfl⟩ := writer_accept_ok haccept
    refine ⟨hwrote.folders, ?_, List.nodup_cons.mpr ⟨hname, hwrote.nodup⟩, fun e he => ?_,
      hwrote.untouched⟩
    · rw [Multiset.map_cons, Multiset.cons_add, ← hwrote.claimed]
      rfl
    · exact (hwrote.outcome e he).mono (List.subset_cons_self _ _)
  | refuse haccept =>
    obtain ⟨hname, rfl⟩ := writer_accept_error haccept
    refine ⟨hwrote.folders, ?_, hwrote.nodup, fun e he => ?_, fun place hplace => ?_⟩
    · rw [hwrote.claimed, Multiset.filter_cons_of_neg _ (by simp [isAttempt])]
    · rcases Multiset.mem_cons.mp he with rfl | he
      · exact .duplicate hname
      · exact hwrote.outcome e he
    · exact hwrote.untouched place fun e he => hplace e (Multiset.mem_cons_of_mem he)
  | finish hhandle =>
    obtain ⟨s, hwrite, rfl, rfl⟩ := writer_handle_ok hhandle
    refine hwrote.finish hext (fun e he => hslash _ ?_) (hslash _ ?_) hwrite
    · exact Multiset.mem_add.mpr (Or.inr (Multiset.mem_map_of_mem _ he))
    · refine Multiset.mem_add.mpr (Or.inl (Multiset.mem_add.mpr (Or.inr ?_)))
      exact Multiset.mem_cons_self _ _
  | fail hhandle =>
    obtain ⟨fault, -, rfl⟩ := writer_handle_error hhandle
    refine ⟨hwrote.folders, ?_, hwrote.nodup, fun e he => ?_, fun place hplace => ?_⟩
    · rw [hwrote.claimed, Multiset.filter_cons_of_pos _ (by rfl), Multiset.map_cons,
        Multiset.map_cons, Multiset.cons_add, Multiset.add_cons]
    · rcases Multiset.mem_cons.mp he with rfl | he
      · exact .unsaved fault
      · exact hwrote.outcome e he
    · exact hwrote.untouched place fun e he => hplace e (Multiset.mem_cons_of_mem he)

end Wrote

end Job

end FixtureDraft.Batch
