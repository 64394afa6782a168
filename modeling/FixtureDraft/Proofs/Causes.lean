import FixtureDraft.Proofs.Accounts
import FixtureDraft.Proofs.Folders
import FixtureDraft.Proofs.StrictLines

/-!
# What the store at the start decides

Whether a source can be read, and why not, and whether a file can be written, and why not, is
decided by the store that the batch finds: the files that the batch writes stand in nobody's way
(`Job.Clear`). So the ledger of a line says what that store says (`Ledger.FromStart`), whichever
worker came first.
-/

namespace FixtureDraft.Batch

open FixtureDraft.Files

variable {j : Job} {s s' s₀ : Store} {paths : List String}

/-! ## Batches whose files stand in nobody's way -/

namespace Job

/-- No file of the batch has a slash in its name, and no source is named by a path that leads to a
place, or through a place, where one is written. -/
structure Clear (j : Job) (s : Store) (paths : List String) : Prop where
  no_slash : ∀ f, j.Contributes s paths f → '/' ∉ f.qualifiedName.toList
  not_through : ∀ path ∈ paths, ∀ place ∈ s.placesNamed path,
    ∀ f, j.Contributes s paths f → s.place (j.target f) ≠ .ok place

lemma Clear.apart (hclear : j.Clear s paths) : j.Apart s paths where
  no_slash := hclear.no_slash
  not_target path hpath place hplace :=
    hclear.not_through path hpath place (Store.mem_placesNamed hplace)

/-! ## Writing a file of a name -/

/-- What it comes to if a file of that name is written. What it holds has no part in that. -/
def attempt (j : Job) (s : Store) (name : String) : Except Cause String :=
  let target := j.folder.join (.ofText (name ++ j.extension))
  ((s.write target []).map fun _ => target.text).mapError .unwritten

variable {f : FixtureFile}

/-- A target is where it was, or cannot be reached as before, in a store with the same folders. -/
lemma place_target_congr (hext : j.extension = ".cs") (hname : '/' ∉ f.qualifiedName.toList)
    (hfolder : s.isFolder j.folder = true) (hfolders : Store.SameFolders s s') :
    s'.place (j.target f) = s.place (j.target f) := by
  obtain ⟨-, before, hbefore, hfind⟩ := Store.isFolder_iff.mp hfolder
  have hbefore' := (hfolders.place_ok_iff _ _).mpr hbefore
  have hfind' := (hfolders.folder_iff before).mpr hfind
  rw [target_eq hext hname]
  -- one step further than the folder of the batch
  exact (Store.follow_concat_of_folder hbefore' hfind' _).trans
    (Store.follow_concat_of_folder hbefore hfind _).symm

/-- How a writer ends the handling of a file is decided by the folders. -/
lemma map_handle_writer (hext : j.extension = ".cs") (hname : '/' ∉ f.qualifiedName.toList)
    (hfolder : s₀.isFolder j.folder = true) {d : Disk}
    (hfolders : Store.SameFolders s₀ d.store) :
    (j.writer.handle d f).map (·.2) = j.attempt s₀ f.qualifiedName := by
  have hsame := Store.write_map_congr hfolders (place_target_congr hext hname hfolder hfolders)
    [] (Text.encode f.code) (j.target f).text
  have hattempt : j.attempt s₀ f.qualifiedName
      = ((d.store.write (j.target f) (Text.encode f.code)).map
          fun _ => (j.target f).text).mapError .unwritten := by
    rw [hsame]
    rfl
  rw [hattempt]
  simp only [writer]
  cases d.store.write (j.target f) (Text.encode f.code)
  all_goals rfl

/-- A file whose name is not claimed is handled as by a writer. -/
lemma map_writeFile (j : Job) {claimed : List String} (hname : f.qualifiedName ∉ claimed)
    (d : Disk) : (j.writeFile claimed d.store f).map (fun _ => (j.target f).text)
      = (j.writer.handle d f).map (·.2) := by
  rw [writeFile_of_notMem d.store hname]
  simp only [writer]
  cases d.store.write (j.target f) (Text.encode f.code)
  all_goals rfl

end Job

/-- How a reader ends the handling of a path. -/
lemma map_handle_reader (d : Disk) (path : String) :
    (reader.handle d path).map (·.2) = (d.store.readText path).mapError .unread := by
  simp only [reader]
  cases d.store.readText path
  all_goals rfl

/-- What came of the attempts to write is what the store `s` says. -/
def Ledger.AttemptsFromStart (g : Ledger) (j : Job) (s : Store) : Prop :=
  ∀ e ∈ g.write, isAttempt e = true → e.2 = j.attempt s e.1.qualifiedName

/-- What was read, and what came of the attempts to write, is what the store `s` says. -/
structure Ledger.FromStart (g : Ledger) (j : Job) (s : Store) : Prop where
  read : ∀ e ∈ g.read, e.2 = (s.readText e.1).mapError .unread
  write : ∀ e ∈ g.write, isAttempt e = true → e.2 = j.attempt s e.1.qualifiedName

lemma Ledger.FromStart.attempts {g : Ledger} (hfrom : g.FromStart j s) :
    g.AttemptsFromStart j s := hfrom.write

/-! ## What the logs of stages say -/

/-- However many files were written, the next attempt comes to what the store at the start says. -/
lemma Job.fromStart_writeLog (hext : j.extension = ".cs") (hfolder : s₀.isFolder j.folder = true)
    (files : List FixtureFile) : ∀ (claimed : List String) (s : Store), Store.SameFolders s₀ s →
      (∀ f ∈ files, '/' ∉ f.qualifiedName.toList) → ∀ e ∈ j.writeLog claimed s files,
        isAttempt e = true → e.2 = j.attempt s₀ e.1.qualifiedName := by
  induction files with
  | nil =>
    intro claimed s _ _ e he
    cases he
  | cons f files ih =>
    intro claimed s hfolders hslash e he hattempt
    have hrest : ∀ g ∈ files, '/' ∉ g.qualifiedName.toList :=
      fun g hg => hslash g (List.mem_cons_of_mem _ hg)
    by_cases hname : f.qualifiedName ∈ claimed
    · -- a file that is refused is no attempt
      rw [writeLog, writeFile_of_mem s hname] at he
      rcases List.mem_cons.mp he with rfl | he
      · cases hattempt
      · exact ih _ s hfolders hrest e he hattempt
    · have hfile := (map_writeFile j hname { store := s }).trans
        (map_handle_writer hext (hslash f List.mem_cons_self) hfolder hfolders)
      rw [writeLog] at he
      cases hresult : j.writeFile claimed s f with
      | ok s' =>
        rw [hresult] at he hfile
        rcases List.mem_cons.mp he with rfl | he
        · exact hfile
        · exact ih _ s' (hfolders.trans (sameFolders_writeFile hresult)) hrest e he hattempt
      | error cause =>
        rw [hresult] at he hfile
        rcases List.mem_cons.mp he with rfl | he
        · exact hfile
        · exact ih _ s hfolders hrest e he hattempt

/-- The ledger of the stages says what the store at the start says. -/
lemma Job.fromStart_stagedLedger (hext : j.extension = ".cs")
    (hfolder : s₀.isFolder j.folder = true)
    (hslash : ∀ f ∈ (j.stagedLedger s₀ paths).write.items, '/' ∉ f.qualifiedName.toList) :
    (j.stagedLedger s₀ paths).FromStart j s₀ where
  read e he := by
    obtain ⟨path, -, rfl⟩ := List.mem_map.mp he
    rfl
  write := by
    refine fromStart_writeLog hext hfolder _ [] s₀ (.refl s₀) fun f hf => hslash f ?_
    rw [stagedLedger, items_writeLog]
    exact hf

/-! ## What the logs of a line say -/

namespace Line

variable {l l' : Line}

/-- A new entry says why the item was refused, or how its handling ended. -/
private lemma mem_log_cases {α ρ β : Type} {h : Handler α ρ β} {d d' : Disk} {p p' : Pool α ρ β}
    (hstep : p.Step h d d' p') {e : α × Except Cause ρ} (he : e ∈ p'.log) :
    e ∈ p.log ∨ (∃ cause, e.2 = .error cause ∧ h.accept d e.1 = .error cause)
      ∨ e.2 = (h.handle d e.1).map (·.2) := by
  rcases hstep.effect.mem_logged (Multiset.mem_coe.mpr he) with
    he | ⟨cause, hresult, hrefused | hfailed⟩ | ⟨r, hresult, hhandle⟩
  · exact Or.inl (Multiset.mem_coe.mp he)
  · exact Or.inr (Or.inl ⟨cause, hresult, hrefused⟩)
  · refine Or.inr (Or.inr ?_)
    rw [hresult, hfailed]
    rfl
  · refine Or.inr (Or.inr ?_)
    rw [hresult, hhandle]
    rfl

/-- Whatever was written, a path is read as if nothing was. -/
lemma Balanced.readText_eq (hbalanced : l.Balanced j s₀ paths) (hclear : j.Clear s₀ paths)
    {path : String} (hpath : path ∈ paths) :
    l.disk.store.readText path = s₀.readText path := by
  refine Store.readText_congr hbalanced.wrote.folders.home fun place hplace => ?_
  refine hbalanced.wrote.untouched place fun e he _ => ?_
  exact hclear.not_through path hpath place hplace e.1 (hbalanced.contributes (mem_accepted he))

/-- Before anything is done nothing is logged. -/
lemma ledger_start (w : Workers) (s : Store) (paths : List String) :
    (start w s paths).ledger = ⟨[], [], []⟩ := by
  simp [ledger, start, Pool.start, Pool.log]

/-- Whatever happens next, the attempts come to what the store at the start says. -/
lemma attempts_step (hapart : j.Apart s₀ paths) (hext : j.extension = ".cs")
    (hfolder : s₀.isFolder j.folder = true) (hbalanced : l.Balanced j s₀ paths)
    (hbalanced' : l'.Balanced j s₀ paths) (hattempts : l.ledger.AttemptsFromStart j s₀)
    (hstep : Step j l l') : l'.ledger.AttemptsFromStart j s₀ := by
  -- only a writer adds to its log
  cases hstep with
  | feed _ _ | read _ | passSource _ _ | generate _ | passFile _ _ => exact hattempts
  | write hstep =>
    intro e he hattempt
    have hname : '/' ∉ e.1.qualifiedName.toList :=
      hapart.no_slash _ (hbalanced'.contributes (Balanced.mem_accepted (Multiset.mem_coe.mpr he)))
    rcases mem_log_cases hstep he with he | ⟨cause, hresult, hrefused⟩ | hresult
    · exact hattempts e he hattempt
    · -- a file that is refused is no attempt
      obtain ⟨-, rfl⟩ := Job.writer_accept_error hrefused
      simp [isAttempt, hresult] at hattempt
    · rw [hresult, Job.map_handle_writer hext hname hfolder hbalanced.wrote.folders]

/-- Whatever happens next, the sources are read as the store at the start says. -/
lemma reads_step (hclear : j.Clear s₀ paths) (hbalanced : l.Balanced j s₀ paths)
    (hbalanced' : l'.Balanced j s₀ paths)
    (hread : ∀ e ∈ l.ledger.read, e.2 = (s₀.readText e.1).mapError .unread)
    (hstep : Step j l l') :
    ∀ e ∈ l'.ledger.read, e.2 = (s₀.readText e.1).mapError .unread := by
  -- only a reader adds to its log
  cases hstep with
  | feed _ _ | generate _ | passFile _ _ | write _ => exact hread
  | passSource hemits _ => exact fun e he => hread e (hemits.log_perm.mem_iff.mpr he)
  | read hstep =>
    intro e he
    have hpath : e.1 ∈ paths :=
      hbalanced'.mem_paths (Balanced.mem_accepted (Multiset.mem_coe.mpr he))
    rcases mem_log_cases hstep he with he | ⟨cause, -, hrefused⟩ | hresult
    · exact hread e he
    · cases hrefused
    · rw [hresult, map_handle_reader, hbalanced.readText_eq hclear hpath]

/-- What holds of every line that a batch comes to. -/
lemma balanced_and_attempts {w : Workers} (hapart : j.Apart s₀ paths) (hext : j.extension = ".cs")
    (hfolder : s₀.isFolder j.folder = true)
    (hreach : Relation.ReflTransGen (Step j) (start w s₀ paths) l) :
    l.Balanced j s₀ paths ∧ l.ledger.AttemptsFromStart j s₀ := by
  induction hreach with
  | refl =>
    refine ⟨balanced_start j w s₀ paths, fun e he => ?_⟩
    rw [ledger_start] at he
    cases he
  | tail _ hstep ih =>
    have hbalanced := ih.1.step hapart hext hstep
    exact ⟨hbalanced, attempts_step hapart hext hfolder ih.1 hbalanced ih.2 hstep⟩

/-- What holds of every line of a batch whose files stand in nobody's way. -/
lemma fromStart_of_reach {w : Workers} (hclear : j.Clear s₀ paths) (hext : j.extension = ".cs")
    (hfolder : s₀.isFolder j.folder = true)
    (hreach : Relation.ReflTransGen (Step j) (start w s₀ paths) l) :
    l.ledger.FromStart j s₀ := by
  refine ⟨?_, (balanced_and_attempts hclear.apart hext hfolder hreach).2⟩
  induction hreach with
  | refl =>
    intro e he
    rw [ledger_start] at he
    cases he
  | tail hbefore hstep ih =>
    have hbalanced := (balanced_and_attempts hclear.apart hext hfolder hbefore).1
    exact reads_step hclear hbalanced (hbalanced.step hclear.apart hext hstep) ih hstep

end Line

end FixtureDraft.Batch
