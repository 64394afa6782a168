import FixtureDraft.Proofs.WrittenFiles

/-!
# Ledgers

A ledger accounts for a batch (`Ledger.Accounts`) when each stage has one entry for each item that
came to it, and the entries tell what the files bear out. The report of such a ledger tells of
every item once, and its written files are in strict order.
-/

namespace FixtureDraft.Batch

open FixtureDraft.Files

/-! ## What a batch is about -/

namespace Job

/-- The file is one of those that the sources named by `paths` give rise to. -/
def Contributes (j : Job) (s : Store) (paths : List String) (f : FixtureFile) : Prop :=
  ∃ path ∈ paths, ∃ code files, s.readText path = .ok code ∧ j.engine.files code = .ok files
    ∧ f ∈ files

/-- No file of the batch has a slash in its name, and none is written where a source stands. -/
structure Apart (j : Job) (s : Store) (paths : List String) : Prop where
  no_slash : ∀ f, j.Contributes s paths f → '/' ∉ f.qualifiedName.toList
  not_target : ∀ path ∈ paths, ∀ place, s.placeNamed path = .ok place →
    ∀ f, j.Contributes s paths f → s.place (j.target f) ≠ .ok place

end Job

/-! ## Accounting -/

/-- What reading a path may come to. -/
inductive ReadOutcome (s : Store) (path : String) : Except Cause String → Prop
  | read {code} (hcode : s.readText path = .ok code) : ReadOutcome s path (.ok code)
  | unread (fault : ReadFault) (hcode : ∀ code, s.readText path ≠ .ok code) :
    ReadOutcome s path (.error (.unread fault))

/-- The files that were not refused. -/
def Ledger.attempted (g : Ledger) : List FixtureFile := (g.write.filter isAttempt).map (·.1)

/-- The ledger accounts for a batch that found the store `s` and left the store `s'`. Each stage
has one entry for each item that came to it, as often as it came: for each path, for each source
that was read, and for each file that the engine made of a source. Of the files with one name one
is attempted, and the others are its duplicates. -/
structure Ledger.Accounts (g : Ledger) (j : Job) (s s' : Store) (paths : List String) : Prop where
  paths : g.read.items.Perm paths
  read : ∀ e ∈ g.read, ReadOutcome s e.1 e.2
  sources : g.generate.items.Perm g.read.results
  generate : ∀ e ∈ g.generate, e.2 = (j.engine.files e.1.2).mapError .unparsed
  files : g.write.items.Perm (g.generate.outputs j.generator)
  attempts : (g.attempted.map FixtureFile.qualifiedName).Nodup
  write : ∀ e ∈ g.write, j.Outcome s' (g.attempted.map FixtureFile.qualifiedName) e.1 e.2
  written : (g.report j).written.Pairwise (· < ·)
  untouched : ∀ place,
    (∀ e ∈ g.write, e.2.isOk = true → s.place (j.target e.1) ≠ .ok place) →
      s'.find? place = s.find? place

variable {j : Job} {s : Store} {paths : List String} {d : Disk} {g : Ledger}

/-! ## Files that a batch gives rise to -/

lemma readOutcome_readText (s : Store) (path : String) :
    ReadOutcome s path ((s.readText path).mapError .unread) := by
  cases hcode : s.readText path with
  | ok code => exact .read hcode
  | error fault => exact .unread fault (by simp [hcode])

/-- What was read, and what was not, is what the store says. -/
lemma Log.read_eq {log : Log String String} (hlog : ∀ e ∈ log, ReadOutcome s e.1 e.2) :
    log.results = log.items.filterMap (fun path => (s.readText path).toOption.map (path, ·)) ∧
      (log.faults reader).map (·.item) =
        log.items.filter fun path => !(s.readText path).toOption.isSome := by
  rw [Log.items, List.filterMap_map, Log.results, Log.faults, List.map_filterMap,
    ← List.filterMap_eq_filter, List.filterMap_map]
  refine ⟨List.filterMap_congr fun e he => ?_, List.filterMap_congr fun e he => ?_⟩
  all_goals
    obtain ⟨path, result⟩ := e
    have houtcome : ReadOutcome s path result := hlog _ he
    cases houtcome with
    | read hcode => simp [hcode, Except.toOption, Option.guard]
    | unread fault hcode =>
      cases hread : s.readText path with
      | ok code => exact absurd hread (hcode code)
      | error fault' => simp [hread, Except.toOption, Option.guard, reader]

/-- What is made of sources that were read is what the batch gives rise to. -/
lemma contributes_of_mem_made (read : Multiset (String × Except Cause String))
    (generate : Multiset ((String × String) × Except Cause (List FixtureFile)))
    (hpaths : ∀ e ∈ read, e.1 ∈ paths) (hread : ∀ e ∈ read, ReadOutcome s e.1 e.2)
    (hsources : ∀ e ∈ generate, e.1 ∈ read.bind reader.made)
    (hgenerate : ∀ e ∈ generate, e.2 = (j.engine.files e.1.2).mapError .unparsed)
    {f : FixtureFile} (hf : f ∈ generate.bind j.generator.made) : j.Contributes s paths f := by
  obtain ⟨⟨⟨path, code⟩, made⟩, he, hmade⟩ := Multiset.mem_bind.mp hf
  obtain ⟨⟨path', result⟩, he', hsource⟩ := Multiset.mem_bind.mp (hsources _ he)
  have hresult := hgenerate _ he
  have houtcome : ReadOutcome s path' result := hread _ he'
  cases houtcome with
  | unread fault hcode => simp [Handler.made] at hsource
  | @read code' hcode =>
    simp only [Handler.made, reader, Multiset.coe_singleton, Multiset.mem_singleton,
      Prod.mk.injEq] at hsource
    obtain ⟨rfl, rfl⟩ := hsource
    cases hfiles : j.engine.files code with
    | error fault =>
      simp only [hfiles, Except.mapError] at hresult
      simp [hresult, Handler.made] at hmade
    | ok files =>
      simp only [hfiles, Except.mapError] at hresult
      simp only [hresult, Handler.made, Job.generator, Multiset.mem_coe] at hmade
      exact ⟨path, hpaths _ he', code, files, hcode, hfiles, hmade⟩

/-- The same for the logs of two stages. -/
lemma contributes_of_mem_outputs {read : Log String String}
    {generate : Log (String × String) (List FixtureFile)} (hpaths : read.items ⊆ paths)
    (hread : ∀ e ∈ read, ReadOutcome s e.1 e.2) (hsources : generate.items ⊆ read.results)
    (hgenerate : ∀ e ∈ generate, e.2 = (j.engine.files e.1.2).mapError .unparsed)
    {f : FixtureFile} (hf : f ∈ generate.outputs j.generator) : j.Contributes s paths f := by
  refine contributes_of_mem_made read generate (fun e he => hpaths (List.mem_map_of_mem he)) hread
    (fun e he => ?_) hgenerate (by rwa [Log.bind_made])
  rw [Log.bind_made]
  have hsource := hsources (List.mem_map_of_mem he)
  simpa [Log.outputs, reader] using hsource

/-- The files that a ledger tells of are those that the batch gives rise to. -/
lemma Ledger.Accounts.contributes {s' : Store} (haccounts : g.Accounts j s s' paths)
    {f : FixtureFile} (hf : f ∈ g.write.items) : j.Contributes s paths f :=
  contributes_of_mem_outputs haccounts.paths.subset haccounts.read haccounts.sources.subset
    haccounts.generate (haccounts.files.subset hf)

/-! ## Written files -/

/-- What was saved was attempted. -/
private lemma sublist_attempted (log : Log FixtureFile String) :
    (log.results.map (·.1)).Sublist ((log.filter isAttempt).map (·.1)) := by
  induction log with
  | nil => exact List.Sublist.refl _
  | cons e log ih =>
    obtain ⟨f, result⟩ := e
    cases result with
    | ok text => exact ih.cons_cons f
    | error cause =>
      have hresults : Log.results ((f, .error cause) :: log) = Log.results log := rfl
      rw [hresults]
      by_cases hattempt : isAttempt (f, .error cause) = true
      · rw [List.filter_cons_of_pos hattempt]
        exact ih.cons f
      · rw [List.filter_cons_of_neg hattempt]
        exact ih

/-- A saved file is reported under its target. -/
private lemma text_of_mem_results {log : Log FixtureFile String} {names : List String}
    (houtcome : ∀ e ∈ log, j.Outcome s names e.1 e.2) {e : FixtureFile × String}
    (he : e ∈ log.results) : e.2 = (j.target e.1).text := by
  obtain ⟨⟨f, result⟩, hmem, hresult⟩ := List.mem_filterMap.mp he
  have hfile : j.Outcome s names f result := houtcome _ hmem
  cases result with
  | error cause => simp [Except.toOption] at hresult
  | ok text =>
    simp only [Except.toOption, Option.map_some, Option.some.injEq] at hresult
    subst hresult
    cases hfile
    rfl

/-- Texts that are sorted are in order. -/
lemma Job.pairwise_mergeSort (texts : List String) :
    (texts.mergeSort textLE).Pairwise (· ≤ ·) := by
  have hsorted : (texts.mergeSort textLE).Pairwise (fun a b => textLE a b = true) :=
    List.pairwise_mergeSort (by simpa [textLE] using fun a b c => String.le_trans)
      (by simpa [textLE] using String.le_total) _
  exact hsorted.imp of_decide_eq_true

/-- Sorting forgets the order. -/
lemma Job.mergeSort_congr {texts texts' : List String} (hperm : texts.Perm texts') :
    texts.mergeSort textLE = texts'.mergeSort textLE := by
  refine List.Perm.eq_of_pairwise' (pairwise_mergeSort texts) (pairwise_mergeSort texts') ?_
  exact ((List.mergeSort_perm _ _).trans hperm).trans (List.mergeSort_perm _ _).symm

/-- The written files of the report are in strict order: their names differ, and so do the texts
of their targets. -/
private lemma pairwise_written {names : List String}
    (houtcome : ∀ e ∈ g.write, j.Outcome s names e.1 e.2)
    (hattempts : (g.attempted.map FixtureFile.qualifiedName).Nodup) (hext : j.extension = ".cs")
    (hslash : ∀ f ∈ g.write.items, '/' ∉ f.qualifiedName.toList) :
    (g.report j).written.Pairwise (· < ·) := by
  -- saved files were attempted, and attempts have different names
  have hnames : g.write.results.Pairwise fun a b => a.1.qualifiedName ≠ b.1.qualifiedName := by
    have hnodup := hattempts.sublist ((sublist_attempted g.write).map _)
    rw [List.map_map] at hnodup
    exact List.pairwise_map.mp hnodup
  have hmem : ∀ e ∈ g.write.results, '/' ∉ e.1.qualifiedName.toList := by
    intro e he
    have hattempted := (sublist_attempted g.write).subset (List.mem_map_of_mem (f := (·.1)) he)
    obtain ⟨entry, hentry, heq⟩ := List.mem_map.mp hattempted
    rw [← heq]
    exact hslash _ (List.mem_map_of_mem (List.mem_of_mem_filter hentry))
  have hnodup : (g.write.results.map (·.2)).Nodup := by
    refine List.pairwise_map.mpr (hnames.imp_of_mem fun {a b} ha hb hne htext => hne ?_)
    rw [text_of_mem_results houtcome ha, text_of_mem_results houtcome hb] at htext
    exact Job.qualifiedName_eq_of_text hext (hmem a ha) (hmem b hb) htext
  -- sorted, and without repetitions, is in strict order
  have hnodup' : ((g.write.results.map (·.2)).mergeSort Job.textLE).Nodup :=
    (List.mergeSort_perm _ _).nodup_iff.mpr hnodup
  exact ((Job.pairwise_mergeSort _).and hnodup').imp fun hab => lt_of_le_of_ne hab.1 hab.2

/-! ## Ledgers that account for a batch -/

/-- What the attempts claimed is the names of the files that were attempted. -/
private lemma claimed_perm (hwrote : j.Wrote s d 0 g.write) :
    d.claimed.Perm (g.attempted.map FixtureFile.qualifiedName) := by
  have hclaimed := hwrote.claimed
  simp only [Multiset.map_zero, zero_add, Multiset.filter_coe, Multiset.map_coe,
    Multiset.coe_eq_coe, Bool.decide_eq_true] at hclaimed
  rw [Ledger.attempted, List.map_map]
  exact hclaimed

/-- Where no item is lost between the stages, what holds of the files makes a ledger that accounts
for the batch. -/
lemma Ledger.accounts_of_wrote (hext : j.extension = ".cs") (hapart : j.Apart s paths)
    (hpaths : g.read.items.Perm paths) (hread : ∀ e ∈ g.read, ReadOutcome s e.1 e.2)
    (hsources : g.generate.items.Perm g.read.results)
    (hgenerate : ∀ e ∈ g.generate, e.2 = (j.engine.files e.1.2).mapError .unparsed)
    (hfiles : g.write.items.Perm (g.generate.outputs j.generator))
    (hwrote : j.Wrote s d 0 g.write) : g.Accounts j s d.store paths := by
  have hperm := claimed_perm hwrote
  have hattempts : (g.attempted.map FixtureFile.qualifiedName).Nodup :=
    hperm.nodup_iff.mp hwrote.nodup
  have houtcome : ∀ e ∈ g.write,
      j.Outcome d.store (g.attempted.map FixtureFile.qualifiedName) e.1 e.2 :=
    fun e he => (hwrote.outcome e he).mono hperm.subset
  have hslash : ∀ f ∈ g.write.items, '/' ∉ f.qualifiedName.toList := by
    intro f hf
    exact hapart.no_slash f (contributes_of_mem_outputs hpaths.subset hread hsources.subset
      hgenerate (hfiles.subset hf))
  exact ⟨hpaths, hread, hsources, hgenerate, hfiles, hattempts, houtcome,
    pairwise_written houtcome hattempts hext hslash, hwrote.untouched⟩

end FixtureDraft.Batch
