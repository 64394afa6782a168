import FixtureDraft.Proofs.Causes

/-!
# One report for all schedules

Two lines of one batch may take turns as they like: once they are finished their ledgers account
for the same items, and so they report the same (`Ledger.Accounts.alikeButReasons`,
`Ledger.Accounts.alike`). Which of the files with one name is attempted may differ, but it is one
of them, and what comes of it is the same for all. Where all names differ there is no such choice,
and the same files are left (`Ledger.Accounts.find?_eq_of_nodup`).
-/

namespace FixtureDraft.Batch

open FixtureDraft.Files

variable {α ρ β : Type}

/-- The reports tell the same, perhaps in another order. -/
structure Report.Alike (r r' : Report) : Prop where
  read : r.read.Perm r'.read
  written : r.written = r'.written
  failures : r.failures.Perm r'.failures

/-- A failure without the reason why a source was not read. -/
def Failure.withoutReadReason (f : Failure) : Failure :=
  if f.stage = Stage.read.word then { f with error := "" } else f

/-- The reports tell the same, perhaps in another order, and perhaps with other reasons why sources
were not read. -/
structure Report.AlikeButReasons (r r' : Report) : Prop where
  read : r.read.Perm r'.read
  written : r.written = r'.written
  failures : (r.failures.map Failure.withoutReadReason).Perm
    (r'.failures.map Failure.withoutReadReason)

/-! ## Logs of the same items -/

namespace Log

variable {h : Handler α ρ β} {log log' : Log α ρ}

/-- Logs of the same items, where the items say what becomes of them, have the same entries. -/
lemma perm_of_items (F : α → Except Cause ρ) (hlog : ∀ e ∈ log, e.2 = F e.1)
    (hlog' : ∀ e ∈ log', e.2 = F e.1) (hitems : log.items.Perm log'.items) : log.Perm log' := by
  have hmap : ∀ log : Log α ρ, (∀ e ∈ log, e.2 = F e.1) →
      log.items.map (fun a => (a, F a)) = log := by
    intro log hlog
    rw [items, List.map_map]
    refine (List.map_congr_left fun e he => ?_).trans (List.map_id log)
    exact Prod.ext rfl (hlog e he).symm
  rw [← hmap log hlog, ← hmap log' hlog']
  exact hitems.map _

lemma results_perm (hperm : log.Perm log') : log.results.Perm log'.results :=
  hperm.filterMap _

lemma outputs_perm (hperm : log.Perm log') : (log.outputs h).Perm (log'.outputs h) :=
  (results_perm hperm).flatMap_right _

lemma faults_perm (hperm : log.Perm log') : (log.faults h).Perm (log'.faults h) :=
  hperm.filterMap _

end Log

/-! ## What became of the files of a name -/

/-- What became of a file, under its name. -/
def byName (e : FixtureFile × Except Cause String) : String × Except Cause String :=
  (e.1.qualifiedName, e.2)

namespace Ledger

variable {g g' : Ledger} {j : Job} {s s₁ s₂ : Store} {paths : List String}

/-- A file that was refused is a duplicate. -/
lemma Accounts.eq_duplicate (haccounts : g.Accounts j s s₁ paths)
    {e : FixtureFile × Except Cause String} (he : e ∈ g.write) (hrefused : isAttempt e = false) :
    e.2 = .error (.duplicate e.1.qualifiedName)
      ∧ e.1.qualifiedName ∈ g.attempted.map FixtureFile.qualifiedName := by
  obtain ⟨f, result⟩ := e
  have houtcome : j.Outcome s₁ _ f result := haccounts.write _ he
  cases houtcome with
  | duplicate hname => exact ⟨rfl, hname⟩
  | saved _ _ => cases hrefused
  | unsaved fault => cases hrefused

/-- For each name one file is attempted, and all others are duplicates. -/
lemma Accounts.exists_names (haccounts : g.Accounts j s s₁ paths)
    (hattempts : g.AttemptsFromStart j s) :
    ∃ attempted refused : List String, attempted.Nodup ∧
      (∀ name, name ∈ attempted ↔ name ∈ g.write.items.map FixtureFile.qualifiedName) ∧
      (g.write.items.map FixtureFile.qualifiedName).Perm (attempted ++ refused) ∧
      (g.write.map byName).Perm (attempted.map (fun name => (name, j.attempt s name))
        ++ refused.map fun name => (name, .error (.duplicate name))) := by
  set attempts := g.write.filter isAttempt
  set refusals := g.write.filter (fun e => !isAttempt e)
  have hsplit : g.write.Perm (attempts ++ refusals) := (List.filter_append_perm _ _).symm
  refine ⟨g.attempted.map FixtureFile.qualifiedName,
    refusals.map fun e => e.1.qualifiedName, haccounts.attempts, fun name => ⟨?_, ?_⟩, ?_, ?_⟩
  · intro hname
    obtain ⟨f, hf, rfl⟩ := List.mem_map.mp hname
    obtain ⟨e, he, rfl⟩ := List.mem_map.mp hf
    exact List.mem_map_of_mem (List.mem_map_of_mem (List.mem_of_mem_filter he))
  · intro hname
    obtain ⟨f, hf, rfl⟩ := List.mem_map.mp hname
    obtain ⟨e, he, rfl⟩ := List.mem_map.mp hf
    cases hattempt : isAttempt e with
    | true =>
      exact List.mem_map_of_mem (List.mem_map_of_mem (List.mem_filter.mpr ⟨he, hattempt⟩))
    | false => exact (haccounts.eq_duplicate he hattempt).2
  · have hnames := hsplit.map fun e => e.1.qualifiedName
    rw [List.map_append] at hnames
    rw [Log.items, attempted, List.map_map, List.map_map]
    exact hnames
  · have houtcomes := hsplit.map byName
    rw [List.map_append] at houtcomes
    have hattempted : attempts.map byName = (g.attempted.map FixtureFile.qualifiedName).map
        fun name => (name, j.attempt s name) := by
      rw [attempted, List.map_map, List.map_map]
      refine List.map_congr_left fun e he => Prod.ext rfl ?_
      obtain ⟨he, hattempt⟩ := List.mem_filter.mp he
      exact hattempts e he hattempt
    have hrefused : refusals.map byName = (refusals.map fun e => e.1.qualifiedName).map
        fun name => (name, .error (.duplicate name)) := by
      rw [List.map_map]
      refine List.map_congr_left fun e he => Prod.ext rfl ?_
      obtain ⟨he, hrefused⟩ := List.mem_filter.mp he
      exact (haccounts.eq_duplicate he (by simpa using hrefused)).1
    rw [hattempted, hrefused] at houtcomes
    exact houtcomes

/-- What became of the files is the same under each name. -/
lemma Accounts.byName_perm (haccounts : g.Accounts j s s₁ paths)
    (hattempts : g.AttemptsFromStart j s) (haccounts' : g'.Accounts j s s₂ paths)
    (hattempts' : g'.AttemptsFromStart j s) (hitems : g.write.items.Perm g'.write.items) :
    (g.write.map byName).Perm (g'.write.map byName) := by
  obtain ⟨attempted, refused, hnodup, hmem, hnames, hperm⟩ := haccounts.exists_names hattempts
  obtain ⟨attempted', refused', hnodup', hmem', hnames', hperm'⟩ :=
    haccounts'.exists_names hattempts'
  have hsame := hitems.map FixtureFile.qualifiedName
  have hattempted : attempted.Perm attempted' := by
    refine (List.perm_ext_iff_of_nodup hnodup hnodup').mpr fun name => ?_
    rw [hmem, hmem', hsame.mem_iff]
  -- the duplicates are what is left of the names
  have hrefused : refused.Perm refused' := by
    refine (List.perm_append_left_iff attempted').mp ?_
    exact (hattempted.symm.append_right refused).trans
      ((hnames.symm.trans hsame).trans hnames')
  exact hperm.trans (((hattempted.map _).append (hrefused.map _)).trans hperm'.symm)

/-- What the report tells of the files is what became of them under their names. -/
lemma filterMap_byName (log : Log FixtureFile String) (j : Job) :
    log.results.map (·.2) = (log.map byName).filterMap (fun e => e.2.toOption) ∧
      log.faults j.writer = (log.map byName).filterMap fun e =>
        match e.2 with
        | .ok _ => none
        | .error cause => some ⟨.write, e.1, cause⟩ := by
  rw [List.filterMap_map, List.filterMap_map, Log.results, List.map_filterMap]
  refine ⟨List.filterMap_congr fun e _ => ?_, List.filterMap_congr fun e _ => ?_⟩
  all_goals
    obtain ⟨f, result⟩ := e
    cases result <;> rfl

/-! ## Ledgers of one batch -/

/-- The stages of two ledgers of one batch have the same items. -/
lemma Accounts.logs_perm (haccounts : g.Accounts j s s₁ paths)
    (haccounts' : g'.Accounts j s s₂ paths) : g.read.results.Perm g'.read.results ∧
      g.generate.Perm g'.generate ∧ g.write.items.Perm g'.write.items := by
  have hitems := haccounts.paths.trans haccounts'.paths.symm
  have hresults : g.read.results.Perm g'.read.results := by
    rw [(Log.read_eq haccounts.read).1, (Log.read_eq haccounts'.read).1]
    exact hitems.filterMap _
  have hsources := (haccounts.sources.trans hresults).trans haccounts'.sources.symm
  have hgenerate := Log.perm_of_items (fun source => (j.engine.files source.2).mapError .unparsed)
    haccounts.generate haccounts'.generate hsources
  exact ⟨hresults, hgenerate,
    (haccounts.files.trans (Log.outputs_perm hgenerate)).trans haccounts'.files.symm⟩

/-- Two ledgers of one batch report the same written files, and the same faults of the files. -/
lemma Accounts.written_eq (haccounts : g.Accounts j s s₁ paths)
    (hattempts : g.AttemptsFromStart j s) (haccounts' : g'.Accounts j s s₂ paths)
    (hattempts' : g'.AttemptsFromStart j s) : (g.report j).written = (g'.report j).written ∧
      (g.write.faults j.writer).Perm (g'.write.faults j.writer) := by
  obtain ⟨-, -, hitems⟩ := haccounts.logs_perm haccounts'
  have hbyname := haccounts.byName_perm hattempts haccounts' hattempts' hitems
  constructor
  · refine Job.mergeSort_congr ?_
    rw [(filterMap_byName g.write j).1, (filterMap_byName g'.write j).1]
    exact hbyname.filterMap _
  · rw [(filterMap_byName g.write j).2, (filterMap_byName g'.write j).2]
    exact hbyname.filterMap _

/-- Two ledgers of one batch report the same, but perhaps for the reasons why sources were not
read. -/
theorem Accounts.alikeButReasons (haccounts : g.Accounts j s s₁ paths)
    (hattempts : g.AttemptsFromStart j s) (haccounts' : g'.Accounts j s s₂ paths)
    (hattempts' : g'.AttemptsFromStart j s) : (g.report j).AlikeButReasons (g'.report j) := by
  obtain ⟨hread, hgenerate, -⟩ := haccounts.logs_perm haccounts'
  obtain ⟨hwritten, hwrite⟩ := haccounts.written_eq hattempts haccounts' hattempts'
  have hreasons : ∀ log : Log String String,
      (log.faults reader).map (fun f => f.failure.withoutReadReason) =
        ((log.faults reader).map (·.item)).map fun path => ⟨Stage.read.word, path, ""⟩ := by
    intro log
    rw [List.map_map]
    refine List.map_congr_left fun f hf => ?_
    obtain ⟨e, -, cause, -, rfl⟩ := Log.mem_faults.mp hf
    rfl
  have hunread : ((g.read.faults reader).map fun f => f.failure.withoutReadReason).Perm
      ((g'.read.faults reader).map fun f => f.failure.withoutReadReason) := by
    rw [hreasons, hreasons, (Log.read_eq haccounts.read).2, (Log.read_eq haccounts'.read).2]
    exact ((haccounts.paths.trans haccounts'.paths.symm).filter _).map _
  refine ⟨hread.map _, hwritten, ?_⟩
  simp only [report, List.map_append, List.map_map]
  exact (hunread.append ((Log.faults_perm hgenerate).map _)).append (hwrite.map _)

/-- Two ledgers of one batch report the same if the sources are read as the store at the start
says. -/
theorem Accounts.alike (haccounts : g.Accounts j s s₁ paths) (hfrom : g.FromStart j s)
    (haccounts' : g'.Accounts j s s₂ paths) (hfrom' : g'.FromStart j s) :
    (g.report j).Alike (g'.report j) := by
  obtain ⟨hresults, hgenerate, -⟩ := haccounts.logs_perm haccounts'
  obtain ⟨hwritten, hwrite⟩ :=
    haccounts.written_eq hfrom.attempts haccounts' hfrom'.attempts
  have hread := Log.perm_of_items (fun path => (s.readText path).mapError .unread)
    hfrom.read hfrom'.read (haccounts.paths.trans haccounts'.paths.symm)
  refine ⟨hresults.map _, hwritten, ?_⟩
  exact (((Log.faults_perm hread).append (Log.faults_perm hgenerate)).append hwrite).map _

/-! ## Files that are left -/

/-- Where all names differ no file is refused. -/
lemma Accounts.isAttempt_of_nodup (haccounts : g.Accounts j s s₁ paths)
    (hnodup : (g.write.items.map FixtureFile.qualifiedName).Nodup)
    {e : FixtureFile × Except Cause String} (he : e ∈ g.write) : isAttempt e = true := by
  by_contra hrefused
  rw [Bool.not_eq_true] at hrefused
  -- the name was claimed by an attempt, which would be a second file of the name
  obtain ⟨f, hf, hname⟩ := List.mem_map.mp (haccounts.eq_duplicate he hrefused).2
  obtain ⟨e', he', rfl⟩ := List.mem_map.mp hf
  obtain ⟨he', hattempt⟩ := List.mem_filter.mp he'
  rw [Log.items, List.map_map] at hnodup
  obtain rfl := List.inj_on_of_nodup_map hnodup he' he hname
  rw [hattempt] at hrefused
  cases hrefused

/-- Where nothing failed all names differ. -/
lemma Accounts.nodup_of_failures_eq_nil (haccounts : g.Accounts j s s₁ paths)
    (hnone : (g.report j).failures = []) :
    (g.write.items.map FixtureFile.qualifiedName).Nodup := by
  have hfaults := List.map_eq_nil_iff.mp hnone
  have hok := Log.faults_eq_nil_iff.mp (List.append_eq_nil_iff.mp hfaults).2
  have hattempts : ∀ e ∈ g.write, isAttempt e = true := by
    intro e he
    obtain ⟨f, result⟩ := e
    cases result with
    | ok r => rfl
    | error cause => cases hok _ he
  have hall := haccounts.attempts
  rw [attempted, List.filter_eq_self.mpr hattempts] at hall
  exact hall

/-- A file that was saved is on disk. -/
lemma Accounts.find?_target (haccounts : g.Accounts j s s₁ paths)
    (hfolders : Store.SameFolders s s₁) {e : FixtureFile × Except Cause String}
    (he : e ∈ g.write) (hok : e.2.isOk = true) {place : List String}
    (hplace : s.place (j.target e.1) = .ok place) :
    s₁.find? place = some (.file (Text.encode e.1.code)) := by
  obtain ⟨f, result⟩ := e
  have houtcome : j.Outcome s₁ _ f result := haccounts.write _ he
  cases houtcome with
  | duplicate _ => cases hok
  | unsaved _ => cases hok
  | saved hplace' hfile =>
    obtain rfl := Except.ok.inj (((hfolders.place_ok_iff _ _).mpr hplace).symm.trans hplace')
    exact hfile

/-- Where all names differ, two ledgers of one batch tell of the same files. -/
theorem Accounts.find?_eq_of_nodup (haccounts : g.Accounts j s s₁ paths)
    (hattempts : g.AttemptsFromStart j s) (haccounts' : g'.Accounts j s s₂ paths)
    (hattempts' : g'.AttemptsFromStart j s)
    (hfolders : Store.SameFolders s s₁) (hfolders' : Store.SameFolders s s₂)
    (hnodup : (g.write.items.map FixtureFile.qualifiedName).Nodup) (place : List String) :
    s₁.find? place = s₂.find? place := by
  obtain ⟨-, -, hitems⟩ := haccounts.logs_perm haccounts'
  have hnodup' := (hitems.map FixtureFile.qualifiedName).nodup_iff.mp hnodup
  -- every file is attempted, so both logs say of it what the store at the start says
  have hlogs : g.write.Perm g'.write := by
    refine Log.perm_of_items (fun f => j.attempt s f.qualifiedName) (fun e he => ?_)
      (fun e he => ?_) hitems
    · exact hattempts e he (haccounts.isAttempt_of_nodup hnodup he)
    · exact hattempts' e he (haccounts'.isAttempt_of_nodup hnodup' he)
  by_cases htarget : ∃ e ∈ g.write, e.2.isOk = true ∧ s.place (j.target e.1) = .ok place
  · obtain ⟨e, he, hok, hplace⟩ := htarget
    rw [haccounts.find?_target hfolders he hok hplace,
      haccounts'.find?_target hfolders' (hlogs.subset he) hok hplace]
  · -- a place where no file was saved is as it was at the start
    push Not at htarget
    rw [haccounts.untouched place htarget,
      haccounts'.untouched place fun e he => htarget e (hlogs.symm.subset he)]

end Ledger

end FixtureDraft.Batch
