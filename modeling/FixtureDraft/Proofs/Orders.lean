import FixtureDraft.Proofs.BatchFiles
import FixtureDraft.Proofs.Confluence

/-!
# The order of the paths

A tolerant batch may take its paths in any order, with any number of workers that take turns as
they like: it reports the same (`order_of_paths_indifferent`). Which of several files of one name
is written does depend on the order; where all names differ there is no such choice, and the same
files are left. A name with a slash can share its place with another one, so that this is said of
names without slashes only (`order_of_paths_shows`).
-/

namespace FixtureDraft.Batch

open FixtureDraft.Files

variable {j : Job} {s s₀ s' : Store} {paths paths' : List String}

/-! ## The same paths in another order -/

lemma Job.Contributes.of_subset (hpaths : paths ⊆ paths') {f : FixtureFile}
    (hf : j.Contributes s paths f) : j.Contributes s paths' f := by
  obtain ⟨path, hpath, hmade⟩ := hf
  exact ⟨path, hpaths hpath, hmade⟩

/-- Where the files of a batch are written does not depend on the order, -/
lemma Job.Apart.of_subset (hpaths : paths ⊆ paths') (hapart : j.Apart s paths') :
    j.Apart s paths where
  no_slash f hf := hapart.no_slash f (hf.of_subset hpaths)
  not_target path hpath place hplace f hf :=
    hapart.not_target path (hpaths hpath) place hplace f (hf.of_subset hpaths)

/-- and neither does whether they stand in anybody's way. -/
lemma Job.Clear.of_subset (hpaths : paths ⊆ paths') (hclear : j.Clear s paths') :
    j.Clear s paths where
  no_slash f hf := hclear.no_slash f (hf.of_subset hpaths)
  not_through path hpath place hplace f hf :=
    hclear.not_through path (hpaths hpath) place hplace f (hf.of_subset hpaths)

/-- Nor does it matter to a ledger in which order the paths are given. -/
lemma Ledger.Accounts.of_perm {g : Ledger} (haccounts : g.Accounts j s s' paths)
    (hperm : paths.Perm paths') : g.Accounts j s s' paths' :=
  { haccounts with paths := haccounts.paths.trans hperm }

/-! ## Batches that have a report -/

/-- What a batch leaves and reports, if it ends with a report, whatever its numbers of workers. -/
def Job.Completes (j : Job) (s : Store) (paths : List String) (o : Store × Report) : Prop :=
  ∃ w, j.Finishes w s paths (o.1, .ok o.2)

namespace Job.Completes

variable {r : Report} {o o' : Store × Report}

lemma inTurn (hrun : j.run s paths = (s', .ok r)) : j.Completes s paths (s', r) := by
  refine ⟨{}, ?_⟩
  rw [← hrun]
  exact .inTurn

/-- However a tolerant batch is completed, its ledger accounts for it, and says what the store at
the start says. -/
lemma exists_ledger (hcompletes : j.Completes s paths o)
    (htolerant : j.strict = false) (hext : j.extension = ".cs")
    (hfolder : s.makeFolders j.folder = (s₀, none)) (hapart : j.Apart s₀ paths) :
    ∃ g : Ledger, o.2 = g.report j ∧ g.Accounts j s₀ o.1 paths ∧ g.AttemptsFromStart j s₀ ∧
      Store.SameFolders s₀ o.1 ∧ (j.Clear s₀ paths → g.FromStart j s₀) := by
  have hthere := Store.isFolder_of_makeFolders hfolder
  obtain ⟨s', r⟩ := o
  obtain ⟨w, hfinishes⟩ := hcompletes
  generalize hend : ((s', r).1, (.ok (s', r).2 : Except RunFault Report)) = last at hfinishes
  cases hfinishes with
  | inTurn =>
    obtain ⟨s₁, hrun, haccounts, hfolders⟩ := run_eq_stagedLedger hext htolerant hfolder hapart
    obtain ⟨rfl, hreport⟩ := Prod.mk.inj (hend.trans hrun)
    have hfrom := fromStart_stagedLedger hext hthere fun f hf =>
      hapart.no_slash f (haccounts.contributes hf)
    exact ⟨_, Except.ok.inj hreport, haccounts, hfrom.attempts, hfolders, fun _ => hfrom⟩
  | strictly hstrict =>
    rw [htolerant] at hstrict
    cases hstrict
  | @tolerantly s₁ l _ hworkers hfolder' hreach hfinished =>
    obtain rfl : s₁ = s₀ := (Prod.mk.inj (hfolder'.symm.trans hfolder)).1
    obtain ⟨rfl, hreport⟩ := Prod.mk.inj hend
    obtain ⟨hbalanced, hattempts⟩ := Line.balanced_and_attempts hapart hext hthere hreach
    have hsound := Line.sound_of_reach hworkers hreach
    exact ⟨l.ledger, Except.ok.inj hreport, hbalanced.accounts hapart hext hsound hfinished,
      hattempts, hbalanced.wrote.folders,
      fun hclear => Line.fromStart_of_reach hclear hext hthere hreach⟩

/-- Two ways to complete a tolerant batch come to the same, also if the paths are given in another
order: to the same report, but for the reasons why sources were not read, and to the same files if
all names differ. -/
lemma alike (hcompletes : j.Completes s paths o) (hcompletes' : j.Completes s paths' o')
    (htolerant : j.strict = false) (hext : j.extension = ".cs")
    (hfolder : s.makeFolders j.folder = (s₀, none)) (hapart : j.Apart s₀ paths)
    (hperm : paths.Perm paths') :
    o.2.AlikeButReasons o'.2 ∧
      (j.Clear s₀ paths → o.2.Alike o'.2) ∧
      (((j.filesOf s₀ paths).map FixtureFile.qualifiedName).Nodup →
        ∀ place, o.1.find? place = o'.1.find? place) := by
  have hback := hperm.symm.subset
  obtain ⟨g, hreport, haccounts, hattempts, hfolders, hfrom⟩ :=
    hcompletes.exists_ledger htolerant hext hfolder hapart
  obtain ⟨g', hreport', haccounts', hattempts', hfolders', hfrom'⟩ :=
    hcompletes'.exists_ledger htolerant hext hfolder (hapart.of_subset hback)
  -- both ledgers account for one batch
  have hsame := haccounts'.of_perm hperm.symm
  rw [hreport, hreport']
  refine ⟨haccounts.alikeButReasons hattempts hsame hattempts', fun hclear => ?_,
    fun hnodup place => ?_⟩
  · exact haccounts.alike (hfrom hclear) hsame (hfrom' (hclear.of_subset hback))
  · have hnames := (haccounts.items_perm.map FixtureFile.qualifiedName).nodup_iff.mpr hnodup
    exact haccounts.find?_eq_of_nodup hattempts hsame hattempts' hfolders hfolders' hnames place

/-- A tolerant batch that reports no failure has files of different names. -/
lemma nodup_of_failures_eq_nil (hcompletes : j.Completes s paths o)
    (htolerant : j.strict = false) (hext : j.extension = ".cs")
    (hfolder : s.makeFolders j.folder = (s₀, none)) (hapart : j.Apart s₀ paths)
    (hnone : o.2.failures = []) :
    ((j.filesOf s₀ paths).map FixtureFile.qualifiedName).Nodup := by
  obtain ⟨g, hreport, haccounts, -⟩ := hcompletes.exists_ledger htolerant hext hfolder hapart
  rw [hreport] at hnone
  have hnames := haccounts.nodup_of_failures_eq_nil hnone
  exact (haccounts.items_perm.map FixtureFile.qualifiedName).nodup_iff.mp hnames

end Job.Completes

/-- Neither the order of the paths nor the numbers of workers nor how these take turns show in
what a tolerant batch reports, but for the reasons why sources were not read; nor do they show in
these if no path leads through a place where a file is written. If all files of the batch have
different names, nothing of it shows in what the batch leaves. A batch can be completed with any
numbers of workers. -/
theorem order_of_paths_indifferent (j : Job) (s s₀ : Store) (paths paths' : List String)
    (htolerant : j.strict = false) (hext : j.extension = ".cs")
    (hfolder : s.makeFolders j.folder = (s₀, none)) (hapart : j.Apart s₀ paths)
    (hperm : paths.Perm paths') :
    (∀ w : Workers, w.check = .ok () → ∃ l : Line, l.Finished ∧
      Relation.ReflTransGen (Line.Step j) (Line.start w s₀ paths) l) ∧
    ∀ o o', j.Completes s paths o → j.Completes s paths' o' →
      o.2.AlikeButReasons o'.2 ∧
      (j.Clear s₀ paths → o.2.Alike o'.2) ∧
      (((j.filesOf s₀ paths).map FixtureFile.qualifiedName).Nodup →
        ∀ place, o.1.find? place = o'.1.find? place) := by
  refine ⟨fun w hworkers => ?_, fun o o' hcompletes hcompletes' => ?_⟩
  · obtain ⟨l, hreach, hfinished⟩ := (Line.sound_start hworkers s₀ paths).exists_finished j
    exact ⟨l, hfinished, hreach⟩
  · exact hcompletes.alike hcompletes' htolerant hext hfolder hapart hperm

/-- Of the sources of the sample one is there, and it gives rise to one file. -/
lemma qualifiedNames_of_sample :
    (sampleJob.filesOf (sampleStore true) ["A.cs", "B.cs"]).map FixtureFile.qualifiedName
      = ["ATests"] := by
  have hread : (["A.cs", "B.cs"].filterMap fun path => ((sampleStore true).readText path).toOption)
      = ["public class A { }"] := by
    simp only [Store.readText, Store.read, String.contains_char_eq]
    decide +kernel
  rw [Job.filesOf, hread]
  decide +kernel

lemma clear_sample : sampleJob.Clear (sampleStore true) ["A.cs", "B.cs"] := by
  have hname : ∀ f, sampleJob.Contributes (sampleStore true) ["A.cs", "B.cs"] f →
      f.qualifiedName = "ATests" := by
    intro f hf
    have hmem := List.mem_map_of_mem (f := FixtureFile.qualifiedName) (mem_filesOf.mpr hf)
    rw [qualifiedNames_of_sample] at hmem
    exact List.mem_singleton.mp hmem
  refine ⟨fun f hf => ?_, fun path hpath place hplace f hf hsame => ?_⟩
  · rw [hname f hf]
    decide
  · have htarget : ((sampleStore true).place (sampleJob.target f)).toOption
        = some ["out", "ATests.cs"] := by
      rw [Job.target, hname f hf]
      decide +kernel
    have hplaces : ∀ path ∈ ["A.cs", "B.cs"], ["out", "ATests.cs"] ∉
        (sampleStore true).placesNamed path := by decide +kernel
    rw [hsame] at htarget
    obtain rfl : place = ["out", "ATests.cs"] := Option.some.inj htarget
    exact hplaces path hpath hplace

/-- A source that is there and one that is not, in either order. -/
theorem order_of_paths_indifferent_for_missing_source :
    ∃ o o', sampleJob.Completes (sampleStore false) ["A.cs", "B.cs"] o ∧
      sampleJob.Completes (sampleStore false) ["B.cs", "A.cs"] o' ∧
      o.2.Alike o'.2 ∧ ∀ place, o.1.find? place = o'.1.find? place := by
  have hapart := clear_sample.apart
  obtain ⟨s₁, hrun, -⟩ := Job.run_eq_stagedLedger rfl rfl makeFolders_sampleStore hapart
  obtain ⟨s₂, hrun', -⟩ := Job.run_eq_stagedLedger rfl rfl makeFolders_sampleStore
    (hapart.of_subset (List.Perm.swap "A.cs" "B.cs" []).subset)
  obtain ⟨-, hpair⟩ := order_of_paths_indifferent sampleJob _ _ ["A.cs", "B.cs"] ["B.cs", "A.cs"]
    rfl rfl makeFolders_sampleStore hapart (.swap _ _ _)
  obtain ⟨-, halike, hstores⟩ := hpair _ _ (.inTurn hrun) (.inTurn hrun')
  refine ⟨_, _, .inTurn hrun, .inTurn hrun', halike clear_sample, hstores ?_⟩
  rw [qualifiedNames_of_sample]
  decide

/-! ## Names with slashes -/

/-- Folders `o` and `o/A`, and two sources with comments in the names of their namespaces. -/
def slashedStore : Store where
  entries := [(["o"], .folder), (["o", "A"], .folder),
    (["P.cs"], .file (Text.encode "namespace A//x.B\n.C { public class X { } }")),
    (["Q.cs"], .file (Text.encode
      "namespace A///x\n.B.C { public class X { public void M() { } } }"))]

/-- The place where the files of both sources are written. -/
def slashedPlace : List String := ["o", "A", "x.B.C.Tests.XTests.cs"]

/-- A batch into the folder `o`. -/
def slashedJob (strict : Bool) : Job := { folder := .ofText "o", strict }

lemma makeFolders_slashedStore (strict : Bool) :
    slashedStore.makeFolders (slashedJob strict).folder = (slashedStore, none) := by
  refine Store.makeFolders_of_isFolder ?_
  simp only [slashedJob, Store.isFolder, Store.look, String.contains_char_eq]
  decide +kernel

/-- A file with one of these names is written at that place, if it is. -/
lemma writable_slashedStore (strict : Bool) {f : FixtureFile}
    (hname : f.qualifiedName ∈ ["A//x.B.C.Tests.XTests", "A///x.B.C.Tests.XTests"]) :
    slashedStore.Writable ((slashedJob strict).target f) slashedPlace := by
  rw [Job.target]
  generalize f.qualifiedName = name at hname
  refine ⟨?_, ?_, ?_⟩
  all_goals fin_cases hname
  all_goals
    simp only [slashedJob, String.contains_char_eq, ne_eq]
    decide +kernel

/-- Both sources are good, and each gives rise to one file. -/
lemma exists_slashed : ∃ f g : FixtureFile, Text.encode f.code ≠ Text.encode g.code ∧
    f.qualifiedName = "A//x.B.C.Tests.XTests" ∧ g.qualifiedName = "A///x.B.C.Tests.XTests" ∧
    ∀ strict, (slashedJob strict).filesOf slashedStore ["P.cs"] = [f] ∧
      (slashedJob strict).filesOf slashedStore ["Q.cs"] = [g] ∧
      ∀ path ∈ ["P.cs", "Q.cs"], ∃ code files, slashedStore.readText path = .ok code ∧
        (slashedJob strict).engine.files code = .ok files := by
  have hread : (slashedStore.readText "P.cs").toOption
        = some "namespace A//x.B\n.C { public class X { } }" ∧
      (slashedStore.readText "Q.cs").toOption
        = some "namespace A///x\n.B.C { public class X { public void M() { } } }" := by
    simp only [Store.readText, Store.read, String.contains_char_eq]
    decide +kernel
  obtain ⟨f, hname, hf, hcode⟩ := exists_file _ "P.cs" _ "A//x.B.C.Tests.XTests" hread.1
    (by decide +kernel)
  obtain ⟨g, hname', hg, hcode'⟩ := exists_file _ "Q.cs" _ "A///x.B.C.Tests.XTests" hread.2
    (by decide +kernel)
  have hcodes :
      (Engine.files {} "namespace A//x.B\n.C { public class X { } }").toOption.map
          (List.map fun f => Text.encode f.code) ≠
        (Engine.files {}
            "namespace A///x\n.B.C { public class X { public void M() { } } }").toOption.map
          (List.map fun f => Text.encode f.code) := by
    decide +kernel
  rw [hf, hg] at hcodes
  refine ⟨f, g, fun hsame => hcodes (by simp [Except.toOption, hsame]), hname, hname',
    fun strict => ⟨?_, ?_, ?_⟩⟩
  · simp [Job.filesOf, slashedJob, hcode, hf, Except.toOption]
  · simp [Job.filesOf, slashedJob, hcode', hg, Except.toOption]
  · intro path hpath
    fin_cases hpath
    · exact ⟨_, _, hcode, hf⟩
    · exact ⟨_, _, hcode', hg⟩

/-- Of two files that are written at that place the last one is left. -/
lemma writeAll_slashed (strict : Bool) {f g : FixtureFile}
    (hf : f.qualifiedName ∈ ["A//x.B.C.Tests.XTests", "A///x.B.C.Tests.XTests"])
    (hg : g.qualifiedName ∈ ["A//x.B.C.Tests.XTests", "A///x.B.C.Tests.XTests"]) :
    ∃ s', (slashedJob strict).writeAll slashedStore [f, g] = .ok s' ∧
      Store.SameFolders slashedStore s' ∧
      s'.find? slashedPlace = some (.file (Text.encode g.code)) := by
  have hwritable := writable_slashedStore strict hf
  have hwrite := hwritable.write_eq (Text.encode f.code)
  have hsame := Store.sameFolders_write hwrite
  have hwritable' := (writable_slashedStore strict hg).sameFolders hsame
  have hwrite' := hwritable'.write_eq (Text.encode g.code)
  exact ⟨_, (Job.writeAll_cons hwrite).trans (Job.writeAll_cons hwrite'),
    hsame.trans (Store.sameFolders_write hwrite'), Store.find?_write_self hwrite' hwritable'.leads⟩

/-- The file that is written last is left, whether the batch is strict or not. -/
lemma run_slashedJob (strict : Bool) {paths : List String} {f g : FixtureFile}
    (hpaths : paths ⊆ ["P.cs", "Q.cs"])
    (hfiles : (slashedJob strict).filesOf slashedStore paths = [f, g])
    (hf : f.qualifiedName ∈ ["A//x.B.C.Tests.XTests", "A///x.B.C.Tests.XTests"])
    (hg : g.qualifiedName ∈ ["A//x.B.C.Tests.XTests", "A///x.B.C.Tests.XTests"])
    (hne : f.qualifiedName ≠ g.qualifiedName) :
    ∃ s' r, (slashedJob strict).run slashedStore paths = (s', .ok r) ∧ r.failures = [] ∧
      r.read = paths ∧ r.written.length = 2 ∧ Store.SameFolders slashedStore s' ∧
      s'.find? slashedPlace = some (.file (Text.encode g.code)) := by
  obtain ⟨s', hwritten, hfolders, hfind⟩ := writeAll_slashed strict hf hg
  obtain ⟨_, _, -, -, -, hgood⟩ := exists_slashed
  have hrun := Job.run_eq_of_writeAll (makeFolders_slashedStore strict)
    (fun path hpath => (hgood strict).2.2 path (hpaths hpath)) (by simp [hfiles, hne])
    (hfiles.symm ▸ hwritten)
  exact ⟨s', _, hrun, rfl, rfl, by simp [hfiles], hfolders, hfind⟩

/-- The order of the paths shows if files of different names are written at one place, which needs
a slash in their names: the file that is left is the one that was written last. -/
theorem order_of_paths_shows :
    (((slashedJob false).filesOf slashedStore ["P.cs", "Q.cs"]).map
      FixtureFile.qualifiedName).Nodup ∧
    (∀ path ∈ ["P.cs", "Q.cs"], slashedStore.placeNamed path ≠ .ok slashedPlace) ∧
    ∃ o o', (slashedJob false).Completes slashedStore ["P.cs", "Q.cs"] o ∧
      (slashedJob false).Completes slashedStore ["Q.cs", "P.cs"] o' ∧
      o.1.find? slashedPlace ≠ o'.1.find? slashedPlace := by
  obtain ⟨f, g, hcodes, hf, hg, hmade⟩ := exists_slashed
  obtain ⟨hP, hQ, -⟩ := hmade false
  have hne : f.qualifiedName ≠ g.qualifiedName := by
    rw [hf, hg]
    decide
  have hPQ := filesOf_pair hP hQ
  have hQP := filesOf_pair hQ hP
  obtain ⟨s₁, r₁, hrun, -, -, -, -, hfind⟩ := run_slashedJob false (by simp) hPQ (by simp [hf])
    (by simp [hg]) hne
  obtain ⟨s₂, r₂, hrun', -, -, -, -, hfind'⟩ := run_slashedJob false (by simp) hQP (by simp [hg])
    (by simp [hf]) hne.symm
  refine ⟨by simp [hPQ, hne], ?_, (s₁, r₁), (s₂, r₂), .inTurn hrun, .inTurn hrun', ?_⟩
  · decide +kernel
  · rw [hfind, hfind']
    simpa using hcodes.symm

end FixtureDraft.Batch
