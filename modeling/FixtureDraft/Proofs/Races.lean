import FixtureDraft.Proofs.FlawlessBatches

/-!
# Writers that race

A batch without a flaw writes its files in whatever order their writers get done
(`Job.Flawless.exists_finishes_in_order`). Mostly this does not show; but names with slashes can
share one place, and what is left there depends on who gets done last. So a strict batch and a
tolerant one may leave different files though nothing fails in either
(`strict_batch_leaves_other_file`).
-/

namespace FixtureDraft.Batch

open FixtureDraft.Files

variable {α ρ β : Type}

/-! ## Stages with one worker that is not idle -/

/-- One more entry that tells of no failure. -/
lemma Log.good_concat {log others : Log α ρ} {a : α} {r : ρ}
    (hgood : ∀ e ∈ log ++ others, e.2.isOk = true) :
    ∀ e ∈ (log ++ [(a, .ok r)]) ++ others, e.2.isOk = true := by
  intro e he
  simp only [List.mem_append, List.mem_singleton] at hgood he
  rcases he with (he | rfl) | he
  · exact hgood e (Or.inl he)
  · rfl
  · exact hgood e (Or.inr he)

/-- The first worker of a stage still has to hand on `bs`, the others wait for items as none is in
the queue, and nothing has failed. -/
structure Pool.Passes (p : Pool α ρ β) (bs : List β) : Prop where
  inbox : p.inbox = []
  workers : ∃ log others, p.workers = ⟨.passing bs, log⟩ :: others ∧
    ∀ w ∈ others, w.activity = .passing []
  good : ∀ e ∈ p.log, e.2.isOk = true

namespace Pool

variable {h : Handler α ρ β} {p : Pool α ρ β} {b : β} {bs : List β}

lemma passes_start {n : ℕ} (hn : 0 < n) (marks : ℕ) :
    (start n marks : Pool α ρ β).Passes [] := by
  obtain ⟨n, rfl⟩ := Nat.exists_eq_add_one.mpr hn
  refine ⟨rfl, ⟨[], List.replicate n {}, rfl, fun w hw => ?_⟩, fun e he => ?_⟩
  · rw [List.eq_of_mem_replicate hw]
  · simp [start, log] at he

lemma Passes.hasRoom (hpasses : p.Passes bs) : p.HasRoom := by
  obtain ⟨log, others, hworkers, -⟩ := hpasses.workers
  unfold HasRoom
  rw [hpasses.inbox, hworkers, List.length_nil, List.length_cons]
  omega

/-- The first worker handles the next item, if it can be handled. -/
lemma Passes.exists_handled (hpasses : p.Passes []) {d : Disk} {a : α} {r : ρ}
    (haccept : h.accept d a = .ok d) (hhandle : h.handle d a = .ok (d, r)) :
    ∃ busy p', (p.put (some a)).Step h d d busy ∧ busy.Step h d d p' ∧
      p'.Passes (h.outputs a r) := by
  obtain ⟨inbox, workers, marks⟩ := p
  obtain ⟨rfl, ⟨log, others, rfl, hothers⟩, hgood⟩ := hpasses
  refine ⟨⟨[], ⟨.handling a, log⟩ :: others, marks⟩,
    ⟨[], ⟨.passing (h.outputs a r), log ++ [(a, .ok r)]⟩ :: others, marks⟩, ?_, ?_, rfl,
    ⟨_, others, rfl, hothers⟩, ?_⟩
  · show Step h d ⟨some a :: [], [] ++ ⟨.passing [], log⟩ :: others, marks⟩
      d ⟨[], [] ++ ⟨.handling a, log⟩ :: others, marks⟩
    exact .take haccept
  · show Step h d ⟨[], [] ++ ⟨.handling a, log⟩ :: others, marks⟩
      d ⟨[], [] ++ ⟨.passing (h.outputs a r), log ++ [(a, .ok r)]⟩ :: others, marks⟩
    exact .finish hhandle
  · exact Log.good_concat hgood

lemma Passes.exists_emits (hpasses : p.Passes (b :: bs)) :
    ∃ p', p.Emits (some b) p' ∧ p'.Passes bs := by
  obtain ⟨inbox, workers, marks⟩ := p
  obtain ⟨rfl, ⟨log, others, rfl, hothers⟩, hgood⟩ := hpasses
  refine ⟨⟨[], ⟨.passing bs, log⟩ :: others, marks⟩, ?_, rfl, ⟨log, others, rfl, hothers⟩, hgood⟩
  show Emits ⟨[], [] ++ ⟨.passing (b :: bs), log⟩ :: others, marks⟩ (some b)
    ⟨[], [] ++ ⟨.passing bs, log⟩ :: others, marks⟩
  exact .output

end Pool

/-! ## Files in the hands of writers -/

/-- Writers of whom the first hold one file each and the others nothing. Altogether there are `n`,
and none of them has done anything yet. -/
def Pool.holding (n : ℕ) (held : List FixtureFile) (marks : ℕ) : Pool FixtureFile String Empty where
  workers := held.map (fun f => ⟨.handling f, []⟩)
    ++ List.replicate (n - held.length) ⟨.passing [], []⟩
  marks := marks

namespace Pool

variable {n marks : ℕ} {held : List FixtureFile} {f : FixtureFile}

lemma hasRoom_holding (hroom : held.length < n) : (holding n held marks).HasRoom := by
  unfold HasRoom holding
  rw [List.length_append, List.length_map, List.length_replicate, List.length_nil]
  omega

lemma log_holding : (holding n held marks).log = [] := by
  refine List.flatMap_eq_nil_iff.mpr fun w hw => ?_
  rcases List.mem_append.mp hw with hw | hw
  · obtain ⟨f, -, rfl⟩ := List.mem_map.mp hw
    rfl
  · rw [List.eq_of_mem_replicate hw]

/-- A writer that holds nothing takes the next file. -/
lemma step_holding {h : Handler FixtureFile String Empty} {d d' : Disk}
    (hroom : held.length < n) (haccept : h.accept d f = .ok d') :
    ((holding n held marks).put (some f)).Step h d d' (holding n (held ++ [f]) marks) := by
  -- the first one that holds nothing is put apart from the others
  obtain ⟨k, hk⟩ := Nat.exists_eq_add_of_lt hroom
  have hbefore : n - held.length = k + 1 := by omega
  have hafter : n - (held ++ [f]).length = k := by
    rw [List.length_append, List.length_singleton]
    omega
  unfold holding put
  rw [hbefore, hafter, List.replicate_succ, List.map_append, List.append_assoc]
  exact .take haccept

end Pool

namespace Line

variable {j : Job} {w : Workers} {s s' : Store} {n : ℕ} {l l' : Line} {path code : String}
  {paths : List String} {f : FixtureFile} {files made held order : List FixtureFile}

/-- The sources named by `paths` are still to be fed, the files `made` still to be handed to the
writers, who are `n`, and the files `held` are in their hands. -/
structure Holds (l : Line) (s : Store) (n : ℕ) (paths : List String)
    (made held : List FixtureFile) : Prop where
  store : l.disk.store = s
  claimed : l.disk.claimed ⊆ held.map FixtureFile.qualifiedName
  feed : ∃ marks, l.feed = paths.map some ++ List.replicate marks none
  reading : l.reading.Passes []
  generating : l.generating.Passes made
  writing : ∃ marks, l.writing = .holding n held marks

lemma holds_start (hworkers : w.check = .ok ()) (s : Store) (paths : List String) :
    (start w s paths).Holds s (Workers.count w.write) paths [] [] := by
  obtain ⟨hread, hgenerate, -⟩ := Workers.count_pos hworkers
  exact ⟨rfl, List.Subset.refl _, ⟨_, rfl⟩, Pool.passes_start hread _,
    Pool.passes_start hgenerate _, ⟨_, rfl⟩⟩

/-- A good source is fed, read and parsed while the writers do nothing. -/
lemma Holds.exists_source (hholds : l.Holds s n (path :: paths) [] held)
    (hread : s.readText path = .ok code) (hfiles : j.engine.files code = .ok files) :
    ∃ l', Relation.ReflTransGen (Step j) l l' ∧ l'.Holds s n paths files held := by
  obtain ⟨disk, feed, reading, generating, writing⟩ := l
  obtain ⟨hstore, hclaimed, ⟨marks, hfeed⟩, hreading, hgenerating, hwriting⟩ := hholds
  simp only at hstore hclaimed hfeed hreading hgenerating hwriting
  have hread' : reader.handle disk path = .ok (disk, code) := by
    simp only [reader, hstore, hread]
    rfl
  obtain ⟨busy, passing, htake, hfinish, hpassing⟩ := hreading.exists_handled
    (a := path) (h := reader) rfl hread'
  obtain ⟨rested, hemits, hrested⟩ := Pool.Passes.exists_emits hpassing
  have hgenerate : j.generator.handle disk (path, code) = .ok (disk, files) := by
    simp only [Job.generator, hfiles]
    rfl
  obtain ⟨busy', made, htake', hfinish', hmade⟩ := hgenerating.exists_handled
    (a := (path, code)) (h := j.generator) rfl hgenerate
  refine ⟨⟨disk, paths.map some ++ List.replicate marks none, rested, made, writing⟩, ?_,
    hstore, hclaimed, ⟨marks, rfl⟩, hrested, hmade, hwriting⟩
  -- the steps one after another: the feed, the reader, and the one that generates
  have hfed : Step j ⟨disk, feed, reading, generating, writing⟩
      ⟨disk, paths.map some ++ List.replicate marks none, reading.put (some path), generating,
        writing⟩ := .feed hfeed hreading.hasRoom
  have hsource := ((Relation.ReflTransGen.single hfed).tail (.read htake)).tail (.read hfinish)
  have hpassed := hsource.tail (.passSource hemits hgenerating.hasRoom)
  exact (hpassed.tail (.generate htake')).tail (.generate hfinish')

/-- A file of a new name comes into the hands of a writer, if one is left that holds none. -/
lemma Holds.exists_file (hholds : l.Holds s n paths (f :: made) held)
    (hfresh : f.qualifiedName ∉ held.map FixtureFile.qualifiedName) (hroom : held.length < n)
    (j : Job) :
    ∃ l', Relation.ReflTransGen (Step j) l l' ∧ l'.Holds s n paths made (held ++ [f]) := by
  obtain ⟨⟨store, claimed⟩, feed, reading, generating, writing⟩ := l
  obtain ⟨hstore, hclaimed, hfeed, hreading, hgenerating, ⟨marks, hwriting⟩⟩ := hholds
  simp only at hstore hclaimed hfeed hreading hgenerating hwriting
  subst hwriting
  obtain ⟨rested, hemits, hrested⟩ := hgenerating.exists_emits
  have haccept : j.writer.accept ⟨store, claimed⟩ f = .ok ⟨store, f.qualifiedName :: claimed⟩ := by
    have hnew : f.qualifiedName ∉ claimed := fun hmem => hfresh (hclaimed hmem)
    simp [Job.writer, hnew]
  have hpassed : Step j ⟨⟨store, claimed⟩, feed, reading, generating, .holding n held marks⟩
      ⟨⟨store, claimed⟩, feed, reading, rested, (Pool.holding n held marks).put (some f)⟩ :=
    .passFile hemits (Pool.hasRoom_holding hroom)
  refine ⟨_, (Relation.ReflTransGen.single hpassed).tail
    (.write (Pool.step_holding hroom haccept)), hstore, ?_, hfeed, hreading, hrested, ⟨marks, rfl⟩⟩
  intro name hname
  rw [List.map_append, List.mem_append]
  rcases List.mem_cons.mp hname with rfl | hname
  · exact Or.inr (List.mem_singleton_self _)
  · exact Or.inl (hclaimed hname)

/-- All files that were made come into the hands of writers. -/
lemma Holds.exists_files (hholds : l.Holds s n paths made held)
    (hnames : ((held ++ made).map FixtureFile.qualifiedName).Nodup)
    (hroom : (held ++ made).length ≤ n) (j : Job) :
    ∃ l', Relation.ReflTransGen (Step j) l l' ∧ l'.Holds s n paths [] (held ++ made) := by
  induction made generalizing l held with
  | nil =>
    rw [List.append_nil]
    exact ⟨l, .refl, hholds⟩
  | cons f made ih =>
    have hfresh : f.qualifiedName ∉ held.map FixtureFile.qualifiedName := by
      intro hmem
      rw [List.map_append, List.map_cons, List.nodup_append] at hnames
      exact hnames.2.2 _ hmem _ List.mem_cons_self rfl
    rw [List.length_append, List.length_cons] at hroom
    obtain ⟨l₁, hreach, hholds₁⟩ := hholds.exists_file hfresh (by omega) j
    rw [List.append_cons] at hnames ⊢
    obtain ⟨l₂, hreach', hholds₂⟩ := ih hholds₁ hnames
      (by rw [List.length_append, List.length_append, List.length_singleton]; omega)
    exact ⟨l₂, hreach.trans hreach', hholds₂⟩

/-- All files of good sources come into the hands of writers, before any of these gets done. -/
lemma Holds.exists_all (hholds : l.Holds s n paths [] held)
    (hsources : ∀ path ∈ paths, ∃ code files,
      s.readText path = .ok code ∧ j.engine.files code = .ok files)
    (hnames : ((held ++ j.filesOf s paths).map FixtureFile.qualifiedName).Nodup)
    (hroom : (held ++ j.filesOf s paths).length ≤ n) :
    ∃ l', Relation.ReflTransGen (Step j) l l' ∧
      l'.Holds s n [] [] (held ++ j.filesOf s paths) := by
  induction paths generalizing l held with
  | nil =>
    have hnone : j.filesOf s [] = [] := rfl
    rw [hnone, List.append_nil]
    exact ⟨l, .refl, hholds⟩
  | cons path paths ih =>
    rw [List.forall_mem_cons] at hsources
    obtain ⟨⟨code, files, hread, hfiles⟩, hsources⟩ := hsources
    have hmade : j.filesOf s (path :: paths) = files ++ j.filesOf s paths := by
      rw [← List.singleton_append, filesOf_append]
      simp [Job.filesOf, hread, hfiles, Except.toOption]
    rw [hmade, ← List.append_assoc] at hnames hroom ⊢
    have hfirst : ((held ++ files).map FixtureFile.qualifiedName).Nodup := by
      rw [List.map_append] at hnames
      exact hnames.of_append_left
    have hfits : (held ++ files).length ≤ n := by
      rw [List.length_append] at hroom
      omega
    obtain ⟨l₁, hreach₁, hholds₁⟩ := hholds.exists_source hread hfiles
    obtain ⟨l₂, hreach₂, hholds₂⟩ := hholds₁.exists_files hfirst hfits j
    obtain ⟨l₃, hreach₃, hholds₃⟩ := ih hholds₂ hsources hnames hroom
    exact ⟨l₃, (hreach₁.trans hreach₂).trans hreach₃, hholds₃⟩

end Line

/-! ## Lines with nothing left but what is written -/

/-- Of all items only those in `busy` are left, and these are being handled; nothing has failed. -/
structure View.Handles (v : View α ρ β) (busy : Multiset α) : Prop where
  queue : v.queue = 0
  busy : v.busy = busy
  owed : v.owed = 0
  good : ∀ e ∈ v.logged, e.2.isOk = true

/-- Where no item is left nothing comes of a step. -/
lemma View.Handles.effect_eq {h : Handler α ρ β} {d d' : Disk} {v v' : View α ρ β}
    (hidle : v.Handles 0) (heffect : Effect h d v d' v') : d' = d ∧ v' = v := by
  obtain ⟨hqueue, hbusy, -, -⟩ := hidle
  cases heffect with
  | silent => exact ⟨rfl, rfl⟩
  | take _ | refuse _ => exact absurd hqueue (Multiset.cons_ne_zero)
  | finish _ | fail _ => exact absurd hbusy (Multiset.cons_ne_zero)

/-- Where no item is left none is handed on. -/
lemma View.Handles.emits_eq {p p' : Pool α ρ β} {x : Option β} (hidle : p.view.Handles 0)
    (hemits : p.Emits x p') : x = none ∧ p'.view = p.view := by
  have hview := hemits.view_eq
  cases x with
  | none =>
    rw [hview]
    exact ⟨rfl, by simp⟩
  | some b =>
    have howed := hidle.owed
    rw [hview] at howed
    simp at howed

/-- An item that is handled is in the hands of a worker. -/
lemma Pool.exists_handling_of_mem {p : Pool α ρ β} {a : α} (hmem : a ∈ p.view.busy) :
    ∃ before log after, p.workers = before ++ ⟨.handling a, log⟩ :: after := by
  have hmem : a ∈ p.workers.flatMap Worker.busy := hmem
  obtain ⟨⟨activity, log⟩, hworker, ha⟩ := List.mem_flatMap.mp hmem
  obtain rfl : activity = .handling a := by
    cases activity with
    | handling b => rw [List.mem_singleton.mp ha]
    | passing _ => cases ha
    | done => cases ha
  obtain ⟨before, after, hworkers⟩ := List.append_of_mem hworker
  exact ⟨before, log, after, hworkers⟩

lemma Pool.Passes.handles {p : Pool α ρ β} (hpasses : p.Passes []) : p.view.Handles 0 := by
  obtain ⟨log, others, hworkers, hothers⟩ := hpasses.workers
  have hbusy : others.flatMap Worker.busy = [] := by
    refine List.flatMap_eq_nil_iff.mpr fun w hw => ?_
    rw [Worker.busy, hothers w hw]
  have howed : others.flatMap Worker.owed = [] := by
    refine List.flatMap_eq_nil_iff.mpr fun w hw => ?_
    rw [Worker.owed, hothers w hw]
  refine ⟨?_, ?_, ?_, fun e he => hpasses.good e he⟩
  · simp [Pool.view, hpasses.inbox, List.reduceOption]
  · simp only [Pool.view, hworkers, List.flatMap_cons, hbusy, Worker.busy]
    rfl
  · simp only [Pool.view, hworkers, List.flatMap_cons, howed, Worker.owed]
    rfl

lemma Pool.handles_holding (n marks : ℕ) (held : List FixtureFile) :
    (holding n held marks).view.Handles held := by
  refine ⟨rfl, ?_, Multiset.eq_zero_of_forall_notMem fun b => b.elim, fun e he => ?_⟩
  · have hnone : (List.replicate (n - held.length)
        (⟨.passing [], []⟩ : Worker FixtureFile String Empty)).flatMap Worker.busy = [] := by
      refine List.flatMap_eq_nil_iff.mpr fun w hw => ?_
      rw [List.eq_of_mem_replicate hw]
      rfl
    simp only [view, holding, List.flatMap_append, hnone, List.append_nil, List.flatMap_map,
      Worker.busy, List.flatMap_singleton']
  · simp only [view, log_holding] at he
    cases he

namespace Line

variable {j : Job} {w : Workers} {s s' : Store} {n : ℕ} {l l' : Line} {paths : List String}
  {f : FixtureFile} {held order : List FixtureFile} {busy : Multiset FixtureFile}

/-- Nothing is left to do but to write the files in `busy`, which are in the hands of writers. -/
structure Writes (l : Line) (busy : Multiset FixtureFile) : Prop where
  feed : l.feed.reduceOption = []
  reading : l.reading.view.Handles 0
  generating : l.generating.view.Handles 0
  writing : l.writing.view.Handles busy

lemma Holds.writes (hholds : l.Holds s n [] [] held) : l.Writes held := by
  obtain ⟨-, -, ⟨marks, hfeed⟩, hreading, hgenerating, ⟨marks', hwriting⟩⟩ := hholds
  refine ⟨?_, hreading.handles, hgenerating.handles, ?_⟩
  · rw [hfeed]
    simp [List.reduceOption]
  · rw [hwriting]
    exact Pool.handles_holding n marks' held

/-- Any of the files may be the next one that is written. -/
lemma Writes.exists_written (hwrites : l.Writes (f ::ₘ busy))
    (hwrite : l.disk.store.write (j.target f) (Text.encode f.code) = .ok s') :
    ∃ l', Step j l l' ∧ l'.Writes busy ∧ l'.disk.store = s' := by
  obtain ⟨disk, feed, reading, generating, ⟨inbox, workers, marks⟩⟩ := l
  obtain ⟨hfeed, hreading, hgenerating, hqueue, hbusy, howed, hgood⟩ := hwrites
  simp only at hwrite
  have hmem : f ∈ (Pool.view ⟨inbox, workers, marks⟩).busy := by
    rw [hbusy]
    exact Multiset.mem_cons_self f busy
  -- the writer that has the file in its hands ends with it
  obtain ⟨before, log, after, rfl⟩ := Pool.exists_handling_of_mem hmem
  have hhandle : j.writer.handle disk f = .ok ({ disk with store := s' }, (j.target f).text) := by
    simp only [Job.writer, hwrite]
    rfl
  refine ⟨_, .write (.finish hhandle), ⟨hfeed, hreading, hgenerating, ?_⟩, rfl⟩
  rw [Pool.view_mk] at hqueue hbusy hgood
  rw [Pool.view_mk]
  refine ⟨hqueue, ?_, ?_, ?_⟩
  · have hcancel : f ::ₘ ((before ++ after).flatMap Worker.busy : Multiset FixtureFile)
        = f ::ₘ busy := hbusy
    exact (Multiset.cons_inj_right f).mp hcancel
  · exact Multiset.eq_zero_of_forall_notMem fun b => b.elim
  · exact Log.good_concat hgood

/-- The files may be written in any order in which they can be written one after another. -/
lemma Writes.exists_all_written (hwrites : l.Writes order)
    (hwritten : j.writeAll l.disk.store order = .ok s') :
    ∃ l', Relation.ReflTransGen (Step j) l l' ∧ l'.Writes 0 ∧ l'.disk.store = s' := by
  induction order generalizing l with
  | nil => exact ⟨l, .refl, hwrites, Except.ok.inj hwritten⟩
  | cons f order ih =>
    cases hwrite : l.disk.store.write (j.target f) (Text.encode f.code) with
    | error fault =>
      rw [Job.writeAll, List.foldlM_cons, hwrite] at hwritten
      cases hwritten
    | ok s₁ =>
      rw [← Multiset.cons_coe] at hwrites
      obtain ⟨l₁, hstep, hwrites₁, hstore⟩ := hwrites.exists_written hwrite
      rw [Job.writeAll_cons hwrite, ← hstore] at hwritten
      obtain ⟨l₂, hreach, hwrites₂, hlast⟩ := ih hwrites₁ hwritten
      exact ⟨l₂, .head hstep hreach, hwrites₂, hlast⟩

/-- Once all files are written only marks are left, which change nothing. -/
lemma Writes.step (hwrites : l.Writes 0) (hstep : Step j l l') :
    l'.Writes 0 ∧ l'.disk = l.disk := by
  obtain ⟨hfeed, hreading, hgenerating, hwriting⟩ := hwrites
  cases hstep with
  | @feed x feed hfed _ =>
    cases x with
    | some path =>
      rw [hfed] at hfeed
      simp [List.reduceOption] at hfeed
    | none =>
      rw [hfed, List.reduceOption_cons_of_none] at hfeed
      refine ⟨⟨hfeed, ?_, hgenerating, hwriting⟩, rfl⟩
      simpa [Pool.view_put] using hreading
  | read hstep =>
    obtain ⟨rfl, hview⟩ := hreading.effect_eq hstep.effect
    exact ⟨⟨hfeed, hview ▸ hreading, hgenerating, hwriting⟩, rfl⟩
  | passSource hemits _ =>
    obtain ⟨rfl, hview⟩ := hreading.emits_eq hemits
    refine ⟨⟨hfeed, hview ▸ hreading, ?_, hwriting⟩, rfl⟩
    simpa [Pool.view_put] using hgenerating
  | generate hstep =>
    obtain ⟨rfl, hview⟩ := hgenerating.effect_eq hstep.effect
    exact ⟨⟨hfeed, hreading, hview ▸ hgenerating, hwriting⟩, rfl⟩
  | passFile hemits _ =>
    obtain ⟨rfl, hview⟩ := hgenerating.emits_eq hemits
    refine ⟨⟨hfeed, hreading, hview ▸ hgenerating, ?_⟩, rfl⟩
    simpa [Pool.view_put] using hwriting
  | write hstep =>
    obtain ⟨rfl, hview⟩ := hwriting.effect_eq hstep.effect
    exact ⟨⟨hfeed, hreading, hgenerating, hview ▸ hwriting⟩, rfl⟩

lemma Writes.of_reach (hwrites : l.Writes 0) (hreach : Relation.ReflTransGen (Step j) l l') :
    l'.Writes 0 ∧ l'.disk = l.disk := by
  induction hreach with
  | refl => exact ⟨hwrites, rfl⟩
  | tail _ hstep ih =>
    obtain ⟨hwrites', hdisk⟩ := ih.1.step hstep
    exact ⟨hwrites', hdisk.trans ih.2⟩

lemma Writes.faults_eq_nil (hwrites : l.Writes busy) (j : Job) : l.ledger.faults j = [] := by
  unfold Ledger.faults
  rw [List.append_eq_nil_iff, List.append_eq_nil_iff]
  exact ⟨⟨Log.faults_eq_nil_iff.mpr hwrites.reading.good,
    Log.faults_eq_nil_iff.mpr hwrites.generating.good⟩,
    Log.faults_eq_nil_iff.mpr hwrites.writing.good⟩

/-- With a writer for each file, a line of good sources may write its files in any order. -/
theorem exists_finished_in_order (hworkers : w.check = .ok ())
    (hsources : ∀ path ∈ paths, ∃ code files,
      s.readText path = .ok code ∧ j.engine.files code = .ok files)
    (hnames : ((j.filesOf s paths).map FixtureFile.qualifiedName).Nodup)
    (hroom : (j.filesOf s paths).length ≤ Workers.count w.write)
    (hperm : (j.filesOf s paths).Perm order) (hwritten : j.writeAll s order = .ok s') :
    ∃ l, Relation.ReflTransGen (Step j) (start w s paths) l ∧ l.Finished ∧
      l.ledger.faults j = [] ∧ l.disk.store = s' := by
  obtain ⟨l₁, hreach₁, hholds⟩ := (holds_start hworkers s paths).exists_all (j := j) hsources
    hnames hroom
  have hwrites : l₁.Writes order := by
    rw [← Multiset.coe_eq_coe.mpr hperm]
    exact hholds.writes
  obtain ⟨l₂, hreach₂, hwrites₂, hstore⟩ := hwrites.exists_all_written
    (hholds.store.symm ▸ hwritten)
  -- whatever happens next, the line is finished with what has been written
  have hsound := sound_of_reach hworkers (hreach₁.trans hreach₂)
  obtain ⟨l₃, hreach₃, hfinished⟩ := hsound.exists_finished j
  obtain ⟨hwrites₃, hdisk⟩ := hwrites₂.of_reach hreach₃
  exact ⟨l₃, (hreach₁.trans hreach₂).trans hreach₃, hfinished, hwrites₃.faults_eq_nil j,
    by rw [hdisk, hstore]⟩

end Line

/-- With a writer for each file, a batch without a flaw, be it strict or tolerant, may write its
files in any order. -/
theorem Job.Flawless.exists_finishes_in_order {j : Job} {w : Workers} {s s₀ : Store}
    {paths : List String} {order : List FixtureFile} (hflawless : j.Flawless s₀ paths)
    (hworkers : w.check = .ok ()) (hfolder : s.makeFolders j.folder = (s₀, none))
    (hroom : (j.filesOf s₀ paths).length ≤ Workers.count w.write)
    (hperm : (j.filesOf s₀ paths).Perm order) :
    ∃ s' r, j.writeAll s₀ order = .ok s' ∧ j.Finishes w s paths (s', .ok r) ∧ r.failures = [] := by
  obtain ⟨s', hwritten, -⟩ := Job.exists_writeAll fun f hf =>
    hflawless.targets f (hperm.symm.subset hf)
  obtain ⟨l, hreach, hfinished, hnone, rfl⟩ := Line.exists_finished_in_order hworkers
    hflawless.sources hflawless.names hroom hperm hwritten
  refine ⟨_, l.ledger.report j, hwritten, ?_, List.map_eq_nil_iff.mpr hnone⟩
  cases hstrict : j.strict with
  | true =>
    have hreach' := Line.reach_strict_of_faults_eq_nil hreach hnone
    exact .strictly hstrict hworkers hfolder hreach' (.report hfinished)
  | false => exact .tolerantly hstrict hworkers hfolder hreach hfinished

/-! ## Two files at one place -/

/-- Nothing is wrong with the batch whose two files are written at one place. -/
lemma flawless_slashedJob (strict : Bool) :
    (slashedJob strict).Flawless slashedStore ["P.cs", "Q.cs"] := by
  obtain ⟨f, g, -, hf, hg, hmade⟩ := exists_slashed
  obtain ⟨hP, hQ, hgood⟩ := hmade strict
  refine ⟨hgood, ?_, fun k hk => ?_⟩
  · rw [filesOf_pair hP hQ, List.map_cons, List.map_cons, List.map_nil, hf, hg]
    decide
  · rw [filesOf_pair hP hQ] at hk
    refine ⟨slashedPlace, writable_slashedStore strict ?_⟩
    rcases List.mem_pair.mp hk with rfl | rfl
    · simp [hf]
    · simp [hg]

/-- Either of the two files may be the one that is left, whether the batch is strict or not. -/
lemma exists_finishes_slashedJob (strict : Bool) {f g : FixtureFile}
    (hf : f.qualifiedName ∈ ["A//x.B.C.Tests.XTests", "A///x.B.C.Tests.XTests"])
    (hg : g.qualifiedName ∈ ["A//x.B.C.Tests.XTests", "A///x.B.C.Tests.XTests"])
    (hperm : ((slashedJob strict).filesOf slashedStore ["P.cs", "Q.cs"]).Perm [f, g]) :
    ∃ s r, (slashedJob strict).Finishes { write := .integer 2 } slashedStore ["P.cs", "Q.cs"]
        (s, .ok r) ∧ r.failures = [] ∧
      s.find? slashedPlace = some (.file (Text.encode g.code)) := by
  obtain ⟨s, r, hwritten, hfinishes, hnone⟩ := (flawless_slashedJob strict).exists_finishes_in_order
    (w := { write := .integer 2 }) rfl (makeFolders_slashedStore strict) hperm.length_eq.le hperm
  obtain ⟨s', hwritten', -, hleft⟩ := writeAll_slashed strict hf hg
  obtain rfl : s = s' := Except.ok.inj (hwritten.symm.trans hwritten')
  exact ⟨s, r, hfinishes, hnone, hleft⟩

/-- A strict batch and a tolerant one of two writers each need not agree, though the folder can be
made, no source stands where a file is written, nothing is wrong with the batch and nothing fails:
if the names have slashes, both files are written at one place, and which of them is left there may
differ. -/
theorem strict_batch_leaves_other_file :
    let w : Workers := { write := .integer 2 }
    w.check = .ok () ∧
    slashedStore.makeFolders (slashedJob true).folder = (slashedStore, none) ∧
    (slashedJob true).Flawless slashedStore ["P.cs", "Q.cs"] ∧
    (∀ f ∈ (slashedJob true).filesOf slashedStore ["P.cs", "Q.cs"],
      slashedStore.place ((slashedJob true).target f) = .ok slashedPlace) ∧
    (∀ path ∈ ["P.cs", "Q.cs"], slashedStore.placeNamed path ≠ .ok slashedPlace) ∧
    ∃ s r s' r', (slashedJob true).Finishes w slashedStore ["P.cs", "Q.cs"] (s, .ok r) ∧
      (slashedJob false).Finishes w slashedStore ["P.cs", "Q.cs"] (s', .ok r') ∧
      r.failures = [] ∧ r'.failures = [] ∧ s.find? slashedPlace ≠ s'.find? slashedPlace ∧
      ¬ Agree (s, .ok r) (s', r') := by
  intro w
  obtain ⟨f, g, hcodes, hf, hg, hmade⟩ := exists_slashed
  have hPQ : ∀ strict, (slashedJob strict).filesOf slashedStore ["P.cs", "Q.cs"] = [f, g] :=
    fun strict => filesOf_pair (hmade strict).1 (hmade strict).2.1
  -- in the strict batch the second file is written last, in the tolerant one the first
  obtain ⟨s, r, hfinishes, hnone, hleft⟩ := exists_finishes_slashedJob true (f := f) (g := g)
    (by simp [hf]) (by simp [hg]) (.of_eq (hPQ true))
  obtain ⟨s', r', hfinishes', hnone', hleft'⟩ := exists_finishes_slashedJob false (f := g) (g := f)
    (by simp [hg]) (by simp [hf]) ((List.Perm.of_eq (hPQ false)).trans (.swap g f []))
  have hdiffer : s.find? slashedPlace ≠ s'.find? slashedPlace := by
    rw [hleft, hleft']
    simpa using hcodes.symm
  refine ⟨rfl, makeFolders_slashedStore true, flawless_slashedJob true, fun k hk => ?_,
    by decide +kernel, s, r, s', r', hfinishes, hfinishes', hnone, hnone', hdiffer,
    fun hagree => ?_⟩
  · rw [hPQ true] at hk
    refine (writable_slashedStore true ?_).leads
    rcases List.mem_pair.mp hk with rfl | rfl
    · simp [hf]
    · simp [hg]
  · exact hdiffer ((hagree.report r rfl).2 slashedPlace)

end FixtureDraft.Batch
