import FixtureDraft.Batch.Line
import Mathlib

/-!
# The workers of one stage

What a pool of workers does to the items of its stage. `Pool.view` forgets which worker has what;
`Effect` says what one step does to a view, and every fact about the items follows from it.
-/

namespace FixtureDraft.Batch

variable {α ρ β : Type}

/-! ## Views -/

/-- The items of a stage: those in the queue, those that are handled, the outputs that are not
yet handed on, and the entries of the logs. -/
structure View (α ρ β : Type) where
  queue : Multiset α
  busy : Multiset α
  owed : Multiset β
  logged : Multiset (α × Except Cause ρ)

/-- What an entry of a log hands on. -/
def Handler.made (h : Handler α ρ β) (e : α × Except Cause ρ) : Multiset β :=
  match e.2 with
  | .ok r => (h.outputs e.1 r : Multiset β)
  | .error _ => 0

namespace View

/-- All items that came to the stage. -/
def accepted (v : View α ρ β) : Multiset α := v.queue + v.busy + v.logged.map (·.1)

end View

/-- What one step of a worker does to a view: a mark is taken, an item is taken or refused, or
the handling of an item ends. -/
inductive Effect (h : Handler α ρ β) : Disk → View α ρ β → Disk → View α ρ β → Prop
  | silent {d v} : Effect h d v d v
  | take {d d' a q b o l} (haccept : h.accept d a = .ok d') :
    Effect h d ⟨a ::ₘ q, b, o, l⟩ d' ⟨q, a ::ₘ b, o, l⟩
  | refuse {d a cause q b o l} (haccept : h.accept d a = .error cause) :
    Effect h d ⟨a ::ₘ q, b, o, l⟩ d ⟨q, b, o, (a, .error cause) ::ₘ l⟩
  | finish {d d' a r q b o l} (hhandle : h.handle d a = .ok (d', r)) :
    Effect h d ⟨q, a ::ₘ b, o, l⟩ d' ⟨q, b, h.outputs a r + o, (a, .ok r) ::ₘ l⟩
  | fail {d a cause q b o l} (hhandle : h.handle d a = .error cause) :
    Effect h d ⟨q, a ::ₘ b, o, l⟩ d ⟨q, b, o, (a, .error cause) ::ₘ l⟩

/-- What the entries of a log make is what the log hands on. -/
lemma Log.bind_made (h : Handler α ρ β) (log : Log α ρ) :
    (log : Multiset (α × Except Cause ρ)).bind h.made = log.outputs h := by
  induction log with
  | nil => rfl
  | cons e log ih =>
    obtain ⟨a, result⟩ := e
    rw [← Multiset.cons_coe, Multiset.cons_bind, ih]
    cases result with
    | ok r => simp [Handler.made, Log.outputs, Log.results, Except.toOption]
    | error cause => simp [Handler.made, Log.outputs, Log.results, Except.toOption]

namespace Effect

variable {h : Handler α ρ β} {d d' : Disk} {v v' : View α ρ β}

/-- No item is lost and none is added. -/
lemma accepted_eq (heffect : Effect h d v d' v') : v'.accepted = v.accepted := by
  cases heffect
  case silent => rfl
  all_goals
    simp only [View.accepted, ← Multiset.singleton_add, Multiset.map_add, Multiset.map_singleton]
    abel

/-- What an entry hands on is owed as the entry is made. -/
lemma owed_add_made (heffect : Effect h d v d' v') :
    v'.owed + v.logged.bind h.made = v.owed + v'.logged.bind h.made := by
  cases heffect
  case finish =>
    simp only [Multiset.cons_bind, Handler.made]
    abel
  all_goals simp [Handler.made]

/-- A stage that changes nothing leaves everything to the others as it was. -/
lemma disk_eq (heffect : Effect h d v d' v')
    (haccept : ∀ a d'', h.accept d a = .ok d'' → d'' = d)
    (hhandle : ∀ a d'' r, h.handle d a = .ok (d'', r) → d'' = d) : d' = d := by
  cases heffect with
  | take h => exact haccept _ _ h
  | finish h => exact hhandle _ _ _ h
  | _ => rfl

/-- Where everything that was handed on and is owed is what the entries made, it stays so. -/
lemma handed_add_owed (heffect : Effect h d v d' v') {handed : Multiset β}
    (hmade : handed + v.owed = v.logged.bind h.made) :
    handed + v'.owed = v'.logged.bind h.made := by
  have hbalance := heffect.owed_add_made
  rw [← hmade] at hbalance
  -- multisets cancel: what was owed before stands on both sides
  refine add_left_cancel (a := v.owed) ?_
  rw [← hbalance]
  abel

/-- A new entry says how the item was refused, or how its handling ended. -/
lemma mem_logged (heffect : Effect h d v d' v') {e : α × Except Cause ρ} (he : e ∈ v'.logged) :
    e ∈ v.logged ∨ (∃ cause, e.2 = .error cause ∧
      (h.accept d e.1 = .error cause ∨ h.handle d e.1 = .error cause)) ∨
      ∃ r, e.2 = .ok r ∧ h.handle d e.1 = .ok (d', r) := by
  cases heffect with
  | silent => exact Or.inl he
  | take _ => exact Or.inl he
  | refuse haccept =>
    rcases Multiset.mem_cons.mp he with rfl | he
    · exact Or.inr (Or.inl ⟨_, rfl, Or.inl haccept⟩)
    · exact Or.inl he
  | finish hhandle =>
    rcases Multiset.mem_cons.mp he with rfl | he
    · exact Or.inr (Or.inr ⟨_, rfl, hhandle⟩)
    · exact Or.inl he
  | fail hhandle =>
    rcases Multiset.mem_cons.mp he with rfl | he
    · exact Or.inr (Or.inl ⟨_, rfl, Or.inr hhandle⟩)
    · exact Or.inl he

end Effect

/-! ## What workers hold -/

namespace Worker

/-- The item that the worker handles. -/
def busy (w : Worker α ρ β) : List α :=
  match w.activity with
  | .handling a => [a]
  | _ => []

/-- The outputs that the worker has not yet handed on. -/
def owed (w : Worker α ρ β) : List β :=
  match w.activity with
  | .passing bs => bs
  | _ => []

end Worker

namespace Pool

/-- The items of a pool. -/
def view (p : Pool α ρ β) : View α ρ β where
  queue := p.inbox.reduceOption
  busy := p.workers.flatMap Worker.busy
  owed := p.workers.flatMap Worker.owed
  logged := p.log

section Views

variable {h : Handler α ρ β} {d d' : Disk} {p p' : Pool α ρ β} {x : Option β}

/-- The view of a pool, with one worker apart. -/
lemma view_mk (inbox : List (Option α)) (before after : List (Worker α ρ β))
    (w : Worker α ρ β) (marks : ℕ) :
    view ⟨inbox, before ++ w :: after, marks⟩ =
      ⟨inbox.reduceOption, w.busy + ((before ++ after).flatMap Worker.busy : List α),
        w.owed + ((before ++ after).flatMap Worker.owed : List β),
        w.log + ((before ++ after).flatMap Worker.log : List (α × Except Cause ρ))⟩ := by
  simp only [view, log, List.flatMap_append, List.flatMap_cons, ← Multiset.coe_add,
    View.mk.injEq, true_and]
  refine ⟨?_, ?_, ?_⟩
  all_goals abel

/-- An entry at the end of a log is one more entry. -/
private lemma coe_concat_add {γ : Type} (l : List γ) (e : γ) (m : Multiset γ) :
    (↑(l ++ [e]) : Multiset γ) + m = e ::ₘ (↑l + m) := by
  rw [← Multiset.coe_add, Multiset.coe_singleton, add_comm (l : Multiset γ) {e}, add_assoc,
    Multiset.singleton_add]

/-- A step of a worker has an effect on the view. -/
lemma Step.effect (hstep : p.Step h d d' p') : Effect h d p.view d' p'.view := by
  -- by the steps: each changes the queue and one worker, and the others stay as they are
  cases hstep with
  | close =>
    rw [view_mk, view_mk]
    exact .silent
  | take haccept =>
    rw [view_mk, view_mk, List.reduceOption_cons_of_some, ← Multiset.cons_coe]
    simp only [Worker.busy, Worker.owed, Multiset.coe_singleton, Multiset.singleton_add,
      Multiset.coe_nil, zero_add]
    exact .take haccept
  | refuse haccept =>
    rw [view_mk, view_mk, List.reduceOption_cons_of_some, ← Multiset.cons_coe, coe_concat_add]
    simp only [Worker.busy, Worker.owed, Multiset.coe_nil, zero_add]
    exact .refuse haccept
  | finish hhandle =>
    rw [view_mk, view_mk, coe_concat_add]
    simp only [Worker.busy, Worker.owed, Multiset.coe_singleton, Multiset.singleton_add,
      Multiset.coe_nil, zero_add]
    exact .finish hhandle
  | fail hhandle =>
    rw [view_mk, view_mk, coe_concat_add]
    simp only [Worker.busy, Worker.owed, Multiset.coe_singleton, Multiset.singleton_add,
      Multiset.coe_nil, zero_add]
    exact .fail hhandle

/-- What is handed on is no longer owed; nothing else changes. -/
lemma Emits.view_eq (hemits : p.Emits x p') :
    p.view = { p'.view with owed := (x.toList : Multiset β) + p'.view.owed } := by
  cases hemits with
  | output =>
    rw [view_mk, view_mk]
    simp only [Worker.busy, Worker.owed, Option.toList_some, ← Multiset.cons_coe,
      Multiset.coe_nil, Multiset.cons_add, zero_add]
  | mark => simp [view, log]

/-- An item that is put into the queue is one more item there. -/
lemma view_put (p : Pool α ρ β) (x : Option α) :
    (p.put x).view = { p.view with queue := (x.toList : Multiset α) + p.view.queue } := by
  cases x with
  | none => simp [put, view, log, List.reduceOption]
  | some a =>
    have hqueue : (p.inbox ++ [some a]).reduceOption = p.inbox.reduceOption ++ [a] := by
      simp [List.reduceOption_append, List.reduceOption_cons_of_some]
    simp only [put, view, log, hqueue, Option.toList_some, ← Multiset.coe_add, View.mk.injEq,
      and_true]
    abel

end Views

end Pool

end FixtureDraft.Batch
