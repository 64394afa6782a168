import FixtureDraft.Tree.Basic
import Mathlib

/-!
# Walks in document order

The walk over a tree takes its nodes off a stack. `Node.visits` lists a tree by recursion instead:
the node, then what is below each of its children in turn. Both list the same nodes in the same
order, each with its ancestors (`Node.walk_eq_visits`).
-/

namespace FixtureDraft.Tree

/-! ## Listing by recursion -/

mutual

/-- A tree in document order, where `around` are the ancestors of its root. -/
def Node.visits : (around : List Node) → Node → List Visit
  | around, .node l cs => ⟨.node l cs, around⟩ :: Node.visitsAll (.node l cs :: around) cs

/-- Trees in document order, one after another. -/
def Node.visitsAll : (around : List Node) → List Node → List Visit
  | _, [] => []
  | around, c :: cs => Node.visits around c ++ Node.visitsAll around cs

end

/-- The visit as part of a larger tree, where `around` are the ancestors of the whole. -/
def Visit.inside (v : Visit) (around : List Node) : Visit := ⟨v.node, v.ancestors ++ around⟩

namespace Node

lemma visitsAll_eq_flatMap (around : List Node) (cs : List Node) :
    visitsAll around cs = cs.flatMap (visits around) := by
  induction cs with
  | nil => rfl
  | cons c cs ih => rw [visitsAll, ih, List.flatMap_cons]

/-- The node comes before all that is below it. -/
lemma visits_node (around : List Node) (l : Label) (cs : List Node) :
    visits around (.node l cs) =
      ⟨.node l cs, around⟩ :: cs.flatMap (visits (.node l cs :: around)) := by
  rw [visits, visitsAll_eq_flatMap]

-- by induction on the tree, and on the children of a node
mutual

/-- More ancestors of a tree are more ancestors of all its nodes. -/
lemma visits_append : ∀ (n : Node) (inner around : List Node),
    visits (inner ++ around) n = (visits inner n).map (·.inside around)
  | .node l cs, inner, around => by
    have hbelow := visitsAll_append cs (.node l cs :: inner) around
    rw [List.cons_append] at hbelow
    rw [visits, visits, List.map_cons, hbelow]
    rfl

lemma visitsAll_append : ∀ (cs : List Node) (inner around : List Node),
    visitsAll (inner ++ around) cs = (visitsAll inner cs).map (·.inside around)
  | [], _, _ => rfl
  | c :: cs, inner, around => by
    rw [visitsAll, visitsAll, List.map_append, visits_append c, visitsAll_append cs]

end

/-- Trees are listed as on their own, only with more ancestors. -/
lemma visitsAll_eq_map_inside (cs around : List Node) :
    visitsAll around cs = (visitsAll [] cs).map (·.inside around) :=
  visitsAll_append cs [] around

/-- Trees are listed one after another. -/
lemma visitsAll_append_list (around xs ys : List Node) :
    visitsAll around (xs ++ ys) = visitsAll around xs ++ visitsAll around ys := by
  simp only [visitsAll_eq_flatMap, List.flatMap_append]

/-! ## Listing by a stack -/

-- by induction on the tree, and on the children of a node
mutual

private lemma countOnto_eq : ∀ (n : Node) (k : ℕ), n.countOnto k = (visits [] n).length + k
  | .node l cs, k => by
    have hbelow := congrArg List.length (visitsAll_append cs [] [.node l cs])
    rw [List.nil_append, List.length_map] at hbelow
    rw [countOnto, countAllOnto_eq cs, visits, List.length_cons, hbelow]
    omega

private lemma countAllOnto_eq : ∀ (cs : List Node) (k : ℕ),
    countAllOnto cs k = (visitsAll [] cs).length + k
  | [], k => by simp [countAllOnto, visitsAll]
  | c :: cs, k => by
    rw [countAllOnto, countAllOnto_eq cs, countOnto_eq c, visitsAll, List.length_append]
    omega

end

/-- All nodes of a tree are counted. -/
lemma count_eq_length (n : Node) : n.count = (visits [] n).length :=
  countOnto_eq n 0

end Node

/-- What is below a visit is met on the way from there. -/
lemma flatMap_below (v : Visit) :
    v.node.visits v.ancestors = v :: v.below.flatMap fun u => u.node.visits u.ancestors := by
  obtain ⟨⟨l, cs⟩, ancestors⟩ := v
  rw [Node.visits_node, Visit.below, List.flatMap_map]
  rfl

/-- With enough steps, all that is on the stack is met together with what is below it. -/
private lemma walkFrom_eq (fuel : ℕ) (stack met : List Visit)
    (hfuel : (stack.flatMap fun v => v.node.visits v.ancestors).length ≤ fuel) :
    walkFrom fuel stack met = met.reverse ++ stack.flatMap fun v => v.node.visits v.ancestors := by
  -- a step takes the node on top off the list of those still to be met
  induction fuel generalizing stack met with
  | zero =>
    have hnone : (stack.flatMap fun v => v.node.visits v.ancestors) = [] :=
      List.length_eq_zero_iff.mp (Nat.le_zero.mp hfuel)
    rw [walkFrom, hnone, List.append_nil]
  | succ fuel ih =>
    cases stack with
    | nil => simp [walkFrom]
    | cons v stack =>
      rw [List.flatMap_cons, flatMap_below, List.cons_append, ← List.flatMap_append] at hfuel ⊢
      rw [walkFrom, ih (v.below ++ stack) (v :: met) (Nat.le_of_succ_le_succ hfuel),
        List.reverse_cons, List.append_assoc]
      rfl

/-- The walk by a stack lists a tree as the recursion does. -/
theorem Node.walk_eq_visits (root : Node) : root.walk = visits [] root := by
  have hsingle : ([⟨root, []⟩] : List Visit).flatMap (fun v => v.node.visits v.ancestors)
      = visits [] root := by simp
  rw [walk, walkFrom_eq _ _ _ (by rw [hsingle, count_eq_length]), hsingle]
  rfl

namespace Node

/-- A walk meets the root of its tree, which has no ancestors. -/
lemma root_mem_walk (root : Node) : ⟨root, []⟩ ∈ root.walk := by
  cases root with
  | node l cs => rw [walk_eq_visits, visits]; exact List.mem_cons_self

lemma mem_visitsAll {cs : List Node} {v : Visit} :
    v ∈ visitsAll [] cs ↔ ∃ c ∈ cs, v ∈ c.walk := by
  simp only [visitsAll_eq_flatMap, List.mem_flatMap, walk_eq_visits]

-- by induction on the tree, and on the children of a node
mutual

private lemma mem_ancestors_visits : ∀ (n : Node) (around : List Node), ∀ v ∈ visits around n,
    ∀ a ∈ v.ancestors, a ∈ around ∨ ∃ u ∈ visits around n, u.node = a
  | .node l cs, around, v, hv, a, ha => by
    rw [visits] at hv ⊢
    rcases List.mem_cons.mp hv with rfl | hv
    · exact Or.inl ha
    · rcases mem_ancestors_visitsAll cs (.node l cs :: around) v hv a ha with ha | ⟨u, hu, rfl⟩
      · rcases List.mem_cons.mp ha with rfl | ha
        · exact Or.inr ⟨_, List.mem_cons_self, rfl⟩
        · exact Or.inl ha
      · exact Or.inr ⟨u, List.mem_cons_of_mem _ hu, rfl⟩

private lemma mem_ancestors_visitsAll : ∀ (cs : List Node) (around : List Node),
    ∀ v ∈ visitsAll around cs, ∀ a ∈ v.ancestors,
      a ∈ around ∨ ∃ u ∈ visitsAll around cs, u.node = a
  | [], _, v, hv, _, _ => by cases hv
  | c :: cs, around, v, hv, a, ha => by
    rw [visitsAll] at hv ⊢
    rcases List.mem_append.mp hv with hv | hv
    · exact (mem_ancestors_visits c around v hv a ha).imp_right fun ⟨u, hu, hua⟩ =>
        ⟨u, List.mem_append_left _ hu, hua⟩
    · exact (mem_ancestors_visitsAll cs around v hv a ha).imp_right fun ⟨u, hu, hua⟩ =>
        ⟨u, List.mem_append_right _ hu, hua⟩

end

/-- Whatever is around a node that is met on a walk is met on it too. -/
theorem exists_of_mem_ancestors {root : Node} {v : Visit} (hv : v ∈ root.walk) {a : Node}
    (ha : a ∈ v.ancestors) : ∃ u ∈ root.walk, u.node = a := by
  rw [walk_eq_visits] at hv ⊢
  rcases mem_ancestors_visits root [] v hv a ha with hnone | hmet
  · cases hnone
  · exact hmet

end Node

end FixtureDraft.Tree
