import FixtureDraft.Analysis
import FixtureDraft.Proofs.Walks

/-!
# Members of a class

The members of a class are the declarations below its body that are inside no other type. What is
listed for a class are the declarations right below its body. `members_listed_iff` says for which
classes these are the same: not for one with a member inside a conditional directive, although a
class in such a place is found.
-/

namespace FixtureDraft.Reader

open FixtureDraft.Tree

/-! ## Nodes below a body -/

/-- All nodes below the body of a class, each with its ancestors up to the body. -/
def belowBody (n : Node) : List Visit :=
  match n.child? .body with
  | some body => Node.visitsAll [body] body.children
  | none => []

/-- Whether a node below a body belongs to the class, and to no type inside it: no type declaration
is around it. -/
def isOwn (u : Visit) : Bool := !u.ancestors.any (·.kind.isTypeDeclaration)

/-- Whether a node below a body is a named node right below it. -/
def isDirect (u : Visit) : Bool := u.ancestors.length == 1 && u.node.label.named

/-- Whether a node is a method. -/
def isMethod (u : Visit) : Bool := u.node.kind == .methodDeclaration

variable (s : Source)

/-- Whether a node is a constructor, and no static one. -/
def isConstructor (u : Visit) : Bool :=
  u.node.kind == .constructorDeclaration && !(modifiersOf s u.node).contains "static"

/-- The methods of a class in document order, wherever they are below its body. -/
def ownMethods (n : Node) : List Method :=
  ((belowBody n).filter fun u => isOwn u && isMethod u).map fun u => methodOf s u.node

/-- The constructors of a class that are not static, in document order, wherever they are below its
body. -/
def ownConstructors (n : Node) : List Constructor :=
  ((belowBody n).filter fun u => isOwn u && isConstructor s u).map fun u => constructorOf s u.node

/-! ## Nodes right below a body -/

lemma length_le_of_mem_visitsAll {around cs : List Node} {u : Visit}
    (hu : u ∈ Node.visitsAll around cs) : around.length ≤ u.ancestors.length := by
  rw [Node.visitsAll_eq_map_inside] at hu
  obtain ⟨v, -, rfl⟩ := List.mem_map.mp hu
  rw [Visit.inside, List.length_append]
  omega

/-- The nodes with the fewest ancestors are those that the trees have on top. -/
lemma filter_length_visitsAll (around cs : List Node) :
    (Node.visitsAll around cs).filter (fun u => u.ancestors.length == around.length)
      = cs.map fun c => ⟨c, around⟩ := by
  induction cs with
  | nil => rfl
  | cons c cs ih =>
    obtain ⟨l, below⟩ := c
    have hdeeper : (Node.visitsAll (.node l below :: around) below).filter
        (fun u => u.ancestors.length == around.length) = [] := by
      rw [List.filter_eq_nil_iff]
      intro u hu hlength
      have hle := length_le_of_mem_visitsAll hu
      rw [List.length_cons] at hle
      rw [beq_iff_eq] at hlength
      omega
    rw [Node.visitsAll, Node.visits, List.filter_append, List.filter_cons_of_pos (by simp),
      hdeeper, ih]
    rfl

/-- What is listed for a class is told by the named nodes right below its body. -/
lemma membersOf_eq (n : Node) :
    membersOf n = ((belowBody n).filter isDirect).map (·.node) := by
  unfold membersOf belowBody
  cases n.child? .body with
  | none => rfl
  | some body =>
    have hdirect : (Node.visitsAll [body] body.children).filter isDirect
        = (body.children.map fun c => (⟨c, [body]⟩ : Visit)).filter (·.node.label.named) := by
      rw [← filter_length_visitsAll, List.filter_filter]
      exact List.filter_congr fun u _ => Bool.and_comm _ _
    show _ = ((Node.visitsAll [body] body.children).filter isDirect).map (·.node)
    rw [hdirect, List.filter_map, List.map_map]
    exact (List.map_id _).symm

/-- The methods listed for a class are those right below its body. -/
lemma methods_classOf (root : Node) (v : Visit) :
    (classOf s root v).methods = ((belowBody v.node).filter fun u => isDirect u && isMethod u).map
      fun u => methodOf s u.node := by
  have hmethods : (classOf s root v).methods
      = ((membersOf v.node).filter (·.kind == .methodDeclaration)).map (methodOf s) := rfl
  rw [hmethods, membersOf_eq, List.filter_map, List.map_map, List.filter_filter]
  exact congrArg _ (List.filter_congr fun u _ => Bool.and_comm _ _)

/-- The constructors listed for a class are those right below its body. -/
lemma constructors_classOf (root : Node) (v : Visit) :
    (classOf s root v).constructors
      = ((belowBody v.node).filter fun u => isDirect u && isConstructor s u).map
          fun u => constructorOf s u.node := by
  have hconstructors : (classOf s root v).constructors
      = (((membersOf v.node).filter (·.kind == .constructorDeclaration)).map
          (constructorOf s)).filter fun k => !k.modifiers.contains "static" := rfl
  rw [hconstructors, membersOf_eq, List.filter_map, List.filter_map, List.filter_map,
    List.map_map, List.filter_filter, List.filter_filter]
  refine congrArg _ (List.filter_congr fun u _ => ?_)
  rw [Bool.and_comm]
  exact congrArg (isDirect u && ·) (Bool.and_comm _ _)

/-! ## Both lists of members -/

/-- Either all that is right below a body belongs to the class, or nothing below it does, since the
body itself is the declaration of another type. -/
lemma isOwn_of_isDirect_or (n : Node) :
    (∀ u ∈ belowBody n, isDirect u = true → isOwn u = true)
      ∨ ∀ u ∈ belowBody n, isOwn u = true → isDirect u = true := by
  unfold belowBody
  cases n.child? .body with
  | none => exact Or.inl fun u hu => by cases hu
  | some body =>
    -- the body is the last one of the ancestors
    have hlast : ∀ u ∈ Node.visitsAll [body] body.children,
        ∃ inner, u.ancestors = inner ++ [body] := by
      intro u hu
      rw [Node.visitsAll_eq_map_inside] at hu
      obtain ⟨w, -, rfl⟩ := List.mem_map.mp hu
      exact ⟨w.ancestors, rfl⟩
    cases hbody : body.kind.isTypeDeclaration with
    | false =>
      refine Or.inl fun u hu hdirect => ?_
      obtain ⟨inner, hinner⟩ := hlast u hu
      have hlength := beq_iff_eq.mp (Bool.and_eq_true_iff.mp hdirect).1
      rw [hinner, List.length_append, List.length_singleton, Nat.add_eq_right,
        List.length_eq_zero_iff] at hlength
      simp [isOwn, hinner, hlength, hbody]
    | true =>
      -- then no node below the body belongs to the class
      refine Or.inr fun u hu hown => ?_
      obtain ⟨inner, hinner⟩ := hlast u hu
      simp [isOwn, hinner, hbody] at hown

/-- Two selections from one list, one of which is part of the other, give the same values only if
they are the same. -/
lemma map_filter_eq_iff {α β : Type} {p q : α → Bool} {xs : List α} (f : α → β)
    (h : ∀ x ∈ xs, p x = true → q x = true) :
    (xs.filter p).map f = (xs.filter q).map f ↔ ∀ x ∈ xs, p x = q x := by
  constructor
  · intro heq x hx
    have hpart : (xs.filter q).filter p = xs.filter p := by
      rw [List.filter_filter]
      refine List.filter_congr fun y hy => ?_
      cases hp : p y with
      | false => rfl
      | true => rw [h y hy hp]; rfl
    -- values as many as each other are selected, so nothing is left out of the larger selection
    have hlength : (xs.filter p).length = (xs.filter q).length := by
      simpa using congrArg List.length heq
    have hsame : xs.filter p = xs.filter q := by
      have hsub : ((xs.filter q).filter p).Sublist (xs.filter q) := List.filter_sublist
      rw [hpart] at hsub
      exact hsub.eq_of_length hlength
    rw [Bool.eq_iff_iff]
    refine ⟨h x hx, fun hq => ?_⟩
    have hmem : x ∈ xs.filter p := by
      rw [hsame]
      exact List.mem_filter.mpr ⟨hx, hq⟩
    exact (List.mem_filter.mp hmem).2
  · intro hsame
    rw [List.filter_congr hsame]

/-- Those of the nodes right below a body that pass a test give the same values as all nodes of the
class that pass it exactly if they are the same nodes. -/
lemma map_direct_eq_map_own_iff {β : Type} (n : Node) (test : Visit → Bool) (f : Visit → β) :
    ((belowBody n).filter fun u => isDirect u && test u).map f
        = ((belowBody n).filter fun u => isOwn u && test u).map f
      ↔ ∀ u ∈ belowBody n, test u = true → isOwn u = isDirect u := by
  have hand : ∀ u ∈ belowBody n, (isDirect u && test u) = (isOwn u && test u)
      ↔ (test u = true → isOwn u = isDirect u) := by
    intro u _
    cases test u with
    | false => simp
    | true => simp [eq_comm]
  obtain hown | hdirect := isOwn_of_isDirect_or n
  · rw [map_filter_eq_iff, forall₂_congr hand]
    intro u hu
    rw [Bool.and_eq_true, Bool.and_eq_true]
    exact And.imp_left (hown u hu)
  · rw [eq_comm, map_filter_eq_iff]
    · exact forall₂_congr fun u hu => eq_comm.trans (hand u hu)
    · intro u hu
      rw [Bool.and_eq_true, Bool.and_eq_true]
      exact And.imp_left (hdirect u hu)

/-- For every class that is met in a tree, what is listed are the methods, and the constructors that
are not static, right below its body. These are the methods of the class, or its constructors,
exactly if it has none anywhere else: none that a further node, such as a conditional directive,
separates from the body. -/
theorem members_listed_iff (root : Node) (v : Visit) :
    let c := classOf s root v
    c.methods = ((belowBody v.node).filter fun u => isDirect u && isMethod u).map
          (fun u => methodOf s u.node)
      ∧ c.constructors = ((belowBody v.node).filter fun u => isDirect u && isConstructor s u).map
          (fun u => constructorOf s u.node)
      ∧ (c.methods = ownMethods s v.node
          ↔ ∀ u ∈ belowBody v.node, isMethod u = true → isOwn u = isDirect u)
      ∧ (c.constructors = ownConstructors s v.node
          ↔ ∀ u ∈ belowBody v.node, isConstructor s u = true → isOwn u = isDirect u) := by
  intro c
  have hmethods : c.methods = _ := methods_classOf s root v
  have hconstructors : c.constructors = _ := constructors_classOf s root v
  refine ⟨hmethods, hconstructors, ?_, ?_⟩
  · rw [hmethods]
    exact map_direct_eq_map_own_iff v.node isMethod _
  · rw [hconstructors]
    exact map_direct_eq_map_own_iff v.node (isConstructor s) _

/-- The only members of a class `A`, a constructor and a method, are inside a conditional directive,
and none of them is listed. -/
theorem wrapped_members_not_listed :
    ¬ ∀ (code : String) (root : Node), Engine.tree {} code = .ok root →
      ∀ v ∈ root.walk, v.node.kind = .classDeclaration →
        (classOf (.ofText code) root v).methods = ownMethods (.ofText code) v.node
          ∧ (classOf (.ofText code) root v).constructors
            = ownConstructors (.ofText code) v.node := by
  set code :=
    "public class A \x7b\n#if X\npublic A(int x) \x7b \x7d\npublic void M() \x7b \x7d\n#endif\n\x7d"
  have hcounts : ((Engine.tree {} code).toOption.map fun root =>
      (root.walk.filter (·.node.kind == .classDeclaration)).map fun v =>
        ((classOf (.ofText code) root v).methods.length,
          (ownMethods (.ofText code) v.node).length)) = some [(0, 1)] := by
    decide +kernel
  intro hall
  cases htree : Engine.tree {} code with
  | error fault => simp [htree, Except.toOption] at hcounts
  | ok root =>
    rw [htree] at hcounts
    obtain ⟨v, hv, hcount⟩ := List.mem_map.mp
      ((Option.some.inj hcounts).symm ▸ List.mem_singleton_self ((0, 1) : ℕ × ℕ))
    obtain ⟨hv, hkind⟩ := List.mem_filter.mp hv
    have hmethods := (hall code root htree v hv (beq_iff_eq.mp hkind)).1
    have hlength := congrArg List.length hmethods
    rw [(Prod.mk.inj hcount).1, (Prod.mk.inj hcount).2] at hlength
    cases hlength

end FixtureDraft.Reader
