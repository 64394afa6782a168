import FixtureDraft.Declaration.Reader
import FixtureDraft.Proofs.Parts
import FixtureDraft.Proofs.Walks

/-!
# Document order

The walk over a tree ends, and it meets every node once, in the order of the recursive listing: that
is the lexicographic order of the addresses of the nodes. If the nodes of a tree lie in their source
as they do in the tree, then what is read off the tree has the order of the source too, and so have
the classes that are made of several parts. Main statement: `walk_in_document_order`.
-/

namespace FixtureDraft

open FixtureDraft.Tree

namespace Tree

/-! ## The walk, turn by turn -/

/-- How far a walk has come: the nodes that it has met, and the stack of nodes still to come, the
next one first. -/
structure Walker where
  met : List Visit
  stack : List Visit

namespace Walker

/-- A walk begins with the root of a tree alone. -/
def start (root : Node) : Walker := ⟨[], [⟨root, []⟩]⟩

/-- The next node is met, and its children take its place on the stack. -/
inductive Turn : Walker → Walker → Prop
  | meet (met : List Visit) (v : Visit) (stack : List Visit) :
      Turn ⟨met, v :: stack⟩ ⟨met ++ [v], v.below ++ stack⟩

/-- All that is still to be met: the nodes on the stack, each with what is below it. -/
def due (w : Walker) : List Visit := w.stack.flatMap fun v => v.node.visits v.ancestors

/-- In one turn a walk meets the first of the nodes that are due, and nothing else changes. -/
lemma Turn.due_eq {w w' : Walker} (h : Turn w w') :
    ∃ v, w.due = v :: w'.due ∧ w'.met = w.met ++ [v] := by
  cases h with
  | meet met v stack =>
    refine ⟨v, ?_, rfl⟩
    rw [due, due, List.flatMap_cons, flatMap_below, List.cons_append, List.flatMap_append]

/-- There is no endless walk. -/
lemma wellFounded_turn : WellFounded fun w' w : Walker => Turn w w' := by
  refine Subrelation.wf ?_ (measure fun w : Walker => w.due.length).wf
  intro w' w h
  obtain ⟨v, hdue, -⟩ := h.due_eq
  change w'.due.length < w.due.length
  rw [hdue, List.length_cons]
  exact Nat.lt_succ_self _

/-- A walk goes on until its stack is empty. -/
lemma exists_turn_or_stack_eq_nil (w : Walker) : (∃ w', Turn w w') ∨ w.stack = [] := by
  obtain ⟨met, stack⟩ := w
  cases stack with
  | nil => exact Or.inr rfl
  | cons v stack => exact Or.inl ⟨_, .meet met v stack⟩

/-- At any time, what a walk has met and what is due make up the listing of the tree. -/
lemma met_append_due {root : Node} {w : Walker}
    (h : Relation.ReflTransGen Turn (start root) w) : w.met ++ w.due = Node.visits [] root := by
  induction h with
  | refl => simp [start, due]
  | tail _ hturn ih =>
    obtain ⟨v, hdue, hmet⟩ := hturn.due_eq
    rw [hmet, List.append_assoc, List.singleton_append, ← hdue, ih]

end Walker

/-! ## Addresses -/

/-- What is met at an address below a visit: each number says which of the children is next. -/
def Visit.descend? : Visit → List ℕ → Option Visit
  | v, [] => some v
  | v, i :: p => v.below[i]?.bind fun u => u.descend? p

mutual

/-- The addresses of the nodes of a tree in document order. That of the root is empty. -/
def Node.addresses : Node → List (List ℕ)
  | .node _ cs => [] :: Node.addressesFrom 0 cs

/-- The addresses of the nodes below some siblings, of which the first has the given number. -/
def Node.addressesFrom : (first : ℕ) → List Node → List (List ℕ)
  | _, [] => []
  | i, c :: cs => (Node.addresses c).map (i :: ·) ++ Node.addressesFrom (i + 1) cs

end

namespace Node

lemma mem_addressesFrom {i : ℕ} {cs : List Node} {p : List ℕ} :
    p ∈ addressesFrom i cs ↔ ∃ k q c, p = (i + k) :: q ∧ cs[k]? = some c ∧ q ∈ c.addresses := by
  induction cs generalizing i with
  | nil => simp [addressesFrom]
  | cons c cs ih =>
    rw [addressesFrom, List.mem_append, List.mem_map, ih]
    constructor
    · rintro (⟨q, hq, rfl⟩ | ⟨k, q, d, rfl, hd, hq⟩)
      · exact ⟨0, q, c, rfl, rfl, hq⟩
      · exact ⟨k + 1, q, d, by rw [Nat.add_assoc, Nat.add_comm 1], hd, hq⟩
    · rintro ⟨k, q, d, rfl, hd, hq⟩
      cases k with
      | zero =>
        obtain rfl : c = d := by simpa using hd
        exact Or.inl ⟨q, hq, rfl⟩
      | succ k => exact Or.inr ⟨k, q, d, by rw [Nat.add_assoc, Nat.add_comm 1], hd, hq⟩

/-- The addresses of a tree are those at which there is a node. -/
lemma mem_addresses_iff (n : Node) (around : List Node) (p : List ℕ) :
    p ∈ n.addresses ↔ (Visit.descend? ⟨n, around⟩ p).isSome := by
  induction p generalizing n around with
  | nil =>
    cases n with
    | node l cs => simp [addresses, Visit.descend?]
  | cons i p ih =>
    have hmem : i :: p ∈ n.addresses ↔ ∃ c, n.children[i]? = some c ∧ p ∈ c.addresses := by
      cases n with
      | node l cs => simp [addresses, mem_addressesFrom, children]
    rw [hmem, Visit.descend?, Visit.below, List.getElem?_map]
    cases n.children[i]? with
    | none => simp
    | some c => simpa using ih c _

-- by induction on the tree, and on the children of a node
mutual

/-- The nodes of a tree are listed in the order of their addresses, each with its ancestors. -/
lemma map_some_visits : ∀ (n : Node) (around : List Node),
    (visits around n).map some = n.addresses.map (Visit.descend? ⟨n, around⟩)
  | .node l cs, around => by
    have hbelow := map_some_visitsAll cs ⟨.node l cs, around⟩ 0 fun k => by
      rw [Nat.zero_add]
      rfl
    rw [visits, addresses, List.map_cons, List.map_cons, hbelow]
    rfl

lemma map_some_visitsAll : ∀ (cs : List Node) (v : Visit) (i : ℕ),
    (∀ k, cs[k]? = v.node.children[i + k]?) →
      (visitsAll (v.node :: v.ancestors) cs).map some = (addressesFrom i cs).map v.descend?
  | [], _, _, _ => rfl
  | c :: cs, v, i, h => by
    -- `cs` is what is left of the children of `v`, from number `i` on
    have hrest := map_some_visitsAll cs v (i + 1) fun k => by
      rw [Nat.add_assoc, Nat.add_comm 1, ← h, List.getElem?_cons_succ]
    have hchild : v.below[i]? = some ⟨c, v.node :: v.ancestors⟩ := by
      rw [Visit.below, List.getElem?_map, ← Nat.add_zero i, ← h, List.getElem?_cons_zero]
      rfl
    have hdescend : ∀ p, v.descend? (i :: p) = Visit.descend? ⟨c, v.node :: v.ancestors⟩ p := by
      intro p
      rw [Visit.descend?, hchild, Option.bind_some]
    rw [visitsAll, addressesFrom, List.map_append, List.map_append, List.map_map, hrest,
      map_some_visits c]
    exact congrArg (· ++ _) (List.map_congr_left fun p _ => (hdescend p).symm)

end

-- by induction on the tree, and on the children of a node
mutual

/-- Addresses are listed in lexicographic order, so none of them twice. -/
lemma pairwise_addresses : ∀ n : Node, n.addresses.Pairwise (· < ·)
  | .node l cs => by
    rw [addresses]
    refine List.pairwise_cons.mpr ⟨fun p hp => ?_, pairwise_addressesFrom 0 cs⟩
    obtain ⟨k, q, c, rfl, -⟩ := mem_addressesFrom.mp hp
    exact List.nil_lt_cons _ _

lemma pairwise_addressesFrom : ∀ (i : ℕ) (cs : List Node), (addressesFrom i cs).Pairwise (· < ·)
  | _, [] => .nil
  | i, c :: cs => by
    rw [addressesFrom]
    refine List.pairwise_append.mpr ⟨?_, pairwise_addressesFrom (i + 1) cs, fun p hp q hq => ?_⟩
    · refine List.pairwise_map.mpr ((pairwise_addresses c).imp fun h => ?_)
      exact List.cons_lt_cons_iff.mpr (Or.inr ⟨rfl, h⟩)
    · obtain ⟨p, -, rfl⟩ := List.mem_map.mp hp
      obtain ⟨k, q, d, rfl, -⟩ := mem_addressesFrom.mp hq
      exact List.cons_lt_cons_iff.mpr (Or.inl (by omega))

end

end Node

/-! ## Trees in the order of their source -/

/-- No node begins later in the source than one after it in the list. -/
def InSourceOrder (vs : List Visit) : Prop :=
  vs.Pairwise fun u v => u.node.start ≤ v.node.start

namespace Node

/-- The node lies in the source as it does in the tree: its children begin no earlier than it does,
and no node of a child's tree begins later than the next child. -/
def KeepsOrder (n : Node) : Prop :=
  (∀ c ∈ n.children, n.start ≤ c.start)
    ∧ n.children.IsChain fun c d => ∀ v ∈ visits [] c, v.node.start ≤ d.start

instance (n : Node) : Decidable n.KeepsOrder :=
  inferInstanceAs (Decidable (_ ∧ _))

/-- The nodes of a kind, in document order. -/
def ofKind (root : Node) (k : Kind) : List Visit :=
  (visits [] root).filter (·.node.kind == k)

/-- Where siblings are listed in the order of the source, none begins earlier than the first. -/
lemma start_le_of_mem_visitsAll {around : List Node} {d : Node} {ds : List Node}
    (h : InSourceOrder (visitsAll around (d :: ds))) {v : Visit}
    (hv : v ∈ visitsAll around (d :: ds)) : d.start ≤ v.node.start := by
  cases d with
  | node l cs =>
    rw [visitsAll, visits, List.cons_append] at h hv
    obtain rfl | hv := List.mem_cons.mp hv
    · exact le_rfl
    · exact (List.pairwise_cons.mp h).1 v hv

-- by induction on the tree, and on the children of a node
mutual

/-- If all nodes keep the order of the source, so does the listing. -/
lemma inSourceOrder_visits : ∀ (n : Node) (around : List Node),
    (∀ v ∈ visits around n, v.node.KeepsOrder) → InSourceOrder (visits around n)
  | .node l cs, around, h => by
    rw [visits] at h ⊢
    obtain ⟨hchildren, hsiblings⟩ := h _ List.mem_cons_self
    have hbelow := inSourceOrder_visitsAll cs (.node l cs :: around)
      (fun v hv => h v (List.mem_cons_of_mem _ hv)) hsiblings
    refine List.pairwise_cons.mpr ⟨fun v hv => ?_, hbelow⟩
    -- the first of the children is between the node and all that is below it
    cases cs with
    | nil => cases hv
    | cons d ds =>
      exact (hchildren d List.mem_cons_self).trans (start_le_of_mem_visitsAll hbelow hv)

lemma inSourceOrder_visitsAll : ∀ (cs : List Node) (around : List Node),
    (∀ v ∈ visitsAll around cs, v.node.KeepsOrder) →
      cs.IsChain (fun c d => ∀ v ∈ visits [] c, v.node.start ≤ d.start) →
        InSourceOrder (visitsAll around cs)
  | [], _, _, _ => .nil
  | c :: cs, around, h, hsiblings => by
    rw [visitsAll] at h ⊢
    have hfirst := inSourceOrder_visits c around fun v hv => h v (List.mem_append_left _ hv)
    have hrest := inSourceOrder_visitsAll cs around
      (fun v hv => h v (List.mem_append_right _ hv)) hsiblings.tail
    refine List.pairwise_append.mpr ⟨hfirst, hrest, fun u hu v hv => ?_⟩
    -- the next child is between what is below this one and what is below those after it
    cases cs with
    | nil => cases hv
    | cons d ds =>
      have hlisted : visits around c = (visits [] c).map (·.inside around) :=
        visits_append c [] around
      rw [hlisted] at hu
      obtain ⟨w, hw, rfl⟩ := List.mem_map.mp hu
      have hnext : w.node.start ≤ d.start := (List.isChain_cons_cons.mp hsiblings).1 w hw
      exact hnext.trans (start_le_of_mem_visitsAll hrest hv)

end

end Node

end Tree

/-! ## Merged classes -/

/-- A class without its members and its modifiers. -/
def ClassDeclaration.heading (c : ClassDeclaration) : ClassDeclaration :=
  { c with constructors := [], methods := [], modifiers := [] }

/-- Further parts change nothing else of a class. -/
lemma ClassGroup.heading_joined (g : ClassGroup) : g.joined.heading = g.first.heading := by
  have hfold : ∀ (ds : List ClassDeclaration) (c : ClassDeclaration),
      (ds.foldl ClassDeclaration.join c).heading = c.heading := by
    intro ds
    induction ds with
    | nil => exact fun _ => rfl
    | cons d ds ih => exact fun c => ih (c.join d)
  exact hfold g.others g.first

/-- Merged classes have the headings of some of the classes they are made of, in their order. -/
lemma exists_sublist_headings (cs : List ClassDeclaration) :
    ∃ firsts : List ClassDeclaration, firsts.Sublist cs ∧
      (mergeParts cs).map ClassDeclaration.heading = firsts.map ClassDeclaration.heading := by
  -- the first members of the groups
  refine ⟨_, (isGrouping_groups cs).order, ?_⟩
  rw [mergeParts_eq_map_joined, List.map_map, List.map_map]
  exact List.map_congr_left fun g _ => g.heading_joined

namespace Reader

/-- What is read off a tree has the order of its source: there is one entry for each using directive
and each class, in the order in which they begin; merging leaves the first parts of the classes in
that order; and the lines of the classes do not decrease, before and after merging. -/
structure KeepsOrder (s : Source) (root : Node) : Prop where
  usings : usingsOf s root = (root.ofKind .usingDirective).map fun v => Text.squash (s.text v.node)
  usings_order : InSourceOrder (root.ofKind .usingDirective)
  classes : classesOf s root = (root.ofKind .classDeclaration).map (classOf s root)
  classes_order : InSourceOrder (root.ofKind .classDeclaration)
  classes_lines : ((classesOf s root).map (·.line)).Pairwise (· ≤ ·)
  merged_order : ∃ firsts, firsts.Sublist (root.ofKind .classDeclaration) ∧ InSourceOrder firsts ∧
    (mergeParts (classesOf s root)).map ClassDeclaration.heading
      = firsts.map fun v => (classOf s root v).heading
  merged_lines : ((mergeParts (classesOf s root)).map (·.line)).Pairwise (· ≤ ·)

/-- Classes that begin in the order of the source have lines that do not decrease. -/
lemma pairwise_lines (s : Source) (root : Node) {vs : List Visit} (h : InSourceOrder vs) :
    (vs.map fun v => (classOf s root v).line).Pairwise (· ≤ ·) :=
  List.pairwise_map.mpr (h.imp fun hstart => s.line_mono hstart)

lemma keepsOrder_of_nodes (s : Source) {root : Node}
    (h : ∀ v ∈ Node.visits [] root, v.node.KeepsOrder) : KeepsOrder s root := by
  have hlisting := Node.inSourceOrder_visits root [] h
  have hclasses : classesOf s root = (root.ofKind .classDeclaration).map (classOf s root) := by
    rw [classesOf, Node.walk_eq_visits, Node.ofKind]
  have hfirsts : ∃ firsts : List Visit, firsts.Sublist (root.ofKind .classDeclaration) ∧
      (mergeParts (classesOf s root)).map ClassDeclaration.heading
        = firsts.map fun v => (classOf s root v).heading := by
    obtain ⟨cs, hcs, hheadings⟩ := exists_sublist_headings (classesOf s root)
    rw [hclasses] at hcs
    obtain ⟨firsts, hsublist, rfl⟩ := List.sublist_map_iff.mp hcs
    exact ⟨firsts, hsublist, by rw [hheadings, List.map_map]; rfl⟩
  have hclassOrder : InSourceOrder (root.ofKind .classDeclaration) := hlisting.filter _
  obtain ⟨firsts, hsublist, hheadings⟩ := hfirsts
  have hfirstOrder : InSourceOrder firsts := hclassOrder.sublist hsublist
  -- the line is part of the heading, so a merged class has that of its first part
  have hlines : (mergeParts (classesOf s root)).map (·.line)
      = firsts.map fun v => (classOf s root v).line := by
    have hread := congrArg (List.map ClassDeclaration.line) hheadings
    rwa [List.map_map, List.map_map] at hread
  exact {
    usings := by rw [usingsOf, Node.walk_eq_visits, Node.ofKind]
    usings_order := hlisting.filter _
    classes := hclasses
    classes_order := hclassOrder
    classes_lines := by
      rw [hclasses, List.map_map]
      exact pairwise_lines s root hclassOrder
    merged_order := ⟨firsts, hsublist, hfirstOrder, hheadings⟩
    merged_lines := by
      rw [hlines]
      exact pairwise_lines s root hfirstOrder }

end Reader

/-- The walk over a tree ends, having met what the recursion lists; that is the node at each address
of the tree, once, in lexicographic order. If all nodes lie in the source as they do in the tree,
then what is read off the tree has the order of the source, with the parts of classes merged too. -/
theorem walk_in_document_order (s : Source) (root : Node) :
    Acc (fun w' w : Walker => Walker.Turn w w') (Walker.start root)
      ∧ (∀ w, Relation.ReflTransGen Walker.Turn (Walker.start root) w →
          (∃ w', Walker.Turn w w') ∨ w.stack = [] ∧ w.met = root.walk)
      ∧ root.walk = Node.visits [] root
      ∧ root.walk.map some = root.addresses.map (Visit.descend? ⟨root, []⟩)
      ∧ root.addresses.Pairwise (· < ·)
      ∧ (∀ p, p ∈ root.addresses ↔ (Visit.descend? ⟨root, []⟩ p).isSome)
      ∧ ((∀ v ∈ Node.visits [] root, v.node.KeepsOrder) → Reader.KeepsOrder s root) := by
  have hwalk := root.walk_eq_visits
  refine ⟨Walker.wellFounded_turn.apply _, fun w hw => ?_, hwalk, ?_, root.pairwise_addresses,
    root.mem_addresses_iff [], Reader.keepsOrder_of_nodes s⟩
  · -- with nothing on the stack, nothing is due
    refine w.exists_turn_or_stack_eq_nil.imp_right fun hstack => ⟨hstack, ?_⟩
    have hlisted := Walker.met_append_due hw
    rw [Walker.due, hstack, List.flatMap_nil, List.append_nil] at hlisted
    rw [hlisted, hwalk]
  · rw [hwalk, root.map_some_visits]

/-- A class in two parts, and between them a class with another one inside: the merged class stays
where its first part is. -/
theorem walk_in_document_order_of_two_parts :
    let code := "using S;\npartial class A { }\nclass B { class C { } }\npartial class A { }"
    let name (i : ℕ) := Node.node
      { kind := .identifier, field := some .name, start := i, stop := i + 1 } []
    let part (i : ℕ) := Node.node { kind := .classDeclaration, start := i, stop := i + 19 }
      [Node.node { kind := .modifier, start := i, stop := i + 7 } [], name (i + 14)]
    let inner := Node.node { kind := .classDeclaration, start := 39, stop := 50 } [name 45]
    let body := Node.node
      { kind := .other "declaration_list", field := some .body, start := 37, stop := 52 } [inner]
    let outer := Node.node { kind := .classDeclaration, start := 29, stop := 52 } [name 35, body]
    let root := Node.node { kind := .other "compilation_unit", start := 0, stop := 72 }
      [Node.node { kind := .usingDirective, start := 0, stop := 8 } [], part 9, outer, part 53]
    let s := Source.ofText code
    (∀ v ∈ Node.visits [] root, v.node.KeepsOrder) ∧ Reader.KeepsOrder s root
      ∧ (Reader.classesOf s root).map (fun c => (c.name, c.line))
          = [("A", 2), ("B", 3), ("C", 3), ("A", 4)]
      ∧ (mergeParts (Reader.classesOf s root)).map (fun c => (c.name, c.line))
          = [("A", 2), ("B", 3), ("C", 3)] := by
  intro code name part inner body outer root s
  have hnodes : ∀ v ∈ Node.visits [] root, v.node.KeepsOrder := by decide +kernel
  obtain ⟨-, -, -, -, -, -, horder⟩ := walk_in_document_order s root
  exact ⟨hnodes, horder hnodes, by decide +kernel, by decide +kernel⟩

end FixtureDraft
