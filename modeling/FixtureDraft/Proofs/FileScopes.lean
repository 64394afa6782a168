import FixtureDraft.Analysis
import FixtureDraft.Proofs.Walks

/-!
# Two shapes of a file-scoped namespace

A grammar may put the nodes behind a file-scoped namespace beside it, right below the root, or
into it. A reader sees the same using directives and the same classes either way
(`FileScope.shapes_agree`): in the one shape the namespace is among the ancestors of a class that
it covers, in the other one it is found among the children of the root.
-/

namespace FixtureDraft

open FixtureDraft.Text
open FixtureDraft.Tree

/-! ## Both shapes of a tree -/

/-- A tree with a file-scoped namespace right below its root, and with no other one. In front of
the namespace are the nodes `before`; in it are its `own` nodes, its name among them; the nodes
`after` it are those that it covers. -/
structure FileScope where
  unit : Label
  space : Label
  before : List Node
  own : List Node
  after : List Node
  unit_kind : unit.kind.isNamespace = false ∧ unit.kind ≠ .classDeclaration
  space_kind : space.kind = .fileScopedNamespace
  named : ∃ n ∈ own, n.field = some .name
  alone : ∀ n ∈ before ++ own ++ after, ∀ v ∈ n.walk, v.node.kind ≠ .fileScopedNamespace
  before_start : ∀ n ∈ before, ∀ v ∈ n.walk, v.node.start ≤ space.start
  after_start : ∀ n ∈ after, ∀ v ∈ n.walk, space.start < v.node.start

namespace FileScope

/-- The namespace with its own nodes only. -/
def bare (t : FileScope) : Node := .node t.space t.own

/-- The tree where the namespace stands beside the nodes that it covers. -/
def beside (t : FileScope) : Node := .node t.unit (t.before ++ t.bare :: t.after)

/-- The namespace with all nodes that it covers behind its own ones. -/
def full (t : FileScope) : Node := .node t.space (t.own ++ t.after)

/-- The tree where the namespace stands around the nodes that it covers. -/
def enclosing (t : FileScope) : Node := .node t.unit (t.before ++ [t.full])

end FileScope

/-! ## Walks -/

namespace FileScope

variable (t : FileScope)

lemma walk_beside : t.beside.walk = ⟨t.beside, []⟩ ::
    ((Node.visitsAll [] t.before).map (·.inside [t.beside]) ++ ⟨t.bare, [t.beside]⟩ ::
      ((Node.visitsAll [] t.own).map (·.inside [t.bare, t.beside])
        ++ (Node.visitsAll [] t.after).map (·.inside [t.beside]))) := by
  rw [Node.walk_eq_visits]
  simp only [← Node.visitsAll_eq_map_inside]
  show _ :: Node.visitsAll [t.beside] (t.before ++ t.bare :: t.after) = _
  rw [Node.visitsAll_append_list]
  rfl

lemma walk_enclosing : t.enclosing.walk = ⟨t.enclosing, []⟩ ::
    ((Node.visitsAll [] t.before).map (·.inside [t.enclosing]) ++ ⟨t.full, [t.enclosing]⟩ ::
      ((Node.visitsAll [] t.own).map (·.inside [t.full, t.enclosing])
        ++ (Node.visitsAll [] t.after).map (·.inside [t.full, t.enclosing]))) := by
  have hfull : Node.visitsAll [t.enclosing] [t.full]
      = ⟨t.full, [t.enclosing]⟩ :: Node.visitsAll [t.full, t.enclosing] (t.own ++ t.after) := by
    rw [Node.visitsAll, Node.visitsAll, List.append_nil]
    rfl
  rw [Node.walk_eq_visits]
  simp only [← Node.visitsAll_eq_map_inside]
  show _ :: Node.visitsAll [t.enclosing] (t.before ++ [t.full]) = _
  rw [Node.visitsAll_append_list, hfull, Node.visitsAll_append_list]
  rfl

/-- Both shapes have the same labels in the same order. -/
lemma labels_walk :
    t.enclosing.walk.map (·.node.label) = t.beside.walk.map (·.node.label) := by
  rw [walk_enclosing, walk_beside]
  simp only [List.map_cons, List.map_append, List.map_map]
  rfl

end FileScope

/-! ## What is read off labels -/

/-- The using directives are told by the labels of a tree. -/
lemma usingsOf_congr (s : Source) {root root' : Node}
    (hlabels : root'.walk.map (·.node.label) = root.walk.map (·.node.label)) :
    Reader.usingsOf s root' = Reader.usingsOf s root := by
  have hread : ∀ root, Reader.usingsOf s root =
      ((root.walk.map (·.node.label)).filter (·.kind == .usingDirective)).map
        fun l => squash (s.text (.node l [])) := by
    intro root
    rw [Reader.usingsOf, List.filter_map, List.map_map]
    rfl
  rw [hread, hread, hlabels]

/-- Which fault a faulty tree has is told by its labels. -/
lemma ofTree_congr (s : Source) {root root' : Node}
    (hlabels : root'.walk.map (·.node.label) = root.walk.map (·.node.label)) :
    SourceFault.ofTree s root' = SourceFault.ofTree s root := by
  have hread : ∀ root, SourceFault.ofTree s root =
      (((root.walk.map (·.node.label)).find? fun l => l.kind == .fault || l.missing).map
        fun l => SourceFault.ofNode s (.node l [])).getD
          { summary := "Syntax error in C# source" } := by
    intro root
    have hfault : (fun l : Label => l.kind == .fault || l.missing) ∘ (fun v : Visit => v.node.label)
        = fun v => v.node.isFault := rfl
    rw [List.find?_map, hfault, SourceFault.ofTree]
    cases root.walk.find? fun v => v.node.isFault
    all_goals rfl
  rw [hread, hread, hlabels]

lemma anyFault_append (xs ys : List Node) :
    Node.anyFault (xs ++ ys) = (Node.anyFault xs || Node.anyFault ys) := by
  induction xs with
  | nil => simp [Node.anyFault]
  | cons x xs ih => rw [List.cons_append, Node.anyFault, Node.anyFault, ih, Bool.or_assoc]

/-! ## Namespaces -/

namespace Reader

variable (s : Source)

/-- The names of the namespaces around a node within the tree that was walked. -/
def namesWithin (v : Visit) : List String :=
  (v.ancestors.filter (·.kind.isNamespace)).reverse.map (nameOf s)

/-- The namespaces around a node in a part of a tree without a file-scoped one are those around
the part, and then those within it. -/
lemma namespacesOf_inside (root : Node) {v : Visit} (around : List Node)
    (halone : ∀ a ∈ v.ancestors, a.kind ≠ .fileScopedNamespace) :
    namespacesOf s root (v.inside around) =
      namespacesOf s root ⟨v.node, around⟩ ++ namesWithin s v := by
  have hnone : (v.ancestors.filter (·.kind.isNamespace)).any (·.kind == .fileScopedNamespace)
      = false := by
    refine List.any_eq_false.mpr fun a ha => ?_
    simpa using halone a (List.mem_of_mem_filter ha)
  simp only [namespacesOf, Visit.inside, namesWithin, List.filter_append, List.any_append, hnone,
    Bool.false_or, List.append_assoc, List.reverse_append, List.map_append]
  rfl

/-- A class is read alike where the same namespaces are around it and it is nested or not. -/
lemma classOf_congr {root root' : Node} {v v' : Visit} (hnode : v'.node = v.node)
    (hspaces : namespacesOf s root' v' = namespacesOf s root v)
    (hnested : v'.ancestors.any (·.kind.isTypeDeclaration)
      = v.ancestors.any (·.kind.isTypeDeclaration)) :
    classOf s root' v' = classOf s root v := by
  simp only [classOf, hnode, hspaces, hnested]

end Reader

namespace FileScope

variable (t : FileScope) (s : Source)

/-- The name of the namespace is one of its own nodes. -/
lemma nameOf_full : Reader.nameOf s t.full = Reader.nameOf s t.bare := by
  have hchild : t.full.child? .name = t.bare.child? .name := by
    obtain ⟨n, hn, hfield⟩ := t.named
    show (t.own ++ t.after).find? _ = t.own.find? _
    rw [List.find?_append]
    cases hfind : t.own.find? (·.field == some .name) with
    | some m => rfl
    | none => simpa [hfield] using List.find?_eq_none.mp hfind n hn
  rw [Reader.nameOf, Reader.nameOf, hchild]

variable {t}

lemma before_subset : t.before ⊆ t.before ++ t.own ++ t.after := by
  rw [List.append_assoc]
  exact List.subset_append_left _ _

lemma own_subset : t.own ⊆ t.before ++ t.own ++ t.after :=
  List.Subset.trans (List.subset_append_right _ _) (List.subset_append_left _ _)

lemma after_subset : t.after ⊆ t.before ++ t.own ++ t.after :=
  List.subset_append_right _ _

/-- The nodes of the tree but for its root and the namespace. -/
lemma mem_others {ns : List Node} (hns : ns ⊆ t.before ++ t.own ++ t.after) {v : Visit}
    (hv : v ∈ Node.visitsAll [] ns) :
    v.node.kind ≠ .fileScopedNamespace ∧ ∀ a ∈ v.ancestors, a.kind ≠ .fileScopedNamespace := by
  obtain ⟨n, hn, hv⟩ := Node.mem_visitsAll.mp hv
  refine ⟨t.alone n (hns hn) v hv, fun a ha => ?_⟩
  obtain ⟨u, hu, rfl⟩ := Node.exists_of_mem_ancestors hv ha
  exact t.alone n (hns hn) u hu

/-- No file-scoped namespace is found among the other nodes. -/
lemma find?_others {ns : List Node} (hns : ns ⊆ t.before ++ t.own ++ t.after) (i : ℕ) :
    ns.find? (fun c => c.kind == .fileScopedNamespace && decide (c.start < i)) = none := by
  refine List.find?_eq_none.mpr fun c hc => ?_
  have hroot : (⟨c, []⟩ : Visit) ∈ Node.visitsAll [] ns :=
    Node.mem_visitsAll.mpr ⟨c, hc, c.root_mem_walk⟩
  simp [(mem_others hns hroot).1]

/-- Right below the root, the namespace counts for the nodes that start behind it. -/
lemma namespacesOf_below (n : Node) (cs : List Node) {rest : List Node}
    (hrest : rest ⊆ t.before ++ t.own ++ t.after) :
    Reader.namespacesOf s (.node t.unit (t.before ++ .node t.space cs :: rest))
        ⟨n, [.node t.unit (t.before ++ .node t.space cs :: rest)]⟩ =
      if t.space.start < n.start then [Reader.nameOf s (.node t.space cs)] else [] := by
  have hroot : ∀ ns, (Node.node t.unit ns).kind.isNamespace = false := fun _ => t.unit_kind.1
  have hspace : ∀ ns, (Node.node t.space ns).kind = .fileScopedNamespace := fun _ => t.space_kind
  have hstart : ∀ ns, (Node.node t.space ns).start = t.space.start := fun _ => rfl
  have hchildren : ∀ ns, (Node.node t.unit ns).children = ns := fun _ => rfl
  simp only [Reader.namespacesOf, hroot, hchildren, Bool.false_eq_true, not_false_eq_true,
    List.filter_cons_of_neg, List.filter_nil, List.any_nil, if_false, List.nil_append,
    List.find?_append, find?_others before_subset, Option.none_or, List.find?_cons, hspace, hstart,
    find?_others hrest, beq_self_eq_true, Bool.true_and]
  by_cases hlt : t.space.start < n.start
  · simp [hlt]
  · simp [hlt]

/-- Inside the namespace, it counts for every node. -/
lemma namespacesOf_inside (n : Node) (root cs : List Node) :
    Reader.namespacesOf s (.node t.unit root) ⟨n, [.node t.space cs, .node t.unit root]⟩ =
      [Reader.nameOf s (.node t.space cs)] := by
  have hroot : (Node.node t.unit root).kind.isNamespace = false := t.unit_kind.1
  have hspace : (Node.node t.space cs).kind = .fileScopedNamespace := t.space_kind
  have hcounts : Kind.isNamespace .fileScopedNamespace = true := rfl
  simp [Reader.namespacesOf, hroot, hspace, hcounts]

/-! ## Classes -/

/-- In front of the namespace, a node is in the namespaces within its part of the tree only. -/
lemma namespaces_before {v : Visit} (hv : v ∈ Node.visitsAll [] t.before) :
    Reader.namespacesOf s t.beside (v.inside [t.beside]) = Reader.namesWithin s v ∧
      Reader.namespacesOf s t.enclosing (v.inside [t.enclosing]) = Reader.namesWithin s v := by
  have hothers := (mem_others before_subset hv).2
  have hstart : ¬ t.space.start < v.node.start := by
    obtain ⟨n, hn, hv⟩ := Node.mem_visitsAll.mp hv
    exact Nat.not_lt.mpr (t.before_start n hn v hv)
  rw [Reader.namespacesOf_inside s _ _ hothers, Reader.namespacesOf_inside s _ _ hothers]
  constructor
  · have hbelow := namespacesOf_below s v.node t.own (after_subset (t := t))
    rw [if_neg hstart] at hbelow
    exact congrArg (· ++ Reader.namesWithin s v) hbelow
  · have hbelow := namespacesOf_below (t := t) s v.node (t.own ++ t.after) (List.nil_subset _)
    rw [if_neg hstart] at hbelow
    exact congrArg (· ++ Reader.namesWithin s v) hbelow

/-- Inside the namespace, a node is in it and in those within its part of the tree. -/
lemma namespaces_own {v : Visit} (hv : v ∈ Node.visitsAll [] t.own) :
    Reader.namespacesOf s t.beside (v.inside [t.bare, t.beside])
        = Reader.nameOf s t.bare :: Reader.namesWithin s v ∧
      Reader.namespacesOf s t.enclosing (v.inside [t.full, t.enclosing])
        = Reader.nameOf s t.bare :: Reader.namesWithin s v := by
  have hothers := (mem_others own_subset hv).2
  rw [Reader.namespacesOf_inside s _ _ hothers, Reader.namespacesOf_inside s _ _ hothers,
    ← nameOf_full]
  constructor
  · rw [nameOf_full]
    exact congrArg (· ++ Reader.namesWithin s v) (namespacesOf_inside s v.node _ t.own)
  · exact congrArg (· ++ Reader.namesWithin s v) (namespacesOf_inside s v.node _ _)

/-- Behind the namespace, a node is in it and in those within its part of the tree. -/
lemma namespaces_after {v : Visit} (hv : v ∈ Node.visitsAll [] t.after) :
    Reader.namespacesOf s t.beside (v.inside [t.beside])
        = Reader.nameOf s t.bare :: Reader.namesWithin s v ∧
      Reader.namespacesOf s t.enclosing (v.inside [t.full, t.enclosing])
        = Reader.nameOf s t.bare :: Reader.namesWithin s v := by
  have hothers := (mem_others after_subset hv).2
  have hstart : t.space.start < v.node.start := by
    obtain ⟨n, hn, hv⟩ := Node.mem_visitsAll.mp hv
    exact t.after_start n hn v hv
  rw [Reader.namespacesOf_inside s _ _ hothers, Reader.namespacesOf_inside s _ _ hothers]
  constructor
  · have hbelow := namespacesOf_below s v.node t.own (after_subset (t := t))
    rw [if_pos hstart] at hbelow
    exact congrArg (· ++ Reader.namesWithin s v) hbelow
  · rw [← nameOf_full]
    exact congrArg (· ++ Reader.namesWithin s v) (namespacesOf_inside s v.node _ _)

end FileScope

/-- The classes among some nodes of the tree `root` that have the ancestors `around`. -/
def Reader.classesAmong (s : Source) (root : Node) (around ns : List Node) :
    List ClassDeclaration :=
  ((Node.visitsAll [] ns).filter (·.node.kind == .classDeclaration)).map
    fun v => classOf s root (v.inside around)

/-- Some nodes hold the same classes in two trees if their namespaces are the same and no type is
around them in either. -/
lemma Reader.classesAmong_congr {s : Source} {root root' : Node} {around around' ns : List Node}
    (hspaces : ∀ v ∈ Node.visitsAll [] ns,
      namespacesOf s root' (v.inside around') = namespacesOf s root (v.inside around))
    (hnested : around'.any (·.kind.isTypeDeclaration) = around.any (·.kind.isTypeDeclaration)) :
    classesAmong s root' around' ns = classesAmong s root around ns := by
  refine List.map_congr_left fun v hv => ?_
  refine classOf_congr s rfl (hspaces v (List.mem_of_mem_filter hv)) ?_
  simp only [Visit.inside, List.any_append, hnested]

namespace FileScope

variable (t : FileScope) (s : Source)

/-- Neither the root nor the namespace is a class. -/
private lemma not_class (cs : List Node) :
    ((Node.node t.unit cs).kind == .classDeclaration) = false ∧
      ((Node.node t.space cs).kind == .classDeclaration) = false := by
  have hspace : (Node.node t.space cs).kind = .fileScopedNamespace := t.space_kind
  exact ⟨beq_false_of_ne t.unit_kind.2, by rw [hspace]; rfl⟩

lemma classesOf_beside : Reader.classesOf s t.beside =
    Reader.classesAmong s t.beside [t.beside] t.before ++
      (Reader.classesAmong s t.beside [t.bare, t.beside] t.own ++
        Reader.classesAmong s t.beside [t.beside] t.after) := by
  have hroot : (t.beside.kind == .classDeclaration) = false := (not_class t _).1
  have hspace : (t.bare.kind == .classDeclaration) = false := (not_class t _).2
  rw [Reader.classesOf, walk_beside]
  simp only [List.filter_cons, List.filter_append, List.filter_map, hroot, hspace,
    Bool.false_eq_true, if_false, List.map_append, List.map_map]
  rfl

lemma classesOf_enclosing : Reader.classesOf s t.enclosing =
    Reader.classesAmong s t.enclosing [t.enclosing] t.before ++
      (Reader.classesAmong s t.enclosing [t.full, t.enclosing] t.own ++
        Reader.classesAmong s t.enclosing [t.full, t.enclosing] t.after) := by
  have hroot : (t.enclosing.kind == .classDeclaration) = false := (not_class t _).1
  have hspace : (t.full.kind == .classDeclaration) = false := (not_class t _).2
  rw [Reader.classesOf, walk_enclosing]
  simp only [List.filter_cons, List.filter_append, List.filter_map, hroot, hspace,
    Bool.false_eq_true, if_false, List.map_append, List.map_map]
  rfl

/-- Both shapes have the same classes in the same order. -/
lemma classesOf_enclosing_eq :
    Reader.classesOf s t.enclosing = Reader.classesOf s t.beside := by
  have hspace : ∀ cs, (Node.node t.space cs).kind = .fileScopedNamespace := fun _ => t.space_kind
  have hroot : t.enclosing.kind = t.beside.kind := rfl
  have htype : Kind.isTypeDeclaration .fileScopedNamespace = false := rfl
  rw [classesOf_enclosing, classesOf_beside]
  congr 1
  · refine Reader.classesAmong_congr (fun v hv => ?_) (by simp [hroot])
    rw [(namespaces_before s hv).1, (namespaces_before s hv).2]
  congr 1
  · refine Reader.classesAmong_congr (fun v hv => ?_) (by simp [hroot, bare, full, hspace])
    rw [(namespaces_own s hv).1, (namespaces_own s hv).2]
  · refine Reader.classesAmong_congr (fun v hv => ?_) (by simp [hroot, full, hspace, htype])
    rw [(namespaces_after s hv).1, (namespaces_after s hv).2]

/-! ## Faults -/

/-- If the namespace does not overrule what is in it, both shapes are faulty or neither is. -/
lemma hasFault_enclosing (hflag : t.space.flagged = none) :
    t.enclosing.hasFault = t.beside.hasFault := by
  have hsome : Node.anyFault (t.before ++ [t.full])
      = Node.anyFault (t.before ++ t.bare :: t.after) := by
    simp only [anyFault_append, Node.anyFault, full, bare, Node.hasFault, hflag, Option.getD_none,
      Bool.or_false, Bool.or_assoc]
  simp only [enclosing, beside, Node.hasFault, hsome]

end FileScope

/-! ## One reading of both shapes -/

/-- A node that the walk from `root` meets below `around`: were it a class, it would be read as
one in the namespaces `names`. -/
structure Reader.ReadsIn (s : Source) (root : Node) (around : List Node) (v : Visit)
    (names : List String) : Prop where
  met : v.inside around ∈ root.walk
  namespaces : (classOf s root (v.inside around)).namespaces = names

namespace FileScope

open Reader (ReadsIn)

variable (t : FileScope) (s : Source)

lemma readsIn_before {n : Node} (hn : n ∈ t.before) {v : Visit} (hv : v ∈ n.walk) :
    ReadsIn s t.beside [t.beside] v (Reader.namesWithin s v) ∧
      ReadsIn s t.enclosing [t.enclosing] v (Reader.namesWithin s v) := by
  have hvisit : v ∈ Node.visitsAll [] t.before := Node.mem_visitsAll.mpr ⟨n, hn, hv⟩
  refine ⟨⟨?_, (namespaces_before s hvisit).1⟩, ⟨?_, (namespaces_before s hvisit).2⟩⟩
  · rw [walk_beside]
    exact List.mem_cons_of_mem _ (List.mem_append_left _ (List.mem_map_of_mem hvisit))
  · rw [walk_enclosing]
    exact List.mem_cons_of_mem _ (List.mem_append_left _ (List.mem_map_of_mem hvisit))

lemma readsIn_after {n : Node} (hn : n ∈ t.after) {v : Visit} (hv : v ∈ n.walk) :
    ReadsIn s t.beside [t.beside] v (Reader.nameOf s t.bare :: Reader.namesWithin s v) ∧
      ReadsIn s t.enclosing [t.full, t.enclosing] v
        (Reader.nameOf s t.bare :: Reader.namesWithin s v) := by
  have hvisit : v ∈ Node.visitsAll [] t.after := Node.mem_visitsAll.mpr ⟨n, hn, hv⟩
  refine ⟨⟨?_, (namespaces_after s hvisit).1⟩, ⟨?_, (namespaces_after s hvisit).2⟩⟩
  · rw [walk_beside]
    exact List.mem_cons_of_mem _ (List.mem_append_right _ (List.mem_cons_of_mem _
      (List.mem_append_right _ (List.mem_map_of_mem hvisit))))
  · rw [walk_enclosing]
    exact List.mem_cons_of_mem _ (List.mem_append_right _ (List.mem_cons_of_mem _
      (List.mem_append_right _ (List.mem_map_of_mem hvisit))))

lemma unitOf_enclosing : Reader.unitOf s t.enclosing = Reader.unitOf s t.beside := by
  rw [Reader.unitOf, Reader.unitOf, classesOf_enclosing_eq, usingsOf_congr s t.labels_walk]

/-- What an engine makes of a text that is parsed to `root`. -/
private lemma files_parsed (root : Node) (rule : MockRule) (code : String) :
    Engine.files ⟨fun _ => root, rule⟩ code =
      if root.hasFault then .error (.ofTree (.ofText code) root)
      else .ok (draftFiles rule (Reader.unitOf (.ofText code) root)) := by
  show (checkTree (.ofText code) root >>= _) >>= _ = _
  rw [checkTree]
  cases root.hasFault
  all_goals rfl

/-- An engine makes the same of both shapes: the same fixtures, or the same complaint. -/
lemma files_enclosing (hflag : t.space.flagged = none) (rule : MockRule) (code : String) :
    Engine.files ⟨fun _ => t.enclosing, rule⟩ code =
      Engine.files ⟨fun _ => t.beside, rule⟩ code := by
  rw [files_parsed, files_parsed, hasFault_enclosing t hflag, ofTree_congr _ t.labels_walk,
    unitOf_enclosing]

/-- Where the nodes behind a file-scoped namespace stand does not matter. Beside it and inside it
they give the same using directives, the same classes in the same order, and the same fixtures.
Either way a class in front of the namespace is only in the namespaces that hold it there, and a
class behind it is in the file-scoped namespace first. -/
theorem shapes_agree :
    Reader.usingsOf s t.enclosing = Reader.usingsOf s t.beside ∧
    Reader.classesOf s t.enclosing = Reader.classesOf s t.beside ∧
    (∀ rule, draftFiles rule (Reader.unitOf s t.enclosing)
      = draftFiles rule (Reader.unitOf s t.beside)) ∧
    (t.space.flagged = none → ∀ rule code,
      Engine.files ⟨fun _ => t.enclosing, rule⟩ code
        = Engine.files ⟨fun _ => t.beside, rule⟩ code) ∧
    (∀ n ∈ t.before, ∀ v ∈ n.walk,
      ReadsIn s t.beside [t.beside] v (Reader.namesWithin s v) ∧
      ReadsIn s t.enclosing [t.enclosing] v (Reader.namesWithin s v)) ∧
    (∀ n ∈ t.after, ∀ v ∈ n.walk,
      ReadsIn s t.beside [t.beside] v (Reader.nameOf s t.bare :: Reader.namesWithin s v) ∧
      ReadsIn s t.enclosing [t.full, t.enclosing] v
        (Reader.nameOf s t.bare :: Reader.namesWithin s v)) := by
  refine ⟨usingsOf_congr s t.labels_walk, classesOf_enclosing_eq t s, fun rule => ?_,
    files_enclosing t, fun n hn v hv => readsIn_before t s hn hv,
    fun n hn v hv => readsIn_after t s hn hv⟩
  rw [unitOf_enclosing]

/-- A class in a block and one behind a file-scoped namespace, as in
`namespace B{class X{}}namespace A;class Y{}`. -/
def blockFirst : FileScope where
  unit := { kind := .other "compilation_unit", start := 0, stop := 43 }
  space := { kind := .fileScopedNamespace, start := 22, stop := 34 }
  before :=
    [.node { kind := .namespaceDeclaration, start := 0, stop := 22 }
      [.node { kind := .identifier, field := some .name, start := 10, stop := 11 } [],
       .node { kind := .other "declaration_list", field := some .body, start := 11, stop := 22 }
        [.node { kind := .classDeclaration, start := 12, stop := 21 }
          [.node { kind := .identifier, field := some .name, start := 18, stop := 19 } []]]]]
  own := [.node { kind := .identifier, field := some .name, start := 32, stop := 33 } []]
  after :=
    [.node { kind := .classDeclaration, start := 34, stop := 43 }
      [.node { kind := .identifier, field := some .name, start := 40, stop := 41 } []]]
  unit_kind := by decide
  space_kind := by decide
  named := by decide
  alone := by decide
  before_start := by decide
  after_start := by decide

theorem shapes_agree_behind_block :
    (∀ rule, Engine.files ⟨fun _ => blockFirst.enclosing, rule⟩
        "namespace B{class X{}}namespace A;class Y{}"
      = Engine.files ⟨fun _ => blockFirst.beside, rule⟩
        "namespace B{class X{}}namespace A;class Y{}") ∧
    ((Reader.classesOf (.ofText "namespace B{class X{}}namespace A;class Y{}")
        blockFirst.beside).map fun c => (c.name, c.namespaces)) = [("X", ["B"]), ("Y", ["A"])] ∧
    ∀ n ∈ blockFirst.after,
      ReadsIn (.ofText "namespace B{class X{}}namespace A;class Y{}") blockFirst.enclosing
        [blockFirst.full, blockFirst.enclosing] ⟨n, []⟩ ["A"] := by
  have hagree := shapes_agree blockFirst
    (.ofText "namespace B{class X{}}namespace A;class Y{}")
  obtain ⟨-, -, -, hfiles, -, hafter⟩ := hagree
  refine ⟨fun rule => hfiles rfl rule _, by decide +kernel, fun n hn => ?_⟩
  have hname : Reader.nameOf (.ofText "namespace B{class X{}}namespace A;class Y{}")
      blockFirst.bare = "A" := by decide +kernel
  have hread := (hafter n hn ⟨n, []⟩ n.root_mem_walk).2
  rw [hname] at hread
  exact hread

/-- A class in front of the namespace can be in another one of the same name all the same, as in
`namespace A{class X{}}namespace A;class Y{}`. -/
theorem not_forall_before_outside : ¬ ∀ (t : FileScope) (s : Source),
    ∀ n ∈ t.before, ∀ v ∈ n.walk, v.node.kind = .classDeclaration →
      (Reader.classOf s t.beside (v.inside [t.beside])).namespaces.head?
        ≠ some (Reader.nameOf s t.bare) := by
  intro hall
  have hread : ∃ n ∈ blockFirst.before, ∃ v ∈ n.walk, v.node.kind = .classDeclaration ∧
      (Reader.classOf (.ofText "namespace A{class X{}}namespace A;class Y{}") blockFirst.beside
        (v.inside [blockFirst.beside])).namespaces.head?
        = some (Reader.nameOf (.ofText "namespace A{class X{}}namespace A;class Y{}")
            blockFirst.bare) := by
    decide +kernel
  obtain ⟨n, hn, v, hv, hclass, hhead⟩ := hread
  exact hall _ _ n hn v hv hclass hhead

end FileScope

end FixtureDraft
