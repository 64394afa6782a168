import FixtureDraft.Analysis
import FixtureDraft.Proofs.Walks

/-!
# The first fault of a tree

Whether a source is rejected is read off the root of its tree, which says whether there is a fault
anywhere below; which fault is reported comes from a search through the whole tree. As long as each
node says about faults what follows from its children, both agree: a source is rejected exactly if
some node marks a fault, and what is reported is the first such node in document order, by its
place in the source. Main statement: `rejected_at_first_fault`.
-/

namespace FixtureDraft

open FixtureDraft.Tree

namespace Tree

/-! ## Faults below a node -/

namespace Node

/-- Whether what a node says about faults is derived: it is faulty if it marks a fault itself or one
of its children is faulty. -/
def DerivesFaults (n : Node) : Prop :=
  n.hasFault = (n.isFault || n.children.any hasFault)

lemma anyFault_eq_any (cs : List Node) : anyFault cs = cs.any hasFault := by
  induction cs with
  | nil => rfl
  | cons c cs ih => rw [anyFault, ih, List.any_cons]

/-- A node without a flag of its own derives what it says. -/
lemma derivesFaults_of_unflagged {n : Node} (h : n.label.flagged = none) : n.DerivesFaults := by
  obtain ⟨l, cs⟩ := n
  have hflag : l.flagged = none := h
  rw [DerivesFaults, hasFault, hflag, Option.getD_none, anyFault_eq_any]
  rfl

-- by induction on the tree, and on the children of a node
mutual

/-- A node is faulty exactly if some node of its tree marks a fault. -/
lemma hasFault_eq_any : ∀ (n : Node) (around : List Node),
    (∀ v ∈ visits around n, v.node.DerivesFaults) →
      n.hasFault = (visits around n).any (·.node.isFault)
  | .node l cs, around, h => by
    rw [visits] at h ⊢
    have hroot : (Node.node l cs).DerivesFaults := h _ List.mem_cons_self
    have hbelow := any_hasFault_eq_any cs (.node l cs :: around) fun v hv =>
      h v (List.mem_cons_of_mem _ hv)
    rw [hroot, List.any_cons, ← hbelow]
    rfl

lemma any_hasFault_eq_any : ∀ (cs : List Node) (around : List Node),
    (∀ v ∈ visitsAll around cs, v.node.DerivesFaults) →
      cs.any hasFault = (visitsAll around cs).any (·.node.isFault)
  | [], _, _ => rfl
  | c :: cs, around, h => by
    rw [visitsAll] at h ⊢
    rw [List.any_cons, List.any_append,
      hasFault_eq_any c around fun v hv => h v (List.mem_append_left _ hv),
      any_hasFault_eq_any cs around fun v hv => h v (List.mem_append_right _ hv)]

end

end Node

/-! ## Places in a source -/

/-- The byte at `i` stands in the given line and the given column, both counted from one. Lines end
behind a line feed, and columns are counted in bytes. -/
def Source.IsPlace (s : Source) (i line column : ℕ) : Prop :=
  ∃ above beside : Text.Bytes, s.bytes.take i = above ++ beside
    ∧ (above = [] ∨ above.getLast? = some 10) ∧ 10 ∉ beside
    ∧ line = above.count 10 + 1 ∧ column = beside.length + 1

lemma Source.isPlace_line_column (s : Source) (i : ℕ) : s.IsPlace i (s.line i) (s.column i) := by
  set before := s.bytes.take i with hbefore
  have hsplit : before = before.rdropWhile (· != 10) ++ before.rtakeWhile (· != 10) :=
    (List.rdropWhile_append_rtakeWhile ..).symm
  have hbeside : 10 ∉ before.rtakeWhile (· != 10) := by
    intro hmem
    simpa using List.mem_rtakeWhile_imp hmem
  refine ⟨_, _, hsplit, ?_, hbeside, ?_, ?_⟩
  · by_cases hnil : before.rdropWhile (· != 10) = []
    · exact Or.inl hnil
    · have hlast := List.rdropWhile_last_not (· != 10) before hnil
      rw [List.getLast?_eq_some_getLast hnil]
      exact Or.inr (by simpa using hlast)
  · rw [line, ← hbefore]
    conv_lhs => rw [hsplit, List.count_append, List.count_eq_zero_of_not_mem hbeside]
  · rw [column, ← hbefore, List.rtakeWhile, List.length_reverse]

end Tree

/-! ## Rejected sources -/

/-- `f` is the fault of the first node of a tree, in document order, that marks one. It says where
the node begins, and whether a token is missing there. -/
def SourceFault.IsOfFirst (f : SourceFault) (s : Source) (root : Node) : Prop :=
  ∃ before v after line column, Node.visits [] root = before ++ v :: after
    ∧ (∀ u ∈ before, u.node.isFault = false) ∧ v.node.isFault = true
    ∧ s.IsPlace v.node.start line column ∧ f.line = some line ∧ f.column = some column
    ∧ f.message = (if v.node.label.missing then "Missing token" else "Syntax error")
        ++ s!" in C# source (line {line}, column {column})"

/-- The fault of a node in one line. -/
lemma SourceFault.message_ofNode (s : Source) (n : Node) :
    (SourceFault.ofNode s n).message
      = (if n.label.missing then "Missing token" else "Syntax error")
        ++ s!" in C# source (line {s.line n.start}, column {s.column n.start})" := by
  have hjoint : " in C# source (line " = " in C# source" ++ " (line " := rfl
  have htext : ∀ t : String, toString t = t := fun _ => rfl
  simp only [SourceFault.message, SourceFault.ofNode, SourceFault.coordinate, htext, hjoint,
    String.append_assoc]

/-- The fault that is told of a tree is that of the first node that marks one, if there is one. -/
lemma SourceFault.isOfFirst_ofTree (s : Source) {root : Node}
    (h : (Node.visits [] root).any (·.node.isFault) = true) :
    (SourceFault.ofTree s root).IsOfFirst s root := by
  rw [SourceFault.ofTree, Node.walk_eq_visits]
  cases hfind : (Node.visits [] root).find? (·.node.isFault) with
  | none =>
    rw [List.find?_eq_none] at hfind
    obtain ⟨v, hv, hfault⟩ := List.any_eq_true.mp h
    exact absurd hfault (hfind v hv)
  | some v =>
    obtain ⟨hfault, before, after, hsplit, hbefore⟩ := List.find?_eq_some_iff_append.mp hfind
    refine ⟨before, v, after, _, _, hsplit, fun u hu => by simpa using hbefore u hu, hfault,
      s.isPlace_line_column v.node.start, rfl, rfl, ?_⟩
    exact SourceFault.message_ofNode s v.node

/-- A source is rejected exactly if its tree is faulty, with the fault told of the tree. -/
lemma Engine.tree_eq_error_iff (e : Engine) (code : String) (f : SourceFault) :
    e.tree code = .error f ↔ (e.parse code).hasFault = true
      ∧ f = SourceFault.ofTree (.ofText code) (e.parse code) := by
  rw [Engine.tree, checkTree]
  cases (e.parse code).hasFault with
  | false => simp
  | true => simp [eq_comm]

/-- A source whose tree is rejected declares nothing, and one whose tree is not is analysed. -/
lemma Engine.analyze_eq_error_iff (e : Engine) (code : String) (f : SourceFault) :
    e.analyze code = .error f ↔ e.tree code = .error f := by
  cases htree : e.tree code with
  | error g => simp [Engine.analyze, htree, bind, Except.bind]
  | ok root => simp [Engine.analyze, htree, bind, Except.bind, pure, Except.pure]

/-- Files are drafted for a source exactly if it is analysed. -/
lemma Engine.files_eq_error_iff (e : Engine) (code : String) (f : SourceFault) :
    e.files code = .error f ↔ e.analyze code = .error f := by
  cases hunit : e.analyze code with
  | error g => simp [Engine.files, hunit, bind, Except.bind]
  | ok unit => simp [Engine.files, hunit, bind, Except.bind, pure, Except.pure]

/-- If each node of its tree derives what it says about faults, a source is rejected exactly if some
node marks one, and then with the fault of the first node in document order that does. Its analysis
and the drafting of its fixtures end with the same fault, and else with none. -/
theorem rejected_at_first_fault (e : Engine) (code : String)
    (hderived : ∀ v ∈ Node.visits [] (e.parse code), v.node.DerivesFaults) :
    ((∃ f, e.tree code = .error f)
        ↔ ∃ v ∈ Node.visits [] (e.parse code), v.node.kind = .fault ∨ v.node.label.missing = true)
      ∧ (∀ f, e.tree code = .error f → f.IsOfFirst (.ofText code) (e.parse code))
      ∧ (∀ f, e.analyze code = .error f ↔ e.tree code = .error f)
      ∧ ∀ f, (e.files code).map namedCode = .error f ↔ e.tree code = .error f := by
  have hroot := Node.hasFault_eq_any (e.parse code) [] hderived
  refine ⟨?_, ?_, e.analyze_eq_error_iff code, ?_⟩
  · have hfault : (∃ f, e.tree code = .error f) ↔ (e.parse code).hasFault = true := by
      simp only [Engine.tree_eq_error_iff, exists_and_left, exists_eq, and_true]
    rw [hfault, hroot, List.any_eq_true]
    simp only [Node.isFault, Bool.or_eq_true, beq_iff_eq]
  · intro f hf
    obtain ⟨hfault, rfl⟩ := (e.tree_eq_error_iff code f).mp hf
    rw [hroot] at hfault
    exact SourceFault.isOfFirst_ofTree _ hfault
  · intro f
    rw [← e.analyze_eq_error_iff, ← e.files_eq_error_iff]
    cases e.files code with
    | error g => simp [Except.map]
    | ok files => simp [Except.map]

/-- A token is missing deep in the first branch of a tree, and the branch beside it reads as nothing:
it is the missing token on the second line that is reported. -/
theorem rejected_at_missing_token :
    let gap := Node.node { kind := .other ";", start := 12, stop := 12, missing := true } []
    let field := Node.node { kind := .other "field_declaration", start := 10, stop := 12 }
      [Node.node { kind := .identifier, start := 10, stop := 12 } [], gap]
    let junk := Node.node { kind := .fault, start := 13, stop := 14 } []
    let root := Node.node { kind := .other "compilation_unit", start := 0, stop := 14 } [field, junk]
    let e : Engine := { parse := fun _ => root }
    (∀ v ∈ Node.visits [] root, v.node.DerivesFaults)
      ∧ ∃ f, e.tree "class A \n ab ?" = .error f ∧ f.IsOfFirst (.ofText "class A \n ab ?") root
        ∧ f.message = "Missing token in C# source (line 2, column 4)" := by
  intro gap field junk root e
  have hunflagged : ∀ v ∈ Node.visits [] root, v.node.label.flagged = none := by decide +kernel
  have hderived : ∀ v ∈ Node.visits [] root, v.node.DerivesFaults := by
    intro v hv
    exact Node.derivesFaults_of_unflagged (hunflagged v hv)
  obtain ⟨hrejected, hfirst, -⟩ := rejected_at_first_fault e "class A \n ab ?" hderived
  have hfault : ∃ v ∈ Node.visits [] root, v.node.kind = .fault ∨ v.node.label.missing = true := by
    decide +kernel
  obtain ⟨f, hf⟩ := hrejected.mpr hfault
  refine ⟨hderived, f, hf, hfirst f hf, ?_⟩
  obtain ⟨-, rfl⟩ := (e.tree_eq_error_iff _ f).mp hf
  decide +kernel

end FixtureDraft
