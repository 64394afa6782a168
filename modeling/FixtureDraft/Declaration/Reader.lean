import FixtureDraft.Declaration.Partial
import FixtureDraft.Text.Blank
import FixtureDraft.Tree.Source

/-!
# Declarations in a syntax tree

Reads using directives and classes off a tree. Trees of several grammars are understood: a
collecting parameter may be a node or lie open in its list, a passing word may be a node or
part of the type, and a file-scoped namespace may hold its types or stand before them.
-/

namespace FixtureDraft.Reader

open FixtureDraft.Text
open FixtureDraft.Tree

variable (s : Source)

/-- The name of a declaration. Blanks around the points of a name are no part of it. -/
def nameOf (n : Node) : String :=
  match n.child? .name with
  | some m => withoutBlanks (s.text m)
  | none => ""

/-- The modifiers right below a declaration. -/
def modifiersOf (n : Node) : List String :=
  (n.children.filter (·.kind == .modifier)).map s.text

/-! ## Parameters -/

/-- The nodes of one parameter, and which of them are its type and its name. -/
structure Parts where
  members : List Node
  type? : Option Nat
  name? : Option Nat

namespace Parts

/-- The parts of a parameter between two commas. A node of its own says which part is which. -/
def ofSegment (segment : List Node) : Parts :=
  match segment with
  | [p] =>
    if p.kind == .parameter || p.kind == .parameterArray then
      ⟨p.children, p.children.findIdx? (·.field == some .type),
        p.children.findIdx? (·.field == some .name)⟩
    else ⟨segment, none, none⟩
  | _ => ⟨segment, none, none⟩

/-- The kinds of nodes that are never a type. -/
def isUntyped : Kind → Bool
  | .attributeList | .modifier | .parameterModifier | .identifier => true
  | _ => false

/-- The place of the name: where the parameter says, or that of the last identifier. -/
def nameAt (p : Parts) : Option Nat :=
  p.name? <|> ((p.members.zipIdx.filter (·.1.kind == .identifier)).getLast?.map (·.2))

/-- The place of the type: where the parameter says, or that of the first node that may be
one. -/
def typeAt (p : Parts) : Option Nat :=
  p.type? <|> ((p.members.zipIdx.find? fun (m, i) =>
    m.label.named && some i != p.nameAt && !isUntyped m.kind).map (·.2))

/-- How the parameter is passed, as the last of its other nodes says that is a passing word. -/
def passing (p : Parts) : Option Passing :=
  let others := p.members.zipIdx.filter fun (_, i) => some i != p.typeAt && some i != p.nameAt
  (others.filterMap fun (m, _) => Passing.ofWord? (s.text m)).getLast?

end Parts

/-- A type text apart from a passing word before it. -/
def splitPassing (type : String) : Option Passing × String :=
  let cs := type.toList
  let head := cs.takeWhile (· != ' ')
  let rest := (cs.dropWhile (· != ' ')).drop 1
  match Passing.ofWord? (String.ofList head) with
  | some p => if rest.isEmpty then (none, type) else (some p, String.ofList rest)
  | none => (none, type)

/-- The parameter with these parts, if it has a name. -/
def parameter? (p : Parts) : Option Parameter := do
  let name ← p.nameAt.bind (p.members[·]?)
  let written := match p.typeAt.bind (p.members[·]?) with
    | some t => squash (s.text t)
    | none => "var"
  let (word, type) := splitPassing written
  return { name := s.text name, type, passing := word <|> p.passing s }

/-- The nodes between commas. -/
def splitAtCommas : List Node → List (List Node)
  | [] => [[]]
  | c :: cs =>
    if c.kind == .comma then [] :: splitAtCommas cs
    else
      match splitAtCommas cs with
      | segment :: more => (c :: segment) :: more
      | [] => [[c]]

/-- The nodes of each parameter of a list. Parentheses and comments belong to none. -/
def segments (children : List Node) : List (List Node) :=
  (splitAtCommas (children.filter fun c =>
    !(c.kind == .openParenthesis || c.kind == .closeParenthesis || c.kind == .comment))).filter
    (!·.isEmpty)

/-- The parameters of a constructor or a method. -/
def parametersOf (n : Node) : List Parameter :=
  match n.child? .parameters with
  | some list => (segments list.children).filterMap fun g => parameter? s (Parts.ofSegment g)
  | none => []

/-! ## Members and classes -/

/-- A constructor. -/
def constructorOf (n : Node) : Constructor :=
  { parameters := parametersOf s n, modifiers := modifiersOf s n, line := s.line n.start }

/-- A method. Some grammars call the part that is its return type just a type. -/
def methodOf (n : Node) : Method :=
  { name := nameOf s n
    parameters := parametersOf s n
    returns := match n.child? .returns <|> n.child? .type with
      | some t => squash (s.text t)
      | none => "void"
    modifiers := modifiersOf s n
    line := s.line n.start }

/-- The members right below the body of a class. -/
def membersOf (n : Node) : List Node :=
  match n.child? .body with
  | some body => body.children.filter (·.label.named)
  | none => []

/-- The namespaces around a node that was met on a walk from `root`, the outermost first. A
file-scoped namespace that stands before the node, and not around it, is the outermost. -/
def namespacesOf (root : Node) (v : Visit) : List String :=
  let around := v.ancestors.filter (·.kind.isNamespace)
  let before :=
    if around.any (·.kind == .fileScopedNamespace) then none
    else root.children.find? fun c =>
      c.kind == .fileScopedNamespace && decide (c.start < v.node.start)
  (around ++ before.toList).reverse.map (nameOf s)

/-- A class that was met on a walk from `root`. Static constructors do not count. -/
def classOf (root : Node) (v : Visit) : ClassDeclaration :=
  let members := membersOf v.node
  { name := nameOf s v.node
    constructors := ((members.filter (·.kind == .constructorDeclaration)).map
      (constructorOf s)).filter fun k => !k.modifiers.contains "static"
    methods := (members.filter (·.kind == .methodDeclaration)).map (methodOf s)
    modifiers := modifiersOf s v.node
    namespaces := namespacesOf s root v
    nested := v.ancestors.any (·.kind.isTypeDeclaration)
    line := s.line v.node.start }

/-! ## Whole trees -/

/-- The using directives of a tree in document order. -/
def usingsOf (root : Node) : List String :=
  (root.walk.filter (·.node.kind == .usingDirective)).map fun v => squash (s.text v.node)

/-- The classes of a tree in document order, nested ones too. -/
def classesOf (root : Node) : List ClassDeclaration :=
  (root.walk.filter (·.node.kind == .classDeclaration)).map (classOf s root)

/-- All that a tree declares, with the parts of partial classes joined. -/
def unitOf (root : Node) : SourceUnit :=
  { usings := usingsOf s root, classes := mergeParts (classesOf s root) }

end FixtureDraft.Reader
