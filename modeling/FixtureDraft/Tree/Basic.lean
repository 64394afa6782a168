/-!
# Syntax trees

A node has a kind, the field it fills in its parent, the bytes it spans and its children. The
kinds and fields that a reader of declarations looks for have a constructor each; all others
go by their names.

`Node.walk` lists a tree in document order, every node with its ancestors, by way of a stack
of nodes still to come.
-/

namespace FixtureDraft.Tree

/-- What a node stands for. -/
inductive Kind
  | fault
  | usingDirective
  | namespaceDeclaration
  | fileScopedNamespace
  | classDeclaration
  | structDeclaration
  | interfaceDeclaration
  | recordDeclaration
  | recordStructDeclaration
  | enumDeclaration
  | constructorDeclaration
  | methodDeclaration
  | parameter
  | parameterArray
  | parameterModifier
  | attributeList
  | modifier
  | identifier
  | comment
  | comma
  | openParenthesis
  | closeParenthesis
  | other (name : String)
deriving DecidableEq, Repr, Inhabited

namespace Kind

/-- The kind that goes by `name` in a written tree. -/
def ofName : String → Kind
  | "ERROR" => fault
  | "using_directive" => usingDirective
  | "namespace_declaration" => namespaceDeclaration
  | "file_scoped_namespace_declaration" => fileScopedNamespace
  | "class_declaration" => classDeclaration
  | "struct_declaration" => structDeclaration
  | "interface_declaration" => interfaceDeclaration
  | "record_declaration" => recordDeclaration
  | "record_struct_declaration" => recordStructDeclaration
  | "enum_declaration" => enumDeclaration
  | "constructor_declaration" => constructorDeclaration
  | "method_declaration" => methodDeclaration
  | "parameter" => parameter
  | "parameter_array" => parameterArray
  | "parameter_modifier" => parameterModifier
  | "attribute_list" => attributeList
  | "modifier" => modifier
  | "identifier" => identifier
  | "comment" => comment
  | "," => comma
  | "(" => openParenthesis
  | ")" => closeParenthesis
  | name => other name

/-- The kinds of nodes that name an enclosing namespace. -/
def isNamespace : Kind → Bool
  | namespaceDeclaration | fileScopedNamespace => true
  | _ => false

/-- The kinds of nodes inside which a type is nested. -/
def isTypeDeclaration : Kind → Bool
  | classDeclaration | structDeclaration | interfaceDeclaration | recordDeclaration
  | recordStructDeclaration | enumDeclaration => true
  | _ => false

end Kind

/-- The part that a child plays in its parent. -/
inductive Field
  | body
  | name
  | type
  | returns
  | parameters
  | other (name : String)
deriving DecidableEq, Repr, Inhabited

/-- The field that goes by `name` in a written tree. -/
def Field.ofName : String → Field
  | "body" => body
  | "name" => name
  | "type" => type
  | "returns" => returns
  | "parameters" => parameters
  | text => other text

/-- All that a node says about itself. `start` and `stop` count bytes. A missing node stands
for a token that should have been there. `flagged` overrules whether the tree below is faulty. -/
structure Label where
  kind : Kind
  field : Option Field := none
  start : Nat
  stop : Nat
  named : Bool := true
  missing : Bool := false
  flagged : Option Bool := none
deriving DecidableEq, Repr, Inhabited

/-- A node of a syntax tree with the nodes below it, in document order. -/
inductive Node
  | node (label : Label) (children : List Node)
deriving Repr, Inhabited

namespace Node

/-- What the node says about itself. -/
def label : Node → Label
  | node l _ => l

/-- The nodes directly below. -/
def children : Node → List Node
  | node _ cs => cs

/-- What the node stands for. -/
def kind (n : Node) : Kind := n.label.kind

/-- The part it plays in its parent. -/
def field (n : Node) : Option Field := n.label.field

/-- Its first byte. -/
def start (n : Node) : Nat := n.label.start

/-- The byte after its last one. -/
def stop (n : Node) : Nat := n.label.stop

/-- The first child that plays the part `f`. -/
def child? (n : Node) (f : Field) : Option Node :=
  n.children.find? (·.field == some f)

/-- Whether the node itself marks a fault: it reads as nothing, or its token is missing. -/
def isFault (n : Node) : Bool :=
  n.kind == .fault || n.label.missing

mutual

/-- The number of nodes of a tree, added to `k`. -/
def countOnto : Node → Nat → Nat
  | node _ cs, k => countAllOnto cs (k + 1)

/-- The number of nodes of some trees, added to `k`. -/
def countAllOnto : List Node → Nat → Nat
  | [], k => k
  | c :: cs, k => countAllOnto cs (c.countOnto k)

end

/-- The number of nodes of a tree. -/
def count (n : Node) : Nat := n.countOnto 0

mutual

/-- Whether the tree below is faulty: some node marks a fault, unless a flag above it says
otherwise. -/
def hasFault : Node → Bool
  | node l cs => l.flagged.getD (l.kind == .fault || l.missing || anyFault cs)

/-- Whether one of the trees is faulty. -/
def anyFault : List Node → Bool
  | [] => false
  | c :: cs => c.hasFault || anyFault cs

end

end Node

/-- A node met on a walk, with its ancestors from its parent up to the root. -/
structure Visit where
  node : Node
  ancestors : List Node

namespace Visit

/-- The nodes directly below, as they are met next. -/
def below (v : Visit) : List Visit :=
  v.node.children.map fun c => ⟨c, v.node :: v.ancestors⟩

end Visit

/-- Walks on from a stack of nodes still to come, for `fuel` steps: the node on top is met,
and its children take its place. `met` holds the nodes met before, the last one first. -/
def walkFrom : (fuel : Nat) → (stack met : List Visit) → List Visit
  | 0, _, met => met.reverse
  | _ + 1, [], met => met.reverse
  | fuel + 1, v :: stack, met => walkFrom fuel (v.below ++ stack) (v :: met)

/-- All nodes of a tree in document order. -/
def Node.walk (root : Node) : List Visit :=
  walkFrom root.count [⟨root, []⟩] []

end FixtureDraft.Tree
