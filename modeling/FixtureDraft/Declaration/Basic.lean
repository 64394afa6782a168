/-!
# Declared classes

What a source declares, as far as fixtures need it: its using directives and its classes with
their constructors and methods. Types, modifiers and names are kept as they are written.
-/

namespace FixtureDraft

/-- How an argument is passed, if not by value. The word is repeated where the call is made. -/
inductive Passing
  | byRef
  | byOut
  | byIn
deriving DecidableEq, Repr

namespace Passing

/-- The word for it. -/
def word : Passing → String
  | byRef => "ref"
  | byOut => "out"
  | byIn => "in"

/-- The way of passing that a word says. -/
def ofWord? (w : String) : Option Passing :=
  [byRef, byOut, byIn].find? (·.word == w)

theorem ofWord?_word (p : Passing) : ofWord? p.word = some p := by
  cases p <;> decide

/-- An expression as an argument that is passed so. -/
def argument (p : Option Passing) (expression : String) : String :=
  match p with
  | some p => p.word ++ " " ++ expression
  | none => expression

/-- How an argument is spelled that is passed so, with each word written out. -/
def spelled : Option Passing → String → String
  | none, expression => expression
  | some byRef, expression => "ref " ++ expression
  | some byOut, expression => "out " ++ expression
  | some byIn, expression => "in " ++ expression

theorem spelled_eq_argument : spelled = argument := by
  funext p expression
  obtain _ | p := p
  · rfl
  · cases p
    all_goals
      refine congrArg (· ++ expression) ?_
      decide

end Passing

/-- A parameter of a constructor or a method. -/
structure Parameter where
  name : String
  type : String
  passing : Option Passing := none
deriving DecidableEq, Repr

namespace Parameter

/-- The argument that passes on a local of the parameter's name. -/
def argument (p : Parameter) : String :=
  Passing.argument p.passing p.name

end Parameter

/-- A constructor. -/
structure Constructor where
  parameters : List Parameter := []
  modifiers : List String := []
  line : Nat := 0
deriving DecidableEq, Repr, Inhabited

/-- A method. -/
structure Method where
  name : String
  parameters : List Parameter := []
  returns : String := "void"
  modifiers : List String := []
  line : Nat := 0
deriving DecidableEq, Repr

namespace Method

/-- Whether the method returns nothing. -/
def isVoid (m : Method) : Bool := m.returns == "void"

/-- Whether the method is called on the class. -/
def isStatic (m : Method) : Bool := m.modifiers.contains "static"

/-- Whether the method is public. -/
def isPublic (m : Method) : Bool := m.modifiers.contains "public"

/-- The order of methods in a fixture: by name, code point by code point. -/
def nameLE (m n : Method) : Bool := decide (m.name ≤ n.name)

end Method

/-- A class. `namespaces` holds the names of the namespaces around it, the outermost first; a
nested class is declared inside another type. -/
structure ClassDeclaration where
  name : String
  constructors : List Constructor := []
  methods : List Method := []
  modifiers : List String := []
  namespaces : List String := []
  nested : Bool := false
  line : Nat := 0
deriving DecidableEq, Repr

namespace ClassDeclaration

/-- Whether the class is public. -/
def isPublic (c : ClassDeclaration) : Bool := c.modifiers.contains "public"

/-- Whether the class may have further parts. -/
def isPartial (c : ClassDeclaration) : Bool := c.modifiers.contains "partial"

/-- Whether the class gets a fixture. -/
def qualifies (c : ClassDeclaration) : Bool := c.isPublic && !c.nested

/-- The one of two constructors with fewer parameters; the first one, if they have equally
many. -/
def simpler (a b : Constructor) : Constructor :=
  if b.parameters.length < a.parameters.length then b else a

/-- The constructor that a fixture calls: the first one with the fewest parameters. A class
without constructors has one without parameters. -/
def primaryConstructor (c : ClassDeclaration) : Constructor :=
  match c.constructors with
  | [] => {}
  | k :: ks => ks.foldl simpler k

/-- The public methods by name; methods of one name keep their order. -/
def publicMethods (c : ClassDeclaration) : List Method :=
  (c.methods.filter Method.isPublic).mergeSort Method.nameLE

end ClassDeclaration

/-- All that one source declares. -/
structure SourceUnit where
  usings : List String := []
  classes : List ClassDeclaration := []
deriving DecidableEq, Repr

namespace SourceUnit

/-- The classes that get a fixture. -/
def qualifying (u : SourceUnit) : List ClassDeclaration :=
  u.classes.filter ClassDeclaration.qualifies

end SourceUnit

end FixtureDraft
