import FixtureDraft.Declaration.Reader
import FixtureDraft.Fixture.Draft
import FixtureDraft.Grammar.Parse

/-!
# From a source text to its fixtures

A source is analysed only if its syntax tree is free of faults. Which parser makes the tree, and
what is mocked, is up to the engine; the usual engine has the grammar's parser and mocks what is
conventionally an interface.
-/

namespace FixtureDraft

open FixtureDraft.Tree

/-- Why a source is not analysed, and where it went wrong. -/
structure SourceFault where
  summary : String
  line : Option Nat := none
  column : Option Nat := none
deriving DecidableEq, Repr

namespace SourceFault

/-- A coordinate as it is shown. -/
def coordinate : Option Nat → String
  | some n => toString n
  | none => "None"

/-- The fault in one line. The place is left out if there is no line. -/
def message (f : SourceFault) : String :=
  match f.line with
  | some _ => s!"{f.summary} (line {coordinate f.line}, column {coordinate f.column})"
  | none => f.summary

/-- The fault that a node marks. -/
def ofNode (s : Source) (n : Node) : SourceFault :=
  { summary := (if n.label.missing then "Missing token" else "Syntax error") ++ " in C# source"
    line := some (s.line n.start)
    column := some (s.column n.start) }

/-- The fault of a faulty tree: that of the first node that marks one. -/
def ofTree (s : Source) (root : Node) : SourceFault :=
  match root.walk.find? (·.node.isFault) with
  | some v => ofNode s v.node
  | none => { summary := "Syntax error in C# source" }

end SourceFault

/-- The tree of a source, if it is free of faults. -/
def checkTree (s : Source) (root : Node) : Except SourceFault Node :=
  if root.hasFault then .error (.ofTree s root) else .ok root

/-- What turns source texts into fixtures. -/
structure Engine where
  parse : String → Node := Grammar.parse
  rule : MockRule := MockRule.usual

namespace Engine

/-- The tree of a source text without faults. -/
def tree (e : Engine) (code : String) : Except SourceFault Node :=
  checkTree (.ofText code) (e.parse code)

/-- What a source text declares. -/
def analyze (e : Engine) (code : String) : Except SourceFault SourceUnit := do
  let root ← e.tree code
  return Reader.unitOf (.ofText code) root

/-- The fixtures for a source text. -/
def files (e : Engine) (code : String) : Except SourceFault (List FixtureFile) := do
  let unit ← e.analyze code
  return draftFiles e.rule unit

end Engine

/-- The name of each file with its text. -/
def namedCode (files : List FixtureFile) : List (String × String) :=
  files.map fun f => (f.qualifiedName, f.code)

end FixtureDraft
