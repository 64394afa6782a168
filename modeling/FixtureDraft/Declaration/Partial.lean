import FixtureDraft.Declaration.Basic

/-!
# Partial classes

The parts of a partial class become one class, in the place of its first part. Parts belong
together if they have the same name in the same namespaces; nested classes are never joined.
-/

namespace FixtureDraft

namespace ClassDeclaration

/-- Whether the class is a part that others may join. -/
def isPart (c : ClassDeclaration) : Bool := c.isPartial && !c.nested

/-- Whether `c` and `d` are parts of one class. -/
def samePart (c d : ClassDeclaration) : Bool :=
  c.isPart && d.isPart && c.namespaces == d.namespaces && c.name == d.name

/-- The class made of `c` and the members of a further part `d`. The modifiers of both are
united; all else is that of `c`. -/
def join (c d : ClassDeclaration) : ClassDeclaration :=
  { c with
    constructors := c.constructors ++ d.constructors
    methods := c.methods ++ d.methods
    modifiers := c.modifiers ++ d.modifiers.filter fun m => !c.modifiers.contains m }

end ClassDeclaration

/-- Adds a class behind others: to the first of them that it is a part of, or at the end. -/
def addPart (d : ClassDeclaration) : List ClassDeclaration → List ClassDeclaration
  | [] => [d]
  | c :: cs => if c.samePart d then c.join d :: cs else c :: addPart d cs

/-- The classes with the parts of each partial class joined. -/
def mergeParts (cs : List ClassDeclaration) : List ClassDeclaration :=
  cs.foldl (fun merged c => addPart c merged) []

end FixtureDraft
