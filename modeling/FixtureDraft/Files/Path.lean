/-!
# Paths

A path in the file system, read from text: the steps between slashes, where empty steps and
points say nothing. A step up (`..`) is kept, for what it leads to depends on the files.
-/

namespace FixtureDraft.Files

/-- The steps of a text between slashes. -/
def splitSteps (text : String) : List String :=
  (text.toList.splitOn '/').map String.ofList

/-- A path. A rooted one starts at the root of the file system; `slashes` is the number of
slashes that it is written with at the start. -/
structure Path where
  slashes : Nat := 0
  steps : List String
deriving DecidableEq, Repr

namespace Path

/-- Whether a step between slashes leads somewhere. -/
def isStep (step : String) : Bool := step != "" && step != "."

/-- How many slashes the root of a text is written with. Two of them stay two; any other number
counts as one. -/
def rootSlashes (text : String) : Nat :=
  match (text.toList.takeWhile (· == '/')).length with
  | 0 => 0
  | 2 => 2
  | _ => 1

/-- The path that a text writes. -/
def ofText (text : String) : Path :=
  { slashes := rootSlashes text, steps := (splitSteps text).filter isStep }

/-- Whether the path starts at the root. -/
def rooted (p : Path) : Bool := p.slashes != 0

/-- The path as text. The path without steps is a point. -/
def text (p : Path) : String :=
  if p.slashes = 0 && p.steps.isEmpty then "."
  else String.ofList (List.replicate p.slashes '/') ++ "/".intercalate p.steps

/-- The path `q` seen from `p`. -/
def join (p q : Path) : Path :=
  if q.rooted then q else { p with steps := p.steps ++ q.steps }

/-- The path without its last step. -/
def parent (p : Path) : Path := { p with steps := p.steps.dropLast }

/-- The last step. -/
def name (p : Path) : String := p.steps.getLast?.getD ""

/-- The last point of the name with all that follows, where it neither begins nor ends the
name. -/
def suffix (p : Path) : String :=
  let name := p.name.toList
  let ending := (name.reverse.takeWhile (· != '.')).reverse
  if name.contains '.' && !ending.isEmpty && ending.length + 1 < name.length then
    String.ofList ('.' :: ending)
  else ""

end Path

end FixtureDraft.Files
