import FixtureDraft.Text.Lowercase

/-!
# Names of fixtures

Names that a fixture needs, made from the names of a class and its members. `freeName` is a name
itself while it is free, and else the name with the least number behind it, from two on, that
is free. Reserving names one after another never gives one name twice.
-/

namespace FixtureDraft

/-- The name with a number behind it. -/
def numbered (name : String) (k : Nat) : String := name ++ toString k

/-- `name`, if it is not taken; else the first of `name2`, `name3`, … that is not. As many
candidates as there are taken names are enough, since one of these is `name`. -/
def freeName (name : String) (taken : List String) : String :=
  if taken.contains name then
    match (List.range' 2 taken.length).find? fun k => !taken.contains (numbered name k) with
    | some k => numbered name k
    | none => numbered name (taken.length + 2)
  else name

/-- A name that is free, and the taken names with it. -/
def reserve (name : String) (taken : List String) : String × List String :=
  let free := freeName name taken
  (free, free :: taken)

/-- Free names for all of `names` in turn, each taken from then on. -/
def reserveAll : (names taken : List String) → List String
  | [], _ => []
  | name :: names, taken =>
    let (free, taken) := reserve name taken
    free :: reserveAll names taken

/-! ## Tests and fields -/

/-- The names wanted for the tests of a run of methods of one name: a number tells several
of them apart. -/
def wantedTestNames (run : List String) : List String :=
  match run with
  | [name] => [name ++ "Test"]
  | _ => run.zipIdx.map fun (name, i) => numbered name i ++ "Test"

/-- The names of the tests for methods of the given names. Only neighbours count as a run. -/
def testNames (methods : List String) : List String :=
  reserveAll ((methods.splitBy (· == ·)).flatMap wantedTestNames) []

/-- The field that holds the instance under test. -/
def instanceField (className : String) : String :=
  match className.toList with
  | [] => "_"
  | c :: cs => String.ofList ('_' :: Text.lowercase c ++ cs)

/-- The namespaces of the fixture of a class: the innermost one is marked. -/
def fixtureNamespaces : List String → List String
  | [] => []
  | [n] => [n ++ ".Tests"]
  | n :: ns => n :: fixtureNamespaces ns

end FixtureDraft
