import FixtureDraft.Text.Blank
import FixtureDraft.Text.Uppercase

/-!
# Which dependencies are mocked

The decision is made on the text of a type alone. By convention an interface has a marker and
then an upper-case letter at the start of its name, whatever namespace qualifies the name and
whatever its type arguments are.
-/

namespace FixtureDraft

open FixtureDraft.Text

/-- Decides from the text of a type whether a mock takes its place. -/
abbrev MockRule := String → Bool

/-- The characters outside angle brackets, behind `depth` open ones. -/
def outsideAngles (depth : Int) : List Char → List Char
  | [] => []
  | '<' :: cs => outsideAngles (depth + 1) cs
  | '>' :: cs => outsideAngles (depth - 1) cs
  | c :: cs => if depth = 0 then c :: outsideAngles depth cs else outsideAngles depth cs

/-- The characters before the first two colons in a row. -/
def beforeColons : List Char → List Char
  | ':' :: ':' :: _ => []
  | c :: cs => c :: beforeColons cs
  | [] => []

/-- What follows the last two colons in a row. -/
def afterAlias (cs : List Char) : List Char :=
  (beforeColons cs.reverse).reverse

/-- What follows the last point. -/
def afterPoint (cs : List Char) : List Char :=
  (cs.reverse.takeWhile (· != '.')).reverse

/-- The last identifier of a type name, without type arguments, qualification and the marks
of a nullable type. -/
def baseTypeName (type : String) : String :=
  let name := trim (outsideAngles 0 type.toList)
  let name := (name.reverse.dropWhile (· == '?')).reverse
  String.ofList (afterPoint (afterAlias name))

/-- Whether a type is conventionally an interface: the marker and an upper-case character
begin its name. Arrays and tuples are none. -/
def isInterface (marker type : String) : Bool :=
  let name := (baseTypeName type).toList
  !name.contains '[' && !name.contains '(' && marker.toList.isPrefixOf name
    && ((name.drop marker.toList.length).head?.any isUppercase)

/-- The usual rule: interfaces are marked by `I`. -/
def MockRule.usual : MockRule := isInterface "I"

end FixtureDraft
