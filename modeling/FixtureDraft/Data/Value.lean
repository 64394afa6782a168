import FixtureDraft.Text.Quoted

/-!
# Values

The values that requests bring and reports give back, and their two written forms: `shown` puts
a value into a message, `json` writes it as a JSON text of several lines, in ASCII only.
-/

namespace FixtureDraft.Data

open FixtureDraft.Text

/-- A value. A decimal is `digits` with the last `places` of them behind the point. -/
inductive Value
  | null
  | truth (b : Bool)
  | integer (n : Int)
  | decimal (digits : Int) (places : Nat)
  | text (s : String)
  | array (items : List Value)
  | object (members : List (String × Value))
deriving Repr, Inhabited

namespace Value

/-! ## Decimals -/

/-- Drops zeros at the end of a list of digits. -/
def dropZeros (digits : List Char) : List Char :=
  (digits.reverse.dropWhile (· == '0')).reverse

/-- A power of ten as it is shown: a sign, and at least two digits. -/
def exponentShown (e : Int) : List Char :=
  let digits := (toString e.natAbs).toList
  let sign := if e < 0 then '-' else '+'
  'e' :: sign :: (if digits.length < 2 then '0' :: digits else digits)

/-- A number of the significant digits `d :: ds` whose point stands behind the first `point` of
them; a point outside the digits is reached over zeros. -/
def pointShown (d : Char) (ds : List Char) (point : Int) : List Char :=
  if point ≤ 0 then '0' :: '.' :: List.replicate (-point).toNat '0' ++ d :: ds
  else
    let whole := (d :: ds).take point.toNat
    let rest := (d :: ds).drop point.toNat
    whole ++ List.replicate (point.toNat - whole.length) '0'
      ++ '.' :: (if rest.isEmpty then ['0'] else rest)

/-- The shown form of the significant digits `d :: ds` with the point behind the first `point`
of them. Very large and very small numbers are shown with a power of ten. -/
def magnitudeShown (d : Char) (ds : List Char) (point : Int) : List Char :=
  if -4 < point && point ≤ 16 then pointShown d ds point
  else if ds.isEmpty then d :: exponentShown (point - 1)
  else d :: '.' :: ds ++ exponentShown (point - 1)

/-- A decimal with the digits it has, zeros at the end aside. -/
def decimalShown (digits : Int) (places : Nat) : String :=
  let all := (toString digits.natAbs).toList
  let magnitude :=
    match dropZeros all with
    | [] => ['0', '.', '0']
    | d :: ds => magnitudeShown d ds ((all.length : Int) - places)
  String.ofList (if digits < 0 then '-' :: magnitude else magnitude)

/-! ## Values in messages -/

mutual

/-- A value as it is shown in a message. -/
def shown : Value → String
  | null => "None"
  | truth true => "True"
  | truth false => "False"
  | integer n => toString n
  | decimal digits places => decimalShown digits places
  | text s => quote s
  | array items => "[" ++ shownItems items ++ "]"
  | object members => "\x7b" ++ shownMembers members ++ "\x7d"

/-- Values with commas between. -/
def shownItems : List Value → String
  | [] => ""
  | [v] => v.shown
  | v :: vs => v.shown ++ ", " ++ shownItems vs

/-- Named values with commas between. -/
def shownMembers : List (String × Value) → String
  | [] => ""
  | [(key, v)] => quote key ++ ": " ++ v.shown
  | (key, v) :: members => quote key ++ ": " ++ v.shown ++ ", " ++ shownMembers members

end

/-! ## JSON -/

/-- A unit of UTF-16 as an escape. -/
def unitEscape (n : Nat) : List Char := '\\' :: 'u' :: hexDigits 4 n

/-- How a character is written inside quotation marks. A character beyond the first plane is
written as its two surrogates. -/
def jsonChar (c : Char) : List Char :=
  if c = '"' || c = '\\' then ['\\', c]
  else if c = '\n' then ['\\', 'n']
  else if c = '\r' then ['\\', 'r']
  else if c = '\t' then ['\\', 't']
  else if c = '\x08' then ['\\', 'b']
  else if c = '\x0c' then ['\\', 'f']
  else if 0x20 ≤ c.toNat && c.toNat < 0x7f then [c]
  else if c.toNat < 0x10000 then unitEscape c.toNat
  else
    let n := c.toNat - 0x10000
    unitEscape (0xd800 + n / 0x400) ++ unitEscape (0xdc00 + n % 0x400)

/-- A text between quotation marks. -/
def jsonText (s : String) : String :=
  String.ofList ('"' :: s.toList.flatMap jsonChar ++ ['"'])

/-- A new line at the given depth. -/
def newLine (depth : Nat) : String :=
  String.ofList ('\n' :: List.replicate (2 * depth) ' ')

/-- Parts between brackets at the given depth, each on a line of its own. -/
def enclosed (depth : Nat) (opening closing : String) (parts : List String) : String :=
  if parts.isEmpty then opening ++ closing
  else
    opening ++ ",".intercalate (parts.map (newLine (depth + 1) ++ ·)) ++ newLine depth ++ closing

mutual

/-- A value at the given depth as JSON, an item or a member to a line. -/
def jsonAt (depth : Nat) : Value → String
  | null => "null"
  | truth true => "true"
  | truth false => "false"
  | integer n => toString n
  | decimal digits places => decimalShown digits places
  | text s => jsonText s
  | array items => enclosed depth "[" "]" (jsonItems (depth + 1) items)
  | object members => enclosed depth "\x7b" "\x7d" (jsonMembers (depth + 1) members)

/-- The items of an array. -/
def jsonItems (depth : Nat) : List Value → List String
  | [] => []
  | v :: vs => jsonAt depth v :: jsonItems depth vs

/-- The members of an object. -/
def jsonMembers (depth : Nat) : List (String × Value) → List String
  | [] => []
  | (key, v) :: members => (jsonText key ++ ": " ++ jsonAt depth v) :: jsonMembers depth members

end

/-- The value as a JSON text. -/
def json (v : Value) : String := v.jsonAt 0

/-! ## Access -/

/-- The value of a member of an object. -/
def member? (key : String) : Value → Option Value
  | object members => members.lookup key
  | _ => none

/-- The text that a value is, if it is one. -/
def text? : Value → Option String
  | text s => some s
  | _ => none

/-- The texts in an array. -/
def texts? : Value → Option (List String)
  | array items => some (items.filterMap text?)
  | _ => none

/-- Whether a value means yes: zero, nothing and what is empty mean no. -/
def isYes : Value → Bool
  | null => false
  | truth b => b
  | integer n => n != 0
  | decimal digits _ => digits != 0
  | text s => s != ""
  | array items => !items.isEmpty
  | object members => !members.isEmpty

/-- A list of texts. -/
def texts (ss : List String) : Value := array (ss.map text)

end Value

end FixtureDraft.Data
