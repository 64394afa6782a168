import FixtureDraft.Files.Path
import FixtureDraft.Text.Quoted
import FixtureDraft.Text.Utf8

/-!
# A store of files

Folders and files by the steps that lead to them from the root. Paths that are not rooted start
at the home folder. A path is followed step by step, and every step but the last one has to
leave from a folder that is there.

What a program does to files is a function between stores: what fails says why, and what a
failure has already changed stays changed.
-/

namespace FixtureDraft.Files

open FixtureDraft.Text

/-- What stands at a place. -/
inductive Entry
  | folder
  | file (content : Bytes)
deriving DecidableEq, Repr

/-- Folders and files. The home folder and the folders around it are always there. There are no
permissions and no links: whatever stands at a place may be read and written, and stands at no other
place. -/
structure Store where
  home : List String := []
  entries : List (List String × Entry) := []
deriving DecidableEq, Repr

/-! ## Faults -/

/-- Why a path is refused. -/
inductive Refusal
  | notFound
  | alreadyThere
  | notFolder
  | isFolder
  | nameTooLong
deriving DecidableEq, Repr

namespace Refusal

/-- The number and the words for it. -/
def message : Refusal → String
  | notFound => "[Errno 2] No such file or directory"
  | alreadyThere => "[Errno 17] File exists"
  | notFolder => "[Errno 20] Not a directory"
  | isFolder => "[Errno 21] Is a directory"
  | nameTooLong => "[Errno 36] File name too long"

end Refusal

/-- A path that cannot be used: it is refused as it is written, or no path at all holds what it
holds. -/
inductive PathFault
  | refused (why : Refusal) (path : String)
  | nulByte
deriving DecidableEq, Repr

namespace PathFault

/-- The fault in one line. -/
def message : PathFault → String
  | refused why path => why.message ++ ": " ++ quote path
  | nulByte => "embedded null byte"

end PathFault

namespace Store

/-! ## Places -/

/-- What stands at a place. -/
def find? (s : Store) (place : List String) : Option Entry :=
  if place.isPrefixOf s.home then some .folder else s.entries.lookup place

/-- Puts something at a place, instead of what stands there. -/
def put (s : Store) (place : List String) (e : Entry) : Store :=
  { s with entries := (place, e) :: s.entries.filter (·.1 != place) }

theorem find?_put (s : Store) (place : List String) (e : Entry)
    (h : place.isPrefixOf s.home = false) : (s.put place e).find? place = some e := by
  simp [find?, put, h]

/-- The longest step in bytes. -/
def maxStep : Nat := 255

/-- The place that one step leads to. -/
def advance (place : List String) (step : String) : List String :=
  if step = "." then place
  else if step = ".." then place.dropLast
  else place ++ [step]

/-- The place that some steps lead to. The last one need not lead to anything that is there. -/
def follow (s : Store) (place : List String) : (steps : List String) →
    Except Refusal (List String)
  | [] => .ok place
  | step :: steps =>
    match s.find? place with
    | none => .error .notFound
    | some (.file _) => .error .notFolder
    | some .folder =>
      if maxStep < step.utf8ByteSize then .error .nameTooLong
      else follow s (advance place step) steps

/-- Where a path starts. -/
def origin (s : Store) (rooted : Bool) : List String :=
  if rooted then [] else s.home

/-- The place of a path. -/
def place (s : Store) (p : Path) : Except Refusal (List String) :=
  s.follow (s.origin p.rooted) p.steps

/-- The place that a text names. A slash at its end asks for a folder, and an empty text names
nothing. -/
def placeNamed (s : Store) (text : String) : Except Refusal (List String) :=
  let steps := (splitSteps text).filter (· != "")
  if text = "" then .error .notFound
  else s.follow (s.origin (text.startsWith "/"))
    (if text.endsWith "/" then steps ++ ["."] else steps)

/-! ## Questions -/

/-- What stands at the end of a path, if anything does. -/
def look (s : Store) (p : Path) : Except PathFault (Option Entry) :=
  if p.text.contains '\x00' then .ok none
  else
    match s.place p with
    | .ok place => .ok (s.find? place)
    | .error .notFound => .ok none
    | .error .notFolder => .ok none
    | .error why => .error (.refused why p.text)

/-- Whether a path leads to a folder. -/
def isFolder (s : Store) (p : Path) : Bool :=
  match s.look p with
  | .ok (some .folder) => true
  | _ => false

/-! ## Reading and writing -/

/-- The bytes at a place. -/
def bytesAt (s : Store) (place : List String) : Except Refusal Bytes :=
  match s.find? place with
  | some (.file content) => .ok content
  | some .folder => .error .isFolder
  | none => .error .notFound

/-- The bytes of the file that a text names. -/
def read (s : Store) (text : String) : Except PathFault Bytes :=
  if text.contains '\x00' then .error .nulByte
  else
    match s.placeNamed text with
    | .error why => .error (.refused why text)
    | .ok place => (s.bytesAt place).mapError (.refused · text)

/-- The store with a file written. -/
def write (s : Store) (p : Path) (content : Bytes) : Except PathFault Store :=
  if p.text.contains '\x00' then .error .nulByte
  else
    match s.place p with
    | .error why => .error (.refused why p.text)
    | .ok place =>
      match s.find? place with
      | some .folder => .error (.refused .isFolder p.text)
      | _ => .ok (s.put place (.file content))

/-- The store with a folder made in a folder that is there. -/
def makeFolder (s : Store) (p : Path) : Except PathFault Store :=
  if p.text.contains '\x00' then .error .nulByte
  else
    match s.place p with
    | .error why => .error (.refused why p.text)
    | .ok place =>
      match s.find? place with
      | some _ => .error (.refused .alreadyThere p.text)
      | none => .ok (s.put place .folder)

/-- Puts up with a folder that could not be made if there is one. -/
def unlessFolder (s : Store) (p : Path) (fault : PathFault) : Store × Option PathFault :=
  if fault != .nulByte && s.isFolder p then (s, none) else (s, some fault)

/-- Makes the folder whose steps are `back` in reverse, and first the folders around it if they
are not there. -/
def makeFoldersBack (slashes : Nat) : (back : List String) → (s : Store) →
    Store × Option PathFault
  | back, s =>
    let p : Path := ⟨slashes, back.reverse⟩
    match s.makeFolder p with
    | .ok s => (s, none)
    | .error (.refused .notFound _) =>
      match back with
      | [] => (s, some (.refused .notFound p.text))
      | _ :: around =>
        match makeFoldersBack slashes around s with
        | (s, some fault) => (s, some fault)
        | (s, none) =>
          match s.makeFolder p with
          | .ok s => (s, none)
          | .error (.refused .notFound _) => (s, some (.refused .notFound p.text))
          | .error fault => s.unlessFolder p fault
    | .error fault => s.unlessFolder p fault

/-- Makes a folder and the folders around it, where they are not there. -/
def makeFolders (s : Store) (p : Path) : Store × Option PathFault :=
  makeFoldersBack p.slashes p.steps.reverse s

end Store

/-! ## Text files -/

/-- Why a text file is not read. -/
inductive ReadFault
  | path (fault : PathFault)
  | notText (fault : Utf8Fault)
deriving DecidableEq, Repr

/-- The words for what is wrong with bytes. -/
def flawMessage : Utf8Flaw → String
  | .invalidStart => "invalid start byte"
  | .invalidContinuation => "invalid continuation byte"
  | .unexpectedEnd => "unexpected end of data"

/-- A fault of a byte text in one line. -/
def utf8Message (f : Utf8Fault) : String :=
  let place :=
    if f.width = 1 then
      s!"byte 0x{String.ofList (hexDigits 2 f.byte.toNat)} in position {f.position}"
    else s!"bytes in position {f.position}-{f.position + f.width - 1}"
  s!"'utf-8' codec can't decode {place}: {flawMessage f.flaw}"

namespace ReadFault

/-- The fault in one line. -/
def message : ReadFault → String
  | path fault => fault.message
  | notText fault => utf8Message fault

end ReadFault

/-- The text that bytes write, with every line end as a line feed. -/
def textOf (bytes : Bytes) : Except Utf8Fault String :=
  (decode bytes).map fun cs => String.ofList (joinLineEnds cs)

/-- The text of the file that `path` names. -/
def Store.readText (s : Store) (path : String) : Except ReadFault String :=
  match s.read path with
  | .error fault => .error (.path fault)
  | .ok bytes => (textOf bytes).mapError .notText

end FixtureDraft.Files
