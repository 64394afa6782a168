import FixtureDraft.Text.Numeral
import FixtureDraft.Text.Quoted

/-!
# Arguments of the command line

Five positional arguments, and two switches that may stand anywhere between them. A switch may
be shortened as long as it stays clear which one is meant, and short switches may share one
dash. Behind a lone `--` nothing is a switch. Negative numbers are no switches either.

The arguments are sorted into words first. The words are then read from left to right, and the
first thing that is wrong ends the reading; what is missing or too much counts last.
-/

namespace FixtureDraft.CommandLine

open FixtureDraft.Text

/-- A positional argument. -/
inductive Positional
  | paths
  | outputDir
  | readWorkers
  | generateWorkers
  | writeWorkers
deriving DecidableEq, Repr

namespace Positional

/-- The name that users see. -/
def name : Positional → String
  | paths => "paths"
  | outputDir => "output_dir"
  | readWorkers => "read_workers"
  | generateWorkers => "generate_workers"
  | writeWorkers => "write_workers"

/-- All positional arguments, in their order. -/
def all : List Positional := [paths, outputDir, readWorkers, generateWorkers, writeWorkers]

end Positional

/-- A switch. -/
inductive Switch
  | help
  | verbose
deriving DecidableEq, Repr

namespace Switch

/-- The letter behind one dash. -/
def letter : Switch → Char
  | help => 'h'
  | verbose => 'v'

/-- The name behind two dashes. -/
def longName : Switch → String
  | help => "--help"
  | verbose => "--verbose"

/-- The name behind one dash. -/
def shortName (s : Switch) : String := String.ofList ['-', s.letter]

/-- Both names, as complaints show them. -/
def title (s : Switch) : String := s.shortName ++ "/" ++ s.longName

/-- All switches. -/
def all : List Switch := [help, verbose]

/-- The switch of a letter. -/
def ofLetter? (c : Char) : Option Switch := all.find? (·.letter == c)

/-- The switch of a full name. -/
def ofName? (name : String) : Option Switch :=
  all.find? fun s => s.shortName == name || s.longName == name

end Switch

/-- What the arguments say. A positional argument is nothing if a second `--` stands in its
place. -/
structure Arguments where
  paths : Option String := none
  outputDir : Option String := none
  readWorkers : Option Int := none
  generateWorkers : Option Int := none
  writeWorkers : Option Int := none
  verbose : Bool := false
deriving DecidableEq, Repr

/-- Why there are no arguments to go by: help is asked for, or they are used wrongly. -/
inductive Stop
  | help
  | usage (message : String)
deriving DecidableEq, Repr

/-! ## Numbers of workers -/

/-- A number of workers, or a complaint. -/
def parallelism (text : String) : Except String Int :=
  match integer? text with
  | none => .error s!"parallelism must be an integer (got {quote text})"
  | some n =>
    if n < 1 then .error s!"parallelism must be at least 1 (got {n})" else .ok n

/-- The paths between bars, without the blank ones. -/
def splitPaths (text : String) : List String :=
  ((text.toList.splitOn '|').map String.ofList).filter (!isBlankText ·)

/-! ## Words -/

/-- An argument, sorted. A switch knows what an equals sign attached to it; a cluster is a short
switch with more letters right behind it. -/
inductive Word
  | text (s : String)
  | separator
  | switch (s : Switch) (attached : Option String)
  | cluster (s : Switch) (more : List Char)
  | unknown (s : String)
deriving DecidableEq, Repr

/-- Whether all of one or more characters are decimal digits. -/
def allDigits (cs : List Char) : Bool :=
  !cs.isEmpty && cs.all fun c => (digitValue? c).isSome

/-- A line without its end. -/
def dropLineEnd (cs : List Char) : List Char :=
  if cs.getLast? = some '\n' then cs.dropLast else cs

/-- Whether an argument is a negative number: digits, and perhaps a point that digits follow. -/
def isNegativeNumber (cs : List Char) : Bool :=
  match dropLineEnd cs with
  | '-' :: cs =>
    let whole := cs.takeWhile (· != '.')
    match cs.drop whole.length with
    | [] => allDigits whole
    | _ :: fraction => (whole.isEmpty || allDigits whole) && allDigits fraction
  | _ => false

/-- An argument before its first equals sign, and what is attached behind it. -/
def splitAttached (arg : String) : String × Option String :=
  let cs := arg.toList
  let name := cs.takeWhile (· != '=')
  (String.ofList name,
    if cs.contains '=' then some (String.ofList (cs.drop (name.length + 1))) else none)

/-- An argument that is no switch. A blank inside makes it a text. -/
def noSwitch (arg : String) : Word :=
  if isNegativeNumber arg.toList || arg.contains ' ' then .text arg else .unknown arg

/-- Sorts an argument with two dashes that is no full name of a switch. -/
def sortLong (arg : String) : Except Stop Word :=
  let (start, attached) := splitAttached arg
  match Switch.all.filter (·.longName.startsWith start) with
  | [s] => .ok (.switch s attached)
  | [] => .ok (noSwitch arg)
  | several =>
    let names := ", ".intercalate (several.map Switch.longName)
    .error (.usage s!"ambiguous option: {arg} could match {names}")

/-- Sorts an argument that stands before any separator. -/
def sortArgument (arg : String) : Except Stop Word :=
  match arg.toList with
  | '-' :: c :: cs =>
    let (name, attached) := splitAttached arg
    match Switch.ofName? arg, attached, Switch.ofName? name with
    | some s, _, _ => .ok (.switch s none)
    | none, some value, some s => .ok (.switch s (some value))
    | none, _, _ =>
      if c = '-' then sortLong arg
      else
        match Switch.ofLetter? c with
        | some s => .ok (.cluster s cs)
        | none => .ok (noSwitch arg)
  | _ => .ok (.text arg)

/-- Sorts the arguments. -/
def sortArguments : List String → Except Stop (List Word)
  | [] => .ok []
  | arg :: args =>
    if arg = "--" then .ok (.separator :: args.map .text)
    else do
      let word ← sortArgument arg
      return word :: (← sortArguments args)

/-! ## Reading words -/

/-- The state of the reading: the positional arguments still to come, the arguments read, what
is too much, whether the last word was taken for a positional argument, and whether the
separator was just met and belongs to none yet. -/
structure Reading where
  waiting : List Positional := Positional.all
  arguments : Arguments := {}
  extras : List String := []
  taken : Bool := false
  opened : Bool := false
deriving Repr

/-- The number of workers that `text` gives for `p`. -/
def workersOf (p : Positional) (text : String) : Except Stop (Option Int) :=
  match parallelism text with
  | .ok n => .ok (some n)
  | .error complaint => .error (.usage s!"argument {p.name}: {complaint}")

/-- The arguments with a positional one set. -/
def Arguments.set (a : Arguments) (p : Positional) (text : String) : Except Stop Arguments :=
  match p with
  | .paths => .ok { a with paths := some text }
  | .outputDir => .ok { a with outputDir := some text }
  | .readWorkers => (workersOf p text).map fun n => { a with readWorkers := n }
  | .generateWorkers => (workersOf p text).map fun n => { a with generateWorkers := n }
  | .writeWorkers => (workersOf p text).map fun n => { a with writeWorkers := n }

/-- The complaint that something is attached to a switch. -/
def attachedFault (s : Switch) (attached : String) : Stop :=
  .usage s!"argument {s.title}: ignored explicit argument {quote attached}"

/-- Switches that one word turns on, and what is left of the word. -/
structure Cluster where
  switches : List Switch
  left : Option String := none
deriving DecidableEq, Repr

/-- The switch `s` and those of the letters behind it, up to a letter that is none. -/
def switchesBehind (s : Switch) : List Char → Except Stop Cluster
  | [] => .ok ⟨[s], none⟩
  | c :: cs =>
    if c = '-' then .error (attachedFault s (String.ofList (c :: cs)))
    else
      match Switch.ofLetter? c, cs with
      | none, _ => .ok ⟨[s], some (String.ofList ('-' :: c :: cs))⟩
      | some next, '=' :: value => .error (attachedFault next (String.ofList value))
      | some next, _ => (switchesBehind next cs).map fun k => { k with switches := s :: k.switches }

namespace Reading

/-- Reads a text: the next positional argument, or one too many. Behind the separator another
one takes the place of an argument and says nothing, unless the first one has just been met. -/
def readText (r : Reading) (text : String) : Except Stop Reading :=
  match r.waiting with
  | [] => .ok { r with extras := r.extras ++ [text], taken := false }
  | p :: waiting => do
    let silent := text == "--" && !r.opened
    let arguments ← if silent then .ok r.arguments else r.arguments.set p text
    return { r with waiting, arguments, taken := true, opened := false }

/-- Reads the separator. It goes with the positional argument next to it, if there is one. -/
def readSeparator (r : Reading) : Reading :=
  if r.taken then { r with taken := false }
  else if r.waiting.isEmpty then { r with extras := r.extras ++ ["--"] }
  else { r with opened := true }

/-- Turns on switches, and puts aside what is left of their word. -/
def turnOn (r : Reading) (k : Cluster) : Except Stop Reading :=
  if k.switches.contains .help then .error .help
  else
    .ok { r with
      arguments := { r.arguments with verbose := true }
      extras := r.extras ++ k.left.toList
      taken := false }

/-- Reads a word. -/
def read (r : Reading) : Word → Except Stop Reading
  | .text s => r.readText s
  | .separator => .ok r.readSeparator
  | .switch s none => r.turnOn ⟨[s], none⟩
  | .switch s (some value) => .error (attachedFault s value)
  | .cluster s more => do r.turnOn (← switchesBehind s more)
  | .unknown s => .ok { r with extras := r.extras ++ [s], taken := false }

/-- The arguments at the end of the reading. -/
def finish (r : Reading) : Except Stop Arguments :=
  if !r.waiting.isEmpty then
    let missing := ", ".intercalate (r.waiting.map Positional.name)
    .error (.usage s!"the following arguments are required: {missing}")
  else if !r.extras.isEmpty then
    let extras := " ".intercalate r.extras
    .error (.usage s!"unrecognized arguments: {extras}")
  else .ok r.arguments

end Reading

/-- Reads the arguments of the command line. -/
def parseArguments (args : List String) : Except Stop Arguments := do
  let words ← sortArguments args
  let r ← words.foldlM Reading.read {}
  r.finish

end FixtureDraft.CommandLine
