import FixtureDraft.Proofs.PrintedLines

/-!
# Reading fixtures back

A fixture file can be read back from its text: the braces and the indentation say where a namespace
or the class ends, empty lines where a paragraph of the class does. Statements may look like
anything, since each is moved in behind the braces of its method. `FixtureFile.ofCode?` is the
reader, and `ofCode?_code` says that it undoes the printing.
-/

namespace FixtureDraft

/-! ## Reading lines -/

/-- What stands in a line that begins with `opening` and ends with `closing`. -/
def between? (opening closing line : String) : Option String := do
  let rest ← opening.toList.isPrefixOf? line.toList
  let inside ← closing.toList.isSuffixOf? rest
  return String.ofList inside

/-- A line moved out by one step. -/
def outdent (line : String) : String :=
  String.ofList (line.toList.drop indentation.length)

/-- The lines between braces, behind the opening brace. -/
def insideBraces (lines : List String) : List String :=
  lines.dropLast.map outdent

/-- A field. Its name is what follows the last space. -/
def readField (line : String) : Option FixtureField := do
  let inside ← between? "private " ";" line
  let type := (inside.toList.rdropWhile (· != ' ')).dropLast
  let name := inside.toList.rtakeWhile (· != ' ')
  return { type := String.ofList type, name := String.ofList name }

/-- A method. -/
def readMethod : List String → Option FixtureMethod
  | mark :: header :: _ :: inside => do
    let mark ← between? "[" "]" mark
    let name ← between? "public void " "()" header
    let statements ← inside.dropLast.mapM (between? indentation "")
    return { name, statements, mark }
  | _ => none

/-- The fields and methods of a class by paragraphs. The first paragraph holds the fields, unless
it is a method. -/
def readParagraphs : List (List String) → Option (List FixtureField × List FixtureMethod)
  | [] => none
  | p :: ps =>
    match p.mapM readField with
    | some fields => do return (fields, ← ps.mapM readMethod)
    | none => do return ([], ← (p :: ps).mapM readMethod)

/-- A class. -/
def readFixture : List String → Option Fixture
  | _ :: header :: _ :: inside => do
    let name ← between? "public class " "" header
    let (fields, methods) ← readParagraphs ((insideBraces inside).splitOn "")
    match methods with
    | setup :: tests => return { name, fields, setup, tests }
    | [] => none
  | _ => none

/-- A class in namespaces. -/
def readNamespaces : List String → Option (List String × Fixture)
  | header :: brace :: inside =>
    match between? "namespace " "" header with
    | some name => do
      let (names, fixture) ← readNamespaces (insideBraces inside)
      return (name :: names, fixture)
    | none => do return ([], ← readFixture (header :: brace :: inside))
  | _ => none
termination_by lines => lines.length
decreasing_by
  rw [insideBraces, List.length_map, List.length_dropLast, List.length_cons, List.length_cons]
  omega

/-- Whether a line begins like a using directive. -/
def isUsing (line : String) : Bool :=
  "using ".toList.isPrefixOf line.toList || "global using ".toList.isPrefixOf line.toList

/-- A file. An empty line stands behind the using directives, if there are any. -/
def readFile (lines : List String) : Option FixtureFile := do
  let usings := lines.takeWhile isUsing
  let rest := lines.drop (if usings.isEmpty then 0 else usings.length + 1)
  let (namespaces, fixture) ← readNamespaces rest
  return { usings, namespaces, fixture }

/-- The fixture file with the given text. -/
def FixtureFile.ofCode? (code : String) : Option FixtureFile :=
  readFile (linesOf code)

/-! ## Lines that were printed -/

lemma between?_append (opening inside closing : String) :
    between? opening closing (opening ++ inside ++ closing) = some inside := by
  have hprefix : opening.toList.isPrefixOf? (opening ++ inside ++ closing).toList
      = some (inside ++ closing).toList := by
    rw [List.isPrefixOf?_eq_some_iff_append_eq, String.append_assoc, ← String.toList_append]
  have hsuffix : closing.toList.isSuffixOf? (inside ++ closing).toList = some inside.toList := by
    rw [List.isSuffixOf?_eq_some_iff_append_eq, String.toList_append]
  rw [between?, hprefix]
  show (do return String.ofList (← closing.toList.isSuffixOf? (inside ++ closing).toList)) = _
  rw [hsuffix]
  exact congrArg some String.ofList_toList

lemma between?_append_end (opening inside : String) :
    between? opening "" (opening ++ inside) = some inside := by
  have h := between?_append opening inside ""
  rwa [String.append_empty] at h

lemma outdent_indent (line : String) : outdent (indent line) = line := by
  unfold indent
  split
  · next h => rw [h]; rfl
  · rw [outdent, String.toList_append, ← String.length_toList, List.drop_left,
      String.ofList_toList]

lemma insideBraces_map_indent (lines : List String) :
    insideBraces (lines.map indent ++ ["\x7d"]) = lines := by
  rw [insideBraces, List.dropLast_concat, List.map_map]
  exact (List.map_congr_left fun line _ => outdent_indent line).trans (List.map_id _)

/-- Reading the values that were printed, one by one. -/
lemma mapM_map_eq_some {α β : Type} {print : α → β} {read : β → Option α} {xs : List α}
    (h : ∀ x ∈ xs, read (print x) = some x) : (xs.map print).mapM read = some xs := by
  induction xs with
  | nil => rfl
  | cons x xs ih =>
    rw [List.map_cons, List.mapM_cons, h x List.mem_cons_self,
      ih fun y hy => h y (List.mem_cons_of_mem _ hy)]
    rfl

/-! ## Members that were printed -/

/-- A field is read back if there is no space in its name, whatever its type looks like. -/
lemma readField_line {f : FixtureField} (h : ' ' ∉ f.name.toList) : readField f.line = some f := by
  have hline : f.line = "private " ++ (f.type ++ " " ++ f.name) ++ ";" := by
    simp only [FixtureField.line, String.append_assoc]
  have hname : ∀ c ∈ f.name.toList.reverse, (c != ' ') = true := by
    intro c hc
    rw [bne_iff_ne]
    rintro rfl
    exact h (List.mem_reverse.mp hc)
  have hinside : (f.type ++ " " ++ f.name).toList.reverse
      = f.name.toList.reverse ++ ' ' :: f.type.toList.reverse := by
    simp [String.toList_append]
  have htake : (f.type ++ " " ++ f.name).toList.rtakeWhile (· != ' ') = f.name.toList := by
    rw [List.rtakeWhile, hinside, List.takeWhile_append_of_pos hname]
    simp
  have hdrop : (f.type ++ " " ++ f.name).toList.rdropWhile (· != ' ') = f.type.toList ++ [' '] := by
    rw [List.rdropWhile, hinside, List.dropWhile_append_of_pos hname]
    simp
  rw [readField, hline, between?_append]
  show some (FixtureField.mk _ _) = some f
  rw [htake, hdrop, List.dropLast_concat, String.ofList_toList, String.ofList_toList]

/-- A method is read back, whatever its statements look like. -/
lemma readMethod_lines (m : FixtureMethod) : readMethod m.lines = some m := by
  have hstatements : ((m.statements.map (indentation ++ ·) ++ ["\x7d"]).dropLast).mapM
      (between? indentation "") = some m.statements := by
    rw [List.dropLast_concat]
    exact mapM_map_eq_some fun t _ => between?_append_end indentation t
  have hmark := between?_append "[" m.mark "]"
  have hname := between?_append "public void " m.name "()"
  show readMethod (("[" ++ m.mark ++ "]") :: ("public void " ++ m.name ++ "()") :: "\x7b"
    :: (m.statements.map (indentation ++ ·) ++ ["\x7d"])) = some m
  simp only [readMethod, hmark, hname, hstatements]
  rfl

/-- The first line of a method is no field. -/
lemma mapM_readField_lines (m : FixtureMethod) : m.lines.mapM readField = none := by
  have hfirst : readField ("[" ++ m.mark ++ "]") = none := by
    have hprefix : "private ".toList.isPrefixOf? ("[" ++ m.mark ++ "]").toList = none := by
      simp [String.toList_append, List.isPrefixOf?]
    rw [readField, between?, hprefix]
    rfl
  show (("[" ++ m.mark ++ "]") :: _).mapM readField = none
  rw [List.mapM_cons, hfirst]
  rfl

/-! ## Classes that were printed -/

/-- The fields and methods of a class are read back from its paragraphs. -/
lemma readParagraphs_paragraphs {f : Fixture} (h : ∀ x ∈ f.fields, ' ' ∉ x.name.toList) :
    readParagraphs f.paragraphs = some (f.fields, f.setup :: f.tests) := by
  have hmethods : ((f.setup :: f.tests).map FixtureMethod.lines).mapM readMethod
      = some (f.setup :: f.tests) := mapM_map_eq_some fun m _ => readMethod_lines m
  have hfields : (f.fields.map FixtureField.line).mapM readField = some f.fields :=
    mapM_map_eq_some fun x hx => readField_line (h x hx)
  rw [Fixture.paragraphs, paragraph]
  split
  · next hnone =>
    have hnil : f.fields = [] := by simpa using hnone
    rw [List.map_cons] at hmethods
    rw [List.nil_append, List.map_cons, readParagraphs, mapM_readField_lines]
    show (do return ([], ← ((f.setup.lines :: f.tests.map FixtureMethod.lines).mapM readMethod))) = _
    rw [hmethods, hnil]
    rfl
  · rw [List.singleton_append, readParagraphs, hfields]
    show (do return (f.fields, ← ((f.setup :: f.tests).map FixtureMethod.lines).mapM readMethod)) = _
    rw [hmethods]
    rfl

/-- No line of a paragraph is empty. -/
lemma empty_not_mem_paragraphs {f : Fixture} {p : List String} (hp : p ∈ f.paragraphs) :
    "" ∉ p := by
  rcases List.mem_append.mp hp with hp | hp
  · rw [(mem_paragraph.mp hp).1]
    intro hempty
    obtain ⟨x, -, hx⟩ := List.mem_map.mp hempty
    simp [FixtureField.line] at hx
  · obtain ⟨m, -, rfl⟩ := List.mem_map.mp hp
    simp [FixtureMethod.lines, inBraces, indentation]

/-- A class is read back. -/
lemma readFixture_lines {f : Fixture} (h : ∀ x ∈ f.fields, ' ' ∉ x.name.toList) :
    readFixture f.lines = some f := by
  have hparagraphs : f.body.splitOn "" = f.paragraphs := by
    rw [Fixture.body_eq_intercalate]
    apply List.splitOn_intercalate
    · exact fun p hp => empty_not_mem_paragraphs hp
    · simp [Fixture.paragraphs]
  have hname := between?_append_end "public class " f.name
  show readFixture ("[TestFixture]" :: ("public class " ++ f.name) :: "\x7b"
    :: (f.body.map indent ++ ["\x7d"])) = some f
  simp only [readFixture, hname, insideBraces_map_indent, hparagraphs, readParagraphs_paragraphs h]
  rfl

/-- A class is read back together with its namespaces. -/
lemma readNamespaces_inNamespaces {f : Fixture} (h : ∀ x ∈ f.fields, ' ' ∉ x.name.toList)
    (ns : List String) : readNamespaces (inNamespaces ns f.lines) = some (ns, f) := by
  induction ns with
  | nil =>
    have hclass : between? "namespace " "" "[TestFixture]" = none := by decide
    have hlines : f.lines = "[TestFixture]" :: ("public class " ++ f.name)
      :: ("\x7b" :: (f.body.map indent ++ ["\x7d"])) := rfl
    have hfixture := readFixture_lines h
    rw [hlines] at hfixture
    rw [inNamespaces, hlines, readNamespaces, hclass]
    simp only [hfixture]
    rfl
  | cons n ns ih =>
    have hname := between?_append_end "namespace " n
    show readNamespaces (("namespace " ++ n) :: "\x7b"
      :: ((inNamespaces ns f.lines).map indent ++ ["\x7d"])) = _
    rw [readNamespaces, hname]
    simp only [insideBraces_map_indent, ih]
    rfl

/-! ## Files that were printed -/

lemma isUsing_iff (line : String) : isUsing line = true
    ↔ "using ".toList <+: line.toList ∨ "global using ".toList <+: line.toList := by
  rw [isUsing, Bool.or_eq_true, List.isPrefixOf_iff_prefix, List.isPrefixOf_iff_prefix]

/-- Neither a namespace nor a class begins like a using directive. -/
lemma takeWhile_isUsing_inNamespaces (ns : List String) (f : Fixture) :
    (inNamespaces ns f.lines).takeWhile isUsing = [] := by
  cases ns with
  | nil =>
    show ("[TestFixture]" :: _).takeWhile isUsing = []
    rw [List.takeWhile_cons_of_neg (by decide)]
  | cons n ns =>
    have hspace : isUsing ("namespace " ++ n) = false := by
      simp [isUsing, String.toList_append, List.isPrefixOf]
    show (("namespace " ++ n) :: _).takeWhile isUsing = []
    rw [List.takeWhile_cons_of_neg (by simp [hspace])]

/-- The texts that a file is made of can be told apart: they have no line breaks, the using
directives begin like such, and the names of the fields have no spaces. -/
structure FixtureFile.IsReadable (f : FixtureFile) : Prop where
  unbroken : ∀ t ∈ f.texts, Unbroken t
  usings : ∀ u ∈ f.usings, "using ".toList <+: u.toList ∨ "global using ".toList <+: u.toList
  fields : ∀ x ∈ f.fixture.fields, ' ' ∉ x.name.toList

/-- A file is read back from its lines. -/
lemma readFile_lines {f : FixtureFile} (h : f.IsReadable) : readFile f.lines = some f := by
  have husings : ∀ u ∈ f.usings, isUsing u = true := fun u hu => (isUsing_iff u).mpr (h.usings u hu)
  have htake : f.lines.takeWhile isUsing = f.usings := by
    rw [FixtureFile.lines, List.append_assoc, List.takeWhile_append_of_pos husings]
    split
    · rw [List.nil_append, takeWhile_isUsing_inNamespaces, List.append_nil]
    · rw [List.singleton_append, List.takeWhile_cons_of_neg (by decide), List.append_nil]
  have hdrop : f.lines.drop (if f.usings.isEmpty then 0 else f.usings.length + 1)
      = inNamespaces f.namespaces f.fixture.lines := by
    rw [FixtureFile.lines]
    split
    · next hnone => simp [List.isEmpty_iff.mp hnone]
    · rw [show f.usings.length + 1 = (f.usings ++ [""]).length by simp, List.drop_left]
  rw [readFile]
  simp only [htake, hdrop, readNamespaces_inNamespaces h.fields]
  rfl

/-- A fixture file is read back from its text, so no other file has this text. -/
theorem ofCode?_code {f : FixtureFile} (h : f.IsReadable) :
    FixtureFile.ofCode? f.code = some f ∧ ∀ g : FixtureFile, g.IsReadable → g.code = f.code → g = f := by
  have hread : ∀ g : FixtureFile, g.IsReadable → FixtureFile.ofCode? g.code = some g := by
    intro g hg
    rw [FixtureFile.ofCode?, FixtureFile.linesOf_code hg.unbroken]
    exact readFile_lines hg
  refine ⟨hread f h, fun g hg hcode => ?_⟩
  have hsame := hread g hg
  rw [hcode, hread f h, Option.some.injEq] at hsame
  exact hsame.symm

/-- A setup with statements that look like the end of a method and a further method, in two
namespaces, is read back; it is not the text of a class with these two methods. -/
theorem ofCode?_code_of_disguised_test :
    let field : FixtureField := ⟨"Func<int, int>", "_f"⟩
    let oneMethod : FixtureFile :=
      { usings := ["global using A;"], namespaces := ["A", "B.Tests"]
        fixture :=
          { name := "CTests", fields := [field]
            setup := ⟨"Setup", ["\x7d", "", "[Test]", "public void MTest()", "\x7b"], "SetUp"⟩ } }
    let twoMethods : FixtureFile :=
      { oneMethod with fixture :=
          { name := "CTests", fields := [field], setup := ⟨"Setup", [], "SetUp"⟩
            tests := [⟨"MTest", [], "Test"⟩] } }
    oneMethod.IsReadable ∧ twoMethods.IsReadable
      ∧ FixtureFile.ofCode? oneMethod.code = some oneMethod ∧ twoMethods.code ≠ oneMethod.code := by
  intro field oneMethod twoMethods
  have hone : oneMethod.IsReadable := ⟨by decide, by decide, by decide⟩
  have htwo : twoMethods.IsReadable := ⟨by decide, by decide, by decide⟩
  obtain ⟨hread, honly⟩ := ofCode?_code hone
  refine ⟨hone, htwo, hread, fun hcode => ?_⟩
  have hsame : twoMethods = oneMethod := honly twoMethods htwo hcode
  revert hsame
  decide

end FixtureDraft
