import FixtureDraft.Proofs.PrintedLines

/-!
# The layout of printed fixtures

The lines of a fixture file are laid out by a small grammar, `IsTidy`: lines of text, lines between
braces and one step further in, and empty lines that part what is not empty. Every layout of the
grammar can be read with a counter of depth that says how far each line is moved in, and no empty
line stands at an end, beside another one or beside the inside of a brace. Main statement:
`isNormalized_code`.
-/

namespace FixtureDraft

/-! ## Reading a layout -/

/-- Whether a line is made of indentation and an opening brace. -/
def opensBlock (line : String) : Bool :=
  line.toList.dropWhile (· == ' ') == ['\x7b']

/-- Whether a line is made of indentation and a closing brace. -/
def closesBlock (line : String) : Bool :=
  line.toList.dropWhile (· == ' ') == ['\x7d']

/-- The depth of a line, where `depth` is the counter before it. A closing brace stands one step
further out. -/
def depthAt (depth : ℤ) (line : String) : ℤ :=
  if closesBlock line then depth - 1 else depth

/-- The counter behind a line. -/
def depthBehind (depth : ℤ) (line : String) : ℤ :=
  if opensBlock line then depthAt depth line + 1 else depthAt depth line

/-- A text `depth` steps in. -/
def indentedBy (depth : ℕ) (text : String) : String :=
  String.ofList (List.replicate (4 * depth) ' ') ++ text

/-- Whether all lines are as far in as the counter says, which is nowhere negative: a line is empty,
or else a text that begins with no space follows four spaces for each step. -/
def IsIndented : ℤ → List String → Prop
  | _, [] => True
  | depth, line :: lines =>
    (∃ n : ℕ, depthAt depth line = n
        ∧ (line = "" ∨ ∃ text : String, line = indentedBy n text ∧ text.toList.head? ≠ some ' '))
      ∧ IsIndented (depthBehind depth line) lines

/-- Whether one line may follow another one: of the two only one is empty, and then the other one
is no brace around it. -/
def MayFollow (line next : String) : Prop :=
  ¬(line = "" ∧ next = "") ∧ ¬(opensBlock line = true ∧ next = "")
    ∧ ¬(line = "" ∧ closesBlock next = true)

/-- The layout of a text is normalized. -/
structure IsNormalized (code : String) : Prop where
  /-- One line break ends the text, and not two. -/
  ended : ∃ body : String, code = body ++ "\n" ∧ body.toList.getLast? ≠ some '\n'
  /-- Every line is as far in as the braces before it say. -/
  indented : IsIndented 0 (linesOf code)
  /-- All braces are closed. -/
  closed : (linesOf code).foldl depthBehind 0 = 0
  /-- No line is made of spaces only. -/
  visible : ∀ line ∈ linesOf code, line ≠ "" → ∃ c ∈ line.toList, c ≠ ' '
  /-- The first line is not empty. -/
  first : (linesOf code).head? ≠ some ""
  /-- Empty lines part what is not empty. -/
  parted : (linesOf code).IsChain MayFollow

/-! ## Lines further in -/

lemma opensBlock_indent (line : String) : opensBlock (indent line) = opensBlock line := by
  unfold indent
  split
  · next h => rw [h]
  · simp [opensBlock, indentation, String.toList_append]

lemma closesBlock_indent (line : String) : closesBlock (indent line) = closesBlock line := by
  unfold indent
  split
  · next h => rw [h]
  · simp [closesBlock, indentation, String.toList_append]

lemma indent_eq_empty_iff (line : String) : indent line = "" ↔ line = "" := by
  unfold indent
  split
  · next h => simp [h]
  · next h => simp [h, indentation]

lemma depthAt_indent (depth : ℤ) (line : String) :
    depthAt (depth + 1) (indent line) = depthAt depth line + 1 := by
  unfold depthAt
  rw [closesBlock_indent]
  split <;> omega

lemma depthBehind_indent (depth : ℤ) (line : String) :
    depthBehind (depth + 1) (indent line) = depthBehind depth line + 1 := by
  unfold depthBehind
  rw [opensBlock_indent, depthAt_indent]
  split <;> omega

/-- The counter goes the same way one step further in. -/
lemma foldl_depthBehind_indent (depth : ℤ) (lines : List String) :
    (lines.map indent).foldl depthBehind (depth + 1) = lines.foldl depthBehind depth + 1 := by
  induction lines generalizing depth with
  | nil => rfl
  | cons line lines ih =>
    rw [List.map_cons, List.foldl_cons, List.foldl_cons, depthBehind_indent, ih]

lemma indent_indentedBy {n : ℕ} {text : String} (h : indentedBy n text ≠ "") :
    indent (indentedBy n text) = indentedBy (n + 1) text := by
  rw [indent, if_neg h, ← String.toList_inj]
  simp only [indentedBy, indentation, String.toList_append, String.toList_ofList]
  rw [← List.append_assoc, show 4 * (n + 1) = 4 + 4 * n by omega, List.replicate_add]
  rfl

/-- Lines that are as far in as they should be still are so one step further in. -/
lemma IsIndented.indent {depth : ℤ} {lines : List String} (h : IsIndented depth lines) :
    IsIndented (depth + 1) (lines.map indent) := by
  induction lines generalizing depth with
  | nil => trivial
  | cons line lines ih =>
    obtain ⟨⟨n, hdepth, hline⟩, hrest⟩ := h
    refine ⟨⟨n + 1, ?_, ?_⟩, ?_⟩
    · rw [depthAt_indent, hdepth]
      rfl
    · by_cases hempty : line = ""
      · exact Or.inl ((indent_eq_empty_iff line).mpr hempty)
      · obtain ⟨text, rfl, htext⟩ := hline.resolve_left hempty
        exact Or.inr ⟨text, indent_indentedBy hempty, htext⟩
    · rw [depthBehind_indent]
      exact ih hrest

lemma isIndented_append {depth : ℤ} {xs ys : List String} :
    IsIndented depth (xs ++ ys)
      ↔ IsIndented depth xs ∧ IsIndented (xs.foldl depthBehind depth) ys := by
  induction xs generalizing depth with
  | nil => simp [IsIndented]
  | cons x xs ih => rw [List.cons_append, IsIndented, IsIndented, ih, List.foldl_cons, and_assoc]

/-- One step further in, two lines may follow each other if they might before. -/
lemma MayFollow.indent {line next : String} (h : MayFollow line next) :
    MayFollow (indent line) (indent next) := by
  unfold MayFollow at h ⊢
  rwa [indent_eq_empty_iff, indent_eq_empty_iff, opensBlock_indent, closesBlock_indent]

/-! ## Tidy lines -/

/-- A text that can fill a line: it is not empty, begins with no space and is no brace. -/
def IsLineText (text : String) : Prop :=
  text ≠ "" ∧ text.toList.head? ≠ some ' ' ∧ text ≠ "\x7b" ∧ text ≠ "\x7d"

instance (text : String) : Decidable (IsLineText text) :=
  inferInstanceAs (Decidable (_ ∧ _ ∧ _ ∧ _))

/-- The grammar of a tidy layout. -/
inductive IsTidy : List String → Prop
  | text {line : String} : IsLineText line → IsTidy [line]
  | append {xs ys : List String} : IsTidy xs → IsTidy ys → IsTidy (xs ++ ys)
  | parted {xs ys : List String} : IsTidy xs → IsTidy ys → IsTidy (xs ++ "" :: ys)
  | emptyBraces : IsTidy ["\x7b", "\x7d"]
  | braces {inside : List String} :
    IsTidy inside → IsTidy ("\x7b" :: inside.map indent ++ ["\x7d"])

lemma IsLineText.dropWhile {text : String} (h : IsLineText text) :
    text.toList.dropWhile (· == ' ') = text.toList := by
  obtain ⟨-, hhead, -, -⟩ := h
  cases hchars : text.toList with
  | nil => rfl
  | cons c cs =>
    rw [hchars, List.head?_cons, Ne, Option.some.injEq] at hhead
    exact List.dropWhile_cons_of_neg (by simpa using hhead)

lemma IsLineText.opensBlock {text : String} (h : IsLineText text) : opensBlock text = false := by
  rw [FixtureDraft.opensBlock, h.dropWhile, beq_eq_false_iff_ne]
  intro hchars
  exact h.2.2.1 (String.toList_inj.mp hchars)

lemma IsLineText.closesBlock {text : String} (h : IsLineText text) : closesBlock text = false := by
  rw [FixtureDraft.closesBlock, h.dropWhile, beq_eq_false_iff_ne]
  intro hchars
  exact h.2.2.2 (String.toList_inj.mp hchars)

/-- A line that no empty line follows from, and none stands before. -/
lemma mayFollow_of_ne_empty {line next : String} (hline : line ≠ "") (hnext : next ≠ "") :
    MayFollow line next :=
  ⟨fun h => hline h.1, fun h => hnext h.2, fun h => hline h.1⟩

/-- Braces around lines that are read from depth zero to depth zero are read so too. -/
lemma isIndented_braces {inside : List String} (hinside : IsIndented 0 inside)
    (hclosed : inside.foldl depthBehind 0 = 0) :
    IsIndented 0 ("\x7b" :: inside.map indent ++ ["\x7d"])
      ∧ ("\x7b" :: inside.map indent ++ ["\x7d"]).foldl depthBehind 0 = 0 := by
  have hopening : depthBehind 0 "\x7b" = 0 + 1 := by decide
  have hclosing : depthBehind (0 + 1) "\x7d" = 0 := by decide
  have hback : (inside.map indent).foldl depthBehind (0 + 1) = 0 + 1 := by
    rw [foldl_depthBehind_indent, hclosed]
  refine ⟨⟨⟨0, by decide, Or.inr ⟨"\x7b", by decide, by decide⟩⟩, ?_⟩, ?_⟩
  · show IsIndented (depthBehind 0 "\x7b") (inside.map indent ++ ["\x7d"])
    rw [hopening, isIndented_append, hback]
    exact ⟨hinside.indent, ⟨0, by decide, Or.inr ⟨"\x7d", by decide, by decide⟩⟩, trivial⟩
  · show ((inside.map indent) ++ ["\x7d"]).foldl depthBehind (depthBehind 0 "\x7b") = 0
    rw [hopening, List.foldl_append, hback, List.foldl_cons, hclosing, List.foldl_nil]

namespace IsTidy

variable {lines : List String}

/-- Tidy lines begin with a line that may follow an empty one. -/
lemma exists_first (h : IsTidy lines) :
    ∃ line rest, lines = line :: rest ∧ line ≠ "" ∧ closesBlock line = false := by
  induction h with
  | text htext => exact ⟨_, [], rfl, htext.1, htext.closesBlock⟩
  | append _ _ ihx _ =>
    obtain ⟨line, rest, rfl, hfirst⟩ := ihx
    exact ⟨line, _, rfl, hfirst⟩
  | parted _ _ ihx _ =>
    obtain ⟨line, rest, rfl, hfirst⟩ := ihx
    exact ⟨line, _, rfl, hfirst⟩
  | emptyBraces => exact ⟨"\x7b", ["\x7d"], rfl, by decide, by decide⟩
  | braces _ _ => exact ⟨"\x7b", _, rfl, by decide, by decide⟩

/-- Tidy lines end with a line that an empty one may follow. -/
lemma exists_last (h : IsTidy lines) :
    ∃ rest line, lines = rest ++ [line] ∧ line ≠ "" ∧ opensBlock line = false := by
  induction h with
  | text htext => exact ⟨[], _, rfl, htext.1, htext.opensBlock⟩
  | @append xs ys _ _ _ ihy =>
    obtain ⟨rest, line, rfl, hlast⟩ := ihy
    exact ⟨xs ++ rest, line, (List.append_assoc ..).symm, hlast⟩
  | @parted xs ys _ _ _ ihy =>
    obtain ⟨rest, line, rfl, hlast⟩ := ihy
    exact ⟨xs ++ "" :: rest, line, by rw [List.append_assoc, List.cons_append], hlast⟩
  | emptyBraces => exact ⟨["\x7b"], "\x7d", rfl, by decide, by decide⟩
  | @braces inside _ _ => exact ⟨"\x7b" :: inside.map indent, "\x7d", rfl, by decide, by decide⟩

/-- Tidy lines can be read with a counter of depth, which comes back to where it was. -/
lemma isIndented (h : IsTidy lines) :
    IsIndented 0 lines ∧ lines.foldl depthBehind 0 = 0 := by
  induction h with
  | @text line htext =>
    have hat : depthAt 0 line = 0 := by rw [depthAt, htext.closesBlock, if_neg (by decide)]
    refine ⟨⟨⟨0, hat, Or.inr ⟨line, ?_, htext.2.1⟩⟩, trivial⟩, ?_⟩
    · rw [indentedBy, Nat.mul_zero]
      exact (String.empty_append ..).symm
    · rw [List.foldl_cons, List.foldl_nil, depthBehind, htext.opensBlock, if_neg (by decide), hat]
  | append _ _ ihx ihy =>
    rw [isIndented_append, List.foldl_append, ihx.2]
    exact ⟨⟨ihx.1, ihy.1⟩, ihy.2⟩
  | parted _ _ ihx ihy =>
    have hempty : depthBehind 0 "" = 0 := by decide
    rw [isIndented_append, List.foldl_append, ihx.2, List.foldl_cons, IsIndented, hempty]
    exact ⟨⟨ihx.1, ⟨0, by decide, Or.inl rfl⟩, ihy.1⟩, ihy.2⟩
  | emptyBraces => exact @isIndented_braces [] trivial rfl
  | braces _ ih => exact isIndented_braces ih.1 ih.2

/-- No tidy line is made of spaces only. -/
lemma visible (h : IsTidy lines) : ∀ line ∈ lines, line ≠ "" → ∃ c ∈ line.toList, c ≠ ' ' := by
  induction h with
  | @text line htext =>
    rw [List.forall_mem_singleton]
    intro _
    cases hchars : line.toList with
    | nil => exact absurd (String.toList_eq_nil_iff.mp hchars) htext.1
    | cons c cs =>
      refine ⟨c, List.mem_cons_self, fun hspace => htext.2.1 ?_⟩
      rw [hchars, hspace]
      rfl
  | append _ _ ihx ihy => exact List.forall_mem_append.mpr ⟨ihx, ihy⟩
  | parted _ _ ihx ihy =>
    rw [List.forall_mem_append, List.forall_mem_cons]
    exact ⟨ihx, fun hempty => absurd rfl hempty, ihy⟩
  | emptyBraces =>
    rw [List.forall_mem_cons, List.forall_mem_singleton]
    exact ⟨fun _ => ⟨'\x7b', by decide, by decide⟩, fun _ => ⟨'\x7d', by decide, by decide⟩⟩
  | braces _ ih =>
    rw [List.forall_mem_append, List.forall_mem_cons, List.forall_mem_map,
      List.forall_mem_singleton]
    refine ⟨⟨fun _ => ⟨'\x7b', by decide, by decide⟩, ?_⟩, fun _ => ⟨'\x7d', by decide, by decide⟩⟩
    intro line hline hne
    rw [Ne, indent_eq_empty_iff] at hne
    obtain ⟨c, hc, hspace⟩ := ih line hline hne
    refine ⟨c, ?_, hspace⟩
    rw [indent, if_neg hne, String.toList_append]
    exact List.mem_append_right _ hc

/-- Empty lines part what is not empty. -/
lemma isChain (h : IsTidy lines) : lines.IsChain MayFollow := by
  induction h with
  | text _ => exact List.isChain_singleton _
  | append hx hy ihx ihy =>
    obtain ⟨before, last, rfl, hlast, -⟩ := hx.exists_last
    obtain ⟨first, after, rfl, hfirst, -⟩ := hy.exists_first
    refine List.isChain_append.mpr ⟨ihx, ihy, ?_⟩
    simpa using mayFollow_of_ne_empty hlast hfirst
  | parted hx hy ihx ihy =>
    obtain ⟨before, last, rfl, hlast, hopen⟩ := hx.exists_last
    obtain ⟨first, after, rfl, hfirst, hclose⟩ := hy.exists_first
    refine List.isChain_append.mpr ⟨ihx, List.isChain_cons_cons.mpr ⟨?_, ihy⟩, ?_⟩
    · exact ⟨fun h => hfirst h.2, fun h => hfirst h.2, fun h => by simp [hclose] at h⟩
    · have hempty : MayFollow last "" :=
        ⟨fun h => hlast h.1, fun h => by simp [hopen] at h, fun h => hlast h.1⟩
      simpa using hempty
  | emptyBraces =>
    exact List.isChain_cons_cons.mpr ⟨mayFollow_of_ne_empty (by decide) (by decide),
      List.isChain_singleton _⟩
  | @braces inside h ih =>
    obtain ⟨first, after, hfirst, hne, -⟩ := h.exists_first
    obtain ⟨before, last, hlast, hne', -⟩ := h.exists_last
    have hchain : (inside.map indent).IsChain MayFollow :=
      (List.isChain_map indent).mpr (ih.imp fun _ _ => MayFollow.indent)
    rw [List.cons_append]
    refine List.isChain_cons.mpr ⟨?_, List.isChain_append.mpr ⟨hchain, List.isChain_singleton _, ?_⟩⟩
    · have hopening : MayFollow "\x7b" (indent first) :=
        mayFollow_of_ne_empty (by decide) (by rwa [Ne, indent_eq_empty_iff])
      simpa [hfirst] using hopening
    · have hclosing : MayFollow (indent last) "\x7d" :=
        mayFollow_of_ne_empty (by rwa [Ne, indent_eq_empty_iff]) (by decide)
      simpa [hlast] using hclosing

end IsTidy

/-! ## Fixtures are tidy -/

/-- Lines of text one below the other. -/
lemma isTidy_of_lineTexts {lines : List String} (hne : lines ≠ [])
    (h : ∀ line ∈ lines, IsLineText line) : IsTidy lines := by
  induction lines with
  | nil => exact absurd rfl hne
  | cons line lines ih =>
    have hfirst : IsTidy [line] := .text (h line List.mem_cons_self)
    cases lines with
    | nil => exact hfirst
    | cons next lines =>
      exact hfirst.append (ih (by simp) fun t ht => h t (List.mem_cons_of_mem _ ht))

/-- Tidy paragraphs with empty lines between them. -/
lemma isTidy_intercalate {ps : List (List String)} (hne : ps ≠ []) (h : ∀ p ∈ ps, IsTidy p) :
    IsTidy ([""].intercalate ps) := by
  induction ps with
  | nil => exact absurd rfl hne
  | cons p ps ih =>
    have hfirst : IsTidy p := h p List.mem_cons_self
    cases ps with
    | nil => simpa using hfirst
    | cons q ps =>
      rw [List.intercalate_cons_cons, List.append_assoc]
      exact hfirst.parted (ih (by simp) fun r hr => h r (List.mem_cons_of_mem _ hr))

/-- A text that begins with a letter or a bracket can fill a line. -/
lemma isLineText_of_head {text : String} {c : Char} (h : text.toList.head? = some c)
    (hc : c ≠ ' ' ∧ c ≠ '\x7b' ∧ c ≠ '\x7d') : IsLineText text := by
  refine ⟨?_, ?_, ?_, ?_⟩
  · rintro rfl
    cases h
  · rw [h]
    exact fun heq => hc.1 (Option.some.inj heq)
  · rintro rfl
    exact hc.2.1 (Option.some.inj h).symm
  · rintro rfl
    exact hc.2.2 (Option.some.inj h).symm

/-- The texts that a file is made of fit on lines: they have no line breaks, and the using
directives and the statements can fill a line. -/
structure FixtureFile.FitsLines (f : FixtureFile) : Prop where
  unbroken : ∀ t ∈ f.texts, Unbroken t
  usings : ∀ u ∈ f.usings, IsLineText u
  statements : ∀ m ∈ f.fixture.setup :: f.fixture.tests, ∀ t ∈ m.statements, IsLineText t

lemma FixtureField.isLineText_line (f : FixtureField) : IsLineText f.line := by
  apply isLineText_of_head (c := 'p')
  · simp [FixtureField.line, String.toList_append]
  · decide

/-- Tidy lines below the lines of a header and between braces. -/
lemma isTidy_inBraces {header inside : List String} (hne : header ≠ [])
    (hheader : ∀ line ∈ header, IsLineText line) (hinside : IsTidy inside) :
    IsTidy (inBraces header (inside.map indent)) := by
  rw [inBraces, List.append_assoc]
  exact (isTidy_of_lineTexts hne hheader).append hinside.braces

/-- A method is tidy if its statements can fill lines. -/
lemma FixtureMethod.isTidy_lines {m : FixtureMethod} (h : ∀ t ∈ m.statements, IsLineText t) :
    IsTidy m.lines := by
  have hmark : IsLineText ("[" ++ m.mark ++ "]") :=
    isLineText_of_head (c := '[') (by simp [String.toList_append]) (by decide)
  have hname : IsLineText ("public void " ++ m.name ++ "()") :=
    isLineText_of_head (c := 'p') (by simp [String.toList_append]) (by decide)
  have hheader : ∀ line ∈ ["[" ++ m.mark ++ "]", "public void " ++ m.name ++ "()"],
      IsLineText line :=
    List.forall_mem_cons.mpr ⟨hmark, List.forall_mem_singleton.mpr hname⟩
  by_cases hnone : m.statements = []
  · rw [FixtureMethod.lines, hnone]
    exact (isTidy_of_lineTexts (by simp) hheader).append .emptyBraces
  · -- no statement is empty, so each is moved in like any line
    have hindent : m.statements.map (indentation ++ ·) = m.statements.map indent := by
      apply List.map_congr_left
      intro t ht
      rw [indent, if_neg (h t ht).1]
    rw [FixtureMethod.lines, hindent]
    exact isTidy_inBraces (by simp) hheader (isTidy_of_lineTexts hnone h)

/-- A class is tidy if the statements of its methods can fill lines. -/
lemma Fixture.isTidy_lines {f : Fixture}
    (h : ∀ m ∈ f.setup :: f.tests, ∀ t ∈ m.statements, IsLineText t) : IsTidy f.lines := by
  have hbody : IsTidy f.body := by
    rw [Fixture.body_eq_intercalate]
    apply isTidy_intercalate
    · simp [Fixture.paragraphs]
    · rw [Fixture.paragraphs, List.forall_mem_append, forall_mem_paragraph]
      refine ⟨fun hne => isTidy_of_lineTexts hne ?_, ?_⟩
      · rw [List.forall_mem_map]
        exact fun x _ => x.isLineText_line
      · rw [List.forall_mem_map]
        exact fun m hm => FixtureMethod.isTidy_lines (h m hm)
  have hmark : IsLineText "[TestFixture]" := by decide
  have hname : IsLineText ("public class " ++ f.name) :=
    isLineText_of_head (c := 'p') (by simp [String.toList_append]) (by decide)
  refine isTidy_inBraces (by simp) ?_ hbody
  exact List.forall_mem_cons.mpr ⟨hmark, List.forall_mem_singleton.mpr hname⟩

/-- Namespaces around tidy lines are tidy. -/
lemma isTidy_inNamespaces (ns : List String) {lines : List String} (h : IsTidy lines) :
    IsTidy (inNamespaces ns lines) := by
  induction ns with
  | nil => exact h
  | cons n ns ih =>
    have hname : IsLineText ("namespace " ++ n) :=
      isLineText_of_head (c := 'n') (by simp [String.toList_append]) (by decide)
    exact isTidy_inBraces (by simp) (List.forall_mem_singleton.mpr hname) ih

/-- A file whose texts fit on lines is tidy. -/
lemma FixtureFile.isTidy_lines {f : FixtureFile} (h : f.FitsLines) : IsTidy f.lines := by
  rw [FixtureFile.lines_eq_intercalate]
  apply isTidy_intercalate
  · simp
  · rw [List.forall_mem_append, forall_mem_paragraph, List.forall_mem_singleton]
    exact ⟨fun hne => isTidy_of_lineTexts hne h.usings,
      isTidy_inNamespaces _ (Fixture.isTidy_lines h.statements)⟩

/-! ## The layout of a file -/

/-- The text of tidy lines ends with one line break. -/
lemma exists_body_of_isTidy {lines : List String} (h : IsTidy lines)
    (hunbroken : ∀ line ∈ lines, Unbroken line) :
    ∃ body : String, "\n".intercalate lines ++ "\n" = body ++ "\n"
      ∧ body.toList.getLast? ≠ some '\n' := by
  refine ⟨_, rfl, ?_⟩
  obtain ⟨before, last, rfl, hne, -⟩ := h.exists_last
  have hlast : last.toList ≠ [] := fun hnil => hne (String.toList_eq_nil_iff.mp hnil)
  have hbody : ∃ front : List Char,
      ("\n".intercalate (before ++ [last])).toList = front ++ last.toList := by
    cases before with
    | nil => exact ⟨[], by simp⟩
    | cons first before =>
      rw [String.intercalate_append_of_ne_nil (by simp) (by simp), String.intercalate_singleton,
        String.toList_append]
      exact ⟨_, rfl⟩
  obtain ⟨front, hfront⟩ := hbody
  rw [hfront, List.getLast?_append_of_ne_nil _ hlast]
  intro hbreak
  exact hunbroken last (by simp) (List.mem_of_getLast? hbreak)

/-- The layout of a printed file is normalized if the texts that it is made of fit on lines. -/
theorem isNormalized_code {f : FixtureFile} (h : f.FitsLines) : IsNormalized f.code := by
  have htidy := FixtureFile.isTidy_lines h
  have hlines := FixtureFile.linesOf_code h.unbroken
  obtain ⟨hindented, hclosed⟩ := htidy.isIndented
  refine ⟨?_, ?_, ?_, ?_, ?_, ?_⟩
  · exact exists_body_of_isTidy htidy (FixtureFile.unbroken_lines h.unbroken)
  · rwa [hlines]
  · rwa [hlines]
  · rw [hlines]
    exact htidy.visible
  · obtain ⟨first, rest, hfirst, hne, -⟩ := htidy.exists_first
    rw [hlines, hfirst, List.head?_cons]
    exact fun hempty => hne (Option.some.inj hempty)
  · rw [hlines]
    exact htidy.isChain

/-- A class with one field in two namespaces, whose setup has a statement that ends in a brace and
whose test has none, is laid out so. -/
theorem isNormalized_code_of_empty_test :
    let f : FixtureFile :=
      { usings := ["using A;"], namespaces := ["A", "B.Tests"]
        fixture :=
          { name := "CTests", fields := [⟨"C", "_c"⟩]
            setup := ⟨"Setup", ["if (_c != null) \x7b", "\x7d;"], "SetUp"⟩
            tests := [⟨"MTest", [], "Test"⟩] } }
    f.FitsLines ∧ IsNormalized f.code := by
  intro f
  have hfits : f.FitsLines := ⟨by decide, by decide, by decide⟩
  exact ⟨hfits, isNormalized_code hfits⟩

end FixtureDraft
