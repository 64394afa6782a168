import FixtureDraft.Fixture.Basic
import Mathlib

/-!
# Lines of a printed fixture

The text of a fixture file is made of lines. As long as no text that the file is made of has a line
break in it, the lines can be told from the text again (`FixtureFile.linesOf_code`). An empty line
stands between two paragraphs and nowhere else: the paragraphs of a class body are the fields, if
there are any, and the methods (`Fixture.body_eq_intercalate`), those of a file the using
directives, if there are any, and the rest (`FixtureFile.lines_eq_intercalate`).
-/

namespace FixtureDraft

/-! ## Lines of a text -/

/-- The lines of a text in which a line break ends every line. -/
def linesOf (text : String) : List String :=
  ((text.toList.splitOn '\n').map String.ofList).dropLast

/-- Whether a text has no line break. -/
def Unbroken (text : String) : Prop := '\n' ∉ text.toList

instance (text : String) : Decidable (Unbroken text) := inferInstanceAs (Decidable (_ ∉ _))

lemma Unbroken.append {s t : String} (hs : Unbroken s) (ht : Unbroken t) : Unbroken (s ++ t) := by
  unfold Unbroken at hs ht ⊢
  rw [String.toList_append, List.mem_append]
  exact not_or.mpr ⟨hs, ht⟩

lemma Unbroken.indent {line : String} (h : Unbroken line) : Unbroken (indent line) := by
  unfold FixtureDraft.indent
  split
  · decide
  · exact Unbroken.append (by decide) h

/-- Lines that are joined and ended by line breaks can be told apart again. -/
lemma linesOf_intercalate {lines : List String} (hne : lines ≠ [])
    (h : ∀ line ∈ lines, Unbroken line) : linesOf ("\n".intercalate lines ++ "\n") = lines := by
  -- the last line break is one more joint, before an empty line
  have htext : "\n".intercalate lines ++ "\n" = "\n".intercalate (lines ++ [""]) := by
    rw [String.intercalate_append_of_ne_nil hne (by simp), String.intercalate_singleton,
      String.append_empty]
  have hsplit : (['\n'].intercalate ((lines ++ [""]).map String.toList)).splitOn '\n'
      = (lines ++ [""]).map String.toList := by
    apply List.splitOn_intercalate
    · intro piece hpiece
      obtain ⟨line, hline, rfl⟩ := List.mem_map.mp hpiece
      rcases List.mem_append.mp hline with hline | hline
      · exact h line hline
      · rw [List.mem_singleton.mp hline]
        decide
    · simp
  have hback : ((lines ++ [""]).map String.toList).map String.ofList = lines ++ [""] := by
    rw [List.map_map]
    exact (List.map_congr_left fun line _ => String.ofList_toList).trans (List.map_id _)
  rw [linesOf, htext, String.toList_intercalate]
  show ((['\n'].intercalate _).splitOn '\n' |>.map String.ofList).dropLast = lines
  rw [hsplit, hback, List.dropLast_concat]

/-! ## Paragraphs -/

/-- Lines as a paragraph, if there are any. -/
def paragraph (lines : List String) : List (List String) :=
  if lines.isEmpty then [] else [lines]

lemma mem_paragraph {lines p : List String} : p ∈ paragraph lines ↔ p = lines ∧ p ≠ [] := by
  unfold paragraph
  split
  · next h =>
    rw [List.isEmpty_iff.mp h]
    simp
  · next h =>
    rw [List.mem_singleton, iff_self_and]
    rintro rfl rfl
    exact h rfl

/-- What holds of each paragraph of some lines, if there is one. -/
lemma forall_mem_paragraph {lines : List String} {P : List String → Prop} :
    (∀ p ∈ paragraph lines, P p) ↔ (lines ≠ [] → P lines) := by
  constructor
  · intro h hne
    exact h lines (mem_paragraph.mpr ⟨rfl, hne⟩)
  · intro h p hp
    obtain ⟨rfl, hne⟩ := mem_paragraph.mp hp
    exact h hne

/-- The paragraphs between the braces of a class. -/
def Fixture.paragraphs (f : Fixture) : List (List String) :=
  paragraph (f.fields.map FixtureField.line) ++ (f.setup :: f.tests).map FixtureMethod.lines

/-- One more paragraph stands behind one more empty line. -/
lemma intercalate_concat {ps : List (List String)} (hne : ps ≠ []) (p : List String) :
    [""].intercalate (ps ++ [p]) = [""].intercalate ps ++ "" :: p := by
  induction ps with
  | nil => exact absurd rfl hne
  | cons q ps ih =>
    cases ps with
    | nil => simp
    | cons r ps =>
      have hrest := ih (List.cons_ne_nil r ps)
      rw [List.cons_append] at hrest
      rw [List.cons_append, List.cons_append, List.intercalate_cons_cons, hrest,
        List.intercalate_cons_cons]
      simp only [List.append_assoc]

/-- A method is added to a body as one more paragraph. -/
lemma addMethod_intercalate {ps : List (List String)} (hps : [] ∉ ps) (m : FixtureMethod) :
    addMethod ([""].intercalate ps) m = [""].intercalate (ps ++ [m.lines]) := by
  cases ps with
  | nil => simp [addMethod]
  | cons p ps =>
    have hp : p ≠ [] := fun h => hps (h ▸ List.mem_cons_self)
    have hne : ([""].intercalate (p :: ps)).isEmpty = false := by
      cases ps with
      | nil => simpa using hp
      | cons q ps => simp [List.intercalate_cons_cons]
    rw [addMethod, hne, intercalate_concat (by simp)]
    rfl

lemma FixtureMethod.lines_ne_nil (m : FixtureMethod) : m.lines ≠ [] := by
  simp [FixtureMethod.lines, inBraces]

lemma foldl_addMethod {ps : List (List String)} (hps : [] ∉ ps) (ms : List FixtureMethod) :
    ms.foldl addMethod ([""].intercalate ps) = [""].intercalate (ps ++ ms.map FixtureMethod.lines) := by
  induction ms generalizing ps with
  | nil => rw [List.map_nil, List.append_nil, List.foldl_nil]
  | cons m ms ih =>
    have hmore : [] ∉ ps ++ [m.lines] := by
      rw [List.mem_append, List.mem_singleton]
      exact not_or.mpr ⟨hps, fun h => m.lines_ne_nil h.symm⟩
    rw [List.foldl_cons, addMethod_intercalate hps, ih hmore, List.map_cons, List.append_assoc,
      List.singleton_append]

/-- The body of a class is its paragraphs, with an empty line between any two of them. -/
lemma Fixture.body_eq_intercalate (f : Fixture) : f.body = [""].intercalate f.paragraphs := by
  have hfields : [""].intercalate (paragraph (f.fields.map FixtureField.line))
      = f.fields.map FixtureField.line := by
    unfold paragraph
    split
    · next h => rw [List.isEmpty_iff.mp h]; rfl
    · rw [List.intercalate_singleton]
  have hnone : [] ∉ paragraph (f.fields.map FixtureField.line) := fun h =>
    (mem_paragraph.mp h).2 rfl
  rw [Fixture.body, Fixture.paragraphs, ← foldl_addMethod hnone, hfields]

/-- A file is its using directives and the rest, with an empty line between the two. -/
lemma FixtureFile.lines_eq_intercalate (f : FixtureFile) :
    f.lines = [""].intercalate
      (paragraph f.usings ++ [inNamespaces f.namespaces f.fixture.lines]) := by
  rw [FixtureFile.lines, paragraph]
  cases f.usings with
  | nil => simp
  | cons u us => simp [List.intercalate_cons_of_ne_nil]

/-! ## Unbroken texts -/

/-- The texts that a method is made of. -/
def FixtureMethod.texts (m : FixtureMethod) : List String :=
  m.name :: m.mark :: m.statements

/-- The texts that a class is made of. -/
def Fixture.texts (f : Fixture) : List String :=
  f.name :: (f.fields.flatMap (fun x => [x.type, x.name])
    ++ (f.setup :: f.tests).flatMap FixtureMethod.texts)

/-- The texts that a file is made of. -/
def FixtureFile.texts (f : FixtureFile) : List String :=
  f.usings ++ f.namespaces ++ f.fixture.texts

lemma unbroken_inBraces {header inside : List String} (hheader : ∀ line ∈ header, Unbroken line)
    (hinside : ∀ line ∈ inside, Unbroken line) :
    ∀ line ∈ inBraces header inside, Unbroken line := by
  have hopening : Unbroken "\x7b" := by decide
  have hclosing : Unbroken "\x7d" := by decide
  rw [inBraces, List.forall_mem_append, List.forall_mem_append, List.forall_mem_cons,
    List.forall_mem_singleton]
  exact ⟨⟨hheader, hopening, hinside⟩, hclosing⟩

lemma unbroken_map_indent {lines : List String} (h : ∀ line ∈ lines, Unbroken line) :
    ∀ line ∈ lines.map indent, Unbroken line :=
  List.forall_mem_map.mpr fun line hline => (h line hline).indent

/-- The lines of some paragraphs, with empty lines between these. -/
lemma unbroken_intercalate {ps : List (List String)} (h : ∀ p ∈ ps, ∀ line ∈ p, Unbroken line) :
    ∀ line ∈ [""].intercalate ps, Unbroken line := by
  induction ps with
  | nil => simp
  | cons p ps ih =>
    have hp := h p List.mem_cons_self
    cases ps with
    | nil => simpa using hp
    | cons q ps =>
      have hempty : Unbroken "" := by decide
      have hrest := ih fun p hp => h p (List.mem_cons_of_mem _ hp)
      rw [List.intercalate_cons_cons, List.forall_mem_append, List.forall_mem_append,
        List.forall_mem_singleton]
      exact ⟨⟨hp, hempty⟩, hrest⟩

lemma FixtureField.unbroken_line {f : FixtureField} (htype : Unbroken f.type)
    (hname : Unbroken f.name) : Unbroken f.line := by
  unfold FixtureField.line
  apply Unbroken.append _ (by decide)
  apply Unbroken.append _ hname
  apply Unbroken.append _ (by decide)
  exact Unbroken.append (by decide) htype

lemma FixtureMethod.unbroken_lines {m : FixtureMethod} (h : ∀ t ∈ m.texts, Unbroken t) :
    ∀ line ∈ m.lines, Unbroken line := by
  have hname : Unbroken m.name := h _ (by simp [FixtureMethod.texts])
  have hmark : Unbroken m.mark := h _ (by simp [FixtureMethod.texts])
  have hmark' : Unbroken ("[" ++ m.mark ++ "]") :=
    Unbroken.append (Unbroken.append (by decide) hmark) (by decide)
  have hname' : Unbroken ("public void " ++ m.name ++ "()") :=
    Unbroken.append (Unbroken.append (by decide) hname) (by decide)
  apply unbroken_inBraces
  · exact List.forall_mem_cons.mpr ⟨hmark', List.forall_mem_singleton.mpr hname'⟩
  · rw [List.forall_mem_map]
    intro t ht
    exact Unbroken.append (by decide) (h t (by simp [FixtureMethod.texts, ht]))

lemma Fixture.unbroken_lines {f : Fixture} (h : ∀ t ∈ f.texts, Unbroken t) :
    ∀ line ∈ f.lines, Unbroken line := by
  have hfields : ∀ x ∈ f.fields, Unbroken x.type ∧ Unbroken x.name := by
    intro x hx
    have hmem : ∀ t ∈ [x.type, x.name], t ∈ f.texts := fun t ht =>
      List.mem_cons_of_mem _ (List.mem_append_left _ (List.mem_flatMap.mpr ⟨x, hx, ht⟩))
    exact ⟨h _ (hmem _ (by simp)), h _ (hmem _ (by simp))⟩
  have hmethods : ∀ m ∈ f.setup :: f.tests, ∀ t ∈ m.texts, Unbroken t := by
    intro m hm t ht
    exact h t (List.mem_cons_of_mem _ (List.mem_append_right _ (List.mem_flatMap.mpr ⟨m, hm, ht⟩)))
  have hmark : Unbroken "[TestFixture]" := by decide
  have hheader : Unbroken ("public class " ++ f.name) :=
    Unbroken.append (by decide) (h _ List.mem_cons_self)
  apply unbroken_inBraces
  · exact List.forall_mem_cons.mpr ⟨hmark, List.forall_mem_singleton.mpr hheader⟩
  · apply unbroken_map_indent
    rw [Fixture.body_eq_intercalate]
    apply unbroken_intercalate
    rw [Fixture.paragraphs, List.forall_mem_append, forall_mem_paragraph]
    refine ⟨fun _ => ?_, ?_⟩
    · rw [List.forall_mem_map]
      exact fun x hx => FixtureField.unbroken_line (hfields x hx).1 (hfields x hx).2
    · rw [List.forall_mem_map]
      exact fun m hm => FixtureMethod.unbroken_lines (hmethods m hm)

lemma unbroken_inNamespaces {ns lines : List String} (hns : ∀ n ∈ ns, Unbroken n)
    (hlines : ∀ line ∈ lines, Unbroken line) : ∀ line ∈ inNamespaces ns lines, Unbroken line := by
  induction ns with
  | nil => exact hlines
  | cons n ns ih =>
    apply unbroken_inBraces
    · rw [List.forall_mem_singleton]
      exact Unbroken.append (by decide) (hns n List.mem_cons_self)
    · exact unbroken_map_indent (ih fun n hn => hns n (List.mem_cons_of_mem _ hn))

lemma FixtureFile.unbroken_lines {f : FixtureFile} (h : ∀ t ∈ f.texts, Unbroken t) :
    ∀ line ∈ f.lines, Unbroken line := by
  rw [FixtureFile.lines_eq_intercalate]
  rw [FixtureFile.texts, List.forall_mem_append, List.forall_mem_append] at h
  obtain ⟨⟨husings, hnamespaces⟩, hfixture⟩ := h
  apply unbroken_intercalate
  rw [List.forall_mem_append, forall_mem_paragraph, List.forall_mem_singleton]
  exact ⟨fun _ => husings, unbroken_inNamespaces hnamespaces (Fixture.unbroken_lines hfixture)⟩

/-! ## Lines of a file -/

lemma inNamespaces_ne_nil {ns lines : List String} (h : lines ≠ []) :
    inNamespaces ns lines ≠ [] := by
  cases ns with
  | nil => exact h
  | cons n ns => simp [inNamespaces, inBraces]

lemma FixtureFile.lines_ne_nil (f : FixtureFile) : f.lines ≠ [] := by
  have hinside : inNamespaces f.namespaces f.fixture.lines ≠ [] :=
    inNamespaces_ne_nil (by simp [Fixture.lines, inBraces])
  rw [FixtureFile.lines]
  exact List.append_ne_nil_of_right_ne_nil _ hinside

/-- The lines of a file can be told from its text, if no text that it is made of has a line break. -/
theorem FixtureFile.linesOf_code {f : FixtureFile} (h : ∀ t ∈ f.texts, Unbroken t) :
    linesOf f.code = f.lines :=
  linesOf_intercalate f.lines_ne_nil (FixtureFile.unbroken_lines h)

end FixtureDraft
