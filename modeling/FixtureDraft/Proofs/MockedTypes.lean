import FixtureDraft.Proofs.BaseNames

/-!
# Which types are taken for interfaces

The types of the language as syntax trees, with the text that each of them has. On these texts the
test for interfaces accepts every type whose last name is marked, and no other name and no array.
It also accepts some tuples: what stands before the last qualification is cut off together with the
opening parenthesis by which a tuple would be known. `isInterface_text_iff` says which types are
accepted, in terms of the trees.
-/

namespace FixtureDraft

open FixtureDraft.Text

/-! ## Types and their texts -/

/-- The characters that types are put together with. -/
def typePunctuation : List Char := ['<', '>', '[', ']', '(', ')', ',', '.', ':', '?']

/-- Whether a character may stand in a name. Blanks and the punctuation of types may not. -/
def isNameChar (c : Char) : Bool := !(isBlank c || typePunctuation.contains c)

/-- Names without qualification. -/
structure Identifier where
  chars : List Char
  ne_nil : chars ≠ []
  isName : ∀ c ∈ chars, isNameChar c = true

/-- The identifier of a text. -/
def Identifier.ofText (s : String) (h : s.toList ≠ [] ∧ s.toList.all isNameChar = true) :
    Identifier :=
  ⟨s.toList, h.1, List.all_eq_true.mp h.2⟩

/-- The text of an identifier. -/
def Identifier.text (n : Identifier) : String := String.ofList n.chars

mutual

/-- Names of types. Each identifier may have type arguments. -/
inductive NameSyntax
  | simple (name : Identifier) (arguments : List TypeSyntax)
  | qualified (outer : NameSyntax) (joint : Joint) (name : Identifier) (arguments : List TypeSyntax)

/-- Types. Each may be marked as nullable, once. -/
inductive TypeSyntax
  | named (name : NameSyntax) (nullable : Bool)
  | array (element : TypeSyntax) (commas : ℕ) (nullable : Bool)
  | tuple (elements : List TupleElement) (nullable : Bool)

/-- The elements of tuples. They may have names. -/
inductive TupleElement
  | mk (type : TypeSyntax) (name : Option Identifier)

end

/-- The mark of a nullable type. -/
def nullableMark : Bool → List Char
  | true => ['?']
  | false => []

lemma nullableMark_eq (nullable : Bool) : ∀ c ∈ nullableMark nullable, c = '?' := by
  cases nullable <;> simp [nullableMark]

/-- The brackets of an array type. -/
def rankChars (commas : ℕ) : List Char := '[' :: List.replicate commas ',' ++ [']']

/-- Texts with a comma and a space between them. -/
def enumerated : List (List Char) → List Char
  | [] => []
  | cs :: texts => cs ++ texts.flatMap ([',', ' '] ++ ·)

/-- Type arguments. Where there are none, there are no brackets. -/
def angled (texts : List (List Char)) : List Char :=
  if texts = [] then [] else '<' :: enumerated texts ++ ['>']

/-- The name of a tuple element behind its type. -/
def elementName : Option Identifier → List Char
  | none => []
  | some n => ' ' :: n.chars

mutual

def NameSyntax.chars : NameSyntax → List Char
  | .simple name arguments => name.chars ++ angled (typeTexts arguments)
  | .qualified outer joint name arguments =>
    outer.chars ++ joint.chars ++ (name.chars ++ angled (typeTexts arguments))

def TypeSyntax.chars : TypeSyntax → List Char
  | .named name nullable => name.chars ++ nullableMark nullable
  | .array element commas nullable => element.chars ++ (rankChars commas ++ nullableMark nullable)
  | .tuple elements nullable =>
    '(' :: enumerated (elementTexts elements) ++ ')' :: nullableMark nullable

def TupleElement.chars : TupleElement → List Char
  | .mk type name => type.chars ++ elementName name

def typeTexts : List TypeSyntax → List (List Char)
  | [] => []
  | t :: ts => t.chars :: typeTexts ts

def elementTexts : List TupleElement → List (List Char)
  | [] => []
  | e :: es => e.chars :: elementTexts es

end

/-- The text of a type. -/
def TypeSyntax.text (t : TypeSyntax) : String := String.ofList t.chars

lemma elementTexts_eq_map (es : List TupleElement) :
    elementTexts es = es.map TupleElement.chars := by
  induction es with
  | nil => rfl
  | cons e es ih => rw [elementTexts, ih, List.map_cons]

/-! ## Marked names -/

/-- Whether an identifier is the marker and then an upper-case letter, and any more letters. -/
def Identifier.IsMarked (n marker : Identifier) : Prop :=
  ∃ c cs, n.chars = marker.chars ++ c :: cs ∧ isUppercase c = true

/-- The last identifier of a name. -/
def NameSyntax.last : NameSyntax → Identifier
  | simple name _ => name
  | qualified _ _ name _ => name

/-- The names of interfaces, by convention. A mark for nullable makes no difference. -/
def TypeSyntax.IsInterfaceName (marker : Identifier) : TypeSyntax → Prop
  | named name _ => name.last.IsMarked marker
  | array .. => False
  | tuple .. => False

/-- The elements that are names without qualification. -/
def TupleElement.IsSimple : TupleElement → Prop
  | mk (.named (.simple ..) _) _ => True
  | _ => False

/-- Types in whose text a marked name follows the last qualification: qualified names that are
marked, and tuples of which an element is such a type and all elements behind it are simple. -/
inductive TypeSyntax.EndsMarked (marker : Identifier) : TypeSyntax → Prop
  | named {outer : NameSyntax} {joint : Joint} {name : Identifier} {arguments : List TypeSyntax}
      {nullable : Bool} (hname : name.IsMarked marker) :
      EndsMarked marker (named (.qualified outer joint name arguments) nullable)
  | tuple {before behind : List TupleElement} {type : TypeSyntax} {name : Option Identifier}
      {nullable : Bool} (htype : EndsMarked marker type) (hbehind : ∀ e ∈ behind, e.IsSimple) :
      EndsMarked marker (tuple (before ++ .mk type name :: behind) nullable)

/-- The tuples that are taken for interfaces. -/
def TypeSyntax.IsMistaken (marker : Identifier) : TypeSyntax → Prop
  | named .. => False
  | array .. => False
  | tuple elements nullable => EndsMarked marker (tuple elements nullable)

/-! ## What is read of the texts -/

/-- The characters by which arrays and tuples are known. -/
def bracketChars : List Char := ['[', '(']

lemma angleChars_subset : angleChars ⊆ typePunctuation := by simp [angleChars, typePunctuation]

lemma jointChars_subset : jointChars ⊆ typePunctuation := by simp [jointChars, typePunctuation]

lemma bracketChars_subset : bracketChars ⊆ typePunctuation := by
  simp [bracketChars, typePunctuation]

lemma isNameChar_of_mem {c : Char} (hc : c ∈ typePunctuation) : isNameChar c = false := by
  rw [isNameChar, List.contains_eq_mem, decide_eq_true hc, Bool.or_true]
  rfl

section Pieces

variable {ds : List Char}

lemma Identifier.disjoint (n : Identifier) (hds : ds ⊆ typePunctuation) : n.chars.Disjoint ds :=
  fun c hc hd => absurd (n.isName c hc) (by rw [isNameChar_of_mem (hds hd)]; decide)

lemma nullableMark_disjoint (hmark : '?' ∉ ds) (nullable : Bool) :
    (nullableMark nullable).Disjoint ds := by
  cases nullable with
  | false => exact List.disjoint_nil_left _
  | true => exact List.singleton_disjoint.mpr hmark

lemma rankChars_disjoint (hrank : ['[', ',', ']'].Disjoint ds) (commas : ℕ) :
    (rankChars commas).Disjoint ds := by
  intro c hc hd
  simp only [rankChars, List.cons_append, List.mem_cons, List.mem_append, List.mem_replicate,
    List.not_mem_nil, or_false] at hc
  obtain rfl | ⟨-, rfl⟩ | rfl := hc <;> exact hrank (by decide) hd

lemma elementName_disjoint (hblank : ' ' ∉ ds) (hds : ds ⊆ typePunctuation)
    (name : Option Identifier) : (elementName name).Disjoint ds := by
  cases name with
  | none => exact List.disjoint_nil_left _
  | some n => exact List.disjoint_cons_left.mpr ⟨hblank, n.disjoint hds⟩

end Pieces

/-! ### Angle brackets -/

lemma Identifier.noAngles (n : Identifier) : n.chars.Disjoint angleChars :=
  n.disjoint angleChars_subset

lemma Joint.noAngles (j : Joint) : j.chars.Disjoint angleChars := by
  cases j <;> simp [Joint.chars, angleChars]

lemma nullableMark_noAngles (nullable : Bool) : (nullableMark nullable).Disjoint angleChars :=
  nullableMark_disjoint (by decide) nullable

lemma rankChars_noAngles (commas : ℕ) : (rankChars commas).Disjoint angleChars :=
  rankChars_disjoint (by simp [angleChars]) commas

lemma elementName_noAngles (name : Option Identifier) : (elementName name).Disjoint angleChars :=
  elementName_disjoint (by decide) angleChars_subset name

lemma separated_balanced {cs : List Char} (h : Balanced cs) : Balanced ([',', ' '] ++ cs) :=
  .char (by decide) (by decide) (.char (by decide) (by decide) h)

lemma enumerated_balanced {texts : List (List Char)} (h : ∀ cs ∈ texts, Balanced cs) :
    Balanced (enumerated texts) := by
  cases texts with
  | nil => exact .nil
  | cons cs texts =>
    have hcs := h cs (List.mem_cons_self ..)
    exact hcs.append (.flatMap fun ds hds => separated_balanced (h ds (List.mem_cons_of_mem _ hds)))

lemma angled_balanced {texts : List (List Char)} (h : ∀ cs ∈ texts, Balanced cs) :
    Balanced (angled texts) := by
  rw [angled]
  split
  · exact .nil
  · exact .angles (enumerated_balanced h) .nil

/-- Type arguments are not read. -/
lemma shown_angled {texts : List (List Char)} (h : ∀ cs ∈ texts, Balanced cs) :
    shown (angled texts) = [] := by
  rw [angled]
  split
  · rfl
  · exact shown_angles (enumerated_balanced h)

/-- A list is told apart at any of its texts. -/
lemma enumerated_append_cons (before : List (List Char)) (cs : List Char)
    (behind : List (List Char)) :
    enumerated (before ++ cs :: behind)
      = before.flatMap (· ++ [',', ' ']) ++ (cs ++ behind.flatMap ([',', ' '] ++ ·)) := by
  have hshift : ∀ texts : List (List Char),
      texts.flatMap ([',', ' '] ++ ·) ++ [',', ' ']
        = [',', ' '] ++ texts.flatMap (· ++ [',', ' ']) := by
    intro texts
    induction texts with
    | nil => rfl
    | cons ds texts ih =>
      rw [List.flatMap_cons, List.append_assoc, ih, List.flatMap_cons, List.append_assoc,
        List.append_assoc]
  cases before with
  | nil => rfl
  | cons ds before =>
    rw [List.cons_append, enumerated, List.flatMap_append, List.flatMap_cons, List.flatMap_cons]
    simp only [← List.append_assoc, hshift]

mutual

lemma NameSyntax.balanced : ∀ n : NameSyntax, Balanced n.chars
  | .simple name arguments =>
    (Balanced.of_disjoint name.noAngles).append (angled_balanced (typeTexts_balanced arguments))
  | .qualified outer joint name arguments =>
    (outer.balanced.append (.of_disjoint joint.noAngles)).append
      ((Balanced.of_disjoint name.noAngles).append
        (angled_balanced (typeTexts_balanced arguments)))

lemma TypeSyntax.balanced : ∀ t : TypeSyntax, Balanced t.chars
  | .named name nullable => name.balanced.append (.of_disjoint (nullableMark_noAngles nullable))
  | .array element commas nullable =>
    element.balanced.append (.append (.of_disjoint (rankChars_noAngles commas))
      (.of_disjoint (nullableMark_noAngles nullable)))
  | .tuple elements nullable =>
    .append (.char (by decide) (by decide) (enumerated_balanced (elementTexts_balanced elements)))
      (.char (by decide) (by decide) (.of_disjoint (nullableMark_noAngles nullable)))

lemma TupleElement.balanced : ∀ e : TupleElement, Balanced e.chars
  | .mk type name => type.balanced.append (.of_disjoint (elementName_noAngles name))

lemma typeTexts_balanced : ∀ ts : List TypeSyntax, ∀ cs ∈ typeTexts ts, Balanced cs
  | [], _, h => absurd h List.not_mem_nil
  | t :: ts, cs, h => by
    rw [typeTexts, List.mem_cons] at h
    obtain rfl | h := h
    · exact t.balanced
    · exact typeTexts_balanced ts cs h

lemma elementTexts_balanced : ∀ es : List TupleElement, ∀ cs ∈ elementTexts es, Balanced cs
  | [], _, h => absurd h List.not_mem_nil
  | e :: es, cs, h => by
    rw [elementTexts, List.mem_cons] at h
    obtain rfl | h := h
    · exact e.balanced
    · exact elementTexts_balanced es cs h

end

/-- What is read of a name before its last identifier. -/
def NameSyntax.front : NameSyntax → List Char
  | simple _ _ => []
  | qualified outer joint _ _ => shown outer.chars ++ joint.chars

lemma NameSyntax.shown_chars (n : NameSyntax) : shown n.chars = n.front ++ n.last.chars := by
  have hname : ∀ (name : Identifier) (arguments : List TypeSyntax),
      shown (name.chars ++ angled (typeTexts arguments)) = name.chars := by
    intro name arguments
    rw [shown_append (.of_disjoint name.noAngles), shown_angled (typeTexts_balanced arguments),
      shown_of_disjoint name.noAngles, List.append_nil]
  cases n with
  | simple name arguments => exact hname name arguments
  | qualified outer joint name arguments =>
    rw [NameSyntax.chars, shown_append (outer.balanced.append (.of_disjoint joint.noAngles)), hname,
      shown_append outer.balanced, shown_of_disjoint joint.noAngles]
    rfl

lemma shown_named (name : NameSyntax) (nullable : Bool) :
    shown (TypeSyntax.named name nullable).chars
      = name.front ++ name.last.chars ++ nullableMark nullable := by
  rw [TypeSyntax.chars, shown_append name.balanced, name.shown_chars,
    shown_of_disjoint (nullableMark_noAngles nullable)]

lemma shown_array (element : TypeSyntax) (commas : ℕ) (nullable : Bool) :
    shown (TypeSyntax.array element commas nullable).chars
      = shown element.chars ++ (rankChars commas ++ nullableMark nullable) := by
  rw [TypeSyntax.chars, shown_append element.balanced,
    shown_append (.of_disjoint (rankChars_noAngles commas)),
    shown_of_disjoint (rankChars_noAngles commas),
    shown_of_disjoint (nullableMark_noAngles nullable)]

lemma shown_element (type : TypeSyntax) (name : Option Identifier) :
    shown (TupleElement.mk type name).chars = shown type.chars ++ elementName name := by
  rw [TupleElement.chars, shown_append type.balanced,
    shown_of_disjoint (elementName_noAngles name)]

/-- Tuples are read from their opening parenthesis on. -/
lemma shown_tuple_eq_cons (elements : List TupleElement) (nullable : Bool) :
    shown (TypeSyntax.tuple elements nullable).chars
      = '(' :: shown (enumerated (elementTexts elements) ++ ')' :: nullableMark nullable) := by
  rw [TypeSyntax.chars, shown, List.cons_append, outsideAngles_cons (by decide) (by decide),
    if_pos rfl, shown]

/-- What is read of a tuple before the type of one of its elements. -/
def tupleFront (before : List TupleElement) : List Char :=
  '(' :: before.flatMap fun e => shown e.chars ++ [',', ' ']

/-- What is read of a tuple behind the type of one of its elements. -/
def tupleRest (name : Option Identifier) (behind : List TupleElement) (nullable : Bool) :
    List Char :=
  elementName name
    ++ ((behind.flatMap fun e => [',', ' '] ++ shown e.chars) ++ ')' :: nullableMark nullable)

lemma shown_tuple (before : List TupleElement) (type : TypeSyntax) (name : Option Identifier)
    (behind : List TupleElement) (nullable : Bool) :
    shown (TypeSyntax.tuple (before ++ .mk type name :: behind) nullable).chars
      = tupleFront before ++ (shown type.chars ++ tupleRest name behind nullable) := by
  have hbefore : ∀ e : TupleElement, Balanced (e.chars ++ [',', ' ']) :=
    fun e => e.balanced.append (separated_balanced .nil)
  have hbehind : ∀ e : TupleElement, Balanced ([',', ' '] ++ e.chars) :=
    fun e => separated_balanced e.balanced
  have hclose : (')' :: nullableMark nullable).Disjoint angleChars :=
    List.disjoint_cons_left.mpr ⟨by decide, nullableMark_noAngles nullable⟩
  have hfront :
      shown ('(' :: before.flatMap fun e => e.chars ++ [',', ' ']) = tupleFront before := by
    rw [shown, outsideAngles_cons (by decide) (by decide), if_pos rfl, ← shown,
      shown_flatMap fun e _ => hbefore e, tupleFront]
    simp only [shown_append (TupleElement.balanced _)]
    rfl
  rw [TypeSyntax.chars, elementTexts_eq_map, List.map_append, List.map_cons, enumerated_append_cons,
    TupleElement.chars, List.flatMap_map, List.flatMap_map, ← List.cons_append, List.append_assoc,
    List.append_assoc, List.append_assoc,
    shown_append (.char (by decide) (by decide) (.flatMap fun e _ => hbefore e)), hfront,
    shown_append type.balanced, shown_append (.of_disjoint (elementName_noAngles name)),
    shown_of_disjoint (elementName_noAngles name),
    shown_append (.flatMap fun e _ => hbehind e), shown_flatMap fun e _ => hbehind e,
    shown_of_disjoint hclose]
  rfl

/-! ## Reading a marked name -/

/-- What the test for interfaces asks of the name that it reads off a type. -/
def Passes (marker name : List Char) : Prop :=
  name.Disjoint bracketChars ∧ ∃ c cs, name = marker ++ c :: cs ∧ isUppercase c = true

lemma isInterface_iff (marker type : String) :
    isInterface marker type = true ↔ Passes marker.toList (baseTypeName type).toList := by
  rw [isInterface]
  generalize (baseTypeName type).toList = name
  simp only [Bool.and_eq_true, Bool.not_eq_true', List.contains_eq_mem, decide_eq_false_iff_not,
    List.isPrefixOf_iff_prefix, Option.any_eq_true, Passes, bracketChars,
    List.disjoint_cons_right, List.disjoint_nil_right, and_true, and_assoc]
  refine and_congr_right fun _ => and_congr_right fun _ => ?_
  constructor
  · rintro ⟨⟨rest, rfl⟩, c, hc, hupper⟩
    rw [List.drop_left, List.head?_eq_some_iff] at hc
    obtain ⟨cs, rfl⟩ := hc
    exact ⟨c, cs, rfl, hupper⟩
  · rintro ⟨c, cs, rfl, hupper⟩
    exact ⟨List.prefix_append .., c, by rw [List.drop_left]; rfl, hupper⟩

/-- What may come after a name in what is read of a type. -/
def closers : List Char := [')', ',', ' ', '?']

lemma closers_spec : ∀ c ∈ closers, isNameChar c = false ∧ isUppercase c = false := by
  simp [closers, isNameChar, typePunctuation, isUppercase, isBlank, inRanges, blankRanges]

/-- Texts that end a name and have no qualification. -/
structure Closing (cs : List Char) : Prop where
  head : ∀ c ∈ cs.head?, c ∈ closers
  disjoint : cs.Disjoint jointChars

namespace Closing

variable {cs : List Char}

lemma nil : Closing [] := ⟨by simp, List.disjoint_nil_left _⟩

lemma cons {c : Char} (hc : c ∈ closers) (hcs : cs.Disjoint jointChars) : Closing (c :: cs) := by
  refine ⟨by simpa using hc, List.disjoint_cons_left.mpr ⟨?_, hcs⟩⟩
  revert c
  simp [closers, jointChars]

lemma mark_append (hcs : Closing cs) (nullable : Bool) : Closing (nullableMark nullable ++ cs) := by
  cases nullable with
  | false => exact hcs
  | true => exact .cons (by decide) hcs.disjoint

end Closing

/-- Behind an element of a tuple, only the types of other elements may have brackets and joints. -/
lemma tupleRest_disjoint_iff {ds : List Char} (hds : ds ⊆ typePunctuation)
    (hclosers : closers.Disjoint ds) (name : Option Identifier) (behind : List TupleElement)
    (nullable : Bool) :
    (tupleRest name behind nullable).Disjoint ds ↔ ∀ e ∈ behind, (shown e.chars).Disjoint ds := by
  have hcloser : ∀ c ∈ closers, c ∉ ds := fun c hc hd => hclosers hc hd
  constructor
  · intro h e he c hc
    have hmem : c ∈ behind.flatMap fun e => [',', ' '] ++ shown e.chars :=
      List.mem_flatMap.mpr ⟨e, he, List.mem_append_right _ hc⟩
    exact h (List.mem_append_right _ (List.mem_append_left _ hmem))
  · intro h
    refine List.disjoint_append_left.mpr
      ⟨elementName_disjoint (hcloser ' ' (by decide)) hds name, List.disjoint_append_left.mpr
        ⟨?_, List.disjoint_cons_left.mpr
          ⟨hcloser ')' (by decide), nullableMark_disjoint (hcloser '?' (by decide)) nullable⟩⟩⟩
    intro c hc hd
    obtain ⟨e, he, hc⟩ := List.mem_flatMap.mp hc
    have hseparator : [',', ' '] ⊆ closers := by simp [closers]
    obtain hc | hc := List.mem_append.mp hc
    · exact hclosers (hseparator hc) hd
    · exact h e he hc hd

/-- Behind an element, the text of a tuple goes on with what ends a name. -/
lemma tupleRest_closing {behind : List TupleElement} {cs : List Char}
    (hcs : cs.Disjoint jointChars)
    (hbehind : ∀ e ∈ behind, (shown e.chars).Disjoint jointChars) (name : Option Identifier)
    (nullable : Bool) : Closing (tupleRest name behind nullable ++ cs) := by
  refine ⟨?_, List.disjoint_append_left.mpr ⟨?_, hcs⟩⟩
  · cases name with
    | none => cases behind <;> simp [tupleRest, elementName, closers]
    | some n => simp [tupleRest, elementName, closers]
  · exact (tupleRest_disjoint_iff jointChars_subset (by simp [closers, jointChars])
      name behind nullable).mpr hbehind

/-- In front of a closing text, a name is taken for what it is. -/
lemma passes_append_iff {marker n : Identifier} {cs : List Char} (hcs : Closing cs) :
    Passes marker.chars (n.chars ++ cs) ↔ n.IsMarked marker ∧ cs.Disjoint bracketChars := by
  constructor
  · rintro ⟨hbrackets, c, rest, heq, hupper⟩
    refine ⟨?_, (List.disjoint_append_left.mp hbrackets).2⟩
    have hclose : ∀ d ds, cs = d :: ds → isNameChar d = false ∧ isUppercase d = false :=
      fun d ds htext => closers_spec d (hcs.head d (by rw [htext]; rfl))
    obtain ⟨as, hmarker, htext⟩ | ⟨as, hname, htext⟩ := List.append_eq_append_iff.mp heq
    · -- neither the marker nor the upper-case letter reaches into the closing text
      cases as with
      | nil => exact absurd hupper (by rw [(hclose c rest htext).2]; decide)
      | cons d as =>
        have hmem : d ∈ marker.chars := by rw [hmarker]; simp
        exact absurd (marker.isName d hmem) (by rw [(hclose d _ htext).1]; decide)
    · cases as with
      | nil => exact absurd hupper (by rw [(hclose c rest htext.symm).2]; decide)
      | cons d as =>
        obtain ⟨rfl, -⟩ := List.cons_eq_cons.mp htext
        exact ⟨c, as, hname, hupper⟩
  · rintro ⟨⟨c, rest, hname, hupper⟩, hbrackets⟩
    refine ⟨List.disjoint_append_left.mpr ⟨n.disjoint bracketChars_subset, hbrackets⟩, c,
      rest ++ cs, ?_, hupper⟩
    rw [hname, List.append_assoc, List.cons_append]

/-! ## Which types are accepted -/

section Accepted

variable {marker : Identifier} {rest : List Char} (front : List Char)

/-- Behind its last joint, a qualified name is read as what it is. -/
lemma passes_qualified_iff {outer : NameSyntax} {joint : Joint} {name : Identifier}
    {arguments : List TypeSyntax} {nullable : Bool} (hrest : Closing rest) :
    Passes marker.chars (unqualified
        (front ++ shown (TypeSyntax.named (.qualified outer joint name arguments) nullable).chars
          ++ rest))
      ↔ name.IsMarked marker ∧ (nullableMark nullable ++ rest).Disjoint bracketChars := by
  -- all before the last joint is cut off, whatever stands in `front` and in `outer`
  have hend := hrest.mark_append nullable
  rw [shown_named, NameSyntax.front, NameSyntax.last, ← passes_append_iff hend,
    ← unqualified_behind (front ++ shown outer.chars) joint
      (List.disjoint_append_left.mpr ⟨name.disjoint jointChars_subset, hend.disjoint⟩)]
  simp only [List.append_assoc]

/-- An array is known by its brackets. -/
lemma not_passes_array (element : TypeSyntax) (commas : ℕ) (nullable : Bool)
    (hrest : rest.Disjoint jointChars) :
    ¬ Passes marker.chars (unqualified
        (front ++ shown (TypeSyntax.array element commas nullable).chars ++ rest)) := by
  have hrank : (rankChars commas).Disjoint jointChars :=
    rankChars_disjoint (by simp [jointChars]) commas
  have hmark : (nullableMark nullable).Disjoint jointChars :=
    nullableMark_disjoint (by decide) nullable
  have hmem : '[' ∈ rankChars commas ++ nullableMark nullable ++ rest := by simp [rankChars]
  -- the brackets stand behind the last qualification, wherever that is
  rintro ⟨hbrackets, -⟩
  rw [shown_array, ← List.append_assoc, List.append_assoc, unqualified_append _
    (List.disjoint_append_left.mpr ⟨List.disjoint_append_left.mpr ⟨hrank, hmark⟩, hrest⟩)]
    at hbrackets
  exact hbrackets (List.mem_append_right _ hmem) (by decide)

/-- The simple elements are those in which neither brackets nor joints are read. -/
lemma TupleElement.isSimple_iff (e : TupleElement) :
    e.IsSimple ↔ (shown e.chars).Disjoint jointChars ∧ (shown e.chars).Disjoint bracketChars := by
  obtain ⟨type, name⟩ := e
  rw [shown_element]
  cases type with
  | named n nullable =>
    rw [shown_named]
    cases n with
    | simple identifier arguments =>
      have hpieces : ∀ ds : List Char, ds ⊆ typePunctuation → '?' ∉ ds → ' ' ∉ ds →
          (identifier.chars ++ nullableMark nullable ++ elementName name).Disjoint ds := by
        intro ds hds hmark hblank
        simp only [List.disjoint_append_left]
        exact ⟨⟨identifier.disjoint hds, nullableMark_disjoint hmark _⟩,
          elementName_disjoint hblank hds name⟩
      exact iff_of_true trivial ⟨hpieces _ jointChars_subset (by decide) (by decide),
        hpieces _ bracketChars_subset (by decide) (by decide)⟩
    | qualified outer joint identifier arguments =>
      obtain ⟨c, hc, hjoint⟩ : ∃ c ∈ joint.chars, c ∈ jointChars := by
        cases joint <;> exact ⟨_, List.mem_cons_self .., by decide⟩
      exact iff_of_false id fun h => h.1 (by simp [NameSyntax.front, hc]) hjoint
  | array element commas nullable =>
    have hmem : '[' ∈ shown (TypeSyntax.array element commas nullable).chars := by
      rw [shown_array]
      simp [rankChars]
    exact iff_of_false id fun h => h.2 (List.mem_append_left _ hmem) (by decide)
  | tuple elements nullable =>
    have hmem : '(' ∈ shown (TypeSyntax.tuple elements nullable).chars := by
      rw [shown_tuple_eq_cons]
      exact List.mem_cons_self ..
    exact iff_of_false id fun h => h.2 (List.mem_append_left _ hmem) (by decide)

/-- Wherever a type stands that ends in a marked name, the whole is taken for an interface if all
that follows is simple. -/
lemma TypeSyntax.EndsMarked.passes {t : TypeSyntax} (ht : t.EndsMarked marker)
    (hrest : Closing rest) (hbrackets : rest.Disjoint bracketChars) (front : List Char) :
    Passes marker.chars (unqualified (front ++ shown t.chars ++ rest)) := by
  induction ht generalizing front rest with
  | @named _ _ _ _ nullable hname =>
    have hmark : (nullableMark nullable).Disjoint bracketChars :=
      nullableMark_disjoint (by decide) nullable
    exact (passes_qualified_iff front hrest).mpr
      ⟨hname, List.disjoint_append_left.mpr ⟨hmark, hbrackets⟩⟩
  | @tuple before behind type name nullable _ hbehind ih =>
    have hsimple := fun e he => (TupleElement.isSimple_iff e).mp (hbehind e he)
    have hrest' := tupleRest_closing hrest.disjoint (fun e he => (hsimple e he).1) name nullable
    have hbehind' := (tupleRest_disjoint_iff bracketChars_subset
      (by simp [closers, bracketChars]) name behind nullable).mpr fun e he => (hsimple e he).2
    have happly := ih hrest' (List.disjoint_append_left.mpr ⟨hbehind', hbrackets⟩)
      (front ++ tupleFront before)
    simpa only [shown_tuple, List.append_assoc] using happly

/-- The last of the members of a list with some property. -/
private lemma exists_last {α : Type} {P : α → Prop} {xs : List α} (h : ∃ x ∈ xs, P x) :
    ∃ before x behind, xs = before ++ x :: behind ∧ P x ∧ ∀ y ∈ behind, ¬ P y := by
  induction xs with
  | nil => simp at h
  | cons x xs ih =>
    by_cases hxs : ∃ y ∈ xs, P y
    · obtain ⟨before, y, behind, rfl, hy⟩ := ih hxs
      exact ⟨x :: before, y, behind, rfl, hy⟩
    · have hx : P x := by
        obtain ⟨y, hy, hP⟩ := h
        obtain rfl | hy := List.mem_cons.mp hy
        · exact hP
        · exact absurd ⟨y, hy, hP⟩ hxs
      exact ⟨[], x, xs, rfl, hx, fun y hy hP => hxs ⟨y, hy, hP⟩⟩

/-- A tuple is read without joints if its elements are. -/
lemma shown_tuple_disjoint {elements : List TupleElement} {nullable : Bool}
    (h : ∀ e ∈ elements, (shown e.chars).Disjoint jointChars) :
    (shown (TypeSyntax.tuple elements nullable).chars).Disjoint jointChars := by
  cases elements with
  | nil =>
    cases nullable <;> simp [TypeSyntax.chars, elementTexts, enumerated, nullableMark, shown,
      outsideAngles, jointChars]
  | cons e behind =>
    obtain ⟨type, name⟩ := e
    obtain ⟨htype, hbehind⟩ := List.forall_mem_cons.mp h
    rw [shown_element] at htype
    have hrest := tupleRest_closing (List.disjoint_nil_left _) hbehind name nullable
    rw [List.append_nil] at hrest
    rw [← List.nil_append (TupleElement.mk type name :: behind), shown_tuple, tupleFront,
      List.flatMap_nil, List.singleton_append]
    exact List.disjoint_cons_left.mpr ⟨by decide, List.disjoint_append_left.mpr
      ⟨(List.disjoint_append_left.mp htype).1, hrest.disjoint⟩⟩

/-- If a type with a qualification is taken for an interface, it ends in a marked name. -/
lemma TypeSyntax.endsMarked_of_passes (t : TypeSyntax) (front : List Char) {rest : List Char}
    (hjoint : ¬ (shown t.chars).Disjoint jointChars) (hrest : Closing rest)
    (h : Passes marker.chars (unqualified (front ++ shown t.chars ++ rest))) :
    t.EndsMarked marker := by
  match t with
  | .named (.simple name arguments) nullable =>
    refine absurd ?_ hjoint
    rw [shown_named]
    exact List.disjoint_append_left.mpr
      ⟨name.disjoint jointChars_subset, nullableMark_disjoint (by decide) nullable⟩
  | .named (.qualified outer joint name arguments) nullable =>
    exact .named ((passes_qualified_iff front hrest).mp h).1
  | .array element commas nullable =>
    exact absurd h (not_passes_array front element commas nullable hrest.disjoint)
  | .tuple elements nullable =>
    -- the last element with a qualification decides, as all before that is cut off
    have hsome : ∃ e ∈ elements, ¬ (shown e.chars).Disjoint jointChars := by
      by_contra hnone
      push Not at hnone
      exact hjoint (shown_tuple_disjoint hnone)
    obtain ⟨before, ⟨type, name⟩, behind, helements, htype, hbehind⟩ := exists_last hsome
    rw [helements] at h ⊢
    simp only [not_not] at hbehind
    rw [shown_element, List.disjoint_append_left] at htype
    have hname := elementName_disjoint (by decide) jointChars_subset name
    have hrest' := tupleRest_closing hrest.disjoint hbehind name nullable
    have hpasses : Passes marker.chars (unqualified
        ((front ++ tupleFront before) ++ shown type.chars
          ++ (tupleRest name behind nullable ++ rest))) := by
      simpa only [shown_tuple, List.append_assoc] using h
    refine .tuple (type.endsMarked_of_passes _ (fun htype' => htype ⟨htype', hname⟩) hrest' hpasses)
      fun e he => e.isSimple_iff.mpr ⟨hbehind e he, ?_⟩
    -- no bracket is left, so the elements behind have none either
    rw [unqualified_append _ hrest'.disjoint] at hpasses
    have hbrackets := (List.disjoint_append_left.mp hpasses.1).2
    exact (tupleRest_disjoint_iff bracketChars_subset (by simp [closers, bracketChars]) name behind
      nullable).mp (List.disjoint_append_left.mp hbrackets).1 e he
termination_by sizeOf t
decreasing_by
  have hmem : TupleElement.mk type name ∈ elements := by rw [helements]; simp
  have hsize := List.sizeOf_lt_of_mem hmem
  simp only [TupleElement.mk.sizeOf_spec, TypeSyntax.tuple.sizeOf_spec] at hsize ⊢
  omega

end Accepted

/-! ## What is read of a whole type -/

/-- A type without its mark for nullable. -/
def TypeSyntax.unmarked : TypeSyntax → TypeSyntax
  | named name _ => named name false
  | array element commas _ => array element commas false
  | tuple elements _ => tuple elements false

/-- Whether a type is marked as nullable. -/
def TypeSyntax.isNullable : TypeSyntax → Bool
  | named _ nullable => nullable
  | array _ _ nullable => nullable
  | tuple _ nullable => nullable

lemma TypeSyntax.chars_eq (t : TypeSyntax) :
    t.chars = t.unmarked.chars ++ nullableMark t.isNullable := by
  cases t <;> simp [TypeSyntax.chars, unmarked, isNullable, nullableMark]

lemma not_isBlank {c : Char} (hc : isNameChar c = true) : isBlank c = false := by
  rw [isNameChar, Bool.not_eq_true', Bool.or_eq_false_iff] at hc
  exact hc.1

/-- Names are read from their first character on. -/
lemma NameSyntax.shown_head : ∀ n : NameSyntax, ∃ c cs, shown n.chars = c :: cs ∧ isBlank c = false
  | .simple name arguments => by
    obtain ⟨c, cs, hname⟩ := List.exists_cons_of_ne_nil name.ne_nil
    refine ⟨c, cs, ?_, not_isBlank (name.isName c (by rw [hname]; exact List.mem_cons_self ..))⟩
    rw [shown_chars, front, last, List.nil_append, hname]
  | .qualified outer joint name arguments => by
    obtain ⟨c, cs, houter, hc⟩ := outer.shown_head
    exact ⟨c, _, by rw [shown_chars, front, houter, List.cons_append, List.cons_append], hc⟩

/-- Types are read from their first character on. -/
lemma TypeSyntax.shown_head : ∀ t : TypeSyntax, ∃ c cs, shown t.chars = c :: cs ∧ isBlank c = false
  | .named name nullable => by
    obtain ⟨c, cs, hname, hc⟩ := name.shown_head
    exact ⟨c, _, by rw [shown_named, ← name.shown_chars, hname, List.cons_append], hc⟩
  | .array element commas nullable => by
    obtain ⟨c, cs, helement, hc⟩ := element.shown_head
    exact ⟨c, _, by rw [shown_array, helement, List.cons_append], hc⟩
  | .tuple elements nullable => ⟨'(', _, shown_tuple_eq_cons elements nullable, by decide⟩

/-- Types without mark are read up to their last character, which is no question mark. -/
lemma TypeSyntax.shown_last (t : TypeSyntax) :
    ∃ cs c, shown t.unmarked.chars = cs ++ [c] ∧ isBlank c = false ∧ c ≠ '?' := by
  cases t with
  | named name nullable =>
    obtain hnil | ⟨cs, c, hname⟩ := List.eq_nil_or_concat name.last.chars
    · exact absurd hnil name.last.ne_nil
    · have hc : isNameChar c = true := name.last.isName c (by rw [hname]; simp)
      refine ⟨name.front ++ cs, c, ?_, not_isBlank hc, ?_⟩
      · rw [unmarked, shown_named, hname, nullableMark, List.append_nil, List.concat_eq_append,
          List.append_assoc]
      · rintro rfl
        exact absurd hc (by decide)
  | array element commas nullable =>
    refine ⟨shown element.chars ++ '[' :: List.replicate commas ',', ']', ?_, by decide, by decide⟩
    rw [unmarked, shown_array, rankChars, nullableMark, List.append_nil, List.append_assoc]
  | tuple elements nullable =>
    refine ⟨shown ('(' :: enumerated (elementTexts elements)), ')', ?_, by decide, by decide⟩
    rw [unmarked, TypeSyntax.chars, shown_append (.char (by decide) (by decide)
      (enumerated_balanced (elementTexts_balanced elements)))]
    rfl

/-- The name that is read off a type is what follows its last qualification. -/
lemma baseTypeName_text (t : TypeSyntax) :
    baseTypeName t.text = String.ofList (unqualified (shown t.unmarked.chars)) := by
  obtain ⟨cs, c, hlast, hc, hmark⟩ := t.shown_last
  obtain ⟨d, ds, hhead, hd⟩ := t.unmarked.shown_head
  have hshown : shown t.chars = shown t.unmarked.chars ++ nullableMark t.isNullable := by
    rw [t.chars_eq, shown_append t.unmarked.balanced,
      shown_of_disjoint (nullableMark_noAngles t.isNullable)]
  exact baseTypeName_of_shown hshown (nullableMark_eq t.isNullable) (by rw [hhead]; rfl) hd
    (by rw [hlast, List.getLast?_concat]) hc hmark

/-- The test for interfaces accepts a type by what follows its last qualification. -/
lemma isInterface_text (marker : Identifier) (t : TypeSyntax) :
    isInterface marker.text t.text = true
      ↔ Passes marker.chars (unqualified (shown t.unmarked.chars)) := by
  rw [isInterface_iff, baseTypeName_text, Identifier.text, String.toList_ofList,
    String.toList_ofList]

section Texts

variable (marker : Identifier)

lemma isInterface_named (name : NameSyntax) (nullable : Bool) :
    isInterface marker.text (TypeSyntax.named name nullable).text = true
      ↔ name.last.IsMarked marker := by
  have hread : unqualified (shown (TypeSyntax.named name false).chars) = name.last.chars := by
    rw [shown_named, nullableMark, List.append_nil]
    cases name with
    | simple name arguments => exact unqualified_append [] (name.disjoint jointChars_subset)
    | qualified outer joint name arguments =>
      exact unqualified_behind _ joint (name.disjoint jointChars_subset)
  rw [isInterface_text, TypeSyntax.unmarked, hread, ← List.append_nil name.last.chars,
    passes_append_iff .nil]
  exact and_iff_left (List.disjoint_nil_left _)

lemma isInterface_array (element : TypeSyntax) (commas : ℕ) (nullable : Bool) :
    isInterface marker.text (TypeSyntax.array element commas nullable).text = false := by
  rw [← Bool.not_eq_true, isInterface_text, TypeSyntax.unmarked]
  simpa using not_passes_array [] element commas false (List.disjoint_nil_left jointChars)

/-- The mark for nullable makes no difference to how a tuple ends. -/
lemma endsMarked_tuple_iff {elements : List TupleElement} (nullable nullable' : Bool) :
    (TypeSyntax.tuple elements nullable).EndsMarked marker
      ↔ (TypeSyntax.tuple elements nullable').EndsMarked marker := by
  constructor <;>
  · intro h
    cases h with
    | tuple htype hbehind => exact .tuple htype hbehind

lemma isInterface_tuple (elements : List TupleElement) (nullable : Bool) :
    isInterface marker.text (TypeSyntax.tuple elements nullable).text = true
      ↔ (TypeSyntax.tuple elements nullable).EndsMarked marker := by
  rw [isInterface_text, TypeSyntax.unmarked, endsMarked_tuple_iff marker nullable false]
  constructor
  · intro h
    refine TypeSyntax.endsMarked_of_passes _ [] (fun hjoint => ?_) .nil (by simpa using h)
    -- without qualification, the opening parenthesis is read
    rw [← List.nil_append (shown _), unqualified_append _ hjoint, shown_tuple_eq_cons] at h
    exact h.1 (List.mem_append_right _ (List.mem_cons_self ..)) (by decide)
  · intro h
    simpa using h.passes .nil (List.disjoint_nil_left _) []

end Texts

/-- A type is taken for an interface exactly if it is a name whose last identifier is marked, or if
it is one of the mistaken tuples. Only tuples with a qualified name among their element types can be
mistaken, and never an array. -/
theorem isInterface_text_iff (marker : Identifier) (t : TypeSyntax) :
    isInterface marker.text t.text = true ↔ t.IsInterfaceName marker ∨ t.IsMistaken marker := by
  cases t with
  | named name nullable =>
    rw [isInterface_named]
    exact (or_iff_left id).symm
  | array element commas nullable =>
    rw [isInterface_array]
    simp [TypeSyntax.IsInterfaceName, TypeSyntax.IsMistaken]
  | tuple elements nullable =>
    rw [isInterface_tuple]
    exact (or_iff_right id).symm

/-- The tuple of an `int` and a `System.IDisposable` is taken for an interface: what is left of its
text is `IDisposable)`, where nothing tells a tuple any more. -/
theorem isInterface_mistakes_tuple :
    ∃ (marker : Identifier) (elements : List TupleElement),
      marker.text = "I"
        ∧ (TypeSyntax.tuple elements false).text = "(int, System.IDisposable)"
        ∧ isInterface marker.text (TypeSyntax.tuple elements false).text = true
        ∧ ¬ (TypeSyntax.tuple elements false).IsInterfaceName marker := by
  let int : NameSyntax := .simple (.ofText "int" (by decide)) []
  let disposable : NameSyntax :=
    .qualified (.simple (.ofText "System" (by decide)) []) .point
      (.ofText "IDisposable" (by decide)) []
  exact ⟨.ofText "I" (by decide), [.mk (.named int false) none, .mk (.named disposable false) none],
    by decide, by decide, by decide, id⟩

end FixtureDraft
