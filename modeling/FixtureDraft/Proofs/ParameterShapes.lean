import FixtureDraft.Proofs.ParameterParts

/-!
# Shapes of parameters

Grammars differ in the shape that a parameter has in its list: a passing word is a node of its own
or the beginning of the type, and a collecting parameter is a node without fields or lies open between
its commas. `Shape` lists these shapes. Whatever mix of them a list has, the parameters read off it
are those that were written (`parametersOf_of_listing`).
-/

namespace FixtureDraft.Reader

open FixtureDraft.Text
open FixtureDraft.Tree

variable (s : Source)

/-! ## Passing words in a type text -/

/-- The first word of a text whose words are parted by spaces. -/
def firstWord (text : String) : String :=
  String.ofList (text.toList.takeWhile (· != ' '))

/-- The text of a type: it says something and does not begin with a passing word. -/
structure IsTypeText (text : String) : Prop where
  nonempty : text ≠ ""
  plain : Passing.ofWord? (firstWord text) = none

instance (text : String) : Decidable (IsTypeText text) :=
  decidable_of_iff (text ≠ "" ∧ Passing.ofWord? (firstWord text) = none)
    ⟨fun h => ⟨h.1, h.2⟩, fun h => ⟨h.nonempty, h.plain⟩⟩

lemma splitPassing_of_isTypeText {text : String} (h : IsTypeText text) :
    splitPassing text = (none, text) := by
  have hhead := h.plain
  unfold firstWord at hhead
  unfold splitPassing
  simp only [hhead]

/-- A passing word before a type is split off. -/
lemma splitPassing_word (m : Passing) {text : String} (h : text ≠ "") :
    splitPassing (m.word ++ " " ++ text) = (some m, text) := by
  have hlist : (m.word ++ " " ++ text).toList = m.word.toList ++ ' ' :: text.toList := by
    rw [String.toList_append, String.toList_append, List.append_assoc]
    rfl
  have hword : ∀ c ∈ m.word.toList, (c != ' ') = true := by
    cases m <;> simp [Passing.word]
  have hhead : (m.word ++ " " ++ text).toList.takeWhile (· != ' ') = m.word.toList := by
    rw [hlist, List.takeWhile_append_of_pos hword]
    simp
  have hrest : ((m.word ++ " " ++ text).toList.dropWhile (· != ' ')).drop 1 = text.toList := by
    rw [hlist, List.dropWhile_append_of_pos hword]
    simp
  have hne : text.toList.isEmpty = false := by
    rw [List.isEmpty_eq_false_iff]
    exact fun hnil => h (String.toList_eq_nil_iff.mp hnil)
  unfold splitPassing
  simp only [hhead, hrest, hne, String.ofList_toList, Passing.ofWord?_word, Bool.false_eq_true,
    if_false]

/-- A parameter whose name and type are found. -/
lemma parameter?_of_found {parts : Parts} {t nm : Node}
    (htype : parts.typeAt.bind (parts.members[·]?) = some t)
    (hname : parts.nameAt.bind (parts.members[·]?) = some nm) :
    parameter? s parts
      = some {
          name := s.text nm
          type := (splitPassing (squash (s.text t))).2
          passing := (splitPassing (squash (s.text t))).1 <|> parts.passing s } := by
  unfold parameter?
  rw [hname, htype]
  simp only [Option.bind_eq_bind, Option.bind_some]
  cases splitPassing (squash (s.text t)) with
  | mk word type => rfl

/-! ## Parameters with fields -/

/-- The parts of a parameter but for the first one that a field calls the type and the first one
that a field calls the name. -/
def otherParts (cs : List Node) : List Node :=
  (cs.eraseP (·.field == some .type)).eraseP (·.field == some .name)

/-- The passing words that some nodes say. -/
def wordsOf (cs : List Node) : List Passing :=
  cs.filterMap fun c => Passing.ofWord? (s.text c)

/-- No node is for a field for which none is found. -/
lemma findIdx?_of_find?_eq_none {cs : List Node} {P : Node → Bool} (h : cs.find? P = none) :
    cs.findIdx? P = none := by
  rw [List.findIdx?_eq_none_iff]
  exact fun c hc => by simpa using List.find?_eq_none.mp h c hc

/-- The first node for a field stands behind others that are not for it. -/
lemma exists_of_find?_field {cs : List Node} {f : Field} {c : Node}
    (hfind : cs.find? (·.field == some f) = some c) :
    c.field = some f ∧ ∃ pre post, cs = pre ++ c :: post ∧
      cs.findIdx? (·.field == some f) = some pre.length ∧
      cs.eraseP (·.field == some f) = pre ++ post := by
  obtain ⟨hc, pre, post, rfl, hpre⟩ := List.find?_eq_some_iff_append.mp hfind
  have hnone : ∀ d ∈ pre, ¬ (d.field == some f) = true := by
    intro d hd
    simpa using hpre d hd
  refine ⟨by simpa using hc, pre, post, rfl, ?_, ?_⟩
  · have hbefore : pre.findIdx? (·.field == some f) = none :=
      List.findIdx?_eq_none_iff.mpr fun d hd => by simpa using hnone d hd
    rw [List.findIdx?_append, hbefore, List.findIdx?_cons, hc]
    simp
  · rw [List.eraseP_append_right _ hnone,
      List.eraseP_cons_of_pos (p := fun d : Node => d.field == some f) hc]

/-- The passing words that the members but for one say. -/
lemma filterMap_ne_place (pre post : List Node) (c : Node) :
    (pre ++ c :: post).zipIdx.filterMap (fun q =>
        if (some q.2 != some pre.length) = true then Passing.ofWord? (s.text q.1) else none)
      = wordsOf s (pre ++ post) := by
  have hothers := filterMap_zipIdx_insert pre post c (fun q => Passing.ofWord? (s.text q.1))
    (fun q => if (some q.2 != some pre.length) = true then Passing.ofWord? (s.text q.1) else none)
    (fun m i => if_pos (by simpa using shift_ne pre.length i)) (by simp)
  rw [hothers]
  show (pre ++ post).zipIdx.filterMap ((fun c => Passing.ofWord? (s.text c)) ∘ Prod.fst) = _
  rw [← List.filterMap_map, List.zipIdx_map_fst]
  rfl

/-- Without the type, the passing words of a parameter are those of all members but the name. -/
lemma filterMap_wordOf?_insert (pre post : List Node) (t : Node) (j : ℕ) :
    (pre ++ t :: post).zipIdx.filterMap (fun q => (Parts.mk (pre ++ t :: post) (some pre.length)
        (some (shift pre.length j))).wordOf? s q.1 q.2)
      = (pre ++ post).zipIdx.filterMap (fun q =>
        if (some q.2 != some j) = true then Passing.ofWord? (s.text q.1) else none) := by
  refine filterMap_zipIdx_insert pre post t _ _ (fun m i => ?_) (by simp [Parts.wordOf?])
  have hne : (some (shift pre.length i) != some pre.length) = true := by
    simpa using shift_ne pre.length i
  have hname : (some (shift pre.length i) != some (shift pre.length j)) = (some i != some j) :=
    shift_bne_map pre.length i (some j)
  show (if (some (shift pre.length i) != some pre.length &&
    some (shift pre.length i) != some (shift pre.length j)) = true then _ else _) = _
  rw [hne, hname, Bool.true_and]

/-- The passing words of a parameter with fields are those of its other parts. -/
lemma filterMap_wordOf?_of_fields {cs : List Node} {t nm : Node}
    (htype : cs.find? (·.field == some .type) = some t)
    (hname : cs.find? (·.field == some .name) = some nm) :
    cs.zipIdx.filterMap (fun q => (Parts.mk cs (cs.findIdx? (·.field == some .type))
        (cs.findIdx? (·.field == some .name))).wordOf? s q.1 q.2)
      = wordsOf s (otherParts cs) := by
  obtain ⟨htfield, pre, post, rfl, htat, herase⟩ := exists_of_find?_field htype
  -- without the type the name is still the first node for its field
  have htname : (t.field == some Field.name) = false := by
    rw [htfield]
    rfl
  have hrest : (pre ++ post).find? (·.field == some .name) = some nm := by
    rw [List.find?_append, List.find?_cons_of_neg (by simp [htname])] at hname
    rw [List.find?_append, hname]
  obtain ⟨-, pre', post', hsplit, hnat, herase'⟩ := exists_of_find?_field hrest
  have hnat' := findIdx?_insert pre post (·.field == some .name) htname
  rw [hnat, Option.map_some] at hnat'
  rw [htat, hnat', filterMap_wordOf?_insert, hsplit, filterMap_ne_place, otherParts, herase,
    herase']

/-- A parameter with fields is read off its type, its name and the passing words of the rest. -/
lemma parameter?_of_fields {cs : List Node} {t nm : Node}
    (htype : cs.find? (·.field == some .type) = some t)
    (hname : cs.find? (·.field == some .name) = some nm) :
    parameter? s ⟨cs, cs.findIdx? (·.field == some .type), cs.findIdx? (·.field == some .name)⟩
      = some {
          name := s.text nm
          type := (splitPassing (squash (s.text t))).2
          passing := (splitPassing (squash (s.text t))).1 <|>
            (wordsOf s (otherParts cs)).getLast? } := by
  have hwords := filterMap_wordOf?_of_fields s htype hname
  rw [List.find?_eq_bind_findIdx?_getElem?] at htype hname
  obtain ⟨i, hi, ht⟩ := Option.bind_eq_some_iff.mp htype
  obtain ⟨j, hj, hn⟩ := Option.bind_eq_some_iff.mp hname
  rw [hi, hj] at hwords ⊢
  rw [← hwords, ← Parts.passing_eq]
  apply parameter?_of_found
  · exact ht
  · exact hn

/-! ## Collecting parameters without fields -/

/-- The nodes `w`, `t` and `nm` say the word of a collecting parameter, its type and its name. -/
structure Collecting (p : Parameter) (w t nm : Node) : Prop where
  word_kind : w.kind = .other "params"
  word_named : w.label.named = false
  word_text : s.text w = "params"
  type_named : t.label.named = true
  type_typed : Parts.isUntyped t.kind = false
  type_content : isContent t = true
  type_noComma : t.kind ≠ .comma
  type_text : squash (s.text t) = p.type
  name_kind : nm.kind = .identifier
  name_text : s.text nm = p.name
  passing : p.passing = none

section Collecting

variable {s} {p : Parameter} {w t nm : Node}

/-- The name of the three nodes is the only identifier, the last one. -/
lemma Collecting.nameAt (h : Collecting s p w t nm) :
    (Parts.mk [w, t, nm] none none).nameAt = some 2 := by
  have hw : (w.kind == .identifier) = false := by
    rw [h.word_kind]
    rfl
  have ht : (t.kind == .identifier) = false := by
    rw [beq_eq_false_iff_ne]
    intro hkind
    have htyped := h.type_typed
    rw [hkind] at htyped
    cases htyped
  rw [Parts.nameAt_of_none]
  show (List.filter _ [(w, 0), (t, 1), (nm, 2)]).getLast?.map _ = _
  simp [hw, ht, h.name_kind]

/-- The type of the three nodes is the one behind the word, which has no name of its own. -/
lemma Collecting.typeAt (h : Collecting s p w t nm) :
    (Parts.mk [w, t, nm] none none).typeAt = some 1 := by
  rw [Parts.typeAt_of_none]
  show (List.find? _ [(w, 0), (t, 1), (nm, 2)]).map _ = _
  simp [Parts.mayBeType, h.nameAt, h.word_named, h.type_named, h.type_typed]

/-- A collecting parameter without fields is read off its three nodes. -/
lemma Collecting.parameter? (h : Collecting s p w t nm) (hplain : IsTypeText p.type) :
    parameter? s ⟨[w, t, nm], none, none⟩ = some p := by
  have hpassing : (Parts.mk [w, t, nm] none none).passing s = none := by
    have hword : Passing.ofWord? "params" = none := by decide
    rw [Parts.passing_eq]
    show (List.filterMap _ [(w, 0), (t, 1), (nm, 2)]).getLast? = none
    simp [Parts.wordOf?, h.nameAt, h.typeAt, h.word_text, hword]
  have ht : (Parts.mk [w, t, nm] none none).typeAt.bind ([w, t, nm][·]?) = some t := by
    rw [h.typeAt]
    rfl
  have hn : (Parts.mk [w, t, nm] none none).nameAt.bind ([w, t, nm][·]?) = some nm := by
    rw [h.nameAt]
    rfl
  rw [parameter?_of_found s ht hn, hpassing, h.type_text, h.name_text,
    splitPassing_of_isTypeText hplain]
  show some { name := p.name, type := p.type, passing := none } = some p
  rw [← h.passing]

end Collecting

/-! ## The shapes -/

/-- The nodes `g` between two commas have one of the shapes of the parameter `p`. -/
inductive Shape (p : Parameter) : List Node → Prop
  /-- Fields tell the type and the name, and a node beside them says the passing word. -/
  | separate {c t nm : Node} (hc : isParameter c = true) (htype : c.child? .type = some t)
      (hname : c.child? .name = some nm) (hwritten : squash (s.text t) = p.type)
      (htext : s.text nm = p.name)
      (hwords : wordsOf s (otherParts c.children) = p.passing.toList) : Shape p [c]
  /-- Fields tell the type and the name, and the type begins with the passing word. -/
  | folded {c t nm : Node} {m : Passing} (hc : isParameter c = true)
      (htype : c.child? .type = some t) (hname : c.child? .name = some nm)
      (hpassing : p.passing = some m) (hwritten : squash (s.text t) = m.word ++ " " ++ p.type)
      (htext : s.text nm = p.name) : Shape p [c]
  /-- A node without fields holds a collecting parameter. -/
  | array {c w t nm : Node} (hc : isParameter c = true) (hcs : c.children = [w, t, nm])
      (htype : c.child? .type = none) (hname : c.child? .name = none)
      (h : Collecting s p w t nm) : Shape p [c]
  /-- A collecting parameter lies open in its list. -/
  | inlined {w t nm : Node} (h : Collecting s p w t nm) : Shape p [w, t, nm]

/-- No comma belongs to a shape. -/
lemma Shape.noComma {p : Parameter} {g : List Node} (h : Shape s p g) :
    ∀ c ∈ g, c.kind ≠ .comma := by
  intro d hd
  cases h with
  | separate hc => exact List.mem_singleton.mp hd ▸ (content_of_isParameter hc).2
  | folded hc => exact List.mem_singleton.mp hd ▸ (content_of_isParameter hc).2
  | array hc => exact List.mem_singleton.mp hd ▸ (content_of_isParameter hc).2
  | inlined h =>
    simp only [List.mem_cons, List.not_mem_nil, or_false] at hd
    rcases hd with rfl | rfl | rfl
    · simp [h.word_kind]
    · exact h.type_noComma
    · simp [h.name_kind]

/-- Each shape is read as the parameter that was written. -/
lemma Shape.readSegment {p : Parameter} {g : List Node} (h : Shape s p g)
    (hplain : IsTypeText p.type) : readSegment s g = some p := by
  unfold Reader.readSegment
  cases h with
  | separate hc htype hname hwritten htext hwords =>
    rw [ofSegment_parameter hc, parameter?_of_fields s htype hname, hwritten, htext,
      splitPassing_of_isTypeText hplain, hwords]
    have hlast : p.passing.toList.getLast? = p.passing := by cases p.passing <;> rfl
    rw [hlast]
    rfl
  | folded hc htype hname hpassing hwritten htext =>
    rw [ofSegment_parameter hc, parameter?_of_fields s htype hname, hwritten, htext,
      splitPassing_word _ hplain.nonempty]
    show some { name := p.name, type := p.type, passing := some _ } = some p
    rw [← hpassing]
  | array hc hcs htype hname h =>
    unfold Node.child? at htype hname
    rw [ofSegment_parameter hc, findIdx?_of_find?_eq_none htype, findIdx?_of_find?_eq_none hname,
      hcs]
    exact h.parameter? hplain
  | inlined h =>
    rw [ofSegment_open (by simp)]
    exact h.parameter? hplain

/-! ## Lists of parameters -/

/-- The nodes of a list write the parameters `ps`, each in a shape of its own, with commas between
them. -/
inductive Listing : List Parameter → List Node → Prop
  | nil : Listing [] []
  | last {p : Parameter} {g : List Node} (h : Shape s p g) : Listing [p] g
  | next {p : Parameter} {ps : List Parameter} {g cs : List Node} {comma : Node}
      (h : Shape s p g) (hcomma : comma.kind = .comma) (hrest : Listing ps cs) :
      Listing (p :: ps) (g ++ comma :: cs)

/-- The segments of a list are read one after the other, whatever their shapes. -/
lemma Listing.readSegments {ps : List Parameter} {cs : List Node} (h : Listing s ps cs)
    (hplain : ∀ p ∈ ps, IsTypeText p.type) :
    (splitAtCommas cs).filterMap (Reader.readSegment s) = ps := by
  induction h with
  | nil => rfl
  | @last p g h =>
    have hsplit : splitAtCommas g = [g] := by
      have happ : splitAtCommas (g ++ []) = [g ++ []] := splitAtCommas_append h.noComma rfl
      rwa [List.append_nil] at happ
    rw [hsplit, List.filterMap_cons_some (h.readSegment s (hplain p List.mem_cons_self))]
    rfl
  | @next p ps g cs comma h hcomma hrest ih =>
    have hsplit : splitAtCommas (g ++ comma :: cs) = g :: splitAtCommas cs := by
      have happ := splitAtCommas_append h.noComma (splitAtCommas_cons_comma hcomma cs)
      rwa [List.append_nil] at happ
    rw [hsplit, List.filterMap_cons_some (h.readSegment s (hplain p List.mem_cons_self)),
      ih fun p hp => hplain p (List.mem_cons_of_mem _ hp)]

/-- The parameters read off a list are those that were written, in their order, whatever mix of
shapes the list has. Parentheses and comments may stand anywhere between its nodes. -/
theorem parametersOf_of_listing {n list : Node} {ps : List Parameter}
    (hlist : n.child? .parameters = some list) (hplain : ∀ p ∈ ps, IsTypeText p.type)
    (h : Listing s ps (list.children.filter isContent)) : parametersOf s n = ps := by
  rw [parametersOf_eq s hlist]
  exact h.readSegments s hplain

/-! A list of all shapes: `([In] ref int a, out int b, params int[] c, /* and */ params T[] d)`. -/

/-- The text of the list. -/
def mixedSource : Source :=
  .ofText "([In] ref int a, out int b, params int[] c, /* and */ params T[] d)"

/-- The nodes of the list. -/
def mixedList : Node :=
  .node { kind := .other "parameter_list", field := some .parameters, start := 0, stop := 67 }
    [.node { kind := .openParenthesis, start := 0, stop := 1, named := false } [],
     .node { kind := .parameter, start := 1, stop := 15 }
      [.node { kind := .attributeList, start := 1, stop := 5 } [],
       .node { kind := .modifier, start := 6, stop := 9 } [],
       .node { kind := .other "predefined_type", field := some .type, start := 10, stop := 13 } [],
       .node { kind := .identifier, field := some .name, start := 14, stop := 15 } []],
     .node { kind := .comma, start := 15, stop := 16, named := false } [],
     .node { kind := .parameter, start := 17, stop := 26 }
      [.node { kind := .other "ref_type", field := some .type, start := 17, stop := 24 } [],
       .node { kind := .identifier, field := some .name, start := 25, stop := 26 } []],
     .node { kind := .comma, start := 26, stop := 27, named := false } [],
     .node { kind := .parameterArray, start := 28, stop := 42 }
      [.node { kind := .other "params", start := 28, stop := 34, named := false } [],
       .node { kind := .other "array_type", start := 35, stop := 40 } [],
       .node { kind := .identifier, start := 41, stop := 42 } []],
     .node { kind := .comma, start := 42, stop := 43, named := false } [],
     .node { kind := .comment, start := 44, stop := 53 } [],
     .node { kind := .other "params", start := 54, stop := 60, named := false } [],
     .node { kind := .other "array_type", start := 61, stop := 64 } [],
     .node { kind := .identifier, start := 65, stop := 66 } [],
     .node { kind := .closeParenthesis, start := 66, stop := 67, named := false } []]

/-- The parameters that the list writes. -/
def mixedParameters : List Parameter :=
  [{ name := "a", type := "int", passing := some .byRef },
   { name := "b", type := "int", passing := some .byOut },
   { name := "c", type := "int[]" }, { name := "d", type := "T[]" }]

lemma mixedList_listing :
    Listing mixedSource mixedParameters (mixedList.children.filter isContent) := by
  refine .next (g := [_]) (.separate rfl rfl rfl ?typeA ?nameA ?wordsA) rfl
    (.next (g := [_]) (.folded (m := .byOut) rfl rfl rfl rfl ?typeB ?nameB) rfl
    (.next (g := [_]) (.array rfl rfl rfl rfl ?partsC) rfl (.last (.inlined ?partsD))))
  case partsC =>
    exact ⟨rfl, rfl, by decide +kernel, rfl, rfl, rfl, by decide, by decide +kernel, rfl,
      by decide +kernel, rfl⟩
  case partsD =>
    exact ⟨rfl, rfl, by decide +kernel, rfl, rfl, rfl, by decide, by decide +kernel, rfl,
      by decide +kernel, rfl⟩
  all_goals decide +kernel

theorem parametersOf_mixedList :
    parametersOf mixedSource
      (.node { kind := .methodDeclaration, start := 0, stop := 67 } [mixedList])
      = mixedParameters :=
  parametersOf_of_listing mixedSource rfl (by decide +kernel) mixedList_listing

end FixtureDraft.Reader
