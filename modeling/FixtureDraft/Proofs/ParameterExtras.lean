import FixtureDraft.Proofs.ParameterShapes

/-!
# Comments and directives between parameters

A grammar lets comments and preprocessor directives stand between any two nodes of a parameter list
and between any two parts of a parameter. `Place.Clear` says where they leave the parameters alone:
a comment between the nodes of a list everywhere, and any of them behind the type or where fields
tell the type. Everywhere else they are taken for the type, or a directive beside a parameter hides
it (`parametersOf_extras`).
-/

namespace FixtureDraft.Reader

open FixtureDraft.Text
open FixtureDraft.Tree

variable (s : Source)

/-! ## Texts of comments and directives -/

/-- The text begins as that of a comment or of a directive does. -/
def IsMarked (text : String) : Prop :=
  text.toList.head? = some '/' ∨ text.toList.head? = some '#'

instance (text : String) : Decidable (IsMarked text) :=
  inferInstanceAs (Decidable (_ ∨ _))

lemma IsMarked.ne_empty {text : String} (h : IsMarked text) : text ≠ "" := by
  rintro rfl
  rcases h with h | h <;> cases h

/-- No passing word begins so. -/
lemma IsMarked.ofWord?_eq_none {text : String} (h : IsMarked text) :
    Passing.ofWord? text = none := by
  unfold Passing.ofWord?
  rw [List.find?_eq_none]
  intro m _ hm
  have hword : m.word = text := by simpa using hm
  rw [← hword] at h
  cases m <;> simp [IsMarked, Passing.word] at h

lemma IsMarked.firstWord {text : String} (h : IsMarked text) : IsMarked (firstWord text) := by
  unfold IsMarked Reader.firstWord at *
  rw [String.toList_ofList]
  rcases h with h | h
  · obtain ⟨cs, hcs⟩ := List.head?_eq_some_iff.mp h
    left
    rw [hcs]
    rfl
  · obtain ⟨cs, hcs⟩ := List.head?_eq_some_iff.mp h
    right
    rw [hcs]
    rfl

/-- Nothing is split off such a text. -/
lemma IsMarked.isTypeText {text : String} (h : IsMarked text) : IsTypeText text :=
  ⟨h.ne_empty, h.firstWord.ofWord?_eq_none⟩

/-- What is kept first by squashing stays first. -/
lemma getLast?_foldl_push (cs : List Char) {q : Squashed} {c : Char}
    (hq : q.kept.getLast? = some c) : (cs.foldl Squashed.push q).kept.getLast? = some c := by
  induction cs generalizing q with
  | nil => exact hq
  | cons d cs ih =>
    rw [List.foldl_cons]
    apply ih
    obtain ⟨kept, gap⟩ := q
    obtain ⟨before, rfl⟩ := List.getLast?_eq_some_iff.mp hq
    unfold Squashed.push
    split
    · exact hq
    · split <;> simp [List.getLast?_cons]

lemma head?_squash {text : String} {c : Char} (hc : isBlank c = false)
    (h : text.toList.head? = some c) : (squash text).toList.head? = some c := by
  obtain ⟨cs, hcs⟩ := List.head?_eq_some_iff.mp h
  unfold squash
  rw [String.toList_ofList, List.head?_reverse, hcs, List.foldl_cons]
  apply getLast?_foldl_push
  unfold Squashed.push
  rw [if_neg (by simp [hc])]
  rfl

lemma IsMarked.squash {text : String} (h : IsMarked text) : IsMarked (squash text) := by
  rcases h with h | h
  · exact Or.inl (head?_squash (by decide) h)
  · exact Or.inr (head?_squash (by decide) h)

/-! ## Places for a further node -/

/-- A comment or a preprocessor directive. -/
structure IsExtra (x : Node) : Prop where
  kind : x.kind = .comment ∨ ∃ name, x.kind = .other name
  named : x.label.named = true
  field : x.field = none
  text : IsMarked (s.text x)

/-- A place for a further node in a parameter list: between its nodes or between the parts of one of
its parameters, which stands between the nodes `before` and `after`. -/
inductive Place
  | beside (before after : List Node)
  | inside (before : List Node) (parameter : Label)
      (h : isParameter (.node parameter []) = true) (pre post after : List Node)

namespace Place

/-- The nodes of the list. -/
def without : Place → List Node
  | beside before after => before ++ after
  | inside before l _ pre post after => before ++ .node l (pre ++ post) :: after

/-- The nodes of the list with `x` at the place. -/
def extended (x : Node) : Place → List Node
  | beside before after => before ++ x :: after
  | inside before l _ pre post after => before ++ .node l (pre ++ x :: post) :: after

/-- The nodes between two commas are not one parameter as a whole. -/
def IsOpen (g : List Node) : Prop := ∀ c, g = [c] → isParameter c = false

/-- None of the nodes between two commas is a name, so that they write no parameter. -/
def Nameless (g : List Node) : Prop := (Parts.ofSegment g).nameAt = none

/-- At the place the comment or directive `x` leaves the parameters alone: it is a comment between
the nodes of the list, it does not belong to a parameter, or the type of its parameter is known
before. -/
def Clear (x : Node) : Place → Prop
  | beside before after =>
    x.kind = .comment ∨ Nameless (leftOf before ++ rightOf after) ∨
      (IsOpen (leftOf before ++ rightOf after) ∧
        Parts.TypeBefore (leftOf before) (rightOf after) none none)
  | inside before l _ pre post after =>
    leftOf before ++ rightOf after ≠ [] ∨ Nameless [.node l (pre ++ post)] ∨
      Parts.TypeBefore pre post ((pre ++ post).findIdx? (·.field == some .type))
        ((pre ++ post).findIdx? (·.field == some .name))

end Place

section Extra

variable {s} {x : Node}

lemma IsExtra.kind_ne (hx : IsExtra s x) : x.kind ≠ .identifier := by
  rcases hx.kind with h | ⟨name, h⟩ <;> simp [h]

lemma IsExtra.not_isParameter (hx : IsExtra s x) : isParameter x = false := by
  unfold isParameter
  rcases hx.kind with h | ⟨name, h⟩ <;> simp [h]

lemma IsExtra.typed (hx : IsExtra s x) : Parts.isUntyped x.kind = false := by
  rcases hx.kind with h | ⟨name, h⟩ <;> simp [h, Parts.isUntyped]

lemma IsExtra.ofWord?_eq_none (hx : IsExtra s x) : Passing.ofWord? (s.text x) = none :=
  hx.text.ofWord?_eq_none

/-- A directive is kept among the nodes between commas. -/
lemma IsExtra.content (hx : IsExtra s x) (hcomment : x.kind ≠ .comment) :
    isContent x = true ∧ x.kind ≠ .comma := by
  rcases hx.kind with h | ⟨name, h⟩
  · exact absurd h hcomment
  · unfold isContent
    simp [h]

/-- With a comment or directive among them, nodes are never one parameter as a whole. -/
lemma IsExtra.isOpen (hx : IsExtra s x) (left right : List Node) :
    Place.IsOpen (left ++ x :: right) := by
  intro c hc
  have hmem : x ∈ [c] := hc ▸ List.mem_append_right _ List.mem_cons_self
  rw [← List.mem_singleton.mp hmem]
  exact hx.not_isParameter

end Extra

/-! ## One further node in a parameter -/

section Insert

variable {s} {pre post : List Node} {x : Node} {type? name? : Option ℕ}

/-- Where there is no name, a comment or directive does not make one. -/
lemma parameter?_insert_nameless (hx : IsExtra s x)
    (hnameless : (Parts.mk (pre ++ post) type? name?).nameAt = none) :
    parameter? s (Parts.insert pre x post type? name?)
      = parameter? s ⟨pre ++ post, type?, name?⟩ := by
  have hinsert : (Parts.insert pre x post type? name?).nameAt = none := by
    rw [Parts.nameAt_insert hx.kind_ne, hnameless]
    rfl
  rw [parameter?_eq_none s hinsert, parameter?_eq_none s hnameless]

/-- A comment or directive before a type that no field tells is taken for it. -/
lemma parameter?_insert_ne (hx : IsExtra s x)
    (hname : ∀ i, name? = some i → i < (pre ++ post).length)
    (hnamed : (Parts.mk (pre ++ post) type? name?).nameAt ≠ none)
    (hnot : ¬ Parts.TypeBefore pre post type? name?)
    (hplain : ∀ p, parameter? s ⟨pre ++ post, type?, name?⟩ = some p → ¬ IsMarked p.type) :
    parameter? s (Parts.insert pre x post type? name?)
      ≠ parameter? s ⟨pre ++ post, type?, name?⟩ := by
  obtain ⟨i, hi⟩ := Option.ne_none_iff_exists'.mp hnamed
  obtain ⟨nm, hnm⟩ := exists_of_nameAt hname hi
  have hfoundName : (Parts.insert pre x post type? name?).nameAt.bind
      ((Parts.insert pre x post type? name?).members[·]?) = some nm := by
    rw [Parts.nameAt_insert hx.kind_ne, hi]
    exact (getElem?_shift pre post x i).trans hnm
  have hfoundType : (Parts.insert pre x post type? name?).typeAt.bind
      ((Parts.insert pre x post type? name?).members[·]?) = some x := by
    rw [Parts.typeAt_insert_of_not hx.kind_ne hx.named hx.typed hnot]
    show (pre ++ x :: post)[pre.length]? = some x
    simp
  have hmarked : IsMarked (squash (s.text x)) := hx.text.squash
  intro hsame
  rw [parameter?_of_found s hfoundType hfoundName, splitPassing_of_isTypeText hmarked.isTypeText]
    at hsame
  exact hplain _ hsame.symm hmarked

end Insert

/-! ## One further node in a list -/

section Segment

variable {s} {left right : List Node} {x : Node}

lemma readSegment_of_nameless {g : List Node} (h : Place.Nameless g) : readSegment s g = none :=
  parameter?_eq_none s h

/-- A directive hides the parameter beside it. -/
lemma readSegment_beside_parameter (hx : IsExtra s x) {c : Node} (hc : isParameter c = true)
    (hlist : left ++ right = [c]) : readSegment s (left ++ x :: right) = none := by
  apply readSegment_eq_none s (hx.isOpen left right)
  intro d hd hkind
  have hmem : d = x ∨ d ∈ left ++ right := by
    simp only [List.mem_append, List.mem_cons] at hd ⊢
    tauto
  rcases hmem with rfl | hmem
  · exact hx.kind_ne hkind
  · rw [hlist, List.mem_singleton] at hmem
    rw [hmem] at hkind
    unfold isParameter at hc
    rw [hkind] at hc
    cases hc

/-- What is read off nodes between commas with a directive among them. -/
lemma readSegment_beside (hx : IsExtra s x) :
    readSegment s (left ++ x :: right) = parameter? s (Parts.insert left x right none none) := by
  unfold readSegment
  rw [ofSegment_open (hx.isOpen left right)]
  rfl

lemma readSegment_beside_of_clear (hx : IsExtra s x)
    (hclear : Place.Nameless (left ++ right) ∨
      (Place.IsOpen (left ++ right) ∧ Parts.TypeBefore left right none none)) :
    readSegment s (left ++ x :: right) = readSegment s (left ++ right) := by
  by_cases hopen : Place.IsOpen (left ++ right)
  · have hold : readSegment s (left ++ right) = parameter? s ⟨left ++ right, none, none⟩ := by
      unfold readSegment
      rw [ofSegment_open hopen]
    rw [readSegment_beside hx, hold]
    rcases hclear with hnameless | ⟨-, htype⟩
    · unfold Place.Nameless at hnameless
      rw [ofSegment_open hopen] at hnameless
      exact parameter?_insert_nameless hx hnameless
    · exact parameter?_insert s hx.kind_ne hx.ofWord?_eq_none htype
  · have hnameless : Place.Nameless (left ++ right) := by
      rcases hclear with h | ⟨h, -⟩
      · exact h
      · exact absurd h hopen
    obtain ⟨c, hlist, hc⟩ : ∃ c, left ++ right = [c] ∧ isParameter c = true := by
      simpa [Place.IsOpen] using hopen
    rw [readSegment_beside_parameter hx hc hlist, readSegment_of_nameless hnameless]

/-- A directive hides a parameter that is a node of its own, or it is taken for the type. -/
lemma readSegment_beside_ne (hx : IsExtra s x)
    (hnot : ¬ (Place.Nameless (left ++ right) ∨
      (Place.IsOpen (left ++ right) ∧ Parts.TypeBefore left right none none)))
    (hplain : ∀ p, readSegment s (left ++ right) = some p → ¬ IsMarked p.type) :
    readSegment s (left ++ x :: right) ≠ readSegment s (left ++ right) := by
  obtain ⟨hnamed, htype⟩ := not_or.mp hnot
  by_cases hopen : Place.IsOpen (left ++ right)
  · have hold : readSegment s (left ++ right) = parameter? s ⟨left ++ right, none, none⟩ := by
      unfold readSegment
      rw [ofSegment_open hopen]
    unfold Place.Nameless at hnamed
    rw [ofSegment_open hopen] at hnamed
    rw [hold] at hplain
    rw [readSegment_beside hx, hold]
    exact parameter?_insert_ne hx (by simp) hnamed (fun h => htype ⟨hopen, h⟩) hplain
  · obtain ⟨c, hlist, hc⟩ : ∃ c, left ++ right = [c] ∧ isParameter c = true := by
      simpa [Place.IsOpen] using hopen
    rw [hlist] at hnamed
    rw [readSegment_beside_parameter hx hc hlist, hlist]
    intro hnone
    obtain ⟨i, hi⟩ := Option.ne_none_iff_exists'.mp hnamed
    unfold readSegment at hnone
    rw [ofSegment_parameter hc] at hi hnone
    obtain ⟨nm, hnm⟩ := exists_of_nameAt
      (fun j hj => (List.findIdx?_eq_some_iff_findIdx_eq.mp hj).1) hi
    have hfound := congrArg (·.bind (c.children[·]?)) hi
    exact parameter?_ne_none s (hfound.trans hnm) hnone.symm

/-- What stands between other nodes is read by its label alone. -/
lemma readSegment_congr_label (l : Label) (cs cs' : List Node) (hne : left ++ right ≠ []) :
    readSegment s (left ++ .node l cs :: right) = readSegment s (left ++ .node l cs' :: right) := by
  have hopen : ∀ cs, Place.IsOpen (left ++ .node l cs :: right) := by
    intro cs c hc
    have hlength := congrArg List.length hc
    have hpos := List.length_pos_iff.mpr hne
    simp only [List.length_append, List.length_cons, List.length_nil] at hlength hpos
    omega
  have hbare := fun members => parameter?_map_of_label s (f := fun m => .node m.label [])
    (fun _ => rfl) members none none
  unfold readSegment
  rw [ofSegment_open (hopen cs), ofSegment_open (hopen cs'), ← hbare (left ++ .node l cs :: right),
    ← hbare (left ++ .node l cs' :: right), List.map_append, List.map_append, List.map_cons,
    List.map_cons]
  rfl

end Segment

section Parameter

variable {s} {l : Label} {pre post : List Node} {x : Node}

/-- What is read off a parameter, with its fields. -/
lemma readSegment_parameter (hl : isParameter (.node l []) = true) (cs : List Node) :
    readSegment s [.node l cs] = parameter? s ⟨cs, cs.findIdx? (·.field == some .type),
      cs.findIdx? (·.field == some .name)⟩ := by
  have hc : isParameter (.node l cs) = true := hl
  unfold readSegment
  rw [ofSegment_parameter hc]
  rfl

/-- What is read off a parameter with a comment or directive in it. -/
lemma readSegment_inside (hx : IsExtra s x) (hl : isParameter (.node l []) = true) :
    readSegment s [.node l (pre ++ x :: post)]
      = parameter? s (Parts.insert pre x post ((pre ++ post).findIdx? (·.field == some .type))
          ((pre ++ post).findIdx? (·.field == some .name))) := by
  have hfield : ∀ f : Field, (x.field == some f) = false := by
    intro f
    rw [hx.field]
    rfl
  rw [readSegment_parameter hl, findIdx?_insert pre post (·.field == some .type) (hfield .type),
    findIdx?_insert pre post (·.field == some .name) (hfield .name)]
  rfl

lemma nameless_parameter (hl : isParameter (.node l []) = true) (cs : List Node) :
    Place.Nameless [.node l cs] ↔ (Parts.mk cs (cs.findIdx? (·.field == some .type))
      (cs.findIdx? (·.field == some .name))).nameAt = none := by
  have hc : isParameter (.node l cs) = true := hl
  unfold Place.Nameless
  rw [ofSegment_parameter hc]
  rfl

end Parameter

/-! ## The parameters of a list with a further node -/

section Place

variable {s} {x : Node}

lemma content_of_parameter {l : Label} (hl : isParameter (.node l []) = true) (cs : List Node) :
    ∀ c ∈ [Node.node l cs], isContent c = true ∧ c.kind ≠ .comma := by
  intro c hc
  rw [List.mem_singleton.mp hc]
  exact content_of_isParameter hl

/-- A comment or directive inside a parameter matters exactly if it matters for that parameter,
which must not share its place with other nodes. -/
lemma readList_inside_iff (hx : IsExtra s x) {before after pre post : List Node} {l : Label}
    (hl : isParameter (.node l []) = true) :
    readList s (before ++ ([.node l (pre ++ x :: post)] ++ after))
        = readList s (before ++ ([.node l (pre ++ post)] ++ after)) ↔
      leftOf before ++ rightOf after ≠ [] ∨
        parameter? s (Parts.insert pre x post ((pre ++ post).findIdx? (·.field == some .type))
          ((pre ++ post).findIdx? (·.field == some .name)))
        = parameter? s ⟨pre ++ post, (pre ++ post).findIdx? (·.field == some .type),
          (pre ++ post).findIdx? (·.field == some .name)⟩ := by
  rw [readList_eq_iff s before after (content_of_parameter hl _) (content_of_parameter hl _)]
  by_cases halone : leftOf before ++ rightOf after = []
  · obtain ⟨hleft, hright⟩ := List.append_eq_nil_iff.mp halone
    rw [hleft, hright]
    simp only [List.nil_append, List.append_nil, ne_eq, not_true_eq_false, false_or]
    rw [readSegment_inside hx hl, readSegment_parameter hl]
  · exact iff_of_true (readSegment_congr_label l _ _ halone) (Or.inl halone)

/-- A comment or directive at a clear place leaves the parameters alone. -/
lemma readList_extended (hx : IsExtra s x) {p : Place} (hclear : p.Clear x) :
    readList s (p.extended x) = readList s p.without := by
  cases p with
  | beside before after =>
    show readList s (before ++ ([x] ++ after)) = readList s (before ++ ([] ++ after))
    by_cases hcomment : x.kind = .comment
    · unfold readList
      simp [isContent, hcomment]
    · rw [readList_eq_iff s before after (by simpa using hx.content hcomment) (by simp)]
      exact readSegment_beside_of_clear hx (hclear.resolve_left hcomment)
  | inside before l hl pre post after =>
    refine (readList_inside_iff hx hl).mpr ?_
    rcases hclear with hshared | hnameless | htype
    · exact Or.inl hshared
    · rw [nameless_parameter hl] at hnameless
      exact Or.inr (parameter?_insert_nameless hx hnameless)
    · exact Or.inr (parameter?_insert s hx.kind_ne hx.ofWord?_eq_none htype)

/-- A comment or directive at any other place changes the parameters. -/
lemma readList_extended_ne (hx : IsExtra s x) {p : Place} (hnot : ¬ p.Clear x)
    (hplain : ∀ q ∈ readList s p.without, ¬ IsMarked q.type) :
    readList s (p.extended x) ≠ readList s p.without := by
  cases p with
  | beside before after =>
    obtain ⟨hcomment, hsegment⟩ := not_or.mp hnot
    show readList s (before ++ ([x] ++ after)) ≠ readList s (before ++ ([] ++ after))
    rw [Ne, readList_eq_iff s before after (by simpa using hx.content hcomment) (by simp)]
    exact readSegment_beside_ne hx hsegment fun q hq =>
      hplain q (mem_readList s before after (by simp) hq)
  | inside before l hl pre post after =>
    obtain ⟨halone, hparts⟩ := not_or.mp hnot
    obtain ⟨hnamed, htype⟩ := not_or.mp hparts
    rw [nameless_parameter hl] at hnamed
    intro hsame
    refine absurd ((readList_inside_iff hx hl).mp hsame) (not_or.mpr ⟨halone, ?_⟩)
    refine parameter?_insert_ne hx (fun j hj => (List.findIdx?_eq_some_iff_findIdx_eq.mp hj).1)
      hnamed htype fun q hq => hplain q ?_
    refine mem_readList s before after (content_of_parameter hl _) ?_
    obtain ⟨hleft, hright⟩ := List.append_eq_nil_iff.mp (not_not.mp halone)
    rw [hleft, hright, List.nil_append, List.append_nil, readSegment_parameter hl]
    exact hq

end Place

/-! ## Any number of comments and directives -/

/-- The nodes of a list get one comment or directive more, at a place where `C` allows it. -/
def AddsExtra (C : Node → Place → Prop) (cs cs' : List Node) : Prop :=
  ∃ x p, IsExtra s x ∧ C x p ∧ cs = Place.without p ∧ cs' = Place.extended x p

/-- Any number of comments and directives at clear places leave the parameters alone. -/
lemma readList_of_clear {cs cs' : List Node}
    (h : Relation.ReflTransGen (AddsExtra s fun x p => p.Clear x) cs cs') :
    readList s cs' = readList s cs := by
  induction h with
  | refl => rfl
  | tail _ hstep ih =>
    obtain ⟨x, p, hx, hclear, rfl, rfl⟩ := hstep
    rw [readList_extended hx hclear, ih]

/-- Comments and directives leave the parameters of a declaration alone at clear places, so that
they are one for each that was written, and one at any other place changes them. -/
theorem parametersOf_extras {n n' list list' : Node} (hlist : n.child? .parameters = some list)
    (hlist' : n'.child? .parameters = some list') :
    (Relation.ReflTransGen (AddsExtra s fun x p => p.Clear x) list.children list'.children →
      parametersOf s n' = parametersOf s n ∧
        ∀ ps, (∀ p ∈ ps, IsTypeText p.type) → Listing s ps (list.children.filter isContent) →
          parametersOf s n' = ps) ∧
    (AddsExtra s (fun x p => ¬ p.Clear x) list.children list'.children →
      (∀ q ∈ parametersOf s n, ¬ IsMarked q.type) → parametersOf s n' ≠ parametersOf s n) := by
  rw [parametersOf_eq s hlist, parametersOf_eq s hlist']
  constructor
  · intro hsteps
    have hsame := readList_of_clear s hsteps
    exact ⟨hsame, fun ps hplain hps => hsame.trans (hps.readSegments s hplain)⟩
  · rintro ⟨x, p, hx, hnot, hcs, hcs'⟩ hplain
    rw [hcs] at hplain ⊢
    rw [hcs']
    exact readList_extended_ne hx hnot hplain

/-! A comment and a directive at clear places, and a directive that hides a parameter. -/

/-- A method that has a parameter list of these nodes. -/
def methodWith (stop : ℕ) (cs : List Node) : Node :=
  .node { kind := .methodDeclaration, start := 0, stop := stop }
    [.node { kind := .other "parameter_list", field := some .parameters, start := 0, stop := stop }
      cs]

/-- The text `(int /* a */ x, params T[] y)` with a directive before its last name. -/
def notedSource : Source := .ofText "(int /* a */ x, params T[]\n#pragma warning disable\ny)"

/-- The nodes of this list, but for those in `note` and `directive`. -/
def notedNodes (note directive : List Node) : List Node :=
  [.node { kind := .openParenthesis, start := 0, stop := 1, named := false } [],
   .node { kind := .parameter, start := 1, stop := 14 }
    ([.node { kind := .other "predefined_type", field := some .type, start := 1, stop := 4 } []]
      ++ (note ++
        [.node { kind := .identifier, field := some .name, start := 13, stop := 14 } []])),
   .node { kind := .comma, start := 14, stop := 15, named := false } [],
   .node { kind := .other "params", start := 16, stop := 22, named := false } [],
   .node { kind := .other "array_type", start := 23, stop := 26 } []]
  ++ (directive ++
    [.node { kind := .identifier, start := 51, stop := 52 } [],
     .node { kind := .closeParenthesis, start := 52, stop := 53, named := false } []])

/-- The comment of this list. -/
def note : Node := .node { kind := .comment, start := 5, stop := 12 } []

/-- The directive of this list. -/
def laterPragma : Node := .node { kind := .other "preproc_pragma", start := 27, stop := 50 } []

/-- The text `(int x)` with a directive before its parameter. -/
def hiddenSource : Source := .ofText "(\n#pragma warning disable\nint x)"

/-- The nodes of this list, but for those in `directive`. -/
def hiddenNodes (directive : List Node) : List Node :=
  [.node { kind := .openParenthesis, start := 0, stop := 1, named := false } []]
  ++ (directive ++
    [.node { kind := .parameter, start := 26, stop := 31 }
      [.node { kind := .other "predefined_type", field := some .type, start := 26, stop := 29 } [],
       .node { kind := .identifier, field := some .name, start := 30, stop := 31 } []],
     .node { kind := .closeParenthesis, start := 31, stop := 32, named := false } []])

/-- The directive of this list. -/
def pragma : Node := .node { kind := .other "preproc_pragma", start := 2, stop := 25 } []

lemma note_isExtra : IsExtra notedSource note := ⟨Or.inl rfl, rfl, rfl, by decide +kernel⟩

lemma laterPragma_isExtra : IsExtra notedSource laterPragma :=
  ⟨Or.inr ⟨_, rfl⟩, rfl, rfl, by decide +kernel⟩

lemma pragma_isExtra : IsExtra hiddenSource pragma :=
  ⟨Or.inr ⟨_, rfl⟩, rfl, rfl, by decide +kernel⟩

/-- The comment stands behind a type that a field tells, the directive behind an open one. -/
lemma notedNodes_clear :
    Relation.ReflTransGen (AddsExtra notedSource fun x p => p.Clear x) (notedNodes [] [])
      (notedNodes [note] [laterPragma]) := by
  have hnote : AddsExtra notedSource (fun x p => p.Clear x) (notedNodes [] [])
      (notedNodes [note] []) :=
    ⟨note, .inside [_] _ rfl [_] [_] _, note_isExtra, Or.inr (Or.inr (Or.inl rfl)), rfl, rfl⟩
  have hpragma : AddsExtra notedSource (fun x p => p.Clear x) (notedNodes [note] [])
      (notedNodes [note] [laterPragma]) := by
    refine ⟨laterPragma, .beside [_, _, _, _, _] _, laterPragma_isExtra,
      Or.inr (Or.inr ⟨?isOpen, Or.inr ?type⟩), rfl, rfl⟩
    case isOpen =>
      intro c hc
      cases hc
    case type =>
      exact ⟨(_, 1), List.mem_cons_of_mem _ List.mem_cons_self, by decide +kernel⟩
  exact (Relation.ReflTransGen.single hnote).tail hpragma

lemma notedNodes_listing :
    Listing notedSource [{ name := "x", type := "int" }, { name := "y", type := "T[]" }]
      ((notedNodes [] []).filter isContent) := by
  refine .next (g := [_]) (.separate rfl rfl rfl ?type ?name ?words) rfl (.last (.inlined ?parts))
  case parts =>
    exact ⟨rfl, rfl, by decide +kernel, rfl, rfl, rfl, by decide, by decide +kernel, rfl,
      by decide +kernel, rfl⟩
  all_goals decide +kernel

/-- The directive stands beside a parameter that is a node of its own. -/
lemma hiddenNodes_not_clear :
    AddsExtra hiddenSource (fun x p => ¬ p.Clear x) (hiddenNodes []) (hiddenNodes [pragma]) := by
  refine ⟨pragma, .beside [_] _, pragma_isExtra, ?_, rfl, rfl⟩
  rintro (hcomment | hnameless | ⟨hopen, -⟩)
  · cases hcomment
  · revert hnameless
    unfold Place.Nameless
    decide +kernel
  · have hwhole := hopen _ rfl
    revert hwhole
    decide +kernel

theorem parametersOf_noted_and_hidden :
    parametersOf notedSource (methodWith 53 (notedNodes [note] [laterPragma]))
      = [{ name := "x", type := "int" }, { name := "y", type := "T[]" }] ∧
    parametersOf hiddenSource (methodWith 32 (hiddenNodes [pragma]))
      ≠ parametersOf hiddenSource (methodWith 32 (hiddenNodes [])) := by
  have hlist : ∀ stop cs, (methodWith stop cs).child? .parameters = some (.node
      { kind := .other "parameter_list", field := some .parameters, start := 0, stop := stop } cs) :=
    fun _ _ => rfl
  have hnoted := (parametersOf_extras notedSource (hlist 53 (notedNodes [] []))
    (hlist 53 (notedNodes [note] [laterPragma]))).1 notedNodes_clear
  have hhidden := (parametersOf_extras hiddenSource (hlist 32 (hiddenNodes []))
    (hlist 32 (hiddenNodes [pragma]))).2 hiddenNodes_not_clear
  exact ⟨hnoted.2 _ (by decide +kernel) notedNodes_listing, hhidden (by decide +kernel)⟩

/-- Comments and directives do not leave the parameters alone at every place: the directive in
`hiddenSource` hides the only parameter. -/
theorem not_forall_parametersOf_extras : ¬ ∀ (s : Source) (n n' list list' : Node),
    n.child? .parameters = some list → n'.child? .parameters = some list' →
    Relation.ReflTransGen (AddsExtra s fun _ _ => True) list.children list'.children →
    parametersOf s n' = parametersOf s n := by
  intro hall
  have hstep : AddsExtra hiddenSource (fun _ _ => True) (hiddenNodes []) (hiddenNodes [pragma]) :=
    ⟨pragma, .beside [_] _, pragma_isExtra, trivial, rfl, rfl⟩
  have hsame := hall hiddenSource (methodWith 32 (hiddenNodes []))
    (methodWith 32 (hiddenNodes [pragma])) _ _ rfl rfl (Relation.ReflTransGen.single hstep)
  revert hsame
  decide +kernel

end FixtureDraft.Reader
