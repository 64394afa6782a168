import FixtureDraft.Declaration.Reader
import Mathlib

/-!
# Parts of parameters

A parameter is read off the nodes between two commas of its list (`readSegment`), and all that
counts about these nodes is which of them says the name, which the type, and which of the others are
passing words. A node that is none of the three may be added without a trace, as long as it is not
taken for the type (`parameter?_insert`).
-/

namespace FixtureDraft.Reader

open FixtureDraft.Text
open FixtureDraft.Tree

variable (s : Source)

/-! ## Nodes between commas -/

/-- Whether a node of a parameter list may be a part of a parameter. -/
def isContent (c : Node) : Bool :=
  !(c.kind == .openParenthesis || c.kind == .closeParenthesis || c.kind == .comment)

/-- The parameter that stands between two commas. -/
def readSegment (g : List Node) : Option Parameter :=
  parameter? s (Parts.ofSegment g)

lemma splitAtCommas_cons_comma {c : Node} (hc : c.kind = .comma) (cs : List Node) :
    splitAtCommas (c :: cs) = [] :: splitAtCommas cs := by
  rw [splitAtCommas, if_pos (by simp [hc])]

lemma splitAtCommas_cons {c : Node} (hc : c.kind ≠ .comma) {cs g : List Node}
    {gs : List (List Node)} (hcs : splitAtCommas cs = g :: gs) :
    splitAtCommas (c :: cs) = (c :: g) :: gs := by
  rw [splitAtCommas, if_neg (by simpa using hc), hcs]

lemma splitAtCommas_append {xs : List Node} (hxs : ∀ c ∈ xs, c.kind ≠ .comma) {cs g : List Node}
    {gs : List (List Node)} (hcs : splitAtCommas cs = g :: gs) :
    splitAtCommas (xs ++ cs) = (xs ++ g) :: gs := by
  induction xs with
  | nil => exact hcs
  | cons x xs ih =>
    have hrest := ih fun c hc => hxs c (List.mem_cons_of_mem _ hc)
    exact splitAtCommas_cons (hxs x List.mem_cons_self) hrest

/-- What stands behind a place in a list, up to the next comma. -/
def rightOf (after : List Node) : List Node :=
  (after.filter isContent).takeWhile (·.kind != .comma)

/-- What stands before a place in a list, back to the last comma. -/
def leftOf (before : List Node) : List Node :=
  (before.filter isContent).rtakeWhile (·.kind != .comma)

/-- The first segment ends at the first comma. -/
lemma splitAtCommas_takeWhile (cs : List Node) :
    ∃ gs, splitAtCommas cs = cs.takeWhile (·.kind != .comma) :: gs := by
  induction cs with
  | nil => exact ⟨[], rfl⟩
  | cons c cs ih =>
    obtain ⟨gs, hgs⟩ := ih
    by_cases hc : c.kind = .comma
    · rw [splitAtCommas_cons_comma hc, List.takeWhile_cons_of_neg (by simp [hc])]
      exact ⟨_, rfl⟩
    · rw [splitAtCommas_cons hc hgs, List.takeWhile_cons_of_pos (by simpa using hc)]
      exact ⟨gs, rfl⟩

/-- What stands before some nodes makes segments of its own and, from its last comma on, the
beginning of the first segment of these nodes. -/
lemma splitAtCommas_rtakeWhile (before : List Node) :
    ∃ front, ∀ cs g gs, splitAtCommas cs = g :: gs → splitAtCommas (before ++ cs)
      = front ++ (before.rtakeWhile (·.kind != .comma) ++ g) :: gs := by
  induction before using List.reverseRecOn with
  | nil => exact ⟨[], fun cs g gs hcs => hcs⟩
  | append_singleton before c ih =>
    obtain ⟨front, hfront⟩ := ih
    by_cases hc : c.kind = .comma
    · refine ⟨front ++ [before.rtakeWhile (·.kind != .comma)], fun cs g gs hcs => ?_⟩
      rw [List.append_assoc, List.singleton_append,
        hfront (c :: cs) [] (g :: gs) (by rw [splitAtCommas_cons_comma hc, hcs]),
        List.rtakeWhile_concat_neg _ _ _ (by simp [hc]), List.append_nil, List.append_assoc]
      rfl
    · refine ⟨front, fun cs g gs hcs => ?_⟩
      rw [List.append_assoc, List.singleton_append,
        hfront (c :: cs) (c :: g) gs (splitAtCommas_cons hc hcs),
        List.rtakeWhile_concat_pos _ _ _ (by simpa using hc), List.append_assoc]
      rfl

/-- The parameters that the nodes of a list write. -/
def readList (cs : List Node) : List Parameter :=
  (splitAtCommas (cs.filter isContent)).filterMap (readSegment s)

/-- The parameters read off a list are those before and those behind a place, and the one whose
segment goes over the place. -/
lemma exists_readList (before after : List Node) :
    ∃ front back, ∀ mid, (∀ c ∈ mid, isContent c = true ∧ c.kind ≠ .comma) →
      readList s (before ++ (mid ++ after))
        = front ++ ((readSegment s (leftOf before ++ (mid ++ rightOf after))).toList ++ back) := by
  obtain ⟨gs, hgs⟩ := splitAtCommas_takeWhile (after.filter isContent)
  obtain ⟨front, hfront⟩ := splitAtCommas_rtakeWhile (before.filter isContent)
  refine ⟨front.filterMap (readSegment s), gs.filterMap (readSegment s), fun mid hmid => ?_⟩
  have hcontent : mid.filter isContent = mid := List.filter_eq_self.mpr fun c hc => (hmid c hc).1
  have hsplit := hfront _ _ _ (splitAtCommas_append (fun c hc => (hmid c hc).2) hgs)
  unfold readList
  rw [List.filter_append, List.filter_append, hcontent, hsplit, List.filterMap_append,
    List.filterMap_cons]
  unfold leftOf rightOf
  cases readSegment s (List.rtakeWhile (·.kind != .comma) (before.filter isContent)
    ++ (mid ++ List.takeWhile (·.kind != .comma) (after.filter isContent))) with
  | none => rfl
  | some p => rfl

/-- Nodes may be replaced in a list exactly if they may be replaced in their segment. -/
lemma readList_eq_iff (before after : List Node) {mid mid' : List Node}
    (hmid : ∀ c ∈ mid, isContent c = true ∧ c.kind ≠ .comma)
    (hmid' : ∀ c ∈ mid', isContent c = true ∧ c.kind ≠ .comma) :
    readList s (before ++ (mid ++ after)) = readList s (before ++ (mid' ++ after)) ↔
      readSegment s (leftOf before ++ (mid ++ rightOf after))
        = readSegment s (leftOf before ++ (mid' ++ rightOf after)) := by
  obtain ⟨front, back, hread⟩ := exists_readList s before after
  have htoList : Function.Injective (Option.toList : Option Parameter → List Parameter) :=
    Function.LeftInverse.injective (g := List.head?) fun p => by cases p <;> rfl
  rw [hread mid hmid, hread mid' hmid', List.append_cancel_left_eq, List.append_cancel_right_eq]
  exact htoList.eq_iff

/-- What is read off the segment of a place is among the parameters. -/
lemma mem_readList (before after : List Node) {mid : List Node}
    (hmid : ∀ c ∈ mid, isContent c = true ∧ c.kind ≠ .comma) {p : Parameter}
    (hp : readSegment s (leftOf before ++ (mid ++ rightOf after)) = some p) :
    p ∈ readList s (before ++ (mid ++ after)) := by
  obtain ⟨front, back, hread⟩ := exists_readList s before after
  rw [hread mid hmid, hp]
  simp

/-- Nothing is read where nothing stands. -/
lemma readSegment_nil : readSegment s [] = none := rfl

/-- The parameters of a declaration are those that the nodes of its list write. -/
lemma parametersOf_eq {n list : Node} (hlist : n.child? .parameters = some list) :
    parametersOf s n = readList s list.children := by
  unfold parametersOf
  rw [hlist]
  show (List.filter (!·.isEmpty) (splitAtCommas (list.children.filter isContent))).filterMap
    (readSegment s) = readList s list.children
  rw [List.filterMap_filter]
  refine List.filterMap_congr fun g _ => ?_
  cases g with
  | nil => rw [readSegment_nil]; rfl
  | cons c g => rfl

/-! ## One node more -/

/-- Where the `i`-th member is found when there is one more member at place `k`. -/
def shift (k i : ℕ) : ℕ := if i < k then i else i + 1

lemma shift_injective (k : ℕ) : Function.Injective (shift k) := by
  intro i j hij
  unfold shift at hij
  split at hij
  · split at hij <;> omega
  · split at hij <;> omega

lemma shift_ne (k i : ℕ) : shift k i ≠ k := by
  unfold shift
  split <;> omega

lemma shift_bne_map (k i : ℕ) (o : Option ℕ) :
    (some (shift k i) != o.map (shift k)) = (some i != o) := by
  rw [← Option.map_some, Bool.eq_iff_iff, bne_iff_ne, bne_iff_ne]
  exact (Option.map_injective (shift_injective k)).ne_iff

lemma getElem?_shift {α : Type} (pre post : List α) (x : α) (i : ℕ) :
    (pre ++ x :: post)[shift pre.length i]? = (pre ++ post)[i]? := by
  unfold shift
  split
  · rename_i hlt
    rw [List.getElem?_append_left hlt, List.getElem?_append_left hlt]
  · rename_i hge
    rw [List.getElem?_append_right (by omega), List.getElem?_append_right (by omega),
      show i + 1 - pre.length = (i - pre.length) + 1 by omega, List.getElem?_cons_succ]

/-- The members with their places, when there is one more member. -/
lemma zipIdx_insert {α : Type} (pre post : List α) (x : α) :
    (pre ++ x :: post).zipIdx
      = pre.zipIdx.map (Prod.map id (shift pre.length)) ++
        (x, pre.length) :: (post.zipIdx pre.length).map (Prod.map id (shift pre.length)) := by
  have hpre : pre.zipIdx.map (Prod.map id (shift pre.length)) = pre.zipIdx := by
    refine (List.map_congr_left fun p hp => ?_).trans (List.map_id _)
    have hlt := List.snd_lt_of_mem_zipIdx hp
    simp only [Prod.map, shift, id_eq]
    rw [if_pos (by omega)]
  have hpost : (post.zipIdx pre.length).map (Prod.map id (shift pre.length))
      = post.zipIdx (pre.length + 1) := by
    rw [List.zipIdx_succ]
    refine List.map_congr_left fun p hp => ?_
    have hge := List.le_snd_of_mem_zipIdx hp
    simp only [Prod.map, shift, id_eq]
    rw [if_neg (by omega)]
  rw [hpre, hpost, List.zipIdx_append, List.zipIdx_cons, Nat.zero_add]

/-- The places of some members are theirs with one more member, too. -/
lemma filter_zipIdx_insert {α : Type} (pre post : List α) (x : α) (P P' : α × ℕ → Bool)
    (hP : ∀ m i, P' (m, shift pre.length i) = P (m, i)) (hx : P' (x, pre.length) = false) :
    (pre ++ x :: post).zipIdx.filter P'
      = ((pre ++ post).zipIdx.filter P).map (Prod.map id (shift pre.length)) := by
  have hcomp : P' ∘ Prod.map id (shift pre.length) = P := funext fun p => hP p.1 p.2
  rw [zipIdx_insert, List.filter_append, List.filter_cons_of_neg (by simp [hx]), List.filter_map,
    List.filter_map, hcomp, ← List.map_append, ← List.filter_append, List.zipIdx_append,
    Nat.zero_add]

/-- A member of which nothing is noted leaves what is noted of the others. -/
lemma filterMap_zipIdx_insert {α β : Type} (pre post : List α) (x : α) (f f' : α × ℕ → Option β)
    (hf : ∀ m i, f' (m, shift pre.length i) = f (m, i)) (hx : f' (x, pre.length) = none) :
    (pre ++ x :: post).zipIdx.filterMap f' = (pre ++ post).zipIdx.filterMap f := by
  have hcomp : f' ∘ Prod.map id (shift pre.length) = f := funext fun p => hf p.1 p.2
  rw [zipIdx_insert, List.filterMap_append, List.filterMap_cons_none hx, List.filterMap_map,
    List.filterMap_map, hcomp, ← List.filterMap_append, List.zipIdx_append, Nat.zero_add]

namespace Parts

variable {pre post : List Node} {x : Node} {type? name? : Option ℕ}

/-- The parts `pre ++ post` of a parameter with the further member `x` between them. -/
def insert (pre : List Node) (x : Node) (post : List Node) (type? name? : Option ℕ) : Parts :=
  ⟨pre ++ x :: post, type?.map (shift pre.length), name?.map (shift pre.length)⟩

/-- A field tells which part is the name. -/
@[simp] lemma nameAt_of_some (members : List Node) (type? : Option ℕ) (i : ℕ) :
    (Parts.mk members type? (some i)).nameAt = some i := rfl

/-- Without a field the name is the last identifier. -/
lemma nameAt_of_none (members : List Node) (type? : Option ℕ) :
    (Parts.mk members type? none).nameAt
      = (members.zipIdx.filter fun p => p.1.kind == .identifier).getLast?.map (·.2) := rfl

/-- A field tells which part is the type. -/
@[simp] lemma typeAt_of_some (members : List Node) (name? : Option ℕ) (i : ℕ) :
    (Parts.mk members (some i) name?).typeAt = some i := rfl

/-- Whether the `i`-th member may be taken for the type of `p`. -/
def mayBeType (p : Parts) (m : Node) (i : ℕ) : Bool :=
  m.label.named && some i != p.nameAt && !isUntyped m.kind

/-- Without a field the type is the first member that may be taken for it. -/
lemma typeAt_of_none (members : List Node) (name? : Option ℕ) :
    (Parts.mk members none name?).typeAt
      = (members.zipIdx.find? fun p => (Parts.mk members none name?).mayBeType p.1 p.2).map
        (·.2) := rfl

lemma nameAt_insert (hx : x.kind ≠ .identifier) :
    (insert pre x post type? name?).nameAt
      = (Parts.mk (pre ++ post) type? name?).nameAt.map (shift pre.length) := by
  cases name? with
  | some i => rfl
  | none =>
    have hfilter := filter_zipIdx_insert pre post x (fun p => p.1.kind == .identifier)
      (fun p => p.1.kind == .identifier) (fun m i => rfl) (by simpa using hx)
    unfold insert
    rw [Option.map_none, nameAt_of_none, nameAt_of_none, hfilter, List.getLast?_map,
      Option.map_map, Option.map_map]
    rfl

/-- A member is the name with one more member exactly if it was the name. -/
lemma shift_ne_nameAt_insert (hx : x.kind ≠ .identifier) (i : ℕ) :
    (some (shift pre.length i) != (insert pre x post type? name?).nameAt)
      = (some i != (Parts.mk (pre ++ post) type? name?).nameAt) := by
  rw [nameAt_insert hx, shift_bne_map]

/-- The type is told by a field, or it is found before the further member. -/
def TypeBefore (pre post : List Node) (type? name? : Option ℕ) : Prop :=
  type?.isSome = true ∨
    ∃ p ∈ pre.zipIdx, (Parts.mk (pre ++ post) type? name?).mayBeType p.1 p.2 = true

lemma typeAt_insert (hx : x.kind ≠ .identifier) (htype : TypeBefore pre post type? name?) :
    (insert pre x post type? name?).typeAt
      = (Parts.mk (pre ++ post) type? name?).typeAt.map (shift pre.length) := by
  cases type? with
  | some i => rfl
  | none =>
    rcases htype with hsome | ⟨p, hp, hmay⟩
    · cases hsome
    · -- the first member that may be the type stands before the further one
      set P : Node × ℕ → Bool :=
        fun p => (Parts.mk (pre ++ post) none name?).mayBeType p.1 p.2 with hP
      obtain ⟨first, hfirst⟩ := Option.isSome_iff_exists.mp
        (List.find?_isSome.mpr ⟨p, hp, show P p = true from hmay⟩)
      have hcomp : (fun p : Node × ℕ => (insert pre x post none name?).mayBeType p.1 p.2) ∘
          Prod.map id (shift pre.length) = P := by
        funext p
        simp only [hP, Function.comp_apply, mayBeType, Prod.map, id_eq, shift_ne_nameAt_insert hx]
      unfold insert at hcomp ⊢
      rw [Option.map_none] at hcomp ⊢
      rw [typeAt_of_none, typeAt_of_none, zipIdx_insert, List.zipIdx_append, List.find?_append,
        List.find?_append, List.find?_map, hcomp, hfirst]
      rfl

/-- A further member that may be the type is taken for it, if the type is neither told nor found
before it. -/
lemma typeAt_insert_of_not (hx : x.kind ≠ .identifier) (hnamed : x.label.named = true)
    (htyped : isUntyped x.kind = false) (hnot : ¬ TypeBefore pre post type? name?) :
    (insert pre x post type? name?).typeAt = some pre.length := by
  have htype : type? = none := by
    cases type? with
    | none => rfl
    | some i => exact absurd (Or.inl rfl) hnot
  subst htype
  have hmay : (insert pre x post none name?).mayBeType x pre.length = true := by
    have hne : (some pre.length != (insert pre x post none name?).nameAt) = true := by
      rw [nameAt_insert hx, bne_iff_ne]
      intro heq
      obtain ⟨i, -, hi⟩ := Option.map_eq_some_iff.mp heq.symm
      exact shift_ne pre.length i hi
    rw [mayBeType, hnamed, hne, htyped]
    rfl
  have hbefore : (pre.zipIdx.map (Prod.map id (shift pre.length))).find?
      (fun p => (insert pre x post none name?).mayBeType p.1 p.2) = none := by
    rw [List.find?_eq_none]
    intro q hq
    obtain ⟨p, hp, rfl⟩ := List.mem_map.mp hq
    have hpnot : ¬ (Parts.mk (pre ++ post) none name?).mayBeType p.1 p.2 = true :=
      fun h => hnot (Or.inr ⟨p, hp, h⟩)
    simpa only [mayBeType, Prod.map, id_eq, shift_ne_nameAt_insert hx] using hpnot
  unfold insert at hmay hbefore ⊢
  rw [Option.map_none] at hmay hbefore ⊢
  rw [typeAt_of_none, zipIdx_insert, List.find?_append, hbefore, List.find?_cons]
  simp only [hmay, Option.none_or, Option.map_some]

/-- The passing word that the `i`-th member says, if it is neither the type nor the name. -/
def wordOf? (p : Parts) (m : Node) (i : ℕ) : Option Passing :=
  if (some i != p.typeAt && some i != p.nameAt) = true then Passing.ofWord? (s.text m) else none

lemma passing_eq (p : Parts) :
    p.passing s = (p.members.zipIdx.filterMap fun q => p.wordOf? s q.1 q.2).getLast? := by
  show (List.filterMap (fun q => Passing.ofWord? (s.text q.1))
    (p.members.zipIdx.filter fun q => some q.2 != p.typeAt && some q.2 != p.nameAt)).getLast? = _
  rw [List.filterMap_filter]
  rfl

/-- The passing word of the parameter is said by the same member. -/
lemma passing_insert (hx : x.kind ≠ .identifier) (hword : Passing.ofWord? (s.text x) = none)
    (htype : TypeBefore pre post type? name?) :
    (insert pre x post type? name?).passing s
      = (Parts.mk (pre ++ post) type? name?).passing s := by
  have hshift : ∀ i, (some (shift pre.length i) != (insert pre x post type? name?).typeAt)
      = (some i != (Parts.mk (pre ++ post) type? name?).typeAt) := by
    intro i
    rw [typeAt_insert hx htype, shift_bne_map]
  have hwords := filterMap_zipIdx_insert pre post x
    (fun p => (Parts.mk (pre ++ post) type? name?).wordOf? s p.1 p.2)
    (fun p => (insert pre x post type? name?).wordOf? s p.1 p.2)
    (fun m i => by simp only [wordOf?, hshift, shift_ne_nameAt_insert hx])
    (by simp only [wordOf?, hword, ite_self])
  rw [passing_eq, passing_eq]
  exact congrArg List.getLast? hwords

end Parts

/-- A parameter is read alike with one more member, if that is neither a name nor a passing word and
stands behind the type, where no field tells the type. -/
theorem parameter?_insert {pre post : List Node} {x : Node} {type? name? : Option ℕ}
    (hx : x.kind ≠ .identifier) (hword : Passing.ofWord? (s.text x) = none)
    (htype : Parts.TypeBefore pre post type? name?) :
    parameter? s (Parts.insert pre x post type? name?)
      = parameter? s ⟨pre ++ post, type?, name?⟩ := by
  have hfind : ∀ i : Option ℕ, (i.map (shift pre.length)).bind
      ((Parts.insert pre x post type? name?).members[·]?) = i.bind ((pre ++ post)[·]?) := by
    intro i
    cases i with
    | none => rfl
    | some i => exact getElem?_shift pre post x i
  unfold parameter?
  rw [Parts.nameAt_insert hx, Parts.typeAt_insert hx htype, Parts.passing_insert s hx hword htype,
    hfind, hfind]

/-! ## Parameters in nodes of their own, and open ones -/

/-- Whether a node is a parameter as a whole. -/
def isParameter (c : Node) : Bool :=
  c.kind == .parameter || c.kind == .parameterArray

lemma content_of_isParameter {c : Node} (hc : isParameter c = true) :
    isContent c = true ∧ c.kind ≠ .comma := by
  have hkind : c.kind = .parameter ∨ c.kind = .parameterArray := by simpa [isParameter] using hc
  unfold isContent
  rcases hkind with h | h <;> simp [h]

/-- What a field of one of the nodes says is said at the same node with one more node. -/
lemma findIdx?_insert (pre post : List Node) {x : Node} (P : Node → Bool) (hx : P x = false) :
    (pre ++ x :: post).findIdx? P = ((pre ++ post).findIdx? P).map (shift pre.length) := by
  rw [List.findIdx?_append, List.findIdx?_append, List.findIdx?_cons, hx]
  cases hpre : pre.findIdx? P with
  | some i =>
    have hi : i < pre.length := (List.findIdx?_eq_some_iff_findIdx_eq.mp hpre).1
    simp [shift, hi]
  | none =>
    cases post.findIdx? P with
    | none => rfl
    | some j =>
      simp only [Option.none_or, Bool.false_eq_true, if_false, Option.map_some, shift]
      rw [if_neg (by omega)]
      congr 1
      omega

/-- A node that is a parameter as a whole says by fields which of its parts is which. -/
lemma ofSegment_parameter {c : Node} (hc : isParameter c = true) :
    Parts.ofSegment [c] = ⟨c.children, c.children.findIdx? (·.field == some .type),
      c.children.findIdx? (·.field == some .name)⟩ := by
  unfold Parts.ofSegment
  exact if_pos hc

/-- Nodes that are not one parameter as a whole are the parts of an open one. -/
lemma ofSegment_open {g : List Node} (hg : ∀ c, g = [c] → isParameter c = false) :
    Parts.ofSegment g = ⟨g, none, none⟩ := by
  unfold Parts.ofSegment
  split
  · rename_i c
    have hc : isParameter c = false := hg c rfl
    unfold isParameter at hc
    exact if_neg (by simp [hc])
  · rfl

/-- What is read off some nodes depends on nothing below them. -/
lemma parameter?_map_of_label {f : Node → Node} (hf : ∀ m, (f m).label = m.label)
    (members : List Node) (type? name? : Option ℕ) :
    parameter? s ⟨members.map f, type?, name?⟩ = parameter? s ⟨members, type?, name?⟩ := by
  have hkind : ∀ m, (f m).kind = m.kind := fun m => congrArg Label.kind (hf m)
  have htext : ∀ m, s.text (f m) = s.text m := by
    intro m
    unfold Source.text Node.start Node.stop
    rw [hf]
  have hname : (Parts.mk (members.map f) type? name?).nameAt
      = (Parts.mk members type? name?).nameAt := by
    cases name? with
    | some i => rfl
    | none =>
      rw [Parts.nameAt_of_none, Parts.nameAt_of_none, List.zipIdx_map, List.filter_map,
        List.getLast?_map, Option.map_map]
      simp only [Function.comp_def, Prod.map, hkind, id_eq]
  have htype : (Parts.mk (members.map f) type? name?).typeAt
      = (Parts.mk members type? name?).typeAt := by
    cases type? with
    | some i => rfl
    | none =>
      rw [Parts.typeAt_of_none, Parts.typeAt_of_none, List.zipIdx_map, List.find?_map,
        Option.map_map]
      simp only [Function.comp_def, Prod.map, Parts.mayBeType, hname, hkind, hf, id_eq]
  have hpassing : (Parts.mk (members.map f) type? name?).passing s
      = (Parts.mk members type? name?).passing s := by
    rw [Parts.passing_eq, Parts.passing_eq, List.zipIdx_map, List.filterMap_map]
    simp only [Function.comp_def, Prod.map, Parts.wordOf?, hname, htype, htext, id_eq]
  have hfind : ∀ i : Option ℕ,
      i.bind ((members.map f)[·]?) = (i.bind (members[·]?)).map f := by
    intro i
    cases i with
    | none => rfl
    | some i => exact List.getElem?_map
  unfold parameter?
  rw [hname, htype, hpassing, hfind, hfind]
  cases (Parts.mk members type? name?).nameAt.bind (members[·]?) with
  | none => rfl
  | some m =>
    cases (Parts.mk members type? name?).typeAt.bind (members[·]?) with
    | none => simp [htext]
    | some t => simp [htext]

/-- The name of an open parameter is an identifier. -/
lemma kind_of_nameAt {members : List Node} {type? : Option ℕ} {i : ℕ}
    (hi : (Parts.mk members type? none).nameAt = some i) :
    ∃ m, members[i]? = some m ∧ m.kind = .identifier := by
  rw [Parts.nameAt_of_none] at hi
  obtain ⟨⟨m, i⟩, hlast, rfl⟩ := Option.map_eq_some_iff.mp hi
  obtain ⟨hmem, hkind⟩ := List.mem_filter.mp (List.mem_of_getLast? hlast)
  exact ⟨m, List.mem_zipIdx_iff_getElem?.mp hmem, by simpa using hkind⟩

/-- The name of a parameter is one of its parts. -/
lemma exists_of_nameAt {members : List Node} {type? name? : Option ℕ}
    (hname : ∀ i, name? = some i → i < members.length) {i : ℕ}
    (hi : (Parts.mk members type? name?).nameAt = some i) : ∃ nm, members[i]? = some nm := by
  cases name? with
  | none =>
    obtain ⟨nm, hnm, -⟩ := kind_of_nameAt hi
    exact ⟨nm, hnm⟩
  | some j =>
    rw [Parts.nameAt_of_some] at hi
    exact ⟨_, List.getElem?_eq_getElem (hname i hi)⟩

/-- What has no name is no parameter. -/
lemma parameter?_eq_none {parts : Parts} (hname : parts.nameAt = none) :
    parameter? s parts = none := by
  unfold parameter?
  rw [hname]
  rfl

/-- What has a name is a parameter. -/
lemma parameter?_ne_none {parts : Parts} {nm : Node}
    (hname : parts.nameAt.bind (parts.members[·]?) = some nm) : parameter? s parts ≠ none := by
  unfold parameter?
  rw [hname]
  simp

/-- Open nodes without an identifier are no parameter. -/
lemma readSegment_eq_none {g : List Node} (hopen : ∀ c, g = [c] → isParameter c = false)
    (hg : ∀ c ∈ g, c.kind ≠ .identifier) : readSegment s g = none := by
  unfold readSegment
  rw [ofSegment_open hopen]
  apply parameter?_eq_none
  cases hname : (Parts.mk g none none).nameAt with
  | none => rfl
  | some i =>
    obtain ⟨m, hm, hkind⟩ := kind_of_nameAt hname
    exact absurd hkind (hg m (List.mem_of_getElem? hm))

end FixtureDraft.Reader
