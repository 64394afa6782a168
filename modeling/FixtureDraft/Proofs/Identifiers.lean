import FixtureDraft.Proofs.SetupBodies
import FixtureDraft.Proofs.TestBodies
import FixtureDraft.Proofs.VerbatimNames
import FixtureDraft.Text.Letters

/-!
# Identifiers in fixtures

An identifier is a letter or an underscore and then letters, digits, combining marks and
underscores, perhaps with an `@` before it. Where the names in a class are identifiers, so are all
names that its fixture makes of them, but for one: the field for the instance under test keeps the
`@` of the name of the class behind its underscore. `inventedNames_legal_iff` says that nothing else
can go wrong.
-/

namespace FixtureDraft

namespace Text

/-! ## Characters of identifiers -/

/-- Letters that `XID_Start` leaves out. -/
def furtherLetters : List (Nat × Nat) :=
  [(0x37a, 0x37a), (0xe33, 0xe33), (0xeb3, 0xeb3), (0x2e2f, 0x2e2f), (0xfc5e, 0xfc63), (0xfdfa,
   0xfdfb), (0xfe70, 0xfe70), (0xfe72, 0xfe72), (0xfe74, 0xfe74), (0xfe76, 0xfe76), (0xfe78,
   0xfe78), (0xfe7a, 0xfe7a), (0xfe7c, 0xfe7c), (0xfe7e, 0xfe7e), (0xff9e, 0xff9f)]

/-- Members of `XID_Start` that are no letters. -/
def otherStarts : List (Nat × Nat) := [(0x1885, 0x1886), (0x2118, 0x2118), (0x212e, 0x212e)]

/-- Members of `XID_Continue`, the underscore aside, that are neither letters nor decimal digits
nor combining marks. -/
def otherContinues : List (Nat × Nat) :=
  [(0xb7, 0xb7), (0x387, 0x387), (0x1369, 0x1371), (0x19da, 0x19da), (0x203f, 0x2040), (0x2054,
   0x2054), (0x2118, 0x2118), (0x212e, 0x212e), (0xfe33, 0xfe34), (0xfe4d, 0xfe4f), (0xff3f,
   0xff3f)]

/-- Whether `c` is a letter: of the Unicode categories `Lu`, `Ll`, `Lt`, `Lm`, `Lo` and `Nl`. -/
def isLetter (c : Char) : Bool :=
  isStart c && !inRanges otherStarts c || inRanges furtherLetters c

/-- Whether `c` is a letter, a decimal digit, a combining mark or an underscore: of one of the
categories of letters, or `Nd`, `Mn` or `Mc`, or the underscore. -/
def isPart (c : Char) : Bool :=
  isContinue c && !inRanges otherContinues c || inRanges furtherLetters c

/-- Whether `c` may begin an identifier: it is a letter or an underscore. -/
def isFirst (c : Char) : Bool := isLetter c || c == '_'

/-! ## Tables of ranges -/

/-- Whether one of the ranges holds all code points from `first` to `last`. -/
def covers (ranges : List (Nat × Nat)) (first last : Nat) : Bool :=
  ranges.any fun r => r.1.ble first && last.ble r.2

/-- Whether no range holds any code point from `first` to `last`. -/
def misses (ranges : List (Nat × Nat)) (first last : Nat) : Bool :=
  ranges.all fun r => last.succ.ble r.1 || r.2.succ.ble first

section Ranges

variable {ranges : List (Nat × Nat)} {first last : ℕ} {c : Char}

lemma inRanges_of_covers (h : covers ranges first last = true) (hfirst : first ≤ c.toNat)
    (hlast : c.toNat ≤ last) : inRanges ranges c = true := by
  obtain ⟨r, hr, hcovers⟩ := List.any_eq_true.mp h
  simp only [Bool.and_eq_true, Nat.ble_eq] at hcovers
  exact inRanges_eq_true_iff.mpr ⟨r, hr, hcovers.1.trans hfirst, hlast.trans hcovers.2⟩

lemma inRanges_of_misses (h : misses ranges first last = true) (hfirst : first ≤ c.toNat)
    (hlast : c.toNat ≤ last) : inRanges ranges c = false := by
  rw [← Bool.not_eq_true, inRanges_eq_true_iff]
  rintro ⟨r, hr, hle⟩
  have hmisses := List.all_eq_true.mp h r hr
  simp only [Bool.or_eq_true, Nat.ble_eq] at hmisses
  omega

end Ranges

lemma isStart_of_le {c : Char} (h : 128 ≤ c.toNat) : isStart c = inRanges startRanges c :=
  if_neg (by omega)

/-- No letter is among the members of `XID_Continue` that are left out. -/
lemma isLetter_of_otherContinues {c : Char} (hc : inRanges otherContinues c = true) :
    isLetter c = false := by
  have htable : otherContinues.all fun r => 128 ≤ r.1 && misses furtherLetters r.1 r.2
      && (misses startRanges r.1 r.2 || covers otherStarts r.1 r.2) := by
    decide +kernel
  obtain ⟨r, hr, hfirst, hlast⟩ := inRanges_eq_true_iff.mp hc
  have hrow := List.all_eq_true.mp htable r hr
  rw [Bool.and_eq_true, Bool.and_eq_true, decide_eq_true_eq, Bool.or_eq_true] at hrow
  obtain ⟨⟨hascii, hfurther⟩, hstart⟩ := hrow
  rw [isLetter, inRanges_of_misses hfurther hfirst hlast, Bool.or_false,
    isStart_of_le (hascii.trans hfirst)]
  obtain hstart | hother := hstart
  · rw [inRanges_of_misses hstart hfirst hlast, Bool.false_and]
  · rw [inRanges_of_covers hother hfirst hlast, Bool.not_true, Bool.and_false]

/-- A letter may stand anywhere in an identifier. -/
lemma isPart_of_isLetter {c : Char} (h : isLetter c = true) : isPart c = true := by
  rw [isPart, Bool.or_eq_true, Bool.and_eq_true]
  obtain hstart | hfurther := Bool.or_eq_true_iff.mp h
  · refine Or.inl ⟨isContinue_of_isStart (Bool.and_eq_true_iff.mp hstart).1, ?_⟩
    cases hc : inRanges otherContinues c with
    | false => rfl
    | true => rw [isLetter_of_otherContinues hc] at h; cases h
  · exact Or.inr hfurther

lemma isPart_of_isFirst {c : Char} (h : isFirst c = true) : isPart c = true := by
  obtain h | h := Bool.or_eq_true_iff.mp h
  · exact isPart_of_isLetter h
  · rw [eq_of_beq h]
    decide

lemma isPart_of_isDigit {c : Char} (h : c.isDigit = true) : isPart c = true := by
  have hlt : c.toNat < 128 := by
    simp only [Char.isDigit, Bool.and_eq_true, decide_eq_true_eq, UInt32.le_iff_toNat_le] at h
    exact lt_of_le_of_lt h.2 (by decide)
  have hmisses : misses otherContinues 0 127 = true := by decide
  have hother : inRanges otherContinues c = false :=
    inRanges_of_misses hmisses (Nat.zero_le _) (by omega)
  rw [isPart, isContinue, if_pos hlt, hother, Char.isAlphanum, h]
  simp

lemma isPart_at : isPart '@' = false := by decide

/-! ## Lower case -/

/-- Whether the targets of a run of lower cases are characters that begin an identifier. -/
def LowerRun.startsNames (r : LowerRun) : Bool :=
  let last := r.target + (r.last - r.first)
  128 ≤ r.target && (last < 0xd800 || 0xdfff < r.target && last < 0x110000)
    && covers startRanges r.target last && misses otherContinues r.target last

/-- Whether the sources of a run of lower cases are no letters. -/
def LowerRun.hasNoLetters (r : LowerRun) : Bool :=
  128 ≤ r.first && misses startRanges r.first r.last && misses furtherLetters r.first r.last

/-- The runs keep to identifiers. Those that do not by their ranges are about one letter, whose
lower case is in ASCII. -/
lemma of_mem_lowerRuns {r : LowerRun} (hr : r ∈ lowerRuns) :
    r.startsNames = true ∨ r.hasNoLetters = true
      ∨ r.first = r.last ∧ isPart (Char.ofNat r.target) = true := by
  have htable : lowerRuns.all fun r => r.startsNames || r.hasNoLetters
      || r.first == r.last && isPart (Char.ofNat r.target) := by
    decide +kernel
  have hrow := List.all_eq_true.mp htable r hr
  rwa [Bool.or_eq_true, Bool.or_eq_true, Bool.and_eq_true, beq_iff_eq, or_assoc] at hrow

lemma isPart_of_startsNames {r : LowerRun} (h : r.startsNames = true) {k : ℕ}
    (hk : k ≤ r.last - r.first) : isPart (Char.ofNat (r.target + k)) = true := by
  simp only [LowerRun.startsNames, Bool.and_eq_true, Bool.or_eq_true, decide_eq_true_eq] at h
  obtain ⟨⟨⟨hascii, hvalid⟩, hstart⟩, hother⟩ := h
  have hnat : (Char.ofNat (r.target + k)).toNat = r.target + k := by
    rw [Char.toNat_ofNat, if_pos]
    exact hvalid.imp (fun h => by omega) (fun h => ⟨by omega, by omega⟩)
  have hisStart : isStart (Char.ofNat (r.target + k)) = true := by
    rw [isStart_of_le (by omega)]
    exact inRanges_of_covers hstart (by omega) (by omega)
  rw [Text.isPart, isContinue_of_isStart hisStart,
    inRanges_of_misses hother (by omega) (by omega)]
  rfl

lemma isFirst_of_hasNoLetters {r : LowerRun} (h : r.hasNoLetters = true) {c : Char}
    (hfirst : r.first ≤ c.toNat) (hlast : c.toNat ≤ r.last) : isFirst c = false := by
  simp only [LowerRun.hasNoLetters, Bool.and_eq_true, decide_eq_true_eq] at h
  obtain ⟨⟨hascii, hstart⟩, hfurther⟩ := h
  have hunder : (c == '_') = false := by
    rw [beq_eq_false_iff_ne]
    rintro rfl
    exact absurd (hascii.trans hfirst) (by decide)
  rw [Text.isFirst, isLetter, isStart_of_le (hascii.trans hfirst),
    inRanges_of_misses hstart hfirst hlast, inRanges_of_misses hfurther hfirst hlast, hunder]
  rfl

/-- The dot above is a combining mark. -/
lemma isPart_dotAbove : isPart '\u0307' = true := by
  have hcovers : covers continueRanges 0x307 0x307 = true := by decide
  have hmisses : misses otherContinues 0x307 0x307 = true := by decide
  have hmark : inRanges continueRanges '\u0307' = true :=
    inRanges_of_covers hcovers (by decide) (by decide)
  have hother : inRanges otherContinues '\u0307' = false :=
    inRanges_of_misses hmisses (by decide) (by decide)
  rw [isPart, isContinue, if_neg (by decide), hmark, hother, Bool.or_true]
  rfl

/-- The lower case of a letter is made of characters of identifiers. It need not be letters only:
that of `İ` has a dot above its `i`. -/
lemma isPart_of_mem_lowercase {c d : Char} (hc : isFirst c = true) (hd : d ∈ lowercase c) :
    isPart d = true := by
  have hascii : ∀ n < 128, isFirst (Char.ofNat n) = true →
      isPart (Char.ofNat n).toLower = true := by
    decide
  unfold lowercase at hd
  split at hd
  · rename_i hlt
    have hlower := hascii c.toNat hlt
    rw [Char.ofNat_toNat] at hlower
    rw [List.mem_singleton.mp hd]
    exact hlower hc
  · split at hd
    · -- the only letter with two characters for its lower case
      rw [List.mem_cons, List.mem_singleton] at hd
      obtain rfl | rfl := hd
      · exact isPart_of_isLetter (by decide)
      · exact isPart_dotAbove
    · split at hd
      · -- a letter of the table: a run that it may be in keeps to identifiers
        rename_i r hr
        have hcontains := List.find?_some hr
        simp only [LowerRun.contains, Bool.and_eq_true, decide_eq_true_eq] at hcontains
        rw [List.mem_singleton.mp hd]
        obtain hnames | hnone | ⟨hone, hpart⟩ := of_mem_lowerRuns (List.mem_of_find?_eq_some hr)
        · exact isPart_of_startsNames hnames (by omega)
        · rw [isFirst_of_hasNoLetters hnone hcontains.1.1 hcontains.1.2] at hc
          cases hc
        · rwa [show c.toNat - r.first = 0 by omega]
      · -- a letter without another case
        rw [List.mem_singleton.mp hd]
        exact isPart_of_isFirst hc

end Text

open Text

/-! ## Identifiers -/

/-- Whether some characters are an identifier without an `@`. -/
def isWord : List Char → Bool
  | [] => false
  | c :: cs => isFirst c && cs.all isPart

/-- Whether a name is an identifier. One `@` may stand before it. -/
def IsIdentifier (name : String) : Prop := isWord (bareName name) = true

instance (name : String) : Decidable (IsIdentifier name) := inferInstanceAs (Decidable (_ = _))

section Words

variable {cs ds : List Char} {x y : String}

lemma all_isPart_of_isWord (h : isWord cs = true) : cs.all isPart = true := by
  cases cs with
  | nil => cases h
  | cons c cs =>
    obtain ⟨hfirst, hrest⟩ := Bool.and_eq_true_iff.mp h
    rw [List.all_cons, isPart_of_isFirst hfirst, hrest]
    rfl

lemma isWord_append (h : isWord cs = true) (hds : ds.all isPart = true) :
    isWord (cs ++ ds) = true := by
  cases cs with
  | nil => cases h
  | cons c cs =>
    obtain ⟨hfirst, hrest⟩ := Bool.and_eq_true_iff.mp h
    rw [List.cons_append, isWord, hfirst, List.all_append, hrest, hds]
    rfl

/-- An underscore makes an identifier of all that may stand in one. -/
lemma isWord_underscore (h : cs.all isPart = true) : isWord ('_' :: cs) = true := by
  rw [isWord, h, Bool.and_true]
  decide

lemma bareName_append (hx : bareName x ≠ []) : bareName (x ++ y) = bareName x ++ y.toList := by
  unfold bareName at hx ⊢
  rw [String.toList_append]
  cases hchars : x.toList with
  | nil => rw [hchars] at hx; exact absurd rfl hx
  | cons c cs =>
    by_cases hc : c = '@'
    · subst hc
      rfl
    · rw [List.cons_append]
      split
      · rename_i heq
        exact absurd (List.cons.inj heq).1 hc
      · split
        · rename_i heq
          exact absurd (List.cons.inj heq).1 hc
        · rfl

/-- What may stand in an identifier may be put behind one. -/
lemma IsIdentifier.append (hx : IsIdentifier x) (hy : y.toList.all isPart = true) :
    IsIdentifier (x ++ y) := by
  have hne : bareName x ≠ [] := fun h => by
    rw [IsIdentifier, h] at hx
    cases hx
  rw [IsIdentifier, bareName_append hne]
  exact isWord_append hx hy

lemma IsIdentifier.numbered (hx : IsIdentifier x) (k : ℕ) : IsIdentifier (numbered x k) := by
  refine hx.append ?_
  rw [Nat.toString_eq_repr, Nat.toList_repr, List.all_eq_true]
  intro c hc
  exact isPart_of_isDigit (Nat.isDigit_of_mem_toDigits (by decide) (by decide) hc)

/-- The free name for an identifier is one. -/
lemma IsIdentifier.freeName (hx : IsIdentifier x) (taken : List String) :
    IsIdentifier (freeName x taken) := by
  obtain h | ⟨k, h⟩ := freeName_eq_or x taken
  · rwa [h]
  · rw [h]
    exact hx.numbered k

/-- Without its `@`s, an identifier is made of characters that may stand in one. -/
lemma IsIdentifier.all_isPart_dropWhile (hx : IsIdentifier x) :
    (x.toList.dropWhile (· == '@')).all isPart = true := by
  have hparts := all_isPart_of_isWord hx
  rw [List.all_eq_true] at hparts ⊢
  intro c hc
  refine hparts c ?_
  unfold bareName
  split
  · rename_i cs hchars
    rw [hchars, List.dropWhile_cons_of_pos (by rfl)] at hc
    exact (List.dropWhile_sublist _).subset hc
  · exact (List.dropWhile_sublist _).subset hc

end Words

/-! ## Names of a fixture -/

/-- Whether the names of a class, of its methods and of all parameters are identifiers. -/
def ClassDeclaration.NamesAreIdentifiers (c : ClassDeclaration) : Prop :=
  IsIdentifier c.name
    ∧ (∀ k ∈ c.constructors, ∀ p ∈ k.parameters, IsIdentifier p.name)
    ∧ ∀ m ∈ c.methods, IsIdentifier m.name ∧ ∀ p ∈ m.parameters, IsIdentifier p.name

instance (c : ClassDeclaration) : Decidable c.NamesAreIdentifiers :=
  inferInstanceAs (Decidable (_ ∧ _ ∧ _))

/-- All names that a fixture is given: its own, those of its fields and methods, and those of the
locals in its methods. -/
def inventedNames (rule : MockRule) (c : ClassDeclaration) : List String :=
  let f := draftFixture rule c
  let s := SetupPlan.ofClass rule c
  f.name :: f.memberNames ++ s.localNames
    ++ c.publicMethods.flatMap fun m => testLocalNames (s.receiver m) m

section Names

variable {rule : MockRule} {c : ClassDeclaration}

lemma isIdentifier_wantedName {p : Parameter} (hp : IsIdentifier p.name) :
    IsIdentifier (Dependency.wantedName rule p) := by
  rw [Dependency.wantedName]
  split
  · have hchars : ("_" ++ String.ofList (p.name.toList.dropWhile (· == '@'))).toList
        = '_' :: p.name.toList.dropWhile (· == '@') := by
      simp [String.toList_append]
    rw [IsIdentifier, bareName, hchars]
    exact isWord_underscore hp.all_isPart_dropWhile
  · exact hp

/-- The parameters of the primary constructor are those of some constructor. -/
lemma mem_constructors_of_primary {p : Parameter} (hp : p ∈ c.primaryConstructor.parameters) :
    ∃ k ∈ c.constructors, p ∈ k.parameters := by
  by_cases hnone : c.constructors = []
  · rw [primaryConstructor_of_eq_nil hnone] at hp
    cases hp
  · obtain ⟨before, after, heq, -, -⟩ := isFirstSimplest_primaryConstructor hnone
    exact ⟨c.primaryConstructor, by rw [heq]; simp, hp⟩

/-- What serves the parameters of the constructor goes by identifiers. -/
lemma isIdentifier_of_mem_served (h : c.NamesAreIdentifiers) {d : Dependency}
    (hd : d ∈ (SetupPlan.ofClass rule c).served) : IsIdentifier d.name := by
  obtain ⟨-, others, hname⟩ := of_mem_dependencies hd
  have hp : d.parameter ∈ c.primaryConstructor.parameters := by
    rw [← SetupPlan.map_parameter_dependencies rule c.primaryConstructor.parameters []]
    exact List.mem_map_of_mem hd
  obtain ⟨k, hk, hp⟩ := mem_constructors_of_primary hp
  rw [hname]
  exact (isIdentifier_wantedName (h.2.1 k hk _ hp)).freeName others

/-- The field for an instance is an identifier if the name of the class is one without an `@`. -/
lemma isIdentifier_instanceField {name : String} (hname : IsIdentifier name)
    (hplain : IsPlain name) : IsIdentifier (instanceField name) := by
  rw [IsIdentifier, bareName_of_isPlain hplain] at hname
  unfold instanceField
  cases hchars : name.toList with
  | nil => rw [hchars] at hname; cases hname
  | cons c cs =>
    rw [hchars] at hname
    obtain ⟨hfirst, hrest⟩ := Bool.and_eq_true_iff.mp hname
    rw [IsIdentifier, bareName, String.toList_ofList]
    refine isWord_underscore ?_
    show (lowercase c ++ cs).all isPart = true
    rw [List.all_append, hrest, Bool.and_true, List.all_eq_true]
    exact fun d hd => isPart_of_mem_lowercase hfirst hd

/-- Behind an underscore an `@` is out of place. -/
lemma not_isIdentifier_of_escape {name : String} {cs : List Char}
    (h : name.toList = '_' :: '@' :: cs) : ¬ IsIdentifier name := by
  rw [IsIdentifier, bareName, h]
  simp [isWord, isPart_at]

/-- The field for the instance under test is an identifier exactly if no `@` stands before the name
of the class. -/
lemma isIdentifier_subject_iff (hname : IsIdentifier c.name) :
    IsIdentifier (SetupPlan.ofClass rule c).subject ↔ IsPlain c.name := by
  constructor
  · intro h hhead
    obtain ⟨cs, hcs⟩ := List.head?_eq_some_iff.mp hhead
    obtain ⟨rest, hrest⟩ := prefix_freeName (instanceField c.name)
      (dependencies rule c.primaryConstructor.parameters []).2
    rw [toList_instanceField_of_verbatim hcs, List.cons_append, List.cons_append] at hrest
    exact not_isIdentifier_of_escape hrest.symm h
  · exact fun h => (isIdentifier_instanceField hname h).freeName _

/-- What is known of the names of methods is known of those of public ones. -/
lemma names_of_mem_publicMethods (h : c.NamesAreIdentifiers) {m : Method}
    (hm : m ∈ c.publicMethods) :
    IsIdentifier m.name ∧ ∀ p ∈ m.parameters, IsIdentifier p.name := by
  have hpublic : m ∈ c.methods.filter Method.isPublic := (List.mergeSort_perm _ _).mem_iff.mp hm
  exact h.2.2 m (List.mem_filter.mp hpublic).1

/-- The name of a test is an identifier. -/
lemma isIdentifier_of_mem_testNames (h : c.NamesAreIdentifiers) {x : String}
    (hx : x ∈ testNames (c.publicMethods.map (·.name))) : IsIdentifier x := by
  obtain ⟨name, hname, wanted, others, rfl, hwanted⟩ := exists_of_mem_testNames hx
  obtain ⟨m, hm, rfl⟩ := List.mem_map.mp hname
  have hmethod : IsIdentifier m.name := (names_of_mem_publicMethods h hm).1
  refine IsIdentifier.freeName ?_ others
  obtain rfl | ⟨i, rfl⟩ := hwanted
  · exact hmethod.append (by decide)
  · exact (hmethod.numbered i).append (by decide)

/-- The locals of a test are identifiers. -/
lemma isIdentifier_of_mem_testLocalNames (h : c.NamesAreIdentifiers) {m : Method}
    (hm : m ∈ c.publicMethods) {receiver x : String} (hx : x ∈ testLocalNames receiver m) :
    IsIdentifier x := by
  have hparameters := (names_of_mem_publicMethods h hm).2
  obtain hlocal | hresult := List.mem_append.mp hx
  · rw [testLocals, ← map_snd_withLocals] at hlocal
    obtain ⟨s, hs, rfl⟩ := List.mem_map.mp hlocal
    have hs1 : s.1 ∈ m.parameters := by
      rw [← map_fst_withLocals m.parameters]
      exact List.mem_map_of_mem hs
    by_cases hname : s.1.name ∈ reservedNames receiver
    · obtain ⟨before, after, heq⟩ := List.append_of_mem hs
      rw [snd_of_withLocals_eq heq hname]
      exact (hparameters _ hs1).freeName _
    · rw [snd_of_mem_withLocals hs hname]
      exact hparameters _ hs1
  · have hresults : ∀ y ∈ ["actual", "expected"], IsIdentifier y := by decide
    exact hresults x (resultNames_subset m hresult)

/-- Every name that a fixture is given is an identifier, with the exception of the field for the
instance under test. -/
lemma isIdentifier_of_mem_inventedNames (h : c.NamesAreIdentifiers) {x : String}
    (hx : x ∈ inventedNames rule c) :
    IsIdentifier x ∨ x = (SetupPlan.ofClass rule c).subject := by
  rw [inventedNames, List.mem_append, List.mem_append, List.mem_cons, Fixture.memberNames,
    List.mem_append, List.mem_cons, map_name_tests] at hx
  obtain (⟨rfl | hfield | rfl | htest⟩ | hsetup) | htests := hx
  · exact Or.inl (h.1.append (by decide))
  · obtain ⟨f, hf, rfl⟩ := List.mem_map.mp hfield
    obtain ⟨d, hd, -, hname⟩ | hname := SetupPlan.name_of_mem_fields hf
    · rw [hname]
      exact Or.inl (isIdentifier_of_mem_served h hd)
    · exact Or.inr hname
  · have hsetup : IsIdentifier "Setup" := by decide
    exact Or.inl hsetup
  · exact Or.inl (isIdentifier_of_mem_testNames h htest)
  · obtain ⟨d, hd, rfl⟩ := List.mem_map.mp hsetup
    exact Or.inl (isIdentifier_of_mem_served h (List.mem_filter.mp hd).1)
  · obtain ⟨m, hm, hlocal⟩ := List.mem_flatMap.mp htests
    exact Or.inl (isIdentifier_of_mem_testLocalNames h hm hlocal)

/-- The field for the instance under test is given a name. -/
lemma subject_mem_inventedNames : (SetupPlan.ofClass rule c).subject ∈ inventedNames rule c := by
  have hfield : (SetupPlan.ofClass rule c).subject
      ∈ (draftFixture rule c).fields.map (·.name) :=
    List.mem_map_of_mem (List.mem_append_right _ (List.mem_singleton_self _))
  exact List.mem_append_left _ (List.mem_append_left _ (List.mem_cons_of_mem _
    (List.mem_append_left _ hfield)))

end Names

/-- If the names in a class are identifiers, then so are all names that its fixture is given,
exactly if no `@` stands before the name of the class. In any case only the name of the field for
the instance under test can be none. -/
theorem inventedNames_legal_iff (rule : MockRule) (c : ClassDeclaration)
    (h : c.NamesAreIdentifiers) :
    ((∀ x ∈ inventedNames rule c, IsIdentifier x) ↔ IsPlain c.name)
      ∧ ∀ x ∈ inventedNames rule c, x ≠ (SetupPlan.ofClass rule c).subject → IsIdentifier x := by
  constructor
  · have hsubject : IsIdentifier (SetupPlan.ofClass rule c).subject ↔ IsPlain c.name :=
      isIdentifier_subject_iff h.1
    rw [← hsubject]
    constructor
    · exact fun hall => hall _ subject_mem_inventedNames
    · intro hsubject x hx
      obtain hlegal | rfl := isIdentifier_of_mem_inventedNames h hx
      · exact hlegal
      · exact hsubject
  · exact fun x hx hne => (isIdentifier_of_mem_inventedNames h hx).resolve_right hne

/-- The fixture of a class `İd` with a mock for `@event`, a local for `_event` and a static method
`@out(int actual)` has the names `İdTests`, `_event`, `_i̇d`, `@outTest` and so on. -/
theorem inventedNames_legal_of_dotted_capital :
    let c : ClassDeclaration :=
      { name := "İd"
        constructors := [{ parameters := [⟨"@event", "IFoo", none⟩, ⟨"_event", "int", none⟩] }]
        methods := [{ name := "@out", parameters := [⟨"actual", "int", none⟩], returns := "int",
                      modifiers := ["public", "static"] }] }
    c.NamesAreIdentifiers ∧ IsPlain c.name
      ∧ inventedNames MockRule.usual c = ["İdTests", "_event", "_i\u0307d", "Setup", "@outTest",
          "_event2", "actual2", "actual", "expected"]
      ∧ ∀ x ∈ inventedNames MockRule.usual c, IsIdentifier x := by
  intro c
  have hnames : c.NamesAreIdentifiers := by decide
  have hplain : IsPlain c.name := by decide
  exact ⟨hnames, hplain, by decide +kernel,
    (inventedNames_legal_iff MockRule.usual c hnames).1.mpr hplain⟩

/-- The names in a class can be identifiers without all names of its fixture being so: the field for
the instance of a class `@class` is `_@class`. -/
theorem not_forall_inventedNames_legal :
    ¬ ∀ (rule : MockRule) (c : ClassDeclaration), c.NamesAreIdentifiers →
      ∀ x ∈ inventedNames rule c, IsIdentifier x := by
  intro hall
  have hnames : ({ name := "@class" } : ClassDeclaration).NamesAreIdentifiers := by decide
  have hlegal := hall MockRule.usual { name := "@class" } hnames "_@class" (by decide)
  revert hlegal
  decide

end FixtureDraft
