import FixtureDraft.Proofs.Members

/-!
# Locals in generated bodies

An `@` before a name does not belong to the identifier, so that `@x` and `x` are the same local. The
names of a body are kept apart as texts only. `locals_distinguishable` says that nothing but such an
`@`, and a class that is named like a result, can make two locals of one body the same, or a local
the same as what the body uses; and which names in the source are enough to exclude that.
-/

namespace FixtureDraft

/-! ## Names as identifiers -/

/-- The identifier that a name stands for. One `@` before it is left out. -/
def bareName (name : String) : List Char :=
  match name.toList with
  | '@' :: cs => cs
  | cs => cs

/-- Parameters whose names are different identifiers. -/
abbrev DistinctParameters (ps : List Parameter) : Prop := (ps.map fun p => bareName p.name).Nodup

/-- Whether no `@` stands before a name. -/
def IsPlain (name : String) : Prop := name.toList.head? ≠ some '@'

instance (name : String) : Decidable (IsPlain name) := inferInstanceAs (Decidable (_ ≠ _))

/-- Whether the first name is the second, plain one with an `@` before it. -/
def IsEscapeOf (x y : String) : Prop := IsPlain y ∧ x = "@" ++ y

instance (x y : String) : Decidable (IsEscapeOf x y) := inferInstanceAs (Decidable (_ ∧ _))

lemma bareName_of_isPlain {x : String} (hx : IsPlain x) : bareName x = x.toList := by
  rw [IsPlain] at hx
  unfold bareName
  split
  · rename_i cs hchars
    rw [hchars] at hx
    exact absurd rfl hx
  · rfl

lemma bareName_escape (x : String) : bareName ("@" ++ x) = x.toList := by
  rw [bareName, String.toList_append]
  rfl

lemma not_isPlain_escape (x : String) : ¬ IsPlain ("@" ++ x) := by
  rw [IsPlain, String.toList_append]
  exact fun h => h rfl

lemma exists_of_not_isPlain {x : String} (hx : ¬ IsPlain x) : ∃ y, x = "@" ++ y := by
  rw [IsPlain, not_not, List.head?_eq_some_iff] at hx
  obtain ⟨cs, hcs⟩ := hx
  exact ⟨String.ofList cs, String.toList_inj.mp (by simp [hcs])⟩

/-- Different names are one identifier only where one of them is the other with an `@`. -/
lemma bareName_eq_iff (x y : String) :
    bareName x = bareName y ↔ x = y ∨ IsEscapeOf x y ∨ IsEscapeOf y x := by
  constructor
  · intro h
    by_cases hx : IsPlain x
    · rw [bareName_of_isPlain hx] at h
      by_cases hy : IsPlain y
      · rw [bareName_of_isPlain hy, String.toList_inj] at h
        exact Or.inl h
      · obtain ⟨z, rfl⟩ := exists_of_not_isPlain hy
        rw [bareName_escape, String.toList_inj] at h
        exact Or.inr (Or.inr ⟨hx, by rw [h]⟩)
    · obtain ⟨z, rfl⟩ := exists_of_not_isPlain hx
      rw [bareName_escape] at h
      by_cases hy : IsPlain y
      · rw [bareName_of_isPlain hy, String.toList_inj] at h
        exact Or.inr (Or.inl ⟨hy, by rw [h]⟩)
      · obtain ⟨w, rfl⟩ := exists_of_not_isPlain hy
        rw [bareName_escape, String.toList_inj] at h
        exact Or.inl (by rw [h])
  · rintro (rfl | ⟨hy, rfl⟩ | ⟨hx, rfl⟩)
    · rfl
    · rw [bareName_escape, bareName_of_isPlain hy]
    · rw [bareName_escape, bareName_of_isPlain hx]

lemma IsEscapeOf.ne {x y : String} (h : IsEscapeOf x y) : x ≠ y := by
  rintro rfl
  have hplain := h.1
  rw [h.2] at hplain
  exact not_isPlain_escape _ hplain

/-! ## Locals of one body -/

/-- Locals that are different identifiers, and other ones than some names that are used beside
them. -/
structure Distinguishable (locals others : List String) : Prop where
  nodup : (locals.map bareName).Nodup
  apart : ∀ l ∈ locals, ∀ n ∈ others, bareName l ≠ bareName n

instance (locals others : List String) : Decidable (Distinguishable locals others) :=
  decidable_of_iff
    ((locals.map bareName).Nodup ∧ ∀ l ∈ locals, ∀ n ∈ others, bareName l ≠ bareName n)
    ⟨fun h => ⟨h.1, h.2⟩, fun h => ⟨h.nodup, h.apart⟩⟩

/-- No local is another name with an `@` before it, and no other name is a local with an `@`. -/
def NoEscapes (locals others : List String) : Prop :=
  ∀ l ∈ locals, ∀ n ∈ locals ++ others, ¬ IsEscapeOf l n ∧ ¬ IsEscapeOf n l

instance (locals others : List String) : Decidable (NoEscapes locals others) :=
  inferInstanceAs (Decidable (∀ l ∈ locals, ∀ n ∈ locals ++ others, _ ∧ _))

/-- Locals that are different texts, and none of the others, are distinguishable if no name is one
of the locals with an `@` before it. -/
lemma distinguishable_iff {locals others : List String} (hnodup : locals.Nodup)
    (hapart : ∀ l ∈ locals, l ∉ others) :
    Distinguishable locals others ↔ NoEscapes locals others := by
  constructor
  · intro h l hl n hn
    have hinj := List.inj_on_of_nodup_map h.nodup
    have hsame : ¬ (bareName l = bareName n ∧ l ≠ n) := by
      rintro ⟨hbare, hne⟩
      obtain hn | hn := List.mem_append.mp hn
      · exact hne (hinj hl hn hbare)
      · exact h.apart l hl n hn hbare
    exact ⟨fun hln => hsame ⟨(bareName_eq_iff l n).mpr (.inr (.inl hln)), hln.ne⟩,
      fun hnl => hsame ⟨(bareName_eq_iff l n).mpr (.inr (.inr hnl)), hnl.ne.symm⟩⟩
  · intro h
    have hbare : ∀ l ∈ locals, ∀ n ∈ locals ++ others, bareName l = bareName n → l = n := by
      intro l hl n hn heq
      obtain heq | hln | hnl := (bareName_eq_iff l n).mp heq
      · exact heq
      · exact absurd hln (h l hl n hn).1
      · exact absurd hnl (h l hl n hn).2
    refine ⟨(List.nodup_map_iff_inj_on hnodup).mpr fun l hl n hn => ?_, fun l hl n hn heq => ?_⟩
    · exact hbare l hl n (List.mem_append_left _ hn)
    · obtain rfl := hbare l hl n (List.mem_append_right _ hn) heq
      exact hapart l hl hn

/-- Parameters that are different identifiers have different texts. -/
lemma nodup_names {ps : List Parameter} (hps : DistinctParameters ps) :
    (ps.map (·.name)).Nodup :=
  List.Nodup.of_map bareName (by rwa [List.map_map])

/-- Names are no escapes of each other if each of them is that of a parameter, or is plain and no
parameter is its escape. -/
lemma noEscapes_of_parameters {locals others : List String} {ps : List Parameter}
    (hps : DistinctParameters ps)
    (h : ∀ x ∈ locals ++ others, (∃ p ∈ ps, x = p.name) ∨
      IsPlain x ∧ ∀ p ∈ ps, p.name ≠ "@" ++ x) :
    NoEscapes locals others := by
  have hnone : ∀ x ∈ locals ++ others, ∀ y ∈ locals ++ others, ¬ IsEscapeOf x y := by
    intro x hx y hy hxy
    -- an escape is not plain, so it is a parameter, and what it escapes is no other one
    have hplain : ¬ IsPlain x := by rw [hxy.2]; exact not_isPlain_escape y
    obtain ⟨p, hp, rfl⟩ | ⟨hx, -⟩ := h x hx
    · obtain ⟨q, hq, rfl⟩ | ⟨-, hy⟩ := h y hy
      · have hbare := (bareName_eq_iff p.name q.name).mpr (.inr (.inl hxy))
        obtain rfl := List.inj_on_of_nodup_map hps hp hq hbare
        exact hxy.ne rfl
      · exact hy p hp hxy.2
    · exact hplain hx
  intro l hl n hn
  have hl' := List.mem_append_left others hl
  exact ⟨hnone l hl' n hn, hnone n hn l hl'⟩

lemma isPlain_of_beginsWithUnderscore {x : String} (hx : BeginsWithUnderscore x) : IsPlain x := by
  rw [IsPlain, hx]
  decide

lemma isPlain_numbered {x : String} (hx : IsPlain x) (k : ℕ) : IsPlain (numbered x k) := by
  rw [IsPlain, toList_numbered]
  cases hchars : x.toList with
  | nil =>
    -- a number alone begins with a digit
    intro hhead
    have hmem : '@' ∈ Nat.toDigits 10 k := List.mem_of_mem_head? hhead
    exact absurd (Nat.isDigit_of_mem_toDigits (by decide) (by decide) hmem) (by decide)
  | cons c cs =>
    rw [IsPlain, hchars] at hx
    exact hx

/-! ## Setup -/

namespace SetupPlan

variable (s : SetupPlan)

/-- The locals that the setup declares. -/
def localNames : List String := (s.served.filter fun d => !d.mocked).map (·.name)

/-- The fields that the setup sets. -/
def fieldNames : List String := s.fields.map (·.name)

/-- What `m` is called on in its test: the class, or the instance under test. -/
def receiver (m : Method) : String := if m.isStatic then s.className else s.subject

end SetupPlan

/-- What is reserved for the first of some parameters is its own name, or begins with an underscore
if all taken names of parameters do. -/
lemma freeName_wantedName {rule : MockRule} {p : Parameter} {taken : List String}
    (htaken : p.name ∈ taken → BeginsWithUnderscore p.name) :
    freeName (Dependency.wantedName rule p) taken = p.name
      ∨ BeginsWithUnderscore (freeName (Dependency.wantedName rule p) taken) := by
  cases hrule : rule p.type with
  | true => exact Or.inr (beginsWithUnderscore_freeName (beginsWithUnderscore_wantedName hrule) _)
  | false =>
    have hwanted : Dependency.wantedName rule p = p.name := by
      rw [Dependency.wantedName, hrule]
      rfl
    rw [hwanted]
    by_cases hmem : p.name ∈ taken
    · exact Or.inr (beginsWithUnderscore_freeName (htaken hmem) _)
    · exact Or.inl (freeName_of_not_mem hmem)

/-- What serves a parameter goes by the name of the parameter, or begins with an underscore: only a
field, or a local that was moved away from one, could have taken that name. -/
lemma name_of_mem_dependencies {rule : MockRule} {ps : List Parameter} {taken : List String}
    (hps : (ps.map (·.name)).Nodup)
    (htaken : ∀ p ∈ ps, p.name ∈ taken → BeginsWithUnderscore p.name) {d : Dependency}
    (hd : d ∈ (dependencies rule ps taken).1) :
    d.parameter ∈ ps ∧ (d.name = d.parameter.name ∨ BeginsWithUnderscore d.name) := by
  induction ps generalizing taken with
  | nil => cases hd
  | cons p ps ih =>
    rw [dependencies_cons] at hd
    rw [List.map_cons, List.nodup_cons] at hps
    have hfree : freeName (Dependency.wantedName rule p) taken = p.name
        ∨ BeginsWithUnderscore (freeName (Dependency.wantedName rule p) taken) :=
      freeName_wantedName (htaken p (List.mem_cons_self ..))
    obtain rfl | hd := List.mem_cons.mp hd
    · exact ⟨List.mem_cons_self .., hfree⟩
    · -- the name just given to `p` is that of no other parameter, unless it has an underscore
      have htaken' : ∀ q ∈ ps, q.name ∈ freeName (Dependency.wantedName rule p) taken :: taken →
          BeginsWithUnderscore q.name := by
        intro q hq hqtaken
        obtain heq | hqtaken := List.mem_cons.mp hqtaken
        · obtain hown | hunder := hfree
          · rw [hown] at heq
            exact absurd (heq ▸ List.mem_map_of_mem hq) hps.1
          · rwa [heq]
        · exact htaken q (List.mem_cons_of_mem _ hq) hqtaken
      obtain ⟨hmem, hname⟩ := ih hps.2 htaken' hd
      exact ⟨List.mem_cons_of_mem _ hmem, hname⟩

namespace SetupPlan

/-- Locals and fields of a setup never have the same text. -/
lemma nodup_localNames_append (rule : MockRule) (c : ClassDeclaration) :
    ((ofClass rule c).localNames ++ (ofClass rule c).fieldNames).Nodup := by
  have hperm : (ofClass rule c).served.Perm ((ofClass rule c).served.filter (!·.mocked)
      ++ (ofClass rule c).served.filter (·.mocked)) :=
    (List.filter_append_perm _ _).symm.trans List.perm_append_comm
  rw [localNames, fieldNames, fields, List.map_append, map_name_filterMap_field?,
    ← List.append_assoc, ← List.map_append]
  exact ((hperm.map _).append_right _).nodup (nodup_names_ofClass rule c)

/-- The locals of a setup are told apart, from each other and from the fields, where no name is an
escape of another. -/
lemma distinguishable_setup_iff (rule : MockRule) (c : ClassDeclaration) :
    Distinguishable (ofClass rule c).localNames (ofClass rule c).fieldNames
      ↔ NoEscapes (ofClass rule c).localNames (ofClass rule c).fieldNames := by
  have hnodup := nodup_localNames_append rule c
  exact distinguishable_iff (List.Nodup.of_append_left hnodup)
    fun l hl hmem => List.disjoint_of_nodup_append hnodup hl hmem

/-- No name in a setup is an escape of another if no parameter without a mock begins with `@_`. -/
lemma noEscapes_setup {rule : MockRule} {c : ClassDeclaration}
    (hdistinct : DistinctParameters c.primaryConstructor.parameters)
    (hescaped : ∀ p ∈ c.primaryConstructor.parameters, rule p.type = false →
      ¬ "@_".toList <+: p.name.toList) :
    NoEscapes (ofClass rule c).localNames (ofClass rule c).fieldNames := by
  have hunmocked : DistinctParameters (c.primaryConstructor.parameters.filter (!rule ·.type)) :=
    hdistinct.sublist (List.filter_sublist.map _)
  have hunder : ∀ x, BeginsWithUnderscore x →
      IsPlain x ∧ ∀ p ∈ c.primaryConstructor.parameters.filter (!rule ·.type),
        p.name ≠ "@" ++ x := by
    refine fun x hx => ⟨isPlain_of_beginsWithUnderscore hx, fun p hp heq => ?_⟩
    obtain ⟨hp, hrule⟩ := List.mem_filter.mp hp
    refine hescaped p hp (by simpa using hrule) ?_
    obtain ⟨cs, hcs⟩ := List.head?_eq_some_iff.mp hx
    rw [heq, String.toList_append, hcs]
    exact ⟨cs, rfl⟩
  refine noEscapes_of_parameters hunmocked fun x hx => ?_
  obtain hlocal | hfield := List.mem_append.mp hx
  · obtain ⟨d, hd, rfl⟩ := List.mem_map.mp hlocal
    obtain ⟨hd, hmocked⟩ := List.mem_filter.mp hd
    have hrule := (of_mem_dependencies hd).1
    obtain ⟨hmem, hown | hname⟩ := name_of_mem_dependencies (nodup_names hdistinct) (by simp) hd
    · exact Or.inl ⟨d.parameter, List.mem_filter.mpr ⟨hmem, by rwa [← hrule]⟩, hown⟩
    · exact Or.inr (hunder _ hname)
  · obtain ⟨f, hf, rfl⟩ := List.mem_map.mp hfield
    exact Or.inr (hunder _ (beginsWithUnderscore_of_mem_fields hf))

end SetupPlan

/-! ## Tests -/

/-- The names that a test needs for what a method returns. -/
def Method.resultNames (m : Method) : List String :=
  if m.isVoid then [] else ["actual", "expected"]

/-- The names that no parameter has in a test. -/
def reservedNames (receiver : String) : List String := [receiver, "actual", "expected"]

/-- The locals that a test of `m` declares if `m` is called on `receiver`. -/
def testLocalNames (receiver : String) (m : Method) : List String :=
  (testLocals receiver m).map (·.name) ++ m.resultNames

/-- Whether no parameter is written as a reserved name with an `@` before it, or as one with a
number. -/
def NoReservedEscapes (receiver : String) (ps : List Parameter) : Prop :=
  ∀ p ∈ ps, ∀ r ∈ reservedNames receiver, p.name ≠ "@" ++ r ∧ ∀ k, p.name ≠ "@" ++ numbered r k

lemma renameReserved_cons (reserved : List String) (p : Parameter) (ps : List Parameter)
    (taken : List String) :
    renameReserved reserved (p :: ps) taken =
      if reserved.contains p.name then
        { p with name := freeName p.name taken }
          :: renameReserved reserved ps (freeName p.name taken :: taken)
      else p :: renameReserved reserved ps taken := rfl

/-- A local goes by the name of a parameter, which is not reserved, or by a new name for a reserved
one. -/
lemma mem_renameReserved {reserved taken : List String} {ps : List Parameter} {l : Parameter}
    (hl : l ∈ renameReserved reserved ps taken) :
    (l ∈ ps ∧ l.name ∉ reserved) ∨
      (l.name ∉ taken ∧ ∃ name ∈ reserved, ∃ others, l.name = freeName name others) := by
  induction ps generalizing taken with
  | nil => cases hl
  | cons p ps ih =>
    rw [renameReserved_cons] at hl
    by_cases hp : p.name ∈ reserved
    · rw [if_pos (by simpa using hp)] at hl
      obtain rfl | hl := List.mem_cons.mp hl
      · exact Or.inr ⟨freeName_not_mem _ _, p.name, hp, taken, rfl⟩
      · obtain ⟨hl, hfree⟩ | ⟨hfree, hnew⟩ := ih hl
        · exact Or.inl ⟨List.mem_cons_of_mem _ hl, hfree⟩
        · exact Or.inr ⟨fun h => hfree (List.mem_cons_of_mem _ h), hnew⟩
    · rw [if_neg (by simpa using hp)] at hl
      obtain rfl | hl := List.mem_cons.mp hl
      · exact Or.inl ⟨List.mem_cons_self .., hp⟩
      · exact (ih hl).imp (fun h => ⟨List.mem_cons_of_mem _ h.1, h.2⟩) id

/-- No local goes by a reserved name, if all of these are taken. -/
lemma not_mem_of_mem_renameReserved {reserved taken : List String} {ps : List Parameter}
    {l : Parameter} (hreserved : reserved ⊆ taken) (hl : l ∈ renameReserved reserved ps taken) :
    l.name ∉ reserved := by
  obtain ⟨-, hfree⟩ | ⟨hfree, -⟩ := mem_renameReserved hl
  · exact hfree
  · exact fun hmem => hfree (hreserved hmem)

/-- The locals have different texts if the parameters have. -/
lemma nodup_renameReserved {reserved taken : List String} {ps : List Parameter}
    (hps : (ps.map (·.name)).Nodup) (htaken : ∀ p ∈ ps, p.name ∈ taken) :
    ((renameReserved reserved ps taken).map (·.name)).Nodup := by
  induction ps generalizing taken with
  | nil => exact List.nodup_nil
  | cons p ps ih =>
    rw [List.map_cons, List.nodup_cons] at hps
    obtain ⟨hp, htaken⟩ := List.forall_mem_cons.mp htaken
    rw [renameReserved_cons]
    split
    · rw [List.map_cons, List.nodup_cons]
      -- the new name is free, while the names of the parameters behind are all taken
      refine ⟨fun hmem => ?_, ih hps.2 fun q hq => List.mem_cons_of_mem _ (htaken q hq)⟩
      obtain ⟨l, hl, hname⟩ := List.mem_map.mp hmem
      obtain ⟨hl, -⟩ | ⟨hfree, -⟩ := mem_renameReserved hl
      · exact freeName_not_mem p.name taken (hname.subst (htaken l hl))
      · exact hfree (hname.symm.subst (List.mem_cons_self ..))
    · rw [List.map_cons, List.nodup_cons]
      refine ⟨fun hmem => ?_, ih hps.2 htaken⟩
      obtain ⟨l, hl, hname⟩ := List.mem_map.mp hmem
      obtain ⟨hl, -⟩ | ⟨hfree, -⟩ := mem_renameReserved hl
      · exact hps.1 (hname.subst (List.mem_map_of_mem hl))
      · exact hfree (hname.symm.subst hp)

section Tests

variable {receiver : String} {m : Method}

lemma nodup_testLocals (hparameters : DistinctParameters m.parameters) :
    ((testLocals receiver m).map (·.name)).Nodup :=
  nodup_renameReserved (nodup_names hparameters) fun _ hp =>
    List.mem_append_right _ (List.mem_map_of_mem hp)

lemma testLocals_not_reserved {l : Parameter} (hl : l ∈ testLocals receiver m) :
    l.name ∉ reservedNames receiver :=
  not_mem_of_mem_renameReserved (List.subset_append_left _ _) hl

lemma resultNames_subset (m : Method) : m.resultNames ⊆ ["actual", "expected"] := by
  rw [Method.resultNames]
  split
  · exact List.nil_subset _
  · exact List.Subset.refl _

/-- The locals of a test are told apart, from each other and from the receiver, where the receiver
has not the name of a result and no name is an escape of another. -/
lemma distinguishable_test_iff
    (hparameters : DistinctParameters m.parameters) :
    Distinguishable (testLocalNames receiver m) [receiver]
      ↔ receiver ∉ m.resultNames ∧ NoEscapes (testLocalNames receiver m) [receiver] := by
  have hreserved : ∀ x ∈ (testLocals receiver m).map (·.name), x ∉ reservedNames receiver := by
    intro x hx
    obtain ⟨l, hl, rfl⟩ := List.mem_map.mp hx
    exact testLocals_not_reserved hl
  have hnodup : (testLocalNames receiver m).Nodup := by
    refine (nodup_testLocals hparameters).append ?_ fun x hx hresult => ?_
    · rw [Method.resultNames]
      split <;> decide
    · exact hreserved x hx (List.mem_cons_of_mem _ (resultNames_subset m hresult))
  by_cases hreceiver : receiver ∈ m.resultNames
  · -- the receiver is then itself a local of the test
    refine iff_of_false (fun h => ?_) fun h => h.1 hreceiver
    exact h.apart receiver (List.mem_append_right _ hreceiver) receiver
      (List.mem_singleton_self _) rfl
  · rw [distinguishable_iff hnodup, and_iff_right hreceiver]
    intro l hl hmem
    obtain rfl := List.mem_singleton.mp hmem
    obtain hlocal | hresult := List.mem_append.mp hl
    · exact hreserved l hlocal (List.mem_cons_self ..)
    · exact hreceiver hresult

/-- No name in a test is an escape of another if the receiver is plain and no parameter is an escape
of a reserved name or of one with a number. -/
lemma noEscapes_test (hparameters : DistinctParameters m.parameters)
    (hreceiver : IsPlain receiver) (hescaped : NoReservedEscapes receiver m.parameters) :
    NoEscapes (testLocalNames receiver m) [receiver] := by
  have hplain : ∀ r ∈ reservedNames receiver, IsPlain r :=
    List.forall_mem_cons.mpr ⟨hreceiver, by decide⟩
  have hreserved : ∀ r ∈ reservedNames receiver,
      IsPlain r ∧ ∀ p ∈ m.parameters, p.name ≠ "@" ++ r :=
    fun r hr => ⟨hplain r hr, fun p hp => (hescaped p hp r hr).1⟩
  refine noEscapes_of_parameters hparameters fun x hx => ?_
  rw [testLocalNames, List.append_assoc, List.mem_append, List.mem_append] at hx
  obtain hlocal | hresult | hx := hx
  · obtain ⟨l, hl, rfl⟩ := List.mem_map.mp hlocal
    obtain ⟨hl, -⟩ | ⟨-, r, hr, others, hname⟩ := mem_renameReserved hl
    · exact Or.inl ⟨l, hl, rfl⟩
    · rw [hname]
      refine Or.inr ?_
      obtain hfree | ⟨k, hfree⟩ := freeName_eq_or r others
      · rw [hfree]
        exact hreserved r hr
      · rw [hfree]
        exact ⟨isPlain_numbered (hplain r hr) k, fun p hp => (hescaped p hp r hr).2 k⟩
  · exact Or.inr (hreserved x (List.mem_cons_of_mem _ (resultNames_subset m hresult)))
  · obtain rfl := List.mem_singleton.mp hx
    exact Or.inr (hreserved x (List.mem_cons_self ..))

end Tests

/-! ## Both bodies -/

/-- A receiver of an instance method is plain and none of the names of results; so is that of a
static one if the name of the class is. -/
lemma receiver_spec (rule : MockRule) {c : ClassDeclaration} {m : Method}
    (hstatic : m.isStatic = true → IsPlain c.name ∧ c.name ∉ m.resultNames) :
    IsPlain ((SetupPlan.ofClass rule c).receiver m)
      ∧ (SetupPlan.ofClass rule c).receiver m ∉ m.resultNames := by
  rw [SetupPlan.receiver]
  split
  · exact hstatic ‹_›
  · have hunder : BeginsWithUnderscore (SetupPlan.ofClass rule c).subject :=
      beginsWithUnderscore_freeName (SetupPlan.beginsWithUnderscore_instanceField c.name) _
    refine ⟨isPlain_of_beginsWithUnderscore hunder, fun hmem => ?_⟩
    have hresult := resultNames_subset m hmem
    revert hunder
    obtain heq | heq : _ = "actual" ∨ _ = "expected" := by simpa using hresult
    · rw [heq]
      decide
    · rw [heq]
      decide

/-- In the setup of a class, and in a test of one of its methods, the locals are different
identifiers, and others than the fields and the receiver, exactly if no name is another one with an
`@` before it and the receiver has not the name of a result. In the setup that is so if no parameter
without a mock begins with `@_`. In a test it is so if no parameter is a reserved name with an `@`
before it, and perhaps a number behind it, and if a class that is the receiver is named neither with
an `@` nor like a result. -/
theorem locals_distinguishable (rule : MockRule) (c : ClassDeclaration) (m : Method)
    (hconstructor : DistinctParameters c.primaryConstructor.parameters)
    (hparameters : DistinctParameters m.parameters) :
    let s := SetupPlan.ofClass rule c
    let r := s.receiver m
    (Distinguishable s.localNames s.fieldNames ↔ NoEscapes s.localNames s.fieldNames)
      ∧ (Distinguishable (testLocalNames r m) [r]
          ↔ r ∉ m.resultNames ∧ NoEscapes (testLocalNames r m) [r])
      ∧ ((∀ p ∈ c.primaryConstructor.parameters, rule p.type = false →
            ¬ "@_".toList <+: p.name.toList) →
          Distinguishable s.localNames s.fieldNames)
      ∧ ((m.isStatic = true → IsPlain c.name ∧ c.name ∉ m.resultNames) →
          NoReservedEscapes r m.parameters → Distinguishable (testLocalNames r m) [r]) := by
  intro s r
  refine ⟨SetupPlan.distinguishable_setup_iff rule c, distinguishable_test_iff hparameters,
    fun hescaped => ?_, fun hstatic hescaped => ?_⟩
  · exact (SetupPlan.distinguishable_setup_iff rule c).mpr
      (SetupPlan.noEscapes_setup hconstructor hescaped)
  · obtain ⟨hplain, hresult⟩ := receiver_spec rule hstatic
    exact (distinguishable_test_iff hparameters).mpr
      ⟨hresult, noEscapes_test hparameters hplain hescaped⟩

/-- For `A(IFoo x, int _x)` and `int M(int actual, string @string)`, the local for `_x` is `_x2` and
that for `actual` is `actual2`. -/
theorem locals_distinguishable_of_taken_names :
    let c : ClassDeclaration :=
      { name := "A"
        constructors := [{ parameters := [⟨"x", "IFoo", none⟩, ⟨"_x", "int", none⟩] }] }
    let m : Method :=
      { name := "M"
        parameters := [⟨"actual", "int", none⟩, ⟨"@string", "string", none⟩]
        returns := "int" }
    let s := SetupPlan.ofClass MockRule.usual c
    DistinctParameters c.primaryConstructor.parameters ∧ DistinctParameters m.parameters
      ∧ s.localNames = ["_x2"]
      ∧ testLocalNames "_a" m = ["actual2", "@string", "actual", "expected"]
      ∧ Distinguishable s.localNames s.fieldNames
      ∧ Distinguishable (testLocalNames (s.receiver m) m) [s.receiver m] := by
  intro c m s
  obtain ⟨hsetup, htest, -⟩ := locals_distinguishable MockRule.usual c m (by decide) (by decide)
  exact ⟨by decide, by decide, by decide +kernel, by decide +kernel,
    hsetup.mpr (by decide +kernel), htest.mpr (by decide +kernel)⟩

/-- The field for `x` and the local for `@_x` are one identifier, and so are the local for `@actual`
and that for the result. -/
theorem escapes_clash :
    let c : ClassDeclaration :=
      { name := "A"
        constructors := [{ parameters := [⟨"x", "IFoo", none⟩, ⟨"@_x", "int", none⟩] }]
        methods := [{ name := "M", parameters := [⟨"@actual", "int", none⟩], returns := "int",
                      modifiers := ["public"] }] }
    let s := SetupPlan.ofClass MockRule.usual c
    DistinctParameters c.primaryConstructor.parameters
      ∧ ¬ Distinguishable s.localNames s.fieldNames
      ∧ ∃ m ∈ c.publicMethods, DistinctParameters m.parameters
          ∧ ¬ Distinguishable (testLocalNames (s.receiver m) m) [s.receiver m] := by
  decide +kernel

end FixtureDraft
