import FixtureDraft.Proofs.BaseNames
import FixtureDraft.Proofs.UnitFixtures

/-!
# Full names and qualified names

A class has a full name: the names of its namespaces and its own, joined by points. Its fixture
file has a qualified name. Class names without points lose nothing on the way:

* `qualifiedName_draftFile_eq_iff` and `units_share_name_iff`: two classes have files of one name
  exactly if they have one full name, whatever units they are in;
* `nodup_qualifiedNames_iff`: the files of a unit have different names exactly if the groups that
  get a file have different full names.

Where only parts share a full name, all that can make two files of one name is that the parts split
the names of their namespaces differently (`samePart_of_fullName_eq`).
-/

namespace FixtureDraft

/-! ## Names joined by points -/

/-- The last of some joined names is told by the text if it has no point, and so are the others as
they are joined. -/
lemma intercalate_concat_eq_iff {xs ys : List String} {a b : String} (ha : '.' ∉ a.toList)
    (hb : '.' ∉ b.toList) :
    ".".intercalate (xs ++ [a]) = ".".intercalate (ys ++ [b]) ↔
      (xs = [] ↔ ys = []) ∧ ".".intercalate xs = ".".intercalate ys ∧ a = b := by
  have hjoin : ∀ {zs : List String} (c : String), zs ≠ [] →
      (".".intercalate (zs ++ [c])).toList = (".".intercalate zs).toList ++ '.' :: c.toList := by
    intro zs c hzs
    rw [String.intercalate_append_of_ne_nil hzs (by simp), String.intercalate_singleton]
    simp
  by_cases hxs : xs = []
  · by_cases hys : ys = []
    · simp [hxs, hys]
    · -- one name alone has no point
      refine ⟨fun h => absurd ?_ ha, fun h => absurd (h.1.mp hxs) hys⟩
      rw [hxs, List.nil_append, String.intercalate_singleton] at h
      rw [h, hjoin b hys]
      simp
  · by_cases hys : ys = []
    · refine ⟨fun h => absurd ?_ hb, fun h => absurd (h.1.mpr hys) hxs⟩
      rw [hys, List.nil_append, String.intercalate_singleton] at h
      rw [← h, hjoin a hxs]
      simp
    · constructor
      · intro h
        have hlist := congrArg String.toList h
        rw [hjoin a hxs, hjoin b hys] at hlist
        have hlast : a.toList = b.toList := by
          rw [← afterPoint_behind _ ha, ← afterPoint_behind _ hb, hlist]
        rw [hlast] at hlist
        exact ⟨by simp [hxs, hys], String.toList_inj.mp (List.append_cancel_right hlist),
          String.toList_inj.mp hlast⟩
      · rintro ⟨-, hjoined, rfl⟩
        rw [String.intercalate_append_of_ne_nil hxs (by simp),
          String.intercalate_append_of_ne_nil hys (by simp), hjoined]

/-! ## Two names of a class -/

/-- The name of the class behind those of its namespaces. -/
def ClassDeclaration.fullName (c : ClassDeclaration) : String :=
  ".".intercalate (c.namespaces ++ [c.name])

/-- The mark of the innermost namespace is at the end of the joined names. -/
lemma intercalate_fixtureNamespaces (n : String) (ns : List String) :
    ".".intercalate (fixtureNamespaces (n :: ns)) = ".".intercalate (n :: ns) ++ ".Tests" := by
  induction ns generalizing n with
  | nil => simp [fixtureNamespaces]
  | cons m ns ih =>
    have hne : fixtureNamespaces (m :: ns) ≠ [] := by cases ns <;> simp [fixtureNamespaces]
    rw [fixtureNamespaces, String.intercalate_cons_of_ne_nil hne, ih,
      String.intercalate_cons_cons, String.append_assoc, String.append_assoc, String.append_assoc]
    simp

lemma fixtureNamespaces_eq_nil_iff (ns : List String) : fixtureNamespaces ns = [] ↔ ns = [] := by
  match ns with
  | [] => simp [fixtureNamespaces]
  | [n] => simp [fixtureNamespaces]
  | n :: m :: ns => simp [fixtureNamespaces]

/-- Marking the innermost namespaces makes no difference to whether they are the same. -/
lemma intercalate_fixtureNamespaces_eq_iff {xs ys : List String} (hnil : xs = [] ↔ ys = []) :
    ".".intercalate (fixtureNamespaces xs) = ".".intercalate (fixtureNamespaces ys) ↔
      ".".intercalate xs = ".".intercalate ys := by
  cases xs with
  | nil => rw [hnil.mp rfl]; simp
  | cons x xs =>
    cases ys with
    | nil => exact absurd (hnil.mpr rfl) (by simp)
    | cons y ys =>
      rw [intercalate_fixtureNamespaces, intercalate_fixtureNamespaces, String.append_left_inj]

/-- The name of a test class. It has no more points than that of the class. -/
lemma point_not_mem_append_tests {name : String} (h : '.' ∉ name.toList) :
    '.' ∉ (name ++ "Tests").toList := by
  rw [String.toList_append, List.mem_append]
  rintro (hmem | hmem)
  · exact h hmem
  · exact absurd hmem (by decide)

/-- Classes have files of one name exactly if they have one full name. -/
theorem qualifiedName_draftFile_eq_iff (rule : MockRule) (usings : List String)
    {c d : ClassDeclaration} (hc : '.' ∉ c.name.toList) (hd : '.' ∉ d.name.toList) :
    (draftFile rule usings c).qualifiedName = (draftFile rule usings d).qualifiedName ↔
      c.fullName = d.fullName := by
  show ".".intercalate (fixtureNamespaces c.namespaces ++ [c.name ++ "Tests"])
      = ".".intercalate (fixtureNamespaces d.namespaces ++ [d.name ++ "Tests"]) ↔ _
  rw [ClassDeclaration.fullName, ClassDeclaration.fullName, intercalate_concat_eq_iff hc hd,
    intercalate_concat_eq_iff (point_not_mem_append_tests hc) (point_not_mem_append_tests hd),
    fixtureNamespaces_eq_nil_iff, fixtureNamespaces_eq_nil_iff, String.append_left_inj]
  refine and_congr_right fun hnil => and_congr_left fun _ => ?_
  exact intercalate_fixtureNamespaces_eq_iff hnil

/-! ## The files of two classes -/

/-- The class is called by one name, and so are the namespaces around it: none of them is empty. -/
structure ClassDeclaration.Named (c : ClassDeclaration) : Prop where
  no_point : '.' ∉ c.name.toList
  namespaces_ne : ∀ n ∈ c.namespaces, n ≠ ""

/-- Joined names that are not empty are no empty text. -/
lemma intercalate_eq_empty_iff {ns : List String} (hns : ∀ n ∈ ns, n ≠ "") :
    ".".intercalate ns = "" ↔ ns = [] := by
  constructor
  · intro hjoined
    cases ns with
    | nil => rfl
    | cons n ns =>
      have hfirst : n ≠ "" := hns n List.mem_cons_self
      cases ns with
      | nil => exact absurd (by simpa using hjoined) hfirst
      | cons m ns =>
        rw [String.intercalate_cons_cons] at hjoined
        simp at hjoined
  · intro hnil
    rw [hnil]
    rfl

namespace ClassDeclaration.Named

variable {c d : ClassDeclaration}

/-- One name in namespaces that are joined to one text makes one full name. -/
lemma fullName_eq (hc : c.Named) (hd : d.Named) (hname : c.name = d.name)
    (hjoined : ".".intercalate c.namespaces = ".".intercalate d.namespaces) :
    c.fullName = d.fullName := by
  refine (intercalate_concat_eq_iff hc.no_point hd.no_point).mpr ⟨?_, hjoined, hname⟩
  rw [← intercalate_eq_empty_iff hc.namespaces_ne, ← intercalate_eq_empty_iff hd.namespaces_ne,
    hjoined]

/-- A class in no namespace has the full name of no class in one. -/
lemma fullName_ne (hc : c.Named) (hd : d.Named) (hglobal : c.namespaces = [])
    (hinside : d.namespaces ≠ []) : c.fullName ≠ d.fullName := by
  intro hfull
  obtain ⟨hnil, -, -⟩ := (intercalate_concat_eq_iff hc.no_point hd.no_point).mp hfull
  exact hinside (hnil.mp hglobal)

end ClassDeclaration.Named

/-- The `i`-th class of a unit that gets a file has the `i`-th file. -/
lemma getElem?_draftFiles (rule : MockRule) {u : SourceUnit} {i : ℕ} {c : ClassDeclaration}
    (hc : u.qualifying[i]? = some c) :
    (draftFiles rule u)[i]? = some (draftFile rule u.usings c) := by
  unfold draftFiles
  rw [List.getElem?_map, hc, Option.map_some]

/-- Two classes that get a file, be it in one unit or in two, have files of one name exactly if they
have one full name. So it makes no difference how the name of their namespace is split, and a class
in no namespace shares the name of its file with no class in one. -/
theorem units_share_name_iff (rule rule' : MockRule) {u v : SourceUnit} {i j : ℕ}
    {c d : ClassDeclaration} (hc : u.qualifying[i]? = some c) (hd : v.qualifying[j]? = some d)
    (hcnamed : c.Named) (hdnamed : d.Named) :
    ∃ f g, (draftFiles rule u)[i]? = some f ∧ (draftFiles rule' v)[j]? = some g ∧
      (f.qualifiedName = g.qualifiedName ↔ c.fullName = d.fullName) ∧
      (c.name = d.name → ".".intercalate c.namespaces = ".".intercalate d.namespaces →
        f.qualifiedName = g.qualifiedName) ∧
      (c.namespaces = [] → d.namespaces ≠ [] → f.qualifiedName ≠ g.qualifiedName) := by
  -- neither the rule nor the using directives have a part in the name of a file
  have hiff : (draftFile rule u.usings c).qualifiedName = (draftFile rule' v.usings d).qualifiedName
      ↔ c.fullName = d.fullName :=
    qualifiedName_draftFile_eq_iff rule u.usings hcnamed.no_point hdnamed.no_point
  refine ⟨_, _, getElem?_draftFiles rule hc, getElem?_draftFiles rule' hd, hiff, ?_, ?_⟩
  · intro hname hjoined
    exact hiff.mpr (hcnamed.fullName_eq hdnamed hname hjoined)
  · intro hglobal hinside hsame
    exact hcnamed.fullName_ne hdnamed hglobal hinside (hiff.mp hsame)

/-- A unit of a public class `X` in the given namespaces. -/
def unitOfX (namespaces : List String) : SourceUnit where
  classes := [{ name := "X", modifiers := ["public"], namespaces }]

/-- A class `X` in a namespace `A.B` and one in a namespace `B` inside `A`. -/
theorem split_namespaces_share_name :
    ∃ f g, (draftFiles MockRule.usual (unitOfX ["A.B"]))[0]? = some f ∧
      (draftFiles MockRule.usual (unitOfX ["A", "B"]))[0]? = some g ∧
      f.qualifiedName = g.qualifiedName := by
  obtain ⟨f, g, hf, hg, hiff, -⟩ := units_share_name_iff MockRule.usual MockRule.usual
    (u := unitOfX ["A.B"]) (v := unitOfX ["A", "B"]) (i := 0) (j := 0) rfl rfl
    ⟨by decide, by decide⟩ ⟨by decide, by decide⟩
  exact ⟨f, g, hf, hg, hiff.mpr (by decide)⟩

/-! ## The files of a unit -/

namespace ClassGroup

/-- The full name of all members of the group. -/
def fullName (g : ClassGroup) : String := g.first.fullName

/-- The file of a group is named for its first member. -/
lemma qualifiedName_draftFile_joined (rule : MockRule) (usings : List String) (g : ClassGroup) :
    (draftFile rule usings g.joined).qualifiedName
      = (draftFile rule usings g.first).qualifiedName := by
  show ".".intercalate (fixtureNamespaces g.joined.namespaces ++ [g.joined.name ++ "Tests"]) = _
  rw [joined_namespaces, joined_name]
  rfl

end ClassGroup

variable {classes : List ClassDeclaration} {g h : ClassGroup}

lemma first_mem_of_mem_groups (hg : g ∈ groups classes) : g.first ∈ classes :=
  (isGrouping_groups classes).order.subset (List.mem_map_of_mem hg)

/-- The files of a unit have different names exactly if the groups that get a file have different
full names. -/
theorem nodup_qualifiedNames_iff (rule : MockRule) (usings : List String)
    (hnames : ∀ c ∈ classes, '.' ∉ c.name.toList) :
    ((draftFiles rule { usings, classes := mergeParts classes }).map
        FixtureFile.qualifiedName).Nodup ↔
      (((groups classes).filter ClassGroup.qualifies).map ClassGroup.fullName).Nodup := by
  rw [draftFiles_eq_map_joined, List.map_map]
  unfold List.Nodup
  rw [List.pairwise_map, List.pairwise_map]
  refine List.Pairwise.iff_of_mem fun {g h} hg hh => not_congr ?_
  have hg' := first_mem_of_mem_groups (List.mem_of_mem_filter hg)
  have hh' := first_mem_of_mem_groups (List.mem_of_mem_filter hh)
  show (draftFile rule usings g.joined).qualifiedName
    = (draftFile rule usings h.joined).qualifiedName ↔ _
  rw [g.qualifiedName_draftFile_joined, h.qualifiedName_draftFile_joined]
  exact qualifiedName_draftFile_eq_iff rule usings (hnames _ hg') (hnames _ hh')

/-- Parts of one full name whose namespaces are split alike are parts of one class. -/
lemma samePart_of_fullName_eq {c d : ClassDeclaration} (hc : '.' ∉ c.name.toList)
    (hd : '.' ∉ d.name.toList) (hpart : c.isPart = true) (hpart' : d.isPart = true)
    (hfull : c.fullName = d.fullName) (hspaces : c.namespaces = d.namespaces) :
    c.samePart d = true := by
  have hname : c.name = d.name := ((intercalate_concat_eq_iff hc hd).mp hfull).2.2
  simp [ClassDeclaration.samePart, hpart, hpart', hspaces, hname]

/-- Where classes of one full name are always parts, the files of a unit have different names
exactly if no two groups that get a file have one full name in namespaces that are split
differently. -/
theorem nodup_qualifiedNames_of_parts_iff (rule : MockRule) (usings : List String)
    (hnames : ∀ c ∈ classes, '.' ∉ c.name.toList)
    (hparts : classes.Pairwise fun c d => c.nested = false → d.nested = false →
      c.fullName = d.fullName → c.isPartial = true ∧ d.isPartial = true) :
    ((draftFiles rule { usings, classes := mergeParts classes }).map
        FixtureFile.qualifiedName).Nodup ↔
      ∀ g ∈ (groups classes).filter ClassGroup.qualifies,
        ∀ h ∈ (groups classes).filter ClassGroup.qualifies,
          g.fullName = h.fullName → g.first.namespaces = h.first.namespaces := by
  rw [nodup_qualifiedNames_iff rule usings hnames]
  constructor
  · intro hnodup g hg h hh hfull
    rw [List.inj_on_of_nodup_map hnodup hg hh hfull]
  · intro hsplit
    have hgrouping := isGrouping_groups classes
    -- two groups stand apart, and what was asked of the classes holds of their first members
    have hfirst := (List.pairwise_map.mp (hparts.sublist hgrouping.order)).and hgrouping.apart
    refine List.pairwise_map.mpr ?_
    refine (hfirst.sublist List.filter_sublist).imp_of_mem ?_
    intro g h hg hh ⟨hpartial, hapart⟩ hfull
    have hnested : ∀ k ∈ (groups classes).filter ClassGroup.qualifies, k.first.nested = false := by
      intro k hk
      have hqualifies := (List.mem_filter.mp hk).2
      simp only [ClassGroup.qualifies, Bool.and_eq_true, Bool.not_eq_true'] at hqualifies
      exact hqualifies.1
    obtain ⟨hg', hh'⟩ := hpartial (hnested g hg) (hnested h hh) hfull
    have hsame : g.first.samePart h.first = true := by
      refine samePart_of_fullName_eq
        (hnames _ (first_mem_of_mem_groups (List.mem_of_mem_filter hg)))
        (hnames _ (first_mem_of_mem_groups (List.mem_of_mem_filter hh))) ?_ ?_ hfull
        (hsplit g hg h hh hfull)
      · simp [ClassDeclaration.isPart, hg', hnested g hg]
      · simp [ClassDeclaration.isPart, hh', hnested h hh]
    rw [hapart g.first List.mem_cons_self h.first List.mem_cons_self] at hsame
    cases hsame

/-- Two parts of a class `A.B.X`, with its namespace as one name and as two. -/
def splitParts : List ClassDeclaration :=
  [{ name := "X", modifiers := ["public", "partial"], namespaces := ["A.B"] },
   { name := "X", modifiers := ["public", "partial"], namespaces := ["A", "B"] }]

/-- Parts of one class whose namespaces are split differently are not joined, and their files have
one name. -/
theorem split_parts_share_name :
    ¬ ∀ (rule : MockRule) (usings : List String) (classes : List ClassDeclaration),
      (classes.Pairwise fun c d => c.nested = false → d.nested = false →
        c.fullName = d.fullName → c.isPartial = true ∧ d.isPartial = true) →
      ((draftFiles rule { usings, classes := mergeParts classes }).map
        FixtureFile.qualifiedName).Nodup := by
  intro hall
  have hnodup := hall MockRule.usual [] splitParts (by decide +kernel)
  revert hnodup
  decide +kernel

/-- Two parts of a class `A.B.X` with its namespaces split alike, and another class `A.B`. -/
def evenParts : List ClassDeclaration :=
  [{ name := "X", modifiers := ["partial"], namespaces := ["A", "B"] },
   { name := "B", modifiers := ["public"], namespaces := ["A"] },
   { name := "X", modifiers := ["public", "partial"], namespaces := ["A", "B"] }]

/-- Parts whose namespaces are split alike have one file, and no other file has its name. -/
theorem nodup_qualifiedNames_evenParts :
    ((draftFiles MockRule.usual { classes := mergeParts evenParts }).map
      FixtureFile.qualifiedName).Nodup :=
  (nodup_qualifiedNames_of_parts_iff MockRule.usual [] (by decide +kernel) (by decide +kernel)).mpr
    (by decide +kernel)

end FixtureDraft
