import FixtureDraft.Analysis
import FixtureDraft.Proofs.FullNames

/-!
# One file for each declared class

A type is known by its full name and the number of its type parameters. Files go by names that
tell nothing of type parameters, so that types of one full name have to share: `HaveFiles` says
that each class has a file of its own, and `haveFiles_iff` that this is so exactly if the public
classes of a source have different full names.
-/

namespace FixtureDraft

open FixtureDraft.Tree

/-! ## Classes and their files -/

namespace ClassDeclaration

/-- The namespaces and the name of the test class of the file for the class. -/
def fileKey (c : ClassDeclaration) : List String × String :=
  (fixtureNamespaces c.namespaces, c.name ++ "Tests")

end ClassDeclaration

/-- Each of the classes has a file of its own, and no two files have one qualified name. -/
structure HaveFiles (classes : List ClassDeclaration) (files : List FixtureFile) : Prop where
  each : (files.map fun f => (f.namespaces, f.fixture.name)).Perm
    (classes.map ClassDeclaration.fileKey)
  nodup : (files.map FixtureFile.qualifiedName).Nodup

variable {classes : List ClassDeclaration} {g : ClassGroup} {c : ClassDeclaration}

/-- What the members of a group have in common. -/
lemma eq_first_of_mem_members (hg : g ∈ groups classes) (hc : c ∈ g.members) :
    c.namespaces = g.first.namespaces ∧ c.name = g.first.name ∧ c.nested = g.first.nested := by
  rcases List.mem_cons.mp hc with rfl | hother
  · exact ⟨rfl, rfl, rfl⟩
  · have hsame := (isGrouping_groups classes).together g hg c hother
    simp only [ClassDeclaration.samePart, ClassDeclaration.isPart, Bool.and_eq_true, beq_iff_eq,
      Bool.not_eq_true'] at hsame
    obtain ⟨⟨⟨⟨-, hnested⟩, ⟨-, hnested'⟩⟩, hspaces⟩, hname⟩ := hsame
    exact ⟨hspaces.symm, hname.symm, hnested'.trans hnested.symm⟩

lemma fullName_eq_of_mem_members (hg : g ∈ groups classes) (hc : c ∈ g.members) :
    c.fullName = g.fullName := by
  obtain ⟨hspaces, hname, -⟩ := eq_first_of_mem_members hg hc
  rw [ClassGroup.fullName, ClassDeclaration.fullName, ClassDeclaration.fullName, hspaces, hname]

/-- A group qualifies exactly if one of its members does. -/
lemma exists_qualifies_iff (hg : g ∈ groups classes) :
    g.qualifies = true ↔ ∃ c ∈ g.members, c.qualifies = true := by
  simp only [ClassGroup.qualifies, ClassDeclaration.qualifies, Bool.and_eq_true, List.any_eq_true,
    Bool.not_eq_true']
  constructor
  · rintro ⟨hnested, c, hc, hpublic⟩
    exact ⟨c, hc, hpublic, (eq_first_of_mem_members hg hc).2.2.trans hnested⟩
  · rintro ⟨c, hc, hpublic, hnested⟩
    exact ⟨(eq_first_of_mem_members hg hc).2.2.symm.trans hnested, c, hc, hpublic⟩

/-- Every class is in a group. -/
lemma exists_group_of_mem (hc : c ∈ classes) : ∃ g ∈ groups classes, c ∈ g.members :=
  List.mem_flatMap.mp ((isGrouping_groups classes).perm.mem_iff.mpr hc)

/-- Where public classes have different full names, no two groups have members that make them
qualify under one full name. -/
lemma pairwise_fullName_ne
    (hnodup : ((classes.filter ClassDeclaration.qualifies).map ClassDeclaration.fullName).Nodup) :
    (groups classes).Pairwise fun g h => ∀ c ∈ g.members, ∀ d ∈ h.members,
      c.qualifies = true → d.qualifies = true → c.fullName ≠ d.fullName := by
  have hperm := ((isGrouping_groups classes).perm.filter ClassDeclaration.qualifies).map
    ClassDeclaration.fullName
  have hflat := hperm.nodup_iff.mpr hnodup
  unfold List.Nodup at hflat
  rw [List.pairwise_map, List.pairwise_filter, List.pairwise_flatMap] at hflat
  exact hflat.2

/-- Where public classes have different full names, so have the groups that qualify. -/
lemma nodup_fullName_groups
    (hnodup : ((classes.filter ClassDeclaration.qualifies).map ClassDeclaration.fullName).Nodup) :
    (((groups classes).filter ClassGroup.qualifies).map ClassGroup.fullName).Nodup := by
  refine List.pairwise_map.mpr ?_
  refine ((pairwise_fullName_ne hnodup).sublist List.filter_sublist).imp_of_mem ?_
  intro g h hg hh hne hfull
  obtain ⟨hg, hqualifies⟩ := List.mem_filter.mp hg
  obtain ⟨hh, hqualifies'⟩ := List.mem_filter.mp hh
  obtain ⟨c, hc, hpublic⟩ := (exists_qualifies_iff hg).mp hqualifies
  obtain ⟨d, hd, hpublic'⟩ := (exists_qualifies_iff hh).mp hqualifies'
  refine hne c hc d hd hpublic hpublic' ?_
  rw [fullName_eq_of_mem_members hg hc, fullName_eq_of_mem_members hh hd]
  exact hfull

/-- Classes with files of one key have one full name. -/
lemma fullName_eq_of_fileKey_eq {d : ClassDeclaration} (hc : '.' ∉ c.name.toList)
    (hd : '.' ∉ d.name.toList) (hkey : c.fileKey = d.fileKey) : c.fullName = d.fullName := by
  obtain ⟨hspaces, hname⟩ := Prod.mk.inj hkey
  refine (qualifiedName_draftFile_eq_iff MockRule.usual [] hc hd).mp ?_
  show ".".intercalate (fixtureNamespaces c.namespaces ++ [c.name ++ "Tests"])
    = ".".intercalate (fixtureNamespaces d.namespaces ++ [d.name ++ "Tests"])
  rw [hspaces, hname]

/-- Where public classes have different full names, each of them is the one that makes its group
qualify, and the file of the group is the file of that class. -/
lemma perm_fileKey (hnames : ∀ c ∈ classes, '.' ∉ c.name.toList)
    (hnodup : ((classes.filter ClassDeclaration.qualifies).map ClassDeclaration.fullName).Nodup) :
    (((groups classes).filter ClassGroup.qualifies).map fun g => g.first.fileKey).Perm
      ((classes.filter ClassDeclaration.qualifies).map ClassDeclaration.fileKey) := by
  have hkey : ∀ g ∈ groups classes, ∀ c ∈ g.members, g.first.fileKey = c.fileKey := by
    intro g hg c hc
    obtain ⟨hspaces, hname, -⟩ := eq_first_of_mem_members hg hc
    rw [ClassDeclaration.fileKey, ClassDeclaration.fileKey, hspaces, hname]
  have hmem : ∀ g ∈ groups classes, ∀ c ∈ g.members, c ∈ classes := fun g hg c hc =>
    ((isGrouping_groups classes).members_order g hg).subset hc
  -- neither side has a key twice, so it is enough that they have the same keys
  refine (List.perm_ext_iff_of_nodup ?_ ?_).mpr fun key => ?_
  · refine List.pairwise_map.mpr ?_
    refine (List.pairwise_map.mp (nodup_fullName_groups hnodup)).imp_of_mem ?_
    intro g h hg hh hne hsame
    exact hne (fullName_eq_of_fileKey_eq
      (hnames _ (first_mem_of_mem_groups (List.mem_of_mem_filter hg)))
      (hnames _ (first_mem_of_mem_groups (List.mem_of_mem_filter hh))) hsame)
  · refine List.pairwise_map.mpr ((List.pairwise_map.mp hnodup).imp_of_mem ?_)
    intro c d hc hd hne hsame
    exact hne (fullName_eq_of_fileKey_eq (hnames _ (List.mem_of_mem_filter hc))
      (hnames _ (List.mem_of_mem_filter hd)) hsame)
  · simp only [List.mem_map, List.mem_filter]
    constructor
    · rintro ⟨g, ⟨hg, hqualifies⟩, rfl⟩
      obtain ⟨c, hc, hpublic⟩ := (exists_qualifies_iff hg).mp hqualifies
      exact ⟨c, ⟨hmem g hg c hc, hpublic⟩, (hkey g hg c hc).symm⟩
    · rintro ⟨c, ⟨hc, hpublic⟩, rfl⟩
      obtain ⟨g, hg, hcg⟩ := exists_group_of_mem hc
      exact ⟨g, ⟨hg, (exists_qualifies_iff hg).mpr ⟨c, hcg, hpublic⟩⟩, hkey g hg c hcg⟩

/-- The public classes of a unit have files of their own exactly if they have different full
names. -/
theorem haveFiles_iff (rule : MockRule) (usings : List String)
    (hnames : ∀ c ∈ classes, '.' ∉ c.name.toList) :
    HaveFiles (classes.filter ClassDeclaration.qualifies)
        (draftFiles rule { usings, classes := mergeParts classes }) ↔
      ((classes.filter ClassDeclaration.qualifies).map ClassDeclaration.fullName).Nodup := by
  constructor
  · rintro ⟨heach, hfiles⟩
    -- a file tells by its namespaces and its class what its qualified name is
    have hperm := heach.map fun k => ".".intercalate (k.1 ++ [k.2])
    rw [List.map_map, List.map_map] at hperm
    have hclasses := hperm.nodup_iff.mp hfiles
    refine List.pairwise_map.mpr ((List.pairwise_map.mp hclasses).imp_of_mem ?_)
    intro c d hc hd hne hfull
    exact hne ((qualifiedName_draftFile_eq_iff rule usings
      (hnames _ (List.mem_of_mem_filter hc)) (hnames _ (List.mem_of_mem_filter hd))).mpr hfull)
  · intro hnodup
    refine ⟨?_, (nodup_qualifiedNames_iff rule usings hnames).mpr (nodup_fullName_groups hnodup)⟩
    have hkeys : (draftFiles rule { usings, classes := mergeParts classes }).map
        (fun f => (f.namespaces, f.fixture.name))
        = ((groups classes).filter ClassGroup.qualifies).map fun g => g.first.fileKey := by
      rw [draftFiles_eq_map_joined, List.map_map]
      refine List.map_congr_left fun g _ => ?_
      show (fixtureNamespaces g.joined.namespaces, g.joined.name ++ "Tests") = g.first.fileKey
      rw [g.joined_namespaces, g.joined_name]
      rfl
    rw [hkeys]
    exact perm_fileKey hnames hnodup

/-! ## Sources -/

namespace Reader

/-- The number of type parameters of a declaration. -/
def typeParameters (n : Node) : Nat :=
  ((n.children.filter (·.kind == .other "type_parameter_list")).flatMap (·.children)).countP
    (·.kind == .other "type_parameter")

/-- The types that the classes of a tree declare which are not nested: each by its full name and
the number of its type parameters. -/
def declaredTypes (s : Source) (root : Node) : List (String × Nat) :=
  ((root.walk.filter (·.node.kind == .classDeclaration)).filter
    fun v => !(classOf s root v).nested).map
    fun v => ((classOf s root v).fullName, typeParameters v.node)

end Reader

/-- Without type parameters, different types of a source have different full names. -/
lemma nodup_fullName_of_declaredTypes {s : Source} {root : Node}
    (htypes : (Reader.declaredTypes s root).Nodup)
    (hplain : ∀ t ∈ Reader.declaredTypes s root, t.2 = 0) :
    (((Reader.classesOf s root).filter ClassDeclaration.qualifies).map
      ClassDeclaration.fullName).Nodup := by
  have hnames : ((Reader.declaredTypes s root).map (·.1)).Nodup := by
    refine List.Nodup.map_on (fun t ht u hu heq => Prod.ext heq ?_) htypes
    rw [hplain t ht, hplain u hu]
  -- the public ones among the classes that are not nested
  have hsub : ((Reader.classesOf s root).filter ClassDeclaration.qualifies).Sublist
      ((Reader.classesOf s root).filter fun c => !c.nested) := by
    refine List.monotone_filter_right _ fun c hc => ?_
    simp only [ClassDeclaration.qualifies, Bool.and_eq_true] at hc
    exact hc.2
  refine hnames.sublist ?_
  have hfst : (Reader.declaredTypes s root).map (·.1)
      = ((Reader.classesOf s root).filter fun c => !c.nested).map ClassDeclaration.fullName := by
    rw [Reader.declaredTypes, Reader.classesOf, List.filter_map, List.map_map, List.map_map]
    rfl
  rw [hfst]
  exact hsub.map _

/-- Every public class of an accepted source has a file of its own exactly if these classes have
different full names. That is so where no type is declared twice and none has type parameters. -/
theorem source_haveFiles_iff (e : Engine) {code : String} {root : Node}
    (htree : e.tree code = .ok root)
    (hnames : ∀ c ∈ Reader.classesOf (.ofText code) root, '.' ∉ c.name.toList) :
    ∃ files, e.files code = .ok files ∧
      (HaveFiles ((Reader.classesOf (.ofText code) root).filter ClassDeclaration.qualifies) files ↔
        (((Reader.classesOf (.ofText code) root).filter ClassDeclaration.qualifies).map
          ClassDeclaration.fullName).Nodup) ∧
      ((Reader.declaredTypes (.ofText code) root).Nodup →
        (∀ t ∈ Reader.declaredTypes (.ofText code) root, t.2 = 0) →
        HaveFiles ((Reader.classesOf (.ofText code) root).filter ClassDeclaration.qualifies)
          files) := by
  have hiff := haveFiles_iff e.rule (Reader.usingsOf (.ofText code) root) hnames
  refine ⟨draftFiles e.rule (Reader.unitOf (.ofText code) root), ?_, hiff, ?_⟩
  · rw [Engine.files, Engine.analyze, htree]
    rfl
  · intro htypes hplain
    exact hiff.mpr (nodup_fullName_of_declaredTypes htypes hplain)

/-- Two classes `A`, one of them in a namespace, have files of their own. -/
theorem namesakes_in_namespaces_haveFiles :
    ∃ root files,
      Engine.tree {} "namespace N { public class A { } } public class A { }" = .ok root ∧
      Engine.files {} "namespace N { public class A { } } public class A { }" = .ok files ∧
      HaveFiles ((Reader.classesOf (.ofText "namespace N { public class A { } } public class A { }")
        root).filter ClassDeclaration.qualifies) files := by
  set code := "namespace N { public class A { } } public class A { }" with hcode
  have hread : ((Engine.tree {} code).toOption.map fun root =>
      ((Reader.classesOf (.ofText code) root).map (·.name),
        Reader.declaredTypes (.ofText code) root)) = some (["A", "A"], [("N.A", 0), ("A", 0)]) := by
    decide +kernel
  cases htree : Engine.tree {} code with
  | error fault => simp [htree, Except.toOption] at hread
  | ok root =>
    rw [htree] at hread
    obtain ⟨hnames, htypes⟩ := Prod.mk.inj (Option.some.inj hread)
    have hpoint : ∀ c ∈ Reader.classesOf (.ofText code) root, '.' ∉ c.name.toList := by
      intro c hc
      have hmem := List.mem_map_of_mem (f := (·.name)) hc
      rw [hnames] at hmem
      obtain hname : c.name = "A" := by simpa using hmem
      rw [hname]
      decide
    obtain ⟨files, hfiles, -, hhave⟩ := source_haveFiles_iff {} htree hpoint
    refine ⟨root, files, rfl, hfiles, hhave ?_ ?_⟩
    · rw [htypes]
      decide
    · rw [htypes]
      decide

/-- A class and its generic namesake are different types, and their files have one name. -/
theorem generic_namesake_shares_name :
    ¬ ∀ (e : Engine) (code : String) (root : Node), e.tree code = .ok root →
      (Reader.declaredTypes (.ofText code) root).Nodup → ∃ files, e.files code = .ok files ∧
        HaveFiles ((Reader.classesOf (.ofText code) root).filter ClassDeclaration.qualifies)
          files := by
  have htypes : ((Engine.tree {} "public class A { } public class A<T> { }").toOption.map
      (Reader.declaredTypes (.ofText "public class A { } public class A<T> { }")))
      = some [("A", 0), ("A", 1)] := by
    decide +kernel
  have hshared : ((Engine.files {} "public class A { } public class A<T> { }").toOption.map
      (List.map FixtureFile.qualifiedName)) = some ["ATests", "ATests"] := by
    decide +kernel
  intro hall
  cases hroot : Engine.tree {} "public class A { } public class A<T> { }" with
  | error fault => simp [hroot, Except.toOption] at htypes
  | ok root =>
    rw [hroot] at htypes
    have hnodup := hall {} _ root hroot (by rw [Option.some.inj htypes]; decide)
    obtain ⟨files, hfiles, hhave⟩ := hnodup
    rw [hfiles] at hshared
    have hnames := hhave.nodup
    rw [show files.map FixtureFile.qualifiedName = ["ATests", "ATests"] from
      Option.some.inj hshared] at hnames
    exact absurd hnames (by decide)

end FixtureDraft
