import FixtureDraft.Analysis
import FixtureDraft.Proofs.Reservation

/-!
# Classes with a verbatim name

A class may be called by a keyword with an at sign before it. The field for such a class has the
at sign behind an underscore, where no word of the grammar goes on: the field is no identifier,
and the text of the fixture is refused.
-/

namespace FixtureDraft

open FixtureDraft.Grammar

/-- An at sign in a word is its end. -/
lemma wordLength_underscore_at (cs : List Char) : wordLength ('_' :: '@' :: cs) = 1 := by
  have hstart : (Text.isStart '_' || '_' == '_') = true := by
    rw [Bool.or_eq_true]
    exact Or.inr rfl
  have hcontinue : Text.isContinue '@' = false := by decide +kernel
  show bareWordLength ('_' :: '@' :: cs) = 1
  rw [bareWordLength, if_pos hstart, wordTail, if_neg (by rw [hcontinue]; decide)]
  rfl

/-- The field for a class with a verbatim name keeps the at sign. -/
lemma toList_instanceField_of_verbatim {name : String} {cs : List Char}
    (hname : name.toList = '@' :: cs) : (instanceField name).toList = '_' :: '@' :: cs := by
  have hlower : Text.lowercase '@' = ['@'] := by decide +kernel
  rw [instanceField, hname]
  simp only [hlower, String.toList_ofList]
  rfl

/-- The field that holds the instance of a class with a verbatim name is no identifier: as a word
of the grammar it ends behind its first character. -/
theorem wordLength_subject_of_verbatim (rule : MockRule) (c : ClassDeclaration) {cs : List Char}
    (hname : c.name.toList = '@' :: cs) :
    wordLength (SetupPlan.ofClass rule c).subject.toList = 1
      ∧ 1 < (SetupPlan.ofClass rule c).subject.toList.length := by
  obtain ⟨rest, hrest⟩ := prefix_freeName (instanceField c.name)
    (dependencies rule c.primaryConstructor.parameters []).2
  rw [toList_instanceField_of_verbatim hname, List.cons_append, List.cons_append] at hrest
  have hsubject : (SetupPlan.ofClass rule c).subject.toList = '_' :: '@' :: (cs ++ rest) :=
    hrest.symm
  rw [hsubject]
  refine ⟨wordLength_underscore_at _, ?_⟩
  rw [List.length_cons, List.length_cons]
  omega

/-- Not all code that is generated from an accepted source is accepted: the source of a public
class with a verbatim name is, and its fixture is not. -/
theorem generated_code_refused :
    ¬ ∀ (rule : MockRule) (code : String) (files : List FixtureFile),
      Engine.files { rule } code = .ok files →
        ∀ f ∈ files, ∃ root, Engine.tree { rule } f.code = .ok root := by
  have hrefused : ((Engine.files {} "public class @a { }").toOption.map fun files =>
      files.map fun f => (Engine.tree {} f.code).toOption.isSome) = some [false] := by
    decide +kernel
  intro hall
  cases hfiles : Engine.files {} "public class @a { }" with
  | error fault => simp [hfiles, Except.toOption] at hrefused
  | ok files =>
    rw [hfiles] at hrefused
    have hmap : files.map (fun f => (Engine.tree {} f.code).toOption.isSome) = [false] :=
      Option.some.inj hrefused
    obtain ⟨f, hf, hfalse⟩ := List.mem_map.mp
      (show false ∈ files.map fun f => (Engine.tree {} f.code).toOption.isSome by simp [hmap])
    obtain ⟨root, hroot⟩ := hall _ _ files hfiles f hf
    simp [hroot, Except.toOption] at hfalse

end FixtureDraft
