import QueryMethods.MethodName.Parser
import Mathlib.Data.List.Forall2

/-!
# Names and signatures

A name fits a signature when its fields and the parameters have the same names one by one, in any
ASCII case, and its verb demands the declared shape.
-/

namespace QueryMethods

namespace MethodName

theorem findMisnamed?_eq_none_iff {fields params : List String}
    (hlength : fields.length = params.length) (position : Nat) :
    findMisnamed? fields params position = none ↔
      List.Forall₂ (fun field param => sameName field param = true) fields params := by
  induction fields generalizing params position with
  | nil =>
      obtain rfl := List.eq_nil_of_length_eq_zero hlength.symm
      simp [findMisnamed?]
  | cons field fields ih =>
      cases params with
      | nil => cases hlength
      | cons param params =>
          rw [List.forall₂_cons, findMisnamed?]
          cases hname : sameName field param with
          | false => simp
          | true => simp [ih (Nat.succ.inj hlength) (position + 1)]

theorem align_eq_ok_iff {name : MethodName} {params : List String} {shape : Shape} :
    name.align params shape = .ok () ↔
      List.Forall₂ (fun field param => sameName field param = true) name.fields params ∧
        shape = name.verb.shape := by
  unfold align
  by_cases hlength : name.fields.length = params.length
  · rw [if_neg (not_not_intro hlength), ← findMisnamed?_eq_none_iff hlength 0]
    cases hfault : findMisnamed? name.fields params 0 with
    | some fault => simp
    | none =>
        by_cases hshape : name.verb.shape = shape
        · simp [hshape]
        · simp [hshape, Ne.symm hshape]
  · rw [if_pos hlength]
    simp only [reduceCtorEq, false_iff, not_and]
    exact fun hnamed => absurd hnamed.length_eq hlength

end MethodName

end QueryMethods
