import BranchChat.Json.Raw

/-!
# Equality of JSON trees

Whether two trees are the same can be computed, so that what is read from a given text can be
looked up.

## Main definitions

- `Raw.isSame`: compares two trees

## Main statements

- `Raw.isSame_iff`: the comparison decides equality
-/

namespace BranchChat.Json

open BranchChat.Text.Utf8 (Symbol)

namespace Raw

mutual

/-- Whether two trees are the same. -/
def isSame : Raw → Raw → Bool
  | .null, .null => true
  | .bool a, .bool b => a == b
  | .number a, .number b => a == b
  | .string a, .string b => a == b
  | .array as, .array bs => areItemsSame as bs
  | .object as, .object bs => areMembersSame as bs
  | _, _ => false

/-- Whether two arrays have the same items. -/
def areItemsSame : List Raw → List Raw → Bool
  | [], [] => true
  | a :: as, b :: bs => isSame a b && areItemsSame as bs
  | _, _ => false

/-- Whether two objects have the same members. -/
def areMembersSame : List (List Symbol × Raw) → List (List Symbol × Raw) → Bool
  | [], [] => true
  | (k, a) :: as, (l, b) :: bs => k == l && isSame a b && areMembersSame as bs
  | _, _ => false

end

mutual

theorem isSame_iff (a b : Raw) : isSame a b = true ↔ a = b := by
  match a with
  | .null => cases b <;> simp [isSame]
  | .bool _ => cases b <;> simp [isSame]
  | .number _ => cases b <;> simp [isSame]
  | .string _ => cases b <;> simp [isSame]
  | .array as =>
    cases b with
    | array bs =>
      rw [isSame, areItemsSame_iff as bs]
      exact ⟨congrArg array, array.inj⟩
    | _ => simp [isSame]
  | .object as =>
    cases b with
    | object bs =>
      rw [isSame, areMembersSame_iff as bs]
      exact ⟨congrArg object, object.inj⟩
    | _ => simp [isSame]

theorem areItemsSame_iff (as bs : List Raw) : areItemsSame as bs = true ↔ as = bs := by
  match as with
  | [] => cases bs <;> simp [areItemsSame]
  | a :: as =>
    cases bs with
    | nil => simp [areItemsSame]
    | cons b bs =>
      rw [areItemsSame, Bool.and_eq_true, isSame_iff a b, areItemsSame_iff as bs, List.cons.injEq]

theorem areMembersSame_iff (as bs : List (List Symbol × Raw)) :
    areMembersSame as bs = true ↔ as = bs := by
  match as with
  | [] => cases bs <;> simp [areMembersSame]
  | (k, a) :: as =>
    cases bs with
    | nil => simp [areMembersSame]
    | cons m bs =>
      obtain ⟨l, b⟩ := m
      rw [areMembersSame, Bool.and_eq_true, Bool.and_eq_true, beq_iff_eq, isSame_iff a b,
        areMembersSame_iff as bs, List.cons.injEq, Prod.mk.injEq]

end

instance : DecidableEq Raw := fun a b => decidable_of_iff _ (isSame_iff a b)

end Raw

end BranchChat.Json
