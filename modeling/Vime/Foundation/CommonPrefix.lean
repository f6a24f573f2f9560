import Mathlib.Data.List.Infix

/-! # Longest common prefixes -/

namespace Vime.Foundation

variable {α : Type u} [DecidableEq α]

def commonPrefixLength : List α → List α → Nat
  | left :: lefts, right :: rights =>
      if left = right then commonPrefixLength lefts rights + 1 else 0
  | _, _ => 0

@[simp] theorem commonPrefixLength_nil_left (right : List α) :
    commonPrefixLength [] right = 0 := by
  simp [commonPrefixLength]

@[simp] theorem commonPrefixLength_nil_right (left : List α) :
    commonPrefixLength left [] = 0 := by
  cases left <;> simp [commonPrefixLength]

theorem commonPrefixLength_cons (head : α) (left right : List α) :
    commonPrefixLength (head :: left) (head :: right) =
      commonPrefixLength left right + 1 := by
  simp [commonPrefixLength]

theorem commonPrefixLength_le_left : ∀ left right : List α,
    commonPrefixLength left right ≤ left.length
  | [], _ => by simp
  | _ :: _, [] => by simp
  | leftHead :: left, rightHead :: right => by
      have tailBound := commonPrefixLength_le_left left right
      rw [commonPrefixLength, List.length_cons]
      split <;> omega

theorem commonPrefixLength_le_right : ∀ left right : List α,
    commonPrefixLength left right ≤ right.length
  | [], _ => by simp
  | _ :: _, [] => by simp
  | leftHead :: left, rightHead :: right => by
      have tailBound := commonPrefixLength_le_right left right
      rw [commonPrefixLength, List.length_cons]
      split <;> omega

theorem take_eq_take_of_le_commonPrefixLength : ∀ {left right : List α} {count : Nat},
    count ≤ commonPrefixLength left right → left.take count = right.take count
  | [], right, count, bound => by
      have zero : count = 0 := by simpa using bound
      simp [zero]
  | _ :: _, [], count, bound => by
      have zero : count = 0 := by simpa using bound
      simp [zero]
  | leftHead :: left, rightHead :: right, 0, _ => by simp
  | leftHead :: left, rightHead :: right, count + 1, bound => by
      rw [commonPrefixLength] at bound
      split at bound
      · rename_i equal
        subst equal
        rw [List.take_succ_cons, List.take_succ_cons,
          take_eq_take_of_le_commonPrefixLength (Nat.le_of_succ_le_succ bound)]
      · omega

theorem le_commonPrefixLength_of_take_eq : ∀ {left right : List α} {count : Nat},
    count ≤ left.length → count ≤ right.length → left.take count = right.take count →
      count ≤ commonPrefixLength left right
  | left, right, 0, _, _, _ => Nat.zero_le _
  | [], right, count + 1, leftBound, _, _ => by simp at leftBound
  | _ :: _, [], count + 1, _, rightBound, _ => by simp at rightBound
  | leftHead :: left, rightHead :: right, count + 1, leftBound, rightBound, equal => by
      rw [List.take_succ_cons, List.take_succ_cons, List.cons.injEq] at equal
      rcases equal with ⟨headEqual, tailEqual⟩
      subst headEqual
      rw [commonPrefixLength_cons]
      exact Nat.succ_le_succ (le_commonPrefixLength_of_take_eq
        (by simpa using leftBound) (by simpa using rightBound) tailEqual)

theorem commonPrefixLength_eq_length_iff (left right : List α) :
    commonPrefixLength left right = left.length ↔ left.IsPrefix right := by
  constructor
  · intro full
    have agree := take_eq_take_of_le_commonPrefixLength (Nat.le_of_eq full.symm)
    rw [List.take_length] at agree
    exact agree ▸ List.take_prefix _ _
  · intro isPrefix
    apply Nat.le_antisymm (commonPrefixLength_le_left left right)
    apply le_commonPrefixLength_of_take_eq (Nat.le_refl _) isPrefix.length_le
    rw [List.take_length]
    exact List.prefix_iff_eq_take.mp isPrefix

end Vime.Foundation
