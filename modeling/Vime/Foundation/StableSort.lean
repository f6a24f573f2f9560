import Mathlib.Data.List.Basic

/-! # Stable sorting

A stable sort orders by the sort key and keeps any relation that held between
earlier and later elements where the keys agree.
-/

namespace Vime.Foundation

variable {α : Type u}

theorem pairwise_rel_or_rel {before : α → α → Prop} {items : List α}
    (ordered : items.Pairwise before) {left right : α} (leftIn : left ∈ items)
    (rightIn : right ∈ items) (different : left ≠ right) :
    before left right ∨ before right left := by
  induction ordered with
  | nil => cases leftIn
  | cons first _ induction =>
      rcases List.mem_cons.mp leftIn with rfl | leftLater
      · rcases List.mem_cons.mp rightIn with rfl | rightLater
        · exact absurd rfl different
        · exact .inl (first right rightLater)
      · rcases List.mem_cons.mp rightIn with rfl | rightLater
        · exact .inr (first left leftLater)
        · exact induction leftLater rightLater

theorem mergeSort_stable {le : α → α → Bool}
    (trans : ∀ first second third, le first second → le second third → le first third)
    (total : ∀ left right, le left right || le right left)
    {before : α → α → Prop} {items : List α} (ordered : items.Pairwise before) :
    (items.mergeSort le).Pairwise fun left right =>
      le left right = true ∧ (le right left = true → before left right) := by
  rw [← List.mergeSort_zipIdx, List.pairwise_map]
  have sorted := List.pairwise_mergeSort (List.zipIdxLE_trans trans)
    (List.zipIdxLE_total total) items.zipIdx
  have perm := List.mergeSort_perm items.zipIdx (List.zipIdxLE le)
  have distinct : (items.zipIdx.mergeSort (List.zipIdxLE le)).Pairwise fun left right =>
      left.2 ≠ right.2 := by
    rw [← List.pairwise_map (f := Prod.snd) (R := (· ≠ ·))]
    have nodup : (items.zipIdx.map Prod.snd).Nodup := by
      rw [List.zipIdx_map_snd]
      exact List.nodup_range'
    exact (perm.map Prod.snd).nodup_iff.mpr nodup
  refine List.Pairwise.imp_of_mem ?_ (sorted.and distinct)
  intro left right leftIn rightIn both
  rw [perm.mem_iff] at leftIn rightIn
  rcases both with ⟨leIndexed, different⟩
  rw [List.zipIdxLE] at leIndexed
  split at leIndexed
  · rename_i leftLe
    refine ⟨leftLe, ?_⟩
    intro rightLe
    rw [if_pos rightLe, decide_eq_true_eq] at leIndexed
    rw [List.mem_zipIdx_iff_getElem?] at leftIn rightIn
    have earlier : left.2 < right.2 := Nat.lt_of_le_of_ne leIndexed different
    rcases List.getElem?_eq_some_iff.mp leftIn with ⟨leftInside, isLeft⟩
    rcases List.getElem?_eq_some_iff.mp rightIn with ⟨rightInside, isRight⟩
    have related := List.pairwise_iff_getElem.mp ordered left.2 right.2 leftInside rightInside
      earlier
    rw [isLeft, isRight] at related
    exact related
  · cases leIndexed

end Vime.Foundation
