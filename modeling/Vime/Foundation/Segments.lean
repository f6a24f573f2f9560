import Mathlib.Algebra.BigOperators.Intervals
import Mathlib.Data.List.GetD
import Mathlib.Algebra.Order.BigOperators.Group.Finset

/-! # Segments of a vector

Sums over consecutive chunks of equal size and over their zigzag pairing, and
entries of vectors assembled from segments and zeros.
-/

namespace Vime.Foundation

variable {M : Type u} [AddCommMonoid M]

/-! ## Chunks -/

theorem sum_chunks {chunkSize count position : Nat} (value : M)
    (inside : position < count * chunkSize) :
    (∑ chunk ∈ Finset.range count,
      if chunk * chunkSize ≤ position ∧ position < (chunk + 1) * chunkSize then value
      else 0) = value := by
  have positive : 0 < chunkSize := Nat.pos_of_ne_zero fun empty => by simp [empty] at inside
  have isChunk (chunk : Nat) :
      (chunk * chunkSize ≤ position ∧ position < (chunk + 1) * chunkSize) ↔
        position / chunkSize = chunk := by
    rw [Nat.div_eq_iff positive, Nat.succ_mul]
    omega
  simp only [isChunk]
  rw [Finset.sum_ite_eq, if_pos]
  rw [Finset.mem_range, Nat.div_lt_iff_lt_mul positive]
  exact inside

theorem sum_zigzag (count : Nat) (terms : Nat → M) :
    (∑ index ∈ Finset.range count, (terms index + terms (2 * count - index - 1))) =
      ∑ index ∈ Finset.range (2 * count), terms index := by
  have mirrored : (∑ index ∈ Finset.range count, terms (2 * count - index - 1)) =
      ∑ index ∈ Finset.range count, terms (count + index) := by
    rw [← Finset.sum_range_reflect]
    apply Finset.sum_congr rfl
    intro index member
    rw [Finset.mem_range] at member
    congr 1
    omega
  rw [Finset.sum_add_distrib, mirrored, Nat.two_mul, Finset.sum_range_add]

/-! ## Entries of assembled vectors -/

theorem getD_append (left right : List M) (index : Nat) :
    (left ++ right).getD index 0 =
      if index < left.length then left.getD index 0
      else right.getD (index - left.length) 0 := by
  by_cases inLeft : index < left.length
  · rw [if_pos inLeft, List.getD_eq_getElem?_getD, List.getD_eq_getElem?_getD,
      List.getElem?_append_left inLeft]
  · rw [if_neg inLeft, List.getD_eq_getElem?_getD, List.getD_eq_getElem?_getD,
      List.getElem?_append_right (Nat.le_of_not_lt inLeft)]

theorem getD_zeros (count index : Nat) :
    (List.replicate count (0 : M)).getD index 0 = 0 := by
  rw [List.getD_eq_getElem?_getD, List.getElem?_replicate]
  split <;> rfl

theorem getD_segment (values : List M) {start stop : Nat} (index : Nat) :
    ((values.take stop).drop start).getD index 0 =
      if start + index < stop then values.getD (start + index) 0 else 0 := by
  rw [List.getD_eq_getElem?_getD, List.getElem?_drop, List.getElem?_take,
    List.getD_eq_getElem?_getD]
  split <;> rfl

theorem eq_of_getD_eq {left right : List M} (sameLength : left.length = right.length)
    (sameEntries : ∀ index < left.length, left.getD index 0 = right.getD index 0) :
    left = right := by
  apply List.ext_getElem sameLength
  intro index inLeft inRight
  have same := sameEntries index inLeft
  rw [List.getD_eq_getElem _ _ inLeft, List.getD_eq_getElem _ _ inRight] at same
  exact same

def elementwiseSum (length : Nat) (vectors : List (List M)) : List M :=
  (List.range length).map fun index => (vectors.map fun vector => vector.getD index 0).sum

theorem elementwiseSum_flatten {ι κ : Type} (ranks : List κ) (length : ι → Nat) :
    ∀ (items : List ι) (vector : κ → Nat → ι → List M),
      (∀ rank i item, (vector rank i item).length = length item) →
        elementwiseSum (items.map length).sum
            (ranks.map fun rank => (items.mapIdx (vector rank)).flatten) =
          (items.mapIdx fun i item =>
            elementwiseSum (length item) (ranks.map fun rank => vector rank i item)).flatten
  | [], _, _ => rfl
  | item :: rest, vector, sized => by
      rw [List.mapIdx_cons, List.flatten_cons,
        ← elementwiseSum_flatten ranks length rest (fun rank i => vector rank (i + 1))
          fun rank i => sized rank (i + 1)]
      simp only [elementwiseSum, List.map_cons, List.sum_cons, List.mapIdx_cons,
        List.flatten_cons]
      rw [List.range_add, List.map_append, List.map_map]
      congr 1
      · apply List.map_congr_left
        intro index member
        rw [List.map_map, List.map_map]
        congr 1
        apply List.map_congr_left
        intro rank _
        rw [Function.comp_apply, Function.comp_apply, getD_append,
          if_pos (by rw [sized]; exact List.mem_range.mp member)]
      · apply List.map_congr_left
        intro index _
        rw [Function.comp_apply, List.map_map, List.map_map]
        congr 1
        apply List.map_congr_left
        intro rank _
        rw [Function.comp_apply, Function.comp_apply, getD_append, sized, if_neg (by omega),
          Nat.add_sub_cancel_left]

theorem getD_elementwiseSum {length count : Nat} (vectors : Nat → List M) {index : Nat}
    (inside : index < length) :
    (elementwiseSum length ((List.range count).map vectors)).getD index 0 =
      ∑ rank ∈ Finset.range count, (vectors rank).getD index 0 := by
  rw [elementwiseSum, List.getD_eq_getElem _ _ (by simpa using inside), List.getElem_map,
    List.getElem_range, List.map_map]
  rfl

end Vime.Foundation
