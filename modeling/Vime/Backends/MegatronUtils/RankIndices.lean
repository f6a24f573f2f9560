import Mathlib.Data.List.Sort
import Vime.Backends.MegatronUtils.CpPartition

/-! # The response entries of a rank

A slice of a response vector lists the entries whose logits lie in the chunks of a rank.
-/

namespace Vime.Backends.MegatronUtils

open Vime.Foundation

def Owns (cpSize cpRank totalLength responseLength index : Nat) : Prop :=
  let logits := rankLogits cpSize cpRank totalLength responseLength
  let position : Int := (totalLength : Int) - responseLength - 1 + index
  Covers logits.first position ∨ Covers logits.second position

instance (cpSize cpRank totalLength responseLength index : Nat) :
    Decidable (Owns cpSize cpRank totalLength responseLength index) :=
  inferInstanceAs (Decidable (_ ∨ _))

def rankIndices (cpSize cpRank totalLength responseLength : Nat) : List Nat :=
  (List.range responseLength).filter fun index =>
    Owns cpSize cpRank totalLength responseLength index

section Rank

variable {cpSize cpRank totalLength responseLength : Nat}

theorem mem_rankIndices {index : Nat} :
    index ∈ rankIndices cpSize cpRank totalLength responseLength ↔
      index < responseLength ∧ Owns cpSize cpRank totalLength responseLength index := by
  rw [rankIndices, List.mem_filter, List.mem_range, decide_eq_true_eq]

theorem rankIndices_increasing :
    (rankIndices cpSize cpRank totalLength responseLength).Pairwise (· < ·) :=
  List.Pairwise.filter _ List.pairwise_lt_range

theorem take_drop_eq_map {M : Type} [Zero M] (values : List M) {start stop : Nat}
    (bounded : stop ≤ values.length) :
    (values.take stop).drop start =
      (List.range' start (stop - start)).map fun index => values.getD index 0 := by
  apply List.ext_getElem
  · rw [List.length_drop, List.length_take_of_le bounded, List.length_map, List.length_range']
  · intro index inSlice inRange
    have inside : start + index < values.length := by
      rw [List.length_drop, List.length_take_of_le bounded] at inSlice
      omega
    rw [List.getElem_drop, List.getElem_take, List.getElem_map, List.getElem_range', Nat.one_mul,
      List.getD_eq_getElem _ _ inside]

theorem sliceLogProbWithCp_eq_map {M : Type} [Zero M] (parallel : 1 < cpSize)
    (isRank : cpRank < cpSize) (values : List M) (sameLength : values.length = responseLength) :
    sliceLogProbWithCp cpSize cpRank values totalLength responseLength =
      .ok ((rankIndices cpSize cpRank totalLength responseLength).map fun index =>
        values.getD index 0) := by
  rcases exists_rankRanges isRank totalLength responseLength with
    ⟨start0, stop0, start1, stop1, ranges⟩
  rw [sliceLogProbWithCp_eq parallel ranges values sameLength,
    take_drop_eq_map values (sameLength ▸ ranges.first.bounded),
    take_drop_eq_map values (sameLength ▸ ranges.second.bounded), ← List.map_append]
  congr 2
  have bounded0 := ranges.first.bounded
  have bounded1 := ranges.second.bounded
  have increasing : (List.range' start0 (stop0 - start0) ++
      List.range' start1 (stop1 - start1)).Pairwise (· < ·) := by
    rw [List.pairwise_append]
    refine ⟨List.pairwise_lt_range' .., List.pairwise_lt_range' .., ?_⟩
    intro first inFirst second inSecond
    rw [List.mem_range'_1] at inFirst inSecond
    have between := ranges.ordered (by omega) (by omega)
    omega
  apply increasing.eq_of_mem_iff rankIndices_increasing
  intro index
  rw [mem_rankIndices, Owns, List.mem_append, List.mem_range'_1, List.mem_range'_1]
  dsimp only [rankLogits]
  rw [ranges.first.covers_iff, ranges.second.covers_iff]
  omega

def ownCount (cpSize cpRank totalLength responseLength index : Nat) : Nat :=
  let logits := rankLogits cpSize cpRank totalLength responseLength
  let position : Int := (totalLength : Int) - responseLength - 1 + index
  (if Covers logits.first position then 1 else 0) + if Covers logits.second position then 1 else 0

theorem Owns.count_pos {index : Nat}
    (owns : Owns cpSize cpRank totalLength responseLength index) :
    0 < ownCount cpSize cpRank totalLength responseLength index := by
  rw [ownCount]
  rcases owns with inFirst | inSecond
  · rw [if_pos inFirst]
    omega
  · rw [if_pos inSecond]
    omega

theorem sum_ownCount {index : Nat} (parallel : 1 < cpSize)
    (inSequence : responseLength < totalLength) (inside : index < responseLength) :
    ∑ rank ∈ Finset.range cpSize, ownCount cpSize rank totalLength responseLength index = 1 := by
  have covered : Covers ((totalLength : Int) - responseLength - 1, (totalLength : Int) - 1)
      ((totalLength : Int) - responseLength - 1 + index) := by
    rw [Covers]
    omega
  have once := sum_rankLogits parallel inSequence
    ((totalLength : Int) - responseLength - 1 + index) 1
  rwa [if_pos covered] at once

theorem Owns.unique {index otherRank : Nat} (parallel : 1 < cpSize)
    (inSequence : responseLength < totalLength) (inside : index < responseLength)
    (isRank : cpRank < cpSize) (isOther : otherRank < cpSize)
    (owns : Owns cpSize cpRank totalLength responseLength index)
    (otherOwns : Owns cpSize otherRank totalLength responseLength index) :
    cpRank = otherRank := by
  by_contra differs
  have once := sum_ownCount parallel inSequence inside
  have both := Finset.add_le_sum
    (f := fun rank => ownCount cpSize rank totalLength responseLength index)
    (fun _ _ => Nat.zero_le _) (Finset.mem_range.mpr isRank) (Finset.mem_range.mpr isOther)
    differs
  have own := owns.count_pos
  have other := otherOwns.count_pos
  omega

theorem exists_owns {index : Nat} (parallel : 1 < cpSize)
    (inSequence : responseLength < totalLength) (inside : index < responseLength) :
    ∃ rank < cpSize, Owns cpSize rank totalLength responseLength index := by
  by_contra nobody
  have once := sum_ownCount parallel inSequence inside
  rw [Finset.sum_eq_zero] at once
  · exact absurd once Nat.zero_ne_one
  · intro rank isRank
    have notOwned : ¬ Owns cpSize rank totalLength responseLength index := fun owns =>
      nobody ⟨rank, Finset.mem_range.mp isRank, owns⟩
    rw [Owns, not_or] at notOwned
    rw [ownCount, if_neg notOwned.1, if_neg notOwned.2, Nat.add_zero]

def heldIndices (cpSize cpRank totalLength responseLength : Nat) : List Nat :=
  if cpSize = 1 then List.range responseLength
  else rankIndices cpSize cpRank totalLength responseLength

theorem lt_of_mem_heldIndices {index : Nat}
    (member : index ∈ heldIndices cpSize cpRank totalLength responseLength) :
    index < responseLength := by
  rw [heldIndices] at member
  by_cases single : cpSize = 1
  · rw [if_pos single] at member
    exact List.mem_range.mp member
  · rw [if_neg single, mem_rankIndices] at member
    exact member.1

theorem map_getD_range_eq {M : Type} [Zero M] (values : List M) :
    ((List.range values.length).map fun index => values.getD index 0) = values := by
  apply List.ext_getElem
  · rw [List.length_map, List.length_range]
  · intro index inRange inValues
    rw [List.getElem_map, List.getElem_range, List.getD_eq_getElem _ _ inValues]

theorem sliceLogProbWithCp_eq_held {M : Type} [Zero M] (isRank : cpRank < cpSize)
    (values : List M) (sameLength : values.length = responseLength) :
    sliceLogProbWithCp cpSize cpRank values totalLength responseLength =
      .ok ((heldIndices cpSize cpRank totalLength responseLength).map fun index =>
        values.getD index 0) := by
  by_cases single : cpSize = 1
  · rw [sliceLogProbWithCp, raiseIf, if_neg (by simpa using sameLength), ok_bind, if_pos single,
      pure_eq_ok, heldIndices, if_pos single, ← sameLength, map_getD_range_eq]
  · rw [heldIndices, if_neg single]
    exact sliceLogProbWithCp_eq_map (by omega) isRank values sameLength

theorem sum_heldIndices_inSequence {M : Type} [AddCommMonoid M] (positive : 0 < cpSize)
    (inSequence : responseLength < totalLength) (term : Nat → M) :
    ∑ rank ∈ Finset.range cpSize,
        ((heldIndices cpSize rank totalLength responseLength).map term).sum =
      ∑ index ∈ Finset.range responseLength, term index := by
  by_cases single : cpSize = 1
  · subst single
    simp only [heldIndices, if_pos]
    rw [Finset.sum_range_one]
    rfl
  · have parallel : 1 < cpSize := by omega
    have asSum (rank : Nat) : ((heldIndices cpSize rank totalLength responseLength).map
        term).sum = ∑ index ∈ Finset.range responseLength,
          if Owns cpSize rank totalLength responseLength index then term index else 0 := by
      rw [heldIndices, if_neg single, rankIndices, ← Finset.sum_filter]
      rfl
    simp only [asSum]
    rw [Finset.sum_comm]
    apply Finset.sum_congr rfl
    intro index isIndex
    have inside := Finset.mem_range.mp isIndex
    rcases exists_owns parallel inSequence inside with ⟨owner, isOwner, owns⟩
    rw [Finset.sum_eq_single owner, if_pos owns]
    · intro rank isRank other
      rw [if_neg]
      intro alsoOwns
      exact other (alsoOwns.unique parallel inSequence inside (Finset.mem_range.mp isRank)
        isOwner owns)
    · intro notRank
      exact absurd (Finset.mem_range.mpr isOwner) notRank

end Rank

/-- The slices of a response hold all of it: there is one slice, or the first response token has
a token before it. -/
def KeepsResponse (cpSize responseLength totalLength : Nat) : Prop :=
  cpSize = 1 ∨ responseLength = 0 ∨ responseLength < totalLength

instance (cpSize responseLength totalLength : Nat) :
    Decidable (KeepsResponse cpSize responseLength totalLength) :=
  inferInstanceAs (Decidable (_ ∨ _))

theorem KeepsResponse.sum_heldIndices {M : Type} [AddCommMonoid M]
    {cpSize responseLength totalLength : Nat} (positive : 0 < cpSize)
    (keeps : KeepsResponse cpSize responseLength totalLength) (term : Nat → M) :
    ∑ rank ∈ Finset.range cpSize,
        ((heldIndices cpSize rank totalLength responseLength).map term).sum =
      ∑ index ∈ Finset.range responseLength, term index := by
  rcases keeps with single | noResponse | inSequence
  · subst single
    rw [Finset.sum_range_one, heldIndices, if_pos rfl]
    rfl
  · subst noResponse
    apply Finset.sum_eq_zero
    intro rank _
    have nothing : heldIndices cpSize rank totalLength 0 = [] := by
      apply List.eq_nil_iff_forall_not_mem.mpr
      intro index member
      exact absurd (lt_of_mem_heldIndices member) (Nat.not_lt_zero index)
    rw [nothing]
    rfl
  · exact sum_heldIndices_inSequence positive inSequence term

end Vime.Backends.MegatronUtils
