import Vime.Backends.MegatronUtils.HeldResponses
import Vime.Utils.PpoBatch

/-! # Batched advantages under context parallelism

`get_advantages_and_returns_batch` of `vime/utils/ppo_utils.py`: the samples of a batch are
gathered, padded to the longest response, scanned together and cut again, and every sample gets
the recurrence over its own response.
-/

namespace Vime.Backends.MegatronUtils

open Vime.Foundation Vime.Utils

structure RankedGae (R : Type) where
  totalLength : Nat
  responseLength : Nat
  values : Nat → List R
  rewards : Nat → List R

/-- `max(...)`, of something that is not empty. -/
def maxLength (lengths : List Nat) : Nat := lengths.foldr max 0

theorem le_maxLength {lengths : List Nat} {length : Nat} (member : length ∈ lengths) :
    length ≤ maxLength lengths := by
  induction lengths with
  | nil => cases member
  | cons first rest induction =>
      rw [maxLength, List.foldr_cons]
      rcases List.mem_cons.mp member with same | later
      · rw [same]
        exact Nat.le_max_left _ _
      · exact Nat.le_trans (induction later) (Nat.le_max_right _ _)

section Source

variable {R : Type} [CommRing R] [DecidableEq R]

/-- `chunked_gae` or `vanilla_gae`. -/
def gaeOf (chunked : Bool) (gamma lambd : R) (full : GaeBatch R) :
    Except PyException (List (List R) × List (List R)) :=
  if chunked then pure (full.chunkedGae gamma lambd 128) else full.vanillaGae gamma lambd

def getAdvantagesAndReturnsBatch (cpSize cpRank : Nat) (gamma lambd : R) (chunked : Bool)
    (batch : List (RankedGae R)) : Except PyException (List (List R) × List (List R)) := do
  -- `values_list[0]`
  raiseIf (batch.isEmpty = true) .indexError
  let maxLen := maxLength (batch.map (·.responseLength))
  let rows ← batch.mapM fun sample => do
    let fullValues ← gatheredResponse cpSize cpRank sample.values sample.totalLength
      sample.responseLength
    let fullRewards ← gatheredResponse cpSize cpRank sample.rewards sample.totalLength
      sample.responseLength
    let values ← zeroRow maxLen sample.responseLength fullValues
    let rewards ← zeroRow maxLen sample.responseLength fullRewards
    pure (rewards, values)
  let gae ← gaeOf chunked gamma lambd (GaeBatch.ofRows rows)
  let advantages ← (batch.zip gae.1).mapM fun (sample, row) =>
    keptChunk cpSize cpRank sample.totalLength sample.responseLength
      (row.take sample.responseLength)
  let returns ← (batch.zip gae.2).mapM fun (sample, row) =>
    keptChunk cpSize cpRank sample.totalLength sample.responseLength
      (row.take sample.responseLength)
  pure (advantages, returns)

end Source

/-! ## Whole samples -/

/-- A sample with its whole values and token-level rewards. -/
structure GaeSample (R : Type) where
  totalLength : Nat
  responseLength : Nat
  values : List R
  rewards : List R
  valuesLength : values.length = responseLength
  rewardsLength : rewards.length = responseLength

namespace GaeSample

variable {R : Type} [CommRing R]

def sharded (cpSize : Nat) (sample : GaeSample R) : Except PyException (RankedGae R) := do
  let values ← slices cpSize sample.totalLength sample.responseLength sample.values
  let rewards ← slices cpSize sample.totalLength sample.responseLength sample.rewards
  pure ⟨sample.totalLength, sample.responseLength, values, rewards⟩

def ranked (cpSize : Nat) (sample : GaeSample R) : RankedGae R where
  totalLength := sample.totalLength
  responseLength := sample.responseLength
  values := heldSlices cpSize sample.totalLength sample.responseLength sample.values
  rewards := heldSlices cpSize sample.totalLength sample.responseLength sample.rewards

theorem sharded_eq (cpSize : Nat) (sample : GaeSample R) :
    sample.sharded cpSize = .ok (sample.ranked cpSize) := by
  rw [sharded, slices_eq cpSize sample.totalLength sample.valuesLength, ok_bind,
    slices_eq cpSize sample.totalLength sample.rewardsLength, ok_bind, pure_eq_ok, ranked]

def advantages (gamma lambd : R) (sample : GaeSample R) : List R :=
  GaeBatch.rowAdvantages gamma lambd (sample.rewards, sample.values)

def returns (gamma lambd : R) (sample : GaeSample R) : List R :=
  List.zipWith (· + ·) (sample.advantages gamma lambd) sample.values

theorem length_advantages (gamma lambd : R) (sample : GaeSample R) :
    (sample.advantages gamma lambd).length = sample.responseLength := by
  rw [advantages, GaeBatch.rowAdvantages, length_discountedReturns,
    length_deltas _ _ _ (by rw [sample.rewardsLength, sample.valuesLength]), sample.rewardsLength]

theorem length_returns (gamma lambd : R) (sample : GaeSample R) :
    (sample.returns gamma lambd).length = sample.responseLength := by
  rw [returns, List.length_zipWith, sample.length_advantages, sample.valuesLength, Nat.min_self]

def paddedRow (maxLen : Nat) (sample : GaeSample R) : List R × List R :=
  (sample.rewards ++ List.replicate (maxLen - sample.responseLength) 0,
    sample.values ++ List.replicate (maxLen - sample.responseLength) 0)

theorem rowAdvantages_padded (gamma lambd : R) (maxLen : Nat) (sample : GaeSample R) :
    GaeBatch.rowAdvantages gamma lambd (sample.paddedRow maxLen) =
      sample.advantages gamma lambd ++ List.replicate (maxLen - sample.responseLength) 0 := by
  rw [GaeBatch.rowAdvantages, paddedRow, deltas_append_zeros _ _ _ _
    (by rw [sample.rewardsLength, sample.valuesLength]), discountedReturns_append_zeros]
  rfl

end GaeSample

section Run

variable {R : Type} [CommRing R] [DecidableEq R] {cpSize cpRank : Nat}

theorem gaeOf_eq (chunked : Bool) (gamma lambd : R) (full : GaeBatch R)
    (computes : chunked = true ∨ 0 < full.width) :
    gaeOf chunked gamma lambd full = .ok (full.rows.map (GaeBatch.rowAdvantages gamma lambd),
      full.rows.map fun row =>
        List.zipWith (· + ·) (GaeBatch.rowAdvantages gamma lambd row) row.2) := by
  rw [gaeOf]
  cases chunked with
  | true => rw [if_pos rfl, full.chunkedGae_eq gamma lambd (by decide), pure_eq_ok]
  | false =>
      have someColumn := computes.resolve_left Bool.false_ne_true
      rw [if_neg Bool.false_ne_true, full.vanillaGae_eq gamma lambd someColumn]

omit [DecidableEq R] in
theorem keptRows_eq (isRank : cpRank < cpSize) (samples : List (GaeSample R))
    (paddedRow ownRow : GaeSample R → List R)
    (own : ∀ sample ∈ samples,
      (paddedRow sample).take sample.responseLength = ownRow sample ∧
        (ownRow sample).length = sample.responseLength) :
    (((samples.map (GaeSample.ranked cpSize)).zip (samples.map paddedRow)).mapM
      fun (sample, row) => keptChunk cpSize cpRank sample.totalLength sample.responseLength
        (row.take sample.responseLength)) =
      .ok (samples.map fun sample => heldSlice cpSize cpRank sample.totalLength
        sample.responseLength (ownRow sample)) := by
  rw [List.zip_map']
  apply mapM_map_eq_ok
  intro sample member
  rcases own sample member with ⟨taken, sized⟩
  dsimp only [GaeSample.ranked]
  rw [taken, keptChunk_eq isRank sample.totalLength sized]

/-- Every sample gets what the rank holds of the recurrence over its own response. -/
theorem getAdvantagesAndReturnsBatch_ranked (isRank : cpRank < cpSize) (gamma lambd : R)
    (chunked : Bool) {samples : List (GaeSample R)} (someSample : samples ≠ [])
    (keeps : ∀ sample ∈ samples, KeepsResponse cpSize sample.responseLength sample.totalLength)
    (computes : chunked = true ∨ 0 < maxLength (samples.map (·.responseLength))) :
    getAdvantagesAndReturnsBatch cpSize cpRank gamma lambd chunked
        (samples.map (GaeSample.ranked cpSize)) = .ok
      (samples.map fun sample => heldSlice cpSize cpRank sample.totalLength
        sample.responseLength (sample.advantages gamma lambd),
      samples.map fun sample => heldSlice cpSize cpRank sample.totalLength
        sample.responseLength (sample.returns gamma lambd)) := by
  have notEmpty : ¬ (samples.map (GaeSample.ranked cpSize)).isEmpty = true := by
    rwa [List.isEmpty_iff, List.map_eq_nil_iff]
  have lengthsEq : (samples.map (GaeSample.ranked cpSize)).map (·.responseLength) =
      samples.map (·.responseLength) := by
    rw [List.map_map]
    rfl
  have within : ∀ sample ∈ samples,
      sample.responseLength ≤ maxLength (samples.map (·.responseLength)) :=
    fun sample member => le_maxLength (List.mem_map_of_mem member)
  rw [getAdvantagesAndReturnsBatch, raiseIf, if_neg notEmpty, ok_bind, lengthsEq]
  generalize maxLength (samples.map (·.responseLength)) = maxLen at within computes ⊢
  have filled : ∃ rows : List (Row R maxLen × Row R maxLen),
      ((samples.map (GaeSample.ranked cpSize)).mapM fun sample => do
        let fullValues ← gatheredResponse cpSize cpRank sample.values sample.totalLength
          sample.responseLength
        let fullRewards ← gatheredResponse cpSize cpRank sample.rewards sample.totalLength
          sample.responseLength
        let values ← zeroRow maxLen sample.responseLength fullValues
        let rewards ← zeroRow maxLen sample.responseLength fullRewards
        pure (rewards, values)) = .ok rows ∧
      rows.map (fun row => (row.1.val, row.2.val)) =
        samples.map (GaeSample.paddedRow maxLen) := by
    rw [List.mapM_map]
    apply mapM_exists_map
    intro sample member
    rcases zeroRow_eq sample.valuesLength (within sample member) with
      ⟨values, valuesEq, isValues⟩
    rcases zeroRow_eq sample.rewardsLength (within sample member) with
      ⟨rewards, rewardsEq, isRewards⟩
    refine ⟨(rewards, values), ?_, by rw [isValues, isRewards, GaeSample.paddedRow]⟩
    dsimp only [Function.comp_apply, GaeSample.ranked]
    rw [gatheredResponse_held isRank (keeps sample member) sample.valuesLength, ok_bind,
      gatheredResponse_held isRank (keeps sample member) sample.rewardsLength, ok_bind, valuesEq,
      ok_bind, rewardsEq, ok_bind, pure_eq_ok]
  rcases filled with ⟨rows, filledEq, rowsEq⟩
  have scanned := gaeOf_eq chunked gamma lambd (GaeBatch.ofRows rows) computes
  have fullRows : (GaeBatch.ofRows rows).rows = samples.map (GaeSample.paddedRow maxLen) := rowsEq
  rw [fullRows, List.map_map, List.map_map] at scanned
  have advantages := keptRows_eq isRank samples
    (GaeBatch.rowAdvantages gamma lambd ∘ GaeSample.paddedRow maxLen)
    (GaeSample.advantages gamma lambd) (by
      intro sample _
      rw [Function.comp_apply, sample.rowAdvantages_padded,
        List.take_left' (sample.length_advantages gamma lambd)]
      exact ⟨rfl, sample.length_advantages gamma lambd⟩)
  have returns := keptRows_eq isRank samples
    ((fun row => List.zipWith (· + ·) (GaeBatch.rowAdvantages gamma lambd row) row.2) ∘
      GaeSample.paddedRow maxLen)
    (GaeSample.returns gamma lambd) (by
      intro sample _
      refine ⟨?_, sample.length_returns gamma lambd⟩
      rw [Function.comp_apply, sample.rowAdvantages_padded, GaeSample.paddedRow,
        List.zipWith_append (by rw [sample.length_advantages, sample.valuesLength])]
      exact List.take_left' (sample.length_returns gamma lambd))
  dsimp only
  rw [filledEq, ok_bind, scanned, ok_bind, advantages, ok_bind, returns, ok_bind, pure_eq_ok]

end Run

end Vime.Backends.MegatronUtils
