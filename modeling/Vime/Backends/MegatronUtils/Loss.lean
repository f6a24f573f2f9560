import Mathlib.Algebra.Order.Field.Rat
import Vime.Backends.MegatronUtils.RankIndices
import Vime.Foundation.Tensor
import Vime.Utils.DpSchedule

/-! # Reducing and scaling the loss

`get_sum_of_sample_mean` of `vime/backends/megatron_utils/cp_utils.py` and `loss_function` of
`vime/backends/megatron_utils/loss.py`, over exact rationals.
-/

namespace Vime.Backends.MegatronUtils

open Vime.Foundation Vime.Utils

/-- `left * right` of two vectors; a single entry is broadcast. -/
def broadcastMul (left right : List Rat) : Except PyException (List Rat) :=
  if left.length = right.length then .ok (List.zipWith (· * ·) left right)
  else if left.length = 1 then .ok (right.map (left.headD 0 * ·))
  else if right.length = 1 then .ok (left.map (· * right.headD 0))
  else .error (.runtimeError
    s!"The size of tensor a ({left.length}) must match the size of tensor b ({right.length}) at non-singleton dimension 0")

def chunkedLossMask (cpSize cpRank totalLength responseLength : Nat) (lossMask : List Rat) :
    Except PyException (List Rat) := do
  let promptLength : Int := totalLength - responseLength
  let offsets ← getLogitsAndTokensOffsetWithCp cpSize cpRank totalLength responseLength
  let lossMask0 := slice lossMask (offsets.tokens.first.1 - promptLength)
    (offsets.tokens.first.2 - promptLength)
  let lossMask1 := slice lossMask (offsets.tokens.second.1 - promptLength)
    (offsets.tokens.second.2 - promptLength)
  pure (lossMask0 ++ lossMask1)

def sumOfSampleMean (lengths : List Nat) (lossMasks : List (List Rat)) (sampleDenoms : List Rat)
    (x : List Rat) : Except PyException Rat := do
  let pieces ← splitBySizes lengths x
  let means ← (pieces.zip (lossMasks.zip sampleDenoms)).mapM fun entry => do
    let product ← broadcastMul entry.1 entry.2.1
    pure (product.sum / max entry.2.2 1)
  pure means.sum

def sumOfToken (lengths : List Nat) (lossMasks : List (List Rat)) (x : List Rat) :
    Except PyException Rat := do
  let pieces ← splitBySizes lengths x
  let sums ← (pieces.zip lossMasks).mapM fun entry => do
    let product ← broadcastMul entry.1 entry.2
    pure product.sum
  pure sums.sum

structure LossBatch where
  totalLengths : List Nat
  responseLengths : List Nat
  lossMasks : List (List Rat)
  rolloutMaskSums : List Rat

def reducerMasks (cpSize cpRank : Nat) (batch : LossBatch) :
    Except PyException (List Nat × List (List Rat)) :=
  if cpSize = 1 then .ok (batch.responseLengths, batch.lossMasks)
  else do
    let chunkedLossMasks ←
      (batch.totalLengths.zip (batch.responseLengths.zip batch.lossMasks)).mapM fun entry =>
        chunkedLossMask cpSize cpRank entry.1 entry.2.1 entry.2.2
    pure (chunkedLossMasks.map List.length, chunkedLossMasks)

def getSumOfSampleMean (cpSize cpRank : Nat) (batch : LossBatch) (calculatePerTokenLoss : Bool) :
    Except PyException (List Rat → Except PyException Rat) := do
  let masks ← reducerMasks cpSize cpRank batch
  pure (if calculatePerTokenLoss then sumOfToken masks.1 masks.2
    else sumOfSampleMean masks.1 masks.2 batch.rolloutMaskSums)

/-- The scaled loss and the normalizer; `func` is the configured loss. -/
def lossFunction (config : TrainParallelConfig) (calculatePerTokenLoss : Bool) (cpRank : Nat)
    (batch : LossBatch) (numMicrobatches stepGlobalBatchSize : Nat)
    (func : (List Rat → Except PyException Rat) → Except PyException Rat) :
    Except PyException (Rat × Rat) := do
  let numTokens := (batch.lossMasks.map fun lossMask => max lossMask.sum 1).sum
  let reducer ← getSumOfSampleMean config.cpSize cpRank batch calculatePerTokenLoss
  let loss ← func reducer
  if calculatePerTokenLoss then pure (loss * config.cpSize, numTokens)
  else
    pure (loss * numMicrobatches / stepGlobalBatchSize * (config.dpSize * config.cpSize : Nat), 1)

/-! ## The masks of a rank -/

section Masks

variable {cpSize cpRank totalLength responseLength : Nat}

theorem slice_tokens_eq (chunk : Int × Int) (lossMask : List Rat) :
    slice lossMask
        ((chunkLogitsAndTokens chunk totalLength (totalLength - responseLength)).2.1 -
          ((totalLength : Int) - responseLength))
        ((chunkLogitsAndTokens chunk totalLength (totalLength - responseLength)).2.2 -
          ((totalLength : Int) - responseLength)) =
      slice lossMask
        ((chunkLogits chunk totalLength responseLength).1 -
          ((totalLength : Int) - responseLength - 1))
        ((chunkLogits chunk totalLength responseLength).2 -
          ((totalLength : Int) - responseLength - 1)) := by
  rw [chunkLogits, chunkLogitsAndTokens]
  split
  · dsimp only
    congr 1 <;> omega
  · rw [slice_self, slice_self]

theorem chunkedLossMask_eq (parallel : 1 < cpSize) {lossMask : List Rat}
    (sized : lossMask.length = responseLength) :
    chunkedLossMask cpSize cpRank totalLength responseLength lossMask =
      sliceLogProbWithCp cpSize cpRank lossMask totalLength responseLength := by
  rw [chunkedLossMask, getLogitsAndTokensOffsetWithCp_eq parallel, ok_bind, sliceLogProbWithCp,
    raiseIf, if_neg (by simpa using sized), ok_bind, if_neg (by omega),
    getLogitsAndTokensOffsetWithCp_eq parallel, ok_bind]
  dsimp only [rankOffsets, rankLogits]
  rw [slice_tokens_eq, slice_tokens_eq]

end Masks

/-! ## The reducer -/

/-- A sample as one rank reads it: the values and the mask of the response entries `indices`. -/
structure HeldSample where
  indices : List Nat
  x : Nat → Rat
  lossMask : Nat → Rat
  denom : Rat

namespace HeldSample

def values (sample : HeldSample) : List Rat := sample.indices.map sample.x

def masks (sample : HeldSample) : List Rat := sample.indices.map sample.lossMask

def mean (sample : HeldSample) : Rat :=
  (sample.indices.map fun index => sample.x index * sample.lossMask index).sum /
    max sample.denom 1

end HeldSample

theorem sumOfSampleMean_eq (samples : List HeldSample) :
    sumOfSampleMean (samples.map fun sample => sample.masks.length)
        (samples.map HeldSample.masks) (samples.map HeldSample.denom)
        (samples.map HeldSample.values).flatten =
      .ok (samples.map HeldSample.mean).sum := by
  have sizes : (samples.map fun sample => sample.masks.length) =
      (samples.map HeldSample.values).map List.length := by
    rw [List.map_map]
    apply List.map_congr_left
    intro sample _
    rw [HeldSample.masks, List.length_map, Function.comp_apply, HeldSample.values,
      List.length_map]
  rw [sumOfSampleMean, sizes, splitBySizes_flatten, ok_bind, List.zip_map', List.zip_map',
    mapM_map_eq_ok _ _ HeldSample.mean]
  · rw [ok_bind, pure_eq_ok]
  · intro sample _
    dsimp only
    rw [broadcastMul, if_pos, ok_bind, pure_eq_ok, HeldSample.values, HeldSample.masks,
      List.zipWith_map, List.zipWith_self, HeldSample.mean]
    rw [HeldSample.values, HeldSample.masks, List.length_map, List.length_map]

end Vime.Backends.MegatronUtils
