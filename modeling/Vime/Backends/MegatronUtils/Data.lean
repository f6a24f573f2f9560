import Vime.Backends.MegatronUtils.CpUtils
import Vime.Foundation.Tensor

/-! # Packed micro-batches

`get_batch` of `vime/backends/megatron_utils/data.py`: the token stream of a rank and the loss
masks aligned to it, with zigzag context parallelism or with one chunk of the whole stream.
-/

namespace Vime.Backends.MegatronUtils

open Vime.Foundation

/-- A sample of a micro-batch. Its replay lists one nucleus after the other: the ids of
response token `r` stand from offset `r` up to offset `r + 1`. -/
structure PackedSample where
  tokens : List Int
  responseLength : Nat
  lossMask : List Nat
  topPTokenIds : List Int
  topPTokenOffsets : List Nat
  inSequence : responseLength < tokens.length
  maskLength : lossMask.length = responseLength
  offsetsLength : topPTokenOffsets.length = responseLength + 1
  offsetsOrdered : ∀ index < responseLength,
    topPTokenOffsets.getD index 0 ≤ topPTokenOffsets.getD (index + 1) 0
  offsetsEnd : topPTokenOffsets.getD responseLength 0 = topPTokenIds.length

namespace PackedSample

def totalLength (sample : PackedSample) : Nat := sample.tokens.length

def promptLength (sample : PackedSample) : Int := sample.totalLength - sample.responseLength

def firstLogit (sample : PackedSample) : Nat := sample.totalLength - sample.responseLength - 1

def alignedMask (sample : PackedSample) : List Nat :=
  fPad sample.lossMask (sample.promptLength - 1) 1 0

end PackedSample

/-- The parallel layout of the trainer. -/
structure StreamLayout where
  cpSize : Nat
  tpSize : Nat
  padMultiplier : Nat
  allgatherCp : Bool
  deriving DecidableEq, Repr

namespace StreamLayout

def padUnit (layout : StreamLayout) : Nat :=
  let padSize := layout.tpSize * layout.padMultiplier
  if layout.allgatherCp then layout.cpSize * padSize else padSize

def joined (layout : StreamLayout) (cpRank : Nat) (lists : List (List α)) (padValue : α) :
    List α :=
  if layout.allgatherCp then lists.flatten
  else (lists.map fun list => sliceWithCp layout.cpSize cpRank list padValue).flatten

/-- The stream of a rank: whole lists are cut into one chunk for each rank after they are
joined, zigzag slices before. -/
def localStream (layout : StreamLayout) (cpRank pad : Nat) (lists : List (List α))
    (padValue : α) : Except PyException (List α) :=
  let padded := layout.joined cpRank lists padValue ++ List.replicate pad padValue
  if layout.allgatherCp then chunkAt padded layout.cpSize cpRank else .ok padded

end StreamLayout

theorem padUnit_ne_zero {layout : StreamLayout} (ranked : 0 < layout.cpSize)
    (padded : 0 < layout.tpSize * layout.padMultiplier) : layout.padUnit ≠ 0 := by
  rw [StreamLayout.padUnit]
  split
  · exact Nat.ne_of_gt (Nat.mul_pos ranked padded)
  · exact Nat.ne_of_gt padded

structure PackedBatch where
  tokens : List Int
  fullLossMasks : List Nat
  deriving DecidableEq, Repr

def getBatch (layout : StreamLayout) (cpRank : Nat) (samples : List PackedSample) :
    Except PyException PackedBatch := do
  let unconcatTokens := samples.map PackedSample.tokens
  raiseIf (samples.isEmpty = true)
    (.runtimeError "torch.cat(): expected a non-empty list of Tensors")
  raiseIf (layout.padUnit = 0) .zeroDivisionError
  let pad := padCount layout.padUnit (layout.joined cpRank unconcatTokens 0).length
  let tokens ← layout.localStream cpRank pad unconcatTokens 0
  let lossMasks ← layout.localStream cpRank pad (samples.map PackedSample.alignedMask) 0
  raiseIf (lossMasks.length ≠ tokens.length)
    (.assertionError s!"loss_masks.shape: {lossMasks.length}, tokens.shape: {tokens.length}")
  pure { tokens := tokens, fullLossMasks := lossMasks }

end Vime.Backends.MegatronUtils
