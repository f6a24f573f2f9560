import Vime.Foundation.Python
import Vime.Foundation.Segments

/-! # Context-parallel slices

`vime/backends/megatron_utils/cp_utils.py`: every rank holds two zigzag chunks of
a sequence; per-token values of the response are sliced to them and gathered.
-/

namespace Vime.Backends.MegatronUtils

open Vime.Foundation

/-- The two ranges of a rank, each `(start, stop)`. -/
structure RangePair where
  first : Int × Int
  second : Int × Int
  deriving DecidableEq, Repr

structure CpOffsets where
  chunkSize : Nat
  chunks : RangePair
  logits : RangePair
  tokens : RangePair
  deriving DecidableEq, Repr

def cpChunkSize (cpSize totalLength : Nat) : Nat :=
  (totalLength + 2 * cpSize - 1) / (2 * cpSize)

def cpChunks (cpSize cpRank chunkSize : Nat) : RangePair where
  first := (cpRank * chunkSize, (cpRank + 1) * chunkSize)
  second := ((2 * cpSize - cpRank - 1) * chunkSize, (2 * cpSize - cpRank) * chunkSize)

/-- The logits and the tokens of one chunk. An empty range becomes `(0, 0)`, an
empty slice that continues the gradient flow. -/
def chunkLogitsAndTokens (chunk : Int × Int) (totalLength promptLength : Int) :
    (Int × Int) × (Int × Int) :=
  let logits := (max chunk.1 (promptLength - 1), min chunk.2 (totalLength - 1))
  if logits.1 < logits.2 then (logits, (logits.1 + 1, logits.2 + 1))
  else ((0, 0), (0, 0))

def getLogitsAndTokensOffsetWithCp (cpSize cpRank totalLength responseLength : Nat) :
    Except PyException CpOffsets := do
  raiseIf (¬ cpSize > 1) (.assertionError "")
  let promptLength : Int := totalLength - responseLength
  let chunkSize := cpChunkSize cpSize totalLength
  let chunks := cpChunks cpSize cpRank chunkSize
  let first := chunkLogitsAndTokens chunks.first totalLength promptLength
  let second := chunkLogitsAndTokens chunks.second totalLength promptLength
  pure
    { chunkSize := chunkSize
      chunks := chunks
      logits := ⟨first.1, second.1⟩
      tokens := ⟨first.2, second.2⟩ }

def sliceWithCp (cpSize cpRank : Nat) (tokens : List α) (padValue : α) : List α :=
  if cpSize = 1 then tokens
  else
    let chunkSize := cpChunkSize cpSize tokens.length
    let padded := tokens ++ List.replicate (2 * cpSize * chunkSize - tokens.length) padValue
    let chunks := cpChunks cpSize cpRank chunkSize
    slice padded chunks.first.1 chunks.first.2 ++ slice padded chunks.second.1 chunks.second.2

def sliceLogProbWithCp (cpSize cpRank : Nat) (logProb : List α)
    (totalLength responseLength : Nat) : Except PyException (List α) := do
  raiseIf (logProb.length ≠ responseLength)
    (.assertionError s!"log_prob length mismatch: len(log_prob)={logProb.length}, response_length={responseLength}, total_length={totalLength}")
  if cpSize = 1 then pure logProb
  else do
    let promptLength : Int := totalLength - responseLength
    let offsets ← getLogitsAndTokensOffsetWithCp cpSize cpRank totalLength responseLength
    let chunk1 := slice logProb (offsets.logits.first.1 - (promptLength - 1))
      (offsets.logits.first.2 - (promptLength - 1))
    let chunk2 := slice logProb (offsets.logits.second.1 - (promptLength - 1))
      (offsets.logits.second.2 - (promptLength - 1))
    pure (chunk1 ++ chunk2)

section Gather

variable {M : Type} [AddCommMonoid M]

/-- `torch.zeros` of the given length, which must not be negative. -/
def zeros (length : Int) : Except PyException (List M) :=
  if length < 0 then .error (.runtimeError "Trying to create tensor with negative dimension")
  else .ok (List.replicate length.toNat 0)

def placeChunks (logits0 logits1 : Int × Int) (totalLength responseLength : Nat)
    (chunk0 chunk1 : List M) : Except PyException (List M) :=
  let promptLength : Int := totalLength - responseLength
  if chunk0.length = 0 ∧ chunk1.length = 0 then zeros responseLength
  else if chunk0.length ≠ 0 ∧ chunk1.length = 0 then do
    let left ← zeros (logits0.1 - (promptLength - 1))
    let right ← zeros (totalLength - 1 - logits0.2)
    pure (left ++ chunk0 ++ right)
  else if chunk0.length = 0 ∧ chunk1.length ≠ 0 then do
    let left ← zeros (logits1.1 - (promptLength - 1))
    let right ← zeros (totalLength - 1 - logits1.2)
    pure (left ++ chunk1 ++ right)
  else do
    let left ← zeros (logits0.1 - (promptLength - 1))
    let mid ← zeros (logits1.1 - logits0.2)
    let right ← zeros (totalLength - 1 - logits1.2)
    pure (left ++ chunk0 ++ mid ++ chunk1 ++ right)

def fullTensorWithCp (cpSize cpRank : Nat) (tensor : List M)
    (totalLength responseLength : Nat) : Except PyException (List M) := do
  let offsets ← getLogitsAndTokensOffsetWithCp cpSize cpRank totalLength responseLength
  let logits0 := offsets.logits.first
  let logits1 := offsets.logits.second
  let chunk0 := sliceTo tensor (logits0.2 - logits0.1)
  let chunk1 := sliceFrom tensor (logits0.2 - logits0.1)
  raiseIf ((chunk1.length : Int) ≠ logits1.2 - logits1.1) (.assertionError "")
  let fullTensor ← placeChunks logits0 logits1 totalLength responseLength chunk0 chunk1
  raiseIf (fullTensor.length ≠ responseLength)
    (.assertionError s!"Expected {responseLength}, got {fullTensor.length}")
  pure fullTensor

/-- The tensor that every rank receives; `tensors` holds the argument of each rank. -/
def allGatherWithCp (cpSize : Nat) (tensors : Nat → List M)
    (totalLength responseLength : Nat) : Except PyException (List M) :=
  if cpSize = 1 then .ok (tensors 0)
  else do
    let fullTensors ← (List.range cpSize).mapM fun cpRank =>
      fullTensorWithCp cpSize cpRank (tensors cpRank) totalLength responseLength
    pure (elementwiseSum responseLength fullTensors)

end Gather

end Vime.Backends.MegatronUtils
