import Vime.Utils.Types
import Vime.Foundation.BulkArrays

/-! # Validation of sampler supports

`validate_sampler_top_p` of `vime/utils/score_centering.py` for arrays of any shape and any
dtype: rows of candidates are checked in blocks of bounded size through bulk operations.
-/

namespace Vime.Utils.SamplerSupports

open Vime.Foundation

variable {F : Type} [SamplerValue F]

/-! ## Arrays -/

/-- An array: its shape and its entries in row-major order. -/
structure NdArray (α : Type) where
  shape : List Nat
  entries : List α
  sized : entries.length = shape.prod

/-- An array of an integer dtype, or of another dtype, whose entries are not read. -/
inductive IdArray where
  | integers (array : NdArray Int)
  | others (shape : List Nat)

def IdArray.shape : IdArray → List Nat
  | .integers array => array.shape
  | .others shape => shape

def IdArray.integers? : IdArray → Option (List Int)
  | .integers array => some array.entries
  | .others _ => none

/-! ## Blocks -/

/-- The key of a candidate in `int64`: no two rows of a block share one. -/
def rowKey (row : Nat) (id : Int) : Int64 := Int64.ofNat row * 2 ^ 31 + Int64.ofInt id

def sortKeys (keys : List Int64) : List Int64 :=
  keys.mergeSort fun first second => decide (first ≤ second)

/-- Whether the sampled tokens of a block are not found once in every active row, with their log
probabilities. -/
def missesSampled (rowIds : List Nat) (chunkIds : List Int) (chunkLogps : List F)
    (active : List Bool) (tokens : List Int) (sampledLogps : List F) : Bool :=
  let selected := List.zipWith (fun id token => decide (some id = token)) chunkIds
    (gather tokens rowIds)
  let matchedRows := compress rowIds selected
  let close := List.zipWith (fun logp sampled => sampled.any fun held =>
    SamplerValue.isClose logp held) (compress chunkLogps selected) (gather sampledLogps matchedRows)
  !decide (matchedRows = flatnonzero active) || !close.all id

def validateCandidates (lengths : List Int) (chunkIds : List Int) (chunkLogps : List F)
    (mask : List Bool) (sampled : Option (List Int × List F)) : Except PyException Unit := do
  let rowIds := repeatArange lengths
  raiseIf ((∃ id ∈ chunkIds, id < 0) ∨ ∃ id ∈ chunkIds, id > Int32.maxValue.toInt)
    (.valueError "Sampler top-p token ids must be distinct and nonnegative int32 integers.")
  let keys := sortKeys (List.zipWith rowKey rowIds chunkIds)
  raiseIf (anyAdjacent (fun first second => first = second) keys = true)
    (.valueError "Sampler top-p token ids must be distinct and nonnegative int32 integers.")
  raiseIf (∃ logp ∈ chunkLogps, SamplerValue.finiteNonpositive logp = false)
    (.valueError "Sampler top-p logprobs must be finite nonpositive values.")
  let nonempty := lengths.map fun length => decide (length > 0)
  raiseIf ((List.zipWith (fun trainable held => trainable && !held) mask nonempty).any id = true)
    (.valueError "Missing top-p support for a trainable token.")
  let active := List.zipWith or nonempty mask
  raiseIf (∃ held ∈ sampled, missesSampled rowIds chunkIds chunkLogps active held.1 held.2 = true)
    (.valueError
      "Top-p sampler distribution must include the sampled token with its rollout logprob.")

def validateBlock (ids offsets : List Int) (logps : List F) (mask : List Bool)
    (sampled : Option (List Int × List F)) (first stop : Nat) : Except PyException Unit :=
  let start := offsets.getD first 0
  let finish := offsets.getD stop 0
  validateCandidates (diff (slice offsets first (stop + 1))) (slice ids start finish)
    (slice logps start finish) (slice mask first stop)
    (sampled.map fun held => (slice held.1 first stop, slice held.2 first stop))

def searchsortedRight (offsets : List Int) (value : Int) : Nat :=
  offsets.countP fun offset => decide (offset ≤ value)

/-- The end of the block from row `first`: at most 4096 rows and `2 ** 20` candidates, or one
row. -/
def blockStop (offsets : List Int) (count first : Nat) : Nat :=
  min count (min (first + 4096)
    (max (first + 1) (searchsortedRight offsets (offsets.getD first 0 + 2 ^ 20) - 1)))

theorem lt_blockStop (offsets : List Int) {count first : Nat} (more : first < count) :
    first < blockStop offsets count first := by
  rw [blockStop]
  omega

theorem blockStop_le (offsets : List Int) (count first : Nat) :
    blockStop offsets count first ≤ count := by
  rw [blockStop]
  omega

/-- The loop over the blocks from row `first`. -/
def validateBlocks (ids offsets : List Int) (logps : List F) (count : Nat) (mask : List Bool)
    (sampled : Option (List Int × List F)) (first : Nat) : Except PyException Unit :=
  if first < count then do
    validateBlock ids offsets logps mask sampled first (blockStop offsets count first)
    validateBlocks ids offsets logps count mask sampled (blockStop offsets count first)
  else
    .ok ()
  termination_by count - first
  decreasing_by
    rename_i more
    have progress := lt_blockStop offsets more
    omega

/-! ## The function -/

def badOffsets (offsets : List Int) (length : Nat) : Prop :=
  offsets.head? ≠ some 0 ∨ offsets.getLast? ≠ some (length : Int) ∨
    anyAdjacent (fun offset next => next < offset) offsets = true

instance (offsets : List Int) (length : Nat) : Decidable (badOffsets offsets length) :=
  inferInstanceAs (Decidable (_ ∨ _ ∨ _))

def integerArrays (ids offsets : IdArray) (logps : NdArray F) (count : Nat) :
    Except PyException (List Int × List Int) := do
  raiseIf (ids.shape.length ≠ 1 ∨ logps.shape ≠ ids.shape ∨ offsets.shape ≠ [count + 1])
    (.valueError "Invalid top-p score-centering ids/logprobs/offsets.")
  match ids.integers?, offsets.integers? with
  | some ids, some offsets => do
      raiseIf (badOffsets offsets ids.length)
        (.valueError "Invalid top-p score-centering ids/logprobs/offsets.")
      pure (ids, offsets)
  | _, _ => .error (.valueError "Invalid top-p score-centering ids/logprobs/offsets.")

def checkedMask (lossMask : Option (NdArray Bool)) (count : Nat) :
    Except PyException (List Bool) :=
  match lossMask with
  | none => .ok (List.replicate count true)
  | some mask => do
      raiseIf (mask.shape ≠ [count])
        (.valueError "Top-p loss mask must align with the response length.")
      pure mask.entries

/-- Without `sampledLogps` the array of log probabilities has no dimension. -/
def checkedSampled (tokens : Option (NdArray Int)) (sampledLogps : Option (NdArray F))
    (count : Nat) : Except PyException (Option (List Int × List F)) :=
  match tokens with
  | none => .ok none
  | some tokens => do
      raiseIf (tokens.shape ≠ [count] ∨ (sampledLogps.map NdArray.shape).getD [] ≠ [count])
        (.valueError "Top-p sampled tokens and logprobs must align with the response length.")
      pure (sampledLogps.map fun logps => (tokens.entries, logps.entries))

def validateSamplerTopP (ids offsets : Option IdArray) (logps : Option (NdArray F)) (count : Nat)
    (lossMask : Option (NdArray Bool)) (tokens : Option (NdArray Int))
    (sampledLogps : Option (NdArray F)) : Except PyException Unit :=
  match ids, offsets, logps with
  | some ids, some offsets, some logps => do
      let arrays ← integerArrays ids offsets logps count
      let mask ← checkedMask lossMask count
      let sampled ← checkedSampled tokens sampledLogps count
      validateBlocks arrays.1 arrays.2 logps.entries count mask sampled 0
  | _, _, _ => .error (.valueError
      "Top-p score centering requires complete sampler top-p ids, offsets, and logprobs.")

end Vime.Utils.SamplerSupports
