import Vime.Utils.SamplerSupports

/-! # Sampler distributions of generated tokens

The metadata readers of `vime/utils/score_centering.py`: the top-k head of every
generated token and the complete top-p distribution of every generated token.
Integer arrays are `int32`, as the response decoder builds them.
-/

namespace Vime.Utils

open Vime.Foundation

namespace ScoreCentering

variable {F : Type}

/-- A two-dimensional array of shape `(rows.length, width)`. -/
structure HeadArray (α : Type) where
  width : Nat
  rows : List (List α)
  sized : ∀ row ∈ rows, row.length = width

namespace HeadArray

variable {α : Type}

def full (count : Nat) (row : List α) : HeadArray α where
  width := row.length
  rows := List.replicate count row
  sized := fun _ member => by rw [List.eq_of_mem_replicate member]

def concatenate (base : Option (HeadArray α)) (added : HeadArray α) :
    Except PyException (HeadArray α) :=
  match base with
  | none => .error (.valueError "zero-dimensional arrays cannot be concatenated")
  | some base =>
      if sameWidth : base.width = added.width then
        .ok
          { width := added.width
            rows := base.rows ++ added.rows
            sized := fun row member => by
              rcases List.mem_append.mp member with held | new
              · rw [base.sized row held, sameWidth]
              · exact added.sized row new }
      else
        .error (.valueError
          "all the input array dimensions except for the concatenation axis must match exactly")

end HeadArray

/-! ## Top-k heads -/

def validateHeadArrays [SamplerValue F] (chunkIds : List (List Int32))
    (chunkLogps : List (List F)) : Except PyException Unit := do
  raiseIf (∃ row ∈ chunkIds, (∃ id ∈ row, id < 0 ∨ id > Int32.maxValue) ∨ ¬ row.Nodup)
    (.valueError "Sampler top-k token ids must be distinct and nonnegative int32 integers.")
  raiseIf (∃ row ∈ chunkLogps, ∃ logp ∈ row, SamplerValue.finiteNonpositive logp = false)
    (.valueError "Sampler top-k logprobs must be finite nonpositive values.")

/-- The arrays `meta_info["score_centering_topk"]`, if the key is present. -/
abbrev SamplerTopk (F : Type) := Option (HeadArray Int32 × HeadArray F)

def checkedTopk [SamplerValue F] (ids : HeadArray Int32) (logps : HeadArray F) (count : Nat)
    (k : Int) : Except PyException (HeadArray Int32 × HeadArray F) := do
  raiseIf (ids.rows.length ≠ count ∨ (ids.width : Int) ≠ k ∨ logps.rows.length ≠ count ∨
      (logps.width : Int) ≠ k)
    (.valueError s!"Sampler top-k tensors must have shape {(count, k)}.")
  (pyRange 0 count 1024).forM fun start =>
    validateHeadArrays (slice ids.rows start (start + 1024))
      (slice logps.rows start (start + 1024))
  pure (ids, logps)

def extractSamplerTopk [SamplerValue F] (topk : SamplerTopk F) (count : Nat) (k : Int) :
    Except PyException (HeadArray Int32 × HeadArray F) :=
  match topk with
  | none => .error (.valueError
      "Score centering requires sampler top-k metadata for every generated token.")
  | some (ids, logps) => checkedTopk ids logps count k

/-! ## Top-p distributions -/

/-- The value of `meta_info["score_centering_top_p"]`. -/
structure SamplerTopP (F : Type) where
  ids : Option (List Int32)
  offsets : Option (List Int32)
  logps : Option (List F)

structure SampledTokens (F : Type) where
  tokens : List Int
  logps : List F

/-- An `int32` array of one dimension. -/
def intArray (values : List Int32) : SamplerSupports.IdArray :=
  .integers ⟨[values.length], values.map Int32.toInt, by simp⟩

def flatArray {α : Type} (values : List α) : SamplerSupports.NdArray α :=
  ⟨[values.length], values, by simp⟩

/-- `validate_sampler_top_p` for generated tokens, all of which are trainable. -/
def SamplerTopP.validate [SamplerValue F] (topP : SamplerTopP F) (count : Nat)
    (sampled : Option (SampledTokens F)) : Except PyException Unit :=
  SamplerSupports.validateSamplerTopP (topP.ids.map intArray) (topP.offsets.map intArray)
    (topP.logps.map flatArray) count none (sampled.map fun held => flatArray held.tokens)
    (sampled.map fun held => flatArray held.logps)

def extractSamplerTopP [SamplerValue F] (topP : Option (SamplerTopP F)) (count : Nat) :
    Except PyException (SamplerTopP F) :=
  match topP with
  | none => .error (.valueError
      "Top-p score centering requires complete sampler top-p ids, offsets, and logprobs.")
  | some topP => (topP.validate count none).map fun _ => topP

end ScoreCentering

end Vime.Utils
