import Vime.Utils.ScoreCentering

/-! # Appending response tokens to a sample

`Sample.append_response_tokens` of `vime/utils/types.py` with the helpers it
calls. The method changes the sample field by field and may raise between two
changes, so a failing step carries the sample it leaves behind.
-/

namespace Vime.Utils.Types

open Vime.Foundation Vime.Utils Vime.Utils.ScoreCentering

variable {F : Type}

/-! ## Data -/

/-- The position of `rollout_top_p` relative to `1.0`. -/
inductive RolloutTopP where
  | belowOne
  | one
  | aboveOne
  deriving DecidableEq, Repr

/-- The arguments that appending reads; a missing argument has its default. -/
structure Args where
  useScoreCentering : Bool := false
  rolloutTopP : RolloutTopP := .one
  scoreCenteringTopK : Int
  vllmSpeculativeConfig : Bool := false
  numLayers : Nat
  moeRouterTopk : Nat

def recordsTopK (args : Option Args) : Bool :=
  args.any fun args => args.useScoreCentering && decide (args.rolloutTopP = .one)

def recordsTopP (args : Option Args) : Bool :=
  args.any fun args => args.useScoreCentering && decide (args.rolloutTopP = .belowOne)

/-- An `int32` array of the metadata: absent, decoded, or a text or buffer whose decoding
raises `ValueError`. -/
abbrev MetaArray := Except String (Option (List Int32))

structure ReplyCounters where
  spec : SpecInfo := {}
  prefixCache : PrefixCacheInfo := {}

structure MetaInfo (F : Type) where
  topPTokenIds : MetaArray := .ok none
  topPTokenOffsets : MetaArray := .ok none
  routedExperts : MetaArray := .ok none
  routedExpertsStartLen : Int := 0
  scoreCenteringTopk : SamplerTopk F := none
  scoreCenteringTopP : Option (SamplerTopP F) := none
  finishReason : Option String := none
  weightVersions : Option (List String) := none
  weightVersion : Option String := none
  counters : ReplyCounters := {}

def MetaInfo.withoutTopP (info : MetaInfo F) : MetaInfo F :=
  { info with topPTokenIds := .ok none, topPTokenOffsets := .ok none }

/-- One call of `append_response_tokens`. -/
structure AppendCall (F : Type) where
  tokens : List Int
  logProbs : Option (List F) := none
  trainable : Bool := true
  metaInfo : Option (MetaInfo F) := none
  text : Option String := none
  updateTerminalInfo : Bool := true

/-- The fields of a sample that appending reads or writes. -/
structure Sample (F : Type) where
  tokens : List Int
  response : String := ""
  responseLength : Nat := 0
  lossMask : Option (List Int) := none
  weightVersions : List String := []
  rolloutLogProbs : Option (List F) := none
  rolloutTopkTokenIds : Option (HeadArray Int32) := none
  rolloutTopkLogProbs : Option (HeadArray F) := none
  rolloutTopPTokenIds : Option (List Int32) := none
  rolloutTopPTokenOffsets : Option (List Int32) := none
  rolloutTopPLogProbs : Option (List F) := none
  rolloutRoutedExperts : Option (List (List Int32)) := none
  status : Status := .pending
  specInfo : SpecInfo := {}
  prefixCacheInfo : PrefixCacheInfo := {}

structure Rejection (F : Type) where
  exception : PyException
  sample : Sample F

def attempt (sample : Sample F) {α : Type} (step : Except PyException α) :
    Except (Rejection F) α :=
  step.mapError fun exception => ⟨exception, sample⟩

def Sample.rejected (sample : Sample F) {α : Type} (message : String) : Except (Rejection F) α :=
  .error ⟨.valueError message, sample⟩

/-! ## Top-p replay -/

def decodeMetaArray (array : MetaArray) : Except PyException (Option (List Int32)) :=
  array.mapError .valueError

def checkedTopPTokenData (tokenIds offsets : List Int32) (expectedNumTokens : Nat) :
    Except PyException (List Int32 × List Int32) := do
  raiseIf (offsets.head? ≠ some 0)
    (.valueError s!"VLLM top-p token offsets must start with 0, got {offsets.take 1}.")
  let last ← lastItem offsets
  raiseIf (last.toInt ≠ tokenIds.length)
    (.valueError
      s!"VLLM top-p token ids/offsets mismatch: offsets[-1]={last}, len(token_ids)={tokenIds.length}.")
  raiseIf (offsets.length ≠ expectedNumTokens + 1)
    (.valueError
      s!"VLLM top-p token offsets length must equal generated token count + 1: len(offsets)={offsets.length}, generated={expectedNumTokens}.")
  pure (tokenIds, offsets)

def pairTopPTokenData (tokenIds offsets : Option (List Int32)) (expectedNumTokens : Nat) :
    Except PyException (Option (List Int32 × List Int32)) :=
  match tokenIds, offsets with
  | none, none => .ok none
  | some tokenIds, some offsets =>
      (checkedTopPTokenData tokenIds offsets expectedNumTokens).map some
  | _, _ => .error (.valueError
      "VLLM top-p token replay must include both token ids and offsets.")

def extractRolloutTopPTokenData (info : MetaInfo F) (expectedNumTokens : Nat) :
    Except PyException (Option (List Int32 × List Int32)) := do
  let tokenIds ← decodeMetaArray info.topPTokenIds
  let offsets ← decodeMetaArray info.topPTokenOffsets
  pairTopPTokenData tokenIds offsets expectedNumTokens

def mergeRolloutTopPTokenData (baseTokenIds baseOffsets : Option (List Int32))
    (tokenIds offsets : List Int32) : Except PyException (List Int32 × List Int32) := do
  let baseOffset ← lastItem (baseOffsets.getD [0])
  pure (baseTokenIds.getD [] ++ tokenIds,
    baseOffsets.getD [0] ++ (offsets.drop 1).map (· + baseOffset))

def padRolloutTopPOffsets (tokenIds offsets : Option (List Int32)) (numTokens : Nat) :
    Except PyException (List Int32 × List Int32) :=
  match tokenIds, offsets with
  | some tokenIds, some offsets =>
      match offsets.getLast? with
      | none => .error (.valueError "Cannot append empty top-p spans to empty offsets.")
      | some last => .ok (tokenIds, offsets ++ List.replicate numTokens last)
  | _, _ => .error (.valueError
      "Cannot append empty top-p spans without existing token ids and offsets.")

/-! ## Log probabilities of the call -/

/-- The log probabilities that are appended; masked tokens get `0.0`. -/
def checkedLogProbs [LogProbValue F] (call : AppendCall F) :
    Except PyException (Option (List F)) := do
  raiseIf (∃ logProbs ∈ call.logProbs, logProbs.length ≠ call.tokens.length)
    (.valueError
      s!"log_probs length {(call.logProbs.getD []).length} != tokens length {call.tokens.length}")
  raiseIf (call.tokens ≠ [] ∧ call.trainable = true ∧ call.logProbs.isNone = true)
    (.valueError "trainable response tokens require rollout log probabilities.")
  raiseIf (call.tokens ≠ [] ∧ call.trainable = false ∧ call.logProbs.isSome = true)
    (.valueError "non-trainable response tokens should not pass rollout log probabilities.")
  pure (if call.tokens ≠ [] ∧ call.trainable = false then
    some (List.replicate call.tokens.length LogProbValue.zero) else call.logProbs)

namespace Sample

/-- `any(self.loss_mask or [1] * self.response_length)`. -/
def hasTrainable (sample : Sample F) : Bool :=
  match sample.lossMask with
  | none | some [] => decide (sample.responseLength ≠ 0)
  | some mask => mask.any fun entry => decide (entry ≠ 0)

/-! ## Top-k score centering -/

def dummyTokenIds (k : Int) (count : Nat) : Except PyException (HeadArray Int32) :=
  if k < 0 then
    .error (.valueError "all elements of broadcast shape must be non-negative")
  else
    .ok (HeadArray.full count ((List.range k.toNat).map Int32.ofNat))

def dummyLogProbs [LogProbValue F] (k : Int) (count : Nat) :
    Except PyException (HeadArray F) :=
  if k ≤ 0 then
    .error (.valueError "math domain error")
  else
    .ok (HeadArray.full count (List.replicate k.toNat (LogProbValue.uniform k.toNat)))

def samplerHeads [SamplerValue F] (k : Int) (call : AppendCall F) :
    Except PyException (HeadArray Int32 × HeadArray F) :=
  if call.trainable then
    extractSamplerTopk (call.metaInfo.bind MetaInfo.scoreCenteringTopk) call.tokens.length k
  else do
    let ids ← dummyTokenIds k call.tokens.length
    let logps ← dummyLogProbs k call.tokens.length
    pure (ids, logps)

def startTopK [LogProbValue F] (k : Int) (sample : Sample F) :
    Except (Rejection F) (Sample F) :=
  match sample.rolloutTopkTokenIds with
  | some _ => .ok sample
  | none =>
      if sample.responseLength ≠ 0 ∧ sample.hasTrainable then
        sample.rejected "Existing trainable response tokens have no sampler top-k data."
      else do
        let ids ← attempt sample (dummyTokenIds k sample.responseLength)
        let withIds := { sample with rolloutTopkTokenIds := some ids }
        let logps ← attempt withIds (dummyLogProbs k sample.responseLength)
        .ok { withIds with rolloutTopkLogProbs := some logps }

def appendHeads {α : Type} (previous : Nat) (base : Option (HeadArray α))
    (added : HeadArray α) : Except PyException (HeadArray α) :=
  if previous = 0 then .ok added else HeadArray.concatenate base added

def extendTopK (heads : HeadArray Int32 × HeadArray F) (sample : Sample F) :
    Except (Rejection F) (Sample F) := do
  let ids ← attempt sample
    (appendHeads sample.responseLength sample.rolloutTopkTokenIds heads.1)
  let withIds := { sample with rolloutTopkTokenIds := some ids }
  let logps ← attempt withIds
    (appendHeads sample.responseLength sample.rolloutTopkLogProbs heads.2)
  .ok { withIds with rolloutTopkLogProbs := some logps }

def recordTopK [SamplerValue F] (k : Int) (call : AppendCall F) (sample : Sample F) :
    Except (Rejection F) (Sample F) := do
  let heads ← attempt sample (samplerHeads k call)
  let started ← sample.startTopK k
  started.extendTopK heads

/-- The block of the method for `rollout_top_p == 1.0`. -/
def centerTopK [SamplerValue F] (args : Option Args) (call : AppendCall F)
    (sample : Sample F) : Except (Rejection F) (Sample F) :=
  match args with
  | none => .ok sample
  | some given =>
      if call.tokens ≠ [] ∧ recordsTopK args = true then
        sample.recordTopK given.scoreCenteringTopK call
      else
        .ok sample

/-! ## Top-p score centering -/

def startTopP (sample : Sample F) : Except (Rejection F) (Sample F) :=
  match sample.rolloutTopPTokenIds with
  | some _ => .ok sample
  | none =>
      if sample.responseLength ≠ 0 ∧ sample.hasTrainable then
        sample.rejected "Existing trainable response tokens have no sampler top-p data."
      else
        .ok { sample with
          rolloutTopPTokenIds := some []
          rolloutTopPTokenOffsets := some (List.replicate (sample.responseLength + 1) 0)
          rolloutTopPLogProbs := some [] }

def samplerTopP [SamplerValue F] (call : AppendCall F) (logProbs : Option (List F)) :
    Except PyException (SamplerTopP F) := do
  let topP ← extractSamplerTopP (call.metaInfo.bind MetaInfo.scoreCenteringTopP)
    call.tokens.length
  topP.validate call.tokens.length (some ⟨call.tokens, logProbs.getD []⟩)
  pure topP

def concatenateLogProbs (previous : Option (List F)) (added : List F) :
    Except PyException (List F) :=
  match previous with
  | none => .error (.valueError "zero-dimensional arrays cannot be concatenated")
  | some previous => .ok (previous ++ added)

def extendTopP (topP : SamplerTopP F) (sample : Sample F) :
    Except (Rejection F) (Sample F) := do
  let merged ← attempt sample (mergeRolloutTopPTokenData sample.rolloutTopPTokenIds
    sample.rolloutTopPTokenOffsets (topP.ids.getD []) (topP.offsets.getD []))
  let withSpans := { sample with
    rolloutTopPTokenIds := some merged.1
    rolloutTopPTokenOffsets := some merged.2 }
  let logps ← attempt withSpans
    (concatenateLogProbs withSpans.rolloutTopPLogProbs (topP.logps.getD []))
  .ok { withSpans with rolloutTopPLogProbs := some logps }

/-- Start the distributions and add those of the appended tokens; masked tokens add
theirs with the rest of the metadata. -/
def recordTopP [SamplerValue F] (call : AppendCall F) (logProbs : Option (List F))
    (sample : Sample F) : Except (Rejection F) (Sample F) := do
  let started ← sample.startTopP
  if call.trainable then do
    let topP ← attempt started (samplerTopP call logProbs)
    started.extendTopP topP
  else
    .ok started

/-- The block of the method for `rollout_top_p < 1`. -/
def centerTopP [SamplerValue F] (args : Option Args) (call : AppendCall F)
    (logProbs : Option (List F)) (sample : Sample F) : Except (Rejection F) (Sample F) :=
  if call.tokens ≠ [] ∧ recordsTopP args = true then
    sample.recordTopP call logProbs
  else
    .ok sample

def remainingMetaInfo (args : Option Args) (call : AppendCall F) : Option (MetaInfo F) :=
  if call.tokens ≠ [] ∧ recordsTopP args = true ∧ call.trainable = true then
    call.metaInfo.map MetaInfo.withoutTopP |>.or (some {})
  else
    call.metaInfo

/-! ## Tokens, text and log probabilities -/

def addTokens (call : AppendCall F) (sample : Sample F) : Sample F :=
  if call.tokens = [] then
    { sample with response := sample.response ++ call.text.getD "" }
  else
    { sample with
      response := sample.response ++ call.text.getD ""
      tokens := sample.tokens ++ call.tokens
      responseLength := sample.responseLength + call.tokens.length
      lossMask := some (sample.lossMask.getD (List.replicate sample.responseLength 1) ++
        List.replicate call.tokens.length (if call.trainable then 1 else 0)) }

/-- `previous` is the response length before the call. -/
def addLogProbs [LogProbValue F] (trainable : Bool) (previous : Nat)
    (logProbs : Option (List F)) (sample : Sample F) : Except (Rejection F) (Sample F) :=
  match logProbs, sample.rolloutLogProbs with
  | none, _ => .ok sample
  | some added, some held => .ok { sample with rolloutLogProbs := some (held ++ added) }
  | some added, none =>
      if trainable = true ∧ previous ≠ 0 then
        sample.rejected
          "Cannot append trainable rollout log probabilities to a sample with existing response tokens but no existing rollout_log_probs."
      else
        .ok { sample with
          rolloutLogProbs := some (List.replicate previous LogProbValue.zero ++ added) }

/-! ## Metadata of a reply -/

def addTopP (data : Option (List Int32 × List Int32)) (newTokenCount : Nat)
    (padMissingTopP : Bool) (sample : Sample F) :
    Except PyException (Option (List Int32) × Option (List Int32)) :=
  match data with
  | some (tokenIds, offsets) =>
      if sample.rolloutTopPTokenIds.isNone ∧ sample.rolloutTopPTokenOffsets.isNone then
        .ok (some tokenIds, some offsets)
      else
        (mergeRolloutTopPTokenData sample.rolloutTopPTokenIds sample.rolloutTopPTokenOffsets
          tokenIds offsets).map fun merged => (some merged.1, some merged.2)
  | none =>
      if padMissingTopP = true ∧ newTokenCount ≠ 0 ∧ sample.rolloutTopPTokenOffsets.isSome then
        (padRolloutTopPOffsets sample.rolloutTopPTokenIds sample.rolloutTopPTokenOffsets
          newTokenCount).map fun padded => (some padded.1, some padded.2)
      else
        .ok (sample.rolloutTopPTokenIds, sample.rolloutTopPTokenOffsets)

/-- The top-p part of `_apply_meta_info`. -/
def applyTopP (info : MetaInfo F) (newTokenCount : Nat) (padMissingTopP : Bool)
    (sample : Sample F) : Except PyException (Option (List Int32) × Option (List Int32)) := do
  let data ← if newTokenCount = 0 then pure none
    else extractRolloutTopPTokenData info newTokenCount
  sample.addTopP data newTokenCount padMissingTopP

/-- `flat.reshape(rows, width)`. -/
def reshapeRows (flat : List Int32) (rows width : Nat) : List (List Int32) :=
  (List.range rows).map fun row => (flat.drop (row * width)).take width

/-- The rows held after a chunk that starts at row `startLen`. -/
def mergeRoutedExperts (existing : List (List Int32)) (startLen : Nat)
    (routedExperts : List (List Int32)) : Except PyException (List (List Int32)) := do
  raiseIf (startLen ≠ 0 ∧ existing.length = 0)
    (.valueError
      s!"Cannot append partial routed experts without existing routed experts (routed_experts_start_len={startLen}).")
  raiseIf (existing.length < startLen)
    (.valueError
      s!"Existing routed experts shorter than routed_experts_start_len: existing_rows={existing.length}, routed_experts_start_len={startLen}.")
  pure (existing.take startLen ++ routedExperts)

def placeRoutedExperts (args : Args) (flat : List Int32) (startLen : Int)
    (tokenCount : Nat) (existing : List (List Int32)) :
    Except PyException (List (List Int32)) := do
  raiseIf (startLen < 0)
    (.valueError s!"VLLM routed_experts_start_len must be non-negative, got {startLen}.")
  let expectedRows := tokenCount - 1 - startLen.toNat
  let expectedNumel := expectedRows * args.numLayers * args.moeRouterTopk
  raiseIf (flat.length ≠ expectedNumel)
    (.valueError
      s!"VLLM routed_experts element count does not match sample tokens: got={flat.length}, expected={expectedNumel} (tokens={tokenCount}, routed_experts_start_len={startLen}, num_layers={args.numLayers}, moe_router_topk={args.moeRouterTopk}).")
  mergeRoutedExperts existing startLen.toNat
    (reshapeRows flat expectedRows (args.numLayers * args.moeRouterTopk))

def requiredArgs (args : Option Args) : Except PyException Args :=
  match args with
  | some args => .ok args
  | none => .error (.valueError "args is required to decode routed experts metadata.")

/-- The routed-experts part of `_apply_meta_info`. -/
def applyRoutedExperts (args : Option Args) (info : MetaInfo F) (tokenCount : Nat)
    (existing : Option (List (List Int32))) :
    Except PyException (Option (List (List Int32))) := do
  match ← decodeMetaArray info.routedExperts with
  | none => pure existing
  | some flat =>
      let given ← requiredArgs args
      let placed ← placeRoutedExperts given flat info.routedExpertsStartLen tokenCount
        (existing.getD [])
      pure (some placed)

def finishStatus (finishReason : String) : Option Status :=
  if finishReason = "length" then some .truncated
  else if finishReason = "abort" then some .aborted
  else if finishReason = "stop" then some .completed
  else none

def MetaInfo.versions (info : MetaInfo F) : List String :=
  info.weightVersions.getD info.weightVersion.toList

def applyTerminalInfo (args : Option Args) (info : MetaInfo F) (newTokenCount : Nat)
    (updateTerminalInfo : Bool) (sample : Sample F) : Sample F :=
  match info.finishReason with
  | none => sample
  | some finishReason =>
      if updateTerminalInfo then
        { sample with
          specInfo :=
            if args.any Args.vllmSpeculativeConfig then
              sample.specInfo.plus info.counters.spec
            else sample.specInfo
          prefixCacheInfo := sample.prefixCacheInfo.plus info.counters.prefixCache
          weightVersions :=
            if newTokenCount > 0 then sample.weightVersions ++ MetaInfo.versions info
            else sample.weightVersions
          status := (finishStatus finishReason).getD sample.status }
      else sample

def applyMetaInfo (args : Option Args) (info : MetaInfo F) (newTokenCount : Nat)
    (padMissingTopP updateTerminalInfo : Bool) (sample : Sample F) :
    Except (Rejection F) (Sample F) := do
  let topP ← attempt sample (sample.applyTopP info newTokenCount padMissingTopP)
  let withTopP := { sample with
    rolloutTopPTokenIds := topP.1
    rolloutTopPTokenOffsets := topP.2 }
  let experts ← attempt withTopP
    (applyRoutedExperts args info withTopP.tokens.length withTopP.rolloutRoutedExperts)
  .ok ({ withTopP with rolloutRoutedExperts := experts }.applyTerminalInfo args info
    newTokenCount updateTerminalInfo)

def applyCallMetaInfo (args : Option Args) (call : AppendCall F) (sample : Sample F) :
    Except (Rejection F) (Sample F) :=
  let shouldPadTopP := decide (call.tokens ≠ []) && !call.trainable
  let info := remainingMetaInfo args call
  if info.isSome ∨ shouldPadTopP = true then
    sample.applyMetaInfo args (info.getD {}) call.tokens.length shouldPadTopP
      call.updateTerminalInfo
  else
    .ok sample

/-! ## Alignment -/

def validateTopP (tokenIds offsets : Option (List Int32)) (logProbs : Option (List F))
    (responseLength : Nat) : Except PyException Unit :=
  match tokenIds, offsets with
  | none, none => .ok ()
  | some tokenIds, some offsets => do
      raiseIf (offsets.length ≠ responseLength + 1)
        (.valueError
          s!"rollout_top_p_token_offsets length must equal response_length + 1: len(offsets)={offsets.length}, response_length={responseLength}.")
      raiseIf (∃ held ∈ logProbs, held.length ≠ tokenIds.length)
        (.valueError "Top-p logprobs must align with the replay token ids.")
      let last ← lastItem offsets
      raiseIf (last.toInt ≠ tokenIds.length)
        (.valueError
          s!"rollout top-p token ids/offsets mismatch: offsets[-1]={last}, len(token_ids)={tokenIds.length}.")
  | _, _ => .error (.valueError "rollout top-p replay must include both token ids and offsets.")

def validateLength (key : String) (length : Option Nat) (responseLength : Nat) :
    Except PyException Unit :=
  raiseIf (∃ held ∈ length, held ≠ responseLength)
    (.valueError s!"{key} length {length.getD 0} != response_length {responseLength}")

def validateResponseMetadataLengths (sample : Sample F) : Except PyException Unit := do
  validateLength "rollout_topk_token_ids" (sample.rolloutTopkTokenIds.map (·.rows.length))
    sample.responseLength
  validateLength "rollout_topk_log_probs" (sample.rolloutTopkLogProbs.map (·.rows.length))
    sample.responseLength
  validateLength "loss_mask" (sample.lossMask.map List.length) sample.responseLength
  validateLength "rollout_log_probs" (sample.rolloutLogProbs.map List.length)
    sample.responseLength
  validateTopP sample.rolloutTopPTokenIds sample.rolloutTopPTokenOffsets
    sample.rolloutTopPLogProbs sample.responseLength

/-! ## The method -/

def finishAppend [LogProbValue F] (args : Option Args) (call : AppendCall F) (previous : Nat)
    (logProbs : Option (List F)) (sample : Sample F) : Except (Rejection F) (Sample F) := do
  let withLogProbs ← (sample.addTokens call).addLogProbs call.trainable previous logProbs
  let applied ← withLogProbs.applyCallMetaInfo args call
  attempt applied applied.validateResponseMetadataLengths
  pure applied

def appendResponseTokens [SamplerValue F] (args : Option Args) (call : AppendCall F)
    (sample : Sample F) : Except (Rejection F) (Sample F) := do
  let logProbs ← attempt sample (checkedLogProbs call)
  let withTopK ← sample.centerTopK args call
  let withTopP ← withTopK.centerTopP args call logProbs
  withTopP.finishAppend args call sample.responseLength logProbs

def appendAll [SamplerValue F] (args : Option Args) :
    List (AppendCall F) → Sample F → Except (Rejection F) (Sample F)
  | [], sample => .ok sample
  | call :: rest, sample => do
      let appended ← sample.appendResponseTokens args call
      appendAll args rest appended

end Sample

end Vime.Utils.Types
