import Vime.Utils.UntouchedAppends

/-! # Replies of the inference server

The readers of a reply in `vime/rollout/vllm_rollout.py`, and what appending it adds to a
sample. The routed experts of a reply are left to the callers that ask for them.
-/

namespace Vime.Rollout

open Vime.Foundation Vime.Utils Vime.Utils.Types

variable {F : Type}

structure VersionSpan where
  version : String
  start : Int
  stop : Int
  deriving DecidableEq, Repr

structure Usage where
  promptTokens : Int
  completionTokens : Int
  cachedTokens : Int
  deriving DecidableEq, Repr

structure SpeculativeStats where
  acceptTokenNum : Int
  draftTokenNum : Int
  verifyCt : Int
  deriving DecidableEq, Repr

/-- A choice; `logprobs` is its content, each sampled token with its log probability. -/
structure Choice (F : Type) where
  tokenIds : Option (List Int) := none
  logprobs : Option (List (Int × F)) := none
  finishReason : Option String := none
  weightVersions : Option (List VersionSpan) := none
  samplingMask : Option (List (List Int32)) := none

/-- A reply of the server, or the JSON of one chunk of its stream. -/
structure VllmOutput (F : Type) where
  choices : List (Choice F)
  weightVersion : Option String := none
  usage : Option Usage := none
  speculativeDecoding : Option SpeculativeStats := none

namespace Choice

def tokens (choice : Choice F) : List Int := choice.tokenIds.getD []

def content (choice : Choice F) : List F := (choice.logprobs.getD []).map Prod.snd

end Choice

/-! ## Metadata -/

/-- An absent or empty finish reason counts as `"stop"`. -/
def finishType (finishReason : Option String) : String :=
  match finishReason with
  | some "length" => "length"
  | some "abort" => "abort"
  | some "cancelled" => "abort"
  | _ => "stop"

def reportedVersions (choice : Choice F) (weightVersion : Option String) : List String :=
  match choice.weightVersions with
  | some spans => (spans.filter fun span => decide (span.start < span.stop)).map VersionSpan.version
  | none => weightVersion.toList

def replyCounters (usage : Option Usage) (stats : Option SpeculativeStats) : ReplyCounters where
  spec :=
    { specAcceptTokenNum := (stats.map SpeculativeStats.acceptTokenNum).getD 0
      specDraftTokenNum := (stats.map SpeculativeStats.draftTokenNum).getD 0
      specVerifyCt := (stats.map SpeculativeStats.verifyCt).getD 0
      completionTokenNum := (usage.map Usage.completionTokens).getD 0 }
  prefixCache :=
    { cachedTokens := (usage.map Usage.cachedTokens).getD 0
      totalPromptTokens := (usage.map Usage.promptTokens).getD 0 }

def inferenceGenerateMetaInfo (choice : Choice F) (weightVersion : Option String)
    (usage : Option Usage) (stats : Option SpeculativeStats) : MetaInfo F where
  topPTokenIds := .ok (choice.samplingMask.map List.flatten)
  topPTokenOffsets := .ok (choice.samplingMask.map replayOffsets)
  finishReason := some (finishType choice.finishReason)
  weightVersions := some (reportedVersions choice weightVersion)
  counters := replyCounters usage stats

def inferenceGenerateTokensAndLogprobs (choice : Choice F) :
    Except PyException (List Int × List F) := do
  let tokenIds := choice.tokenIds.getD []
  let content := choice.logprobs.getD []
  raiseIf (tokenIds.length ≠ content.length) (.valueError
    s!"vLLM token/logprob count mismatch: {tokenIds.length} tokens, {content.length} logprobs")
  pure (tokenIds, content.map Prod.snd)

theorem tokensAndLogprobs_eq_ok {choice : Choice F} {generated : List Int × List F} :
    inferenceGenerateTokensAndLogprobs choice = .ok generated ↔
      choice.tokens.length = choice.content.length ∧
        generated = (choice.tokens, choice.content) := by
  rw [inferenceGenerateTokensAndLogprobs, check_bind_eq_ok, raiseIf_eq_ok, not_not,
    Choice.content, List.length_map]
  constructor
  · rintro ⟨sized, same⟩
    exact ⟨sized, (Except.ok.inj same).symm⟩
  · rintro ⟨sized, rfl⟩
    exact ⟨sized, rfl⟩

/-! ## Appending a reply -/

section Appends

variable [SamplerValue F] {args : Args} {call : AppendCall F} {sample next : Sample F}

theorem append_uncentered (uncentered : args.useScoreCentering = false)
    (trainable : call.trainable = true)
    (returned : sample.appendResponseTokens (some args) call = .ok next) :
    ∃ scored,
      (sample.addTokens call).addLogProbs true sample.responseLength call.logProbs =
        .ok scored ∧
      scored.applyMetaInfo (some args) (call.metaInfo.getD {}) call.tokens.length false
        call.updateTerminalInfo = .ok next ∧
      LengthsAligned next := by
  have noTopK : recordsTopK (some args) = false := by
    rw [recordsTopK, Option.any_some, uncentered, Bool.false_and]
  have noTopP : recordsTopP (some args) = false := by
    rw [recordsTopP, Option.any_some, uncentered, Bool.false_and]
  rw [Sample.appendResponseTokens] at returned
  rcases bind_eq_ok.mp returned with ⟨logProbs, checked, centered⟩
  rw [centerTopK_inactive (.inr noTopK), ok_bind, Sample.centerTopP,
    if_neg (by rw [noTopP]; simp), ok_bind, Sample.finishAppend] at centered
  have isLogProbs := (checkedLogProbs_shape (attempt_eq_ok.mp checked)).2.2 (.inl trainable)
  rw [isLogProbs, trainable] at centered
  rcases bind_eq_ok.mp centered with ⟨scored, added, applied⟩
  rcases bind_eq_ok.mp applied with ⟨final, isFinal, validated⟩
  rcases bind_eq_ok.mp validated with ⟨_, aligned, same⟩
  rw [Except.ok.inj same] at isFinal aligned
  rw [applyCallMetaInfo_eq, Sample.remainingMetaInfo, if_neg (by rw [noTopP]; simp), trainable,
    Bool.not_true, Bool.and_false] at isFinal
  exact ⟨scored, added, isFinal, validate_eq_ok.mp (attempt_eq_ok.mp aligned)⟩

omit [SamplerValue F] in
theorem applyMetaInfo_frame {args : Option Args} {info : MetaInfo F} {newTokenCount : Nat}
    {pad updateTerminalInfo : Bool}
    (applied : sample.applyMetaInfo args info newTokenCount pad updateTerminalInfo = .ok next) :
    next.tokens = sample.tokens ∧ next.responseLength = sample.responseLength ∧
      next.rolloutLogProbs = sample.rolloutLogProbs := by
  rcases applyMetaInfo_eq_ok.mp applied with ⟨ids, offsets, placed, _, _, rfl⟩
  rw [Sample.applyTerminalInfo]
  split
  · exact ⟨rfl, rfl, rfl⟩
  · split
    · exact ⟨rfl, rfl, rfl⟩
    · exact ⟨rfl, rfl, rfl⟩

/-- Generated tokens and their log probabilities are added after those of the sample. -/
theorem append_generated (uncentered : args.useScoreCentering = false)
    (trainable : call.trainable = true) {logProbs : List F}
    (sampled : call.logProbs = some logProbs)
    (returned : sample.appendResponseTokens (some args) call = .ok next) :
    next.tokens = sample.tokens ++ call.tokens ∧
      next.responseLength = sample.responseLength + call.tokens.length ∧
      next.rolloutLogProbs = some (sample.rolloutLogProbs.getD [] ++ logProbs) := by
  rcases append_uncentered uncentered trainable returned with ⟨scored, added, applied, _⟩
  rcases applyMetaInfo_frame applied with ⟨tokens, responseLength, rolloutLogProbs⟩
  rw [tokens, responseLength, rolloutLogProbs]
  rcases addLogProbs_frame added with ⟨held, isScored⟩
  have withTokens : scored.tokens = sample.tokens ++ call.tokens ∧
      scored.responseLength = sample.responseLength + call.tokens.length := by
    rw [isScored, Sample.addTokens]
    by_cases empty : call.tokens = []
    · simp [empty]
    · simp [empty]
  refine ⟨withTokens.1, withTokens.2, ?_⟩
  have before : (sample.addTokens call).rolloutLogProbs = sample.rolloutLogProbs := by
    rw [Sample.addTokens]
    split
    · rfl
    · rfl
  rw [Sample.addLogProbs.eq_def, sampled, before] at added
  cases first : sample.rolloutLogProbs with
  | some entries =>
      rw [first] at added
      rw [← Except.ok.inj added]
      rfl
  | none =>
      rw [first] at added
      dsimp only at added
      split at added
      · cases added
      · rename_i fresh
        have isFirst : sample.responseLength = 0 := by
          by_contra later
          exact fresh ⟨rfl, later⟩
        rw [← Except.ok.inj added, isFirst]
        rfl

end Appends

end Vime.Rollout
