import Vime.Agent.SampleBuilder
import Vime.Rollout.VllmReplies

/-! # One turn over an inference server

`call_vllm_generate` of `vime/agent/adapters/common.py`: the sampling parameters
of a turn, the requests that generate it, and the capture that accumulates the
replies while interrupted requests are continued. A server is a sequence of
responders, one for each request; when they run out the call has not returned.
-/

namespace Vime.Agent

open Vime.Foundation Vime.Utils
open Vime.Rollout (Choice VllmOutput Usage finishType inferenceGenerateMetaInfo
  inferenceGenerateTokensAndLogprobs tokensAndLogprobs_eq_ok append_generated)

variable {F : Type}

/-! ## Requests -/

structure RolloutArgs where
  partialRollout : Bool := false
  vllmMaxModelLen : Option Int := none
  useRolloutRoutingReplay : Bool := false
  vllmSpeculativeConfig : Bool := false
  numLayers : Nat
  moeRouterTopk : Nat

/-- The arguments of `append_response_tokens`; score centering is off. -/
def RolloutArgs.append (args : RolloutArgs) : Types.Args where
  scoreCenteringTopK := 0
  vllmSpeculativeConfig := args.vllmSpeculativeConfig
  numLayers := args.numLayers
  moeRouterTopk := args.moeRouterTopk

/-- The sampling entries that the call reads. `topPBelowOne` is `top_p < 1`. -/
structure SamplingParams where
  maxNewTokens : Int
  minNewTokens : Option Int
  topPBelowOne : Bool

structure SamplingDefaults where
  maxNewTokens : Option Int := none
  minNewTokens : Option Int := none
  topPBelowOne : Option Bool := none

structure AdapterSession where
  samplingDefaults : SamplingDefaults := {}
  maxContextTokens : Int := 0

/-- The request body of the agent. `maxTokens` holds its values under the
adapter's `max_token_keys`, in that order. -/
structure AgentBody where
  maxTokens : List (Option Int) := []
  topPBelowOne : Option Bool := none

def samplingParams (session : AdapterSession) (body : AgentBody) : SamplingParams :=
  let maxNewTokens := session.samplingDefaults.maxNewTokens.getD 4096
  { maxNewTokens :=
      match body.maxTokens.findSome? id with
      | some maxTokens => min maxNewTokens maxTokens
      | none => maxNewTokens
    minNewTokens := session.samplingDefaults.minNewTokens
    topPBelowOne :=
      (body.topPBelowOne.orElse fun _ => session.samplingDefaults.topPBelowOne).getD false }

structure VllmSamplingBody where
  maxTokens : Int
  minTokens : Option Int
  routedExpertsPromptStart : Option Nat := none
  deriving DecidableEq, Repr

def vllmSamplingBody (sp : SamplingParams) : VllmSamplingBody where
  maxTokens := sp.maxNewTokens
  minTokens := sp.minNewTokens

structure GenerateRequest where
  tokenIds : List TokenId
  samplingParams : VllmSamplingBody
  deriving DecidableEq, Repr

/-! ## Replies -/

structure RoutedReply (F : Type) extends VllmOutput F where
  routedExperts : Option (List Int32) := none

def RoutedReply.choice (reply : RoutedReply F) : Choice F := reply.choices.headD {}

/-- The metadata of a reply to a request for routing rows from `routedExpertsStartLen` on. -/
def RoutedReply.metaInfo (reply : RoutedReply F) (routedExpertsStartLen : Nat) :
    Types.MetaInfo F :=
  { inferenceGenerateMetaInfo reply.choice reply.weightVersion reply.usage
      reply.speculativeDecoding with
    routedExperts := .ok reply.routedExperts
    routedExpertsStartLen := routedExpertsStartLen }

/-! ## The call -/

def routedExpertsLength (captured : Types.Sample F) : Nat :=
  (captured.rolloutRoutedExperts.getD []).length

def continuationRequest (args : RolloutArgs) (sp : SamplingParams) (remaining : Int)
    (captured : Types.Sample F) : Except PyException GenerateRequest := do
  let body := vllmSamplingBody { sp with maxNewTokens := remaining }
  if args.useRolloutRoutingReplay then
    let start := if captured.responseLength ≠ 0 then routedExpertsLength captured else 0
    raiseIf (captured.responseLength ≠ 0 ∧ (start : Int) ≠ captured.tokens.length - 1)
      (.valueError "R3 continuation must preserve every historical routing row")
    pure { tokenIds := captured.tokens
           samplingParams := { body with routedExpertsPromptStart := some start } }
  else
    pure { tokenIds := captured.tokens, samplingParams := body }

/-- The checks on the tokens of a reply whose choice has log probabilities `content`. -/
def checkReply (args : RolloutArgs) (sp : SamplingParams) (remaining : Int) (choice : Choice F)
    (content : List (TokenId × F)) (usage : Option Usage) (routed : Bool)
    (outputIds : List TokenId) : Except PyException Unit := do
  raiseIf (∃ counted ∈ usage.map Usage.completionTokens, counted ≠ (outputIds.length : Int))
    (.valueError
      "vLLM completion_tokens does not match the captured output token count")
  raiseIf (choice.tokenIds ≠ some outputIds)
    (.valueError "vLLM token_ids do not match the token IDs paired with logprobs")
  raiseIf (content.map Prod.fst ≠ outputIds)
    (.valueError "vLLM logprob token IDs do not match token_ids")
  raiseIf (∃ token ∈ outputIds, token < 0)
    (.valueError "vLLM returned invalid output token IDs or non-finite logprobs")
  raiseIf ((outputIds.length : Int) > remaining)
    (.valueError "vLLM output exceeds the remaining turn budget")
  raiseIf (outputIds ≠ [] ∧ sp.topPBelowOne = true ∧ choice.samplingMask.isNone = true)
    (.valueError
      "vLLM must return nucleus token IDs and offsets for top-p replay")
  raiseIf (outputIds ≠ [] ∧ args.useRolloutRoutingReplay = true ∧ routed = false)
    (.valueError "vLLM must return routed experts for R3")

def captureReply [SamplerValue F] (args : RolloutArgs) (info : Types.MetaInfo F)
    (outputIds : List TokenId) (outputLogProbs : List F) (captured : Types.Sample F) :
    Except PyException (Types.Sample F) :=
  (captured.appendResponseTokens (some args.append)
    { tokens := outputIds
      logProbs := some outputLogProbs
      metaInfo := some info }).mapError Types.Rejection.exception

def absorbReply [SamplerValue F] (args : RolloutArgs) (sp : SamplingParams) (remaining : Int)
    (request : GenerateRequest) (reply : RoutedReply F) (captured : Types.Sample F) :
    Except PyException (Types.Sample F × String) := do
  match reply.choice.logprobs with
  | none =>
      throw (.valueError
        "vLLM must return sampled token logprobs for token-exact training")
  | some content =>
      let (outputIds, outputLogProbs) ← inferenceGenerateTokensAndLogprobs reply.choice
      checkReply args sp remaining reply.choice content reply.usage reply.routedExperts.isSome
        outputIds
      let captured ← captureReply args
        (reply.metaInfo (request.samplingParams.routedExpertsPromptStart.getD 0)) outputIds
        outputLogProbs captured
      pure (captured, finishType reply.choice.finishReason)

theorem continuationRequest_eq_ok {args : RolloutArgs} {sp : SamplingParams}
    {remaining : Int} {captured : Types.Sample F} {request : GenerateRequest}
    (returns : continuationRequest args sp remaining captured = .ok request) :
    request.tokenIds = captured.tokens ∧
      request.samplingParams.maxTokens = remaining ∧
      request.samplingParams.minTokens = sp.minNewTokens := by
  rw [continuationRequest] at returns
  split at returns
  · replace returns := (raiseIf_bind_eq_ok.mp returns).2
    rw [pure_eq_ok, Except.ok.injEq] at returns
    subst returns
    exact ⟨rfl, rfl, rfl⟩
  · rw [pure_eq_ok, Except.ok.injEq] at returns
    subst returns
    exact ⟨rfl, rfl, rfl⟩

theorem checkReply_within {args : RolloutArgs} {sp : SamplingParams} {remaining : Int}
    {choice : Choice F} {content : List (TokenId × F)} {usage : Option Usage} {routed : Bool}
    {outputIds : List TokenId}
    (passed : checkReply args sp remaining choice content usage routed outputIds = .ok ()) :
    (outputIds.length : Int) ≤ remaining := by
  rw [checkReply] at passed
  simp only [check_bind_eq_ok, raiseIf_eq_ok] at passed
  exact Int.not_lt.mp passed.2.2.2.2.1

theorem absorbReply_eq_ok [SamplerValue F] {args : RolloutArgs} {sp : SamplingParams}
    {remaining : Int} {request : GenerateRequest} {reply : RoutedReply F}
    {captured : Types.Sample F} {absorbed : Types.Sample F × String}
    (returns : absorbReply args sp remaining request reply captured = .ok absorbed) :
    absorbed.1.tokens = captured.tokens ++ reply.choice.tokens ∧
      absorbed.1.responseLength = captured.responseLength + reply.choice.tokens.length ∧
      absorbed.1.rolloutLogProbs =
        some (captured.rolloutLogProbs.getD [] ++ reply.choice.content) ∧
      absorbed.2 = finishType reply.choice.finishReason ∧
      (reply.choice.tokens.length : Int) ≤ remaining := by
  rw [absorbReply.eq_def] at returns
  cases isContent : reply.choice.logprobs with
  | none => simp [isContent] at returns
  | some content =>
      simp only [isContent] at returns
      rcases bind_eq_ok.mp returns with ⟨generated, readEq, checked⟩
      rcases (tokensAndLogprobs_eq_ok.mp readEq).2 with rfl
      rcases bind_eq_ok.mp checked with ⟨_, passed, appended⟩
      rcases bind_eq_ok.mp appended with ⟨next, capturedEq, same⟩
      rw [← Except.ok.inj same]
      rcases append_generated rfl rfl rfl (mapError_eq_ok.mp capturedEq) with
        ⟨tokens, responseLength, logProbs⟩
      exact ⟨tokens, responseLength, logProbs, rfl, checkReply_within passed⟩

/-- The request loop. The result lists the requests that were sent; `none` means
that the call is still waiting. -/
def generateLoop [SamplerValue F] (args : RolloutArgs) (sp : SamplingParams) (finish : String) :
    List (GenerateRequest → RoutedReply F) → Types.Sample F →
      Except PyException (Option (Types.Sample F × String × List GenerateRequest))
  | [], captured =>
      if sp.maxNewTokens ≤ (captured.responseLength : Int) then
        pure (some (captured, finish, []))
      else pure none
  | respond :: rest, captured =>
      if sp.maxNewTokens ≤ (captured.responseLength : Int) then
        pure (some (captured, finish, []))
      else do
        let remaining := sp.maxNewTokens - captured.responseLength
        let request ← continuationRequest args sp remaining captured
        let (captured, finish) ←
          absorbReply args sp remaining request (respond request) captured
        if finish ≠ "abort" ∨ !args.partialRollout then
          pure (some (captured, finish, [request]))
        else if sp.maxNewTokens ≤ (captured.responseLength : Int) then
          pure (some (captured, "length", [request]))
        else do
          let later ← generateLoop args sp finish rest captured
          pure (later.map fun (captured, finish, requests) =>
            (captured, finish, request :: requests))

theorem generateLoop_of_exhausted [SamplerValue F] {args : RolloutArgs} {sp : SamplingParams}
    {finish : String} {responders : List (GenerateRequest → RoutedReply F)}
    {captured : Types.Sample F} (exhausted : sp.maxNewTokens ≤ (captured.responseLength : Int)) :
    generateLoop args sp finish responders captured = .ok (some (captured, finish, [])) := by
  cases responders with
  | nil => rw [generateLoop, if_pos exhausted, pure_eq_ok]
  | cons respond rest => rw [generateLoop, if_pos exhausted, pure_eq_ok]

def contextLimit (args : RolloutArgs) (session : AdapterSession) : Option Int :=
  let limit := session.maxContextTokens
  let modelLen := args.vllmMaxModelLen.getD 0
  let serverContext := if modelLen ≠ 0 then modelLen else limit
  if serverContext > 0 then
    some (if limit > 0 then min limit serverContext else serverContext)
  else if limit > 0 then some limit
  else none

def capturedReplay (captured : Types.Sample F) : Replay F where
  topPTokenIds := captured.rolloutTopPTokenIds.map (List.map Int32.toInt)
  topPTokenOffsets := captured.rolloutTopPTokenOffsets.map (List.map Int32.toInt)
  topPLogProbs := captured.rolloutTopPLogProbs
  topkTokenIds := captured.rolloutTopkTokenIds.map fun heads =>
    { width := heads.width, rows := heads.rows.map (List.map Int32.toInt) }
  topkLogProbs := captured.rolloutTopkLogProbs.map fun heads =>
    { width := heads.width, rows := heads.rows }
  routedExperts := captured.rolloutRoutedExperts.map (List.map (List.map Int32.toInt))

def turnRecord (promptIds : List TokenId) (captured : Types.Sample F) (finish : String) :
    TurnRecord F where
  promptIds := promptIds
  outputIds := captured.tokens.drop promptIds.length
  finishReason := finish
  outputLogProbs := captured.rolloutLogProbs.getD []
  replay := if (capturedReplay captured).nonempty then some (capturedReplay captured) else none
  weightVersions := captured.weightVersions
  specInfo := captured.specInfo
  prefixCacheInfo := captured.prefixCacheInfo

def remainingContext (args : RolloutArgs) (session : AdapterSession)
    (promptIds : List TokenId) : Option Int :=
  (contextLimit args session).map fun limit => limit - (promptIds.length : Int)

/-- The sampling parameters of a turn, with `max_new_tokens` clamped to the context. -/
def clampedParams (args : RolloutArgs) (session : AdapterSession) (body : AgentBody)
    (promptIds : List TokenId) : SamplingParams :=
  let sp := samplingParams session body
  { sp with
    maxNewTokens := ((remainingContext args session promptIds).map
      (min sp.maxNewTokens)).getD sp.maxNewTokens }

def callVllmGenerate [SamplerValue F] (args : RolloutArgs) (session : AdapterSession) (body : AgentBody)
    (promptIds : List TokenId) (responders : List (GenerateRequest → RoutedReply F)) :
    Except PyException (Option (TurnRecord F × List GenerateRequest)) :=
  if (remainingContext args session promptIds).any (· ≤ 0) then
    .ok (some ({ promptIds := promptIds, outputIds := [], finishReason := "length" }, []))
  else
    (generateLoop args (clampedParams args session body promptIds) "length" responders
      { tokens := promptIds }).map fun outcome =>
        outcome.map fun (captured, finish, requests) =>
          (turnRecord promptIds captured finish, requests)

end Vime.Agent
