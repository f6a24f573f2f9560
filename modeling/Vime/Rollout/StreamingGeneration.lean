import Vime.Rollout.VllmReplies

/-! # Streaming generation

`generate` of `vime/rollout/vllm_rollout.py` and `generate_streaming` of
`vime/rollout/vllm_streaming_rollout.py` for text-only requests without routed experts. The
stream surfaces every chunk on the sample as it arrives, so that an abort leaves the sample
of a one-shot reply that stops there.
-/

namespace Vime.Rollout.Streaming

open Vime.Foundation Vime.Utils Vime.Utils.Types

variable {F : Type}

/-! ## Requests -/

structure GenerateArgs where
  sampling : Args
  partialRollout : Bool
  maskOffpolicyInPartialRollout : Bool

def decodeText (decode : List Int → String) (tokens : List Int) : String :=
  if tokens = [] then "" else decode tokens

def startRequest (promptIds : List Int) (maxNewTokens : Int) (sample : Sample F) :
    Except PyException (Option (Sample F)) := do
  raiseIf (sample.status ≠ .pending ∧ sample.status ≠ .aborted)
    (.assertionError s!"Sample status is {repr sample.status}")
  let remaining := maxNewTokens - sample.responseLength
  raiseIf (remaining < 0)
    (.assertionError s!"max_new_tokens: {remaining} should not be less than 0")
  pure (if remaining = 0 then none
    else some { sample with tokens := if sample.tokens = [] then promptIds else sample.tokens })

/-- What `generate` does with the reply. -/
def appendReply [SamplerValue F] (args : GenerateArgs) (decode : List Int → String)
    (output : VllmOutput F) (sample : Sample F) : Except (Rejection F) (Sample F) := do
  let choice ← attempt sample (itemAt output.choices 0)
  let generated ← attempt sample (inferenceGenerateTokensAndLogprobs choice)
  sample.appendResponseTokens (some args.sampling)
    { tokens := generated.1
      logProbs := some generated.2
      metaInfo := some (inferenceGenerateMetaInfo choice output.weightVersion output.usage
        output.speculativeDecoding)
      text := some (decodeText decode generated.1) }

/-- `output` is the reply to the request, if there is one. -/
def generate [SamplerValue F] (args : GenerateArgs) (decode : List Int → String)
    (promptIds : List Int) (maxNewTokens : Int) (output : VllmOutput F) (sample : Sample F) :
    Except (Rejection F) (Sample F) := do
  match ← attempt sample (startRequest promptIds maxNewTokens sample) with
  | none => pure { sample with status := .truncated }
  | some started => appendReply args decode output started

/-! ## Streams -/

inductive Line (F : Type) where
  | skipped
  | chunk (reply : VllmOutput F)

/-- A line that arrives, and whether the rollout is aborted when it has been handled. -/
structure Delivery (F : Type) where
  line : Line F
  aborted : Bool := false

/-- How the stream ends: it closes, and the rollout may be aborted then, or the request is
cancelled while it waits for the next line. -/
inductive Ending where
  | closed (aborted : Bool)
  | cancelled
  deriving DecidableEq, Repr

structure Progress (F : Type) where
  sample : Sample F
  callTokens : List Int := []
  callLogProbs : List F := []
  lastChoice : Option (Choice F) := none
  lastUsage : Option Usage := none
  weightVersions : List String := []
  responseMetrics : Option SpeculativeStats := none
  finishReason : Option String := none

def truthy (finishReason : Option String) : Bool :=
  finishReason.any fun reason => reason ≠ ""

/-- The fields of the sample with the tokens of this call so far. -/
def surface (decode : List Int → String) (base : Sample F) (callTokens : List Int)
    (callLogProbs : List F) (weightVersions : List String) (sample : Sample F) : Sample F :=
  { sample with
    tokens := base.tokens ++ callTokens
    response := base.response ++ decodeText decode callTokens
    responseLength := base.responseLength + callTokens.length
    rolloutLogProbs := some (base.rolloutLogProbs.getD [] ++ callLogProbs)
    weightVersions :=
      if callTokens = [] then sample.weightVersions else base.weightVersions ++ weightVersions }

def surfaceLossMask (args : GenerateArgs) (base : Sample F) (callTokens : List Int)
    (sample : Sample F) : Except (Rejection F) (Sample F) :=
  match base.lossMask with
  | none => .ok sample
  | some mask => do
      attempt sample (raiseIf
        (¬ (args.partialRollout = true ∧ args.maskOffpolicyInPartialRollout = true))
        (.assertionError "args.partial_rollout and args.mask_offpolicy_in_partial_rollout"))
      pure { sample with lossMask := some (mask ++ List.replicate callTokens.length 1) }

/-- A chunk with a choice. `metrics` are the metrics of the response so far. -/
def applyChoice (args : GenerateArgs) (decode : List Int → String) (base : Sample F)
    (reply : VllmOutput F) (choice : Choice F) (metrics : Option SpeculativeStats)
    (progress : Progress F) : Except (Rejection F) (Progress F) := do
  let chunkMeta := inferenceGenerateMetaInfo choice reply.weightVersion reply.usage
    reply.speculativeDecoding
  let weightVersions :=
    if choice.weightVersions.isSome ∨ reply.weightVersion.isSome then
      reportedVersions choice reply.weightVersion
    else progress.weightVersions
  let delta ← attempt progress.sample (inferenceGenerateTokensAndLogprobs choice)
  let callTokens := progress.callTokens ++ delta.1
  let callLogProbs := progress.callLogProbs ++ delta.2
  let masked ← surfaceLossMask args base callTokens
    (surface decode base callTokens callLogProbs weightVersions progress.sample)
  let applied ← masked.applyMetaInfo (some args.sampling) chunkMeta delta.1.length false false
  pure
    { sample := applied
      callTokens := callTokens
      callLogProbs := callLogProbs
      lastChoice := some choice
      lastUsage := reply.usage.or progress.lastUsage
      weightVersions := weightVersions
      responseMetrics := metrics
      finishReason :=
        if truthy choice.finishReason then choice.finishReason else progress.finishReason }

/-- Apply the lines up to the end, or to the first choice after which the rollout is aborted;
then the result is `true`. -/
def readLines (args : GenerateArgs) (decode : List Int → String) (base : Sample F) :
    List (Delivery F) → Progress F → Except (Rejection F) (Progress F × Bool)
  | [], progress => .ok (progress, false)
  | ⟨.skipped, _⟩ :: rest, progress => readLines args decode base rest progress
  | ⟨.chunk reply, aborted⟩ :: rest, progress =>
      let metrics := reply.speculativeDecoding.or progress.responseMetrics
      match reply.choices with
      | [] => readLines args decode base rest
          { progress with
            lastUsage := reply.usage.or progress.lastUsage
            responseMetrics := metrics }
      | choice :: _ => do
          let applied ← applyChoice args decode base reply choice metrics progress
          if aborted then pure (applied, true) else readLines args decode base rest applied

def finishStream [SamplerValue F] (args : GenerateArgs) (aborted : Bool)
    (progress : Progress F) : Except (Rejection F) (Sample F) :=
  match progress.lastChoice with
  | some choice =>
      if truthy progress.finishReason then
        progress.sample.appendResponseTokens (some args.sampling)
          { tokens := []
            metaInfo := some (inferenceGenerateMetaInfo choice none progress.lastUsage
              progress.responseMetrics) }
      else if aborted then .ok { progress.sample with status := .aborted }
      else .error ⟨.runtimeError
        "vLLM streaming response ended without a terminal finish_reason.", progress.sample⟩
  | none =>
      if aborted then .ok { progress.sample with status := .aborted }
      else .error ⟨.runtimeError
        "vLLM streaming response ended without a terminal finish_reason.", progress.sample⟩

def readStream [SamplerValue F] (args : GenerateArgs) (decode : List Int → String)
    (deliveries : List (Delivery F)) (ending : Ending) (base : Sample F) :
    Except (Rejection F) (Sample F) := do
  let (progress, stopped) ← readLines args decode base deliveries { sample := base }
  match ending with
  | .closed aborted => finishStream args (stopped || aborted) progress
  -- The abort wrapper turns the cancellation into the status.
  | .cancelled => pure { progress.sample with status := .aborted }

def generateStreaming [SamplerValue F] (args : GenerateArgs) (decode : List Int → String)
    (promptIds : List Int) (maxNewTokens : Int) (deliveries : List (Delivery F))
    (ending : Ending) (sample : Sample F) : Except (Rejection F) (Sample F) := do
  attempt sample (raiseIf (args.sampling.useScoreCentering = true)
    (.valueError "Score centering does not support streaming rollout."))
  match ← attempt sample (startRequest promptIds maxNewTokens sample) with
  | none => pure { sample with status := .truncated }
  | some started => readStream args decode deliveries ending started

end Vime.Rollout.Streaming
