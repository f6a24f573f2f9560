import Vime.Foundation.CommonPrefix
import Vime.Utils.Types

/-! # Accumulating turns into one sample

The builder of `vime/agent/trajectory.py`: how an incoming turn relates to the
tokens already held, how the turn is appended, and the sample that is emitted.
-/

namespace Vime.Agent

open Vime.Foundation Vime.Utils

variable {F : Type}

/-! ## Turn records -/

/-- A tensor of shape `[rows.length, width]`. -/
structure TokenRows (α : Type) where
  width : Nat
  rows : List (List α)
  deriving DecidableEq, Repr

/-- The replay dictionary of a turn; a key is present when its value is `some`. -/
structure Replay (F : Type) where
  topPTokenIds : Option (List TokenId) := none
  topPTokenOffsets : Option (List Int) := none
  topPLogProbs : Option (List F) := none
  topkTokenIds : Option (TokenRows TokenId) := none
  topkLogProbs : Option (TokenRows F) := none
  routedExperts : Option (List (List Int)) := none

namespace Replay

def keys (replay : Replay F) : List Bool :=
  [replay.topPTokenIds.isSome, replay.topPTokenOffsets.isSome,
    replay.topPLogProbs.isSome, replay.topkTokenIds.isSome,
    replay.topkLogProbs.isSome, replay.routedExperts.isSome]

def nonempty (replay : Replay F) : Bool :=
  replay.keys.any id

end Replay

structure TurnRecord (F : Type) where
  promptIds : List TokenId
  outputIds : List TokenId
  finishReason : String
  outputLogProbs : List F := []
  illFormed : Bool := false
  replay : Option (Replay F) := none
  weightVersions : List String := []
  specInfo : SpecInfo := {}
  prefixCacheInfo : PrefixCacheInfo := {}

/-! ## Drift classification -/

def matchedRun (left right : List TokenId) : (fuel matched : Nat) → Nat
  | 0, matched => matched
  | fuel + 1, matched =>
      if left[matched]? = right[matched]? then
        matchedRun left right fuel (matched + 1)
      else
        matched

/-- The chunk-wise comparison loop; `fuel` bounds the number of chunks. -/
def chunkScan (left right : List TokenId) (chunk limit : Nat) :
    (fuel matched : Nat) → Nat
  | 0, matched => matched
  | fuel + 1, matched =>
      if matched < limit then
        let chunkEnd := min (matched + chunk) limit
        if slice left matched chunkEnd = slice right matched chunkEnd then
          chunkScan left right chunk limit fuel chunkEnd
        else
          matchedRun left right (chunkEnd - matched) matched
      else
        matched

def commonPrefixLen (left right : List TokenId) (chunk : Nat) : Nat :=
  let limit := min left.length right.length
  chunkScan left right chunk limit (limit + 1) 0

def commonPrefixChunk : Nat := 4096

inductive DriftKind where
  | clean
  | realign
  | fork
  deriving DecidableEq, Repr

/-! ## The builder -/

structure SampleBuilder (F : Type) where
  forkThreshold : Nat
  tokens : List TokenId := []
  lossMask : List Nat := []
  logprobs : List F := []
  lastResponseStartIdx : Option Nat := none
  leadingPromptLen : Nat := 0
  replay : Option (Replay F) := none
  weightVersions : List String := []
  specInfo : SpecInfo := {}
  prefixCacheInfo : PrefixCacheInfo := {}

namespace SampleBuilder

def classifyTokenDrift (builder : SampleBuilder F) (turn : TurnRecord F) : DriftKind :=
  let heldReplay := builder.replay.getD {}
  let newReplay := turn.replay.getD {}
  if heldReplay.routedExperts.isSome || newReplay.routedExperts.isSome ||
      heldReplay.keys != newReplay.keys then
    .fork
  else if heldReplay.topkTokenIds.isSome &&
      heldReplay.topkTokenIds.map TokenRows.width !=
        newReplay.topkTokenIds.map TokenRows.width then
    .fork
  else
    let realignAt := commonPrefixLen builder.tokens turn.promptIds commonPrefixChunk
    let drift := builder.tokens.length - realignAt
    if drift = 0 then
      .clean
    else if heldReplay.nonempty then
      .fork
    else
      match builder.lastResponseStartIdx with
      | some start =>
          if start ≤ realignAt ∧ turn.outputIds.length < builder.forkThreshold then
            .realign
          else
            .fork
      | none => .fork

section Append

variable [LogProbValue F]

def appendTokens (builder : SampleBuilder F) (ids : List TokenId) (lossMask : Nat)
    (logprobs : List F) : SampleBuilder F :=
  { builder with
    tokens := builder.tokens ++ ids
    lossMask := builder.lossMask ++ List.replicate ids.length lossMask
    logprobs := builder.logprobs ++
      (if logprobs.isEmpty then List.replicate ids.length LogProbValue.zero
        else logprobs) }

/-- Overwrite the most recent response span from the prompt. `start` is
`last_response_start_idx`. -/
def alignToPrompt (builder : SampleBuilder F) (start : Nat)
    (promptIds : List TokenId) : SampleBuilder F :=
  let tail := promptIds.drop start
  { builder with
    tokens := builder.tokens.take start ++ tail
    lossMask := builder.lossMask.take start ++ List.replicate tail.length 0
    logprobs := builder.logprobs.take start ++
      List.replicate tail.length LogProbValue.zero }

def appendReplayField (held incoming : Option (List α)) :
    Except PyException (Option (List α)) :=
  match incoming, held with
  | none, held => .ok held
  | some _, none => .error .keyError
  | some new, some old => .ok (some (old ++ new))

/-- Concatenate rows of `width` entries, with `padding` between them. -/
def appendReplayRows (width : Nat) (held incoming : Option (TokenRows α))
    (padding : List (List α)) : Except PyException (Option (TokenRows α)) :=
  match held, incoming with
  | some old, some new =>
      if old.width = width ∧ new.width = width then
        .ok (some { old with rows := old.rows ++ padding ++ new.rows })
      else
        .error (.runtimeError "Sizes of tensors must match except in dimension 0.")
  | _, _ => .error .keyError

/-- The top-p part of `_append_replay`. -/
def appendTopP (held incoming : Replay F) (gap : Nat) : Except PyException (Replay F) :=
  match incoming.topPTokenOffsets, held.topPTokenOffsets with
  | none, _ => .ok held
  | some _, none => .error .keyError
  | some newOffsets, some offsets => do
      let last ← lastItem offsets
      let ids ← appendReplayField held.topPTokenIds incoming.topPTokenIds
      let logProbs ← appendReplayField held.topPLogProbs incoming.topPLogProbs
      pure { held with
        topPTokenOffsets := some (offsets ++
          List.replicate gap last ++ (newOffsets.drop 1).map (· + last))
        topPTokenIds := ids
        topPLogProbs := logProbs }

/-- The top-k part of `_append_replay`; the logarithm of `k` is taken for any gap. -/
def appendTopk (held incoming : Replay F) (gap : Nat) : Except PyException (Replay F) :=
  match incoming.topkTokenIds with
  | none => .ok held
  | some newIds => do
      let ids ← appendReplayRows newIds.width held.topkTokenIds incoming.topkTokenIds
        (List.replicate gap ((List.range newIds.width).map Int.ofNat))
      let logProbs ← appendReplayRows newIds.width held.topkLogProbs incoming.topkLogProbs
        (List.replicate gap (List.replicate newIds.width (LogProbValue.uniform newIds.width)))
      raiseIf (newIds.width = 0) (.valueError "math domain error")
      pure { held with topkTokenIds := ids, topkLogProbs := logProbs }

def appendReplay (held : Option (Replay F)) (incoming : Replay F) (gap : Int) :
    Except PyException (Replay F) :=
  match held with
  | none => .ok incoming
  | some held => do
      raiseIf (gap < 0 ∨ held.keys ≠ incoming.keys)
        (.assertionError "gap >= 0 and self.replay.keys() == incoming.keys()")
      raiseIf (incoming.routedExperts.isSome = true)
        (.assertionError "rollout_routed_experts not in incoming")
      let withTopP ← appendTopP held incoming gap.toNat
      appendTopk withTopP incoming gap.toNat

def appendTurn (builder : SampleBuilder F) (turn : TurnRecord F) (kind : DriftKind)
    (trained : Bool) : Except PyException (SampleBuilder F) := do
  if kind = .fork then
    throw (.assertionError "append_turn called on a builder that would fork")
  let isFirstTurn := builder.lastResponseStartIdx.isNone
  let replay ← match turn.replay with
    | none => pure builder.replay
    | some incoming =>
        let gap : Int := if isFirstTurn then 0
          else turn.promptIds.length - builder.tokens.length
        some <$> appendReplay builder.replay incoming gap
  let builder := { builder with replay := replay }
  -- the prompt tail carries no training signal
  let builder := match kind, builder.lastResponseStartIdx with
    | .realign, some start => builder.alignToPrompt start turn.promptIds
    | .realign, none => builder.alignToPrompt 0 turn.promptIds
    | _, _ => builder.appendTokens (turn.promptIds.drop builder.tokens.length) 0 []
  let builder := { builder with lastResponseStartIdx := some builder.tokens.length }
  let builder := builder.appendTokens turn.outputIds trained.toNat turn.outputLogProbs
  let builder :=
    { builder with weightVersions := builder.weightVersions ++ turn.weightVersions }
  let builder := if trained then
      { builder with
        specInfo := builder.specInfo.plus turn.specInfo
        prefixCacheInfo := builder.prefixCacheInfo.plus turn.prefixCacheInfo }
    else builder
  pure (if isFirstTurn then { builder with leadingPromptLen := turn.promptIds.length }
    else builder)

end Append

def hasTrainedResponse (builder : SampleBuilder F) : Bool :=
  (builder.lossMask.drop builder.leadingPromptLen).any (· != 0)

end SampleBuilder

/-! ## Emitted samples -/

/-- The fields of the base sample that an emitted sample inherits. -/
structure BaseSample (Prompt : Type) where
  index : Option Int := none
  groupIndex : Option Int := none
  rolloutId : Option Int := none
  prompt : Prompt
  label : Option String := none

structure SampleMetadata where
  extra : List (String × String)
  truncated : Bool
  useTool : Bool
  illFormed : Bool
  deriving DecidableEq, Repr

structure Sample (Prompt F : Type) where
  index : Option Int
  groupIndex : Option Int
  rolloutId : Option Int
  prompt : Prompt
  label : Option String
  tokens : List TokenId
  responseLength : Int
  lossMask : List Nat
  rolloutLogProbs : List F
  reward : F
  status : Status
  metadata : SampleMetadata
  weightVersions : List String
  specInfo : SpecInfo
  prefixCacheInfo : PrefixCacheInfo
  replay : Replay F

namespace SampleBuilder

variable [LogProbValue F]

def emittedReplay (replay : Replay F) (count : Int) (tokenCount : Nat) :
    Except PyException (Replay F) := do
  let rows {α : Type} (value : TokenRows α) : TokenRows α :=
    { value with rows := sliceTo value.rows count }
  let topP : Replay F ← match replay.topPTokenOffsets with
    | none => pure {}
    | some offsets => do
        let offsets := sliceTo offsets (count + 1)
        let last ← lastItem offsets
        let some ids := replay.topPTokenIds | throw .keyError
        pure
          { topPTokenOffsets := some offsets
            topPTokenIds := some (sliceTo ids last)
            topPLogProbs := replay.topPLogProbs.map (sliceTo · last) }
  pure { topP with
    topkTokenIds := replay.topkTokenIds.map rows
    topkLogProbs := replay.topkLogProbs.map rows
    routedExperts := replay.routedExperts.map
      (List.take (tokenCount - 1) ·) }

def toSample (builder : SampleBuilder F) (baseSample : BaseSample Prompt)
    (metadata : SampleMetadata) (maxSampleTokens : Nat) :
    Except PyException (Sample Prompt F) := do
  let start := builder.leadingPromptLen
  let truncate {α : Type} (values : List α) : List α :=
    if maxSampleTokens ≠ 0 ∧ maxSampleTokens < builder.tokens.length then
      values.take maxSampleTokens
    else values
  let tokens := truncate builder.tokens
  let lossMask := truncate builder.lossMask
  let logprobs := truncate builder.logprobs
  let responseLength : Int := lossMask.length - start
  let replay ← match builder.replay with
    | none => pure {}
    | some replay => emittedReplay replay responseLength tokens.length
  pure
    { index := baseSample.index
      groupIndex := baseSample.groupIndex
      rolloutId := baseSample.rolloutId.orElse fun _ => baseSample.index
      prompt := baseSample.prompt
      label := baseSample.label
      tokens := tokens
      responseLength := responseLength
      lossMask := lossMask.drop start
      rolloutLogProbs := logprobs.drop start
      reward := LogProbValue.zero
      status := .completed
      metadata := metadata
      weightVersions := builder.weightVersions
      specInfo := builder.specInfo
      prefixCacheInfo := builder.prefixCacheInfo
      replay := replay }

end SampleBuilder

end Vime.Agent
