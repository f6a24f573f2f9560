import Vime.Agent.TrajectoryManager
import Vime.Foundation.Fallible

/-! # Turns without replay data

For turns that carry no replay dictionary the builder never raises. This module
states what one appended turn does to a builder as a pure function, and lifts
that description to chains and to whole sessions.
-/

namespace Vime.Agent

open Vime.Foundation Vime.Utils

variable {Message F Sid Prompt : Type}

/-! ## The token comparison -/

theorem matchedRun_eq (left right : List TokenId) : ∀ (fuel matched : Nat),
    matched ≤ commonPrefixLength left right →
    commonPrefixLength left right < matched + fuel →
    matched + fuel ≤ min left.length right.length →
      matchedRun left right fuel matched = commonPrefixLength left right
  | 0, matched, lower, upper, _ => by omega
  | fuel + 1, matched, lower, upper, inside => by
      rw [matchedRun]
      split
      · rename_i agree
        apply matchedRun_eq left right fuel (matched + 1) _ (by omega) (by omega)
        -- one more agreeing position extends the common prefix
        apply le_commonPrefixLength_of_take_eq (by omega) (by omega)
        rw [List.take_add_one, List.take_add_one, agree,
          take_eq_take_of_le_commonPrefixLength lower]
      · rename_i differ
        apply Nat.le_antisymm lower
        apply Nat.le_of_not_lt
        intro longer
        apply differ
        have agree := take_eq_take_of_le_commonPrefixLength
          (Nat.succ_le_of_lt longer)
        have atMatched := congrArg (·[matched]?) agree
        simpa [List.getElem?_take] using atMatched

theorem chunkScan_eq (left right : List TokenId) (chunk : Nat) (positive : 0 < chunk) :
    ∀ (fuel matched : Nat), matched ≤ commonPrefixLength left right →
      min left.length right.length < matched + fuel →
      chunkScan left right chunk (min left.length right.length) fuel matched =
        commonPrefixLength left right
  | 0, matched, lower, enough => by
      have leftBound := commonPrefixLength_le_left left right
      have rightBound := commonPrefixLength_le_right left right
      omega
  | fuel + 1, matched, lower, enough => by
      have leftBound := commonPrefixLength_le_left left right
      have rightBound := commonPrefixLength_le_right left right
      rw [chunkScan]
      split
      · rename_i inside
        simp only [slice_natCast]
        split
        · rename_i agree
          apply chunkScan_eq left right chunk positive fuel _ _ (by omega)
          apply le_commonPrefixLength_of_take_eq (by omega) (by omega)
          have before := take_eq_take_of_le_commonPrefixLength lower
          have leftParts := List.take_append_drop matched
            (left.take (min (matched + chunk) (min left.length right.length)))
          have rightParts := List.take_append_drop matched
            (right.take (min (matched + chunk) (min left.length right.length)))
          rw [List.take_take, Nat.min_eq_left (by omega)] at leftParts rightParts
          rw [← leftParts, ← rightParts, agree, before]
        · rename_i differ
          apply matchedRun_eq left right _ matched lower _ (by omega)
          apply Nat.lt_of_not_le
          intro reached
          apply differ
          have upper : min (matched + chunk) (min left.length right.length) ≤
              commonPrefixLength left right := by omega
          rw [take_eq_take_of_le_commonPrefixLength upper]
      · omega

theorem commonPrefixLen_eq (left right : List TokenId) (chunk : Nat)
    (positive : 0 < chunk) :
    commonPrefixLen left right chunk = commonPrefixLength left right := by
  rw [commonPrefixLen]
  exact chunkScan_eq left right chunk positive _ 0 (Nat.zero_le _) (by omega)

/-! ## One turn -/

/-- A turn as the manager accepts it, without replay data: its log probabilities
are absent or aligned with its output. -/
structure TurnRecord.Plain (turn : TurnRecord F) : Prop where
  noReplay : turn.replay = none
  logProbs : turn.outputLogProbs = [] ∨
    turn.outputLogProbs.length = turn.outputIds.length

/-- The log probabilities a turn contributes: `0.0` for each token when it
carries none. -/
def TurnRecord.sampledLogProbs [LogProbValue F] (turn : TurnRecord F) : List F :=
  if turn.outputLogProbs.isEmpty then
    List.replicate turn.outputIds.length LogProbValue.zero
  else
    turn.outputLogProbs

theorem TurnRecord.Plain.sampledLogProbs_length [LogProbValue F] {turn : TurnRecord F}
    (plain : turn.Plain) : turn.sampledLogProbs.length = turn.outputIds.length := by
  rw [sampledLogProbs]
  rcases plain.logProbs with absent | aligned
  · simp [absent]
  · split
    · simp
    · exact aligned

namespace SampleBuilder

structure Aligned (builder : SampleBuilder F) : Prop where
  noReplay : builder.replay = none
  lossMask : builder.lossMask.length = builder.tokens.length
  logprobs : builder.logprobs.length = builder.tokens.length

theorem aligned_initial (forkThreshold : Nat) :
    ({ forkThreshold := forkThreshold } : SampleBuilder F).Aligned :=
  ⟨rfl, rfl, rfl⟩

def keptLength (builder : SampleBuilder F) : DriftKind → Nat
  | .realign => builder.lastResponseStartIdx.getD 0
  | _ => builder.tokens.length

/-- The builder after a turn that keeps the first `keep` held tokens. -/
def absorb [LogProbValue F] (builder : SampleBuilder F) (turn : TurnRecord F)
    (keep : Nat) (trained : Bool) : SampleBuilder F where
  forkThreshold := builder.forkThreshold
  tokens := builder.tokens.take keep ++ turn.promptIds.drop keep ++ turn.outputIds
  lossMask := builder.lossMask.take keep ++
    List.replicate (turn.promptIds.length - keep) 0 ++
    List.replicate turn.outputIds.length trained.toNat
  logprobs := builder.logprobs.take keep ++
    List.replicate (turn.promptIds.length - keep) LogProbValue.zero ++
    turn.sampledLogProbs
  lastResponseStartIdx :=
    some (builder.tokens.take keep ++ turn.promptIds.drop keep).length
  leadingPromptLen :=
    if builder.lastResponseStartIdx.isNone then turn.promptIds.length
    else builder.leadingPromptLen
  replay := builder.replay
  weightVersions := builder.weightVersions ++ turn.weightVersions
  specInfo := if trained then builder.specInfo.plus turn.specInfo else builder.specInfo
  prefixCacheInfo :=
    if trained then builder.prefixCacheInfo.plus turn.prefixCacheInfo
    else builder.prefixCacheInfo

theorem appendTurn_eq_absorb [LogProbValue F] {builder : SampleBuilder F}
    {turn : TurnRecord F} {kind : DriftKind} (trained : Bool)
    (aligned : builder.Aligned) (plain : turn.Plain) (extends_ : kind ≠ .fork) :
    builder.appendTurn turn kind trained =
      .ok (builder.absorb turn (builder.keptLength kind) trained) := by
  rcases aligned with ⟨noReplay, maskLength, logprobLength⟩
  have wholeMask : builder.lossMask.take builder.tokens.length = builder.lossMask := by
    rw [← maskLength, List.take_length]
  have wholeLogprobs :
      builder.logprobs.take builder.tokens.length = builder.logprobs := by
    rw [← logprobLength, List.take_length]
  cases kind with
  | fork => exact absurd rfl extends_
  | clean =>
      cases start : builder.lastResponseStartIdx <;> cases trained <;>
        simp [appendTurn, plain.noReplay, appendTokens, absorb, keptLength, start,
          wholeMask, wholeLogprobs, TurnRecord.sampledLogProbs, noReplay]
  | realign =>
      cases start : builder.lastResponseStartIdx <;> cases trained <;>
        simp [appendTurn, plain.noReplay, appendTokens, alignToPrompt, absorb,
          keptLength, start, TurnRecord.sampledLogProbs, noReplay]

theorem Aligned.absorb [LogProbValue F] {builder : SampleBuilder F}
    {turn : TurnRecord F} (aligned : builder.Aligned) (plain : turn.Plain)
    (keep : Nat) (trained : Bool) : (builder.absorb turn keep trained).Aligned where
  noReplay := aligned.noReplay
  lossMask := by simp [SampleBuilder.absorb, aligned.lossMask]
  logprobs := by
    simp [SampleBuilder.absorb, aligned.logprobs, plain.sampledLogProbs_length]

theorem classifyTokenDrift_eq {builder : SampleBuilder F} {turn : TurnRecord F}
    (aligned : builder.Aligned) (plain : turn.Plain) :
    builder.classifyTokenDrift turn =
      (let realignAt := commonPrefixLength builder.tokens turn.promptIds
      if builder.tokens.length ≤ realignAt then .clean
      else
        match builder.lastResponseStartIdx with
        | some start =>
            if start ≤ realignAt ∧ turn.outputIds.length < builder.forkThreshold then
              .realign
            else
              .fork
        | none => .fork) := by
  have bound := commonPrefixLength_le_left builder.tokens turn.promptIds
  rw [classifyTokenDrift, aligned.noReplay, plain.noReplay,
    commonPrefixLen_eq _ _ _ (by decide)]
  simp only [Option.getD_none, Replay.keys, Replay.nonempty, Nat.sub_eq_zero_iff_le]
  cases builder.lastResponseStartIdx <;> rfl

/-- A turn that does not fork agrees with the held tokens it keeps. -/
theorem keptLength_agrees {builder : SampleBuilder F} {turn : TurnRecord F}
    (aligned : builder.Aligned) (plain : turn.Plain)
    (extends_ : builder.classifyTokenDrift turn ≠ .fork) :
    builder.keptLength (builder.classifyTokenDrift turn) ≤
      commonPrefixLength builder.tokens turn.promptIds := by
  rw [classifyTokenDrift_eq aligned plain] at extends_ ⊢
  dsimp only at extends_ ⊢
  split at extends_
  · rename_i clean
    rw [if_pos clean]
    exact clean
  · rename_i drifted
    rw [if_neg drifted]
    cases start : builder.lastResponseStartIdx with
    | none => simp [start] at extends_
    | some start' =>
        simp only [start] at extends_ ⊢
        split at extends_
        · rename_i realigns
          rw [if_pos realigns, keptLength, start]
          exact realigns.1
        · exact absurd rfl extends_

theorem absorb_tokens [LogProbValue F] {builder : SampleBuilder F}
    {turn : TurnRecord F} {keep : Nat} (trained : Bool)
    (agrees : keep ≤ commonPrefixLength builder.tokens turn.promptIds) :
    (builder.absorb turn keep trained).tokens = turn.promptIds ++ turn.outputIds := by
  rw [absorb, take_eq_take_of_le_commonPrefixLength agrees, List.take_append_drop]

theorem absorb_tokens_take [LogProbValue F] {builder : SampleBuilder F}
    (turn : TurnRecord F) {keep : Nat} (trained : Bool)
    (inside : keep ≤ builder.tokens.length) :
    (builder.absorb turn keep trained).tokens.take keep = builder.tokens.take keep := by
  have kept : (builder.tokens.take keep).length = keep := List.length_take_of_le inside
  dsimp only [absorb]
  rw [List.append_assoc]
  exact List.take_left' kept

theorem absorb_logprobs_take [LogProbValue F] {builder : SampleBuilder F}
    (turn : TurnRecord F) {keep : Nat} (trained : Bool)
    (inside : keep ≤ builder.logprobs.length) :
    (builder.absorb turn keep trained).logprobs.take keep =
      builder.logprobs.take keep := by
  have kept : (builder.logprobs.take keep).length = keep := List.length_take_of_le inside
  dsimp only [absorb]
  rw [List.append_assoc]
  exact List.take_left' kept

theorem absorb_lastResponseStartIdx [LogProbValue F] {builder : SampleBuilder F}
    {turn : TurnRecord F} {keep : Nat} (trained : Bool)
    (agrees : keep ≤ commonPrefixLength builder.tokens turn.promptIds) :
    (builder.absorb turn keep trained).lastResponseStartIdx =
      some turn.promptIds.length := by
  rw [absorb, take_eq_take_of_le_commonPrefixLength agrees, List.take_append_drop]

def emitted [LogProbValue F] (builder : SampleBuilder F) (baseSample : BaseSample Prompt)
    (metadata : SampleMetadata) : Sample Prompt F where
  index := baseSample.index
  groupIndex := baseSample.groupIndex
  rolloutId := baseSample.rolloutId.orElse fun _ => baseSample.index
  prompt := baseSample.prompt
  label := baseSample.label
  tokens := builder.tokens
  responseLength := builder.lossMask.length - builder.leadingPromptLen
  lossMask := builder.lossMask.drop builder.leadingPromptLen
  rolloutLogProbs := builder.logprobs.drop builder.leadingPromptLen
  reward := LogProbValue.zero
  status := .completed
  metadata := metadata
  weightVersions := builder.weightVersions
  specInfo := builder.specInfo
  prefixCacheInfo := builder.prefixCacheInfo
  replay := {}

theorem toSample_eq_emitted [LogProbValue F] {builder : SampleBuilder F}
    (aligned : builder.Aligned) (baseSample : BaseSample Prompt)
    (metadata : SampleMetadata) :
    builder.toSample baseSample metadata 0 =
      .ok (builder.emitted baseSample metadata) := by
  simp [toSample, emitted, aligned.noReplay]

end SampleBuilder

/-! ## Chains and sessions -/

section Chains

variable [LogProbValue F]

/-- The step of `_split_chain_into_builders` on turns without replay data. -/
def absorbStep (forkThreshold : Nat)
    (state : List (SampleBuilder F) × List Nat) (node : Nat × TurnRecord F) :
    List (SampleBuilder F) × List Nat :=
  let trained := !state.2.contains node.1
  let claimed := if trained then node.1 :: state.2 else state.2
  let opened : SampleBuilder F := { forkThreshold := forkThreshold }
  match state.1 with
  | [] => ([opened.absorb node.2 0 trained], claimed)
  | current :: closed =>
      match current.classifyTokenDrift node.2 with
      | .fork => (opened.absorb node.2 0 trained :: current :: closed, claimed)
      | kind =>
          (current.absorb node.2 (current.keptLength kind) trained :: closed, claimed)

theorem splitStep_eq_absorbStep (forkThreshold : Nat)
    (state : List (SampleBuilder F) × List Nat) {node : Nat × TurnRecord F}
    (aligned : ∀ builder ∈ state.1, builder.Aligned) (plain : node.2.Plain) :
    splitStep forkThreshold state node = .ok (absorbStep forkThreshold state node) ∧
      ∀ builder ∈ (absorbStep forkThreshold state node).1, builder.Aligned := by
  rcases state with ⟨builders, claimed⟩
  have openedAligned : ({ forkThreshold := forkThreshold } : SampleBuilder F).Aligned :=
    SampleBuilder.aligned_initial forkThreshold
  have opens (trained : Bool) := SampleBuilder.appendTurn_eq_absorb trained openedAligned
    plain (show DriftKind.clean ≠ .fork by simp)
  simp only [SampleBuilder.keptLength] at opens
  cases builders with
  | nil =>
      simp only [splitStep, absorbStep, opens, ok_bind, pure_eq_ok, List.length_nil,
        true_and, List.forall_mem_singleton]
      exact openedAligned.absorb plain _ _
  | cons current closed =>
      simp only [List.forall_mem_cons] at aligned
      cases kind : current.classifyTokenDrift node.2 with
      | fork =>
          simp only [splitStep, absorbStep, kind, opens, ok_bind, pure_eq_ok,
            List.length_nil, true_and, List.forall_mem_cons]
          exact ⟨openedAligned.absorb plain _ _, aligned⟩
      | clean =>
          simp only [splitStep, absorbStep, kind, ok_bind, pure_eq_ok,
            SampleBuilder.appendTurn_eq_absorb _ aligned.1 plain
              (show DriftKind.clean ≠ .fork by simp),
            true_and, List.forall_mem_cons]
          exact ⟨aligned.1.absorb plain _ _, aligned.2⟩
      | realign =>
          simp only [splitStep, absorbStep, kind, ok_bind, pure_eq_ok,
            SampleBuilder.appendTurn_eq_absorb _ aligned.1 plain
              (show DriftKind.realign ≠ .fork by simp),
            true_and, List.forall_mem_cons]
          exact ⟨aligned.1.absorb plain _ _, aligned.2⟩

def absorbChain (forkThreshold : Nat) (claimed : List Nat)
    (nodes : List (Nat × TurnRecord F)) : List (SampleBuilder F) × List Nat :=
  nodes.foldl (absorbStep forkThreshold) ([], claimed)

theorem splitChainIntoBuilders_eq (forkThreshold : Nat) (claimed : List Nat)
    {chain : List (MessageNode Message F)}
    (plain : ∀ node ∈ assistantNodes chain, node.2.Plain) :
    splitChainIntoBuilders forkThreshold claimed chain =
        .ok ((absorbChain forkThreshold claimed (assistantNodes chain)).1.reverse,
          (absorbChain forkThreshold claimed (assistantNodes chain)).2) ∧
      ∀ builder ∈ (absorbChain forkThreshold claimed (assistantNodes chain)).1,
        builder.Aligned := by
  have run := foldlM_eq_ok_foldl (splitStep forkThreshold) (absorbStep forkThreshold)
    (fun state => ∀ builder ∈ state.1, builder.Aligned) (assistantNodes chain)
    (fun node member state aligned =>
      splitStep_eq_absorbStep forkThreshold state aligned (plain node member))
    ([], claimed) (by simp)
  rw [splitChainIntoBuilders, run.1]
  exact ⟨rfl, run.2⟩

def absorbChains [ChatMessage Message] (forkThreshold : Nat)
    (extraMetadata : List (String × String)) :
    List Nat → List (List (MessageNode Message F)) →
      List (SampleBuilder F × SampleMetadata)
  | _, [] => []
  | claimed, chain :: rest =>
      let absorbed := absorbChain forkThreshold claimed (assistantNodes chain)
      absorbed.1.reverse.map (fun builder => (builder, chainMetadata chain extraMetadata)) ++
        absorbChains forkThreshold extraMetadata absorbed.2 rest

theorem chainsToSamples_eq [ChatMessage Message] {forkThreshold : Nat}
    {baseSample : BaseSample Prompt} {extraMetadata : List (String × String)} :
    ∀ {claimed : List Nat} {chains : List (List (MessageNode Message F))},
      (∀ chain ∈ chains, ∀ node ∈ assistantNodes chain, node.2.Plain) →
      chainsToSamples forkThreshold baseSample extraMetadata 0 claimed chains =
        .ok (((absorbChains forkThreshold extraMetadata claimed chains).filter
          fun entry => entry.1.hasTrainedResponse).map
            fun entry => entry.1.emitted baseSample entry.2)
  | _, [], _ => rfl
  | claimed, chain :: rest, plain => by
      simp only [List.forall_mem_cons] at plain
      have split := splitChainIntoBuilders_eq forkThreshold claimed plain.1
      have emits := mapM_eq_ok_map
        (fun builder : SampleBuilder F =>
          builder.toSample baseSample (chainMetadata chain extraMetadata) 0)
        (fun builder => builder.emitted baseSample (chainMetadata chain extraMetadata))
        ((absorbChain forkThreshold claimed (assistantNodes chain)).1.reverse.filter
          SampleBuilder.hasTrainedResponse)
        (fun builder member => SampleBuilder.toSample_eq_emitted
          (split.2 builder (by simpa using List.mem_of_mem_filter member)) _ _)
      rw [chainsToSamples, chainToSamples, split.1]
      simp only [ok_bind, pure_eq_ok]
      rw [emits]
      simp only [ok_bind]
      rw [chainsToSamples_eq plain.2]
      simp [absorbChains, List.filter_map, Function.comp_def]

def trajectorySamples [ChatMessage Message] (forkThreshold : Nat)
    (baseSample : BaseSample Prompt) (reward : F)
    (extraMetadata : List (String × String)) (root : MessageTree Message F) :
    List (Sample Prompt F) :=
  ((absorbChains forkThreshold extraMetadata [] (leafChains root)).filter
    fun entry => entry.1.hasTrainedResponse).map fun entry =>
      { entry.1.emitted baseSample entry.2 with reward := reward }

theorem getTrajectory_eq [ChatMessage Message] [DecidableEq Sid]
    {manager : TrajectoryManager Sid Message F} {sid : Sid} {session : Session Message F}
    (stored : manager.trees sid = some session)
    (plain : ∀ chain ∈ leafChains session.root, ∀ node ∈ assistantNodes chain,
      node.2.Plain) (baseSample : BaseSample Prompt) (reward : F)
    (extraMetadata : List (String × String)) :
    manager.getTrajectory sid baseSample reward extraMetadata 0 =
      .ok (trajectorySamples manager.forkThreshold baseSample reward extraMetadata
        session.root, manager.dropSession sid) := by
  rw [TrajectoryManager.getTrajectory, stored]
  dsimp only
  rw [chainsToSamples_eq plain, ok_bind, pure_eq_ok, trajectorySamples, List.map_map]
  rfl

end Chains

end Vime.Agent
