import Vime.Agent.RunMasks
import Vime.Agent.NodeIdentity
import Vime.Foundation.Related

/-! # Emitted samples

The samples of a session are the builders of those runs that train something,
cut to the token budget.
-/

namespace Vime.Agent

open Vime.Foundation Vime.Utils

variable {Message F Sid Prompt : Type}

/-! ## One sample -/

/-- What a token budget leaves of a list; `0` stands for no budget. -/
def cut {α : Type} (budget : Nat) (values : List α) : List α :=
  if budget = 0 then values else values.take budget

theorem length_cut {α β : Type} (budget : Nat) {left : List α} {right : List β}
    (sameLength : left.length = right.length) :
    (cut budget left).length = (cut budget right).length := by
  rw [cut, cut]
  split
  · exact sameLength
  · rw [List.length_take, List.length_take, sameLength]

theorem cut_isPrefix {α : Type} (budget : Nat) (values : List α) :
    cut budget values <+: values := by
  rw [cut]
  split
  · exact List.prefix_rfl
  · exact List.take_prefix _ _

namespace SampleBuilder

variable [LogProbValue F]

def cutLength (builder : SampleBuilder F) (budget : Nat) : Int :=
  (cut budget builder.lossMask).length - builder.leadingPromptLen

def cutReplay (builder : SampleBuilder F) (budget : Nat) : Except PyException (Replay F) :=
  match builder.replay with
  | none => .ok {}
  | some replay =>
      emittedReplay replay (builder.cutLength budget) (cut budget builder.tokens).length

def cutSample (builder : SampleBuilder F) (baseSample : BaseSample Prompt)
    (metadata : SampleMetadata) (budget : Nat) (reward : F) (replay : Replay F) :
    Sample Prompt F where
  index := baseSample.index
  groupIndex := baseSample.groupIndex
  rolloutId := baseSample.rolloutId.orElse fun _ => baseSample.index
  prompt := baseSample.prompt
  label := baseSample.label
  tokens := cut budget builder.tokens
  responseLength := builder.cutLength budget
  lossMask := (cut budget builder.lossMask).drop builder.leadingPromptLen
  rolloutLogProbs := (cut budget builder.logprobs).drop builder.leadingPromptLen
  reward := reward
  status := .completed
  metadata := metadata
  weightVersions := builder.weightVersions
  specInfo := builder.specInfo
  prefixCacheInfo := builder.prefixCacheInfo
  replay := replay

theorem toSample_eq_ok {builder : SampleBuilder F} (parallel : builder.Parallel)
    {baseSample : BaseSample Prompt} {metadata : SampleMetadata} {budget : Nat}
    {sample : Sample Prompt F} :
    builder.toSample baseSample metadata budget = .ok sample ↔
      ∃ replay, builder.cutReplay budget = .ok replay ∧
        builder.cutSample baseSample metadata budget LogProbValue.zero replay = sample := by
  have cuts {α : Type} (values : List α) (sameLength : values.length = builder.tokens.length) :
      (if budget ≠ 0 ∧ budget < builder.tokens.length then values.take budget else values) =
        cut budget values := by
    rw [cut]
    by_cases unlimited : budget = 0
    · rw [if_pos unlimited, if_neg (by simp [unlimited])]
    · rw [if_neg unlimited]
      by_cases exceeds : budget < builder.tokens.length
      · rw [if_pos ⟨unlimited, exceeds⟩]
      · rw [if_neg (by simp [exceeds]), List.take_of_length_le (by omega)]
  rw [toSample, cutReplay]
  simp only [cuts _ rfl, cuts _ parallel.lossMask, cuts _ parallel.logprobs]
  cases builder.replay with
  | none =>
      simp only [pure_eq_ok, ok_bind, Except.ok.injEq, exists_eq_left']
      rfl
  | some replay =>
      dsimp only
      rw [bind_eq_ok]
      simp only [pure_eq_ok, Except.ok.injEq]
      rfl

end SampleBuilder

/-! ## Leaf chains -/

section Chains

variable [LogProbValue F] [ChatMessage Message] {forkThreshold : Nat}

def emittingBuilders (forkThreshold : Nat) (extraMetadata : List (String × String)) :
    List Nat → List (List (MessageNode Message F)) →
      Except PyException (List (SampleBuilder F × SampleMetadata))
  | _, [] => .ok []
  | claimed, chain :: rest => do
      let split ← splitChainIntoBuilders forkThreshold claimed chain
      let later ← emittingBuilders forkThreshold extraMetadata split.2 rest
      pure ((split.1.filter SampleBuilder.hasTrainedResponse).map
        (fun builder => (builder, chainMetadata chain extraMetadata)) ++ later)

theorem chainsToSamples_eq_ok {baseSample : BaseSample Prompt}
    {extraMetadata : List (String × String)} {budget : Nat} :
    ∀ {claimed : List Nat} {chains : List (List (MessageNode Message F))}
      {samples : List (Sample Prompt F)},
      chainsToSamples forkThreshold baseSample extraMetadata budget claimed chains =
          .ok samples ↔
        ∃ builders, emittingBuilders forkThreshold extraMetadata claimed chains =
            .ok builders ∧
          List.Forall₂ (fun entry sample =>
            entry.1.toSample baseSample entry.2 budget = .ok sample) builders samples
  | _, [], samples => by
      simp [chainsToSamples, emittingBuilders, eq_comm]
  | claimed, chain :: rest, samples => by
      rw [chainsToSamples, emittingBuilders, bind_eq_ok]
      simp only [bind_eq_ok, chainToSamples, pure_eq_ok, Except.ok.injEq]
      constructor
      · rintro ⟨_, ⟨⟨builders, after⟩, split, own, ownEq, rfl⟩, later, laterEq, rfl⟩
        rcases chainsToSamples_eq_ok.mp laterEq with ⟨others, othersEq, converted⟩
        refine ⟨_, ⟨_, split, _, othersEq, rfl⟩, ?_⟩
        refine List.rel_append ?_ converted
        rw [List.forall₂_map_left_iff]
        exact (mapM_eq_ok _ _ _).mp ownEq
      · rintro ⟨_, ⟨⟨builders, after⟩, split, others, othersEq, rfl⟩, converted⟩
        rcases forall₂_append_left converted with ⟨own, later, ownEq, laterEq, rfl⟩
        rw [List.forall₂_map_left_iff] at ownEq
        exact ⟨(own, after), ⟨_, split, own, (mapM_eq_ok _ _ _).mpr ownEq, rfl⟩, later,
          chainsToSamples_eq_ok.mpr ⟨others, othersEq, laterEq⟩, rfl⟩

omit [LogProbValue F] [ChatMessage Message] in
def emittingRuns (forkThreshold : Nat) (paths : List (List (FlaggedTurn F))) :
    List (List (FlaggedTurn F)) :=
  (paths.flatMap (turnRuns forkThreshold)).filter (trainsSomething forkThreshold)

theorem emittingBuilders_runs {extraMetadata : List (String × String)} :
    ∀ {claimed : List Nat} {chains : List (List (MessageNode Message F))}
      {builders : List (SampleBuilder F × SampleMetadata)},
      (∀ chain ∈ chains, ∀ node ∈ assistantNodes chain, node.2.Recordable) →
      emittingBuilders forkThreshold extraMetadata claimed chains = .ok builders →
      List.Forall₂ (fun run entry => Built forkThreshold run entry.1)
        (emittingRuns forkThreshold (flaggedPaths claimed (chains.map assistantNodes)))
        builders
  | _, [], builders, _, emitted => by
      rw [← Except.ok.inj emitted]
      exact .nil
  | claimed, chain :: rest, builders, recordable, emitted => by
      rw [List.forall_mem_cons] at recordable
      rw [emittingBuilders] at emitted
      rcases bind_eq_ok.mp emitted with ⟨⟨own, after⟩, split, more⟩
      rcases bind_eq_ok.mp more with ⟨others, othersEq, returned⟩
      rcases splitChainIntoBuilders_runs recordable.1 split with ⟨rfl, ownRuns⟩
      have later := emittingBuilders_runs recordable.2 othersEq
      rw [← Except.ok.inj returned, List.map_cons, flaggedPaths, emittingRuns,
        List.flatMap_cons, List.filter_append]
      refine List.rel_append ?_ later
      rw [List.forall₂_map_right_iff]
      exact List.rel_filter (fun run builder built => by
        show trainsSomething forkThreshold run = true ↔ builder.hasTrainedResponse = true
        rw [(Built.masksRun built).hasTrainedResponse]) ownRuns

end Chains

/-! ## Recorded sessions -/

section Sessions

variable [LogProbValue F] [ChatMessage Message] [DecidableEq Sid]

omit [LogProbValue F] [ChatMessage Message] [DecidableEq Sid] in
def sessionRuns (forkThreshold : Nat) (root : MessageTree Message F) :
    List (List (FlaggedTurn F)) :=
  emittingRuns forkThreshold (flaggedPaths [] ((leafChains root).map assistantNodes))

/-- The sample of `entry` under a token budget. -/
def EmittedAs (baseSample : BaseSample Prompt) (reward : F) (budget : Nat)
    (entry : SampleBuilder F × SampleMetadata) (sample : Sample Prompt F) : Prop :=
  ∃ replay, entry.1.cutReplay budget = .ok replay ∧
    sample = entry.1.cutSample baseSample entry.2 budget reward replay

/-- Linearizing a session converts the builders of its runs. -/
theorem getTrajectory_eq_ok {manager : TrajectoryManager Sid Message F} {sid : Sid}
    {session : Session Message F} (tree : manager.trees sid = some session)
    (recordable : session.Holds TurnRecord.Recordable) (baseSample : BaseSample Prompt)
    (reward : F) (extraMetadata : List (String × String)) {budget : Nat}
    {samples : List (Sample Prompt F)} {final : TrajectoryManager Sid Message F} :
    manager.getTrajectory sid baseSample reward extraMetadata budget =
        .ok (samples, final) ↔
      final = manager.dropSession sid ∧
      ∃ builders, emittingBuilders manager.forkThreshold extraMetadata []
          (leafChains session.root) = .ok builders ∧
        List.Forall₂ (EmittedAs baseSample reward budget) builders samples := by
  have converts {builders : List (SampleBuilder F × SampleMetadata)}
      (emitted : emittingBuilders manager.forkThreshold extraMetadata []
        (leafChains session.root) = .ok builders) :
      List.Forall₂ (EmittedAs baseSample reward budget) builders samples ↔
        ∃ inners : List (Sample Prompt F),
          List.Forall₂ (fun entry sample =>
            entry.1.toSample baseSample entry.2 budget = .ok sample) builders inners ∧
          inners.map (fun sample => { sample with reward := reward }) = samples := by
    have built := emittingBuilders_runs
      (fun chain member node inChain => sampled_of_mem_leafChains recordable member inChain)
      emitted
    have parallel : ∀ entry ∈ builders, entry.1.Parallel :=
      forall_mem_of_forall₂ (fun _ _ held => Built.parallel held) built
    rw [← forall₂_exists_map]
    constructor
    · intro related
      refine List.Forall₂.imp ?_ ((List.forall₂_and_left _ _).mpr ⟨parallel, related⟩)
      rintro entry sample ⟨isParallel, replay, replayEq, rfl⟩
      exact ⟨_, (SampleBuilder.toSample_eq_ok isParallel).mpr ⟨replay, replayEq, rfl⟩, rfl⟩
    · intro related
      refine List.Forall₂.imp ?_ ((List.forall₂_and_left _ _).mpr ⟨parallel, related⟩)
      rintro entry sample ⟨isParallel, inner, innerEq, rfl⟩
      rcases (SampleBuilder.toSample_eq_ok isParallel).mp innerEq with ⟨replay, replayEq, rfl⟩
      exact ⟨replay, replayEq, rfl⟩
  rw [TrajectoryManager.getTrajectory, tree]
  dsimp only
  rw [bind_eq_ok]
  simp only [pure_eq_ok, Except.ok.injEq, Prod.mk.injEq]
  constructor
  · rintro ⟨inners, linearized, renamed, rfl⟩
    rcases chainsToSamples_eq_ok.mp linearized with ⟨builders, emitted, converted⟩
    exact ⟨rfl, builders, emitted, (converts emitted).mpr ⟨inners, converted, renamed⟩⟩
  · rintro ⟨rfl, builders, emitted, converted⟩
    rcases (converts emitted).mp converted with ⟨inners, innersEq, renamed⟩
    exact ⟨inners, chainsToSamples_eq_ok.mpr ⟨builders, emitted, innersEq⟩, renamed, rfl⟩

end Sessions

end Vime.Agent
