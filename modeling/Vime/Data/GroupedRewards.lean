import Mathlib.Algebra.BigOperators.Group.Finset.Basic
import Mathlib.Algebra.Order.Ring.Rat
import Mathlib.Tactic.FieldSimp
import Vime.Foundation.Grouping
import Vime.Foundation.Masks
import Vime.Foundation.Python

/-! # Group-relative rewards

`BatchBuilder._post_process_rewards` of `vime/data/batch_builder.py`. Samples, rollouts in the
order in which they are first seen, and prompt groups have their own indices; a rollout counts
once in its group, however many samples it was cut into.
-/

namespace Vime.Data

open Vime.Foundation

inductive AdvantageEstimator where
  | grpo
  | gspo
  | cispo
  | reinforcePlusPlus
  | reinforcePlusPlusBaseline
  | ppo
  deriving DecidableEq, Repr

/-- What the rewards are read from; `reward` is what `get_reward_value` finds. -/
structure RewardSample where
  groupIndex : Option Int := none
  rolloutId : Option Int := none
  index : Option Int := none
  reward : ℚ
  deriving DecidableEq, Repr

structure RewardArgs where
  customRewardPostProcessFunc :
    Option (List RewardSample → Except PyException (List ℚ × List ℚ)) := none
  advantageEstimator : AdvantageEstimator := .grpo
  rewardsNormalization : Bool := true
  grpoStdNormalization : Bool := true
  nSamplesPerPrompt : Nat := 1
  rolloutBatchSize : Nat := 1

/-- `("rollout", rid)` or `("position", position)`. -/
inductive RolloutKey where
  | rollout (rid : Int)
  | position (position : Nat)
  deriving DecidableEq, Repr

/-- A value of `rollouts`. -/
structure RolloutEntry where
  group : Option Int
  reward : ℚ
  position : Nat
  deriving DecidableEq, Repr

structure Rollouts where
  rollouts : List (RolloutKey × RolloutEntry) := []
  sampleRollouts : List Nat := []

namespace RewardSample

def rid (sample : RewardSample) : Option Int :=
  match sample.rolloutId with
  | some rid => some rid
  | none => sample.index

def rolloutKey (position : Nat) (sample : RewardSample) : RolloutKey :=
  match sample.rid with
  | some rid => .rollout rid
  | none => .position position

end RewardSample

/-! ## The source -/

def recordRollout (state : Rollouts) (entry : RewardSample × Nat) : Except PyException Rollouts :=
  let key := entry.1.rolloutKey entry.2
  match state.rollouts.lookup key with
  | some previous =>
      if previous.group ≠ entry.1.groupIndex ∨ previous.reward ≠ entry.1.reward then
        let rid := (entry.1.rid.map toString).getD "None"
        .error (.valueError
          s!"Segments of rollout {rid} must share a prompt group and outcome reward")
      else .ok { state with sampleRollouts := state.sampleRollouts ++ [previous.position] }
  | none =>
      .ok
        { rollouts := state.rollouts ++
            [(key, ⟨entry.1.groupIndex, entry.1.reward, state.rollouts.length⟩)]
          sampleRollouts := state.sampleRollouts ++ [state.rollouts.length] }

def recordRollouts (samples : List RewardSample) : Except PyException Rollouts :=
  samples.zipIdx.foldlM recordRollout {}

def groupOf (args : RewardArgs) (hasGroups : Bool) (rolloutCount : Nat) (entry : RolloutEntry) :
    Option Int :=
  if hasGroups then entry.group
  else if rolloutCount = args.nSamplesPerPrompt * args.rolloutBatchSize then
    some ((entry.position / args.nSamplesPerPrompt : Nat) : Int)
  else some 0

def mean (values : List ℚ) : ℚ := values.sum / values.length

section Source

variable (std : List ℚ → ℚ)

def scaled (args : RewardArgs) (centered : List ℚ) : List ℚ :=
  if args.advantageEstimator ∈ [.grpo, .gspo, .cispo] ∧ args.grpoStdNormalization ∧
      centered.length > 1 then
    centered.map (· / (std centered + 1 / 1000000))
  else centered

def centreGroup (args : RewardArgs) (rewards : List ℚ) (positions : List Nat) :
    Except PyException (List ℚ) := do
  let own ← positions.mapM (itemAt rewards)
  let centered := own.map (· - mean own)
  pure (scatter rewards (positions.zip (scaled std args centered)))

def groupRelativeRewards (args : RewardArgs) (samples : List RewardSample) :
    Except PyException (List ℚ) := do
  let hasGroups := samples.any fun sample => sample.groupIndex.isSome
  raiseIf (hasGroups ∧ samples.any fun sample => sample.groupIndex.isNone)
    (.valueError "Reward normalization requires group_index on every sample or none of them")
  let state ← recordRollouts samples
  let entries := state.rollouts.map Prod.snd
  let groups := collect (entries.map fun entry =>
    (groupOf args hasGroups entries.length entry, entry.position))
  let rewards ← (groups.map Prod.snd).foldlM (centreGroup std args)
    (entries.map RolloutEntry.reward)
  state.sampleRollouts.mapM (itemAt rewards)

def postProcessRewards (args : RewardArgs) (samples : List RewardSample) :
    Except PyException (List ℚ × List ℚ) :=
  match args.customRewardPostProcessFunc with
  | some custom => custom samples
  | none =>
      let rawRewards := samples.map RewardSample.reward
      if args.advantageEstimator ∈ [.grpo, .gspo, .cispo, .reinforcePlusPlusBaseline] ∧
          args.rewardsNormalization then do
        let rewards ← groupRelativeRewards std args samples
        pure (rawRewards, rewards)
      else .ok (rawRewards, rawRewards)

end Source

/-! ## Distinct rollouts -/

def groupRollouts (samples : List RewardSample) (group : Option Int) : Finset RolloutKey :=
  ((samples.zipIdx.filter fun entry => entry.1.groupIndex = group).map fun entry =>
    entry.1.rolloutKey entry.2).toFinset

def rolloutValue (samples : List RewardSample) (values : List ℚ) (key : RolloutKey) : ℚ :=
  ((((samples.zip values).zipIdx.find? fun entry =>
    entry.1.1.rolloutKey entry.2 = key).map fun entry => entry.1.2)).getD 0

def outcome (samples : List RewardSample) (key : RolloutKey) : ℚ :=
  rolloutValue samples (samples.map RewardSample.reward) key

def meanOutcome (samples : List RewardSample) (group : Option Int) : ℚ :=
  (∑ key ∈ groupRollouts samples group, outcome samples key) / (groupRollouts samples group).card

/-- All segments of one rollout share the group and the reward. -/
def SharedOutcome (samples : List RewardSample) : Prop :=
  ∀ left right (leftSample rightSample : RewardSample),
    samples[left]? = some leftSample → samples[right]? = some rightSample →
      leftSample.rolloutKey left = rightSample.rolloutKey right →
        leftSample.groupIndex = rightSample.groupIndex ∧
          leftSample.reward = rightSample.reward

structure Recorded (samples : List RewardSample) (state : Rollouts) : Prop where
  numbered : ∀ position key (entry : RolloutEntry), state.rollouts[position]? = some (key, entry) →
    entry.position = position
  distinct : (state.rollouts.map Prod.fst).Nodup
  supported : ∀ key ∈ state.rollouts.map Prod.fst, ∃ index, ∃ sample : RewardSample,
    samples[index]? = some sample ∧ sample.rolloutKey index = key
  counted : state.sampleRollouts.length = samples.length
  entered : ∀ index (sample : RewardSample), samples[index]? = some sample → ∃ position,
    state.sampleRollouts[index]? = some position ∧
      state.rollouts[position]? =
        some (sample.rolloutKey index, RolloutEntry.mk sample.groupIndex sample.reward position)

end Vime.Data
