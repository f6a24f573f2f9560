import Mathlib.Algebra.BigOperators.Field
import Mathlib.Data.Fintype.Perm
import Vime.Data.RolloutMeans

/-! # What group-relative rewards depend on

Every sample gets the reward of its rollout minus the mean over the distinct rollouts of its
group, so the order of the samples and the number of segments of a rollout do not matter.
-/

namespace Vime.Data

open Vime.Foundation

section Outcomes

variable {samples extended : List RewardSample} {sample : RewardSample} {index : Nat}

theorem mem_groupRollouts {group : Option Int} {key : RolloutKey} :
    key ∈ groupRollouts samples group ↔ ∃ index, ∃ sample : RewardSample,
      samples[index]? = some sample ∧ sample.groupIndex = group ∧
        sample.rolloutKey index = key := by
  rw [groupRollouts, List.mem_toFinset, List.mem_map]
  constructor
  · rintro ⟨⟨sample, index⟩, member, isKey⟩
    rw [List.mem_filter, List.mk_mem_zipIdx_iff_getElem?, decide_eq_true_iff] at member
    exact ⟨index, sample, member.1, member.2, isKey⟩
  · rintro ⟨index, sample, atIndex, isGroup, isKey⟩
    refine ⟨(sample, index), ?_, isKey⟩
    rw [List.mem_filter, List.mk_mem_zipIdx_iff_getElem?, decide_eq_true_iff]
    exact ⟨atIndex, isGroup⟩

theorem rolloutValue_eq {values : List ℚ} (sameLength : values.length = samples.length)
    (agree : ∀ left right (leftSample rightSample : RewardSample),
      samples[left]? = some leftSample → samples[right]? = some rightSample →
        leftSample.rolloutKey left = rightSample.rolloutKey right → values[left]? = values[right]?)
    (atIndex : samples[index]? = some sample) :
    rolloutValue samples values (sample.rolloutKey index) = values.getD index 0 := by
  have inside : index < values.length := by
    rw [sameLength]
    exact (List.getElem?_eq_some_iff.mp atIndex).1
  have isValue := List.getElem?_eq_getElem inside
  have own : ((sample, values[index]), index) ∈ (samples.zip values).zipIdx := by
    rw [List.mk_mem_zipIdx_iff_getElem?, List.getElem?_zip_eq_some]
    exact ⟨atIndex, isValue⟩
  rw [rolloutValue]
  cases found : (samples.zip values).zipIdx.find? fun entry =>
      entry.1.1.rolloutKey entry.2 = sample.rolloutKey index with
  | none =>
      rw [List.find?_eq_none] at found
      exact absurd (decide_eq_true rfl) (found _ own)
  | some entry =>
      have sameKey := List.find?_some found
      rw [decide_eq_true_iff] at sameKey
      rcases entry with ⟨⟨first, value⟩, position⟩
      have located := List.mem_of_find?_eq_some found
      rw [List.mk_mem_zipIdx_iff_getElem?, List.getElem?_zip_eq_some] at located
      have same := agree position index first sample located.1 atIndex sameKey
      rw [List.getD_eq_getElem?_getD, ← same, located.2]
      rfl

theorem SharedOutcome.outcome_eq (shared : SharedOutcome samples)
    (atIndex : samples[index]? = some sample) :
    outcome samples (sample.rolloutKey index) = sample.reward := by
  have agree : ∀ left right (leftSample rightSample : RewardSample),
      samples[left]? = some leftSample → samples[right]? = some rightSample →
        leftSample.rolloutKey left = rightSample.rolloutKey right →
          (samples.map RewardSample.reward)[left]? = (samples.map RewardSample.reward)[right]? := by
    intro left right leftSample rightSample atLeft atRight sameKey
    rw [List.getElem?_map, List.getElem?_map, atLeft, atRight, Option.map_some, Option.map_some,
      (shared left right leftSample rightSample atLeft atRight sameKey).2]
  rw [outcome, rolloutValue_eq (List.length_map _) agree atIndex, List.getD_eq_getElem?_getD,
    List.getElem?_map, atIndex]
  rfl

/-- The recorded mean of a group is the mean over its distinct rollouts. -/
theorem Recorded.mean_eq {state : Rollouts} (recorded : Recorded samples state)
    (group : Option Int) : mean (state.rewardsOf group) = meanOutcome samples group := by
  have rollouts : groupRollouts samples group = ((state.rollouts.filter fun rollout =>
      rollout.2.group = group).map Prod.fst).toFinset := by
    ext key
    rw [mem_groupRollouts, List.mem_toFinset, List.mem_map]
    constructor
    · rintro ⟨index, sample, atIndex, isGroup, isKey⟩
      rcases recorded.entered index sample atIndex with ⟨position, _, isEntry⟩
      exact ⟨_, List.mem_filter.mpr ⟨List.mem_of_getElem? isEntry, decide_eq_true isGroup⟩, isKey⟩
    · rintro ⟨⟨key, entry⟩, member, rfl⟩
      rw [List.mem_filter, decide_eq_true_iff] at member
      rcases recorded.supported key (List.mem_map.mpr ⟨_, member.1, rfl⟩) with
        ⟨index, sample, atIndex, isKey⟩
      rcases recorded.entered index sample atIndex with ⟨position, _, isEntry⟩
      rcases List.mem_iff_getElem?.mp member.1 with ⟨other, atOther⟩
      rw [isKey] at isEntry
      refine ⟨index, sample, atIndex, ?_, isKey⟩
      rw [← member.2, recorded.entry_unique atOther isEntry]
  have distinct : ((state.rollouts.filter fun rollout =>
      rollout.2.group = group).map Prod.fst).Nodup :=
    recorded.distinct.sublist (List.filter_sublist.map Prod.fst)
  have outcomes : ((state.rollouts.filter fun rollout => rollout.2.group = group).map
      Prod.fst).map (outcome samples) = state.rewardsOf group := by
    rw [List.map_map, Rollouts.rewardsOf]
    apply List.map_congr_left
    intro rollout member
    have inRollouts := (List.mem_filter.mp member).1
    rcases recorded.supported rollout.1 (List.mem_map_of_mem inRollouts) with
      ⟨index, sample, atIndex, isKey⟩
    rcases recorded.entered index sample atIndex with ⟨position, _, isEntry⟩
    rcases List.mem_iff_getElem?.mp inRollouts with ⟨other, atOther⟩
    rw [isKey] at isEntry
    rw [Function.comp_apply, ← isKey, recorded.shared.outcome_eq atIndex,
      recorded.entry_unique atOther isEntry]
  rw [meanOutcome, rollouts, List.sum_toFinset _ distinct, outcomes,
    List.toFinset_card_of_nodup distinct, List.length_map, mean, Rollouts.rewardsOf,
    List.length_map]

/-! ## More and fewer segments -/

/-- The samples stand among `extended`, in any order; the others are segments of rollouts that
are present. -/
structure Extends (samples extended : List RewardSample) (place : Nat → Nat) : Prop where
  injective : ∀ left < samples.length, ∀ right < samples.length,
    place left = place right → left = right
  placed : ∀ index < samples.length, extended[place index]? = samples[index]?
  present : ∀ index (segment : RewardSample), extended[index]? = some segment →
    (∃ own < samples.length, place own = index) ∨
      ∃ rid, segment.rid = some rid ∧ ∃ sample ∈ samples, RewardSample.rid sample = some rid

def RolloutKey.lift (place : Nat → Nat) : RolloutKey → RolloutKey
  | .rollout rid => .rollout rid
  | .position index => .position (place index)

theorem RewardSample.rolloutKey_place (place : Nat → Nat) (index : Nat) (sample : RewardSample) :
    sample.rolloutKey (place index) = (sample.rolloutKey index).lift place := by
  rw [RewardSample.rolloutKey, RewardSample.rolloutKey]
  cases sample.rid with
  | none => rfl
  | some rid => rfl

theorem RewardSample.rolloutKey_of_rid {rid : Int} (isRid : sample.rid = some rid) (index : Nat) :
    sample.rolloutKey index = .rollout rid := by
  rw [RewardSample.rolloutKey, isRid]

variable {place : Nat → Nat}

theorem Extends.at_place (extend : Extends samples extended place)
    (atIndex : samples[index]? = some sample) : extended[place index]? = some sample := by
  rw [extend.placed index (List.getElem?_eq_some_iff.mp atIndex).1, atIndex]

theorem Extends.shared (extend : Extends samples extended place)
    (shared : SharedOutcome extended) : SharedOutcome samples := by
  intro left right leftSample rightSample atLeft atRight sameKey
  apply shared (place left) (place right) leftSample rightSample (extend.at_place atLeft)
    (extend.at_place atRight)
  rw [RewardSample.rolloutKey_place, RewardSample.rolloutKey_place, sameKey]

theorem Extends.groupRollouts_eq (extend : Extends samples extended place)
    (shared : SharedOutcome extended) (group : Option Int) :
    groupRollouts extended group = (groupRollouts samples group).image (RolloutKey.lift place) := by
  ext key
  rw [Finset.mem_image]
  constructor
  · intro member
    rcases mem_groupRollouts.mp member with ⟨index, segment, atIndex, isGroup, rfl⟩
    rcases extend.present index segment atIndex with ⟨own, inside, rfl⟩ | ⟨rid, isRid, other⟩
    · rw [extend.placed own inside] at atIndex
      exact ⟨segment.rolloutKey own, mem_groupRollouts.mpr ⟨own, segment, atIndex, isGroup, rfl⟩,
        (segment.rolloutKey_place place own).symm⟩
    · rcases other with ⟨sample, inSamples, sameRid⟩
      rcases List.mem_iff_getElem?.mp inSamples with ⟨own, atOwn⟩
      have agrees := shared (place own) index sample segment (extend.at_place atOwn) atIndex
        (by rw [RewardSample.rolloutKey_of_rid sameRid, RewardSample.rolloutKey_of_rid isRid])
      refine ⟨sample.rolloutKey own, mem_groupRollouts.mpr
        ⟨own, sample, atOwn, agrees.1.trans isGroup, rfl⟩, ?_⟩
      rw [RewardSample.rolloutKey_of_rid sameRid, RewardSample.rolloutKey_of_rid isRid]
      rfl
  · rintro ⟨own, member, rfl⟩
    rcases mem_groupRollouts.mp member with ⟨index, sample, atIndex, isGroup, rfl⟩
    exact mem_groupRollouts.mpr ⟨place index, sample, extend.at_place atIndex, isGroup,
      sample.rolloutKey_place place index⟩

theorem Extends.lift_injective (extend : Extends samples extended place) (group : Option Int) :
    Set.InjOn (RolloutKey.lift place) (groupRollouts samples group) := by
  intro left inLeft right inRight same
  rcases mem_groupRollouts.mp inLeft with ⟨leftIndex, leftSample, atLeft, _, rfl⟩
  rcases mem_groupRollouts.mp inRight with ⟨rightIndex, rightSample, atRight, _, rfl⟩
  have leftInside := (List.getElem?_eq_some_iff.mp atLeft).1
  have rightInside := (List.getElem?_eq_some_iff.mp atRight).1
  rw [RewardSample.rolloutKey, RewardSample.rolloutKey] at same ⊢
  cases leftRid : leftSample.rid with
  | none =>
      cases rightRid : rightSample.rid with
      | none =>
          rw [leftRid, rightRid] at same
          rw [extend.injective _ leftInside _ rightInside (RolloutKey.position.inj same)]
      | some rid =>
          rw [leftRid, rightRid] at same
          cases same
  | some rid =>
      cases rightRid : rightSample.rid with
      | none =>
          rw [leftRid, rightRid] at same
          cases same
      | some other =>
          rw [leftRid, rightRid] at same
          exact same

theorem Extends.meanOutcome_eq (extend : Extends samples extended place)
    (shared : SharedOutcome extended) (group : Option Int) :
    meanOutcome extended group = meanOutcome samples group := by
  have outcomes : ∀ key ∈ groupRollouts samples group,
      outcome extended (key.lift place) = outcome samples key := by
    intro key member
    rcases mem_groupRollouts.mp member with ⟨index, sample, atIndex, _, rfl⟩
    rw [← RewardSample.rolloutKey_place, shared.outcome_eq (extend.at_place atIndex),
      (extend.shared shared).outcome_eq atIndex]
  rw [meanOutcome, meanOutcome, extend.groupRollouts_eq shared,
    Finset.sum_image (extend.lift_injective group),
    Finset.card_image_of_injOn (extend.lift_injective group), Finset.sum_congr rfl outcomes]

end Outcomes

/-! ## The contract -/

section Contract

variable (std : List ℚ → ℚ) {args : RewardArgs} {samples : List RewardSample}

/-- The rewards are normalised, relative to the groups. -/
structure RewardArgs.Normalizes (args : RewardArgs) : Prop where
  builtIn : args.customRewardPostProcessFunc = none
  estimator : args.advantageEstimator ∈
    [AdvantageEstimator.grpo, .gspo, .cispo, .reinforcePlusPlusBaseline]
  enabled : args.rewardsNormalization = true
  unscaled : args.Unscaled

theorem postProcessRewards_eq (normalizes : args.Normalizes) (samples : List RewardSample) :
    postProcessRewards std args samples = (groupRelativeRewards std args samples).map
      fun rewards => (samples.map RewardSample.reward, rewards) := by
  rw [postProcessRewards, normalizes.builtIn]
  dsimp only
  rw [if_pos ⟨normalizes.estimator, normalizes.enabled⟩]
  cases groupRelativeRewards std args samples with
  | error failure => rfl
  | ok rewards => rfl

def relativeRewards (samples : List RewardSample) : List ℚ :=
  samples.map fun sample => sample.reward - meanOutcome samples sample.groupIndex

theorem postProcessRewards_of_shared (normalizes : args.Normalizes)
    (grouped : ∀ sample ∈ samples, sample.groupIndex ≠ none) (shared : SharedOutcome samples) :
    postProcessRewards std args samples =
      .ok (samples.map RewardSample.reward, relativeRewards samples) := by
  rcases recordRollouts_of_shared shared with ⟨state, returned⟩
  have recorded := recorded_of_recordRollouts returned
  rw [postProcessRewards_eq std normalizes,
    groupRelativeRewards_eq std normalizes.unscaled grouped returned]
  simp only [recorded.mean_eq]
  rfl

theorem shared_of_postProcessRewards (normalizes : args.Normalizes) {result : List ℚ × List ℚ}
    (returned : postProcessRewards std args samples = .ok result) : SharedOutcome samples := by
  rw [postProcessRewards_eq std normalizes, map_eq_ok] at returned
  rcases returned with ⟨rewards, relative, _⟩
  rw [groupRelativeRewards] at relative
  rcases bind_eq_ok.mp relative with ⟨_, _, more⟩
  rcases bind_eq_ok.mp more with ⟨state, recorded, _⟩
  exact (recorded_of_recordRollouts recorded).shared

theorem SharedOutcome.sum_relativeRewards (shared : SharedOutcome samples) (group : Option Int) :
    ∑ key ∈ groupRollouts samples group,
      rolloutValue samples (relativeRewards samples) key = 0 := by
  have agree : ∀ left right (leftSample rightSample : RewardSample),
      samples[left]? = some leftSample → samples[right]? = some rightSample →
        leftSample.rolloutKey left = rightSample.rolloutKey right →
          (relativeRewards samples)[left]? = (relativeRewards samples)[right]? := by
    intro left right leftSample rightSample atLeft atRight sameKey
    have same := shared left right leftSample rightSample atLeft atRight sameKey
    rw [relativeRewards, List.getElem?_map, List.getElem?_map, atLeft, atRight, Option.map_some,
      Option.map_some, same.1, same.2]
  have centred : ∀ key ∈ groupRollouts samples group,
      rolloutValue samples (relativeRewards samples) key =
        outcome samples key - meanOutcome samples group := by
    intro key member
    rcases mem_groupRollouts.mp member with ⟨index, sample, atIndex, isGroup, rfl⟩
    have sameLength : (relativeRewards samples).length = samples.length := List.length_map _
    rw [rolloutValue_eq sameLength agree atIndex, shared.outcome_eq atIndex, relativeRewards,
      List.getD_eq_getElem?_getD, List.getElem?_map, atIndex, ← isGroup]
    rfl
  rw [Finset.sum_congr rfl centred, Finset.sum_sub_distrib, Finset.sum_const, nsmul_eq_mul,
    meanOutcome]
  by_cases noRollout : groupRollouts samples group = ∅
  · rw [noRollout, Finset.sum_empty, Finset.card_empty, Nat.cast_zero, zero_mul, sub_zero]
  · have someRollout : ((groupRollouts samples group).card : ℚ) ≠ 0 :=
      Nat.cast_ne_zero.mpr (Finset.card_ne_zero.mpr (Finset.nonempty_iff_ne_empty.mpr noRollout))
    rw [mul_div_cancel₀ _ someRollout, sub_self]

theorem Extends.postProcessRewards_eq {extended : List RewardSample} {place : Nat → Nat}
    (extend : Extends samples extended place) (normalizes : args.Normalizes)
    (grouped : ∀ sample ∈ samples, sample.groupIndex ≠ none) (shared : SharedOutcome extended) :
    postProcessRewards std args samples =
        .ok (samples.map RewardSample.reward, relativeRewards samples) ∧
      ∀ index < samples.length,
        (relativeRewards samples)[index]? = (relativeRewards extended)[place index]? := by
  refine ⟨postProcessRewards_of_shared std normalizes grouped (extend.shared shared), ?_⟩
  intro index inside
  rw [relativeRewards, relativeRewards, List.getElem?_map, List.getElem?_map,
    extend.placed index inside]
  cases samples[index]? with
  | none => rfl
  | some sample => rw [Option.map_some, Option.map_some, extend.meanOutcome_eq shared]

def permuted (samples : List RewardSample) (order : Equiv.Perm (Fin samples.length)) :
    List RewardSample :=
  List.ofFn fun index => samples.get (order index)

def movedFrom (order : Equiv.Perm (Fin count)) (index : Nat) : Nat :=
  if inside : index < count then order ⟨index, inside⟩ else index

theorem extends_permuted (samples : List RewardSample)
    (order : Equiv.Perm (Fin samples.length)) :
    Extends (permuted samples order) samples (movedFrom order) where
  injective left leftInside right rightInside same := by
    rw [permuted, List.length_ofFn] at leftInside rightInside
    rw [movedFrom, movedFrom, dif_pos leftInside, dif_pos rightInside] at same
    exact Fin.mk.inj (order.injective (Fin.ext same))
  placed index inside := by
    rw [permuted, List.length_ofFn] at inside
    rw [movedFrom, dif_pos inside, permuted, List.getElem?_ofFn, dif_pos inside]
    exact List.getElem?_eq_getElem _
  present index segment atIndex := by
    have inside := (List.getElem?_eq_some_iff.mp atIndex).1
    refine Or.inl ⟨order.symm ⟨index, inside⟩, ?_, ?_⟩
    · rw [permuted, List.length_ofFn]
      exact (order.symm ⟨index, inside⟩).isLt
    · rw [movedFrom, dif_pos (order.symm ⟨index, inside⟩).isLt]
      exact congrArg Fin.val (order.apply_symm_apply ⟨index, inside⟩)

theorem map_permuted (samples : List RewardSample) (order : Equiv.Perm (Fin samples.length))
    (value : RewardSample → ℚ) :
    (permuted samples order).map value =
      List.ofFn fun index => (samples.map value).getD (order index) 0 := by
  rw [permuted, List.map_ofFn]
  congr 1
  funext index
  rw [List.getD_eq_getElem?_getD, List.getElem?_map, List.getElem?_eq_getElem (order index).isLt]
  rfl

/-- The results for samples that share their outcomes. -/
structure GroupRelative (args : RewardArgs) (samples : List RewardSample)
    (rawRewards rewards : List ℚ) : Prop where
  raw : rawRewards = samples.map RewardSample.reward
  relative : rewards = samples.map fun sample =>
    sample.reward - meanOutcome samples sample.groupIndex
  zeroSum : ∀ group, ∑ key ∈ groupRollouts samples group, rolloutValue samples rewards key = 0
  permutes : ∀ order : Equiv.Perm (Fin samples.length),
    postProcessRewards std args (permuted samples order) =
      .ok (List.ofFn fun index => rawRewards.getD (order index) 0,
        List.ofFn fun index => rewards.getD (order index) 0)
  segments : ∀ fewer place, Extends fewer samples place → ∃ fewerRaw fewerRewards,
    postProcessRewards std args fewer = .ok (fewerRaw, fewerRewards) ∧
      ∀ index < fewer.length, fewerRewards[index]? = rewards[place index]?

/-- Every rollout counts once in its group. -/
theorem postProcessRewards_groupRelative (normalizes : args.Normalizes)
    (grouped : ∀ sample ∈ samples, sample.groupIndex ≠ none) :
    ((∃ result, postProcessRewards std args samples = .ok result) ↔ SharedOutcome samples) ∧
      ∀ rawRewards rewards,
        postProcessRewards std args samples = .ok (rawRewards, rewards) →
          GroupRelative std args samples rawRewards rewards := by
  constructor
  · constructor
    · rintro ⟨result, returned⟩
      exact shared_of_postProcessRewards std normalizes returned
    · exact fun shared => ⟨_, postProcessRewards_of_shared std normalizes grouped shared⟩
  · intro rawRewards rewards returned
    have shared := shared_of_postProcessRewards std normalizes returned
    rw [postProcessRewards_of_shared std normalizes grouped shared, Except.ok.injEq,
      Prod.mk.injEq] at returned
    rcases returned with ⟨rfl, rfl⟩
    have groupedIn : ∀ {fewer place}, Extends fewer samples place →
        ∀ sample ∈ fewer, RewardSample.groupIndex sample ≠ none := by
      intro fewer place extend sample member
      rcases List.mem_iff_getElem?.mp member with ⟨index, atIndex⟩
      exact grouped sample (List.mem_of_getElem? (extend.at_place atIndex))
    refine ⟨rfl, rfl, shared.sum_relativeRewards, ?_, ?_⟩
    · intro order
      have extend := extends_permuted samples order
      have sameMeans : relativeRewards (permuted samples order) = (permuted samples order).map
          fun sample => sample.reward - meanOutcome samples sample.groupIndex := by
        rw [relativeRewards]
        simp only [extend.meanOutcome_eq shared]
      rw [(extend.postProcessRewards_eq std normalizes (groupedIn extend) shared).1, sameMeans,
        map_permuted, map_permuted, relativeRewards]
    · intro fewer place extend
      exact ⟨_, _, extend.postProcessRewards_eq std normalizes (groupedIn extend) shared⟩

def interleavedSegments : List RewardSample :=
  [⟨some 20, some 4, some 4, 8⟩, ⟨some 10, some 1, some 1, 1⟩, ⟨some 20, some 3, some 3, 10⟩,
    ⟨some 20, some 4, some 4, 8⟩]

def unscaledArgs : RewardArgs := { grpoStdNormalization := false }

theorem interleavedSegments_groupRelative :
    ∃ rawRewards rewards, postProcessRewards (fun _ => 0) unscaledArgs interleavedSegments =
      .ok (rawRewards, rewards) ∧
        GroupRelative (fun _ => 0) unscaledArgs interleavedSegments rawRewards rewards := by
  have normalizes : unscaledArgs.Normalizes := ⟨rfl, by decide, rfl, Or.inl rfl⟩
  have contract := postProcessRewards_groupRelative (fun _ => 0) normalizes
    (by decide : ∀ sample ∈ interleavedSegments, sample.groupIndex ≠ none)
  have shared : SharedOutcome interleavedSegments := by
    have entered : (recordRollouts interleavedSegments).isOk = true := by decide
    cases ran : recordRollouts interleavedSegments with
    | error failure =>
        rw [ran] at entered
        cases entered
    | ok state => exact (recorded_of_recordRollouts ran).shared
  rcases contract.1.mpr shared with ⟨⟨rawRewards, rewards⟩, returned⟩
  exact ⟨rawRewards, rewards, returned, contract.2 rawRewards rewards returned⟩

end Contract

end Vime.Data
