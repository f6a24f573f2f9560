import Vime.Data.GroupedRewards

/-! # Rewards relative to distinct rollouts

What the loops over samples, rollouts and groups leave behind, and the rewards in terms of the
distinct rollouts of a group alone.
-/

namespace Vime.Data

open Vime.Foundation

/-! ## Recording the rollouts -/

theorem getElem?_concat_eq_some {α : Type u} {values : List α} {last value : α} {index : Nat} :
    (values ++ [last])[index]? = some value ↔
      values[index]? = some value ∨ (index = values.length ∧ last = value) := by
  rcases Nat.lt_trichotomy index values.length with before | same | after
  · rw [List.getElem?_append_left before]
    exact ⟨Or.inl, fun found => found.resolve_right fun isLast => by omega⟩
  · rw [same, List.getElem?_concat_length, List.getElem?_eq_none (Nat.le_refl _),
      Option.some.injEq]
    exact ⟨fun isLast => Or.inr ⟨rfl, isLast⟩, fun found => found.elim nofun And.right⟩
  · rw [List.getElem?_eq_none (by rw [List.length_append, List.length_singleton]; omega),
      List.getElem?_eq_none (Nat.le_of_lt after)]
    exact ⟨nofun, fun found => found.elim nofun fun isLast => by omega⟩

theorem recordRollouts_concat (samples : List RewardSample) (sample : RewardSample) :
    recordRollouts (samples ++ [sample]) =
      recordRollouts samples >>= fun state => recordRollout state (sample, samples.length) := by
  rw [recordRollouts, List.zipIdx_append, List.foldlM_append, recordRollouts]
  rw [Nat.zero_add, List.zipIdx_singleton]
  apply bind_congr
  intro state
  rw [List.foldlM_cons]
  exact bind_pure _

theorem Recorded.empty : Recorded [] {} where
  numbered _ _ _ found := nomatch found
  distinct := List.nodup_nil
  supported _ member := nomatch member
  counted := rfl
  entered _ _ found := nomatch found

section Recording

variable {samples : List RewardSample} {sample : RewardSample} {state next : Rollouts}

/-- What the loop body does: a rollout seen before has to agree, another one is entered. -/
theorem recordRollout_eq_ok {position : Nat} :
    recordRollout state (sample, position) = .ok next ↔
      (∃ previous, state.rollouts.lookup (sample.rolloutKey position) = some previous ∧
        previous.group = sample.groupIndex ∧ previous.reward = sample.reward ∧
          next = { state with sampleRollouts := state.sampleRollouts ++ [previous.position] }) ∨
      (state.rollouts.lookup (sample.rolloutKey position) = none ∧ next =
        { rollouts := state.rollouts ++ [(sample.rolloutKey position,
            ⟨sample.groupIndex, sample.reward, state.rollouts.length⟩)]
          sampleRollouts := state.sampleRollouts ++ [state.rollouts.length] }) := by
  rw [recordRollout]
  dsimp only
  cases state.rollouts.lookup (sample.rolloutKey position) with
  | none =>
      constructor
      · intro returned
        exact Or.inr ⟨rfl, (Except.ok.inj returned).symm⟩
      · rintro (⟨previous, found, _⟩ | ⟨_, isNext⟩)
        · cases found
        · rw [isNext]
  | some previous =>
      dsimp only
      by_cases differs : previous.group ≠ sample.groupIndex ∨ previous.reward ≠ sample.reward
      · rw [if_pos differs]
        constructor
        · intro returned
          cases returned
        · rintro (⟨other, found, sameGroup, sameReward, _⟩ | ⟨absent, _⟩)
          · cases found
            exact (differs.elim (fun h => h sameGroup) fun h => h sameReward).elim
          · cases absent
      · rw [if_neg differs]
        rw [not_or, not_not, not_not] at differs
        constructor
        · intro returned
          exact Or.inl ⟨previous, rfl, differs.1, differs.2, (Except.ok.inj returned).symm⟩
        · rintro (⟨other, found, _, _, isNext⟩ | ⟨absent, _⟩)
          · cases found
            rw [isNext]
          · cases absent

theorem Recorded.of_lookup (recorded : Recorded samples state) {key : RolloutKey}
    {previous : RolloutEntry} (found : state.rollouts.lookup key = some previous) :
    state.rollouts[previous.position]? = some (key, previous) := by
  rcases List.mem_iff_getElem?.mp (mem_of_lookup found) with ⟨position, atPosition⟩
  rw [recorded.numbered position key previous atPosition]
  exact atPosition

theorem Recorded.entry_unique (recorded : Recorded samples state) {left right : Nat}
    {key : RolloutKey} {leftEntry rightEntry : RolloutEntry}
    (atLeft : state.rollouts[left]? = some (key, leftEntry))
    (atRight : state.rollouts[right]? = some (key, rightEntry)) : leftEntry = rightEntry := by
  have leftKey : (state.rollouts.map Prod.fst)[left]? = some key := by
    rw [List.getElem?_map, atLeft, Option.map_some]
  have rightKey : (state.rollouts.map Prod.fst)[right]? = some key := by
    rw [List.getElem?_map, atRight, Option.map_some]
  have inside : left < (state.rollouts.map Prod.fst).length :=
    (List.getElem?_eq_some_iff.mp leftKey).1
  have same := (List.getElem?_inj inside recorded.distinct).mp (leftKey.trans rightKey.symm)
  rw [same, atRight] at atLeft
  exact (congrArg Prod.snd (Option.some.inj atLeft)).symm

theorem Recorded.step (recorded : Recorded samples state)
    (returned : recordRollout state (sample, samples.length) = .ok next) :
    Recorded (samples ++ [sample]) next := by
  rcases recordRollout_eq_ok.mp returned with
    ⟨previous, found, sameGroup, sameReward, rfl⟩ | ⟨absent, rfl⟩
  · have atPosition := recorded.of_lookup found
    refine ⟨recorded.numbered, recorded.distinct, ?_, ?_, ?_⟩
    · intro key member
      rcases recorded.supported key member with ⟨index, own, inSamples, isKey⟩
      exact ⟨index, own, getElem?_concat_eq_some.mpr (Or.inl inSamples), isKey⟩
    · rw [List.length_append, List.length_append, recorded.counted]
      rfl
    · intro index own inSamples
      rcases getElem?_concat_eq_some.mp inSamples with before | ⟨isLast, isSample⟩
      · rcases recorded.entered index own before with ⟨position, isPosition, isEntry⟩
        exact ⟨position, getElem?_concat_eq_some.mpr (Or.inl isPosition), isEntry⟩
      · refine ⟨previous.position, getElem?_concat_eq_some.mpr (Or.inr ⟨?_, rfl⟩), ?_⟩
        · rw [isLast, recorded.counted]
        · rw [isLast, ← isSample, ← sameGroup, ← sameReward]
          exact atPosition
  · refine ⟨?_, ?_, ?_, ?_, ?_⟩
    · intro position key entry isEntry
      rcases getElem?_concat_eq_some.mp isEntry with before | ⟨isLast, isNew⟩
      · exact recorded.numbered position key entry before
      · rw [isLast, ← (Prod.mk.inj isNew).2]
    · rw [List.map_append, List.map_singleton]
      refine List.nodup_append.mpr ⟨recorded.distinct, List.nodup_singleton _, ?_⟩
      intro key member other isNew same
      rcases List.mem_map.mp member with ⟨entry, inRollouts, isKey⟩
      rw [List.mem_singleton] at isNew
      have different := List.lookup_eq_none_iff.mp absent entry inRollouts
      rw [isKey, same, isNew, bne_self_eq_false] at different
      cases different
    · intro key member
      rw [List.map_append, List.map_singleton, List.mem_append, List.mem_singleton] at member
      rcases member with before | isNew
      · rcases recorded.supported key before with ⟨index, own, inSamples, isKey⟩
        exact ⟨index, own, getElem?_concat_eq_some.mpr (Or.inl inSamples), isKey⟩
      · exact ⟨samples.length, sample, getElem?_concat_eq_some.mpr (Or.inr ⟨rfl, rfl⟩),
          isNew.symm⟩
    · rw [List.length_append, List.length_append, recorded.counted]
      rfl
    · intro index own inSamples
      rcases getElem?_concat_eq_some.mp inSamples with before | ⟨isLast, isSample⟩
      · rcases recorded.entered index own before with ⟨position, isPosition, isEntry⟩
        exact ⟨position, getElem?_concat_eq_some.mpr (Or.inl isPosition),
          getElem?_concat_eq_some.mpr (Or.inl isEntry)⟩
      · refine ⟨state.rollouts.length, getElem?_concat_eq_some.mpr (Or.inr ⟨?_, rfl⟩),
          getElem?_concat_eq_some.mpr (Or.inr ⟨rfl, ?_⟩)⟩
        · rw [isLast, recorded.counted]
        · rw [isLast, isSample]

theorem recorded_of_recordRollouts (returned : recordRollouts samples = .ok state) :
    Recorded samples state := by
  induction samples using List.reverseRecOn generalizing state with
  | nil =>
      cases returned
      exact Recorded.empty
  | append_singleton samples sample induction =>
      rw [recordRollouts_concat] at returned
      rcases bind_eq_ok.mp returned with ⟨before, recordedBefore, stepped⟩
      exact (induction recordedBefore).step stepped

theorem Recorded.shared (recorded : Recorded samples state) : SharedOutcome samples := by
  intro left right leftSample rightSample atLeft atRight sameKey
  rcases recorded.entered left leftSample atLeft with ⟨leftPosition, _, leftEntry⟩
  rcases recorded.entered right rightSample atRight with ⟨rightPosition, _, rightEntry⟩
  rw [sameKey] at leftEntry
  have same := recorded.entry_unique leftEntry rightEntry
  rw [RolloutEntry.mk.injEq] at same
  exact ⟨same.1, same.2.1⟩

theorem recordRollouts_of_shared (shared : SharedOutcome samples) :
    ∃ state, recordRollouts samples = .ok state := by
  induction samples using List.reverseRecOn with
  | nil => exact ⟨_, rfl⟩
  | append_singleton samples sample induction =>
      have sharedBefore : SharedOutcome samples :=
        fun left right leftSample rightSample atLeft atRight =>
          shared left right leftSample rightSample
            (getElem?_concat_eq_some.mpr (Or.inl atLeft))
            (getElem?_concat_eq_some.mpr (Or.inl atRight))
      rcases induction sharedBefore with ⟨state, returned⟩
      have recorded := recorded_of_recordRollouts returned
      rw [recordRollouts_concat, returned, ok_bind]
      cases found : state.rollouts.lookup (sample.rolloutKey samples.length) with
      | none => exact ⟨_, recordRollout_eq_ok.mpr (Or.inr ⟨found, rfl⟩)⟩
      | some previous =>
          have atPosition := recorded.of_lookup found
          have isKey : sample.rolloutKey samples.length ∈ state.rollouts.map Prod.fst :=
            List.mem_map.mpr ⟨_, mem_of_lookup found, rfl⟩
          rcases recorded.supported _ isKey with ⟨index, own, inSamples, sameKey⟩
          rcases recorded.entered index own inSamples with ⟨position, _, isEntry⟩
          rw [sameKey] at isEntry
          have isPrevious := recorded.entry_unique atPosition isEntry
          have agrees := shared index samples.length own sample
            (getElem?_concat_eq_some.mpr (Or.inl inSamples))
            (getElem?_concat_eq_some.mpr (Or.inr ⟨rfl, rfl⟩)) sameKey
          refine ⟨_, recordRollout_eq_ok.mpr (Or.inl ⟨previous, found, ?_, ?_, rfl⟩)⟩
          · rw [isPrevious]
            exact agrees.1
          · rw [isPrevious]
            exact agrees.2

end Recording

/-! ## Centring the groups -/

section Centring

variable (std : List ℚ → ℚ) {args : RewardArgs}

def RewardArgs.Unscaled (args : RewardArgs) : Prop :=
  args.grpoStdNormalization = false ∨ args.advantageEstimator = .reinforcePlusPlusBaseline

theorem scaled_eq_self (unscaled : args.Unscaled) (centered : List ℚ) :
    scaled std args centered = centered := by
  rw [scaled, if_neg]
  rintro ⟨estimator, normalized, _⟩
  rcases unscaled with off | baseline
  · rw [off] at normalized
    cases normalized
  · rw [baseline] at estimator
    exact absurd estimator (by decide)

def centredAt (rewards : List ℚ) (positions : List Nat) (position : Nat) : ℚ :=
  rewards.getD position 0 - mean (positions.map fun other => rewards.getD other 0)

theorem centreGroup_eq (unscaled : args.Unscaled) {rewards : List ℚ} {positions : List Nat}
    (inside : ∀ position ∈ positions, position < rewards.length) :
    centreGroup std args rewards positions =
      .ok (scatter rewards (positions.map fun position =>
        (position, centredAt rewards positions position))) := by
  have own := mapM_eq_ok_map (itemAt rewards) (fun position => rewards.getD position 0) positions
    (by
      intro position member
      rw [itemAt_eq_ok, List.getD_eq_getElem?_getD,
        List.getElem?_eq_getElem (inside position member)]
      rfl)
  rw [centreGroup, own, ok_bind]
  dsimp only
  rw [scaled_eq_self std unscaled, List.map_map, pure_eq_ok, List.zip_map_right, List.zip_eq_zipWith,
    List.zipWith_self, List.map_map]
  rfl

/-- Groups that share no rollout are centred one after the other. -/
theorem centreGroups_eq (unscaled : args.Unscaled) :
    ∀ {groups : List (List Nat)} {rewards : List ℚ}, groups.Pairwise List.Disjoint →
      (∀ positions ∈ groups, positions.Nodup) →
        (∀ positions ∈ groups, ∀ position ∈ positions, position < rewards.length) →
          ∃ final, groups.foldlM (centreGroup std args) rewards = .ok final ∧
            (∀ positions ∈ groups, ∀ position ∈ positions,
              final[position]? = some (centredAt rewards positions position)) ∧
            ∀ position, (∀ positions ∈ groups, position ∉ positions) →
              final[position]? = rewards[position]?
  | [], rewards, _, _, _ => ⟨rewards, rfl, nofun, fun _ _ => rfl⟩
  | first :: rest, rewards, disjoint, distinct, inside => by
      rw [List.pairwise_cons] at disjoint
      rw [List.forall_mem_cons] at distinct inside
      have written := centreGroup_eq std unscaled inside.1
      have length : (scatter rewards (first.map fun position =>
          (position, centredAt rewards first position))).length = rewards.length :=
        length_scatter _ _
      have named : (first.map fun position => (position, centredAt rewards first position)).map
          Prod.fst = first := by
        rw [List.map_map]
        exact List.map_id first
      have kept : ∀ position, position ∉ first → (scatter rewards (first.map fun position =>
          (position, centredAt rewards first position)))[position]? = rewards[position]? := by
        intro position elsewhere
        apply getElem?_scatter
        intro entry member same
        rcases List.mem_map.mp member with ⟨other, inFirst, rfl⟩
        exact elsewhere (same ▸ inFirst)
      rcases centreGroups_eq unscaled disjoint.2 distinct.2 (by rw [length]; exact inside.2) with
        ⟨final, ran, ofRest, ofOthers⟩
      refine ⟨final, by rw [List.foldlM_cons, written, ok_bind, ran], ?_, ?_⟩
      · intro positions member position inPositions
        rcases List.mem_cons.mp member with rfl | inRest
        · rw [ofOthers position fun other inRest inOther =>
            disjoint.1 other inRest inPositions inOther]
          apply getElem?_scatter_of_mem
          · rw [named]
            exact distinct.1
          · exact inside.1 position inPositions
          · exact List.mem_map_of_mem inPositions
        · rw [ofRest positions inRest position inPositions]
          have unchanged : ∀ other ∈ positions, (scatter rewards (first.map fun position =>
              (position, centredAt rewards first position))).getD other 0 =
                rewards.getD other 0 := by
            intro other inOther
            rw [List.getD_eq_getElem?_getD, List.getD_eq_getElem?_getD,
              kept other fun inFirst => disjoint.1 positions inRest inFirst inOther]
          rw [centredAt, centredAt, unchanged position inPositions,
            List.map_congr_left unchanged]
      · intro position elsewhere
        rw [List.forall_mem_cons] at elsewhere
        rw [ofOthers position elsewhere.2, kept position elsewhere.1]

end Centring

/-! ## The groups of the recorded rollouts -/

section Groups

variable {samples : List RewardSample} {state : Rollouts}

def Rollouts.rewardsOf (state : Rollouts) (group : Option Int) : List ℚ :=
  (state.rollouts.filter fun rollout => rollout.2.group = group).map fun rollout =>
    rollout.2.reward

def Rollouts.byGroup (state : Rollouts) : List (Option Int × Nat) :=
  state.rollouts.map fun rollout => (rollout.2.group, rollout.2.position)

theorem Recorded.reward_getD (recorded : Recorded samples state)
    {rollout : RolloutKey × RolloutEntry} (member : rollout ∈ state.rollouts) :
    ((state.rollouts.map Prod.snd).map RolloutEntry.reward).getD rollout.2.position 0 =
      rollout.2.reward := by
  rcases List.mem_iff_getElem?.mp member with ⟨position, atPosition⟩
  rw [recorded.numbered position _ _ atPosition, List.getD_eq_getElem?_getD, List.map_map,
    List.getElem?_map, atPosition]
  rfl

theorem Recorded.rewardsOf_eq (recorded : Recorded samples state) (group : Option Int) :
    ((valuesAt group state.byGroup).map fun position =>
      ((state.rollouts.map Prod.snd).map RolloutEntry.reward).getD position 0) =
        state.rewardsOf group := by
  rw [valuesAt, Rollouts.byGroup, List.filter_map, List.map_map, List.map_map, Rollouts.rewardsOf]
  apply List.map_congr_left
  intro rollout member
  exact recorded.reward_getD (List.mem_filter.mp member).1

theorem Recorded.group_unique (recorded : Recorded samples state) {position : Nat}
    {left right : Option Int} (inLeft : (left, position) ∈ state.byGroup)
    (inRight : (right, position) ∈ state.byGroup) : left = right := by
  have located : ∀ {group : Option Int}, (group, position) ∈ state.byGroup →
      ∃ key entry, state.rollouts[position]? = some (key, entry) ∧
        RolloutEntry.group entry = group := by
    intro group member
    rcases List.mem_map.mp member with ⟨⟨key, entry⟩, inRollouts, isPair⟩
    rcases List.mem_iff_getElem?.mp inRollouts with ⟨index, atIndex⟩
    rcases Prod.mk.inj isPair with ⟨isGroup, isPosition⟩
    rw [← isPosition, recorded.numbered index key entry atIndex]
    exact ⟨key, entry, atIndex, isGroup⟩
  rcases located inLeft with ⟨leftKey, leftEntry, atLeft, isLeft⟩
  rcases located inRight with ⟨rightKey, rightEntry, atRight, isRight⟩
  rw [atLeft, Option.some.injEq, Prod.mk.injEq] at atRight
  rw [← isLeft, ← isRight, atRight.2]

theorem Recorded.positions_eq (recorded : Recorded samples state) :
    state.byGroup.map Prod.snd = List.range state.rollouts.length := by
  rw [Rollouts.byGroup, List.map_map]
  apply List.ext_getElem?
  intro position
  rw [List.getElem?_map]
  cases atPosition : state.rollouts[position]? with
  | none =>
      rw [List.getElem?_eq_none_iff] at atPosition
      rw [List.getElem?_eq_none (by rw [List.length_range]; exact atPosition)]
      rfl
  | some rollout =>
      have inside := (List.getElem?_eq_some_iff.mp atPosition).1
      rw [List.getElem?_range inside, Option.map_some, Function.comp_apply,
        recorded.numbered position _ _ atPosition]

theorem Recorded.groups_disjoint (recorded : Recorded samples state) :
    ((collect state.byGroup).map Prod.snd).Pairwise List.Disjoint := by
  have distinct := nodup_keys_collect state.byGroup
  rw [List.Nodup, List.pairwise_map] at distinct
  rw [List.pairwise_map]
  apply distinct.imp_of_mem
  rintro ⟨left, leftPositions⟩ ⟨right, rightPositions⟩ inLeft inRight different
  intro position atLeft atRight
  rw [eq_valuesAt_of_mem inLeft, mem_valuesAt] at atLeft
  rw [eq_valuesAt_of_mem inRight, mem_valuesAt] at atRight
  exact different (recorded.group_unique atLeft atRight)

theorem Recorded.valuesAt_nodup (recorded : Recorded samples state) (group : Option Int) :
    (valuesAt group state.byGroup).Nodup := by
  have all : (state.byGroup.map Prod.snd).Nodup := by
    rw [recorded.positions_eq]
    exact List.nodup_range
  exact all.sublist (List.filter_sublist.map Prod.snd)

theorem Recorded.position_lt (recorded : Recorded samples state) {group : Option Int}
    {position : Nat} (member : position ∈ valuesAt group state.byGroup) :
    position < state.rollouts.length := by
  rw [← List.mem_range, ← recorded.positions_eq]
  exact List.mem_map.mpr ⟨_, mem_valuesAt.mp member, rfl⟩

variable (std : List ℚ → ℚ) {args : RewardArgs}

/-- Every sample gets the reward of its rollout minus the mean of the recorded group. -/
theorem groupRelativeRewards_eq (unscaled : args.Unscaled)
    (grouped : ∀ sample ∈ samples, sample.groupIndex ≠ none)
    (returned : recordRollouts samples = .ok state) :
    groupRelativeRewards std args samples = .ok (samples.map fun sample =>
      sample.reward - mean (state.rewardsOf sample.groupIndex)) := by
  have recorded := recorded_of_recordRollouts returned
  have complete : ¬ ((samples.any fun sample => sample.groupIndex.isSome) = true ∧
      (samples.any fun sample => sample.groupIndex.isNone) = true) := by
    rintro ⟨_, missing⟩
    rcases List.any_eq_true.mp missing with ⟨sample, member, isNone⟩
    exact grouped sample member (Option.isNone_iff_eq_none.mp isNone)
  have byGroup : ((state.rollouts.map Prod.snd).map fun entry =>
      (groupOf args (samples.any fun sample => sample.groupIndex.isSome)
        (state.rollouts.map Prod.snd).length entry, entry.position)) = state.byGroup := by
    rw [List.map_map, Rollouts.byGroup]
    apply List.map_congr_left
    intro rollout member
    rcases recorded.supported _ (List.mem_map_of_mem member) with ⟨index, sample, atIndex, _⟩
    have inSamples : sample ∈ samples := List.mem_of_getElem? atIndex
    have hasGroups : (samples.any fun sample => sample.groupIndex.isSome) = true :=
      List.any_eq_true.mpr ⟨sample, inSamples, Option.isSome_iff_ne_none.mpr
        (grouped sample inSamples)⟩
    rw [Function.comp_apply, groupOf, if_pos hasGroups]
  have own : ∀ positions ∈ (collect state.byGroup).map Prod.snd,
      ∃ group, positions = valuesAt group state.byGroup := by
    intro positions member
    rcases List.mem_map.mp member with ⟨⟨group, values⟩, inTable, rfl⟩
    exact ⟨group, eq_valuesAt_of_mem inTable⟩
  have distinct : ∀ positions ∈ (collect state.byGroup).map Prod.snd, positions.Nodup := by
    intro positions member
    rcases own positions member with ⟨group, rfl⟩
    exact recorded.valuesAt_nodup group
  have inside : ∀ positions ∈ (collect state.byGroup).map Prod.snd, ∀ position ∈ positions,
      position < ((state.rollouts.map Prod.snd).map RolloutEntry.reward).length := by
    intro positions member position inPositions
    rcases own positions member with ⟨group, rfl⟩
    rw [List.length_map, List.length_map]
    exact recorded.position_lt inPositions
  rcases centreGroups_eq std unscaled recorded.groups_disjoint distinct inside with
    ⟨final, ran, centred, _⟩
  have read : state.sampleRollouts.mapM (itemAt final) = .ok (samples.map fun sample =>
      sample.reward - mean (state.rewardsOf sample.groupIndex)) := by
    rw [mapM_eq_ok, List.forall₂_map_right_iff, List.forall₂_iff_get]
    refine ⟨recorded.counted, ?_⟩
    intro index inRollouts inSamples
    rcases recorded.entered index (samples.get ⟨index, inSamples⟩)
      (List.getElem?_eq_getElem inSamples) with ⟨position, isPosition, isEntry⟩
    have found : state.sampleRollouts.get ⟨index, inRollouts⟩ = position := by
      rw [List.getElem?_eq_getElem inRollouts, Option.some.injEq] at isPosition
      exact isPosition
    have inTable : ((samples.get ⟨index, inSamples⟩).groupIndex, position) ∈ state.byGroup :=
      List.mem_map.mpr ⟨_, List.mem_of_getElem? isEntry, rfl⟩
    have isKey : (samples.get ⟨index, inSamples⟩).groupIndex ∈
        (collect state.byGroup).map Prod.fst :=
      mem_keys_collect.mpr (List.mem_map.mpr ⟨_, inTable, rfl⟩)
    rcases List.mem_map.mp isKey with ⟨⟨group, positions⟩, inCollected, rfl⟩
    have isValues := eq_valuesAt_of_mem inCollected
    have written := centred positions (List.mem_map.mpr ⟨_, inCollected, rfl⟩) position
      (by rw [isValues, mem_valuesAt]; exact inTable)
    have ownReward := recorded.reward_getD (List.mem_of_getElem? isEntry)
    dsimp only at ownReward
    rw [found, itemAt_eq_ok, written, centredAt, isValues, recorded.rewardsOf_eq, ownReward]
  rw [groupRelativeRewards, raiseIf, if_neg complete, ok_bind, returned, ok_bind]
  dsimp only
  rw [byGroup, ran, ok_bind, read]

end Groups

end Vime.Data
