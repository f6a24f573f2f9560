import Mathlib.Algebra.BigOperators.Field
import Mathlib.Algebra.BigOperators.Ring.List
import Mathlib.Tactic.FieldSimp
import Vime.Backends.MegatronUtils.Loss
import Vime.Data.BatchBuilder
import Vime.Utils.DpScheduleContract

/-! # The loss of a training step

Every rank reduces its micro-batches, scales each result, and the scaled losses are averaged.
Conversion, schedule, context-parallel slicing and scaling together leave the mean of the
rollouts of the step.
-/

namespace Vime.Backends.MegatronUtils

open Vime.Foundation Vime.Utils Vime.Data

/-! ## One step -/

def countTensor (counts : List Nat) : List Rat := counts.map fun count : Nat => (count : Rat)

/-- `[vals[i] for i in indices]` for the fields that the reducer reads. -/
def selectBatch (data : TrainData) (positions : List Nat) : LossBatch where
  totalLengths := positions.map fun position => data.totalLengths.getD position 0
  responseLengths := positions.map fun position => data.responseLengths.getD position 0
  lossMasks := positions.map fun position => countTensor (data.lossMasks.getD position [])
  rolloutMaskSums :=
    countTensor (positions.map fun position => data.rolloutMaskSums.getD position 0)

/-- The packed per-token quantity of a micro-batch on one rank; `x position` holds the values
of the response tokens of a sample. -/
def packedQuantity (config : TrainParallelConfig) (data : TrainData) (x : Nat → Nat → Rat)
    (cpRank : Nat) (positions : List Nat) : Except PyException (List Rat) := do
  let pieces ← positions.mapM fun position =>
    let responseLength := data.responseLengths.getD position 0
    sliceLogProbWithCp config.cpSize cpRank ((List.range responseLength).map (x position))
      (data.totalLengths.getD position 0) responseLength
  pure pieces.flatten

def microBatchLoss (config : TrainParallelConfig) (data : TrainData) (x : Nat → Nat → Rat)
    (numMicrobatches stepGlobalBatchSize cpRank : Nat) (positions : List Nat) :
    Except PyException Rat := do
  let packed ← packedQuantity config data x cpRank positions
  let scaled ← lossFunction config false cpRank (selectBatch data positions) numMicrobatches
    stepGlobalBatchSize fun reducer => reducer packed
  pure scaled.1

/-- The loss of a step: every micro-batch loss is divided by their number, and the ranks are
averaged. -/
def stepLoss (config : TrainParallelConfig) (data : TrainData) (schedule : DpSchedule)
    (x : Nat → Nat → Rat) (stepI : Nat) : Except PyException Rat := do
  let numMicrobatches := schedule.numMicrobatches.getD stepI 0
  let stepGlobalBatchSize := schedule.globalBatchSizes.getD stepI 0
  let losses ← (List.range config.dpSize).mapM fun dpRank =>
    (List.range config.cpSize).mapM fun cpRank =>
      (schedule.stepMicroBatches dpRank stepI).mapM
        (microBatchLoss config data x numMicrobatches stepGlobalBatchSize cpRank)
  let rankLoss (microBatches : List Rat) : Rat :=
    (microBatches.map fun loss : Rat => loss / (numMicrobatches : Rat)).sum
  pure ((losses.map fun cpRanks => (cpRanks.map rankLoss).sum).sum /
    (config.dpSize * config.cpSize : Nat))

/-! ## The rollouts of a step -/

def stepRollouts (globalBatchSize : Nat) (rolloutIds : List Int) (stepI : Nat) : List Int :=
  (rolloutIds.eraseDups.drop (stepI * globalBatchSize)).take globalBatchSize

def rolloutPositions (rolloutIds : List Int) (rid : Int) : List Nat :=
  (List.range rolloutIds.length).filter fun position => rolloutIds[position]? = some rid

def maskAt (samples : List TrainSample) (position : Nat) : List Nat :=
  (samples.map TrainSample.trainedMask).getD position []

def maskedSum (samples : List TrainSample) (x : Nat → Nat → Rat) (position : Nat) : Rat :=
  ∑ index ∈ Finset.range (maskAt samples position).length,
    (((maskAt samples position).getD index 0 : Nat) : Rat) * x position index

def rolloutMean (samples : List TrainSample) (x : Nat → Nat → Rat) (positions : List Nat) : Rat :=
  (positions.map (maskedSum samples x)).sum /
    max 1 (((positions.map fun position => (maskAt samples position).sum).sum : Nat) : Rat)

/-! ## One micro-batch -/

def SizedData (data : TrainData) : Prop :=
  ∀ position, (data.lossMasks.getD position []).length = data.responseLengths.getD position 0

section MicroBatch

variable {config : TrainParallelConfig} {data : TrainData} {x : Nat → Nat → Rat} {cpRank : Nat}

def heldSample (config : TrainParallelConfig) (data : TrainData) (x : Nat → Nat → Rat)
    (cpRank position : Nat) : HeldSample where
  indices := heldIndices config.cpSize cpRank (data.totalLengths.getD position 0)
    (data.responseLengths.getD position 0)
  x := x position
  lossMask := fun index =>
    (countTensor (data.lossMasks.getD position [])).getD index 0
  denom := ((data.rolloutMaskSums.getD position 0 : Nat) : Rat)

theorem packedQuantity_eq (isRank : cpRank < config.cpSize) (positions : List Nat) :
    packedQuantity config data x cpRank positions =
      .ok (positions.map fun position =>
        (heldSample config data x cpRank position).values).flatten := by
  rw [packedQuantity, mapM_eq_ok_map _ fun position =>
    (heldSample config data x cpRank position).values]
  · rw [ok_bind, pure_eq_ok]
  · intro position _
    dsimp only
    rw [sliceLogProbWithCp_eq_held isRank _ (by rw [List.length_map, List.length_range])]
    congr 1
    apply List.map_congr_left
    intro index member
    have inside := lt_of_mem_heldIndices member
    rw [List.getD_eq_getElem _ _ (by rwa [List.length_map, List.length_range]),
      List.getElem_map, List.getElem_range]
    rfl

theorem reducerMasks_eq (isRank : cpRank < config.cpSize) (sized : SizedData data)
    (positions : List Nat) :
    reducerMasks config.cpSize cpRank (selectBatch data positions) =
      .ok (positions.map fun position =>
          (heldSample config data x cpRank position).masks.length,
        positions.map fun position => (heldSample config data x cpRank position).masks) := by
  have maskLength (position : Nat) :
      (countTensor (data.lossMasks.getD position [])).length =
        data.responseLengths.getD position 0 := by
    rw [countTensor, List.length_map, sized position]
  rw [reducerMasks]
  by_cases single : config.cpSize = 1
  · have whole (position : Nat) : (heldSample config data x cpRank position).masks =
        countTensor (data.lossMasks.getD position []) := by
      rw [HeldSample.masks, heldSample, heldIndices, if_pos single, ← maskLength position]
      exact map_getD_range_eq _
    simp only [if_pos single, whole, maskLength, selectBatch]
  · rw [if_neg single]
    dsimp only [selectBatch]
    rw [List.zip_map', List.zip_map', mapM_map_eq_ok _ _ fun position =>
      (heldSample config data x cpRank position).masks]
    · rw [ok_bind, pure_eq_ok, List.map_map]
      rfl
    · intro position _
      dsimp only
      rw [chunkedLossMask_eq (by omega) (maskLength position),
        sliceLogProbWithCp_eq_held isRank _ (maskLength position)]
      rfl

theorem microBatchLoss_eq (isRank : cpRank < config.cpSize) (sized : SizedData data)
    (numMicrobatches stepGlobalBatchSize : Nat) (positions : List Nat) :
    microBatchLoss config data x numMicrobatches stepGlobalBatchSize cpRank positions =
      .ok ((positions.map fun position => (heldSample config data x cpRank position).mean).sum *
        numMicrobatches / stepGlobalBatchSize * (config.dpSize * config.cpSize : Nat)) := by
  have reduced := sumOfSampleMean_eq (positions.map (heldSample config data x cpRank))
  rw [List.map_map, List.map_map, List.map_map, List.map_map, List.map_map] at reduced
  rw [microBatchLoss, packedQuantity_eq isRank, ok_bind, lossFunction]
  rw [getSumOfSampleMean, reducerMasks_eq (x := x) isRank sized, ok_bind, pure_eq_ok, ok_bind]
  dsimp only
  rw [if_neg Bool.false_ne_true]
  have denoms : (selectBatch data positions).rolloutMaskSums =
      positions.map (HeldSample.denom ∘ heldSample config data x cpRank) := by
    dsimp only [selectBatch]
    rw [countTensor, List.map_map]
    rfl
  rw [denoms]
  simp only [Function.comp_def] at reduced ⊢
  rw [reduced, ok_bind, if_neg Bool.false_ne_true, pure_eq_ok, ok_bind, pure_eq_ok]

theorem sum_mean_heldSample (cpPositive : 0 < config.cpSize) {position : Nat}
    (keeps : KeepsResponse config.cpSize (data.responseLengths.getD position 0)
      (data.totalLengths.getD position 0)) :
    ((List.range config.cpSize).map fun cpRank =>
        (heldSample config data x cpRank position).mean).sum =
      (∑ index ∈ Finset.range (data.responseLengths.getD position 0),
          x position index * (heldSample config data x 0 position).lossMask index) /
        max ((data.rolloutMaskSums.getD position 0 : Nat) : Rat) 1 := by
  rw [← keeps.sum_heldIndices cpPositive fun index =>
    x position index * (heldSample config data x 0 position).lossMask index, Finset.sum_div]
  rfl

end MicroBatch

/-! ## Summing over the step -/

section Sums

theorem sum_map_flatten (term : α → Rat) (groups : List (List α)) :
    (groups.map fun group => (group.map term).sum).sum = (groups.flatten.map term).sum := by
  induction groups with
  | nil => rfl
  | cons group rest induction =>
      rw [List.map_cons, List.sum_cons, induction, List.flatten_cons, List.map_append,
        List.sum_append]

theorem sum_map_comm (term : α → β → Rat) (left : List α) (right : List β) :
    (left.map fun item => (right.map (term item)).sum).sum =
      (right.map fun other => (left.map fun item => term item other).sum).sum := by
  induction left with
  | nil => simp
  | cons item rest induction =>
      simp only [List.map_cons, List.sum_cons]
      rw [induction, List.sum_map_add]

theorem sum_map_div (term : α → Rat) (items : List α) (divisor : Rat) :
    (items.map term).sum / divisor = (items.map fun item => term item / divisor).sum := by
  simp only [div_eq_mul_inv]
  rw [List.sum_map_mul_right]

end Sums

section Step

variable {config : TrainParallelConfig} {data : TrainData} {schedule : DpSchedule}
  {x : Nat → Nat → Rat} {stepI : Nat}

def sampleShare (data : TrainData) (x : Nat → Nat → Rat) (position : Nat) : Rat :=
  (∑ index ∈ Finset.range (data.responseLengths.getD position 0), x position index *
      (countTensor (data.lossMasks.getD position [])).getD index 0) /
    max ((data.rolloutMaskSums.getD position 0 : Nat) : Rat) 1

theorem scaling_cancels {numMicrobatches worldSize : Nat} (someMbs : numMicrobatches ≠ 0)
    (someRanks : worldSize ≠ 0) (loss stepGlobalBatchSize : Rat) :
    loss * numMicrobatches / stepGlobalBatchSize * worldSize / numMicrobatches / worldSize =
      loss / stepGlobalBatchSize := by
  have mbsCast : (numMicrobatches : Rat) ≠ 0 := Nat.cast_ne_zero.mpr someMbs
  have ranksCast : (worldSize : Rat) ≠ 0 := Nat.cast_ne_zero.mpr someRanks
  rw [div_div, div_eq_iff (mul_ne_zero mbsCast ranksCast)]
  ring

def scaledLoss (config : TrainParallelConfig) (data : TrainData) (x : Nat → Nat → Rat)
    (numMicrobatches stepGlobalBatchSize cpRank : Nat) (positions : List Nat) : Rat :=
  (positions.map fun position => (heldSample config data x cpRank position).mean).sum *
    numMicrobatches / stepGlobalBatchSize * (config.dpSize * config.cpSize : Nat)

theorem sum_scaledLoss (cpPositive : 0 < config.cpSize) (dpPositive : 0 < config.dpSize)
    {microBatches : List (List Nat)} {numMicrobatches : Nat}
    (synced : microBatches.length = numMicrobatches) (stepGlobalBatchSize : Nat)
    (keeps : ∀ position ∈ microBatches.flatten,
      KeepsResponse config.cpSize (data.responseLengths.getD position 0)
        (data.totalLengths.getD position 0)) :
    ((List.range config.cpSize).map fun cpRank =>
        (((microBatches.map (scaledLoss config data x numMicrobatches stepGlobalBatchSize
          cpRank)).map fun loss : Rat => loss / (numMicrobatches : Rat)).sum)).sum /
        (config.dpSize * config.cpSize : Nat) =
      (microBatches.flatten.map (sampleShare data x)).sum / (stepGlobalBatchSize : Rat) := by
  have worldPositive : config.dpSize * config.cpSize ≠ 0 :=
    Nat.mul_ne_zero (Nat.ne_of_gt dpPositive) (Nat.ne_of_gt cpPositive)
  have rankLoss (cpRank : Nat) :
      ((microBatches.map (scaledLoss config data x numMicrobatches stepGlobalBatchSize
          cpRank)).map fun loss : Rat => loss / (numMicrobatches : Rat)).sum /
          (config.dpSize * config.cpSize : Nat) =
        (microBatches.flatten.map fun position =>
          (heldSample config data x cpRank position).mean).sum / (stepGlobalBatchSize : Rat) := by
    rw [← sum_map_flatten, sum_map_div, sum_map_div, List.map_map]
    congr 1
    apply List.map_congr_left
    intro positions member
    have someMbs : numMicrobatches ≠ 0 := by
      rw [← synced]
      exact Nat.ne_of_gt (List.length_pos_of_mem member)
    exact scaling_cancels someMbs worldPositive _ _
  rw [sum_map_div]
  simp only [rankLoss]
  rw [← sum_map_div, sum_map_comm]
  congr 2
  apply List.map_congr_left
  intro position member
  exact sum_mean_heldSample cpPositive (keeps position member)

theorem stepLoss_eq_shares (cpPositive : 0 < config.cpSize) (sized : SizedData data)
    (synced : ∀ dpRank < config.dpSize,
      (schedule.stepMicroBatches dpRank stepI).length = schedule.numMicrobatches.getD stepI 0)
    (keeps : ∀ dpRank < config.dpSize,
      ∀ position ∈ (schedule.stepMicroBatches dpRank stepI).flatten,
        KeepsResponse config.cpSize (data.responseLengths.getD position 0)
          (data.totalLengths.getD position 0)) :
    stepLoss config data schedule x stepI =
      .ok ((((List.range config.dpSize).flatMap fun dpRank =>
        (schedule.stepMicroBatches dpRank stepI).flatten).map (sampleShare data x)).sum /
          (schedule.globalBatchSizes.getD stepI 0 : Nat)) := by
  rw [stepLoss]
  dsimp only
  rw [mapM_eq_ok_map _ fun dpRank => (List.range config.cpSize).map fun cpRank =>
    (schedule.stepMicroBatches dpRank stepI).map (scaledLoss config data x
      (schedule.numMicrobatches.getD stepI 0) (schedule.globalBatchSizes.getD stepI 0) cpRank)]
  · rw [ok_bind, pure_eq_ok, List.map_map, sum_map_div, List.flatMap_def, ← sum_map_flatten,
      List.map_map, sum_map_div]
    congr 2
    apply List.map_congr_left
    intro dpRank member
    have isRank := List.mem_range.mp member
    rw [Function.comp_apply, List.map_map]
    exact sum_scaledLoss cpPositive (Nat.zero_lt_of_lt isRank) (synced dpRank isRank) _
      (keeps dpRank isRank)
  · intro dpRank _
    apply mapM_eq_ok_map
    intro cpRank isRank
    apply mapM_eq_ok_map
    intro positions _
    exact microBatchLoss_eq (List.mem_range.mp isRank) sized _ _ positions

end Step

/-! ## Converted samples -/

section Converted

variable {samples : List TrainSample} {data : TrainData}

theorem sizedData_of_convert (converted : convert samples = .ok data) : SizedData data := by
  rcases convert_eq_ok converted with ⟨lengths, rfl⟩
  intro position
  dsimp only
  by_cases inside : position < samples.length
  · rw [List.getD_eq_getElem _ _ (by rwa [List.length_map]),
      List.getD_eq_getElem _ _ (by rwa [List.length_map]), List.getElem_map, List.getElem_map]
    exact lengths _ (List.getElem_mem inside)
  · rw [List.getD_eq_default _ _ (by rw [List.length_map]; omega),
      List.getD_eq_default _ _ (by rw [List.length_map]; omega)]
    rfl

theorem keeps_of_convert {cpSize : Nat} (converted : convert samples = .ok data)
    (keeps : ∀ sample ∈ samples, KeepsResponse cpSize sample.responseLength sample.totalLength)
    {position : Nat} (inside : position < samples.length) :
    KeepsResponse cpSize (data.responseLengths.getD position 0)
      (data.totalLengths.getD position 0) := by
  rcases convert_eq_ok converted with ⟨_, rfl⟩
  dsimp only
  rw [List.getD_eq_getElem _ _ (by rwa [List.length_map]),
    List.getD_eq_getElem _ _ (by rwa [List.length_map]), List.getElem_map, List.getElem_map]
  exact keeps _ (List.getElem_mem inside)

theorem countTensor_getD (counts : List Nat) (index : Nat) :
    (countTensor counts).getD index 0 = ((counts.getD index 0 : Nat) : Rat) := by
  rw [countTensor, ← Nat.cast_zero]
  exact List.getD_map _ _ _

theorem mem_rolloutPositions {rolloutIds : List Int} {rid : Int} {position : Nat} :
    position ∈ rolloutPositions rolloutIds rid ↔ rolloutIds[position]? = some rid := by
  rw [rolloutPositions, List.mem_filter, List.mem_range, decide_eq_true_eq]
  constructor
  · exact And.right
  · intro isSample
    exact ⟨(List.getElem?_eq_some_iff.mp isSample).1, isSample⟩

theorem map_snd_filter_zip (rolloutIds : List Int) (values : List Nat)
    (sameLength : values.length = rolloutIds.length) (rid : Int) :
    ((rolloutIds.zip values).filter (·.1 = rid)).map Prod.snd =
      (rolloutPositions rolloutIds rid).map fun position => values.getD position 0 := by
  have asRange : rolloutIds.zip values =
      (List.range rolloutIds.length).map fun position =>
        (rolloutIds.getD position 0, values.getD position 0) := by
    apply List.ext_getElem
    · rw [List.length_zip, sameLength, Nat.min_self, List.length_map, List.length_range]
    · intro position inZip inRange
      rw [List.length_map, List.length_range] at inRange
      rw [List.getElem_zip, List.getElem_map, List.getElem_range,
        List.getD_eq_getElem _ _ inRange, List.getD_eq_getElem _ _ (by rwa [sameLength])]
  rw [asRange, List.filter_map, List.map_map, rolloutPositions]
  congr 1
  apply List.filter_congr
  intro position member
  rw [Function.comp_apply, decide_eq_decide, List.getElem?_eq_getElem (List.mem_range.mp member),
    Option.some.injEq, List.getD_eq_getElem _ _ (List.mem_range.mp member)]

theorem rolloutMaskSums_of_convert (converted : convert samples = .ok data) {position : Nat}
    {rid : Int} (isSample : data.rolloutIds[position]? = some rid) :
    data.rolloutMaskSums.getD position 0 =
      ((rolloutPositions data.rolloutIds rid).map fun position =>
        (maskAt samples position).sum).sum := by
  rcases convert_eq_ok converted with ⟨_, rfl⟩
  dsimp only at isSample ⊢
  rcases List.getElem?_eq_some_iff.mp isSample with ⟨inside, ridEq⟩
  rw [List.getD_eq_getElem _ _ (by rwa [List.length_map]), List.getElem_map, ridEq,
    rolloutTotalMask_apply, map_snd_filter_zip]
  · congr 1
    apply List.map_congr_left
    intro other _
    rw [maskAt, ← List.getD_map (f := List.sum), List.map_map]
    rfl
  · rw [List.length_map, length_rolloutIdsOf]

theorem sampleShare_of_convert (converted : convert samples = .ok data) (x : Nat → Nat → Rat)
    {position : Nat} {rid : Int} (isSample : data.rolloutIds[position]? = some rid) :
    sampleShare data x position = maskedSum samples x position /
      max 1 ((((rolloutPositions data.rolloutIds rid).map fun position =>
        (maskAt samples position).sum).sum : Nat) : Rat) := by
  have masksEq : data.lossMasks.getD position [] = maskAt samples position := by
    rcases convert_eq_ok converted with ⟨_, rfl⟩
    rfl
  rw [sampleShare, rolloutMaskSums_of_convert converted isSample, max_comm, maskedSum,
    ← sizedData_of_convert converted position, masksEq]
  congr 1
  apply Finset.sum_congr rfl
  intro index _
  rw [countTensor_getD, mul_comm]

theorem sum_sampleShare (converted : convert samples = .ok data) (x : Nat → Nat → Rat)
    (rid : Int) :
    ((samplesOf (rolloutIdToSamples data.rolloutIds) rid).map (sampleShare data x)).sum =
      rolloutMean samples x (rolloutPositions data.rolloutIds rid) := by
  have spec := samplesOf_rolloutIdToSamples data.rolloutIds rid
  have samplesPerm : (samplesOf (rolloutIdToSamples data.rolloutIds) rid).Perm
      (rolloutPositions data.rolloutIds rid) := by
    apply (List.perm_ext_iff_of_nodup spec.1 (List.nodup_range.filter _)).mpr
    intro position
    exact (spec.2 position).trans mem_rolloutPositions.symm
  rw [(samplesPerm.map _).sum_eq, rolloutMean, sum_map_div]
  congr 1
  apply List.map_congr_left
  intro position member
  exact sampleShare_of_convert converted x (mem_rolloutPositions.mp member)

end Converted

/-- Where no slice loses a response token, the loss of a step is the mean over its rollouts of
their token-weighted means, whatever the schedule; samples share a rollout exactly if they came
with one id. -/
theorem stepLoss_eq_rolloutMeans (W : Type) [Number W] (args : DpScheduleArgs)
    (config : TrainParallelConfig) (cpPositive : 0 < config.cpSize) (globalBatchSize : Nat)
    (samples : List TrainSample)
    (keeps : ∀ sample ∈ samples, config.cpSize = 1 ∨ sample.responseLength = 0 ∨
      sample.responseLength < sample.totalLength)
    (x : Nat → Nat → Rat) (data : TrainData)
    (converted : convert samples = .ok data) (schedule : DpSchedule)
    (scheduled : buildDpSchedule W args config data.totalLengths globalBatchSize
      data.rolloutIds = .ok schedule) :
    (∀ left < samples.length, ∀ right < samples.length,
      (data.rolloutIds[left]? = data.rolloutIds[right]? ↔
        SameRollout (samples.map TrainSample.givenId) left right)) ∧
    ∀ stepI stepGlobalBatchSize : Nat, schedule.globalBatchSizes[stepI]? = some stepGlobalBatchSize →
      stepLoss config data schedule x stepI =
        .ok (1 / (stepGlobalBatchSize : Rat) *
          ((stepRollouts globalBatchSize data.rolloutIds stepI).map fun rid =>
            rolloutMean samples x (rolloutPositions data.rolloutIds rid)).sum) := by
  have idsEq : data.rolloutIds = rolloutIdsOf samples := by
    rcases convert_eq_ok converted with ⟨_, rfl⟩
    rfl
  constructor
  · intro left leftInside right rightInside
    rw [idsEq]
    exact rolloutIdsOf_eq_iff samples leftInside rightInside
  · intro stepI stepGlobalBatchSize sizeEq
    rcases buildDpSchedule_carriesOut scheduled with ⟨_, plans, state, rfl, allSteps, carries⟩
    have isStep : stepI < plans.length := by
      have inside := (List.getElem?_eq_some_iff.mp sizeEq).1
      rwa [ScheduleState.schedule, carries.batchSizes, List.length_replicate] at inside
    have stepPerm := carries.step_perm isStep
    rw [stepLoss_eq_shares cpPositive (sizedData_of_convert converted)]
    · congr 1
      rw [(stepPerm.map _).sum_eq, stepSampleIndices_eq, List.flatMap_def, ← sum_map_flatten,
        List.map_map, List.getD_eq_getElem?_getD, sizeEq, Option.getD_some, one_div_mul_eq_div,
        stepRollouts]
      congr 2
      apply List.map_congr_left
      intro rid _
      exact sum_sampleShare converted x rid
    · intro dpRank isRank
      exact carries.stepMicroBatches_length isRank isStep
    · intro dpRank isRank position member
      apply keeps_of_convert converted keeps
      have inStep := stepPerm.mem_iff.mp (List.mem_flatMap.mpr
        ⟨dpRank, List.mem_range.mpr isRank, member⟩)
      rw [stepSampleIndices_eq, List.mem_flatMap] at inStep
      rcases inStep with ⟨rid, _, isSample⟩
      have found := ((samplesOf_rolloutIdToSamples data.rolloutIds rid).2 position).mp isSample
      have inside := (List.getElem?_eq_some_iff.mp found).1
      rwa [idsEq, length_rolloutIdsOf] at inside

def mixedSamples : List TrainSample :=
  [{ totalLength := 5, responseLength := 3, rolloutId := some 7 },
    { totalLength := 4, responseLength := 2 },
    { totalLength := 6, responseLength := 4, rolloutId := some 7,
      lossMask := some [1, 0, 0, 1] },
    { totalLength := 3, responseLength := 1, removeSample := true }]

def mixedData : TrainData where
  totalLengths := [5, 4, 6, 3]
  responseLengths := [3, 2, 4, 1]
  rolloutIds := [7, 0, 7, 1]
  lossMasks := [[1, 1, 1], [1, 1], [1, 0, 0, 1], [0]]
  rolloutMaskSums := [5, 2, 5, 0]

def mixedSchedule : DpSchedule where
  partitions := [[0, 1], [2, 3]]
  microBatchIndices := [[[0], [1]], [[0], [1]]]
  numMicrobatches := [2]
  globalBatchSizes := [3]

theorem stepLoss_mixedSamples :
    stepLoss { dpSize := 2, cpSize := 2 } mixedData mixedSchedule
      (fun position index => position + index) 0 =
      .ok (1 / (3 : Nat) * ((stepRollouts 3 mixedData.rolloutIds 0).map fun rid =>
        rolloutMean mixedSamples (fun position index => position + index)
          (rolloutPositions mixedData.rolloutIds rid)).sum) :=
  (stepLoss_eq_rolloutMeans Rat
    { useDynamicBatchSize := true, maxTokensPerGpu := some 4, flops := denseModel }
    { dpSize := 2, cpSize := 2 } (by decide) 3 mixedSamples (by decide) _ mixedData (by rfl)
    mixedSchedule (by rfl)).2 0 3 rfl

def promptless : TrainSample where
  totalLength := 2
  responseLength := 2

def promptlessData : TrainData where
  totalLengths := [2]
  responseLengths := [2]
  rolloutIds := [0]
  lossMasks := [[1, 1]]
  rolloutMaskSums := [2]

def promptlessSchedule : DpSchedule where
  partitions := [[0]]
  microBatchIndices := [[[0]]]
  numMicrobatches := [1]
  globalBatchSizes := [1]

/-- Without a prompt the first response token is on neither of two context-parallel ranks. -/
theorem stepLoss_promptless :
    convert [promptless] = .ok promptlessData ∧
    buildDpSchedule Rat
        { useDynamicBatchSize := false, microBatchSize := some 1, flops := denseModel }
        { dpSize := 1, cpSize := 2 } promptlessData.totalLengths 1 promptlessData.rolloutIds =
      .ok promptlessSchedule ∧
    stepLoss { dpSize := 1, cpSize := 2 } promptlessData promptlessSchedule (fun _ _ => 1) 0 ≠
      .ok (1 / (1 : Nat) * ((stepRollouts 1 promptlessData.rolloutIds 0).map fun rid =>
        rolloutMean [promptless] (fun _ _ => 1)
          (rolloutPositions promptlessData.rolloutIds rid)).sum) := by
  have half : stepLoss { dpSize := 1, cpSize := 2 } promptlessData promptlessSchedule
      (fun _ _ => 1) 0 = .ok (1 / 2) := by decide +kernel
  refine ⟨by rfl, by rfl, ?_⟩
  rw [half]
  intro same
  exact absurd (Except.ok.inj same) (by decide +kernel)

end Vime.Backends.MegatronUtils
