import Mathlib.Algebra.BigOperators.Group.List.Lemmas
import Mathlib.Data.List.GetD
import Vime.Utils.DpSchedule
import Vime.Utils.Packing

/-! # The schedule contract

Every step of the schedule carries out a plan: for each rank a list of micro-batches of
samples. The contract of the whole schedule follows from the plans of its steps.
-/

namespace Vime.Utils

open Vime.Foundation

/-! ## Grouping by rollout -/

theorem samplesOf_recordSample (rid other : Int) (samplePos : Nat) :
    ∀ table : List (Int × List Nat),
      samplesOf (recordSample rid samplePos table) other =
        if other = rid then samplesOf table other ++ [samplePos] else samplesOf table other
  | [] => by
      by_cases same : other = rid
      · simp [recordSample, samplesOf, same]
      · simp [recordSample, samplesOf, same, List.lookup_cons, beq_eq_false_iff_ne.mpr same]
  | (key, positions) :: rest => by
      have later := samplesOf_recordSample rid other samplePos rest
      rw [recordSample]
      by_cases found : key = rid
      · subst found
        rw [if_pos rfl]
        by_cases same : other = key
        · simp [samplesOf, same]
        · simp [samplesOf, same, List.lookup_cons, beq_eq_false_iff_ne.mpr same]
      · rw [if_neg found]
        by_cases same : other = key
        · subst same
          simp [samplesOf, found]
        · have skip (values : List (Int × List Nat)) :
              samplesOf ((key, positions) :: values) other = samplesOf values other := by
            simp [samplesOf, List.lookup_cons, beq_eq_false_iff_ne.mpr same]
          rw [skip, skip, later]

theorem keys_recordSample (rid : Int) (samplePos : Nat) :
    ∀ table : List (Int × List Nat),
      (recordSample rid samplePos table).map Prod.fst =
        if rid ∈ table.map Prod.fst then table.map Prod.fst
        else table.map Prod.fst ++ [rid]
  | [] => by simp [recordSample]
  | (key, positions) :: rest => by
      have later := keys_recordSample rid samplePos rest
      rw [recordSample]
      by_cases found : key = rid
      · subst found
        simp
      · rw [if_neg found, List.map_cons, later, List.map_cons]
        by_cases member : rid ∈ rest.map Prod.fst
        · rw [if_pos member, if_pos (List.mem_cons_of_mem _ member)]
        · rw [if_neg member, if_neg (by simp [Ne.symm found, member]), List.cons_append]

theorem rolloutIdToSamples_concat (rolloutIndices : List Int) (rid : Int) :
    rolloutIdToSamples (rolloutIndices ++ [rid]) =
      recordSample rid rolloutIndices.length (rolloutIdToSamples rolloutIndices) := by
  rw [rolloutIdToSamples, List.zipIdx_append, List.foldl_append, rolloutIdToSamples]
  simp

theorem eraseDups_concat (values : List Int) (value : Int) :
    (values ++ [value]).eraseDups =
      if value ∈ values then values.eraseDups else values.eraseDups ++ [value] := by
  rw [List.eraseDups_append]
  by_cases member : value ∈ values
  · rw [if_pos member]
    simp [List.removeAll, member]
  · rw [if_neg member]
    simp [List.removeAll, member, List.eraseDups_cons]

theorem keys_rolloutIdToSamples (rolloutIndices : List Int) :
    (rolloutIdToSamples rolloutIndices).map Prod.fst = rolloutIndices.eraseDups := by
  induction rolloutIndices using List.reverseRecOn with
  | nil => rfl
  | append_singleton before rid induction =>
      rw [rolloutIdToSamples_concat, keys_recordSample, induction, eraseDups_concat]
      simp only [List.mem_eraseDups]

theorem nodup_eraseDups (values : List Int) : values.eraseDups.Nodup := by
  induction values using List.reverseRecOn with
  | nil => exact List.nodup_nil
  | append_singleton before value induction =>
      rw [eraseDups_concat]
      by_cases member : value ∈ before
      · rwa [if_pos member]
      · rw [if_neg member]
        apply List.Nodup.append induction (List.nodup_singleton value)
        intro other inBefore isValue
        rw [List.mem_singleton.mp isValue, List.mem_eraseDups] at inBefore
        exact member inBefore

theorem samplesOf_rolloutIdToSamples (rolloutIndices : List Int) (rid : Int) :
    (samplesOf (rolloutIdToSamples rolloutIndices) rid).Nodup ∧
      ∀ position, position ∈ samplesOf (rolloutIdToSamples rolloutIndices) rid ↔
        rolloutIndices[position]? = some rid := by
  induction rolloutIndices using List.reverseRecOn with
  | nil => simp [rolloutIdToSamples, samplesOf]
  | append_singleton before other induction =>
      rw [rolloutIdToSamples_concat, samplesOf_recordSample]
      have fresh : before.length ∉ samplesOf (rolloutIdToSamples before) rid := by
        intro member
        have found := (induction.2 before.length).mp member
        simp at found
      by_cases same : rid = other
      · subst same
        rw [if_pos rfl]
        constructor
        · apply List.Nodup.append induction.1 (List.nodup_singleton _)
          intro position inBefore isLast
          rw [List.mem_singleton.mp isLast] at inBefore
          exact fresh inBefore
        · intro position
          rw [List.mem_append, List.mem_singleton, induction.2, List.getElem?_append]
          grind
      · rw [if_neg same]
        refine ⟨induction.1, fun position => ?_⟩
        rw [induction.2, List.getElem?_append]
        grind

/-! ## The plan of a step -/

abbrev Plan := List (List (List Nat))

def sampleTokens (totalLengths mbs : List Nat) : Nat :=
  (mbs.map fun position => totalLengths.getD position 0).sum

/-- A plan places the samples of a step with the same count of micro-batches on every
rank. -/
structure ValidPlan (args : DpScheduleArgs) (config : TrainParallelConfig)
    (totalLengths samples : List Nat) (count : Nat) (plan : Plan) : Prop where
  ranks : plan.length = config.dpSize
  synced : ∀ microBatches ∈ plan, microBatches.length = count
  covers : plan.flatten.flatten.Perm samples
  nonempty : (∀ length ∈ totalLengths, 0 < length) → ∀ mbs ∈ plan.flatten, mbs ≠ []
  grouped : mbGroup config ∣ count
  capped : args.useDynamicBatchSize = true → args.balanceByFlops = false →
    ∀ maxTokensPerGpu, args.maxTokensPerGpu = some maxTokensPerGpu →
      ∀ mbs ∈ plan.flatten,
        maxTokensPerGpu * config.cpSize < sampleTokens totalLengths mbs → mbs.length = 1

def RankSchedule.ofMicroBatches (microBatches : List (List Nat)) : RankSchedule where
  partition := microBatches.flatten
  microBatches := tile 0 microBatches

theorem RankSchedule.addMbs_ofMicroBatches (sampleIndices : List Nat)
    (stepMbs : List (List Nat)) (microBatches : List (List Nat)) (mbsIdx : Nat) :
    (RankSchedule.ofMicroBatches microBatches).addMbs sampleIndices stepMbs mbsIdx =
      RankSchedule.ofMicroBatches (microBatches ++
        [(stepMbs.getD mbsIdx []).map fun i => sampleIndices.getD i 0]) := by
  rw [RankSchedule.addMbs, RankSchedule.ofMicroBatches, RankSchedule.ofMicroBatches,
    tile_append, pyRange_one]
  simp

theorem RankSchedule.foldl_addMbs (sampleIndices : List Nat) (stepMbs : List (List Nat)) :
    ∀ (indices : List Nat) (microBatches : List (List Nat)),
      indices.foldl (RankSchedule.addMbs sampleIndices stepMbs)
          (RankSchedule.ofMicroBatches microBatches) =
        RankSchedule.ofMicroBatches (microBatches ++ indices.map fun mbsIdx =>
          (stepMbs.getD mbsIdx []).map fun i => sampleIndices.getD i 0)
  | [], microBatches => by simp
  | mbsIdx :: rest, microBatches => by
      rw [List.foldl_cons, RankSchedule.addMbs_ofMicroBatches, RankSchedule.foldl_addMbs,
        List.append_assoc, List.map_cons, List.singleton_append]

section Steps

variable {W : Type} [Number W] {order : HeapOrder W} {args : DpScheduleArgs}
  {config : TrainParallelConfig}

theorem packByFlops_spec {stepLengths : List Nat} {cap : Nat} {packed : List (List Nat)}
    (returned : packByFlops W stepLengths args cap = .ok packed) :
    Packs stepLengths.length packed ∧ ∀ bin ∈ packed, bin ≠ [] := by
  rw [packByFlops, raiseIf_bind_eq_ok] at returned
  rcases returned with ⟨_, returned⟩
  dsimp only at returned
  by_cases few : max 1 ((stepLengths.sum + cap - 1) / cap) ≥ stepLengths.length
  · rw [if_pos few, pure_eq_ok, Except.ok.injEq] at returned
    subst returned
    refine ⟨packs_singletons stepLengths.length, ?_⟩
    intro bin member
    rcases List.mem_map.mp member with ⟨index, _, rfl⟩
    exact List.cons_ne_nil index []
  · rw [if_neg few] at returned
    rcases bind_eq_ok.mp returned with ⟨workloads, workloadsEq, balanced⟩
    have spec := getSeqlenBalancedPartitionsIn_spec HeapOrder.least balanced
    rw [calculateWorkloads, mapM_eq_ok] at workloadsEq
    rw [← workloadsEq.length_eq] at spec
    exact ⟨spec.2.1, spec.2.2.1⟩

theorem packFixedSize_spec {count microBatchSize : Nat} {packed : List (List Nat)}
    (returned : packFixedSize count microBatchSize = .ok packed) :
    Packs count packed ∧ ∀ bin ∈ packed, bin ≠ [] := by
  rw [packFixedSize, raiseIf_bind_eq_ok, pure_eq_ok, Except.ok.injEq] at returned
  rcases returned with ⟨positive, packedEq⟩
  subst packedEq
  simp only [pyRange_one]
  refine ⟨packs_chunks (Nat.pos_of_ne_zero positive), ?_⟩
  intro bin member
  rcases List.mem_map.mp member with ⟨start, inRange, rfl⟩
  rcases List.mem_range'.mp inRange with ⟨turn, bounded, startEq⟩
  -- A chunk is opened only before the end of the step.
  have inside : start < count := by
    have upper := (Nat.lt_div_iff_mul_lt (Nat.pos_of_ne_zero positive)).mp bounded
    rw [startEq, Nat.mul_comm]
    omega
  rw [Ne, List.range'_eq_nil_iff]
  omega

theorem packStepIntoMbs_spec {stepLengths : List Nat} {cap : Option Nat}
    {packed : List (List Nat)}
    (returned : packStepIntoMbs W stepLengths args cap = .ok packed) :
    Packs stepLengths.length packed ∧ ∀ bin ∈ packed, bin ≠ [] := by
  rw [packStepIntoMbs.eq_def] at returned
  by_cases dynamic : args.useDynamicBatchSize = true
  · rw [if_pos dynamic] at returned
    cases cap with
    | none => cases returned
    | some cap =>
        dsimp only at returned
        by_cases byFlops : args.balanceByFlops = true
        · rw [if_pos byFlops] at returned
          exact packByFlops_spec returned
        · rw [if_neg byFlops, Except.ok.injEq] at returned
          subst returned
          exact ⟨firstFitPack_packs stepLengths cap,
            fun bin member => (firstFitPack_bins stepLengths cap bin member).1⟩
  · rw [if_neg dynamic] at returned
    cases sizeEq : args.microBatchSize with
    | none =>
        rw [sizeEq] at returned
        cases returned
    | some microBatchSize =>
        rw [sizeEq] at returned
        exact packFixedSize_spec returned

theorem packStepIntoMbs_capped {stepLengths : List Nat} {cap : Nat}
    {packed : List (List Nat)} (dynamic : args.useDynamicBatchSize = true)
    (notByFlops : args.balanceByFlops = false)
    (returned : packStepIntoMbs W stepLengths args (some cap) = .ok packed) :
    ∀ bin ∈ packed, Capped cap stepLengths bin := by
  rw [packStepIntoMbs, if_pos dynamic] at returned
  rw [if_neg (by simp [notByFlops]), Except.ok.injEq] at returned
  subst returned
  exact fun bin member => (firstFitPack_bins stepLengths cap bin member).2

/-- Aligning keeps the packing and makes the count a positive multiple. -/
theorem alignMbs_spec {stepI : Nat} {stepLengths : List Nat}
    {stepMbs aligned : List (List Nat)}
    (packs : Packs stepLengths.length stepMbs) (nonempty : ∀ bin ∈ stepMbs, bin ≠ [])
    (returned : alignMbs args config stepI stepLengths stepMbs = .ok aligned) :
    (Packs stepLengths.length aligned ∧
      ((∀ index < stepLengths.length, 0 < lengthAt stepLengths index) →
        ∀ bin ∈ aligned, bin ≠ [])) ∧
      (alignTo config ∣ aligned.length ∧ 0 < aligned.length) ∧
      ∀ cap, (∀ bin ∈ stepMbs, Capped cap stepLengths bin) →
        ∀ bin ∈ aligned, Capped cap stepLengths bin := by
  rw [alignMbs, raiseIf_bind_eq_ok] at returned
  rcases returned with ⟨alignPositive, returned⟩
  generalize targetEq : max ((stepMbs.length + alignTo config - 1) / alignTo config *
    alignTo config) (alignTo config) = targetK at returned
  have multiple : alignTo config ∣ targetK ∧ 0 < targetK := by
    rw [← targetEq]
    constructor
    · rcases max_choice ((stepMbs.length + alignTo config - 1) / alignTo config *
        alignTo config) (alignTo config) with first | second
      · rw [first]
        exact Nat.dvd_mul_left _ _
      · rw [second]
    · exact lt_of_lt_of_le (Nat.pos_of_ne_zero alignPositive) (le_max_right _ _)
  by_cases reached : targetK = stepMbs.length
  · rw [if_pos reached, pure_eq_ok, Except.ok.injEq] at returned
    subst returned
    rw [reached] at multiple
    exact ⟨⟨packs, fun _ => nonempty⟩, multiple, fun _ capped => capped⟩
  · rw [if_neg reached] at returned
    by_cases dynamic : args.useDynamicBatchSize = true
    · rw [if_pos dynamic, raiseIf_bind_eq_ok, pure_eq_ok, Except.ok.injEq] at returned
      rcases returned with ⟨reachesTarget, expandedEq⟩
      subst expandedEq
      rw [← not_not.mp reachesTarget] at multiple
      exact ⟨⟨expandBinsBySplitting_packs packs targetK stepLengths,
          fun positive => expandBinsBySplitting_nonempty positive packs nonempty targetK⟩,
        multiple, fun _ capped => expandBinsBySplitting_capped capped targetK⟩
    · rw [if_neg dynamic] at returned
      cases returned

theorem distributeMbsIn_spec {stepLengths : List Nat} {stepMbs rankMbsIdx : List (List Nat)}
    (divides : config.dpSize ∣ stepMbs.length) (someMbs : 0 < stepMbs.length)
    (returned : distributeMbsIn W order args config stepLengths stepMbs = .ok rankMbsIdx) :
    rankMbsIdx.length = config.dpSize ∧ Packs stepMbs.length rankMbsIdx ∧
      ∀ indices ∈ rankMbsIdx, indices.length = stepMbs.length / config.dpSize := by
  have dpPositive : 0 < config.dpSize := Nat.pos_of_dvd_of_pos divides someMbs
  rw [distributeMbsIn] at returned
  by_cases balanced : args.balanceData = true
  · rw [if_pos balanced] at returned
    rcases bind_eq_ok.mp returned with ⟨workloads, _, partitioned⟩
    have spec := getSeqlenBalancedPartitionsIn_spec order partitioned
    rw [List.length_map] at spec
    refine ⟨spec.1, spec.2.1, fun indices member => ?_⟩
    rw [← spec.2.2.2 rfl indices member, Nat.mul_div_cancel _ dpPositive]
  · rw [if_neg balanced, Except.ok.injEq] at returned
    subst returned
    have strides (r : Nat) (isRank : r < config.dpSize) :
        pyRange r stepMbs.length config.dpSize =
          List.range' r (stepMbs.length / config.dpSize) config.dpSize := by
      rcases divides with ⟨perRank, lengthEq⟩
      rw [pyRange, lengthEq, Nat.mul_div_cancel_left _ dpPositive]
      congr 1
      have several : config.dpSize ≤ config.dpSize * perRank :=
        Nat.le_of_dvd (lengthEq ▸ someMbs) (Nat.dvd_mul_right _ _)
      rw [Nat.div_eq_iff dpPositive, Nat.mul_comm perRank]
      omega
    refine ⟨by rw [List.length_map, List.length_range], ?_, ?_⟩
    · have packs := packs_strides (stepMbs.length / config.dpSize) dpPositive
      rw [Nat.div_mul_cancel divides] at packs
      rwa [List.map_congr_left fun r member => strides r (List.mem_range.mp member)]
    · intro indices member
      rcases List.mem_map.mp member with ⟨r, inRanks, rfl⟩
      rw [strides r (List.mem_range.mp inRanks), List.length_range']

def planOf (sampleIndices : List Nat) (stepMbs rankMbsIdx : List (List Nat)) : Plan :=
  rankMbsIdx.map fun indices => indices.map fun mbsIdx =>
    (stepMbs.getD mbsIdx []).map fun i => sampleIndices.getD i 0

theorem planOf_perm (sampleIndices : List Nat) {stepMbs rankMbsIdx : List (List Nat)}
    (packs : Packs stepMbs.length rankMbsIdx) :
    (planOf sampleIndices stepMbs rankMbsIdx).flatten.Perm
      (stepMbs.map fun bin => bin.map fun i => sampleIndices.getD i 0) := by
  have named := (map_getD_perm packs []).map fun bin => bin.map fun i => sampleIndices.getD i 0
  rwa [List.map_map, List.map_flatten] at named

theorem lengthAt_stepLengths {totalLengths sampleIndices stepLengths : List Nat}
    (read : sampleIndices.mapM (itemAt totalLengths) = .ok stepLengths) :
    sampleIndices.length = stepLengths.length ∧
      ∀ index < stepLengths.length,
        totalLengths[sampleIndices.getD index 0]? = some (lengthAt stepLengths index) := by
  rw [mapM_eq_ok] at read
  refine ⟨read.length_eq, fun index inside => ?_⟩
  have inSamples : index < sampleIndices.length := by rwa [read.length_eq]
  have pair := (List.forall₂_iff_get.mp read).2 index inSamples inside
  rw [itemAt_eq_ok] at pair
  simpa [lengthAt, inSamples, inside] using pair

theorem sampleTokens_map {totalLengths sampleIndices stepLengths : List Nat}
    (read : sampleIndices.mapM (itemAt totalLengths) = .ok stepLengths) {bin : List Nat}
    (inside : ∀ index ∈ bin, index < stepLengths.length) :
    sampleTokens totalLengths (bin.map fun i => sampleIndices.getD i 0) =
      binTokens stepLengths bin := by
  rw [sampleTokens, binTokens, List.map_map]
  congr 1
  apply List.map_congr_left
  intro index member
  have found := (lengthAt_stepLengths read).2 index (inside index member)
  rw [Function.comp_apply, List.getD_eq_getElem?_getD, found, Option.getD_some]

/-- A step carries out a valid plan for its samples. -/
theorem scheduleStepIn_spec {totalLengths : List Nat} {globalBatchSize stepI : Nat}
    {table : List (Int × List Nat)} {cap : Option Nat} {state next : ScheduleState}
    (capEq : maxPerBin args config = .ok cap)
    (returned : scheduleStepIn W order args config totalLengths globalBatchSize table cap state
      stepI = .ok next) :
    ∃ stepMbs rankMbsIdx count,
      let sampleIndices := stepSampleIndices table globalBatchSize stepI
      ValidPlan args config totalLengths sampleIndices count
          (planOf sampleIndices stepMbs rankMbsIdx) ∧
        next =
          { ranks := List.zipWith
              (fun rank indices =>
                indices.foldl (RankSchedule.addMbs sampleIndices stepMbs) rank)
              state.ranks rankMbsIdx
            numMicrobatches := state.numMicrobatches ++ [count]
            globalBatchSizes := state.globalBatchSizes ++ [globalBatchSize] } := by
  rw [scheduleStepIn] at returned
  generalize samplesEq : stepSampleIndices table globalBatchSize stepI = sampleIndices
    at returned ⊢
  rcases bind_eq_ok.mp returned with ⟨stepLengths, read, afterRead⟩
  rw [raiseIf_bind_eq_ok] at afterRead
  rcases bind_eq_ok.mp afterRead.2 with ⟨packed, packedEq, afterPacked⟩
  rcases bind_eq_ok.mp afterPacked with ⟨stepMbs, alignedEq, afterAligned⟩
  rcases bind_eq_ok.mp afterAligned with ⟨rankMbsIdx, distributedEq, nextEq⟩
  rw [pure_eq_ok, Except.ok.injEq] at nextEq
  have reads := lengthAt_stepLengths read
  have packedSpec := packStepIntoMbs_spec packedEq
  have aligned := alignMbs_spec packedSpec.1 packedSpec.2 alignedEq
  rcases aligned with ⟨⟨packs, nonempty⟩, ⟨multiple, someMbs⟩, keepsCap⟩
  have dpDivides : config.dpSize ∣ stepMbs.length :=
    Nat.dvd_trans (Nat.dvd_mul_right _ _) multiple
  have distributed := distributeMbsIn_spec dpDivides someMbs distributedEq
  have planPerm := planOf_perm sampleIndices distributed.2.1
  refine ⟨stepMbs, rankMbsIdx, stepMbs.length / config.dpSize, ?_, nextEq.symm⟩
  constructor
  case ranks => rw [planOf, List.length_map, distributed.1]
  case synced =>
    intro microBatches member
    rcases List.mem_map.mp member with ⟨indices, inRanks, rfl⟩
    rw [List.length_map, distributed.2.2 indices inRanks]
  case covers =>
    apply planPerm.flatten.trans
    apply Packs.flatten_map_getD
    rwa [reads.1]
  case nonempty =>
    intro positive mbs member
    rcases List.mem_map.mp (planPerm.mem_iff.mp member) with ⟨bin, inStep, rfl⟩
    have stepPositive (index : Nat) (inside : index < stepLengths.length) :
        0 < lengthAt stepLengths index :=
      positive _ (List.mem_of_getElem? (reads.2 index inside))
    exact fun isEmpty => nonempty stepPositive bin inStep (List.map_eq_nil_iff.mp isEmpty)
  case grouped =>
    rcases multiple with ⟨factor, lengthEq⟩
    have dpPositive : 0 < config.dpSize := Nat.pos_of_dvd_of_pos dpDivides someMbs
    rw [lengthEq, alignTo, Nat.mul_assoc, Nat.mul_div_cancel_left _ dpPositive]
    exact Nat.dvd_mul_right _ _
  case capped =>
    intro dynamic notByFlops maxTokensPerGpu maxEq mbs member exceeds
    rw [maxPerBin, if_pos dynamic, maxEq, Except.ok.injEq] at capEq
    subst capEq
    have packedCapped := packStepIntoMbs_capped dynamic notByFlops packedEq
    rcases List.mem_map.mp (planPerm.mem_iff.mp member) with ⟨bin, inStep, rfl⟩
    rw [sampleTokens_map read fun index inBin => packs.lt inStep inBin] at exceeds
    rw [List.length_map]
    exact keepsCap _ packedCapped bin inStep exceeds

end Steps

/-! ## The run over all steps -/

/-- The state after the first steps carries out a valid plan for each of them. -/
structure CarriesOut (args : DpScheduleArgs) (config : TrainParallelConfig)
    (totalLengths : List Nat) (globalBatchSize : Nat) (table : List (Int × List Nat))
    (plans : List Plan) (state : ScheduleState) : Prop where
  counted : state.numMicrobatches.length = plans.length
  valid : ∀ stepI plan count, plans[stepI]? = some plan →
    state.numMicrobatches[stepI]? = some count →
      ValidPlan args config totalLengths (stepSampleIndices table globalBatchSize stepI)
        count plan
  ranks : state.ranks = (List.range config.dpSize).map fun rank =>
    RankSchedule.ofMicroBatches (plans.flatMap fun plan => plan.getD rank [])
  batchSizes : state.globalBatchSizes = List.replicate plans.length globalBatchSize

section Run

variable {W : Type} [Number W] {order : HeapOrder W} {args : DpScheduleArgs}
  {config : TrainParallelConfig} {totalLengths : List Nat} {globalBatchSize : Nat}
  {table : List (Int × List Nat)}

theorem scheduleStepIn_carriesOut {cap : Option Nat} {plans : List Plan}
    {state next : ScheduleState} (capEq : maxPerBin args config = .ok cap)
    (carries : CarriesOut args config totalLengths globalBatchSize table plans state)
    (returned : scheduleStepIn W order args config totalLengths globalBatchSize table cap state
      plans.length = .ok next) :
    ∃ plan, CarriesOut args config totalLengths globalBatchSize table (plans ++ [plan])
      next := by
  rcases scheduleStepIn_spec capEq returned with
    ⟨stepMbs, rankMbsIdx, count, valid, rfl⟩
  refine ⟨planOf (stepSampleIndices table globalBatchSize plans.length) stepMbs rankMbsIdx, ?_⟩
  constructor
  case counted => simp [carries.counted]
  case valid =>
    intro stepI plan planCount planEq countEq
    rw [List.getElem?_append] at planEq countEq
    rw [carries.counted] at countEq
    by_cases before : stepI < plans.length
    · rw [if_pos before] at planEq countEq
      exact carries.valid stepI plan planCount planEq countEq
    · rw [if_neg before] at planEq countEq
      have last : stepI = plans.length := by
        have inside := (List.getElem?_eq_some_iff.mp planEq).1
        rw [List.length_singleton] at inside
        omega
      subst last
      rw [Nat.sub_self, List.getElem?_cons_zero, Option.some.injEq] at planEq countEq
      rw [← planEq, ← countEq]
      exact valid
  case ranks =>
    have rankCount : rankMbsIdx.length = config.dpSize := by
      rw [← valid.ranks, planOf, List.length_map]
    apply List.ext_getElem
    · simp [carries.ranks, rankCount]
    · intro rank _ inRanks
      have isRank : rank < rankMbsIdx.length := by simpa [rankCount] using inRanks
      simp only [carries.ranks, List.getElem_zipWith, List.getElem_map, List.getElem_range]
      rw [RankSchedule.foldl_addMbs, List.flatMap_append]
      simp [planOf, isRank]
  case batchSizes =>
    rw [carries.batchSizes, List.length_append, List.length_singleton,
      List.replicate_succ']

theorem scheduleSteps_carriesOut {cap : Option Nat}
    (capEq : maxPerBin args config = .ok cap) :
    ∀ (numSteps : Nat) (final : ScheduleState),
      (List.range numSteps).foldlM
          (scheduleStepIn W order args config totalLengths globalBatchSize table cap)
          { ranks := List.replicate config.dpSize {} } = .ok final →
        ∃ plans, plans.length = numSteps ∧
          CarriesOut args config totalLengths globalBatchSize table plans final
  | 0, final, returned => by
      rw [List.range_zero, List.foldlM_nil, pure_eq_ok, Except.ok.injEq] at returned
      subst returned
      refine ⟨[], rfl, ⟨rfl, by simp, ?_, rfl⟩⟩
      simp only [List.flatMap_nil, List.map_const', List.length_range]
      rfl
  | numSteps + 1, final, returned => by
      rw [List.range_succ, List.foldlM_append] at returned
      rcases bind_eq_ok.mp returned with ⟨state, stateEq, lastStep⟩
      rcases scheduleSteps_carriesOut capEq numSteps state stateEq with
        ⟨plans, lengthEq, carries⟩
      rw [List.foldlM_cons] at lastStep
      rcases bind_eq_ok.mp lastStep with ⟨next, nextEq, finalEq⟩
      rw [List.foldlM_nil, pure_eq_ok, Except.ok.injEq] at finalEq
      subst finalEq
      subst lengthEq
      rcases scheduleStepIn_carriesOut capEq carries nextEq with ⟨plan, later⟩
      exact ⟨plans ++ [plan], by simp, later⟩

end Run

/-! ## The contract -/

def keptRollouts (globalBatchSize : Nat) (rolloutIndices : List Int) : List Int :=
  rolloutIndices.eraseDups.take
    (rolloutIndices.eraseDups.length / globalBatchSize * globalBatchSize)

namespace DpSchedule

def partition (schedule : DpSchedule) (rank : Nat) : List Nat :=
  schedule.partitions.getD rank []

def microBatches (schedule : DpSchedule) (rank : Nat) : List (List Nat) :=
  schedule.microBatchIndices.getD rank []

def samples (schedule : DpSchedule) (rank : Nat) (mbs : List Nat) : List Nat :=
  mbs.map fun index => (schedule.partition rank).getD index 0

def stepMicroBatches (schedule : DpSchedule) (rank stepI : Nat) : List (List Nat) :=
  ((((schedule.microBatches rank).map (schedule.samples rank)).take
    (schedule.numMicrobatches.take (stepI + 1)).sum).drop
      (schedule.numMicrobatches.take stepI).sum)

end DpSchedule

structure DpScheduleContract (args : DpScheduleArgs) (config : TrainParallelConfig)
    (totalLengths : List Nat) (globalBatchSize : Nat) (rolloutIndices : List Int)
    (schedule : DpSchedule) : Prop where
  ranks : schedule.partitions.length = config.dpSize ∧
    schedule.microBatchIndices.length = config.dpSize
  disjoint : schedule.partitions.flatten.Nodup
  covers : ∀ position, position ∈ schedule.partitions.flatten ↔
    ∃ rid ∈ keptRollouts globalBatchSize rolloutIndices,
      rolloutIndices[position]? = some rid
  tiled : ∀ rank < config.dpSize, (schedule.microBatches rank).flatten =
    List.range (schedule.partition rank).length
  nonempty : ∀ rank < config.dpSize, ∀ mbs ∈ schedule.microBatches rank, mbs ≠ []
  steps : schedule.numMicrobatches.length =
    rolloutIndices.eraseDups.length / globalBatchSize
  batchSizes : schedule.globalBatchSizes =
    List.replicate schedule.numMicrobatches.length globalBatchSize
  synced : ∀ rank < config.dpSize,
    (schedule.microBatches rank).length = schedule.numMicrobatches.sum ∧
      ∀ stepI count, schedule.numMicrobatches[stepI]? = some count →
        (schedule.stepMicroBatches rank stepI).length = count
  grouped : 1 < config.vppSize → ∀ count ∈ schedule.numMicrobatches,
    config.microbatchGroupSizePerVpStage ∣ count
  together : ∀ rid ∈ keptRollouts globalBatchSize rolloutIndices,
    ∃ stepI < schedule.numMicrobatches.length, ∀ position,
      rolloutIndices[position]? = some rid →
        ∃ rank < config.dpSize, position ∈ (schedule.stepMicroBatches rank stepI).flatten
  capped : args.useDynamicBatchSize = true → args.balanceByFlops = false →
    ∀ maxTokensPerGpu, args.maxTokensPerGpu = some maxTokensPerGpu →
      ∀ rank < config.dpSize, ∀ mbs ∈ schedule.microBatches rank,
        maxTokensPerGpu * config.cpSize <
            sampleTokens totalLengths (schedule.samples rank mbs) →
          mbs.length = 1

section Contract

variable {args : DpScheduleArgs} {config : TrainParallelConfig} {totalLengths : List Nat}
  {globalBatchSize : Nat} {rolloutIndices : List Int}

theorem stepSampleIndices_eq (stepI : Nat) :
    stepSampleIndices (rolloutIdToSamples rolloutIndices) globalBatchSize stepI =
      ((rolloutIndices.eraseDups.drop (stepI * globalBatchSize)).take
        globalBatchSize).flatMap (samplesOf (rolloutIdToSamples rolloutIndices)) := by
  rw [stepSampleIndices, keys_rolloutIdToSamples]
  rw [slice_natCast, List.drop_take, Nat.succ_mul, Nat.add_sub_cancel_left]

theorem flatMap_stepSampleIndices (numSteps : Nat) :
    (List.range numSteps).flatMap
        (stepSampleIndices (rolloutIdToSamples rolloutIndices) globalBatchSize) =
      (rolloutIndices.eraseDups.take (numSteps * globalBatchSize)).flatMap
        (samplesOf (rolloutIdToSamples rolloutIndices)) := by
  rw [← flatten_blocks rolloutIndices.eraseDups globalBatchSize numSteps,
    ← List.flatMap_def, List.flatMap_assoc]
  have starts : List.range' 0 numSteps globalBatchSize =
      (List.range numSteps).map fun stepI => stepI * globalBatchSize := by
    apply List.ext_getElem
    · simp
    · intro index _ _
      simp [Nat.mul_comm]
  rw [starts, List.flatMap_map]
  congr 1
  funext stepI
  exact stepSampleIndices_eq stepI

theorem nodup_flatMap_samplesOf {rids : List Int} (nodup : rids.Nodup) :
    (rids.flatMap (samplesOf (rolloutIdToSamples rolloutIndices))).Nodup := by
  rw [List.nodup_flatMap]
  constructor
  · intro rid _
    exact (samplesOf_rolloutIdToSamples rolloutIndices rid).1
  · apply nodup.imp
    intro left right different position inLeft inRight
    rw [(samplesOf_rolloutIdToSamples rolloutIndices left).2] at inLeft
    rw [(samplesOf_rolloutIdToSamples rolloutIndices right).2, inLeft,
      Option.some.injEq] at inRight
    exact different inRight

theorem mem_step_of_mem_kept {rid : Int}
    (kept : rid ∈ keptRollouts globalBatchSize rolloutIndices) :
    ∃ stepI < rolloutIndices.eraseDups.length / globalBatchSize, ∀ position,
      rolloutIndices[position]? = some rid →
        position ∈ stepSampleIndices (rolloutIdToSamples rolloutIndices) globalBatchSize
          stepI := by
  rw [keptRollouts, ← flatten_blocks, ← List.flatMap_def, List.mem_flatMap] at kept
  rcases kept with ⟨start, inStarts, inBlock⟩
  rcases List.mem_range'.mp inStarts with ⟨stepI, isStep, rfl⟩
  refine ⟨stepI, isStep, fun position isSample => ?_⟩
  rw [stepSampleIndices_eq, List.mem_flatMap]
  rw [Nat.zero_add, Nat.mul_comm] at inBlock
  exact ⟨rid, inBlock, ((samplesOf_rolloutIdToSamples rolloutIndices rid).2 position).mpr
    isSample⟩

variable {plans : List Plan} {state : ScheduleState}

def ScheduleState.schedule (state : ScheduleState) : DpSchedule where
  partitions := state.ranks.map RankSchedule.partition
  microBatchIndices := state.ranks.map RankSchedule.microBatches
  numMicrobatches := state.numMicrobatches
  globalBatchSizes := state.globalBatchSizes

def planned (plans : List Plan) (rank : Nat) : List (List Nat) :=
  plans.flatMap fun plan => plan.getD rank []

section CarriesOut

variable {table : List (Int × List Nat)}
  (carries : CarriesOut args config totalLengths globalBatchSize table plans state)

include carries

theorem CarriesOut.plan_valid {stepI : Nat} {plan : Plan}
    (planEq : plans[stepI]? = some plan) :
    ∃ count, state.numMicrobatches[stepI]? = some count ∧
      ValidPlan args config totalLengths (stepSampleIndices table globalBatchSize stepI)
        count plan := by
  have inside : stepI < state.numMicrobatches.length := by
    rw [carries.counted]
    exact (List.getElem?_eq_some_iff.mp planEq).1
  have countEq := List.getElem?_eq_getElem inside
  exact ⟨_, countEq, carries.valid stepI plan _ planEq countEq⟩

theorem CarriesOut.rank_eq {rank : Nat} (isRank : rank < config.dpSize) :
    state.schedule.partition rank = (planned plans rank).flatten ∧
      state.schedule.microBatches rank = tile 0 (planned plans rank) := by
  simp [ScheduleState.schedule, DpSchedule.partition, DpSchedule.microBatches,
    carries.ranks, isRank, RankSchedule.ofMicroBatches, planned]

theorem CarriesOut.samples_eq {rank : Nat} (isRank : rank < config.dpSize) :
    (state.schedule.microBatches rank).map (state.schedule.samples rank) =
      planned plans rank := by
  have read := map_tile 0 [] (planned plans rank)
  rw [List.nil_append, List.flatten_nil, List.length_nil] at read
  have samplesEq : state.schedule.samples rank = fun mbs =>
      mbs.map fun index => (planned plans rank).flatten.getD index 0 := by
    funext mbs
    rw [DpSchedule.samples, (carries.rank_eq isRank).1]
  rw [(carries.rank_eq isRank).2, samplesEq]
  exact read

theorem CarriesOut.planned_lengths {rank : Nat} (isRank : rank < config.dpSize) :
    (plans.map fun plan => plan.getD rank []).map List.length = state.numMicrobatches := by
  apply List.ext_getElem
  · simp [carries.counted]
  · intro stepI inPlans inCounts
    rw [List.length_map, List.length_map] at inPlans
    have planEq := List.getElem?_eq_getElem inPlans
    rcases carries.plan_valid planEq with ⟨count, countEq, valid⟩
    have inPlan : rank < plans[stepI].length := by rwa [valid.ranks]
    rw [List.getElem?_eq_getElem inCounts, Option.some.injEq] at countEq
    rw [countEq]
    simp only [List.getElem_map]
    rw [List.getD_eq_getElem _ _ inPlan]
    exact valid.synced _ (List.getElem_mem inPlan)

theorem CarriesOut.stepMicroBatches_eq {rank stepI : Nat} (isRank : rank < config.dpSize)
    (isStep : stepI < plans.length) :
    state.schedule.stepMicroBatches rank stepI = plans[stepI].getD rank [] := by
  have segment := List.drop_take_succ_flatten_eq_getElem
    (plans.map fun plan => plan.getD rank []) stepI (by rwa [List.length_map])
  rw [carries.planned_lengths isRank, List.getElem_map] at segment
  rw [DpSchedule.stepMicroBatches, carries.samples_eq isRank]
  exact segment

theorem CarriesOut.stepMicroBatches_length {rank stepI : Nat} (isRank : rank < config.dpSize)
    (isStep : stepI < plans.length) :
    (state.schedule.stepMicroBatches rank stepI).length =
      state.schedule.numMicrobatches.getD stepI 0 := by
  rcases carries.plan_valid (List.getElem?_eq_getElem isStep) with ⟨count, countEq, valid⟩
  have inPlan : rank < plans[stepI].length := by rwa [valid.ranks]
  rw [carries.stepMicroBatches_eq isRank isStep, List.getD_eq_getElem _ _ inPlan,
    List.getD_eq_getElem?_getD, ScheduleState.schedule, countEq, Option.getD_some]
  exact valid.synced _ (List.getElem_mem inPlan)

theorem CarriesOut.mem_planned {rank : Nat} {mbs : List Nat} (isRank : rank < config.dpSize)
    (member : mbs ∈ planned plans rank) :
    ∃ samples count plan, mbs ∈ plan.flatten ∧
      ValidPlan args config totalLengths samples count plan := by
  rcases List.mem_flatMap.mp member with ⟨plan, inPlans, inRank⟩
  rcases List.mem_iff_getElem?.mp inPlans with ⟨stepI, planEq⟩
  rcases carries.plan_valid planEq with ⟨count, _, valid⟩
  have inPlan : rank < plan.length := by rwa [valid.ranks]
  rw [List.getD_eq_getElem _ _ inPlan] at inRank
  exact ⟨_, count, plan, List.mem_flatten_of_mem (List.getElem_mem inPlan) inRank, valid⟩

theorem CarriesOut.partitions_perm :
    state.schedule.partitions.flatten.Perm
      ((List.range plans.length).flatMap (stepSampleIndices table globalBatchSize)) := by
  have sizes : ∀ plan ∈ plans, plan.length = config.dpSize := by
    intro plan inPlans
    rcases List.mem_iff_getElem?.mp inPlans with ⟨stepI, planEq⟩
    rcases carries.plan_valid planEq with ⟨_, _, valid⟩
    exact valid.ranks
  have partitionsEq : state.schedule.partitions.flatten =
      ((List.range config.dpSize).flatMap (planned plans)).flatten := by
    rw [List.flatMap_def, List.flatten_flatten, List.map_map, ScheduleState.schedule,
      carries.ranks]
    simp [RankSchedule.ofMicroBatches, planned, Function.comp_def]
  rw [partitionsEq]
  apply (flatten_interchange sizes).flatten.trans
  rw [List.flatMap_def, List.flatten_flatten, List.map_map, ← List.flatMap_def]
  conv_lhs => rw [← map_getD_range plans []]
  rw [List.flatMap_map]
  apply List.Perm.flatMap_left
  intro stepI isStep
  have inside := List.mem_range.mp isStep
  rcases carries.plan_valid (List.getElem?_eq_getElem inside) with ⟨_, _, valid⟩
  rw [List.getD_eq_getElem _ _ inside]
  exact valid.covers

theorem CarriesOut.step_perm {stepI : Nat} (isStep : stepI < plans.length) :
    ((List.range config.dpSize).flatMap fun rank =>
      (state.schedule.stepMicroBatches rank stepI).flatten).Perm
        (stepSampleIndices table globalBatchSize stepI) := by
  rcases carries.plan_valid (List.getElem?_eq_getElem isStep) with ⟨_, _, valid⟩
  have ranksEq : ((List.range config.dpSize).map fun rank =>
      (state.schedule.stepMicroBatches rank stepI).flatten) =
        plans[stepI].map List.flatten := by
    conv_rhs => rw [← map_getD_range plans[stepI] [], List.map_map, valid.ranks]
    apply List.map_congr_left
    intro rank isRank
    rw [carries.stepMicroBatches_eq (List.mem_range.mp isRank) isStep, Function.comp_apply]
  rw [List.flatMap_def, ranksEq, ← List.flatten_flatten]
  exact valid.covers

end CarriesOut

/-- A run that carries out a plan for each step meets the contract. -/
theorem CarriesOut.contract (positive : ∀ length ∈ totalLengths, 0 < length)
    (carries : CarriesOut args config totalLengths globalBatchSize
      (rolloutIdToSamples rolloutIndices) plans state)
    (allSteps : plans.length = rolloutIndices.eraseDups.length / globalBatchSize) :
    DpScheduleContract args config totalLengths globalBatchSize rolloutIndices
      state.schedule := by
  have partitionsPerm := carries.partitions_perm
  rw [flatMap_stepSampleIndices, allSteps] at partitionsPerm
  have countsLength : state.schedule.numMicrobatches.length = plans.length := carries.counted
  constructor
  case ranks => simp [ScheduleState.schedule, carries.ranks]
  case disjoint =>
    rw [partitionsPerm.nodup_iff]
    exact nodup_flatMap_samplesOf ((nodup_eraseDups rolloutIndices).sublist
      (List.take_sublist _ _))
  case covers =>
    intro position
    rw [partitionsPerm.mem_iff, List.mem_flatMap]
    simp only [(samplesOf_rolloutIdToSamples rolloutIndices _).2]
    rfl
  case tiled =>
    intro rank isRank
    rw [(carries.rank_eq isRank).1, (carries.rank_eq isRank).2, flatten_tile,
      ← List.range_eq_range']
  case nonempty =>
    intro rank isRank mbs member isEmpty
    have inPlanned : state.schedule.samples rank mbs ∈ planned plans rank := by
      rw [← carries.samples_eq isRank]
      exact List.mem_map_of_mem member
    rcases carries.mem_planned isRank inPlanned with ⟨_, _, _, inPlan, valid⟩
    apply valid.nonempty positive _ inPlan
    rw [isEmpty]
    rfl
  case steps => rw [countsLength, allSteps]
  case batchSizes =>
    rw [countsLength]
    exact carries.batchSizes
  case synced =>
    intro rank isRank
    constructor
    · have lengths := congrArg List.sum (carries.planned_lengths isRank)
      rw [← List.length_flatten, ← List.flatMap_def] at lengths
      rw [(carries.rank_eq isRank).2, length_tile]
      exact lengths
    · intro stepI count countEq
      have isStep : stepI < plans.length := by
        rw [← countsLength]
        exact (List.getElem?_eq_some_iff.mp countEq).1
      rw [carries.stepMicroBatches_length isRank isStep, List.getD_eq_getElem?_getD, countEq,
        Option.getD_some]
  case grouped =>
    intro virtual count member
    rcases List.mem_iff_getElem?.mp member with ⟨stepI, countEq⟩
    have isStep : stepI < plans.length := by
      rw [← countsLength]
      exact (List.getElem?_eq_some_iff.mp countEq).1
    have valid := carries.valid stepI _ count (List.getElem?_eq_getElem isStep) countEq
    have grouped := valid.grouped
    rwa [mbGroup, if_pos virtual] at grouped
  case together =>
    intro rid kept
    rcases mem_step_of_mem_kept kept with ⟨stepI, isStep, inStep⟩
    rw [← allSteps] at isStep
    refine ⟨stepI, by rwa [countsLength], fun position isSample => ?_⟩
    rcases carries.plan_valid (List.getElem?_eq_getElem isStep) with ⟨_, _, valid⟩
    have inPlan := valid.covers.mem_iff.mpr (inStep position isSample)
    rw [List.flatten_flatten, List.mem_flatten] at inPlan
    rcases inPlan with ⟨rankSamples, inRanks, inSamples⟩
    rcases List.mem_map.mp inRanks with ⟨microBatches, isMember, rfl⟩
    rcases List.getElem_of_mem isMember with ⟨rank, inPlan, rankEq⟩
    have isRank : rank < config.dpSize := by rwa [← valid.ranks]
    refine ⟨rank, isRank, ?_⟩
    rw [carries.stepMicroBatches_eq isRank isStep, List.getD_eq_getElem _ _ inPlan, rankEq]
    exact inSamples
  case capped =>
    intro dynamic notByFlops maxTokensPerGpu maxEq rank isRank mbs member exceeds
    have inPlanned : state.schedule.samples rank mbs ∈ planned plans rank := by
      rw [← carries.samples_eq isRank]
      exact List.mem_map_of_mem member
    rcases carries.mem_planned isRank inPlanned with ⟨_, _, _, inPlan, valid⟩
    have alone := valid.capped dynamic notByFlops maxTokensPerGpu maxEq _ inPlan exceeds
    rwa [DpSchedule.samples, List.length_map] at alone

end Contract

/-- Whenever a schedule is returned, a plan is carried out in each of its steps. -/
theorem buildDpSchedule_carriesOut {W : Type} [Number W] {args : DpScheduleArgs}
    {config : TrainParallelConfig} {totalLengths : List Nat} {globalBatchSize : Nat}
    {rolloutIndices : List Int} {schedule : DpSchedule}
    (returned : buildDpSchedule W args config totalLengths globalBatchSize rolloutIndices =
      .ok schedule) :
    globalBatchSize ≠ 0 ∧ ∃ plans state, schedule = state.schedule ∧
      plans.length = rolloutIndices.eraseDups.length / globalBatchSize ∧
      CarriesOut args config totalLengths globalBatchSize (rolloutIdToSamples rolloutIndices)
        plans state := by
  rw [buildDpSchedule, buildDpScheduleIn] at returned
  rcases bind_eq_ok.mp returned with ⟨cap, capEq, afterCap⟩
  rw [raiseIf_bind_eq_ok, raiseIf_bind_eq_ok] at afterCap
  rcases afterCap with ⟨someRollouts, _, afterChecks⟩
  rcases bind_eq_ok.mp afterChecks with ⟨final, finalEq, scheduleEq⟩
  rw [pure_eq_ok, Except.ok.injEq] at scheduleEq
  rcases scheduleSteps_carriesOut capEq _ final finalEq with
    ⟨plans, allSteps, carries⟩
  rw [← List.length_map Prod.fst, keys_rolloutIdToSamples] at allSteps
  exact ⟨someRollouts, plans, final, scheduleEq.symm, allSteps, carries⟩

/-- Whenever the schedule of samples of positive length is returned, it meets the
contract. -/
theorem buildDpSchedule_contract (W : Type) [Number W] (args : DpScheduleArgs)
    (config : TrainParallelConfig) (totalLengths : List Nat) (globalBatchSize : Nat)
    (rolloutIndices : List Int) (positive : ∀ length ∈ totalLengths, 0 < length)
    (schedule : DpSchedule)
    (returned : buildDpSchedule W args config totalLengths globalBatchSize rolloutIndices =
      .ok schedule) :
    DpScheduleContract args config totalLengths globalBatchSize rolloutIndices schedule := by
  rcases buildDpSchedule_carriesOut returned with
    ⟨_, plans, final, scheduleEq, allSteps, carries⟩
  rw [scheduleEq]
  exact carries.contract positive allSteps

def denseModel : FlopsArgs where
  hiddenSize := 16
  numAttentionHeads := 2
  numQueryGroups := 2
  vocabSize := 32
  ffnHiddenSize := 64
  numLayers := 2
  kvChannels := 8

/-- Two ranks and two steps of two rollouts; the trailing rollout is dropped. -/
theorem buildDpSchedule_two_steps :
    DpScheduleContract
      { useDynamicBatchSize := true, maxTokensPerGpu := some 12, flops := denseModel }
      { dpSize := 2 } [3, 3, 3, 3, 3, 3, 3, 3] 2 [0, 0, 1, 2, 2, 3, 4, 4]
      { partitions := [[0, 2, 3, 5], [1, 4]]
        microBatchIndices := [[[0, 1], [2, 3]], [[0], [1]]]
        numMicrobatches := [1, 1]
        globalBatchSizes := [2, 2] } :=
  buildDpSchedule_contract Rat _ _ _ _ _ (by decide) _ (by rfl)

end Vime.Utils
