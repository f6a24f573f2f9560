import Mathlib.Order.Bounds.Basic
import Vime.Utils.DpScheduleContract
import Vime.Utils.MergedSets

/-! # When the dynamic schedule is built

Splitting the largest bin reaches every count up to the number of samples, and distributing
the micro-batches cannot fail, so a step fails only where it has too few samples for the
alignment.
-/

namespace Vime.Utils

open Vime.Foundation

/-! ## Splitting -/

theorem largestMultiSampleBin_eq_none {bins : List (List Nat)} {lengths : List Nat}
    (nothing : largestMultiSampleBin bins lengths = none) : ∀ bin ∈ bins, bin.length ≤ 1 := by
  rw [largestMultiSampleBin] at nothing
  generalize candidatesEq : (bins.zipIdx.filterMap fun entry =>
    if 1 < entry.1.length then some (binTokens lengths entry.1, entry.2) else none) =
      candidates at nothing
  cases candidates with
  | cons first rest => cases nothing
  | nil =>
      intro bin member
      rcases List.mem_iff_getElem?.mp member with ⟨idx, found⟩
      have noCandidate := List.filterMap_eq_nil_iff.mp candidatesEq (bin, idx)
        (List.mem_zipIdx_iff_getElem?.mpr found)
      by_contra several
      rw [if_pos (Nat.lt_of_not_le several)] at noCandidate
      cases noCandidate

theorem length_le_of_packs {count : Nat} {bins : List (List Nat)} (packs : Packs count bins)
    (nonempty : ∀ bin ∈ bins, bin ≠ []) : bins.length ≤ count := by
  have total := packs.length_eq
  rw [List.length_flatten, List.length_range] at total
  rw [← total, ← List.length_map List.length]
  apply List.length_le_sum_of_one_le
  intro size member
  rcases List.mem_map.mp member with ⟨bin, inBins, rfl⟩
  exact List.length_pos_iff.mpr (nonempty bin inBins)

theorem length_eq_of_singletons {count : Nat} {bins : List (List Nat)} (packs : Packs count bins)
    (nonempty : ∀ bin ∈ bins, bin ≠ []) (short : ∀ bin ∈ bins, bin.length ≤ 1) :
    bins.length = count := by
  have total := packs.length_eq
  have sizes : bins.map List.length = bins.map fun _ => 1 := by
    apply List.map_congr_left
    intro bin member
    have filled := List.length_pos_iff.mpr (nonempty bin member)
    have single := short bin member
    omega
  rw [List.length_flatten, List.length_range, sizes, List.map_const', List.sum_replicate,
    nsmul_eq_mul, Nat.mul_one, Nat.cast_id] at total
  exact total

theorem length_splitLargest {lengths : List Nat}
    (positive : ∀ index < lengths.length, 0 < lengthAt lengths index) :
    ∀ (missing : Nat) {bins : List (List Nat)}, Packs lengths.length bins →
      (∀ bin ∈ bins, bin ≠ []) → bins.length + missing ≤ lengths.length →
        (splitLargest lengths missing bins).length = bins.length + missing
  | 0, _, _, _, _ => rfl
  | missing + 1, bins, packs, nonempty, enough => by
      rw [splitLargest]
      cases chosen : largestMultiSampleBin bins lengths with
      | none =>
          have full := length_eq_of_singletons packs nonempty
            (largestMultiSampleBin_eq_none chosen)
          omega
      | some idx =>
          rcases largestMultiSampleBin_eq_some chosen with ⟨bin, found, several⟩
          have inBins := List.mem_of_getElem? found
          have halves := splitBinByTokens_nonempty several fun index inBin =>
            positive index (packs.lt inBins inBin)
          have binEq : bins.getD idx [] = bin := by simp [found]
          dsimp only
          rw [binEq]
          have longer : (bins.set idx (splitBinByTokens bin lengths).left ++
              [(splitBinByTokens bin lengths).right]).length = bins.length + 1 := by
            rw [List.length_append, List.length_set, List.length_singleton]
          have later := length_splitLargest positive missing
            ((flatten_split_perm found (splitBinByTokens_perm bin lengths)).trans packs)
            (by
              intro other member
              rcases mem_split member with kept | isLeft | isRight
              · exact nonempty other kept
              · exact isLeft ▸ halves.1
              · exact isRight ▸ halves.2)
            (by omega)
          omega

/-! ## Alignment -/

/-- `target_K`. -/
def targetCount (align count : Nat) : Nat := max ((count + align - 1) / align * align) align

theorem isLeast_targetCount {align : Nat} (positive : 0 < align) (count : Nat) :
    IsLeast {target | 0 < target ∧ align ∣ target ∧ count ≤ target} (targetCount align count) := by
  have rounded : count ≤ (count + align - 1) / align * align := by
    have remainder := Nat.div_add_mod (count + align - 1) align
    have small := Nat.mod_lt (count + align - 1) positive
    rw [Nat.mul_comm align] at remainder
    omega
  constructor
  · refine ⟨lt_of_lt_of_le positive (le_max_right _ _), ?_, le_trans rounded (le_max_left _ _)⟩
    rcases max_choice ((count + align - 1) / align * align) align with first | second
    · rw [targetCount, first]
      exact Nat.dvd_mul_left _ _
    · rw [targetCount, second]
  · rintro target ⟨someTarget, ⟨factor, rfl⟩, above⟩
    have someFactor : 0 < factor := Nat.pos_of_mul_pos_left someTarget
    apply max_le
    · rw [Nat.mul_comm align factor]
      apply Nat.mul_le_mul_right
      rw [Nat.div_le_iff_le_mul_add_pred positive]
      omega
    · exact Nat.le_mul_of_pos_right align someFactor

section Align

variable (args : DpScheduleArgs) {config : TrainParallelConfig} (stepI : Nat)
  {stepLengths : List Nat} {stepMbs : List (List Nat)}

def maximalSplitting (made target stepI samples align : Nat) : PyException :=
  .assertionError s!"dynamic path: could only produce {made} mbs after maximal splitting; need {target}. step {stepI} has {samples} samples, below the alignment threshold ({align})."

/-- Aligning fails on the dynamic path only for a target above the number of samples. -/
theorem alignMbs_dynamic (positiveAlign : 0 < alignTo config)
    (dynamic : args.useDynamicBatchSize = true)
    (positive : ∀ index < stepLengths.length, 0 < lengthAt stepLengths index)
    (packs : Packs stepLengths.length stepMbs) (nonempty : ∀ bin ∈ stepMbs, bin ≠ []) :
    (targetCount (alignTo config) stepMbs.length ≤ stepLengths.length ∧
      ∃ aligned, alignMbs args config stepI stepLengths stepMbs = .ok aligned) ∨
    (stepLengths.length < targetCount (alignTo config) stepMbs.length ∧
      ∃ made target, alignMbs args config stepI stepLengths stepMbs =
        .error (maximalSplitting made target stepI stepLengths.length (alignTo config))) := by
  have least := (isLeast_targetCount positiveAlign stepMbs.length).1
  have few := length_le_of_packs packs nonempty
  rw [alignMbs, raiseIf, if_neg (Nat.ne_of_gt positiveAlign), ok_bind]
  rw [targetCount] at least ⊢
  generalize max ((stepMbs.length + alignTo config - 1) / alignTo config * alignTo config)
    (alignTo config) = targetK at least ⊢
  by_cases reached : targetK = stepMbs.length
  · rw [if_pos reached]
    exact Or.inl ⟨by omega, stepMbs, rfl⟩
  · rw [if_neg reached, if_pos dynamic]
    have expandedPacks := expandBinsBySplitting_packs packs targetK stepLengths
    have expandedFilled := expandBinsBySplitting_nonempty positive packs nonempty targetK
    have atMost := length_le_of_packs expandedPacks expandedFilled
    by_cases enough : targetK ≤ stepLengths.length
    · have made : (expandBinsBySplitting stepMbs targetK stepLengths).length = targetK := by
        have upTo := least.2.2
        rw [expandBinsBySplitting,
          length_splitLargest positive _ packs nonempty (by omega)]
        omega
      refine Or.inl ⟨enough, expandBinsBySplitting stepMbs targetK stepLengths, ?_⟩
      dsimp only
      rw [raiseIf, if_neg (not_not.mpr made)]
      rfl
    · have short : (expandBinsBySplitting stepMbs targetK stepLengths).length ≠ targetK := by omega
      refine Or.inr ⟨Nat.lt_of_not_le enough,
        (expandBinsBySplitting stepMbs targetK stepLengths).length, targetK, ?_⟩
      dsimp only
      rw [raiseIf, if_pos short]
      rfl

end Align

/-! ## Success -/

/-- The work estimate is defined: a period of layers is not zero. -/
def FlopsArgs.Estimable (flops : FlopsArgs) : Prop := flops.moeLayerFreq ≠ some (.period 0)

theorem FlopsArgs.Estimable.layerCounts_ok {flops : FlopsArgs} (estimable : flops.Estimable) :
    ∃ counts, layerCounts flops = .ok counts := by
  rw [layerCounts.eq_def]
  cases flops.numExperts with
  | none => exact ⟨_, rfl⟩
  | some experts =>
      cases freqEq : flops.moeLayerFreq with
      | none => exact ⟨_, rfl⟩
      | some freq =>
          cases freq with
          | pattern frequencies => exact ⟨_, rfl⟩
          | period every =>
              have positive : every ≠ 0 := by
                intro isZero
                rw [isZero] at freqEq
                exact estimable freqEq
              dsimp only
              rw [raiseIf, if_neg (fun both => positive both.1)]
              exact ⟨_, rfl⟩

section Success

variable {W : Type} [Number W] {args : DpScheduleArgs} {config : TrainParallelConfig}

theorem calculateWorkloads_ok (estimable : args.flops.Estimable) (stepLengths : List Nat) :
    ∃ workloads : List W, calculateWorkloads W stepLengths args = .ok workloads := by
  rcases estimable.layerCounts_ok with ⟨counts, countsEq⟩
  rcases mapM_exists_forall (fun length => (calculateFwdFlops [length] args.flops :
      Except PyException W)) (fun _ => True) stepLengths (by
        intro length _
        rw [calculateFwdFlops, countsEq]
        exact ⟨_, rfl, trivial⟩) with ⟨workloads, returned, _⟩
  exact ⟨workloads, returned⟩

theorem distributeMbsIn_ok (order : HeapOrder W) (args : DpScheduleArgs)
    (estimable : args.flops.Estimable) (stepLengths : List Nat) {stepMbs : List (List Nat)}
    (positive : 0 < config.dpSize) (divides : config.dpSize ∣ stepMbs.length)
    (someMbs : 0 < stepMbs.length) :
    ∃ rankMbsIdx, distributeMbsIn W order args config stepLengths stepMbs = .ok rankMbsIdx := by
  rw [distributeMbsIn]
  by_cases balanced : args.balanceData = true
  · rcases calculateWorkloads_ok (W := W) estimable stepLengths with ⟨workloads, workloadsEq⟩
    rw [if_pos balanced, workloadsEq, ok_bind]
    apply balancedPartitions_equalSize order _ positive
    · rwa [List.length_map]
    · rw [List.length_map]
      exact Nat.le_of_dvd someMbs divides
  · rw [if_neg balanced]
    exact ⟨_, rfl⟩

def fewerThanRanks (stepI samples dpSize : Nat) : PyException :=
  .assertionError s!"step {stepI}: {samples} samples < dp_size {dpSize}; each step needs at least one sample per rank."

def fewerThanBatch (rollouts globalBatchSize : Nat) : PyException :=
  .assertionError s!"num_rollouts ({rollouts}) < global_batch_size ({globalBatchSize}); need at least one rollout per step."

/-- The failures that are reported to the caller as such. -/
inductive OuterFailure : PyException → Prop
  | batch (rollouts globalBatchSize : Nat) : OuterFailure (fewerThanBatch rollouts globalBatchSize)
  | ranks (stepI samples dpSize : Nat) : OuterFailure (fewerThanRanks stepI samples dpSize)
  | splitting (made target stepI samples align : Nat) :
      OuterFailure (maximalSplitting made target stepI samples align)

/-- Fewer samples than the smallest multiple of the alignment that first fit needs. -/
def ShortStep (config : TrainParallelConfig) (cap : Nat) (stepLengths : List Nat) : Prop :=
  ∃ target, IsLeast {target | 0 < target ∧ alignTo config ∣ target ∧
    (firstFitPack stepLengths cap).length ≤ target} target ∧ stepLengths.length < target

theorem shortStep_iff (positiveAlign : 0 < alignTo config) (cap : Nat) (stepLengths : List Nat) :
    ShortStep config cap stepLengths ↔ stepLengths.length <
      targetCount (alignTo config) (firstFitPack stepLengths cap).length := by
  have least := isLeast_targetCount positiveAlign (firstFitPack stepLengths cap).length
  constructor
  · rintro ⟨target, isLeast, short⟩
    rwa [← isLeast.unique least]
  · exact fun short => ⟨_, least, short⟩

end Success

/-! ## The contract -/

/-- The dynamic path without packing by work. -/
structure DynamicArgs where
  maxTokensPerGpu : Nat
  balanceData : Bool := false
  microBatchSize : Option Nat := none
  flops : FlopsArgs

def DynamicArgs.scheduleArgs (dynamic : DynamicArgs) : DpScheduleArgs where
  microBatchSize := dynamic.microBatchSize
  useDynamicBatchSize := true
  maxTokensPerGpu := some dynamic.maxTokensPerGpu
  balanceData := dynamic.balanceData
  balanceByFlops := false
  flops := dynamic.flops

def lengthsOfStep (totalLengths : List Nat) (globalBatchSize : Nat) (rolloutIndices : List Int)
    (stepI : Nat) : List Nat :=
  (stepSampleIndices (rolloutIdToSamples rolloutIndices) globalBatchSize stepI).map fun position =>
    totalLengths.getD position 0

section Contract

variable {W : Type} [Number W] {config : TrainParallelConfig} {totalLengths : List Nat}
  {globalBatchSize : Nat} {rolloutIndices : List Int}

theorem mem_stepSampleIndices_lt {stepI position : Nat}
    (member : position ∈
      stepSampleIndices (rolloutIdToSamples rolloutIndices) globalBatchSize stepI) :
    position < rolloutIndices.length := by
  rw [stepSampleIndices_eq, List.mem_flatMap] at member
  rcases member with ⟨rid, _, inSamples⟩
  rw [(samplesOf_rolloutIdToSamples rolloutIndices rid).2] at inSamples
  exact (List.getElem?_eq_some_iff.mp inSamples).1

/-- A step fails exactly if it is short, and then with a text of its own. -/
theorem scheduleStepIn_cases (order : HeapOrder W) (dynamic : DynamicArgs)
    (estimable : dynamic.flops.Estimable)
    (positiveAlign : 0 < alignTo config) (positive : ∀ length ∈ totalLengths, 0 < length)
    (sameLength : rolloutIndices.length = totalLengths.length) (state : ScheduleState)
    (stepI : Nat) :
    (¬ ShortStep config (dynamic.maxTokensPerGpu * config.cpSize)
        (lengthsOfStep totalLengths globalBatchSize rolloutIndices stepI) ∧
      ∃ next, scheduleStepIn W order dynamic.scheduleArgs config totalLengths globalBatchSize
        (rolloutIdToSamples rolloutIndices) (some (dynamic.maxTokensPerGpu * config.cpSize))
        state stepI = .ok next) ∨
    (ShortStep config (dynamic.maxTokensPerGpu * config.cpSize)
        (lengthsOfStep totalLengths globalBatchSize rolloutIndices stepI) ∧
      ∃ failure, scheduleStepIn W order dynamic.scheduleArgs config totalLengths globalBatchSize
        (rolloutIdToSamples rolloutIndices) (some (dynamic.maxTokensPerGpu * config.cpSize))
        state stepI = .error failure ∧ OuterFailure failure) := by
  have read := mapM_eq_ok_map (itemAt totalLengths)
    (fun position => totalLengths.getD position 0)
    (stepSampleIndices (rolloutIdToSamples rolloutIndices) globalBatchSize stepI) (by
      intro position member
      have inside : position < totalLengths.length :=
        sameLength ▸ mem_stepSampleIndices_lt member
      rw [itemAt_eq_ok, List.getD_eq_getElem?_getD, List.getElem?_eq_getElem inside]
      rfl)
  rw [shortStep_iff positiveAlign, scheduleStepIn, read, ok_bind]
  have counted : (lengthsOfStep totalLengths globalBatchSize rolloutIndices stepI).length =
      (stepSampleIndices (rolloutIdToSamples rolloutIndices) globalBatchSize stepI).length :=
    List.length_map _
  have stepPositive : ∀ index < (lengthsOfStep totalLengths globalBatchSize rolloutIndices
      stepI).length, 0 < lengthAt (lengthsOfStep totalLengths globalBatchSize rolloutIndices stepI)
        index := by
    intro index inside
    have reads := lengthAt_stepLengths read
    exact positive _ (List.mem_of_getElem? (reads.2 index inside))
  rw [← lengthsOfStep]
  generalize lengthsOfStep totalLengths globalBatchSize rolloutIndices stepI = lengths
    at counted stepPositive ⊢
  generalize dynamic.maxTokensPerGpu * config.cpSize = cap
  have alignLe : config.dpSize ≤ alignTo config :=
    Nat.le_of_dvd positiveAlign (Nat.dvd_mul_right _ _)
  have dpPositive : 0 < config.dpSize :=
    Nat.pos_of_dvd_of_pos (Nat.dvd_mul_right _ _) positiveAlign
  have aboveAlign : alignTo config ≤
      targetCount (alignTo config) (firstFitPack lengths cap).length := le_max_right _ _
  have packed : packStepIntoMbs W lengths dynamic.scheduleArgs (some cap) =
      .ok (firstFitPack lengths cap) := rfl
  have packs := firstFitPack_packs lengths cap
  have nonempty : ∀ bin ∈ firstFitPack lengths cap, bin ≠ [] :=
    fun bin member => (firstFitPack_bins lengths cap bin member).1
  rw [← counted]
  by_cases enoughForRanks : lengths.length ≥ config.dpSize
  · rw [raiseIf, if_neg (not_not.mpr enoughForRanks), ok_bind, packed, ok_bind]
    rcases alignMbs_dynamic dynamic.scheduleArgs stepI positiveAlign rfl stepPositive packs nonempty
      with ⟨enough, aligned, alignedEq⟩ | ⟨short, made, target, failed⟩
    · have spec := alignMbs_spec packs nonempty alignedEq
      have divides : config.dpSize ∣ aligned.length :=
        Nat.dvd_trans (Nat.dvd_mul_right _ _) spec.2.1.1
      rcases distributeMbsIn_ok order dynamic.scheduleArgs estimable lengths dpPositive
        divides spec.2.1.2 with ⟨rankMbsIdx, distributed⟩
      refine Or.inl ⟨Nat.not_lt_of_le enough, ?_⟩
      rw [alignedEq, ok_bind, distributed, ok_bind]
      exact ⟨_, rfl⟩
    · refine Or.inr ⟨short, maximalSplitting made target stepI lengths.length (alignTo config), ?_,
        OuterFailure.splitting made target stepI lengths.length (alignTo config)⟩
      rw [failed]
      rfl
  · have short : lengths.length < targetCount (alignTo config) (firstFitPack lengths cap).length :=
      lt_of_lt_of_le (lt_of_lt_of_le (Nat.lt_of_not_le enoughForRanks) alignLe) aboveAlign
    refine Or.inr ⟨short, fewerThanRanks stepI lengths.length config.dpSize, ?_,
      OuterFailure.ranks stepI lengths.length config.dpSize⟩
    rw [raiseIf, if_pos enoughForRanks]
    rfl

theorem scheduleStepIn_isOk_iff (globalBatchSize : Nat) (order : HeapOrder W)
    (dynamic : DynamicArgs) (estimable : dynamic.flops.Estimable)
    (positiveAlign : 0 < alignTo config) (positive : ∀ length ∈ totalLengths, 0 < length)
    (sameLength : rolloutIndices.length = totalLengths.length) (state : ScheduleState)
    (stepI : Nat) :
    (∃ next, scheduleStepIn W order dynamic.scheduleArgs config totalLengths globalBatchSize
        (rolloutIdToSamples rolloutIndices) (some (dynamic.maxTokensPerGpu * config.cpSize))
        state stepI = .ok next) ↔
      ¬ ShortStep config (dynamic.maxTokensPerGpu * config.cpSize)
        (lengthsOfStep totalLengths globalBatchSize rolloutIndices stepI) := by
  rcases scheduleStepIn_cases order dynamic estimable positiveAlign positive sameLength state
      stepI with
    ⟨long, succeeds⟩ | ⟨short, failure, failed, _⟩
  · exact ⟨fun _ => long, fun _ => succeeds⟩
  · refine ⟨?_, fun long => absurd short long⟩
    rintro ⟨next, returned⟩
    rw [failed] at returned
    cases returned

theorem scheduleStepIn_failure (order : HeapOrder W) (dynamic : DynamicArgs)
    (estimable : dynamic.flops.Estimable)
    (positiveAlign : 0 < alignTo config) (positive : ∀ length ∈ totalLengths, 0 < length)
    (sameLength : rolloutIndices.length = totalLengths.length) {state : ScheduleState}
    {stepI : Nat} {failure : PyException}
    (raised : scheduleStepIn W order dynamic.scheduleArgs config totalLengths globalBatchSize
      (rolloutIdToSamples rolloutIndices) (some (dynamic.maxTokensPerGpu * config.cpSize)) state
      stepI = .error failure) : OuterFailure failure := by
  rcases scheduleStepIn_cases order dynamic estimable positiveAlign positive sameLength state
      stepI with
    ⟨_, next, returned⟩ | ⟨_, own, failed, isOuter⟩
  · rw [returned] at raised
    cases raised
  · rw [failed] at raised
    rwa [← Except.error.inj raised]

/-- The schedule is built exactly if there is a step and no step is short; otherwise a failure
of its own is reported. -/
theorem buildDpScheduleIn_cases (order : HeapOrder W) (dynamic : DynamicArgs)
    (estimable : dynamic.flops.Estimable)
    (positiveAlign : 0 < alignTo config) (positiveBatch : 0 < globalBatchSize)
    (positive : ∀ length ∈ totalLengths, 0 < length)
    (sameLength : rolloutIndices.length = totalLengths.length) :
    ((∃ schedule, buildDpScheduleIn W order dynamic.scheduleArgs config totalLengths
        globalBatchSize rolloutIndices = .ok schedule) ↔
      globalBatchSize ≤ rolloutIndices.eraseDups.length ∧
        ∀ stepI < rolloutIndices.eraseDups.length / globalBatchSize,
          ¬ ShortStep config (dynamic.maxTokensPerGpu * config.cpSize)
            (lengthsOfStep totalLengths globalBatchSize rolloutIndices stepI)) ∧
    ∀ failure, buildDpScheduleIn W order dynamic.scheduleArgs config totalLengths globalBatchSize
      rolloutIndices = .error failure → OuterFailure failure := by
  have capEq : maxPerBin dynamic.scheduleArgs config =
      .ok (some (dynamic.maxTokensPerGpu * config.cpSize)) := rfl
  have rollouts : (rolloutIdToSamples rolloutIndices).length = rolloutIndices.eraseDups.length := by
    rw [← List.length_map Prod.fst, keys_rolloutIdToSamples]
  rw [buildDpScheduleIn, capEq, ok_bind]
  dsimp only
  rw [raiseIf, if_neg (Nat.ne_of_gt positiveBatch), ok_bind, rollouts]
  by_cases someStep : rolloutIndices.eraseDups.length / globalBatchSize ≥ 1
  · have enough : globalBatchSize ≤ rolloutIndices.eraseDups.length :=
      (Nat.div_pos_iff.mp someStep).2
    have decides := foldlM_isOk_iff (fun state stepI =>
        scheduleStepIn_isOk_iff globalBatchSize order dynamic estimable positiveAlign positive
          sameLength state stepI)
      (List.range (rolloutIndices.eraseDups.length / globalBatchSize))
      { ranks := List.replicate config.dpSize {} }
    simp only [List.mem_range] at decides
    rw [raiseIf, if_neg (not_not.mpr someStep), ok_bind, ← decides]
    generalize ran : (List.range (rolloutIndices.eraseDups.length / globalBatchSize)).foldlM
      (scheduleStepIn W order dynamic.scheduleArgs config totalLengths globalBatchSize
        (rolloutIdToSamples rolloutIndices) (some (dynamic.maxTokensPerGpu * config.cpSize)))
      { ranks := List.replicate config.dpSize {} } = outcome
    cases outcome with
    | ok final =>
        refine ⟨⟨fun _ => ⟨enough, final, rfl⟩, fun _ => ⟨_, rfl⟩⟩, ?_⟩
        intro failure failed
        cases failed
    | error failure =>
        refine ⟨⟨?_, ?_⟩, ?_⟩
        · rintro ⟨schedule, returned⟩
          cases returned
        · rintro ⟨_, final, returned⟩
          cases returned
        · intro reported isReported
          rcases foldlM_failure ran with ⟨stepI, _, state, failed⟩
          rw [← Except.error.inj isReported]
          exact scheduleStepIn_failure order dynamic estimable positiveAlign positive sameLength
            failed
  · have few : ¬ globalBatchSize ≤ rolloutIndices.eraseDups.length :=
      fun enough => someStep (Nat.div_pos enough positiveBatch)
    rw [raiseIf, if_pos someStep]
    refine ⟨⟨?_, fun both => absurd both.1 few⟩, ?_⟩
    · rintro ⟨schedule, returned⟩
      cases returned
    · intro failure failed
      rw [← Except.error.inj failed]
      exact OuterFailure.batch _ _

end Contract

/-- The schedule fails exactly for too few rollouts or a short step, and no check inside of the
splitting and balancing ever does. -/
theorem buildDpSchedule_raises_iff (W : Type) [Number W] (order : HeapOrder W)
    (dynamic : DynamicArgs) (estimable : dynamic.flops.Estimable) (config : TrainParallelConfig)
    (totalLengths : List Nat) (globalBatchSize : Nat) (rolloutIndices : List Int)
    (positive : ∀ length ∈ totalLengths, 0 < length)
    (sameLength : rolloutIndices.length = totalLengths.length)
    (positiveAlign : 0 < alignTo config) (positiveBatch : 0 < globalBatchSize) :
    ((∃ failure, buildDpScheduleIn W order dynamic.scheduleArgs config totalLengths
        globalBatchSize rolloutIndices = .error failure) ↔
      rolloutIndices.eraseDups.length < globalBatchSize ∨
        ∃ stepI < rolloutIndices.eraseDups.length / globalBatchSize,
          ShortStep config (dynamic.maxTokensPerGpu * config.cpSize)
            (lengthsOfStep totalLengths globalBatchSize rolloutIndices stepI)) ∧
    (∀ failure, buildDpScheduleIn W order dynamic.scheduleArgs config totalLengths
        globalBatchSize rolloutIndices = .error failure → OuterFailure failure) ∧
    (∀ (weights : List W) (k : Nat), 0 < k → k ∣ weights.length → k ≤ weights.length →
      ∃ partitions, getSeqlenBalancedPartitionsIn order weights k true = .ok partitions) ∧
    ∀ (rationals : HeapOrder ℚ) (weights : List ℚ) (k : Nat), 0 < k → k ≤ weights.length →
      (∀ weight ∈ weights, 0 < weight) →
        ∃ partitions, getSeqlenBalancedPartitionsIn rationals weights k false = .ok partitions := by
  rcases buildDpScheduleIn_cases order dynamic estimable positiveAlign positiveBatch positive
      sameLength with
    ⟨builds, outer⟩
  refine ⟨?_, outer, ?_, ?_⟩
  · have raises : (∃ failure, buildDpScheduleIn W order dynamic.scheduleArgs config totalLengths
        globalBatchSize rolloutIndices = .error failure) ↔
          ¬ ∃ schedule, buildDpScheduleIn W order dynamic.scheduleArgs config totalLengths
            globalBatchSize rolloutIndices = .ok schedule := by
      cases buildDpScheduleIn W order dynamic.scheduleArgs config totalLengths globalBatchSize
          rolloutIndices with
      | error failure => exact ⟨fun _ => nofun, fun _ => ⟨failure, rfl⟩⟩
      | ok schedule => exact ⟨nofun, fun none => absurd ⟨schedule, rfl⟩ none⟩
    rw [raises, builds, not_and_or, Nat.not_le]
    simp only [not_forall, not_not, exists_prop]
  · exact fun weights k positive divides enough =>
      balancedPartitions_equalSize order weights positive divides enough
  · exact fun rationals weights k positive enough positiveWeights =>
      balancedPartitions_freeSizes rationals positive enough positiveWeights

def denseDynamic : DynamicArgs where
  maxTokensPerGpu := 12
  balanceData := true
  flops := denseModel

theorem denseModel_estimable : denseModel.Estimable := by
  intro period
  cases period

/-- Three samples on two ranks are too few for a group of two micro-batches on each. -/
theorem buildDpSchedule_raises_iff_three :
    ∃ failure, buildDpScheduleIn ℚ HeapOrder.least denseDynamic.scheduleArgs
      { dpSize := 2, vppSize := 2, microbatchGroupSizePerVpStage := 2 } [3, 3, 3] 1 [0, 0, 0] =
        .error failure := by
  have contract := buildDpSchedule_raises_iff ℚ HeapOrder.least denseDynamic denseModel_estimable
    { dpSize := 2, vppSize := 2, microbatchGroupSizePerVpStage := 2 } [3, 3, 3] 1 [0, 0, 0]
    (by decide) rfl (by decide) (by decide)
  refine contract.1.mpr (Or.inr ⟨0, by decide, ?_⟩)
  rw [shortStep_iff (by decide)]
  decide

end Vime.Utils
