import Vime.Utils.SeqlenBalancing

/-! # Data-parallel micro-batch schedule

`vime/utils/dp_schedule.py`: the samples of every training step are packed into
micro-batches first and distributed over the ranks second.
-/

namespace Vime.Utils

open Vime.Foundation

structure DpScheduleArgs where
  microBatchSize : Option Nat := none
  useDynamicBatchSize : Bool
  maxTokensPerGpu : Option Nat := none
  balanceData : Bool := false
  balanceByFlops : Bool := false
  flops : FlopsArgs
  deriving Repr

structure TrainParallelConfig where
  dpSize : Nat
  cpSize : Nat := 1
  vppSize : Nat := 1
  microbatchGroupSizePerVpStage : Nat := 1
  deriving DecidableEq, Repr

/-- What `build_dp_schedule` returns. -/
structure DpSchedule where
  partitions : List (List Nat)
  microBatchIndices : List (List (List Nat))
  numMicrobatches : List Nat
  globalBatchSizes : List Nat
  deriving DecidableEq, Repr

/-- The entries of one rank in `partitions` and `micro_batch_indices`. -/
structure RankSchedule where
  partition : List Nat := []
  microBatches : List (List Nat) := []
  deriving DecidableEq, Repr

structure ScheduleState where
  ranks : List RankSchedule
  numMicrobatches : List Nat := []
  globalBatchSizes : List Nat := []

/-! ## Grouping by rollout -/

/-- `rollout_id_to_samples.setdefault(rid, []).append(sample_pos)`. -/
def recordSample (rid : Int) (samplePos : Nat) : List (Int × List Nat) → List (Int × List Nat)
  | [] => [(rid, [samplePos])]
  | (key, positions) :: rest =>
      if key = rid then (key, positions ++ [samplePos]) :: rest
      else (key, positions) :: recordSample rid samplePos rest

def rolloutIdToSamples (rolloutIndices : List Int) : List (Int × List Nat) :=
  rolloutIndices.zipIdx.foldl (fun table entry => recordSample entry.1 entry.2 table) []

/-- `rollout_id_to_samples[rid]` for a key of the table. -/
def samplesOf (table : List (Int × List Nat)) (rid : Int) : List Nat :=
  (table.lookup rid).getD []

def stepSampleIndices (table : List (Int × List Nat)) (globalBatchSize stepI : Nat) :
    List Nat :=
  let rolloutIds := table.map Prod.fst
  let stepRollouts := slice rolloutIds ((stepI * globalBatchSize : Nat) : Int)
    (((stepI + 1) * globalBatchSize : Nat) : Int)
  stepRollouts.flatMap (samplesOf table)

/-! ## One step -/

def mbGroup (config : TrainParallelConfig) : Nat :=
  if config.vppSize > 1 then config.microbatchGroupSizePerVpStage else 1

def alignTo (config : TrainParallelConfig) : Nat := config.dpSize * mbGroup config

def maxPerBin (args : DpScheduleArgs) (config : TrainParallelConfig) :
    Except PyException (Option Nat) :=
  if args.useDynamicBatchSize then
    match args.maxTokensPerGpu with
    | none => .error (.assertionError "")
    | some maxTokensPerGpu => .ok (some (maxTokensPerGpu * config.cpSize))
  else .ok none

section Steps

variable (W : Type) [Number W]

def calculateWorkloads (stepLengths : List Nat) (args : DpScheduleArgs) :
    Except PyException (List W) :=
  stepLengths.mapM fun sl => calculateFwdFlops [sl] args.flops

def packByFlops (stepLengths : List Nat) (args : DpScheduleArgs) (cap : Nat) :
    Except PyException (List (List Nat)) := do
  raiseIf (cap = 0) .zeroDivisionError
  let totalTokens := stepLengths.sum
  let numMbs := max 1 ((totalTokens + cap - 1) / cap)
  if numMbs ≥ stepLengths.length then
    pure ((List.range stepLengths.length).map fun i => [i])
  else do
    -- Balancing work does not enforce the cap.
    let workloads ← calculateWorkloads W stepLengths args
    getSeqlenBalancedPartitions workloads numMbs false

def packFixedSize (count microBatchSize : Nat) : Except PyException (List (List Nat)) := do
  raiseIf (microBatchSize = 0) (.valueError "range() arg 3 must not be zero")
  pure ((pyRange 0 count microBatchSize).map fun i =>
    pyRange i (min (i + microBatchSize) count) 1)

/-- The micro-batches of a step as indices into `stepLengths`. -/
def packStepIntoMbs (stepLengths : List Nat) (args : DpScheduleArgs)
    (maxPerBin : Option Nat) : Except PyException (List (List Nat)) :=
  if args.useDynamicBatchSize then
    match maxPerBin with
    | none => .error (.assertionError "")
    | some cap =>
        if args.balanceByFlops then packByFlops W stepLengths args cap
        else .ok (firstFitPack stepLengths cap)
  else
    match args.microBatchSize with
    | none => .error (.assertionError "")
    | some microBatchSize => packFixedSize stepLengths.length microBatchSize

/-- Brings the micro-batch count to a multiple of `align_to`: the dynamic path splits
bins, the static path insists on it. -/
def alignMbs (args : DpScheduleArgs) (config : TrainParallelConfig) (stepI : Nat)
    (stepLengths : List Nat) (stepMbs : List (List Nat)) :
    Except PyException (List (List Nat)) := do
  let align := alignTo config
  raiseIf (align = 0) .zeroDivisionError
  let targetK := max ((stepMbs.length + align - 1) / align * align) align
  if targetK = stepMbs.length then pure stepMbs
  else if args.useDynamicBatchSize then do
    let expanded := expandBinsBySplitting stepMbs targetK stepLengths
    raiseIf (expanded.length ≠ targetK)
      (.assertionError s!"dynamic path: could only produce {expanded.length} mbs after maximal splitting; need {targetK}. step {stepI} has {stepLengths.length} samples, below the alignment threshold ({align}).")
    pure expanded
  else
    .error (.assertionError s!"static path: num_mbs ({stepMbs.length}) is not a multiple of dp_size * mb_group ({align}); got step_size={stepLengths.length}, micro_batch_size={args.microBatchSize.getD 0}, dp_size={config.dpSize}, mb_group={mbGroup config}. Splitting static mbs would break the fixed-size invariant; adjust the config so step_size % (dp_size * micro_batch_size * mb_group) == 0.")

def distributeMbsIn (order : HeapOrder W) (args : DpScheduleArgs) (config : TrainParallelConfig)
    (stepLengths : List Nat) (stepMbs : List (List Nat)) :
    Except PyException (List (List Nat)) :=
  if args.balanceData then do
    let stepWorkloads ← calculateWorkloads W stepLengths args
    let weight (bin : List Nat) : W :=
      bin.foldl (fun total i => total + stepWorkloads.getD i 0) 0
    getSeqlenBalancedPartitionsIn order (stepMbs.map weight) config.dpSize true
  else
    .ok ((List.range config.dpSize).map fun r => pyRange r stepMbs.length config.dpSize)

def RankSchedule.addMbs (sampleIndices : List Nat) (stepMbs : List (List Nat))
    (rank : RankSchedule) (mbsIdx : Nat) : RankSchedule :=
  let mbsLocals := stepMbs.getD mbsIdx []
  let localStart := rank.partition.length
  { partition := rank.partition ++ mbsLocals.map fun i => sampleIndices.getD i 0
    microBatches :=
      rank.microBatches ++ [pyRange localStart (localStart + mbsLocals.length) 1] }

def scheduleStepIn (order : HeapOrder W) (args : DpScheduleArgs) (config : TrainParallelConfig)
    (totalLengths : List Nat) (globalBatchSize : Nat) (table : List (Int × List Nat))
    (cap : Option Nat) (state : ScheduleState) (stepI : Nat) :
    Except PyException ScheduleState := do
  let sampleIndices := stepSampleIndices table globalBatchSize stepI
  let stepLengths ← sampleIndices.mapM (itemAt totalLengths)
  raiseIf (¬ sampleIndices.length ≥ config.dpSize)
    (.assertionError s!"step {stepI}: {sampleIndices.length} samples < dp_size {config.dpSize}; each step needs at least one sample per rank.")
  let packed ← packStepIntoMbs W stepLengths args cap
  let stepMbs ← alignMbs args config stepI stepLengths packed
  let rankMbsIdx ← distributeMbsIn W order args config stepLengths stepMbs
  pure
    { ranks := List.zipWith
        (fun rank indices => indices.foldl (RankSchedule.addMbs sampleIndices stepMbs) rank)
        state.ranks rankMbsIdx
      numMicrobatches := state.numMicrobatches ++ [stepMbs.length / config.dpSize]
      globalBatchSizes := state.globalBatchSizes ++ [globalBatchSize] }

/-- `build_dp_schedule` with the heap of the rank balancing in the given order. -/
def buildDpScheduleIn (order : HeapOrder W) (args : DpScheduleArgs)
    (config : TrainParallelConfig) (totalLengths : List Nat) (globalBatchSize : Nat)
    (rolloutIndices : List Int) : Except PyException DpSchedule := do
  let cap ← maxPerBin args config
  let table := rolloutIdToSamples rolloutIndices
  raiseIf (globalBatchSize = 0) .zeroDivisionError
  let numSteps := table.length / globalBatchSize
  raiseIf (¬ numSteps ≥ 1)
    (.assertionError s!"num_rollouts ({table.length}) < global_batch_size ({globalBatchSize}); need at least one rollout per step.")
  let final ← (List.range numSteps).foldlM
    (scheduleStepIn W order args config totalLengths globalBatchSize table cap)
    { ranks := List.replicate config.dpSize {} }
  pure
    { partitions := final.ranks.map RankSchedule.partition
      microBatchIndices := final.ranks.map RankSchedule.microBatches
      numMicrobatches := final.numMicrobatches
      globalBatchSizes := final.globalBatchSizes }

def buildDpSchedule (args : DpScheduleArgs) (config : TrainParallelConfig)
    (totalLengths : List Nat) (globalBatchSize : Nat) (rolloutIndices : List Int) :
    Except PyException DpSchedule :=
  buildDpScheduleIn W HeapOrder.least args config totalLengths globalBatchSize rolloutIndices

end Steps

end Vime.Utils
