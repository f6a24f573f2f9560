import Mathlib.Algebra.Order.Ring.Nat
import Mathlib.Algebra.Order.Ring.Rat
import Mathlib.Data.Finset.Dedup
import Mathlib.Data.List.MinMax
import Mathlib.Data.List.Sort
import Mathlib.Data.Prod.Lex
import Mathlib.Data.String.Basic
import Vime.Foundation.Grouping
import Vime.Foundation.Python

/-! # Expert transfer plans

`vime/backends/megatron_utils/update_weight/expert_routing.py`: the owners of the routed experts,
the ranks of the engines that take them, and the batches in which they are sent.
-/

namespace Vime.Backends.MegatronUtils.ExpertRouting

open Vime.Foundation

/-! ## Names of routed experts -/

/-- `(\d+)` before a character that is not a digit. -/
def readDigits (text : List Char) : Option (Nat × List Char) :=
  if text.takeWhile Char.isDigit = [] then none
  else some ((text.takeWhile Char.isDigit).foldl
    (fun value digit => 10 * value + (digit.toNat - '0'.toNat)) 0, text.dropWhile Char.isDigit)

def readProjection : List Char → Option (Nat × List Char)
  | '1' :: rest => some (1, rest)
  | '2' :: rest => some (2, rest)
  | _ => none

/-- `_ROUTED_EXPERT.fullmatch(name)`: the layer, the projection and the expert. -/
def routedExpert (name : String) : Option (Nat × Nat × Nat) := do
  let inner ← name.toList.dropPrefix? "module.module.".toList
  let unwrapped := (inner.dropPrefix? "language_model.".toList).getD inner
  let layerText ← unwrapped.dropPrefix? "decoder.layers.".toList
  let layer ← readDigits layerText
  let projectionText ← layer.2.dropPrefix? ".mlp.experts.linear_fc".toList
  let projection ← readProjection projectionText
  let expertText ← projection.2.dropPrefix? ".weight".toList
  let expert ← readDigits expertText
  if expert.2 = [] then some (layer.1, projection.1, expert.1) else none

structure ParamInfo where
  name : String
  size : Nat
  srcRank : Int
  deriving DecidableEq

structure RoutedInfo extends ParamInfo where
  layer : Nat
  projection : Nat
  expert : Nat
  isRouted : routedExpert name = some (layer, projection, expert)
  deriving DecidableEq

/-! ## Parameters -/

structure ExpertParam where
  info : RoutedInfo
  layer : Nat
  expert : Nat
  targetRanks : List Int
  deriving DecidableEq

structure ExpertTransfer where
  sourceRank : Int
  targetRanks : List Int
  params : List ExpertParam
  deriving DecidableEq

abbrev ExpertTransferBatch := List ExpertTransfer

abbrev ExpertTransferGroup := List ExpertTransferBatch

/-- `sorted(items, key=key)`. -/
def sortedBy {κ : Type} [LinearOrder κ] (key : α → κ) (items : List α) : List α :=
  items.insertionSort fun left right => key left ≤ key right

/-- The loop of `_get_expert_target_ranks` over the engines. -/
def addEngines (epSize worldSize : Nat) :
    (engineGpuCounts : List Nat) → (engineGpuOffsets : List Int) → (targets : List (List Int)) →
      Except PyException (List (List Int))
  | [], [], targets => .ok targets
  | gpuCount :: gpuCounts, gpuOffset :: gpuOffsets, targets => do
      raiseIf (gpuCount ≠ epSize) (.valueError s!"VLLM MoE TP must be 1, got engine_size={gpuCount}, EP={epSize}")
      raiseIf (gpuOffset < 0 ∨ (worldSize : Int) < gpuOffset + gpuCount)
        (.valueError "VLLM engine is outside the Megatron world")
      addEngines epSize worldSize gpuCounts gpuOffsets
        (targets.mapIdx fun epRank ranks => ranks ++ [gpuOffset + epRank])
  | _, [], _ => .error (.valueError "zip() argument 2 is shorter than argument 1")
  | [], _, _ => .error (.valueError "zip() argument 2 is longer than argument 1")

def getExpertTargetRanks (engineGpuCounts : List Nat) (engineGpuOffsets : List Int)
    (epSize worldSize : Nat) : Except PyException (List (List Int)) :=
  addEngines epSize worldSize engineGpuCounts engineGpuOffsets (List.replicate epSize [])

/-- One turn of the loop of `_build_expert_params`. -/
def expertParam (targetRanks : List (List Int)) (numExperts expertsPerRank : Nat)
    (info : RoutedInfo) : Except PyException ExpertParam := do
  raiseIf (numExperts ≤ info.expert)
    (.valueError s!"invalid expert id {info.expert} in {info.name}")
  let ranks ← itemAt targetRanks (info.expert / expertsPerRank)
  pure { info, layer := info.layer, expert := info.expert, targetRanks := ranks }

def coverage (infos : List RoutedInfo) : List (Nat × List (Nat × Nat)) :=
  collect (infos.map fun info => (info.layer, info.expert, info.projection))

def expectedCoverage (numExperts : Nat) : List (Nat × Nat) :=
  (List.range numExperts).flatMap fun expert => [(expert, 1), (expert, 2)]

def buildExpertParams (infos : List RoutedInfo) (targetRanks : List (List Int))
    (numExperts : Nat) : Except PyException (List ExpertParam) := do
  raiseIf (targetRanks.length = 0) .zeroDivisionError
  raiseIf (numExperts % targetRanks.length ≠ 0)
    (.valueError "num_experts must be divisible by VLLM EP")
  let params ← infos.mapM (expertParam targetRanks numExperts (numExperts / targetRanks.length))
  raiseIf (coverage infos = [] ∨ ∃ found ∈ (coverage infos).map Prod.snd,
      found.toFinset ≠ (expectedCoverage numExperts).toFinset)
    (.valueError "routed-expert metadata is incomplete")
  pure (sortedBy (fun param => toLex (param.layer, param.info.name)) params)

/-- `owners`: the first rank that has the name. -/
def ownerOf (localNamesByRank : List (List String)) (name : String) : Option Nat :=
  localNamesByRank.findIdx? fun names => decide (name ∈ names)

def setExpertSourceRanks (infos : List RoutedInfo) (localNamesByRank : List (List String)) :
    Except PyException (List RoutedInfo) :=
  infos.mapM fun info =>
    match ownerOf localNamesByRank info.name with
    | none => .error (.valueError s!"no physical owner for {info.name}")
    | some rank => .ok { info with srcRank := rank }

/-! ## Transfers -/

def expertTransferSize (transfer : ExpertTransfer) : Nat :=
  (transfer.params.map fun param => param.info.size).sum

def paramsByTransfer (params : List ExpertParam) :
    List ((Nat × Nat × List Int × Int) × List ExpertParam) :=
  collect (params.map fun param =>
    ((param.layer, param.expert, param.targetRanks, param.info.srcRank), param))

/-- `by_layer`. -/
def transfersByLayer (params : List ExpertParam) : List (Nat × List ExpertTransfer) :=
  collect ((paramsByTransfer params).map fun (key, transferParams) =>
    (key.1, {
      sourceRank := key.2.2.2
      targetRanks := key.2.2.1
      params := sortedBy (fun param => toLex (param.expert, param.info.name)) transferParams }))

/-- `set(transfer.target_ranks) | {transfer.source_rank}`. -/
def participants (transfer : ExpertTransfer) : List Int :=
  (transfer.targetRanks ++ [transfer.sourceRank]).dedup

structure Packing where
  batches : List ExpertTransferBatch
  batchCosts : List (List (Int × Nat))

def HasRoom (bufferSize size : Nat) (ranks : List Int) (costs : List (Int × Nat)) : Prop :=
  ∀ rank ∈ ranks, amountAt rank costs + size ≤ bufferSize

instance (bufferSize size : Nat) (ranks : List Int) (costs : List (Int × Nat)) :
    Decidable (HasRoom bufferSize size ranks costs) :=
  inferInstanceAs (Decidable (∀ rank ∈ ranks, _))

def candidates (bufferSize size : Nat) (ranks : List Int) (batchCosts : List (List (Int × Nat))) :
    List Nat :=
  (List.range batchCosts.length).filter fun index =>
    decide (HasRoom bufferSize size ranks (batchCosts.getD index []))

def placeTransfer (bufferSize : Nat) (packing : Packing) (transfer : ExpertTransfer) : Packing :=
  let size := expertTransferSize transfer
  let ranks := participants transfer
  let addCosts (costs : List (Int × Nat)) : List (Int × Nat) :=
    ranks.foldl (fun costs rank => addAmount rank size costs) costs
  match (candidates bufferSize size ranks packing.batchCosts).argmin fun index =>
      toLex (((packing.batchCosts.getD index []).map Prod.snd).sum, index) with
  | some index => {
      batches := packing.batches.modify index (· ++ [transfer])
      batchCosts := packing.batchCosts.modify index addCosts }
  | none => {
      batches := packing.batches ++ [[transfer]]
      batchCosts := packing.batchCosts ++ [addCosts []] }

def packExpertTransferBatches (transfers : List ExpertTransfer) (bufferSize : Nat) :
    Except PyException (List ExpertTransferBatch) := do
  let sizedTransfers := sortedBy (fun transfer => toLex (-(expertTransferSize transfer : Int),
    toLex (transfer.targetRanks, transfer.sourceRank))) transfers
  let first ← itemAt sizedTransfers 0
  raiseIf (bufferSize < expertTransferSize first) (.valueError
    "one source-to-target expert transfer bundle exceeds update_weight_buffer_size")
  pure (sizedTransfers.foldl (placeTransfer bufferSize) ⟨[], []⟩).batches

def buildExpertTransferPlan (params : List ExpertParam) (bufferSize : Nat) :
    Except PyException (List ExpertTransferGroup) := do
  raiseIf (bufferSize = 0) (.valueError "update_weight_buffer_size must be positive")
  let byLayer := transfersByLayer params
  (sortedBy id (byLayer.map Prod.fst)).mapM fun layer =>
    packExpertTransferBatches
      (sortedBy (fun transfer => toLex (transfer.targetRanks, transfer.sourceRank))
        ((byLayer.lookup layer).getD [])) bufferSize

def planExpertTransfers (infos : List RoutedInfo) (localNamesByRank : List (List String))
    (engineGpuCounts : List Nat) (engineGpuOffsets : List Int)
    (epSize worldSize numExperts bufferSize : Nat) :
    Except PyException (List ExpertTransferGroup) := do
  let expertInfos ← setExpertSourceRanks infos localNamesByRank
  let targetRanks ← getExpertTargetRanks engineGpuCounts engineGpuOffsets epSize worldSize
  let expertParams ← buildExpertParams expertInfos targetRanks numExperts
  buildExpertTransferPlan expertParams bufferSize

end Vime.Backends.MegatronUtils.ExpertRouting
