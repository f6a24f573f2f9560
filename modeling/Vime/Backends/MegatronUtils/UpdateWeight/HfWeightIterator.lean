import Mathlib.Algebra.Order.Ring.Nat
import Mathlib.Algebra.Order.Ring.Rat
import Mathlib.Data.List.Sort
import Mathlib.Data.String.Basic
import Vime.Backends.MegatronUtils.TensorSharding
import Vime.Foundation.Broadcasts
import Vime.Foundation.Dicts

/-! # Parameters of all ranks

`vime/backends/megatron_utils/update_weight/hf_weight_iterator_direct.py`: the ranks agree on the
parameters of the model and on buckets of them, and exchange the values of every bucket between
pipeline stages and between expert-parallel ranks.
-/

namespace Vime.Backends.MegatronUtils.HfWeightIterator

open Vime.Foundation

structure DType where
  name : String
  itemSize : Nat
  deriving DecidableEq, Repr

/-- A tensor of `named_params_and_buffers` on one rank. -/
structure LocalParam (ν : Type) where
  name : String
  dtype : DType
  shape : List Nat
  value : ν

structure ParamInfo where
  name : String
  dtype : DType
  shape : List Nat
  size : Nat
  srcRank : Nat
  deriving DecidableEq, Repr

/-- The process groups of Megatron. Pipeline groups and expert-parallel groups each partition
the ranks, and the ranks of an expert-parallel group stand on one pipeline stage. -/
structure RankLayout where
  worldSize : Nat
  ppGroup : Nat → List Nat
  epGroup : Nat → List Nat
  inPpGroup : ∀ rank < worldSize, rank ∈ ppGroup rank
  ppGroupEq : ∀ rank < worldSize, ∀ peer ∈ ppGroup rank,
    peer < worldSize ∧ ppGroup peer = ppGroup rank
  inEpGroup : ∀ rank < worldSize, rank ∈ epGroup rank
  epGroupEq : ∀ rank < worldSize, ∀ peer ∈ epGroup rank,
    peer < worldSize ∧ epGroup peer = epGroup rank
  epGroupNodup : ∀ rank < worldSize, (epGroup rank).Nodup
  oneStage : ∀ rank < worldSize, ∀ peer ∈ ppGroup rank, peer ∈ epGroup rank → peer = rank

namespace RankLayout

def ppSize (layout : RankLayout) (rank : Nat) : Nat := (layout.ppGroup rank).length

def epSize (layout : RankLayout) (rank : Nat) : Nat := (layout.epGroup rank).length

end RankLayout

def isExpertName (name : String) : Bool := nameContains name ".experts."

/-! ## Metadata of all parameters -/

abbrev InfoTable := List (String × ParamInfo)

section Metadata

variable {ν : Type}

def localInfo (rank : Nat) (param : LocalParam ν) : ParamInfo :=
  { name := param.name
    dtype := param.dtype
    shape := param.shape
    size := param.shape.prod * param.dtype.itemSize
    srcRank := rank }

def localInfos (rank : Nat) (params : List (LocalParam ν)) : InfoTable :=
  params.foldl
    (fun table param =>
      if nameContains param.name ".draft_model." then table
      else setItem param.name (localInfo rank param) table) []

def mergeStageInfo (srcRank : Nat) (table : InfoTable) (item : String × ParamInfo) : InfoTable :=
  match table.lookup item.1 with
  | some oldInfo => if oldInfo.srcRank > srcRank then setItem item.1 item.2 table else table
  | none => setItem item.1 item.2 table

def mergeStages (rank : Nat) (own : InfoTable) (gathered : List (Nat × InfoTable)) : InfoTable :=
  gathered.foldl
    (fun table stage =>
      if stage.1 = rank then table else stage.2.foldl (mergeStageInfo stage.1) table) own

def mergeExpertInfo (srcRank : Nat) (table : InfoTable) (item : String × ParamInfo) : InfoTable :=
  match table.lookup item.1 with
  | some _ => table
  | none => setItem item.1 { item.2 with srcRank := srcRank } table

def mergeExperts (own : InfoTable) (gathered : List (Nat × InfoTable)) : InfoTable :=
  gathered.foldl (fun table peer => peer.2.foldl (mergeExpertInfo peer.1) table) own

def stageInfos (layout : RankLayout) (weights : Nat → List (LocalParam ν)) (rank : Nat) :
    InfoTable :=
  let own := localInfos rank (weights rank)
  if layout.ppSize rank > 1 then
    mergeStages rank own ((layout.ppGroup rank).map fun peer =>
      (peer, localInfos peer (weights peer)))
  else own

def blockInfos (layout : RankLayout) (weights : Nat → List (LocalParam ν)) (rank : Nat) :
    InfoTable :=
  let own := stageInfos layout weights rank
  if layout.epSize rank > 1 then
    mergeExperts own ((layout.epGroup rank).map fun peer => (peer, stageInfos layout weights peer))
  else own

/-- `sorted(param_infos.values(), key=lambda info: info.name)`. -/
def sortedInfos (layout : RankLayout) (weights : Nat → List (LocalParam ν)) (rank : Nat) :
    List ParamInfo :=
  ((blockInfos layout weights rank).map Prod.snd).insertionSort
    fun left right => left.name ≤ right.name

def checkSameInfo (index : Nat) (paramInfo : ParamInfo) (infos : List ParamInfo) :
    Except PyException Unit := do
  let other ← itemAt infos index
  raiseIf (other.name ≠ paramInfo.name)
    (.assertionError s!"Parameter name mismatch: {other.name} != {paramInfo.name}")
  raiseIf (other.shape ≠ paramInfo.shape)
    (.assertionError s!"Parameter shape mismatch: {other.shape} != {paramInfo.shape}")
  raiseIf (other.dtype ≠ paramInfo.dtype)
    (.assertionError s!"Parameter dtype mismatch: {other.dtype.name} != {paramInfo.dtype.name}")

def checkParamInfos (paramInfos : List ParamInfo) (allParamInfoList : List (List ParamInfo)) :
    Except PyException Unit :=
  (paramInfos.mapIdx fun index paramInfo => (index, paramInfo)).forM fun item =>
    allParamInfoList.forM (checkSameInfo item.1 item.2)

def getMegatronLocalParamInfos (layout : RankLayout) (weights : Nat → List (LocalParam ν))
    (rank : Nat) : Except PyException (List ParamInfo) := do
  let paramInfos := sortedInfos layout weights rank
  checkParamInfos paramInfos ((List.range layout.worldSize).map (sortedInfos layout weights))
  pure paramInfos

end Metadata

/-! ## Buckets -/

/-- The sizes that bound a bucket: of tensor parallelism, and of the buffer. -/
structure BucketSizes where
  tpSize : Nat
  expertTpSize : Nat
  updateWeightBufferSize : Nat
  deriving DecidableEq, Repr

def paramSize (sizes : BucketSizes) (name : String) (size : Nat) : Nat :=
  size * (if isExpertName name then sizes.expertTpSize else sizes.tpSize)

structure Packing (α : Type) where
  closed : List (List α)
  current : List α
  bufferSize : Nat

/-- One turn of the loop of `pack_param_info_buckets`, for items of the given full sizes. -/
def packItem {α : Type} (limit : Nat) (sizeOf : α → Nat) (packing : Packing α) (item : α) :
    Packing α :=
  if packing.bufferSize + sizeOf item > limit ∧ packing.current ≠ [] then
    { closed := packing.closed ++ [packing.current]
      current := [item]
      bufferSize := sizeOf item }
  else
    { packing with
      current := packing.current ++ [item]
      bufferSize := packing.bufferSize + sizeOf item }

def packItems {α : Type} (limit : Nat) (sizeOf : α → Nat) (items : List α) : List (List α) :=
  let packing := items.foldl (packItem limit sizeOf)
    { closed := [], current := [], bufferSize := 0 }
  packing.closed ++ [packing.current]

def packParamInfoBuckets (sizes : BucketSizes) (paramInfos : List ParamInfo) :
    List (List ParamInfo) :=
  packItems sizes.updateWeightBufferSize (fun info => paramSize sizes info.name info.size)
    paramInfos

/-! ## The exchange of a bucket -/

section Exchange

variable {ν : Type}

/-- What a rank holds of a bucket before the exchange, and the broadcasts that it issues. -/
structure RankProgram (ν : Type) where
  params : List (String × Option ν)
  broadcasts : List (Broadcast Nat String)

/-- `megatron_local_weights`. -/
def localWeights (params : List (LocalParam ν)) : List (String × ν) :=
  params.foldl (fun table param => setItem param.name param.value table) []

def loadParam (table : List (String × ν)) (rank : Nat) (info : ParamInfo) :
    Except PyException (String × Option ν) :=
  if rank = info.srcRank then
    match table.lookup info.name with
    | some value => .ok (info.name, some value)
    | none => .error .keyError
  else .ok (info.name, none)

def pipelineBroadcasts (layout : RankLayout) (rank : Nat) (bucket : List ParamInfo) :
    List (Broadcast Nat String) :=
  if layout.ppSize rank > 1 then
    (bucket.filter fun info => info.srcRank ∈ layout.ppGroup rank).map fun info =>
      { members := layout.ppGroup rank, source := info.srcRank, keys := [info.name] }
  else []

/-- `_get_ep_broadcast_src_rank_map`. -/
def epBroadcastSrcRankMap (layout : RankLayout) (rank : Nat) : List (Nat × Nat) :=
  if layout.epSize rank = 1 then [(rank, 0)]
  else
    (((layout.epGroup rank).mapIdx fun epRank peer => (epRank, layout.ppGroup peer)).foldl
      (fun table group => group.2.foldl (fun table globalRank => setItem globalRank group.1 table)
        table) [])

def expertSource (srcRankMap : List (Nat × Nat)) (info : ParamInfo) :
    Except PyException (Nat × String) :=
  match srcRankMap.lookup info.srcRank with
  | some srcRank => .ok (srcRank, info.name)
  | none => .error .keyError

def expertBroadcast (epGroup : List Nat) (entry : Nat × List String) :
    Except PyException (Broadcast Nat String) := do
  let source ← itemAt epGroup entry.1
  pure { members := epGroup, source := source, keys := entry.2 }

def broadcastExpertParams (layout : RankLayout) (rank : Nat) (bucket : List ParamInfo) :
    Except PyException (List (Broadcast Nat String)) := do
  let entries ← (bucket.filter fun info => isExpertName info.name).mapM
    (expertSource (epBroadcastSrcRankMap layout rank))
  (collect entries).mapM (expertBroadcast (layout.epGroup rank))

def expertBroadcasts (layout : RankLayout) (rank : Nat) (bucket : List ParamInfo) :
    Except PyException (List (Broadcast Nat String)) :=
  if layout.epSize rank > 1 then broadcastExpertParams layout rank bucket else .ok []

def getMegatronFullParams (layout : RankLayout) (weights : Nat → List (LocalParam ν)) (rank : Nat)
    (bucket : List ParamInfo) : Except PyException (RankProgram ν) := do
  let params ← bucket.mapM (loadParam (localWeights (weights rank)) rank)
  let experts ← expertBroadcasts layout rank bucket
  pure { params := params, broadcasts := pipelineBroadcasts layout rank bucket ++ experts }

def getHfWeightChunks (layout : RankLayout) (weights : Nat → List (LocalParam ν)) (rank : Nat)
    (buckets : List (List ParamInfo)) : Except PyException (RankProgram ν) := do
  let programs ← buckets.mapM (getMegatronFullParams layout weights rank)
  pure
    { params := programs.flatMap RankProgram.params
      broadcasts := programs.flatMap RankProgram.broadcasts }

end Exchange

end Vime.Backends.MegatronUtils.HfWeightIterator
