import Vime.Backends.MegatronUtils.Data
import Vime.Foundation.WrittenRows

/-! # Routed experts for routing replay

`prepare_routed_experts_for_routing_replay` of `vime/backends/megatron_utils/cp_utils.py`: the
expert choices of every sample, laid out as the training tokens of a rank are, without building
the padded stream. Positions are never negative.
-/

namespace Vime.Backends.MegatronUtils

open Vime.Foundation

abbrev ExpertRow := List (List Int)

/-- A tensor of shape `(rows, num_layers, topk)`. -/
structure RoutedExperts where
  numLayers : Nat
  topk : Nat
  rows : List ExpertRow
  shaped : ∀ row ∈ rows, row.length = numLayers ∧ ∀ experts ∈ row, experts.length = topk
  deriving DecidableEq, Repr

structure ExpertBuffer where
  numLayers : Nat
  topk : Nat
  rows : WrittenRows ExpertRow
  deriving DecidableEq, Repr

namespace ExpertBuffer

def copy (dst : ExpertBuffer) (start stop : Nat) (rows : List ExpertRow) :
    Except PyException ExpertBuffer := do
  let written ← copyRows dst.rows start stop rows
  pure { dst with rows := written }

end ExpertBuffer

/-! ## Pad rows -/

/-- Row `row` of the deterministic pad pattern. -/
def padRow (numLayers topk numExperts row : Nat) : ExpertRow :=
  (List.range numLayers).map fun layer =>
    (List.range topk).map fun choice =>
      (((row * (numLayers * topk) + layer * topk + choice) % numExperts : Nat) : Int)

def makeRoutedExpertsPad (rows numLayers topk numExperts rowOffset : Nat) :
    Except PyException (List ExpertRow) := do
  raiseIf (numExperts = 0 ∧ rows * (numLayers * topk) ≠ 0) (.runtimeError "ZeroDivisionError")
  pure ((List.range' rowOffset rows).map (padRow numLayers topk numExperts))

def newRoutedExpertsBuffer (rows numLayers topk : Nat) : ExpertBuffer :=
  { numLayers := numLayers, topk := topk, rows := freshRows rows }

def fillRoutedExpertsPad (dst : ExpertBuffer) (dstStart rows numExperts rowOffset : Nat) :
    Except PyException ExpertBuffer :=
  if rows = 0 then .ok dst
  else do
    let pad ← makeRoutedExpertsPad rows dst.numLayers dst.topk numExperts rowOffset
    dst.copy dstStart (dstStart + rows) pad

/-! ## Ranges of the stream -/

/-- Copies a range of the sample's rows, its tail row and the rows of context-parallel padding.
The pattern starts again at 0 with the padding. -/
def fillPaddedSampleRange (dst : ExpertBuffer) (dstStart : Nat) (experts : RoutedExperts)
    (sampleStart sampleEnd numExperts : Nat) : Except PyException ExpertBuffer :=
  let actualLen := experts.rows.length
  let tokenLen := actualLen + 1
  let realStart := max sampleStart 0
  let realEnd := min sampleEnd actualLen
  let tailStart := max sampleStart actualLen
  let tailEnd := min sampleEnd tokenLen
  let cpPadStart := max sampleStart tokenLen
  let cpPadEnd := sampleEnd
  if sampleStart ≥ sampleEnd then .ok dst
  else do
    let dst ← (if realStart < realEnd then
        dst.copy (dstStart + realStart - sampleStart)
          (dstStart + realStart - sampleStart + realEnd - realStart)
          (slice experts.rows realStart realEnd)
      else .ok dst)
    let dst ← (if tailStart < tailEnd then
        fillRoutedExpertsPad dst (dstStart + tailStart - sampleStart) (tailEnd - tailStart)
          numExperts (tailStart - actualLen)
      else .ok dst)
    (if cpPadStart < cpPadEnd then
        fillRoutedExpertsPad dst (dstStart + cpPadStart - sampleStart) (cpPadEnd - cpPadStart)
          numExperts (cpPadStart - tokenLen)
      else .ok dst)

def fillStreamPad (dst : ExpertBuffer) (rangeStart rangeEnd totalRows numExperts : Nat) :
    Except PyException ExpertBuffer :=
  let overlapStart := max rangeStart totalRows
  let overlapEnd := rangeEnd
  if overlapStart < overlapEnd then
    fillRoutedExpertsPad dst (overlapStart - rangeStart) (overlapEnd - overlapStart) numExperts
      (overlapStart - totalRows)
  else .ok dst

/-- The loop of `_fill_routed_experts_allgather_range` from stream position `pos` on. -/
def fillAllgatherFrom (rangeStart rangeEnd totalRows numExperts : Nat) :
    Nat → List RoutedExperts → ExpertBuffer → Except PyException ExpertBuffer
  | _, [], dst => fillStreamPad dst rangeStart rangeEnd totalRows numExperts
  | pos, experts :: rest, dst => do
      let sampleLen := experts.rows.length + 1
      let overlapStart := max rangeStart pos
      let overlapEnd := min rangeEnd (pos + sampleLen)
      let dst ← (if overlapStart < overlapEnd then
          fillPaddedSampleRange dst (overlapStart - rangeStart) experts (overlapStart - pos)
            (overlapEnd - pos) numExperts
        else .ok dst)
      if pos + sampleLen ≥ rangeEnd then .ok dst
      else fillAllgatherFrom rangeStart rangeEnd totalRows numExperts (pos + sampleLen) rest dst

def fillRoutedExpertsAllgatherRange (dst : ExpertBuffer) (rangeStart rangeEnd : Nat)
    (rolloutRoutedExperts : List RoutedExperts) (totalRows numExperts : Nat) :
    Except PyException ExpertBuffer :=
  fillAllgatherFrom rangeStart rangeEnd totalRows numExperts 0 rolloutRoutedExperts dst

structure SampleSpec where
  experts : RoutedExperts
  sampleOutLen : Nat
  chunks : List (Nat × Nat)

/-- The chunks of a sample that meet the range from `relStart` up to `relEnd`; row `relStart`
of the sample goes to row `dstBase`. -/
def fillChunks (experts : RoutedExperts) (dstBase relStart relEnd numExperts : Nat) :
    Nat → List (Nat × Nat) → ExpertBuffer → Except PyException ExpertBuffer
  | _, [], dst => .ok dst
  | chunkOutStart, chunk :: rest, dst => do
      let chunkLen := chunk.2 - chunk.1
      let chunkOverlapStart := max relStart chunkOutStart
      let chunkOverlapEnd := min relEnd (chunkOutStart + chunkLen)
      let dst ← (if chunkOverlapStart < chunkOverlapEnd then
          fillPaddedSampleRange dst (dstBase + chunkOverlapStart - relStart) experts
            (chunk.1 + chunkOverlapStart - chunkOutStart)
            (chunk.1 + chunkOverlapEnd - chunkOutStart) numExperts
        else .ok dst)
      fillChunks experts dstBase relStart relEnd numExperts (chunkOutStart + chunkLen) rest dst

/-- The loop of `_fill_routed_experts_cp_range` from stream position `pos` on. -/
def fillCpFrom (rangeStart rangeEnd totalRows numExperts : Nat) :
    Nat → List SampleSpec → ExpertBuffer → Except PyException ExpertBuffer
  | _, [], dst => fillStreamPad dst rangeStart rangeEnd totalRows numExperts
  | pos, spec :: rest, dst => do
      let overlapStart := max rangeStart pos
      let overlapEnd := min rangeEnd (pos + spec.sampleOutLen)
      let dst ← (if overlapStart < overlapEnd then
          fillChunks spec.experts (overlapStart - rangeStart) (overlapStart - pos)
            (overlapEnd - pos) numExperts 0 spec.chunks dst
        else .ok dst)
      if pos + spec.sampleOutLen ≥ rangeEnd then .ok dst
      else fillCpFrom rangeStart rangeEnd totalRows numExperts (pos + spec.sampleOutLen) rest dst

def fillRoutedExpertsCpRange (dst : ExpertBuffer) (rangeStart rangeEnd : Nat)
    (sampleSpecs : List SampleSpec) (totalRows numExperts : Nat) :
    Except PyException ExpertBuffer :=
  fillCpFrom rangeStart rangeEnd totalRows numExperts 0 sampleSpecs dst

/-! ## The rows of a rank -/

def sampleSpec (cpSize cpRank : Nat) (experts : RoutedExperts) : SampleSpec :=
  let tokenLen := experts.rows.length + 1
  let chunkSize := cpChunkSize cpSize tokenLen
  let chunks :=
    if cpSize = 1 then [(0, tokenLen)]
    else
      [(chunkSize * cpRank, chunkSize * (cpRank + 1)),
        (chunkSize * (2 * cpSize - cpRank - 1), chunkSize * (2 * cpSize - cpRank))]
  { experts := experts
    sampleOutLen := (chunks.map fun chunk => chunk.2 - chunk.1).sum
    chunks := chunks }

structure RowRange where
  totalRows : Nat
  rangeStart : Nat
  rangeEnd : Nat
  deriving DecidableEq, Repr

namespace StreamLayout

def cpRange (layout : StreamLayout) (cpRank : Nat) (rolloutRoutedExperts : List RoutedExperts) :
    RowRange :=
  if layout.allgatherCp then
    let totalRows := (rolloutRoutedExperts.map fun experts => experts.rows.length + 1).sum
    let finalRows := totalRows + padCount layout.padUnit totalRows
    let cpChunkSize := finalRows / layout.cpSize
    { totalRows := totalRows
      rangeStart := cpRank * cpChunkSize
      rangeEnd := cpRank * cpChunkSize + cpChunkSize }
  else
    let sampleSpecs := rolloutRoutedExperts.map (sampleSpec layout.cpSize cpRank)
    let totalRows := (sampleSpecs.map SampleSpec.sampleOutLen).sum
    { totalRows := totalRows
      rangeStart := 0
      rangeEnd := totalRows + padCount layout.padUnit totalRows }

def tpRange (layout : StreamLayout) (tpRank : Nat) (sequenceParallel : Bool) (range : RowRange) :
    Except PyException RowRange :=
  if sequenceParallel then do
    let seqlen := range.rangeEnd - range.rangeStart
    raiseIf (seqlen % layout.tpSize ≠ 0) (.assertionError "")
    let tpChunkSize := seqlen / layout.tpSize
    let rangeStart := range.rangeStart + tpChunkSize * tpRank
    pure
      { totalRows := range.totalRows
        rangeStart := rangeStart
        rangeEnd := rangeStart + tpChunkSize }
  else .ok range

end StreamLayout

/-- The shape checks for one sample; `numLayers` and `topk` are those of the first one. -/
def checkRoutedSample (numLayers topk : Nat) (experts : RoutedExperts) (tokenIds : List Int) :
    Except PyException Unit := do
  raiseIf ((experts.rows.length : Int) ≠ tokenIds.length - 1)
    (.assertionError s!"torch.Size([{experts.rows.length}, {experts.numLayers}, {experts.topk}]), torch.Size([{tokenIds.length}])")
  raiseIf ((experts.numLayers, experts.topk) ≠ (numLayers, topk))
    (.assertionError s!"torch.Size([{experts.rows.length}, {experts.numLayers}, {experts.topk}]), expected (*, {numLayers}, {topk})")

/-- The rows behind the checks; `first` is the first sample. -/
def prepareChecked (layout : StreamLayout) (cpRank tpRank numExperts : Nat)
    (sequenceParallel : Bool) (first : RoutedExperts)
    (rolloutRoutedExperts : List RoutedExperts) : Except PyException ExpertBuffer := do
  raiseIf (layout.padUnit = 0) .zeroDivisionError
  let range ← layout.tpRange tpRank sequenceParallel (layout.cpRange cpRank rolloutRoutedExperts)
  let routedExperts := newRoutedExpertsBuffer (range.rangeEnd - range.rangeStart) first.numLayers
    first.topk
  if layout.allgatherCp then
    fillRoutedExpertsAllgatherRange routedExperts range.rangeStart range.rangeEnd
      rolloutRoutedExperts range.totalRows numExperts
  else
    fillRoutedExpertsCpRange routedExperts range.rangeStart range.rangeEnd
      (rolloutRoutedExperts.map (sampleSpec layout.cpSize cpRank)) range.totalRows numExperts

def prepareRoutedExpertsForRoutingReplay (layout : StreamLayout) (cpRank tpRank numExperts : Nat)
    (sequenceParallel : Bool) (rolloutRoutedExperts : List RoutedExperts)
    (tokens : List (List Int)) : Except PyException ExpertBuffer := do
  raiseIf (rolloutRoutedExperts.length ≠ tokens.length) (.assertionError "")
  match rolloutRoutedExperts with
  | [] => .error (.assertionError "")
  | first :: _ => do
      (rolloutRoutedExperts.zip tokens).forM fun sample =>
        checkRoutedSample first.numLayers first.topk sample.1 sample.2
      prepareChecked layout cpRank tpRank numExperts sequenceParallel first rolloutRoutedExperts

end Vime.Backends.MegatronUtils
