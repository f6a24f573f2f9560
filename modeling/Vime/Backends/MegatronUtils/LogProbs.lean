import Vime.Backends.MegatronUtils.Data
import Vime.Foundation.BulkArrays

/-! # Readers of a packed micro-batch

The functions of `vime/backends/megatron_utils/loss.py` that find the response rows of the
samples in the stream of a rank. Each works out the rows on its own.
-/

namespace Vime.Backends.MegatronUtils

open Vime.Foundation

/-- The rank in the groups of a layout. -/
structure StreamRank where
  cpRank : Nat
  tpRank : Nat
  deriving DecidableEq, Repr

def StreamLayout.zigzag (layout : StreamLayout) : Prop :=
  layout.cpSize > 1 ∧ layout.allgatherCp = false

instance (layout : StreamLayout) : Decidable layout.zigzag := inferInstanceAs (Decidable (_ ∧ _))

def zigzagWidth (cpSize : Nat) (sample : PackedSample) : Nat :=
  2 * cpChunkSize cpSize sample.totalLength

def sampleOffsets (cpSize cpRank : Nat) (sample : PackedSample) : Except PyException CpOffsets :=
  getLogitsAndTokensOffsetWithCp cpSize cpRank sample.totalLength sample.responseLength

/-! ## Shifted tokens -/

def writeHalf (tokens : List Int) (base : Nat) (chunk logits tokenRange : Int × Int)
    (fullTokens : List Int) : Except PyException (List Int) :=
  let lo := logits.1 - chunk.1
  let hi := logits.2 - chunk.1
  assignSlice fullTokens (base + lo) (base + hi) (slice tokens tokenRange.1 tokenRange.2)

def shiftZigzag (cpSize cpRank base : Nat) (sample : PackedSample) (fullTokens : List Int) :
    Except PyException (List Int) := do
  let offsets ← sampleOffsets cpSize cpRank sample
  let firstHalf ← writeHalf sample.tokens base offsets.chunks.first offsets.logits.first
    offsets.tokens.first fullTokens
  writeHalf sample.tokens (base + offsets.chunkSize) offsets.chunks.second offsets.logits.second
    offsets.tokens.second firstHalf

def shiftWhole (base : Nat) (sample : PackedSample) (fullTokens : List Int) :
    Except PyException (List Int) :=
  assignSlice fullTokens base (base + sample.totalLength - 1)
    (slice sample.tokens 1 sample.totalLength)

def localChunk (cpRank localLength globalLength : Nat) (fullTokens : List Int) :
    Except PyException (List Int) :=
  let chunkStart := cpRank * localLength
  let chunkEnd := chunkStart + localLength
  if chunkEnd ≤ globalLength then .ok (slice fullTokens chunkStart chunkEnd)
  else
    let valid : Int := globalLength - chunkStart
    if valid > 0 then
      assignSlice (List.replicate localLength 0) 0 valid (sliceFrom fullTokens chunkStart)
    else .ok (List.replicate localLength 0)

/-- `localLength` is the length `T` of the local stream. -/
def buildShiftedTokens (layout : StreamLayout) (cpRank localLength : Nat)
    (samples : List PackedSample) : Except PyException (List Int) :=
  if layout.zigzag then
    loopSamples (zigzagWidth layout.cpSize) (shiftZigzag layout.cpSize cpRank) 0 samples
      (List.replicate localLength 0)
  else do
    let globalLength :=
      if layout.allgatherCp then (samples.map PackedSample.totalLength).sum else localLength
    let fullTokens ← loopSamples PackedSample.totalLength shiftWhole 0 samples
      (List.replicate globalLength 0)
    if layout.allgatherCp then localChunk cpRank localLength globalLength fullTokens
    else pure fullTokens

/-! ## The top-p keep mask -/

def resolveIndex (length : Nat) (index : Int) : Except PyException Nat :=
  let position := if index < 0 then length + index else index
  if 0 ≤ position ∧ position < length then .ok position.toNat else .error .indexError

def itemAtInt (values : List α) (index : Int) : Except PyException α := do
  let position ← resolveIndex values.length index
  itemAt values position

def repeatInterleave (counts : List Int) : Except PyException (List Nat) :=
  if counts.all fun count => decide (0 ≤ count) then
    .ok (repeatArange counts)
  else .error (.runtimeError "repeats can not be negative")

/-- `keep[rows, columns] = True`. -/
def markKept (keep : List (List Bool)) (coordinates : List (Int × Int)) :
    Except PyException (List (List Bool)) := do
  let resolved ← coordinates.mapM fun coordinate => do
    let row ← resolveIndex keep.length coordinate.1
    let column ← resolveIndex (keep.headD []).length coordinate.2
    pure (row, column)
  pure (keep.mapIdx fun row line => line.mapIdx fun column kept =>
    kept || decide ((row, column) ∈ resolved))

def fillToppMaskRows (keep : List (List Bool)) (ids : List Int) (offsets : List Nat)
    (responseStart localStart length : Int) (vocabStart vocabEnd : Nat) :
    Except PyException (List (List Bool)) :=
  let responseEnd := min (responseStart + length) (max ((offsets.length : Int) - 1) 0)
  if responseEnd ≤ responseStart then .ok keep
  else do
    let base ← itemAtInt offsets responseStart
    let stop ← itemAtInt offsets responseEnd
    let spanIds := slice ids base stop
    let low := sliceBound keep.length localStart
    let high := sliceBound keep.length (localStart + responseEnd - responseStart)
    let cleared := keep.mapIdx fun row line =>
      if low ≤ row ∧ row < high then List.replicate line.length false else line
    if spanIds.isEmpty then pure cleared
    else do
      let counts := diff ((slice offsets responseStart (responseEnd + 1)).map Int.ofNat)
      let rows ← repeatInterleave counts
      raiseIf (rows.length ≠ spanIds.length) .indexError
      let inVocab := (rows.zip spanIds).filter fun entry : Nat × Int =>
        (vocabStart : Int) ≤ entry.2 ∧ entry.2 < (vocabEnd : Int)
      markKept cleared (inVocab.map fun entry : Nat × Int =>
        ((entry.1 : Int) + localStart, entry.2 - (vocabStart : Int)))

def fillHalf (sample : PackedSample) (vocabStart vocabEnd base : Nat)
    (chunk logits tokenRange : Int × Int) (keep : List (List Bool)) :
    Except PyException (List (List Bool)) :=
  fillToppMaskRows keep sample.topPTokenIds sample.topPTokenOffsets
    (tokenRange.1 - sample.promptLength) (base + logits.1 - chunk.1) (logits.2 - logits.1)
    vocabStart vocabEnd

def fillZigzag (cpSize cpRank vocabStart vocabEnd base : Nat) (sample : PackedSample)
    (keep : List (List Bool)) : Except PyException (List (List Bool)) := do
  let offsets ← sampleOffsets cpSize cpRank sample
  let firstHalf ← fillHalf sample vocabStart vocabEnd base offsets.chunks.first
    offsets.logits.first offsets.tokens.first keep
  fillHalf sample vocabStart vocabEnd (base + offsets.chunkSize) offsets.chunks.second
    offsets.logits.second offsets.tokens.second firstHalf

/-- The logits of a sample in the whole stream, and their part in the chunk of a rank. -/
structure GlobalSpan where
  logitStart : Int
  logitEnd : Int
  start : Int
  stop : Int

def globalSpan (chunkStart chunkEnd seqStart : Nat) (sample : PackedSample) : GlobalSpan :=
  let logitStart : Int := seqStart + sample.promptLength - 1
  let logitEnd : Int := seqStart + sample.totalLength - 1
  { logitStart := logitStart
    logitEnd := logitEnd
    start := max logitStart chunkStart
    stop := min logitEnd chunkEnd }

def fillAllgather (chunkStart chunkEnd vocabStart vocabEnd seqStart : Nat)
    (sample : PackedSample) (keep : List (List Bool)) : Except PyException (List (List Bool)) :=
  let span := globalSpan chunkStart chunkEnd seqStart sample
  if span.stop > span.start then
    fillToppMaskRows keep sample.topPTokenIds sample.topPTokenOffsets
      (span.start - span.logitStart) (span.start - chunkStart) (span.stop - span.start)
      vocabStart vocabEnd
  else .ok keep

def fillWhole (vocabStart vocabEnd offset : Nat) (sample : PackedSample)
    (keep : List (List Bool)) : Except PyException (List (List Bool)) :=
  let start : Int := offset + sample.totalLength - sample.responseLength
  fillToppMaskRows keep sample.topPTokenIds sample.topPTokenOffsets 0 (start - 1)
    sample.responseLength vocabStart vocabEnd

def buildToppKeepMask (layout : StreamLayout) (rank : StreamRank) (localLength vocabLocal : Nat)
    (samples : List PackedSample) : Except PyException (List (List Bool)) :=
  let vocabStart := rank.tpRank * vocabLocal
  let vocabEnd := vocabStart + vocabLocal
  let keep := List.replicate localLength (List.replicate vocabLocal true)
  if layout.zigzag then
    loopSamples (zigzagWidth layout.cpSize)
      (fillZigzag layout.cpSize rank.cpRank vocabStart vocabEnd) 0 samples keep
  else if layout.allgatherCp then
    let chunkStart := rank.cpRank * localLength
    loopSamples PackedSample.totalLength
      (fillAllgather chunkStart (chunkStart + localLength) vocabStart vocabEnd) 0 samples keep
  else loopSamples PackedSample.totalLength (fillWhole vocabStart vocabEnd) 0 samples keep

/-! ## Per-sample values -/

section Extract

variable {α : Type}

def extractZigzag (cpSize cpRank : Nat) (logProbFull : List α) (pos : Nat)
    (sample : PackedSample) (logProbs : List (List α)) : Except PyException (List (List α)) := do
  let offsets ← sampleOffsets cpSize cpRank sample
  let lo0 := offsets.logits.first.1 - offsets.chunks.first.1
  let hi0 := offsets.logits.first.2 - offsets.chunks.first.1
  let lo1 := offsets.logits.second.1 - offsets.chunks.second.1
  let hi1 := offsets.logits.second.2 - offsets.chunks.second.1
  let lp := slice logProbFull (pos + lo0) (pos + hi0) ++
    slice logProbFull (pos + offsets.chunkSize + lo1) (pos + offsets.chunkSize + hi1)
  pure (logProbs ++ [lp])

def extractAllgather (chunkStart chunkEnd : Nat) (logProbFull : List α) (seqStart : Nat)
    (sample : PackedSample) (logProbs : List (List α)) : Except PyException (List (List α)) :=
  let span := globalSpan chunkStart chunkEnd seqStart sample
  if span.stop ≤ span.start then .ok (logProbs ++ [sliceTo logProbFull 0])
  else .ok (logProbs ++ [slice logProbFull (span.start - chunkStart) (span.stop - chunkStart)])

def extractWhole (logProbFull : List α) (offset : Nat) (sample : PackedSample)
    (logProbs : List (List α)) : Except PyException (List (List α)) :=
  let stop : Int := offset + sample.totalLength
  let start := stop - sample.responseLength
  .ok (logProbs ++ [slice logProbFull (start - 1) (stop - 1)])

def extractPerSample (layout : StreamLayout) (cpRank : Nat) (logProbFull : List α)
    (samples : List PackedSample) : Except PyException (List (List α)) :=
  if layout.zigzag then
    loopSamples (zigzagWidth layout.cpSize) (extractZigzag layout.cpSize cpRank logProbFull) 0
      samples []
  else if layout.allgatherCp then
    let localLength := logProbFull.length
    let chunkStart := cpRank * localLength
    loopSamples PackedSample.totalLength
      (extractAllgather chunkStart (chunkStart + localLength) logProbFull) 0 samples []
  else loopSamples PackedSample.totalLength (extractWhole logProbFull) 0 samples []

end Extract

/-! ## Redistribution -/

section Redistribute

variable {M : Type} [AddCommMonoid M]

def fullResponse (chunkStart chunkEnd seqStart : Nat) (sample : PackedSample)
    (value : Option (List M)) : Except PyException (List M) := do
  let span := globalSpan chunkStart chunkEnd seqStart sample
  let fullResp :=
    match value with
    | none => List.replicate sample.responseLength 0
    | some values =>
        if span.stop ≤ span.start then List.replicate sample.responseLength 0
        else fPad values (span.start - span.logitStart)
          (sample.responseLength - (span.stop - span.logitStart)) 0
  raiseIf (fullResp.length ≠ sample.responseLength)
    (.assertionError s!"Expected {sample.responseLength}, got {fullResp.length}")
  pure fullResp

def rankResponses (localLength cpRank : Nat) (samples : List PackedSample)
    (values : List (Option (List M))) : Except PyException (List M) :=
  let chunkStart := cpRank * localLength
  loopSamples (fun entry => entry.1.totalLength)
    (fun seqStart entry collected => do
      let fullResp ← fullResponse chunkStart (chunkStart + localLength) seqStart entry.1 entry.2
      pure (collected ++ fullResp)) 0 (samples.zip values) []

/-- One key of the result on one rank; `values` holds the tensors of all ranks. -/
def allgatherCpRedistribute (cpSize cpRank localLength : Nat) (samples : List PackedSample)
    (values : Nat → List (Option (List M))) : Except PyException (List (Option (List M))) :=
  if (values cpRank).all Option.isNone then .ok (values cpRank)
  else do
    let contributions ← (List.range cpSize).mapM fun rank =>
      rankResponses localLength rank samples (values rank)
    let responseLengths := samples.map PackedSample.responseLength
    let allCat := elementwiseSum responseLengths.sum contributions
    let pieces ← splitBySizes responseLengths allCat
    (pieces.zip samples).mapM fun entry => do
      let sliced ← sliceLogProbWithCp cpSize cpRank entry.1 entry.2.totalLength
        entry.2.responseLength
      pure (some sliced)

end Redistribute

end Vime.Backends.MegatronUtils
