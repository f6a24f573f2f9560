import Mathlib.Tactic.Ring
import Vime.Backends.MegatronUtils.KeepMask

/-! # Response spans

The rows of the stream of a rank that hold logits of response tokens, as spans of successive
rows. Every reader of a micro-batch works on these spans.
-/

namespace Vime.Backends.MegatronUtils

open Vime.Foundation

/-- Successive rows of a stream and the response tokens whose logits they hold. -/
structure Span where
  start : Nat
  responseStart : Nat
  length : Nat
  deriving DecidableEq, Repr

namespace Span

def rows (span : Span) : List Nat := List.range' span.start span.length

def tokens (span : Span) : List Nat := List.range' span.responseStart span.length

def cut (stream : List α) (span : Span) : List α :=
  (stream.take (span.start + span.length)).drop span.start

def block (entry : Nat → α) (span : Span) : Nat × List α :=
  (span.start, span.tokens.map entry)

end Span

/-! ## One half of a zigzag slice -/

section Half

variable {chunk : Int × Int} {sample : PackedSample}

def halfSpan (chunk : Int × Int) (base : Nat) (sample : PackedSample) : List Span :=
  let logits := chunkLogits chunk sample.totalLength sample.responseLength
  if logits.1 < logits.2 then
    [{ start := base + (logits.1 - chunk.1).toNat
       responseStart := (logits.1 - sample.firstLogit).toNat
       length := (logits.2 - logits.1).toNat }]
  else []

def halfTokens (chunk : Int × Int) (sample : PackedSample) : Int × Int :=
  (chunkLogitsAndTokens chunk sample.totalLength
    ((sample.totalLength : Int) - sample.responseLength)).2

/-- Either a half holds no logit of the response, or it holds those of successive tokens. -/
inductive HalfShape (chunk : Int × Int) (sample : PackedSample) : Prop
  | empty (logits : chunkLogits chunk sample.totalLength sample.responseLength = (0, 0))
      (tokens : halfTokens chunk sample = (0, 0))
      (spans : ∀ base, halfSpan chunk base sample = [])
  | filled (offset responseStart length : Nat)
      (logits : chunkLogits chunk sample.totalLength sample.responseLength =
        (chunk.1 + offset, chunk.1 + offset + length))
      (tokens : halfTokens chunk sample = (sample.promptLength + responseStart,
        sample.promptLength + responseStart + length))
      (spans : ∀ base, halfSpan chunk base sample = [⟨base + offset, responseStart, length⟩])
      (place : chunk.1 + offset = ((sample.firstLogit + responseStart : Nat) : Int))
      (inChunk : chunk.1 + offset + length ≤ chunk.2)
      (inside : responseStart + length ≤ sample.responseLength)
      (nonempty : 0 < length)

theorem firstLogit_eq (sample : PackedSample) :
    (sample.firstLogit : Int) = (sample.totalLength : Int) - sample.responseLength - 1 := by
  have inSequence := sample.inSequence
  rw [PackedSample.firstLogit, PackedSample.totalLength]
  omega

theorem halfShape (chunk : Int × Int) (sample : PackedSample) : HalfShape chunk sample := by
  have first := firstLogit_eq sample
  by_cases nonempty : max chunk.1 ((sample.totalLength : Int) - sample.responseLength - 1) <
      min chunk.2 ((sample.totalLength : Int) - 1)
  · have logits : chunkLogits chunk sample.totalLength sample.responseLength =
        (max chunk.1 ((sample.totalLength : Int) - sample.responseLength - 1),
          min chunk.2 ((sample.totalLength : Int) - 1)) := by
      rw [chunkLogits, chunkLogitsAndTokens, if_pos nonempty]
    have tokens : halfTokens chunk sample =
        (max chunk.1 ((sample.totalLength : Int) - sample.responseLength - 1) + 1,
          min chunk.2 ((sample.totalLength : Int) - 1) + 1) := by
      rw [halfTokens, chunkLogitsAndTokens, if_pos nonempty]
    generalize lowEq : max chunk.1 ((sample.totalLength : Int) - sample.responseLength - 1) = low
      at nonempty logits tokens
    generalize highEq : min chunk.2 ((sample.totalLength : Int) - 1) = high
      at nonempty logits tokens
    apply HalfShape.filled (low - chunk.1).toNat (low - sample.firstLogit).toNat
      (high - low).toNat
    · rw [logits, Prod.mk.injEq]
      omega
    · rw [tokens, PackedSample.promptLength, Prod.mk.injEq]
      omega
    · intro base
      rw [halfSpan, logits]
      dsimp only
      rw [if_pos nonempty]
    · omega
    · omega
    · omega
    · omega
  · have logits : chunkLogits chunk sample.totalLength sample.responseLength = (0, 0) := by
      rw [chunkLogits, chunkLogitsAndTokens, if_neg nonempty]
    apply HalfShape.empty logits
    · rw [halfTokens, chunkLogitsAndTokens, if_neg nonempty]
    · intro base
      rw [halfSpan, logits, if_neg (by omega)]

theorem slice_half (stream : List α) (base : Nat) :
    slice stream
        (base + ((chunkLogits chunk sample.totalLength sample.responseLength).1 - chunk.1))
        (base + ((chunkLogits chunk sample.totalLength sample.responseLength).2 - chunk.1)) =
      (halfSpan chunk base sample).flatMap (Span.cut stream) := by
  cases halfShape chunk sample with
  | empty logits _ spans => rw [logits, slice_self, spans, List.flatMap_nil]
  | filled offset responseStart length logits _ spans =>
      rw [logits, spans, List.flatMap_singleton, Span.cut, ← slice_natCast]
      congr 1 <;> (dsimp only; omega)

/-- Writing the tokens of a half paints its span. -/
theorem writeHalf_eq {fullTokens : List Int} {base : Nat}
    (fits : ∀ span ∈ halfSpan chunk base sample, span.start + span.length ≤ fullTokens.length) :
    writeHalf sample.tokens base chunk
        (chunkLogits chunk sample.totalLength sample.responseLength) (halfTokens chunk sample)
        fullTokens =
      .ok (paintAll fullTokens ((halfSpan chunk base sample).map
        (Span.block fun index => sample.tokens.getD (sample.firstLogit + 1 + index) 0))) := by
  have first := firstLogit_eq sample
  have inSequence := sample.inSequence
  cases halfShape chunk sample with
  | empty logits tokens spans =>
      rw [writeHalf, logits, tokens, spans, slice_self]
      exact assignSlice_self fullTokens _
  | filled offset responseStart length logits tokens spans place inChunk inside nonempty =>
      rw [spans, List.forall_mem_singleton] at fits
      dsimp only at fits
      have written : slice sample.tokens (sample.promptLength + responseStart)
          (sample.promptLength + responseStart + length) =
            (List.range' responseStart length).map fun index =>
              sample.tokens.getD (sample.firstLogit + 1 + index) 0 := by
        have bounds : sample.promptLength + responseStart =
            ((sample.firstLogit + 1 + responseStart : Nat) : Int) := by
          rw [PackedSample.promptLength]
          omega
        have bounded : sample.firstLogit + 1 + responseStart + length ≤ sample.tokens.length := by
          rw [PackedSample.totalLength] at first
          omega
        rw [bounds, ← Int.natCast_add, slice_natCast, take_drop_eq_map _ bounded,
          Nat.add_sub_cancel_left, List.range'_eq_map_range, List.range'_eq_map_range,
          List.map_map, List.map_map]
        apply List.map_congr_left
        intro index _
        rw [Function.comp_apply, Function.comp_apply, Nat.add_assoc _ responseStart]
      have low : (base : Int) + (chunk.1 + offset - chunk.1) = ((base + offset : Nat) : Int) := by
        omega
      have high : (base : Int) + (chunk.1 + offset + length - chunk.1) =
          ((base + offset + length : Nat) : Int) := by omega
      rw [writeHalf, logits, tokens, spans, written, List.map_singleton, Span.block, Span.tokens]
      dsimp only
      rw [low, high]
      have blockLength : ((List.range' responseStart length).map fun index =>
          sample.tokens.getD (sample.firstLogit + 1 + index) 0).length = length := by
        rw [List.length_map, List.length_range']
      generalize (List.range' responseStart length).map (fun index =>
        sample.tokens.getD (sample.firstLogit + 1 + index) 0) = block at blockLength
      subst blockLength
      exact assignSlice_natCast fits

theorem fillHalf_eq {keep : List (List Bool)} {base vocabLocal : Nat} (vocabStart : Nat)
    (uniform : ∀ line ∈ keep, line.length = vocabLocal)
    (fits : ∀ span ∈ halfSpan chunk base sample, span.start + span.length ≤ keep.length) :
    fillHalf sample vocabStart (vocabStart + vocabLocal) base chunk
        (chunkLogits chunk sample.totalLength sample.responseLength) (halfTokens chunk sample)
        keep =
      .ok (paintAll keep ((halfSpan chunk base sample).map
        (Span.block (sample.nucleusRow vocabStart vocabLocal)))) := by
  cases halfShape chunk sample with
  | empty logits tokens spans =>
      rw [fillHalf, logits, tokens, spans]
      exact fillToppMaskRows_empty keep _ _ _ _ _ _
  | filled offset responseStart length logits tokens spans place inChunk inside nonempty =>
      rw [spans, List.forall_mem_singleton] at fits
      have response : sample.promptLength + responseStart - sample.promptLength =
          (responseStart : Int) := by omega
      have low : (base : Int) + (chunk.1 + offset) - chunk.1 = ((base + offset : Nat) : Int) := by
        omega
      have size : chunk.1 + offset + length - (chunk.1 + offset) = (length : Int) := by omega
      rw [fillHalf, logits, tokens, spans]
      dsimp only
      rw [response, low, size]
      exact fillToppMaskRows_eq uniform inside fits vocabStart

/-- Where the span of a half stands in a slice that begins at `base`. -/
structure InHalf (chunk : Int × Int) (sample : PackedSample) (base chunkSize : Nat) (span : Span) :
    Prop where
  starts : base ≤ span.start
  ends : span.start + span.length ≤ base + chunkSize
  inside : span.responseStart + span.length ≤ sample.responseLength
  position : chunk.1 + ((span.start - base : Nat) : Int) =
    ((sample.firstLogit + span.responseStart : Nat) : Int)

theorem inHalf {base chunkSize : Nat} (sized : chunk.2 = chunk.1 + chunkSize) :
    ∀ span ∈ halfSpan chunk base sample, InHalf chunk sample base chunkSize span := by
  cases halfShape chunk sample with
  | empty _ _ spans =>
      rw [spans]
      exact fun _ member => nomatch member
  | filled offset responseStart length _ _ spans place inChunk inside nonempty =>
      rw [spans, List.forall_mem_singleton]
      constructor
      · dsimp only
        omega
      · dsimp only
        omega
      · exact inside
      · dsimp only
        omega

theorem halfSpan_pairwise (base : Nat) (relation : Span → Span → Prop) :
    (halfSpan chunk base sample).Pairwise relation := by
  rw [halfSpan]
  split
  · exact List.pairwise_singleton _ _
  · exact List.Pairwise.nil

end Half

/-! ## The spans of a sample -/

def StreamLayout.width (layout : StreamLayout) (sample : PackedSample) : Nat :=
  if layout.zigzag then zigzagWidth layout.cpSize sample else sample.totalLength

def chunkSpan (chunkStart chunkEnd base : Nat) (sample : PackedSample) : List Span :=
  let span := globalSpan chunkStart chunkEnd base sample
  if span.stop > span.start then
    [{ start := (span.start - chunkStart).toNat
       responseStart := (span.start - span.logitStart).toNat
       length := (span.stop - span.start).toNat }]
  else []

/-- The spans of a sample that begins at `base`. -/
def StreamLayout.spans (layout : StreamLayout) (cpRank localLength base : Nat)
    (sample : PackedSample) : List Span :=
  if layout.zigzag then
    let chunkSize := cpChunkSize layout.cpSize sample.totalLength
    let chunks := cpChunks layout.cpSize cpRank chunkSize
    halfSpan chunks.first base sample ++ halfSpan chunks.second (base + chunkSize) sample
  else if layout.allgatherCp then
    chunkSpan (cpRank * localLength) (cpRank * localLength + localLength) base sample
  else [{ start := base + sample.firstLogit
          responseStart := 0
          length := sample.responseLength }]

def StreamLayout.chunkStart (layout : StreamLayout) (cpRank localLength : Nat) : Nat :=
  if layout.allgatherCp then cpRank * localLength else 0

section Layout

variable {layout : StreamLayout} {cpRank localLength base : Nat} {sample : PackedSample}

theorem StreamLayout.cases (layout : StreamLayout) (positive : 0 < layout.cpSize) :
    layout.zigzag ∨ (¬ layout.zigzag ∧ layout.allgatherCp = true) ∨
      (¬ layout.zigzag ∧ layout.allgatherCp = false ∧ layout.cpSize = 1) := by
  rw [StreamLayout.zigzag]
  cases layout.allgatherCp with
  | true => exact .inr (.inl ⟨by simp, rfl⟩)
  | false =>
      rcases Nat.lt_or_ge 1 layout.cpSize with parallel | single
      · exact .inl ⟨parallel, rfl⟩
      · exact .inr (.inr ⟨by omega, rfl, by omega⟩)

structure SpanSpec (layout : StreamLayout) (cpRank localLength base : Nat)
    (sample : PackedSample) (span : Span) : Prop where
  inside : span.responseStart + span.length ≤ sample.responseLength
  starts : base ≤ layout.chunkStart cpRank localLength + span.start
  ends : layout.chunkStart cpRank localLength + span.start + span.length ≤
    base + layout.width sample
  fits : layout.allgatherCp = true → span.start + span.length ≤ localLength

theorem chunkSpan_cases (chunkStart chunkEnd base : Nat) (sample : PackedSample) :
    ((globalSpan chunkStart chunkEnd base sample).stop ≤
        (globalSpan chunkStart chunkEnd base sample).start ∧
      chunkSpan chunkStart chunkEnd base sample = []) ∨
    ∃ start responseStart length, 0 < length ∧
      (globalSpan chunkStart chunkEnd base sample).start = ((chunkStart + start : Nat) : Int) ∧
      (globalSpan chunkStart chunkEnd base sample).stop =
        ((chunkStart + start + length : Nat) : Int) ∧
      chunkStart + start = base + sample.firstLogit + responseStart ∧
      chunkStart + start + length ≤ chunkEnd ∧
      responseStart + length ≤ sample.responseLength ∧
      chunkSpan chunkStart chunkEnd base sample = [⟨start, responseStart, length⟩] := by
  have first := firstLogit_eq sample
  rw [chunkSpan]
  by_cases nonempty : (globalSpan chunkStart chunkEnd base sample).stop >
      (globalSpan chunkStart chunkEnd base sample).start
  · rw [if_pos nonempty]
    dsimp only [globalSpan, PackedSample.promptLength] at nonempty ⊢
    refine .inr ⟨_, _, _, ?_, ?_, ?_, ?_, ?_, ?_, rfl⟩
    · omega
    · omega
    · omega
    · omega
    · omega
    · omega
  · rw [if_neg nonempty]
    exact .inl ⟨by omega, rfl⟩

theorem chunkSpan_place (notZigzag : ¬ layout.zigzag) (allgather : layout.allgatherCp = true)
    {span : Span} (inSpans : span ∈ layout.spans cpRank localLength base sample) :
    cpRank * localLength + span.start = base + sample.firstLogit + span.responseStart := by
  rw [StreamLayout.spans, if_neg notZigzag, if_pos allgather] at inSpans
  rcases chunkSpan_cases (cpRank * localLength) (cpRank * localLength + localLength) base sample
    with ⟨_, none⟩ | ⟨start, responseStart, length, _, _, _, place, _, _, spans⟩
  · rw [none] at inSpans
    exact nomatch inSpans
  · rw [spans, List.mem_singleton] at inSpans
    subst inSpans
    exact place

theorem zigzag_sized (cpSize cpRank chunkSize : Nat) :
    (cpChunks cpSize cpRank chunkSize).first.2 =
        (cpChunks cpSize cpRank chunkSize).first.1 + chunkSize ∧
      (cpChunks cpSize cpRank chunkSize).second.2 =
        (cpChunks cpSize cpRank chunkSize).second.1 + chunkSize := by
  dsimp only [cpChunks]
  constructor
  · ring
  · ring

theorem spanSpec (positive : 0 < layout.cpSize) :
    ∀ span ∈ layout.spans cpRank localLength base sample,
      SpanSpec layout cpRank localLength base sample span := by
  intro span member
  rw [StreamLayout.spans] at member
  have first := firstLogit_eq sample
  rcases layout.cases positive with isZigzag | ⟨notZigzag, allgather⟩ | ⟨notZigzag, single⟩
  · rw [if_pos isZigzag] at member
    have sized := zigzag_sized layout.cpSize cpRank
      (cpChunkSize layout.cpSize sample.totalLength)
    have startsAt : layout.chunkStart cpRank localLength = 0 := by
      rw [StreamLayout.chunkStart, isZigzag.2]
      rfl
    have widthEq : layout.width sample = 2 * cpChunkSize layout.cpSize sample.totalLength := by
      rw [StreamLayout.width, if_pos isZigzag, zigzagWidth]
    have notAllgather : ¬ layout.allgatherCp = true := by
      rw [isZigzag.2]
      exact Bool.false_ne_true
    rcases List.mem_append.mp member with inFirst | inSecond
    · have half := inHalf sized.1 span inFirst
      have ends := half.ends
      exact ⟨half.inside, by rw [startsAt, Nat.zero_add]; exact half.starts,
        by rw [startsAt, widthEq]; omega, fun contrary => absurd contrary notAllgather⟩
    · have half := inHalf sized.2 span inSecond
      have starts := half.starts
      have ends := half.ends
      exact ⟨half.inside, by rw [startsAt]; omega,
        by rw [startsAt, widthEq]; omega, fun contrary => absurd contrary notAllgather⟩
  · rw [if_neg notZigzag, if_pos allgather] at member
    have startsAt : layout.chunkStart cpRank localLength = cpRank * localLength := by
      rw [StreamLayout.chunkStart, if_pos allgather]
    have widthEq : layout.width sample = sample.totalLength := by
      rw [StreamLayout.width, if_neg notZigzag]
    rcases chunkSpan_cases (cpRank * localLength) (cpRank * localLength + localLength) base sample
      with ⟨_, none⟩ | ⟨start, responseStart, length, _, _, _, place, inChunk, inside, spans⟩
    · rw [none] at member
      exact nomatch member
    · rw [spans, List.mem_singleton] at member
      subst member
      exact ⟨inside, by rw [startsAt]; dsimp only; omega,
        by rw [startsAt, widthEq]; dsimp only; omega, fun _ => by dsimp only; omega⟩
  · rw [if_neg notZigzag, if_neg (by rw [single.1]; exact Bool.false_ne_true),
      List.mem_singleton] at member
    subst member
    have startsAt : layout.chunkStart cpRank localLength = 0 := by
      rw [StreamLayout.chunkStart, single.1]
      rfl
    have widthEq : layout.width sample = sample.totalLength := by
      rw [StreamLayout.width, if_neg notZigzag]
    constructor
    · dsimp only
      omega
    · rw [startsAt]
      dsimp only
      omega
    · rw [startsAt, widthEq]
      dsimp only
      omega
    · intro contrary
      rw [single.1] at contrary
      exact absurd contrary Bool.false_ne_true

theorem spans_pairwise (positive : 0 < layout.cpSize) :
    (layout.spans cpRank localLength base sample).Pairwise fun earlier later =>
      earlier.start + earlier.length ≤ later.start := by
  rw [StreamLayout.spans]
  rcases layout.cases positive with isZigzag | ⟨notZigzag, allgather⟩ | ⟨notZigzag, single⟩
  · rw [if_pos isZigzag]
    have sized := zigzag_sized layout.cpSize cpRank
      (cpChunkSize layout.cpSize sample.totalLength)
    rw [List.pairwise_append]
    refine ⟨halfSpan_pairwise base _, halfSpan_pairwise _ _, ?_⟩
    intro earlier inFirst later inSecond
    exact Nat.le_trans (inHalf sized.1 earlier inFirst).ends (inHalf sized.2 later inSecond).starts
  · rw [if_neg notZigzag, if_pos allgather, chunkSpan]
    split
    · exact List.pairwise_singleton _ _
    · exact List.Pairwise.nil
  · rw [if_neg notZigzag, if_neg (by rw [single.1]; exact Bool.false_ne_true)]
    exact List.pairwise_singleton _ _

/-! ## What the readers read -/

theorem sampleOffsets_eq {cpSize : Nat} (parallel : 1 < cpSize) (cpRank : Nat)
    (sample : PackedSample) :
    sampleOffsets cpSize cpRank sample =
      .ok (rankOffsets cpSize cpRank sample.totalLength sample.responseLength) :=
  getLogitsAndTokensOffsetWithCp_eq parallel

/-- Every per-sample list is read from the spans of its sample. -/
theorem extractPerSample_eq (positive : 0 < layout.cpSize) (stream : List α)
    (samples : List PackedSample) :
    extractPerSample layout cpRank stream samples =
      .ok (scanSamples layout.width (fun base sample =>
        (layout.spans cpRank stream.length base sample).flatMap (Span.cut stream)) 0 samples) := by
  rw [extractPerSample]
  rcases layout.cases positive with isZigzag | ⟨notZigzag, allgather⟩ | ⟨notZigzag, single⟩
  · have widthEq : layout.width = zigzagWidth layout.cpSize := by
      funext sample
      rw [StreamLayout.width, if_pos isZigzag]
    rw [if_pos isZigzag, widthEq]
    apply loopSamples_collect_one
    intro base sample collected
    rw [extractZigzag, sampleOffsets_eq isZigzag.1, ok_bind, pure_eq_ok, StreamLayout.spans,
      if_pos isZigzag, List.flatMap_append, ← slice_half, ← slice_half]
    rfl
  · have widthEq : layout.width = PackedSample.totalLength := by
      funext sample
      rw [StreamLayout.width, if_neg notZigzag]
    rw [if_neg notZigzag, if_pos allgather, widthEq]
    apply loopSamples_collect_one
    intro base sample collected
    rw [extractAllgather, StreamLayout.spans, if_neg notZigzag, if_pos allgather]
    rcases chunkSpan_cases (cpRank * stream.length) (cpRank * stream.length + stream.length) base
      sample with ⟨isEmpty, none⟩ |
        ⟨start, responseStart, length, some, startEq, stopEq, _, _, _, spans⟩
    · rw [if_pos isEmpty, none, List.flatMap_nil]
      rw [sliceTo, sliceBound, if_neg (by omega)]
      rw [show min (Int.toNat 0) stream.length = 0 from Nat.zero_min _, List.take_zero]
    · rw [startEq, stopEq, if_neg (by omega), spans, List.flatMap_singleton, Span.cut,
        ← slice_natCast]
      congr 3
      congr 1 <;> (dsimp only; omega)
  · have widthEq : layout.width = PackedSample.totalLength := by
      funext sample
      rw [StreamLayout.width, if_neg notZigzag]
    have notAllgather : ¬ layout.allgatherCp = true := by
      rw [single.1]
      exact Bool.false_ne_true
    rw [if_neg notZigzag, if_neg notAllgather, widthEq]
    apply loopSamples_collect_one
    intro base sample collected
    have first := firstLogit_eq sample
    rw [extractWhole, StreamLayout.spans, if_neg notZigzag, if_neg notAllgather,
      List.flatMap_singleton, Span.cut, ← slice_natCast]
    congr 3
    congr 1 <;> (dsimp only; omega)

end Layout

end Vime.Backends.MegatronUtils
