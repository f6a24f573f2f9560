import Vime.Backends.MegatronUtils.Spans

/-! # Writing at the response spans

The shifted tokens and the keep mask as blocks painted at the spans of all samples.
-/

namespace Vime.Backends.MegatronUtils

open Vime.Foundation

/-! ## Blocks -/

section Blocks

variable {layout : StreamLayout} {cpRank localLength base : Nat} {sample : PackedSample}
  {α : Type}

def StreamLayout.blocks (layout : StreamLayout) (cpRank localLength : Nat)
    (entry : PackedSample → Nat → α) (base : Nat) (sample : PackedSample) :
    List (Nat × List α) :=
  (layout.spans cpRank localLength base sample).map (Span.block (entry sample))

theorem length_block (entry : Nat → α) (span : Span) :
    (Span.block entry span).2.length = span.length := by
  rw [Span.block, Span.tokens, List.length_map, List.length_range']

theorem fits_map_block {spans : List Span} {length : Nat} (entry : Nat → α)
    (fits : ∀ span ∈ spans, span.start + span.length ≤ length) :
    Fits length (spans.map (Span.block entry)) := by
  intro block member
  rcases List.mem_map.mp member with ⟨span, inSpans, rfl⟩
  rw [length_block]
  exact fits span inSpans

theorem spans_fit (positive : 0 < layout.cpSize) {limit : Nat}
    (room : layout.allgatherCp = false → limit ≤ localLength)
    (within : base + layout.width sample ≤ limit) :
    ∀ span ∈ layout.spans cpRank localLength base sample,
      span.start + span.length ≤ localLength := by
  intro span member
  have spec := spanSpec positive span member
  cases allgather : layout.allgatherCp with
  | true => exact spec.fits allgather
  | false =>
      have ends := spec.ends
      have roomy := room allgather
      rw [StreamLayout.chunkStart, allgather, if_neg Bool.false_ne_true] at ends
      omega

theorem paintAll_append (target : List α) (first second : List (Nat × List α)) :
    paintAll target (first ++ second) = paintAll (paintAll target first) second :=
  List.foldl_append

end Blocks

/-! ## The keep mask -/

structure Uniform (rows vocabLocal : Nat) (keep : List (List Bool)) : Prop where
  count : keep.length = rows
  lines : ∀ line ∈ keep, line.length = vocabLocal

section KeepMask

variable {layout : StreamLayout} {cpRank localLength base vocabLocal : Nat}
  {sample : PackedSample} {keep : List (List Bool)}

theorem Uniform.paint {start : Nat} {block : List (List Bool)}
    (uniform : Uniform localLength vocabLocal keep) (fits : start + block.length ≤ localLength)
    (lines : ∀ line ∈ block, line.length = vocabLocal) :
    Uniform localLength vocabLocal (paint keep start block) := by
  constructor
  · rw [length_paint (by rw [uniform.count]; exact fits), uniform.count]
  · intro line member
    rw [Foundation.paint, List.mem_append, List.mem_append] at member
    rcases member with (before | own) | after
    · exact uniform.lines line (List.mem_of_mem_take before)
    · exact lines line own
    · exact uniform.lines line (List.mem_of_mem_drop after)

theorem Uniform.paintNuclei (sample : PackedSample) (vocabStart : Nat) {spans : List Span}
    {keep : List (List Bool)} (uniform : Uniform localLength vocabLocal keep)
    (fits : ∀ span ∈ spans, span.start + span.length ≤ localLength) :
    Uniform localLength vocabLocal (paintAll keep
      (spans.map (Span.block (sample.nucleusRow vocabStart vocabLocal)))) := by
  induction spans generalizing keep with
  | nil => exact uniform
  | cons span rest induction =>
      rw [List.map_cons, paintAll, List.foldl_cons]
      apply induction _ fun other member => fits other (List.mem_cons_of_mem _ member)
      apply uniform.paint
      · rw [length_block]
        exact fits span List.mem_cons_self
      · intro line member
        rcases List.mem_map.mp member with ⟨index, _, rfl⟩
        rw [PackedSample.nucleusRow, List.length_map, List.length_range]

def StreamLayout.nuclei (layout : StreamLayout) (cpRank localLength vocabStart vocabLocal : Nat) :
    Nat → PackedSample → List (Nat × List (List Bool)) :=
  layout.blocks cpRank localLength fun sample => sample.nucleusRow vocabStart vocabLocal

theorem spans_zigzag (isZigzag : layout.zigzag) :
    layout.spans cpRank localLength base sample =
      halfSpan (rankOffsets layout.cpSize cpRank sample.totalLength
          sample.responseLength).chunks.first base sample ++
        halfSpan (rankOffsets layout.cpSize cpRank sample.totalLength
          sample.responseLength).chunks.second
          (base + cpChunkSize layout.cpSize sample.totalLength) sample := by
  rw [StreamLayout.spans, if_pos isZigzag]
  rfl

theorem fillZigzag_eq (isZigzag : layout.zigzag) (vocabStart : Nat)
    (uniform : Uniform localLength vocabLocal keep)
    (fits : ∀ span ∈ layout.spans cpRank localLength base sample,
      span.start + span.length ≤ localLength) :
    fillZigzag layout.cpSize cpRank vocabStart (vocabStart + vocabLocal) base sample keep =
      .ok (paintAll keep
        (layout.nuclei cpRank localLength vocabStart vocabLocal base sample)) := by
  rw [StreamLayout.nuclei, StreamLayout.blocks, spans_zigzag isZigzag, List.map_append,
    paintAll_append, fillZigzag, sampleOffsets_eq isZigzag.1, ok_bind]
  rw [spans_zigzag isZigzag] at fits
  have fitsFirst := fun span member => fits span (List.mem_append_left _ member)
  have painted := uniform.paintNuclei sample vocabStart fitsFirst
  have first : fillHalf sample vocabStart (vocabStart + vocabLocal) base _ _ _ keep = .ok _ :=
    fillHalf_eq vocabStart uniform.lines fun span member => by
      rw [uniform.count]
      exact fitsFirst span member
  have second : fillHalf sample vocabStart (vocabStart + vocabLocal)
      (base + cpChunkSize layout.cpSize sample.totalLength) _ _ _ _ = .ok _ :=
    fillHalf_eq vocabStart painted.lines fun span member => by
      rw [painted.count]
      exact fits span (List.mem_append_right _ member)
  exact bind_eq_ok.mpr ⟨_, first, second⟩

theorem fillAllgather_eq (notZigzag : ¬ layout.zigzag) (allgather : layout.allgatherCp = true)
    (vocabStart : Nat) (uniform : Uniform localLength vocabLocal keep)
    (fits : ∀ span ∈ layout.spans cpRank localLength base sample,
      span.start + span.length ≤ localLength) :
    fillAllgather (cpRank * localLength) (cpRank * localLength + localLength) vocabStart
        (vocabStart + vocabLocal) base sample keep =
      .ok (paintAll keep
        (layout.nuclei cpRank localLength vocabStart vocabLocal base sample)) := by
  have first := firstLogit_eq sample
  rw [StreamLayout.nuclei, StreamLayout.blocks, fillAllgather]
  rw [StreamLayout.spans, if_neg notZigzag, if_pos allgather] at fits ⊢
  rcases chunkSpan_cases (cpRank * localLength) (cpRank * localLength + localLength) base sample
    with ⟨isEmpty, none⟩ |
      ⟨start, responseStart, length, some, startEq, stopEq, place, _, inside, spans⟩
  · rw [if_neg (by omega), none]
    rfl
  · rw [spans, List.forall_mem_singleton] at fits
    have response : ((cpRank * localLength + start : Nat) : Int) -
        (globalSpan (cpRank * localLength) (cpRank * localLength + localLength) base
          sample).logitStart = (responseStart : Int) := by
      dsimp only [globalSpan, PackedSample.promptLength]
      omega
    have low : ((cpRank * localLength + start : Nat) : Int) - ((cpRank * localLength : Nat) : Int) =
        (start : Int) := by omega
    have size : ((cpRank * localLength + start + length : Nat) : Int) -
        ((cpRank * localLength + start : Nat) : Int) = (length : Int) := by omega
    rw [spans, startEq, stopEq, if_pos (by omega), response, low, size,
      fillToppMaskRows_eq uniform.lines inside (by rw [uniform.count]; exact fits) vocabStart]
    rfl

theorem fillWhole_eq (notZigzag : ¬ layout.zigzag) (whole : layout.allgatherCp = false)
    (vocabStart : Nat) (uniform : Uniform localLength vocabLocal keep)
    (fits : ∀ span ∈ layout.spans cpRank localLength base sample,
      span.start + span.length ≤ localLength) :
    fillWhole vocabStart (vocabStart + vocabLocal) base sample keep =
      .ok (paintAll keep
        (layout.nuclei cpRank localLength vocabStart vocabLocal base sample)) := by
  have first := firstLogit_eq sample
  rw [StreamLayout.nuclei, StreamLayout.blocks, fillWhole]
  rw [StreamLayout.spans, if_neg notZigzag, whole, if_neg Bool.false_ne_true,
    List.forall_mem_singleton] at fits
  rw [StreamLayout.spans, if_neg notZigzag, whole, if_neg Bool.false_ne_true]
  have low : (base : Int) + sample.totalLength - sample.responseLength - 1 =
      ((base + sample.firstLogit : Nat) : Int) := by omega
  rw [low]
  exact fillToppMaskRows_eq uniform.lines (Nat.le_of_eq (Nat.zero_add _))
    (by rw [uniform.count]; exact fits) vocabStart

/-- The keep mask is all true outside the spans and holds the nuclei on them. -/
theorem buildToppKeepMask_eq (rank : StreamRank) (vocabLocal : Nat)
    (positive : 0 < layout.cpSize) {samples : List PackedSample}
    (room : layout.allgatherCp = false → (samples.map layout.width).sum ≤ localLength) :
    buildToppKeepMask layout rank localLength vocabLocal samples =
      .ok (paintAll (List.replicate localLength (List.replicate vocabLocal true))
        (scanSamples layout.width
          (layout.nuclei rank.cpRank localLength (rank.tpRank * vocabLocal) vocabLocal) 0
          samples).flatten) := by
  have initial : Uniform localLength vocabLocal
      (List.replicate localLength (List.replicate vocabLocal true)) := by
    constructor
    · exact List.length_replicate
    · intro line member
      rw [List.eq_of_mem_replicate member, List.length_replicate]
  have fits : ∀ base sample, base + layout.width sample ≤ (samples.map layout.width).sum →
      ∀ span ∈ layout.spans rank.cpRank localLength base sample,
        span.start + span.length ≤ localLength :=
    fun base sample within => spans_fit positive room within
  have kept : ∀ base sample state, base + layout.width sample ≤ (samples.map layout.width).sum →
      Uniform localLength vocabLocal state →
        Uniform localLength vocabLocal (paintAll state (layout.nuclei rank.cpRank localLength
          (rank.tpRank * vocabLocal) vocabLocal base sample)) :=
    fun base sample state within uniform =>
      uniform.paintNuclei sample (rank.tpRank * vocabLocal) (fits base sample within)
  have run (step : Nat → PackedSample → List (List Bool) → Except PyException (List (List Bool)))
      (paints : ∀ base sample state,
        base + layout.width sample ≤ (samples.map layout.width).sum →
          Uniform localLength vocabLocal state → step base sample state =
            .ok (paintAll state (layout.nuclei rank.cpRank localLength (rank.tpRank * vocabLocal)
              vocabLocal base sample))) :
      loopSamples layout.width step 0 samples
          (List.replicate localLength (List.replicate vocabLocal true)) = .ok _ :=
    loopSamples_paint (Uniform localLength vocabLocal) (samples.map layout.width).sum
      (fun base sample state within uniform =>
        ⟨paints base sample state within uniform, kept base sample state within uniform⟩)
      0 samples _ (Nat.le_of_eq (Nat.zero_add _)) initial
  rw [buildToppKeepMask]
  rcases layout.cases positive with isZigzag | ⟨notZigzag, allgather⟩ | ⟨notZigzag, single⟩
  · have widthEq : layout.width = zigzagWidth layout.cpSize := by
      funext sample
      rw [StreamLayout.width, if_pos isZigzag]
    rw [if_pos isZigzag, ← widthEq]
    apply run
    intro base sample state within uniform
    exact fillZigzag_eq isZigzag _ uniform (fits base sample within)
  · have widthEq : layout.width = PackedSample.totalLength := by
      funext sample
      rw [StreamLayout.width, if_neg notZigzag]
    rw [if_neg notZigzag, if_pos allgather, ← widthEq]
    apply run
    intro base sample state within uniform
    exact fillAllgather_eq notZigzag allgather _ uniform (fits base sample within)
  · have widthEq : layout.width = PackedSample.totalLength := by
      funext sample
      rw [StreamLayout.width, if_neg notZigzag]
    rw [if_neg notZigzag, if_neg (by rw [single.1]; exact Bool.false_ne_true), ← widthEq]
    apply run
    intro base sample state within uniform
    exact fillWhole_eq notZigzag single.1 _ uniform (fits base sample within)

end KeepMask

/-! ## The order of the blocks -/

section Order

variable {layout : StreamLayout} {cpRank localLength : Nat} {α : Type}

def StreamLayout.offset (layout : StreamLayout) (samples : List PackedSample) (i : Nat) : Nat :=
  ((samples.take i).map layout.width).sum

theorem offset_within {samples : List PackedSample} {i : Nat} {sample : PackedSample}
    (found : samples[i]? = some sample) :
    layout.offset samples i + layout.width sample ≤ (samples.map layout.width).sum := by
  rcases List.getElem?_eq_some_iff.mp found with ⟨inside, rfl⟩
  have split := congrArg (fun list => (List.map layout.width list).sum)
    (List.take_append_drop (i + 1) samples)
  rw [StreamLayout.offset]
  rw [List.take_succ_eq_append_getElem inside, List.map_append, List.map_append,
    List.map_singleton, List.sum_append, List.sum_append, List.sum_singleton] at split
  omega

theorem mem_scan_blocks {samples : List PackedSample} {visit : Nat → PackedSample → List α}
    {block : α} :
    block ∈ (scanSamples layout.width visit 0 samples).flatten ↔
      ∃ i sample, samples[i]? = some sample ∧
        block ∈ visit (layout.offset samples i) sample := by
  rw [List.mem_flatten]
  constructor
  · rintro ⟨blocks, member, inBlocks⟩
    rcases List.mem_iff_getElem?.mp member with ⟨i, found⟩
    rw [getElem?_scanSamples, Option.map_eq_some_iff, Nat.zero_add] at found
    rcases found with ⟨sample, isSample, rfl⟩
    exact ⟨i, sample, isSample, inBlocks⟩
  · rintro ⟨i, sample, isSample, inBlocks⟩
    refine ⟨_, List.mem_iff_getElem?.mpr ⟨i, ?_⟩, inBlocks⟩
    rw [getElem?_scanSamples, isSample, Nat.zero_add]
    rfl

theorem scan_blocks_fit (positive : 0 < layout.cpSize) (entry : PackedSample → Nat → α)
    {samples : List PackedSample}
    (room : layout.allgatherCp = false → (samples.map layout.width).sum ≤ localLength) :
    Fits localLength (scanSamples layout.width (layout.blocks cpRank localLength entry) 0
      samples).flatten := by
  intro block member
  rcases mem_scan_blocks.mp member with ⟨i, sample, isSample, inBlocks⟩
  exact fits_map_block (entry sample) (spans_fit positive room (offset_within isSample)) block
    inBlocks

theorem scan_blocks_ordered (positive : 0 < layout.cpSize) (entry : PackedSample → Nat → α)
    (samples : List PackedSample) :
    Ordered (scanSamples layout.width (layout.blocks cpRank localLength entry) 0
      samples).flatten := by
  have inItem : ∀ base sample, ∀ block ∈ layout.blocks cpRank localLength entry base sample,
      base ≤ layout.chunkStart cpRank localLength + block.1 ∧
        layout.chunkStart cpRank localLength + block.1 + block.2.length ≤
          base + layout.width sample := by
    intro base sample block member
    rcases List.mem_map.mp member with ⟨span, inSpans, rfl⟩
    have spec := spanSpec positive span inSpans
    rw [length_block]
    exact ⟨spec.starts, spec.ends⟩
  have inOrder : ∀ base sample, (layout.blocks cpRank localLength entry base sample).Pairwise
      fun earlier later => layout.chunkStart cpRank localLength + earlier.1 + earlier.2.length ≤
        layout.chunkStart cpRank localLength + later.1 := by
    intro base sample
    rw [StreamLayout.blocks, List.pairwise_map]
    apply (spans_pairwise positive).imp
    intro earlier later before
    rw [length_block, Nat.add_assoc]
    exact Nat.add_le_add_left before _
  have ordered := (scanSamples_ordered _ _ inItem inOrder 0 samples).1
  apply ordered.imp
  intro earlier later before
  rw [Nat.add_assoc] at before
  exact Nat.le_of_add_le_add_left before

theorem getElem?_scan_blocks (positive : 0 < layout.cpSize) (entry : PackedSample → Nat → α)
    {samples : List PackedSample} {target : List α} (sized : target.length = localLength)
    (room : layout.allgatherCp = false → (samples.map layout.width).sum ≤ localLength)
    {i : Nat} {sample : PackedSample} (isSample : samples[i]? = some sample) {span : Span}
    (inSpans : span ∈ layout.spans cpRank localLength (layout.offset samples i) sample)
    {index : Nat} (inside : index < span.length) :
    (paintAll target (scanSamples layout.width (layout.blocks cpRank localLength entry) 0
      samples).flatten)[span.start + index]? = some (entry sample (span.responseStart + index)) := by
  have member : Span.block (entry sample) span ∈ (scanSamples layout.width
      (layout.blocks cpRank localLength entry) 0 samples).flatten :=
    mem_scan_blocks.mpr ⟨i, sample, isSample, List.mem_map_of_mem inSpans⟩
  have inBlock : index < (Span.block (entry sample) span).2.length := by rwa [length_block]
  have fits : Fits target.length (scanSamples layout.width
      (layout.blocks cpRank localLength entry) 0 samples).flatten := by
    rw [sized]
    exact scan_blocks_fit positive entry room
  have found := getElem?_paintAll member inBlock fits (scan_blocks_ordered positive entry samples)
  have read : (Span.block (entry sample) span).2[index]? =
      some (entry sample (span.responseStart + index)) := by
    rw [Span.block, Span.tokens, List.getElem?_map, List.getElem?_range' inside, Nat.one_mul]
    rfl
  rw [read] at found
  exact found

end Order

end Vime.Backends.MegatronUtils
