import Vime.Backends.MegatronUtils.PackedStream

/-! # The layouts of a micro-batch

All readers of a packed micro-batch find the same row for a response token: the row whose
packed token stands before it.
-/

namespace Vime.Backends.MegatronUtils

open Vime.Foundation

/-! ## Shifted tokens -/

section Shifted

variable {layout : StreamLayout} {cpRank localLength base : Nat} {sample : PackedSample}

def PackedSample.target (sample : PackedSample) (index : Nat) : Int :=
  sample.tokens.getD (sample.firstLogit + 1 + index) 0

theorem shiftZigzag_eq (isZigzag : layout.zigzag) {fullTokens : List Int}
    (sized : fullTokens.length = localLength)
    (fits : ∀ span ∈ layout.spans cpRank localLength base sample,
      span.start + span.length ≤ localLength) :
    shiftZigzag layout.cpSize cpRank base sample fullTokens =
      .ok (paintAll fullTokens
        (layout.blocks cpRank localLength PackedSample.target base sample)) := by
  rw [StreamLayout.blocks, spans_zigzag isZigzag, List.map_append, paintAll_append, shiftZigzag,
    sampleOffsets_eq isZigzag.1, ok_bind]
  rw [spans_zigzag isZigzag, ← sized] at fits
  have fitsFirst := fun span member => fits span (List.mem_append_left _ member)
  have painted := length_paintAll (fits_map_block sample.target fitsFirst)
  have first : writeHalf sample.tokens base _ _ _ fullTokens = .ok _ := writeHalf_eq fitsFirst
  have second : writeHalf sample.tokens
      (base + cpChunkSize layout.cpSize sample.totalLength) _ _ _ _ = .ok _ :=
    writeHalf_eq fun span member => by
      rw [painted]
      exact fits span (List.mem_append_right _ member)
  exact bind_eq_ok.mpr ⟨_, first, second⟩

theorem shiftWhole_eq {fullTokens : List Int}
    (fits : base + sample.totalLength ≤ fullTokens.length) :
    shiftWhole base sample fullTokens =
      .ok (paintAll fullTokens [(base, sample.tokens.drop 1)]) := by
  have inSequence := sample.inSequence
  have cut : slice sample.tokens 1 sample.totalLength = sample.tokens.drop 1 := by
    rw [← Int.natCast_one, slice_natCast, PackedSample.totalLength, List.take_length]
  have bound : (base : Int) + sample.totalLength - 1 =
      ((base + (sample.tokens.drop 1).length : Nat) : Int) := by
    rw [List.length_drop, PackedSample.totalLength]
    omega
  rw [shiftWhole, cut, bound, assignSlice_natCast]
  · rfl
  · rw [PackedSample.totalLength] at fits
    rw [List.length_drop]
    omega

/-- The tokens of all samples, each moved to the row before its own. -/
theorem shiftWhole_run (samples : List PackedSample) {length : Nat}
    (room : (samples.map PackedSample.totalLength).sum ≤ length) :
    ∃ fullTokens, loopSamples PackedSample.totalLength shiftWhole 0 samples
        (List.replicate length 0) = .ok fullTokens ∧ fullTokens.length = length ∧
      ∀ (i : Nat) sample, samples[i]? = some sample → ∀ position < sample.totalLength - 1,
        fullTokens[((samples.take i).map PackedSample.totalLength).sum + position]? =
          some (sample.tokens.getD (position + 1) 0) := by
  let visit (base : Nat) (sample : PackedSample) : List (Nat × List Int) :=
    [(base, sample.tokens.drop 1)]
  have inItem : ∀ base sample, ∀ block ∈ visit base sample,
      base ≤ block.1 ∧ block.1 + block.2.length ≤ base + sample.totalLength := by
    intro base sample block member
    rw [List.mem_singleton.mp member, List.length_drop, PackedSample.totalLength]
    omega
  have ordered := scanSamples_ordered Prod.fst (fun block : Nat × List Int => block.1 + block.2.length)
    inItem
    (fun base sample => List.pairwise_singleton _ _) 0 samples
  have initial : (List.replicate length (0 : Int)).length = length := List.length_replicate
  have fits : Fits length
      (scanSamples PackedSample.totalLength visit 0 samples).flatten := by
    intro block member
    have ends := (ordered.2 block member).2
    omega
  refine ⟨paintAll (List.replicate length 0)
    (scanSamples PackedSample.totalLength visit 0 samples).flatten, ?_, ?_, ?_⟩
  · apply loopSamples_paint (fun state => state.length = length) length
    · intro base sample state within sized
      refine ⟨shiftWhole_eq (by omega), ?_⟩
      rw [length_paintAll, sized]
      intro block member
      have ends := (inItem base sample block member).2
      omega
    · omega
    · exact initial
  · rw [length_paintAll (by rwa [initial]), initial]
  · intro i sample isSample position inside
    have member : (((samples.take i).map PackedSample.totalLength).sum, sample.tokens.drop 1) ∈
        (scanSamples PackedSample.totalLength visit 0 samples).flatten := by
      rw [List.mem_flatten]
      refine ⟨_, List.mem_iff_getElem?.mpr ⟨i, ?_⟩, List.mem_singleton_self _⟩
      rw [getElem?_scanSamples, isSample, Nat.zero_add]
      rfl
    have inTokens : 1 + position < sample.tokens.length := by
      rw [PackedSample.totalLength] at inside
      omega
    have inBlock : position < (sample.tokens.drop 1).length := by
      rw [List.length_drop]
      omega
    have fitsInitial : Fits (List.replicate length (0 : Int)).length
        (scanSamples PackedSample.totalLength visit 0 samples).flatten := by rwa [initial]
    have found := getElem?_paintAll member inBlock fitsInitial ordered.1
    rw [found, List.getElem?_drop, Nat.add_comm position, List.getD_eq_getElem _ _ inTokens,
      List.getElem?_eq_getElem inTokens]

theorem localChunk_reads (cpRank localLength : Nat) {fullTokens : List Int} {globalLength : Nat}
    (sized : fullTokens.length = globalLength) :
    ∃ shifted, localChunk cpRank localLength globalLength fullTokens = .ok shifted ∧
      ∀ row < localLength, cpRank * localLength + row < globalLength →
        shifted[row]? = fullTokens[cpRank * localLength + row]? := by
  generalize chunkStartEq : cpRank * localLength = chunkStart
  rw [localChunk, chunkStartEq]
  dsimp only
  by_cases whole : chunkStart + localLength ≤ globalLength
  · rw [if_pos whole]
    refine ⟨_, rfl, fun row inside inGlobal => ?_⟩
    rw [slice_natCast, List.getElem?_drop, List.getElem?_take, if_pos (by omega)]
  · rw [if_neg whole]
    by_cases some : (globalLength : Int) - chunkStart > 0
    · have tail : sliceFrom fullTokens (chunkStart : Int) = fullTokens.drop chunkStart :=
        sliceFrom_natCast fullTokens chunkStart
      have tailLength : (fullTokens.drop chunkStart).length = globalLength - chunkStart := by
        rw [List.length_drop, sized]
      have stored : assignSlice (List.replicate localLength (0 : Int)) ((0 : Nat) : Int)
          ((0 + (fullTokens.drop chunkStart).length : Nat) : Int) (fullTokens.drop chunkStart) =
            .ok _ := assignSlice_natCast (by rw [List.length_replicate, tailLength]; omega)
      have bound : ((0 + (fullTokens.drop chunkStart).length : Nat) : Int) =
          (globalLength : Int) - chunkStart := by
        rw [tailLength]
        omega
      rw [bound] at stored
      rw [if_pos some, tail]
      refine ⟨_, stored, fun row inside inGlobal => ?_⟩
      rw [List.take_zero, List.nil_append, List.getElem?_append_left (by rw [tailLength]; omega),
        List.getElem?_drop]
    · rw [if_neg some]
      refine ⟨_, rfl, fun row inside inGlobal => ?_⟩
      omega

/-- The shifted tokens hold the target of every response token in its row. -/
theorem buildShiftedTokens_reads (cpRank : Nat) (positive : 0 < layout.cpSize)
    {samples : List PackedSample}
    (room : layout.allgatherCp = false → (samples.map layout.width).sum ≤ localLength) :
    ∃ shifted, buildShiftedTokens layout cpRank localLength samples = .ok shifted ∧
      ∀ i sample, samples[i]? = some sample →
        ∀ span ∈ layout.spans cpRank localLength (layout.offset samples i) sample,
          ∀ index < span.length, shifted[span.start + index]? =
            some (sample.target (span.responseStart + index)) := by
  rw [buildShiftedTokens]
  rcases layout.cases positive with isZigzag | ⟨notZigzag, allgather⟩ | ⟨notZigzag, single⟩
  · have widthEq : layout.width = zigzagWidth layout.cpSize := by
      funext sample
      rw [StreamLayout.width, if_pos isZigzag]
    have initial : (List.replicate localLength (0 : Int)).length = localLength :=
      List.length_replicate
    refine ⟨paintAll (List.replicate localLength 0) (scanSamples layout.width
      (layout.blocks cpRank localLength PackedSample.target) 0 samples).flatten, ?_, ?_⟩
    · rw [if_pos isZigzag, ← widthEq]
      apply loopSamples_paint (fun state => state.length = localLength)
        (samples.map layout.width).sum
      · intro base sample state within sized
        have fits : ∀ span ∈ layout.spans cpRank localLength base sample,
            span.start + span.length ≤ localLength := spans_fit positive room within
        refine ⟨shiftZigzag_eq isZigzag sized fits, ?_⟩
        rw [length_paintAll, sized]
        rw [sized]
        exact fits_map_block sample.target fits
      · omega
      · exact initial
    · intro i sample isSample span inSpans index inside
      exact getElem?_scan_blocks positive PackedSample.target initial room isSample inSpans inside
  · have widthEq : layout.width = PackedSample.totalLength := by
      funext sample
      rw [StreamLayout.width, if_neg notZigzag]
    rcases shiftWhole_run samples (Nat.le_refl _) with ⟨full, ran, sized, reads⟩
    rw [if_neg notZigzag]
    dsimp only
    rw [if_pos allgather, ran, ok_bind, if_pos allgather]
    -- A span of the rank reads the whole stream behind the start of its chunk.
    have readsSpan : ∀ i sample, samples[i]? = some sample →
        ∀ span ∈ layout.spans cpRank localLength (layout.offset samples i) sample,
          ∀ index < span.length,
            cpRank * localLength + span.start + index < (samples.map PackedSample.totalLength).sum ∧
            span.start + index < localLength ∧
            full[cpRank * localLength + (span.start + index)]? =
              some (sample.target (span.responseStart + index)) := by
      intro i sample isSample span inSpans index inside
      have spec := spanSpec positive span inSpans
      have fits := spec.fits allgather
      have ends := spec.ends
      have within : layout.offset samples i + layout.width sample ≤ _ := offset_within isSample
      rw [StreamLayout.chunkStart, if_pos allgather] at ends
      rw [widthEq] at ends within
      have place := chunkSpan_place notZigzag allgather inSpans
      have inResponse := spec.inside
      have first := firstLogit_eq sample
      have found := reads i sample isSample (sample.firstLogit + (span.responseStart + index))
        (by omega)
      rw [StreamLayout.offset, widthEq] at place within
      refine ⟨by omega, by omega, ?_⟩
      rw [PackedSample.target, show sample.firstLogit + 1 + (span.responseStart + index) =
        sample.firstLogit + (span.responseStart + index) + 1 by omega, ← found]
      congr 1
      omega
    rcases localChunk_reads cpRank localLength sized with ⟨shifted, chunked, readsChunk⟩
    refine ⟨shifted, chunked, ?_⟩
    intro i sample isSample span inSpans index inside
    rcases readsSpan i sample isSample span inSpans index inside with ⟨inWhole, inChunk, found⟩
    rw [readsChunk _ inChunk (by omega), found]
  · have widthEq : layout.width = PackedSample.totalLength := by
      funext sample
      rw [StreamLayout.width, if_neg notZigzag]
    have notAllgather : ¬ layout.allgatherCp = true := by
      rw [single.1]
      exact Bool.false_ne_true
    have roomy := room single.1
    rw [widthEq] at roomy
    rcases shiftWhole_run samples roomy with ⟨full, ran, sized, reads⟩
    rw [if_neg notZigzag]
    dsimp only
    rw [if_neg notAllgather, ran, ok_bind, if_neg notAllgather, pure_eq_ok]
    refine ⟨full, rfl, ?_⟩
    intro i sample isSample span inSpans index inside
    rw [StreamLayout.spans, if_neg notZigzag, if_neg notAllgather, List.mem_singleton] at inSpans
    subst inSpans
    have first := firstLogit_eq sample
    dsimp only at inside ⊢
    have found := reads i sample isSample (sample.firstLogit + index) (by omega)
    rw [PackedSample.target, Nat.zero_add, show sample.firstLogit + 1 + index =
      sample.firstLogit + index + 1 by omega, ← found, StreamLayout.offset, widthEq,
      Nat.add_assoc]

end Shifted

end Vime.Backends.MegatronUtils
