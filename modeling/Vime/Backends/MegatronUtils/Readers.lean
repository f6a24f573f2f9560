import Vime.Backends.MegatronUtils.Layouts

/-! # The readers of a micro-batch

What `getBatch`, the shifted tokens, the keep mask and the extraction of per-sample lists have
in the rows of the response tokens.
-/

namespace Vime.Backends.MegatronUtils

open Vime.Foundation

/-! ## The batch -/

theorem PackedSample.alignedMask_eq (sample : PackedSample) :
    sample.alignedMask = List.replicate sample.firstLogit 0 ++ sample.lossMask ++ [0] := by
  have first := firstLogit_eq sample
  have left : sample.promptLength - 1 = (sample.firstLogit : Int) := by
    rw [PackedSample.promptLength, first]
  rw [PackedSample.alignedMask, left, ← Int.natCast_one, fPad_natCast]
  rfl

theorem PackedSample.length_alignedMask (sample : PackedSample) :
    sample.alignedMask.length = sample.totalLength := by
  have first := firstLogit_eq sample
  rw [sample.alignedMask_eq, List.length_append, List.length_append, List.length_replicate,
    sample.maskLength, List.length_singleton]
  omega

theorem PackedSample.getElem?_alignedMask (sample : PackedSample) {index : Nat}
    (inside : index < sample.responseLength) :
    sample.alignedMask[sample.firstLogit + index]? = sample.lossMask[index]? := by
  have inMask : index < sample.lossMask.length := by rwa [sample.maskLength]
  rw [sample.alignedMask_eq, List.append_assoc,
    List.getElem?_append_right (by rw [List.length_replicate]; omega), List.length_replicate,
    Nat.add_sub_cancel_left, List.getElem?_append_left inMask]

section Batch

variable {layout : StreamLayout} {cpRank : Nat} {samples : List PackedSample}

theorem aligned_tokens (samples : List PackedSample) :
    Aligned (samples.map PackedSample.tokens) samples := by
  rw [Aligned, List.map_map]
  rfl

theorem aligned_masks (samples : List PackedSample) :
    Aligned (samples.map PackedSample.alignedMask) samples := by
  rw [Aligned, List.map_map]
  apply List.map_congr_left
  intro sample _
  exact sample.length_alignedMask

/-- The batch has the tokens and the loss masks of the response at the rows of the spans. -/
theorem getBatch_reads (isRank : cpRank < layout.cpSize) (padPositive : layout.padUnit ≠ 0)
    (nonempty : samples ≠ []) :
    ∃ batch, getBatch layout cpRank samples = .ok batch ∧
      batch.tokens.length = layout.localLength samples ∧
      ∀ i sample, samples[i]? = some sample →
        ∀ span ∈ layout.spans cpRank (layout.localLength samples) (layout.offset samples i) sample,
          ∀ index < span.length,
            batch.tokens[span.start + index]? =
                sample.tokens[sample.firstLogit + (span.responseStart + index)]? ∧
              batch.fullLossMasks[span.start + index]? =
                sample.lossMask[span.responseStart + index]? := by
  have padEq : padCount layout.padUnit
      (layout.joined cpRank (samples.map PackedSample.tokens) 0).length =
        layout.padding samples := by
    rw [length_joined isRank (aligned_tokens samples), StreamLayout.padding]
  have isNonempty : ¬ samples.isEmpty = true := fun empty => nonempty (List.isEmpty_iff.mp empty)
  rcases localStream_eq_ok isRank padPositive (aligned_tokens samples) 0 with
    ⟨tokens, tokensEq, tokensLength, _⟩
  rcases localStream_eq_ok isRank padPositive (aligned_masks samples) 0 with
    ⟨masks, masksEq, masksLength, _⟩
  refine ⟨⟨tokens, masks⟩, ?_, tokensLength, ?_⟩
  · rw [getBatch]
    dsimp only
    rw [raiseIf, if_neg isNonempty, ok_bind, raiseIf, if_neg padPositive, ok_bind, padEq,
      tokensEq, ok_bind, masksEq, ok_bind, raiseIf,
      if_neg (by rw [tokensLength, masksLength, ne_eq, not_not]), ok_bind, pure_eq_ok]
  · intro i sample isSample span inSpans index inside
    have inResponse := (spanSpec (Nat.zero_lt_of_lt isRank) span inSpans).inside
    have token := localStream_reads isRank padPositive (aligned_tokens samples) 0 isSample
      (by rw [List.getElem?_map, isSample]; rfl) tokensEq inSpans inside
    have mask := localStream_reads isRank padPositive (aligned_masks samples) 0 isSample
      (by rw [List.getElem?_map, isSample]; rfl) masksEq inSpans inside
    rw [Nat.add_assoc] at token mask
    rw [sample.getElem?_alignedMask (by omega)] at mask
    exact ⟨token, mask⟩

end Batch

/-! ## The rows -/

theorem Span.cut_eq {α : Type} (stream : List α) (span : Span) :
    Span.cut stream span = span.rows.filterMap fun row => stream[row]? := by
  rw [Span.cut, Span.rows]
  generalize span.start = start
  induction span.length generalizing start with
  | zero => rw [Nat.add_zero, List.drop_take_self, List.range'_zero, List.filterMap_nil]
  | succ length induction =>
      have next := induction (start + 1)
      rw [show start + 1 + length = start + (length + 1) by omega] at next
      rw [List.range'_succ, List.filterMap_cons, ← next]
      rcases Nat.lt_or_ge start stream.length with inside | outside
      · rw [List.getElem?_eq_getElem inside, List.drop_eq_getElem_cons (by
          rw [List.length_take]
          omega), List.getElem_take]
      · rw [List.getElem?_eq_none outside, List.drop_eq_nil_of_le (by
          rw [List.length_take]
          omega), List.drop_eq_nil_of_le (by
          rw [List.length_take]
          omega)]

section Rows

variable {layout : StreamLayout} {cpRank localLength : Nat} {samples : List PackedSample}

def StreamLayout.rows (layout : StreamLayout) (cpRank localLength : Nat)
    (samples : List PackedSample) : List (List Nat) :=
  scanSamples layout.width (fun base sample =>
    (layout.spans cpRank localLength base sample).flatMap Span.rows) 0 samples

theorem getElem?_rows (layout : StreamLayout) (cpRank localLength : Nat)
    (samples : List PackedSample) (i : Nat) : (layout.rows cpRank localLength samples)[i]? =
    samples[i]?.map fun sample =>
      (layout.spans cpRank localLength (layout.offset samples i) sample).flatMap Span.rows := by
  rw [StreamLayout.rows, getElem?_scanSamples, Nat.zero_add]
  rfl

theorem extractPerSample_rows {α : Type} (positive : 0 < layout.cpSize) {stream : List α}
    (sized : stream.length = localLength) (samples : List PackedSample) :
    extractPerSample layout cpRank stream samples =
      .ok ((layout.rows cpRank localLength samples).map fun read =>
        read.filterMap fun row => stream[row]?) := by
  rw [extractPerSample_eq positive, StreamLayout.rows, map_scanSamples, sized]
  congr 2
  funext base sample
  rw [List.filterMap_flatMap]
  congr 1
  funext span
  exact Span.cut_eq stream span

end Rows

/-! ## Agreement -/

structure RowAgrees (batch : PackedBatch) (shifted : List Int) (keep : List (List Bool))
    (vocabStart vocabLocal : Nat) (sample : PackedSample) (index row : Nat) : Prop where
  inResponse : index < sample.responseLength
  inStream : row < batch.tokens.length
  input : batch.tokens[row]? = sample.tokens[sample.firstLogit + index]?
  target : shifted[row]? = sample.tokens[sample.firstLogit + 1 + index]?
  mask : batch.fullLossMasks[row]? = sample.lossMask[index]?
  kept : keep[row]? = some (sample.nucleusRow vocabStart vocabLocal index)

/-- The readers agree on the rows of a rank. -/
structure ReadersAgree (layout : StreamLayout) (rank : StreamRank) (vocabLocal : Nat)
    (samples : List PackedSample) (batch : PackedBatch) (shifted : List Int)
    (keep : List (List Bool)) (rows : List (List Nat)) : Prop where
  extracted : ∀ {α : Type} (stream : List α), stream.length = batch.tokens.length →
    extractPerSample layout rank.cpRank stream samples =
      .ok (rows.map fun read => read.filterMap fun row => stream[row]?)
  count : rows.length = samples.length
  agree : ∀ i sample read, samples[i]? = some sample → rows[i]? = some read →
    List.Forall₂ (RowAgrees batch shifted keep (rank.tpRank * vocabLocal) vocabLocal sample)
      (layout.heldTokens rank.cpRank batch.tokens.length (layout.offset samples i) sample) read
  others : ∀ row < batch.tokens.length, (∀ read ∈ rows, row ∉ read) →
    keep[row]? = some (List.replicate vocabLocal true)

section Agreement

variable {layout : StreamLayout} {rank : StreamRank} {samples : List PackedSample}

theorem mem_block_iff {α : Type} (entry : Nat → α) (span : Span) (row : Nat) :
    ((Span.block entry span).1 ≤ row ∧
        row < (Span.block entry span).1 + (Span.block entry span).2.length) ↔
      row ∈ span.rows := by
  rw [length_block, Span.rows, List.mem_range'_1]
  rfl

/-- The four readers return, and they agree. -/
theorem exists_readersAgree (isRank : rank.cpRank < layout.cpSize)
    (padPositive : layout.padUnit ≠ 0) (nonempty : samples ≠ []) (vocabLocal : Nat) :
    ∃ batch shifted keep,
      getBatch layout rank.cpRank samples = .ok batch ∧
      batch.tokens.length = layout.localLength samples ∧
      buildShiftedTokens layout rank.cpRank batch.tokens.length samples = .ok shifted ∧
      buildToppKeepMask layout rank batch.tokens.length vocabLocal samples = .ok keep ∧
      ReadersAgree layout rank vocabLocal samples batch shifted keep
        (layout.rows rank.cpRank batch.tokens.length samples) := by
  have positive := Nat.zero_lt_of_lt isRank
  have room := room_of_localLength layout samples
  rcases getBatch_reads isRank padPositive nonempty with ⟨batch, batchEq, sized, batchReads⟩
  rcases buildShiftedTokens_reads rank.cpRank positive room with
    ⟨shifted, shiftedEq, shiftedReads⟩
  have keepEq := buildToppKeepMask_eq rank vocabLocal positive room
  refine ⟨batch, shifted, _, batchEq, sized, by rw [sized]; exact shiftedEq,
    by rw [sized]; exact keepEq, ?_⟩
  rw [sized]
  have initial : (List.replicate (layout.localLength samples)
      (List.replicate vocabLocal true)).length = layout.localLength samples :=
    List.length_replicate
  constructor
  · intro α stream streamSized
    exact extractPerSample_rows positive (streamSized.trans sized) samples
  · rw [StreamLayout.rows, length_scanSamples]
  · intro i sample read isSample isRead
    rw [getElem?_rows, isSample, Option.map_some, Option.some.injEq] at isRead
    rw [← isRead, sized, ← spans_tokens isRank]
    apply forall₂_flatMap
    intro span inSpans
    apply forall₂_range'
    intro offset inside
    have inResponse := (spanSpec positive span inSpans).inside
    have fits := spans_fit positive room (offset_within isSample) span inSpans
    have target := shiftedReads i sample isSample span inSpans offset inside
    have inTokens : sample.firstLogit + 1 + (span.responseStart + offset) <
        sample.tokens.length := by
      have first := firstLogit_eq sample
      rw [PackedSample.totalLength] at first
      omega
    constructor
    · omega
    · rw [sized]
      omega
    · exact (batchReads i sample isSample span inSpans offset inside).1
    · rw [target, PackedSample.target, List.getD_eq_getElem _ _ inTokens,
        List.getElem?_eq_getElem inTokens]
    · exact (batchReads i sample isSample span inSpans offset inside).2
    · exact getElem?_scan_blocks positive _ initial room isSample inSpans inside
  · intro row inStream unread
    rw [sized] at inStream
    rw [getElem?_paintAll_outside]
    · rw [List.getElem?_replicate, if_pos inStream]
    · rw [initial]
      exact scan_blocks_fit positive (fun sample : PackedSample =>
        sample.nucleusRow (rank.tpRank * vocabLocal) vocabLocal) room
    · intro block inBlocks inBlock
      rcases mem_scan_blocks.mp inBlocks with ⟨i, sample, isSample, inVisit⟩
      rcases List.mem_map.mp inVisit with ⟨span, inSpans, rfl⟩
      have isRead := getElem?_rows layout rank.cpRank (layout.localLength samples) samples i
      rw [isSample, Option.map_some] at isRead
      apply unread _ (List.mem_of_getElem? isRead)
      exact List.mem_flatMap_of_mem inSpans ((mem_block_iff _ span row).mp inBlock)

end Agreement

end Vime.Backends.MegatronUtils
