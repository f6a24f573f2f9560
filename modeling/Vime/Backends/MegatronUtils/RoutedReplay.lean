import Vime.Backends.MegatronUtils.CpPartition
import Vime.Backends.MegatronUtils.RoutedRows

/-! # Routing replay agrees with the padded stream

The buffer of a rank holds, written once each, the rows that cutting the whole padded stream
gives to that rank.
-/

namespace Vime.Backends.MegatronUtils

open Vime.Foundation

section Stream

variable {layout : StreamLayout} {cpRank tpRank numLayers topk numExperts : Nat}

theorem stretch_pad (pad : Nat) :
    stretch (padRow numLayers topk numExperts) 0 pad =
      (List.range pad).map (padRow numLayers topk numExperts) := by
  rw [stretch, Nat.sub_zero, List.range_eq_range']

theorem paddedSample_stretch (numLayers topk numExperts : Nat) (experts : RoutedExperts)
    (pad : Nat) :
    padRoutedExperts numLayers topk numExperts
        (padRoutedExperts numLayers topk numExperts experts.rows 1) pad =
      stretch (paddedSample experts numLayers topk numExperts) 0
        (experts.rows.length + 1 + pad) := by
  generalize streamEq : paddedSample experts numLayers topk numExperts = stream
  have real : stretch stream 0 experts.rows.length = experts.rows := by
    apply stretch_zero_length
    intro index inside
    rw [← streamEq, paddedSample, if_pos inside, List.getD_eq_getElem _ _ inside]
  have tail : stretch (padRow numLayers topk numExperts) 0 1 =
      stretch stream experts.rows.length (experts.rows.length + 1) := by
    have piece := stretch_sub stream (padRow numLayers topk numExperts)
      (experts.rows.length + 1) (Nat.le_refl experts.rows.length)
      fun position atLeast atMost => by
        rw [← streamEq, paddedSample, if_neg (by omega), if_pos atMost]
    rw [← piece, Nat.sub_self, Nat.add_sub_cancel_left]
  have padding : stretch (padRow numLayers topk numExperts) 0 pad =
      stretch stream (experts.rows.length + 1) (experts.rows.length + 1 + pad) := by
    have piece := stretch_sub stream (padRow numLayers topk numExperts)
      (experts.rows.length + 1 + pad) (Nat.le_refl (experts.rows.length + 1))
      fun position atLeast atMost => by
        rw [← streamEq, paddedSample, if_neg (by omega), if_neg (by omega)]
    rw [← piece, Nat.sub_self, Nat.add_sub_cancel_left]
  rw [padRoutedExperts, padRoutedExperts, ← stretch_pad, ← stretch_pad, tail, padding]
  nth_rewrite 1 [← real]
  rw [stretch_append stream (Nat.zero_le _) (Nat.le_succ _),
    stretch_append stream (Nat.zero_le _) (Nat.le_add_right _ _)]

theorem paddedSample_stretch_one (experts : RoutedExperts) :
    padRoutedExperts numLayers topk numExperts experts.rows 1 =
      stretch (paddedSample experts numLayers topk numExperts) 0 (experts.rows.length + 1) := by
  have whole := paddedSample_stretch numLayers topk numExperts experts 0
  rw [← Nat.add_zero (experts.rows.length + 1), ← whole, padRoutedExperts, padRoutedExperts,
    List.range_zero, List.map_nil, List.append_nil]

/-- The chunks of a rank cut from the padded sample. -/
theorem sliceWithCpBy_stretch (isRank : cpRank < layout.cpSize) (experts : RoutedExperts) :
    sliceWithCpBy layout.cpSize cpRank (padRoutedExperts numLayers topk numExperts experts.rows 1)
        (padRoutedExperts numLayers topk numExperts) =
      stretch
        (concatStreams (chunkPieces numLayers topk numExperts experts
          (sampleSpec layout.cpSize cpRank experts).chunks) fun _ => [])
        0 (sampleSpec layout.cpSize cpRank experts).sampleOutLen := by
  have tokenLen : (padRoutedExperts numLayers topk numExperts experts.rows 1).length =
      experts.rows.length + 1 := by
    rw [paddedSample_stretch_one, length_stretch, Nat.sub_zero]
  have joined := stretch_concatStreams (chunkPieces numLayers topk numExperts experts
    (sampleSpec layout.cpSize cpRank experts).chunks) (fun _ => []) 0
  rw [stretch_of_le _ (Nat.le_refl 0), List.append_nil, Nat.add_zero] at joined
  have outLen : (sampleSpec layout.cpSize cpRank experts).sampleOutLen =
      ((chunkPieces numLayers topk numExperts experts
        (sampleSpec layout.cpSize cpRank experts).chunks).map Prod.fst).sum := by
    rw [chunkPieces, List.map_map]
    rfl
  rw [outLen, joined, sliceWithCpBy, chunkPieces, sampleSpec]
  dsimp only
  by_cases single : layout.cpSize = 1
  · rw [if_pos single, if_pos single, paddedSample_stretch_one]
    simp only [List.map_cons, List.map_nil, List.flatten_cons, List.flatten_nil, List.append_nil,
      Nat.zero_add, Nat.sub_zero]
  · rw [if_neg single, if_neg single, tokenLen, paddedSample_stretch]
    generalize chunkEq : cpChunkSize layout.cpSize (experts.rows.length + 1) = chunkSize
    have fits := le_chunks layout.cpSize (experts.rows.length + 1) (Nat.zero_lt_of_lt isRank)
    rw [chunkEq] at fits
    -- Every chunk of the padded sample is one of the rank's pieces.
    have chunk (number : Nat) (isChunk : number < 2 * layout.cpSize) :
        slice (stretch (paddedSample experts numLayers topk numExperts) 0
            (experts.rows.length + 1 +
              (2 * layout.cpSize * chunkSize - (experts.rows.length + 1))))
          (numberedChunk chunkSize number).1 (numberedChunk chunkSize number).2 =
        stretch (fun position => paddedSample experts numLayers topk numExperts
          (chunkSize * number + position)) 0
            (chunkSize * (number + 1) - chunkSize * number) := by
      have ends : (number + 1) * chunkSize ≤ 2 * layout.cpSize * chunkSize :=
        Nat.mul_le_mul_right _ isChunk
      have starts : number * chunkSize ≤ (number + 1) * chunkSize :=
        Nat.mul_le_mul_right _ (Nat.le_succ _)
      rw [numberedChunk, slice_natCast, Nat.add_sub_cancel' fits, take_drop_stretch _ ends,
        stretch_shift, Nat.mul_comm chunkSize number, Nat.mul_comm chunkSize (number + 1),
        Nat.add_sub_cancel' starts]
      rfl
    rw [cpChunks_eq isRank, chunk _ (by omega), chunk _ (by omega),
      show 2 * layout.cpSize - cpRank - 1 + 1 = 2 * layout.cpSize - cpRank by omega]
    simp only [List.map_cons, List.map_nil, List.flatten_cons, List.flatten_nil, List.append_nil]

def streamRows (layout : StreamLayout) (cpRank numLayers topk numExperts : Nat)
    (samples : List RoutedExperts) : Nat → ExpertRow :=
  concatStreams
    (if layout.allgatherCp then samplePieces numLayers topk numExperts samples
    else specPieces numLayers topk numExperts (samples.map (sampleSpec layout.cpSize cpRank)))
    (padRow numLayers topk numExperts)

def joinedRows (layout : StreamLayout) (cpRank numLayers topk numExperts : Nat)
    (samples : List RoutedExperts) : List ExpertRow :=
  let padFunc := padRoutedExperts numLayers topk numExperts
  let padded := samples.map fun experts => padFunc experts.rows 1
  if layout.allgatherCp then padded.flatten
  else (padded.map fun sample => sliceWithCpBy layout.cpSize cpRank sample padFunc).flatten

theorem joinedRows_stretch (numLayers topk numExperts : Nat) (isRank : cpRank < layout.cpSize)
    (samples : List RoutedExperts) (pad : Nat) :
    padRoutedExperts numLayers topk numExperts
        (joinedRows layout cpRank numLayers topk numExperts samples) pad =
      stretch (streamRows layout cpRank numLayers topk numExperts samples) 0
        ((layout.cpRange cpRank samples).totalRows + pad) := by
  rw [padRoutedExperts, joinedRows, streamRows, StreamLayout.cpRange, ← stretch_pad]
  cases layout.allgatherCp with
  | true =>
      have joined := stretch_concatStreams (samplePieces numLayers topk numExperts samples)
        (padRow numLayers topk numExperts) pad
      rw [samplePieces, List.map_map, List.map_map] at joined
      simp only [if_true, samplePieces, paddedSample_stretch_one]
      exact joined.symm
  | false =>
      have joined := stretch_concatStreams (specPieces numLayers topk numExperts
        (samples.map (sampleSpec layout.cpSize cpRank))) (padRow numLayers topk numExperts) pad
      rw [specPieces, List.map_map, List.map_map, List.map_map] at joined
      simp only [Bool.false_eq_true, if_false, specPieces, List.map_map]
      have slices : samples.map ((fun sample => sliceWithCpBy layout.cpSize cpRank sample
            (padRoutedExperts numLayers topk numExperts)) ∘ fun experts =>
              padRoutedExperts numLayers topk numExperts experts.rows 1) = samples.map _ :=
        List.map_congr_left fun experts _ => sliceWithCpBy_stretch isRank experts
      rw [slices]
      exact joined.symm

/-! ## The range of a rank -/

theorem chunkAt_stretch (stream : Nat → α) {start stop chunks index size : Nat}
    (isChunk : index < chunks) (whole : stop - start = chunks * size) :
    chunkAt (stretch stream start stop) chunks index =
      .ok (stretch stream (start + size * index) (start + size * index + size)) := by
  have ends : (index + 1) * size ≤ chunks * size := Nat.mul_le_mul_right _ isChunk
  rw [chunkAt_eq isChunk (by rw [length_stretch, whole])]
  rw [Nat.succ_mul, Nat.mul_comm index size] at ends ⊢
  congr 1
  apply List.ext_getElem
  · rw [List.length_drop, List.length_take, length_stretch, length_stretch, whole]
    omega
  · intro position _ _
    simp [stretch, Nat.add_assoc]

theorem cpRange_allgather (allgather : layout.allgatherCp = true) (positive : 0 < layout.cpSize)
    (samples : List RoutedExperts) {size : Nat}
    (whole : (layout.cpRange cpRank samples).totalRows +
      padCount layout.padUnit (layout.cpRange cpRank samples).totalRows = layout.cpSize * size) :
    (layout.cpRange cpRank samples).rangeStart = cpRank * size ∧
      (layout.cpRange cpRank samples).rangeEnd = cpRank * size + size := by
  rw [StreamLayout.cpRange, if_pos allgather] at whole ⊢
  dsimp only at whole ⊢
  rw [whole, Nat.mul_div_cancel_left size positive]
  exact ⟨rfl, rfl⟩

theorem cpRange_sliced (cpRank : Nat) (sliced : layout.allgatherCp = false)
    (samples : List RoutedExperts) :
    (layout.cpRange cpRank samples).rangeStart = 0 ∧
      (layout.cpRange cpRank samples).rangeEnd = (layout.cpRange cpRank samples).totalRows +
        padCount layout.padUnit (layout.cpRange cpRank samples).totalRows := by
  rw [StreamLayout.cpRange, sliced, if_neg Bool.false_ne_true]
  exact ⟨rfl, rfl⟩

theorem cpRange_stretch (numLayers topk numExperts : Nat) (isRank : cpRank < layout.cpSize)
    (padPositive : layout.padUnit ≠ 0) (samples : List RoutedExperts) :
    let range := layout.cpRange cpRank samples
    let padded := padRoutedExperts numLayers topk numExperts
      (joinedRows layout cpRank numLayers topk numExperts samples)
      (padCount layout.padUnit range.totalRows)
    (if layout.allgatherCp then chunkAt padded layout.cpSize cpRank else .ok padded) =
        .ok (stretch (streamRows layout cpRank numLayers topk numExperts samples)
          range.rangeStart range.rangeEnd) ∧
      layout.tpSize ∣ range.rangeEnd - range.rangeStart := by
  intro range padded
  have paddedEq : padded = _ := joinedRows_stretch numLayers topk numExperts isRank samples _
  have divides : layout.padUnit ∣ range.totalRows + padCount layout.padUnit range.totalRows :=
    dvd_add_padCount (Nat.pos_of_ne_zero padPositive) _
  rw [paddedEq]
  generalize streamRows layout cpRank numLayers topk numExperts samples = stream
  cases allgather : layout.allgatherCp with
  | true =>
      rcases divides with ⟨count, finalRows⟩
      have whole : range.totalRows + padCount layout.padUnit range.totalRows =
          layout.cpSize * (layout.tpSize * (layout.padMultiplier * count)) := by
        rw [finalRows, StreamLayout.padUnit, if_pos allgather, Nat.mul_assoc, Nat.mul_assoc]
      have bounds := cpRange_allgather allgather (Nat.zero_lt_of_lt isRank) samples whole
      rw [if_pos rfl, whole, chunkAt_stretch stream isRank (Nat.sub_zero _), bounds.1, bounds.2,
        Nat.zero_add, Nat.mul_comm cpRank, Nat.add_sub_cancel_left]
      exact ⟨rfl, Nat.dvd_mul_right _ _⟩
  | false =>
      have bounds := cpRange_sliced cpRank allgather samples
      rw [if_neg Bool.false_ne_true, bounds.1, bounds.2, Nat.sub_zero]
      refine ⟨rfl, Nat.dvd_trans ?_ divides⟩
      rw [StreamLayout.padUnit, allgather, if_neg Bool.false_ne_true]
      exact Nat.dvd_mul_right _ _

theorem tpRange_stretch (isRank : tpRank < layout.tpSize) (sequenceParallel : Bool)
    (stream : Nat → ExpertRow) (range : RowRange)
    (divides : layout.tpSize ∣ range.rangeEnd - range.rangeStart) :
    ∃ shard, layout.tpRange tpRank sequenceParallel range = .ok shard ∧
      shard.totalRows = range.totalRows ∧
      (if sequenceParallel then
          chunkAt (stretch stream range.rangeStart range.rangeEnd) layout.tpSize tpRank
        else .ok (stretch stream range.rangeStart range.rangeEnd)) =
        .ok (stretch stream shard.rangeStart shard.rangeEnd) := by
  rw [StreamLayout.tpRange]
  cases sequenceParallel with
  | true =>
      rcases divides with ⟨size, seqlen⟩
      have quotient : (range.rangeEnd - range.rangeStart) / layout.tpSize = size := by
        rw [seqlen, Nat.mul_div_cancel_left size (Nat.zero_lt_of_lt isRank)]
      have checked : ¬ (range.rangeEnd - range.rangeStart) % layout.tpSize ≠ 0 := by
        rw [seqlen, Nat.mul_mod_right]
        exact fun different => different rfl
      rw [if_pos rfl, if_pos rfl, chunkAt_stretch stream isRank seqlen]
      dsimp only
      rw [raiseIf, if_neg checked, ok_bind, quotient]
      exact ⟨_, rfl, rfl, rfl⟩
  | false => exact ⟨range, rfl, rfl, rfl⟩

end Stream

/-! ## The filled buffer -/

section Filled

variable {layout : StreamLayout} {cpRank tpRank numLayers topk numExperts : Nat}
  {sequenceParallel : Bool}

theorem newBuffer_filled (stream : Nat → ExpertRow) (start stop pos : Nat) (below : pos ≤ start) :
    (newRoutedExpertsBuffer (stop - start) numLayers topk).writeClipped 0 stream start stop pos
        stop =
      { numLayers := numLayers, topk := topk
        rows := (stretch stream start stop).map fun row => [row] } := by
  have written := writeRows_freshRows (stretch stream start stop)
  rw [length_stretch] at written
  rw [ExpertBuffer.writeClipped, newRoutedExpertsBuffer, writeClipped_whole below (Nat.le_refl _),
    written]

theorem fill_eq (someExperts : 0 < numExperts) (samples : List RoutedExperts)
    (start stop : Nat) :
    (if layout.allgatherCp then
        fillRoutedExpertsAllgatherRange (newRoutedExpertsBuffer (stop - start) numLayers topk)
          start stop samples (layout.cpRange cpRank samples).totalRows numExperts
      else
        fillRoutedExpertsCpRange (newRoutedExpertsBuffer (stop - start) numLayers topk) start stop
          (samples.map (sampleSpec layout.cpSize cpRank)) (layout.cpRange cpRank samples).totalRows
          numExperts) =
      .ok { numLayers := numLayers, topk := topk
            rows := (stretch (streamRows layout cpRank numLayers topk numExperts samples) start
              stop).map fun row => [row] } := by
  have room : stop - start ≤
      (newRoutedExpertsBuffer (stop - start) numLayers topk).rows.length := by
    rw [newRoutedExpertsBuffer, freshRows, List.length_replicate]
  rw [← newBuffer_filled _ _ _ 0 (Nat.zero_le _), streamRows, StreamLayout.cpRange]
  cases layout.allgatherCp with
  | true =>
      exact fillAllgatherFrom_eq someExperts samples 0 _ room (Nat.zero_add _).symm
        fun position _ _ => rfl
  | false =>
      apply fillCpFrom_eq someExperts _ 0 _ room (Nat.zero_add _).symm
      · intro spec member
        rcases List.mem_map.mp member with ⟨experts, _, isSpec⟩
        rw [← isSpec]
        rfl
      · exact fun position _ _ => rfl

/-- Every id of the row is one of the experts. -/
def InRange (numExperts : Nat) (row : ExpertRow) : Prop :=
  ∀ experts ∈ row, ∀ id ∈ experts, 0 ≤ id ∧ id < numExperts

theorem padRow_inRange (someExperts : 0 < numExperts) (row : Nat) :
    InRange numExperts (padRow numLayers topk numExperts row) := by
  intro experts isLayer id isChoice
  rcases List.mem_map.mp isLayer with ⟨layer, _, layerEq⟩
  rw [← layerEq] at isChoice
  rcases List.mem_map.mp isChoice with ⟨choice, _, choiceEq⟩
  have bound := Nat.mod_lt (row * (numLayers * topk) + layer * topk + choice) someExperts
  omega

theorem paddedSample_inRange (someExperts : 0 < numExperts) {experts : RoutedExperts}
    (valid : ∀ row ∈ experts.rows, InRange numExperts row) (position : Nat) :
    InRange numExperts (paddedSample experts numLayers topk numExperts position) := by
  rw [paddedSample]
  split
  · rename_i inside
    rw [List.getD_eq_getElem _ _ inside]
    exact valid _ (List.getElem_mem inside)
  · split
    · exact padRow_inRange someExperts _
    · exact padRow_inRange someExperts _

theorem streamRows_inRange (someExperts : 0 < numExperts) {samples : List RoutedExperts}
    (valid : ∀ experts ∈ samples, ∀ row ∈ experts.rows, InRange numExperts row) (position : Nat) :
    InRange numExperts (streamRows layout cpRank numLayers topk numExperts samples position) := by
  rw [streamRows]
  apply concatStreams_all _ (padRow_inRange someExperts)
  intro piece isPiece
  split at isPiece
  · rcases List.mem_map.mp isPiece with ⟨experts, member, pieceEq⟩
    rw [← pieceEq]
    exact paddedSample_inRange someExperts (valid experts member)
  · rcases List.mem_map.mp isPiece with ⟨spec, isSpec, pieceEq⟩
    rcases List.mem_map.mp isSpec with ⟨experts, member, specEq⟩
    rw [← pieceEq, ← specEq]
    apply concatStreams_all
    · intro chunk isChunk
      rcases List.mem_map.mp isChunk with ⟨bounds, _, chunkEq⟩
      rw [← chunkEq]
      exact fun offset => paddedSample_inRange someExperts (valid experts member) _
    · exact fun _ _ member => absurd member List.not_mem_nil

theorem checkRoutedSample_eq {experts : RoutedExperts} {tokenIds : List Int}
    (sized : experts.rows.length + 1 = tokenIds.length)
    (shaped : experts.numLayers = numLayers ∧ experts.topk = topk) :
    checkRoutedSample numLayers topk experts tokenIds = .ok () := by
  rw [checkRoutedSample, raiseIf, raiseIf, if_neg (by omega), shaped.1, shaped.2,
    if_neg (fun different => different rfl)]
  rfl

theorem checkRoutedSamples_eq :
    ∀ {samples : List RoutedExperts} {tokens : List (List Int)},
      samples.map (fun experts => experts.rows.length + 1) = tokens.map List.length →
      (∀ experts ∈ samples, experts.numLayers = numLayers ∧ experts.topk = topk) →
      ((samples.zip tokens).forM fun sample =>
        checkRoutedSample numLayers topk sample.1 sample.2) = .ok ()
  | [], _, _, _ => rfl
  | _ :: _, [], sized, _ => by simp at sized
  | experts :: samples, tokenIds :: tokens, sized, shaped => by
      rw [List.map_cons, List.map_cons, List.cons.injEq] at sized
      have checked := checkRoutedSample_eq sized.1 (shaped experts List.mem_cons_self)
      have later := checkRoutedSamples_eq sized.2 fun other member =>
        shaped other (List.mem_cons_of_mem _ member)
      rw [List.zip_cons_cons, List.forM, checked, ok_bind, later]

/-- The reference and the buffer hold the same stretch of the stream. -/
theorem prepareRoutedExperts_stretch (sequenceParallel : Bool)
    (isCpRank : cpRank < layout.cpSize) (isTpRank : tpRank < layout.tpSize)
    (padPositive : 0 < layout.padMultiplier)
    (someExperts : 0 < numExperts) {samples : List RoutedExperts} {tokens : List (List Int)}
    (someSample : samples ≠ [])
    (sized : samples.map (fun experts => experts.rows.length + 1) = tokens.map List.length)
    (shaped : ∀ experts ∈ samples, experts.numLayers = numLayers ∧ experts.topk = topk) :
    ∃ start stop,
      routingReplayReference layout cpRank tpRank numLayers topk numExperts sequenceParallel
        samples =
          .ok (stretch (streamRows layout cpRank numLayers topk numExperts samples) start stop) ∧
      prepareRoutedExpertsForRoutingReplay layout cpRank tpRank numExperts sequenceParallel samples
        tokens = .ok
          { numLayers := numLayers, topk := topk
            rows := (stretch (streamRows layout cpRank numLayers topk numExperts samples) start
              stop).map fun row => [row] } := by
  have padUnit := padUnit_ne_zero (Nat.zero_lt_of_lt isCpRank)
    (Nat.mul_pos (Nat.zero_lt_of_lt isTpRank) padPositive)
  have joinedLength := congrArg List.length
    (joinedRows_stretch numLayers topk numExperts isCpRank samples 0)
  rw [padRoutedExperts, List.range_zero, List.map_nil, List.append_nil, length_stretch,
    Nat.sub_zero, Nat.add_zero] at joinedLength
  rcases cpRange_stretch numLayers topk numExperts isCpRank padUnit samples with ⟨held, divides⟩
  rcases tpRange_stretch isTpRank sequenceParallel
    (streamRows layout cpRank numLayers topk numExperts samples) _ divides with
      ⟨shard, ranged, total, cut⟩
  refine ⟨shard.rangeStart, shard.rangeEnd, ?_, ?_⟩
  · have reference (padded : List ExpertRow)
        (isPadded : padRoutedExperts numLayers topk numExperts
          (joinedRows layout cpRank numLayers topk numExperts samples)
          (padCount layout.padUnit
            (joinedRows layout cpRank numLayers topk numExperts samples).length) = padded) :
        routingReplayReference layout cpRank tpRank numLayers topk numExperts sequenceParallel
            samples =
          ((if layout.allgatherCp then chunkAt padded layout.cpSize cpRank else .ok padded) >>=
            fun held =>
              if sequenceParallel then chunkAt held layout.tpSize tpRank else .ok held) := by
      rw [← isPadded]
      rfl
    rw [reference _ (by rw [joinedLength]), held, ok_bind, cut]
  · rw [prepareRoutedExpertsForRoutingReplay.eq_def]
    cases samples with
    | nil => exact absurd rfl someSample
    | cons first rest =>
        have counted := congrArg List.length sized
        rw [List.length_map, List.length_map] at counted
        have ofFirst := shaped first List.mem_cons_self
        rw [raiseIf, if_neg (by omega), ok_bind]
        dsimp only
        rw [ofFirst.1, ofFirst.2, checkRoutedSamples_eq sized shaped, ok_bind, prepareChecked,
          raiseIf, if_neg padUnit, ok_bind, ranged, ok_bind, ofFirst.1, ofFirst.2, total]
        exact fill_eq someExperts _ _ _

theorem stretch_inRange (someExperts : 0 < numExperts) {samples : List RoutedExperts}
    (start stop : Nat)
    (valid : ∀ experts ∈ samples, ∀ row ∈ experts.rows, InRange numExperts row) :
    ∀ row ∈ stretch (streamRows layout cpRank numLayers topk numExperts samples) start stop,
      InRange numExperts row := by
  intro row member
  rcases List.mem_map.mp member with ⟨position, _, rowEq⟩
  rw [← rowEq]
  exact streamRows_inRange someExperts valid position

/-- The buffer of a rank holds the rows of the padded stream that the rank is given, each
written exactly once, and only ids of experts. -/
theorem prepareRoutedExperts_eq_reference (isCpRank : cpRank < layout.cpSize)
    (isTpRank : tpRank < layout.tpSize) (padPositive : 0 < layout.padMultiplier)
    (someExperts : 0 < numExperts) {samples : List RoutedExperts} {tokens : List (List Int)}
    (someSample : samples ≠ [])
    (sized : samples.map (fun experts => experts.rows.length + 1) = tokens.map List.length)
    (shaped : ∀ experts ∈ samples, experts.numLayers = numLayers ∧ experts.topk = topk) :
    ∃ rows,
      routingReplayReference layout cpRank tpRank numLayers topk numExperts sequenceParallel
        samples = .ok rows ∧
      prepareRoutedExpertsForRoutingReplay layout cpRank tpRank numExperts sequenceParallel samples
        tokens = .ok
          { numLayers := numLayers, topk := topk, rows := rows.map fun row => [row] } ∧
      ((∀ experts ∈ samples, ∀ row ∈ experts.rows, InRange numExperts row) →
        ∀ row ∈ rows, InRange numExperts row) := by
  rcases prepareRoutedExperts_stretch sequenceParallel isCpRank isTpRank padPositive
    someExperts someSample sized shaped with ⟨start, stop, reference, filled⟩
  exact ⟨_, reference, filled, stretch_inRange someExperts start stop⟩

def zigzagShards : StreamLayout :=
  { cpSize := 2, tpSize := 2, padMultiplier := 4, allgatherCp := false }

/-- The routes of `count` tokens in one layer with two experts for each. -/
def countedRoutes (count : Nat) : RoutedExperts where
  numLayers := 1
  topk := 2
  rows := (List.range count).map fun (row : Nat) => [[(row : Int) % 5, 7]]
  shaped := by
    intro row member
    rcases List.mem_map.mp member with ⟨_, _, rowEq⟩
    simp [← rowEq]

theorem prepareRoutedExperts_zigzagShards :
    ∃ rows,
      routingReplayReference zigzagShards 1 1 1 2 8 true [countedRoutes 5, countedRoutes 1] =
        .ok rows ∧
      prepareRoutedExpertsForRoutingReplay zigzagShards 1 1 8 true
        [countedRoutes 5, countedRoutes 1] [[1, 2, 3, 4, 5, 6], [7, 8]] =
          .ok { numLayers := 1, topk := 2, rows := rows.map fun row => [row] } ∧
      ((∀ experts ∈ [countedRoutes 5, countedRoutes 1], ∀ row ∈ experts.rows, InRange 8 row) →
        ∀ row ∈ rows, InRange 8 row) :=
  prepareRoutedExperts_eq_reference (by decide) (by decide) (by decide) (by decide) (by simp)
    (by decide) (by decide)

end Filled

end Vime.Backends.MegatronUtils
