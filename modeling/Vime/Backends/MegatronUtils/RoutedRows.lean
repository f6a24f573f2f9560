import Vime.Backends.MegatronUtils.RoutedExperts

/-! # What routing replay fills in

Every row that a rank fills stands in the padded stream of its samples: the rows of a sample, its
tail row and its padding, cut into the chunks of the rank and joined. Filling the buffer piece by
piece writes every row once, with the row of that stream.
-/

namespace Vime.Backends.MegatronUtils

open Vime.Foundation

/-! ## The stream built in full -/

def sliceWithCpBy (cpSize cpRank : Nat) (tokens : List α) (padFunc : List α → Nat → List α) :
    List α :=
  if cpSize = 1 then tokens
  else
    let chunkSize := cpChunkSize cpSize tokens.length
    let padded := padFunc tokens (2 * cpSize * chunkSize - tokens.length)
    let chunks := cpChunks cpSize cpRank chunkSize
    slice padded chunks.first.1 chunks.first.2 ++ slice padded chunks.second.1 chunks.second.2

/-- Appends `pad` rows of the pattern, from its beginning. -/
def padRoutedExperts (numLayers topk numExperts : Nat) (rows : List ExpertRow) (pad : Nat) :
    List ExpertRow :=
  rows ++ (List.range pad).map (padRow numLayers topk numExperts)

def routingReplayReference (layout : StreamLayout) (cpRank tpRank numLayers topk numExperts : Nat)
    (sequenceParallel : Bool) (rolloutRoutedExperts : List RoutedExperts) :
    Except PyException (List ExpertRow) := do
  let padFunc := padRoutedExperts numLayers topk numExperts
  let samples := rolloutRoutedExperts.map fun experts => padFunc experts.rows 1
  let joined :=
    if layout.allgatherCp then samples.flatten
    else
      (samples.map fun sample => sliceWithCpBy layout.cpSize cpRank sample padFunc).flatten
  let padded := padFunc joined (padCount layout.padUnit joined.length)
  let held ← (if layout.allgatherCp then chunkAt padded layout.cpSize cpRank else .ok padded)
  if sequenceParallel then chunkAt held layout.tpSize tpRank else .ok held

/-! ## Filling a range -/

/-- Row `position` of a sample: its own rows, the tail row, then the padding. -/
def paddedSample (experts : RoutedExperts) (numLayers topk numExperts position : Nat) :
    ExpertRow :=
  if position < experts.rows.length then experts.rows.getD position []
  else if position < experts.rows.length + 1 then
    padRow numLayers topk numExperts (position - experts.rows.length)
  else padRow numLayers topk numExperts (position - (experts.rows.length + 1))

namespace ExpertBuffer

def write (dst : ExpertBuffer) (start : Nat) (rows : List ExpertRow) : ExpertBuffer :=
  { dst with rows := writeRows dst.rows start rows }

def writeClipped (dst : ExpertBuffer) (origin : Nat) (stream : Nat → ExpertRow)
    (start stop low high : Nat) : ExpertBuffer :=
  { dst with rows := Foundation.writeClipped dst.rows origin stream start stop low high }

@[simp] theorem length_writeClipped (dst : ExpertBuffer) (origin : Nat)
    (stream : Nat → ExpertRow) (start stop low high : Nat) :
    (dst.writeClipped origin stream start stop low high).rows.length = dst.rows.length :=
  Foundation.length_writeClipped

theorem copy_eq_ok {dst : ExpertBuffer} {start stop : Nat} {rows : List ExpertRow}
    (isStop : stop = start + rows.length) (fits : stop ≤ dst.rows.length) :
    dst.copy start stop rows = .ok (dst.write start rows) := by
  subst isStop
  rw [copy, copyRows_eq_ok fits]
  rfl

end ExpertBuffer

section Fill

variable {dst : ExpertBuffer} {origin start stop low high : Nat} {stream : Nat → ExpertRow}
  {numExperts : Nat}

theorem clippedStep_eq {fill : Except PyException ExpertBuffer}
    (fills : max start low < min stop high →
      fill = .ok (dst.write (origin + (max start low - start))
        (stretch stream (max start low) (min stop high)))) :
    (if max start low < min stop high then fill else .ok dst) =
      .ok (dst.writeClipped origin stream start stop low high) := by
  by_cases meets : max start low < min stop high
  · rw [if_pos meets, fills meets]
    rfl
  · rw [if_neg meets, ExpertBuffer.writeClipped, writeClipped_of_le (Nat.le_of_not_lt meets)]

theorem makeRoutedExpertsPad_eq (someExperts : 0 < numExperts)
    (rows numLayers topk rowOffset : Nat) :
    makeRoutedExpertsPad rows numLayers topk numExperts rowOffset =
      .ok (stretch (padRow numLayers topk numExperts) rowOffset (rowOffset + rows)) := by
  rw [makeRoutedExpertsPad, raiseIf, if_neg (by omega), stretch, Nat.add_sub_cancel_left]
  rfl

theorem fillRoutedExpertsPad_eq (someExperts : 0 < numExperts) {dstStart rows rowOffset : Nat}
    (fits : dstStart + rows ≤ dst.rows.length) :
    fillRoutedExpertsPad dst dstStart rows numExperts rowOffset =
      .ok (dst.write dstStart (stretch (padRow dst.numLayers dst.topk numExperts) rowOffset
        (rowOffset + rows))) := by
  rw [fillRoutedExpertsPad]
  by_cases empty : rows = 0
  · rw [if_pos empty, stretch_of_le _ (by omega), ExpertBuffer.write, writeRows_nil]
  · have sized : dstStart + rows = dstStart +
        (stretch (padRow dst.numLayers dst.topk numExperts) rowOffset
          (rowOffset + rows)).length := by
      simp
    rw [if_neg empty, makeRoutedExpertsPad_eq someExperts, ok_bind,
      ExpertBuffer.copy_eq_ok sized fits]

theorem padStep_eq (dst : ExpertBuffer) (stream : Nat → ExpertRow)
    (origin start stop base high place padEnd : Nat) (someExperts : 0 < numExperts)
    (isPlace : place = origin + (max start base - start)) (isEnd : padEnd = min stop high)
    (fits : origin + (stop - start) ≤ dst.rows.length)
    (isPad : ∀ position, base ≤ position → position < high →
      stream position = padRow dst.numLayers dst.topk numExperts (position - base)) :
    (if max start base < padEnd then
        fillRoutedExpertsPad dst place (padEnd - max start base) numExperts (max start base - base)
      else .ok dst) =
      .ok (dst.writeClipped origin stream start stop base high) := by
  subst isPlace isEnd
  apply clippedStep_eq
  intro meets
  have pattern : stretch (padRow dst.numLayers dst.topk numExperts) (max start base - base)
      (min stop high - base) = stretch stream (max start base) (min stop high) :=
    stretch_sub stream _ _ (Nat.le_max_right _ _) fun position atLeast atMost =>
      isPad position (by omega) (by omega)
  rw [fillRoutedExpertsPad_eq someExperts (by omega),
    show max start base - base + (min stop high - max start base) = min stop high - base by omega,
    pattern]

/-- A range of a sample is filled with its padded rows. -/
theorem fillPaddedSampleRange_eq (someExperts : 0 < numExperts) {experts : RoutedExperts}
    (fits : origin + (stop - start) ≤ dst.rows.length) :
    fillPaddedSampleRange dst origin experts start stop numExperts =
      .ok (dst.write origin
        (stretch (paddedSample experts dst.numLayers dst.topk numExperts) start stop)) := by
  generalize streamEq : paddedSample experts dst.numLayers dst.topk numExperts = stream
  rw [fillPaddedSampleRange]
  by_cases empty : start ≥ stop
  · rw [if_pos empty, stretch_of_le _ empty, ExpertBuffer.write, writeRows_nil]
  · have real : (if max start 0 < min stop experts.rows.length then
          dst.copy (origin + max start 0 - start)
            (origin + max start 0 - start + min stop experts.rows.length - max start 0)
            (slice experts.rows (max start 0 : Nat) (min stop experts.rows.length : Nat))
        else .ok dst) =
          .ok (dst.writeClipped origin stream start stop 0 experts.rows.length) := by
      apply clippedStep_eq
      intro meets
      have rows : slice experts.rows (max start 0 : Nat) (min stop experts.rows.length : Nat) =
          stretch stream (max start 0) (min stop experts.rows.length) := by
        have whole : stretch stream 0 experts.rows.length = experts.rows := by
          apply stretch_zero_length
          intro index inside
          rw [← streamEq, paddedSample, if_pos inside, List.getD_eq_getElem _ _ inside]
        rw [slice_natCast, ← take_drop_stretch stream (Nat.min_le_right stop _), whole]
      rw [rows, show origin + max start 0 - start = origin + (max start 0 - start) by omega]
      apply ExpertBuffer.copy_eq_ok
      · rw [length_stretch]
        omega
      · omega
    have tail := padStep_eq (dst.writeClipped origin stream start stop 0 experts.rows.length) stream
      origin start stop experts.rows.length (experts.rows.length + 1)
      (origin + max start experts.rows.length - start) _ someExperts (by omega) rfl
      (by rw [ExpertBuffer.length_writeClipped]; exact fits) fun position atLeast atMost => by
        rw [← streamEq, paddedSample, if_neg (by omega), if_pos atMost]
        rfl
    have padding := padStep_eq ((dst.writeClipped origin stream start stop 0
        experts.rows.length).writeClipped origin stream start stop experts.rows.length
        (experts.rows.length + 1)) stream
      origin start stop (experts.rows.length + 1) stop
      (origin + max start (experts.rows.length + 1) - start) stop someExperts (by omega)
      (Nat.min_self stop).symm
      (by simpa using fits) fun position atLeast atMost => by
        rw [← streamEq, paddedSample, if_neg (by omega), if_neg (by omega)]
        rfl
    rw [if_neg empty, real, ok_bind, tail, ok_bind, padding]
    -- The three regions lie side by side and reach around the range.
    have regions : Foundation.writeClipped (Foundation.writeClipped
        (Foundation.writeClipped dst.rows origin stream start stop 0 experts.rows.length)
          origin stream start stop experts.rows.length (experts.rows.length + 1))
            origin stream start stop (experts.rows.length + 1) stop =
        writeRows dst.rows origin (stretch stream start stop) := by
      rw [writeClipped_append (Nat.zero_le _) (Nat.le_succ _)]
      rw [writeClipped_rest (Nat.zero_le _), writeClipped_whole (Nat.zero_le _) (Nat.le_refl _)]
    rw [ExpertBuffer.write, ← regions]
    rfl

/-! ## The loops -/

theorem fillStreamPad_eq (someExperts : 0 < numExperts) {totalRows : Nat}
    (fits : stop - start ≤ dst.rows.length)
    (isPad : ∀ position, totalRows ≤ position → position < stop →
      stream position = padRow dst.numLayers dst.topk numExperts (position - totalRows)) :
    fillStreamPad dst start stop totalRows numExperts =
      .ok (dst.writeClipped 0 stream start stop totalRows stop) := by
  rw [fillStreamPad]
  exact padStep_eq dst stream 0 start stop totalRows stop _ _ someExperts (Nat.zero_add _).symm
    (Nat.min_self stop).symm (by omega) isPad

theorem pieceStep_eq (dst : ExpertBuffer) (stream : Nat → ExpertRow) (experts : RoutedExperts)
    (origin start stop base high offset place sampleStart sampleEnd : Nat)
    (someExperts : 0 < numExperts)
    (isPlace : place = origin + (max start base - start))
    (isStart : sampleStart = offset + (max start base - base))
    (isEnd : base < min stop high → sampleEnd = offset + (min stop high - base))
    (fits : origin + (stop - start) ≤ dst.rows.length)
    (isPiece : ∀ position, base ≤ position → position < min stop high → stream position =
      paddedSample experts dst.numLayers dst.topk numExperts (offset + (position - base))) :
    (if max start base < min stop high then
        fillPaddedSampleRange dst place experts sampleStart sampleEnd numExperts
      else .ok dst) =
      .ok (dst.writeClipped origin stream start stop base high) := by
  subst isPlace isStart
  apply clippedStep_eq
  intro meets
  rw [isEnd (by omega)]
  have piece := stretch_sub stream
    (fun position => paddedSample experts dst.numLayers dst.topk numExperts (offset + position))
    (min stop high) (Nat.le_max_right start base) fun position atLeast atMost =>
      isPiece position (by omega) atMost
  rw [fillPaddedSampleRange_eq someExperts (by omega), ← piece, stretch_shift]

def samplePieces (numLayers topk numExperts : Nat) (samples : List RoutedExperts) :
    List (Nat × (Nat → ExpertRow)) :=
  samples.map fun experts =>
    (experts.rows.length + 1, paddedSample experts numLayers topk numExperts)

theorem fillAllgatherFrom_eq (someExperts : 0 < numExperts) {totalRows : Nat}
    (samples : List RoutedExperts) :
    ∀ (pos : Nat) (dst : ExpertBuffer), stop - start ≤ dst.rows.length →
      totalRows = pos + (samples.map fun experts => experts.rows.length + 1).sum →
      (∀ position, pos ≤ position → position < stop → stream position =
        concatStreams (samplePieces dst.numLayers dst.topk numExperts samples)
          (padRow dst.numLayers dst.topk numExperts) (position - pos)) →
      fillAllgatherFrom start stop totalRows numExperts pos samples dst =
        .ok (dst.writeClipped 0 stream start stop pos stop) := by
  induction samples with
  | nil =>
      intro pos dst fits total reads
      rw [fillAllgatherFrom]
      rw [List.map_nil, List.sum_nil, Nat.add_zero] at total
      subst total
      exact fillStreamPad_eq someExperts fits reads
  | cons experts rest induction =>
      intro pos dst fits total reads
      rw [List.map_cons, List.sum_cons] at total
      have step := pieceStep_eq dst stream experts 0 start stop pos
        (pos + (experts.rows.length + 1)) 0 (max start pos - start) (max start pos - pos)
        (min stop (pos + (experts.rows.length + 1)) - pos) someExperts (by omega) (by omega)
        (fun _ => by omega) (by omega) fun position atLeast atMost => by
          rw [reads position atLeast (by omega), samplePieces, List.map_cons, concatStreams,
            if_pos (by dsimp only; omega), Nat.zero_add]
      rw [fillAllgatherFrom, step, ok_bind]
      by_cases done : pos + (experts.rows.length + 1) ≥ stop
      · rw [if_pos done, ExpertBuffer.writeClipped, ExpertBuffer.writeClipped,
          writeClipped_high done]
      · rw [if_neg done, induction _ _ (by simpa using fits) (by omega)]
        · rw [ExpertBuffer.writeClipped, ExpertBuffer.writeClipped, ExpertBuffer.writeClipped,
            writeClipped_rest (Nat.le_add_right _ _)]
        · intro position atLeast atMost
          rw [reads position (by omega) atMost, samplePieces, List.map_cons, concatStreams,
            if_neg (by dsimp only; omega), Nat.sub_sub position pos]
          rfl

def chunkPieces (numLayers topk numExperts : Nat) (experts : RoutedExperts)
    (chunks : List (Nat × Nat)) : List (Nat × (Nat → ExpertRow)) :=
  chunks.map fun chunk =>
    (chunk.2 - chunk.1, fun position =>
      paddedSample experts numLayers topk numExperts (chunk.1 + position))

theorem fillChunks_eq (someExperts : 0 < numExperts) {experts : RoutedExperts}
    (chunks : List (Nat × Nat)) :
    ∀ (pos : Nat) (dst : ExpertBuffer), origin + (stop - start) ≤ dst.rows.length →
      stop ≤ pos + (chunks.map fun chunk => chunk.2 - chunk.1).sum →
      (∀ position, pos ≤ position → position < stop → stream position =
        concatStreams (chunkPieces dst.numLayers dst.topk numExperts experts chunks)
          (fun _ => []) (position - pos)) →
      fillChunks experts origin start stop numExperts pos chunks dst =
        .ok (dst.writeClipped origin stream start stop pos stop) := by
  induction chunks with
  | nil =>
      intro pos dst fits covered reads
      rw [List.map_nil, List.sum_nil, Nat.add_zero] at covered
      rw [fillChunks, ExpertBuffer.writeClipped, writeClipped_of_le (by omega)]
  | cons chunk rest induction =>
      intro pos dst fits covered reads
      rw [List.map_cons, List.sum_cons] at covered
      have step := pieceStep_eq dst stream experts origin start stop pos
        (pos + (chunk.2 - chunk.1)) chunk.1 (origin + max start pos - start)
        (chunk.1 + max start pos - pos)
        (chunk.1 + min stop (pos + (chunk.2 - chunk.1)) - pos) someExperts (by omega) (by omega)
        (fun _ => by omega) fits fun position atLeast atMost => by
          rw [reads position atLeast (by omega), chunkPieces, List.map_cons, concatStreams,
            if_pos (by dsimp only; omega)]
      rw [fillChunks, step, ok_bind, induction _ _ (by simpa using fits) (by omega)]
      · rw [ExpertBuffer.writeClipped, ExpertBuffer.writeClipped, ExpertBuffer.writeClipped,
          writeClipped_rest (Nat.le_add_right _ _)]
      · intro position atLeast atMost
        rw [reads position (by omega) atMost, chunkPieces, List.map_cons, concatStreams,
          if_neg (by dsimp only; omega), Nat.sub_sub position pos]
        rfl

def specPieces (numLayers topk numExperts : Nat) (specs : List SampleSpec) :
    List (Nat × (Nat → ExpertRow)) :=
  specs.map fun spec =>
    (spec.sampleOutLen,
      concatStreams (chunkPieces numLayers topk numExperts spec.experts spec.chunks) fun _ => [])

theorem fillCpFrom_eq (someExperts : 0 < numExperts) {totalRows : Nat} (specs : List SampleSpec) :
    ∀ (pos : Nat) (dst : ExpertBuffer), stop - start ≤ dst.rows.length →
      totalRows = pos + (specs.map SampleSpec.sampleOutLen).sum →
      (∀ spec ∈ specs,
        spec.sampleOutLen = (spec.chunks.map fun chunk => chunk.2 - chunk.1).sum) →
      (∀ position, pos ≤ position → position < stop → stream position =
        concatStreams (specPieces dst.numLayers dst.topk numExperts specs)
          (padRow dst.numLayers dst.topk numExperts) (position - pos)) →
      fillCpFrom start stop totalRows numExperts pos specs dst =
        .ok (dst.writeClipped 0 stream start stop pos stop) := by
  induction specs with
  | nil =>
      intro pos dst fits total sized reads
      rw [fillCpFrom]
      rw [List.map_nil, List.sum_nil, Nat.add_zero] at total
      subst total
      exact fillStreamPad_eq someExperts fits reads
  | cons spec rest induction =>
      intro pos dst fits total sized reads
      rw [List.map_cons, List.sum_cons] at total
      have step : (if max start pos < min stop (pos + spec.sampleOutLen) then
            fillChunks spec.experts (max start pos - start) (max start pos - pos)
              (min stop (pos + spec.sampleOutLen) - pos) numExperts 0 spec.chunks dst
          else .ok dst) =
            .ok (dst.writeClipped 0 stream start stop pos (pos + spec.sampleOutLen)) := by
        apply clippedStep_eq
        intro meets
        have piece := stretch_sub stream
          (concatStreams
            (chunkPieces dst.numLayers dst.topk numExperts spec.experts spec.chunks) fun _ => [])
          (min stop (pos + spec.sampleOutLen)) (Nat.le_max_right start pos)
          fun position atLeast atMost => by
            rw [reads position (by omega) (by omega), specPieces, List.map_cons, concatStreams,
              if_pos (by dsimp only; omega)]
        have covered := sized spec List.mem_cons_self
        rw [fillChunks_eq someExperts spec.chunks 0 dst (by omega) (by omega)
          fun position _ _ => rfl, ← piece, Nat.zero_add, ExpertBuffer.writeClipped,
          writeClipped_whole (Nat.zero_le _) (Nat.le_refl _)]
        rfl
      rw [fillCpFrom, step, ok_bind]
      by_cases done : pos + spec.sampleOutLen ≥ stop
      · rw [if_pos done, ExpertBuffer.writeClipped, ExpertBuffer.writeClipped,
          writeClipped_high done]
      · rw [if_neg done, induction _ _ (by simpa using fits) (by omega)
          fun other member => sized other (List.mem_cons_of_mem _ member)]
        · rw [ExpertBuffer.writeClipped, ExpertBuffer.writeClipped, ExpertBuffer.writeClipped,
            writeClipped_rest (Nat.le_add_right _ _)]
        · intro position atLeast atMost
          rw [reads position (by omega) atMost, specPieces, List.map_cons, concatStreams,
            if_neg (by dsimp only; omega), Nat.sub_sub position pos]
          rfl

end Fill

end Vime.Backends.MegatronUtils
