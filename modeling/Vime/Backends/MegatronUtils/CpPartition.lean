import Vime.Backends.MegatronUtils.CpUtils

/-! # Context-parallel slicing is a partition

The logits ranges of all ranks tile the response, every range lies inside the
chunk its rank holds, and summing the gathered vectors undoes the slicing.
-/

namespace Vime.Backends.MegatronUtils

open Vime.Foundation

/-- A position lies in a half-open range. -/
def Covers (range : Int × Int) (position : Int) : Prop :=
  range.1 ≤ position ∧ position < range.2

instance (range : Int × Int) (position : Int) : Decidable (Covers range position) :=
  inferInstanceAs (Decidable (_ ∧ _))

/-! ## One chunk -/

section Chunk

variable {chunk : Int × Int} {totalLength responseLength : Nat}

def chunkLogits (chunk : Int × Int) (totalLength responseLength : Nat) : Int × Int :=
  (chunkLogitsAndTokens chunk totalLength (totalLength - responseLength)).1

theorem covers_chunkLogits_iff (position : Int) :
    Covers (chunkLogits chunk totalLength responseLength) position ↔
      Covers chunk position ∧
        Covers ((totalLength : Int) - responseLength - 1, (totalLength : Int) - 1)
          position := by
  simp only [chunkLogits, chunkLogitsAndTokens, Covers]
  split
  · dsimp only
    omega
  · rename_i isEmpty
    dsimp only at isEmpty ⊢
    omega

/-- The logits range of a chunk in response coordinates: entries `start` up to
`stop` of the response. -/
structure Clipped (chunk : Int × Int) (totalLength responseLength start stop : Nat) :
    Prop where
  ordered : start ≤ stop
  bounded : stop ≤ responseLength
  nonempty : start < stop → chunkLogits chunk totalLength responseLength =
    ((totalLength : Int) - responseLength - 1 + start,
      (totalLength : Int) - responseLength - 1 + stop)
  empty : start = stop → start = 0 ∧ chunkLogits chunk totalLength responseLength = (0, 0)

theorem exists_clipped (chunk : Int × Int) (totalLength responseLength : Nat) :
    ∃ start stop, Clipped chunk totalLength responseLength start stop := by
  by_cases nonempty : max chunk.1 ((totalLength : Int) - responseLength - 1) <
      min chunk.2 ((totalLength : Int) - 1)
  · refine ⟨(max chunk.1 ((totalLength : Int) - responseLength - 1) -
        (totalLength - responseLength - 1)).toNat,
      (min chunk.2 ((totalLength : Int) - 1) - (totalLength - responseLength - 1)).toNat,
      ?_, ?_, ?_, ?_⟩
    · omega
    · omega
    · intro _
      rw [chunkLogits, chunkLogitsAndTokens, if_pos nonempty, Prod.mk.injEq]
      constructor <;> omega
    · omega
  · refine ⟨0, 0, Nat.le_refl 0, Nat.zero_le _, by simp, fun _ => ⟨rfl, ?_⟩⟩
    rw [chunkLogits, chunkLogitsAndTokens, if_neg nonempty]

variable {start stop : Nat}

theorem Clipped.width (clipped : Clipped chunk totalLength responseLength start stop) :
    (chunkLogits chunk totalLength responseLength).2 -
        (chunkLogits chunk totalLength responseLength).1 = ((stop - start : Nat) : Int) := by
  rcases Nat.lt_or_eq_of_le clipped.ordered with inside | same
  · rw [clipped.nonempty inside]
    dsimp only
    omega
  · rw [(clipped.empty same).2]
    omega

theorem Clipped.covers_iff (clipped : Clipped chunk totalLength responseLength start stop)
    (index : Nat) :
    Covers (chunkLogits chunk totalLength responseLength)
        ((totalLength : Int) - responseLength - 1 + index) ↔
      start ≤ index ∧ index < stop := by
  rcases Nat.lt_or_eq_of_le clipped.ordered with inside | same
  · rw [clipped.nonempty inside, Covers]
    omega
  · rw [(clipped.empty same).2, Covers]
    omega

theorem Clipped.mem_chunk (clipped : Clipped chunk totalLength responseLength start stop)
    {index : Nat} (inside : start ≤ index ∧ index < stop) :
    Covers chunk ((totalLength : Int) - responseLength - 1 + index) :=
  ((covers_chunkLogits_iff _).mp ((clipped.covers_iff index).mpr inside)).1

theorem Clipped.slice_eq (clipped : Clipped chunk totalLength responseLength start stop)
    (values : List α) :
    slice values
        ((chunkLogits chunk totalLength responseLength).1 -
          ((totalLength : Int) - responseLength - 1))
        ((chunkLogits chunk totalLength responseLength).2 -
          ((totalLength : Int) - responseLength - 1)) =
      (values.take stop).drop start := by
  rcases Nat.lt_or_eq_of_le clipped.ordered with inside | same
  · rw [clipped.nonempty inside, add_sub_cancel_left, add_sub_cancel_left,
      slice_natCast]
  · rw [(clipped.empty same).2, slice_self, ← same, (clipped.empty same).1]
    rfl

end Chunk

/-! ## One rank -/

section Rank

variable {cpSize cpRank totalLength responseLength : Nat}

def rankLogits (cpSize cpRank totalLength responseLength : Nat) : RangePair where
  first := chunkLogits (cpChunks cpSize cpRank (cpChunkSize cpSize totalLength)).first
    totalLength responseLength
  second := chunkLogits (cpChunks cpSize cpRank (cpChunkSize cpSize totalLength)).second
    totalLength responseLength

def rankOffsets (cpSize cpRank totalLength responseLength : Nat) : CpOffsets :=
  let chunks := cpChunks cpSize cpRank (cpChunkSize cpSize totalLength)
  let promptLength : Int := totalLength - responseLength
  { chunkSize := cpChunkSize cpSize totalLength
    chunks := chunks
    logits := rankLogits cpSize cpRank totalLength responseLength
    tokens :=
      { first := (chunkLogitsAndTokens chunks.first totalLength promptLength).2
        second := (chunkLogitsAndTokens chunks.second totalLength promptLength).2 } }

theorem getLogitsAndTokensOffsetWithCp_eq (parallel : 1 < cpSize) :
    getLogitsAndTokensOffsetWithCp cpSize cpRank totalLength responseLength =
      .ok (rankOffsets cpSize cpRank totalLength responseLength) := by
  rw [getLogitsAndTokensOffsetWithCp, raiseIf, if_neg (by omega)]
  rfl

theorem cpChunks_ordered (isRank : cpRank < cpSize) (chunkSize : Nat) :
    (cpChunks cpSize cpRank chunkSize).first.2 ≤
      (cpChunks cpSize cpRank chunkSize).second.1 := by
  have before : (cpRank + 1) * chunkSize ≤ (2 * cpSize - cpRank - 1) * chunkSize :=
    Nat.mul_le_mul_right chunkSize (by omega)
  have left : (2 * (cpSize : Int) - cpRank - 1) = ((2 * cpSize - cpRank - 1 : Nat) : Int) := by
    omega
  dsimp only [cpChunks]
  rw [left]
  exact_mod_cast before

structure RankRanges (cpSize cpRank totalLength responseLength start0 stop0 start1 stop1 : Nat) :
    Prop where
  first : Clipped (cpChunks cpSize cpRank (cpChunkSize cpSize totalLength)).first
    totalLength responseLength start0 stop0
  second : Clipped (cpChunks cpSize cpRank (cpChunkSize cpSize totalLength)).second
    totalLength responseLength start1 stop1
  ordered : start0 < stop0 → start1 < stop1 → stop0 ≤ start1

theorem exists_rankRanges (isRank : cpRank < cpSize) (totalLength responseLength : Nat) :
    ∃ start0 stop0 start1 stop1,
      RankRanges cpSize cpRank totalLength responseLength start0 stop0 start1 stop1 := by
  rcases exists_clipped (cpChunks cpSize cpRank (cpChunkSize cpSize totalLength)).first
    totalLength responseLength with ⟨start0, stop0, first⟩
  rcases exists_clipped (cpChunks cpSize cpRank (cpChunkSize cpSize totalLength)).second
    totalLength responseLength with ⟨start1, stop1, second⟩
  refine ⟨start0, stop0, start1, stop1, first, second, ?_⟩
  intro nonempty0 nonempty1
  have chunksOrdered := cpChunks_ordered isRank (cpChunkSize cpSize totalLength)
  have lastInFirst := (first.mem_chunk (show start0 ≤ stop0 - 1 ∧ stop0 - 1 < stop0 by omega)).2
  have firstInSecond := (second.mem_chunk (show start1 ≤ start1 ∧ start1 < stop1 by omega)).1
  omega

theorem sliceLogProbWithCp_eq (parallel : 1 < cpSize)
    {start0 stop0 start1 stop1 : Nat}
    (ranges : RankRanges cpSize cpRank totalLength responseLength start0 stop0 start1 stop1)
    (values : List α) (sameLength : values.length = responseLength) :
    sliceLogProbWithCp cpSize cpRank values totalLength responseLength =
      .ok ((values.take stop0).drop start0 ++ (values.take stop1).drop start1) := by
  rw [sliceLogProbWithCp, raiseIf, if_neg (by simpa using sameLength), ok_bind,
    if_neg (by omega), getLogitsAndTokensOffsetWithCp_eq parallel, ok_bind]
  dsimp only [rankOffsets, rankLogits]
  rw [ranges.first.slice_eq, ranges.second.slice_eq, pure_eq_ok]

section Gather

variable {M : Type} [AddCommMonoid M] {start0 stop0 start1 stop1 : Nat}

theorem zeros_eq (length : Nat) : zeros (length : Int) = .ok (List.replicate length (0 : M)) := by
  rw [zeros, if_neg (by omega), Int.toNat_natCast]

/-- The entry of a rank's contribution: its own value where one of its ranges covers
the entry, and zero elsewhere. -/
def ownedEntry (values : List M) (start0 stop0 start1 stop1 index : Nat) : M :=
  (if start0 ≤ index ∧ index < stop0 then values.getD index 0 else 0) +
    if start1 ≤ index ∧ index < stop1 then values.getD index 0 else 0

/-- The chunks of a rank are put back at their places. -/
theorem placeChunks_eq
    (ranges : RankRanges cpSize cpRank totalLength responseLength start0 stop0 start1 stop1)
    (values : List M) (sameLength : values.length = responseLength) :
    ∃ placed, placeChunks
        (chunkLogits (cpChunks cpSize cpRank (cpChunkSize cpSize totalLength)).first
          totalLength responseLength)
        (chunkLogits (cpChunks cpSize cpRank (cpChunkSize cpSize totalLength)).second
          totalLength responseLength) totalLength responseLength
        ((values.take stop0).drop start0) ((values.take stop1).drop start1) = .ok placed ∧
      placed.length = responseLength ∧
      ∀ index < responseLength,
        placed.getD index 0 = ownedEntry values start0 stop0 start1 stop1 index := by
  have length0 : ((values.take stop0).drop start0).length = stop0 - start0 := by
    rw [List.length_drop, List.length_take_of_le (sameLength ▸ ranges.first.bounded)]
  have length1 : ((values.take stop1).drop start1).length = stop1 - start1 := by
    rw [List.length_drop, List.length_take_of_le (sameLength ▸ ranges.second.bounded)]
  have bounded0 := ranges.first.bounded
  have bounded1 := ranges.second.bounded
  have ordered0 := ranges.first.ordered
  have ordered1 := ranges.second.ordered
  simp only [placeChunks, length0, length1]
  rcases Nat.lt_or_eq_of_le ordered0 with nonempty0 | empty0
  · have place0 := ranges.first.nonempty nonempty0
    have left : (totalLength : Int) - responseLength - 1 + start0 -
        ((totalLength : Int) - responseLength - 1) = ((start0 : Nat) : Int) := by omega
    rcases Nat.lt_or_eq_of_le ordered1 with nonempty1 | empty1
    · -- both chunks
      have place1 := ranges.second.nonempty nonempty1
      have between := ranges.ordered nonempty0 nonempty1
      have mid : (totalLength : Int) - responseLength - 1 + start1 -
          ((totalLength : Int) - responseLength - 1 + stop0) = ((start1 - stop0 : Nat) : Int) := by
        omega
      have right : (totalLength : Int) - 1 -
          ((totalLength : Int) - responseLength - 1 + stop1) =
            ((responseLength - stop1 : Nat) : Int) := by omega
      rw [if_neg (by omega), if_neg (by omega), if_neg (by omega), place0, place1]
      dsimp only
      rw [left, mid, right, zeros_eq, zeros_eq, zeros_eq]
      refine ⟨_, rfl, by simp [length0, length1]; omega, ?_⟩
      intro index inside
      simp only [getD_append, getD_zeros, getD_segment, List.length_append,
        List.length_replicate, length0, length1, ownedEntry]
      split_ifs <;> first
        | omega
        | rw [add_zero]; congr 1; omega
        | rw [zero_add]; congr 1; omega
        | rw [add_zero]
    · -- only the first chunk
      have right : (totalLength : Int) - 1 -
          ((totalLength : Int) - responseLength - 1 + stop0) =
            ((responseLength - stop0 : Nat) : Int) := by omega
      rw [if_neg (by omega), if_pos (by omega), place0]
      dsimp only
      rw [left, right, zeros_eq, zeros_eq]
      refine ⟨_, rfl, by simp [length0]; omega, ?_⟩
      intro index inside
      simp only [getD_append, getD_zeros, getD_segment, List.length_append,
        List.length_replicate, length0, ownedEntry]
      split_ifs <;> first
        | omega
        | rw [add_zero]; congr 1; omega
        | rw [add_zero]
  · rcases Nat.lt_or_eq_of_le ordered1 with nonempty1 | empty1
    · -- only the second chunk
      have place1 := ranges.second.nonempty nonempty1
      have left : (totalLength : Int) - responseLength - 1 + start1 -
          ((totalLength : Int) - responseLength - 1) = ((start1 : Nat) : Int) := by omega
      have right : (totalLength : Int) - 1 -
          ((totalLength : Int) - responseLength - 1 + stop1) =
            ((responseLength - stop1 : Nat) : Int) := by omega
      rw [if_neg (by omega), if_neg (by omega), if_pos (by omega), place1]
      dsimp only
      rw [left, right, zeros_eq, zeros_eq]
      refine ⟨_, rfl, by simp [length1]; omega, ?_⟩
      intro index inside
      simp only [getD_append, getD_zeros, getD_segment, List.length_append,
        List.length_replicate, length1, ownedEntry]
      split_ifs <;> first
        | omega
        | rw [zero_add]; congr 1; omega
        | rw [add_zero]
    · -- no chunk
      rw [if_pos (by omega), zeros_eq]
      refine ⟨_, rfl, by simp, ?_⟩
      intro index inside
      rw [getD_zeros, ownedEntry, if_neg (by omega), if_neg (by omega), add_zero]

def contribution (cpSize cpRank totalLength responseLength : Nat) (values : List M) :
    List M :=
  let logits := rankLogits cpSize cpRank totalLength responseLength
  (List.range responseLength).map fun index : Nat =>
    let position : Int := (totalLength : Int) - responseLength - 1 + index
    (if Covers logits.first position then values.getD index 0 else 0) +
      if Covers logits.second position then values.getD index 0 else 0

theorem getD_contribution (values : List M) {index : Nat} (inside : index < responseLength) :
    (contribution cpSize cpRank totalLength responseLength values).getD index 0 =
      (if Covers (rankLogits cpSize cpRank totalLength responseLength).first
          ((totalLength : Int) - responseLength - 1 + index) then values.getD index 0
        else 0) +
      if Covers (rankLogits cpSize cpRank totalLength responseLength).second
          ((totalLength : Int) - responseLength - 1 + index) then values.getD index 0
        else 0 := by
  rw [contribution, List.getD_eq_getElem _ _ (by simpa using inside), List.getElem_map,
    List.getElem_range]

theorem fullTensorWithCp_eq (parallel : 1 < cpSize) (isRank : cpRank < cpSize)
    (totalLength : Nat) (values : List M) (sameLength : values.length = responseLength) :
    ∃ sliced, sliceLogProbWithCp cpSize cpRank values totalLength responseLength =
        .ok sliced ∧
      fullTensorWithCp cpSize cpRank sliced totalLength responseLength =
        .ok (contribution cpSize cpRank totalLength responseLength values) := by
  rcases exists_rankRanges isRank totalLength responseLength with
    ⟨start0, stop0, start1, stop1, ranges⟩
  refine ⟨_, sliceLogProbWithCp_eq parallel ranges values sameLength, ?_⟩
  have length0 : ((values.take stop0).drop start0).length = stop0 - start0 := by
    rw [List.length_drop, List.length_take_of_le (sameLength ▸ ranges.first.bounded)]
  have length1 : ((values.take stop1).drop start1).length = stop1 - start1 := by
    rw [List.length_drop, List.length_take_of_le (sameLength ▸ ranges.second.bounded)]
  rcases placeChunks_eq ranges values sameLength with ⟨placed, placedEq, length, entries⟩
  have isContribution : placed =
      contribution cpSize cpRank totalLength responseLength values := by
    apply eq_of_getD_eq
    · simp [length, contribution]
    · intro index inside
      rw [length] at inside
      rw [entries index inside, getD_contribution values inside, ownedEntry]
      simp only [rankLogits, ranges.first.covers_iff, ranges.second.covers_iff]
  rw [fullTensorWithCp, getLogitsAndTokensOffsetWithCp_eq parallel, ok_bind]
  dsimp only [rankOffsets, rankLogits]
  rw [ranges.first.width, sliceTo_natCast, sliceFrom_natCast, List.take_left' length0,
    List.drop_left' length0, ranges.second.width, length1, raiseIf, if_neg (by simp),
    ok_bind, placedEq, ok_bind, raiseIf, if_neg (by simp [length]), ok_bind, isContribution,
    pure_eq_ok]

end Gather

end Rank

/-! ## All ranks -/

section Ranks

variable {cpSize totalLength responseLength : Nat}

theorem le_chunks (cpSize totalLength : Nat) (positive : 0 < cpSize) :
    totalLength ≤ 2 * cpSize * cpChunkSize cpSize totalLength := by
  rw [cpChunkSize]
  have divides := Nat.div_add_mod (totalLength + 2 * cpSize - 1) (2 * cpSize)
  have remainder := Nat.mod_lt (totalLength + 2 * cpSize - 1) (show 2 * cpSize > 0 by omega)
  omega

def numberedChunk (chunkSize chunk : Nat) : Int × Int :=
  (((chunk * chunkSize : Nat) : Int), (((chunk + 1) * chunkSize : Nat) : Int))

theorem cpChunks_eq {cpRank : Nat} (isRank : cpRank < cpSize) (chunkSize : Nat) :
    cpChunks cpSize cpRank chunkSize =
      { first := numberedChunk chunkSize cpRank
        second := numberedChunk chunkSize (2 * cpSize - cpRank - 1) } := by
  have second : ((2 * cpSize - cpRank - 1 : Nat) : Int) = 2 * (cpSize : Int) - cpRank - 1 := by
    omega
  have last : ((2 * cpSize - cpRank - 1 + 1 : Nat) : Int) = 2 * (cpSize : Int) - cpRank := by
    omega
  simp only [cpChunks, numberedChunk, Int.natCast_mul, second, last, Int.natCast_add,
    Int.natCast_one]

/-- Over all ranks, every response position is covered exactly once. -/
theorem sum_rankLogits {M : Type} [AddCommMonoid M] (parallel : 1 < cpSize)
    (inSequence : responseLength < totalLength) (position : Int) (value : M) :
    (∑ cpRank ∈ Finset.range cpSize,
      ((if Covers (rankLogits cpSize cpRank totalLength responseLength).first position
          then value else 0) +
        if Covers (rankLogits cpSize cpRank totalLength responseLength).second position
          then value else 0)) =
      if Covers ((totalLength : Int) - responseLength - 1, (totalLength : Int) - 1) position
      then value else 0 := by
  let chunkSize := cpChunkSize cpSize totalLength
  let term (chunk : Nat) : M :=
    if Covers (chunkLogits (numberedChunk chunkSize chunk) totalLength responseLength)
      position then value else 0
  have paired : (∑ cpRank ∈ Finset.range cpSize,
      ((if Covers (rankLogits cpSize cpRank totalLength responseLength).first position
          then value else 0) +
        if Covers (rankLogits cpSize cpRank totalLength responseLength).second position
          then value else 0)) =
      ∑ cpRank ∈ Finset.range cpSize, (term cpRank + term (2 * cpSize - cpRank - 1)) := by
    apply Finset.sum_congr rfl
    intro cpRank member
    rw [rankLogits, cpChunks_eq (Finset.mem_range.mp member)]
  rw [paired, sum_zigzag]
  simp only [term, covers_chunkLogits_iff]
  by_cases inResponse : Covers ((totalLength : Int) - responseLength - 1,
      (totalLength : Int) - 1) position
  · rcases Int.eq_ofNat_of_zero_le (show 0 ≤ position by
      have lower := inResponse.1
      dsimp only at lower
      omega) with ⟨index, rfl⟩
    have inside : index < 2 * cpSize * chunkSize := by
      have upper := inResponse.2
      have fits := le_chunks cpSize totalLength (by omega)
      dsimp only at upper
      simp only [chunkSize]
      omega
    rw [if_pos inResponse]
    refine Eq.trans ?_ (sum_chunks value inside)
    apply Finset.sum_congr rfl
    intro chunk _
    simp only [inResponse, and_true]
    simp only [Covers, numberedChunk, Int.ofNat_le, Int.ofNat_lt]
  · simp [inResponse]

theorem slice_numberedChunk {chunkSize chunk count : Nat} (padded : List α)
    (whole : padded.length = count * chunkSize) (isChunk : chunk < count) :
    (slice padded (numberedChunk chunkSize chunk).1 (numberedChunk chunkSize chunk).2).length =
        chunkSize ∧
      ∀ position : Nat, Covers (numberedChunk chunkSize chunk) position →
        (slice padded (numberedChunk chunkSize chunk).1
          (numberedChunk chunkSize chunk).2)[position - chunk * chunkSize]? =
            padded[position]? := by
  have fits : (chunk + 1) * chunkSize ≤ padded.length := by
    rw [whole]
    exact Nat.mul_le_mul_right chunkSize isChunk
  dsimp only [numberedChunk, Covers]
  rw [slice_natCast]
  constructor
  · rw [List.length_drop, List.length_take_of_le fits, Nat.succ_mul]
    omega
  · intro position covers
    rw [Int.ofNat_le, Int.ofNat_lt] at covers
    rw [List.getElem?_drop, Nat.add_sub_cancel' covers.1, List.getElem?_take,
      if_pos covers.2]

theorem offset_in_chunk {chunkSize chunk position : Nat}
    (covers : Covers (numberedChunk chunkSize chunk) position) :
    ((position : Int) - (numberedChunk chunkSize chunk).1).toNat =
        position - chunk * chunkSize ∧
      position - chunk * chunkSize < chunkSize := by
  dsimp only [numberedChunk, Covers] at covers ⊢
  rw [Int.ofNat_le, Int.ofNat_lt, Nat.succ_mul] at covers
  omega

/-- A position in a chunk of a rank is found in that half of what the rank holds. -/
theorem sliceWithCp_getElem? {cpRank : Nat} (parallel : 1 < cpSize)
    (isRank : cpRank < cpSize) (tokens : List α) (padValue : α) :
    let chunkSize := cpChunkSize cpSize tokens.length
    let chunks := cpChunks cpSize cpRank chunkSize
    (sliceWithCp cpSize cpRank tokens padValue).length = 2 * chunkSize ∧
      ∀ position : Nat, position < tokens.length →
        (Covers chunks.first position →
          (position - chunks.first.1).toNat < chunkSize ∧
          (sliceWithCp cpSize cpRank tokens padValue)[(position - chunks.first.1).toNat]? =
            tokens[position]?) ∧
        (Covers chunks.second position →
          (position - chunks.second.1).toNat < chunkSize ∧
          (sliceWithCp cpSize cpRank tokens padValue)[
              chunkSize + (position - chunks.second.1).toNat]? =
            tokens[position]?) := by
  intro chunkSize chunks
  have fits := le_chunks cpSize tokens.length (by omega)
  let padded := tokens ++ List.replicate (2 * cpSize * chunkSize - tokens.length) padValue
  have whole : padded.length = 2 * cpSize * chunkSize := by
    simp only [padded, List.length_append, List.length_replicate]
    exact Nat.add_sub_cancel' fits
  have chunksEq : chunks = _ := cpChunks_eq isRank chunkSize
  have held : sliceWithCp cpSize cpRank tokens padValue =
      slice padded chunks.first.1 chunks.first.2 ++
        slice padded chunks.second.1 chunks.second.2 := by
    rw [sliceWithCp, if_neg (by omega)]
  have first := slice_numberedChunk padded whole (show cpRank < 2 * cpSize by omega)
  have second := slice_numberedChunk padded whole
    (show 2 * cpSize - cpRank - 1 < 2 * cpSize by omega)
  have inTokens (position : Nat) (inside : position < tokens.length) :
      padded[position]? = tokens[position]? := List.getElem?_append_left inside
  rw [held, chunksEq]
  dsimp only
  constructor
  · rw [List.length_append, first.1, second.1]
    omega
  · intro position inside
    constructor
    · intro covers
      rcases offset_in_chunk covers with ⟨offset, inChunk⟩
      rw [offset, List.getElem?_append_left (by rw [first.1]; exact inChunk),
        first.2 position covers, inTokens position inside]
      exact ⟨inChunk, rfl⟩
    · intro covers
      rcases offset_in_chunk covers with ⟨offset, inChunk⟩
      rw [offset, List.getElem?_append_right (by rw [first.1]; omega), first.1,
        Nat.add_sub_cancel_left, second.2 position covers, inTokens position inside]
      exact ⟨inChunk, rfl⟩

end Ranks

/-! ## Slicing and gathering -/

section Gather

variable {M : Type} [AddCommMonoid M] {cpSize totalLength responseLength : Nat}

theorem elementwiseSum_contributions (parallel : 1 < cpSize)
    (keeps : responseLength = 0 ∨ responseLength < totalLength) (values : List M)
    (sameLength : values.length = responseLength) :
    elementwiseSum responseLength ((List.range cpSize).map fun cpRank =>
      contribution cpSize cpRank totalLength responseLength values) = values := by
  apply eq_of_getD_eq
  · simp [elementwiseSum, sameLength]
  · intro index inSum
    have inside : index < responseLength := by simpa [elementwiseSum] using inSum
    have inSequence : responseLength < totalLength := by omega
    have covered : Covers ((totalLength : Int) - responseLength - 1, (totalLength : Int) - 1)
        ((totalLength : Int) - responseLength - 1 + index) := by
      rw [Covers]
      omega
    rw [getD_elementwiseSum _ inside]
    simp only [getD_contribution values inside]
    rw [sum_rankLogits parallel inSequence, if_pos covered]

theorem allGatherWithCp_slices (parallel : 1 < cpSize)
    (keeps : responseLength = 0 ∨ responseLength < totalLength) (values : List M)
    (sameLength : values.length = responseLength) :
    ∃ slices : Nat → List M,
      (∀ cpRank < cpSize,
        sliceLogProbWithCp cpSize cpRank values totalLength responseLength =
          .ok (slices cpRank)) ∧
      allGatherWithCp cpSize slices totalLength responseLength = .ok values := by
  let slices (cpRank : Nat) : List M :=
    (sliceLogProbWithCp cpSize cpRank values totalLength responseLength).toOption.getD []
  have sliced (cpRank : Nat) (isRank : cpRank < cpSize) :
      sliceLogProbWithCp cpSize cpRank values totalLength responseLength =
          .ok (slices cpRank) ∧
        fullTensorWithCp cpSize cpRank (slices cpRank) totalLength responseLength =
          .ok (contribution cpSize cpRank totalLength responseLength values) := by
    rcases fullTensorWithCp_eq parallel isRank totalLength values sameLength with
      ⟨own, slicedEq, contributes⟩
    have isOwn : slices cpRank = own := by
      simp only [slices, slicedEq]
      rfl
    rw [isOwn]
    exact ⟨slicedEq, contributes⟩
  refine ⟨slices, fun cpRank isRank => (sliced cpRank isRank).1, ?_⟩
  have gathered := mapM_eq_ok_map
    (fun cpRank => fullTensorWithCp cpSize cpRank (slices cpRank) totalLength responseLength)
    (fun cpRank => contribution cpSize cpRank totalLength responseLength values)
    (List.range cpSize)
    (fun cpRank member => (sliced cpRank (List.mem_range.mp member)).2)
  rw [allGatherWithCp, if_neg (by omega), gathered, ok_bind, pure_eq_ok,
    elementwiseSum_contributions parallel keeps values sameLength]

theorem sliceWithCp_holds_logits {cpRank : Nat} (parallel : 1 < cpSize)
    (isRank : cpRank < cpSize) (tokens : List α) (padValue : α)
    (sameLength : tokens.length = totalLength) :
    let offsets := rankOffsets cpSize cpRank totalLength responseLength
    let held := sliceWithCp cpSize cpRank tokens padValue
    held.length = 2 * offsets.chunkSize ∧
      ∀ position : Nat,
        (Covers offsets.logits.first position →
          let offset := ((position : Int) - offsets.chunks.first.1).toNat
          Covers offsets.chunks.first position ∧ offset < offsets.chunkSize ∧
            held[offset]? = tokens[position]?) ∧
        (Covers offsets.logits.second position →
          let offset := ((position : Int) - offsets.chunks.second.1).toNat
          Covers offsets.chunks.second position ∧ offset < offsets.chunkSize ∧
            held[offsets.chunkSize + offset]? = tokens[position]?) := by
  subst sameLength
  intro offsets held
  have halves := sliceWithCp_getElem? parallel isRank tokens padValue
  refine ⟨halves.1, fun position => ⟨fun inFirst => ?_, fun inSecond => ?_⟩⟩
  · have inChunk := (covers_chunkLogits_iff _).mp inFirst
    have inTokens : position < tokens.length := by
      have upper := inChunk.2.2
      dsimp only at upper
      omega
    exact ⟨inChunk.1, (halves.2 position inTokens).1 inChunk.1⟩
  · have inChunk := (covers_chunkLogits_iff _).mp inSecond
    have inTokens : position < tokens.length := by
      have upper := inChunk.2.2
      dsimp only at upper
      omega
    exact ⟨inChunk.1, (halves.2 position inTokens).2 inChunk.1⟩

end Gather

/-- The logits ranges of all ranks cover each response position once, every range
lies inside the chunk that `slice_with_cp` gives its rank, and gathering the slices
of a response vector returns the vector. -/
theorem cp_slices_partition_and_gather {M : Type} [AddCommMonoid M]
    (cpSize totalLength responseLength : Nat) (parallel : 2 ≤ cpSize)
    (inSequence : responseLength < totalLength) :
    ∃ offsets : Nat → CpOffsets,
      (∀ cpRank < cpSize,
        getLogitsAndTokensOffsetWithCp cpSize cpRank totalLength responseLength =
          .ok (offsets cpRank)) ∧
      (∀ position : Int,
        (∑ cpRank ∈ Finset.range cpSize,
          ((if Covers (offsets cpRank).logits.first position then 1 else 0) +
            if Covers (offsets cpRank).logits.second position then 1 else 0)) =
          if Covers ((totalLength : Int) - responseLength - 1, (totalLength : Int) - 1)
            position then 1 else 0) ∧
      (∀ cpRank < cpSize, ∀ (tokens : List M) (padValue : M), tokens.length = totalLength →
        let held := sliceWithCp cpSize cpRank tokens padValue
        let chunkSize := (offsets cpRank).chunkSize
        held.length = 2 * chunkSize ∧
        ∀ position : Nat,
          (Covers (offsets cpRank).logits.first position →
            let offset := ((position : Int) - (offsets cpRank).chunks.first.1).toNat
            Covers (offsets cpRank).chunks.first position ∧ offset < chunkSize ∧
              held[offset]? = tokens[position]?) ∧
          (Covers (offsets cpRank).logits.second position →
            let offset := ((position : Int) - (offsets cpRank).chunks.second.1).toNat
            Covers (offsets cpRank).chunks.second position ∧ offset < chunkSize ∧
              held[chunkSize + offset]? = tokens[position]?)) ∧
      ∀ values : List M, values.length = responseLength →
        ∃ slices : Nat → List M,
          (∀ cpRank < cpSize,
            sliceLogProbWithCp cpSize cpRank values totalLength responseLength =
              .ok (slices cpRank)) ∧
          allGatherWithCp cpSize slices totalLength responseLength = .ok values := by
  refine ⟨fun cpRank => rankOffsets cpSize cpRank totalLength responseLength, ?_, ?_, ?_, ?_⟩
  · intro cpRank _
    exact getLogitsAndTokensOffsetWithCp_eq parallel
  · intro position
    exact sum_rankLogits parallel inSequence position 1
  · intro cpRank isRank tokens padValue sameLength
    exact sliceWithCp_holds_logits parallel isRank tokens padValue sameLength
  · intro values sameLength
    exact allGatherWithCp_slices parallel (.inr inSequence) values sameLength

/-- Two ranks, a response of three tokens after a prompt of six. -/
theorem cp_slices_of_short_response :
    ∃ slices : Nat → List Int,
      (∀ cpRank < 2, sliceLogProbWithCp 2 cpRank [10, 20, 30] 9 3 = .ok (slices cpRank)) ∧
      allGatherWithCp 2 slices 9 3 = .ok [10, 20, 30] := by
  rcases cp_slices_partition_and_gather (M := Int) 2 9 3 (by decide) (by decide) with
    ⟨_, _, _, _, gathers⟩
  exact gathers [10, 20, 30] rfl

end Vime.Backends.MegatronUtils
