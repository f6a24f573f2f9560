import Mathlib.Algebra.Order.Ring.Nat
import Mathlib.Algebra.Order.Ring.Rat
import Vime.Foundation.Python

/-! # Buffers that remember their writes

A row of a fresh buffer holds nothing; afterwards it holds what was written to it, oldest first,
so that a row written twice is told from one written once. Regions of a stream that are clipped
to a range and written at their places fill together what the whole range fills.
-/

namespace Vime.Foundation

/-! ## Stretches of a stream -/

/-- The entries of a stream from `start` up to, but excluding, `stop`. -/
def stretch (stream : Nat → α) (start stop : Nat) : List α :=
  (List.range' start (stop - start)).map stream

@[simp] theorem length_stretch (stream : Nat → α) (start stop : Nat) :
    (stretch stream start stop).length = stop - start := by
  simp [stretch]

theorem stretch_of_le (stream : Nat → α) {start stop : Nat} (empty : stop ≤ start) :
    stretch stream start stop = [] := by
  simp [stretch, Nat.sub_eq_zero_of_le empty]

theorem stretch_append (stream : Nat → α) {start mid stop : Nat} (first : start ≤ mid)
    (second : mid ≤ stop) :
    stretch stream start mid ++ stretch stream mid stop = stretch stream start stop := by
  have joined := @List.range'_append_1 start (mid - start) (stop - mid)
  rw [Nat.add_sub_cancel' first, show mid - start + (stop - mid) = stop - start by omega] at joined
  rw [stretch, stretch, stretch, ← List.map_append, joined]

theorem stretch_congr {left right : Nat → α} {start stop : Nat}
    (same : ∀ position, start ≤ position → position < stop → left position = right position) :
    stretch left start stop = stretch right start stop := by
  apply List.map_congr_left
  intro position member
  rw [List.mem_range'_1] at member
  exact same position member.1 (by omega)

theorem stretch_shift (stream : Nat → α) (offset start stop : Nat) :
    stretch (fun position => stream (offset + position)) start stop =
      stretch stream (offset + start) (offset + stop) := by
  rw [stretch, stretch, Nat.add_sub_add_left, ← List.map_add_range', List.map_map]
  rfl

theorem stretch_sub (stream piece : Nat → α) (high : Nat) {base low : Nat} (behind : base ≤ low)
    (same : ∀ position, low ≤ position → position < high →
      stream position = piece (position - base)) :
    stretch piece (low - base) (high - base) = stretch stream low high := by
  by_cases empty : high ≤ low
  · rw [stretch_of_le _ empty, stretch_of_le _ (by omega)]
  · have shifted := stretch_shift stream base (low - base) (high - base)
    rw [Nat.add_sub_cancel' behind, Nat.add_sub_cancel' (by omega)] at shifted
    rw [← shifted]
    apply stretch_congr
    intro position atLeast atMost
    rw [same _ (by omega) (by omega), Nat.add_sub_cancel_left]

theorem stretch_zero_length {stream : Nat → α} {values : List α}
    (reads : ∀ index (inside : index < values.length), stream index = values[index]) :
    stretch stream 0 values.length = values := by
  apply List.ext_getElem
  · simp
  · intro index inStretch inside
    simp [stretch, reads index inside]

theorem take_drop_stretch (stream : Nat → α) {start stop length : Nat} (inside : stop ≤ length) :
    ((stretch stream 0 length).take stop).drop start = stretch stream start stop := by
  apply List.ext_getElem
  · simp [Nat.min_eq_left inside]
  · intro index _ _
    simp [stretch]

def concatStreams : List (Nat × (Nat → α)) → (Nat → α) → Nat → α
  | [], rest, position => rest position
  | piece :: pieces, rest, position =>
      if position < piece.1 then piece.2 position
      else concatStreams pieces rest (position - piece.1)

theorem stretch_concatStreams (pieces : List (Nat × (Nat → α))) (rest : Nat → α) (more : Nat) :
    stretch (concatStreams pieces rest) 0 ((pieces.map Prod.fst).sum + more) =
      (pieces.map fun piece => stretch piece.2 0 piece.1).flatten ++ stretch rest 0 more := by
  induction pieces with
  | nil => simp [concatStreams]
  | cons piece pieces induction =>
      have here : stretch (concatStreams (piece :: pieces) rest) 0 piece.1 =
          stretch piece.2 0 piece.1 := stretch_congr fun position _ inside => by
        rw [concatStreams, if_pos inside]
      have later : stretch (concatStreams (piece :: pieces) rest) piece.1
          (piece.1 + ((pieces.map Prod.fst).sum + more)) =
            stretch (concatStreams pieces rest) 0 ((pieces.map Prod.fst).sum + more) := by
        have shifted := stretch_shift (concatStreams (piece :: pieces) rest) piece.1 0
          ((pieces.map Prod.fst).sum + more)
        rw [Nat.add_zero] at shifted
        rw [← shifted]
        apply stretch_congr
        intro position _ _
        rw [concatStreams, if_neg (by omega), Nat.add_sub_cancel_left]
      rw [List.map_cons, List.map_cons, List.sum_cons, List.flatten_cons, Nat.add_assoc,
        ← stretch_append _ (Nat.zero_le _) (Nat.le_add_right piece.1 _), here, later, induction,
        List.append_assoc]

theorem concatStreams_all {holds : α → Prop} {pieces : List (Nat × (Nat → α))} {rest : Nat → α}
    (inPieces : ∀ piece ∈ pieces, ∀ position, holds (piece.2 position))
    (inRest : ∀ position, holds (rest position)) (position : Nat) :
    holds (concatStreams pieces rest position) := by
  induction pieces generalizing position with
  | nil => exact inRest position
  | cons piece pieces induction =>
      rw [concatStreams]
      split
      · exact inPieces piece List.mem_cons_self position
      · exact induction (fun other member => inPieces other (List.mem_cons_of_mem _ member)) _

/-! ## Writes -/

abbrev WrittenRows (α : Type u) := List (List α)

def freshRows (count : Nat) : WrittenRows α := List.replicate count []

/-- The buffer after `rows` were written from row `start` on. -/
def writeRows (target : WrittenRows α) (start : Nat) (rows : List α) : WrittenRows α :=
  target.mapIdx fun index written =>
    if start ≤ index then written ++ rows[index - start]?.toList else written

/-- `target[start:stop].copy_(rows)` for bounds that are not negative; a single row is
broadcast. -/
def copyRows (target : WrittenRows α) (start stop : Nat) (rows : List α) :
    Except PyException (WrittenRows α) :=
  let low := min start target.length
  let width := min stop target.length - low
  if rows.length = width then .ok (writeRows target low rows)
  else
    match rows with
    | [single] => .ok (writeRows target low (List.replicate width single))
    | _ => .error (.runtimeError
        s!"The size of tensor a ({width}) must match the size of tensor b ({rows.length}) at non-singleton dimension 0")

@[simp] theorem length_writeRows (target : WrittenRows α) (start : Nat) (rows : List α) :
    (writeRows target start rows).length = target.length := by
  simp [writeRows]

@[simp] theorem writeRows_nil (target : WrittenRows α) (start : Nat) :
    writeRows target start [] = target := by
  apply List.ext_getElem
  · simp
  · intro index _ _
    simp [writeRows]

theorem writeRows_append (target : WrittenRows α) (start : Nat) (first second : List α) :
    writeRows (writeRows target start first) (start + first.length) second =
      writeRows target start (first ++ second) := by
  apply List.ext_getElem
  · simp
  · intro index _ _
    simp only [writeRows, List.getElem_mapIdx]
    by_cases before : index < start
    · rw [if_neg (by omega), if_neg (by omega), if_neg (by omega)]
    · by_cases inFirst : index - start < first.length
      · rw [if_neg (by omega), if_pos (by omega), if_pos (by omega),
          List.getElem?_append_left inFirst]
      · have past : first[index - start]? = none := List.getElem?_eq_none (by omega)
        rw [if_pos (by omega), if_pos (by omega), if_pos (by omega),
          List.getElem?_append_right (by omega), past, Nat.sub_sub index start first.length]
        simp

theorem copyRows_eq_ok {target : WrittenRows α} {start : Nat} {rows : List α}
    (fits : start + rows.length ≤ target.length) :
    copyRows target start (start + rows.length) rows = .ok (writeRows target start rows) := by
  rw [copyRows.eq_def]
  dsimp only
  rw [Nat.min_eq_left fits, Nat.min_eq_left (by omega), if_pos (by omega)]

theorem writeRows_freshRows (rows : List α) :
    writeRows (freshRows rows.length) 0 rows = rows.map fun row => [row] := by
  apply List.ext_getElem
  · simp [freshRows]
  · intro index inFresh inside
    rw [List.length_map] at inside
    simp [writeRows, freshRows, List.getElem?_eq_getElem inside]

/-! ## Regions clipped to a range -/

/-- The part of the region from `low` up to `high` that lies in the range from `start` up to
`stop`, written where the range begins at row `origin`. -/
def writeClipped (target : WrittenRows α) (origin : Nat) (stream : Nat → α)
    (start stop low high : Nat) : WrittenRows α :=
  writeRows target (origin + (max start low - start))
    (stretch stream (max start low) (min stop high))

section Clipped

variable {target : WrittenRows α} {origin : Nat} {stream : Nat → α} {start stop low mid high : Nat}

@[simp] theorem length_writeClipped :
    (writeClipped target origin stream start stop low high).length = target.length :=
  length_writeRows _ _ _

theorem writeClipped_of_le (empty : min stop high ≤ max start low) :
    writeClipped target origin stream start stop low high = target := by
  rw [writeClipped, stretch_of_le stream empty, writeRows_nil]

theorem writeClipped_append (first : low ≤ mid) (second : mid ≤ high) :
    writeClipped (writeClipped target origin stream start stop low mid) origin stream start stop
        mid high =
      writeClipped target origin stream start stop low high := by
  by_cases noSecond : min stop high ≤ max start mid
  · rw [writeClipped_of_le noSecond, writeClipped, writeClipped]
    by_cases sameEnd : min stop mid = min stop high
    · rw [sameEnd]
    · rw [stretch_of_le stream (show min stop mid ≤ max start low by omega),
        stretch_of_le stream (show min stop high ≤ max start low by omega)]
  · by_cases noFirst : min stop mid ≤ max start low
    · rw [writeClipped_of_le noFirst, writeClipped, writeClipped,
        show max start mid = max start low by omega]
    · have firstLength : (stretch stream (max start low) (min stop mid)).length =
          max start mid - max start low := by
        rw [length_stretch]
        omega
      have place : origin + (max start mid - start) = origin + (max start low - start) +
          (stretch stream (max start low) (min stop mid)).length := by
        rw [firstLength]
        omega
      rw [writeClipped, writeClipped, writeClipped, place, writeRows_append,
        show max start mid = min stop mid by omega,
        stretch_append stream (by omega) (by omega)]

theorem writeClipped_whole (below : low ≤ start) (above : stop ≤ high) :
    writeClipped target origin stream start stop low high =
      writeRows target origin (stretch stream start stop) := by
  rw [writeClipped, Nat.max_eq_left below, Nat.min_eq_left above, Nat.sub_self, Nat.add_zero]

theorem writeClipped_high (above : stop ≤ high) :
    writeClipped target origin stream start stop low high =
      writeClipped target origin stream start stop low stop := by
  rw [writeClipped, writeClipped, Nat.min_eq_left above, Nat.min_self]

theorem writeClipped_rest (first : low ≤ mid) :
    writeClipped (writeClipped target origin stream start stop low mid) origin stream start stop
        mid stop =
      writeClipped target origin stream start stop low stop := by
  by_cases inside : mid ≤ stop
  · exact writeClipped_append first inside
  · exact (writeClipped_of_le (by omega)).trans (writeClipped_high (by omega))

end Clipped

end Vime.Foundation
