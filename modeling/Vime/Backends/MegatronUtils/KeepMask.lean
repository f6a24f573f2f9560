import Vime.Backends.MegatronUtils.LogProbs
import Vime.Backends.MegatronUtils.RankIndices
import Vime.Foundation.Ragged

/-! # Filling the keep mask

Filling a span writes the nucleus of each of its response tokens into the row of its logit
and leaves the other rows as they were.
-/

namespace Vime.Backends.MegatronUtils

open Vime.Foundation

namespace PackedSample

def nucleus (sample : PackedSample) (index : Nat) : List Int :=
  (sample.topPTokenIds.take (sample.topPTokenOffsets.getD (index + 1) 0)).drop
    (sample.topPTokenOffsets.getD index 0)

/-- The nucleus in the vocabulary shard that starts at `vocabStart`. -/
def nucleusRow (sample : PackedSample) (vocabStart vocabLocal index : Nat) : List Bool :=
  (List.range vocabLocal).map fun column =>
    decide (((vocabStart + column : Nat) : Int) ∈ sample.nucleus index)

end PackedSample

/-! ## Segments of the replay -/

section Segments

theorem diff_range' (offsets : Nat → Nat) (start length : Nat) :
    diff (((List.range' start (length + 1)).map offsets).map Int.ofNat) =
      (List.range' start length).map fun index =>
        (offsets (index + 1) : Int) - offsets index := by
  rw [diff, List.map_map, ← List.map_tail, List.range'_succ, List.tail_cons, List.zipWith_map]
  induction length generalizing start with
  | zero => rfl
  | succ length induction =>
      rw [List.range'_succ, List.zipWith_cons_cons, induction, List.range'_succ, List.map_cons]
      rfl

theorem zip_replicate_flatMap (items : List Nat) (segment : Nat → List Int) :
    (items.flatMap fun item => List.replicate (segment item).length item).zip
        (items.flatMap segment) =
      items.flatMap fun item => (segment item).map fun id => (item, id) := by
  induction items with
  | nil => rfl
  | cons item rest induction =>
      rw [List.flatMap_cons, List.flatMap_cons, List.flatMap_cons,
        List.zip_append List.length_replicate, induction]
      congr 1
      apply List.ext_getElem
      · rw [List.length_zip, List.length_replicate, Nat.min_self, List.length_map]
      · intro index inZip inMap
        rw [List.getElem_zip, List.getElem_replicate, List.getElem_map]

end Segments

section Sample

variable (sample : PackedSample)

theorem PackedSample.offsets_mono {first : Nat} : ∀ {length : Nat},
    first + length ≤ sample.responseLength →
      sample.topPTokenOffsets.getD first 0 ≤ sample.topPTokenOffsets.getD (first + length) 0
  | 0, _ => Nat.le_refl _
  | length + 1, inside =>
      Nat.le_trans (PackedSample.offsets_mono (Nat.le_of_succ_le inside))
        (sample.offsetsOrdered (first + length) (Nat.lt_of_succ_le inside))

theorem PackedSample.flatMap_nucleus {first : Nat} : ∀ {length : Nat},
    first + length ≤ sample.responseLength →
      (sample.topPTokenIds.take (sample.topPTokenOffsets.getD (first + length) 0)).drop
          (sample.topPTokenOffsets.getD first 0) =
        (List.range' first length).flatMap sample.nucleus
  | 0, _ => by
      rw [Nat.add_zero, List.range'_zero, List.flatMap_nil, List.drop_eq_nil_iff,
        List.length_take]
      exact Nat.min_le_left _ _
  | length + 1, inside => by
      rw [← Nat.add_assoc, take_drop_append sample.topPTokenIds
        (sample.offsets_mono (Nat.le_of_succ_le inside))
        (sample.offsetsOrdered (first + length) (Nat.lt_of_succ_le inside)),
        PackedSample.flatMap_nucleus (Nat.le_of_succ_le inside), List.range'_concat,
        List.flatMap_append, List.flatMap_singleton, Nat.one_mul]
      rfl

theorem PackedSample.length_nucleus {index : Nat} (inside : index < sample.responseLength) :
    ((sample.nucleus index).length : Int) =
      (sample.topPTokenOffsets.getD (index + 1) 0 : Int) -
        sample.topPTokenOffsets.getD index 0 := by
  have ordered := sample.offsetsOrdered index inside
  have bounded : sample.topPTokenOffsets.getD (index + 1) 0 ≤ sample.topPTokenIds.length := by
    rw [← sample.offsetsEnd]
    have rest : index + 1 + (sample.responseLength - (index + 1)) = sample.responseLength := by
      omega
    have later := sample.offsets_mono (Nat.le_of_eq rest)
    rwa [rest] at later
  rw [nucleus, List.length_drop, List.length_take_of_le bounded]
  omega

end Sample

/-! ## Indexing -/

section Indexing

theorem resolveIndex_natCast {length index : Nat} (inside : index < length) :
    resolveIndex length (index : Int) = .ok index := by
  simp only [resolveIndex, if_neg (show ¬ (index : Int) < 0 by omega)]
  rw [if_pos (by omega), Int.toNat_natCast]

theorem itemAtInt_natCast {values : List Nat} {index : Nat} (inside : index < values.length) :
    itemAtInt values (index : Int) = .ok (values.getD index 0) := by
  rw [itemAtInt, resolveIndex_natCast inside, ok_bind, itemAt_eq_ok,
    List.getD_eq_getElem _ _ inside, List.getElem?_eq_getElem inside]

theorem markKept_eq {keep : List (List Bool)} {columns : Nat}
    (uniform : (keep.headD []).length = columns) (hits : List (Nat × Nat))
    (inside : ∀ hit ∈ hits, hit.1 < keep.length ∧ hit.2 < columns) :
    markKept keep (hits.map fun hit => ((hit.1 : Int), (hit.2 : Int))) =
      .ok (keep.mapIdx fun row line => line.mapIdx fun column kept =>
        kept || decide ((row, column) ∈ hits)) := by
  rw [markKept, mapM_map_eq_ok _ _ id hits, List.map_id, ok_bind, pure_eq_ok]
  intro hit member
  dsimp only
  rw [resolveIndex_natCast (inside hit member).1, ok_bind, uniform,
    resolveIndex_natCast (inside hit member).2, ok_bind, pure_eq_ok]
  rfl

end Indexing

/-! ## One span -/

section Fill

variable (sample : PackedSample)

def spanEntries (sample : PackedSample) (responseStart length : Nat) : List (Nat × Int) :=
  (List.range length).flatMap fun offset =>
    (sample.nucleus (responseStart + offset)).map fun id => (offset, id)

theorem mem_spanEntries {responseStart length : Nat} {entry : Nat × Int} :
    entry ∈ spanEntries sample responseStart length ↔
      entry.1 < length ∧ entry.2 ∈ sample.nucleus (responseStart + entry.1) := by
  rw [spanEntries, List.mem_flatMap]
  constructor
  · rintro ⟨offset, inRange, member⟩
    rcases List.mem_map.mp member with ⟨id, inNucleus, rfl⟩
    exact ⟨List.mem_range.mp inRange, inNucleus⟩
  · rintro ⟨inside, inNucleus⟩
    exact ⟨entry.1, List.mem_range.mpr inside, List.mem_map.mpr ⟨entry.2, inNucleus, rfl⟩⟩

/-- The rows that the counts of a span repeat, beside its ids. -/
theorem repeatInterleave_span {responseStart length : Nat}
    (inside : responseStart + length ≤ sample.responseLength) :
    ∃ rows, repeatInterleave (diff ((slice sample.topPTokenOffsets (responseStart : Int)
        (((responseStart + length : Nat) : Int) + 1)).map Int.ofNat)) = .ok rows ∧
      rows.length = ((List.range' responseStart length).flatMap sample.nucleus).length ∧
      rows.zip ((List.range' responseStart length).flatMap sample.nucleus) =
        spanEntries sample responseStart length := by
  let segment (offset : Nat) : List Int := sample.nucleus (responseStart + offset)
  have counts : diff ((slice sample.topPTokenOffsets (responseStart : Int)
      (((responseStart + length : Nat) : Int) + 1)).map Int.ofNat) =
        (List.range length).map fun offset => ((segment offset).length : Int) := by
    have cut : slice sample.topPTokenOffsets (responseStart : Int)
        ((responseStart + length + 1 : Nat) : Int) =
          (List.range' responseStart (length + 1)).map fun index =>
            sample.topPTokenOffsets.getD index 0 := by
      rw [slice_natCast, take_drop_eq_map _ (by rw [sample.offsetsLength]; omega)]
      congr 2
      omega
    rw [← Int.natCast_succ, cut, diff_range', List.range'_eq_map_range, List.map_map]
    apply List.map_congr_left
    intro offset member
    have bounded := List.mem_range.mp member
    have inResponse : responseStart + offset < sample.responseLength := by omega
    exact (sample.length_nucleus inResponse).symm
  have ids : (List.range' responseStart length).flatMap sample.nucleus =
      (List.range length).flatMap segment := by
    rw [List.range'_eq_map_range, List.flatMap_map]
  refine ⟨(List.range length).flatMap fun offset =>
    List.replicate (segment offset).length offset, ?_, ?_, ?_⟩
  · have notNegative : ((List.range length).map fun offset =>
        ((segment offset).length : Int)).all (fun count => decide (0 ≤ count)) = true := by
      rw [List.all_eq_true]
      intro count member
      rcases List.mem_map.mp member with ⟨offset, _, rfl⟩
      exact decide_eq_true (Int.natCast_nonneg _)
    rw [counts, repeatInterleave, if_pos notNegative, repeatArange]
    congr 1
    have numbered : ((List.range length).map fun offset =>
        ((segment offset).length : Int)).zipIdx =
          (List.range length).map fun offset => (((segment offset).length : Int), offset) := by
      apply List.ext_getElem
      · rw [List.length_zipIdx, List.length_map, List.length_map]
      · intro index inNumbered inMapped
        rw [List.getElem_zipIdx, List.getElem_map, List.getElem_map, List.getElem_range,
          Nat.zero_add]
    rw [numbered, List.flatMap_map]
    simp only [Int.toNat_natCast]
  · rw [ids, List.length_flatMap, List.length_flatMap]
    simp only [List.length_replicate]
  · rw [ids]
    exact zip_replicate_flatMap (List.range length) segment

theorem fillToppMaskRows_empty (keep : List (List Bool)) (ids : List Int) (offsets : List Nat)
    (responseStart localStart : Int) (vocabStart vocabEnd : Nat) :
    fillToppMaskRows keep ids offsets responseStart localStart 0 vocabStart vocabEnd =
      .ok keep := by
  rw [fillToppMaskRows]
  dsimp only
  rw [if_pos (by omega)]

variable {sample}

theorem mapIdx_or_nothing {keep : List (List Bool)} {hit : Nat → Nat → Prop}
    [∀ row column, Decidable (hit row column)] (nothing : ∀ row column, ¬ hit row column) :
    (keep.mapIdx fun row line => line.mapIdx fun column kept =>
      kept || decide (hit row column)) = keep := by
  apply List.ext_getElem
  · rw [List.length_mapIdx]
  · intro row inMapped inKeep
    rw [List.getElem_mapIdx]
    apply List.ext_getElem
    · rw [List.length_mapIdx]
    · intro column inLine inRow
      rw [List.getElem_mapIdx, decide_eq_false (nothing row column), Bool.or_false]

/-- The rows of a span with every entry cleared, then its hits set. -/
theorem mapIdx_eq_paint {keep : List (List Bool)} {vocabLocal : Nat}
    (uniform : ∀ line ∈ keep, line.length = vocabLocal) {localStart length : Nat}
    (fits : localStart + length ≤ keep.length) (hit : Nat → Nat → Prop)
    [∀ row column, Decidable (hit row column)] (block : Nat → List Bool)
    (inSpan : ∀ offset < length, block offset =
      (List.range vocabLocal).map fun column => decide (hit (localStart + offset) column))
    (outside : ∀ row column, ¬ (localStart ≤ row ∧ row < localStart + length) →
      ¬ hit row column) :
    ((keep.mapIdx fun row line =>
        if localStart ≤ row ∧ row < localStart + length then List.replicate line.length false
        else line).mapIdx fun row line => line.mapIdx fun column kept =>
          kept || decide (hit row column)) =
      paint keep localStart ((List.range length).map block) := by
  have blockLength : ((List.range length).map block).length = length := by
    rw [List.length_map, List.length_range]
  apply List.ext_getElem
  · rw [length_paint (by rwa [blockLength]), List.length_mapIdx, List.length_mapIdx]
  · intro row inMapped inPainted
    have inKeep : row < keep.length := by
      rwa [List.length_mapIdx, List.length_mapIdx] at inMapped
    have lineLength := uniform keep[row] (List.getElem_mem inKeep)
    have fitsBlock : localStart + ((List.range length).map block).length ≤ keep.length := by
      rwa [blockLength]
    have painted := getElem?_paint fitsBlock row
    rw [List.getElem?_eq_getElem inPainted, blockLength] at painted
    rw [List.getElem_mapIdx, List.getElem_mapIdx]
    by_cases spanned : localStart ≤ row ∧ row < localStart + length
    · rw [if_pos spanned] at painted ⊢
      have offsetEq : localStart + (row - localStart) = row := Nat.add_sub_cancel' spanned.1
      rw [List.getElem?_eq_getElem (by rw [blockLength]; omega), Option.some.injEq,
        List.getElem_map, List.getElem_range, inSpan _ (by omega), offsetEq] at painted
      rw [painted]
      apply List.ext_getElem
      · rw [List.length_mapIdx, List.length_replicate, lineLength, List.length_map,
          List.length_range]
      · intro column inLine inRow
        rw [List.getElem_mapIdx, List.getElem_replicate, Bool.false_or, List.getElem_map,
          List.getElem_range]
    · rw [if_neg spanned] at painted ⊢
      rw [List.getElem?_eq_getElem inKeep, Option.some.injEq] at painted
      rw [painted]
      apply List.ext_getElem
      · rw [List.length_mapIdx]
      · intro column inLine inRow
        rw [List.getElem_mapIdx, decide_eq_false (outside row column spanned), Bool.or_false]

def spanHits (sample : PackedSample) (vocabStart vocabLocal localStart responseStart
    length : Nat) : List (Nat × Nat) :=
  ((spanEntries sample responseStart length).filter fun entry : Nat × Int =>
    (vocabStart : Int) ≤ entry.2 ∧ entry.2 < ((vocabStart + vocabLocal : Nat) : Int)).map
      fun entry => (entry.1 + localStart, (entry.2 - (vocabStart : Int)).toNat)

theorem mem_spanHits {vocabStart vocabLocal localStart responseStart length row column : Nat} :
    (row, column) ∈ spanHits sample vocabStart vocabLocal localStart responseStart length ↔
      localStart ≤ row ∧ row < localStart + length ∧ column < vocabLocal ∧
        ((vocabStart + column : Nat) : Int) ∈
          sample.nucleus (responseStart + (row - localStart)) := by
  rw [spanHits, List.mem_map]
  constructor
  · rintro ⟨entry, filtered, same⟩
    rcases List.mem_filter.mp filtered with ⟨isEntry, inShard⟩
    rcases (mem_spanEntries sample).mp isEntry with ⟨inSpan, inNucleus⟩
    rw [decide_eq_true_eq] at inShard
    rw [Prod.mk.injEq] at same
    rcases same with ⟨rfl, rfl⟩
    have idEq : ((vocabStart + (entry.2 - (vocabStart : Int)).toNat : Nat) : Int) = entry.2 := by
      omega
    rw [idEq, Nat.add_sub_cancel]
    exact ⟨by omega, by omega, by omega, inNucleus⟩
  · rintro ⟨lower, upper, inShard, inNucleus⟩
    refine ⟨(row - localStart, ((vocabStart + column : Nat) : Int)), ?_, ?_⟩
    · rw [List.mem_filter, decide_eq_true_eq]
      refine ⟨(mem_spanEntries sample).mpr ⟨?_, inNucleus⟩, ?_⟩
      · dsimp only
        omega
      · dsimp only
        omega
    · rw [Prod.mk.injEq]
      dsimp only
      omega

theorem map_spanHits (vocabStart vocabLocal localStart responseStart length : Nat) :
    (spanHits sample vocabStart vocabLocal localStart responseStart length).map
        (fun hit => ((hit.1 : Int), (hit.2 : Int))) =
      ((spanEntries sample responseStart length).filter fun entry : Nat × Int =>
        (vocabStart : Int) ≤ entry.2 ∧ entry.2 < ((vocabStart + vocabLocal : Nat) : Int)).map
          fun entry : Nat × Int =>
            ((entry.1 : Int) + localStart, entry.2 - (vocabStart : Int)) := by
  rw [spanHits, List.map_map]
  apply List.map_congr_left
  intro entry filtered
  have inShard := of_decide_eq_true (List.mem_filter.mp filtered).2
  rw [Function.comp_apply, Prod.mk.injEq]
  dsimp only
  omega

/-- Filling a span paints the nuclei of its response tokens. -/
theorem fillToppMaskRows_eq {keep : List (List Bool)} {vocabLocal : Nat}
    (uniform : ∀ line ∈ keep, line.length = vocabLocal) {responseStart localStart length : Nat}
    (inside : responseStart + length ≤ sample.responseLength)
    (fits : localStart + length ≤ keep.length) (vocabStart : Nat) :
    fillToppMaskRows keep sample.topPTokenIds sample.topPTokenOffsets (responseStart : Int)
        (localStart : Int) (length : Int) vocabStart (vocabStart + vocabLocal) =
      .ok (paint keep localStart ((List.range' responseStart length).map
        (sample.nucleusRow vocabStart vocabLocal))) := by
  rcases Nat.eq_zero_or_pos length with none | some
  · rw [none]
    rw [show (((0 : Nat) : Int)) = 0 from rfl, fillToppMaskRows_empty, List.range'_zero,
      List.map_nil, paint_nil]
  · have responseEnd : min ((responseStart : Int) + length)
        (max ((sample.topPTokenOffsets.length : Int) - 1) 0) =
          ((responseStart + length : Nat) : Int) := by
      rw [sample.offsetsLength]
      omega
    have localEnd : (localStart : Int) + ((responseStart + length : Nat) : Int) - responseStart =
        ((localStart + length : Nat) : Int) := by omega
    let hits := spanHits sample vocabStart vocabLocal localStart responseStart length
    have spanned := mapIdx_eq_paint uniform fits (fun row column => (row, column) ∈ hits)
      (fun offset => sample.nucleusRow vocabStart vocabLocal (responseStart + offset))
      (fun offset isOffset => by
        apply List.map_congr_left
        intro column isColumn
        rw [decide_eq_decide, mem_spanHits, Nat.add_sub_cancel_left]
        exact ⟨fun inNucleus => ⟨by omega, by omega, List.mem_range.mp isColumn, inNucleus⟩,
          fun found => found.2.2.2⟩)
      (fun row column outside found => outside
        ⟨(mem_spanHits.mp found).1, (mem_spanHits.mp found).2.1⟩)
    rw [List.range'_eq_map_range, List.map_map, Function.comp_def, ← spanned, fillToppMaskRows]
    dsimp only
    rw [responseEnd, if_neg (by omega), itemAtInt_natCast (by rw [sample.offsetsLength]; omega),
      ok_bind, itemAtInt_natCast (by rw [sample.offsetsLength]; omega), ok_bind, slice_natCast,
      sample.flatMap_nucleus inside, localEnd, sliceBound_natCast, sliceBound_natCast,
      Nat.min_eq_left (by omega), Nat.min_eq_left fits]
    by_cases isEmpty : ((List.range' responseStart length).flatMap sample.nucleus).isEmpty = true
    · rw [if_pos isEmpty, pure_eq_ok, mapIdx_or_nothing]
      intro row column found
      have inNucleus := mem_spanHits.mp found
      have member : ((vocabStart + column : Nat) : Int) ∈
          (List.range' responseStart length).flatMap sample.nucleus :=
        List.mem_flatMap.mpr ⟨_, List.mem_range'_1.mpr ⟨by omega, by omega⟩, inNucleus.2.2.2⟩
      rw [List.isEmpty_iff.mp isEmpty] at member
      exact nomatch member
    · rw [if_neg isEmpty]
      rcases repeatInterleave_span sample inside with ⟨rows, repeated, sameLength, zipped⟩
      have headLength : ((keep.mapIdx fun row line =>
          if localStart ≤ row ∧ row < localStart + length then List.replicate line.length false
          else line).headD []).length = vocabLocal := by
        cases keep with
        | nil =>
            rw [List.length_nil] at fits
            omega
        | cons line rest =>
            rw [List.mapIdx_cons, List.headD_cons]
            split
            · rw [List.length_replicate]
              exact uniform line List.mem_cons_self
            · exact uniform line List.mem_cons_self
      rw [repeated, ok_bind, raiseIf, if_neg (not_not.mpr sameLength), ok_bind, zipped,
        ← map_spanHits, markKept_eq headLength]
      intro hit member
      have found := mem_spanHits.mp member
      rw [List.length_mapIdx]
      omega

end Fill

end Vime.Backends.MegatronUtils
