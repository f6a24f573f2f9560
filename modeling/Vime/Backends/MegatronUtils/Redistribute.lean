import Vime.Backends.MegatronUtils.Readers
import Vime.Backends.MegatronUtils.RankIndices

/-! # From chunks of the stream to zigzag slices

Over the ranks every response token is read once. The all-reduce over the ranks of the
allgather layout therefore yields the whole responses, and every rank cuts its zigzag slices
from them.
-/

namespace Vime.Backends.MegatronUtils

open Vime.Foundation

/-! ## Every response token is read once -/

section Partition

variable {layout : StreamLayout} {samples : List PackedSample} {i : Nat} {sample : PackedSample}

/-- Exactly one rank holds a response token. -/
theorem sum_holds {M : Type} [AddCommMonoid M] (positive : 0 < layout.cpSize)
    (padPositive : layout.padUnit ≠ 0) (isSample : samples[i]? = some sample) {index : Nat}
    (inside : index < sample.responseLength) (value : M) :
    (∑ cpRank ∈ Finset.range layout.cpSize,
      if layout.Holds cpRank (layout.localLength samples) (layout.offset samples i) sample index
        then value else 0) = value := by
  have inSequence : sample.responseLength < sample.totalLength := sample.inSequence
  cases allgather : layout.allgatherCp with
  | true =>
      simp only [StreamLayout.Holds, allgather, if_true]
      have first := firstLogit_eq sample
      have within : layout.offset samples i + layout.width sample ≤ _ := offset_within isSample
      have whole := chunked_length padPositive allgather samples
      have notZigzag : ¬ layout.zigzag := by
        intro isZigzag
        rw [isZigzag.2] at allgather
        exact Bool.false_ne_true allgather
      have widthEq : layout.width sample = sample.totalLength := by
        rw [StreamLayout.width, if_neg notZigzag]
      rw [StreamLayout.joinedLength] at whole
      have inStream : layout.offset samples i + sample.firstLogit + index <
          layout.cpSize * layout.localLength samples := by omega
      have once := sum_chunks value inStream
      simp only [Nat.succ_mul] at once
      exact once
  | false =>
      simp only [StreamLayout.Holds, allgather, Bool.false_eq_true, if_false]
      by_cases single : layout.cpSize = 1
      · rw [single, Finset.sum_range_one, if_pos (.inl rfl)]
      · have parallel : 1 < layout.cpSize := by omega
        rcases exists_owns parallel inSequence inside with ⟨owner, isOwner, owns⟩
        rw [Finset.sum_eq_single owner, if_pos (.inr owns)]
        · intro rank isRank other
          rw [if_neg]
          rintro (contrary | alsoOwns)
          · exact single contrary
          · exact other (alsoOwns.unique parallel inSequence inside (Finset.mem_range.mp isRank)
              isOwner owns)
        · intro notRank
          exact absurd (Finset.mem_range.mpr isOwner) notRank

theorem count_heldTokens (cpRank localLength base index : Nat) :
    (layout.heldTokens cpRank localLength base sample).count index =
      if index < sample.responseLength ∧ layout.Holds cpRank localLength base sample index then 1
      else 0 := by
  have distinct : (layout.heldTokens cpRank localLength base sample).Nodup :=
    List.Nodup.filter _ List.nodup_range
  rw [distinct.count]
  simp only [StreamLayout.heldTokens, List.mem_filter, List.mem_range, decide_eq_true_eq]

theorem heldTokens_perm (positive : 0 < layout.cpSize) (padPositive : layout.padUnit ≠ 0)
    (isSample : samples[i]? = some sample) :
    ((List.range layout.cpSize).flatMap fun cpRank =>
        layout.heldTokens cpRank (layout.localLength samples) (layout.offset samples i)
          sample).Perm
      (List.range sample.responseLength) := by
  rw [List.perm_iff_count]
  intro index
  rw [List.count_flatMap, List.count_range]
  simp only [Function.comp_def, count_heldTokens]
  by_cases inside : index < sample.responseLength
  · simp only [inside, true_and, if_true]
    exact sum_holds positive padPositive isSample inside 1
  · simp only [inside, false_and, if_false, List.map_const', List.sum_replicate, nsmul_zero]

end Partition

/-! ## A quantity of the response tokens -/

section Quantity

variable {layout : StreamLayout} {cpRank localLength : Nat} {samples : List PackedSample}
  {α : Type} {quantity : Nat → Nat → α}

/-- The stream has the quantity of response token `index` of sample `i` in its row. -/
structure HoldsQuantity (layout : StreamLayout) (cpRank : Nat) (samples : List PackedSample)
    (quantity : Nat → Nat → α) (stream : List α) : Prop where
  sized : stream.length = layout.localLength samples
  inRow : ∀ i sample read, samples[i]? = some sample →
    (layout.rows cpRank stream.length samples)[i]? = some read →
      List.Forall₂ (fun index row => stream[row]? = some (quantity i index))
        (layout.heldTokens cpRank stream.length (layout.offset samples i) sample) read

def StreamLayout.heldValues (layout : StreamLayout) (cpRank localLength : Nat)
    (samples : List PackedSample) (quantity : Nat → Nat → α) : List (List α) :=
  samples.mapIdx fun i sample =>
    (layout.heldTokens cpRank localLength (layout.offset samples i) sample).map (quantity i)

theorem filterMap_eq_map_of_forall₂ {stream : List α} {entry : Nat → α} {tokens rows : List Nat}
    (inRow : List.Forall₂ (fun index row => stream[row]? = some (entry index)) tokens rows) :
    (rows.filterMap fun row => stream[row]?) = tokens.map entry := by
  induction inRow with
  | nil => rfl
  | cons first _ induction => rw [List.filterMap_cons, first, List.map_cons, induction]

theorem extractPerSample_held (positive : 0 < layout.cpSize) {stream : List α}
    (holds : HoldsQuantity layout cpRank samples quantity stream) :
    extractPerSample layout cpRank stream samples =
      .ok (layout.heldValues cpRank (layout.localLength samples) samples quantity) := by
  rw [extractPerSample_rows positive holds.sized, StreamLayout.heldValues]
  congr 1
  apply List.ext_getElem?
  intro i
  rw [List.getElem?_map, List.getElem?_mapIdx, getElem?_rows]
  cases isSample : samples[i]? with
  | none => rfl
  | some sample =>
      have inRow := holds.inRow i sample _ isSample (by
        rw [getElem?_rows, isSample]
        rfl)
      rw [holds.sized] at inRow
      exact congrArg some (filterMap_eq_map_of_forall₂ inRow)

end Quantity

/-! ## The all-reduce -/

section Redistribute

variable {layout : StreamLayout} {cpRank localLength base : Nat} {samples : List PackedSample}
  {sample : PackedSample} {M : Type} [AddCommMonoid M]

def StreamLayout.maskedResponse (layout : StreamLayout) (cpRank localLength base : Nat)
    (sample : PackedSample) (entry : Nat → M) : List M :=
  (List.range sample.responseLength).map fun index =>
    if layout.Holds cpRank localLength base sample index then entry index else 0

theorem length_maskedResponse (entry : Nat → M) :
    (layout.maskedResponse cpRank localLength base sample entry).length =
      sample.responseLength := by
  rw [StreamLayout.maskedResponse, List.length_map, List.length_range]

theorem mem_heldTokens {index : Nat} :
    index ∈ layout.heldTokens cpRank localLength base sample ↔
      index < sample.responseLength ∧ layout.Holds cpRank localLength base sample index := by
  rw [StreamLayout.heldTokens, List.mem_filter, List.mem_range, decide_eq_true_eq]

theorem maskedResponse_eq {responseStart length : Nat}
    (held : layout.heldTokens cpRank localLength base sample = List.range' responseStart length)
    (inside : responseStart + length ≤ sample.responseLength) (entry : Nat → M) :
    layout.maskedResponse cpRank localLength base sample entry =
      List.replicate responseStart 0 ++ (List.range' responseStart length).map entry ++
        List.replicate (sample.responseLength - (responseStart + length)) 0 := by
  apply eq_of_getD_eq
  · rw [length_maskedResponse, List.length_append, List.length_append, List.length_replicate,
      List.length_replicate, List.length_map, List.length_range']
    omega
  · intro index inResponse
    rw [length_maskedResponse] at inResponse
    have isHeld : layout.Holds cpRank localLength base sample index ↔
        responseStart ≤ index ∧ index < responseStart + length := by
      rw [← List.mem_range'_1, ← held, mem_heldTokens]
      exact ⟨fun holds => ⟨inResponse, holds⟩, fun both => both.2⟩
    rw [List.append_assoc, getD_append, getD_append, getD_zeros, getD_zeros,
      List.length_replicate, List.length_map, List.length_range', StreamLayout.maskedResponse,
      List.getD_eq_getElem _ _ (by rwa [List.length_map, List.length_range]), List.getElem_map,
      List.getElem_range]
    by_cases before : index < responseStart
    · rw [if_pos before, if_neg (by rw [isHeld]; omega)]
    · rw [if_neg before]
      by_cases within : index - responseStart < length
      · rw [if_pos within, if_pos (isHeld.mpr (by omega)),
          List.getD_eq_getElem _ _ (by rwa [List.length_map, List.length_range']),
          List.getElem_map, List.getElem_range', Nat.one_mul, Nat.add_sub_cancel' (by omega)]
      · rw [if_neg within, if_neg (by rw [isHeld]; omega)]

/-- What a rank contributes for a sample. -/
theorem fullResponse_eq (isRank : cpRank < layout.cpSize)
    (allgather : layout.allgatherCp = true) (entry : Nat → M) :
    fullResponse (cpRank * localLength) (cpRank * localLength + localLength) base sample
        (some ((layout.heldTokens cpRank localLength base sample).map entry)) =
      .ok (layout.maskedResponse cpRank localLength base sample entry) := by
  have notZigzag : ¬ layout.zigzag := by
    intro isZigzag
    rw [isZigzag.2] at allgather
    exact Bool.false_ne_true allgather
  have held : (layout.spans cpRank localLength base sample).flatMap Span.tokens =
      layout.heldTokens cpRank localLength base sample := spans_tokens isRank
  rw [StreamLayout.spans, if_neg notZigzag, if_pos allgather] at held
  have sized : (layout.maskedResponse cpRank localLength base sample entry).length =
      sample.responseLength := length_maskedResponse entry
  have returned : ∀ response : List M,
      response = layout.maskedResponse cpRank localLength base sample entry →
        (do
          raiseIf (response.length ≠ sample.responseLength)
            (.assertionError s!"Expected {sample.responseLength}, got {response.length}")
          pure response) =
        Except.ok (layout.maskedResponse cpRank localLength base sample entry) := by
    intro response responseEq
    rw [responseEq, raiseIf, if_neg (by rwa [ne_eq, not_not]), ok_bind, pure_eq_ok]
  rw [fullResponse]
  apply returned
  rcases chunkSpan_cases (cpRank * localLength) (cpRank * localLength + localLength) base sample
    with ⟨isEmpty, none⟩ |
      ⟨start, responseStart, length, nonempty, startEq, stopEq, place, _, inside, spans⟩
  · rw [none, List.flatMap_nil] at held
    have masked := maskedResponse_eq (held.symm.trans List.range'_zero.symm)
      (Nat.zero_le _) entry
    rw [List.replicate_zero, List.range'_zero, List.map_nil, List.nil_append, List.nil_append]
      at masked
    rw [if_pos isEmpty, masked]
    rfl
  · rw [spans, List.flatMap_singleton, Span.tokens] at held
    have masked := maskedResponse_eq held.symm inside entry
    have first := firstLogit_eq sample
    have logitStart : (globalSpan (cpRank * localLength) (cpRank * localLength + localLength) base
        sample).logitStart = ((base + sample.firstLogit : Nat) : Int) := by
      dsimp only [globalSpan, PackedSample.promptLength]
      omega
    have left : ((cpRank * localLength + start : Nat) : Int) -
        ((base + sample.firstLogit : Nat) : Int) = (responseStart : Int) := by omega
    have right : (sample.responseLength : Int) -
        (((cpRank * localLength + start + length : Nat) : Int) -
          ((base + sample.firstLogit : Nat) : Int)) =
          ((sample.responseLength - (responseStart + length) : Nat) : Int) := by omega
    rw [startEq, stopEq, if_neg (by omega), logitStart, left, right, fPad_natCast, masked, held]

/-- What a rank puts into the all-reduce. -/
theorem rankResponses_eq (isRank : cpRank < layout.cpSize)
    (allgather : layout.allgatherCp = true) (samples : List PackedSample)
    (quantity : Nat → Nat → M) :
    rankResponses localLength cpRank samples
        ((layout.heldValues cpRank localLength samples quantity).map some) =
      .ok (samples.mapIdx fun i sample => layout.maskedResponse cpRank localLength
        (layout.offset samples i) sample (quantity i)).flatten := by
  have notZigzag : ¬ layout.zigzag := by
    intro isZigzag
    rw [isZigzag.2] at allgather
    exact Bool.false_ne_true allgather
  have widthEq : layout.width = PackedSample.totalLength := by
    funext sample
    rw [StreamLayout.width, if_neg notZigzag]
  let values := (layout.heldValues cpRank localLength samples quantity).map some
  have sized : values.length = samples.length := by
    rw [List.length_map, StreamLayout.heldValues, List.length_mapIdx]
  have firsts : (samples.zip values).map Prod.fst = samples :=
    List.map_fst_zip (Nat.le_of_eq sized.symm)
  let visit (i : Nat) (sample : PackedSample) : List M :=
    layout.maskedResponse cpRank localLength (layout.offset samples i) sample (quantity i)
  have visited : ((samples.zip values).mapIdx fun i entry => visit i entry.1) =
      samples.mapIdx visit := by
    apply List.ext_getElem?
    intro i
    rw [List.getElem?_mapIdx, List.getElem?_mapIdx]
    conv_rhs => rw [← firsts]
    rw [List.getElem?_map, Option.map_map]
    rfl
  rw [rankResponses, loopSamples_collect _ (fun i entry => visit i entry.1), visited,
    List.nil_append]
  intro i entry isEntry collected
  rcases List.getElem?_zip_eq_some.mp isEntry with ⟨isSample, isValue⟩
  have base : 0 + (((samples.zip values).take i).map
      fun entry => entry.1.totalLength).sum = layout.offset samples i := by
    have prefixes : ((samples.zip values).take i).map (fun entry => entry.1.totalLength) =
        (samples.take i).map PackedSample.totalLength := by
      conv_rhs => rw [← firsts]
      rw [← List.map_take, List.map_map]
      rfl
    rw [Nat.zero_add, prefixes, StreamLayout.offset, widthEq]
  have valueEq : entry.2 = some ((layout.heldTokens cpRank localLength (layout.offset samples i)
      entry.1).map (quantity i)) := by
    rw [List.getElem?_map, StreamLayout.heldValues, List.getElem?_mapIdx, isSample,
      Option.map_some, Option.map_some] at isValue
    exact (Option.some.inj isValue).symm
  rw [base, valueEq, fullResponse_eq isRank allgather]
  rfl

theorem sum_maskedResponse (positive : 0 < layout.cpSize) (padPositive : layout.padUnit ≠ 0)
    {i : Nat} (isSample : samples[i]? = some sample) (entry : Nat → M) :
    elementwiseSum sample.responseLength ((List.range layout.cpSize).map fun rank =>
        layout.maskedResponse rank (layout.localLength samples) (layout.offset samples i) sample
          entry) =
      (List.range sample.responseLength).map entry := by
  have sized : (elementwiseSum sample.responseLength ((List.range layout.cpSize).map fun rank =>
      layout.maskedResponse rank (layout.localLength samples) (layout.offset samples i) sample
        entry)).length = sample.responseLength := by
    rw [elementwiseSum, List.length_map, List.length_range]
  apply eq_of_getD_eq
  · rw [sized, List.length_map, List.length_range]
  · intro index inside
    rw [sized] at inside
    rw [getD_elementwiseSum _ inside, List.getD_eq_getElem _ _ (by
      rwa [List.length_map, List.length_range]), List.getElem_map, List.getElem_range,
      ← sum_holds positive padPositive isSample inside (entry index)]
    apply Finset.sum_congr rfl
    intro rank _
    rw [StreamLayout.maskedResponse, List.getD_eq_getElem _ _ (by
      rwa [List.length_map, List.length_range]), List.getElem_map, List.getElem_range]

theorem heldTokens_zigzag (whole : layout.allgatherCp = false) :
    layout.heldTokens cpRank localLength base sample =
      heldIndices layout.cpSize cpRank sample.totalLength sample.responseLength := by
  rw [StreamLayout.heldTokens, heldIndices]
  simp only [StreamLayout.Holds, whole, Bool.false_eq_true, if_false]
  by_cases single : layout.cpSize = 1
  · simp only [single, true_or, decide_true, List.filter_true, if_true]
  · simp only [single, false_or, if_false, rankIndices]

/-- The chunks of the allgather layout become the zigzag slices. -/
theorem allgatherCpRedistribute_eq (isRank : cpRank < layout.cpSize)
    (allgather : layout.allgatherCp = true) (padPositive : layout.padUnit ≠ 0)
    (samples : List PackedSample) (quantity : Nat → Nat → M) (length : Nat) :
    allgatherCpRedistribute layout.cpSize cpRank (layout.localLength samples) samples
        (fun rank => (layout.heldValues rank (layout.localLength samples) samples quantity).map
          some) =
      .ok (({ layout with allgatherCp := false }.heldValues cpRank length samples quantity).map
        some) := by
  have positive := Nat.zero_lt_of_lt isRank
  rw [allgatherCpRedistribute]
  rcases List.eq_nil_or_concat' samples with rfl | ⟨_, _, notEmpty⟩
  · rfl
  have someValue : ¬ ((layout.heldValues cpRank (layout.localLength samples) samples
      quantity).map some).all Option.isNone = true := by
    rw [notEmpty, StreamLayout.heldValues, List.mapIdx_append]
    simp
  have contributions := mapM_eq_ok_map (fun rank => rankResponses (layout.localLength samples) rank
      samples ((layout.heldValues rank (layout.localLength samples) samples quantity).map some))
    _ (List.range layout.cpSize) fun rank member =>
      rankResponses_eq (List.mem_range.mp member) allgather samples quantity
  let pieces := samples.mapIdx fun i sample =>
    (List.range sample.responseLength).map (quantity i)
  have summed := elementwiseSum_flatten (List.range layout.cpSize) PackedSample.responseLength
    samples (fun rank i sample => layout.maskedResponse rank (layout.localLength samples)
      (layout.offset samples i) sample (quantity i)) fun _ _ _ => length_maskedResponse _
  have piecesEq : (samples.mapIdx fun i sample => elementwiseSum sample.responseLength
      ((List.range layout.cpSize).map fun rank => layout.maskedResponse rank
        (layout.localLength samples) (layout.offset samples i) sample (quantity i))) = pieces := by
    apply List.mapIdx_eq_mapIdx_iff.mpr
    intro i inside
    exact sum_maskedResponse positive padPositive (List.getElem?_eq_getElem inside) _
  have sizes : pieces.map List.length = samples.map PackedSample.responseLength := by
    apply List.ext_getElem?
    intro i
    rw [List.getElem?_map, List.getElem?_map, List.getElem?_mapIdx, Option.map_map]
    congr 1
    funext sample
    rw [Function.comp_apply, List.length_map, List.length_range]
  have split := splitBySizes_flatten pieces
  rw [if_neg someValue, contributions, ok_bind]
  dsimp only
  rw [summed, piecesEq, ← sizes, split, ok_bind]
  have isPiece : ∀ i piece sample, (pieces.zip samples)[i]? = some (piece, sample) →
      samples[i]? = some sample ∧
        piece = (List.range sample.responseLength).map (quantity i) := by
    intro i piece sample isEntry
    rcases List.getElem?_zip_eq_some.mp isEntry with ⟨found, isSample⟩
    rw [List.getElem?_mapIdx, isSample, Option.map_some, Option.some.injEq] at found
    exact ⟨isSample, found.symm⟩
  rw [mapM_eq_ok_map _ (fun entry => some ((heldIndices layout.cpSize cpRank
    entry.2.totalLength entry.2.responseLength).map fun index => entry.1.getD index 0))]
  · congr 1
    apply List.ext_getElem?
    intro i
    rw [List.getElem?_map, List.getElem?_map, StreamLayout.heldValues, List.getElem?_mapIdx]
    cases isSample : samples[i]? with
    | none =>
        have noEntry : (pieces.zip samples)[i]? = none := by
          rw [List.getElem?_eq_none_iff] at isSample ⊢
          rw [List.length_zip]
          omega
        rw [noEntry]
        rfl
    | some sample =>
        have isEntry : (pieces.zip samples)[i]? =
            some ((List.range sample.responseLength).map (quantity i), sample) := by
          rw [List.getElem?_zip_eq_some, List.getElem?_mapIdx, isSample]
          exact ⟨rfl, rfl⟩
        rw [isEntry, Option.map_some, Option.map_some, Option.map_some, heldTokens_zigzag rfl]
        congr 2
        apply List.map_congr_left
        intro index member
        have inside := lt_of_mem_heldIndices member
        rw [List.getD_eq_getElem _ _ (by
          rwa [List.length_map, List.length_range]), List.getElem_map, List.getElem_range]
  · intro entry member
    rcases List.mem_iff_getElem?.mp member with ⟨i, isEntry⟩
    rcases isPiece i entry.1 entry.2 isEntry with ⟨_, pieceEq⟩
    rw [sliceLogProbWithCp_eq_held isRank entry.1 (by
      rw [pieceEq, List.length_map, List.length_range])]
    rfl

end Redistribute

end Vime.Backends.MegatronUtils
