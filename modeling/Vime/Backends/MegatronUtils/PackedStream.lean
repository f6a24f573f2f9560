import Vime.Backends.MegatronUtils.SpanWriters

/-! # The stream of a rank

Whatever is packed, the row of a span holds the entry of its sample at the logit position of
the response token.
-/

namespace Vime.Backends.MegatronUtils

open Vime.Foundation

def Aligned {α : Type} (lists : List (List α)) (samples : List PackedSample) : Prop :=
  lists.map List.length = samples.map PackedSample.totalLength

namespace StreamLayout

def joinedLength (layout : StreamLayout) (samples : List PackedSample) : Nat :=
  (samples.map layout.width).sum

def padding (layout : StreamLayout) (samples : List PackedSample) : Nat :=
  padCount layout.padUnit (layout.joinedLength samples)

def localLength (layout : StreamLayout) (samples : List PackedSample) : Nat :=
  let paddedLength := layout.joinedLength samples + layout.padding samples
  if layout.allgatherCp then paddedLength / layout.cpSize else paddedLength

end StreamLayout

section Stream

variable {layout : StreamLayout} {cpRank : Nat} {samples : List PackedSample} {α : Type}
  {lists : List (List α)}

theorem Aligned.getElem? (aligned : Aligned lists samples) {i : Nat} {sample : PackedSample}
    (isSample : samples[i]? = some sample) :
    ∃ list, lists[i]? = some list ∧ list.length = sample.totalLength := by
  have lengths := congrArg (fun lengths => lengths[i]?) aligned
  rw [List.getElem?_map, List.getElem?_map, isSample, Option.map_some,
    Option.map_eq_some_iff] at lengths
  exact lengths

theorem Aligned.take (aligned : Aligned lists samples) (i : Nat) :
    Aligned (lists.take i) (samples.take i) := by
  rw [Aligned, List.map_take, List.map_take, aligned]

theorem length_sliceWithCp (positive : 0 < layout.cpSize) (isRank : cpRank < layout.cpSize)
    (list : List α) (padValue : α) :
    (sliceWithCp layout.cpSize cpRank list padValue).length =
      if layout.cpSize = 1 then list.length else 2 * cpChunkSize layout.cpSize list.length := by
  by_cases single : layout.cpSize = 1
  · rw [sliceWithCp, if_pos single, if_pos single]
  · rw [if_neg single]
    exact (sliceWithCp_getElem? (by omega) isRank list padValue).1

theorem map_length_slices (whole : layout.allgatherCp = false) (isRank : cpRank < layout.cpSize)
    (aligned : Aligned lists samples) (padValue : α) :
    (lists.map fun list => sliceWithCp layout.cpSize cpRank list padValue).map List.length =
      samples.map layout.width := by
  let sized (length : Nat) : Nat :=
    if layout.cpSize = 1 then length else 2 * cpChunkSize layout.cpSize length
  have slices : (lists.map fun list => sliceWithCp layout.cpSize cpRank list padValue).map
      List.length = (lists.map List.length).map sized := by
    rw [List.map_map, List.map_map]
    apply List.map_congr_left
    intro list _
    exact length_sliceWithCp (Nat.zero_lt_of_lt isRank) isRank list padValue
  rw [slices, aligned, List.map_map]
  apply List.map_congr_left
  intro sample _
  rw [Function.comp_apply, StreamLayout.width]
  dsimp only [sized]
  by_cases single : layout.cpSize = 1
  · rw [if_pos single, if_neg]
    exact fun isZigzag => absurd single (Nat.ne_of_gt isZigzag.1)
  · rw [if_neg single, if_pos ⟨by omega, whole⟩, zigzagWidth]

theorem length_joined (isRank : cpRank < layout.cpSize) (aligned : Aligned lists samples)
    (padValue : α) :
    (layout.joined cpRank lists padValue).length = layout.joinedLength samples := by
  rw [StreamLayout.joined, StreamLayout.joinedLength]
  cases allgather : layout.allgatherCp with
  | true =>
      have widthEq : layout.width = PackedSample.totalLength := by
        funext sample
        rw [StreamLayout.width, if_neg]
        intro isZigzag
        rw [isZigzag.2] at allgather
        exact Bool.false_ne_true allgather
      rw [if_pos rfl, List.length_flatten, aligned, widthEq]
  | false =>
      rw [if_neg Bool.false_ne_true, List.length_flatten,
        map_length_slices allgather isRank aligned]

theorem chunked_length (padPositive : layout.padUnit ≠ 0) (allgather : layout.allgatherCp = true)
    (samples : List PackedSample) :
    layout.joinedLength samples + layout.padding samples =
      layout.cpSize * layout.localLength samples := by
  have divides : layout.cpSize ∣ layout.joinedLength samples + layout.padding samples := by
    refine Nat.dvd_trans ?_ (dvd_add_padCount (Nat.pos_of_ne_zero padPositive) _)
    rw [StreamLayout.padUnit, if_pos allgather]
    exact Nat.dvd_mul_right _ _
  rw [StreamLayout.localLength, if_pos allgather]
  exact (Nat.mul_div_cancel' divides).symm

theorem localStream_eq_ok (isRank : cpRank < layout.cpSize) (padPositive : layout.padUnit ≠ 0)
    (aligned : Aligned lists samples) (padValue : α) :
    ∃ stream, layout.localStream cpRank (layout.padding samples) lists padValue = .ok stream ∧
      stream.length = layout.localLength samples ∧
      ∀ row < layout.localLength samples, stream[row]? =
        (layout.joined cpRank lists padValue ++ List.replicate (layout.padding samples) padValue)[
          layout.chunkStart cpRank (layout.localLength samples) + row]? := by
  have paddedLength : (layout.joined cpRank lists padValue ++
      List.replicate (layout.padding samples) padValue).length =
        layout.joinedLength samples + layout.padding samples := by
    rw [List.length_append, length_joined isRank aligned, List.length_replicate]
  rw [StreamLayout.localStream, StreamLayout.chunkStart]
  cases allgather : layout.allgatherCp with
  | true =>
      have whole := chunked_length padPositive allgather samples
      rw [if_pos rfl, if_pos rfl, chunkAt_eq isRank (paddedLength.trans whole)]
      have ends : (cpRank + 1) * layout.localLength samples ≤
          layout.cpSize * layout.localLength samples := Nat.mul_le_mul_right _ isRank
      refine ⟨_, rfl, ?_, fun row inside => ?_⟩
      · rw [List.length_drop, List.length_take_of_le (by rw [paddedLength, whole]; exact ends),
          Nat.succ_mul, Nat.add_sub_cancel_left]
      · rw [List.getElem?_drop, List.getElem?_take, if_pos]
        rw [Nat.succ_mul]
        exact Nat.add_lt_add_left inside _
  | false =>
      rw [if_neg Bool.false_ne_true, if_neg Bool.false_ne_true]
      refine ⟨_, rfl, ?_, fun row _ => by rw [Nat.zero_add]⟩
      rw [paddedLength, StreamLayout.localLength, allgather, if_neg Bool.false_ne_true]

theorem room_of_localLength (layout : StreamLayout) (samples : List PackedSample) :
    layout.allgatherCp = false →
      (samples.map layout.width).sum ≤ layout.localLength samples := by
  intro whole
  rw [StreamLayout.localLength, whole, if_neg Bool.false_ne_true]
  exact Nat.le_add_right _ _

/-- The entry of a half in the slice of its list. -/
theorem sliceWithCp_half {cpSize base : Nat} (parallel : 1 < cpSize) (isRank : cpRank < cpSize)
    {sample : PackedSample} {list : List α} (sized : list.length = sample.totalLength)
    (padValue : α) {span : Span}
    (inSpans : span ∈ halfSpan (rankOffsets cpSize cpRank sample.totalLength
          sample.responseLength).chunks.first base sample ++
        halfSpan (rankOffsets cpSize cpRank sample.totalLength
          sample.responseLength).chunks.second (base + cpChunkSize cpSize sample.totalLength)
          sample) {index : Nat} (inside : index < span.length) :
    (sliceWithCp cpSize cpRank list padValue)[span.start - base + index]? =
      list[sample.firstLogit + span.responseStart + index]? := by
  have chunkSized := zigzag_sized cpSize cpRank (cpChunkSize cpSize sample.totalLength)
  have held := (sliceWithCp_getElem? parallel isRank list padValue).2
  rw [sized] at held
  have first := firstLogit_eq sample
  rcases List.mem_append.mp inSpans with inFirst | inSecond
  · have half := inHalf chunkSized.1 span inFirst
    have position := half.position
    have starts := half.starts
    have ends := half.ends
    have inTokens := half.inside
    have own := (held (sample.firstLogit + span.responseStart + index) (by omega)).1 (by
      rw [Covers, chunkSized.1]
      omega)
    rw [← own.2]
    congr 1
    omega
  · have half := inHalf chunkSized.2 span inSecond
    have position := half.position
    have starts := half.starts
    have ends := half.ends
    have inTokens := half.inside
    have own := (held (sample.firstLogit + span.responseStart + index) (by omega)).2 (by
      rw [Covers, chunkSized.2]
      omega)
    rw [← own.2]
    congr 1
    omega

/-- The stream holds the entry of a sample at the row of a span. -/
theorem localStream_reads (isRank : cpRank < layout.cpSize) (padPositive : layout.padUnit ≠ 0)
    (aligned : Aligned lists samples) (padValue : α) {i : Nat} {sample : PackedSample}
    (isSample : samples[i]? = some sample) {list : List α} (isList : lists[i]? = some list)
    {stream : List α}
    (streamEq : layout.localStream cpRank (layout.padding samples) lists padValue = .ok stream)
    {span : Span}
    (inSpans : span ∈ layout.spans cpRank (layout.localLength samples)
      (layout.offset samples i) sample) {index : Nat} (inside : index < span.length) :
    stream[span.start + index]? = list[sample.firstLogit + span.responseStart + index]? := by
  have positive := Nat.zero_lt_of_lt isRank
  rcases localStream_eq_ok isRank padPositive aligned padValue with
    ⟨other, otherEq, _, readsPadded⟩
  have same : other = stream := Except.ok.inj (otherEq.symm.trans streamEq)
  subst same
  have fits := spans_fit positive (room_of_localLength layout samples)
    (offset_within isSample) span inSpans
  have spec := spanSpec positive span inSpans
  have starts := spec.starts
  have inResponse := spec.inside
  have ends := spec.ends
  have within : layout.offset samples i + layout.width sample ≤ _ := offset_within isSample
  have first := firstLogit_eq sample
  rcases aligned.getElem? isSample with ⟨found, foundEq, sized⟩
  have sameList : found = list := Option.some.inj (foundEq.symm.trans isList)
  subst sameList
  have joinedLength := length_joined isRank aligned padValue
  rw [StreamLayout.joinedLength] at joinedLength
  rw [readsPadded _ (by omega), List.getElem?_append_left (by rw [joinedLength]; omega),
    StreamLayout.joined, StreamLayout.chunkStart]
  rcases layout.cases positive with isZigzag | ⟨notZigzag, allgather⟩ | ⟨notZigzag, single⟩
  · rw [if_neg (by rw [isZigzag.2]; exact Bool.false_ne_true),
      if_neg (by rw [isZigzag.2]; exact Bool.false_ne_true), Nat.zero_add]
    rw [StreamLayout.chunkStart, if_neg (by rw [isZigzag.2]; exact Bool.false_ne_true)]
      at starts ends
    have widthEq : layout.width sample = zigzagWidth layout.cpSize sample := by
      rw [StreamLayout.width, if_pos isZigzag]
    have sliceLength := length_sliceWithCp positive isRank found padValue
    rw [if_neg (Nat.ne_of_gt isZigzag.1), sized] at sliceLength
    rw [widthEq, zigzagWidth] at ends
    have slices := map_length_slices isZigzag.2 isRank (aligned.take i) padValue
    rw [List.map_take] at slices
    have read := getElem?_flatten_at (lists.map fun list =>
        sliceWithCp layout.cpSize cpRank list padValue) i
      (span.start - layout.offset samples i + index)
      (sliceWithCp layout.cpSize cpRank found padValue)
      (by rw [List.getElem?_map, isList]; rfl) (by rw [sliceLength]; omega)
    rw [slices] at read
    rw [spans_zigzag isZigzag] at inSpans
    rw [← sliceWithCp_half isZigzag.1 isRank sized padValue inSpans inside, ← read]
    congr 1
    rw [StreamLayout.offset] at starts ⊢
    omega
  · have place := chunkSpan_place notZigzag allgather inSpans
    have widthEq : layout.width = PackedSample.totalLength := by
      funext sample
      rw [StreamLayout.width, if_neg notZigzag]
    have read := getElem?_flatten_at lists i (sample.firstLogit + span.responseStart + index)
      found isList (by rw [sized]; omega)
    rw [aligned.take i, ← widthEq] at read
    rw [if_pos allgather, if_pos allgather, ← read]
    congr 1
    rw [StreamLayout.offset] at place
    omega
  · have notAllgather : ¬ layout.allgatherCp = true := by
      rw [single.1]
      exact Bool.false_ne_true
    have widthEq : layout.width = PackedSample.totalLength := by
      funext sample
      rw [StreamLayout.width, if_neg notZigzag]
    have slices : (lists.map fun list => sliceWithCp layout.cpSize cpRank list padValue) =
        lists := by
      conv_rhs => rw [← List.map_id lists]
      apply List.map_congr_left
      intro list _
      rw [sliceWithCp, if_pos single.2]
      rfl
    rw [StreamLayout.spans, if_neg notZigzag, if_neg notAllgather, List.mem_singleton] at inSpans
    subst inSpans
    have read := getElem?_flatten_at lists i (sample.firstLogit + index) found isList
      (by rw [sized]; dsimp only at inside; omega)
    rw [aligned.take i, ← widthEq] at read
    rw [if_neg notAllgather, if_neg notAllgather, slices, Nat.add_zero, ← read]
    congr 1
    rw [StreamLayout.offset, Nat.zero_add, Nat.add_assoc]

end Stream

/-! ## The response tokens of a rank -/

section Held

variable {layout : StreamLayout} {cpRank localLength base : Nat} {sample : PackedSample}

/-- The logit of a response token is on the rank; the sample begins at `base`. -/
def StreamLayout.Holds (layout : StreamLayout) (cpRank localLength base : Nat)
    (sample : PackedSample) (index : Nat) : Prop :=
  if layout.allgatherCp then
    cpRank * localLength ≤ base + sample.firstLogit + index ∧
      base + sample.firstLogit + index < cpRank * localLength + localLength
  else layout.cpSize = 1 ∨
    Owns layout.cpSize cpRank sample.totalLength sample.responseLength index

instance (layout : StreamLayout) (cpRank localLength base : Nat) (sample : PackedSample)
    (index : Nat) : Decidable (layout.Holds cpRank localLength base sample index) :=
  inferInstanceAs (Decidable (if layout.allgatherCp = true then _ ∧ _ else _ ∨ _))

def StreamLayout.heldTokens (layout : StreamLayout) (cpRank localLength base : Nat)
    (sample : PackedSample) : List Nat :=
  (List.range sample.responseLength).filter fun index =>
    layout.Holds cpRank localLength base sample index

theorem mem_half_tokens {chunk : Int × Int} {index : Nat} :
    index ∈ (halfSpan chunk base sample).flatMap Span.tokens ↔
      index < sample.responseLength ∧
        Covers (chunkLogits chunk sample.totalLength sample.responseLength)
          ((sample.totalLength : Int) - sample.responseLength - 1 + index) := by
  have first := firstLogit_eq sample
  cases halfShape chunk sample with
  | empty logits _ spans =>
      rw [spans, logits, Covers]
      constructor
      · intro member
        cases member
      · intro covered
        omega
  | filled offset responseStart length logits _ spans place inChunk inside nonempty =>
      rw [spans, List.flatMap_singleton, logits, Covers, Span.tokens, List.mem_range'_1]
      dsimp only
      omega

/-- The spans of a sample list the response tokens that the rank holds. -/
theorem spans_tokens (isRank : cpRank < layout.cpSize) :
    (layout.spans cpRank localLength base sample).flatMap Span.tokens =
      layout.heldTokens cpRank localLength base sample := by
  have positive := Nat.zero_lt_of_lt isRank
  have increasing : (layout.heldTokens cpRank localLength base sample).Pairwise (· < ·) :=
    List.Pairwise.filter _ List.pairwise_lt_range
  have first := firstLogit_eq sample
  rw [StreamLayout.spans]
  rcases layout.cases positive with isZigzag | ⟨notZigzag, allgather⟩ | ⟨notZigzag, single⟩
  · rw [if_pos isZigzag]
    have sized := zigzag_sized layout.cpSize cpRank (cpChunkSize layout.cpSize sample.totalLength)
    have ordered := cpChunks_ordered isRank (cpChunkSize layout.cpSize sample.totalLength)
    have halfIncreasing (chunk : Int × Int) (start : Nat) :
        ((halfSpan chunk start sample).flatMap Span.tokens).Pairwise (· < ·) := by
      cases halfShape chunk sample with
      | empty _ _ spans =>
          rw [spans]
          exact List.Pairwise.nil
      | filled offset responseStart length _ _ spans _ _ _ _ =>
          rw [spans, List.flatMap_singleton]
          exact List.pairwise_lt_range' ..
    apply List.Pairwise.eq_of_mem_iff _ increasing
    · intro index
      dsimp only
      rw [List.flatMap_append, List.mem_append, mem_half_tokens, mem_half_tokens,
        StreamLayout.heldTokens, List.mem_filter, List.mem_range, decide_eq_true_eq,
        StreamLayout.Holds, isZigzag.2, if_neg Bool.false_ne_true, Owns]
      have parallel : layout.cpSize ≠ 1 := Nat.ne_of_gt isZigzag.1
      constructor
      · rintro (⟨inside, covered⟩ | ⟨inside, covered⟩)
        · exact ⟨inside, .inr (.inl covered)⟩
        · exact ⟨inside, .inr (.inr covered)⟩
      · rintro ⟨inside, whole | covered | covered⟩
        · exact absurd whole parallel
        · exact .inl ⟨inside, covered⟩
        · exact .inr ⟨inside, covered⟩
    · dsimp only
      rw [List.flatMap_append, List.pairwise_append]
      refine ⟨halfIncreasing _ _, halfIncreasing _ _, ?_⟩
      intro earlier inFirst later inSecond
      have coveredFirst := (covers_chunkLogits_iff _).mp (mem_half_tokens.mp inFirst).2
      have coveredSecond := (covers_chunkLogits_iff _).mp (mem_half_tokens.mp inSecond).2
      have before := coveredFirst.1.2
      have after := coveredSecond.1.1
      omega
  · rw [if_neg notZigzag, if_pos allgather]
    apply List.Pairwise.eq_of_mem_iff _ increasing
    · intro index
      rw [StreamLayout.heldTokens, List.mem_filter, List.mem_range, decide_eq_true_eq,
        StreamLayout.Holds, if_pos allgather]
      rcases chunkSpan_cases (cpRank * localLength) (cpRank * localLength + localLength) base
        sample with ⟨isEmpty, none⟩ |
          ⟨start, responseStart, length, some, startEq, stopEq, place, inChunk, inside, spans⟩
      · rw [none]
        dsimp only [globalSpan, PackedSample.promptLength] at isEmpty
        constructor
        · intro member
          cases member
        · intro held
          omega
      · rw [spans, List.flatMap_singleton, Span.tokens, List.mem_range'_1]
        dsimp only [globalSpan, PackedSample.promptLength] at startEq stopEq ⊢
        omega
    · rw [chunkSpan]
      split
      · rw [List.flatMap_singleton]
        exact List.pairwise_lt_range' ..
      · exact List.Pairwise.nil
  · have notAllgather : ¬ layout.allgatherCp = true := by
      rw [single.1]
      exact Bool.false_ne_true
    rw [if_neg notZigzag, if_neg notAllgather, List.flatMap_singleton, Span.tokens,
      StreamLayout.heldTokens, List.filter_eq_self.mpr, List.range_eq_range']
    intro index _
    rw [decide_eq_true_eq, StreamLayout.Holds, if_neg notAllgather]
    exact .inl single.2

end Held

end Vime.Backends.MegatronUtils
