import Vime.Backends.MegatronUtils.Readers
import Vime.Backends.MegatronUtils.RoutedReplay
import Vime.Foundation.Related

/-! # Routing replay and the packed tokens

The packed tokens of a micro-batch and the rows of routing replay are cut from their samples in
the same way: the row beside a token holds the experts of that token.
-/

namespace Vime.Backends.MegatronUtils

open Vime.Foundation

/-! ## Cuts of related lists -/

section Related

variable {α β : Type} {relation : α → β → Prop} {left : List α} {right : List β}

theorem slice_related (related : List.Forall₂ relation left right) (start stop : Int) :
    List.Forall₂ relation (slice left start stop) (slice right start stop) := by
  rw [slice, slice, related.length_eq]
  exact List.forall₂_drop _ (List.forall₂_take _ related)

theorem chunkAt_related (related : List.Forall₂ relation left right) (chunks index : Nat)
    {cut : List α} (cutEq : chunkAt left chunks index = .ok cut) :
    ∃ other, chunkAt right chunks index = .ok other ∧ List.Forall₂ relation cut other := by
  rw [chunkAt, related.length_eq] at cutEq
  rw [chunkAt]
  split at cutEq
  · cases cutEq
  · split at cutEq
    · rename_i some inside
      rw [if_neg some, if_pos inside, ← Except.ok.inj cutEq]
      exact ⟨_, rfl, List.forall₂_drop _ (List.forall₂_take _ related)⟩
    · cases cutEq

theorem replicate_related {first : α} {second : β} (holds : relation first second) :
    ∀ count : Nat, List.Forall₂ relation (List.replicate count first) (List.replicate count second)
  | 0 => .nil
  | count + 1 => .cons holds (replicate_related holds count)

theorem forall₂_of_getElem (sameLength : left.length = right.length)
    (holds : ∀ index (inLeft : index < left.length) (inRight : index < right.length),
      relation left[index] right[index]) :
    List.Forall₂ relation left right :=
  List.forall₂_iff_get.mpr ⟨sameLength, holds⟩

theorem sliceWithCpBy_related (related : List.Forall₂ relation left right) (cpSize cpRank : Nat)
    {padLeft : List α → Nat → List α} {padRight : List β → Nat → List β}
    (pads : ∀ pad, List.Forall₂ relation (padLeft left pad) (padRight right pad)) :
    List.Forall₂ relation (sliceWithCpBy cpSize cpRank left padLeft)
      (sliceWithCpBy cpSize cpRank right padRight) := by
  rw [sliceWithCpBy, sliceWithCpBy]
  split
  · exact related
  · rw [related.length_eq]
    exact List.rel_append (slice_related (pads _) _ _) (slice_related (pads _) _ _)

end Related

/-! ## Streams of related lists -/

def joinedBy (layout : StreamLayout) (cpRank : Nat) (lists : List (List α))
    (padFunc : List α → Nat → List α) : List α :=
  if layout.allgatherCp then lists.flatten
  else (lists.map fun list => sliceWithCpBy layout.cpSize cpRank list padFunc).flatten

def streamBy (layout : StreamLayout) (cpRank : Nat) (lists : List (List α))
    (padFunc : List α → Nat → List α) : Except PyException (List α) :=
  let joined := joinedBy layout cpRank lists padFunc
  let padded := padFunc joined (padCount layout.padUnit joined.length)
  if layout.allgatherCp then chunkAt padded layout.cpSize cpRank else .ok padded

theorem streamBy_related {α β : Type} (relation : α → β → Prop) (layout : StreamLayout)
    (cpRank : Nat) {left : List (List α)} {right : List (List β)}
    (related : List.Forall₂ (List.Forall₂ relation) left right)
    {padLeft : List α → Nat → List α} (padRight : List β → Nat → List β)
    (pads : ∀ first second, List.Forall₂ relation first second →
      ∀ pad, List.Forall₂ relation (padLeft first pad) (padRight second pad))
    {stream : List α} (streamEq : streamBy layout cpRank left padLeft = .ok stream) :
    ∃ other, streamBy layout cpRank right padRight = .ok other ∧
      List.Forall₂ relation stream other := by
  have joined : List.Forall₂ relation (joinedBy layout cpRank left padLeft)
      (joinedBy layout cpRank right padRight) := by
    rw [joinedBy, joinedBy]
    split
    · exact List.rel_flatten related
    · apply List.rel_flatten
      apply List.rel_map _ related
      exact fun first second same =>
        sliceWithCpBy_related same layout.cpSize cpRank (pads first second same)
  have padded := pads _ _ joined (padCount layout.padUnit
    (joinedBy layout cpRank left padLeft).length)
  rw [streamBy] at streamEq ⊢
  rw [← joined.length_eq]
  split at streamEq
  · rename_i allgather
    rw [if_pos allgather]
    exact chunkAt_related padded _ _ streamEq
  · rename_i sliced
    rw [if_neg sliced, ← Except.ok.inj streamEq]
    exact ⟨_, rfl, padded⟩

/-! ## The places of a stream -/

def tokenMarks (tokens : List (List Int)) : List (List (Option (Nat × Nat))) :=
  tokens.mapIdx fun i ids => (List.range ids.length).map fun position => some (i, position)

/-- What the packed stream of a rank holds: tokens, and `none` for padding. -/
def StreamLayout.places (layout : StreamLayout) (cpRank : Nat) (tokens : List (List Int)) :
    Except PyException (List (Option (Nat × Nat))) :=
  let marks := tokenMarks tokens
  layout.localStream cpRank (padCount layout.padUnit (layout.joined cpRank marks none).length)
    marks none

/-- The token at a place; padding is token 0. -/
def TokenAt (tokens : List (List Int)) (place : Option (Nat × Nat)) (token : Int) : Prop :=
  (place = none → token = 0) ∧
    ∀ i position ids, place = some (i, position) → tokens[i]? = some ids →
      ids[position]? = some token

def ExpertsAt (samples : List RoutedExperts) (place : Option (Nat × Nat)) (row : ExpertRow) :
    Prop :=
  ∀ i position experts recorded, place = some (i, position) → samples[i]? = some experts →
    experts.rows[position]? = some recorded → row = recorded

section Places

variable {layout : StreamLayout} {cpRank tpRank numLayers topk numExperts : Nat}
  {tokens : List (List Int)} {samples : List RoutedExperts}

theorem tokenMarks_tokens (tokens : List (List Int)) :
    List.Forall₂ (List.Forall₂ (TokenAt tokens)) (tokenMarks tokens) tokens := by
  apply forall₂_of_getElem
  · simp [tokenMarks]
  · intro i inMarks inTokens
    simp only [tokenMarks, List.getElem_mapIdx]
    apply forall₂_of_getElem
    · simp
    · intro position _ inIds
      simp only [List.getElem_map, List.getElem_range]
      constructor
      · intro isNone
        cases isNone
      · intro other place ids isPlace isIds
        cases isPlace
        rw [List.getElem?_eq_getElem inTokens] at isIds
        rw [← Option.some.inj isIds]
        exact List.getElem?_eq_getElem inIds

theorem tokenMarks_experts
    (sized : samples.map (fun experts => experts.rows.length + 1) = tokens.map List.length) :
    List.Forall₂ (List.Forall₂ (ExpertsAt samples)) (tokenMarks tokens)
      (samples.map fun experts =>
        padRoutedExperts numLayers topk numExperts experts.rows 1) := by
  have counted := congrArg List.length sized
  rw [List.length_map, List.length_map] at counted
  apply forall₂_of_getElem
  · simp [tokenMarks, counted]
  · intro i inMarks inSamples
    rw [List.length_map] at inSamples
    have inTokens : i < tokens.length := by omega
    have lengths := congrArg (fun lengths => lengths[i]?) sized
    simp only [List.getElem?_map, List.getElem?_eq_getElem inSamples,
      List.getElem?_eq_getElem inTokens, Option.map_some, Option.some.injEq] at lengths
    simp only [tokenMarks, List.getElem_mapIdx, List.getElem_map]
    apply forall₂_of_getElem
    · simp [padRoutedExperts, lengths]
    · intro position _ inRows
      simp only [List.getElem_map, List.getElem_range]
      intro other place experts recorded isPlace isExperts isRecorded
      cases isPlace
      rw [List.getElem?_eq_getElem inSamples] at isExperts
      have sameExperts := Option.some.inj isExperts
      subst sameExperts
      rcases List.getElem?_eq_some_iff.mp isRecorded with ⟨inRecorded, rowEq⟩
      rw [← rowEq]
      exact List.getElem_append_left inRecorded

theorem getBatch_tokens {packed : List PackedSample} {batch : PackedBatch}
    (batchEq : getBatch layout cpRank packed = .ok batch) :
    streamBy layout cpRank (packed.map PackedSample.tokens)
      (fun tokens pad => tokens ++ List.replicate pad 0) = .ok batch.tokens := by
  rw [getBatch] at batchEq
  rcases raiseIf_bind_eq_ok.mp batchEq with ⟨_, padded⟩
  rcases raiseIf_bind_eq_ok.mp padded with ⟨_, streams⟩
  rcases bind_eq_ok.mp streams with ⟨tokens, tokensEq, masked⟩
  rcases bind_eq_ok.mp masked with ⟨masks, _, checked⟩
  rcases raiseIf_bind_eq_ok.mp checked with ⟨_, result⟩
  rw [← Except.ok.inj result]
  exact tokensEq

/-- The places of the stream that a rank is given, and the recorded experts of each. -/
theorem places_experts
    (sized : samples.map (fun experts => experts.rows.length + 1) = tokens.map List.length)
    {stream : List ExpertRow}
    (streamEq : streamBy layout cpRank
      (samples.map fun experts => padRoutedExperts numLayers topk numExperts experts.rows 1)
      (padRoutedExperts numLayers topk numExperts) = .ok stream) :
    ∃ places, layout.places cpRank tokens = .ok places ∧
      List.Forall₂ (ExpertsAt samples) places stream := by
  have marked := (@tokenMarks_experts numLayers topk numExperts tokens samples sized).flip
  rcases streamBy_related (flip (ExpertsAt samples)) layout cpRank
    (marked.imp fun _ _ => List.Forall₂.flip)
    (fun marks pad => marks ++ List.replicate pad none)
    (fun first second same pad => List.rel_append same (by
      apply forall₂_of_getElem
      · simp
      · intro index inPads inRows
        rw [List.getElem_replicate]
        intro _ _ _ _ isPlace
        cases isPlace)) streamEq with ⟨places, placesEq, related⟩
  exact ⟨places, placesEq, related.flip⟩

theorem places_tokens {places : List (Option (Nat × Nat))} {packed : List PackedSample}
    {batch : PackedBatch}
    (placesEq : layout.places cpRank (packed.map PackedSample.tokens) = .ok places)
    (batchEq : getBatch layout cpRank packed = .ok batch) :
    List.Forall₂ (TokenAt (packed.map PackedSample.tokens)) places batch.tokens := by
  have isPlaces : streamBy layout cpRank (tokenMarks (packed.map PackedSample.tokens))
      (fun marks pad => marks ++ List.replicate pad none) = .ok places := placesEq
  rcases streamBy_related (TokenAt (packed.map PackedSample.tokens)) layout cpRank
    (tokenMarks_tokens (packed.map PackedSample.tokens))
    (fun tokens pad => tokens ++ List.replicate pad 0)
    (fun first second same pad => List.rel_append same (replicate_related ⟨fun _ => rfl, by
      intro _ _ _ isPlace
      cases isPlace⟩ pad)) isPlaces with ⟨tokens, tokensEq, related⟩
  rw [getBatch_tokens batchEq] at tokensEq
  rw [Except.ok.inj tokensEq]
  exact related

/-- The rows that a rank fills stand at the places that it is given, cut for sequence
parallelism as the rows are. -/
theorem prepareRoutedExperts_places (sequenceParallel : Bool)
    (isCpRank : cpRank < layout.cpSize) (isTpRank : tpRank < layout.tpSize)
    (padPositive : 0 < layout.padMultiplier) (someExperts : 0 < numExperts)
    (someSample : samples ≠ [])
    (sized : samples.map (fun experts => experts.rows.length + 1) = tokens.map List.length)
    (shaped : ∀ experts ∈ samples, experts.numLayers = numLayers ∧ experts.topk = topk) :
    ∃ places held rows,
      layout.places cpRank tokens = .ok places ∧
      (if sequenceParallel then chunkAt places layout.tpSize tpRank else .ok places) = .ok held ∧
      routingReplayReference layout cpRank tpRank numLayers topk numExperts sequenceParallel
        samples = .ok rows ∧
      prepareRoutedExpertsForRoutingReplay layout cpRank tpRank numExperts sequenceParallel samples
        tokens = .ok
          { numLayers := numLayers, topk := topk, rows := rows.map fun row => [row] } ∧
      List.Forall₂ (ExpertsAt samples) held rows ∧
      ((∀ experts ∈ samples, ∀ row ∈ experts.rows, InRange numExperts row) →
        ∀ row ∈ rows, InRange numExperts row) := by
  rcases prepareRoutedExperts_stretch sequenceParallel isCpRank isTpRank padPositive
    someExperts someSample sized shaped with ⟨start, stop, reference, filled⟩
  have cut : (streamBy layout cpRank
        (samples.map fun experts => padRoutedExperts numLayers topk numExperts experts.rows 1)
        (padRoutedExperts numLayers topk numExperts) >>= fun stream =>
          if sequenceParallel then chunkAt stream layout.tpSize tpRank else .ok stream) =
      .ok (stretch (streamRows layout cpRank numLayers topk numExperts samples) start stop) :=
    reference
  rcases bind_eq_ok.mp cut with ⟨stream, streamEq, shardEq⟩
  rcases places_experts sized streamEq with ⟨places, placesEq, expertsAt⟩
  have shard : ∃ held,
      (if sequenceParallel then chunkAt places layout.tpSize tpRank else .ok places) = .ok held ∧
      List.Forall₂ (ExpertsAt samples) held
        (stretch (streamRows layout cpRank numLayers topk numExperts samples) start stop) := by
    cases sequenceParallel with
    | true =>
        rcases chunkAt_related expertsAt.flip _ _ shardEq with ⟨held, heldEq, related⟩
        exact ⟨held, heldEq, related.flip⟩
    | false => exact ⟨places, rfl, Except.ok.inj shardEq ▸ expertsAt⟩
  rcases shard with ⟨held, heldEq, related⟩
  exact ⟨places, held, _, placesEq, heldEq, reference, filled, related,
    stretch_inRange someExperts start stop⟩

/-- Beside every token of the packed stream stand the experts that the rollout recorded for it,
written once; the rows are cut for sequence parallelism as the places are. -/
theorem prepareRoutedExperts_alignsTokens (sequenceParallel : Bool)
    (isCpRank : cpRank < layout.cpSize) (isTpRank : tpRank < layout.tpSize)
    (padPositive : 0 < layout.padMultiplier)
    (someExperts : 0 < numExperts) {packed : List PackedSample} (someSample : packed ≠ [])
    (sized : samples.map (fun experts => experts.rows.length + 1) =
      packed.map PackedSample.totalLength)
    (shaped : ∀ experts ∈ samples, experts.numLayers = numLayers ∧ experts.topk = topk) :
    ∃ places batch held rows,
      layout.places cpRank (packed.map PackedSample.tokens) = .ok places ∧
      getBatch layout cpRank packed = .ok batch ∧
      List.Forall₂ (TokenAt (packed.map PackedSample.tokens)) places batch.tokens ∧
      (if sequenceParallel then chunkAt places layout.tpSize tpRank else .ok places) = .ok held ∧
      prepareRoutedExpertsForRoutingReplay layout cpRank tpRank numExperts sequenceParallel samples
        (packed.map PackedSample.tokens) = .ok
          { numLayers := numLayers, topk := topk, rows := rows } ∧
      List.Forall₂ (fun place written => ∃ row, written = [row] ∧ ExpertsAt samples place row)
        held rows := by
  have sizedTokens : samples.map (fun experts => experts.rows.length + 1) =
      (packed.map PackedSample.tokens).map List.length := by
    rw [sized, List.map_map]
    rfl
  have someRouted : samples ≠ [] := by
    intro isNil
    rw [isNil, List.map_nil] at sized
    exact someSample (List.map_eq_nil_iff.mp sized.symm)
  have padUnit := padUnit_ne_zero (Nat.zero_lt_of_lt isCpRank)
    (Nat.mul_pos (Nat.zero_lt_of_lt isTpRank) padPositive)
  rcases getBatch_reads isCpRank padUnit someSample with ⟨batch, batchEq, _⟩
  rcases prepareRoutedExperts_places sequenceParallel isCpRank isTpRank padPositive someExperts
    someRouted sizedTokens shaped with ⟨places, held, rows, placesEq, heldEq, _, filled, related, _⟩
  refine ⟨places, batch, held, _, placesEq, batchEq, places_tokens placesEq batchEq, heldEq,
    filled, ?_⟩
  rw [List.forall₂_map_right_iff]
  exact related.imp fun place row experts => ⟨row, rfl, experts⟩

def routedSample : PackedSample where
  tokens := [1, 2, 3, 4, 5, 6]
  responseLength := 4
  lossMask := [1, 1, 0, 1]
  topPTokenIds := []
  topPTokenOffsets := [0, 0, 0, 0, 0]
  inSequence := by decide
  maskLength := by decide
  offsetsLength := by decide
  offsetsOrdered := by decide
  offsetsEnd := by decide

theorem prepareRoutedExperts_alignsTwoSamples :
    ∃ places batch held rows,
      zigzagShards.places 1 ([routedSample, routedSample].map PackedSample.tokens) = .ok places ∧
      getBatch zigzagShards 1 [routedSample, routedSample] = .ok batch ∧
      List.Forall₂ (TokenAt ([routedSample, routedSample].map PackedSample.tokens)) places
        batch.tokens ∧
      (if true then chunkAt places zigzagShards.tpSize 1 else .ok places) = .ok held ∧
      prepareRoutedExpertsForRoutingReplay zigzagShards 1 1 8 true
        [countedRoutes 5, countedRoutes 5]
        ([routedSample, routedSample].map PackedSample.tokens) = .ok
          { numLayers := 1, topk := 2, rows := rows } ∧
      List.Forall₂ (fun place written =>
        ∃ row, written = [row] ∧ ExpertsAt [countedRoutes 5, countedRoutes 5] place row)
        held rows :=
  prepareRoutedExperts_alignsTokens true (by decide) (by decide) (by decide) (by decide)
    (by simp) (by decide) (by decide)

/-- The buffer holds the rows of the padded reference, each written once. The row at the place
of token `position` of a sample, in the stream that `get_batch` packs, is the recorded row of that
token, and every id is that of an expert. -/
theorem prepareRoutedExperts_fillsPlaces (sequenceParallel : Bool)
    (isCpRank : cpRank < layout.cpSize) (isTpRank : tpRank < layout.tpSize)
    (padPositive : 0 < layout.padMultiplier) (someExperts : 0 < numExperts)
    (someSample : samples ≠ [])
    (sized : samples.map (fun experts => experts.rows.length + 1) = tokens.map List.length)
    (shaped : ∀ experts ∈ samples, experts.numLayers = numLayers ∧ experts.topk = topk) :
    ∃ places held rows,
      routingReplayReference layout cpRank tpRank numLayers topk numExperts sequenceParallel
        samples = .ok rows ∧
      prepareRoutedExpertsForRoutingReplay layout cpRank tpRank numExperts sequenceParallel samples
        tokens = .ok
          { numLayers := numLayers, topk := topk, rows := rows.map fun row => [row] } ∧
      layout.places cpRank tokens = .ok places ∧
      (∀ packed : List PackedSample, packed.map PackedSample.tokens = tokens →
        ∃ batch, getBatch layout cpRank packed = .ok batch ∧
          batch.tokens.length = places.length ∧
          ∀ (index i position : Nat) (ids : List Int),
            places[index]? = some (some (i, position)) → tokens[i]? = some ids →
            batch.tokens[index]? = ids[position]?) ∧
      (if sequenceParallel then chunkAt places layout.tpSize tpRank else .ok places) = .ok held ∧
      held.length = rows.length ∧
      (∀ (index i position : Nat) (experts : RoutedExperts),
        held[index]? = some (some (i, position)) → samples[i]? = some experts →
        position < experts.rows.length → rows[index]? = experts.rows[position]?) ∧
      ((∀ experts ∈ samples, ∀ row ∈ experts.rows, InRange numExperts row) →
        ∀ row ∈ rows, InRange numExperts row) := by
  rcases prepareRoutedExperts_places sequenceParallel isCpRank isTpRank padPositive someExperts
    someSample sized shaped with
      ⟨places, held, rows, placesEq, heldEq, reference, filled, related, inRange⟩
  have padUnit := padUnit_ne_zero (Nat.zero_lt_of_lt isCpRank)
    (Nat.mul_pos (Nat.zero_lt_of_lt isTpRank) padPositive)
  refine ⟨places, held, rows, reference, filled, placesEq, ?_, heldEq, related.length_eq, ?_,
    inRange⟩
  · intro packed isPacked
    have somePacked : packed ≠ [] := by
      intro isNil
      rw [isNil, List.map_nil] at isPacked
      rw [← isPacked, List.map_nil] at sized
      exact someSample (List.map_eq_nil_iff.mp sized)
    rcases getBatch_reads isCpRank padUnit somePacked with ⟨batch, batchEq, _⟩
    rw [← isPacked] at placesEq ⊢
    have tokensAt := places_tokens placesEq batchEq
    refine ⟨batch, batchEq, tokensAt.length_eq.symm, ?_⟩
    intro index i position ids isPlace isIds
    rcases forall₂_getElem?_left tokensAt isPlace with ⟨token, isToken, atPlace⟩
    rw [isToken, atPlace.2 i position ids rfl isIds]
  · intro index i position experts isPlace isSample recorded
    rcases forall₂_getElem?_left related isPlace with ⟨row, isRow, atPlace⟩
    have isRecorded := List.getElem?_eq_getElem recorded
    rw [isRow, isRecorded, atPlace i position experts _ rfl isSample isRecorded]

theorem prepareRoutedExperts_fillsTwoSamples :
    ∃ places held rows,
      routingReplayReference zigzagShards 1 1 1 2 8 true [countedRoutes 5, countedRoutes 1] =
        .ok rows ∧
      prepareRoutedExpertsForRoutingReplay zigzagShards 1 1 8 true
        [countedRoutes 5, countedRoutes 1] [[1, 2, 3, 4, 5, 6], [7, 8]] =
          .ok { numLayers := 1, topk := 2, rows := rows.map fun row => [row] } ∧
      zigzagShards.places 1 [[1, 2, 3, 4, 5, 6], [7, 8]] = .ok places ∧
      (∀ packed : List PackedSample,
        packed.map PackedSample.tokens = [[1, 2, 3, 4, 5, 6], [7, 8]] →
        ∃ batch, getBatch zigzagShards 1 packed = .ok batch ∧
          batch.tokens.length = places.length ∧
          ∀ (index i position : Nat) (ids : List Int),
            places[index]? = some (some (i, position)) →
            [[1, 2, 3, 4, 5, 6], [7, 8]][i]? = some ids →
            batch.tokens[index]? = ids[position]?) ∧
      (if true then chunkAt places zigzagShards.tpSize 1 else .ok places) = .ok held ∧
      held.length = rows.length ∧
      (∀ (index i position : Nat) (experts : RoutedExperts),
        held[index]? = some (some (i, position)) →
        [countedRoutes 5, countedRoutes 1][i]? = some experts →
        position < experts.rows.length → rows[index]? = experts.rows[position]?) ∧
      ((∀ experts ∈ [countedRoutes 5, countedRoutes 1], ∀ row ∈ experts.rows, InRange 8 row) →
        ∀ row ∈ rows, InRange 8 row) :=
  prepareRoutedExperts_fillsPlaces true (by decide) (by decide) (by decide) (by decide) (by simp)
    (by decide) (by decide)

end Places

end Vime.Backends.MegatronUtils
