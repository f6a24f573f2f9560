import Vime.Rollout.StreamingGeneration

/-! # Streamed replies

A stream that delivers a reply in chunks leaves the sample of the one-shot reply, up to the
loss mask of samples that had none; a stream that is cut leaves the sample of the reply that
stops there.
-/

namespace Vime.Rollout

open Vime.Foundation Vime.Utils Vime.Utils.Types

variable {F : Type}

namespace Choice

def rows (choice : Choice F) : List (List Int32) :=
  if choice.tokens = [] then [] else choice.samplingMask.getD []

/-- A choice with a log probability and, if the replies have masks, a mask row per token. -/
structure Delivers (masked : Bool) (choice : Choice F) : Prop where
  content : choice.tokens.length = choice.content.length
  rows : choice.tokens ≠ [] →
    if masked then ∃ rows, choice.samplingMask = some rows ∧ rows.length = choice.tokens.length
    else choice.samplingMask = none

end Choice

namespace Streaming

/-! ## Replay in chunks -/

section Replay

theorem replayOffsets_eq_cons (spans : List (List Int32)) :
    replayOffsets spans = 0 :: (replayOffsets spans).drop 1 := by
  rw [replayOffsets, offsetsFrom_eq_cons]
  rfl

theorem continued_offsets {held : List Int32} {last : Int32} (isLast : held.getLast? = some last)
    (spans : List (List Int32)) :
    held ++ ((replayOffsets spans).drop 1).map (· + last) =
      held.dropLast ++ (replayOffsets spans).map (· + last) := by
  have ends : held.dropLast ++ [last] = held := List.dropLast_append_getLast? last isLast
  have zero : (0 : Int32) + last = last := Int32.zero_add last
  rw [replayOffsets_eq_cons spans, List.drop_one, List.tail_cons, List.map_cons, zero]
  rw [← List.singleton_append, ← List.append_assoc, ends]

theorem merge_eq_ok {ids offsets : Option (List Int32)} {spans : List (List Int32)}
    {merged : List Int32 × List Int32} :
    mergeRolloutTopPTokenData ids offsets spans.flatten (replayOffsets spans) = .ok merged ↔
      ∃ last, (offsets.getD [0]).getLast? = some last ∧
        merged = (ids.getD [] ++ spans.flatten,
          (offsets.getD [0]).dropLast ++ (replayOffsets spans).map (· + last)) := by
  rw [mergeRolloutTopPTokenData, bind_eq_ok]
  constructor
  · intro returned
    rcases returned with ⟨last, isLast, same⟩
    rw [lastItem_eq_ok] at isLast
    refine ⟨last, isLast, ?_⟩
    rw [← continued_offsets isLast]
    exact (Except.ok.inj same).symm
  · intro found
    rcases found with ⟨last, isLast, rfl⟩
    refine ⟨last, lastItem_eq_ok.mpr isLast, ?_⟩
    rw [← continued_offsets isLast]
    rfl

theorem merge_append {ids offsets : Option (List Int32)} {left : List (List Int32)}
    {merged : List Int32 × List Int32}
    (first : mergeRolloutTopPTokenData ids offsets left.flatten (replayOffsets left) = .ok merged)
    (right : List (List Int32)) :
    mergeRolloutTopPTokenData (some merged.1) (some merged.2) right.flatten
        (replayOffsets right) =
      mergeRolloutTopPTokenData ids offsets (left ++ right).flatten
        (replayOffsets (left ++ right)) := by
  rcases merge_eq_ok.mp first with ⟨last, isLast, rfl⟩
  have after : ((offsets.getD [0]).dropLast ++ (replayOffsets left).map (· + last)).getLast? =
      some (Int32.ofNat left.flatten.length + last) := by
    rw [List.getLast?_append, List.getLast?_map, getLast?_replayOffsets]
    rfl
  have whole : mergeRolloutTopPTokenData ids offsets (left ++ right).flatten
      (replayOffsets (left ++ right)) =
        .ok (ids.getD [] ++ (left ++ right).flatten,
          (offsets.getD [0]).dropLast ++ (replayOffsets (left ++ right)).map (· + last)) :=
    merge_eq_ok.mpr ⟨last, isLast, rfl⟩
  rw [whole]
  apply merge_eq_ok.mpr
  refine ⟨_, after, ?_⟩
  have shifted : (left ++ right).flatten = left.flatten ++ right.flatten := List.flatten_append
  rw [Option.getD_some, Option.getD_some, shifted, ← List.append_assoc]
  congr 1
  rw [← continued_offsets after, replayOffsets_append, List.map_append, List.map_map,
    List.append_assoc]
  congr 2
  apply List.map_congr_left
  intro offset _
  rw [Function.comp_apply, Int32.add_assoc]

def addReplay (sample : Sample F) (spans : List (List Int32)) :
    Except PyException (Option (List Int32) × Option (List Int32)) :=
  sample.addTopP (some (spans.flatten, replayOffsets spans)) 0 false

theorem addReplay_isOk {sample : Sample F} {spans : List (List Int32)}
    {replay : Option (List Int32) × Option (List Int32)}
    (returned : addReplay sample spans = .ok replay) (others : List (List Int32)) :
    ∃ other, addReplay sample others = .ok other := by
  rw [addReplay, Sample.addTopP] at returned ⊢
  split at returned
  · rename_i absent
    rw [if_pos absent]
    exact ⟨_, rfl⟩
  · rename_i present
    rw [if_neg present]
    rcases map_eq_ok.mp returned with ⟨merged, isMerged, _⟩
    rcases merge_eq_ok.mp isMerged with ⟨last, isLast, _⟩
    exact ⟨_, map_eq_ok.mpr ⟨_, merge_eq_ok.mpr ⟨last, isLast, rfl⟩, rfl⟩⟩

theorem addReplay_append {base sample : Sample F} {left : List (List Int32)}
    (added : addReplay base left =
      .ok (sample.rolloutTopPTokenIds, sample.rolloutTopPTokenOffsets))
    (right : List (List Int32)) : addReplay sample right = addReplay base (left ++ right) := by
  rw [addReplay, Sample.addTopP] at added
  split at added
  · rename_i absent
    rcases Prod.mk.inj (Except.ok.inj added) with ⟨isIds, isOffsets⟩
    rw [addReplay, addReplay, Sample.addTopP, Sample.addTopP, ← isIds, ← isOffsets]
    rw [if_neg (by simp), if_pos absent, merge_replay]
    rfl
  · rename_i present
    rcases map_eq_ok.mp added with ⟨merged, isMerged, same⟩
    rcases Prod.mk.inj same with ⟨isIds, isOffsets⟩
    rw [addReplay, addReplay, Sample.addTopP, Sample.addTopP, ← isIds, ← isOffsets]
    rw [if_neg (by simp), if_neg present, merge_append isMerged]

end Replay

/-! ## Chunks -/

def replayAfter (base : Sample F) (spans : List (List Int32)) :
    Except PyException (Option (List Int32) × Option (List Int32)) :=
  if spans = [] then .ok (base.rolloutTopPTokenIds, base.rolloutTopPTokenOffsets)
  else addReplay base spans

section Chunks

variable {choice : Choice F} {weightVersion : Option String} {usage : Option Usage}
variable {stats : Option SpeculativeStats}

/-- Rows are extracted exactly if there is one for each token and `int32` holds their number. -/
theorem extract_rows {rows : List (List Int32)} (isMask : choice.samplingMask = some rows)
    (count : Nat) {data : Option (List Int32 × List Int32)} :
    extractRolloutTopPTokenData
        (inferenceGenerateMetaInfo choice weightVersion usage stats) count = .ok data ↔
      rows.flatten.length < 2 ^ 31 ∧ rows.length = count ∧
        data = some (rows.flatten, replayOffsets rows) := by
  have decoded : extractRolloutTopPTokenData
      (inferenceGenerateMetaInfo choice weightVersion usage stats) count =
      (checkedTopPTokenData rows.flatten (replayOffsets rows) count).map some := by
    rw [extractRolloutTopPTokenData, inferenceGenerateMetaInfo, isMask]
    rfl
  have first : ¬ (replayOffsets rows).head? ≠ some 0 := by
    rw [replayOffsets_eq_cons, List.head?_cons]
    exact not_not_intro rfl
  have last : lastItem (replayOffsets rows) = .ok (Int32.ofNat rows.flatten.length) :=
    lastItem_eq_ok.mpr (getLast?_replayOffsets rows)
  have fits : (Int32.ofNat rows.flatten.length).toInt = rows.flatten.length ↔
      rows.flatten.length < 2 ^ 31 := by
    constructor
    · intro same
      have bound := Int32.toInt_lt (Int32.ofNat rows.flatten.length)
      omega
    · exact Int32.toInt_ofNat_of_lt
  rw [decoded, map_eq_ok, checkedTopPTokenData]
  simp only [check_bind_eq_ok, raiseIf_eq_ok, first, not_false_eq_true, true_and, last, ok_bind,
    not_not, fits, length_replayOffsets, Nat.add_right_cancel_iff, pure_eq_ok]
  constructor
  · intro returned
    rcases returned with ⟨value, ⟨small, length, isValue⟩, isData⟩
    rw [← isData, ← Except.ok.inj isValue]
    exact ⟨small, length, rfl⟩
  · intro facts
    exact ⟨_, ⟨facts.1, facts.2.1, rfl⟩, facts.2.2.symm⟩

theorem replay_of_applyTopP {sample : Sample F}
    {replay : Option (List Int32) × Option (List Int32)}
    (applied : sample.applyTopP (inferenceGenerateMetaInfo choice weightVersion usage stats)
      choice.tokens.length false = .ok replay) :
    replayAfter sample choice.rows = .ok replay ∧ choice.rows.flatten.length < 2 ^ 31 := by
  rw [Sample.applyTopP] at applied
  rw [replayAfter, Choice.rows]
  by_cases empty : choice.tokens = []
  · rw [if_pos empty, if_pos rfl]
    rw [empty, List.length_nil, if_pos rfl] at applied
    exact ⟨applied, Nat.two_pow_pos 31⟩
  · have some : ¬ choice.tokens.length = 0 := fun none => empty (List.length_eq_zero_iff.mp none)
    rw [if_neg empty]
    rw [if_neg some] at applied
    cases isMask : choice.samplingMask with
    | none =>
        rw [extract_none (by rw [inferenceGenerateMetaInfo, isMask]; rfl)
          (by rw [inferenceGenerateMetaInfo, isMask]; rfl), ok_bind] at applied
        rw [Option.getD_none, if_pos rfl]
        exact ⟨applied, Nat.two_pow_pos 31⟩
    | some rows =>
        rcases bind_eq_ok.mp applied with ⟨data, extracted, added⟩
        rcases (extract_rows isMask _).mp extracted with ⟨fits, length, rfl⟩
        have nonempty : rows ≠ [] := by
          intro isNil
          rw [isNil] at length
          exact some length.symm
        rw [Option.getD_some, if_neg nonempty]
        exact ⟨added, fits⟩

theorem addReplay_congr {sample base : Sample F}
    (ids : sample.rolloutTopPTokenIds = base.rolloutTopPTokenIds)
    (offsets : sample.rolloutTopPTokenOffsets = base.rolloutTopPTokenOffsets)
    (spans : List (List Int32)) : addReplay sample spans = addReplay base spans := by
  rw [addReplay, addReplay, Sample.addTopP, Sample.addTopP, ids, offsets]

variable (weightVersion usage stats) in
/-- A chunk adds its rows to the replay. -/
theorem applyTopP_chunk {masked : Bool} {base sample : Sample F}
    (delivers : choice.Delivers masked) (fits : choice.rows.flatten.length < 2 ^ 31)
    (ready : choice.rows ≠ [] → ∃ replay, addReplay base choice.rows = .ok replay)
    {spans : List (List Int32)}
    (before : replayAfter base spans =
      .ok (sample.rolloutTopPTokenIds, sample.rolloutTopPTokenOffsets)) :
    ∃ ids offsets, sample.applyTopP
        (inferenceGenerateMetaInfo choice weightVersion usage stats) choice.tokens.length false =
          .ok (ids, offsets) ∧
      replayAfter base (spans ++ choice.rows) = .ok (ids, offsets) := by
  rw [Sample.applyTopP]
  by_cases empty : choice.tokens = []
  · have noRows : choice.rows = [] := if_pos empty
    rw [empty, List.length_nil, if_pos rfl, noRows, List.append_nil]
    exact ⟨_, _, rfl, before⟩
  · have some : ¬ choice.tokens.length = 0 := fun none => empty (List.length_eq_zero_iff.mp none)
    have isRows : choice.rows = choice.samplingMask.getD [] := if_neg empty
    have rows := delivers.rows empty
    rw [if_neg some]
    cases masked with
    | false =>
        have noMask : choice.samplingMask = none := rows
        rw [extract_none (by rw [inferenceGenerateMetaInfo, noMask]; rfl)
          (by rw [inferenceGenerateMetaInfo, noMask]; rfl), ok_bind, isRows, noMask,
          Option.getD_none, List.append_nil]
        exact ⟨_, _, rfl, before⟩
    | true =>
        rcases rows with ⟨rows, isMask, length⟩
        rw [isMask, Option.getD_some] at isRows
        rw [isRows] at fits ready ⊢
        have nonempty : rows ≠ [] := by
          intro isNil
          rw [isNil] at length
          exact some length.symm
        rcases ready nonempty with ⟨alone, isAlone⟩
        have longer : spans ++ rows ≠ [] :=
          fun isNil => nonempty (List.append_eq_nil_iff.mp isNil).2
        rw [(extract_rows isMask _).mpr ⟨fits, length, rfl⟩, ok_bind, replayAfter, if_neg longer]
        rcases addReplay_isOk isAlone (spans ++ rows) with ⟨⟨ids, offsets⟩, isAll⟩
        refine ⟨ids, offsets, ?_, isAll⟩
        have added : addReplay sample rows = .ok (ids, offsets) := by
          rw [← isAll]
          by_cases first : spans = []
          · rw [replayAfter, if_pos first] at before
            rcases Prod.mk.inj (Except.ok.inj before) with ⟨sameIds, sameOffsets⟩
            rw [first, List.nil_append]
            exact addReplay_congr sameIds.symm sameOffsets.symm rows
          · rw [replayAfter, if_neg first] at before
            exact addReplay_append before rows
        exact added

end Chunks

/-! ## The sample during the stream -/

abbrev Chunk (F : Type) : Type := VllmOutput F × Choice F

def Chunk.reported (chunk : Chunk F) : Option (List String) :=
  if chunk.2.weightVersions.isSome ∨ chunk.1.weightVersion.isSome then
    some (reportedVersions chunk.2 chunk.1.weightVersion)
  else none

def lastReported (chunks : List (Chunk F)) : List String :=
  (chunks.filterMap Chunk.reported).getLast?.getD []

def chunkTokens (chunks : List (Chunk F)) : List Int :=
  chunks.flatMap fun chunk => chunk.2.tokens

def chunkLogProbs (chunks : List (Chunk F)) : List F :=
  chunks.flatMap fun chunk => chunk.2.content

def chunkRows (chunks : List (Chunk F)) : List (List Int32) :=
  chunks.flatMap fun chunk => chunk.2.rows

def withResponse (decode : List Int → String) (base : Sample F) (tokens : List Int)
    (logProbs : List F) (versions : List String)
    (replay : Option (List Int32) × Option (List Int32)) : Sample F :=
  { base with
    tokens := base.tokens ++ tokens
    response := base.response ++ decodeText decode tokens
    responseLength := base.responseLength + tokens.length
    rolloutLogProbs := some (base.rolloutLogProbs.getD [] ++ logProbs)
    weightVersions := if tokens = [] then base.weightVersions else base.weightVersions ++ versions
    lossMask := base.lossMask.map fun mask => mask ++ List.replicate tokens.length 1
    rolloutTopPTokenIds := replay.1
    rolloutTopPTokenOffsets := replay.2 }

structure Streamed (decode : List Int → String) (base : Sample F) (chunks : List (Chunk F))
    (progress : Progress F) : Prop where
  callTokens : progress.callTokens = chunkTokens chunks
  callLogProbs : progress.callLogProbs = chunkLogProbs chunks
  weightVersions : progress.weightVersions = lastReported chunks
  lastChoice : progress.lastChoice = chunks.getLast?.map Prod.snd
  finishReason : (∀ chunk ∈ chunks.dropLast, truthy chunk.2.finishReason = false) →
    truthy progress.finishReason =
      (chunks.getLast?.map fun chunk => truthy chunk.2.finishReason).getD false
  sample : ∃ replay, replayAfter base (chunkRows chunks) = .ok replay ∧
    progress.sample =
      if chunks = [] then base
      else withResponse decode base (chunkTokens chunks) (chunkLogProbs chunks)
        (lastReported chunks) replay

section Stream

variable {args : GenerateArgs} {decode : List Int → String} {base : Sample F}

/-- The sample may be streamed into: it has no loss mask, or off-policy masking is on. -/
def MaskAllowed (args : GenerateArgs) (sample : Sample F) : Prop :=
  sample.lossMask = none ∨
    (args.partialRollout = true ∧ args.maskOffpolicyInPartialRollout = true)

theorem surfaceLossMask_eq_ok (allowed : MaskAllowed args base) (tokens : List Int)
    (sample : Sample F) (same : base.lossMask = none → sample.lossMask = none) :
    surfaceLossMask args base tokens sample =
      .ok { sample with
        lossMask := base.lossMask.map fun mask => mask ++ List.replicate tokens.length 1 } := by
  rw [surfaceLossMask]
  cases isMask : base.lossMask with
  | none =>
      have unchanged : { sample with lossMask := none } = sample := by rw [← same isMask]
      exact congrArg Except.ok unchanged.symm
  | some mask =>
      have enabled := allowed.resolve_left (by rw [isMask]; exact nofun)
      have accepted : ¬ ¬ (args.partialRollout = true ∧
          args.maskOffpolicyInPartialRollout = true) := not_not_intro enabled
      dsimp only
      rw [raiseIf_eq_ok.mpr accepted]
      rfl

theorem Streamed.start : Streamed decode base [] { sample := base } where
  callTokens := rfl
  callLogProbs := rfl
  weightVersions := rfl
  lastChoice := rfl
  finishReason := fun _ => rfl
  sample := ⟨_, rfl, rfl⟩

theorem lastReported_concat (chunks : List (Chunk F)) (chunk : Chunk F) :
    lastReported (chunks ++ [chunk]) = (Chunk.reported chunk).getD (lastReported chunks) := by
  rw [lastReported, List.filterMap_append]
  cases isReported : Chunk.reported chunk with
  | none =>
      rw [List.filterMap_cons_none isReported, List.filterMap_nil, List.append_nil]
      rfl
  | some versions =>
      rw [List.filterMap_cons_some isReported, List.filterMap_nil, List.getLast?_append]
      rfl

theorem chunkTokens_concat (chunks : List (Chunk F)) (chunk : Chunk F) :
    chunkTokens (chunks ++ [chunk]) = chunkTokens chunks ++ chunk.2.tokens := by
  rw [chunkTokens, List.flatMap_append, List.flatMap_singleton]
  rfl

theorem chunkLogProbs_concat (chunks : List (Chunk F)) (chunk : Chunk F) :
    chunkLogProbs (chunks ++ [chunk]) = chunkLogProbs chunks ++ chunk.2.content := by
  rw [chunkLogProbs, List.flatMap_append, List.flatMap_singleton]
  rfl

theorem chunkRows_concat (chunks : List (Chunk F)) (chunk : Chunk F) :
    chunkRows (chunks ++ [chunk]) = chunkRows chunks ++ chunk.2.rows := by
  rw [chunkRows, List.flatMap_append, List.flatMap_singleton]
  rfl

/-- A chunk extends the response. -/
theorem Streamed.chunk {chunks : List (Chunk F)} {progress : Progress F}
    (streamed : Streamed decode base chunks progress) (allowed : MaskAllowed args base)
    {masked : Bool} {reply : VllmOutput F} {choice : Choice F} (delivers : choice.Delivers masked)
    (fits : choice.rows.flatten.length < 2 ^ 31)
    (ready : choice.rows ≠ [] → ∃ replay, addReplay base choice.rows = .ok replay)
    (metrics : Option SpeculativeStats) :
    ∃ next, applyChoice args decode base reply choice metrics progress = .ok next ∧
      Streamed decode base (chunks ++ [(reply, choice)]) next := by
  rcases streamed.sample with ⟨replay, isReplay, isSample⟩
  have generated : inferenceGenerateTokensAndLogprobs choice =
      .ok (choice.tokens, choice.content) :=
    tokensAndLogprobs_eq_ok.mpr ⟨delivers.content, rfl⟩
  have before : replayAfter base (chunkRows chunks) =
      .ok (progress.sample.rolloutTopPTokenIds, progress.sample.rolloutTopPTokenOffsets) := by
    rw [isReplay, isSample]
    split
    · rename_i isNil
      rw [isNil] at isReplay
      exact isReplay.symm.trans rfl
    · rfl
  have versions : (if choice.weightVersions.isSome ∨ reply.weightVersion.isSome then
      reportedVersions choice reply.weightVersion else progress.weightVersions) =
      lastReported (chunks ++ [(reply, choice)]) := by
    rw [lastReported_concat, streamed.weightVersions, Chunk.reported]
    dsimp only
    split
    · rfl
    · rfl
  have noMask : base.lossMask = none → (surface decode base (chunkTokens chunks ++ choice.tokens)
      (chunkLogProbs chunks ++ choice.content) (lastReported (chunks ++ [(reply, choice)]))
      progress.sample).lossMask = none := by
    intro isNone
    rw [surface, isSample]
    split
    · exact isNone
    · rw [withResponse, isNone]
      rfl
  have masked := surfaceLossMask_eq_ok allowed (chunkTokens chunks ++ choice.tokens) _ noMask
  generalize isSurfaced : { surface decode base (chunkTokens chunks ++ choice.tokens)
      (chunkLogProbs chunks ++ choice.content) (lastReported (chunks ++ [(reply, choice)]))
      progress.sample with
    lossMask := base.lossMask.map fun mask =>
      mask ++ List.replicate (chunkTokens chunks ++ choice.tokens).length 1 } = surfaced
    at masked
  have sameReplay : replayAfter base (chunkRows chunks) =
      .ok (surfaced.rolloutTopPTokenIds, surfaced.rolloutTopPTokenOffsets) := by
    rw [before, ← isSurfaced]
    rfl
  rcases applyTopP_chunk reply.weightVersion reply.usage reply.speculativeDecoding delivers fits
    ready sameReplay with ⟨ids, offsets, applied, after⟩
  refine ⟨{
    sample := { surfaced with rolloutTopPTokenIds := ids, rolloutTopPTokenOffsets := offsets }
    callTokens := chunkTokens chunks ++ choice.tokens
    callLogProbs := chunkLogProbs chunks ++ choice.content
    lastChoice := some choice
    lastUsage := reply.usage.or progress.lastUsage
    weightVersions := lastReported (chunks ++ [(reply, choice)])
    responseMetrics := metrics
    finishReason :=
      if truthy choice.finishReason then choice.finishReason else progress.finishReason },
    ?_, ?_⟩
  · rw [applyChoice]
    simp only [generated, attempt_ok, ok_bind, streamed.callTokens, streamed.callLogProbs,
      versions, masked]
    rw [applyMetaInfo_eq rfl false applied]
    rfl
  · constructor
    · exact (chunkTokens_concat chunks (reply, choice)).symm
    · exact (chunkLogProbs_concat chunks (reply, choice)).symm
    · rfl
    · rw [List.getLast?_append]
      rfl
    · intro unfinished
      rw [List.dropLast_concat] at unfinished
      rw [List.getLast?_append]
      have earlier : truthy progress.finishReason = false := by
        rw [streamed.finishReason fun chunk member =>
          unfinished chunk (List.dropLast_subset chunks member)]
        cases isLast : chunks.getLast? with
        | none => rfl
        | some chunk => exact unfinished chunk (List.mem_of_getLast? isLast)
      cases finishes : truthy choice.finishReason with
      | true =>
          dsimp only
          rw [if_pos rfl]
          simp [finishes]
      | false =>
          dsimp only
          rw [if_neg Bool.false_ne_true, earlier]
          simp [finishes]
    · refine ⟨(ids, offsets), ?_, ?_⟩
      · rw [chunkRows_concat]
        exact after
      · have nonempty : chunks ++ [(reply, choice)] ≠ [] := by simp
        rw [if_neg nonempty, chunkTokens_concat, chunkLogProbs_concat, ← isSurfaced, surface,
          withResponse, isSample]
        by_cases isNil : chunks = []
        · rw [if_pos isNil]
        · rw [if_neg isNil, withResponse]
          by_cases noTokens : chunkTokens chunks ++ choice.tokens = []
          · have noneBefore := (List.append_eq_nil_iff.mp noTokens).1
            simp only [if_pos noTokens, if_pos noneBefore]
          · simp only [if_neg noTokens]

def choiceChunks : List (Delivery F) → List (Chunk F)
  | [] => []
  | ⟨.skipped, _⟩ :: rest => choiceChunks rest
  | ⟨.chunk reply, aborted⟩ :: rest =>
      match reply.choices with
      | [] => choiceChunks rest
      | choice :: _ => (reply, choice) :: if aborted then [] else choiceChunks rest

def stops : List (Delivery F) → Bool
  | [] => false
  | ⟨.skipped, _⟩ :: rest => stops rest
  | ⟨.chunk reply, aborted⟩ :: rest =>
      match reply.choices with
      | [] => stops rest
      | _ :: _ => if aborted then true else stops rest

/-- A stream of chunks that are accepted. -/
theorem readLines_streamed {masked : Bool} (allowed : MaskAllowed args base) :
    ∀ (deliveries : List (Delivery F)) {chunks : List (Chunk F)} {progress : Progress F},
      Streamed decode base chunks progress →
      (∀ chunk ∈ choiceChunks deliveries, chunk.2.Delivers masked ∧
        chunk.2.rows.flatten.length < 2 ^ 31 ∧
        (chunk.2.rows ≠ [] → ∃ replay, addReplay base chunk.2.rows = .ok replay)) →
      ∃ next, readLines args decode base deliveries progress = .ok (next, stops deliveries) ∧
        Streamed decode base (chunks ++ choiceChunks deliveries) next
  | [], chunks, progress => by
      intro streamed _
      rw [choiceChunks, List.append_nil]
      exact ⟨progress, rfl, streamed⟩
  | ⟨.skipped, _⟩ :: rest, chunks, progress => by
      intro streamed accepted
      exact readLines_streamed allowed rest streamed accepted
  | ⟨.chunk reply, aborted⟩ :: rest, chunks, progress => by
      intro streamed accepted
      rw [choiceChunks] at accepted ⊢
      rw [readLines, stops]
      cases isChoices : reply.choices with
      | nil =>
          rw [isChoices] at accepted
          apply readLines_streamed allowed rest _ accepted
          exact ⟨streamed.callTokens, streamed.callLogProbs, streamed.weightVersions,
            streamed.lastChoice, streamed.finishReason, streamed.sample⟩
      | cons choice others =>
          rw [isChoices] at accepted
          dsimp only at accepted ⊢
          rcases accepted (reply, choice) List.mem_cons_self with ⟨delivers, fits, ready⟩
          rcases streamed.chunk allowed delivers fits ready
            (reply.speculativeDecoding.or progress.responseMetrics) with ⟨next, applied, after⟩
          rw [applied, ok_bind]
          cases aborted with
          | true => exact ⟨next, rfl, after⟩
          | false =>
              rcases readLines_streamed allowed rest after fun chunk member =>
                accepted chunk (List.mem_cons_of_mem _ member) with ⟨last, isRead, final⟩
              refine ⟨last, isRead, ?_⟩
              rw [List.append_assoc] at final
              exact final

end Stream

/-! ## The one-shot reply -/

section OneShot

variable [SamplerValue F] {args : Args} {decode : List Int → String} {base : Sample F}

def appended (decode : List Int → String) (base : Sample F) (choice : Choice F)
    (replay : Option (List Int32) × Option (List Int32)) : Sample F :=
  { withResponse decode base choice.tokens choice.content [] replay with
    weightVersions := base.weightVersions
    lossMask :=
      if choice.tokens = [] then base.lossMask
      else some (base.lossMask.getD (List.replicate base.responseLength 1) ++
        List.replicate choice.tokens.length 1) }

/-- The tokens and log probabilities of a whole reply. -/
theorem addLogProbs_eq_ok {choice : Choice F} {info : MetaInfo F} {next : Sample F}
    (added : (base.addTokens
        { tokens := choice.tokens
          logProbs := some choice.content
          metaInfo := some info
          text := some (decodeText decode choice.tokens) }).addLogProbs true base.responseLength
        (some choice.content) = .ok next) :
    next = appended decode base choice
      (base.rolloutTopPTokenIds, base.rolloutTopPTokenOffsets) := by
  have sameLogProbs : (base.addTokens
      { tokens := choice.tokens
        logProbs := some choice.content
        metaInfo := some info
        text := some (decodeText decode choice.tokens) }).rolloutLogProbs =
      base.rolloutLogProbs := by
    rw [Sample.addTokens]
    split
    · rfl
    · rfl
  have withTokens : base.addTokens
      { tokens := choice.tokens
        logProbs := some choice.content
        metaInfo := some info
        text := some (decodeText decode choice.tokens) } =
      { appended decode base choice (base.rolloutTopPTokenIds, base.rolloutTopPTokenOffsets) with
        rolloutLogProbs := base.rolloutLogProbs } := by
    rw [Sample.addTokens, appended, withResponse]
    by_cases empty : choice.tokens = []
    · simp only [empty, if_true, List.append_nil, List.length_nil, Nat.add_zero,
        Option.getD_some]
    · simp only [if_neg empty, if_true, Option.getD_some]
  rw [Sample.addLogProbs.eq_def, sameLogProbs] at added
  cases held : base.rolloutLogProbs with
  | some entries =>
      rw [held] at added
      rw [← Except.ok.inj added, withTokens, appended, withResponse, held]
      rfl
  | none =>
      rw [held] at added
      dsimp only at added
      split at added
      · cases added
      · rename_i first
        have isFirst : base.responseLength = 0 := by
          by_contra later
          exact first ⟨rfl, later⟩
        rw [← Except.ok.inj added, withTokens, appended, withResponse, held, isFirst]
        rfl

theorem append_plain (uncentered : args.useScoreCentering = false) {choice : Choice F}
    {weightVersion : Option String} {usage : Option Usage} {stats : Option SpeculativeStats}
    {result : Sample F}
    (returned : base.appendResponseTokens (some args)
      { tokens := choice.tokens
        logProbs := some choice.content
        metaInfo := some (inferenceGenerateMetaInfo choice weightVersion usage stats)
        text := some (decodeText decode choice.tokens) } = .ok result) :
    LengthsAligned result ∧ choice.rows.flatten.length < 2 ^ 31 ∧
      ∃ replay, replayAfter base choice.rows = .ok replay ∧
        result = (appended decode base choice replay).applyTerminalInfo (some args)
          (inferenceGenerateMetaInfo choice weightVersion usage stats) choice.tokens.length
          true := by
  rcases append_uncentered uncentered rfl returned with ⟨scored, added, isFinal, aligned⟩
  have isAdded := addLogProbs_eq_ok added
  rw [isAdded, Option.getD_some] at isFinal
  have unpacked := isFinal
  rw [Sample.applyMetaInfo] at unpacked
  rcases bind_eq_ok.mp unpacked with ⟨replay, topP, _⟩
  rw [attempt_eq_ok] at topP
  rw [applyMetaInfo_eq rfl true topP] at isFinal
  rcases replay_of_applyTopP topP with ⟨isReplay, fits⟩
  refine ⟨aligned, fits, replay, isReplay, ?_⟩
  exact (Except.ok.inj isFinal).symm

theorem append_terminal {sample : Sample F} (aligned : LengthsAligned sample)
    {info : MetaInfo F} (noExperts : info.routedExperts = .ok none) :
    sample.appendResponseTokens (some args) { tokens := [], metaInfo := some info } =
      .ok (sample.applyTerminalInfo (some args) info 0 true) := by
  have checked : checkedLogProbs ({ tokens := [], metaInfo := some info } : AppendCall F) =
      .ok none := by
    simp [checkedLogProbs, raiseIf]
  have unchanged : sample.addTokens { tokens := [], metaInfo := some info } = sample := by
    rw [Sample.addTokens, if_pos rfl]
    simp
  have applied : sample.applyMetaInfo (some args) info 0 false true =
      .ok (sample.applyTerminalInfo (some args) info 0 true) :=
    applyMetaInfo_eq noExperts true (applyTopP_idle info)
  have isAligned : (sample.applyTerminalInfo (some args) info 0
      true).validateResponseMetadataLengths = .ok () :=
    validate_eq_ok.mpr ((applyTerminalInfo_aligned (some args) info 0 true sample).mpr aligned)
  have withInfo : sample.applyCallMetaInfo (some args)
      { tokens := [], metaInfo := some info } =
      .ok (sample.applyTerminalInfo (some args) info 0 true) := by
    rw [applyCallMetaInfo_eq, Sample.remainingMetaInfo, if_neg (by simp), Option.getD_some]
    exact applied
  rw [append_idle rfl checked, Sample.finishAppend, unchanged, Sample.addLogProbs.eq_def, ok_bind,
    withInfo, ok_bind, isAligned]
  rfl

end OneShot

/-! ## Agreement -/

def effectiveMask (sample : Sample F) : List Int :=
  sample.lossMask.getD (List.replicate sample.responseLength 1)

/-- The data of the response is the same. -/
structure Agrees (sample other : Sample F) : Prop where
  tokens : sample.tokens = other.tokens
  response : sample.response = other.response
  responseLength : sample.responseLength = other.responseLength
  rolloutLogProbs : sample.rolloutLogProbs = other.rolloutLogProbs
  rolloutTopPTokenIds : sample.rolloutTopPTokenIds = other.rolloutTopPTokenIds
  rolloutTopPTokenOffsets : sample.rolloutTopPTokenOffsets = other.rolloutTopPTokenOffsets
  weightVersions : sample.weightVersions = other.weightVersions
  status : sample.status = other.status
  lossMask : effectiveMask sample = effectiveMask other

def terminalReason (deliveries : List (Delivery F)) : Ending → Option String
  | .cancelled => some "abort"
  | .closed aborted =>
      let last := (choiceChunks deliveries).getLast?.bind fun chunk => chunk.2.finishReason
      if truthy last then last
      else if stops deliveries || aborted then some "abort" else none

/-- The stream delivers the choice of a reply. -/
structure DeliversReply (output : VllmOutput F) (choice : Choice F) (deliveries : List (Delivery F))
    (ending : Ending) : Prop where
  nonempty : choiceChunks deliveries ≠ []
  tokens : chunkTokens (choiceChunks deliveries) = choice.tokens
  content : chunkLogProbs (choiceChunks deliveries) = choice.content
  rows : chunkRows (choiceChunks deliveries) = choice.rows
  delivers : ∀ chunk ∈ choiceChunks deliveries, chunk.2.Delivers choice.samplingMask.isSome
  versions : lastReported (choiceChunks deliveries) = reportedVersions choice output.weightVersion
  unfinished : ∀ chunk ∈ (choiceChunks deliveries).dropLast,
    truthy chunk.2.finishReason = false
  finishes : choice.finishReason.isSome = true
  finishReason : terminalReason deliveries ending = choice.finishReason

section Agreement

variable [SamplerValue F] {args : GenerateArgs} {decode : List Int → String} {base : Sample F}

theorem finishStatus_finishType (finishReason : Option String) :
    ∃ status, Sample.finishStatus (finishType finishReason) = some status := by
  rw [finishType.eq_def]
  split
  · exact ⟨.truncated, rfl⟩
  · exact ⟨.aborted, rfl⟩
  · exact ⟨.aborted, rfl⟩
  · exact ⟨.completed, rfl⟩

theorem finishStream_streamed {deliveries : List (Delivery F)} {aborted : Bool}
    {progress : Progress F} (streamed : Streamed decode base (choiceChunks deliveries) progress)
    (nonempty : choiceChunks deliveries ≠ [])
    (unfinished : ∀ chunk ∈ (choiceChunks deliveries).dropLast,
      truthy chunk.2.finishReason = false)
    (aligned : LengthsAligned progress.sample) {reason : String}
    (isReason : terminalReason deliveries (.closed aborted) = some reason) :
    ∃ spec prefixCache, finishStream args (stops deliveries || aborted) progress =
      .ok { progress.sample with
        specInfo := spec
        prefixCacheInfo := prefixCache
        status := (Sample.finishStatus (finishType (some reason))).getD progress.sample.status } := by
  have isLast : ∃ chunk, (choiceChunks deliveries).getLast? = some chunk :=
    ⟨_, List.getLast?_eq_some_getLast nonempty⟩
  rcases isLast with ⟨chunk, isLast⟩
  have finishes := streamed.finishReason unfinished
  rw [isLast, Option.map_some, Option.getD_some] at finishes
  rw [terminalReason, isLast, Option.bind_some] at isReason
  rw [finishStream, streamed.lastChoice, isLast, Option.map_some, finishes]
  dsimp only
  by_cases ended : truthy chunk.2.finishReason = true
  · rw [if_pos ended] at isReason ⊢
    rw [append_terminal aligned rfl, Sample.applyTerminalInfo]
    dsimp only [inferenceGenerateMetaInfo]
    rw [if_pos rfl, isReason]
    exact ⟨_, _, rfl⟩
  · rw [if_neg ended] at isReason ⊢
    split at isReason
    · rename_i stopped
      rw [if_pos stopped, ← Option.some.inj isReason]
      exact ⟨_, _, rfl⟩
    · cases isReason

omit [SamplerValue F] in
theorem streamed_response {output : VllmOutput F} {choice : Choice F}
    {deliveries : List (Delivery F)} {ending : Ending}
    (delivers : DeliversReply output choice deliveries ending) {progress : Progress F}
    (streamed : Streamed decode base (choiceChunks deliveries) progress)
    {replay : Option (List Int32) × Option (List Int32)}
    (isReplay : replayAfter base choice.rows = .ok replay) :
    progress.sample = withResponse decode base choice.tokens choice.content
      (reportedVersions choice output.weightVersion) replay := by
  rcases streamed.sample with ⟨other, isOther, isSample⟩
  rw [delivers.rows, isReplay] at isOther
  rw [isSample, if_neg delivers.nonempty, delivers.tokens, delivers.content, delivers.versions,
    Except.ok.inj isOther]

omit [SamplerValue F] in
theorem effectiveMask_appended (choice : Choice F) (versions : List String)
    (replay : Option (List Int32) × Option (List Int32)) :
    effectiveMask (withResponse decode base choice.tokens choice.content versions replay) =
      effectiveMask (appended decode base choice replay) := by
  rw [effectiveMask, effectiveMask, appended, withResponse, withResponse]
  dsimp only
  by_cases empty : choice.tokens = []
  · rw [if_pos empty, empty]
    cases base.lossMask with
    | none => rfl
    | some mask => simp
  · rw [if_neg empty]
    cases base.lossMask with
    | none => simp [List.replicate_append_replicate]
    | some mask => rfl

omit [SamplerValue F] in
theorem streamed_aligned {choice : Choice F} {versions : List String}
    {replay : Option (List Int32) × Option (List Int32)}
    (aligned : LengthsAligned (appended decode base choice replay)) :
    LengthsAligned
      (withResponse decode base choice.tokens choice.content versions replay) where
  topkIds := aligned.topkIds
  topkLogps := aligned.topkLogps
  lossMask := by
    intro held isHeld
    rcases Option.map_eq_some_iff.mp isHeld with ⟨mask, isMask, rfl⟩
    have same : ∀ whole ∈ (appended decode base choice replay).lossMask,
        whole.length = (mask ++ List.replicate choice.tokens.length 1).length := by
      intro whole isWhole
      rw [appended, withResponse] at isWhole
      dsimp only at isWhole
      split at isWhole
      · rename_i empty
        rw [isMask] at isWhole
        rw [← Option.some.inj isWhole, empty, List.length_nil, List.replicate_zero,
          List.append_nil]
      · rw [isMask, Option.getD_some] at isWhole
        rw [← Option.some.inj isWhole]
    have present : ∃ whole, (appended decode base choice replay).lossMask = some whole := by
      rw [appended, withResponse]
      dsimp only
      split
      · exact ⟨mask, isMask⟩
      · exact ⟨_, rfl⟩
    rcases present with ⟨whole, isWhole⟩
    rw [← same whole isWhole]
    exact aligned.lossMask whole isWhole
  logProbs := aligned.logProbs
  topP := aligned.topP

omit [SamplerValue F] in
theorem chunks_accepted {output : VllmOutput F} {choice : Choice F}
    {deliveries : List (Delivery F)} {ending : Ending}
    (delivers : DeliversReply output choice deliveries ending)
    (fits : choice.rows.flatten.length < 2 ^ 31)
    {replay : Option (List Int32) × Option (List Int32)}
    (isReplay : replayAfter base choice.rows = .ok replay) :
    ∀ chunk ∈ choiceChunks deliveries,
      chunk.2.Delivers choice.samplingMask.isSome ∧ chunk.2.rows.flatten.length < 2 ^ 31 ∧
        (chunk.2.rows ≠ [] → ∃ replay, addReplay base chunk.2.rows = .ok replay) := by
  intro chunk member
  have part : List.Sublist chunk.2.rows choice.rows := by
    rw [← delivers.rows, chunkRows, List.flatMap_def]
    exact List.sublist_flatten_of_mem (List.mem_map_of_mem member)
  refine ⟨delivers.delivers chunk member, ?_, ?_⟩
  · have entries : List.Sublist chunk.2.rows.flatten choice.rows.flatten := by
      rw [← delivers.rows, chunkRows, List.flatMap_def, List.flatten_flatten, List.map_map]
      exact List.sublist_flatten_of_mem (List.mem_map_of_mem member)
    exact Nat.lt_of_le_of_lt entries.length_le fits
  · intro some
    have nonempty : choice.rows ≠ [] := by
      intro empty
      rw [empty] at part
      exact some (List.sublist_nil.mp part)
    rw [replayAfter, if_neg nonempty] at isReplay
    exact addReplay_isOk isReplay chunk.2.rows

/-- A stream that delivers a reply leaves the sample of the reply. -/
theorem readStream_agrees (uncentered : args.sampling.useScoreCentering = false)
    (allowed : MaskAllowed args base) {output : VllmOutput F} {choice : Choice F}
    (isChoice : output.choices.head? = some choice) {deliveries : List (Delivery F)}
    {ending : Ending} (delivers : DeliversReply output choice deliveries ending)
    {result : Sample F} (generated : appendReply args decode output base = .ok result) :
    ∃ streamed, readStream args decode deliveries ending base = .ok streamed ∧
      Agrees streamed result := by
  have isFirst : itemAt output.choices 0 = .ok choice := by
    rw [itemAt_eq_ok, ← List.head?_eq_getElem?, isChoice]
  rw [appendReply, isFirst, attempt_ok, ok_bind] at generated
  rcases bind_eq_ok.mp generated with ⟨data, isData, returned⟩
  rcases tokensAndLogprobs_eq_ok.mp (attempt_eq_ok.mp isData) with ⟨_, rfl⟩
  rcases append_plain uncentered returned with ⟨aligned, fits, replay, isReplay, rfl⟩
  have start : Streamed decode base [] { sample := base } := Streamed.start
  rcases readLines_streamed allowed deliveries start (chunks_accepted delivers fits isReplay)
    with ⟨progress, isRead, streamed⟩
  rw [List.nil_append] at streamed
  have isSample := streamed_response delivers streamed isReplay
  have isAligned : LengthsAligned progress.sample := by
    rw [isSample]
    exact streamed_aligned ((applyTerminalInfo_aligned _ _ _ _ _).mp aligned)
  rcases Option.isSome_iff_exists.mp delivers.finishes with ⟨reason, isReason⟩
  have sameReason := delivers.finishReason.trans isReason
  rcases finishStatus_finishType (some reason) with ⟨status, isStatus⟩
  have ended : ∃ spec prefixCache, readStream args decode deliveries ending base =
      .ok { progress.sample with
        specInfo := spec
        prefixCacheInfo := prefixCache
        status := status } := by
    rw [readStream, isRead, ok_bind]
    cases ending with
    | closed aborted =>
        rcases finishStream_streamed streamed delivers.nonempty delivers.unfinished isAligned
          sameReason with ⟨spec, prefixCache, isFinal⟩
        rw [isStatus] at isFinal
        exact ⟨spec, prefixCache, isFinal⟩
    | cancelled =>
        rw [← Option.some.inj sameReason] at isStatus
        rw [← Option.some.inj isStatus]
        exact ⟨_, _, rfl⟩
  rcases ended with ⟨spec, prefixCache, isFinal⟩
  refine ⟨_, isFinal, ?_⟩
  rw [isSample, Sample.applyTerminalInfo, inferenceGenerateMetaInfo]
  dsimp only
  rw [if_pos rfl, isReason, isStatus]
  constructor
  · rfl
  · rfl
  · rfl
  · rfl
  · rfl
  · rfl
  · rw [withResponse]
    by_cases empty : choice.tokens = []
    · have none : ¬ choice.tokens.length > 0 := by
        rw [empty]
        exact Nat.lt_irrefl 0
      dsimp only
      rw [if_pos empty, if_neg none]
      rfl
    · dsimp only
      rw [if_neg empty, if_pos (List.length_pos_iff.mpr empty)]
      rfl
  · rfl
  · have sameMask : effectiveMask (withResponse decode base choice.tokens choice.content
        (reportedVersions choice output.weightVersion) replay) =
        effectiveMask (appended decode base choice replay) :=
      effectiveMask_appended choice _ replay
    exact sameMask

end Agreement

/-! ## Streaming and one-shot generation -/

/-- Streaming agrees with the one-shot reply that it delivers, or that stops where the stream
is cut, for every sample that has no loss mask, or one under off-policy masking. -/
theorem streaming_agrees [SamplerValue F] (args : GenerateArgs)
    (uncentered : args.sampling.useScoreCentering = false) (decode : List Int → String)
    (promptIds : List Int) (maxNewTokens : Int) {output : VllmOutput F} {choice : Choice F}
    (isChoice : output.choices.head? = some choice) {deliveries : List (Delivery F)}
    {ending : Ending} (delivers : DeliversReply output choice deliveries ending)
    {sample : Sample F} (allowed : MaskAllowed args sample) {result : Sample F}
    (generated : generate args decode promptIds maxNewTokens output sample = .ok result) :
    ∃ streamed,
      generateStreaming args decode promptIds maxNewTokens deliveries ending sample =
        .ok streamed ∧ Agrees streamed result := by
  rw [generate] at generated
  rcases bind_eq_ok.mp generated with ⟨started, isStarted, returned⟩
  have noCentering : raiseIf (args.sampling.useScoreCentering = true)
      (.valueError "Score centering does not support streaming rollout.") = .ok () := by
    rw [raiseIf_eq_ok, uncentered]
    exact Bool.false_ne_true
  rw [generateStreaming, noCentering, attempt_ok, ok_bind, isStarted, ok_bind]
  cases started with
  | none =>
      rw [← Except.ok.inj returned]
      exact ⟨_, rfl, ⟨rfl, rfl, rfl, rfl, rfl, rfl, rfl, rfl, rfl⟩⟩
  | some base =>
      have sameMask : base.lossMask = sample.lossMask := by
        rw [attempt_eq_ok, startRequest, check_bind_eq_ok, check_bind_eq_ok] at isStarted
        have isBase := Except.ok.inj isStarted.2.2
        split at isBase
        · cases isBase
        · rw [← Option.some.inj isBase]
      have allowedBase : MaskAllowed args base := by
        rw [MaskAllowed, sameMask]
        exact allowed
      exact readStream_agrees uncentered allowedBase isChoice delivers returned

/-! ## Interrupted samples -/

def partialArgs : GenerateArgs where
  sampling := { scoreCenteringTopK := 1, numLayers := 1, moeRouterTopk := 1 }
  partialRollout := true
  maskOffpolicyInPartialRollout := false

def digits (tokens : List Int) : String := String.join (tokens.map toString)

def cutReply : VllmOutput Hundredths where
  choices := [{
    tokenIds := some [5], logprobs := some [(5, ⟨-10⟩)], finishReason := some "abort" }]
  weightVersion := some "1"

def longChoice : Choice Hundredths where
  tokenIds := some [6, 7]
  logprobs := some [(6, ⟨-20⟩), (7, ⟨-30⟩)]
  finishReason := some "length"

def longReply : VllmOutput Hundredths := { choices := [longChoice], weightVersion := some "2" }

def tokenByToken : List (Delivery Hundredths) :=
  [{ line := .skipped },
    { line := .chunk {
        choices := [{ tokenIds := some [6], logprobs := some [(6, ⟨-20⟩)] }]
        weightVersion := some "2" } },
    { line := .chunk { choices := [], usage := some ⟨1, 1, 0⟩ } },
    { line := .chunk { choices := [{ tokenIds := some [] }] } },
    { line := .chunk { choices := [{
        tokenIds := some [7], logprobs := some [(7, ⟨-30⟩)], finishReason := some "length" }] } }]

theorem tokenByToken_delivers :
    DeliversReply longReply longChoice tokenByToken (.closed false) where
  nonempty := by simp [choiceChunks, tokenByToken]
  tokens := rfl
  content := rfl
  rows := rfl
  delivers := by
    intro chunk member
    simp only [choiceChunks, tokenByToken, Bool.false_eq_true, if_false, List.mem_cons,
      List.not_mem_nil, or_false] at member
    rcases member with rfl | rfl | rfl
    · exact ⟨rfl, fun _ => rfl⟩
    · exact ⟨rfl, fun _ => rfl⟩
    · exact ⟨rfl, fun _ => rfl⟩
  versions := rfl
  unfinished := by decide
  finishes := rfl
  finishReason := rfl

def streamedPart : Sample Hundredths where
  tokens := [1, 5]
  response := "5"
  responseLength := 1
  weightVersions := ["1"]
  rolloutLogProbs := some [⟨-10⟩]
  status := .aborted

theorem streaming_agrees_streamedPart :
    (∃ result, generate partialArgs digits [1] 8 longReply streamedPart = .ok result ∧
      ∃ streamed, generateStreaming partialArgs digits [1] 8 tokenByToken (.closed false)
        streamedPart = .ok streamed ∧ Agrees streamed result) ∧
      streamedPart.status = .aborted := by
  have returned : ∃ result,
      generate partialArgs digits [1] 8 longReply streamedPart = .ok result := ⟨_, rfl⟩
  rcases returned with ⟨result, isResult⟩
  refine ⟨⟨result, isResult, ?_⟩, rfl⟩
  exact streaming_agrees partialArgs rfl digits [1] 8 rfl tokenByToken_delivers (.inl rfl) isResult

/-- The one-shot reply leaves a loss mask, which a stream does not accept. -/
theorem cutReply_rejects_stream :
    ∃ interrupted result,
      generate partialArgs digits [1] 8 cutReply { tokens := [] } = .ok interrupted ∧
        interrupted.status = .aborted ∧
        generate partialArgs digits [1] 8 longReply interrupted = .ok result ∧
        DeliversReply longReply longChoice tokenByToken (.closed false) ∧
        ∃ sample, generateStreaming partialArgs digits [1] 8 tokenByToken (.closed false)
          interrupted = .error ⟨.assertionError
            "args.partial_rollout and args.mask_offpolicy_in_partial_rollout", sample⟩ :=
  ⟨_, _, rfl, rfl, rfl, tokenByToken_delivers, _, rfl⟩

end Streaming

end Vime.Rollout
