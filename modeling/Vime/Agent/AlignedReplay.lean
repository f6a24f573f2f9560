import Vime.Agent.Emission
import Vime.Agent.PlacedReplay

/-! # Replay data of emitted samples

Every emitted sample carries for each response token the sampler distribution
that was recorded when the token was sampled.
-/

namespace Vime.Agent

open Vime.Foundation Vime.Utils

variable {Message F Sid Prompt : Type} [LogProbValue F]

/-! ## Emission -/

omit [LogProbValue F] in
theorem emittedReplay_cases {replay result : Replay F} {count tokenCount : Nat}
    (emitted : SampleBuilder.emittedReplay replay count tokenCount = .ok result) :
    result.topkTokenIds = replay.topkTokenIds.map
        (fun rows => { rows with rows := rows.rows.take count }) ∧
      result.topkLogProbs = replay.topkLogProbs.map
        (fun rows => { rows with rows := rows.rows.take count }) ∧
      result.routedExperts = replay.routedExperts.map (List.take (tokenCount - 1) ·) ∧
      (replay.topPTokenOffsets = none ∧ result.topPTokenOffsets = none ∧
          result.topPTokenIds = none ∧ result.topPLogProbs = none ∨
        ∃ offsets ids last, replay.topPTokenOffsets = some offsets ∧
          replay.topPTokenIds = some ids ∧
          (offsets.take (count + 1)).getLast? = some last ∧
          result.topPTokenOffsets = some (offsets.take (count + 1)) ∧
          result.topPTokenIds = some (sliceTo ids last) ∧
          result.topPLogProbs = replay.topPLogProbs.map (sliceTo · last)) := by
  have isCut {α : Type} (values : List α) : sliceTo values ((count : Int) + 1) =
      values.take (count + 1) := sliceTo_natCast values (count + 1)
  rw [SampleBuilder.emittedReplay] at emitted
  simp only [sliceTo_natCast, isCut] at emitted
  cases present : replay.topPTokenOffsets with
  | none =>
      rw [present] at emitted
      rw [← Except.ok.inj emitted]
      exact ⟨rfl, rfl, rfl, .inl ⟨rfl, rfl, rfl, rfl⟩⟩
  | some offsets =>
      rw [present] at emitted
      rcases bind_eq_ok.mp emitted with ⟨last, lastEq, more⟩
      cases isIds : replay.topPTokenIds with
      | none =>
          rw [isIds] at more
          cases more
      | some ids =>
          rw [isIds] at more
          rw [← Except.ok.inj more]
          exact ⟨rfl, rfl, rfl, .inr ⟨offsets, ids, last, rfl, rfl, lastItem_eq_ok.mp lastEq, rfl,
            rfl, rfl⟩⟩

/-- A column that holds for each response token of a run what its turn recorded,
and `padding` between responses. -/
abbrev HoldsRecords {α : Type} (record : Replay F → List α) (padding : α) (start count : Nat)
    (run : List (FlaggedTurn F)) (column : List α) : Prop :=
  FillsBlocks FlaggedTurn.first FlaggedTurn.count (fun flagged => record flagged.replay)
    padding start count run column

/-- Replay data for `count` tokens from position `start` on: it has the keys of the
turns of the run, nucleus data under offsets only, and the data at each position is that of the
token held there. -/
structure AlignedReplay (start count : Nat) (run : List (FlaggedTurn F))
    (replay : Replay F) : Prop where
  keys : ∀ flagged ∈ run,
    replay.topPTokenOffsets.isSome = flagged.replay.topPTokenOffsets.isSome ∧
      replay.topPTokenIds.isSome = flagged.replay.topPTokenOffsets.isSome ∧
      replay.topPLogProbs.isSome =
        (flagged.replay.topPTokenOffsets.isSome && flagged.replay.topPLogProbs.isSome) ∧
      replay.topkTokenIds.isSome = flagged.replay.topkTokenIds.isSome ∧
      replay.topkLogProbs.isSome = flagged.replay.topkLogProbs.isSome
  topP : ∀ offsets, replay.topPTokenOffsets = some offsets →
    ∃ ids, replay.topPTokenIds = some ids ∧ offsets.length = count + 1 ∧
      offsets.head? = some 0 ∧ offsets.IsChain (· ≤ ·) ∧
      offsets.getLast? = some (ids.length : Int) ∧
      HoldsRecords Replay.nucleusIds [] start count run (spansAt ids offsets)
  topPLogProbs : ∀ offsets logProbs, replay.topPTokenOffsets = some offsets →
    replay.topPLogProbs = some logProbs →
    offsets.getLast? = some (logProbs.length : Int) ∧
      HoldsRecords Replay.nucleusLogProbs [] start count run (spansAt logProbs offsets)
  topk : ∀ rows, replay.topkTokenIds = some rows →
    HoldsRecords Replay.topkIdRows (dummyIds rows.width) start count run rows.rows
  topkLogProbs : ∀ ids rows, replay.topkTokenIds = some ids →
    replay.topkLogProbs = some rows →
    HoldsRecords Replay.topkLogProbRows (dummyLogProbs ids.width) start count run rows.rows

/-! ### Cutting placed spans -/

theorem take_intOffsets {α : Type} (spans : List (List α)) (count : Nat) :
    (intOffsets spans).take (count + 1) = intOffsets (spans.take count) := by
  rw [intOffsets, ← List.map_take, take_offsetsFrom, intOffsets]

theorem spansAt_intOffsets {α : Type} (spans : List (List α)) :
    spansAt spans.flatten (intOffsets spans) = spans := by
  have whole := cutSpans_offsetsFrom [] [] spans
  rw [List.nil_append, List.append_nil, List.length_nil] at whole
  rw [spansAt, toNat_intOffsets, whole]

theorem sliceTo_flatten {α : Type} (spans : List (List α)) (count : Nat) :
    sliceTo spans.flatten ((spans.take count).flatten.length : Int) =
      (spans.take count).flatten := by
  rw [sliceTo_natCast, take_flatten_length]

theorem wellFormed_intOffsets {α : Type} (spans : List (List α)) :
    (intOffsets spans).length = spans.length + 1 ∧ (intOffsets spans).head? = some 0 ∧
      (intOffsets spans).IsChain (· ≤ ·) := by
  refine ⟨?_, ?_, ?_⟩
  · rw [intOffsets, List.length_map, length_offsetsFrom]
  · rw [intOffsets, List.head?_map, head?_offsetsFrom]
    rfl
  · exact List.isChain_map_of_isChain _ (fun _ _ below => Int.ofNat_le.mpr below)
      (isChain_offsetsFrom 0 spans)

/-- What is emitted of held replay data is aligned with the response. -/
theorem HoldsReplay.emitted {start count tokenCount : Nat} {run : List (FlaggedTurn F)}
    {held result : Replay F} (holds : HoldsReplay start run held)
    (fits : ∀ flagged ∈ run, flagged.replay.Fits flagged.count)
    (shapes : ∀ flagged ∈ run, Replay.SameShape held flagged.replay)
    (inside : start + count ≤ placedEnd FlaggedTurn.first FlaggedTurn.count start run)
    (emitted : SampleBuilder.emittedReplay held count tokenCount = .ok result) :
    AlignedReplay start count run result := by
  rcases emittedReplay_cases emitted with ⟨topkIds, topkLogProbs, _, topP⟩
  have sameKeys (flagged : FlaggedTurn F) (member : flagged ∈ run) :=
    Replay.keys_eq_iff.mp (shapes flagged member).keys
  have carried {α : Type} {value : Option α} {own : Option α} {kept : α}
      (same : value.isSome = own.isSome) (present : value = some kept) : ∃ item, own = some item := by
    rw [present, Option.isSome_some] at same
    exact Option.isSome_iff_exists.mp same.symm
  constructor
  · intro flagged member
    have same := sameKeys flagged member
    rw [topkIds, topkLogProbs, Option.isSome_map, Option.isSome_map, ← same.2.1, ← same.2.2.1]
    rcases topP with ⟨absent, noOffsets, noIds, noLogProbs⟩ |
      ⟨_, _, _, present, _, _, isOffsets, isIds, isLogProbs⟩
    · rw [absent, noOffsets, noIds, noLogProbs]
      exact ⟨rfl, rfl, rfl, same.2.2.2.1, same.2.2.2.2.1⟩
    · rw [present, isOffsets, isIds, isLogProbs, Option.isSome_map]
      exact ⟨rfl, rfl, rfl, same.2.2.2.1, same.2.2.2.2.1⟩
  · intro offsets isOffsets
    rcases topP with ⟨_, isAbsent, _⟩ | ⟨whole, ids, last, present, isIds, isLast, isCut, cutIds, _⟩
    · rw [isAbsent] at isOffsets
      cases isOffsets
    · have own := holds.topP whole present
      rw [isCut, Option.some.injEq] at isOffsets
      rw [own.2, Option.some.injEq] at isIds
      rw [own.1, take_intOffsets] at isOffsets isLast
      rw [getLast?_intOffsets, Option.some.injEq] at isLast
      rw [← isIds, ← isLast, sliceTo_flatten] at cutIds
      have fitted : ∀ flagged ∈ run, (flagged.replay.nucleusIds).length = flagged.count := by
        intro flagged member
        rcases carried (sameKeys flagged member).2.1 present with ⟨offsets, isOwn⟩
        exact ((fits flagged member).nucleusIds isOwn).2.2
      have column : HoldsRecords Replay.nucleusIds [] start count run _ :=
        fillsBlocks_take holds.placed fitted inside
      have wellFormed := wellFormed_intOffsets
        ((placedReplay Replay.nucleusIds [] start run).take count)
      refine ⟨_, cutIds, ?_⟩
      rw [← isOffsets, spansAt_intOffsets, getLast?_intOffsets]
      refine ⟨?_, wellFormed.2.1, wellFormed.2.2, rfl, column⟩
      rw [wellFormed.1]
      exact congrArg (· + 1) column.count_eq
  · intro offsets logProbs isOffsets isLogProbs
    rcases topP with ⟨_, isAbsent, _⟩ | ⟨whole, ids, last, present, isIds, isLast, isCut, _, cutLogs⟩
    · rw [isAbsent] at isOffsets
      cases isOffsets
    · rw [cutLogs, Option.map_eq_some_iff] at isLogProbs
      rcases isLogProbs with ⟨wholeLogProbs, isWhole, isSlice⟩
      have own := holds.topPLogProbs whole wholeLogProbs present isWhole
      rw [isCut, Option.some.injEq] at isOffsets
      rw [own.1, take_intOffsets] at isOffsets isLast
      rw [getLast?_intOffsets, Option.some.injEq] at isLast
      rw [own.2, ← isLast, sliceTo_flatten] at isSlice
      have fitted : ∀ flagged ∈ run,
          (flagged.replay.nucleusLogProbs).length = flagged.count := by
        intro flagged member
        rcases carried (sameKeys flagged member).2.1 present with ⟨offsets, isOwn⟩
        rcases carried (sameKeys flagged member).2.2.1 isWhole with ⟨logs, isOwnLogs⟩
        exact ((fits flagged member).nucleusLogProbs isOwn isOwnLogs).2.2
      rw [← isOffsets, ← isSlice, spansAt_intOffsets, getLast?_intOffsets]
      exact ⟨rfl, fillsBlocks_take holds.placed fitted inside⟩
  · intro rows isRows
    rw [topkIds, Option.map_eq_some_iff] at isRows
    rcases isRows with ⟨whole, present, rfl⟩
    have fitted : ∀ flagged ∈ run, (flagged.replay.topkIdRows).length = flagged.count := by
      intro flagged member
      apply (fits flagged member).topkIdRows
      rw [← (sameKeys flagged member).2.2.2.1, present]
      rfl
    dsimp only
    rw [holds.topk whole present]
    exact fillsBlocks_take holds.placed fitted inside
  · intro ids rows isIds isRows
    rw [topkIds, Option.map_eq_some_iff] at isIds
    rw [topkLogProbs, Option.map_eq_some_iff] at isRows
    rcases isIds with ⟨wholeIds, presentIds, rfl⟩
    rcases isRows with ⟨whole, present, rfl⟩
    have fitted : ∀ flagged ∈ run,
        (flagged.replay.topkLogProbRows).length = flagged.count := by
      intro flagged member
      apply (fits flagged member).topkLogProbRows
      rw [← (sameKeys flagged member).2.2.2.2.1, present]
      rfl
    dsimp only
    rw [holds.topkLogProbs wholeIds whole presentIds present]
    exact fillsBlocks_take holds.placed fitted inside

/-- Without replay data there is nothing to align. -/
theorem alignedReplay_empty {start count : Nat} {run : List (FlaggedTurn F)}
    {held result : Replay F} (shapes : ∀ flagged ∈ run, Replay.SameShape held flagged.replay)
    (empty : held.nonempty = false) (noOffsets : result.topPTokenOffsets = none)
    (noNucleus : result.topPTokenIds = none ∧ result.topPLogProbs = none)
    (noIds : result.topkTokenIds = none) (noLogProbs : result.topkLogProbs = none) :
    AlignedReplay start count run result := by
  have absent := Replay.keys_of_not_nonempty empty
  constructor
  · intro flagged member
    have same := Replay.keys_eq_iff.mp (shapes flagged member).keys
    rw [← same.2.1, ← same.2.2.2.1, ← same.2.2.2.2.1, absent.1, absent.2.1, absent.2.2.1,
      noOffsets, noNucleus.1, noNucleus.2, noIds, noLogProbs]
    exact ⟨rfl, rfl, rfl, rfl, rfl⟩
  · intro offsets present
    rw [noOffsets] at present
    cases present
  · intro offsets _ present
    rw [noOffsets] at present
    cases present
  · intro rows present
    rw [noIds] at present
    cases present
  · intro ids _ present
    rw [noIds] at present
    cases present

/-- The sample of a run: where replay data was recorded, the sample holds every
response within its tokens, its replay data is aligned with the response, and its routed experts
are those of the run's only turn, without a row for the last token. -/
structure ReplaysRun (run : List (FlaggedTurn F)) (sample : Sample Prompt F) : Prop where
  tokens : ∀ flagged ∈ run, flagged.replay.nonempty = true →
    ∀ offset < flagged.count, flagged.first + offset < sample.tokens.length →
      sample.tokens[flagged.first + offset]? = flagged.turn.outputIds[offset]?
  replay : AlignedReplay (sample.tokens.length - sample.responseLength.toNat)
    sample.responseLength.toNat run sample.replay
  routedExperts : ∀ flagged ∈ run, sample.replay.routedExperts =
    flagged.replay.routedExperts.map (List.take (sample.tokens.length - 1) ·)

theorem getElem?_of_isPrefix {α : Type} {shorter longer : List α} {index : Nat}
    (isPrefix : shorter <+: longer) (inside : index < shorter.length) :
    longer[index]? = shorter[index]? := by
  rcases isPrefix with ⟨rest, rfl⟩
  exact List.getElem?_append_left inside

variable {forkThreshold : Nat}

/-- The sample emitted from the builder of a run replays the run. -/
theorem Built.replaysRun {run : List (FlaggedTurn F)}
    {entry : SampleBuilder F × SampleMetadata} (built : Built forkThreshold run entry.1)
    (fits : ∀ flagged ∈ run, flagged.replay.Fits flagged.count)
    {baseSample : BaseSample Prompt} {reward : F} {budget : Nat} {sample : Sample Prompt F}
    (emitted : EmittedAs baseSample reward budget entry sample)
    (nonneg : 0 ≤ sample.responseLength) : ReplaysRun run sample := by
  rcases emitted with ⟨replay, replayEq, rfl⟩
  rcases entry with ⟨builder, metadata⟩
  have sameLength := length_cut budget built.parallel.lossMask
  have isCount : builder.cutLength budget = ((builder.cutLength budget).toNat : Int) :=
    (Int.toNat_of_nonneg nonneg).symm
  have leading : (cut budget builder.tokens).length - (builder.cutLength budget).toNat =
      builder.leadingPromptLen := by
    have located := isCount
    rw [SampleBuilder.cutLength] at located ⊢
    dsimp only at sameLength
    omega
  have inside : builder.leadingPromptLen + (builder.cutLength budget).toNat ≤
      builder.tokens.length := by
    have located := isCount
    have within := (cut_isPrefix budget builder.tokens).length_le
    rw [SampleBuilder.cutLength] at located ⊢
    dsimp only at sameLength
    omega
  constructor
  · intro flagged member carries offset inOutput reached
    have whole := built.prefixes ((built.shapes flagged member).nonempty.trans carries) flagged
      member
    have inTurn : flagged.first + offset <
        (flagged.turn.promptIds ++ flagged.turn.outputIds).length := by
      rw [List.length_append]
      exact Nat.add_lt_add_left inOutput _
    have atTokens := getElem?_of_isPrefix (cut_isPrefix budget builder.tokens) reached
    have atTurn := getElem?_of_isPrefix whole inTurn
    have inOwn : (flagged.turn.promptIds ++ flagged.turn.outputIds)[flagged.first + offset]? =
        flagged.turn.outputIds[offset]? := by
      rw [FlaggedTurn.first, List.getElem?_append_right (Nat.le_add_right _ _),
        Nat.add_sub_cancel_left]
    exact atTokens.symm.trans (atTurn.trans inOwn)
  · show AlignedReplay ((cut budget builder.tokens).length - (builder.cutLength budget).toNat)
      (builder.cutLength budget).toNat run replay
    rw [leading]
    have shapes := built.shapes
    dsimp only at shapes
    rw [SampleBuilder.cutReplay.eq_def] at replayEq
    cases isHeld : builder.replay with
    | none =>
        rw [isHeld] at replayEq shapes
        rw [← Except.ok.inj replayEq]
        exact alignedReplay_empty shapes rfl rfl ⟨rfl, rfl⟩ rfl rfl
    | some held =>
        rw [isHeld] at replayEq shapes
        dsimp only at replayEq
        rw [isCount] at replayEq
        cases carries : held.nonempty with
        | true =>
            have holds := built.holdsReplay fits
            dsimp only at holds
            rw [isHeld] at holds
            refine (holds carries).emitted fits shapes ?_ replayEq
            rw [placedEnd_run built]
            exact inside
        | false =>
            have absent := Replay.keys_of_not_nonempty carries
            rcases emittedReplay_cases replayEq with ⟨topkIds, topkLogProbs, _, topP⟩
            rw [absent.2.1] at topkIds
            rw [absent.2.2.1] at topkLogProbs
            rcases topP with ⟨_, noOffsets, noNucleus⟩ | ⟨_, _, _, present, _⟩
            · exact alignedReplay_empty shapes carries noOffsets noNucleus topkIds topkLogProbs
            · rw [absent.1] at present
              cases present
  · show ∀ flagged ∈ run, replay.routedExperts =
      flagged.replay.routedExperts.map (List.take ((cut budget builder.tokens).length - 1) ·)
    intro flagged member
    rw [← built.routedExperts fits flagged member]
    rw [SampleBuilder.cutReplay.eq_def] at replayEq
    cases isHeld : builder.replay with
    | none =>
        rw [isHeld] at replayEq
        rw [← Except.ok.inj replayEq]
        rfl
    | some held =>
        rw [isHeld] at replayEq
        exact (emittedReplay_cases (isCount ▸ replayEq)).2.2.1

/-! ## Recorded sessions -/

def TurnRecord.Replayable (turn : TurnRecord F) : Prop :=
  turn.Recordable ∧ (turn.replay.getD {}).Fits turn.outputIds.length

omit [LogProbValue F] in
theorem mem_flaggedPath {claimed : List Nat} {path : List (Nat × TurnRecord F)}
    {flagged : FlaggedTurn F} (member : flagged ∈ flaggedPath claimed path) :
    ∃ node ∈ path, flagged.turn = node.2 := by
  induction path generalizing claimed with
  | nil => cases member
  | cons node rest induction =>
      rcases List.mem_cons.mp member with rfl | later
      · exact ⟨node, List.mem_cons_self, rfl⟩
      · rcases induction later with ⟨other, inRest, same⟩
        exact ⟨other, List.mem_cons_of_mem _ inRest, same⟩

omit [LogProbValue F] in
theorem mem_flaggedPaths {flagged : FlaggedTurn F} {path : List (FlaggedTurn F)} :
    ∀ {claimed : List Nat} {paths : List (List (Nat × TurnRecord F))},
      path ∈ flaggedPaths claimed paths → flagged ∈ path →
      ∃ nodes ∈ paths, ∃ node ∈ nodes, flagged.turn = node.2
  | _, [], inPaths, _ => by cases inPaths
  | claimed, nodes :: rest, inPaths, member => by
      rcases List.mem_cons.mp inPaths with rfl | later
      · exact ⟨nodes, List.mem_cons_self, mem_flaggedPath member⟩
      · rcases mem_flaggedPaths later member with ⟨others, inRest, isNode⟩
        exact ⟨others, List.mem_cons_of_mem _ inRest, isNode⟩

omit [LogProbValue F] in
theorem holds_of_mem_sessionRuns {allowed : TurnRecord F → Prop} {session : Session Message F}
    (holds : session.Holds allowed) {run : List (FlaggedTurn F)}
    (inRuns : run ∈ sessionRuns forkThreshold session.root) {flagged : FlaggedTurn F}
    (member : flagged ∈ run) : allowed flagged.turn := by
  rw [sessionRuns, emittingRuns, List.mem_filter, List.mem_flatMap] at inRuns
  rcases inRuns.1 with ⟨path, inPaths, inPath⟩
  have onPath : flagged ∈ path := by
    rw [← List.flatten_splitBy (sameRun forkThreshold) path]
    exact List.mem_flatten.mpr ⟨run, inPath, member⟩
  rcases mem_flaggedPaths inPaths onPath with ⟨nodes, inChains, node, inNodes, same⟩
  rcases List.mem_map.mp inChains with ⟨chain, isLeaf, rfl⟩
  rw [same]
  exact sampled_of_mem_leafChains holds isLeaf inNodes

/-- After any recorded turns whose replay data fits their outputs, every emitted sample
of nonnegative response length replays the run it was emitted from, under any token
budget. -/
theorem getTrajectory_replaysRuns [DecidableEq Sid] [ChatMessage Message]
    (manager recorded final : TrajectoryManager Sid Message F) (sid : Sid)
    (calls : List (RecordCall Message F)) (baseSample : BaseSample Prompt) (reward : F)
    (extraMetadata : List (String × String)) (budget : Nat)
    (samples : List (Sample Prompt F)) (fresh : manager.trees sid = none)
    (fits : ∀ call ∈ calls, (call.turn.replay.getD {}).Fits call.turn.outputIds.length)
    (accepted : manager.recordTurns sid calls = .ok recorded)
    (emits : recorded.getTrajectory sid baseSample reward extraMetadata budget =
      .ok (samples, final)) :
    List.Forall₂ (fun run sample => 0 ≤ sample.responseLength → ReplaysRun run sample)
      (sessionRuns manager.forkThreshold ((recorded.trees sid).getD Session.initial).root)
      samples := by
  have invariant := TrajectoryManager.recordTurns_keeps
    (fun turn => (turn.replay.getD {}).Fits turn.outputIds.length)
    (fun session : Session Message F => session.Holds TurnRecord.Replayable)
    (Session.holds_initial _)
    (fun forkThreshold call turnIndex fitting recordable before =>
      before.record forkThreshold ⟨recordable, fitting⟩ _ _ turnIndex)
    fits accepted (by rw [fresh]; exact Session.holds_initial _)
  rcases invariant with ⟨sameThreshold, replayable⟩
  cases tree : recorded.trees sid with
  | none =>
      rw [TrajectoryManager.getTrajectory, tree] at emits
      have noRuns : sessionRuns manager.forkThreshold
          (Session.initial : Session Message F).root = [] := rfl
      rw [← (Prod.mk.inj (Except.ok.inj emits)).1, Option.getD_none, noRuns]
      exact .nil
  | some session =>
      rw [tree, Option.getD_some] at replayable
      have recordable : session.Holds TurnRecord.Recordable :=
        fun node member turn stored => (replayable node member turn stored).1
      rcases (getTrajectory_eq_ok tree recordable _ _ _).mp emits with
        ⟨_, builders, builtEq, related⟩
      have built := emittingBuilders_runs
        (fun chain member node inChain => sampled_of_mem_leafChains recordable member inChain)
        builtEq
      rw [Option.getD_some, ← sameThreshold]
      have fitting : ∀ run ∈ sessionRuns recorded.forkThreshold session.root,
          ∀ flagged ∈ run, flagged.replay.Fits flagged.count :=
        fun run inRuns flagged member =>
          (holds_of_mem_sessionRuns replayable inRuns member).2
      have emitted := (List.forall₂_and_left _ _).mpr ⟨fitting, forall₂_comp built related⟩
      refine List.Forall₂.imp ?_ emitted
      rintro run sample ⟨fits, entry, isBuilt, isEmitted⟩ nonneg
      exact Built.replaysRun isBuilt fits isEmitted nonneg

def nucleusCalls : List (RecordCall TextMessage Int) :=
  [{ turn :=
      { promptIds := [1], outputIds := [2, 3], finishReason := "stop"
        replay := some
          { topPTokenIds := some [2, 3, 9], topPTokenOffsets := some [0, 1, 3] } }
     promptMessages := [⟨"user", "compute"⟩]
     responseMessage := some ⟨"assistant", "ok"⟩ },
    { turn :=
        { promptIds := [1, 2, 3, 4], outputIds := [5, 7], finishReason := "stop"
          replay := some
            { topPTokenIds := some [5, 6, 7], topPTokenOffsets := some [0, 2, 3] } }
      promptMessages := [⟨"user", "compute"⟩, ⟨"assistant", "ok"⟩, ⟨"user", "more"⟩]
      responseMessage := none }]

def nucleusManager : TrajectoryManager Unit TextMessage Int :=
  ((TrajectoryManager.new none).recordTurns () nucleusCalls).toOption.getD
    (TrajectoryManager.new none)

/-- A budget that cuts the last response leaves the spans before the cut. -/
theorem getTrajectory_replaysNucleus :
    (TrajectoryManager.new none).recordTurns () nucleusCalls = .ok nucleusManager ∧
    ∃ samples final,
      nucleusManager.getTrajectory () ({ prompt := "" } : BaseSample String) 1 [] 5 =
        .ok (samples, final) ∧
      samples.map (fun sample => sample.replay.topPTokenOffsets) = [some [0, 1, 3, 3, 5]] ∧
      List.Forall₂ (fun run sample => 0 ≤ sample.responseLength → ReplaysRun run sample)
        (sessionRuns 1024 ((nucleusManager.trees ()).getD Session.initial).root) samples := by
  have emits : ∃ samples final,
      nucleusManager.getTrajectory () ({ prompt := "" } : BaseSample String) 1 [] 5 =
        .ok (samples, final) ∧
      samples.map (fun sample => sample.replay.topPTokenOffsets) = [some [0, 1, 3, 3, 5]] :=
    ⟨_, _, rfl, rfl⟩
  rcases emits with ⟨samples, final, emitted, offsets⟩
  refine ⟨rfl, samples, final, emitted, offsets, ?_⟩
  refine getTrajectory_replaysRuns (TrajectoryManager.new none) nucleusManager final ()
    nucleusCalls ({ prompt := "" } : BaseSample String) 1 [] 5 samples rfl ?_ rfl emitted
  simp only [nucleusCalls, List.forall_mem_cons, Option.getD_some]
  refine ⟨⟨?_, by simp, by simp, by simp⟩, ⟨?_, by simp, by simp, by simp⟩, by simp⟩
  · rintro _ ⟨⟩
    exact ⟨_, rfl, rfl, rfl, by decide, rfl⟩
  · rintro _ ⟨⟩
    exact ⟨_, rfl, rfl, rfl, by decide, rfl⟩

end Vime.Agent
