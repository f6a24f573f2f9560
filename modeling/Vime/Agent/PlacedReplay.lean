import Vime.Agent.TurnRuns
import Vime.Foundation.Placement
import Vime.Foundation.Ragged

/-! # Replay data of a run

The sampler distributions recorded with the turns of a run, placed where the
builder holds the sampled tokens.
-/

namespace Vime.Agent

open Vime.Foundation Vime.Utils

variable {Message F Sid Prompt : Type}

/-! ## Recorded replay data -/

/-- Replay data that fits a response of `count` tokens. -/
structure Replay.Fits (replay : Replay F) (count : Nat) : Prop where
  topP : ∀ offsets, replay.topPTokenOffsets = some offsets →
    ∃ ids, replay.topPTokenIds = some ids ∧ offsets.length = count + 1 ∧
      offsets.head? = some 0 ∧ offsets.IsChain (· ≤ ·) ∧
      offsets.getLast? = some (ids.length : Int)
  topPLogProbs : ∀ logProbs, replay.topPLogProbs = some logProbs →
    ∃ ids, replay.topPTokenIds = some ids ∧ logProbs.length = ids.length
  topk : ∀ rows, replay.topkTokenIds = some rows → rows.rows.length = count
  topkLogProbs : ∀ rows, replay.topkLogProbs = some rows →
    rows.rows.length = count ∧ replay.topkTokenIds.isSome = true

def spansAt {α : Type} (values : List α) (offsets : List Int) : List (List α) :=
  cutSpans values (offsets.map Int.toNat)

namespace Replay

def offsets (replay : Replay F) : List Int :=
  replay.topPTokenOffsets.getD []

def nucleusIds (replay : Replay F) : List (List TokenId) :=
  spansAt (replay.topPTokenIds.getD []) replay.offsets

def nucleusLogProbs (replay : Replay F) : List (List F) :=
  spansAt (replay.topPLogProbs.getD []) replay.offsets

def topkIdRows (replay : Replay F) : List (List TokenId) :=
  (replay.topkTokenIds.map TokenRows.rows).getD []

def topkLogProbRows (replay : Replay F) : List (List F) :=
  (replay.topkLogProbs.map TokenRows.rows).getD []

end Replay

def intOffsets {α : Type} (spans : List (List α)) : List Int :=
  (offsetsFrom 0 spans).map Int.ofNat

theorem toNat_intOffsets {α : Type} (spans : List (List α)) :
    (intOffsets spans).map Int.toNat = offsetsFrom 0 spans := by
  rw [intOffsets, List.map_map]
  exact List.map_id _

theorem intOffsets_spansAt {α : Type} {values : List α} {offsets : List Int}
    (isHead : offsets.head? = some 0) (ordered : offsets.IsChain (· ≤ ·))
    (isLast : offsets.getLast? = some (values.length : Int)) :
    intOffsets (spansAt values offsets) = offsets ∧
      (spansAt values offsets).flatten = values := by
  cases offsets with
  | nil => cases isHead
  | cons first rest =>
      have isZero : first = 0 := Option.some.inj isHead
      subst isZero
      have naturals : (rest.map Int.toNat).map Int.ofNat = rest := by
        have nonneg : ∀ offset ∈ rest, 0 ≤ offset := by
          have sorted := List.isChain_iff_pairwise.mp ordered
          exact fun offset member => List.rel_of_pairwise_cons sorted member
        rw [List.map_map]
        conv => rhs; rw [← List.map_id rest]
        apply List.map_congr_left
        intro offset member
        exact Int.toNat_of_nonneg (nonneg offset member)
      have natOrdered : (0 :: rest.map Int.toNat).IsChain (· ≤ ·) := by
        have mapped : ((0 :: rest).map Int.toNat).IsChain (· ≤ ·) :=
          List.isChain_map_of_isChain _ (fun _ _ below => Int.toNat_le_toNat below) ordered
        exact mapped
      have natLast : (0 :: rest.map Int.toNat).getLast? = some values.length := by
        have mapped := congrArg (Option.map Int.toNat) isLast
        rw [← List.getLast?_map] at mapped
        exact mapped
      have bounded := le_getLast_of_isChain natOrdered natLast
      rw [intOffsets, spansAt, List.map_cons, Int.toNat_zero]
      constructor
      · rw [offsetsFrom_cutSpans values 0 _ natOrdered bounded, List.map_cons, naturals]
        rfl
      · rw [flatten_cutSpans values 0 _ _ natOrdered natLast, List.take_length, List.drop_zero]

theorem getLast?_intOffsets {α : Type} (spans : List (List α)) :
    (intOffsets spans).getLast? = some (spans.flatten.length : Int) := by
  rw [intOffsets, List.getLast?_map, getLast?_offsetsFrom, Option.map_some, Nat.zero_add]
  rfl

theorem intOffsets_append_gap {α : Type} (left right : List (List α)) (gap : Nat) :
    intOffsets (left ++ List.replicate gap [] ++ right) =
      intOffsets left ++ List.replicate gap (left.flatten.length : Int) ++
        ((intOffsets right).drop 1).map (· + (left.flatten.length : Int)) := by
  rw [intOffsets, offsetsFrom_append_gap, List.map_append, List.map_append,
    List.map_replicate, List.map_map, intOffsets, intOffsets, List.drop_one, List.map_tail,
    List.map_tail, List.map_map]
  rfl

theorem flatten_append_gap {α : Type} (left right : List (List α)) (gap : Nat) :
    (left ++ List.replicate gap [] ++ right).flatten = left.flatten ++ right.flatten := by
  simp

namespace Replay.Fits

variable {replay : Replay F} {count : Nat}

theorem nucleusIds (fits : replay.Fits count) {offsets : List Int}
    (present : replay.topPTokenOffsets = some offsets) :
    offsets = intOffsets replay.nucleusIds ∧
      replay.topPTokenIds = some replay.nucleusIds.flatten ∧
      replay.nucleusIds.length = count := by
  rcases fits.topP offsets present with ⟨ids, isIds, sameLength, isHead, ordered, isLast⟩
  have spans := intOffsets_spansAt isHead ordered isLast
  have same : replay.nucleusIds = spansAt ids offsets := by
    rw [Replay.nucleusIds, isIds, Replay.offsets, present]
    rfl
  rw [same, spans.1, spans.2]
  refine ⟨rfl, isIds, ?_⟩
  rw [spansAt, length_cutSpans, List.length_map, sameLength, Nat.add_sub_cancel]

theorem nucleusLogProbs (fits : replay.Fits count) {offsets : List Int} {logProbs : List F}
    (present : replay.topPTokenOffsets = some offsets)
    (isLogProbs : replay.topPLogProbs = some logProbs) :
    offsets = intOffsets replay.nucleusLogProbs ∧ logProbs = replay.nucleusLogProbs.flatten ∧
      replay.nucleusLogProbs.length = count := by
  rcases fits.topP offsets present with ⟨ids, isIds, sameLength, isHead, ordered, isLast⟩
  rcases fits.topPLogProbs logProbs isLogProbs with ⟨_, sameIds, aligned⟩
  rw [isIds, Option.some.injEq] at sameIds
  rw [sameIds, ← aligned] at isLast
  have spans := intOffsets_spansAt isHead ordered isLast
  have same : replay.nucleusLogProbs = spansAt logProbs offsets := by
    rw [Replay.nucleusLogProbs, isLogProbs, Replay.offsets, present]
    rfl
  rw [same, spans.1, spans.2]
  refine ⟨rfl, rfl, ?_⟩
  rw [spansAt, length_cutSpans, List.length_map, sameLength, Nat.add_sub_cancel]

theorem topkIdRows (fits : replay.Fits count) (present : replay.topkTokenIds.isSome = true) :
    replay.topkIdRows.length = count := by
  rcases Option.isSome_iff_exists.mp present with ⟨rows, isRows⟩
  rw [Replay.topkIdRows, isRows]
  exact fits.topk rows isRows

theorem topkLogProbRows (fits : replay.Fits count)
    (present : replay.topkLogProbs.isSome = true) : replay.topkLogProbRows.length = count := by
  rcases Option.isSome_iff_exists.mp present with ⟨rows, isRows⟩
  rw [Replay.topkLogProbRows, isRows]
  exact (fits.topkLogProbs rows isRows).1

end Replay.Fits

/-! ## Replay data of a run -/

namespace FlaggedTurn

def first (flagged : FlaggedTurn F) : Nat := flagged.turn.promptIds.length

def count (flagged : FlaggedTurn F) : Nat := flagged.turn.outputIds.length

def replay (flagged : FlaggedTurn F) : Replay F := flagged.turn.replay.getD {}

end FlaggedTurn

/-- What the turns of a run recorded for each token, placed from `start` on. -/
def placedReplay (record : Replay F → List α) (padding : α) (start : Nat)
    (run : List (FlaggedTurn F)) : List α :=
  fill FlaggedTurn.first FlaggedTurn.count (fun flagged => record flagged.replay) padding start
    run

def dummyIds (width : Nat) : List TokenId :=
  (List.range width).map Int.ofNat

def dummyLogProbs [LogProbValue F] (width : Nat) : List F :=
  List.replicate width (LogProbValue.uniform width)

variable [LogProbValue F]

structure HoldsReplay (start : Nat) (run : List (FlaggedTurn F)) (held : Replay F) : Prop where
  placed : Placed FlaggedTurn.first FlaggedTurn.count start run
  topP : ∀ offsets, held.topPTokenOffsets = some offsets →
    offsets = intOffsets (placedReplay Replay.nucleusIds [] start run) ∧
      held.topPTokenIds = some (placedReplay Replay.nucleusIds [] start run).flatten
  topPLogProbs : ∀ offsets logProbs, held.topPTokenOffsets = some offsets →
    held.topPLogProbs = some logProbs →
    offsets = intOffsets (placedReplay Replay.nucleusLogProbs [] start run) ∧
      logProbs = (placedReplay Replay.nucleusLogProbs [] start run).flatten
  topk : ∀ rows, held.topkTokenIds = some rows →
    rows.rows = placedReplay Replay.topkIdRows (dummyIds rows.width) start run
  topkLogProbs : ∀ ids rows, held.topkTokenIds = some ids → held.topkLogProbs = some rows →
    rows.rows = placedReplay Replay.topkLogProbRows (dummyLogProbs ids.width) start run
  routedExperts : ∀ flagged ∈ run, held.routedExperts = flagged.replay.routedExperts

omit [LogProbValue F] in
theorem placedReplay_single {α : Type} (record : Replay F → List α) (padding : α)
    (flagged : FlaggedTurn F) :
    placedReplay record padding flagged.first [flagged] = record flagged.replay := by
  simp [placedReplay, fill]

theorem HoldsReplay.opened {flagged : FlaggedTurn F}
    (fits : flagged.replay.Fits flagged.count) :
    HoldsReplay flagged.first [flagged] flagged.replay where
  placed := ⟨Nat.le_refl _, trivial⟩
  topP := by
    intro offsets present
    rw [placedReplay_single]
    exact ⟨(fits.nucleusIds present).1, (fits.nucleusIds present).2.1⟩
  topPLogProbs := by
    intro offsets logProbs present isLogProbs
    rw [placedReplay_single]
    exact ⟨(fits.nucleusLogProbs present isLogProbs).1,
      (fits.nucleusLogProbs present isLogProbs).2.1⟩
  topk := by
    intro rows present
    rw [placedReplay_single, Replay.topkIdRows, present]
    rfl
  topkLogProbs := by
    intro ids rows _ present
    rw [placedReplay_single, Replay.topkLogProbRows, present]
    rfl
  routedExperts := by
    intro other member
    rw [List.mem_singleton.mp member]

omit [LogProbValue F] in
theorem placedReplay_concat {α : Type} (record : Replay F → List α) (padding : α) (start : Nat)
    (run : List (FlaggedTurn F)) (flagged : FlaggedTurn F) :
    placedReplay record padding start (run ++ [flagged]) =
      placedReplay record padding start run ++
        List.replicate
          (flagged.first - placedEnd FlaggedTurn.first FlaggedTurn.count start run) padding ++
        record flagged.replay :=
  fill_concat

/-- Concatenating the data of a further turn keeps it placed. -/
theorem HoldsReplay.appended {start : Nat} {run : List (FlaggedTurn F)}
    {flagged : FlaggedTurn F} {held result : Replay F} {gap : Int}
    (holds : HoldsReplay start run held) (fits : flagged.replay.Fits flagged.count)
    (shape : Replay.SameShape held flagged.replay)
    (behind : placedEnd FlaggedTurn.first FlaggedTurn.count start run ≤ flagged.first)
    (isGap : gap.toNat =
      flagged.first - placedEnd FlaggedTurn.first FlaggedTurn.count start run)
    (appended : SampleBuilder.appendReplay (some held) flagged.replay gap = .ok result) :
    HoldsReplay start (run ++ [flagged]) result := by
  have grown := SampleBuilder.appendReplay_shape appended
  rcases SampleBuilder.appendReplay_cases appended with ⟨_, _, noRouting, withTopP, topPEq, topkEq⟩
  rw [isGap] at topPEq topkEq
  have sameTopk := (SampleBuilder.appendTopP_keys topPEq).2
  have sameTopP : result.topPTokenOffsets = withTopP.topPTokenOffsets ∧
      result.topPTokenIds = withTopP.topPTokenIds ∧
      result.topPLogProbs = withTopP.topPLogProbs := by
    rcases SampleBuilder.appendTopk_cases topkEq with ⟨_, rfl⟩ | ⟨_, _, _, _, _, _, _, _, _, rfl⟩
    · exact ⟨rfl, rfl, rfl⟩
    · exact ⟨rfl, rfl, rfl⟩
  constructor
  · exact placed_concat.mpr ⟨holds.placed, behind⟩
  · intro offsets present
    rw [sameTopP.1] at present
    rw [sameTopP.2.1, placedReplay_concat, intOffsets_append_gap, flatten_append_gap]
    rcases SampleBuilder.appendTopP_cases topPEq with ⟨absent, rfl⟩ |
      ⟨newOffsets, oldOffsets, last, ids, logProbs, isNew, isOld, isLast, idsEq, _, rfl⟩
    · have sameKeys := (Replay.keys_eq_iff.mp shape.keys).2.1
      rw [absent, present] at sameKeys
      cases sameKeys
    · have old := holds.topP oldOffsets isOld
      have new := fits.nucleusIds isNew
      rw [old.2, new.2.1, SampleBuilder.appendReplayField, Except.ok.injEq] at idsEq
      rw [old.1, getLast?_intOffsets, Option.some.injEq] at isLast
      rw [← Option.some.inj present, ← idsEq, ← isLast, ← old.1, ← new.1]
      exact ⟨rfl, rfl⟩
  · intro offsets logProbs present isLogProbs
    rw [sameTopP.1] at present
    rw [sameTopP.2.2] at isLogProbs
    rw [placedReplay_concat, intOffsets_append_gap, flatten_append_gap]
    rcases SampleBuilder.appendTopP_cases topPEq with ⟨absent, rfl⟩ |
      ⟨newOffsets, oldOffsets, last, ids, newLogProbs, isNew, isOld, isLast, _, logProbsEq, rfl⟩
    · have sameKeys := (Replay.keys_eq_iff.mp shape.keys).2.1
      rw [absent, present] at sameKeys
      cases sameKeys
    · have isLogProbs : newLogProbs = some logProbs := isLogProbs
      have sameKeys := (Replay.keys_eq_iff.mp shape.keys).2.2.1
      have whole := SampleBuilder.appendReplayField_isSome logProbsEq
      rw [isLogProbs] at whole
      rcases Option.isSome_iff_exists.mp whole with ⟨oldLogProbs, isOldLogProbs⟩
      rw [whole] at sameKeys
      rcases Option.isSome_iff_exists.mp sameKeys.symm with ⟨turnLogProbs, isTurnLogProbs⟩
      have old := holds.topPLogProbs oldOffsets oldLogProbs isOld isOldLogProbs
      have new := fits.nucleusLogProbs isNew isTurnLogProbs
      rw [isOldLogProbs, isTurnLogProbs, SampleBuilder.appendReplayField, Except.ok.injEq,
        isLogProbs, Option.some.injEq] at logProbsEq
      rw [old.1, getLast?_intOffsets, Option.some.injEq] at isLast
      rw [← Option.some.inj present, ← logProbsEq, ← isLast, ← old.1, ← new.1, ← old.2,
        ← new.2.1]
      exact ⟨rfl, rfl⟩
  · intro rows present
    rcases SampleBuilder.appendTopk_cases topkEq with ⟨absent, rfl⟩ |
      ⟨newIds, oldIds, _, _, isNew, isOld, _, _, sameWidth, rfl⟩
    · rw [sameTopk.1] at present
      have sameKeys := shape.topk
      rw [absent, present] at sameKeys
      cases sameKeys
    · rw [sameTopk.1] at isOld
      have old := holds.topk oldIds isOld
      have new : flagged.replay.topkIdRows = newIds.rows := by
        rw [Replay.topkIdRows, isNew]
        rfl
      rw [← Option.some.inj present, placedReplay_concat, new]
      dsimp only
      rw [← old, dummyIds, sameWidth]
  · intro ids rows isIds present
    rcases SampleBuilder.appendTopk_cases topkEq with ⟨absent, rfl⟩ |
      ⟨newIds, oldIds, newLogProbs, oldLogProbs, _, isOld, isNew, isOldLogProbs, sameWidth, rfl⟩
    · rw [sameTopk.1] at isIds
      have sameKeys := shape.topk
      rw [absent, isIds] at sameKeys
      cases sameKeys
    · rw [sameTopk.1] at isOld
      rw [sameTopk.2] at isOldLogProbs
      have old := holds.topkLogProbs oldIds oldLogProbs isOld isOldLogProbs
      have new : flagged.replay.topkLogProbRows = newLogProbs.rows := by
        rw [Replay.topkLogProbRows, isNew]
        rfl
      rw [← Option.some.inj present, ← Option.some.inj isIds, placedReplay_concat, new]
      dsimp only
      rw [← old, dummyLogProbs, sameWidth]
  · -- A turn is appended only where no routing was recorded.
    have unrouted (other : Replay F) (same : other.routedExperts.isSome =
        flagged.replay.routedExperts.isSome) : other.routedExperts = none := by
      rw [noRouting, Option.isSome_none, Option.isSome_eq_false_iff,
        Option.isNone_iff_eq_none] at same
      exact same
    intro other member
    rw [unrouted result grown.routedExperts]
    rcases List.mem_append.mp member with older | isNew
    · rw [← holds.routedExperts other older, unrouted held shape.routedExperts]
    · rw [List.mem_singleton.mp isNew, noRouting]

section Built

variable {forkThreshold : Nat} {run : List (FlaggedTurn F)} {builder : SampleBuilder F}

theorem opened_replay {flagged : FlaggedTurn F}
    (appended : SampleBuilder.Appended { forkThreshold := forkThreshold } flagged.turn 0
      flagged.trained builder) : builder.replay = flagged.turn.replay := by
  have replayEq := appended.replay
  rw [SampleBuilder.appendedReplay.eq_def] at replayEq
  cases carried : flagged.turn.replay with
  | none =>
      rw [carried] at replayEq
      exact (Except.ok.inj replayEq).symm
  | some incoming =>
      rw [carried] at replayEq
      exact (Except.ok.inj replayEq).symm

theorem Built.shapes (built : Built forkThreshold run builder) :
    ∀ flagged ∈ run, Replay.SameShape (builder.replay.getD {}) flagged.replay :=
  Built.invariant
    (motive := fun run builder =>
      ∀ flagged ∈ run, Replay.SameShape (builder.replay.getD {}) flagged.replay)
    (by
      intro flagged builder appended
      rw [List.forall_mem_singleton, opened_replay appended]
      exact .refl _)
    (by
      intro before last builder flagged next induction holds extends_ appended other member
      have grown := (holds.extended extends_ appended).shape
      have joined := (SampleBuilder.classifyTokenDrift_extends extends_).1
      rcases List.mem_append.mp member with older | isNew
      · exact grown.trans (joined.symm.trans (induction other older))
      · rw [List.mem_singleton.mp isNew]
        exact grown)
    built

omit [LogProbValue F] in
theorem extends_clean {turn : TurnRecord F}
    (extends_ : builder.classifyTokenDrift turn ≠ .fork)
    (carries : (builder.replay.getD {}).nonempty = true) :
    builder.tokens <+: turn.promptIds := by
  rcases (SampleBuilder.classifyTokenDrift_extends extends_).2.2 with
    ⟨_, agrees⟩ | ⟨_, empty, _⟩
  · rw [← commonPrefixLength_eq_length_iff]
    exact Nat.le_antisymm (commonPrefixLength_le_left _ _) agrees
  · rw [carries] at empty
    cases empty

theorem Built.prefixes (built : Built forkThreshold run builder) :
    (builder.replay.getD {}).nonempty = true →
      ∀ flagged ∈ run, flagged.turn.promptIds ++ flagged.turn.outputIds <+: builder.tokens :=
  Built.invariant
    (motive := fun run builder => (builder.replay.getD {}).nonempty = true →
      ∀ flagged ∈ run, flagged.turn.promptIds ++ flagged.turn.outputIds <+: builder.tokens)
    (by
      intro flagged builder appended _
      rw [List.forall_mem_singleton, appended.tokens])
    (by
      intro before last builder flagged next induction holds extends_ appended carries other
        member
      have joined := (SampleBuilder.classifyTokenDrift_extends extends_).1
      have grown := (holds.extended extends_ appended).shape
      have carried : (builder.replay.getD {}).nonempty = true := by
        rw [joined.nonempty, ← grown.nonempty, carries]
      rw [appended.tokens]
      rcases List.mem_append.mp member with older | isNew
      · exact ((induction carried other older).trans (extends_clean extends_ carried)).trans
          (List.prefix_append _ _)
      · rw [List.mem_singleton.mp isNew])
    built

theorem placedEnd_run (built : Built forkThreshold run builder) (start : Nat) :
    placedEnd FlaggedTurn.first FlaggedTurn.count start run = builder.tokens.length := by
  rcases built.exists_last with ⟨before, last, rfl⟩
  rw [placedEnd_concat, (built.holdsRun rfl).tokens, List.length_append]
  rfl

omit [LogProbValue F] in
theorem nonempty_getD {held : Option (Replay F)} (carries : (held.getD {}).nonempty = true) :
    ∃ replay, held = some replay := by
  cases held with
  | none => cases carries
  | some replay => exact ⟨replay, rfl⟩

omit [LogProbValue F] in
theorem Replay.keys_of_not_nonempty {replay : Replay F} (empty : replay.nonempty = false) :
    replay.topPTokenOffsets = none ∧ replay.topkTokenIds = none ∧
      replay.topkLogProbs = none ∧ replay.routedExperts = none := by
  simp only [Replay.nonempty, Replay.keys, List.any_cons, List.any_nil, id, Bool.or_false,
    Bool.or_eq_false_iff, Option.isSome_eq_false_iff, Option.isNone_iff_eq_none] at empty
  exact ⟨empty.2.1, empty.2.2.2.1, empty.2.2.2.2.1, empty.2.2.2.2.2⟩

/-- A builder with replay data holds that of its turns, one after the other. -/
theorem Built.holdsReplay (built : Built forkThreshold run builder) :
    (∀ flagged ∈ run, flagged.replay.Fits flagged.count) →
      (builder.replay.getD {}).nonempty = true →
      HoldsReplay builder.leadingPromptLen run (builder.replay.getD {}) := by
  induction built with
  | opened recordable appendedTurn =>
      intro fits _
      have appended := opened_appended recordable appendedTurn
      rw [opened_replay appended, appended.leading]
      exact .opened (fits _ List.mem_cons_self)
  | @extended older last current flagged next built recordable extends_ appendedTurn induction =>
      intro fits carries
      have holds := built.holdsRun rfl
      have appended := holds.appended recordable extends_ appendedTurn
      have joined := (SampleBuilder.classifyTokenDrift_extends extends_).1
      have grown := (holds.extended extends_ appended).shape
      rw [List.forall_mem_append] at fits
      rw [grown.nonempty] at carries
      have carried := joined.nonempty.trans carries
      have before := induction fits.1 carried
      have behind := (extends_clean extends_ carried).length_le
      rcases nonempty_getD carried with ⟨held, isHeld⟩
      rcases nonempty_getD carries with ⟨incoming, isIncoming⟩
      have sameLeading := appended.leading
      have replayEq := appended.replay
      rw [SampleBuilder.appendedReplay.eq_def, isIncoming, isHeld, holds.start] at replayEq
      rw [holds.start] at sameLeading
      rcases map_eq_ok.mp replayEq with ⟨result, resultEq, isResult⟩
      rw [isHeld, Option.getD_some] at before joined
      rw [← isResult, Option.getD_some, sameLeading]
      have ends := placedEnd_run built current.leadingPromptLen
      have isReplay : flagged.replay = incoming := by
        rw [FlaggedTurn.replay, isIncoming, Option.getD_some]
      rw [← isReplay] at resultEq
      refine before.appended (fits.2 _ (List.mem_singleton.mpr rfl)) joined ?_ ?_ resultEq
      · rw [ends]
        exact behind
      · rw [ends]
        exact Int.toNat_sub _ _

theorem Built.routedExperts (built : Built forkThreshold run builder)
    (fits : ∀ flagged ∈ run, flagged.replay.Fits flagged.count) :
    ∀ flagged ∈ run, (builder.replay.getD {}).routedExperts = flagged.replay.routedExperts := by
  intro flagged member
  cases carries : (builder.replay.getD {}).nonempty with
  | true => exact (built.holdsReplay fits carries).routedExperts flagged member
  | false =>
      have shape := built.shapes flagged member
      have others := shape.nonempty.symm.trans carries
      rw [(Replay.keys_of_not_nonempty carries).2.2.2, (Replay.keys_of_not_nonempty others).2.2.2]

end Built

end Vime.Agent
