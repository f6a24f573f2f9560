import Vime.Agent.AppendedTurns
import Mathlib.Data.List.SplitBy

/-! # Runs of turns

A builder holds a run of turns of one leaf path. Which turns share a builder is
decided by consecutive turns alone: a builder compares an incoming prompt with
the prompt and the output of its last turn.
-/

namespace Vime.Agent

open Vime.Foundation Vime.Utils

variable {Message F : Type}

/-- The drift of a turn after another turn, as a builder that ends with the
first one classifies it. -/
def turnDrift (forkThreshold : Nat) (turn next : TurnRecord F) : DriftKind :=
  SampleBuilder.classifyTokenDrift
    { forkThreshold := forkThreshold
      tokens := turn.promptIds ++ turn.outputIds
      lastResponseStartIdx := some turn.promptIds.length
      replay := turn.replay }
    next

/-- A generated turn and whether its response is trained where it is appended. -/
structure FlaggedTurn (F : Type) where
  turn : TurnRecord F
  trained : Bool

/-- The `response_trained` flags after a node was reached. -/
def claim (claimed : List Nat) (id : Nat) : List Nat :=
  if claimed.contains id then claimed else id :: claimed

def claimPath (claimed : List Nat) (path : List (Nat × TurnRecord F)) : List Nat :=
  path.foldl (fun claimed node => claim claimed node.1) claimed

def flaggedPath : List Nat → List (Nat × TurnRecord F) → List (FlaggedTurn F)
  | _, [] => []
  | claimed, node :: rest =>
      { turn := node.2, trained := !claimed.contains node.1 } ::
        flaggedPath (claim claimed node.1) rest

def flaggedPaths :
    List Nat → List (List (Nat × TurnRecord F)) → List (List (FlaggedTurn F))
  | _, [] => []
  | claimed, path :: rest =>
      flaggedPath claimed path :: flaggedPaths (claimPath claimed path) rest

def sameRun (forkThreshold : Nat) (flagged next : FlaggedTurn F) : Bool :=
  turnDrift forkThreshold flagged.turn next.turn != .fork

def turnRuns (forkThreshold : Nat) (path : List (FlaggedTurn F)) :
    List (List (FlaggedTurn F)) :=
  path.splitBy (sameRun forkThreshold)

def realigns (forkThreshold : Nat) (flagged next : FlaggedTurn F) : Bool :=
  turnDrift forkThreshold flagged.turn next.turn == .realign

/-- The turns of a run whose responses are kept: a turn that realigns overwrites
the response before it. -/
def survivors (forkThreshold : Nat) : List (FlaggedTurn F) → List (FlaggedTurn F)
  | [] => []
  | flagged :: rest =>
      if rest.head?.any (realigns forkThreshold flagged) then
        survivors forkThreshold rest
      else
        flagged :: survivors forkThreshold rest

theorem survivors_concat (forkThreshold : Nat) (before : List (FlaggedTurn F))
    (last next : FlaggedTurn F) :
    ∃ body, survivors forkThreshold (before ++ [last]) = body ++ [last] ∧
      survivors forkThreshold (before ++ [last] ++ [next]) =
        (if realigns forkThreshold last next then body else body ++ [last]) ++ [next] := by
  induction before with
  | nil =>
      refine ⟨[], by simp [survivors], ?_⟩
      cases realigned : realigns forkThreshold last next <;> simp [survivors, realigned]
  | cons flagged before induction =>
      rcases induction with ⟨body, ends, grows⟩
      have sameHead : (before ++ [last] ++ [next]).head? = (before ++ [last]).head? := by
        cases before <;> rfl
      rw [List.cons_append, List.cons_append, survivors, survivors, sameHead, ends, grows]
      by_cases realigned : (before ++ [last]).head?.any (realigns forkThreshold flagged) = true
      · exact ⟨body, by rw [if_pos realigned], by rw [if_pos realigned]⟩
      · refine ⟨flagged :: body, by rw [if_neg realigned, List.cons_append], ?_⟩
        rw [if_neg realigned]
        split <;> rfl

/-! ## Replay dictionaries of a run -/

namespace Replay

theorem keys_eq_iff {left right : Replay F} :
    left.keys = right.keys ↔
      left.topPTokenIds.isSome = right.topPTokenIds.isSome ∧
      left.topPTokenOffsets.isSome = right.topPTokenOffsets.isSome ∧
      left.topPLogProbs.isSome = right.topPLogProbs.isSome ∧
      left.topkTokenIds.isSome = right.topkTokenIds.isSome ∧
      left.topkLogProbs.isSome = right.topkLogProbs.isSome ∧
      left.routedExperts.isSome = right.routedExperts.isSome := by
  simp [Replay.keys]

end Replay

namespace SampleBuilder

/-- A turn that does not fork: the dictionaries have one shape, hold no routed
experts, and the drift is absent or lies in the last response of a builder
without replay data. -/
theorem classifyTokenDrift_extends {builder : SampleBuilder F} {turn : TurnRecord F}
    (extends_ : builder.classifyTokenDrift turn ≠ .fork) :
    Replay.SameShape (builder.replay.getD {}) (turn.replay.getD {}) ∧
      (turn.replay.getD {}).routedExperts = none ∧
      (builder.classifyTokenDrift turn = .clean ∧
          builder.tokens.length ≤ commonPrefixLength builder.tokens turn.promptIds ∨
        builder.classifyTokenDrift turn = .realign ∧
          (builder.replay.getD {}).nonempty = false ∧
          ∃ start, builder.lastResponseStartIdx = some start ∧
            start ≤ commonPrefixLength builder.tokens turn.promptIds) := by
  have bound := commonPrefixLength_le_left builder.tokens turn.promptIds
  rw [classifyTokenDrift] at extends_ ⊢
  rw [commonPrefixLen_eq _ _ _ (by decide)] at extends_ ⊢
  dsimp only at extends_ ⊢
  split at extends_
  · exact absurd rfl extends_
  rename_i sameKeys
  simp only [Bool.or_eq_true, not_or, bne_iff_ne, ne_eq, Decidable.not_not] at sameKeys
  split at extends_
  · exact absurd rfl extends_
  rename_i sameWidth
  rcases sameKeys with ⟨⟨noExperts, noNewExperts⟩, sameKeys⟩
  have shape : Replay.SameShape (builder.replay.getD {}) (turn.replay.getD {}) := by
    constructor
    · exact sameKeys
    · by_cases present : (builder.replay.getD {}).topkTokenIds.isSome = true
      · simpa [present] using sameWidth
      · have absent := (Replay.keys_eq_iff.mp sameKeys).2.2.2.1
        simp only [Bool.not_eq_true, Option.isSome_eq_false_iff, Option.isNone_iff_eq_none]
          at present
        rw [present, Option.isSome_none, eq_comm, Option.isSome_eq_false_iff,
          Option.isNone_iff_eq_none] at absent
        rw [present, absent]
  refine ⟨shape, by simpa using noNewExperts, ?_⟩
  rw [if_neg (by simp [noExperts, noNewExperts, sameKeys]), if_neg sameWidth]
  split at extends_
  · rename_i clean
    rw [if_pos clean]
    exact .inl ⟨rfl, by omega⟩
  · rename_i drifted
    rw [if_neg drifted]
    split at extends_
    · exact absurd rfl extends_
    · rename_i noReplay
      rw [if_neg noReplay]
      cases start : builder.lastResponseStartIdx with
      | none => simp [start] at extends_
      | some start' =>
          simp only [start] at extends_ ⊢
          split at extends_
          · rename_i realigned
            rw [if_pos realigned]
            exact .inr ⟨rfl, by simpa using noReplay, start', rfl, realigned.1⟩
          · exact absurd rfl extends_

theorem classifyTokenDrift_congr {left right : SampleBuilder F} {turn : TurnRecord F}
    (sameThreshold : left.forkThreshold = right.forkThreshold)
    (sameTokens : left.tokens = right.tokens)
    (sameStart : left.lastResponseStartIdx = right.lastResponseStartIdx)
    (sameShape : Replay.SameShape (left.replay.getD {}) (right.replay.getD {})) :
    left.classifyTokenDrift turn = right.classifyTokenDrift turn := by
  rw [classifyTokenDrift, classifyTokenDrift, sameThreshold, sameTokens, sameStart]
  simp only [sameShape.routedExperts, sameShape.keys, sameShape.topk, sameShape.width,
    sameShape.nonempty]

section Append

variable [LogProbValue F]

omit [LogProbValue F] in
theorem appendReplayField_isSome {α : Type} {held incoming result : Option (List α)}
    (appended : appendReplayField held incoming = .ok result) :
    held.isSome = result.isSome := by
  rcases held with _ | old <;> rcases incoming with _ | new <;>
    simp only [appendReplayField, Except.ok.injEq, reduceCtorEq] at appended <;>
    simp [← appended]

omit [LogProbValue F] in
theorem appendReplayRows_eq_ok {α : Type} {width : Nat} {held incoming : Option (TokenRows α)}
    {padding : List (List α)} {result : Option (TokenRows α)} :
    appendReplayRows width held incoming padding = .ok result ↔
      ∃ old new, held = some old ∧ incoming = some new ∧ old.width = width ∧
        new.width = width ∧
        result = some { old with rows := old.rows ++ padding ++ new.rows } := by
  rcases held with _ | old <;> rcases incoming with _ | new <;> simp [appendReplayRows]
  split
  · rename_i sameWidth
    simp [sameWidth, eq_comm]
  · rename_i differ
    simp only [reduceCtorEq, false_iff, not_and]
    exact fun oldWidth newWidth => absurd ⟨oldWidth, newWidth⟩ differ

omit [LogProbValue F] in
theorem appendTopP_cases {held incoming result : Replay F} {gap : Nat}
    (appended : appendTopP held incoming gap = .ok result) :
    incoming.topPTokenOffsets = none ∧ result = held ∨
      ∃ newOffsets offsets last ids logProbs,
        incoming.topPTokenOffsets = some newOffsets ∧ held.topPTokenOffsets = some offsets ∧
        offsets.getLast? = some last ∧
        appendReplayField held.topPTokenIds incoming.topPTokenIds = .ok ids ∧
        appendReplayField held.topPLogProbs incoming.topPLogProbs = .ok logProbs ∧
        result = { held with
          topPTokenOffsets := some (offsets ++
            List.replicate gap last ++ (newOffsets.drop 1).map (· + last))
          topPTokenIds := ids
          topPLogProbs := logProbs } := by
  rw [appendTopP] at appended
  split at appended
  · rename_i absent
    exact .inl ⟨absent, (Except.ok.inj appended).symm⟩
  · cases appended
  · rename_i newOffsets offsets isNew isHeld
    rcases bind_eq_ok.mp appended with ⟨last, lastEq, more⟩
    rcases bind_eq_ok.mp more with ⟨ids, idsEq, more⟩
    rcases bind_eq_ok.mp more with ⟨logProbs, logProbsEq, more⟩
    exact .inr ⟨newOffsets, offsets, last, ids, logProbs, isNew, isHeld,
      lastItem_eq_ok.mp lastEq, idsEq, logProbsEq, (Except.ok.inj more).symm⟩

theorem appendTopk_cases {held incoming result : Replay F} {gap : Nat}
    (appended : appendTopk held incoming gap = .ok result) :
    incoming.topkTokenIds = none ∧ result = held ∨
      ∃ newIds oldIds newLogProbs oldLogProbs,
        incoming.topkTokenIds = some newIds ∧ held.topkTokenIds = some oldIds ∧
        incoming.topkLogProbs = some newLogProbs ∧ held.topkLogProbs = some oldLogProbs ∧
        oldIds.width = newIds.width ∧
        result = { held with
          topkTokenIds := some { oldIds with
            rows := oldIds.rows ++
              List.replicate gap ((List.range newIds.width).map Int.ofNat) ++ newIds.rows }
          topkLogProbs := some { oldLogProbs with
            rows := oldLogProbs.rows ++
              List.replicate gap
                (List.replicate newIds.width (LogProbValue.uniform newIds.width)) ++
              newLogProbs.rows } } := by
  rw [appendTopk] at appended
  split at appended
  · rename_i absent
    exact .inl ⟨absent, (Except.ok.inj appended).symm⟩
  · rename_i newIds present
    rcases bind_eq_ok.mp appended with ⟨ids, idsEq, more⟩
    rcases bind_eq_ok.mp more with ⟨logProbs, logProbsEq, more⟩
    rcases check_bind_eq_ok.mp more with ⟨_, more⟩
    rcases appendReplayRows_eq_ok.mp idsEq with
      ⟨oldIds, new, heldIds, isNew, oldWidth, _, rfl⟩
    rcases appendReplayRows_eq_ok.mp logProbsEq with
      ⟨oldLogProbs, newLogProbs, heldLogProbs, isNewLogProbs, _, _, rfl⟩
    have same : newIds = new := Option.some.inj (present.symm.trans isNew)
    subst same
    exact .inr ⟨newIds, oldIds, newLogProbs, oldLogProbs, present, heldIds, isNewLogProbs,
      heldLogProbs, oldWidth, (Except.ok.inj more).symm⟩

omit [LogProbValue F] in
theorem appendTopP_keys {held incoming result : Replay F} {gap : Nat}
    (appended : appendTopP held incoming gap = .ok result) :
    held.keys = result.keys ∧ result.topkTokenIds = held.topkTokenIds ∧
      result.topkLogProbs = held.topkLogProbs := by
  rcases appendTopP_cases appended with ⟨_, rfl⟩ |
    ⟨_, offsets, _, _, _, _, present, _, idsEq, logProbsEq, rfl⟩
  · exact ⟨rfl, rfl, rfl⟩
  · refine ⟨?_, rfl, rfl⟩
    rw [Replay.keys_eq_iff]
    exact ⟨appendReplayField_isSome idsEq, by rw [present]; rfl,
      appendReplayField_isSome logProbsEq, rfl, rfl, rfl⟩

theorem appendTopk_shape {held incoming result : Replay F} {gap : Nat}
    (appended : appendTopk held incoming gap = .ok result)
    (sameKeys : held.keys = incoming.keys) : Replay.SameShape result incoming := by
  rcases appendTopk_cases appended with ⟨absent, rfl⟩ |
    ⟨newIds, oldIds, _, _, present, heldIds, _, heldLogProbs, sameWidth, rfl⟩
  · refine ⟨sameKeys, ?_⟩
    have noIds := (Replay.keys_eq_iff.mp sameKeys).2.2.2.1
    rw [absent, Option.isSome_none, Option.isSome_eq_false_iff,
      Option.isNone_iff_eq_none] at noIds
    rw [noIds, absent]
  · constructor
    · rw [← sameKeys, Replay.keys_eq_iff]
      simp [heldIds, heldLogProbs]
    · rw [present]
      simp [sameWidth]

theorem appendReplay_cases {held incoming result : Replay F} {gap : Int}
    (appended : appendReplay (some held) incoming gap = .ok result) :
    0 ≤ gap ∧ held.keys = incoming.keys ∧ incoming.routedExperts = none ∧
      ∃ withTopP, appendTopP held incoming gap.toNat = .ok withTopP ∧
        appendTopk withTopP incoming gap.toNat = .ok result := by
  rw [appendReplay] at appended
  rcases raiseIf_bind_eq_ok.mp appended with ⟨accepted, more⟩
  rcases raiseIf_bind_eq_ok.mp more with ⟨unrouted, more⟩
  rcases bind_eq_ok.mp more with ⟨withTopP, topPEq, more⟩
  rw [not_or, Decidable.not_not, Int.not_lt] at accepted
  exact ⟨accepted.1, accepted.2, by simpa using unrouted, withTopP, topPEq, more⟩

theorem appendReplay_shape {held : Option (Replay F)} {incoming result : Replay F} {gap : Int}
    (appended : appendReplay held incoming gap = .ok result) :
    Replay.SameShape result incoming := by
  cases held with
  | none =>
      rw [appendReplay, Except.ok.injEq] at appended
      exact appended ▸ .refl incoming
  | some held =>
      rcases appendReplay_cases appended with ⟨_, sameKeys, _, withTopP, topPEq, more⟩
      exact appendTopk_shape more ((appendTopP_keys topPEq).1.symm.trans sameKeys)

theorem appendedReplay_shape {builder : SampleBuilder F} {turn : TurnRecord F}
    {result : Option (Replay F)} (appended : builder.appendedReplay turn = .ok result)
    (before : turn.replay = none →
      Replay.SameShape (builder.replay.getD {}) (turn.replay.getD {})) :
    Replay.SameShape (result.getD {}) (turn.replay.getD {}) := by
  rw [appendedReplay.eq_def] at appended
  cases carried : turn.replay with
  | none =>
      rw [carried] at appended
      rw [← Except.ok.inj appended, ← carried]
      exact before carried
  | some incoming =>
      rw [carried] at appended
      rcases map_eq_ok.mp appended with ⟨replay, replayEq, rfl⟩
      exact appendReplay_shape replayEq

/-- The builder `next` after `turn`, of whose prompt `keep` tokens were held. -/
structure Appended (builder : SampleBuilder F) (turn : TurnRecord F) (keep : Nat)
    (trained : Bool) (next : SampleBuilder F) : Prop where
  agrees : keep ≤ commonPrefixLength builder.tokens turn.promptIds
  threshold : next.forkThreshold = builder.forkThreshold
  parallel : next.Parallel
  tokens : next.tokens = turn.promptIds ++ turn.outputIds
  lossMask : next.lossMask = builder.lossMask.take keep ++
    List.replicate (turn.promptIds.length - keep) 0 ++
    List.replicate turn.outputIds.length trained.toNat
  start : next.lastResponseStartIdx = some turn.promptIds.length
  leading : next.leadingPromptLen =
    if builder.lastResponseStartIdx.isNone then turn.promptIds.length
    else builder.leadingPromptLen
  replay : builder.appendedReplay turn = .ok next.replay

theorem appendTurn_appended {builder next : SampleBuilder F} {turn : TurnRecord F}
    {kind : DriftKind} {trained : Bool} (parallel : builder.Parallel)
    (recordable : turn.Recordable) (extends_ : kind ≠ .fork)
    (agrees : builder.keptLength kind ≤ commonPrefixLength builder.tokens turn.promptIds)
    (appended : builder.appendTurn turn kind trained = .ok next) :
    Appended builder turn (builder.keptLength kind) trained next := by
  rcases (appendTurn_eq_ok parallel extends_).mp appended with ⟨replay, replayEq, rfl⟩
  constructor
  · exact agrees
  · rfl
  · constructor
    · simp [absorb, parallel.lossMask]
    · simp [absorb, parallel.logprobs, recordable.sampledLogProbs_length]
  · exact absorb_tokens trained agrees
  · rfl
  · exact absorb_lastResponseStartIdx trained agrees
  · rfl
  · exact replayEq

end Append

end SampleBuilder

/-! ## Builders of runs -/

section Built

variable [LogProbValue F] {forkThreshold : Nat}

/-- The builder that `_split_chain_into_builders` fills with the turns of a run. -/
inductive Built (forkThreshold : Nat) : List (FlaggedTurn F) → SampleBuilder F → Prop
  | opened {flagged builder} :
      flagged.turn.Recordable →
      ({ forkThreshold := forkThreshold } : SampleBuilder F).appendTurn flagged.turn .clean
        flagged.trained = .ok builder →
      Built forkThreshold [flagged] builder
  | extended {before last builder flagged next} :
      Built forkThreshold (before ++ [last]) builder →
      flagged.turn.Recordable →
      builder.classifyTokenDrift flagged.turn ≠ .fork →
      builder.appendTurn flagged.turn (builder.classifyTokenDrift flagged.turn)
        flagged.trained = .ok next →
      Built forkThreshold (before ++ [last] ++ [flagged]) next

/-- What a builder holds after a run that ends with `last`. -/
structure HoldsRun (forkThreshold : Nat) (last : FlaggedTurn F)
    (builder : SampleBuilder F) : Prop where
  threshold : builder.forkThreshold = forkThreshold
  parallel : builder.Parallel
  tokens : builder.tokens = last.turn.promptIds ++ last.turn.outputIds
  start : builder.lastResponseStartIdx = some last.turn.promptIds.length
  shape : Replay.SameShape (builder.replay.getD {}) (last.turn.replay.getD {})

omit [LogProbValue F] in
theorem HoldsRun.classifyTokenDrift {last : FlaggedTurn F} {builder : SampleBuilder F}
    (holds : HoldsRun forkThreshold last builder) (next : TurnRecord F) :
    builder.classifyTokenDrift next = turnDrift forkThreshold last.turn next :=
  SampleBuilder.classifyTokenDrift_congr holds.threshold holds.tokens holds.start holds.shape

def keptAfter (forkThreshold : Nat) (last next : FlaggedTurn F) : Nat :=
  if realigns forkThreshold last next then last.turn.promptIds.length
  else last.turn.promptIds.length + last.turn.outputIds.length

theorem opened_appended {flagged : FlaggedTurn F} {builder : SampleBuilder F}
    (recordable : flagged.turn.Recordable)
    (appended : ({ forkThreshold := forkThreshold } : SampleBuilder F).appendTurn flagged.turn
      .clean flagged.trained = .ok builder) :
    SampleBuilder.Appended { forkThreshold := forkThreshold } flagged.turn 0 flagged.trained
      builder :=
  SampleBuilder.appendTurn_appended (SampleBuilder.parallel_initial forkThreshold) recordable
    (by simp) (Nat.zero_le _) appended

theorem HoldsRun.appended {last flagged : FlaggedTurn F} {builder next : SampleBuilder F}
    (holds : HoldsRun forkThreshold last builder) (recordable : flagged.turn.Recordable)
    (extends_ : builder.classifyTokenDrift flagged.turn ≠ .fork)
    (appended : builder.appendTurn flagged.turn (builder.classifyTokenDrift flagged.turn)
      flagged.trained = .ok next) :
    SampleBuilder.Appended builder flagged.turn (keptAfter forkThreshold last flagged)
      flagged.trained next := by
  have drift := holds.classifyTokenDrift flagged.turn
  rcases (SampleBuilder.classifyTokenDrift_extends extends_).2.2 with
    ⟨clean, agrees⟩ | ⟨realigned, _, start, isStart, agrees⟩
  · have whole : keptAfter forkThreshold last flagged = builder.keptLength .clean := by
      rw [keptAfter, if_neg (by rw [realigns, ← drift, clean]; decide),
        SampleBuilder.keptLength, holds.tokens, List.length_append]
      simp
    rw [clean] at appended extends_
    rw [whole]
    exact SampleBuilder.appendTurn_appended holds.parallel recordable extends_ agrees appended
  · have sameStart : last.turn.promptIds.length = start := by
      rw [holds.start] at isStart
      exact Option.some.inj isStart
    have head : keptAfter forkThreshold last flagged = builder.keptLength .realign := by
      rw [keptAfter, realigns, ← drift, realigned, SampleBuilder.keptLength, holds.start]
      simp
    rw [realigned] at appended extends_
    rw [head]
    refine SampleBuilder.appendTurn_appended holds.parallel recordable extends_ ?_ appended
    rw [SampleBuilder.keptLength, holds.start, Option.getD_some, sameStart]
    exact agrees

theorem HoldsRun.opened {flagged : FlaggedTurn F} {builder : SampleBuilder F}
    (appended : SampleBuilder.Appended { forkThreshold := forkThreshold } flagged.turn 0
      flagged.trained builder) : HoldsRun forkThreshold flagged builder where
  threshold := appended.threshold
  parallel := appended.parallel
  tokens := appended.tokens
  start := appended.start
  shape := SampleBuilder.appendedReplay_shape appended.replay
    fun absent => by rw [absent]; exact .refl _

theorem HoldsRun.extended {last flagged : FlaggedTurn F} {builder next : SampleBuilder F}
    (holds : HoldsRun forkThreshold last builder)
    (extends_ : builder.classifyTokenDrift flagged.turn ≠ .fork)
    (appended : SampleBuilder.Appended builder flagged.turn
      (keptAfter forkThreshold last flagged) flagged.trained next) :
    HoldsRun forkThreshold flagged next where
  threshold := appended.threshold.trans holds.threshold
  parallel := appended.parallel
  tokens := appended.tokens
  start := appended.start
  shape := SampleBuilder.appendedReplay_shape appended.replay
    fun _ => (SampleBuilder.classifyTokenDrift_extends extends_).1

theorem Built.holdsRun {run : List (FlaggedTurn F)} {builder : SampleBuilder F}
    (built : Built forkThreshold run builder) :
    ∀ {before : List (FlaggedTurn F)} {last : FlaggedTurn F}, run = before ++ [last] →
      HoldsRun forkThreshold last builder := by
  induction built with
  | opened recordable appended =>
      intro before last ends
      have same := (List.append_inj' (ends.symm.trans (List.nil_append _).symm) rfl).2
      rw [List.singleton_inj.mp same]
      exact .opened (opened_appended recordable appended)
  | extended _ recordable extends_ appended induction =>
      intro before last ends
      have same := (List.append_inj' ends rfl).2
      rw [← List.singleton_inj.mp same]
      exact (induction rfl).extended extends_
        ((induction rfl).appended recordable extends_ appended)

theorem Built.invariant {motive : List (FlaggedTurn F) → SampleBuilder F → Prop}
    (opened : ∀ flagged builder,
      SampleBuilder.Appended { forkThreshold := forkThreshold } flagged.turn 0 flagged.trained
        builder → motive [flagged] builder)
    (extended : ∀ before last builder flagged next, motive (before ++ [last]) builder →
      HoldsRun forkThreshold last builder →
      builder.classifyTokenDrift flagged.turn ≠ .fork →
      SampleBuilder.Appended builder flagged.turn (keptAfter forkThreshold last flagged)
        flagged.trained next → motive (before ++ [last] ++ [flagged]) next)
    {run : List (FlaggedTurn F)} {builder : SampleBuilder F}
    (built : Built forkThreshold run builder) : motive run builder := by
  induction built with
  | opened recordable appended => exact opened _ _ (opened_appended recordable appended)
  | extended before recordable extends_ appended induction =>
      have holds := before.holdsRun rfl
      exact extended _ _ _ _ _ induction holds extends_
        (holds.appended recordable extends_ appended)

theorem Built.exists_last {run : List (FlaggedTurn F)} {builder : SampleBuilder F}
    (built : Built forkThreshold run builder) : ∃ before last, run = before ++ [last] := by
  cases built with
  | opened _ _ => exact ⟨[], _, rfl⟩
  | extended _ _ _ _ => exact ⟨_, _, rfl⟩

theorem Built.parallel {run : List (FlaggedTurn F)} {builder : SampleBuilder F}
    (built : Built forkThreshold run builder) : builder.Parallel :=
  Built.invariant (motive := fun _ builder => builder.Parallel)
    (fun _ _ appended => appended.parallel)
    (fun _ _ _ _ _ _ _ _ appended => appended.parallel) built

/-! ## Chains -/

omit [LogProbValue F] in
theorem claim_eq (claimed : List Nat) (id : Nat) :
    claim claimed id = if (!claimed.contains id) = true then id :: claimed else claimed := by
  rw [claim]
  cases claimed.contains id <;> rfl

theorem splitStep_first {claimed : List Nat} {node : Nat × TurnRecord F}
    {state : List (SampleBuilder F) × List Nat}
    (stepped : splitStep forkThreshold ([], claimed) node = .ok state) :
    ∃ first, ({ forkThreshold := forkThreshold } : SampleBuilder F).appendTurn node.2 .clean
        (!claimed.contains node.1) = .ok first ∧
      state = ([first], claim claimed node.1) := by
  rw [splitStep] at stepped
  rcases bind_eq_ok.mp stepped with ⟨first, opened, returned⟩
  exact ⟨first, opened, by rw [claim_eq]; exact (Except.ok.inj returned).symm⟩

theorem splitStep_later {current : SampleBuilder F} {closed : List (SampleBuilder F)}
    {claimed : List Nat} {node : Nat × TurnRecord F}
    {state : List (SampleBuilder F) × List Nat}
    (stepped : splitStep forkThreshold (current :: closed, claimed) node = .ok state) :
    (current.classifyTokenDrift node.2 = .fork ∧
      ∃ next, ({ forkThreshold := forkThreshold } : SampleBuilder F).appendTurn node.2 .clean
          (!claimed.contains node.1) = .ok next ∧
        state = (next :: current :: closed, claim claimed node.1)) ∨
    (current.classifyTokenDrift node.2 ≠ .fork ∧
      ∃ next, current.appendTurn node.2 (current.classifyTokenDrift node.2)
          (!claimed.contains node.1) = .ok next ∧
        state = (next :: closed, claim claimed node.1)) := by
  rw [splitStep] at stepped
  rw [claim_eq]
  cases drift : current.classifyTokenDrift node.2 with
  | fork =>
      simp only [drift] at stepped
      rcases bind_eq_ok.mp stepped with ⟨next, opened, returned⟩
      exact .inl ⟨rfl, next, opened, (Except.ok.inj returned).symm⟩
  | clean =>
      simp only [drift] at stepped
      rcases bind_eq_ok.mp stepped with ⟨next, extended, returned⟩
      exact .inr ⟨by simp, next, extended, (Except.ok.inj returned).symm⟩
  | realign =>
      simp only [drift] at stepped
      rcases bind_eq_ok.mp stepped with ⟨next, extended, returned⟩
      exact .inr ⟨by simp, next, extended, (Except.ok.inj returned).symm⟩

/-- Adding the turns of a path to a builder yields the builders of its runs. -/
theorem foldlM_splitStep_runs {nodes : List (Nat × TurnRecord F)}
    (recordable : ∀ node ∈ nodes, node.2.Recordable) {current : SampleBuilder F}
    {closed builders : List (SampleBuilder F)} {claimed after : List Nat}
    {last : FlaggedTurn F} {before : List (FlaggedTurn F)}
    {groups : List (List (FlaggedTurn F))}
    (held : Built forkThreshold (before.reverse ++ [last]) current)
    (older : List.Forall₂ (Built forkThreshold) groups closed)
    (ran : nodes.foldlM (splitStep forkThreshold) (current :: closed, claimed) =
      .ok (builders, after)) :
    after = claimPath claimed nodes ∧
      List.Forall₂ (Built forkThreshold)
        (List.splitBy.loop (sameRun forkThreshold) (flaggedPath claimed nodes) last before
          groups) builders.reverse := by
  induction nodes generalizing current closed claimed last before groups with
  | nil =>
      rw [List.foldlM_nil, pure_eq_ok, Except.ok.injEq, Prod.mk.injEq] at ran
      rw [← ran.1, ← ran.2, flaggedPath, List.splitBy.loop]
      refine ⟨rfl, ?_⟩
      rw [List.forall₂_reverse_iff, List.reverse_cons]
      exact .cons held older
  | cons node rest induction =>
      rw [List.forall_mem_cons] at recordable
      rw [List.foldlM_cons] at ran
      rcases bind_eq_ok.mp ran with ⟨state, stepped, later⟩
      have drift := (held.holdsRun rfl).classifyTokenDrift node.2
      rw [flaggedPath, List.splitBy.loop, sameRun, ← drift]
      rcases splitStep_later stepped with ⟨forks, next, opened, rfl⟩ |
        ⟨extends_, next, extended, rfl⟩
      · rw [forks]
        refine induction recordable.2 (.opened recordable.1 opened) ?_ later
        rw [List.reverse_cons]
        exact .cons held older
      · rw [bne_iff_ne.mpr extends_]
        refine induction recordable.2 ?_ older later
        rw [List.reverse_cons]
        exact .extended held recordable.1 extends_ extended

theorem splitChainIntoBuilders_runs {chain : List (MessageNode Message F)}
    (recordable : ∀ node ∈ assistantNodes chain, node.2.Recordable) {claimed after : List Nat}
    {builders : List (SampleBuilder F)}
    (ran : splitChainIntoBuilders forkThreshold claimed chain = .ok (builders, after)) :
    after = claimPath claimed (assistantNodes chain) ∧
      List.Forall₂ (Built forkThreshold)
        (turnRuns forkThreshold (flaggedPath claimed (assistantNodes chain))) builders := by
  rw [splitChainIntoBuilders] at ran
  rcases bind_eq_ok.mp ran with ⟨⟨recent, flags⟩, folded, returned⟩
  dsimp only at returned
  rw [pure_eq_ok, Except.ok.injEq, Prod.mk.injEq] at returned
  rcases returned with ⟨rfl, rfl⟩
  cases nodes : assistantNodes chain with
  | nil =>
      rw [nodes, List.foldlM_nil, pure_eq_ok, Except.ok.injEq, Prod.mk.injEq] at folded
      rw [← folded.1, ← folded.2]
      exact ⟨rfl, .nil⟩
  | cons node rest =>
      rw [nodes, List.forall_mem_cons] at recordable
      rw [nodes, List.foldlM_cons] at folded
      rcases bind_eq_ok.mp folded with ⟨state, stepped, later⟩
      rcases splitStep_first stepped with ⟨first, opened, rfl⟩
      let flagged : FlaggedTurn F := { turn := node.2, trained := !claimed.contains node.1 }
      have held : Built forkThreshold [flagged] first := .opened recordable.1 opened
      exact foldlM_splitStep_runs recordable.2 held .nil later

end Built

end Vime.Agent
