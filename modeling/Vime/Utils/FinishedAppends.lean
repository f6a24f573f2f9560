import Vime.Utils.RejectedSpans

/-! # Finished appends

What follows the score-centering blocks: tokens, log probabilities and the
metadata of the reply, with the checks that decide whether the method returns.
-/

namespace Vime.Utils.Types

open Vime.Foundation Vime.Utils Vime.Utils.ScoreCentering

variable {F : Type}

/-! ## The rest of the method -/

theorem applyCallMetaInfo_eq (args : Option Args) (call : AppendCall F) (sample : Sample F) :
    sample.applyCallMetaInfo args call =
      sample.applyMetaInfo args ((Sample.remainingMetaInfo args call).getD {})
        call.tokens.length (decide (call.tokens ≠ []) && !call.trainable)
        call.updateTerminalInfo := by
  rw [Sample.applyCallMetaInfo]
  by_cases applies : (Sample.remainingMetaInfo args call).isSome = true ∨
      (decide (call.tokens ≠ []) && !call.trainable) = true
  · rw [if_pos applies]
  · rw [if_neg applies]
    rw [not_or, Bool.not_eq_true, Bool.not_eq_true, Option.isSome_eq_false_iff,
      Option.isNone_iff_eq_none] at applies
    rw [applies.1, applies.2, Option.getD_none]
    have topP : sample.applyTopP ({} : MetaInfo F) call.tokens.length false =
        .ok (sample.rolloutTopPTokenIds, sample.rolloutTopPTokenOffsets) := by
      rw [Sample.applyTopP]
      split
      · exact addTopP_none sample call.tokens.length
      · rw [extract_none rfl rfl, ok_bind]
        exact addTopP_none sample call.tokens.length
    exact (applyMetaInfo_eq rfl call.updateTerminalInfo topP).symm

structure FinishChecks (args : Option Args) (call : AppendCall F) (logProbs : Option (List F))
    (sample : Sample F) : Prop where
  logProbs : logProbs.isSome = true → call.trainable = true → sample.rolloutLogProbs = none →
    sample.responseLength = 0
  experts : ∃ placed, Sample.applyRoutedExperts args
    ((Sample.remainingMetaInfo args call).getD {})
    (sample.tokens.length + call.tokens.length) sample.rolloutRoutedExperts = .ok placed
  topkIds : ∀ held ∈ sample.rolloutTopkTokenIds,
    held.rows.length = sample.responseLength + call.tokens.length
  topkLogps : ∀ held ∈ sample.rolloutTopkLogProbs,
    held.rows.length = sample.responseLength + call.tokens.length
  topP : ∃ ids offsets, sample.applyTopP ((Sample.remainingMetaInfo args call).getD {})
      call.tokens.length (decide (call.tokens ≠ []) && !call.trainable) = .ok (ids, offsets) ∧
    Sample.validateTopP ids offsets sample.rolloutTopPLogProbs
      (sample.responseLength + call.tokens.length) = .ok ()

theorem applyTerminalInfo_aligned (args : Option Args) (info : MetaInfo F) (newTokenCount : Nat)
    (updateTerminalInfo : Bool) (sample : Sample F) :
    LengthsAligned (sample.applyTerminalInfo args info newTokenCount updateTerminalInfo) ↔
      LengthsAligned sample := by
  rw [Sample.applyTerminalInfo]
  split
  · exact Iff.rfl
  · split
    · exact ⟨fun aligned => ⟨aligned.topkIds, aligned.topkLogps, aligned.lossMask,
        aligned.logProbs, aligned.topP⟩, fun aligned => ⟨aligned.topkIds, aligned.topkLogps,
        aligned.lossMask, aligned.logProbs, aligned.topP⟩⟩
    · exact Iff.rfl

theorem applyTerminalInfo_tokens (args : Option Args) (info : MetaInfo F) (newTokenCount : Nat)
    (updateTerminalInfo : Bool) (sample : Sample F) :
    (sample.applyTerminalInfo args info newTokenCount updateTerminalInfo).tokens =
      sample.tokens := by
  rw [Sample.applyTerminalInfo]
  split
  · rfl
  · split <;> rfl

theorem applyTopP_congr {sample other : Sample F} (info : MetaInfo F) (newTokenCount : Nat)
    (pad : Bool) (sameIds : other.rolloutTopPTokenIds = sample.rolloutTopPTokenIds)
    (sameOffsets : other.rolloutTopPTokenOffsets = sample.rolloutTopPTokenOffsets) :
    other.applyTopP info newTokenCount pad = sample.applyTopP info newTokenCount pad := by
  have same (data : Option (List Int32 × List Int32)) :
      other.addTopP data newTokenCount pad = sample.addTopP data newTokenCount pad := by
    cases data with
    | none => rw [Sample.addTopP, Sample.addTopP, sameIds, sameOffsets]
    | some replay => rw [Sample.addTopP, Sample.addTopP, sameIds, sameOffsets]
  rw [Sample.applyTopP, Sample.applyTopP]
  simp only [same]

/-- The rest of the method raises after it has appended the tokens. -/
theorem finishAppend_raises [LogProbValue F] {args : Option Args} {call : AppendCall F}
    {previous : Nat} {logProbs : Option (List F)} {sample : Sample F} {rejection : Rejection F}
    (raised : sample.finishAppend args call previous logProbs = .error rejection) :
    rejection.sample.tokens = sample.tokens ++ call.tokens := by
  have appended := addTokens_tokens call sample
  rw [Sample.finishAppend] at raised
  cases held : (sample.addTokens call).addLogProbs call.trainable previous logProbs with
  | error early =>
      rw [held, error_bind] at raised
      rw [← Except.error.inj raised, ← appended]
      rw [Sample.addLogProbs.eq_def] at held
      split at held
      · cases held
      · cases held
      · split at held
        · rw [← Except.error.inj held]
        · cases held
  | ok withLogProbs =>
      rcases addLogProbs_frame held with ⟨entries, isHeld⟩
      have sameTokens : withLogProbs.tokens = sample.tokens ++ call.tokens := by
        rw [isHeld]
        exact appended
      rw [held, ok_bind, applyCallMetaInfo_eq, Sample.applyMetaInfo] at raised
      cases topP : withLogProbs.applyTopP ((Sample.remainingMetaInfo args call).getD {})
          call.tokens.length (decide (call.tokens ≠ []) && !call.trainable) with
      | error exception =>
          rw [topP, attempt_error, error_bind, error_bind] at raised
          rw [← Except.error.inj raised]
          exact sameTokens
      | ok spans =>
          rw [topP, attempt_ok, ok_bind] at raised
          dsimp only at raised
          cases experts : Sample.applyRoutedExperts args
              ((Sample.remainingMetaInfo args call).getD {}) withLogProbs.tokens.length
              withLogProbs.rolloutRoutedExperts with
          | error exception =>
              rw [experts, attempt_error, error_bind, error_bind] at raised
              rw [← Except.error.inj raised]
              exact sameTokens
          | ok placed =>
              rw [experts, attempt_ok, ok_bind, ok_bind] at raised
              cases checked : Sample.validateResponseMetadataLengths (Sample.applyTerminalInfo args
                  ((Sample.remainingMetaInfo args call).getD {}) call.tokens.length
                  call.updateTerminalInfo
                  { withLogProbs with
                    rolloutTopPTokenIds := spans.1
                    rolloutTopPTokenOffsets := spans.2
                    rolloutRoutedExperts := placed }) with
              | error exception =>
                  rw [checked, attempt_error, error_bind] at raised
                  rw [← Except.error.inj raised, applyTerminalInfo_tokens]
                  exact sameTokens
              | ok passed =>
                  rw [checked] at raised
                  cases raised

/-- The log probabilities are added exactly if the tokens so far have some, or need none. -/
theorem addLogProbs_isOk [LogProbValue F] {trainable : Bool} {previous : Nat}
    {logProbs : Option (List F)} {sample : Sample F} :
    (∃ next, sample.addLogProbs trainable previous logProbs = .ok next) ↔
      (logProbs.isSome = true → trainable = true → sample.rolloutLogProbs = none →
        previous = 0) := by
  rw [Sample.addLogProbs.eq_def]
  cases logProbs with
  | none => simp
  | some added =>
      cases held : sample.rolloutLogProbs with
      | some before => simp
      | none =>
          by_cases existing : trainable = true ∧ previous ≠ 0
          · simp only [if_pos existing]
            simp [existing.1, existing.2, Sample.rejected]
          · simp only [if_neg existing]
            rw [not_and, not_not] at existing
            simp only [Except.ok.injEq, exists_eq', true_iff]
            exact fun _ isTrainable _ => existing isTrainable

theorem addLogProbs_length [LogProbValue F] {trainable : Bool} {logProbs : Option (List F)}
    {sample next : Sample F} {previous count : Nat}
    (returned : sample.addLogProbs trainable previous logProbs = .ok next)
    (aligned : ∀ held ∈ sample.rolloutLogProbs, held.length = previous)
    (added : ∀ entries ∈ logProbs, entries.length = count) (none : logProbs = none → count = 0) :
    ∀ held ∈ next.rolloutLogProbs, held.length = previous + count := by
  rw [Sample.addLogProbs.eq_def] at returned
  cases logProbs with
  | none =>
      rw [← Except.ok.inj returned, none rfl]
      exact aligned
  | some entries =>
      have counted := added entries rfl
      cases before : sample.rolloutLogProbs with
      | some held =>
          rw [before] at returned
          rw [← Except.ok.inj returned]
          intro all isAll
          rw [← Option.some.inj isAll, List.length_append, counted, aligned held before]
      | none =>
          rw [before] at returned
          dsimp only at returned
          split at returned
          · cases returned
          · rw [← Except.ok.inj returned]
            intro all isAll
            rw [← Option.some.inj isAll, List.length_append, counted, List.length_replicate]

theorem addTokens_lossMask_length {sample : Sample F} (call : AppendCall F)
    (aligned : ∀ held ∈ sample.lossMask, held.length = sample.responseLength) :
    ∀ held ∈ (sample.addTokens call).lossMask,
      held.length = sample.responseLength + call.tokens.length := by
  rw [Sample.addTokens]
  by_cases empty : call.tokens = []
  · rw [if_pos empty, empty]
    exact aligned
  · rw [if_neg empty]
    intro held isHeld
    rw [← Option.some.inj isHeld, List.length_append, List.length_replicate]
    cases before : sample.lossMask with
    | none => rw [Option.getD_none, List.length_replicate]
    | some mask => rw [Option.getD_some, aligned mask before]

/-- Metadata is applied exactly if its spans and its routed experts are. -/
theorem applyMetaInfo_eq_ok {args : Option Args} {info : MetaInfo F} {newTokenCount : Nat}
    {pad updateTerminalInfo : Bool} {sample next : Sample F} :
    sample.applyMetaInfo args info newTokenCount pad updateTerminalInfo = .ok next ↔
      ∃ ids offsets placed,
        sample.applyTopP info newTokenCount pad = .ok (ids, offsets) ∧
        Sample.applyRoutedExperts args info sample.tokens.length sample.rolloutRoutedExperts =
          .ok placed ∧
        Sample.applyTerminalInfo args info newTokenCount updateTerminalInfo
          { sample with
            rolloutTopPTokenIds := ids
            rolloutTopPTokenOffsets := offsets
            rolloutRoutedExperts := placed } = next := by
  rw [Sample.applyMetaInfo, bind_eq_ok]
  constructor
  · rintro ⟨⟨ids, offsets⟩, topP, more⟩
    rcases bind_eq_ok.mp more with ⟨placed, experts, same⟩
    exact ⟨ids, offsets, placed, attempt_eq_ok.mp topP, attempt_eq_ok.mp experts,
      Except.ok.inj same⟩
  · rintro ⟨ids, offsets, placed, topP, experts, same⟩
    refine ⟨(ids, offsets), attempt_eq_ok.mpr topP, ?_⟩
    exact bind_eq_ok.mpr ⟨placed, attempt_eq_ok.mpr experts, congrArg Except.ok same⟩

/-- The rest of the method returns exactly if its checks pass. -/
theorem finishAppend_isOk [LogProbValue F] {args : Option Args} {call : AppendCall F}
    {logProbs : Option (List F)} {sample : Sample F}
    (lossMask : ∀ held ∈ sample.lossMask, held.length = sample.responseLength)
    (heldLogProbs : ∀ held ∈ sample.rolloutLogProbs, held.length = sample.responseLength)
    (added : ∀ entries ∈ logProbs, entries.length = call.tokens.length)
    (none : logProbs = none → call.tokens.length = 0) :
    (∃ next, sample.finishAppend args call sample.responseLength logProbs = .ok next) ↔
      FinishChecks args call logProbs sample := by
  have sameTokens : (sample.addTokens call).tokens.length =
      sample.tokens.length + call.tokens.length := by
    rw [addTokens_tokens, List.length_append]
  have sameLength := addTokens_responseLength call sample
  have sameMask := addTokens_lossMask_length call lossMask
  have sameExperts : (sample.addTokens call).rolloutRoutedExperts =
      sample.rolloutRoutedExperts := by
    rw [Sample.addTokens]
    split <;> rfl
  rcases addTokens_others call sample with
    ⟨sameLogProbs, sameTopkIds, sameTopkLogps, sameIds, sameOffsets, sameLogps⟩
  have spans {entries : Option (List F)} {held : Sample F}
      (isHeld : held = { sample.addTokens call with rolloutLogProbs := entries }) :
      held.applyTopP ((Sample.remainingMetaInfo args call).getD {}) call.tokens.length
          (decide (call.tokens ≠ []) && !call.trainable) =
        sample.applyTopP ((Sample.remainingMetaInfo args call).getD {}) call.tokens.length
          (decide (call.tokens ≠ []) && !call.trainable) := by
    rw [isHeld]
    exact applyTopP_congr _ _ _ sameIds sameOffsets
  constructor
  · rintro ⟨next, returned⟩
    rcases bind_eq_ok.mp returned with ⟨held, heldEq, more⟩
    rcases addLogProbs_frame heldEq with ⟨entries, isHeld⟩
    rcases bind_eq_ok.mp more with ⟨applied, appliedEq, checked⟩
    rw [applyCallMetaInfo_eq, applyMetaInfo_eq_ok] at appliedEq
    rcases appliedEq with ⟨ids, offsets, placed, topP, experts, isApplied⟩
    rcases bind_eq_ok.mp checked with ⟨_, validated, _⟩
    have aligned := validate_eq_ok.mp (attempt_eq_ok.mp validated)
    rw [← isApplied, applyTerminalInfo_aligned] at aligned
    rw [spans isHeld] at topP
    subst isHeld
    constructor
    · rw [← sameLogProbs]
      exact addLogProbs_isOk.mp ⟨_, heldEq⟩
    · rw [← sameTokens, ← sameExperts]
      exact ⟨placed, experts⟩
    · rw [← sameTopkIds, ← sameLength]
      exact aligned.topkIds
    · rw [← sameTopkLogps, ← sameLength]
      exact aligned.topkLogps
    · refine ⟨ids, offsets, topP, ?_⟩
      rw [← sameLogps, ← sameLength]
      exact aligned.topP
  · intro checks
    have fits := checks.logProbs
    rw [← sameLogProbs] at fits
    rcases addLogProbs_isOk.mpr fits with ⟨held, heldEq⟩
    have logProbsLength := addLogProbs_length heldEq
      (by rw [sameLogProbs]; exact heldLogProbs) added none
    rcases addLogProbs_frame heldEq with ⟨entries, isHeld⟩
    rcases checks.experts with ⟨placed, experts⟩
    rcases checks.topP with ⟨ids, offsets, topP, checkedTopP⟩
    rw [← spans isHeld] at topP
    have heldExperts : Sample.applyRoutedExperts args
        ((Sample.remainingMetaInfo args call).getD {}) held.tokens.length
        held.rolloutRoutedExperts = .ok placed := by
      rw [isHeld]
      dsimp only
      rw [sameTokens, sameExperts]
      exact experts
    have applied : ∃ next, held.applyCallMetaInfo args call = .ok next ∧ LengthsAligned next := by
      refine ⟨_, (applyCallMetaInfo_eq args call held).trans
        (applyMetaInfo_eq_ok.mpr ⟨ids, offsets, placed, topP, heldExperts, rfl⟩), ?_⟩
      rw [applyTerminalInfo_aligned]
      subst isHeld
      constructor
      · dsimp only
        rw [sameTopkIds, sameLength]
        exact checks.topkIds
      · dsimp only
        rw [sameTopkLogps, sameLength]
        exact checks.topkLogps
      · dsimp only
        rw [sameLength]
        exact sameMask
      · dsimp only
        rw [sameLength]
        exact logProbsLength
      · dsimp only
        rw [sameLogps, sameLength]
        exact checkedTopP
    rcases applied with ⟨next, appliedEq, aligned⟩
    refine ⟨next, ?_⟩
    rw [Sample.finishAppend, heldEq, ok_bind, appliedEq, ok_bind, validate_eq_ok.mpr aligned]
    rfl

/-! ## Checks on the call's own metadata -/

def ExpertsPlaced (args : Option Args) (sample : Sample F) (call : AppendCall F) : Prop :=
  match (call.metaInfo.getD {}).routedExperts with
  | .error _ => False
  | .ok none => True
  | .ok (some flat) => ∃ given ∈ args, 0 ≤ (call.metaInfo.getD {}).routedExpertsStartLen ∧
      flat.length = (sample.tokens.length + call.tokens.length - 1 -
        (call.metaInfo.getD {}).routedExpertsStartLen.toNat) * given.numLayers *
          given.moeRouterTopk ∧
      (call.metaInfo.getD {}).routedExpertsStartLen.toNat ≤
        (sample.rolloutRoutedExperts.getD []).length

def PlainReplayFits (args : Option Args) (sample : Sample F) (call : AppendCall F) : Prop :=
  match extractRolloutTopPTokenData (call.metaInfo.getD {}) call.tokens.length with
  | .error _ => False
  | .ok none => call.trainable = true → sample.rolloutTopPTokenIds = none
  | .ok (some (ids, _)) =>
      if recordsTopP args = true ∨ sample.rolloutTopPTokenIds ≠ none then
        (sample.rolloutTopPTokenIds.getD []).length + ids.length < 2 ^ 31 ∧
          (ids = [] ∨ sample.rolloutTopPTokenIds ≠ none ∧ sample.rolloutTopPLogProbs = none)
      else
        sample.responseLength = 0 ∧ ∀ held ∈ sample.rolloutTopPLogProbs, held.length = ids.length

/-- The spans of the call fit: those of its sampler distribution where it is recorded, and
those of the plain replay elsewhere. -/
def ReplayFits (args : Option Args) (sample : Sample F) (call : AppendCall F) : Prop :=
  if recordsTopP args = true ∧ call.trainable = true then
    (sample.rolloutTopPTokenIds.getD []).length + call.sampledIds.length < 2 ^ 31
  else PlainReplayFits args sample call

structure LateChecks [SamplerValue F] (args : Option Args) (sample : Sample F)
    (call : AppendCall F) : Prop where
  heads : ExtendsHeads args sample
  distributions : ExtendsDistributions args sample call
  logProbs : call.trainable = true → sample.rolloutLogProbs = none → sample.responseLength = 0
  experts : ExpertsPlaced args sample call
  noHeads : recordsTopK args = false →
    sample.rolloutTopkTokenIds = none ∧ sample.rolloutTopkLogProbs = none
  replay : ReplayFits args sample call

theorem remaining_routedExperts (args : Option Args) (call : AppendCall F) :
    ((Sample.remainingMetaInfo args call).getD {}).routedExperts =
        (call.metaInfo.getD {}).routedExperts ∧
      ((Sample.remainingMetaInfo args call).getD {}).routedExpertsStartLen =
        (call.metaInfo.getD {}).routedExpertsStartLen := by
  rw [Sample.remainingMetaInfo]
  split
  · cases call.metaInfo with
    | none => exact ⟨rfl, rfl⟩
    | some info => exact ⟨rfl, rfl⟩
  · exact ⟨rfl, rfl⟩

theorem mergeRoutedExperts_isOk {existing : List (List Int32)} {startLen : Nat}
    {routedExperts : List (List Int32)} :
    (∃ merged, Sample.mergeRoutedExperts existing startLen routedExperts = .ok merged) ↔
      startLen ≤ existing.length := by
  rw [Sample.mergeRoutedExperts]
  simp only [check_bind_eq_ok, raiseIf_eq_ok, pure_eq_ok]
  constructor
  · rintro ⟨_, _, reaches, _⟩
    exact Nat.le_of_not_lt reaches
  · intro reaches
    refine ⟨existing.take startLen ++ routedExperts, ?_, Nat.not_lt_of_le reaches, rfl⟩
    rintro ⟨partial', empty⟩
    omega

theorem placeRoutedExperts_isOk {args : Args} {flat : List Int32} {startLen : Int}
    {tokenCount : Nat} {existing : List (List Int32)} :
    (∃ placed, Sample.placeRoutedExperts args flat startLen tokenCount existing = .ok placed) ↔
      0 ≤ startLen ∧
        flat.length = (tokenCount - 1 - startLen.toNat) * args.numLayers * args.moeRouterTopk ∧
        startLen.toNat ≤ existing.length := by
  rw [Sample.placeRoutedExperts]
  simp only [check_bind_eq_ok, raiseIf_eq_ok, Int.not_lt, not_not, exists_and_left,
    mergeRoutedExperts_isOk]

/-- Routed experts are applied exactly if they are placed. -/
theorem applyRoutedExperts_isOk (args : Option Args) (sample : Sample F) (call : AppendCall F) :
    (∃ placed, Sample.applyRoutedExperts args ((Sample.remainingMetaInfo args call).getD {})
        (sample.tokens.length + call.tokens.length) sample.rolloutRoutedExperts = .ok placed) ↔
      ExpertsPlaced args sample call := by
  rcases remaining_routedExperts args call with ⟨sameExperts, sameStart⟩
  rw [Sample.applyRoutedExperts, sameExperts, sameStart, ExpertsPlaced]
  cases (call.metaInfo.getD {}).routedExperts with
  | error message =>
      simp only [iff_false, not_exists]
      intro placed returned
      cases returned
  | ok flat =>
      cases flat with
      | none => exact ⟨fun _ => trivial, fun _ => ⟨_, rfl⟩⟩
      | some flat =>
          cases args with
          | none =>
              constructor
              · rintro ⟨_, ⟨⟩⟩
              · rintro ⟨_, ⟨⟩, _⟩
          | some given =>
              have placed {startLen : Int} {tokenCount : Nat} {existing : List (List Int32)} :
                  (∃ result, (do
                    let placed ← Sample.placeRoutedExperts given flat startLen tokenCount existing
                    pure (some placed) : Except PyException _) = .ok result) ↔
                    ∃ rows, Sample.placeRoutedExperts given flat startLen tokenCount existing =
                      .ok rows := by
                constructor
                · rintro ⟨_, returned⟩
                  rcases bind_eq_ok.mp returned with ⟨rows, rowsEq, _⟩
                  exact ⟨rows, rowsEq⟩
                · rintro ⟨rows, rowsEq⟩
                  exact ⟨some rows, bind_eq_ok.mpr ⟨rows, rowsEq, rfl⟩⟩
              refine placed.trans (placeRoutedExperts_isOk.trans ?_)
              constructor
              · exact fun fits => ⟨given, rfl, fits⟩
              · rintro ⟨_, ⟨⟩, fits⟩
                exact fits

/-! ## Checks on the spans -/

theorem extract_eq_some {info : MetaInfo F} {count : Nat} {ids offsets : List Int32}
    (extracted : extractRolloutTopPTokenData info count = .ok (some (ids, offsets))) :
    offsets.length = count + 1 ∧
      offsets.getLast?.map Int32.toInt = some (ids.length : Int) := by
  rcases bind_eq_ok.mp extracted with ⟨heldIds, _, more⟩
  rcases bind_eq_ok.mp more with ⟨heldOffsets, _, paired⟩
  cases heldIds with
  | none =>
      cases heldOffsets with
      | none => cases paired
      | some _ => cases paired
  | some heldIds =>
      cases heldOffsets with
      | none => cases paired
      | some heldOffsets =>
          rcases map_eq_ok.mp paired with ⟨replay, checked, isReplay⟩
          rw [checkedTopPTokenData, check_bind_eq_ok, bind_eq_ok] at checked
          rcases checked with ⟨_, last, isLast, later⟩
          rw [check_bind_eq_ok, check_bind_eq_ok, raiseIf_eq_ok, raiseIf_eq_ok, not_not,
            not_not] at later
          rcases later with ⟨ends, sized, same⟩
          have isPair := Except.ok.inj same
          rw [← isPair, Option.some.injEq, Prod.mk.injEq] at isReplay
          rw [← isReplay.1, ← isReplay.2, lastItem_eq_ok.mp isLast, Option.map_some, ends]
          exact ⟨sized, rfl⟩

section Replay

variable {sample : Sample F} {info : MetaInfo F} {count : Nat} {pad : Bool}

/-- The spans of a call that finds no replay. -/
theorem applyTopP_absent (ids : sample.rolloutTopPTokenIds = none)
    (offsets : sample.rolloutTopPTokenOffsets = none) (nonempty : count ≠ 0) :
    (∃ ids offsets, sample.applyTopP info count pad = .ok (ids, offsets) ∧
      Sample.validateTopP ids offsets sample.rolloutTopPLogProbs
        (sample.responseLength + count) = .ok ()) ↔
      match extractRolloutTopPTokenData info count with
      | .error _ => False
      | .ok none => True
      | .ok (some (ids, _)) => sample.responseLength = 0 ∧
          ∀ held ∈ sample.rolloutTopPLogProbs, held.length = ids.length := by
  rw [Sample.applyTopP, if_neg nonempty]
  cases extracted : extractRolloutTopPTokenData info count with
  | error exception => simp
  | ok data =>
      rw [ok_bind]
      cases data with
      | none =>
          have unchanged : sample.addTopP none count pad = .ok (none, none) := by
            rw [Sample.addTopP, if_neg (by simp [offsets]), ids, offsets]
          simp only [iff_true]
          exact ⟨none, none, unchanged, rfl⟩
      | some replay =>
          rcases extract_eq_some extracted with ⟨sized, last⟩
          have set : sample.addTopP (some replay) count pad =
              .ok (some replay.1, some replay.2) := by
            rw [Sample.addTopP, if_pos (by simp [ids, offsets])]
          dsimp only
          rw [set]
          constructor
          · rintro ⟨_, _, same, checked⟩
            cases same
            rcases validateTopP_some_eq_ok.mp checked with ⟨length, logps, _⟩
            exact ⟨by omega, logps⟩
          · rintro ⟨isFirst, logps⟩
            exact ⟨_, _, rfl, validateTopP_some_eq_ok.mpr ⟨by omega, logps, last⟩⟩

/-- The spans of a call that finds an aligned replay. -/
theorem applyTopP_present {heldIds heldOffsets : List Int32}
    (ids : sample.rolloutTopPTokenIds = some heldIds)
    (offsets : sample.rolloutTopPTokenOffsets = some heldOffsets)
    (heldLength : heldOffsets.length = sample.responseLength + 1)
    (heldLogps : ∀ held ∈ sample.rolloutTopPLogProbs, held.length = heldIds.length)
    (heldLast : heldOffsets.getLast?.map Int32.toInt = some (heldIds.length : Int))
    (nonempty : count ≠ 0) :
    (∃ ids offsets, sample.applyTopP info count pad = .ok (ids, offsets) ∧
      Sample.validateTopP ids offsets sample.rolloutTopPLogProbs
        (sample.responseLength + count) = .ok ()) ↔
      match extractRolloutTopPTokenData info count with
      | .error _ => False
      | .ok none => pad = true
      | .ok (some (ids, _)) => heldIds.length + ids.length < 2 ^ 31 ∧
          (ids = [] ∨ sample.rolloutTopPLogProbs = none) := by
  rw [Sample.applyTopP, if_neg nonempty]
  cases extracted : extractRolloutTopPTokenData info count with
  | error exception => simp
  | ok data =>
      rw [ok_bind]
      cases data with
      | none =>
          dsimp only
          cases pad with
          | false =>
              simp only [Bool.false_eq_true, iff_false, not_exists, not_and]
              intro allIds allOffsets same checked
              rw [addTopP_none, ids, offsets] at same
              cases same
              have length := (validateTopP_some_eq_ok.mp checked).1
              omega
          | true =>
              simp only [iff_true]
              rcases Option.map_eq_some_iff.mp heldLast with ⟨last, isLast, ends⟩
              refine ⟨some heldIds, some (heldOffsets ++ List.replicate count last), ?_, ?_⟩
              · rw [Sample.addTopP, if_pos ⟨rfl, nonempty, by rw [offsets]; rfl⟩, ids, offsets,
                  padRolloutTopPOffsets, isLast]
                rfl
              · refine validateTopP_some_eq_ok.mpr ⟨?_, heldLogps, ?_⟩
                · rw [List.length_append, List.length_replicate, heldLength]
                  omega
                · rw [List.getLast?_append, List.getLast?_replicate, if_neg nonempty]
                  exact congrArg some ends
      | some replay =>
          rcases extract_eq_some extracted with ⟨sized, last⟩
          rcases merge_aligned heldLength heldLast sized last nonempty with
            ⟨merged, mergeEq, mergedLength, mergedLast⟩
          have set : sample.addTopP (some replay) count pad =
              .ok (some (heldIds ++ replay.1), some merged) := by
            rw [Sample.addTopP, if_neg (by simp [ids]), ids, offsets, mergeEq]
            rfl
          have logpsFit : (∀ held ∈ sample.rolloutTopPLogProbs,
              held.length = (heldIds ++ replay.1).length) ↔
                (replay.1 = [] ∨ sample.rolloutTopPLogProbs = none) := by
            rw [List.length_append]
            cases isLogps : sample.rolloutTopPLogProbs with
            | none => simp
            | some logps =>
                have same := heldLogps logps isLogps
                simp [same]
          dsimp only
          rw [set]
          constructor
          · rintro ⟨_, _, same, checked⟩
            cases same
            rcases validateTopP_some_eq_ok.mp checked with ⟨_, logps, allLast⟩
            exact ⟨mergedLast.mp allLast, logpsFit.mp logps⟩
          · rintro ⟨fits, logps⟩
            exact ⟨_, _, rfl, validateTopP_some_eq_ok.mpr
              ⟨mergedLength, logpsFit.mpr logps, mergedLast.mpr fits⟩⟩

end Replay

theorem remaining_plain {args : Option Args} {call : AppendCall F}
    (plain : ¬ (recordsTopP args = true ∧ call.trainable = true)) :
    Sample.remainingMetaInfo args call = call.metaInfo := by
  rw [Sample.remainingMetaInfo, if_neg]
  rintro ⟨_, active, trainable⟩
  exact plain ⟨active, trainable⟩

/-- After the second block, the spans of a call are applied exactly if its replay fits. -/
theorem SpansAfter.fits_iff {args : Option Args} {sample after : Sample F} {call : AppendCall F}
    (spans : SpansAfter args sample call after.rolloutTopPTokenIds after.rolloutTopPTokenOffsets
      after.rolloutTopPLogProbs) (aligned : LengthsAligned sample) (tokens : call.tokens ≠ [])
    (sameLength : after.responseLength = sample.responseLength) :
    (∃ ids offsets, after.applyTopP ((Sample.remainingMetaInfo args call).getD {})
        call.tokens.length (decide (call.tokens ≠ []) && !call.trainable) = .ok (ids, offsets) ∧
      Sample.validateTopP ids offsets after.rolloutTopPLogProbs
        (after.responseLength + call.tokens.length) = .ok ()) ↔ ReplayFits args sample call := by
  have counted : call.tokens.length ≠ 0 := fun none => tokens (List.length_eq_zero_iff.mp none)
  have pads : (decide (call.tokens ≠ []) && !call.trainable) = !call.trainable := by
    rw [decide_eq_true tokens, Bool.true_and]
  rw [pads]
  cases spans with
  | inactive inactive unchanged =>
      rcases unchanged with ⟨sameIds, sameOffsets, sameLogps⟩
      have plain : ¬ (recordsTopP args = true ∧ call.trainable = true) := by simp [inactive]
      rw [ReplayFits, if_neg plain, PlainReplayFits, remaining_plain plain]
      rcases validateTopP_cases aligned.topP with
        ⟨noIds, noOffsets⟩ | ⟨ids, offsets, isIds, isOffsets, heldLength, heldLogps, heldLast⟩
      · rw [applyTopP_absent (sameIds.trans noIds) (sameOffsets.trans noOffsets) counted,
          sameLength, sameLogps, noIds]
        cases extractRolloutTopPTokenData (call.metaInfo.getD {}) call.tokens.length with
        | error exception => exact Iff.rfl
        | ok data =>
            cases data with
            | none => simp
            | some replay => simp [inactive]
      · rw [← sameLogps] at heldLogps
        rw [← sameLength] at heldLength
        rw [applyTopP_present (sameIds.trans isIds) (sameOffsets.trans isOffsets) heldLength
          heldLogps heldLast counted, sameLogps, isIds]
        cases extractRolloutTopPTokenData (call.metaInfo.getD {}) call.tokens.length with
        | error exception => exact Iff.rfl
        | ok data =>
            cases data with
            | none => simp
            | some replay => simp
  | started active masked heldIds heldOffsets isIds isOffsets started =>
      have plain : ¬ (recordsTopP args = true ∧ call.trainable = true) := by simp [masked]
      have heldLength := started.offsets_length
      rw [← sameLength] at heldLength
      rw [ReplayFits, if_neg plain, PlainReplayFits, remaining_plain plain,
        applyTopP_present isIds isOffsets heldLength started.logps_length started.last counted,
        started.logps_none, started.ids_eq]
      cases extractRolloutTopPTokenData (call.metaInfo.getD {}) call.tokens.length with
      | error exception => exact Iff.rfl
      | ok data =>
          cases data with
          | none => simp [masked]
          | some replay => simp [active]
  | extended active trainable fits =>
      have without : (Sample.remainingMetaInfo args call).getD {} =
          MetaInfo.withoutTopP (call.metaInfo.getD {}) := by
        rw [Sample.remainingMetaInfo, if_pos ⟨tokens, active, trainable⟩]
        cases call.metaInfo with
        | none => rfl
        | some info => rfl
      have unchanged : after.applyTopP (MetaInfo.withoutTopP (call.metaInfo.getD {}))
          call.tokens.length false =
            .ok (after.rolloutTopPTokenIds, after.rolloutTopPTokenOffsets) := by
        rw [Sample.applyTopP, if_neg counted, extract_none rfl rfl, ok_bind]
        exact addTopP_none after call.tokens.length
      rw [ReplayFits, if_pos ⟨active, trainable⟩, without, trainable, Bool.not_true, unchanged,
        sameLength, ← fits]
      constructor
      · rintro ⟨_, _, same, checked⟩
        cases same
        exact checked
      · exact fun checked => ⟨_, _, rfl, checked⟩

end Vime.Utils.Types
