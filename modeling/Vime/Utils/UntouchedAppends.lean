import Vime.Utils.FinishedAppends

/-! # Appends that raise without a trace

The exact condition under which a raising call leaves the sample as it was.
-/

namespace Vime.Utils.Types

open Vime.Foundation Vime.Utils Vime.Utils.ScoreCentering

variable {F : Type}

/-! ## Calls with tokens -/

theorem checkedLogProbs_shape [LogProbValue F] {call : AppendCall F}
    {logProbs : Option (List F)} (checked : checkedLogProbs call = .ok logProbs) :
    (∀ entries ∈ logProbs, entries.length = call.tokens.length) ∧
      (call.tokens ≠ [] → logProbs.isSome = true) ∧
      (call.trainable = true ∨ call.tokens = [] → logProbs = call.logProbs) := by
  rw [checkedLogProbs] at checked
  simp only [check_bind_eq_ok, raiseIf_eq_ok] at checked
  rcases checked with ⟨sized, required, _, same⟩
  rw [← Except.ok.inj same]
  by_cases masked : call.tokens ≠ [] ∧ call.trainable = false
  · rw [if_pos masked]
    refine ⟨?_, fun _ => rfl, ?_⟩
    · intro entries isEntries
      rw [← Option.some.inj isEntries, List.length_replicate]
    · rintro (trainable | empty)
      · rw [masked.2] at trainable
        cases trainable
      · exact absurd empty masked.1
  · rw [if_neg masked]
    refine ⟨?_, ?_, fun _ => rfl⟩
    · intro entries isEntries
      by_contra other
      exact sized ⟨entries, isEntries, other⟩
    · intro tokens
      rw [not_and, Bool.not_eq_false] at masked
      have given : ¬ call.logProbs.isNone = true :=
        fun absent => required ⟨tokens, masked tokens, absent⟩
      rw [Bool.not_eq_true, Option.isNone_eq_false_iff] at given
      exact given

theorem recordsTopK_of_recordsTopP {args : Option Args} (active : recordsTopP args = true) :
    recordsTopK args = false := by
  cases args with
  | none => rfl
  | some given =>
      simp only [recordsTopP, recordsTopK, Option.any_some, Bool.and_eq_true,
        decide_eq_true_eq] at active ⊢
      simp [active.2]

section Tokens

variable [SamplerValue F] {args : Option Args} {sample : Sample F} {call : AppendCall F}
  {logProbs : Option (List F)}

/-- The checks of the rest of the method are the late checks that the blocks leave open. -/
theorem finishChecks_iff {after : Sample F} (aligned : LengthsAligned sample)
    (tokens : call.tokens ≠ []) (present : logProbs.isSome = true)
    (heads : HeadsAfter args sample call after.rolloutTopkTokenIds after.rolloutTopkLogProbs)
    (spans : SpansAfter args sample call after.rolloutTopPTokenIds after.rolloutTopPTokenOffsets
      after.rolloutTopPLogProbs)
    (sameTokens : after.tokens = sample.tokens)
    (sameLength : after.responseLength = sample.responseLength)
    (sameLogProbs : after.rolloutLogProbs = sample.rolloutLogProbs)
    (sameExperts : after.rolloutRoutedExperts = sample.rolloutRoutedExperts)
    (extendsHeads : ExtendsHeads args sample)
    (extendsDistributions : ExtendsDistributions args sample call) :
    FinishChecks args call logProbs after ↔ LateChecks args sample call := by
  have counted : call.tokens.length ≠ 0 := fun none => tokens (List.length_eq_zero_iff.mp none)
  have replay := spans.fits_iff aligned tokens sameLength
  have experts := applyRoutedExperts_isOk args sample call
  constructor
  · intro checks
    constructor
    · exact extendsHeads
    · exact extendsDistributions
    · rw [← sameLogProbs, ← sameLength]
      exact checks.logProbs present
    · rw [← experts, ← sameTokens, ← sameExperts]
      exact checks.experts
    · intro inactive
      rcases heads.inactive inactive with ⟨sameIds, sameLogps⟩
      have topkIds := checks.topkIds
      have topkLogps := checks.topkLogps
      rw [sameIds, sameLength] at topkIds
      rw [sameLogps, sameLength] at topkLogps
      constructor
      · cases isIds : sample.rolloutTopkTokenIds with
        | none => rfl
        | some ids =>
            have grown := topkIds ids isIds
            have held := aligned.topkIds ids isIds
            omega
      · cases isLogps : sample.rolloutTopkLogProbs with
        | none => rfl
        | some logps =>
            have grown := topkLogps logps isLogps
            have held := aligned.topkLogps logps isLogps
            omega
    · exact replay.mp checks.topP
  · intro late
    constructor
    · intro _
      rw [sameLogProbs, sameLength]
      exact late.logProbs
    · rw [sameTokens, sameExperts]
      exact experts.mpr late.experts
    · rw [sameLength]
      cases active : recordsTopK args with
      | true => exact heads.ids_length active
      | false =>
          rw [(heads.inactive active).1, (late.noHeads active).1]
          exact fun _ absent => nomatch absent
    · rw [sameLength]
      cases active : recordsTopK args with
      | true => exact heads.logps_length active
      | false =>
          rw [(heads.inactive active).2, (late.noHeads active).2]
          exact fun _ absent => nomatch absent
    · exact replay.mpr late.replay

omit [SamplerValue F] in
theorem heads_unchanged {ids : Option (HeadArray Int32)} {logps : Option (HeadArray F)}
    (heads : HeadsAfter args sample call ids logps) (active : recordsTopP args = true) :
    { sample with rolloutTopkTokenIds := ids, rolloutTopkLogProbs := logps } = sample := by
  rcases heads.inactive (recordsTopK_of_recordsTopP active) with ⟨rfl, rfl⟩
  rfl

theorem center_returns (aligned : LengthsAligned sample) (tokens : call.tokens ≠ [])
    (given : call.trainable = true ∨ call.tokens = [] → logProbs = call.logProbs)
    (keptDistributions : ¬ RejectsDistributions args sample call)
    (extendsDistributions : ExtendsDistributions args sample call)
    {ids : Option (HeadArray Int32)} {logps : Option (HeadArray F)}
    (heads : HeadsAfter args sample call ids logps) :
    ∃ pIds pOffsets pLogps, Sample.centerTopP args call logProbs { sample with
          rolloutTopkTokenIds := ids, rolloutTopkLogProbs := logps } =
        .ok { sample with
          rolloutTopkTokenIds := ids
          rolloutTopkLogProbs := logps
          rolloutTopPTokenIds := pIds
          rolloutTopPTokenOffsets := pOffsets
          rolloutTopPLogProbs := pLogps } ∧
      SpansAfter args sample call pIds pOffsets pLogps := by
  cases active : recordsTopP args with
  | false =>
      refine ⟨_, _, _, ?_, .inactive active ⟨rfl, rfl, rfl⟩⟩
      rw [Sample.centerTopP, if_neg (by simp [active])]
  | true =>
      rcases centerTopP_returns tokens keptDistributions extendsDistributions aligned
        (fun trainable => given (.inl trainable)) with ⟨pIds, pOffsets, pLogps, topPEq, spans⟩
      refine ⟨pIds, pOffsets, pLogps, ?_, spans⟩
      rw [heads_unchanged heads active, topPEq]
      rcases heads.inactive (recordsTopK_of_recordsTopP active) with ⟨rfl, rfl⟩
      rfl

/-- Past the first checks, a call with tokens returns if the late checks pass, and raises
after a write if they do not. -/
theorem append_outcome (aligned : LengthsAligned sample) (tokens : call.tokens ≠ [])
    (checked : checkedLogProbs call = .ok logProbs) (keptHeads : ¬ RejectsHeads args sample call)
    (keptDistributions : ¬ RejectsDistributions args sample call) :
    (LateChecks args sample call ∧ ∃ next, sample.appendResponseTokens args call = .ok next) ∨
      (¬ LateChecks args sample call ∧ ∃ exception left,
        sample.appendResponseTokens args call = .error ⟨exception, left⟩ ∧ left ≠ sample) := by
  rcases checkedLogProbs_shape checked with ⟨sized, present, given⟩
  have counted : call.tokens.length ≠ 0 := fun none => tokens (List.length_eq_zero_iff.mp none)
  have appendEq : sample.appendResponseTokens args call =
      (do let withTopK ← sample.centerTopK args call
          let withTopP ← withTopK.centerTopP args call logProbs
          withTopP.finishAppend args call sample.responseLength logProbs) := by
    rw [Sample.appendResponseTokens, checked]
    rfl
  rw [appendEq]
  by_cases extendsHeads : ExtendsHeads args sample
  · rcases centerTopK_returns tokens keptHeads extendsHeads aligned with
      ⟨ids, logps, topKEq, heads⟩
    rw [topKEq, ok_bind]
    by_cases extendsDistributions : ExtendsDistributions args sample call
    · rcases center_returns aligned tokens given keptDistributions extendsDistributions heads with
        ⟨pIds, pOffsets, pLogps, topPEq, spans⟩
      rw [topPEq, ok_bind]
      generalize isAfter : { sample with
        rolloutTopkTokenIds := ids
        rolloutTopkLogProbs := logps
        rolloutTopPTokenIds := pIds
        rolloutTopPTokenOffsets := pOffsets
        rolloutTopPLogProbs := pLogps } = after
      have checks : FinishChecks args call logProbs after ↔ LateChecks args sample call := by
        subst isAfter
        exact finishChecks_iff aligned tokens (present tokens) heads spans rfl rfl rfl rfl
          extendsHeads extendsDistributions
      have finishes : (∃ next, after.finishAppend args call sample.responseLength logProbs =
          .ok next) ↔ FinishChecks args call logProbs after := by
        subst isAfter
        refine finishAppend_isOk aligned.lossMask aligned.logProbs sized ?_
        intro absent
        have given := present tokens
        rw [absent] at given
        cases given
      by_cases late : LateChecks args sample call
      · exact .inl ⟨late, finishes.mpr (checks.mpr late)⟩
      · refine .inr ⟨late, ?_⟩
        cases finished : after.finishAppend args call sample.responseLength logProbs with
        | ok next => exact absurd (checks.mp (finishes.mp ⟨next, finished⟩)) late
        | error rejection =>
            refine ⟨rejection.exception, rejection.sample, rfl, ?_⟩
            intro same
            have grown := congrArg List.length (finishAppend_raises finished)
            rw [same, ← isAfter, List.length_append] at grown
            dsimp only at grown
            omega
    · have active : recordsTopP args = true := by
        by_contra inactive
        exact extendsDistributions ⟨fun active => absurd active inactive,
          fun active => absurd active inactive⟩
      rcases centerTopP_raises tokens keptDistributions extendsDistributions aligned
        (fun trainable => given (.inl trainable)) with ⟨exception, left, raised, changed⟩
      rw [heads_unchanged heads active, raised]
      exact .inr ⟨fun late => extendsDistributions late.distributions, exception, left, rfl,
        changed⟩
  · rcases centerTopK_raises tokens keptHeads extendsHeads aligned with
      ⟨exception, left, raised, changed⟩
    rw [raised]
    exact .inr ⟨fun late => extendsHeads late.heads, exception, left, rfl, changed⟩

end Tokens

/-! ## Calls without tokens -/

structure IdleChecks (args : Option Args) (sample : Sample F) (call : AppendCall F) : Prop where
  logProbs : call.logProbs.isSome = true → call.trainable = true →
    sample.rolloutLogProbs = none → sample.responseLength = 0
  experts : ExpertsPlaced args sample call

/-- A call without tokens that starts log probabilities for the response so far. -/
def StartsLogProbs (sample : Sample F) (call : AppendCall F) : Prop :=
  call.logProbs.isSome = true ∧ sample.rolloutLogProbs.isNone = true ∧
    ¬ (call.trainable = true ∧ sample.responseLength ≠ 0)

instance (sample : Sample F) (call : AppendCall F) : Decidable (StartsLogProbs sample call) :=
  inferInstanceAs (Decidable (_ ∧ _ ∧ ¬ (_ ∧ _)))

/-- A call without tokens that has neither text nor log probabilities to write. -/
structure WritesNothing (sample : Sample F) (call : AppendCall F) : Prop where
  text : call.text.getD "" = ""
  logProbs : ¬ StartsLogProbs sample call

section Idle

variable [SamplerValue F] {args : Option Args} {sample : Sample F} {call : AppendCall F}
  {logProbs : Option (List F)}

theorem append_idle (idle : call.tokens = []) (checked : checkedLogProbs call = .ok logProbs) :
    sample.appendResponseTokens args call =
      sample.finishAppend args call sample.responseLength call.logProbs := by
  rcases checkedLogProbs_shape checked with ⟨_, _, given⟩
  have inactive : ¬ (call.tokens ≠ [] ∧ recordsTopP args = true) :=
    fun active => active.1 idle
  rw [Sample.appendResponseTokens, checked, attempt_ok, ok_bind,
    centerTopK_inactive (.inl idle), ok_bind, Sample.centerTopP, if_neg inactive, ok_bind,
    given (.inr idle)]

theorem logProbs_idle (idle : call.tokens = []) (checked : checkedLogProbs call = .ok logProbs) :
    ∀ entries ∈ call.logProbs, entries = [] := by
  rcases checkedLogProbs_shape checked with ⟨sized, _, given⟩
  rw [given (.inr idle), idle] at sized
  exact fun entries isEntries => List.length_eq_zero_iff.mp (sized entries isEntries)

omit [SamplerValue F] in
theorem applyTopP_idle (info : MetaInfo F) :
    sample.applyTopP info 0 false =
      .ok (sample.rolloutTopPTokenIds, sample.rolloutTopPTokenOffsets) := by
  rw [Sample.applyTopP, if_pos rfl]
  exact addTopP_none sample 0

/-- A call without tokens returns exactly if its checks pass. -/
theorem finishAppend_idle_isOk (aligned : LengthsAligned sample) (idle : call.tokens = [])
    (checked : checkedLogProbs call = .ok logProbs) :
    (∃ next, sample.finishAppend args call sample.responseLength call.logProbs = .ok next) ↔
      IdleChecks args sample call := by
  have none : call.tokens.length = 0 := by rw [idle, List.length_nil]
  have empty := logProbs_idle idle checked
  have sized : ∀ entries ∈ call.logProbs, entries.length = call.tokens.length := by
    intro entries isEntries
    rw [empty entries isEntries, idle, List.length_nil, List.length_nil]
  rw [finishAppend_isOk aligned.lossMask aligned.logProbs sized fun _ => none]
  have experts := applyRoutedExperts_isOk args sample call
  constructor
  · intro checks
    exact ⟨checks.logProbs, experts.mp checks.experts⟩
  · intro checks
    constructor
    · exact checks.logProbs
    · exact experts.mpr checks.experts
    · rw [none]
      exact aligned.topkIds
    · rw [none]
      exact aligned.topkLogps
    · refine ⟨sample.rolloutTopPTokenIds, sample.rolloutTopPTokenOffsets, ?_, ?_⟩
      · have idlePad : (decide (call.tokens ≠ []) && !call.trainable) = false := by
          simp [idle]
        rw [idlePad, none]
        exact applyTopP_idle _
      · rw [none]
        exact aligned.topP

def idleLogProbs (sample : Sample F) (call : AppendCall F) : Option (List F) :=
  if StartsLogProbs sample call then
    some (List.replicate sample.responseLength LogProbValue.zero)
  else sample.rolloutLogProbs

def idleWrites (sample : Sample F) (call : AppendCall F) : Sample F :=
  { sample with
    response := sample.response ++ call.text.getD ""
    rolloutLogProbs := idleLogProbs sample call }

theorem idleWrites_eq_iff : idleWrites sample call = sample ↔ WritesNothing sample call := by
  constructor
  · intro same
    constructor
    · exact String.append_eq_left_iff.mp (congrArg Sample.response same)
    · intro starts
      have logProbs : idleLogProbs sample call = sample.rolloutLogProbs :=
        congrArg Sample.rolloutLogProbs same
      rw [idleLogProbs, if_pos starts, Option.isNone_iff_eq_none.mp starts.2.1] at logProbs
      cases logProbs
  · intro silent
    rw [idleWrites, idleLogProbs, if_neg silent.logProbs, silent.text, String.append_empty]

/-- Adding empty log probabilities writes them or raises with nothing to write. -/
theorem addLogProbs_idle (idle : call.tokens = []) (empty : ∀ entries ∈ call.logProbs, entries = []) :
    (sample.addTokens call).addLogProbs call.trainable sample.responseLength call.logProbs =
        .ok (idleWrites sample call) ∨
      ∃ exception, (sample.addTokens call).addLogProbs call.trainable sample.responseLength
        call.logProbs = .error ⟨exception, idleWrites sample call⟩ := by
  rw [Sample.addTokens, if_pos idle, idleWrites, idleLogProbs]
  cases isGiven : call.logProbs with
  | none =>
      have silent : ¬ StartsLogProbs sample call := by simp [StartsLogProbs, isGiven]
      rw [if_neg silent]
      exact .inl rfl
  | some entries =>
      rw [empty entries isGiven]
      cases held : sample.rolloutLogProbs with
      | some before =>
          have silent : ¬ StartsLogProbs sample call := by simp [StartsLogProbs, held]
          rw [if_neg silent, Sample.addLogProbs.eq_def]
          dsimp only
          rw [List.append_nil]
          exact .inl rfl
      | none =>
          rw [Sample.addLogProbs.eq_def]
          dsimp only
          by_cases existing : call.trainable = true ∧ sample.responseLength ≠ 0
          · have silent : ¬ StartsLogProbs sample call := fun starts => starts.2.2 existing
            rw [if_pos existing, if_neg silent, Sample.rejected]
            exact .inr ⟨_, rfl⟩
          · have starts : StartsLogProbs sample call := ⟨by rw [isGiven]; rfl, by rw [held]; rfl, existing⟩
            rw [if_neg existing, if_pos starts, List.append_nil]
            exact .inl rfl

/-- A call without tokens that raises leaves its text and log probabilities. -/
theorem finishAppend_idle_raises (aligned : LengthsAligned sample) (idle : call.tokens = [])
    (checked : checkedLogProbs call = .ok logProbs) {rejection : Rejection F}
    (raised : sample.finishAppend args call sample.responseLength call.logProbs =
      .error rejection) : rejection.sample = idleWrites sample call := by
  have failed := raised
  have returns : (∃ next, sample.finishAppend args call sample.responseLength call.logProbs =
      .ok next) ↔ IdleChecks args sample call := finishAppend_idle_isOk aligned idle checked
  rcases addLogProbs_idle idle (logProbs_idle idle checked) with added | ⟨exception, rejected⟩
  · rw [Sample.finishAppend, added, ok_bind, applyCallMetaInfo_eq] at raised
    have idlePad : (decide (call.tokens ≠ []) && !call.trainable) = false := by simp [idle]
    rw [idlePad, idle, List.length_nil, Sample.applyMetaInfo, applyTopP_idle, attempt_ok,
      ok_bind] at raised
    dsimp only at raised
    cases experts : Sample.applyRoutedExperts args
        ((Sample.remainingMetaInfo args call).getD {}) (idleWrites sample call).tokens.length
        (idleWrites sample call).rolloutRoutedExperts with
    | error exception =>
        rw [experts] at raised
        rw [← Except.error.inj raised]
    | ok placed =>
        have passed : ∃ next, sample.finishAppend args call sample.responseLength
            call.logProbs = .ok next := by
          refine returns.mpr ⟨?_, ?_⟩
          · rw [← (addTokens_others call sample).1]
            exact addLogProbs_isOk.mp ⟨_, added⟩
          · have sameTokens : sample.tokens.length + call.tokens.length =
                (idleWrites sample call).tokens.length := by
              rw [idle]
              rfl
            refine (applyRoutedExperts_isOk args sample call).mp ⟨placed, ?_⟩
            rw [sameTokens]
            exact experts
        rcases passed with ⟨next, returned⟩
        rw [returned] at failed
        cases failed
  · rw [Sample.finishAppend, rejected] at raised
    rw [← Except.error.inj raised]

theorem append_idle_outcome (aligned : LengthsAligned sample) (idle : call.tokens = [])
    (checked : checkedLogProbs call = .ok logProbs) :
    (IdleChecks args sample call ∧ ∃ next, sample.appendResponseTokens args call = .ok next) ∨
      (¬ IdleChecks args sample call ∧ ∃ exception,
        sample.appendResponseTokens args call = .error ⟨exception, idleWrites sample call⟩) := by
  rw [append_idle idle checked]
  by_cases checks : IdleChecks args sample call
  · exact .inl ⟨checks, (finishAppend_idle_isOk aligned idle checked).mpr checks⟩
  · refine .inr ⟨checks, ?_⟩
    cases finished : sample.finishAppend args call sample.responseLength call.logProbs with
    | ok next => exact absurd ((finishAppend_idle_isOk aligned idle checked).mp ⟨next, finished⟩) checks
    | error rejection =>
        refine ⟨rejection.exception, ?_⟩
        rw [← finishAppend_idle_raises aligned idle checked finished]

end Idle

/-! ## Every call -/

/-- The calls that do not change the sample when they raise: those whose first failing check
comes before the first write, those that pass every check, and those without tokens that have
nothing to write. -/
inductive LeavesUntouched [SamplerValue F] (args : Option Args) (sample : Sample F)
    (call : AppendCall F) : Prop
  | logProbs (exception : PyException) (rejected : checkedLogProbs call = .error exception)
  | heads (tokens : call.tokens ≠ []) (rejects : RejectsHeads args sample call)
  | distributions (tokens : call.tokens ≠ []) (rejects : RejectsDistributions args sample call)
  | passes (tokens : call.tokens ≠ []) (late : LateChecks args sample call)
  | idle (tokens : call.tokens = []) (checks : IdleChecks args sample call)
  | silent (tokens : call.tokens = []) (nothing : WritesNothing sample call)

section Every

variable [SamplerValue F] {args : Option Args} {sample : Sample F} {call : AppendCall F}

theorem RejectsDistributions.active (rejects : RejectsDistributions args sample call) :
    recordsTopP args = true := by
  cases rejects with
  | existing active => exact active
  | sampler active => exact active

theorem append_early (aligned : LengthsAligned sample) (tokens : call.tokens ≠ [])
    (rejects : RejectsHeads args sample call ∨ RejectsDistributions args sample call) :
    ∃ exception, sample.appendResponseTokens args call = .error ⟨exception, sample⟩ := by
  rw [Sample.appendResponseTokens]
  cases checked : checkedLogProbs call with
  | error exception => exact ⟨exception, rfl⟩
  | ok logProbs =>
      rw [attempt_ok, ok_bind]
      rcases rejects with heads | distributions
      · rcases heads.centerTopK_eq tokens with ⟨exception, raised⟩
        rw [raised]
        exact ⟨exception, rfl⟩
      · have inactive := recordsTopK_of_recordsTopP distributions.active
        rw [centerTopK_inactive (.inr inactive), ok_bind]
        rcases checkedLogProbs_shape checked with ⟨_, _, given⟩
        rcases distributions.centerTopP_eq tokens aligned
          (fun trainable => given (.inl trainable)) with ⟨exception, raised⟩
        rw [raised]
        exact ⟨exception, rfl⟩

theorem LeavesUntouched.outcome (untouched : LeavesUntouched args sample call)
    (aligned : LengthsAligned sample) :
    (∃ next, sample.appendResponseTokens args call = .ok next) ∨
      ∃ exception, sample.appendResponseTokens args call = .error ⟨exception, sample⟩ := by
  cases checked : checkedLogProbs call with
  | error exception =>
      refine .inr ⟨exception, ?_⟩
      rw [Sample.appendResponseTokens, checked]
      rfl
  | ok logProbs =>
      cases untouched with
      | logProbs exception rejected =>
          rw [checked] at rejected
          cases rejected
      | heads tokens rejects => exact .inr (append_early aligned tokens (.inl rejects))
      | distributions tokens rejects => exact .inr (append_early aligned tokens (.inr rejects))
      | passes tokens late =>
          by_cases rejects : RejectsHeads args sample call ∨ RejectsDistributions args sample call
          · exact .inr (append_early aligned tokens rejects)
          · rw [not_or] at rejects
            rcases append_outcome aligned tokens checked rejects.1 rejects.2 with
              ⟨_, returned⟩ | ⟨failed, _⟩
            · exact .inl returned
            · exact absurd late failed
      | idle tokens checks =>
          rcases append_idle_outcome aligned tokens checked with ⟨_, returned⟩ | ⟨failed, _⟩
          · exact .inl returned
          · exact absurd checks failed
      | silent tokens nothing =>
          rcases append_idle_outcome aligned tokens checked with ⟨_, returned⟩ | ⟨_, raised⟩
          · exact .inl returned
          · rw [idleWrites_eq_iff.mpr nothing] at raised
            exact .inr raised

theorem append_touches (touched : ¬ LeavesUntouched args sample call)
    (aligned : LengthsAligned sample) :
    ∃ exception left, sample.appendResponseTokens args call = .error ⟨exception, left⟩ ∧
      left ≠ sample := by
  cases checked : checkedLogProbs call with
  | error exception => exact absurd (.logProbs exception checked) touched
  | ok logProbs =>
      by_cases tokens : call.tokens = []
      · rcases append_idle_outcome aligned tokens checked with ⟨checks, _⟩ | ⟨_, exception, raised⟩
        · exact absurd (.idle tokens checks) touched
        · refine ⟨exception, idleWrites sample call, raised, ?_⟩
          intro same
          exact touched (.silent tokens (idleWrites_eq_iff.mp same))
      · rcases append_outcome aligned tokens checked (fun rejects => touched (.heads tokens rejects))
          (fun rejects => touched (.distributions tokens rejects)) with
            ⟨late, _⟩ | ⟨_, exception, left, raised, changed⟩
        · exact absurd (.passes tokens late) touched
        · exact ⟨exception, left, raised, changed⟩

end Every

/-- A call on an aligned sample that raises `ValueError` leaves every field as it was exactly
if its first failing check comes before its first write. -/
theorem append_untouched_iff [SamplerValue F] (args : Option Args) (sample : Sample F)
    (call : AppendCall F) (aligned : LengthsAligned sample) :
    (∀ message left, sample.appendResponseTokens args call =
        .error ⟨.valueError message, left⟩ → left = sample) ↔
      LeavesUntouched args sample call := by
  constructor
  · intro untouched
    by_contra touched
    rcases append_touches touched aligned with ⟨exception, left, raised, changed⟩
    rcases append_rejects args call aligned _ raised with ⟨message, isValueError⟩
    dsimp only at isValueError
    rw [isValueError] at raised
    exact changed (untouched message left raised)
  · intro untouched message left raised
    rcases untouched.outcome aligned with ⟨next, returned⟩ | ⟨exception, unchanged⟩
    · rw [returned] at raised
      cases raised
    · rw [unchanged] at raised
      exact (congrArg Rejection.sample (Except.error.inj raised)).symm

def promptOnly : Sample Hundredths := { tokens := [1] }

theorem promptOnly_aligned : LengthsAligned promptOnly :=
  ⟨nofun, nofun, nofun, nofun, rfl⟩

def unscoredCall : AppendCall Hundredths := { tokens := [5] }

def mismatchedCall : AppendCall Hundredths where
  tokens := [5]
  logProbs := some [⟨-20⟩]
  metaInfo := some { topPTokenIds := .ok (some [5]), topPTokenOffsets := .ok (some [0, 2]) }

/-- A missing log probability is noticed before the first write. -/
theorem append_untouched_iff_unscored :
    LengthsAligned promptOnly ∧
      ∀ message left, promptOnly.appendResponseTokens none unscoredCall =
        .error ⟨.valueError message, left⟩ → left = promptOnly :=
  ⟨promptOnly_aligned,
    (append_untouched_iff none promptOnly unscoredCall promptOnly_aligned).mpr
      (.logProbs _ (by rfl))⟩

/-- Mismatched offsets are noticed after the token has been appended. -/
theorem mismatchedCall_touches :
    LengthsAligned promptOnly ∧ ∃ message left,
      promptOnly.appendResponseTokens none mismatchedCall = .error ⟨.valueError message, left⟩ ∧
        left.tokens = [1, 5] ∧ left ≠ promptOnly := by
  refine ⟨promptOnly_aligned, _, _, rfl, rfl, ?_⟩
  intro same
  have tokens := congrArg Sample.tokens same
  cases tokens

end Vime.Utils.Types
