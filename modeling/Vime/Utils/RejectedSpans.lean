import Vime.Utils.RejectedAppends

/-! # Rejected sampler distributions

The block that records sampler distributions, run on a sample that is aligned.
-/

namespace Vime.Utils.Types

open Vime.Foundation Vime.Utils Vime.Utils.ScoreCentering

variable {F : Type}

/-! ## The second block -/

/-- An aligned replay that is present, as starting the distributions leaves it. -/
structure StartedSpans (sample : Sample F) (ids offsets : List Int32) (logps : Option (List F)) :
    Prop where
  ids_eq : ids = sample.rolloutTopPTokenIds.getD []
  offsets_length : offsets.length = sample.responseLength + 1
  logps_length : ∀ held ∈ logps, held.length = ids.length
  last : offsets.getLast?.map Int32.toInt = some (ids.length : Int)
  logps_none : logps = none ↔
    sample.rolloutTopPTokenIds ≠ none ∧ sample.rolloutTopPLogProbs = none

section Distributions

variable [SamplerValue F] {args : Option Args} {sample : Sample F} {call : AppendCall F}

omit [SamplerValue F] in
theorem startTopP_absent (absent : sample.rolloutTopPTokenIds = none)
    (fresh : ¬ (sample.responseLength ≠ 0 ∧ sample.hasTrainable = true)) :
    ∃ offsets logps, sample.startTopP = .ok { sample with
        rolloutTopPTokenIds := some []
        rolloutTopPTokenOffsets := some offsets
        rolloutTopPLogProbs := logps } ∧ StartedSpans sample [] offsets logps := by
  refine ⟨List.replicate (sample.responseLength + 1) 0, some [], ?_, ?_⟩
  · rw [Sample.startTopP, absent]
    exact if_neg fresh
  · constructor
    · rw [absent]
      rfl
    · exact List.length_replicate
    · intro held isHeld
      rw [← Option.some.inj isHeld]
      rfl
    · rw [List.getLast?_replicate]
      rfl
    · exact ⟨fun same => (Option.some_ne_none _ same).elim,
        fun present => absurd absent present.1⟩

omit [SamplerValue F] in
theorem startTopP_present {ids offsets : List Int32}
    (isIds : sample.rolloutTopPTokenIds = some ids)
    (isOffsets : sample.rolloutTopPTokenOffsets = some offsets) (aligned : LengthsAligned sample) :
    sample.startTopP = .ok sample ∧
      StartedSpans sample ids offsets sample.rolloutTopPLogProbs := by
  have checked := aligned.topP
  rw [isIds, isOffsets] at checked
  rcases validateTopP_some_eq_ok.mp checked with ⟨sized, logps, last⟩
  refine ⟨by rw [Sample.startTopP, isIds], ?_⟩
  exact ⟨by rw [isIds]; rfl, sized, logps, last,
    ⟨fun none => ⟨by simp [isIds], none⟩, fun present => present.2⟩⟩

theorem RejectsDistributions.centerTopP_eq (rejects : RejectsDistributions args sample call)
    (tokens : call.tokens ≠ []) (aligned : LengthsAligned sample) {logProbs : Option (List F)}
    (passed : call.trainable = true → logProbs = call.logProbs) :
    ∃ exception, sample.centerTopP args call logProbs = .error ⟨exception, sample⟩ := by
  cases rejects with
  | existing active absent started trainable =>
      refine ⟨.valueError "Existing trainable response tokens have no sampler top-p data.", ?_⟩
      rw [Sample.centerTopP, if_pos ⟨tokens, active⟩, Sample.recordTopP, Sample.startTopP, absent]
      dsimp only
      rw [if_pos ⟨started, trainable⟩]
      rfl
  | sampler active present trainable exception rejected =>
      rcases validateTopP_cases aligned.topP with ⟨absent, _⟩ | ⟨ids, offsets, isIds, isOffsets, _⟩
      · exact absurd absent present
      · refine ⟨exception, ?_⟩
        rw [Sample.centerTopP, if_pos ⟨tokens, active⟩, Sample.recordTopP,
          (startTopP_present isIds isOffsets aligned).1, ok_bind, if_pos trainable,
          passed trainable, rejected]
        rfl

def AppendCall.sampledIds (call : AppendCall F) : List Int32 :=
  ((call.metaInfo.bind MetaInfo.scoreCenteringTopP).bind SamplerTopP.ids).getD []

inductive SpansAfter (args : Option Args) (sample : Sample F) (call : AppendCall F)
    (ids offsets : Option (List Int32)) (logps : Option (List F)) : Prop
  | inactive (inactive : recordsTopP args = false)
      (unchanged : ids = sample.rolloutTopPTokenIds ∧ offsets = sample.rolloutTopPTokenOffsets ∧
        logps = sample.rolloutTopPLogProbs)
  | started (active : recordsTopP args = true) (masked : call.trainable = false)
      (heldIds heldOffsets : List Int32) (isIds : ids = some heldIds)
      (isOffsets : offsets = some heldOffsets)
      (started : StartedSpans sample heldIds heldOffsets logps)
  | extended (active : recordsTopP args = true) (trainable : call.trainable = true)
      (fits : Sample.validateTopP ids offsets logps
          (sample.responseLength + call.tokens.length) = .ok () ↔
        (sample.rolloutTopPTokenIds.getD []).length + call.sampledIds.length < 2 ^ 31)

/-- Generated tokens extend the started distributions. -/
theorem extendTopP_returns (started : Sample F) {ids offsets : List Int32}
    {held : List F} (isIds : started.rolloutTopPTokenIds = some ids)
    (isOffsets : started.rolloutTopPTokenOffsets = some offsets)
    (isLogps : started.rolloutTopPLogProbs = some held)
    (spans : StartedSpans sample ids offsets (some held)) (tokens : call.tokens ≠ [])
    {topP : SamplerTopP F} (sampled : Sample.samplerTopP call call.logProbs = .ok topP) :
    ∃ allIds allOffsets allLogps, started.extendTopP topP = .ok { started with
        rolloutTopPTokenIds := some allIds
        rolloutTopPTokenOffsets := some allOffsets
        rolloutTopPLogProbs := some allLogps } ∧
      (Sample.validateTopP (some allIds) (some allOffsets) (some allLogps)
          (sample.responseLength + call.tokens.length) = .ok () ↔
        (sample.rolloutTopPTokenIds.getD []).length + call.sampledIds.length < 2 ^ 31) := by
  have counted : call.tokens.length ≠ 0 := fun none => tokens (List.length_eq_zero_iff.mp none)
  rcases samplerTopP_shape sampled with ⟨added, addedOffsets, logps, rfl, isInfo, formed⟩
  have isSampled : call.sampledIds = added := by
    rw [AppendCall.sampledIds, isInfo]
    rfl
  rcases merge_aligned spans.offsets_length spans.last formed.offsets_length formed.last counted
    with ⟨merged, mergeEq, mergedLength, mergedLast⟩
  refine ⟨ids ++ added, merged, held ++ logps, ?_, ?_⟩
  · rw [Sample.extendTopP, isIds, isOffsets]
    dsimp only [Option.getD_some]
    rw [mergeEq, attempt_ok, ok_bind]
    dsimp only
    rw [isLogps]
    rfl
  · have heldLength := spans.logps_length held rfl
    rw [validateTopP_some_eq_ok, mergedLength, mergedLast, isSampled, ← spans.ids_eq]
    constructor
    · exact fun checked => checked.2.2
    · intro fits
      refine ⟨rfl, fun other isOther => ?_, fits⟩
      rw [← Option.some.inj isOther, List.length_append, List.length_append, heldLength,
        formed.logps_length]

theorem extendTopP_raises (started : Sample F) {ids offsets : List Int32}
    (isIds : started.rolloutTopPTokenIds = some ids)
    (isOffsets : started.rolloutTopPTokenOffsets = some offsets)
    (noLogps : started.rolloutTopPLogProbs = none)
    (spans : StartedSpans sample ids offsets none) (tokens : call.tokens ≠ [])
    {topP : SamplerTopP F} (sampled : Sample.samplerTopP call call.logProbs = .ok topP) :
    ∃ exception left allOffsets, started.extendTopP topP = .error ⟨exception, left⟩ ∧
      left.rolloutTopPTokenOffsets = some allOffsets ∧
      allOffsets.length = sample.responseLength + call.tokens.length + 1 := by
  have counted : call.tokens.length ≠ 0 := fun none => tokens (List.length_eq_zero_iff.mp none)
  rcases samplerTopP_shape sampled with ⟨added, addedOffsets, logps, rfl, isInfo, formed⟩
  rcases merge_aligned spans.offsets_length spans.last formed.offsets_length formed.last counted
    with ⟨merged, mergeEq, mergedLength, _⟩
  refine ⟨.valueError "zero-dimensional arrays cannot be concatenated",
    { started with
      rolloutTopPTokenIds := some (ids ++ added)
      rolloutTopPTokenOffsets := some merged }, merged, ?_, rfl, mergedLength⟩
  rw [Sample.extendTopP, isIds, isOffsets]
  dsimp only [Option.getD_some]
  rw [mergeEq, attempt_ok, ok_bind]
  dsimp only
  rw [noLogps]
  rfl

theorem startTopP_kept (kept : ¬ RejectsDistributions args sample call)
    (active : recordsTopP args = true) (aligned : LengthsAligned sample) :
    ∃ ids offsets logps, sample.startTopP = .ok { sample with
        rolloutTopPTokenIds := some ids
        rolloutTopPTokenOffsets := some offsets
        rolloutTopPLogProbs := logps } ∧ StartedSpans sample ids offsets logps ∧
      (sample.rolloutTopPTokenIds ≠ none → sample.rolloutTopPTokenOffsets = some offsets) := by
  rcases validateTopP_cases aligned.topP with
    ⟨absent, _⟩ | ⟨ids, offsets, isIds, isOffsets, _⟩
  · have fresh : ¬ (sample.responseLength ≠ 0 ∧ sample.hasTrainable = true) :=
      fun ⟨started, trainable⟩ => kept (.existing active absent started trainable)
    rcases startTopP_absent absent fresh with ⟨offsets, logps, startEq, spans⟩
    exact ⟨[], offsets, logps, startEq, spans, fun present => absurd absent present⟩
  · rcases startTopP_present isIds isOffsets aligned with ⟨startEq, spans⟩
    refine ⟨ids, offsets, sample.rolloutTopPLogProbs, ?_, spans, fun _ => isOffsets⟩
    rw [startEq]
    cases sample
    cases isIds
    cases isOffsets
    rfl

theorem centerTopP_returns (tokens : call.tokens ≠ [])
    (kept : ¬ RejectsDistributions args sample call)
    (extends' : ExtendsDistributions args sample call) (aligned : LengthsAligned sample)
    {logProbs : Option (List F)} (passed : call.trainable = true → logProbs = call.logProbs) :
    ∃ ids offsets logps, sample.centerTopP args call logProbs = .ok { sample with
        rolloutTopPTokenIds := ids
        rolloutTopPTokenOffsets := offsets
        rolloutTopPLogProbs := logps } ∧
      SpansAfter args sample call ids offsets logps := by
  cases active : recordsTopP args with
  | false =>
      refine ⟨_, _, _, ?_, .inactive active ⟨rfl, rfl, rfl⟩⟩
      rw [Sample.centerTopP, if_neg (by simp [active])]
  | true =>
      rcases startTopP_kept kept active aligned with ⟨ids, offsets, logps, startEq, spans, _⟩
      rw [Sample.centerTopP, if_pos ⟨tokens, active⟩, Sample.recordTopP, startEq, ok_bind]
      cases trainable : call.trainable with
      | false => exact ⟨_, _, _, rfl, .started active trainable ids offsets rfl rfl spans⟩
      | true =>
          rcases extends'.sampler active trainable with ⟨topP, sampled⟩
          cases isLogps : logps with
          | none =>
              have missing := spans.logps_none.mp isLogps
              exact absurd missing.2 (extends'.logps active trainable missing.1)
          | some held =>
              subst isLogps
              rcases extendTopP_returns { sample with
                  rolloutTopPTokenIds := some ids
                  rolloutTopPTokenOffsets := some offsets
                  rolloutTopPLogProbs := some held } rfl rfl rfl spans tokens sampled with
                ⟨allIds, allOffsets, allLogps, extendEq, fits⟩
              refine ⟨_, _, _, ?_, .extended active trainable fits⟩
              rw [if_pos rfl, passed trainable, sampled, attempt_ok, ok_bind, extendEq]

theorem centerTopP_raises (tokens : call.tokens ≠ [])
    (kept : ¬ RejectsDistributions args sample call)
    (misfits : ¬ ExtendsDistributions args sample call) (aligned : LengthsAligned sample)
    {logProbs : Option (List F)} (passed : call.trainable = true → logProbs = call.logProbs) :
    ∃ exception left, sample.centerTopP args call logProbs = .error ⟨exception, left⟩ ∧
      left ≠ sample := by
  have modes : recordsTopP args = true ∧ call.trainable = true := by
    by_contra other
    exact misfits ⟨fun active trainable => absurd ⟨active, trainable⟩ other,
      fun active trainable => absurd ⟨active, trainable⟩ other⟩
  rcases modes with ⟨active, trainable⟩
  rcases startTopP_kept kept active aligned with
    ⟨ids, offsets, logps, startEq, spans, isHeld⟩
  rw [Sample.centerTopP, if_pos ⟨tokens, active⟩, Sample.recordTopP, startEq, ok_bind,
    if_pos trainable, passed trainable]
  cases sampled : Sample.samplerTopP call call.logProbs with
  | error exception =>
      refine ⟨exception, _, rfl, ?_⟩
      intro same
      have written : sample.rolloutTopPTokenIds ≠ none := by
        rw [← congrArg Sample.rolloutTopPTokenIds same]
        exact Option.some_ne_none _
      exact kept (.sampler active written trainable exception sampled)
  | ok topP =>
      have missing : sample.rolloutTopPTokenIds ≠ none ∧ sample.rolloutTopPLogProbs = none := by
        by_contra complete
        rw [not_and] at complete
        exact misfits ⟨fun _ _ => ⟨topP, sampled⟩, fun _ _ => complete⟩
      have noLogps := spans.logps_none.mpr missing
      subst noLogps
      rcases extendTopP_raises { sample with
          rolloutTopPTokenIds := some ids
          rolloutTopPTokenOffsets := some offsets
          rolloutTopPLogProbs := none } rfl rfl rfl spans tokens sampled with
        ⟨exception, left, allOffsets, extendEq, isOffsets, sized⟩
      refine ⟨exception, left, extendEq, ?_⟩
      intro same
      rw [same, isHeld missing.1] at isOffsets
      have sameLength := congrArg List.length (Option.some.inj isOffsets)
      rw [spans.offsets_length, sized] at sameLength
      have counted : call.tokens.length ≠ 0 :=
        fun none => tokens (List.length_eq_zero_iff.mp none)
      omega

end Distributions

end Vime.Utils.Types
