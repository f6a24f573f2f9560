import Vime.Utils.AlignedAppends

/-! # Exceptions of an append

A call on an aligned sample raises `ValueError` only.
-/

namespace Vime.Utils.Types

open Vime.Foundation Vime.Utils Vime.Utils.ScoreCentering

variable {F : Type}

/-! ## Exceptions -/

section Exceptions

open ValueErrorsOnly

theorem decode_valueErrors (array : MetaArray) : ValueErrorsOnly (decodeMetaArray array) := by
  cases array with
  | error message => exact valueError message
  | ok value => exact ok value

theorem checkedLogProbs_valueErrors [LogProbValue F] (call : AppendCall F) :
    ValueErrorsOnly (checkedLogProbs call) :=
  bind (raiseIf _ _) fun _ _ => bind (raiseIf _ _) fun _ _ => bind (raiseIf _ _) fun _ _ => ok _

theorem samplerHeads_valueErrors [SamplerValue F] (k : Int) (call : AppendCall F) :
    ValueErrorsOnly (Sample.samplerHeads k call) := by
  rw [Sample.samplerHeads]
  split
  · rw [extractSamplerTopk.eq_def]
    split
    · exact valueError _
    · exact bind (raiseIf _ _) fun _ _ =>
        bind (forM fun _ _ => bind (raiseIf _ _) fun _ _ => raiseIf _ _) fun _ _ => ok _
  · rw [Sample.dummyTokenIds, Sample.dummyLogProbs]
    split
    · exact bind (valueError _) fun _ same => by cases same
    · split
      · exact bind (ok _) fun _ _ => bind (valueError _) fun _ same => by cases same
      · exact ok _

theorem appendHeads_valueErrors {α : Type} (previous : Nat) (base : Option (HeadArray α))
    (added : HeadArray α) : ValueErrorsOnly (Sample.appendHeads previous base added) := by
  rw [Sample.appendHeads]
  split
  · exact ok added
  · rw [HeadArray.concatenate.eq_def]
    split
    · exact valueError _
    · split
      · exact ok _
      · exact valueError _

theorem validateBlocks_valueErrors [SamplerValue F] (ids offsets : List Int) (logps : List F)
    (count : Nat) (mask : List Bool) (sampled : Option (List Int × List F)) (first : Nat) :
    ValueErrorsOnly
      (SamplerSupports.validateBlocks ids offsets logps count mask sampled first) := by
  fun_induction SamplerSupports.validateBlocks ids offsets logps count mask sampled first with
  | case1 first more induction =>
      refine bind ?_ fun _ _ => induction
      exact bind (raiseIf _ _) fun _ _ => bind (raiseIf _ _) fun _ _ =>
        bind (raiseIf _ _) fun _ _ => bind (raiseIf _ _) fun _ _ => raiseIf _ _
  | case2 first done => exact ok ()

theorem validate_topP_valueErrors [SamplerValue F] (topP : SamplerTopP F) (count : Nat)
    (sampled : Option (SampledTokens F)) : ValueErrorsOnly (topP.validate count sampled) := by
  rw [SamplerTopP.validate, SamplerSupports.validateSamplerTopP.eq_def]
  split
  · refine bind ?_ fun _ _ => bind (ok _) fun _ _ =>
      bind ?_ fun _ _ => validateBlocks_valueErrors _ _ _ _ _ _ _
    · refine bind (raiseIf _ _) fun _ _ => ?_
      split
      · exact bind (raiseIf _ _) fun _ _ => ok _
      · exact valueError _
    · rw [SamplerSupports.checkedSampled.eq_def]
      split
      · exact ok _
      · exact bind (raiseIf _ _) fun _ _ => ok _
  · exact valueError _

theorem samplerTopP_valueErrors [SamplerValue F] (call : AppendCall F)
    (logProbs : Option (List F)) : ValueErrorsOnly (Sample.samplerTopP call logProbs) := by
  refine bind ?_ fun _ _ => bind (validate_topP_valueErrors _ _ _) fun _ _ => ok _
  rw [extractSamplerTopP.eq_def]
  split
  · exact valueError _
  · exact map _ (validate_topP_valueErrors _ _ _)

theorem concatenateLogProbs_valueErrors (previous : Option (List F)) (added : List F) :
    ValueErrorsOnly (Sample.concatenateLogProbs previous added) := by
  cases previous with
  | none => exact valueError _
  | some held => exact ok _

theorem lastItem_valueErrors {α : Type} {values : List α} (nonempty : values ≠ []) :
    ValueErrorsOnly (lastItem values) := by
  cases isLast : values.getLast? with
  | none => exact absurd (List.getLast?_eq_none_iff.mp isLast) nonempty
  | some last =>
      rw [lastItem_eq_ok.mpr isLast]
      exact ok last

theorem merge_valueErrors {baseTokenIds baseOffsets : Option (List Int32)}
    (nonempty : baseOffsets ≠ some []) (tokenIds offsets : List Int32) :
    ValueErrorsOnly (mergeRolloutTopPTokenData baseTokenIds baseOffsets tokenIds offsets) := by
  refine bind (lastItem_valueErrors ?_) fun _ _ => ok _
  cases baseOffsets with
  | none => exact nofun
  | some base => exact fun empty => nonempty (congrArg some empty)

theorem pad_valueErrors (tokenIds offsets : Option (List Int32)) (numTokens : Nat) :
    ValueErrorsOnly (padRolloutTopPOffsets tokenIds offsets numTokens) := by
  rw [padRolloutTopPOffsets.eq_def]
  split
  · split
    · exact valueError _
    · exact ok _
  · exact valueError _

theorem extract_valueErrors (info : MetaInfo F) (count : Nat) :
    ValueErrorsOnly (extractRolloutTopPTokenData info count) := by
  refine bind (decode_valueErrors _) fun _ _ => bind (decode_valueErrors _) fun _ _ => ?_
  rw [pairTopPTokenData.eq_def]
  split
  · exact ok _
  · refine map _ (bind (raiseIf _ _) fun _ starts => bind (lastItem_valueErrors ?_) fun _ _ =>
      bind (raiseIf _ _) fun _ _ => bind (raiseIf _ _) fun _ _ => ok _)
    rw [raiseIf_eq_ok, not_not] at starts
    rintro rfl
    cases starts
  · exact valueError _

theorem applyTopP_valueErrors {sample : Sample F}
    (nonempty : sample.rolloutTopPTokenOffsets ≠ some []) (info : MetaInfo F) (count : Nat)
    (pad : Bool) : ValueErrorsOnly (sample.applyTopP info count pad) := by
  have added (data : Option (List Int32 × List Int32)) :
      ValueErrorsOnly (sample.addTopP data count pad) := by
    rw [Sample.addTopP.eq_def]
    split
    · split
      · exact ok _
      · exact map _ (merge_valueErrors nonempty _ _)
    · split
      · exact map _ (pad_valueErrors _ _ _)
      · exact ok _
  rw [Sample.applyTopP]
  split
  · exact ValueErrorsOnly.bind (ok _) fun data _ => added data
  · exact ValueErrorsOnly.bind (extract_valueErrors info count) fun data _ => added data

theorem applyRoutedExperts_valueErrors (args : Option Args) (info : MetaInfo F)
    (tokenCount : Nat) (existing : Option (List (List Int32))) :
    ValueErrorsOnly (Sample.applyRoutedExperts args info tokenCount existing) := by
  refine bind (decode_valueErrors _) fun decoded _ => ?_
  cases decoded with
  | none => exact ok _
  | some flat =>
      refine bind ?_ fun _ _ => bind ?_ fun _ _ => ok _
      · cases args with
        | none => exact valueError _
        | some given => exact ok given
      · exact bind (raiseIf _ _) fun _ _ => bind (raiseIf _ _) fun _ _ =>
          bind (raiseIf _ _) fun _ _ => bind (raiseIf _ _) fun _ _ => ok _

theorem validate_valueErrors (sample : Sample F) :
    ValueErrorsOnly sample.validateResponseMetadataLengths := by
  refine bind (raiseIf _ _) fun _ _ => bind (raiseIf _ _) fun _ _ => bind (raiseIf _ _) fun _ _ =>
    bind (raiseIf _ _) fun _ _ => ?_
  rw [Sample.validateTopP.eq_def]
  split
  · exact ok ()
  · refine bind (raiseIf _ _) fun _ sized => bind (raiseIf _ _) fun _ _ =>
      bind (lastItem_valueErrors ?_) fun _ _ => raiseIf _ _
    rw [raiseIf_eq_ok, not_not] at sized
    rintro rfl
    cases sized
  · exact valueError _

end Exceptions

/-! ## Steps that carry the sample -/

/-- A step of the method raises `ValueError` only. -/
def RejectsByValueError {α : Type} (step : Except (Rejection F) α) : Prop :=
  ∀ rejection, step = .error rejection → ∃ message, rejection.exception = .valueError message

namespace RejectsByValueError

theorem ok {α : Type} (value : α) : RejectsByValueError (.ok value : Except (Rejection F) α) :=
  fun _ raised => nomatch raised

theorem rejected {α : Type} (sample : Sample F) (message : String) :
    RejectsByValueError (sample.rejected message : Except (Rejection F) α) :=
  fun _ raised => ⟨message, by rw [← Except.error.inj raised]⟩

theorem ofStep {α : Type} (sample : Sample F) {step : Except PyException α}
    (only : ValueErrorsOnly step) : RejectsByValueError (Types.attempt sample step) := by
  cases step with
  | ok value => exact ok value
  | error exception =>
      intro rejection raised
      rw [← Except.error.inj raised]
      exact only exception rfl

theorem andThen {α β : Type} {step : Except (Rejection F) α} {next : α → Except (Rejection F) β}
    (first : RejectsByValueError step)
    (later : ∀ value, step = .ok value → RejectsByValueError (next value)) :
    RejectsByValueError (step >>= next) := by
  cases step with
  | ok value => exact later value rfl
  | error held =>
      intro rejection raised
      rw [← Except.error.inj raised]
      exact first held rfl

end RejectsByValueError

theorem centerTopK_rejects [SamplerValue F] (args : Option Args) (call : AppendCall F)
    (sample : Sample F) : RejectsByValueError (sample.centerTopK args call) := by
  rw [Sample.centerTopK.eq_def]
  split
  · exact .ok _
  · split
    · refine .andThen (.ofStep _ (samplerHeads_valueErrors _ _)) fun _ _ => .andThen ?_ fun _ _ => ?_
      · rw [Sample.startTopK]
        split
        · exact .ok _
        · split
          · exact .rejected _ _
          · rw [Sample.dummyTokenIds, Sample.dummyLogProbs]
            refine .andThen (.ofStep _ ?_) fun _ _ => .andThen (.ofStep _ ?_) fun _ _ => .ok _
            · split
              · exact ValueErrorsOnly.valueError _
              · exact ValueErrorsOnly.ok _
            · split
              · exact ValueErrorsOnly.valueError _
              · exact ValueErrorsOnly.ok _
      · exact .andThen (.ofStep _ (appendHeads_valueErrors _ _ _)) fun _ _ =>
          .andThen (.ofStep _ (appendHeads_valueErrors _ _ _)) fun _ _ => .ok _
    · exact .ok _

theorem startTopP_nonempty {sample started : Sample F}
    (nonempty : sample.rolloutTopPTokenOffsets ≠ some [])
    (returned : sample.startTopP = .ok started) : started.rolloutTopPTokenOffsets ≠ some [] := by
  rw [Sample.startTopP] at returned
  split at returned
  · rw [← Except.ok.inj returned]
    exact nonempty
  · split at returned
    · cases returned
    · rw [← Except.ok.inj returned]
      intro same
      cases Option.some.inj same

theorem extendTopP_nonempty {topP : SamplerTopP F} {sample next : Sample F}
    (returned : sample.extendTopP topP = .ok next) : next.rolloutTopPTokenOffsets ≠ some [] := by
  rcases bind_eq_ok.mp returned with ⟨merged, mergeEq, more⟩
  rcases bind_eq_ok.mp more with ⟨logps, _, same⟩
  rcases bind_eq_ok.mp (attempt_eq_ok.mp mergeEq) with ⟨last, isLast, isMerged⟩
  rw [← Except.ok.inj same, ← Except.ok.inj isMerged]
  intro empty
  have isNil := (List.append_eq_nil_iff.mp (Option.some.inj empty)).1
  rw [isNil] at isLast
  cases isLast

theorem centerTopP_rejects [SamplerValue F] (args : Option Args) (call : AppendCall F)
    (logProbs : Option (List F)) {sample : Sample F}
    (nonempty : sample.rolloutTopPTokenOffsets ≠ some []) :
    RejectsByValueError (sample.centerTopP args call logProbs) := by
  rw [Sample.centerTopP]
  split
  · refine .andThen ?_ fun started startEq => ?_
    · rw [Sample.startTopP]
      split
      · exact .ok _
      · split
        · exact .rejected _ _
        · exact .ok _
    · split
      · refine .andThen (.ofStep _ (samplerTopP_valueErrors _ _)) fun _ _ => ?_
        exact .andThen (.ofStep _ (merge_valueErrors (startTopP_nonempty nonempty startEq) _ _))
          fun _ _ => .andThen (.ofStep _ (concatenateLogProbs_valueErrors _ _)) fun _ _ => .ok _
      · exact .ok _
  · exact .ok _

theorem centerTopP_nonempty [SamplerValue F] {args : Option Args} {call : AppendCall F}
    {logProbs : Option (List F)} {sample next : Sample F}
    (nonempty : sample.rolloutTopPTokenOffsets ≠ some [])
    (returned : sample.centerTopP args call logProbs = .ok next) :
    next.rolloutTopPTokenOffsets ≠ some [] := by
  rw [Sample.centerTopP] at returned
  split at returned
  · rcases bind_eq_ok.mp returned with ⟨started, startEq, more⟩
    split at more
    · rcases bind_eq_ok.mp more with ⟨topP, _, extendEq⟩
      exact extendTopP_nonempty extendEq
    · rw [← Except.ok.inj more]
      exact startTopP_nonempty nonempty startEq
  · rw [← Except.ok.inj returned]
    exact nonempty

theorem LengthsAligned.offsets_nonempty {sample : Sample F} (aligned : LengthsAligned sample) :
    sample.rolloutTopPTokenOffsets ≠ some [] := by
  intro empty
  have checked := aligned.topP
  rw [empty] at checked
  cases isIds : sample.rolloutTopPTokenIds with
  | none =>
      rw [isIds] at checked
      cases checked
  | some ids =>
      rw [isIds] at checked
      have sized := (validateTopP_some_eq_ok.mp checked).1
      cases sized

theorem append_rejects [SamplerValue F] (args : Option Args) (call : AppendCall F)
    {sample : Sample F} (aligned : LengthsAligned sample) :
    RejectsByValueError (sample.appendResponseTokens args call) := by
  refine .andThen (.ofStep _ (checkedLogProbs_valueErrors call)) fun logProbs _ =>
    .andThen (centerTopK_rejects args call sample) fun withTopK topKEq => ?_
  have nonemptyTopK : withTopK.rolloutTopPTokenOffsets ≠ some [] := by
    rcases centerTopK_frame topKEq with ⟨ids, logps, rfl⟩
    exact aligned.offsets_nonempty
  refine .andThen (centerTopP_rejects args call logProbs nonemptyTopK) fun withTopP topPEq => ?_
  have nonemptyTopP := centerTopP_nonempty nonemptyTopK topPEq
  refine .andThen ?_ fun held heldEq => .andThen ?_ fun applied _ =>
    .andThen (.ofStep _ (validate_valueErrors applied)) fun _ _ => .ok _
  · rw [Sample.addLogProbs.eq_def]
    split
    · exact .ok _
    · exact .ok _
    · split
      · exact .rejected _ _
      · exact .ok _
  · have nonempty : held.rolloutTopPTokenOffsets ≠ some [] := by
      rcases addLogProbs_frame heldEq with ⟨entries, rfl⟩
      rw [(addTokens_others call withTopP).2.2.2.2.1]
      exact nonemptyTopP
    rw [Sample.applyCallMetaInfo]
    split
    · exact .andThen (.ofStep _ (applyTopP_valueErrors nonempty _ _ _)) fun _ _ =>
        .andThen (.ofStep _ (applyRoutedExperts_valueErrors _ _ _ _)) fun _ _ => .ok _
    · exact .ok _

end Vime.Utils.Types
