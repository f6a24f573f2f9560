import Vime.Utils.SampleErrors

/-! # Rejected appends

Which calls leave the sample as it was when they raise. Checks made before the
first write do; checks made after it leave the written fields behind.
-/

namespace Vime.Utils.Types

open Vime.Foundation Vime.Utils Vime.Utils.ScoreCentering

variable {F : Type}

/-! ## Checks of the score-centering blocks -/

inductive RejectsHeads [SamplerValue F] (args : Option Args) (sample : Sample F)
    (call : AppendCall F) : Prop
  | sampler (active : recordsTopK args = true) (exception : PyException)
      (rejected : Sample.samplerHeads (headCount args) call = .error exception)
  | existing (active : recordsTopK args = true) (absent : sample.rolloutTopkTokenIds = none)
      (started : sample.responseLength ≠ 0) (trainable : sample.hasTrainable = true)
  | width (active : recordsTopK args = true) (held : HeadArray Int32)
      (isHeld : sample.rolloutTopkTokenIds = some held) (started : sample.responseLength ≠ 0)
      (differs : (held.width : Int) ≠ headCount args)

structure ExtendsHeads (args : Option Args) (sample : Sample F) : Prop where
  positive : recordsTopK args = true → sample.rolloutTopkTokenIds = none → 0 < headCount args
  logps : recordsTopK args = true → sample.rolloutTopkTokenIds ≠ none →
    sample.responseLength ≠ 0 → ∃ held, sample.rolloutTopkLogProbs = some held ∧
      (held.width : Int) = headCount args

/-- The checks on sampler distributions that are made before the first write. -/
inductive RejectsDistributions [SamplerValue F] (args : Option Args) (sample : Sample F)
    (call : AppendCall F) : Prop
  | existing (active : recordsTopP args = true) (absent : sample.rolloutTopPTokenIds = none)
      (started : sample.responseLength ≠ 0) (trainable : sample.hasTrainable = true)
  | sampler (active : recordsTopP args = true) (present : sample.rolloutTopPTokenIds ≠ none)
      (trainable : call.trainable = true) (exception : PyException)
      (rejected : Sample.samplerTopP call call.logProbs = .error exception)

structure ExtendsDistributions [SamplerValue F] (args : Option Args) (sample : Sample F)
    (call : AppendCall F) : Prop where
  sampler : recordsTopP args = true → call.trainable = true →
    ∃ topP, Sample.samplerTopP call call.logProbs = .ok topP
  logps : recordsTopP args = true → call.trainable = true →
    sample.rolloutTopPTokenIds ≠ none → sample.rolloutTopPLogProbs ≠ none

/-! ## The first block -/

theorem centerTopK_active [SamplerValue F] {args : Option Args} {call : AppendCall F}
    (tokens : call.tokens ≠ []) (active : recordsTopK args = true) (sample : Sample F) :
    sample.centerTopK args call = sample.recordTopK (headCount args) call := by
  cases args with
  | none => simp [recordsTopK] at active
  | some given => exact if_pos ⟨tokens, active⟩

theorem centerTopK_inactive [SamplerValue F] {args : Option Args} {call : AppendCall F}
    (inactive : call.tokens = [] ∨ recordsTopK args = false) (sample : Sample F) :
    sample.centerTopK args call = .ok sample := by
  cases args with
  | none => rfl
  | some given =>
      refine if_neg ?_
      rintro ⟨tokens, active⟩
      rcases inactive with empty | inactive
      · exact tokens empty
      · simp [active] at inactive

theorem RejectsHeads.centerTopK_eq [SamplerValue F] {args : Option Args} {sample : Sample F}
    {call : AppendCall F} (rejects : RejectsHeads args sample call) (tokens : call.tokens ≠ []) :
    ∃ exception, sample.centerTopK args call = .error ⟨exception, sample⟩ := by
  cases rejects with
  | sampler active exception rejected =>
      rw [centerTopK_active tokens active, Sample.recordTopK, rejected]
      exact ⟨exception, rfl⟩
  | existing active absent started trainable =>
      rw [centerTopK_active tokens active, Sample.recordTopK]
      cases heads : Sample.samplerHeads (headCount args) call with
      | error exception => exact ⟨exception, rfl⟩
      | ok heads =>
          rw [attempt_ok, ok_bind, Sample.startTopK, absent]
          dsimp only
          rw [if_pos ⟨started, trainable⟩]
          exact ⟨_, rfl⟩
  | width active held isHeld started differs =>
      rw [centerTopK_active tokens active, Sample.recordTopK]
      cases sampled : Sample.samplerHeads (headCount args) call with
      | error exception => exact ⟨exception, rfl⟩
      | ok heads =>
          have shaped := headsOf_samplerHeads sampled
          have mismatch : held.width ≠ heads.1.width := by
            intro same
            rw [same] at differs
            exact differs shaped.idsWidth
          rw [attempt_ok, ok_bind, Sample.startTopK, isHeld]
          dsimp only
          rw [ok_bind, Sample.extendTopK, isHeld, Sample.appendHeads, if_neg started,
            HeadArray.concatenate, dif_neg mismatch]
          exact ⟨_, rfl⟩

theorem appendHeads_fits {α : Type} {previous : Nat} {base : Option (HeadArray α)}
    {added : HeadArray α}
    (fits : previous ≠ 0 → ∃ held, base = some held ∧ held.width = added.width)
    (aligned : ∀ held ∈ base, held.rows.length = previous) :
    ∃ appended, Sample.appendHeads previous base added = .ok appended ∧
      appended.rows.length = previous + added.rows.length := by
  by_cases isFirst : previous = 0
  · subst isFirst
    exact ⟨added, rfl, (Nat.zero_add _).symm⟩
  · rcases fits isFirst with ⟨held, rfl, sameWidth⟩
    rcases appendHeads_some (fun none => absurd none isFirst) sameWidth with
      ⟨appended, appendEq, _, rows⟩
    exact ⟨appended, appendEq, by rw [rows, List.length_append, aligned held rfl]⟩

theorem appendHeads_misfits {α : Type} {previous : Nat} {base : Option (HeadArray α)}
    {added : HeadArray α} (started : previous ≠ 0)
    (misfits : ¬ ∃ held, base = some held ∧ held.width = added.width) :
    ∃ exception, Sample.appendHeads previous base added = .error exception := by
  rw [Sample.appendHeads, if_neg started]
  cases base with
  | none => exact ⟨_, rfl⟩
  | some held =>
      rw [HeadArray.concatenate, dif_neg fun same => misfits ⟨held, rfl, same⟩]
      exact ⟨_, rfl⟩

structure HeadsAfter (args : Option Args) (sample : Sample F) (call : AppendCall F)
    (ids : Option (HeadArray Int32)) (logps : Option (HeadArray F)) : Prop where
  ids_length : recordsTopK args = true →
    ∀ held ∈ ids, held.rows.length = sample.responseLength + call.tokens.length
  logps_length : recordsTopK args = true →
    ∀ held ∈ logps, held.rows.length = sample.responseLength + call.tokens.length
  inactive : recordsTopK args = false →
    ids = sample.rolloutTopkTokenIds ∧ logps = sample.rolloutTopkLogProbs

section ExtendTopK

variable {args : Option Args} (sample : Sample F) {call : AppendCall F}
  {heads : HeadArray Int32 × HeadArray F} {ids : HeadArray Int32}

theorem appendIds_eq [LogProbValue F] (shaped : HeadsOf (headCount args) call heads)
    (width : sample.responseLength ≠ 0 → (ids.width : Int) = headCount args)
    (idsAligned : ids.rows.length = sample.responseLength) :
    ∃ allIds, Sample.appendHeads sample.responseLength (some ids) heads.1 = .ok allIds ∧
      allIds.rows.length = sample.responseLength + call.tokens.length := by
  have fits (started : sample.responseLength ≠ 0) :
      ∃ held, some ids = some held ∧ held.width = heads.1.width :=
    ⟨ids, rfl, Int.ofNat_inj.mp ((width started).trans shaped.idsWidth.symm)⟩
  have aligned : ∀ held ∈ some ids, held.rows.length = sample.responseLength := by
    intro held isHeld
    rw [← Option.some.inj isHeld]
    exact idsAligned
  rw [← shaped.idsLength]
  exact appendHeads_fits fits aligned

theorem extendTopK_returns [LogProbValue F] (shaped : HeadsOf (headCount args) call heads)
    (isIds : sample.rolloutTopkTokenIds = some ids)
    (width : sample.responseLength ≠ 0 → (ids.width : Int) = headCount args)
    (idsAligned : ids.rows.length = sample.responseLength)
    (logps : sample.responseLength ≠ 0 → ∃ held, sample.rolloutTopkLogProbs = some held ∧
      (held.width : Int) = headCount args)
    (logpsAligned : ∀ held ∈ sample.rolloutTopkLogProbs,
      held.rows.length = sample.responseLength) :
    ∃ allIds allLogps, sample.extendTopK heads = .ok { sample with
        rolloutTopkTokenIds := some allIds, rolloutTopkLogProbs := some allLogps } ∧
      allIds.rows.length = sample.responseLength + call.tokens.length ∧
      allLogps.rows.length = sample.responseLength + call.tokens.length := by
  rcases appendIds_eq sample shaped width idsAligned with ⟨allIds, idsEq, idsLength⟩
  have fits (started : sample.responseLength ≠ 0) :
      ∃ held, sample.rolloutTopkLogProbs = some held ∧ held.width = heads.2.width := by
    rcases logps started with ⟨held, isHeld, isK⟩
    exact ⟨held, isHeld, Int.ofNat_inj.mp (isK.trans shaped.logpsWidth.symm)⟩
  rcases appendHeads_fits fits logpsAligned with ⟨allLogps, logpsEq, logpsLength⟩
  refine ⟨allIds, allLogps, ?_, idsLength, by rw [logpsLength, shaped.logpsLength]⟩
  rw [Sample.extendTopK, isIds, idsEq, attempt_ok, ok_bind]
  dsimp only
  rw [logpsEq]
  rfl

theorem extendTopK_raises [LogProbValue F] (shaped : HeadsOf (headCount args) call heads)
    (isIds : sample.rolloutTopkTokenIds = some ids)
    (width : sample.responseLength ≠ 0 → (ids.width : Int) = headCount args)
    (idsAligned : ids.rows.length = sample.responseLength)
    (started : sample.responseLength ≠ 0)
    (misfits : ¬ ∃ held, sample.rolloutTopkLogProbs = some held ∧
      (held.width : Int) = headCount args) :
    ∃ exception allIds, sample.extendTopK heads =
        .error ⟨exception, { sample with rolloutTopkTokenIds := some allIds }⟩ ∧
      allIds.rows.length = sample.responseLength + call.tokens.length := by
  rcases appendIds_eq sample shaped width idsAligned with ⟨allIds, idsEq, idsLength⟩
  have noHeads : ¬ ∃ held, sample.rolloutTopkLogProbs = some held ∧
      held.width = heads.2.width := by
    rintro ⟨held, isHeld, same⟩
    exact misfits ⟨held, isHeld, by rw [same]; exact shaped.logpsWidth⟩
  rcases appendHeads_misfits started noHeads with ⟨exception, logpsEq⟩
  refine ⟨exception, allIds, ?_, idsLength⟩
  rw [Sample.extendTopK, isIds, idsEq, attempt_ok, ok_bind]
  dsimp only
  rw [logpsEq]
  rfl

end ExtendTopK

section CenterTopK

variable [SamplerValue F] {args : Option Args} {sample : Sample F} {call : AppendCall F}

theorem samplerHeads_of_kept (kept : ¬ RejectsHeads args sample call)
    (active : recordsTopK args = true) :
    ∃ heads, Sample.samplerHeads (headCount args) call = .ok heads := by
  cases sampled : Sample.samplerHeads (headCount args) call with
  | error exception => exact absurd (.sampler active exception sampled) kept
  | ok heads => exact ⟨heads, rfl⟩

theorem width_of_kept (kept : ¬ RejectsHeads args sample call) (active : recordsTopK args = true)
    {ids : HeadArray Int32} (isIds : sample.rolloutTopkTokenIds = some ids)
    (started : sample.responseLength ≠ 0) : (ids.width : Int) = headCount args := by
  by_contra differs
  exact kept (.width active ids isIds started differs)

theorem startTopK_returns (kept : ¬ RejectsHeads args sample call)
    (active : recordsTopK args = true) (absent : sample.rolloutTopkTokenIds = none)
    (positive : 0 < headCount args) :
    ∃ ids logps, sample.startTopK (headCount args) = .ok { sample with
        rolloutTopkTokenIds := some ids, rolloutTopkLogProbs := some logps } ∧
      (ids.width : Int) = headCount args ∧ (logps.width : Int) = headCount args ∧
      ids.rows.length = sample.responseLength ∧ logps.rows.length = sample.responseLength := by
  have isK : ((headCount args).toNat : Int) = headCount args :=
    Int.toNat_of_nonneg (Int.le_of_lt positive)
  have fresh : ¬ (sample.responseLength ≠ 0 ∧ sample.hasTrainable = true) :=
    fun ⟨started, trainable⟩ => kept (.existing active absent started trainable)
  refine ⟨HeadArray.full sample.responseLength
      ((List.range (headCount args).toNat).map Int32.ofNat),
    HeadArray.full sample.responseLength
      (List.replicate (headCount args).toNat (LogProbValue.uniform (headCount args).toNat)),
    ?_, ?_, ?_, ?_, ?_⟩
  · rw [Sample.startTopK, absent]
    dsimp only
    rw [if_neg fresh, Sample.dummyTokenIds, Sample.dummyLogProbs, if_neg (by omega),
      if_neg (by omega)]
    rfl
  · simpa [HeadArray.full] using isK
  · simpa [HeadArray.full] using isK
  · exact List.length_replicate
  · exact List.length_replicate

theorem startTopK_raises (kept : ¬ RejectsHeads args sample call)
    (active : recordsTopK args = true) (absent : sample.rolloutTopkTokenIds = none)
    (notPositive : ¬ 0 < headCount args) :
    ∃ exception left, sample.startTopK (headCount args) = .error ⟨exception, left⟩ ∧
      left.rolloutTopkTokenIds ≠ none := by
  rcases samplerHeads_of_kept kept active with ⟨heads, sampled⟩
  have isWidth := (headsOf_samplerHeads sampled).idsWidth
  have fresh : ¬ (sample.responseLength ≠ 0 ∧ sample.hasTrainable = true) :=
    fun ⟨started, trainable⟩ => kept (.existing active absent started trainable)
  refine ⟨.valueError "math domain error", { sample with
    rolloutTopkTokenIds := some (HeadArray.full sample.responseLength
      ((List.range (headCount args).toNat).map Int32.ofNat)) }, ?_, nofun⟩
  rw [Sample.startTopK, absent]
  dsimp only
  rw [if_neg fresh, Sample.dummyTokenIds, Sample.dummyLogProbs, if_neg (by omega),
    if_pos (by omega)]
  rfl

theorem centerTopK_returns (tokens : call.tokens ≠ []) (kept : ¬ RejectsHeads args sample call)
    (extends' : ExtendsHeads args sample) (aligned : LengthsAligned sample) :
    ∃ ids logps, sample.centerTopK args call = .ok { sample with
        rolloutTopkTokenIds := ids, rolloutTopkLogProbs := logps } ∧
      HeadsAfter args sample call ids logps := by
  cases active : recordsTopK args with
  | false =>
      refine ⟨sample.rolloutTopkTokenIds, sample.rolloutTopkLogProbs,
        centerTopK_inactive (.inr active) sample, ?_⟩
      exact ⟨fun other => by simp [active] at other, fun other => by simp [active] at other,
        fun _ => ⟨rfl, rfl⟩⟩
  | true =>
      rcases samplerHeads_of_kept kept active with ⟨heads, sampled⟩
      have shaped := headsOf_samplerHeads sampled
      have after {ids : HeadArray Int32} {logps : HeadArray F}
          (idsLength : ids.rows.length = sample.responseLength + call.tokens.length)
          (logpsLength : logps.rows.length = sample.responseLength + call.tokens.length) :
          HeadsAfter args sample call (some ids) (some logps) := by
        constructor
        · intro _ held isHeld
          rw [← Option.some.inj isHeld]
          exact idsLength
        · intro _ held isHeld
          rw [← Option.some.inj isHeld]
          exact logpsLength
        · intro inactive
          simp [active] at inactive
      rw [centerTopK_active tokens active, Sample.recordTopK, sampled, attempt_ok, ok_bind]
      cases isIds : sample.rolloutTopkTokenIds with
      | some ids =>
          rcases extendTopK_returns sample shaped isIds (width_of_kept kept active isIds)
            (aligned.topkIds ids isIds) (extends'.logps active (by simp [isIds]))
            aligned.topkLogps with ⟨allIds, allLogps, extendEq, idsLength, logpsLength⟩
          refine ⟨some allIds, some allLogps, ?_, after idsLength logpsLength⟩
          rw [Sample.startTopK, isIds]
          exact extendEq
      | none =>
          rcases startTopK_returns kept active isIds (extends'.positive active isIds) with
            ⟨ids, logps, startEq, idsWidth, logpsWidth, idsRows, logpsRows⟩
          rcases extendTopK_returns { sample with
              rolloutTopkTokenIds := some ids, rolloutTopkLogProbs := some logps } shaped rfl
            (fun _ => idsWidth) idsRows (fun _ => ⟨logps, rfl, logpsWidth⟩)
            (fun held isHeld => by rw [← Option.some.inj isHeld]; exact logpsRows) with
            ⟨allIds, allLogps, extendEq, idsLength, logpsLength⟩
          refine ⟨some allIds, some allLogps, ?_, after idsLength logpsLength⟩
          rw [startEq, ok_bind]
          exact extendEq

theorem centerTopK_raises (tokens : call.tokens ≠ []) (kept : ¬ RejectsHeads args sample call)
    (misfits : ¬ ExtendsHeads args sample) (aligned : LengthsAligned sample) :
    ∃ exception left, sample.centerTopK args call = .error ⟨exception, left⟩ ∧
      left ≠ sample := by
  have active : recordsTopK args = true := by
    by_contra inactive
    exact misfits ⟨fun active => absurd active inactive, fun active => absurd active inactive⟩
  rcases samplerHeads_of_kept kept active with ⟨heads, sampled⟩
  have shaped := headsOf_samplerHeads sampled
  rw [centerTopK_active tokens active, Sample.recordTopK, sampled, attempt_ok, ok_bind]
  cases isIds : sample.rolloutTopkTokenIds with
  | some ids =>
      have late : sample.responseLength ≠ 0 ∧ ¬ ∃ held, sample.rolloutTopkLogProbs = some held ∧
          (held.width : Int) = headCount args := by
        by_contra fits
        rw [not_and, not_not] at fits
        exact misfits ⟨fun _ absent => by simp [isIds] at absent, fun _ _ => fits⟩
      rcases extendTopK_raises sample shaped isIds (width_of_kept kept active isIds)
        (aligned.topkIds ids isIds) late.1 late.2 with ⟨exception, allIds, extendEq, idsLength⟩
      have startEq : sample.startTopK (headCount args) = .ok sample := by
        rw [Sample.startTopK, isIds]
      rw [startEq]
      refine ⟨exception, _, extendEq, ?_⟩
      intro same
      have sameIds := congrArg Sample.rolloutTopkTokenIds same
      rw [isIds] at sameIds
      have sameRows := congrArg (fun held => held.rows.length) (Option.some.inj sameIds)
      have counted : call.tokens.length ≠ 0 :=
        fun none => tokens (List.length_eq_zero_iff.mp none)
      have before := aligned.topkIds ids isIds
      omega
  | none =>
      have notPositive : ¬ 0 < headCount args := fun positive =>
        misfits ⟨fun _ _ => positive, fun _ present => absurd isIds present⟩
      rcases startTopK_raises kept active isIds notPositive with
        ⟨exception, left, startEq, written⟩
      refine ⟨exception, left, by rw [startEq]; rfl, ?_⟩
      intro same
      rw [same] at written
      exact written isIds

end CenterTopK

/-! ## Aligned spans -/

theorem validateTopP_cases {ids offsets : Option (List Int32)} {logps : Option (List F)}
    {responseLength : Nat}
    (aligned : Sample.validateTopP ids offsets logps responseLength = .ok ()) :
    (ids = none ∧ offsets = none) ∨ ∃ heldIds heldOffsets, ids = some heldIds ∧
      offsets = some heldOffsets ∧ heldOffsets.length = responseLength + 1 ∧
      (∀ held ∈ logps, held.length = heldIds.length) ∧
      heldOffsets.getLast?.map Int32.toInt = some (heldIds.length : Int) := by
  cases ids with
  | none =>
      cases offsets with
      | none => exact .inl ⟨rfl, rfl⟩
      | some offsets => cases aligned
  | some ids =>
      cases offsets with
      | none => cases aligned
      | some offsets => exact .inr ⟨ids, offsets, rfl, rfl, validateTopP_some_eq_ok.mp aligned⟩

/-- Merging spans into an aligned replay. -/
theorem merge_aligned {heldIds heldOffsets ids offsets : List Int32} {responseLength count : Nat}
    (heldLength : heldOffsets.length = responseLength + 1)
    (heldLast : heldOffsets.getLast?.map Int32.toInt = some (heldIds.length : Int))
    (offsetsLength : offsets.length = count + 1)
    (last : offsets.getLast?.map Int32.toInt = some (ids.length : Int)) (nonempty : count ≠ 0) :
    ∃ merged, mergeRolloutTopPTokenData (some heldIds) (some heldOffsets) ids offsets =
        .ok (heldIds ++ ids, merged) ∧
      merged.length = responseLength + count + 1 ∧
      (merged.getLast?.map Int32.toInt = some ((heldIds ++ ids).length : Int) ↔
        heldIds.length + ids.length < 2 ^ 31) := by
  rcases Option.map_eq_some_iff.mp heldLast with ⟨heldEnd, isHeldEnd, heldEnds⟩
  rcases Option.map_eq_some_iff.mp last with ⟨finish, isFinish, ends⟩
  have baseOffset : lastItem heldOffsets = .ok heldEnd := lastItem_eq_ok.mpr isHeldEnd
  refine ⟨heldOffsets ++ (offsets.drop 1).map (· + heldEnd), ?_, ?_, ?_⟩
  · rw [mergeRolloutTopPTokenData, Option.getD_some, Option.getD_some, baseOffset]
    rfl
  · rw [List.length_append, List.length_map, List.length_drop, heldLength, offsetsLength]
    omega
  · have mergedLast : (heldOffsets ++ (offsets.drop 1).map (· + heldEnd)).getLast? =
        some (finish + heldEnd) := by
      rw [List.getLast?_append, List.getLast?_map, List.getLast?_drop, isFinish,
        if_neg (by omega)]
      rfl
    rw [mergedLast, Option.map_some, Int32.toInt_add, heldEnds, ends, Option.some.injEq,
      List.length_append]
    have finishBound := finish.toInt_lt
    have heldBound := heldEnd.toInt_lt
    rw [ends] at finishBound
    rw [heldEnds] at heldBound
    -- both counts are in range, so their sum wraps at most once
    constructor
    · intro same
      have bound := (finish + heldEnd).toInt_lt
      rw [Int32.toInt_add, heldEnds, ends, same] at bound
      omega
    · intro fits
      rw [Int.bmod_eq_of_le (by omega) (by omega)]
      omega

end Vime.Utils.Types
