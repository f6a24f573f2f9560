import Vime.Utils.SampleRecord
import Vime.Utils.SupportRows

/-! # One append to a recorded sample

What each part of the method does to a sample that holds the data of the calls
so far, and the sample after the whole call.
-/

namespace Vime.Utils.Types

open Vime.Foundation Vime.Utils Vime.Utils.ScoreCentering

variable {F : Type}

@[simp] theorem attempt_ok (sample : Sample F) {α : Type} (value : α) :
    attempt sample (.ok value) = .ok value := rfl

@[simp] theorem attempt_error (sample : Sample F) {α : Type} (exception : PyException) :
    attempt sample (.error exception : Except PyException α) = .error ⟨exception, sample⟩ := rfl

theorem attempt_eq_ok {sample : Sample F} {α : Type} {step : Except PyException α} {value : α} :
    attempt sample step = .ok value ↔ step = .ok value := by
  cases step with
  | error exception => simp
  | ok found => simp

/-! ## Log probabilities of the call -/

def AppendCall.passedLogProbs [LogProbValue F] (call : AppendCall F) : Option (List F) :=
  if call.tokens ≠ [] ∧ call.trainable = false then
    some (List.replicate call.tokens.length LogProbValue.zero) else call.logProbs

namespace ResponseCall

variable [LogProbValue F] {args : Option Args} {call : AppendCall F}

theorem checkedLogProbs_eq (response : ResponseCall args call) :
    checkedLogProbs call = .ok call.passedLogProbs := by
  rw [checkedLogProbs]
  rcases response with trained | masked
  · rcases trained.logProbs with ⟨logProbs, isLogProbs, sameLength⟩
    simp [raiseIf, AppendCall.passedLogProbs, trained.trainable, isLogProbs, sameLength]
  · simp [raiseIf, AppendCall.passedLogProbs, masked.masked, masked.logProbs]

theorem passedLogProbs_getD (response : ResponseCall args call) :
    call.passedLogProbs.getD [] = call.tokenLogProbs := by
  rw [AppendCall.passedLogProbs, AppendCall.tokenLogProbs]
  rcases response with trained | masked
  · simp [trained.trainable]
  · by_cases empty : call.tokens = []
    · simp [masked.masked, masked.logProbs, empty]
    · simp [masked.masked, empty]

end ResponseCall

/-! ## Top-k heads -/

structure HeadsOf [LogProbValue F] (k : Int) (call : AppendCall F)
    (heads : HeadArray Int32 × HeadArray F) : Prop where
  idsWidth : (heads.1.width : Int) = k
  logpsWidth : (heads.2.width : Int) = k
  idsRows : heads.1.rows = call.headIds k
  logpsRows : heads.2.rows = call.headLogProbs k
  idsLength : heads.1.rows.length = call.tokens.length
  logpsLength : heads.2.rows.length = call.tokens.length

theorem checkedTopk_eq_ok [SamplerValue F] {ids : HeadArray Int32} {logps : HeadArray F}
    {count : Nat} {k : Int} {heads : HeadArray Int32 × HeadArray F}
    (checked : checkedTopk ids logps count k = .ok heads) :
    heads = (ids, logps) ∧ ids.rows.length = count ∧ (ids.width : Int) = k ∧
      logps.rows.length = count ∧ (logps.width : Int) = k := by
  rw [checkedTopk, raiseIf_bind_eq_ok] at checked
  rcases checked with ⟨shaped, returned⟩
  rcases bind_eq_ok.mp returned with ⟨_, _, same⟩
  rw [not_or, not_or, not_or, not_not, not_not, not_not, not_not] at shaped
  exact ⟨(Except.ok.inj same).symm, shaped⟩

/-- The heads of a call have the shape that it needs. -/
theorem headsOf_samplerHeads [SamplerValue F] {k : Int} {call : AppendCall F}
    {heads : HeadArray Int32 × HeadArray F}
    (returned : Sample.samplerHeads k call = .ok heads) : HeadsOf k call heads := by
  rw [Sample.samplerHeads] at returned
  cases trainable : call.trainable with
  | true =>
      rw [if_pos trainable] at returned
      cases topk : call.metaInfo.bind MetaInfo.scoreCenteringTopk with
      | none => simp [topk, extractSamplerTopk] at returned
      | some arrays =>
          rw [topk] at returned
          rcases checkedTopk_eq_ok returned with
            ⟨rfl, idsLength, idsWidth, logpsLength, logpsWidth⟩
          constructor
          · exact idsWidth
          · exact logpsWidth
          · simp [AppendCall.headIds, trainable, topk, ← idsLength]
          · simp [AppendCall.headLogProbs, trainable, topk, ← logpsLength]
          · exact idsLength
          · exact logpsLength
  | false =>
      rw [if_neg (by simp [trainable])] at returned
      rcases bind_eq_ok.mp returned with ⟨ids, idsEq, more⟩
      rcases bind_eq_ok.mp more with ⟨logps, logpsEq, same⟩
      have isHeads := Except.ok.inj same
      subst isHeads
      rw [Sample.dummyLogProbs] at logpsEq
      split at logpsEq
      · cases logpsEq
      · next positive =>
          rw [Sample.dummyTokenIds, if_neg (by omega)] at idsEq
          have isIds := Except.ok.inj idsEq
          have isLogps := Except.ok.inj logpsEq
          subst isIds
          subst isLogps
          have isK : ((k.toNat : Nat) : Int) = k := Int.toNat_of_nonneg (by omega)
          constructor
          · simpa [HeadArray.full] using isK
          · simpa [HeadArray.full] using isK
          · simp [HeadArray.full, AppendCall.headIds, trainable]
          · simp [HeadArray.full, AppendCall.headLogProbs, trainable]
          · simp [HeadArray.full]
          · simp [HeadArray.full]

theorem appendHeads_some {α : Type} {previous : Nat} {base added : HeadArray α}
    (empty : previous = 0 → base.rows = []) (sameWidth : base.width = added.width) :
    ∃ appended, Sample.appendHeads previous (some base) added = .ok appended ∧
      appended.width = added.width ∧ appended.rows = base.rows ++ added.rows := by
  rw [Sample.appendHeads]
  by_cases none : previous = 0
  · rw [if_pos none]
    exact ⟨added, rfl, rfl, by rw [empty none, List.nil_append]⟩
  · rw [if_neg none, HeadArray.concatenate, dif_pos sameWidth]
    exact ⟨_, rfl, rfl, rfl⟩

theorem flatMap_concat {α : Type} (calls : List (AppendCall F)) (call : AppendCall F)
    (data : AppendCall F → List α) :
    (calls ++ [call]).flatMap data = calls.flatMap data ++ data call := by
  rw [List.flatMap_append, List.flatMap_singleton]

theorem AppendCall.headIds_nil {call : AppendCall F} (k : Int) (empty : call.tokens = []) :
    call.headIds k = [] := by
  simp [AppendCall.headIds, empty]

theorem AppendCall.headLogProbs_nil [LogProbValue F] {call : AppendCall F} (k : Int)
    (empty : call.tokens = []) : call.headLogProbs k = [] := by
  simp [AppendCall.headLogProbs, empty]

theorem flatMap_nil_of_tokens {α : Type} {calls : List (AppendCall F)}
    {data : AppendCall F → List α} (nothing : calls.flatMap AppendCall.tokens = [])
    (idle : ∀ call ∈ calls, call.tokens = [] → data call = []) : calls.flatMap data = [] := by
  rw [List.flatMap_eq_nil_iff] at nothing ⊢
  exact fun call member => idle call member (nothing call member)

namespace TopKRecorded

variable [LogProbValue F] {args : Option Args} {calls : List (AppendCall F)}

theorem idle {call : AppendCall F} {ids : Option (HeadArray Int32)}
    {logps : Option (HeadArray F)} (recorded : TopKRecorded args calls ids logps)
    (empty : call.tokens = []) : TopKRecorded args (calls ++ [call]) ids logps := by
  cases recorded with
  | inactive inactive => exact .inactive inactive
  | pending active nothing =>
      exact .pending active (by rw [flatMap_concat, nothing, empty, List.append_nil])
  | started active positive ids logps idsWidth logpsWidth idsRows logpsRows idsLength
      logpsLength =>
      apply TopKRecorded.started active positive ids logps idsWidth logpsWidth
      · rw [flatMap_concat, idsRows, AppendCall.headIds_nil _ empty, List.append_nil]
      · rw [flatMap_concat, logpsRows, AppendCall.headLogProbs_nil _ empty, List.append_nil]
      · rw [flatMap_concat, idsLength, empty, List.append_nil]
      · rw [flatMap_concat, logpsLength, empty, List.append_nil]

/-- Starting the heads keeps what is recorded. -/
theorem start {sample : Sample F} (active : recordsTopK args = true)
    (positive : 0 < headCount args)
    (recorded : TopKRecorded args calls sample.rolloutTopkTokenIds sample.rolloutTopkLogProbs)
    (responseLength : sample.responseLength = (calls.flatMap AppendCall.tokens).length) :
    ∃ ids logps, sample.startTopK (headCount args) =
        .ok { sample with rolloutTopkTokenIds := some ids, rolloutTopkLogProbs := some logps } ∧
      TopKRecorded args calls (some ids) (some logps) := by
  generalize heldIds : sample.rolloutTopkTokenIds = ids at recorded
  generalize heldLogps : sample.rolloutTopkLogProbs = logps at recorded
  have isK : ((headCount args).toNat : Int) = headCount args :=
    Int.toNat_of_nonneg (Int.le_of_lt positive)
  cases recorded with
  | inactive inactive => simp [active] at inactive
  | pending _ nothing =>
      have isFirst : sample.responseLength = 0 := by
        rw [responseLength, nothing, List.length_nil]
      refine ⟨_, _, ?_, .started active positive
        (HeadArray.full 0 ((List.range (headCount args).toNat).map Int32.ofNat))
        (HeadArray.full 0
          (List.replicate (headCount args).toNat
            (LogProbValue.uniform (headCount args).toNat))) ?_ ?_ ?_ ?_ ?_ ?_⟩
      · rw [Sample.startTopK, heldIds]
        simp only [isFirst, ne_eq, not_true_eq_false, false_and, if_false,
          Sample.dummyTokenIds, Sample.dummyLogProbs]
        rw [if_neg (by omega), if_neg (by omega)]
        rfl
      · simpa [HeadArray.full] using isK
      · simpa [HeadArray.full] using isK
      · rw [flatMap_nil_of_tokens nothing fun call _ => AppendCall.headIds_nil _]
        rfl
      · rw [flatMap_nil_of_tokens nothing fun call _ => AppendCall.headLogProbs_nil _]
        rfl
      · rw [nothing]
        rfl
      · rw [nothing]
        rfl
  | started _ _ ids logps idsWidth logpsWidth idsRows logpsRows idsLength logpsLength =>
      refine ⟨ids, logps, ?_, .started active positive ids logps idsWidth logpsWidth idsRows
        logpsRows idsLength logpsLength⟩
      rw [Sample.startTopK, heldIds]
      cases sample
      cases heldIds
      cases heldLogps
      rfl

end TopKRecorded

/-- The heads of the calls so far, extended by those of one call with tokens. -/
theorem recordTopK_recorded [SamplerValue F] {args : Option Args} {calls : List (AppendCall F)}
    {call : AppendCall F} {sample : Sample F} (active : recordsTopK args = true)
    (recorded : TopKRecorded args calls sample.rolloutTopkTokenIds sample.rolloutTopkLogProbs)
    (responseLength : sample.responseLength = (calls.flatMap AppendCall.tokens).length)
    (positive : 0 < headCount args) {heads : HeadArray Int32 × HeadArray F}
    (sampled : Sample.samplerHeads (headCount args) call = .ok heads) :
    ∃ ids logps, sample.recordTopK (headCount args) call =
        .ok { sample with rolloutTopkTokenIds := some ids, rolloutTopkLogProbs := some logps } ∧
      TopKRecorded args (calls ++ [call]) (some ids) (some logps) := by
  have shaped := headsOf_samplerHeads sampled
  rcases recorded.start active positive responseLength with ⟨ids, logps, started, held⟩
  cases held with
  | started _ _ _ _ idsWidth logpsWidth idsRows logpsRows idsLength logpsLength =>
      have first {α : Type} {data : AppendCall F → List α}
          (idle : ∀ call ∈ calls, call.tokens = [] → data call = [])
          (isFirst : sample.responseLength = 0) : calls.flatMap data = [] := by
        rw [responseLength, List.length_eq_zero_iff] at isFirst
        exact flatMap_nil_of_tokens isFirst idle
      rcases appendHeads_some
        (fun isFirst => idsRows.trans (first (fun call _ => AppendCall.headIds_nil _) isFirst))
        (Int.ofNat_inj.mp (idsWidth.trans shaped.idsWidth.symm)) with
        ⟨allIds, idsEq, allIdsWidth, allIdsRows⟩
      rcases appendHeads_some
        (fun isFirst =>
          logpsRows.trans (first (fun call _ => AppendCall.headLogProbs_nil _) isFirst))
        (Int.ofNat_inj.mp (logpsWidth.trans shaped.logpsWidth.symm)) with
        ⟨allLogps, logpsEq, allLogpsWidth, allLogpsRows⟩
      refine ⟨allIds, allLogps, ?_,
        .started active positive allIds allLogps ?_ ?_ ?_ ?_ ?_ ?_⟩
      · rw [Sample.recordTopK, sampled, attempt_ok, ok_bind, started, ok_bind,
          Sample.extendTopK, idsEq, attempt_ok, ok_bind, logpsEq]
        rfl
      · rw [allIdsWidth, shaped.idsWidth]
      · rw [allLogpsWidth, shaped.logpsWidth]
      · rw [flatMap_concat, allIdsRows, idsRows, shaped.idsRows]
      · rw [flatMap_concat, allLogpsRows, logpsRows, shaped.logpsRows]
      · rw [allIdsRows, List.length_append, idsLength, shaped.idsLength, flatMap_concat,
          List.length_append]
      · rw [allLogpsRows, List.length_append, logpsLength, shaped.logpsLength, flatMap_concat,
          List.length_append]

/-- The first block of the method on recorded heads. -/
theorem centerTopK_recorded [SamplerValue F] {args : Option Args} {calls : List (AppendCall F)}
    {call : AppendCall F} {sample : Sample F}
    (recorded : TopKRecorded args calls sample.rolloutTopkTokenIds sample.rolloutTopkLogProbs)
    (responseLength : sample.responseLength = (calls.flatMap AppendCall.tokens).length)
    (accepts : call.tokens ≠ [] → SamplerAccepts args call) :
    ∃ ids logps, sample.centerTopK args call =
        .ok { sample with rolloutTopkTokenIds := ids, rolloutTopkLogProbs := logps } ∧
      TopKRecorded args (calls ++ [call]) ids logps := by
  by_cases empty : call.tokens = []
  · refine ⟨_, _, ?_, recorded.idle empty⟩
    cases args with
    | none => rfl
    | some given => rw [Sample.centerTopK, if_neg (by simp [empty])]
  · cases active : recordsTopK args with
    | false =>
        refine ⟨sample.rolloutTopkTokenIds, sample.rolloutTopkLogProbs, ?_, ?_⟩
        · cases args with
          | none => rfl
          | some given => rw [Sample.centerTopK, if_neg (by simp [active])]
        · generalize sample.rolloutTopkTokenIds = ids at recorded ⊢
          generalize sample.rolloutTopkLogProbs = logps at recorded ⊢
          cases recorded with
          | inactive inactive => exact .inactive inactive
          | pending other _ => simp [active] at other
          | started other _ _ _ _ _ _ _ _ _ => simp [active] at other
    | true =>
        rcases (accepts empty).topK active with ⟨positive, heads, sampled⟩
        rcases recordTopK_recorded active recorded responseLength positive sampled with
          ⟨ids, logps, recordEq, held⟩
        refine ⟨some ids, some logps, ?_, held⟩
        cases args with
        | none => simp [recordsTopK] at active
        | some given =>
            rw [Sample.centerTopK, if_pos ⟨empty, active⟩]
            exact recordEq

/-! ## Top-p spans -/

theorem spans_nil {args : Option Args} {call : AppendCall F} (response : ResponseCall args call)
    (empty : call.tokens = []) : call.spans args = [] := by
  rw [← List.length_eq_zero_iff, response.length_spans, empty, List.length_nil]

theorem spans_masked {args : Option Args} {call : AppendCall F} (masked : call.trainable = false) :
    call.spans args = List.replicate call.tokens.length [] := by
  rw [AppendCall.spans, if_neg (by simp [masked])]

theorem TrainableCall.spans_eq {args : Option Args} {call : AppendCall F}
    (trained : TrainableCall args call) {tokenIds offsets : List Int32}
    (isReplay : call.replay args = some (tokenIds, offsets)) :
    call.spans args = replaySpans tokenIds offsets := by
  rw [AppendCall.spans, if_pos trained.trainable, isReplay]
  rfl

namespace TopPRecorded

variable {args : Option Args} {calls : List (AppendCall F)} {call : AppendCall F}

theorem idle {ids offsets : Option (List Int32)} {logps : Option (List F)}
    (recorded : TopPRecorded args calls ids offsets logps) (response : ResponseCall args call)
    (empty : call.tokens = []) : TopPRecorded args (calls ++ [call]) ids offsets logps := by
  have same : (calls ++ [call]).flatMap (AppendCall.spans args) =
      calls.flatMap (AppendCall.spans args) := by
    rw [flatMap_concat, spans_nil response empty, List.append_nil]
  cases recorded with
  | pending nothing => exact .pending (same.trans nothing)
  | started logps present aligned begun =>
      rw [← same] at aligned ⊢
      refine .started logps present aligned ?_
      rw [flatMap_concat, empty, List.append_nil]
      exact begun

theorem extend {tokenIds offsets : List Int32} {logps : Option (List F)}
    (isIds : tokenIds = (calls.flatMap (AppendCall.spans args) ++ call.spans args).flatten)
    (isOffsets : offsets =
      replayOffsets (calls.flatMap (AppendCall.spans args) ++ call.spans args))
    (present : logps.isSome = recordsTopP args)
    (aligned : ∀ held ∈ logps, held.length = tokenIds.length) (tokens : call.tokens ≠ []) :
    TopPRecorded args (calls ++ [call]) (some tokenIds) (some offsets) logps := by
  rw [← flatMap_concat] at isIds isOffsets
  subst isIds
  subst isOffsets
  refine .started logps present aligned (.inr ?_)
  rw [flatMap_concat]
  exact fun none => tokens (List.append_eq_nil_iff.mp none).2

/-- The plain replay of a call is merged, or set if there is none so far. -/
theorem addTopP_replay (call : AppendCall F) {sample : Sample F} (inactive : recordsTopP args = false)
    (recorded : TopPRecorded args calls sample.rolloutTopPTokenIds
      sample.rolloutTopPTokenOffsets sample.rolloutTopPLogProbs)
    (tokens : call.tokens ≠ []) (count : Nat) (pad : Bool) :
    ∃ ids offsets, sample.addTopP
        (some ((call.spans args).flatten, replayOffsets (call.spans args))) count pad =
          .ok (ids, offsets) ∧
      TopPRecorded args (calls ++ [call]) ids offsets sample.rolloutTopPLogProbs := by
  generalize heldLogps : sample.rolloutTopPLogProbs = logps at recorded
  generalize heldIds : sample.rolloutTopPTokenIds = ids at recorded
  generalize heldOffsets : sample.rolloutTopPTokenOffsets = offsets at recorded
  rw [Sample.addTopP, heldIds, heldOffsets]
  cases recorded with
  | pending nothing =>
      refine ⟨_, _, rfl, .extend ?_ ?_ (by rw [inactive]; rfl) nofun tokens⟩
      · rw [nothing, List.nil_append]
      · rw [nothing, List.nil_append]
  | started logps present aligned _ =>
      have absent : logps = none := by
        rw [inactive, Option.isSome_eq_false_iff, Option.isNone_iff_eq_none] at present
        exact present
      subst absent
      refine ⟨_, _, ?_, .extend rfl rfl (by rw [inactive]; rfl) nofun tokens⟩
      simp only [Option.isNone_some, Bool.false_eq_true, false_and, if_false, merge_replay]
      rfl

theorem addTopP_masked {sample : Sample F}
    (recorded : TopPRecorded args calls sample.rolloutTopPTokenIds
      sample.rolloutTopPTokenOffsets sample.rolloutTopPLogProbs)
    (started : sample.rolloutTopPTokenOffsets.isSome = true)
    (masked : call.trainable = false) (tokens : call.tokens ≠ []) :
    ∃ ids offsets, sample.addTopP none call.tokens.length true = .ok (ids, offsets) ∧
      TopPRecorded args (calls ++ [call]) ids offsets sample.rolloutTopPLogProbs := by
  have counted : call.tokens.length ≠ 0 := fun none => tokens (List.length_eq_zero_iff.mp none)
  generalize heldLogps : sample.rolloutTopPLogProbs = logps at recorded
  generalize heldIds : sample.rolloutTopPTokenIds = ids at recorded
  generalize heldOffsets : sample.rolloutTopPTokenOffsets = offsets at recorded started
  cases recorded with
  | pending _ => simp at started
  | started _ present aligned _ =>
      refine ⟨_, _, ?_, .extend rfl rfl present ?_ tokens⟩
      · rw [Sample.addTopP, if_pos ⟨rfl, counted, by rw [heldOffsets]; rfl⟩, heldIds, heldOffsets,
          pad_replay, spans_masked masked]
        rfl
      · intro held member
        rw [aligned held member, spans_masked masked]
        simp

theorem offsets_isSome {ids offsets : Option (List Int32)} {logps : Option (List F)}
    (recorded : TopPRecorded args calls ids offsets logps)
    (sized : (calls.flatMap (AppendCall.spans args)).length =
      (calls.flatMap AppendCall.tokens).length)
    (before : calls.flatMap AppendCall.tokens ≠ []) : offsets.isSome = true := by
  cases recorded with
  | pending nothing =>
      rw [nothing] at sized
      exact absurd (List.length_eq_zero_iff.mp sized.symm) before
  | started _ _ _ _ => rfl

theorem start {sample : Sample F} (active : recordsTopP args = true)
    (recorded : TopPRecorded args calls sample.rolloutTopPTokenIds
      sample.rolloutTopPTokenOffsets sample.rolloutTopPLogProbs)
    (sized : (calls.flatMap (AppendCall.spans args)).length = sample.responseLength) :
    ∃ logps, sample.startTopP =
        .ok { sample with
          rolloutTopPTokenIds := some (calls.flatMap (AppendCall.spans args)).flatten
          rolloutTopPTokenOffsets :=
            some (replayOffsets (calls.flatMap (AppendCall.spans args)))
          rolloutTopPLogProbs := some logps } ∧
      logps.length = (calls.flatMap (AppendCall.spans args)).flatten.length := by
  generalize heldLogps : sample.rolloutTopPLogProbs = logps at recorded
  generalize heldIds : sample.rolloutTopPTokenIds = ids at recorded
  generalize heldOffsets : sample.rolloutTopPTokenOffsets = offsets at recorded
  cases recorded with
  | pending nothing =>
      rw [nothing] at sized ⊢
      have isFirst : sample.responseLength = 0 := sized.symm
      refine ⟨[], ?_, rfl⟩
      rw [Sample.startTopP, heldIds]
      simp only [isFirst, ne_eq, not_true_eq_false, false_and, if_false]
      rfl
  | started logps present aligned _ =>
      rw [active] at present
      rcases Option.isSome_iff_exists.mp present with ⟨held, isHeld⟩
      subst isHeld
      refine ⟨held, ?_, aligned held rfl⟩
      rw [Sample.startTopP, heldIds]
      cases sample
      cases heldIds
      cases heldOffsets
      cases heldLogps
      rfl

end TopPRecorded

/-- Arrays of one length, with offsets of `count` rows. -/
structure AlignedTopP (ids offsets : List Int32) (logps : List F) (count : Nat) : Prop where
  logps_length : logps.length = ids.length
  offsets_length : offsets.length = count + 1
  last : offsets.getLast?.map Int32.toInt = some (ids.length : Int)

theorem aligned_of_validate [SamplerValue F] {topP : SamplerTopP F} {count : Nat}
    {sampled : Option (SampledTokens F)} (passes : topP.validate count sampled = .ok ()) :
    ∃ ids offsets logps, topP = ⟨some ids, some offsets, some logps⟩ ∧
      AlignedTopP ids offsets logps count := by
  rcases topP with ⟨ids, offsets, logps⟩
  rw [SamplerTopP.validate, SamplerSupports.validateSamplerTopP.eq_def] at passes
  cases ids with
  | none => cases passes
  | some ids =>
      cases offsets with
      | none => cases passes
      | some offsets =>
          cases logps with
          | none => cases passes
          | some logps =>
              rcases bind_eq_ok.mp passes with ⟨entries, returned, _⟩
              have fit := SamplerSupports.integerArrays_eq_ok.mp returned
              have isIds : ids.map Int32.toInt = entries.1 := Option.some.inj fit.ids
              have isOffsets : offsets.map Int32.toInt = entries.2 := Option.some.inj fit.offsets
              have last := fit.last
              rw [← isIds, ← isOffsets, List.getLast?_map, List.length_map] at last
              refine ⟨ids, offsets, logps, rfl, ?_, ?_, last⟩
              · exact List.singleton_inj.mp fit.sameShape
              · exact List.singleton_inj.mp fit.offsetsShape

theorem samplerTopP_shape [SamplerValue F] {call : AppendCall F} {logProbs : Option (List F)}
    {topP : SamplerTopP F} (sampled : Sample.samplerTopP call logProbs = .ok topP) :
    ∃ ids offsets logps, topP = ⟨some ids, some offsets, some logps⟩ ∧
      call.metaInfo.bind MetaInfo.scoreCenteringTopP = some topP ∧
      AlignedTopP ids offsets logps call.tokens.length := by
  rw [Sample.samplerTopP] at sampled
  rcases bind_eq_ok.mp sampled with ⟨found, extracted, validated⟩
  rcases bind_eq_ok.mp validated with ⟨_, passes, same⟩
  have isFound : found = topP := Except.ok.inj same
  subst isFound
  rcases aligned_of_validate passes with ⟨ids, offsets, logps, isTopP, aligned⟩
  refine ⟨ids, offsets, logps, isTopP, ?_, aligned⟩
  cases info : call.metaInfo.bind MetaInfo.scoreCenteringTopP with
  | none => simp [info, extractSamplerTopP] at extracted
  | some given =>
      rw [info] at extracted
      rcases map_eq_ok.mp extracted with ⟨_, _, isGiven⟩
      rw [isGiven]

theorem samplerTopP_eq_ok [SamplerValue F] {args : Option Args} {call : AppendCall F}
    {logProbs : Option (List F)} {topP : SamplerTopP F} (active : recordsTopP args = true)
    (sampled : Sample.samplerTopP call logProbs = .ok topP) :
    ∃ ids offsets logps, topP = ⟨some ids, some offsets, some logps⟩ ∧
      call.replay args = some (ids, offsets) ∧ logps.length = ids.length := by
  rcases samplerTopP_shape sampled with ⟨ids, offsets, logps, isTopP, isInfo, formed⟩
  refine ⟨ids, offsets, logps, isTopP, ?_, formed.logps_length⟩
  rw [AppendCall.replay, if_pos active, isInfo, isTopP]
  rfl

theorem TrainableCall.replay_spans {args : Option Args} {call : AppendCall F}
    (trained : TrainableCall args call) {tokenIds offsets : List Int32}
    (isReplay : call.replay args = some (tokenIds, offsets)) :
    tokenIds = (call.spans args).flatten ∧ offsets = replayOffsets (call.spans args) ∧
      DelimitsSpans tokenIds offsets call.tokens.length := by
  rcases trained.replay with ⟨ids, held, isHeld, delimits⟩
  rw [isReplay, Option.some.injEq, Prod.mk.injEq] at isHeld
  rw [← isHeld.1, ← isHeld.2] at delimits
  rw [trained.spans_eq isReplay, delimits.flatten_spans, delimits.offsets_spans]
  exact ⟨rfl, rfl, delimits⟩

inductive TopPCentered (args : Option Args) (calls : List (AppendCall F)) (call : AppendCall F)
    (ids offsets : Option (List Int32)) (logps : Option (List F)) : Prop
  | idle (inactive : call.tokens = [] ∨ recordsTopP args = false)
      (recorded : TopPRecorded args calls ids offsets logps)
  | appended (active : recordsTopP args = true) (tokens : call.tokens ≠ [])
      (trainable : call.trainable = true)
      (recorded : TopPRecorded args (calls ++ [call]) ids offsets logps)
  | started (active : recordsTopP args = true) (tokens : call.tokens ≠ [])
      (masked : call.trainable = false) (present : offsets.isSome = true)
      (recorded : TopPRecorded args calls ids offsets logps)

/-- The second block of the method on recorded spans. -/
theorem centerTopP_recorded [SamplerValue F] {args : Option Args} {calls : List (AppendCall F)}
    {call : AppendCall F} (sample : Sample F) (response : ResponseCall args call)
    (recorded : TopPRecorded args calls sample.rolloutTopPTokenIds
      sample.rolloutTopPTokenOffsets sample.rolloutTopPLogProbs)
    (sized : (calls.flatMap (AppendCall.spans args)).length = sample.responseLength)
    (accepts : call.tokens ≠ [] → SamplerAccepts args call) :
    ∃ ids offsets logps, sample.centerTopP args call call.passedLogProbs =
        .ok { sample with
          rolloutTopPTokenIds := ids
          rolloutTopPTokenOffsets := offsets
          rolloutTopPLogProbs := logps } ∧
      TopPCentered args calls call ids offsets logps := by
  by_cases centered : call.tokens ≠ [] ∧ recordsTopP args = true
  · rcases centered with ⟨tokens, active⟩
    rcases recorded.start active sized with ⟨logps, started, aligned⟩
    rw [Sample.centerTopP, if_pos ⟨tokens, active⟩, Sample.recordTopP, started, ok_bind]
    have present : (some logps).isSome = recordsTopP args := active.symm
    have startedRecord : TopPRecorded args calls
        (some (calls.flatMap (AppendCall.spans args)).flatten)
        (some (replayOffsets (calls.flatMap (AppendCall.spans args)))) (some logps) :=
      .started _ present (fun held member => by
        rw [← Option.some.inj member]
        exact aligned) (.inl active)
    rcases response with trained | masked
    · have passed : call.passedLogProbs = call.logProbs := by
        simp [AppendCall.passedLogProbs, trained.trainable]
      rcases (accepts tokens).topP active trained.trainable with ⟨topP, sampled⟩
      rcases samplerTopP_eq_ok active sampled with ⟨ids, offsets, added, rfl, isReplay, addedEq⟩
      rcases trained.replay_spans isReplay with ⟨idsEq, offsetsEq, _⟩
      have extended : ∀ held ∈ some (logps ++ added), held.length =
          (calls.flatMap (AppendCall.spans args) ++ call.spans args).flatten.length := by
        intro held member
        rw [← Option.some.inj member, List.length_append, aligned, addedEq, idsEq,
          List.flatten_append, List.length_append]
      have presentAll : (some (logps ++ added)).isSome = recordsTopP args := active.symm
      refine ⟨_, _, _, ?_, .appended active tokens trained.trainable
        (.extend rfl rfl presentAll extended tokens)⟩
      · rw [if_pos trained.trainable, passed, sampled, attempt_ok, ok_bind, Sample.extendTopP]
        dsimp only [Option.getD_some]
        rw [idsEq, offsetsEq, merge_replay]
        rfl
    · refine ⟨_, _, _, ?_, .started active tokens masked.masked rfl startedRecord⟩
      rw [if_neg (by simp [masked.masked])]
  · refine ⟨_, _, _, ?_, .idle ?_ recorded⟩
    · rw [Sample.centerTopP, if_neg centered]
    · rw [not_and] at centered
      by_cases empty : call.tokens = []
      · exact .inl empty
      · exact .inr (by simpa using centered empty)

/-! ## Metadata of the call -/

theorem Recorded.terminal [LogProbValue F] {args : Option Args} {prompt : List Int}
    {calls : List (AppendCall F)} {sample : Sample F}
    (recorded : Recorded args prompt calls sample) (info : MetaInfo F) (newTokenCount : Nat)
    (updateTerminalInfo : Bool) :
    Recorded args prompt calls
      (sample.applyTerminalInfo args info newTokenCount updateTerminalInfo) := by
  rw [Sample.applyTerminalInfo]
  cases info.finishReason with
  | none => exact recorded
  | some finishReason =>
      cases updateTerminalInfo with
      | false => exact recorded
      | true => exact ⟨recorded.proper, recorded.tokens, recorded.responseLength,
          recorded.lossMask, recorded.logProbs, recorded.topK, recorded.topP⟩

theorem applyRoutedExperts_none (args : Option Args) {info : MetaInfo F}
    (noExperts : info.routedExperts = .ok none) (tokenCount : Nat)
    (existing : Option (List (List Int32))) :
    Sample.applyRoutedExperts args info tokenCount existing = .ok existing := by
  rw [Sample.applyRoutedExperts, noExperts]
  rfl

theorem applyMetaInfo_eq {args : Option Args} {info : MetaInfo F} {sample : Sample F}
    (noExperts : info.routedExperts = .ok none) {newTokenCount : Nat} {pad : Bool}
    (updateTerminalInfo : Bool) {ids offsets : Option (List Int32)}
    (applied : sample.applyTopP info newTokenCount pad = .ok (ids, offsets)) :
    sample.applyMetaInfo args info newTokenCount pad updateTerminalInfo =
      .ok ({ sample with rolloutTopPTokenIds := ids, rolloutTopPTokenOffsets := offsets }
        |>.applyTerminalInfo args info newTokenCount updateTerminalInfo) := by
  rw [Sample.applyMetaInfo, applied, attempt_ok, ok_bind]
  dsimp only
  rw [applyRoutedExperts_none args noExperts]
  rfl

theorem extract_none {info : MetaInfo F} (noIds : info.topPTokenIds = .ok none)
    (noOffsets : info.topPTokenOffsets = .ok none) (count : Nat) :
    extractRolloutTopPTokenData info count = .ok none := by
  rw [extractRolloutTopPTokenData, noIds, noOffsets]
  rfl

theorem extract_replay {args : Option Args} {call : AppendCall F} {info : MetaInfo F}
    {tokenIds offsets : List Int32} (inactive : recordsTopP args = false)
    (isInfo : call.metaInfo = some info) (isReplay : call.replay args = some (tokenIds, offsets))
    (delimits : DelimitsSpans tokenIds offsets call.tokens.length) :
    extractRolloutTopPTokenData info call.tokens.length = .ok (some (tokenIds, offsets)) := by
  rw [AppendCall.replay, if_neg (by simp [inactive]), isInfo] at isReplay
  rcases Option.map_eq_some_iff.mp delimits.last with ⟨last, isLast, atEnd⟩
  have lastEq : lastItem offsets = .ok last := lastItem_eq_ok.mpr isLast
  rw [extractRolloutTopPTokenData]
  cases idsEq : info.topPTokenIds with
  | error message => simp [idsEq] at isReplay
  | ok ids =>
      cases offsetsEq : info.topPTokenOffsets with
      | error message => simp [idsEq, offsetsEq] at isReplay
      | ok held =>
          cases ids with
          | none => simp [idsEq, offsetsEq] at isReplay
          | some ids =>
              cases held with
              | none => simp [idsEq, offsetsEq] at isReplay
              | some held =>
                  simp only [idsEq, offsetsEq, Option.some.injEq, Prod.mk.injEq] at isReplay
                  rw [isReplay.1, isReplay.2]
                  have checked : checkedTopPTokenData tokenIds offsets call.tokens.length =
                      .ok (tokenIds, offsets) := by
                    rw [checkedTopPTokenData, raiseIf_bind_eq_ok, lastEq, ok_bind,
                      raiseIf_bind_eq_ok, raiseIf_bind_eq_ok]
                    simp [delimits.first, atEnd, delimits.offsets_length]
                  change (checkedTopPTokenData tokenIds offsets call.tokens.length).map some = _
                  rw [checked]
                  rfl

/-- The replay of the samples with the spans of the call, whatever they were before. -/
theorem applyTopP_recorded {args : Option Args} {calls : List (AppendCall F)}
    {call : AppendCall F} {sample : Sample F}
    (trained : TrainableCall args call) {info : MetaInfo F} (isInfo : call.metaInfo = some info)
    (inactive : recordsTopP args = false) (tokens : call.tokens ≠ [])
    (recorded : TopPRecorded args calls sample.rolloutTopPTokenIds
      sample.rolloutTopPTokenOffsets sample.rolloutTopPLogProbs) (pad : Bool) :
    ∃ ids offsets, sample.applyTopP info call.tokens.length pad = .ok (ids, offsets) ∧
      TopPRecorded args (calls ++ [call]) ids offsets sample.rolloutTopPLogProbs := by
  have counted : call.tokens.length ≠ 0 := fun none => tokens (List.length_eq_zero_iff.mp none)
  rcases trained.replay with ⟨tokenIds, offsets, isReplay, delimits⟩
  rcases trained.replay_spans isReplay with ⟨idsEq, offsetsEq, _⟩
  rcases recorded.addTopP_replay call inactive tokens call.tokens.length pad with
    ⟨allIds, allOffsets, added, extended⟩
  refine ⟨allIds, allOffsets, ?_, extended⟩
  rw [Sample.applyTopP, if_neg counted, extract_replay inactive isInfo isReplay delimits, ok_bind,
    ← added, idsEq, offsetsEq]

theorem addTopP_none (sample : Sample F) (count : Nat) :
    sample.addTopP none count false =
      .ok (sample.rolloutTopPTokenIds, sample.rolloutTopPTokenOffsets) := rfl

/-- The metadata of generated tokens completes what is recorded of them. -/
theorem applyTrained_recorded {args : Option Args} {calls : List (AppendCall F)}
    {call : AppendCall F} {sample : Sample F} (trained : TrainableCall args call)
    (centered : TopPCentered args calls call sample.rolloutTopPTokenIds
      sample.rolloutTopPTokenOffsets sample.rolloutTopPLogProbs) :
    ∃ info ids offsets, sample.applyCallMetaInfo args call =
        .ok ({ sample with rolloutTopPTokenIds := ids, rolloutTopPTokenOffsets := offsets }
          |>.applyTerminalInfo args info call.tokens.length call.updateTerminalInfo) ∧
      TopPRecorded args (calls ++ [call]) ids offsets sample.rolloutTopPLogProbs := by
  rcases trained.replayOnly with ⟨info, isInfo, noExperts⟩
  have noPad : (decide (call.tokens ≠ []) && !call.trainable) = false := by
    rw [trained.trainable, Bool.not_true, Bool.and_false]
  have applied {remaining : MetaInfo F} (isRemaining :
      Sample.remainingMetaInfo args call = some remaining)
      (without : remaining.routedExperts = .ok none) {ids offsets : Option (List Int32)}
      (topP : sample.applyTopP remaining call.tokens.length false = .ok (ids, offsets)) :
      sample.applyCallMetaInfo args call =
        .ok ({ sample with rolloutTopPTokenIds := ids, rolloutTopPTokenOffsets := offsets }
          |>.applyTerminalInfo args remaining call.tokens.length call.updateTerminalInfo) := by
    rw [Sample.applyCallMetaInfo, noPad, isRemaining, if_pos (.inl rfl)]
    exact applyMetaInfo_eq without _ topP
  cases centered with
  | idle inactive recorded =>
      have isRemaining : Sample.remainingMetaInfo args call = some info := by
        rw [Sample.remainingMetaInfo, if_neg, isInfo]
        rintro ⟨tokens, active, _⟩
        rcases inactive with empty | inactive
        · exact tokens empty
        · simp [active] at inactive
      by_cases empty : call.tokens = []
      · refine ⟨info, _, _, applied isRemaining noExperts ?_,
          recorded.idle (.inl trained) empty⟩
        rw [Sample.applyTopP, if_pos (by rw [empty]; rfl)]
        exact addTopP_none sample call.tokens.length
      · rcases applyTopP_recorded trained isInfo (inactive.resolve_left empty) empty recorded
          false with ⟨ids, offsets, topP, extended⟩
        exact ⟨info, ids, offsets, applied isRemaining noExperts topP, extended⟩
  | appended active tokens trainable recorded =>
      have isRemaining :
          Sample.remainingMetaInfo args call = some (MetaInfo.withoutTopP info) := by
        rw [Sample.remainingMetaInfo, if_pos ⟨tokens, active, trainable⟩, isInfo]
        rfl
      refine ⟨_, _, _, applied isRemaining noExperts ?_, recorded⟩
      rw [Sample.applyTopP, if_neg fun none => tokens (List.length_eq_zero_iff.mp none),
        extract_none rfl rfl, ok_bind]
      exact addTopP_none sample _
  | started _ _ masked _ _ => simp [trained.trainable] at masked

/-- Whether a call finds a replay for its tokens: it brings one, there is one for the tokens
before it, or score centering starts one. -/
def ReplayReady (args : Option Args) (calls : List (AppendCall F)) (call : AppendCall F) : Prop :=
  call.tokens = [] ∨ call.trainable = true ∨ recordsTopP args = true ∨
    calls.flatMap AppendCall.tokens ≠ []

/-- Masked tokens complete what is recorded by empty spans if a replay is active. -/
theorem applyMasked_recorded {args : Option Args} {calls : List (AppendCall F)}
    {call : AppendCall F} {sample : Sample F} (masked : MaskedCall call)
    (centered : TopPCentered args calls call sample.rolloutTopPTokenIds
      sample.rolloutTopPTokenOffsets sample.rolloutTopPLogProbs)
    (sized : (calls.flatMap (AppendCall.spans args)).length =
      (calls.flatMap AppendCall.tokens).length)
    (ready : ReplayReady args calls call) :
    ∃ ids offsets, sample.applyCallMetaInfo args call =
        .ok { sample with rolloutTopPTokenIds := ids, rolloutTopPTokenOffsets := offsets } ∧
      TopPRecorded args (calls ++ [call]) ids offsets sample.rolloutTopPLogProbs := by
  have noInfo : Sample.remainingMetaInfo args call = none := by
    rw [Sample.remainingMetaInfo, if_neg (by simp [masked.masked]), masked.metaInfo]
  by_cases empty : call.tokens = []
  · refine ⟨sample.rolloutTopPTokenIds, sample.rolloutTopPTokenOffsets, ?_, ?_⟩
    · rw [Sample.applyCallMetaInfo, noInfo, if_neg (by simp [empty])]
    · cases centered with
      | idle _ recorded => exact recorded.idle (.inr masked) empty
      | appended _ tokens _ _ => exact absurd empty tokens
      | started _ tokens _ _ _ => exact absurd empty tokens
  · have padded (started : sample.rolloutTopPTokenOffsets.isSome = true)
        (recorded : TopPRecorded args calls sample.rolloutTopPTokenIds
          sample.rolloutTopPTokenOffsets sample.rolloutTopPLogProbs) :
        ∃ ids offsets, sample.applyCallMetaInfo args call =
            .ok { sample with rolloutTopPTokenIds := ids, rolloutTopPTokenOffsets := offsets } ∧
          TopPRecorded args (calls ++ [call]) ids offsets sample.rolloutTopPLogProbs := by
      rcases recorded.addTopP_masked started masked.masked empty with
        ⟨allIds, allOffsets, added, extended⟩
      refine ⟨_, _, ?_, extended⟩
      have topP : sample.applyTopP ({} : MetaInfo F) call.tokens.length true =
          .ok (allIds, allOffsets) := by
        rw [Sample.applyTopP, if_neg fun none => empty (List.length_eq_zero_iff.mp none),
          extract_none rfl rfl, ok_bind]
        exact added
      have pads : (decide (call.tokens ≠ []) && !call.trainable) = true := by
        simp [empty, masked.masked]
      rw [Sample.applyCallMetaInfo, noInfo, pads, if_pos (.inr rfl)]
      exact applyMetaInfo_eq rfl call.updateTerminalInfo topP
    cases centered with
    | idle inactive recorded =>
        rcases ready with none | trainable | active | before
        · exact absurd none empty
        · simp [masked.masked] at trainable
        · simp [active, empty] at inactive
        · exact padded (recorded.offsets_isSome sized before) recorded
    | appended _ _ trainable _ => simp [masked.masked] at trainable
    | started _ _ _ started recorded => exact padded started recorded

/-! ## The whole call -/

theorem addLogProbs_recorded [LogProbValue F] {args : Option Args} {call : AppendCall F}
    (sample : Sample F) (response : ResponseCall args call) {previous : Nat}
    (held : (sample.rolloutLogProbs.getD []).length = previous) :
    ∃ logProbs, sample.addLogProbs call.trainable previous call.passedLogProbs =
        .ok { sample with rolloutLogProbs := logProbs } ∧
      logProbs.getD [] = sample.rolloutLogProbs.getD [] ++ call.tokenLogProbs := by
  have entries := response.passedLogProbs_getD
  rw [← entries]
  cases passed : call.passedLogProbs with
  | none =>
      refine ⟨sample.rolloutLogProbs, rfl, ?_⟩
      rw [Option.getD_none, List.append_nil]
  | some added =>
      cases existing : sample.rolloutLogProbs with
      | some before =>
          refine ⟨some (before ++ added), ?_, rfl⟩
          rw [Sample.addLogProbs.eq_def, existing]
      | none =>
          rw [existing] at held
          have isFirst : previous = 0 := held.symm
          refine ⟨some added, ?_, rfl⟩
          rw [Sample.addLogProbs.eq_def, existing, isFirst]
          simp

theorem addTokens_lossMask {sample : Sample F} (call : AppendCall F)
    (held : (sample.lossMask.getD []).length = sample.responseLength) :
    (sample.addTokens call).lossMask.getD [] =
      sample.lossMask.getD [] ++ call.maskEntries := by
  rw [Sample.addTokens, AppendCall.maskEntries]
  by_cases empty : call.tokens = []
  · simp [empty]
  · rw [if_neg empty]
    cases existing : sample.lossMask with
    | some before => rfl
    | none =>
        rw [existing] at held
        have isFirst : sample.responseLength = 0 := held.symm
        rw [isFirst]
        rfl

theorem addTokens_tokens (call : AppendCall F) (sample : Sample F) :
    (sample.addTokens call).tokens = sample.tokens ++ call.tokens := by
  rw [Sample.addTokens]
  by_cases empty : call.tokens = []
  · rw [if_pos empty, empty, List.append_nil]
  · rw [if_neg empty]

theorem addTokens_responseLength (call : AppendCall F) (sample : Sample F) :
    (sample.addTokens call).responseLength = sample.responseLength + call.tokens.length := by
  rw [Sample.addTokens]
  by_cases empty : call.tokens = []
  · rw [if_pos empty, empty, List.length_nil, Nat.add_zero]
  · rw [if_neg empty]

theorem addTokens_others (call : AppendCall F) (sample : Sample F) :
    (sample.addTokens call).rolloutLogProbs = sample.rolloutLogProbs ∧
      (sample.addTokens call).rolloutTopkTokenIds = sample.rolloutTopkTokenIds ∧
      (sample.addTokens call).rolloutTopkLogProbs = sample.rolloutTopkLogProbs ∧
      (sample.addTokens call).rolloutTopPTokenIds = sample.rolloutTopPTokenIds ∧
      (sample.addTokens call).rolloutTopPTokenOffsets = sample.rolloutTopPTokenOffsets ∧
      (sample.addTokens call).rolloutTopPLogProbs = sample.rolloutTopPLogProbs := by
  rw [Sample.addTokens]
  split <;> exact ⟨rfl, rfl, rfl, rfl, rfl, rfl⟩

/-- A sample after the score-centering blocks of a call: the data of the calls so far and
the sampler data of the call. -/
structure Centered [LogProbValue F] (args : Option Args) (prompt : List Int)
    (calls : List (AppendCall F)) (call : AppendCall F) (sample : Sample F) : Prop where
  proper : ∀ call ∈ calls, ResponseCall args call
  tokens : sample.tokens = prompt ++ calls.flatMap AppendCall.tokens
  responseLength : sample.responseLength = (calls.flatMap AppendCall.tokens).length
  lossMask : sample.lossMask.getD [] = calls.flatMap AppendCall.maskEntries
  logProbs : sample.rolloutLogProbs.getD [] = calls.flatMap AppendCall.tokenLogProbs
  topK : TopKRecorded args (calls ++ [call]) sample.rolloutTopkTokenIds
    sample.rolloutTopkLogProbs
  topP : TopPCentered args calls call sample.rolloutTopPTokenIds sample.rolloutTopPTokenOffsets
    sample.rolloutTopPLogProbs

theorem Recorded.center [SamplerValue F] {args : Option Args} {prompt : List Int}
    {calls : List (AppendCall F)} {call : AppendCall F} {sample : Sample F}
    (recorded : Recorded args prompt calls sample) (response : ResponseCall args call)
    (accepts : call.tokens ≠ [] → SamplerAccepts args call) :
    ∃ centered, (do let withTopK ← sample.centerTopK args call
                    withTopK.centerTopP args call call.passedLogProbs) = .ok centered ∧
      Centered args prompt calls call centered ∧
      centered.responseLength = sample.responseLength := by
  rcases centerTopK_recorded recorded.topK recorded.responseLength accepts with
    ⟨topkIds, topkLogps, topKEq, topK⟩
  rcases centerTopP_recorded
    { sample with rolloutTopkTokenIds := topkIds, rolloutTopkLogProbs := topkLogps }
    response recorded.topP recorded.length_spans accepts with ⟨ids, offsets, logps, topPEq, topP⟩
  exact ⟨_, bind_eq_ok.mpr ⟨_, topKEq, topPEq⟩,
    ⟨recorded.proper, recorded.tokens, recorded.responseLength, recorded.lossMask,
      recorded.logProbs, topK, topP⟩, rfl⟩

/-- The rest of the method records the tokens; what is left is the final check of the
lengths. -/
theorem Centered.finish [LogProbValue F] {args : Option Args} {prompt : List Int}
    {calls : List (AppendCall F)} {call : AppendCall F} {sample : Sample F}
    (centered : Centered args prompt calls call sample) (response : ResponseCall args call)
    (ready : ReplayReady args calls call) :
    ∃ next, Recorded args prompt (calls ++ [call]) next ∧
      sample.finishAppend args call sample.responseLength call.passedLogProbs =
        (do attempt next next.validateResponseMetadataLengths; pure next) := by
  have maskLength : (sample.lossMask.getD []).length = sample.responseLength := by
    rw [centered.lossMask, centered.responseLength]
    exact length_flatMap_tokens _ calls fun call _ => call.length_maskEntries
  have logProbsLength : (sample.rolloutLogProbs.getD []).length = sample.responseLength := by
    rw [centered.logProbs, centered.responseLength]
    exact length_flatMap_tokens _ calls fun call member =>
      (centered.proper call member).length_tokenLogProbs
  have spansLength := length_flatMap_tokens (AppendCall.spans args) calls
    fun call member => (centered.proper call member).length_spans
  rcases addTokens_others call sample with
    ⟨sameLogProbs, sameTopkIds, sameTopkLogps, sameIds, sameOffsets, sameLogps⟩
  rw [← sameLogProbs] at logProbsLength
  rcases addLogProbs_recorded (sample.addTokens call) response logProbsLength with
    ⟨logProbs, logProbsEq, entries⟩
  generalize isHeld : { sample.addTokens call with rolloutLogProbs := logProbs } = held
    at logProbsEq
  have topP : TopPCentered args calls call held.rolloutTopPTokenIds held.rolloutTopPTokenOffsets
      held.rolloutTopPLogProbs := by
    rw [← isHeld]
    rw [sameIds, sameOffsets, sameLogps]
    exact centered.topP
  have others (ids offsets : Option (List Int32))
      (recorded : TopPRecorded args (calls ++ [call]) ids offsets held.rolloutTopPLogProbs) :
      Recorded args prompt (calls ++ [call])
        { held with rolloutTopPTokenIds := ids, rolloutTopPTokenOffsets := offsets } := by
    subst isHeld
    constructor
    · exact fun other member => (List.mem_append.mp member).elim (centered.proper other)
        fun isCall => by rw [List.mem_singleton.mp isCall]; exact response
    · rw [flatMap_concat, ← List.append_assoc, ← centered.tokens]
      exact addTokens_tokens call sample
    · rw [flatMap_concat, List.length_append, ← centered.responseLength]
      exact addTokens_responseLength call sample
    · rw [flatMap_concat, ← centered.lossMask]
      exact addTokens_lossMask call maskLength
    · rw [flatMap_concat, ← centered.logProbs, ← sameLogProbs]
      exact entries
    · dsimp only
      rw [sameTopkIds, sameTopkLogps]
      exact centered.topK
    · exact recorded
  have finishEq {next : Sample F} (applied : held.applyCallMetaInfo args call = .ok next) :
      sample.finishAppend args call sample.responseLength call.passedLogProbs =
        (do attempt next next.validateResponseMetadataLengths; pure next) := by
    rw [Sample.finishAppend, logProbsEq, ok_bind, applied, ok_bind]
  rcases response with trained | masked
  · rcases applyTrained_recorded trained topP with ⟨info, ids, offsets, applied, recorded⟩
    exact ⟨_, (others ids offsets recorded).terminal info _ _, finishEq applied⟩
  · rcases applyMasked_recorded masked topP spansLength ready with
      ⟨ids, offsets, applied, recorded⟩
    exact ⟨_, others ids offsets recorded, finishEq applied⟩

theorem Recorded.append [SamplerValue F] {args : Option Args} {prompt : List Int}
    {calls : List (AppendCall F)} {call : AppendCall F} {sample : Sample F}
    (recorded : Recorded args prompt calls sample) (response : ResponseCall args call)
    (accepts : call.tokens ≠ [] → SamplerAccepts args call)
    (ready : ReplayReady args calls call) :
    ∃ next, Recorded args prompt (calls ++ [call]) next ∧
      sample.appendResponseTokens args call =
        (do attempt next next.validateResponseMetadataLengths; pure next) := by
  rcases recorded.center response accepts with ⟨held, centerEq, centered, sameLength⟩
  rcases centered.finish response ready with ⟨next, extended, finishEq⟩
  rcases bind_eq_ok.mp centerEq with ⟨withTopK, topKEq, topPEq⟩
  refine ⟨next, extended, ?_⟩
  rw [Sample.appendResponseTokens, response.checkedLogProbs_eq, attempt_ok, ok_bind, topKEq,
    ok_bind, topPEq, ok_bind, ← sameLength, finishEq]

end Vime.Utils.Types
