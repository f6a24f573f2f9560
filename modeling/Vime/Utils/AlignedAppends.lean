import Vime.Utils.SampleAppends

/-! # Sequences of appends

When a sequence of calls keeps the replay of every token: exactly if the sampler
data is accepted, the offsets fit into `int32`, and no masked token precedes the
first replay, unless top-p score centering starts the replay itself.
-/

namespace Vime.Utils.Types

open Vime.Foundation Vime.Utils Vime.Utils.ScoreCentering

variable {F : Type}

/-! ## The final check -/

theorem validateLength_eq_ok {key : String} {length : Option Nat} {responseLength : Nat} :
    Sample.validateLength key length responseLength = .ok () ↔
      ∀ held ∈ length, held = responseLength := by
  rw [Sample.validateLength, raiseIf_eq_ok]
  simp

theorem validateTopP_some_eq_ok {tokenIds offsets : List Int32} {logProbs : Option (List F)}
    {responseLength : Nat} :
    Sample.validateTopP (some tokenIds) (some offsets) logProbs responseLength = .ok () ↔
      offsets.length = responseLength + 1 ∧ (∀ held ∈ logProbs, held.length = tokenIds.length) ∧
        offsets.getLast?.map Int32.toInt = some (tokenIds.length : Int) := by
  rw [Sample.validateTopP, check_bind_eq_ok, check_bind_eq_ok, bind_eq_ok]
  simp only [lastItem_eq_ok, raiseIf_eq_ok, not_not, Option.map_eq_some_iff]
  simp

/-- What the final check asks of a sample. -/
structure LengthsAligned (sample : Sample F) : Prop where
  topkIds : ∀ held ∈ sample.rolloutTopkTokenIds, held.rows.length = sample.responseLength
  topkLogps : ∀ held ∈ sample.rolloutTopkLogProbs, held.rows.length = sample.responseLength
  lossMask : ∀ held ∈ sample.lossMask, held.length = sample.responseLength
  logProbs : ∀ held ∈ sample.rolloutLogProbs, held.length = sample.responseLength
  topP : Sample.validateTopP sample.rolloutTopPTokenIds sample.rolloutTopPTokenOffsets
    sample.rolloutTopPLogProbs sample.responseLength = .ok ()

theorem validate_eq_ok {sample : Sample F} :
    sample.validateResponseMetadataLengths = .ok () ↔ LengthsAligned sample := by
  rw [Sample.validateResponseMetadataLengths]
  simp only [check_bind_eq_ok, validateLength_eq_ok, Option.mem_def, Option.map_eq_some_iff,
    forall_exists_index, and_imp, forall_apply_eq_imp_iff₂]
  constructor
  · rintro ⟨topkIds, topkLogps, lossMask, logProbs, topP⟩
    exact ⟨topkIds, topkLogps, lossMask, logProbs, topP⟩
  · exact fun aligned =>
      ⟨aligned.topkIds, aligned.topkLogps, aligned.lossMask, aligned.logProbs, aligned.topP⟩

/-- The final check of a recorded sample is about the range of the offsets only. -/
theorem Recorded.validate_eq_ok [LogProbValue F] {args : Option Args} {prompt : List Int}
    {calls : List (AppendCall F)} {sample : Sample F}
    (recorded : Recorded args prompt calls sample) :
    sample.validateResponseMetadataLengths = .ok () ↔ FitsOffsets args calls := by
  have spansLength := recorded.length_spans
  have topK := recorded.topK
  have topP := recorded.topP
  rw [Types.validate_eq_ok]
  generalize heldIds : sample.rolloutTopPTokenIds = ids at topP
  generalize heldOffsets : sample.rolloutTopPTokenOffsets = offsets at topP
  generalize heldLogps : sample.rolloutTopPLogProbs = logps at topP
  have checked : Sample.validateTopP ids offsets logps sample.responseLength = .ok () ↔
      FitsOffsets args calls := by
    cases topP with
    | pending nothing => simp [Sample.validateTopP, FitsOffsets, nothing]
    | started _ _ aligned _ =>
        rw [validateTopP_some_eq_ok, length_replayOffsets, getLast?_replayOffsets,
          Option.map_some, Option.some.injEq, FitsOffsets]
        have bounded := (Int32.ofNat
          (calls.flatMap (AppendCall.spans args)).flatten.length).toInt_lt
        constructor
        · rintro ⟨_, _, last⟩
          omega
        · intro fits
          exact ⟨by rw [spansLength], aligned, Int32.toInt_ofNat_of_lt fits⟩
  constructor
  · intro aligned
    have passes := aligned.topP
    rw [heldIds, heldOffsets, heldLogps] at passes
    exact checked.mp passes
  · intro fits
    have lossMask := recorded.length_lossMask
    have logProbs := recorded.length_logProbs
    generalize heldTopkIds : sample.rolloutTopkTokenIds = topkIds at topK
    generalize heldTopkLogps : sample.rolloutTopkLogProbs = topkLogps at topK
    constructor
    · rw [heldTopkIds, recorded.responseLength]
      cases topK with
      | inactive _ => exact nofun
      | pending _ _ => exact nofun
      | started _ _ _ _ _ _ _ _ idsLength _ =>
          intro held isHeld
          rw [← Option.some.inj isHeld]
          exact idsLength
    · rw [heldTopkLogps, recorded.responseLength]
      cases topK with
      | inactive _ => exact nofun
      | pending _ _ => exact nofun
      | started _ _ _ _ _ _ _ _ _ logpsLength =>
          intro held isHeld
          rw [← Option.some.inj isHeld]
          exact logpsLength
    · intro held isHeld
      rw [Option.mem_def.mp isHeld] at lossMask
      exact lossMask
    · intro held isHeld
      rw [Option.mem_def.mp isHeld] at logProbs
      exact logProbs
    · rw [heldIds, heldOffsets, heldLogps]
      exact checked.mpr fits

/-! ## Calls that return -/

/-- Dummy heads for the tokens so far need a positive `k`. -/
theorem headCount_pos_of_start [LogProbValue F] {args : Option Args}
    {calls : List (AppendCall F)} {sample started : Sample F} (active : recordsTopK args = true)
    (recorded : TopKRecorded args calls sample.rolloutTopkTokenIds sample.rolloutTopkLogProbs)
    (returned : sample.startTopK (headCount args) = .ok started) : 0 < headCount args := by
  generalize heldIds : sample.rolloutTopkTokenIds = ids at recorded
  generalize heldLogps : sample.rolloutTopkLogProbs = logps at recorded
  cases recorded with
  | inactive inactive => simp [active] at inactive
  | started _ positive _ _ _ _ _ _ _ _ => exact positive
  | pending _ nothing =>
      by_contra notPositive
      rw [Sample.startTopK, heldIds] at returned
      dsimp only at returned
      split at returned
      · cases returned
      · rcases bind_eq_ok.mp returned with ⟨_, _, more⟩
        rcases bind_eq_ok.mp more with ⟨_, logpsEq, _⟩
        rw [Sample.dummyLogProbs, if_pos (by omega)] at logpsEq
        cases logpsEq

theorem Recorded.accepts_of_append [SamplerValue F] {args : Option Args} {prompt : List Int}
    {calls : List (AppendCall F)} {call : AppendCall F} {sample next : Sample F}
    (recorded : Recorded args prompt calls sample) (response : ResponseCall args call)
    (tokens : call.tokens ≠ []) (returned : sample.appendResponseTokens args call = .ok next) :
    SamplerAccepts args call := by
  rw [Sample.appendResponseTokens, response.checkedLogProbs_eq, attempt_ok, ok_bind] at returned
  rcases bind_eq_ok.mp returned with ⟨withTopK, topKEq, more⟩
  rcases bind_eq_ok.mp more with ⟨withTopP, topPEq, _⟩
  constructor
  · intro active
    cases args with
    | none => simp [recordsTopK] at active
    | some given =>
        rw [Sample.centerTopK, if_pos ⟨tokens, active⟩] at topKEq
        rcases bind_eq_ok.mp topKEq with ⟨heads, headsEq, later⟩
        rcases bind_eq_ok.mp later with ⟨started, startEq, _⟩
        exact ⟨headCount_pos_of_start active recorded.topK startEq, heads,
          attempt_eq_ok.mp headsEq⟩
  · intro active trainable
    have passed : call.passedLogProbs = call.logProbs := by
      simp [AppendCall.passedLogProbs, trainable]
    rw [Sample.centerTopP, if_pos ⟨tokens, active⟩] at topPEq
    rcases bind_eq_ok.mp topPEq with ⟨started, _, later⟩
    rw [if_pos trainable] at later
    rcases bind_eq_ok.mp later with ⟨topP, sampled, _⟩
    rw [passed] at sampled
    exact ⟨topP, attempt_eq_ok.mp sampled⟩

/-! ## Masked tokens before the first replay -/

structure Unreplayed (sample : Sample F) : Prop where
  ids : sample.rolloutTopPTokenIds = none
  offsets : sample.rolloutTopPTokenOffsets = none

theorem startTopK_frame [LogProbValue F] {k : Int} {sample next : Sample F}
    (returned : sample.startTopK k = .ok next) :
    ∃ ids logps, next = { sample with
      rolloutTopkTokenIds := ids, rolloutTopkLogProbs := logps } := by
  rw [Sample.startTopK] at returned
  split at returned
  · exact ⟨_, _, (Except.ok.inj returned).symm⟩
  · split at returned
    · cases returned
    · rcases bind_eq_ok.mp returned with ⟨ids, _, more⟩
      rcases bind_eq_ok.mp more with ⟨logps, _, same⟩
      exact ⟨_, _, (Except.ok.inj same).symm⟩

theorem centerTopK_frame [SamplerValue F] {args : Option Args} {call : AppendCall F}
    {sample next : Sample F} (returned : sample.centerTopK args call = .ok next) :
    ∃ ids logps, next = { sample with
      rolloutTopkTokenIds := ids, rolloutTopkLogProbs := logps } := by
  rw [Sample.centerTopK.eq_def] at returned
  split at returned
  · exact ⟨_, _, (Except.ok.inj returned).symm⟩
  · split at returned
    · rcases bind_eq_ok.mp returned with ⟨heads, _, more⟩
      rcases bind_eq_ok.mp more with ⟨started, startEq, later⟩
      rcases startTopK_frame startEq with ⟨ids, logps, rfl⟩
      rcases bind_eq_ok.mp later with ⟨allIds, _, rest⟩
      rcases bind_eq_ok.mp rest with ⟨allLogps, _, same⟩
      exact ⟨_, _, (Except.ok.inj same).symm⟩
    · exact ⟨_, _, (Except.ok.inj returned).symm⟩

theorem addLogProbs_frame [LogProbValue F] {trainable : Bool} {previous : Nat}
    {logProbs : Option (List F)} {sample next : Sample F}
    (returned : sample.addLogProbs trainable previous logProbs = .ok next) :
    ∃ held, next = { sample with rolloutLogProbs := held } := by
  rw [Sample.addLogProbs.eq_def] at returned
  split at returned
  · exact ⟨_, (Except.ok.inj returned).symm⟩
  · exact ⟨_, (Except.ok.inj returned).symm⟩
  · split at returned
    · cases returned
    · exact ⟨_, (Except.ok.inj returned).symm⟩

theorem applyTerminalInfo_frame (args : Option Args) (info : MetaInfo F) (newTokenCount : Nat)
    (updateTerminalInfo : Bool) (sample : Sample F) :
    (sample.applyTerminalInfo args info newTokenCount updateTerminalInfo).rolloutTopPTokenIds =
        sample.rolloutTopPTokenIds ∧
      (sample.applyTerminalInfo args info newTokenCount updateTerminalInfo).rolloutTopPTokenOffsets =
        sample.rolloutTopPTokenOffsets ∧
      (sample.applyTerminalInfo args info newTokenCount updateTerminalInfo).responseLength =
        sample.responseLength := by
  rw [Sample.applyTerminalInfo]
  split
  · exact ⟨rfl, rfl, rfl⟩
  · split
    · exact ⟨rfl, rfl, rfl⟩
    · exact ⟨rfl, rfl, rfl⟩

namespace Unreplayed

variable {args : Option Args} {call : AppendCall F} {sample : Sample F}

theorem applyMasked (absent : Unreplayed sample) (masked : MaskedCall call) :
    sample.applyCallMetaInfo args call = .ok sample := by
  have noInfo : Sample.remainingMetaInfo args call = none := by
    rw [Sample.remainingMetaInfo, if_neg (by simp [masked.masked]), masked.metaInfo]
  rw [Sample.applyCallMetaInfo, noInfo]
  by_cases empty : call.tokens = []
  · rw [if_neg (by simp [empty])]
  · have pads : (decide (call.tokens ≠ []) && !call.trainable) = true := by
      simp [empty, masked.masked]
    have added : sample.addTopP none call.tokens.length true =
        .ok (sample.rolloutTopPTokenIds, sample.rolloutTopPTokenOffsets) := by
      rw [Sample.addTopP, if_neg (by simp [absent.offsets])]
    have topP : sample.applyTopP ({} : MetaInfo F) call.tokens.length true =
        .ok (sample.rolloutTopPTokenIds, sample.rolloutTopPTokenOffsets) := by
      rw [Sample.applyTopP, if_neg fun none => empty (List.length_eq_zero_iff.mp none),
        extract_none rfl rfl, ok_bind]
      exact added
    rw [pads, if_pos (.inr rfl)]
    exact applyMetaInfo_eq rfl call.updateTerminalInfo topP

theorem applyTrained (absent : Unreplayed sample) (inactive : recordsTopP args = false)
    (trained : TrainableCall args call) (tokens : call.tokens ≠ []) :
    ∃ info tokenIds offsets, sample.applyCallMetaInfo args call =
        .ok ({ sample with
            rolloutTopPTokenIds := some tokenIds, rolloutTopPTokenOffsets := some offsets }
          |>.applyTerminalInfo args info call.tokens.length call.updateTerminalInfo) ∧
      offsets.length = call.tokens.length + 1 := by
  rcases trained.replayOnly with ⟨info, isInfo, noExperts⟩
  rcases trained.replay with ⟨tokenIds, offsets, isReplay, delimits⟩
  have noPad : (decide (call.tokens ≠ []) && !call.trainable) = false := by
    rw [trained.trainable, Bool.not_true, Bool.and_false]
  have isRemaining : Sample.remainingMetaInfo args call = some info := by
    rw [Sample.remainingMetaInfo, if_neg (by simp [inactive]), isInfo]
  have added : sample.addTopP (some (tokenIds, offsets)) call.tokens.length false =
      .ok (some tokenIds, some offsets) := by
    rw [Sample.addTopP, if_pos (by simp [absent.ids, absent.offsets])]
  have topP : sample.applyTopP info call.tokens.length false =
      .ok (some tokenIds, some offsets) := by
    rw [Sample.applyTopP, if_neg fun none => tokens (List.length_eq_zero_iff.mp none),
      extract_replay inactive isInfo isReplay delimits, ok_bind]
    exact added
  refine ⟨info, tokenIds, offsets, ?_, delimits.offsets_length⟩
  rw [Sample.applyCallMetaInfo, noPad, isRemaining, if_pos (.inl rfl)]
  exact applyMetaInfo_eq noExperts call.updateTerminalInfo topP

theorem applyIdle (sample : Sample F) (inactive : recordsTopP args = false)
    (trained : TrainableCall args call) (empty : call.tokens = []) :
    ∃ info, sample.applyCallMetaInfo args call =
      .ok (sample.applyTerminalInfo args info call.tokens.length call.updateTerminalInfo) := by
  rcases trained.replayOnly with ⟨info, isInfo, noExperts⟩
  have noPad : (decide (call.tokens ≠ []) && !call.trainable) = false := by
    rw [trained.trainable, Bool.not_true, Bool.and_false]
  have isRemaining : Sample.remainingMetaInfo args call = some info := by
    rw [Sample.remainingMetaInfo, if_neg (by simp [inactive]), isInfo]
  have topP : sample.applyTopP info call.tokens.length false =
      .ok (sample.rolloutTopPTokenIds, sample.rolloutTopPTokenOffsets) := by
    rw [Sample.applyTopP, if_pos (by rw [empty]; rfl)]
    exact addTopP_none sample call.tokens.length
  refine ⟨info, ?_⟩
  rw [Sample.applyCallMetaInfo, noPad, isRemaining, if_pos (.inl rfl)]
  exact applyMetaInfo_eq noExperts call.updateTerminalInfo topP

/-- A call on a sample without replay: generated tokens can only be the first tokens, and
other calls leave the sample without replay. -/
theorem append [SamplerValue F] {next : Sample F} (absent : Unreplayed sample)
    (inactive : recordsTopP args = false) (response : ResponseCall args call)
    (returned : sample.appendResponseTokens args call = .ok next) :
    next.responseLength = sample.responseLength + call.tokens.length ∧
      (call.tokens ≠ [] → call.trainable = true → sample.responseLength = 0) ∧
      (call.tokens = [] ∨ call.trainable = false → Unreplayed next) := by
  rw [Sample.appendResponseTokens, response.checkedLogProbs_eq, attempt_ok, ok_bind] at returned
  rcases bind_eq_ok.mp returned with ⟨withTopK, topKEq, more⟩
  rcases centerTopK_frame topKEq with ⟨topkIds, topkLogps, rfl⟩
  rw [Sample.centerTopP, if_neg (by simp [inactive]), ok_bind] at more
  rcases bind_eq_ok.mp more with ⟨held, heldEq, later⟩
  rcases addLogProbs_frame heldEq with ⟨logProbs, isHeld⟩
  rcases bind_eq_ok.mp later with ⟨applied, appliedEq, checked⟩
  rcases bind_eq_ok.mp checked with ⟨_, validated, same⟩
  have isNext : applied = next := Except.ok.inj same
  subst isNext
  have aligned := validate_eq_ok.mp (attempt_eq_ok.mp validated)
  have isAbsent : Unreplayed held := by
    have others := addTokens_others call
      { sample with rolloutTopkTokenIds := topkIds, rolloutTopkLogProbs := topkLogps }
    rw [isHeld]
    exact ⟨others.2.2.2.1.trans absent.ids, others.2.2.2.2.1.trans absent.offsets⟩
  have heldLength : held.responseLength = sample.responseLength + call.tokens.length := by
    rw [isHeld]
    exact addTokens_responseLength call _
  rcases response with trained | masked
  · by_cases empty : call.tokens = []
    · rcases applyIdle held inactive trained empty with ⟨info, idleEq⟩
      have isApplied := Except.ok.inj (appliedEq.symm.trans idleEq)
      rcases applyTerminalInfo_frame args info call.tokens.length call.updateTerminalInfo held with
        ⟨sameIds, sameOffsets, sameLength⟩
      rw [isApplied]
      exact ⟨sameLength.trans heldLength, fun tokens => absurd empty tokens,
        fun _ => ⟨sameIds.trans isAbsent.ids, sameOffsets.trans isAbsent.offsets⟩⟩
    · rcases isAbsent.applyTrained inactive trained empty with
        ⟨info, tokenIds, offsets, trainedEq, sized⟩
      have isApplied := Except.ok.inj (appliedEq.symm.trans trainedEq)
      rcases applyTerminalInfo_frame args info call.tokens.length call.updateTerminalInfo
        { held with
          rolloutTopPTokenIds := some tokenIds, rolloutTopPTokenOffsets := some offsets } with
        ⟨sameIds, sameOffsets, sameLength⟩
      have checkedTopP := aligned.topP
      rw [isApplied, sameIds, sameOffsets, sameLength, validateTopP_some_eq_ok, sized,
        heldLength] at checkedTopP
      refine ⟨by rw [isApplied, sameLength, heldLength], fun _ _ => by omega, ?_⟩
      rintro (none | notTrainable)
      · exact absurd none empty
      · simp [trained.trainable] at notTrainable
  · have isApplied := Except.ok.inj (appliedEq.symm.trans (isAbsent.applyMasked masked))
    rw [isApplied]
    exact ⟨heldLength, fun _ trainable => by simp [masked.masked] at trainable,
      fun _ => isAbsent⟩

end Unreplayed

/-! ## Sequences of calls -/

/-- A sample whose metadata is aligned with the tokens of the calls; an absent array reads
as the empty one that it stands for. -/
structure AlignedResponse [LogProbValue F] (args : Option Args) (prompt : List Int)
    (calls : List (AppendCall F)) (sample : Sample F) : Prop where
  tokens : sample.tokens = prompt ++ calls.flatMap AppendCall.tokens
  responseLength : sample.responseLength = (calls.flatMap AppendCall.tokens).length
  lossMask : sample.lossMask.getD [] = calls.flatMap AppendCall.maskEntries
  logProbs : sample.rolloutLogProbs.getD [] = calls.flatMap AppendCall.tokenLogProbs
  lossMask_length : (sample.lossMask.getD []).length = sample.responseLength
  logProbs_length : (sample.rolloutLogProbs.getD []).length = sample.responseLength
  offsets_length :
    (sample.rolloutTopPTokenOffsets.getD [0]).length = sample.responseLength + 1
  spans : replaySpans (sample.rolloutTopPTokenIds.getD [])
    (sample.rolloutTopPTokenOffsets.getD [0]) = calls.flatMap (AppendCall.spans args)
  headIds : recordsTopK args = true →
    (sample.rolloutTopkTokenIds.map HeadArray.rows).getD [] =
      calls.flatMap (AppendCall.headIds (headCount args))
  headLogProbs : recordsTopK args = true →
    (sample.rolloutTopkLogProbs.map HeadArray.rows).getD [] =
      calls.flatMap (AppendCall.headLogProbs (headCount args))

/-- The calls keep the replay of every token: their sampler data is accepted, their offsets
fit, and a replay is there before masked tokens need empty spans. -/
structure KeepsReplay [SamplerValue F] (args : Option Args) (calls : List (AppendCall F)) :
    Prop where
  sampler : ∀ call ∈ calls, call.tokens ≠ [] → SamplerAccepts args call
  offsets : FitsOffsets args calls
  order : recordsTopP args = true ∨
    ∀ call ∈ calls.find? (fun call => decide (call.tokens ≠ [])), call.trainable = true

theorem Recorded.aligned [LogProbValue F] {args : Option Args} {prompt : List Int}
    {calls : List (AppendCall F)} {sample : Sample F}
    (recorded : Recorded args prompt calls sample) (fits : FitsOffsets args calls) :
    AlignedResponse args prompt calls sample := by
  have spansLength := recorded.length_spans
  have topK := recorded.topK
  have topP := recorded.topP
  constructor
  · exact recorded.tokens
  · exact recorded.responseLength
  · exact recorded.lossMask
  · exact recorded.logProbs
  · exact recorded.length_lossMask
  · exact recorded.length_logProbs
  · generalize sample.rolloutTopPTokenIds = ids at topP
    generalize sample.rolloutTopPTokenOffsets = offsets at topP ⊢
    generalize sample.rolloutTopPLogProbs = logps at topP
    cases topP with
    | pending nothing =>
        rw [nothing] at spansLength
        rw [← spansLength]
        rfl
    | started _ _ _ _ => rw [Option.getD_some, length_replayOffsets, spansLength]
  · generalize sample.rolloutTopPTokenIds = ids at topP ⊢
    generalize sample.rolloutTopPTokenOffsets = offsets at topP ⊢
    generalize sample.rolloutTopPLogProbs = logps at topP
    cases topP with
    | pending nothing => rw [nothing]; rfl
    | started _ _ _ _ => exact replaySpans_flatten fits
  · intro active
    generalize sample.rolloutTopkTokenIds = ids at topK ⊢
    generalize sample.rolloutTopkLogProbs = logps at topK
    cases topK with
    | inactive inactive => simp [active] at inactive
    | pending _ nothing =>
        rw [flatMap_nil_of_tokens nothing fun call _ => AppendCall.headIds_nil _]
        rfl
    | started _ _ _ _ _ _ idsRows _ _ _ => exact idsRows
  · intro active
    generalize sample.rolloutTopkTokenIds = ids at topK
    generalize sample.rolloutTopkLogProbs = logps at topK ⊢
    cases topK with
    | inactive inactive => simp [active] at inactive
    | pending _ nothing =>
        rw [flatMap_nil_of_tokens nothing fun call _ => AppendCall.headLogProbs_nil _]
        rfl
    | started _ _ _ _ _ _ _ logpsRows _ _ => exact logpsRows

def OpensReplay (args : Option Args) (calls rest : List (AppendCall F)) : Prop :=
  recordsTopP args = true ∨ calls.flatMap AppendCall.tokens ≠ [] ∨
    ∀ call ∈ rest.find? (fun call => decide (call.tokens ≠ [])), call.trainable = true

theorem FitsOffsets.of_append {args : Option Args} {calls rest : List (AppendCall F)}
    (fits : FitsOffsets args (calls ++ rest)) : FitsOffsets args calls := by
  rw [FitsOffsets, List.flatMap_append, List.flatten_append, List.length_append] at fits
  exact Nat.lt_of_le_of_lt (Nat.le_add_right _ _) fits

namespace OpensReplay

variable {args : Option Args} {calls rest : List (AppendCall F)} {call : AppendCall F}

theorem ready (opens : OpensReplay args calls (call :: rest)) : ReplayReady args calls call := by
  by_cases empty : call.tokens = []
  · exact .inl empty
  · rcases opens with active | before | first
    · exact .inr (.inr (.inl active))
    · exact .inr (.inr (.inr before))
    · rw [List.find?_cons_of_pos (by simpa using empty)] at first
      exact .inr (.inl (first call rfl))

theorem tail (opens : OpensReplay args calls (call :: rest)) :
    OpensReplay args (calls ++ [call]) rest := by
  by_cases empty : call.tokens = []
  · rw [OpensReplay, List.find?_cons_of_neg (by simp [empty])] at opens
    rw [OpensReplay, flatMap_concat, empty, List.append_nil]
    exact opens
  · refine .inr (.inl ?_)
    rw [flatMap_concat]
    exact fun none => empty (List.append_eq_nil_iff.mp none).2

theorem cons (ready : ReplayReady args calls call)
    (opens : OpensReplay args (calls ++ [call]) rest) :
    OpensReplay args calls (call :: rest) := by
  by_cases empty : call.tokens = []
  · rw [OpensReplay, flatMap_concat, empty, List.append_nil] at opens
    rw [OpensReplay, List.find?_cons_of_neg (by simp [empty])]
    exact opens
  · rcases ready with none | trainable | active | before
    · exact absurd none empty
    · refine .inr (.inr ?_)
      rw [List.find?_cons_of_pos (by simpa using empty)]
      intro found isFound
      rw [← Option.some.inj isFound]
      exact trainable
    · exact .inl active
    · exact .inr (.inl before)

end OpensReplay

theorem appendAll_recorded [SamplerValue F] {args : Option Args} {prompt : List Int} :
    ∀ {rest calls : List (AppendCall F)} {sample : Sample F},
      Recorded args prompt calls sample → (∀ call ∈ rest, ResponseCall args call) →
        (∀ call ∈ rest, call.tokens ≠ [] → SamplerAccepts args call) →
          FitsOffsets args (calls ++ rest) → OpensReplay args calls rest →
            ∃ final, Sample.appendAll args rest sample = .ok final ∧
              Recorded args prompt (calls ++ rest) final
  | [], calls, sample, recorded, _, _, _, _ => by
      rw [List.append_nil]
      exact ⟨sample, rfl, recorded⟩
  | call :: rest, calls, sample, recorded, responses, accepts, fits, opens => by
      rw [List.append_cons] at fits ⊢
      rcases recorded.append (responses call List.mem_cons_self)
        (accepts call List.mem_cons_self) opens.ready with ⟨next, extended, appendEq⟩
      have passes := extended.validate_eq_ok.mpr fits.of_append
      rw [passes, attempt_ok, ok_bind] at appendEq
      rcases appendAll_recorded extended
        (fun other member => responses other (List.mem_cons_of_mem _ member))
        (fun other member => accepts other (List.mem_cons_of_mem _ member)) fits opens.tail with
        ⟨final, restEq, all⟩
      refine ⟨final, ?_, all⟩
      rw [Sample.appendAll, appendEq]
      exact restEq

/-- A sample that has masked tokens and no replay never gets one. -/
theorem appendAll_unreplayed [SamplerValue F] {args : Option Args}
    (inactive : recordsTopP args = false) :
    ∀ {rest : List (AppendCall F)} {sample final : Sample F}, Unreplayed sample →
      sample.responseLength ≠ 0 → (∀ call ∈ rest, ResponseCall args call) →
        Sample.appendAll args rest sample = .ok final →
          Unreplayed final ∧ final.responseLength ≠ 0
  | [], sample, final, absent, started, _, returned => by
      rw [← Except.ok.inj returned]
      exact ⟨absent, started⟩
  | call :: rest, sample, final, absent, started, responses, returned => by
      rcases bind_eq_ok.mp returned with ⟨next, appendEq, restEq⟩
      rcases absent.append inactive (responses call List.mem_cons_self) appendEq with
        ⟨grown, first, stays⟩
      have notFirst : call.tokens = [] ∨ call.trainable = false := by
        by_cases empty : call.tokens = []
        · exact .inl empty
        · exact .inr (Bool.eq_false_iff.mpr fun trainable => started (first empty trainable))
      exact appendAll_unreplayed inactive (stays notFirst) (by omega)
        (fun other member => responses other (List.mem_cons_of_mem _ member)) restEq

/-- Calls that return an aligned sample keep the replay. -/
theorem keeps_of_appendAll [SamplerValue F] {args : Option Args} {prompt : List Int} :
    ∀ {rest calls : List (AppendCall F)} {sample final : Sample F},
      Recorded args prompt calls sample → FitsOffsets args calls →
        (∀ call ∈ rest, ResponseCall args call) →
          Sample.appendAll args rest sample = .ok final →
            (final.rolloutTopPTokenOffsets.getD [0]).length = final.responseLength + 1 →
              (∀ call ∈ rest, call.tokens ≠ [] → SamplerAccepts args call) ∧
                FitsOffsets args (calls ++ rest) ∧ OpensReplay args calls rest
  | [], calls, _, _, _, fits, _, _, _ => by
      rw [List.append_nil]
      refine ⟨fun _ member => absurd member List.not_mem_nil, fits, .inr (.inr ?_)⟩
      intro found isFound
      cases isFound
  | call :: rest, calls, sample, final, recorded, fits, responses, returned, sized => by
      rw [List.append_cons]
      have response := responses call List.mem_cons_self
      have later : ∀ other ∈ rest, ResponseCall args other :=
        fun other member => responses other (List.mem_cons_of_mem _ member)
      rcases bind_eq_ok.mp returned with ⟨next, appendEq, restEq⟩
      have accepts (tokens : call.tokens ≠ []) : SamplerAccepts args call :=
        recorded.accepts_of_append response tokens appendEq
      by_cases ready : ReplayReady args calls call
      · rcases recorded.append response accepts ready with ⟨recordedNext, extended, isAppend⟩
        rw [isAppend] at appendEq
        rcases bind_eq_ok.mp appendEq with ⟨_, validated, same⟩
        have isNext : recordedNext = next := Except.ok.inj same
        subst isNext
        have fitsNext := extended.validate_eq_ok.mp (attempt_eq_ok.mp validated)
        rcases keeps_of_appendAll extended fitsNext later restEq sized with
          ⟨restAccepts, fitsAll, opens⟩
        refine ⟨?_, fitsAll, opens.cons ready⟩
        intro other member
        rcases List.mem_cons.mp member with isCall | inRest
        · rw [isCall]
          exact accepts
        · exact restAccepts other inRest
      · -- masked tokens come first and nothing has started the replay
        rw [ReplayReady, not_or, not_or, not_or, not_not] at ready
        rcases ready with ⟨tokens, notTrainable, notActive, nothing⟩
        have inactive : recordsTopP args = false := Bool.eq_false_iff.mpr notActive
        have absent : Unreplayed sample := by
          have topP := recorded.topP
          generalize heldIds : sample.rolloutTopPTokenIds = ids at topP
          generalize heldOffsets : sample.rolloutTopPTokenOffsets = offsets at topP
          generalize sample.rolloutTopPLogProbs = logps at topP
          cases topP with
          | pending _ => exact ⟨heldIds, heldOffsets⟩
          | started _ _ _ begun =>
              exact absurd nothing (begun.resolve_left notActive)
        rcases absent.append inactive response appendEq with ⟨grown, _, stays⟩
        have counted : call.tokens.length ≠ 0 :=
          fun none => tokens (List.length_eq_zero_iff.mp none)
        rcases appendAll_unreplayed inactive (stays (.inr (Bool.eq_false_iff.mpr notTrainable)))
          (by omega) later restEq with ⟨absentFinal, startedFinal⟩
        rw [absentFinal.offsets, Option.getD_none, List.length_singleton] at sized
        omega

theorem fitsOffsets_nil (args : Option Args) : FitsOffsets args ([] : List (AppendCall F)) := by
  rw [FitsOffsets, List.flatMap_nil, List.flatten_nil, List.length_nil]
  exact Nat.two_pow_pos 31

/-- Any sequence of calls on a sample with prompt tokens only returns an aligned sample
exactly if the calls keep the replay. -/
theorem appendAll_aligned_iff [SamplerValue F] (args : Option Args) (prompt : List Int)
    (calls : List (AppendCall F)) (responses : ∀ call ∈ calls, ResponseCall args call) :
    (∃ final, Sample.appendAll args calls { tokens := prompt } = .ok final ∧
      AlignedResponse args prompt calls final) ↔ KeepsReplay args calls := by
  have start := recorded_nil (F := F) args prompt
  constructor
  · rintro ⟨final, returned, aligned⟩
    rcases keeps_of_appendAll start (fitsOffsets_nil args) responses returned
      aligned.offsets_length with ⟨accepts, fits, opens⟩
    refine ⟨accepts, fits, ?_⟩
    rcases opens with active | before | first
    · exact .inl active
    · exact absurd rfl before
    · exact .inr first
  · intro keeps
    have opens : OpensReplay args [] calls := keeps.order.imp_right .inr
    rcases appendAll_recorded start responses keeps.sampler keeps.offsets opens with
      ⟨final, returned, recorded⟩
    exact ⟨final, returned, recorded.aligned keeps.offsets⟩

/-! ## Concrete sequences -/

structure Hundredths where
  value : Int
  deriving DecidableEq, Repr

instance : SamplerValue Hundredths where
  zero := ⟨0⟩
  uniform k := ⟨-k⟩
  finiteNonpositive logp := decide (logp.value ≤ 0)
  isClose left right := decide (left = right)

def generatedCall : AppendCall Hundredths where
  tokens := [5]
  logProbs := some [⟨-20⟩]
  metaInfo := some { topPTokenIds := .ok (some [5]), topPTokenOffsets := .ok (some [0, 1]) }

def toolCall : AppendCall Hundredths where
  tokens := [7]
  trainable := false

theorem generatedCall_response : ResponseCall none generatedCall :=
  .inl
    { trainable := rfl
      logProbs := ⟨[⟨-20⟩], rfl, rfl⟩
      replay := ⟨[5], [0, 1], rfl,
        { offsets_length := rfl, first := rfl, last := by decide, ordered := by decide }⟩
      replayOnly := ⟨_, rfl, rfl⟩ }

theorem toolCall_response : ResponseCall none toolCall :=
  .inr { masked := rfl, logProbs := rfl, metaInfo := rfl }

/-- A generated token before a tool token. -/
theorem appendAll_aligned_iff_generatedFirst :
    ∃ final, Sample.appendAll none [generatedCall, toolCall] { tokens := [1] } = .ok final ∧
      AlignedResponse none [1] [generatedCall, toolCall] final :=
  (appendAll_aligned_iff none [1] [generatedCall, toolCall] fun call member => by
    rcases List.mem_cons.mp member with isGenerated | isTool
    · rw [isGenerated]
      exact generatedCall_response
    · rw [List.mem_singleton.mp isTool]
      exact toolCall_response).mpr
    { sampler := fun _ _ _ => ⟨nofun, nofun⟩
      offsets := by
        rw [FitsOffsets]
        decide
      order := .inr fun call first => by
        rw [← Option.some.inj first]
        rfl }

/-- A tool token before a generated token: the second call raises. -/
theorem toolFirst_raises :
    (∀ call ∈ [toolCall, generatedCall], ResponseCall none call) ∧
      ¬ ∃ final, Sample.appendAll none [toolCall, generatedCall] { tokens := [1] } = .ok final ∧
        AlignedResponse none [1] [toolCall, generatedCall] final := by
  constructor
  · intro call member
    rcases List.mem_cons.mp member with isTool | isGenerated
    · rw [isTool]
      exact toolCall_response
    · rw [List.mem_singleton.mp isGenerated]
      exact generatedCall_response
  · rintro ⟨final, returned, _⟩
    have raised : (Sample.appendAll none [toolCall, generatedCall] { tokens := [1] }).toBool =
        false := by decide
    rw [returned] at raised
    cases raised

end Vime.Utils.Types
