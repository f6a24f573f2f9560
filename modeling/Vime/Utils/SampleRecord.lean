import Vime.Foundation.Ragged
import Vime.Utils.Sample

/-! # What a sequence of appends records

The data that each call hands over for its tokens, and the sample that holds
exactly the data of a sequence of calls.
-/

namespace Vime.Utils.Types

open Vime.Foundation Vime.Utils Vime.Utils.ScoreCentering

variable {F : Type}

/-! ## Offsets of a replay -/

/-- Offsets that delimit `count` spans of the token ids. -/
structure DelimitsSpans (tokenIds offsets : List Int32) (count : Nat) : Prop where
  offsets_length : offsets.length = count + 1
  first : offsets.head? = some 0
  last : offsets.getLast?.map Int32.toInt = some (tokenIds.length : Int)
  ordered : offsets.IsChain (· ≤ ·)

/-- The spans that `int32` offsets delimit. -/
def replaySpans (tokenIds offsets : List Int32) : List (List Int32) :=
  cutSpans tokenIds (offsets.map Int32.toNatClampNeg)

def replayOffsets (spans : List (List Int32)) : List Int32 :=
  (offsetsFrom 0 spans).map Int32.ofNat

namespace DelimitsSpans

variable {tokenIds offsets : List Int32} {count : Nat}

theorem nonneg (delimits : DelimitsSpans tokenIds offsets count) :
    ∀ offset ∈ offsets, 0 ≤ offset := by
  have first := delimits.first
  have ordered := delimits.ordered
  cases offsets with
  | nil => exact nofun
  | cons start rest =>
      have isZero : start = 0 := Option.some.inj first
      intro offset member
      rcases List.mem_cons.mp member with same | later
      · rw [same, isZero]
        exact Int32.le_refl 0
      · have sorted := List.isChain_iff_pairwise.mp ordered
        rw [← isZero]
        exact List.rel_of_pairwise_cons sorted later

theorem natOffsets (delimits : DelimitsSpans tokenIds offsets count) :
    ∃ rest, offsets.map Int32.toNatClampNeg = 0 :: rest ∧
      (0 :: rest).IsChain (· ≤ ·) ∧ (0 :: rest).getLast? = some tokenIds.length := by
  have first := delimits.first
  have ordered : (offsets.map Int32.toNatClampNeg).IsChain (· ≤ ·) :=
    List.isChain_map_of_isChain Int32.toNatClampNeg
      (fun left right le => Int.toNat_le_toNat (Int32.le_iff_toInt_le.mp le)) delimits.ordered
  have last : (offsets.map Int32.toNatClampNeg).getLast? = some tokenIds.length := by
    rw [List.getLast?_map]
    rcases Option.map_eq_some_iff.mp delimits.last with ⟨offset, isLast, atEnd⟩
    rw [isLast, Option.map_some]
    have same := Int32.cast_toNatClampNeg offset
      (delimits.nonneg offset (List.mem_of_getLast? isLast))
    rw [atEnd] at same
    exact congrArg some (Int.ofNat_inj.mp same)
  cases offsets with
  | nil => exact absurd first nofun
  | cons start rest =>
      have isZero : start = 0 := Option.some.inj first
      subst isZero
      exact ⟨rest.map Int32.toNatClampNeg, rfl, ordered, last⟩

theorem length_spans (delimits : DelimitsSpans tokenIds offsets count) :
    (replaySpans tokenIds offsets).length = count := by
  rw [replaySpans, length_cutSpans, List.length_map, delimits.offsets_length, Nat.add_sub_cancel]

theorem flatten_spans (delimits : DelimitsSpans tokenIds offsets count) :
    (replaySpans tokenIds offsets).flatten = tokenIds := by
  rcases delimits.natOffsets with ⟨rest, isMap, ordered, last⟩
  rw [replaySpans, isMap, flatten_cutSpans tokenIds 0 rest _ ordered last, List.take_length]
  rfl

theorem offsets_spans (delimits : DelimitsSpans tokenIds offsets count) :
    replayOffsets (replaySpans tokenIds offsets) = offsets := by
  rcases delimits.natOffsets with ⟨rest, isMap, ordered, last⟩
  have bounded : ∀ offset ∈ 0 :: rest, offset ≤ tokenIds.length := by
    intro offset member
    have sorted := List.isChain_iff_pairwise.mp ordered
    have below := sorted.rel_getLast member
    rw [List.getLast_eq_iff_getLast?_eq_some (by simp) |>.mpr last] at below
    exact below
  rw [replayOffsets, replaySpans, isMap, offsetsFrom_cutSpans tokenIds 0 rest ordered bounded,
    ← isMap, List.map_map]
  have same : ∀ offset ∈ offsets, (Int32.ofNat ∘ Int32.toNatClampNeg) offset = offset :=
    fun offset member => Int32.ofNat_toNatClampNeg offset (delimits.nonneg offset member)
  rw [List.map_congr_left same, List.map_id']

end DelimitsSpans

/-! ## Growing replays -/

theorem length_replayOffsets (spans : List (List Int32)) :
    (replayOffsets spans).length = spans.length + 1 := by
  rw [replayOffsets, List.length_map, length_offsetsFrom]

theorem getLast?_replayOffsets (spans : List (List Int32)) :
    (replayOffsets spans).getLast? = some (Int32.ofNat spans.flatten.length) := by
  rw [replayOffsets, List.getLast?_map, getLast?_offsetsFrom, Option.map_some, Nat.zero_add]

theorem replayOffsets_append (left right : List (List Int32)) :
    replayOffsets (left ++ right) = replayOffsets left ++
      ((replayOffsets right).drop 1).map (· + Int32.ofNat left.flatten.length) := by
  have shifted : (offsetsFrom (0 + left.flatten.length) right).map Int32.ofNat =
      (replayOffsets right).map (· + Int32.ofNat left.flatten.length) := by
    rw [← map_add_offsetsFrom, replayOffsets, List.map_map, List.map_map]
    apply List.map_congr_left
    intro offset _
    exact Int32.ofNat_add offset left.flatten.length
  rw [replayOffsets, offsetsFrom_append, List.map_append, ← List.drop_one, List.map_drop,
    shifted, List.map_drop]
  rfl

theorem merge_replay (left right : List (List Int32)) :
    mergeRolloutTopPTokenData (some left.flatten) (some (replayOffsets left)) right.flatten
        (replayOffsets right) =
      .ok ((left ++ right).flatten, replayOffsets (left ++ right)) := by
  have last : lastItem (replayOffsets left) = .ok (Int32.ofNat left.flatten.length) :=
    lastItem_eq_ok.mpr (getLast?_replayOffsets left)
  rw [mergeRolloutTopPTokenData, Option.getD_some, Option.getD_some, last, ok_bind,
    pure_eq_ok, List.flatten_append, replayOffsets_append]

theorem pad_replay (spans : List (List Int32)) (count : Nat) :
    padRolloutTopPOffsets (some spans.flatten) (some (replayOffsets spans)) count =
      .ok ((spans ++ List.replicate count []).flatten,
        replayOffsets (spans ++ List.replicate count [])) := by
  have padded : ((replayOffsets (List.replicate count [])).drop 1).map
      (· + Int32.ofNat spans.flatten.length) =
        List.replicate count (Int32.ofNat spans.flatten.length) := by
    rw [replayOffsets, offsetsFrom_replicate_nil, List.map_replicate, List.drop_replicate,
      List.map_replicate, Nat.add_sub_cancel]
    exact congrArg _ (Int32.zero_add _)
  rw [padRolloutTopPOffsets, getLast?_replayOffsets, replayOffsets_append, padded]
  simp

theorem replaySpans_flatten {spans : List (List Int32)} (fits : spans.flatten.length < 2 ^ 31) :
    replaySpans spans.flatten (replayOffsets spans) = spans := by
  have bounded : ∀ offset ∈ offsetsFrom 0 spans, offset ≤ spans.flatten.length := by
    intro offset member
    have below := le_of_mem_offsetsFrom member
    rw [Nat.zero_add] at below
    exact below
  have same : ((replayOffsets spans).map Int32.toNatClampNeg) = offsetsFrom 0 spans := by
    rw [replayOffsets, List.map_map]
    have back : ∀ offset ∈ offsetsFrom 0 spans,
        (Int32.toNatClampNeg ∘ Int32.ofNat) offset = offset := fun offset member =>
      Int32.toNatClampNeg_ofNat_of_lt (Nat.lt_of_le_of_lt (bounded offset member) fits)
    rw [List.map_congr_left back, List.map_id']
  have read := cutSpans_offsetsFrom [] [] spans
  rw [List.nil_append, List.append_nil, List.length_nil] at read
  rw [replaySpans, same, read]

/-! ## Data of one call -/

namespace AppendCall

def maskEntries (call : AppendCall F) : List Int :=
  List.replicate call.tokens.length (if call.trainable then 1 else 0)

def tokenLogProbs [LogProbValue F] (call : AppendCall F) : List F :=
  if call.trainable then call.logProbs.getD []
  else List.replicate call.tokens.length LogProbValue.zero

/-- The token ids and offsets of the replay that is recorded: those of the sampler
distribution with top-p score centering and the plain top-p replay without. -/
def replay (args : Option Args) (call : AppendCall F) : Option (List Int32 × List Int32) :=
  if recordsTopP args then
    (call.metaInfo.bind MetaInfo.scoreCenteringTopP).bind fun topP =>
      topP.ids.bind fun ids => topP.offsets.map fun offsets => (ids, offsets)
  else
    match call.metaInfo with
    | none => none
    | some info =>
        match info.topPTokenIds, info.topPTokenOffsets with
        | .ok (some ids), .ok (some offsets) => some (ids, offsets)
        | _, _ => none

def spans (args : Option Args) (call : AppendCall F) : List (List Int32) :=
  if call.trainable then
    ((call.replay args).map fun replay => replaySpans replay.1 replay.2).getD []
  else
    List.replicate call.tokens.length []

def headIds (k : Int) (call : AppendCall F) : List (List Int32) :=
  if call.trainable then
    (((call.metaInfo.bind MetaInfo.scoreCenteringTopk).map fun topk => topk.1.rows).getD []).take
      call.tokens.length
  else
    List.replicate call.tokens.length ((List.range k.toNat).map Int32.ofNat)

def headLogProbs [LogProbValue F] (k : Int) (call : AppendCall F) : List (List F) :=
  if call.trainable then
    (((call.metaInfo.bind MetaInfo.scoreCenteringTopk).map fun topk => topk.2.rows).getD []).take
      call.tokens.length
  else
    List.replicate call.tokens.length
      (List.replicate k.toNat (LogProbValue.uniform k.toNat))

end AppendCall

/-! ## The calls of a response -/

/-- A call for generated tokens: one log probability for each token and the replay of
each token. -/
structure TrainableCall (args : Option Args) (call : AppendCall F) : Prop where
  trainable : call.trainable = true
  logProbs : ∃ logProbs, call.logProbs = some logProbs ∧ logProbs.length = call.tokens.length
  replay : ∃ tokenIds offsets, call.replay args = some (tokenIds, offsets) ∧
    DelimitsSpans tokenIds offsets call.tokens.length
  replayOnly : ∃ info, call.metaInfo = some info ∧ info.routedExperts = .ok none

structure MaskedCall (call : AppendCall F) : Prop where
  masked : call.trainable = false
  logProbs : call.logProbs = none
  metaInfo : call.metaInfo = none

def ResponseCall (args : Option Args) (call : AppendCall F) : Prop :=
  TrainableCall args call ∨ MaskedCall call

namespace ResponseCall

variable {args : Option Args} {call : AppendCall F}

theorem length_spans (response : ResponseCall args call) :
    (call.spans args).length = call.tokens.length := by
  rcases response with trained | masked
  · rcases trained.replay with ⟨tokenIds, offsets, isReplay, delimits⟩
    rw [AppendCall.spans, if_pos trained.trainable, isReplay]
    exact delimits.length_spans
  · rw [AppendCall.spans, if_neg (by simp [masked.masked]), List.length_replicate]

theorem length_tokenLogProbs [LogProbValue F] (response : ResponseCall args call) :
    call.tokenLogProbs.length = call.tokens.length := by
  rcases response with trained | masked
  · rcases trained.logProbs with ⟨logProbs, isLogProbs, sameLength⟩
    rw [AppendCall.tokenLogProbs, if_pos trained.trainable, isLogProbs]
    exact sameLength
  · rw [AppendCall.tokenLogProbs, if_neg (by simp [masked.masked]), List.length_replicate]

end ResponseCall

theorem AppendCall.length_maskEntries (call : AppendCall F) :
    call.maskEntries.length = call.tokens.length :=
  List.length_replicate

theorem length_flatMap_tokens {α : Type} (data : AppendCall F → List α) :
    ∀ (calls : List (AppendCall F)),
      (∀ call ∈ calls, (data call).length = call.tokens.length) →
        (calls.flatMap data).length = (calls.flatMap AppendCall.tokens).length
  | [], _ => rfl
  | call :: rest, sized => by
      rw [List.flatMap_cons, List.flatMap_cons, List.length_append, List.length_append,
        sized call List.mem_cons_self,
        length_flatMap_tokens data rest fun other member =>
          sized other (List.mem_cons_of_mem _ member)]

/-! ## The sample of a response -/

/-- The `k` of the recorded heads. -/
def headCount (args : Option Args) : Int :=
  args.elim 0 Args.scoreCenteringTopK

inductive TopKRecorded [LogProbValue F] (args : Option Args) (calls : List (AppendCall F)) :
    Option (HeadArray Int32) → Option (HeadArray F) → Prop
  | inactive (inactive : recordsTopK args = false) : TopKRecorded args calls none none
  | pending (active : recordsTopK args = true)
      (nothing : calls.flatMap AppendCall.tokens = []) : TopKRecorded args calls none none
  | started (active : recordsTopK args = true) (positive : 0 < headCount args)
      (ids : HeadArray Int32) (logps : HeadArray F)
      (idsWidth : (ids.width : Int) = headCount args)
      (logpsWidth : (logps.width : Int) = headCount args)
      (idsRows : ids.rows = calls.flatMap (AppendCall.headIds (headCount args)))
      (logpsRows : logps.rows = calls.flatMap (AppendCall.headLogProbs (headCount args)))
      (idsLength : ids.rows.length = (calls.flatMap AppendCall.tokens).length)
      (logpsLength : logps.rows.length = (calls.flatMap AppendCall.tokens).length) :
      TopKRecorded args calls (some ids) (some logps)

inductive TopPRecorded (args : Option Args) (calls : List (AppendCall F)) :
    Option (List Int32) → Option (List Int32) → Option (List F) → Prop
  | pending (nothing : calls.flatMap (AppendCall.spans args) = []) :
      TopPRecorded args calls none none none
  | started (logps : Option (List F)) (present : logps.isSome = recordsTopP args)
      (aligned : ∀ held ∈ logps,
        held.length = (calls.flatMap (AppendCall.spans args)).flatten.length)
      (begun : recordsTopP args = true ∨ calls.flatMap AppendCall.tokens ≠ []) :
      TopPRecorded args calls (some (calls.flatMap (AppendCall.spans args)).flatten)
        (some (replayOffsets (calls.flatMap (AppendCall.spans args)))) logps

/-- A sample holds the data of the calls, up to the range of `int32` offsets. -/
structure Recorded [LogProbValue F] (args : Option Args) (prompt : List Int)
    (calls : List (AppendCall F)) (sample : Sample F) : Prop where
  proper : ∀ call ∈ calls, ResponseCall args call
  tokens : sample.tokens = prompt ++ calls.flatMap AppendCall.tokens
  responseLength : sample.responseLength = (calls.flatMap AppendCall.tokens).length
  lossMask : sample.lossMask.getD [] = calls.flatMap AppendCall.maskEntries
  logProbs : sample.rolloutLogProbs.getD [] = calls.flatMap AppendCall.tokenLogProbs
  topK : TopKRecorded args calls sample.rolloutTopkTokenIds sample.rolloutTopkLogProbs
  topP : TopPRecorded args calls sample.rolloutTopPTokenIds sample.rolloutTopPTokenOffsets
    sample.rolloutTopPLogProbs

/-- The offsets that the calls need fit into `int32`. -/
def FitsOffsets (args : Option Args) (calls : List (AppendCall F)) : Prop :=
  (calls.flatMap (AppendCall.spans args)).flatten.length < 2 ^ 31

/-- The sampler data of a call passes the checks of the score-centering mode. -/
structure SamplerAccepts [SamplerValue F] (args : Option Args) (call : AppendCall F) : Prop where
  topK : recordsTopK args = true → 0 < headCount args ∧
    ∃ heads, Sample.samplerHeads (headCount args) call = .ok heads
  topP : recordsTopP args = true → call.trainable = true →
    ∃ topP, Sample.samplerTopP call call.logProbs = .ok topP

theorem recorded_nil [LogProbValue F] (args : Option Args) (prompt : List Int) :
    Recorded args prompt ([] : List (AppendCall F)) { tokens := prompt } where
  proper := fun _ member => absurd member List.not_mem_nil
  tokens := (List.append_nil prompt).symm
  responseLength := rfl
  lossMask := rfl
  logProbs := rfl
  topK := by
    cases active : recordsTopK args with
    | false => exact .inactive active
    | true => exact .pending active rfl
  topP := .pending rfl

namespace Recorded

variable [LogProbValue F] {args : Option Args} {prompt : List Int}
  {calls : List (AppendCall F)} {sample : Sample F}

theorem length_lossMask (recorded : Recorded args prompt calls sample) :
    (sample.lossMask.getD []).length = sample.responseLength := by
  rw [recorded.lossMask, recorded.responseLength]
  exact length_flatMap_tokens _ calls fun call _ => call.length_maskEntries

theorem length_logProbs (recorded : Recorded args prompt calls sample) :
    (sample.rolloutLogProbs.getD []).length = sample.responseLength := by
  rw [recorded.logProbs, recorded.responseLength]
  exact length_flatMap_tokens _ calls fun call member =>
    (recorded.proper call member).length_tokenLogProbs

theorem length_spans (recorded : Recorded args prompt calls sample) :
    (calls.flatMap (AppendCall.spans args)).length = sample.responseLength := by
  rw [recorded.responseLength]
  exact length_flatMap_tokens _ calls fun call member =>
    (recorded.proper call member).length_spans

end Recorded

end Vime.Utils.Types
