import Vime.Agent.Emission

/-! # Finishing a session

`finish_session` of `vime/agent/adapters/common.py`: the session is linearized
under its context budget and the response tokens of each sample are decoded.
-/

namespace Vime.Agent

open Vime.Foundation Vime.Utils

variable {Message F Sid Prompt : Type}

/-- An emitted sample with the text of its response. -/
structure FinishedSample (Prompt F : Type) where
  sample : Sample Prompt F
  response : String

/-- `tokenizer.decode(s.tokens[-rlen:])` if there is anything to decode. -/
def decodedResponse (decode : List TokenId → String) (sample : Sample Prompt F) : String :=
  if sample.responseLength ≠ 0 ∧ sample.tokens ≠ [] then
    decode (sliceFrom sample.tokens (-sample.responseLength))
  else ""

def finishSession [DecidableEq Sid] [ChatMessage Message] [LogProbValue F]
    (manager : TrajectoryManager Sid Message F) (decode : List TokenId → String) (sid : Sid)
    (baseSample : BaseSample Prompt) (reward : F) (extraMetadata : List (String × String))
    (maxContextTokens : Nat) :
    Except PyException
      (List (FinishedSample Prompt F) × TrajectoryManager Sid Message F) := do
  let (samples, manager) ← manager.getTrajectory sid baseSample reward extraMetadata
    maxContextTokens
  pure (samples.map fun sample =>
    { sample := sample, response := decodedResponse decode sample }, manager)

/-- The sample respects the budget, its lists are aligned, it is cut from the sample
`whole` emitted without a budget, it trains a token, and its response is decoded
from its last `responseLength` tokens. -/
structure WellFormed (budget : Nat) (decode : List TokenId → String)
    (finished : FinishedSample Prompt F) (whole : Sample Prompt F) : Prop where
  nonneg : 0 ≤ finished.sample.responseLength
  lossMask : (finished.sample.lossMask.length : Int) = finished.sample.responseLength
  logProbs : (finished.sample.rolloutLogProbs.length : Int) = finished.sample.responseLength
  inTokens : finished.sample.responseLength ≤ finished.sample.tokens.length
  inBudget : finished.sample.tokens.length ≤ budget
  tokensPrefix : finished.sample.tokens <+: whole.tokens
  lossMaskPrefix : finished.sample.lossMask <+: whole.lossMask
  logProbsPrefix : finished.sample.rolloutLogProbs <+: whole.rolloutLogProbs
  trained : 1 ∈ finished.sample.lossMask
  response : finished.response = decode (finished.sample.tokens.drop
    (finished.sample.tokens.length - finished.sample.responseLength.toNat))

/-! ## One sample -/

theorem decodedResponse_eq (decode : List TokenId → String) (sample : Sample Prompt F)
    {count : Nat} (isCount : sample.responseLength = count) (positive : 0 < count)
    (inside : count ≤ sample.tokens.length) :
    decodedResponse decode sample =
      decode (sample.tokens.drop (sample.tokens.length - count)) := by
  have nonempty : sample.tokens ≠ [] := by
    rw [← List.length_pos_iff]
    omega
  rw [decodedResponse, if_pos ⟨by omega, nonempty⟩, sliceFrom, sliceBound, isCount,
    if_pos (by omega)]
  congr 2
  omega

theorem drop_isPrefix {α : Type} {shorter longer : List α} (count : Nat)
    (isPrefix : shorter <+: longer) : shorter.drop count <+: longer.drop count := by
  rcases isPrefix with ⟨rest, rfl⟩
  rw [List.drop_append]
  exact List.prefix_append _ _

section Samples

variable [LogProbValue F] {forkThreshold : Nat}

omit [LogProbValue F] in
theorem cutSample_wellFormed_iff {run : List (FlaggedTurn F)} {builder : SampleBuilder F}
    (masks : MasksRun forkThreshold run builder) (parallel : builder.Parallel) {budget : Nat}
    (positive : 0 < budget) (decode : List TokenId → String)
    (baseSample : BaseSample Prompt) (metadata : SampleMetadata) (reward : F)
    (replay wholeReplay : Replay F) :
    WellFormed budget decode
        { sample := builder.cutSample baseSample metadata budget reward replay
          response := decodedResponse decode
            (builder.cutSample baseSample metadata budget reward replay) }
        (builder.cutSample baseSample metadata 0 reward wholeReplay) ↔
      trainsWithin forkThreshold budget run = true := by
  have limited : budget ≠ 0 := by omega
  rw [← masks.one_mem_cut_iff budget]
  constructor
  · intro wellFormed
    have trained := wellFormed.trained
    simp only [SampleBuilder.cutSample, cut, if_neg limited] at trained
    exact trained
  · intro trained
    have maskLength : (builder.lossMask.take budget).length =
        (builder.tokens.take budget).length := by
      rw [List.length_take, List.length_take, parallel.lossMask]
    have logprobLength : (builder.logprobs.take budget).length =
        (builder.tokens.take budget).length := by
      rw [List.length_take, List.length_take, parallel.logprobs]
    have inside : builder.leadingPromptLen < (builder.lossMask.take budget).length := by
      have nonempty := List.length_pos_of_mem trained
      rw [List.length_drop] at nonempty
      omega
    have isCount : builder.cutLength budget =
        ((builder.lossMask.take budget).length - builder.leadingPromptLen : Nat) := by
      rw [SampleBuilder.cutLength, cut, if_neg limited]
      omega
    have decoded := decodedResponse_eq decode
      (builder.cutSample baseSample metadata budget reward replay) isCount (by omega) (by
        simp only [SampleBuilder.cutSample, cut, if_neg limited]
        omega)
    simp only [SampleBuilder.cutSample, cut, if_neg limited, if_true, isCount] at decoded ⊢
    constructor <;> dsimp only
    · omega
    · rw [List.length_drop]
    · rw [List.length_drop, logprobLength, maskLength]
    · omega
    · exact List.length_take_le _ _
    · exact List.take_prefix _ _
    · exact drop_isPrefix _ (List.take_prefix _ _)
    · exact drop_isPrefix _ (List.take_prefix _ _)
    · exact trained
    · rw [decoded, Int.toNat_natCast]

omit [LogProbValue F] in
theorem emittedReplay_whole {replay cutReplay : Replay F} {count whole : Int}
    {tokenCount wholeTokens : Nat}
    (emitted : SampleBuilder.emittedReplay replay count tokenCount = .ok cutReplay)
    (nonneg : 0 ≤ whole) :
    ∃ result, SampleBuilder.emittedReplay replay whole wholeTokens = .ok result := by
  rw [SampleBuilder.emittedReplay] at emitted ⊢
  cases present : replay.topPTokenOffsets with
  | none => exact ⟨_, rfl⟩
  | some offsets =>
      rw [present] at emitted
      dsimp only at emitted ⊢
      rcases bind_eq_ok.mp emitted with ⟨last, lastEq, more⟩
      have nonempty : sliceTo offsets (whole + 1) ≠ [] := by
        have isLast := List.mem_of_getLast? (lastItem_eq_ok.mp lastEq)
        have someOffset := List.length_pos_of_mem (List.mem_of_mem_take isLast)
        rw [← List.length_pos_iff, sliceTo, List.length_take, sliceBound, if_neg (by omega)]
        omega
      cases ids : replay.topPTokenIds with
      | none =>
          rw [ids] at more
          cases more
      | some values =>
          have wholeLast := lastItem_eq_ok.mpr (List.getLast?_eq_getLast_of_ne_nil nonempty)
          rw [wholeLast]
          exact ⟨_, rfl⟩

theorem Built.leading_le {run : List (FlaggedTurn F)} {builder : SampleBuilder F}
    (built : Built forkThreshold run builder) :
    builder.leadingPromptLen ≤ builder.lossMask.length := by
  rcases built.exists_last with ⟨before, last, rfl⟩
  have holds := built.holdsRun rfl
  have longer := built.masksRun.longer last (by simp)
  rw [holds.parallel.lossMask, holds.tokens, List.length_append]
  omega

theorem Built.emittedWhole {run : List (FlaggedTurn F)}
    {entry : SampleBuilder F × SampleMetadata} (built : Built forkThreshold run entry.1)
    {baseSample : BaseSample Prompt} {reward : F} {budget : Nat} {sample : Sample Prompt F}
    (emitted : EmittedAs baseSample reward budget entry sample) :
    ∃ whole, EmittedAs baseSample reward 0 entry whole := by
  rcases emitted with ⟨replay, replayEq, _⟩
  have nonneg : 0 ≤ entry.1.cutLength 0 := by
    have leading := built.leading_le
    rw [SampleBuilder.cutLength, cut, if_pos rfl]
    omega
  rw [SampleBuilder.cutReplay.eq_def] at replayEq
  cases held : entry.1.replay with
  | none =>
      refine ⟨_, {}, ?_, rfl⟩
      rw [SampleBuilder.cutReplay, held]
  | some kept =>
      rw [held] at replayEq
      rcases emittedReplay_whole replayEq nonneg with ⟨whole, wholeEq⟩
      refine ⟨_, whole, ?_, rfl⟩
      rw [SampleBuilder.cutReplay, held]
      exact wholeEq

/-- The sample of a run is well formed exactly if the run trains a token within the
budget. -/
theorem wellFormed_iff_trainsWithin {budget : Nat} (positive : 0 < budget)
    (decode : List TokenId → String) {baseSample : BaseSample Prompt} {reward : F}
    {runs : List (List (FlaggedTurn F))} {builders : List (SampleBuilder F × SampleMetadata)}
    {samples : List (Sample Prompt F)}
    (built : List.Forall₂ (fun run entry => Built forkThreshold run entry.1) runs builders)
    (emitted : List.Forall₂ (EmittedAs baseSample reward budget) builders samples) :
    ∃ wholes, List.Forall₂ (EmittedAs baseSample reward 0) builders wholes ∧
      samples.length = wholes.length ∧
      List.Forall₂ (fun run pair =>
          WellFormed budget decode
              { sample := pair.1, response := decodedResponse decode pair.1 } pair.2 ↔
            trainsWithin forkThreshold budget run = true) runs (samples.zip wholes) := by
  induction built generalizing samples with
  | nil =>
      cases emitted
      exact ⟨[], .nil, rfl, .nil⟩
  | cons first _ induction =>
      rcases List.forall₂_cons_left_iff.mp emitted with
        ⟨sample, others, firstEmitted, laterEmitted, rfl⟩
      rcases induction laterEmitted with ⟨wholes, wholesEmitted, sameLength, decides⟩
      rcases first.emittedWhole firstEmitted with ⟨whole, wholeEmitted⟩
      refine ⟨whole :: wholes, .cons wholeEmitted wholesEmitted, by simp [sameLength],
        .cons ?_ decides⟩
      rcases firstEmitted with ⟨replay, _, rfl⟩
      rcases wholeEmitted with ⟨wholeReplay, _, rfl⟩
      exact cutSample_wellFormed_iff first.masksRun first.parallel positive decode baseSample _
        reward replay wholeReplay

end Samples

/-! ## Recorded sessions -/

section Sessions

variable [DecidableEq Sid] [ChatMessage Message] [LogProbValue F]
  {manager recorded final : TrajectoryManager Sid Message F} {sid : Sid}
  {calls : List (RecordCall Message F)} {baseSample : BaseSample Prompt} {reward : F}
  {extraMetadata : List (String × String)} {budget : Nat}

/-- A session that is linearized under a token budget is linearized without one too, and the
well-formed samples are those of the runs that train a token within the budget. -/
theorem getTrajectory_wholes (decode : List TokenId → String)
    {samples : List (Sample Prompt F)} (fresh : manager.trees sid = none)
    (accepted : manager.recordTurns sid calls = .ok recorded) (positive : 0 < budget)
    (emits : recorded.getTrajectory sid baseSample reward extraMetadata budget =
      .ok (samples, final)) :
    ∃ wholes, recorded.getTrajectory sid baseSample reward extraMetadata 0 =
        .ok (wholes, final) ∧
      samples.length = wholes.length ∧
      List.Forall₂ (fun run pair =>
          WellFormed budget decode
              { sample := pair.1, response := decodedResponse decode pair.1 } pair.2 ↔
            trainsWithin manager.forkThreshold budget run = true)
        (sessionRuns manager.forkThreshold ((recorded.trees sid).getD Session.initial).root)
        (samples.zip wholes) := by
  have invariant := TrajectoryManager.recordTurns_keeps (fun _ => True)
    (fun session : Session Message F => session.Holds TurnRecord.Recordable)
    (Session.holds_initial _)
    (fun forkThreshold call turnIndex _ recordable before =>
      before.record forkThreshold recordable _ _ turnIndex)
    (fun _ _ => trivial) accepted (by rw [fresh]; exact Session.holds_initial _)
  rcases invariant with ⟨sameThreshold, recordable⟩
  cases tree : recorded.trees sid with
  | none =>
      rw [TrajectoryManager.getTrajectory, tree] at emits
      rw [TrajectoryManager.getTrajectory, tree, ← (Prod.mk.inj (Except.ok.inj emits)).1,
        ← (Prod.mk.inj (Except.ok.inj emits)).2]
      have noRuns : sessionRuns manager.forkThreshold
          (Session.initial : Session Message F).root = [] := rfl
      refine ⟨[], rfl, rfl, ?_⟩
      rw [Option.getD_none, noRuns]
      exact .nil
  | some session =>
      rw [tree, Option.getD_some] at recordable
      rcases (getTrajectory_eq_ok tree recordable _ _ _).mp emits with
        ⟨rfl, builders, builtEq, related⟩
      have built := emittingBuilders_runs
        (fun chain member node inChain => sampled_of_mem_leafChains recordable member inChain)
        builtEq
      rcases wellFormed_iff_trainsWithin positive decode built related with
        ⟨wholes, wholesEmitted, sameLength, decides⟩
      refine ⟨wholes, (getTrajectory_eq_ok tree recordable _ _ _).mpr
        ⟨rfl, builders, builtEq, wholesEmitted⟩, sameLength, ?_⟩
      rw [sameThreshold] at decides
      exact decides

end Sessions

/-- After any recorded turns, a sample of `get_trajectory` under a token budget is well formed,
with the response that `finish_session` decodes, exactly if its run trains a token within the
budget; so all samples are if every run that trains something does. -/
theorem getTrajectory_wellFormed_iff [DecidableEq Sid] [ChatMessage Message]
    [LogProbValue F] (manager recorded final : TrajectoryManager Sid Message F) (sid : Sid)
    (calls : List (RecordCall Message F)) (baseSample : BaseSample Prompt) (reward : F)
    (extraMetadata : List (String × String)) (decode : List TokenId → String)
    (budget : Nat) (samples : List (Sample Prompt F))
    (fresh : manager.trees sid = none)
    (accepted : manager.recordTurns sid calls = .ok recorded) (positive : 0 < budget)
    (emits : recorded.getTrajectory sid baseSample reward extraMetadata budget =
      .ok (samples, final)) :
    ∃ wholes, recorded.getTrajectory sid baseSample reward extraMetadata 0 =
        .ok (wholes, final) ∧
      List.Forall₂ (fun run pair =>
          WellFormed budget decode
              { sample := pair.1, response := decodedResponse decode pair.1 } pair.2 ↔
            trainsWithin manager.forkThreshold budget run = true)
        (sessionRuns manager.forkThreshold ((recorded.trees sid).getD Session.initial).root)
        (samples.zip wholes) ∧
      (List.Forall₂ (fun sample whole =>
          WellFormed budget decode
            { sample := sample, response := decodedResponse decode sample } whole)
          samples wholes ↔
        ∀ run ∈ sessionRuns manager.forkThreshold
            ((recorded.trees sid).getD Session.initial).root,
          trainsWithin manager.forkThreshold budget run = true) := by
  rcases getTrajectory_wholes decode fresh accepted positive emits with
    ⟨wholes, wholesEq, sameLength, decides⟩
  exact ⟨wholes, wholesEq, decides, forall₂_iff_of_zip sameLength decides⟩

def promptedCalls : List (RecordCall TextMessage Int) :=
  [{ turn := { promptIds := [1, 2, 3], outputIds := [4, 5], finishReason := "stop" }
     promptMessages := [⟨"user", "compute"⟩]
     responseMessage := some ⟨"assistant", "ok"⟩ }]

def promptedManager : TrajectoryManager Unit TextMessage Int :=
  ((TrajectoryManager.new none).recordTurns () promptedCalls).toOption.getD
    (TrajectoryManager.new none)

/-- A budget inside of the response cuts it. -/
theorem getTrajectory_cutsResponse :
    (TrajectoryManager.new none).recordTurns () promptedCalls = .ok promptedManager ∧
    ∃ samples final,
      promptedManager.getTrajectory () ({ prompt := "" } : BaseSample String) 1 [] 4 =
        .ok (samples, final) ∧
      samples.map (fun sample => sample.responseLength) = [1] ∧
      ∃ wholes, promptedManager.getTrajectory () ({ prompt := "" } : BaseSample String) 1 [] 0 =
          .ok (wholes, final) ∧
        List.Forall₂ (fun sample whole =>
          WellFormed 4 (fun _ => "ok")
            { sample := sample, response := decodedResponse (fun _ => "ok") sample } whole)
          samples wholes := by
  have emits : ∃ samples final,
      promptedManager.getTrajectory () ({ prompt := "" } : BaseSample String) 1 [] 4 =
        .ok (samples, final) ∧
      samples.map (fun sample => sample.responseLength) = [1] :=
    ⟨_, _, rfl, rfl⟩
  rcases emits with ⟨samples, final, emitted, lengths⟩
  rcases getTrajectory_wellFormed_iff (TrajectoryManager.new none) promptedManager final ()
    promptedCalls ({ prompt := "" } : BaseSample String) 1 [] (fun _ => "ok") 4 samples rfl rfl
    (by decide) emitted with ⟨wholes, wholesEq, _, decides⟩
  exact ⟨rfl, samples, final, emitted, lengths, wholes, wholesEq, decides.mpr (by decide)⟩

/-- A budget inside of the prompt leaves a sample of negative response length. -/
theorem getTrajectory_negativeResponse :
    (TrajectoryManager.new none).recordTurns () promptedCalls = .ok promptedManager ∧
    ∃ samples final,
      promptedManager.getTrajectory () ({ prompt := "" } : BaseSample String) 1 [] 2 =
        .ok (samples, final) ∧
      ¬ ∀ sample ∈ samples, 0 ≤ sample.responseLength ∧ 1 ∈ sample.lossMask :=
  ⟨rfl, _, _, rfl, by decide⟩

/-- After any recorded turns, the samples of `finish_session` under a token budget
are well formed exactly if every run of the session that trains something trains a
token within the budget. -/
theorem finishSession_wellFormed_iff [DecidableEq Sid] [ChatMessage Message]
    [LogProbValue F] (manager recorded final : TrajectoryManager Sid Message F) (sid : Sid)
    (calls : List (RecordCall Message F)) (baseSample : BaseSample Prompt) (reward : F)
    (extraMetadata : List (String × String)) (decode : List TokenId → String)
    (budget : Nat) (samples : List (FinishedSample Prompt F))
    (fresh : manager.trees sid = none)
    (accepted : manager.recordTurns sid calls = .ok recorded) (positive : 0 < budget)
    (finished : finishSession recorded decode sid baseSample reward extraMetadata budget =
      .ok (samples, final)) :
    ∃ wholes, recorded.getTrajectory sid baseSample reward extraMetadata 0 =
        .ok (wholes, final) ∧
      (List.Forall₂ (WellFormed budget decode) samples wholes ↔
        ∀ run ∈ sessionRuns manager.forkThreshold
            ((recorded.trees sid).getD Session.initial).root,
          trainsWithin manager.forkThreshold budget run = true) := by
  rw [finishSession] at finished
  rcases bind_eq_ok.mp finished with ⟨⟨emitted, after⟩, emits, returned⟩
  dsimp only at returned
  rw [pure_eq_ok, Except.ok.injEq, Prod.mk.injEq] at returned
  rcases returned with ⟨rfl, rfl⟩
  rcases getTrajectory_wholes decode fresh accepted positive emits with
    ⟨wholes, wholesEq, sameLength, decides⟩
  refine ⟨wholes, wholesEq, ?_⟩
  rw [List.forall₂_map_left_iff]
  exact forall₂_iff_of_zip sameLength decides

def branchedCalls : List (RecordCall TextMessage Int) :=
  [{ turn := { promptIds := [1, 2, 3], outputIds := [4, 5], finishReason := "stop" }
     promptMessages := [⟨"user", "compute"⟩]
     responseMessage := some ⟨"assistant", "ok"⟩ },
    { turn := { promptIds := [1, 2, 3, 4, 5, 6], outputIds := [7, 8], finishReason := "stop" }
      promptMessages := [⟨"user", "compute"⟩, ⟨"assistant", "ok"⟩, ⟨"user", "more"⟩]
      responseMessage := some ⟨"assistant", "done"⟩ },
    { turn := { promptIds := [9], outputIds := [10, 11], finishReason := "stop" }
      promptMessages := [⟨"user", "count"⟩]
      responseMessage := none }]

def branchedManager : TrajectoryManager Unit TextMessage Int :=
  ((TrajectoryManager.new none).recordTurns () branchedCalls).toOption.getD
    (TrajectoryManager.new none)

/-- A budget inside the second response of the first run cuts it and leaves the other run. -/
theorem finishSession_cutResponse :
    (TrajectoryManager.new none).recordTurns () branchedCalls = .ok branchedManager ∧
    ∃ samples final,
      finishSession branchedManager (fun _ => "ok") () ({ prompt := "" } : BaseSample String) 1
        [] 7 = .ok (samples, final) ∧
      samples.map (fun finished => finished.sample.lossMask) = [[1, 1, 0, 1], [1, 1]] ∧
      ∃ wholes, branchedManager.getTrajectory () ({ prompt := "" } : BaseSample String) 1 [] 0 =
          .ok (wholes, final) ∧
        List.Forall₂ (WellFormed 7 fun _ => "ok") samples wholes := by
  have emits : ∃ samples final,
      finishSession branchedManager (fun _ => "ok") () ({ prompt := "" } : BaseSample String) 1
        [] 7 = .ok (samples, final) ∧
      samples.map (fun finished => finished.sample.lossMask) = [[1, 1, 0, 1], [1, 1]] :=
    ⟨_, _, rfl, rfl⟩
  rcases emits with ⟨samples, final, finished, masks⟩
  rcases finishSession_wellFormed_iff (TrajectoryManager.new none) branchedManager final ()
    branchedCalls ({ prompt := "" } : BaseSample String) 1 [] (fun _ => "ok") 7 samples rfl rfl
    (by decide) finished with ⟨wholes, wholesEq, decides⟩
  exact ⟨rfl, samples, final, finished, masks, wholes, wholesEq, decides.mpr (by decide)⟩

end Vime.Agent
