import Vime.Agent.Adapters.GenerateCall
import Vime.Foundation.StopSampling

/-! # Continuing interrupted turns

A turn generated through any sequence of interruptions against the turn that a
server emits when it is never interrupted. Every continuation passes the minimum
of the whole turn, so it can exceed what is left of the budget, and it suppresses
the stop token again after the minimum has been met.
-/

namespace Vime.Agent

open Vime.Foundation Vime.Utils StopSource
open Vime.Rollout (Choice finishType)

variable {F : Type}

/-! ## The server -/

/-- A deterministic model: the token it samples after a prefix with its log
probability, and the one it samples when the stop token is masked out. -/
structure TokenOracle (F : Type) where
  next : List TokenId → TokenId × F
  unstopped : List TokenId → TokenId × F
  stopToken : TokenId
  unstopped_ne : ∀ tokens, (unstopped tokens).1 ≠ stopToken

def TokenOracle.source (oracle : TokenOracle F) : StopSource (List TokenId) (TokenId × F) where
  next := oracle.next
  fallback := oracle.unstopped
  stops := fun sampled => sampled.1 == oracle.stopToken
  step := fun tokens sampled => tokens ++ [sampled.1]
  fallback_not_stops := fun tokens => by simpa using oracle.unstopped_ne tokens

theorem TokenOracle.foldl_step (oracle : TokenOracle F) (values : List (TokenId × F)) :
    ∀ tokens : List TokenId,
      values.foldl oracle.source.step tokens = tokens ++ values.map Prod.fst := by
  induction values with
  | nil => simp
  | cons value rest induction =>
      intro tokens
      rw [List.foldl_cons, induction]
      simp [source]

def finishName : RunEnd → String
  | .stop => "stop"
  | .limit => "length"
  | .interrupted => "abort"

theorem finishType_finishName (ending : RunEnd) :
    finishType (some (finishName ending)) = finishName ending := by
  cases ending <;> rfl

theorem finishName_eq_abort (ending : RunEnd) :
    finishName ending = "abort" ↔ ending = .interrupted := by
  cases ending <;> decide

/-- The reply to one request, interrupted after `interrupt` tokens if it has not
finished by then. `annotate` supplies the counters and the replay data. -/
def oracleReply (oracle : TokenOracle F)
    (annotate : GenerateRequest → List (TokenId × F) → RoutedReply F)
    (interrupt : Option Nat) (request : GenerateRequest) : RoutedReply F :=
  let emitted := oracle.source.run (request.samplingParams.minTokens.getD 0).toNat
    request.samplingParams.maxTokens.toNat 0 request.tokenIds interrupt
  let annotated := annotate request emitted.1
  { annotated with
    choices := [{ annotated.choice with
      tokenIds := some (emitted.1.map Prod.fst)
      logprobs := some emitted.1
      finishReason := some (finishName emitted.2) }] }

/-! ## One request -/

/-- The capture after a reply that carries `values`. -/
structure CapturesMore (captured captured' : Types.Sample F) (values : List (TokenId × F)) :
    Prop where
  tokens : captured'.tokens = captured.tokens ++ values.map Prod.fst
  responseLength : captured'.responseLength = captured.responseLength + values.length
  logProbs : captured'.rolloutLogProbs.getD [] =
    captured.rolloutLogProbs.getD [] ++ values.map Prod.snd

section Loop

variable [SamplerValue F] {args : RolloutArgs} {sp : SamplingParams} {oracle : TokenOracle F}
  {annotate : GenerateRequest → List (TokenId × F) → RoutedReply F} {finish : String}

/-- A call that returns has sent a request, captured its reply, and either
finished with it or continued. -/
theorem generateLoop_cons (isPartial : args.partialRollout = true)
    {captured : Types.Sample F} {interrupt : Option Nat} {rest : List (Option Nat)}
    {outcome : Types.Sample F × String × List GenerateRequest}
    (within : (captured.responseLength : Int) < sp.maxNewTokens)
    (returns : generateLoop args sp finish
      ((interrupt :: rest).map (oracleReply oracle annotate)) captured = .ok (some outcome)) :
    let emitted := oracle.source.run (sp.minNewTokens.getD 0).toNat
      (sp.maxNewTokens - captured.responseLength).toNat 0 captured.tokens interrupt
    ∃ request captured',
      request.samplingParams.maxTokens = sp.maxNewTokens - captured.responseLength ∧
      request.samplingParams.minTokens = sp.minNewTokens ∧
      CapturesMore captured captured' emitted.1 ∧
      ((emitted.2 ≠ .interrupted ∧
          outcome = (captured', finishName emitted.2, [request])) ∨
        (emitted.2 = .interrupted ∧ sp.maxNewTokens ≤ (captured'.responseLength : Int) ∧
          outcome = (captured', "length", [request])) ∨
        (emitted.2 = .interrupted ∧ (captured'.responseLength : Int) < sp.maxNewTokens ∧
          ∃ later finish', generateLoop args sp finish'
              (rest.map (oracleReply oracle annotate)) captured' = .ok (some later) ∧
            outcome = (later.1, later.2.1, request :: later.2.2))) := by
  intro emitted
  rw [List.map_cons, generateLoop, if_neg (Int.not_le.mpr within), bind_eq_ok] at returns
  rcases returns with ⟨request, requestEq, returns⟩
  rw [bind_eq_ok] at returns
  rcases returns with ⟨⟨captured', finish'⟩, absorbedEq, returns⟩
  have sent := continuationRequest_eq_ok requestEq
  have absorbed := absorbReply_eq_ok absorbedEq
  have replied : (oracleReply oracle annotate interrupt request).choice.tokens =
        emitted.1.map Prod.fst ∧
      (oracleReply oracle annotate interrupt request).choice.content =
        emitted.1.map Prod.snd ∧
      finishType (oracleReply oracle annotate interrupt request).choice.finishReason =
        finishName emitted.2 := by
    simp only [oracleReply, RoutedReply.choice, List.headD_cons, Choice.tokens, Choice.content,
      Option.getD_some, sent.1, sent.2.1, sent.2.2, finishType_finishName, emitted, and_self]
  rw [replied.1, replied.2.1, replied.2.2, List.length_map] at absorbed
  rcases absorbed with ⟨tokens, responseLength, logProbs, finishEq, _⟩
  refine ⟨request, captured', sent.2.1, sent.2.2,
    ⟨tokens, responseLength, by rw [logProbs, Option.getD_some]⟩, ?_⟩
  dsimp only at finishEq returns
  simp only [finishEq, isPartial, Bool.not_true, Bool.false_eq_true, or_false, ne_eq,
    finishName_eq_abort] at returns
  split at returns
  · rename_i finished
    simp only [pure_eq_ok, Except.ok.injEq, Option.some.injEq] at returns
    exact .inl ⟨finished, returns.symm⟩
  · rename_i interrupted
    have isInterrupted : emitted.2 = .interrupted := Decidable.not_not.mp interrupted
    split at returns
    · rename_i exhausted
      simp only [pure_eq_ok, Except.ok.injEq, Option.some.injEq] at returns
      exact .inr (.inl ⟨isInterrupted, exhausted, returns.symm⟩)
    · rename_i continues
      rw [bind_eq_ok] at returns
      rcases returns with ⟨later, laterEq, returns⟩
      cases later with
      | none => simp at returns
      | some later =>
          simp only [pure_eq_ok, Except.ok.injEq, Option.map_some, Option.some.injEq] at returns
          exact .inr (.inr ⟨isInterrupted, Int.not_le.mp continues, later, _, laterEq,
            returns.symm⟩)

theorem generateLoop_prefix (isPartial : args.partialRollout = true) :
    ∀ {interrupts : List (Option Nat)} {finish : String} {captured : Types.Sample F}
      {outcome : Types.Sample F × String × List GenerateRequest},
      generateLoop args sp finish (interrupts.map (oracleReply oracle annotate)) captured =
        .ok (some outcome) →
      captured.tokens <+: outcome.1.tokens
  | interrupts, finish, captured, outcome, returns => by
      by_cases within : (captured.responseLength : Int) < sp.maxNewTokens
      · cases interrupts with
        | nil =>
            rw [List.map_nil, generateLoop, if_neg (Int.not_le.mpr within)] at returns
            simp at returns
        | cons interrupt rest =>
            rcases generateLoop_cons isPartial within returns with
              ⟨request, captured', _, _, more, finished | exhausted | continued⟩
            · rw [finished.2, more.tokens]
              exact List.prefix_append _ _
            · rw [exhausted.2.2, more.tokens]
              exact List.prefix_append _ _
            · rcases continued with ⟨_, _, later, finish', laterEq, rfl⟩
              have grown := generateLoop_prefix isPartial laterEq
              rw [more.tokens] at grown
              exact (List.prefix_append _ _).trans grown
      · rw [generateLoop_of_exhausted (Int.not_lt.mp within)] at returns
        simp only [Except.ok.injEq, Option.some.injEq] at returns
        subst returns
        exact List.prefix_refl _
  termination_by interrupts => interrupts.length

end Loop

/-! ## Interrupted turns against the uninterrupted one -/

/-- Every request of the interrupted turn asks for what is left of `reference`:
the minimum fits the budget that is left, and it does not suppress the stop token
that ends the turn. `generated` counts the tokens before the next request. -/
def resumable (minimum : Int) (budget : Nat) (reference : List (TokenId × F) × RunEnd) :
    List (Option Nat) → (generated : Nat) → Bool
  | [], _ => true
  | interrupt :: rest, generated =>
      let remaining := (reference.1.drop generated, reference.2)
      decide (budget ≤ generated) ||
        (decide (minimum ≤ (budget : Int) - generated) &&
          !decide (Resuppressed minimum.toNat 0 remaining) &&
          interrupt.all fun count =>
            !decide (Cuts remaining count) ||
              resumable minimum budget reference rest (generated + count))

theorem resumable_of_exhausted {minimum : Int} {budget generated : Nat}
    {reference : List (TokenId × F) × RunEnd} {interrupts : List (Option Nat)}
    (exhausted : budget ≤ generated) :
    resumable minimum budget reference interrupts generated = true := by
  cases interrupts with
  | nil => rfl
  | cons interrupt rest => simp [resumable, exhausted]

/-- The outcome of the loop is the uninterrupted turn, by requests that a server
can serve. -/
structure SeamlessOutcome (promptIds : List TokenId)
    (reference : List (TokenId × F) × RunEnd)
    (outcome : Types.Sample F × String × List GenerateRequest) : Prop where
  tokens : outcome.1.tokens = promptIds ++ reference.1.map Prod.fst
  logProbs : outcome.1.rolloutLogProbs.getD [] = reference.1.map Prod.snd
  finish : outcome.2.1 = finishName reference.2
  requests : ∀ request ∈ outcome.2.2, 0 < request.samplingParams.maxTokens ∧
    request.samplingParams.minTokens.getD 0 ≤ request.samplingParams.maxTokens

/-- The capture holds the first `generated` tokens of the uninterrupted turn. -/
structure Synced (promptIds : List TokenId) (reference : List (TokenId × F) × RunEnd)
    (captured : Types.Sample F) (generated : Nat) : Prop where
  tokens : captured.tokens = promptIds ++ (reference.1.take generated).map Prod.fst
  responseLength : captured.responseLength = generated
  logProbs : captured.rolloutLogProbs.getD [] = (reference.1.take generated).map Prod.snd
  cuts : Cuts reference generated

theorem cuts_drop {reference : List (TokenId × F) × RunEnd} {generated count : Nat}
    (cuts : Cuts (reference.1.drop generated, reference.2) count)
    (before : Cuts reference generated) : Cuts reference (generated + count) := by
  simp only [Cuts, List.length_drop] at cuts before ⊢
  rcases cuts with inside | ⟨atEnd, ends⟩
  · exact .inl (by omega)
  · rcases before with inside | ⟨finished, _⟩
    · exact .inr ⟨by omega, ends⟩
    · exact .inr ⟨by omega, ends⟩

theorem CapturesMore.synced {promptIds : List TokenId}
    {reference : List (TokenId × F) × RunEnd} {captured captured' : Types.Sample F}
    {generated count : Nat} (synced : Synced promptIds reference captured generated)
    (more : CapturesMore captured captured' ((reference.1.drop generated).take count))
    (cuts : Cuts (reference.1.drop generated, reference.2) count) :
    Synced promptIds reference captured' (generated + count) := by
  have inside : count ≤ (reference.1.drop generated).length := by
    rcases cuts with before | atEnd
    · exact Nat.le_of_lt before
    · exact Nat.le_of_eq atEnd.1
  constructor
  · rw [more.tokens, synced.tokens, List.append_assoc, ← List.map_append, ← List.take_add]
  · rw [more.responseLength, synced.responseLength, List.length_take_of_le inside]
  · rw [more.logProbs, synced.logProbs, ← List.map_append, ← List.take_add]
  · exact cuts_drop cuts synced.cuts

section Interrupted

variable {args : RolloutArgs} {sp : SamplingParams} {oracle : TokenOracle F}
  {annotate : GenerateRequest → List (TokenId × F) → RoutedReply F}
  {promptIds : List TokenId}

def TokenOracle.uninterrupted (oracle : TokenOracle F) (sp : SamplingParams)
    (promptIds : List TokenId) : List (TokenId × F) × RunEnd :=
  oracle.source.complete (sp.minNewTokens.getD 0).toNat sp.maxNewTokens.toNat 0 promptIds

theorem Synced.remaining_eq {captured : Types.Sample F} {generated : Nat}
    (synced : Synced promptIds (oracle.uninterrupted sp promptIds) captured generated) :
    oracle.source.complete (sp.minNewTokens.getD 0).toNat
        (sp.maxNewTokens - captured.responseLength).toNat generated captured.tokens =
      ((oracle.uninterrupted sp promptIds).1.drop generated,
        (oracle.uninterrupted sp promptIds).2) := by
  have rest := complete_drop generated sp.maxNewTokens.toNat 0 promptIds synced.cuts
  rw [oracle.foldl_step, Nat.zero_add] at rest
  have leftBudget : (sp.maxNewTokens - (generated : Int)).toNat =
      sp.maxNewTokens.toNat - generated := by omega
  rw [synced.responseLength, leftBudget, synced.tokens]
  exact rest

/-- A reply for which the end of the turn is suppressed either stays behind it or
puts another token in its place. -/
theorem run_of_resuppressed {generated limit minimum : Nat} {tokens : List TokenId}
    (interrupt : Option Nat) {remaining : List (TokenId × F) × RunEnd}
    (counted : oracle.source.complete minimum limit generated tokens = remaining)
    (suppressed : Resuppressed minimum 0 remaining) :
    let emitted := oracle.source.run minimum limit 0 tokens interrupt
    (∃ count, interrupt = some count ∧ count < remaining.1.length ∧
        emitted = (remaining.1.take count, .interrupted)) ∨
      ∃ value, emitted.1[remaining.1.length - 1]? = some value ∧
        oracle.source.stops value = false := by
  intro emitted
  rw [← counted] at suppressed
  have restarted := complete_of_resuppressed limit 0 generated tokens (Nat.zero_le _)
    suppressed
  rw [counted] at restarted
  rcases restarted with ⟨agrees, value, atEnd, goesOn⟩
  cases interrupt with
  | none => exact .inr ⟨value, atEnd, goesOn⟩
  | some count =>
      have cutOff : oracle.source.run minimum limit 0 tokens (some count) = _ :=
        run_interrupted limit 0 tokens count
      by_cases cuts : Cuts (oracle.source.complete minimum limit 0 tokens) count
      · rw [if_pos cuts] at cutOff
        by_cases before : count ≤ remaining.1.length - 1
        · left
          have nonempty : 0 < remaining.1.length := by
            rw [counted] at suppressed
            have stopped := complete_stop_value limit generated tokens
              (by rw [counted]; exact suppressed.1)
            rw [counted] at stopped
            rcases stopped with ⟨_, last, _⟩
            exact Nat.zero_lt_of_lt (List.getElem?_eq_some_iff.mp last).1
          refine ⟨count, rfl, by omega, ?_⟩
          have agreesBefore := congrArg (List.take count) agrees
          rw [List.take_take, List.take_take, Nat.min_eq_left before] at agreesBefore
          exact cutOff.trans (by rw [agreesBefore])
        · right
          refine ⟨value, ?_, goesOn⟩
          simp only [emitted, cutOff]
          rw [List.getElem?_take, if_pos (Nat.lt_of_not_le before)]
          exact atEnd
      · rw [if_neg cuts] at cutOff
        exact .inr ⟨value, by simp only [emitted, cutOff]; exact atEnd, goesOn⟩

/-- A capture that puts another token in the place of the final stop token does
not grow into the uninterrupted turn. -/
theorem Synced.tokens_ne_of_goesOn {captured captured' : Types.Sample F} {generated : Nat}
    {values : List (TokenId × F)} {value : TokenId × F} {tokens : List TokenId}
    (synced : Synced promptIds (oracle.uninterrupted sp promptIds) captured generated)
    (stopped : (oracle.uninterrupted sp promptIds).2 = .stop)
    (atEnd : values[((oracle.uninterrupted sp promptIds).1.drop generated).length - 1]? =
      some value)
    (goesOn : oracle.source.stops value = false)
    (more : CapturesMore captured captured' values) (isPrefix : captured'.tokens <+: tokens) :
    tokens ≠ promptIds ++ (oracle.uninterrupted sp promptIds).1.map Prod.fst := by
  intro same
  rcases complete_stop_value _ _ _ stopped with ⟨last, lastEq, isStop⟩
  have inside : generated < (oracle.uninterrupted sp promptIds).1.length := by
    rcases synced.cuts with before | atLimit
    · exact before
    · rw [stopped] at atLimit
      simp at atLimit
  let position := (oracle.uninterrupted sp promptIds).1.length - 1
  have expected : tokens[promptIds.length + position]? = some last.1 := by
    rw [same, List.getElem?_append_right (Nat.le_add_right _ _), Nat.add_sub_cancel_left,
      List.getElem?_map]
    exact congrArg (Option.map Prod.fst) lastEq
  have held : captured'.tokens[promptIds.length + position]? = some value.1 := by
    have capturedLength : captured.tokens.length = promptIds.length + generated := by
      rw [synced.tokens, List.length_append, List.length_map,
        List.length_take_of_le (Nat.le_of_lt inside)]
    have offset : promptIds.length + position - captured.tokens.length =
        ((oracle.uninterrupted sp promptIds).1.drop generated).length - 1 := by
      rw [capturedLength, List.length_drop]
      omega
    rw [more.tokens, List.getElem?_append_right (by rw [capturedLength]; omega), offset,
      List.getElem?_map, atEnd]
    rfl
  rcases isPrefix with ⟨suffix, rfl⟩
  have heldInside := (List.getElem?_eq_some_iff.mp held).1
  rw [List.getElem?_append_left heldInside, held, Option.some.injEq] at expected
  have sameStops : oracle.source.stops value = oracle.source.stops last := by
    simp only [TokenOracle.source, expected]
  rw [goesOn, isStop] at sameStops
  exact Bool.false_ne_true sameStops

/-- Once a continuation suppresses the stop token that ends the turn, the turn
cannot be completed any more. -/
theorem generateLoop_diverges [SamplerValue F] (isPartial : args.partialRollout = true) :
    ∀ {interrupts : List (Option Nat)} {finish : String} {captured : Types.Sample F}
      {generated : Nat} {outcome : Types.Sample F × String × List GenerateRequest},
      Synced promptIds (oracle.uninterrupted sp promptIds) captured generated →
      (generated : Int) < sp.maxNewTokens →
      Resuppressed (sp.minNewTokens.getD 0).toNat 0
        ((oracle.uninterrupted sp promptIds).1.drop generated,
          (oracle.uninterrupted sp promptIds).2) →
      generateLoop args sp finish (interrupts.map (oracleReply oracle annotate)) captured =
        .ok (some outcome) →
      outcome.1.tokens ≠ promptIds ++ (oracle.uninterrupted sp promptIds).1.map Prod.fst
  | [], finish, captured, generated, outcome, synced, within, _, returns => by
      rw [List.map_nil, generateLoop, synced.responseLength,
        if_neg (Int.not_le.mpr within)] at returns
      simp at returns
  | interrupt :: rest, finish, captured, generated, outcome, synced, within, suppressed,
      returns => by
      have withinCaptured : (captured.responseLength : Int) < sp.maxNewTokens := by
        rw [synced.responseLength]
        exact within
      have step := generateLoop_cons isPartial withinCaptured returns
      rcases run_of_resuppressed interrupt synced.remaining_eq suppressed with
        ⟨count, _, before, emittedEq⟩ | ⟨value, atEnd, goesOn⟩
      · -- cut off before the suppressed stop token, so the next request suppresses it again
        rw [emittedEq] at step
        have inside : generated + count < (oracle.uninterrupted sp promptIds).1.length := by
          rw [List.length_drop] at before
          omega
        have bounded : (oracle.uninterrupted sp promptIds).1.length ≤
            sp.maxNewTokens.toNat := complete_length_le _ _ _
        rcases step with ⟨request, captured', _, _, more, finished | exhausted | continued⟩
        · exact absurd rfl finished.1
        · have syncedNext := more.synced synced (.inl before)
          have atBudget := exhausted.2.1
          rw [syncedNext.responseLength] at atBudget
          omega
        · have syncedNext := more.synced synced (.inl before)
          rcases continued with ⟨_, withinNext, later, finish', laterEq, rfl⟩
          rw [syncedNext.responseLength] at withinNext
          have suppressedNext : Resuppressed (sp.minNewTokens.getD 0).toNat 0
              ((oracle.uninterrupted sp promptIds).1.drop (generated + count),
                (oracle.uninterrupted sp promptIds).2) := by
            refine ⟨suppressed.1, ?_⟩
            have fewer := suppressed.2
            rw [List.length_drop] at fewer ⊢
            omega
          have diverges := generateLoop_diverges isPartial syncedNext withinNext
            suppressedNext laterEq
          exact diverges
      · -- another token took the place of the stop token
        rcases step with ⟨request, captured', _, _, more, finished | exhausted | continued⟩
        · exact synced.tokens_ne_of_goesOn suppressed.1 atEnd goesOn more
            (by rw [finished.2])
        · exact synced.tokens_ne_of_goesOn suppressed.1 atEnd goesOn more
            (by rw [exhausted.2.2])
        · rcases continued with ⟨_, _, later, finish', laterEq, rfl⟩
          have grown := generateLoop_prefix isPartial laterEq
          exact synced.tokens_ne_of_goesOn suppressed.1 atEnd goesOn more grown

/-- A reply that does not suppress the end of the turn is what is left of it, up to
the interruption. -/
theorem run_of_not_resuppressed {limit minimum : Nat} {tokens : List TokenId}
    (interrupt : Option Nat) {remaining : List (TokenId × F) × RunEnd}
    (restarted : oracle.source.complete minimum limit 0 tokens = remaining) :
    let emitted := oracle.source.run minimum limit 0 tokens interrupt
    (emitted = remaining ∧ ∀ count, interrupt = some count → ¬ Cuts remaining count) ∨
      ∃ count, interrupt = some count ∧ Cuts remaining count ∧
        emitted = (remaining.1.take count, .interrupted) := by
  intro emitted
  cases interrupt with
  | none => exact .inl ⟨restarted, by simp⟩
  | some count =>
      have cutOff : emitted = _ := run_interrupted limit 0 tokens count
      rw [restarted] at cutOff
      by_cases cuts : Cuts remaining count
      · rw [if_pos cuts] at cutOff
        exact .inr ⟨count, rfl, cuts, cutOff⟩
      · rw [if_neg cuts] at cutOff
        refine .inl ⟨cutOff, ?_⟩
        rintro other ⟨⟩
        exact cuts

theorem uninterrupted_end (oracle : TokenOracle F) (sp : SamplingParams)
    (promptIds : List TokenId) :
    (oracle.uninterrupted sp promptIds).2 ≠ .interrupted := by
  have ends : (oracle.uninterrupted sp promptIds).2 = .stop ∨
      (oracle.uninterrupted sp promptIds).2 = .limit ∧ _ :=
    complete_end sp.maxNewTokens.toNat 0 promptIds
  rcases ends with stopped | ⟨ended, _⟩
  · simp [stopped]
  · simp [ended]

theorem CapturesMore.tokens_whole {captured captured' : Types.Sample F} {generated : Nat}
    {reference : List (TokenId × F) × RunEnd}
    (more : CapturesMore captured captured' (reference.1.drop generated))
    (synced : Synced promptIds reference captured generated) :
    captured'.tokens = promptIds ++ reference.1.map Prod.fst := by
  rw [more.tokens, synced.tokens, List.append_assoc, ← List.map_append,
    List.take_append_drop]

theorem CapturesMore.logProbs_whole {captured captured' : Types.Sample F} {generated : Nat}
    {reference : List (TokenId × F) × RunEnd}
    (more : CapturesMore captured captured' (reference.1.drop generated))
    (synced : Synced promptIds reference captured generated) :
    captured'.rolloutLogProbs.getD [] = reference.1.map Prod.snd := by
  rw [more.logProbs, synced.logProbs, ← List.map_append, List.take_append_drop]

omit annotate in
theorem seamless_single_iff {captured' : Types.Sample F}
    {reference : List (TokenId × F) × RunEnd} {generated : Nat} {request : GenerateRequest}
    (within : (generated : Int) < sp.maxNewTokens)
    (maxTokens : request.samplingParams.maxTokens = sp.maxNewTokens - generated)
    (minTokens : request.samplingParams.minTokens = sp.minNewTokens)
    (tokens : captured'.tokens = promptIds ++ reference.1.map Prod.fst)
    (logProbs : captured'.rolloutLogProbs.getD [] = reference.1.map Prod.snd) :
    SeamlessOutcome promptIds reference (captured', finishName reference.2, [request]) ↔
      sp.minNewTokens.getD 0 ≤ (sp.maxNewTokens.toNat : Int) - generated := by
  have budget : (sp.maxNewTokens.toNat : Int) - generated =
      request.samplingParams.maxTokens := by omega
  constructor
  · intro seamless
    have valid := seamless.requests request (by simp)
    rw [budget, ← minTokens]
    exact valid.2
  · intro fits
    refine ⟨tokens, logProbs, rfl, ?_⟩
    intro other member
    rw [List.mem_singleton] at member
    subst member
    refine ⟨by omega, ?_⟩
    rw [minTokens, ← budget]
    exact fits

omit annotate in
theorem seamless_cons_iff {reference : List (TokenId × F) × RunEnd} {generated : Nat}
    {request : GenerateRequest} {later : Types.Sample F × String × List GenerateRequest}
    (within : (generated : Int) < sp.maxNewTokens)
    (maxTokens : request.samplingParams.maxTokens = sp.maxNewTokens - generated)
    (minTokens : request.samplingParams.minTokens = sp.minNewTokens) :
    SeamlessOutcome promptIds reference (later.1, later.2.1, request :: later.2.2) ↔
      sp.minNewTokens.getD 0 ≤ (sp.maxNewTokens.toNat : Int) - generated ∧
        SeamlessOutcome promptIds reference later := by
  have budget : (sp.maxNewTokens.toNat : Int) - generated =
      request.samplingParams.maxTokens := by omega
  constructor
  · intro seamless
    have valid := seamless.requests request (by simp)
    rw [budget, ← minTokens]
    exact ⟨valid.2, seamless.tokens, seamless.logProbs, seamless.finish,
      fun other member => seamless.requests other (List.mem_cons_of_mem _ member)⟩
  · rintro ⟨fits, seamless⟩
    refine ⟨seamless.tokens, seamless.logProbs, seamless.finish, ?_⟩
    intro other member
    rcases List.mem_cons.mp member with rfl | inLater
    · refine ⟨by omega, ?_⟩
      rw [minTokens, ← budget]
      exact fits
    · exact seamless.requests other inLater

/-- The requests of an interrupted turn that returns yield the uninterrupted turn
exactly if each of them could be resumed. -/
theorem generateLoop_seamless_iff [SamplerValue F] (isPartial : args.partialRollout = true) :
    ∀ {interrupts : List (Option Nat)} {finish : String} {captured : Types.Sample F}
      {generated : Nat} {outcome : Types.Sample F × String × List GenerateRequest},
      Synced promptIds (oracle.uninterrupted sp promptIds) captured generated →
      (generated : Int) < sp.maxNewTokens →
      generateLoop args sp finish (interrupts.map (oracleReply oracle annotate)) captured =
        .ok (some outcome) →
      (SeamlessOutcome promptIds (oracle.uninterrupted sp promptIds) outcome ↔
        resumable (sp.minNewTokens.getD 0) sp.maxNewTokens.toNat
          (oracle.uninterrupted sp promptIds) interrupts generated = true)
  | [], finish, captured, generated, outcome, synced, within, returns => by
      rw [List.map_nil, generateLoop, synced.responseLength,
        if_neg (Int.not_le.mpr within)] at returns
      simp at returns
  | interrupt :: rest, finish, captured, generated, outcome, synced, within, returns => by
      have withinCaptured : (captured.responseLength : Int) < sp.maxNewTokens := by
        rw [synced.responseLength]
        exact within
      have notExhausted : ¬ sp.maxNewTokens.toNat ≤ generated := by omega
      have remainingEq := synced.remaining_eq
      have bounded : (oracle.uninterrupted sp promptIds).1.length ≤
          sp.maxNewTokens.toNat := complete_length_le _ _ _
      by_cases suppressed : Resuppressed (sp.minNewTokens.getD 0).toNat 0
        ((oracle.uninterrupted sp promptIds).1.drop generated,
          (oracle.uninterrupted sp promptIds).2)
      · have diverges := generateLoop_diverges isPartial synced within suppressed returns
        rw [resumable]
        simp only [notExhausted, suppressed, decide_true, decide_false, Bool.not_true,
          Bool.and_false, Bool.false_and, Bool.or_false, Bool.false_eq_true, iff_false]
        exact fun seamless => diverges seamless.tokens
      · have restarted := complete_eq_of_not_resuppressed _ 0 generated captured.tokens
          (Nat.zero_le _) (by rw [remainingEq]; exact suppressed)
        rw [remainingEq] at restarted
        have resumableEq : resumable (sp.minNewTokens.getD 0) sp.maxNewTokens.toNat
            (oracle.uninterrupted sp promptIds) (interrupt :: rest) generated =
          (decide (sp.minNewTokens.getD 0 ≤ (sp.maxNewTokens.toNat : Int) - generated) &&
            interrupt.all fun count =>
              !decide (Cuts ((oracle.uninterrupted sp promptIds).1.drop generated,
                (oracle.uninterrupted sp promptIds).2) count) ||
              resumable (sp.minNewTokens.getD 0) sp.maxNewTokens.toNat
                (oracle.uninterrupted sp promptIds) rest (generated + count)) := by
          rw [resumable]
          simp only [notExhausted, suppressed, decide_false, Bool.not_false, Bool.and_true,
            Bool.false_or]
        rw [resumableEq, Bool.and_eq_true, decide_eq_true_iff]
        rcases generateLoop_cons isPartial withinCaptured returns with
          ⟨request, captured', maxTokens, minTokens, more, step⟩
        rw [synced.responseLength] at maxTokens
        rcases run_of_not_resuppressed interrupt restarted with
          ⟨emittedEq, noCut⟩ | ⟨count, rfl, cuts, emittedEq⟩
        · -- the request is served to its end
          rw [emittedEq] at more step
          have notInterrupted := uninterrupted_end oracle sp promptIds
          rcases step with finished | exhausted | continued
          · rw [finished.2, seamless_single_iff within maxTokens minTokens
              (more.tokens_whole synced) (more.logProbs_whole synced)]
            have noneLeft : (interrupt.all fun count =>
                !decide (Cuts ((oracle.uninterrupted sp promptIds).1.drop generated,
                  (oracle.uninterrupted sp promptIds).2) count) ||
                resumable (sp.minNewTokens.getD 0) sp.maxNewTokens.toNat
                  (oracle.uninterrupted sp promptIds) rest (generated + count)) = true := by
              rw [Option.all_eq_true]
              intro count isInterrupt
              simp [noCut count isInterrupt]
            rw [noneLeft, and_iff_left rfl]
          · exact absurd exhausted.1 notInterrupted
          · exact absurd continued.1 notInterrupted
        · -- the request is cut off, and the capture stays in step
          rw [emittedEq] at more step
          have syncedNext := more.synced synced cuts
          rw [Option.all_some, decide_eq_true cuts, Bool.not_true, Bool.false_or]
          rcases step with finished | exhausted | continued
          · exact absurd rfl finished.1
          · -- cut off exactly at the budget, which the loop reports as a full turn
            rcases exhausted with ⟨_, atBudget, rfl⟩
            rw [syncedNext.responseLength] at atBudget
            have atLimit : (oracle.uninterrupted sp promptIds).2 = .limit ∧
                (oracle.uninterrupted sp promptIds).1.take (generated + count) =
                  (oracle.uninterrupted sp promptIds).1 := by
              rcases syncedNext.cuts with before | atEnd
              · omega
              · exact ⟨atEnd.2, List.take_of_length_le (Nat.le_of_eq atEnd.1.symm)⟩
            have single := seamless_single_iff within maxTokens minTokens
              (by rw [syncedNext.tokens, atLimit.2]) (by rw [syncedNext.logProbs, atLimit.2])
            rw [atLimit.1] at single
            rw [resumable_of_exhausted (by omega), and_iff_left rfl]
            exact single
          · rcases continued with ⟨_, withinNext, later, finish', laterEq, rfl⟩
            rw [syncedNext.responseLength] at withinNext
            have induction := generateLoop_seamless_iff isPartial syncedNext withinNext laterEq
            rw [← induction]
            exact seamless_cons_iff within maxTokens minTokens

end Interrupted

/-! ## The turn -/

structure Yields (reference : List (TokenId × F) × RunEnd) (turn : TurnRecord F) : Prop where
  outputIds : turn.outputIds = reference.1.map Prod.fst
  outputLogProbs : turn.outputLogProbs = reference.1.map Prod.snd
  finishReason : turn.finishReason = finishName reference.2

/-- An interrupted turn cannot be told from the uninterrupted one, it stays within
the budget, and its requests leave room for their minimum. -/
structure Seamless (sp : SamplingParams) (reference : List (TokenId × F) × RunEnd)
    (turn : TurnRecord F) (requests : List GenerateRequest) : Prop where
  yields : Yields reference turn
  within : turn.outputIds.length ≤ sp.maxNewTokens.toNat
  requests : ∀ request ∈ requests, 0 < request.samplingParams.maxTokens ∧
    request.samplingParams.minTokens.getD 0 ≤ request.samplingParams.maxTokens

section Turn

variable {args : RolloutArgs} {session : AdapterSession} {body : AgentBody}
  {promptIds : List TokenId} {oracle : TokenOracle F}
  {annotate : GenerateRequest → List (TokenId × F) → RoutedReply F}

theorem seamlessOutcome_iff {sp : SamplingParams}
    {outcome : Types.Sample F × String × List GenerateRequest}
    (grown : promptIds <+: outcome.1.tokens) :
    SeamlessOutcome promptIds (oracle.uninterrupted sp promptIds) outcome ↔
      Seamless sp (oracle.uninterrupted sp promptIds)
        (turnRecord promptIds outcome.1 outcome.2.1) outcome.2.2 := by
  rcases grown with ⟨suffix, sameTokens⟩
  have outputIds : (turnRecord promptIds outcome.1 outcome.2.1).outputIds = suffix := by
    dsimp only [turnRecord]
    rw [← sameTokens, List.drop_left']
    rfl
  constructor
  · intro seamless
    have isSuffix : suffix = (oracle.uninterrupted sp promptIds).1.map Prod.fst :=
      List.append_cancel_left (sameTokens.trans seamless.tokens)
    refine ⟨⟨outputIds.trans isSuffix, seamless.logProbs, seamless.finish⟩, ?_,
      seamless.requests⟩
    rw [outputIds, isSuffix, List.length_map]
    exact complete_length_le _ _ _
  · intro seamless
    refine ⟨?_, seamless.yields.outputLogProbs, seamless.yields.finishReason,
      seamless.requests⟩
    rw [← sameTokens, ← outputIds, seamless.yields.outputIds]

theorem uninterrupted_of_exhausted {sp : SamplingParams} (exhausted : sp.maxNewTokens ≤ 0) :
    oracle.uninterrupted sp promptIds = ([], .limit) := by
  rw [TokenOracle.uninterrupted, Int.toNat_of_nonpos exhausted, complete, run]
  rfl

theorem uninterrupted_nonempty {sp : SamplingParams} (within : 0 < sp.maxNewTokens) :
    0 < (oracle.uninterrupted sp promptIds).1.length := by
  have positive : sp.maxNewTokens.toNat = sp.maxNewTokens.toNat - 1 + 1 := by omega
  rw [TokenOracle.uninterrupted, positive]
  exact complete_nonempty _ _ _

theorem clampedParams_of_context_full
    (full : (remainingContext args session promptIds).any (· ≤ 0) = true) :
    (clampedParams args session body promptIds).maxNewTokens ≤ 0 := by
  rw [Option.any_eq_true] at full
  rcases full with ⟨remaining, isRemaining, noneLeft⟩
  rw [clampedParams, isRemaining]
  simp only [Option.map_some, Option.getD_some]
  have noContext : remaining ≤ 0 := by simpa using noneLeft
  exact Int.le_trans (Int.min_le_right _ _) noContext

theorem seamless_empty {sp : SamplingParams} (exhausted : sp.maxNewTokens ≤ 0)
    {turn : TurnRecord F} (outputIds : turn.outputIds = [])
    (outputLogProbs : turn.outputLogProbs = []) (finish : turn.finishReason = "length") :
    Seamless sp (oracle.uninterrupted sp promptIds) turn [] := by
  rw [uninterrupted_of_exhausted exhausted]
  exact ⟨⟨outputIds, outputLogProbs, finish⟩, by simp [outputIds], by simp⟩

/-- A call whose only request is not interrupted returns the uninterrupted turn. -/
theorem callVllmGenerate_uninterrupted [SamplerValue F] (isPartial : args.partialRollout = true)
    {turn : TurnRecord F} {requests : List GenerateRequest}
    (returns : callVllmGenerate args session body promptIds
      [oracleReply oracle annotate none] = .ok (some (turn, requests))) :
    Yields (oracle.uninterrupted (clampedParams args session body promptIds) promptIds)
      turn := by
  rw [callVllmGenerate] at returns
  split at returns
  · rename_i full
    simp only [Except.ok.injEq, Option.some.injEq, Prod.mk.injEq] at returns
    rcases returns with ⟨rfl, rfl⟩
    exact (seamless_empty (clampedParams_of_context_full full) rfl rfl rfl).yields
  · rcases map_eq_ok.mp returns with ⟨outcome, loopEq, turnEq⟩
    cases outcome with
    | none => simp at turnEq
    | some outcome =>
        simp only [Option.map_some, Option.some.injEq, Prod.mk.injEq] at turnEq
        rcases turnEq with ⟨rfl, rfl⟩
        by_cases within : (0 : Int) < (clampedParams args session body promptIds).maxNewTokens
        · have single : generateLoop args (clampedParams args session body promptIds) "length"
              ([none].map (oracleReply oracle annotate)) { tokens := promptIds } =
                .ok (some outcome) := loopEq
          rcases generateLoop_cons isPartial within single with
            ⟨request, captured', _, _, more, step⟩
          have emittedEq : oracle.source.run
              ((clampedParams args session body promptIds).minNewTokens.getD 0).toNat
              ((clampedParams args session body promptIds).maxNewTokens - (0 : Nat)).toNat 0
              promptIds none =
            oracle.uninterrupted (clampedParams args session body promptIds) promptIds := by
            rw [Int.natCast_zero, Int.sub_zero]
            rfl
          have notInterrupted := uninterrupted_end oracle
            (clampedParams args session body promptIds) promptIds
          dsimp only at more step
          rw [emittedEq] at more step
          rcases step with finished | exhausted | continued
          · rw [finished.2]
            refine ⟨?_, more.logProbs, rfl⟩
            dsimp only [turnRecord]
            rw [more.tokens]
            exact List.drop_left' rfl
          · exact absurd exhausted.1 notInterrupted
          · exact absurd continued.1 notInterrupted
        · rw [generateLoop_of_exhausted (Int.not_lt.mp within)] at loopEq
          simp only [Except.ok.injEq, Option.some.injEq] at loopEq
          subst loopEq
          exact (seamless_empty (Int.not_lt.mp within) (by simp [turnRecord]) rfl rfl).yields

variable (oracle annotate) in
/-- A call that is never interrupted returns the uninterrupted turn, and what an
interrupted call returns is that turn exactly if each of its requests could be
resumed. -/
theorem callVllmGenerate_seamless_iff [SamplerValue F] (isPartial : args.partialRollout = true)
    (interrupts : List (Option Nat)) (turn : TurnRecord F)
    (requests : List GenerateRequest)
    (returns : callVllmGenerate args session body promptIds
      (interrupts.map (oracleReply oracle annotate)) = .ok (some (turn, requests))) :
    let sp := clampedParams args session body promptIds
    (∀ other sent, callVllmGenerate args session body promptIds
        [oracleReply oracle annotate none] = .ok (some (other, sent)) →
      Yields (oracle.uninterrupted sp promptIds) other) ∧
    (Seamless sp (oracle.uninterrupted sp promptIds) turn requests ↔
      resumable (sp.minNewTokens.getD 0) sp.maxNewTokens.toNat
        (oracle.uninterrupted sp promptIds) interrupts 0 = true) := by
  intro sp
  refine ⟨fun other sent => callVllmGenerate_uninterrupted isPartial, ?_⟩
  rw [callVllmGenerate] at returns
  split at returns
  · rename_i full
    simp only [Except.ok.injEq, Option.some.injEq, Prod.mk.injEq] at returns
    rcases returns with ⟨rfl, rfl⟩
    have exhausted : sp.maxNewTokens ≤ 0 := clampedParams_of_context_full full
    rw [resumable_of_exhausted (by omega)]
    simp only [iff_true]
    exact seamless_empty exhausted rfl rfl rfl
  · rcases map_eq_ok.mp returns with ⟨outcome, loopEq, turnEq⟩
    cases outcome with
    | none => simp at turnEq
    | some outcome =>
        simp only [Option.map_some, Option.some.injEq, Prod.mk.injEq] at turnEq
        rcases turnEq with ⟨rfl, rfl⟩
        by_cases within : (0 : Int) < sp.maxNewTokens
        · have synced : Synced promptIds (oracle.uninterrupted sp promptIds)
              { tokens := promptIds } 0 := by
            exact ⟨by simp, rfl, rfl, .inl (uninterrupted_nonempty within)⟩
          have grown := generateLoop_prefix isPartial loopEq
          rw [← seamlessOutcome_iff grown]
          exact generateLoop_seamless_iff isPartial synced within loopEq
        · rw [generateLoop_of_exhausted (Int.not_lt.mp within)] at loopEq
          simp only [Except.ok.injEq, Option.some.injEq] at loopEq
          subst loopEq
          rw [resumable_of_exhausted (by omega)]
          simp only [iff_true]
          exact seamless_empty (Int.not_lt.mp within) (by simp [turnRecord]) rfl rfl

end Turn

/-! ## A concrete server -/

def countingOracle : TokenOracle Types.Hundredths where
  next := fun tokens => if tokens.length < 3 then (7, ⟨-1⟩) else (0, ⟨-2⟩)
  unstopped := fun _ => (8, ⟨-3⟩)
  stopToken := 0
  unstopped_ne := fun _ => by decide

def plainReply (_ : GenerateRequest) (_ : List (TokenId × Types.Hundredths)) :
    RoutedReply Types.Hundredths where
  choices := []

def partialArgs : RolloutArgs where
  partialRollout := true
  numLayers := 1
  moeRouterTopk := 1

/-- An interruption after two of at least two tokens: the continuation suppresses
the stop token that the uninterrupted turn ends with. -/
theorem countingOracle_resuppressed :
    let session : AdapterSession := { samplingDefaults := { minNewTokens := some 2 } }
    let body : AgentBody := { maxTokens := [some 4] }
    ∃ turn requests,
      callVllmGenerate partialArgs session body [5]
        ([some 2, none].map (oracleReply countingOracle plainReply)) =
          .ok (some (turn, requests)) ∧
      ¬ Seamless (clampedParams partialArgs session body [5])
        (countingOracle.uninterrupted (clampedParams partialArgs session body [5]) [5])
        turn requests := by
  refine ⟨_, _, rfl, ?_⟩
  intro seamless
  have outputIds := seamless.yields.outputIds
  revert outputIds
  decide

/-- With a minimum of one token, interruptions before the first token and after it
are invisible. -/
theorem countingOracle_resumed :
    let session : AdapterSession := { samplingDefaults := { minNewTokens := some 1 } }
    let body : AgentBody := { maxTokens := [some 4] }
    ∃ turn requests,
      callVllmGenerate partialArgs session body [5]
        ([some 0, some 1, none].map (oracleReply countingOracle plainReply)) =
          .ok (some (turn, requests)) ∧
      Seamless (clampedParams partialArgs session body [5])
        (countingOracle.uninterrupted (clampedParams partialArgs session body [5]) [5])
        turn requests := by
  refine ⟨_, _, rfl, ?_⟩
  exact (callVllmGenerate_seamless_iff countingOracle plainReply rfl [some 0, some 1, none] _ _
    rfl).2.mpr (by decide)

end Vime.Agent
