import Vime.Foundation.Python
import Vime.Rollout.BaseTypes

/-! # Retried groups

A group whose generation is interrupted is generated again from what
`prepare_retry_group` keeps: `generate_and_rm` and `generate_and_rm_group` of
`vime/rollout/vllm_rollout.py` without `group_rm`, and the retries of their
callers. A finished slot keeps its result as long as every retained fan-out has
only finished segments and masking does not apply to finished responses.
-/

namespace Vime.Rollout.Retry

open Vime.Foundation Vime.Utils

variable {F Reward : Type}

/-! ## Groups -/

structure RolloutArgs where
  partialRollout : Bool
  maskOffpolicyInPartialRollout : Bool

structure Sample (F Reward : Type) where
  status : Status
  tokens : List TokenId
  responseLength : Nat
  lossMask : Option (List Int)
  rolloutLogProbs : Option (List F)
  reward : Option Reward
  sessionId : Option String
  weightVersions : List String
  deriving DecidableEq, Repr

/-- A slot of a group: one sample, or the segments of a fan-out. -/
inductive Slot (F Reward : Type) where
  | sample (sample : Sample F Reward)
  | segments (samples : List (Sample F Reward))
  deriving DecidableEq, Repr

def Slot.samples : Slot F Reward → List (Sample F Reward)
  | .sample single => [single]
  | .segments samples => samples

/-- `status in (COMPLETED, TRUNCATED)`. -/
def Sample.ended (sample : Sample F Reward) : Bool :=
  sample.status = .completed ∨ sample.status = .truncated

def Sample.finished (sample : Sample F Reward) : Bool :=
  sample.ended && sample.reward.isSome

instance : GroupSlot (Sample F Reward) where
  isList _ := false
  statuses sample := [sample.status]

instance : GroupSlot (Slot F Reward) where
  isList
    | .sample _ => false
    | .segments _ => true
  statuses slot := slot.samples.map Sample.status

/-! ## Generation -/

/-- What happens to one slot that is generated: the rollout is aborted before the generator
starts, or the generator returns, and the reward model gives rewards. -/
inductive Generation (F Reward : Type) where
  | aborted
  | sample (sample : Sample F Reward) (reward : Reward)
  | segments (samples : List (Sample F Reward)) (rewards : List Reward)

def fillRewards : List (Sample F Reward) → List Reward → List (Sample F Reward)
  | [], _ => []
  | sample :: rest, rewards =>
      match sample.reward, rewards with
      | none, reward :: later => { sample with reward := some reward } :: fillRewards rest later
      | _, _ => sample :: fillRewards rest rewards

def maskPrevious (args : RolloutArgs) (sample : Sample F Reward) : Sample F Reward :=
  if args.partialRollout = true ∧ args.maskOffpolicyInPartialRollout = true ∧
      0 < sample.responseLength then
    { sample with lossMask := some (List.replicate sample.responseLength 0) }
  else sample

structure SlotResult (F Reward : Type) where
  slot : Slot F Reward
  generated : Bool
  deriving DecidableEq, Repr

def generateAndRm (args : RolloutArgs) (generation : Generation F Reward)
    (sample : Sample F Reward) : Except PyException (SlotResult F Reward) :=
  let sample := maskPrevious args sample
  if sample.ended then do
    raiseIf (sample.reward.isNone = true) (.assertionError "sample.reward is not None")
    pure ⟨.sample sample, false⟩
  else
    match generation with
    | .aborted => .ok ⟨.sample { sample with status := .aborted }, false⟩
    | .sample result reward =>
        if result.status = .aborted then
          .ok ⟨.sample result, true⟩
        else
          .ok ⟨.sample { result with reward := some (result.reward.getD reward) }, true⟩
    | .segments results rewards =>
        if results.any fun result => result.status = .aborted then
          .ok ⟨.segments results, true⟩
        else
          .ok ⟨.segments (fillRewards results rewards), true⟩

/-- One attempt: whether the rollout is aborted already, and for each slot its new session id
and its generation. -/
structure Attempt (F Reward : Type) where
  stateAborted : Bool := false
  sessions : Nat → String
  generations : Nat → Generation F Reward

def retryCheckError : PyException :=
  .valueError "Only completed segmented trajectories can be retained in a retry group"

def checkSlot : Slot F Reward → Except PyException Unit
  | .sample _ => .ok ()
  | .segments samples =>
      raiseIf (samples = [] ∨ ∃ segment ∈ samples, segment.finished = false) retryCheckError

def generateSlot (args : RolloutArgs) (attempt : Attempt F Reward) (index : Nat) :
    Slot F Reward → Except PyException (SlotResult F Reward)
  | .segments samples => .ok ⟨.segments samples, false⟩
  | .sample sample => generateAndRm args (attempt.generations index)
      { sample with sessionId := some (sample.sessionId.getD (attempt.sessions index)) }

def generateAndRmGroup (args : RolloutArgs) (attempt : Attempt F Reward)
    (group : List (Slot F Reward)) : Except PyException (List (SlotResult F Reward)) :=
  if attempt.stateAborted then
    .ok (group.map fun slot => ⟨slot, false⟩)
  else do
    group.forM checkSlot
    group.zipIdx.mapM fun (slot, index) => generateSlot args attempt index slot

/-! ## Retries -/

structure Entry (F Reward : Type) where
  attempt : Attempt F Reward
  inputs : List (Slot F Reward)
  outcome : Except PyException (List (SlotResult F Reward))

/-- The attempts on one group: an interrupted one is followed by the next on the retried
group, any other is the last. -/
def attempts (args : RolloutArgs) (inputs : List (Slot F Reward)) :
    List (Attempt F Reward) → List (Entry F Reward)
  | [] => []
  | attempt :: rest =>
      let outcome := generateAndRmGroup args attempt inputs
      ⟨attempt, inputs, outcome⟩ ::
        match outcome with
        | .error _ => []
        | .ok results =>
            -- A group is delivered unless some of its samples is interrupted.
            if interrupted (results.map SlotResult.slot) then
              match prepareRetryGroup inputs (results.map SlotResult.slot) with
              | .error _ => []
              | .ok next => attempts args next rest
            else []

/-! ## The invariant -/

/-- A sample that a retry does not change if it is finished: it has a session, and its mask is
the one that the retry gives it. -/
def Sample.Stable (args : RolloutArgs) (sample : Sample F Reward) : Prop :=
  sample.sessionId ≠ none ∧ maskPrevious args sample = sample

def Slot.Retained (args : RolloutArgs) : Slot F Reward → Prop
  | .sample single => single.finished = true → single.Stable args
  | .segments samples => samples ≠ [] ∧ ∀ segment ∈ samples, segment.finished = true

/-- A generation whose result can be retained: a finished sample is stable, and a fan-out that
is not interrupted has segments, all of them ended, with a reward for each. -/
def Generation.Retainable (args : RolloutArgs) : Generation F Reward → Prop
  | .aborted => True
  | .sample result _ => result.ended = true → result.Stable args
  | .segments results rewards => interrupted results = true ∨
      (results ≠ [] ∧ (∀ segment ∈ results, segment.ended = true) ∧
        (results.filter fun segment => segment.reward.isNone).length ≤ rewards.length)

def Attempt.Generates (attempt : Attempt F Reward) (slot : Slot F Reward) : Prop :=
  attempt.stateAborted = false ∧ ∃ sample, slot = .sample sample ∧ sample.ended = false

def Attempt.Retainable (args : RolloutArgs) (attempt : Attempt F Reward)
    (inputs : List (Slot F Reward)) : Prop :=
  ∀ index slot, inputs[index]? = some slot → attempt.Generates slot →
    (attempt.generations index).Retainable args

section Slots

variable {args : RolloutArgs} {attempt : Attempt F Reward}

theorem interrupted_samples (samples : List (Sample F Reward)) :
    interrupted samples =
      samples.any fun sample => sample.status = .aborted ∨ sample.status = .pending := by
  simp [interrupted, GroupSlot.statuses]

theorem interrupted_segments (samples : List (Sample F Reward)) :
    interrupted [Slot.segments samples] = interrupted samples := by
  simp [interrupted, GroupSlot.statuses, Slot.samples, Function.comp_def]

theorem retrySlot_segments (original : Slot F Reward) (samples : List (Sample F Reward)) :
    retrySlot original (.segments samples) =
      if interrupted samples then original else .segments samples := by
  rw [retrySlot, interrupted_segments]
  rfl

def Slot.Finished (slot : Slot F Reward) : Prop :=
  ∀ sample ∈ slot.samples, sample.finished = true

theorem finished_not_interrupted {samples : List (Sample F Reward)}
    (finished : ∀ sample ∈ samples, sample.finished = true) : interrupted samples = false := by
  rw [interrupted_samples, List.any_eq_false]
  intro sample member
  have isFinished := finished sample member
  rw [Sample.finished, Bool.and_eq_true, Sample.ended, decide_eq_true_eq] at isFinished
  rw [decide_eq_true_eq]
  rcases isFinished.1 with completed | truncated
  · simp [completed]
  · simp [truncated]

theorem retrySlot_finished {result : Slot F Reward} (finished : result.Finished)
    (original : Slot F Reward) : retrySlot original result = result := by
  cases result with
  | sample single => rfl
  | segments samples =>
      have kept : interrupted samples = false := finished_not_interrupted finished
      rw [retrySlot_segments, kept]
      rfl

theorem maskPrevious_fields (args : RolloutArgs) (sample : Sample F Reward) :
    (maskPrevious args sample).status = sample.status ∧
      (maskPrevious args sample).reward = sample.reward ∧
      (maskPrevious args sample).sessionId = sample.sessionId := by
  rw [maskPrevious]
  split
  · exact ⟨rfl, rfl, rfl⟩
  · exact ⟨rfl, rfl, rfl⟩

theorem maskPrevious_reward (args : RolloutArgs) (sample : Sample F Reward)
    (reward : Option Reward) :
    maskPrevious args { sample with reward := reward } =
      { maskPrevious args sample with reward := reward } := by
  rw [maskPrevious, maskPrevious]
  dsimp only
  split
  · rfl
  · rfl

theorem maskPrevious_idem (args : RolloutArgs) (sample : Sample F Reward) :
    maskPrevious args (maskPrevious args sample) = maskPrevious args sample := by
  by_cases masks : args.partialRollout = true ∧ args.maskOffpolicyInPartialRollout = true ∧
      0 < sample.responseLength
  · have masked : maskPrevious args sample =
        { sample with lossMask := some (List.replicate sample.responseLength 0) } := if_pos masks
    rw [masked]
    exact if_pos masks
  · have same : maskPrevious args sample = sample := if_neg masks
    rw [same, same]

/-- A finished slot is returned as it is, and its generator does not run. -/
theorem generateSlot_finished {slot : Slot F Reward} (retained : slot.Retained args)
    (finished : slot.Finished) (index : Nat) :
    generateSlot args attempt index slot = .ok ⟨slot, false⟩ := by
  cases slot with
  | segments samples => rfl
  | sample single =>
      have isFinished := finished single (List.mem_singleton_self single)
      rcases retained isFinished with ⟨session, unmasked⟩
      rw [Sample.finished, Bool.and_eq_true] at isFinished
      have sameSession : { single with
          sessionId := some (single.sessionId.getD (attempt.sessions index)) } = single := by
        cases isSession : single.sessionId with
        | none => exact absurd isSession session
        | some session =>
            rw [Option.getD_some, ← isSession]
      have rewarded : ¬ single.reward.isNone = true := by
        rw [Bool.not_eq_true, Option.isNone_eq_false_iff]
        exact isFinished.2
      rw [generateSlot, sameSession, generateAndRm.eq_def]
      dsimp only
      rw [unmasked, if_pos isFinished.1,
        raiseIf_eq_ok.mpr rewarded]
      rfl

/-! ## Rewards -/

theorem fillRewards_status :
    ∀ (samples : List (Sample F Reward)) (rewards : List Reward),
      (fillRewards samples rewards).map Sample.status = samples.map Sample.status
  | [], _ => rfl
  | sample :: rest, rewards => by
      rw [fillRewards.eq_def]
      dsimp only
      split
      · rw [List.map_cons, List.map_cons, fillRewards_status rest]
      · rw [List.map_cons, List.map_cons, fillRewards_status rest]

theorem interrupted_eq_map (samples : List (Sample F Reward)) :
    interrupted samples =
      (samples.map Sample.status).any fun status => status = .aborted ∨ status = .pending := by
  rw [interrupted_samples, List.any_map]
  rfl

theorem fillRewards_interrupted (samples : List (Sample F Reward)) (rewards : List Reward) :
    interrupted (fillRewards samples rewards) = interrupted samples := by
  rw [interrupted_eq_map, interrupted_eq_map, fillRewards_status]

theorem fillRewards_isSome :
    ∀ {samples : List (Sample F Reward)} {rewards : List Reward},
      (samples.filter fun sample => sample.reward.isNone).length ≤ rewards.length →
      ∀ sample ∈ fillRewards samples rewards, sample.reward.isSome = true
  | [], _, _, _, member => nomatch member
  | sample :: rest, rewards, enough, other, member => by
      rw [fillRewards.eq_def] at member
      cases isReward : sample.reward with
      | some held =>
          rw [List.filter_cons_of_neg (by simp [isReward])] at enough
          simp only [isReward] at member
          rcases List.mem_cons.mp member with rfl | later
          · simp [isReward]
          · exact fillRewards_isSome enough other later
      | none =>
          rw [List.filter_cons_of_pos (by simp [isReward]), List.length_cons] at enough
          cases rewards with
          | nil => simp at enough
          | cons reward later =>
              simp only [isReward] at member
              rcases List.mem_cons.mp member with rfl | inRest
              · rfl
              · exact fillRewards_isSome (Nat.le_of_succ_le_succ enough) other inRest

/-! ## One slot -/

/-- What an attempt makes of an acceptable slot is an acceptable slot of the next one. -/
theorem generateSlot_retained {slot : Slot F Reward} {index : Nat} {result : SlotResult F Reward}
    (retained : slot.Retained args)
    (retainable : ∀ sample, slot = .sample sample → sample.ended = false →
      (attempt.generations index).Retainable args)
    (returned : generateSlot args attempt index slot = .ok result) :
    (retrySlot slot result.slot).Retained args := by
  cases slot with
  | segments samples =>
      rw [← Except.ok.inj returned]
      dsimp only
      have finished : (Slot.segments samples).Finished := retained.2
      rw [retrySlot_finished finished]
      exact retained
  | sample single =>
      rw [generateSlot, generateAndRm.eq_def] at returned
      dsimp only at returned
      generalize isGiven : { single with
        sessionId := some (single.sessionId.getD (attempt.sessions index)) } = given at returned
      have session : given.sessionId ≠ none := by
        rw [← isGiven]
        exact nofun
      have sameStatus : (maskPrevious args given).status = single.status := by
        rw [(maskPrevious_fields args given).1, ← isGiven]
      split at returned
      · rcases check_bind_eq_ok.mp returned with ⟨_, same⟩
        rw [← Except.ok.inj same]
        intro _
        refine ⟨?_, maskPrevious_idem args given⟩
        rw [(maskPrevious_fields args given).2.2]
        exact session
      · rename_i unfinished
        rw [Sample.ended, sameStatus] at unfinished
        have retainable := retainable single rfl (Bool.eq_false_iff.mpr unfinished)
        cases isGeneration : attempt.generations index with
        | aborted =>
            rw [isGeneration] at returned
            rw [← Except.ok.inj returned]
            intro finished
            cases finished
        | sample generated reward =>
            rw [isGeneration] at returned retainable
            dsimp only at returned
            split at returned
            · rename_i isAborted
              rw [← Except.ok.inj returned]
              intro finished
              rw [Sample.finished, Sample.ended, isAborted] at finished
              cases finished
            · rw [← Except.ok.inj returned]
              intro finished
              rw [Sample.finished, Bool.and_eq_true] at finished
              rcases retainable finished.1 with ⟨hasSession, unmasked⟩
              refine ⟨hasSession, ?_⟩
              rw [maskPrevious_reward, unmasked]
        | segments generated rewards =>
            rw [isGeneration] at returned retainable
            dsimp only at returned
            rcases retainable with isInterrupted | ⟨nonempty, ended, enough⟩
            · have restarts : retrySlot (.sample single) result.slot = .sample single := by
                split at returned
                · rw [← Except.ok.inj returned, retrySlot_segments, if_pos isInterrupted]
                · rw [← Except.ok.inj returned, retrySlot_segments, fillRewards_interrupted,
                    if_pos isInterrupted]
              rw [restarts]
              exact retained
            · have finished : ∀ segment ∈ fillRewards generated rewards,
                  segment.finished = true := by
                intro segment member
                have rewarded := fillRewards_isSome enough segment member
                have status := List.mem_map_of_mem (f := Sample.status) member
                rw [fillRewards_status, List.mem_map] at status
                rcases status with ⟨other, isOther, sameStatus⟩
                have otherEnded := ended other isOther
                rw [Sample.ended, sameStatus] at otherEnded
                rw [Sample.finished, Bool.and_eq_true, Sample.ended]
                exact ⟨otherEnded, rewarded⟩
              have notAborted : ¬ (generated.any fun segment =>
                  decide (segment.status = .aborted)) = true := by
                intro someAborted
                rcases List.any_eq_true.mp someAborted with ⟨segment, member, isAborted⟩
                rw [decide_eq_true_eq] at isAborted
                have segmentEnded := ended segment member
                rw [Sample.ended, isAborted] at segmentEnded
                cases segmentEnded
              rw [if_neg notAborted] at returned
              rw [← Except.ok.inj returned]
              have isFinished : (Slot.segments (fillRewards generated rewards)).Finished :=
                finished
              rw [retrySlot_finished isFinished]
              refine ⟨?_, finished⟩
              intro empty
              have length := congrArg List.length (fillRewards_status generated rewards)
              rw [empty, List.length_map, List.length_map] at length
              exact nonempty (List.length_eq_zero_iff.mp length.symm)

/-! ## One attempt -/

def SlotOutcome (args : RolloutArgs) (attempt : Attempt F Reward) (index : Nat)
    (slot : Slot F Reward) (result : SlotResult F Reward) : Prop :=
  attempt.stateAborted = true ∧ result = ⟨slot, false⟩ ∨
    attempt.stateAborted = false ∧ generateSlot args attempt index slot = .ok result

theorem generateAndRmGroup_outcomes {group : List (Slot F Reward)}
    {results : List (SlotResult F Reward)}
    (returned : generateAndRmGroup args attempt group = .ok results) :
    results.length = group.length ∧ ∀ index slot, group[index]? = some slot →
      ∃ result, results[index]? = some result ∧ SlotOutcome args attempt index slot result := by
  rw [generateAndRmGroup] at returned
  split at returned
  · rename_i aborted
    rw [← Except.ok.inj returned]
    refine ⟨List.length_map _, ?_⟩
    intro index slot isSlot
    exact ⟨⟨slot, false⟩, by rw [List.getElem?_map, isSlot]; rfl, .inl ⟨aborted, rfl⟩⟩
  · rename_i running
    rw [Bool.not_eq_true] at running
    rcases check_bind_eq_ok.mp returned with ⟨_, generated⟩
    rw [mapM_eq_ok, List.forall₂_iff_get] at generated
    rcases generated with ⟨sameLength, each⟩
    rw [List.length_zipIdx] at sameLength
    refine ⟨sameLength.symm, ?_⟩
    intro index slot isSlot
    rcases List.getElem?_eq_some_iff.mp isSlot with ⟨inside, isAt⟩
    have outcome := each index (by rw [List.length_zipIdx]; exact inside) (sameLength ▸ inside)
    simp only [List.get_eq_getElem, List.getElem_zipIdx, Nat.zero_add, isAt] at outcome
    exact ⟨_, List.getElem?_eq_getElem (sameLength ▸ inside), .inr ⟨running, outcome⟩⟩

/-- The retry checks accept a group of acceptable slots. -/
theorem generateAndRmGroup_accepts {group : List (Slot F Reward)}
    (retained : attempt.stateAborted = false → ∀ slot ∈ group, slot.Retained args) :
    generateAndRmGroup args attempt group ≠ .error retryCheckError := by
  rw [generateAndRmGroup]
  split
  · exact nofun
  · rename_i running
    have retained := retained (Bool.eq_false_iff.mpr running)
    have checked : group.forM checkSlot = .ok () := by
      rw [forM_eq_ok]
      intro slot member
      cases slot with
      | sample single => rfl
      | segments samples =>
          rcases retained _ member with ⟨nonempty, finished⟩
          refine raiseIf_eq_ok.mpr ?_
          rintro (empty | ⟨segment, isSegment, unfinished⟩)
          · exact nonempty empty
          · rw [finished segment isSegment] at unfinished
            cases unfinished
    rw [checked, ok_bind]
    intro failed
    rcases mapM_failure failed with ⟨⟨slot, index⟩, _, raised⟩
    cases slot with
    | segments samples => cases raised
    | sample single =>
        have failed : generateAndRm args (attempt.generations index) { single with
            sessionId := some (single.sessionId.getD (attempt.sessions index)) } =
              .error retryCheckError := raised
        rw [generateAndRm.eq_def] at failed
        dsimp only at failed
        split at failed
        · by_cases rewarded : (maskPrevious args { single with
              sessionId := some (single.sessionId.getD (attempt.sessions index)) }).reward.isNone =
                true
          · rw [raiseIf, if_pos rewarded] at failed
            cases failed
          · rw [raiseIf, if_neg rewarded] at failed
            cases failed
        · split at failed
          · cases failed
          · split at failed
            · cases failed
            · cases failed
          · split at failed
            · cases failed
            · cases failed

theorem prepareRetryGroup_slots {group next : List (Slot F Reward)}
    {results : List (SlotResult F Reward)}
    (returned : generateAndRmGroup args attempt group = .ok results)
    (isNext : prepareRetryGroup group (results.map SlotResult.slot) = .ok next) :
    next.length = group.length ∧
      ∀ (index : Nat) (slot : Slot F Reward) (result : SlotResult F Reward),
        group[index]? = some slot → results[index]? = some result →
          next[index]? = some (retrySlot slot result.slot) := by
  rcases generateAndRmGroup_outcomes returned with ⟨sameLength, _⟩
  rw [prepareRetryGroup, if_pos (by rw [List.length_map, sameLength])] at isNext
  have isZip := Except.ok.inj isNext
  constructor
  · rw [← isZip, retryGroup, List.length_zipWith, List.length_map, sameLength, Nat.min_self]
  · intro index slot result isSlot isResult
    rw [← isZip, retryGroup, List.getElem?_zipWith, isSlot, List.getElem?_map, isResult]
    rfl

theorem prepareRetryGroup_retained {group next : List (Slot F Reward)}
    {results : List (SlotResult F Reward)} (retained : ∀ slot ∈ group, slot.Retained args)
    (retainable : attempt.Retainable args group)
    (returned : generateAndRmGroup args attempt group = .ok results)
    (isNext : prepareRetryGroup group (results.map SlotResult.slot) = .ok next) :
    ∀ slot ∈ next, slot.Retained args := by
  rcases generateAndRmGroup_outcomes returned with ⟨_, outcomes⟩
  rcases prepareRetryGroup_slots returned isNext with ⟨length, at_⟩
  intro slot member
  rcases List.mem_iff_getElem?.mp member with ⟨index, isNextSlot⟩
  have inside := (List.getElem?_eq_some_iff.mp isNextSlot).1
  rw [length] at inside
  have isSlot := List.getElem?_eq_getElem inside
  rcases outcomes index _ isSlot with ⟨result, isResult, outcome⟩
  rw [at_ index _ result isSlot isResult, Option.some.injEq] at isNextSlot
  rw [← isNextSlot]
  have slotRetained := retained _ (List.getElem_mem inside)
  rcases outcome with ⟨_, same⟩ | ⟨running, generated⟩
  · rw [same]
    dsimp only
    cases isKind : group[index] with
    | sample single =>
        rw [isKind] at slotRetained
        exact slotRetained
    | segments samples =>
        rw [isKind] at slotRetained
        have finished : (Slot.segments samples).Finished := slotRetained.2
        rw [retrySlot_finished finished]
        exact slotRetained
  · apply generateSlot_retained slotRetained _ generated
    intro sample isSample unended
    exact retainable index _ isSlot ⟨running, sample, isSample, unended⟩

end Slots

/-! ## All attempts -/

section Runs

variable {args : RolloutArgs}

theorem attempts_cons (inputs : List (Slot F Reward)) (attempt : Attempt F Reward)
    (rest : List (Attempt F Reward)) :
    ∃ later, attempts args inputs (attempt :: rest) =
        ⟨attempt, inputs, generateAndRmGroup args attempt inputs⟩ :: later ∧
      (later = [] ∨ ∃ results next, generateAndRmGroup args attempt inputs = .ok results ∧
        prepareRetryGroup inputs (results.map SlotResult.slot) = .ok next ∧
        later = attempts args next rest) := by
  rw [attempts]
  refine ⟨_, rfl, ?_⟩
  cases outcome : generateAndRmGroup args attempt inputs with
  | error exception => exact .inl rfl
  | ok results =>
      dsimp only
      split
      · cases prepared : prepareRetryGroup inputs (results.map SlotResult.slot) with
        | error exception => exact .inl rfl
        | ok next => exact .inr ⟨results, next, rfl, prepared, rfl⟩
      · exact .inl rfl

/-- A run in which attempts start from acceptable inputs, and every attempt after which one
starts generates only what can be retained. -/
structure RetainableRun (args : RolloutArgs) (inputs : List (Slot F Reward))
    (entries : List (Entry F Reward)) : Prop where
  inputs : ∀ entry ∈ entries, entry.attempt.stateAborted = false →
    ∀ slot ∈ inputs, slot.Retained args
  generations : entries.Pairwise fun earlier later =>
    later.attempt.stateAborted = false → earlier.attempt.Retainable args earlier.inputs

theorem RetainableRun.tail {inputs next : List (Slot F Reward)} {attempt : Attempt F Reward}
    {results : List (SlotResult F Reward)} {later : List (Entry F Reward)}
    (retainable : RetainableRun args inputs
      (⟨attempt, inputs, generateAndRmGroup args attempt inputs⟩ :: later))
    (returned : generateAndRmGroup args attempt inputs = .ok results)
    (prepared : prepareRetryGroup inputs (results.map SlotResult.slot) = .ok next) :
    RetainableRun args next later := by
  have generations := List.pairwise_cons.mp retainable.generations
  constructor
  · intro entry member starts
    exact prepareRetryGroup_retained
      (retainable.inputs entry (List.mem_cons_of_mem _ member) starts)
      (generations.1 entry member starts) returned prepared
  · exact generations.2

/-- Every attempt starts from as many slots, acceptable ones unless it is aborted. -/
theorem attempts_inputs :
    ∀ {runs : List (Attempt F Reward)} {inputs : List (Slot F Reward)},
      RetainableRun args inputs (attempts args inputs runs) →
      ∀ entry ∈ attempts args inputs runs,
        entry.inputs.length = inputs.length ∧
          (entry.attempt.stateAborted = false → ∀ slot ∈ entry.inputs, slot.Retained args) ∧
          entry.outcome = generateAndRmGroup args entry.attempt entry.inputs
  | [], _, _, _, member => nomatch member
  | attempt :: rest, inputs, retainable, entry, member => by
      rcases attempts_cons inputs attempt rest with ⟨later, isCons, tail⟩
      rw [isCons] at retainable member
      rcases List.mem_cons.mp member with rfl | inLater
      · exact ⟨rfl, retainable.inputs _ List.mem_cons_self, rfl⟩
      · rcases tail with rfl | ⟨results, next, returned, prepared, rfl⟩
        · cases inLater
        · have sameLength := (prepareRetryGroup_slots returned prepared).1
          rcases attempts_inputs (retainable.tail returned prepared) entry inLater with
            ⟨length, retained, isOutcome⟩
          exact ⟨length.trans sameLength, retained, isOutcome⟩

/-- A finished slot stays as it is in every attempt, and is never generated. -/
theorem attempts_finished {index : Nat} {slot : Slot F Reward} (finished : slot.Finished) :
    ∀ {runs : List (Attempt F Reward)} {inputs : List (Slot F Reward)},
      RetainableRun args inputs (attempts args inputs runs) → inputs[index]? = some slot →
      ∀ entry ∈ attempts args inputs runs, entry.inputs[index]? = some slot ∧
        ∀ results, entry.outcome = .ok results → results[index]? = some ⟨slot, false⟩
  | [], _, _, _, _, member => nomatch member
  | attempt :: rest, inputs, retainable, isSlot, entry, member => by
      rcases attempts_cons inputs attempt rest with ⟨later, isCons, tail⟩
      rw [isCons] at retainable member
      have same {results : List (SlotResult F Reward)}
          (returned : generateAndRmGroup args attempt inputs = .ok results) :
          results[index]? = some ⟨slot, false⟩ := by
        rcases (generateAndRmGroup_outcomes returned).2 index slot isSlot with
          ⟨result, isResult, ⟨_, isSame⟩ | ⟨running, generated⟩⟩
        · rw [isResult, isSame]
        · have retained := retainable.inputs _ List.mem_cons_self running slot
            (List.mem_of_getElem? isSlot)
          rw [generateSlot_finished retained finished index] at generated
          rw [isResult, ← Except.ok.inj generated]
      rcases List.mem_cons.mp member with rfl | inLater
      · exact ⟨isSlot, fun results returned => same returned⟩
      · rcases tail with rfl | ⟨results, next, returned, prepared, rfl⟩
        · cases inLater
        · have isNext := (prepareRetryGroup_slots returned prepared).2 index slot ⟨slot, false⟩
            isSlot (same returned)
          rw [retrySlot_self] at isNext
          exact attempts_finished finished (retainable.tail returned prepared) isNext entry inLater

theorem attempts_next {inputs : List (Slot F Reward)} {attempt : Attempt F Reward}
    {results : List (SlotResult F Reward)}
    {next : List (Slot F Reward)} (returned : generateAndRmGroup args attempt inputs = .ok results)
    (prepared : prepareRetryGroup inputs (results.map SlotResult.slot) = .ok next)
    {index : Nat} {samples : List (Sample F Reward)} {generated : Bool}
    (isResult : results[index]? = some ⟨.segments samples, generated⟩)
    (isInterrupted : interrupted samples = true) : next[index]? = inputs[index]? := by
  rcases prepareRetryGroup_slots returned prepared with ⟨sameLength, slots⟩
  cases isSlot : inputs[index]? with
  | none =>
      rw [List.getElem?_eq_none_iff] at isSlot ⊢
      omega
  | some slot =>
      rw [slots index slot _ isSlot isResult, retrySlot_segments, if_pos isInterrupted]

end Runs

/-- What the retries of one group promise. -/
structure KeepsFinishedWork (inputs : List (Slot F Reward)) (entries : List (Entry F Reward)) :
    Prop where
  /-- No attempt is rejected by the retry checks. -/
  accepted : ∀ entry ∈ entries, entry.outcome ≠ .error retryCheckError
  /-- Slots keep their number; they are compared by their position. -/
  slots : ∀ entry ∈ entries, entry.inputs.length = inputs.length ∧
    ∀ results, entry.outcome = .ok results → results.length = inputs.length
  /-- A slot of the group that is finished from the start is the input and the result of its slot
  in every attempt, without being generated. -/
  given : ∀ (index : Nat) (slot : Slot F Reward), inputs[index]? = some slot → slot.Finished →
    ∀ entry ∈ entries, entry.inputs[index]? = some slot ∧
      ∀ results, entry.outcome = .ok results → results[index]? = some ⟨slot, false⟩
  /-- So is a finished result in every later attempt. -/
  finished : entries.Pairwise fun earlier later =>
    ∀ results, earlier.outcome = .ok results → ∀ (index : Nat) (result : SlotResult F Reward),
      results[index]? = some result → result.slot.Finished →
        later.inputs[index]? = some result.slot ∧
          ∀ laterResults, later.outcome = .ok laterResults →
            laterResults[index]? = some ⟨result.slot, false⟩
  /-- An interrupted fan-out restarts from its input. -/
  restarts : ∀ (number : Nat) (earlier later : Entry F Reward),
    entries[number]? = some earlier → entries[number + 1]? = some later →
      ∀ results, earlier.outcome = .ok results →
        ∀ (index : Nat) (samples : List (Sample F Reward)) (generated : Bool),
          results[index]? = some ⟨.segments samples, generated⟩ →
            interrupted samples = true → later.inputs[index]? = earlier.inputs[index]?

section Kept

variable {args : RolloutArgs}

theorem attempts_pairwise :
    ∀ {runs : List (Attempt F Reward)} {inputs : List (Slot F Reward)},
      RetainableRun args inputs (attempts args inputs runs) →
      (attempts args inputs runs).Pairwise fun earlier later =>
        ∀ results, earlier.outcome = .ok results → ∀ (index : Nat) (result : SlotResult F Reward),
          results[index]? = some result → result.slot.Finished →
            later.inputs[index]? = some result.slot ∧
              ∀ laterResults, later.outcome = .ok laterResults →
                laterResults[index]? = some ⟨result.slot, false⟩
  | [], _, _ => .nil
  | attempt :: rest, inputs, retainable => by
      rcases attempts_cons inputs attempt rest with ⟨later, isCons, tail⟩
      rw [isCons] at retainable
      rw [isCons, List.pairwise_cons]
      rcases tail with rfl | ⟨results, next, returned, prepared, rfl⟩
      · exact ⟨nofun, .nil⟩
      · have retried := retainable.tail returned prepared
        refine ⟨?_, attempts_pairwise retried⟩
        intro entry member others isOutcome index result isResult finished
        dsimp only at isOutcome
        rw [returned, Except.ok.injEq] at isOutcome
        subst isOutcome
        have inside := (List.getElem?_eq_some_iff.mp isResult).1
        rw [(generateAndRmGroup_outcomes returned).1] at inside
        have isNext := (prepareRetryGroup_slots returned prepared).2 index _ result
          (List.getElem?_eq_getElem inside) isResult
        rw [retrySlot_finished finished] at isNext
        exact attempts_finished finished retried isNext entry member

theorem attempts_restarts :
    ∀ {runs : List (Attempt F Reward)} {inputs : List (Slot F Reward)} (number : Nat)
      (earlier later : Entry F Reward), (attempts args inputs runs)[number]? = some earlier →
      (attempts args inputs runs)[number + 1]? = some later →
        ∀ results, earlier.outcome = .ok results →
          ∀ (index : Nat) (samples : List (Sample F Reward)) (generated : Bool),
            results[index]? = some ⟨.segments samples, generated⟩ →
              interrupted samples = true → later.inputs[index]? = earlier.inputs[index]?
  | [], _, number, _, _, isEarlier, _ => by
      rw [attempts, List.getElem?_nil] at isEarlier
      cases isEarlier
  | attempt :: rest, inputs, number, earlier, later, isEarlier, isLater => by
      rcases attempts_cons inputs attempt rest with ⟨tail, isCons, isTail⟩
      rw [isCons] at isEarlier isLater
      rw [List.getElem?_cons_succ] at isLater
      rcases isTail with rfl | ⟨results, next, returned, prepared, rfl⟩
      · cases isLater
      · cases number with
        | succ number =>
            rw [List.getElem?_cons_succ] at isEarlier
            exact attempts_restarts number earlier later isEarlier isLater
        | zero =>
            rw [List.getElem?_cons_zero, Option.some.injEq] at isEarlier
            subst isEarlier
            intro others isOutcome index samples generated isResult isInterrupted
            dsimp only at isOutcome ⊢
            rw [returned, Except.ok.injEq] at isOutcome
            subst isOutcome
            have isInputs : later.inputs = next := by
              cases rest with
              | nil =>
                  rw [attempts, List.getElem?_nil] at isLater
                  cases isLater
              | cons second others =>
                  rcases attempts_cons next second others with ⟨_, isSecond, _⟩
                  rw [isSecond, List.getElem?_cons_zero, Option.some.injEq] at isLater
                  rw [← isLater]
            rw [isInputs]
            exact attempts_next returned prepared isResult isInterrupted

end Kept

/-- Retries keep finished work and pass the retry checks in every run in which the attempts that
start find acceptable inputs and what is generated before them can be retained: every fan-out
that is not interrupted has only ended segments, and every ended sample keeps its mask and has a
session. -/
theorem attempts_keepFinishedWork (args : RolloutArgs) (inputs : List (Slot F Reward))
    (runs : List (Attempt F Reward))
    (retainable : RetainableRun args inputs (attempts args inputs runs)) :
    KeepsFinishedWork inputs (attempts args inputs runs) := by
  constructor
  · intro entry member
    rcases attempts_inputs retainable entry member with ⟨_, retained, isOutcome⟩
    rw [isOutcome]
    exact generateAndRmGroup_accepts retained
  · intro entry member
    rcases attempts_inputs retainable entry member with ⟨sameLength, _, isOutcome⟩
    refine ⟨sameLength, ?_⟩
    intro results returned
    rw [isOutcome] at returned
    rw [(generateAndRmGroup_outcomes returned).1, sameLength]
  · intro index slot isSlot finished
    exact attempts_finished finished retainable isSlot
  · exact attempts_pairwise retainable
  · exact attempts_restarts

/-! ## Concrete groups -/

def freshSample : Sample Int Int where
  status := .pending
  tokens := [1]
  responseLength := 0
  lossMask := none
  rolloutLogProbs := none
  reward := none
  sessionId := none
  weightVersions := []

def response (status : Status) : Sample Int Int :=
  { freshSample with
    status := status, tokens := [1, 2], responseLength := 1, sessionId := some "s" }

def rewarded : Sample Int Int :=
  { response .completed with reward := some 5, lossMask := some [1] }

/-- The second slot ends with `status` in a fan-out, the third is aborted. -/
def fanOutThenAbort (status : Status) : Attempt Int Int where
  sessions := fun _ => "s"
  generations := fun index =>
    if index = 1 then .segments [response status] [7] else .aborted

def threeSlots : List (Slot Int Int) :=
  [.sample rewarded, .sample freshSample, .sample freshSample]

def plainArgs : RolloutArgs where
  partialRollout := false
  maskOffpolicyInPartialRollout := false

theorem threeSlots_retained : ∀ slot ∈ threeSlots, slot.Retained plainArgs := by
  intro slot member
  simp only [threeSlots, List.mem_cons, List.not_mem_nil, or_false, or_self] at member
  rcases member with rfl | rfl
  · intro _
    exact ⟨nofun, rfl⟩
  · intro finished
    cases finished

theorem fanOutThenAbort_retainable (inputs : List (Slot Int Int)) :
    (fanOutThenAbort .completed).Retainable plainArgs inputs := by
  intro index slot _ _
  rw [fanOutThenAbort]
  dsimp only
  split
  · exact .inr ⟨by decide, by decide, by decide⟩
  · trivial

/-- A finished slot and a completed fan-out next to an aborted slot are kept by the retry. -/
theorem attempts_keepFinishedWork_completed :
    KeepsFinishedWork threeSlots
      (attempts plainArgs threeSlots [fanOutThenAbort .completed, fanOutThenAbort .completed]) :=
  attempts_keepFinishedWork _ _ _
    { inputs := fun _ _ _ => threeSlots_retained
      generations := by
        have sameAttempt : (attempts plainArgs threeSlots
            [fanOutThenAbort .completed, fanOutThenAbort .completed]).map Entry.attempt =
              List.replicate 2 (fanOutThenAbort .completed) := rfl
        apply List.Pairwise.imp_of_mem _ (List.pairwise_of_forall fun _ _ => trivial)
        intro earlier _ member _ _ _
        have isAttempt := List.mem_map_of_mem (f := Entry.attempt) member
        rw [sameAttempt] at isAttempt
        rw [List.eq_of_mem_replicate isAttempt]
        exact fanOutThenAbort_retainable _ }

/-- A failed fan-out next to an aborted slot is kept too, and the retry checks reject it. -/
theorem failedFanOut_rejected :
    ¬ KeepsFinishedWork threeSlots
      (attempts plainArgs threeSlots [fanOutThenAbort .failed, fanOutThenAbort .failed]) := by
  intro keeps
  refine keeps.accepted ⟨fanOutThenAbort .failed, [.sample rewarded,
    .segments [{ response .failed with reward := some 7 }],
    .sample { freshSample with status := .aborted, sessionId := some "s" }],
    .error retryCheckError⟩ ?_ rfl
  exact List.mem_cons_of_mem _ (List.mem_singleton_self _)

end Vime.Rollout.Retry
