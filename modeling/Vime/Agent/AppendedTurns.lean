import Vime.Agent.Absorption

/-! # Turns with replay data

What an appended turn does to a builder when turns carry replay dictionaries:
tokens, masks and log probabilities change as without them, and a turn extends a
builder only if both dictionaries have the same keys.
-/

namespace Vime.Agent

open Vime.Foundation Vime.Utils

variable {F : Type}

/-- What `record_turn` asserts of a turn. -/
def TurnRecord.Recordable (turn : TurnRecord F) : Prop :=
  turn.outputLogProbs = [] ∨ turn.outputLogProbs.length = turn.outputIds.length

theorem TurnRecord.Recordable.sampledLogProbs_length [LogProbValue F] {turn : TurnRecord F}
    (recordable : turn.Recordable) : turn.sampledLogProbs.length = turn.outputIds.length := by
  rw [sampledLogProbs]
  rcases recordable with absent | aligned
  · simp [absent]
  · split
    · simp
    · exact aligned

/-! ## Replay dictionaries -/

namespace Replay

/-- Dictionaries with the same keys and the same `k`, which can be concatenated. -/
structure SameShape (held incoming : Replay F) : Prop where
  keys : held.keys = incoming.keys
  width : held.topkTokenIds.map TokenRows.width = incoming.topkTokenIds.map TokenRows.width

theorem SameShape.refl (replay : Replay F) : SameShape replay replay := ⟨rfl, rfl⟩

theorem SameShape.trans {first second third : Replay F} (before : SameShape first second)
    (after : SameShape second third) : SameShape first third :=
  ⟨before.keys.trans after.keys, before.width.trans after.width⟩

theorem SameShape.symm {held incoming : Replay F} (same : SameShape held incoming) :
    SameShape incoming held :=
  ⟨same.keys.symm, same.width.symm⟩

theorem SameShape.routedExperts {held incoming : Replay F} (same : SameShape held incoming) :
    held.routedExperts.isSome = incoming.routedExperts.isSome := by
  have keys := same.keys
  simp only [Replay.keys, List.cons.injEq] at keys
  exact keys.2.2.2.2.2.1

theorem SameShape.topk {held incoming : Replay F} (same : SameShape held incoming) :
    held.topkTokenIds.isSome = incoming.topkTokenIds.isSome := by
  have keys := same.keys
  simp only [Replay.keys, List.cons.injEq] at keys
  exact keys.2.2.2.1

theorem SameShape.nonempty {held incoming : Replay F} (same : SameShape held incoming) :
    held.nonempty = incoming.nonempty := by
  rw [Replay.nonempty, Replay.nonempty, same.keys]

end Replay

namespace SampleBuilder

def appendedReplay [LogProbValue F] (builder : SampleBuilder F) (turn : TurnRecord F) :
    Except PyException (Option (Replay F)) :=
  match turn.replay with
  | none => .ok builder.replay
  | some incoming => some <$> appendReplay builder.replay incoming
      (if builder.lastResponseStartIdx.isNone then 0
        else turn.promptIds.length - builder.tokens.length)

structure Parallel (builder : SampleBuilder F) : Prop where
  lossMask : builder.lossMask.length = builder.tokens.length
  logprobs : builder.logprobs.length = builder.tokens.length

theorem parallel_initial (forkThreshold : Nat) :
    ({ forkThreshold := forkThreshold } : SampleBuilder F).Parallel :=
  ⟨rfl, rfl⟩

/-- A turn is appended exactly if its replay is, and then it is absorbed. -/
theorem appendTurn_eq_ok [LogProbValue F] {builder next : SampleBuilder F}
    {turn : TurnRecord F} {kind : DriftKind} {trained : Bool} (parallel : builder.Parallel)
    (extends_ : kind ≠ .fork) :
    builder.appendTurn turn kind trained = .ok next ↔
      ∃ replay, builder.appendedReplay turn = .ok replay ∧
        { builder.absorb turn (builder.keptLength kind) trained with replay := replay } =
          next := by
  have wholeMask : builder.lossMask.take builder.tokens.length = builder.lossMask := by
    rw [← parallel.lossMask, List.take_length]
  have wholeLogprobs :
      builder.logprobs.take builder.tokens.length = builder.logprobs := by
    rw [← parallel.logprobs, List.take_length]
  have returns (replay : Option (Replay F))
      (appended : builder.appendedReplay turn = .ok replay) :
      builder.appendTurn turn kind trained = .ok
        { builder.absorb turn (builder.keptLength kind) trained with replay := replay } := by
    rw [appendedReplay.eq_def] at appended
    cases carried : turn.replay with
    | none =>
        rw [carried] at appended
        have same : builder.replay = replay := Except.ok.inj appended
        cases kind with
        | fork => exact absurd rfl extends_
        | clean =>
            cases start : builder.lastResponseStartIdx <;> cases trained <;>
              simp [appendTurn, carried, appendTokens, absorb, keptLength, start,
                wholeMask, wholeLogprobs, TurnRecord.sampledLogProbs, same]
        | realign =>
            cases start : builder.lastResponseStartIdx <;> cases trained <;>
              simp [appendTurn, carried, appendTokens, alignToPrompt, absorb,
                keptLength, start, TurnRecord.sampledLogProbs, same]
    | some incoming =>
        rw [carried] at appended
        cases kind with
        | fork => exact absurd rfl extends_
        | clean =>
            cases start : builder.lastResponseStartIdx <;> cases trained <;>
              simp [start] at appended <;>
              simp [appendTurn, carried, appendTokens, absorb, keptLength, start,
                wholeMask, wholeLogprobs, TurnRecord.sampledLogProbs, appended]
        | realign =>
            cases start : builder.lastResponseStartIdx <;> cases trained <;>
              simp [start] at appended <;>
              simp [appendTurn, carried, appendTokens, alignToPrompt, absorb,
                keptLength, start, TurnRecord.sampledLogProbs, appended]
  have raises (exception : PyException)
      (failed : builder.appendedReplay turn = .error exception) :
      builder.appendTurn turn kind trained = .error exception := by
    rw [appendedReplay.eq_def] at failed
    cases carried : turn.replay with
    | none =>
        rw [carried] at failed
        cases failed
    | some incoming =>
        rw [carried] at failed
        dsimp only at failed
        simp only [appendTurn, if_neg extends_, carried, pure_eq_ok]
        rw [failed, error_bind]
  cases appended : builder.appendedReplay turn with
  | ok replay =>
      rw [returns replay appended, Except.ok.injEq]
      constructor
      · exact fun same => ⟨replay, rfl, same⟩
      · rintro ⟨_, sameReplay, same⟩
        rw [Except.ok.inj sameReplay]
        exact same
  | error exception =>
      rw [raises exception appended]
      simp

end SampleBuilder

end Vime.Agent
