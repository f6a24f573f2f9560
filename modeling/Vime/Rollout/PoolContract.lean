import Mathlib.Data.List.Perm.Basic
import Vime.Rollout.PoolLifecycle

/-! # The contract of the generation pool

What the scheduler relies on in every reached state, and the starts that break it.
-/

namespace Vime.Rollout

open Vime.Foundation

/-- No call fails, no group and no output is lost or comes twice, and the pool is bounded. -/
structure Lossless (actor : GenerationActor) : Prop where
  noReplyFails : ∀ reply ∈ actor.replies, ∀ exception, reply ≠ .raised exception
  nextFails : ∀ exception, actor.next ≠ .closing (.raised exception)
  outputsOnce : actor.put = actor.delivered ++ actor.next.inHand ++ actor.outputs
  distinct : (actor.put.map GroupOutput.group).Nodup
  noneAtEnd : actor.next = .closing (.returned none) →
    actor.producer = some .done ∧ actor.outputs = [] ∧ actor.delivered = actor.put
  groupsOnce : (actor.held ++ actor.returning ++ actor.ended).Perm (List.range actor.taken)
  finished : actor.producer = some .done → actor.ended.Perm (List.range actor.taken)
  bounded : actor.slotTasks.length ≤ actor.capacity

section Contract

variable {actor : GenerationActor}

theorem PoolInvariant.groupsOnce (invariant : PoolInvariant actor) :
    (actor.held ++ actor.returning ++ actor.ended).Perm (List.range actor.taken) := by
  apply List.perm_iff_count.mpr
  intro group
  rw [List.count_append, List.count_append, List.count_range]
  exact invariant.once group

theorem PoolInvariant.finished (invariant : PoolInvariant actor)
    (done : actor.producer = some .done) : actor.ended.Perm (List.range actor.taken) := by
  have noSlot := invariant.drained (.inr done)
  have nothingHeld : actor.held = [] := by
    rw [GenerationActor.held, noSlot]
    rfl
  have nothingReturning : actor.returning = [] := by
    apply List.eq_nil_iff_forall_not_mem.mpr
    intro group member
    have rebuffering := invariant.awaited group member
    rw [noSlot] at rebuffering
    cases rebuffering
  have everywhere := invariant.groupsOnce
  rwa [nothingHeld, nothingReturning] at everywhere

theorem PoolInvariant.lossless (invariant : PoolInvariant actor) : Lossless actor := by
  have sound := invariant.next
  constructor
  · exact invariant.replies
  · intro exception fails
    rw [fails] at sound
    exact sound
  · exact invariant.results
  · have once : (actor.held ++ actor.returning ++ actor.ended).Nodup :=
      invariant.groupsOnce.nodup_iff.mpr List.nodup_range
    exact (List.nodup_append.mp (List.nodup_append.mp once).2.1).2.1
  · intro isNone
    have results := invariant.results
    rw [isNone] at sound results
    rw [sound.2] at results
    refine ⟨sound.1, sound.2, ?_⟩
    rw [results]
    simp only [NextPc.inHand, List.append_nil]
  · exact invariant.groupsOnce
  · exact invariant.finished
  · exact Nat.le_trans (Nat.le_add_right _ _) invariant.bounded

/-- After a start that disturbs a `_next`, that call fails or returns `None` too early. -/
theorem PoolInvariant.disturbed (invariant : PoolInvariant actor) {rolloutId : Int}
    (disturbs : ¬ actor.Undisturbed (.start rolloutId)) :
    ∃ later, Reaches GenerationActor.step (fun _ _ => True) (actor.start rolloutId) later ∧
      ¬ Lossless later := by
  have sound := invariant.next
  rw [GenerationActor.Undisturbed, Classical.not_imp, Bool.not_eq_false] at disturbs
  rcases disturbs with ⟨done, unanswered⟩
  have replaced : (actor.start rolloutId).producer = some .created ∧
      (actor.start rolloutId).producers = actor.producers + 1 ∧
      (actor.start rolloutId).next = actor.next := by
    rw [GenerationActor.start, done]
    exact ⟨rfl, rfl, rfl⟩
  cases nextEq : actor.next with
  | idle =>
      rw [nextEq] at unanswered
      cases unanswered
  | waiting awaited take =>
      rw [nextEq] at sound unanswered replaced
      cases take with
      | some output => cases unanswered
      | none =>
          have earlier : awaited < (actor.start rolloutId).producers := by
            rw [replaced.2.1, sound.1]
            exact Nat.lt_succ_self _
          have runs : (actor.start rolloutId).producer ≠ some .done := by
            rw [replaced.1]
            intro same
            cases same
          have fails : (actor.start rolloutId).step .nextWake =
              some { actor.start rolloutId with
                next := .closing (.raised (.invalidStateError "Result is not set.")) } := by
            rw [GenerationActor.step, GenerationActor.nextWake, replaced.2.2]
            dsimp only
            rw [if_pos (.inl earlier), if_pos runs]
          exact ⟨_, .next .start trivial fails, fun lossless => lossless.nextFails _ rfl⟩
  | taking take =>
      rw [nextEq] at unanswered
      cases take with | none | some => cases unanswered
  | closing reply =>
      rw [nextEq] at unanswered replaced
      cases reply with
      | raised exception => cases unanswered
      | returned taken =>
          cases taken with
          | some output => cases unanswered
          | none =>
              refine ⟨_, .start, fun lossless => ?_⟩
              have isDone := (lossless.noneAtEnd replaced.2.2).1
              rw [replaced.1] at isDone
              cases isDone

end Contract

/-- The pool is lossless in every run whose starts disturb no `_next`, and the first start
that does breaks it. -/
theorem pool_lossless (capacity : Nat) (actor : GenerationActor)
    (reached : Reaches GenerationActor.step GenerationActor.Undisturbed { capacity := capacity }
      actor) :
    Lossless actor ∧ ∀ rolloutId, ¬ actor.Undisturbed (.start rolloutId) →
      ∃ later, Reaches GenerationActor.step (fun _ _ => True) (actor.start rolloutId) later ∧
        ¬ Lossless later := by
  have invariant : PoolInvariant actor := by
    apply reached.invariant PoolInvariant
    case initially => exact PoolInvariant.initial capacity
    case preserved =>
      intro state action later undisturbed invariant steps
      exact invariant.step undisturbed steps
  exact ⟨invariant.lossless, fun rolloutId disturbs => invariant.disturbed disturbs⟩

def pausedWithAGroup : List PoolAction :=
  [.start 0, .next, .produce, .fetched 1, .slotStart 0, .produce, .slotGenerated 0 (.verdict true),
    .takeOutput, .nextWake, .nextReturn, .pause, .slotFetched 0, .flush, .flushed,
    .slotRebuffered 0, .producerWake, .collect, .next, .nextWake, .nextReturn, .start 1]

theorem pausedWithAGroup_lossless :
    ∃ actor, runActions GenerationActor.step GenerationActor.Undisturbed { capacity := 1 }
      pausedWithAGroup = some actor ∧ Lossless actor := by
  have ran : ∃ actor, runActions GenerationActor.step GenerationActor.Undisturbed
      { capacity := 1 } pausedWithAGroup = some actor := ⟨_, rfl⟩
  rcases ran with ⟨actor, runEq⟩
  exact ⟨actor, runEq, (pool_lossless 1 actor (Reaches.of_run .start runEq)).1⟩

/-- The pool is resumed between the end of its producer and the wake-up of `_next`. -/
def resumedBeforeTheWake : List PoolAction :=
  [.start 0, .next, .pause, .produce, .start 1, .nextWake, .nextReturn]

theorem resumedBeforeTheWake_fails :
    ∃ actor, Reaches GenerationActor.step (fun _ _ => True) { capacity := 1 } actor ∧
      actor.replies = [.raised (.invalidStateError "Result is not set.")] ∧ ¬ Lossless actor := by
  have ran : ∃ actor, runActions GenerationActor.step (fun _ _ => True) { capacity := 1 }
      resumedBeforeTheWake = some actor ∧
      actor.replies = [.raised (.invalidStateError "Result is not set.")] := ⟨_, rfl, rfl⟩
  rcases ran with ⟨actor, runEq, replyEq⟩
  refine ⟨actor, Reaches.of_run .start runEq, replyEq, fun lossless => ?_⟩
  have isReply : NextReply.raised (.invalidStateError "Result is not set.") ∈ actor.replies := by
    rw [replyEq]
    exact List.mem_singleton.mpr rfl
  exact lossless.noReplyFails _ isReply _ rfl

end Vime.Rollout
