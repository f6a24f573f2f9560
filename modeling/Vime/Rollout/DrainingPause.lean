import Vime.Foundation.Holdings
import Vime.Rollout.FullyAsyncRollout

/-! # The draining pause

A `pause(drain=True)` that returns leaves every group in the output queue, with the caller or
in the buffer, provided that it did not go by a status from before the last `resume`.
-/

namespace Vime.Rollout

open Vime.Foundation Vime.Utils Vime.Data

/-! ## Where groups are -/

def GenerationTask.groups (task : GenerationTask) : List Nat :=
  match task.phase with
  | .called => []
  | _ => [task.input.number]

def CompletedGroup.number (output : CompletedGroup) : Nat := output.group.number

def CallerPc.completed : CallerPc → List CompletedGroup
  | .collecting _ completed => completed
  | _ => []

namespace AsyncRolloutWorker

def inFlight (worker : AsyncRolloutWorker) : List Nat :=
  worker.activeTasks.flatMap GenerationTask.groups ++
    worker.reaped.flatMap GenerationTask.groups

def settled (worker : AsyncRolloutWorker) : List Nat :=
  worker.outputQueue.map CompletedGroup.number ++
    (worker.handed ++ worker.caller.completed).map CompletedGroup.number ++
      worker.buffer.map SampleGroup.number

def Quiet (worker : AsyncRolloutWorker) : Prop :=
  worker.inFlight = [] ∧ worker.loopPc ≠ .taking

/-- The published status, where a draining pause would return with it, holds. -/
def StatusHolds (worker : AsyncRolloutWorker) : WorkerAction → Prop
  | .pause true => worker.admissionPaused = true → worker.active = 0 → worker.Quiet
  | _ => True

instance (worker : AsyncRolloutWorker) : Decidable worker.Quiet :=
  inferInstanceAs (Decidable (_ ∧ _))

instance (worker : AsyncRolloutWorker) (action : WorkerAction) :
    Decidable (worker.StatusHolds action) :=
  match action with
  | .pause true => inferInstanceAs
      (Decidable (worker.admissionPaused = true → worker.active = 0 → worker.Quiet))
  | .pause false | .reap | .yielded | .checkTopUp | .take _ | .publish | .wake | .finish _ _
  | .callback _ | .reapedCallback _ | .pauseReturn | .resume | .getCompletedGroups _
  | .getNowait => inferInstanceAs (Decidable True)

end AsyncRolloutWorker

structure WorkerInvariant (worker : AsyncRolloutWorker) : Prop where
  once : ∀ group, worker.settled.count group + worker.inFlight.count group =
    if group < worker.numbered then 1 else 0
  unfinished : worker.active = 0 → ∀ task ∈ worker.activeTasks, task.done = false
  published : worker.active = 0 → worker.loopPc = .top ∨ worker.awaiting →
    worker.activeTasks = []
  unreaped : worker.active = 0 ∨ worker.loopPc ≠ .yielding → worker.reaped = []
  pausing : ∀ drain previous, worker.caller = .pausing drain previous →
    worker.paused = true ∧ (drain = true → worker.admissionPaused = true →
      worker.active = 0 → worker.Quiet)
  cut : ∀ takes, worker.cut = some takes → worker.paused = true ∧
    worker.admissionPaused = true ∧ worker.active = 0 ∧ worker.takes = takes ∧ worker.Quiet

section Steps

variable {worker next : AsyncRolloutWorker}

theorem WorkerInvariant.noTask (invariant : WorkerInvariant worker) (isIdle : worker.active = 0)
    (quiet : worker.Quiet) : worker.activeTasks = [] := by
  have unfinished := invariant.unfinished isIdle
  have nothing := (List.append_eq_nil_iff.mp quiet.1).1
  cases tasksEq : worker.activeTasks with
  | nil => rfl
  | cons task rest =>
      rw [tasksEq] at unfinished nothing
      have isRunning := unfinished task List.mem_cons_self
      rw [List.flatMap_cons] at nothing
      have holdsNothing := (List.append_eq_nil_iff.mp nothing).1
      rcases task with ⟨gid, input, phase⟩
      cases phase with
      | running => cases holdsNothing
      | finished result => cases isRunning
      | called => cases isRunning

theorem WorkerInvariant.goTo (invariant : WorkerInvariant worker) {pc : LoopPc}
    (published : worker.active = 0 → pc = .top ∨ pc = .sleeping ∨ pc = .yielding →
      worker.activeTasks = [])
    (unreaped : worker.active = 0 ∨ pc ≠ .yielding → worker.reaped = [])
    (paused : worker.paused = true → pc ≠ .taking) :
    WorkerInvariant { worker with loopPc := pc } := by
  refine ⟨invariant.once, invariant.unfinished, published, unreaped, ?_, ?_⟩
  · intro drain previous isPausing
    rcases invariant.pausing drain previous isPausing with ⟨isPaused, quiet⟩
    exact ⟨isPaused, fun drains admission isIdle =>
      ⟨(quiet drains admission isIdle).1, paused isPaused⟩⟩
  · intro takes isCut
    rcases invariant.cut takes isCut with ⟨isPaused, admission, isIdle, takesEq, quiet⟩
    exact ⟨isPaused, admission, isIdle, takesEq, quiet.1, paused isPaused⟩

def LoopPc.within : LoopPc → Bool
  | .topUp => true
  | .taking => true
  | .publishing => true
  | _ => false

theorem WorkerInvariant.noReaped (invariant : WorkerInvariant worker)
    (elsewhere : worker.loopPc ≠ .yielding) : worker.reaped = [] :=
  invariant.unreaped (.inr elsewhere)

theorem WorkerInvariant.goWithin (invariant : WorkerInvariant worker) {pc : LoopPc}
    (isWithin : pc.within = true) (noReaped : worker.reaped = [])
    (paused : worker.paused = true → pc ≠ .taking) :
    WorkerInvariant { worker with loopPc := pc } := by
  apply invariant.goTo
  · rintro _ (isTop | isSleeping | isYielding)
    · rw [isTop] at isWithin
      cases isWithin
    · rw [isSleeping] at isWithin
      cases isWithin
    · rw [isYielding] at isWithin
      cases isWithin
  · exact fun _ => noReaped
  · exact paused

theorem due_groups {tasks : List GenerationTask} (group : Nat) :
    ((tasks.filter fun task => !task.done).flatMap GenerationTask.groups).count group +
        ((tasks.filter GenerationTask.due).flatMap GenerationTask.groups).count group =
      (tasks.flatMap GenerationTask.groups).count group := by
  induction tasks with
  | nil => rfl
  | cons task rest induction =>
      rcases task with ⟨gid, input, phase⟩
      rw [List.filter_cons, List.filter_cons, List.flatMap_cons, List.count_append]
      cases phase with
      | running =>
          change ((⟨gid, input, .running⟩ :: rest.filter fun task => !task.done).flatMap
            GenerationTask.groups).count group + _ = _
          rw [List.flatMap_cons, List.count_append]
          exact (Nat.add_assoc _ _ _).trans (congrArg _ induction)
      | finished result =>
          change _ + ((⟨gid, input, .finished result⟩ :: rest.filter GenerationTask.due).flatMap
            GenerationTask.groups).count group = _
          rw [List.flatMap_cons, List.count_append]
          exact (Nat.add_left_comm _ _ _).trans (congrArg _ induction)
      | called => exact induction.trans (Nat.zero_add _).symm

/-- Finished tasks leave `active_tasks`; those whose callbacks are due are still in flight. -/
theorem WorkerInvariant.reap (invariant : WorkerInvariant worker)
    (steps : worker.reap = some next) : WorkerInvariant next := by
  rw [AsyncRolloutWorker.reap] at steps
  by_cases atTop : worker.loopPc = .top
  · rw [if_pos atTop] at steps
    have noReaped := invariant.noReaped (by rw [atTop]; exact fun same => nomatch same)
    by_cases anyDone : worker.activeTasks.any GenerationTask.done
    · rw [if_pos anyDone] at steps
      have busy : worker.active ≠ 0 := by
        intro isIdle
        rw [invariant.published isIdle (.inl atTop)] at anyDone
        cases anyDone
      rw [← Option.some.inj steps]
      have inFlightEq : ∀ group,
          ((worker.activeTasks.filter fun task => !task.done).flatMap GenerationTask.groups ++
            (worker.activeTasks.filter GenerationTask.due).flatMap
              GenerationTask.groups).count group = worker.inFlight.count group := by
        intro group
        rw [AsyncRolloutWorker.inFlight, noReaped, List.flatMap_nil, List.append_nil,
          List.count_append]
        exact due_groups group
      refine ⟨?_, fun isIdle => absurd isIdle busy, fun isIdle => absurd isIdle busy, ?_, ?_, ?_⟩
      · intro group
        have once := invariant.once group
        rw [← inFlightEq group] at once
        exact once
      · rintro (isIdle | elsewhere)
        · exact absurd isIdle busy
        · exact absurd rfl elsewhere
      · intro drain previous isPausing
        exact ⟨(invariant.pausing drain previous isPausing).1,
          fun _ _ isIdle => absurd isIdle busy⟩
      · intro takes isCut
        exact absurd (invariant.cut takes isCut).2.2.1 busy
    · rw [if_neg anyDone] at steps
      rw [← Option.some.inj steps]
      exact invariant.goWithin rfl noReaped fun _ same => nomatch same
  · rw [if_neg atTop] at steps
    cases steps

theorem WorkerInvariant.yielded (invariant : WorkerInvariant worker)
    (steps : worker.yielded = some next) : WorkerInvariant next := by
  rw [AsyncRolloutWorker.yielded] at steps
  by_cases isYielding : worker.loopPc = .yielding
  · rw [if_pos isYielding] at steps
    split at steps
    · rename_i noReaped
      rw [← Option.some.inj steps]
      exact invariant.goWithin rfl noReaped fun _ same => nomatch same
    · cases steps
  · rw [if_neg isYielding] at steps
    cases steps

/-- A paused worker takes nothing more. -/
theorem WorkerInvariant.checkTopUp (invariant : WorkerInvariant worker)
    (steps : worker.checkTopUp = some next) : WorkerInvariant next := by
  rw [AsyncRolloutWorker.checkTopUp] at steps
  by_cases atTopUp : worker.loopPc = .topUp
  · rw [if_pos atTopUp] at steps
    have noReaped := invariant.noReaped (by rw [atTopUp]; exact fun same => nomatch same)
    by_cases room : worker.activeTasks.length < worker.concurrency ∧
        worker.outputQueue.length < worker.concurrency ∧ worker.paused = false
    · rw [if_pos room] at steps
      rw [← Option.some.inj steps]
      apply invariant.goWithin rfl noReaped
      intro isPaused
      rw [room.2.2] at isPaused
      cases isPaused
    · rw [if_neg room] at steps
      rw [← Option.some.inj steps]
      exact invariant.goWithin rfl noReaped fun _ same => nomatch same
  · rw [if_neg atTopUp] at steps
    cases steps

theorem WorkerInvariant.publish (invariant : WorkerInvariant worker)
    (steps : worker.publish = some next) : WorkerInvariant next := by
  rw [AsyncRolloutWorker.publish] at steps
  by_cases isPublishing : worker.loopPc = .publishing
  · rw [if_pos isPublishing] at steps
    rw [← Option.some.inj steps]
    have noReaped := invariant.noReaped (by rw [isPublishing]; exact fun same => nomatch same)
    refine ⟨invariant.once, ?_, ?_, fun _ => noReaped, ?_, ?_⟩
    · intro noTasks task member
      rw [List.length_eq_zero_iff.mp noTasks] at member
      cases member
    · exact fun noTasks _ => List.length_eq_zero_iff.mp noTasks
    · intro drain previous isPausing
      refine ⟨(invariant.pausing drain previous isPausing).1, fun _ _ noTasks => ⟨?_, ?_⟩⟩
      · change worker.activeTasks.flatMap GenerationTask.groups ++
          worker.reaped.flatMap GenerationTask.groups = []
        rw [List.length_eq_zero_iff.mp noTasks, noReaped]
        rfl
      · exact fun same => nomatch same
    · intro takes isCut
      rcases invariant.cut takes isCut with ⟨isPaused, _, isIdle, takesEq, quiet⟩
      refine ⟨isPaused, isPaused, ?_, takesEq, quiet.1, fun same => nomatch same⟩
      exact List.length_eq_zero_iff.mpr (invariant.noTask isIdle quiet)
  · rw [if_neg isPublishing] at steps
    cases steps

theorem WorkerInvariant.wake (invariant : WorkerInvariant worker)
    (steps : worker.wake = some next) : WorkerInvariant next := by
  rw [AsyncRolloutWorker.wake] at steps
  by_cases isSleeping : worker.loopPc = .sleeping
  · rw [if_pos isSleeping] at steps
    rw [← Option.some.inj steps]
    apply invariant.goTo
    · exact fun isIdle _ => invariant.published isIdle (.inr (.inl isSleeping))
    · exact fun _ => invariant.noReaped (by rw [isSleeping]; exact fun same => nomatch same)
    · exact fun _ same => nomatch same
  · rw [if_neg isSleeping] at steps
    cases steps

/-- A group is taken, which a paused and idle worker does not do. -/
theorem WorkerInvariant.addTask (invariant : WorkerInvariant worker) {numbered : Nat}
    {buffer : List SampleGroup} (group : SampleGroup) (isTaking : worker.loopPc = .taking)
    (taken : ∀ other, (worker.buffer.map SampleGroup.number).count other +
      (if other < numbered then 1 else 0) = (buffer.map SampleGroup.number).count other +
        [group.number].count other + if other < worker.numbered then 1 else 0) :
    WorkerInvariant (({ worker with numbered := numbered, buffer := buffer }).addTask group) := by
  have noReaped := invariant.noReaped (by rw [isTaking]; exact fun same => nomatch same)
  refine ⟨?_, ?_, ?_, fun _ => noReaped, ?_, ?_⟩
  · intro other
    have once := invariant.once other
    have balance := taken other
    rw [AsyncRolloutWorker.settled, AsyncRolloutWorker.inFlight, List.count_append,
      List.count_append, List.count_append] at once
    rw [AsyncRolloutWorker.settled, AsyncRolloutWorker.inFlight, List.count_append,
      List.count_append, List.count_append]
    change _ + (buffer.map SampleGroup.number).count other + (((worker.activeTasks ++
      [GenerationTask.mk worker.gidCounter group .running]).flatMap GenerationTask.groups).count other + _) =
        if other < numbered then 1 else 0
    rw [List.flatMap_append, List.count_append]
    change _ + (_ + [group.number].count other + _) = _
    dsimp only [AsyncRolloutWorker.addTask]
    omega
  · intro isIdle task member
    rcases List.mem_append.mp member with old | isNew
    · exact invariant.unfinished isIdle task old
    · rw [List.mem_singleton.mp isNew]
      rfl
  · rintro _ (isTop | isSleeping | isYielding)
    · cases isTop
    · cases isSleeping
    · cases isYielding
  · intro drain previous isPausing
    refine ⟨(invariant.pausing drain previous isPausing).1, fun drains admission isIdle => ?_⟩
    exact absurd isTaking
      ((invariant.pausing drain previous isPausing).2 drains admission isIdle).2
  · intro takes isCut
    exact absurd isTaking (invariant.cut takes isCut).2.2.2.2.2

theorem WorkerInvariant.take {choice : SourceChoice} (invariant : WorkerInvariant worker)
    (steps : worker.take choice = some next) : WorkerInvariant next := by
  rw [AsyncRolloutWorker.take.eq_def] at steps
  by_cases isTaking : worker.loopPc = .taking
  · rw [if_pos isTaking] at steps
    cases choice with
    | nothing =>
        rw [← Option.some.inj steps]
        have noReaped := invariant.noReaped (by rw [isTaking]; exact fun same => nomatch same)
        exact invariant.goWithin rfl noReaped fun _ same => nomatch same
    | prompt =>
        rw [← Option.some.inj steps]
        apply invariant.addTask _ isTaking
        intro other
        have single : [worker.numbered].count other = if worker.numbered = other then 1 else 0 := by
          rw [List.count_singleton]
          simp only [beq_iff_eq]
        rw [single]
        split_ifs <;> omega
    | buffered index =>
        rcases Option.map_eq_some_iff.mp steps with ⟨group, found, nextEq⟩
        rw [← nextEq]
        apply invariant.addTask group isTaking
        intro other
        have erased := count_holdings_eraseIdx (fun group => [SampleGroup.number group]) found other
        rw [← List.map_eq_flatMap, ← List.map_eq_flatMap] at erased
        omega
  · rw [if_neg isTaking] at steps
    cases steps

theorem WorkerInvariant.whileBusy (invariant : WorkerInvariant worker) (busy : worker.active ≠ 0)
    {activeTasks reaped : List GenerationTask} {buffer : List SampleGroup}
    {outputQueue : List CompletedGroup}
    (once : ∀ group, (outputQueue.map CompletedGroup.number).count group +
      (buffer.map SampleGroup.number).count group +
        (activeTasks.flatMap GenerationTask.groups).count group +
          (reaped.flatMap GenerationTask.groups).count group =
      (worker.outputQueue.map CompletedGroup.number).count group +
        (worker.buffer.map SampleGroup.number).count group + worker.inFlight.count group)
    (unreaped : worker.loopPc ≠ .yielding → reaped = []) :
    WorkerInvariant { worker with
      activeTasks := activeTasks
      reaped := reaped
      buffer := buffer
      outputQueue := outputQueue } := by
  refine ⟨?_, fun isIdle => absurd isIdle busy, fun isIdle => absurd isIdle busy, ?_, ?_, ?_⟩
  · intro group
    have before := invariant.once group
    have balance := once group
    rw [AsyncRolloutWorker.settled, List.count_append, List.count_append] at before
    rw [AsyncRolloutWorker.settled, AsyncRolloutWorker.inFlight, List.count_append,
      List.count_append, List.count_append]
    dsimp only
    omega
  · rintro (isIdle | elsewhere)
    · exact absurd isIdle busy
    · exact unreaped elsewhere
  · intro drain previous isPausing
    exact ⟨(invariant.pausing drain previous isPausing).1, fun _ _ isIdle => absurd isIdle busy⟩
  · intro takes isCut
    exact absurd (invariant.cut takes isCut).2.2.1 busy

theorem WorkerInvariant.busy (invariant : WorkerInvariant worker) {index : Nat}
    {task : GenerationTask} (found : worker.activeTasks[index]? = some task)
    (awaits : worker.awaiting) : worker.active ≠ 0 := by
  intro isIdle
  rw [invariant.published isIdle (.inr awaits)] at found
  cases found

theorem WorkerInvariant.finish {index : Nat} {result : List (SampleTree Status)}
    (invariant : WorkerInvariant worker) (steps : worker.finish index result = some next) :
    WorkerInvariant next := by
  rw [AsyncRolloutWorker.finish] at steps
  split at steps
  · rename_i gid input found
    by_cases may : worker.awaiting ∧ result.length = input.samples.length
    · rw [if_pos may] at steps
      rw [← Option.some.inj steps]
      apply invariant.whileBusy (invariant.busy found may.1)
      · intro group
        have same : ((worker.activeTasks.set index ⟨gid, input, .finished result⟩).flatMap
            GenerationTask.groups).count group + [input.number].count group =
              (worker.activeTasks.flatMap GenerationTask.groups).count group +
                [input.number].count group := count_holdings_set _ found group
        rw [AsyncRolloutWorker.inFlight, List.count_append]
        omega
      · exact invariant.noReaped
    · rw [if_neg may] at steps
      cases steps
  · cases steps

theorem WorkerInvariant.doneCallback (invariant : WorkerInvariant worker)
    (busy : worker.active ≠ 0) {activeTasks reaped : List GenerationTask} {gid : Nat}
    {input : SampleGroup} {result : List (SampleTree Status)}
    (moves : ∀ group, (activeTasks.flatMap GenerationTask.groups).count group +
      (reaped.flatMap GenerationTask.groups).count group + [input.number].count group =
        worker.inFlight.count group)
    (unreaped : worker.loopPc ≠ .yielding → reaped = []) :
    WorkerInvariant (({ worker with
      activeTasks := activeTasks, reaped := reaped }).doneCallback gid input result) := by
  rw [AsyncRolloutWorker.doneCallback]
  split
  · refine invariant.whileBusy busy (fun group => ?_) unreaped
    have moved := moves group
    rw [List.map_append, List.count_append, List.map_singleton]
    dsimp only
    omega
  · refine invariant.whileBusy busy (fun group => ?_) unreaped
    have moved := moves group
    rw [List.map_append, List.count_append, List.map_singleton, CompletedGroup.number]
    dsimp only
    omega

theorem WorkerInvariant.callback {index : Nat} (invariant : WorkerInvariant worker)
    (steps : worker.callback index = some next) : WorkerInvariant next := by
  rw [AsyncRolloutWorker.callback] at steps
  split at steps
  · rename_i gid input result found
    by_cases awaits : worker.awaiting
    · rw [if_pos awaits] at steps
      rw [← Option.some.inj steps]
      apply invariant.doneCallback (invariant.busy found awaits) _ invariant.noReaped
      intro group
      have called : ((worker.activeTasks.set index ⟨gid, input, .called⟩).flatMap
          GenerationTask.groups).count group + [input.number].count group =
            (worker.activeTasks.flatMap GenerationTask.groups).count group :=
        count_holdings_set _ found group
      rw [AsyncRolloutWorker.inFlight, List.count_append]
      omega
    · rw [if_neg awaits] at steps
      cases steps
  · cases steps

theorem WorkerInvariant.reapedCallback {index : Nat} (invariant : WorkerInvariant worker)
    (steps : worker.reapedCallback index = some next) : WorkerInvariant next := by
  rw [AsyncRolloutWorker.reapedCallback] at steps
  split at steps
  · rename_i gid input result found
    have some_ : worker.reaped ≠ [] := by
      intro none
      rw [none] at found
      cases found
    by_cases awaits : worker.awaiting
    · rw [if_pos awaits] at steps
      rw [← Option.some.inj steps]
      apply invariant.doneCallback fun isIdle => some_ (invariant.unreaped (.inl isIdle))
      · intro group
        have erased : ((worker.reaped.eraseIdx index).flatMap GenerationTask.groups).count
            group + [input.number].count group =
              (worker.reaped.flatMap GenerationTask.groups).count group :=
          count_holdings_eraseIdx _ found group
        rw [AsyncRolloutWorker.inFlight, List.count_append]
        omega
      · exact fun elsewhere => absurd (invariant.noReaped elsewhere) some_
    · rw [if_neg awaits] at steps
      cases steps
  · cases steps

/-! ## The calling thread -/

theorem WorkerInvariant.pause {drain : Bool} (invariant : WorkerInvariant worker)
    (statusHolds : worker.StatusHolds (.pause drain)) (steps : worker.pause drain = some next) :
    WorkerInvariant next := by
  rw [AsyncRolloutWorker.pause] at steps
  split at steps
  · rename_i isIdle
    rw [← Option.some.inj steps]
    refine ⟨?_, invariant.unfinished, invariant.published, invariant.unreaped, ?_, ?_⟩
    · intro group
      have once := invariant.once group
      rw [AsyncRolloutWorker.settled, isIdle] at once
      exact once
    · intro drains previous isPausing
      refine ⟨rfl, fun isDrain admission noTask => ?_⟩
      rw [CallerPc.pausing.injEq] at isPausing
      rw [← isPausing.1] at isDrain
      rw [isDrain] at statusHolds
      exact statusHolds admission noTask
    · intro takes isCut
      rcases invariant.cut takes isCut with ⟨_, admission, noTask, takesEq, quiet⟩
      exact ⟨rfl, admission, noTask, takesEq, quiet⟩
  · cases steps

theorem WorkerInvariant.pauseReturn (invariant : WorkerInvariant worker)
    (steps : worker.pauseReturn = some next) : WorkerInvariant next := by
  rw [AsyncRolloutWorker.pauseReturn] at steps
  split at steps
  · rename_i drain previous isPausing
    rcases invariant.pausing drain previous isPausing with ⟨isPaused, quiet⟩
    by_cases waits : worker.admissionPaused = false ∨ (drain = true ∧ worker.active ≠ 0)
    · rw [if_pos waits] at steps
      cases steps
    · rw [if_neg waits] at steps
      rw [← Option.some.inj steps]
      rw [not_or, Bool.not_eq_false, not_and, not_not] at waits
      refine ⟨?_, invariant.unfinished, invariant.published, invariant.unreaped, ?_, ?_⟩
      · intro group
        have once := invariant.once group
        rw [AsyncRolloutWorker.settled, isPausing] at once
        exact once
      · exact fun _ _ same => nomatch same
      · intro takes isCut
        cases drain with
        | true =>
            have isIdle := waits.2 rfl
            exact ⟨isPaused, waits.1, isIdle, Option.some.inj isCut, quiet rfl waits.1 isIdle⟩
        | false => exact invariant.cut takes isCut
  · cases steps

theorem WorkerInvariant.resume (invariant : WorkerInvariant worker)
    (steps : worker.resume = some next) : WorkerInvariant next := by
  rw [AsyncRolloutWorker.resume] at steps
  split at steps
  · rename_i isIdle
    rw [← Option.some.inj steps]
    refine ⟨invariant.once, invariant.unfinished, invariant.published, invariant.unreaped, ?_, ?_⟩
    · intro drain previous isPausing
      rw [isIdle] at isPausing
      cases isPausing
    · exact fun _ isCut => nomatch isCut
  · cases steps

/-- The calling thread takes results, and nothing else changes. -/
theorem WorkerInvariant.collect (invariant : WorkerInvariant worker) (caller : CallerPc)
    {handed outputQueue : List CompletedGroup}
    (notPausing : ∀ drain previous, caller ≠ .pausing drain previous)
    (moves : ∀ group, (outputQueue.map CompletedGroup.number).count group +
      ((handed ++ caller.completed).map CompletedGroup.number).count group =
        (worker.outputQueue.map CompletedGroup.number).count group +
          ((worker.handed ++ worker.caller.completed).map CompletedGroup.number).count group) :
    WorkerInvariant { worker with
      caller := caller, handed := handed, outputQueue := outputQueue } := by
  refine ⟨?_, invariant.unfinished, invariant.published, invariant.unreaped, ?_, invariant.cut⟩
  · intro group
    have once := invariant.once group
    have moved := moves group
    rw [AsyncRolloutWorker.settled, List.count_append, List.count_append] at once
    rw [AsyncRolloutWorker.settled, List.count_append, List.count_append]
    change _ + worker.inFlight.count group = _
    dsimp only
    omega
  · intro drain previous isPausing
    exact absurd isPausing (notPausing drain previous)

theorem WorkerInvariant.getCompletedGroups {limit : Option Nat}
    (invariant : WorkerInvariant worker)
    (steps : worker.getCompletedGroups limit = some next) : WorkerInvariant next := by
  rw [AsyncRolloutWorker.getCompletedGroups] at steps
  split at steps
  · rename_i isIdle
    rw [← Option.some.inj steps]
    apply invariant.collect (.collecting limit []) fun _ _ same => nomatch same
    intro group
    rw [isIdle]
    rfl
  · cases steps

theorem WorkerInvariant.getNowait (invariant : WorkerInvariant worker)
    (steps : worker.getNowait = some next) : WorkerInvariant next := by
  rw [AsyncRolloutWorker.getNowait] at steps
  split at steps
  · rename_i limit completed isCollecting
    split at steps
    · rename_i output rest _ queueEq
      rw [← Option.some.inj steps]
      apply invariant.collect (.collecting limit (completed ++ [output]))
        fun _ _ same => by cases same
      intro group
      rw [queueEq, isCollecting]
      simp only [CallerPc.completed, List.map_append, List.map_cons, List.map_nil,
        List.count_append, List.count_cons, List.count_nil]
      omega
    · rw [← Option.some.inj steps]
      apply invariant.collect .idle fun _ _ same => by cases same
      intro group
      rw [isCollecting]
      simp only [CallerPc.completed, List.append_nil]
  · cases steps

theorem WorkerInvariant.step {action : WorkerAction} (invariant : WorkerInvariant worker)
    (statusHolds : worker.StatusHolds action) (steps : worker.step action = some next) :
    WorkerInvariant next := by
  cases action with
  | reap => exact invariant.reap steps
  | yielded => exact invariant.yielded steps
  | checkTopUp => exact invariant.checkTopUp steps
  | take choice => exact invariant.take steps
  | publish => exact invariant.publish steps
  | wake => exact invariant.wake steps
  | finish index result => exact invariant.finish steps
  | callback index => exact invariant.callback steps
  | reapedCallback index => exact invariant.reapedCallback steps
  | pause drain => exact invariant.pause statusHolds steps
  | pauseReturn => exact invariant.pauseReturn steps
  | resume => exact invariant.resume steps
  | getCompletedGroups limit => exact invariant.getCompletedGroups steps
  | getNowait => exact invariant.getNowait steps

end Steps

/-! ## Runs -/

theorem map_number_mapIdx {entries : List α} (first : Nat) {build : Nat → α → β}
    {number : β → Nat} (numbers : ∀ index entry, number (build index entry) = first + index) :
    (entries.mapIdx build).map number = List.range' first entries.length := by
  apply List.ext_getElem
  · rw [List.length_map, List.length_mapIdx, List.length_range']
  · intro index _ _
    rw [List.getElem_map, List.getElem_mapIdx, List.getElem_range', numbers, Nat.one_mul]

theorem WorkerInvariant.initial (concurrency nSamplesPerPrompt : Nat)
    (ready : List (Nat × List (SampleTree Status))) (buffered : List (List (SampleTree Status))) :
    WorkerInvariant (.initial concurrency nSamplesPerPrompt ready buffered) := by
  refine ⟨?_, fun _ _ member => (nomatch member), fun _ _ => rfl, fun _ => rfl,
    fun _ _ same => (nomatch same), fun _ isCut => (nomatch isCut)⟩
  intro group
  have inQueue : (AsyncRolloutWorker.initial concurrency nSamplesPerPrompt ready
      buffered).outputQueue.map CompletedGroup.number = List.range' 0 ready.length :=
    map_number_mapIdx 0 fun index _ => (Nat.zero_add index).symm
  have inBuffer : (AsyncRolloutWorker.initial concurrency nSamplesPerPrompt ready
      buffered).buffer.map SampleGroup.number = List.range' ready.length buffered.length :=
    map_number_mapIdx ready.length fun _ _ => rfl
  rw [AsyncRolloutWorker.settled, List.count_append, List.count_append, inQueue, inBuffer,
    List.count_range_1', List.count_range_1']
  change _ + 0 + _ + 0 = if group < ready.length + buffered.length then 1 else 0
  split_ifs <;> omega

/-- Since a draining pause returned, no group was taken, none is in flight, and every group is
in one place that the checkpoint has or the caller. -/
def AsyncRolloutWorker.CutConsistent (worker : AsyncRolloutWorker) : Prop :=
  ∀ takes, worker.cut = some takes →
    worker.takes = takes ∧ worker.inFlight = [] ∧
      worker.settled.Perm (List.range worker.numbered) ∧
        worker.stateDict = .ok worker.outputQueue

theorem WorkerInvariant.cutConsistent {worker : AsyncRolloutWorker}
    (invariant : WorkerInvariant worker) : worker.CutConsistent := by
  intro takes isCut
  rcases invariant.cut takes isCut with ⟨_, admission, isIdle, takesEq, quiet⟩
  refine ⟨takesEq, quiet.1, ?_, ?_⟩
  · apply List.perm_iff_count.mpr
    intro group
    have once := invariant.once group
    rw [quiet.1, List.count_nil, Nat.add_zero] at once
    rw [once, List.count_range]
  · rw [AsyncRolloutWorker.stateDict, raiseIf, if_neg]
    · rfl
    · rw [admission, isIdle]
      rintro (same | differs)
      · cases same
      · exact differs rfl

theorem exists_take (worker : AsyncRolloutWorker) (isTaking : worker.loopPc = .taking) :
    ∃ later, worker.step (.take .prompt) = some later ∧ later.takes = worker.takes + 1 ∧
      later.cut = worker.cut := by
  rw [AsyncRolloutWorker.step, AsyncRolloutWorker.take.eq_def, if_pos isTaking]
  exact ⟨_, rfl, rfl, rfl⟩

/-- A draining pause that goes by a status that does not hold returns at once, and a group is
in flight or is taken after it. -/
theorem exists_inconsistentCut {worker paused : AsyncRolloutWorker}
    (steps : worker.step (.pause true) = some paused)
    (stale : ¬ worker.StatusHolds (.pause true)) :
    ∃ later, Reaches AsyncRolloutWorker.step (fun _ _ => True) paused later ∧
      ¬ later.CutConsistent := by
  rw [AsyncRolloutWorker.StatusHolds, Classical.not_imp, Classical.not_imp] at stale
  rcases stale with ⟨admission, isIdle, busy⟩
  rw [AsyncRolloutWorker.step, AsyncRolloutWorker.pause] at steps
  split at steps
  · rw [← Option.some.inj steps]
    have returns : AsyncRolloutWorker.step { worker with
        paused := true, caller := .pausing true worker.paused } .pauseReturn =
      some { worker with
        paused := true
        caller := .idle
        wasPaused := some worker.paused
        cut := some worker.takes } := by
      rw [AsyncRolloutWorker.step, AsyncRolloutWorker.pauseReturn]
      dsimp only
      rw [if_neg, if_pos rfl]
      rw [admission, isIdle]
      exact fun waits => waits.elim (fun same => nomatch same) fun differs => differs.2 rfl
    have returned : Reaches AsyncRolloutWorker.step (fun _ _ => True) _ _ :=
      .next .start trivial returns
    by_cases isTaking : worker.loopPc = .taking
    · rcases exists_take ({ worker with
          paused := true
          caller := .idle
          wasPaused := some worker.paused
          cut := some worker.takes }) isTaking with ⟨later, steps, takesEq, cutEq⟩
      refine ⟨later, returned.next trivial steps, fun consistent => ?_⟩
      have same := (consistent _ cutEq).1
      rw [takesEq] at same
      exact Nat.succ_ne_self _ same
    · refine ⟨_, returned, fun consistent => ?_⟩
      exact busy ⟨(consistent _ rfl).2.1, isTaking⟩
  · cases steps

/-- Every cut is consistent in a run whose draining pauses go by a status that holds, and the
first one that does not breaks it. -/
theorem pause_cutConsistent (concurrency nSamplesPerPrompt : Nat)
    (ready : List (Nat × List (SampleTree Status))) (buffered : List (List (SampleTree Status)))
    (worker : AsyncRolloutWorker)
    (reached : Reaches AsyncRolloutWorker.step AsyncRolloutWorker.StatusHolds
      (.initial concurrency nSamplesPerPrompt ready buffered) worker) :
    worker.CutConsistent ∧ ∀ paused, worker.step (.pause true) = some paused →
      ¬ worker.StatusHolds (.pause true) →
        ∃ later, Reaches AsyncRolloutWorker.step (fun _ _ => True) paused later ∧
          ¬ later.CutConsistent := by
  have invariant : WorkerInvariant worker := by
    apply reached.invariant WorkerInvariant
    case initially => exact .initial concurrency nSamplesPerPrompt ready buffered
    case preserved =>
      intro state action later statusHolds invariant steps
      exact invariant.step statusHolds steps
  exact ⟨invariant.cutConsistent, fun paused steps stale => exists_inconsistentCut steps stale⟩

def pausedOverAGroup : List WorkerAction :=
  [.reap, .checkTopUp, .take .prompt, .checkTopUp, .publish, .pause true,
    .finish 0 [.sample .completed], .callback 0, .wake, .reap, .yielded, .checkTopUp, .publish,
    .pauseReturn]

theorem pausedOverAGroup_cutConsistent :
    ∃ worker, runActions AsyncRolloutWorker.step AsyncRolloutWorker.StatusHolds
      (.initial 1 1 [] []) pausedOverAGroup = some worker ∧ worker.cut = some 1 ∧
        worker.CutConsistent := by
  have ran : ∃ worker, runActions AsyncRolloutWorker.step AsyncRolloutWorker.StatusHolds
      (.initial 1 1 [] []) pausedOverAGroup = some worker ∧ worker.cut = some 1 := ⟨_, rfl, rfl⟩
  rcases ran with ⟨worker, runEq, isCut⟩
  exact ⟨worker, runEq, isCut,
    (pause_cutConsistent 1 1 [] [] worker (Reaches.of_run .start runEq)).1⟩

def pausedBeforePublication : List WorkerAction :=
  [.pause true, .reap, .checkTopUp, .publish, .pauseReturn, .resume, .wake, .reap, .checkTopUp,
    .take .prompt, .pause true, .pauseReturn]

/-- The group that was taken is in flight, and in no checkpoint. -/
theorem pausedBeforePublication_inconsistent :
    ∃ worker, Reaches AsyncRolloutWorker.step (fun _ _ => True) (.initial 1 1 [] []) worker ∧
      worker.inFlight = [0] ∧ worker.stateDict = .ok [] ∧ ¬ worker.CutConsistent := by
  have ran : ∃ worker, runActions AsyncRolloutWorker.step (fun _ _ => True)
      (.initial 1 1 [] []) pausedBeforePublication = some worker ∧ worker.cut = some 1 ∧
        worker.inFlight = [0] ∧ worker.stateDict = .ok [] := ⟨_, rfl, rfl, rfl, rfl⟩
  rcases ran with ⟨worker, runEq, isCut, inFlightEq, saved⟩
  refine ⟨worker, Reaches.of_run .start runEq, inFlightEq, saved, fun consistent => ?_⟩
  have nothing := (consistent 1 isCut).2.1
  rw [inFlightEq] at nothing
  cases nothing

end Vime.Rollout
