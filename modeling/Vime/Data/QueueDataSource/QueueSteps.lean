import Vime.Data.QueueDataSource.Batches

/-! # Steps of the durable queue

Every step keeps the commits, the sources of the tasks and the accepted results, and the
log keeps to the tasks.
-/

namespace Vime.Data

open Vime.Foundation

section Queue

variable {isBatch : String → Bool}

structure JobQueue.Extends (earlier later : JobQueue) : Prop where
  commits : earlier.commits <+: later.commits
  tasks : ∀ taskId task, earlier.tasks taskId = some task →
    ∃ next, later.tasks taskId = some next ∧ next.sourcePositions = task.sourcePositions ∧
      ∀ position resultRef, task.state = .completed position resultRef →
        next.state = .completed position resultRef

structure JobQueue.Consistent (isBatch : String → Bool) (queue : JobQueue) : Prop where
  committed : ∀ taskId position resultRef, queue.Accepted taskId position resultRef →
    queue.commits[position]? = some taskId
  accepted : ∀ (position : Nat) taskId, queue.commits[position]? = some taskId →
    ∃ resultRef, queue.Accepted taskId position resultRef
  sources : ∀ taskId task, queue.tasks taskId = some task →
    ∀ position ∈ task.sourcePositions.getD [], queue.IsRaw isBatch position

theorem JobQueue.Extends.refl (queue : JobQueue) : queue.Extends queue :=
  ⟨List.prefix_rfl, fun _ task found => ⟨task, found, rfl, fun _ _ completed => completed⟩⟩

theorem JobQueue.Extends.commit {earlier later : JobQueue} (extended : earlier.Extends later)
    {position : Nat} {taskId : String} (found : earlier.commits[position]? = some taskId) :
    later.commits[position]? = some taskId := by
  rcases extended.commits with ⟨added, commitsEq⟩
  rw [← commitsEq, List.getElem?_append_left (List.getElem?_eq_some_iff.mp found).1]
  exact found

theorem JobQueue.Extends.isRaw {earlier later : JobQueue} (extended : earlier.Extends later)
    {position : Nat} (raw : earlier.IsRaw isBatch position) : later.IsRaw isBatch position := by
  rcases raw with ⟨taskId, found, notBatch⟩
  exact ⟨taskId, extended.commit found, notBatch⟩

theorem JobQueue.Extends.accepted {earlier later : JobQueue} (extended : earlier.Extends later)
    {taskId resultRef : String} {position : Nat}
    (accepted : earlier.Accepted taskId position resultRef) :
    later.Accepted taskId position resultRef := by
  rcases accepted with ⟨task, found, completed⟩
  rcases extended.tasks taskId task found with ⟨next, nextFound, _, keeps⟩
  exact ⟨next, nextFound, keeps position resultRef completed⟩

def JobQueue.plan (queue : JobQueue) (batchId : String) : List Nat :=
  (queue.log.sourcePositions batchId).getD []

theorem JobQueue.Extends.plan {earlier later : JobQueue} (extended : earlier.Extends later)
    {taskId : String} {task : QueueTask} (found : earlier.tasks taskId = some task) :
    later.plan taskId = earlier.plan taskId := by
  rcases extended.tasks taskId task found with ⟨next, nextFound, sources, _⟩
  dsimp only [JobQueue.plan, JobQueue.log, AcceptedLog.ofCommits]
  rw [nextFound, found, Option.bind_some, Option.bind_some, sources]

theorem JobQueue.sources_eq {queue : JobQueue} {taskId : String} {position : Nat}
    (found : queue.commits[position]? = some taskId) :
    queue.log.sources position = queue.plan taskId := by
  have bound : (queue.log.commits[position]?).bind queue.log.sourcePositions =
      queue.log.sourcePositions taskId := by
    rw [show queue.log.commits = queue.commits from rfl, found, Option.bind_some]
  rw [AcceptedLog.sources, bound, JobQueue.plan]

theorem JobQueue.Consistent.plan_raw {queue : JobQueue} (consistent : queue.Consistent isBatch)
    {taskId : String} : ∀ position ∈ queue.plan taskId, queue.IsRaw isBatch position := by
  intro position member
  dsimp only [JobQueue.plan, JobQueue.log, AcceptedLog.ofCommits] at member
  cases found : queue.tasks taskId with
  | none =>
      rw [found] at member
      cases member
  | some task =>
      rw [found] at member
      exact consistent.sources taskId task found position member

theorem JobQueue.Consistent.sources_raw {queue : JobQueue}
    (consistent : queue.Consistent isBatch) {position : Nat} :
    ∀ source ∈ queue.log.sources position, queue.IsRaw isBatch source := by
  intro source member
  cases found : queue.commits[position]? with
  | none =>
      have noSource : queue.log.sources position = [] := by
        rw [AcceptedLog.sources, show queue.log.commits = queue.commits from rfl, found]
        rfl
      rw [noSource] at member
      cases member
  | some taskId =>
      rw [JobQueue.sources_eq found] at member
      exact consistent.plan_raw source member

theorem JobQueue.IsRaw.logged {queue : JobQueue} {position : Nat}
    (raw : queue.IsRaw isBatch position) : position < queue.commits.length := by
  rcases raw with ⟨_, found, _⟩
  exact (List.getElem?_eq_some_iff.mp found).1

theorem JobQueue.Extends.sources {earlier later : JobQueue} (extended : earlier.Extends later)
    (consistent : earlier.Consistent isBatch) {position : Nat} :
    ∀ source ∈ earlier.log.sources position, source ∈ later.log.sources position := by
  intro source member
  cases found : earlier.commits[position]? with
  | none =>
      have noSource : earlier.log.sources position = [] := by
        rw [AcceptedLog.sources, show earlier.log.commits = earlier.commits from rfl, found]
        rfl
      rw [noSource] at member
      cases member
  | some taskId =>
      rcases consistent.accepted position taskId found with ⟨_, task, isTask, _⟩
      rw [JobQueue.sources_eq (extended.commit found), extended.plan isTask,
        ← JobQueue.sources_eq found]
      exact member

/-! ## Steps of the queue -/

structure JobQueue.Steps (isBatch : String → Bool) (earlier later : JobQueue) : Prop where
  extended : earlier.Extends later
  consistent : earlier.Consistent isBatch → later.Consistent isBatch
  consumer : later.consumer = earlier.consumer

structure JobQueue.Quiet (isBatch : String → Bool) (earlier later : JobQueue) : Prop
    extends JobQueue.Steps isBatch earlier later where
  results : ∀ batchId receipt readyRef, isBatch batchId = true →
    later.Accepted batchId receipt readyRef → earlier.Accepted batchId receipt readyRef

theorem JobQueue.Quiet.refl (queue : JobQueue) : queue.Quiet isBatch queue :=
  ⟨⟨JobQueue.Extends.refl queue, id, rfl⟩, fun _ _ _ _ accepted => accepted⟩

/-- A task that is not completed takes another state, or a new task is submitted. -/
theorem JobQueue.quiet_update {queue : JobQueue} {taskId : String} {task : QueueTask}
    (open_ : ∀ old, queue.tasks taskId = some old →
      old.sourcePositions = task.sourcePositions ∧
        ∀ position resultRef, old.state ≠ .completed position resultRef)
    (isOpen : ∀ position resultRef, task.state ≠ .completed position resultRef)
    (raw : ∀ position ∈ task.sourcePositions.getD [], queue.Consistent isBatch →
      queue.IsRaw isBatch position) :
    queue.Quiet isBatch
      { queue with tasks := Function.update queue.tasks taskId (some task) } := by
  have same : ∀ other, Function.update queue.tasks taskId (some task) other =
      if other = taskId then some task else queue.tasks other := fun other =>
    Function.update_apply ..
  have extended : queue.Extends
      { queue with tasks := Function.update queue.tasks taskId (some task) } := by
    refine ⟨List.prefix_rfl, fun other old found => ?_⟩
    dsimp only
    rw [same]
    by_cases isTask : other = taskId
    · subst isTask
      have kept := open_ old found
      rw [if_pos rfl]
      exact ⟨task, rfl, kept.1.symm, fun position resultRef completed =>
        absurd completed (kept.2 position resultRef)⟩
    · rw [if_neg isTask]
      exact ⟨old, found, rfl, fun _ _ completed => completed⟩
  have acceptedBefore : ∀ other position resultRef,
      JobQueue.Accepted { queue with tasks := Function.update queue.tasks taskId (some task) }
        other position resultRef → queue.Accepted other position resultRef := by
    rintro other position resultRef ⟨next, found, completed⟩
    dsimp only at found
    rw [same] at found
    by_cases isTask : other = taskId
    · rw [if_pos isTask] at found
      rw [← Option.some.inj found] at completed
      exact absurd completed (isOpen position resultRef)
    · rw [if_neg isTask] at found
      exact ⟨next, found, completed⟩
  refine ⟨⟨extended, fun consistent => ?_, rfl⟩, fun other position resultRef _ =>
    acceptedBefore other position resultRef⟩
  constructor
  · intro other position resultRef accepted
    exact consistent.committed other position resultRef
      (acceptedBefore other position resultRef accepted)
  · intro position other found
    rcases consistent.accepted position other found with ⟨resultRef, accepted⟩
    exact ⟨resultRef, extended.accepted accepted⟩
  · intro other next found position member
    dsimp only at found
    rw [same] at found
    apply extended.isRaw
    by_cases isTask : other = taskId
    · rw [if_pos isTask] at found
      rw [← Option.some.inj found] at member
      exact raw position member consistent
    · rw [if_neg isTask] at found
      exact consistent.sources other next found position member

theorem JobQueue.quiet_submitTask (queue : JobQueue) (taskId inputRef : String)
    (sourcePositions : Option (List Nat))
    (raw : ∀ position ∈ sourcePositions.getD [], queue.IsRaw isBatch position) :
    queue.Quiet isBatch (queue.submitTask taskId ⟨inputRef, sourcePositions, .pending⟩) := by
  rw [JobQueue.submitTask]
  cases found : queue.tasks taskId with
  | some old => exact JobQueue.Quiet.refl queue
  | none =>
      apply JobQueue.quiet_update
      · intro old isOld
        rw [found] at isOld
        cases isOld
      · exact fun _ _ completed => nomatch completed
      · exact fun position member _ => raw position member

theorem JobQueue.quiet_setState {queue : JobQueue} {taskId inputRef : String}
    {sourcePositions : Option (List Nat)} {before after : TaskState}
    (found : queue.tasks taskId = some ⟨inputRef, sourcePositions, before⟩)
    (wasOpen : ∀ position resultRef, before ≠ .completed position resultRef)
    (isOpen : ∀ position resultRef, after ≠ .completed position resultRef) :
    queue.Quiet isBatch (queue.setState taskId ⟨inputRef, sourcePositions, before⟩ after) := by
  apply JobQueue.quiet_update
  · intro old isOld
    rw [found, Option.some.injEq] at isOld
    rw [← isOld]
    exact ⟨rfl, wasOpen⟩
  · exact isOpen
  · exact fun position member consistent => consistent.sources taskId _ found position member

theorem JobQueue.quiet_acquire {queue later : JobQueue} {taskId : String}
    (acquired : queue.acquire taskId = some later) : queue.Quiet isBatch later := by
  rw [JobQueue.acquire] at acquired
  split at acquired
  · rename_i found
    rw [← Option.some.inj acquired]
    exact JobQueue.quiet_setState found (fun _ _ completed => nomatch completed)
      fun _ _ completed => nomatch completed
  · cases acquired

theorem JobQueue.quiet_release {queue later : JobQueue} {taskId : String}
    (released : queue.release taskId = some later) : queue.Quiet isBatch later := by
  rw [JobQueue.release] at released
  split at released
  · rename_i found
    rw [← Option.some.inj released]
    exact JobQueue.quiet_setState found (fun _ _ completed => nomatch completed)
      fun _ _ completed => nomatch completed
  · cases released

theorem JobQueue.quiet_failTask {queue later : JobQueue} {taskId : String}
    (failed : queue.failTask taskId = some later) : queue.Quiet isBatch later := by
  rw [JobQueue.failTask] at failed
  split at failed
  · rename_i found
    rw [← Option.some.inj failed]
    exact JobQueue.quiet_setState found (fun _ _ completed => nomatch completed)
      fun _ _ completed => nomatch completed
  · rw [← Option.some.inj failed]
    exact JobQueue.Quiet.refl queue
  · cases failed

/-- Completing a task appends its commit. -/
theorem JobQueue.steps_completeTask {queue later : JobQueue} {taskId resultRef : String}
    (completed : queue.completeTask taskId resultRef = some later) :
    queue.Steps isBatch later ∧ later.Accepted taskId queue.commits.length resultRef ∧
      ∀ other position otherRef, later.Accepted other position otherRef →
        queue.Accepted other position otherRef ∨
          other = taskId ∧ position = queue.commits.length ∧ otherRef = resultRef := by
  rw [JobQueue.completeTask] at completed
  split at completed
  · rename_i inputRef sourcePositions found
    rw [← Option.some.inj completed]
    clear completed
    have same : ∀ other (task : QueueTask), Function.update queue.tasks taskId (some task) other =
        if other = taskId then some task else queue.tasks other := fun other task =>
      Function.update_apply ..
    have acceptedBefore : ∀ other position otherRef,
        JobQueue.Accepted { queue.setState taskId ⟨inputRef, sourcePositions, .leased⟩
            (.completed queue.commits.length resultRef) with
          commits := queue.commits ++ [taskId] } other position otherRef →
        queue.Accepted other position otherRef ∨
          other = taskId ∧ position = queue.commits.length ∧ otherRef = resultRef := by
      rintro other position otherRef ⟨next, isNext, isCompleted⟩
      dsimp only [JobQueue.setState] at isNext
      rw [same] at isNext
      by_cases isTask : other = taskId
      · rw [if_pos isTask] at isNext
        rw [← Option.some.inj isNext, TaskState.completed.injEq] at isCompleted
        exact Or.inr ⟨isTask, isCompleted.1.symm, isCompleted.2.symm⟩
      · rw [if_neg isTask] at isNext
        exact Or.inl ⟨next, isNext, isCompleted⟩
    have extended : queue.Extends { queue.setState taskId ⟨inputRef, sourcePositions, .leased⟩
          (.completed queue.commits.length resultRef) with
        commits := queue.commits ++ [taskId] } := by
      refine ⟨List.prefix_append _ _, fun other old isOld => ?_⟩
      dsimp only [JobQueue.setState]
      rw [same]
      by_cases isTask : other = taskId
      · rw [if_pos isTask]
        rw [isTask, found, Option.some.injEq] at isOld
        rw [← isOld]
        exact ⟨_, rfl, rfl, fun _ _ isCompleted => nomatch isCompleted⟩
      · rw [if_neg isTask]
        exact ⟨old, isOld, rfl, fun _ _ isCompleted => isCompleted⟩
    have isAccepted : JobQueue.Accepted { queue.setState taskId
          ⟨inputRef, sourcePositions, .leased⟩ (.completed queue.commits.length resultRef) with
        commits := queue.commits ++ [taskId] } taskId queue.commits.length resultRef := by
      refine ⟨⟨inputRef, sourcePositions, .completed queue.commits.length resultRef⟩, ?_, rfl⟩
      dsimp only [JobQueue.setState]
      rw [same, if_pos rfl]
    refine ⟨⟨extended, fun consistent => ?_, rfl⟩, isAccepted, acceptedBefore⟩
    constructor
    · intro other position otherRef accepted
      rcases acceptedBefore other position otherRef accepted with before | ⟨rfl, rfl, _⟩
      · exact extended.commit (consistent.committed other position otherRef before)
      · exact List.getElem?_concat_length
    · intro position other isCommit
      dsimp only at isCommit
      rcases Nat.lt_or_ge position queue.commits.length with inside | outside
      · rw [List.getElem?_append_left inside] at isCommit
        rcases consistent.accepted position other isCommit with ⟨otherRef, accepted⟩
        exact ⟨otherRef, extended.accepted accepted⟩
      · have atEnd : position = queue.commits.length := by
          have bound := (List.getElem?_eq_some_iff.mp isCommit).1
          rw [List.length_append, List.length_singleton] at bound
          omega
        rw [atEnd, List.getElem?_concat_length, Option.some.injEq] at isCommit
        rw [atEnd, ← isCommit]
        exact ⟨resultRef, isAccepted⟩
    · intro other next isNext position member
      apply extended.isRaw
      dsimp only [JobQueue.setState] at isNext
      rw [same] at isNext
      by_cases isTask : other = taskId
      · rw [if_pos isTask] at isNext
        rw [← Option.some.inj isNext] at member
        exact consistent.sources taskId _ found position member
      · rw [if_neg isTask] at isNext
        exact consistent.sources other next isNext position member
  · cases completed

theorem JobQueue.quiet_completeTask {queue later : JobQueue} {taskId resultRef : String}
    (notBatch : isBatch taskId = false)
    (completed : queue.completeTask taskId resultRef = some later) :
    queue.Quiet isBatch later := by
  rcases JobQueue.steps_completeTask completed with ⟨steps, _, results⟩
  refine ⟨steps, fun batchId receipt readyRef batch accepted => ?_⟩
  rcases results batchId receipt readyRef accepted with before | ⟨same, _⟩
  · exact before
  · rw [same, notBatch] at batch
    cases batch

end Queue

end Vime.Data
