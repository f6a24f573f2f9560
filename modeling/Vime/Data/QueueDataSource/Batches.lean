import Mathlib.Logic.Function.Basic
import Vime.Data.QueueDataSource.TrainingState
import Vime.Foundation.Execution

/-! # Training batches

`plan_batch`, `ready_batch`, `finish_batch`, `record_dispositions` and `reject` of
`vime/data/queue_data_source.py`. Every action does one durable write, and the process may
die before any of them.
-/

namespace Vime.Data

open Vime.Foundation

/-! ## The durable state -/

inductive TaskState where
  | pending
  | leased
  /-- The position of the receipt and the accepted result. -/
  | completed (position : Nat) (resultRef : String)
  | failed
  deriving DecidableEq, Repr

structure QueueTask where
  inputRef : String
  sourcePositions : Option (List Nat) := none
  state : TaskState := .pending
  deriving DecidableEq, Repr

structure ConsumerState extends TrainingState where
  conversionStarted : Bool := false
  deriving DecidableEq, Repr

/-- What the coordinator holds: the accepted log with its tasks, and the state of the
training consumer. -/
structure JobQueue where
  tasks : String → Option QueueTask := fun _ => none
  commits : List String := []
  consumer : ConsumerState := {}

namespace JobQueue

def log (queue : JobQueue) : AcceptedLog :=
  .ofCommits queue.commits fun taskId => (queue.tasks taskId).bind QueueTask.sourcePositions

def submitTask (queue : JobQueue) (taskId : String) (task : QueueTask) : JobQueue :=
  match queue.tasks taskId with
  | some _ => queue
  | none => { queue with tasks := Function.update queue.tasks taskId (some task) }

def setState (queue : JobQueue) (taskId : String) (task : QueueTask) (state : TaskState) :
    JobQueue :=
  { queue with tasks := Function.update queue.tasks taskId (some { task with state := state }) }

/-- `acquire` of one task; only a pending one is assigned. -/
def acquire (queue : JobQueue) (taskId : String) : Option JobQueue :=
  match queue.tasks taskId with
  | some ⟨inputRef, sourcePositions, .pending⟩ =>
      some (queue.setState taskId ⟨inputRef, sourcePositions, .pending⟩ .leased)
  | _ => none

def release (queue : JobQueue) (taskId : String) : Option JobQueue :=
  match queue.tasks taskId with
  | some ⟨inputRef, sourcePositions, .leased⟩ =>
      some (queue.setState taskId ⟨inputRef, sourcePositions, .leased⟩ .pending)
  | _ => none

def completeTask (queue : JobQueue) (taskId resultRef : String) : Option JobQueue :=
  match queue.tasks taskId with
  | some ⟨inputRef, sourcePositions, .leased⟩ =>
      some { queue.setState taskId ⟨inputRef, sourcePositions, .leased⟩
          (.completed queue.commits.length resultRef) with
        commits := queue.commits ++ [taskId] }
  | _ => none

def failTask (queue : JobQueue) (taskId : String) : Option JobQueue :=
  match queue.tasks taskId with
  | some ⟨inputRef, sourcePositions, .leased⟩ =>
      some (queue.setState taskId ⟨inputRef, sourcePositions, .leased⟩ .failed)
  | some ⟨_, _, .failed⟩ => some queue
  | _ => none

def save (queue : JobQueue) (consumer : ConsumerState) : JobQueue :=
  { queue with consumer := consumer }

def saveTraining (queue : JobQueue) (state : TrainingState) : JobQueue :=
  queue.save { queue.consumer with toTrainingState := state }

end JobQueue

/-! ## The coordinator -/

section Coordinator

variable {Q : Type}

/-- The coordinator as training uses it: what its state holds, and its durable writes, each
of which it may refuse. -/
structure TrainingCoordinator (Q : Type) where
  initial : Q
  contents : Q → JobQueue
  readCommits : Q → Nat → Nat → Except PyException (List String)
  submitTask : Q → String → QueueTask → Option Q
  acquire : Q → String → Option Q
  release : Q → String → Option Q
  completeTask : Q → String → String → Option Q
  failTask : Q → String → Option Q
  saveConsumerState : Q → ConsumerState → Option Q

namespace TrainingCoordinator

variable (coordinator : TrainingCoordinator Q)

def consumer (queue : Q) : ConsumerState := (coordinator.contents queue).consumer

def log (queue : Q) : AcceptedLog :=
  { (coordinator.contents queue).log with readCommits := coordinator.readCommits queue }

/-- What straw promises: a write is atomic and done once for each request, the log is only
appended to, and its positions can be read. -/
structure Lawful : Prop where
  starts : coordinator.contents coordinator.initial = {}
  readsInRange : ∀ queue, (coordinator.log queue).ReadsInRange
  submitsOnce : ∀ {queue later taskId task},
    coordinator.submitTask queue taskId task = some later →
      coordinator.contents later = (coordinator.contents queue).submitTask taskId task
  leases : ∀ {queue later taskId}, coordinator.acquire queue taskId = some later →
    (coordinator.contents queue).acquire taskId = some (coordinator.contents later)
  releases : ∀ {queue later taskId}, coordinator.release queue taskId = some later →
    (coordinator.contents queue).release taskId = some (coordinator.contents later)
  completesAtomically : ∀ {queue later taskId resultRef},
    coordinator.completeTask queue taskId resultRef = some later →
      (coordinator.contents queue).completeTask taskId resultRef =
        some (coordinator.contents later)
  fails : ∀ {queue later taskId}, coordinator.failTask queue taskId = some later →
    (coordinator.contents queue).failTask taskId = some (coordinator.contents later)
  savesAtomically : ∀ {queue later state},
    coordinator.saveConsumerState queue state = some later →
      coordinator.contents later = (coordinator.contents queue).save state

def saveTrainingState (queue : Q) (state : TrainingState) : Option Q :=
  coordinator.saveConsumerState queue
    { coordinator.consumer queue with toTrainingState := state }

def saveAdvanced (queue : Q) (positions : List Nat)
    (change : TrainingState → TrainingState) : Option Q :=
  match advance (coordinator.log queue) (coordinator.consumer queue).toTrainingState
    positions with
  | .error _ => none
  | .ok state => coordinator.saveTrainingState queue (change state)

end TrainingCoordinator

def JobQueue.coordinator : TrainingCoordinator JobQueue where
  initial := {}
  contents := id
  readCommits queue := queue.log.readCommits
  submitTask queue taskId task := some (queue.submitTask taskId task)
  acquire := JobQueue.acquire
  release := JobQueue.release
  completeTask := JobQueue.completeTask
  failTask := JobQueue.failTask
  saveConsumerState queue state := some (queue.save state)

theorem JobQueue.lawful : JobQueue.coordinator.Lawful where
  starts := rfl
  readsInRange _ := AcceptedLog.ofCommits_readsInRange _ _
  submitsOnce submitted := (Option.some.inj submitted).symm
  leases := id
  releases := id
  completesAtomically := id
  fails := id
  savesAtomically saved := (Option.some.inj saved).symm

end Coordinator

/-! ## Calls -/

inductive TrainingPc where
  | idle
  -- `plan_batch`
  | acquiring (batchId : String)
  | starting (batchId : String)
  -- `ready_batch`
  | completing (batchId readyRef : String)
  | readying (batchId readyRef : String)
  deriving DecidableEq, Repr

inductive TrainingEvent where
  | disposed (positions : List Nat)
  | readied (batchId : String)
  | finished (batchId : String)
  deriving DecidableEq, Repr

structure TrainingRun (Q : Type) where
  queue : Q
  pc : TrainingPc := .idle
  /-- Source positions of rejected tasks whose disposition is not recorded yet. -/
  rejecting : List (List Nat) := []
  history : List TrainingEvent := []

inductive TrainingAction where
  -- generation and collection
  | submit (taskId inputRef : String) (sourcePositions : Option (List Nat))
  | acquire (taskId : String)
  | release (taskId : String)
  | complete (taskId resultRef : String)
  -- conversion
  | planBatch (batchId : String) (positions : List Nat) (planRef : String)
  | acquirePlanned
  | saveStarted
  | readyBatch (batchId readyRef : String)
  | acceptReady
  | saveReady
  | finishBatch (batchId : String)
  -- selection
  | recordDispositions (ref : String) (positions : List Int) (reason : Option String)
  | reject (taskId : String)
  | recordRejection (index : Nat) (ref reason : String)
  /-- The process dies, or an exception leaves the call that holds the lock. -/
  | crash
  deriving DecidableEq, Repr

def TrainingState.withBatch (state : TrainingState) (readyRef : String) : TrainingState :=
  if readyRef ∈ state.batches then state
  else { state with batches := state.batches ++ [readyRef] }

def TrainingState.withoutBatch (state : TrainingState) (readyRef : String) : TrainingState :=
  { state with batches := state.batches.filter (· ≠ readyRef) }

namespace TrainingRun

variable {Q : Type} (coordinator : TrainingCoordinator Q)

/-- `ready_batch`, up to the lease of its task. -/
def openReady (run : TrainingRun Q) (batchId readyRef : String) : Option (TrainingRun Q) :=
  match (coordinator.contents run.queue).tasks batchId with
  | none => none
  | some task =>
      match task.state with
      | .completed _ accepted =>
          -- "Batch was already published with another ready reference"
          if accepted = readyRef then some { run with pc := .readying batchId readyRef } else none
      | .leased => some { run with pc := .completing batchId readyRef }
      | _ => (coordinator.acquire run.queue batchId).map fun queue =>
          { run with queue := queue, pc := .completing batchId readyRef }

/-- The consumer write of `ready_batch`, unless the call raises. -/
def saveReady (run : TrainingRun Q) (batchId readyRef : String) : TrainingRun Q :=
  let inputPositions := ((coordinator.log run.queue).sourcePositions batchId).getD []
  match coordinator.saveAdvanced run.queue inputPositions (·.withBatch readyRef) with
  | none => { run with pc := .idle }
  | some queue =>
      { run with
        queue := queue
        pc := .idle
        history := .readied batchId :: run.history }

def finishBatch (run : TrainingRun Q) (batchId : String) : Option (TrainingRun Q) :=
  match (coordinator.contents run.queue).tasks batchId with
  | some ⟨_, _, .completed position readyRef⟩ =>
      (coordinator.saveAdvanced run.queue [position] (·.withoutBatch readyRef)).map
        fun queue =>
          { run with queue := queue, history := .finished batchId :: run.history }
  -- "Cannot finish an unknown or unready training batch"
  | _ => none

def record (run : TrainingRun Q) (ref : String) (positions : List Int)
    (reason : Option String) : Option (TrainingRun Q) :=
  match recordDispositions (coordinator.log run.queue)
      (coordinator.consumer run.queue).toTrainingState ref positions reason with
  | .error _ => none
  | .ok state => (coordinator.saveTrainingState run.queue state).map fun queue =>
      { run with
        queue := queue
        history := .disposed (positions.map Int.toNat) :: run.history }

def reject (run : TrainingRun Q) (taskId : String) : Option (TrainingRun Q) :=
  (coordinator.failTask run.queue taskId).map fun queue =>
    let positions := ((coordinator.log queue).sourcePositions taskId).getD []
    { run with
      queue := queue
      rejecting := if positions = [] then run.rejecting else run.rejecting ++ [positions] }

/-- `plan_batch` marks that conversion has started, unless it is marked. -/
def startConversion (run : TrainingRun Q) : Option (TrainingRun Q) :=
  let consumer := coordinator.consumer run.queue
  if consumer.conversionStarted then some { run with pc := .idle }
  else
    (coordinator.saveConsumerState run.queue { consumer with conversionStarted := true }).map
      fun queue => { run with queue := queue, pc := .idle }

def step (run : TrainingRun Q) : TrainingAction → Option (TrainingRun Q)
  | .submit taskId inputRef sourcePositions =>
      (coordinator.submitTask run.queue taskId
          { inputRef := inputRef, sourcePositions := sourcePositions }).map
        fun queue => { run with queue := queue }
  | .acquire taskId =>
      (coordinator.acquire run.queue taskId).map fun queue => { run with queue := queue }
  | .release taskId =>
      (coordinator.release run.queue taskId).map fun queue => { run with queue := queue }
  | .complete taskId resultRef =>
      (coordinator.completeTask run.queue taskId resultRef).map
        fun queue => { run with queue := queue }
  | .planBatch batchId positions planRef =>
      match run.pc with
      | .idle =>
          (coordinator.submitTask run.queue batchId
              { inputRef := planRef, sourcePositions := some positions }).map
            fun queue => { run with queue := queue, pc := .acquiring batchId }
      | _ => none
  | .acquirePlanned =>
      match run.pc with
      | .acquiring batchId => some
          { run with
            queue := (coordinator.acquire run.queue batchId).getD run.queue
            pc := .starting batchId }
      | _ => none
  | .saveStarted =>
      match run.pc with
      | .starting _ => run.startConversion coordinator
      | _ => none
  | .readyBatch batchId readyRef =>
      match run.pc with
      | .idle => run.openReady coordinator batchId readyRef
      | _ => none
  | .acceptReady =>
      match run.pc with
      | .completing batchId readyRef =>
          match coordinator.completeTask run.queue batchId readyRef with
          | some queue => some { run with queue := queue, pc := .readying batchId readyRef }
          | none => some { run with pc := .idle }
      | _ => none
  | .saveReady =>
      match run.pc with
      | .readying batchId readyRef => some (run.saveReady coordinator batchId readyRef)
      | _ => none
  | .finishBatch batchId =>
      match run.pc with
      | .idle => run.finishBatch coordinator batchId
      | _ => none
  | .recordDispositions ref positions reason =>
      match run.pc with
      | .idle => run.record coordinator ref positions reason
      | _ => none
  | .reject taskId => run.reject coordinator taskId
  | .recordRejection index ref reason =>
      match run.pc, run.rejecting[index]? with
      | .idle, some positions =>
          (run.record coordinator ref (positions.map Int.ofNat) (some reason)).map fun next =>
            { next with rejecting := run.rejecting.eraseIdx index }
      | _, _ => none
  | .crash => some { run with pc := .idle, rejecting := [] }

end TrainingRun

/-! ## Batches of raw outputs -/

section Allowed

variable (isBatch : String → Bool)

def JobQueue.IsRaw (queue : JobQueue) (position : Nat) : Prop :=
  ∃ taskId, queue.commits[position]? = some taskId ∧ isBatch taskId = false

def JobQueue.Accepted (queue : JobQueue) (batchId : String) (position : Nat)
    (readyRef : String) : Prop :=
  ∃ task, queue.tasks batchId = some task ∧ task.state = .completed position readyRef

def TrainingRun.Allowed {Q : Type} (coordinator : TrainingCoordinator Q)
    (run : TrainingRun Q) : TrainingAction → Prop
  | .submit taskId _ sourcePositions =>
      isBatch taskId = false ∧ ∀ position ∈ sourcePositions.getD [],
        (coordinator.contents run.queue).IsRaw isBatch position
  | .complete taskId _ => isBatch taskId = false
  | .planBatch batchId positions _ =>
      isBatch batchId = true ∧ ∀ position ∈ positions,
        (coordinator.contents run.queue).IsRaw isBatch position
  | .readyBatch batchId readyRef =>
      isBatch batchId = true ∧ ∀ other position, isBatch other = true →
        (coordinator.contents run.queue).Accepted other position readyRef → other = batchId
  | .finishBatch batchId => isBatch batchId = true
  | _ => True

end Allowed

end Vime.Data
