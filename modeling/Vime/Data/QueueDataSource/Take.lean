import Mathlib.Logic.Function.Basic
import Vime.Data.DataSource
import Vime.Foundation.Execution

/-! # Taking groups from the queue

`RolloutQueueController.take` and `_source` of `vime/data/queue_data_source.py`: readers
acquire queued tasks and, under the producer lock, refill an empty queue from the
dataset. Every action takes one reader a step further.
-/

namespace Vime.Data

open Vime.Foundation Vime.Utils

/-- A queue task. The reference to its record set stands for the group published there. -/
structure TaskSpec (P : Type) where
  taskId : String
  inputRef : List (Sample P)
  groupIndex : Nat
  deriving DecidableEq, Repr

structure ProducerState where
  version : Nat
  cursor : Cursor
  deriving DecidableEq, Repr

section Coordinator

variable {Q P : Type}

/-- The coordinator as refills use it: what its state shows, and a submission, which it may
refuse. -/
structure Coordinator (Q P : Type) where
  initial : Q
  tasks : Q → List (TaskSpec P)
  producerState : Q → Option ProducerState
  /-- A request that has been carried out. -/
  served : Q → String → Prop
  submitTasks : Q → String → List (TaskSpec P) → ProducerState → Option Q

namespace Coordinator

variable (coordinator : Coordinator Q P)

structure Commits (queue later : Q) (requestId : String) (tasks : List (TaskSpec P))
    (producerState : ProducerState) : Prop where
  tasks : coordinator.tasks later = coordinator.tasks queue ++ tasks
  producerState : coordinator.producerState later = some producerState
  served : ∀ other, coordinator.served later other ↔
    coordinator.served queue other ∨ other = requestId

structure Unchanged (queue later : Q) : Prop where
  tasks : coordinator.tasks later = coordinator.tasks queue
  producerState : coordinator.producerState later = coordinator.producerState queue
  served : ∀ other, coordinator.served later other ↔ coordinator.served queue other

/-- What straw promises: a submission is atomic, and done once for each request. -/
structure Lawful : Prop where
  initialTasks : coordinator.tasks coordinator.initial = []
  initialState : coordinator.producerState coordinator.initial = none
  initialServed : ∀ requestId, ¬ coordinator.served coordinator.initial requestId
  atomic : ∀ {queue later requestId tasks producerState},
    coordinator.submitTasks queue requestId tasks producerState = some later →
      ¬ coordinator.served queue requestId →
        coordinator.Commits queue later requestId tasks producerState
  once : ∀ {queue later requestId tasks producerState},
    coordinator.submitTasks queue requestId tasks producerState = some later →
      coordinator.served queue requestId → coordinator.Unchanged queue later

end Coordinator

/-- The durable state of a coordinator that keeps the requests it has served. -/
structure SubmittedTasks (P : Type) where
  requests : List String := []
  tasks : List (TaskSpec P) := []
  producerState : Option ProducerState := none

def SubmittedTasks.submitTasks (queue : SubmittedTasks P) (requestId : String)
    (tasks : List (TaskSpec P)) (producerState : ProducerState) : SubmittedTasks P :=
  if requestId ∈ queue.requests then queue
  else
    { requests := queue.requests ++ [requestId]
      tasks := queue.tasks ++ tasks
      producerState := some producerState }

def SubmittedTasks.coordinator (P : Type) : Coordinator (SubmittedTasks P) P where
  initial := {}
  tasks := SubmittedTasks.tasks
  producerState := SubmittedTasks.producerState
  served queue requestId := requestId ∈ queue.requests
  submitTasks queue requestId tasks producerState :=
    some (queue.submitTasks requestId tasks producerState)

theorem SubmittedTasks.lawful (P : Type) : (SubmittedTasks.coordinator P).Lawful := by
  constructor
  case initialTasks => rfl
  case initialState => rfl
  case initialServed =>
    intro requestId member
    cases member
  case atomic =>
    intro queue later requestId tasks producerState submitted fresh
    have isNew : requestId ∉ queue.requests := fresh
    rw [← Option.some.inj submitted, SubmittedTasks.submitTasks, if_neg isNew]
    exact ⟨rfl, rfl, fun other => by simp [SubmittedTasks.coordinator]⟩
  case once =>
    intro queue later requestId tasks producerState submitted repeated
    have isOld : requestId ∈ queue.requests := repeated
    rw [← Option.some.inj submitted, SubmittedTasks.submitTasks, if_pos isOld]
    exact ⟨rfl, rfl, fun other => Iff.rfl⟩

end Coordinator

/-- Where a reader stands inside `take`. -/
inductive ReaderPc (P : Type) where
  | idle
  | acquiring (count : Nat)
  | waiting (count : Nat)
  -- under the producer lock
  | rechecking (count : Nat)
  | opening (count : Nat)
  | restoring (count : Nat)
  | drawing (count : Nat)
  | publishing (start : Nat) (groups : List (List (Sample P)))
  | submitting (start : Nat) (tasks : List (TaskSpec P))
  -- after the refill
  | delivering

structure Controller (Q P : Type) where
  producer : Option (RolloutDataSource P) := none
  initialCursor : Option Cursor := none
  producerLock : Option Nat := none
  queue : Q
  readers : Nat → ReaderPc P := fun _ => .idle

inductive TakeAction where
  | take (reader count : Nat)
  /-- `queue.acquire`, with whether it found tasks. -/
  | acquire (reader : Nat) (found : Bool)
  | lock (reader : Nat)
  | openSource (reader : Nat)
  | restore (reader : Nat)
  | draw (reader : Nat)
  | publish (reader : Nat)
  | submit (reader : Nat)
  /-- An exception leaves `take`. -/
  | fail (reader : Nat)
  deriving DecidableEq, Repr

def taskOf {P : Type} : List (Sample P) → Option (TaskSpec P)
  | [] => none
  | sample :: others =>
      some ⟨s!"prompt:{sample.groupIndex}", sample :: others, sample.groupIndex⟩

def refillCount (count : Nat) : Nat := min (max count 8) 64

namespace Controller

variable {Q P : Type} (args : SourceArgs P) (coordinator : Coordinator Q P)

def setReader (controller : Controller Q P) (reader : Nat) (pc : ReaderPc P) :
    Controller Q P :=
  { controller with readers := Function.update controller.readers reader pc }

/-- The end of `take`, which leaves the lock if it is held. -/
def leave (controller : Controller Q P) (reader : Nat) (pc : ReaderPc P) : Controller Q P :=
  { controller.setReader reader pc with
    producerLock :=
      if controller.producerLock = some reader then none else controller.producerLock }

/-- `_source`: the source is opened once, and its cursor recorded before it is used. -/
def openSource (controller : Controller Q P) (reader count : Nat) : Controller Q P :=
  let source := controller.producer.getD (RolloutDataSource.init args)
  let opened := { controller with producer := some source }
  if source.dataset.any fun dataset => dataset.samples.length = 0 then
    -- "Queue rollout dataset is empty after filtering"
    opened.leave reader .idle
  else
    { opened.setReader reader (.restoring count) with
      initialCursor := some (controller.initialCursor.getD source.toCursor) }

def restoreCursor (source : RolloutDataSource P) (cursor : Cursor) : RolloutDataSource P :=
  { source with
    toCursor := cursor
    dataset := source.dataset.map fun dataset =>
      shuffleIfAsked args dataset cursor.epochId }

def committedCursor (controller : Controller Q P) : Option Cursor :=
  match coordinator.producerState controller.queue with
  | some state => some state.cursor
  | none => controller.initialCursor

def step (controller : Controller Q P) : TakeAction → Option (Controller Q P)
  | .take reader count =>
      match controller.readers reader with
      | .idle => some (controller.setReader reader (.acquiring count))
      | _ => none
  | .acquire reader found =>
      match controller.readers reader with
      | .acquiring count =>
          some (controller.setReader reader (if found then .idle else .waiting count))
      | .rechecking count =>
          if found then some (controller.leave reader .idle)
          else some (controller.setReader reader (.opening count))
      | .delivering => some (controller.setReader reader .idle)
      | _ => none
  | .lock reader =>
      match controller.readers reader, controller.producerLock with
      | .waiting count, none =>
          some { controller.setReader reader (.rechecking count) with
            producerLock := some reader }
      | _, _ => none
  | .openSource reader =>
      match controller.readers reader with
      | .opening count => some (controller.openSource args reader count)
      | _ => none
  | .restore reader =>
      match controller.readers reader, controller.producer,
          controller.committedCursor coordinator with
      | .restoring count, some source, some cursor =>
          some { controller.setReader reader (.drawing count) with
            producer := some (restoreCursor args source cursor) }
      | _, _, _ => none
  | .draw reader =>
      match controller.readers reader, controller.producer with
      | .drawing count, some source =>
          let drawn := source.getSamples args (refillCount count)
          some { controller.setReader reader
              (.publishing source.sampleGroupIndex drawn.1) with
            producer := some drawn.2 }
      | _, _ => none
  | .publish reader =>
      match controller.readers reader with
      | .publishing start groups =>
          (groups.mapM taskOf).map fun tasks =>
            controller.setReader reader (.submitting start tasks)
      | _ => none
  | .submit reader =>
      match controller.readers reader, controller.producer with
      | .submitting start tasks, some source =>
          (coordinator.submitTasks controller.queue s!"dataset:{start}" tasks
              ⟨1, source.toCursor⟩).map fun queue =>
            { controller.leave reader .delivering with queue := queue }
      | _, _ => none
  | .fail reader =>
      match controller.readers reader with
      | .idle => none
      | _ => some (controller.leave reader .idle)

end Controller

end Vime.Data
