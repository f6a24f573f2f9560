import Vime.Foundation.Execution
import Vime.Rollout.BaseTypes

/-! # The worker of one process

`AsyncRolloutWorker` of `vime/rollout/fully_async_rollout.py`: the loop thread, its generation
tasks and one thread that calls the worker. The loop runs from one await to the next without
its tasks, but the calling thread can come between any two of its steps.
-/

namespace Vime.Rollout

open Vime.Foundation Vime.Utils Vime.Data

/-! ## Groups -/

/-- A group of the data source. Groups are numbered in the order in which they came first. -/
structure SampleGroup where
  number : Nat
  samples : List (SampleTree Status)

/-- An entry of `output_queue`. -/
structure CompletedGroup where
  gid : Nat
  group : SampleGroup

inductive TaskPhase where
  | running
  /-- With its done callback due. -/
  | finished (result : List (SampleTree Status))
  | called

structure GenerationTask where
  gid : Nat
  input : SampleGroup
  phase : TaskPhase := .running

def GenerationTask.done (task : GenerationTask) : Bool :=
  match task.phase with
  | .running => false
  | _ => true

def GenerationTask.due (task : GenerationTask) : Bool :=
  match task.phase with
  | .finished _ => true
  | _ => false

/-! ## Threads -/

inductive LoopPc where
  /-- At the head of the loop. -/
  | top
  /-- In the `sleep(0)` after reaping. -/
  | yielding
  /-- At the head of the top-up loop. -/
  | topUp
  /-- Inside it, before `get_samples`. -/
  | taking
  | publishing
  /-- In the sleep of the poll interval. -/
  | sleeping
  deriving DecidableEq

inductive CallerPc where
  | idle
  | pausing (drain previous : Bool)
  | collecting (limit : Option Nat) (completed : List CompletedGroup)

/-- What `get_samples(1)` finds: a group of the buffer, whichever the buffer filter picks,
the next prompt of the dataset, or nothing. -/
inductive SourceChoice where
  | buffered (index : Nat)
  | prompt
  | nothing

structure AsyncRolloutWorker where
  concurrency : Nat
  nSamplesPerPrompt : Nat
  paused : Bool := false
  active : Nat := 0
  admissionPaused : Bool := false
  outputQueue : List CompletedGroup := []
  -- the loop
  loopPc : LoopPc := .top
  activeTasks : List GenerationTask := []
  gidCounter : Nat := 0
  /-- Tasks that left `active_tasks` with their callbacks due. -/
  reaped : List GenerationTask := []
  -- the data source
  buffer : List SampleGroup := []
  numbered : Nat := 0
  -- the calling thread
  caller : CallerPc := .idle
  wasPaused : Option Bool := none
  handed : List CompletedGroup := []
  -- history
  takes : Nat := 0
  /-- The `takes` at which the last `pause(drain=True)` returned, until `resume`. -/
  cut : Option Nat := none

inductive WorkerAction where
  | reap
  | yielded
  | checkTopUp
  | take (choice : SourceChoice)
  | publish
  | wake
  | finish (index : Nat) (result : List (SampleTree Status))
  | callback (index : Nat)
  | reapedCallback (index : Nat)
  | pause (drain : Bool)
  | pauseReturn
  | resume
  | getCompletedGroups (limit : Option Nat)
  | getNowait

namespace AsyncRolloutWorker

/-! ## The loop thread -/

def reap (worker : AsyncRolloutWorker) : Option AsyncRolloutWorker :=
  if worker.loopPc = .top then
    if worker.activeTasks.any GenerationTask.done then
      some { worker with
        activeTasks := worker.activeTasks.filter fun task => !task.done
        reaped := worker.activeTasks.filter GenerationTask.due
        loopPc := .yielding }
    else some { worker with loopPc := .topUp }
  else none

def yielded (worker : AsyncRolloutWorker) : Option AsyncRolloutWorker :=
  if worker.loopPc = .yielding then
    match worker.reaped with
    | [] => some { worker with loopPc := .topUp }
    | _ => none
  else none

def checkTopUp (worker : AsyncRolloutWorker) : Option AsyncRolloutWorker :=
  if worker.loopPc = .topUp then
    if worker.activeTasks.length < worker.concurrency ∧
        worker.outputQueue.length < worker.concurrency ∧ worker.paused = false then
      some { worker with loopPc := .taking }
    else some { worker with loopPc := .publishing }
  else none

def addTask (worker : AsyncRolloutWorker) (group : SampleGroup) : AsyncRolloutWorker :=
  { worker with
    activeTasks := worker.activeTasks ++ [⟨worker.gidCounter, group, .running⟩]
    gidCounter := worker.gidCounter + 1
    takes := worker.takes + 1
    loopPc := .topUp }

def take (worker : AsyncRolloutWorker) (choice : SourceChoice) : Option AsyncRolloutWorker :=
  if worker.loopPc = .taking then
    match choice with
    | .nothing => some { worker with loopPc := .publishing }
    | .prompt =>
        some (({ worker with numbered := worker.numbered + 1 }).addTask
          ⟨worker.numbered, List.replicate worker.nSamplesPerPrompt (.sample .pending)⟩)
    | .buffered index =>
        worker.buffer[index]?.map fun group =>
          ({ worker with buffer := worker.buffer.eraseIdx index }).addTask group
  else none

def publish (worker : AsyncRolloutWorker) : Option AsyncRolloutWorker :=
  if worker.loopPc = .publishing then
    some { worker with
      active := worker.activeTasks.length
      admissionPaused := worker.paused
      loopPc := .sleeping }
  else none

def wake (worker : AsyncRolloutWorker) : Option AsyncRolloutWorker :=
  if worker.loopPc = .sleeping then some { worker with loopPc := .top } else none

/-! ## Tasks -/

def awaiting (worker : AsyncRolloutWorker) : Prop :=
  worker.loopPc = .sleeping ∨ worker.loopPc = .yielding

instance (worker : AsyncRolloutWorker) : Decidable worker.awaiting :=
  inferInstanceAs (Decidable (_ ∨ _))

/-- `generate_and_rm_group` returns an entry for every sample of the group. -/
def finish (worker : AsyncRolloutWorker) (index : Nat) (result : List (SampleTree Status)) :
    Option AsyncRolloutWorker :=
  match worker.activeTasks[index]? with
  | some ⟨gid, input, .running⟩ =>
      if worker.awaiting ∧ result.length = input.samples.length then
        some { worker with
          activeTasks := worker.activeTasks.set index ⟨gid, input, .finished result⟩ }
      else none
  | _ => none

/-- `_cb` of `_make_done_cb`; `finish` has compared the lengths that the zip compares. -/
def doneCallback (worker : AsyncRolloutWorker) (gid : Nat) (input : SampleGroup)
    (result : List (SampleTree Status)) : AsyncRolloutWorker :=
  if interrupted result then
    { worker with
      buffer := worker.buffer ++ [⟨input.number, retryGroup input.samples result⟩] }
  else { worker with outputQueue := worker.outputQueue ++ [⟨gid, ⟨input.number, result⟩⟩] }

def callback (worker : AsyncRolloutWorker) (index : Nat) : Option AsyncRolloutWorker :=
  match worker.activeTasks[index]? with
  | some ⟨gid, input, .finished result⟩ =>
      if worker.awaiting then
        some (({ worker with
          activeTasks := worker.activeTasks.set index ⟨gid, input, .called⟩ }).doneCallback
            gid input result)
      else none
  | _ => none

def reapedCallback (worker : AsyncRolloutWorker) (index : Nat) : Option AsyncRolloutWorker :=
  match worker.reaped[index]? with
  | some ⟨gid, input, .finished result⟩ =>
      if worker.awaiting then
        some (({ worker with reaped := worker.reaped.eraseIdx index }).doneCallback
          gid input result)
      else none
  | _ => none

/-! ## The calling thread -/

def pause (worker : AsyncRolloutWorker) (drain : Bool) : Option AsyncRolloutWorker :=
  match worker.caller with
  | .idle => some { worker with paused := true, caller := .pausing drain worker.paused }
  | _ => none

def pauseReturn (worker : AsyncRolloutWorker) : Option AsyncRolloutWorker :=
  match worker.caller with
  | .pausing drain previous =>
      if worker.admissionPaused = false ∨ (drain = true ∧ worker.active ≠ 0) then none
      else some { worker with
        caller := .idle
        wasPaused := some previous
        cut := if drain then some worker.takes else worker.cut }
  | _ => none

def resume (worker : AsyncRolloutWorker) : Option AsyncRolloutWorker :=
  match worker.caller with
  | .idle => some { worker with paused := false, cut := none }
  | _ => none

def getCompletedGroups (worker : AsyncRolloutWorker) (limit : Option Nat) :
    Option AsyncRolloutWorker :=
  match worker.caller with
  | .idle => some { worker with caller := .collecting limit [] }
  | _ => none

/-- `limit is None or len(completed) < limit`. -/
def wantsMore (limit : Option Nat) (count : Nat) : Bool :=
  match limit with
  | none => true
  | some limit => count < limit

/-- One round of the loop of `get_completed_groups`. -/
def getNowait (worker : AsyncRolloutWorker) : Option AsyncRolloutWorker :=
  match worker.caller with
  | .collecting limit completed =>
      match wantsMore limit completed.length, worker.outputQueue with
      | true, output :: rest =>
          some { worker with
            outputQueue := rest
            caller := .collecting limit (completed ++ [output]) }
      | _, _ => some { worker with caller := .idle, handed := worker.handed ++ completed }
  | _ => none

def stateDict (worker : AsyncRolloutWorker) : Except PyException (List CompletedGroup) := do
  raiseIf (worker.admissionPaused = false ∨ worker.active ≠ 0)
    (.runtimeError "Pause generation before saving worker state")
  pure worker.outputQueue

def step (worker : AsyncRolloutWorker) : WorkerAction → Option AsyncRolloutWorker
  | .reap => worker.reap
  | .yielded => worker.yielded
  | .checkTopUp => worker.checkTopUp
  | .take choice => worker.take choice
  | .publish => worker.publish
  | .wake => worker.wake
  | .finish index result => worker.finish index result
  | .callback index => worker.callback index
  | .reapedCallback index => worker.reapedCallback index
  | .pause drain => worker.pause drain
  | .pauseReturn => worker.pauseReturn
  | .resume => worker.resume
  | .getCompletedGroups limit => worker.getCompletedGroups limit
  | .getNowait => worker.getNowait

/-- A worker that starts over what a checkpoint saved: its results, and the buffer of its
data source. -/
def initial (concurrency nSamplesPerPrompt : Nat) (ready : List (Nat × List (SampleTree Status)))
    (buffered : List (List (SampleTree Status))) : AsyncRolloutWorker where
  concurrency := concurrency
  nSamplesPerPrompt := nSamplesPerPrompt
  outputQueue := ready.mapIdx fun number entry => ⟨entry.1, ⟨number, entry.2⟩⟩
  buffer := buffered.mapIdx fun index samples => ⟨ready.length + index, samples⟩
  numbered := ready.length + buffered.length

end AsyncRolloutWorker

end Vime.Rollout
