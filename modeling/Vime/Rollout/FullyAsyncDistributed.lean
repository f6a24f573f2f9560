import Mathlib.Algebra.Order.Ring.Nat
import Mathlib.Algebra.Order.Ring.Rat
import Mathlib.Logic.Function.Basic
import Vime.Foundation.Execution
import Vime.Foundation.Python

/-! # Fully asynchronous rollout scheduling

`vime/rollout/fully_async_distributed.py`: the collector thread of `RolloutScheduler`,
its callers, and the generation actors, which exchange requests and replies. Every
action takes one of them a step further, so that a list of actions is an interleaving.
-/

namespace Vime.Rollout

open Vime.Foundation

/-- `(paused, rollout_id)`. -/
structure Configuration where
  paused : Bool
  rolloutId : Int
  deriving DecidableEq, Repr

inductive Request where
  | start (rolloutId : Int)
  | pause
  | next
  deriving DecidableEq, Repr

/-- What `ray.get` does with a reply: it returns a value, raises the exception of the
call, or raises `RayActorError`. -/
inductive Reply (Output : Type) where
  | returned (output : Option Output)
  | raised (exception : PyException)
  | actorDied
  deriving Repr

/-! ## The generation actor -/

inductive Producer where
  | absent
  | active
  | finished (failure : Option PyException)
  deriving DecidableEq, Repr

/-- `_GenerationActor`. Requests are handled in the order they were sent; `calls` are
the `next` calls that wait, each with the number of the producer it waits for. -/
structure Worker (Output : Type) where
  capacity : Nat
  running : Bool := false
  rolloutId : Int := 0
  producer : Producer := .absent
  producers : Nat := 0
  fetching : Nat := 0
  generating : Nat := 0
  outputs : List Output := []
  putting : List Output := []
  inbox : List (Nat × Request) := []
  calls : List (Nat × Nat) := []
  dead : Bool := false

namespace Worker

variable {Output : Type}

def tasks (worker : Worker Output) : Nat := worker.generating + worker.putting.length

def slotContinues (worker : Worker Output) : Nat := if worker.running then 1 else 0

def start (worker : Worker Output) (rolloutId : Int) : Worker Output × Reply Output :=
  let started := { worker with running := true, rolloutId := rolloutId }
  match worker.producer with
  | .active => (started, .returned none)
  | .finished (some exception) => (started, .raised exception)
  | _ =>
      ({ started with
          producer := .active
          producers := worker.producers + 1
          fetching := 0
          generating := 0
          putting := [] }, .returned none)

def pause (worker : Worker Output) : Worker Output := { worker with running := false }

/-- Handles the oldest request: the reply, unless a `next` call has to wait. -/
def deliver (worker : Worker Output) : Option (Worker Output × Option (Nat × Reply Output)) :=
  match worker.inbox with
  | [] => none
  | (ref, request) :: rest =>
      let worker := { worker with inbox := rest }
      if worker.dead then some (worker, some (ref, .actorDied))
      else
        match request with
        | .start rolloutId =>
            let started := worker.start rolloutId
            some (started.1, some (ref, started.2))
        | .pause => some (worker.pause, some (ref, .returned none))
        | .next =>
            if worker.producer = .absent then
              some (worker, some (ref, .raised (.typeError "")))
            else some ({ worker with calls := worker.calls ++ [(ref, worker.producers)] }, none)

def takeOutput (worker : Worker Output) : Option (Output × Worker Output) :=
  match worker.outputs with
  | [] => none
  | output :: rest =>
      match worker.putting with
      | [] => some (output, { worker with outputs := rest })
      | put :: others =>
          some (output,
            { worker with
              outputs := rest ++ [put]
              putting := others
              generating := worker.generating + worker.slotContinues })

/-- `_next` after its wait: a result, or the end of the producer it waited for. -/
def answer (worker : Worker Output) (ref : Nat) : Option (Worker Output × Reply Output) :=
  match worker.calls.lookup ref with
  | none => none
  | some awaited =>
      let answered := { worker with calls := worker.calls.filter fun call => call.1 ≠ ref }
      match answered.takeOutput with
      | some (output, taken) => some (taken, .returned (some output))
      | none =>
          match worker.producer with
          | .finished none => some (answered, .returned none)
          | .finished (some exception) => some (answered, .raised exception)
          | _ =>
              -- A later producer has no result yet.
              if awaited < worker.producers then
                some (answered, .raised (.invalidStateError "Result is not set."))
              else none

def fetch (worker : Worker Output) (count : Nat) : Option (Worker Output) :=
  if worker.producer = .active ∧ worker.running = true ∧ worker.fetching = 0 ∧ 0 < count ∧
      count ≤ min 64 (worker.capacity - worker.tasks) then
    some { worker with fetching := count }
  else none

def fetched (worker : Worker Output) : Option (Worker Output) :=
  if worker.producer = .active ∧ 0 < worker.fetching then
    some { worker with fetching := 0, generating := worker.generating + worker.fetching }
  else none

/-- A slot ends a group, with a result unless the group went back to the queue. -/
def finishGroup (worker : Worker Output) (output : Option Output) : Option (Worker Output) :=
  if worker.producer = .active ∧ 0 < worker.generating then
    let others := worker.generating - 1
    match output with
    | none => some { worker with generating := others + worker.slotContinues }
    | some output =>
        if worker.outputs = [] then
          some { worker with
            outputs := [output]
            generating := others + worker.slotContinues }
        else some { worker with putting := worker.putting ++ [output], generating := others }
  else none

/-- The loop of `_produce` ends once the worker is paused and the pool is empty. -/
def drain (worker : Worker Output) : Option (Worker Output) :=
  if worker.producer = .active ∧ worker.running = false ∧ worker.fetching = 0 ∧
      worker.tasks = 0 then
    some { worker with producer := .finished none }
  else none

def failProducer (worker : Worker Output) (exception : PyException) :
    Option (Worker Output) :=
  if worker.producer = .active then
    some { worker with
      producer := .finished (some exception)
      fetching := 0
      generating := 0
      putting := [] }
  else none

end Worker

/-! ## The scheduler -/

/-- Where the collector thread stands: before its first lock, at `ray.wait` on the
references it read, or ended. -/
inductive Collector where
  | absent
  | dispatching
  | waiting (refs : List Nat)
  | ended
  deriving DecidableEq, Repr

structure Scheduler (Output : Type) where
  capacities : List Nat
  ready : List Output := []
  pending : List (Nat × Nat) := []
  controls : List (Nat × Nat × Configuration) := []
  configurations : Nat → Option Configuration := fun _ => none
  runningWorkers : List Nat := []
  demand : Nat := 0
  prefetch : Nat := 0
  rolloutId : Int := 0
  paused : Bool := true
  closed : Bool := false
  error : Option PyException := none
  thread : Collector := .absent

namespace Scheduler

variable {Output : Type}

def capacityOf (scheduler : Scheduler Output) (worker : Nat) : Nat :=
  scheduler.capacities.getD worker 0

def configuring (scheduler : Scheduler Output) : List Nat :=
  scheduler.controls.map fun control => control.2.1

def desired (scheduler : Scheduler Output) : Configuration :=
  ⟨scheduler.paused, scheduler.rolloutId⟩

/-- The end of the thread after an exception: `except` and `finally`. -/
def fail (scheduler : Scheduler Output) (exception : PyException) : Scheduler Output :=
  { scheduler with
    error := some exception
    controls := []
    pending := []
    runningWorkers := []
    thread := .ended }

def finish (scheduler : Scheduler Output) : Scheduler Output :=
  { scheduler with controls := [], pending := [], runningWorkers := [], thread := .ended }

/-- `_retire_worker`, with the exception it raises when no worker is left. -/
def retireWorker (scheduler : Scheduler Output) (worker : Nat) : Scheduler Output :=
  if scheduler.capacityOf worker = 0 then scheduler
  else
    let capacities := scheduler.capacities.set worker 0
    let retired :=
      { scheduler with
        pending := scheduler.pending.filter fun request => request.2 ≠ worker
        controls := scheduler.controls.filter fun control => control.2.1 ≠ worker
        runningWorkers := scheduler.runningWorkers.filter fun other => other ≠ worker
        capacities := capacities
        prefetch := min scheduler.prefetch capacities.sum }
    if capacities.sum = 0 then
      retired.fail (.runtimeError "All rollout workers are unavailable")
    else retired

def acknowledge (scheduler : Scheduler Output) (worker : Nat) (configuration : Configuration) :
    Scheduler Output :=
  { scheduler with
    configurations := Function.update scheduler.configurations worker (some configuration)
    runningWorkers :=
      if configuration.paused = true ∨ worker ∈ scheduler.runningWorkers then
        scheduler.runningWorkers
      else scheduler.runningWorkers ++ [worker] }

/-- The reply to a `next` call; no output means that the paused worker has drained its
pool. -/
def collect (scheduler : Scheduler Output) (worker : Nat) :
    Option Output → Scheduler Output
  | some output => { scheduler with ready := scheduler.ready ++ [output] }
  | none =>
      if worker ∈ scheduler.runningWorkers then
        { scheduler with
          runningWorkers := scheduler.runningWorkers.filter fun other => other ≠ worker }
      else scheduler.fail .keyError

def handleControl (scheduler : Scheduler Output) (ref worker : Nat)
    (configuration : Configuration) (reply : Reply Output) : Scheduler Output :=
  let popped :=
    { scheduler with
      controls := scheduler.controls.eraseP fun control => ref == control.1 }
  match reply with
  | .actorDied => popped.retireWorker worker
  | .raised exception => popped.fail exception
  | .returned _ => popped.acknowledge worker configuration

def handlePending (scheduler : Scheduler Output) (ref worker : Nat) (reply : Reply Output) :
    Scheduler Output :=
  let popped :=
    { scheduler with
      pending := scheduler.pending.eraseP fun request => ref == request.1 }
  match reply with
  | .actorDied => popped.retireWorker worker
  | .raised exception => popped.fail exception
  | .returned output => popped.collect worker output

def handle (scheduler : Scheduler Output) (ref : Nat) (reply : Reply Output) :
    Scheduler Output :=
  let dispatching := { scheduler with thread := .dispatching }
  match scheduler.controls.lookup ref with
  | some (worker, configuration) => dispatching.handleControl ref worker configuration reply
  | none =>
      match scheduler.pending.lookup ref with
      | some worker => dispatching.handlePending ref worker reply
      | none => dispatching.fail .keyError

def idle (scheduler : Scheduler Output) : List Nat :=
  scheduler.runningWorkers.filter fun worker => worker ∉ scheduler.pending.map Prod.snd

/-- How many of them are asked for a result: the loop over the set stops at the bound on
completed prefetch, unless the scheduler is paused. -/
def askCount (scheduler : Scheduler Output) : Nat :=
  if scheduler.paused then scheduler.idle.length
  else
    min scheduler.idle.length
      (scheduler.demand + scheduler.prefetch -
        (scheduler.pending.length + scheduler.ready.length))

def mayAsk (scheduler : Scheduler Output) (asked : List Nat) : Bool :=
  decide (asked.Nodup ∧ (∀ worker ∈ asked, worker ∈ scheduler.idle) ∧
    asked.length = scheduler.askCount)

end Scheduler

/-! ## The system -/

structure System (Output : Type) where
  scheduler : Scheduler Output
  workers : Nat → Worker Output
  /-- Replies that have been produced and not yet observed. -/
  replies : List (Nat × Reply Output) := []
  nextRef : Nat := 0

structure Settings (Output : Type) where
  capacities : List Nat
  poolCapacity : Nat → Nat
  rolloutBatchSize : Nat
  /-- `verdict.keep` of an output. -/
  keep : Output → Bool

inductive Action (Output : Type) where
  -- callers
  | generate (rolloutId : Int) (prefetch : Nat)
  | takeReady
  | pause (drain : Bool)
  | resume
  | close
  -- the collector thread
  | dispatch (asked : List Nat)
  | timeout
  | observe (ref : Nat)
  -- the actors
  | deliver (worker : Nat)
  | answer (worker ref : Nat)
  | fetch (worker count : Nat)
  | fetched (worker : Nat)
  | finishGroup (worker : Nat) (output : Option Output)
  | drain (worker : Nat)
  | failProducer (worker : Nat) (exception : PyException)
  | die (worker : Nat)

namespace System

variable {Output : Type}

def setWorker (system : System Output) (index : Nat) (worker : Worker Output) :
    System Output :=
  { system with workers := Function.update system.workers index worker }

def send (system : System Output) (index : Nat) (request : Request) : System Output :=
  let worker := system.workers index
  { system.setWorker index
      { worker with inbox := worker.inbox ++ [(system.nextRef, request)] } with
    nextRef := system.nextRef + 1 }

def configure (configuring : List Nat) (system : System Output) (index : Nat) :
    System Output :=
  let scheduler := system.scheduler
  if scheduler.capacityOf index = 0 ∨ index ∈ configuring ∨
      scheduler.configurations index = some scheduler.desired then system
  else if scheduler.paused = true ∧ index ∉ scheduler.runningWorkers then
    { system with
      scheduler :=
        { scheduler with
          configurations :=
            Function.update scheduler.configurations index (some scheduler.desired) } }
  else
    { system.send index (if scheduler.paused then .pause else .start scheduler.rolloutId) with
      scheduler :=
        { scheduler with
          controls := scheduler.controls ++ [(system.nextRef, index, scheduler.desired)] } }

def configureAll (system : System Output) : System Output :=
  (List.range system.scheduler.capacities.length).foldl
    (configure system.scheduler.configuring) system

def requestNext (system : System Output) (index : Nat) : System Output :=
  { system.send index .next with
    scheduler :=
      { system.scheduler with
        pending := system.scheduler.pending ++ [(system.nextRef, index)] } }

/-- The part of the loop before `ray.wait`. -/
def dispatch (system : System Output) (asked : List Nat) : Option (System Output) :=
  if system.scheduler.thread ≠ .dispatching then none
  else if system.scheduler.closed then
    some { system with scheduler := system.scheduler.finish }
  else
    let configured := system.configureAll
    if configured.scheduler.mayAsk asked then
      let requested := asked.foldl requestNext configured
      let refs := requested.scheduler.controls.map Prod.fst ++
        requested.scheduler.pending.map Prod.fst
      some { requested with
        scheduler :=
          { requested.scheduler with
            thread := if refs = [] then .dispatching else .waiting refs } }
    else none

/-- The part of the loop after `ray.wait` reported a reference. -/
def observe (system : System Output) (ref : Nat) : Option (System Output) :=
  match system.scheduler.thread, system.replies.lookup ref with
  | .waiting refs, some reply =>
      if ref ∈ refs then
        some { system with
          scheduler := system.scheduler.handle ref reply
          replies := system.replies.filter fun other => other.1 ≠ ref }
      else none
  | _, _ => none

def timeout (system : System Output) : Option (System Output) :=
  match system.scheduler.thread with
  | .waiting _ =>
      some { system with scheduler := { system.scheduler with thread := .dispatching } }
  | _ => none

def generate (settings : Settings Output) (system : System Output) (rolloutId : Int)
    (prefetch : Nat) : Option (System Output) :=
  let scheduler := system.scheduler
  if scheduler.error.isSome ∨ scheduler.demand ≠ 0 then none
  else
    some { system with
      scheduler :=
        { scheduler with
          rolloutId := rolloutId
          demand := settings.rolloutBatchSize
          prefetch := min prefetch scheduler.capacities.sum
          paused := false
          thread :=
            if scheduler.thread = .absent then .dispatching else scheduler.thread } }

/-- One result taken by the caller of `generate`. -/
def takeReady (settings : Settings Output) (system : System Output) :
    Option (System Output) :=
  let scheduler := system.scheduler
  match scheduler.ready with
  | [] => none
  | output :: rest =>
      if scheduler.error.isSome ∨ scheduler.demand = 0 then none
      else
        some { system with
          scheduler :=
            { scheduler with
              ready := rest
              demand := if settings.keep output then scheduler.demand - 1
                else scheduler.demand } }

def close (system : System Output) : System Output :=
  { system with
    scheduler :=
      { system.scheduler with
        closed := true
        error := system.scheduler.error.orElse fun _ =>
          some (.runtimeError "Rollout scheduler is closed") } }

def workerStep (system : System Output) (index : Nat)
    (step : Worker Output → Option (Worker Output)) : Option (System Output) :=
  if (system.workers index).dead then none
  else (step (system.workers index)).map (system.setWorker index)

def deliver (system : System Output) (index : Nat) : Option (System Output) :=
  (system.workers index).deliver.map fun delivered =>
    { system.setWorker index delivered.1 with
      replies := system.replies ++ delivered.2.toList }

def answer (system : System Output) (index ref : Nat) : Option (System Output) :=
  if (system.workers index).dead then none
  else
    ((system.workers index).answer ref).map fun answered =>
      { system.setWorker index answered.1 with
        replies := system.replies ++ [(ref, answered.2)] }

def die (system : System Output) (index : Nat) : Option (System Output) :=
  let worker := system.workers index
  if worker.dead then none
  else
    some { system.setWorker index { worker with dead := true, calls := [] } with
      replies := system.replies ++ worker.calls.map fun call => (call.1, .actorDied) }

end System

def step {Output : Type} (settings : Settings Output) (system : System Output) :
    Action Output → Option (System Output)
  | .generate rolloutId prefetch => system.generate settings rolloutId prefetch
  | .takeReady => system.takeReady settings
  -- Whether the call waits for a drain decides only when it returns.
  | .pause _ => some { system with scheduler := { system.scheduler with paused := true } }
  | .resume => some { system with scheduler := { system.scheduler with paused := false } }
  | .close => some system.close
  | .dispatch asked => system.dispatch asked
  | .timeout => system.timeout
  | .observe ref => system.observe ref
  | .deliver worker => system.deliver worker
  | .answer worker ref => system.answer worker ref
  | .fetch worker count => system.workerStep worker fun state => state.fetch count
  | .fetched worker => system.workerStep worker Worker.fetched
  | .finishGroup worker output => system.workerStep worker fun state =>
      state.finishGroup output
  | .drain worker => system.workerStep worker Worker.drain
  | .failProducer worker exception => system.workerStep worker fun state =>
      state.failProducer exception
  | .die worker => system.die worker

def initial {Output : Type} (settings : Settings Output) : System Output where
  scheduler := { capacities := settings.capacities }
  workers index := { capacity := settings.poolCapacity index }

end Vime.Rollout
