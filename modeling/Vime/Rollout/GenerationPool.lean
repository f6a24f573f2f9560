import Mathlib.Data.List.Basic
import Vime.Foundation.Execution
import Vime.Foundation.Python

/-! # The generation pool

`_GenerationActor` of `vime/rollout/fully_async_distributed.py` on its event loop: every
action is the segment of one coroutine from one await to the next.
-/

namespace Vime.Rollout

open Vime.Foundation

/-- A group with its verdict. Groups are numbered in the order in which they come from the
data source; one that comes again has another number. -/
structure GroupOutput where
  group : Nat
  keep : Bool
  deriving DecidableEq, Repr

/-- What `_generate_group` does with a group that it generates. -/
inductive GroupResult where
  | aborted
  | verdict (keep : Bool)
  deriving DecidableEq, Repr

inductive SlotPc where
  | created (group : Nat)
  | fetching (rolloutId : Int)
  | generating (rolloutId : Int) (group : Nat)
  | rebuffering (group : Nat)
  | putting (output : GroupOutput)
  | finished
  /-- Finished, and in the `done` set that the producer has. -/
  | collected
  deriving DecidableEq, Repr

/-- A slot that is finished is in the `done` set from now on. -/
def SlotPc.seen : SlotPc → SlotPc
  | .finished => .collected
  | pc => pc

/-- Where `_produce` awaits. -/
inductive ProducerPc where
  | created
  | fetching (count : Nat)
  | sleeping
  | waiting
  | collecting
  | done
  deriving DecidableEq, Repr

inductive NextReply where
  | returned (output : Option GroupOutput)
  | raised (exception : PyException)
  deriving DecidableEq, Repr

/-- Where `_next` awaits; `take` is the result of its `outputs.get()`. -/
inductive NextPc where
  | idle
  | waiting (producer : Nat) (take : Option GroupOutput)
  | taking (take : Option GroupOutput)
  /-- In `finally`, with the `get` cancelled. -/
  | closing (reply : NextReply)
  deriving DecidableEq, Repr

/-- Where `_flush_rebuffers` awaits. -/
inductive RebufferPc where
  | absent
  | sleeping
  | adding (batch : List Nat)
  deriving DecidableEq, Repr

structure GenerationActor where
  capacity : Nat
  running : Bool := false
  rolloutId : Int := 0
  producer : Option ProducerPc := none
  /-- How many producers there were; the current one has this number. -/
  producers : Nat := 0
  slotTasks : List SlotPc := []
  poolChanged : Bool := false
  outputs : List GroupOutput := []
  next : NextPc := .idle
  pendingRebuffers : List Nat := []
  rebufferTask : RebufferPc := .absent
  /-- Groups that came from the data source. -/
  taken : Nat := 0
  -- history
  put : List GroupOutput := []
  rebuffered : List Nat := []
  replies : List NextReply := []
  deriving DecidableEq, Repr

inductive PoolAction where
  | start (rolloutId : Int)
  | pause
  | next
  | takeOutput
  | nextWake
  | nextTaken
  | nextReturn
  | produce
  | fetched (count : Nat)
  | producerWake
  | collect
  | slotStart (slot : Nat)
  | slotFetched (slot : Nat)
  | slotGenerated (slot : Nat) (result : GroupResult)
  | slotPut (slot : Nat)
  | slotRebuffered (slot : Nat)
  | flush
  | flushed
  deriving DecidableEq, Repr

namespace GenerationActor

/-! ## Controls -/

def start (actor : GenerationActor) (rolloutId : Int) : GenerationActor :=
  let started := { actor with rolloutId := rolloutId, running := true, poolChanged := true }
  match actor.producer with
  | none =>
      { started with
        outputs := []
        slotTasks := []
        producer := some .created
        producers := actor.producers + 1 }
  | some .done =>
      { started with
        slotTasks := []
        producer := some .created
        producers := actor.producers + 1 }
  | some _ => started

def pause (actor : GenerationActor) : GenerationActor :=
  { actor with running := false, poolChanged := actor.poolChanged || actor.producer.isSome }

/-! ## Results -/

def openNext (actor : GenerationActor) : Option GenerationActor :=
  match actor.next, actor.producer with
  | .idle, some _ => some { actor with next := .waiting actor.producers none }
  | _, _ => none

/-- The `get` of a `_next` takes the oldest output. -/
def takeOutput (actor : GenerationActor) : Option GenerationActor :=
  match actor.next, actor.outputs with
  | .waiting producer none, output :: rest =>
      some { actor with next := .waiting producer (some output), outputs := rest }
  | .taking none, output :: rest =>
      some { actor with next := .taking (some output), outputs := rest }
  | _, _ => none

/-- `_next` after its wait. `self.producer.result()` raises if that producer runs. -/
def nextWake (actor : GenerationActor) : Option GenerationActor :=
  match actor.next with
  | .waiting _ (some output) => some { actor with next := .closing (.returned (some output)) }
  | .waiting producer none =>
      if producer < actor.producers ∨ actor.producer = some .done then
        if actor.producer ≠ some .done then
          some { actor with next := .closing (.raised (.invalidStateError "Result is not set.")) }
        else if actor.outputs ≠ [] then some { actor with next := .taking none }
        else some { actor with next := .closing (.returned none) }
      else none
  | _ => none

def nextTaken (actor : GenerationActor) : Option GenerationActor :=
  match actor.next with
  | .taking (some output) => some { actor with next := .closing (.returned (some output)) }
  | _ => none

def nextReturn (actor : GenerationActor) : Option GenerationActor :=
  match actor.next with
  | .closing reply => some { actor with next := .idle, replies := actor.replies ++ [reply] }
  | _ => none

/-! ## The producer -/

/-- `while self.running or tasks`, up to the next await. -/
def loopTop (actor : GenerationActor) : GenerationActor :=
  if actor.running = true ∨ actor.slotTasks ≠ [] then
    let cleared := { actor with poolChanged := false }
    if actor.running = true ∧ actor.slotTasks.length < actor.capacity then
      { cleared with
        producer := some (.fetching (min 64 (actor.capacity - actor.slotTasks.length))) }
    else if actor.slotTasks = [] then { cleared with producer := some .done }
    else { cleared with producer := some .waiting }
  else { actor with producer := some .done }

def produce (actor : GenerationActor) : Option GenerationActor :=
  match actor.producer with
  | some .created | some .sleeping => some actor.loopTop
  | _ => none

def fetched (actor : GenerationActor) (count : Nat) : Option GenerationActor :=
  match actor.producer with
  | some (.fetching asked) =>
      if count ≤ asked then
        some { actor with
          slotTasks := actor.slotTasks ++
            (List.range count).map fun index => .created (actor.taken + index)
          taken := actor.taken + count
          producer := some .sleeping }
      else none
  | _ => none

def producerWake (actor : GenerationActor) : Option GenerationActor :=
  match actor.producer with
  | some .waiting =>
      if actor.poolChanged = true ∨ .finished ∈ actor.slotTasks then
        some { actor with
          slotTasks := actor.slotTasks.map SlotPc.seen
          producer := some .collecting }
      else none
  | _ => none

def collect (actor : GenerationActor) : Option GenerationActor :=
  match actor.producer with
  | some .collecting =>
      some ({ actor with
        slotTasks := actor.slotTasks.filter fun pc => pc ≠ SlotPc.collected }).loopTop
  | _ => none

/-! ## Slots -/

def slotLoop (actor : GenerationActor) : SlotPc :=
  if actor.running then .fetching actor.rolloutId else .finished

def setSlot (actor : GenerationActor) (slot : Nat) (pc : SlotPc) : GenerationActor :=
  { actor with slotTasks := actor.slotTasks.set slot pc }

def rebuffer (actor : GenerationActor) (slot group : Nat) : GenerationActor :=
  { actor.setSlot slot (.rebuffering group) with
    pendingRebuffers := actor.pendingRebuffers ++ [group]
    rebufferTask :=
      match actor.rebufferTask with
      | .absent => .sleeping
      | task => task }

/-- `_generate_group` once it has its group. -/
def beginGroup (actor : GenerationActor) (slot : Nat) (rolloutId : Int) (group : Nat) :
    GenerationActor :=
  if actor.running then actor.setSlot slot (.generating rolloutId group)
  else actor.rebuffer slot group

def slotStart (actor : GenerationActor) (slot : Nat) : Option GenerationActor :=
  match actor.slotTasks[slot]? with
  | some (.created group) => some (actor.beginGroup slot actor.rolloutId group)
  | _ => none

def slotFetched (actor : GenerationActor) (slot : Nat) : Option GenerationActor :=
  match actor.slotTasks[slot]? with
  | some (.fetching rolloutId) =>
      some (({ actor with taken := actor.taken + 1 }).beginGroup slot rolloutId actor.taken)
  | _ => none

def putOutput (actor : GenerationActor) (slot : Nat) (output : GroupOutput) : GenerationActor :=
  { actor.setSlot slot actor.slotLoop with
    outputs := actor.outputs ++ [output]
    put := actor.put ++ [output] }

def slotGenerated (actor : GenerationActor) (slot : Nat) (result : GroupResult) :
    Option GenerationActor :=
  match actor.slotTasks[slot]?, result with
  | some (.generating _ group), .aborted => some (actor.rebuffer slot group)
  | some (.generating _ group), .verdict keep =>
      if actor.outputs.length < 1 then some (actor.putOutput slot ⟨group, keep⟩)
      else some (actor.setSlot slot (.putting ⟨group, keep⟩))
  | _, _ => none

def slotPut (actor : GenerationActor) (slot : Nat) : Option GenerationActor :=
  match actor.slotTasks[slot]? with
  | some (.putting output) =>
      if actor.outputs.length < 1 then some (actor.putOutput slot output) else none
  | _ => none

def slotRebuffered (actor : GenerationActor) (slot : Nat) : Option GenerationActor :=
  match actor.slotTasks[slot]? with
  | some (.rebuffering group) =>
      if group ∈ actor.rebuffered then some (actor.setSlot slot actor.slotLoop) else none
  | _ => none

/-! ## Returned groups -/

/-- `while self._pending_rebuffers`, up to the next write. -/
def nextBatch (actor : GenerationActor) : GenerationActor :=
  if actor.pendingRebuffers = [] then { actor with rebufferTask := .absent }
  else
    { actor with
      rebufferTask := .adding (actor.pendingRebuffers.take 64)
      pendingRebuffers := actor.pendingRebuffers.drop 64 }

def flush (actor : GenerationActor) : Option GenerationActor :=
  match actor.rebufferTask with
  | .sleeping => some actor.nextBatch
  | _ => none

def flushed (actor : GenerationActor) : Option GenerationActor :=
  match actor.rebufferTask with
  | .adding batch => some ({ actor with rebuffered := actor.rebuffered ++ batch }).nextBatch
  | _ => none

def step (actor : GenerationActor) : PoolAction → Option GenerationActor
  | .start rolloutId => some (actor.start rolloutId)
  | .pause => some actor.pause
  | .next => actor.openNext
  | .takeOutput => actor.takeOutput
  | .nextWake => actor.nextWake
  | .nextTaken => actor.nextTaken
  | .nextReturn => actor.nextReturn
  | .produce => actor.produce
  | .fetched count => actor.fetched count
  | .producerWake => actor.producerWake
  | .collect => actor.collect
  | .slotStart slot => actor.slotStart slot
  | .slotFetched slot => actor.slotFetched slot
  | .slotGenerated slot result => actor.slotGenerated slot result
  | .slotPut slot => actor.slotPut slot
  | .slotRebuffered slot => actor.slotRebuffered slot
  | .flush => actor.flush
  | .flushed => actor.flushed

end GenerationActor

end Vime.Rollout
