import Mathlib.Data.List.Basic
import Vime.Foundation.Dicts
import Vime.Foundation.Python

/-! # The training recovery journal

`TrainingRecovery` of `vime/ray/training_recovery.py` with the straw transport: the boundary of
the last joint checkpoint and the batches after it are written to a journal, so that a replaced
manager can replay them. A method is the list of its effects, between which its process may die.
-/

namespace Vime.Ray

open Vime.Foundation

structure TrainingCheckpoint where
  load : Option String
  save : Option String
  ckptStep : Option Nat
  startRolloutId : Option Nat
  finetune : Bool
  noLoadOptim : Bool
  noLoadRng : Bool
  deriving DecidableEq, Repr

/-- The manifest of an accepted collection and the `commit_id` of its receipt. -/
structure RawRolloutRef (Ref : Type) where
  manifest : Ref
  commitId : String
  deriving DecidableEq, Repr

structure ReplayBatch (Ref : Type) where
  raw : RawRolloutRef Ref
  converted : Option Ref
  batchId : Option String
  deriving DecidableEq, Repr

structure TrainingRecovery (Ref Source : Type) where
  batches : List (Nat × ReplayBatch Ref)
  incarnation : String
  loaded : Bool
  checkpointStep : Option Nat
  checkpoint : TrainingCheckpoint
  sourceState : Option Source

/-! ## What survives the process -/

/-- The payload store keeps what some owner retains. The owner
`trainer-recovery:{incarnation}:{rollout_id}` is a pair. -/
structure PinStore (Pins Ref : Type) where
  retain : String × Nat → List Ref → Pins → Pins
  release : String × Nat → Pins → Pins
  Retained : Pins → String × Nat → Ref → Prop

namespace PinStore

structure Lawful {Pins Ref : Type} (store : PinStore Pins Ref) : Prop where
  retain_own : ∀ pins owner roots, ∀ ref ∈ roots,
    store.Retained (store.retain owner roots pins) owner ref
  retain_other : ∀ pins owner other roots ref, other ≠ owner →
    store.Retained pins other ref →
      store.Retained (store.retain owner roots pins) other ref
  release_other : ∀ pins owner other ref, other ≠ owner → store.Retained pins other ref →
    store.Retained (store.release owner pins) other ref

end PinStore

/-- The pins, the steps with a `committed_{step}.json`, the collections that the queue has
accepted, by rollout, and the conversions that it has accepted, by batch. -/
structure Stores (Pins Ref : Type) where
  pins : Pins
  committed : List Nat
  collections : List (Nat × RawRolloutRef Ref)
  conversions : List (String × Ref)

structure Durable (Pins Ref Source : Type) where
  journal : Option (TrainingRecovery Ref Source)
  stores : Stores Pins Ref

inductive Effect (Ref Source : Type) where
  | completeCollection (rolloutId : Nat) (raw : RawRolloutRef Ref)
  | readyBatch (batchId : String) (reference : Ref)
  | retain (rolloutId : Nat) (roots : List Ref)
  | release (incarnation : String) (rolloutId : Nat)
  /-- An assignment to the fields of the object. -/
  | update (change : TrainingRecovery Ref Source → TrainingRecovery Ref Source)
  | persist

section Effects

variable {Pins Ref Source : Type} (store : PinStore Pins Ref)

namespace Stores

def completeCollection (rolloutId : Nat) (raw : RawRolloutRef Ref) (stores : Stores Pins Ref) :
    Stores Pins Ref :=
  { stores with collections := stores.collections ++ [(rolloutId, raw)] }

def readyBatch (batchId : String) (reference : Ref) (stores : Stores Pins Ref) :
    Stores Pins Ref :=
  { stores with conversions := stores.conversions ++ [(batchId, reference)] }

def retain (owner : String × Nat) (roots : List Ref) (stores : Stores Pins Ref) :
    Stores Pins Ref :=
  { stores with pins := store.retain owner roots stores.pins }

def release (owner : String × Nat) (stores : Stores Pins Ref) : Stores Pins Ref :=
  { stores with pins := store.release owner stores.pins }

def commit (step : Nat) (stores : Stores Pins Ref) : Stores Pins Ref :=
  { stores with committed := step :: stores.committed }

end Stores

def Effect.run : Effect Ref Source → Durable Pins Ref Source × TrainingRecovery Ref Source →
    Durable Pins Ref Source × TrainingRecovery Ref Source
  | .completeCollection rolloutId raw, (durable, recovery) =>
      ({ durable with stores := durable.stores.completeCollection rolloutId raw }, recovery)
  | .readyBatch batchId reference, (durable, recovery) =>
      ({ durable with stores := durable.stores.readyBatch batchId reference }, recovery)
  | .retain rolloutId roots, (durable, recovery) =>
      ({ durable with
          stores := durable.stores.retain store (recovery.incarnation, rolloutId) roots },
        recovery)
  | .release incarnation rolloutId, (durable, recovery) =>
      ({ durable with stores := durable.stores.release store (incarnation, rolloutId) }, recovery)
  | .update change, (durable, recovery) => (durable, change recovery)
  | .persist, (durable, recovery) => ({ durable with journal := some recovery }, recovery)

def runEffects (effects : List (Effect Ref Source))
    (start : Durable Pins Ref Source × TrainingRecovery Ref Source) :
    Durable Pins Ref Source × TrainingRecovery Ref Source :=
  effects.foldl (fun state effect => effect.run store state) start

end Effects

/-! ## The methods -/

section Methods

variable {Ref Source : Type}

/-- The constructor without a journal. -/
def TrainingRecovery.new (incarnation : String) (checkpoint : TrainingCheckpoint) :
    TrainingRecovery Ref Source where
  batches := []
  incarnation := incarnation
  loaded := false
  checkpointStep := none
  checkpoint := checkpoint
  sourceState := none

def batchIdOf (raw : RawRolloutRef Ref) : String := "batch:" ++ raw.commitId

namespace TrainingRecovery

def withSource (source : Option Source) (recovery : TrainingRecovery Ref Source) :
    TrainingRecovery Ref Source :=
  { recovery with sourceState := source }

def withRaw (rolloutId : Nat) (raw : RawRolloutRef Ref) (recovery : TrainingRecovery Ref Source) :
    TrainingRecovery Ref Source :=
  { recovery with
    batches := setItem rolloutId { raw := raw, converted := none, batchId := none }
      recovery.batches }

def withConverted (rolloutId : Nat) (reference : Ref) (batchId : String)
    (recovery : TrainingRecovery Ref Source) : TrainingRecovery Ref Source :=
  { recovery with
    batches := recovery.batches.map fun entry =>
      if entry.1 = rolloutId then
        (entry.1, { entry.2 with converted := some reference, batchId := some batchId })
      else entry }

def withLoaded (startRolloutId : Nat) (recovery : TrainingRecovery Ref Source) :
    TrainingRecovery Ref Source :=
  { recovery with
    checkpoint := { recovery.checkpoint with startRolloutId := some startRolloutId }
    loaded := true }

/-- The assignments of `checkpoint_committed` and `release_batches`. -/
def withCommitted (useStatelessAdam : Bool) (rolloutId : Nat)
    (recovery : TrainingRecovery Ref Source) : TrainingRecovery Ref Source :=
  { recovery with
    checkpointStep := some rolloutId
    checkpoint :=
      { recovery.checkpoint with
        load := recovery.checkpoint.save
        ckptStep := some rolloutId
        startRolloutId := some (rolloutId + 1)
        finetune := false
        noLoadOptim := useStatelessAdam
        noLoadRng := false }
    batches := recovery.batches.filter fun entry => ¬ entry.1 ≤ rolloutId }

end TrainingRecovery

def rememberRaw (rolloutId : Nat) (raw : RawRolloutRef Ref) (sourceState : Option Source)
    (recovery : TrainingRecovery Ref Source) : Except PyException (List (Effect Ref Source)) := do
  raiseIf (rolloutId ∈ recovery.batches.map Prod.fst)
    (.runtimeError s!"Rollout {rolloutId} is already retained for training recovery")
  let source := match sourceState with
    | some source => [Effect.update (TrainingRecovery.withSource (some source))]
    | none => []
  pure ([.update (TrainingRecovery.withRaw rolloutId raw), .retain rolloutId [raw.manifest]] ++
    source ++ [.persist])

/-- The roots that `_retain` pins for a rollout. -/
def retainedRoots [DecidableEq Ref] (raw : RawRolloutRef Ref) (reference : Ref) : List Ref :=
  if raw.manifest = reference then [reference] else [reference, raw.manifest]

def rememberConverted [DecidableEq Ref] (rolloutId : Nat) (reference : Ref) (batchId : String)
    (recovery : TrainingRecovery Ref Source) : Except PyException (List (Effect Ref Source)) :=
  match recovery.batches.lookup rolloutId with
  | none => .error .keyError
  | some batch => .ok
      [.retain rolloutId (retainedRoots batch.raw reference),
        .update (TrainingRecovery.withConverted rolloutId reference batchId), .persist]

def initialLoadCompleted (startRolloutId : Nat) (recovery : TrainingRecovery Ref Source) :
    List (Effect Ref Source) :=
  if recovery.loaded then []
  else [.update (TrainingRecovery.withLoaded startRolloutId), .persist]

def checkpointCommitted (useStatelessAdam : Bool) (rolloutId : Nat)
    (recovery : TrainingRecovery Ref Source) : List (Effect Ref Source) :=
  [.update (TrainingRecovery.withCommitted useStatelessAdam rolloutId), .persist] ++
    (recovery.batches.filter fun entry => entry.1 ≤ rolloutId).map fun entry =>
      .release recovery.incarnation entry.1

/-- The step below the first rollout that may still be committed. -/
def restoredStep (recovery : TrainingRecovery Ref Source) : Int :=
  match recovery.checkpointStep with
  | some step => step
  | none => (recovery.checkpoint.startRolloutId.getD 0 : Int) - 1

def reconcileCheckpoint (useStatelessAdam : Bool) (committed : List Nat)
    (recovery : TrainingRecovery Ref Source) : List (Effect Ref Source) :=
  if ¬ recovery.loaded ∨ recovery.checkpoint.save.getD "" = "" then []
  else
    match committed.max? with
    | none => []
    | some step =>
        if (step : Int) > restoredStep recovery then
          checkpointCommitted useStatelessAdam step recovery
        else []

/-- `max(self.batches, default=self.checkpoint.start_rollout_id - 1) + 1`. -/
def nextRollout (recovery : TrainingRecovery Ref Source) : Except PyException Nat :=
  match recovery.checkpoint.startRolloutId with
  | none => .error (.typeError "unsupported operand type(s) for -: 'NoneType' and 'int'")
  | some startRolloutId =>
      .ok (match (recovery.batches.map Prod.fst).max? with
        | some rolloutId => rolloutId + 1
        | none => startRolloutId)

/-- One round of the loop of `reconcile_collection`. -/
def reconcileConversion [DecidableEq Ref] (conversions : List (String × Ref))
    (recovery : TrainingRecovery Ref Source) (entry : Nat × ReplayBatch Ref) :
    Except PyException (List (Effect Ref Source)) :=
  match entry.2.converted, conversions.lookup (batchIdOf entry.2.raw) with
  | none, some reference =>
      rememberConverted entry.1 reference (batchIdOf entry.2.raw) recovery
  | _, _ => .ok []

def reconcileConversions [DecidableEq Ref] (conversions : List (String × Ref))
    (recovery : TrainingRecovery Ref Source) : Except PyException (List (Effect Ref Source)) :=
  (recovery.batches.mapM (reconcileConversion conversions recovery)).map List.flatten

def reconcileCollection [DecidableEq Ref] (collections : List (Nat × RawRolloutRef Ref))
    (conversions : List (String × Ref)) (recovery : TrainingRecovery Ref Source) :
    Except PyException (List (Effect Ref Source)) :=
  if ¬ recovery.loaded then .ok []
  else do
    let rolloutId ← nextRollout recovery
    match collections.lookup rolloutId with
    | none => reconcileConversions conversions recovery
    | some raw =>
        let collected ← rememberRaw rolloutId raw none recovery
        let converted ← reconcileConversions conversions (recovery.withRaw rolloutId raw)
        pure (collected ++ converted)

/-- What `attach_training` does to the journal. -/
def reconcile {Pins : Type} [DecidableEq Ref] (store : PinStore Pins Ref) (useStatelessAdam : Bool)
    (start : Durable Pins Ref Source × TrainingRecovery Ref Source) :
    Except PyException (Durable Pins Ref Source × TrainingRecovery Ref Source) := do
  let adopted :=
    runEffects store (reconcileCheckpoint useStatelessAdam start.1.stores.committed start.2) start
  let effects ←
    reconcileCollection adopted.1.stores.collections adopted.1.stores.conversions adopted.2
  pure (runEffects store effects adopted)

end Methods

end Vime.Ray
