import Vime.Foundation.Execution
import Vime.Ray.SettledCalls

/-! # Runs of the journal's process

The process may die before any effect of a call and is then started again. In every state that a
run reaches, reconciling gives the window of all accepted rollouts behind the boundary.
-/

namespace Vime.Ray

open Vime.Foundation

/-! ## Runs -/

section Runs

variable {Pins Ref Source : Type}

structure RecoveryProcess (Ref Source : Type) where
  recovery : TrainingRecovery Ref Source
  /-- `reconcile_collection` has been called since the process started. -/
  reconciled : Bool
  /-- The effects of the current call that are still to come. -/
  pending : List (Effect Ref Source)

structure RecoveryState (Pins Ref Source : Type) where
  durable : Durable Pins Ref Source
  process : Option (RecoveryProcess Ref Source)

inductive RecoveryAction (Ref Source : Type) where
  /-- The constructor, with the retained serving owner. -/
  | start (incarnation : String) (checkpoint : TrainingCheckpoint)
  /-- `source_state` is assigned and `persist` called. -/
  | saveSource (sourceState : Option Source)
  | initialLoadCompleted (startRolloutId : Nat)
  /-- The queue accepts a collection, and `remember_raw` is called. -/
  | collect (rolloutId : Nat) (raw : RawRolloutRef Ref) (sourceState : Option Source)
  /-- The queue accepts a conversion, and `remember_converted` is called. -/
  | convert (rolloutId : Nat) (reference : Ref)
  /-- The driver writes `committed_{step}.json`. -/
  | commitCheckpoint (step : Nat)
  | checkpointCommitted (step : Nat)
  | reconcileCheckpoint
  | reconcileCollection
  | runEffect
  | crash

def acceptRaw (rolloutId : Nat) (raw : RawRolloutRef Ref) (sourceState : Option Source)
    (recovery : TrainingRecovery Ref Source) : List (Effect Ref Source) :=
  .completeCollection rolloutId raw ::
    match rememberRaw rolloutId raw sourceState recovery with
    | .ok effects => effects
    | .error _ => []

def acceptConverted [DecidableEq Ref] (rolloutId : Nat) (reference : Ref)
    (recovery : TrainingRecovery Ref Source) : Except PyException (List (Effect Ref Source)) :=
  match recovery.batches.lookup rolloutId with
  | none => .error .keyError
  | some batch =>
      (rememberConverted rolloutId reference (batchIdOf batch.raw) recovery).map fun effects =>
        .readyBatch (batchIdOf batch.raw) reference :: effects

namespace RecoveryState

def initial (pins : Pins) (committed : List Nat) : RecoveryState Pins Ref Source where
  durable :=
    { journal := none
      stores := { pins := pins, committed := committed, collections := [], conversions := [] } }
  process := none

/-- An idle process calls a method. One that raises has changed nothing. -/
def call (state : RecoveryState Pins Ref Source) (reconciles : Bool)
    (method : TrainingRecovery Ref Source → Except PyException (List (Effect Ref Source))) :
    Option (RecoveryState Pins Ref Source) :=
  match state.process with
  | some { recovery, reconciled, pending := [] } =>
      match method recovery with
      | .ok effects => some
          { state with
            process := some
              { recovery := recovery, reconciled := reconciled || reconciles
                pending := effects } }
      | .error _ => some state
  | _ => none

def step [DecidableEq Ref] (store : PinStore Pins Ref) (useStatelessAdam : Bool)
    (state : RecoveryState Pins Ref Source) :
    RecoveryAction Ref Source → Option (RecoveryState Pins Ref Source)
  | .start incarnation checkpoint =>
      match state.process with
      | none => some
          { state with
            process := some
              { recovery := state.durable.journal.getD (.new incarnation checkpoint)
                reconciled := false
                pending := [] } }
      | some _ => none
  | .saveSource sourceState =>
      state.call false fun _ =>
        .ok [.update (TrainingRecovery.withSource sourceState), .persist]
  | .initialLoadCompleted startRolloutId =>
      state.call false fun recovery => .ok (initialLoadCompleted startRolloutId recovery)
  | .collect rolloutId raw sourceState =>
      state.call false fun recovery => .ok (acceptRaw rolloutId raw sourceState recovery)
  | .convert rolloutId reference => state.call false (acceptConverted rolloutId reference)
  | .commitCheckpoint step => some
      { state with
        durable := { state.durable with stores := state.durable.stores.commit step } }
  | .checkpointCommitted step =>
      state.call false fun recovery => .ok (checkpointCommitted useStatelessAdam step recovery)
  | .reconcileCheckpoint =>
      state.call false fun recovery =>
        .ok (reconcileCheckpoint useStatelessAdam state.durable.stores.committed recovery)
  | .reconcileCollection =>
      state.call true
        (reconcileCollection state.durable.stores.collections state.durable.stores.conversions)
  | .runEffect =>
      match state.process with
      | some { recovery, reconciled, pending := effect :: rest } =>
          let after := effect.run store (state.durable, recovery)
          some
            { durable := after.1
              process := some { recovery := after.2, reconciled := reconciled, pending := rest } }
      | _ => none
  | .crash =>
      match state.process with
      | some _ => some { state with process := none }
      | none => none

end RecoveryState

/-- A reloaded process reconciles before it generates, and rollouts are accepted in consecutive
order. -/
def MayCollect (s0 rolloutId : Nat) (stores : Stores Pins Ref)
    (process : RecoveryProcess Ref Source) : Prop :=
  process.recovery.loaded = true ∧ process.reconciled = true ∧
    rolloutId = s0 + stores.collections.length

/-- A conversion that the journal or the queue has is not made again. -/
def MayConvert (rolloutId : Nat) (stores : Stores Pins Ref)
    (process : RecoveryProcess Ref Source) : Prop :=
  ∀ batch ∈ process.recovery.batches.lookup rolloutId,
    batch.converted = none ∧ stores.conversions.lookup (batchIdOf batch.raw) = none

/-- A joint checkpoint is of an accepted rollout, and later than all others. -/
def MayCommit (saveDir : Option String) (step : Nat) (stores : Stores Pins Ref) : Prop :=
  saveDir.getD "" ≠ "" ∧ step ∈ stores.collections.map Prod.fst ∧
    ∀ earlier ∈ stores.committed, earlier < step

/-- The driver notifies of its last joint checkpoint. -/
def MayNotify (step : Nat) (stores : Stores Pins Ref) : Prop :=
  step ∈ stores.committed ∧ step ∈ stores.collections.map Prod.fst ∧
    ∀ other ∈ stores.committed, other ≤ step

/-- The session loads the rollout `s0` first and saves in `saveDir`. -/
def RecoveryAllowed (s0 : Nat) (saveDir : Option String) (state : RecoveryState Pins Ref Source) :
    RecoveryAction Ref Source → Prop
  | .start _ checkpoint => checkpoint.save = saveDir
  | .initialLoadCompleted startRolloutId =>
      ∀ process ∈ state.process, process.recovery.loaded = false → startRolloutId = s0
  | .collect rolloutId _ _ =>
      ∀ process ∈ state.process, MayCollect s0 rolloutId state.durable.stores process
  | .convert rolloutId _ =>
      ∀ process ∈ state.process, MayConvert rolloutId state.durable.stores process
  | .commitCheckpoint step => MayCommit saveDir step state.durable.stores
  | .checkpointCommitted step => MayNotify step state.durable.stores
  | _ => True

instance (s0 : Nat) (saveDir : Option String) (state : RecoveryState Pins Ref Source)
    (action : RecoveryAction Ref Source) : Decidable (RecoveryAllowed s0 saveDir state action) :=
  match action with
  | .start _ checkpoint => inferInstanceAs (Decidable (checkpoint.save = saveDir))
  | .initialLoadCompleted startRolloutId =>
      inferInstanceAs (Decidable (∀ process ∈ state.process,
        process.recovery.loaded = false → startRolloutId = s0))
  | .collect rolloutId _ _ =>
      inferInstanceAs (Decidable (∀ process ∈ state.process,
        process.recovery.loaded = true ∧ process.reconciled = true ∧
          rolloutId = s0 + state.durable.stores.collections.length))
  | .convert rolloutId _ =>
      inferInstanceAs (Decidable (∀ process ∈ state.process,
        ∀ batch ∈ process.recovery.batches.lookup rolloutId, batch.converted = none ∧
          state.durable.stores.conversions.lookup (batchIdOf batch.raw) = none))
  | .commitCheckpoint step =>
      inferInstanceAs (Decidable (saveDir.getD "" ≠ "" ∧
        step ∈ state.durable.stores.collections.map Prod.fst ∧
          ∀ earlier ∈ state.durable.stores.committed, earlier < step))
  | .checkpointCommitted step =>
      inferInstanceAs (Decidable (step ∈ state.durable.stores.committed ∧
        step ∈ state.durable.stores.collections.map Prod.fst ∧
          ∀ other ∈ state.durable.stores.committed, other ≤ step))
  | .saveSource _ => inferInstanceAs (Decidable True)
  | .reconcileCheckpoint => inferInstanceAs (Decidable True)
  | .reconcileCollection => inferInstanceAs (Decidable True)
  | .runEffect => inferInstanceAs (Decidable True)
  | .crash => inferInstanceAs (Decidable True)

end Runs

/-! ## Reached states -/

section Reached

variable {Pins Ref Source : Type} (store : PinStore Pins Ref) (s0 : Nat)
  (saveDir : Option String)

def lateOf (reconciled : Bool) : Nat := if reconciled then 0 else 1

def RecoveryHolds (state : RecoveryState Pins Ref Source) : Prop :=
  match state.process with
  | none => JournalHolds store s0 saveDir state.durable
  | some process => Settles store s0 saveDir (lateOf process.reconciled) state.durable
      process.recovery process.pending

variable {store s0 saveDir} {state later : RecoveryState Pins Ref Source}

theorem lateOf_le (reconciled : Bool) : lateOf reconciled ≤ 1 := by
  cases reconciled with
  | false => exact Nat.le_refl 1
  | true => exact Nat.zero_le 1

theorem RecoveryHolds.call (holds : RecoveryHolds store s0 saveDir state) {reconciles : Bool}
    {method : TrainingRecovery Ref Source → Except PyException (List (Effect Ref Source))}
    (called : state.call reconciles method = some later)
    (settles : ∀ process ∈ state.process, ∀ effects,
      Idle store s0 saveDir (lateOf process.reconciled) state.durable process.recovery →
      method process.recovery = .ok effects →
        Settles store s0 saveDir (lateOf (process.reconciled || reconciles)) state.durable
          process.recovery effects) : RecoveryHolds store s0 saveDir later := by
  rcases state with ⟨durable, process⟩
  rw [RecoveryState.call] at called
  dsimp only at called
  split at called
  · rename_i recovery reconciled
    split at called
    · rename_i effects returned
      rw [← Option.some.inj called]
      exact settles _ rfl effects holds returned
    · rw [← Option.some.inj called]
      exact holds
  · cases called

theorem RecoveryHolds.journalHolds (holds : RecoveryHolds store s0 saveDir state) :
    JournalHolds store s0 saveDir state.durable := by
  rw [RecoveryHolds] at holds
  split at holds
  · exact holds
  · exact Settles.journalHolds (lateOf_le _) holds

theorem RecoveryHolds.start (holds : RecoveryHolds store s0 saveDir state)
    (checkpoint : TrainingCheckpoint) (save : checkpoint.save = saveDir) (incarnation : String) :
    Idle store s0 saveDir 1 state.durable
      (state.durable.journal.getD (.new incarnation checkpoint)) := by
  have journal := holds.journalHolds
  cases isJournal : state.durable.journal with
  | none =>
      exact ⟨journal.stores, ⟨save, .inl ⟨rfl, rfl, rfl, journal.none isJournal⟩⟩,
        .inr ⟨isJournal, rfl⟩⟩
  | some recovery =>
      exact ⟨journal.stores, journal.some recovery isJournal, .inl isJournal⟩

theorem acceptRaw_settles (lawful : store.Lawful) {durable : Durable Pins Ref Source}
    {process : RecoveryProcess Ref Source} {rolloutId : Nat}
    (idle : Idle store s0 saveDir (lateOf process.reconciled) durable process.recovery)
    (may : MayCollect s0 rolloutId durable.stores process) (raw : RawRolloutRef Ref)
    (sourceState : Option Source) :
    Settles store s0 saveDir 0 durable process.recovery
      (acceptRaw rolloutId raw sourceState process.recovery) := by
  rcases may with ⟨loaded, reconciled, isNext⟩
  rw [reconciled] at idle
  rcases idle.keeps.loadedWindow loaded with ⟨start, behind, bounded, window⟩
  have complete : behind = 0 := Nat.le_zero.mp bounded
  rw [complete] at window
  have fresh : durable.stores.collections.lookup rolloutId = none := by
    rw [lookup_eq_none_iff, idle.stores.accepted, List.mem_range'_1, isNext]
    omega
  have accepted : (durable.stores.completeCollection rolloutId raw).collections.lookup rolloutId =
      some raw := by
    rw [Stores.completeCollection, List.lookup_append, fresh, List.lookup_cons]
    simp
  have oneLate : Idle store s0 saveDir 1
      { durable with stores := durable.stores.completeCollection rolloutId raw }
      process.recovery := by
    refine ⟨?_, ⟨idle.keeps.save, .inr ⟨start, 1, Nat.le_refl 1, window.completeCollection raw⟩⟩,
      idle.saved⟩
    rw [isNext]
    exact idle.stores.completeCollection raw
  have covers := window.covers
  rcases rememberRaw_settles lawful oneLate (window.completeCollection raw)
    (by omega) accepted sourceState with ⟨remembers, settles⟩
  rw [acceptRaw, remembers]
  exact ⟨idle.journalHolds (Nat.zero_le 1), settles⟩

theorem acceptConverted_settles [DecidableEq Ref] (lawful : store.Lawful)
    {durable : Durable Pins Ref Source} {process : RecoveryProcess Ref Source} {rolloutId : Nat}
    {reference : Ref}
    (idle : Idle store s0 saveDir (lateOf process.reconciled) durable process.recovery)
    (may : MayConvert rolloutId durable.stores process) {effects : List (Effect Ref Source)}
    (returned : acceptConverted rolloutId reference process.recovery = .ok effects) :
    Settles store s0 saveDir (lateOf process.reconciled) durable process.recovery effects := by
  rw [acceptConverted] at returned
  cases found : process.recovery.batches.lookup rolloutId with
  | none =>
      rw [found] at returned
      cases returned
  | some batch =>
      rcases may batch found with ⟨unconverted, notReady⟩
      rw [found] at returned
      dsimp only at returned
      rw [rememberConverted, found] at returned
      rw [← Except.ok.inj returned]
      refine ⟨idle.journalHolds (lateOf_le _), ?_⟩
      apply rememberConverted_settles lawful ?_ (lateOf_le _) (mem_of_lookup found) unconverted
      · change (durable.stores.readyBatch (batchIdOf batch.raw) reference).conversions.lookup
          (batchIdOf batch.raw) = some reference
        rw [Stores.readyBatch, List.lookup_append, notReady, List.lookup_cons]
        simp
      · have keeps : Keeps store s0 saveDir (lateOf process.reconciled)
            (durable.stores.readyBatch (batchIdOf batch.raw) reference) process.recovery :=
          idle.keeps.of_window rfl fun _ _ window => window.readyBatch _ _
        exact ⟨idle.stores.of_same rfl rfl, keeps, idle.saved⟩

theorem notify_settles (lawful : store.Lawful) {durable : Durable Pins Ref Source}
    {process : RecoveryProcess Ref Source} {step : Nat}
    (idle : Idle store s0 saveDir (lateOf process.reconciled) durable process.recovery)
    (may : MayNotify step durable.stores) (useStatelessAdam : Bool) :
    Settles store s0 saveDir (lateOf process.reconciled) durable process.recovery
      (checkpointCommitted useStatelessAdam step process.recovery) := by
  rcases may with ⟨committed, accepted, newest⟩
  have own : s0 ≤ step := by
    rw [idle.stores.accepted, List.mem_range'_1] at accepted
    exact accepted.1
  rcases idle.keeps.window with unloaded | ⟨start, behind, bounded, window⟩
  · rw [unloaded.collections] at accepted
    cases accepted
  apply checkpointCommitted_settles lawful idle (lateOf_le _) bounded window _ committed own
  rcases window.boundary with ⟨_, isStart⟩ | ⟨other, isCommitted, _, _, isStart⟩
  · omega
  · have small := newest other isCommitted
    omega

theorem RecoveryHolds.step [DecidableEq Ref] (lawful : store.Lawful) (useStatelessAdam : Bool)
    (holds : RecoveryHolds store s0 saveDir state) {action : RecoveryAction Ref Source}
    (may : RecoveryAllowed s0 saveDir state action)
    (steps : state.step store useStatelessAdam action = some later) :
    RecoveryHolds store s0 saveDir later := by
  cases action with
  | start incarnation checkpoint =>
      have idle := holds.start checkpoint may incarnation
      rw [RecoveryState.step] at steps
      split at steps
      · rw [← Option.some.inj steps]
        exact idle
      · cases steps
  | saveSource sourceState =>
      rw [RecoveryState.step] at steps
      apply holds.call steps
      intro process _ effects idle returned
      rw [← Except.ok.inj returned, Bool.or_false]
      exact saveSource_settles idle (lateOf_le _) sourceState
  | initialLoadCompleted startRolloutId =>
      rw [RecoveryState.step] at steps
      apply holds.call steps
      intro process isProcess effects idle returned
      rw [← Except.ok.inj returned, Bool.or_false]
      exact initialLoadCompleted_settles idle (lateOf_le _) (may process isProcess)
  | collect rolloutId raw sourceState =>
      rw [RecoveryState.step] at steps
      apply holds.call steps
      intro process isProcess effects idle returned
      have mayCollect := may process isProcess
      rw [← Except.ok.inj returned, Bool.or_false, mayCollect.2.1]
      exact acceptRaw_settles lawful idle mayCollect raw sourceState
  | convert rolloutId reference =>
      rw [RecoveryState.step] at steps
      apply holds.call steps
      intro process isProcess effects idle returned
      rw [Bool.or_false]
      exact acceptConverted_settles lawful idle (may process isProcess) returned
  | commitCheckpoint step =>
      rw [RecoveryState.step, Option.some.injEq] at steps
      rcases may with ⟨hasSave, accepted, _⟩
      rw [← steps]
      rcases state with ⟨durable, process⟩
      cases process with
      | none => exact JournalHolds.commit holds accepted hasSave
      | some _ => exact Settles.commit hasSave accepted holds
  | checkpointCommitted step =>
      rw [RecoveryState.step] at steps
      apply holds.call steps
      intro process _ effects idle returned
      rw [← Except.ok.inj returned, Bool.or_false]
      exact notify_settles lawful idle may useStatelessAdam
  | reconcileCheckpoint =>
      rw [RecoveryState.step] at steps
      apply holds.call steps
      intro process _ effects idle returned
      rw [← Except.ok.inj returned, Bool.or_false]
      exact (reconcileCheckpoint_settles lawful idle (lateOf_le _) useStatelessAdam).1
  | reconcileCollection =>
      rw [RecoveryState.step] at steps
      apply holds.call steps
      intro process _ effects idle returned
      rcases reconcileCollection_settles lawful idle (lateOf_le _) with
        ⟨others, isOthers, settles, _⟩
      rw [Except.ok.inj (returned.symm.trans isOthers), Bool.or_true]
      exact settles
  | runEffect =>
      rw [RecoveryState.step] at steps
      split at steps
      · rename_i recovery reconciled effect rest isProcess
        rw [RecoveryHolds, isProcess] at holds
        rw [← Option.some.inj steps]
        exact holds.2
      · cases steps
  | crash =>
      have journal := holds.journalHolds
      rw [RecoveryState.step] at steps
      split at steps
      · rw [← Option.some.inj steps]
        exact journal
      · cases steps

/-! ## After reconciliation -/

/-- The last step that the session has committed. -/
def lastCommitted (s0 : Nat) (committed : List Nat) : Option Nat :=
  (committed.filter fun step => s0 ≤ step).max?

structure ReplayableEntry (store : PinStore Pins Ref) (stores : Stores Pins Ref)
    (incarnation : String) (entry : Nat × ReplayBatch Ref) : Prop where
  accepted : stores.collections.lookup entry.1 = some entry.2.raw
  rawRetained : store.Retained stores.pins (incarnation, entry.1) entry.2.raw.manifest
  converted : entry.2.converted = stores.conversions.lookup (batchIdOf entry.2.raw)
  convertedRetained : ∀ reference ∈ entry.2.converted,
    entry.2.batchId = some (batchIdOf entry.2.raw) ∧
      store.Retained stores.pins (incarnation, entry.1) reference

/-- The journal has exactly the accepted rollouts behind the last joint checkpoint. -/
structure Replayable (store : PinStore Pins Ref) (s0 : Nat) (durable : Durable Pins Ref Source)
    (recovery : TrainingRecovery Ref Source) (start : Nat) : Prop where
  journal : durable.journal = some recovery
  startIs : recovery.checkpoint.startRolloutId = some start
  boundary : start =
    match lastCommitted s0 durable.stores.committed with
    | some step => step + 1
    | none => s0
  accepted : durable.stores.collections.map Prod.fst =
    List.range' s0 durable.stores.collections.length
  keys : recovery.batches.map Prod.fst =
    List.range' start (s0 + durable.stores.collections.length - start)
  entries : ∀ entry ∈ recovery.batches,
    ReplayableEntry store durable.stores recovery.incarnation entry

theorem Window.replayable {durable : Durable Pins Ref Source}
    {recovery : TrainingRecovery Ref Source} {start : Nat}
    (idle : Idle store s0 saveDir 0 durable recovery)
    (window : Window store s0 durable.stores start 0 recovery)
    (adopted : Adopted durable.stores recovery)
    (reconciled : ∀ entry ∈ recovery.batches,
      IsReconciled durable.stores.conversions entry) :
    Replayable store s0 durable recovery start := by
  have covers := window.covers
  refine ⟨idle.journal window.loaded, window.startIs, ?_, idle.stores.accepted, ?_, ?_⟩
  · have below := adopted start window.startIs
    rcases window.boundary with ⟨_, isStart⟩ | ⟨step, committed, own, _, isStart⟩
    · have nothing : lastCommitted s0 durable.stores.committed = none := by
        rw [lastCommitted, List.max?_eq_none_iff, List.filter_eq_nil_iff]
        intro other member
        have small := below other member
        rw [decide_eq_true_iff]
        omega
      rw [nothing]
      exact isStart
    · have isLast : lastCommitted s0 durable.stores.committed = some step := by
        rw [lastCommitted, List.max?_eq_some_iff]
        refine ⟨List.mem_filter.mpr ⟨committed, decide_eq_true own⟩, ?_⟩
        intro other member
        have small := below other (List.mem_of_mem_filter member)
        omega
      rw [isLast]
      exact isStart
  · rw [window.keys,
      show s0 + durable.stores.collections.length - start = recovery.batches.length by omega]
  · intro entry member
    have holds := window.entries entry member
    refine ⟨holds.accepted, holds.rawRetained, reconciled entry member, ?_⟩
    intro reference isConverted
    rcases holds.converted reference isConverted with ⟨batchId, _, retained⟩
    exact ⟨batchId, retained⟩

/-- Whatever effects were lost before: a process that reconciles has the replayable window, or
nothing has been accepted since no load has been recorded. -/
theorem reconcile_replayable [DecidableEq Ref] (store : PinStore Pins Ref) (lawful : store.Lawful)
    (useStatelessAdam : Bool) (s0 : Nat) (saveDir : Option String) (pins : Pins)
    (committed : List Nat) (ownMarkers : ∀ step ∈ committed, step < s0)
    {state : RecoveryState Pins Ref Source}
    (reached : Reaches (RecoveryState.step store useStatelessAdam) (RecoveryAllowed s0 saveDir)
      (RecoveryState.initial pins committed) state)
    {process : RecoveryProcess Ref Source} (running : state.process = some process)
    (idle : process.pending = []) :
    ∃ durable recovery,
      reconcile store useStatelessAdam (state.durable, process.recovery) =
        .ok (durable, recovery) ∧
      ((∃ start, Replayable store s0 durable recovery start) ∨
        recovery.loaded = false ∧ recovery.batches = [] ∧
          durable.stores.collections = []) := by
  have initially : RecoveryHolds store s0 saveDir
      (RecoveryState.initial pins committed : RecoveryState Pins Ref Source) :=
    ⟨⟨rfl, fun step member => ⟨ownMarkers step member, fun own =>
        absurd (ownMarkers step member) (Nat.not_lt.mpr own)⟩⟩,
      fun _ => rfl, fun _ isJournal => nomatch isJournal⟩
  have holds : RecoveryHolds store s0 saveDir state :=
    reached.invariant (RecoveryHolds store s0 saveDir) initially
      fun _ _ _ may holds steps => holds.step lawful useStatelessAdam may steps
  rw [RecoveryHolds, running] at holds
  dsimp only at holds
  rw [idle] at holds
  have atMostOne := lateOf_le process.reconciled
  rcases reconcileCheckpoint_settles lawful holds atMostOne useStatelessAdam with
    ⟨adopting, sameLoaded, adopts⟩
  have adopted := adopting.idle
  rcases reconcileCollection_settles lawful adopted atMostOne with
    ⟨effects, collects, settles, reconciled⟩
  have ran : reconcile store useStatelessAdam (state.durable, process.recovery) =
      .ok (runEffects store effects (runEffects store
        (reconcileCheckpoint useStatelessAdam state.durable.stores.committed process.recovery)
        (state.durable, process.recovery))) := by
    rw [reconcile]
    dsimp only
    rw [collects]
    rfl
  have final := settles.idle
  refine ⟨_, _, ran, ?_⟩
  rcases final.keeps.window with unloaded | ⟨start, behind, bounded, window⟩
  · exact .inr ⟨unloaded.loaded, unloaded.batches, unloaded.collections⟩
  · have complete : behind = 0 := Nat.le_zero.mp bounded
    rw [complete] at window
    refine .inl ⟨start, window.replayable final ?_ ?_⟩
    · have loaded := window.loaded
      rw [reconciled.loaded, sameLoaded] at loaded
      exact reconciled.adopted (adopts loaded)
    · intro entry member
      have isReconciled := reconciled.batches entry member
      rwa [← reconciled.isReady] at isReconciled

end Reached

/-! ## A lost acceptance and a lost notification -/

section Lost

def pinTable : PinStore (String × Nat → List String) String where
  retain := fun owner roots pins => Function.update pins owner roots
  release := fun owner pins => Function.update pins owner []
  Retained := fun pins owner ref => ref ∈ pins owner

theorem pinTable_lawful : pinTable.Lawful where
  retain_own := by
    intro pins owner roots ref member
    change ref ∈ Function.update pins owner roots owner
    rwa [Function.update_self]
  retain_other := by
    intro pins owner other roots ref differs retained
    change ref ∈ Function.update pins owner roots other
    rwa [Function.update_of_ne differs]
  release_other := by
    intro pins owner other ref differs retained
    change ref ∈ Function.update pins owner [] other
    rwa [Function.update_of_ne differs]

def atStart : TrainingCheckpoint where
  load := none
  save := some "checkpoints"
  ckptStep := none
  startRolloutId := none
  finetune := true
  noLoadOptim := false
  noLoadRng := false

def rawOf (commitId : String) : RawRolloutRef String where
  manifest := "raw:" ++ commitId
  commitId := commitId

/-- The queue accepts rollout 1 and the driver commits step 0, and the manager dies. -/
def lostActions : List (RecoveryAction String Unit) :=
  [.start "run" atStart, .initialLoadCompleted 0, .runEffect, .runEffect, .reconcileCollection,
    .collect 0 (rawOf "a") (some ()), .runEffect, .runEffect, .runEffect, .runEffect, .runEffect,
    .convert 0 "converted:a", .runEffect, .runEffect, .runEffect, .runEffect,
    .collect 1 (rawOf "b") none, .runEffect, .commitCheckpoint 0, .crash, .start "other" atStart]

def lostState : RecoveryState (String × Nat → List String) String Unit :=
  (runActions (RecoveryState.step pinTable false) (RecoveryAllowed 0 (some "checkpoints"))
    (RecoveryState.initial (fun _ => []) []) lostActions).getD
      (RecoveryState.initial (fun _ => []) [])

def lostProcess : RecoveryProcess String Unit :=
  lostState.process.getD { recovery := .new "" atStart, reconciled := false, pending := [] }

theorem lostState_reached : Reaches (RecoveryState.step pinTable false)
    (RecoveryAllowed 0 (some "checkpoints")) (RecoveryState.initial (fun _ => []) [])
    lostState := by
  apply @Reaches.of_run _ _ _ _ _ _ lostActions _ _ .start
  have ran : (runActions (RecoveryState.step pinTable false)
      (RecoveryAllowed 0 (some "checkpoints")) (RecoveryState.initial (fun _ => []) [])
      lostActions).isSome = true := by decide
  rcases Option.isSome_iff_exists.mp ran with ⟨final, isFinal⟩
  rw [lostState, isFinal, Option.getD_some]

theorem reconcile_replayable_afterLoss :
    ∃ durable recovery,
      reconcile pinTable false (lostState.durable, lostProcess.recovery) =
        .ok (durable, recovery) ∧
      Replayable pinTable 0 durable recovery 1 ∧ recovery.batches.map Prod.fst = [1] := by
  have running : lostState.process = some lostProcess := by
    have isSome : lostState.process.isSome = true := by decide
    rcases Option.isSome_iff_exists.mp isSome with ⟨process, isProcess⟩
    rw [lostProcess, isProcess, Option.getD_some]
  have outcome : (reconcile pinTable false (lostState.durable, lostProcess.recovery)).map
      (fun after => (after.2.loaded, after.2.checkpoint.startRolloutId,
        after.2.batches.map Prod.fst)) = .ok (true, some 1, [1]) := by decide
  rcases reconcile_replayable pinTable pinTable_lawful false 0 (some "checkpoints") (fun _ => [])
    [] (fun _ isMarker => nomatch isMarker) lostState_reached running rfl with
    ⟨durable, recovery, ran, ⟨start, replayable⟩ | ⟨unloaded, _⟩⟩
  · rw [ran] at outcome
    rcases Prod.mk.inj (Except.ok.inj outcome) with ⟨_, rest⟩
    rcases Prod.mk.inj rest with ⟨isStart, keys⟩
    rw [replayable.startIs] at isStart
    rw [Option.some.inj isStart] at replayable
    exact ⟨durable, recovery, ran, replayable, keys⟩
  · rw [ran] at outcome
    rcases Prod.mk.inj (Except.ok.inj outcome) with ⟨loaded, _⟩
    rw [unloaded] at loaded
    cases loaded

end Lost

end Vime.Ray
