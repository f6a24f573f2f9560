import Vime.Data.QueueDataSource.QueueSteps

/-! # Acknowledgement never outruns durability

What the consumer has acknowledged is named by a disposition, planned by a batch whose
conversion is accepted, or the receipt of a finished batch, wherever the process dies.
-/

namespace Vime.Data

open Vime.Foundation

section Acknowledged

variable {isBatch : String → Bool} {queue : JobQueue} {history : List TrainingEvent}

def TrainingState.Acknowledged (state : TrainingState) (position : Nat) : Prop :=
  position < state.processedCursor ∨ position ∈ state.processedPositions

/-- A position stands for itself and for the versions that its task replaced. -/
def AcceptedLog.Covers (log : AcceptedLog) (given position : Nat) : Prop :=
  position = given ∨ position ∈ log.sources given

def Named (history : List TrainingEvent) (position : Nat) : Prop :=
  ∃ positions, .disposed positions ∈ history ∧ position ∈ positions

/-- The batch is finished, and no later `ready_batch` has listed it again. -/
def Settled (history : List TrainingEvent) (batchId : String) : Prop :=
  ∃ later earlier, history = later ++ .finished batchId :: earlier ∧ .readied batchId ∉ later

inductive Reason (isBatch : String → Bool) (queue : JobQueue) (history : List TrainingEvent)
    (position : Nat) : Prop
  | named {given : Nat} (isNamed : Named history given)
      (covers : queue.log.Covers given position)
  | planned {batchId readyRef : String} {receipt given : Nat} (batch : isBatch batchId = true)
      (accepted : queue.Accepted batchId receipt readyRef) (inPlan : given ∈ queue.plan batchId)
      (covers : queue.log.Covers given position)
  | finished {batchId readyRef : String} (batch : isBatch batchId = true)
      (accepted : queue.Accepted batchId position readyRef)
      (isFinished : .finished batchId ∈ history)

structure AcknowledgedInvariant (isBatch : String → Bool) (queue : JobQueue)
    (history : List TrainingEvent) : Prop where
  compacts : Compacts {position | queue.consumer.Acknowledged position}
    queue.consumer.processedCursor queue.consumer.processedPositions
  logged : ∀ position, queue.consumer.Acknowledged position → position < queue.commits.length
  reason : ∀ position, queue.consumer.Acknowledged position →
    Reason isBatch queue history position
  closed : ∀ batchId receipt readyRef, isBatch batchId = true →
    queue.Accepted batchId receipt readyRef → queue.consumer.Acknowledged receipt →
      ∀ position ∈ queue.plan batchId, queue.consumer.Acknowledged position
  finished : ∀ batchId, .finished batchId ∈ history → isBatch batchId = true ∧
    ∃ receipt readyRef, queue.Accepted batchId receipt readyRef ∧
      queue.consumer.Acknowledged receipt

structure BatchesInvariant (isBatch : String → Bool) (queue : JobQueue)
    (history : List TrainingEvent) : Prop where
  readied : ∀ batchId, .readied batchId ∈ history → isBatch batchId = true ∧
    ∃ receipt readyRef, queue.Accepted batchId receipt readyRef ∧
      (.finished batchId ∉ history → readyRef ∈ queue.consumer.batches)
  settled : ∀ batchId, Settled history batchId → ∃ receipt readyRef,
    queue.Accepted batchId receipt readyRef ∧ readyRef ∉ queue.consumer.batches
  distinct : ∀ batchId receipt otherId other readyRef, isBatch batchId = true →
    isBatch otherId = true → queue.Accepted batchId receipt readyRef →
      queue.Accepted otherId other readyRef → batchId = otherId

theorem JobQueue.Accepted.unique {batchId readyRef otherRef : String} {receipt other : Nat}
    (accepted : queue.Accepted batchId receipt readyRef)
    (otherAccepted : queue.Accepted batchId other otherRef) :
    receipt = other ∧ readyRef = otherRef := by
  rcases accepted with ⟨task, found, completed⟩
  rcases otherAccepted with ⟨next, nextFound, nextCompleted⟩
  rw [found, Option.some.injEq] at nextFound
  rw [← nextFound, completed, TaskState.completed.injEq] at nextCompleted
  exact nextCompleted

/-! ## Steps of the queue keep the invariants -/

theorem Reason.mono {later : JobQueue} {laterHistory : List TrainingEvent}
    (extended : queue.Extends later) (consistent : queue.Consistent isBatch)
    (grows : ∀ event ∈ history, event ∈ laterHistory) {position : Nat}
    (reason : Reason isBatch queue history position) :
    Reason isBatch later laterHistory position := by
  have coversLater : ∀ given, queue.log.Covers given position →
      later.log.Covers given position := fun given covers =>
    covers.imp id (extended.sources consistent position)
  cases reason with
  | @named given isNamed covers =>
      rcases isNamed with ⟨positions, event, member⟩
      exact .named ⟨positions, grows _ event, member⟩ (coversLater given covers)
  | @planned batchId readyRef receipt given batch accepted inPlan covers =>
      rcases id accepted with ⟨task, found, _⟩
      rw [← extended.plan found] at inPlan
      exact .planned batch (extended.accepted accepted) inPlan (coversLater given covers)
  | finished batch accepted isFinished =>
      exact .finished batch (extended.accepted accepted) (grows _ isFinished)

theorem AcknowledgedInvariant.steps {later : JobQueue} (steps : queue.Steps isBatch later)
    (consistent : queue.Consistent isBatch)
    (invariant : AcknowledgedInvariant isBatch queue history) :
    AcknowledgedInvariant isBatch later history := by
  have laterConsistent := steps.consistent consistent
  have extended := steps.extended
  have lengths := extended.commits.length_le
  rcases invariant with ⟨compacts, logged, reason, closed, finished⟩
  have consumerEq := steps.consumer
  constructor
  · rw [consumerEq]
    exact compacts
  · rw [consumerEq]
    exact fun position acknowledged => Nat.lt_of_lt_of_le (logged position acknowledged) lengths
  · rw [consumerEq]
    exact fun position acknowledged => (reason position acknowledged).mono extended consistent
      fun _ member => member
  · rw [consumerEq]
    intro batchId receipt readyRef batch accepted acknowledged position inPlan
    -- The receipt is older than this step, so the batch was accepted before.
    have commit := laterConsistent.committed batchId receipt readyRef accepted
    have inside := logged receipt acknowledged
    have before := extended.commit (List.getElem?_eq_getElem inside)
    rw [commit, Option.some.injEq] at before
    rcases consistent.accepted receipt _ (List.getElem?_eq_getElem inside) with
      ⟨oldRef, oldAccepted⟩
    rw [← before] at oldAccepted
    rcases id oldAccepted with ⟨task, found, _⟩
    rw [extended.plan found] at inPlan
    exact closed batchId receipt oldRef batch oldAccepted acknowledged position inPlan
  · rw [consumerEq]
    intro batchId event
    rcases finished batchId event with ⟨batch, receipt, readyRef, accepted, acknowledged⟩
    exact ⟨batch, receipt, readyRef, extended.accepted accepted, acknowledged⟩

theorem BatchesInvariant.steps {later : JobQueue} (steps : queue.Steps isBatch later)
    (distinct : ∀ batchId receipt otherId other readyRef, isBatch batchId = true →
      isBatch otherId = true → later.Accepted batchId receipt readyRef →
        later.Accepted otherId other readyRef → batchId = otherId)
    (invariant : BatchesInvariant isBatch queue history) :
    BatchesInvariant isBatch later history := by
  constructor
  · rw [steps.consumer]
    intro batchId event
    rcases invariant.readied batchId event with ⟨batch, receipt, readyRef, accepted, listed⟩
    exact ⟨batch, receipt, readyRef, steps.extended.accepted accepted, listed⟩
  · rw [steps.consumer]
    intro batchId isSettled
    rcases invariant.settled batchId isSettled with ⟨receipt, readyRef, accepted, absent⟩
    exact ⟨receipt, readyRef, steps.extended.accepted accepted, absent⟩
  · exact distinct

/-! ## Consumer writes -/

theorem extends_save (queue : JobQueue) (consumer : ConsumerState) :
    queue.Extends (queue.save consumer) :=
  ⟨List.prefix_rfl, fun _ task found => ⟨task, found, rfl, fun _ _ completed => completed⟩⟩

theorem consistent_save (consumer : ConsumerState) (consistent : queue.Consistent isBatch) :
    (queue.save consumer).Consistent isBatch :=
  ⟨consistent.committed, consistent.accepted, consistent.sources⟩

/-- Advancing keeps what is acknowledged justified. -/
theorem AcknowledgedInvariant.save (consistent : queue.Consistent isBatch)
    (invariant : AcknowledgedInvariant isBatch queue history) {log : AcceptedLog}
    (reads : log.ReadsInRange) (sameSources : log.sources = queue.log.sources)
    {positions : List Nat} {advanced state : TrainingState} {event : TrainingEvent}
    (advancedEq : advance log queue.consumer.toTrainingState positions = .ok advanced)
    (cursorEq : state.processedCursor = advanced.processedCursor)
    (sparseEq : state.processedPositions = advanced.processedPositions)
    (logged : ∀ position ∈ positions, position < queue.commits.length)
    (reasons : ∀ given ∈ positions, ∀ position, queue.log.Covers given position →
      Reason isBatch queue (event :: history) position)
    (finished : ∀ batchId, event = .finished batchId → isBatch batchId = true ∧
      ∃ receipt readyRef, queue.Accepted batchId receipt readyRef ∧ receipt ∈ positions) :
    AcknowledgedInvariant isBatch (queue.saveTraining state) (event :: history) := by
  have advancedCompacts := (advance_compacts reads invariant.compacts advancedEq).1
  rw [← cursorEq, ← sparseEq, newlyAcknowledged_congr sameSources] at advancedCompacts
  have acknowledgedIff : ∀ position, state.Acknowledged position ↔
      queue.consumer.Acknowledged position ∨ position ∈ newlyAcknowledged queue.log
        {position | queue.consumer.Acknowledged position} positions :=
    advancedCompacts.covers
  have coverEq : {position | state.Acknowledged position} =
      {position | queue.consumer.Acknowledged position} ∪ newlyAcknowledged queue.log
        {position | queue.consumer.Acknowledged position} positions :=
    Set.ext acknowledgedIff
  have keeps : ∀ position, queue.consumer.Acknowledged position → state.Acknowledged position :=
    fun position old => (acknowledgedIff position).mpr (Or.inl old)
  have newCovers : ∀ position, position ∈ newlyAcknowledged queue.log
      {position | queue.consumer.Acknowledged position} positions →
        ∃ given ∈ positions, queue.log.Covers given position := by
    rintro position ⟨given, listed, same | ⟨_, isSource⟩⟩
    · exact ⟨given, listed, Or.inl same⟩
    · exact ⟨given, listed, Or.inr isSource⟩
  have given_ : ∀ position ∈ positions, state.Acknowledged position := fun position listed =>
    (acknowledgedIff position).mpr (Or.inr ⟨position, listed, Or.inl rfl⟩)
  constructor
  · exact coverEq ▸ advancedCompacts
  · intro position acknowledged
    rcases (acknowledgedIff position).mp acknowledged with old | isNew
    · exact invariant.logged position old
    · rcases newCovers position isNew with ⟨given, listed, same | isSource⟩
      · rw [same]
        exact logged given listed
      · exact (consistent.sources_raw position isSource).logged
  · intro position acknowledged
    have extended : queue.Extends (queue.saveTraining state) := extends_save queue _
    rcases (acknowledgedIff position).mp acknowledged with old | isNew
    · exact (invariant.reason position old).mono extended consistent
        fun _ member => List.mem_cons_of_mem _ member
    · rcases newCovers position isNew with ⟨given, listed, covers⟩
      exact (reasons given listed position covers).mono extended consistent fun _ member => member
  · intro batchId receipt readyRef batch accepted acknowledged position inPlan
    have isAccepted : queue.Accepted batchId receipt readyRef := accepted
    have commit := consistent.committed batchId receipt readyRef isAccepted
    rcases (acknowledgedIff receipt).mp acknowledged with old | ⟨given, listed, same | source⟩
    · exact keeps position (invariant.closed batchId receipt readyRef batch isAccepted old position
        inPlan)
    · by_cases isNew : queue.consumer.Acknowledged given
      · rw [← same] at isNew
        exact keeps position (invariant.closed batchId receipt readyRef batch isAccepted isNew
          position inPlan)
      · refine (acknowledgedIff position).mpr (Or.inr ⟨given, listed, Or.inr ⟨isNew, ?_⟩⟩)
        rw [← same, JobQueue.sources_eq commit]
        exact inPlan
    · -- The receipt of a conversion is no source.
      rcases consistent.sources_raw receipt source.2 with ⟨taskId, found, notBatch⟩
      rw [commit, Option.some.injEq] at found
      rw [← found, batch] at notBatch
      cases notBatch
  · intro batchId member
    rcases List.mem_cons.mp member with isNew | old
    · rcases finished batchId isNew.symm with ⟨batch, receipt, readyRef, accepted, listed⟩
      exact ⟨batch, receipt, readyRef, accepted, given_ receipt listed⟩
    · rcases invariant.finished batchId old with ⟨batch, receipt, readyRef, accepted, acknowledged⟩
      exact ⟨batch, receipt, readyRef, accepted, keeps receipt acknowledged⟩

theorem Settled.of_cons {event : TrainingEvent} {batchId : String}
    (settled : Settled (event :: history) batchId) :
    event = .finished batchId ∨ event ≠ .readied batchId ∧ Settled history batchId := by
  rcases settled with ⟨later, earlier, split, notReadied⟩
  cases later with
  | nil => exact Or.inl (List.cons.inj split).1
  | cons first rest =>
      rw [List.cons_append] at split
      rcases List.cons.inj split with ⟨same, restEq⟩
      rw [List.mem_cons, not_or] at notReadied
      rw [same]
      exact Or.inr ⟨fun isReadied => notReadied.1 isReadied.symm, rest, earlier, restEq,
        notReadied.2⟩

theorem Settled.finished {batchId : String} (settled : Settled history batchId) :
    .finished batchId ∈ history := by
  rcases settled with ⟨later, earlier, rfl, _⟩
  exact List.mem_append_right _ List.mem_cons_self

section Writes

variable {state : TrainingState} {batchId readyRef : String} {receipt : Nat}

/-- The write of `ready_batch` lists the batch. -/
theorem BatchesInvariant.ready (acknowledged : AcknowledgedInvariant isBatch queue history)
    (invariant : BatchesInvariant isBatch queue history) (batch : isBatch batchId = true)
    (accepted : queue.Accepted batchId receipt readyRef)
    (batchesEq : state.batches = queue.consumer.batches) :
    BatchesInvariant isBatch (queue.saveTraining (state.withBatch readyRef))
      (.readied batchId :: history) := by
  have listed : ∀ reference, reference ∈ (state.withBatch readyRef).batches ↔
      reference ∈ queue.consumer.batches ∨ reference = readyRef := by
    intro reference
    rw [TrainingState.withBatch, ← batchesEq]
    by_cases already : readyRef ∈ state.batches
    · rw [if_pos already]
      exact ⟨Or.inl, fun either => either.elim id fun same => same ▸ already⟩
    · rw [if_neg already, List.mem_append, List.mem_singleton]
  constructor
  · intro otherId member
    rcases List.mem_cons.mp member with same | old
    · rw [TrainingEvent.readied.inj same]
      exact ⟨batch, receipt, readyRef, accepted, fun _ => (listed readyRef).mpr (Or.inr rfl)⟩
    · rcases invariant.readied otherId old with ⟨otherBatch, other, otherRef, isAccepted, inList⟩
      refine ⟨otherBatch, other, otherRef, isAccepted, fun unfinished => ?_⟩
      exact (listed otherRef).mpr (Or.inl (inList fun finished =>
        unfinished (List.mem_cons_of_mem _ finished)))
  · intro otherId settled
    rcases settled.of_cons with contrary | ⟨notReadied, before⟩
    · cases contrary
    · rcases invariant.settled otherId before with ⟨other, otherRef, isAccepted, absent⟩
      refine ⟨other, otherRef, isAccepted, fun member => ?_⟩
      rcases (listed otherRef).mp member with old | same
      · exact absent old
      · rw [same] at isAccepted
        have otherBatch := (acknowledged.finished otherId before.finished).1
        exact notReadied (congrArg _ (invariant.distinct batchId receipt otherId other readyRef
          batch otherBatch accepted isAccepted))
  · exact invariant.distinct

theorem BatchesInvariant.finish (invariant : BatchesInvariant isBatch queue history)
    (batch : isBatch batchId = true) (accepted : queue.Accepted batchId receipt readyRef)
    (batchesEq : state.batches = queue.consumer.batches) :
    BatchesInvariant isBatch (queue.saveTraining (state.withoutBatch readyRef))
      (.finished batchId :: history) := by
  have listed : ∀ reference, reference ∈ (state.withoutBatch readyRef).batches ↔
      reference ∈ queue.consumer.batches ∧ reference ≠ readyRef := by
    intro reference
    rw [TrainingState.withoutBatch, ← batchesEq, List.mem_filter, decide_eq_true_eq]
  constructor
  · intro otherId member
    rcases List.mem_cons.mp member with contrary | old
    · cases contrary
    · rcases invariant.readied otherId old with ⟨otherBatch, other, otherRef, isAccepted, inList⟩
      refine ⟨otherBatch, other, otherRef, isAccepted, fun unfinished => ?_⟩
      rw [List.mem_cons, not_or] at unfinished
      refine (listed otherRef).mpr ⟨inList unfinished.2, fun same => ?_⟩
      rw [same] at isAccepted
      exact unfinished.1 (congrArg _ (invariant.distinct otherId other batchId receipt readyRef
        otherBatch batch isAccepted accepted))
  · intro otherId settled
    rcases settled.of_cons with same | ⟨_, before⟩
    · rw [← TrainingEvent.finished.inj same]
      exact ⟨receipt, readyRef, accepted, fun member => ((listed readyRef).mp member).2 rfl⟩
    · rcases invariant.settled otherId before with ⟨other, otherRef, isAccepted, absent⟩
      exact ⟨other, otherRef, isAccepted, fun member => absent ((listed otherRef).mp member).1⟩
  · exact invariant.distinct

theorem BatchesInvariant.dispose (invariant : BatchesInvariant isBatch queue history)
    (positions : List Nat) (batchesEq : state.batches = queue.consumer.batches) :
    BatchesInvariant isBatch (queue.saveTraining state) (.disposed positions :: history) := by
  constructor
  · intro otherId member
    rcases List.mem_cons.mp member with contrary | old
    · cases contrary
    · rcases invariant.readied otherId old with ⟨otherBatch, other, otherRef, isAccepted, inList⟩
      refine ⟨otherBatch, other, otherRef, isAccepted, fun unfinished => ?_⟩
      have listed := inList fun finished => unfinished (List.mem_cons_of_mem _ finished)
      rwa [← batchesEq] at listed
  · intro otherId settled
    rcases settled.of_cons with contrary | ⟨_, before⟩
    · cases contrary
    · rcases invariant.settled otherId before with ⟨other, otherRef, isAccepted, absent⟩
      rw [← batchesEq] at absent
      exact ⟨other, otherRef, isAccepted, absent⟩
  · exact invariant.distinct

end Writes

end Acknowledged

/-! ## Runs -/

section Run

variable {isBatch : String → Bool}

def PcInvariant (isBatch : String → Bool) (queue : JobQueue) : TrainingPc → Prop
  | .completing batchId readyRef => isBatch batchId = true ∧
      ∀ otherId receipt, isBatch otherId = true →
        queue.Accepted otherId receipt readyRef → otherId = batchId
  | .readying batchId readyRef => isBatch batchId = true ∧
      ∃ receipt, queue.Accepted batchId receipt readyRef
  | _ => True

theorem PcInvariant.save {queue : JobQueue} {pc : TrainingPc} (consumer : ConsumerState)
    (known : PcInvariant isBatch queue pc) : PcInvariant isBatch (queue.save consumer) pc := by
  cases pc with
  | idle | acquiring | starting => exact trivial
  | completing | readying => exact known

structure TrainingInvariant (isBatch : String → Bool) (queue : JobQueue)
    (history : List TrainingEvent) (pc : TrainingPc) : Prop where
  consistent : queue.Consistent isBatch
  acknowledged : AcknowledgedInvariant isBatch queue history
  batches : BatchesInvariant isBatch queue history
  pc : PcInvariant isBatch queue pc

theorem TrainingInvariant.initial : TrainingInvariant isBatch {} [] .idle := by
  have noneAcknowledged : ∀ position, ¬ TrainingState.Acknowledged {} position := by
    rintro position (below | listed)
    · exact absurd below (Nat.not_lt_zero position)
    · cases listed
  constructor
  · constructor
    · rintro taskId position resultRef ⟨task, found, _⟩
      cases found
    · intro position taskId found
      cases found
    · intro taskId task found
      cases found
  · constructor
    · exact ⟨List.Pairwise.nil, fun _ listed => (nomatch listed), fun _ => Iff.rfl⟩
    · exact fun position acknowledged => absurd acknowledged (noneAcknowledged position)
    · exact fun position acknowledged => absurd acknowledged (noneAcknowledged position)
    · exact fun _ receipt _ _ _ acknowledged => absurd acknowledged (noneAcknowledged receipt)
    · exact fun _ member => nomatch member
  · constructor
    · exact fun _ member => nomatch member
    · exact fun _ settled => nomatch settled.finished
    · rintro batchId receipt otherId other readyRef _ _ ⟨task, found, _⟩
      cases found
  · exact trivial

section Steps

variable {queue : JobQueue} {history : List TrainingEvent} {pc : TrainingPc}
  {batchId readyRef : String}

theorem TrainingInvariant.withPc (invariant : TrainingInvariant isBatch queue history pc)
    {next : TrainingPc} (known : PcInvariant isBatch queue next) :
    TrainingInvariant isBatch queue history next :=
  ⟨invariant.consistent, invariant.acknowledged, invariant.batches, known⟩

theorem TrainingInvariant.quiet {later : JobQueue} (quiet : queue.Quiet isBatch later)
    (invariant : TrainingInvariant isBatch queue history pc) :
    TrainingInvariant isBatch later history pc := by
  refine ⟨quiet.consistent invariant.consistent,
    invariant.acknowledged.steps quiet.toSteps invariant.consistent,
    invariant.batches.steps quiet.toSteps ?_, ?_⟩
  · intro firstId receipt otherId other ref batch otherBatch accepted otherAccepted
    exact invariant.batches.distinct firstId receipt otherId other ref batch otherBatch
      (quiet.results firstId receipt ref batch accepted)
      (quiet.results otherId other ref otherBatch otherAccepted)
  · have kept := invariant.pc
    cases pc with
    | idle | acquiring | starting => exact trivial
    | completing batchId readyRef =>
        exact ⟨kept.1, fun otherId receipt batch accepted =>
          kept.2 otherId receipt batch (quiet.results otherId receipt readyRef batch accepted)⟩
    | readying batchId readyRef =>
        rcases kept with ⟨batch, receipt, accepted⟩
        exact ⟨batch, receipt, quiet.extended.accepted accepted⟩

theorem TrainingInvariant.startConversion
    (invariant : TrainingInvariant isBatch queue history pc) (started : Bool) :
    TrainingInvariant isBatch
      (queue.save { queue.consumer with conversionStarted := started }) history .idle := by
  have acknowledged := invariant.acknowledged
  have batches := invariant.batches
  refine ⟨consistent_save _ invariant.consistent,
    ⟨acknowledged.compacts, acknowledged.logged, ?_, acknowledged.closed,
      acknowledged.finished⟩,
    ⟨batches.readied, batches.settled, batches.distinct⟩, trivial⟩
  intro position isAcknowledged
  exact (acknowledged.reason position isAcknowledged).mono (extends_save queue _)
    invariant.consistent fun _ member => member

section Writes

variable {log : AcceptedLog} (reads : log.ReadsInRange)
  (sameSources : log.sources = queue.log.sources)

include reads sameSources

theorem TrainingInvariant.ready (invariant : TrainingInvariant isBatch queue history pc)
    (known : PcInvariant isBatch queue (.readying batchId readyRef)) {state : TrainingState}
    (advancedEq : advance log queue.consumer.toTrainingState (queue.plan batchId) = .ok state) :
    TrainingInvariant isBatch (queue.saveTraining (state.withBatch readyRef))
      (.readied batchId :: history) .idle := by
  rcases known with ⟨batch, receipt, accepted⟩
  have batchesEq := (advance_compacts reads invariant.acknowledged.compacts advancedEq).2.2.2
  have cursorEq : (state.withBatch readyRef).processedCursor = state.processedCursor := by
    rw [TrainingState.withBatch]
    split <;> rfl
  have sparseEq : (state.withBatch readyRef).processedPositions =
      state.processedPositions := by
    rw [TrainingState.withBatch]
    split <;> rfl
  refine ⟨consistent_save _ invariant.consistent, ?_, ?_, trivial⟩
  · apply invariant.acknowledged.save invariant.consistent reads sameSources advancedEq
      cursorEq sparseEq
    · exact fun position inPlan => (invariant.consistent.plan_raw position inPlan).logged
    · exact fun given inPlan position covers => .planned batch accepted inPlan covers
    · exact fun _ contrary => nomatch contrary
  · exact invariant.batches.ready invariant.acknowledged batch accepted batchesEq

theorem TrainingInvariant.finish (invariant : TrainingInvariant isBatch queue history pc)
    (batch : isBatch batchId = true) {receipt : Nat}
    (accepted : queue.Accepted batchId receipt readyRef) {state : TrainingState}
    (advancedEq : advance log queue.consumer.toTrainingState [receipt] = .ok state) :
    TrainingInvariant isBatch (queue.saveTraining (state.withoutBatch readyRef))
      (.finished batchId :: history) pc := by
  have commit := invariant.consistent.committed batchId receipt readyRef accepted
  have batchesEq := (advance_compacts reads invariant.acknowledged.compacts advancedEq).2.2.2
  have cursorEq : (state.withoutBatch readyRef).processedCursor = state.processedCursor := rfl
  have sparseEq : (state.withoutBatch readyRef).processedPositions =
      state.processedPositions := rfl
  refine ⟨consistent_save _ invariant.consistent, ?_, ?_, invariant.pc.save _⟩
  · apply invariant.acknowledged.save invariant.consistent reads sameSources advancedEq
      cursorEq sparseEq
    · intro position listed
      rw [List.mem_singleton.mp listed]
      exact (List.getElem?_eq_some_iff.mp commit).1
    · intro given listed position covers
      rw [List.mem_singleton.mp listed] at covers
      rcases covers with same | isSource
      · rw [same]
        exact .finished batch accepted List.mem_cons_self
      · rw [JobQueue.sources_eq commit] at isSource
        exact .planned batch accepted isSource (Or.inl rfl)
    · intro otherId event
      rw [← TrainingEvent.finished.inj event]
      exact ⟨batch, receipt, readyRef, accepted, List.mem_singleton_self receipt⟩
  · exact invariant.batches.finish batch accepted batchesEq

theorem TrainingInvariant.dispose (sameCommits : log.commits = queue.commits)
    (invariant : TrainingInvariant isBatch queue history pc) {ref : String}
    {positions : List Int} {reason : Option String} {state : TrainingState}
    (recorded : recordDispositions log queue.consumer.toTrainingState ref positions reason =
      .ok state) :
    TrainingInvariant isBatch (queue.saveTraining state)
      (.disposed (positions.map Int.toNat) :: history) pc := by
  have logged := recordDispositions_logged reads recorded
  rw [sameCommits] at logged
  rcases bind_eq_ok.mp recorded with ⟨_, _, checked⟩
  rcases bind_eq_ok.mp checked with ⟨_, _, more⟩
  rcases bind_eq_ok.mp more with ⟨advanced, advancedEq, stateEq⟩
  have batchesEq := (advance_compacts reads invariant.acknowledged.compacts advancedEq).2.2.2
  have cursorEq : state.processedCursor = advanced.processedCursor := by
    rw [← Except.ok.inj stateEq]
  have sparseEq : state.processedPositions = advanced.processedPositions := by
    rw [← Except.ok.inj stateEq]
  have stateBatches : state.batches = queue.consumer.batches := by
    rw [← batchesEq, ← Except.ok.inj stateEq]
  refine ⟨consistent_save _ invariant.consistent, ?_, ?_, invariant.pc.save _⟩
  · apply invariant.acknowledged.save invariant.consistent reads sameSources advancedEq
      cursorEq sparseEq logged
    · intro given listed position covers
      exact .named ⟨positions.map Int.toNat, List.mem_cons_self, listed⟩ covers
    · exact fun _ contrary => nomatch contrary
  · exact invariant.batches.dispose _ stateBatches

end Writes

theorem TrainingInvariant.accept {later : JobQueue}
    (invariant : TrainingInvariant isBatch queue history (.completing batchId readyRef))
    (completed : queue.completeTask batchId readyRef = some later) :
    TrainingInvariant isBatch later history (.readying batchId readyRef) := by
  rcases invariant.pc with ⟨batch, own⟩
  have completes : queue.Steps isBatch later ∧ _ := JobQueue.steps_completeTask completed
  rcases completes with ⟨steps, accepted, results⟩
  refine ⟨steps.consistent invariant.consistent,
    invariant.acknowledged.steps steps invariant.consistent,
    invariant.batches.steps steps ?_, batch, _, accepted⟩
  intro firstId receipt otherId other ref firstBatch otherBatch firstAccepted otherAccepted
  rcases results firstId receipt ref firstAccepted with firstBefore | ⟨firstSame, _, firstRef⟩
  · rcases results otherId other ref otherAccepted with otherBefore | ⟨otherSame, _, otherRef⟩
    · exact invariant.batches.distinct firstId receipt otherId other ref firstBatch otherBatch
        firstBefore otherBefore
    · rw [otherRef] at firstBefore
      rw [otherSame]
      exact own firstId receipt firstBatch firstBefore
  · rcases results otherId other ref otherAccepted with otherBefore | ⟨otherSame, _, _⟩
    · rw [firstRef] at otherBefore
      rw [firstSame]
      exact (own otherId other otherBatch otherBefore).symm
    · rw [firstSame, otherSame]

end Steps

end Run

end Vime.Data
