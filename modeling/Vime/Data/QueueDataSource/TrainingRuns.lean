import Vime.Data.QueueDataSource.Acknowledgement

/-! # Runs of training

Every durable write keeps the invariant of what the coordinator holds, whatever lawful
coordinator carries it out and wherever the process dies.
-/

namespace Vime.Data

open Vime.Foundation

section Runs

variable {Q : Type} {isBatch : String → Bool} {coordinator : TrainingCoordinator Q}

/-! ## Consumer writes -/

theorem TrainingCoordinator.Lawful.saveTrainingState (lawful : coordinator.Lawful)
    {queue later : Q} {state : TrainingState}
    (saved : coordinator.saveTrainingState queue state = some later) :
    coordinator.contents later = (coordinator.contents queue).saveTraining state :=
  lawful.savesAtomically saved

theorem TrainingCoordinator.Lawful.saveAdvanced (lawful : coordinator.Lawful) {queue later : Q}
    {positions : List Nat} {change : TrainingState → TrainingState}
    (saved : coordinator.saveAdvanced queue positions change = some later) :
    ∃ state, advance (coordinator.log queue) (coordinator.contents queue).consumer.toTrainingState
        positions = .ok state ∧
      coordinator.contents later = (coordinator.contents queue).saveTraining (change state) := by
  rw [TrainingCoordinator.saveAdvanced] at saved
  split at saved
  · cases saved
  · rename_i state advancedEq
    exact ⟨state, advancedEq, lawful.saveTrainingState saved⟩

theorem TrainingCoordinator.log_sources (queue : Q) :
    (coordinator.log queue).sources = (coordinator.contents queue).log.sources := rfl

theorem TrainingCoordinator.log_sourcePositions (queue : Q) (batchId : String) :
    ((coordinator.log queue).sourcePositions batchId).getD [] =
      (coordinator.contents queue).plan batchId := rfl

/-! ## Steps -/

/-- The invariant, over what the coordinator of the run holds. -/
def TrainingRun.Sound (isBatch : String → Bool) (coordinator : TrainingCoordinator Q)
    (run : TrainingRun Q) : Prop :=
  TrainingInvariant isBatch (coordinator.contents run.queue) run.history run.pc

section Writes

variable (lawful : coordinator.Lawful) {run next : TrainingRun Q} {batchId : String}

include lawful

theorem TrainingRun.Sound.saveReady {readyRef : String} (sound : run.Sound isBatch coordinator)
    (pcEq : run.pc = .readying batchId readyRef) :
    (run.saveReady coordinator batchId readyRef).Sound isBatch coordinator := by
  have known := sound.pc
  rw [pcEq] at known
  rw [TrainingRun.saveReady, TrainingCoordinator.log_sourcePositions]
  split
  · exact sound.withPc trivial
  · rename_i queue saved
    rcases lawful.saveAdvanced saved with ⟨state, advancedEq, contentsEq⟩
    rw [TrainingRun.Sound, contentsEq]
    exact sound.ready (lawful.readsInRange run.queue) (TrainingCoordinator.log_sources run.queue)
      known advancedEq

theorem TrainingRun.Sound.finishBatch (sound : run.Sound isBatch coordinator)
    (batch : isBatch batchId = true)
    (finished : run.finishBatch coordinator batchId = some next) :
    next.Sound isBatch coordinator := by
  rw [TrainingRun.finishBatch] at finished
  split at finished
  · rename_i inputRef sourcePositions receipt readyRef found
    have accepted : (coordinator.contents run.queue).Accepted batchId receipt readyRef :=
      ⟨_, found, rfl⟩
    rcases Option.map_eq_some_iff.mp finished with ⟨queue, saved, rfl⟩
    rcases lawful.saveAdvanced saved with ⟨state, advancedEq, contentsEq⟩
    rw [TrainingRun.Sound, contentsEq]
    exact sound.finish (lawful.readsInRange run.queue)
      (TrainingCoordinator.log_sources run.queue) batch accepted advancedEq
  · cases finished

theorem TrainingRun.Sound.record {ref : String} {positions : List Int} {reason : Option String}
    (sound : run.Sound isBatch coordinator)
    (recorded : run.record coordinator ref positions reason = some next) :
    next.Sound isBatch coordinator := by
  rw [TrainingRun.record] at recorded
  split at recorded
  · cases recorded
  · rename_i state recordedEq
    rcases Option.map_eq_some_iff.mp recorded with ⟨queue, saved, rfl⟩
    rw [TrainingRun.Sound, lawful.saveTrainingState saved]
    exact sound.dispose (lawful.readsInRange run.queue)
      (TrainingCoordinator.log_sources run.queue) rfl recordedEq

theorem TrainingRun.Sound.openReady {readyRef : String} (sound : run.Sound isBatch coordinator)
    (batch : isBatch batchId = true)
    (own : ∀ other position, isBatch other = true →
      (coordinator.contents run.queue).Accepted other position readyRef → other = batchId)
    (opened : run.openReady coordinator batchId readyRef = some next) :
    next.Sound isBatch coordinator := by
  rw [TrainingRun.openReady] at opened
  cases found : (coordinator.contents run.queue).tasks batchId with
  | none =>
      rw [found] at opened
      cases opened
  | some task =>
      rw [found] at opened
      dsimp only at opened
      split at opened
      · rename_i receipt accepted completed
        by_cases same : accepted = readyRef
        · rw [if_pos same] at opened
          rw [← Option.some.inj opened]
          rw [same] at completed
          exact sound.withPc ⟨batch, receipt, task, found, completed⟩
        · rw [if_neg same] at opened
          cases opened
      · rw [← Option.some.inj opened]
        exact sound.withPc ⟨batch, own⟩
      · rcases Option.map_eq_some_iff.mp opened with ⟨queue, acquired, rfl⟩
        have quiet : (coordinator.contents run.queue).Quiet isBatch
            (coordinator.contents queue) := JobQueue.quiet_acquire (lawful.leases acquired)
        exact (sound.quiet quiet).withPc ⟨batch, fun other position isOther accepted =>
          own other position isOther (quiet.results other position readyRef isOther accepted)⟩

theorem TrainingRun.Sound.startConversion (sound : run.Sound isBatch coordinator)
    (started : run.startConversion coordinator = some next) :
    next.Sound isBatch coordinator := by
  rw [TrainingRun.startConversion] at started
  split at started
  · rw [← Option.some.inj started]
    exact sound.withPc trivial
  · rcases Option.map_eq_some_iff.mp started with ⟨queue, saved, rfl⟩
    rw [TrainingRun.Sound, lawful.savesAtomically saved]
    exact TrainingInvariant.startConversion sound true

theorem TrainingRun.Sound.submitTask {queue : Q} {taskId inputRef : String}
    {sourcePositions : Option (List Nat)} (sound : run.Sound isBatch coordinator)
    (raw : ∀ position ∈ sourcePositions.getD [],
      (coordinator.contents run.queue).IsRaw isBatch position)
    (submitted : coordinator.submitTask run.queue taskId
      { inputRef := inputRef, sourcePositions := sourcePositions } = some queue) :
    TrainingInvariant isBatch (coordinator.contents queue) run.history run.pc := by
  rw [lawful.submitsOnce submitted]
  exact sound.quiet (JobQueue.quiet_submitTask _ taskId inputRef sourcePositions raw)

/-- The step lemma. -/
theorem TrainingRun.Sound.step {action : TrainingAction}
    (allowed : run.Allowed isBatch coordinator action) (sound : run.Sound isBatch coordinator)
    (steps : run.step coordinator action = some next) : next.Sound isBatch coordinator := by
  cases action with
  | submit taskId inputRef sourcePositions =>
      rcases Option.map_eq_some_iff.mp steps with ⟨queue, submitted, rfl⟩
      exact sound.submitTask lawful allowed.2 submitted
  | acquire taskId =>
      rcases Option.map_eq_some_iff.mp steps with ⟨queue, acquired, rfl⟩
      exact sound.quiet (JobQueue.quiet_acquire (lawful.leases acquired))
  | release taskId =>
      rcases Option.map_eq_some_iff.mp steps with ⟨queue, released, rfl⟩
      exact sound.quiet (JobQueue.quiet_release (lawful.releases released))
  | complete taskId resultRef =>
      rcases Option.map_eq_some_iff.mp steps with ⟨queue, completed, rfl⟩
      exact sound.quiet
        (JobQueue.quiet_completeTask allowed (lawful.completesAtomically completed))
  | planBatch batchId positions planRef =>
      cases pcEq : run.pc with
      | idle =>
          rw [TrainingRun.step, pcEq] at steps
          rcases Option.map_eq_some_iff.mp steps with ⟨queue, submitted, rfl⟩
          have raw : ∀ position ∈ (some positions).getD [],
              (coordinator.contents run.queue).IsRaw isBatch position := allowed.2
          exact (sound.submitTask lawful raw submitted).withPc trivial
      | acquiring | starting | completing | readying =>
          rw [TrainingRun.step, pcEq] at steps
          cases steps
  | acquirePlanned =>
      cases pcEq : run.pc with
      | acquiring batchId =>
          rw [TrainingRun.step, pcEq] at steps
          rw [← Option.some.inj steps]
          cases acquired : coordinator.acquire run.queue batchId with
          | none => exact sound.withPc trivial
          | some queue =>
              exact (sound.quiet (JobQueue.quiet_acquire (lawful.leases acquired))).withPc trivial
      | idle | starting | completing | readying =>
          rw [TrainingRun.step, pcEq] at steps
          cases steps
  | saveStarted =>
      cases pcEq : run.pc with
      | starting batchId =>
          rw [TrainingRun.step, pcEq] at steps
          exact sound.startConversion lawful steps
      | idle | acquiring | completing | readying =>
          rw [TrainingRun.step, pcEq] at steps
          cases steps
  | readyBatch batchId readyRef =>
      cases pcEq : run.pc with
      | idle =>
          rw [TrainingRun.step, pcEq] at steps
          exact sound.openReady lawful allowed.1 allowed.2 steps
      | acquiring | starting | completing | readying =>
          rw [TrainingRun.step, pcEq] at steps
          cases steps
  | acceptReady =>
      cases pcEq : run.pc with
      | completing batchId readyRef =>
          rw [TrainingRun.step, pcEq] at steps
          dsimp only at steps
          cases completed : coordinator.completeTask run.queue batchId readyRef with
          | none =>
              rw [completed] at steps
              rw [← Option.some.inj steps]
              exact sound.withPc trivial
          | some queue =>
              rw [completed] at steps
              rw [← Option.some.inj steps]
              rw [TrainingRun.Sound, pcEq] at sound
              exact sound.accept (lawful.completesAtomically completed)
      | idle | acquiring | starting | readying =>
          rw [TrainingRun.step, pcEq] at steps
          cases steps
  | saveReady =>
      cases pcEq : run.pc with
      | readying batchId readyRef =>
          rw [TrainingRun.step, pcEq] at steps
          rw [← Option.some.inj steps]
          exact sound.saveReady lawful pcEq
      | idle | acquiring | starting | completing =>
          rw [TrainingRun.step, pcEq] at steps
          cases steps
  | finishBatch batchId =>
      cases pcEq : run.pc with
      | idle =>
          rw [TrainingRun.step, pcEq] at steps
          exact sound.finishBatch lawful allowed steps
      | acquiring | starting | completing | readying =>
          rw [TrainingRun.step, pcEq] at steps
          cases steps
  | recordDispositions ref positions reason =>
      cases pcEq : run.pc with
      | idle =>
          rw [TrainingRun.step, pcEq] at steps
          exact sound.record lawful steps
      | acquiring | starting | completing | readying =>
          rw [TrainingRun.step, pcEq] at steps
          cases steps
  | reject taskId =>
      rcases Option.map_eq_some_iff.mp steps with ⟨queue, failed, rfl⟩
      exact sound.quiet (JobQueue.quiet_failTask (lawful.fails failed))
  | recordRejection index ref reason =>
      rw [TrainingRun.step] at steps
      split at steps
      · rcases Option.map_eq_some_iff.mp steps with ⟨recorded, recordedEq, rfl⟩
        have kept : recorded.Sound isBatch coordinator := sound.record lawful recordedEq
        exact kept
      · cases steps
  | crash =>
      rw [← Option.some.inj steps]
      exact sound.withPc trivial

end Writes

/-- The states that calls, crashes and restarts reach. -/
def TrainingRun.Reached (isBatch : String → Bool) (coordinator : TrainingCoordinator Q)
    (run : TrainingRun Q) : Prop :=
  Reaches (TrainingRun.step coordinator) (TrainingRun.Allowed isBatch coordinator)
    { queue := coordinator.initial } run

/-- The run lemma. -/
theorem TrainingRun.Reached.sound (lawful : coordinator.Lawful) {run : TrainingRun Q}
    (reached : run.Reached isBatch coordinator) : run.Sound isBatch coordinator := by
  apply reached.invariant (TrainingRun.Sound isBatch coordinator)
  case initially =>
    rw [TrainingRun.Sound, lawful.starts]
    exact TrainingInvariant.initial
  case preserved =>
    intro before action later allowed sound steps
    exact sound.step lawful allowed steps

end Runs

end Vime.Data
