import Vime.Data.QueueDataSource.TrainingRuns

/-! # The contract of the training consumer

Acknowledgement follows durable acceptance in every reached state. A disposition of a later
version or of a conversion, and a late `ready_batch`, reach further than the plain reading.
-/

namespace Vime.Data

open Vime.Foundation

section Contract

/-- What training has acknowledged, over what the coordinator holds. -/
structure AcknowledgementSound (isBatch : String → Bool) (queue : JobQueue)
    (history : List TrainingEvent) : Prop where
  /-- A raw output is disposed of, or planned by a batch whose conversion is accepted, itself
  or in a later version. -/
  raw : ∀ position, queue.consumer.Acknowledged position → queue.IsRaw isBatch position →
    (∃ given, Named history given ∧ queue.log.Covers given position) ∨
    ∃ batchId receipt readyRef, isBatch batchId = true ∧
      queue.Accepted batchId receipt readyRef ∧
      ∃ given ∈ queue.plan batchId, queue.log.Covers given position
  receipt : ∀ batchId receipt readyRef, isBatch batchId = true →
    queue.Accepted batchId receipt readyRef → queue.consumer.Acknowledged receipt →
      .finished batchId ∈ history ∨ Named history receipt
  finished : ∀ batchId, .finished batchId ∈ history → ∃ receipt readyRef,
    queue.Accepted batchId receipt readyRef ∧
    (∀ position ∈ queue.plan batchId, queue.consumer.Acknowledged position) ∧
    queue.consumer.Acknowledged receipt ∧
    (Settled history batchId → readyRef ∉ queue.consumer.batches)
  unfinished : ∀ batchId receipt readyRef, isBatch batchId = true →
    queue.Accepted batchId receipt readyRef → .finished batchId ∉ history →
      readyRef ∈ queue.consumer.batches ∨ ¬ queue.consumer.Acknowledged receipt ∨
        Named history receipt ∧ .readied batchId ∉ history

variable {isBatch : String → Bool}

theorem JobQueue.Consistent.not_raw {queue : JobQueue} (consistent : queue.Consistent isBatch)
    {batchId readyRef : String} {receipt : Nat} (batch : isBatch batchId = true)
    (accepted : queue.Accepted batchId receipt readyRef) : ¬ queue.IsRaw isBatch receipt := by
  rintro ⟨taskId, found, notBatch⟩
  rw [consistent.committed batchId receipt readyRef accepted, Option.some.injEq] at found
  rw [← found, batch] at notBatch
  cases notBatch

theorem TrainingInvariant.receipt {queue : JobQueue} {history : List TrainingEvent}
    {pc : TrainingPc} (invariant : TrainingInvariant isBatch queue history pc)
    {batchId readyRef : String} {receipt : Nat} (batch : isBatch batchId = true)
    (accepted : queue.Accepted batchId receipt readyRef)
    (acknowledged : queue.consumer.Acknowledged receipt) :
    .finished batchId ∈ history ∨ Named history receipt := by
  have consistent := invariant.consistent
  have notRaw := consistent.not_raw batch accepted
  cases invariant.acknowledged.reason receipt acknowledged with
  | named isNamed covers =>
      rcases covers with same | isSource
      · rw [same]
        exact Or.inr isNamed
      · exact absurd (consistent.sources_raw receipt isSource) notRaw
  | planned _ _ inPlan covers =>
      rcases covers with same | isSource
      · rw [same] at notRaw
        exact absurd (consistent.plan_raw _ inPlan) notRaw
      · exact absurd (consistent.sources_raw receipt isSource) notRaw
  | @finished otherId otherRef otherBatch otherAccepted isFinished =>
      have commit := consistent.committed batchId receipt readyRef accepted
      rw [consistent.committed otherId receipt otherRef otherAccepted, Option.some.injEq] at commit
      rw [← commit]
      exact Or.inl isFinished

/-- Acknowledgement never outruns durability. -/
theorem acknowledgement_sound {Q : Type} {coordinator : TrainingCoordinator Q}
    (lawful : coordinator.Lawful) {run : TrainingRun Q}
    (reached : run.Reached isBatch coordinator) :
    AcknowledgementSound isBatch (coordinator.contents run.queue) run.history := by
  have invariant : TrainingInvariant isBatch (coordinator.contents run.queue) run.history
    run.pc := reached.sound lawful
  have consistent := invariant.consistent
  constructor
  · intro position acknowledged raw
    cases invariant.acknowledged.reason position acknowledged with
    | @named given isNamed covers => exact Or.inl ⟨given, isNamed, covers⟩
    | @planned batchId readyRef receipt given batch accepted inPlan covers =>
        exact Or.inr ⟨batchId, receipt, readyRef, batch, accepted, given, inPlan, covers⟩
    | finished batch accepted _ => exact absurd raw (consistent.not_raw batch accepted)
  · exact fun batchId receipt readyRef batch accepted acknowledged =>
      invariant.receipt batch accepted acknowledged
  · intro batchId isFinished
    rcases invariant.acknowledged.finished batchId isFinished with
      ⟨batch, receipt, readyRef, accepted, acknowledged⟩
    refine ⟨receipt, readyRef, accepted,
      invariant.acknowledged.closed batchId receipt readyRef batch accepted acknowledged,
      acknowledged, fun settled => ?_⟩
    rcases invariant.batches.settled batchId settled with ⟨other, otherRef, otherAccepted, absent⟩
    rwa [(accepted.unique otherAccepted).2]
  · intro batchId receipt readyRef batch accepted unfinished
    by_cases readied : .readied batchId ∈ run.history
    · rcases invariant.batches.readied batchId readied with
        ⟨_, other, otherRef, otherAccepted, listed⟩
      rw [(accepted.unique otherAccepted).2]
      exact Or.inl (listed unfinished)
    · by_cases acknowledged :
          (coordinator.contents run.queue).consumer.Acknowledged receipt
      · rcases invariant.receipt batch accepted acknowledged with contrary | isNamed
        · exact absurd contrary unfinished
        · exact Or.inr (Or.inr ⟨isNamed, readied⟩)
      · exact Or.inr (Or.inl acknowledged)

/-! ## Calls that return -/

section Returns

variable {run : TrainingRun JobQueue}

theorem TrainingRun.Sound.exists_advance (sound : run.Sound isBatch JobQueue.coordinator)
    {positions : List Nat} (logged : ∀ position ∈ positions, position < run.queue.commits.length) :
    ∃ state, advance (JobQueue.coordinator.log run.queue)
        (JobQueue.coordinator.consumer run.queue).toTrainingState positions = .ok state ∧
      state.batches = run.queue.consumer.batches ∧
      ∀ position, state.Acknowledged position ↔ run.queue.consumer.Acknowledged position ∨
        position ∈ newlyAcknowledged run.queue.log
          {position | run.queue.consumer.Acknowledged position} positions := by
  have reads := JobQueue.lawful.readsInRange run.queue
  have inLog : ∀ position ∈ positions,
      position < (JobQueue.coordinator.log run.queue).commits.length := logged
  rcases advance_ok reads (JobQueue.coordinator.consumer run.queue).toTrainingState inLog with
    ⟨state, advanced⟩
  have compacts := advance_compacts reads sound.acknowledged.compacts advanced
  exact ⟨state, advanced, compacts.2.2.2, compacts.1.covers⟩

theorem TrainingRun.Sound.exists_record (sound : run.Sound isBatch JobQueue.coordinator)
    (ref : String) {positions : List Nat} {reason : String} (given : reason ≠ "")
    (logged : ∀ position ∈ positions, position < run.queue.commits.length) :
    ∃ state, run.record JobQueue.coordinator ref (positions.map Int.ofNat) (some reason) = some
        { run with
          queue := run.queue.saveTraining state
          history := .disposed positions :: run.history } ∧
      state.batches = run.queue.consumer.batches ∧
      ∀ position ∈ positions, ∀ covered, run.queue.log.Covers position covered →
        ¬ run.queue.consumer.Acknowledged position → state.Acknowledged covered := by
  have back : (positions.map Int.ofNat).map Int.toNat = positions := by
    rw [List.map_map]
    exact List.map_id positions
  rcases sound.exists_advance logged with ⟨state, advanced, batchesEq, acknowledged⟩
  refine ⟨{ state with disposition := some ref }, ?_, batchesEq, ?_⟩
  · have valid := anyUnaccepted_logged (JobQueue.lawful.readsInRange run.queue) positions logged
    have isGiven : ¬ (some reason).getD "" = "" := given
    have notRaised : ¬ (false = true) := Bool.false_ne_true
    rw [TrainingRun.record, recordDispositions, if_neg isGiven, valid, ok_bind, raiseIf,
      if_neg notRaised, ok_bind, back, advanced, ok_bind, pure_eq_ok]
    rfl
  · intro position listed covered covers isNew
    refine (acknowledged covered).mpr (Or.inr ⟨position, listed, ?_⟩)
    exact covers.imp id fun isSource => ⟨isNew, isSource⟩

theorem TrainingRun.Sound.exists_finish (sound : run.Sound isBatch JobQueue.coordinator)
    {batchId readyRef : String} {receipt : Nat}
    (accepted : run.queue.Accepted batchId receipt readyRef) :
    ∃ state : TrainingState, run.finishBatch JobQueue.coordinator batchId = some
      { run with
        queue := run.queue.saveTraining (state.withoutBatch readyRef)
        history := .finished batchId :: run.history } := by
  have commit := sound.consistent.committed batchId receipt readyRef accepted
  have logged : ∀ position ∈ [receipt], position < run.queue.commits.length := by
    intro position listed
    rw [List.mem_singleton.mp listed]
    exact (List.getElem?_eq_some_iff.mp commit).1
  rcases sound.exists_advance logged with ⟨state, advanced, _⟩
  rcases accepted with ⟨⟨inputRef, sourcePositions, taskState⟩, found, completed⟩
  dsimp only at completed
  subst completed
  have isTask : (JobQueue.coordinator.contents run.queue).tasks batchId =
      some ⟨inputRef, sourcePositions, .completed receipt readyRef⟩ := found
  refine ⟨state, ?_⟩
  rw [TrainingRun.finishBatch, isTask]
  dsimp only
  rw [TrainingCoordinator.saveAdvanced, advanced]
  rfl

theorem TrainingRun.Sound.saveReady_listed (sound : run.Sound isBatch JobQueue.coordinator)
    (batchId readyRef : String) :
    readyRef ∈ (run.saveReady JobQueue.coordinator batchId readyRef).queue.consumer.batches ∧
      (run.saveReady JobQueue.coordinator batchId readyRef).pc = .idle ∧
      (run.saveReady JobQueue.coordinator batchId readyRef).queue.tasks = run.queue.tasks ∧
      (run.saveReady JobQueue.coordinator batchId readyRef).history =
        .readied batchId :: run.history := by
  have logged : ∀ position ∈ run.queue.plan batchId, position < run.queue.commits.length :=
    fun position inPlan => (sound.consistent.plan_raw position inPlan).logged
  rcases sound.exists_advance logged with ⟨state, advanced, _⟩
  rw [TrainingRun.saveReady, TrainingCoordinator.log_sourcePositions,
    TrainingCoordinator.saveAdvanced,
    show (JobQueue.coordinator.contents run.queue).plan batchId = run.queue.plan batchId from rfl,
    advanced]
  refine ⟨?_, rfl, rfl, rfl⟩
  change readyRef ∈ (state.withBatch readyRef).batches
  rw [TrainingState.withBatch]
  split
  · assumption
  · exact List.mem_append_right _ (List.mem_singleton_self readyRef)

theorem openReady_accepted {batchId readyRef : String} {receipt : Nat}
    (accepted : run.queue.Accepted batchId receipt readyRef) :
    run.openReady JobQueue.coordinator batchId readyRef =
      some { run with pc := .readying batchId readyRef } := by
  rcases accepted with ⟨⟨inputRef, sourcePositions, taskState⟩, found, completed⟩
  dsimp only at completed
  subst completed
  have isTask : (JobQueue.coordinator.contents run.queue).tasks batchId =
      some ⟨inputRef, sourcePositions, .completed receipt readyRef⟩ := found
  rw [TrainingRun.openReady, isTask]
  dsimp only
  rw [if_pos rfl]

end Returns

end Contract

/-! ## Where the plain reading stops -/

section Examples

def isFirstBatch (taskId : String) : Bool := taskId = "batch:0"

def ReachedFirst (run : TrainingRun JobQueue) : Prop :=
  run.Reached isFirstBatch JobQueue.coordinator

theorem ReachedFirst.act {run next : TrainingRun JobQueue} (reached : ReachedFirst run)
    (action : TrainingAction) (allowed : run.Allowed isFirstBatch JobQueue.coordinator action)
    (steps : run.step JobQueue.coordinator action = some next) : ReachedFirst next :=
  reached.next allowed steps

theorem ReachedFirst.sound {run : TrainingRun JobQueue} (reached : ReachedFirst run) :
    run.Sound isFirstBatch JobQueue.coordinator :=
  TrainingRun.Reached.sound JobQueue.lawful reached

theorem ReachedFirst.start : ReachedFirst { queue := {} } := Reaches.start

theorem reaches_redelivered : ∃ run, ReachedFirst run ∧
    run.pc = .idle ∧ run.history = [] ∧ run.queue.consumer = {} ∧
    run.queue.commits = ["prompt:0", "prompt:delivery:0"] ∧
    run.queue.log.sources 1 = [0] ∧ run.queue.tasks "batch:0" = none := by
  have begun := ReachedFirst.start
  have submitted := begun.act (.submit "prompt:0" "group" none)
    ⟨rfl, fun _ member => nomatch member⟩ rfl
  have acquired := submitted.act (.acquire "prompt:0") trivial rfl
  have completed := acquired.act (.complete "prompt:0" "first") rfl rfl
  have delivered := completed.act (.submit "prompt:delivery:0" "group" (some [0]))
    ⟨rfl, fun position member => ⟨"prompt:0", by rw [List.mem_singleton.mp member]; rfl, rfl⟩⟩ rfl
  have reacquired := delivered.act (.acquire "prompt:delivery:0") trivial rfl
  have recompleted := reacquired.act (.complete "prompt:delivery:0" "second") rfl rfl
  exact ⟨_, recompleted, rfl, rfl, rfl, rfl, rfl, rfl⟩

theorem isFirstBatch_eq {taskId : String} (batch : isFirstBatch taskId = true) :
    taskId = "batch:0" := of_decide_eq_true batch

theorem reaches_accepted : ∃ run, ReachedFirst run ∧
    run.pc = .readying "batch:0" "ready" ∧ run.history = [] ∧
    run.queue.consumer.toTrainingState = {} ∧ run.queue.commits = ["prompt:0", "batch:0"] ∧
    run.queue.plan "batch:0" = [0] ∧ run.queue.Accepted "batch:0" 1 "ready" := by
  have begun := ReachedFirst.start
  have submitted := begun.act (.submit "prompt:0" "group" none)
    ⟨rfl, fun _ member => nomatch member⟩ rfl
  have acquired := submitted.act (.acquire "prompt:0") trivial rfl
  have completed := acquired.act (.complete "prompt:0" "first") rfl rfl
  have planned := completed.act (.planBatch "batch:0" [0] "plan")
    ⟨rfl, fun position member => ⟨"prompt:0", by rw [List.mem_singleton.mp member]; rfl, rfl⟩⟩ rfl
  have leased := planned.act .acquirePlanned trivial rfl
  have started := leased.act .saveStarted trivial rfl
  have opened := started.act (.readyBatch "batch:0" "ready")
    ⟨rfl, fun _ _ batch _ => isFirstBatch_eq batch⟩ rfl
  have accepted := opened.act .acceptReady trivial rfl
  exact ⟨_, accepted, rfl, rfl, rfl, rfl, rfl, ⟨_, rfl, rfl⟩⟩

theorem reaches_finished : ∃ run, ReachedFirst run ∧ run.pc = .idle ∧
    run.history = [.finished "batch:0", .readied "batch:0"] ∧
    run.queue.plan "batch:0" = [0] ∧ run.queue.Accepted "batch:0" 1 "ready" := by
  rcases reaches_accepted with ⟨run, reached, pcEq, historyEq, _, _, planEq, accepted⟩
  have readied := reached.act .saveReady trivial (by rw [TrainingRun.step, pcEq])
  have saved := reached.sound.saveReady_listed "batch:0" "ready"
  have stays : ∀ later : JobQueue, later.tasks = run.queue.tasks →
      later.plan "batch:0" = [0] ∧ later.Accepted "batch:0" 1 "ready" := by
    intro later same
    rw [← planEq]
    dsimp only [JobQueue.plan, JobQueue.log, AcceptedLog.ofCommits]
    rw [JobQueue.Accepted, same]
    exact ⟨rfl, accepted⟩
  rcases readied.sound.exists_finish (stays _ saved.2.2.1).2 with ⟨state, finishedEq⟩
  have finished := readied.act (.finishBatch "batch:0") rfl
    (by rw [TrainingRun.step, saved.2.1]; exact finishedEq)
  refine ⟨_, finished, saved.2.1, ?_, stays _ saved.2.2.1⟩
  dsimp only
  rw [saved.2.2.2, historyEq]

/-- The contract on a run that finishes its batch. -/
theorem acknowledgement_sound_firstBatch : ∃ run : TrainingRun JobQueue,
    run.history = [.finished "batch:0", .readied "batch:0"] ∧
    run.queue.consumer.Acknowledged 0 ∧ run.queue.consumer.Acknowledged 1 ∧
    "ready" ∉ run.queue.consumer.batches ∧
    AcknowledgementSound isFirstBatch run.queue run.history := by
  rcases reaches_finished with ⟨run, reached, _, historyEq, planEq, accepted⟩
  have sound : AcknowledgementSound isFirstBatch run.queue run.history :=
    acknowledgement_sound JobQueue.lawful reached
  have isFinished : .finished "batch:0" ∈ run.history := by
    rw [historyEq]
    exact List.mem_cons_self
  have settled : Settled run.history "batch:0" :=
    ⟨[], [.readied "batch:0"], historyEq, List.not_mem_nil⟩
  rcases sound.finished "batch:0" isFinished with
    ⟨receipt, readyRef, isAccepted, planned, acknowledged, unlisted⟩
  rcases isAccepted.unique accepted with ⟨rfl, rfl⟩
  have first : run.queue.consumer.Acknowledged 0 := planned 0 (by rw [planEq]; decide)
  exact ⟨run, historyEq, first, acknowledged, unlisted settled, sound⟩

/-- A disposition acknowledges the version that the named one replaced; a late `ready_batch`
lists a finished batch again; and a conversion whose consumer write never happened is
acknowledged by a disposition. -/
theorem acknowledgement_beyond_names :
    (∃ run, ReachedFirst run ∧ run.queue.consumer.Acknowledged 0 ∧
      run.queue.IsRaw isFirstBatch 0 ∧ ¬ Named run.history 0 ∧
      ∀ batchId receipt readyRef, isFirstBatch batchId = true →
        ¬ run.queue.Accepted batchId receipt readyRef) ∧
    (∃ run, ReachedFirst run ∧ .finished "batch:0" ∈ run.history ∧
      run.queue.Accepted "batch:0" 1 "ready" ∧ "ready" ∈ run.queue.consumer.batches) ∧
    ∃ run, ReachedFirst run ∧ run.queue.Accepted "batch:0" 1 "ready" ∧
      .finished "batch:0" ∉ run.history ∧ "ready" ∉ run.queue.consumer.batches ∧
      run.queue.consumer.Acknowledged 1 := by
  refine ⟨?_, ?_, ?_⟩
  · rcases reaches_redelivered with
      ⟨run, reached, pcEq, historyEq, consumerEq, commitsEq, sourcesEq, noBatch⟩
    have logged : ∀ position ∈ [1], position < run.queue.commits.length := by
      rw [commitsEq]
      decide
    have reason : "rollout_sample_filter" ≠ "" := by decide
    rcases reached.sound.exists_record "decision" reason logged with
      ⟨state, recorded, _, acknowledged⟩
    have disposed := reached.act (.recordDispositions "decision" [1]
      (some "rollout_sample_filter")) trivial (by rw [TrainingRun.step, pcEq]; exact recorded)
    refine ⟨_, disposed, ?_, ⟨"prompt:0", ?_, rfl⟩, ?_, ?_⟩
    · apply acknowledged 1 (List.mem_singleton_self 1)
      · rw [AcceptedLog.Covers, sourcesEq]
        exact Or.inr (List.mem_singleton_self 0)
      · rw [consumerEq]
        rintro (below | listed)
        · exact Nat.not_lt_zero 1 below
        · cases listed
    · change run.queue.commits[0]? = some "prompt:0"
      rw [commitsEq]
      rfl
    · rintro ⟨positions, member, listed⟩
      rw [historyEq, List.mem_singleton] at member
      rw [TrainingEvent.disposed.inj member] at listed
      exact absurd listed (by decide)
    · rintro batchId receipt readyRef batch ⟨task, found, _⟩
      rw [isFirstBatch_eq batch] at found
      have contrary : none = some task := noBatch.symm.trans found
      cases contrary
  · rcases reaches_finished with ⟨run, reached, pcEq, historyEq, _, accepted⟩
    have opened := reached.act (.readyBatch "batch:0" "ready")
      ⟨rfl, fun _ _ batch _ => isFirstBatch_eq batch⟩
      (by rw [TrainingRun.step, pcEq]; exact openReady_accepted accepted)
    have again := opened.sound.saveReady_listed "batch:0" "ready"
    have relisted := opened.act .saveReady trivial rfl
    refine ⟨_, relisted, ?_, ?_, again.1⟩
    · rw [again.2.2.2, historyEq]
      decide
    · rw [JobQueue.Accepted, again.2.2.1]
      exact accepted
  · rcases reaches_accepted with
      ⟨run, reached, pcEq, historyEq, consumerEq, commitsEq, _, accepted⟩
    have crashed := reached.act .crash trivial rfl
    have logged : ∀ position ∈ [1], position < run.queue.commits.length := by
      rw [commitsEq]
      decide
    have reason : "stale conversion" ≠ "" := by decide
    rcases crashed.sound.exists_record "decision" reason logged with
      ⟨state, recorded, batchesEq, acknowledged⟩
    have disposed := crashed.act (.recordDispositions "decision" [1] (some "stale conversion"))
      trivial recorded
    refine ⟨_, disposed, accepted, ?_, ?_, ?_⟩
    · rw [historyEq]
      intro member
      cases List.mem_singleton.mp member
    · change "ready" ∉ state.batches
      rw [batchesEq, consumerEq]
      exact List.not_mem_nil
    · apply acknowledged 1 (List.mem_singleton_self 1) 1 (Or.inl rfl)
      rw [consumerEq]
      rintro (below | listed)
      · exact Nat.not_lt_zero 1 below
      · cases listed

end Examples

end Vime.Data
