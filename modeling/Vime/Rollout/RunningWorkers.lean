import Vime.Foundation.Fallible
import Vime.Rollout.FullyAsyncDistributed

/-! # Running workers are not forgotten

A started worker stays among those whose results are requested, as long as no reply
that reports a drained pool is observed after the start that follows it.
-/

namespace Vime.Rollout

open Vime.Foundation

/-- Every worker held for started will have its results requested. -/
def NeverForgotten {Output : Type} (scheduler : Scheduler Output) : Prop :=
  scheduler.error = none → scheduler.paused = false → scheduler.controls = [] →
    ∀ worker, 0 < scheduler.capacityOf worker →
      scheduler.configurations worker = some ⟨false, scheduler.rolloutId⟩ →
        worker ∈ scheduler.runningWorkers

def System.drainedOwner {Output : Type} (system : System Output) (ref : Nat) : Option Nat :=
  match system.replies.lookup ref, system.scheduler.controls.lookup ref with
  | some (.returned none), none => system.scheduler.pending.lookup ref
  | _, _ => none

def Scheduler.holdsStarted {Output : Type} (scheduler : Scheduler Output) (worker : Nat) :
    Bool :=
  match scheduler.configurations worker with
  | some configuration => !configuration.paused
  | none => false

/-- A reply that reports a drained pool is observed before the next start of the worker
is acknowledged, or while a later control is outstanding. -/
def DrainsInOrder {Output : Type} (system : System Output) : Action Output → Prop
  | .observe ref => ∀ worker ∈ system.drainedOwner ref,
      system.scheduler.holdsStarted worker = true → worker ∈ system.scheduler.configuring
  | _ => True

instance {Output : Type} (system : System Output) (action : Action Output) :
    Decidable (DrainsInOrder system action) :=
  match action with
  | .observe ref => inferInstanceAs (Decidable (∀ worker ∈ system.drainedOwner ref,
      system.scheduler.holdsStarted worker = true → worker ∈ system.scheduler.configuring))
  | .generate .. | .takeReady | .pause _ | .resume | .close | .dispatch _ | .timeout
  | .deliver _ | .answer .. | .fetch .. | .fetched _ | .finishGroup .. | .drain _
  | .failProducer .. | .die _ => isTrue trivial

structure Held {Output : Type} (scheduler : Scheduler Output) : Prop where
  closed : scheduler.closed = true → scheduler.error ≠ none
  started : scheduler.error = none → ∀ worker, 0 < scheduler.capacityOf worker →
    scheduler.holdsStarted worker = true →
      worker ∈ scheduler.runningWorkers ∨ worker ∈ scheduler.configuring

theorem Held.neverForgotten {Output : Type} {scheduler : Scheduler Output}
    (held : Held scheduler) : NeverForgotten scheduler := by
  intro noError _ noControls worker capacity isStarted
  have started : scheduler.holdsStarted worker = true := by
    rw [Scheduler.holdsStarted, isStarted]
    rfl
  rcases held.started noError worker capacity started with running | configuring
  · exact running
  · rw [Scheduler.configuring, noControls] at configuring
    cases configuring

theorem mem_or_mem_eraseP {ref : Nat} {value : β} :
    ∀ {entries : List (Nat × β)}, entries.lookup ref = some value →
      ∀ entry ∈ entries,
        entry = (ref, value) ∨ entry ∈ entries.eraseP fun other => ref == other.1
  | [], found, _, _ => by cases found
  | (key, first) :: rest, found, entry, member => by
      by_cases same : ref = key
      · subst same
        rw [List.lookup_cons_self, Option.some.injEq] at found
        subst found
        rcases List.mem_cons.mp member with rfl | later
        · exact Or.inl rfl
        · right
          simpa using later
      · have differs : (ref == key) = false := beq_eq_false_iff_ne.mpr same
        rw [List.lookup_cons, differs] at found
        rw [List.eraseP_cons_of_neg (by simpa using same)]
        rcases List.mem_cons.mp member with rfl | later
        · exact Or.inr List.mem_cons_self
        · rcases mem_or_mem_eraseP found entry later with isFound | kept
          · exact Or.inl isFound
          · exact Or.inr (List.mem_cons_of_mem _ kept)

section Operations

variable {Output : Type} {scheduler : Scheduler Output}

theorem Held.fail (exception : PyException) : Held (scheduler.fail exception) where
  closed _ := by simp [Scheduler.fail]
  started noError := by simp [Scheduler.fail] at noError

theorem Held.finish (held : Held scheduler) (isClosed : scheduler.closed = true) :
    Held scheduler.finish where
  closed _ := held.closed isClosed
  started noError := absurd noError (held.closed isClosed)

theorem capacityOf_set (worker other : Nat) (scheduler : Scheduler Output) :
    ({ scheduler with capacities := scheduler.capacities.set worker 0 } :
        Scheduler Output).capacityOf other =
      if other = worker then 0 else scheduler.capacityOf other := by
  by_cases same : other = worker
  · subst same
    simp [Scheduler.capacityOf, List.getElem?_set]
    grind
  · simp [Scheduler.capacityOf, same, Ne.symm same]

/-- A retired worker has no capacity; the others are untouched. -/
theorem Held.retireWorker {worker : Nat}
    (closed : scheduler.closed = true → scheduler.error ≠ none)
    (others : scheduler.error = none → ∀ other, other ≠ worker →
      0 < scheduler.capacityOf other → scheduler.holdsStarted other = true →
          other ∈ scheduler.runningWorkers ∨ other ∈ scheduler.configuring) :
    Held (scheduler.retireWorker worker) := by
  rw [Scheduler.retireWorker]
  by_cases retired : scheduler.capacityOf worker = 0
  · rw [if_pos retired]
    refine ⟨closed, fun noError other capacity isStarted => ?_⟩
    apply others noError other _ capacity isStarted
    rintro rfl
    omega
  · rw [if_neg retired]
    dsimp only
    by_cases noneLeft : (scheduler.capacities.set worker 0).sum = 0
    · rw [if_pos noneLeft]
      exact Held.fail _
    · rw [if_neg noneLeft]
      refine ⟨closed, fun noError other capacity isStarted => ?_⟩
      have capacityEq := capacityOf_set worker other scheduler
      rw [Scheduler.capacityOf] at capacity capacityEq
      dsimp only at capacity capacityEq
      rw [capacityEq] at capacity
      by_cases same : other = worker
      · rw [if_pos same] at capacity
        omega
      · rw [if_neg same] at capacity
        rcases others noError other same capacity isStarted with running | control
        · left
          simpa [same] using running
        · right
          rw [Scheduler.configuring, List.mem_map] at control ⊢
          rcases control with ⟨entry, member, rfl⟩
          exact ⟨entry, List.mem_filter.mpr ⟨member, by simpa using same⟩, rfl⟩

theorem Held.acknowledge {worker : Nat} {configuration : Configuration}
    (closed : scheduler.closed = true → scheduler.error ≠ none)
    (others : scheduler.error = none → ∀ other, other ≠ worker →
      0 < scheduler.capacityOf other → scheduler.holdsStarted other = true →
          other ∈ scheduler.runningWorkers ∨ other ∈ scheduler.configuring) :
    Held (scheduler.acknowledge worker configuration) := by
  refine ⟨closed, fun noError other capacity isStarted => ?_⟩
  rw [Scheduler.acknowledge] at isStarted ⊢
  rw [Scheduler.holdsStarted] at isStarted
  dsimp only at isStarted ⊢
  by_cases same : other = worker
  · subst same
    rw [Function.update_self] at isStarted
    left
    have notPaused : configuration.paused = false := by simpa using isStarted
    rw [notPaused]
    by_cases already : other ∈ scheduler.runningWorkers
    · rw [if_pos (Or.inr already)]
      exact already
    · rw [if_neg (by simp [already])]
      exact List.mem_append_right _ (List.mem_singleton_self _)
  · rw [Function.update_of_ne same] at isStarted
    rcases others noError other same capacity isStarted with running | control
    · left
      split
      · exact running
      · exact List.mem_append_left _ running
    · exact Or.inr control

theorem Held.others_of_pop (held : Held scheduler) {ref worker : Nat}
    {configuration : Configuration}
    (found : scheduler.controls.lookup ref = some (worker, configuration)) :
    scheduler.error = none → ∀ other, other ≠ worker →
      0 < scheduler.capacityOf other → scheduler.holdsStarted other = true →
          other ∈ scheduler.runningWorkers ∨
            other ∈ (scheduler.controls.eraseP fun control => ref == control.1).map
              fun control => control.2.1 := by
  intro noError other differs capacity isStarted
  rcases held.started noError other capacity isStarted with running | control
  · exact Or.inl running
  · right
    rw [Scheduler.configuring, List.mem_map] at control
    rcases control with ⟨entry, member, rfl⟩
    rcases mem_or_mem_eraseP found entry member with popped | kept
    · rw [popped] at differs
      exact absurd rfl differs
    · exact List.mem_map_of_mem kept

theorem Held.handleControl (held : Held scheduler) {ref worker : Nat}
    {configuration : Configuration} (reply : Reply Output)
    (found : scheduler.controls.lookup ref = some (worker, configuration)) :
    Held (scheduler.handleControl ref worker configuration reply) := by
  have others := held.others_of_pop found
  cases reply with
  | actorDied => exact Held.retireWorker held.closed others
  | raised exception => exact Held.fail exception
  | returned output => exact Held.acknowledge held.closed others

theorem Held.handlePending (held : Held scheduler) {ref worker : Nat}
    (reply : Reply Output)
    (inOrder : reply = .returned none → scheduler.holdsStarted worker = true →
      worker ∈ scheduler.configuring) :
    Held (scheduler.handlePending ref worker reply) := by
  have others : scheduler.error = none → ∀ other, other ≠ worker →
      0 < scheduler.capacityOf other → scheduler.holdsStarted other = true →
          other ∈ scheduler.runningWorkers ∨ other ∈ scheduler.configuring :=
    fun noError other _ => held.started noError other
  cases reply with
  | actorDied => exact Held.retireWorker held.closed others
  | raised exception => exact Held.fail exception
  | returned output =>
      cases output with
      | some output => exact ⟨held.closed, held.started⟩
      | none =>
          rw [Scheduler.handlePending, Scheduler.collect]
          split
          · refine ⟨held.closed, fun noError other capacity isStarted => ?_⟩
            by_cases same : other = worker
            · subst same
              exact Or.inr (inOrder rfl isStarted)
            · rcases held.started noError other capacity isStarted with
                running | control
              · left
                simpa [same] using running
              · exact Or.inr control
          · exact Held.fail .keyError

end Operations

/-! ## Steps of the system -/

section Steps

variable {Output : Type} {settings : Settings Output} {system later : System Output}

theorem Held.configure (configuring : List Nat) (index : Nat)
    (held : Held system.scheduler) :
    Held (System.configure configuring system index).scheduler := by
  rw [System.configure]
  split
  · exact held
  · split
    case isTrue paused =>
      refine ⟨held.closed, fun noError worker capacity isStarted => ?_⟩
      rw [Scheduler.holdsStarted] at isStarted
      dsimp only at isStarted
      by_cases same : worker = index
      · rw [same, Function.update_self, Scheduler.desired, paused.1] at isStarted
        cases isStarted
      · rw [Function.update_of_ne same] at isStarted
        exact held.started noError worker capacity isStarted
    case isFalse =>
      refine ⟨held.closed, fun noError worker capacity isStarted => ?_⟩
      rcases held.started noError worker capacity isStarted with running | control
      · exact Or.inl running
      · right
        rw [Scheduler.configuring] at control ⊢
        rw [List.map_append]
        exact List.mem_append_left _ control

theorem Held.requestNext (index : Nat) (held : Held system.scheduler) :
    Held (system.requestNext index).scheduler := ⟨held.closed, held.started⟩

theorem Held.dispatch {asked : List Nat} (held : Held system.scheduler)
    (dispatches : system.dispatch asked = some later) : Held later.scheduler := by
  rw [System.dispatch] at dispatches
  split at dispatches
  · cases dispatches
  · split at dispatches
    case isTrue isClosed =>
      rw [Option.some.injEq] at dispatches
      subst dispatches
      exact held.finish isClosed
    case isFalse =>
      dsimp only at dispatches
      split at dispatches
      · rw [Option.some.injEq] at dispatches
        subst dispatches
        have configured : Held system.configureAll.scheduler :=
          foldl_invariant (System.configure system.scheduler.configuring)
            (fun state => Held state.scheduler) _
            (fun index _ _ heldBefore => heldBefore.configure _ index) system held
        have requested := foldl_invariant System.requestNext
          (fun state => Held state.scheduler) asked
          (fun index _ _ heldBefore => heldBefore.requestNext index) _ configured
        exact ⟨requested.closed, requested.started⟩
      · cases dispatches

theorem Held.observe {ref : Nat} (held : Held system.scheduler)
    (inOrder : DrainsInOrder system (.observe ref))
    (observes : system.observe ref = some later) : Held later.scheduler := by
  rw [System.observe] at observes
  split at observes
  case h_2 => cases observes
  case h_1 refs reply threadEq replyEq =>
    split at observes
    case isFalse => cases observes
    case isTrue =>
      rw [Option.some.injEq] at observes
      subst observes
      dsimp only
      rw [Scheduler.handle]
      have dispatching : Held { system.scheduler with thread := .dispatching } :=
        ⟨held.closed, held.started⟩
      cases controlEq : system.scheduler.controls.lookup ref with
      | some control => exact dispatching.handleControl reply controlEq
      | none =>
          dsimp only
          cases pendingEq : system.scheduler.pending.lookup ref with
          | none => exact Held.fail .keyError
          | some worker =>
              apply dispatching.handlePending reply
              intro isDrained isStarted
              apply inOrder worker _ isStarted
              rw [System.drainedOwner, replyEq, isDrained, controlEq]
              exact pendingEq

theorem forgets_of_not_drainsInOrder {ref : Nat}
    (outOfOrder : ¬ DrainsInOrder system (.observe ref))
    (observes : system.observe ref = some later) (noError : later.scheduler.error = none) :
    ∃ worker, later.scheduler.holdsStarted worker = true ∧
        worker ∉ later.scheduler.runningWorkers ∧ worker ∉ later.scheduler.configuring := by
  simp only [DrainsInOrder, not_forall] at outOfOrder
  rcases outOfOrder with ⟨worker, isDrained, isStarted, noControl⟩
  refine ⟨worker, ?_⟩
  rw [System.observe] at observes
  split at observes
  case h_2 => cases observes
  case h_1 refs reply threadEq replyEq =>
    split at observes
    case isFalse => cases observes
    case isTrue =>
      rw [Option.some.injEq] at observes
      subst observes
      rw [Option.mem_def, System.drainedOwner, replyEq] at isDrained
      split at isDrained
      case h_2 => cases isDrained
      case h_1 returned controlEq =>
        rw [Option.some.injEq] at returned
        subst returned
        simp only [Scheduler.handle, controlEq, isDrained, Scheduler.handlePending,
          Scheduler.collect] at noError ⊢
        split at noError
        case isTrue running =>
          rw [if_pos running]
          exact ⟨isStarted, by simp, noControl⟩
        case isFalse => cases noError

theorem workerStep_scheduler {index : Nat} {change : Worker Output → Option (Worker Output)}
    (steps : system.workerStep index change = some later) :
    later.scheduler = system.scheduler := by
  rw [System.workerStep] at steps
  split at steps
  · cases steps
  · rcases Option.map_eq_some_iff.mp steps with ⟨worker, _, rfl⟩
    rfl

/-- Every step whose drained replies are observed in order keeps started workers held. -/
theorem Held.step {action : Action Output} (held : Held system.scheduler)
    (inOrder : DrainsInOrder system action)
    (steps : step settings system action = some later) : Held later.scheduler := by
  cases action with
  | generate rolloutId prefetch =>
      simp only [Rollout.step, System.generate] at steps
      split at steps
      · cases steps
      · rw [Option.some.injEq] at steps
        subst steps
        exact ⟨held.closed, held.started⟩
  | takeReady =>
      simp only [Rollout.step, System.takeReady] at steps
      split at steps
      · cases steps
      · split at steps
        · cases steps
        · rw [Option.some.injEq] at steps
          subst steps
          exact ⟨held.closed, held.started⟩
  | pause drain =>
      rw [Rollout.step, Option.some.injEq] at steps
      subst steps
      exact ⟨held.closed, held.started⟩
  | resume =>
      rw [Rollout.step, Option.some.injEq] at steps
      subst steps
      exact ⟨held.closed, held.started⟩
  | close =>
      rw [Rollout.step, Option.some.injEq] at steps
      subst steps
      have isError : system.close.scheduler.error ≠ none := by
        rw [System.close]
        cases system.scheduler.error with
        | none => simp
        | some exception => simp
      exact ⟨fun _ => isError, fun noError => absurd noError isError⟩
  | dispatch asked => exact held.dispatch steps
  | timeout =>
      simp only [Rollout.step, System.timeout] at steps
      split at steps
      · rw [Option.some.injEq] at steps
        subst steps
        exact ⟨held.closed, held.started⟩
      · cases steps
  | observe ref => exact held.observe inOrder steps
  | deliver worker =>
      rcases Option.map_eq_some_iff.mp steps with ⟨delivered, _, rfl⟩
      exact held
  | answer worker ref =>
      simp only [Rollout.step, System.answer] at steps
      split at steps
      · cases steps
      · rcases Option.map_eq_some_iff.mp steps with ⟨answered, _, rfl⟩
        exact held
  | fetch worker count =>
      rw [Rollout.step] at steps
      rwa [workerStep_scheduler steps]
  | fetched worker => rwa [workerStep_scheduler steps]
  | finishGroup worker output =>
      rw [Rollout.step] at steps
      rwa [workerStep_scheduler steps]
  | drain worker => rwa [workerStep_scheduler steps]
  | failProducer worker exception =>
      rw [Rollout.step] at steps
      rwa [workerStep_scheduler steps]
  | die worker =>
      simp only [Rollout.step, System.die] at steps
      split at steps
      · cases steps
      · rw [Option.some.injEq] at steps
        subst steps
        exact held

end Steps

/-- In every run whose drained replies are observed in order, no running worker is
forgotten. -/
theorem scheduler_neverForgets {Output : Type} (settings : Settings Output)
    (system : System Output)
    (reached : Reaches (step settings) DrainsInOrder (initial settings) system) :
    NeverForgotten system.scheduler := by
  have held : Held system.scheduler := by
    apply reached.invariant fun state => Held state.scheduler
    case initially =>
      refine ⟨fun isClosed => ?_, fun _ worker _ isStarted => ?_⟩
      · cases isClosed
      · cases isStarted
    case preserved =>
      intro state action next inOrder heldBefore steps
      exact heldBefore.step inOrder steps
  exact held.neverForgotten

def oneWorker : Settings Unit where
  capacities := [1]
  poolCapacity _ := 1
  rolloutBatchSize := 1
  keep _ := true

def drainedReplyFirst : List (Action Unit) :=
  [.generate 0 0, .dispatch [], .deliver 0, .observe 0,
    .dispatch [0], .deliver 0, .pause false, .timeout,
    .dispatch [], .deliver 0, .observe 2,
    .drain 0, .answer 0 1, .dispatch [], .observe 1,
    .resume, .dispatch [], .deliver 0, .observe 3]

theorem oneWorker_neverForgets :
    ∃ system, runActions (step oneWorker) DrainsInOrder (initial oneWorker) drainedReplyFirst =
      some system ∧ NeverForgotten system.scheduler := by
  have ran : ∃ system,
      runActions (step oneWorker) DrainsInOrder (initial oneWorker) drainedReplyFirst =
        some system := ⟨_, rfl⟩
  rcases ran with ⟨system, runEq⟩
  exact ⟨system, runEq, scheduler_neverForgets oneWorker system (Reaches.of_run .start runEq)⟩

/-- The pool drains after a pause, its reply is produced, and the scheduler resumes and
observes the next start before that reply. -/
def drainedReplyOvertaken : List (Action Unit) :=
  [.generate 0 0, .dispatch [], .deliver 0, .observe 0,
    .dispatch [0], .deliver 0, .pause false, .timeout,
    .dispatch [], .deliver 0, .observe 2,
    .drain 0, .answer 0 1, .resume,
    .dispatch [], .deliver 0, .observe 3,
    .dispatch [], .observe 1]

theorem drainedReplyOvertaken_forgets :
    ∃ system, Reaches (step oneWorker) (fun _ _ => True) (initial oneWorker) system ∧
      ¬ NeverForgotten system.scheduler := by
  have ran : ∃ system, runActions (step oneWorker) (fun _ _ => True) (initial oneWorker)
        drainedReplyOvertaken =
      some system ∧ system.scheduler.error = none ∧ system.scheduler.paused = false ∧
        system.scheduler.controls = [] ∧ 0 < system.scheduler.capacityOf 0 ∧
        system.scheduler.configurations 0 = some ⟨false, system.scheduler.rolloutId⟩ ∧
        system.scheduler.runningWorkers = [] := ⟨_, rfl, by decide⟩
  rcases ran with ⟨system, runEq, noError, notPaused, noControls, capacity, isStarted, none⟩
  refine ⟨system, Reaches.of_run .start runEq, fun never => ?_⟩
  have running := never noError notPaused noControls 0 capacity isStarted
  rw [none] at running
  cases running

end Vime.Rollout
