import Mathlib
import Vime.Data.QueueDataSource.Take
import Vime.Data.SourceStream

/-! # Refills are exactly once and gap-free

The tasks ever submitted are the first groups of the stream that an uninterrupted
source produces, whatever the readers do and wherever their refills fail.
-/

namespace Vime.Data

open Vime.Foundation Vime.Utils

section Source

variable {Q P : Type} {args : SourceArgs P} {coordinator : Coordinator Q P}

theorem SourceKept.restoreCursor {source : RolloutDataSource P}
    (kept : SourceKept args source) (cursor : Cursor) :
    SourceKept args (Controller.restoreCursor args source cursor) := by
  rw [SourceKept] at kept ⊢
  rw [Controller.restoreCursor]
  generalize promptEq : args.promptData = promptData at kept
  generalize datasetEq : source.dataset = held at kept
  cases kept with
  | none => exact Option.Rel.none
  | some keptDataset => exact Option.Rel.some (keptDataset.shuffleIfAsked _)

theorem restoreCursor_eq {source streamed : RolloutDataSource P}
    (kept : SourceKept args source) (synced : SourceSynced args streamed) :
    Controller.restoreCursor args source streamed.toCursor = streamed := by
  have relation := kept
  have streamedRelation := synced.kept
  have atEpoch := synced.atEpoch
  rw [SourceKept] at relation streamedRelation
  have datasetEq : (source.dataset.map fun dataset =>
      shuffleIfAsked args dataset streamed.epochId) = streamed.dataset := by
    generalize args.promptData = promptData at relation streamedRelation
    generalize source.dataset = held at relation ⊢
    generalize streamed.dataset = later at streamedRelation atEpoch ⊢
    cases relation with
    | none =>
        cases streamedRelation
        rfl
    | @some originSamples dataset keptDataset =>
        cases streamedRelation with
        | @some _ other keptOther =>
            rw [Option.map_some, Option.some.injEq, Data.shuffleIfAsked]
            by_cases shuffles : args.rolloutShuffle = true
            · rw [if_pos shuffles]
              apply Dataset.shuffle_eq (keptDataset.arranged shuffles)
                (keptOther.arranged shuffles) _ _ synced.isEpoch
                (atEpoch shuffles other rfl)
              · rw [keptDataset.origin, keptOther.origin]
              · rw [keptDataset.seed, keptOther.seed]
            · rw [if_neg shuffles]
              have notShuffled : args.rolloutShuffle = false := by simpa using shuffles
              rw [keptDataset.unshuffled notShuffled, keptOther.unshuffled notShuffled]
  rw [Controller.restoreCursor, datasetEq]

/-! ## Tasks of the stream -/

/-- The tasks of groups numbered from `start`. -/
def tasksFrom (start : Nat) (groups : List (List (Sample P))) : List (TaskSpec P) :=
  (groups.zipIdx start).map fun entry => ⟨s!"prompt:{entry.2}", entry.1, entry.2⟩

theorem tasksFrom_append (start : Nat) (first second : List (List (Sample P))) :
    tasksFrom start (first ++ second) =
      tasksFrom start first ++ tasksFrom (start + first.length) second := by
  rw [tasksFrom, List.zipIdx_append, List.map_append, tasksFrom, tasksFrom, Nat.add_comm]

theorem mapM_taskOf_number :
    ∀ (prompts : List P) {source : RolloutDataSource P} {tasks : List (TaskSpec P)},
      (source.number args prompts).1.mapM taskOf = some tasks →
        tasks = tasksFrom source.sampleGroupIndex (source.number args prompts).1
  | [], source, tasks, built => by
      rw [RolloutDataSource.number, List.mapM_nil] at built
      rw [← Option.some.inj built]
      rfl
  | prompt :: rest, source, tasks, built => by
      rw [RolloutDataSource.number] at built ⊢
      dsimp only at built ⊢
      rw [List.mapM_cons] at built
      rcases Option.bind_eq_some_iff.mp built with ⟨first, firstEq, more⟩
      rcases Option.bind_eq_some_iff.mp more with ⟨later, laterEq, tasksEq⟩
      have laterTasks := mapM_taskOf_number rest laterEq
      have firstTask : first = ⟨s!"prompt:{source.sampleGroupIndex}",
          (List.range args.nSamplesPerPrompt).map fun i =>
            ⟨prompt, source.sampleGroupIndex, source.sampleIndex + i⟩,
          source.sampleGroupIndex⟩ := by
        cases countEq : args.nSamplesPerPrompt with
        | zero =>
            rw [countEq] at firstEq
            cases firstEq
        | succ others =>
            rw [countEq, List.range_succ_eq_map] at firstEq
            rw [List.range_succ_eq_map]
            exact (Option.some.inj firstEq).symm
      rw [← Option.some.inj tasksEq, firstTask, laterTasks]
      rfl

def Readable (args : SourceArgs P) : Prop := ∀ prompts ∈ args.promptData, prompts ≠ []

theorem getSamples_count (readable : Readable args) {source : RolloutDataSource P}
    (kept : SourceKept args source) (count : Nat) :
    (source.getSamples args count).1.length = count ∧
      (source.getSamples args count).2.sampleGroupIndex =
        source.sampleGroupIndex + count := by
  rw [SourceKept] at kept
  rw [Readable] at readable
  rw [RolloutDataSource.getSamples]
  generalize args.promptData = promptData at kept readable
  generalize source.dataset = held at kept ⊢
  cases kept with
  | none =>
      dsimp only
      rw [length_number, RolloutDataSource.number_source, List.length_replicate]
      exact ⟨rfl, rfl⟩
  | @some originSamples dataset keptDataset =>
      have nonempty : 0 < dataset.samples.length := by
        rw [dataset.sized, keptDataset.origin]
        exact List.length_pos_of_ne_nil (readable originSamples rfl)
      dsimp only
      rw [length_number, RolloutDataSource.number_source,
        Reading.draw_eq_singles args count count _ (Nat.le_refl _) nonempty]
      have counted := Reading.singles_count args count
        ⟨dataset, source.epochId, source.sampleOffset⟩ nonempty
      exact ⟨counted, by rw [counted]⟩

theorem reference_count (readable : Readable args) (count : Nat) :
    (reference args count).1.length = count ∧
      (reference args count).2.sampleGroupIndex = count := by
  have kept : SourceKept args (RolloutDataSource.init args) := SourceKept.init
  have counted := getSamples_count readable kept count
  rw [show (RolloutDataSource.init args).sampleGroupIndex = 0 from rfl, Nat.zero_add]
    at counted
  exact counted

/-! ## The refill invariant -/

def ReaderPc.locked : ReaderPc P → Bool
  | .rechecking _ | .opening _ | .restoring _ | .drawing _ | .publishing .. | .submitting .. =>
      true
  | .idle | .acquiring _ | .waiting _ | .delivering => false

def Produced (args : SourceArgs P) (committed : Nat) (producer : Option (RolloutDataSource P))
    (groups : List (List (Sample P))) : Prop :=
  ∃ count, 0 < count ∧
    groups = ((reference args committed).2.getSamples args count).1 ∧
    producer = some ((reference args committed).2.getSamples args count).2

def Progress (args : SourceArgs P) (committed : Nat) (controller : Controller Q P) :
    ReaderPc P → Prop
  | .restoring _ => Readable args ∧ controller.initialCursor ≠ none
  | .drawing _ => Readable args ∧ controller.initialCursor ≠ none ∧
      controller.producer = some (reference args committed).2
  | .publishing start groups => Readable args ∧ start = committed ∧
      Produced args committed controller.producer groups
  | .submitting start tasks => Readable args ∧ start = committed ∧
      ∃ groups, tasks = tasksFrom committed groups ∧
        Produced args committed controller.producer groups
  | _ => True

structure RefillInvariant (args : SourceArgs P) (coordinator : Coordinator Q P)
    (controller : Controller Q P) (committed : Nat) : Prop where
  tasks : coordinator.tasks controller.queue = tasksFrom 0 (reference args committed).1
  counted : (coordinator.tasks controller.queue).length = committed
  state : (coordinator.producerState controller.queue = none ∧ committed = 0) ∨
    coordinator.producerState controller.queue =
      some ⟨1, (reference args committed).2.toCursor⟩
  requests : ∀ request, coordinator.served controller.queue request →
    ∃ start < committed, request = s!"dataset:{start}"
  source : ∀ source ∈ controller.producer, SourceKept args source
  unopened : controller.initialCursor = none → ∀ source ∈ controller.producer,
    source = RolloutDataSource.init args
  opened : ∀ cursor ∈ controller.initialCursor,
    cursor = (RolloutDataSource.init args).toCursor
  exclusive : ∀ reader, (controller.readers reader).locked = true →
    controller.producerLock = some reader
  progress : ∀ reader, Progress args committed controller (controller.readers reader)

theorem Progress.of_unlocked {committed : Nat} {controller : Controller Q P}
    {pc : ReaderPc P} (unlocked : pc.locked = false) :
    Progress args committed controller pc := by
  cases pc with
  | idle | acquiring | waiting | delivering => exact trivial
  | rechecking | opening | restoring | drawing | publishing | submitting => cases unlocked

theorem Progress.congr {committed : Nat} {before later : Controller Q P}
    (producer : later.producer = before.producer)
    (initialCursor : later.initialCursor = before.initialCursor) {pc : ReaderPc P}
    (progress : Progress args committed before pc) : Progress args committed later pc := by
  cases pc with
  | drawing count =>
      rw [Progress, producer, initialCursor]
      exact progress
  | restoring count =>
      rw [Progress, initialCursor]
      exact progress
  | publishing start groups =>
      rw [Progress, producer]
      exact progress
  | submitting start tasks =>
      rw [Progress, producer]
      exact progress
  | idle | acquiring | waiting | delivering | rechecking | opening => exact trivial

section Steps

variable {controller later : Controller Q P} {committed reader : Nat} {pc : ReaderPc P}

theorem exclusive_update
    (exclusive : ∀ other, (controller.readers other).locked = true →
      controller.producerLock = some other)
    (readers : later.readers = Function.update controller.readers reader pc)
    (own : pc.locked = true → later.producerLock = some reader)
    (others : ∀ other, other ≠ reader → controller.producerLock = some other →
      later.producerLock = some other) :
    ∀ other, (later.readers other).locked = true → later.producerLock = some other := by
  intro other locked
  rw [readers] at locked
  by_cases same : other = reader
  · rw [same, Function.update_self] at locked
    rw [same]
    exact own locked
  · rw [Function.update_of_ne same] at locked
    exact others other same (exclusive other locked)

/-- While one reader holds the lock, the others have nothing established. -/
theorem progress_holder {committedLater : Nat}
    (exclusive : ∀ other, (controller.readers other).locked = true →
      controller.producerLock = some other)
    (holds : controller.producerLock = some reader)
    (readers : later.readers = Function.update controller.readers reader pc)
    (own : Progress args committedLater later pc) :
    ∀ other, Progress args committedLater later (later.readers other) := by
  intro other
  rw [readers]
  by_cases same : other = reader
  · rw [same, Function.update_self]
    exact own
  · rw [Function.update_of_ne same]
    apply Progress.of_unlocked
    by_contra locked
    have holder := exclusive other (by simpa using locked)
    rw [holds, Option.some.injEq] at holder
    exact same holder.symm

/-- A step that changes neither the source nor the queue. -/
theorem RefillInvariant.move (invariant : RefillInvariant args coordinator controller committed)
    (queue : later.queue = controller.queue) (producer : later.producer = controller.producer)
    (initialCursor : later.initialCursor = controller.initialCursor)
    (readers : later.readers = Function.update controller.readers reader pc)
    (ownLock : pc.locked = true → later.producerLock = some reader)
    (otherLock : ∀ other, other ≠ reader → controller.producerLock = some other →
      later.producerLock = some other)
    (own : Progress args committed controller pc) :
    RefillInvariant args coordinator later committed := by
  constructor
  case tasks => rw [queue, invariant.tasks]
  case counted => rw [queue, invariant.counted]
  case state =>
    rw [queue]
    exact invariant.state
  case requests =>
    rw [queue]
    exact invariant.requests
  case source =>
    rw [producer]
    exact invariant.source
  case unopened =>
    rw [producer, initialCursor]
    exact invariant.unopened
  case opened =>
    rw [initialCursor]
    exact invariant.opened
  case exclusive => exact exclusive_update invariant.exclusive readers ownLock otherLock
  case progress =>
    intro other
    apply Progress.congr producer initialCursor
    rw [readers]
    by_cases same : other = reader
    · rw [same, Function.update_self]
      exact own
    · rw [Function.update_of_ne same]
      exact invariant.progress other

theorem RefillInvariant.leave (invariant : RefillInvariant args coordinator controller committed)
    (unlocked : pc.locked = false) :
    RefillInvariant args coordinator (controller.leave reader pc) committed := by
  refine invariant.move rfl rfl rfl rfl ?_ ?_ ?_
  · intro locked
    rw [unlocked] at locked
    cases locked
  · intro other differs held
    rw [Controller.leave]
    dsimp only
    rw [held, if_neg (by simpa using differs)]
  · exact Progress.of_unlocked unlocked

theorem RefillInvariant.setReader (invariant : RefillInvariant args coordinator controller committed)
    (lock : pc.locked = true → controller.producerLock = some reader)
    (own : Progress args committed controller pc) :
    RefillInvariant args coordinator (controller.setReader reader pc) committed :=
  invariant.move rfl rfl rfl rfl lock (fun _ _ held => held) own

theorem RefillInvariant.holds (invariant : RefillInvariant args coordinator controller committed)
    (at_ : controller.readers reader = pc) (locked : pc.locked = true) :
    controller.producerLock = some reader :=
  invariant.exclusive reader (at_ ▸ locked)

/-- A source is readable unless its dataset is empty. -/
theorem readable_of_kept {source : RolloutDataSource P} (kept : SourceKept args source)
    (notEmpty : ¬ (source.dataset.any fun dataset => dataset.samples.length = 0) = true) :
    Readable args := by
  rw [SourceKept] at kept
  rw [Readable]
  generalize args.promptData = promptData at kept ⊢
  generalize source.dataset = held at kept notEmpty
  cases kept with
  | none => simp
  | @some originSamples dataset keptDataset =>
      intro prompts member isEmpty
      rw [← Option.some.inj member] at isEmpty
      have noSamples := dataset.sized
      rw [keptDataset.origin, isEmpty, List.length_nil] at noSamples
      apply notEmpty
      simp [List.length_eq_zero_iff.mp noSamples]

theorem RefillInvariant.openSource {count : Nat}
    (invariant : RefillInvariant args coordinator controller committed)
    (at_ : controller.readers reader = .opening count) :
    RefillInvariant args coordinator (controller.openSource args reader count) committed := by
  have holds := invariant.holds at_ rfl
  generalize sourceEq : controller.producer.getD (RolloutDataSource.init args) = source
  have kept : SourceKept args source := by
    rw [← sourceEq]
    cases producerEq : controller.producer with
    | none => exact SourceKept.init
    | some held => exact invariant.source held producerEq
  have fresh : controller.initialCursor = none → source = RolloutDataSource.init args := by
    intro unopened
    rw [← sourceEq]
    cases producerEq : controller.producer with
    | none => rfl
    | some held => exact invariant.unopened unopened held producerEq
  have onlySource : RefillInvariant args coordinator { controller with producer := some source }
      committed := by
    refine ⟨invariant.tasks, invariant.counted, invariant.state, invariant.requests, ?_, ?_,
      invariant.opened, ?_, ?_⟩
    · intro other member
      rw [← Option.some.inj member]
      exact kept
    · intro unopened other member
      rw [← Option.some.inj member]
      exact fresh unopened
    · exact invariant.exclusive
    · have readers : ({ controller with producer := some source } : Controller Q P).readers =
          Function.update controller.readers reader (.opening count) := by
        rw [← at_, Function.update_eq_self]
      exact progress_holder invariant.exclusive holds readers trivial
  rw [Controller.openSource, sourceEq]
  dsimp only
  split
  case isTrue => exact onlySource.leave rfl
  case isFalse notEmpty =>
    refine ⟨invariant.tasks, invariant.counted, invariant.state, invariant.requests,
      onlySource.source, ?_, ?_, ?_, ?_⟩
    · intro unopened
      cases unopened
    · intro cursor member
      rw [← Option.some.inj member]
      cases initialEq : controller.initialCursor with
      | none =>
          rw [fresh initialEq]
          rfl
      | some held => exact invariant.opened held initialEq
    · exact exclusive_update invariant.exclusive rfl (fun _ => holds) fun _ _ held => held
    · apply progress_holder invariant.exclusive holds rfl
      exact ⟨readable_of_kept kept notEmpty, by simp⟩

theorem RefillInvariant.restore {count : Nat} {source : RolloutDataSource P}
    {cursor : Cursor} (invariant : RefillInvariant args coordinator controller committed)
    (at_ : controller.readers reader = .restoring count)
    (sourceEq : controller.producer = some source)
    (cursorEq : controller.committedCursor coordinator = some cursor) :
    RefillInvariant args coordinator
      { controller.setReader reader (.drawing count) with
        producer := some (Controller.restoreCursor args source cursor) } committed := by
  have holds := invariant.holds at_ rfl
  have progress := invariant.progress reader
  rw [at_] at progress
  rcases progress with ⟨readable, isOpened⟩
  have kept := invariant.source source sourceEq
  have isReference : cursor = (reference args committed).2.toCursor := by
    rw [Controller.committedCursor] at cursorEq
    rcases invariant.state with ⟨stateEq, noneCommitted⟩ | stateEq
    · rw [stateEq] at cursorEq
      rw [noneCommitted, reference_zero]
      exact invariant.opened cursor cursorEq
    · rw [stateEq] at cursorEq
      exact (Option.some.inj cursorEq).symm
  subst isReference
  have restored := restoreCursor_eq kept (reference_synced committed)
  refine ⟨invariant.tasks, invariant.counted, invariant.state, invariant.requests, ?_, ?_,
    invariant.opened, ?_, ?_⟩
  · intro other member
    rw [← Option.some.inj member]
    exact kept.restoreCursor _
  · intro unopened
    exact absurd unopened isOpened
  · exact exclusive_update invariant.exclusive rfl (fun _ => holds) fun _ _ held => held
  · apply progress_holder invariant.exclusive holds rfl
    exact ⟨readable, isOpened, congrArg some restored⟩

theorem RefillInvariant.draw {count : Nat} {source : RolloutDataSource P}
    (invariant : RefillInvariant args coordinator controller committed)
    (at_ : controller.readers reader = .drawing count)
    (sourceEq : controller.producer = some source) :
    RefillInvariant args coordinator
      { controller.setReader reader
          (.publishing source.sampleGroupIndex
            (source.getSamples args (refillCount count)).1) with
        producer := some (source.getSamples args (refillCount count)).2 } committed := by
  have holds := invariant.holds at_ rfl
  have progress := invariant.progress reader
  rw [at_] at progress
  rcases progress with ⟨readable, isOpened, isReference⟩
  rw [sourceEq, Option.some.injEq] at isReference
  refine ⟨invariant.tasks, invariant.counted, invariant.state, invariant.requests, ?_, ?_,
    invariant.opened, ?_, ?_⟩
  · intro other member
    rw [← Option.some.inj member]
    exact (invariant.source source sourceEq).getSamples _
  · intro unopened
    exact absurd unopened isOpened
  · exact exclusive_update invariant.exclusive rfl (fun _ => holds) fun _ _ held => held
  · apply progress_holder invariant.exclusive holds rfl
    refine ⟨readable, ?_, refillCount count, ?_, ?_, ?_⟩
    · rw [isReference]
      exact (reference_count readable committed).2
    · rw [refillCount]
      omega
    · rw [isReference]
    · rw [isReference]

theorem mapM_taskOf_produced (readable : Readable args) {producer : Option (RolloutDataSource P)}
    {groups : List (List (Sample P))} {tasks : List (TaskSpec P)}
    (produced : Produced args committed producer groups)
    (built : groups.mapM taskOf = some tasks) : tasks = tasksFrom committed groups := by
  rcases produced with ⟨count, _, rfl, _⟩
  have counted := (reference_count readable committed).2
  generalize (reference args committed).2 = source at built counted ⊢
  rw [RolloutDataSource.getSamples] at built ⊢
  cases datasetEq : source.dataset with
  | none =>
      rw [datasetEq] at built
      dsimp only at built ⊢
      rw [mapM_taskOf_number _ built, counted]
  | some dataset =>
      rw [datasetEq] at built
      dsimp only at built ⊢
      rw [mapM_taskOf_number _ built, counted]

theorem RefillInvariant.publish {start : Nat} {groups : List (List (Sample P))}
    {tasks : List (TaskSpec P)} (invariant : RefillInvariant args coordinator controller committed)
    (at_ : controller.readers reader = .publishing start groups)
    (built : groups.mapM taskOf = some tasks) :
    RefillInvariant args coordinator (controller.setReader reader (.submitting start tasks))
      committed := by
  have progress := invariant.progress reader
  rw [at_] at progress
  rcases progress with ⟨readable, startEq, produced⟩
  apply invariant.setReader
  · exact fun _ => invariant.holds at_ rfl
  · exact ⟨readable, startEq, groups, mapM_taskOf_produced readable produced built, produced⟩

theorem dataset_request_inj {first second : Nat}
    (same : s!"dataset:{first}" = s!"dataset:{second}") : first = second := by
  have digits : toString first = toString second := by simpa [toString] using same
  exact Nat.repr_injective digits

/-- A submission continues the committed stream: its request is new, as every refill
starts where the last committed one ended. -/
theorem RefillInvariant.submit (lawful : coordinator.Lawful) {start : Nat}
    {tasks : List (TaskSpec P)} {source : RolloutDataSource P} {queue : Q}
    (invariant : RefillInvariant args coordinator controller committed)
    (at_ : controller.readers reader = .submitting start tasks)
    (sourceEq : controller.producer = some source)
    (submitted : coordinator.submitTasks controller.queue s!"dataset:{start}" tasks
      ⟨1, source.toCursor⟩ = some queue) :
    ∃ committedLater, RefillInvariant args coordinator
      { controller.leave reader .delivering with queue := queue } committedLater := by
  have holds := invariant.holds at_ rfl
  have progress := invariant.progress reader
  rw [at_] at progress
  rcases progress with ⟨readable, startEq, groups, tasksEq, count, positive, groupsEq,
    producerEq⟩
  subst startEq
  rw [sourceEq, Option.some.injEq] at producerEq
  have fresh : ¬ coordinator.served controller.queue s!"dataset:{start}" := by
    intro member
    rcases invariant.requests _ member with ⟨earlier, before, same⟩
    have startIsEarlier := dataset_request_inj same
    omega
  have commits := lawful.atomic submitted fresh
  have extended : reference args (start + count) = drawNext args (reference args start) count :=
    reference_add start count
  rw [drawNext, ← groupsEq, ← producerEq] at extended
  have lengths := (reference_count readable start).1
  have groupCount : groups.length = count := by
    have whole := (reference_count readable (start + count)).1
    rw [extended, List.length_append, lengths] at whole
    omega
  have left : RefillInvariant args coordinator (controller.leave reader .delivering) start :=
    invariant.leave rfl
  refine ⟨start + count, ?_⟩
  constructor
  case tasks =>
    rw [commits.tasks, extended]
    dsimp only
    rw [tasksFrom_append, Nat.zero_add, lengths, ← tasksEq, ← invariant.tasks]
  case counted =>
    dsimp only
    rw [commits.tasks, List.length_append, invariant.counted, tasksEq, tasksFrom,
      List.length_map, List.length_zipIdx, groupCount]
  case state =>
    right
    rw [commits.producerState, extended]
  case requests =>
    intro request isServed
    rcases (commits.served request).mp isServed with earlier | isNew
    · rcases invariant.requests request earlier with ⟨other, before, same⟩
      exact ⟨other, by omega, same⟩
    · exact ⟨start, by omega, isNew⟩
  case source => exact left.source
  case unopened => exact left.unopened
  case opened => exact left.opened
  case exclusive => exact left.exclusive
  case progress => exact progress_holder invariant.exclusive holds rfl trivial

/-- Every step keeps the tasks and the cursor those of the stream. -/
theorem RefillInvariant.step (lawful : coordinator.Lawful) {action : TakeAction}
    (invariant : RefillInvariant args coordinator controller committed)
    (steps : controller.step args coordinator action = some later) :
    ∃ committedLater, RefillInvariant args coordinator later committedLater := by
  cases action with
  | take reader count =>
      simp only [Controller.step] at steps
      split at steps
      · rw [← Option.some.inj steps]
        exact ⟨committed, invariant.setReader (fun locked => by cases locked) trivial⟩
      · cases steps
  | acquire reader found =>
      simp only [Controller.step] at steps
      split at steps
      · rw [← Option.some.inj steps]
        cases found with
        | false =>
            exact ⟨committed, invariant.setReader (fun locked => by cases locked) trivial⟩
        | true =>
            exact ⟨committed, invariant.setReader (fun locked => by cases locked) trivial⟩
      case h_2 count at_ =>
        cases found with
        | false =>
            rw [← Option.some.inj steps]
            exact ⟨committed, invariant.setReader (fun _ => invariant.holds at_ rfl) trivial⟩
        | true =>
            rw [← Option.some.inj steps]
            exact ⟨committed, invariant.leave rfl⟩
      · rw [← Option.some.inj steps]
        exact ⟨committed, invariant.setReader (fun locked => by cases locked) trivial⟩
      · cases steps
  | lock reader =>
      simp only [Controller.step] at steps
      split at steps
      case h_1 count _ free =>
        rw [← Option.some.inj steps]
        refine ⟨committed, invariant.move rfl rfl rfl rfl (fun _ => rfl) ?_ trivial⟩
        intro other _ held
        rw [free] at held
        cases held
      · cases steps
  | openSource reader =>
      simp only [Controller.step] at steps
      split at steps
      case h_1 count at_ =>
        rw [← Option.some.inj steps]
        exact ⟨committed, invariant.openSource at_⟩
      · cases steps
  | restore reader =>
      simp only [Controller.step] at steps
      split at steps
      case h_1 count source cursor at_ sourceEq cursorEq =>
        rw [← Option.some.inj steps]
        exact ⟨committed, invariant.restore at_ sourceEq cursorEq⟩
      · cases steps
  | draw reader =>
      simp only [Controller.step] at steps
      split at steps
      case h_1 count source at_ sourceEq =>
        rw [← Option.some.inj steps]
        exact ⟨committed, invariant.draw at_ sourceEq⟩
      · cases steps
  | publish reader =>
      simp only [Controller.step] at steps
      split at steps
      case h_1 start groups at_ =>
        rcases Option.map_eq_some_iff.mp steps with ⟨tasks, built, rfl⟩
        exact ⟨committed, invariant.publish at_ built⟩
      · cases steps
  | submit reader =>
      simp only [Controller.step] at steps
      split at steps
      case h_1 start tasks source at_ sourceEq =>
        rcases Option.map_eq_some_iff.mp steps with ⟨queue, submitted, rfl⟩
        exact invariant.submit lawful at_ sourceEq submitted
      · cases steps
  | fail reader =>
      simp only [Controller.step] at steps
      split at steps
      · cases steps
      · rw [← Option.some.inj steps]
        exact ⟨committed, invariant.leave rfl⟩

end Steps

theorem RefillInvariant.initial (lawful : coordinator.Lawful) :
    RefillInvariant args coordinator { queue := coordinator.initial } 0 := by
  refine ⟨?_, ?_, Or.inl ⟨lawful.initialState, rfl⟩, ?_, ?_, ?_, ?_, ?_, fun _ => trivial⟩
  · rw [reference_zero]
    exact lawful.initialTasks
  · dsimp only
    rw [lawful.initialTasks, List.length_nil]
  · intro request isServed
    exact absurd isServed (lawful.initialServed request)
  · intro source member
    cases member
  · intro _ source member
    cases member
  · intro cursor member
    cases member
  · intro reader locked
    cases locked

end Source

/-- In every run of the readers, the submitted tasks are the first groups of the stream,
each once and in order, and the committed cursor is that of the stream after them. -/
theorem take_refills_exactlyOnce {Q P : Type} (args : SourceArgs P)
    (coordinator : Coordinator Q P) (lawful : coordinator.Lawful)
    (controller : Controller Q P)
    (reached : Reaches (Controller.step args coordinator) (fun _ _ => True)
      { queue := coordinator.initial } controller)
    (calls : List Nat) (total : calls.sum = (coordinator.tasks controller.queue).length) :
    coordinator.tasks controller.queue = tasksFrom 0 (uninterrupted args calls).1 ∧
      ((coordinator.producerState controller.queue = none ∧
          coordinator.tasks controller.queue = []) ∨
        coordinator.producerState controller.queue =
          some ⟨1, (uninterrupted args calls).2.toCursor⟩) := by
  have invariant : ∃ committed, RefillInvariant args coordinator controller committed := by
    apply reached.invariant fun state => ∃ committed, RefillInvariant args coordinator state
      committed
    case initially => exact ⟨0, RefillInvariant.initial lawful⟩
    case preserved =>
      rintro state action later _ ⟨committed, before⟩ steps
      exact before.step lawful steps
  rcases invariant with ⟨committed, invariant⟩
  rw [invariant.counted] at total
  rw [uninterrupted_eq_reference, total]
  refine ⟨invariant.tasks, ?_⟩
  rcases invariant.state with ⟨stateEq, noneCommitted⟩ | stateEq
  · left
    refine ⟨stateEq, List.length_eq_zero_iff.mp ?_⟩
    rw [invariant.counted, noneCommitted]
  · exact Or.inr stateEq

def twoPrompts : SourceArgs Nat where
  promptData := some [10, 20]
  rolloutSeed := 42
  nSamplesPerPrompt := 1
  rolloutShuffle := true
  shuffler := ⟨fun _ length => (List.range length).reverse, fun _ _ => List.reverse_perm _⟩
  blank := 0

def refillAfterFailure : List TakeAction :=
  [.take 0 1, .acquire 0 false, .lock 0, .acquire 0 false,
    .openSource 0, .restore 0, .draw 0, .fail 0,
    .take 0 1, .acquire 0 false, .lock 0, .acquire 0 false,
    .openSource 0, .restore 0, .draw 0, .publish 0, .submit 0]

theorem refillAfterFailure_exactlyOnce :
    ∃ controller : Controller (SubmittedTasks Nat) Nat,
      runActions (Controller.step twoPrompts (SubmittedTasks.coordinator Nat))
        (fun _ _ => True) { queue := {} } refillAfterFailure = some controller ∧
      controller.queue.tasks = tasksFrom 0 (uninterrupted twoPrompts [8]).1 := by
  have ran : ∃ controller : Controller (SubmittedTasks Nat) Nat,
      runActions (Controller.step twoPrompts (SubmittedTasks.coordinator Nat))
        (fun _ _ => True) { queue := {} } refillAfterFailure = some controller ∧
      controller.queue.tasks.length = 8 :=
    ⟨_, rfl, rfl⟩
  rcases ran with ⟨controller, runEq, submitted⟩
  have total : [8].sum = controller.queue.tasks.length := submitted.symm
  exact ⟨controller, runEq,
    (take_refills_exactlyOnce twoPrompts (SubmittedTasks.coordinator Nat)
      (SubmittedTasks.lawful Nat) controller (Reaches.of_run .start runEq) [8] total).1⟩

end Vime.Data
