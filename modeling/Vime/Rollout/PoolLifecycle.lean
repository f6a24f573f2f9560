import Vime.Foundation.Fallible
import Vime.Foundation.Holdings
import Vime.Rollout.GenerationPool

/-! # The lifecycle of the generation pool

Every group that comes from the data source is held by one slot or on its way back until it
ends as an output or in the data source, and every output is returned once. A `_next` does not
fail, as long as no producer is replaced under one that has no output yet.
-/

namespace Vime.Rollout

open Vime.Foundation

/-! ## Where groups and outputs are -/

def SlotPc.groups : SlotPc → List Nat
  | .created group => [group]
  | .generating _ group => [group]
  | .putting output => [output.group]
  | _ => []

def RebufferPc.batch : RebufferPc → List Nat
  | .adding batch => batch
  | _ => []

def NextPc.inHand : NextPc → List GroupOutput
  | .waiting _ (some output) => [output]
  | .taking (some output) => [output]
  | .closing (.returned (some output)) => [output]
  | _ => []

def NextReply.output : NextReply → Option GroupOutput
  | .returned output => output
  | .raised _ => none

namespace GenerationActor

def held (actor : GenerationActor) : List Nat := actor.slotTasks.flatMap SlotPc.groups

def returning (actor : GenerationActor) : List Nat :=
  actor.pendingRebuffers ++ actor.rebufferTask.batch

def ended (actor : GenerationActor) : List Nat :=
  actor.rebuffered ++ actor.put.map GroupOutput.group

def occurrences (actor : GenerationActor) (group : Nat) : Nat :=
  actor.held.count group + actor.returning.count group + actor.ended.count group

def delivered (actor : GenerationActor) : List GroupOutput :=
  actor.replies.filterMap NextReply.output

def asked (actor : GenerationActor) : Nat :=
  match actor.producer with
  | some (.fetching count) => count
  | _ => 0

end GenerationActor

/-- What a `_next` relies on. -/
def NextPc.Sound (producers : Nat) (producer : Option ProducerPc) (outputs : List GroupOutput) :
    NextPc → Prop
  | .waiting awaited none => awaited = producers ∧ producer ≠ none
  | .taking none => outputs ≠ []
  | .closing (.returned none) => producer = some .done ∧ outputs = []
  | .closing (.raised _) => False
  | _ => True

structure PoolInvariant (actor : GenerationActor) : Prop where
  drained : actor.producer = none ∨ actor.producer = some .done → actor.slotTasks = []
  bounded : actor.slotTasks.length + actor.asked ≤ actor.capacity
  unstarted : actor.producer = none → actor.outputs = []
  once : ∀ group, actor.occurrences group = if group < actor.taken then 1 else 0
  awaited : ∀ group ∈ actor.returning, .rebuffering group ∈ actor.slotTasks
  results : actor.put = actor.delivered ++ actor.next.inHand ++ actor.outputs
  next : actor.next.Sound actor.producers actor.producer actor.outputs
  replies : ∀ reply ∈ actor.replies, ∀ exception, reply ≠ .raised exception

theorem PoolInvariant.initial (capacity : Nat) :
    PoolInvariant { capacity := capacity } := by
  constructor
  · exact fun _ => rfl
  · exact Nat.zero_le capacity
  · exact fun _ => rfl
  · intro group
    rw [if_neg (Nat.not_lt_zero group)]
    rfl
  · exact fun _ member => nomatch member
  · rfl
  · exact trivial
  · exact fun _ member => nomatch member

/-! ## Slots -/

section Slots

variable {actor : GenerationActor} {slot : Nat} {old new : SlotPc}

theorem PoolInvariant.producing (invariant : PoolInvariant actor)
    (found : actor.slotTasks[slot]? = some old) :
    actor.producer ≠ none ∧ actor.producer ≠ some .done := by
  have occupied : actor.slotTasks ≠ [] := by
    intro empty
    rw [empty] at found
    cases found
  exact ⟨fun absent => occupied (invariant.drained (.inl absent)),
    fun done => occupied (invariant.drained (.inr done))⟩

theorem PoolInvariant.setSlot (invariant : PoolInvariant actor)
    (found : actor.slotTasks[slot]? = some old) {taken : Nat}
    (owes : ∀ group, (if group < actor.taken then 1 else 0) + new.groups.count group =
      (if group < taken then 1 else 0) + old.groups.count group)
    (notAwaited : ∀ group ∈ actor.returning, old ≠ .rebuffering group) :
    PoolInvariant (({ actor with taken := taken }).setSlot slot new) := by
  have producing := invariant.producing found
  refine ⟨?_, ?_, invariant.unstarted, ?_, ?_, invariant.results, invariant.next,
    invariant.replies⟩
  · rintro (absent | done)
    · exact absurd absent producing.1
    · exact absurd done producing.2
  · have bounded := invariant.bounded
    change (actor.slotTasks.set slot new).length + actor.asked ≤ actor.capacity
    rwa [List.length_set]
  · intro group
    have once := invariant.once group
    have balance := owes group
    have moved : ((actor.slotTasks.set slot new).flatMap SlotPc.groups).count group +
        old.groups.count group = actor.held.count group + new.groups.count group :=
      count_holdings_set _ found group
    change ((actor.slotTasks.set slot new).flatMap SlotPc.groups).count group +
      actor.returning.count group + actor.ended.count group = if group < taken then 1 else 0
    rw [GenerationActor.occurrences] at once
    omega
  · intro group member
    exact mem_set_of_ne found (invariant.awaited group member)
      fun same => notAwaited group member same.symm

/-- A group goes on its way back. -/
theorem PoolInvariant.rebuffer (invariant : PoolInvariant actor)
    (found : actor.slotTasks[slot]? = some old) {taken group : Nat}
    (owes : ∀ other, (if other < actor.taken then 1 else 0) + [group].count other =
      (if other < taken then 1 else 0) + old.groups.count other)
    (notAwaited : ∀ other ∈ actor.returning, old ≠ .rebuffering other) :
    PoolInvariant (({ actor with taken := taken }).rebuffer slot group) := by
  have producing := invariant.producing found
  have inside := (List.getElem?_eq_some_iff.mp found).1
  have batchEq : (({ actor with taken := taken }).rebuffer slot group).rebufferTask.batch =
      actor.rebufferTask.batch := by
    rw [GenerationActor.rebuffer]
    cases actor.rebufferTask with
    | absent | sleeping | adding => rfl
  have returningEq : (({ actor with taken := taken }).rebuffer slot group).returning =
      actor.pendingRebuffers ++ [group] ++ actor.rebufferTask.batch :=
    congrArg (actor.pendingRebuffers ++ [group] ++ ·) batchEq
  refine ⟨?_, ?_, invariant.unstarted, ?_, ?_, invariant.results, invariant.next,
    invariant.replies⟩
  · rintro (absent | done)
    · exact absurd absent producing.1
    · exact absurd done producing.2
  · have bounded := invariant.bounded
    change (actor.slotTasks.set slot _).length + actor.asked ≤ actor.capacity
    rwa [List.length_set]
  · intro other
    have once := invariant.once other
    have balance := owes other
    have moved : ((actor.slotTasks.set slot (.rebuffering group)).flatMap SlotPc.groups).count
        other + old.groups.count other = actor.held.count other +
          (SlotPc.rebuffering group).groups.count other := count_holdings_set _ found other
    have none_ : (SlotPc.rebuffering group).groups.count other = 0 := rfl
    rw [GenerationActor.occurrences, returningEq]
    change ((actor.slotTasks.set slot (.rebuffering group)).flatMap SlotPc.groups).count other +
      _ + actor.ended.count other = if other < taken then 1 else 0
    rw [GenerationActor.occurrences, GenerationActor.returning, List.count_append] at once
    rw [List.count_append, List.count_append]
    omega
  · intro other member
    rw [returningEq, List.mem_append, List.mem_append, List.mem_singleton] at member
    have old_ : other ∈ actor.returning → SlotPc.rebuffering other ∈
        actor.slotTasks.set slot (.rebuffering group) := fun isOld =>
      mem_set_of_ne found (invariant.awaited other isOld)
        fun same => notAwaited other isOld same.symm
    rcases member with (pending | same) | inBatch
    · exact old_ (List.mem_append_left _ pending)
    · rw [same]
      exact List.mem_set inside _
    · exact old_ (List.mem_append_right _ inBatch)

theorem PoolInvariant.beginGroup (invariant : PoolInvariant actor)
    (found : actor.slotTasks[slot]? = some old) {taken group : Nat} (rolloutId : Int)
    (owes : ∀ other, (if other < actor.taken then 1 else 0) + [group].count other =
      (if other < taken then 1 else 0) + old.groups.count other)
    (notAwaited : ∀ other ∈ actor.returning, old ≠ .rebuffering other) :
    PoolInvariant (({ actor with taken := taken }).beginGroup slot rolloutId group) := by
  rw [GenerationActor.beginGroup]
  split
  · exact invariant.setSlot found owes notAwaited
  · exact invariant.rebuffer found owes notAwaited

theorem slotLoop_groups (actor : GenerationActor) : actor.slotLoop.groups = [] := by
  rw [GenerationActor.slotLoop]
  split
  · rfl
  · rfl

/-- An output is put. -/
theorem PoolInvariant.putOutput (invariant : PoolInvariant actor) {output : GroupOutput}
    (found : actor.slotTasks[slot]? = some old) (owes : old.groups = [output.group]) :
    PoolInvariant (actor.putOutput slot output) := by
  have producing := invariant.producing found
  refine ⟨?_, ?_, ?_, ?_, ?_, ?_, ?_, invariant.replies⟩
  · rintro (absent | done)
    · exact absurd absent producing.1
    · exact absurd done producing.2
  · have bounded := invariant.bounded
    change (actor.slotTasks.set slot _).length + actor.asked ≤ actor.capacity
    rwa [List.length_set]
  · exact fun absent => absurd absent producing.1
  · intro group
    have once := invariant.once group
    have moved : ((actor.slotTasks.set slot actor.slotLoop).flatMap SlotPc.groups).count group +
        old.groups.count group = actor.held.count group + actor.slotLoop.groups.count group :=
      count_holdings_set _ found group
    rw [owes, slotLoop_groups, List.count_nil] at moved
    change ((actor.slotTasks.set slot actor.slotLoop).flatMap SlotPc.groups).count group +
      actor.returning.count group + (actor.rebuffered ++
        (actor.put ++ [output]).map GroupOutput.group).count group = _
    rw [GenerationActor.occurrences, GenerationActor.ended, List.count_append] at once
    rw [List.map_append, List.count_append, List.count_append, List.map_singleton]
    exact (show _ = actor.occurrences group by
      rw [GenerationActor.occurrences, GenerationActor.ended, List.count_append]
      omega).trans (invariant.once group)
  · intro group member
    refine mem_set_of_ne found (invariant.awaited group member) ?_
    intro same
    rw [← same] at owes
    cases owes
  · change actor.put ++ [output] =
      actor.delivered ++ actor.next.inHand ++ (actor.outputs ++ [output])
    rw [← List.append_assoc, ← invariant.results]
  · have sound := invariant.next
    change NextPc.Sound actor.producers actor.producer (actor.outputs ++ [output]) actor.next
    cases nextEq : actor.next with
    | idle => exact trivial
    | waiting awaited take =>
        rw [nextEq] at sound
        cases take with
        | none => exact sound
        | some _ => exact trivial
    | taking take =>
        cases take with
        | none => exact List.append_ne_nil_of_right_ne_nil _ (List.cons_ne_nil _ _)
        | some _ => exact trivial
    | closing reply =>
        rw [nextEq] at sound
        cases reply with
        | raised exception => exact sound
        | returned taken =>
            cases taken with
            | none => exact absurd sound.1 producing.2
            | some _ => exact trivial

theorem PoolInvariant.slotStart {next : GenerationActor} (invariant : PoolInvariant actor)
    (steps : actor.slotStart slot = some next) : PoolInvariant next := by
  rw [GenerationActor.slotStart] at steps
  split at steps
  · rename_i group found
    rw [← Option.some.inj steps]
    exact invariant.beginGroup found actor.rolloutId (fun _ => rfl) fun _ _ same => nomatch same
  · cases steps

theorem PoolInvariant.slotFetched {next : GenerationActor} (invariant : PoolInvariant actor)
    (steps : actor.slotFetched slot = some next) : PoolInvariant next := by
  rw [GenerationActor.slotFetched] at steps
  split at steps
  · rename_i rolloutId found
    rw [← Option.some.inj steps]
    apply invariant.beginGroup found rolloutId
    · intro other
      have noGroup : (SlotPc.fetching rolloutId).groups.count other = 0 := rfl
      have single : [actor.taken].count other = if actor.taken = other then 1 else 0 := by
        rw [List.count_singleton]
        simp only [beq_iff_eq]
      rw [noGroup, single]
      split_ifs <;> omega
    · exact fun _ _ same => nomatch same
  · cases steps

theorem PoolInvariant.slotGenerated {next : GenerationActor} {result : GroupResult}
    (invariant : PoolInvariant actor) (steps : actor.slotGenerated slot result = some next) :
    PoolInvariant next := by
  rw [GenerationActor.slotGenerated.eq_def] at steps
  split at steps
  · rename_i rolloutId group found
    rw [← Option.some.inj steps]
    exact invariant.rebuffer found (fun _ => rfl) fun _ _ same => nomatch same
  · rename_i rolloutId group keep found
    by_cases room : actor.outputs.length < 1
    · rw [if_pos room] at steps
      rw [← Option.some.inj steps]
      exact invariant.putOutput found rfl
    · rw [if_neg room] at steps
      rw [← Option.some.inj steps]
      exact invariant.setSlot found (fun _ => rfl) fun _ _ same => nomatch same
  · cases steps

theorem PoolInvariant.slotPut {next : GenerationActor} (invariant : PoolInvariant actor)
    (steps : actor.slotPut slot = some next) : PoolInvariant next := by
  rw [GenerationActor.slotPut] at steps
  split at steps
  · rename_i output found
    by_cases room : actor.outputs.length < 1
    · rw [if_pos room] at steps
      rw [← Option.some.inj steps]
      exact invariant.putOutput found rfl
    · rw [if_neg room] at steps
      cases steps
  · cases steps

theorem PoolInvariant.slotRebuffered {next : GenerationActor} (invariant : PoolInvariant actor)
    (steps : actor.slotRebuffered slot = some next) : PoolInvariant next := by
  rw [GenerationActor.slotRebuffered] at steps
  split at steps
  · rename_i group found
    by_cases isBack : group ∈ actor.rebuffered
    · rw [if_pos isBack] at steps
      rw [← Option.some.inj steps]
      apply invariant.setSlot found
      · intro other
        rw [slotLoop_groups]
        rfl
      · intro other member same
        rw [← SlotPc.rebuffering.inj same] at member
        have once := invariant.once group
        have returningPos := List.count_pos_iff.mpr member
        have endedPos : 0 < actor.ended.count group :=
          List.count_pos_iff.mpr (List.mem_append_left _ isBack)
        rw [GenerationActor.occurrences] at once
        split at once
        · omega
        · omega
    · rw [if_neg isBack] at steps
      cases steps
  · cases steps

end Slots

/-! ## The producer -/

section Producer

variable {actor next : GenerationActor}

theorem NextPc.Sound.running {producers : Nat} {producer other : Option ProducerPc}
    {outputs : List GroupOutput} {pc : NextPc} (sound : pc.Sound producers producer outputs)
    (runs : producer ≠ some .done) (present : other ≠ none) :
    pc.Sound producers other outputs := by
  cases pc with
  | idle => exact trivial
  | waiting awaited take =>
      cases take with
      | none => exact ⟨sound.1, present⟩
      | some _ => exact trivial
  | taking take =>
      cases take with
      | none => exact sound
      | some _ => exact trivial
  | closing reply =>
      cases reply with
      | raised exception => exact sound
      | returned taken =>
          cases taken with
          | none => exact absurd sound.1 runs
          | some _ => exact trivial

/-- The loop of the producer goes on, or ends with no slot left. -/
theorem PoolInvariant.loopTop (invariant : PoolInvariant actor)
    (runs : actor.producer ≠ some .done) : PoolInvariant actor.loopTop := by
  have room : actor.slotTasks.length ≤ actor.capacity :=
    Nat.le_trans (Nat.le_add_right _ _) invariant.bounded
  have sound : ∀ pc : ProducerPc, actor.next.Sound actor.producers (some pc) actor.outputs :=
    fun pc => invariant.next.running runs (Option.some_ne_none pc)
  rw [GenerationActor.loopTop]
  by_cases goesOn : actor.running = true ∨ actor.slotTasks ≠ []
  · rw [if_pos goesOn]
    dsimp only
    by_cases refills : actor.running = true ∧ actor.slotTasks.length < actor.capacity
    · rw [if_pos refills]
      refine ⟨?_, ?_, ?_, invariant.once, invariant.awaited, invariant.results, sound _,
        invariant.replies⟩
      · rintro (absent | done)
        · cases absent
        · cases done
      · change actor.slotTasks.length + min 64 (actor.capacity - actor.slotTasks.length) ≤
          actor.capacity
        omega
      · exact fun absent => nomatch absent
    · rw [if_neg refills]
      by_cases empty : actor.slotTasks = []
      · rw [if_pos empty]
        exact ⟨fun _ => empty, room, fun absent => (nomatch absent), invariant.once,
          invariant.awaited, invariant.results, sound _, invariant.replies⟩
      · rw [if_neg empty]
        refine ⟨?_, room, fun absent => (nomatch absent), invariant.once, invariant.awaited,
          invariant.results, sound _, invariant.replies⟩
        rintro (absent | done)
        · cases absent
        · cases done
  · rw [if_neg goesOn]
    rw [not_or, not_not] at goesOn
    exact ⟨fun _ => goesOn.2, room, fun absent => (nomatch absent), invariant.once,
      invariant.awaited, invariant.results, sound _, invariant.replies⟩

theorem PoolInvariant.produce (invariant : PoolInvariant actor)
    (steps : actor.produce = some next) : PoolInvariant next := by
  rw [GenerationActor.produce] at steps
  split at steps
  · rename_i producerEq
    rw [← Option.some.inj steps]
    exact invariant.loopTop (by rw [producerEq]; exact fun same => nomatch same)
  · rename_i producerEq
    rw [← Option.some.inj steps]
    exact invariant.loopTop (by rw [producerEq]; exact fun same => nomatch same)
  · cases steps

theorem count_created (taken count group : Nat) :
    (((List.range count).map fun index => SlotPc.created (taken + index)).flatMap
        SlotPc.groups).count group =
      if taken ≤ group ∧ group < taken + count then 1 else 0 := by
  have numbers : ((List.range count).map fun index => SlotPc.created (taken + index)).flatMap
      SlotPc.groups = List.range' taken count := by
    rw [List.flatMap_map, List.range'_eq_map_range]
    induction count with
    | zero => rfl
    | succ count induction =>
        rw [List.range_succ, List.flatMap_append, List.map_append, induction]
        rfl
  rw [numbers, List.count_range_1']

/-- The groups that the producer gets are new. -/
theorem PoolInvariant.fetched {count : Nat} (invariant : PoolInvariant actor)
    (steps : actor.fetched count = some next) : PoolInvariant next := by
  rw [GenerationActor.fetched] at steps
  split at steps
  · rename_i asked producerEq
    by_cases within : count ≤ asked
    · rw [if_pos within] at steps
      rw [← Option.some.inj steps]
      have runs : actor.producer ≠ some .done := by
        rw [producerEq]
        exact fun same => nomatch same
      have bounded := invariant.bounded
      rw [GenerationActor.asked, producerEq] at bounded
      refine ⟨?_, ?_, fun absent => (nomatch absent), ?_, ?_, invariant.results,
        invariant.next.running runs (Option.some_ne_none _), invariant.replies⟩
      · rintro (absent | done)
        · cases absent
        · cases done
      · change (actor.slotTasks ++ _).length + 0 ≤ actor.capacity
        rw [List.length_append, List.length_map, List.length_range]
        dsimp only at bounded
        omega
      · intro group
        have once := invariant.once group
        have added := count_created actor.taken count group
        change ((actor.slotTasks ++ _).flatMap SlotPc.groups).count group +
          actor.returning.count group + actor.ended.count group = _
        rw [GenerationActor.occurrences, GenerationActor.held] at once
        rw [List.flatMap_append, List.count_append, added]
        dsimp only
        by_cases before : group < actor.taken
        · rw [if_pos before] at once
          rw [if_neg (by omega), if_pos (by omega)]
          omega
        · rw [if_neg before] at once
          by_cases isNew : group < actor.taken + count
          · rw [if_pos (by omega), if_pos isNew]
            omega
          · rw [if_neg (by omega), if_neg isNew]
            omega
      · exact fun group member => List.mem_append_left _ (invariant.awaited group member)
    · rw [if_neg within] at steps
      cases steps
  · cases steps

theorem seen_groups (pc : SlotPc) : pc.seen.groups = pc.groups := by
  cases pc with
  | created | fetching | generating | rebuffering | putting | finished | collected => rfl

theorem PoolInvariant.producerWake (invariant : PoolInvariant actor)
    (steps : actor.producerWake = some next) : PoolInvariant next := by
  rw [GenerationActor.producerWake] at steps
  split at steps
  · rename_i producerEq
    by_cases awake : actor.poolChanged = true ∨ .finished ∈ actor.slotTasks
    · rw [if_pos awake] at steps
      rw [← Option.some.inj steps]
      have runs : actor.producer ≠ some .done := by
        rw [producerEq]
        exact fun same => nomatch same
      have bounded := invariant.bounded
      rw [GenerationActor.asked, producerEq] at bounded
      refine ⟨?_, ?_, fun absent => (nomatch absent), ?_, ?_, invariant.results,
        invariant.next.running runs (Option.some_ne_none _), invariant.replies⟩
      · rintro (absent | done)
        · cases absent
        · cases done
      · change (actor.slotTasks.map SlotPc.seen).length + 0 ≤ actor.capacity
        rw [List.length_map]
        exact bounded
      · intro group
        have groupsEq : (actor.slotTasks.map SlotPc.seen).flatMap SlotPc.groups =
            actor.held := by
          rw [List.flatMap_map]
          simp only [seen_groups]
          rfl
        change ((actor.slotTasks.map SlotPc.seen).flatMap SlotPc.groups).count group +
          actor.returning.count group + actor.ended.count group = _
        rw [groupsEq]
        exact invariant.once group
      · exact fun group member =>
          List.mem_map.mpr ⟨.rebuffering group, invariant.awaited group member, rfl⟩
    · rw [if_neg awake] at steps
      cases steps
  · cases steps

theorem held_filter (slots : List SlotPc) :
    (slots.filter fun pc => pc ≠ SlotPc.collected).flatMap SlotPc.groups =
      slots.flatMap SlotPc.groups := by
  apply holdings_filter
  intro pc _ dropped
  rw [decide_eq_false_iff_not, not_not] at dropped
  rw [dropped]
  rfl

theorem PoolInvariant.collect (invariant : PoolInvariant actor)
    (steps : actor.collect = some next) : PoolInvariant next := by
  rw [GenerationActor.collect] at steps
  split at steps
  · rename_i producerEq
    rw [← Option.some.inj steps]
    have present : actor.producer ≠ none := by
      rw [producerEq]
      exact Option.some_ne_none _
    have runs : actor.producer ≠ some .done := by
      rw [producerEq]
      exact fun same => nomatch same
    have shrunk : PoolInvariant { actor with
        slotTasks := actor.slotTasks.filter fun pc => pc ≠ SlotPc.collected } := by
      refine ⟨?_, ?_, invariant.unstarted, ?_, ?_, invariant.results, invariant.next,
        invariant.replies⟩
      · rintro (absent | done)
        · exact absurd absent present
        · exact absurd done runs
      · have bounded := invariant.bounded
        have fewer := List.length_filter_le (fun pc => pc ≠ SlotPc.collected) actor.slotTasks
        exact Nat.le_trans (Nat.add_le_add_right fewer _) bounded
      · intro group
        change ((actor.slotTasks.filter fun pc => pc ≠ SlotPc.collected).flatMap
          SlotPc.groups).count group + actor.returning.count group + actor.ended.count group = _
        rw [held_filter]
        exact invariant.once group
      · intro group member
        rw [List.mem_filter]
        exact ⟨invariant.awaited group member, decide_eq_true fun same => nomatch same⟩
    exact shrunk.loopTop runs
  · cases steps

end Producer

/-! ## Controls -/

section Controls

variable {actor : GenerationActor}

/-- A `_next` that has no output yet, or that is about to return `None`. -/
def NextPc.unanswered : NextPc → Bool
  | .waiting _ none => true
  | .closing (.returned none) => true
  | _ => false

/-- No finished producer is replaced under a `_next` that has no output. -/
def GenerationActor.Undisturbed (actor : GenerationActor) : PoolAction → Prop
  | .start _ => actor.producer = some .done → actor.next.unanswered = false
  | _ => True

instance (actor : GenerationActor) (action : PoolAction) :
    Decidable (actor.Undisturbed action) :=
  match action with
  | .start _ => inferInstanceAs
      (Decidable (actor.producer = some .done → actor.next.unanswered = false))
  | .pause | .next | .takeOutput | .nextWake | .nextTaken | .nextReturn | .produce | .fetched _
  | .producerWake | .collect | .slotStart _ | .slotFetched _ | .slotGenerated _ _ | .slotPut _
  | .slotRebuffered _ | .flush | .flushed => inferInstanceAs (Decidable True)

/-- A `_next` that has its answer does not look at the producer. -/
theorem NextPc.Sound.answered {producers later : Nat} {producer other : Option ProducerPc}
    {outputs : List GroupOutput} {pc : NextPc} (sound : pc.Sound producers producer outputs)
    (answered : pc.unanswered = false) : pc.Sound later other outputs := by
  cases pc with
  | idle => exact trivial
  | waiting awaited take =>
      cases take with
      | none => cases answered
      | some _ => exact trivial
  | taking take =>
      cases take with
      | none => exact sound
      | some _ => exact trivial
  | closing reply =>
      cases reply with
      | raised exception => exact sound
      | returned taken =>
          cases taken with
          | none => cases answered
          | some _ => exact trivial

theorem NextPc.Sound.unstarted {producers : Nat} {outputs : List GroupOutput} {pc : NextPc}
    (sound : pc.Sound producers none outputs) : pc.unanswered = false := by
  cases pc with
  | idle => rfl
  | waiting awaited take =>
      cases take with
      | none => exact absurd rfl sound.2
      | some _ => rfl
  | taking take => cases take with | none | some => rfl
  | closing reply =>
      cases reply with
      | raised exception => rfl
      | returned taken =>
          cases taken with
          | none => cases sound.1
          | some _ => rfl

theorem PoolInvariant.replaceProducer (invariant : PoolInvariant actor) (rolloutId : Int)
    (producerOver : actor.producer = none ∨ actor.producer = some .done)
    (answered : actor.next.unanswered = false) :
    PoolInvariant { actor with
      rolloutId := rolloutId
      running := true
      poolChanged := true
      slotTasks := []
      producer := some .created
      producers := actor.producers + 1 } := by
  have noSlot := invariant.drained producerOver
  refine ⟨fun _ => rfl, Nat.zero_le _, fun absent => (nomatch absent), ?_, ?_, invariant.results,
    invariant.next.answered answered, invariant.replies⟩
  · intro group
    have once := invariant.once group
    rw [GenerationActor.occurrences, GenerationActor.held, noSlot] at once
    exact once
  · intro group member
    have rebuffering := invariant.awaited group member
    rw [noSlot] at rebuffering
    cases rebuffering

theorem PoolInvariant.start (invariant : PoolInvariant actor) (rolloutId : Int)
    (undisturbed : actor.Undisturbed (.start rolloutId)) :
    PoolInvariant (actor.start rolloutId) := by
  have goesOn : PoolInvariant { actor with
      rolloutId := rolloutId, running := true, poolChanged := true } :=
    ⟨invariant.drained, invariant.bounded, invariant.unstarted, invariant.once,
      invariant.awaited, invariant.results, invariant.next, invariant.replies⟩
  rw [GenerationActor.start]
  split
  · rename_i absent
    have sound := invariant.next
    rw [absent] at sound
    rw [← invariant.unstarted absent]
    exact invariant.replaceProducer rolloutId (.inl absent) sound.unstarted
  · rename_i done
    exact invariant.replaceProducer rolloutId (.inr done) (undisturbed done)
  · exact goesOn

theorem PoolInvariant.pause (invariant : PoolInvariant actor) : PoolInvariant actor.pause :=
  ⟨invariant.drained, invariant.bounded, invariant.unstarted, invariant.once,
    invariant.awaited, invariant.results, invariant.next, invariant.replies⟩

end Controls

/-! ## Results -/

section Results

variable {actor next : GenerationActor}

theorem PoolInvariant.goNext (invariant : PoolInvariant actor) {pc : NextPc}
    {outputs : List GroupOutput} (unstarted : actor.producer = none → outputs = [])
    (results : actor.next.inHand ++ actor.outputs = pc.inHand ++ outputs)
    (sound : pc.Sound actor.producers actor.producer outputs) :
    PoolInvariant { actor with next := pc, outputs := outputs } := by
  refine ⟨invariant.drained, invariant.bounded, unstarted, invariant.once, invariant.awaited,
    ?_, sound, invariant.replies⟩
  have before := invariant.results
  rw [List.append_assoc, results, ← List.append_assoc] at before
  exact before

theorem PoolInvariant.openNext (invariant : PoolInvariant actor)
    (steps : actor.openNext = some next) : PoolInvariant next := by
  rw [GenerationActor.openNext] at steps
  split at steps
  · rename_i pc isIdle producerEq
    rw [← Option.some.inj steps]
    have unchanged : actor.next.inHand ++ actor.outputs =
        (NextPc.waiting actor.producers none).inHand ++ actor.outputs := by
      rw [isIdle]
      rfl
    exact invariant.goNext invariant.unstarted unchanged
      ⟨rfl, by rw [producerEq]; exact Option.some_ne_none pc⟩
  · cases steps

theorem PoolInvariant.takeOutput (invariant : PoolInvariant actor)
    (steps : actor.takeOutput = some next) : PoolInvariant next := by
  rw [GenerationActor.takeOutput.eq_def] at steps
  split at steps
  · rename_i producer output rest isWaiting outputsEq
    rw [← Option.some.inj steps]
    apply invariant.goNext
    · intro absent
      rw [invariant.unstarted absent] at outputsEq
      cases outputsEq
    · rw [isWaiting, outputsEq]
      rfl
    · exact trivial
  · rename_i output rest isTaking outputsEq
    rw [← Option.some.inj steps]
    apply invariant.goNext
    · intro absent
      rw [invariant.unstarted absent] at outputsEq
      cases outputsEq
    · rw [isTaking, outputsEq]
      rfl
    · exact trivial
  · cases steps

theorem PoolInvariant.nextWake (invariant : PoolInvariant actor)
    (steps : actor.nextWake = some next) : PoolInvariant next := by
  have sound := invariant.next
  rw [GenerationActor.nextWake] at steps
  split at steps
  · rename_i producer output isWaiting
    rw [← Option.some.inj steps]
    apply invariant.goNext invariant.unstarted
    · rw [isWaiting]
      rfl
    · exact trivial
  · rename_i producer isWaiting
    rw [isWaiting] at sound
    by_cases wakes : producer < actor.producers ∨ actor.producer = some .done
    · rw [if_pos wakes] at steps
      have done : actor.producer = some .done :=
        wakes.resolve_left fun earlier => absurd sound.1 (Nat.ne_of_lt earlier)
      rw [if_neg (not_not_intro done)] at steps
      by_cases more : actor.outputs ≠ []
      · rw [if_pos more] at steps
        rw [← Option.some.inj steps]
        apply invariant.goNext invariant.unstarted
        · rw [isWaiting]
          rfl
        · exact more
      · rw [if_neg more] at steps
        rw [← Option.some.inj steps]
        apply invariant.goNext invariant.unstarted
        · rw [isWaiting]
          rfl
        · exact ⟨done, not_not.mp more⟩
    · rw [if_neg wakes] at steps
      cases steps
  · cases steps

theorem PoolInvariant.nextTaken (invariant : PoolInvariant actor)
    (steps : actor.nextTaken = some next) : PoolInvariant next := by
  rw [GenerationActor.nextTaken] at steps
  split at steps
  · rename_i output isTaking
    rw [← Option.some.inj steps]
    apply invariant.goNext invariant.unstarted
    · rw [isTaking]
      rfl
    · exact trivial
  · cases steps

theorem PoolInvariant.nextReturn (invariant : PoolInvariant actor)
    (steps : actor.nextReturn = some next) : PoolInvariant next := by
  have sound := invariant.next
  have results := invariant.results
  rw [GenerationActor.nextReturn] at steps
  split at steps
  · rename_i reply isClosing
    rw [← Option.some.inj steps]
    rw [isClosing] at sound results
    cases reply with
    | raised exception => exact absurd sound id
    | returned taken =>
        refine ⟨invariant.drained, invariant.bounded, invariant.unstarted, invariant.once,
          invariant.awaited, ?_, trivial, ?_⟩
        · have deliveredEq : (actor.replies ++ [NextReply.returned taken]).filterMap NextReply.output =
              actor.delivered ++ (NextPc.closing (.returned taken)).inHand := by
            rw [List.filterMap_append, GenerationActor.delivered]
            cases taken with
            | none => rfl
            | some output => rfl
          change actor.put = (actor.replies ++ [NextReply.returned taken]).filterMap NextReply.output ++
            [] ++ actor.outputs
          rw [deliveredEq, List.append_nil]
          exact results
        · intro reply member exception
          rcases List.mem_append.mp member with old | isNew
          · exact invariant.replies reply old exception
          · rw [List.mem_singleton.mp isNew]
            exact fun same => nomatch same
  · cases steps

end Results

/-! ## Returned groups -/

section Returned

variable {actor next : GenerationActor}

theorem nextBatch_returning (actor : GenerationActor) (group : Nat) :
    actor.nextBatch.returning.count group = actor.pendingRebuffers.count group := by
  rw [GenerationActor.nextBatch]
  by_cases empty : actor.pendingRebuffers = []
  · rw [if_pos empty, GenerationActor.returning, empty]
    rfl
  · rw [if_neg empty]
    change (actor.pendingRebuffers.drop 64 ++ actor.pendingRebuffers.take 64).count group = _
    rw [List.count_append, Nat.add_comm, ← List.count_append, List.take_append_drop]

theorem PoolInvariant.nextBatch (invariant : PoolInvariant actor) {rebuffered : List Nat}
    (moves : ∀ group, actor.rebufferTask.batch.count group + actor.rebuffered.count group =
      rebuffered.count group) :
    PoolInvariant ({ actor with rebuffered := rebuffered }).nextBatch := by
  have returningEq := nextBatch_returning { actor with rebuffered := rebuffered }
  have unchanged : ∃ pendingRebuffers rebufferTask,
      ({ actor with rebuffered := rebuffered }).nextBatch = { actor with
        rebuffered := rebuffered
        pendingRebuffers := pendingRebuffers
        rebufferTask := rebufferTask } := by
    rw [GenerationActor.nextBatch]
    split
    · exact ⟨_, _, rfl⟩
    · exact ⟨_, _, rfl⟩
  rcases unchanged with ⟨pendingRebuffers, rebufferTask, batchEq⟩
  rw [batchEq] at returningEq ⊢
  refine ⟨invariant.drained, invariant.bounded, invariant.unstarted, ?_, ?_, invariant.results,
    invariant.next, invariant.replies⟩
  · intro group
    have once := invariant.once group
    have moved := moves group
    rw [GenerationActor.occurrences, returningEq]
    change actor.held.count group + actor.pendingRebuffers.count group +
      (rebuffered ++ actor.put.map GroupOutput.group).count group =
        if group < actor.taken then 1 else 0
    rw [GenerationActor.occurrences, GenerationActor.returning, GenerationActor.ended,
      List.count_append, List.count_append] at once
    rw [List.count_append]
    omega
  · intro group member
    have still := List.count_pos_iff.mpr member
    rw [returningEq] at still
    exact invariant.awaited group (List.mem_append_left _ (List.count_pos_iff.mp still))

theorem PoolInvariant.flush (invariant : PoolInvariant actor)
    (steps : actor.flush = some next) : PoolInvariant next := by
  rw [GenerationActor.flush] at steps
  split at steps
  · rename_i isSleeping
    rw [← Option.some.inj steps]
    apply invariant.nextBatch
    intro group
    rw [isSleeping]
    exact Nat.zero_add _
  · cases steps

theorem PoolInvariant.flushed (invariant : PoolInvariant actor)
    (steps : actor.flushed = some next) : PoolInvariant next := by
  rw [GenerationActor.flushed] at steps
  split at steps
  · rename_i batch isAdding
    rw [← Option.some.inj steps]
    apply invariant.nextBatch
    intro group
    rw [isAdding, List.count_append]
    exact Nat.add_comm _ _
  · cases steps

end Returned

/-! ## Runs -/

theorem PoolInvariant.step {actor next : GenerationActor} {action : PoolAction}
    (invariant : PoolInvariant actor) (undisturbed : actor.Undisturbed action)
    (steps : actor.step action = some next) : PoolInvariant next := by
  cases action with
  | start rolloutId =>
      rw [← Option.some.inj steps]
      exact invariant.start rolloutId undisturbed
  | pause =>
      rw [← Option.some.inj steps]
      exact invariant.pause
  | next => exact invariant.openNext steps
  | takeOutput => exact invariant.takeOutput steps
  | nextWake => exact invariant.nextWake steps
  | nextTaken => exact invariant.nextTaken steps
  | nextReturn => exact invariant.nextReturn steps
  | produce => exact invariant.produce steps
  | fetched count => exact invariant.fetched steps
  | producerWake => exact invariant.producerWake steps
  | collect => exact invariant.collect steps
  | slotStart slot => exact invariant.slotStart steps
  | slotFetched slot => exact invariant.slotFetched steps
  | slotGenerated slot result => exact invariant.slotGenerated steps
  | slotPut slot => exact invariant.slotPut steps
  | slotRebuffered slot => exact invariant.slotRebuffered steps
  | flush => exact invariant.flush steps
  | flushed => exact invariant.flushed steps

end Vime.Rollout
