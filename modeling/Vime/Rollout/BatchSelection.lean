import Vime.Foundation.Execution

/-! # Batch selection

The selection loop of `generate_rollout_async` in `vime/rollout/vllm_rollout.py` with the
dynamic filter of `vime/rollout/filter_hub/base_types.py`. Groups are submitted as tasks,
waited for, filtered and collected until the batch is full. One counter stands for the
tasks that are pending, waited for but not examined, and selected.
-/

namespace Vime.Rollout.Selection

open Vime.Foundation

/-! ## The dynamic filter -/

structure DynamicFilterOutput where
  keep : Bool
  reason : Option String := none
  keepWhenInsufficient : Bool := false
  deriving DecidableEq, Repr

def shouldDropDynamicFilterOutput (output : DynamicFilterOutput) (remainingBatchSize : Int)
    (targetDataSize : Nat) : Bool :=
  if output.keep then false
  else if output.keepWhenInsufficient ∧ remainingBatchSize ≤ targetDataSize then false
  else true

inductive FilterReturn where
  | verdict (keep : Bool)
  | output (output : DynamicFilterOutput)
  deriving DecidableEq, Repr

/-- `none` stands for a rollout without a filter. -/
def callDynamicFilter : Option FilterReturn → DynamicFilterOutput
  | none => { keep := true }
  | some (.verdict keep) => { keep := keep }
  | some (.output output) => output

/-! ## The loop -/

structure RolloutArgs where
  rolloutBatchSize : Nat
  overSamplingBatchSize : Nat
  nSamplesPerPrompt : Nat
  rolloutAllSamplesProcessPath : Option String

def RolloutArgs.keepAllSamples (args : RolloutArgs) : Bool :=
  args.rolloutAllSamplesProcessPath.isSome

structure Task (S : Type) where
  number : Nat
  group : List S
  deriving DecidableEq, Repr

structure CompletedTask (S : Type) where
  task : Task S
  result : List S
  deriving DecidableEq, Repr

def CompletedTask.number {S : Type} (completed : CompletedTask S) : Nat := completed.task.number

/-- `GenerateState` with the local variables of the loop. `done` are the tasks of the last wait
that are not examined yet; it is empty at the head of the loop. -/
structure State (S : Type) where
  remainingBatchSize : Int
  pendings : List (Task S)
  done : List (CompletedTask S)
  data : List (CompletedTask S)
  allData : List (CompletedTask S)
  discarded : List (CompletedTask S × String)
  submitted : Nat
  deriving DecidableEq, Repr

namespace State

variable {S : Type}

def reset : State S where
  remainingBatchSize := 0
  pendings := []
  done := []
  data := []
  allData := []
  discarded := []
  submitted := 0

def submitGenerateTasks (state : State S) (samples : List (List S)) : State S :=
  { state with
    pendings := state.pendings ++
      (samples.zipIdx state.submitted).map fun (group, number) => ⟨number, group⟩
    submitted := state.submitted + samples.length
    remainingBatchSize := state.remainingBatchSize + samples.length }

/-- The body of the `for` loop over the done tasks. -/
def examine (args : RolloutArgs) (state : State S) (completed : CompletedTask S)
    (rest : List (CompletedTask S)) (output : DynamicFilterOutput) : State S :=
  let state := { state with
    done := rest
    allData := if args.keepAllSamples then state.allData ++ [completed] else state.allData }
  if shouldDropDynamicFilterOutput output state.remainingBatchSize args.rolloutBatchSize then
    { state with
      discarded := if args.keepAllSamples then state.discarded else
        state.discarded ++ [(completed, output.reason.getD "dynamic_filter")]
      remainingBatchSize := state.remainingBatchSize - 1 }
  else if state.data.length < args.rolloutBatchSize then
    { state with data := state.data ++ [completed] }
  else state

def Waits (args : RolloutArgs) (state : State S) : Prop :=
  state.done = [] ∧ state.data.length < args.rolloutBatchSize ∧
    ¬ state.remainingBatchSize < args.rolloutBatchSize

def Ended (args : RolloutArgs) (state : State S) : Prop :=
  state.done = [] ∧ ¬ state.data.length < args.rolloutBatchSize

end State

/-- The data source returns groups, a wait returns, and the filter returns for the next done
task. -/
inductive Action (S : Type) where
  | submit (samples : List (List S))
  | wait (done : List (CompletedTask S)) (pendings : List (Task S))
  | examine (returned : Option FilterReturn)
  deriving DecidableEq, Repr

section Steps

variable {S : Type} [DecidableEq S]

instance (args : RolloutArgs) (state : State S) : Decidable (state.Waits args) :=
  inferInstanceAs (Decidable (_ ∧ _ ∧ ¬ _))

def State.step (args : RolloutArgs) (state : State S) : Action S → Option (State S)
  | .submit samples =>
      if state.done = [] ∧ state.data.length < args.rolloutBatchSize ∧
          state.remainingBatchSize < args.rolloutBatchSize then
        some (state.submitGenerateTasks samples)
      else none
  -- `asyncio.wait` splits the set of tasks; some task is done.
  | .wait done pendings =>
      if state.Waits args ∧ done ≠ [] ∧
          (done.map CompletedTask.task ++ pendings).Perm state.pendings then
        some { state with done := done, pendings := pendings }
      else none
  | .examine returned =>
      match state.done with
      | [] => none
      | completed :: rest =>
          if completed.result.length = args.nSamplesPerPrompt then
            some (state.examine args completed rest (callDynamicFilter returned))
          else none

def SourceContract (args : RolloutArgs) (_ : State S) : Action S → Prop
  | .submit samples => 1 ≤ samples.length ∧ samples.length ≤ args.overSamplingBatchSize
  | _ => True

instance (args : RolloutArgs) (state : State S) (action : Action S) :
    Decidable (SourceContract args state action) :=
  match action with
  | .submit samples => inferInstanceAs
      (Decidable (1 ≤ samples.length ∧ samples.length ≤ args.overSamplingBatchSize))
  | .wait _ _ | .examine _ => inferInstanceAs (Decidable True)

def run (args : RolloutArgs) (actions : List (Action S)) : Option (State S) :=
  runActions (State.step args) (SourceContract args) .reset actions

end Steps

/-! ## Accounting -/

namespace State

variable {S : Type}

def numbers (state : State S) : List Nat :=
  state.pendings.map Task.number ++ (state.done.map CompletedTask.number ++
    (state.data.map CompletedTask.number ++
      state.discarded.map fun entry => entry.1.number))

def candidates (state : State S) : Nat :=
  state.pendings.length + state.data.length + state.done.length

def Drops (args : RolloutArgs) (state : State S) (returned : Option FilterReturn) : Prop :=
  shouldDropDynamicFilterOutput (callDynamicFilter returned) state.remainingBatchSize
    args.rolloutBatchSize = true

end State

/-- The invariant of the loop. Once the batch is full, groups that are kept but not selected
leave the counter, and only then. -/
structure Accounted {S : Type} (args : RolloutArgs) (state : State S) : Prop where
  once : ∀ number, state.numbers.count number ≤ if number < state.submitted then 1 else 0
  remaining : state.data.length < args.rolloutBatchSize →
    state.remainingBatchSize = state.candidates
  atMost : state.data.length ≤ args.rolloutBatchSize

section Steps

variable {S : Type} {args : RolloutArgs} {state : State S}

theorem Accounted.reset (args : RolloutArgs) : Accounted args (State.reset : State S) where
  once := fun _ => Nat.zero_le _
  remaining := fun _ => rfl
  atMost := Nat.zero_le _

theorem numbers_submitGenerateTasks (samples : List (List S)) :
    (state.submitGenerateTasks samples).pendings.map Task.number =
      state.pendings.map Task.number ++ List.range' state.submitted samples.length := by
  rw [State.submitGenerateTasks, List.map_append, List.map_map]
  congr 1
  exact List.zipIdx_map_snd _ _

theorem Accounted.submit (accounted : Accounted args state) (samples : List (List S)) :
    Accounted args (state.submitGenerateTasks samples) := by
  constructor
  · intro number
    have before := accounted.once number
    have submitted : (state.submitGenerateTasks samples).submitted =
        state.submitted + samples.length := rfl
    rw [State.numbers, numbers_submitGenerateTasks, submitted]
    simp only [State.numbers, State.submitGenerateTasks, List.count_append,
      List.count_range_1'] at before ⊢
    by_cases inside : number < state.submitted + samples.length
    · rw [if_pos inside]
      split at before
      · rw [if_neg (by omega)]
        omega
      · rw [if_pos (by omega)]
        omega
    · rw [if_neg inside, if_neg (by omega)]
      rw [if_neg (by omega)] at before
      exact before
  · intro few
    have before := accounted.remaining few
    simp only [State.candidates, State.submitGenerateTasks, List.length_append, List.length_map,
      List.length_zipIdx] at before ⊢
    omega
  · exact accounted.atMost

theorem Accounted.wait (accounted : Accounted args state) {done : List (CompletedTask S)}
    {pendings : List (Task S)} (head : state.done = [])
    (splits : (done.map CompletedTask.task ++ pendings).Perm state.pendings) :
    Accounted args { state with done := done, pendings := pendings } := by
  constructor
  · intro number
    have before := accounted.once number
    have same := (splits.map Task.number).count_eq number
    have isDone : (done.map CompletedTask.task).map Task.number =
        done.map CompletedTask.number := List.map_map
    rw [List.map_append, isDone, List.count_append] at same
    simp only [State.numbers, List.count_append, head, List.map_nil, List.count_nil]
      at before ⊢
    omega
  · intro few
    have before := accounted.remaining few
    have lengths := splits.length_eq
    simp only [List.length_append, List.length_map, State.candidates, head, List.length_nil]
      at before lengths ⊢
    omega
  · exact accounted.atMost

theorem Accounted.examine (accounted : Accounted args state) {completed : CompletedTask S}
    {rest : List (CompletedTask S)} (isDone : state.done = completed :: rest)
    (output : DynamicFilterOutput) :
    Accounted args (state.examine args completed rest output) := by
  have once := accounted.once
  have remaining := accounted.remaining
  have atMost := accounted.atMost
  simp only [State.numbers, State.candidates, isDone, List.map_cons, List.count_append,
    List.count_cons, List.length_cons] at once remaining
  rw [State.examine]
  dsimp only
  split
  · constructor
    · intro number
      have before := once number
      dsimp only [State.numbers]
      split
      · simp only [List.count_append]
        omega
      · simp only [List.count_append, List.map_append, List.map_cons, List.map_nil,
          List.count_singleton]
        omega
    · intro few
      have before := remaining few
      simp only [State.candidates]
      omega
    · exact atMost
  · split
    · rename_i few
      constructor
      · intro number
        have before := once number
        simp only [State.numbers, List.map_append, List.map_cons, List.map_nil,
          List.count_append, List.count_singleton]
        omega
      · intro _
        have before := remaining few
        simp only [State.candidates, List.length_append, List.length_singleton]
        omega
      · dsimp only
        rw [List.length_append, List.length_singleton]
        exact few
    · rename_i full
      constructor
      · intro number
        have before := once number
        simp only [State.numbers, List.count_append]
        omega
      · intro few
        exact absurd few full
      · exact atMost

theorem Accounted.step [DecidableEq S] (accounted : Accounted args state) {action : Action S}
    {later : State S} (steps : state.step args action = some later) : Accounted args later := by
  cases action with
  | submit samples =>
      rw [State.step, Option.ite_none_right_eq_some] at steps
      rw [← Option.some.inj steps.2]
      exact accounted.submit samples
  | wait done pendings =>
      rw [State.step, Option.ite_none_right_eq_some] at steps
      rw [← Option.some.inj steps.2]
      exact accounted.wait steps.1.1.1 steps.1.2.2
  | examine returned =>
      rw [State.step] at steps
      split at steps
      · cases steps
      · rename_i completed rest isDone
        rw [Option.ite_none_right_eq_some] at steps
        rw [← Option.some.inj steps.2]
        exact accounted.examine isDone (callDynamicFilter returned)

theorem step_examine [DecidableEq S] {returned : Option FilterReturn} {later : State S}
    (steps : state.step args (.examine returned) = some later) :
    ∃ completed rest, state.done = completed :: rest ∧
      later = state.examine args completed rest (callDynamicFilter returned) := by
  rw [State.step] at steps
  split at steps
  · cases steps
  · rename_i completed rest isDone
    rw [Option.ite_none_right_eq_some] at steps
    exact ⟨completed, rest, isDone, (Option.some.inj steps.2).symm⟩

theorem step_elsewhere [DecidableEq S] {action : Action S} {later : State S}
    (elsewhere : ∀ returned, action ≠ .examine returned)
    (steps : state.step args action = some later) :
    later.data = state.data ∧ later.discarded = state.discarded := by
  cases action with
  | submit samples =>
      rw [State.step, Option.ite_none_right_eq_some] at steps
      rw [← Option.some.inj steps.2]
      exact ⟨rfl, rfl⟩
  | wait done pendings =>
      rw [State.step, Option.ite_none_right_eq_some] at steps
      rw [← Option.some.inj steps.2]
      exact ⟨rfl, rfl⟩
  | examine returned => exact absurd rfl (elsewhere returned)

theorem examine_data {completed : CompletedTask S} {rest : List (CompletedTask S)}
    {output : DynamicFilterOutput} :
    (state.examine args completed rest output).data = state.data ∨
      ((state.examine args completed rest output).data = state.data ++ [completed] ∧
        state.data.length < args.rolloutBatchSize ∧
        shouldDropDynamicFilterOutput output state.remainingBatchSize
          args.rolloutBatchSize = false) := by
  rw [State.examine]
  dsimp only
  split
  · exact .inl rfl
  · rename_i keeps
    split
    · rename_i few
      exact .inr ⟨rfl, few, Bool.not_eq_true _ ▸ keeps⟩
    · exact .inl rfl

theorem examine_discarded (noHook : args.keepAllSamples = false) {completed : CompletedTask S}
    {rest : List (CompletedTask S)} {output : DynamicFilterOutput} :
    (state.examine args completed rest output).discarded =
      if shouldDropDynamicFilterOutput output state.remainingBatchSize args.rolloutBatchSize then
        state.discarded ++ [(completed, output.reason.getD "dynamic_filter")]
      else state.discarded := by
  rw [State.examine]
  dsimp only
  rw [noHook]
  split
  · rfl
  · split
    · rfl
    · rfl

end Steps

/-! ## Runs -/

section Runs

variable {S : Type} [DecidableEq S]

/-- The group was examined in the run when the filter kept it, or allowed to keep it and at
most `rollout_batch_size` candidates, itself included, were left. -/
def SelectedIn (args : RolloutArgs) (actions : List (Action S))
    (completed : CompletedTask S) : Prop :=
  ∃ before returned after earlier, actions = before ++ .examine returned :: after ∧
    run args before = some earlier ∧ earlier.done.head? = some completed ∧
    ((callDynamicFilter returned).keep = true ∨
      ((callDynamicFilter returned).keepWhenInsufficient = true ∧
        earlier.candidates ≤ args.rolloutBatchSize))

def DroppedIn (args : RolloutArgs) (actions : List (Action S))
    (completed : CompletedTask S) : Prop :=
  ∃ before returned after earlier, actions = before ++ .examine returned :: after ∧
    run args before = some earlier ∧ earlier.done.head? = some completed ∧
    earlier.Drops args returned

omit [DecidableEq S] in
theorem kept_of_not_drops {args : RolloutArgs} {state : State S} {returned : Option FilterReturn}
    (kept : ¬ state.Drops args returned) :
    (callDynamicFilter returned).keep = true ∨
      ((callDynamicFilter returned).keepWhenInsufficient = true ∧
        state.remainingBatchSize ≤ args.rolloutBatchSize) := by
  rw [State.Drops, shouldDropDynamicFilterOutput] at kept
  split at kept
  · rename_i keep
    exact .inl keep
  · split at kept
    · rename_i insufficient
      exact .inr insufficient
    · exact absurd rfl kept

theorem SelectedIn.concat {args : RolloutArgs} {actions : List (Action S)}
    {completed : CompletedTask S} (selected : SelectedIn args actions completed)
    (action : Action S) : SelectedIn args (actions ++ [action]) completed := by
  rcases selected with ⟨before, returned, after, earlier, isActions, facts⟩
  refine ⟨before, returned, after ++ [action], earlier, ?_, facts⟩
  rw [isActions, List.append_assoc, List.cons_append]

theorem DroppedIn.of_concat {args : RolloutArgs} {actions : List (Action S)} {action : Action S}
    {state : State S} (ran : run args actions = some state) {completed : CompletedTask S}
    (dropped : DroppedIn args (actions ++ [action]) completed) :
    DroppedIn args actions completed ∨ ∃ returned, action = .examine returned ∧
      state.done.head? = some completed ∧ state.Drops args returned := by
  rcases dropped with ⟨before, returned, after, earlier, isActions, ranBefore, isDone, drops⟩
  rcases List.eq_nil_or_concat after with rfl | ⟨others, last, rfl⟩
  · rcases List.append_inj' isActions rfl with ⟨rfl, same⟩
    rw [ran, Option.some.injEq] at ranBefore
    rw [ranBefore]
    exact .inr ⟨returned, (List.cons.inj same).1, isDone, drops⟩
  · rw [List.concat_eq_append, ← List.cons_append, ← List.append_assoc] at isActions
    exact .inl ⟨before, returned, others, earlier, (List.append_inj' isActions rfl).1, ranBefore,
      isDone, drops⟩

/-- What holds of a run of the loop and the state it leads to. -/
structure BatchAccounting (args : RolloutArgs) (actions : List (Action S)) (state : State S) :
    Prop where
  /-- At every wait some task is pending, and the counter is exact. -/
  waits : state.Waits args → state.pendings ≠ [] ∧
    state.remainingBatchSize = state.pendings.length + state.data.length
  /-- When the loop ends the batch is full of distinct groups. -/
  ended : state.Ended args → state.data.length = args.rolloutBatchSize ∧
    (state.data.map CompletedTask.number).Nodup
  selected : ∀ completed ∈ state.data, SelectedIn args actions completed
  /-- A dropped group is discarded exactly once. -/
  dropped : ∀ completed, DroppedIn args actions completed →
    (state.discarded.map fun entry => entry.1.number).count completed.number = 1

theorem Accounted.of_run {args : RolloutArgs} {actions : List (Action S)} {state : State S}
    (ran : run args actions = some state) : Accounted args state := by
  apply runActions_invariant (fun _ state => Accounted args state) (.reset args) _ ran
  intro _ before action later _ accounted _ steps
  exact accounted.step steps

omit [DecidableEq S] in
theorem Accounted.waits {args : RolloutArgs} {state : State S} (accounted : Accounted args state)
    (waits : state.Waits args) : state.pendings ≠ [] ∧
      state.remainingBatchSize = state.pendings.length + state.data.length := by
  rcases waits with ⟨head, few, enough⟩
  have remaining := accounted.remaining few
  rw [State.candidates, head, List.length_nil] at remaining
  constructor
  · intro none
    rw [none, List.length_nil] at remaining
    omega
  · omega

omit [DecidableEq S] in
theorem Accounted.ended {args : RolloutArgs} {state : State S} (accounted : Accounted args state)
    (ended : state.Ended args) : state.data.length = args.rolloutBatchSize ∧
      (state.data.map CompletedTask.number).Nodup := by
  constructor
  · exact Nat.le_antisymm accounted.atMost (Nat.not_lt.mp ended.2)
  · rw [List.nodup_iff_count]
    intro number
    have once := accounted.once number
    simp only [State.numbers, List.count_append] at once
    split at once <;> omega

theorem run_selected {args : RolloutArgs} {actions : List (Action S)} {state : State S}
    (ran : run args actions = some state) :
    ∀ completed ∈ state.data, SelectedIn args actions completed := by
  apply runActions_invariant
    (fun actions state => ∀ completed ∈ state.data, SelectedIn args actions completed) _ _ ran
  · intro completed member
    cases member
  · intro actions before action later ranBefore selected _ steps completed member
    by_cases examines : ∃ returned, action = .examine returned
    · rcases examines with ⟨returned, rfl⟩
      rcases step_examine steps with ⟨head, rest, isDone, rfl⟩
      rcases examine_data with same | ⟨grown, few, kept⟩
      · rw [same] at member
        exact (selected completed member).concat _
      · rw [grown, List.mem_append, List.mem_singleton] at member
        rcases member with earlier | rfl
        · exact (selected completed earlier).concat _
        · have isHead : before.done.head? = some completed := by rw [isDone, List.head?_cons]
          refine ⟨actions, returned, [], before, rfl, ranBefore, isHead, ?_⟩
          have remaining := (Accounted.of_run ranBefore).remaining few
          rcases kept_of_not_drops (ne_true_of_eq_false kept) with keep | ⟨allowed, atMost⟩
          · exact .inl keep
          · exact .inr ⟨allowed, by omega⟩
    · have same := step_elsewhere (fun returned isExamine => examines ⟨returned, isExamine⟩) steps
      rw [same.1] at member
      exact (selected completed member).concat _

theorem run_dropped {args : RolloutArgs} (noHook : args.keepAllSamples = false)
    {actions : List (Action S)} {state : State S} (ran : run args actions = some state) :
    ∀ completed, DroppedIn args actions completed →
      completed ∈ state.discarded.map Prod.fst := by
  apply runActions_invariant (fun actions state => ∀ completed,
    DroppedIn args actions completed → completed ∈ state.discarded.map Prod.fst) _ _ ran
  · intro completed dropped
    rcases dropped with ⟨before, returned, after, _, isActions, _⟩
    cases before with
    | nil => cases isActions
    | cons first rest => cases isActions
  · intro actions before action later ranBefore discarded _ steps completed dropped
    by_cases examines : ∃ returned, action = .examine returned
    · rcases examines with ⟨returned, rfl⟩
      rcases step_examine steps with ⟨head, rest, isDone, rfl⟩
      rw [examine_discarded noHook]
      rcases dropped.of_concat ranBefore with earlier | ⟨others, same, isHead, drops⟩
      · have member := discarded completed earlier
        split
        · rw [List.map_append]
          exact List.mem_append_left _ member
        · exact member
      · cases same
        rw [isDone, List.head?_cons, Option.some.injEq] at isHead
        have shouldDrop : shouldDropDynamicFilterOutput (callDynamicFilter returned)
            before.remainingBatchSize args.rolloutBatchSize = true := drops
        rw [if_pos shouldDrop, List.map_append, isHead]
        exact List.mem_append_right _ (List.mem_singleton_self _)
    · have same := step_elsewhere (fun returned isExamine => examines ⟨returned, isExamine⟩) steps
      rw [same.2]
      rcases dropped.of_concat ranBefore with earlier | ⟨returned, isExamine, _⟩
      · exact discarded completed earlier
      · exact absurd ⟨returned, isExamine⟩ examines

omit [DecidableEq S] in
theorem Accounted.discardedOnce {args : RolloutArgs} {state : State S}
    (accounted : Accounted args state) {completed : CompletedTask S}
    (member : completed ∈ state.discarded.map Prod.fst) :
    (state.discarded.map fun entry => entry.1.number).count completed.number = 1 := by
  have once := accounted.once completed.number
  have held : completed.number ∈ state.discarded.map fun entry => entry.1.number := by
    rw [List.mem_map] at member
    rcases member with ⟨entry, inDiscarded, rfl⟩
    exact List.mem_map_of_mem inDiscarded
  have positive := List.count_pos_iff.mpr held
  simp only [State.numbers, List.count_append] at once
  split at once <;> omega

end Runs

/-- The accounting holds in every run of the loop without an all-samples hook. -/
theorem selection_accounting {S : Type} [DecidableEq S] (args : RolloutArgs)
    (noHook : args.rolloutAllSamplesProcessPath = none) (actions : List (Action S))
    (state : State S) (ran : run args actions = some state) :
    BatchAccounting args actions state := by
  have accounted := Accounted.of_run ran
  have keepsNone : args.keepAllSamples = false := by
    rw [RolloutArgs.keepAllSamples, noHook]
    rfl
  constructor
  · exact accounted.waits
  · exact accounted.ended
  · exact run_selected ran
  · intro completed dropped
    exact accounted.discardedOnce (run_dropped keepsNone ran completed dropped)

def oneOfTwo : RolloutArgs where
  rolloutBatchSize := 1
  overSamplingBatchSize := 2
  nSamplesPerPrompt := 1
  rolloutAllSamplesProcessPath := none

def dropThenKeep : List (Action Nat) :=
  [.submit [[3], [4]],
    .wait [⟨⟨1, [4]⟩, [14]⟩, ⟨⟨0, [3]⟩, [13]⟩] [],
    .examine (some (.output { keep := false, keepWhenInsufficient := true })),
    .examine (some (.output { keep := false, keepWhenInsufficient := true }))]

def keptLast : State Nat where
  remainingBatchSize := 1
  pendings := []
  done := []
  data := [⟨⟨0, [3]⟩, [13]⟩]
  allData := []
  discarded := [(⟨⟨1, [4]⟩, [14]⟩, "dynamic_filter")]
  submitted := 2

theorem selection_accounting_dropThenKeep :
    run oneOfTwo dropThenKeep = some keptLast ∧
      BatchAccounting oneOfTwo dropThenKeep keptLast :=
  have ran : run oneOfTwo dropThenKeep = some keptLast := by decide
  ⟨ran, selection_accounting oneOfTwo rfl dropThenKeep keptLast ran⟩

end Vime.Rollout.Selection
