import Vime.Data.DataSource

/-! # The stream of a data source

What an uninterrupted source produces, and what every source in memory keeps of the
dataset of its arguments.
-/

namespace Vime.Data

open Vime.Foundation Vime.Utils

section Source

variable {P : Type} {args : SourceArgs P}

/-! ## What every in-memory source keeps -/

structure DatasetKept (args : SourceArgs P) (originSamples : List P) (dataset : Dataset P) :
    Prop where
  origin : dataset.originSamples = originSamples
  seed : dataset.seed = args.rolloutSeed
  arranged : args.rolloutShuffle = true → dataset.Arranged args.shuffler
  unshuffled : args.rolloutShuffle = false →
    dataset = Dataset.load originSamples args.rolloutSeed

def SourceKept (args : SourceArgs P) (source : RolloutDataSource P) : Prop :=
  Option.Rel (DatasetKept args) args.promptData source.dataset

theorem DatasetKept.shuffleIfAsked {originSamples : List P} {dataset : Dataset P}
    (kept : DatasetKept args originSamples dataset) (epochId : Int) :
    DatasetKept args originSamples (shuffleIfAsked args dataset epochId) := by
  rw [Data.shuffleIfAsked]
  by_cases shuffles : args.rolloutShuffle = true
  · rw [if_pos shuffles]
    refine ⟨?_, ?_, fun asked => ?_, fun notAsked => ?_⟩
    · rw [Dataset.shuffle_originSamples, kept.origin]
    · rw [Dataset.shuffle_seed, kept.seed]
    · exact Dataset.shuffle_arranged (kept.arranged asked) epochId
    · rw [shuffles] at notAsked
      cases notAsked
  · rw [if_neg shuffles]
    exact kept

theorem DatasetKept.load (originSamples : List P) :
    DatasetKept args originSamples (Dataset.load originSamples args.rolloutSeed) := by
  refine ⟨rfl, rfl, fun _ isEpoch => ?_, fun _ => rfl⟩
  -- A dataset that was never shuffled has epoch -1.
  exact absurd isEpoch (show ¬ (0 : Int) ≤ -1 by decide)

structure ReadingSynced (args : SourceArgs P) (originSamples : List P)
    (reading : Reading P) : Prop where
  kept : DatasetKept args originSamples reading.dataset
  isEpoch : 0 ≤ reading.epochId
  atEpoch : args.rolloutShuffle = true → reading.dataset.epochId = reading.epochId

theorem ReadingSynced.roll {originSamples : List P} {reading : Reading P}
    (synced : ReadingSynced args originSamples reading) :
    ReadingSynced args originSamples (reading.roll args) := by
  rw [Reading.roll]
  split
  · refine ⟨synced.kept.shuffleIfAsked _, Int.add_nonneg synced.isEpoch (by decide), ?_⟩
    intro shuffles
    dsimp only
    rw [Data.shuffleIfAsked, if_pos shuffles, Dataset.shuffle_epochId]
  · exact synced

theorem ReadingSynced.draw {originSamples : List P} :
    ∀ (fuel numSamples : Nat) {reading : Reading P},
      ReadingSynced args originSamples reading →
        ReadingSynced args originSamples (Reading.draw args fuel numSamples reading).2
  | 0, _, _, synced => synced
  | fuel + 1, numSamples, reading, synced => by
      rw [Reading.draw]
      split
      · have rolled := synced.roll
        exact ReadingSynced.draw fuel _ ⟨rolled.kept, rolled.isEpoch, rolled.atEpoch⟩
      · exact synced

theorem DatasetKept.draw {originSamples : List P} :
    ∀ (fuel numSamples : Nat) {reading : Reading P},
      DatasetKept args originSamples reading.dataset →
        DatasetKept args originSamples
          (Reading.draw args fuel numSamples reading).2.dataset
  | 0, _, _, kept => kept
  | fuel + 1, numSamples, reading, kept => by
      rw [Reading.draw]
      split
      · apply DatasetKept.draw fuel
        dsimp only
        rw [Reading.roll]
        split
        · exact kept.shuffleIfAsked _
        · exact kept
      · exact kept

theorem SourceKept.getSamples {source : RolloutDataSource P}
    (kept : SourceKept args source) (numSamples : Nat) :
    SourceKept args (source.getSamples args numSamples).2 := by
  rw [SourceKept] at kept ⊢
  rw [RolloutDataSource.getSamples]
  generalize promptEq : args.promptData = promptData at kept
  generalize datasetEq : source.dataset = held at kept
  cases kept with
  | none =>
      dsimp only
      rw [RolloutDataSource.number_source, datasetEq]
      exact Option.Rel.none
  | some keptDataset =>
      dsimp only
      rw [RolloutDataSource.number_source]
      exact Option.Rel.some (DatasetKept.draw _ _ keptDataset)

theorem SourceKept.init : SourceKept args (RolloutDataSource.init args) := by
  rw [SourceKept, RolloutDataSource.init]
  cases args.promptData with
  | none => exact Option.Rel.none
  | some originSamples =>
      exact Option.Rel.some ((DatasetKept.load originSamples).shuffleIfAsked 0)

/-! ## The reference stream -/

def reference (args : SourceArgs P) (count : Nat) :
    List (List (Sample P)) × RolloutDataSource P :=
  (RolloutDataSource.init args).getSamples args count

def drawNext (args : SourceArgs P)
    (produced : List (List (Sample P)) × RolloutDataSource P) (numSamples : Nat) :
    List (List (Sample P)) × RolloutDataSource P :=
  (produced.1 ++ (produced.2.getSamples args numSamples).1,
    (produced.2.getSamples args numSamples).2)

def uninterrupted (args : SourceArgs P) (calls : List Nat) :
    List (List (Sample P)) × RolloutDataSource P :=
  calls.foldl (drawNext args) ([], RolloutDataSource.init args)

theorem reference_add (first second : Nat) :
    reference args (first + second) = drawNext args (reference args first) second :=
  RolloutDataSource.getSamples_add args _ first second

theorem reference_zero : reference args 0 = ([], RolloutDataSource.init args) := by
  rw [reference, RolloutDataSource.getSamples]
  cases datasetEq : (RolloutDataSource.init args).dataset with
  | none => rfl
  | some dataset =>
      simp only [Reading.draw, RolloutDataSource.number]
      rw [← datasetEq]

/-- The stream does not depend on how the calls divide it. -/
theorem uninterrupted_eq_reference (calls : List Nat) :
    uninterrupted args calls = reference args calls.sum := by
  have fromReference : ∀ (calls : List Nat) (before : Nat),
      calls.foldl (drawNext args) (reference args before) =
        reference args (before + calls.sum) := by
    intro calls
    induction calls with
    | nil => exact fun before => rfl
    | cons count rest induction =>
        intro before
        rw [List.foldl_cons, ← reference_add, induction, List.sum_cons, Nat.add_assoc]
  have whole := fromReference calls 0
  rwa [reference_zero, Nat.zero_add] at whole

structure SourceSynced (args : SourceArgs P) (source : RolloutDataSource P) : Prop where
  kept : SourceKept args source
  isEpoch : 0 ≤ source.epochId
  atEpoch : args.rolloutShuffle = true → ∀ dataset ∈ source.dataset,
    dataset.epochId = source.epochId

theorem SourceSynced.init : SourceSynced args (RolloutDataSource.init args) := by
  refine ⟨SourceKept.init, Int.le_refl 0, fun shuffles dataset member => ?_⟩
  rw [RolloutDataSource.init] at member
  rcases Option.map_eq_some_iff.mp member with ⟨originSamples, _, rfl⟩
  rw [Data.shuffleIfAsked, if_pos shuffles, Dataset.shuffle_epochId]
  rfl

theorem SourceSynced.getSamples {source : RolloutDataSource P}
    (synced : SourceSynced args source) (numSamples : Nat) :
    SourceSynced args (source.getSamples args numSamples).2 := by
  have kept := synced.kept.getSamples numSamples
  have relation := synced.kept
  rw [SourceKept] at relation
  rw [RolloutDataSource.getSamples] at kept ⊢
  generalize promptEq : args.promptData = promptData at relation
  generalize datasetEq : source.dataset = held at relation kept ⊢
  cases relation with
  | none =>
      refine ⟨kept, ?_, fun _ dataset member => ?_⟩
      · rw [RolloutDataSource.number_source]
        exact synced.isEpoch
      · rw [RolloutDataSource.number_source] at member
        dsimp only at member
        rw [datasetEq] at member
        cases member
  | @some originSamples dataset keptDataset =>
      have reading : ReadingSynced args originSamples
          ⟨dataset, source.epochId, source.sampleOffset⟩ :=
        ⟨keptDataset, synced.isEpoch, fun shuffles =>
          synced.atEpoch shuffles dataset datasetEq⟩
      have drawn := reading.draw numSamples numSamples
      refine ⟨kept, ?_, fun shuffles later member => ?_⟩
      · rw [RolloutDataSource.number_source]
        exact drawn.isEpoch
      · rw [RolloutDataSource.number_source] at member ⊢
        rw [← Option.some.inj member]
        exact drawn.atEpoch shuffles

theorem reference_synced (count : Nat) : SourceSynced args (reference args count).2 :=
  SourceSynced.init.getSamples count

/-! ## Positions in the stream -/

theorem length_number :
    ∀ (prompts : List P) (source : RolloutDataSource P),
      (source.number args prompts).1.length = prompts.length
  | [], _ => rfl
  | prompt :: rest, source => by
      rw [RolloutDataSource.number, List.length_cons, length_number rest, List.length_cons]

variable (args) in
theorem Reading.singles_count :
    ∀ (count : Nat) (reading : Reading P), 0 < reading.dataset.samples.length →
      (Reading.singles args count reading).1.length = count
  | 0, _, _ => rfl
  | count + 1, reading, nonempty => by
      have inside := Reading.roll_offset args nonempty
      rw [Reading.singles, List.length_append, Reading.singles_count count]
      · rw [List.length_take, List.length_drop]
        omega
      · dsimp only
        rwa [Reading.length_roll]


def promptAt (args : SourceArgs P) (originSamples : List P) (position : Nat) : Option P :=
  let epoch := position / originSamples.length
  let index := position % originSamples.length
  (if args.rolloutShuffle then
    (args.shuffler.order (args.rolloutSeed + epoch) originSamples.length)[index]?
  else some index).bind (originSamples[·]?)

def streamGroup (args : SourceArgs P) (originSamples : List P) (position : Nat) :
    Option (List (Sample P)) :=
  (promptAt args originSamples position).map fun prompt =>
    (List.range args.nSamplesPerPrompt).map fun i =>
      ⟨prompt, position, position * args.nSamplesPerPrompt + i⟩

/-- A cursor standing at a position. At the end of an epoch the offset may be the size of
the dataset, as the next epoch starts only when it is read. -/
structure CursorAt (args : SourceArgs P) (originSamples : List P) (position : Nat)
    (cursor : Cursor) : Prop where
  isEpoch : 0 ≤ cursor.epochId
  absolute : cursor.epochId * originSamples.length + cursor.sampleOffset = position
  offset : cursor.sampleOffset ≤ originSamples.length
  group : cursor.sampleGroupIndex = position
  sample : cursor.sampleIndex = position * args.nSamplesPerPrompt

theorem Dataset.getElem?_ordered {originSamples : List P} {permutation : List Nat}
    (perm : permutation.Perm (List.range originSamples.length)) (index : Nat) :
    (Dataset.ordered originSamples permutation)[index]? =
      permutation[index]?.bind (originSamples[·]?) := by
  have inside : ∀ i ∈ permutation, i < originSamples.length := by
    intro i member
    exact List.mem_range.mp (perm.mem_iff.mp member)
  clear perm
  induction permutation generalizing index with
  | nil => rfl
  | cons first rest induction =>
      have firstInside := inside first (by simp)
      rw [Dataset.ordered, List.filterMap_cons, List.getElem?_eq_getElem firstInside]
      cases index with
      | zero => simp [firstInside]
      | succ index =>
          exact induction index fun i member => inside i (List.mem_cons_of_mem _ member)

theorem ReadingSynced.prompt {originSamples : List P} {reading : Reading P}
    (synced : ReadingSynced args originSamples reading) {position : Nat}
    (absolute : reading.epochId * originSamples.length + reading.sampleOffset = position)
    (inside : reading.sampleOffset < originSamples.length) :
    reading.dataset.samples[reading.sampleOffset]? = promptAt args originSamples position := by
  rcases Int.eq_ofNat_of_zero_le synced.isEpoch with ⟨epoch, epochEq⟩
  have natural : position = originSamples.length * epoch + reading.sampleOffset := by
    rw [epochEq, Int.mul_comm] at absolute
    exact_mod_cast absolute.symm
  have quotient : position / originSamples.length = epoch := by
    rw [natural, Nat.mul_add_div (by omega), Nat.div_eq_of_lt inside, Nat.add_zero]
  have remainder : position % originSamples.length = reading.sampleOffset := by
    rw [natural, Nat.mul_add_mod, Nat.mod_eq_of_lt inside]
  rw [promptAt, quotient, remainder]
  by_cases shuffles : args.rolloutShuffle = true
  · have atEpoch := synced.atEpoch shuffles
    rw [if_pos shuffles, synced.kept.arranged shuffles (atEpoch ▸ synced.isEpoch), atEpoch,
      synced.kept.origin, synced.kept.seed, epochEq,
      Dataset.getElem?_ordered (args.shuffler.perm _ _)]
  · have unshuffled := synced.kept.unshuffled (by simpa using shuffles)
    rw [if_neg shuffles, unshuffled, Option.bind_some, Dataset.load]

theorem ReadingSynced.samples_length {originSamples : List P} {reading : Reading P}
    (synced : ReadingSynced args originSamples reading) :
    reading.dataset.samples.length = originSamples.length := by
  rw [reading.dataset.sized, synced.kept.origin]

structure ReadingAt (args : SourceArgs P) (originSamples : List P) (position : Nat)
    (reading : Reading P) : Prop where
  synced : ReadingSynced args originSamples reading
  absolute : reading.epochId * originSamples.length + reading.sampleOffset = position
  offset : reading.sampleOffset ≤ originSamples.length

/-- Starting the next epoch does not move the position. -/
theorem ReadingAt.roll {originSamples : List P} {position : Nat} {reading : Reading P}
    (standing : ReadingAt args originSamples position reading) :
    ReadingAt args originSamples position (reading.roll args) := by
  have rolled := standing.synced.roll
  have sized := standing.synced.samples_length
  refine ⟨rolled, ?_, ?_⟩
  · rw [Reading.roll]
    split
    case isTrue used =>
      have atEnd : reading.sampleOffset = originSamples.length := by
        have bounded := standing.offset
        omega
      have absolute := standing.absolute
      rw [atEnd] at absolute
      dsimp only
      rw [Int.add_mul, Int.one_mul, Int.natCast_zero, Int.add_zero]
      exact absolute
    case isFalse => exact standing.absolute
  · rw [Reading.roll]
    split
    · exact Nat.zero_le _
    · exact standing.offset

theorem ReadingAt.singles {originSamples : List P} (nonempty : 0 < originSamples.length) :
    ∀ (count : Nat) {position : Nat} {reading : Reading P},
      ReadingAt args originSamples position reading →
        (Reading.singles args count reading).1.map some =
            (List.range' position count).map (promptAt args originSamples) ∧
          ReadingAt args originSamples (position + count)
            (Reading.singles args count reading).2
  | 0, _, _, standing => ⟨rfl, standing⟩
  | count + 1, position, reading, standing => by
      have rolled := standing.roll
      have sized := rolled.synced.samples_length
      have notEmpty : 0 < reading.dataset.samples.length := by
        rw [standing.synced.samples_length]
        exact nonempty
      have inside := Reading.roll_offset args notEmpty
      have prompt := rolled.synced.prompt rolled.absolute (sized ▸ inside)
      have next : ReadingAt args originSamples (position + 1)
          { reading.roll args with sampleOffset := (reading.roll args).sampleOffset + 1 } := by
        refine ⟨⟨rolled.synced.kept, rolled.synced.isEpoch, rolled.synced.atEpoch⟩, ?_, ?_⟩
        · have absolute := rolled.absolute
          push_cast
          rw [← absolute, Int.add_assoc]
        · rw [← sized]
          exact inside
      have later := ReadingAt.singles nonempty count next
      rw [Reading.singles]
      dsimp only
      refine ⟨?_, ?_⟩
      · rw [List.map_append, later.1, List.range'_succ, List.map_cons, ← prompt,
          List.getElem?_eq_getElem inside, List.drop_eq_getElem_cons inside]
        rfl
      · rw [Nat.add_comm count 1, ← Nat.add_assoc]
        exact later.2

theorem number_groups_at {originSamples : List P} :
    ∀ (prompts : List P) {position : Nat} {source : RolloutDataSource P},
      source.sampleGroupIndex = position →
        source.sampleIndex = position * args.nSamplesPerPrompt →
          prompts.map some =
              (List.range' position prompts.length).map (promptAt args originSamples) →
            (source.number args prompts).1.map some =
              (List.range' position prompts.length).map (streamGroup args originSamples)
  | [], _, _, _, _, _ => rfl
  | prompt :: rest, position, source, group, sample, streamed => by
      rw [List.length_cons, List.range'_succ, List.map_cons, List.map_cons,
        List.cons.injEq] at streamed
      have nextSample : source.sampleIndex + args.nSamplesPerPrompt =
          (position + 1) * args.nSamplesPerPrompt := by
        rw [sample, Nat.succ_mul]
      have numbered : ∀ next : RolloutDataSource P, next.sampleGroupIndex = position + 1 →
          next.sampleIndex = (position + 1) * args.nSamplesPerPrompt →
            (next.number args rest).1.map some =
              (List.range' (position + 1) rest.length).map (streamGroup args originSamples) :=
        fun next nextGroup nextIndex => number_groups_at rest nextGroup nextIndex streamed.2
      have later := numbered
        { source with
          sampleGroupIndex := source.sampleGroupIndex + 1
          sampleIndex := source.sampleIndex + args.nSamplesPerPrompt }
        (congrArg (· + 1) group) nextSample
      rw [RolloutDataSource.number, List.map_cons, later, List.length_cons, List.range'_succ,
        List.map_cons, streamGroup, ← streamed.1, group, sample]
      rfl

structure SourceAt (args : SourceArgs P) (originSamples : List P) (position : Nat)
    (source : RolloutDataSource P) : Prop where
  synced : SourceSynced args source
  cursor : CursorAt args originSamples position source.toCursor

theorem SourceAt.init {originSamples : List P} :
    SourceAt args originSamples 0 (RolloutDataSource.init args) :=
  ⟨SourceSynced.init, ⟨Int.le_refl 0, by simp [RolloutDataSource.init], Nat.zero_le _, rfl,
    (Nat.zero_mul _).symm⟩⟩

/-- The step lemma: a call reads the next groups of the stream. -/
theorem SourceAt.getSamples {originSamples : List P} {position : Nat}
    {source : RolloutDataSource P} (standing : SourceAt args originSamples position source)
    (promptData : args.promptData = some originSamples) (nonempty : 0 < originSamples.length)
    (numSamples : Nat) :
    (source.getSamples args numSamples).1.map some =
        (List.range' position numSamples).map (streamGroup args originSamples) ∧
      SourceAt args originSamples (position + numSamples)
        (source.getSamples args numSamples).2 := by
  have syncedLater := standing.synced.getSamples numSamples
  have kept := standing.synced.kept
  rw [SourceKept, promptData] at kept
  rw [RolloutDataSource.getSamples] at syncedLater ⊢
  generalize datasetEq : source.dataset = held at kept syncedLater ⊢
  cases kept with
  | @some _ dataset keptDataset =>
      have reading : ReadingAt args originSamples position
          ⟨dataset, source.epochId, source.sampleOffset⟩ :=
        ⟨⟨keptDataset, standing.synced.isEpoch, fun shuffles =>
          standing.synced.atEpoch shuffles dataset datasetEq⟩,
          standing.cursor.absolute, standing.cursor.offset⟩
      have notEmpty : 0 < dataset.samples.length := by
        rw [reading.synced.samples_length]
        exact nonempty
      have drawn := reading.singles nonempty numSamples
      dsimp only at syncedLater ⊢
      rw [Reading.draw_eq_singles args numSamples numSamples _ (Nat.le_refl _) notEmpty]
        at syncedLater ⊢
      have counted := Reading.singles_count args numSamples
        ⟨dataset, source.epochId, source.sampleOffset⟩ notEmpty
      generalize Reading.singles args numSamples
        ⟨dataset, source.epochId, source.sampleOffset⟩ = read at drawn counted syncedLater ⊢
      constructor
      · have streamed := drawn.1
        rw [← counted] at streamed
        have numbered := number_groups_at _ standing.cursor.group standing.cursor.sample streamed
        rw [counted] at numbered
        rw [← numbered]
        congr 1
        exact RolloutDataSource.number_groups args _ _ _ rfl rfl
      · refine ⟨syncedLater, ?_⟩
        rw [RolloutDataSource.number_source, counted]
        refine ⟨drawn.2.synced.isEpoch, drawn.2.absolute, drawn.2.offset, ?_, ?_⟩
        · exact congrArg (· + numSamples) standing.cursor.group
        · dsimp only
          rw [standing.cursor.sample, Nat.add_mul]

end Source

end Vime.Data
