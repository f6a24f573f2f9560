import Mathlib.Algebra.Order.Ring.Nat
import Mathlib.Algebra.Order.Ring.Rat
import Vime.Foundation.Python
import Vime.Utils.Data

/-! # Rollout data source

`vime/data/data_source.py`: the cursor over the epochs of a dataset and the prompt
groups it produces. What is produced does not depend on how the calls are split.
-/

namespace Vime.Data

open Vime.Foundation Vime.Utils

/-- A sample as the source hands it out; `content` stands for the fields that the
dataset sets (prompt, label, metadata, multimodal inputs). -/
structure Sample (P : Type) where
  content : P
  groupIndex : Nat
  index : Nat
  deriving DecidableEq, Repr

structure SourceArgs (P : Type) where
  /-- The samples of the dataset, if there is one. -/
  promptData : Option (List P)
  rolloutSeed : Int
  nSamplesPerPrompt : Nat
  rolloutShuffle : Bool
  shuffler : Shuffler
  /-- `Sample()`, used without a dataset. -/
  blank : P

structure Cursor where
  sampleOffset : Nat := 0
  epochId : Int := 0
  sampleGroupIndex : Nat := 0
  sampleIndex : Nat := 0
  metadata : List (String × String) := []
  deriving DecidableEq, Repr

structure RolloutDataSource (P : Type) extends Cursor where
  dataset : Option (Dataset P)

section Source

variable {P : Type} (args : SourceArgs P)

def shuffleIfAsked (dataset : Dataset P) (epochId : Int) : Dataset P :=
  if args.rolloutShuffle then dataset.shuffle args.shuffler epochId else dataset

def RolloutDataSource.init : RolloutDataSource P where
  dataset := args.promptData.map fun originSamples =>
    shuffleIfAsked args (Dataset.load originSamples args.rolloutSeed) 0

structure Reading (P : Type) where
  dataset : Dataset P
  epochId : Int
  sampleOffset : Nat

def Reading.roll (reading : Reading P) : Reading P :=
  if reading.sampleOffset ≥ reading.dataset.samples.length then
    { dataset := shuffleIfAsked args reading.dataset (reading.epochId + 1)
      epochId := reading.epochId + 1
      sampleOffset := 0 }
  else reading

/-- The loop of `get_samples`. Every iteration reads a sample, so as many iterations as
samples asked for are enough. -/
def Reading.draw : Nat → Nat → Reading P → List P × Reading P
  | 0, _, reading => ([], reading)
  | fuel + 1, numSamples, reading =>
      if numSamples > 0 ∧ reading.dataset.samples.length > 0 then
        let rolled := reading.roll args
        let offset := rolled.sampleOffset
        let count := min numSamples (rolled.dataset.samples.length - offset)
        let later := draw fuel (numSamples - count)
          { rolled with sampleOffset := offset + count }
        (slice rolled.dataset.samples (offset : Int) ((offset + count : Nat) : Int) ++ later.1,
          later.2)
      else ([], reading)

def RolloutDataSource.number (source : RolloutDataSource P) :
    List P → List (List (Sample P)) × RolloutDataSource P
  | [] => ([], source)
  | promptSample :: rest =>
      let group := (List.range args.nSamplesPerPrompt).map fun i =>
        ⟨promptSample, source.sampleGroupIndex, source.sampleIndex + i⟩
      let later := number
        { source with
          sampleGroupIndex := source.sampleGroupIndex + 1
          sampleIndex := source.sampleIndex + args.nSamplesPerPrompt } rest
      (group :: later.1, later.2)

def RolloutDataSource.getSamples (source : RolloutDataSource P) (numSamples : Nat) :
    List (List (Sample P)) × RolloutDataSource P :=
  match source.dataset with
  | some dataset =>
      let drawn := Reading.draw args numSamples numSamples
        ⟨dataset, source.epochId, source.sampleOffset⟩
      RolloutDataSource.number args
        { source with
          dataset := some drawn.2.dataset
          epochId := drawn.2.epochId
          sampleOffset := drawn.2.sampleOffset } drawn.1
  | none => RolloutDataSource.number args source (List.replicate numSamples args.blank)

/-! ## Reading one prompt at a time -/

def Reading.singles : Nat → Reading P → List P × Reading P
  | 0, reading => ([], reading)
  | count + 1, reading =>
      let rolled := reading.roll args
      let later := singles count { rolled with sampleOffset := rolled.sampleOffset + 1 }
      ((rolled.dataset.samples.drop rolled.sampleOffset).take 1 ++ later.1, later.2)

theorem length_shuffleIfAsked (dataset : Dataset P) (epochId : Int) :
    (shuffleIfAsked args dataset epochId).samples.length = dataset.samples.length := by
  rw [shuffleIfAsked]
  split
  · exact Dataset.length_shuffle ..
  · rfl

theorem Reading.length_roll (reading : Reading P) :
    (reading.roll args).dataset.samples.length = reading.dataset.samples.length := by
  rw [Reading.roll]
  split
  · exact length_shuffleIfAsked ..
  · rfl

theorem Reading.roll_offset {reading : Reading P}
    (nonempty : 0 < reading.dataset.samples.length) :
    (reading.roll args).sampleOffset < (reading.roll args).dataset.samples.length := by
  rw [Reading.length_roll, Reading.roll]
  split
  · exact nonempty
  · omega

theorem Reading.roll_of_lt {reading : Reading P}
    (inside : reading.sampleOffset < reading.dataset.samples.length) :
    reading.roll args = reading := by
  rw [Reading.roll, if_neg (by omega)]

theorem Reading.singles_add :
    ∀ (first second : Nat) (reading : Reading P),
      Reading.singles args (first + second) reading =
        ((Reading.singles args first reading).1 ++
            (Reading.singles args second (Reading.singles args first reading).2).1,
          (Reading.singles args second (Reading.singles args first reading).2).2)
  | 0, second, reading => by simp [Reading.singles]
  | first + 1, second, reading => by
      have later := Reading.singles_add first second
        { reading.roll args with sampleOffset := (reading.roll args).sampleOffset + 1 }
      rw [Nat.add_right_comm, Reading.singles, Reading.singles, later]
      simp only [List.append_assoc]

theorem Reading.singles_block :
    ∀ (count : Nat) (reading : Reading P),
      reading.sampleOffset + count ≤ reading.dataset.samples.length →
        Reading.singles args count reading =
          ((reading.dataset.samples.drop reading.sampleOffset).take count,
            { reading with sampleOffset := reading.sampleOffset + count })
  | 0, reading, _ => by simp [Reading.singles]
  | count + 1, reading, fits => by
      have rolled := Reading.roll_of_lt args (show reading.sampleOffset <
        reading.dataset.samples.length by omega)
      have later := Reading.singles_block count
        { reading with sampleOffset := reading.sampleOffset + 1 }
        (by dsimp only; omega)
      rw [Reading.singles, rolled, later]
      dsimp only
      rw [Nat.add_comm count 1, List.take_add, List.drop_drop, Nat.add_assoc]

theorem Reading.draw_eq_singles :
    ∀ (fuel numSamples : Nat) (reading : Reading P), numSamples ≤ fuel →
      0 < reading.dataset.samples.length →
        Reading.draw args fuel numSamples reading = Reading.singles args numSamples reading
  | 0, numSamples, reading, enough, _ => by
      rw [Nat.le_zero.mp enough, Reading.draw, Reading.singles]
  | fuel + 1, 0, reading, _, _ => by simp [Reading.draw, Reading.singles]
  | fuel + 1, more + 1, reading, enough, nonempty => by
      rw [Reading.draw, if_pos ⟨Nat.succ_pos more, nonempty⟩]
      have inside := Reading.roll_offset args nonempty
      have sameLength := Reading.length_roll args reading
      generalize rolledEq : reading.roll args = rolled at inside sameLength
      dsimp only
      generalize countEq : min (more + 1)
        (rolled.dataset.samples.length - rolled.sampleOffset) = count
      have later := Reading.draw_eq_singles fuel (more + 1 - count)
        { rolled with sampleOffset := rolled.sampleOffset + count } (by omega)
        (by dsimp only; omega)
      have block := Reading.singles_block args count rolled (by omega)
      have unrolled : Reading.singles args (more + 1) reading =
          Reading.singles args (more + 1) rolled := by
        rw [Reading.singles, Reading.singles, rolledEq, Reading.roll_of_lt args inside]
      have split : more + 1 = count + (more + 1 - count) := by omega
      rw [later, unrolled]
      conv_rhs => rw [split, Reading.singles_add, block]
      rw [slice_natCast, List.drop_take, Nat.add_sub_cancel_left]

theorem Reading.draw_of_empty {reading : Reading P}
    (empty : reading.dataset.samples.length = 0) (numSamples : Nat) :
    ∀ fuel : Nat, Reading.draw args fuel numSamples reading = ([], reading)
  | 0 => rfl
  | fuel + 1 => by
      rw [Reading.draw, if_neg]
      omega

theorem Reading.length_singles :
    ∀ (count : Nat) (reading : Reading P),
      (Reading.singles args count reading).2.dataset.samples.length =
        reading.dataset.samples.length
  | 0, _ => rfl
  | count + 1, reading => by
      rw [Reading.singles]
      dsimp only
      rw [Reading.length_singles count, Reading.length_roll]

theorem Reading.draw_add (first second : Nat) (reading : Reading P) :
    Reading.draw args (first + second) (first + second) reading =
      ((Reading.draw args first first reading).1 ++
          (Reading.draw args second second (Reading.draw args first first reading).2).1,
        (Reading.draw args second second (Reading.draw args first first reading).2).2) := by
  rcases Nat.eq_zero_or_pos reading.dataset.samples.length with empty | nonempty
  · simp only [Reading.draw_of_empty args empty, List.append_nil]
  · have later := Reading.length_singles args first reading
    rw [Reading.draw_eq_singles args _ _ reading (Nat.le_refl _) nonempty,
      Reading.draw_eq_singles args _ _ reading (Nat.le_refl _) nonempty,
      Reading.draw_eq_singles args _ _ _ (Nat.le_refl _) (by rwa [later]), Reading.singles_add]

/-! ## Splitting calls -/

theorem RolloutDataSource.number_append :
    ∀ (first second : List P) (source : RolloutDataSource P),
      source.number args (first ++ second) =
        ((source.number args first).1 ++ ((source.number args first).2.number args second).1,
          ((source.number args first).2.number args second).2)
  | [], second, source => by simp [RolloutDataSource.number]
  | prompt :: rest, second, source => by
      simp only [List.cons_append, RolloutDataSource.number]
      rw [RolloutDataSource.number_append rest second]

theorem RolloutDataSource.number_source :
    ∀ (prompts : List P) (source : RolloutDataSource P),
      (source.number args prompts).2 =
        { source with
          sampleGroupIndex := source.sampleGroupIndex + prompts.length
          sampleIndex := source.sampleIndex + prompts.length * args.nSamplesPerPrompt }
  | [], source => by simp [RolloutDataSource.number]
  | prompt :: rest, source => by
      rw [RolloutDataSource.number, RolloutDataSource.number_source rest]
      simp only [List.length_cons, Nat.succ_mul]
      congr 2
      · omega
      · omega

theorem RolloutDataSource.number_groups :
    ∀ (prompts : List P) (source other : RolloutDataSource P),
      source.sampleGroupIndex = other.sampleGroupIndex →
        source.sampleIndex = other.sampleIndex →
          (source.number args prompts).1 = (other.number args prompts).1
  | [], _, _, _, _ => rfl
  | prompt :: rest, source, other, sameGroup, sameIndex => by
      rw [RolloutDataSource.number, RolloutDataSource.number]
      dsimp only
      rw [sameGroup, sameIndex]
      congr 1
      exact RolloutDataSource.number_groups rest _ _ rfl rfl

theorem RolloutDataSource.getSamples_add (source : RolloutDataSource P)
    (first second : Nat) :
    source.getSamples args (first + second) =
      ((source.getSamples args first).1 ++
          ((source.getSamples args first).2.getSamples args second).1,
        ((source.getSamples args first).2.getSamples args second).2) := by
  cases datasetEq : source.dataset with
  | none =>
      have laterEq : (source.number args (List.replicate first args.blank)).2.dataset =
          none := by
        rw [RolloutDataSource.number_source]
        exact datasetEq
      simp only [RolloutDataSource.getSamples, datasetEq, laterEq]
      rw [List.replicate_add, RolloutDataSource.number_append]
  | some dataset =>
      have drawn := Reading.draw_add args first second
        ⟨dataset, source.epochId, source.sampleOffset⟩
      simp only [RolloutDataSource.getSamples, datasetEq]
      rw [drawn]
      simp only [RolloutDataSource.number_source, RolloutDataSource.number_append]
      congr 2
      exact RolloutDataSource.number_groups args _ _ _ rfl rfl

end Source

end Vime.Data
