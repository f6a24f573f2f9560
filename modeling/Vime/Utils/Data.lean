import Mathlib.Data.List.Basic
import Mathlib.Data.List.Perm.Basic

/-! # Datasets

`vime/utils/data.py`: the samples of a dataset and the order an epoch gives them.
-/

namespace Vime.Utils

/-- `random.Random(seed).shuffle` of `range(length)`. -/
structure Shuffler where
  order : Int → Nat → List Nat
  perm : ∀ seed length, (order seed length).Perm (List.range length)

/-- `epochId` is `-1` until the first shuffle. -/
structure Dataset (P : Type) where
  originSamples : List P
  seed : Int
  epochId : Int := -1
  samples : List P := originSamples
  sized : samples.length = originSamples.length

namespace Dataset

variable {P : Type}

def load (originSamples : List P) (seed : Int) : Dataset P where
  originSamples := originSamples
  seed := seed
  sized := rfl

/-- `[origin_samples[i] for i in permutation]`. -/
def ordered (originSamples : List P) (permutation : List Nat) : List P :=
  permutation.filterMap fun i => originSamples[i]?

theorem length_ordered {originSamples : List P} {permutation : List Nat}
    (perm : permutation.Perm (List.range originSamples.length)) :
    (ordered originSamples permutation).length = originSamples.length := by
  have inside : ∀ i ∈ permutation, (originSamples[i]?).isSome := by
    intro i member
    have bounded := List.mem_range.mp (perm.mem_iff.mp member)
    simp [bounded]
  rw [ordered, List.filterMap_length_eq_length.mpr inside, perm.length_eq, List.length_range]

def shuffle (shuffler : Shuffler) (dataset : Dataset P) (newEpochId : Int) : Dataset P :=
  if dataset.epochId = newEpochId then dataset
  else
    { dataset with
      samples := ordered dataset.originSamples
        (shuffler.order (dataset.seed + newEpochId) dataset.samples.length)
      epochId := newEpochId
      sized := by
        rw [dataset.sized]
        exact length_ordered (shuffler.perm _ _) }

def Arranged (shuffler : Shuffler) (dataset : Dataset P) : Prop :=
  0 ≤ dataset.epochId → dataset.samples = ordered dataset.originSamples
    (shuffler.order (dataset.seed + dataset.epochId) dataset.originSamples.length)

theorem shuffle_eq {shuffler : Shuffler} {dataset other : Dataset P} {epochId : Int}
    (arranged : dataset.Arranged shuffler) (otherArranged : other.Arranged shuffler)
    (sameOrigin : dataset.originSamples = other.originSamples)
    (sameSeed : dataset.seed = other.seed) (isEpoch : 0 ≤ epochId)
    (atEpoch : other.epochId = epochId) : dataset.shuffle shuffler epochId = other := by
  have shuffled := otherArranged (atEpoch ▸ isEpoch)
  rw [shuffle]
  split
  case isTrue already =>
    have held := arranged (already ▸ isEpoch)
    cases dataset
    cases other
    simp_all
  case isFalse =>
    cases dataset
    cases other
    simp_all

theorem shuffle_arranged {shuffler : Shuffler} {dataset : Dataset P}
    (arranged : dataset.Arranged shuffler) (epochId : Int) :
    (dataset.shuffle shuffler epochId).Arranged shuffler := by
  rw [shuffle]
  split
  · exact arranged
  · intro _
    dsimp only
    rw [dataset.sized]

@[simp] theorem shuffle_originSamples (shuffler : Shuffler) (dataset : Dataset P)
    (epochId : Int) :
    (dataset.shuffle shuffler epochId).originSamples = dataset.originSamples := by
  rw [shuffle]
  split <;> rfl

@[simp] theorem shuffle_seed (shuffler : Shuffler) (dataset : Dataset P) (epochId : Int) :
    (dataset.shuffle shuffler epochId).seed = dataset.seed := by
  rw [shuffle]
  split <;> rfl

@[simp] theorem shuffle_epochId (shuffler : Shuffler) (dataset : Dataset P)
    (epochId : Int) : (dataset.shuffle shuffler epochId).epochId = epochId := by
  rw [shuffle]
  split
  · assumption
  · rfl

theorem length_shuffle (shuffler : Shuffler) (dataset : Dataset P) (epochId : Int) :
    (dataset.shuffle shuffler epochId).samples.length = dataset.samples.length := by
  rw [(dataset.shuffle shuffler epochId).sized, dataset.sized, shuffle_originSamples]

end Dataset

end Vime.Utils
