import Vime.Backends.MegatronUtils.BatchAdvantages

/-! # Batched returns under context parallelism

`get_reinforce_plus_plus_returns` of `vime/utils/ppo_utils.py`, and the contract of both batched
estimators: scans satisfy the recurrence, and every sample gets the slice of its own.
-/

namespace Vime.Backends.MegatronUtils

open Vime.Foundation Vime.Utils

/-- The tensors of a sample on every rank, with what `get_reinforce_plus_plus_returns` reads. -/
structure RankedKl (R : Type) where
  totalLength : Nat
  responseLength : Nat
  reward : R
  lossMask : List Int
  kl : Nat → List R

section Source

variable {R : Type} [CommRing R]

/-- `full_mask.nonzero(as_tuple=True)[0]`. -/
def nonzeroIndices (mask : List Int) : List Nat :=
  (List.range mask.length).filter fun index => mask.getD index 0 ≠ 0

def rewardsForSeq (klCoef reward : R) (index : Nat) (fullKl : List R) (fullMask : List Int) :
    Except PyException (List R) := do
  raiseIf (¬ 0 < fullMask.sum) (.assertionError s!"Sequence at index {index} is fully masked.")
  let maskedKl := List.zipWith (fun kl (mask : Int) => kl * (mask : R)) fullKl fullMask
  let lastIdx ← lastItem (nonzeroIndices fullMask)
  pure ((maskedKl.map (-klCoef * ·)).modify lastIdx (· + reward))

variable [DecidableEq R]

def returnsChunks (cpSize cpRank : Nat) (gamma : R) (batch : List (RankedKl R))
    (tokenLevelRewards : List (List R)) : Except PyException (List (List R)) := do
  let maxLen := maxLength (tokenLevelRewards.map List.length)
  let paddedRewards ← tokenLevelRewards.mapM fun row => zeroRow maxLen row.length row
  let paddedReturns := (Batch.ofRows paddedRewards).chunkedDiscountedReturns gamma 128
  (batch.zip (tokenLevelRewards.zip paddedReturns)).mapM fun (sample, rewards, returns) =>
    keptChunk cpSize cpRank sample.totalLength sample.responseLength
      (returns.take rewards.length)

def getReinforcePlusPlusReturns (cpSize cpRank : Nat) (klCoef gamma : R)
    (batch : List (RankedKl R)) : Except PyException (List (List R)) := do
  let tokenLevelRewards ← batch.zipIdx.mapM fun (sample, index) => do
    let fullKl ← gatheredResponse cpSize cpRank sample.kl sample.totalLength sample.responseLength
    rewardsForSeq klCoef sample.reward index fullKl sample.lossMask
  if tokenLevelRewards = [] then pure []
  else returnsChunks cpSize cpRank gamma batch tokenLevelRewards

end Source

/-! ## Whole samples -/

/-- A sample with its whole KL and mask. -/
structure KlSample (R : Type) where
  totalLength : Nat
  responseLength : Nat
  reward : R
  lossMask : List Int
  kl : List R
  maskLength : lossMask.length = responseLength
  klLength : kl.length = responseLength

namespace KlSample

variable {R : Type} [CommRing R]

def sharded (cpSize : Nat) (sample : KlSample R) : Except PyException (RankedKl R) := do
  let kl ← slices cpSize sample.totalLength sample.responseLength sample.kl
  pure ⟨sample.totalLength, sample.responseLength, sample.reward, sample.lossMask, kl⟩

def ranked (cpSize : Nat) (sample : KlSample R) : RankedKl R where
  totalLength := sample.totalLength
  responseLength := sample.responseLength
  reward := sample.reward
  lossMask := sample.lossMask
  kl := heldSlices cpSize sample.totalLength sample.responseLength sample.kl

theorem sharded_eq (cpSize : Nat) (sample : KlSample R) :
    sample.sharded cpSize = .ok (sample.ranked cpSize) := by
  rw [sharded, slices_eq cpSize sample.totalLength sample.klLength, ok_bind, pure_eq_ok, ranked]

def returns (klCoef gamma : R) (index : Nat) (sample : KlSample R) :
    Except PyException (List R) :=
  (rewardsForSeq klCoef sample.reward index sample.kl sample.lossMask).map
    (discountedReturns gamma)

def localReturns (cpSize cpRank : Nat) (klCoef gamma : R) (entry : KlSample R × Nat) :
    Except PyException (List R) := do
  let row ← entry.1.returns klCoef gamma entry.2
  sliceLogProbWithCp cpSize cpRank row entry.1.totalLength entry.1.responseLength

end KlSample

section Run

variable {R : Type} [CommRing R]

theorem take_paddedReturns (gamma : R) (pad : Nat) (row : List R) :
    (discountedReturns gamma (row ++ List.replicate pad 0)).take row.length =
      discountedReturns gamma row := by
  rw [discountedReturns_append_zeros, List.take_left' (length_discountedReturns gamma row)]

theorem length_rewardsForSeq {klCoef reward : R} {index : Nat} {fullKl rewards : List R}
    {fullMask : List Int} (sameLength : fullMask.length = fullKl.length)
    (returned : rewardsForSeq klCoef reward index fullKl fullMask = .ok rewards) :
    rewards.length = fullKl.length := by
  rw [rewardsForSeq] at returned
  rcases bind_eq_ok.mp returned with ⟨_, _, more⟩
  rcases bind_eq_ok.mp more with ⟨lastIdx, _, isRewards⟩
  rw [← Except.ok.inj isRewards, List.length_modify, List.length_map, List.length_zipWith,
    sameLength, Nat.min_self]

variable [DecidableEq R] {cpSize cpRank : Nat}

def reinforcePlusPlusRun (cpSize cpRank : Nat) (klCoef gamma : R) (samples : List (KlSample R)) :
    Except PyException (List (List R)) := do
  let batch ← samples.mapM (KlSample.sharded cpSize)
  getReinforcePlusPlusReturns cpSize cpRank klCoef gamma batch

def gaeRun (cpSize cpRank : Nat) (gamma lambd : R) (chunked : Bool)
    (samples : List (GaeSample R)) : Except PyException (List (List R) × List (List R)) := do
  let batch ← samples.mapM (GaeSample.sharded cpSize)
  getAdvantagesAndReturnsBatch cpSize cpRank gamma lambd chunked batch

omit [DecidableEq R] in
theorem cutRows_eq (isRank : cpRank < cpSize) (gamma : R) (maxLen : Nat) :
    ∀ {samples : List (KlSample R)} {rows : List (List R)},
      List.Forall₂ (fun sample row => row.length = sample.responseLength) samples rows →
        (((samples.map (KlSample.ranked cpSize)).zip (rows.zip (rows.map fun row =>
            discountedReturns gamma (row ++ List.replicate (maxLen - row.length) 0)))).mapM
              fun (sample, rewards, returns) =>
                keptChunk cpSize cpRank sample.totalLength sample.responseLength
                  (returns.take rewards.length)) =
          .ok (List.zipWith (fun sample row => heldSlice cpSize cpRank sample.totalLength
            sample.responseLength (discountedReturns gamma row)) samples rows)
  | [], [], _ => rfl
  | sample :: samples, row :: rows, sized => by
      rcases List.forall₂_cons.mp sized with ⟨rowSized, laterSized⟩
      have cut := take_paddedReturns gamma (maxLen - row.length) row
      have returned : (discountedReturns gamma row).length = sample.responseLength := by
        rw [length_discountedReturns, rowSized]
      rw [List.map_cons, List.map_cons, List.zip_cons_cons, List.zip_cons_cons, List.mapM_cons,
        cutRows_eq isRank gamma maxLen laterSized, List.zipWith_cons_cons]
      dsimp only [KlSample.ranked]
      rw [cut, keptChunk_eq isRank sample.totalLength returned]
      rfl

theorem returnsChunks_eq (isRank : cpRank < cpSize) (gamma : R) {samples : List (KlSample R)}
    {rows : List (List R)}
    (sized : List.Forall₂ (fun sample row => row.length = sample.responseLength) samples rows) :
    returnsChunks cpSize cpRank gamma (samples.map (KlSample.ranked cpSize)) rows =
      .ok (List.zipWith (fun sample row => heldSlice cpSize cpRank sample.totalLength
        sample.responseLength (discountedReturns gamma row)) samples rows) := by
  have filled : ∃ paddedRewards,
      (rows.mapM fun row => zeroRow (maxLength (rows.map List.length)) row.length row) =
        .ok paddedRewards ∧ paddedRewards.map Subtype.val = rows.map fun row =>
          row ++ List.replicate (maxLength (rows.map List.length) - row.length) 0 := by
    apply mapM_exists_map
    intro row member
    exact zeroRow_eq rfl (le_maxLength (List.mem_map_of_mem member))
  rcases filled with ⟨paddedRewards, filledEq, paddedEq⟩
  have scanned : (Batch.ofRows paddedRewards).chunkedDiscountedReturns gamma 128 =
      rows.map fun row => discountedReturns gamma
        (row ++ List.replicate (maxLength (rows.map List.length) - row.length) 0) := by
    rw [Batch.chunkedDiscountedReturns_eq _ _ (by decide)]
    change (paddedRewards.map Subtype.val).map (discountedReturns gamma) = _
    rw [paddedEq, List.map_map]
    rfl
  rw [returnsChunks, filledEq, ok_bind]
  dsimp only
  rw [scanned, cutRows_eq isRank gamma _ sized]

/-- Every sample gets the slice of the recurrence over its own response, or the first one that
is fully masked raises. -/
theorem reinforcePlusPlusRun_eq (isRank : cpRank < cpSize) (klCoef gamma : R)
    (samples : List (KlSample R))
    (keeps : ∀ sample ∈ samples, KeepsResponse cpSize sample.responseLength sample.totalLength) :
    reinforcePlusPlusRun cpSize cpRank klCoef gamma samples =
      samples.zipIdx.mapM (KlSample.localReturns cpSize cpRank klCoef gamma) := by
  have batched := mapM_eq_ok_map (KlSample.sharded cpSize) (KlSample.ranked cpSize) samples
    fun sample _ => sample.sharded_eq cpSize
  have gathered : ((samples.map (KlSample.ranked cpSize)).zipIdx.mapM fun (sample, index) => do
      let fullKl ← gatheredResponse cpSize cpRank sample.kl sample.totalLength
        sample.responseLength
      rewardsForSeq klCoef sample.reward index fullKl sample.lossMask) =
        samples.zipIdx.mapM fun (sample, index) =>
          rewardsForSeq klCoef sample.reward index sample.kl sample.lossMask := by
    rw [List.zipIdx_map, List.mapM_map]
    apply mapM_congr
    intro entry member
    have full := gatheredResponse_held isRank (keeps _ (List.fst_mem_of_mem_zipIdx member))
      entry.1.klLength
    dsimp only [Function.comp_apply, KlSample.ranked, Prod.map]
    rw [full, ok_bind]
    rfl
  have rowLength : ∀ (entry : KlSample R × Nat) (row : List R),
      rewardsForSeq klCoef entry.1.reward entry.2 entry.1.kl entry.1.lossMask = .ok row →
        row.length = entry.1.responseLength := by
    intro entry row returned
    rw [length_rewardsForSeq (by rw [entry.1.maskLength, entry.1.klLength]) returned,
      entry.1.klLength]
  have deferred := mapM_bind_eq
    (fun entry : KlSample R × Nat =>
      rewardsForSeq klCoef entry.1.reward entry.2 entry.1.kl entry.1.lossMask)
    (fun entry row => sliceLogProbWithCp cpSize cpRank (discountedReturns gamma row)
      entry.1.totalLength entry.1.responseLength)
    (fun entry row => heldSlice cpSize cpRank entry.1.totalLength entry.1.responseLength
      (discountedReturns gamma row))
    samples.zipIdx (by
      intro entry _ row returned
      exact sliceLogProbWithCp_eq_held isRank _
        (by rw [length_discountedReturns, rowLength entry row returned]))
  have ownReturns : samples.zipIdx.mapM (KlSample.localReturns cpSize cpRank klCoef gamma) =
        samples.zipIdx.mapM fun entry =>
          rewardsForSeq klCoef entry.1.reward entry.2 entry.1.kl entry.1.lossMask >>= fun row =>
            sliceLogProbWithCp cpSize cpRank (discountedReturns gamma row) entry.1.totalLength
              entry.1.responseLength := by
    apply mapM_congr
    intro entry _
    rw [KlSample.localReturns, KlSample.returns]
    cases rewardsForSeq klCoef entry.1.reward entry.2 entry.1.kl entry.1.lossMask with
    | error failure => rfl
    | ok row => rfl
  rw [ownReturns, deferred, reinforcePlusPlusRun, batched, ok_bind, getReinforcePlusPlusReturns,
    gathered]
  cases rowsEq : samples.zipIdx.mapM fun entry : KlSample R × Nat =>
      rewardsForSeq klCoef entry.1.reward entry.2 entry.1.kl entry.1.lossMask with
  | error failure => rfl
  | ok rows =>
      have firsts : samples.zipIdx.map Prod.fst = samples := List.zipIdx_map_fst 0 samples
      have sized : List.Forall₂ (fun sample row => row.length = sample.responseLength)
          (samples.zipIdx.map Prod.fst) rows :=
        List.forall₂_map_left_iff.mpr (((mapM_eq_ok _ _ _).mp rowsEq).imp rowLength)
      have kept : List.zipWith (fun (entry : KlSample R × Nat) row =>
          heldSlice cpSize cpRank entry.1.totalLength entry.1.responseLength
            (discountedReturns gamma row)) samples.zipIdx rows =
          List.zipWith (fun sample row => heldSlice cpSize cpRank sample.totalLength
            sample.responseLength (discountedReturns gamma row)) samples rows := by
        conv_rhs => rw [← firsts]
        rw [List.zipWith_map_left]
      rw [firsts] at sized
      rw [ok_bind]
      change _ = Except.ok (List.zipWith (fun (entry : KlSample R × Nat) row =>
        heldSlice cpSize cpRank entry.1.totalLength entry.1.responseLength
          (discountedReturns gamma row)) samples.zipIdx rows)
      rw [kept]
      by_cases noRow : rows = []
      · rw [if_pos noRow, noRow, List.zipWith_nil_right, pure_eq_ok]
      · rw [if_neg noRow, returnsChunks_eq isRank gamma sized]

theorem gaeRun_eq (isRank : cpRank < cpSize) (gamma lambd : R) (chunked : Bool)
    {samples : List (GaeSample R)} (someSample : samples ≠ [])
    (keeps : ∀ sample ∈ samples, KeepsResponse cpSize sample.responseLength sample.totalLength)
    (computes : chunked = true ∨ 0 < maxLength (samples.map (·.responseLength))) :
    gaeRun cpSize cpRank gamma lambd chunked samples = .ok
      (samples.map fun sample => heldSlice cpSize cpRank sample.totalLength
        sample.responseLength (sample.advantages gamma lambd),
      samples.map fun sample => heldSlice cpSize cpRank sample.totalLength
        sample.responseLength (sample.returns gamma lambd)) := by
  have batched := mapM_eq_ok_map (GaeSample.sharded cpSize) (GaeSample.ranked cpSize) samples
    fun sample _ => sample.sharded_eq cpSize
  rw [gaeRun, batched, ok_bind,
    getAdvantagesAndReturnsBatch_ranked isRank gamma lambd chunked someSample keeps computes]

end Run

/-! ## The contract -/

/-- Scans satisfy the recurrence, and every sample of a batch gets the slice of its own. -/
theorem batchedReturns_perSample {R : Type} [CommRing R] [DecidableEq R] (rewards : Batch R)
    (batch : GaeBatch R) (klSamples : List (KlSample R)) (gaeSamples : List (GaeSample R))
    (discount gamma lambd klCoef : R) (chunked : Bool) {chunkSize cpSize cpRank : Nat}
    (positive : 0 < chunkSize) (isRank : cpRank < cpSize)
    (klKept : ∀ sample ∈ klSamples,
      KeepsResponse cpSize sample.responseLength sample.totalLength)
    (gaeKept : ∀ sample ∈ gaeSamples,
      KeepsResponse cpSize sample.responseLength sample.totalLength) :
    List.Forall₂ (IsReturns discount) rewards.rows
        (rewards.chunkedDiscountedReturns discount chunkSize) ∧
      (0 < batch.width →
        batch.vanillaGae gamma lambd = .ok (batch.chunkedGae gamma lambd chunkSize)) ∧
      reinforcePlusPlusRun cpSize cpRank klCoef gamma klSamples =
        klSamples.zipIdx.mapM (KlSample.localReturns cpSize cpRank klCoef gamma) ∧
      (gaeSamples ≠ [] → chunked = true ∨ 0 < maxLength (gaeSamples.map (·.responseLength)) →
        ∃ advantages returns,
          gaeRun cpSize cpRank gamma lambd chunked gaeSamples = .ok (advantages, returns) ∧
            (gaeSamples.mapM fun sample => sliceLogProbWithCp cpSize cpRank
              (sample.advantages gamma lambd) sample.totalLength sample.responseLength) =
                .ok advantages ∧
            (gaeSamples.mapM fun sample => sliceLogProbWithCp cpSize cpRank
              (sample.returns gamma lambd) sample.totalLength sample.responseLength) =
                .ok returns) := by
  refine ⟨?_, ?_, reinforcePlusPlusRun_eq isRank klCoef gamma klSamples klKept,
    ?_⟩
  · rw [rewards.chunkedDiscountedReturns_eq discount positive, List.forall₂_map_right_iff,
      List.forall₂_same]
    exact fun row _ => isReturns_discountedReturns discount row
  · intro someColumn
    rw [batch.vanillaGae_eq gamma lambd someColumn, batch.chunkedGae_eq gamma lambd positive]
  · intro someSample computes
    refine ⟨_, _, gaeRun_eq isRank gamma lambd chunked someSample gaeKept computes, ?_, ?_⟩
    · apply mapM_eq_ok_map
      intro sample _
      exact sliceLogProbWithCp_eq_held isRank _ (sample.length_advantages gamma lambd)
    · apply mapM_eq_ok_map
      intro sample _
      exact sliceLogProbWithCp_eq_held isRank _ (sample.length_returns gamma lambd)

def shortSample : GaeSample ℤ where
  totalLength := 3
  responseLength := 1
  values := [2]
  rewards := [5]
  valuesLength := rfl
  rewardsLength := rfl

def longSample : GaeSample ℤ where
  totalLength := 6
  responseLength := 4
  values := [1, 0, 2, 1]
  rewards := [0, 0, 1, 3]
  valuesLength := rfl
  rewardsLength := rfl

def maskedSample : KlSample ℤ where
  totalLength := 5
  responseLength := 3
  reward := 4
  lossMask := [1, 0, 1]
  kl := [1, 2, 3]
  maskLength := rfl
  klLength := rfl

theorem batchedReturns_shortAndLong :
    reinforcePlusPlusRun 2 1 1 1 [maskedSample] =
        [maskedSample].zipIdx.mapM (KlSample.localReturns 2 1 1 1) ∧
      ∃ advantages returns, gaeRun 2 1 1 1 true [shortSample, longSample] =
        .ok (advantages, returns) ∧
          ([shortSample, longSample].mapM fun sample => sliceLogProbWithCp 2 1
            (sample.advantages 1 1) sample.totalLength sample.responseLength) =
              .ok advantages := by
  rcases batchedReturns_perSample (⟨1, [[1]], by decide⟩ : Batch ℤ)
    ⟨1, [([1], [0])], by decide⟩ [maskedSample] [shortSample, longSample] 1 1 1 1 true
      (by decide : 0 < 2) (by decide : 1 < 2) (by decide) (by decide) with
    ⟨_, _, reinforced, estimated⟩
  rcases estimated (by decide) (.inl rfl) with ⟨advantages, returns, ran, own, _⟩
  exact ⟨reinforced, advantages, returns, ran, own⟩

/-- On a batch without columns the recurrence has nothing to stack. -/
theorem vanillaGae_withoutColumns :
    ¬ ∀ (batch : GaeBatch ℚ) (gamma lambd : ℚ) (chunkSize : Nat), 0 < chunkSize →
      batch.vanillaGae gamma lambd = .ok (batch.chunkedGae gamma lambd chunkSize) := by
  intro equal
  have raises := GaeBatch.vanillaGae_empty (⟨0, [([], [])], by decide⟩ : GaeBatch ℚ) 1 1 rfl
  rw [equal _ 1 1 128 (by decide)] at raises
  cases raises

end Vime.Backends.MegatronUtils
