import Vime.Backends.MegatronUtils.BatchAdvantages

/-! # PPO advantages under context parallelism

The ppo branch of `compute_advantages_and_returns`. The terminal reward is added by rank 0 at its
own last position, which is the end of the response only if rank 0 holds the last logit.
-/

namespace Vime.Backends.MegatronUtils

open Vime.Foundation Vime.Utils

structure PpoArgs (R : Type) where
  gamma : R
  lambd : R
  klCoef : R

structure RankedSample (R : Type) where
  totalLength : Nat
  responseLength : Nat
  reward : R
  kl : Nat → List R
  values : Nat → List R

section Source

variable {R : Type} [CommRing R] [DecidableEq R]

def tokenLevelRewards (klCoef : R) (cpRank : Nat) (reward : R) (perTokenKl : List R) :
    Except PyException (List R) :=
  let tokenRewards := perTokenKl.map (· * -klCoef)
  if cpRank = 0 then do
    raiseIf (tokenRewards.isEmpty = true) .indexError
    pure (tokenRewards.modify (tokenRewards.length - 1) (· + reward))
  else pure tokenRewards

def rankedRewards (cpSize : Nat) (args : PpoArgs R) (sample : RankedSample R) :
    Except PyException (RankedGae R) := do
  let rows ← (List.range cpSize).mapM fun cpRank =>
    tokenLevelRewards args.klCoef cpRank sample.reward (sample.kl cpRank)
  pure
    { totalLength := sample.totalLength
      responseLength := sample.responseLength
      values := sample.values
      rewards := fun cpRank => rows.getD cpRank [] }

/-- The ppo branch on one rank; `kl` and `values` hold the tensors of all of them. -/
def ppoBranch (cpSize cpRank : Nat) (args : PpoArgs R) (batch : List (RankedSample R)) :
    Except PyException (List (List R) × List (List R)) := do
  let rewarded ← batch.mapM (rankedRewards cpSize args)
  getAdvantagesAndReturnsBatch cpSize cpRank args.gamma args.lambd true rewarded

end Source

/-- A sample with its whole per-token vectors. -/
structure PpoSample (R : Type) where
  totalLength : Nat
  responseLength : Nat
  reward : R
  kl : List R
  values : List R
  positive : 1 ≤ responseLength
  inSequence : responseLength < totalLength
  klLength : kl.length = responseLength
  valuesLength : values.length = responseLength

namespace PpoSample

variable {R : Type}

def sharded (cpSize : Nat) (sample : PpoSample R) : Except PyException (RankedSample R) := do
  let kl ← slices cpSize sample.totalLength sample.responseLength sample.kl
  let values ← slices cpSize sample.totalLength sample.responseLength sample.values
  pure
    { totalLength := sample.totalLength
      responseLength := sample.responseLength
      reward := sample.reward
      kl := kl
      values := values }

def OwnsLastLogit (cpSize : Nat) (sample : PpoSample R) : Prop :=
  sample.totalLength - 2 < cpChunkSize cpSize sample.totalLength ∨
    (2 * cpSize - 1) * cpChunkSize cpSize sample.totalLength ≤ sample.totalLength - 2

def OwnsFirstChunk (cpSize : Nat) (sample : PpoSample R) : Prop :=
  sample.totalLength - sample.responseLength ≤ cpChunkSize cpSize sample.totalLength

end PpoSample

section Run

variable {R : Type} [CommRing R] [DecidableEq R]

def ppoRun (cpSize cpRank : Nat) (args : PpoArgs R) (samples : List (PpoSample R)) :
    Except PyException (List (List R) × List (List R)) := do
  let batch ← samples.mapM (PpoSample.sharded cpSize)
  ppoBranch cpSize cpRank args batch

end Run

/-! ## Running the branch -/

section Running

variable {R : Type} [CommRing R]

def wholeRewards (args : PpoArgs R) (sample : PpoSample R) (position : Nat) : List R :=
  (sample.kl.map (· * -args.klCoef)).modify position (· + sample.reward)

def wholeGae (args : PpoArgs R) (sample : PpoSample R) (position : Nat) : List R × List R :=
  let advantages := discountedReturns (args.gamma * args.lambd)
    (deltas args.gamma (wholeRewards args sample position) sample.values)
  (advantages, List.zipWith (· + ·) advantages sample.values)

theorem length_wholeRewards (args : PpoArgs R) (sample : PpoSample R) (position : Nat) :
    (wholeRewards args sample position).length = sample.responseLength := by
  rw [wholeRewards, List.length_modify, List.length_map, sample.klLength]

theorem length_wholeGae (args : PpoArgs R) (sample : PpoSample R) (position : Nat) :
    (wholeGae args sample position).1.length = sample.responseLength ∧
      (wholeGae args sample position).2.length = sample.responseLength := by
  have rewards := length_wholeRewards args sample position
  have advantages : (discountedReturns (args.gamma * args.lambd)
      (deltas args.gamma (wholeRewards args sample position) sample.values)).length =
        sample.responseLength := by
    rw [length_discountedReturns, length_deltas _ _ _ (by rw [rewards, sample.valuesLength]),
      rewards]
  refine ⟨advantages, ?_⟩
  rw [wholeGae, List.length_zipWith, advantages, sample.valuesLength, Nat.min_self]

variable {cpSize : Nat}

namespace PpoSample

omit [CommRing R] in
theorem keeps (cpSize : Nat) (sample : PpoSample R) :
    KeepsResponse cpSize sample.responseLength sample.totalLength := .inr (.inr sample.inSequence)

def held (cpSize cpRank : Nat) (sample : PpoSample R) (values : List R) : List R :=
  heldSlice cpSize cpRank sample.totalLength sample.responseLength values

def ranked (cpSize : Nat) (sample : PpoSample R) : RankedSample R where
  totalLength := sample.totalLength
  responseLength := sample.responseLength
  reward := sample.reward
  kl := heldSlices cpSize sample.totalLength sample.responseLength sample.kl
  values := heldSlices cpSize sample.totalLength sample.responseLength sample.values

theorem sharded_eq (cpSize : Nat) (sample : PpoSample R) :
    sample.sharded cpSize = .ok (sample.ranked cpSize) := by
  rw [sharded, slices_eq cpSize sample.totalLength sample.klLength, ok_bind,
    slices_eq cpSize sample.totalLength sample.valuesLength, ok_bind, pure_eq_ok, ranked]

def rewarded (args : PpoArgs R) (sample : PpoSample R) (position : Nat) : GaeSample R where
  totalLength := sample.totalLength
  responseLength := sample.responseLength
  values := sample.values
  rewards := wholeRewards args sample position
  valuesLength := sample.valuesLength
  rewardsLength := length_wholeRewards args sample position

end PpoSample

def rewardPosition (cpSize : Nat) (sample : PpoSample R) : Option Nat :=
  (heldIndices cpSize 0 sample.totalLength sample.responseLength).getLast?

theorem heldSlice_isEmpty_iff (sample : PpoSample R) (values : List R) :
    (sample.held cpSize 0 values).isEmpty = true ↔ rewardPosition cpSize sample = none := by
  rw [PpoSample.held, heldSlice, rewardPosition, List.isEmpty_iff, List.map_eq_nil_iff,
    List.getLast?_eq_none_iff]

theorem tokenLevelRewards_held (args : PpoArgs R) (sample : PpoSample R) {position : Nat}
    (rewarded : rewardPosition cpSize sample = some position) {cpRank : Nat}
    (isRank : cpRank < cpSize) :
    tokenLevelRewards args.klCoef cpRank sample.reward (sample.held cpSize cpRank sample.kl) =
      .ok (sample.held cpSize cpRank (wholeRewards args sample position)) := by
  have sized : (sample.kl.map (· * -args.klCoef)).length = sample.responseLength := by
    rw [List.length_map, sample.klLength]
  have scaled : (sample.held cpSize cpRank sample.kl).map (· * -args.klCoef) =
      sample.held cpSize cpRank (sample.kl.map (· * -args.klCoef)) :=
    heldSlice_map _ sample.klLength
  rw [tokenLevelRewards, scaled]
  by_cases first : cpRank = 0
  · subst first
    have notEmpty : ¬ (sample.held cpSize 0
        (sample.kl.map (· * -args.klCoef))).isEmpty = true := by
      rw [heldSlice_isEmpty_iff, rewarded]
      simp
    rw [if_pos rfl, raiseIf, if_neg notEmpty, ok_bind, pure_eq_ok]
    congr 1
    exact heldSlice_modify_last sized _ rewarded
  · rw [if_neg first, pure_eq_ok]
    congr 1
    refine (heldSlice_modify_other sized _ ?_).symm
    intro member
    exact first (heldIndices_unique (sample.keeps cpSize) isRank (by omega) member
      (List.mem_of_getLast? rewarded))

theorem rankedRewards_held (args : PpoArgs R) (sample : PpoSample R) {position : Nat}
    (rewarded : rewardPosition cpSize sample = some position) :
    rankedRewards cpSize args (sample.ranked cpSize) =
      .ok ((sample.rewarded args position).ranked cpSize) := by
  have rows := mapM_eq_ok_map
    (fun cpRank => tokenLevelRewards args.klCoef cpRank (sample.ranked cpSize).reward
      ((sample.ranked cpSize).kl cpRank))
    (fun rank => sample.held cpSize rank (wholeRewards args sample position))
    (List.range cpSize) (by
      intro cpRank member
      have isRank := List.mem_range.mp member
      have own : (sample.ranked cpSize).kl cpRank = sample.held cpSize cpRank sample.kl :=
        heldSlices_rank isRank _ _ _
      rw [own]
      exact tokenLevelRewards_held args sample rewarded isRank)
  rw [rankedRewards, rows, ok_bind, pure_eq_ok]
  rfl

theorem rankedRewards_raises (positive : 0 < cpSize) (args : PpoArgs R) (sample : PpoSample R)
    (unrewarded : rewardPosition cpSize sample = none) (rewarded : RankedGae R) :
    rankedRewards cpSize args (sample.ranked cpSize) ≠ .ok rewarded := by
  intro returned
  rcases bind_eq_ok.mp returned with ⟨rows, rowsEq, _⟩
  rcases mapM_eq_ok_mem rowsEq 0 (List.mem_range.mpr positive) with ⟨row, first⟩
  have own : (sample.ranked cpSize).kl 0 = sample.held cpSize 0 sample.kl :=
    heldSlices_rank positive _ _ _
  rw [own, tokenLevelRewards, if_pos rfl] at first
  have nonempty := (raiseIf_bind_eq_ok.mp first).1
  rw [List.isEmpty_map] at nonempty
  exact nonempty ((heldSlice_isEmpty_iff sample sample.kl).mpr unrewarded)

variable [DecidableEq R]

theorem ppoRun_eq {cpRank : Nat} (isRank : cpRank < cpSize) (args : PpoArgs R)
    {samples : List (PpoSample R)} (nonempty : samples ≠ []) {positions : PpoSample R → Nat}
    (rewarded : ∀ sample ∈ samples, rewardPosition cpSize sample = some (positions sample)) :
    ppoRun cpSize cpRank args samples =
      .ok (samples.map fun sample =>
          sample.held cpSize cpRank (wholeGae args sample (positions sample)).1,
        samples.map fun sample =>
          sample.held cpSize cpRank (wholeGae args sample (positions sample)).2) := by
  have shards := mapM_eq_ok_map (PpoSample.sharded cpSize) (PpoSample.ranked cpSize) samples
    fun sample _ => sample.sharded_eq cpSize
  have rewards := mapM_map_eq_ok (rankedRewards cpSize args) (PpoSample.ranked cpSize)
    (fun sample => (sample.rewarded args (positions sample)).ranked cpSize) samples
    fun sample member => rankedRewards_held args sample (rewarded sample member)
  have wholes : (samples.map fun sample =>
      (sample.rewarded args (positions sample)).ranked cpSize) =
        (samples.map fun sample => sample.rewarded args (positions sample)).map
          (GaeSample.ranked cpSize) := by
    rw [List.map_map]
    rfl
  have batched := getAdvantagesAndReturnsBatch_ranked isRank args.gamma args.lambd true
    (by rwa [Ne, List.map_eq_nil_iff] : samples.map (fun sample =>
      sample.rewarded args (positions sample)) ≠ []) (by
      intro sample member
      rcases List.mem_map.mp member with ⟨whole, _, rfl⟩
      exact whole.keeps cpSize) (.inl rfl)
  rw [ppoRun, shards, ok_bind, ppoBranch, rewards, ok_bind, wholes, batched, List.map_map,
    List.map_map]
  rfl

theorem ppoRun_returns (positive : 0 < cpSize) {cpRank : Nat} {args : PpoArgs R}
    {samples : List (PpoSample R)} {result : List (List R) × List (List R)}
    (returned : ppoRun cpSize cpRank args samples = .ok result) :
    samples ≠ [] ∧ ∀ sample ∈ samples, rewardPosition cpSize sample ≠ none := by
  have shards := mapM_eq_ok_map (PpoSample.sharded cpSize) (PpoSample.ranked cpSize) samples
    fun sample _ => sample.sharded_eq cpSize
  rw [ppoRun, shards, ok_bind] at returned
  rcases bind_eq_ok.mp returned with ⟨rewarded, rewardedEq, batched⟩
  constructor
  · intro isEmpty
    subst isEmpty
    rw [← Except.ok.inj rewardedEq] at batched
    exact (raiseIf_bind_eq_ok.mp batched).1 rfl
  · intro sample member unrewarded
    rcases mapM_eq_ok_mem rewardedEq _ (List.mem_map_of_mem member) with ⟨row, rowEq⟩
    exact rankedRewards_raises positive args sample unrewarded row rowEq

end Running

/-! ## Which rank ends the response -/

section LastLogit

variable {R : Type} {cpSize : Nat} (sample : PpoSample R)

theorem owns_last_iff (parallel : 1 < cpSize) :
    Owns cpSize 0 sample.totalLength sample.responseLength (sample.responseLength - 1) ↔
      sample.OwnsLastLogit cpSize := by
  have positive := sample.positive
  have inSequence := sample.inSequence
  have fits := le_chunks cpSize sample.totalLength (by omega)
  rw [Owns, PpoSample.OwnsLastLogit]
  dsimp only [rankLogits]
  rw [covers_chunkLogits_iff, covers_chunkLogits_iff, cpChunks_eq (by omega)]
  simp only [Covers, numberedChunk, Nat.sub_zero]
  have last : 2 * cpSize - 1 + 1 = 2 * cpSize := by omega
  rw [last]
  generalize (2 * cpSize - 1) * cpChunkSize cpSize sample.totalLength = start
  generalize 2 * cpSize * cpChunkSize cpSize sample.totalLength = stop at fits ⊢
  omega

theorem rewardPosition_last (parallel : 1 < cpSize) :
    rewardPosition cpSize sample = some (sample.responseLength - 1) ↔
      sample.OwnsLastLogit cpSize := by
  have positive := sample.positive
  rw [← owns_last_iff sample parallel, rewardPosition, heldIndices, if_neg (by omega)]
  constructor
  · intro last
    exact (mem_rankIndices.mp (List.mem_of_getLast? last)).2
  · intro owns
    have member : sample.responseLength - 1 ∈
        rankIndices cpSize 0 sample.totalLength sample.responseLength :=
      mem_rankIndices.mpr ⟨by omega, owns⟩
    rcases List.mem_iff_append.mp member with ⟨front, back, indicesEq⟩
    cases back with
    | nil =>
        rw [indicesEq]
        exact List.getLast?_concat
    | cons next rest =>
        have increasing : (rankIndices cpSize 0 sample.totalLength
            sample.responseLength).Pairwise (· < ·) := rankIndices_increasing
        have bounded := (mem_rankIndices.mp (show next ∈ rankIndices cpSize 0
          sample.totalLength sample.responseLength by rw [indicesEq]; simp)).1
        rw [indicesEq, List.pairwise_append, List.pairwise_cons] at increasing
        have larger := increasing.2.1.1 next (by simp)
        omega

theorem rewardPosition_some_iff (parallel : 1 < cpSize)
    (notLast : ¬ sample.OwnsLastLogit cpSize) :
    rewardPosition cpSize sample ≠ none ↔ sample.OwnsFirstChunk cpSize := by
  have positive := sample.positive
  have inSequence := sample.inSequence
  rw [PpoSample.OwnsLastLogit, not_or] at notLast
  rw [rewardPosition, heldIndices, if_neg (by omega), PpoSample.OwnsFirstChunk, Ne,
    List.getLast?_eq_none_iff]
  constructor
  · intro nonempty
    rcases List.exists_mem_of_ne_nil _ nonempty with ⟨index, member⟩
    rcases mem_rankIndices.mp member with ⟨inside, owns⟩
    rw [Owns] at owns
    dsimp only [rankLogits] at owns
    rw [covers_chunkLogits_iff, covers_chunkLogits_iff, cpChunks_eq (by omega)] at owns
    simp only [Covers, numberedChunk, Nat.sub_zero] at owns
    generalize (2 * cpSize - 1) * cpChunkSize cpSize sample.totalLength = start
      at owns notLast
    omega
  · intro first isEmpty
    have member : 0 ∈ rankIndices cpSize 0 sample.totalLength sample.responseLength := by
      apply mem_rankIndices.mpr
      refine ⟨by omega, Or.inl ?_⟩
      dsimp only [rankLogits]
      rw [covers_chunkLogits_iff, cpChunks_eq (by omega)]
      simp only [Covers, numberedChunk]
      omega
    rw [isEmpty] at member
    cases member

end LastLogit

/-! ## Invariance -/

section Invariance

variable {R : Type} [CommRing R] [DecidableEq R]

/-- No rank raises, and the ranks hold the slices of the advantages and returns of the
single rank, which are those of rewards with the terminal reward at the last token. -/
def CpInvariant (cpSize : Nat) (args : PpoArgs R) (samples : List (PpoSample R)) : Prop :=
  ∃ advantages returns,
    ppoRun 1 0 args samples = .ok (advantages, returns) ∧
    advantages = samples.map (fun sample =>
      (wholeGae args sample (sample.responseLength - 1)).1) ∧
    returns = samples.map (fun sample =>
      (wholeGae args sample (sample.responseLength - 1)).2) ∧
    ∀ cpRank < cpSize, ∃ ownAdvantages ownReturns,
      ppoRun cpSize cpRank args samples = .ok (ownAdvantages, ownReturns) ∧
      ((samples.zip advantages).mapM fun entry => sliceLogProbWithCp cpSize cpRank entry.2
        entry.1.totalLength entry.1.responseLength) = .ok ownAdvantages ∧
      ((samples.zip returns).mapM fun entry => sliceLogProbWithCp cpSize cpRank entry.2
        entry.1.totalLength entry.1.responseLength) = .ok ownReturns

/-- The misplaced reward is no reward, or rank 0 ends the response. -/
def RewardInPlace (cpSize : Nat) (sample : PpoSample R) : Prop :=
  sample.OwnsLastLogit cpSize ∨ (sample.reward = 0 ∧ sample.OwnsFirstChunk cpSize)

variable {cpSize : Nat} {args : PpoArgs R} {samples : List (PpoSample R)}

theorem ppoRun_single (nonempty : samples ≠ []) :
    ppoRun 1 0 args samples =
      .ok (samples.map fun sample => (wholeGae args sample (sample.responseLength - 1)).1,
        samples.map fun sample => (wholeGae args sample (sample.responseLength - 1)).2) := by
  have last : ∀ sample ∈ samples,
      rewardPosition 1 sample = some (sample.responseLength - 1) := by
    intro sample _
    have positive := sample.positive
    rw [rewardPosition, heldIndices, if_pos rfl, List.getLast?_range, if_neg (by omega)]
  rw [ppoRun_eq Nat.one_pos args nonempty last]
  have whole : ∀ rows : PpoSample R → List R,
      (∀ sample, (rows sample).length = sample.responseLength) →
        (samples.map fun sample => sample.held 1 0 (rows sample)) =
          samples.map fun sample => rows sample := by
    intro rows sized
    apply List.map_congr_left
    intro sample _
    exact heldSlice_single rfl (sized sample)
  rw [whole _ fun sample => (length_wholeGae args sample _).1,
    whole _ fun sample => (length_wholeGae args sample _).2]

omit [DecidableEq R] in
theorem mapM_slices {cpRank : Nat} (isRank : cpRank < cpSize)
    {rows : PpoSample R → List R}
    (sized : ∀ sample ∈ samples, (rows sample).length = sample.responseLength) :
    ((samples.zip (samples.map rows)).mapM fun entry => sliceLogProbWithCp cpSize cpRank entry.2
        entry.1.totalLength entry.1.responseLength) =
      .ok (samples.map fun sample => sample.held cpSize cpRank (rows sample)) := by
  have pairs : samples.zip (samples.map rows) = samples.map fun sample => (sample, rows sample) := by
    have mapped : (samples.map id).zip (samples.map rows) =
        samples.map fun sample => (id sample, rows sample) := List.zip_map'
    rwa [List.map_id] at mapped
  rw [pairs]
  apply mapM_map_eq_ok (fun entry : PpoSample R × List R => sliceLogProbWithCp cpSize cpRank
    entry.2 entry.1.totalLength entry.1.responseLength)
  intro sample member
  exact sliceLogProbWithCp_eq_held isRank _ (sized sample member)

omit [DecidableEq R] in
/-- Adding no reward, or adding it at the same place, changes nothing. -/
theorem wholeGae_in_place {sample : PpoSample R} (parallel : 1 < cpSize)
    (inPlace : RewardInPlace cpSize sample) {position : Nat}
    (rewarded : rewardPosition cpSize sample = some position) :
    wholeGae args sample position = wholeGae args sample (sample.responseLength - 1) := by
  rcases inPlace with ownsLast | ⟨noReward, _⟩
  · rw [(rewardPosition_last sample parallel).mpr ownsLast] at rewarded
    rw [Option.some.inj rewarded]
  · have unchanged : ∀ index, wholeRewards args sample index = sample.kl.map (· * -args.klCoef) := by
      intro index
      rw [wholeRewards, noReward]
      simp only [add_zero]
      exact List.modify_id index _
    rw [wholeGae, wholeGae, unchanged, unchanged]

theorem cpInvariant_of_inPlace (parallel : 1 < cpSize) (nonempty : samples ≠ [])
    (inPlace : ∀ sample ∈ samples, RewardInPlace cpSize sample) :
    CpInvariant cpSize args samples := by
  have rewarded : ∀ sample ∈ samples, rewardPosition cpSize sample =
      some ((rewardPosition cpSize sample).getD 0) := by
    intro sample member
    have found : rewardPosition cpSize sample ≠ none := by
      by_cases ownsLast : sample.OwnsLastLogit cpSize
      · rw [(rewardPosition_last sample parallel).mpr ownsLast]
        simp
      · rcases inPlace sample member with owns | ⟨_, first⟩
        · exact absurd owns ownsLast
        · exact (rewardPosition_some_iff sample parallel ownsLast).mpr first
    rcases Option.ne_none_iff_exists'.mp found with ⟨position, positionEq⟩
    rw [positionEq]
    rfl
  refine ⟨_, _, ppoRun_single nonempty, rfl, rfl, ?_⟩
  intro cpRank isRank
  refine ⟨_, _, ppoRun_eq isRank args nonempty rewarded, ?_, ?_⟩
  · rw [mapM_slices isRank fun sample _ => (length_wholeGae args sample _).1]
    congr 1
    apply List.map_congr_left
    intro sample member
    rw [wholeGae_in_place parallel (inPlace sample member) (rewarded sample member)]
  · rw [mapM_slices isRank fun sample _ => (length_wholeGae args sample _).2]
    congr 1
    apply List.map_congr_left
    intro sample member
    rw [wholeGae_in_place parallel (inPlace sample member) (rewarded sample member)]

omit [DecidableEq R] in
theorem getLastD_wholeRewards (sample : PpoSample R) (position : Nat) :
    (wholeRewards args sample position).getLastD 0 =
      (sample.kl.map (· * -args.klCoef)).getLastD 0 +
        if sample.responseLength - 1 = position then sample.reward else 0 := by
  have positive := sample.positive
  have sized : (sample.kl.map (· * -args.klCoef)).length = sample.responseLength := by
    rw [List.length_map, sample.klLength]
  have lastEntry : ∀ row : List R, row.length = sample.responseLength →
      row.getLastD 0 = row.getD (sample.responseLength - 1) 0 := by
    intro row rowLength
    rw [← rowLength, List.getLastD_eq_getLast?, List.getLast?_eq_getElem?,
      List.getD_eq_getElem?_getD]
  rw [lastEntry _ (length_wholeRewards args sample position), lastEntry _ sized, wholeRewards,
    getD_modify _ _ (by omega)]
  split
  · rfl
  · rw [add_zero]

/-- Invariance puts every reward in place: where it is not, the last advantage lacks it. -/
theorem inPlace_of_cpInvariant (parallel : 1 < cpSize)
    (invariant : CpInvariant cpSize args samples) :
    samples ≠ [] ∧ ∀ sample ∈ samples, RewardInPlace cpSize sample := by
  rcases invariant with ⟨advantages, returns, _, advantagesEq, _, ranks⟩
  rcases ranks 0 (by omega) with ⟨ownAdvantages, ownReturns, firstRun, _, _⟩
  have returned := ppoRun_returns (by omega) firstRun
  refine ⟨returned.1, fun sample member => ?_⟩
  have rewarded : ∀ other ∈ samples, rewardPosition cpSize other =
      some ((rewardPosition cpSize other).getD 0) := by
    intro other otherMember
    rcases Option.ne_none_iff_exists'.mp (returned.2 other otherMember) with
      ⟨position, positionEq⟩
    rw [positionEq]
    rfl
  generalize positionEq : (rewardPosition cpSize sample).getD 0 = position
  have sameGae : (wholeGae args sample position).1 =
      (wholeGae args sample (sample.responseLength - 1)).1 := by
    apply eq_of_heldSlice_eq (by omega) (sample.keeps cpSize)
      (length_wholeGae args sample position).1 (length_wholeGae args sample _).1
    intro cpRank isRank
    rcases ranks cpRank isRank with ⟨rankAdvantages, rankReturns, run, slices, _⟩
    rw [ppoRun_eq isRank args returned.1 rewarded, Except.ok.injEq,
      Prod.mk.injEq] at run
    rw [advantagesEq, mapM_slices isRank
      fun other _ => (length_wholeGae args other _).1, Except.ok.injEq, ← run.1] at slices
    have own := List.map_inj_left.mp slices sample member
    rw [positionEq] at own
    exact own.symm
  have sized : ∀ index, (wholeRewards args sample index).length = sample.values.length := by
    intro index
    rw [length_wholeRewards, sample.valuesLength]
  have last := congrArg (·.getLastD 0) sameGae
  simp only [wholeGae] at last
  rw [getLastD_discountedReturns _ _ _ _ (sized _), getLastD_discountedReturns _ _ _ _ (sized _),
    sub_left_inj, getLastD_wholeRewards, getLastD_wholeRewards, add_right_inj, if_pos rfl] at last
  by_cases ownsLast : sample.OwnsLastLogit cpSize
  · exact Or.inl ownsLast
  · right
    have found := rewarded sample member
    rw [positionEq] at found
    refine ⟨?_, (rewardPosition_some_iff sample parallel ownsLast).mp (by rw [found]; simp)⟩
    rw [if_neg] at last
    · exact last.symm
    · intro same
      rw [← same] at found
      exact ownsLast ((rewardPosition_last sample parallel).mp found)

end Invariance

/-- Advantages and returns are invariant exactly if, for every sample, rank 0 holds the
last logit, or there is no reward and rank 0 holds some logit. -/
theorem ppo_cpInvariant_iff {R : Type} [CommRing R] [DecidableEq R] (cpSize : Nat)
    (parallel : 2 ≤ cpSize) (args : PpoArgs R) (samples : List (PpoSample R)) :
    CpInvariant cpSize args samples ↔
      samples ≠ [] ∧ ∀ sample ∈ samples, RewardInPlace cpSize sample := by
  constructor
  · exact inPlace_of_cpInvariant parallel
  · rintro ⟨nonempty, inPlace⟩
    exact cpInvariant_of_inPlace parallel nonempty inPlace

/-- Four response tokens after one prompt token: two ranks have chunks of two, and the
last chunk of rank 0 is padding only. -/
def paddedTail : PpoSample Rat where
  totalLength := 5
  responseLength := 4
  reward := 1
  kl := [0, 0, 0, 0]
  values := [0, 0, 0, 0]
  positive := by decide
  inSequence := by decide
  klLength := rfl
  valuesLength := rfl

def filledTail : PpoSample Rat where
  totalLength := 8
  responseLength := 4
  reward := 1
  kl := [0, 0, 0, 0]
  values := [0, 0, 0, 0]
  positive := by decide
  inSequence := by decide
  klLength := rfl
  valuesLength := rfl

theorem filledTail_cpInvariant : CpInvariant 2 ⟨1, 1, 0⟩ [filledTail] := by
  apply (ppo_cpInvariant_iff 2 (by decide) ⟨1, 1, 0⟩ [filledTail]).mpr
  refine ⟨by simp, fun sample member => ?_⟩
  rw [List.mem_singleton.mp member]
  exact Or.inl (Or.inr (by decide))

theorem paddedTail_not_cpInvariant : ¬ CpInvariant 2 ⟨1, 1, 0⟩ [paddedTail] := by
  intro invariant
  rcases (inPlace_of_cpInvariant (by decide) invariant).2 paddedTail (by simp) with
    (first | last) | ⟨noReward, _⟩
  · exact absurd first (by decide)
  · exact absurd last (by decide)
  · exact absurd noReward one_ne_zero

end Vime.Backends.MegatronUtils
