import Mathlib.Algebra.Order.BigOperators.Group.List
import Mathlib.Algebra.Order.Ring.Rat
import Vime.Utils.Packing

/-! # No merged set is empty

The largest differencing method passes its own checks: with equal sizes because every state
holds sets of one size, and without because the largest set of a state meets the smallest one
of the other.
-/

namespace Vime.Utils

open Vime.Foundation

section Merging

variable {W : Type} [Number W]

theorem exists_of_mem_zipWith {α : Type u} {β : Type v} {γ : Type w} {combine : α → β → γ}
    {lefts : List α} {rights : List β} {value : γ}
    (member : value ∈ List.zipWith combine lefts rights) :
    ∃ left ∈ lefts, ∃ right ∈ rights, combine left right = value := by
  rcases List.mem_iff_getElem?.mp member with ⟨index, atIndex⟩
  rcases List.getElem?_zipWith_eq_some.mp atIndex with ⟨left, right, inLefts, inRights, same⟩
  exact ⟨left, List.mem_of_getElem? inLefts, right, List.mem_of_getElem? inRights, same⟩

theorem KkSet.merge_items (set other : KkSet W) :
    (set.merge other).items = set.items ++ other.items := by
  rw [KkSet.merge, foldl_add_items]

theorem KkState.exists_of_mem_merge {state other : KkState W} {set : KkSet W}
    (member : set ∈ (state.merge other).sets) :
    ∃ left ∈ state.sets, ∃ right ∈ other.sets, left.merge right = set := by
  rw [KkState.merge, (sortSets_perm _).mem_iff] at member
  rcases exists_of_mem_zipWith member with ⟨left, inLeft, right, inRight, same⟩
  exact ⟨left, inLeft, right, List.mem_reverse.mp inRight, same⟩

theorem mergeStatesIn_invariant (order : HeapOrder W) {invariant : KkState W → Prop}
    (merges : ∀ state other, invariant state → invariant other → invariant (state.merge other)) :
    ∀ (fuel : Nat) (states : List (KkState W)), (∀ state ∈ states, invariant state) →
      ∀ state ∈ mergeStatesIn order fuel states, invariant state
  | 0, _, holds => holds
  | fuel + 1, states, holds => by
      rw [mergeStatesIn]
      cases firstPop : order.pop states with
      | none => exact holds
      | some first =>
          rcases first with ⟨state0, afterFirst⟩
          have firstPerm := order.perm firstPop
          dsimp only
          cases secondPop : order.pop afterFirst with
          | none => exact holds
          | some second =>
              rcases second with ⟨state1, afterSecond⟩
              have allPerm : (state0 :: state1 :: afterSecond).Perm states :=
                ((order.perm secondPop).cons state0).trans firstPerm
              have kept (state : KkState W)
                  (member : state ∈ state0 :: state1 :: afterSecond) : invariant state :=
                holds state (allPerm.mem_iff.mp member)
              have mergedKept : ∀ state ∈ state0.merge state1 :: afterSecond, invariant state := by
                rw [List.forall_mem_cons]
                exact ⟨merges state0 state1 (kept state0 (by simp)) (kept state1 (by simp)),
                  fun state member => kept state (by simp [member])⟩
              exact mergeStatesIn_invariant order merges fuel _ mergedKept

theorem mergeStatesIn_ne_nil (order : HeapOrder W) :
    ∀ (fuel : Nat) (states : List (KkState W)), states ≠ [] → mergeStatesIn order fuel states ≠ []
  | 0, _, someState => someState
  | fuel + 1, states, someState => by
      rw [mergeStatesIn]
      cases order.pop states with
      | none => exact someState
      | some first =>
          dsimp only
          cases order.pop first.2 with
          | none => exact someState
          | some second => exact mergeStatesIn_ne_nil order fuel _ (List.cons_ne_nil _ _)

theorem checkAndSortPartitions_ok {count k : Nat} {partitions : List (List Nat)}
    (counted : partitions.length = k) (packs : Packs count partitions)
    (nonempty : ∀ partition ∈ partitions, partition ≠ []) :
    ∃ sorted, checkAndSortPartitions count k partitions = .ok sorted := by
  have filled : partitions.zipIdx.forM (fun entry =>
      raiseIf (entry.1 = []) (.assertionError s!"the {entry.2}-th partition is empty")) =
        (.ok () : Except PyException Unit) := by
    rw [forM_eq_ok]
    intro entry member
    rw [raiseIf, if_neg (nonempty entry.1 (List.fst_mem_of_mem_zipIdx member))]
  have covers : partitions.flatten.toFinset = Finset.range count := by
    ext index
    rw [List.mem_toFinset, packs.mem_iff, List.mem_range, Finset.mem_range]
  refine ⟨partitions.map (List.insertionSort (· ≤ ·)), ?_⟩
  rw [checkAndSortPartitions, raiseIf, if_neg (not_not.mpr counted), ok_bind, filled, ok_bind,
    raiseIf, if_neg (not_not.mpr covers), ok_bind, pure_eq_ok]

/-- The method succeeds if an invariant of its states fills every set at the end. -/
theorem getSeqlenBalancedPartitionsIn_ok (order : HeapOrder W) {invariant : KkState W → Prop}
    (merges : ∀ state other, invariant state → invariant other → invariant (state.merge other))
    {seqlenList : List W} {k : Nat} {equalSize : Bool} {states : List (KkState W)}
    (enough : k ≤ seqlenList.length)
    (initialized : initialStates (seqlenList.zipIdx.insertionSort fun left right =>
      entryLess right left = false) k equalSize = .ok states)
    (someState : states ≠ []) (initial : ∀ state ∈ states, invariant state)
    (filled : ∀ state, invariant state → Packs seqlenList.length state.getPartitions →
      ∀ partition ∈ state.getPartitions, partition ≠ [] ∧
        (equalSize = true → partition.length * k = seqlenList.length)) :
    ∃ partitions, getSeqlenBalancedPartitionsIn order seqlenList k equalSize = .ok partitions := by
  have spec := initialStates_spec initialized
  have merged := mergeStatesIn_spec order states.length states (Nat.le_succ _) spec.1
  have holds := mergeStatesIn_invariant order merges states.length states initial
  cases mergedEq : mergeStatesIn order states.length states with
  | nil => exact absurd mergedEq (mergeStatesIn_ne_nil order _ _ someState)
  | cons final rest =>
      rw [mergedEq] at merged holds
      have noMore : rest = [] := List.length_eq_zero_iff.mp (by
        have short := merged.1
        rw [List.length_cons] at short
        omega)
      rw [noMore, List.flatMap_singleton] at merged
      have packs : Packs seqlenList.length final.getPartitions := by
        rw [Packs, KkState.getPartitions_flatten]
        apply merged.2.trans
        apply spec.2.trans
        apply ((List.perm_insertionSort _ seqlenList.zipIdx).map Prod.snd).trans
        rw [List.zipIdx_map_snd, ← List.range_eq_range']
      have fills := filled final (holds final List.mem_cons_self) packs
      have sizes : final.getPartitions.forM (fun partition =>
          raiseIf (equalSize = true ∧ partition.length * k ≠ seqlenList.length)
            (.assertionError s!"{partition.length} * {k} != {seqlenList.length}")) =
              (.ok () : Except PyException Unit) := by
        rw [forM_eq_ok]
        intro partition member
        rw [raiseIf, if_neg]
        rintro ⟨isEqual, different⟩
        exact different ((fills partition member).2 isEqual)
      have counted : final.getPartitions.length = k := by
        have sizes : ∀ state ∈ mergeStatesIn order states.length states, state.sets.length = k :=
          mergeStatesIn_invariant order
            (fun _ _ stateSets otherSets => (KkState.merge_spec stateSets otherSets).1)
            states.length states spec.1
        rw [mergedEq] at sizes
        rw [KkState.getPartitions, List.length_map, sizes final List.mem_cons_self]
      have found : itemAt (final :: rest) 0 = .ok final := rfl
      rw [getSeqlenBalancedPartitionsIn, raiseIf, if_neg (not_not.mpr enough), ok_bind,
        karmarkarKarpIn, initialized, ok_bind, mergedEq, found, ok_bind]
      dsimp only
      rw [sizes, ok_bind, pure_eq_ok, ok_bind]
      exact checkAndSortPartitions_ok counted packs fun partition member =>
        (fills partition member).1

/-! ## Equal sizes -/

/-- `k` sets of one size. -/
structure KkState.Even (k : Nat) (state : KkState W) : Prop where
  sized : state.sets.length = k
  even : ∃ size, 0 < size ∧ ∀ set ∈ state.sets, set.items.length = size

theorem KkState.Even.merge {k : Nat} {state other : KkState W} (isEven : state.Even k)
    (otherEven : other.Even k) : (state.merge other).Even k := by
  rcases isEven.even with ⟨size, positive, sizes⟩
  rcases otherEven.even with ⟨otherSize, _, otherSizes⟩
  refine ⟨(KkState.merge_spec isEven.sized otherEven.sized).1, size + otherSize,
    Nat.add_pos_left positive _, ?_⟩
  intro set member
  rcases KkState.exists_of_mem_merge member with ⟨left, inLeft, right, inRight, rfl⟩
  rw [KkSet.merge_items, List.length_append, sizes left inLeft, otherSizes right inRight]

theorem KkState.init_even {items : List (Nat × W)} {k : Nat} (sized : items.length = k) : ∃ state, KkState.init items k = .ok state ∧ state.Even k := by
  have initialized : KkState.init items k = .ok ⟨sortSets (items.map (fun item =>
      KkSet.empty.add item.1 item.2) ++ List.replicate (k - items.length) KkSet.empty)⟩ := by
    rw [KkState.init, raiseIf, if_neg (not_not.mpr (Or.inr sized)), ok_bind, raiseIf,
      if_neg (by omega), ok_bind, pure_eq_ok]
  refine ⟨_, initialized, (KkState.init_spec initialized).1, 1, Nat.one_pos, ?_⟩
  intro set member
  rw [(sortSets_perm _).mem_iff, sized, Nat.sub_self, List.replicate_zero, List.append_nil] at member
  rcases List.mem_map.mp member with ⟨item, _, rfl⟩
  rfl

theorem initialStates_even {entries : List (W × Nat)} {k : Nat} (positive : 0 < k)
    (divides : k ∣ entries.length) (enough : k ≤ entries.length) :
    ∃ states, initialStates entries k true = .ok states ∧ states ≠ [] ∧
      ∀ state ∈ states, state.Even k := by
  have rounds : (entries.length - 0 + k - 1) / k = entries.length / k := by
    rcases divides with ⟨blocks, isMultiple⟩
    rw [isMultiple, Nat.sub_zero, Nat.mul_div_cancel_left _ positive,
      Nat.div_eq_iff positive, Nat.mul_comm blocks]
    omega
  rcases mapM_exists_forall (fun offset => KkState.init
      (((entries.drop offset).take k).map Prod.swap) k) (KkState.Even k)
      (pyRange 0 entries.length k) (by
        intro offset member
        rw [pyRange, rounds] at member
        rcases List.mem_range'.mp member with ⟨block, inside, rfl⟩
        apply KkState.init_even
        have whole := Nat.div_mul_cancel divides
        have bounded : (block + 1) * k ≤ entries.length / k * k := Nat.mul_le_mul_right k inside
        rw [List.length_map, List.length_take, List.length_drop, Nat.zero_add]
        rw [whole, Nat.succ_mul, Nat.mul_comm block] at bounded
        omega) with ⟨states, initialized, sameLength, areEven⟩
  refine ⟨states, ?_, ?_, areEven⟩
  · rw [initialStates, raiseIf, if_neg (Nat.ne_of_gt positive), ok_bind, raiseIf,
      if_neg (not_not.mpr (Nat.mod_eq_zero_of_dvd divides)), ok_bind, initialized]
  · intro noState
    rw [noState, List.length_nil, pyRange, List.length_range', rounds] at sameLength
    exact absurd sameLength.symm (Nat.ne_of_gt (Nat.div_pos enough positive))

theorem balancedPartitions_equalSize (order : HeapOrder W) (seqlenList : List W) {k : Nat}
    (positive : 0 < k) (divides : k ∣ seqlenList.length) (enough : k ≤ seqlenList.length) :
    ∃ partitions, getSeqlenBalancedPartitionsIn order seqlenList k true = .ok partitions := by
  have sorted := List.perm_insertionSort (fun left right : W × Nat =>
    entryLess right left = false) seqlenList.zipIdx
  have sameLength := sorted.length_eq
  rw [List.length_zipIdx] at sameLength
  rcases initialStates_even positive (sameLength.symm ▸ divides) (sameLength.symm ▸ enough) with
    ⟨states, initialized, someState, areEven⟩
  apply getSeqlenBalancedPartitionsIn_ok order (fun _ _ => KkState.Even.merge) enough initialized
    someState areEven
  intro state isEven packs partition member
  rcases isEven.even with ⟨size, someItem, sizes⟩
  have partitionSizes : ∀ other ∈ state.getPartitions, other.length = size := by
    intro other inPartitions
    rcases List.mem_map.mp inPartitions with ⟨set, inSets, rfl⟩
    rw [List.length_map, sizes set inSets]
  have total := packs.length_eq
  have counted : (state.getPartitions.map List.length).sum = k * size := by
    rw [List.map_congr_left partitionSizes, List.map_const', List.sum_replicate,
      KkState.getPartitions, List.length_map, isEven.sized, nsmul_eq_mul, Nat.cast_id]
  rw [List.length_flatten, counted, List.length_range] at total
  constructor
  · intro isEmpty
    have noItem := partitionSizes partition member
    rw [isEmpty, List.length_nil] at noItem
    omega
  · intro _
    rw [partitionSizes partition member, Nat.mul_comm, total]

end Merging

/-! ## Free sizes -/

section Filled

structure KkSet.Summed (set : KkSet ℚ) : Prop where
  recorded : set.sum = (set.items.map Prod.snd).sum
  positive : ∀ item ∈ set.items, 0 < item.2

theorem foldl_add_sum : ∀ (items : List (Nat × ℚ)) (set : KkSet ℚ),
    (items.foldl (fun merged item => KkSet.add merged item.1 item.2) set).sum =
      set.sum + (items.map Prod.snd).sum
  | [], set => by simp
  | item :: rest, set => by
      rw [List.foldl_cons, foldl_add_sum rest, List.map_cons, List.sum_cons, ← add_assoc]
      rfl

theorem KkSet.Summed.merge {set other : KkSet ℚ} (summed : set.Summed)
    (otherSummed : other.Summed) : (set.merge other).Summed where
  recorded := by
    rw [KkSet.merge_items, List.map_append, List.sum_append, ← summed.recorded, KkSet.merge,
      foldl_add_sum]
  positive item member := by
    rw [KkSet.merge_items, List.mem_append] at member
    exact member.elim (summed.positive item) (otherSummed.positive item)

theorem KkSet.Summed.sum_pos {set : KkSet ℚ} (summed : set.Summed) (someItem : set.items ≠ []) :
    0 < set.sum := by
  rw [summed.recorded]
  apply List.sum_pos
  · intro value member
    rcases List.mem_map.mp member with ⟨item, inItems, rfl⟩
    exact summed.positive item inItems
  · rwa [Ne, List.map_eq_nil_iff]

theorem KkSet.Summed.sum_empty {set : KkSet ℚ} (summed : set.Summed) (noItem : set.items = []) :
    set.sum = 0 := by
  rw [summed.recorded, noItem]
  rfl

theorem KkSet.Summed.empty_less {set other : KkSet ℚ} (summed : set.Summed)
    (otherSummed : other.Summed) (noItem : set.items = []) (someItem : other.items ≠ []) :
    set.less other = true := by
  have positive := otherSummed.sum_pos someItem
  have different : (set.sum != other.sum) = true := by
    rw [summed.sum_empty noItem, bne_iff_ne]
    exact ne_of_lt positive
  rw [KkSet.less, if_pos different, summed.sum_empty noItem]
  exact decide_eq_true positive

theorem KkSet.Summed.not_less_empty {set other : KkSet ℚ} (summed : set.Summed)
    (otherSummed : other.Summed) (noItem : other.items = []) : set.less other = false := by
  have nonneg : ¬ set.sum < 0 := by
    by_cases isEmpty : set.items = []
    · rw [summed.sum_empty isEmpty]
      exact lt_irrefl 0
    · exact not_lt_of_gt (summed.sum_pos isEmpty)
  rw [KkSet.less, otherSummed.sum_empty noItem, noItem, List.length_nil]
  by_cases different : (set.sum != 0) = true
  · rw [if_pos different]
    exact decide_eq_false nonneg
  · rw [if_neg different]
    by_cases longer : set.items.length ≠ 0
    · rw [if_pos longer]
      exact decide_eq_false (Nat.not_lt_zero _)
    · rw [if_neg longer, itemsLess]

def FilledFirst (sets : List (KkSet ℚ)) : Prop :=
  sets.Pairwise fun set other => set.items = [] → other.items = []

theorem filledFirst_orderedInsert {set : KkSet ℚ} (summed : set.Summed) :
    ∀ {sets : List (KkSet ℚ)}, (∀ other ∈ sets, KkSet.Summed other) → FilledFirst sets →
      FilledFirst (sets.orderedInsert (fun left right => left.less right = false) set)
  | [], _, _ => List.pairwise_singleton _ _
  | first :: rest, allSummed, filled => by
      rw [FilledFirst, List.pairwise_cons] at filled
      rw [List.forall_mem_cons] at allSummed
      rw [List.orderedInsert_cons]
      by_cases before : set.less first = false
      · rw [if_pos before, FilledFirst, List.pairwise_cons, List.pairwise_cons]
        have emptyThen : set.items = [] → first.items = [] := by
          intro noItem
          by_contra someItem
          rw [summed.empty_less allSummed.1 noItem someItem] at before
          cases before
        refine ⟨List.forall_mem_cons.mpr ⟨emptyThen, ?_⟩, filled⟩
        exact fun other member noItem => filled.1 other member (emptyThen noItem)
      · rw [if_neg before, FilledFirst, List.pairwise_cons]
        refine ⟨?_, filledFirst_orderedInsert summed allSummed.2 filled.2⟩
        intro other member noItem
        exact absurd (summed.not_less_empty allSummed.1 noItem) before

theorem sortSets_filledFirst : ∀ {sets : List (KkSet ℚ)},
    (∀ set ∈ sets, KkSet.Summed set) → FilledFirst (sortSets sets)
  | [], _ => List.Pairwise.nil
  | set :: rest, allSummed => by
      rw [List.forall_mem_cons] at allSummed
      apply filledFirst_orderedInsert allSummed.1 _ (sortSets_filledFirst allSummed.2)
      intro other member
      exact allSummed.2 other ((sortSets_perm rest).mem_iff.mp member)

def filledCount (sets : List (KkSet ℚ)) : Nat := sets.countP fun set => set.items ≠ []

theorem filledCount_eq_length {sets : List (KkSet ℚ)} (filled : ∀ set ∈ sets, set.items ≠ []) :
    filledCount sets = sets.length :=
  List.countP_eq_length.mpr fun set member => decide_eq_true (filled set member)

theorem filledCount_eq_zero {sets : List (KkSet ℚ)} (empty : ∀ set ∈ sets, set.items = []) :
    filledCount sets = 0 :=
  List.countP_eq_zero.mpr fun set member someItem => of_decide_eq_true someItem (empty set member)

theorem filledCount_cons {set : KkSet ℚ} (someItem : set.items ≠ []) (rest : List (KkSet ℚ)) :
    filledCount (set :: rest) = filledCount rest + 1 :=
  List.countP_cons_of_pos (decide_eq_true someItem)

theorem le_filledCount_cons (set : KkSet ℚ) (rest : List (KkSet ℚ)) :
    filledCount rest ≤ filledCount (set :: rest) :=
  (List.sublist_cons_self set rest).countP_le

theorem FilledFirst.split : ∀ {sets : List (KkSet ℚ)}, FilledFirst sets →
    ∃ front back, sets = front ++ back ∧ (∀ set ∈ front, KkSet.items set ≠ []) ∧
      front.length = filledCount sets
  | [], _ => ⟨[], [], rfl, nofun, rfl⟩
  | set :: rest, filled => by
      rw [FilledFirst, List.pairwise_cons] at filled
      by_cases noItem : set.items = []
      · refine ⟨[], set :: rest, rfl, nofun, ?_⟩
        rw [filledCount_eq_zero (List.forall_mem_cons.mpr
          ⟨noItem, fun other member => filled.1 other member noItem⟩)]
        rfl
      · rcases FilledFirst.split filled.2 with ⟨front, back, rfl, someItems, counted⟩
        refine ⟨set :: front, back, rfl, List.forall_mem_cons.mpr ⟨noItem, someItems⟩, ?_⟩
        rw [List.length_cons, counted, filledCount_cons noItem]

/-- Filled sets from the front meet filled sets from the back. -/
theorem filledCount_zipWith : ∀ {front back others filled : List (KkSet ℚ)},
    (∀ set ∈ front, set.items ≠ []) → (∀ set ∈ filled, KkSet.items set ≠ []) →
      front.length + back.length = others.length + filled.length →
        min (front.length + back.length) (front.length + filled.length) ≤
          filledCount (List.zipWith KkSet.merge (front ++ back) (others ++ filled))
  | front, back, [], filled, _, someFilled, sameLength => by
      rw [List.length_nil, Nat.zero_add] at sameLength
      rw [List.nil_append, filledCount_eq_length]
      · rw [List.length_zipWith, List.length_append]
        omega
      · intro set member
        rcases exists_of_mem_zipWith member with ⟨left, _, right, inFilled, rfl⟩
        rw [KkSet.merge_items]
        exact List.append_ne_nil_of_right_ne_nil _ (someFilled right inFilled)
  | [], [], other :: others, filled, _, _, sameLength => by
      rw [List.length_cons, List.length_nil] at sameLength
      omega
  | [], set :: back, other :: others, filled, noFront, someFilled, sameLength => by
      rw [List.length_nil, List.length_cons, List.length_cons] at sameLength
      have shorter : ([] : List (KkSet ℚ)).length + back.length = others.length + filled.length := by
        rw [List.length_nil]
        omega
      have later := filledCount_zipWith noFront someFilled shorter
      have more := le_filledCount_cons (set.merge other)
        (List.zipWith KkSet.merge back (others ++ filled))
      rw [List.nil_append, List.length_nil, Nat.zero_add, Nat.zero_add] at later
      rw [List.nil_append, List.cons_append, List.zipWith_cons_cons, List.length_nil,
        List.length_cons]
      omega
  | set :: front, back, other :: others, filled, someFront, someFilled, sameLength => by
      rw [List.forall_mem_cons] at someFront
      rw [List.length_cons, List.length_cons] at sameLength
      have shorter : front.length + back.length = others.length + filled.length := by omega
      have later := filledCount_zipWith someFront.2 someFilled shorter
      have someItem : (set.merge other).items ≠ [] := by
        rw [KkSet.merge_items]
        exact List.append_ne_nil_of_left_ne_nil someFront.1 _
      rw [List.cons_append, List.cons_append, List.zipWith_cons_cons, filledCount_cons someItem,
        List.length_cons]
      omega

/-- `k` sets of positive values, as many of them filled as there are values. -/
structure KkState.Filled (k : Nat) (state : KkState ℚ) : Prop where
  sized : state.sets.length = k
  summed : ∀ set ∈ state.sets, set.Summed
  first : FilledFirst state.sets
  enough : min k state.indices.length ≤ filledCount state.sets

theorem KkState.Filled.merge {k : Nat} {state other : KkState ℚ} (filled : state.Filled k)
    (otherFilled : other.Filled k) : (state.merge other).Filled k := by
  have spec := KkState.merge_spec filled.sized otherFilled.sized
  have summed : ∀ set ∈ List.zipWith KkSet.merge state.sets other.sets.reverse, set.Summed := by
    intro set member
    rcases exists_of_mem_zipWith member with ⟨left, inLeft, right, inRight, rfl⟩
    exact (filled.summed left inLeft).merge (otherFilled.summed right (List.mem_reverse.mp inRight))
  refine ⟨spec.1, ?_, sortSets_filledFirst summed, ?_⟩
  · intro set member
    exact summed set ((sortSets_perm _).mem_iff.mp member)
  · rcases filled.first.split with ⟨front, back, setsEq, someFront, counted⟩
    rcases otherFilled.first.split with ⟨otherFront, otherBack, otherEq, someOther, otherCounted⟩
    have sized := filled.sized
    have otherSized := otherFilled.sized
    rw [setsEq, List.length_append] at sized
    rw [otherEq, List.length_append] at otherSized
    have sameLength : front.length + back.length =
        otherBack.reverse.length + otherFront.reverse.length := by
      rw [List.length_reverse, List.length_reverse]
      omega
    have merged := filledCount_zipWith someFront (fun set member =>
      someOther set (List.mem_reverse.mp member)) sameLength
    have total := spec.2.length_eq
    have enough := filled.enough
    have otherEnough := otherFilled.enough
    rw [← counted] at enough
    rw [← otherCounted] at otherEnough
    rw [List.length_reverse, ← List.reverse_append, ← setsEq, ← otherEq] at merged
    rw [KkState.merge, filledCount, (sortSets_perm _).countP_eq, ← filledCount]
    rw [List.length_append, KkState.merge] at total
    rw [total]
    omega

theorem KkState.init_filled {item : Nat × ℚ} {k : Nat} (positive : 0 < k)
    (positiveValue : 0 < item.2) :
    ∃ state, KkState.init [item] k = .ok state ∧ state.Filled k := by
  have initialized : KkState.init [item] k = .ok ⟨sortSets ([item].map (fun item =>
      KkSet.empty.add item.1 item.2) ++ List.replicate (k - [item].length) KkSet.empty)⟩ := by
    have single : [item].length = 1 := rfl
    rw [KkState.init, raiseIf, if_neg (not_not.mpr (Or.inl single)), ok_bind, raiseIf,
      if_neg (by omega), ok_bind, pure_eq_ok]
  have spec := KkState.init_spec initialized
  have emptySummed : (KkSet.empty : KkSet ℚ).Summed := by
    refine ⟨rfl, ?_⟩
    intro other member
    cases member
  have singleSummed : ((KkSet.empty : KkSet ℚ).add item.1 item.2).Summed := by
    refine ⟨?_, ?_⟩
    · change 0 + item.2 = ([item].map Prod.snd).sum
      rw [List.map_singleton, List.sum_singleton, zero_add]
    · intro other member
      rw [List.mem_singleton.mp member]
      exact positiveValue
  have summed : ∀ set ∈ [item].map (fun item => (KkSet.empty : KkSet ℚ).add item.1 item.2) ++
      List.replicate (k - [item].length) KkSet.empty, KkSet.Summed set := by
    intro set member
    rcases List.mem_append.mp member with isSingle | isEmpty
    · rw [List.mem_singleton.mp isSingle]
      exact singleSummed
    · rw [List.eq_of_mem_replicate isEmpty]
      exact emptySummed
  refine ⟨_, initialized, spec.1, ?_, sortSets_filledFirst summed, ?_⟩
  · intro set member
    exact summed set ((sortSets_perm _).mem_iff.mp member)
  · rw [spec.2.length_eq, filledCount, (sortSets_perm _).countP_eq, ← filledCount,
      List.map_singleton, List.map_singleton, List.singleton_append,
      filledCount_cons (List.cons_ne_nil item []), List.length_singleton]
    omega

/-- Positive values fill every set, in whatever order the states are merged. -/
theorem balancedPartitions_freeSizes (order : HeapOrder ℚ) {seqlenList : List ℚ} {k : Nat}
    (positive : 0 < k) (enough : k ≤ seqlenList.length)
    (positiveValues : ∀ value ∈ seqlenList, 0 < value) :
    ∃ partitions, getSeqlenBalancedPartitionsIn order seqlenList k false = .ok partitions := by
  have sorted := List.perm_insertionSort (fun left right : ℚ × Nat =>
    entryLess right left = false) seqlenList.zipIdx
  rcases mapM_exists_forall (fun entry : ℚ × Nat => KkState.init [entry.swap] k) (KkState.Filled k)
      (seqlenList.zipIdx.insertionSort fun left right => entryLess right left = false) (by
        intro entry member
        rw [sorted.mem_iff] at member
        exact KkState.init_filled positive
          (positiveValues entry.1 (List.fst_mem_of_mem_zipIdx member))) with
    ⟨states, initialized, sameLength, areFilled⟩
  rw [sorted.length_eq, List.length_zipIdx] at sameLength
  have someState : states ≠ [] := by
    intro noState
    rw [noState, List.length_nil] at sameLength
    omega
  apply getSeqlenBalancedPartitionsIn_ok order (fun _ _ => KkState.Filled.merge) enough
    (by rw [initialStates, initialized]) someState areFilled
  intro state filled packs partition member
  refine ⟨?_, fun equal => by cases equal⟩
  have total := packs.length_eq
  rw [KkState.getPartitions_flatten, List.length_range] at total
  have allFilled : filledCount state.sets = state.sets.length := by
    have atMost := List.countP_le_length (p := fun set : KkSet ℚ => decide (set.items ≠ []))
      (l := state.sets)
    have atLeast := filled.enough
    rw [filledCount] at atLeast ⊢
    rw [total, Nat.min_eq_left enough, ← filled.sized] at atLeast
    omega
  rcases List.mem_map.mp member with ⟨set, inSets, rfl⟩
  have someItem := of_decide_eq_true (List.countP_eq_length.mp allFilled set inSets)
  rwa [Ne, List.map_eq_nil_iff]

end Filled

end Vime.Utils
