import Mathlib.Algebra.Order.BigOperators.Group.List
import Vime.Utils.SeqlenBalancing

/-! # What packing and balancing keep

First-fit packing, splitting and balanced partitions hold every index once, leave no
bin empty, and put a sample above the cap alone.
-/

namespace Vime.Utils

open Vime.Foundation

/-! ## First fit -/

def Capped (cap : Nat) (lengths bin : List Nat) : Prop :=
  cap < binTokens lengths bin → bin.length = 1

theorem binTokens_append (lengths left right : List Nat) :
    binTokens lengths (left ++ right) = binTokens lengths left + binTokens lengths right := by
  rw [binTokens, List.map_append, List.sum_append]
  rfl

theorem binTokens_singleton (lengths : List Nat) (index : Nat) :
    binTokens lengths [index] = lengthAt lengths index := by
  simp [binTokens]

theorem binTokens_perm (lengths : List Nat) {left right : List Nat} (perm : left.Perm right) :
    binTokens lengths left = binTokens lengths right :=
  (perm.map (lengthAt lengths)).sum_eq

structure FirstFitBin (cap : Nat) (lengths : List Nat) (entry : List Nat × Nat) : Prop where
  recorded : entry.2 = binTokens lengths entry.1
  nonempty : entry.1 ≠ []
  capped : Capped cap lengths entry.1

theorem placeFirstFit_bins {cap idx length : Nat} {lengths : List Nat}
    (atIdx : lengthAt lengths idx = length) :
    ∀ bins : List (List Nat × Nat), (∀ entry ∈ bins, FirstFitBin cap lengths entry) →
      ∀ entry ∈ placeFirstFit cap idx length bins, FirstFitBin cap lengths entry
  | [], _, entry, member => by
      rw [placeFirstFit, List.mem_singleton] at member
      subst member
      refine ⟨?_, by simp, fun _ => rfl⟩
      rw [binTokens_singleton, atIdx]
  | (bin, binSum) :: rest, valid, entry, member => by
      rcases List.forall_mem_cons.mp valid with ⟨first, others⟩
      rw [placeFirstFit] at member
      by_cases fits : binSum + length ≤ cap
      · rw [if_pos fits] at member
        rcases List.mem_cons.mp member with rfl | later
        · have sumEq : binSum + length = binTokens lengths (bin ++ [idx]) := by
            rw [binTokens_append, binTokens_singleton, atIdx, ← first.recorded]
          refine ⟨sumEq, by simp, fun exceeds => ?_⟩
          dsimp only at exceeds
          omega
        · exact others entry later
      · rw [if_neg fits] at member
        rcases List.mem_cons.mp member with rfl | later
        · exact first
        · exact placeFirstFit_bins atIdx rest others entry later

theorem placeFirstFit_perm (cap idx length : Nat) :
    ∀ bins : List (List Nat × Nat),
      ((placeFirstFit cap idx length bins).map Prod.fst).flatten.Perm
        ((bins.map Prod.fst).flatten ++ [idx])
  | [] => by simp [placeFirstFit]
  | (bin, binSum) :: rest => by
      rw [placeFirstFit]
      by_cases fits : binSum + length ≤ cap
      · rw [if_pos fits]
        simp only [List.map_cons, List.flatten_cons, List.append_assoc]
        exact List.Perm.append_left bin List.perm_append_comm
      · rw [if_neg fits]
        simp only [List.map_cons, List.flatten_cons, List.append_assoc]
        exact List.Perm.append_left bin (placeFirstFit_perm cap idx length rest)

theorem firstFit_loop_perm (cap : Nat) :
    ∀ (lengths : List Nat) (start : Nat) (bins : List (List Nat × Nat)),
      (((lengths.zipIdx start).foldl
        (fun bins entry => placeFirstFit cap entry.2 entry.1 bins) bins).map
          Prod.fst).flatten.Perm
        ((bins.map Prod.fst).flatten ++ List.range' start lengths.length)
  | [], start, bins => by simp
  | length :: rest, start, bins => by
      rw [List.zipIdx_cons, List.foldl_cons]
      apply (firstFit_loop_perm cap rest (start + 1) _).trans
      rw [List.length_cons, List.range'_succ, ← List.singleton_append, ← List.append_assoc]
      exact List.Perm.append_right _ (placeFirstFit_perm cap start length bins)

theorem firstFitPack_packs (lengths : List Nat) (cap : Nat) :
    Packs lengths.length (firstFitPack lengths cap) := by
  have placed := firstFit_loop_perm cap lengths 0 []
  rwa [List.map_nil, List.flatten_nil, List.nil_append, ← List.range_eq_range'] at placed

theorem lengthAt_of_mem_zipIdx {lengths : List Nat} {entry : Nat × Nat}
    (member : entry ∈ lengths.zipIdx) : lengthAt lengths entry.2 = entry.1 := by
  have found := List.mem_zipIdx_iff_getElem?.mp member
  simp [lengthAt, found]

theorem firstFitPack_bins (lengths : List Nat) (cap : Nat) :
    ∀ bin ∈ firstFitPack lengths cap, bin ≠ [] ∧ Capped cap lengths bin := by
  intro bin member
  have valid := foldl_invariant
    (fun (bins : List (List Nat × Nat)) (entry : Nat × Nat) =>
      placeFirstFit cap entry.2 entry.1 bins)
    (fun bins => ∀ entry ∈ bins, FirstFitBin cap lengths entry) lengths.zipIdx
    (fun entry inLengths bins valid =>
      placeFirstFit_bins (lengthAt_of_mem_zipIdx inLengths) bins valid) []
    (by simp)
  rcases List.mem_map.mp member with ⟨entry, placed, rfl⟩
  exact ⟨(valid entry placed).nonempty, (valid entry placed).capped⟩

/-! ## Splitting -/

theorem Halves.place_perm (lengths : List Nat) (halves : Halves) (idx : Nat) :
    ((halves.place lengths idx).left ++ (halves.place lengths idx).right).Perm
      (halves.left ++ halves.right ++ [idx]) := by
  rw [Halves.place]
  by_cases toLeft : halves.leftSum ≤ halves.rightSum
  · rw [if_pos toLeft]
    simp only [List.append_assoc]
    exact List.Perm.append_left _ List.perm_append_comm
  · rw [if_neg toLeft]
    simp only [List.append_assoc]
    exact List.Perm.refl _

theorem foldl_place_perm (lengths : List Nat) :
    ∀ (indices : List Nat) (halves : Halves),
      ((indices.foldl (Halves.place lengths) halves).left ++
        (indices.foldl (Halves.place lengths) halves).right).Perm
          (halves.left ++ halves.right ++ indices)
  | [], halves => by simp
  | idx :: rest, halves => by
      rw [List.foldl_cons]
      apply (foldl_place_perm lengths rest _).trans
      rw [← List.singleton_append, ← List.append_assoc]
      exact List.Perm.append_right rest (halves.place_perm lengths idx)

theorem sortByTokens_perm (bin lengths : List Nat) : (sortByTokens bin lengths).Perm bin :=
  List.perm_insertionSort _ bin

theorem splitBinByTokens_perm (bin lengths : List Nat) :
    ((splitBinByTokens bin lengths).left ++ (splitBinByTokens bin lengths).right).Perm
      bin := by
  have placed := foldl_place_perm lengths (sortByTokens bin lengths) {}
  rw [List.nil_append, List.nil_append] at placed
  exact placed.trans (sortByTokens_perm bin lengths)

theorem Halves.place_nonempty (lengths : List Nat) (halves : Halves) (idx : Nat)
    (nonempty : halves.left ≠ [] ∧ halves.right ≠ []) :
    (halves.place lengths idx).left ≠ [] ∧ (halves.place lengths idx).right ≠ [] := by
  rw [Halves.place]
  by_cases toLeft : halves.leftSum ≤ halves.rightSum
  · rw [if_pos toLeft]
    exact ⟨by simp, nonempty.2⟩
  · rw [if_neg toLeft]
    exact ⟨nonempty.1, by simp⟩

theorem splitBinByTokens_nonempty {bin lengths : List Nat} (several : 1 < bin.length)
    (positive : ∀ index ∈ bin, 0 < lengthAt lengths index) :
    (splitBinByTokens bin lengths).left ≠ [] ∧
      (splitBinByTokens bin lengths).right ≠ [] := by
  have sorted := sortByTokens_perm bin lengths
  rw [splitBinByTokens]
  cases orderEq : sortByTokens bin lengths with
  | nil =>
      have lengthEq := sorted.length_eq
      rw [orderEq, List.length_nil] at lengthEq
      omega
  | cons first rest =>
      cases rest with
      | nil =>
          have lengthEq := sorted.length_eq
          rw [orderEq, List.length_singleton] at lengthEq
          omega
      | cons second others =>
          have firstIn : first ∈ bin := sorted.mem_iff.mp (by rw [orderEq]; simp)
          have firstPositive := positive first firstIn
          rw [List.foldl_cons, List.foldl_cons]
          apply foldl_invariant (Halves.place lengths)
            (fun halves => halves.left ≠ [] ∧ halves.right ≠ []) others
            (fun idx _ halves => halves.place_nonempty lengths idx)
          simp [Halves.place, Nat.ne_of_gt firstPositive]

theorem splitBinByTokens_capped {cap : Nat} {bin lengths : List Nat}
    (several : 1 < bin.length) (capped : Capped cap lengths bin) :
    Capped cap lengths (splitBinByTokens bin lengths).left ∧
      Capped cap lengths (splitBinByTokens bin lengths).right := by
  have total := binTokens_perm lengths (splitBinByTokens_perm bin lengths)
  rw [binTokens_append] at total
  have below : binTokens lengths bin ≤ cap := by
    by_contra exceeds
    have alone := capped (by omega)
    omega
  constructor
  · intro exceeds
    omega
  · intro exceeds
    omega

/-! ## Expanding to a count -/

theorem laterCandidate_mem (best candidate : Nat × Nat) :
    laterCandidate best candidate = best ∨ laterCandidate best candidate = candidate := by
  rw [laterCandidate]
  by_cases later : best.1 < candidate.1 ∨ (best.1 = candidate.1 ∧ best.2 < candidate.2)
  · exact Or.inr (if_pos later)
  · exact Or.inl (if_neg later)

theorem foldl_laterCandidate_mem :
    ∀ (candidates : List (Nat × Nat)) (first : Nat × Nat),
      candidates.foldl laterCandidate first ∈ first :: candidates
  | [], first => by simp
  | candidate :: rest, first => by
      rw [List.foldl_cons]
      have later := foldl_laterCandidate_mem rest (laterCandidate first candidate)
      rcases List.mem_cons.mp later with kept | inRest
      · rw [kept]
        rcases laterCandidate_mem first candidate with same | next
        · rw [same]
          exact List.mem_cons_self
        · rw [next]
          exact List.mem_cons_of_mem _ List.mem_cons_self
      · exact List.mem_cons_of_mem _ (List.mem_cons_of_mem _ inRest)

theorem largestMultiSampleBin_eq_some {bins : List (List Nat)} {lengths : List Nat}
    {idx : Nat} (chosen : largestMultiSampleBin bins lengths = some idx) :
    ∃ bin, bins[idx]? = some bin ∧ 1 < bin.length := by
  rw [largestMultiSampleBin] at chosen
  generalize candidatesEq : (bins.zipIdx.filterMap fun entry =>
    if 1 < entry.1.length then some (binTokens lengths entry.1, entry.2) else none) =
      candidates at chosen
  cases candidates with
  | nil => simp at chosen
  | cons first rest =>
      have member := foldl_laterCandidate_mem rest first
      rw [← candidatesEq] at member
      rcases List.mem_filterMap.mp member with ⟨entry, inBins, several⟩
      by_cases multi : 1 < entry.1.length
      · rw [if_pos multi, Option.some.injEq] at several
        have indexEq : entry.2 = idx := by
          rw [← Option.some.inj chosen, ← several]
        refine ⟨entry.1, ?_, multi⟩
        rw [← indexEq]
        exact List.mem_zipIdx_iff_getElem?.mp inBins
      · rw [if_neg multi] at several
        cases several

section Expand

variable (lengths : List Nat) (invariant : List (List Nat) → Prop)
  (splits : ∀ (bins : List (List Nat)) (idx : Nat) (bin : List Nat),
    bins[idx]? = some bin → 1 < bin.length → invariant bins →
      invariant (bins.set idx (splitBinByTokens bin lengths).left ++
        [(splitBinByTokens bin lengths).right]))

include splits

theorem splitLargest_invariant :
    ∀ (missing : Nat) (bins : List (List Nat)), invariant bins →
      invariant (splitLargest lengths missing bins)
  | 0, bins, holds => holds
  | missing + 1, bins, holds => by
      rw [splitLargest]
      cases chosen : largestMultiSampleBin bins lengths with
      | none => exact holds
      | some idx =>
          rcases largestMultiSampleBin_eq_some chosen with ⟨bin, found, several⟩
          dsimp only
          have binEq : bins.getD idx [] = bin := by simp [found]
          rw [binEq]
          exact splitLargest_invariant missing _ (splits bins idx bin found several holds)

theorem expandBinsBySplitting_invariant (bins : List (List Nat)) (targetCount : Nat)
    (holds : invariant bins) :
    invariant (expandBinsBySplitting bins targetCount lengths) :=
  splitLargest_invariant lengths invariant splits _ bins holds

end Expand

theorem expandBinsBySplitting_packs {count : Nat} {bins : List (List Nat)}
    (packs : Packs count bins) (targetCount : Nat) (lengths : List Nat) :
    Packs count (expandBinsBySplitting bins targetCount lengths) := by
  apply expandBinsBySplitting_invariant lengths (Packs count) _ bins targetCount packs
  intro bins idx bin found _ packs
  exact (flatten_split_perm found (splitBinByTokens_perm bin lengths)).trans packs

theorem mem_split {bins : List (List α)} {idx : Nat} {left right bin : List α}
    (member : bin ∈ bins.set idx left ++ [right]) :
    bin ∈ bins ∨ bin = left ∨ bin = right := by
  rcases List.mem_append.mp member with inSet | isRight
  · rcases List.mem_or_eq_of_mem_set inSet with kept | isLeft
    · exact Or.inl kept
    · exact Or.inr (Or.inl isLeft)
  · exact Or.inr (Or.inr (List.mem_singleton.mp isRight))

theorem expandBinsBySplitting_nonempty {lengths : List Nat}
    (positive : ∀ index < lengths.length, 0 < lengthAt lengths index)
    {bins : List (List Nat)} (packs : Packs lengths.length bins)
    (nonempty : ∀ bin ∈ bins, bin ≠ []) (targetCount : Nat) :
    ∀ bin ∈ expandBinsBySplitting bins targetCount lengths, bin ≠ [] := by
  have both := expandBinsBySplitting_invariant lengths
    (fun bins => Packs lengths.length bins ∧ ∀ bin ∈ bins, bin ≠ [])
    (fun bins idx bin found several holds => by
      have inBins := List.mem_of_getElem? found
      have halves := splitBinByTokens_nonempty several fun index inBin =>
        positive index (holds.1.lt inBins inBin)
      refine ⟨(flatten_split_perm found (splitBinByTokens_perm bin lengths)).trans holds.1, ?_⟩
      intro other member
      rcases mem_split member with kept | isLeft | isRight
      · exact holds.2 other kept
      · exact isLeft ▸ halves.1
      · exact isRight ▸ halves.2)
    bins targetCount ⟨packs, nonempty⟩
  exact both.2

theorem expandBinsBySplitting_capped {cap : Nat} {lengths : List Nat}
    {bins : List (List Nat)} (capped : ∀ bin ∈ bins, Capped cap lengths bin)
    (targetCount : Nat) :
    ∀ bin ∈ expandBinsBySplitting bins targetCount lengths, Capped cap lengths bin := by
  apply expandBinsBySplitting_invariant lengths
    (fun bins => ∀ bin ∈ bins, Capped cap lengths bin) _ bins targetCount capped
  intro bins idx bin found several holds other member
  have halves := splitBinByTokens_capped several (holds bin (List.mem_of_getElem? found))
  rcases mem_split member with kept | isLeft | isRight
  · exact holds other kept
  · exact isLeft ▸ halves.1
  · exact isRight ▸ halves.2

/-! ## Balanced partitions -/

section Differencing

variable {W : Type} [Number W]

def KkSet.indices (set : KkSet W) : List Nat := set.items.map Prod.fst

def KkState.indices (state : KkState W) : List Nat := state.sets.flatMap KkSet.indices

omit [Number W] in
theorem KkState.getPartitions_flatten (state : KkState W) :
    state.getPartitions.flatten = state.indices := rfl

theorem foldl_add_items : ∀ (items : List (Nat × W)) (set : KkSet W),
    (items.foldl (fun merged item => KkSet.add merged item.1 item.2) set).items =
      set.items ++ items
  | [], set => by simp
  | item :: rest, set => by
      rw [List.foldl_cons, foldl_add_items, KkSet.add, List.append_assoc,
        List.singleton_append]

theorem KkSet.merge_indices (set other : KkSet W) :
    (set.merge other).indices = set.indices ++ other.indices := by
  rw [KkSet.indices, KkSet.merge, foldl_add_items, List.map_append]
  rfl

theorem zipWith_merge_indices : ∀ {sets others : List (KkSet W)},
    sets.length = others.length →
      ((List.zipWith KkSet.merge sets others).flatMap KkSet.indices).Perm
        (sets.flatMap KkSet.indices ++ others.flatMap KkSet.indices)
  | [], [], _ => by simp
  | set :: sets, other :: others, sameLength => by
      have later := zipWith_merge_indices (Nat.succ.inj sameLength)
      rw [List.zipWith_cons_cons, List.flatMap_cons, List.flatMap_cons, List.flatMap_cons,
        KkSet.merge_indices]
      simp only [List.append_assoc]
      apply List.Perm.append_left
      apply (List.Perm.append_left other.indices later).trans
      simp only [← List.append_assoc]
      exact List.Perm.append_right _ List.perm_append_comm

theorem sortSets_perm (sets : List (KkSet W)) : (sortSets sets).Perm sets :=
  List.perm_insertionSort _ sets

theorem KkState.merge_spec {state other : KkState W} {k : Nat}
    (stateSets : state.sets.length = k) (otherSets : other.sets.length = k) :
    (state.merge other).sets.length = k ∧
      (state.merge other).indices.Perm (state.indices ++ other.indices) := by
  have sorted := sortSets_perm (List.zipWith KkSet.merge state.sets other.sets.reverse)
  constructor
  · rw [KkState.merge, sorted.length_eq, List.length_zipWith, List.length_reverse]
    omega
  · apply (sorted.flatMap_right KkSet.indices).trans
    apply (zipWith_merge_indices (by rw [List.length_reverse]; omega)).trans
    apply List.Perm.append_left
    exact (List.reverse_perm other.sets).flatMap_right KkSet.indices

theorem KkState.init_spec {items : List (Nat × W)} {k : Nat} {state : KkState W}
    (initialized : KkState.init items k = .ok state) :
    state.sets.length = k ∧ state.indices.Perm (items.map Prod.fst) := by
  rw [KkState.init, raiseIf_bind_eq_ok, raiseIf_bind_eq_ok] at initialized
  rcases initialized with ⟨_, fits, stateEq⟩
  rw [pure_eq_ok, Except.ok.injEq] at stateEq
  subst stateEq
  have sorted := sortSets_perm
    (items.map (fun item => (KkSet.empty : KkSet W).add item.1 item.2) ++
      List.replicate (k - items.length) KkSet.empty)
  constructor
  · rw [sorted.length_eq, List.length_append, List.length_map, List.length_replicate]
    omega
  · apply (sorted.flatMap_right KkSet.indices).trans
    rw [List.flatMap_append, List.flatMap_map]
    have filled : items.flatMap (fun item =>
        ((KkSet.empty : KkSet W).add item.1 item.2).indices) = items.map Prod.fst :=
      List.map_eq_flatMap.symm
    have padding : (List.replicate (k - items.length) (KkSet.empty : KkSet W)).flatMap
        KkSet.indices = [] := by
      rw [List.flatMap_eq_nil_iff]
      intro set member
      rw [List.eq_of_mem_replicate member]
      rfl
    rw [filled, padding, List.append_nil]

/-- Merging all states leaves one, with the indices of all of them, in any order. -/
theorem mergeStatesIn_spec (order : HeapOrder W) {k : Nat} :
    ∀ (fuel : Nat) (states : List (KkState W)), states.length ≤ fuel + 1 →
      (∀ state ∈ states, state.sets.length = k) →
        (mergeStatesIn order fuel states).length ≤ 1 ∧
          ((mergeStatesIn order fuel states).flatMap KkState.indices).Perm
            (states.flatMap KkState.indices)
  | 0, states, enough, _ => ⟨enough, List.Perm.refl _⟩
  | fuel + 1, states, enough, sizes => by
      rw [mergeStatesIn]
      cases firstPop : order.pop states with
      | none =>
          rw [order.empty firstPop]
          exact ⟨Nat.zero_le 1, List.Perm.refl _⟩
      | some first =>
          rcases first with ⟨state0, afterFirst⟩
          have firstPerm := order.perm firstPop
          dsimp only
          cases secondPop : order.pop afterFirst with
          | none =>
              have lengthEq := firstPerm.length_eq
              rw [order.empty secondPop, List.length_singleton] at lengthEq
              exact ⟨by rw [← lengthEq], List.Perm.refl _⟩
          | some second =>
              rcases second with ⟨state1, afterSecond⟩
              have secondPerm := order.perm secondPop
              have allPerm : (state0 :: state1 :: afterSecond).Perm states :=
                (secondPerm.cons state0).trans firstPerm
              have sized (state : KkState W)
                  (member : state ∈ state0 :: state1 :: afterSecond) :
                  state.sets.length = k := sizes state (allPerm.mem_iff.mp member)
              have merged := KkState.merge_spec (sized state0 (by simp))
                (sized state1 (by simp))
              have lengthEq := allPerm.length_eq
              rw [List.length_cons, List.length_cons] at lengthEq
              have later := mergeStatesIn_spec order fuel (state0.merge state1 :: afterSecond)
                (by rw [List.length_cons]; omega)
                (List.forall_mem_cons.mpr
                  ⟨merged.1, fun state member => sized state (by simp [member])⟩)
              refine ⟨later.1, later.2.trans ?_⟩
              refine List.Perm.trans ?_ (allPerm.flatMap_right KkState.indices)
              rw [List.flatMap_cons, List.flatMap_cons, List.flatMap_cons,
                ← List.append_assoc]
              exact List.Perm.append_right _ merged.2

theorem mapM_init_spec {k : Nat} (groups : List (List (Nat × W)))
    {states : List (KkState W)}
    (initialized : List.Forall₂ (fun items state => KkState.init items k = .ok state)
      groups states) :
    (∀ state ∈ states, state.sets.length = k) ∧
      (states.flatMap KkState.indices).Perm (groups.flatten.map Prod.fst) := by
  induction initialized with
  | nil => exact ⟨by simp, List.Perm.refl _⟩
  | @cons items state groups states first _ induction =>
      have spec := KkState.init_spec first
      constructor
      · exact List.forall_mem_cons.mpr ⟨spec.1, induction.1⟩
      · rw [List.flatMap_cons, List.flatten_cons, List.map_append]
        exact spec.2.append induction.2

theorem initialStates_spec {entries : List (W × Nat)} {k : Nat} {equalSize : Bool}
    {states : List (KkState W)}
    (initialized : initialStates entries k equalSize = .ok states) :
    (∀ state ∈ states, state.sets.length = k) ∧
      (states.flatMap KkState.indices).Perm (entries.map Prod.snd) := by
  cases equalSize with
  | true =>
      rw [initialStates, raiseIf_bind_eq_ok, raiseIf_bind_eq_ok] at initialized
      rcases initialized with ⟨positive, divides, mapped⟩
      rw [mapM_eq_ok] at mapped
      have spec := mapM_init_spec _ (List.forall₂_map_left_iff.mpr mapped)
      refine ⟨spec.1, spec.2.trans ?_⟩
      have whole : (entries.length - 0 + k - 1) / k * k = entries.length := by
        have divisible := Nat.div_mul_cancel (Nat.dvd_of_mod_eq_zero (not_not.mp divides))
        have rounded := ceilDiv_mul (entries.length / k) (Nat.pos_of_ne_zero positive)
        rw [divisible] at rounded
        rw [Nat.sub_zero, rounded, divisible]
      have blocks := flatten_blocks entries k ((entries.length - 0 + k - 1) / k)
      rw [whole, List.take_length] at blocks
      have fromBlocks := congrArg (List.map Prod.snd) blocks
      rw [← fromBlocks, pyRange]
      simp only [List.map_flatten, List.map_map, Function.comp_def, Prod.fst_swap]
      exact List.Perm.refl _
  | false =>
      rw [initialStates, mapM_eq_ok] at initialized
      have spec := mapM_init_spec (entries.map fun entry => [entry.swap])
        (List.forall₂_map_left_iff.mpr initialized)
      refine ⟨spec.1, spec.2.trans ?_⟩
      rw [← List.flatMap_def, List.map_flatMap]
      exact List.Perm.of_eq List.map_eq_flatMap.symm

/-- The method partitions the indices of the list. -/
theorem karmarkarKarpIn_spec (order : HeapOrder W) {seqlenList : List W} {k : Nat}
    {equalSize : Bool} {partitions : List (List Nat)}
    (returned : karmarkarKarpIn order seqlenList k equalSize = .ok partitions) :
    Packs seqlenList.length partitions ∧
      (equalSize = true → ∀ partition ∈ partitions,
        partition.length * k = seqlenList.length) := by
  rw [karmarkarKarpIn] at returned
  rcases bind_eq_ok.mp returned with ⟨states, statesEq, afterStates⟩
  rcases bind_eq_ok.mp afterStates with ⟨finalState, finalEq, afterFinal⟩
  rcases bind_eq_ok.mp afterFinal with ⟨_, checked, partitionsEq⟩
  rw [pure_eq_ok, Except.ok.injEq] at partitionsEq
  subst partitionsEq
  have initial := initialStates_spec statesEq
  have merged := mergeStatesIn_spec order states.length states (Nat.le_succ _) initial.1
  constructor
  · have single : mergeStatesIn order states.length states = [finalState] := by
      rw [itemAt_eq_ok] at finalEq
      cases mergedEq : mergeStatesIn order states.length states with
      | nil => simp [mergedEq] at finalEq
      | cons first rest =>
          rw [mergedEq] at merged finalEq
          have noMore : rest = [] := List.length_eq_zero_iff.mp (by
            have short := merged.1
            rw [List.length_cons] at short
            omega)
          rw [noMore]
          simpa using finalEq
    rw [single, List.flatMap_singleton] at merged
    rw [Packs, KkState.getPartitions_flatten]
    apply merged.2.trans
    apply initial.2.trans
    apply ((List.perm_insertionSort _ seqlenList.zipIdx).map Prod.snd).trans
    rw [List.zipIdx_map_snd, ← List.range_eq_range']
  · intro isEqual partition member
    rw [forM_eq_ok] at checked
    have passed := checked partition member
    by_contra different
    rw [raiseIf, if_pos ⟨isEqual, different⟩] at passed
    cases passed

/-- The partitions hold every index once and are as many as asked for; none is empty,
and with `equal_size` they are of equal size. -/
theorem getSeqlenBalancedPartitionsIn_spec (order : HeapOrder W) {seqlenList : List W} {k : Nat}
    {equalSize : Bool} {partitions : List (List Nat)}
    (returned : getSeqlenBalancedPartitionsIn order seqlenList k equalSize = .ok partitions) :
    partitions.length = k ∧ Packs seqlenList.length partitions ∧
      (∀ partition ∈ partitions, partition ≠ []) ∧
      (equalSize = true → ∀ partition ∈ partitions,
        partition.length * k = seqlenList.length) := by
  rw [getSeqlenBalancedPartitionsIn, raiseIf_bind_eq_ok] at returned
  rcases bind_eq_ok.mp returned.2 with ⟨unsorted, unsortedEq, checked⟩
  have spec := karmarkarKarpIn_spec order unsortedEq
  rw [checkAndSortPartitions, raiseIf_bind_eq_ok] at checked
  rcases checked with ⟨countEq, afterCount⟩
  rcases bind_eq_ok.mp afterCount with ⟨_, nonempty, afterNonempty⟩
  rw [raiseIf_bind_eq_ok, pure_eq_ok, Except.ok.injEq] at afterNonempty
  rcases afterNonempty with ⟨_, sortedEq⟩
  subst sortedEq
  have sortPerm (partition : List Nat) :
      (partition.insertionSort (· ≤ ·)).Perm partition := List.perm_insertionSort _ partition
  refine ⟨?_, ?_, ?_, ?_⟩
  · rw [List.length_map]
    exact not_not.mp countEq
  · refine List.Perm.trans ?_ spec.1
    rw [← List.flatMap_def]
    exact (List.Perm.flatMap_left unsorted fun partition _ => sortPerm partition).trans
      (by rw [List.flatMap_id'])
  · intro partition member
    rcases List.mem_map.mp member with ⟨original, inUnsorted, rfl⟩
    rcases List.mem_iff_getElem?.mp inUnsorted with ⟨index, found⟩
    rw [forM_eq_ok] at nonempty
    have passed := nonempty (original, index) (List.mem_zipIdx_iff_getElem?.mpr found)
    intro isEmpty
    have originalEmpty : original = [] := by
      have perm := sortPerm original
      rw [isEmpty] at perm
      exact perm.symm.eq_nil
    rw [raiseIf, if_pos originalEmpty] at passed
    cases passed
  · intro isEqual partition member
    rcases List.mem_map.mp member with ⟨original, inUnsorted, rfl⟩
    rw [(sortPerm original).length_eq]
    exact spec.2 isEqual original inUnsorted

end Differencing

end Vime.Utils
