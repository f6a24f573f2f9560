import Mathlib.Data.Finset.Range
import Mathlib.Data.List.Sort
import Vime.Foundation.Bins
import Vime.Utils.FlopsUtils

/-! # Balanced partitions and bin packing

`vime/utils/seqlen_balancing.py`: the largest differencing method, first-fit packing,
and the splitting of bins up to a count.
-/

namespace Vime.Utils

open Vime.Foundation

/-! ## The largest differencing method -/

/-- `Set`: items `(index, value)` in the order they were added, and their sum. -/
structure KkSet (W : Type) where
  sum : W
  items : List (Nat × W)

/-- `State`: `k` sets in decreasing order. -/
structure KkState (W : Type) where
  sets : List (KkSet W)

section Differencing

variable {W : Type} [Number W]

/-- Python's order of two tuples `(index, value)`. -/
def itemLess (left right : Nat × W) : Bool :=
  if left.1 ≠ right.1 then decide (left.1 < right.1)
  else if left.2 == right.2 then false
  else Number.less left.2 right.2

def itemsLess : List (Nat × W) → List (Nat × W) → Bool
  | _, [] => false
  | [], _ :: _ => true
  | left :: lefts, right :: rights =>
      if left.1 = right.1 ∧ (left.2 == right.2) then itemsLess lefts rights
      else itemLess left right

/-- Python's order of two tuples `(seqlen, index)`. -/
def entryLess (left right : W × Nat) : Bool :=
  if left.1 == right.1 then decide (left.2 < right.2) else Number.less left.1 right.1

def KkSet.empty : KkSet W := ⟨0, []⟩

def KkSet.add (set : KkSet W) (idx : Nat) (val : W) : KkSet W where
  sum := set.sum + val
  items := set.items ++ [(idx, val)]

def KkSet.merge (set other : KkSet W) : KkSet W :=
  other.items.foldl (fun merged item => merged.add item.1 item.2) set

def KkSet.less (set other : KkSet W) : Bool :=
  if set.sum != other.sum then Number.less set.sum other.sum
  else if set.items.length ≠ other.items.length then
    decide (set.items.length < other.items.length)
  else itemsLess set.items other.items

def sortSets (sets : List (KkSet W)) : List (KkSet W) :=
  sets.insertionSort fun left right => left.less right = false

def KkState.init (items : List (Nat × W)) (k : Nat) : Except PyException (KkState W) := do
  raiseIf (¬ (items.length = 1 ∨ items.length = k))
    (.assertionError s!"{items.length} not in [1, {k}]")
  raiseIf (k < items.length) .indexError
  pure ⟨sortSets (items.map (fun item => KkSet.empty.add item.1 item.2) ++
    List.replicate (k - items.length) KkSet.empty)⟩

def KkState.getPartitions (state : KkState W) : List (List Nat) :=
  state.sets.map fun set => set.items.map Prod.fst

def KkState.merge (state other : KkState W) : KkState W :=
  ⟨sortSets (List.zipWith KkSet.merge state.sets other.sets.reverse)⟩

def KkState.largest (state : KkState W) : KkSet W :=
  state.sets.head?.getD KkSet.empty

def KkState.spread (state : KkState W) : W :=
  state.largest.sum - (state.sets.getLast?.getD KkSet.empty).sum

def KkState.less (state other : KkState W) : Bool :=
  if state.spread != other.spread then Number.less other.spread state.spread
  else other.largest.less state.largest

def heappop : List (KkState W) → Option (KkState W × List (KkState W))
  | [] => none
  | first :: rest =>
      match heappop rest with
      | none => some (first, [])
      | some (least, others) =>
          if least.less first then some (least, first :: others)
          else some (first, least :: others)

/-! ### The order of the heap -/

/-- An order in which a heap returns its states; that of equal states is left open. -/
structure HeapOrder (W : Type) where
  pop : List (KkState W) → Option (KkState W × List (KkState W))
  empty : ∀ {states : List (KkState W)}, pop states = none → states = []
  perm : ∀ {states : List (KkState W)} {popped : KkState W} {rest : List (KkState W)},
    pop states = some (popped, rest) → (popped :: rest).Perm states

theorem heappop_eq_none {states : List (KkState W)} (popped : heappop states = none) :
    states = [] := by
  cases states with
  | nil => rfl
  | cons first rest =>
      rw [heappop] at popped
      cases later : heappop rest with
      | none => simp [later] at popped
      | some found =>
          rw [later] at popped
          dsimp only at popped
          split at popped <;> cases popped

/-- The heap loses exactly the state it returns. -/
theorem heappop_perm : ∀ {states : List (KkState W)} {least : KkState W}
    {others : List (KkState W)}, heappop states = some (least, others) →
      (least :: others).Perm states
  | [], _, _, popped => by cases popped
  | first :: rest, least, others, popped => by
      rw [heappop] at popped
      cases later : heappop rest with
      | none =>
          rw [later, Option.some.injEq, Prod.mk.injEq] at popped
          rw [← popped.1, ← popped.2, heappop_eq_none later]
      | some found =>
          have kept := heappop_perm later
          rw [later] at popped
          dsimp only at popped
          by_cases before : found.1.less first = true
          · rw [if_pos before, Option.some.injEq, Prod.mk.injEq] at popped
            rw [← popped.1, ← popped.2]
            exact (List.Perm.swap ..).trans (kept.cons first)
          · rw [if_neg before, Option.some.injEq, Prod.mk.injEq] at popped
            rw [← popped.1, ← popped.2]
            exact kept.cons first

def HeapOrder.least : HeapOrder W := ⟨heappop, heappop_eq_none, heappop_perm⟩

/-- The merging loop. Every iteration leaves one state fewer, so as many iterations
as there are states are enough. -/
def mergeStatesIn (order : HeapOrder W) : Nat → List (KkState W) → List (KkState W)
  | 0, statesPq => statesPq
  | fuel + 1, statesPq =>
      match order.pop statesPq with
      | none => statesPq
      | some (state0, afterFirst) =>
          match order.pop afterFirst with
          | none => statesPq
          | some (state1, afterSecond) =>
              mergeStatesIn order fuel (state0.merge state1 :: afterSecond)

def initialStates (sortedSeqlenList : List (W × Nat)) (kPartitions : Nat) :
    Bool → Except PyException (List (KkState W))
  | true => do
      raiseIf (kPartitions = 0) .zeroDivisionError
      raiseIf (sortedSeqlenList.length % kPartitions ≠ 0)
        (.assertionError s!"{sortedSeqlenList.length} % {kPartitions} != 0")
      (pyRange 0 sortedSeqlenList.length kPartitions).mapM fun offset =>
        KkState.init (((sortedSeqlenList.drop offset).take kPartitions).map Prod.swap)
          kPartitions
  | false => sortedSeqlenList.mapM fun entry => KkState.init [entry.swap] kPartitions

def karmarkarKarpIn (order : HeapOrder W) (seqlenList : List W) (kPartitions : Nat)
    (equalSize : Bool) : Except PyException (List (List Nat)) := do
  let sortedSeqlenList := seqlenList.zipIdx.insertionSort fun left right =>
    entryLess right left = false
  let states ← initialStates sortedSeqlenList kPartitions equalSize
  let finalState ← itemAt (mergeStatesIn order states.length states) 0
  let partitions := finalState.getPartitions
  partitions.forM fun partition =>
    raiseIf (equalSize = true ∧ partition.length * kPartitions ≠ seqlenList.length)
      (.assertionError s!"{partition.length} * {kPartitions} != {seqlenList.length}")
  pure partitions

def checkAndSortPartitions (count kPartitions : Nat) (partitions : List (List Nat)) :
    Except PyException (List (List Nat)) := do
  raiseIf (partitions.length ≠ kPartitions)
    (.assertionError s!"{partitions.length} != {kPartitions}")
  partitions.zipIdx.forM fun entry =>
    raiseIf (entry.1 = []) (.assertionError s!"the {entry.2}-th partition is empty")
  raiseIf (partitions.flatten.toFinset ≠ Finset.range count) (.assertionError "")
  pure (partitions.map (List.insertionSort (· ≤ ·)))

def getSeqlenBalancedPartitionsIn (order : HeapOrder W) (seqlenList : List W)
    (kPartitions : Nat) (equalSize : Bool) : Except PyException (List (List Nat)) := do
  raiseIf (¬ seqlenList.length ≥ kPartitions)
    (.assertionError s!"number of items:[{seqlenList.length}] < k_partitions:[{kPartitions}]")
  let partitions ← karmarkarKarpIn order seqlenList kPartitions equalSize
  checkAndSortPartitions seqlenList.length kPartitions partitions

def getSeqlenBalancedPartitions (seqlenList : List W) (kPartitions : Nat) (equalSize : Bool) :
    Except PyException (List (List Nat)) :=
  getSeqlenBalancedPartitionsIn HeapOrder.least seqlenList kPartitions equalSize

end Differencing

/-! ## First-fit packing and splitting -/

/-- The first bin with room takes the sample; otherwise it opens a bin. Every bin
stands with its sum. -/
def placeFirstFit (maxTokensPerBin idx length : Nat) :
    List (List Nat × Nat) → List (List Nat × Nat)
  | [] => [([idx], length)]
  | (bin, binSum) :: rest =>
      if binSum + length ≤ maxTokensPerBin then (bin ++ [idx], binSum + length) :: rest
      else (bin, binSum) :: placeFirstFit maxTokensPerBin idx length rest

def firstFitPack (totalLengths : List Nat) (maxTokensPerBin : Nat) : List (List Nat) :=
  (totalLengths.zipIdx.foldl
    (fun bins entry => placeFirstFit maxTokensPerBin entry.2 entry.1 bins) []).map Prod.fst

/-- `lengths[index]`; the indices of a bin are in range. -/
def lengthAt (lengths : List Nat) (index : Nat) : Nat := lengths.getD index 0

def binTokens (lengths bin : List Nat) : Nat := (bin.map (lengthAt lengths)).sum

structure Halves where
  left : List Nat := []
  right : List Nat := []
  leftSum : Nat := 0
  rightSum : Nat := 0

def Halves.place (lengths : List Nat) (halves : Halves) (idx : Nat) : Halves :=
  if halves.leftSum ≤ halves.rightSum then
    { halves with
      left := halves.left ++ [idx]
      leftSum := halves.leftSum + lengthAt lengths idx }
  else
    { halves with
      right := halves.right ++ [idx]
      rightSum := halves.rightSum + lengthAt lengths idx }

def sortByTokens (binIndices lengths : List Nat) : List Nat :=
  binIndices.insertionSort fun first second =>
    lengthAt lengths second ≤ lengthAt lengths first

def splitBinByTokens (binIndices lengths : List Nat) : Halves :=
  (sortByTokens binIndices lengths).foldl (Halves.place lengths) {}

/-- The larger of two tuples `(sum, index)`. -/
def laterCandidate (best candidate : Nat × Nat) : Nat × Nat :=
  if best.1 < candidate.1 ∨ (best.1 = candidate.1 ∧ best.2 < candidate.2) then candidate
  else best

def largestMultiSampleBin (bins : List (List Nat)) (lengths : List Nat) : Option Nat :=
  let candidates := bins.zipIdx.filterMap fun entry =>
    if 1 < entry.1.length then some (binTokens lengths entry.1, entry.2) else none
  match candidates with
  | [] => none
  | first :: rest => some (rest.foldl laterCandidate first).2

/-- The loop of `expand_bins_by_splitting`, one more bin each iteration. -/
def splitLargest (lengths : List Nat) : Nat → List (List Nat) → List (List Nat)
  | 0, bins => bins
  | missing + 1, bins =>
      match largestMultiSampleBin bins lengths with
      | none => bins
      | some idx =>
          let halves := splitBinByTokens (bins.getD idx []) lengths
          splitLargest lengths missing (bins.set idx halves.left ++ [halves.right])

def expandBinsBySplitting (bins : List (List Nat)) (targetCount : Nat)
    (lengths : List Nat) : List (List Nat) :=
  splitLargest lengths (targetCount - bins.length) bins

end Vime.Utils
