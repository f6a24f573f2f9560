import Mathlib.Algebra.BigOperators.Intervals
import Mathlib.Data.List.GetD
import Mathlib.Tactic.Ring

/-! # Discounted returns

The scan of one chunk in `chunked_discounted_returns` of `vime/utils/ppo_utils.py`, and the
recurrence that it computes.
-/

namespace Vime.Utils

variable {R : Type} [CommRing R]

section Source

variable [DecidableEq R]

/-- The entries of `M`: powers of the discount above the diagonal. -/
def discountMatrix (discount : R) (row col : Nat) : R :=
  if discount = 0 then if col = row then 1 else 0
  else if row ≤ col then discount ^ (col - row) else 0

def powVec (discount : R) (index : Nat) : R :=
  if discount = 0 then 0 else discount ^ (index + 1)

def localScan (discount : R) (chunkSize : Nat) (chunk : List R) : List R :=
  (List.range chunkSize).map fun col =>
    ∑ row ∈ Finset.range chunkSize, chunk.getD row 0 * discountMatrix discount row col

/-- `rewards + gamma * next_values - values`. -/
def deltas (gamma : R) (rewards values : List R) : List R :=
  List.zipWith (fun reward entry => reward + gamma * entry.2 - entry.1) rewards
    (values.zip (values.tail ++ [0]))

end Source

/-! ## The recurrence -/

/-- `S[i] = rewards[i] + discount * S[i - 1]`. -/
def forwardScan (discount : R) : R → List R → List R
  | _, [] => []
  | sPrev, reward :: rest =>
      (reward + discount * sPrev) :: forwardScan discount (reward + discount * sPrev) rest

def discountedReturns (discount : R) : List R → List R
  | [] => []
  | reward :: rest =>
      (reward + discount * (discountedReturns discount rest).headD 0) ::
        discountedReturns discount rest

@[simp] theorem length_forwardScan (discount : R) : ∀ (sPrev : R) (rewards : List R),
    (forwardScan discount sPrev rewards).length = rewards.length
  | _, [] => rfl
  | sPrev, reward :: rest => by
      rw [forwardScan, List.length_cons, length_forwardScan, List.length_cons]

@[simp] theorem length_discountedReturns (discount : R) : ∀ rewards : List R,
    (discountedReturns discount rewards).length = rewards.length
  | [] => rfl
  | reward :: rest => by
      rw [discountedReturns, List.length_cons, length_discountedReturns, List.length_cons]

theorem forwardScan_append (discount : R) (second : List R) :
    ∀ (sPrev : R) (first : List R),
      forwardScan discount sPrev (first ++ second) =
        forwardScan discount sPrev first ++
          forwardScan discount ((forwardScan discount sPrev first).getLastD sPrev) second
  | _, [] => rfl
  | sPrev, reward :: rest => by
      rw [List.cons_append, forwardScan, forwardScan, forwardScan_append, List.cons_append]
      congr 2
      cases restEq : forwardScan discount (reward + discount * sPrev) rest with
      | nil => rfl
      | cons later laterRest => rw [List.getLastD_cons, List.getLastD_cons, List.getLastD_cons]

theorem reverse_forwardScan (discount : R) (rewards : List R) :
    (forwardScan discount 0 rewards.reverse).reverse = discountedReturns discount rewards := by
  induction rewards with
  | nil => rfl
  | cons reward rest induction =>
      rw [List.reverse_cons, forwardScan_append, List.reverse_append, induction, forwardScan,
        forwardScan, List.reverse_singleton, List.singleton_append, discountedReturns]
      congr 3
      rw [← induction]
      cases (forwardScan discount 0 rest.reverse) using List.reverseRec with
      | nil => rfl
      | append_singleton front last _ => simp

theorem discountMatrix_eq [DecidableEq R] (discount : R) (row col : Nat) :
    discountMatrix discount row col = if row ≤ col then discount ^ (col - row) else 0 := by
  rw [discountMatrix]
  by_cases isZero : discount = 0
  · rw [if_pos isZero, isZero]
    rcases Nat.lt_trichotomy row col with below | same | above
    · rw [if_neg (by omega), if_pos (by omega), zero_pow (by omega)]
    · rw [if_pos same.symm, if_pos (by omega), same, Nat.sub_self, pow_zero]
    · rw [if_neg (by omega), if_neg (by omega)]
  · rw [if_neg isZero]

theorem powVec_eq [DecidableEq R] (discount : R) (index : Nat) :
    powVec discount index = discount ^ (index + 1) := by
  rw [powVec]
  split
  case isTrue isZero => rw [isZero, zero_pow (Nat.succ_ne_zero index)]
  case isFalse => rfl

theorem forwardScan_getD (discount : R) :
    ∀ (chunk : List R) (sPrev : R) (index width : Nat), index < chunk.length → index < width →
      (forwardScan discount sPrev chunk).getD index 0 =
        (∑ row ∈ Finset.range width, chunk.getD row 0 *
          if row ≤ index then discount ^ (index - row) else 0) +
          sPrev * discount ^ (index + 1)
  | [], _, index, _, inside, _ => absurd inside (Nat.not_lt_zero index)
  | reward :: rest, sPrev, 0, width + 1, _, _ => by
      rw [forwardScan, List.getD_cons_zero, Finset.sum_range_succ', Finset.sum_eq_zero]
      · rw [List.getD_cons_zero, if_pos (Nat.le_refl 0)]
        ring
      · intro row _
        rw [if_neg (by omega), mul_zero]
  | reward :: rest, sPrev, index + 1, width + 1, inside, below => by
      have later := forwardScan_getD discount rest (reward + discount * sPrev) index width
        (Nat.lt_of_succ_lt_succ inside) (Nat.lt_of_succ_lt_succ below)
      rw [forwardScan, List.getD_cons_succ, later, Finset.sum_range_succ', List.getD_cons_zero,
        if_pos (Nat.zero_le _)]
      simp only [List.getD_cons_succ, Nat.add_le_add_iff_right, Nat.add_sub_add_right,
        Nat.sub_zero]
      ring

section Chunks

variable [DecidableEq R]

theorem localScan_forwardScan (discount sPrev : R) {chunkSize : Nat} (chunk : List R)
    (pad : Nat) (fits : chunk.length ≤ chunkSize) :
    ((localScan discount chunkSize (chunk ++ List.replicate pad 0)).take
        chunk.length).zipIdx.map (fun entry => entry.1 + sPrev * powVec discount entry.2) =
      forwardScan discount sPrev chunk := by
  have sized : (localScan discount chunkSize (chunk ++ List.replicate pad 0)).length =
      chunkSize := by
    rw [localScan, List.length_map, List.length_range]
  apply List.ext_getElem
  · rw [List.length_map, List.length_zipIdx, List.length_take, sized, length_forwardScan,
      Nat.min_eq_left fits]
  · intro index inLocal inScan
    have inside : index < chunk.length := by rwa [length_forwardScan] at inScan
    have scanned := forwardScan_getD discount chunk sPrev index chunkSize inside (by omega)
    rw [List.getD_eq_getElem _ _ inScan] at scanned
    rw [List.getElem_map, List.getElem_zipIdx, List.getElem_take, scanned, powVec_eq,
      Nat.zero_add]
    congr 1
    simp only [localScan, List.getElem_map, List.getElem_range]
    apply Finset.sum_congr rfl
    intro row _
    rw [discountMatrix_eq]
    congr 1
    rcases Nat.lt_or_ge row chunk.length with inChunk | beyond
    · rw [List.getD_append _ _ _ _ inChunk]
    · rw [List.getD_append_right _ _ _ _ beyond, List.getD_eq_default chunk _ beyond,
        List.getD_eq_getElem?_getD, List.getElem?_replicate]
      split <;> rfl

end Chunks

/-! ## Padded rows -/

theorem deltas_cons (gamma reward value : R) (rewards values : List R) :
    deltas gamma (reward :: rewards) (value :: values) =
      (reward + gamma * values.headD 0 - value) :: deltas gamma rewards values := by
  cases values with
  | nil => simp [deltas]
  | cons next rest => simp [deltas]

theorem length_deltas (gamma : R) : ∀ rewards values : List R,
    rewards.length = values.length → (deltas gamma rewards values).length = rewards.length
  | [], _, _ => rfl
  | reward :: rewards, value :: values, same => by
      rw [deltas_cons, List.length_cons, length_deltas gamma rewards values (Nat.succ.inj same),
        List.length_cons]

theorem headD_append_zeros (values : List R) (pad : Nat) :
    (values ++ List.replicate pad 0).headD 0 = values.headD 0 := by
  cases values with
  | nil => cases pad <;> rfl
  | cons => rfl

theorem deltas_append_zeros (gamma : R) (pad : Nat) : ∀ rewards values : List R,
    rewards.length = values.length →
      deltas gamma (rewards ++ List.replicate pad 0) (values ++ List.replicate pad 0) =
        deltas gamma rewards values ++ List.replicate pad 0
  | [], [], _ => by
      rw [List.nil_append]
      induction pad with
      | zero => rfl
      | succ pad induction =>
          rw [List.replicate_succ, deltas_cons, induction]
          have nextValue : (List.replicate pad (0 : R)).headD 0 = 0 := by
            cases pad <;> rfl
          rw [nextValue, mul_zero, add_zero, sub_zero]
          rfl
  | reward :: rewards, value :: values, same => by
      rw [List.cons_append, List.cons_append, deltas_cons, deltas_cons, headD_append_zeros,
        deltas_append_zeros gamma pad rewards values (Nat.succ.inj same), List.cons_append]

theorem discountedReturns_append_zeros (discount : R) (pad : Nat) : ∀ rewards : List R,
    discountedReturns discount (rewards ++ List.replicate pad 0) =
      discountedReturns discount rewards ++ List.replicate pad 0
  | [] => by
      rw [List.nil_append]
      induction pad with
      | zero => rfl
      | succ pad induction =>
          have nextReturn : (List.replicate pad (0 : R)).headD 0 = 0 := by
            cases pad <;> rfl
          rw [discountedReturns, List.nil_append] at induction
          simp only [List.replicate_succ, discountedReturns, induction, nextReturn, mul_zero,
            add_zero, List.nil_append]
  | reward :: rest => by
      rw [List.cons_append, discountedReturns, discountedReturns_append_zeros discount pad rest,
        headD_append_zeros, discountedReturns, List.cons_append]

theorem getLastD_discountedReturns (gamma discount : R) : ∀ rewards values : List R,
    rewards.length = values.length →
      (discountedReturns discount (deltas gamma rewards values)).getLastD 0 =
        rewards.getLastD 0 - values.getLastD 0
  | [], [], _ => by simp [deltas, discountedReturns]
  | [reward], [value], _ => by simp [deltas, discountedReturns]
  | reward :: next :: rewards, value :: nextValue :: values, same => by
      have later := getLastD_discountedReturns gamma discount (next :: rewards)
        (nextValue :: values) (Nat.succ.inj same)
      rw [deltas_cons, discountedReturns]
      rw [deltas_cons, discountedReturns] at later ⊢
      exact later

end Vime.Utils
