import Vime.Foundation.Fallible
import Vime.Foundation.Tensor
import Vime.Utils.PpoUtils

/-! # Advantage estimation for a batch

`chunked_discounted_returns`, `chunked_gae` and `vanilla_gae` of `vime/utils/ppo_utils.py` on
tensors of several rows. A chunk of all rows is scanned before the next one, and the recurrence
goes through the columns.
-/

namespace Vime.Utils

open Vime.Foundation

variable {R : Type} [CommRing R]

/-- A tensor of shape `[B, T]`. -/
structure Batch (R : Type) where
  width : Nat
  rows : List (List R)
  sized : ∀ row ∈ rows, row.length = width

/-- Rewards and values of shape `[B, T]`. -/
structure GaeBatch (R : Type) where
  width : Nat
  rows : List (List R × List R)
  sized : ∀ row ∈ rows, row.1.length = width ∧ row.2.length = width

/-- A row of a tensor of width `width`. -/
abbrev Row (R : Type) (width : Nat) : Type := {row : List R // row.length = width}

def Batch.ofRows {width : Nat} (rows : List (Row R width)) : Batch R where
  width := width
  rows := rows.map Subtype.val
  sized := by
    intro row member
    rcases List.mem_map.mp member with ⟨own, _, rfl⟩
    exact own.property

def GaeBatch.ofRows {width : Nat} (rows : List (Row R width × Row R width)) : GaeBatch R where
  width := width
  rows := rows.map fun row => (row.1.val, row.2.val)
  sized := by
    intro row member
    rcases List.mem_map.mp member with ⟨own, _, rfl⟩
    exact ⟨own.1.property, own.2.property⟩

/-- `full[i, :length] = row[:length]` in a row of zeros. -/
def zeroRow (width length : Nat) (row : List R) : Except PyException (Row R width) :=
  match written : assignSlice (List.replicate width 0) 0 length (row.take length) with
  | .ok filled => .ok ⟨filled, by
      rw [length_assignSlice written, List.length_replicate]⟩
  | .error exception => .error exception

theorem zeroRow_eq {width length : Nat} {row : List R} (sized : row.length = length)
    (fits : length ≤ width) :
    ∃ filled : Row R width, zeroRow width length row = .ok filled ∧
      filled.val = row ++ List.replicate (width - length) 0 := by
  have taken : row.take length = row := by rw [← sized, List.take_length]
  have written : assignSlice (List.replicate width 0) 0 length (row.take length) =
      .ok (row ++ List.replicate (width - length) 0) := by
    have inside : 0 + row.length ≤ (List.replicate width (0 : R)).length := by
      rw [List.length_replicate, sized]
      omega
    have assigned := assignSlice_natCast inside
    rw [List.take_zero, List.nil_append, Nat.zero_add, List.drop_replicate, sized] at assigned
    rw [taken]
    exact assigned
  rw [zeroRow]
  split
  · rename_i filled filledEq
    rw [written] at filledEq
    exact ⟨_, rfl, (Except.ok.inj filledEq).symm⟩
  · rename_i exception raises
    rw [written] at raises
    cases raises

section Source

variable [DecidableEq R]

def scanRows (discount : R) (chunkSize pad : Nat) : Nat → List (List R) → List R → List (List R)
  | 0, rows, _ => rows.map fun _ => []
  | nChunks + 1, rows, sPrev =>
      let length := if nChunks = 0 then chunkSize - pad else chunkSize
      let sGlobal := List.zipWith (fun row previous =>
        ((localScan discount chunkSize (row.take chunkSize)).take length).zipIdx.map
          fun entry => entry.1 + previous * powVec discount entry.2) rows sPrev
      List.zipWith (· ++ ·) sGlobal
        (scanRows discount chunkSize pad nChunks (rows.map (List.drop chunkSize))
          (List.zipWith List.getLastD sGlobal sPrev))

def Batch.chunkedDiscountedReturns (rewards : Batch R) (discount : R) (chunkSize : Nat) :
    List (List R) :=
  let pad :=
    if rewards.width % chunkSize ≠ 0 then chunkSize - rewards.width % chunkSize else 0
  let rewardsRev := rewards.rows.map fun row => row.reverse ++ List.replicate pad 0
  (scanRows discount chunkSize pad ((rewards.width + pad) / chunkSize) rewardsRev
    (rewardsRev.map fun _ => 0)).map List.reverse

namespace GaeBatch

def deltas (gamma : R) (batch : GaeBatch R) : Batch R where
  width := batch.width
  rows := batch.rows.map fun row => Utils.deltas gamma row.1 row.2
  sized := by
    intro delta member
    rcases List.mem_map.mp member with ⟨row, isRow, rfl⟩
    have sized := batch.sized row isRow
    rw [length_deltas gamma _ _ (sized.1.trans sized.2.symm), sized.1]

def chunkedGae (batch : GaeBatch R) (gamma lambd : R) (chunkSize : Nat) :
    List (List R) × List (List R) :=
  let advantages := (batch.deltas gamma).chunkedDiscountedReturns (gamma * lambd) chunkSize
  (advantages, List.zipWith (fun advantage row => List.zipWith (· + ·) advantage row.2)
    advantages batch.rows)

end GaeBatch

end Source

namespace GaeBatch

/-- `adv_rev`, from the given column down to the first one. -/
def columnsRev (gamma lambd : R) (batch : GaeBatch R) : Nat → List R → List (List R)
  | 0, _ => []
  | column + 1, lastgaelam =>
      let advanced := List.zipWith (fun row last =>
        let nextValue := if column + 1 < batch.width then row.2.getD (column + 1) 0 else 0
        let delta := row.1.getD column 0 + gamma * nextValue - row.2.getD column 0
        delta + gamma * lambd * last) batch.rows lastgaelam
      advanced :: columnsRev gamma lambd batch column advanced

/-- `torch.stack(columns, dim=1)`. -/
def stackColumns (count : Nat) (columns : List (List R)) : Except PyException (List (List R)) :=
  match columns with
  | [] => .error (.runtimeError "stack expects a non-empty TensorList")
  | _ => .ok ((List.range count).map fun row => columns.map fun column => column.getD row 0)

def vanillaGae (batch : GaeBatch R) (gamma lambd : R) :
    Except PyException (List (List R) × List (List R)) := do
  let advRev := batch.columnsRev gamma lambd batch.width (batch.rows.map fun _ => 0)
  let advantages ← stackColumns batch.rows.length advRev.reverse
  pure (advantages, List.zipWith (fun advantage row => List.zipWith (· + ·) advantage row.2)
    advantages batch.rows)

end GaeBatch

/-! ## Rows are scanned independently -/

section Rows

variable [DecidableEq R]

/-- A row that fills its chunks up to the padding is scanned as a whole, whatever the other rows
are. An entry is a row with what is carried into it. -/
theorem scanRows_forwardScan (discount : R) {chunkSize pad : Nat} (padded : pad < chunkSize) :
    ∀ (nChunks : Nat) (entries : List (List R × R)),
      (∀ entry ∈ entries, entry.1.length + pad = nChunks * chunkSize) →
        scanRows discount chunkSize pad nChunks
            (entries.map fun entry => entry.1 ++ List.replicate pad 0) (entries.map Prod.snd) =
          entries.map fun entry => forwardScan discount entry.2 entry.1
  | 0, entries, filled => by
      rw [scanRows, List.map_map]
      apply List.map_congr_left
      intro entry member
      have isEmpty : entry.1 = [] :=
        List.length_eq_zero_iff.mp (by have := filled entry member; omega)
      rw [isEmpty]
      rfl
  | 1, entries, filled => by
      rw [scanRows, scanRows, if_pos rfl, List.zipWith_map, List.zipWith_self]
      simp only [List.map_map, List.zipWith_map, List.zipWith_self]
      apply List.map_congr_left
      intro entry member
      have counted : entry.1.length + pad = chunkSize := by
        have := filled entry member
        omega
      have whole : (entry.1 ++ List.replicate pad (0 : R)).take chunkSize =
          entry.1 ++ List.replicate pad 0 := by
        apply List.take_of_length_le
        rw [List.length_append, List.length_replicate, counted]
      have shorter : chunkSize - pad = entry.1.length := by omega
      rw [whole, shorter, Function.comp_apply, List.append_nil]
      exact localScan_forwardScan discount entry.2 entry.1 pad (by omega)
  | nChunks + 2, entries, filled => by
      have long : ∀ entry ∈ entries, chunkSize ≤ entry.1.length := by
        intro entry member
        have counted := filled entry member
        have split : (nChunks + 2) * chunkSize = (nChunks + 1) * chunkSize + chunkSize := by ring
        have oneMore : chunkSize ≤ (nChunks + 1) * chunkSize :=
          Nat.le_mul_of_pos_left chunkSize (Nat.succ_pos nChunks)
        omega
      -- The first chunk of every row, and the rows after it with what it leaves.
      let first := fun entry : List R × R =>
        forwardScan discount entry.2 (entry.1.take chunkSize)
      let later := fun entry : List R × R =>
        (entry.1.drop chunkSize, (first entry).getLastD entry.2)
      have head : List.zipWith (fun row previous =>
          ((localScan discount chunkSize (row.take chunkSize)).take chunkSize).zipIdx.map
            fun entry => entry.1 + previous * powVec discount entry.2)
          (entries.map fun entry => entry.1 ++ List.replicate pad 0) (entries.map Prod.snd) =
            entries.map first := by
        rw [List.zipWith_map, List.zipWith_self]
        apply List.map_congr_left
        intro entry member
        have front : (entry.1.take chunkSize).length = chunkSize :=
          List.length_take_of_le (long entry member)
        have scanned := localScan_forwardScan discount entry.2 (entry.1.take chunkSize) 0
          (Nat.le_of_eq front)
        rw [List.replicate_zero, List.append_nil, front] at scanned
        rw [List.take_append_of_le_length (long entry member), scanned]
      have rest : (entries.map fun entry => entry.1 ++ List.replicate pad (0 : R)).map
            (List.drop chunkSize) =
          (entries.map later).map fun entry => entry.1 ++ List.replicate pad 0 := by
        rw [List.map_map, List.map_map]
        apply List.map_congr_left
        intro entry member
        exact List.drop_append_of_le_length (long entry member)
      have carried : List.zipWith List.getLastD (entries.map first) (entries.map Prod.snd) =
          (entries.map later).map Prod.snd := by
        rw [List.zipWith_map, List.zipWith_self, List.map_map]
        rfl
      have scanned := scanRows_forwardScan discount padded (nChunks + 1) (entries.map later) (by
        intro entry member
        rcases List.mem_map.mp member with ⟨whole, isWhole, rfl⟩
        have counted := filled whole isWhole
        have inside := long whole isWhole
        have split : (nChunks + 2) * chunkSize = (nChunks + 1) * chunkSize + chunkSize := by ring
        dsimp only [later]
        rw [List.length_drop]
        omega)
      rw [scanRows, if_neg (Nat.succ_ne_zero nChunks), head, rest, carried, scanned, List.map_map, List.zipWith_map, List.zipWith_self]
      apply List.map_congr_left
      intro entry _
      dsimp only [Function.comp_apply, later, first]
      rw [← forwardScan_append, List.take_append_drop]

/-- The scan of a batch is the recurrence on each of its rows. -/
theorem Batch.chunkedDiscountedReturns_eq (rewards : Batch R) (discount : R) {chunkSize : Nat}
    (positive : 0 < chunkSize) :
    rewards.chunkedDiscountedReturns discount chunkSize =
      rewards.rows.map (discountedReturns discount) := by
  have divides := Nat.div_add_mod rewards.width chunkSize
  have remainder := Nat.mod_lt rewards.width positive
  rw [Batch.chunkedDiscountedReturns]
  generalize padEq :
    (if rewards.width % chunkSize ≠ 0 then chunkSize - rewards.width % chunkSize else 0) = pad
  have bounded : pad < chunkSize := by
    rw [← padEq]
    split <;> omega
  have filled : ∃ nChunks, rewards.width + pad = nChunks * chunkSize := by
    rw [← padEq]
    split
    case isTrue ragged =>
      refine ⟨rewards.width / chunkSize + 1, ?_⟩
      rw [Nat.succ_mul, Nat.mul_comm]
      omega
    case isFalse even =>
      refine ⟨rewards.width / chunkSize, ?_⟩
      rw [Nat.mul_comm]
      omega
  rcases filled with ⟨nChunks, counted⟩
  have scanned := scanRows_forwardScan discount bounded nChunks
    (rewards.rows.map fun row => (row.reverse, (0 : R))) (by
      intro entry member
      rcases List.mem_map.mp member with ⟨row, isRow, rfl⟩
      rw [List.length_reverse, rewards.sized row isRow, counted])
  rw [List.map_map, List.map_map, List.map_map] at scanned
  rw [counted, Nat.mul_div_cancel _ positive, List.map_map]
  change List.map List.reverse (scanRows discount chunkSize pad nChunks
    (List.map ((fun entry => entry.1 ++ List.replicate pad 0) ∘ fun row => (row.reverse, (0 : R)))
      rewards.rows) (List.map (Prod.snd ∘ fun row => (row.reverse, (0 : R))) rewards.rows)) = _
  rw [scanned, List.map_map]
  apply List.map_congr_left
  intro row _
  exact reverse_forwardScan discount row

end Rows

/-! ## The recurrence -/

theorem discountedReturns_getD (discount : R) : ∀ (rewards : List R) (index : Nat),
    (discountedReturns discount rewards).getD index 0 =
      rewards.getD index 0 + discount * (discountedReturns discount rewards).getD (index + 1) 0
  | [], _ => by simp [discountedReturns]
  | reward :: rest, 0 => by
      rw [discountedReturns, List.getD_cons_zero, List.getD_cons_zero, List.getD_cons_succ]
      cases discountedReturns discount rest with
      | nil => rfl
      | cons first later => rfl
  | reward :: rest, index + 1 => by
      rw [discountedReturns, List.getD_cons_succ, List.getD_cons_succ, List.getD_cons_succ]
      exact discountedReturns_getD discount rest index

/-- The recurrence that returns satisfy. -/
def IsReturns (discount : R) (rewards returns : List R) : Prop :=
  returns.length = rewards.length ∧ ∀ index < rewards.length,
    returns.getD index 0 = rewards.getD index 0 + discount * returns.getD (index + 1) 0

theorem isReturns_discountedReturns (discount : R) (rewards : List R) :
    IsReturns discount rewards (discountedReturns discount rewards) :=
  ⟨length_discountedReturns discount rewards,
    fun index _ => discountedReturns_getD discount rewards index⟩

theorem deltas_getD (gamma : R) : ∀ (rewards values : List R) (index : Nat),
    rewards.length = values.length →
      (deltas gamma rewards values).getD index 0 =
        rewards.getD index 0 + gamma * values.getD (index + 1) 0 - values.getD index 0
  | [], [], _, _ => by simp [deltas]
  | reward :: rewards, value :: values, 0, _ => by
      rw [deltas_cons, List.getD_cons_zero, List.getD_cons_zero, List.getD_cons_zero,
        List.getD_cons_succ]
      cases values with
      | nil => rfl
      | cons first later => rfl
  | reward :: rewards, value :: values, index + 1, same => by
      rw [deltas_cons, List.getD_cons_succ, List.getD_cons_succ, List.getD_cons_succ,
        List.getD_cons_succ]
      exact deltas_getD gamma rewards values index (Nat.succ.inj same)

namespace GaeBatch

variable (batch : GaeBatch R) (gamma lambd : R)

def rowAdvantages (row : List R × List R) : List R :=
  discountedReturns (gamma * lambd) (Utils.deltas gamma row.1 row.2)

theorem length_rowAdvantages {row : List R × List R} (member : row ∈ batch.rows) :
    (rowAdvantages gamma lambd row).length = batch.width := by
  have sized := batch.sized row member
  rw [rowAdvantages, length_discountedReturns,
    length_deltas gamma _ _ (sized.1.trans sized.2.symm), sized.1]

theorem columnsRev_eq : ∀ column ≤ batch.width,
    batch.columnsRev gamma lambd column
        (batch.rows.map fun row => (rowAdvantages gamma lambd row).getD column 0) =
      (List.range column).reverse.map fun index =>
        batch.rows.map fun row => (rowAdvantages gamma lambd row).getD index 0
  | 0, _ => rfl
  | column + 1, within => by
      have advanced : List.zipWith (fun row last =>
          row.1.getD column 0 + gamma * (if column + 1 < batch.width then
            row.2.getD (column + 1) 0 else 0) - row.2.getD column 0 + gamma * lambd * last)
          batch.rows (batch.rows.map fun row =>
            (rowAdvantages gamma lambd row).getD (column + 1) 0) =
          batch.rows.map fun row => (rowAdvantages gamma lambd row).getD column 0 := by
        rw [List.zipWith_map_right, List.zipWith_self]
        apply List.map_congr_left
        intro row member
        have sized := batch.sized row member
        have nextValue : (if column + 1 < batch.width then row.2.getD (column + 1) 0 else 0) =
            row.2.getD (column + 1) 0 := by
          split
          case isTrue => rfl
          case isFalse beyond => rw [List.getD_eq_default _ _ (by omega)]
        rw [rowAdvantages, discountedReturns_getD (gamma * lambd) _ column,
          deltas_getD gamma _ _ column (sized.1.trans sized.2.symm), nextValue]
      rw [columnsRev, List.range_succ, List.reverse_append, List.reverse_singleton,
        List.singleton_append, List.map_cons]
      dsimp only
      rw [advanced, columnsRev_eq column (by omega)]

/-- The recurrence through the columns gives each row its own advantages. -/
theorem vanillaGae_eq (someColumn : 0 < batch.width) :
    batch.vanillaGae gamma lambd = .ok (batch.rows.map (rowAdvantages gamma lambd),
      batch.rows.map fun row =>
        List.zipWith (· + ·) (rowAdvantages gamma lambd row) row.2) := by
  have beyond : (batch.rows.map fun _ => (0 : R)) =
      batch.rows.map fun row => (rowAdvantages gamma lambd row).getD batch.width 0 := by
    apply List.map_congr_left
    intro row member
    rw [List.getD_eq_default _ _ (by rw [batch.length_rowAdvantages gamma lambd member])]
  have columns : ∀ {count : Nat}, 0 < count → ∀ columns : Nat → List R,
      stackColumns batch.rows.length (((List.range count).reverse.map columns).reverse) =
        .ok ((List.range batch.rows.length).map fun row =>
          (List.range count).map fun index => (columns index).getD row 0) := by
    intro count positive columns
    rw [← List.map_reverse, List.reverse_reverse, stackColumns.eq_def]
    cases rangeEq : List.range count with
    | nil => exact absurd (List.range_eq_nil.mp rangeEq) (Nat.ne_of_gt positive)
    | cons first rest =>
        simp only [List.map_cons, List.map_map]
        rfl
  have rowsEq : ((List.range batch.rows.length).map fun row =>
      (List.range batch.width).map fun index =>
        (batch.rows.map fun row => (rowAdvantages gamma lambd row).getD index 0).getD row 0) =
      batch.rows.map (rowAdvantages gamma lambd) := by
    apply List.ext_getElem
    · rw [List.length_map, List.length_map, List.length_range]
    · intro row inRange inRows
      rw [List.length_map] at inRows
      have sized := batch.length_rowAdvantages gamma lambd (List.getElem_mem inRows)
      rw [List.getElem_map, List.getElem_map, List.getElem_range]
      apply List.ext_getElem
      · rw [List.length_map, List.length_range, sized]
      · intro index inColumns inRow
        rw [List.getElem_map, List.getElem_range, List.getD_eq_getElem _ _ (by rwa [List.length_map]),
          List.getElem_map, List.getD_eq_getElem _ _ inRow]
  rw [vanillaGae, beyond, batch.columnsRev_eq gamma lambd batch.width (Nat.le_refl _),
    columns someColumn, ok_bind, rowsEq, pure_eq_ok, List.zipWith_map_left, List.zipWith_self]

theorem vanillaGae_empty (noColumn : batch.width = 0) :
    batch.vanillaGae gamma lambd =
      .error (.runtimeError "stack expects a non-empty TensorList") := by
  rw [vanillaGae, noColumn]
  rfl

variable [DecidableEq R]

theorem chunkedGae_eq {chunkSize : Nat} (positive : 0 < chunkSize) :
    batch.chunkedGae gamma lambd chunkSize = (batch.rows.map (rowAdvantages gamma lambd),
      batch.rows.map fun row =>
        List.zipWith (· + ·) (rowAdvantages gamma lambd row) row.2) := by
  have advantages : (batch.deltas gamma).chunkedDiscountedReturns (gamma * lambd) chunkSize =
      batch.rows.map (rowAdvantages gamma lambd) := by
    rw [Batch.chunkedDiscountedReturns_eq _ _ positive, deltas, List.map_map]
    rfl
  rw [chunkedGae, advantages, List.zipWith_map_left, List.zipWith_self]

end GaeBatch

end Vime.Utils
