import Mathlib.Algebra.BigOperators.Group.List.Basic
import Vime.Backends.MegatronUtils.UpdateWeight.ExpertRouting

/-! # Batches of transfers

The costs that the packing keeps are the loads of its batches. A transfer joins a batch that has
room on each of its ranks, or opens one, so that no rank ever stages more than the buffer.
-/

namespace Vime.Backends.MegatronUtils.ExpertRouting

open Vime.Foundation

/-! ## Sorting -/

section Sorting

variable {κ : Type} [LinearOrder κ] (key : α → κ) (items : List α)

theorem sortedBy_perm : (sortedBy key items).Perm items :=
  List.perm_insertionSort _ items

theorem sortedBy_ordered : (sortedBy key items).Pairwise fun left right => key left ≤ key right := by
  have total : Std.Total fun left right : α => key left ≤ key right :=
    ⟨fun left right => le_total (key left) (key right)⟩
  have trans : IsTrans α fun left right : α => key left ≤ key right :=
    ⟨fun _ _ _ first second => le_trans first second⟩
  exact List.pairwise_insertionSort _ items

end Sorting

/-! ## Loads -/

def rankLoad (rank : Int) (batch : ExpertTransferBatch) : Nat :=
  ((batch.filter fun transfer => rank ∈ participants transfer).map expertTransferSize).sum

theorem rankLoad_concat (rank : Int) (batch : ExpertTransferBatch) (transfer : ExpertTransfer) :
    rankLoad rank (batch ++ [transfer]) =
      rankLoad rank batch + if rank ∈ participants transfer then expertTransferSize transfer
        else 0 := by
  rw [rankLoad, List.filter_append, List.map_append, List.sum_append, ← rankLoad,
    List.filter_singleton]
  by_cases member : rank ∈ participants transfer
  · simp [member]
  · simp [member]

theorem nodup_participants (transfer : ExpertTransfer) : (participants transfer).Nodup :=
  List.nodup_dedup _

theorem mem_participants {rank : Int} {transfer : ExpertTransfer} :
    rank ∈ participants transfer ↔ rank = transfer.sourceRank ∨ rank ∈ transfer.targetRanks := by
  rw [participants, List.mem_dedup, List.mem_append, List.mem_singleton, or_comm]

/-- The packing holds the transfers, and the costs of a batch are its loads, within the buffer. -/
structure Packed (bufferSize : Nat) (transfers : List ExpertTransfer) (packing : Packing) :
    Prop where
  holds : packing.batches.flatten.Perm transfers
  sameLength : packing.batches.length = packing.batchCosts.length
  costs : ∀ (index : Nat) batch table, packing.batches[index]? = some batch →
    packing.batchCosts[index]? = some table → ∀ rank, amountAt rank table = rankLoad rank batch
  bounded : ∀ batch ∈ packing.batches, ∀ rank, rankLoad rank batch ≤ bufferSize

theorem flatten_modify_perm {batches : List (List α)} {index : Nat} (inside : index < batches.length)
    (item : α) : (batches.modify index (· ++ [item])).flatten.Perm (batches.flatten ++ [item]) := by
  rw [List.modify_eq_take_cons_drop inside]
  have whole : batches = batches.take index ++ batches[index] :: batches.drop (index + 1) := by
    rw [List.cons_getElem_drop_succ, List.take_append_drop]
  conv_rhs => rw [whole]
  simp only [List.flatten_append, List.flatten_cons, List.append_assoc]
  exact (List.perm_append_comm.append_left _).append_left _

section Placing

variable {bufferSize : Nat} {transfers : List ExpertTransfer} {packing : Packing}
  {transfer : ExpertTransfer}

theorem amountAt_addCosts {table : List (Int × Nat)} {batch : ExpertTransferBatch}
    (costs : ∀ rank, amountAt rank table = rankLoad rank batch) (rank : Int) :
    amountAt rank ((participants transfer).foldl
        (fun table rank => addAmount rank (expertTransferSize transfer) table) table) =
      rankLoad rank (batch ++ [transfer]) := by
  rw [amountAt_foldl_addAmount _ (nodup_participants transfer), rankLoad_concat, costs]

theorem mem_candidates {size index : Nat} {ranks : List Int}
    {batchCosts : List (List (Int × Nat))}
    (chosen : index ∈ candidates bufferSize size ranks batchCosts) :
    ∃ table, batchCosts[index]? = some table ∧ HasRoom bufferSize size ranks table := by
  rw [candidates, List.mem_filter, List.mem_range, decide_eq_true_eq] at chosen
  rw [List.getD_eq_getElem?_getD, List.getElem?_eq_getElem chosen.1, Option.getD_some] at chosen
  exact ⟨_, List.getElem?_eq_getElem chosen.1, chosen.2⟩

theorem rankLoad_le_of_hasRoom {table : List (Int × Nat)} {batch : ExpertTransferBatch}
    (costs : ∀ rank, amountAt rank table = rankLoad rank batch)
    (bounded : ∀ rank, rankLoad rank batch ≤ bufferSize)
    (room : HasRoom bufferSize (expertTransferSize transfer) (participants transfer) table)
    (rank : Int) : rankLoad rank (batch ++ [transfer]) ≤ bufferSize := by
  rw [rankLoad_concat]
  by_cases member : rank ∈ participants transfer
  · rw [if_pos member, ← costs]
    exact room rank member
  · rw [if_neg member, Nat.add_zero]
    exact bounded rank

theorem Packed.place (packed : Packed bufferSize transfers packing)
    (fits : expertTransferSize transfer ≤ bufferSize) :
    Packed bufferSize (transfers ++ [transfer]) (placeTransfer bufferSize packing transfer) := by
  rw [placeTransfer]
  dsimp only
  split
  · rename_i index chosen
    rcases mem_candidates (List.argmin_mem chosen) with ⟨table, isTable, room⟩
    have inside : index < packing.batches.length := by
      rw [packed.sameLength]
      exact (List.getElem?_eq_some_iff.mp isTable).1
    have tableCosts := packed.costs index _ table (List.getElem?_eq_getElem inside) isTable
    constructor
    · exact (flatten_modify_perm inside transfer).trans (packed.holds.append_right _)
    · rw [List.length_modify, List.length_modify]
      exact packed.sameLength
    · intro other batch costs isBatch isCosts rank
      rw [List.getElem?_modify, Option.map_eq_map, Option.map_eq_some_iff] at isBatch isCosts
      rcases isBatch with ⟨oldBatch, isOldBatch, batchEq⟩
      rcases isCosts with ⟨oldCosts, isOldCosts, costsEq⟩
      have old := packed.costs other oldBatch oldCosts isOldBatch isOldCosts
      by_cases same : index = other
      · rw [if_pos same] at batchEq costsEq
        rw [← batchEq, ← costsEq]
        exact amountAt_addCosts old rank
      · rw [if_neg same] at batchEq costsEq
        rw [← batchEq, ← costsEq]
        exact old rank
    · intro batch member rank
      rcases List.getElem?_of_mem member with ⟨other, isBatch⟩
      rw [List.getElem?_modify, Option.map_eq_map, Option.map_eq_some_iff] at isBatch
      rcases isBatch with ⟨oldBatch, isOldBatch, batchEq⟩
      have oldBounded := packed.bounded oldBatch (List.mem_of_getElem? isOldBatch)
      by_cases same : index = other
      · rw [if_pos same] at batchEq
        rw [← batchEq]
        rw [← same] at isOldBatch
        exact rankLoad_le_of_hasRoom (packed.costs index oldBatch table isOldBatch isTable)
          oldBounded room rank
      · rw [if_neg same] at batchEq
        rw [← batchEq]
        exact oldBounded rank
  · have emptyCosts : ∀ rank, amountAt rank ([] : List (Int × Nat)) = rankLoad rank [] :=
      fun _ => rfl
    constructor
    · rw [List.flatten_append, List.flatten_singleton]
      exact packed.holds.append_right _
    · rw [List.length_append, List.length_append, packed.sameLength]
      rfl
    · intro other batch costs isBatch isCosts rank
      by_cases old : other < packing.batches.length
      · rw [List.getElem?_append_left old] at isBatch
        rw [List.getElem?_append_left (packed.sameLength ▸ old)] at isCosts
        exact packed.costs other batch costs isBatch isCosts rank
      · have newPlace : other - packing.batches.length = 0 := by
          have inside := (List.getElem?_eq_some_iff.mp isBatch).1
          rw [List.length_append, List.length_singleton] at inside
          omega
        rw [List.getElem?_append_right (Nat.le_of_not_lt old), newPlace] at isBatch
        rw [List.getElem?_append_right (packed.sameLength ▸ Nat.le_of_not_lt old),
          ← packed.sameLength, newPlace] at isCosts
        rw [← Option.some.inj isBatch, ← Option.some.inj isCosts]
        exact amountAt_addCosts emptyCosts rank
    · intro batch member rank
      rcases List.mem_append.mp member with old | isNew
      · exact packed.bounded batch old rank
      · rw [List.mem_singleton.mp isNew]
        apply Nat.le_trans (Nat.le_of_eq (rankLoad_concat rank [] transfer))
        split
        · exact Nat.le_trans (Nat.le_of_eq (Nat.zero_add _)) fits
        · exact Nat.zero_le _

theorem packed_nil (bufferSize : Nat) : Packed bufferSize [] ⟨[], []⟩ where
  holds := List.Perm.refl _
  sameLength := rfl
  costs := by
    intro index batch table isBatch
    cases isBatch
  bounded := by
    intro batch member
    cases member

theorem Packed.run (placed : List ExpertTransfer)
    (fits : ∀ transfer ∈ placed, expertTransferSize transfer ≤ bufferSize) :
    ∀ {transfers : List ExpertTransfer} {packing : Packing}, Packed bufferSize transfers packing →
      Packed bufferSize (transfers ++ placed)
        (placed.foldl (placeTransfer bufferSize) packing) := by
  induction placed with
  | nil =>
      intro transfers packing packed
      rw [List.append_nil]
      exact packed
  | cons transfer rest induction =>
      intro transfers packing packed
      rw [List.forall_mem_cons] at fits
      rw [List.foldl_cons, ← List.singleton_append, ← List.append_assoc]
      exact induction fits.2 (packed.place fits.1)

end Placing

/-- The packing returns exactly if every transfer fits, and then keeps to the buffer. -/
theorem packExpertTransferBatches_spec {transfers : List ExpertTransfer} {bufferSize : Nat}
    (nonempty : transfers ≠ []) :
    ((∃ batches, packExpertTransferBatches transfers bufferSize = .ok batches) ↔
        ∀ transfer ∈ transfers, expertTransferSize transfer ≤ bufferSize) ∧
      ∀ batches, packExpertTransferBatches transfers bufferSize = .ok batches →
        batches.flatten.Perm transfers ∧
          ∀ batch ∈ batches, ∀ rank, rankLoad rank batch ≤ bufferSize := by
  rw [packExpertTransferBatches]
  generalize isKey : (fun transfer : ExpertTransfer =>
    toLex (-(expertTransferSize transfer : Int), toLex (transfer.targetRanks, transfer.sourceRank)))
      = key
  have perm := sortedBy_perm key transfers
  have ordered := sortedBy_ordered key transfers
  cases sortedEq : sortedBy key transfers with
  | nil =>
      rw [sortedEq] at perm
      exact absurd (List.nil_perm.mp perm) nonempty
  | cons first rest =>
      rw [sortedEq] at perm ordered
      have largest : ∀ transfer ∈ first :: rest,
          expertTransferSize transfer ≤ expertTransferSize first := by
        intro transfer member
        rcases List.mem_cons.mp member with rfl | later
        · exact Nat.le_refl _
        · have before := (List.pairwise_cons.mp ordered).1 transfer later
          rw [← isKey, Prod.Lex.toLex_le_toLex] at before
          rcases before with less | same
          · dsimp only at less
            omega
          · dsimp only at same
            omega
      have isFirst : itemAt (first :: rest) 0 = .ok first := itemAt_eq_ok.mpr rfl
      have fitsIff : expertTransferSize first ≤ bufferSize ↔
          ∀ transfer ∈ transfers, expertTransferSize transfer ≤ bufferSize := by
        constructor
        · intro fits transfer member
          exact Nat.le_trans (largest transfer (perm.mem_iff.mpr member)) fits
        · exact fun fit => fit first (perm.mem_iff.mp List.mem_cons_self)
      rw [isFirst, ok_bind]
      by_cases fits : expertTransferSize first ≤ bufferSize
      · rw [raiseIf, if_neg (Nat.not_lt.mpr fits), ok_bind, pure_eq_ok]
        refine ⟨iff_of_true ⟨_, rfl⟩ (fitsIff.mp fits), ?_⟩
        intro batches returned
        have packed := (packed_nil bufferSize).run (first :: rest)
          fun transfer member => fitsIff.mp fits transfer (perm.mem_iff.mp member)
        rw [← Except.ok.inj returned]
        exact ⟨packed.holds.trans perm, packed.bounded⟩
      · rw [raiseIf, if_pos (Nat.not_le.mp fits)]
        refine ⟨iff_of_false ?_ (fun fit => fits (fitsIff.mpr fit)), ?_⟩
        · rintro ⟨batches, returned⟩
          cases returned
        · intro batches returned
          cases returned

end Vime.Backends.MegatronUtils.ExpertRouting
