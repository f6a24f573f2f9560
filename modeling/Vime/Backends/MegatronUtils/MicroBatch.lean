import Vime.Backends.MegatronUtils.Redistribute

/-! # The layout of a micro-batch

The readers of a micro-batch agree on its rows in every layout, every response token is read
on one rank, and redistribution turns the lists of the allgather layout into those of the
zigzag layout.
-/

namespace Vime.Backends.MegatronUtils

open Vime.Foundation

def StreamLayout.withAllgather (layout : StreamLayout) (allgatherCp : Bool) : StreamLayout :=
  { layout with allgatherCp := allgatherCp }

/-- All readers of a packed micro-batch agree on its layout. -/
theorem readers_agree (layout : StreamLayout) (samples : List PackedSample) (vocabLocal : Nat)
    (ranked : 0 < layout.cpSize) (padded : 0 < layout.tpSize * layout.padMultiplier)
    (nonempty : samples ≠ []) :
    (∀ rank : StreamRank, rank.cpRank < layout.cpSize → ∃ batch shifted keep,
      getBatch layout rank.cpRank samples = .ok batch ∧
      batch.tokens.length = layout.localLength samples ∧
      buildShiftedTokens layout rank.cpRank batch.tokens.length samples = .ok shifted ∧
      buildToppKeepMask layout rank batch.tokens.length vocabLocal samples = .ok keep ∧
      ReadersAgree layout rank vocabLocal samples batch shifted keep
        (layout.rows rank.cpRank batch.tokens.length samples)) ∧
    (∀ i sample, samples[i]? = some sample →
      ((List.range layout.cpSize).flatMap fun cpRank =>
          layout.heldTokens cpRank (layout.localLength samples) (layout.offset samples i)
            sample).Perm
        (List.range sample.responseLength)) ∧
    (∀ {M : Type} [AddCommMonoid M] (quantity : Nat → Nat → M)
      (chunkStream zigzagStream : Nat → List M),
      (∀ cpRank < layout.cpSize, HoldsQuantity (layout.withAllgather true) cpRank samples quantity
        (chunkStream cpRank)) →
      (∀ cpRank < layout.cpSize, HoldsQuantity (layout.withAllgather false) cpRank samples
        quantity (zigzagStream cpRank)) →
      ∃ chunkLists : Nat → List (List M),
        (∀ cpRank < layout.cpSize, extractPerSample (layout.withAllgather true) cpRank
          (chunkStream cpRank) samples = .ok (chunkLists cpRank)) ∧
        ∀ cpRank < layout.cpSize, ∃ zigzagLists,
          extractPerSample (layout.withAllgather false) cpRank (zigzagStream cpRank) samples =
            .ok zigzagLists ∧
          allgatherCpRedistribute layout.cpSize cpRank (chunkStream cpRank).length samples
              (fun rank => (chunkLists rank).map some) =
            .ok (zigzagLists.map some)) := by
  have padPositive := padUnit_ne_zero ranked padded
  refine ⟨?_, ?_, ?_⟩
  · intro rank isRank
    exact exists_readersAgree isRank padPositive nonempty vocabLocal
  · intro i sample isSample
    exact heldTokens_perm ranked padPositive isSample
  · intro M _ quantity chunkStream zigzagStream chunks slices
    let whole := layout.withAllgather true
    have wholeRanked : 0 < whole.cpSize := ranked
    have slicedRanked : 0 < (layout.withAllgather false).cpSize := ranked
    refine ⟨fun cpRank => whole.heldValues cpRank (whole.localLength samples) samples quantity,
      ?_, ?_⟩
    · intro cpRank isRank
      exact extractPerSample_held wholeRanked (chunks cpRank isRank)
    · intro cpRank isRank
      refine ⟨_, extractPerSample_held slicedRanked (slices cpRank isRank), ?_⟩
      have wholePadded : whole.padUnit ≠ 0 := padUnit_ne_zero ranked padded
      have isWholeRank : cpRank < whole.cpSize := isRank
      rw [(chunks cpRank isRank).sized]
      exact allgatherCpRedistribute_eq isWholeRank rfl wholePadded samples quantity _

def threeChunks : StreamLayout := { cpSize := 3, tpSize := 2, padMultiplier := 1, allgatherCp := true }

def promptAndThree : PackedSample where
  tokens := [5, 6, 7, 8]
  responseLength := 3
  lossMask := [1, 0, 1]
  topPTokenIds := [6, 2, 7, 8]
  topPTokenOffsets := [0, 2, 3, 4]
  inSequence := by decide
  maskLength := rfl
  offsetsLength := rfl
  offsetsOrdered := by decide
  offsetsEnd := rfl

theorem readers_agree_threeChunks : ∃ batch shifted keep,
    getBatch threeChunks 1 [promptAndThree, promptAndThree] = .ok batch ∧
    batch.tokens.length = 4 ∧
    buildShiftedTokens threeChunks 1 batch.tokens.length [promptAndThree, promptAndThree] =
      .ok shifted ∧
    buildToppKeepMask threeChunks ⟨1, 0⟩ batch.tokens.length 8 [promptAndThree, promptAndThree] =
      .ok keep ∧
    ReadersAgree threeChunks ⟨1, 0⟩ 8 [promptAndThree, promptAndThree] batch shifted keep
      (threeChunks.rows 1 batch.tokens.length [promptAndThree, promptAndThree]) :=
  (readers_agree threeChunks [promptAndThree, promptAndThree] 8 (by decide) (by decide)
    (List.cons_ne_nil _ _)).1 ⟨1, 0⟩ (by decide)

end Vime.Backends.MegatronUtils
