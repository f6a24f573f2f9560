import Vime.Backends.MegatronUtils.RankIndices

/-! # What the ranks hold of a response vector

A rank holds the entries of its indices; the ranks gather what they hold to the vector, and a
change of one entry is a change on the rank that holds it.
-/

namespace Vime.Backends.MegatronUtils

open Vime.Foundation

/-! ## The entries of a rank -/

section Entries

variable {M : Type} [Zero M]

def heldSlice (cpSize cpRank totalLength responseLength : Nat) (values : List M) : List M :=
  (heldIndices cpSize cpRank totalLength responseLength).map fun index => values.getD index 0

theorem getD_map_range {α : Type} (entries : Nat → α) (default : α) {count index : Nat}
    (inside : index < count) : ((List.range count).map entries).getD index default =
      entries index := by
  rw [List.getD_eq_getElem _ _ (by rwa [List.length_map, List.length_range]), List.getElem_map,
    List.getElem_range]

theorem getD_modify (change : M → M) (values : List M) {position index : Nat}
    (inside : index < values.length) :
    (values.modify position change).getD index 0 =
      if index = position then change (values.getD index 0) else values.getD index 0 := by
  rw [List.getD_eq_getElem _ _ (by rwa [List.length_modify]), List.getElem_modify,
    List.getD_eq_getElem _ _ inside]
  simp only [eq_comm]

variable {cpSize cpRank totalLength responseLength : Nat} {values : List M}

theorem heldIndices_increasing :
    (heldIndices cpSize cpRank totalLength responseLength).Pairwise (· < ·) := by
  rw [heldIndices]
  split
  · exact List.pairwise_lt_range
  · exact rankIndices_increasing

theorem heldSlice_single (single : cpSize = 1) (sized : values.length = responseLength) :
    heldSlice cpSize cpRank totalLength responseLength values = values := by
  rw [heldSlice, heldIndices, if_pos single, ← sized, map_getD_range_eq]

theorem heldSlice_map (change : M → M) (sized : values.length = responseLength) :
    (heldSlice cpSize cpRank totalLength responseLength values).map change =
      heldSlice cpSize cpRank totalLength responseLength (values.map change) := by
  rw [heldSlice, heldSlice, List.map_map]
  apply List.map_congr_left
  intro index member
  have inside : index < values.length := sized ▸ lt_of_mem_heldIndices member
  rw [Function.comp_apply, List.getD_eq_getElem _ _ inside,
    List.getD_eq_getElem _ _ (by rwa [List.length_map]), List.getElem_map]

theorem heldSlice_modify_other (sized : values.length = responseLength) {position : Nat}
    (change : M → M) (other : position ∉ heldIndices cpSize cpRank totalLength responseLength) :
    heldSlice cpSize cpRank totalLength responseLength (values.modify position change) =
      heldSlice cpSize cpRank totalLength responseLength values := by
  apply List.map_congr_left
  intro index member
  rw [getD_modify change values (sized ▸ lt_of_mem_heldIndices member), if_neg]
  intro same
  exact other (same ▸ member)

theorem heldSlice_modify_last (sized : values.length = responseLength) {position : Nat}
    (change : M → M)
    (last : (heldIndices cpSize cpRank totalLength responseLength).getLast? = some position) :
    (heldSlice cpSize cpRank totalLength responseLength values).modify
        ((heldSlice cpSize cpRank totalLength responseLength values).length - 1) change =
      heldSlice cpSize cpRank totalLength responseLength (values.modify position change) := by
  rcases List.getLast?_eq_some_iff.mp last with ⟨front, indicesEq⟩
  have increasing : (front ++ [position]).Pairwise (· < ·) := indicesEq ▸ heldIndices_increasing
  have inside : ∀ index ∈ front ++ [position], index < values.length := by
    intro index member
    rw [← indicesEq] at member
    exact sized ▸ lt_of_mem_heldIndices member
  have before : ∀ index ∈ front, index < position := fun index member =>
    (List.pairwise_append.mp increasing).2.2 index member position (by simp)
  rw [heldSlice, heldSlice, indicesEq, List.map_append, List.map_append, List.length_append,
    List.map_singleton, List.map_singleton, List.length_singleton, Nat.add_sub_cancel,
    getD_modify change values (inside position (by simp)), if_pos rfl]
  have unchanged : front.map (fun index => (values.modify position change).getD index 0) =
      front.map fun index => values.getD index 0 := by
    apply List.map_congr_left
    intro index member
    rw [getD_modify change values (inside index (List.mem_append_left _ member)), if_neg]
    exact Nat.ne_of_lt (before index member)
  rw [unchanged]
  generalize front.map (fun index => values.getD index 0) = entries
  induction entries with
  | nil => rfl
  | cons entry rest induction =>
      rw [List.cons_append, List.length_cons, List.modify_succ_cons, induction,
        List.cons_append]

theorem heldIndices_unique {index otherRank : Nat}
    (keeps : KeepsResponse cpSize responseLength totalLength) (isRank : cpRank < cpSize)
    (isOther : otherRank < cpSize)
    (held : index ∈ heldIndices cpSize cpRank totalLength responseLength)
    (otherHeld : index ∈ heldIndices cpSize otherRank totalLength responseLength) :
    cpRank = otherRank := by
  rcases keeps with single | noResponse | inSequence
  · omega
  · have inside := lt_of_mem_heldIndices held
    omega
  · by_cases single : cpSize = 1
    · omega
    · rw [heldIndices, if_neg single, mem_rankIndices] at held otherHeld
      exact held.2.unique (by omega) inSequence held.1 isRank isOther otherHeld.2

end Entries

/-! ## Slicing and gathering -/

section Gather

variable {M : Type} [AddCommMonoid M] {cpSize cpRank totalLength responseLength : Nat}

def slices (cpSize totalLength responseLength : Nat) (values : List M) :
    Except PyException (Nat → List M) := do
  let pieces ← (List.range cpSize).mapM fun cpRank =>
    sliceLogProbWithCp cpSize cpRank values totalLength responseLength
  pure fun cpRank => pieces.getD cpRank []

def heldSlices (cpSize totalLength responseLength : Nat) (values : List M) : Nat → List M :=
  fun cpRank => ((List.range cpSize).map fun rank =>
    heldSlice cpSize rank totalLength responseLength values).getD cpRank []

theorem heldSlices_rank (isRank : cpRank < cpSize) (totalLength responseLength : Nat)
    (values : List M) :
    heldSlices cpSize totalLength responseLength values cpRank =
      heldSlice cpSize cpRank totalLength responseLength values :=
  getD_map_range _ _ isRank

theorem slices_eq (cpSize totalLength : Nat) {values : List M}
    (sized : values.length = responseLength) :
    slices cpSize totalLength responseLength values =
      .ok (heldSlices cpSize totalLength responseLength values) := by
  have pieces := mapM_eq_ok_map
    (fun rank => sliceLogProbWithCp cpSize rank values totalLength responseLength)
    (fun rank => heldSlice cpSize rank totalLength responseLength values) (List.range cpSize)
    fun rank member => sliceLogProbWithCp_eq_held (List.mem_range.mp member) values sized
  rw [slices, pieces, ok_bind, pure_eq_ok]
  rfl

def gatheredResponse (cpSize cpRank : Nat) (tensors : Nat → List M)
    (totalLength responseLength : Nat) : Except PyException (List M) :=
  if cpSize > 1 then allGatherWithCp cpSize tensors totalLength responseLength
  else pure (tensors cpRank)

def keptChunk (cpSize cpRank totalLength responseLength : Nat) (row : List M) :
    Except PyException (List M) :=
  if cpSize > 1 then sliceLogProbWithCp cpSize cpRank row totalLength responseLength else pure row

theorem keptChunk_eq (isRank : cpRank < cpSize) (totalLength : Nat) {row : List M}
    (sized : row.length = responseLength) :
    keptChunk cpSize cpRank totalLength responseLength row =
      .ok (heldSlice cpSize cpRank totalLength responseLength row) := by
  rw [keptChunk]
  split
  case isTrue => exact sliceLogProbWithCp_eq_held isRank row sized
  case isFalse notParallel => rw [heldSlice_single (by omega) sized, pure_eq_ok]

theorem allGatherWithCp_congr (positive : 0 < cpSize) {tensors others : Nat → List M}
    (same : ∀ cpRank < cpSize, tensors cpRank = others cpRank)
    (totalLength responseLength : Nat) :
    allGatherWithCp cpSize tensors totalLength responseLength =
      allGatherWithCp cpSize others totalLength responseLength := by
  rw [allGatherWithCp, allGatherWithCp, same 0 positive]
  split
  · rfl
  · congr 1
    apply mapM_congr
    intro cpRank member
    rw [same cpRank (List.mem_range.mp member)]

theorem gatheredResponse_held (isRank : cpRank < cpSize)
    (keeps : KeepsResponse cpSize responseLength totalLength) {values : List M}
    (sized : values.length = responseLength) :
    gatheredResponse cpSize cpRank (heldSlices cpSize totalLength responseLength values)
      totalLength responseLength = .ok values := by
  rw [gatheredResponse]
  split
  case isTrue parallel =>
    have inSequence := keeps.resolve_left (Nat.ne_of_gt parallel)
    rcases allGatherWithCp_slices parallel inSequence values sized with
      ⟨pieces, sliced, gathered⟩
    rw [← gathered]
    apply allGatherWithCp_congr (by omega)
    intro rank inside
    have own := sliced rank inside
    rw [sliceLogProbWithCp_eq_held inside values sized] at own
    rw [heldSlices_rank inside]
    exact Except.ok.inj own
  case isFalse notParallel =>
    rw [heldSlices_rank isRank, heldSlice_single (by omega) sized, pure_eq_ok]

theorem eq_of_heldSlice_eq (positive : 0 < cpSize)
    (keeps : KeepsResponse cpSize responseLength totalLength) {values others : List M}
    (sized : values.length = responseLength) (otherSized : others.length = responseLength)
    (same : ∀ cpRank < cpSize, heldSlice cpSize cpRank totalLength responseLength values =
      heldSlice cpSize cpRank totalLength responseLength others) : values = others := by
  have sameSlices : heldSlices cpSize totalLength responseLength values =
      heldSlices cpSize totalLength responseLength others := by
    funext cpRank
    rw [heldSlices, heldSlices]
    congr 1
    apply List.map_congr_left
    intro rank member
    exact same rank (List.mem_range.mp member)
  have gathered := gatheredResponse_held positive keeps sized
  rw [sameSlices, gatheredResponse_held positive keeps otherSized] at gathered
  exact (Except.ok.inj gathered).symm

end Gather

end Vime.Backends.MegatronUtils
