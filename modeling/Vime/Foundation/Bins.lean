import Mathlib.Data.List.Basic
import Mathlib.Data.List.Flatten
import Mathlib.Data.List.Nodup
import Mathlib.Data.List.Perm.Basic
import Mathlib.Data.List.Perm.Lattice
import Mathlib.Tactic.Ring

/-! # Bins of indices

Ways of distributing the indices below a count over bins, and how a packing is
carried from indices to the values behind them.
-/

namespace Vime.Foundation

def Packs (count : Nat) (bins : List (List Nat)) : Prop :=
  bins.flatten.Perm (List.range count)

theorem Packs.lt {count : Nat} {bins : List (List Nat)} (packs : Packs count bins)
    {bin : List Nat} (member : bin ∈ bins) {index : Nat} (inBin : index ∈ bin) :
    index < count := by
  rw [← List.mem_range]
  exact packs.mem_iff.mp (List.mem_flatten_of_mem member inBin)

theorem map_getD_range (values : List α) (default : α) :
    (List.range values.length).map (fun index => values.getD index default) = values := by
  apply List.ext_getElem
  · simp
  · intro index _ inside
    simp [inside]

theorem map_getD_perm {values : List α} {indices : List Nat}
    (covers : indices.Perm (List.range values.length)) (default : α) :
    (indices.map fun index => values.getD index default).Perm values := by
  have mapped := covers.map fun index => values.getD index default
  rwa [map_getD_range] at mapped

theorem Packs.flatten_map_getD {values : List α} {bins : List (List Nat)}
    (packs : Packs values.length bins) (default : α) :
    (bins.map fun bin => bin.map fun index => values.getD index default).flatten.Perm
      values := by
  rw [← List.map_flatten]
  exact map_getD_perm packs default

/-! ## Singletons, chunks and strides -/

theorem packs_singletons (count : Nat) :
    Packs count ((List.range count).map fun index => [index]) := by
  rw [Packs, ← List.flatMap_def, List.flatMap_singleton']

theorem flatten_chunks (count width : Nat) :
    ∀ chunks : Nat,
      ((List.range' 0 chunks width).map fun start =>
        List.range' start (min (start + width) count - start)).flatten =
          List.range (min (chunks * width) count)
  | 0 => by simp
  | chunks + 1 => by
      rw [List.range'_concat, List.map_append, List.flatten_append,
        flatten_chunks count width chunks, List.range_eq_range', List.range_eq_range']
      simp only [List.map_cons, List.map_nil, List.flatten_cons, List.flatten_nil,
        List.append_nil, Nat.zero_add]
      by_cases inside : chunks * width ≤ count
      · rw [Nat.min_eq_left inside, Nat.mul_comm width chunks]
        have joined (more : Nat) : List.range' 0 (chunks * width) ++
            List.range' (chunks * width) more = List.range' 0 (chunks * width + more) := by
          rw [← List.range'_append_1, Nat.zero_add]
        rw [joined]
        congr 1
        rw [Nat.succ_mul]
        omega
      · rw [Nat.min_eq_right (by omega), Nat.mul_comm width chunks,
          Nat.min_eq_right (by omega), Nat.sub_eq_zero_of_le (by omega),
          Nat.min_eq_right (by rw [Nat.succ_mul]; omega)]
        simp

theorem flatten_blocks (values : List α) (width : Nat) :
    ∀ count : Nat,
      ((List.range' 0 count width).map fun offset =>
        (values.drop offset).take width).flatten = values.take (count * width)
  | 0 => by simp
  | count + 1 => by
      rw [List.range'_concat, List.map_append, List.flatten_append,
        flatten_blocks values width count, Nat.succ_mul, List.take_add]
      simp [Nat.mul_comm]

theorem ceilDiv_mul (count : Nat) {width : Nat} (positive : 0 < width) :
    (count * width + width - 1) / width = count := by
  rw [Nat.add_sub_assoc positive, Nat.mul_comm, Nat.mul_add_div positive,
    Nat.div_eq_of_lt (by omega), Nat.add_zero]

theorem packs_chunks {count width : Nat} (positive : 0 < width) :
    Packs count ((List.range' 0 ((count + width - 1) / width) width).map fun start =>
      List.range' start (min (start + width) count - start)) := by
  rw [Packs, flatten_chunks, Nat.min_eq_right]
  have quotient := Nat.div_add_mod (count + width - 1) width
  have remainder := Nat.mod_lt (count + width - 1) positive
  rw [Nat.mul_comm]
  omega

theorem mem_stride_iff {start count step index : Nat} :
    index ∈ List.range' start count step ↔ ∃ turn < count, index = start + step * turn :=
  List.mem_range'

/-- Every `step`-th index from each of the first `step` indices. -/
theorem packs_strides {step : Nat} (count : Nat) (positive : 0 < step) :
    Packs (count * step) ((List.range step).map fun start =>
      List.range' start count step) := by
  rw [Packs, List.perm_ext_iff_of_nodup _ List.nodup_range]
  · intro index
    rw [List.mem_range, List.mem_flatten]
    constructor
    · rintro ⟨bin, member, inBin⟩
      rcases List.mem_map.mp member with ⟨start, inRange, rfl⟩
      rcases mem_stride_iff.mp inBin with ⟨turn, bounded, rfl⟩
      rw [List.mem_range] at inRange
      have last : step * (turn + 1) ≤ step * count := Nat.mul_le_mul_left step bounded
      rw [Nat.mul_comm count step]
      rw [Nat.mul_add] at last
      omega
    · intro bounded
      refine ⟨List.range' (index % step) count step,
        List.mem_map.mpr ⟨index % step, List.mem_range.mpr (Nat.mod_lt _ positive), rfl⟩, ?_⟩
      exact mem_stride_iff.mpr
        ⟨index / step, Nat.div_lt_of_lt_mul (by rwa [Nat.mul_comm]),
          (Nat.mod_add_div index step).symm⟩
  · rw [List.nodup_flatten]
    constructor
    · intro bin member
      rcases List.mem_map.mp member with ⟨start, _, rfl⟩
      exact List.nodup_range' step positive
    · rw [List.pairwise_map]
      apply List.Pairwise.imp_of_mem _ (List.nodup_range (n := step))
      intro left right inLeft inRight different index memberLeft memberRight
      rcases mem_stride_iff.mp memberLeft with ⟨turnLeft, _, fromLeft⟩
      rcases mem_stride_iff.mp memberRight with ⟨turnRight, _, fromRight⟩
      rw [List.mem_range] at inLeft inRight
      apply different
      calc left = index % step := by
            rw [fromLeft, Nat.add_mul_mod_self_left, Nat.mod_eq_of_lt inLeft]
        _ = right := by
            rw [fromRight, Nat.add_mul_mod_self_left, Nat.mod_eq_of_lt inRight]

/-! ## Splitting a bin -/

theorem flatten_split_perm {bins : List (List α)} {index : Nat} {bin left right : List α}
    (found : bins[index]? = some bin) (parts : (left ++ right).Perm bin) :
    (bins.set index left ++ [right]).flatten.Perm bins.flatten := by
  rcases List.getElem?_eq_some_iff.mp found with ⟨inside, rfl⟩
  have before : bins = bins.take index ++ bins[index] :: bins.drop (index + 1) := by
    rw [List.cons_getElem_drop_succ, List.take_append_drop]
  have after : bins.set index left = bins.take index ++ left :: bins.drop (index + 1) :=
    List.set_eq_take_append_cons_drop.trans (if_pos inside)
  rw [after]
  conv_rhs => rw [before]
  simp only [List.flatten_append, List.flatten_cons, List.flatten_nil, List.append_nil,
    List.append_assoc]
  apply List.Perm.append_left
  refine List.Perm.trans ?_ (List.Perm.append_right _ parts)
  rw [List.append_assoc]
  exact List.Perm.append_left left List.perm_append_comm

theorem flatten_interchange {count : Nat} :
    ∀ {plans : List (List (List α))}, (∀ plan ∈ plans, plan.length = count) →
      ((List.range count).flatMap fun rank =>
        plans.flatMap fun plan => plan.getD rank []).Perm (plans.flatMap List.flatten)
  | [], _ => by simp
  | plan :: rest, sizes => by
      rcases List.forall_mem_cons.mp sizes with ⟨size, restSizes⟩
      have later := flatten_interchange restSizes
      have own : ((List.range count).flatMap fun rank => plan.getD rank []) =
          plan.flatten := by
        rw [List.flatMap_def, ← size, map_getD_range]
      simp only [List.flatMap_cons]
      apply (List.flatMap_append_perm ..).symm.trans
      rw [own]
      exact List.Perm.append_left _ later

/-! ## Bins numbered one after the other -/

/-- The positions that consecutive groups take up, counted from `start`. -/
def tile (start : Nat) : List (List α) → List (List Nat)
  | [] => []
  | group :: rest => List.range' start group.length :: tile (start + group.length) rest

theorem length_tile : ∀ (start : Nat) (groups : List (List α)),
    (tile start groups).length = groups.length
  | _, [] => rfl
  | start, group :: rest => by
      rw [tile, List.length_cons, List.length_cons, length_tile]

theorem flatten_tile : ∀ (start : Nat) (groups : List (List α)),
    (tile start groups).flatten = List.range' start groups.flatten.length
  | _, [] => rfl
  | start, group :: rest => by
      rw [tile, List.flatten_cons, flatten_tile, List.flatten_cons, List.length_append,
        List.range'_append_1]

theorem tile_append : ∀ (start : Nat) (groups : List (List α)) (group : List α),
    tile start (groups ++ [group]) =
      tile start groups ++
        [List.range' (start + groups.flatten.length) group.length]
  | start, [], group => by simp [tile]
  | start, first :: rest, group => by
      rw [List.cons_append, tile, tile_append, tile, List.cons_append, List.flatten_cons,
        List.length_append, Nat.add_assoc]

theorem map_tile (default : α) : ∀ (before groups : List (List α)),
    (tile before.flatten.length groups).map
        (fun indices => indices.map fun index =>
          (before ++ groups).flatten.getD index default) =
      groups
  | _, [] => rfl
  | before, group :: rest => by
      have later := map_tile default (before ++ [group]) rest
      have longer : (before ++ [group]).flatten.length =
          before.flatten.length + group.length := by simp
      rw [longer, List.append_assoc, List.singleton_append] at later
      rw [tile, List.map_cons, later]
      congr 1
      apply List.ext_getElem
      · simp
      · intro index _ inside
        simp [List.getElem?_append_right, List.getElem?_append_left, inside]

end Vime.Foundation
