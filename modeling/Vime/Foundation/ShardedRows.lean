import Mathlib.Data.List.GetD
import Vime.Foundation.Tensor

/-! # Sharded rows

Rows made of sections, each of which is cut into equal blocks. A shard takes its own block of
every section; merging puts the blocks of each section side by side again. The two are
inverse.
-/

namespace Vime.Foundation

variable {α β γ : Type}

/-- `zip(*lists, strict=True)`. -/
def zipStrict (lists : List (List α)) : Except PyException (List (List α)) :=
  match lists with
  | [] => .ok []
  | first :: _ => do
      raiseIf (∃ list ∈ lists, list.length ≠ first.length)
        (.valueError "zip() arguments have different lengths")
      pure ((List.range first.length).map fun column => lists.filterMap fun list => list[column]?)

/-- `values[start::step]` for bounds that are not negative. -/
def everyFrom (values : List α) (start step : Nat) : List α :=
  ((values.drop start).zipIdx.filter fun (_, distance) => distance % step = 0).map Prod.fst

section Lists

theorem filterMap_eq_map (transform : α → Option β) (image : α → β) :
    ∀ (items : List α), (∀ item ∈ items, transform item = some (image item)) →
      items.filterMap transform = items.map image
  | [], _ => rfl
  | item :: rest, each => by
      rw [List.filterMap_cons, each item List.mem_cons_self, List.map_cons,
        filterMap_eq_map transform image rest fun other member =>
          each other (List.mem_cons_of_mem _ member)]

theorem zipStrict_map (columns : List β) (entry : α → β → γ) {items : List α}
    (nonempty : items ≠ []) :
    zipStrict (items.map fun item => columns.map (entry item)) =
      .ok (columns.map fun column => items.map fun item => entry item column) := by
  cases items with
  | nil => exact absurd rfl nonempty
  | cons first rest =>
      have equal : ¬ ∃ list ∈ (first :: rest).map fun item => columns.map (entry item),
          list.length ≠ (columns.map (entry first)).length := by
        intro differs
        rcases differs with ⟨list, member, different⟩
        rw [List.mem_map] at member
        rcases member with ⟨item, _, rfl⟩
        rw [List.length_map, List.length_map] at different
        exact different rfl
      have isZip : (List.range columns.length).map (fun column =>
          ((first :: rest).map fun item => columns.map (entry item)).filterMap
            fun list => list[column]?) =
          columns.map fun column => (first :: rest).map fun item => entry item column := by
        apply List.ext_getElem
        · rw [List.length_map, List.length_map, List.length_range]
        · intro position _ inside
          rw [List.length_map] at inside
          rw [List.getElem_map, List.getElem_range, List.getElem_map, List.filterMap_map]
          apply filterMap_eq_map
          intro item _
          rw [Function.comp_apply, List.getElem?_map, List.getElem?_eq_getElem inside]
          rfl
      rw [List.map_cons] at equal isZip
      rw [← isZip, List.map_cons, zipStrict, raiseIf_eq_ok.mpr equal, ok_bind, List.length_map]
      rfl

theorem everyFrom_eq_singleton {values : List α} {start step : Nat} {value : α}
    (length : values.length = step) (isValue : values[start]? = some value) :
    everyFrom values start step = [value] := by
  rcases List.getElem?_eq_some_iff.mp isValue with ⟨inside, rfl⟩
  have later : ((values.drop (start + 1)).zipIdx 1).filter
      (fun (_, distance) => distance % step = 0) = [] := by
    rw [List.filter_eq_nil_iff]
    intro entry member
    rcases entry with ⟨other, distance⟩
    have bounds := List.mem_zipIdx member
    rw [List.length_drop] at bounds
    rw [decide_eq_true_eq, Nat.mod_eq_of_lt (by omega)]
    omega
  rw [everyFrom, List.drop_eq_getElem_cons inside, List.zipIdx_cons, List.filter_cons,
    if_pos (by simp), later]
  rfl

/-! ## Pieces -/

theorem flatten_takePieces : ∀ (sizes : List Nat) {values : List α},
    sizes.sum = values.length → (takePieces sizes values).flatten = values
  | [], values, sum => (List.eq_nil_of_length_eq_zero sum.symm).symm
  | size :: sizes, values, sum => by
      rw [List.sum_cons] at sum
      rw [takePieces, List.flatten_cons, flatten_takePieces sizes (by rw [List.length_drop]; omega),
        List.take_append_drop]

theorem map_length_takePieces : ∀ (sizes : List Nat) {values : List α},
    sizes.sum ≤ values.length → (takePieces sizes values).map List.length = sizes
  | [], _, _ => rfl
  | size :: sizes, values, sum => by
      rw [List.sum_cons] at sum
      rw [takePieces, List.map_cons,
        map_length_takePieces sizes (by rw [List.length_drop]; omega), List.length_take,
        Nat.min_eq_left (by omega)]

theorem takePieces_flatten_of {sizes : List Nat} {pieces : List (List α)}
    (lengths : pieces.map List.length = sizes) : takePieces sizes pieces.flatten = pieces := by
  rw [← lengths, takePieces_flatten]

theorem length_takePieces : ∀ (sizes : List Nat) (values : List α),
    (takePieces sizes values).length = sizes.length
  | [], _ => rfl
  | size :: sizes, values => by
      rw [takePieces, List.length_cons, List.length_cons, length_takePieces sizes]

theorem mem_of_mem_takePieces : ∀ {sizes : List Nat} {values piece : List α} {value : α},
    piece ∈ takePieces sizes values → value ∈ piece → value ∈ values
  | [], _, _, _, isPiece, _ => nomatch isPiece
  | size :: sizes, values, piece, value, isPiece, member => by
      rcases List.mem_cons.mp isPiece with rfl | later
      · exact List.mem_of_mem_take member
      · exact List.mem_of_mem_drop (mem_of_mem_takePieces later member)

end Lists

/-! ## Shards -/

def sectionBlocks (shards : Nat) (rows : List α) : List (List α) :=
  takePieces (List.replicate shards (rows.length / shards)) rows

def shardRows (sections : List Nat) (shards shard : Nat) (rows : List α) : List α :=
  (takePieces sections rows).flatMap fun piece => (sectionBlocks shards piece).getD shard []

def mergeRows (localSections : List Nat) (parts : List (List α)) : List α :=
  (List.range localSections.length).flatMap fun position =>
    parts.flatMap fun part => (takePieces localSections part).getD position []

section Shards

variable {sections : List Nat} {shards : Nat}

theorem map_getD_range_of {values : List (List α)} {count : Nat} (length : values.length = count) :
    (List.range count).map (fun position => values.getD position []) = values := by
  rw [← length]
  apply List.ext_getElem
  · rw [List.length_map, List.length_range]
  · intro position _ inside
    rw [List.getElem_map, List.getElem_range, List.getD_eq_getElem _ _ inside]

theorem flatten_sectionBlocks {rows : List α} (divides : shards ∣ rows.length) :
    (List.range shards).flatMap (fun shard => (sectionBlocks shards rows).getD shard []) =
      rows := by
  have length : (sectionBlocks shards rows).length = shards := by
    rw [sectionBlocks, length_takePieces, List.length_replicate]
  rw [List.flatMap_def, map_getD_range_of length, sectionBlocks, flatten_takePieces]
  rw [List.sum_replicate_nat, Nat.mul_div_cancel' divides]

theorem length_getD_takePieces {sizes : List Nat} {values : List α}
    (sum : sizes.sum ≤ values.length) {position : Nat} (inside : position < sizes.length) :
    ((takePieces sizes values).getD position []).length = sizes[position] := by
  have sizesEq := map_length_takePieces sizes sum
  have isPiece : position < (takePieces sizes values).length := by
    rw [length_takePieces]
    exact inside
  have isLength := List.getElem_of_eq sizesEq (i := position)
    (by rw [List.length_map]; exact isPiece)
  rw [List.getElem_map] at isLength
  rw [List.getD_eq_getElem _ _ isPiece, isLength]

theorem length_block {rows : List α} (divides : shards ∣ rows.length) {shard : Nat}
    (isShard : shard < shards) :
    ((sectionBlocks shards rows).getD shard []).length = rows.length / shards := by
  have total : (List.replicate shards (rows.length / shards)).sum = rows.length := by
    rw [List.sum_replicate_nat, Nat.mul_div_cancel' divides]
  rw [sectionBlocks,
    length_getD_takePieces (Nat.le_of_eq total) (by rw [List.length_replicate]; exact isShard),
    List.getElem_replicate]

theorem shardRows_lengths {rows : List α} (sum : sections.sum = rows.length)
    (divides : ∀ size ∈ sections, shards ∣ size) {shard : Nat} (isShard : shard < shards) :
    ((takePieces sections rows).map fun piece =>
        (sectionBlocks shards piece).getD shard []).map List.length =
      sections.map fun size => size / shards := by
  have sizes := map_length_takePieces sections (Nat.le_of_eq sum)
  have divided := congrArg (List.map fun size => size / shards) sizes
  rw [List.map_map] at divided
  rw [List.map_map, ← divided]
  apply List.map_congr_left
  intro piece member
  have inSections : piece.length ∈ sections := sizes ▸ List.mem_map_of_mem member
  exact length_block (divides _ inSections) isShard

theorem length_shardRows {rows : List α} (sum : sections.sum = rows.length)
    (divides : ∀ size ∈ sections, shards ∣ size) {shard : Nat} (isShard : shard < shards) :
    (shardRows sections shards shard rows).length =
      (sections.map fun size => size / shards).sum := by
  rw [shardRows, List.flatMap_def, List.length_flatten, shardRows_lengths sum divides isShard]

theorem takePieces_shardRows {rows : List α} (sum : sections.sum = rows.length)
    (divides : ∀ size ∈ sections, shards ∣ size) {shard : Nat} (isShard : shard < shards) :
    takePieces (sections.map fun size => size / shards) (shardRows sections shards shard rows) =
      (takePieces sections rows).map fun piece => (sectionBlocks shards piece).getD shard [] :=
  takePieces_flatten_of (shardRows_lengths sum divides isShard)

theorem getD_map_of_lt (image : α → List β) {items : List α} {position : Nat}
    (inside : position < items.length) :
    (items.map image).getD position [] = image items[position] := by
  rw [List.getD_eq_getElem?_getD, List.getElem?_map, List.getElem?_eq_getElem inside]
  rfl

theorem mergeRows_shardRows {rows : List α} (sum : sections.sum = rows.length)
    (divides : ∀ size ∈ sections, shards ∣ size) :
    mergeRows (sections.map fun size => size / shards)
      ((List.range shards).map fun shard => shardRows sections shards shard rows) = rows := by
  have sizes := map_length_takePieces sections (Nat.le_of_eq sum)
  have piece (position : Nat) (inside : position < (takePieces sections rows).length) :
      ((List.range shards).map fun shard => shardRows sections shards shard rows).flatMap
          (fun part => (takePieces (sections.map fun size => size / shards) part).getD
            position []) = (takePieces sections rows)[position] := by
    have inSections : (takePieces sections rows)[position].length ∈
        (takePieces sections rows).map List.length :=
      List.mem_map_of_mem (List.getElem_mem inside)
    have divided := divides _ (sizes ▸ inSections)
    rw [List.flatMap_map]
    rw [← flatten_sectionBlocks divided]
    apply List.flatMap_congr
    intro shard member
    rw [takePieces_shardRows sum divides (List.mem_range.mp member), getD_map_of_lt _ inside]
  have length := length_takePieces sections rows
  rw [mergeRows, List.length_map, ← length, List.flatMap_def]
  have pieces : (List.range (takePieces sections rows).length).map (fun position =>
      ((List.range shards).map fun shard => shardRows sections shards shard rows).flatMap
        fun part => (takePieces (sections.map fun size => size / shards) part).getD
          position []) = takePieces sections rows := by
    apply List.ext_getElem
    · rw [List.length_map, List.length_range]
    · intro position _ inside
      rw [List.getElem_map, List.getElem_range, piece position inside]
  rw [pieces, flatten_takePieces sections sum]

theorem merged_blocks {parts : List (List α)} (count : parts.length = shards)
    {sizes : List Nat} (lengths : ∀ part ∈ parts, part.length = sizes.sum) {position : Nat}
    (inside : position < sizes.length) :
    (parts.map fun part => (takePieces sizes part).getD position []).map List.length =
      List.replicate shards sizes[position] := by
  rw [List.eq_replicate_iff, List.length_map, List.length_map]
  refine ⟨count, ?_⟩
  intro length member
  simp only [List.mem_map, exists_exists_and_eq_and] at member
  rcases member with ⟨other, inParts, rfl⟩
  exact length_getD_takePieces (Nat.le_of_eq (lengths other inParts).symm) inside

theorem mergeRows_lengths {parts : List (List α)} (count : parts.length = shards)
    (divides : ∀ size ∈ sections, shards ∣ size)
    (lengths : ∀ part ∈ parts, part.length = (sections.map fun size => size / shards).sum) :
    ((List.range (sections.map fun size => size / shards).length).map fun position =>
      parts.flatMap fun part => (takePieces (sections.map fun size => size / shards) part).getD
        position []).map List.length = sections := by
  rw [List.map_map]
  apply List.ext_getElem
  · rw [List.length_map, List.length_range, List.length_map]
  · intro position inside inSections
    rw [List.length_map, List.length_range] at inside
    rw [List.getElem_map, List.getElem_range, Function.comp_apply, List.flatMap_def,
      List.length_flatten, merged_blocks count lengths inside, List.sum_replicate_nat,
      List.getElem_map, Nat.mul_div_cancel' (divides _ (List.getElem_mem inSections))]

theorem length_mergeRows {parts : List (List α)} (count : parts.length = shards)
    (divides : ∀ size ∈ sections, shards ∣ size)
    (lengths : ∀ part ∈ parts, part.length = (sections.map fun size => size / shards).sum) :
    (mergeRows (sections.map fun size => size / shards) parts).length = sections.sum := by
  rw [mergeRows, List.flatMap_def, List.length_flatten,
    mergeRows_lengths count divides lengths]

/-- Sharding undoes merging. -/
theorem shardRows_mergeRows {parts : List (List α)} (count : parts.length = shards)
    (divides : ∀ size ∈ sections, shards ∣ size)
    (lengths : ∀ part ∈ parts, part.length = (sections.map fun size => size / shards).sum)
    {shard : Nat} {part : List α} (isPart : parts[shard]? = some part) :
    shardRows sections shards shard (mergeRows (sections.map fun size => size / shards) parts) =
      part := by
  have pieces := takePieces_flatten_of (mergeRows_lengths count divides lengths)
  rw [← List.flatMap_def, ← mergeRows] at pieces
  generalize sections.map (fun size => size / shards) = sizes at lengths pieces ⊢
  have block (position : Nat) (inside : position < sizes.length) :
      (sectionBlocks shards (parts.flatMap fun part =>
        (takePieces sizes part).getD position [])).getD shard [] =
          (takePieces sizes part).getD position [] := by
    have positive : 0 < shards := by
      have bound := (List.getElem?_eq_some_iff.mp isPart).1
      omega
    have blocks := merged_blocks count lengths inside
    have isBlocks := takePieces_flatten_of blocks
    rw [sectionBlocks, List.flatMap_def, List.length_flatten, blocks,
      List.sum_replicate_nat, Nat.mul_div_cancel_left _ positive, isBlocks,
      List.getD_eq_getElem?_getD, List.getElem?_map, isPart]
    rfl
  have inPart := lengths part (List.mem_of_getElem? isPart)
  have all : (List.range sizes.length).map (fun position =>
      (takePieces sizes part).getD position []) = takePieces sizes part :=
    map_getD_range_of (length_takePieces sizes part)
  rw [shardRows, pieces, List.flatMap_map]
  have each : (List.range sizes.length).flatMap (fun position =>
      (sectionBlocks shards (parts.flatMap fun part =>
        (takePieces sizes part).getD position [])).getD shard []) =
      (List.range sizes.length).flatMap fun position =>
        (takePieces sizes part).getD position [] := by
    apply List.flatMap_congr
    intro position member
    exact block position (List.mem_range.mp member)
  rw [each, List.flatMap_def, all, flatten_takePieces sizes inPart.symm]

theorem shardRows_one {rows : List α} (sum : sections.sum = rows.length) :
    shardRows sections 1 0 rows = rows := by
  have whole (piece : List α) : (sectionBlocks 1 piece).getD 0 [] = piece := by
    rw [sectionBlocks, Nat.div_one, List.replicate_one, takePieces, List.take_length]
    rfl
  have same : (fun piece : List α => (sectionBlocks 1 piece).getD 0 []) = id := funext whole
  rw [shardRows, same, List.flatMap_id, flatten_takePieces sections sum]

end Shards

end Vime.Foundation
