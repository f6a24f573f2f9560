import Mathlib.Data.List.Infix
import Vime.Foundation.NdTensor
import Vime.Foundation.ShardedRows

/-! # Tensor-parallel sharding

`_tensor_parallel_shard` of `vime/backends/megatron_utils/hf_to_megatron/common.py` and
`_merge_param_partitions` of `vime/backends/megatron_utils/update_weight/common.py`. Both
derive the layout of a parameter from its name, partition dimension and sections. They are
inverse where a `linear_fc1` is partitioned along its first dimension and sections have
stride one.
-/

namespace Vime.Backends.MegatronUtils

open Vime.Foundation

def nameContains (name part : String) : Bool := decide (part.toList <:+: name.toList)

def isLinearFc1 (name : String) : Bool :=
  nameContains name "linear_fc1.weight" || nameContains name "linear_fc1.bias"

def isLinearFc2 (name : String) : Bool := nameContains name "linear_fc2.weight"

/-- The partition attributes that a parameter carries. -/
structure PartitionLayout where
  partitionDim : Nat
  partitionStride : Nat
  partitionSections : Option (List Nat)
  deriving DecidableEq, Repr

/-- `first, second = values`. -/
def unpackTwo {α : Type} : List α → Except PyException (α × α)
  | [first, second] => .ok (first, second)
  | _ => .error (.valueError "wrong number of values to unpack (expected 2)")

section Model

variable {α : Type} [Inhabited α]

/-- `tensor.chunk(parallel_size, dim=dim)[parallel_rank]`. -/
def chunkOf (tensor : NdTensor α) (parallelSize parallelRank dim : Nat) :
    Except PyException (NdTensor α) := do
  let chunks ← tensor.chunk parallelSize dim
  itemAt chunks parallelRank

def tensorParallelShard (name : String) (tensor : NdTensor α) (parallelSize parallelRank : Nat)
    (layout : PartitionLayout) : Except PyException (NdTensor α) :=
  if parallelSize = 1 then .ok tensor
  else
    match layout.partitionSections with
    | some sections => do
        raiseIf (layout.partitionStride ≠ 1 ∨ ∃ size ∈ sections, size % parallelSize ≠ 0)
          (.valueError
            "Projection sections must be divisible by TP and use partition_stride=1")
        let pieces ← tensor.split sections layout.partitionDim
        let blocks ← pieces.mapM fun piece =>
          chunkOf piece parallelSize parallelRank layout.partitionDim
        NdTensor.cat blocks layout.partitionDim
    | none =>
        if isLinearFc1 name then do
          let halves ← tensor.chunk 2 layout.partitionDim
          let (gate, up) ← unpackTwo halves
          let gate ← chunkOf gate parallelSize parallelRank layout.partitionDim
          let up ← chunkOf up parallelSize parallelRank layout.partitionDim
          NdTensor.cat [gate, up] layout.partitionDim
        else do
          let dim := if isLinearFc2 name ∧ layout.partitionDim = 0 then 1 else layout.partitionDim
          let chunks ← tensor.chunk (parallelSize * layout.partitionStride) dim
          NdTensor.cat (everyFrom chunks parallelRank parallelSize) dim

def regroupGlu (partitions : List (NdTensor α)) : Except PyException (List (NdTensor α)) := do
  let split ← partitions.mapM fun part => part.chunk 2 0
  let gates ← split.mapM fun part => itemAt part 0
  let ups ← split.mapM fun part => itemAt part 1
  pure (gates ++ ups)

def mergeParamPartitions (name : String) (partitions : List (NdTensor α)) (partitionDim : Nat)
    (partitionSections : Option (List Nat)) : Except PyException (NdTensor α) :=
  match partitionSections with
  | some sections => do
      raiseIf (∃ size ∈ sections, size % partitions.length ≠ 0)
        (.valueError "Projection sections must be divisible by TP")
      let split ← partitions.mapM fun part =>
        part.split (sections.map fun size => size / partitions.length) partitionDim
      let columns ← zipStrict split
      NdTensor.cat columns.flatten partitionDim
  | none => do
      let partitions ← if isLinearFc1 name then regroupGlu partitions else pure partitions
      -- Megatron grouped MoE exposes its FC2 partition dimension as zero.
      NdTensor.cat partitions (if isLinearFc2 name ∧ partitionDim = 0 then 1 else partitionDim)

end Model

/-! ## Layouts -/

namespace PartitionLayout

def dim (layout : PartitionLayout) (name : String) : Nat :=
  match layout.partitionSections with
  | some _ => layout.partitionDim
  | none =>
      if isLinearFc1 name then layout.partitionDim
      else if isLinearFc2 name ∧ layout.partitionDim = 0 then 1 else layout.partitionDim

def sections (layout : PartitionLayout) (name : String) (shape : List Nat) : List Nat :=
  let size := shape.getD (layout.dim name) 0
  match layout.partitionSections with
  | some sections => sections
  | none => if isLinearFc1 name then [size / 2, size / 2] else [size]

/-- The strides that occur, and sizes that the parallel size divides. -/
structure Divides (layout : PartitionLayout) (name : String) (parallelSize : Nat)
    (shape : List Nat) : Prop where
  bound : layout.dim name < shape.length
  stride : layout.partitionStride = 1 ∨
    (layout.partitionStride = 2 ∧ isLinearFc1 name = true ∧ layout.partitionDim = 0)
  sections : ∀ sections, layout.partitionSections = some sections →
    sections.sum = shape.getD layout.partitionDim 0 ∧ ∀ size ∈ sections, parallelSize ∣ size
  halves : layout.partitionSections = none → isLinearFc1 name = true →
    2 * parallelSize ∣ shape.getD layout.partitionDim 0
  whole : layout.partitionSections = none → isLinearFc1 name = false →
    parallelSize ∣ shape.getD (layout.dim name) 0

/-- The layouts that sharding and merging are made for: sections are used without a stride, and
a `linear_fc1` is partitioned along its first dimension. -/
structure Supported (layout : PartitionLayout) (name : String) (parallelSize : Nat) : Prop where
  sections : ∀ sections, layout.partitionSections = some sections →
    sections ≠ [] ∧ (layout.partitionStride = 1 ∨ parallelSize = 1)
  glu : layout.partitionSections = none → isLinearFc1 name = true →
    layout.partitionDim = 0 ∧ isLinearFc2 name = false

end PartitionLayout

/-- Sharding a full tensor and merging local ones are inverse. -/
structure ShardingInverse (α : Type) [Inhabited α] (name : String) (layout : PartitionLayout)
    (parallelSize : Nat) (shape : List Nat) : Prop where
  merged : ∀ full : NdTensor α, full.shape = shape →
    ∃ parts, (List.range parallelSize).mapM (fun rank =>
        tensorParallelShard name full parallelSize rank layout) = .ok parts ∧
      mergeParamPartitions name parts layout.partitionDim layout.partitionSections = .ok full
  sharded : ∀ parts : List (NdTensor α), parts.length = parallelSize →
    (∀ part ∈ parts, part.shape = shape.set (layout.dim name)
      (shape.getD (layout.dim name) 0 / parallelSize)) →
    ∃ full, mergeParamPartitions name parts layout.partitionDim layout.partitionSections =
        .ok full ∧
      ∀ rank part, parts[rank]? = some part →
        tensorParallelShard name full parallelSize rank layout = .ok part

/-! ## Sharding -/

section Shards

variable {α : Type} [Inhabited α] {dim : Nat} {shape : List Nat} {parallelSize : Nat}

theorem chunkOf_eq_ok {tensor : NdTensor α} (fits : NdTensor.Fits dim shape tensor)
    (divides : parallelSize ∣ tensor.size dim) {rank : Nat} (isRank : rank < parallelSize) :
    chunkOf tensor parallelSize rank dim = .ok (.ofRows dim shape
      ((sectionBlocks parallelSize (tensor.rows dim)).getD rank [])) := by
  have positive : 0 < parallelSize := Nat.lt_of_le_of_lt (Nat.zero_le _) isRank
  have isSize := (Nat.mul_div_cancel' divides).symm
  have isBlock : rank < (sectionBlocks parallelSize (tensor.rows dim)).length := by
    rw [sectionBlocks, length_takePieces, List.length_replicate]
    exact isRank
  rw [chunkOf, NdTensor.chunk_eq_ok fits positive isSize, ok_bind, itemAt_eq_ok,
    List.getElem?_map, ← NdTensor.length_rows, ← sectionBlocks, List.getElem?_eq_getElem isBlock,
    List.getD_eq_getElem _ _ isBlock]
  rfl

theorem chunkOf_ofRows (bound : dim < shape.length) {piece : List (Row α)}
    (areRows : ∀ row ∈ piece, NdTensor.IsRow dim shape row) (divides : parallelSize ∣ piece.length)
    {rank : Nat} (isRank : rank < parallelSize) :
    chunkOf (.ofRows dim shape piece) parallelSize rank dim =
      .ok (.ofRows dim shape ((sectionBlocks parallelSize piece).getD rank [])) := by
  have fits := NdTensor.ofRows_fits bound piece
  have size := NdTensor.size_ofRows bound piece
  rw [chunkOf_eq_ok fits (size ▸ divides) isRank, NdTensor.rows_ofRows bound areRows]

omit [Inhabited α] in
theorem mem_of_mem_getD {values : List (List α)} {position : Nat} {value : α}
    (member : value ∈ values.getD position []) : ∃ list ∈ values, value ∈ list := by
  rw [List.getD_eq_getElem?_getD] at member
  cases isList : values[position]? with
  | none =>
      rw [isList] at member
      cases member
  | some list =>
      rw [isList] at member
      exact ⟨list, List.mem_of_getElem? isList, member⟩

theorem isRow_block {rows : List (Row α)} (areRows : ∀ row ∈ rows, NdTensor.IsRow dim shape row)
    {sections : List Nat} {piece : List (Row α)} (isPiece : piece ∈ takePieces sections rows)
    (rank : Nat) :
    ∀ row ∈ (sectionBlocks parallelSize piece).getD rank [], NdTensor.IsRow dim shape row := by
  intro row member
  rcases mem_of_mem_getD member with ⟨block, isBlock, inBlock⟩
  exact areRows row (mem_of_mem_takePieces isPiece (mem_of_mem_takePieces isBlock inBlock))

theorem cat_blocks (bound : dim < shape.length) {rows : List (Row α)}
    (areRows : ∀ row ∈ rows, NdTensor.IsRow dim shape row) {sections : List Nat}
    (nonempty : sections ≠ []) (parallelSize rank : Nat) :
    NdTensor.cat ((takePieces sections rows).map fun piece =>
        .ofRows dim shape ((sectionBlocks parallelSize piece).getD rank [])) dim =
      .ok (.ofRows dim shape (shardRows sections parallelSize rank rows)) := by
  have pieces : takePieces sections rows ≠ [] := by
    intro isNil
    have length := length_takePieces sections rows
    rw [isNil] at length
    exact nonempty (List.eq_nil_of_length_eq_zero length.symm)
  have blocks : (takePieces sections rows).map (fun piece =>
      (sectionBlocks parallelSize piece).getD rank []) ≠ [] :=
    fun isNil => pieces (List.map_eq_nil_iff.mp isNil)
  have areBlocks : ∀ block ∈ (takePieces sections rows).map (fun piece =>
      (sectionBlocks parallelSize piece).getD rank []),
        ∀ row ∈ block, NdTensor.IsRow dim shape row := by
    intro block member
    rw [List.mem_map] at member
    rcases member with ⟨piece, isPiece, rfl⟩
    exact isRow_block areRows isPiece rank
  have joined := NdTensor.cat_ofRows bound blocks areBlocks
  rw [List.map_map] at joined
  rw [shardRows, List.flatMap_def]
  exact joined

variable {name : String} {layout : PartitionLayout} {tensor : NdTensor α}

theorem shard_sections (fits : NdTensor.Fits layout.partitionDim shape tensor)
    {sections : List Nat} (isSections : layout.partitionSections = some sections)
    (nonempty : sections ≠ []) (sum : sections.sum = tensor.size layout.partitionDim)
    (divides : ∀ size ∈ sections, parallelSize ∣ size) (stride : layout.partitionStride = 1)
    (several : parallelSize ≠ 1) {rank : Nat} (isRank : rank < parallelSize) :
    tensorParallelShard name tensor parallelSize rank layout =
      .ok (.ofRows layout.partitionDim shape (shardRows sections parallelSize rank
        (tensor.rows layout.partitionDim))) := by
  have accepted : ¬ (layout.partitionStride ≠ 1 ∨
      ∃ size ∈ sections, size % parallelSize ≠ 0) := by
    intro rejected
    rcases rejected with strided | ⟨size, member, remains⟩
    · exact strided stride
    · exact remains (Nat.mod_eq_zero_of_dvd (divides size member))
  have lengths : (takePieces sections (tensor.rows layout.partitionDim)).map List.length =
      sections := map_length_takePieces sections (by rw [NdTensor.length_rows, sum])
  have blocks : ((takePieces sections (tensor.rows layout.partitionDim)).map
      (NdTensor.ofRows layout.partitionDim shape)).mapM (fun piece =>
        chunkOf piece parallelSize rank layout.partitionDim) =
      .ok ((takePieces sections (tensor.rows layout.partitionDim)).map fun piece =>
        .ofRows layout.partitionDim shape
          ((sectionBlocks parallelSize piece).getD rank [])) := by
    apply mapM_map_eq_ok
    intro piece isPiece
    have inSections : piece.length ∈ sections := lengths ▸ List.mem_map_of_mem isPiece
    exact chunkOf_ofRows fits.bound
      (fun row member => fits.isRow row (mem_of_mem_takePieces isPiece member))
      (divides _ inSections) isRank
  rw [tensorParallelShard, if_neg several, isSections]
  dsimp only
  rw [raiseIf_eq_ok.mpr accepted, ok_bind, NdTensor.split_eq_ok fits sum, ok_bind, blocks,
    ok_bind, cat_blocks fits.bound fits.isRow nonempty]

theorem shard_glu (fits : NdTensor.Fits layout.partitionDim shape tensor)
    (noSections : layout.partitionSections = none) (isGlu : isLinearFc1 name = true) {half : Nat}
    (isSize : tensor.size layout.partitionDim = 2 * half) (divides : parallelSize ∣ half)
    (several : parallelSize ≠ 1) {rank : Nat} (isRank : rank < parallelSize) :
    tensorParallelShard name tensor parallelSize rank layout =
      .ok (.ofRows layout.partitionDim shape (shardRows [half, half] parallelSize rank
        (tensor.rows layout.partitionDim))) := by
  have block (piece : List (Row α))
      (isPiece : piece ∈ takePieces [half, half] (tensor.rows layout.partitionDim)) :
      chunkOf (.ofRows layout.partitionDim shape piece) parallelSize rank layout.partitionDim =
        .ok (.ofRows layout.partitionDim shape
          ((sectionBlocks parallelSize piece).getD rank [])) := by
    have lengths : (takePieces [half, half] (tensor.rows layout.partitionDim)).map List.length =
        [half, half] := by
      apply map_length_takePieces
      rw [NdTensor.length_rows, isSize]
      simp [Nat.two_mul]
    have inHalves : piece.length ∈ [half, half] := lengths ▸ List.mem_map_of_mem isPiece
    have isHalf : piece.length = half := by simpa using inHalves
    exact chunkOf_ofRows fits.bound
      (fun row member => fits.isRow row (mem_of_mem_takePieces isPiece member))
      (isHalf ▸ divides) isRank
  have joined := cat_blocks fits.bound fits.isRow (List.cons_ne_nil half [half]) parallelSize rank
  rw [tensorParallelShard, if_neg several, noSections]
  dsimp only
  rw [if_pos isGlu, NdTensor.chunk_eq_ok fits Nat.two_pos isSize, ok_bind]
  simp only [List.replicate, takePieces, List.map_cons, List.map_nil, unpackTwo, ok_bind,
    List.mem_cons, List.not_mem_nil, or_false] at block joined ⊢
  rw [block _ (.inl rfl), ok_bind, block _ (.inr rfl), ok_bind, joined]

theorem shard_plain (fits : NdTensor.Fits (layout.dim name) shape tensor)
    (noSections : layout.partitionSections = none) (noGlu : isLinearFc1 name = false)
    (divides : parallelSize ∣ tensor.size (layout.dim name)) (stride : layout.partitionStride = 1)
    (several : parallelSize ≠ 1) {rank : Nat} (isRank : rank < parallelSize) :
    tensorParallelShard name tensor parallelSize rank layout =
      .ok (.ofRows (layout.dim name) shape (shardRows [tensor.size (layout.dim name)]
        parallelSize rank (tensor.rows (layout.dim name)))) := by
  have positive : 0 < parallelSize := Nat.lt_of_le_of_lt (Nat.zero_le _) isRank
  have isDim : layout.dim name =
      if isLinearFc2 name ∧ layout.partitionDim = 0 then 1 else layout.partitionDim := by
    rw [PartitionLayout.dim, noSections]
    dsimp only
    rw [if_neg (ne_true_of_eq_false noGlu)]
  have isSize := (Nat.mul_div_cancel' divides).symm
  have whole : takePieces [tensor.size (layout.dim name)] (tensor.rows (layout.dim name)) =
      [tensor.rows (layout.dim name)] := by
    rw [takePieces, takePieces, ← NdTensor.length_rows, List.take_length]
  have joined := cat_blocks fits.bound fits.isRow
    (List.cons_ne_nil (tensor.size (layout.dim name)) []) parallelSize rank
  rw [whole] at joined
  have chunks := NdTensor.chunk_eq_ok fits positive isSize
  have isChunk : ((takePieces (List.replicate parallelSize
      (tensor.size (layout.dim name) / parallelSize)) (tensor.rows (layout.dim name))).map
        (NdTensor.ofRows (layout.dim name) shape))[rank]? =
      some (.ofRows (layout.dim name) shape
        ((sectionBlocks parallelSize (tensor.rows (layout.dim name))).getD rank [])) := by
    have found := chunkOf_eq_ok fits divides isRank
    rw [chunkOf, chunks, ok_bind, itemAt_eq_ok] at found
    exact found
  have length : ((takePieces (List.replicate parallelSize
      (tensor.size (layout.dim name) / parallelSize)) (tensor.rows (layout.dim name))).map
        (NdTensor.ofRows (layout.dim name) shape)).length = parallelSize := by
    rw [List.length_map, length_takePieces, List.length_replicate]
  rw [tensorParallelShard, if_neg several, noSections]
  dsimp only
  rw [if_neg (ne_true_of_eq_false noGlu), ← isDim, stride, Nat.mul_one, chunks, ok_bind,
    everyFrom_eq_singleton length isChunk]
  exact joined

end Shards

/-! ## Merging -/

section Merged

variable {α : Type} [Inhabited α] {dim : Nat} {shape : List Nat} {parts : List (NdTensor α)}

def columnOf (dim : Nat) (sizes : List Nat) (parts : List (NdTensor α)) (position : Nat) :
    List (List (Row α)) :=
  parts.map fun part => (takePieces sizes (part.rows dim)).getD position []

theorem isRow_column (fit : ∀ part ∈ parts, NdTensor.Fits dim shape part) {sizes : List Nat}
    {position : Nat} {piece : List (Row α)} (isPiece : piece ∈ columnOf dim sizes parts position) :
    ∀ row ∈ piece, NdTensor.IsRow dim shape row := by
  intro row member
  rw [columnOf, List.mem_map] at isPiece
  rcases isPiece with ⟨part, inParts, rfl⟩
  rcases mem_of_mem_getD member with ⟨block, isBlock, inBlock⟩
  exact (fit part inParts).isRow row (mem_of_mem_takePieces isBlock inBlock)

theorem cat_columns (bound : dim < shape.length)
    (fit : ∀ part ∈ parts, NdTensor.Fits dim shape part) (nonempty : parts ≠ [])
    {sizes : List Nat} (sections : sizes ≠ []) :
    NdTensor.cat ((List.range sizes.length).flatMap fun position =>
        (columnOf dim sizes parts position).map (NdTensor.ofRows dim shape)) dim =
      .ok (.ofRows dim shape (mergeRows sizes (parts.map fun part => part.rows dim))) := by
  have isMerge : mergeRows sizes (parts.map fun part => part.rows dim) =
      ((List.range sizes.length).flatMap (columnOf dim sizes parts)).flatten := by
    rw [mergeRows, List.flatMap_def, List.flatMap_def, List.flatten_flatten, List.map_map]
    congr 1
    apply List.map_congr_left
    intro position _
    rw [Function.comp_apply, columnOf, List.flatMap_map, List.flatMap_def]
  have isMap : (List.range sizes.length).flatMap (fun position =>
      (columnOf dim sizes parts position).map (NdTensor.ofRows dim shape)) =
      ((List.range sizes.length).flatMap (columnOf dim sizes parts)).map
        (NdTensor.ofRows dim shape) :=
    List.map_flatMap.symm
  rw [isMap, isMerge]
  apply NdTensor.cat_ofRows bound
  · intro isNil
    rw [List.flatMap_eq_nil_iff] at isNil
    have first := isNil 0 (List.mem_range.mpr (List.length_pos_iff.mpr sections))
    exact nonempty (List.map_eq_nil_iff.mp first)
  · intro piece member
    rw [List.mem_flatMap] at member
    rcases member with ⟨position, _, isPiece⟩
    exact isRow_column fit isPiece

variable {name : String} {layout : PartitionLayout}

theorem takePieces_columns (sizes : List Nat) (part : NdTensor α) :
    (takePieces sizes (part.rows dim)).map (NdTensor.ofRows dim shape) =
      (List.range sizes.length).map fun position =>
        .ofRows dim shape ((takePieces sizes (part.rows dim)).getD position []) := by
  have all := map_getD_range_of (length_takePieces sizes (part.rows dim))
  rw [← all, List.map_map, all]
  rfl

theorem merge_sections (fit : ∀ part ∈ parts, NdTensor.Fits layout.partitionDim shape part)
    (nonempty : parts ≠ []) {sections : List Nat}
    (isSections : layout.partitionSections = some sections) (someSection : sections ≠ [])
    (divides : ∀ size ∈ sections, parts.length ∣ size)
    (lengths : ∀ part ∈ parts, part.size layout.partitionDim =
      (sections.map fun size => size / parts.length).sum) :
    mergeParamPartitions name parts layout.partitionDim layout.partitionSections =
      .ok (.ofRows layout.partitionDim shape (mergeRows
        (sections.map fun size => size / parts.length)
        (parts.map fun part => part.rows layout.partitionDim))) := by
  have accepted : ¬ ∃ size ∈ sections, size % parts.length ≠ 0 := by
    intro rejected
    rcases rejected with ⟨size, member, remains⟩
    exact remains (Nat.mod_eq_zero_of_dvd (divides size member))
  generalize isSizes : sections.map (fun size => size / parts.length) = sizes at lengths
  have someSize : sizes ≠ [] := by
    rw [← isSizes]
    exact fun isNil => someSection (List.map_eq_nil_iff.mp isNil)
  have splits : parts.mapM (fun part => part.split sizes layout.partitionDim) =
      .ok (parts.map fun part => (List.range sizes.length).map fun position =>
        .ofRows layout.partitionDim shape
          ((takePieces sizes (part.rows layout.partitionDim)).getD position [])) := by
    apply mapM_eq_ok_map
    intro part member
    rw [NdTensor.split_eq_ok (fit part member) (lengths part member).symm, takePieces_columns]
  rcases List.exists_mem_of_ne_nil parts nonempty with ⟨first, isFirst⟩
  have bound := (fit first isFirst).bound
  have joined := cat_columns bound fit nonempty someSize
  rw [mergeParamPartitions.eq_def, isSections]
  dsimp only
  rw [raiseIf_eq_ok.mpr accepted, ok_bind, isSizes, splits, ok_bind,
    zipStrict_map _ _ nonempty, ok_bind, ← List.flatMap_def, ← joined]
  simp only [columnOf, List.map_map, Function.comp_def]

theorem merge_glu (fit : ∀ part ∈ parts, NdTensor.Fits 0 shape part)
    (nonempty : parts ≠ []) (isGlu : isLinearFc1 name = true) (noRow : isLinearFc2 name = false)
    {half : Nat} (lengths : ∀ part ∈ parts, part.size 0 = 2 * half) :
    mergeParamPartitions name parts 0 none =
      .ok (.ofRows 0 shape (mergeRows [half, half] (parts.map fun part => part.rows 0))) := by
  have pieces (part : NdTensor α) : takePieces (List.replicate 2 half) (part.rows 0) =
      takePieces [half, half] (part.rows 0) := rfl
  have chunks : parts.mapM (fun part => part.chunk 2 0) =
      .ok (parts.map fun part =>
        (takePieces [half, half] (part.rows 0)).map (NdTensor.ofRows 0 shape)) := by
    apply mapM_eq_ok_map
    intro part member
    rw [NdTensor.chunk_eq_ok (fit part member) Nat.two_pos (lengths part member), pieces]
  have item (position : Nat) (inside : position < 2) :
      (parts.map fun part => (takePieces [half, half] (part.rows 0)).map
        (NdTensor.ofRows 0 shape)).mapM (fun part => itemAt part position) =
      .ok ((columnOf 0 [half, half] parts position).map (NdTensor.ofRows 0 shape)) := by
    rw [columnOf, List.map_map]
    apply mapM_map_eq_ok
    intro part _
    have isPiece : position < (takePieces [half, half] (part.rows 0)).length := by
      rw [length_takePieces]
      exact inside
    rw [itemAt_eq_ok, List.getElem?_map, List.getElem?_eq_getElem isPiece,
      Function.comp_apply, List.getD_eq_getElem _ _ isPiece]
    rfl
  rcases List.exists_mem_of_ne_nil parts nonempty with ⟨first, isFirst⟩
  have joined := cat_columns (fit first isFirst).bound fit nonempty
    (List.cons_ne_nil half [half])
  have regrouped : regroupGlu parts =
      .ok ((List.range [half, half].length).flatMap fun position =>
        (columnOf 0 [half, half] parts position).map (NdTensor.ofRows 0 shape)) := by
    rw [regroupGlu, chunks, ok_bind, item 0 (by decide), ok_bind, item 1 (by decide), ok_bind]
    simp [List.range_succ]
  have zero : (if isLinearFc2 name ∧ 0 = 0 then 1 else 0) = 0 :=
    if_neg (fun isRow => ne_true_of_eq_false noRow isRow.1)
  rw [mergeParamPartitions, if_pos isGlu, regrouped, ok_bind, zero]
  exact joined

theorem merge_plain (fit : ∀ part ∈ parts, NdTensor.Fits (layout.dim name) shape part)
    (nonempty : parts ≠ []) (noSections : layout.partitionSections = none)
    (noGlu : isLinearFc1 name = false) {size : Nat}
    (lengths : ∀ part ∈ parts, part.size (layout.dim name) = size) :
    mergeParamPartitions name parts layout.partitionDim layout.partitionSections =
      .ok (.ofRows (layout.dim name) shape
        (mergeRows [size] (parts.map fun part => part.rows (layout.dim name)))) := by
  have isDim : layout.dim name =
      if isLinearFc2 name ∧ layout.partitionDim = 0 then 1 else layout.partitionDim := by
    rw [PartitionLayout.dim, noSections]
    dsimp only
    rw [if_neg (ne_true_of_eq_false noGlu)]
  have merged : mergeRows [size] (parts.map fun part => part.rows (layout.dim name)) =
      parts.flatMap fun part => part.rows (layout.dim name) := by
    have range : List.range [size].length = [0] := rfl
    rw [mergeRows, range, List.flatMap_singleton, List.flatMap_map]
    apply List.flatMap_congr
    intro part member
    have whole : (part.rows (layout.dim name)).take size = part.rows (layout.dim name) := by
      rw [← lengths part member, ← NdTensor.length_rows, List.take_length]
    rw [takePieces, whole]
    rfl
  rw [mergeParamPartitions.eq_def, noSections]
  dsimp only
  rw [if_neg (ne_true_of_eq_false noGlu), pure_eq_ok, ok_bind, ← isDim,
    NdTensor.cat_eq_ok nonempty fit, merged]

end Merged

/-! ## Both directions -/

section Inverse

variable {α : Type} [Inhabited α] {name : String} {layout : PartitionLayout} {shape : List Nat}
variable {parallelSize : Nat}

theorem PartitionLayout.Divides.sections_sum (divided : layout.Divides name parallelSize shape)
    (supported : layout.Supported name parallelSize) :
    layout.sections name shape ≠ [] ∧
      (layout.sections name shape).sum =
        shape.getD (layout.dim name) 0 ∧
      ∀ size ∈ layout.sections name shape, parallelSize ∣ size := by
  rw [PartitionLayout.sections, PartitionLayout.dim]
  cases isSections : layout.partitionSections with
  | some sections =>
      have facts := divided.sections sections isSections
      exact ⟨(supported.sections sections isSections).1, facts.1, facts.2⟩
  | none =>
      dsimp only
      split
      · rename_i isGlu
        rcases divided.halves isSections isGlu with ⟨block, isSize⟩
        rw [isSize, Nat.mul_assoc, Nat.mul_div_cancel_left _ Nat.two_pos]
        refine ⟨List.cons_ne_nil _ _, ?_, ?_⟩
        · simp [Nat.two_mul]
        · intro size member
          have same : size = parallelSize * block := by simpa using member
          exact ⟨block, same⟩
      · rename_i noGlu
        have noGlu := Bool.not_eq_true _ ▸ noGlu
        have whole := divided.whole isSections noGlu
        rw [PartitionLayout.dim, isSections] at whole
        dsimp only at whole
        rw [if_neg (ne_true_of_eq_false noGlu)] at whole
        refine ⟨List.cons_ne_nil _ _, List.sum_singleton, ?_⟩
        intro size member
        rw [List.mem_singleton.mp member]
        exact whole

/-- A rank's shard takes its block of every section. -/
theorem shard_eq_ok (divided : layout.Divides name parallelSize shape)
    (supported : layout.Supported name parallelSize) {tensor : NdTensor α}
    (fits : NdTensor.Fits (layout.dim name) shape tensor)
    (isSize : tensor.size (layout.dim name) = shape.getD (layout.dim name) 0) {rank : Nat}
    (isRank : rank < parallelSize) :
    tensorParallelShard name tensor parallelSize rank layout =
      .ok (.ofRows (layout.dim name) shape
        (shardRows (layout.sections name shape) parallelSize rank
          (tensor.rows (layout.dim name)))) := by
  rcases divided.sections_sum supported with ⟨nonempty, sum, divides⟩
  by_cases single : parallelSize = 1
  · subst single
    rw [Nat.lt_one_iff] at isRank
    rw [tensorParallelShard, if_pos rfl, isRank,
      shardRows_one (by rw [NdTensor.length_rows, isSize, sum]), NdTensor.ofRows_rows fits]
  · cases isSections : layout.partitionSections with
    | some sections =>
        have isDim : layout.dim name = layout.partitionDim := by
          rw [PartitionLayout.dim, isSections]
        have are : layout.sections name shape = sections := by
          rw [PartitionLayout.sections, isSections]
        have stride := (supported.sections sections isSections).2.resolve_right single
        rw [are] at nonempty sum divides ⊢
        rw [isDim] at fits isSize sum ⊢
        exact shard_sections fits isSections nonempty (sum.trans isSize.symm) divides stride
          single isRank
    | none =>
        cases isGlu : isLinearFc1 name with
        | true =>
            have isDim : layout.dim name = layout.partitionDim := by
              rw [PartitionLayout.dim, isSections]
              exact if_pos isGlu
            have are : layout.sections name shape =
                [shape.getD (layout.dim name) 0 / 2, shape.getD (layout.dim name) 0 / 2] := by
              rw [PartitionLayout.sections, isSections]
              exact if_pos isGlu
            rw [are] at divides sum ⊢
            rw [isDim] at fits isSize sum divides ⊢
            have halves : tensor.size layout.partitionDim =
                2 * (shape.getD layout.partitionDim 0 / 2) := by
              rw [List.sum_cons, List.sum_singleton] at sum
              omega
            exact shard_glu fits isSections isGlu halves (divides _ List.mem_cons_self) single
              isRank
        | false =>
            have are : layout.sections name shape =
                [tensor.size (layout.dim name)] := by
              rw [PartitionLayout.sections, isSections, isSize]
              exact if_neg (ne_true_of_eq_false isGlu)
            have stride : layout.partitionStride = 1 := by
              rcases divided.stride with one | ⟨_, glu, _⟩
              · exact one
              · exact absurd glu (ne_true_of_eq_false isGlu)
            rw [are] at divides ⊢
            exact shard_plain fits isSections isGlu (divides _ (List.mem_singleton_self _)) stride
              single isRank

/-- Merging puts the blocks of each section side by side. -/
theorem merge_eq_ok (divided : layout.Divides name parallelSize shape)
    (supported : layout.Supported name parallelSize) {parts : List (NdTensor α)}
    (positive : 0 < parallelSize) (count : parts.length = parallelSize)
    (fit : ∀ part ∈ parts, NdTensor.Fits (layout.dim name) shape part)
    (lengths : ∀ part ∈ parts, part.size (layout.dim name) =
      ((layout.sections name shape).map
        fun size => size / parallelSize).sum) :
    mergeParamPartitions name parts layout.partitionDim layout.partitionSections =
      .ok (.ofRows (layout.dim name) shape
        (mergeRows ((layout.sections name shape).map
          fun size => size / parallelSize)
          (parts.map fun part => part.rows (layout.dim name)))) := by
  rcases divided.sections_sum supported with ⟨nonempty, sum, divides⟩
  have someParts : parts ≠ [] := List.length_pos_iff.mp (count ▸ positive)
  cases isSections : layout.partitionSections with
  | some sections =>
      have isDim : layout.dim name = layout.partitionDim := by
        rw [PartitionLayout.dim, isSections]
      have are : layout.sections name shape = sections := by
        rw [PartitionLayout.sections, isSections]
      rw [are] at nonempty divides lengths ⊢
      rw [isDim] at fit lengths ⊢
      subst count
      rw [← isSections]
      exact merge_sections fit someParts isSections nonempty divides lengths
  | none =>
      cases isGlu : isLinearFc1 name with
      | true =>
          rcases supported.glu isSections isGlu with ⟨isZero, noRow⟩
          have isDim : layout.dim name = 0 := by
            rw [PartitionLayout.dim, isSections]
            dsimp only
            rw [if_pos isGlu, isZero]
          have are : layout.sections name shape =
              [shape.getD (layout.dim name) 0 / 2, shape.getD (layout.dim name) 0 / 2] := by
            rw [PartitionLayout.sections, isSections]
            exact if_pos isGlu
          rw [are] at lengths ⊢
          rw [isDim] at fit lengths ⊢
          rw [isZero]
          apply merge_glu fit someParts isGlu noRow
          intro part member
          rw [lengths part member]
          simp [Nat.two_mul]
      | false =>
          have are : layout.sections name shape =
              [shape.getD (layout.dim name) 0] := by
            rw [PartitionLayout.sections, isSections]
            exact if_neg (ne_true_of_eq_false isGlu)
          rw [are] at lengths ⊢
          rw [← isSections]
          apply merge_plain fit someParts isSections isGlu
          intro part member
          rw [lengths part member]
          exact List.sum_singleton

theorem sum_map_div_of_dvd : ∀ {sizes : List Nat}, 0 < parallelSize →
    (∀ size ∈ sizes, parallelSize ∣ size) →
      (sizes.map fun size => size / parallelSize).sum = sizes.sum / parallelSize
  | [], _, _ => (Nat.zero_div _).symm
  | size :: sizes, positive, divides => by
      rw [List.forall_mem_cons] at divides
      rcases divides.1 with ⟨block, rfl⟩
      rw [List.map_cons, List.sum_cons, List.sum_cons, sum_map_div_of_dvd positive divides.2,
        Nat.mul_add_div positive, Nat.mul_div_cancel_left _ positive]

theorem isRow_shardRows {dim : Nat} {rows : List (Row α)}
    (areRows : ∀ row ∈ rows, NdTensor.IsRow dim shape row) (sections : List Nat) (rank : Nat) :
    ∀ row ∈ shardRows sections parallelSize rank rows, NdTensor.IsRow dim shape row := by
  intro row member
  rw [shardRows, List.mem_flatMap] at member
  rcases member with ⟨piece, isPiece, inBlock⟩
  exact isRow_block areRows isPiece rank row inBlock

/-- Merging the shards of a tensor gives it back. -/
theorem merge_shards (positive : 0 < parallelSize)
    (divided : layout.Divides name parallelSize shape)
    (supported : layout.Supported name parallelSize) {full : NdTensor α}
    (isShape : full.shape = shape) :
    ∃ parts, (List.range parallelSize).mapM (fun rank =>
        tensorParallelShard name full parallelSize rank layout) = .ok parts ∧
      mergeParamPartitions name parts layout.partitionDim layout.partitionSections =
        .ok full := by
  rcases divided.sections_sum supported with ⟨nonempty, sum, divides⟩
  have bound := divided.bound
  have fits : NdTensor.Fits (layout.dim name) shape full := ⟨bound, by rw [isShape]⟩
  have isSize : full.size (layout.dim name) = shape.getD (layout.dim name) 0 := by
    rw [NdTensor.size, isShape]
  have isSum : (layout.sections name shape).sum = (full.rows (layout.dim name)).length := by
    rw [NdTensor.length_rows, isSize, sum]
  refine ⟨(List.range parallelSize).map fun rank => .ofRows (layout.dim name) shape
    (shardRows (layout.sections name shape) parallelSize rank (full.rows (layout.dim name))),
    ?_, ?_⟩
  · apply mapM_eq_ok_map
    intro rank member
    exact shard_eq_ok divided supported fits isSize (List.mem_range.mp member)
  · rw [merge_eq_ok divided supported positive (by rw [List.length_map, List.length_range])]
    · rw [List.map_map]
      have parts : (List.range parallelSize).map ((fun part : NdTensor α =>
          part.rows (layout.dim name)) ∘ fun rank => .ofRows (layout.dim name) shape
            (shardRows (layout.sections name shape) parallelSize rank
              (full.rows (layout.dim name)))) =
          (List.range parallelSize).map fun rank =>
            shardRows (layout.sections name shape) parallelSize rank
              (full.rows (layout.dim name)) := by
        apply List.map_congr_left
        intro rank _
        exact NdTensor.rows_ofRows bound (isRow_shardRows fits.isRow _ rank)
      rw [parts, mergeRows_shardRows isSum divides, NdTensor.ofRows_rows fits]
    · intro part member
      rw [List.mem_map] at member
      rcases member with ⟨rank, _, rfl⟩
      exact NdTensor.ofRows_fits bound _
    · intro part member
      rw [List.mem_map] at member
      rcases member with ⟨rank, isRank, rfl⟩
      rw [NdTensor.size_ofRows bound, length_shardRows isSum divides (List.mem_range.mp isRank)]

/-- Sharding the merged tensor gives the local ones back. -/
theorem shard_merged (positive : 0 < parallelSize)
    (divided : layout.Divides name parallelSize shape)
    (supported : layout.Supported name parallelSize) {parts : List (NdTensor α)}
    (count : parts.length = parallelSize)
    (shapes : ∀ part ∈ parts, part.shape = shape.set (layout.dim name)
      (shape.getD (layout.dim name) 0 / parallelSize)) :
    ∃ full, mergeParamPartitions name parts layout.partitionDim layout.partitionSections =
        .ok full ∧
      ∀ rank part, parts[rank]? = some part →
        tensorParallelShard name full parallelSize rank layout = .ok part := by
  rcases divided.sections_sum supported with ⟨nonempty, sum, divides⟩
  have bound := divided.bound
  have fit : ∀ part ∈ parts, NdTensor.Fits (layout.dim name) shape part := by
    intro part member
    refine ⟨bound, ?_⟩
    rw [shapes part member, List.set_set]
  have sizes : ∀ part ∈ parts, part.size (layout.dim name) =
      ((layout.sections name shape).map fun size => size / parallelSize).sum := by
    intro part member
    rw [sum_map_div_of_dvd positive divides, sum, NdTensor.size, shapes part member, getD_set_self bound]
  have lengths : ∀ rows ∈ parts.map fun part => part.rows (layout.dim name),
      rows.length = ((layout.sections name shape).map fun size => size / parallelSize).sum := by
    intro rows member
    rw [List.mem_map] at member
    rcases member with ⟨part, inParts, rfl⟩
    rw [NdTensor.length_rows, sizes part inParts]
  have rowsCount : (parts.map fun part => part.rows (layout.dim name)).length =
      parallelSize := by
    rw [List.length_map, count]
  have areRows : ∀ row ∈ mergeRows
      ((layout.sections name shape).map fun size => size / parallelSize)
      (parts.map fun part => part.rows (layout.dim name)),
      NdTensor.IsRow (layout.dim name) shape row := by
    intro row member
    rw [mergeRows, List.mem_flatMap] at member
    rcases member with ⟨position, _, inColumn⟩
    rw [List.flatMap_map, List.mem_flatMap] at inColumn
    rcases inColumn with ⟨part, inParts, inPiece⟩
    exact isRow_column fit (List.mem_map_of_mem inParts) row inPiece
  have mergedLength := length_mergeRows rowsCount divides lengths
  refine ⟨_, merge_eq_ok divided supported positive count fit sizes, ?_⟩
  intro rank part isPart
  have isRank : rank < parallelSize := count ▸ (List.getElem?_eq_some_iff.mp isPart).1
  have isRows : (parts.map fun part => part.rows (layout.dim name))[rank]? =
      some (part.rows (layout.dim name)) := by
    rw [List.getElem?_map, isPart]
    rfl
  rw [shard_eq_ok divided supported (NdTensor.ofRows_fits bound _)
      (by rw [NdTensor.size_ofRows bound, mergedLength, sum]) isRank,
    NdTensor.rows_ofRows bound areRows, shardRows_mergeRows rowsCount divides lengths isRows,
    NdTensor.ofRows_rows (fit part (List.mem_of_getElem? isPart))]

end Inverse

/-- Sharding and merging are inverse for the supported layouts whose sizes are divisible. -/
theorem sharding_inverse (α : Type) [Inhabited α] (name : String) (layout : PartitionLayout)
    (parallelSize : Nat) (shape : List Nat) (positive : 0 < parallelSize)
    (divided : layout.Divides name parallelSize shape)
    (supported : layout.Supported name parallelSize) :
    ShardingInverse α name layout parallelSize shape where
  merged := fun _ isShape => merge_shards positive divided supported isShape
  sharded := fun _ count shapes => shard_merged positive divided supported count shapes

/-! ## Concrete layouts -/

def groupedFc2 : PartitionLayout where
  partitionDim := 0
  partitionStride := 1
  partitionSections := none

theorem sharding_inverse_groupedFc2 :
    ShardingInverse Int "mlp.experts.linear_fc2.weight0" groupedFc2 2 [3, 4] :=
  sharding_inverse Int _ groupedFc2 2 [3, 4] (by decide)
    { bound := by decide
      stride := .inl rfl
      sections := nofun
      halves := fun _ isGlu => absurd isGlu (by decide)
      whole := fun _ _ => by decide }
    { sections := nofun
      glu := fun _ isGlu => absurd isGlu (by decide) }

/-- A `linear_fc1` partitioned along its second dimension. -/
def columnsOfFc1 : PartitionLayout where
  partitionDim := 1
  partitionStride := 1
  partitionSections := none

def zeroTensor : NdTensor Int where
  shape := [2, 4]
  entry := fun _ => 0
  outside := fun _ _ => rfl

/-- The exporter halves the first dimension of a `linear_fc1`, whatever its partition dimension;
the merged tensor has another shape. -/
theorem columnsOfFc1_notInverse :
    columnsOfFc1.Divides "linear_fc1.weight" 2 [2, 4] ∧
      ¬ ShardingInverse Int "linear_fc1.weight" columnsOfFc1 2 [2, 4] := by
  constructor
  · exact
      { bound := by decide
        stride := .inl rfl
        sections := nofun
        halves := fun _ _ => by decide
        whole := fun _ noGlu => absurd noGlu (by decide) }
  · intro inverse
    rcases inverse.merged zeroTensor rfl with ⟨parts, sharded, merged⟩
    have isShape : (do
        let parts ← (List.range 2).mapM fun rank =>
          tensorParallelShard "linear_fc1.weight" zeroTensor 2 rank columnsOfFc1
        let full ← mergeParamPartitions "linear_fc1.weight" parts 1 none
        pure full.shape) = .ok [1, 8] := by rfl
    have isMerged : mergeParamPartitions "linear_fc1.weight" parts 1 none = .ok zeroTensor := merged
    rw [sharded, ok_bind, isMerged] at isShape
    cases isShape

end Vime.Backends.MegatronUtils
