import Mathlib.Data.List.GetD
import Vime.Foundation.Tensor

/-! # Tensors of any rank

A tensor is its shape with an entry at every index. Along one dimension it is a list of rows:
splitting and concatenating along the dimension split and append the rows.
-/

namespace Vime.Foundation

def inside : List Nat → List Nat → Bool
  | [], [] => true
  | position :: index, size :: shape => decide (position < size) && inside index shape
  | _, _ => false

/-- Indices outside of the shape have the default entry, so that equal tensors are equal. -/
@[ext] structure NdTensor (α : Type) [Inhabited α] where
  shape : List Nat
  entry : List Nat → α
  outside : ∀ index, inside index shape = false → entry index = default

abbrev Row (α : Type) : Type := List Nat → α

section Inside

theorem inside_set {dim : Nat} {shape : List Nat} (bound : dim < shape.length) (size : Nat)
    (index : List Nat) :
    inside index (shape.set dim size) =
      (decide (index.getD dim 0 < size) && inside (index.set dim 0) (shape.set dim 1)) := by
  induction shape generalizing dim index with
  | nil => cases bound
  | cons first rest induction =>
      cases index with
      | nil =>
          cases dim with
          | zero => simp [inside]
          | succ dim => simp [inside]
      | cons position index =>
          cases dim with
          | zero => simp [inside]
          | succ dim =>
              have later := induction (Nat.lt_of_succ_lt_succ bound) index
              simp only [List.set_cons_succ, inside, later, List.getD_cons_succ]
              rw [Bool.and_left_comm]

theorem length_of_inside {index shape : List Nat} (isInside : inside index shape = true) :
    index.length = shape.length := by
  induction shape generalizing index with
  | nil =>
      cases index with
      | nil => rfl
      | cons position index => cases isInside
  | cons size shape induction =>
      cases index with
      | nil => cases isInside
      | cons position index =>
          rw [inside, Bool.and_eq_true] at isInside
          rw [List.length_cons, List.length_cons, induction isInside.2]

theorem getD_set_self {index : List Nat} {dim : Nat} (bound : dim < index.length)
    (position : Nat) : (index.set dim position).getD dim 0 = position := by
  simp [bound]

theorem inside_set_set {dim : Nat} {shape : List Nat} (bound : dim < shape.length)
    (size position : Nat) (index : List Nat) (small : position < size) :
    inside (index.set dim position) (shape.set dim size) =
      inside (index.set dim 0) (shape.set dim 1) := by
  rw [inside_set bound, List.set_set]
  cases isInside : inside (index.set dim 0) (shape.set dim 1) with
  | false => rw [Bool.and_false]
  | true =>
      have length := length_of_inside isInside
      rw [List.length_set, List.length_set] at length
      rw [getD_set_self (length ▸ bound), decide_eq_true small, Bool.and_true]

end Inside

namespace NdTensor

variable {α : Type} [Inhabited α]

def size (tensor : NdTensor α) (dim : Nat) : Nat := tensor.shape.getD dim 0

def row (tensor : NdTensor α) (dim position : Nat) : Row α :=
  fun index => tensor.entry (index.set dim position)

def rows (tensor : NdTensor α) (dim : Nat) : List (Row α) :=
  (List.range (tensor.size dim)).map (tensor.row dim)

def ofRows (dim : Nat) (shape : List Nat) (rows : List (Row α)) : NdTensor α where
  shape := shape.set dim rows.length
  entry := fun index =>
    if inside index (shape.set dim rows.length) then
      rows.getD (index.getD dim 0) (fun _ => default) index
    else default
  outside := fun _ isOutside => if_neg (ne_true_of_eq_false isOutside)

/-! ## Splitting and concatenating -/

def split (tensor : NdTensor α) (sizes : List Nat) (dim : Nat) :
    Except PyException (List (NdTensor α)) :=
  if dim < tensor.shape.length then do
    raiseIf (sizes.sum ≠ tensor.size dim) (.runtimeError
      s!"split_with_sizes expects split_sizes to sum exactly to {tensor.size dim}")
    pure ((takePieces sizes (tensor.rows dim)).map (ofRows dim tensor.shape))
  else .error .indexError

/-- The sizes of `chunk`: all equal but the last, which is smaller when they do not fit. There
can be fewer chunks than asked for. -/
def chunkSizes (length chunks : Nat) : List Nat :=
  let size := (length + chunks - 1) / chunks
  if size = 0 then List.replicate chunks 0
  else List.replicate (length / size) size ++
    if length % size = 0 then [] else [length % size]

def chunk (tensor : NdTensor α) (chunks dim : Nat) : Except PyException (List (NdTensor α)) := do
  raiseIf (chunks = 0) (.runtimeError "chunk expects `chunks` to be greater than 0, got: 0")
  tensor.split (chunkSizes (tensor.size dim) chunks) dim

def cat (tensors : List (NdTensor α)) (dim : Nat) : Except PyException (NdTensor α) :=
  match tensors with
  | [] => .error (.runtimeError "torch.cat(): expected a non-empty list of Tensors")
  | first :: _ =>
      if dim < first.shape.length then do
        raiseIf (∃ tensor ∈ tensors, tensor.shape.set dim 0 ≠ first.shape.set dim 0)
          (.runtimeError "Sizes of tensors must match except in the given dimension")
        pure (ofRows dim first.shape (tensors.flatMap fun tensor => tensor.rows dim))
      else .error .indexError

/-! ## Rows -/

structure IsRow (dim : Nat) (shape : List Nat) (row : Row α) : Prop where
  ignores : ∀ index position, row (index.set dim position) = row index
  outside : ∀ index, inside (index.set dim 0) (shape.set dim 1) = false → row index = default

/-- The tensor has the shape but for its size along the dimension. -/
structure Fits (dim : Nat) (shape : List Nat) (tensor : NdTensor α) : Prop where
  bound : dim < shape.length
  same : tensor.shape.set dim 0 = shape.set dim 0

section Rows

variable {dim : Nat} {shape : List Nat} {tensor : NdTensor α}

@[simp] theorem length_rows (tensor : NdTensor α) (dim : Nat) :
    (tensor.rows dim).length = tensor.size dim := by
  rw [rows, List.length_map, List.length_range]

theorem shape_set (fits : Fits dim shape tensor) (size : Nat) :
    tensor.shape.set dim size = shape.set dim size := by
  have same := congrArg (fun sizes => sizes.set dim size) fits.same
  simpa only [List.set_set] using same

theorem Fits.bound_self (fits : Fits dim shape tensor) : dim < tensor.shape.length := by
  have length := congrArg List.length fits.same
  rw [List.length_set, List.length_set] at length
  exact length ▸ fits.bound

theorem set_size (bound : dim < tensor.shape.length) :
    tensor.shape.set dim (tensor.size dim) = tensor.shape := by
  rw [size, List.getD_eq_getElem _ _ bound, List.set_getElem_self]

theorem Fits.shape_eq (fits : Fits dim shape tensor) :
    tensor.shape = shape.set dim (tensor.size dim) := by
  rw [← shape_set fits, set_size fits.bound_self]

theorem Fits.isRow (fits : Fits dim shape tensor) :
    ∀ row ∈ tensor.rows dim, IsRow dim shape row := by
  intro row member
  rw [rows, List.mem_map] at member
  rcases member with ⟨position, inRange, rfl⟩
  rw [List.mem_range] at inRange
  constructor
  · intro index other
    rw [NdTensor.row, List.set_set, NdTensor.row]
  · intro index isOutside
    apply tensor.outside
    rw [fits.shape_eq, inside_set_set fits.bound _ _ _ inRange]
    exact isOutside

theorem ofRows_fits (bound : dim < shape.length) (rows : List (Row α)) :
    Fits dim shape (ofRows dim shape rows) := by
  refine ⟨bound, ?_⟩
  rw [ofRows, List.set_set]

@[simp] theorem size_ofRows (bound : dim < shape.length) (rows : List (Row α)) :
    (ofRows dim shape rows).size dim = rows.length :=
  getD_set_self bound rows.length

theorem rows_ofRows (bound : dim < shape.length) {rows : List (Row α)}
    (areRows : ∀ row ∈ rows, IsRow dim shape row) : (ofRows dim shape rows).rows dim = rows := by
  apply List.ext_getElem
  · rw [length_rows, size_ofRows bound]
  · intro position inside₁ inside₂
    have isRow := areRows _ (List.getElem_mem inside₂)
    simp only [NdTensor.rows, List.getElem_map, List.getElem_range]
    funext index
    rw [row, ofRows]
    dsimp only
    rw [inside_set_set bound _ _ _ inside₂]
    split
    · rename_i isInside
      have length := length_of_inside isInside
      rw [List.length_set, List.length_set] at length
      rw [getD_set_self (length ▸ bound), List.getD_eq_getElem _ _ inside₂, isRow.ignores]
    · rename_i isOutside
      exact (isRow.outside index (Bool.eq_false_iff.mpr isOutside)).symm

theorem ofRows_rows (fits : Fits dim shape tensor) :
    ofRows dim shape (tensor.rows dim) = tensor := by
  have sameShape : (ofRows dim shape (tensor.rows dim)).shape = tensor.shape := by
    have isShape : (ofRows dim shape (tensor.rows dim)).shape =
        shape.set dim (tensor.rows dim).length := rfl
    rw [isShape, length_rows, ← fits.shape_eq]
  ext1
  · exact sameShape
  · funext index
    cases isInside : inside index tensor.shape with
    | false =>
        rw [tensor.outside index isInside, NdTensor.outside]
        rw [sameShape]
        exact isInside
    | true =>
        have small := isInside
        rw [fits.shape_eq, inside_set fits.bound, Bool.and_eq_true, decide_eq_true_eq] at small
        have bound : dim < index.length := length_of_inside isInside ▸ fits.bound_self
        have isRow : (tensor.rows dim).getD (index.getD dim 0) (fun _ => default) =
            tensor.row dim (index.getD dim 0) := by
          rw [List.getD_eq_getElem _ _ (by rw [length_rows]; exact small.1)]
          simp only [NdTensor.rows, List.getElem_map, List.getElem_range]
        rw [ofRows]
        dsimp only
        rw [length_rows, ← fits.shape_eq, if_pos isInside, isRow, row,
          List.getD_eq_getElem _ _ bound, List.set_getElem_self]

theorem ofRows_congr {other : List Nat} (same : other.set dim 0 = shape.set dim 0)
    (rows : List (Row α)) : ofRows dim other rows = ofRows dim shape rows := by
  have shapes : other.set dim rows.length = shape.set dim rows.length := by
    have set := congrArg (fun sizes => sizes.set dim rows.length) same
    simpa only [List.set_set] using set
  ext1
  · exact shapes
  · funext index
    rw [ofRows, ofRows]
    dsimp only
    rw [shapes]

/-! ## The operations on rows -/

theorem split_eq_ok (fits : Fits dim shape tensor) {sizes : List Nat}
    (sum : sizes.sum = tensor.size dim) :
    tensor.split sizes dim =
      .ok ((takePieces sizes (tensor.rows dim)).map (ofRows dim shape)) := by
  have equal : ¬ sizes.sum ≠ tensor.size dim := not_not_intro sum
  have congruent : ofRows (α := α) dim tensor.shape = ofRows dim shape :=
    funext (ofRows_congr fits.same)
  rw [split, if_pos fits.bound_self, raiseIf_eq_ok.mpr equal, congruent]
  rfl

theorem chunkSizes_eq {chunks size : Nat} (positive : 0 < chunks) :
    chunkSizes (chunks * size) chunks = List.replicate chunks size := by
  have isSize : (chunks * size + chunks - 1) / chunks = size := by
    rw [Nat.add_sub_assoc positive, Nat.mul_add_div positive,
      Nat.div_eq_of_lt (Nat.sub_lt positive Nat.one_pos), Nat.add_zero]
  rw [chunkSizes, isSize]
  split
  · rename_i isZero
    rw [isZero]
  · rename_i nonzero
    rw [Nat.mul_div_cancel _ (Nat.pos_of_ne_zero nonzero), if_pos (Nat.mul_mod_left _ _),
      List.append_nil]

theorem chunk_eq_ok (fits : Fits dim shape tensor) {chunks size : Nat} (positive : 0 < chunks)
    (isSize : tensor.size dim = chunks * size) :
    tensor.chunk chunks dim =
      .ok ((takePieces (List.replicate chunks size) (tensor.rows dim)).map (ofRows dim shape)) := by
  have nonzero : ¬ chunks = 0 := Nat.ne_of_gt positive
  have sum : (List.replicate chunks size).sum = tensor.size dim := by
    rw [List.sum_replicate_nat, isSize]
  rw [chunk, raiseIf_eq_ok.mpr nonzero, ok_bind, isSize, chunkSizes_eq positive,
    split_eq_ok fits sum]

theorem cat_eq_ok {tensors : List (NdTensor α)} (nonempty : tensors ≠ [])
    (fit : ∀ tensor ∈ tensors, Fits dim shape tensor) :
    cat tensors dim =
      .ok (ofRows dim shape (tensors.flatMap fun tensor => tensor.rows dim)) := by
  cases tensors with
  | nil => exact absurd rfl nonempty
  | cons first rest =>
      have firstFits := fit first List.mem_cons_self
      have all : ¬ ∃ tensor ∈ first :: rest,
          tensor.shape.set dim 0 ≠ first.shape.set dim 0 := by
        intro differs
        rcases differs with ⟨tensor, member, different⟩
        exact different ((fit tensor member).same.trans firstFits.same.symm)
      rw [cat, if_pos firstFits.bound_self, raiseIf_eq_ok.mpr all, ofRows_congr firstFits.same]
      rfl

theorem cat_ofRows (bound : dim < shape.length) {pieces : List (List (Row α))}
    (nonempty : pieces ≠ []) (areRows : ∀ piece ∈ pieces, ∀ row ∈ piece, IsRow dim shape row) :
    cat (pieces.map (ofRows dim shape)) dim = .ok (ofRows dim shape pieces.flatten) := by
  have joined : (pieces.map (ofRows dim shape)).flatMap (fun tensor => tensor.rows dim) =
      pieces.flatten := by
    rw [List.flatMap_map, ← List.flatMap_id]
    apply List.flatMap_congr
    intro piece member
    exact rows_ofRows bound (areRows piece member)
  rw [cat_eq_ok, joined]
  · exact fun isNil => nonempty (List.map_eq_nil_iff.mp isNil)
  · intro tensor member
    rw [List.mem_map] at member
    rcases member with ⟨piece, _, rfl⟩
    exact ofRows_fits bound piece

end Rows

end NdTensor

end Vime.Foundation
