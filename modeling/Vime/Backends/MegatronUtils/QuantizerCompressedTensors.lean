import Vime.Foundation.PackedWords
import Vime.Foundation.Python

/-! # Packed integer weights

`pack_to_int32` of
`vime/backends/megatron_utils/megatron_to_hf/processors/quantizer_compressed_tensors.py`, and
the reader of its words.
-/

namespace Vime.Backends.MegatronUtils.QuantizerCompressedTensors

open Vime.Foundation

/-! ## Matrices -/

/-- A tensor of two dimensions. -/
structure Tensor2 (α : Type) where
  rows : Nat
  cols : Nat
  entry : Fin rows → Fin cols → α

namespace Tensor2

variable {α β : Type}

def transpose (value : Tensor2 α) : Tensor2 α where
  rows := value.cols
  cols := value.rows
  entry := fun row col => value.entry col row

def map (read : α → β) (value : Tensor2 α) : Tensor2 β where
  rows := value.rows
  cols := value.cols
  entry := fun row col => read (value.entry row col)

def entryAt (value : Tensor2 Int) (row col : Nat) : Int :=
  if inside : row < value.rows ∧ col < value.cols then
    value.entry ⟨row, inside.1⟩ ⟨col, inside.2⟩ else 0

def pad (value : Tensor2 Int) (padLen : Nat) : Tensor2 Int where
  rows := value.rows
  cols := value.cols + padLen
  entry := fun row col => value.entryAt row col

/-- `value[:rows, :cols]`. -/
def cut (value : Tensor2 Int) (rows cols : Nat) : Tensor2 Int where
  rows := rows
  cols := cols
  entry := fun row col => value.entryAt row col

def oriented (packedDim : Int) (value : Tensor2 α) : Tensor2 α :=
  if packedDim = 0 then value.transpose else value

end Tensor2

/-! ## Packing -/

def signOffset (numBits : Nat) (sym : Bool) : Int := if sym then 2 ^ (numBits - 1) else 0

def toUnsigned (numBits : Nat) (sym : Bool) (value : Int) : Int :=
  if sym then (value + signOffset numBits sym) % 2 ^ 8 else value

/-- `math.ceil(cols / pack_factor) * pack_factor`. -/
def paddedCols (cols packFactor : Nat) : Nat := (cols + packFactor - 1) / packFactor * packFactor

/-- The words of the rows: each sums `packFactor` shifted entries. -/
def packRows (numBits : Nat) (value : Tensor2 Int) : Tensor2 Int32 :=
  let packFactor := 32 / numBits
  let padded := value.pad (paddedCols value.cols packFactor - value.cols)
  { rows := value.rows
    cols := paddedCols value.cols packFactor / packFactor
    entry := fun row group => sumShifted numBits 0
      ((List.range packFactor).map fun field =>
        Int32.ofInt (padded.entryAt row (group * packFactor + field))) }

def packToInt32 (value : Tensor2 Int) (numBits : Nat) (packedDim : Int) (sym : Bool) :
    Except PyException (Tensor2 Int32) := do
  raiseIf (numBits > 8) (.valueError "Packing is only supported for less than 8 bits")
  raiseIf (numBits < 1) (.valueError s!"num_bits must be at least 1, got {numBits}")
  let unsigned := value.map (toUnsigned numBits sym)
  pure ((packRows numBits (unsigned.oriented packedDim)).oriented packedDim)

/-! ## Reading -/

def unpackRows (numBits : Nat) (packed : Tensor2 Int32) : Tensor2 Int where
  rows := packed.rows
  cols := packed.cols * (32 / numBits)
  entry := fun row col => readField numBits
    (packed.entry row ⟨col / (32 / numBits), Nat.div_lt_of_lt_mul
      (Nat.lt_of_lt_of_eq col.isLt (Nat.mul_comm _ _))⟩) (col % (32 / numBits))

def unpackFromInt32 (packed : Tensor2 Int32) (numBits : Nat) (packedDim : Int) (sym : Bool)
    (rows cols : Nat) : Tensor2 Int :=
  let fields := (unpackRows numBits (packed.oriented packedDim)).oriented packedDim
  (fields.map fun field => field - signOffset numBits sym).cut rows cols

/-! ## Round trip -/

/-- The values that a width can hold. -/
def InRange (numBits : Nat) (sym : Bool) (value : Int) : Prop :=
  if sym then -2 ^ (numBits - 1) ≤ value ∧ value < 2 ^ (numBits - 1)
  else 0 ≤ value ∧ value < 2 ^ numBits

section Widths

variable {numBits : Nat}

theorem two_pow_numBits (atLeastOne : 1 ≤ numBits) :
    (2 : Int) ^ numBits = 2 ^ (numBits - 1) + 2 ^ (numBits - 1) := by
  have step : numBits = numBits - 1 + 1 := by omega
  conv_lhs => rw [step, pow_succ]
  omega

theorem inRange_iff (atLeastOne : 1 ≤ numBits) (sym : Bool) (value : Int) :
    InRange numBits sym value ↔
      0 ≤ value + signOffset numBits sym ∧ value + signOffset numBits sym < 2 ^ numBits := by
  have halves := two_pow_numBits atLeastOne
  cases sym with
  | true =>
      rw [InRange, signOffset, if_pos rfl, if_pos rfl]
      omega
  | false =>
      rw [InRange, signOffset, if_neg Bool.false_ne_true, if_neg Bool.false_ne_true]
      omega

theorem toUnsigned_eq (atLeastOne : 1 ≤ numBits) (atMostEight : numBits ≤ 8) {sym : Bool} {value : Int}
    (inRange : InRange numBits sym value) :
    toUnsigned numBits sym value = value + signOffset numBits sym ∧
      0 ≤ toUnsigned numBits sym value ∧ toUnsigned numBits sym value < 2 ^ numBits := by
  have atMost : (2 : Int) ^ numBits ≤ 2 ^ 8 := by
    exact_mod_cast Nat.pow_le_pow_right (by omega : 0 < 2) atMostEight
  rw [inRange_iff atLeastOne] at inRange
  have same : toUnsigned numBits sym value = value + signOffset numBits sym := by
    rw [toUnsigned]
    cases sym with
    | true =>
        rw [if_pos rfl]
        exact Int.emod_eq_of_lt (by omega) (by omega)
    | false =>
        rw [if_neg Bool.false_ne_true, signOffset, if_neg Bool.false_ne_true, Int.add_zero]
  rw [same]
  exact ⟨rfl, by omega, by omega⟩

theorem packFactor_pos (atLeastOne : 1 ≤ numBits) (atMostEight : numBits ≤ 8) :
    0 < 32 / numBits := Nat.div_pos (by omega) atLeastOne

theorem cols_le_paddedCols {packFactor : Nat} (positive : 0 < packFactor) (cols : Nat) :
    cols ≤ paddedCols cols packFactor := by
  rw [paddedCols]
  have quotient := Nat.div_add_mod (cols + packFactor - 1) packFactor
  have remainder := Nat.mod_lt (cols + packFactor - 1) positive
  rw [Nat.mul_comm] at quotient
  omega

end Widths

section Rows

variable {numBits : Nat} {value : Tensor2 Int}

variable (value) in
theorem entryAt_inside {row col : Nat} (inRow : row < value.rows) (inCol : col < value.cols) :
    value.entryAt row col = value.entry ⟨row, inRow⟩ ⟨col, inCol⟩ := by
  rw [Tensor2.entryAt, dif_pos ⟨inRow, inCol⟩]

variable (value) in
theorem entryAt_outside {row col : Nat} (outside : ¬ (row < value.rows ∧ col < value.cols)) :
    value.entryAt row col = 0 := dif_neg outside

theorem entryAt_map (read : Int → Int) {row col : Nat} (inRow : row < value.rows)
    (inCol : col < value.cols) :
    (value.map read).entryAt row col = read (value.entryAt row col) := by
  have ofMap : (value.map read).entryAt row col =
      (value.map read).entry ⟨row, inRow⟩ ⟨col, inCol⟩ :=
    entryAt_inside (value.map read) inRow inCol
  rw [ofMap, entryAt_inside value inRow inCol]
  rfl

theorem entryAt_transpose (row col : Nat) :
    value.transpose.entryAt row col = value.entryAt col row := by
  by_cases inside : row < value.cols ∧ col < value.rows
  · have ofTranspose : value.transpose.entryAt row col =
        value.transpose.entry ⟨row, inside.1⟩ ⟨col, inside.2⟩ :=
      entryAt_inside value.transpose inside.1 inside.2
    rw [ofTranspose, entryAt_inside value inside.2 inside.1]
    rfl
  · have ofTranspose : value.transpose.entryAt row col = 0 :=
      entryAt_outside value.transpose inside
    rw [ofTranspose, entryAt_outside value fun other => inside ⟨other.2, other.1⟩]

theorem oriented_oriented {α : Type} (packedDim : Int) (tensor : Tensor2 α) :
    (tensor.oriented packedDim).oriented packedDim = tensor := by
  rw [Tensor2.oriented, Tensor2.oriented]
  split
  · rfl
  · rfl

theorem entryAt_pad (padLen row col : Nat) :
    (value.pad padLen).entryAt row col = value.entryAt row col := by
  rw [Tensor2.entryAt]
  split
  · rfl
  · rename_i outside
    rw [Tensor2.entryAt, dif_neg]
    intro inside
    exact outside ⟨inside.1, Nat.lt_of_lt_of_le inside.2 (Nat.le_add_right _ _)⟩

/-- Every field of every word is the entry that was packed, zero in the padding. -/
theorem readField_packRows
    (small : ∀ row col, 0 ≤ value.entry row col ∧ value.entry row col < 2 ^ numBits)
    (row : Fin value.rows) (group : Fin (packRows numBits value).cols) {field : Nat}
    (inside : field < 32 / numBits) :
    readField numBits ((packRows numBits value).entry row group) field =
      value.entryAt row (group * (32 / numBits) + field) := by
  have bounds : ∀ col, 0 ≤ value.entryAt row col ∧ value.entryAt row col < 2 ^ numBits := by
    intro col
    rw [Tensor2.entryAt]
    split
    · exact small _ _
    · exact ⟨Int.le_refl 0, by positivity⟩
  generalize isFields : (List.range (32 / numBits)).map (fun field =>
    (value.entryAt row (group * (32 / numBits) + field)).toNat) = fields
  have length : fields.length = 32 / numBits := by
    rw [← isFields, List.length_map, List.length_range]
  have word : (packRows numBits value).entry row group =
      sumShifted numBits 0 (fields.map Int32.ofNat) := by
    rw [← isFields, List.map_map]
    apply congrArg (sumShifted numBits 0)
    apply List.map_congr_left
    intro other _
    rw [entryAt_pad, Function.comp_apply, ← Int32.ofInt_eq_ofNat,
      Int.toNat_of_nonneg (bounds _).1]
  have smallFields : ∀ held ∈ fields, held < 2 ^ numBits := by
    intro held member
    rw [← isFields] at member
    rcases List.mem_map.mp member with ⟨other, _, rfl⟩
    have bound := bounds (group * (32 / numBits) + other)
    have asNat : ((2 ^ numBits : Nat) : Int) = 2 ^ numBits := by norm_num
    omega
  have fits : fields.length * numBits ≤ 32 := by
    rw [length]
    exact Nat.div_mul_le_self 32 numBits
  have isInside : field < fields.length := by rw [length]; exact inside
  have isField : fields[field] =
      (value.entryAt row (group * (32 / numBits) + field)).toNat := by
    simp only [← isFields, List.getElem_map, List.getElem_range]
  rw [word, readField_sumShifted fits smallFields isInside, isField,
    Int.toNat_of_nonneg (bounds _).1]

variable (value) in
theorem cols_le_unpackRows (atLeastOne : 1 ≤ numBits) (atMostEight : numBits ≤ 8) :
    value.cols ≤ (unpackRows numBits (packRows numBits value)).cols := by
  have positive := packFactor_pos atLeastOne atMostEight
  have isCols : (unpackRows numBits (packRows numBits value)).cols =
      paddedCols value.cols (32 / numBits) / (32 / numBits) * (32 / numBits) := rfl
  rw [isCols, paddedCols, Nat.mul_div_cancel _ positive, ← paddedCols]
  exact cols_le_paddedCols positive value.cols

theorem unpackRows_packRows (atLeastOne : 1 ≤ numBits) (atMostEight : numBits ≤ 8)
    (small : ∀ row col, 0 ≤ value.entry row col ∧ value.entry row col < 2 ^ numBits)
    {row col : Nat} (inRow : row < value.rows) (inCol : col < value.cols) :
    (unpackRows numBits (packRows numBits value)).entryAt row col = value.entryAt row col := by
  have positive := packFactor_pos atLeastOne atMostEight
  have inPadded : col < (packRows numBits value).cols * (32 / numBits) :=
    Nat.lt_of_lt_of_le inCol (cols_le_unpackRows value atLeastOne atMostEight)
  have inGroup : col / (32 / numBits) < (packRows numBits value).cols :=
    Nat.div_lt_of_lt_mul (by rw [Nat.mul_comm]; exact inPadded)
  have isField : (unpackRows numBits (packRows numBits value)).entryAt row col =
      readField numBits ((packRows numBits value).entry ⟨row, inRow⟩
        ⟨col / (32 / numBits), inGroup⟩) (col % (32 / numBits)) :=
    entryAt_inside (unpackRows numBits (packRows numBits value)) inRow inPadded
  have read := readField_packRows small ⟨row, inRow⟩ ⟨col / (32 / numBits), inGroup⟩
    (Nat.mod_lt col positive)
  dsimp only at read
  rw [Nat.mul_comm (col / (32 / numBits)), Nat.div_add_mod] at read
  exact isField.trans read

end Rows

section Orientation

variable {numBits : Nat} (packedDim : Int) {value : Tensor2 Int}

theorem oriented_entries (holds : Int → Prop) (all : ∀ row col, holds (value.entry row col)) :
    ∀ row col, holds ((value.oriented packedDim).entry row col) := by
  by_cases first : packedDim = 0
  · rw [show value.oriented packedDim = value.transpose from if_pos first]
    exact fun row col => all col row
  · rw [show value.oriented packedDim = value from if_neg first]
    exact all

theorem unpack_oriented (atLeastOne : 1 ≤ numBits) (atMostEight : numBits ≤ 8)
    (small : ∀ row col, 0 ≤ value.entry row col ∧ value.entry row col < 2 ^ numBits)
    (read : Int → Int) {row col : Nat} (inRow : row < value.rows) (inCol : col < value.cols) :
    (((unpackRows numBits (packRows numBits (value.oriented packedDim))).oriented
      packedDim).map read).entryAt row col = read (value.entryAt row col) := by
  rw [Tensor2.oriented, Tensor2.oriented]
  by_cases first : packedDim = 0
  · rw [if_pos first, if_pos first]
    have smallTranspose : ∀ row col, 0 ≤ value.transpose.entry row col ∧
        value.transpose.entry row col < 2 ^ numBits := fun row col => small col row
    have inUnpacked : row < (unpackRows numBits (packRows numBits value.transpose)).cols :=
      Nat.lt_of_lt_of_le inRow (cols_le_unpackRows value.transpose atLeastOne atMostEight)
    have ofMap : ((unpackRows numBits (packRows numBits value.transpose)).transpose.map
        read).entryAt row col =
        read ((unpackRows numBits (packRows numBits value.transpose)).transpose.entryAt row col) :=
      entryAt_map read inUnpacked inCol
    rw [ofMap, entryAt_transpose,
      unpackRows_packRows atLeastOne atMostEight smallTranspose inCol inRow, entryAt_transpose]
  · rw [if_neg first, if_neg first]
    have inUnpacked : col < (unpackRows numBits (packRows numBits value)).cols :=
      Nat.lt_of_lt_of_le inCol (cols_le_unpackRows value atLeastOne atMostEight)
    have ofMap : ((unpackRows numBits (packRows numBits value)).map read).entryAt row col =
        read ((unpackRows numBits (packRows numBits value)).entryAt row col) :=
      entryAt_map read inRow inUnpacked
    rw [ofMap, unpackRows_packRows atLeastOne atMostEight small inRow inCol]

end Orientation

/-- Packing is lossless: reading the words returns the matrix, and no field of a word is changed
by the other fields that it sums. -/
theorem packToInt32_lossless {numBits : Nat} (atLeastOne : 1 ≤ numBits) (atMostEight : numBits ≤ 8)
    (packedDim : Int) (sym : Bool) (value : Tensor2 Int)
    (inRange : ∀ row col, InRange numBits sym (value.entry row col)) :
    let source := (value.map (toUnsigned numBits sym)).oriented packedDim
    packToInt32 value numBits packedDim sym =
        .ok ((packRows numBits source).oriented packedDim) ∧
      unpackFromInt32 ((packRows numBits source).oriented packedDim) numBits packedDim sym
        value.rows value.cols = value ∧
      ∀ row group field, field < 32 / numBits →
        readField numBits ((packRows numBits source).entry row group) field =
          source.entryAt row (group * (32 / numBits) + field) := by
  intro source
  have small : ∀ row col, 0 ≤ (value.map (toUnsigned numBits sym)).entry row col ∧
      (value.map (toUnsigned numBits sym)).entry row col < 2 ^ numBits :=
    fun row col => (toUnsigned_eq atLeastOne atMostEight (inRange row col)).2
  have smallSource : ∀ row col, 0 ≤ source.entry row col ∧ source.entry row col < 2 ^ numBits :=
    oriented_entries packedDim (fun entry => 0 ≤ entry ∧ entry < 2 ^ numBits) small
  refine ⟨?_, ?_, fun row group field inside => readField_packRows smallSource row group inside⟩
  · have tooWide : ¬ numBits > 8 := by omega
    have tooNarrow : ¬ numBits < 1 := by omega
    rw [packToInt32, raiseIf_eq_ok.mpr tooWide, raiseIf_eq_ok.mpr tooNarrow]
    rfl
  · have sameEntry : ∀ (row : Fin value.rows) (col : Fin value.cols),
        (unpackFromInt32 ((packRows numBits source).oriented packedDim) numBits packedDim sym
          value.rows value.cols).entry row col = value.entry row col := by
      intro row col
      have unpacked := unpack_oriented packedDim atLeastOne atMostEight small
        (fun field => field - signOffset numBits sym) row.isLt col.isLt
      have entry : (value.map (toUnsigned numBits sym)).entryAt row col =
          toUnsigned numBits sym (value.entry row col) := by
        rw [entryAt_map _ row.isLt col.isLt, entryAt_inside value row.isLt col.isLt]
      have isRead : (unpackFromInt32 ((packRows numBits source).oriented packedDim) numBits
          packedDim sym value.rows value.cols).entry row col =
          (((unpackRows numBits (((packRows numBits source).oriented packedDim).oriented
            packedDim)).oriented packedDim).map
              fun field => field - signOffset numBits sym).entryAt row col := rfl
      rw [isRead, oriented_oriented]
      refine unpacked.trans ?_
      rw [entry, (toUnsigned_eq atLeastOne atMostEight (inRange row col)).1]
      omega
    have sameEntries : (unpackFromInt32 ((packRows numBits source).oriented packedDim) numBits
        packedDim sym value.rows value.cols).entry = value.entry := by
      funext row col
      exact sameEntry row col
    exact congrArg (fun entry => (⟨value.rows, value.cols, entry⟩ : Tensor2 Int)) sameEntries

def topFields : Tensor2 Int where
  rows := 1
  cols := 9
  entry := fun _ _ => 7

theorem packToInt32_lossless_topFields :
    InRange 4 true 7 ∧
      unpackFromInt32 ((packRows 4 ((topFields.map (toUnsigned 4 true)).oriented 1)).oriented 1)
        4 1 true 1 9 = topFields := by
  have inRange : InRange 4 true 7 := ⟨by norm_num, by norm_num⟩
  refine ⟨inRange, ?_⟩
  exact (packToInt32_lossless (by decide) (by decide) 1 true topFields fun _ _ => inRange).2.1

end Vime.Backends.MegatronUtils.QuantizerCompressedTensors
