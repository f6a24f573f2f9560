import Mathlib.Data.Nat.Digits.Defs

/-! # Fields of machine words

A signed 32-bit word that sums shifted fields is the number whose digits are the fields, up to
the sign bit, and a shift and a remainder read each field back.
-/

namespace Vime.Foundation

/-- The word with fields of `width` bits, the first at bit `width * start`. -/
def sumShifted (width : Nat) : (start : Nat) → List Int32 → Int32
  | _, [] => 0
  | start, field :: rest =>
      field <<< Int32.ofNat (start * width) + sumShifted width (start + 1) rest

/-- `(word >> (index * width)) mod 2 ** width`. -/
def readField (width : Nat) (word : Int32) (index : Nat) : Int :=
  (word >>> Int32.ofNat (index * width)).toInt % 2 ^ width

theorem smod_shift {shift : Nat} (bound : shift < 32) :
    ((Int32.ofNat shift).toBitVec.smod 32).toNat = shift := by
  have small : ∀ amount : Fin 32, ((Int32.ofNat amount).toBitVec.smod 32).toNat = amount := by
    decide
  exact small ⟨shift, bound⟩

theorem ofNat_shiftLeft (value : Nat) {shift : Nat} (bound : shift < 32) :
    Int32.ofNat value <<< Int32.ofNat shift = Int32.ofNat (value * 2 ^ shift) := by
  rw [← Int32.toBitVec_inj, Int32.toBitVec_shiftLeft, BitVec.shiftLeft_eq', smod_shift bound,
    Int32.toBitVec_ofNat', Int32.toBitVec_ofNat']
  apply BitVec.eq_of_toNat_eq
  rw [BitVec.toNat_shiftLeft, BitVec.toNat_ofNat, BitVec.toNat_ofNat, Nat.shiftLeft_eq,
    Nat.mod_mul_mod]

theorem toInt_shiftRight (word : Int32) {shift : Nat} (bound : shift < 32) :
    (word >>> Int32.ofNat shift).toInt = word.toInt / 2 ^ shift := by
  rw [← Int32.toInt_toBitVec, Int32.toBitVec_shiftRight, BitVec.toInt_sshiftRight',
    smod_shift bound, Int.shiftRight_eq_div_pow, Int32.toInt_toBitVec, Int.natCast_pow]
  rfl

theorem sumShifted_eq (width : Nat) : ∀ (start : Nat) (fields : List Nat),
    (∀ index < fields.length, (start + index) * width < 32) →
      sumShifted width start (fields.map Int32.ofNat) =
        Int32.ofNat (2 ^ (start * width) * Nat.ofDigits (2 ^ width) fields)
  | _, [], _ => by
      rw [Nat.ofDigits_nil, Nat.mul_zero]
      rfl
  | start, field :: rest, fits => by
      have later := sumShifted_eq width (start + 1) rest fun index inside => by
        have bound := fits (index + 1) (Nat.succ_lt_succ inside)
        rwa [show start + (index + 1) = start + 1 + index by omega] at bound
      have first : start * width < 32 := fits 0 (Nat.succ_pos _)
      rw [List.map_cons, sumShifted, later, ofNat_shiftLeft field first, ← Int32.ofNat_add,
        Nat.ofDigits_cons, Nat.succ_mul, pow_add]
      congr 1
      ring

theorem field_of_emod (word : Int) {width shift : Nat} (inside : shift + width ≤ 32) :
    word / 2 ^ shift % 2 ^ width = word % 2 ^ 32 / 2 ^ shift % 2 ^ width := by
  have positive : (2 : Int) ^ shift ≠ 0 := by positivity
  have wholeWord : (2 : Int) ^ 32 = 2 ^ shift * (2 ^ width * 2 ^ (32 - shift - width)) := by
    rw [← pow_add, ← pow_add]
    congr 1
    omega
  have split : word = word % 2 ^ 32 +
      2 ^ shift * (2 ^ width * (2 ^ (32 - shift - width) * (word / 2 ^ 32))) := by
    rw [← Int.mul_assoc (2 ^ width), ← Int.mul_assoc (2 ^ shift), ← wholeWord]
    exact (Int.emod_add_mul_ediv word (2 ^ 32)).symm
  conv_lhs => rw [split]
  rw [Int.add_mul_ediv_left _ _ positive, Int.add_mul_emod_self_left]

theorem readField_sumShifted {width : Nat} {fields : List Nat}
    (fits : fields.length * width ≤ 32) (small : ∀ field ∈ fields, field < 2 ^ width)
    {index : Nat} (inside : index < fields.length) :
    readField width (sumShifted width 0 (fields.map Int32.ofNat)) index = fields[index] := by
  have below : ∀ other < fields.length, other * width + width ≤ 32 := by
    intro other isField
    rw [← Nat.succ_mul]
    exact Nat.le_trans (Nat.mul_le_mul_right width isField) fits
  have shifts : ∀ other < fields.length, other * width < 32 := by
    intro other isField
    have bound := below other isField
    rcases Nat.eq_zero_or_pos width with none | some
    · rw [none]
      exact Nat.succ_pos 31
    · omega
  have packed : sumShifted width 0 (fields.map Int32.ofNat) =
      Int32.ofNat (Nat.ofDigits (2 ^ width) fields) := by
    rw [sumShifted_eq width 0 fields (by simpa only [Nat.zero_add] using shifts), Nat.zero_mul,
      Nat.pow_zero, Nat.one_mul]
  have digit : Nat.ofDigits (2 ^ width) fields / 2 ^ (index * width) % 2 ^ width =
      fields[index] := by
    rw [Nat.mul_comm index, Nat.pow_mul,
      Nat.ofDigits_div_pow_eq_ofDigits_drop index (Nat.two_pow_pos width) fields small,
      List.drop_eq_getElem_cons inside, Nat.ofDigits_cons, Nat.add_mul_mod_self_left,
      Nat.mod_eq_of_lt (small _ (List.getElem_mem inside))]
  generalize Nat.ofDigits (2 ^ width) fields = number at packed digit
  have sameBits : (number : Int).bmod Int32.size % 2 ^ 32 = (number : Int) % 2 ^ 32 :=
    Int.bmod_emod
  have whole := field_of_emod (number : Int) (below index inside)
  rw [readField, packed, toInt_shiftRight _ (shifts index inside),
    field_of_emod _ (below index inside), Int32.toInt_ofNat', sameBits, ← whole, ← digit]
  rw [Int.natCast_emod, Int.natCast_ediv, Int.natCast_pow, Int.natCast_pow]
  rfl

end Vime.Foundation
