import Mathlib.Data.Nat.Basic
import Mathlib.Data.List.Basic
import Mathlib.Tactic.Ring

/-! # Little-endian words -/

namespace Vime.Foundation

def leBytes : Nat → Nat → List UInt8
  | 0, _ => []
  | width + 1, value => UInt8.ofNat value :: leBytes width (value / 256)

def ofLeBytes : List UInt8 → Nat
  | [] => 0
  | byte :: rest => byte.toNat + 256 * ofLeBytes rest

def words (width : Nat) : Nat → List UInt8 → List Nat
  | 0, _ => []
  | count + 1, bytes => ofLeBytes (bytes.take width) :: words width count (bytes.drop width)

@[simp] theorem length_leBytes : ∀ width value : Nat, (leBytes width value).length = width
  | 0, _ => rfl
  | width + 1, value => by rw [leBytes, List.length_cons, length_leBytes width]

theorem ofLeBytes_leBytes : ∀ width value : Nat,
    ofLeBytes (leBytes width value) = value % 256 ^ width
  | 0, value => by rw [leBytes, ofLeBytes, Nat.pow_zero, Nat.mod_one]
  | width + 1, value => by
      have low : (UInt8.ofNat value).toNat = value % 256 := UInt8.toNat_ofNat'
      rw [leBytes, ofLeBytes, ofLeBytes_leBytes width, low, Nat.pow_succ', Nat.mod_mul]

theorem ofLeBytes_lt : ∀ bytes : List UInt8, ofLeBytes bytes < 256 ^ bytes.length
  | [] => Nat.one_pos
  | byte :: rest => by
      have later := ofLeBytes_lt rest
      have small := byte.toNat_lt
      rw [ofLeBytes, List.length_cons, Nat.pow_succ']
      omega

theorem length_words (width : Nat) : ∀ (count : Nat) (bytes : List UInt8),
    (words width count bytes).length = count
  | 0, _ => rfl
  | count + 1, bytes => by rw [words, List.length_cons, length_words width count]

theorem words_lt (width : Nat) : ∀ (count : Nat) (bytes : List UInt8),
    ∀ word ∈ words width count bytes, word < 256 ^ width
  | 0, _, word, member => by cases member
  | count + 1, bytes, word, member => by
      rw [words] at member
      rcases List.mem_cons.mp member with same | later
      · have below := ofLeBytes_lt (bytes.take width)
        rw [same]
        apply Nat.lt_of_lt_of_le below
        apply Nat.pow_le_pow_right (by decide)
        rw [List.length_take]
        exact Nat.min_le_left _ _
      · exact words_lt width count _ word later

theorem words_flatMap (width : Nat) (rest : List UInt8) : ∀ values : List Nat,
    words width values.length (values.flatMap (leBytes width) ++ rest) =
      values.map (· % 256 ^ width)
  | [] => rfl
  | value :: values => by
      rw [List.length_cons, words, List.flatMap_cons, List.append_assoc,
        List.take_left' (length_leBytes width value), List.drop_left' (length_leBytes width value),
        ofLeBytes_leBytes, words_flatMap width rest values, List.map_cons]

theorem length_flatMap_leBytes (width : Nat) (values : List Nat) :
    (values.flatMap (leBytes width)).length = width * values.length := by
  induction values with
  | nil => rfl
  | cons value rest induction =>
      rw [List.flatMap_cons, List.length_append, length_leBytes, induction, List.length_cons]
      ring

end Vime.Foundation
