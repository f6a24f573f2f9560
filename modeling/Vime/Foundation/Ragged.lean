import Mathlib.Data.List.Basic
import Mathlib.Data.List.Chain

/-! # Ragged arrays

A list of spans stored as the concatenation of the spans together with the
offsets that delimit them.
-/

namespace Vime.Foundation

variable {α : Type u}

/-- Offsets delimiting consecutive spans, the first of which starts at `start`. -/
def offsetsFrom (start : Nat) : List (List α) → List Nat
  | [] => [start]
  | span :: rest => start :: offsetsFrom (start + span.length) rest

def cutSpans (values : List α) : List Nat → List (List α)
  | start :: stop :: rest => (values.take stop).drop start :: cutSpans values (stop :: rest)
  | _ => []

/-! ## Offsets of spans -/

@[simp] theorem offsetsFrom_nil (start : Nat) : offsetsFrom start ([] : List (List α)) = [start] :=
  rfl

@[simp] theorem length_offsetsFrom (start : Nat) (spans : List (List α)) :
    (offsetsFrom start spans).length = spans.length + 1 := by
  induction spans generalizing start with
  | nil => rfl
  | cons span rest induction => rw [offsetsFrom, List.length_cons, induction, List.length_cons]

theorem head?_offsetsFrom (start : Nat) (spans : List (List α)) :
    (offsetsFrom start spans).head? = some start := by
  cases spans with
  | nil => rfl
  | cons span rest => rfl

theorem offsetsFrom_eq_cons (start : Nat) (spans : List (List α)) :
    offsetsFrom start spans = start :: (offsetsFrom start spans).tail := by
  cases spans with
  | nil => rfl
  | cons span rest => rfl

theorem getLast?_offsetsFrom (start : Nat) (spans : List (List α)) :
    (offsetsFrom start spans).getLast? = some (start + spans.flatten.length) := by
  induction spans generalizing start with
  | nil => rfl
  | cons span rest induction =>
      rw [offsetsFrom, List.getLast?_cons, induction, Option.getD_some, List.flatten_cons,
        List.length_append, Nat.add_assoc]

theorem le_of_mem_offsetsFrom {start offset : Nat} {spans : List (List α)}
    (member : offset ∈ offsetsFrom start spans) : offset ≤ start + spans.flatten.length := by
  induction spans generalizing start with
  | nil => exact Nat.le_of_eq (List.mem_singleton.mp member)
  | cons span rest induction =>
      rw [List.flatten_cons, List.length_append, ← Nat.add_assoc]
      rcases List.mem_cons.mp member with isStart | later
      · rw [isStart, Nat.add_assoc]
        exact Nat.le_add_right _ _
      · exact induction later

theorem offsetsFrom_append (start : Nat) (left right : List (List α)) :
    offsetsFrom start (left ++ right) =
      offsetsFrom start left ++ (offsetsFrom (start + left.flatten.length) right).tail := by
  induction left generalizing start with
  | nil => exact offsetsFrom_eq_cons start right
  | cons span rest induction =>
      rw [List.cons_append, offsetsFrom, induction, offsetsFrom, List.cons_append,
        List.flatten_cons, List.length_append, Nat.add_assoc]

theorem map_add_offsetsFrom (shift start : Nat) (spans : List (List α)) :
    (offsetsFrom start spans).map (· + shift) = offsetsFrom (start + shift) spans := by
  induction spans generalizing start with
  | nil => rfl
  | cons span rest induction =>
      rw [offsetsFrom, List.map_cons, induction, offsetsFrom, Nat.add_right_comm]

theorem offsetsFrom_replicate_nil (start count : Nat) :
    offsetsFrom start (List.replicate count ([] : List α)) =
      List.replicate (count + 1) start := by
  induction count with
  | zero => rfl
  | succ count induction =>
      rw [List.replicate_succ, offsetsFrom, List.length_nil, Nat.add_zero, induction]
      rfl

theorem offsetsFrom_append_gap (left right : List (List α)) (gap : Nat) :
    offsetsFrom 0 (left ++ List.replicate gap [] ++ right) =
      offsetsFrom 0 left ++ List.replicate gap left.flatten.length ++
        (offsetsFrom 0 right).tail.map (· + left.flatten.length) := by
  have sameLength : (left ++ List.replicate gap ([] : List α)).flatten.length =
      left.flatten.length := by simp
  rw [offsetsFrom_append, offsetsFrom_append, Nat.zero_add, sameLength, Nat.zero_add,
    offsetsFrom_replicate_nil, List.map_tail, map_add_offsetsFrom, Nat.zero_add]
  rfl

theorem take_offsetsFrom (start count : Nat) (spans : List (List α)) :
    (offsetsFrom start spans).take (count + 1) = offsetsFrom start (spans.take count) := by
  induction spans generalizing start count with
  | nil => simp
  | cons span rest induction =>
      cases count with
      | zero => rfl
      | succ count => rw [offsetsFrom, List.take_succ_cons, induction, List.take_succ_cons,
          offsetsFrom]

theorem take_flatten_length (spans : List (List α)) (count : Nat) :
    spans.flatten.take (spans.take count).flatten.length = (spans.take count).flatten := by
  conv => lhs; rw [← List.take_append_drop count spans]
  rw [List.flatten_append, List.take_append_drop, List.take_left]

theorem isChain_offsetsFrom (start : Nat) (spans : List (List α)) :
    (offsetsFrom start spans).IsChain (· ≤ ·) := by
  induction spans generalizing start with
  | nil => exact List.isChain_singleton _
  | cons span rest induction =>
      have later := induction (start + span.length)
      rw [offsetsFrom_eq_cons] at later
      rw [offsetsFrom, offsetsFrom_eq_cons]
      exact List.isChain_cons_cons.mpr ⟨Nat.le_add_right _ _, later⟩

/-! ## Spans of offsets -/

theorem take_drop_append (values : List α) {first second third : Nat} (ordered : first ≤ second)
    (later : second ≤ third) :
    (values.take third).drop first =
      (values.take second).drop first ++ (values.take third).drop second := by
  apply List.ext_getElem?
  intro index
  rw [List.getElem?_append, List.length_drop, List.length_take]
  simp only [List.getElem?_drop, List.getElem?_take]
  by_cases inFirst : index < min second values.length - first
  · rw [if_pos inFirst, if_pos (by omega), if_pos (by omega)]
  · rw [if_neg inFirst]
    grind

@[simp] theorem length_cutSpans (values : List α) :
    ∀ offsets : List Nat, (cutSpans values offsets).length = offsets.length - 1
  | [] => rfl
  | [_] => rfl
  | start :: stop :: rest => by
      rw [cutSpans, List.length_cons, length_cutSpans values (stop :: rest)]
      rfl

theorem cutSpans_offsetsFrom (before after : List α) (spans : List (List α)) :
    cutSpans (before ++ spans.flatten ++ after) (offsetsFrom before.length spans) = spans := by
  induction spans generalizing before with
  | nil => rfl
  | cons span rest induction =>
      have later := induction (before ++ span)
      rw [List.append_assoc before span, ← List.flatten_cons, List.length_append] at later
      rw [offsetsFrom, offsetsFrom_eq_cons, cutSpans, ← offsetsFrom_eq_cons, later]
      congr 1
      rw [List.flatten_cons, ← List.append_assoc, List.append_assoc (before ++ span),
        List.take_append_of_le_length (by rw [List.length_append]), ← List.length_append,
        List.take_length, List.drop_left]

theorem flatten_cutSpans (values : List α) : ∀ (start : Nat) (rest : List Nat) (last : Nat),
    (start :: rest).IsChain (· ≤ ·) → (start :: rest).getLast? = some last →
      (cutSpans values (start :: rest)).flatten = (values.take last).drop start
  | start, [], last, _, isLast => by
      have same : start = last := Option.some.inj isLast
      rw [cutSpans, List.flatten_nil, same, List.drop_eq_nil_of_le (List.length_take_le _ _)]
      rintro _ _ _ ⟨⟩
  | start, stop :: rest, last, ordered, isLast => by
      rw [List.isChain_cons_cons] at ordered
      rw [List.getLast?_cons_cons] at isLast
      have later := flatten_cutSpans values stop rest last ordered.2 isLast
      have bounded : stop ≤ last := by
        have sorted := List.isChain_iff_pairwise.mp ordered.2
        rcases List.mem_cons.mp (List.mem_of_getLast? isLast) with same | member
        · exact Nat.le_of_eq same.symm
        · exact List.rel_of_pairwise_cons sorted member
      rw [cutSpans, List.flatten_cons, later, take_drop_append values ordered.1 bounded]

theorem le_getLast_of_isChain {last : Nat} : ∀ {offsets : List Nat},
    offsets.IsChain (· ≤ ·) → offsets.getLast? = some last → ∀ offset ∈ offsets, offset ≤ last
  | [], _, isLast => by cases isLast
  | [offset], _, isLast => by
      rw [List.forall_mem_singleton]
      exact Nat.le_of_eq (Option.some.inj isLast)
  | offset :: next :: rest, ordered, isLast => by
      rw [List.isChain_cons_cons] at ordered
      rw [List.getLast?_cons_cons] at isLast
      have later := le_getLast_of_isChain ordered.2 isLast
      exact List.forall_mem_cons.mpr
        ⟨ordered.1.trans (later next List.mem_cons_self), later⟩

theorem offsetsFrom_cutSpans (values : List α) : ∀ (start : Nat) (rest : List Nat),
    (start :: rest).IsChain (· ≤ ·) → (∀ offset ∈ start :: rest, offset ≤ values.length) →
      offsetsFrom start (cutSpans values (start :: rest)) = start :: rest
  | start, [], _, _ => by
      rw [cutSpans, offsetsFrom_nil]
      rintro _ _ _ ⟨⟩
  | start, stop :: rest, ordered, bounded => by
      rw [List.isChain_cons_cons] at ordered
      have later := offsetsFrom_cutSpans values stop rest ordered.2
        fun offset member => bounded offset (List.mem_cons_of_mem _ member)
      have inside := bounded stop (by simp)
      rw [cutSpans, offsetsFrom, List.length_drop, List.length_take, Nat.min_eq_left inside,
        Nat.add_sub_cancel' ordered.1, later]

end Vime.Foundation
