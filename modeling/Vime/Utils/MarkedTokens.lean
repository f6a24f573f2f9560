import Mathlib.Algebra.Order.BigOperators.Group.List
import Mathlib.Algebra.Order.Ring.Int
import Vime.Foundation.Fallible
import Vime.Utils.MaskUtils

/-! # Marked characters and tokens

The loop over the messages fills the spans that it finds, and the difference of two prefix sums
is positive if a filled character lies between them.
-/

namespace Vime.Utils.MaskUtils

open Vime.Foundation

/-- A position inside one of the spans. -/
def Covers (spans : List (Nat × Nat)) (pos : Nat) : Prop :=
  ∃ span ∈ spans, span.1 ≤ pos ∧ pos < span.2

instance (spans : List (Nat × Nat)) (pos : Nat) : Decidable (Covers spans pos) :=
  inferInstanceAs (Decidable (∃ span ∈ spans, _))

def Meets (spans : List (Nat × Nat)) (offsets : Nat × Nat) : Prop :=
  ∃ pos ∈ List.range' offsets.1 (offsets.2 - offsets.1), Covers spans pos

instance (spans : List (Nat × Nat)) (offsets : Nat × Nat) : Decidable (Meets spans offsets) :=
  inferInstanceAs (Decidable (∃ pos ∈ List.range' _ _, _))

theorem meets_iff {spans : List (Nat × Nat)} {offsets : Nat × Nat} :
    Meets spans offsets ↔ ∃ pos, offsets.1 ≤ pos ∧ pos < offsets.2 ∧ Covers spans pos := by
  simp only [Meets, List.mem_range'_1]
  constructor
  · rintro ⟨pos, inside, covered⟩
    exact ⟨pos, inside.1, by omega, covered⟩
  · rintro ⟨pos, after, before, covered⟩
    exact ⟨pos, ⟨after, by omega⟩, covered⟩

@[simp] theorem not_covers_nil {pos : Nat} : ¬ Covers [] pos := by
  simp [Covers]

@[simp] theorem covers_cons {span : Nat × Nat} {spans : List (Nat × Nat)} {pos : Nat} :
    Covers (span :: spans) pos ↔ (span.1 ≤ pos ∧ pos < span.2) ∨ Covers spans pos := by
  simp [Covers]

/-! ## Filled characters -/

def foundSpans (renderedText : List Char) :
    List Message → (cursor : Nat) → Except PyException (List (Nat × Nat))
  | [], _ => .ok []
  | message :: rest, cursor =>
      if message.role ≠ "assistant" then foundSpans renderedText rest cursor
      else do
        let located ← locateAssistant renderedText cursor
        let spans ← foundSpans renderedText rest located.2
        pure (if message.trains then (maskStart renderedText located.1, located.2) :: spans
          else spans)

/-- The mask of `count` characters with ones at the spans. -/
def indicator (count : Nat) (spans : List (Nat × Nat)) : List Int :=
  (List.range count).map fun pos => if Covers spans pos then 1 else 0

theorem foldl_set_ones (charMask : List Int) (start count : Nat) :
    ∀ pos, ((List.range' start count).foldl (fun written pos => written.set pos 1) charMask)[pos]? =
      if start ≤ pos ∧ pos < start + count then charMask[pos]?.map fun _ => 1
      else charMask[pos]? := by
  induction count generalizing start charMask with
  | zero =>
      intro pos
      rw [if_neg (by omega), List.range'_zero, List.foldl_nil]
  | succ count induction =>
      intro pos
      rw [List.range'_succ, List.foldl_cons, induction, List.getElem?_set']
      by_cases same : start = pos
      · subst same
        rw [if_neg (by omega), if_pos rfl, if_pos (by omega)]
        rfl
      · rw [if_neg same]
        by_cases inside : start + 1 ≤ pos ∧ pos < start + 1 + count
        · rw [if_pos inside, if_pos (by omega)]
        · rw [if_neg inside, if_neg (by omega)]

theorem fillOnes_indicator (count : Nat) (spans : List (Nat × Nat)) (start stop : Nat) :
    fillOnes (indicator count spans) start stop = indicator count (spans ++ [(start, stop)]) := by
  apply List.ext_getElem?
  intro pos
  rw [fillOnes, foldl_set_ones, indicator, indicator]
  by_cases inside : pos < count
  · simp only [List.getElem?_map, List.getElem?_range inside, Option.map_some]
    by_cases filled : start ≤ pos ∧ pos < stop
    · rw [if_pos (by omega), if_pos]
      exact ⟨(start, stop), List.mem_append_right _ (List.mem_singleton_self _), filled⟩
    · rw [if_neg (by omega)]
      apply congrArg some
      apply if_congr _ rfl rfl
      simp [Covers, or_and_right, exists_or, filled]
  · simp [inside]

theorem markAssistant_of_foundSpans {renderedText : List Char} {count : Nat}
    {messages : List Message} :
    ∀ {cursor : Nat} {filled spans : List (Nat × Nat)},
      foundSpans renderedText messages cursor = .ok spans →
      markAssistant renderedText messages cursor (indicator count filled) =
        .ok (indicator count (filled ++ spans)) := by
  induction messages with
  | nil =>
      intro cursor filled spans found
      rw [foundSpans, Except.ok.injEq] at found
      rw [← found, List.append_nil, markAssistant]
  | cons message rest induction =>
      intro cursor filled spans found
      rw [foundSpans] at found
      rw [markAssistant]
      by_cases other : message.role ≠ "assistant"
      · rw [if_pos other] at found ⊢
        exact induction found
      · rw [if_neg other] at found ⊢
        rcases bind_eq_ok.mp found with ⟨located, locatedEq, rest⟩
        rcases bind_eq_ok.mp rest with ⟨later, laterEq, returned⟩
        have spansEq := Except.ok.inj returned
        rw [locatedEq, ok_bind]
        by_cases trains : message.trains = true
        · rw [if_pos trains] at spansEq ⊢
          rw [fillOnes_indicator, induction laterEq, ← spansEq, List.append_assoc,
            List.singleton_append]
        · rw [if_neg trains] at spansEq ⊢
          rw [induction laterEq, spansEq]

theorem indicator_nil (count : Nat) : indicator count [] = List.replicate count 0 := by
  simp [indicator, List.map_const']

/-! ## Tokens -/

theorem prefixSums_getElem? {charMask : List Int} {position : Nat}
    (inside : position ≤ charMask.length) :
    (prefixSums charMask)[position]? = some (charMask.take position).sum := by
  rw [prefixSums, List.getElem?_scanl, if_pos inside, List.sum_eq_foldl]

theorem sum_take_sub (values : List Int) {start stop : Nat} (ordered : start ≤ stop) :
    (values.take stop).sum - (values.take start).sum =
      ((values.drop start).take (stop - start)).sum := by
  have cut := List.take_append_drop start (values.take stop)
  have sums := congrArg List.sum cut
  rw [List.sum_append, List.take_take, Nat.min_eq_left ordered, List.drop_take] at sums
  omega

theorem sum_indicator_pos {count start stop : Nat} {spans : List (Nat × Nat)}
    (inside : stop ≤ count) :
    0 < (((indicator count spans).drop start).take (stop - start)).sum ↔
      Meets spans (start, stop) := by
  have entries : ((indicator count spans).drop start).take (stop - start) =
      (List.range' start (stop - start)).map fun pos => if Covers spans pos then 1 else 0 := by
    rw [indicator, List.range_eq_range', ← List.map_drop, ← List.map_take, List.drop_range',
      List.take_range'_of_length_ge (by omega), Nat.zero_add, Nat.mul_one]
  have nonneg : ∀ value ∈ (List.range' start (stop - start)).map fun pos =>
      if Covers spans pos then (1 : Int) else 0, 0 ≤ value := by
    intro value member
    rcases List.mem_map.mp member with ⟨pos, _, rfl⟩
    split
    · decide
    · decide
  rw [entries]
  constructor
  · intro positive
    by_contra apart
    apply ne_of_gt positive
    apply List.sum_eq_zero
    intro value member
    rcases List.mem_map.mp member with ⟨pos, isPos, rfl⟩
    exact if_neg fun covered => apart ⟨pos, isPos, covered⟩
  · rintro ⟨pos, isPos, covered⟩
    apply Int.lt_of_lt_of_le (b := 1) (by decide)
    apply List.single_le_sum nonneg
    exact List.mem_map.mpr ⟨pos, isPos, if_pos covered⟩

theorem tokenMask_indicator {count : Nat} {spans : List (Nat × Nat)} {offsets : Nat × Nat}
    (ordered : offsets.1 ≤ offsets.2) (inside : offsets.2 ≤ count) :
    tokenMask (prefixSums (indicator count spans)) offsets =
      .ok (if Meets spans offsets then 1 else 0) := by
  have length : (indicator count spans).length = count := by simp [indicator]
  have atEnd : (prefixSums (indicator count spans))[offsets.2]? = _ :=
    prefixSums_getElem? (by omega)
  have atStart : (prefixSums (indicator count spans))[offsets.1]? = _ :=
    prefixSums_getElem? (by omega)
  rw [tokenMask]
  by_cases isEmpty : offsets.2 ≤ offsets.1
  · rw [if_pos isEmpty, if_neg]
    rw [meets_iff]
    rintro ⟨pos, after, before, _⟩
    omega
  · have upToEnd := itemAt_eq_ok.mpr atEnd
    have upToStart := itemAt_eq_ok.mpr atStart
    rw [if_neg isEmpty, upToEnd, ok_bind, upToStart, ok_bind, pure_eq_ok, sum_take_sub _ ordered]
    apply congrArg Except.ok
    exact if_congr (sum_indicator_pos inside) rfl rfl

end Vime.Utils.MaskUtils
