import Vime.Foundation.Fallible

/-! # Python values used by every model

Exceptions, and the list slices of the source language: a negative bound counts
from the end and every bound is clamped to the list.
-/

namespace Vime.Foundation

/-- An exception leaving a modelled function, with its text where the source
gives one. -/
inductive PyException where
  | assertionError (message : String)
  | valueError (message : String)
  | runtimeError (message : String)
  /-- `asyncio.InvalidStateError`. -/
  | invalidStateError (message : String)
  | typeError (message : String)
  | indexError
  | keyError
  | overflowError
  | zeroDivisionError
  deriving DecidableEq, Repr

/-- `if condition: raise exception`. -/
def raiseIf (condition : Prop) [Decidable condition] (exception : PyException) :
    Except PyException Unit :=
  if condition then .error exception else .ok ()

theorem raiseIf_eq_ok {condition : Prop} [Decidable condition] {exception : PyException} :
    raiseIf condition exception = .ok () ↔ ¬ condition := by
  by_cases holds : condition
  · simp [raiseIf, holds]
  · simp [raiseIf, holds]

theorem raiseIf_bind_eq_ok {condition : Prop} [Decidable condition]
    {exception : PyException} {next : Unit → Except PyException β} {result : β} :
    (raiseIf condition exception >>= next) = .ok result ↔
      ¬ condition ∧ next () = .ok result := by
  by_cases holds : condition
  · simp [raiseIf, holds]
  · simp [raiseIf, holds]

/-! ## Steps that raise `ValueError` only -/

/-- The only exceptions of the step are `ValueError`s. -/
def ValueErrorsOnly {α : Type u} (step : Except PyException α) : Prop :=
  ∀ exception, step = .error exception → ∃ message, exception = .valueError message

namespace ValueErrorsOnly

theorem ok {α : Type u} (value : α) : ValueErrorsOnly (.ok value : Except PyException α) :=
  fun _ raised => nomatch raised

theorem valueError {α : Type u} (message : String) :
    ValueErrorsOnly (.error (.valueError message) : Except PyException α) :=
  fun _ raised => ⟨message, (Except.error.inj raised).symm⟩

theorem raiseIf (condition : Prop) [Decidable condition] (message : String) :
    ValueErrorsOnly (raiseIf condition (.valueError message)) := by
  rw [Foundation.raiseIf]
  by_cases holds : condition
  · rw [if_pos holds]
    exact valueError message
  · rw [if_neg holds]
    exact ok ()

theorem bind {α β : Type u} {step : Except PyException α} {next : α → Except PyException β}
    (first : ValueErrorsOnly step)
    (later : ∀ value, step = .ok value → ValueErrorsOnly (next value)) :
    ValueErrorsOnly (step >>= next) := by
  cases step with
  | error exception =>
      intro other raised
      rw [← Except.error.inj raised]
      exact first exception rfl
  | ok value => exact later value rfl

theorem map {α β : Type u} {step : Except PyException α} (transform : α → β)
    (first : ValueErrorsOnly step) : ValueErrorsOnly (step.map transform) := by
  cases step with
  | error exception =>
      intro other raised
      rw [← Except.error.inj raised]
      exact first exception rfl
  | ok value => exact ok _

theorem forM {α : Type u} {check : α → Except PyException PUnit} :
    ∀ {items : List α}, (∀ item ∈ items, ValueErrorsOnly (check item)) →
      ValueErrorsOnly (items.forM check)
  | [], _ => ok _
  | item :: _, each => bind (each item List.mem_cons_self) fun _ _ =>
      forM fun other member => each other (List.mem_cons_of_mem _ member)

end ValueErrorsOnly

/-! ## Sequences -/

def sliceBound (length : Nat) (bound : Int) : Nat :=
  if bound < 0 then (length + bound).toNat else min bound.toNat length

def slice (values : List α) (start stop : Int) : List α :=
  (values.take (sliceBound values.length stop)).drop (sliceBound values.length start)

def sliceTo (values : List α) (stop : Int) : List α :=
  values.take (sliceBound values.length stop)

def sliceFrom (values : List α) (start : Int) : List α :=
  values.drop (sliceBound values.length start)

def lastItem : List α → Except PyException α
  | [] => .error .indexError
  | [value] => .ok value
  | _ :: next :: rest => lastItem (next :: rest)

/-- `values[index]` for an index that is not negative. -/
def itemAt (values : List α) (index : Nat) : Except PyException α :=
  match values[index]? with
  | some value => .ok value
  | none => .error .indexError

/-- `range(start, stop, step)` for bounds that are not negative. -/
def pyRange (start stop step : Nat) : List Nat :=
  List.range' start ((stop - start + step - 1) / step) step

theorem lastItem_eq_ok {last : α} :
    ∀ {values : List α}, lastItem values = .ok last ↔ values.getLast? = some last
  | [] => by simp [lastItem]
  | [value] => by simp [lastItem]
  | _ :: next :: rest => by
      rw [lastItem, List.getLast?_cons_cons]
      exact lastItem_eq_ok

theorem itemAt_eq_ok {values : List α} {index : Nat} {value : α} :
    itemAt values index = .ok value ↔ values[index]? = some value := by
  rw [itemAt]
  cases values[index]? with
  | none => simp
  | some found => simp

theorem pyRange_one (start stop : Nat) :
    pyRange start stop 1 = List.range' start (stop - start) := by
  rw [pyRange, Nat.add_sub_cancel, Nat.div_one]

theorem sliceBound_le (length : Nat) (bound : Int) : sliceBound length bound ≤ length := by
  rw [sliceBound]
  split
  · omega
  · exact Nat.min_le_right _ _

@[simp] theorem sliceBound_natCast (length bound : Nat) :
    sliceBound length (bound : Int) = min bound length := by
  rw [sliceBound, if_neg (by omega), Int.toNat_natCast]

theorem sliceTo_natCast (values : List α) (stop : Nat) :
    sliceTo values (stop : Int) = values.take stop := by
  rw [sliceTo, sliceBound_natCast, List.take_eq_take_iff]
  omega

theorem sliceFrom_natCast (values : List α) (start : Nat) :
    sliceFrom values (start : Int) = values.drop start := by
  rw [sliceFrom, sliceBound_natCast]
  by_cases inside : start ≤ values.length
  · rw [Nat.min_eq_left inside]
  · rw [List.drop_eq_nil_of_le, List.drop_eq_nil_of_le] <;> omega

theorem slice_natCast (values : List α) (start stop : Nat) :
    slice values (start : Int) (stop : Int) = (values.take stop).drop start := by
  rw [slice, sliceBound_natCast, sliceBound_natCast]
  rw [show values.take (min stop values.length) = values.take stop by
    rw [List.take_eq_take_iff]; omega]
  by_cases inside : start ≤ values.length
  · rw [Nat.min_eq_left inside]
  · rw [List.drop_eq_nil_of_le, List.drop_eq_nil_of_le] <;>
      simp only [List.length_take] <;> omega

@[simp] theorem slice_self (values : List α) (bound : Int) :
    slice values bound bound = [] := by
  rw [slice]
  apply List.drop_eq_nil_of_le
  rw [List.length_take]
  exact Nat.min_le_left _ _

end Vime.Foundation
