import Mathlib.Data.List.Induction

/-! # Runs of a transition system

A system is a partial step function: an action that cannot be taken gives no next
state. What the initial state has and every allowed step keeps, every reached state has.
-/

namespace Vime.Foundation

section Execution

variable {σ : Type u} {α : Type v} (step : σ → α → Option σ)

/-- The states reached from the initial one by allowed actions. -/
inductive Reaches (allowed : σ → α → Prop) (initial : σ) : σ → Prop
  | start : Reaches allowed initial initial
  | next {state later : σ} {action : α} :
      Reaches allowed initial state → allowed state action →
        step state action = some later → Reaches allowed initial later

variable {step}

theorem Reaches.invariant {allowed : σ → α → Prop} {initial state : σ}
    (invariant : σ → Prop) (initially : invariant initial)
    (preserved : ∀ state action later, allowed state action → invariant state →
      step state action = some later → invariant later)
    (reached : Reaches step allowed initial state) : invariant state := by
  induction reached with
  | start => exact initially
  | next _ may steps induction => exact preserved _ _ _ may induction steps

def runActions (step : σ → α → Option σ) (allowed : σ → α → Prop)
    [∀ state action, Decidable (allowed state action)] : σ → List α → Option σ
  | state, [] => some state
  | state, action :: rest =>
      if allowed state action then
        match step state action with
        | none => none
        | some next => runActions step allowed next rest
      else none

theorem Reaches.of_run {allowed : σ → α → Prop}
    [∀ state action, Decidable (allowed state action)] {initial : σ} :
    ∀ {actions : List α} {state final : σ}, Reaches step allowed initial state →
      runActions step allowed state actions = some final → Reaches step allowed initial final
  | [], state, final, reached, ran => by
      rw [runActions, Option.some.injEq] at ran
      rwa [← ran]
  | action :: rest, state, final, reached, ran => by
      rw [runActions] at ran
      by_cases may : allowed state action
      · rw [if_pos may] at ran
        cases stepEq : step state action with
        | none =>
            rw [stepEq] at ran
            cases ran
        | some next =>
            rw [stepEq] at ran
            exact Reaches.of_run (reached.next may stepEq) ran
      · rw [if_neg may] at ran
        cases ran

section Histories

variable {allowed : σ → α → Prop} [∀ state action, Decidable (allowed state action)]

theorem runActions_append :
    ∀ (actions more : List α) (state : σ), runActions step allowed state (actions ++ more) =
      (runActions step allowed state actions).bind fun later =>
        runActions step allowed later more
  | [], _, _ => rfl
  | action :: rest, more, state => by
      rw [List.cons_append, runActions, runActions]
      split
      · cases step state action with
        | none => rfl
        | some next => exact runActions_append rest more next
      · rfl

theorem runActions_invariant {initial : σ} (holds : List α → σ → Prop)
    (initially : holds [] initial)
    (preserved : ∀ actions state action later,
      runActions step allowed initial actions = some state → holds actions state →
        allowed state action → step state action = some later →
          holds (actions ++ [action]) later) {actions : List α} :
    ∀ {final : σ}, runActions step allowed initial actions = some final → holds actions final := by
  induction actions using List.reverseRecOn with
  | nil =>
      intro final ran
      rw [runActions, Option.some.injEq] at ran
      rwa [← ran]
  | append_singleton actions action induction =>
      intro final ran
      rw [runActions_append, Option.bind_eq_some_iff] at ran
      rcases ran with ⟨state, ranBefore, last⟩
      rw [runActions] at last
      split at last
      · rename_i may
        cases steps : step state action with
        | none =>
            rw [steps] at last
            cases last
        | some next =>
            rw [steps] at last
            rw [← Option.some.inj last]
            exact preserved actions state action next ranBefore (induction ranBefore) may steps
      · cases last

end Histories

end Execution

end Vime.Foundation
