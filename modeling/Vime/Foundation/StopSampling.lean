import Mathlib.Data.List.Basic

/-! # Deterministic sampling with a stop value

A deterministic source emits values one at a time until it emits its stop value,
reaches a limit, or is interrupted. The stop value is suppressed while too few
values were emitted. Restarting an interrupted run forgets how many values were
emitted, which matters exactly when the stop value would be suppressed again.
-/

namespace Vime.Foundation

/-- A deterministic source: the value it emits in a state, the value it falls back
to when stopping is suppressed, its stop test, and the state after a value. -/
structure StopSource (σ α : Type) where
  next : σ → α
  fallback : σ → α
  stops : α → Bool
  step : σ → α → σ
  fallback_not_stops : ∀ state, stops (fallback state) = false

inductive RunEnd where
  | stop
  | limit
  | interrupted
  deriving DecidableEq, Repr

namespace StopSource

variable {σ α : Type} (source : StopSource σ α)

/-- The emitted value, with the stop value suppressed if `suppress` is set. -/
def sample (suppress : Bool) (state : σ) : α :=
  if suppress && source.stops (source.next state) then source.fallback state
  else source.next state

/-- Emit at most `limit` values after `state`, of which `emitted` count towards
the minimum. `interrupt` is the number of values after which the run is cut off. -/
def run (minimum : Nat) : (limit emitted : Nat) → (state : σ) →
    (interrupt : Option Nat) → List α × RunEnd
  | 0, _, _, interrupt => ([], if interrupt = some 0 then .interrupted else .limit)
  | limit + 1, emitted, state, interrupt =>
      if interrupt = some 0 then ([], .interrupted)
      else
        let value := source.sample (decide (emitted < minimum)) state
        if source.stops value then ([value], .stop)
        else
          let later := run minimum limit (emitted + 1) (source.step state value)
            (interrupt.map (· - 1))
          (value :: later.1, later.2)

abbrev complete (minimum limit emitted : Nat) (state : σ) : List α × RunEnd :=
  source.run minimum limit emitted state none

variable {source} {minimum : Nat}

theorem sample_suppressed_not_stops (state : σ) :
    source.stops (source.sample true state) = false := by
  cases stops : source.stops (source.next state) with
  | true => simp [sample, stops, source.fallback_not_stops]
  | false => simp [sample, stops]

theorem sample_suppressed_eq {state : σ}
    (continues : source.stops (source.sample false state) = false) :
    source.sample true state = source.sample false state := by
  have free : source.sample false state = source.next state := by simp [sample]
  rw [free] at continues ⊢
  simp [sample, continues]

theorem sample_eq_of_fewer {state : σ} {fewer more : Nat} (isFewer : fewer ≤ more)
    (continues : source.stops (source.sample (decide (more < minimum)) state) = false) :
    source.sample (decide (fewer < minimum)) state =
      source.sample (decide (more < minimum)) state := by
  by_cases moreSuppressed : more < minimum
  · have fewerSuppressed : fewer < minimum := Nat.lt_of_le_of_lt isFewer moreSuppressed
    simp [moreSuppressed, fewerSuppressed]
  · by_cases fewerSuppressed : fewer < minimum
    · simp only [moreSuppressed, fewerSuppressed, decide_false, decide_true] at continues ⊢
      exact sample_suppressed_eq continues
    · simp [moreSuppressed, fewerSuppressed]

theorem not_suppressed_of_stops {state : σ} {emitted : Nat}
    (stops : source.stops (source.sample (decide (emitted < minimum)) state) = true) :
    ¬ emitted < minimum := by
  intro suppressed
  rw [decide_eq_true suppressed, sample_suppressed_not_stops] at stops
  exact Bool.false_ne_true stops

section Equations

variable {limit emitted : Nat} {state : σ}

theorem complete_of_stops
    (stops : source.stops (source.sample (decide (emitted < minimum)) state) = true) :
    source.complete minimum (limit + 1) emitted state =
      ([source.sample (decide (emitted < minimum)) state], .stop) := by
  rw [complete, run, if_neg (by simp)]
  exact if_pos stops

theorem complete_of_continues
    (continues : source.stops (source.sample (decide (emitted < minimum)) state) = false) :
    source.complete minimum (limit + 1) emitted state =
      let value := source.sample (decide (emitted < minimum)) state
      (value :: (source.complete minimum limit (emitted + 1) (source.step state value)).1,
        (source.complete minimum limit (emitted + 1) (source.step state value)).2) := by
  rw [complete, run, if_neg (by simp)]
  exact if_neg (by simp [continues])

theorem run_succ_of_stops {count : Nat}
    (stops : source.stops (source.sample (decide (emitted < minimum)) state) = true) :
    source.run minimum (limit + 1) emitted state (some (count + 1)) =
      ([source.sample (decide (emitted < minimum)) state], .stop) := by
  rw [run, if_neg (by simp)]
  exact if_pos stops

theorem run_succ_of_continues {count : Nat}
    (continues : source.stops (source.sample (decide (emitted < minimum)) state) = false) :
    source.run minimum (limit + 1) emitted state (some (count + 1)) =
      let value := source.sample (decide (emitted < minimum)) state
      (value :: (source.run minimum limit (emitted + 1) (source.step state value) (some count)).1,
        (source.run minimum limit (emitted + 1) (source.step state value) (some count)).2) := by
  rw [run, if_neg (by simp)]
  exact if_neg (by simp [continues])

end Equations

theorem complete_nonempty (limit emitted : Nat) (state : σ) :
    0 < (source.complete minimum (limit + 1) emitted state).1.length := by
  cases stops : source.stops (source.sample (decide (emitted < minimum)) state) with
  | true => simp [complete_of_stops stops]
  | false => simp [complete_of_continues stops]

theorem complete_length_le : ∀ (limit emitted : Nat) (state : σ),
    (source.complete minimum limit emitted state).1.length ≤ limit
  | 0, _, _ => Nat.le_refl _
  | limit + 1, emitted, state => by
      cases stops : source.stops (source.sample (decide (emitted < minimum)) state) with
      | true => simp [complete_of_stops stops]
      | false =>
          rw [complete_of_continues stops]
          exact Nat.succ_le_succ (complete_length_le limit _ _)

/-- An uninterrupted run that does not stop reaches its limit. -/
theorem complete_end : ∀ (limit emitted : Nat) (state : σ),
    (source.complete minimum limit emitted state).2 = .stop ∨
      (source.complete minimum limit emitted state).2 = .limit ∧
        (source.complete minimum limit emitted state).1.length = limit
  | 0, _, _ => by simp [complete, run]
  | limit + 1, emitted, state => by
      cases stops : source.stops (source.sample (decide (emitted < minimum)) state) with
      | true => simp [complete_of_stops stops]
      | false =>
          rw [complete_of_continues stops]
          rcases complete_end limit (emitted + 1)
            (source.step state (source.sample (decide (emitted < minimum)) state)) with
            stopped | ⟨ended, length⟩
          · exact .inl stopped
          · exact .inr ⟨ended, congrArg (· + 1) length⟩

theorem complete_stop_value : ∀ (limit emitted : Nat) (state : σ),
    (source.complete minimum limit emitted state).2 = .stop →
    ∃ value, (source.complete minimum limit emitted state).1[
        (source.complete minimum limit emitted state).1.length - 1]? = some value ∧
      source.stops value = true
  | 0, _, _, stopped => by simp [complete, run] at stopped
  | limit + 1, emitted, state, stopped => by
      cases stops : source.stops (source.sample (decide (emitted < minimum)) state) with
      | true => exact ⟨_, by simp [complete_of_stops stops], stops⟩
      | false =>
          rw [complete_of_continues stops] at stopped ⊢
          rcases complete_stop_value limit (emitted + 1) _ stopped with ⟨value, last, isStop⟩
          refine ⟨value, ?_, isStop⟩
          have inside := (List.getElem?_eq_some_iff.mp last).1
          rw [← last, List.length_cons, Nat.add_sub_cancel, List.getElem?_cons,
            if_neg (by omega)]

/-- Where an interruption cuts the uninterrupted run off: strictly before a stop
value, and up to the limit otherwise. -/
def Cuts (completed : List α × RunEnd) (count : Nat) : Prop :=
  count < completed.1.length ∨ (count = completed.1.length ∧ completed.2 = .limit)

instance (completed : List α × RunEnd) (count : Nat) : Decidable (Cuts completed count) :=
  inferInstanceAs (Decidable (_ ∨ _))

theorem run_interrupted : ∀ (limit emitted : Nat) (state : σ) (count : Nat),
    source.run minimum limit emitted state (some count) =
      if Cuts (source.complete minimum limit emitted state) count then
        ((source.complete minimum limit emitted state).1.take count, .interrupted)
      else source.complete minimum limit emitted state
  | 0, _, _, count => by
      cases count with
      | zero => simp [complete, run, Cuts]
      | succ count => simp [complete, run, Cuts]
  | limit + 1, emitted, state, 0 => by
      rw [run, if_pos rfl, if_pos (.inl (complete_nonempty limit emitted state)),
        List.take_zero]
  | limit + 1, emitted, state, count + 1 => by
      cases stops : source.stops (source.sample (decide (emitted < minimum)) state) with
      | true =>
          rw [run_succ_of_stops stops, complete_of_stops stops, if_neg (by simp [Cuts])]
      | false =>
          have later := run_interrupted limit (emitted + 1)
            (source.step state (source.sample (decide (emitted < minimum)) state)) count
          rw [run_succ_of_continues stops, complete_of_continues stops]
          dsimp only
          rw [later]
          by_cases cuts : Cuts (source.complete minimum limit (emitted + 1)
              (source.step state (source.sample (decide (emitted < minimum)) state))) count
          · rw [if_pos cuts, if_pos (by simpa [Cuts] using cuts), List.take_succ_cons]
          · rw [if_neg cuts, if_neg (by simpa [Cuts] using cuts)]

theorem complete_drop : ∀ (count limit emitted : Nat) (state : σ),
    Cuts (source.complete minimum limit emitted state) count →
    source.complete minimum (limit - count) (emitted + count)
        (((source.complete minimum limit emitted state).1.take count).foldl source.step state) =
      ((source.complete minimum limit emitted state).1.drop count,
        (source.complete minimum limit emitted state).2)
  | 0, _, _, _, _ => by simp
  | count + 1, 0, emitted, state, cuts => by
      simp [complete, run, Cuts] at cuts
  | count + 1, limit + 1, emitted, state, cuts => by
      cases stops : source.stops (source.sample (decide (emitted < minimum)) state) with
      | true => simp [complete_of_stops stops, Cuts] at cuts
      | false =>
          rw [complete_of_continues stops] at cuts ⊢
          have laterCuts : Cuts (source.complete minimum limit (emitted + 1)
              (source.step state (source.sample (decide (emitted < minimum)) state))) count := by
            simpa [Cuts] using cuts
          have later := complete_drop count limit (emitted + 1)
            (source.step state (source.sample (decide (emitted < minimum)) state)) laterCuts
          simp only [List.take_succ_cons, List.drop_succ_cons, Nat.add_sub_add_right]
          rw [← later, List.foldl_cons, Nat.add_assoc, Nat.add_comm 1 count]

/-- The stop value of `reference` would be suppressed when only `emitted` of the
values before it were counted. -/
def Resuppressed (minimum emitted : Nat) (reference : List α × RunEnd) : Prop :=
  reference.2 = .stop ∧ emitted + reference.1.length ≤ minimum

instance (minimum emitted : Nat) (reference : List α × RunEnd) :
    Decidable (Resuppressed minimum emitted reference) :=
  inferInstanceAs (Decidable (_ ∧ _))

theorem resuppressed_cons (emitted : Nat) (value : α) (later : List α × RunEnd) :
    Resuppressed minimum emitted (value :: later.1, later.2) ↔
      Resuppressed minimum (emitted + 1) later := by
  rw [Resuppressed, Resuppressed, List.length_cons, Nat.add_right_comm, Nat.add_assoc]

theorem complete_eq_of_not_resuppressed : ∀ (limit fewer more : Nat) (state : σ),
    fewer ≤ more →
    ¬ Resuppressed minimum fewer (source.complete minimum limit more state) →
    source.complete minimum limit fewer state = source.complete minimum limit more state
  | 0, _, _, _, _, _ => rfl
  | limit + 1, fewer, more, state, isFewer, counted => by
      cases stops : source.stops (source.sample (decide (more < minimum)) state) with
      | true =>
          rw [complete_of_stops stops] at counted ⊢
          have moreCounted := not_suppressed_of_stops stops
          have fewerCounted : ¬ fewer < minimum := by
            simpa [Resuppressed, Nat.succ_le_iff] using counted
          have same : source.sample (decide (fewer < minimum)) state =
              source.sample (decide (more < minimum)) state := by
            simp [moreCounted, fewerCounted]
          rw [complete_of_stops (same ▸ stops), same]
      | false =>
          have same := sample_eq_of_fewer isFewer stops
          rw [complete_of_continues stops] at counted ⊢
          rw [complete_of_continues (same ▸ stops), same]
          have later := complete_eq_of_not_resuppressed limit (fewer + 1) (more + 1)
            (source.step state (source.sample (decide (more < minimum)) state))
            (Nat.succ_le_succ isFewer)
            fun suppressed => counted ((resuppressed_cons _ _ _).mpr suppressed)
          dsimp only
          rw [later]

/-- A run for which the stop value is suppressed agrees up to that value and goes
on with another one. -/
theorem complete_of_resuppressed : ∀ (limit fewer more : Nat) (state : σ),
    fewer ≤ more →
    Resuppressed minimum fewer (source.complete minimum limit more state) →
    let stopAt := (source.complete minimum limit more state).1.length - 1
    (source.complete minimum limit fewer state).1.take stopAt =
        (source.complete minimum limit more state).1.take stopAt ∧
      ∃ value, (source.complete minimum limit fewer state).1[stopAt]? = some value ∧
        source.stops value = false
  | 0, _, _, _, _, suppressed => by simp [complete, run, Resuppressed] at suppressed
  | limit + 1, fewer, more, state, isFewer, suppressed => by
      cases stops : source.stops (source.sample (decide (more < minimum)) state) with
      | true =>
          rw [complete_of_stops stops] at suppressed ⊢
          have fewerSuppressed : fewer < minimum := by
            simpa [Resuppressed, Nat.succ_le_iff] using suppressed
          have continues : source.stops
              (source.sample (decide (fewer < minimum)) state) = false := by
            rw [decide_eq_true fewerSuppressed]
            exact sample_suppressed_not_stops state
          rw [complete_of_continues continues]
          exact ⟨by simp, _, by simp, continues⟩
      | false =>
          have same := sample_eq_of_fewer isFewer stops
          rw [complete_of_continues stops] at suppressed ⊢
          rw [complete_of_continues (same ▸ stops), same]
          have laterSuppressed : Resuppressed minimum (fewer + 1)
              (source.complete minimum limit (more + 1)
                (source.step state (source.sample (decide (more < minimum)) state))) :=
            (resuppressed_cons _ _ _).mp suppressed
          rcases complete_stop_value limit (more + 1) _ laterSuppressed.1 with
            ⟨_, last, _⟩
          have nonempty := (List.getElem?_eq_some_iff.mp last).1
          rcases complete_of_resuppressed limit (fewer + 1) (more + 1)
            (source.step state (source.sample (decide (more < minimum)) state))
            (Nat.succ_le_succ isFewer) laterSuppressed with ⟨agrees, value, atStop, goesOn⟩
          dsimp only
          rw [List.length_cons, Nat.add_sub_cancel]
          refine ⟨?_, value, ?_, goesOn⟩
          · rw [← Nat.sub_add_cancel (Nat.zero_lt_of_lt nonempty), List.take_succ_cons,
              List.take_succ_cons, agrees]
          · rw [List.getElem?_cons, if_neg (by omega)]
            exact atStop

end StopSource

end Vime.Foundation
