import Mathlib.Data.List.Basic
import Mathlib.Data.List.Forall2

/-! # Fallible loops that do not fail

Rules turning a loop in the exception monad into the pure loop it computes, as
long as an invariant keeps every iteration from raising.
-/

namespace Vime.Foundation

@[simp] theorem pure_eq_ok {ε : Type u} {α : Type v} (value : α) :
    (pure value : Except ε α) = .ok value := rfl

@[simp] theorem ok_bind {ε : Type u} {α β : Type v} (value : α)
    (next : α → Except ε β) : (Except.ok value >>= next) = next value := rfl

@[simp] theorem error_bind {ε : Type u} {α β : Type v} (failure : ε)
    (next : α → Except ε β) : (Except.error failure >>= next) = .error failure := rfl

theorem bind_eq_ok {ε : Type u} {α β : Type v} {attempt : Except ε α}
    {next : α → Except ε β} {result : β} :
    (attempt >>= next) = .ok result ↔
      ∃ value, attempt = .ok value ∧ next value = .ok result := by
  cases attempt with
  | error failure => simp
  | ok value => simp

theorem check_bind_eq_ok {ε : Type u} {β : Type} {check : Except ε Unit}
    {next : Unit → Except ε β} {result : β} :
    (check >>= next) = .ok result ↔ check = .ok () ∧ next () = .ok result := by
  cases check with
  | error failure => simp
  | ok value => simp

theorem map_eq_ok {ε : Type u} {α β : Type v} {attempt : Except ε α} {transform : α → β}
    {result : β} :
    attempt.map transform = .ok result ↔
      ∃ value, attempt = .ok value ∧ transform value = result := by
  cases attempt with
  | error failure => simp [Except.map]
  | ok value => simp [Except.map]

@[simp] theorem mapError_eq_ok {ε : Type u} {δ : Type v} {α : Type w} {transform : ε → δ}
    {attempt : Except ε α} {value : α} :
    attempt.mapError transform = .ok value ↔ attempt = .ok value := by
  cases attempt with
  | error failure => simp [Except.mapError]
  | ok result => simp [Except.mapError]

theorem foldlM_eq_ok_foldl {ε : Type u} {σ α : Type v}
    (attempt : σ → α → Except ε σ) (step : σ → α → σ) (invariant : σ → Prop)
    (items : List α)
    (succeeds : ∀ item ∈ items, ∀ state, invariant state →
      attempt state item = .ok (step state item) ∧ invariant (step state item)) :
    ∀ (state : σ), invariant state →
      items.foldlM attempt state = .ok (items.foldl step state) ∧
        invariant (items.foldl step state) := by
  induction items with
  | nil => exact fun state initial => ⟨rfl, initial⟩
  | cons item rest induction =>
      intro state initial
      have first := succeeds item (by simp) state initial
      have later := induction
        (fun other member => succeeds other (List.mem_cons_of_mem _ member)) _ first.2
      rw [List.foldlM_cons, first.1, List.foldl_cons]
      exact later

theorem mapM_eq_ok_map {ε : Type u} {α β : Type v} (attempt : α → Except ε β)
    (transform : α → β) (items : List α)
    (succeeds : ∀ item ∈ items, attempt item = .ok (transform item)) :
    items.mapM attempt = .ok (items.map transform) := by
  induction items with
  | nil => rfl
  | cons item rest induction =>
      rw [List.mapM_cons, succeeds item (by simp),
        induction fun other member => succeeds other (List.mem_cons_of_mem _ member)]
      rfl

theorem forM_eq_ok {ε : Type u} {α : Type v} (attempt : α → Except ε PUnit) :
    ∀ items : List α, items.forM attempt = .ok () ↔ ∀ item ∈ items, attempt item = .ok ()
  | [] => by simp [List.forM]
  | item :: rest => by
      rw [List.forM, bind_eq_ok, List.forall_mem_cons]
      have later := forM_eq_ok attempt rest
      constructor
      · rintro ⟨_, first, succeeds⟩
        exact ⟨first, later.mp succeeds⟩
      · intro succeeds
        exact ⟨_, succeeds.1, later.mpr succeeds.2⟩

theorem mapM_eq_ok {ε : Type u} {α β : Type v} (attempt : α → Except ε β) :
    ∀ (items : List α) (results : List β), items.mapM attempt = .ok results ↔
      List.Forall₂ (fun item result => attempt item = .ok result) items results
  | [], results => by
      rw [List.mapM_nil, pure_eq_ok, Except.ok.injEq, List.forall₂_nil_left_iff]
      exact eq_comm
  | item :: rest, results => by
      rw [List.mapM_cons, bind_eq_ok, List.forall₂_cons_left_iff]
      constructor
      · rintro ⟨first, firstEq, more⟩
        rcases bind_eq_ok.mp more with ⟨later, laterEq, returned⟩
        refine ⟨first, later, firstEq, (mapM_eq_ok attempt rest later).mp laterEq, ?_⟩
        exact (Except.ok.inj returned).symm
      · rintro ⟨first, later, firstEq, laterEq, rfl⟩
        rw [← mapM_eq_ok attempt rest later] at laterEq
        exact ⟨first, firstEq, bind_eq_ok.mpr ⟨later, laterEq, rfl⟩⟩

theorem mapM_eq_ok_mem {ε : Type u} {α β : Type v} {attempt : α → Except ε β} :
    ∀ {items : List α} {results : List β}, items.mapM attempt = .ok results →
      ∀ item ∈ items, ∃ result, attempt item = .ok result
  | [], _, _, _, member => nomatch member
  | first :: rest, results, returned, item, member => by
      rw [List.mapM_cons] at returned
      rcases bind_eq_ok.mp returned with ⟨result, firstEq, more⟩
      rcases bind_eq_ok.mp more with ⟨_, restEq, _⟩
      rcases List.mem_cons.mp member with same | later
      · exact ⟨result, same ▸ firstEq⟩
      · exact mapM_eq_ok_mem restEq item later

theorem mapM_congr {ε : Type u} {α β : Type v} {attempt other : α → Except ε β} :
    ∀ {items : List α}, (∀ item ∈ items, attempt item = other item) →
      items.mapM attempt = items.mapM other
  | [], _ => rfl
  | item :: rest, same => by
      rw [List.mapM_cons, List.mapM_cons, same item (by simp),
        mapM_congr fun later member => same later (List.mem_cons_of_mem _ member)]

/-- A fallible map whose results are known returns exactly if every item succeeds. -/
theorem mapM_eq_ok_map_iff {ε : Type u} {α β : Type v} {attempt : α → Except ε β}
    {transform : α → β} {succeeds : α → Prop}
    (decides : ∀ item result, attempt item = .ok result ↔
      succeeds item ∧ result = transform item) {items : List α} {results : List β} :
    items.mapM attempt = .ok results ↔
      (∀ item ∈ items, succeeds item) ∧ results = items.map transform := by
  constructor
  · intro returned
    have each : ∀ item ∈ items, attempt item = .ok (transform item) := by
      intro item member
      rcases mapM_eq_ok_mem returned item member with ⟨result, resultEq⟩
      rw [resultEq, ((decides item result).mp resultEq).2]
    refine ⟨fun item member => ((decides item _).mp (each item member)).1, ?_⟩
    rw [mapM_eq_ok_map attempt transform items each] at returned
    exact (Except.ok.inj returned).symm
  · rintro ⟨all, rfl⟩
    exact mapM_eq_ok_map attempt transform items
      fun item member => (decides item _).mpr ⟨all item member, rfl⟩

theorem mapM_map_eq_ok {ε : Type u} {α β γ : Type v} (attempt : β → Except ε γ)
    (image : α → β) (transform : α → γ) (items : List α)
    (succeeds : ∀ item ∈ items, attempt (image item) = .ok (transform item)) :
    (items.map image).mapM attempt = .ok (items.map transform) := by
  rw [mapM_eq_ok, List.forall₂_map_left_iff, List.forall₂_map_right_iff, List.forall₂_same]
  exact succeeds

theorem mapM_exists_map {ε : Type u} {α β : Type v} {γ : Type w} (attempt : α → Except ε β)
    (read : β → γ) (target : α → γ) :
    ∀ (items : List α),
      (∀ item ∈ items, ∃ result, attempt item = .ok result ∧ read result = target item) →
      ∃ results, items.mapM attempt = .ok results ∧ results.map read = items.map target
  | [], _ => ⟨[], rfl, rfl⟩
  | item :: rest, succeeds => by
      rcases succeeds item List.mem_cons_self with ⟨first, firstEq, isFirst⟩
      rcases mapM_exists_map attempt read target rest
        fun other member => succeeds other (List.mem_cons_of_mem _ member) with
        ⟨later, laterEq, isLater⟩
      refine ⟨first :: later, ?_, ?_⟩
      · rw [List.mapM_cons, firstEq, ok_bind, laterEq, ok_bind, pure_eq_ok]
      · rw [List.map_cons, List.map_cons, isFirst, isLater]

theorem mapM_exists_forall {ε : Type u} {α β : Type v} (attempt : α → Except ε β)
    (kind : β → Prop) :
    ∀ (items : List α), (∀ item ∈ items, ∃ result, attempt item = .ok result ∧ kind result) →
      ∃ results, items.mapM attempt = .ok results ∧ results.length = items.length ∧
        ∀ result ∈ results, kind result
  | [], _ => ⟨[], rfl, rfl, nofun⟩
  | item :: rest, succeeds => by
      rcases succeeds item List.mem_cons_self with ⟨first, firstEq, isKind⟩
      rcases mapM_exists_forall attempt kind rest
        fun other member => succeeds other (List.mem_cons_of_mem _ member) with
        ⟨later, laterEq, sameLength, areKind⟩
      refine ⟨first :: later, ?_, ?_, List.forall_mem_cons.mpr ⟨isKind, areKind⟩⟩
      · rw [List.mapM_cons, firstEq, ok_bind, laterEq, ok_bind, pure_eq_ok]
      · rw [List.length_cons, List.length_cons, sameLength]

/-- Where the success of a step does not depend on the state, all steps have to succeed. -/
theorem foldlM_isOk_iff {ε : Type u} {σ α : Type v} {step : σ → α → Except ε σ}
    {succeeds : α → Prop}
    (decides : ∀ state item, (∃ next, step state item = .ok next) ↔ succeeds item) :
    ∀ (items : List α) (state : σ),
      (∃ final, items.foldlM step state = .ok final) ↔ ∀ item ∈ items, succeeds item
  | [], state => ⟨fun _ => nofun, fun _ => ⟨state, rfl⟩⟩
  | item :: rest, state => by
      rw [List.forall_mem_cons, ← decides state item]
      constructor
      · rintro ⟨final, ran⟩
        rw [List.foldlM_cons] at ran
        rcases bind_eq_ok.mp ran with ⟨next, stepped, later⟩
        exact ⟨⟨next, stepped⟩, (foldlM_isOk_iff decides rest next).mp ⟨final, later⟩⟩
      · rintro ⟨⟨next, stepped⟩, others⟩
        rcases (foldlM_isOk_iff decides rest next).mpr others with ⟨final, later⟩
        exact ⟨final, by rw [List.foldlM_cons, stepped, ok_bind, later]⟩

theorem foldlM_failure {ε : Type u} {σ α : Type v} {step : σ → α → Except ε σ} {failure : ε} :
    ∀ {items : List α} {state : σ}, items.foldlM step state = .error failure →
      ∃ item ∈ items, ∃ reached, step reached item = .error failure
  | [], state, failed => nomatch failed
  | item :: rest, state, failed => by
      rw [List.foldlM_cons] at failed
      cases stepped : step state item with
      | error own =>
          rw [stepped] at failed
          exact ⟨item, List.mem_cons_self, state, stepped.trans failed⟩
      | ok next =>
          rw [stepped, ok_bind] at failed
          rcases foldlM_failure failed with ⟨other, member, reached, failedThere⟩
          exact ⟨other, List.mem_cons_of_mem _ member, reached, failedThere⟩

theorem mapM_failure {ε : Type u} {α β : Type v} {attempt : α → Except ε β} {failure : ε} :
    ∀ {items : List α}, items.mapM attempt = .error failure →
      ∃ item ∈ items, attempt item = .error failure
  | [], failed => nomatch failed
  | item :: rest, failed => by
      rw [List.mapM_cons] at failed
      cases first : attempt item with
      | error other =>
          rw [first] at failed
          rw [error_bind, Except.error.injEq] at failed
          exact ⟨item, List.mem_cons_self, first.trans (congrArg Except.error failed)⟩
      | ok value =>
          rw [first, ok_bind] at failed
          cases later : rest.mapM attempt with
          | error other =>
              rw [later, error_bind, Except.error.injEq] at failed
              rcases mapM_failure (later.trans (congrArg Except.error failed)) with
                ⟨other, member, raised⟩
              exact ⟨other, List.mem_cons_of_mem _ member, raised⟩
          | ok values =>
              rw [later] at failed
              cases failed

/-- What follows a call and does not fail can wait until all calls are made. -/
theorem mapM_bind_eq {ε : Type u} {α β γ : Type v} (attempt : α → Except ε β)
    (next : α → β → Except ε γ) (finish : α → β → γ) :
    ∀ (items : List α),
      (∀ item ∈ items, ∀ result, attempt item = .ok result →
        next item result = .ok (finish item result)) →
      (items.mapM fun item => attempt item >>= next item) =
        (items.mapM attempt).map fun results => List.zipWith finish items results
  | [], _ => rfl
  | item :: rest, succeeds => by
      have later := mapM_bind_eq attempt next finish rest
        fun other member => succeeds other (List.mem_cons_of_mem _ member)
      rw [List.mapM_cons, List.mapM_cons, later]
      cases firstEq : attempt item with
      | error failure => rfl
      | ok result =>
          rw [ok_bind, succeeds item List.mem_cons_self result firstEq]
          cases rest.mapM attempt with
          | error failure => rfl
          | ok results => rfl

theorem foldl_invariant {σ : Type u} {α : Type v} (step : σ → α → σ)
    (invariant : σ → Prop) (items : List α)
    (preserved : ∀ item ∈ items, ∀ state, invariant state → invariant (step state item)) :
    ∀ (state : σ), invariant state → invariant (items.foldl step state) := by
  induction items with
  | nil => exact fun state initial => initial
  | cons item rest induction =>
      intro state initial
      exact induction
        (fun other member => preserved other (List.mem_cons_of_mem _ member))
        _ (preserved item (by simp) state initial)

end Vime.Foundation
