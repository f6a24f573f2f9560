import Vime.Foundation.Grouping

/-! # Dicts in insertion order

A dict as the list of its items: a new key goes to the end, a key that is there keeps its place.
-/

namespace Vime.Foundation

section Dicts

variable {κ : Type u} {α : Type v} [DecidableEq κ]

def setItem (key : κ) (value : α) : List (κ × α) → List (κ × α)
  | [] => [(key, value)]
  | (other, old) :: rest =>
      if other = key then (other, value) :: rest else (other, old) :: setItem key value rest

theorem lookup_setItem (key : κ) (value : α) (table : List (κ × α)) (other : κ) :
    (setItem key value table).lookup other =
      if other = key then some value else table.lookup other := by
  induction table with
  | nil =>
      rw [setItem, List.lookup_cons]
      by_cases same : other = key
      · simp [same]
      · simp [same, beq_eq_false_iff_ne.mpr same]
  | cons first rest induction =>
      rcases first with ⟨held, old⟩
      rw [setItem]
      by_cases isHeld : held = key
      · rw [if_pos isHeld, List.lookup_cons, List.lookup_cons, isHeld]
        by_cases same : other = key
        · simp [same]
        · simp [same, beq_eq_false_iff_ne.mpr same]
      · rw [if_neg isHeld, List.lookup_cons, List.lookup_cons, induction]
        by_cases here : other = held
        · simp [here, isHeld]
        · simp [beq_eq_false_iff_ne.mpr here]

theorem mem_keys_setItem {key other : κ} {value : α} {table : List (κ × α)} :
    other ∈ (setItem key value table).map Prod.fst ↔
      other = key ∨ other ∈ table.map Prod.fst := by
  induction table with
  | nil => simp [setItem]
  | cons first rest induction =>
      rcases first with ⟨held, old⟩
      rw [setItem]
      by_cases isHeld : held = key
      · rw [if_pos isHeld]
        simp [isHeld]
      · rw [if_neg isHeld, List.map_cons, List.map_cons, List.mem_cons, List.mem_cons, induction]
        exact or_left_comm

theorem nodup_keys_setItem (key : κ) (value : α) {table : List (κ × α)}
    (distinct : (table.map Prod.fst).Nodup) : ((setItem key value table).map Prod.fst).Nodup := by
  induction table with
  | nil => exact List.nodup_singleton key
  | cons first rest induction =>
      rcases first with ⟨held, old⟩
      rw [List.map_cons, List.nodup_cons] at distinct
      rw [setItem]
      by_cases isHeld : held = key
      · rw [if_pos isHeld]
        exact List.nodup_cons.mpr distinct
      · rw [if_neg isHeld, List.map_cons, List.nodup_cons, mem_keys_setItem]
        refine ⟨fun inRest => ?_, induction distinct.2⟩
        rcases inRest with same | member
        · exact isHeld same
        · exact distinct.1 member

theorem setItem_fresh {key : κ} (value : α) {table : List (κ × α)}
    (fresh : key ∉ table.map Prod.fst) : setItem key value table = table ++ [(key, value)] := by
  induction table with
  | nil => rfl
  | cons first rest induction =>
      rw [List.map_cons, List.mem_cons, not_or] at fresh
      rw [setItem, if_neg fun same => fresh.1 same.symm, induction fresh.2, List.cons_append]

theorem lookup_eq_some_iff {table : List (κ × α)} (distinct : (table.map Prod.fst).Nodup)
    {key : κ} {value : α} : table.lookup key = some value ↔ (key, value) ∈ table :=
  ⟨mem_of_lookup, lookup_of_mem distinct⟩

theorem lookup_eq_none_iff {table : List (κ × α)} {key : κ} :
    table.lookup key = none ↔ key ∉ table.map Prod.fst := by
  induction table with
  | nil => simp
  | cons first rest induction =>
      rcases first with ⟨held, value⟩
      rw [List.lookup_cons, List.map_cons, List.mem_cons, not_or, ← induction]
      by_cases same : key = held
      · simp [same]
      · simp [same, beq_eq_false_iff_ne.mpr same]

theorem lookup_foldl_items {β : Type w} {merge : List (κ × α) → κ × β → List (κ × α)}
    (combine : Option α → β → Option α)
    (merges : ∀ table item key, (merge table item).lookup key =
      if key = item.1 then combine (table.lookup key) item.2 else table.lookup key)
    {items : List (κ × β)} (distinct : (items.map Prod.fst).Nodup) (table : List (κ × α))
    (key : κ) :
    (items.foldl merge table).lookup key =
      match items.lookup key with
      | some value => combine (table.lookup key) value
      | none => table.lookup key := by
  induction items generalizing table with
  | nil => rfl
  | cons item rest induction =>
      rcases item with ⟨other, value⟩
      rw [List.map_cons, List.nodup_cons] at distinct
      rw [List.foldl_cons, induction distinct.2, merges, List.lookup_cons]
      dsimp only
      by_cases same : key = other
      · have notLater : rest.lookup key = none := by
          rw [lookup_eq_none_iff, same]
          exact distinct.1
        rw [notLater, if_pos same, same]
        simp
      · rw [if_neg same, beq_eq_false_iff_ne.mpr same]

end Dicts

end Vime.Foundation
