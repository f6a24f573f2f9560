import Mathlib.Data.List.Forall2

/-! # Lists related item by item -/

namespace Vime.Foundation

variable {α : Type u} {β : Type v} {γ : Type w}

theorem forall_mem_of_forall₂ {relation : α → β → Prop} {kind : β → Prop}
    (holds : ∀ item result, relation item result → kind result) {items : List α}
    {results : List β} (related : List.Forall₂ relation items results) :
    ∀ result ∈ results, kind result := by
  induction related with
  | nil => simp
  | cons first _ induction => exact List.forall_mem_cons.mpr ⟨holds _ _ first, induction⟩

theorem forall₂_comp {first : α → β → Prop} {second : β → γ → Prop}
    {left : List α} {middle : List β} {right : List γ}
    (before : List.Forall₂ first left middle) (after : List.Forall₂ second middle right) :
    List.Forall₂ (fun item result => ∃ between, first item between ∧ second between result)
      left right := by
  induction before generalizing right with
  | nil =>
      cases after
      exact .nil
  | cons here _ induction =>
      rcases List.forall₂_cons_left_iff.mp after with ⟨result, rest, there, later, rfl⟩
      exact .cons ⟨_, here, there⟩ (induction later)

theorem forall₂_exists_map {relation : α → β → Prop} {value : β → γ} :
    ∀ {items : List α} {results : List γ},
      List.Forall₂ (fun item result => ∃ inner, relation item inner ∧ value inner = result)
          items results ↔
        ∃ inners, List.Forall₂ relation items inners ∧ inners.map value = results
  | [], results => by
      rw [List.forall₂_nil_left_iff]
      constructor
      · intro isNil
        exact ⟨[], .nil, isNil.symm⟩
      · rintro ⟨inners, related, rfl⟩
        rw [List.forall₂_nil_left_iff.mp related, List.map_nil]
  | item :: rest, results => by
      rw [List.forall₂_cons_left_iff]
      constructor
      · rintro ⟨_, later, ⟨inner, related, rfl⟩, others, rfl⟩
        rcases forall₂_exists_map.mp others with ⟨inners, laterRelated, rfl⟩
        exact ⟨inner :: inners, .cons related laterRelated, rfl⟩
      · rintro ⟨inners, related, rfl⟩
        rcases List.forall₂_cons_left_iff.mp related with ⟨inner, later, first, others, rfl⟩
        exact ⟨_, _, ⟨inner, first, rfl⟩, forall₂_exists_map.mpr ⟨later, others, rfl⟩, rfl⟩

theorem forall₂_append_left {relation : α → β → Prop} {left right : List α}
    {results : List β} (related : List.Forall₂ relation (left ++ right) results) :
    ∃ first later, List.Forall₂ relation left first ∧ List.Forall₂ relation right later ∧
      first ++ later = results := by
  have first := List.forall₂_take left.length related
  have later := List.forall₂_drop left.length related
  rw [List.take_left] at first
  rw [List.drop_left] at later
  exact ⟨_, _, first, later, List.take_append_drop _ _⟩

theorem forall₂_getElem?_right {relation : α → β → Prop} {items : List α} {results : List β}
    (related : List.Forall₂ relation items results) {index : Nat} {result : β}
    (found : results[index]? = some result) :
    ∃ item, items[index]? = some item ∧ relation item result := by
  induction related generalizing index with
  | nil => cases found
  | cons here _ induction =>
      cases index with
      | zero => exact ⟨_, rfl, Option.some.inj found ▸ here⟩
      | succ index => exact induction found

theorem forall₂_getElem?_left {relation : α → β → Prop} {items : List α} {results : List β}
    (related : List.Forall₂ relation items results) {index : Nat} {item : α}
    (found : items[index]? = some item) :
    ∃ result, results[index]? = some result ∧ relation item result := by
  induction related generalizing index with
  | nil => cases found
  | cons here _ induction =>
      cases index with
      | zero => exact ⟨_, rfl, Option.some.inj found ▸ here⟩
      | succ index => exact induction found

theorem forall₂_mem_right {relation : α → β → Prop} {items : List α} {results : List β}
    (related : List.Forall₂ relation items results) {result : β} (member : result ∈ results) :
    ∃ item ∈ items, relation item result := by
  rcases List.getElem?_of_mem member with ⟨index, found⟩
  rcases forall₂_getElem?_right related found with ⟨item, isItem, holds⟩
  exact ⟨item, List.mem_of_getElem? isItem, holds⟩

/-- Where related pairs are decided by other items, all are related exactly if every item
says so. -/
theorem forall₂_iff_of_zip {relation : α → β → Prop} {holds : γ → Prop} {items : List γ}
    {left : List α} {right : List β} (sameLength : left.length = right.length)
    (decides : List.Forall₂ (fun item pair => relation pair.1 pair.2 ↔ holds item) items
      (left.zip right)) :
    List.Forall₂ relation left right ↔ ∀ item ∈ items, holds item := by
  induction left generalizing right items with
  | nil =>
      cases right with
      | nil =>
          cases decides
          simp
      | cons => cases sameLength
  | cons first left induction =>
      cases right with
      | nil => cases sameLength
      | cons second right =>
          rw [List.zip_cons_cons] at decides
          rcases List.forall₂_cons_right_iff.mp decides with ⟨item, later, here, others, rfl⟩
          rw [List.forall₂_cons, List.forall_mem_cons, here,
            induction (Nat.succ.inj sameLength) others]

end Vime.Foundation
