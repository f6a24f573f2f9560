import Mathlib.Data.List.Induction
import Mathlib.Data.List.Nodup

/-! # Values collected by key

A dict of lists, filled with `table.setdefault(key, []).append(value)` for one entry after the
other: every key that occurs once, with all its values in their order.
-/

namespace Vime.Foundation

section Grouping

variable {κ : Type u} {α : Type v} [DecidableEq κ]

theorem mem_of_lookup {table : List (κ × α)} {key : κ} {value : α}
    (found : table.lookup key = some value) : (key, value) ∈ table := by
  induction table with
  | nil => cases found
  | cons first rest induction =>
      rcases first with ⟨other, entry⟩
      rw [List.lookup_cons] at found
      by_cases same : key = other
      · rw [beq_iff_eq.mpr same] at found
        rw [same, Option.some.inj found]
        exact List.mem_cons_self
      · rw [beq_eq_false_iff_ne.mpr same] at found
        exact List.mem_cons_of_mem _ (induction found)

/-- `table.setdefault(key, []).append(value)`. -/
def appendAt (key : κ) (value : α) : List (κ × List α) → List (κ × List α)
  | [] => [(key, [value])]
  | (other, values) :: rest =>
      if other = key then (other, values ++ [value]) :: rest
      else (other, values) :: appendAt key value rest

def collect (entries : List (κ × α)) : List (κ × List α) :=
  entries.foldl (fun table entry => appendAt entry.1 entry.2 table) []

def valuesAt (key : κ) (entries : List (κ × α)) : List α :=
  (entries.filter fun entry => entry.1 = key).map Prod.snd

theorem collect_concat (entries : List (κ × α)) (entry : κ × α) :
    collect (entries ++ [entry]) = appendAt entry.1 entry.2 (collect entries) := by
  rw [collect, List.foldl_append]
  rfl

theorem valuesAt_concat (key : κ) (entries : List (κ × α)) (entry : κ × α) :
    valuesAt key (entries ++ [entry]) =
      if entry.1 = key then valuesAt key entries ++ [entry.2] else valuesAt key entries := by
  rw [valuesAt, List.filter_append, List.map_append]
  by_cases same : entry.1 = key
  · rw [if_pos same, List.filter_singleton, decide_eq_true same]
    rfl
  · rw [if_neg same, List.filter_singleton, decide_eq_false same]
    exact List.append_nil _

theorem mem_keys_appendAt {key other : κ} {value : α} : ∀ {table : List (κ × List α)},
    other ∈ (appendAt key value table).map Prod.fst ↔ other = key ∨ other ∈ table.map Prod.fst
  | [] => by simp [appendAt]
  | (first, values) :: rest => by
      have later : other ∈ (appendAt key value rest).map Prod.fst ↔
          other = key ∨ other ∈ rest.map Prod.fst := mem_keys_appendAt
      rw [appendAt]
      by_cases same : first = key
      · rw [if_pos same, List.map_cons, List.map_cons, List.mem_cons]
        constructor
        · exact Or.inr
        · rintro (isKey | inTable)
          · exact Or.inl (isKey.trans same.symm)
          · exact inTable
      · rw [if_neg same, List.map_cons, List.map_cons, List.mem_cons, List.mem_cons, later]
        exact or_left_comm

theorem nodup_keys_appendAt (key : κ) (value : α) : ∀ {table : List (κ × List α)},
    (table.map Prod.fst).Nodup → ((appendAt key value table).map Prod.fst).Nodup
  | [], _ => List.nodup_singleton key
  | (first, values) :: rest, nodup => by
      rw [appendAt]
      by_cases same : first = key
      · rw [if_pos same]
        exact nodup
      · rw [if_neg same]
        rw [List.map_cons, List.nodup_cons] at nodup ⊢
        refine ⟨?_, nodup_keys_appendAt key value nodup.2⟩
        rw [mem_keys_appendAt, not_or]
        exact ⟨same, nodup.1⟩

theorem mem_appendAt {key : κ} {value : α} {entry : κ × List α} :
    ∀ {table : List (κ × List α)}, (table.map Prod.fst).Nodup →
      entry ∈ appendAt key value table →
        (entry ∈ table ∧ entry.1 ≠ key) ∨
          (∃ values, (key, values) ∈ table ∧ entry = (key, values ++ [value])) ∨
            (key ∉ table.map Prod.fst ∧ entry = (key, [value]))
  | [], _, member => by
      rw [appendAt, List.mem_singleton] at member
      exact Or.inr (Or.inr ⟨List.not_mem_nil, member⟩)
  | (first, values) :: rest, nodup, member => by
      rw [List.map_cons, List.nodup_cons] at nodup
      rw [appendAt] at member
      by_cases same : first = key
      · rw [if_pos same, List.mem_cons] at member
        rcases member with isFirst | inRest
        · rw [same] at isFirst ⊢
          exact Or.inr (Or.inl ⟨values, List.mem_cons_self, isFirst⟩)
        · refine Or.inl ⟨List.mem_cons_of_mem _ inRest, fun isKey => nodup.1 ?_⟩
          rw [same, ← isKey]
          exact List.mem_map.mpr ⟨entry, inRest, rfl⟩
      · rw [if_neg same, List.mem_cons] at member
        rcases member with isFirst | inRest
        · rw [isFirst]
          exact Or.inl ⟨List.mem_cons_self, same⟩
        · rcases mem_appendAt nodup.2 inRest with ⟨kept, other⟩ | ⟨old, found, isNew⟩ | absent
          · exact Or.inl ⟨List.mem_cons_of_mem _ kept, other⟩
          · exact Or.inr (Or.inl ⟨old, List.mem_cons_of_mem _ found, isNew⟩)
          · refine Or.inr (Or.inr ⟨?_, absent.2⟩)
            rw [List.map_cons, List.mem_cons, not_or]
            exact ⟨Ne.symm same, absent.1⟩

theorem nodup_keys_collect (entries : List (κ × α)) : ((collect entries).map Prod.fst).Nodup := by
  induction entries using List.reverseRecOn with
  | nil => exact List.nodup_nil
  | append_singleton entries entry induction =>
      rw [collect_concat]
      exact nodup_keys_appendAt entry.1 entry.2 induction

theorem mem_keys_collect {key : κ} {entries : List (κ × α)} :
    key ∈ (collect entries).map Prod.fst ↔ key ∈ entries.map Prod.fst := by
  induction entries using List.reverseRecOn with
  | nil => exact Iff.rfl
  | append_singleton entries entry induction =>
      rw [collect_concat, mem_keys_appendAt, induction, List.map_append, List.mem_append, or_comm,
        List.map_singleton, List.mem_singleton]

theorem eq_valuesAt_of_mem {key : κ} {values : List α} {entries : List (κ × α)}
    (member : (key, values) ∈ collect entries) : values = valuesAt key entries := by
  induction entries using List.reverseRecOn generalizing key values with
  | nil => cases member
  | append_singleton entries entry induction =>
      rw [collect_concat] at member
      rw [valuesAt_concat]
      rcases mem_appendAt (nodup_keys_collect entries) member with
        ⟨kept, other⟩ | ⟨old, found, isNew⟩ | ⟨absent, isNew⟩
      · rw [if_neg fun same : entry.1 = key => other same.symm]
        exact induction kept
      · cases isNew
        rw [if_pos rfl, ← induction found]
      · cases isNew
        have noValues : valuesAt entry.1 entries = [] := by
          rw [valuesAt, List.map_eq_nil_iff, List.filter_eq_nil_iff]
          intro earlier inEntries isKey
          rw [mem_keys_collect] at absent
          rw [decide_eq_true_iff] at isKey
          exact absent (isKey ▸ List.mem_map_of_mem inEntries)
        rw [if_pos rfl, noValues, List.nil_append]

theorem mem_valuesAt {key : κ} {value : α} {entries : List (κ × α)} :
    value ∈ valuesAt key entries ↔ (key, value) ∈ entries := by
  rw [valuesAt, List.mem_map]
  constructor
  · rintro ⟨entry, found, rfl⟩
    rw [List.mem_filter, decide_eq_true_iff] at found
    rw [← found.2]
    exact found.1
  · intro member
    exact ⟨(key, value), List.mem_filter.mpr ⟨member, decide_eq_true rfl⟩, rfl⟩

theorem flatMap_appendAt_perm (key : κ) (value : α) : ∀ table : List (κ × List α),
    ((appendAt key value table).flatMap Prod.snd).Perm (table.flatMap Prod.snd ++ [value])
  | [] => List.Perm.refl _
  | (first, values) :: rest => by
      rw [appendAt]
      by_cases same : first = key
      · rw [if_pos same, List.flatMap_cons, List.flatMap_cons, List.append_assoc, List.append_assoc]
        exact List.perm_append_comm.append_left values
      · rw [if_neg same, List.flatMap_cons, List.flatMap_cons, List.append_assoc]
        exact (flatMap_appendAt_perm key value rest).append_left values

theorem flatMap_collect_perm (entries : List (κ × α)) :
    ((collect entries).flatMap Prod.snd).Perm (entries.map Prod.snd) := by
  induction entries using List.reverseRecOn with
  | nil => exact List.Perm.refl _
  | append_singleton entries entry induction =>
      rw [collect_concat, List.map_append]
      exact (flatMap_appendAt_perm entry.1 entry.2 _).trans (induction.append_right _)

theorem lookup_of_mem {table : List (κ × α)} (distinct : (table.map Prod.fst).Nodup) {key : κ}
    {value : α} (member : (key, value) ∈ table) : table.lookup key = some value := by
  induction table with
  | nil => cases member
  | cons first rest induction =>
      rcases first with ⟨other, entry⟩
      rw [List.map_cons, List.nodup_cons] at distinct
      rw [List.lookup_cons]
      rcases List.mem_cons.mp member with isFirst | later
      · cases isFirst
        rw [beq_self_eq_true]
      · have different : key ≠ other := by
          intro same
          exact distinct.1 (List.mem_map.mpr ⟨(key, value), later, same⟩)
        rw [beq_eq_false_iff_ne.mpr different]
        exact induction distinct.2 later

theorem flatMap_lookup_perm {table : List (κ × List α)} (distinct : (table.map Prod.fst).Nodup)
    {keys : List κ} (same : keys.Perm (table.map Prod.fst)) :
    (keys.flatMap fun key => (table.lookup key).getD []).Perm (table.flatMap Prod.snd) := by
  apply (same.flatMap_right _).trans
  rw [List.flatMap_map]
  apply List.Perm.of_eq
  apply List.flatMap_congr
  intro entry member
  rw [lookup_of_mem distinct member]
  rfl

end Grouping

/-! ## Amounts by key -/

section Amounts

variable {κ : Type u} [DecidableEq κ]

def amountAt (key : κ) (table : List (κ × Nat)) : Nat := (table.lookup key).getD 0

/-- `table[key] = table.get(key, 0) + amount`. -/
def addAmount (key : κ) (amount : Nat) : List (κ × Nat) → List (κ × Nat)
  | [] => [(key, amount)]
  | (other, total) :: rest =>
      if other = key then (other, total + amount) :: rest
      else (other, total) :: addAmount key amount rest

theorem amountAt_addAmount (key other : κ) (amount : Nat) (table : List (κ × Nat)) :
    amountAt other (addAmount key amount table) =
      amountAt other table + if other = key then amount else 0 := by
  induction table with
  | nil =>
      by_cases same : other = key
      · simp [amountAt, addAmount, same]
      · simp [amountAt, addAmount, same, List.lookup_cons, beq_eq_false_iff_ne.mpr same]
  | cons first rest induction =>
      rcases first with ⟨held, total⟩
      rw [addAmount]
      rw [amountAt, amountAt] at induction ⊢
      by_cases isHeld : held = key
      · subst isHeld
        rw [if_pos rfl, List.lookup_cons, List.lookup_cons]
        by_cases same : other = held
        · simp [same]
        · simp [same, beq_eq_false_iff_ne.mpr same]
      · rw [if_neg isHeld, List.lookup_cons, List.lookup_cons]
        by_cases same : other = held
        · subst same
          simp [isHeld]
        · simp only [beq_eq_false_iff_ne.mpr same]
          exact induction

theorem amountAt_foldl_addAmount (amount : Nat) {keys : List κ} (distinct : keys.Nodup)
    (other : κ) : ∀ table : List (κ × Nat),
      amountAt other (keys.foldl (fun table key => addAmount key amount table) table) =
        amountAt other table + if other ∈ keys then amount else 0 := by
  induction keys with
  | nil => simp
  | cons key rest induction =>
      intro table
      rw [List.nodup_cons] at distinct
      rw [List.foldl_cons, induction distinct.2, amountAt_addAmount]
      by_cases same : other = key
      · subst same
        simp [distinct.1]
      · simp [same]

end Amounts

end Vime.Foundation
