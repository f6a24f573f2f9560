import Mathlib.Data.List.Count
import Mathlib.Data.List.Perm.Basic

/-! # Holdings

What the entries of a list hold together, as entries change, leave and are picked.
-/

namespace Vime.Foundation

section Holdings

variable {α : Type u} {β : Type v} [DecidableEq β] (holds : α → List β)
variable {entries : List α} {index : Nat} {old new : α}

theorem count_holdings_set (found : entries[index]? = some old) (item : β) :
    ((entries.set index new).flatMap holds).count item + (holds old).count item =
      (entries.flatMap holds).count item + (holds new).count item := by
  induction entries generalizing index with
  | nil => cases found
  | cons first rest induction =>
      cases index with
      | zero =>
          rw [List.getElem?_cons_zero, Option.some.injEq] at found
          rw [List.set_cons_zero, List.flatMap_cons, List.flatMap_cons, List.count_append,
            List.count_append, found]
          omega
      | succ index =>
          rw [List.getElem?_cons_succ] at found
          have later := induction found
          rw [List.set_cons_succ, List.flatMap_cons, List.flatMap_cons, List.count_append,
            List.count_append]
          omega

theorem count_holdings_eraseIdx (found : entries[index]? = some old) (item : β) :
    ((entries.eraseIdx index).flatMap holds).count item + (holds old).count item =
      (entries.flatMap holds).count item := by
  rcases List.getElem?_eq_some_iff.mp found with ⟨inside, isOld⟩
  have moved := (List.getElem_cons_eraseIdx_perm inside).flatMap_right holds
  rw [isOld] at moved
  rw [← moved.count_eq, List.flatMap_cons, List.count_append, Nat.add_comm]

omit [DecidableEq β] in
/-- Entries that hold nothing may go. -/
theorem holdings_filter {keeps : α → Bool}
    (empty : ∀ entry ∈ entries, keeps entry = false → holds entry = []) :
    (entries.filter keeps).flatMap holds = entries.flatMap holds := by
  induction entries with
  | nil => rfl
  | cons first rest induction =>
      have later := induction fun entry member => empty entry (List.mem_cons_of_mem _ member)
      rw [List.filter_cons]
      cases keepsFirst : keeps first with
      | true => rw [if_pos rfl, List.flatMap_cons, List.flatMap_cons, later]
      | false =>
          rw [if_neg Bool.false_ne_true, later, List.flatMap_cons,
            empty first List.mem_cons_self keepsFirst, List.nil_append]

omit [DecidableEq β] in
theorem mem_set_of_ne {other : α} (found : entries[index]? = some old)
    (member : other ∈ entries) (differs : other ≠ old) : other ∈ entries.set index new := by
  rcases List.mem_iff_getElem?.mp member with ⟨place, isOther⟩
  have elsewhere : index ≠ place := by
    intro same
    rw [← same, found, Option.some.injEq] at isOther
    exact differs isOther.symm
  apply List.mem_of_getElem? (i := place)
  rw [List.getElem?_set_ne elsewhere, isOther]

end Holdings

end Vime.Foundation
