import Mathlib.Data.List.Basic
import Mathlib.Data.List.Count

/-! # Lists read and written through a mask

Writing the masked values of a list at the masked positions of another one that agrees
with it off the mask rebuilds the list.
-/

namespace Vime.Foundation

/-- Positions of the mask, counted from `start`. -/
def maskPositions : Nat → List Bool → List Nat
  | _, [] => []
  | start, true :: rest => start :: maskPositions (start + 1) rest
  | start, false :: rest => maskPositions (start + 1) rest

def compress {α : Type u} : List α → List Bool → List α
  | value :: values, true :: mask => value :: compress values mask
  | _ :: values, false :: mask => compress values mask
  | _, _ => []

def scatter {α : Type u} (target : List α) (entries : List (Nat × α)) : List α :=
  entries.foldl (fun written entry => written.set entry.1 entry.2) target

theorem length_maskPositions : ∀ (start : Nat) (mask : List Bool),
    (maskPositions start mask).length = mask.count true
  | _, [] => rfl
  | start, true :: rest => by
      rw [maskPositions, List.length_cons, length_maskPositions, List.count_cons_self]
  | start, false :: rest => by
      rw [maskPositions, length_maskPositions, List.count_cons_of_ne (by decide)]

theorem mem_maskPositions {position : Nat} : ∀ {start : Nat} {mask : List Bool},
    position ∈ maskPositions start mask ↔ start ≤ position ∧ mask[position - start]? = some true
  | start, [] => by
      rw [maskPositions, List.getElem?_nil]
      constructor
      · intro member
        cases member
      · rintro ⟨_, found⟩
        cases found
  | start, true :: rest => by
      rw [maskPositions, List.mem_cons, mem_maskPositions]
      by_cases same : position = start
      · rw [same, Nat.sub_self, List.getElem?_cons_zero]
        exact ⟨fun _ => ⟨Nat.le_refl start, rfl⟩, fun _ => Or.inl rfl⟩
      · constructor
        · rintro (isStart | inRest)
          · exact absurd isStart same
          · rw [show position - start = position - (start + 1) + 1 by omega,
              List.getElem?_cons_succ]
            exact ⟨by omega, inRest.2⟩
        · intro found
          rw [show position - start = position - (start + 1) + 1 by omega,
            List.getElem?_cons_succ] at found
          exact Or.inr ⟨by omega, found.2⟩
  | start, false :: rest => by
      rw [maskPositions, mem_maskPositions]
      constructor
      · intro inRest
        rw [show position - start = position - (start + 1) + 1 by omega,
          List.getElem?_cons_succ]
        exact ⟨by omega, inRest.2⟩
      · intro found
        have later : position ≠ start := by
          intro same
          rw [same, Nat.sub_self, List.getElem?_cons_zero] at found
          cases found.2
        rw [show position - start = position - (start + 1) + 1 by omega,
          List.getElem?_cons_succ] at found
        exact ⟨by omega, found.2⟩

theorem length_compress {α : Type u} : ∀ (values : List α) (mask : List Bool),
    values.length = mask.length → (compress values mask).length = mask.count true
  | [], [], _ => rfl
  | value :: values, true :: mask, same => by
      rw [compress, List.length_cons, length_compress values mask (Nat.succ.inj same),
        List.count_cons_self]
  | value :: values, false :: mask, same => by
      rw [compress, length_compress values mask (Nat.succ.inj same),
        List.count_cons_of_ne (by decide)]

@[simp] theorem length_scatter {α : Type u} (entries : List (Nat × α)) :
    ∀ target : List α, (scatter target entries).length = target.length := by
  induction entries with
  | nil => exact fun _ => rfl
  | cons entry rest induction =>
      intro target
      have written : (target.set entry.1 entry.2).length = target.length := List.length_set
      rw [scatter, List.foldl_cons, ← written]
      exact induction _

theorem getElem?_scatter {α : Type u} {position : Nat} :
    ∀ (entries : List (Nat × α)) (target : List α),
      (∀ entry ∈ entries, entry.1 ≠ position) →
        (scatter target entries)[position]? = target[position]?
  | [], _, _ => rfl
  | entry :: rest, target, elsewhere => by
      rw [scatter, List.foldl_cons]
      have later := getElem?_scatter rest (target.set entry.1 entry.2)
        fun other member => elsewhere other (List.mem_cons_of_mem _ member)
      rw [List.getElem?_set_ne (elsewhere entry (by simp))] at later
      exact later

theorem getElem?_scatter_of_mem {α : Type u} {position : Nat} {value : α} :
    ∀ {entries : List (Nat × α)} {target : List α}, (entries.map Prod.fst).Nodup →
      position < target.length → (position, value) ∈ entries →
        (scatter target entries)[position]? = some value
  | entry :: rest, target, distinct, inside, member => by
      rw [List.map_cons, List.nodup_cons] at distinct
      rw [scatter, List.foldl_cons]
      have inWritten : position < (target.set entry.1 entry.2).length := by
        rw [List.length_set]
        exact inside
      rcases List.mem_cons.mp member with rfl | inRest
      · have kept := getElem?_scatter rest (target.set position value) (by
          intro other inRest same
          exact distinct.1 (List.mem_map.mpr ⟨other, inRest, same⟩))
        rw [List.getElem?_set_self inside] at kept
        exact kept
      · exact getElem?_scatter_of_mem distinct.2 inWritten inRest

inductive AgreesOff {α : Type u} : List Bool → List α → List α → Prop
  | nil : AgreesOff [] [] []
  | masked {mask : List Bool} {target source : List α} (old new : α) :
      AgreesOff mask target source → AgreesOff (true :: mask) (old :: target) (new :: source)
  | kept {mask : List Bool} {target source : List α} (value : α) :
      AgreesOff mask target source → AgreesOff (false :: mask) (value :: target) (value :: source)

theorem AgreesOff.refl {α : Type u} : ∀ (mask : List Bool) (source : List α),
    mask.length = source.length → AgreesOff mask source source
  | [], [], _ => .nil
  | true :: mask, value :: source, same =>
      .masked value value (AgreesOff.refl mask source (Nat.succ.inj same))
  | false :: mask, value :: source, same =>
      .kept value (AgreesOff.refl mask source (Nat.succ.inj same))

theorem AgreesOff.differing {α : Type u} [DecidableEq α] : ∀ (target source : List α),
    target.length = source.length →
      AgreesOff (List.zipWith (fun new old => decide (new ≠ old)) source target) target source
  | [], [], _ => .nil
  | old :: target, new :: source, same => by
      have rest := AgreesOff.differing target source (Nat.succ.inj same)
      rw [List.zipWith_cons_cons]
      by_cases changed : new ≠ old
      · rw [decide_eq_true changed]
        exact .masked old new rest
      · rw [decide_eq_false changed, not_not.mp changed]
        exact .kept old rest

theorem scatter_compress {α : Type u} {mask : List Bool} {target source : List α}
    (agrees : AgreesOff mask target source) :
    ∀ written : List α,
      scatter (written ++ target)
          ((maskPositions written.length mask).zip (compress source mask)) =
        written ++ source := by
  induction agrees with
  | nil => exact fun _ => rfl
  | masked old new _ induction =>
      intro written
      have later := induction (written ++ [new])
      rw [List.length_append, List.length_singleton, List.append_assoc, List.append_assoc,
        List.singleton_append, List.singleton_append] at later
      rw [maskPositions, compress, List.zip_cons_cons, scatter, List.foldl_cons,
        List.set_append_right _ _ (Nat.le_refl _), Nat.sub_self, List.set_cons_zero]
      exact later
  | kept value _ induction =>
      intro written
      have later := induction (written ++ [value])
      rw [List.length_append, List.length_singleton, List.append_assoc, List.append_assoc,
        List.singleton_append, List.singleton_append] at later
      rw [maskPositions, compress]
      exact later

end Vime.Foundation
