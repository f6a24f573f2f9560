import Mathlib.Data.List.Basic

/-! # Occurrences of a pattern in a text

The leftmost occurrence from a position on, and the placement of a sequence of
patterns one after the other. Placing each pattern leftmost succeeds whenever
some placement exists.
-/

namespace Vime.Foundation

variable {α : Type u} {β : Type v}

/-- The pattern stands in the text at `position`. -/
def OccursAt (text pattern : List α) (position : Nat) : Prop :=
  (text.drop position).take pattern.length = pattern

instance [DecidableEq α] (text pattern : List α) (position : Nat) :
    Decidable (OccursAt text pattern position) :=
  inferInstanceAs (Decidable (_ = _))

theorem OccursAt.end_le {text pattern : List α} {position : Nat}
    (occurs : OccursAt text pattern position) (nonempty : pattern ≠ []) :
    position + pattern.length ≤ text.length := by
  have length := congrArg List.length occurs
  rw [List.length_take, List.length_drop] at length
  have positive := List.length_pos_iff.mpr nonempty
  omega

theorem OccursAt.getElem? {text pattern : List α} {position : Nat}
    (occurs : OccursAt text pattern position) {index : Nat} (inside : index < pattern.length) :
    text[position + index]? = pattern[index]? := by
  have read := congrArg (fun entries : List α => entries[index]?) occurs
  rw [List.getElem?_take_of_lt inside, List.getElem?_drop] at read
  exact read

theorem occursAt_middle {before middle after pattern : List α} {position : Nat}
    (fits : position + pattern.length ≤ middle.length) :
    OccursAt (before ++ middle ++ after) pattern (before.length + position) ↔
      OccursAt middle pattern position := by
  rw [OccursAt, OccursAt, List.append_assoc, List.drop_append, List.drop_of_length_le (by omega),
    List.nil_append, Nat.add_sub_cancel_left, List.drop_append_of_le_length (by omega),
    List.take_append_of_le_length (by rw [List.length_drop]; omega)]

/-- The pattern opens with an entry that it does not repeat. -/
def OpensOnce (opening : α) (pattern : List α) : Prop :=
  pattern.head? = some opening ∧ opening ∉ pattern.tail

theorem OccursAt.apart {opening : α} {text left right : List α} {first second : Nat}
    (occursLeft : OccursAt text left first) (once : OpensOnce opening left)
    (occursRight : OccursAt text right second) (opens : right.head? = some opening)
    (before : first < second) : first + left.length ≤ second := by
  by_contra overlaps
  have nonempty : 0 < right.length := by
    cases right with
    | nil => cases opens
    | cons => exact Nat.succ_pos _
  have ofRight := occursRight.getElem? nonempty
  have inLeft : second - first < left.length := by omega
  have ofLeft := occursLeft.getElem? inLeft
  rw [show first + (second - first) = second by omega] at ofLeft
  rw [Nat.add_zero, ← List.head?_eq_getElem?, opens, ofLeft] at ofRight
  apply once.2
  apply List.mem_of_getElem? (i := second - first - 1)
  rw [List.getElem?_tail, show second - first - 1 + 1 = second - first by omega]
  exact ofRight

/-- The first occurrence at or after `start`. -/
def firstOccurrence [DecidableEq α] (text pattern : List α) (start : Nat) : Option Nat :=
  (List.range' start (text.length + 1 - pattern.length - start)).find? fun position =>
    decide (OccursAt text pattern position)

section First

variable [DecidableEq α] {text pattern : List α}

theorem firstOccurrence_eq_some (nonempty : pattern ≠ []) {start position : Nat} :
    firstOccurrence text pattern start = some position ↔
      start ≤ position ∧ OccursAt text pattern position ∧
        ∀ earlier, start ≤ earlier → OccursAt text pattern earlier → position ≤ earlier := by
  rw [firstOccurrence, List.find?_range'_eq_some]
  simp only [decide_eq_true_eq, Bool.not_eq_eq_eq_not, Bool.not_true, decide_eq_false_iff_not,
    List.mem_range'_1]
  constructor
  · rintro ⟨occurs, inside, least⟩
    refine ⟨inside.1, occurs, ?_⟩
    intro earlier after stands
    by_contra before
    exact least earlier after (by omega) stands
  · rintro ⟨after, occurs, least⟩
    have inside := occurs.end_le nonempty
    refine ⟨occurs, ⟨after, by omega⟩, ?_⟩
    intro earlier afterStart before stands
    have notEarlier := least earlier afterStart stands
    omega

theorem firstOccurrence_eq_none (nonempty : pattern ≠ []) {start : Nat} :
    firstOccurrence text pattern start = none ↔
      ∀ position, start ≤ position → ¬ OccursAt text pattern position := by
  rw [firstOccurrence, List.find?_range'_eq_none]
  simp only [Bool.not_eq_eq_eq_not, Bool.not_true, decide_eq_false_iff_not]
  constructor
  · intro absent position after stands
    have inside := stands.end_le nonempty
    exact absent position after (by omega) stands
  · exact fun absent position after _ => absent position after

theorem firstOccurrence_le (nonempty : pattern ≠ []) {start position : Nat}
    (after : start ≤ position) (occurs : OccursAt text pattern position) :
    ∃ first, firstOccurrence text pattern start = some first ∧ first ≤ position := by
  cases found : firstOccurrence text pattern start with
  | none => exact absurd occurs ((firstOccurrence_eq_none nonempty).mp found position after)
  | some first =>
      exact ⟨first, rfl, ((firstOccurrence_eq_some nonempty).mp found).2.2 position after occurs⟩

end First

/-! ## Sequences of patterns -/

def PlacedFrom (text : List α) : Nat → List (List α) → List Nat → Prop
  | _, [], [] => True
  | start, pattern :: patterns, position :: positions =>
      start ≤ position ∧ OccursAt text pattern position ∧
        PlacedFrom text (position + pattern.length) patterns positions
  | _, _, _ => False

theorem PlacedFrom.mono {text : List α} {start earlier : Nat} (before : earlier ≤ start) :
    ∀ {patterns : List (List α)} {positions : List Nat},
      PlacedFrom text start patterns positions → PlacedFrom text earlier patterns positions
  | [], [], _ => trivial
  | _ :: _, _ :: _, ⟨after, occurs, later⟩ => ⟨Nat.le_trans before after, occurs, later⟩
  | [], _ :: _, placed => placed.elim
  | _ :: _, [], placed => placed.elim

theorem PlacedFrom.pairwise {text : List α} (pattern : β → List α) :
    ∀ {items : List β} {start : Nat} {positions : List Nat},
      PlacedFrom text start (items.map pattern) positions →
      items.length = positions.length ∧
        (∀ place ∈ items.zip positions,
          start ≤ place.2 ∧ OccursAt text (pattern place.1) place.2) ∧
        (items.zip positions).Pairwise fun left right =>
          left.2 + (pattern left.1).length ≤ right.2
  | [], _, [], _ => ⟨rfl, nofun, .nil⟩
  | [], _, _ :: _, placed => placed.elim
  | _ :: _, _, [], placed => placed.elim
  | item :: items, start, position :: positions, ⟨after, occurs, later⟩ => by
      rcases later.pairwise pattern with ⟨sameLength, stand, ordered⟩
      rw [List.zip_cons_cons, List.forall_mem_cons, List.pairwise_cons]
      refine ⟨congrArg (· + 1) sameLength, ⟨⟨after, occurs⟩, ?_⟩, ?_, ordered⟩
      · intro place member
        have placed := stand place member
        exact ⟨by omega, placed.2⟩
      · exact fun place member => (stand place member).1

theorem PlacedFrom.of_pairwise {text : List α} (pattern : β → List α) (place : β → Nat) :
    ∀ {items : List β} {start : Nat},
      (∀ item ∈ items, start ≤ place item ∧ OccursAt text (pattern item) (place item)) →
      (items.Pairwise fun left right => place left + (pattern left).length ≤ place right) →
      PlacedFrom text start (items.map pattern) (items.map place)
  | [], _, _, _ => trivial
  | item :: items, start, stand, ordered => by
      rw [List.forall_mem_cons] at stand
      rw [List.pairwise_cons] at ordered
      refine ⟨stand.1.1, stand.1.2, PlacedFrom.of_pairwise pattern place ?_ ordered.2⟩
      intro other member
      exact ⟨ordered.1 other member, (stand.2 other member).2⟩

def leftmostPlaces [DecidableEq α] (text : List α) : Nat → List (List α) → Option (List Nat)
  | _, [] => some []
  | start, pattern :: patterns =>
      (firstOccurrence text pattern start).bind fun position =>
        (leftmostPlaces text (position + pattern.length) patterns).map (position :: ·)

section Leftmost

variable [DecidableEq α] {text : List α}

theorem leftmostPlaces_placed :
    ∀ {patterns : List (List α)} {start : Nat} {positions : List Nat},
      (∀ pattern ∈ patterns, pattern ≠ []) →
      leftmostPlaces text start patterns = some positions →
      PlacedFrom text start patterns positions
  | [], start, positions, _, placed => by
      rw [leftmostPlaces, Option.some.injEq] at placed
      subst placed
      trivial
  | pattern :: patterns, start, positions, nonempty, placed => by
      rw [List.forall_mem_cons] at nonempty
      rw [leftmostPlaces, Option.bind_eq_some_iff] at placed
      rcases placed with ⟨position, found, later⟩
      rw [Option.map_eq_some_iff] at later
      rcases later with ⟨rest, restEq, rfl⟩
      rcases (firstOccurrence_eq_some nonempty.1).mp found with ⟨after, occurs, _⟩
      exact ⟨after, occurs, leftmostPlaces_placed nonempty.2 restEq⟩

theorem leftmostPlaces_complete :
    ∀ {patterns : List (List α)} {start : Nat} {positions : List Nat},
      (∀ pattern ∈ patterns, pattern ≠ []) → PlacedFrom text start patterns positions →
      ∃ places, leftmostPlaces text start patterns = some places
  | [], start, _, _, _ => ⟨[], rfl⟩
  | _ :: _, _, [], _, placed => placed.elim
  | pattern :: patterns, start, position :: positions, nonempty, ⟨after, occurs, later⟩ => by
      rw [List.forall_mem_cons] at nonempty
      rcases firstOccurrence_le nonempty.1 after occurs with ⟨first, found, notLater⟩
      have moved : PlacedFrom text (first + pattern.length) patterns positions :=
        later.mono (Nat.add_le_add_right notLater _)
      rcases leftmostPlaces_complete nonempty.2 moved with ⟨places, placesEq⟩
      refine ⟨first :: places, ?_⟩
      rw [leftmostPlaces, found, Option.bind_some, placesEq, Option.map_some]

end Leftmost

end Vime.Foundation
