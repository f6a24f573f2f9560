import Mathlib.Data.List.Basic

/-! # Blocks placed in a sequence

Items that occupy consecutive blocks of positions, with padding between them.
-/

namespace Vime.Foundation

variable {ι : Type u} {β : Type v} {γ : Type w}

section Blocks

variable (first length : ι → Nat)

/-- The blocks follow each other, from position `stop` on. -/
def Placed : Nat → List ι → Prop
  | _, [] => True
  | stop, item :: rest => stop ≤ first item ∧ Placed (first item + length item) rest

def placedEnd : Nat → List ι → Nat
  | stop, [] => stop
  | _, item :: rest => placedEnd (first item + length item) rest

/-- The values of the blocks from position `stop` on, with padding between blocks. -/
def fill (values : ι → List β) (padding : β) : Nat → List ι → List β
  | _, [] => []
  | stop, item :: rest =>
      List.replicate (first item - stop) padding ++ values item ++
        fill values padding (first item + length item) rest

end Blocks

/-- A column of values for `count` positions from `start` on: each block holds the
values of its item as far as it reaches, every other position the padding. -/
structure FillsBlocks (first length : ι → Nat) (values : ι → List β) (padding : β)
    (start count : Nat) (items : List ι) (column : List β) : Prop where
  count_eq : column.length = count
  block : ∀ item ∈ items, ∀ offset < length item, first item + offset < start + count →
    column[first item + offset - start]? = (values item)[offset]?
  between : ∀ position, start ≤ position → position < start + count →
    (∀ item ∈ items, ¬ (first item ≤ position ∧ position < first item + length item)) →
    column[position - start]? = some padding

variable {first length : ι → Nat} {values : ι → List β} {padding : β}

theorem placed_concat {stop : Nat} {items : List ι} {item : ι} :
    Placed first length stop (items ++ [item]) ↔
      Placed first length stop items ∧ placedEnd first length stop items ≤ first item := by
  induction items generalizing stop with
  | nil => simp [Placed, placedEnd]
  | cons other rest induction =>
      rw [List.cons_append, Placed, Placed, placedEnd, induction, and_assoc]

theorem placedEnd_concat {stop : Nat} {items : List ι} {item : ι} :
    placedEnd first length stop (items ++ [item]) = first item + length item := by
  induction items generalizing stop with
  | nil => rfl
  | cons other rest induction => rw [List.cons_append, placedEnd, induction]

theorem Placed.le_first {stop : Nat} {items : List ι} (placed : Placed first length stop items)
    {item : ι} (member : item ∈ items) : stop ≤ first item := by
  induction items generalizing stop with
  | nil => cases member
  | cons other rest induction =>
      have here := placed.1
      rcases List.mem_cons.mp member with rfl | later
      · exact here
      · have behind := induction placed.2 later
        omega

theorem fill_concat {stop : Nat} {items : List ι} {item : ι} :
    fill first length values padding stop (items ++ [item]) =
      fill first length values padding stop items ++
        List.replicate (first item - placedEnd first length stop items) padding ++
        values item := by
  induction items generalizing stop with
  | nil => simp [fill, placedEnd]
  | cons other rest induction =>
      rw [List.cons_append, fill, fill, placedEnd, induction]
      simp only [List.append_assoc]

theorem length_fill {stop : Nat} {items : List ι} (placed : Placed first length stop items)
    (fits : ∀ item ∈ items, (values item).length = length item) :
    stop + (fill first length values padding stop items).length =
      placedEnd first length stop items := by
  induction items generalizing stop with
  | nil => rfl
  | cons item rest induction =>
      rw [List.forall_mem_cons] at fits
      have later := induction placed.2 fits.2
      have here := placed.1
      rw [fill, placedEnd, List.length_append, List.length_append, List.length_replicate,
        fits.1]
      omega

theorem fill_getElem?_block {stop : Nat} {items : List ι}
    (placed : Placed first length stop items)
    (fits : ∀ item ∈ items, (values item).length = length item) {item : ι}
    (member : item ∈ items) {offset : Nat} (inside : offset < length item) :
    (fill first length values padding stop items)[first item + offset - stop]? =
      (values item)[offset]? := by
  induction items generalizing stop with
  | nil => cases member
  | cons other rest induction =>
      rw [List.forall_mem_cons] at fits
      have here := placed.1
      have headLength : (List.replicate (first other - stop) padding ++
          values other).length = first other + length other - stop := by
        rw [List.length_append, List.length_replicate, fits.1]
        omega
      rw [fill]
      rcases List.mem_cons.mp member with rfl | later
      · rw [List.getElem?_append_left (by omega),
          List.getElem?_append_right (by rw [List.length_replicate]; omega),
          List.length_replicate]
        congr 1
        omega
      · have behind := placed.2.le_first later
        have found := induction placed.2 fits.2 later
        rw [List.getElem?_append_right (by omega), headLength, ← found]
        congr 1
        omega

theorem fill_getElem?_between {stop : Nat} {items : List ι}
    (placed : Placed first length stop items)
    (fits : ∀ item ∈ items, (values item).length = length item) {position : Nat}
    (behind : stop ≤ position) (before : position < placedEnd first length stop items)
    (outside : ∀ item ∈ items,
      ¬ (first item ≤ position ∧ position < first item + length item)) :
    (fill first length values padding stop items)[position - stop]? = some padding := by
  induction items generalizing stop with
  | nil =>
      rw [placedEnd] at before
      omega
  | cons item rest induction =>
      rw [List.forall_mem_cons] at fits outside
      have here := placed.1
      have notHere := outside.1
      have headLength : (List.replicate (first item - stop) padding ++
          values item).length = first item + length item - stop := by
        rw [List.length_append, List.length_replicate, fits.1]
        omega
      rw [fill]
      by_cases inGap : position < first item
      · rw [List.append_assoc,
          List.getElem?_append_left (by rw [List.length_replicate]; omega),
          List.getElem?_replicate, if_pos (by omega)]
      · have found := induction placed.2 fits.2 (by omega) before outside.2
        rw [List.getElem?_append_right (by omega), headLength, ← found]
        congr 1
        omega

theorem fillsBlocks_take {start count : Nat} {items : List ι}
    (placed : Placed first length start items)
    (fits : ∀ item ∈ items, (values item).length = length item)
    (inside : start + count ≤ placedEnd first length start items) :
    FillsBlocks first length values padding start count items
      ((fill first length values padding start items).take count) where
  count_eq := by
    have whole : start + (fill first length values padding start items).length = _ :=
      length_fill placed fits
    rw [List.length_take]
    omega
  block := by
    intro item member offset inBlock reached
    have behind := placed.le_first member
    rw [List.getElem?_take, if_pos (by omega), fill_getElem?_block placed fits member inBlock]
  between := by
    intro position behind before outside
    rw [List.getElem?_take, if_pos (by omega),
      fill_getElem?_between placed fits behind (by omega) outside]

end Vime.Foundation
