import Mathlib.Algebra.BigOperators.Group.List.Basic
import Mathlib.Algebra.Group.Nat.Defs
import Mathlib.Algebra.Order.Ring.Nat
import Mathlib.Algebra.Order.Ring.Rat
import Mathlib.Data.List.Basic
import Mathlib.Data.List.Forall2
import Vime.Foundation.Python

/-! # One-dimensional tensors

Assignment to a slice, equal chunks, padding and splitting, and loops over samples that
stand one after the other in a stream. Segments written into a list at ordered places are
each found at their own place.
-/

namespace Vime.Foundation

/-! ## Tensor operations -/

/-- `target[start:stop] = written`; a single entry is broadcast. -/
def assignSlice (target : List α) (start stop : Int) (written : List α) :
    Except PyException (List α) :=
  let low := sliceBound target.length start
  let width := sliceBound target.length stop - low
  let replaced (block : List α) : List α :=
    target.take low ++ block ++ target.drop (low + width)
  if written.length = width then .ok (replaced written)
  else
    match written with
    | [single] => .ok (replaced (List.replicate width single))
    | _ => .error (.runtimeError "The expanded size of the tensor must match the existing size")

/-- `values.chunk(chunks, dim=0)[index]`. -/
def chunkAt (values : List α) (chunks index : Nat) : Except PyException (List α) :=
  let size := (values.length + chunks - 1) / chunks
  if chunks = 0 then .error (.runtimeError "chunk expects `chunks` to be greater than 0")
  else if index * size < values.length ∨ values.length = 0 ∧ index < chunks then
    .ok ((values.take ((index + 1) * size)).drop (index * size))
  else .error .indexError

def fPad (values : List α) (left right : Int) (padValue : α) : List α :=
  let grown := List.replicate left.toNat padValue ++ values.drop (-left).toNat
  grown.take (grown.length - (-right).toNat) ++ List.replicate right.toNat padValue

/-- The entries that bring `length` to a multiple of `unit`. -/
def padCount (unit length : Nat) : Nat := (unit - length % unit) % unit

def takePieces : List Nat → List α → List (List α)
  | [], _ => []
  | size :: sizes, values => values.take size :: takePieces sizes (values.drop size)

/-- `values.split(sizes, dim=0)`. -/
def splitBySizes (sizes : List Nat) (values : List α) : Except PyException (List (List α)) :=
  if sizes.sum = values.length then .ok (takePieces sizes values)
  else .error (.runtimeError
    s!"split_with_sizes expects split_sizes to sum exactly to {values.length} (input tensor's size at dimension 0)")

theorem length_assignSlice {target written result : List α} {start stop : Int}
    (assigned : assignSlice target start stop written = .ok result) :
    result.length = target.length := by
  have startBound := sliceBound_le target.length start
  have stopBound := sliceBound_le target.length stop
  rw [assignSlice.eq_def] at assigned
  dsimp only at assigned
  have sized : ∀ block : List α,
      block.length = sliceBound target.length stop - sliceBound target.length start →
        (target.take (sliceBound target.length start) ++ block ++
          target.drop (sliceBound target.length start +
            (sliceBound target.length stop - sliceBound target.length start))).length =
          target.length := by
    intro block blockLength
    rw [List.length_append, List.length_append, List.length_take, List.length_drop, blockLength]
    omega
  split at assigned
  · rename_i fits
    rw [← Except.ok.inj assigned]
    exact sized written fits
  · split at assigned
    · rw [← Except.ok.inj assigned]
      exact sized _ (List.length_replicate ..)
    · cases assigned

theorem assignSlice_natCast {target written : List α} {start : Nat}
    (fits : start + written.length ≤ target.length) :
    assignSlice target (start : Int) ((start + written.length : Nat) : Int) written =
      .ok (target.take start ++ written ++ target.drop (start + written.length)) := by
  rw [assignSlice.eq_def]
  dsimp only
  rw [sliceBound_natCast, sliceBound_natCast, Nat.min_eq_left fits,
    Nat.min_eq_left (by omega), Nat.add_sub_cancel_left, if_pos rfl]

theorem assignSlice_self (target : List α) (bound : Int) :
    assignSlice target bound bound [] = .ok target := by
  rw [assignSlice.eq_def]
  dsimp only
  rw [Nat.sub_self, if_pos List.length_nil, List.append_nil, Nat.add_zero, List.take_append_drop]

theorem chunkAt_eq {values : List α} {chunks index size : Nat} (isChunk : index < chunks)
    (whole : values.length = chunks * size) :
    chunkAt values chunks index = .ok ((values.take ((index + 1) * size)).drop (index * size)) := by
  have sizeEq : (values.length + chunks - 1) / chunks = size := by
    rw [whole, Nat.div_eq_iff (Nat.zero_lt_of_lt isChunk), Nat.mul_comm]
    omega
  rw [chunkAt, sizeEq, if_neg (Nat.ne_of_gt (Nat.zero_lt_of_lt isChunk)), if_pos]
  rw [whole]
  rcases Nat.eq_zero_or_pos size with none | some
  · exact .inr ⟨by rw [none, Nat.mul_zero], isChunk⟩
  · exact .inl (Nat.mul_lt_mul_of_pos_right isChunk some)

theorem fPad_natCast (values : List α) (left right : Nat) (padValue : α) :
    fPad values (left : Int) (right : Int) padValue =
      List.replicate left padValue ++ values ++ List.replicate right padValue := by
  rw [fPad, Int.toNat_natCast, Int.toNat_natCast, Int.toNat_of_nonpos (by omega),
    Int.toNat_of_nonpos (by omega), List.drop_zero, Nat.sub_zero, List.take_length]

theorem dvd_add_padCount {unit : Nat} (positive : 0 < unit) (length : Nat) :
    unit ∣ length + padCount unit length := by
  have remainder := Nat.mod_lt length positive
  have parts := Nat.div_add_mod length unit
  rw [padCount]
  rcases Nat.eq_zero_or_pos (length % unit) with whole | rest
  · rw [whole, Nat.sub_zero, Nat.mod_self, Nat.add_zero]
    exact Nat.dvd_of_mod_eq_zero whole
  · rw [Nat.mod_eq_of_lt (by omega)]
    refine ⟨length / unit + 1, ?_⟩
    rw [Nat.mul_succ]
    omega

theorem takePieces_flatten (pieces : List (List α)) :
    takePieces (pieces.map List.length) pieces.flatten = pieces := by
  induction pieces with
  | nil => rfl
  | cons piece rest induction =>
      rw [List.map_cons, takePieces, List.flatten_cons, List.take_left, List.drop_left, induction]

theorem splitBySizes_flatten (pieces : List (List α)) :
    splitBySizes (pieces.map List.length) pieces.flatten = .ok pieces := by
  rw [splitBySizes, if_pos List.length_flatten.symm, takePieces_flatten]

/-! ## Segments written one after the other -/

def paint (target : List α) (start : Nat) (block : List α) : List α :=
  target.take start ++ block ++ target.drop (start + block.length)

def paintAll (target : List α) (blocks : List (Nat × List α)) : List α :=
  blocks.foldl (fun painted block => paint painted block.1 block.2) target

theorem paint_nil (target : List α) (start : Nat) : paint target start [] = target := by
  rw [paint, List.append_nil, List.length_nil, Nat.add_zero, List.take_append_drop]

theorem length_paint {target block : List α} {start : Nat}
    (fits : start + block.length ≤ target.length) :
    (paint target start block).length = target.length := by
  rw [paint, List.length_append, List.length_append, List.length_take_of_le (by omega),
    List.length_drop]
  omega

theorem getElem?_paint {target block : List α} {start : Nat}
    (fits : start + block.length ≤ target.length) (row : Nat) :
    (paint target start block)[row]? =
      if start ≤ row ∧ row < start + block.length then block[row - start]? else target[row]? := by
  have front : (target.take start).length = start := List.length_take_of_le (by omega)
  have head : (target.take start ++ block).length = start + block.length := by
    rw [List.length_append, front]
  rw [paint]
  by_cases before : row < start
  · rw [if_neg (by omega), List.getElem?_append_left (by omega),
      List.getElem?_append_left (by omega), List.getElem?_take, if_pos before]
  · by_cases inside : row < start + block.length
    · rw [if_pos ⟨by omega, inside⟩, List.getElem?_append_left (by omega),
        List.getElem?_append_right (by omega), front]
    · rw [if_neg (by omega), List.getElem?_append_right (by omega), head, List.getElem?_drop]
      congr 1
      omega

/-- Every block lies inside the list. -/
def Fits (length : Nat) (blocks : List (Nat × List α)) : Prop :=
  ∀ block ∈ blocks, block.1 + block.2.length ≤ length

def Ordered (blocks : List (Nat × List α)) : Prop :=
  blocks.Pairwise fun earlier later => earlier.1 + earlier.2.length ≤ later.1

theorem length_paintAll {blocks : List (Nat × List α)} :
    ∀ {target : List α}, Fits target.length blocks →
      (paintAll target blocks).length = target.length := by
  induction blocks with
  | nil => exact fun _ => rfl
  | cons block rest induction =>
      intro target fits
      have painted := length_paint (fits block List.mem_cons_self)
      rw [paintAll, List.foldl_cons, ← painted]
      apply induction
      intro other member
      rw [painted]
      exact fits other (List.mem_cons_of_mem _ member)

theorem getElem?_paintAll_outside {row : Nat} {blocks : List (Nat × List α)} :
    ∀ {target : List α}, Fits target.length blocks →
      (∀ block ∈ blocks, ¬ (block.1 ≤ row ∧ row < block.1 + block.2.length)) →
        (paintAll target blocks)[row]? = target[row]? := by
  induction blocks with
  | nil => exact fun _ _ => rfl
  | cons block rest induction =>
      intro target fits outside
      have painted := length_paint (fits block List.mem_cons_self)
      have restFits : Fits (paint target block.1 block.2).length rest := by
        intro other member
        rw [painted]
        exact fits other (List.mem_cons_of_mem _ member)
      have later := induction restFits
        fun other member => outside other (List.mem_cons_of_mem _ member)
      rw [getElem?_paint (fits block List.mem_cons_self),
        if_neg (outside block List.mem_cons_self)] at later
      exact later

theorem getElem?_paintAll {blocks : List (Nat × List α)} {block : Nat × List α} {offset : Nat}
    (member : block ∈ blocks) (inside : offset < block.2.length) :
    ∀ {target : List α}, Fits target.length blocks → Ordered blocks →
      (paintAll target blocks)[block.1 + offset]? = block.2[offset]? := by
  induction blocks with
  | nil => exact nomatch member
  | cons first rest induction =>
      intro target fits ordered
      have painted := length_paint (fits first List.mem_cons_self)
      have restFits : Fits (paint target first.1 first.2).length rest := by
        intro other isOther
        rw [painted]
        exact fits other (List.mem_cons_of_mem _ isOther)
      rcases List.pairwise_cons.mp ordered with ⟨before, restOrdered⟩
      rcases List.mem_cons.mp member with same | inRest
      · subst same
        have outside : ∀ other ∈ rest,
            ¬ (other.1 ≤ block.1 + offset ∧ block.1 + offset < other.1 + other.2.length) := by
          intro other isOther
          have later := before other isOther
          omega
        have untouched := getElem?_paintAll_outside restFits outside
        rw [getElem?_paint (fits block List.mem_cons_self), if_pos ⟨by omega, by omega⟩,
          Nat.add_sub_cancel_left] at untouched
        exact untouched
      · exact induction inRest restFits restOrdered

/-! ## Loops over a packed stream -/

section Loops

variable {σ β τ : Type} {width : σ → Nat}

/-- `visit` at every item with the place where the item begins. -/
def scanSamples (width : σ → Nat) (visit : Nat → σ → β) : Nat → List σ → List β
  | _, [] => []
  | base, sample :: rest =>
      visit base sample :: scanSamples width visit (base + width sample) rest

def loopSamples (width : σ → Nat) (step : Nat → σ → τ → Except PyException τ) :
    Nat → List σ → τ → Except PyException τ
  | _, [], state => .ok state
  | base, sample :: rest, state => do
      let next ← step base sample state
      loopSamples width step (base + width sample) rest next

theorem length_scanSamples (visit : Nat → σ → β) (base : Nat) (samples : List σ) :
    (scanSamples width visit base samples).length = samples.length := by
  induction samples generalizing base with
  | nil => rfl
  | cons sample rest induction => rw [scanSamples, List.length_cons, induction, List.length_cons]

theorem getElem?_scanSamples (visit : Nat → σ → β) : ∀ (base i : Nat) (samples : List σ),
    (scanSamples width visit base samples)[i]? =
      samples[i]?.map (visit (base + ((samples.take i).map width).sum))
  | _, _, [] => by simp [scanSamples]
  | base, 0, sample :: rest => by simp [scanSamples]
  | base, i + 1, sample :: rest => by
      rw [scanSamples, List.getElem?_cons_succ, List.getElem?_cons_succ,
        getElem?_scanSamples visit _ i rest, List.take_succ_cons, List.map_cons, List.sum_cons,
        Nat.add_assoc]

theorem map_scanSamples (after : β → γ) (visit : Nat → σ → β) (base : Nat) (samples : List σ) :
    (scanSamples width visit base samples).map after =
      scanSamples width (fun place sample => after (visit place sample)) base samples := by
  induction samples generalizing base with
  | nil => rfl
  | cons sample rest induction => rw [scanSamples, List.map_cons, induction, scanSamples]

theorem loopSamples_collect {step : Nat → σ → List β → Except PyException (List β)} :
    ∀ (samples : List σ) (visit : Nat → σ → List β) (base : Nat),
      (∀ i sample, samples[i]? = some sample → ∀ collected,
        step (base + ((samples.take i).map width).sum) sample collected =
          .ok (collected ++ visit i sample)) →
        ∀ collected, loopSamples width step base samples collected =
          .ok (collected ++ (samples.mapIdx visit).flatten)
  | [], _, _, _, collected => by
      rw [loopSamples, List.mapIdx_nil, List.flatten_nil, List.append_nil]
  | sample :: rest, visit, base, appends, collected => by
      have first := appends 0 sample rfl collected
      rw [List.take_zero, List.map_nil, List.sum_nil, Nat.add_zero] at first
      rw [loopSamples, first, ok_bind, loopSamples_collect rest (fun i => visit (i + 1)),
        List.mapIdx_cons, List.flatten_cons, List.append_assoc]
      intro i other isOther later
      have next := appends (i + 1) other isOther later
      rwa [List.take_succ_cons, List.map_cons, List.sum_cons, ← Nat.add_assoc] at next

theorem loopSamples_collect_one {step : Nat → σ → List β → Except PyException (List β)}
    {visit : Nat → σ → β}
    (appends : ∀ base sample collected,
      step base sample collected = .ok (collected ++ [visit base sample])) :
    ∀ (base : Nat) (samples : List σ) (collected : List β),
      loopSamples width step base samples collected =
        .ok (collected ++ scanSamples width visit base samples)
  | _, [], collected => by rw [loopSamples, scanSamples, List.append_nil]
  | base, sample :: rest, collected => by
      rw [loopSamples, appends, ok_bind, loopSamples_collect_one appends, scanSamples,
        List.append_assoc, List.singleton_append]

theorem loopSamples_paint {step : Nat → σ → List β → Except PyException (List β)}
    {visit : Nat → σ → List (Nat × List β)} (invariant : List β → Prop) (limit : Nat)
    (paints : ∀ base sample state, base + width sample ≤ limit → invariant state →
      step base sample state = .ok (paintAll state (visit base sample)) ∧
        invariant (paintAll state (visit base sample))) :
    ∀ (base : Nat) (samples : List σ) (state : List β),
      base + (samples.map width).sum ≤ limit → invariant state →
        loopSamples width step base samples state =
          .ok (paintAll state (scanSamples width visit base samples).flatten)
  | _, [], state, _, _ => rfl
  | base, sample :: rest, state, within, holds => by
      rw [List.map_cons, List.sum_cons] at within
      have painted := paints base sample state (by omega) holds
      rw [loopSamples, painted.1, ok_bind,
        loopSamples_paint invariant limit paints _ rest _ (by omega) painted.2, scanSamples,
        List.flatten_cons]
      congr 1
      exact (List.foldl_append).symm

theorem scanSamples_ordered {visit : Nat → σ → List β} (low high : β → Nat)
    (inside : ∀ base sample, ∀ item ∈ visit base sample,
      base ≤ low item ∧ high item ≤ base + width sample)
    (ordered : ∀ base sample, (visit base sample).Pairwise fun earlier later =>
      high earlier ≤ low later) :
    ∀ (base : Nat) (samples : List σ),
      (scanSamples width visit base samples).flatten.Pairwise (fun earlier later =>
          high earlier ≤ low later) ∧
        ∀ item ∈ (scanSamples width visit base samples).flatten,
          base ≤ low item ∧ high item ≤ base + (samples.map width).sum
  | _, [] => ⟨List.Pairwise.nil, fun _ member => nomatch member⟩
  | base, sample :: rest => by
      rcases scanSamples_ordered low high inside ordered (base + width sample) rest with
        ⟨restOrdered, restInside⟩
      rw [scanSamples, List.flatten_cons, List.pairwise_append, List.map_cons, List.sum_cons]
      constructor
      · refine ⟨ordered base sample, restOrdered, fun earlier isEarlier later isLater => ?_⟩
        exact Nat.le_trans (inside base sample earlier isEarlier).2 (restInside later isLater).1
      · intro item member
        rcases List.mem_append.mp member with own | inRest
        · have bounds := inside base sample item own
          omega
        · have bounds := restInside item inRest
          omega

theorem getElem?_flatten_at : ∀ (lists : List (List α)) (i offset : Nat) (list : List α),
    lists[i]? = some list → offset < list.length →
      lists.flatten[((lists.take i).map List.length).sum + offset]? = list[offset]?
  | [], _, _, _, found, _ => by simp at found
  | first :: rest, 0, offset, list, found, inside => by
      rw [List.getElem?_cons_zero, Option.some.injEq] at found
      subst found
      rw [List.take_zero, List.map_nil, List.sum_nil, Nat.zero_add, List.flatten_cons,
        List.getElem?_append_left inside]
  | first :: rest, i + 1, offset, list, found, inside => by
      rw [List.getElem?_cons_succ] at found
      rw [List.take_succ_cons, List.map_cons, List.sum_cons, List.flatten_cons,
        List.getElem?_append_right (by omega), ← getElem?_flatten_at rest i offset list found inside]
      congr 1
      omega

theorem forall₂_flatMap {relation : α → β → Prop} {items : List γ} {left : γ → List α}
    {right : γ → List β} (each : ∀ item ∈ items, List.Forall₂ relation (left item) (right item)) :
    List.Forall₂ relation (items.flatMap left) (items.flatMap right) := by
  induction items with
  | nil => exact List.Forall₂.nil
  | cons item rest induction =>
      rw [List.flatMap_cons, List.flatMap_cons]
      exact List.rel_append (each item List.mem_cons_self)
        (induction fun other member => each other (List.mem_cons_of_mem _ member))

theorem forall₂_range' {relation : Nat → Nat → Prop} {left right length : Nat}
    (each : ∀ offset < length, relation (left + offset) (right + offset)) :
    List.Forall₂ relation (List.range' left length) (List.range' right length) := by
  rw [List.forall₂_iff_get]
  refine ⟨by rw [List.length_range', List.length_range'], fun offset inLeft inRight => ?_⟩
  rw [List.get_eq_getElem, List.get_eq_getElem, List.getElem_range', List.getElem_range',
    Nat.one_mul]
  rw [List.length_range'] at inLeft
  exact each offset inLeft

end Loops

end Vime.Foundation
