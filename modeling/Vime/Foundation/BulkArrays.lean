import Vime.Foundation.Ragged
import Vime.Foundation.Masks
import Mathlib.Data.List.Nodup

/-! # Bulk operations on arrays

Operations on one-dimensional arrays, and the entries of ragged rows as one array in which
every entry carries the number of its row.
-/

namespace Vime.Foundation

variable {α : Type u} {β : Type v}

/-! ## Operations -/

def diff (values : List Int) : List Int :=
  List.zipWith (fun value next => next - value) values values.tail

def anyAdjacent (relation : α → α → Prop) [DecidableRel relation] : List α → Bool
  | first :: second :: rest =>
      decide (relation first second) || anyAdjacent relation (second :: rest)
  | _ => false

/-- `np.repeat(np.arange(len(lengths)), lengths)`. -/
def repeatArange (lengths : List Int) : List Nat :=
  lengths.zipIdx.flatMap fun entry => List.replicate entry.1.toNat entry.2

/-- `values[indices]`; an index outside the array has no entry. -/
def gather (values : List α) (indices : List Nat) : List (Option α) :=
  indices.map fun index => values[index]?

def flatnonzero (flags : List Bool) : List Nat :=
  (List.range' 0 flags.length).filter fun index => flags.getD index false

theorem anyAdjacent_eq_false {relation : α → α → Prop} [DecidableRel relation] :
    ∀ {values : List α}, anyAdjacent relation values = false ↔
      values.IsChain fun first second => ¬ relation first second
  | [] => ⟨fun _ => .nil, fun _ => rfl⟩
  | [value] => ⟨fun _ => .singleton value, fun _ => rfl⟩
  | first :: second :: rest => by
      rw [anyAdjacent, Bool.or_eq_false_iff, decide_eq_false_iff_not, anyAdjacent_eq_false,
        List.isChain_cons_cons]

theorem compress_map (selects : α → Bool) (read : α → β) : ∀ entries : List α,
    compress (entries.map read) (entries.map selects) = (entries.filter selects).map read
  | [] => rfl
  | entry :: rest => by
      rw [List.map_cons, List.map_cons]
      cases isSelected : selects entry with
      | false =>
          rw [List.filter_cons_of_neg (by simp [isSelected]), compress, compress_map]
      | true =>
          rw [List.filter_cons_of_pos isSelected, List.map_cons, compress, compress_map]

theorem any_zipWith (test : α → β → Bool) (left : List α) (right : List β) :
    (List.zipWith test left right).any id = true ↔ ∃ (index : Nat) (entry : α) (other : β),
      left[index]? = some entry ∧ right[index]? = some other ∧ test entry other = true := by
  rw [List.any_eq_true]
  constructor
  · intro found
    rcases found with ⟨flag, member, isTrue⟩
    rcases List.getElem?_of_mem member with ⟨index, isFlag⟩
    rcases List.getElem?_zipWith_eq_some.mp isFlag with ⟨entry, other, isEntry, isOther, same⟩
    exact ⟨index, entry, other, isEntry, isOther, same.trans isTrue⟩
  · intro found
    rcases found with ⟨index, entry, other, isEntry, isOther, isTrue⟩
    have isFlag : (List.zipWith test left right)[index]? = some true :=
      List.getElem?_zipWith_eq_some.mpr ⟨entry, other, isEntry, isOther, isTrue⟩
    exact ⟨true, List.mem_of_getElem? isFlag, rfl⟩

theorem isChain_ne_iff_nodup {le : α → α → Prop}
    (antisymm : ∀ {first second}, le first second → le second first → first = second) :
    ∀ {sorted : List α}, sorted.Pairwise le →
      ((sorted.IsChain fun first second => ¬ first = second) ↔ sorted.Nodup)
  | [], _ => ⟨fun _ => .nil, fun _ => .nil⟩
  | [value], _ => ⟨fun _ => List.nodup_singleton value, fun _ => .singleton value⟩
  | first :: second :: rest, order => by
      rw [List.pairwise_cons] at order
      rw [List.isChain_cons_cons, isChain_ne_iff_nodup antisymm order.2,
        List.nodup_cons (a := first)]
      constructor
      · intro distinct
        refine ⟨fun member => ?_, distinct.2⟩
        rcases List.mem_cons.mp member with same | later
        · exact distinct.1 same
        · have between := (List.pairwise_cons.mp order.2).1 first later
          exact distinct.1 (antisymm (order.1 second List.mem_cons_self) between)
      · intro distinct
        refine ⟨fun same => distinct.1 ?_, distinct.2⟩
        rw [same]
        exact List.mem_cons_self

/-! ## Labelled rows -/

/-- The entries of consecutive rows with the numbers of their rows, from `start` on. -/
def labelRows (start : Nat) : List (List α) → List (Nat × α)
  | [] => []
  | row :: rest => row.map (fun entry => (start, entry)) ++ labelRows (start + 1) rest

theorem mem_labelRows {entry : Nat × α} :
    ∀ {start : Nat} {rows : List (List α)}, entry ∈ labelRows start rows ↔
      ∃ index row, rows[index]? = some row ∧ entry.1 = start + index ∧ entry.2 ∈ row
  | start, [] => by simp [labelRows]
  | start, row :: rest => by
      rw [labelRows, List.mem_append, List.mem_map, mem_labelRows]
      constructor
      · intro member
        rcases member with ⟨held, inRow, rfl⟩ | ⟨index, other, isOther, label, inRow⟩
        · exact ⟨0, row, rfl, rfl, inRow⟩
        · exact ⟨index + 1, other, isOther, by omega, inRow⟩
      · intro found
        rcases found with ⟨index, other, isOther, label, inRow⟩
        cases index with
        | zero =>
            rw [List.getElem?_cons_zero] at isOther
            rw [← Option.some.inj isOther] at inRow
            exact .inl ⟨entry.2, inRow, by rw [← Nat.add_zero start, ← label]⟩
        | succ index => exact .inr ⟨index, other, isOther, by omega, inRow⟩

theorem labelRows_map_snd : ∀ (start : Nat) (rows : List (List α)),
    (labelRows start rows).map Prod.snd = rows.flatten
  | _, [] => rfl
  | start, row :: rest => by
      rw [labelRows, List.map_append, labelRows_map_snd, List.map_map, List.flatten_cons]
      congr 1
      exact List.map_id row

theorem labelRows_map_fst : ∀ (start : Nat) (rows : List (List α)),
    (labelRows start rows).map Prod.fst =
      ((rows.map fun row => (row.length : Int)).zipIdx start).flatMap fun entry =>
        List.replicate entry.1.toNat entry.2
  | _, [] => rfl
  | start, row :: rest => by
      rw [labelRows, List.map_append, labelRows_map_fst, List.map_map, List.map_cons,
        List.zipIdx_cons, List.flatMap_cons, Int.toNat_natCast]
      congr 1
      exact List.map_const'

/-- A label and an entry occur together once exactly if no row has an entry twice. -/
theorem labelRows_nodup : ∀ {start : Nat} {rows : List (List α)},
    (labelRows start rows).Nodup ↔ ∀ row ∈ rows, row.Nodup
  | _, [] => by simp [labelRows]
  | start, row :: rest => by
      have injective : Function.Injective fun entry : α => (start, entry) :=
        fun _ _ same => (Prod.mk.inj same).2
      have apart : (row.map fun entry => (start, entry)).Disjoint (labelRows (start + 1) rest) := by
        intro entry inRow later
        rcases List.mem_map.mp inRow with ⟨held, _, rfl⟩
        rcases mem_labelRows.mp later with ⟨index, _, _, label, _⟩
        dsimp only at label
        omega
      rw [labelRows, List.nodup_append', List.nodup_map_iff injective, labelRows_nodup,
        List.forall_mem_cons]
      exact ⟨fun distinct => ⟨distinct.1, distinct.2.1⟩,
        fun distinct => ⟨distinct.1, distinct.2, apart⟩⟩

theorem replicate_append_eq {label : Nat} {left right : List Nat}
    (leftLater : ∀ other ∈ left, label < other) (rightLater : ∀ other ∈ right, label < other)
    (first second : Nat) :
    List.replicate first label ++ left = List.replicate second label ++ right ↔
      first = second ∧ left = right := by
  constructor
  · intro same
    have counted := congrArg (List.count label) same
    have notLeft : List.count label left = 0 :=
      List.count_eq_zero.mpr fun member => Nat.lt_irrefl label (leftLater label member)
    have notRight : List.count label right = 0 :=
      List.count_eq_zero.mpr fun member => Nat.lt_irrefl label (rightLater label member)
    rw [List.count_append, List.count_append, List.count_replicate_self,
      List.count_replicate_self, notLeft, notRight] at counted
    have equal : first = second := counted
    rw [equal] at same
    exact ⟨equal, List.append_cancel_left same⟩
  · intro parts
    rw [parts.1, parts.2]

/-- The selected entries name the active rows, each once, exactly if every active row has one
selected entry and every other row has none. -/
theorem labels_selected_iff (selects : Nat × α → Bool) (active : Nat → Bool) :
    ∀ {start : Nat} {rows : List (List α)},
      ((labelRows start rows).filter selects).map Prod.fst =
          (List.range' start rows.length).filter active ↔
        ∀ index row, rows[index]? = some row →
          row.countP (fun entry => selects (start + index, entry)) =
            if active (start + index) then 1 else 0
  | start, [] => by simp [labelRows]
  | start, row :: rest => by
      have first : ((row.map fun entry => (start, entry)).filter selects).map Prod.fst =
          List.replicate (row.countP fun entry => selects (start, entry)) start := by
        rw [List.filter_map, List.map_map, List.countP_eq_length_filter]
        exact List.map_const'
      have later : ∀ label ∈ ((labelRows (start + 1) rest).filter selects).map Prod.fst,
          start < label := by
        intro label member
        rcases List.mem_map.mp member with ⟨entry, selected, rfl⟩
        rcases mem_labelRows.mp (List.mem_filter.mp selected).1 with ⟨index, _, _, label, _⟩
        omega
      have laterActive : ∀ label ∈ (List.range' (start + 1) rest.length).filter active,
          start < label := by
        intro label member
        have inRange := List.mem_range'_1.mp (List.mem_filter.mp member).1
        omega
      have activeFirst : (List.range' start (rest.length + 1)).filter active =
          List.replicate (if active start then 1 else 0) start ++
            (List.range' (start + 1) rest.length).filter active := by
        rw [List.range'_succ]
        cases isActive : active start with
        | false => rw [List.filter_cons_of_neg (by simp [isActive])]; rfl
        | true => rw [List.filter_cons_of_pos isActive]; rfl
      rw [labelRows, List.filter_append, List.map_append, first, List.length_cons, activeFirst,
        replicate_append_eq later laterActive, labels_selected_iff selects active]
      constructor
      · intro counts index other isOther
        cases index with
        | zero =>
            rw [← Option.some.inj isOther]
            exact counts.1
        | succ index =>
            have shifted : start + (index + 1) = start + 1 + index := by omega
            rw [shifted]
            exact counts.2 index other isOther
      · intro counts
        refine ⟨counts 0 row rfl, fun index other isOther => ?_⟩
        have shifted : start + 1 + index = start + (index + 1) := by omega
        rw [shifted]
        exact counts (index + 1) other isOther

end Vime.Foundation
