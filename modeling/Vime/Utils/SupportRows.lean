import Vime.Utils.SamplerSupports

/-! # Sampler supports row by row

The validation in blocks accepts exactly the arrays whose rows are accepted one by one, so that
its verdict does not depend on the block boundaries.
-/

namespace Vime.Utils.SamplerSupports

open Vime.Foundation

variable {F : Type}

/-! ## The rule for one row -/

/-- A row of candidates, whether its token is trainable, and its sampled token. -/
structure RowAccepted [SamplerValue F] (support : List (Int × F)) (trainable : Bool) (sampled : Option (Int × F)) :
    Prop where
  range : ∀ entry ∈ support, 0 ≤ entry.1 ∧ entry.1 < 2 ^ 31
  distinct : (support.map Prod.fst).Nodup
  logps : ∀ entry ∈ support, SamplerValue.finiteNonpositive entry.2 = true
  nonempty : trainable = true → support ≠ []
  sampled : ∀ token ∈ sampled, support ≠ [] →
    ∃ logp, (token.1, logp) ∈ support ∧ SamplerValue.isClose logp token.2 = true

def sampledAt (sampled : Option (List Int × List F)) (row : Nat) : Option (Int × F) :=
  sampled.bind fun held => (held.1.zip held.2)[row]?

/-! ## Keys -/

theorem toInt_rowKey {row : Nat} (rowBound : row < 4096) {id : Int} (nonneg : 0 ≤ id)
    (idBound : id < 2 ^ 31) : (rowKey row id).toInt = row * 2 ^ 31 + id := by
  have asInt : rowKey row id = Int64.ofInt (row * 2 ^ 31 + id) := by
    rw [rowKey, Int64.ofInt_add, Int64.ofInt_mul, Int64.ofInt_eq_ofNat]
    rfl
  rw [asInt]
  exact Int64.toInt_ofInt_of_le (by omega) (by omega)

theorem rowKey_injective {left right : Nat × Int} (leftRow : left.1 < 4096)
    (rightRow : right.1 < 4096) (leftId : 0 ≤ left.2 ∧ left.2 < 2 ^ 31)
    (rightId : 0 ≤ right.2 ∧ right.2 < 2 ^ 31)
    (same : rowKey left.1 left.2 = rowKey right.1 right.2) : left = right := by
  have sameInt := congrArg Int64.toInt same
  rw [toInt_rowKey leftRow leftId.1 leftId.2, toInt_rowKey rightRow rightId.1 rightId.2] at sameInt
  apply Prod.ext
  · omega
  · omega

/-- Sorted keys have equal neighbours exactly if a key occurs twice. -/
theorem anyAdjacent_sortKeys (keys : List Int64) :
    anyAdjacent (fun first second => first = second) (sortKeys keys) = false ↔ keys.Nodup := by
  have sorted : (sortKeys keys).Pairwise fun first second => first ≤ second := by
    have ordered : (sortKeys keys).Pairwise fun first second => decide (first ≤ second) = true :=
      List.pairwise_mergeSort
        (fun first second third before after => by
          rw [decide_eq_true_iff] at before after ⊢
          exact Int64.le_trans before after)
        (fun first second => by
          rw [Bool.or_eq_true, decide_eq_true_iff, decide_eq_true_iff]
          exact Int64.le_total first second) keys
    exact ordered.imp fun holds => of_decide_eq_true holds
  rw [anyAdjacent_eq_false, isChain_ne_iff_nodup Int64.le_antisymm sorted]
  exact (List.mergeSort_perm keys _).nodup_iff

/-! ## One block -/

section Block

variable {rows : List (List (Int × F))}

theorem rowIds_eq : repeatArange (rows.map fun row => (row.length : Int)) =
    (labelRows 0 rows).map Prod.fst := by
  rw [repeatArange, labelRows_map_fst]

theorem chunk_eq {β : Type} (read : Int × F → β) : rows.flatten.map read =
    (labelRows 0 rows).map fun entry => read entry.2 := by
  rw [← labelRows_map_snd 0 rows, List.map_map]
  rfl

theorem labelRows_ids : ∀ (start : Nat) (rows : List (List (Int × F))),
    (labelRows start rows).map (fun entry => (entry.1, entry.2.1)) =
      labelRows start (rows.map fun row => row.map Prod.fst)
  | _, [] => rfl
  | start, row :: rest => by
      rw [labelRows, List.map_append, labelRows_ids, List.map_map, List.map_cons, labelRows,
        List.map_map]
      rfl

theorem keys_nodup (bounded : rows.length ≤ 4096)
    (range : ∀ row ∈ rows, ∀ entry ∈ row, 0 ≤ entry.1 ∧ entry.1 < 2 ^ 31) :
    (List.zipWith rowKey (repeatArange (rows.map fun row => (row.length : Int)))
        (rows.flatten.map Prod.fst)).Nodup ↔
      ∀ row ∈ rows, (row.map Prod.fst).Nodup := by
  have keys : List.zipWith rowKey (repeatArange (rows.map fun row => (row.length : Int)))
      (rows.flatten.map Prod.fst) =
      (labelRows 0 (rows.map fun row => row.map Prod.fst)).map fun entry =>
        rowKey entry.1 entry.2 := by
    rw [rowIds_eq, chunk_eq, ← labelRows_ids, List.zipWith_map, List.zipWith_self, List.map_map]
    rfl
  have inBlock : ∀ entry ∈ labelRows 0 (rows.map fun row => row.map Prod.fst),
      entry.1 < 4096 ∧ 0 ≤ entry.2 ∧ entry.2 < 2 ^ 31 := by
    intro entry member
    rcases mem_labelRows.mp member with ⟨index, ids, isIds, label, inRow⟩
    rw [List.getElem?_map] at isIds
    rcases Option.map_eq_some_iff.mp isIds with ⟨row, isRow, rfl⟩
    rcases List.mem_map.mp inRow with ⟨held, inHeld, same⟩
    rw [← same]
    have position : index < rows.length := (List.getElem?_eq_some_iff.mp isRow).1
    exact ⟨by omega, range row (List.mem_of_getElem? isRow) held inHeld⟩
  have tellApart : ((labelRows 0 (rows.map fun row => row.map Prod.fst)).map fun entry =>
      rowKey entry.1 entry.2).Nodup ↔
      (labelRows 0 (rows.map fun row => row.map Prod.fst)).Nodup :=
    ⟨fun distinct => distinct.of_map _, fun distinct => distinct.map_on
      fun left isLeft right isRight => rowKey_injective (inBlock left isLeft).1
        (inBlock right isRight).1 (inBlock left isLeft).2 (inBlock right isRight).2⟩
  rw [keys, tellApart, labelRows_nodup, List.forall_mem_map]

theorem missingSupport_iff {mask : List Bool} (maskLength : mask.length = rows.length) :
    (List.zipWith (fun trainable held => trainable && !held) mask
        ((rows.map fun row => (row.length : Int)).map fun length => decide (length > 0))).any id
          = true ↔
      ¬ ∀ index row, rows[index]? = some row → mask.getD index false = true → row ≠ [] := by
  rw [List.map_map, List.zipWith_map_right, any_zipWith]
  constructor
  · intro found accepted
    rcases found with ⟨index, trainable, row, isTrainable, isRow, missing⟩
    rw [Bool.and_eq_true] at missing
    have wanted : mask.getD index false = true := by
      rw [List.getD_eq_getElem?_getD, isTrainable]
      exact missing.1
    have nonempty := List.length_pos_iff.mpr (accepted index row isRow wanted)
    have isEmpty : ¬ (row.length : Int) > 0 := by
      simpa only [Function.comp_apply, Bool.not_eq_true', decide_eq_false_iff_not] using missing.2
    omega
  · intro rejected
    rw [not_forall] at rejected
    rcases rejected with ⟨index, rejected⟩
    simp only [not_forall, not_not] at rejected
    rcases rejected with ⟨row, isRow, wanted, empty⟩
    have inMask : index < mask.length := by
      rw [maskLength]
      exact (List.getElem?_eq_some_iff.mp isRow).1
    have isTrainable : mask[index]? = some true := by
      rw [← wanted, List.getD_eq_getElem?_getD, List.getElem?_eq_getElem inMask, Option.getD_some]
    exact ⟨index, true, row, isTrainable, isRow, by simp [empty]⟩

def isSampled (tokens : List Int) (entry : Nat × Int × F) : Bool :=
  decide (some entry.2.1 = tokens[entry.1]?)

theorem missesSampled_eq [SamplerValue F] (active : List Bool) (tokens : List Int)
    (sampledLogps : List F) :
    missesSampled (repeatArange (rows.map fun row => (row.length : Int)))
        (rows.flatten.map Prod.fst) (rows.flatten.map Prod.snd) active tokens sampledLogps =
      (!decide (((labelRows 0 rows).filter (isSampled tokens)).map Prod.fst =
          flatnonzero active) ||
        !((labelRows 0 rows).filter (isSampled tokens)).all fun entry =>
          sampledLogps[entry.1]?.any fun held => SamplerValue.isClose entry.2.2 held) := by
  have selected : List.zipWith (fun id token => decide (some id = token))
      ((labelRows 0 rows).map fun entry => entry.2.1)
      (gather tokens ((labelRows 0 rows).map Prod.fst)) =
      (labelRows 0 rows).map (isSampled tokens) := by
    rw [gather, List.map_map, List.zipWith_map, List.zipWith_self]
    rfl
  rw [missesSampled, rowIds_eq, chunk_eq, chunk_eq, selected, compress_map, compress_map, gather,
    List.map_map, List.zipWith_map, List.zipWith_self, List.all_map]
  rfl

theorem getD_active {mask : List Bool} (maskLength : mask.length = rows.length)
    (supported : ∀ index row, rows[index]? = some row → mask.getD index false = true → row ≠ [])
    {index : Nat} {row : List (Int × F)} (isRow : rows[index]? = some row) :
    (List.zipWith or ((rows.map fun row => (row.length : Int)).map fun length =>
      decide (length > 0)) mask).getD index false = decide (row ≠ []) := by
  have inMask : index < mask.length := by
    rw [maskLength]
    exact (List.getElem?_eq_some_iff.mp isRow).1
  have isTrainable := List.getElem?_eq_getElem inMask
  have isFlag : (List.zipWith or ((rows.map fun row => (row.length : Int)).map fun length =>
      decide (length > 0)) mask)[index]? = some (decide ((row.length : Int) > 0) || mask[index]) := by
    apply List.getElem?_zipWith_eq_some.mpr
    refine ⟨_, _, ?_, isTrainable, rfl⟩
    rw [List.map_map, List.getElem?_map, isRow]
    rfl
  have held : decide ((row.length : Int) > 0) = decide (row ≠ []) := by
    rw [decide_eq_decide, gt_iff_lt, Int.natCast_pos, List.length_pos_iff]
  rw [List.getD_eq_getElem?_getD, isFlag, Option.getD_some, held]
  cases trainable : mask[index] with
  | false => rw [Bool.or_false]
  | true =>
      have nonempty := supported index row isRow (by
        rw [List.getD_eq_getElem?_getD, isTrainable, Option.getD_some, trainable])
      rw [decide_eq_true nonempty, Bool.true_or]

/-- In a row of distinct ids the sampled token is selected once, with its log probability,
exactly if it occurs with a close one. -/
theorem sampled_row_iff [SamplerValue F] {row : List (Int × F)}
    (distinct : (row.map Prod.fst).Nodup) (token : Int) (held : F) :
    (row.countP (fun entry => decide (some entry.1 = some token)) =
        (if decide (row ≠ []) = true then 1 else 0) ∧
      ∀ entry ∈ row, entry.1 = token → SamplerValue.isClose entry.2 held = true) ↔
      (row ≠ [] → ∃ logp, (token, logp) ∈ row ∧ SamplerValue.isClose logp held = true) := by
  have counted : row.countP (fun entry => decide (some entry.1 = some token)) =
      (row.map Prod.fst).count token := by
    rw [List.count_eq_countP, List.countP_map]
    apply List.countP_congr
    intro entry _
    simp
  rw [counted]
  constructor
  · intro selected nonempty
    rw [decide_eq_true nonempty, if_pos rfl] at selected
    have member : token ∈ row.map Prod.fst := List.count_pos_iff.mp (by omega)
    rcases List.mem_map.mp member with ⟨entry, inRow, same⟩
    refine ⟨entry.2, ?_, selected.2 entry inRow same⟩
    rw [← same]
    exact inRow
  · intro found
    by_cases empty : row = []
    · rw [empty]
      exact ⟨rfl, nofun⟩
    · rcases found empty with ⟨logp, inRow, close⟩
      have member : token ∈ row.map Prod.fst := List.mem_map_of_mem inRow
      rw [decide_eq_true empty, if_pos rfl]
      refine ⟨List.count_eq_one_of_mem distinct member, fun entry inOther same => ?_⟩
      have isEntry : entry = (token, logp) :=
        List.inj_on_of_nodup_map distinct inOther inRow same
      rw [isEntry]
      exact close

/-- The sampled tokens of rows that are supported and have distinct ids. -/
theorem missesSampled_iff [SamplerValue F] {mask : List Bool}
    (maskLength : mask.length = rows.length)
    (supported : ∀ index row, rows[index]? = some row → mask.getD index false = true → row ≠ [])
    (distinct : ∀ row ∈ rows, (row.map Prod.fst).Nodup) {tokens : List Int}
    {sampledLogps : List F} (tokensLength : tokens.length = rows.length)
    (logpsLength : sampledLogps.length = rows.length) :
    missesSampled (repeatArange (rows.map fun row => (row.length : Int)))
        (rows.flatten.map Prod.fst) (rows.flatten.map Prod.snd)
        (List.zipWith or ((rows.map fun row => (row.length : Int)).map fun length =>
          decide (length > 0)) mask) tokens sampledLogps = false ↔
      ∀ index row, rows[index]? = some row →
        ∀ token ∈ sampledAt (some (tokens, sampledLogps)) index, row ≠ [] →
          ∃ logp, (token.1, logp) ∈ row ∧ SamplerValue.isClose logp token.2 = true := by
  have sameLength : (List.zipWith or ((rows.map fun row => (row.length : Int)).map fun length =>
      decide (length > 0)) mask).length = rows.length := by
    rw [List.length_zipWith, List.length_map, List.length_map, maskLength, Nat.min_self]
  have sampledRow : ∀ index row, rows[index]? = some row →
      ∃ token held, tokens[index]? = some token ∧ sampledLogps[index]? = some held ∧
        sampledAt (some (tokens, sampledLogps)) index = some (token, held) := by
    intro index row isRow
    have inRows := (List.getElem?_eq_some_iff.mp isRow).1
    have isToken : tokens[index]? = some tokens[index] := List.getElem?_eq_getElem (by omega)
    have isHeld : sampledLogps[index]? = some sampledLogps[index] :=
      List.getElem?_eq_getElem (by omega)
    exact ⟨_, _, isToken, isHeld, List.getElem?_zip_eq_some.mpr ⟨isToken, isHeld⟩⟩
  rw [missesSampled_eq, Bool.or_eq_false_iff, Bool.not_eq_false', Bool.not_eq_false',
    decide_eq_true_iff, flatnonzero, sameLength, labels_selected_iff, List.all_eq_true]
  constructor
  · intro accepted index row isRow
    rcases sampledRow index row isRow with ⟨token, held, isToken, isHeld, isSampledAt⟩
    intro other isOther
    rw [isSampledAt] at isOther
    rw [← Option.some.inj isOther]
    apply (sampled_row_iff (distinct row (List.mem_of_getElem? isRow)) token held).mp
    constructor
    · have counts := accepted.1 index row isRow
      rw [Nat.zero_add, getD_active maskLength supported isRow] at counts
      rw [← counts]
      apply List.countP_congr
      intro entry _
      rw [isSampled, isToken]
    · intro entry inRow same
      have member : (index, entry) ∈ (labelRows 0 rows).filter (isSampled tokens) := by
        rw [List.mem_filter]
        refine ⟨mem_labelRows.mpr ⟨index, row, isRow, (Nat.zero_add index).symm, inRow⟩, ?_⟩
        rw [isSampled, isToken, same]
        exact decide_eq_true rfl
      have close := accepted.2 (index, entry) member
      rw [isHeld] at close
      exact close
  · intro accepted
    constructor
    · intro index row isRow
      rcases sampledRow index row isRow with ⟨token, held, isToken, isHeld, isSampledAt⟩
      have found := (sampled_row_iff (distinct row (List.mem_of_getElem? isRow)) token held).mpr
        (accepted index row isRow (token, held) isSampledAt)
      rw [Nat.zero_add, getD_active maskLength supported isRow, ← found.1]
      apply List.countP_congr
      intro entry _
      rw [isSampled, isToken]
    · intro entry selected
      rw [List.mem_filter] at selected
      rcases mem_labelRows.mp selected.1 with ⟨index, row, isRow, label, inRow⟩
      rw [Nat.zero_add] at label
      rcases sampledRow index row isRow with ⟨token, held, isToken, isHeld, isSampledAt⟩
      have found := (sampled_row_iff (distinct row (List.mem_of_getElem? isRow)) token held).mpr
        (accepted index row isRow (token, held) isSampledAt)
      have same := of_decide_eq_true selected.2
      rw [label, isToken] at same
      rw [label, isHeld]
      exact found.2 entry.2 inRow (Option.some.inj same)

theorem idsInRange_iff :
    (¬ ((∃ id ∈ rows.flatten.map Prod.fst, id < 0) ∨
        ∃ id ∈ rows.flatten.map Prod.fst, id > Int32.maxValue.toInt)) ↔
      ∀ row ∈ rows, ∀ entry ∈ row, 0 ≤ entry.1 ∧ entry.1 < 2 ^ 31 := by
  have maxValue : Int32.maxValue.toInt = 2 ^ 31 - 1 := rfl
  rw [not_or, maxValue]
  constructor
  · intro inRange row isRow entry inRow
    have member : entry.1 ∈ rows.flatten.map Prod.fst :=
      List.mem_map_of_mem (List.mem_flatten.mpr ⟨row, isRow, inRow⟩)
    have nonneg : ¬ entry.1 < 0 := fun negative => inRange.1 ⟨_, member, negative⟩
    have small : ¬ entry.1 > 2 ^ 31 - 1 := fun large => inRange.2 ⟨_, member, large⟩
    omega
  · intro inRange
    have bounds : ∀ id ∈ rows.flatten.map Prod.fst, 0 ≤ id ∧ id < 2 ^ 31 := by
      intro id member
      rcases List.mem_map.mp member with ⟨entry, isEntry, rfl⟩
      rcases List.mem_flatten.mp isEntry with ⟨row, isRow, inRow⟩
      exact inRange row isRow entry inRow
    constructor
    · intro found
      rcases found with ⟨id, member, negative⟩
      have bound := bounds id member
      omega
    · intro found
      rcases found with ⟨id, member, large⟩
      have bound := bounds id member
      omega

/-- A block is accepted exactly if its rows are. -/
theorem validateCandidates_eq_ok [SamplerValue F] {mask : List Bool}
    {sampled : Option (List Int × List F)} (bounded : rows.length ≤ 4096)
    (maskLength : mask.length = rows.length)
    (sampledLength : ∀ held ∈ sampled,
      held.1.length = rows.length ∧ held.2.length = rows.length) :
    validateCandidates (rows.map fun row => (row.length : Int)) (rows.flatten.map Prod.fst)
        (rows.flatten.map Prod.snd) mask sampled = .ok () ↔
      ∀ index row, rows[index]? = some row →
        RowAccepted row (mask.getD index false) (sampledAt sampled index) := by
  rw [validateCandidates]
  simp only [check_bind_eq_ok, raiseIf_eq_ok]
  constructor
  · intro checks
    rcases checks with ⟨inRange, adjacent, finite, support, sampledChecks⟩
    have range := idsInRange_iff.mp inRange
    have distinct := (keys_nodup bounded range).mp
      ((anyAdjacent_sortKeys _).mp (Bool.eq_false_iff.mpr adjacent))
    have supported := not_not.mp (fun missing => support ((missingSupport_iff maskLength).mpr missing))
    intro index row isRow
    have inRows := List.mem_of_getElem? isRow
    constructor
    · exact range row inRows
    · exact distinct row inRows
    · intro entry inRow
      have member : entry.2 ∈ rows.flatten.map Prod.snd :=
        List.mem_map_of_mem (List.mem_flatten.mpr ⟨row, inRows, inRow⟩)
      by_contra rejected
      exact finite ⟨entry.2, member, Bool.eq_false_iff.mpr rejected⟩
    · exact supported index row isRow
    · cases sampled with
      | none =>
          intro entry isEntry
          cases isEntry
      | some held =>
          have lengths := sampledLength held rfl
          have found : missesSampled _ _ _ _ held.1 held.2 = false :=
            Bool.eq_false_iff.mpr fun misses => sampledChecks ⟨held, rfl, misses⟩
          exact (missesSampled_iff maskLength supported distinct lengths.1 lengths.2).mp found
            index row isRow
  · intro accepted
    have range : ∀ row ∈ rows, ∀ entry ∈ row, 0 ≤ entry.1 ∧ entry.1 < 2 ^ 31 := by
      intro row isRow
      rcases List.getElem?_of_mem isRow with ⟨index, isIndex⟩
      exact (accepted index row isIndex).range
    have distinct : ∀ row ∈ rows, (row.map Prod.fst).Nodup := by
      intro row isRow
      rcases List.getElem?_of_mem isRow with ⟨index, isIndex⟩
      exact (accepted index row isIndex).distinct
    have supported : ∀ index row, rows[index]? = some row → mask.getD index false = true →
        row ≠ [] := fun index row isRow => (accepted index row isRow).nonempty
    refine ⟨idsInRange_iff.mpr range, ?_, ?_, ?_, ?_⟩
    · exact Bool.eq_false_iff.mp
        ((anyAdjacent_sortKeys _).mpr ((keys_nodup bounded range).mpr distinct))
    · intro found
      rcases found with ⟨logp, member, rejected⟩
      rcases List.mem_map.mp member with ⟨entry, isEntry, rfl⟩
      rcases List.mem_flatten.mp isEntry with ⟨row, isRow, inRow⟩
      rcases List.getElem?_of_mem isRow with ⟨index, isIndex⟩
      rw [(accepted index row isIndex).logps entry inRow] at rejected
      cases rejected
    · exact fun missing => (missingSupport_iff maskLength).mp missing supported
    · intro found
      rcases found with ⟨held, isHeld, misses⟩
      have lengths := sampledLength held isHeld
      rw [Option.mem_def.mp isHeld] at accepted
      rw [(missesSampled_iff maskLength supported distinct lengths.1 lengths.2).mpr
        fun index row isRow => (accepted index row isRow).sampled] at misses
      cases misses

end Block

/-! ## Rows of the arrays -/

/-- Offsets of `count` rows that cover `length` candidates. -/
structure Delimits (offsets : List Int) (length count : Nat) : Prop where
  offsets_length : offsets.length = count + 1
  first : offsets.head? = some 0
  last : offsets.getLast? = some (length : Int)
  ordered : offsets.Pairwise (· ≤ ·)

theorem badOffsets_iff {offsets : List Int} {length count : Nat}
    (rows : offsets.length = count + 1) :
    ¬ badOffsets offsets length ↔ Delimits offsets length count := by
  have ordered : anyAdjacent (fun offset next : Int => next < offset) offsets = false ↔
      offsets.Pairwise (· ≤ ·) := by
    rw [anyAdjacent_eq_false, ← List.isChain_iff_pairwise]
    simp only [Int.not_lt]
  rw [badOffsets, not_or, not_or, not_not, not_not, Bool.not_eq_true, ordered]
  exact ⟨fun facts => ⟨rows, facts.1, facts.2.1, facts.2.2⟩,
    fun delimits => ⟨delimits.first, delimits.last, delimits.ordered⟩⟩

def supportAt (ids offsets : List Int) (logps : List F) (row : Nat) : List (Int × F) :=
  let start := offsets.getD row 0
  let finish := offsets.getD (row + 1) 0
  (slice ids start finish).zip (slice logps start finish)

namespace Delimits

variable {offsets : List Int} {length count : Nat}

theorem mono (delimits : Delimits offsets length count) {row other : Nat} (later : row ≤ other)
    (inside : other ≤ count) : offsets.getD row 0 ≤ offsets.getD other 0 := by
  have bound : other < offsets.length := by rw [delimits.offsets_length]; omega
  rw [List.getD_eq_getElem?_getD, List.getD_eq_getElem?_getD, List.getElem?_eq_getElem bound,
    List.getElem?_eq_getElem (Nat.lt_of_le_of_lt later bound), Option.getD_some, Option.getD_some]
  rcases Nat.eq_or_lt_of_le later with same | before
  · subst other
    exact Int.le_refl _
  · exact List.pairwise_iff_getElem.mp delimits.ordered row other _ bound before

theorem position (delimits : Delimits offsets length count) {row : Nat} (inside : row ≤ count) :
    ∃ position : Nat, offsets.getD row 0 = position ∧ position ≤ length := by
  have zero : offsets.getD 0 0 = 0 := by
    rw [List.getD_eq_getElem?_getD, ← List.head?_eq_getElem?, delimits.first, Option.getD_some]
  have last : offsets.getD count 0 = length := by
    have isLast := delimits.last
    rw [List.getLast?_eq_getElem?, delimits.offsets_length, Nat.add_sub_cancel] at isLast
    rw [List.getD_eq_getElem?_getD, isLast, Option.getD_some]
  have lower := delimits.mono (Nat.zero_le row) inside
  have upper := delimits.mono inside (Nat.le_refl count)
  rw [zero] at lower
  rw [last] at upper
  exact ⟨(offsets.getD row 0).toNat, by omega, by omega⟩

theorem length_slice {α : Type} (delimits : Delimits offsets length count) {values : List α}
    (sized : values.length = length) {row : Nat} (inside : row < count) :
    ((slice values (offsets.getD row 0) (offsets.getD (row + 1) 0)).length : Int) =
      offsets.getD (row + 1) 0 - offsets.getD row 0 := by
  rcases delimits.position (Nat.le_of_lt inside) with ⟨start, isStart, _⟩
  rcases delimits.position (Nat.succ_le_of_lt inside) with ⟨finish, isFinish, within⟩
  have ordered := delimits.mono (Nat.le_succ row) (Nat.succ_le_of_lt inside)
  rw [isStart, isFinish] at ordered
  rw [isStart, isFinish, slice_natCast, List.length_drop, List.length_take]
  omega

theorem flatten_slices {α : Type} (delimits : Delimits offsets length count) (values : List α) :
    ∀ (rows first : Nat), first + rows ≤ count →
      ((List.range' first rows).map fun row =>
          slice values (offsets.getD row 0) (offsets.getD (row + 1) 0)).flatten =
        slice values (offsets.getD first 0) (offsets.getD (first + rows) 0)
  | 0, first, _ => by
      rw [Nat.add_zero, slice_self]
      rfl
  | rows + 1, first, inside => by
      have later := flatten_slices delimits values rows (first + 1) (by omega)
      have sameEnd : first + 1 + rows = first + (rows + 1) := by omega
      rcases delimits.position (show first ≤ count by omega) with ⟨start, isStart, _⟩
      rcases delimits.position (show first + 1 ≤ count by omega) with ⟨next, isNext, _⟩
      rcases delimits.position inside with ⟨finish, isFinish, _⟩
      have ordered := delimits.mono (Nat.le_succ first) (show first + 1 ≤ count by omega)
      have bounded := delimits.mono (show first + 1 ≤ first + (rows + 1) by omega) inside
      rw [isStart, isNext] at ordered
      rw [isNext, isFinish] at bounded
      rw [sameEnd, isNext, isFinish, slice_natCast] at later
      rw [List.range'_succ, List.map_cons, List.flatten_cons, later, isStart, isNext, isFinish,
        slice_natCast, slice_natCast]
      exact (take_drop_append values (by omega) (by omega)).symm

theorem diff_slice (delimits : Delimits offsets length count) {first rows : Nat}
    (inside : first + rows ≤ count) :
    diff (slice offsets (first : Int) ((first + rows : Nat) + 1 : Int)) =
      (List.range' first rows).map fun row => offsets.getD (row + 1) 0 - offsets.getD row 0 := by
  have bound : first + rows + 1 ≤ offsets.length := by rw [delimits.offsets_length]; omega
  have asNat : ((first + rows : Nat) + 1 : Int) = (first + rows + 1 : Nat) := by omega
  rw [asNat, slice_natCast, diff]
  apply List.ext_getElem
  · simp only [List.length_zipWith, List.length_tail, List.length_drop, List.length_take,
      List.length_map, List.length_range']
    omega
  · intro row inRows _
    simp only [List.length_zipWith, List.length_tail, List.length_drop, List.length_take] at inRows
    have isFirst : offsets.getD (first + row) 0 = offsets[first + row] := by
      rw [List.getD_eq_getElem?_getD, List.getElem?_eq_getElem, Option.getD_some]
    have isNext : offsets.getD (first + row + 1) 0 = offsets[first + (row + 1)] := by
      rw [List.getD_eq_getElem?_getD, List.getElem?_eq_getElem, Option.getD_some]
      rfl
    simp only [List.getElem_zipWith, List.getElem_tail, List.getElem_drop, List.getElem_take,
      List.getElem_map, List.getElem_range', Nat.one_mul, isFirst, isNext]

end Delimits

/-! ## Blocks and the loop -/

section Loop

variable [SamplerValue F] {ids offsets : List Int} {logps : List F} {count : Nat}
variable {mask : List Bool} {sampled : Option (List Int × List F)}

omit [SamplerValue F] in
theorem supportAt_fst (delimits : Delimits offsets ids.length count)
    (sameLength : logps.length = ids.length) {row : Nat} (inside : row < count) :
    (supportAt ids offsets logps row).map Prod.fst =
      slice ids (offsets.getD row 0) (offsets.getD (row + 1) 0) := by
  have ofIds := delimits.length_slice rfl inside
  have ofLogps := delimits.length_slice sameLength inside
  exact List.map_fst_zip (by omega)

omit [SamplerValue F] in
theorem supportAt_snd (delimits : Delimits offsets ids.length count)
    (sameLength : logps.length = ids.length) {row : Nat} (inside : row < count) :
    (supportAt ids offsets logps row).map Prod.snd =
      slice logps (offsets.getD row 0) (offsets.getD (row + 1) 0) := by
  have ofIds := delimits.length_slice rfl inside
  have ofLogps := delimits.length_slice sameLength inside
  exact List.map_snd_zip (by omega)

omit [SamplerValue F] in
theorem flatten_supports (delimits : Delimits offsets ids.length count)
    (sameLength : logps.length = ids.length) {first rows : Nat} (inside : first + rows ≤ count) :
    slice ids (offsets.getD first 0) (offsets.getD (first + rows) 0) =
        ((List.range' first rows).map (supportAt ids offsets logps)).flatten.map Prod.fst ∧
      slice logps (offsets.getD first 0) (offsets.getD (first + rows) 0) =
        ((List.range' first rows).map (supportAt ids offsets logps)).flatten.map Prod.snd := by
  have inBlock : ∀ row ∈ List.range' first rows, row < count := by
    intro row member
    have inRange := List.mem_range'_1.mp member
    omega
  constructor
  · rw [← delimits.flatten_slices ids rows first inside, List.map_flatten, List.map_map]
    congr 1
    exact List.map_congr_left fun row member =>
      (supportAt_fst delimits sameLength (inBlock row member)).symm
  · rw [← delimits.flatten_slices logps rows first inside, List.map_flatten, List.map_map]
    congr 1
    exact List.map_congr_left fun row member =>
      (supportAt_snd delimits sameLength (inBlock row member)).symm

omit [SamplerValue F] in
theorem lengths_supports (delimits : Delimits offsets ids.length count)
    (sameLength : logps.length = ids.length) {first rows : Nat} (inside : first + rows ≤ count) :
    diff (slice offsets (first : Int) ((first + rows : Nat) + 1 : Int)) =
      ((List.range' first rows).map (supportAt ids offsets logps)).map fun row =>
        (row.length : Int) := by
  rw [delimits.diff_slice inside, List.map_map]
  apply List.map_congr_left
  intro row member
  have inRange := List.mem_range'_1.mp member
  have inRows : row < count := by omega
  have isLength := congrArg List.length (supportAt_fst delimits sameLength inRows)
  rw [List.length_map] at isLength
  rw [Function.comp_apply, isLength, delimits.length_slice rfl inRows]

theorem getElem?_slice {α : Type} (values : List α) {first rows index : Nat}
    (inBlock : index < rows) :
    (slice values (first : Int) ((first + rows : Nat) : Int))[index]? =
      values[first + index]? := by
  rw [slice_natCast, List.getElem?_drop, List.getElem?_take_of_lt (by omega)]

theorem length_slice_rows {α : Type} {values : List α} (sized : values.length = count)
    {first rows : Nat} (inside : first + rows ≤ count) :
    (slice values (first : Int) ((first + rows : Nat) : Int)).length = rows := by
  rw [slice_natCast, List.length_drop, List.length_take]
  omega

omit [SamplerValue F] in
theorem sampledAt_slice {first rows index : Nat} (inBlock : index < rows) :
    sampledAt (sampled.map fun held =>
        (slice held.1 (first : Int) ((first + rows : Nat) : Int),
          slice held.2 (first : Int) ((first + rows : Nat) : Int))) index =
      sampledAt sampled (first + index) := by
  cases sampled with
  | none => rfl
  | some held =>
      rw [sampledAt, sampledAt, Option.map_some, Option.bind_some, Option.bind_some]
      apply Option.ext
      intro token
      rw [List.getElem?_zip_eq_some, List.getElem?_zip_eq_some, getElem?_slice _ inBlock,
        getElem?_slice _ inBlock]

/-- A block is accepted exactly if its rows are. -/
theorem validateBlock_eq_ok (delimits : Delimits offsets ids.length count)
    (sameLength : logps.length = ids.length) (maskLength : mask.length = count)
    (sampledLength : ∀ held ∈ sampled, held.1.length = count ∧ held.2.length = count)
    {first rows : Nat} (inside : first + rows ≤ count) (bounded : rows ≤ 4096) :
    validateBlock ids offsets logps mask sampled first (first + rows) = .ok () ↔
      ∀ row, first ≤ row → row < first + rows →
        RowAccepted (supportAt ids offsets logps row) (mask.getD row false)
          (sampledAt sampled row) := by
  have entries := flatten_supports delimits sameLength inside
  have sameRows : ((List.range' first rows).map (supportAt ids offsets logps)).length = rows := by
    rw [List.length_map, List.length_range']
  rw [validateBlock, lengths_supports delimits sameLength inside, entries.1, entries.2,
    validateCandidates_eq_ok (by omega)
      (by rw [sameRows]; exact length_slice_rows maskLength inside)
      (by
        intro held isHeld
        rcases Option.map_eq_some_iff.mp isHeld with ⟨whole, isWhole, rfl⟩
        have lengths := sampledLength whole isWhole
        rw [sameRows]
        exact ⟨length_slice_rows lengths.1 inside, length_slice_rows lengths.2 inside⟩)]
  have readRow : ∀ index, index < rows →
      ((List.range' first rows).map (supportAt ids offsets logps))[index]? =
        some (supportAt ids offsets logps (first + index)) ∧
      (slice mask (first : Int) ((first + rows : Nat) : Int)).getD index false =
        mask.getD (first + index) false := by
    intro index inBlock
    constructor
    · rw [List.getElem?_map, List.getElem?_range' inBlock, Nat.one_mul]
      rfl
    · rw [List.getD_eq_getElem?_getD, List.getD_eq_getElem?_getD, getElem?_slice _ inBlock]
  constructor
  · intro accepted row later before
    have inBlock : row - first < rows := by omega
    have sameRow : first + (row - first) = row := by omega
    have isRow := readRow (row - first) inBlock
    have found := accepted (row - first) _ isRow.1
    rw [isRow.2, sampledAt_slice inBlock, sameRow] at found
    exact found
  · intro accepted index row isRow
    have inBlock : index < rows := by
      have bound := (List.getElem?_eq_some_iff.mp isRow).1
      rw [sameRows] at bound
      exact bound
    have isSupport := readRow index inBlock
    rw [isSupport.1] at isRow
    rw [← Option.some.inj isRow, isSupport.2, sampledAt_slice inBlock]
    exact accepted (first + index) (by omega) (by omega)

/-- The loop accepts exactly if the rows from `first` on are accepted. -/
theorem validateBlocks_eq_ok (delimits : Delimits offsets ids.length count)
    (sameLength : logps.length = ids.length) (maskLength : mask.length = count)
    (sampledLength : ∀ held ∈ sampled, held.1.length = count ∧ held.2.length = count)
    (first : Nat) :
    validateBlocks ids offsets logps count mask sampled first = .ok () ↔
      ∀ row, first ≤ row → row < count →
        RowAccepted (supportAt ids offsets logps row) (mask.getD row false)
          (sampledAt sampled row) := by
  rw [validateBlocks]
  by_cases more : first < count
  · have progress := lt_blockStop offsets more
    have inside := blockStop_le offsets count first
    have width : blockStop offsets count first ≤ first + 4096 := by
      rw [blockStop]
      omega
    have isStop : first + (blockStop offsets count first - first) =
        blockStop offsets count first := by omega
    have block := validateBlock_eq_ok delimits sameLength maskLength sampledLength
      (show first + (blockStop offsets count first - first) ≤ count by omega)
      (show blockStop offsets count first - first ≤ 4096 by omega)
    rw [isStop] at block
    rw [if_pos more, check_bind_eq_ok, block, validateBlocks_eq_ok delimits sameLength maskLength
      sampledLength (blockStop offsets count first)]
    constructor
    · intro accepted row later before
      rcases Nat.lt_or_ge row (blockStop offsets count first) with inBlock | after
      · exact accepted.1 row later inBlock
      · exact accepted.2 row after before
    · intro accepted
      exact ⟨fun row later before => accepted row later (by omega),
        fun row later before => accepted row (by omega) before⟩
  · rw [if_neg more]
    exact ⟨fun _ row later before => absurd before (by omega), fun _ => rfl⟩
  termination_by count - first

end Loop

/-! ## The function -/

/-- Arrays whose shapes and dtypes fit, with offsets of `count` rows. -/
structure FitArrays (ids offsets : IdArray) (logps : NdArray F) (count : Nat)
    (idEntries offsetEntries : List Int) : Prop where
  oneDimensional : ids.shape.length = 1
  sameShape : logps.shape = ids.shape
  offsetsShape : offsets.shape = [count + 1]
  ids : ids.integers? = some idEntries
  offsets : offsets.integers? = some offsetEntries
  first : offsetEntries.head? = some 0
  last : offsetEntries.getLast? = some (idEntries.length : Int)
  ordered : offsetEntries.Pairwise (· ≤ ·)

def sampledPairs (tokens : Option (NdArray Int)) (sampledLogps : Option (NdArray F)) :
    Option (List Int × List F) :=
  tokens.bind fun tokens => sampledLogps.map fun logps => (tokens.entries, logps.entries)

def trainableRows (lossMask : Option (NdArray Bool)) (count : Nat) : List Bool :=
  (lossMask.map NdArray.entries).getD (List.replicate count true)

def FitSampled (tokens : Option (NdArray Int)) (sampledLogps : Option (NdArray F))
    (count : Nat) : Prop :=
  ∀ array ∈ tokens, array.shape = [count] ∧ ∃ logps ∈ sampledLogps, logps.shape = [count]

/-- What the function asks: shapes and dtypes that fit, and every row accepted by itself. -/
structure AcceptedRows [SamplerValue F] (ids offsets : IdArray) (logps : NdArray F) (count : Nat)
    (lossMask : Option (NdArray Bool)) (tokens : Option (NdArray Int))
    (sampledLogps : Option (NdArray F)) (idEntries offsetEntries : List Int) : Prop where
  arrays : FitArrays ids offsets logps count idEntries offsetEntries
  mask : ∀ mask ∈ lossMask, mask.shape = [count]
  sampled : FitSampled tokens sampledLogps count
  rows : ∀ row < count,
    RowAccepted (supportAt idEntries offsetEntries logps.entries row)
      ((trainableRows lossMask count).getD row false)
      (sampledAt (sampledPairs tokens sampledLogps) row)

section Function

variable {ids offsets : IdArray} {logps : NdArray F} {count : Nat}

theorem NdArray.length_of_shape {α : Type} {array : NdArray α} {length : Nat}
    (isShape : array.shape = [length]) : array.entries.length = length := by
  rw [array.sized, isShape]
  simp

theorem IdArray.length_of_shape {array : IdArray} {entries : List Int}
    (isEntries : array.integers? = some entries) {length : Nat}
    (isShape : array.shape = [length]) : entries.length = length := by
  cases array with
  | integers array =>
      rw [← Option.some.inj isEntries]
      exact NdArray.length_of_shape isShape
  | others shape => cases isEntries

theorem FitArrays.delimits {idEntries offsetEntries : List Int}
    (fit : FitArrays ids offsets logps count idEntries offsetEntries) :
    Delimits offsetEntries idEntries.length count where
  offsets_length := IdArray.length_of_shape fit.offsets fit.offsetsShape
  first := fit.first
  last := fit.last
  ordered := fit.ordered

theorem FitArrays.sameLength {idEntries offsetEntries : List Int}
    (fit : FitArrays ids offsets logps count idEntries offsetEntries) :
    logps.entries.length = idEntries.length := by
  rcases List.length_eq_one_iff.mp fit.oneDimensional with ⟨length, isShape⟩
  rw [IdArray.length_of_shape fit.ids isShape,
    NdArray.length_of_shape (fit.sameShape.trans isShape)]

theorem integerArrays_eq_ok {entries : List Int × List Int} :
    integerArrays ids offsets logps count = .ok entries ↔
      FitArrays ids offsets logps count entries.1 entries.2 := by
  rw [integerArrays, check_bind_eq_ok, raiseIf_eq_ok, not_or, not_or, not_not, not_not, not_not]
  constructor
  · intro returned
    rcases returned with ⟨⟨oneDimensional, sameShape, offsetsShape⟩, returned⟩
    split at returned
    · rename_i idEntries offsetEntries isIds isOffsets
      rw [check_bind_eq_ok, raiseIf_eq_ok] at returned
      rcases returned with ⟨good, same⟩
      have delimits := (badOffsets_iff (IdArray.length_of_shape isOffsets offsetsShape)).mp good
      rw [← Except.ok.inj same]
      exact ⟨oneDimensional, sameShape, offsetsShape, isIds, isOffsets, delimits.first,
        delimits.last, delimits.ordered⟩
    · cases returned
  · intro fit
    refine ⟨⟨fit.oneDimensional, fit.sameShape, fit.offsetsShape⟩, ?_⟩
    rw [fit.ids, fit.offsets]
    dsimp only
    rw [check_bind_eq_ok, raiseIf_eq_ok, badOffsets_iff fit.delimits.offsets_length]
    exact ⟨fit.delimits, rfl⟩

theorem checkedMask_eq_ok {lossMask : Option (NdArray Bool)} {mask : List Bool} :
    checkedMask lossMask count = .ok mask ↔
      (∀ held ∈ lossMask, held.shape = [count]) ∧ mask = trainableRows lossMask count := by
  cases lossMask with
  | none =>
      constructor
      · intro returned
        exact ⟨nofun, (Except.ok.inj returned).symm⟩
      · intro facts
        rw [facts.2]
        rfl
  | some held =>
      rw [checkedMask, check_bind_eq_ok, raiseIf_eq_ok, not_not]
      constructor
      · intro returned
        refine ⟨fun other isOther => ?_, (Except.ok.inj returned.2).symm⟩
        rw [← Option.some.inj isOther]
        exact returned.1
      · intro facts
        rw [facts.2]
        exact ⟨facts.1 held rfl, rfl⟩

theorem length_trainableRows {lossMask : Option (NdArray Bool)}
    (fits : ∀ held ∈ lossMask, held.shape = [count]) :
    (trainableRows lossMask count).length = count := by
  cases lossMask with
  | none => exact List.length_replicate
  | some held => exact NdArray.length_of_shape (fits held rfl)

theorem checkedSampled_eq_ok {tokens : Option (NdArray Int)} {sampledLogps : Option (NdArray F)}
    {sampled : Option (List Int × List F)} :
    checkedSampled tokens sampledLogps count = .ok sampled ↔
      FitSampled tokens sampledLogps count ∧ sampled = sampledPairs tokens sampledLogps := by
  cases tokens with
  | none =>
      constructor
      · intro returned
        exact ⟨nofun, (Except.ok.inj returned).symm⟩
      · intro facts
        rw [facts.2]
        rfl
  | some array =>
      have shaped : ((sampledLogps.map NdArray.shape).getD [] = [count]) ↔
          ∃ logps ∈ sampledLogps, logps.shape = [count] := by
        cases sampledLogps with
        | none => simp
        | some logps => simp
      rw [checkedSampled, check_bind_eq_ok, raiseIf_eq_ok, not_or, not_not, not_not, shaped]
      constructor
      · intro returned
        refine ⟨fun other isOther => ?_, (Except.ok.inj returned.2).symm⟩
        rw [← Option.some.inj isOther]
        exact returned.1
      · intro facts
        rw [facts.2]
        exact ⟨facts.1 array rfl, rfl⟩

theorem length_sampledPairs {tokens : Option (NdArray Int)} {sampledLogps : Option (NdArray F)}
    (fits : FitSampled tokens sampledLogps count) :
    ∀ held ∈ sampledPairs tokens sampledLogps,
      held.1.length = count ∧ held.2.length = count := by
  intro held isHeld
  rcases Option.bind_eq_some_iff.mp isHeld with ⟨array, isArray, more⟩
  rcases Option.map_eq_some_iff.mp more with ⟨logps, isLogps, rfl⟩
  rcases fits array isArray with ⟨arrayShape, other, isOther, logpsShape⟩
  rw [isLogps] at isOther
  rw [← Option.some.inj isOther] at logpsShape
  exact ⟨NdArray.length_of_shape arrayShape, NdArray.length_of_shape logpsShape⟩

end Function

/-- The function returns exactly if the shapes and dtypes fit and every row is accepted by
itself, wherever the blocks end. -/
theorem validateSamplerTopP_eq_ok_iff [SamplerValue F] (ids offsets : Option IdArray)
    (logps : Option (NdArray F)) (count : Nat) (lossMask : Option (NdArray Bool))
    (tokens : Option (NdArray Int)) (sampledLogps : Option (NdArray F)) :
    validateSamplerTopP ids offsets logps count lossMask tokens sampledLogps = .ok () ↔
      ∃ idArray ∈ ids, ∃ offsetArray ∈ offsets, ∃ logpArray ∈ logps,
        ∃ idEntries offsetEntries, AcceptedRows idArray offsetArray logpArray count lossMask
          tokens sampledLogps idEntries offsetEntries := by
  rw [validateSamplerTopP.eq_def]
  constructor
  · intro returned
    split at returned
    · rename_i idArray offsetArray logpArray
      rcases bind_eq_ok.mp returned with ⟨arrays, isArrays, withArrays⟩
      rcases bind_eq_ok.mp withArrays with ⟨mask, isMask, withMask⟩
      rcases bind_eq_ok.mp withMask with ⟨sampled, isSampled, accepted⟩
      have fit := integerArrays_eq_ok.mp isArrays
      rcases checkedMask_eq_ok.mp isMask with ⟨maskFits, rfl⟩
      rcases checkedSampled_eq_ok.mp isSampled with ⟨sampledFits, rfl⟩
      rw [validateBlocks_eq_ok fit.delimits fit.sameLength (length_trainableRows maskFits)
        (length_sampledPairs sampledFits)] at accepted
      exact ⟨_, rfl, _, rfl, _, rfl, arrays.1, arrays.2, fit, maskFits, sampledFits,
        fun row inside => accepted row (Nat.zero_le row) inside⟩
    · cases returned
  · intro found
    rcases found with ⟨idArray, isIds, offsetArray, isOffsets, logpArray, isLogps, idEntries,
      offsetEntries, accepted⟩
    rw [Option.mem_def.mp isIds, Option.mem_def.mp isOffsets, Option.mem_def.mp isLogps]
    have isArrays : integerArrays idArray offsetArray logpArray count =
        .ok (idEntries, offsetEntries) := integerArrays_eq_ok.mpr accepted.arrays
    dsimp only
    rw [isArrays, ok_bind, checkedMask_eq_ok.mpr ⟨accepted.mask, rfl⟩, ok_bind,
      checkedSampled_eq_ok.mpr ⟨accepted.sampled, rfl⟩, ok_bind,
      validateBlocks_eq_ok accepted.arrays.delimits accepted.arrays.sameLength
        (length_trainableRows accepted.mask) (length_sampledPairs accepted.sampled)]
    exact fun row _ inside => accepted.rows row inside

end Vime.Utils.SamplerSupports
