import Vime.Foundation.Occurrences
import Vime.Foundation.Python
import Vime.Foundation.StableSort
import Vime.Utils.Types

/-! # Realigning multimodal placeholders

`_align_mm_feature_placeholders_to_tokens` of `vime/rollout/vllm_rollout.py`: the
placeholders of a render response are moved to the canonical prompt tokens, each
to its first occurrence after the one before it.
-/

namespace Vime.Rollout

open Vime.Foundation Vime.Utils

/-! ## Render responses -/

/-- A value among the placeholders of a modality; a missing key of an entry is `none`. -/
inductive PlaceholderValue where
  | entry (offset length : Option Int)
  | notDict (typeName : String)
  | notList (typeName : String)
  deriving DecidableEq, Repr

structure PlaceholderItem where
  modality : String
  value : PlaceholderValue
  deriving DecidableEq, Repr

/-- `mm_placeholders` lists the values of all modalities in the order of the dictionary; it is
`none` where it is no dictionary. -/
structure Features where
  mmPlaceholders : Option (List PlaceholderItem)
  deriving DecidableEq, Repr

structure GenerateBody where
  features : Option Features
  tokenIds : List TokenId
  deriving DecidableEq, Repr

def findTokenSubsequence (haystack needle : List TokenId) (start : Int) : Int :=
  if needle = [] then
    max start 0
  else
    let stop : Int := haystack.length - needle.length + 1
    let found := (pyRange (max start 0).toNat (max stop 0).toNat 1).find? fun position : Nat =>
      decide (slice haystack position ((position + needle.length : Nat) : Int) = needle)
    match found with
    | some position => position
    | none => -1

/-- An entry whose render range has been checked, with its place in the response. -/
structure OrderedEntry where
  offset : Nat
  length : Nat
  modality : String
  index : Nat
  deriving DecidableEq, Repr

def checkedEntry (renderLen : Nat) (item : PlaceholderItem) (index : Nat) :
    Except PyException OrderedEntry :=
  match item.value with
  | .notList typeName => .error (.valueError
      s!"Cannot align vLLM {item.modality} placeholders: entries is {typeName}, expected list")
  | .notDict typeName => .error (.valueError
      s!"Cannot align vLLM {item.modality} placeholder: entry is {typeName}, expected dict")
  | .entry offset length =>
      let offset := offset.getD (-1)
      let length := length.getD (-1)
      if offset < 0 ∨ length ≤ 0 ∨ renderLen < offset + length then
        .error (.valueError
          s!"Cannot align vLLM {item.modality} placeholder: invalid render range offset={offset}, length={length}, render_len={renderLen}")
      else
        .ok ⟨offset.toNat, length.toNat, item.modality, index⟩

def OrderedEntry.placeholderTokens (entry : OrderedEntry) (renderTokenIds : List TokenId) :
    List TokenId :=
  slice renderTokenIds entry.offset ((entry.offset + entry.length : Nat) : Int)

def writeEntry (items : List PlaceholderItem) (index : Nat) (offset length : Int) :
    List PlaceholderItem :=
  items.modify index fun item => { item with value := .entry (some offset) (some length) }

def placeEntries (renderTokenIds tokenIds : List TokenId) :
    Int → List PlaceholderItem → List OrderedEntry → Except PyException (List PlaceholderItem)
  | _, items, [] => .ok items
  | searchStart, items, entry :: rest =>
      let tokens := entry.placeholderTokens renderTokenIds
      let offset := findTokenSubsequence tokenIds tokens searchStart
      if offset < 0 then
        .error (.valueError
          s!"Cannot align vLLM {entry.modality} placeholder from render offset={entry.offset}, length={entry.length}: placeholder token slice not found in canonical token_ids")
      else
        placeEntries renderTokenIds tokenIds (offset + tokens.length)
          (writeEntry items entry.index offset tokens.length) rest

/-- `sorted` by render offset, which keeps the order of equal offsets. -/
def sortEntries (entries : List OrderedEntry) : List OrderedEntry :=
  entries.mergeSort fun left right => decide (left.offset ≤ right.offset)

def alignMmFeaturePlaceholdersToTokens (generateBody : GenerateBody)
    (tokenIds : List TokenId) : Except PyException GenerateBody :=
  match generateBody.features with
  | none => .ok generateBody
  | some features =>
      match features.mmPlaceholders with
      | none => .error (.valueError "vLLM multimodal features missing mm_placeholders")
      | some items => do
          raiseIf (generateBody.tokenIds = []) (.valueError
            "Cannot align vLLM multimodal placeholders: render response missing token_ids")
          let entries ← items.zipIdx.mapM fun (item, index) =>
            checkedEntry generateBody.tokenIds.length item index
          let placed ← placeEntries generateBody.tokenIds tokenIds 0 items (sortEntries entries)
          pure { generateBody with features := some { mmPlaceholders := some placed } }

/-! ## Search -/

theorem findTokenSubsequence_eq {haystack needle : List TokenId} (nonempty : needle ≠ [])
    (start : Nat) :
    findTokenSubsequence haystack needle start =
      match firstOccurrence haystack needle start with
      | some position => (position : Int)
      | none => -1 := by
  have startEq : (max (start : Int) 0).toNat = start := by omega
  have stopEq : (max ((haystack.length : Int) - needle.length + 1) 0).toNat =
      haystack.length + 1 - needle.length := by omega
  have samePlaces : (fun position : Nat =>
      decide (slice haystack position ((position + needle.length : Nat) : Int) = needle)) =
      fun position => decide (OccursAt haystack needle position) := by
    funext position
    rw [slice_natCast, List.drop_take, Nat.add_sub_cancel_left]
    rfl
  rw [findTokenSubsequence, if_neg nonempty]
  dsimp only
  rw [startEq, stopEq, pyRange_one, samePlaces]
  rfl

/-! ## Placements -/

/-- A placeholder of a render response: its modality and its render range. -/
structure Placeholder where
  modality : String
  offset : Nat
  length : Nat
  deriving DecidableEq, Repr

def Placeholder.item (placeholder : Placeholder) : PlaceholderItem where
  modality := placeholder.modality
  value := .entry (some placeholder.offset) (some placeholder.length)

def Placeholder.rendered (placeholder : Placeholder) (renderTokenIds : List TokenId) :
    List TokenId :=
  (renderTokenIds.drop placeholder.offset).take placeholder.length

/-- The range is inside the rendered tokens. -/
structure Placeholder.Inside (renderLen : Nat) (placeholder : Placeholder) : Prop where
  positive : 0 < placeholder.length
  bounded : placeholder.offset + placeholder.length ≤ renderLen

def renderBody (renderTokenIds : List TokenId) (placeholders : List Placeholder) :
    GenerateBody where
  features := some { mmPlaceholders := some (placeholders.map Placeholder.item) }
  tokenIds := renderTokenIds

def movedTo (placeholders : List Placeholder) (offsets : Nat → Nat) : List Placeholder :=
  placeholders.mapIdx fun index placeholder => { placeholder with offset := offsets index }

def RenderedBefore (placeholders : List Placeholder) (first second : Nat) : Prop :=
  ∃ earlier later, placeholders[first]? = some earlier ∧ placeholders[second]? = some later ∧
    (earlier.offset < later.offset ∨ earlier.offset = later.offset ∧ first < second)

/-- Offsets in the canonical tokens at which the placeholders, in the order of their render
offsets, occupy disjoint increasing ranges that hold the rendered tokens. -/
structure Alignment (renderTokenIds tokenIds : List TokenId) (placeholders : List Placeholder)
    (offsets : Nat → Nat) : Prop where
  tokens : ∀ index placeholder, placeholders[index]? = some placeholder →
    OccursAt tokenIds (placeholder.rendered renderTokenIds) (offsets index)
  increasing : ∀ first second, RenderedBefore placeholders first second →
    ∀ earlier, placeholders[first]? = some earlier →
      offsets first + earlier.length ≤ offsets second

section Entries

variable {renderTokenIds tokenIds : List TokenId} {placeholders : List Placeholder}

def Placeholder.ordered (placeholder : Placeholder) (index : Nat) : OrderedEntry where
  offset := placeholder.offset
  length := placeholder.length
  modality := placeholder.modality
  index := index

theorem checkedEntry_eq {renderLen index : Nat} {placeholder : Placeholder}
    (inside : placeholder.Inside renderLen) :
    checkedEntry renderLen placeholder.item index = .ok (placeholder.ordered index) := by
  have positive := inside.positive
  have bounded := inside.bounded
  have passes : ¬ ((placeholder.offset : Int) < 0 ∨ (placeholder.length : Int) ≤ 0 ∨
      (renderLen : Int) < placeholder.offset + placeholder.length) := by omega
  rw [checkedEntry, Placeholder.item]
  dsimp only [Option.getD_some]
  rw [if_neg passes, Int.toNat_natCast, Int.toNat_natCast]
  rfl

theorem placeholderTokens_ordered (placeholder : Placeholder) (index : Nat) :
    (placeholder.ordered index).placeholderTokens renderTokenIds =
      placeholder.rendered renderTokenIds := by
  rw [OrderedEntry.placeholderTokens, slice_natCast, List.drop_take, Nat.add_sub_cancel_left]
  rfl

theorem rendered_length {placeholder : Placeholder}
    (inside : placeholder.Inside renderTokenIds.length) :
    (placeholder.rendered renderTokenIds).length = placeholder.length := by
  have bounded := inside.bounded
  rw [Placeholder.rendered, List.length_take, List.length_drop]
  omega

def responseEntries (placeholders : List Placeholder) : List OrderedEntry :=
  placeholders.mapIdx fun index placeholder => placeholder.ordered index

theorem mapM_checkedEntry (inside : ∀ placeholder ∈ placeholders,
      placeholder.Inside renderTokenIds.length) :
    ((placeholders.map Placeholder.item).zipIdx.mapM fun (item, index) =>
        checkedEntry renderTokenIds.length item index) = .ok (responseEntries placeholders) := by
  rw [responseEntries, List.mapIdx_eq_zipIdx_map, List.zipIdx_map]
  apply mapM_map_eq_ok
  rintro ⟨placeholder, index⟩ member
  exact checkedEntry_eq (inside placeholder (List.fst_mem_of_mem_zipIdx member))

/-! ## The order of the entries -/

def PlacedBefore (left right : OrderedEntry) : Prop :=
  left.offset < right.offset ∨ left.offset = right.offset ∧ left.index < right.index

theorem mem_responseEntries {entry : OrderedEntry} :
    entry ∈ responseEntries placeholders ↔
      ∃ placeholder, placeholders[entry.index]? = some placeholder ∧
        placeholder.ordered entry.index = entry := by
  rw [responseEntries, List.mem_iff_getElem?]
  constructor
  · rintro ⟨index, found⟩
    rw [List.getElem?_mapIdx, Option.map_eq_some_iff] at found
    rcases found with ⟨placeholder, isPlaceholder, rfl⟩
    exact ⟨placeholder, isPlaceholder, rfl⟩
  · rintro ⟨placeholder, isPlaceholder, same⟩
    refine ⟨entry.index, ?_⟩
    rw [List.getElem?_mapIdx, isPlaceholder, Option.map_some, same]

theorem responseEntries_pairwise :
    (responseEntries placeholders).Pairwise fun left right => left.index < right.index := by
  rw [responseEntries, List.pairwise_iff_getElem]
  intro first second firstInside secondInside before
  rw [List.getElem_mapIdx, List.getElem_mapIdx]
  exact before

theorem sortEntries_pairwise :
    (sortEntries (responseEntries placeholders)).Pairwise PlacedBefore := by
  have ordered : (responseEntries placeholders).Pairwise fun left right =>
      left.index < right.index := responseEntries_pairwise
  have stable := mergeSort_stable
    (fun first second third (below : decide (first.offset ≤ second.offset) = true) above => by
      simp only [decide_eq_true_eq] at below above ⊢
      exact Nat.le_trans below above)
    (fun left right => by simpa using Nat.le_total left.offset right.offset)
    ordered
  refine stable.imp ?_
  rintro left right ⟨below, tied⟩
  rw [decide_eq_true_eq] at below
  rcases Nat.lt_or_eq_of_le below with less | equal
  · exact .inl less
  · exact .inr ⟨equal, tied (decide_eq_true_eq.mpr (Nat.le_of_eq equal.symm))⟩

theorem PlacedBefore.irrefl (entry : OrderedEntry) : ¬ PlacedBefore entry entry := by
  rintro (less | ⟨_, less⟩)
  · exact Nat.lt_irrefl _ less
  · exact Nat.lt_irrefl _ less

theorem PlacedBefore.asymm {left right : OrderedEntry} (before : PlacedBefore left right) :
    ¬ PlacedBefore right left := by
  simp only [PlacedBefore] at before ⊢
  omega

theorem renderedBefore_iff {first second : Nat} {earlier later : Placeholder}
    (isEarlier : placeholders[first]? = some earlier)
    (isLater : placeholders[second]? = some later) :
    RenderedBefore placeholders first second ↔
      PlacedBefore (earlier.ordered first) (later.ordered second) := by
  constructor
  · rintro ⟨_, _, isFirst, isSecond, before⟩
    rw [isEarlier, Option.some.injEq] at isFirst
    rw [isLater, Option.some.injEq] at isSecond
    subst isFirst isSecond
    exact before
  · exact fun before => ⟨earlier, later, isEarlier, isLater, before⟩

/-! ## The loop -/

def writePlaces (renderTokenIds : List TokenId) (items : List PlaceholderItem)
    (places : List (OrderedEntry × Nat)) : List PlaceholderItem :=
  places.foldl (fun items place => writeEntry items place.1.index place.2
    (place.1.placeholderTokens renderTokenIds).length) items

/-- The loop succeeds exactly if the leftmost places exist, and writes them. -/
theorem placeEntries_eq_ok :
    ∀ {entries : List OrderedEntry} {start : Nat} {items placed : List PlaceholderItem},
      (∀ entry ∈ entries, entry.placeholderTokens renderTokenIds ≠ []) →
      (placeEntries renderTokenIds tokenIds start items entries = .ok placed ↔
        ∃ positions, leftmostPlaces tokenIds start
            (entries.map (OrderedEntry.placeholderTokens · renderTokenIds)) = some positions ∧
          writePlaces renderTokenIds items (entries.zip positions) = placed)
  | [], start, items, placed, _ => by
      simp [placeEntries, leftmostPlaces, writePlaces]
  | entry :: rest, start, items, placed, nonempty => by
      rw [List.forall_mem_cons] at nonempty
      rw [placeEntries, findTokenSubsequence_eq nonempty.1, List.map_cons, leftmostPlaces]
      cases found : firstOccurrence tokenIds (entry.placeholderTokens renderTokenIds) start with
      | none => simp
      | some position =>
          dsimp only [Option.bind_some]
          have found' : ¬ (position : Int) < 0 := by omega
          rw [if_neg found', ← Int.natCast_add, placeEntries_eq_ok nonempty.2]
          constructor
          · rintro ⟨positions, positionsEq, written⟩
            refine ⟨position :: positions, ?_, written⟩
            rw [positionsEq, Option.map_some]
          · rintro ⟨positions, positionsEq, written⟩
            rw [Option.map_eq_some_iff] at positionsEq
            rcases positionsEq with ⟨later, laterEq, rfl⟩
            exact ⟨later, laterEq, written⟩

/-- The offset written to the entry at `index`. -/
def assignedOffset (places : List (OrderedEntry × Nat)) (index : Nat) : Nat :=
  ((places.find? fun place => decide (place.1.index = index)).map Prod.snd).getD 0

theorem find?_place {places : List (OrderedEntry × Nat)}
    (distinct : (places.map fun place => place.1.index).Nodup) {place : OrderedEntry × Nat}
    (member : place ∈ places) :
    places.find? (fun other => decide (other.1.index = place.1.index)) = some place := by
  induction places with
  | nil => cases member
  | cons first rest induction =>
      rw [List.map_cons, List.nodup_cons] at distinct
      rcases List.mem_cons.mp member with rfl | later
      · simp
      · have different : first.1.index ≠ place.1.index := by
          intro same
          exact distinct.1 (List.mem_map.mpr ⟨place, later, same.symm⟩)
        rw [List.find?_cons, decide_eq_false different]
        exact induction distinct.2 later

theorem assignedOffset_eq {places : List (OrderedEntry × Nat)}
    (distinct : (places.map fun place => place.1.index).Nodup) {place : OrderedEntry × Nat}
    (member : place ∈ places) : assignedOffset places place.1.index = place.2 := by
  rw [assignedOffset, find?_place distinct member]
  rfl

theorem writePlaces_getElem? :
    ∀ {places : List (OrderedEntry × Nat)} {items : List PlaceholderItem},
      (places.map fun place => place.1.index).Nodup → ∀ index : Nat,
      (writePlaces renderTokenIds items places)[index]? = items[index]?.map fun item =>
        match places.find? fun place => decide (place.1.index = index) with
        | some place => { item with
            value := .entry (some place.2)
              (some (place.1.placeholderTokens renderTokenIds).length) }
        | none => item
  | [], items, _, index => by
      cases found : items[index]? with
      | none => simp [writePlaces, found]
      | some item => simp [writePlaces, found]
  | place :: rest, items, distinct, index => by
      rw [List.map_cons, List.nodup_cons] at distinct
      rw [writePlaces, List.foldl_cons]
      refine (writePlaces_getElem? distinct.2 index).trans ?_
      rw [writeEntry, List.getElem?_modify]
      by_cases here : place.1.index = index
      · have absent : rest.find? (fun other => decide (other.1.index = index)) = none := by
          rw [List.find?_eq_none]
          intro other member same
          rw [decide_eq_true_eq] at same
          exact distinct.1 (List.mem_map.mpr ⟨other, member, same.trans here.symm⟩)
        rw [List.find?_cons, decide_eq_true here, absent]
        cases items[index]? with
        | none => rfl
        | some item => simp [here]
      · rw [List.find?_cons, decide_eq_false here]
        cases items[index]? with
        | none => rfl
        | some item => simp [here]

/-! ## The places are an alignment -/

variable {positions : List Nat}

def foundPlaces (placeholders : List Placeholder) (positions : List Nat) :
    List (OrderedEntry × Nat) :=
  (sortEntries (responseEntries placeholders)).zip positions

def Places (renderTokenIds tokenIds : List TokenId) (placeholders : List Placeholder)
    (positions : List Nat) : Prop :=
  PlacedFrom tokenIds 0 ((sortEntries (responseEntries placeholders)).map
    (OrderedEntry.placeholderTokens · renderTokenIds)) positions

theorem mem_sortEntries {entry : OrderedEntry} :
    entry ∈ sortEntries (responseEntries placeholders) ↔
      ∃ placeholder, placeholders[entry.index]? = some placeholder ∧
        placeholder.ordered entry.index = entry := by
  rw [sortEntries, List.mem_mergeSort, mem_responseEntries]

theorem foundPlaces_entries
    (sameLength : (sortEntries (responseEntries placeholders)).length = positions.length) :
    (foundPlaces placeholders positions).map Prod.fst =
      sortEntries (responseEntries placeholders) := by
  rw [foundPlaces, List.map_fst_zip (Nat.le_of_eq sameLength)]

theorem foundPlaces_distinct
    (sameLength : (sortEntries (responseEntries placeholders)).length = positions.length) :
    ((foundPlaces placeholders positions).map fun place => place.1.index).Nodup := by
  have indices : (foundPlaces placeholders positions).map (fun place => place.1.index) =
      ((foundPlaces placeholders positions).map Prod.fst).map OrderedEntry.index := by
    rw [List.map_map]
    rfl
  have perm := (List.mergeSort_perm (responseEntries placeholders)
    fun left right => decide (left.offset ≤ right.offset)).map OrderedEntry.index
  rw [indices, foundPlaces_entries sameLength, sortEntries, perm.nodup_iff, List.Nodup,
    List.pairwise_map]
  exact responseEntries_pairwise.imp fun before => Nat.ne_of_lt before

theorem exists_place
    (sameLength : (sortEntries (responseEntries placeholders)).length = positions.length)
    {index : Nat} {placeholder : Placeholder}
    (isPlaceholder : placeholders[index]? = some placeholder) :
    ∃ position, (placeholder.ordered index, position) ∈ foundPlaces placeholders positions := by
  have member : placeholder.ordered index ∈ sortEntries (responseEntries placeholders) :=
    mem_sortEntries.mpr ⟨placeholder, isPlaceholder, rfl⟩
  rw [← foundPlaces_entries sameLength, List.mem_map] at member
  rcases member with ⟨⟨_, position⟩, member, rfl⟩
  exact ⟨position, member⟩

theorem Places.alignment
    (inside : ∀ placeholder ∈ placeholders, placeholder.Inside renderTokenIds.length)
    (placed : Places renderTokenIds tokenIds placeholders positions) :
    Alignment renderTokenIds tokenIds placeholders
      (assignedOffset (foundPlaces placeholders positions)) := by
  rcases placed.pairwise (OrderedEntry.placeholderTokens · renderTokenIds) with
    ⟨sameLength, stand, increasing⟩
  have distinct := foundPlaces_distinct sameLength
  constructor
  · intro index placeholder isPlaceholder
    rcases exists_place sameLength isPlaceholder with ⟨position, member⟩
    have occurs := (stand _ member).2
    rw [placeholderTokens_ordered] at occurs
    have assigned := assignedOffset_eq distinct member
    dsimp only [Placeholder.ordered] at assigned
    rw [assigned]
    exact occurs
  · intro first second before earlier isEarlier
    rcases before with ⟨_, later, isFirst, isLater, less⟩
    rw [isEarlier, Option.some.injEq] at isFirst
    subst isFirst
    rcases exists_place sameLength isEarlier with ⟨firstPosition, firstMember⟩
    rcases exists_place sameLength isLater with ⟨secondPosition, secondMember⟩
    have firstAssigned := assignedOffset_eq distinct firstMember
    have secondAssigned := assignedOffset_eq distinct secondMember
    dsimp only [Placeholder.ordered] at firstAssigned secondAssigned
    rw [firstAssigned, secondAssigned]
    have isBefore : PlacedBefore (earlier.ordered first) (later.ordered second) := less
    have ordered : (foundPlaces placeholders positions).Pairwise fun left right =>
        PlacedBefore left.1 right.1 := by
      rw [← List.pairwise_map (f := Prod.fst), foundPlaces_entries sameLength]
      exact sortEntries_pairwise
    have different : (earlier.ordered first, firstPosition) ≠
        (later.ordered second, secondPosition) := by
      intro same
      rw [Prod.mk.injEq] at same
      rw [same.1] at isBefore
      exact isBefore.irrefl
    have follows : firstPosition + ((earlier.ordered first).placeholderTokens
        renderTokenIds).length ≤ secondPosition := by
      rcases pairwise_rel_or_rel (ordered.and increasing) firstMember secondMember different with
        ⟨_, follows⟩ | ⟨other, _⟩
      · exact follows
      · exact absurd other isBefore.asymm
    have bounded := inside earlier (List.mem_of_getElem? isEarlier)
    rw [placeholderTokens_ordered, rendered_length bounded] at follows
    exact follows

theorem Alignment.places
    (inside : ∀ placeholder ∈ placeholders, placeholder.Inside renderTokenIds.length)
    {offsets : Nat → Nat} (aligned : Alignment renderTokenIds tokenIds placeholders offsets) :
    ∃ positions, Places renderTokenIds tokenIds placeholders positions := by
  refine ⟨_, PlacedFrom.of_pairwise (OrderedEntry.placeholderTokens · renderTokenIds)
    (fun entry => offsets entry.index) ?_ ?_⟩
  · intro entry member
    rcases mem_sortEntries.mp member with ⟨placeholder, isPlaceholder, same⟩
    rw [← same, placeholderTokens_ordered]
    exact ⟨Nat.zero_le _, aligned.tokens _ placeholder isPlaceholder⟩
  · refine List.Pairwise.imp_of_mem ?_ sortEntries_pairwise
    intro left right leftIn rightIn before
    rcases mem_sortEntries.mp leftIn with ⟨earlier, isEarlier, sameLeft⟩
    rcases mem_sortEntries.mp rightIn with ⟨later, isLater, sameRight⟩
    rw [← sameLeft, ← sameRight] at before
    have bounded := inside earlier (List.mem_of_getElem? isEarlier)
    have follows := aligned.increasing left.index right.index
      ((renderedBefore_iff isEarlier isLater).mpr before) earlier isEarlier
    rw [← sameLeft, placeholderTokens_ordered, rendered_length bounded]
    exact follows

theorem writePlaces_moved
    (inside : ∀ placeholder ∈ placeholders, placeholder.Inside renderTokenIds.length)
    (sameLength : (sortEntries (responseEntries placeholders)).length = positions.length) :
    writePlaces renderTokenIds (placeholders.map Placeholder.item)
        (foundPlaces placeholders positions) =
      (movedTo placeholders (assignedOffset (foundPlaces placeholders positions))).map
        Placeholder.item := by
  have distinct := foundPlaces_distinct sameLength
  apply List.ext_getElem?
  intro index
  rw [writePlaces_getElem? distinct, List.getElem?_map, List.getElem?_map, movedTo,
    List.getElem?_mapIdx]
  cases isPlaceholder : placeholders[index]? with
  | none => rfl
  | some placeholder =>
      rcases exists_place sameLength isPlaceholder with ⟨position, member⟩
      have found : (foundPlaces placeholders positions).find?
          (fun place => decide (place.1.index = index)) =
            some (placeholder.ordered index, position) := find?_place distinct member
      have assigned : assignedOffset (foundPlaces placeholders positions) index = position :=
        assignedOffset_eq distinct member
      have bounded := inside placeholder (List.mem_of_getElem? isPlaceholder)
      rw [Option.map_some, Option.map_some, Option.map_some, found, assigned]
      dsimp only
      rw [placeholderTokens_ordered, rendered_length bounded]
      rfl

/-- The loop aligns the placeholders exactly if the leftmost places exist. -/
theorem align_eq_ok (present : renderTokenIds ≠ [])
    (inside : ∀ placeholder ∈ placeholders, placeholder.Inside renderTokenIds.length)
    {aligned : GenerateBody} :
    alignMmFeaturePlaceholdersToTokens (renderBody renderTokenIds placeholders) tokenIds =
        .ok aligned ↔
      ∃ positions, leftmostPlaces tokenIds 0 ((sortEntries (responseEntries placeholders)).map
          (OrderedEntry.placeholderTokens · renderTokenIds)) = some positions ∧
        renderBody renderTokenIds
          (movedTo placeholders (assignedOffset (foundPlaces placeholders positions))) =
            aligned := by
  have nonempty : ∀ entry ∈ sortEntries (responseEntries placeholders),
      entry.placeholderTokens renderTokenIds ≠ [] := by
    intro entry member empty
    rcases mem_sortEntries.mp member with ⟨placeholder, isPlaceholder, same⟩
    have bounded := inside placeholder (List.mem_of_getElem? isPlaceholder)
    have length := rendered_length bounded
    rw [← placeholderTokens_ordered placeholder entry.index, same, empty] at length
    exact absurd length (Nat.ne_of_lt bounded.positive)
  have checks : raiseIf (renderTokenIds = []) (.valueError
      "Cannot align vLLM multimodal placeholders: render response missing token_ids") =
        .ok () := raiseIf_eq_ok.mpr present
  rw [alignMmFeaturePlaceholdersToTokens, renderBody]
  dsimp only
  rw [checks, ok_bind, mapM_checkedEntry inside, ok_bind, bind_eq_ok]
  have patterns : ∀ pattern ∈ (sortEntries (responseEntries placeholders)).map
      (OrderedEntry.placeholderTokens · renderTokenIds), pattern ≠ [] := by
    intro pattern member
    rcases List.mem_map.mp member with ⟨entry, isEntry, rfl⟩
    exact nonempty entry isEntry
  have written {positions : List Nat} (positionsEq : leftmostPlaces tokenIds 0
      ((sortEntries (responseEntries placeholders)).map
        (OrderedEntry.placeholderTokens · renderTokenIds)) = some positions) :
      writePlaces renderTokenIds (placeholders.map Placeholder.item)
          (foundPlaces placeholders positions) =
        (movedTo placeholders (assignedOffset (foundPlaces placeholders positions))).map
          Placeholder.item := by
    rcases (leftmostPlaces_placed patterns positionsEq).pairwise
      (OrderedEntry.placeholderTokens · renderTokenIds) with ⟨sameLength, _, _⟩
    exact writePlaces_moved inside sameLength
  constructor
  · rintro ⟨placed, placedEq, same⟩
    rcases (placeEntries_eq_ok nonempty).mp placedEq with ⟨positions, positionsEq, isPlaced⟩
    refine ⟨positions, positionsEq, ?_⟩
    rw [← Except.ok.inj same, ← isPlaced, ← foundPlaces, written positionsEq]
    rfl
  · rintro ⟨positions, positionsEq, same⟩
    refine ⟨_, (placeEntries_eq_ok nonempty).mpr ⟨positions, positionsEq, rfl⟩, ?_⟩
    rw [← same, ← foundPlaces, written positionsEq]
    rfl

end Entries

/-- For placeholders inside the rendered tokens the call succeeds exactly if there are rendered
tokens and some alignment exists; the offsets it writes are an alignment, and nothing else
changes. -/
theorem alignMmFeaturePlaceholders_iff (renderTokenIds tokenIds : List TokenId)
    (placeholders : List Placeholder)
    (inside : ∀ placeholder ∈ placeholders, placeholder.Inside renderTokenIds.length) :
    (∀ aligned, alignMmFeaturePlaceholdersToTokens (renderBody renderTokenIds placeholders)
        tokenIds = .ok aligned →
      ∃ offsets, Alignment renderTokenIds tokenIds placeholders offsets ∧
        aligned = renderBody renderTokenIds (movedTo placeholders offsets)) ∧
    ((∃ aligned, alignMmFeaturePlaceholdersToTokens (renderBody renderTokenIds placeholders)
        tokenIds = .ok aligned) ↔
      renderTokenIds ≠ [] ∧
        ∃ offsets, Alignment renderTokenIds tokenIds placeholders offsets) := by
  have patterns : ∀ pattern ∈ (sortEntries (responseEntries placeholders)).map
      (OrderedEntry.placeholderTokens · renderTokenIds), pattern ≠ [] := by
    intro pattern member empty
    rcases List.mem_map.mp member with ⟨entry, isEntry, isPattern⟩
    rcases mem_sortEntries.mp isEntry with ⟨placeholder, isPlaceholder, same⟩
    have bounded := inside placeholder (List.mem_of_getElem? isPlaceholder)
    have length := rendered_length bounded
    rw [← placeholderTokens_ordered placeholder entry.index, same, isPattern, empty] at length
    exact absurd length (Nat.ne_of_lt bounded.positive)
  have written (aligned : GenerateBody)
      (returned : alignMmFeaturePlaceholdersToTokens (renderBody renderTokenIds placeholders)
        tokenIds = .ok aligned) : renderTokenIds ≠ [] ∧
      ∃ offsets, Alignment renderTokenIds tokenIds placeholders offsets ∧
        aligned = renderBody renderTokenIds (movedTo placeholders offsets) := by
    have present : renderTokenIds ≠ [] := by
      intro absent
      rw [absent] at returned
      cases returned
    rcases (align_eq_ok present inside).mp returned with ⟨positions, positionsEq, same⟩
    have placed : Places renderTokenIds tokenIds placeholders positions :=
      leftmostPlaces_placed patterns positionsEq
    exact ⟨present, _, placed.alignment inside, same.symm⟩
  refine ⟨fun aligned returned => (written aligned returned).2, ?_, ?_⟩
  · rintro ⟨aligned, returned⟩
    rcases written aligned returned with ⟨present, offsets, isAlignment, _⟩
    exact ⟨present, offsets, isAlignment⟩
  · rintro ⟨present, offsets, isAlignment⟩
    rcases isAlignment.places inside with ⟨positions, placed⟩
    rcases leftmostPlaces_complete patterns placed with ⟨places, placesEq⟩
    exact ⟨_, (align_eq_ok present inside).mpr ⟨places, placesEq, rfl⟩⟩

def twoImages : List Placeholder := [⟨"image", 1, 2⟩, ⟨"image", 4, 2⟩]

theorem twoImages_alignment :
    Alignment [1, 9, 9, 2, 9, 9] [9, 9, 9, 9] twoImages (fun index => 2 * index) := by
  constructor
  · intro index placeholder isPlaceholder
    match index with
    | 0 => cases isPlaceholder; decide
    | 1 => cases isPlaceholder; decide
    | _ + 2 => cases isPlaceholder
  · rintro first second ⟨earlier, later, isEarlier, isLater, before⟩ other isOther
    match first, second with
    | 0, 0 => cases isEarlier; cases isLater; simp at before
    | 0, 1 => cases isOther; decide
    | 1, 0 => cases isEarlier; cases isLater; simp at before
    | 1, 1 => cases isEarlier; cases isLater; simp at before
    | _ + 2, _ => cases isEarlier
    | 0, _ + 2 => cases isLater
    | 1, _ + 2 => cases isLater

theorem alignMmFeaturePlaceholders_iff_twoImages :
    ∃ aligned, alignMmFeaturePlaceholdersToTokens (renderBody [1, 9, 9, 2, 9, 9] twoImages)
      [9, 9, 9, 9] = .ok aligned :=
  (alignMmFeaturePlaceholders_iff [1, 9, 9, 2, 9, 9] [9, 9, 9, 9] twoImages (by
    intro placeholder member
    rcases List.mem_cons.mp member with isFirst | isSecond
    · rw [isFirst]
      exact ⟨by decide, by decide⟩
    · rw [List.mem_singleton.mp isSecond]
      exact ⟨by decide, by decide⟩)).2.mpr ⟨by decide, _, twoImages_alignment⟩

/-- A response without placeholders and without token ids is rejected, although there is nothing
to align. -/
theorem emptyResponse_rejected :
    (∃ offsets, Alignment [] [] [] offsets) ∧
      ¬ ∃ aligned, alignMmFeaturePlaceholdersToTokens (renderBody [] []) [] = .ok aligned := by
  constructor
  · refine ⟨fun _ => 0, ?_, ?_⟩
    · exact fun _ _ absent => nomatch absent
    · exact fun _ _ before _ absent => nomatch absent
  · rintro ⟨aligned, returned⟩
    cases returned

end Vime.Rollout
