import Mathlib.Data.Finset.Lattice.Fold
import Mathlib.Data.Finset.Sort
import Mathlib.Order.Lattice.Nat
import Vime.Foundation.Python
import Vime.Foundation.Watermark

/-! # The cursor of training

`_training_state` and `_advance` of `vime/data/queue_data_source.py`: the accepted
outputs that training has acknowledged, as a compacted prefix and a sparse rest.
-/

namespace Vime.Data

open Vime.Foundation

/-- The accepted outputs, in the order of their positions, and how the queue reads them. -/
structure AcceptedLog where
  /-- The task of each commit. -/
  commits : List String
  /-- `source_positions` in the metadata of a task, if it has them. -/
  sourcePositions : String → Option (List Nat)
  readCommits : Nat → Nat → Except PyException (List String)

structure TrainingState where
  version : Nat := 1
  processedCursor : Nat := 0
  fetchCursor : Nat := 0
  processedPositions : List Nat := []
  /-- Manifests of the unfinished batches. -/
  batches : List String := []
  disposition : Option String := none
  deriving DecidableEq, Repr

namespace AcceptedLog

/-- A page holds the commits from its position on, and a position of the log has one. -/
structure ReadsInRange (log : AcceptedLog) : Prop where
  page : ∀ {position count page}, log.readCommits position count = .ok page →
    page = (log.commits.drop position).take count
  inRange : ∀ {position} count, position < log.commits.length →
    ∃ page, log.readCommits position count = .ok page

def sourcesAt (log : AcceptedLog) (position : Nat) : Except PyException (List Nat) := do
  let page ← log.readCommits position 1
  let taskId ← itemAt page 0
  pure ((log.sourcePositions taskId).getD [])

/-- `sourcesAt`, with nothing outside the log. -/
def sources (log : AcceptedLog) (position : Nat) : List Nat :=
  ((log.commits[position]?).bind log.sourcePositions).getD []

/-- The sources of a source are sources. -/
def SourcesClosed (log : AcceptedLog) : Prop :=
  ∀ position, ∀ source ∈ log.sources position,
    ∀ older ∈ log.sources source, older ∈ log.sources position

def ofCommits (commits : List String) (sourcePositions : String → Option (List Nat)) :
    AcceptedLog where
  commits := commits
  sourcePositions := sourcePositions
  readCommits position count :=
    if position ≤ commits.length then .ok ((commits.drop position).take count)
    else .error (.valueError "position is outside the accepted log")

theorem ofCommits_readsInRange (commits : List String)
    (sourcePositions : String → Option (List Nat)) :
    (ofCommits commits sourcePositions).ReadsInRange := by
  constructor
  case page =>
    intro position count page read
    dsimp only [ofCommits] at read
    split at read
    case isTrue => exact (Except.ok.inj read).symm
    case isFalse => cases read
  case inRange =>
    intro position count logged
    exact ⟨_, if_pos (Nat.le_of_lt logged)⟩

theorem ReadsInRange.readCommits_one {log : AcceptedLog} (reads : log.ReadsInRange)
    {position : Nat} (logged : position < log.commits.length) :
    log.readCommits position 1 = .ok [log.commits[position]] := by
  rcases reads.inRange 1 logged with ⟨page, read⟩
  rw [read, reads.page read, List.drop_eq_getElem_cons logged]
  rfl

theorem ReadsInRange.sourcesAt_eq {log : AcceptedLog} (reads : log.ReadsInRange)
    {position : Nat} (logged : position < log.commits.length) :
    log.sourcesAt position = .ok (log.sources position) := by
  rw [AcceptedLog.sourcesAt, reads.readCommits_one logged, ok_bind, AcceptedLog.sources,
    List.getElem?_eq_getElem logged]
  rfl

theorem ReadsInRange.logged {log : AcceptedLog} (reads : log.ReadsInRange)
    {position : Nat} {page : List String} (read : log.readCommits position 1 = .ok page)
    (found : page ≠ []) : position < log.commits.length := by
  by_contra outside
  apply found
  rw [reads.page read, List.drop_eq_nil_of_le (Nat.not_lt.mp outside), List.take_nil]

end AcceptedLog

/-! ## Advancing -/

def addSources (log : AcceptedLog) (processedCursor : Nat) (positions : Finset Nat)
    (position : Nat) : Except PyException (Finset Nat) :=
  if position < processedCursor then .ok positions
  else (log.sourcesAt position).map fun sources => positions ∪ sources.toFinset

/-- `while cursor in positions`. -/
def skipProcessed (positions : Finset Nat) (cursor : Nat) : Finset Nat × Nat :=
  if cursor ∈ positions then skipProcessed (positions.erase cursor) (cursor + 1)
  else (positions, cursor)
termination_by positions.card
decreasing_by
  rename_i member
  exact Finset.card_erase_lt_of_mem member

/-- `max(positions, default=-1) + 1`. -/
def endOf (positions : Finset Nat) : Nat := positions.sup (· + 1)

def advance (log : AcceptedLog) (state : TrainingState) (positions : List Nat) :
    Except PyException TrainingState := do
  let processed := state.processedPositions.toFinset
  let given := processed ∪ positions.toFinset
  -- The loop's order over a set is not specified; it adds the same sources in any order.
  let closed ← (given \ processed).sort.foldlM (addSources log state.processedCursor) given
  let skipped := skipProcessed closed state.processedCursor
  pure { state with
    processedCursor := skipped.2
    fetchCursor := max state.fetchCursor (endOf closed)
    processedPositions := (skipped.1.filter fun position => skipped.2 ≤ position).sort }

/-- `any(p < 0 or not read_commits(p, 1).commits for p in positions)`. -/
def anyUnaccepted (log : AcceptedLog) : List Int → Except PyException Bool
  | [] => .ok false
  | position :: rest =>
      if position < 0 then .ok true
      else
        (log.readCommits position.toNat 1).bind fun page =>
          if page = [] then .ok true else anyUnaccepted log rest

def recordDispositions (log : AcceptedLog) (state : TrainingState) (ref : String)
    (positions : List Int) (reason : Option String) : Except PyException TrainingState := do
  let invalid ← (if reason.getD "" = "" then .ok true else anyUnaccepted log positions)
  raiseIf (invalid = true) (.valueError "Invalid accepted-output disposition")
  let advanced ← advance log state (positions.map Int.toNat)
  pure { advanced with disposition := some ref }

/-! ## What one call does -/

theorem AcceptedLog.ReadsInRange.sourcesAt_eq_ok {log : AcceptedLog}
    (reads : log.ReadsInRange) {position : Nat} {sources : List Nat}
    (found : log.sourcesAt position = .ok sources) : sources = log.sources position := by
  rcases bind_eq_ok.mp found with ⟨page, read, later⟩
  have nonempty : page ≠ [] := by
    rintro rfl
    cases later
  rw [reads.sourcesAt_eq (reads.logged read nonempty)] at found
  exact (Except.ok.inj found).symm

/-- The positions that the loop leaves, if it does not raise. -/
theorem mem_foldlM_addSources {log : AcceptedLog} (reads : log.ReadsInRange)
    {processedCursor : Nat} :
    ∀ {items : List Nat} {positions closed : Finset Nat},
      items.foldlM (addSources log processedCursor) positions = .ok closed →
      ∀ position, position ∈ closed ↔ position ∈ positions ∨
        ∃ item ∈ items, processedCursor ≤ item ∧ position ∈ log.sources item
  | [], positions, closed, folded, position => by
      rw [← Except.ok.inj folded]
      simp
  | item :: rest, positions, closed, folded, position => by
      rw [List.foldlM_cons] at folded
      rcases bind_eq_ok.mp folded with ⟨next, added, later⟩
      rw [mem_foldlM_addSources reads later]
      rw [addSources] at added
      by_cases old : item < processedCursor
      · rw [if_pos old] at added
        rw [← Except.ok.inj added]
        simp [Nat.not_le.mpr old]
      · rw [if_neg old] at added
        rcases map_eq_ok.mp added with ⟨sources, found, rfl⟩
        rw [reads.sourcesAt_eq_ok found]
        simp [Nat.not_lt.mp old, or_assoc]

/-- The loop does not raise on positions of the log. -/
theorem foldlM_addSources_ok {log : AcceptedLog} (reads : log.ReadsInRange)
    {processedCursor : Nat} :
    ∀ (items : List Nat) (positions : Finset Nat),
      (∀ item ∈ items, item < log.commits.length) →
      ∃ closed, items.foldlM (addSources log processedCursor) positions = .ok closed
  | [], positions, _ => ⟨positions, rfl⟩
  | item :: rest, positions, logged => by
      have restLogged : ∀ other ∈ rest, other < log.commits.length := fun other member =>
        logged other (List.mem_cons_of_mem _ member)
      rw [List.foldlM_cons, addSources]
      by_cases old : item < processedCursor
      · rw [if_pos old, ok_bind]
        exact foldlM_addSources_ok reads rest positions restLogged
      · rw [if_neg old, reads.sourcesAt_eq (logged item (by simp)), Except.map, ok_bind]
        exact foldlM_addSources_ok reads rest _ restLogged

theorem skipProcessed_stops (positions : Finset Nat) (cursor : Nat) :
    cursor ≤ (skipProcessed positions cursor).2 ∧
      (skipProcessed positions cursor).2 ∉ positions ∧
      (∀ position, cursor ≤ position → position < (skipProcessed positions cursor).2 →
        position ∈ positions) ∧
      ∀ position, (skipProcessed positions cursor).2 ≤ position →
        (position ∈ (skipProcessed positions cursor).1 ↔ position ∈ positions) := by
  induction positions, cursor using skipProcessed.induct with
  | case1 positions cursor member induction =>
      rw [skipProcessed, if_pos member]
      rcases induction with ⟨later, missing, between, rest⟩
      refine ⟨by omega, ?_, ?_, ?_⟩
      · intro listed
        exact missing (Finset.mem_erase.mpr ⟨by omega, listed⟩)
      · intro position from_ before
        by_cases same : position = cursor
        · rwa [same]
        · exact Finset.mem_of_mem_erase (between position (by omega) before)
      · intro position from_
        rw [rest position from_, Finset.mem_erase]
        exact ⟨fun listed => listed.2, fun listed => ⟨by omega, listed⟩⟩
  | case2 positions cursor missing =>
      rw [skipProcessed, if_neg missing]
      refine ⟨Nat.le_refl cursor, missing, ?_, fun _ _ => Iff.rfl⟩
      intro position from_ before
      omega

theorem lt_endOf {positions : Finset Nat} {position : Nat} (member : position ∈ positions) :
    position < endOf positions :=
  Finset.le_sup (f := (· + 1)) member

/-! ## What the state stands for -/

def acknowledged (log : AcceptedLog) (calls : List (List Nat)) : Set Nat :=
  {position | ∃ positions ∈ calls, ∃ given ∈ positions,
    position = given ∨ position ∈ log.sources given}

structure Tracks (log : AcceptedLog) (members : Set Nat) (state : TrainingState) : Prop where
  compacts : Compacts members state.processedCursor state.processedPositions
  fetched : ∀ position ∈ members, position < state.fetchCursor
  closed : ∀ position ∈ members, ∀ source ∈ log.sources position, source ∈ members

theorem Tracks.initial (log : AcceptedLog) : Tracks log ∅ {} := by
  refine ⟨⟨List.Pairwise.nil, ?_, ?_⟩, ?_, ?_⟩
  · intro position listed
    cases listed
  · intro position
    simp
  · intro position member
    cases member
  · intro position member
    cases member

theorem acknowledged_closed {log : AcceptedLog} (closed : log.SourcesClosed)
    (calls : List (List Nat)) : ∀ position ∈ acknowledged log calls,
      ∀ source ∈ log.sources position, source ∈ acknowledged log calls := by
  rintro position ⟨positions, called, given, listed, same | isSource⟩ source sourceOf
  · rw [same] at sourceOf
    exact ⟨positions, called, given, listed, Or.inr sourceOf⟩
  · exact ⟨positions, called, given, listed, Or.inr (closed given position isSource source sourceOf)⟩

theorem acknowledged_append (log : AcceptedLog) (first second : List (List Nat)) :
    acknowledged log (first ++ second) = acknowledged log first ∪ acknowledged log second := by
  ext position
  simp only [acknowledged, Set.mem_union, Set.mem_ofPred_eq, List.mem_append, or_and_right,
    exists_or]

def newlyAcknowledged (log : AcceptedLog) (members : Set Nat) (positions : List Nat) : Set Nat :=
  {position | ∃ given ∈ positions,
    position = given ∨ given ∉ members ∧ position ∈ log.sources given}

theorem newlyAcknowledged_congr {log other : AcceptedLog} (same : log.sources = other.sources)
    (members : Set Nat) (positions : List Nat) :
    newlyAcknowledged log members positions = newlyAcknowledged other members positions := by
  rw [newlyAcknowledged, newlyAcknowledged, same]

/-- A call that returns keeps a compacted set of positions, and nothing but the set changes. -/
theorem advance_compacts {log : AcceptedLog} (reads : log.ReadsInRange) {members : Set Nat}
    {state later : TrainingState} {positions : List Nat}
    (compacts : Compacts members state.processedCursor state.processedPositions)
    (advanced : advance log state positions = .ok later) :
    Compacts (members ∪ newlyAcknowledged log members positions) later.processedCursor
        later.processedPositions ∧
      (∀ position ∈ newlyAcknowledged log members positions,
        position ∈ members ∨ position < later.fetchCursor) ∧
      state.fetchCursor ≤ later.fetchCursor ∧
      later.batches = state.batches := by
  rcases bind_eq_ok.mp advanced with ⟨closed, folded, returned⟩
  have closedEq := mem_foldlM_addSources reads folded
  have covers := compacts.covers
  have known : ∀ position, position < state.processedCursor ∨ position ∈ closed ↔
      position ∈ members ∪ newlyAcknowledged log members positions := by
    intro position
    simp only [closedEq, newlyAcknowledged, Set.mem_union, Set.mem_ofPred_eq, Finset.mem_union,
      Finset.mem_sort, Finset.mem_sdiff, List.mem_toFinset]
    constructor
    · rintro (below | (listed | given) | ⟨item, ⟨listed | given, isNew⟩, above, isSource⟩)
      · exact Or.inl ((covers position).mp (Or.inl below))
      · exact Or.inl ((covers position).mp (Or.inr listed))
      · exact Or.inr ⟨position, given, Or.inl rfl⟩
      · exact absurd listed isNew
      · refine Or.inr ⟨item, given, Or.inr ⟨?_, isSource⟩⟩
        rw [← covers]
        exact fun old => old.elim (Nat.not_lt.mpr above) isNew
    · rintro (member | ⟨given, listed, same | ⟨isNew, isSource⟩⟩)
      · rcases (covers position).mpr member with below | listed
        · exact Or.inl below
        · exact Or.inr (Or.inl (Or.inl listed))
      · rw [same]
        exact Or.inr (Or.inl (Or.inr listed))
      · rw [← covers, not_or] at isNew
        exact Or.inr (Or.inr
          ⟨given, ⟨Or.inr listed, isNew.2⟩, Nat.not_lt.mp isNew.1, isSource⟩)
  have stops := skipProcessed_stops closed state.processedCursor
  rw [← Except.ok.inj returned]
  refine ⟨⟨(Finset.sortedLT_sort _).pairwise, ?_, ?_⟩, ?_, Nat.le_max_left _ _, rfl⟩
  · intro position listed
    rw [Finset.mem_sort, Finset.mem_filter] at listed
    apply lt_of_le_of_ne listed.2
    intro same
    exact stops.2.1 (same ▸ (stops.2.2.2 position listed.2).mp listed.1)
  · intro position
    dsimp only
    rw [← known, Finset.mem_sort, Finset.mem_filter]
    constructor
    · rintro (before | ⟨listed, from_⟩)
      · by_cases below : position < state.processedCursor
        · exact Or.inl below
        · exact Or.inr (stops.2.2.1 position (Nat.not_lt.mp below) before)
      · exact Or.inr ((stops.2.2.2 position from_).mp listed)
    · rintro (below | listed)
      · exact Or.inl (Nat.lt_of_lt_of_le below stops.1)
      · by_cases before : position < (skipProcessed closed state.processedCursor).2
        · exact Or.inl before
        · have from_ := Nat.not_lt.mp before
          exact Or.inr ⟨(stops.2.2.2 position from_).mpr listed, from_⟩
  · intro position isNew
    dsimp only
    rcases (known position).mpr (Or.inr isNew) with below | listed
    · exact Or.inl ((covers position).mp (Or.inl below))
    · exact Or.inr (Nat.lt_of_lt_of_le (lt_endOf listed) (Nat.le_max_right _ _))

/-- The skipped closures add nothing: the sources of a position that is known already are
known already. -/
theorem Tracks.newlyAcknowledged {log : AcceptedLog} {members : Set Nat} {state : TrainingState}
    (tracks : Tracks log members state) (positions : List Nat) :
    members ∪ newlyAcknowledged log members positions =
      members ∪ acknowledged log [positions] := by
  ext position
  simp only [Data.newlyAcknowledged, acknowledged, List.mem_singleton, exists_eq_left,
    Set.mem_union, Set.mem_ofPred_eq]
  constructor
  · rintro (member | ⟨given, listed, same | ⟨_, isSource⟩⟩)
    · exact Or.inl member
    · exact Or.inr ⟨given, listed, Or.inl same⟩
    · exact Or.inr ⟨given, listed, Or.inr isSource⟩
  · rintro (member | ⟨given, listed, same | isSource⟩)
    · exact Or.inl member
    · exact Or.inr ⟨given, listed, Or.inl same⟩
    · by_cases isNew : given ∈ members
      · exact Or.inl (tracks.closed given isNew position isSource)
      · exact Or.inr ⟨given, listed, Or.inr ⟨isNew, isSource⟩⟩

theorem advance_ok {log : AcceptedLog} (reads : log.ReadsInRange) (state : TrainingState)
    {positions : List Nat}
    (logged : ∀ position ∈ positions, position < log.commits.length) :
    ∃ later, advance log state positions = .ok later := by
  have newLogged : ∀ item ∈ ((state.processedPositions.toFinset ∪ positions.toFinset) \
      state.processedPositions.toFinset).sort, item < log.commits.length := by
    intro item member
    rw [Finset.mem_sort, Finset.mem_sdiff, Finset.mem_union, List.mem_toFinset,
      List.mem_toFinset] at member
    rcases member with ⟨listed | given, isNew⟩
    · exact absurd listed isNew
    · exact logged item given
  rcases foldlM_addSources_ok reads _ (state.processedPositions.toFinset ∪ positions.toFinset) newLogged
    with ⟨closed, folded⟩
  rw [advance, folded, ok_bind]
  exact ⟨_, rfl⟩

/-- The step lemma: a call adds what it acknowledges to what the state stands for. -/
theorem Tracks.advance {log : AcceptedLog} (reads : log.ReadsInRange)
    (sourcesClosed : log.SourcesClosed) {members : Set Nat} {state : TrainingState} (tracks : Tracks log members state)
    {positions : List Nat} (logged : ∀ position ∈ positions, position < log.commits.length) :
    ∃ later, advance log state positions = .ok later ∧
      Tracks log (members ∪ acknowledged log [positions]) later := by
  rcases advance_ok reads state logged with ⟨later, advanced⟩
  rcases advance_compacts reads tracks.compacts advanced with ⟨compacts, fetched, grows, _⟩
  refine ⟨later, advanced, ?_, ?_, ?_⟩
  · rwa [← tracks.newlyAcknowledged]
  · rw [← tracks.newlyAcknowledged]
    have old := fun position member =>
      Nat.lt_of_lt_of_le (tracks.fetched position member) grows
    rintro position (member | isNew)
    · exact old position member
    · exact (fetched position isNew).elim (old position) id
  · rintro position (member | given) source isSource
    · exact Or.inl (tracks.closed position member source isSource)
    · exact Or.inr (acknowledged_closed sourcesClosed _ position given source isSource)

/-- The run lemma. -/
theorem Tracks.run {log : AcceptedLog} (reads : log.ReadsInRange)
    (sourcesClosed : log.SourcesClosed) :
    ∀ (calls : List (List Nat)) {members : Set Nat} {state : TrainingState},
      Tracks log members state →
      (∀ positions ∈ calls, ∀ position ∈ positions, position < log.commits.length) →
      ∃ later, calls.foldlM (Data.advance log) state = .ok later ∧
        Tracks log (members ∪ acknowledged log calls) later
  | [], members, state, tracks, _ => by
      refine ⟨state, rfl, ?_⟩
      rw [show acknowledged log [] = ∅ from Set.eq_empty_of_forall_notMem (by simp [acknowledged]),
        Set.union_empty]
      exact tracks
  | positions :: rest, members, state, tracks, logged => by
      rcases tracks.advance reads sourcesClosed (logged positions (by simp)) with
        ⟨next, advanced, nextTracks⟩
      rcases Tracks.run reads sourcesClosed rest nextTracks
          fun other member => logged other (List.mem_cons_of_mem _ member) with
        ⟨later, ran, laterTracks⟩
      refine ⟨later, ?_, ?_⟩
      · rw [List.foldlM_cons, advanced, ok_bind, ran]
      · rwa [← List.singleton_append, acknowledged_append, ← Set.union_assoc]

theorem advance_cursor_le {log : AcceptedLog} {state later : TrainingState}
    {positions : List Nat} (advanced : advance log state positions = .ok later) :
    state.processedCursor ≤ later.processedCursor := by
  rcases bind_eq_ok.mp advanced with ⟨closed, _, returned⟩
  rw [← Except.ok.inj returned]
  exact (skipProcessed_stops closed state.processedCursor).1

theorem anyUnaccepted_eq_false {log : AcceptedLog} (reads : log.ReadsInRange) :
    ∀ {positions : List Int}, anyUnaccepted log positions = .ok false →
      ∀ position ∈ positions, position.toNat < log.commits.length
  | [], _ => by simp
  | position :: rest, accepted => by
      rw [anyUnaccepted] at accepted
      by_cases negative : position < 0
      · rw [if_pos negative] at accepted
        cases accepted
      · rw [if_neg negative] at accepted
        rcases bind_eq_ok.mp accepted with ⟨page, read, later⟩
        by_cases missing : page = []
        · rw [if_pos missing] at later
          cases later
        · rw [if_neg missing] at later
          rw [List.forall_mem_cons]
          exact ⟨reads.logged read missing, anyUnaccepted_eq_false reads later⟩

theorem anyUnaccepted_logged {log : AcceptedLog} (reads : log.ReadsInRange) :
    ∀ (positions : List Nat), (∀ position ∈ positions, position < log.commits.length) →
      anyUnaccepted log (positions.map Int.ofNat) = .ok false
  | [], _ => rfl
  | position :: rest, logged => by
      rw [List.forall_mem_cons] at logged
      have nonnegative : ¬ Int.ofNat position < 0 :=
        Int.not_lt.mpr (Int.natCast_nonneg position)
      rw [List.map_cons, anyUnaccepted, if_neg nonnegative,
        show (Int.ofNat position).toNat = position from rfl, reads.readCommits_one logged.1]
      exact anyUnaccepted_logged reads rest logged.2

theorem recordDispositions_logged {log : AcceptedLog} (reads : log.ReadsInRange)
    {state later : TrainingState} {ref : String} {positions : List Int}
    {reason : Option String}
    (recorded : recordDispositions log state ref positions reason = .ok later) :
    ∀ position ∈ positions.map Int.toNat, position < log.commits.length := by
  rcases bind_eq_ok.mp recorded with ⟨invalid, checked, rest⟩
  rcases raiseIf_bind_eq_ok.mp rest with ⟨valid, _⟩
  rw [Bool.not_eq_true] at valid
  subst valid
  intro position member
  rcases List.mem_map.mp member with ⟨given, listed, rfl⟩
  by_cases noReason : reason.getD "" = ""
  · rw [if_pos noReason] at checked
    cases checked
  · rw [if_neg noReason] at checked
    exact anyUnaccepted_eq_false reads checked given listed

/-- After any sequence of calls the state is the compacted set of the acknowledged
positions, and nothing else about the calls matters. -/
theorem advance_compactsAcknowledged (log : AcceptedLog) (reads : log.ReadsInRange)
    (sourcesClosed : log.SourcesClosed) (calls : List (List Nat))
    (logged : ∀ positions ∈ calls, ∀ position ∈ positions, position < log.commits.length) :
    ∃ state, calls.foldlM (advance log) {} = .ok state ∧
      state.processedPositions.Pairwise (· < ·) ∧
      (∀ position ∈ state.processedPositions, state.processedCursor < position) ∧
      {position | position < state.processedCursor} ∪
        {position | position ∈ state.processedPositions} = acknowledged log calls ∧
      IsLeast {position | position ∉ acknowledged log calls} state.processedCursor ∧
      (∀ position ∈ acknowledged log calls, position + 1 ≤ state.fetchCursor) ∧
      (∀ positions later, advance log state positions = .ok later →
        state.processedCursor ≤ later.processedCursor) ∧
      ∀ others : List (List Nat),
        (∀ positions ∈ others, ∀ position ∈ positions, position < log.commits.length) →
        acknowledged log others = acknowledged log calls →
        ∃ other, others.foldlM (advance log) {} = .ok other ∧
          other.processedCursor = state.processedCursor ∧
          other.processedPositions = state.processedPositions := by
  rcases Tracks.run reads sourcesClosed calls (Tracks.initial log) logged with ⟨state, ran, tracks⟩
  rw [Set.empty_union] at tracks
  refine ⟨state, ran, tracks.compacts.increasing, tracks.compacts.above, ?_,
    tracks.compacts.isLeast, tracks.fetched, fun _ _ => advance_cursor_le, ?_⟩
  · ext position
    exact tracks.compacts.covers position
  · intro others othersLogged same
    rcases Tracks.run reads sourcesClosed others (Tracks.initial log) othersLogged with
      ⟨other, otherRan, otherTracks⟩
    rw [Set.empty_union, same] at otherTracks
    exact ⟨other, otherRan, otherTracks.compacts.unique tracks.compacts⟩

def replacedOnce : AcceptedLog :=
  .ofCommits ["prompt:0", "prompt:0+", "prompt:1"] fun taskId =>
    if taskId = "prompt:0+" then some [0] else none

theorem replacedOnce_compactsAcknowledged :
    ∃ state, [[2], [1, 2]].foldlM (advance replacedOnce) {} = .ok state ∧
      IsLeast {position | position ∉ acknowledged replacedOnce [[2], [1, 2]]}
        state.processedCursor := by
  have sourcesClosed : replacedOnce.SourcesClosed := by
    intro position source isSource older olderOf
    have sourceIsFirst : source = 0 := by
      match position with
      | 0 => cases isSource
      | 1 => exact List.mem_singleton.mp isSource
      | 2 => cases isSource
      | _ + 3 => cases isSource
    rw [sourceIsFirst] at olderOf
    cases olderOf
  have reads : replacedOnce.ReadsInRange := AcceptedLog.ofCommits_readsInRange _ _
  rcases advance_compactsAcknowledged replacedOnce reads sourcesClosed [[2], [1, 2]]
      (by decide) with
    ⟨state, ran, _, _, _, isLeast, _⟩
  exact ⟨state, ran, isLeast⟩

end Vime.Data
