import Vime.Data.SourceStream

/-! # Saving, restoring and regenerating

`state_dict` and `load_state_dict` of `vime/data/data_source.py`, and `vime/data/rewind.py`:
a cursor is restored, and the prompt groups of a checkpoint are read again from the
position that their index names.
-/

namespace Vime.Data

open Vime.Foundation Vime.Utils

/-- What custom generation nests its samples in. -/
inductive SampleTree (S : Type) where
  | sample (value : S)
  | items (children : List (SampleTree S))

mutual
def iterSamples {S : Type} : SampleTree S → List S
  | .sample value => [value]
  | .items children => iterSamplesOf children

def iterSamplesOf {S : Type} : List (SampleTree S) → List S
  | [] => []
  | child :: rest => iterSamples child ++ iterSamplesOf rest
end

structure CheckpointSample (P : Type) extends Sample P where
  /-- `status == Sample.Status.PENDING`. -/
  pending : Bool
  responseLength : Nat
  /-- `_queue_original_input`: the digest of a record set, and what it loads. -/
  originalInput : Option (String × SampleTree (Sample P)) := none

mutual
/-- A copy with the fields that a prompt input keeps: those of `fresh_samples`, and all
those that a sample without a response has. -/
def promptInputs {P : Type} : SampleTree (CheckpointSample P) → SampleTree (Sample P)
  | .sample value => .sample value.toSample
  | .items children => .items (promptInputsOf children)

def promptInputsOf {P : Type} :
    List (SampleTree (CheckpointSample P)) → List (SampleTree (Sample P))
  | [] => []
  | child :: rest => promptInputs child :: promptInputsOf rest
end

/-- A group as `get_samples` returns it. -/
def groupTree {P : Type} (group : List (Sample P)) : SampleTree (Sample P) :=
  .items (group.map .sample)

section Source

variable {P : Type} (args : SourceArgs P)

def RolloutDataSource.stateDict (source : RolloutDataSource P) : Cursor := source.toCursor

def RolloutDataSource.loadStateDict (source : RolloutDataSource P) (state : Cursor) :
    RolloutDataSource P :=
  { source with
    toCursor := state
    dataset := source.dataset.map fun dataset => shuffleIfAsked args dataset state.epochId }

def restoreDatasetCursor (producer : RolloutDataSource P) (cursor : Cursor) (shuffle : Bool) :
    Except PyException (RolloutDataSource P) := do
  raiseIf (cursor.epochId < 0)
    (.valueError "Dataset cursor counters must be nonnegative integers")
  raiseIf (∃ dataset ∈ producer.dataset, cursor.sampleOffset > dataset.samples.length)
    (.valueError "Dataset cursor offset exceeds the dataset size")
  pure { producer with
    toCursor := cursor
    dataset := producer.dataset.map fun dataset =>
      if shuffle then dataset.shuffle args.shuffler cursor.epochId else dataset }

/-- What `regeneration_groups` has seen: record sets and positions of the dataset. -/
inductive SeenKey where
  | manifest (digest : String)
  | dataset (groupId : Nat)
  deriving DecidableEq, Repr

structure Regeneration (P : Type) where
  producer : RolloutDataSource P
  restored : List (SampleTree (Sample P)) := []
  seen : List SeenKey := []

def Regeneration.loadOriginals (state : Regeneration P) :
    List (String × SampleTree (Sample P)) → Regeneration P
  | [] => state
  | original :: rest =>
      if .manifest original.1 ∈ state.seen then state.loadOriginals rest
      else
        Regeneration.loadOriginals
          { state with
            seen := .manifest original.1 :: state.seen
            restored := state.restored ++ [original.2] } rest

def Regeneration.reread (state : Regeneration P) (dataset : Dataset P) (groupId : Nat)
    (cursor : Cursor) (shuffle : Bool) : Except PyException (Regeneration P) := do
  let distance : Int := cursor.sampleGroupIndex - groupId
  let size := dataset.samples.length
  let absolute : Int := cursor.epochId * size + cursor.sampleOffset - distance
  raiseIf (distance ≤ 0 ∨ absolute < 0)
    (.valueError "Checkpoint sample identity is inconsistent with its dataset cursor")
  raiseIf (size = 0) .zeroDivisionError
  let moved : RolloutDataSource P :=
    { epochId := absolute / size
      sampleOffset := (absolute % size).toNat
      sampleGroupIndex := groupId
      -- Cursors of a stream are at least as far as this goes back.
      sampleIndex := cursor.sampleIndex - distance.toNat * args.nSamplesPerPrompt
      metadata := cursor.metadata
      dataset := some (if shuffle then dataset.shuffle args.shuffler (absolute / size)
        else dataset) }
  let read := moved.getSamples args 1
  pure
    { producer := read.2
      restored := state.restored ++ read.1.map groupTree
      seen := .dataset groupId :: state.seen }

/-- One iteration of the loop over the groups. `plain` is
`type(producer) is RolloutDataSource`. -/
def Regeneration.group (plain : Bool) (cursor : Cursor) (shuffle : Bool)
    (state : Regeneration P) (group : SampleTree (CheckpointSample P)) :
    Except PyException (Regeneration P) :=
  let samples := iterSamples group
  let originals := samples.filterMap CheckpointSample.originalInput
  if originals ≠ [] ∧ originals.length = samples.length then
    .ok (state.loadOriginals originals)
  else if ∀ sample ∈ samples, sample.pending ∧ sample.responseLength = 0 then
    .ok { state with restored := state.restored ++ [promptInputs group] }
  else
    match plain, state.producer.dataset, samples with
    | true, some dataset, sample :: _ =>
        if .dataset sample.groupIndex ∈ state.seen then .ok state
        else state.reread args dataset sample.groupIndex cursor shuffle
    | _, _, _ => .ok { state with restored := state.restored ++ [promptInputs group] }

def regenerationGroups (groups : List (SampleTree (CheckpointSample P)))
    (plain : Bool) (producer : RolloutDataSource P) (cursor : Cursor) (shuffle : Bool) :
    Except PyException (List (SampleTree (Sample P)) × RolloutDataSource P) := do
  let state ← groups.foldlM (Regeneration.group args plain cursor shuffle) { producer }
  let producer ← restoreDatasetCursor args state.producer cursor shuffle
  pure (state.restored, producer)

/-! ## Runs of a source -/

inductive SourceCall where
  | getSamples (numSamples : Nat)
  /-- `state_dict`, loaded into a fresh source. -/
  | reload
  | restore (cursor : Cursor)
  deriving DecidableEq, Repr

def callSource (state : RolloutDataSource P × List (List (Sample P))) :
    SourceCall → Except PyException (RolloutDataSource P × List (List (Sample P)))
  | .getSamples numSamples =>
      let read := state.1.getSamples args numSamples
      .ok (read.2, state.2 ++ read.1)
  | .reload => .ok ((RolloutDataSource.init args).loadStateDict args state.1.stateDict, state.2)
  | .restore cursor => do
      let restored ← restoreDatasetCursor args state.1 cursor args.rolloutShuffle
      pure (restored, state.2)

def callPositions : Nat → List SourceCall → List Nat × Nat
  | position, [] => ([], position)
  | position, .getSamples numSamples :: rest =>
      let later := callPositions (position + numSamples) rest
      (List.range' position numSamples ++ later.1, later.2)
  | position, .reload :: rest => callPositions position rest
  | _, .restore cursor :: rest => callPositions cursor.sampleGroupIndex rest

def Continuing : Nat → List SourceCall → Prop
  | _, [] => True
  | position, .getSamples numSamples :: rest => Continuing (position + numSamples) rest
  | position, .reload :: rest => Continuing position rest
  | position, .restore cursor :: rest =>
      cursor.sampleGroupIndex = position ∧ Continuing position rest

def OfStream (originSamples : List P) (calls : List SourceCall) : Prop :=
  ∀ cursor, .restore cursor ∈ calls → ∃ position, CursorAt args originSamples position cursor

variable {args} {originSamples : List P}

theorem callPositions_continuing :
    ∀ (calls : List SourceCall) (position : Nat), Continuing position calls →
      (callPositions position calls).1 =
        List.range' position (callPositions position calls).1.length
  | [], _, _ => rfl
  | .getSamples numSamples :: rest, position, continuing => by
      have later := callPositions_continuing rest (position + numSamples) continuing
      rw [callPositions, List.length_append, List.length_range', ← List.range'_append_1, ← later]
  | .reload :: rest, position, continuing => callPositions_continuing rest position continuing
  | .restore cursor :: rest, position, continuing => by
      rw [callPositions, continuing.1]
      exact callPositions_continuing rest position continuing.2

theorem SourceSynced.of_cursor {source : RolloutDataSource P} (kept : SourceKept args source)
    (cursor : Cursor) (isEpoch : 0 ≤ cursor.epochId) :
    SourceSynced args
      { source with
        toCursor := cursor
        dataset := source.dataset.map fun dataset =>
          shuffleIfAsked args dataset cursor.epochId } := by
  refine ⟨?_, isEpoch, ?_⟩
  · rw [SourceKept] at kept ⊢
    dsimp only
    generalize args.promptData = promptData at kept
    generalize source.dataset = held at kept
    cases kept with
    | none => exact Option.Rel.none
    | some keptDataset => exact Option.Rel.some (keptDataset.shuffleIfAsked _)
  · intro shuffles dataset member
    rcases Option.map_eq_some_iff.mp member with ⟨before, _, rfl⟩
    rw [Data.shuffleIfAsked, if_pos shuffles, Dataset.shuffle_epochId]

theorem SourceAt.of_cursor {source : RolloutDataSource P} (kept : SourceKept args source)
    {cursor : Cursor} {position : Nat} (cursorAt : CursorAt args originSamples position cursor) :
    SourceAt args originSamples position
      { source with
        toCursor := cursor
        dataset := source.dataset.map fun dataset =>
          shuffleIfAsked args dataset cursor.epochId } :=
  ⟨SourceSynced.of_cursor kept cursor cursorAt.isEpoch, cursorAt⟩

theorem SourceAt.reload {source : RolloutDataSource P} {position : Nat}
    (standing : SourceAt args originSamples position source) :
    SourceAt args originSamples position
      ((RolloutDataSource.init args).loadStateDict args source.stateDict) :=
  SourceAt.of_cursor SourceKept.init standing.cursor

theorem restoreDatasetCursor_at {producer : RolloutDataSource P}
    (kept : SourceKept args producer) (promptData : args.promptData = some originSamples)
    {cursor : Cursor} {position : Nat}
    (cursorAt : CursorAt args originSamples position cursor) :
    ∃ restored, restoreDatasetCursor args producer cursor args.rolloutShuffle = .ok restored ∧
      restored.toCursor = cursor ∧ SourceAt args originSamples position restored := by
  refine ⟨_, ?_, rfl, SourceAt.of_cursor kept cursorAt⟩
  have validEpoch : ¬ cursor.epochId < 0 := Int.not_lt.mpr cursorAt.isEpoch
  have validOffset : ¬ ∃ dataset ∈ producer.dataset,
      cursor.sampleOffset > dataset.samples.length := by
    rintro ⟨dataset, member, beyond⟩
    rw [SourceKept, promptData, Option.mem_def.mp member] at kept
    cases kept with
    | some keptDataset =>
        rw [dataset.sized, keptDataset.origin] at beyond
        exact Nat.not_lt.mpr cursorAt.offset beyond
  rw [restoreDatasetCursor, raiseIf, if_neg validEpoch, ok_bind, raiseIf, if_neg validOffset,
    ok_bind]
  rfl

/-- The run lemma. -/
theorem foldlM_callSource (promptData : args.promptData = some originSamples)
    (nonempty : 0 < originSamples.length) :
    ∀ (calls : List SourceCall) {position : Nat} {source : RolloutDataSource P}
      (returned : List (List (Sample P))), SourceAt args originSamples position source →
      OfStream args originSamples calls →
      ∃ later groups, calls.foldlM (callSource args) (source, returned) =
          .ok (later, returned ++ groups) ∧
        groups.map some =
          (callPositions position calls).1.map (streamGroup args originSamples) ∧
        SourceAt args originSamples (callPositions position calls).2 later
  | [], position, source, returned, standing, _ =>
      ⟨source, [], by rw [List.append_nil]; rfl, rfl, standing⟩
  | call :: rest, position, source, returned, standing, ofStream => by
      have restOfStream : OfStream args originSamples rest := fun cursor member =>
        ofStream cursor (List.mem_cons_of_mem _ member)
      cases call with
      | getSamples numSamples =>
          have read := standing.getSamples promptData nonempty numSamples
          rcases foldlM_callSource promptData nonempty rest
              (returned ++ (source.getSamples args numSamples).1) read.2 restOfStream with
            ⟨later, groups, ran, streamed, laterAt⟩
          refine ⟨later, (source.getSamples args numSamples).1 ++ groups, ?_, ?_, laterAt⟩
          · rw [List.foldlM_cons, callSource, ok_bind, ran, List.append_assoc]
          · rw [callPositions, List.map_append, List.map_append, read.1, streamed]
      | reload =>
          rcases foldlM_callSource promptData nonempty rest returned standing.reload restOfStream
            with ⟨later, groups, ran, streamed, laterAt⟩
          refine ⟨later, groups, ?_, streamed, laterAt⟩
          rw [List.foldlM_cons, callSource, ok_bind, ran]
      | restore cursor =>
          rcases ofStream cursor (by simp) with ⟨restoredPosition, cursorAt⟩
          rcases restoreDatasetCursor_at standing.synced.kept promptData cursorAt with
            ⟨restored, restoredEq, _, restoredAt⟩
          rw [← cursorAt.group] at restoredAt
          rcases foldlM_callSource promptData nonempty rest returned restoredAt restOfStream
            with ⟨later, groups, ran, streamed, laterAt⟩
          refine ⟨later, groups, ?_, streamed, laterAt⟩
          rw [List.foldlM_cons, callSource, restoredEq, ok_bind, pure_eq_ok, ok_bind, ran]

/-! ## Regenerating -/

/-- A completed group with its index: generated samples without original inputs. -/
structure CompletedAs (group : SampleTree (CheckpointSample P)) (groupId : Nat) : Prop where
  index : (iterSamples group).head?.map (·.groupIndex) = some groupId
  noOriginals : ∀ sample ∈ iterSamples group, sample.originalInput = none
  generated : ¬ ∀ sample ∈ iterSamples group, sample.pending ∧ sample.responseLength = 0

/-- Moving back to an earlier position reads the group of the stream there. -/
theorem Regeneration.reread_at (promptData : args.promptData = some originSamples)
    (nonempty : 0 < originSamples.length) {state : Regeneration P} {dataset : Dataset P}
    (kept : DatasetKept args originSamples dataset) {cursor : Cursor} {position groupId : Nat}
    (cursorAt : CursorAt args originSamples position cursor) (before : groupId < position) :
    ∃ producer group,
      state.reread args dataset groupId cursor args.rolloutShuffle =
        .ok ⟨producer, state.restored ++ [groupTree group], .dataset groupId :: state.seen⟩ ∧
      streamGroup args originSamples groupId = some group ∧ SourceKept args producer := by
  have sized : dataset.samples.length = originSamples.length := by
    rw [dataset.sized, kept.origin]
  have absoluteEq : cursor.epochId * (dataset.samples.length : Int) + cursor.sampleOffset -
      ((cursor.sampleGroupIndex : Int) - groupId) = groupId := by
    rw [sized, cursorAt.absolute, cursorAt.group]
    omega
  have distanceEq : ((cursor.sampleGroupIndex : Int) - groupId).toNat = position - groupId := by
    rw [cursorAt.group]
    omega
  have consistent : ¬ ((cursor.sampleGroupIndex : Int) - groupId ≤ 0 ∨ (groupId : Int) < 0) := by
    rw [cursorAt.group]
    omega
  have sampleEq : cursor.sampleIndex - (position - groupId) * args.nSamplesPerPrompt =
      groupId * args.nSamplesPerPrompt := by
    rw [cursorAt.sample, ← Nat.sub_mul, Nat.sub_sub_self (Nat.le_of_lt before)]
  have standing : SourceAt args originSamples groupId
      { epochId := (groupId : Int) / dataset.samples.length
        sampleOffset := ((groupId : Int) % dataset.samples.length).toNat
        sampleGroupIndex := groupId
        sampleIndex := groupId * args.nSamplesPerPrompt
        metadata := cursor.metadata
        dataset := some (shuffleIfAsked args dataset
          ((groupId : Int) / dataset.samples.length)) } := by
    refine ⟨⟨?_, ?_, ?_⟩, ?_, ?_, ?_, rfl, rfl⟩
    · rw [SourceKept, promptData]
      exact Option.Rel.some (kept.shuffleIfAsked _)
    · exact Int.ediv_nonneg (Int.natCast_nonneg _) (Int.natCast_nonneg _)
    · intro shuffles later member
      rw [← Option.some.inj member, Data.shuffleIfAsked, if_pos shuffles,
        Dataset.shuffle_epochId]
    · exact Int.ediv_nonneg (Int.natCast_nonneg _) (Int.natCast_nonneg _)
    · dsimp only
      rw [← sized, ← Int.natCast_emod, Int.toNat_natCast, ← Int.natCast_ediv, Int.mul_comm]
      exact_mod_cast Nat.div_add_mod groupId dataset.samples.length
    · dsimp only
      rw [← sized, ← Int.natCast_emod, Int.toNat_natCast]
      exact Nat.le_of_lt (Nat.mod_lt _ (by omega))
  have read := standing.getSamples promptData nonempty 1
  rw [List.range'_one, List.map_singleton] at read
  rw [Regeneration.reread, absoluteEq, distanceEq, sampleEq, raiseIf, if_neg consistent, ok_bind,
    raiseIf, if_neg (by omega), ok_bind, pure_eq_ok]
  rcases List.map_eq_singleton_iff.mp read.1 with ⟨group, groups, isGroup⟩
  refine ⟨_, group, ?_, isGroup.symm, read.2.synced.kept⟩
  rw [Except.ok.injEq, Regeneration.mk.injEq]
  refine ⟨rfl, ?_, rfl⟩
  rw [← List.map_singleton, ← groups]
  rfl

structure RegeneratedTo (args : SourceArgs P) (originSamples : List P) (groupIds : List Nat)
    (state : Regeneration P) : Prop where
  kept : SourceKept args state.producer
  restored : state.restored.map some = groupIds.eraseDups.map fun groupId =>
    (streamGroup args originSamples groupId).map groupTree
  seen : ∀ groupId, .dataset groupId ∈ state.seen ↔ groupId ∈ groupIds

theorem eraseDups_concat (items : List Nat) (item : Nat) :
    (items ++ [item]).eraseDups =
      if item ∈ items then items.eraseDups else items.eraseDups ++ [item] := by
  rw [List.eraseDups_append]
  by_cases known : item ∈ items
  · simp [known, List.removeAll]
  · simp [known, List.removeAll, List.eraseDups_cons]

/-- The step lemma: a completed group is read again once. -/
theorem RegeneratedTo.group (promptData : args.promptData = some originSamples)
    (nonempty : 0 < originSamples.length) {state : Regeneration P} {groupIds : List Nat}
    (regenerated : RegeneratedTo args originSamples groupIds state)
    {cursor : Cursor} {position groupId : Nat}
    (cursorAt : CursorAt args originSamples position cursor) (before : groupId < position)
    {group : SampleTree (CheckpointSample P)} (completed : CompletedAs group groupId) :
    ∃ later, Regeneration.group args true cursor args.rolloutShuffle state group = .ok later ∧
      RegeneratedTo args originSamples (groupIds ++ [groupId]) later := by
  have noOriginals : (iterSamples group).filterMap CheckpointSample.originalInput = [] := by
    apply List.filterMap_eq_nil_iff.mpr
    exact completed.noOriginals
  have index := completed.index
  have generated := completed.generated
  have kept := regenerated.kept
  rw [SourceKept, promptData] at kept
  generalize datasetEq : state.producer.dataset = held at kept
  unfold Regeneration.group
  generalize iterSamples group = samples at index noOriginals generated ⊢
  dsimp only
  rw [noOriginals, if_neg (fun both => both.1 rfl), if_neg generated, datasetEq]
  cases kept with
  | @some _ dataset keptDataset =>
  cases samples with
  | nil => cases index
  | cons sample rest =>
      rw [List.head?_cons, Option.map_some, Option.some.injEq] at index
      dsimp only
      rw [index]
      by_cases known : groupId ∈ groupIds
      · rw [if_pos ((regenerated.seen groupId).mpr known)]
        refine ⟨state, rfl, regenerated.kept, ?_, ?_⟩
        · rw [eraseDups_concat, if_pos known]
          exact regenerated.restored
        · intro other
          rw [regenerated.seen, List.mem_append, List.mem_singleton]
          constructor
          · exact Or.inl
          · rintro (listed | same)
            · exact listed
            · exact same ▸ known
      · rw [if_neg (fun listed => known ((regenerated.seen groupId).mp listed))]
        rcases Regeneration.reread_at promptData nonempty keptDataset cursorAt before with
          ⟨producer, group, rereadEq, isGroup, producerKept⟩
        refine ⟨_, rereadEq, producerKept, ?_, ?_⟩
        · rw [eraseDups_concat, if_neg known, List.map_append, List.map_append,
            regenerated.restored, List.map_singleton, List.map_singleton, isGroup]
          rfl
        · intro other
          rw [List.mem_cons, regenerated.seen, List.mem_append, List.mem_singleton,
            SeenKey.dataset.injEq, or_comm]

theorem RegeneratedTo.run (promptData : args.promptData = some originSamples)
    (nonempty : 0 < originSamples.length) {cursor : Cursor} {position : Nat}
    (cursorAt : CursorAt args originSamples position cursor) :
    ∀ {groups : List (SampleTree (CheckpointSample P))} {more groupIds : List Nat}
      {state : Regeneration P}, RegeneratedTo args originSamples groupIds state →
      List.Forall₂ CompletedAs groups more → (∀ groupId ∈ more, groupId < position) →
      ∃ later, groups.foldlM (Regeneration.group args true cursor args.rolloutShuffle) state =
          .ok later ∧ RegeneratedTo args originSamples (groupIds ++ more) later
  | [], _, groupIds, state, regenerated, .nil, _ =>
      ⟨state, rfl, by rw [List.append_nil]; exact regenerated⟩
  | group :: groups, groupId :: more, groupIds, state, regenerated, .cons completed rest,
      before => by
      rcases regenerated.group promptData nonempty cursorAt (before groupId (by simp)) completed
        with ⟨next, stepped, nextRegenerated⟩
      rcases RegeneratedTo.run promptData nonempty cursorAt nextRegenerated rest
          (fun other member => before other (List.mem_cons_of_mem _ member)) with
        ⟨later, ran, laterRegenerated⟩
      refine ⟨later, ?_, ?_⟩
      · rw [List.foldlM_cons, stepped, ok_bind, ran]
      · rwa [List.append_assoc, List.singleton_append] at laterRegenerated

end Source

/-- However the calls split and restore it, a source reads one fixed stream: every group is
the stream's at the position that the cursor gives, and completed groups are regenerated
from it. -/
theorem source_readsOneStream {P : Type} (args : SourceArgs P) (originSamples : List P)
    (promptData : args.promptData = some originSamples) (nonempty : 0 < originSamples.length)
    (calls : List SourceCall) (ofStream : OfStream args originSamples calls) :
    ∃ source returned,
      calls.foldlM (callSource args) (RolloutDataSource.init args, []) =
        .ok (source, returned) ∧
      returned.map some =
        (callPositions 0 calls).1.map (streamGroup args originSamples) ∧
      (Continuing 0 calls → ∀ position < returned.length,
        returned[position]? = streamGroup args originSamples position) ∧
      CursorAt args originSamples (callPositions 0 calls).2 source.toCursor ∧
      ∀ (cursor : Cursor) (position : Nat), CursorAt args originSamples position cursor →
        ∀ (groups : List (SampleTree (CheckpointSample P))) (groupIds : List Nat),
          List.Forall₂ CompletedAs groups groupIds → (∀ groupId ∈ groupIds, groupId < position) →
          ∃ restored later,
            regenerationGroups args groups true source cursor args.rolloutShuffle =
              .ok (restored, later) ∧
            restored.map some = groupIds.eraseDups.map (fun groupId =>
              (streamGroup args originSamples groupId).map groupTree) ∧
            later.toCursor = cursor ∧
            ∀ numSamples, (later.getSamples args numSamples).1.map some =
              (List.range' position numSamples).map (streamGroup args originSamples) := by
  rcases foldlM_callSource promptData nonempty calls [] SourceAt.init ofStream with
    ⟨source, returned, ran, streamed, standing⟩
  refine ⟨source, returned, ran, streamed, ?_, standing.cursor, ?_⟩
  · intro continuing position inside
    have counted : (callPositions 0 calls).1.length = returned.length := by
      have lengths := congrArg List.length streamed
      rwa [List.length_map, List.length_map, eq_comm] at lengths
    rw [callPositions_continuing calls 0 continuing, counted] at streamed
    have atPosition := congrArg (·[position]?) streamed
    rw [List.getElem?_map, List.getElem?_map, List.getElem?_range' inside,
      List.getElem?_eq_getElem inside] at atPosition
    rw [List.getElem?_eq_getElem inside]
    simpa using atPosition
  · intro cursor position cursorAt groups groupIds completed before
    have start : RegeneratedTo args originSamples [] ({ producer := source } : Regeneration P) :=
      ⟨standing.synced.kept, rfl, fun groupId => by simp⟩
    rcases start.run promptData nonempty cursorAt completed before with
      ⟨state, regenerated, done⟩
    rcases restoreDatasetCursor_at done.kept promptData cursorAt with
      ⟨later, restoredEq, sameCursor, laterAt⟩
    refine ⟨state.restored, later, ?_, ?_, sameCursor, fun numSamples =>
      (laterAt.getSamples promptData nonempty numSamples).1⟩
    · rw [regenerationGroups, regenerated, ok_bind, restoredEq, ok_bind, pure_eq_ok]
    · rw [done.restored, List.nil_append]

def turnedPrompts : SourceArgs Nat where
  promptData := some [10, 20]
  rolloutSeed := 0
  nSamplesPerPrompt := 2
  rolloutShuffle := true
  shuffler :=
    ⟨fun seed length => if seed = 1 then (List.range length).reverse else List.range length,
      fun seed length => by
        split
        · exact List.reverse_perm _
        · exact List.Perm.refl _⟩
  blank := 0

theorem source_readsOneStream_turned :
    ∃ source returned,
      [.getSamples 1, .reload, .getSamples 1,
          .restore { epochId := 1, sampleGroupIndex := 2, sampleIndex := 4 },
          .getSamples 1].foldlM (callSource turnedPrompts)
          (RolloutDataSource.init turnedPrompts, []) = .ok (source, returned) ∧
        returned[2]? = some [⟨20, 2, 4⟩, ⟨20, 2, 5⟩] := by
  have ofStream : OfStream turnedPrompts [10, 20]
      [.getSamples 1, .reload, .getSamples 1,
        .restore { epochId := 1, sampleGroupIndex := 2, sampleIndex := 4 },
        .getSamples 1] := by
    intro cursor member
    simp only [List.mem_cons, SourceCall.restore.injEq, reduceCtorEq, List.not_mem_nil,
      false_or, or_false] at member
    rw [member]
    exact ⟨2, by decide, by decide, by decide, rfl, rfl⟩
  rcases source_readsOneStream turnedPrompts [10, 20] rfl (by decide) _ ofStream with
    ⟨source, returned, ran, streamed, inOrder, _⟩
  have counted : returned.length = 3 := by
    have lengths := congrArg List.length streamed
    rwa [List.length_map, List.length_map] at lengths
  refine ⟨source, returned, ran, ?_⟩
  rw [inOrder ⟨rfl, trivial⟩ 2 (by omega)]
  rfl

end Vime.Data
