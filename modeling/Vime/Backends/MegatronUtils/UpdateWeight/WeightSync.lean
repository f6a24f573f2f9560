import Vime.Backends.MegatronUtils.UpdateWeight.PatchedTensors
import Vime.Foundation.Execution

/-! # Runs of weight updates

The trainer publishes versions, hosts pull them. A publication may fail anywhere, a pull may be
killed anywhere, the trainer may be restarted with an older version number and may be connected to
other engines.
-/

namespace Vime.Backends.MegatronUtils.DiskDelta

open Vime.Foundation
open Vime.Utils

/-- A host, the last version that it was asked for, and the last one that it returned for. -/
structure Host where
  checkpoint : LocalCheckpoint
  target : Nat
  returned : Nat

/-- `published` has the weights of the complete publications, `updating` says that one of this
trainer may still be waiting for the engines. -/
structure SyncState where
  trainer : Trainer
  versions : Versions
  published : List (Nat × List NamedTensors)
  updating : Bool
  hosts : Nat → Host

inductive SyncAction where
  /-- `update_weights` up to `_reload_engines`. -/
  | publish (chunks : List NamedTensors)
  /-- The publication raises and leaves some files and a partly advanced snapshot. -/
  | failPublish (left : Directory) (snapshot : NamedTensors)
  /-- All engines have pulled the version, and `update_weights` returns. -/
  | finish
  | restart (weightVersion : Nat)
  | connect (engines : List Engine)
  | pull (host targetVersion : Nat) (kill : Option KillPoint)

namespace SyncState

def start (weightVersion : Nat) (files : Nat → Directory) : SyncState where
  trainer := Trainer.start weightVersion
  versions := []
  published := []
  updating := false
  hosts := fun host =>
    { checkpoint := { files := files host, applied := none }, target := 0, returned := 0 }

def write (state : SyncState) (written : Directory × NamedTensors) : SyncState :=
  let version := state.trainer.nextVersion state.versions
  { state with
    trainer := { state.trainer with weightVersion := version, snapshot := written.2 }
    versions := setItem version written.1 state.versions }

def publish (state : SyncState) (chunks : List NamedTensors)
    (written : Directory × NamedTensors) : SyncState :=
  { state.write written with
    published := setItem (state.trainer.nextVersion state.versions) chunks state.published
    updating := true }

def Pulled (state : SyncState) : Prop :=
  state.updating = true ∧ ∀ engine ∈ state.trainer.rolloutEngines, ∀ host ∈ engine.hosts,
    (state.hosts host).returned = state.trainer.weightVersion

instance (state : SyncState) : Decidable state.Pulled :=
  inferInstanceAs (Decidable (_ ∧ _))

def pulledHost (host : Host) (targetVersion : Nat) (pulled : LocalCheckpoint × PullOutcome) :
    Host where
  checkpoint := pulled.1
  target := targetVersion
  returned := if pulled.2 = .returned then targetVersion else host.returned

def step (args : Args) (baseDir : Directory) (state : SyncState) : SyncAction → Option SyncState
  | .publish chunks =>
      match state.trainer.publish args state.versions chunks with
      | .ok written => some (state.publish chunks written)
      | .error _ => none
  | .failPublish left snapshot =>
      some { state.write (left, snapshot) with updating := false }
  | .finish =>
      if state.Pulled then
        some
          { state with
            trainer := { state.trainer with needsFullSync := false }
            updating := false }
      else none
  | .restart weightVersion =>
      some { state with trainer := Trainer.start weightVersion, updating := false }
  | .connect engines =>
      some
        { state with
          trainer := state.trainer.connectRolloutEngines engines
          updating := false }
  | .pull host targetVersion kill =>
      if (state.published.lookup targetVersion).isSome ∧
          (state.hosts host).target ≤ targetVersion then
        some
          { state with
            hosts := Function.update state.hosts host
              (pulledHost (state.hosts host) targetVersion
                (pullCheckpoint args.checksum baseDir state.versions targetVersion kill
                  (state.hosts host).checkpoint)) }
      else none

end SyncState

/-! ## The weights of a publication -/

def chunkNames (chunks : List NamedTensors) : List (List String) :=
  chunks.map fun chunk => chunk.map Prod.fst

def chunkValue (chunks : List NamedTensors) (name : String) : List UInt8 :=
  (chunks.flatten.lookup name).getD []

/-- A trainer that does not start over publishes a delta: the last publication was complete, and
the tensors are those of it with new values. -/
def MayPublish (args : Args) (state : SyncState) : SyncAction → Prop
  | .publish chunks => state.trainer.needsFullSync = false →
      ∃ last, state.published.lookup state.trainer.weightVersion = some last ∧
        chunkNames chunks = chunkNames last ∧
          Deltable args (chunkNames last) (chunkValue last) (chunkValue chunks)
  | _ => True

/-- The files are those of a full publication of the tensors, and every tensor is found in them. -/
structure HasWeights (args : Args) (files : Directory) (chunks : List NamedTensors) : Prop where
  copied : ∃ full snapshot, publishFull args [] chunks = .ok (full, snapshot) ∧
    SameFiles files full
  loaded : ∀ tensor ∈ chunks.flatten, ∃ locations path, tensorLocations files = .ok locations ∧
    locations.lookup tensor.1 = some path ∧ readTensor files path tensor.1 = some tensor.2

section Chunks

variable {chunks : List NamedTensors}

theorem chunkNames_flatten : (chunkNames chunks).flatten = chunks.flatten.map Prod.fst := by
  rw [chunkNames, List.map_flatten]

theorem chunkValue_of_mem (distinct : (chunks.flatten.map Prod.fst).Nodup)
    {tensor : String × List UInt8} (isTensor : tensor ∈ chunks.flatten) :
    chunkValue chunks tensor.1 = tensor.2 := by
  rw [chunkValue, lookup_of_mem distinct isTensor]
  rfl

theorem fillChunks_chunks (distinct : (chunks.flatten.map Prod.fst).Nodup) :
    fillChunks (chunkNames chunks) (chunkValue chunks) = chunks := by
  rw [fillChunks, chunkNames, List.map_map]
  conv_rhs => rw [← List.map_id chunks]
  apply List.map_congr_left
  intro chunk isChunk
  rw [Function.comp_apply, List.map_map]
  conv_rhs => rw [id_eq, ← List.map_id chunk]
  apply List.map_congr_left
  intro tensor isTensor
  rw [Function.comp_apply,
    chunkValue_of_mem distinct (List.mem_flatten.mpr ⟨chunk, isChunk, isTensor⟩)]
  rfl

theorem writtenFiles_eq (args : Args) (distinct : (chunks.flatten.map Prod.fst).Nodup) :
    writtenFiles args chunks = checkpointFiles args (chunkNames chunks) (chunkValue chunks) := by
  rw [checkpointFiles, fillChunks_chunks distinct]

theorem HasWeights.of_same {args : Args} {files : Directory}
    (distinct : (chunks.flatten.map Prod.fst).Nodup) (filled : filledChunks chunks ≠ [])
    (same : SameFiles files (checkpointFiles args (chunkNames chunks) (chunkValue chunks))) :
    HasWeights args files chunks := by
  have distinctNames : (chunkNames chunks).flatten.Nodup := by rwa [chunkNames_flatten]
  refine { copied := ?_, loaded := fun tensor isTensor => ?_ }
  · refine ⟨_, _, (publishFull_eq_ok args chunks).mpr ⟨distinct, filled, rfl, rfl⟩, ?_⟩
    rwa [writtenFiles_eq args distinct]
  · have isName : tensor.1 ∈ (chunkNames chunks).flatten := by
      rw [chunkNames_flatten]
      exact List.mem_map_of_mem isTensor
    rcases tensorLocations_checkpoint distinctNames same with ⟨locations, found, located⟩
    refine ⟨locations, _, found, located tensor.1 isName, ?_⟩
    rw [readTensor_checkpoint distinctNames same isName, chunkValue_of_mem distinct isTensor]

end Chunks

end Vime.Backends.MegatronUtils.DiskDelta
