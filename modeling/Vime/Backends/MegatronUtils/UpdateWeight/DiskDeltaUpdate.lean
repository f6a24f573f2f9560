import Vime.Backends.MegatronUtils.HfCheckpointSaver

/-! # Weight updates over a shared filesystem

`vime/backends/megatron_utils/update_weight/update_weight_from_disk_delta.py` on the publishing
rank: the first version for a trainer or an engine topology is a full checkpoint, each later one
holds the tensors that differ from the snapshot of the version before it.
-/

namespace Vime.Backends.MegatronUtils.DiskDelta

open Vime.Foundation
open Vime.Utils

structure Args where
  hfCheckpoint : Directory
  deltaEncoding : DeltaEncoding
  checksumAlgorithm : String
  checksum : String → List UInt8 → String
  numpy : NumpyRelease
  worldSize : Nat
  worldSizePos : 0 < worldSize

/-! ## A full version -/

def emptyWriter (files : Directory) : ShardWriter := { files := files, state := ShardState.empty }

/-- The chunks with the `chunk_index` of the publishing rank. -/
def numberedChunks (args : Args) (chunks : List NamedTensors) : List (Nat × NamedTensors) :=
  chunks.mapIdx fun index chunk => (index * args.worldSize, chunk)

/-- `_publish_full`, for the chunks of tensors: the files and the snapshot. -/
def publishFull (args : Args) (directory : Directory) (chunks : List NamedTensors) :
    Except PyException (Directory × NamedTensors) := do
  let writer ← (numberedChunks args chunks).foldlM ShardWriter.write
    (emptyWriter (copyHfAssets args.hfCheckpoint directory))
  let files ← finalizeLocalShards writer.files writer.state
    (writer.state :: List.replicate (args.worldSize - 1) ShardState.empty)
  pure (files, chunks.flatten.foldl (fun snapshot tensor => setItem tensor.1 tensor.2 snapshot) [])

/-! ## A delta -/

structure EncodedDelta where
  snapshot : NamedTensors
  delta : NamedTensors
  checksums : List (String × String)

def diffTensor (args : Args) (new old : List UInt8) : Except PyException (List UInt8 × Nat) :=
  match args.deltaEncoding with
  | .xor => .ok (xorBytes new old, (xorBytes new old).countP fun byte => byte ≠ 0)
  | .overwrite => (overwriteEncode args.numpy new (changedMask new old)).map fun diff =>
      (diff, (changedMask new old).count true)

def EncodedDelta.add (args : Args) (encoded : EncodedDelta) (tensor : String × List UInt8)
    (diff : List UInt8 × Nat) : EncodedDelta :=
  if diff.2 = 0 then { encoded with snapshot := setItem tensor.1 tensor.2 encoded.snapshot }
  else
    { snapshot := setItem tensor.1 tensor.2 encoded.snapshot
      delta := setItem tensor.1 diff.1 encoded.delta
      checksums := setItem tensor.1 (args.checksum args.checksumAlgorithm tensor.2)
        encoded.checksums }

def snapshotItem (snapshot : NamedTensors) (name : String) : Except PyException (List UInt8) :=
  match snapshot.lookup name with
  | some old => .ok old
  | none => .error .keyError

def encodeTensor (args : Args) (encoded : EncodedDelta) (tensor : String × List UInt8) :
    Except PyException EncodedDelta := do
  let old ← snapshotItem encoded.snapshot tensor.1
  raiseIf (old.length ≠ tensor.2.length)
    (.valueError "operands could not be broadcast together")
  let diff ← diffTensor args tensor.2 old
  pure (encoded.add args tensor diff)

def encodeDelta (args : Args) (snapshot : NamedTensors) (tensors : NamedTensors) :
    Except PyException EncodedDelta :=
  tensors.foldlM (encodeTensor args) { snapshot := snapshot, delta := [], checksums := [] }

def writeDeltaFiles (args : Args) (weightVersion : Nat) (encoded : EncodedDelta)
    (directory : Directory) : Directory :=
  let fname := FileName.shard 0 1
  let files :=
    if encoded.delta = [] then directory
    else setItem fname (.safetensors encoded.checksums encoded.delta) directory
  setItem .index
    (.index
      (.delta
        { version := weightVersion
          baseVersion := weightVersion - 1
          deltaEncoding := args.deltaEncoding
          compressionFormat := "zstd"
          checksumFormat := args.checksumAlgorithm })
      (encoded.delta.map fun tensor => (tensor.1, fname))) files

/-- `_publish`: the files and the snapshot. -/
def publishDelta (args : Args) (weightVersion : Nat) (snapshot : NamedTensors)
    (directory : Directory) (chunks : List NamedTensors) :
    Except PyException (Directory × NamedTensors) := do
  let encoded ← encodeDelta args snapshot chunks.flatten
  pure (writeDeltaFiles args weightVersion encoded directory, encoded.snapshot)

/-! ## The trainer -/

structure Engine where
  actor : Nat
  hosts : List Nat
  deriving DecidableEq, Repr

structure Trainer where
  weightVersion : Nat
  snapshot : NamedTensors
  needsFullSync : Bool
  rolloutEngines : List Engine

def Trainer.start (weightVersion : Nat) : Trainer :=
  { weightVersion := weightVersion, snapshot := [], needsFullSync := true, rolloutEngines := [] }

def Trainer.connectRolloutEngines (engines : List Engine) (trainer : Trainer) : Trainer :=
  { trainer with
    needsFullSync := trainer.needsFullSync || engines ≠ trainer.rolloutEngines
    rolloutEngines := engines }

def Trainer.nextVersion (versions : Versions) (trainer : Trainer) : Nat :=
  (if trainer.needsFullSync then
      versions.foldl (fun version entry => max version entry.1) trainer.weightVersion
    else trainer.weightVersion) + 1

def Trainer.publish (args : Args) (versions : Versions) (chunks : List NamedTensors)
    (trainer : Trainer) : Except PyException (Directory × NamedTensors) :=
  let version := trainer.nextVersion versions
  let directory := (versions.lookup version).getD []
  if trainer.needsFullSync then publishFull args directory chunks
  else publishDelta args version trainer.snapshot directory chunks

end Vime.Backends.MegatronUtils.DiskDelta
