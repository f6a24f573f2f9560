import Mathlib.Data.List.Dedup
import Vime.Foundation.Dicts
import Vime.Foundation.Mixtures
import Vime.Utils.DiskDelta

/-! # Host-local checkpoints

`vllm/utils/local_checkpoint.py` of `docker/patch/latest/vllm-pull_weights.patch`: a host brings
its checkpoint to a published version. It copies the latest full version that it has not passed
and patches the tensors of the deltas above it in place; the applied version is recorded last.
A pull may be killed anywhere.
-/

namespace Vime.Utils

open Vime.Foundation

/-! ## Directories -/

inductive FileName where
  /-- `model.safetensors.index.json`. -/
  | index
  /-- `model-{idx:05d}.safetensors`, before the number of files is known. -/
  | rawShard (idx : Nat)
  /-- `model-{idx:05d}-of-{total:05d}.safetensors`. -/
  | shard (idx total : Nat)
  | other (name : String)
  deriving DecidableEq, Repr

/-- `*.safetensors`. -/
def FileName.isSafetensors : FileName → Bool
  | .index => false
  | .rawShard _ => true
  | .shard _ _ => true
  | .other name => name.endsWith ".safetensors"

inductive DeltaEncoding where
  | xor
  | overwrite
  deriving DecidableEq, Repr

structure DeltaMetadata where
  version : Nat
  baseVersion : Nat
  deltaEncoding : DeltaEncoding
  compressionFormat : String
  checksumFormat : String
  deriving DecidableEq, Repr

/-- The metadata of an index: only that of a delta has a `delta_encoding`. -/
inductive IndexMetadata where
  | full (totalSize : Nat)
  | delta (metadata : DeltaMetadata)
  deriving DecidableEq, Repr

inductive FileContent where
  | index (metadata : IndexMetadata) (weightMap : List (String × FileName))
  | safetensors (metadata : List (String × String)) (tensors : List (String × List UInt8))
  | bytes (content : List UInt8)
  deriving DecidableEq, Repr

abbrev Directory := List (FileName × FileContent)

abbrev Versions := List (Nat × Directory)

/-- A checkpoint of a host with the version in its `state.json`. -/
structure LocalCheckpoint where
  files : Directory
  applied : Option Nat
  deriving DecidableEq, Repr

inductive CheckpointError where
  | fileNotFound
  | notImplemented (message : String)
  | python (exception : PyException)
  deriving DecidableEq, Repr

def refuseIf (condition : Prop) [Decidable condition] (error : CheckpointError) :
    Except CheckpointError Unit :=
  if condition then .error error else .ok ()

def malformed : CheckpointError := .python (.valueError "malformed file")

def readIndex (directory : Directory) :
    Except CheckpointError (IndexMetadata × List (String × FileName)) :=
  match directory.lookup .index with
  | some (.index metadata weightMap) => .ok (metadata, weightMap)
  | some _ => .error malformed
  | none => .error .fileNotFound

def readHeader (directory : Directory) (path : FileName) :
    Except CheckpointError (List (String × List UInt8)) :=
  match directory.lookup path with
  | some (.safetensors _ tensors) => .ok tensors
  | some _ => .error malformed
  | none => .error .fileNotFound

def adler32 (data : List UInt8) : Nat :=
  let sums := data.foldl
    (fun sums byte => ((sums.1 + byte.toNat) % 65521, (sums.2 + sums.1 + byte.toNat) % 65521))
    (1, 0)
  sums.2 * 65536 + sums.1

/-- `_Adler32.hexdigest`. -/
def adler32Hexdigest (data : List UInt8) : String :=
  let digits := Nat.toDigits 16 (adler32 data)
  String.ofList (List.replicate (8 - digits.length) '0' ++ digits)

/-! ## The version to start from -/

/-- `_is_delta`: a version without an index counts as a full one. -/
def isDelta (versions : Versions) (version : Nat) : Except CheckpointError Bool :=
  match versions.lookup version with
  | none => .error .fileNotFound
  | some directory =>
      match directory.lookup .index with
      | none => .ok false
      | some (.index (.delta _) _) => .ok true
      | some (.index (.full _) _) => .ok false
      | some _ => .error malformed

/-- The `while` loop of `pull_checkpoint`: down to the version that is applied, or to one that
is not a delta. -/
def scanStart (versions : Versions) (floor : Nat) : Nat → Except CheckpointError Nat
  | 0 => .ok 0
  | version + 1 =>
      if version + 1 > floor then
        isDelta versions (version + 1) >>= fun delta =>
          if delta then scanStart versions floor version else .ok (version + 1)
      else .ok (version + 1)

/-- `_reset_checkpoint`: copies every file and removes those that the source does not have. -/
def resetCheckpoint (source : Directory) (version : Nat) (checkpoint : LocalCheckpoint) :
    LocalCheckpoint :=
  let copied := source.foldl (fun files entry => setItem entry.1 entry.2 files) checkpoint.files
  { files := copied.filter fun entry => entry.1 ∈ source.map Prod.fst
    applied := some version }

/-! ## Tensors in files -/

def shardPaths (directory : Directory) : Except CheckpointError (List FileName) :=
  match directory.lookup .index with
  | some (.index _ weightMap) => .ok (weightMap.map Prod.snd).dedup
  | some _ => .error malformed
  | none => .ok ((directory.map Prod.fst).filter FileName.isSafetensors)

def addLocations (path : FileName) (locations : List (String × FileName))
    (tensors : List (String × List UInt8)) : List (String × FileName) :=
  tensors.foldl (fun locations tensor => setItem tensor.1 path locations) locations

def tensorLocations (directory : Directory) : Except CheckpointError (List (String × FileName)) :=
  shardPaths directory >>= fun paths =>
    paths.foldlM
      (fun locations path => (readHeader directory path).map (addLocations path locations)) []

def readTensor (directory : Directory) (path : FileName) (name : String) : Option (List UInt8) :=
  match directory.lookup path with
  | some (.safetensors _ tensors) => tensors.lookup name
  | _ => none

def FileContent.setTensor (name : String) (region : List UInt8) : FileContent → FileContent
  | .safetensors metadata tensors =>
      .safetensors metadata
        (tensors.map fun tensor => if tensor.1 = name then (name, region) else tensor)
  | content => content

def writeRegion (path : FileName) (name : String) (region : List UInt8) (directory : Directory) :
    Directory :=
  directory.map fun entry =>
    if entry.1 = path then (entry.1, entry.2.setTensor name region) else entry

/-! ## Applying a delta -/

structure DeltaItem where
  name : String
  compressed : List UInt8
  path : FileName
  expected : Option String
  deriving DecidableEq, Repr

def locateTensor (locations : List (String × FileName)) (checksums : List (String × String))
    (tensor : String × List UInt8) : Except CheckpointError DeltaItem :=
  match locations.lookup tensor.1 with
  | some path => .ok
      { name := tensor.1
        compressed := tensor.2
        path := path
        expected := checksums.lookup tensor.1 }
  | none => .error (.python .keyError)

def fileItems (locations : List (String × FileName)) (file : FileName × FileContent) :
    Except CheckpointError (List DeltaItem) :=
  match file.2 with
  | .safetensors checksums tensors => tensors.mapM (locateTensor locations checksums)
  | _ => .error malformed

def deltaItems (locations : List (String × FileName)) (versionDir : Directory) :
    Except CheckpointError (List DeltaItem) :=
  ((versionDir.filter fun file => file.1.isSafetensors).mapM (fileItems locations)).map
    List.flatten

structure ReadDelta where
  metadata : DeltaMetadata
  items : List DeltaItem

/-- The checks of `_apply_delta` and what it is going to write; nothing if it is applied. -/
def readItems (checkpoint : LocalCheckpoint) (versionDir : Directory) :
    IndexMetadata → Except CheckpointError (Option ReadDelta)
  | .full _ => .error (.python .keyError)
  | .delta metadata =>
      if checkpoint.applied = some metadata.version then .ok none
      else do
        refuseIf (checkpoint.applied ≠ some metadata.baseVersion)
          (.python (.runtimeError "Out-of-order delta"))
        refuseIf (metadata.compressionFormat ≠ "zstd")
          (.notImplemented s!"Compression {metadata.compressionFormat} is not supported")
        let locations ← tensorLocations checkpoint.files
        let items ← deltaItems locations versionDir
        pure (some { metadata := metadata, items := items })

def readDelta (versions : Versions) (version : Nat) (checkpoint : LocalCheckpoint) :
    Except CheckpointError (Option ReadDelta) :=
  match versions.lookup version with
  | none => .error .fileNotFound
  | some versionDir =>
      readIndex versionDir >>= fun index => readItems checkpoint versionDir index.1

section Patching

variable (checksum : String → List UInt8 → String)

/-- `apply_xor`: the new region, and the name if the delta is short or the checksum differs. -/
def applyXor (algorithm name : String) (region delta : List UInt8) (expected : Option String) :
    List UInt8 × List String :=
  let written := xorBytes region delta ++ region.drop delta.length
  (written,
    if delta.length < region.length ∨ some (checksum algorithm written) ≠ expected then [name]
    else [])

def applyTensor (metadata : DeltaMetadata) (item : DeltaItem) (region : List UInt8) :
    Except PyException (List UInt8 × List String) :=
  match metadata.deltaEncoding, item.expected with
  | .xor, expected =>
      .ok (applyXor checksum metadata.checksumFormat item.name region item.compressed expected)
  | .overwrite, some expected =>
      applyOverwrite (checksum metadata.checksumFormat) item.name region item.compressed expected
  | .overwrite, none =>
      (applyOverwrite (checksum metadata.checksumFormat) item.name region item.compressed "").map
        fun written => (written.1, [item.name])

structure Patching where
  files : Directory
  mismatches : List String
  failure : Option CheckpointError

/-- One tensor, of which the bytes selected by `written` are patched. -/
def patchItem (metadata : DeltaMetadata) (written : String → Nat → Bool) (patching : Patching)
    (item : DeltaItem) : Patching :=
  match readTensor patching.files item.path item.name with
  | none => { patching with failure := patching.failure.or (some (.python .keyError)) }
  | some region =>
      match applyTensor checksum metadata item region with
      | .error exception =>
          { patching with failure := patching.failure.or (some (.python exception)) }
      | .ok result =>
          { patching with
            files := writeRegion item.path item.name
              (overwriteSome (written item.name) region result.1) patching.files
            mismatches := patching.mismatches ++ result.2 }

inductive PullOutcome where
  | returned
  | raised (error : CheckpointError)
  | killed
  deriving DecidableEq, Repr

def Patching.finish (patching : Patching) (version : Nat) (applied : Option Nat) :
    LocalCheckpoint × PullOutcome :=
  match patching.failure with
  | some error => ({ files := patching.files, applied := applied }, .raised error)
  | none =>
      if patching.mismatches = [] then
        ({ files := patching.files, applied := some version }, .returned)
      else
        ({ files := patching.files, applied := applied },
          .raised (.python (.runtimeError "Checksum mismatch")))

/-- `_apply_delta`, or what it has done when it is killed after the bytes `cut` are written. -/
def applyDelta (versions : Versions) (version : Nat) (cut : Option (String → Nat → Bool))
    (checkpoint : LocalCheckpoint) : LocalCheckpoint × PullOutcome :=
  match readDelta versions version checkpoint with
  | .error error => (checkpoint, .raised error)
  | .ok none => (checkpoint, .returned)
  | .ok (some delta) =>
      let patching := delta.items.foldl
        (patchItem checksum delta.metadata (cut.getD fun _ _ => true))
        { files := checkpoint.files, mismatches := [], failure := none }
      if cut.isSome then ({ checkpoint with files := patching.files }, .killed)
      else patching.finish delta.metadata.version checkpoint.applied

/-! ## Pulling a version -/

/-- Where a pull is killed: while files are copied, which leaves any files behind, or in a delta,
of which it has written some bytes. -/
inductive KillPoint where
  | copying (left : Directory)
  | patching (version : Nat) (written : String → Nat → Bool)

def KillPoint.cut : Option KillPoint → Nat → Option (String → Nat → Bool)
  | some (.patching cutVersion written), version =>
      if version = cutVersion then some written else none
  | _, _ => none

def applyDeltas (versions : Versions) (kill : Option KillPoint) :
    List Nat → LocalCheckpoint → LocalCheckpoint × PullOutcome
  | [], checkpoint => (checkpoint, .returned)
  | version :: rest, checkpoint =>
      match applyDelta checksum versions version (KillPoint.cut kill version) checkpoint with
      | (later, .returned) => applyDeltas versions kill rest later
      | stopped => stopped

def seedDir (baseDir : Directory) (versions : Versions) (start : Nat) :
    Except CheckpointError Directory :=
  if start = 0 then .ok baseDir
  else
    match versions.lookup start with
    | some versionDir => .ok versionDir
    | none => .error .fileNotFound

def resetThenApply (versions : Versions) (kill : Option KillPoint) (start targetVersion : Nat)
    (checkpoint : LocalCheckpoint) (seed : Directory) : LocalCheckpoint × PullOutcome :=
  match kill with
  | some (.copying left) => ({ checkpoint with files := left }, .killed)
  | _ =>
      applyDeltas checksum versions kill (List.range' (start + 1) (targetVersion - start))
        (resetCheckpoint seed start checkpoint)

def pullCheckpoint (baseDir : Directory) (versions : Versions) (targetVersion : Nat)
    (kill : Option KillPoint) (checkpoint : LocalCheckpoint) : LocalCheckpoint × PullOutcome :=
  let floor := checkpoint.applied.getD 0
  match scanStart versions floor targetVersion with
  | .error error => (checkpoint, .raised error)
  | .ok start =>
      if checkpoint.applied = none ∨ start > floor then
        match seedDir baseDir versions start with
        | .error error => (checkpoint, .raised error)
        | .ok seed => resetThenApply checksum versions kill start targetVersion checkpoint seed
      else
        applyDeltas checksum versions kill (List.range' (floor + 1) (targetVersion - floor))
          checkpoint

end Patching

end Vime.Utils
