import Mathlib.Algebra.Order.Ring.Nat
import Mathlib.Algebra.Order.Ring.Rat
import Mathlib.Data.List.Sort
import Vime.Utils.LocalCheckpoint

/-! # Hugging Face checkpoints in shards

The shard writer of `vime/backends/megatron_utils/hf_checkpoint_saver.py` and its finalisation:
the ranks write numbered shards, rename them when the number of files is known, and write the
index last.
-/

namespace Vime.Backends.MegatronUtils

open Vime.Foundation
open Vime.Utils

abbrev NamedTensors := List (String × List UInt8)

def hfWeightFileNames : List String :=
  ["model.safetensors.index.json", "pytorch_model.bin.index.json", "tf_model.h5",
    "flax_model.msgpack"]

def hfWeightFileSuffixes : List String :=
  [".safetensors", ".bin", ".pt", ".pth", ".ckpt", ".msgpack"]

def isHfWeightFile : FileName → Bool
  | .index => true
  | .rawShard _ => true
  | .shard _ _ => true
  | .other name => hfWeightFileNames.contains name || hfWeightFileSuffixes.any fun suffix =>
      name.endsWith suffix

def copyHfAssets (origin output : Directory) : Directory :=
  (origin.filter fun file => !isHfWeightFile file.1).foldl
    (fun files file => setItem file.1 file.2 files) output

/-! ## Writing shards -/

/-- `_SafetensorShardWriter.state`: shard files are given by the numbers of their raw names. -/
structure ShardState where
  totalSize : Nat
  weightMap : List (String × Nat)
  shardFiles : List Nat
  deriving DecidableEq, Repr

namespace ShardState

def empty : ShardState := { totalSize := 0, weightMap := [], shardFiles := [] }

end ShardState

/-- `_SafetensorShardWriter` with the files of its directory. -/
structure ShardWriter where
  files : Directory
  state : ShardState

structure StateDict where
  totalSize : Nat
  tensors : NamedTensors

def StateDict.add (weightMap : List (String × Nat)) (stateDict : StateDict)
    (tensor : String × List UInt8) : Except PyException StateDict := do
  raiseIf (tensor.1 ∈ weightMap.map Prod.fst ∨ tensor.1 ∈ stateDict.tensors.map Prod.fst)
    (.valueError s!"Duplicate HF tensor while saving: {tensor.1}")
  pure
    { totalSize := stateDict.totalSize + tensor.2.length
      tensors := stateDict.tensors ++ [tensor] }

namespace ShardWriter

def save (shardIdx : Nat) (writer : ShardWriter) (stateDict : StateDict) :
    Except PyException ShardWriter :=
  if stateDict.tensors = [] then .ok writer
  else do
    raiseIf (.rawShard (shardIdx + 1) ∈ writer.files.map Prod.fst)
      (.valueError s!"Duplicate HF shard file while saving: {shardIdx + 1}")
    pure
      { files := setItem (.rawShard (shardIdx + 1))
          (.safetensors [("format", "pt")] stateDict.tensors) writer.files
        state :=
          { totalSize := writer.state.totalSize + stateDict.totalSize
            weightMap := writer.state.weightMap ++
              stateDict.tensors.map fun tensor => (tensor.1, shardIdx + 1)
            shardFiles := writer.state.shardFiles ++ [shardIdx + 1] } }

def write (writer : ShardWriter) (shard : Nat × NamedTensors) : Except PyException ShardWriter :=
  shard.2.foldlM (StateDict.add writer.state.weightMap) { totalSize := 0, tensors := [] } >>=
    writer.save shard.1

end ShardWriter

/-! ## Finalisation -/

def addShardFile (shardFiles : List Nat) (filename : Nat) : Except PyException (List Nat) := do
  raiseIf (filename ∈ shardFiles)
    (.valueError s!"Duplicate HF shard file while finalizing: {filename}")
  pure (shardFiles ++ [filename])

def addWeight (weightMap : List (String × Nat)) (weight : String × Nat) :
    Except PyException (List (String × Nat)) := do
  raiseIf (weight.1 ∈ weightMap.map Prod.fst)
    (.valueError s!"Duplicate HF tensor while finalizing: {weight.1}")
  pure (weightMap ++ [weight])

def ShardState.gather (gathered state : ShardState) : Except PyException ShardState := do
  let shardFiles ← state.shardFiles.foldlM addShardFile gathered.shardFiles
  let weightMap ← state.weightMap.foldlM addWeight gathered.weightMap
  pure
    { totalSize := gathered.totalSize + state.totalSize
      weightMap := weightMap
      shardFiles := shardFiles }

def renameMap (shardFiles : List Nat) : List (Nat × FileName) :=
  shardFiles.mapIdx fun position filename => (filename, .shard (position + 1) shardFiles.length)

def finalName (renames : List (Nat × FileName)) (weight : String × Nat) :
    Except PyException (String × FileName) :=
  match renames.lookup weight.2 with
  | some filename => .ok (weight.1, filename)
  | none => .error (.valueError s!"HF tensor {weight.1} points to missing shard file {weight.2}")

structure ShardPlan where
  renames : List (Nat × FileName)
  index : FileContent

def planShardFinalization (states : List ShardState) : Except PyException ShardPlan := do
  let gathered ← states.foldlM ShardState.gather ShardState.empty
  raiseIf (gathered.shardFiles = []) (.valueError "No HF tensors were produced while saving")
  let renames := renameMap (gathered.shardFiles.insertionSort (· ≤ ·))
  let weightMap ← gathered.weightMap.mapM (finalName renames)
  pure { renames := renames, index := .index (.full gathered.totalSize) weightMap }

/-- `os.replace`. -/
def replaceFile (old new : FileName) (directory : Directory) : Directory :=
  (directory.filter fun file => file.1 ≠ new).map fun file =>
    if file.1 = old then (new, file.2) else file

def renameShard (renames : List (Nat × FileName)) (directory : Directory) (filename : Nat) :
    Except PyException Directory :=
  match renames.lookup filename with
  | some name => .ok (replaceFile (.rawShard filename) name directory)
  | none => .error .keyError

def finalizeLocalShards (directory : Directory) (localState : ShardState)
    (shardStates : List ShardState) : Except PyException Directory := do
  let plan ← planShardFinalization shardStates
  let renamed ← localState.shardFiles.foldlM (renameShard plan.renames) directory
  pure (setItem .index plan.index renamed)

end Vime.Backends.MegatronUtils
