import Vime.Backends.MegatronUtils.UpdateWeight.DiskDeltaUpdate

/-! # The files of a full version

What the shard writer and its finalisation leave in the directory of a version: the assets, one
shard for each chunk that has tensors, and the index.
-/

namespace Vime.Backends.MegatronUtils.DiskDelta

open Vime.Foundation
open Vime.Utils

/-! ## The shards before they are renamed -/

def format : List (String × String) := [("format", "pt")]

def shardNames (entries : List (Nat × NamedTensors)) : List String :=
  entries.flatMap fun entry => entry.2.map Prod.fst

def nonEmpty (entries : List (Nat × NamedTensors)) : List (Nat × NamedTensors) :=
  entries.filter fun entry => entry.2 ≠ []

def rawFiles (entries : List (Nat × NamedTensors)) : Directory :=
  entries.map fun entry => (.rawShard (entry.1 + 1), .safetensors format entry.2)

def rawState (entries : List (Nat × NamedTensors)) : ShardState where
  totalSize := (entries.flatMap Prod.snd).foldl (fun size tensor => size + tensor.2.length) 0
  weightMap := entries.flatMap fun entry => entry.2.map fun tensor => (tensor.1, entry.1 + 1)
  shardFiles := entries.map fun entry => entry.1 + 1

def writerAfter (assets : Directory) (entries : List (Nat × NamedTensors)) : ShardWriter where
  files := assets ++ rawFiles (nonEmpty entries)
  state := rawState (nonEmpty entries)

theorem shardNames_nonEmpty (entries : List (Nat × NamedTensors)) :
    shardNames (nonEmpty entries) = shardNames entries := by
  induction entries with
  | nil => rfl
  | cons entry rest induction =>
      rw [nonEmpty, shardNames] at induction
      rw [nonEmpty, shardNames, shardNames, List.filter_cons, List.flatMap_cons]
      by_cases empty : entry.2 = []
      · rw [if_neg (by simp [empty]), induction, empty]
        rfl
      · rw [if_pos (by simp [empty]), List.flatMap_cons, induction]
        rfl

theorem weightMap_keys (entries : List (Nat × NamedTensors)) :
    (rawState (nonEmpty entries)).weightMap.map Prod.fst = shardNames entries := by
  rw [← shardNames_nonEmpty, rawState, shardNames, List.map_flatMap]
  simp [Function.comp_def]

theorem foldl_size (tensors : NamedTensors) (size : Nat) :
    tensors.foldl (fun size tensor => size + tensor.2.length) size =
      size + tensors.foldl (fun size tensor => size + tensor.2.length) 0 := by
  induction tensors generalizing size with
  | nil => rfl
  | cons tensor rest induction =>
      rw [List.foldl_cons, List.foldl_cons, induction, induction (0 + tensor.2.length)]
      omega

theorem foldlM_add {weightMap : List (String × Nat)} {tensors : NamedTensors} :
    ∀ {stateDict result : StateDict}, (stateDict.tensors.map Prod.fst).Nodup →
      (tensors.foldlM (StateDict.add weightMap) stateDict = .ok result ↔
        (∀ tensor ∈ tensors, tensor.1 ∉ weightMap.map Prod.fst) ∧
          ((stateDict.tensors ++ tensors).map Prod.fst).Nodup ∧
            result =
              { totalSize := tensors.foldl (fun size tensor => size + tensor.2.length)
                  stateDict.totalSize
                tensors := stateDict.tensors ++ tensors }) := by
  induction tensors with
  | nil =>
      intro stateDict result distinct
      rw [List.foldlM_nil, pure_eq_ok, Except.ok.injEq, List.append_nil, List.foldl_nil]
      simp only [List.not_mem_nil, false_implies, implies_true, distinct, true_and]
      exact eq_comm
  | cons tensor rest induction =>
      intro stateDict result distinct
      rw [List.foldlM_cons, StateDict.add, List.forall_mem_cons, List.foldl_cons]
      by_cases known : tensor.1 ∈ weightMap.map Prod.fst ∨
          tensor.1 ∈ stateDict.tensors.map Prod.fst
      · rw [raiseIf, if_pos known, error_bind, error_bind]
        constructor
        · intro impossible
          cases impossible
        · rintro ⟨⟨fresh, _⟩, distinctAll, _⟩
          rw [List.map_append, List.nodup_append'] at distinctAll
          rcases known with inMap | inDict
          · exact absurd inMap fresh
          · exact absurd (by simp) (distinctAll.2.2 inDict)
      · rw [not_or] at known
        have added : ((stateDict.tensors ++ [tensor]).map Prod.fst).Nodup := by
          rw [List.map_append, List.nodup_append']
          simpa [distinct] using known.2
        rw [raiseIf, if_neg (by simpa [not_or] using known), ok_bind, pure_eq_ok, ok_bind,
          induction added, List.append_assoc, List.singleton_append]
        simp [known.1]

section Writer

variable {assets : Directory}

/-- One chunk is written if its names are new. -/
theorem write_writerAfter (isAsset : ∀ file ∈ assets, isHfWeightFile file.1 = false)
    {done : List (Nat × NamedTensors)} {shard : Nat × NamedTensors} {later : ShardWriter}
    (distinct : (shardNames done).Nodup) (newIndex : shard.1 ∉ done.map Prod.fst) :
    (writerAfter assets done).write shard = .ok later ↔
      (shardNames (done ++ [shard])).Nodup ∧ later = writerAfter assets (done ++ [shard]) := by
  rcases shard with ⟨index, tensors⟩
  have names : shardNames (done ++ [(index, tensors)]) =
      shardNames done ++ tensors.map Prod.fst := by
    simp [shardNames]
  have added := @foldlM_add (writerAfter assets done).state.weightMap tensors
    { totalSize := 0, tensors := [] }
  rw [ShardWriter.write, bind_eq_ok, names, List.nodup_append']
  have keys : (writerAfter assets done).state.weightMap.map Prod.fst = shardNames done :=
    weightMap_keys done
  have saved : ∀ later,
      (writerAfter assets done).save index
          { totalSize := tensors.foldl (fun size tensor => size + tensor.2.length) 0
            tensors := tensors } = .ok later ↔
        later = writerAfter assets (done ++ [(index, tensors)]) := by
    intro later
    rw [ShardWriter.save]
    by_cases empty : tensors = []
    · rw [if_pos empty, Except.ok.injEq, eq_comm]
      simp [writerAfter, nonEmpty, empty]
    · have fresh :
          FileName.rawShard (index + 1) ∉ (writerAfter assets done).files.map Prod.fst := by
        intro member
        rw [writerAfter, List.map_append, List.mem_append] at member
        rcases member with inAssets | inShards
        · rcases List.mem_map.mp inAssets with ⟨file, isFile, same⟩
          have notWeights := isAsset file isFile
          rw [same, isHfWeightFile] at notWeights
          cases notWeights
        · rw [rawFiles, List.map_map, List.mem_map] at inShards
          rcases inShards with ⟨entry, isEntry, same⟩
          have sameIndex : entry.1 = index := by simpa using same
          have isDone : entry ∈ done := List.mem_of_mem_filter isEntry
          exact newIndex (List.mem_map.mpr ⟨entry, isDone, sameIndex⟩)
      rw [if_neg empty, raiseIf, if_neg fresh, ok_bind, pure_eq_ok, Except.ok.injEq, eq_comm,
        setItem_fresh _ fresh]
      have kept : nonEmpty (done ++ [(index, tensors)]) = nonEmpty done ++ [(index, tensors)] := by
        simp [nonEmpty, empty]
      have size := foldl_size tensors
        (((nonEmpty done).flatMap Prod.snd).foldl (fun size tensor => size + tensor.2.length) 0)
      rw [writerAfter, writerAfter, kept]
      simp [rawFiles, rawState, format, ← size]
  constructor
  · rintro ⟨stateDict, gathered, isSaved⟩
    rcases (added (by simp)).mp gathered with ⟨fresh, own, isDict⟩
    rw [isDict] at isSaved
    refine ⟨⟨distinct, by simpa using own, ?_⟩, (saved later).mp isSaved⟩
    intro name inDone inTensors
    rcases List.mem_map.mp inTensors with ⟨tensor, isTensor, isName⟩
    apply fresh tensor isTensor
    rw [keys, isName]
    exact inDone
  · rintro ⟨⟨_, own, disjoint⟩, isLater⟩
    refine ⟨_, (added (by simp)).mpr ⟨?_, by simpa using own, rfl⟩, (saved later).mpr isLater⟩
    intro tensor isTensor known
    rw [keys] at known
    exact disjoint known (List.mem_map_of_mem isTensor)

/-- The chunks are written exactly if all their names differ. -/
theorem foldlM_write (isAsset : ∀ file ∈ assets, isHfWeightFile file.1 = false)
    {entries : List (Nat × NamedTensors)} :
    ∀ {done : List (Nat × NamedTensors)} {final : ShardWriter}, (shardNames done).Nodup →
      ((done ++ entries).map Prod.fst).Nodup →
        (entries.foldlM ShardWriter.write (writerAfter assets done) = .ok final ↔
          (shardNames (done ++ entries)).Nodup ∧ final = writerAfter assets (done ++ entries)) := by
  induction entries with
  | nil =>
      intro done final distinct _
      rw [List.foldlM_nil, pure_eq_ok, Except.ok.injEq, List.append_nil]
      simp [distinct, eq_comm]
  | cons entry rest induction =>
      intro done final distinct indices
      have newIndex : entry.1 ∉ done.map Prod.fst := by
        rw [List.map_append, List.nodup_append'] at indices
        exact fun inDone => indices.2.2 inDone (by simp)
      have regroup : done ++ entry :: rest = (done ++ [entry]) ++ rest := by simp
      rw [List.foldlM_cons, bind_eq_ok, regroup]
      rw [regroup] at indices
      constructor
      · rintro ⟨middle, written, more⟩
        rcases (write_writerAfter isAsset distinct newIndex).mp written with
          ⟨distinctHere, isMiddle⟩
        rw [isMiddle] at more
        exact (induction distinctHere indices).mp more
      · rintro ⟨distinctAll, isFinal⟩
        have distinctHere : (shardNames (done ++ [entry])).Nodup := by
          rw [shardNames, List.flatMap_append] at distinctAll
          exact (List.nodup_append'.mp distinctAll).1
        exact ⟨_, (write_writerAfter isAsset distinct newIndex).mpr ⟨distinctHere, rfl⟩,
          (induction distinctHere indices).mpr ⟨distinctAll, isFinal⟩⟩

end Writer

/-! ## The files after the finalisation -/

/-- The shards of chunks in order, counted from `position`. -/
def finalShards (total : Nat) : Nat → List NamedTensors → Directory
  | _, [] => []
  | position, chunk :: rest =>
      (.shard position total, .safetensors format chunk) :: finalShards total (position + 1) rest

def finalWeights (total : Nat) : Nat → List NamedTensors → List (String × FileName)
  | _, [] => []
  | position, chunk :: rest =>
      chunk.map (fun tensor => (tensor.1, .shard position total)) ++
        finalWeights total (position + 1) rest

theorem index_not_mem_finalShards {total : Nat} {chunks : List NamedTensors} :
    ∀ {position : Nat}, FileName.index ∉ (finalShards total position chunks).map Prod.fst := by
  induction chunks with
  | nil => exact fun member => nomatch member
  | cons chunk rest induction =>
      intro position member
      rw [finalShards, List.map_cons, List.mem_cons] at member
      rcases member with isFirst | inRest
      · cases isFirst
      · exact induction inRest

def filledChunks (chunks : List NamedTensors) : List NamedTensors :=
  chunks.filter fun chunk => chunk ≠ []

/-- What `_publish_full` leaves in an empty directory. -/
def writtenFiles (args : Args) (chunks : List NamedTensors) : Directory :=
  let shards := filledChunks chunks
  copyHfAssets args.hfCheckpoint [] ++ finalShards shards.length 1 shards ++
    [(.index,
      .index (.full (shards.flatten.foldl (fun size tensor => size + tensor.2.length) 0))
        (finalWeights shards.length 1 shards))]

section Plan

theorem foldlM_addShardFile {files : List Nat} :
    ∀ {known : List Nat}, (known ++ files).Nodup →
      files.foldlM addShardFile known = .ok (known ++ files) := by
  induction files with
  | nil =>
      intro known _
      rw [List.foldlM_nil, List.append_nil, pure_eq_ok]
  | cons file rest induction =>
      intro known distinct
      have regroup : known ++ file :: rest = (known ++ [file]) ++ rest := by simp
      have fresh : file ∉ known := by
        rw [List.nodup_append'] at distinct
        exact fun isKnown => distinct.2.2 isKnown List.mem_cons_self
      rw [List.foldlM_cons, addShardFile, raiseIf, if_neg fresh, ok_bind, pure_eq_ok, ok_bind,
        regroup]
      exact induction (regroup ▸ distinct)

theorem foldlM_addWeight {weights : List (String × Nat)} :
    ∀ {known : List (String × Nat)}, ((known ++ weights).map Prod.fst).Nodup →
      weights.foldlM addWeight known = .ok (known ++ weights) := by
  induction weights with
  | nil =>
      intro known _
      rw [List.foldlM_nil, List.append_nil, pure_eq_ok]
  | cons weight rest induction =>
      intro known distinct
      have regroup : known ++ weight :: rest = (known ++ [weight]) ++ rest := by simp
      have fresh : weight.1 ∉ known.map Prod.fst := by
        rw [List.map_append, List.nodup_append'] at distinct
        exact fun isKnown => distinct.2.2 isKnown (by simp)
      rw [List.foldlM_cons, addWeight, raiseIf, if_neg fresh, ok_bind, pure_eq_ok, ok_bind,
        regroup]
      exact induction (regroup ▸ distinct)

theorem foldlM_gather {state : ShardState} (files : state.shardFiles.Nodup)
    (names : (state.weightMap.map Prod.fst).Nodup) (others : Nat) :
    (state :: List.replicate others ShardState.empty).foldlM ShardState.gather ShardState.empty =
      .ok state := by
  have first : ShardState.empty.gather state = .ok state := by
    rw [ShardState.gather, ShardState.empty, foldlM_addShardFile (by simpa using files), ok_bind,
      foldlM_addWeight (by simpa using names), ok_bind, pure_eq_ok]
    simp
  have idle : state.gather ShardState.empty = .ok state := by
    rw [ShardState.gather, ShardState.empty]
    simp
  rw [List.foldlM_cons, first, ok_bind]
  induction others with
  | zero => rfl
  | succ others induction => rw [List.replicate_succ, List.foldlM_cons, idle, ok_bind, induction]

theorem lookup_renameMap {shardFiles : List Nat} (distinct : shardFiles.Nodup) {position : Nat}
    {filename : Nat} (found : shardFiles[position]? = some filename) :
    (renameMap shardFiles).lookup filename = some (.shard (position + 1) shardFiles.length) := by
  apply lookup_of_mem
  · have keys : (renameMap shardFiles).map Prod.fst = shardFiles := by
      apply List.ext_getElem?
      intro other
      rw [renameMap, List.getElem?_map, List.getElem?_mapIdx]
      cases shardFiles[other]? with
      | none => rfl
      | some file => rfl
    rwa [keys]
  · apply List.mem_of_getElem? (i := position)
    rw [renameMap, List.getElem?_mapIdx, found]
    rfl

variable {renames : List (Nat × FileName)} {total : Nat}

theorem mapM_finalName {shards : List (Nat × NamedTensors)} :
    ∀ start : Nat, (∀ position shard, shards[position]? = some shard →
        renames.lookup (shard.1 + 1) = some (.shard (start + position) total)) →
      (rawState shards).weightMap.mapM (finalName renames) =
        .ok (finalWeights total start (shards.map Prod.snd)) := by
  induction shards with
  | nil => exact fun _ _ => rfl
  | cons shard rest induction =>
      intro start renamed
      have here : renames.lookup (shard.1 + 1) = some (.shard start total) := renamed 0 shard rfl
      have later := induction (start + 1) fun position other found => by
        have next := renamed (position + 1) other found
        rwa [show start + (position + 1) = start + 1 + position by omega] at next
      have own : (shard.2.map fun tensor => (tensor.1, shard.1 + 1)).mapM (finalName renames) =
          .ok (shard.2.map fun tensor => (tensor.1, .shard start total)) :=
        mapM_map_eq_ok (finalName renames) _ _ _ fun tensor _ => by
          rw [finalName, here]
      have split : (rawState (shard :: rest)).weightMap =
          (shard.2.map fun tensor => (tensor.1, shard.1 + 1)) ++ (rawState rest).weightMap := rfl
      rw [split, List.mapM_append, own, ok_bind, later, ok_bind, pure_eq_ok]
      rfl

theorem replaceFile_here {old new : FileName} {front rest : Directory} {content : FileContent}
    (oldElsewhere : old ∉ (front ++ rest).map Prod.fst) (notNew : old ≠ new)
    (newElsewhere : new ∉ (front ++ rest).map Prod.fst) :
    replaceFile old new (front ++ (old, content) :: rest) = front ++ (new, content) :: rest := by
  have stays : ∀ files : Directory, old ∉ files.map Prod.fst → new ∉ files.map Prod.fst →
      (files.filter fun file => file.1 ≠ new).map
        (fun file => if file.1 = old then (new, file.2) else file) = files := by
    intro files noOld noNew
    have all : (files.filter fun file => file.1 ≠ new) = files := by
      apply List.filter_eq_self.mpr
      intro file isFile
      rw [decide_eq_true_eq]
      intro same
      exact noNew (List.mem_map.mpr ⟨file, isFile, same⟩)
    rw [all]
    conv_rhs => rw [← List.map_id files]
    apply List.map_congr_left
    intro file isFile
    rw [if_neg fun same => noOld (List.mem_map.mpr ⟨file, isFile, same⟩)]
    rfl
  rw [List.map_append, List.mem_append, not_or] at oldElsewhere newElsewhere
  have inFront := stays front oldElsewhere.1 newElsewhere.1
  have inRest := stays rest oldElsewhere.2 newElsewhere.2
  rw [replaceFile, List.filter_append, List.map_append, inFront, List.filter_cons,
    if_pos (by simpa using notNew), List.map_cons, if_pos rfl, inRest]

/-- The shards are renamed one after the other. -/
theorem foldlM_renameShard {shards : List (Nat × NamedTensors)} :
    ∀ (start : Nat) (front : Directory), (∀ position shard, shards[position]? = some shard →
        renames.lookup (shard.1 + 1) = some (.shard (start + position) total)) →
      (shards.map Prod.fst).Nodup →
      (∀ file ∈ front, (∀ number, file.1 ≠ .rawShard number) ∧
        ∀ position, start ≤ position → file.1 ≠ .shard position total) →
      ((rawState shards).shardFiles).foldlM (renameShard renames) (front ++ rawFiles shards) =
        .ok (front ++ finalShards total start (shards.map Prod.snd)) := by
  induction shards with
  | nil => exact fun _ _ _ _ _ => rfl
  | cons shard rest induction =>
      intro start front renamed distinct separate
      rw [List.map_cons, List.nodup_cons] at distinct
      have here : renames.lookup (shard.1 + 1) = some (.shard start total) := renamed 0 shard rfl
      have notRaw : ∀ name : FileName, name ∈ (front ++ rawFiles rest).map Prod.fst →
          name ≠ .rawShard (shard.1 + 1) ∧ name ≠ .shard start total := by
        intro name isName
        rw [List.map_append, List.mem_append] at isName
        rcases isName with inFront | inRest
        · rcases List.mem_map.mp inFront with ⟨file, isFile, same⟩
          rw [← same]
          exact ⟨(separate file isFile).1 _, (separate file isFile).2 start (Nat.le_refl start)⟩
        · rw [rawFiles, List.map_map, List.mem_map] at inRest
          rcases inRest with ⟨other, isOther, same⟩
          rw [← same]
          refine ⟨fun sameNumber => distinct.1 ?_, by simp⟩
          have sameIndex : other.1 = shard.1 := by simpa using sameNumber
          rw [← sameIndex]
          exact List.mem_map_of_mem isOther
      have replaced : replaceFile (.rawShard (shard.1 + 1)) (.shard start total)
            (front ++ (.rawShard (shard.1 + 1), .safetensors format shard.2) :: rawFiles rest) =
          front ++ (.shard start total, .safetensors format shard.2) :: rawFiles rest :=
        replaceFile_here (fun member => (notRaw _ member).1 rfl) (by simp)
          fun member => (notRaw _ member).2 rfl
      have next := induction (start + 1)
        (front ++ [(.shard start total, .safetensors format shard.2)])
        (fun position other found => by
          have later := renamed (position + 1) other found
          rwa [show start + (position + 1) = start + 1 + position by omega] at later)
        distinct.2 (by
          intro file isFile
          rcases List.mem_append.mp isFile with inFront | isNew
          · exact ⟨(separate file inFront).1, fun position after =>
              (separate file inFront).2 position (by omega)⟩
          · rw [List.mem_singleton.mp isNew]
            refine ⟨by simp, fun position after same => ?_⟩
            have samePosition : start = position := by simpa using same
            omega)
      rw [rawState] at next
      rw [rawState, List.map_cons, List.foldlM_cons, renameShard, here]
      dsimp only
      rw [ok_bind, rawFiles, List.map_cons]
      rw [rawFiles] at replaced next
      rw [replaced]
      simpa [finalShards] using next

/-- The shards of the only writer are renamed and listed in the index. -/
theorem finalizeLocalShards_eq {assets : Directory}
    (isAsset : ∀ file ∈ assets, isHfWeightFile file.1 = false)
    {shards : List (Nat × NamedTensors)} (ordered : (shards.map Prod.fst).Pairwise (· < ·))
    (names : ((rawState shards).weightMap.map Prod.fst).Nodup) (others : Nat) :
    finalizeLocalShards (assets ++ rawFiles shards) (rawState shards)
        (rawState shards :: List.replicate others ShardState.empty) =
      if shards = [] then .error (.valueError "No HF tensors were produced while saving")
      else .ok (assets ++ finalShards shards.length 1 (shards.map Prod.snd) ++
        [(.index, .index (.full (rawState shards).totalSize)
          (finalWeights shards.length 1 (shards.map Prod.snd)))]) := by
  have increasing : (rawState shards).shardFiles.Pairwise (· < ·) := by
    have shifted : (rawState shards).shardFiles = (shards.map Prod.fst).map (· + 1) := by
      rw [rawState, List.map_map]
      rfl
    rw [shifted]
    exact ordered.map _ fun _ _ below => Nat.succ_lt_succ below
  have distinct : (rawState shards).shardFiles.Nodup :=
    increasing.imp fun below => Nat.ne_of_lt below
  have sorted : (rawState shards).shardFiles.insertionSort (· ≤ ·) = (rawState shards).shardFiles :=
    (increasing.imp fun below => Nat.le_of_lt below).insertionSort_eq
  rw [finalizeLocalShards, planShardFinalization, foldlM_gather distinct names, ok_bind]
  by_cases empty : shards = []
  · rw [if_pos empty, raiseIf, if_pos (by simp [empty, rawState])]
    rfl
  · have renamed : ∀ position shard, shards[position]? = some shard →
        (renameMap (rawState shards).shardFiles).lookup (shard.1 + 1) =
          some (.shard (1 + position) shards.length) := by
      intro position shard found
      have isFile : (rawState shards).shardFiles[position]? = some (shard.1 + 1) := by
        rw [rawState, List.getElem?_map, found]
        rfl
      have looked := lookup_renameMap distinct isFile
      have count : (rawState shards).shardFiles.length = shards.length := by
        rw [rawState, List.length_map]
      rwa [count, Nat.add_comm position] at looked
    have filesRenamed := foldlM_renameShard 1 assets renamed
      (ordered.imp fun below => Nat.ne_of_lt below) (by
        intro file isFile
        have notWeights := isAsset file isFile
        refine ⟨fun number same => ?_, fun position _ same => ?_⟩
        · rw [same, isHfWeightFile] at notWeights
          cases notWeights
        · rw [same, isHfWeightFile] at notWeights
          cases notWeights)
    rw [if_neg empty, raiseIf, if_neg (by simpa [rawState] using empty), ok_bind, sorted]
    dsimp only
    rw [mapM_finalName 1 renamed, ok_bind, pure_eq_ok, ok_bind]
    dsimp only
    rw [filesRenamed, ok_bind, pure_eq_ok, setItem_fresh]
    intro member
    rw [List.map_append, List.mem_append] at member
    rcases member with inAssets | inShards
    · rcases List.mem_map.mp inAssets with ⟨file, isFile, same⟩
      have notWeights := isAsset file isFile
      rw [same, isHfWeightFile] at notWeights
      cases notWeights
    · exact index_not_mem_finalShards inShards

end Plan

/-! ## A full version -/

theorem copyHfAssets_assets (origin : Directory) :
    ∀ file ∈ copyHfAssets origin [], isHfWeightFile file.1 = false := by
  rw [copyHfAssets]
  apply foldl_invariant _
    (fun files : Directory => ∀ file ∈ files, isHfWeightFile file.1 = false)
  · intro file isFile files before other isOther
    have notWeights : isHfWeightFile file.1 = false := by
      simpa using (List.mem_filter.mp isFile).2
    have key := mem_keys_setItem.mp (List.mem_map_of_mem isOther)
    rcases key with isNew | isOld
    · rw [isNew]
      exact notWeights
    · rcases List.mem_map.mp isOld with ⟨old, inFiles, same⟩
      rw [← same]
      exact before old inFiles
  · exact fun _ member => nomatch member

section Full

variable (args : Args) (chunks : List NamedTensors)

theorem map_snd_numbered : (numberedChunks args chunks).map Prod.snd = chunks := by
  apply List.ext_getElem?
  intro position
  rw [numberedChunks, List.getElem?_map, List.getElem?_mapIdx]
  cases chunks[position]? with
  | none => rfl
  | some chunk => rfl

theorem shardNames_numbered :
    shardNames (numberedChunks args chunks) = chunks.flatten.map Prod.fst := by
  have names : ∀ entries : List (Nat × NamedTensors),
      shardNames entries = (entries.map Prod.snd).flatten.map Prod.fst := by
    intro entries
    rw [shardNames, List.map_flatten, List.map_map, List.flatMap_def]
    rfl
  rw [names, map_snd_numbered]

theorem map_snd_nonEmpty : (nonEmpty (numberedChunks args chunks)).map Prod.snd =
    filledChunks chunks := by
  rw [filledChunks]
  conv_rhs => rw [← map_snd_numbered args chunks, List.filter_map]
  rfl

theorem numbered_ordered :
    ((numberedChunks args chunks).map Prod.fst).Pairwise (· < ·) := by
  have numbers : (numberedChunks args chunks).map Prod.fst =
      (List.range chunks.length).map (· * args.worldSize) := by
    apply List.ext_getElem?
    intro position
    rw [numberedChunks, List.getElem?_map, List.getElem?_mapIdx, List.getElem?_map]
    by_cases inside : position < chunks.length
    · rw [List.getElem?_eq_getElem inside, List.getElem?_range inside]
      rfl
    · rw [List.getElem?_eq_none (Nat.not_lt.mp inside), List.getElem?_eq_none (by simp; omega)]
      rfl
  rw [numbers]
  exact List.pairwise_lt_range.map _ fun _ _ below =>
    Nat.mul_lt_mul_of_pos_right below args.worldSizePos

/-- A full publication returns exactly if there are tensors and all their names differ. -/
theorem publishFull_eq_ok {files : Directory} {snapshot : NamedTensors} :
    publishFull args [] chunks = .ok (files, snapshot) ↔
      (chunks.flatten.map Prod.fst).Nodup ∧ filledChunks chunks ≠ [] ∧
        files = writtenFiles args chunks ∧
          snapshot = chunks.flatten.foldl
            (fun snapshot tensor => setItem tensor.1 tensor.2 snapshot) [] := by
  have isAsset := copyHfAssets_assets args.hfCheckpoint
  have ordered := numbered_ordered args chunks
  have written : ∀ final,
      (numberedChunks args chunks).foldlM ShardWriter.write
          (writerAfter (copyHfAssets args.hfCheckpoint []) []) = .ok final ↔
        (shardNames ([] ++ numberedChunks args chunks)).Nodup ∧
          final = writerAfter (copyHfAssets args.hfCheckpoint [])
            ([] ++ numberedChunks args chunks) :=
    fun _ => foldlM_write isAsset List.nodup_nil (ordered.imp fun below => Nat.ne_of_lt below)
  have start : emptyWriter (copyHfAssets args.hfCheckpoint []) =
      writerAfter (copyHfAssets args.hfCheckpoint []) [] := by
    rw [emptyWriter, writerAfter]
    simp [rawFiles, rawState, nonEmpty, ShardState.empty]
  have keptOrdered : ((nonEmpty (numberedChunks args chunks)).map Prod.fst).Pairwise (· < ·) :=
    ordered.sublist (List.filter_sublist.map _)
  have keys := weightMap_keys (numberedChunks args chunks)
  rw [shardNames_numbered] at keys
  have isEmpty : nonEmpty (numberedChunks args chunks) = [] ↔ filledChunks chunks = [] := by
    rw [← map_snd_nonEmpty args chunks, List.map_eq_nil_iff]
  have final : (chunks.flatten.map Prod.fst).Nodup → filledChunks chunks ≠ [] →
      finalizeLocalShards
          (copyHfAssets args.hfCheckpoint [] ++ rawFiles (nonEmpty (numberedChunks args chunks)))
          (rawState (nonEmpty (numberedChunks args chunks)))
          (rawState (nonEmpty (numberedChunks args chunks)) ::
            List.replicate (args.worldSize - 1) ShardState.empty) =
        .ok (writtenFiles args chunks) := by
    intro distinct filled
    have count := congrArg List.length (map_snd_nonEmpty args chunks)
    rw [List.length_map] at count
    rw [finalizeLocalShards_eq isAsset keptOrdered (keys ▸ distinct), if_neg (by rwa [isEmpty]),
      map_snd_nonEmpty, count, writtenFiles, rawState, List.flatMap_def, map_snd_nonEmpty]
  rw [publishFull, bind_eq_ok, start]
  constructor
  · rintro ⟨writer, isWriter, finalized⟩
    rcases (written writer).mp isWriter with ⟨distinct, writerEq⟩
    rw [List.nil_append, shardNames_numbered] at distinct
    rw [writerEq, List.nil_append] at finalized
    rcases bind_eq_ok.mp finalized with ⟨result, resultEq, returned⟩
    rw [pure_eq_ok, Except.ok.injEq, Prod.mk.injEq] at returned
    have filled : filledChunks chunks ≠ [] := by
      intro none
      rw [writerAfter, finalizeLocalShards_eq isAsset keptOrdered (keys ▸ distinct),
        if_pos (isEmpty.mpr none)] at resultEq
      cases resultEq
    rw [writerAfter, final distinct filled, Except.ok.injEq] at resultEq
    exact ⟨distinct, filled, by rw [← returned.1, resultEq], returned.2.symm⟩
  · rintro ⟨distinct, filled, isFiles, isSnapshot⟩
    refine ⟨_, (written _).mpr ⟨?_, rfl⟩, ?_⟩
    · rwa [List.nil_append, shardNames_numbered]
    · rw [List.nil_append, writerAfter]
      dsimp only
      rw [final distinct filled, ok_bind, pure_eq_ok, isFiles, isSnapshot]

end Full

end Vime.Backends.MegatronUtils.DiskDelta
