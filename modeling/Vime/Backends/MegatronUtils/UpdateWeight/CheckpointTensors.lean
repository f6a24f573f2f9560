import Vime.Backends.MegatronUtils.UpdateWeight.WrittenCheckpoint

/-! # The tensors of a local checkpoint

A copy of a full version is found again by its index, each tensor at one place of one shard, and
a write to that place gives the files of a full version with the new tensor.
-/

namespace Vime.Backends.MegatronUtils.DiskDelta

open Vime.Foundation
open Vime.Utils

def SameFiles (left right : Directory) : Prop := ∀ name, left.lookup name = right.lookup name

def fillChunks (names : List (List String)) (value : String → List UInt8) : List NamedTensors :=
  names.map fun chunk => chunk.map fun name => (name, value name)

def checkpointFiles (args : Args) (names : List (List String)) (value : String → List UInt8) :
    Directory :=
  writtenFiles args (fillChunks names value)

def filledNames (names : List (List String)) : List (List String) :=
  names.filter fun chunk => chunk ≠ []

theorem filledChunks_fill (names : List (List String)) (value : String → List UInt8) :
    filledChunks (fillChunks names value) = fillChunks (filledNames names) value := by
  rw [filledChunks, fillChunks, fillChunks, filledNames, List.filter_map]
  congr 1
  apply List.filter_congr
  intro chunk _
  simp

/-! ## Copies -/

theorem SameFiles.trans {first second third : Directory} (left : SameFiles first second)
    (right : SameFiles second third) : SameFiles first third :=
  fun name => (left name).trans (right name)

theorem lookup_filter_keys {κ : Type u} {α : Type v} [DecidableEq κ] (keep : κ → Bool) (key : κ)
    (table : List (κ × α)) :
    (table.filter fun entry => keep entry.1).lookup key =
      if keep key then table.lookup key else none := by
  induction table with
  | nil => simp
  | cons entry rest induction =>
      rcases entry with ⟨other, value⟩
      rw [List.filter_cons, List.lookup_cons]
      by_cases same : key = other
      · by_cases kept : keep key = true
        · rw [if_pos kept, if_pos (same ▸ kept), List.lookup_cons, same, beq_self_eq_true]
        · rw [if_neg kept, if_neg (same ▸ kept), induction, if_neg kept]
      · by_cases kept : keep other = true
        · rw [if_pos kept, List.lookup_cons, induction, beq_eq_false_iff_ne.mpr same]
        · rw [if_neg kept, induction, beq_eq_false_iff_ne.mpr same]

theorem resetCheckpoint_files {source : Directory} (distinct : (source.map Prod.fst).Nodup)
    (version : Nat) (checkpoint : LocalCheckpoint) :
    SameFiles (resetCheckpoint source version checkpoint).files source := by
  intro name
  have copied := lookup_foldl_items (fun _ content => some content)
    (fun files (entry : FileName × FileContent) key => lookup_setItem entry.1 entry.2 files key)
    distinct checkpoint.files name
  have kept := lookup_filter_keys (fun name => decide (name ∈ source.map Prod.fst)) name
    (source.foldl (fun files entry => setItem entry.1 entry.2 files) checkpoint.files)
  rw [resetCheckpoint]
  dsimp only
  rw [kept, copied]
  cases found : source.lookup name with
  | none => rw [if_neg (by simpa using lookup_eq_none_iff.mp found)]
  | some content =>
      have member : name ∈ source.map Prod.fst :=
        List.mem_map_of_mem ((lookup_eq_some_iff distinct).mp found)
      rw [if_pos (by simpa using member)]

/-! ## Writes -/

theorem lookup_writeRegion (path : FileName) (name : String) (region : List UInt8)
    (directory : Directory) (file : FileName) :
    (writeRegion path name region directory).lookup file =
      if file = path then (directory.lookup file).map (FileContent.setTensor name region)
      else directory.lookup file := by
  induction directory with
  | nil => simp [writeRegion]
  | cons entry rest induction =>
      rcases entry with ⟨other, content⟩
      rw [writeRegion] at induction
      rw [writeRegion, List.map_cons, List.lookup_cons]
      by_cases here : other = path
      · rw [if_pos here, List.lookup_cons, induction]
        by_cases same : file = other
        · simp [same, here]
        · simp [beq_eq_false_iff_ne.mpr same]
      · rw [if_neg here, List.lookup_cons, induction]
        by_cases same : file = other
        · simp [same, here]
        · simp [beq_eq_false_iff_ne.mpr same]

theorem SameFiles.writeRegion {left right : Directory} (same : SameFiles left right)
    (path : FileName) (name : String) (region : List UInt8) :
    SameFiles (writeRegion path name region left) (writeRegion path name region right) := by
  intro file
  rw [lookup_writeRegion, lookup_writeRegion, same file]

/-! ## The place of a tensor -/

/-- The shard of a tensor, among shards counted from `position`. -/
def shardOf (total : Nat) (name : String) : Nat → List (List String) → FileName
  | position, [] => .shard position total
  | position, chunk :: rest =>
      if name ∈ chunk then .shard position total else shardOf total name (position + 1) rest

theorem shardOf_eq {total : Nat} {name : String} {chunks : List (List String)} :
    ∀ {start position : Nat} {chunk : List String}, chunks.flatten.Nodup →
      chunks[position]? = some chunk → name ∈ chunk →
        shardOf total name start chunks = .shard (start + position) total := by
  induction chunks with
  | nil => exact fun _ found => nomatch found
  | cons first rest induction =>
      intro start position chunk distinct found inChunk
      rw [List.flatten_cons, List.nodup_append'] at distinct
      cases position with
      | zero =>
          rw [List.getElem?_cons_zero, Option.some.injEq] at found
          rw [shardOf, found, if_pos inChunk, Nat.add_zero]
      | succ position =>
          rw [List.getElem?_cons_succ] at found
          have notFirst : name ∉ first := fun inFirst =>
            distinct.2.2 inFirst
              (List.mem_flatten.mpr ⟨chunk, List.mem_of_getElem? found, inChunk⟩)
          rw [shardOf, if_neg notFirst, induction distinct.2.1 found inChunk,
            show start + 1 + position = start + (position + 1) by omega]

theorem shardOf_isShard {total : Nat} {name : String} {chunks : List (List String)} :
    ∀ {start : Nat}, ∃ position, shardOf total name start chunks = .shard position total := by
  induction chunks with
  | nil => exact fun {start} => ⟨start, rfl⟩
  | cons chunk rest induction =>
      intro start
      rw [shardOf]
      by_cases inChunk : name ∈ chunk
      · exact ⟨start, if_pos inChunk⟩
      · rw [if_neg inChunk]
        exact induction

theorem exists_shard {name : String} {chunks : List (List String)}
    (member : name ∈ chunks.flatten) :
    ∃ (position : Nat) (chunk : List String),
      chunks[position]? = some chunk ∧ name ∈ chunk := by
  rcases List.mem_flatten.mp member with ⟨chunk, isChunk, inChunk⟩
  rcases List.getElem?_of_mem isChunk with ⟨position, found⟩
  exact ⟨position, chunk, found, inChunk⟩

section Shards

variable {total : Nat}

theorem lookup_finalShards {chunks : List NamedTensors} :
    ∀ start position : Nat,
      (finalShards total start chunks).lookup (.shard (start + position) total) =
        chunks[position]?.map (.safetensors format) := by
  induction chunks with
  | nil => exact fun _ _ => rfl
  | cons chunk rest induction =>
      intro start position
      rw [finalShards, List.lookup_cons]
      cases position with
      | zero => rw [Nat.add_zero, beq_self_eq_true, List.getElem?_cons_zero, Option.map_some]
      | succ position =>
          have later := induction (start + 1) position
          rw [show start + 1 + position = start + (position + 1) by omega] at later
          have notFirst : FileName.shard (start + (position + 1)) total ≠ .shard start total := by
            intro same
            rw [FileName.shard.injEq] at same
            omega
          rw [List.getElem?_cons_succ, ← later, beq_eq_false_iff_ne.mpr notFirst]

theorem mem_finalShards {chunks : List NamedTensors} {name : FileName} :
    ∀ {start : Nat}, name ∈ (finalShards total start chunks).map Prod.fst →
      ∃ position, start ≤ position ∧ name = .shard position total := by
  induction chunks with
  | nil => exact fun member => nomatch member
  | cons chunk rest induction =>
      intro start member
      rw [finalShards, List.map_cons, List.mem_cons] at member
      rcases member with isFirst | inRest
      · exact ⟨start, Nat.le_refl start, isFirst⟩
      · rcases induction inRest with ⟨position, after, isShard⟩
        exact ⟨position, by omega, isShard⟩

theorem nodup_finalShards {chunks : List NamedTensors} :
    ∀ {start : Nat}, ((finalShards total start chunks).map Prod.fst).Nodup := by
  induction chunks with
  | nil => exact List.nodup_nil
  | cons chunk rest induction =>
      intro start
      rw [finalShards, List.map_cons, List.nodup_cons]
      refine ⟨fun member => ?_, induction⟩
      rcases mem_finalShards member with ⟨position, after, same⟩
      have samePosition : start = position := by simpa using same
      omega

/-- Rewriting one tensor in its shard. -/
theorem writeRegion_finalShards {chunks : List (List String)} {name : String} {path : FileName}
    (region : List UInt8) (value : String → List UInt8) :
    ∀ start : Nat, (∀ position chunk, chunks[position]? = some chunk → name ∈ chunk →
        path = .shard (start + position) total) →
      writeRegion path name region (finalShards total start (fillChunks chunks value)) =
        finalShards total start (fillChunks chunks (Function.update value name region)) := by
  induction chunks with
  | nil => exact fun _ _ => rfl
  | cons chunk rest induction =>
      intro start isPath
      have later := induction (start + 1) fun position other found inOther => by
        rw [isPath (position + 1) other found inOther,
          show start + (position + 1) = start + 1 + position by omega]
      have here : (if FileName.shard start total = path then
            (FileName.shard start total, (FileContent.safetensors format
              (chunk.map fun name => (name, value name))).setTensor name region)
          else (FileName.shard start total, FileContent.safetensors format
              (chunk.map fun name => (name, value name)))) =
          (FileName.shard start total, FileContent.safetensors format
            (chunk.map fun other => (other, Function.update value name region other))) := by
        by_cases same : FileName.shard start total = path
        · rw [if_pos same, FileContent.setTensor, List.map_map]
          have tensors : (chunk.map ((fun tensor : String × List UInt8 =>
                if tensor.1 = name then (name, region) else tensor) ∘
                fun other => (other, value other))) =
              chunk.map fun other => (other, Function.update value name region other) := by
            apply List.map_congr_left
            intro other _
            rw [Function.comp_apply]
            by_cases isName : other = name
            · rw [if_pos isName, isName, Function.update_self]
            · rw [if_neg isName, Function.update_of_ne isName]
          rw [tensors]
        · have elsewhere : name ∉ chunk := fun inChunk => same (isPath 0 chunk rfl inChunk).symm
          have tensors : (chunk.map fun other => (other, value other)) =
              chunk.map fun other => (other, Function.update value name region other) := by
            apply List.map_congr_left
            intro other inChunk
            have notName : other ≠ name := fun isName => elsewhere (isName ▸ inChunk)
            rw [Function.update_of_ne notName]
          rw [if_neg same, tensors]
      rw [writeRegion, fillChunks] at later
      rw [writeRegion, fillChunks, List.map_cons, finalShards, List.map_cons, here, later]
      rfl

end Shards

/-! ## Full versions -/

theorem flatten_filledNames (names : List (List String)) :
    (filledNames names).flatten = names.flatten := by
  induction names with
  | nil => rfl
  | cons chunk rest induction =>
      rw [filledNames] at induction
      rw [filledNames, List.filter_cons]
      by_cases empty : chunk = []
      · rw [if_neg (by simp [empty]), induction, empty]
        rfl
      · rw [if_pos (by simp [empty]), List.flatten_cons, List.flatten_cons, induction]

def location (names : List (List String)) (name : String) : FileName :=
  shardOf (filledNames names).length name 1 (filledNames names)

theorem nodup_copyHfAssets (origin : Directory) :
    ((copyHfAssets origin []).map Prod.fst).Nodup := by
  rw [copyHfAssets]
  exact foldl_invariant _ (fun files : Directory => (files.map Prod.fst).Nodup) _
    (fun file _ files distinct => nodup_keys_setItem file.1 file.2 distinct) [] List.nodup_nil

theorem asset_keys (origin : Directory) {name : FileName}
    (isWeight : isHfWeightFile name = true) : name ∉ (copyHfAssets origin []).map Prod.fst := by
  intro member
  rcases List.mem_map.mp member with ⟨file, isFile, same⟩
  have notWeights := copyHfAssets_assets origin file isFile
  rw [same, isWeight] at notWeights
  cases notWeights

section Checkpoint

variable {args : Args} {names : List (List String)} {value : String → List UInt8}
  {directory : Directory}

theorem nodup_checkpointFiles : ((checkpointFiles args names value).map Prod.fst).Nodup := by
  rw [checkpointFiles, writtenFiles, List.map_append, List.map_append, List.append_assoc,
    List.nodup_append', List.nodup_append']
  refine ⟨nodup_copyHfAssets _, ⟨nodup_finalShards, List.nodup_singleton _, ?_⟩, ?_⟩
  · intro name inShards isIndex
    rcases mem_finalShards inShards with ⟨position, _, isShard⟩
    rw [isShard, List.map_singleton, List.mem_singleton] at isIndex
    cases isIndex
  · intro name isAsset inRest
    rcases List.mem_append.mp inRest with inShards | isIndex
    · rcases mem_finalShards inShards with ⟨position, _, isShard⟩
      exact asset_keys args.hfCheckpoint (by rw [isShard, isHfWeightFile]) isAsset
    · rw [List.map_singleton, List.mem_singleton] at isIndex
      exact asset_keys args.hfCheckpoint (by rw [isIndex, isHfWeightFile]) isAsset

def weightMapOf (names : List (List String)) : List (String × FileName) :=
  finalWeights (filledNames names).length 1 (fillChunks (filledNames names) fun _ => [])

theorem finalWeights_fill (total : Nat) (chunks : List (List String))
    (value other : String → List UInt8) :
    ∀ start, finalWeights total start (fillChunks chunks value) =
      finalWeights total start (fillChunks chunks other) := by
  induction chunks with
  | nil => exact fun _ => rfl
  | cons chunk rest induction =>
      intro start
      have later := induction (start + 1)
      rw [fillChunks, fillChunks] at later
      rw [fillChunks, fillChunks, List.map_cons, List.map_cons, finalWeights, finalWeights, later]
      simp [Function.comp_def]

theorem checkpointFiles_eq : checkpointFiles args names value =
    copyHfAssets args.hfCheckpoint [] ++
      finalShards (filledNames names).length 1 (fillChunks (filledNames names) value) ++
        [(.index, .index
          (.full (names.flatten.foldl (fun size name => size + (value name).length) 0))
          (weightMapOf names))] := by
  have count : (fillChunks (filledNames names) value).length = (filledNames names).length := by
    rw [fillChunks, List.length_map]
  have flat : (fillChunks (filledNames names) value).flatten =
      names.flatten.map fun name => (name, value name) := by
    rw [fillChunks, ← List.map_flatten, flatten_filledNames]
  rw [checkpointFiles, writtenFiles, filledChunks_fill, count, flat, List.foldl_map, weightMapOf,
    finalWeights_fill _ _ value fun _ => []]

theorem lookup_index : (checkpointFiles args names value).lookup .index =
    some (.index (.full (names.flatten.foldl (fun size name => size + (value name).length) 0))
      (weightMapOf names)) := by
  rw [checkpointFiles_eq]
  apply lookup_of_mem
  · rw [← checkpointFiles_eq]
    exact nodup_checkpointFiles
  · simp

theorem lookup_shard {position : Nat} {chunk : List String}
    (found : (filledNames names)[position]? = some chunk) :
    (checkpointFiles args names value).lookup (.shard (1 + position) (filledNames names).length) =
      some (.safetensors format (chunk.map fun name => (name, value name))) := by
  have inShards : (finalShards (filledNames names).length 1
      (fillChunks (filledNames names) value)).lookup
        (.shard (1 + position) (filledNames names).length) =
      some (.safetensors format (chunk.map fun name => (name, value name))) := by
    rw [lookup_finalShards, fillChunks, List.getElem?_map, found]
    rfl
  apply lookup_of_mem nodup_checkpointFiles
  rw [checkpointFiles_eq]
  exact List.mem_append_left _ (List.mem_append_right _ (mem_of_lookup inShards))

theorem readTensor_checkpoint (distinct : names.flatten.Nodup)
    (same : SameFiles directory (checkpointFiles args names value)) {name : String}
    (isName : name ∈ names.flatten) :
    readTensor directory (location names name) name = some (value name) := by
  rw [← flatten_filledNames] at isName distinct
  rcases exists_shard isName with ⟨position, chunk, found, inChunk⟩
  have here : (chunk.map fun name => (name, value name)).lookup name = some (value name) := by
    apply lookup_of_mem
    · have own : chunk.Nodup :=
        (List.nodup_flatten.mp distinct).1 chunk (List.mem_of_getElem? found)
      simpa [Function.comp_def] using own
    · exact List.mem_map.mpr ⟨name, inChunk, rfl⟩
  rw [location, shardOf_eq distinct found inChunk, readTensor, same, lookup_shard found]
  exact here

/-- Writing a tensor of the same size gives the files of the new values. -/
theorem writeRegion_checkpoint (distinct : names.flatten.Nodup)
    (same : SameFiles directory (checkpointFiles args names value)) {name : String}
    {region : List UInt8} (sized : region.length = (value name).length) :
    SameFiles (writeRegion (location names name) name region directory)
      (checkpointFiles args names (Function.update value name region)) := by
  have isPath : ∀ position chunk, (filledNames names)[position]? = some chunk → name ∈ chunk →
      location names name = .shard (1 + position) (filledNames names).length :=
    fun position chunk found inChunk =>
      shardOf_eq (by rwa [flatten_filledNames]) found inChunk
  have isShard : ∃ position, location names name = .shard position (filledNames names).length := by
    rw [location]
    exact shardOf_isShard
  have elsewhere : ∀ files : Directory, (∀ file ∈ files, file.1 ≠ location names name) →
      writeRegion (location names name) name region files = files := by
    intro files others
    rw [writeRegion]
    conv_rhs => rw [← List.map_id files]
    apply List.map_congr_left
    intro file isFile
    rw [if_neg (others file isFile)]
    rfl
  rcases isShard with ⟨position, isShard⟩
  have assets := elsewhere (copyHfAssets args.hfCheckpoint []) fun file isFile isHere =>
    asset_keys args.hfCheckpoint (by rw [isShard, isHfWeightFile])
      (List.mem_map.mpr ⟨file, isFile, isHere⟩)
  have index := elsewhere [(.index, .index
      (.full (names.flatten.foldl (fun size name => size + (value name).length) 0))
      (weightMapOf names))] fun file isFile isHere => by
    rw [List.mem_singleton.mp isFile, isShard] at isHere
    cases isHere
  have size : (fun (size : Nat) other => size + (Function.update value name region other).length) =
      fun size other => size + (value other).length := by
    funext size other
    by_cases isName : other = name
    · rw [isName, Function.update_self, sized]
    · rw [Function.update_of_ne isName]
  have written : writeRegion (location names name) name region (checkpointFiles args names value) =
      checkpointFiles args names (Function.update value name region) := by
    have shards := writeRegion_finalShards region value 1 isPath
    rw [writeRegion] at assets shards index
    rw [checkpointFiles_eq, checkpointFiles_eq, size, writeRegion, List.map_append,
      List.map_append, assets, shards, index]
  rw [← written]
  exact same.writeRegion _ _ _

theorem checkpointFiles_congr {other : String → List UInt8}
    (agree : ∀ name ∈ names.flatten, value name = other name) :
    SameFiles (checkpointFiles args names value) (checkpointFiles args names other) := by
  have chunks : fillChunks names value = fillChunks names other := by
    rw [fillChunks, fillChunks]
    apply List.map_congr_left
    intro chunk isChunk
    apply List.map_congr_left
    intro name inChunk
    rw [agree name (List.mem_flatten.mpr ⟨chunk, isChunk, inChunk⟩)]
  intro name
  rw [checkpointFiles, checkpointFiles, chunks]

/-! ## Finding all tensors -/

theorem lookup_addLocations (path : FileName) (tensors : List (String × List UInt8))
    (name : String) :
    ∀ locations : List (String × FileName), (addLocations path locations tensors).lookup name =
      if name ∈ tensors.map Prod.fst then some path else locations.lookup name := by
  induction tensors with
  | nil => exact fun _ => rfl
  | cons tensor rest induction =>
      intro locations
      have later := induction (setItem tensor.1 path locations)
      rw [addLocations] at later
      rw [addLocations, List.foldl_cons, later, lookup_setItem, List.map_cons]
      by_cases inRest : name ∈ rest.map Prod.fst
      · rw [if_pos inRest, if_pos (List.mem_cons_of_mem _ inRest)]
      · rw [if_neg inRest]
        simp only [List.mem_cons, inRest, or_false]

/-- A name that only one of the files has is found there. -/
theorem foldlM_addLocations {paths : List FileName}
    (readable : ∀ path ∈ paths, ∃ tensors, readHeader directory path = .ok tensors) :
    ∀ locations : List (String × FileName), ∃ result,
      paths.foldlM (fun locations path =>
          (readHeader directory path).map (addLocations path locations)) locations = .ok result ∧
        ∀ name path, (∀ other ∈ paths, ∀ tensors, readHeader directory other = .ok tensors →
            name ∈ tensors.map Prod.fst → other = path) →
          ((path ∈ paths ∧ ∃ tensors, readHeader directory path = .ok tensors ∧
              name ∈ tensors.map Prod.fst) ∨ locations.lookup name = some path) →
            result.lookup name = some path := by
  induction paths with
  | nil =>
      intro locations
      refine ⟨locations, rfl, fun name path _ found => ?_⟩
      rcases found with inPaths | known
      · exact nomatch inPaths.1
      · exact known
  | cons first rest induction =>
      intro locations
      rcases readable first List.mem_cons_self with ⟨tensors, header⟩
      rcases induction (fun path isPath => readable path (List.mem_cons_of_mem _ isPath))
        (addLocations first locations tensors) with ⟨result, ran, finds⟩
      refine ⟨result, ?_, fun name path only found => ?_⟩
      · rw [List.foldlM_cons, header]
        exact ran
      · apply finds name path fun other isOther => only other (List.mem_cons_of_mem _ isOther)
        rw [lookup_addLocations]
        by_cases inFirst : name ∈ tensors.map Prod.fst
        · right
          rw [if_pos inFirst, only first List.mem_cons_self tensors header inFirst]
        · rw [if_neg inFirst]
          rcases found with ⟨inPaths, holding⟩ | known
          · rcases List.mem_cons.mp inPaths with isFirst | inRest
            · rcases holding with ⟨held, sameHeader, inHeld⟩
              rw [isFirst, header, Except.ok.injEq] at sameHeader
              exact absurd (sameHeader ▸ inHeld) inFirst
            · exact .inl ⟨inRest, holding⟩
          · exact .inr known

theorem mem_finalWeights {total : Nat} {chunks : List (List String)} {path : FileName} :
    ∀ start : Nat,
      path ∈ (finalWeights total start (fillChunks chunks value)).map Prod.snd ↔
        ∃ (position : Nat) (chunk : List String), chunks[position]? = some chunk ∧ chunk ≠ [] ∧
          path = .shard (start + position) total := by
  induction chunks with
  | nil =>
      intro start
      simp [fillChunks, finalWeights]
  | cons chunk rest induction =>
      intro start
      have later := induction (start + 1)
      rw [fillChunks] at later
      rw [fillChunks, List.map_cons, finalWeights, List.map_append, List.mem_append, later]
      constructor
      · intro member
        rcases member with inFirst | ⟨position, other, found, filled, isPath⟩
        · simp only [List.map_map, List.mem_map, Function.comp_apply] at inFirst
          rcases inFirst with ⟨name, inChunk, isPath⟩
          exact ⟨0, chunk, rfl, List.ne_nil_of_mem inChunk, isPath.symm⟩
        · refine ⟨position + 1, other, found, filled, ?_⟩
          rw [isPath, show start + 1 + position = start + (position + 1) by omega]
      · rintro ⟨position, other, found, filled, isPath⟩
        cases position with
        | zero =>
            left
            rw [List.getElem?_cons_zero, Option.some.injEq] at found
            rcases List.exists_mem_of_ne_nil other filled with ⟨name, inOther⟩
            simp only [List.map_map, List.mem_map, Function.comp_apply]
            exact ⟨name, found ▸ inOther, isPath.symm⟩
        | succ position =>
            right
            refine ⟨position, other, found, filled, ?_⟩
            rw [isPath, show start + (position + 1) = start + 1 + position by omega]

/-- In a copy of a full version every tensor is found at its place. -/
theorem tensorLocations_checkpoint (distinct : names.flatten.Nodup)
    (same : SameFiles directory (checkpointFiles args names value)) :
    ∃ locations, tensorLocations directory = .ok locations ∧
      ∀ name ∈ names.flatten, locations.lookup name = some (location names name) := by
  have distinctFilled : (filledNames names).flatten.Nodup := by rwa [flatten_filledNames]
  have paths : shardPaths directory = .ok ((weightMapOf names).map Prod.snd).dedup := by
    rw [shardPaths, same, lookup_index]
  have headers : ∀ {position : Nat} {chunk : List String},
      (filledNames names)[position]? = some chunk →
        readHeader directory (.shard (1 + position) (filledNames names).length) =
          .ok (chunk.map fun name => (name, value name)) := by
    intro position chunk found
    rw [readHeader, same, lookup_shard found]
  have isPath : ∀ path, path ∈ ((weightMapOf names).map Prod.snd).dedup ↔
      ∃ (position : Nat) (chunk : List String), (filledNames names)[position]? = some chunk ∧
        chunk ≠ [] ∧ path = .shard (1 + position) (filledNames names).length := by
    intro path
    rw [List.mem_dedup, weightMapOf, mem_finalWeights]
  have readable : ∀ path ∈ ((weightMapOf names).map Prod.snd).dedup,
      ∃ tensors, readHeader directory path = .ok tensors := by
    intro path member
    rcases (isPath path).mp member with ⟨position, chunk, found, _, isShard⟩
    exact ⟨_, by rw [isShard, headers found]⟩
  rcases foldlM_addLocations readable [] with ⟨locations, ran, finds⟩
  refine ⟨locations, ?_, fun name isName => ?_⟩
  · rw [tensorLocations, paths]
    exact ran
  · rw [← flatten_filledNames] at isName
    rcases exists_shard isName with ⟨position, chunk, found, inChunk⟩
    have isPlace : location names name = .shard (1 + position) (filledNames names).length :=
      shardOf_eq distinctFilled found inChunk
    apply finds
    · intro other isOther tensors header inTensors
      rcases (isPath other).mp isOther with ⟨otherPosition, otherChunk, otherFound, _, isShard⟩
      rw [isShard, headers otherFound, Except.ok.injEq] at header
      have inOther : name ∈ otherChunk := by
        rw [← header] at inTensors
        simpa [Function.comp_def] using inTensors
      rw [isShard]
      exact (shardOf_eq distinctFilled otherFound inOther).symm
    · left
      rw [isPlace]
      refine ⟨(isPath _).mpr ⟨position, chunk, found, List.ne_nil_of_mem inChunk, rfl⟩, _,
        headers found, ?_⟩
      simpa [Function.comp_def] using inChunk

end Checkpoint

end Vime.Backends.MegatronUtils.DiskDelta
