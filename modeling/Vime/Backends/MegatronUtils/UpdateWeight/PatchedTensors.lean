import Vime.Backends.MegatronUtils.UpdateWeight.CheckpointTensors

/-! # Patching a checkpoint with a delta

A delta that is applied to a checkpoint of its base version, or to what is left of one after the
same delta was cut anywhere, leaves at every byte the old or the new value. If no checksum
differs, it leaves the new version.
-/

namespace Vime.Backends.MegatronUtils.DiskDelta

open Vime.Foundation
open Vime.Utils

def Separates (checksum : List UInt8 → String) (old new : List UInt8) : Prop :=
  ∀ region, Mixture old new region → checksum region = checksum new → region = new

/-- The positions that an overwrite has to name, and their number, fit into its words. -/
def FitsWords (old new : List UInt8) : Prop :=
  (∀ position, new[position]? ≠ old[position]? → position < 2 ^ 32) ∧
    (changedMask new old).count true < 2 ^ 32

structure Deltable (args : Args) (names : List (List String)) (old new : String → List UInt8) :
    Prop where
  sameSize : ∀ name ∈ names.flatten, (old name).length = (new name).length
  fits : args.deltaEncoding = .overwrite → ∀ name ∈ names.flatten,
    FitsWords (old name) (new name)
  separates : args.deltaEncoding = .xor → ∀ name ∈ names.flatten,
    Separates (args.checksum args.checksumAlgorithm) (old name) (new name)

/-! ## One tensor -/

def payload (args : Args) (old new : List UInt8) : List UInt8 :=
  match args.deltaEncoding with
  | .xor => xorBytes new old
  | .overwrite =>
      deltaBytes (maskPositions 0 (changedMask new old)) (compress new (changedMask new old))
        (maskPositions 0 (changedMask new old)).length

section Tensor

variable {args : Args} {old new : List UInt8}

theorem changedPositions_lt (same : old.length = new.length) :
    ∀ position ∈ maskPositions 0 (changedMask new old), position < new.length := by
  intro position member
  have changed := (mem_changedPositions same).mp member
  by_contra outside
  apply changed
  rw [List.getElem?_eq_none (Nat.not_lt.mp outside),
    List.getElem?_eq_none (same ▸ Nat.not_lt.mp outside)]

theorem FitsWords.ofLength (same : old.length = new.length) (small : new.length < 2 ^ 32) :
    FitsWords old new := by
  constructor
  · intro position changed
    have inside := changedPositions_lt same position ((mem_changedPositions same).mpr changed)
    omega
  · have masked : (changedMask new old).length = new.length := by
      rw [changedMask, List.length_zipWith, same, Nat.min_self]
    have atMost : (changedMask new old).count true ≤ (changedMask new old).length :=
      List.count_le_length
    omega

theorem FitsWords.positions (same : old.length = new.length) (fits : FitsWords old new) :
    ∀ position ∈ maskPositions 0 (changedMask new old), position < 2 ^ 32 :=
  fun position member => fits.1 position ((mem_changedPositions same).mp member)

theorem FitsWords.count (fits : FitsWords old new) :
    (maskPositions 0 (changedMask new old)).length < 2 ^ 32 := by
  rw [length_maskPositions]
  exact fits.2

theorem count_changedMask (same : old.length = new.length) :
    (changedMask new old).count true = 0 ↔ new = old := by
  rw [List.count_eq_zero]
  induction old generalizing new with
  | nil =>
      rw [List.eq_nil_of_length_eq_zero same.symm]
      simp [changedMask]
  | cons byte rest induction =>
      cases new with
      | nil => cases same
      | cons newByte later =>
          have step := induction (Nat.succ.inj same)
          rw [changedMask] at step
          have first : ¬ true = decide (newByte ≠ byte) ↔ newByte = byte := by
            by_cases isSame : newByte = byte
            · simp [isSame]
            · simp [isSame]
          rw [changedMask, List.zipWith_cons_cons, List.mem_cons, not_or, first, step,
            List.cons.injEq]

theorem diffTensor_eq (same : old.length = new.length)
    (fits : args.deltaEncoding = .overwrite → FitsWords old new) :
    ∃ count, diffTensor args new old = .ok (payload args old new, count) ∧
      (count = 0 ↔ new = old) := by
  cases encoding : args.deltaEncoding with
  | xor =>
      refine ⟨_, by rw [diffTensor, payload, encoding], ?_⟩
      rw [List.countP_eq_zero, ← xorBytes_eq_zero same]
      simp
  | overwrite =>
      have positions := (fits encoding).positions same
      have unwrapped : (maskPositions 0 (changedMask new old)).map (· % 2 ^ 32) =
          maskPositions 0 (changedMask new old) := by
        rw [List.map_congr_left fun position member => Nat.mod_eq_of_lt (positions position member),
          List.map_id']
      have count := (fits encoding).count
      refine ⟨_, ?_, count_changedMask same⟩
      rw [diffTensor, payload, encoding]
      dsimp only
      rw [overwriteEncode, List.length_map, NumpyRelease.u4_small count, ok_bind, unwrapped,
        pure_eq_ok, deltaBytes]
      rfl

/-- The engine applies it to any mixture of the old and the new bytes. -/
theorem applyTensor_payload (metadata : DeltaMetadata) (item : DeltaItem) {region : List UInt8}
    (mixture : Mixture old new region)
    (fits : args.deltaEncoding = .overwrite → FitsWords old new)
    (separates : args.deltaEncoding = .xor →
      Separates (args.checksum args.checksumAlgorithm) old new)
    (encoding : metadata.deltaEncoding = args.deltaEncoding)
    (algorithm : metadata.checksumFormat = args.checksumAlgorithm)
    (compressed : item.compressed = payload args old new)
    (expected : item.expected = some (args.checksum args.checksumAlgorithm new)) :
    ∃ written mismatches,
      applyTensor args.checksum metadata item region = .ok (written, mismatches) ∧
        Mixture old new written ∧ (mismatches = [] → written = new) ∧
          (args.deltaEncoding = .overwrite ∨ region = old → mismatches = []) := by
  have same := mixture.old_length_eq
  cases kind : args.deltaEncoding with
  | xor =>
      have difference : item.compressed = xorBytes new old := by
        rw [compressed, payload, kind]
      have sized : (xorBytes new old).length = region.length := by
        rw [length_xorBytes same.symm, mixture.length_eq]
      have written : xorBytes region (xorBytes new old) ++ region.drop (xorBytes new old).length =
          xorBytes region (xorBytes new old) := by
        rw [sized, List.drop_length, List.append_nil]
      refine ⟨xorBytes region (xorBytes new old),
        if (xorBytes new old).length < region.length ∨
            some (args.checksum args.checksumAlgorithm (xorBytes region (xorBytes new old))) ≠
              some (args.checksum args.checksumAlgorithm new) then [item.name] else [],
        ?_, mixture.xorBytes, fun none => ?_, ?_⟩
      · rw [applyTensor, encoding, kind, expected]
        dsimp only
        rw [applyXor, difference, written, algorithm]
      · have agrees : ¬ ((xorBytes new old).length < region.length ∨
            some (args.checksum args.checksumAlgorithm (xorBytes region (xorBytes new old))) ≠
              some (args.checksum args.checksumAlgorithm new)) := by
          intro differs
          rw [if_pos differs] at none
          cases none
        rw [not_or, not_not, Option.some.injEq] at agrees
        exact separates kind _ mixture.xorBytes agrees.2
      · intro clean
        rcases clean with isOverwrite | isOld
        · cases isOverwrite
        · rw [isOld, xorBytes_difference same, if_neg]
          rw [not_or, not_not]
          exact ⟨by rw [length_xorBytes same.symm, same]; omega, rfl⟩
  | overwrite =>
      have inside := changedPositions_lt same
      have scattered := scatter_compress mixture.agreesOff []
      rw [List.nil_append, List.nil_append, List.length_nil] at scattered
      have applied := @applyOverwrite_deltaBytes (maskPositions 0 (changedMask new old))
        (compress new (changedMask new old)) (maskPositions 0 (changedMask new old)).length
        (args.checksum args.checksumAlgorithm) item.name
        (args.checksum args.checksumAlgorithm new) region rfl
        (fits kind).count (length_compress_changed same)
        (fun position member => mixture.length_eq ▸ inside position member)
        ((fits kind).positions same)
      have result : applyTensor args.checksum metadata item region = .ok (new, []) := by
        rw [applyTensor, encoding, kind, expected, compressed, payload, kind]
        dsimp only
        rw [algorithm, applied, changedMask, scattered, if_neg (fun differs => differs rfl)]
      exact ⟨new, [], result, Mixture.ofNew same, fun _ => rfl, fun _ => rfl⟩

end Tensor

/-! ## The published delta -/

def changedNames (names : List String) (old new : String → List UInt8) : List String :=
  names.filter fun name => new name ≠ old name

def encodedDelta (args : Args) (names : List String) (old new : String → List UInt8)
    (snapshot : NamedTensors) : EncodedDelta where
  snapshot := snapshot
  delta := (changedNames names old new).map fun name => (name, payload args (old name) (new name))
  checksums := (changedNames names old new).map fun name =>
    (name, args.checksum args.checksumAlgorithm (new name))

section Encoding

variable {args : Args} {old new : String → List UInt8}

theorem changedNames_concat (names : List String) (name : String) :
    changedNames (names ++ [name]) old new =
      changedNames names old new ++ if new name = old name then [] else [name] := by
  rw [changedNames, changedNames, List.filter_append]
  by_cases same : new name = old name
  · simp [same]
  · simp [same]

theorem encodeTensor_eq {done : List String} {name : String} {snapshot : NamedTensors}
    (fresh : name ∉ done) (sameSize : (old name).length = (new name).length)
    (fits : args.deltaEncoding = .overwrite → FitsWords (old name) (new name))
    (found : snapshot.lookup name = some (old name)) :
    encodeTensor args (encodedDelta args done old new snapshot) (name, new name) =
      .ok (encodedDelta args (done ++ [name]) old new (setItem name (new name) snapshot)) := by
  rcases diffTensor_eq sameSize fits with ⟨count, diff, isZero⟩
  have notChanged : name ∉ changedNames done old new := fun member =>
    fresh (List.mem_of_mem_filter member)
  have item : snapshotItem (encodedDelta args done old new snapshot).snapshot name =
      .ok (old name) := by
    rw [encodedDelta, snapshotItem, found]
  rw [encodeTensor, item, ok_bind, raiseIf, if_neg (fun differs => differs sameSize), ok_bind,
    diff, ok_bind, pure_eq_ok, EncodedDelta.add, encodedDelta, encodedDelta, changedNames_concat]
  by_cases unchanged : new name = old name
  · rw [if_pos (isZero.mpr unchanged), if_pos unchanged, List.append_nil]
  · rw [if_neg (fun zero => unchanged (isZero.mp zero)), if_neg unchanged, List.map_append,
      List.map_append]
    have newDelta : name ∉ ((changedNames done old new).map fun name =>
        (name, payload args (old name) (new name))).map Prod.fst := by
      simpa [Function.comp_def] using notChanged
    have newChecksum : name ∉ ((changedNames done old new).map fun name =>
        (name, args.checksum args.checksumAlgorithm (new name))).map Prod.fst := by
      simpa [Function.comp_def] using notChanged
    dsimp only
    rw [setItem_fresh _ newDelta, setItem_fresh _ newChecksum]
    rfl

theorem foldlM_encodeTensor {todo : List String} :
    ∀ (done : List String) (snapshot : NamedTensors), (done ++ todo).Nodup →
      (∀ name ∈ todo, (old name).length = (new name).length) →
      (args.deltaEncoding = .overwrite → ∀ name ∈ todo, FitsWords (old name) (new name)) →
      (∀ name ∈ todo, snapshot.lookup name = some (old name)) →
      ∃ later, (todo.map fun name => (name, new name)).foldlM (encodeTensor args)
            (encodedDelta args done old new snapshot) =
          .ok (encodedDelta args (done ++ todo) old new later) ∧
        (∀ name ∈ todo, later.lookup name = some (new name)) ∧
        ∀ name, name ∉ todo → later.lookup name = snapshot.lookup name := by
  induction todo with
  | nil =>
      intro done snapshot _ _ _ _
      rw [List.append_nil]
      exact ⟨snapshot, rfl, List.forall_mem_nil _, fun _ _ => rfl⟩
  | cons name rest induction =>
      intro done snapshot distinct sameSize fits found
      have regroup : done ++ name :: rest = (done ++ [name]) ++ rest := by simp
      have parts := List.nodup_append'.mp distinct
      have fresh : name ∉ done := fun isDone => parts.2.2 isDone List.mem_cons_self
      have elsewhere : name ∉ rest := (List.nodup_cons.mp parts.2.1).1
      have kept : ∀ other ∈ rest,
          (setItem name (new name) snapshot).lookup other = some (old other) := by
        intro other inRest
        have differs : other ≠ name := fun same => elsewhere (same ▸ inRest)
        rw [lookup_setItem, if_neg differs, found other (List.mem_cons_of_mem _ inRest)]
      rcases induction (done ++ [name]) (setItem name (new name) snapshot) (regroup ▸ distinct)
          (fun other inRest => sameSize other (List.mem_cons_of_mem _ inRest))
          (fun isOverwrite other inRest => fits isOverwrite other (List.mem_cons_of_mem _ inRest))
          kept with ⟨later, ran, isNew, isOther⟩
      refine ⟨later, ?_, ?_, ?_⟩
      · rw [List.map_cons, List.foldlM_cons,
          encodeTensor_eq fresh (sameSize name List.mem_cons_self)
            (fun isOverwrite => fits isOverwrite name List.mem_cons_self)
            (found name List.mem_cons_self), ok_bind, ran, ← regroup]
      · intro other member
        rcases List.mem_cons.mp member with isName | inRest
        · rw [isName, isOther name elsewhere, lookup_setItem, if_pos rfl]
        · exact isNew other inRest
      · intro other notMember
        rw [List.mem_cons, not_or] at notMember
        rw [isOther other notMember.2, lookup_setItem, if_neg notMember.1]

def deltaDirectory (args : Args) (version : Nat) (names : List (List String))
    (old new : String → List UInt8) : Directory :=
  writeDeltaFiles args version (encodedDelta args names.flatten old new []) []

theorem publishDelta_eq {names : List (List String)} (distinct : names.flatten.Nodup)
    (deltable : Deltable args names old new) (version : Nat) {snapshot : NamedTensors}
    (found : ∀ name ∈ names.flatten, snapshot.lookup name = some (old name)) :
    ∃ later, publishDelta args version snapshot [] (fillChunks names new) =
        .ok (deltaDirectory args version names old new, later) ∧
      ∀ name ∈ names.flatten, later.lookup name = some (new name) := by
  have tensors : (fillChunks names new).flatten =
      names.flatten.map fun name => (name, new name) := by
    rw [fillChunks, ← List.map_flatten]
  rcases foldlM_encodeTensor [] snapshot (by simpa using distinct) deltable.sameSize deltable.fits
    found with ⟨later, ran, isNew, _⟩
  refine ⟨later, ?_, isNew⟩
  have start : encodedDelta args [] old new snapshot =
      { snapshot := snapshot, delta := [], checksums := [] } := rfl
  rw [start] at ran
  rw [publishDelta, encodeDelta, tensors, ran, ok_bind, pure_eq_ok]
  rfl

end Encoding

/-! ## Reading the delta -/

def deltaMetadata (args : Args) (version : Nat) : DeltaMetadata where
  version := version
  baseVersion := version - 1
  deltaEncoding := args.deltaEncoding
  compressionFormat := "zstd"
  checksumFormat := args.checksumAlgorithm

def deltaItem (args : Args) (names : List (List String)) (old new : String → List UInt8)
    (name : String) : DeltaItem where
  name := name
  compressed := payload args (old name) (new name)
  path := location names name
  expected := some (args.checksum args.checksumAlgorithm (new name))

section Reading

variable {args : Args} {names : List (List String)} {old new current : String → List UInt8}

theorem deltaDirectory_eq (args : Args) (names : List (List String))
    (old new : String → List UInt8) (version : Nat) : ∃ weightMap,
    deltaDirectory args version names old new =
      (if changedNames names.flatten old new = [] then []
        else [(.shard 0 1,
          .safetensors (encodedDelta args names.flatten old new []).checksums
            (encodedDelta args names.flatten old new []).delta)]) ++
        [(.index, .index (.delta (deltaMetadata args version)) weightMap)] := by
  refine ⟨(encodedDelta args names.flatten old new []).delta.map fun tensor =>
    (tensor.1, .shard 0 1), ?_⟩
  rw [deltaDirectory, writeDeltaFiles, deltaMetadata]
  by_cases none : changedNames names.flatten old new = []
  · rw [if_pos (by simp [encodedDelta, none]), if_pos none]
    rfl
  · rw [if_neg (by simp [encodedDelta, none]), if_neg none]
    rfl

theorem lookup_deltaIndex (args : Args) (names : List (List String))
    (old new : String → List UInt8) (version : Nat) : ∃ weightMap,
    (deltaDirectory args version names old new).lookup .index =
      some (.index (.delta (deltaMetadata args version)) weightMap) := by
  rcases deltaDirectory_eq args names old new version with ⟨weightMap, isDirectory⟩
  refine ⟨weightMap, ?_⟩
  rw [isDirectory, List.lookup_append]
  by_cases none : changedNames names.flatten old new = []
  · rw [if_pos none]
    rfl
  · rw [if_neg none]
    rfl

theorem locateTensor_delta {locations : List (String × FileName)} (distinct : names.flatten.Nodup)
    (located : ∀ name ∈ names.flatten, locations.lookup name = some (location names name))
    {name : String} (changed : name ∈ changedNames names.flatten old new) :
    locateTensor locations (encodedDelta args names.flatten old new []).checksums
        (name, payload args (old name) (new name)) = .ok (deltaItem args names old new name) := by
  have checksums : (encodedDelta args names.flatten old new []).checksums.lookup name =
      some (args.checksum args.checksumAlgorithm (new name)) := by
    rw [encodedDelta]
    apply lookup_of_mem
    · rw [List.map_map]
      have own : (changedNames names.flatten old new).Nodup := distinct.filter _
      simpa [Function.comp_def] using own
    · exact List.mem_map.mpr ⟨name, changed, rfl⟩
  rw [locateTensor, located name (List.mem_of_mem_filter changed)]
  dsimp only
  rw [checksums, deltaItem]

theorem deltaItems_delta {locations : List (String × FileName)} (distinct : names.flatten.Nodup)
    (located : ∀ name ∈ names.flatten, locations.lookup name = some (location names name))
    (version : Nat) :
    deltaItems locations (deltaDirectory args version names old new) =
      .ok ((changedNames names.flatten old new).map (deltaItem args names old new)) := by
  rcases deltaDirectory_eq args names old new version with ⟨weightMap, isDirectory⟩
  rw [deltaItems, isDirectory, List.filter_append]
  by_cases none : changedNames names.flatten old new = []
  · rw [if_pos none, none]
    rfl
  · have items : (encodedDelta args names.flatten old new []).delta.mapM
        (locateTensor locations (encodedDelta args names.flatten old new []).checksums) =
        .ok ((changedNames names.flatten old new).map (deltaItem args names old new)) :=
      mapM_map_eq_ok _ _ _ _ fun name changed => locateTensor_delta distinct located changed
    have shards : ([(.shard 0 1,
          .safetensors (encodedDelta args names.flatten old new []).checksums
            (encodedDelta args names.flatten old new []).delta)] : Directory).filter
          (fun file => file.1.isSafetensors) ++
        ([(.index, .index (.delta (deltaMetadata args version)) weightMap)] : Directory).filter
          (fun file => file.1.isSafetensors) =
        [(.shard 0 1, .safetensors (encodedDelta args names.flatten old new []).checksums
          (encodedDelta args names.flatten old new []).delta)] := rfl
    rw [if_neg none, shards, List.mapM_cons, fileItems]
    dsimp only
    rw [items, ok_bind, List.mapM_nil]
    simp [Except.map]

theorem readDelta_delta (distinct : names.flatten.Nodup) {versions : Versions} {base : Nat}
    (published : versions.lookup (base + 1) =
      some (deltaDirectory args (base + 1) names old new))
    {checkpoint : LocalCheckpoint} (applied : checkpoint.applied = some base)
    (same : SameFiles checkpoint.files (checkpointFiles args names current)) :
    readDelta versions (base + 1) checkpoint =
      .ok (some
        { metadata := deltaMetadata args (base + 1)
          items := (changedNames names.flatten old new).map (deltaItem args names old new) }) := by
  rcases lookup_deltaIndex args names old new (base + 1) with ⟨weightMap, isIndex⟩
  rcases tensorLocations_checkpoint distinct same with ⟨locations, found, located⟩
  rw [readDelta, published]
  dsimp only
  rw [readIndex, isIndex, ok_bind, readItems, applied, if_neg, refuseIf, if_neg, ok_bind, refuseIf,
    if_neg, ok_bind, found, ok_bind, deltaItems_delta distinct located, ok_bind, pure_eq_ok]
  · exact fun differs => differs rfl
  · exact fun differs => differs rfl
  · rw [Option.some.injEq, deltaMetadata]
    dsimp only
    omega

end Reading

/-! ## Writing the tensors -/

def BetweenVersions (names : List (List String)) (old new current : String → List UInt8) : Prop :=
  ∀ name ∈ names.flatten, Mixture (old name) (new name) (current name)

section Writing

variable {args : Args} {names : List (List String)} {old new current : String → List UInt8}

/-- The patching of some tensors of a checkpoint, from `before` with the values `current`. -/
structure PatchesTo (args : Args) (names : List (List String))
    (old new : String → List UInt8) (written : String → Nat → Bool) (todo : List String)
    (current final : String → List UInt8) (before after : Patching) : Prop where
  files : SameFiles after.files (checkpointFiles args names final)
  between : BetweenVersions names old new final
  failure : after.failure = before.failure
  elsewhere : ∀ name, name ∉ todo → final name = current name
  mismatched : after.mismatches = [] → before.mismatches = []
  matched : (∀ name position, written name position = true) → after.mismatches = [] →
    ∀ name ∈ todo, final name = new name
  clean : (args.deltaEncoding = .overwrite ∨ ∀ name ∈ todo, current name = old name) →
    before.mismatches = [] → after.mismatches = []

theorem patchItem_patches (written : String → Nat → Bool) (distinct : names.flatten.Nodup)
    (deltable : Deltable args names old new) (between : BetweenVersions names old new current)
    {version : Nat} {patching : Patching}
    (same : SameFiles patching.files (checkpointFiles args names current)) {name : String}
    (isName : name ∈ names.flatten) :
    ∃ final, PatchesTo args names old new written [name] current final patching
      (patchItem args.checksum (deltaMetadata args version) written patching
        (deltaItem args names old new name)) := by
  have mixture := between name isName
  rcases applyTensor_payload (deltaMetadata args version)
      (deltaItem args names old new name) mixture
      (fun isOverwrite => deltable.fits isOverwrite name isName)
      (fun isXor => deltable.separates isXor name isName) rfl rfl rfl rfl with
    ⟨region, mismatches, applied, after, complete, noMismatch⟩
  have partly := mixture.overwriteSome after (written name)
  have sized : (overwriteSome (written name) (current name) region).length =
      (current name).length := by
    rw [partly.length_eq, mixture.length_eq]
  have isPatched : patchItem args.checksum (deltaMetadata args version) written patching
        (deltaItem args names old new name) =
      { patching with
        files := writeRegion (location names name) name
          (overwriteSome (written name) (current name) region) patching.files
        mismatches := patching.mismatches ++ mismatches } := by
    rw [patchItem, deltaItem, readTensor_checkpoint distinct same isName]
    rw [deltaItem] at applied
    dsimp only
    rw [applied]
  rw [isPatched]
  refine ⟨Function.update current name (overwriteSome (written name) (current name) region),
    { files := writeRegion_checkpoint distinct same sized
      between := ?_
      failure := rfl
      elsewhere := ?_
      mismatched := fun none => (List.append_eq_nil_iff.mp none).1
      matched := ?_
      clean := ?_ }⟩
  · intro other isOther
    by_cases isSame : other = name
    · rw [isSame, Function.update_self]
      exact partly
    · rw [Function.update_of_ne isSame]
      exact between other isOther
  · intro other notName
    rw [List.mem_singleton] at notName
    exact Function.update_of_ne notName _ _
  · intro all none other isOther
    have allWritten : written name = fun _ => true := funext fun position => all name position
    have full : overwriteSome (written name) (current name) region = region := by
      rw [allWritten]
      exact overwriteSome_all (by rw [after.length_eq, mixture.length_eq])
    rw [List.mem_singleton.mp isOther, Function.update_self, full]
    exact complete (List.append_eq_nil_iff.mp none).2
  · intro isClean noneBefore
    have noneHere := noMismatch (isClean.imp_right fun isOld => isOld name List.mem_cons_self)
    rw [noneBefore, noneHere]
    rfl

/-- All tensors of the delta. -/
theorem foldl_patchItem (written : String → Nat → Bool) (version : Nat)
    (distinct : names.flatten.Nodup) (deltable : Deltable args names old new)
    {todo : List String} (known : ∀ name ∈ todo, name ∈ names.flatten)
    (once : todo.Nodup) :
    ∀ {current : String → List UInt8} (patching : Patching),
      BetweenVersions names old new current →
      SameFiles patching.files (checkpointFiles args names current) →
      ∃ final, PatchesTo args names old new written todo current final patching
        ((todo.map (deltaItem args names old new)).foldl
          (patchItem args.checksum (deltaMetadata args version) written) patching) := by
  induction todo with
  | nil =>
      intro current patching between same
      exact ⟨current,
        { files := same
          between := between
          failure := rfl
          elsewhere := fun _ _ => rfl
          mismatched := fun none => none
          matched := fun _ _ _ member => nomatch member
          clean := fun _ none => none }⟩
  | cons name rest induction =>
      intro current patching between same
      rw [List.nodup_cons] at once
      rcases patchItem_patches written distinct deltable between same
        (known name List.mem_cons_self) with ⟨middle, first⟩
      rcases induction (fun other inRest => known other (List.mem_cons_of_mem _ inRest)) once.2
        _ first.between first.files with ⟨final, later⟩
      refine ⟨final,
        { files := later.files
          between := later.between
          failure := later.failure.trans first.failure
          elsewhere := ?_
          mismatched := fun none => first.mismatched (later.mismatched none)
          matched := ?_
          clean := ?_ }⟩
      · intro other notMember
        rw [List.mem_cons, not_or] at notMember
        rw [later.elsewhere other notMember.2,
          first.elsewhere other (by simpa using notMember.1)]
      · intro all none other isOther
        rcases List.mem_cons.mp isOther with isName | inRest
        · rw [isName, later.elsewhere name once.1]
          exact first.matched all (later.mismatched none) name List.mem_cons_self
        · exact later.matched all none other inRest
      · intro isClean noneBefore
        apply later.clean
        · rcases isClean with isOverwrite | isOld
          · exact .inl isOverwrite
          · right
            intro other inRest
            have notName : other ≠ name := fun isSame => once.1 (isSame ▸ inRest)
            rw [first.elsewhere other (by simpa using notName)]
            exact isOld other (List.mem_cons_of_mem _ inRest)
        · apply first.clean _ noneBefore
          exact isClean.imp_right fun isOld other isName =>
            isOld other (List.mem_singleton.mp isName ▸ List.mem_cons_self)

end Writing

/-! ## Applying a delta -/

structure AppliesDelta (args : Args) (names : List (List String)) (base : Nat)
    (old new current : String → List UInt8) (cut : Option (String → Nat → Bool))
    (after : LocalCheckpoint × PullOutcome) : Prop where
  returned : after.2 = .returned →
    after.1.applied = some (base + 1) ∧ SameFiles after.1.files (checkpointFiles args names new)
  stopped : after.2 ≠ .returned → after.1.applied = some base ∧
    ∃ left, BetweenVersions names old new left ∧
      SameFiles after.1.files (checkpointFiles args names left)
  returns : cut = none →
    (args.deltaEncoding = .overwrite ∨ ∀ name ∈ names.flatten, current name = old name) →
      after.2 = .returned

theorem applyDelta_applies {args : Args} {names : List (List String)}
    {old new current : String → List UInt8} (distinct : names.flatten.Nodup)
    (deltable : Deltable args names old new) (between : BetweenVersions names old new current)
    {versions : Versions} {base : Nat}
    (published : versions.lookup (base + 1) =
      some (deltaDirectory args (base + 1) names old new))
    {checkpoint : LocalCheckpoint} (applied : checkpoint.applied = some base)
    (same : SameFiles checkpoint.files (checkpointFiles args names current))
    (cut : Option (String → Nat → Bool)) :
    AppliesDelta args names base old new current cut
      (applyDelta args.checksum versions (base + 1) cut checkpoint) := by
  have known : ∀ name ∈ changedNames names.flatten old new, name ∈ names.flatten :=
    fun name changed => List.mem_of_mem_filter changed
  rcases foldl_patchItem (cut.getD fun _ _ => true) (base + 1) distinct deltable known
      (distinct.filter _) { files := checkpoint.files, mismatches := [], failure := none } between
      same with ⟨final, patched⟩
  rw [applyDelta, readDelta_delta distinct published applied same]
  dsimp only
  cases cut with
  | some written =>
      rw [Option.isSome_some, if_pos rfl]
      exact
        { returned := fun isReturned => nomatch isReturned
          stopped := fun _ => ⟨applied, final, patched.between, patched.files⟩
          returns := fun isNone => nomatch isNone }
  | none =>
      rw [Option.isSome_none, if_neg (fun isSome => nomatch isSome), Patching.finish,
        patched.failure]
      dsimp only
      split
      · rename_i noMismatch
        have isNew : ∀ name ∈ names.flatten, final name = new name := by
          intro name isName
          by_cases changed : name ∈ changedNames names.flatten old new
          · exact patched.matched (fun _ _ => rfl) noMismatch name changed
          · have unchanged : new name = old name := by
              by_contra differs
              exact changed (List.mem_filter.mpr ⟨isName, by simpa using differs⟩)
            have mixture := patched.between name isName
            rw [unchanged] at mixture
            rw [mixture.eq_of_same, unchanged]
        exact
          { returned := fun _ => ⟨rfl, patched.files.trans (checkpointFiles_congr isNew)⟩
            stopped := fun notReturned => absurd rfl notReturned
            returns := fun _ _ => rfl }
      · rename_i mismatch
        exact
          { returned := fun isReturned => nomatch isReturned
            stopped := fun _ => ⟨applied, final, patched.between, patched.files⟩
            returns := fun _ isClean => absurd (patched.clean (isClean.imp_right
              fun isOld name changed => isOld name (known name changed)) rfl) mismatch }

end Vime.Backends.MegatronUtils.DiskDelta
