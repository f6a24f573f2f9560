import Vime.Backends.MegatronUtils.UpdateWeight.SyncRuns

/-! # Pulls of published snapshots

What a sequence of pulls of one host is promised while the trainer publishes, is restarted and
reconnected. Positions beyond 32 bits break the promise: an overwrite names another byte, and
every pull of it raises.
-/

namespace Vime.Backends.MegatronUtils.DiskDelta

open Vime.Foundation
open Vime.Utils

/-- Whatever was killed before: a pull that returns has the snapshot of its target, a pull that
is not killed returns if a full version stands above the record, and a pull of overwrites that is
repeated after any kill returns. -/
theorem pullCheckpoint_hasSnapshot (args : Args) (baseDir : Directory) (weightVersion : Nat)
    (files : Nat → Directory) {state : SyncState}
    (reached : Reaches (SyncState.step args baseDir) (MayPublish args)
      (SyncState.start weightVersion files) state) {host targetVersion : Nat}
    {chunks : List NamedTensors}
    (isPublished : state.published.lookup targetVersion = some chunks)
    (above : (state.hosts host).target ≤ targetVersion) :
    let pull := pullCheckpoint args.checksum baseDir state.versions targetVersion
    let checkpoint := (state.hosts host).checkpoint
    (∀ kill, (pull kill checkpoint).2 = .returned →
      HasWeights args (pull kill checkpoint).1.files chunks) ∧
    ((∃ full, checkpoint.applied.getD 0 < full ∧ full ≤ targetVersion ∧
      isDelta state.versions full = .ok false) → (pull none checkpoint).2 = .returned) ∧
    (args.deltaEncoding = .overwrite → ∀ kill,
      (pull none (pull kill checkpoint).1).2 = .returned) := by
  have holds := SyncHolds.of_reached reached
  have own := holds.hosts host
  have pulls := pullCheckpoint_pulls holds.wellPublished baseDir own isPublished above
  refine ⟨fun kill isReturned => ?_, ?_, fun isOverwrite kill => ?_⟩
  · exact holds.hasWeights isPublished ((pulls kill).returned isReturned).2
  · rintro ⟨full, after, atTarget, notDelta⟩
    apply (pulls none).returns
    refine ⟨rfl, .inr ?_⟩
    cases applied : (state.hosts host).checkpoint.applied with
    | none => exact .inl rfl
    | some version =>
        rw [applied] at after
        exact .inr ⟨version, full, rfl, after, atTarget, notDelta⟩
  · -- The host after the killed pull is again one that can be asked for the target.
    have later := @HostHolds.pull _ _ _ holds.wellPublished baseDir _ own _ _ isPublished
      above kill
    exact (pullCheckpoint_pulls holds.wellPublished baseDir later isPublished (Nat.le_refl _)
      none).returns ⟨rfl, .inl isOverwrite⟩

theorem pullCheckpoint_hasSnapshot_afterKill :
    (pullCheckpoint overwriteArgs.checksum [] (syncAfter 5).versions 2 none
      (pullCheckpoint overwriteArgs.checksum [] (syncAfter 5).versions 2
        (some (.patching 2 fun _ position => position = 0))
        ((syncAfter 5).hosts 0).checkpoint).1).2 = .returned :=
  (pullCheckpoint_hasSnapshot overwriteArgs [] 0 (fun _ => [])
    (syncAfter_next syncAfter_finished syncAfter_deltable (by decide))
    (by decide : (syncAfter 5).published.lookup 2 = some [[("w", [3, 4])]])
    (by decide : ((syncAfter 5).hosts 0).target ≤ 2)).2.2 rfl _

/-! ## A change beyond 4 GiB -/

section Beyond

def wordArgs (checksum : String → List UInt8 → String) : Args :=
  { overwriteArgs with checksum := checksum }

def fullFiles (old : List UInt8) : Directory :=
  [(.shard 1 1, .safetensors [("format", "pt")] [("w", old)]),
    (.index, .index (.full (0 + old.length)) [("w", .shard 1 1)])]

def freshHosts : Nat → Host := (SyncState.start 0 fun _ => []).hosts

/-- Version 1 is published in full. -/
def fullSync (old : List UInt8) (updating : Bool) (hosts : Nat → Host) : SyncState where
  trainer :=
    { weightVersion := 1
      snapshot := [("w", old)]
      needsFullSync := updating
      rolloutEngines := [{ actor := 0, hosts := [0] }] }
  versions := [(1, fullFiles old)]
  published := [(1, [[("w", old)]])]
  updating := updating
  hosts := hosts

def pulledHosts (old : List UInt8) : Nat → Host :=
  Function.update freshHosts 0
    { checkpoint := { files := fullFiles old, applied := some 1 }, target := 1, returned := 1 }

def deltaFiles (checksum : String → List UInt8 → String) (new delta : List UInt8) : Directory :=
  [(.shard 0 1, .safetensors [("w", checksum "adler32" new)] [("w", delta)]),
    (.index, .index (.delta (deltaMetadata (wordArgs checksum) 2)) [("w", .shard 0 1)])]

def deltaSync (checksum : String → List UInt8 → String) (old new delta : List UInt8) :
    SyncState :=
  (fullSync old false (pulledHosts old)).publish [[("w", new)]]
    (deltaFiles checksum new delta, [("w", new)])

def NotFailing (_ : SyncState) : SyncAction → Prop
  | .failPublish _ _ => False
  | _ => True

variable {checksum : String → List UInt8 → String} {old new delta : List UInt8}

theorem fullSync_reached (checksum : String → List UInt8 → String) (old : List UInt8) :
    Reaches (SyncState.step (wordArgs checksum) []) NotFailing (SyncState.start 0 fun _ => [])
      (fullSync old false (pulledHosts old)) := by
  have connected : Reaches (SyncState.step (wordArgs checksum) []) NotFailing
      (SyncState.start 0 fun _ => [])
      { SyncState.start 0 fun _ => [] with
        trainer := (Trainer.start 0).connectRolloutEngines [{ actor := 0, hosts := [0] }] } :=
    Reaches.start.next (show NotFailing _ (.connect [{ actor := 0, hosts := [0] }]) from trivial)
      rfl
  have written : publishFull (wordArgs checksum) [] [[("w", old)]] =
      .ok (fullFiles old, [("w", old)]) :=
    (publishFull_eq_ok _ _).mpr ⟨List.nodup_singleton _, by simp [filledChunks], rfl, rfl⟩
  have published : Reaches (SyncState.step (wordArgs checksum) []) NotFailing
      (SyncState.start 0 fun _ => []) (fullSync old true freshHosts) := by
    apply connected.next (show NotFailing _ (.publish [[("w", old)]]) from trivial)
    have publishes : ((Trainer.start 0).connectRolloutEngines
        [{ actor := 0, hosts := [0] }]).publish (wordArgs checksum) [] [[("w", old)]] =
          .ok (fullFiles old, [("w", old)]) := written
    rw [SyncState.step]
    have versions : (SyncState.start 0 fun _ => []).versions = [] := rfl
    dsimp only
    rw [versions, publishes]
    rfl
  have pulled : Reaches (SyncState.step (wordArgs checksum) []) NotFailing
      (SyncState.start 0 fun _ => []) (fullSync old true (pulledHosts old)) :=
    published.next (show NotFailing _ (.pull 0 1 none) from trivial) rfl
  exact pulled.next (show NotFailing _ .finish from trivial) rfl

theorem deltaSync_reached {count : Nat} (same : old.length = new.length)
    (encodes : diffTensor (wordArgs checksum) new old = .ok (delta, count)) (changed : count ≠ 0) :
    Reaches (SyncState.step (wordArgs checksum) []) NotFailing (SyncState.start 0 fun _ => [])
      (deltaSync checksum old new delta) := by
  apply (fullSync_reached checksum old).next
    (show NotFailing _ (.publish [[("w", new)]]) from trivial)
  have encoded : encodeDelta (wordArgs checksum) [("w", old)] [("w", new)] =
      .ok { snapshot := [("w", new)], delta := [("w", delta)],
            checksums := [("w", checksum "adler32" new)] } := by
    have found : snapshotItem [("w", old)] "w" = .ok old := rfl
    rw [encodeDelta, List.foldlM_cons, encodeTensor, found, ok_bind, raiseIf,
      if_neg (fun differs => differs same), ok_bind, encodes, ok_bind, pure_eq_ok, ok_bind,
      List.foldlM_nil, EncodedDelta.add, if_neg changed]
    rfl
  have publishes : (fullSync old false (pulledHosts old)).trainer.publish (wordArgs checksum)
      (fullSync old false (pulledHosts old)).versions [[("w", new)]] =
        .ok (deltaFiles checksum new delta, [("w", new)]) := by
    have delta : (fullSync old false (pulledHosts old)).trainer.publish (wordArgs checksum)
        (fullSync old false (pulledHosts old)).versions [[("w", new)]] =
          (encodeDelta (wordArgs checksum) [("w", old)] [("w", new)] >>= fun encoded =>
            pure (writeDeltaFiles (wordArgs checksum) 2 encoded [], encoded.snapshot)) := rfl
    rw [delta, encoded]
    rfl
  rw [SyncState.step, publishes]
  rfl

/-- An overwrite that does not give the new tensor is refused. -/
theorem deltaSync_raises {written : List UInt8}
    (misapplies : applyOverwrite (checksum "adler32") "w" old delta (checksum "adler32" new) =
      .ok (written, ["w"])) :
    (pullCheckpoint checksum [] (deltaSync checksum old new delta).versions 2 none
        ((deltaSync checksum old new delta).hosts 1).checkpoint).2 =
      .raised (.python (.runtimeError "Checksum mismatch")) := by
  have versions : (deltaSync checksum old new delta).versions =
      [(1, fullFiles old), (2, deltaFiles checksum new delta)] := rfl
  have fresh : ((deltaSync checksum old new delta).hosts 1).checkpoint =
      { files := [], applied := none } := rfl
  have read : readDelta [(1, fullFiles old), (2, deltaFiles checksum new delta)] 2
        { files := fullFiles old, applied := some 1 } =
      .ok (some
        { metadata := deltaMetadata (wordArgs checksum) 2
          items := [{ name := "w", compressed := delta, path := .shard 1 1,
                      expected := some (checksum "adler32" new) }] }) := rfl
  have applied : (applyDelta checksum [(1, fullFiles old), (2, deltaFiles checksum new delta)] 2
        none { files := fullFiles old, applied := some 1 }).2 =
      .raised (.python (.runtimeError "Checksum mismatch")) := by
    have region : readTensor (fullFiles old) (.shard 1 1) "w" = some old := rfl
    have patched : applyTensor checksum (deltaMetadata (wordArgs checksum) 2)
        { name := "w", compressed := delta, path := .shard 1 1,
          expected := some (checksum "adler32" new) } old = .ok (written, ["w"]) := misapplies
    rw [applyDelta, read]
    dsimp only
    rw [List.foldl_cons, List.foldl_nil, patchItem, region]
    dsimp only
    rw [patched]
    rfl
  have scanned : scanStart [(1, fullFiles old), (2, deltaFiles checksum new delta)] 0 2 =
      .ok 1 := rfl
  have seed : seedDir [] [(1, fullFiles old), (2, deltaFiles checksum new delta)] 1 =
      .ok (fullFiles old) := rfl
  have copied : resetCheckpoint (fullFiles old) 1 { files := [], applied := none } =
      { files := fullFiles old, applied := some 1 } := rfl
  have applies : resetThenApply checksum
        [(1, fullFiles old), (2, deltaFiles checksum new delta)] none 1 2
        { files := [], applied := none } (fullFiles old) =
      applyDeltas checksum [(1, fullFiles old), (2, deltaFiles checksum new delta)] none [2]
        (resetCheckpoint (fullFiles old) 1 { files := [], applied := none }) := rfl
  rw [versions, fresh, pullCheckpoint]
  dsimp only [Option.getD_none]
  rw [scanned]
  dsimp only
  rw [if_pos (.inl rfl), seed]
  dsimp only
  rw [applies, copied, applyDeltas_single, applied]

/-! A tensor that changes at its last byte. -/

theorem maskPositions_last (count : Nat) :
    ∀ start, maskPositions start (List.replicate count false ++ [true]) = [start + count] := by
  induction count with
  | zero => exact fun _ => rfl
  | succ count induction =>
      intro start
      rw [List.replicate_succ, List.cons_append, maskPositions, induction,
        show start + 1 + count = start + (count + 1) by omega]

theorem compress_last (count : Nat) :
    compress (List.replicate count (0 : UInt8) ++ [1]) (List.replicate count false ++ [true]) =
      [1] := by
  induction count with
  | zero => rfl
  | succ count induction =>
      rw [List.replicate_succ, List.replicate_succ, List.cons_append, List.cons_append, compress,
        induction]

theorem changedMask_last (count : Nat) :
    changedMask (List.replicate count 0 ++ [1]) (List.replicate count 0 ++ [0]) =
      List.replicate count false ++ [true] := by
  induction count with
  | zero => rfl
  | succ count induction =>
      rw [changedMask] at induction
      rw [List.replicate_succ, List.replicate_succ, List.cons_append, List.cons_append,
        List.cons_append, changedMask, List.zipWith_cons_cons, induction]
      rfl

theorem overwriteEncode_last {count : Nat} (wraps : count % 2 ^ 32 = 0) :
    diffTensor (wordArgs checksum) (List.replicate count 0 ++ [1])
        (List.replicate count 0 ++ [0]) = .ok (deltaBytes [0] [1] 1, 1) := by
  have encoded : overwriteEncode .numpy2 (List.replicate count 0 ++ [1])
      (List.replicate count false ++ [true]) = .ok (deltaBytes [0] [1] 1) := by
    rw [overwriteEncode, maskPositions_last, Nat.zero_add, List.map_singleton, wraps,
      compress_last]
    rfl
  have changed : (List.replicate count false ++ [true]).count true = 1 := by
    rw [List.count_append, List.count_replicate]
    rfl
  have diff : diffTensor (wordArgs checksum) (List.replicate count 0 ++ [1])
        (List.replicate count 0 ++ [0]) =
      (overwriteEncode .numpy2 (List.replicate count 0 ++ [1])
        (changedMask (List.replicate count 0 ++ [1]) (List.replicate count 0 ++ [0]))).map
          fun diff => (diff, (changedMask (List.replicate count 0 ++ [1])
            (List.replicate count 0 ++ [0])).count true) := rfl
  rw [diff, changedMask_last, encoded, changed]
  rfl

theorem applyOverwrite_last {count : Nat}
    (injective : Function.Injective (checksum "adler32")) :
    ∃ written, applyOverwrite (checksum "adler32") "w" (List.replicate (count + 1) 0 ++ [0])
        (deltaBytes [0] [1] 1) (checksum "adler32" (List.replicate (count + 1) 0 ++ [1])) =
      .ok (written, ["w"]) := by
  have applied := @applyOverwrite_deltaBytes [0] [1] 1 (checksum "adler32") "w"
    (checksum "adler32" (List.replicate (count + 1) 0 ++ [1]))
    (List.replicate (count + 1) 0 ++ [0]) rfl (by decide) rfl (by simp) (by decide)
  refine ⟨scatter (List.replicate (count + 1) 0 ++ [0]) [(0, 1)], applied.trans ?_⟩
  rw [if_pos]
  · rfl
  intro same
  have first := congrArg List.head? (injective same)
  rw [List.replicate_succ] at first
  cases first

end Beyond

/-- A checksum without collisions: the bytes themselves, as characters. -/
def latin1 (_ : String) (data : List UInt8) : String :=
  String.ofList (data.map fun byte => Char.ofNat byte.toNat)

theorem latin1_injective (algorithm : String) : Function.Injective (latin1 algorithm) := by
  intro data other same
  have codes : ∀ code < 256, (Char.ofNat code).toNat = code := by
    intro code small
    rw [Char.ofNat, dif_pos (.inl (by omega))]
    rfl
  apply List.map_injective_iff.mpr ?_ (String.ofList_injective same)
  intro byte another sameCharacter
  have sameCode := congrArg Char.toNat sameCharacter
  rw [codes _ byte.toNat_lt, codes _ another.toNat_lt] at sameCode
  exact UInt8.toNat_inj.mp sameCode

/-- A tensor of 4 GiB and one byte is published in full, then a delta of its last byte: for a
host without a record, with the full version above it, a pull that is not killed raises. -/
theorem pullCheckpoint_raisesBeyondWords :
    ∃ state, Reaches (SyncState.step (wordArgs latin1) []) NotFailing
        (SyncState.start 0 fun _ => []) state ∧
      state.published.lookup 2 = some [[("w", List.replicate (2 ^ 32) 0 ++ [1])]] ∧
      (state.hosts 1).target ≤ 2 ∧ (state.hosts 1).checkpoint.applied.getD 0 < 1 ∧
      isDelta state.versions 1 = .ok false ∧
      (pullCheckpoint latin1 [] state.versions 2 none (state.hosts 1).checkpoint).2 =
        .raised (.python (.runtimeError "Checksum mismatch")) := by
  have long : ∃ count, 2 ^ 32 = count + 1 := ⟨2 ^ 32 - 1, by omega⟩
  have wraps : 2 ^ 32 % 2 ^ 32 = 0 := Nat.mod_self _
  rcases long with ⟨count, isLong⟩
  rcases @applyOverwrite_last latin1 count (latin1_injective "adler32") with
    ⟨written, misapplies⟩
  rw [← isLong] at misapplies
  refine ⟨deltaSync latin1 (List.replicate (2 ^ 32) 0 ++ [0])
    (List.replicate (2 ^ 32) 0 ++ [1]) (deltaBytes [0] [1] 1), ?_, rfl, Nat.zero_le 2,
    Nat.one_pos, rfl, deltaSync_raises misapplies⟩
  apply deltaSync_reached ?_ (overwriteEncode_last wraps) Nat.one_ne_zero
  rw [List.length_append, List.length_append, List.length_singleton, List.length_singleton]

end Vime.Backends.MegatronUtils.DiskDelta
