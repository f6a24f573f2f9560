import Vime.Backends.MegatronUtils.UpdateWeight.PulledWeights

/-! # Every run of weight updates

What a step of the trainer or of a host keeps, and from it what every run keeps: publications and
the records of the hosts fit together, so that a pull that returns has the published weights.
-/

namespace Vime.Backends.MegatronUtils.DiskDelta

open Vime.Foundation
open Vime.Utils

/-! ## New versions -/

theorem le_foldl_max (versions : Versions) : ∀ version : Nat,
    version ≤ versions.foldl (fun version entry => max version entry.1) version ∧
      ∀ entry ∈ versions,
        entry.1 ≤ versions.foldl (fun version entry => max version entry.1) version := by
  induction versions with
  | nil => exact fun version => ⟨Nat.le_refl version, List.forall_mem_nil _⟩
  | cons entry rest induction =>
      intro version
      rcases induction (max version entry.1) with ⟨atLeast, each⟩
      rw [List.foldl_cons, List.forall_mem_cons]
      exact ⟨by omega, by omega, each⟩

theorem lt_nextVersion {trainer : Trainer} {versions : Versions}
    (topmost : trainer.needsFullSync = false →
      ∀ version ∈ versions.map Prod.fst, version ≤ trainer.weightVersion) :
    ∀ version ∈ versions.map Prod.fst, version < trainer.nextVersion versions := by
  intro version isVersion
  rw [Trainer.nextVersion]
  cases needs : trainer.needsFullSync with
  | true =>
      rcases List.mem_map.mp isVersion with ⟨entry, isEntry, isKey⟩
      have atMost := (le_foldl_max versions trainer.weightVersion).2 entry isEntry
      rw [if_pos rfl, ← isKey]
      omega
  | false =>
      have atMost := topmost needs version isVersion
      rw [if_neg (by simp)]
      omega

section Extension

variable {args : Args} {versions : Versions} {published : PublishedChunks}

theorem lookup_setItem_fresh {κ : Type u} {α : Type v} [DecidableEq κ] {key other : κ}
    {value found : α} {table : List (κ × α)} (fresh : key ∉ table.map Prod.fst)
    (isFound : table.lookup other = some found) :
    (setItem key value table).lookup other = some found := by
  have differs : other ≠ key := by
    intro same
    rw [same, lookup_eq_none_iff.mpr fresh] at isFound
    cases isFound
  rw [lookup_setItem, if_neg differs, isFound]

theorem WellPublished.attempted (wellPublished : WellPublished args versions published)
    {version : Nat} {chunks : List NamedTensors}
    (isPublished : published.lookup version = some chunks) : version ∈ versions.map Prod.fst := by
  have hasDirectory : ∃ directory, versions.lookup version = some directory := by
    rcases (wellPublished version chunks isPublished).directory with
      isFull | ⟨base, last, isNext, _, delta⟩
    · exact ⟨_, isFull⟩
    · exact ⟨_, isNext ▸ delta.directory⟩
  rcases hasDirectory with ⟨directory, found⟩
  by_contra absent
  rw [lookup_eq_none_iff.mpr absent] at found
  cases found

theorem PublishedVersion.extend {laterVersions : Versions} {laterPublished : PublishedChunks}
    (publishedKept : ∀ version chunks, published.lookup version = some chunks →
      laterPublished.lookup version = some chunks)
    (versionsKept : ∀ version directory, versions.lookup version = some directory →
      laterVersions.lookup version = some directory)
    {version : Nat} {chunks : List NamedTensors}
    (holds : PublishedVersion args versions published version chunks) :
    PublishedVersion args laterVersions laterPublished version chunks := by
  refine { holds with directory := ?_ }
  rcases holds.directory with isFull | ⟨base, last, isNext, basePublished, delta⟩
  · exact .inl (versionsKept _ _ isFull)
  · exact .inr ⟨base, last, isNext, publishedKept _ _ basePublished,
      { delta with directory := versionsKept _ _ delta.directory }⟩

end Extension

/-! ## One step -/

structure SyncHolds (args : Args) (state : SyncState) : Prop where
  wellPublished : WellPublished args state.versions state.published
  topmost : state.trainer.needsFullSync = false ∨ state.updating = true →
    ∀ version ∈ state.versions.map Prod.fst, version ≤ state.trainer.weightVersion
  snapshot : state.trainer.needsFullSync = false ∨ state.updating = true →
    ∀ chunks, state.published.lookup state.trainer.weightVersion = some chunks →
      ∀ tensor ∈ chunks.flatten, state.trainer.snapshot.lookup tensor.1 = some tensor.2
  current : state.updating = true →
    ∃ chunks, state.published.lookup state.trainer.weightVersion = some chunks
  hosts : ∀ host, HostHolds args state.versions state.published (state.hosts host)

section Steps

variable {args : Args} {state : SyncState}

theorem filledChunks_eq_nil {chunks : List NamedTensors} :
    filledChunks chunks = [] ↔ (chunkNames chunks).flatten = [] := by
  rw [chunkNames_flatten, List.map_eq_nil_iff, filledChunks, List.filter_eq_nil_iff,
    List.flatten_eq_nil_iff]
  simp

/-- What the trainer publishes, and the snapshot that it keeps. -/
theorem publish_published (holds : SyncHolds args state) {chunks : List NamedTensors}
    (may : MayPublish args state (.publish chunks)) {written : Directory × NamedTensors}
    (publishes : state.trainer.publish args state.versions chunks = .ok written) :
    (∀ tensor ∈ chunks.flatten, written.2.lookup tensor.1 = some tensor.2) ∧
      PublishedVersion args
        (setItem (state.trainer.nextVersion state.versions) written.1 state.versions)
        (setItem (state.trainer.nextVersion state.versions) chunks state.published)
        (state.trainer.nextVersion state.versions) chunks := by
  have above := lt_nextVersion fun needs => holds.topmost (.inl needs)
  have fresh : state.trainer.nextVersion state.versions ∉ state.versions.map Prod.fst :=
    fun isVersion => Nat.lt_irrefl _ (above _ isVersion)
  have freshPublished :
      state.trainer.nextVersion state.versions ∉ state.published.map Prod.fst := by
    intro isKey
    cases found : state.published.lookup (state.trainer.nextVersion state.versions) with
    | none => exact lookup_eq_none_iff.mp found isKey
    | some published => exact fresh (holds.wellPublished.attempted found)
  have positive : 0 < state.trainer.nextVersion state.versions := by
    rw [Trainer.nextVersion]
    exact Nat.succ_pos _
  rw [Trainer.publish, lookup_eq_none_iff.mpr fresh, Option.getD_none] at publishes
  cases needs : state.trainer.needsFullSync with
  | true =>
      rw [needs, if_pos rfl] at publishes
      rcases (publishFull_eq_ok args chunks).mp publishes with
        ⟨distinct, filled, isFiles, isSnapshot⟩
      refine ⟨fun tensor isTensor => ?_,
        { distinct := distinct
          filled := filled
          positive := positive
          directory := .inl ?_ }⟩
      · have looked := lookup_foldl_items (fun _ bytes => some bytes)
          (fun snapshot (tensor : String × List UInt8) name =>
            lookup_setItem tensor.1 tensor.2 snapshot name) distinct [] tensor.1
        rw [isSnapshot, looked, lookup_of_mem distinct isTensor]
      · rw [lookup_setItem, if_pos rfl, isFiles]
  | false =>
      rw [needs, if_neg (by simp)] at publishes
      rcases may needs with ⟨last, lastPublished, sameNames, deltable⟩
      have lastHolds := holds.wellPublished _ last lastPublished
      have distinctLast : (chunkNames last).flatten.Nodup := by
        rw [chunkNames_flatten]
        exact lastHolds.distinct
      have distinct : (chunks.flatten.map Prod.fst).Nodup := by
        rw [← chunkNames_flatten, sameNames]
        exact distinctLast
      have isNext : state.trainer.nextVersion state.versions = state.trainer.weightVersion + 1 := by
        rw [Trainer.nextVersion, needs]
        rfl
      have found : ∀ name ∈ (chunkNames last).flatten,
          state.trainer.snapshot.lookup name = some (chunkValue last name) := by
        intro name isName
        rw [chunkNames_flatten, List.mem_map] at isName
        rcases isName with ⟨tensor, isTensor, isName⟩
        rw [← isName, chunkValue_of_mem lastHolds.distinct isTensor]
        exact holds.snapshot (.inl needs) last lastPublished tensor isTensor
      rcases publishDelta_eq distinctLast deltable (state.trainer.nextVersion state.versions)
        found with ⟨snapshot, isPublished, isNew⟩
      have isChunks : fillChunks (chunkNames last) (chunkValue chunks) = chunks := by
        rw [← sameNames, fillChunks_chunks distinct]
      rw [isChunks] at isPublished
      rw [isPublished, Except.ok.injEq] at publishes
      refine ⟨fun tensor isTensor => ?_,
        { distinct := distinct
          filled := ?_
          positive := positive
          directory := .inr ⟨state.trainer.weightVersion, last, isNext, ?_, ?_⟩ }⟩
      · have isName : tensor.1 ∈ (chunkNames last).flatten := by
          rw [← sameNames, chunkNames_flatten]
          exact List.mem_map_of_mem isTensor
        rw [← publishes, isNew tensor.1 isName, chunkValue_of_mem distinct isTensor]
      · rw [ne_eq, filledChunks_eq_nil, sameNames, ← filledChunks_eq_nil]
        exact lastHolds.filled
      · exact lookup_setItem_fresh freshPublished lastPublished
      · refine { sameNames := sameNames, deltable := deltable, directory := ?_ }
        rw [← isNext, lookup_setItem, if_pos rfl, ← publishes]

theorem SyncHolds.publish (holds : SyncHolds args state) {chunks : List NamedTensors}
    (may : MayPublish args state (.publish chunks)) {written : Directory × NamedTensors}
    (publishes : state.trainer.publish args state.versions chunks = .ok written) :
    SyncHolds args (state.publish chunks written) := by
  rcases publish_published holds may publishes with ⟨isSnapshot, isPublished⟩
  have above := lt_nextVersion fun needs => holds.topmost (.inl needs)
  have fresh : state.trainer.nextVersion state.versions ∉ state.versions.map Prod.fst :=
    fun isVersion => Nat.lt_irrefl _ (above _ isVersion)
  have versionsKept : ∀ version directory, state.versions.lookup version = some directory →
      (setItem (state.trainer.nextVersion state.versions) written.1 state.versions).lookup version =
        some directory :=
    fun version directory found => lookup_setItem_fresh fresh found
  have publishedKept : ∀ version found, state.published.lookup version = some found →
      (setItem (state.trainer.nextVersion state.versions) chunks state.published).lookup version =
        some found := by
    intro version published found
    have differs : version ≠ state.trainer.nextVersion state.versions := fun same =>
      fresh (same ▸ holds.wellPublished.attempted found)
    rw [lookup_setItem, if_neg differs, found]
  rw [SyncState.publish, SyncState.write]
  refine
    { wellPublished := ?_
      topmost := ?_
      snapshot := ?_
      current := fun _ => ⟨chunks, ?_⟩
      hosts := fun host => (holds.hosts host).extend publishedKept versionsKept }
  · intro version found isFound
    by_cases isNew : version = state.trainer.nextVersion state.versions
    · rw [isNew] at isFound ⊢
      rw [lookup_setItem, if_pos rfl, Option.some.injEq] at isFound
      rw [← isFound]
      exact isPublished
    · rw [lookup_setItem, if_neg isNew] at isFound
      exact (holds.wellPublished version found isFound).extend publishedKept versionsKept
  · intro _ version isVersion
    rcases mem_keys_setItem.mp isVersion with isNew | isOld
    · exact Nat.le_of_eq isNew
    · exact Nat.le_of_lt (above version isOld)
  · intro _ found isFound
    rw [lookup_setItem, if_pos rfl, Option.some.injEq] at isFound
    rw [← isFound]
    exact isSnapshot
  · rw [lookup_setItem, if_pos rfl]

theorem SyncHolds.failPublish (holds : SyncHolds args state)
    (written : Directory × NamedTensors) :
    SyncHolds args { state.write written with updating := false } := by
  have above := lt_nextVersion fun needs => holds.topmost (.inl needs)
  have fresh : state.trainer.nextVersion state.versions ∉ state.versions.map Prod.fst :=
    fun isVersion => Nat.lt_irrefl _ (above _ isVersion)
  have versionsKept : ∀ version directory, state.versions.lookup version = some directory →
      (setItem (state.trainer.nextVersion state.versions) written.1 state.versions).lookup version =
        some directory :=
    fun version directory found => lookup_setItem_fresh fresh found
  rw [SyncState.write]
  refine
    { wellPublished := fun version found isFound =>
        (holds.wellPublished version found isFound).extend (fun _ _ kept => kept) versionsKept
      topmost := ?_
      snapshot := ?_
      current := fun isUpdating => nomatch isUpdating
      hosts := fun host => (holds.hosts host).extend (fun _ _ kept => kept) versionsKept }
  · intro _ version isVersion
    rcases mem_keys_setItem.mp isVersion with isNew | isOld
    · exact Nat.le_of_eq isNew
    · exact Nat.le_of_lt (above version isOld)
  · intro _ found isFound
    exact absurd (holds.wellPublished.attempted isFound) fresh

theorem SyncHolds.step {baseDir : Directory} (holds : SyncHolds args state) {action : SyncAction}
    (may : MayPublish args state action) {later : SyncState}
    (steps : state.step args baseDir action = some later) : SyncHolds args later := by
  cases action with
  | publish chunks =>
      rw [SyncState.step] at steps
      cases publishes : state.trainer.publish args state.versions chunks with
      | error exception =>
          rw [publishes] at steps
          cases steps
      | ok written =>
          rw [publishes] at steps
          rw [← Option.some.inj steps]
          exact holds.publish may publishes
  | failPublish left snapshot =>
      rw [← Option.some.inj steps]
      exact holds.failPublish (left, snapshot)
  | finish =>
      rw [SyncState.step] at steps
      by_cases pulled : state.Pulled
      · rw [if_pos pulled] at steps
        rw [← Option.some.inj steps]
        exact
          { wellPublished := holds.wellPublished
            topmost := fun _ => holds.topmost (.inr pulled.1)
            snapshot := fun _ => holds.snapshot (.inr pulled.1)
            current := fun isUpdating => nomatch isUpdating
            hosts := holds.hosts }
      · rw [if_neg pulled] at steps
        cases steps
  | restart weightVersion =>
      rw [← Option.some.inj steps]
      have never : ¬ ((Trainer.start weightVersion).needsFullSync = false ∨ false = true) := by
        simp [Trainer.start]
      exact
        { wellPublished := holds.wellPublished
          topmost := fun started => absurd started never
          snapshot := fun started => absurd started never
          current := fun isUpdating => nomatch isUpdating
          hosts := holds.hosts }
  | connect engines =>
      rw [← Option.some.inj steps]
      have before : (state.trainer.connectRolloutEngines engines).needsFullSync = false ∨
          false = true → state.trainer.needsFullSync = false ∨ state.updating = true := by
        intro connected
        simp [Trainer.connectRolloutEngines] at connected
        exact .inl connected.1
      exact
        { wellPublished := holds.wellPublished
          topmost := fun connected => holds.topmost (before connected)
          snapshot := fun connected => holds.snapshot (before connected)
          current := fun isUpdating => nomatch isUpdating
          hosts := holds.hosts }
  | pull host targetVersion kill =>
      rw [SyncState.step] at steps
      by_cases asked : (state.published.lookup targetVersion).isSome ∧
          (state.hosts host).target ≤ targetVersion
      · rw [if_pos asked] at steps
        rw [← Option.some.inj steps]
        rcases Option.isSome_iff_exists.mp asked.1 with ⟨chunks, isPublished⟩
        refine { holds with hosts := fun other => ?_ }
        by_cases same : other = host
        · rw [same]
          dsimp only
          rw [Function.update_self]
          exact (holds.hosts host).pull holds.wellPublished isPublished asked.2 kill
        · dsimp only
          rw [Function.update_of_ne same]
          exact holds.hosts other
      · rw [if_neg asked] at steps
        cases steps

theorem SyncHolds.start (args : Args) (weightVersion : Nat) (files : Nat → Directory) :
    SyncHolds args (SyncState.start weightVersion files) where
  wellPublished := fun _ _ found => nomatch found
  topmost := fun _ => List.forall_mem_nil _
  snapshot := fun _ _ found => nomatch found
  current := fun isUpdating => nomatch isUpdating
  hosts := fun _ =>
    { asked := .inl rfl
      recorded := fun _ applied => nomatch applied
      returnedBelow := Nat.le_refl 0
      returned := fun _ positive => absurd positive (Nat.lt_irrefl 0) }

theorem SyncHolds.hasWeights (holds : SyncHolds args state) {version : Nat}
    {chunks : List NamedTensors} {files : Directory}
    (isPublished : state.published.lookup version = some chunks)
    (isExact : ∃ found, state.published.lookup version = some found ∧
      SameFiles files (checkpointFiles args (chunkNames found) (chunkValue found))) :
    HasWeights args files chunks := by
  rcases isExact with ⟨found, foundPublished, same⟩
  have here := holds.wellPublished version chunks isPublished
  have sameChunks : found = chunks := Option.some.inj (foundPublished.symm.trans isPublished)
  rw [sameChunks] at same
  exact HasWeights.of_same here.distinct here.filled same

/-- When all engines have pulled, their hosts have the weights of the last publication. -/
theorem SyncHolds.pulled (holds : SyncHolds args state) (pulled : state.Pulled)
    {chunks : List NamedTensors}
    (isPublished : state.published.lookup state.trainer.weightVersion = some chunks) :
    ∀ engine ∈ state.trainer.rolloutEngines, ∀ host ∈ engine.hosts,
      (state.hosts host).checkpoint.applied = some state.trainer.weightVersion ∧
        HasWeights args (state.hosts host).checkpoint.files chunks := by
  intro engine isEngine host isHost
  have isReturned := pulled.2 engine isEngine host isHost
  have positive := (holds.wellPublished _ chunks isPublished).positive
  have own := holds.hosts host
  have topmost : (state.hosts host).target ≤ state.trainer.weightVersion := by
    rcases own.asked with isZero | ⟨found, isFound⟩
    · rw [isZero]
      exact Nat.zero_le _
    · exact holds.topmost (.inr pulled.1) _ (holds.wellPublished.attempted isFound)
  have isTarget : (state.hosts host).returned = (state.hosts host).target :=
    Nat.le_antisymm own.returnedBelow (isReturned ▸ topmost)
  rcases own.returned isTarget (isReturned ▸ positive) with ⟨applied, isExact⟩
  rw [isReturned] at applied isExact
  exact ⟨applied, holds.hasWeights isPublished isExact⟩

end Steps

/-! ## Runs -/

theorem SyncHolds.of_reached {args : Args} {baseDir : Directory} {weightVersion : Nat}
    {files : Nat → Directory} {state : SyncState}
    (reached : Reaches (SyncState.step args baseDir) (MayPublish args)
      (SyncState.start weightVersion files) state) : SyncHolds args state :=
  reached.invariant (SyncHolds args) (SyncHolds.start args weightVersion files)
    fun _ _ _ may before steps => before.step may steps

/-- In every run, whatever fails, is killed, restarted or reconnected: a pull that returns has
exactly the weights of its version; it does return if it is not killed and either deltas are
overwrites, the host has no record, or a full version stands above its record; a record of the
version that was last asked for is never wrong; and when `update_weights` returns, every host of
the engines has its weights. -/
theorem pullCheckpoint_pullsPublished (args : Args) (baseDir : Directory) (weightVersion : Nat)
    (files : Nat → Directory) {state : SyncState}
    (reached : Reaches (SyncState.step args baseDir) (MayPublish args)
      (SyncState.start weightVersion files) state) :
    (∀ host targetVersion chunks kill, state.published.lookup targetVersion = some chunks →
      (state.hosts host).target ≤ targetVersion →
        let checkpoint := (state.hosts host).checkpoint
        let pulled :=
          pullCheckpoint args.checksum baseDir state.versions targetVersion kill checkpoint
        (pulled.2 = .returned →
          pulled.1.applied = some targetVersion ∧ HasWeights args pulled.1.files chunks) ∧
        (kill = none →
          (args.deltaEncoding = .overwrite ∨ checkpoint.applied = none ∨
            ∃ applied full, checkpoint.applied = some applied ∧ applied < full ∧
              full ≤ targetVersion ∧ isDelta state.versions full = .ok false) →
          pulled.2 = .returned)) ∧
    (∀ host, (state.hosts host).checkpoint.applied = some (state.hosts host).target →
      ∃ chunks, state.published.lookup (state.hosts host).target = some chunks ∧
        HasWeights args (state.hosts host).checkpoint.files chunks) ∧
    (∀ later, state.step args baseDir .finish = some later →
      ∃ chunks, state.published.lookup state.trainer.weightVersion = some chunks ∧
        ∀ engine ∈ state.trainer.rolloutEngines, ∀ host ∈ engine.hosts,
          HasWeights args (state.hosts host).checkpoint.files chunks) := by
  have holds := SyncHolds.of_reached reached
  refine ⟨?_, ?_, ?_⟩
  · intro host targetVersion chunks kill isPublished above checkpoint pulled
    have pulls := pullCheckpoint_pulls holds.wellPublished baseDir (holds.hosts host) isPublished
      above kill
    refine ⟨fun isReturned => ?_, fun isNone clean => pulls.returns ⟨isNone, clean⟩⟩
    rcases pulls.returned isReturned with ⟨applied, isExact⟩
    exact ⟨applied, holds.hasWeights isPublished isExact⟩
  · intro host applied
    rcases (holds.hosts host).recorded _ applied with ⟨_, chunks, isPublished, holding⟩
    refine ⟨chunks, isPublished, holds.hasWeights isPublished ⟨chunks, isPublished, ?_⟩⟩
    rcases holding with holdsHere | ⟨full, after, atTarget, _⟩
    · rcases holdsHere with isExact | ⟨below, _⟩
      · exact isExact
      · exact absurd below (Nat.lt_irrefl _)
    · omega
  · intro later steps
    rw [SyncState.step] at steps
    by_cases pulled : state.Pulled
    · rcases holds.current pulled.1 with ⟨chunks, isPublished⟩
      refine ⟨chunks, isPublished, fun engine isEngine host isHost => ?_⟩
      exact (holds.pulled pulled isPublished engine isEngine host isHost).2
    · rw [if_neg pulled] at steps
      cases steps

/-! ## A delta on an unfinished version -/

section Unfinished

variable {args : Args} {versions : Versions}

def indexedTensors (versions : Versions) (version : Nat) : List (String × FileName) :=
  match (versions.lookup version).bind fun directory => directory.lookup .index with
  | some (.index _ weightMap) => weightMap
  | _ => []

theorem writeDeltaFiles_index (args : Args) (version : Nat) (encoded : EncodedDelta) :
    (writeDeltaFiles args version encoded []).lookup .index =
      some (.index (.delta (deltaMetadata args version))
        (encoded.delta.map fun tensor => (tensor.1, .shard 0 1))) := by
  rw [writeDeltaFiles, lookup_setItem, if_pos rfl, deltaMetadata]

theorem indexedTensors_eq_nil {version : Nat} {encoded : EncodedDelta}
    (published : versions.lookup version = some (writeDeltaFiles args version encoded [])) :
    indexedTensors versions version = [] ↔ encoded.delta = [] := by
  rw [indexedTensors, published, Option.bind_some, writeDeltaFiles_index]
  exact List.map_eq_nil_iff

theorem deltaItems_empty (args : Args) (version : Nat) (encoded : EncodedDelta) :
    deltaItems [] (writeDeltaFiles args version encoded []) =
      if encoded.delta = [] then .ok [] else .error (.python .keyError) := by
  rw [writeDeltaFiles]
  cases encoded.delta with
  | nil => rfl
  | cons tensor rest => rfl

theorem applyDelta_empty (args : Args) {base : Nat} {encoded : EncodedDelta}
    (published : versions.lookup (base + 1) =
      some (writeDeltaFiles args (base + 1) encoded [])) :
    (applyDelta args.checksum versions (base + 1) none { files := [], applied := some base }).1 =
      { files := [], applied := some (if encoded.delta = [] then base + 1 else base) } := by
  have read : readDelta versions (base + 1) { files := [], applied := some base } =
      (deltaItems [] (writeDeltaFiles args (base + 1) encoded [])).map fun items =>
        some { metadata := deltaMetadata args (base + 1), items := items } := by
    have notApplied : ¬ some base = some (deltaMetadata args (base + 1)).version := by
      rw [Option.some.injEq, deltaMetadata]
      dsimp only
      omega
    have locations : tensorLocations [] = .ok [] := rfl
    rw [readDelta, published]
    dsimp only
    rw [readIndex, writeDeltaFiles_index, ok_bind, readItems, if_neg notApplied, refuseIf,
      if_neg (fun differs => differs rfl), ok_bind, refuseIf, if_neg (fun differs => differs rfl),
      ok_bind, locations, ok_bind]
    rfl
  rw [applyDelta, read, deltaItems_empty]
  by_cases isEmpty : encoded.delta = []
  · rw [if_pos isEmpty, if_pos isEmpty]
    rfl
  · rw [if_neg isEmpty, if_neg isEmpty]
    rfl

theorem applyDeltas_single (checksum : String → List UInt8 → String) (version : Nat)
    (checkpoint : LocalCheckpoint) :
    applyDeltas checksum versions none [version] checkpoint =
      applyDelta checksum versions version none checkpoint := by
  have uncut : KillPoint.cut none version = none := rfl
  rw [applyDeltas, uncut]
  split
  · rename_i final isFinal
    rw [isFinal, applyDeltas]
  · rfl

/-- A version without an index is taken for a full one. -/
theorem pullCheckpoint_unfinished (args : Args) (baseDir : Directory) {directory : Directory}
    {base : Nat}
    {weightMap : List (String × FileName)} (unfinished : versions.lookup (base + 1) = some [])
    (published : versions.lookup (base + 2) = some directory)
    (isIndex : directory.lookup .index =
      some (.index (.delta (deltaMetadata args (base + 2))) weightMap))
    {checkpoint : LocalCheckpoint} (below : checkpoint.applied.getD 0 ≤ base) :
    (pullCheckpoint args.checksum baseDir versions (base + 2) none checkpoint).1 =
      (applyDelta args.checksum versions (base + 2) none
        { files := [], applied := some (base + 1) }).1 := by
  have delta : isDelta versions (base + 2) = .ok true := by
    rw [isDelta, published]
    dsimp only
    rw [isIndex]
  have notDelta : isDelta versions (base + 1) = .ok false := by
    rw [isDelta, unfinished]
    rfl
  have scanned : scanStart versions (checkpoint.applied.getD 0) (base + 2) = .ok (base + 1) := by
    rw [scanStart, if_pos (by omega), delta, ok_bind, if_pos rfl, scanStart, if_pos (by omega),
      notDelta, ok_bind]
    rfl
  have seed : seedDir baseDir versions (base + 1) = .ok [] := by
    rw [seedDir, if_neg (by omega), unfinished]
  have isReset : resetCheckpoint [] (base + 1) checkpoint =
      { files := [], applied := some (base + 1) } := by
    rw [resetCheckpoint]
    simp
  have count : base + 2 - (base + 1) = 1 := by omega
  rw [pullCheckpoint, scanned]
  dsimp only
  have applies : resetThenApply args.checksum versions none (base + 1) (base + 2) checkpoint [] =
      applyDeltas args.checksum versions none
        (List.range' (base + 2) (base + 2 - (base + 1)))
        (resetCheckpoint [] (base + 1) checkpoint) := rfl
  rw [if_pos (.inr (by omega)), seed]
  dsimp only
  rw [applies, isReset, count]
  exact congrArg Prod.fst (applyDeltas_single args.checksum (base + 2) _)

end Unfinished

/-- If a delta publication raises before it writes a file and the same trainer then publishes the
next delta, a pull of it on any host removes all files of the checkpoint, which then records the
unfinished version, or the new one if the delta has no tensor. -/
theorem failPublish_emptiesHosts (args : Args) (baseDir : Directory) (weightVersion : Nat)
    (files : Nat → Directory) {state failed later : SyncState}
    (reached : Reaches (SyncState.step args baseDir) (MayPublish args)
      (SyncState.start weightVersion files) state)
    (incremental : state.trainer.needsFullSync = false) {snapshot : NamedTensors}
    {chunks : List NamedTensors}
    (fails : state.step args baseDir (.failPublish [] snapshot) = some failed)
    (publishes : failed.step args baseDir (.publish chunks) = some later) (host : Nat) :
    let pulled := pullCheckpoint args.checksum baseDir later.versions later.trainer.weightVersion
      none (later.hosts host).checkpoint
    pulled.1.files = [] ∧ pulled.1.applied = some
      (if indexedTensors later.versions later.trainer.weightVersion = []
        then later.trainer.weightVersion else failed.trainer.weightVersion) := by
  have holds := SyncHolds.of_reached reached
  have topmost := holds.topmost (.inl incremental)
  have isFailed : failed = { state.write ([], snapshot) with updating := false } :=
    (Option.some.inj fails).symm
  have failedVersion : state.trainer.nextVersion state.versions =
      state.trainer.weightVersion + 1 := by
    rw [Trainer.nextVersion, incremental]
    rfl
  rw [SyncState.write, failedVersion] at isFailed
  have needs : failed.trainer.needsFullSync = false := by
    rw [isFailed]
    exact incremental
  have nextVersion : failed.trainer.nextVersion failed.versions =
      state.trainer.weightVersion + 2 := by
    rw [Trainer.nextVersion, needs, isFailed]
    rfl
  have fresh : failed.versions.lookup (state.trainer.weightVersion + 2) = none := by
    rw [lookup_eq_none_iff, isFailed]
    intro isKey
    rcases mem_keys_setItem.mp isKey with isNew | isOld
    · omega
    · exact absurd (topmost _ isOld) (by omega)
  rw [SyncState.step] at publishes
  cases written : failed.trainer.publish args failed.versions chunks with
  | error exception =>
      rw [written] at publishes
      cases publishes
  | ok result =>
      rw [written] at publishes
      have isLater : later = failed.publish chunks result := (Option.some.inj publishes).symm
      rw [Trainer.publish, nextVersion, fresh, needs, if_neg (by simp), Option.getD_none] at written
      rcases bind_eq_ok.mp written with ⟨encoded, _, returned⟩
      rw [pure_eq_ok, Except.ok.injEq] at returned
      have isIndex := writeDeltaFiles_index args (state.trainer.weightVersion + 2) encoded
      rw [SyncState.publish, SyncState.write, nextVersion] at isLater
      have laterVersion : later.trainer.weightVersion = state.trainer.weightVersion + 2 := by
        rw [isLater]
      have unfinished : later.versions.lookup (state.trainer.weightVersion + 1) = some [] := by
        rw [isLater]
        dsimp only
        rw [lookup_setItem, if_neg (by omega), isFailed]
        dsimp only
        rw [lookup_setItem, if_pos rfl]
      have published : later.versions.lookup (state.trainer.weightVersion + 2) =
          some (writeDeltaFiles args (state.trainer.weightVersion + 2) encoded []) := by
        rw [isLater, ← returned]
        dsimp only
        rw [lookup_setItem, if_pos rfl]
      have sameHost : later.hosts host = state.hosts host := by
        rw [isLater, isFailed]
      have below : (state.hosts host).checkpoint.applied.getD 0 ≤ state.trainer.weightVersion := by
        cases applied : (state.hosts host).checkpoint.applied with
        | none => exact Nat.zero_le _
        | some version =>
            rcases (holds.hosts host).recorded version applied with ⟨_, own, ownPublished, _⟩
            exact topmost version (holds.wellPublished.attempted ownPublished)
      intro pulled
      have isPulled : pulled.1 = (applyDelta args.checksum later.versions
          (state.trainer.weightVersion + 2) none
          { files := [], applied := some (state.trainer.weightVersion + 1) }).1 := by
        have unfinishedPull :=
          pullCheckpoint_unfinished args baseDir unfinished published isIndex below
        rw [← sameHost, ← laterVersion] at unfinishedPull
        rw [← laterVersion]
        exact unfinishedPull
      have failedNumber : failed.trainer.weightVersion = state.trainer.weightVersion + 1 := by
        rw [isFailed]
      have noTensor := indexedTensors_eq_nil published
      rw [isPulled, laterVersion, failedNumber, applyDelta_empty args published]
      simp only [noTensor, true_and]

/-! ## A pull after one that was killed inside a tensor -/

def overwriteArgs : Args where
  hfCheckpoint := []
  deltaEncoding := .overwrite
  checksumAlgorithm := "adler32"
  checksum := fun _ data => adler32Hexdigest data
  numpy := .numpy2
  worldSize := 1
  worldSizePos := Nat.one_pos

/-- A full version reaches a host; the pull of a delta that changes both bytes is killed after
the first one. -/
def killedAction : Nat → SyncAction
  | 0 => .connect [{ actor := 0, hosts := [0] }]
  | 1 => .publish [[("w", [1, 2])]]
  | 2 => .pull 0 1 none
  | 3 => .finish
  | 4 => .publish [[("w", [3, 4])]]
  | _ => .pull 0 2 (some (.patching 2 fun _ position => position = 0))

def syncAfter : Nat → SyncState
  | 0 => SyncState.start 0 fun _ => []
  | count + 1 =>
      ((syncAfter count).step overwriteArgs [] (killedAction count)).getD (syncAfter count)

theorem step_getD {state : SyncState} {action : SyncAction}
    (taken : (state.step overwriteArgs [] action).isSome = true) :
    state.step overwriteArgs [] action =
      some ((state.step overwriteArgs [] action).getD state) := by
  rcases Option.isSome_iff_exists.mp taken with ⟨later, isLater⟩
  rw [isLater, Option.getD_some]

theorem syncAfter_next {count : Nat}
    (reached : Reaches (SyncState.step overwriteArgs []) (MayPublish overwriteArgs)
      (SyncState.start 0 fun _ => []) (syncAfter count))
    (may : MayPublish overwriteArgs (syncAfter count) (killedAction count))
    (taken : ((syncAfter count).step overwriteArgs [] (killedAction count)).isSome = true) :
    Reaches (SyncState.step overwriteArgs []) (MayPublish overwriteArgs)
      (SyncState.start 0 fun _ => []) (syncAfter (count + 1)) :=
  reached.next may (step_getD taken)

theorem syncAfter_deltable :
    MayPublish overwriteArgs (syncAfter 4) (.publish [[("w", [3, 4])]]) := by
  intro _
  have names : ∀ name ∈ (chunkNames [[("w", [1, 2])]]).flatten, name = "w" := by decide
  refine ⟨[[("w", [1, 2])]], by decide, by decide, ?_⟩
  exact
    { sameSize := fun name isName => by
        rw [names name isName]
        decide
      fits := fun _ name isName => by
        rw [names name isName]
        exact FitsWords.ofLength (by decide) (by decide)
      separates := fun isXor => nomatch isXor }

theorem syncAfter_finished : Reaches (SyncState.step overwriteArgs []) (MayPublish overwriteArgs)
    (SyncState.start 0 fun _ => []) (syncAfter 4) := by
  have started : Reaches (SyncState.step overwriteArgs []) (MayPublish overwriteArgs)
      (SyncState.start 0 fun _ => []) (syncAfter 0) := .start
  have connected := syncAfter_next started trivial (by decide)
  have published := syncAfter_next connected
    (fun needs => absurd needs (by decide)) (by decide)
  have pulled := syncAfter_next published trivial (by decide)
  exact syncAfter_next pulled trivial (by decide)

theorem syncAfter_killed : Reaches (SyncState.step overwriteArgs []) (MayPublish overwriteArgs)
    (SyncState.start 0 fun _ => []) (syncAfter 6) := by
  have delta := syncAfter_next syncAfter_finished syncAfter_deltable (by decide)
  exact syncAfter_next delta trivial (by decide)

/-- The killed pull left the bytes 3 and 2; the next one returns with 3 and 4. -/
theorem pullCheckpoint_afterKill :
    readTensor ((syncAfter 6).hosts 0).checkpoint.files (.shard 1 1) "w" = some [3, 2] ∧
      (pullCheckpoint overwriteArgs.checksum [] (syncAfter 6).versions 2 none
        ((syncAfter 6).hosts 0).checkpoint).2 = .returned ∧
      HasWeights overwriteArgs (pullCheckpoint overwriteArgs.checksum [] (syncAfter 6).versions 2
        none ((syncAfter 6).hosts 0).checkpoint).1.files [[("w", [3, 4])]] := by
  have pulls := (pullCheckpoint_pullsPublished overwriteArgs [] 0 (fun _ => [])
    syncAfter_killed).1 0 2 [[("w", [3, 4])]] none (by decide) (by decide)
  have returned := pulls.2 rfl (.inl rfl)
  exact ⟨by decide, returned, (pulls.1 returned).2⟩

def unfinishedSync : SyncState :=
  ((syncAfter 4).step overwriteArgs [] (.failPublish [] [("w", [1, 2])])).getD (syncAfter 4)

def emptyingSync : SyncState :=
  (unfinishedSync.step overwriteArgs [] (.publish [[("w", [3, 4])]])).getD unfinishedSync

theorem failPublish_emptiesHost :
    (pullCheckpoint overwriteArgs.checksum [] emptyingSync.versions
        emptyingSync.trainer.weightVersion none (emptyingSync.hosts 0).checkpoint).1.files = [] ∧
      (pullCheckpoint overwriteArgs.checksum [] emptyingSync.versions
          emptyingSync.trainer.weightVersion none (emptyingSync.hosts 0).checkpoint).1.applied =
        some (if indexedTensors emptyingSync.versions emptyingSync.trainer.weightVersion = []
          then emptyingSync.trainer.weightVersion
          else unfinishedSync.trainer.weightVersion) :=
  failPublish_emptiesHosts overwriteArgs [] 0 (fun _ => []) syncAfter_finished
    (by decide) (step_getD (by decide)) (step_getD (by decide)) 0

end Vime.Backends.MegatronUtils.DiskDelta
