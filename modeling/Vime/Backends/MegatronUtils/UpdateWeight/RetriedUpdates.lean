import Vime.Backends.MegatronUtils.UpdateWeight.SyncRuns

/-! # Updates after a failed one

A pull writes `state.json` after it has copied a full version and after each delta. What it has
recorded has the weights of the recorded version, and the next update that returns gives every
host of the engines its weights, unless a delta was published on an unfinished one.
-/

namespace Vime.Backends.MegatronUtils.DiskDelta

open Vime.Foundation
open Vime.Utils

/-! ## The records of a pull -/

section Records

variable (checksum : String → List UInt8 → String)

/-- The checkpoints of which the deltas of a pull record the version. -/
def deltaRecords (versions : Versions) (kill : Option KillPoint) :
    List Nat → LocalCheckpoint → List LocalCheckpoint
  | [], _ => []
  | version :: rest, checkpoint =>
      match applyDelta checksum versions version (KillPoint.cut kill version) checkpoint with
      | (later, .returned) => later :: deltaRecords versions kill rest later
      | _ => []

def resetRecords (versions : Versions) (kill : Option KillPoint) (start targetVersion : Nat)
    (checkpoint : LocalCheckpoint) (seed : Directory) : List LocalCheckpoint :=
  match kill with
  | some (.copying _) => []
  | _ =>
      resetCheckpoint seed start checkpoint ::
        deltaRecords checksum versions kill (List.range' (start + 1) (targetVersion - start))
          (resetCheckpoint seed start checkpoint)

/-- The checkpoints of which `pullCheckpoint` records the version, in order. -/
def pullRecords (baseDir : Directory) (versions : Versions) (targetVersion : Nat)
    (kill : Option KillPoint) (checkpoint : LocalCheckpoint) : List LocalCheckpoint :=
  let floor := checkpoint.applied.getD 0
  match scanStart versions floor targetVersion with
  | .error _ => []
  | .ok start =>
      if checkpoint.applied = none ∨ start > floor then
        match seedDir baseDir versions start with
        | .error _ => []
        | .ok seed => resetRecords checksum versions kill start targetVersion checkpoint seed
      else
        deltaRecords checksum versions kill (List.range' (floor + 1) (targetVersion - floor))
          checkpoint

/-- The version that stands in `state.json` after some records. -/
def lastRecord (records : List LocalCheckpoint) (applied : Option Nat) : Option Nat :=
  records.foldl (fun _ recorded => recorded.applied) applied

variable {checksum}

theorem Patching.finish_applied (patching : Patching) (version : Nat) (applied : Option Nat)
    (notReturned : (patching.finish version applied).2 ≠ .returned) :
    (patching.finish version applied).1.applied = applied := by
  rw [Patching.finish] at notReturned ⊢
  cases failed : patching.failure with
  | some error => rfl
  | none =>
      rw [failed] at notReturned
      dsimp only at notReturned ⊢
      by_cases none : patching.mismatches = []
      · rw [if_pos none] at notReturned
        exact absurd rfl notReturned
      · rw [if_neg none]

theorem applyDelta_unrecorded {versions : Versions} {version : Nat}
    {cut : Option (String → Nat → Bool)} {checkpoint : LocalCheckpoint}
    (notReturned : (applyDelta checksum versions version cut checkpoint).2 ≠ .returned) :
    (applyDelta checksum versions version cut checkpoint).1.applied = checkpoint.applied := by
  rw [applyDelta] at notReturned ⊢
  cases read : readDelta versions version checkpoint with
  | error error => rfl
  | ok found =>
      cases found with
      | none => rfl
      | some delta =>
          rw [read] at notReturned
          dsimp only at notReturned ⊢
          by_cases isCut : cut.isSome
          · rw [if_pos isCut]
          · rw [if_neg isCut] at notReturned ⊢
            exact Patching.finish_applied _ _ _ notReturned

theorem applyDeltas_lastRecord {versions : Versions} {kill : Option KillPoint}
    {pending : List Nat} : ∀ checkpoint : LocalCheckpoint,
      (applyDeltas checksum versions kill pending checkpoint).1.applied =
        lastRecord (deltaRecords checksum versions kill pending checkpoint) checkpoint.applied := by
  induction pending with
  | nil => exact fun _ => rfl
  | cons version rest induction =>
      intro checkpoint
      have unrecorded := @applyDelta_unrecorded checksum versions version
        (KillPoint.cut kill version) checkpoint
      rw [applyDeltas, deltaRecords]
      generalize applyDelta checksum versions version (KillPoint.cut kill version) checkpoint =
        applied at unrecorded
      rcases applied with ⟨later, outcome⟩
      cases outcome with
      | returned => exact induction later
      | raised error =>
          apply unrecorded
          intro isReturned
          cases isReturned
      | killed =>
          apply unrecorded
          intro isReturned
          cases isReturned

/-- What a pull leaves in `state.json` is the last version that it recorded. -/
theorem pullCheckpoint_lastRecord (baseDir : Directory) (versions : Versions)
    (targetVersion : Nat) (kill : Option KillPoint) (checkpoint : LocalCheckpoint) :
    (pullCheckpoint checksum baseDir versions targetVersion kill checkpoint).1.applied =
      lastRecord (pullRecords checksum baseDir versions targetVersion kill checkpoint)
        checkpoint.applied := by
  rw [pullCheckpoint, pullRecords]
  cases scanStart versions (checkpoint.applied.getD 0) targetVersion with
  | error error => rfl
  | ok start =>
      dsimp only
      by_cases copies : checkpoint.applied = none ∨ start > checkpoint.applied.getD 0
      · rw [if_pos copies, if_pos copies]
        cases seedDir baseDir versions start with
        | error error => rfl
        | ok seed =>
            rcases kill with none | ⟨left⟩ | ⟨version, written⟩
            · exact applyDeltas_lastRecord (resetCheckpoint seed start checkpoint)
            · rfl
            · exact applyDeltas_lastRecord (resetCheckpoint seed start checkpoint)
      · rw [if_neg copies, if_neg copies]
        exact applyDeltas_lastRecord _

/-- A delta has recorded a version when those up to it have returned. -/
theorem mem_deltaRecords {versions : Versions} {kill : Option KillPoint} {pending : List Nat} :
    ∀ {checkpoint recorded : LocalCheckpoint},
      recorded ∈ deltaRecords checksum versions kill pending checkpoint →
        ∃ passed, 0 < passed ∧ passed ≤ pending.length ∧
          applyDeltas checksum versions kill (pending.take passed) checkpoint =
            (recorded, .returned) := by
  induction pending with
  | nil => exact fun member => nomatch member
  | cons version rest induction =>
      intro checkpoint recorded member
      rw [deltaRecords] at member
      split at member
      · rename_i later isLater
        rcases List.mem_cons.mp member with isFirst | inRest
        · refine ⟨1, Nat.one_pos, by simp, ?_⟩
          rw [List.take_succ_cons, List.take_zero, applyDeltas, isLater, isFirst]
          rfl
        · rcases induction inRest with ⟨passed, positive, within, returned⟩
          refine ⟨passed + 1, Nat.succ_pos passed, Nat.succ_le_succ within, ?_⟩
          rw [List.take_succ_cons, applyDeltas, isLater]
          exact returned
      · cases member

end Records

section Recorded

variable {args : Args} {versions : Versions} {published : PublishedChunks}

def RecordsPublished (args : Args) (published : PublishedChunks) (recorded : LocalCheckpoint) :
    Prop :=
  ∃ version, recorded.applied = some version ∧ ∃ chunks,
    published.lookup version = some chunks ∧
      SameFiles recorded.files (checkpointFiles args (chunkNames chunks) (chunkValue chunks))

theorem deltaRecords_published (wellPublished : WellPublished args versions published)
    {kill : Option KillPoint} {floor start target : Nat} {chunks : List NamedTensors}
    (scans : ScansTo args versions published floor start target)
    (isPublished : published.lookup start = some chunks) {checkpoint : LocalCheckpoint}
    (applied : checkpoint.applied = some start)
    (holds : HoldsVersion args versions published target start chunks checkpoint.files) :
    ∀ recorded ∈ deltaRecords args.checksum versions kill
        (List.range' (start + 1) (target - start)) checkpoint,
      RecordsPublished args published recorded := by
  intro recorded member
  rcases mem_deltaRecords member with ⟨passed, positive, within, returned⟩
  rw [List.length_range'] at within
  rw [List.take_range'_of_length_ge within] at returned
  have holdsHere : HoldsVersion args versions published (start + passed) start chunks
      checkpoint.files := by
    rcases holds with isExact | ⟨_, more⟩
    · exact .inl isExact
    · exact .inr ⟨by omega, more⟩
  have applies := applyDeltas_applies wellPublished kill (start + passed) passed start checkpoint
    rfl isPublished applied holdsHere
    fun base high low => scans.deltas base high (by omega)
  rw [returned] at applies
  exact ⟨start + passed, applies.returned rfl⟩

theorem resetRecords_published (wellPublished : WellPublished args versions published)
    (kill : Option KillPoint) {floor start target : Nat} {chunks : List NamedTensors}
    (scans : ScansTo args versions published floor start target)
    (isPublished : published.lookup start = some chunks) (checkpoint : LocalCheckpoint) :
    ∀ recorded ∈ resetRecords args.checksum versions kill start target checkpoint
        (writtenFiles args chunks),
      RecordsPublished args published recorded := by
  have here := wellPublished start chunks isPublished
  have isReset : SameFiles (resetCheckpoint (writtenFiles args chunks) start checkpoint).files
      (checkpointFiles args (chunkNames chunks) (chunkValue chunks)) := by
    rw [writtenFiles_eq args here.distinct]
    exact resetCheckpoint_files nodup_checkpointFiles start checkpoint
  intro recorded member
  have copied : recorded ∈ resetCheckpoint (writtenFiles args chunks) start checkpoint ::
        deltaRecords args.checksum versions kill (List.range' (start + 1) (target - start))
          (resetCheckpoint (writtenFiles args chunks) start checkpoint) →
      RecordsPublished args published recorded := by
    intro isRecord
    rcases List.mem_cons.mp isRecord with isFirst | inRest
    · rw [isFirst]
      exact ⟨start, rfl, chunks, isPublished, isReset⟩
    · exact deltaRecords_published wellPublished scans isPublished rfl (.inl isReset) recorded
        inRest
  rcases kill with none | ⟨left⟩ | ⟨version, written⟩
  · exact copied member
  · cases member
  · exact copied member

theorem pullRecords_published (wellPublished : WellPublished args versions published)
    (baseDir : Directory) {host : Host} (holds : HostHolds args versions published host)
    {target : Nat} {chunks : List NamedTensors}
    (isPublished : published.lookup target = some chunks) (above : host.target ≤ target)
    (kill : Option KillPoint) :
    ∀ recorded ∈ pullRecords args.checksum baseDir versions target kill host.checkpoint,
      RecordsPublished args published recorded := by
  cases holds.pullStart wellPublished isPublished above with
  | @copied start startChunks scans startPublished isFull below =>
      have positive := (wellPublished _ _ startPublished).positive
      have seed : seedDir baseDir versions start = .ok (writtenFiles args startChunks) := by
        rw [seedDir, if_neg (Nat.pos_iff_ne_zero.mp positive), isFull]
      rw [pullRecords, scans.scanned]
      dsimp only
      rw [if_pos (copies_of_below below), seed]
      exact resetRecords_published wellPublished kill scans startPublished host.checkpoint
  | recorded applied ownPublished scans holdsOwn =>
      rw [pullRecords, applied]
      dsimp only [Option.getD_some]
      rw [scans.scanned]
      dsimp only
      rw [if_neg (by simp)]
      exact deltaRecords_published wellPublished scans ownPublished applied holdsOwn

end Recorded

/-! ## Updates -/

def IsPull (_ : SyncState) : SyncAction → Prop
  | .pull _ _ _ => True
  | _ => False

/-- An `update_weights` that returns: it publishes the tensors, hosts pull, it finishes. -/
def UpdateReturns (args : Args) (baseDir : Directory) (chunks : List NamedTensors)
    (before after : SyncState) : Prop :=
  ∃ publishing pulled, before.step args baseDir (.publish chunks) = some publishing ∧
    Reaches (SyncState.step args baseDir) IsPull publishing pulled ∧
      pulled.step args baseDir .finish = some after

section Updates

variable {args : Args} {baseDir : Directory} {chunks : List NamedTensors}
  {before publishing pulled after : SyncState}

theorem SyncState.publish_current
    (publishes : before.step args baseDir (.publish chunks) = some publishing) :
    publishing.published.lookup publishing.trainer.weightVersion = some chunks := by
  rw [SyncState.step] at publishes
  split at publishes
  · rw [← Option.some.inj publishes, SyncState.publish, SyncState.write]
    dsimp only
    rw [lookup_setItem, if_pos rfl]
  · cases publishes

theorem pulls_keep (pulls : Reaches (SyncState.step args baseDir) IsPull publishing pulled) :
    pulled.trainer = publishing.trainer ∧ pulled.published = publishing.published := by
  apply pulls.invariant fun state =>
    state.trainer = publishing.trainer ∧ state.published = publishing.published
  · exact ⟨rfl, rfl⟩
  · intro state action later isPull same steps
    cases action with
    | pull host targetVersion kill =>
        rw [SyncState.step] at steps
        split at steps
        · rw [← Option.some.inj steps]
          exact same
        · cases steps
    | publish _ => cases isPull
    | failPublish _ _ => cases isPull
    | finish => cases isPull
    | restart _ => cases isPull
    | connect _ => cases isPull

theorem SyncHolds.pulls (holds : SyncHolds args publishing)
    (pulls : Reaches (SyncState.step args baseDir) IsPull publishing pulled) :
    SyncHolds args pulled := by
  apply pulls.invariant (SyncHolds args) holds
  intro state action later isPull holdsHere steps
  refine holdsHere.step ?_ steps
  cases action with
  | publish _ => cases isPull
  | failPublish _ _ => trivial
  | finish => trivial
  | restart _ => trivial
  | connect _ => trivial
  | pull _ _ _ => trivial

theorem SyncHolds.updateReturns (holds : SyncHolds args before)
    (may : MayPublish args before (.publish chunks))
    (returns : UpdateReturns args baseDir chunks before after) :
    ∀ engine ∈ after.trainer.rolloutEngines, ∀ host ∈ engine.hosts,
      (after.hosts host).checkpoint.applied = some after.trainer.weightVersion ∧
        HasWeights args (after.hosts host).checkpoint.files chunks := by
  rcases returns with ⟨publishing, pulled, publishes, pulls, finishes⟩
  have isCurrent := SyncState.publish_current publishes
  have holdsPulled := (holds.step may publishes).pulls pulls
  rcases pulls_keep pulls with ⟨sameTrainer, samePublished⟩
  rw [← sameTrainer, ← samePublished] at isCurrent
  rw [SyncState.step] at finishes
  by_cases allPulled : pulled.Pulled
  · rw [if_pos allPulled] at finishes
    rw [← Option.some.inj finishes]
    exact holdsPulled.pulled allPulled isCurrent
  · rw [if_neg allPulled] at finishes
    cases finishes

end Updates

/-- After any failed updates, publications and pulls, the next update that returns gives every
host of the engines its weights, and whatever version a pull records, it is a published one and
the files have its weights. -/
theorem updateWeights_afterFailures (args : Args) (baseDir : Directory) (weightVersion : Nat)
    (files : Nat → Directory) {state : SyncState}
    (reached : Reaches (SyncState.step args baseDir) (MayPublish args)
      (SyncState.start weightVersion files) state) :
    (∀ chunks after, MayPublish args state (.publish chunks) →
      UpdateReturns args baseDir chunks state after →
        ∀ engine ∈ after.trainer.rolloutEngines, ∀ host ∈ engine.hosts,
          (after.hosts host).checkpoint.applied = some after.trainer.weightVersion ∧
            HasWeights args (after.hosts host).checkpoint.files chunks) ∧
    ∀ host targetVersion kill later,
      state.step args baseDir (.pull host targetVersion kill) = some later →
        ∀ recorded ∈ pullRecords args.checksum baseDir state.versions targetVersion kill
            (state.hosts host).checkpoint,
          ∃ version chunks, recorded.applied = some version ∧
            state.published.lookup version = some chunks ∧
              HasWeights args recorded.files chunks := by
  have holds := SyncHolds.of_reached reached
  refine ⟨fun chunks after may returns => holds.updateReturns may returns, ?_⟩
  intro host targetVersion kill later steps recorded member
  rw [SyncState.step] at steps
  by_cases asked : (state.published.lookup targetVersion).isSome ∧
      (state.hosts host).target ≤ targetVersion
  · rcases Option.isSome_iff_exists.mp asked.1 with ⟨target, isPublished⟩
    rcases pullRecords_published holds.wellPublished baseDir (holds.hosts host) isPublished
      asked.2 kill recorded member with ⟨version, applied, chunks, isVersion, isExact⟩
    exact ⟨version, chunks, applied, isVersion,
      holds.hasWeights isVersion ⟨chunks, isVersion, isExact⟩⟩
  · rw [if_neg asked] at steps
    cases steps

def stateAfter (state : SyncState) : List SyncAction → SyncState
  | [] => state
  | action :: rest =>
      stateAfter ((state.step overwriteArgs [] action).getD state) rest

theorem updateReturns_onePull {state : SyncState} {chunks : List NamedTensors}
    {targetVersion : Nat}
    (published : (state.step overwriteArgs [] (.publish chunks)).isSome = true)
    (pulled : ((stateAfter state [.publish chunks]).step overwriteArgs []
      (.pull 0 targetVersion none)).isSome = true)
    (finished : ((stateAfter state [.publish chunks, .pull 0 targetVersion none]).step
      overwriteArgs [] .finish).isSome = true) :
    UpdateReturns overwriteArgs [] chunks state
      (stateAfter state [.publish chunks, .pull 0 targetVersion none, .finish]) :=
  ⟨_, _, step_getD published,
    Reaches.start.next (show IsPull _ (.pull 0 targetVersion none) from trivial)
      (step_getD pulled), step_getD finished⟩

/-- The second update raises because its pull is killed inside a tensor; the third one returns. -/
def retriedSync : SyncState :=
  stateAfter (syncAfter 6) [.publish [[("w", [5, 6])]], .pull 0 3 none, .finish]

theorem updateWeights_afterKill :
    (retriedSync.hosts 0).checkpoint.applied = some retriedSync.trainer.weightVersion ∧
      HasWeights overwriteArgs (retriedSync.hosts 0).checkpoint.files [[("w", [5, 6])]] := by
  have may : MayPublish overwriteArgs (syncAfter 6) (.publish [[("w", [5, 6])]]) := by
    intro _
    have names : ∀ name ∈ (chunkNames [[("w", [3, 4])]]).flatten, name = "w" := by decide
    refine ⟨[[("w", [3, 4])]], by decide, by decide, ?_⟩
    exact
      { sameSize := fun name isName => by
          rw [names name isName]
          decide
        fits := fun _ name isName => by
          rw [names name isName]
          exact FitsWords.ofLength (by decide) (by decide)
        separates := fun isXor => nomatch isXor }
  have returns : UpdateReturns overwriteArgs [] [[("w", [5, 6])]] (syncAfter 6) retriedSync :=
    updateReturns_onePull (by decide) (by decide) (by decide)
  exact (updateWeights_afterFailures overwriteArgs [] 0 (fun _ => []) syncAfter_killed).1 _ _ may
    returns { actor := 0, hosts := [0] } (by decide) 0 (by decide)

/-- The second update raises before it writes a file, with its tensors in the snapshot; the retry
publishes a delta without tensors, returns, and leaves the host without a file. -/
def emptiedSync : SyncState :=
  stateAfter (syncAfter 4)
    [.failPublish [] [("w", [3, 4])], .publish [[("w", [3, 4])]], .pull 0 3 none, .finish]

theorem updateWeights_emptiesHosts :
    ∃ failed, (syncAfter 4).step overwriteArgs [] (.failPublish [] [("w", [3, 4])]) =
        some failed ∧
      UpdateReturns overwriteArgs [] [[("w", [3, 4])]] failed emptiedSync ∧
        (∃ engine ∈ emptiedSync.trainer.rolloutEngines, 0 ∈ engine.hosts) ∧
          (emptiedSync.hosts 0).checkpoint = { files := [], applied := some 3 } ∧
            ¬ HasWeights overwriteArgs (emptiedSync.hosts 0).checkpoint.files
              [[("w", [3, 4])]] := by
  refine ⟨_, rfl, ?_, by decide, by decide, ?_⟩
  · exact updateReturns_onePull (by decide) (by decide) (by decide)
  · intro weights
    have empty : (emptiedSync.hosts 0).checkpoint.files = [] := by decide
    rcases weights.loaded ("w", [3, 4]) (by decide) with ⟨locations, path, located, found, _⟩
    rw [empty] at located
    cases located
    cases found

end Vime.Backends.MegatronUtils.DiskDelta
