import Vime.Backends.MegatronUtils.UpdateWeight.WeightSync

/-! # Pulled weights

Every published version is a full one or a delta on the published version below it, and a host
has recorded a version only if its files are between that version and the next one, or a full
version above it was asked for. A pull that returns therefore has the published weights.
-/

namespace Vime.Backends.MegatronUtils.DiskDelta

open Vime.Foundation
open Vime.Utils

abbrev PublishedChunks := List (Nat × List NamedTensors)

/-! ## Published versions -/

structure IsDeltaOn (args : Args) (versions : Versions) (base : Nat)
    (last next : List NamedTensors) : Prop where
  sameNames : chunkNames next = chunkNames last
  deltable : Deltable args (chunkNames last) (chunkValue last) (chunkValue next)
  directory : versions.lookup (base + 1) =
    some (deltaDirectory args (base + 1) (chunkNames last) (chunkValue last) (chunkValue next))

structure PublishedVersion (args : Args) (versions : Versions) (published : PublishedChunks)
    (version : Nat) (chunks : List NamedTensors) : Prop where
  distinct : (chunks.flatten.map Prod.fst).Nodup
  filled : filledChunks chunks ≠ []
  positive : 0 < version
  directory : versions.lookup version = some (writtenFiles args chunks) ∨
    ∃ base last, version = base + 1 ∧ published.lookup base = some last ∧
      IsDeltaOn args versions base last chunks

def WellPublished (args : Args) (versions : Versions) (published : PublishedChunks) : Prop :=
  ∀ version chunks, published.lookup version = some chunks →
    PublishedVersion args versions published version chunks

section Scan

variable {args : Args} {versions : Versions} {published : PublishedChunks}

theorem isDelta_full {version : Nat} {chunks : List NamedTensors}
    (distinct : (chunks.flatten.map Prod.fst).Nodup)
    (directory : versions.lookup version = some (writtenFiles args chunks)) :
    isDelta versions version = .ok false := by
  rw [isDelta, directory, writtenFiles_eq args distinct]
  dsimp only
  rw [lookup_index]

theorem isDelta_delta {base : Nat} {last next : List NamedTensors}
    (delta : IsDeltaOn args versions base last next) :
    isDelta versions (base + 1) = .ok true := by
  rcases lookup_deltaIndex args (chunkNames last) (chunkValue last) (chunkValue next) (base + 1)
    with ⟨weightMap, isIndex⟩
  rw [isDelta, delta.directory]
  dsimp only
  rw [isIndex]

/-- The version that the scan from `target` stops at. -/
structure ScansTo (args : Args) (versions : Versions) (published : PublishedChunks)
    (floor start target : Nat) : Prop where
  scanned : scanStart versions floor target = .ok start
  above : floor ≤ start
  below : start ≤ target
  isPublished : ∃ chunks, published.lookup start = some chunks
  stops : start = floor ∨ ∃ chunks, published.lookup start = some chunks ∧
    versions.lookup start = some (writtenFiles args chunks)
  deltas : ∀ base, start ≤ base → base < target → ∃ last next,
    published.lookup base = some last ∧ published.lookup (base + 1) = some next ∧
      IsDeltaOn args versions base last next

theorem scanStart_scans (wellPublished : WellPublished args versions published) {floor : Nat} :
    ∀ {target : Nat} {chunks : List NamedTensors}, published.lookup target = some chunks →
      floor ≤ target → ∃ start, ScansTo args versions published floor start target := by
  intro target
  induction target with
  | zero =>
      intro chunks isPublished
      exact absurd (wellPublished 0 chunks isPublished).positive (Nat.lt_irrefl 0)
  | succ version induction =>
      intro chunks isPublished above
      have here := wellPublished _ chunks isPublished
      by_cases isFloor : version + 1 > floor
      · rcases here.directory with isFull | ⟨base, last, isNext, basePublished, delta⟩
        · refine ⟨version + 1,
            { scanned := ?_
              above := above
              below := Nat.le_refl _
              isPublished := ⟨chunks, isPublished⟩
              stops := .inr ⟨chunks, isPublished, isFull⟩
              deltas := fun base high low => absurd low (Nat.not_lt.mpr high) }⟩
          rw [scanStart, if_pos isFloor, isDelta_full here.distinct isFull, ok_bind]
          rfl
        · have sameBase : base = version := by omega
          subst sameBase
          rcases induction basePublished (Nat.lt_succ_iff.mp isFloor) with ⟨start, scans⟩
          refine ⟨start,
            { scans with
              scanned := ?_
              below := Nat.le_succ_of_le scans.below
              deltas := ?_ }⟩
          · rw [scanStart, if_pos isFloor, isDelta_delta delta, ok_bind, if_pos rfl]
            exact scans.scanned
          · intro other high low
            rcases Nat.lt_or_eq_of_le (Nat.lt_succ_iff.mp low) with earlier | isLast
            · exact scans.deltas other high earlier
            · rw [isLast]
              exact ⟨last, chunks, basePublished, isPublished, delta⟩
      · have isFloor : version + 1 = floor := Nat.le_antisymm (Nat.not_lt.mp isFloor) above
        refine ⟨version + 1,
          { scanned := ?_
            above := above
            below := Nat.le_refl _
            isPublished := ⟨chunks, isPublished⟩
            stops := .inl isFloor
            deltas := fun base high low => absurd low (Nat.not_lt.mpr high) }⟩
        rw [scanStart, if_neg (by omega)]

end Scan

/-! ## Files of a host -/

def HoldsVersion (args : Args) (versions : Versions) (published : PublishedChunks)
    (target version : Nat) (chunks : List NamedTensors) (files : Directory) : Prop :=
  SameFiles files (checkpointFiles args (chunkNames chunks) (chunkValue chunks)) ∨
    version < target ∧ ∃ next current, published.lookup (version + 1) = some next ∧
      IsDeltaOn args versions version chunks next ∧
      BetweenVersions (chunkNames chunks) (chunkValue chunks) (chunkValue next) current ∧
      SameFiles files (checkpointFiles args (chunkNames chunks) current)

structure HostHolds (args : Args) (versions : Versions) (published : PublishedChunks)
    (host : Host) : Prop where
  asked : host.target = 0 ∨ ∃ chunks, published.lookup host.target = some chunks
  recorded : ∀ version, host.checkpoint.applied = some version → version ≤ host.target ∧
    ∃ chunks, published.lookup version = some chunks ∧
      (HoldsVersion args versions published host.target version chunks host.checkpoint.files ∨
        ∃ full, version < full ∧ full ≤ host.target ∧ ∃ fullChunks,
          published.lookup full = some fullChunks ∧
            versions.lookup full = some (writtenFiles args fullChunks))
  returnedBelow : host.returned ≤ host.target
  returned : host.returned = host.target → 0 < host.returned →
    host.checkpoint.applied = some host.returned ∧
      ∃ chunks, published.lookup host.returned = some chunks ∧
        SameFiles host.checkpoint.files
          (checkpointFiles args (chunkNames chunks) (chunkValue chunks))

section Pull

variable {args : Args} {versions : Versions} {published : PublishedChunks}

structure AppliesDeltas (args : Args) (versions : Versions) (published : PublishedChunks)
    (start target : Nat) (clean : Prop) (after : LocalCheckpoint × PullOutcome) : Prop where
  returned : after.2 = .returned → after.1.applied = some target ∧
    ∃ chunks, published.lookup target = some chunks ∧
      SameFiles after.1.files (checkpointFiles args (chunkNames chunks) (chunkValue chunks))
  stopped : after.2 ≠ .returned → ∃ version chunks, start ≤ version ∧ version < target ∧
    after.1.applied = some version ∧ published.lookup version = some chunks ∧
      HoldsVersion args versions published target version chunks after.1.files
  returns : clean → after.2 = .returned

/-- The deltas above a version, one after the other. Only the first one can meet a mixture. -/
theorem applyDeltas_applies (wellPublished : WellPublished args versions published)
    (kill : Option KillPoint) (target count : Nat) :
    ∀ (start : Nat) (checkpoint : LocalCheckpoint) {chunks : List NamedTensors},
      start + count = target → published.lookup start = some chunks →
      checkpoint.applied = some start →
      HoldsVersion args versions published target start chunks checkpoint.files →
      (∀ base, start ≤ base → base < target → ∃ last next,
        published.lookup base = some last ∧ published.lookup (base + 1) = some next ∧
          IsDeltaOn args versions base last next) →
      AppliesDeltas args versions published start target
        (kill = none ∧ (args.deltaEncoding = .overwrite ∨ SameFiles checkpoint.files
          (checkpointFiles args (chunkNames chunks) (chunkValue chunks))))
        (applyDeltas args.checksum versions kill (List.range' (start + 1) count) checkpoint) := by
  induction count with
  | zero =>
      intro start checkpoint chunks isTarget isPublished applied holds _
      rw [Nat.add_zero] at isTarget
      have isExact : SameFiles checkpoint.files
          (checkpointFiles args (chunkNames chunks) (chunkValue chunks)) := by
        rcases holds with isExact | ⟨below, _⟩
        · exact isExact
        · omega
      exact
        { returned := fun _ => ⟨isTarget ▸ applied, chunks, isTarget ▸ isPublished, isExact⟩
          stopped := fun notReturned => absurd rfl notReturned
          returns := fun _ => rfl }
  | succ count induction =>
      intro start checkpoint chunks isTarget isPublished applied holds deltas
      rcases deltas start (Nat.le_refl start) (by omega) with
        ⟨last, next, lastPublished, nextPublished, delta⟩
      have sameLast : last = chunks := by
        rw [lastPublished, Option.some.injEq] at isPublished
        exact isPublished
      subst sameLast
      have distinct : (chunkNames last).flatten.Nodup := by
        rw [chunkNames_flatten]
        exact (wellPublished start last isPublished).distinct
      -- The files before the first delta, with the values of some mixture.
      have mixture : ∃ current,
          BetweenVersions (chunkNames last) (chunkValue last) (chunkValue next) current ∧
          SameFiles checkpoint.files (checkpointFiles args (chunkNames last) current) ∧
          (SameFiles checkpoint.files
              (checkpointFiles args (chunkNames last) (chunkValue last)) →
            ∀ name ∈ (chunkNames last).flatten, current name = chunkValue last name) := by
        rcases holds with isExact | ⟨_, other, current, otherPublished, _, between, isMixture⟩
        · exact ⟨chunkValue last, fun name isName =>
            Mixture.ofOld (delta.deltable.sameSize name isName), isExact, fun _ _ _ => rfl⟩
        · have sameNext : other = next := by
            rw [nextPublished, Option.some.injEq] at otherPublished
            exact otherPublished.symm
          subst sameNext
          refine ⟨current, between, isMixture, fun isExact name isName => ?_⟩
          have both := (readTensor_checkpoint distinct isMixture isName).symm.trans
            (readTensor_checkpoint distinct isExact isName)
          exact Option.some.inj both
      rcases mixture with ⟨current, between, isMixture, whenExact⟩
      have first := applyDelta_applies distinct delta.deltable between delta.directory applied
        isMixture (KillPoint.cut kill (start + 1))
      rw [List.range'_succ, applyDeltas]
      split
      · rename_i later isLater
        rw [isLater] at first
        rcases first.returned rfl with ⟨laterApplied, isNew⟩
        have laterExact : SameFiles later.files
            (checkpointFiles args (chunkNames next) (chunkValue next)) := by
          rw [delta.sameNames]
          exact isNew
        have rest := induction (start + 1) later (by omega) nextPublished laterApplied
          (.inl laterExact) fun base high low => deltas base (by omega) low
        exact
          { returned := rest.returned
            stopped := fun notReturned => by
              rcases rest.stopped notReturned with ⟨version, found, high, more⟩
              exact ⟨version, found, by omega, more⟩
            returns := fun clean => rest.returns ⟨clean.1, .inr laterExact⟩ }
      · rename_i notReturned
        have stops : (applyDelta args.checksum versions (start + 1)
            (KillPoint.cut kill (start + 1)) checkpoint).2 ≠ .returned := by
          intro isReturned
          exact notReturned _ (Prod.ext rfl isReturned)
        rcases first.stopped stops with ⟨stillApplied, left, isBetween, isLeft⟩
        exact
          { returned := fun isReturned => absurd isReturned stops
            stopped := fun _ => ⟨start, last, Nat.le_refl start, by omega, stillApplied,
              isPublished, .inr ⟨by omega, next, left, nextPublished, delta, isBetween, isLeft⟩⟩
            returns := fun clean => by
              refine absurd (first.returns ?_ ?_) stops
              · rw [clean.1]
                rfl
              · exact clean.2.imp_right whenExact }

structure PullsTo (args : Args) (versions : Versions) (published : PublishedChunks)
    (target : Nat) (before : LocalCheckpoint) (clean : Prop)
    (after : LocalCheckpoint × PullOutcome) : Prop where
  returned : after.2 = .returned → after.1.applied = some target ∧
    ∃ chunks, published.lookup target = some chunks ∧
      SameFiles after.1.files (checkpointFiles args (chunkNames chunks) (chunkValue chunks))
  stopped : after.2 ≠ .returned →
    (∃ version chunks, version < target ∧ after.1.applied = some version ∧
      published.lookup version = some chunks ∧
        HoldsVersion args versions published target version chunks after.1.files) ∨
    after.1.applied = before.applied ∧ ∀ version, before.applied = some version →
      ∃ full, version < full ∧ full ≤ target ∧ ∃ fullChunks,
        published.lookup full = some fullChunks ∧
          versions.lookup full = some (writtenFiles args fullChunks)
  returns : clean → after.2 = .returned

/-- Starting from a full version, whatever the checkpoint has. -/
theorem resetThenApply_pulls (wellPublished : WellPublished args versions published)
    (baseDir : Directory) (kill : Option KillPoint) {floor start target : Nat}
    {chunks : List NamedTensors} (scans : ScansTo args versions published floor start target)
    (isPublished : published.lookup start = some chunks)
    (isFull : versions.lookup start = some (writtenFiles args chunks))
    (checkpoint : LocalCheckpoint)
    (below : ∀ version, checkpoint.applied = some version → version < start) :
    ∃ seed, seedDir baseDir versions start = .ok seed ∧
      PullsTo args versions published target checkpoint (kill = none)
        (resetThenApply args.checksum versions kill start target checkpoint seed) := by
  have here := wellPublished start chunks isPublished
  refine ⟨writtenFiles args chunks, ?_, ?_⟩
  · rw [seedDir, if_neg (Nat.pos_iff_ne_zero.mp here.positive), isFull]
  · have isReset : SameFiles
        (resetCheckpoint (writtenFiles args chunks) start checkpoint).files
        (checkpointFiles args (chunkNames chunks) (chunkValue chunks)) := by
      rw [writtenFiles_eq args here.distinct]
      exact resetCheckpoint_files nodup_checkpointFiles start checkpoint
    have applies := applyDeltas_applies wellPublished kill target (target - start) start
      (resetCheckpoint (writtenFiles args chunks) start checkpoint)
      (Nat.add_sub_cancel' scans.below) isPublished rfl (.inl isReset) scans.deltas
    have pulls : PullsTo args versions published target checkpoint (kill = none)
        (applyDeltas args.checksum versions kill (List.range' (start + 1) (target - start))
          (resetCheckpoint (writtenFiles args chunks) start checkpoint)) :=
      { returned := applies.returned
        stopped := fun notReturned => by
          rcases applies.stopped notReturned with ⟨version, found, _, more⟩
          exact .inl ⟨version, found, more⟩
        returns := fun isNone => applies.returns ⟨isNone, .inr isReset⟩ }
    cases kill with
    | none => exact pulls
    | some point =>
        cases point with
        | patching version written => exact pulls
        | copying left =>
            exact
              { returned := fun isReturned => nomatch isReturned
                stopped := fun _ => .inr ⟨rfl, fun version applied =>
                  ⟨start, below version applied, scans.below, chunks, isPublished, isFull⟩⟩
                returns := fun isNone => nomatch isNone }

theorem ScansTo.delta {floor start target : Nat}
    (scans : ScansTo args versions published floor start target) {version : Nat}
    (above : start < version) (atMost : version ≤ target) :
    isDelta versions version = .ok true := by
  rcases scans.deltas (version - 1) (by omega) (by omega) with ⟨_, _, _, _, delta⟩
  have isNext := isDelta_delta delta
  rwa [Nat.sub_add_cancel (by omega)] at isNext

/-- A pull copies a full version above the record, or starts from the record if only deltas
stand above it. -/
inductive PullStart (args : Args) (versions : Versions) (published : PublishedChunks)
    (target : Nat) (checkpoint : LocalCheckpoint) : Prop
  | copied {start : Nat} {chunks : List NamedTensors} :
      ScansTo args versions published (checkpoint.applied.getD 0) start target →
        published.lookup start = some chunks →
          versions.lookup start = some (writtenFiles args chunks) →
            (∀ version, checkpoint.applied = some version → version < start) →
              PullStart args versions published target checkpoint
  | recorded {version : Nat} {chunks : List NamedTensors} :
      checkpoint.applied = some version → published.lookup version = some chunks →
        ScansTo args versions published version version target →
          HoldsVersion args versions published target version chunks checkpoint.files →
            PullStart args versions published target checkpoint

theorem copies_of_below {checkpoint : LocalCheckpoint} {start : Nat}
    (below : ∀ version, checkpoint.applied = some version → version < start) :
    checkpoint.applied = none ∨ start > checkpoint.applied.getD 0 := by
  cases applied : checkpoint.applied with
  | none => exact .inl rfl
  | some version => exact .inr (below version applied)

theorem HostHolds.pullStart (wellPublished : WellPublished args versions published)
    {host : Host} (holds : HostHolds args versions published host)
    {target : Nat} {chunks : List NamedTensors}
    (isPublished : published.lookup target = some chunks) (above : host.target ≤ target) :
    PullStart args versions published target host.checkpoint := by
  cases applied : host.checkpoint.applied with
  | none =>
      rcases scanStart_scans wellPublished isPublished (Nat.zero_le target) with ⟨start, scans⟩
      rcases scans.isPublished with ⟨startChunks, startPublished⟩
      have positive := (wellPublished start startChunks startPublished).positive
      rcases scans.stops with isFloor | ⟨fullChunks, fullPublished, isFull⟩
      · omega
      · refine .copied (by rwa [applied]) fullPublished isFull ?_
        intro version isApplied
        rw [applied] at isApplied
        cases isApplied
  | some version =>
      rcases holds.recorded version applied with ⟨atMost, own, ownPublished, holding⟩
      rcases scanStart_scans wellPublished isPublished (Nat.le_trans atMost above) with
        ⟨start, scans⟩
      rcases Nat.lt_or_eq_of_le scans.above with higher | isFloor
      · rcases scans.stops with isFloor | ⟨fullChunks, fullPublished, isFull⟩
        · omega
        · refine .copied (by rwa [applied]) fullPublished isFull ?_
          intro other isApplied
          rw [applied, Option.some.injEq] at isApplied
          omega
      · subst isFloor
        refine .recorded applied ownPublished scans ?_
        rcases holding with holdsHere | ⟨full, after, atTarget, fullChunks, fullPublished, isFull⟩
        · rcases holdsHere with isExact | ⟨below, more⟩
          · exact .inl isExact
          · exact .inr ⟨Nat.lt_of_lt_of_le below above, more⟩
        · have notDelta := isDelta_full
            (wellPublished full fullChunks fullPublished).distinct isFull
          rw [scans.delta after (Nat.le_trans atTarget above)] at notDelta
          cases notDelta

/-- A pull of a published version that is not below the ones asked for before. -/
theorem pullCheckpoint_pulls (wellPublished : WellPublished args versions published)
    (baseDir : Directory) {host : Host} (holds : HostHolds args versions published host)
    {target : Nat} {chunks : List NamedTensors}
    (isPublished : published.lookup target = some chunks) (above : host.target ≤ target)
    (kill : Option KillPoint) :
    PullsTo args versions published target host.checkpoint
      (kill = none ∧ (args.deltaEncoding = .overwrite ∨ host.checkpoint.applied = none ∨
        ∃ version full, host.checkpoint.applied = some version ∧ version < full ∧
          full ≤ target ∧ isDelta versions full = .ok false))
      (pullCheckpoint args.checksum baseDir versions target kill host.checkpoint) := by
  cases holds.pullStart wellPublished isPublished above with
  | copied scans startPublished isFull below =>
      rcases resetThenApply_pulls wellPublished baseDir kill scans startPublished isFull
        host.checkpoint below with ⟨seed, isSeed, pulls⟩
      rw [pullCheckpoint, scans.scanned]
      dsimp only
      rw [if_pos (copies_of_below below), isSeed]
      exact { pulls with returns := fun clean => pulls.returns clean.1 }
  | @recorded version own applied ownPublished scans holdsOwn =>
      have applies := applyDeltas_applies wellPublished kill target (target - version) version
        host.checkpoint (Nat.add_sub_cancel' scans.below) ownPublished applied holdsOwn
        scans.deltas
      rw [pullCheckpoint, applied]
      dsimp only [Option.getD_some]
      rw [scans.scanned]
      dsimp only
      rw [if_neg (by simp)]
      exact
        { returned := applies.returned
          stopped := fun notReturned => by
            rcases applies.stopped notReturned with ⟨later, found, _, more⟩
            exact .inl ⟨later, found, more⟩
          returns := fun clean => by
            apply applies.returns
            refine ⟨clean.1, ?_⟩
            rcases clean.2 with isOverwrite | isNone |
              ⟨other, full, isOther, after, atTarget, notDelta⟩
            · exact .inl isOverwrite
            · cases isNone
            · rw [← Option.some.inj isOther] at after
              rw [scans.delta after atTarget] at notDelta
              cases notDelta }

theorem pullCheckpoint_applied (checksum : String → List UInt8 → String) (baseDir : Directory)
    (kill : Option KillPoint) {checkpoint : LocalCheckpoint} {target : Nat}
    (applied : checkpoint.applied = some target) :
    pullCheckpoint checksum baseDir versions target kill checkpoint = (checkpoint, .returned) := by
  have scanned : scanStart versions target target = .ok target := by
    cases target with
    | zero => rfl
    | succ version => rw [scanStart, if_neg (Nat.lt_irrefl _)]
  rw [pullCheckpoint, applied]
  dsimp only [Option.getD_some]
  rw [scanned]
  dsimp only
  rw [if_neg (by simp), Nat.sub_self]
  rfl

theorem HostHolds.pull (wellPublished : WellPublished args versions published)
    {baseDir : Directory} {host : Host} (holds : HostHolds args versions published host)
    {target : Nat} {chunks : List NamedTensors}
    (isPublished : published.lookup target = some chunks) (above : host.target ≤ target)
    (kill : Option KillPoint) :
    HostHolds args versions published (SyncState.pulledHost host target
      (pullCheckpoint args.checksum baseDir versions target kill host.checkpoint)) := by
  have pulls := pullCheckpoint_pulls wellPublished baseDir holds isPublished above kill
  rw [SyncState.pulledHost]
  by_cases isReturned :
      (pullCheckpoint args.checksum baseDir versions target kill host.checkpoint).2 = .returned
  · rcases pulls.returned isReturned with ⟨applied, found, foundPublished, isExact⟩
    rw [if_pos isReturned]
    refine
      { asked := .inr ⟨chunks, isPublished⟩
        recorded := fun version isApplied => ?_
        returnedBelow := Nat.le_refl target
        returned := fun _ _ => ⟨applied, found, foundPublished, isExact⟩ }
    have isTarget : version = target := Option.some.inj (isApplied.symm.trans applied)
    rw [isTarget]
    exact ⟨Nat.le_refl target, found, foundPublished, .inl (.inl isExact)⟩
  · rw [if_neg isReturned]
    refine
      { asked := .inr ⟨chunks, isPublished⟩
        recorded := fun version isApplied => ?_
        returnedBelow := Nat.le_trans holds.returnedBelow above
        returned := fun isTarget positive => ?_ }
    · rcases pulls.stopped isReturned with
        ⟨later, found, below, laterApplied, laterPublished, holding⟩ | ⟨unchanged, fullAbove⟩
      · have isLater : version = later := Option.some.inj (isApplied.symm.trans laterApplied)
        rw [isLater]
        exact ⟨Nat.le_of_lt below, found, laterPublished, .inl holding⟩
      · have before := unchanged.symm.trans isApplied
        rcases holds.recorded version before with ⟨atMost, own, ownPublished, _⟩
        exact ⟨Nat.le_trans atMost above, own, ownPublished, .inr (fullAbove version before)⟩
    · have sameTarget : host.returned = host.target :=
        Nat.le_antisymm holds.returnedBelow (isTarget ▸ above)
      have applied := (holds.returned sameTarget positive).1
      rw [isTarget] at applied
      rw [pullCheckpoint_applied args.checksum baseDir kill applied] at isReturned
      exact absurd rfl isReturned

/-- Later publications change nothing for a host. -/
theorem HostHolds.extend {laterVersions : Versions} {laterPublished : PublishedChunks}
    (publishedKept : ∀ version chunks, published.lookup version = some chunks →
      laterPublished.lookup version = some chunks)
    (versionsKept : ∀ version directory, versions.lookup version = some directory →
      laterVersions.lookup version = some directory)
    {host : Host} (holds : HostHolds args versions published host) :
    HostHolds args laterVersions laterPublished host := by
  refine
    { asked := ?_
      recorded := fun version applied => ?_
      returnedBelow := holds.returnedBelow
      returned := fun isTarget positive => ?_ }
  · rcases holds.asked with isZero | ⟨chunks, found⟩
    · exact .inl isZero
    · exact .inr ⟨chunks, publishedKept _ _ found⟩
  · rcases holds.recorded version applied with ⟨atMost, chunks, isPublished, holding⟩
    refine ⟨atMost, chunks, publishedKept _ _ isPublished, ?_⟩
    rcases holding with holdsHere | ⟨full, after, atTarget, fullChunks, fullPublished, isFull⟩
    · left
      rcases holdsHere with isExact | ⟨below, next, current, nextPublished, delta, more⟩
      · exact .inl isExact
      · exact .inr ⟨below, next, current, publishedKept _ _ nextPublished,
          { delta with directory := versionsKept _ _ delta.directory }, more⟩
    · exact .inr ⟨full, after, atTarget, fullChunks, publishedKept _ _ fullPublished,
        versionsKept _ _ isFull⟩
  · rcases holds.returned isTarget positive with ⟨applied, chunks, isPublished, isExact⟩
    exact ⟨applied, chunks, publishedKept _ _ isPublished, isExact⟩

end Pull

end Vime.Backends.MegatronUtils.DiskDelta
