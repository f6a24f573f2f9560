import Vime.Ray.ReplayWindow

/-! # Calls that settle

A method settles when the journal describes a window before each of its effects, and the window
of the process itself after the last.
-/

namespace Vime.Ray

open Vime.Foundation

section Settles

variable {Pins Ref Source : Type} (store : PinStore Pins Ref) (s0 : Nat)
  (saveDir : Option String)

structure StoresHold (stores : Stores Pins Ref) : Prop where
  accepted : stores.collections.map Prod.fst = List.range' s0 stores.collections.length
  committed : ∀ step ∈ stores.committed,
    step < s0 + stores.collections.length ∧ (s0 ≤ step → saveDir.getD "" ≠ "")

/-- Nothing is accepted before the load has selected the first rollout. -/
structure Unloaded (stores : Stores Pins Ref) (recovery : TrainingRecovery Ref Source) :
    Prop where
  loaded : recovery.loaded = false
  batches : recovery.batches = []
  checkpointStep : recovery.checkpointStep = none
  collections : stores.collections = []

structure Keeps (late : Nat) (stores : Stores Pins Ref)
    (recovery : TrainingRecovery Ref Source) : Prop where
  save : recovery.checkpoint.save = saveDir
  window : Unloaded stores recovery ∨
    ∃ start behind, behind ≤ late ∧ Window store s0 stores start behind recovery

structure JournalHolds (durable : Durable Pins Ref Source) : Prop where
  stores : StoresHold s0 saveDir durable.stores
  none : durable.journal = none → durable.stores.collections = []
  some : ∀ recovery, durable.journal = some recovery →
    Keeps store s0 saveDir 1 durable.stores recovery

/-- Between two calls the journal is what the process has. -/
structure Idle (late : Nat) (durable : Durable Pins Ref Source)
    (recovery : TrainingRecovery Ref Source) : Prop where
  stores : StoresHold s0 saveDir durable.stores
  keeps : Keeps store s0 saveDir late durable.stores recovery
  saved : durable.journal = some recovery ∨
    durable.journal = none ∧ recovery.loaded = false

/-- The journal holds before each of the effects, and after them the process is idle. -/
def Settles (late : Nat) (durable : Durable Pins Ref Source)
    (recovery : TrainingRecovery Ref Source) : List (Effect Ref Source) → Prop
  | [] => Idle store s0 saveDir late durable recovery
  | effect :: rest => JournalHolds store s0 saveDir durable ∧
      Settles late (effect.run store (durable, recovery)).1
        (effect.run store (durable, recovery)).2 rest

variable {store s0 saveDir} {stores later : Stores Pins Ref} {late behind rolloutId start : Nat}
  {durable : Durable Pins Ref Source} {recovery : TrainingRecovery Ref Source}

namespace StoresHold

theorem completeCollection (holds : StoresHold s0 saveDir stores) (raw : RawRolloutRef Ref) :
    StoresHold s0 saveDir
      (stores.completeCollection (s0 + stores.collections.length) raw) := by
  constructor
  · simp only [Stores.completeCollection, List.map_append, holds.accepted, List.length_append,
      List.length_singleton, List.range'_1_concat]
    rfl
  · intro step member
    rcases holds.committed step member with ⟨accepted, hasSave⟩
    refine ⟨?_, hasSave⟩
    simp only [Stores.completeCollection, List.length_append, List.length_singleton]
    omega

theorem commit (holds : StoresHold s0 saveDir stores) {step : Nat}
    (accepted : step ∈ stores.collections.map Prod.fst) (hasSave : saveDir.getD "" ≠ "") :
    StoresHold s0 saveDir (stores.commit step) := by
  refine ⟨holds.accepted, ?_⟩
  intro other member
  rcases List.mem_cons.mp member with isStep | isOlder
  · rw [holds.accepted, List.mem_range'_1] at accepted
    rw [isStep]
    exact ⟨accepted.2, fun _ => hasSave⟩
  · exact holds.committed other isOlder

/-- Only the collections and the committed steps matter. -/
theorem of_same (holds : StoresHold s0 saveDir stores)
    (collections : later.collections = stores.collections)
    (committed : later.committed = stores.committed) : StoresHold s0 saveDir later := by
  constructor
  · rw [collections, holds.accepted]
  · rw [collections, committed]
    exact holds.committed

end StoresHold

namespace Keeps

theorem mono (keeps : Keeps store s0 saveDir late stores recovery) (more : late ≤ behind) :
    Keeps store s0 saveDir behind stores recovery := by
  refine ⟨keeps.save, ?_⟩
  rcases keeps.window with unloaded | ⟨start, few, bounded, window⟩
  · exact .inl unloaded
  · exact .inr ⟨start, few, Nat.le_trans bounded more, window⟩

theorem loadedWindow (keeps : Keeps store s0 saveDir late stores recovery)
    (loaded : recovery.loaded = true) :
    ∃ start behind, behind ≤ late ∧ Window store s0 stores start behind recovery := by
  rcases keeps.window with unloaded | isWindow
  · rw [unloaded.loaded] at loaded
    cases loaded
  · exact isWindow

/-- A change of the stores that every window survives. -/
theorem of_window (keeps : Keeps store s0 saveDir late stores recovery)
    (collections : later.collections = stores.collections)
    (window : ∀ start behind, Window store s0 stores start behind recovery →
      Window store s0 later start behind recovery) :
    Keeps store s0 saveDir late later recovery := by
  refine ⟨keeps.save, ?_⟩
  rcases keeps.window with unloaded | ⟨start, few, bounded, isWindow⟩
  · exact .inl ⟨unloaded.loaded, unloaded.batches, unloaded.checkpointStep,
      collections.trans unloaded.collections⟩
  · exact .inr ⟨start, few, bounded, window start few isWindow⟩

end Keeps

namespace Idle

theorem journal (idle : Idle store s0 saveDir late durable recovery)
    (loaded : recovery.loaded = true) : durable.journal = some recovery := by
  rcases idle.saved with saved | ⟨_, unloaded⟩
  · exact saved
  · rw [loaded] at unloaded
    cases unloaded

theorem journalHolds (idle : Idle store s0 saveDir late durable recovery) (atMostOne : late ≤ 1) :
    JournalHolds store s0 saveDir durable := by
  refine ⟨idle.stores, ?_, ?_⟩
  · intro noJournal
    rcases idle.saved with saved | ⟨_, unloaded⟩
    · rw [noJournal] at saved
      cases saved
    · rcases idle.keeps.window with nothing | ⟨_, _, _, window⟩
      · exact nothing.collections
      · rw [window.loaded] at unloaded
        cases unloaded
  · intro other isJournal
    rcases idle.saved with saved | ⟨noJournal, _⟩
    · rw [isJournal] at saved
      rw [Option.some.inj saved]
      exact idle.keeps.mono atMostOne
    · rw [isJournal] at noJournal
      cases noJournal

end Idle

/-! ## Lists of effects -/

namespace Settles

theorem journalHolds {effects : List (Effect Ref Source)} (atMostOne : late ≤ 1)
    (settles : Settles store s0 saveDir late durable recovery effects) :
    JournalHolds store s0 saveDir durable := by
  cases effects with
  | nil => exact Idle.journalHolds settles atMostOne
  | cons _ _ => exact settles.1

theorem append {effects more : List (Effect Ref Source)} :
    ∀ {durable : Durable Pins Ref Source} {recovery : TrainingRecovery Ref Source},
      Settles store s0 saveDir late durable recovery effects →
      (Idle store s0 saveDir late (runEffects store effects (durable, recovery)).1
          (runEffects store effects (durable, recovery)).2 →
        Settles store s0 saveDir behind (runEffects store effects (durable, recovery)).1
          (runEffects store effects (durable, recovery)).2 more) →
      Settles store s0 saveDir behind durable recovery (effects ++ more) := by
  induction effects with
  | nil => exact fun settles next => next settles
  | cons effect rest induction => exact fun settles next => ⟨settles.1, induction settles.2 next⟩

theorem idle {effects : List (Effect Ref Source)} :
    ∀ {durable : Durable Pins Ref Source} {recovery : TrainingRecovery Ref Source},
      Settles store s0 saveDir late durable recovery effects →
      Idle store s0 saveDir late (runEffects store effects (durable, recovery)).1
        (runEffects store effects (durable, recovery)).2 := by
  induction effects with
  | nil => exact fun settles => settles
  | cons effect rest induction => exact fun settles => induction settles.2

theorem persisted (idle : Idle store s0 saveDir late durable recovery) (atMostOne : late ≤ 1)
    {change : TrainingRecovery Ref Source → TrainingRecovery Ref Source}
    (keeps : Keeps store s0 saveDir behind durable.stores (change recovery)) :
    Settles store s0 saveDir behind durable recovery [.update change, .persist] :=
  ⟨idle.journalHolds atMostOne, idle.journalHolds atMostOne, idle.stores, keeps, .inl rfl⟩

/-! ## A joint checkpoint at any time -/

theorem run_commit (effect : Effect Ref Source) (durable : Durable Pins Ref Source)
    (recovery : TrainingRecovery Ref Source) (step : Nat) :
    effect.run store ({ durable with stores := durable.stores.commit step }, recovery) =
      ({ (effect.run store (durable, recovery)).1 with
          stores := (effect.run store (durable, recovery)).1.stores.commit step },
        (effect.run store (durable, recovery)).2) := by
  cases effect with
  | completeCollection _ _ => rfl
  | readyBatch _ _ => rfl
  | retain _ _ => rfl
  | release _ _ => rfl
  | update _ => rfl
  | persist => rfl

theorem run_accepted (effect : Effect Ref Source) (durable : Durable Pins Ref Source)
    (recovery : TrainingRecovery Ref Source) {step : Nat}
    (accepted : step ∈ durable.stores.collections.map Prod.fst) :
    step ∈ (effect.run store (durable, recovery)).1.stores.collections.map Prod.fst := by
  cases effect with
  | completeCollection rolloutId raw =>
      rw [Effect.run, Stores.completeCollection, List.map_append]
      exact List.mem_append_left _ accepted
  | readyBatch _ _ => exact accepted
  | retain _ _ => exact accepted
  | release _ _ => exact accepted
  | update _ => exact accepted
  | persist => exact accepted

end Settles

theorem JournalHolds.commit (holds : JournalHolds store s0 saveDir durable) {step : Nat}
    (accepted : step ∈ durable.stores.collections.map Prod.fst)
    (hasSave : saveDir.getD "" ≠ "") :
    JournalHolds store s0 saveDir { durable with stores := durable.stores.commit step } :=
  ⟨holds.stores.commit accepted hasSave, holds.none, fun other isJournal =>
    (holds.some other isJournal).of_window rfl fun _ _ window => window.commit step⟩

theorem Settles.commit {effects : List (Effect Ref Source)} {step : Nat}
    (hasSave : saveDir.getD "" ≠ "") :
    ∀ {durable : Durable Pins Ref Source} {recovery : TrainingRecovery Ref Source},
      step ∈ durable.stores.collections.map Prod.fst →
      Settles store s0 saveDir late durable recovery effects →
      Settles store s0 saveDir late { durable with stores := durable.stores.commit step }
        recovery effects := by
  induction effects with
  | nil =>
      intro durable recovery accepted idle
      exact ⟨idle.stores.commit accepted hasSave,
        idle.keeps.of_window rfl fun _ _ window => window.commit step, idle.saved⟩
  | cons effect rest induction =>
      intro durable recovery accepted settles
      refine ⟨settles.1.commit accepted hasSave, ?_⟩
      rw [Settles.run_commit]
      exact induction (Settles.run_accepted effect durable recovery accepted) settles.2

/-! ## The methods -/

theorem saveSource_settles (idle : Idle store s0 saveDir late durable recovery)
    (atMostOne : late ≤ 1) (source : Option Source) :
    Settles store s0 saveDir late durable recovery
      [.update (TrainingRecovery.withSource source), .persist] := by
  apply Settles.persisted idle atMostOne
  refine ⟨idle.keeps.save, ?_⟩
  rcases idle.keeps.window with unloaded | ⟨start, behind, bounded, window⟩
  · exact .inl ⟨unloaded.loaded, unloaded.batches, unloaded.checkpointStep,
      unloaded.collections⟩
  · exact .inr ⟨start, behind, bounded, window.withSource source⟩

theorem initialLoadCompleted_settles (idle : Idle store s0 saveDir late durable recovery)
    (atMostOne : late ≤ 1) {startRolloutId : Nat}
    (isFirst : recovery.loaded = false → startRolloutId = s0) :
    Settles store s0 saveDir late durable recovery
      (initialLoadCompleted startRolloutId recovery) := by
  rw [initialLoadCompleted]
  by_cases loaded : recovery.loaded = true
  · rw [if_pos loaded]
    exact idle
  · rw [if_neg loaded, isFirst (Bool.eq_false_iff.mpr loaded)]
    apply Settles.persisted idle atMostOne
    refine ⟨idle.keeps.save, .inr ⟨s0, 0, Nat.zero_le _, ?_⟩⟩
    rcases idle.keeps.window with unloaded | ⟨_, _, _, window⟩
    · have batches : (recovery.withLoaded s0).batches = [] := unloaded.batches
      refine ⟨rfl, rfl, Nat.le_refl s0, ?_, ?_, ?_, .inl ⟨unloaded.checkpointStep, rfl⟩⟩
      · rw [batches]
        rfl
      · rw [batches, unloaded.collections]
        rfl
      · rw [batches]
        exact fun entry member => nomatch member
    · exact absurd window.loaded loaded

/-- The effects of `remember_raw` on a rollout that is not retained. -/
def rawEffects (rolloutId : Nat) (raw : RawRolloutRef Ref) (sourceState : Option Source) :
    List (Effect Ref Source) :=
  [.update (TrainingRecovery.withRaw rolloutId raw), .retain rolloutId [raw.manifest]] ++
    (match sourceState with
      | some source => [.update (TrainingRecovery.withSource (some source))]
      | none => []) ++ [.persist]

theorem rememberRaw_fresh (fresh : rolloutId ∉ recovery.batches.map Prod.fst)
    (raw : RawRolloutRef Ref) (sourceState : Option Source) :
    rememberRaw rolloutId raw sourceState recovery =
      .ok (rawEffects rolloutId raw sourceState) := by
  unfold rememberRaw
  rw [raiseIf, if_neg fresh]
  cases sourceState with
  | none => rfl
  | some _ => rfl

/-- A batch that the journal misses is pinned before it is remembered. -/
theorem rememberRaw_settles (lawful : store.Lawful)
    (idle : Idle store s0 saveDir 1 durable recovery)
    (window : Window store s0 durable.stores start 1 recovery) {raw : RawRolloutRef Ref}
    (isNext : rolloutId = start + recovery.batches.length)
    (accepted : durable.stores.collections.lookup rolloutId = some raw)
    (sourceState : Option Source) :
    rememberRaw rolloutId raw sourceState recovery =
        .ok (rawEffects rolloutId raw sourceState) ∧
      Settles store s0 saveDir 0 durable recovery (rawEffects rolloutId raw sourceState) := by
  have fresh : rolloutId ∉ recovery.batches.map Prod.fst := by
    rw [window.mem_keys]
    omega
  have pinned : Window store s0
      (durable.stores.retain store (recovery.incarnation, rolloutId) [raw.manifest]) start 1
      recovery :=
    window.retain lawful fun batch member => absurd (List.mem_map_of_mem member) fresh
  have isJournal := idle.journal window.loaded
  have before := idle.journalHolds (Nat.le_refl 1)
  have after : JournalHolds store s0 saveDir
      { durable with
        stores := durable.stores.retain store (recovery.incarnation, rolloutId)
          [raw.manifest] } := by
    refine ⟨idle.stores.of_same rfl rfl, before.none, ?_⟩
    intro other isOther
    rw [Option.some.inj (isOther.symm.trans isJournal)]
    exact ⟨idle.keeps.save, .inr ⟨start, 1, Nat.le_refl 1, pinned⟩⟩
  have complete : Window store s0
      (durable.stores.retain store (recovery.incarnation, rolloutId) [raw.manifest]) start 0
      (recovery.withRaw rolloutId raw) := by
    apply pinned.withRaw isNext accepted
    exact lawful.retain_own _ _ _ _ (List.mem_singleton_self _)
  have stores : StoresHold s0 saveDir
      (durable.stores.retain store (recovery.incarnation, rolloutId) [raw.manifest]) :=
    idle.stores.of_same rfl rfl
  refine ⟨rememberRaw_fresh fresh raw sourceState, ?_⟩
  cases sourceState with
  | none =>
      exact ⟨before, before, after, stores,
        ⟨idle.keeps.save, .inr ⟨start, 0, Nat.le_refl 0, complete⟩⟩, .inl rfl⟩
  | some source =>
      exact ⟨before, before, after, after, stores,
        ⟨idle.keeps.save, .inr ⟨start, 0, Nat.le_refl 0, complete.withSource _⟩⟩, .inl rfl⟩


/-! ### Conversions -/

section Conversions

variable [DecidableEq Ref] {batch : ReplayBatch Ref} {reference : Ref}

theorem mem_retainedRoots (raw : RawRolloutRef Ref) (reference : Ref) :
    raw.manifest ∈ retainedRoots raw reference ∧ reference ∈ retainedRoots raw reference := by
  rw [retainedRoots]
  split
  · rename_i same
    simp [same]
  · simp

/-- A conversion of the queue is pinned with its collection before it is remembered. -/
theorem rememberConverted_settles (lawful : store.Lawful)
    (idle : Idle store s0 saveDir late durable recovery) (atMostOne : late ≤ 1)
    (member : (rolloutId, batch) ∈ recovery.batches) (unconverted : batch.converted = none)
    (ready : durable.stores.conversions.lookup (batchIdOf batch.raw) = some reference) :
    Settles store s0 saveDir late durable recovery
      [.retain rolloutId (retainedRoots batch.raw reference),
        .update (TrainingRecovery.withConverted rolloutId reference (batchIdOf batch.raw)),
        .persist] := by
  rcases idle.keeps.window with unloaded | ⟨start, behind, bounded, window⟩
  · rw [unloaded.batches] at member
    cases member
  have pinned : Window store s0
      (durable.stores.retain store (recovery.incarnation, rolloutId)
        (retainedRoots batch.raw reference)) start behind recovery := by
    apply window.retain lawful
    intro other isHere
    rw [window.unique isHere member, unconverted]
    exact ⟨(mem_retainedRoots _ _).1, fun _ isConverted => nomatch isConverted⟩
  have converted := pinned.withConverted member ready
    (lawful.retain_own _ _ _ _ (mem_retainedRoots batch.raw reference).2)
  have isJournal := idle.journal window.loaded
  have before := idle.journalHolds atMostOne
  have after : JournalHolds store s0 saveDir
      { durable with
        stores := durable.stores.retain store (recovery.incarnation, rolloutId)
          (retainedRoots batch.raw reference) } := by
    refine ⟨idle.stores.of_same rfl rfl, before.none, ?_⟩
    intro other isOther
    rw [Option.some.inj (isOther.symm.trans isJournal)]
    exact ⟨idle.keeps.save, .inr ⟨start, behind, Nat.le_trans bounded atMostOne, pinned⟩⟩
  exact ⟨before, after, after, idle.stores.of_same rfl rfl,
    ⟨idle.keeps.save, .inr ⟨start, behind, bounded, converted⟩⟩, .inl rfl⟩

/-- What `reconcile_collection` does about one batch. -/
def conversionEffects (conversions : List (String × Ref)) (entry : Nat × ReplayBatch Ref) :
    List (Effect Ref Source) :=
  match entry.2.converted, conversions.lookup (batchIdOf entry.2.raw) with
  | none, some reference =>
      [.retain entry.1 (retainedRoots entry.2.raw reference),
        .update (TrainingRecovery.withConverted entry.1 reference (batchIdOf entry.2.raw)),
        .persist]
  | _, _ => []

/-- The conversion of the batch is what the queue has. -/
def IsReconciled (conversions : List (String × Ref)) (entry : Nat × ReplayBatch Ref) : Prop :=
  entry.2.converted = conversions.lookup (batchIdOf entry.2.raw)

/-- The process after it has reconciled its conversions. -/
structure Reconciled (conversions : List (String × Ref))
    (before after : Durable Pins Ref Source × TrainingRecovery Ref Source) : Prop where
  loaded : after.2.loaded = before.2.loaded
  checkpoint : after.2.checkpoint = before.2.checkpoint
  committed : after.1.stores.committed = before.1.stores.committed
  isReady : after.1.stores.conversions = conversions
  batches : ∀ entry ∈ after.2.batches, IsReconciled conversions entry

theorem reconcileConversions_eq (nodup : (recovery.batches.map Prod.fst).Nodup)
    (conversions : List (String × Ref)) :
    reconcileConversions conversions recovery =
      .ok (recovery.batches.flatMap (conversionEffects conversions)) := by
  have each : ∀ entry ∈ recovery.batches, reconcileConversion conversions recovery entry =
      .ok (conversionEffects conversions entry) := by
    intro entry member
    have found := (lookup_eq_some_iff nodup).mpr member
    rw [reconcileConversion, conversionEffects]
    cases entry.2.converted with
    | some _ => rfl
    | none =>
        cases conversions.lookup (batchIdOf entry.2.raw) with
        | none => rfl
        | some reference =>
            dsimp only
            rw [rememberConverted, found]
  have all : ∀ entries : List (Nat × ReplayBatch Ref),
      (∀ entry ∈ entries, entry ∈ recovery.batches) →
      entries.mapM (reconcileConversion conversions recovery) =
        .ok (entries.map (conversionEffects conversions)) := by
    intro entries
    induction entries with
    | nil => exact fun _ => rfl
    | cons entry rest induction =>
        intro members
        rw [List.mapM_cons, each entry (members entry List.mem_cons_self),
          induction fun other member => members other (List.mem_cons_of_mem _ member)]
        rfl
  rw [reconcileConversions, all _ fun _ member => member, List.flatMap]
  rfl

omit [DecidableEq Ref] in
theorem isReconciled_or_ready {conversions : List (String × Ref)}
    {entry : Nat × ReplayBatch Ref} {incarnation : String}
    (holds : EntryHolds store stores incarnation entry)
    (isReady : stores.conversions = conversions) :
    IsReconciled conversions entry ∨ entry.2.converted = none ∧
      ∃ reference, conversions.lookup (batchIdOf entry.2.raw) = some reference := by
  cases isConverted : entry.2.converted with
  | some reference =>
      rw [IsReconciled, ← isReady, (holds.converted reference isConverted).2.1]
      exact .inl isConverted
  | none =>
      cases ready : conversions.lookup (batchIdOf entry.2.raw) with
      | none =>
          rw [IsReconciled, ready]
          exact .inl isConverted
      | some reference => exact .inr ⟨rfl, reference, rfl⟩

theorem conversionEffects_reconciled {conversions : List (String × Ref)}
    {entry : Nat × ReplayBatch Ref} (isReconciled : IsReconciled conversions entry) :
    (conversionEffects conversions entry : List (Effect Ref Source)) = [] := by
  rw [conversionEffects]
  split
  · rename_i unconverted ready
    rw [IsReconciled, unconverted, ready] at isReconciled
    cases isReconciled
  · rfl

omit [DecidableEq Ref] in
theorem mem_withConverted {batchId : String} {changed : Nat × ReplayBatch Ref} :
    changed ∈ (recovery.withConverted rolloutId reference batchId).batches ↔
      (changed ∈ recovery.batches ∧ changed.1 ≠ rolloutId) ∨
        ∃ old, (rolloutId, old) ∈ recovery.batches ∧
          changed = (rolloutId,
            { old with converted := some reference, batchId := some batchId }) := by
  rw [TrainingRecovery.withConverted, List.mem_map]
  constructor
  · rintro ⟨⟨other, old⟩, isOld, rfl⟩
    by_cases same : other = rolloutId
    · rw [same] at isOld
      rw [if_pos same]
      exact .inr ⟨old, isOld, by rw [same]⟩
    · rw [if_neg same]
      exact .inl ⟨isOld, same⟩
  · rintro (⟨isOld, differs⟩ | ⟨old, isOld, rfl⟩)
    · exact ⟨changed, isOld, if_neg differs⟩
    · exact ⟨(rolloutId, old), isOld, if_pos rfl⟩

/-- Every batch without a conversion takes the one of the queue. -/
theorem conversions_settle (lawful : store.Lawful) (conversions : List (String × Ref)) :
    ∀ (entries : List (Nat × ReplayBatch Ref)) {durable : Durable Pins Ref Source}
      {recovery : TrainingRecovery Ref Source},
      Idle store s0 saveDir 0 durable recovery → durable.stores.conversions = conversions →
      (entries.map Prod.fst).Nodup → (∀ entry ∈ entries, entry ∈ recovery.batches) →
      (∀ entry ∈ recovery.batches, entry ∈ entries ∨ IsReconciled conversions entry) →
      Settles store s0 saveDir 0 durable recovery
          (entries.flatMap (conversionEffects conversions)) ∧
        Reconciled conversions (durable, recovery)
          (runEffects store (entries.flatMap (conversionEffects conversions))
            (durable, recovery)) := by
  intro entries
  induction entries with
  | nil =>
      intro durable recovery idle isReady _ _ covered
      refine ⟨idle, ⟨rfl, rfl, rfl, isReady, ?_⟩⟩
      intro entry member
      rcases covered entry member with inNil | isReconciled
      · cases inNil
      · exact isReconciled
  | cons entry rest induction =>
      intro durable recovery idle isReady nodup members covered
      rw [List.map_cons, List.nodup_cons] at nodup
      have member := members entry List.mem_cons_self
      rw [List.flatMap_cons, runEffects, List.foldl_append]
      rcases idle.keeps.window with unloaded | ⟨start, behind, _, window⟩
      · rw [unloaded.batches] at member
        cases member
      rcases isReconciled_or_ready (window.entries entry member) isReady with
        isReconciled | ⟨unconverted, reference, ready⟩
      · rw [conversionEffects_reconciled isReconciled]
        apply induction idle isReady nodup.2 fun other inRest =>
          members other (List.mem_cons_of_mem _ inRest)
        intro other isOther
        rcases covered other isOther with inEntries | already
        · rcases List.mem_cons.mp inEntries with isEntry | inRest
          · rw [isEntry]
            exact .inr isReconciled
          · exact .inl inRest
        · exact .inr already
      · rcases entry with ⟨rolloutId, batch⟩
        dsimp only at unconverted ready
        have effects : (conversionEffects conversions (rolloutId, batch) :
              List (Effect Ref Source)) =
            [.retain rolloutId (retainedRoots batch.raw reference),
              .update (TrainingRecovery.withConverted rolloutId reference
                (batchIdOf batch.raw)), .persist] := by
          rw [conversionEffects]
          dsimp only
          rw [unconverted, ready]
        have settles := rememberConverted_settles lawful idle (Nat.zero_le 1) member
          unconverted (isReady ▸ ready)
        have stillThere : ∀ other ∈ rest, other ∈ (recovery.withConverted rolloutId reference
            (batchIdOf batch.raw)).batches := by
          intro other inRest
          refine mem_withConverted.mpr
            (.inl ⟨members other (List.mem_cons_of_mem _ inRest), fun same => nodup.1 ?_⟩)
          exact List.mem_map.mpr ⟨other, inRest, same⟩
        have stillCovered : ∀ changed ∈ (recovery.withConverted rolloutId reference
            (batchIdOf batch.raw)).batches,
            changed ∈ rest ∨ IsReconciled conversions changed := by
          intro changed isChanged
          rcases mem_withConverted.mp isChanged with ⟨isOld, differs⟩ | ⟨old, isOld, rfl⟩
          · rcases covered changed isOld with inEntries | already
            · rcases List.mem_cons.mp inEntries with isEntry | inRest
              · rw [isEntry] at differs
                exact absurd rfl differs
              · exact .inl inRest
            · exact .inr already
          · rw [window.unique isOld member]
            exact .inr ready.symm
        have later := induction (Settles.idle settles) isReady nodup.2 stillThere stillCovered
        rw [effects]
        exact ⟨settles.append fun _ => later.1, ⟨later.2.loaded, later.2.checkpoint,
          later.2.committed, later.2.isReady, later.2.batches⟩⟩

end Conversions


theorem Window.nextRollout_eq (window : Window store s0 stores start late recovery) :
    nextRollout recovery = .ok (start + recovery.batches.length) := by
  have isMax : (List.range' start recovery.batches.length).max? =
      if recovery.batches.length = 0 then none
      else some (start + recovery.batches.length - 1) := by
    split
    · rename_i empty
      rw [empty]
      rfl
    · rw [List.max?_eq_some_iff]
      refine ⟨List.mem_range'_1.mpr (by omega), ?_⟩
      intro key member
      rw [List.mem_range'_1] at member
      omega
  rw [nextRollout, window.startIs]
  dsimp only
  rw [window.keys, isMax]
  split
  · rename_i isSome
    split at isSome
    · cases isSome
    · rw [← Option.some.inj isSome]
      congr 1
      omega
  · rename_i isNone
    split at isNone
    · rename_i empty
      rw [empty]
      rfl
    · cases isNone

/-- The collection that the journal misses, if there is one. -/
theorem Window.lookup_next (window : Window store s0 stores start late recovery)
    (holds : StoresHold s0 saveDir stores) (atMostOne : late ≤ 1) :
    (late = 0 ∧ stores.collections.lookup (start + recovery.batches.length) = none) ∨
      late = 1 ∧ ∃ raw,
        stores.collections.lookup (start + recovery.batches.length) = some raw := by
  have covers := window.covers
  have earlier := window.notBefore
  have isKey : start + recovery.batches.length ∈ stores.collections.map Prod.fst ↔ late = 1 := by
    rw [holds.accepted, List.mem_range'_1]
    omega
  cases found : stores.collections.lookup (start + recovery.batches.length) with
  | none =>
      rw [lookup_eq_none_iff, isKey] at found
      exact .inl ⟨by omega, rfl⟩
  | some raw =>
      exact .inr ⟨isKey.mp (List.mem_map_of_mem (mem_of_lookup found)), raw, rfl⟩

theorem reconcileCollection_settles [DecidableEq Ref] (lawful : store.Lawful)
    (idle : Idle store s0 saveDir late durable recovery) (atMostOne : late ≤ 1) :
    ∃ effects, reconcileCollection durable.stores.collections durable.stores.conversions recovery =
        .ok effects ∧
      Settles store s0 saveDir 0 durable recovery effects ∧
      Reconciled durable.stores.conversions (durable, recovery)
        (runEffects store effects (durable, recovery)) := by
  rcases idle.keeps.window with unloaded | ⟨start, behind, bounded, window⟩
  · refine ⟨[], ?_, ⟨idle.stores, ⟨idle.keeps.save, .inl unloaded⟩, idle.saved⟩, rfl, rfl, rfl,
      rfl, ?_⟩
    · rw [reconcileCollection, if_pos (by rw [unloaded.loaded]; decide)]
    · intro entry member
      rw [runEffects, List.foldl_nil, unloaded.batches] at member
      cases member
  have isNext := window.nextRollout_eq
  rcases window.lookup_next idle.stores (Nat.le_trans bounded atMostOne) with
    ⟨rfl, missing⟩ | ⟨rfl, raw, found⟩
  · have complete : Idle store s0 saveDir 0 durable recovery :=
      ⟨idle.stores, ⟨idle.keeps.save, .inr ⟨start, 0, Nat.le_refl 0, window⟩⟩, idle.saved⟩
    have later := conversions_settle lawful durable.stores.conversions recovery.batches complete
      rfl window.nodup (fun _ member => member) fun _ member => .inl member
    refine ⟨_, ?_, later⟩
    rw [reconcileCollection, if_neg (by rw [window.loaded]; decide), isNext, ok_bind, missing]
    exact reconcileConversions_eq window.nodup _
  · have oneLate : Idle store s0 saveDir 1 durable recovery :=
      ⟨idle.stores, ⟨idle.keeps.save, .inr ⟨start, 1, Nat.le_refl 1, window⟩⟩, idle.saved⟩
    rcases rememberRaw_settles lawful oneLate window rfl found none with
      ⟨remembers, settles⟩
    have complete := settles.idle
    rcases complete.keeps.loadedWindow window.loaded with ⟨_, _, _, later⟩
    have converted := conversions_settle lawful durable.stores.conversions _ complete rfl
      later.nodup (fun _ member => member) fun _ member => .inl member
    refine ⟨_, ?_, settles.append fun _ => converted.1, ?_⟩
    · rw [reconcileCollection, if_neg (by rw [window.loaded]; decide), isNext, ok_bind, found]
      dsimp only
      rw [remembers, ok_bind]
      have rest := reconcileConversions_eq later.nodup durable.stores.conversions
      have sameMemory : (runEffects store (rawEffects (start + recovery.batches.length) raw none)
          (durable, recovery)).2 = recovery.withRaw (start + recovery.batches.length) raw := rfl
      rw [sameMemory] at rest
      rw [rest]
      rfl
    · rw [runEffects, List.foldl_append]
      exact ⟨converted.2.loaded, converted.2.checkpoint, converted.2.committed,
        converted.2.isReady, converted.2.batches⟩


/-! ### Joint checkpoints -/

theorem run_releases (incarnation : String) (entries : List (Nat × ReplayBatch Ref)) :
    ∀ (durable : Durable Pins Ref Source) (recovery : TrainingRecovery Ref Source),
      let after := runEffects store
        (entries.map fun entry => Effect.release incarnation entry.1) (durable, recovery)
      after.2 = recovery ∧ after.1.stores.committed = durable.stores.committed := by
  induction entries with
  | nil => exact fun _ _ => ⟨rfl, rfl⟩
  | cons entry rest induction => exact fun durable recovery => induction _ recovery

theorem releases_settle (lawful : store.Lawful) (atMostOne : late ≤ 1) (incarnation : String)
    (entries : List (Nat × ReplayBatch Ref)) :
    ∀ {durable : Durable Pins Ref Source} {recovery : TrainingRecovery Ref Source},
      Idle store s0 saveDir late durable recovery →
      (∀ entry ∈ entries, entry.1 ∉ recovery.batches.map Prod.fst) →
      Settles store s0 saveDir late durable recovery
        (entries.map fun entry => .release incarnation entry.1) := by
  induction entries with
  | nil => exact fun idle _ => idle
  | cons entry rest induction =>
      intro durable recovery idle gone
      have keeps : Keeps store s0 saveDir late
          (durable.stores.release store (incarnation, entry.1)) recovery :=
        idle.keeps.of_window rfl fun _ _ window =>
          window.release lawful (gone entry List.mem_cons_self) incarnation
      exact ⟨idle.journalHolds atMostOne, induction ⟨idle.stores.of_same rfl rfl, keeps, idle.saved⟩
        fun other inRest => gone other (List.mem_cons_of_mem _ inRest)⟩

/-- A later boundary, of a step that is committed. -/
theorem checkpointCommitted_settles (lawful : store.Lawful)
    (idle : Idle store s0 saveDir late durable recovery) (atMostOne : late ≤ 1)
    {behind : Nat} (bounded : behind ≤ late)
    (window : Window store s0 durable.stores start behind recovery) (useStatelessAdam : Bool)
    {step : Nat} (committed : step ∈ durable.stores.committed) (own : s0 ≤ step)
    (notBefore : start ≤ step + 1) :
    Settles store s0 saveDir late durable recovery
      (checkpointCommitted useStatelessAdam step recovery) := by
  rcases window.withCommitted useStatelessAdam committed own notBefore
    (idle.stores.committed step committed).1 (Nat.le_trans bounded atMostOne) with
    ⟨few, fewer, later⟩
  have settles : Settles store s0 saveDir late durable recovery
      [.update (TrainingRecovery.withCommitted useStatelessAdam step), .persist] :=
    Settles.persisted idle atMostOne
      ⟨idle.keeps.save, .inr ⟨step + 1, few, Nat.le_trans fewer bounded, later⟩⟩
  apply settles.append
  intro after
  apply releases_settle lawful atMostOne _ _ after
  intro entry released isKept
  rcases List.mem_map.mp isKept with ⟨kept, inBatches, same⟩
  have small := (List.mem_filter.mp released).2
  have large := (List.mem_filter.mp inBatches).2
  rw [decide_eq_true_iff] at small large
  rw [same] at large
  exact large small

theorem Window.restoredStep_eq (window : Window store s0 stores start late recovery) :
    restoredStep recovery = (start : Int) - 1 := by
  rw [restoredStep]
  rcases window.boundary with ⟨noStep, _⟩ | ⟨step, _, _, isStep, isStart⟩
  · rw [noStep, window.startIs]
    rfl
  · rw [isStep, isStart]
    dsimp only
    omega

/-- No committed step is left to adopt. -/
def Adopted (stores : Stores Pins Ref) (recovery : TrainingRecovery Ref Source) : Prop :=
  ∀ start, recovery.checkpoint.startRolloutId = some start →
    ∀ step ∈ stores.committed, step < start

/-- Either no committed step lies behind the boundary, or the newest one is adopted. -/
theorem Window.reconcileCheckpoint_eq {durable : Durable Pins Ref Source}
    (window : Window store s0 durable.stores start late recovery)
    (holds : StoresHold s0 saveDir durable.stores) (save : recovery.checkpoint.save = saveDir)
    (useStatelessAdam : Bool) :
    (reconcileCheckpoint useStatelessAdam durable.stores.committed recovery = [] ∧
      ∀ step ∈ durable.stores.committed, step < start) ∨
    ∃ step ∈ durable.stores.committed, start ≤ step ∧
      (∀ other ∈ durable.stores.committed, other ≤ step) ∧
      reconcileCheckpoint useStatelessAdam durable.stores.committed recovery =
        checkpointCommitted useStatelessAdam step recovery := by
  rw [reconcileCheckpoint]
  by_cases noSave : recovery.checkpoint.save.getD "" = ""
  · rw [if_pos (.inr noSave)]
    refine .inl ⟨rfl, fun step member => ?_⟩
    have earlier := window.notBefore
    by_contra notBelow
    rw [save] at noSave
    exact (holds.committed step member).2 (by omega) noSave
  · rw [if_neg (by simp [window.loaded, noSave]), window.restoredStep_eq]
    cases isMax : durable.stores.committed.max? with
    | none =>
        rw [List.max?_eq_none_iff] at isMax
        rw [isMax]
        exact .inl ⟨rfl, fun _ member => nomatch member⟩
    | some step =>
        rcases List.max?_eq_some_iff.mp isMax with ⟨committed, newest⟩
        dsimp only
        by_cases isLater : (step : Int) > (start : Int) - 1
        · rw [if_pos isLater]
          exact .inr ⟨step, committed, by omega, newest, rfl⟩
        · rw [if_neg isLater]
          refine .inl ⟨rfl, fun other member => ?_⟩
          have small := newest other member
          omega

theorem run_checkpointCommitted (useStatelessAdam : Bool) (step : Nat)
    (durable : Durable Pins Ref Source) (recovery : TrainingRecovery Ref Source) :
    let after := runEffects store (checkpointCommitted useStatelessAdam step recovery)
      (durable, recovery)
    after.2 = recovery.withCommitted useStatelessAdam step ∧
      after.1.stores.committed = durable.stores.committed :=
  run_releases recovery.incarnation (recovery.batches.filter fun entry => entry.1 ≤ step)
    { durable with journal := some (recovery.withCommitted useStatelessAdam step) }
    (recovery.withCommitted useStatelessAdam step)

theorem reconcileCheckpoint_settles (lawful : store.Lawful)
    (idle : Idle store s0 saveDir late durable recovery) (atMostOne : late ≤ 1)
    (useStatelessAdam : Bool) :
    let effects := reconcileCheckpoint useStatelessAdam durable.stores.committed recovery
    let after := runEffects store effects (durable, recovery)
    Settles store s0 saveDir late durable recovery effects ∧
      after.2.loaded = recovery.loaded ∧
      (recovery.loaded = true → Adopted after.1.stores after.2) := by
  dsimp only
  rcases idle.keeps.window with unloaded | ⟨start, behind, bounded, window⟩
  · have nothing : reconcileCheckpoint useStatelessAdam durable.stores.committed recovery = [] := by
      rw [reconcileCheckpoint, if_pos (.inl (by rw [unloaded.loaded]; decide))]
    rw [nothing]
    refine ⟨idle, rfl, fun loaded => ?_⟩
    rw [unloaded.loaded] at loaded
    cases loaded
  · have earlier := window.notBefore
    rcases window.reconcileCheckpoint_eq idle.stores idle.keeps.save useStatelessAdam with
      ⟨nothing, below⟩ | ⟨step, committed, notBefore, newest, adopts⟩
    · rw [nothing]
      refine ⟨idle, rfl, fun _ other isStart step member => ?_⟩
      have same : other = start := Option.some.inj (isStart.symm.trans window.startIs)
      rw [same]
      exact below step member
    · rcases @run_checkpointCommitted _ _ _ store useStatelessAdam step durable recovery with
        ⟨memory, sameSteps⟩
      rw [adopts]
      refine ⟨checkpointCommitted_settles lawful idle atMostOne bounded window _ committed
        (by omega) (by omega), by rw [memory]; rfl, fun _ other isStart earlierStep member => ?_⟩
      rw [memory] at isStart
      rw [sameSteps] at member
      rw [← Option.some.inj isStart]
      exact Nat.lt_succ_of_le (newest earlierStep member)

theorem Reconciled.adopted {conversions : List (String × Ref)}
    {before after : Durable Pins Ref Source × TrainingRecovery Ref Source}
    (reconciled : Reconciled conversions before after)
    (adopted : Adopted before.1.stores before.2) : Adopted after.1.stores after.2 := by
  intro start isStart step member
  rw [reconciled.checkpoint] at isStart
  rw [reconciled.committed] at member
  exact adopted start isStart step member

end Settles

end Vime.Ray
