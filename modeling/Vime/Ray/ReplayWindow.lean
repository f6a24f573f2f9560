import Mathlib.Data.List.Nodup
import Vime.Ray.TrainingRecovery

/-! # The replay window

The process that owns the journal may die between any two effects of a method. What it leaves
describes the window of the accepted rollouts behind the boundary, of which at most the last is
missing: the invariant, and what every effect does to it.
-/

namespace Vime.Ray

open Vime.Foundation

section Window

variable {Pins Ref Source : Type} (store : PinStore Pins Ref) (s0 : Nat)
  (saveDir : Option String)

structure EntryHolds (stores : Stores Pins Ref) (incarnation : String)
    (entry : Nat × ReplayBatch Ref) : Prop where
  accepted : stores.collections.lookup entry.1 = some entry.2.raw
  rawRetained : store.Retained stores.pins (incarnation, entry.1) entry.2.raw.manifest
  converted : ∀ reference, entry.2.converted = some reference →
    entry.2.batchId = some (batchIdOf entry.2.raw) ∧
    stores.conversions.lookup (batchIdOf entry.2.raw) = some reference ∧
    store.Retained stores.pins (incarnation, entry.1) reference

/-- The batches of the accepted rollouts from `start`, of which the last `late` are missing. -/
structure Window (stores : Stores Pins Ref) (start late : Nat)
    (recovery : TrainingRecovery Ref Source) : Prop where
  loaded : recovery.loaded = true
  startIs : recovery.checkpoint.startRolloutId = some start
  notBefore : s0 ≤ start
  keys : recovery.batches.map Prod.fst = List.range' start recovery.batches.length
  covers : start + recovery.batches.length + late = s0 + stores.collections.length
  entries : ∀ entry ∈ recovery.batches, EntryHolds store stores recovery.incarnation entry
  boundary : recovery.checkpointStep = none ∧ start = s0 ∨
    ∃ step ∈ stores.committed, s0 ≤ step ∧ recovery.checkpointStep = some step ∧
      start = step + 1

/-! ## The effects -/

variable {store s0 saveDir} {stores later : Stores Pins Ref} {start late rolloutId : Nat}
  {recovery : TrainingRecovery Ref Source}

theorem EntryHolds.of_stores {incarnation : String} {entry : Nat × ReplayBatch Ref}
    (holds : EntryHolds store stores incarnation entry)
    (collections : ∀ raw, stores.collections.lookup entry.1 = some raw →
      later.collections.lookup entry.1 = some raw)
    (conversions : ∀ batchId reference, stores.conversions.lookup batchId = some reference →
      later.conversions.lookup batchId = some reference)
    (pins : ∀ ref, ref = entry.2.raw.manifest ∨ entry.2.converted = some ref →
      store.Retained stores.pins (incarnation, entry.1) ref →
        store.Retained later.pins (incarnation, entry.1) ref) :
    EntryHolds store later incarnation entry where
  accepted := collections _ holds.accepted
  rawRetained := pins _ (.inl rfl) holds.rawRetained
  converted := by
    intro reference isConverted
    rcases holds.converted reference isConverted with ⟨batchId, ready, retained⟩
    exact ⟨batchId, conversions _ _ ready, pins _ (.inr isConverted) retained⟩

namespace Window

theorem nodup (window : Window store s0 stores start late recovery) :
    (recovery.batches.map Prod.fst).Nodup := by
  rw [window.keys]
  exact List.nodup_range' 1

theorem mem_keys (window : Window store s0 stores start late recovery) :
    rolloutId ∈ recovery.batches.map Prod.fst ↔
      start ≤ rolloutId ∧ rolloutId < start + recovery.batches.length := by
  rw [window.keys, List.mem_range'_1]

theorem unique (window : Window store s0 stores start late recovery)
    {batch other : ReplayBatch Ref} (isBatch : (rolloutId, batch) ∈ recovery.batches)
    (isOther : (rolloutId, other) ∈ recovery.batches) : batch = other := by
  have found := (lookup_eq_some_iff window.nodup).mpr isBatch
  rw [(lookup_eq_some_iff window.nodup).mpr isOther] at found
  exact (Option.some.inj found).symm

/-- Stores that hold every entry as before. -/
theorem of_stores (window : Window store s0 stores start late recovery) {behind : Nat}
    (covers : start + recovery.batches.length + behind = s0 + later.collections.length)
    (committed : ∀ step ∈ stores.committed, step ∈ later.committed)
    (entries : ∀ entry ∈ recovery.batches, EntryHolds store stores recovery.incarnation entry →
      EntryHolds store later recovery.incarnation entry) :
    Window store s0 later start behind recovery where
  loaded := window.loaded
  startIs := window.startIs
  notBefore := window.notBefore
  keys := window.keys
  covers := covers
  entries := fun entry member => entries entry member (window.entries entry member)
  boundary := by
    rcases window.boundary with ⟨none, isStart⟩ | ⟨step, member, own, isStep, isStart⟩
    · exact .inl ⟨none, isStart⟩
    · exact .inr ⟨step, committed step member, own, isStep, isStart⟩

theorem completeCollection (window : Window store s0 stores start 0 recovery)
    (raw : RawRolloutRef Ref) :
    Window store s0 (stores.completeCollection rolloutId raw) start 1 recovery := by
  apply window.of_stores
  · have covers := window.covers
    simp only [Stores.completeCollection, List.length_append, List.length_singleton]
    omega
  · exact fun _ member => member
  · intro entry _ holds
    apply holds.of_stores
    · intro found isFound
      rw [Stores.completeCollection, List.lookup_append, isFound]
      rfl
    · exact fun _ _ ready => ready
    · exact fun _ _ retained => retained

theorem readyBatch (window : Window store s0 stores start late recovery) (batchId : String)
    (reference : Ref) :
    Window store s0 (stores.readyBatch batchId reference) start late recovery := by
  apply window.of_stores
  · exact window.covers
  · exact fun _ member => member
  · intro entry _ holds
    apply holds.of_stores
    · exact fun _ isFound => isFound
    · intro other found ready
      rw [Stores.readyBatch, List.lookup_append, ready]
      rfl
    · exact fun _ _ retained => retained

theorem commit (window : Window store s0 stores start late recovery) (step : Nat) :
    Window store s0 (stores.commit step) start late recovery := by
  apply window.of_stores
  · exact window.covers
  · exact fun _ member => List.mem_cons_of_mem _ member
  · intro entry _ holds
    exact holds.of_stores (fun _ isFound => isFound) (fun _ _ ready => ready)
      fun _ _ retained => retained

theorem retain (lawful : store.Lawful) (window : Window store s0 stores start late recovery)
    {roots : List Ref}
    (own : ∀ batch, (rolloutId, batch) ∈ recovery.batches →
      batch.raw.manifest ∈ roots ∧ ∀ ref, batch.converted = some ref → ref ∈ roots) :
    Window store s0 (stores.retain store (recovery.incarnation, rolloutId) roots) start late
      recovery := by
  apply window.of_stores
  · exact window.covers
  · exact fun _ member => member
  · intro entry member holds
    apply holds.of_stores
    · exact fun _ isFound => isFound
    · exact fun _ _ ready => ready
    · intro ref isRoot retained
      rcases entry with ⟨other, batch⟩
      by_cases same : other = rolloutId
      · rw [same] at member ⊢
        apply lawful.retain_own
        rcases isRoot with isRaw | isConverted
        · rw [isRaw]
          exact (own batch member).1
        · exact (own batch member).2 ref isConverted
      · apply lawful.retain_other _ _ _ _ _ _ retained
        exact fun equal => same (Prod.mk.inj equal).2

theorem release (lawful : store.Lawful) (window : Window store s0 stores start late recovery)
    (gone : rolloutId ∉ recovery.batches.map Prod.fst) (incarnation : String) :
    Window store s0 (stores.release store (incarnation, rolloutId)) start late recovery := by
  apply window.of_stores
  · exact window.covers
  · exact fun _ member => member
  · intro entry member holds
    apply holds.of_stores
    · exact fun _ isFound => isFound
    · exact fun _ _ ready => ready
    · intro ref _ retained
      apply lawful.release_other _ _ _ _ _ retained
      intro equal
      apply gone
      rw [← (Prod.mk.inj equal).2]
      exact List.mem_map_of_mem member

/-! ## The assignments -/

theorem withSource (window : Window store s0 stores start late recovery)
    (source : Option Source) :
    Window store s0 stores start late (recovery.withSource source) :=
  ⟨window.loaded, window.startIs, window.notBefore, window.keys, window.covers, window.entries,
    window.boundary⟩

theorem withRaw (window : Window store s0 stores start 1 recovery) {raw : RawRolloutRef Ref}
    (isNext : rolloutId = start + recovery.batches.length)
    (accepted : stores.collections.lookup rolloutId = some raw)
    (retained : store.Retained stores.pins (recovery.incarnation, rolloutId) raw.manifest) :
    Window store s0 stores start 0 (recovery.withRaw rolloutId raw) := by
  have fresh : rolloutId ∉ recovery.batches.map Prod.fst := by
    rw [window.mem_keys]
    omega
  have batches : (recovery.withRaw rolloutId raw).batches =
      recovery.batches ++ [(rolloutId, { raw := raw, converted := none, batchId := none })] :=
    setItem_fresh _ fresh
  have covers := window.covers
  refine ⟨window.loaded, window.startIs, window.notBefore, ?_, ?_, ?_, window.boundary⟩
  · rw [batches, List.map_append, window.keys, List.length_append, List.length_singleton,
      List.range'_1_concat, ← isNext]
    rfl
  · rw [batches, List.length_append, List.length_singleton]
    omega
  · intro entry member
    rw [batches, List.mem_append, List.mem_singleton] at member
    rcases member with older | isNew
    · exact window.entries entry older
    · rw [isNew]
      exact ⟨accepted, retained, fun _ isConverted => nomatch isConverted⟩

theorem withConverted (window : Window store s0 stores start late recovery)
    {batch : ReplayBatch Ref} {reference : Ref} (member : (rolloutId, batch) ∈ recovery.batches)
    (ready : stores.conversions.lookup (batchIdOf batch.raw) = some reference)
    (retained : store.Retained stores.pins (recovery.incarnation, rolloutId) reference) :
    Window store s0 stores start late
      (recovery.withConverted rolloutId reference (batchIdOf batch.raw)) := by
  have batches : (recovery.withConverted rolloutId reference (batchIdOf batch.raw)).batches =
      recovery.batches.map fun entry =>
        if entry.1 = rolloutId then
          (entry.1, { entry.2 with
            converted := some reference, batchId := some (batchIdOf batch.raw) })
        else entry := rfl
  have sameKeys : (recovery.withConverted rolloutId reference
      (batchIdOf batch.raw)).batches.map Prod.fst = recovery.batches.map Prod.fst := by
    rw [batches, List.map_map]
    apply List.map_congr_left
    intro entry _
    rw [Function.comp_apply]
    split
    · rfl
    · rfl
  refine ⟨window.loaded, window.startIs, window.notBefore, ?_, ?_, ?_, window.boundary⟩
  · rw [sameKeys, window.keys, batches, List.length_map]
  · rw [batches, List.length_map]
    exact window.covers
  · intro entry changed
    rw [batches, List.mem_map] at changed
    rcases changed with ⟨old, isOld, rfl⟩
    have holds := window.entries old isOld
    split
    · rename_i isHere
      have sameBatch : old.2 = batch := by
        rw [← isHere] at member
        exact window.unique isOld member
      refine ⟨holds.accepted, holds.rawRetained, ?_⟩
      intro converted isConverted
      dsimp only at isConverted ⊢
      rw [← Option.some.inj isConverted, isHere, sameBatch]
      exact ⟨rfl, ready, retained⟩
    · exact holds

theorem filter_range' (start count step : Nat) (notBefore : start ≤ step + 1) :
    (List.range' start count).filter (fun key => ¬ key ≤ step) =
      List.range' (step + 1) (start + count - (step + 1)) := by
  induction count with
  | zero =>
      rw [show start + 0 - (step + 1) = 0 by omega]
      rfl
  | succ count induction =>
      rw [List.range'_1_concat, List.filter_append, induction, List.filter_singleton]
      by_cases released : start + count ≤ step
      · rw [show start + count - (step + 1) = 0 by omega,
          show start + (count + 1) - (step + 1) = 0 by omega]
        simp [released]
      · rw [show start + (count + 1) - (step + 1) = start + count - (step + 1) + 1 by omega,
          List.range'_1_concat,
          show step + 1 + (start + count - (step + 1)) = start + count by omega]
        simp [released]

theorem withCommitted (window : Window store s0 stores start late recovery)
    (useStatelessAdam : Bool) {step : Nat} (committed : step ∈ stores.committed)
    (own : s0 ≤ step) (notBefore : start ≤ step + 1)
    (accepted : step < s0 + stores.collections.length) (atMostOne : late ≤ 1) :
    ∃ behind, behind ≤ late ∧ Window store s0 stores (step + 1) behind
      (recovery.withCommitted useStatelessAdam step) := by
  have batches : (recovery.withCommitted useStatelessAdam step).batches =
      recovery.batches.filter fun entry => ¬ entry.1 ≤ step := rfl
  have keys : (recovery.withCommitted useStatelessAdam step).batches.map Prod.fst =
      List.range' (step + 1) (start + recovery.batches.length - (step + 1)) := by
    rw [batches, ← filter_range' start _ step notBefore, ← window.keys, List.filter_map]
    rfl
  have length : (recovery.withCommitted useStatelessAdam step).batches.length =
      start + recovery.batches.length - (step + 1) := by
    rw [← List.length_map Prod.fst, keys, List.length_range']
  have covers := window.covers
  have earlier := window.notBefore
  refine ⟨s0 + stores.collections.length - (step + 1 +
    (start + recovery.batches.length - (step + 1))), by omega, window.loaded, rfl, by omega, ?_,
    ?_, ?_, .inr ⟨step, committed, own, rfl, rfl⟩⟩
  · rw [keys, length]
  · rw [length]
    omega
  · intro entry member
    rw [batches] at member
    exact window.entries entry (List.mem_of_mem_filter member)

end Window

end Window

end Vime.Ray
