import Vime.Data.Bundles

/-! # The batches handed to the store

`publish_many` hands the store the publications of its values in order, cut into batches. An
integer dependency of a publication still denotes the publication of the same value that was
meant, in the same batch or by the reference that the store returned for it.
-/

namespace Vime.Data

open Vime.Foundation

variable {State Ref Record : Type}

/-- Batches as they were handed to the store, with the references that it returned. -/
abbrev Handed (Ref Record : Type) := List (List (Publication Ref Record) × List Ref)

def PayloadStore.recording (store : PayloadStore State Ref Record) :
    PayloadStore (State × Handed Ref Record) Ref Record where
  publishMany := fun state batch submissionId => do
    let published ← store.publishMany state.1 batch submissionId
    pure (published.1, published.2, state.2 ++ [(batch, published.1)])
  manifest := fun state ref => store.manifest state.1 ref

/-! ## The loop -/

/-- The batches hold the publications in order, placed against the references `refs` of what was
handed over before. -/
inductive CutInto (maxRecords : Nat) :
    List Ref → List (Publication Ref Record) → Handed Ref Record → Prop
  | done (refs : List Ref) : CutInto maxRecords refs [] []
  | batch {refs published : List Ref} {own rest batch : List (Publication Ref Record)}
      {later : Handed Ref Record}
      (small : (batch.map Publication.size).sum ≤ maxRecords)
      (placed : List.Forall₂ (fun publication held =>
        placePublication refs.length refs publication = .ok held) own batch)
      (returned : published.length = batch.length)
      (cut : CutInto maxRecords (refs ++ published) rest later) :
      CutInto maxRecords refs (own ++ rest) ((batch, published) :: later)

namespace CutInto

variable {maxRecords : Nat} {refs : List Ref} {publications : List (Publication Ref Record)}
  {handed : Handed Ref Record}

theorem sizes (cut : CutInto maxRecords refs publications handed) :
    ∀ entry ∈ handed, (entry.1.map Publication.size).sum ≤ maxRecords := by
  induction cut with
  | done => simp
  | batch small _ _ _ induction =>
      rw [List.forall_mem_cons]
      exact ⟨small, induction⟩

theorem returned (cut : CutInto maxRecords refs publications handed) :
    ∀ entry ∈ handed, entry.2.length = entry.1.length := by
  induction cut with
  | done => simp
  | batch _ _ returned _ induction =>
      rw [List.forall_mem_cons]
      exact ⟨returned, induction⟩

theorem records (cut : CutInto maxRecords refs publications handed) :
    (handed.flatMap Prod.fst).map Publication.records =
      publications.map Publication.records := by
  induction cut with
  | done => rfl
  | batch _ placed _ _ induction =>
      rw [List.flatMap_cons, List.map_append, List.map_append, induction]
      congr 1
      rw [← List.forall₂_eq_eq_eq, List.forall₂_map_left_iff, List.forall₂_map_right_iff]
      exact placed.flip.imp fun held publication isPlaced => (placePublication_eq_ok.mp isPlaced).1

/-- The publication at a place of a batch is the one at that place of the list, placed against
the references returned for the batches before. -/
theorem placedAt (cut : CutInto maxRecords refs publications handed)
    {earlier later : Handed Ref Record} {batch : List (Publication Ref Record)}
    {published : List Ref} (parts : handed = earlier ++ (batch, published) :: later)
    {place : Nat} {held : Publication Ref Record} (isHeld : batch[place]? = some held) :
    ∃ own, publications[(earlier.flatMap Prod.fst).length + place]? = some own ∧
      placePublication (refs ++ earlier.flatMap Prod.snd).length
        (refs ++ earlier.flatMap Prod.snd) own = .ok held := by
  induction cut generalizing earlier with
  | done => simp at parts
  | @batch refs new own rest first others _ placed returned _ induction =>
      cases earlier with
      | nil =>
          rw [List.nil_append, List.cons.injEq, Prod.mk.injEq] at parts
          rcases parts with ⟨⟨rfl, rfl⟩, rfl⟩
          rcases forall₂_getElem?_right placed isHeld with ⟨source, isSource, isPlaced⟩
          refine ⟨source, ?_, by simpa using isPlaced⟩
          have inside := (List.getElem?_eq_some_iff.mp isSource).1
          simpa [List.getElem?_append_left inside] using isSource
      | cons entry before =>
          rw [List.cons_append, List.cons.injEq] at parts
          rcases parts with ⟨rfl, parts⟩
          rcases induction parts with ⟨source, isSource, isPlaced⟩
          refine ⟨source, ?_, ?_⟩
          · have sameLength := placed.length_eq
            rw [List.flatMap_cons, List.length_append, ← sameLength,
              List.getElem?_append_right (by omega), Nat.add_assoc, Nat.add_sub_cancel_left]
            exact isSource
          · rw [List.flatMap_cons, ← List.append_assoc]
            exact isPlaced

end CutInto

section Loop

variable {store : PayloadStore State Ref Record} {maxRecords : Nat}

/-- The loop over a recording store does what it does over the store, and the record is a cut of
the publications into batches. -/
theorem publishFrom_cutInto (lawful : store.Lawful maxRecords) {submissionId : String} :
    ∀ {fuel : Nat} {done rest : List (Publication Ref Record)} {refs published : List Ref}
      {state after : State} (handed : Handed Ref Record),
      rest.length ≤ fuel → Publishable maxRecords (done ++ rest) → refs.length = done.length →
      publishFrom store maxRecords submissionId fuel done.length rest refs state =
        .ok (published, after) →
      ∃ more, publishFrom store.recording maxRecords submissionId fuel done.length rest refs
            (state, handed) = .ok (published, after, handed ++ more) ∧
          published = refs ++ more.flatMap Prod.snd ∧ CutInto maxRecords refs rest more
  | 0, done, rest, refs, published, state, after, handed, enough, _, _, ran => by
      have nothing : rest = [] := List.length_eq_zero_iff.mp (Nat.le_zero.mp enough)
      rw [publishFrom, Except.ok.injEq, Prod.mk.injEq] at ran
      rw [nothing, ← ran.1, ← ran.2]
      exact ⟨[], by simp [publishFrom], by simp, .done refs⟩
  | fuel + 1, done, [], refs, published, state, after, handed, _, _, _, ran => by
      rw [publishFrom, List.isEmpty_nil, if_pos rfl, Except.ok.injEq, Prod.mk.injEq] at ran
      rw [← ran.1, ← ran.2]
      exact ⟨[], by simp [publishFrom], by simp, .done refs⟩
  | fuel + 1, done, publication :: rest, refs, published, state, after, handed, enough,
      publishable, sameLength, ran => by
      rw [publishFrom, List.isEmpty_cons, if_neg (by simp)] at ran
      rcases bind_eq_ok.mp ran with ⟨batch, placed, more⟩
      rcases bind_eq_ok.mp more with ⟨⟨new, middle⟩, accepted, later⟩
      have within := batchLength_le maxRecords (publication :: rest)
      have taken : ((publication :: rest).take
          (batchLength maxRecords (publication :: rest))).length =
          batchLength maxRecords (publication :: rest) := List.length_take_of_le within
      have parts := List.take_append_drop (batchLength maxRecords (publication :: rest))
        (publication :: rest)
      have related := (mapM_eq_ok _ _ _).mp placed
      have isAcceptable := acceptable_batch publishable related
      have returned := (lawful.stored isAcceptable accepted).length_eq.symm
      have shorter : ((publication :: rest).drop
          (batchLength maxRecords (publication :: rest))).length ≤ fuel := by
        rw [List.length_drop, batchLength]
        rw [List.length_cons] at enough ⊢
        omega
      have nextLength : (refs ++ new).length = (done ++ (publication :: rest).take
          (batchLength maxRecords (publication :: rest))).length := by
        rw [List.length_append, List.length_append, sameLength, returned, related.length_eq]
      dsimp only at later
      rw [← taken, ← List.length_append, taken] at later
      rcases publishFrom_cutInto lawful (handed ++ [(batch, new)]) shorter
        (by rw [List.append_assoc, parts]; exact publishable) nextLength later with
          ⟨others, recorded, isPublished, cut⟩
      refine ⟨(batch, new) :: others, ?_, ?_, ?_⟩
      · rw [publishFrom, List.isEmpty_cons, if_neg (by simp)]
        dsimp only
        rw [placed, ok_bind, PayloadStore.recording]
        dsimp only
        rw [accepted, ok_bind, pure_eq_ok, ok_bind]
        rw [List.length_append, taken, PayloadStore.recording, List.append_assoc] at recorded
        exact recorded
      · rw [isPublished, List.flatMap_cons, List.append_assoc]
      · rw [← parts]
        rw [← sameLength] at related
        rw [acceptable, Bool.and_eq_true, decide_eq_true_iff] at isAcceptable
        exact .batch isAcceptable.1 related returned cut

end Loop

/-! ## The publications of the values -/

section Values

variable {maxRecords : Nat}

/-- The publications of the values, their positions counted from `offset`. -/
def shiftedFrom (maxRecords : Nat) : Nat → List (Visited Ref Record) → List (Publication Ref Record)
  | _, [] => []
  | offset, visited :: rest =>
      (visited.prepare maxRecords).map (Publication.shift offset) ++
        shiftedFrom maxRecords (offset + (visited.prepare maxRecords).length) rest

/-- The publications prepared for the values before the next one. -/
def preparedCount (maxRecords : Nat) (values : List (Visited Ref Record)) : Nat :=
  (values.flatMap fun visited => visited.prepare maxRecords).length

theorem preparedCount_cons (visited : Visited Ref Record) (rest : List (Visited Ref Record)) :
    preparedCount maxRecords (visited :: rest) =
      (visited.prepare maxRecords).length + preparedCount maxRecords rest := by
  rw [preparedCount, preparedCount, List.flatMap_cons, List.length_append]

theorem shiftedFrom_records (offset : Nat) (values : List (Visited Ref Record)) :
    (shiftedFrom maxRecords offset values).map Publication.records =
      (values.flatMap fun visited => visited.prepare maxRecords).map Publication.records := by
  induction values generalizing offset with
  | nil => rfl
  | cons visited rest induction =>
      rw [shiftedFrom, List.flatMap_cons, List.map_append, List.map_append, induction,
        List.map_map]
      rfl

/-- Publication `index` of a value stands behind those of the values before it. -/
theorem shiftedFrom_getElem? {before behind : List (Visited Ref Record)}
    {visited : Visited Ref Record} (offset : Nat) {index : Nat} {own : Publication Ref Record}
    (isOwn : (visited.prepare maxRecords)[index]? = some own) :
    (shiftedFrom maxRecords offset (before ++ visited :: behind))[preparedCount maxRecords before +
        index]? =
      some (own.shift (offset + preparedCount maxRecords before)) := by
  have inside := (List.getElem?_eq_some_iff.mp isOwn).1
  induction before generalizing offset with
  | nil =>
      rw [List.nil_append, shiftedFrom, preparedCount, List.flatMap_nil, List.length_nil,
        Nat.zero_add, Nat.add_zero, List.getElem?_append_left (by rw [List.length_map]; exact inside),
        List.getElem?_map, isOwn, Option.map_some]
  | cons first before induction =>
      rw [List.cons_append, shiftedFrom, preparedCount_cons,
        List.getElem?_append_right (by rw [List.length_map]; omega), List.length_map,
        Nat.add_assoc, Nat.add_sub_cancel_left, induction, Nat.add_assoc]

/-- The root of each value is its last publication. -/
def rootsFrom (maxRecords : Nat) : Nat → List (Visited Ref Record) → List Nat
  | _, [] => []
  | offset, visited :: rest =>
      (offset + (visited.prepare maxRecords).length - 1) ::
        rootsFrom maxRecords (offset + (visited.prepare maxRecords).length) rest

theorem rootsFrom_getElem? {before behind : List (Visited Ref Record)}
    {visited : Visited Ref Record} (offset : Nat) :
    (rootsFrom maxRecords offset (before ++ visited :: behind))[before.length]? =
      some (offset + preparedCount maxRecords before + (visited.prepare maxRecords).length - 1) := by
  induction before generalizing offset with
  | nil => rfl
  | cons first before induction =>
      rw [List.cons_append, rootsFrom, List.length_cons, List.getElem?_cons_succ, induction,
        preparedCount_cons, Nat.add_assoc offset]

theorem bundle_eq (values : List (Visited Ref Record)) :
    bundle maxRecords values = (shiftedFrom maxRecords 0 values, rootsFrom maxRecords 0 values) := by
  have loop (values : List (Visited Ref Record)) :
      ∀ bundled : List (Publication Ref Record) × List Nat,
        values.foldl
          (fun bundled visited =>
            let publications := bundled.1 ++
              (visited.prepare maxRecords).map (Publication.shift bundled.1.length)
            (publications, bundled.2 ++ [publications.length - 1])) bundled =
          (bundled.1 ++ shiftedFrom maxRecords bundled.1.length values,
            bundled.2 ++ rootsFrom maxRecords bundled.1.length values) := by
    induction values with
    | nil => simp [shiftedFrom, rootsFrom]
    | cons visited rest induction =>
        intro bundled
        rw [List.foldl_cons, induction]
        simp [shiftedFrom, rootsFrom]
  have whole := loop values ([], [])
  rw [List.nil_append, List.nil_append] at whole
  exact whole

end Values

/-! ## What the store is handed -/

/-- What became of a dependency of publication `index` of a value whose publications stand behind
`offset` others, in a batch behind those that `refs` were returned for: a position denotes an
earlier publication of the same value, by its reference if it was handed over before, and by its
place if it is in the same batch. -/
def Dependency.Denotes (offset index : Nat) (refs : List Ref) :
    Dependency Ref → Dependency Ref → Prop
  | .stored ref, placed => placed = .stored ref
  | .position own, placed =>
      own < index ∧
        ((∃ ref, refs[offset + own]? = some ref ∧ placed = .stored ref) ∨
          (refs.length ≤ offset + own ∧ placed = .position (offset + own - refs.length)))

/-- The batches hold the publications of the values in order, none is too large, every dependency
denotes what it did where the value was prepared, and the returned references are those of the
roots. -/
structure HandsOver (maxRecords : Nat) (values : List (Visited Ref Record))
    (handed : Handed Ref Record) (roots : List Ref) : Prop where
  records : (handed.flatMap Prod.fst).map Publication.records =
    (values.flatMap fun visited => visited.prepare maxRecords).map Publication.records
  sizes : ∀ entry ∈ handed, (entry.1.map Publication.size).sum ≤ maxRecords
  returned : ∀ entry ∈ handed, entry.2.length = entry.1.length
  dependencies : ∀ (before : List (Visited Ref Record)) (visited : Visited Ref Record)
    (behind : List (Visited Ref Record)) (index : Nat) (own : Publication Ref Record)
    (earlier : Handed Ref Record) (batch : List (Publication Ref Record)) (published : List Ref)
    (later : Handed Ref Record) (place : Nat) (publication : Publication Ref Record),
    values = before ++ visited :: behind → (visited.prepare maxRecords)[index]? = some own →
    handed = earlier ++ (batch, published) :: later → batch[place]? = some publication →
    (earlier.flatMap Prod.fst).length + place = preparedCount maxRecords before + index →
    List.Forall₂
      (Dependency.Denotes (preparedCount maxRecords before) index (earlier.flatMap Prod.snd))
      own.dependencies publication.dependencies
  roots : ∀ (before : List (Visited Ref Record)) (visited : Visited Ref Record)
    (behind : List (Visited Ref Record)), values = before ++ visited :: behind →
    ∃ ref, roots[before.length]? = some ref ∧
      (handed.flatMap Prod.snd)[preparedCount maxRecords before +
        ((visited.prepare maxRecords).length - 1)]? = some ref

theorem denotes_of_placed {offset index : Nat} {refs : List Ref} {dependency placed : Dependency Ref}
    (isPlaced : placeDependency refs.length refs (dependency.shift offset) = .ok placed)
    (backwards : ∀ position, dependency = .position position → position < index) :
    dependency.Denotes offset index refs placed := by
  cases dependency with
  | stored ref => exact (Except.ok.inj isPlaced).symm
  | position position =>
      refine ⟨backwards position rfl, ?_⟩
      rw [Dependency.shift, Nat.add_comm, placeDependency] at isPlaced
      split at isPlaced
      · rcases map_eq_ok.mp isPlaced with ⟨ref, found, rfl⟩
        exact .inl ⟨ref, itemAt_eq_ok.mp found, rfl⟩
      · rename_i newer
        exact .inr ⟨Nat.le_of_not_lt newer, (Except.ok.inj isPlaced).symm⟩

theorem CutInto.handsOver {maxRecords : Nat} (two : 2 ≤ maxRecords)
    {values : List (Visited Ref Record)} {handed : Handed Ref Record} {roots : List Ref}
    (cut : CutInto maxRecords [] (shiftedFrom maxRecords 0 values) handed)
    (rootsEq : List.Forall₂ (fun root ref => (handed.flatMap Prod.snd)[root]? = some ref)
      (rootsFrom maxRecords 0 values) roots) :
    HandsOver maxRecords values handed roots where
  records := cut.records.trans (shiftedFrom_records 0 values)
  sizes := cut.sizes
  returned := cut.returned
  dependencies := by
    intro before visited behind index own earlier batch published later place publication isValue
      isOwn parts isPublication samePlace
    rcases cut.placedAt parts isPublication with ⟨source, isSource, isPlaced⟩
    rw [isValue, samePlace, shiftedFrom_getElem? 0 isOwn, Option.some.injEq, Nat.zero_add]
      at isSource
    rw [← isSource, List.nil_append] at isPlaced
    have related := (placePublication_eq_ok.mp isPlaced).2
    rw [Publication.shift, List.forall₂_map_left_iff] at related
    have members := (List.forall₂_and_left own.dependencies _).mpr
      ⟨fun dependency member => member, related⟩
    refine members.imp ?_
    rintro dependency placed ⟨member, isPlaced⟩
    apply denotes_of_placed isPlaced
    intro position isPosition
    exact (visited.publishable two).earlier index own isOwn position (isPosition ▸ member)
  roots := by
    intro before visited behind isValue
    have isRoot := @rootsFrom_getElem? _ _ maxRecords before behind visited 0
    rw [← isValue] at isRoot
    rcases forall₂_getElem?_left rootsEq isRoot with ⟨ref, isRef, found⟩
    refine ⟨ref, isRef, ?_⟩
    have some : 0 < (visited.prepare maxRecords).length := by
      rw [Visited.prepare, List.length_append, List.length_singleton]
      omega
    rw [← found]
    congr 1
    omega

/-- What `publish_many` hands the store are the publications of its values in order, in batches
of at most `maxRecords`, with every dependency denoting what it did in its value; so a returned
reference leads to what publishing its value alone leads to. -/
theorem publishMany_handsOver {store : PayloadStore State Ref Record} {maxRecords : Nat}
    (two : 2 ≤ maxRecords) (lawful : store.Lawful maxRecords)
    (values : List (Visited Ref Record × String)) (state after : State) (refs : List Ref)
    (published : publishMany store maxRecords values state = .ok (refs, after)) :
    ∃ handed,
      publishMany store.recording maxRecords values (state, []) = .ok (refs, after, handed) ∧
      HandsOver maxRecords (values.map Prod.fst) handed refs ∧
      List.Forall₂ (fun value ref =>
        Preserves store maxRecords after value.1 ref ∧
          ∀ before alone own, publishMany store maxRecords [value] before = .ok ([own], alone) →
            Preserves store maxRecords alone value.1 own) values refs := by
  have preserved := (publishMany_stores two lawful published).1
  have bundled := bundle_bundled two (values.map Prod.fst)
  have publishable : Publishable maxRecords
      ([] ++ (bundle maxRecords (values.map Prod.fst)).1) := bundled.publishable
  rw [publishMany] at published
  rcases bind_eq_ok.mp published with ⟨first, isFirst, more⟩
  rcases bind_eq_ok.mp more with ⟨⟨all, final⟩, ran, more⟩
  rcases bind_eq_ok.mp more with ⟨roots, rootsEq, returned⟩
  rw [pure_eq_ok, Except.ok.injEq, Prod.mk.injEq] at returned
  rcases returned with ⟨rfl, rfl⟩
  rcases publishFrom_cutInto lawful [] (Nat.le_refl _) publishable rfl ran with
    ⟨handed, recorded, isAll, cut⟩
  rw [List.nil_append] at isAll recorded
  refine ⟨handed, ?_, ?_, ?_⟩
  · rw [publishMany, isFirst, ok_bind]
    have whole : publish store.recording maxRecords (bundle maxRecords (values.map Prod.fst)).1
        s!"bundle:{first}" (state, []) = .ok (all, final, handed) := recorded
    rw [whole, ok_bind, rootsEq, ok_bind]
    rfl
  · rw [bundle_eq] at cut rootsEq
    rw [mapM_eq_ok, isAll] at rootsEq
    exact cut.handsOver two (rootsEq.imp fun _ _ found => itemAt_eq_ok.mp found)
  · refine preserved.imp ?_
    intro value ref isPreserved
    refine ⟨isPreserved, ?_⟩
    intro before alone own ranAlone
    exact (List.forall₂_cons.mp (publishMany_stores two lawful ranAlone).1).1

/-- Two values whose four publications are handed over in three batches: either root stands in a
batch behind that of its blobs. -/
theorem publishMany_handsOverTwo :
    let values : List (Visited Nat (List Nat) × String) :=
      [({ blobs := [[1], [2], [3]], dependencies := [0],
          root := fun positions => positions.map BlobPosition.dependency }, "first"),
        ({ blobs := [[4]], dependencies := []
           root := fun positions => positions.map BlobPosition.ordinal }, "second")]
    ∃ refs after handed,
      publishMany (memoryStore (List Nat)) 5 values [{ records := [[9]], dependencies := [] }] =
          .ok (refs, after) ∧
        publishMany (memoryStore (List Nat)).recording 5 values
            ([{ records := [[9]], dependencies := [] }], []) = .ok (refs, after, handed) ∧
        HandsOver 5 (values.map Prod.fst) handed refs := by
  intro values
  have published : ∃ refs after, publishMany (memoryStore (List Nat)) 5 values
      [{ records := [[9]], dependencies := [] }] = .ok (refs, after) := ⟨_, _, rfl⟩
  rcases published with ⟨refs, after, ran⟩
  rcases publishMany_handsOver (by decide) (memoryStore_lawful (List Nat) 5) values _ after refs
    ran with ⟨handed, recorded, handsOver, _⟩
  exact ⟨refs, after, handed, ran, recorded, handsOver⟩

end Vime.Data
