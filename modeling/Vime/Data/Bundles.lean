import Mathlib.Algebra.Order.Ring.Nat
import Mathlib.Algebra.Order.Ring.Rat
import Vime.Data.Publications
import Vime.Foundation.Related

/-! # Bundled publication

Publishing several values together stores for each of them what publishing it
alone stores: the dependencies that are positions are shifted twice, by the
bundle and by the batch, and still lead to the same publication.
-/

namespace Vime.Data

open Vime.Foundation

variable {State Ref Record : Type}

/-! ## The store -/

/-- The dependency does not point to the publication at `index` or behind it. -/
def Dependency.before (index : Nat) : Dependency Ref → Bool
  | .position own => own < index
  | .stored _ => true

def acceptable (maxRecords : Nat) (batch : List (Publication Ref Record)) : Bool :=
  (batch.map Publication.size).sum ≤ maxRecords &&
    batch.zipIdx.all fun entry => entry.1.dependencies.all (Dependency.before entry.2)

def Dependency.resolve (refs : List Ref) : Dependency Ref → Option Ref
  | .position index => refs[index]?
  | .stored ref => some ref

def Stored (store : PayloadStore State Ref Record) (state : State) (refs : List Ref)
    (publication : Publication Ref Record) (ref : Ref) : Prop :=
  ∃ dependencies,
    store.manifest state ref =
      some { records := publication.records, dependencies := dependencies } ∧
    List.Forall₂ (fun dependency own => dependency.resolve refs = some own)
      publication.dependencies dependencies

namespace PayloadStore

/-- Nothing stored is lost or changed. -/
def Keeps (store : PayloadStore State Ref Record) (before after : State) : Prop :=
  ∀ ref kept, store.manifest before ref = some kept → store.manifest after ref = some kept

/-- The store keeps what it is given: an acceptable batch that it takes is found
under the returned references, in order. -/
structure Lawful (store : PayloadStore State Ref Record) (maxRecords : Nat) : Prop where
  stored : ∀ {state after batch submissionId refs}, acceptable maxRecords batch = true →
    store.publishMany state batch submissionId = .ok (refs, after) →
    List.Forall₂ (Stored store after refs) batch refs
  keeps : ∀ {state after batch submissionId refs}, acceptable maxRecords batch = true →
    store.publishMany state batch submissionId = .ok (refs, after) →
    store.Keeps state after

def guarded (store : PayloadStore State Ref Record) (maxRecords : Nat) :
    PayloadStore State Ref Record where
  publishMany := fun state batch submissionId =>
    if acceptable maxRecords batch then store.publishMany state batch submissionId
    else .error (.valueError "publication batch")
  manifest := store.manifest

end PayloadStore

/-! ## Assembly of one value -/

/-- The assembly of `blobs` behind the dependencies `external`: every blob is found
at its position. -/
structure Assembles (limit : Nat) (external : List Ref) (blobs : List Record)
    (assembly : Assembly Ref Record) : Prop where
  dependencies : assembly.dependencies = external.map .stored ++
    (List.range assembly.publications.length).map .position
  small : ∀ publication ∈ assembly.publications,
    publication.dependencies = [] ∧ publication.records.length ≤ limit
  count : assembly.positions.length = blobs.length
  placed : ∀ (index : Nat) (record : Record), blobs[index]? = some record →
    ∃ (position : BlobPosition) (chunk : Nat) (publication : Publication Ref Record),
      assembly.positions[index]? = some position ∧
      position.dependency = external.length + chunk ∧
      assembly.publications[chunk]? = some publication ∧
      publication.records[position.ordinal]? = some record

theorem Assembles.initial (limit : Nat) (external : List Ref) :
    Assembles limit external []
      ({ dependencies := external.map .stored } : Assembly Ref Record) where
  dependencies := by simp
  small := by simp
  count := rfl
  placed := by simp

theorem Assembles.chunk {limit : Nat} {external : List Ref} {blobs chunk : List Record}
    {assembly : Assembly Ref Record} (assembles : Assembles limit external blobs assembly)
    (short : chunk.length ≤ limit) :
    Assembles limit external (blobs ++ chunk)
      { dependencies := assembly.dependencies ++ [.position assembly.publications.length]
        publications := assembly.publications ++ [{ records := chunk }]
        positions := assembly.positions ++ (List.range chunk.length).map fun ordinal =>
          { dependency := assembly.dependencies.length, ordinal := ordinal } } where
  dependencies := by
    dsimp only
    rw [assembles.dependencies, List.length_append, List.length_singleton, List.range_succ,
      List.map_append, List.append_assoc]
    rfl
  small := by
    dsimp only
    rw [List.forall_mem_append, List.forall_mem_singleton]
    exact ⟨assembles.small, rfl, short⟩
  count := by
    dsimp only
    rw [List.length_append, List.length_append, assembles.count, List.length_map,
      List.length_range]
  placed := by
    intro index record isBlob
    dsimp only
    by_cases older : index < blobs.length
    · rw [List.getElem?_append_left older] at isBlob
      rcases assembles.placed index record isBlob with
        ⟨position, own, publication, isPosition, isOwn, isPublication, found⟩
      have inPositions := (List.getElem?_eq_some_iff.mp isPosition).1
      have inPublications := (List.getElem?_eq_some_iff.mp isPublication).1
      exact ⟨position, own, publication,
        (List.getElem?_append_left inPositions).trans isPosition, isOwn,
        (List.getElem?_append_left inPublications).trans isPublication, found⟩
    · rw [List.getElem?_append_right (Nat.le_of_not_lt older)] at isBlob
      have inside := (List.getElem?_eq_some_iff.mp isBlob).1
      refine ⟨{ dependency := assembly.dependencies.length, ordinal := index - blobs.length },
        assembly.publications.length, { records := chunk }, ?_, ?_, ?_, isBlob⟩
      · rw [List.getElem?_append_right (by rw [assembles.count]; omega), assembles.count,
          List.getElem?_map, List.getElem?_range inside, Option.map_some]
      · dsimp only
        rw [assembles.dependencies, List.length_append, List.length_map, List.length_map,
          List.length_range]
      · exact List.getElem?_concat_length

theorem assembleBlobs_assembles {limit : Nat} (positive : 0 < limit) {external : List Ref} :
    ∀ {fuel : Nat} {rest blobs : List Record} {assembly : Assembly Ref Record},
      rest.length ≤ fuel → Assembles limit external blobs assembly →
      Assembles limit external (blobs ++ rest) (assembleBlobs limit fuel rest assembly)
  | 0, rest, blobs, assembly, enough, assembles => by
      have nothing : rest = [] := List.length_eq_zero_iff.mp (Nat.le_zero.mp enough)
      rw [nothing, List.append_nil, assembleBlobs]
      exact assembles
  | fuel + 1, [], blobs, assembly, _, assembles => by
      rw [List.append_nil, assembleBlobs]
      exact assembles
  | fuel + 1, blob :: rest, blobs, assembly, enough, assembles => by
      have shorter : ((blob :: rest).drop limit).length ≤ fuel := by
        rw [List.length_drop]
        omega
      have later := assembleBlobs_assembles positive shorter
        (assembles.chunk (List.length_take_le limit (blob :: rest)))
      rw [List.append_assoc, List.take_append_drop] at later
      exact later

theorem Visited.assembles (visited : Visited Ref Record) {maxRecords : Nat}
    (two : 2 ≤ maxRecords) :
    Assembles (maxRecords - 1) visited.dependencies visited.blobs
      (visited.assembly maxRecords) := by
  have assembled := assembleBlobs_assembles (by omega : 0 < maxRecords - 1)
    (Nat.le_refl visited.blobs.length) (Assembles.initial (maxRecords - 1) visited.dependencies)
  exact assembled

/-! ## Lists of publications -/

structure Publishable (maxRecords : Nat) (publications : List (Publication Ref Record)) :
    Prop where
  small : ∀ publication ∈ publications, publication.size ≤ maxRecords
  earlier : ∀ (index : Nat) (publication : Publication Ref Record),
    publications[index]? = some publication → ∀ position, .position position ∈ publication.dependencies → position < index

theorem Visited.publishable (visited : Visited Ref Record) {maxRecords : Nat}
    (two : 2 ≤ maxRecords) : Publishable maxRecords (visited.prepare maxRecords) := by
  have assembles := visited.assembles two
  constructor
  · intro publication member
    rcases List.mem_append.mp member with isChunk | isRoot
    · have short := (assembles.small publication isChunk).2
      rw [Publication.size]
      omega
    · rw [List.mem_singleton.mp isRoot]
      exact two
  · intro index publication isPublication position isPosition
    rw [Visited.prepare] at isPublication
    by_cases isChunk : index < (visited.assembly maxRecords).publications.length
    · rw [List.getElem?_append_left isChunk] at isPublication
      rw [(assembles.small publication (List.mem_of_getElem? isPublication)).1] at isPosition
      cases isPosition
    · rw [List.getElem?_append_right (Nat.le_of_not_lt isChunk), List.getElem?_singleton]
        at isPublication
      split at isPublication
      · rw [← Option.some.inj isPublication] at isPosition
        dsimp only at isPosition
        rw [assembles.dependencies, List.mem_append, List.mem_map, List.mem_map] at isPosition
        rcases isPosition with ⟨_, _, isStored⟩ | ⟨own, inRange, isOwn⟩
        · cases isStored
        · cases isOwn
          exact Nat.lt_of_lt_of_le (List.mem_range.mp inRange) (Nat.le_of_not_lt isChunk)
      · cases isPublication

/-! ## Batches -/

theorem fitting_le (maxRecords : Nat) : ∀ (count : Nat) (rest : List (Publication Ref Record)),
    fitting maxRecords count rest ≤ rest.length
  | _, [] => Nat.le_refl 0
  | count, publication :: rest => by
      have later := fitting_le maxRecords (count + publication.size) rest
      rw [fitting, List.length_cons]
      split
      · exact Nat.zero_le _
      · omega

theorem fitting_size (maxRecords : Nat) :
    ∀ (count : Nat) (rest : List (Publication Ref Record)), count ≤ maxRecords →
      count + ((rest.take (fitting maxRecords count rest)).map Publication.size).sum ≤
        maxRecords
  | count, [], inside => inside
  | count, publication :: rest, inside => by
      rw [fitting]
      split
      · exact inside
      · have later := fitting_size maxRecords (count + publication.size) rest (by omega)
        rw [List.take_succ_cons, List.map_cons, List.sum_cons, ← Nat.add_assoc]
        exact later

theorem batchLength_le (maxRecords : Nat) (rest : List (Publication Ref Record)) :
    batchLength maxRecords rest ≤ rest.length := by
  cases rest with
  | nil => exact Nat.le_refl 0
  | cons publication rest => exact Nat.succ_le_succ (fitting_le _ _ rest)

theorem batch_size {maxRecords : Nat} {rest : List (Publication Ref Record)}
    (small : ∀ publication ∈ rest, publication.size ≤ maxRecords) :
    ((rest.take (batchLength maxRecords rest)).map Publication.size).sum ≤ maxRecords := by
  cases rest with
  | nil => exact Nat.zero_le _
  | cons publication rest =>
      have first := small publication List.mem_cons_self
      rw [batchLength, List.take_succ_cons, List.map_cons, List.sum_cons]
      exact fitting_size _ _ rest first

theorem placePublication_eq_ok {start : Nat} {refs : List Ref}
    {publication placed : Publication Ref Record} :
    placePublication start refs publication = .ok placed ↔
      placed.records = publication.records ∧
        List.Forall₂ (fun dependency own => placeDependency start refs dependency = .ok own)
          publication.dependencies placed.dependencies := by
  rw [placePublication, bind_eq_ok]
  simp only [pure_eq_ok, Except.ok.injEq, mapM_eq_ok]
  constructor
  · rintro ⟨dependencies, related, rfl⟩
    exact ⟨rfl, related⟩
  · rintro ⟨sameRecords, related⟩
    refine ⟨placed.dependencies, related, ?_⟩
    rw [← sameRecords]

theorem placeDependency_position {start index : Nat} {refs : List Ref}
    {dependency : Dependency Ref}
    (placed : placeDependency start refs dependency = .ok (.position index)) :
    dependency = .position (start + index) := by
  cases dependency with
  | stored ref => cases placed
  | position own =>
      rw [placeDependency] at placed
      split at placed
      · rcases map_eq_ok.mp placed with ⟨_, _, isStored⟩
        cases isStored
      · rename_i behind
        have same : own - start = index := by
          cases Except.ok.inj placed
          rfl
        rw [← same, Nat.add_sub_cancel' (Nat.le_of_not_lt behind)]

/-- The next batch of publications whose positions point backwards is acceptable. -/
theorem acceptable_batch {maxRecords : Nat}
    {done rest batch : List (Publication Ref Record)} {refs : List Ref}
    (publishable : Publishable maxRecords (done ++ rest))
    (placed : List.Forall₂ (fun publication own =>
        placePublication done.length refs publication = .ok own)
      (rest.take (batchLength maxRecords rest)) batch) :
    acceptable maxRecords batch = true := by
  rw [acceptable, Bool.and_eq_true, decide_eq_true_iff, List.all_eq_true]
  constructor
  · have sameSizes : (rest.take (batchLength maxRecords rest)).map Publication.size =
        batch.map Publication.size := by
      rw [← List.forall₂_eq_eq_eq, List.forall₂_map_left_iff, List.forall₂_map_right_iff]
      refine placed.imp ?_
      intro publication own isPlaced
      rw [Publication.size, Publication.size, (placePublication_eq_ok.mp isPlaced).1]
    rw [← sameSizes]
    exact batch_size fun publication member =>
      publishable.small publication (List.mem_append_right _ member)
  · rintro ⟨own, index⟩ member
    rw [List.mk_mem_zipIdx_iff_getElem?] at member
    rcases forall₂_getElem?_right placed member with ⟨publication, isPublication, isPlaced⟩
    rw [List.getElem?_take] at isPublication
    rw [List.all_eq_true]
    intro dependency inOwn
    cases dependency with
    | stored ref => rfl
    | position position =>
        rcases forall₂_mem_right (placePublication_eq_ok.mp isPlaced).2 inOwn with
          ⟨original, isOriginal, isOwn⟩
        rw [placeDependency_position isOwn] at isOriginal
        have located : (done ++ rest)[done.length + index]? = some publication := by
          rw [List.getElem?_append_right (Nat.le_add_right _ _), Nat.add_sub_cancel_left]
          split at isPublication
          · exact isPublication
          · cases isPublication
        have behind := publishable.earlier _ _ located _ isOriginal
        exact decide_eq_true (Nat.lt_of_add_lt_add_left behind)

/-! ## Publication in batches -/

theorem resolve_append {refs more : List Ref} {dependency : Dependency Ref} {ref : Ref}
    (resolved : dependency.resolve refs = some ref) :
    dependency.resolve (refs ++ more) = some ref := by
  cases dependency with
  | stored own => exact resolved
  | position index =>
      have inside := (List.getElem?_eq_some_iff.mp resolved).1
      rw [Dependency.resolve, List.getElem?_append_left inside]
      exact resolved

theorem resolve_placed {refs more : List Ref} {dependency placed : Dependency Ref} {ref : Ref}
    (isPlaced : placeDependency refs.length refs dependency = .ok placed)
    (resolved : placed.resolve more = some ref) :
    dependency.resolve (refs ++ more) = some ref := by
  cases dependency with
  | stored own =>
      rw [← Except.ok.inj isPlaced] at resolved
      exact resolved
  | position index =>
      rw [placeDependency] at isPlaced
      rw [Dependency.resolve]
      split at isPlaced
      · rename_i older
        rcases map_eq_ok.mp isPlaced with ⟨own, found, rfl⟩
        rw [List.getElem?_append_left older, itemAt_eq_ok.mp found]
        exact resolved
      · rename_i newer
        rw [← Except.ok.inj isPlaced] at resolved
        rw [List.getElem?_append_right (Nat.le_of_not_lt newer)]
        exact resolved

section Loop

variable {store : PayloadStore State Ref Record} {maxRecords : Nat}

theorem Stored.keep {state after : State} {refs more : List Ref}
    {publication : Publication Ref Record} {ref : Ref}
    (stored : Stored store state refs publication ref) (keeps : store.Keeps state after) :
    Stored store after (refs ++ more) publication ref := by
  rcases stored with ⟨dependencies, isKept, resolved⟩
  exact ⟨dependencies, keeps _ _ isKept, resolved.imp fun _ _ => resolve_append⟩

theorem Stored.unplace {after : State} {refs more : List Ref}
    {publication placed : Publication Ref Record} {ref : Ref}
    (isPlaced : placePublication refs.length refs publication = .ok placed)
    (stored : Stored store after more placed ref) :
    Stored store after (refs ++ more) publication ref := by
  rcases placePublication_eq_ok.mp isPlaced with ⟨sameRecords, placedDependencies⟩
  rcases stored with ⟨dependencies, isKept, resolved⟩
  rw [sameRecords] at isKept
  refine ⟨dependencies, isKept, (forall₂_comp placedDependencies resolved).imp ?_⟩
  rintro dependency own ⟨between, isBetween, isOwn⟩
  exact resolve_placed isBetween isOwn

/-- The loop stores what is left behind what is done. -/
theorem publishFrom_stores (lawful : store.Lawful maxRecords) {submissionId : String} :
    ∀ {fuel : Nat} {done rest : List (Publication Ref Record)} {refs published : List Ref}
      {state after : State},
      rest.length ≤ fuel → Publishable maxRecords (done ++ rest) →
      List.Forall₂ (Stored store state refs) done refs →
      publishFrom store maxRecords submissionId fuel done.length rest refs state =
        .ok (published, after) →
      List.Forall₂ (Stored store after published) (done ++ rest) published ∧
        store.Keeps state after
  | 0, done, rest, refs, published, state, after, enough, _, stored, ran => by
      have nothing : rest = [] := List.length_eq_zero_iff.mp (Nat.le_zero.mp enough)
      rw [publishFrom, Except.ok.injEq, Prod.mk.injEq] at ran
      rw [nothing, List.append_nil, ← ran.1, ← ran.2]
      exact ⟨stored, fun _ _ => id⟩
  | fuel + 1, done, [], refs, published, state, after, _, _, stored, ran => by
      rw [publishFrom, List.isEmpty_nil, if_pos rfl, Except.ok.injEq, Prod.mk.injEq] at ran
      rw [List.append_nil, ← ran.1, ← ran.2]
      exact ⟨stored, fun _ _ => id⟩
  | fuel + 1, done, publication :: rest, refs, published, state, after, enough, publishable,
      stored, ran => by
      rw [publishFrom, List.isEmpty_cons, if_neg (by simp)] at ran
      rcases bind_eq_ok.mp ran with ⟨batch, placed, more⟩
      rcases bind_eq_ok.mp more with ⟨⟨new, middle⟩, accepted, later⟩
      have within := batchLength_le maxRecords (publication :: rest)
      have taken : ((publication :: rest).take
          (batchLength maxRecords (publication :: rest))).length =
          batchLength maxRecords (publication :: rest) := List.length_take_of_le within
      have parts := List.take_append_drop (batchLength maxRecords (publication :: rest))
        (publication :: rest)
      rw [mapM_eq_ok] at placed
      have isAcceptable := acceptable_batch publishable placed
      have newStored := lawful.stored isAcceptable accepted
      have keeps := lawful.keeps isAcceptable accepted
      have sameLength : refs.length = done.length := stored.length_eq.symm
      rw [← sameLength] at placed
      have nextStored : List.Forall₂ (Stored store middle (refs ++ new))
          (done ++ (publication :: rest).take (batchLength maxRecords (publication :: rest)))
          (refs ++ new) := by
        apply List.rel_append
        · exact stored.imp fun _ _ held => held.keep keeps
        · refine (forall₂_comp placed newStored).imp ?_
          rintro own ref ⟨between, isBetween, isStored⟩
          exact isStored.unplace isBetween
      have shorter : ((publication :: rest).drop
          (batchLength maxRecords (publication :: rest))).length ≤ fuel := by
        rw [List.length_drop, batchLength]
        rw [List.length_cons] at enough ⊢
        omega
      dsimp only at later
      rw [← taken, ← List.length_append, taken] at later
      have done_ := publishFrom_stores lawful shorter
        (by rw [List.append_assoc, parts]; exact publishable) nextStored later
      rw [List.append_assoc, parts] at done_
      exact ⟨done_.1, fun ref kept isKept => done_.2 ref kept (keeps ref kept isKept)⟩

/-- The store never sees a batch that is not acceptable. -/
theorem publishFrom_guarded {submissionId : String} :
    ∀ {fuel : Nat} {done rest : List (Publication Ref Record)} {refs : List Ref}
      {state : State}, Publishable maxRecords (done ++ rest) →
      publishFrom (store.guarded maxRecords) maxRecords submissionId fuel done.length rest refs
          state =
        publishFrom store maxRecords submissionId fuel done.length rest refs state
  | 0, _, _, _, _, _ => rfl
  | fuel + 1, done, rest, refs, state, publishable => by
      have taken : (rest.take (batchLength maxRecords rest)).length =
          batchLength maxRecords rest :=
        List.length_take_of_le (batchLength_le maxRecords rest)
      have sameStart : done.length + batchLength maxRecords rest =
          (done ++ rest.take (batchLength maxRecords rest)).length := by
        rw [List.length_append, taken]
      have next : Publishable maxRecords ((done ++ rest.take (batchLength maxRecords rest)) ++
          rest.drop (batchLength maxRecords rest)) := by
        rw [List.append_assoc, List.take_append_drop]
        exact publishable
      rw [publishFrom, publishFrom]
      dsimp only
      split
      · rfl
      · cases placed : (rest.take (batchLength maxRecords rest)).mapM
          (placePublication done.length refs) with
        | error exception => rfl
        | ok batch =>
            have isAcceptable := acceptable_batch publishable ((mapM_eq_ok _ _ _).mp placed)
            rw [ok_bind, ok_bind, PayloadStore.guarded]
            dsimp only
            rw [if_pos isAcceptable]
            cases store.publishMany state batch s!"{submissionId}:part:{done.length}" with
            | error exception => rfl
            | ok published =>
                rw [ok_bind, ok_bind, sameStart]
                exact publishFrom_guarded next

end Loop

/-! ## Bundles -/

section Bundles

variable {maxRecords : Nat}

/-- The publications of a value found from `offset` on, its root at `root`. -/
structure Located (maxRecords : Nat) (publications : List (Publication Ref Record))
    (visited : Visited Ref Record) (root : Nat) : Prop where
  located : ∃ offset, root = offset + (visited.assembly maxRecords).publications.length ∧
    ∀ (index : Nat) (publication : Publication Ref Record),
      (visited.prepare maxRecords)[index]? = some publication →
      publications[offset + index]? = some (publication.shift offset)

structure Bundled (maxRecords : Nat) (values : List (Visited Ref Record))
    (bundled : List (Publication Ref Record) × List Nat) : Prop where
  publishable : Publishable maxRecords bundled.1
  roots : List.Forall₂ (Located maxRecords bundled.1) values bundled.2

theorem Located.append {publications : List (Publication Ref Record)}
    {visited : Visited Ref Record} {root : Nat}
    (located : Located maxRecords publications visited root)
    (more : List (Publication Ref Record)) :
    Located maxRecords (publications ++ more) visited root := by
  rcases located.located with ⟨offset, isRoot, found⟩
  refine ⟨offset, isRoot, ?_⟩
  intro index publication isPublication
  have here := found index publication isPublication
  rw [List.getElem?_append_left (List.getElem?_eq_some_iff.mp here).1]
  exact here

theorem Publishable.append_shift {publications more : List (Publication Ref Record)}
    (first : Publishable maxRecords publications) (later : Publishable maxRecords more) :
    Publishable maxRecords
      (publications ++ more.map (Publication.shift publications.length)) := by
  constructor
  · rw [List.forall_mem_append, List.forall_mem_map]
    exact ⟨first.small, later.small⟩
  · intro index publication isPublication position isPosition
    by_cases older : index < publications.length
    · rw [List.getElem?_append_left older] at isPublication
      exact first.earlier index publication isPublication position isPosition
    · rw [List.getElem?_append_right (Nat.le_of_not_lt older), List.getElem?_map,
        Option.map_eq_some_iff] at isPublication
      rcases isPublication with ⟨own, isOwn, rfl⟩
      rcases List.mem_map.mp isPosition with ⟨dependency, inOwn, shifted⟩
      cases dependency with
      | stored ref => cases shifted
      | position original =>
          have same : original + publications.length = position := by
            cases shifted
            rfl
          have behind := later.earlier _ own isOwn original inOwn
          omega

theorem Bundled.append (two : 2 ≤ maxRecords) {values : List (Visited Ref Record)}
    {bundled : List (Publication Ref Record) × List Nat}
    (isBundled : Bundled maxRecords values bundled) (visited : Visited Ref Record) :
    Bundled maxRecords (values ++ [visited])
      (bundled.1 ++ (visited.prepare maxRecords).map (Publication.shift bundled.1.length),
        bundled.2 ++ [(bundled.1 ++
          (visited.prepare maxRecords).map (Publication.shift bundled.1.length)).length - 1]) where
  publishable := isBundled.publishable.append_shift (visited.publishable two)
  roots := by
    apply List.rel_append
    · exact isBundled.roots.imp fun _ _ located => located.append _
    · refine .cons ⟨bundled.1.length, ?_, ?_⟩ .nil
      · rw [List.length_append, List.length_map, Visited.prepare, List.length_append,
          List.length_singleton]
        omega
      · intro index publication isPublication
        dsimp only
        rw [List.getElem?_append_right (Nat.le_add_right _ _), Nat.add_sub_cancel_left,
          List.getElem?_map, isPublication, Option.map_some]

theorem bundle_bundled (two : 2 ≤ maxRecords) (values : List (Visited Ref Record)) :
    Bundled maxRecords values (bundle maxRecords values) := by
  have loop (rest : List (Visited Ref Record)) :
      ∀ {done : List (Visited Ref Record)} {bundled : List (Publication Ref Record) × List Nat},
        Bundled maxRecords done bundled →
        Bundled maxRecords (done ++ rest) (rest.foldl
          (fun bundled visited =>
            let publications := bundled.1 ++
              (visited.prepare maxRecords).map (Publication.shift bundled.1.length)
            (publications, bundled.2 ++ [publications.length - 1])) bundled) := by
    induction rest with
    | nil =>
        intro done bundled isBundled
        rw [List.append_nil]
        exact isBundled
    | cons visited rest induction =>
        intro done bundled isBundled
        have later := induction (isBundled.append two visited)
        rw [List.append_assoc] at later
        exact later
  have empty : Bundled maxRecords ([] : List (Visited Ref Record)) ([], []) := by
    refine ⟨⟨?_, ?_⟩, .nil⟩
    · simp
    · intro index publication isPublication
      simp at isPublication
  exact loop values empty

end Bundles

/-! ## Published values -/

/-- The reference leads to everything the value was published with: its root record
with the positions of its blobs, its own dependencies, and at each position the blob
that was given it. -/
structure Preserves (store : PayloadStore State Ref Record) (maxRecords : Nat) (state : State)
    (visited : Visited Ref Record) (ref : Ref) : Prop where
  root : ∃ dependencies,
    store.manifest state ref =
      some
        { records := [visited.root (visited.assembly maxRecords).positions]
          dependencies := dependencies } ∧
    dependencies.take visited.dependencies.length = visited.dependencies ∧
    (visited.assembly maxRecords).positions.length = visited.blobs.length ∧
    ∀ (index : Nat) (blob : Record), visited.blobs[index]? = some blob →
      ∃ (position : BlobPosition) (own : Ref) (kept : Manifest Ref Record),
        (visited.assembly maxRecords).positions[index]? = some position ∧
        dependencies[position.dependency]? = some own ∧
        store.manifest state own = some kept ∧ kept.records[position.ordinal]? = some blob

theorem resolve_shift {refs : List Ref} {offset : Nat} {dependency : Dependency Ref} :
    (dependency.shift offset).resolve refs =
      match dependency with
      | .position index => refs[index + offset]?
      | .stored ref => some ref := by
  cases dependency with
  | position index => rfl
  | stored ref => rfl

/-- A located value whose publications are stored is preserved. -/
theorem Located.preserves {store : PayloadStore State Ref Record} {maxRecords : Nat}
    (two : 2 ≤ maxRecords) {state : State} {publications : List (Publication Ref Record)}
    {refs : List Ref} (stored : List.Forall₂ (Stored store state refs) publications refs)
    {visited : Visited Ref Record} {root : Nat} {ref : Ref}
    (located : Located maxRecords publications visited root) (isRef : refs[root]? = some ref) :
    Preserves store maxRecords state visited ref := by
  have assembles := visited.assembles two
  rcases located.located with ⟨offset, rfl, found⟩
  have rootAt : (visited.prepare maxRecords)[(visited.assembly
      maxRecords).publications.length]? = some
        { records := [visited.root (visited.assembly maxRecords).positions]
          dependencies := (visited.assembly maxRecords).dependencies } := by
    rw [Visited.prepare]
    exact List.getElem?_concat_length
  rcases forall₂_getElem?_left stored (found _ _ rootAt) with ⟨own, isOwn, rootStored⟩
  rw [isRef, Option.some.injEq] at isOwn
  subst isOwn
  rcases rootStored with ⟨dependencies, isKept, resolved⟩
  have resolved : List.Forall₂
      (fun dependency own => (Dependency.shift offset dependency).resolve refs = some own)
      ((visited.dependencies.map .stored) ++ (List.range
        (visited.assembly maxRecords).publications.length).map .position) dependencies := by
    rw [← assembles.dependencies]
    exact List.forall₂_map_left_iff.mp resolved
  rcases forall₂_append_left resolved with ⟨external, chunks, isExternal, areChunks, rfl⟩
  rw [List.forall₂_map_left_iff] at isExternal areChunks
  have sameExternal : visited.dependencies = external := by
    rw [← List.forall₂_eq_eq_eq]
    refine isExternal.imp ?_
    intro original own resolves
    rw [resolve_shift] at resolves
    exact Option.some.inj resolves
  subst sameExternal
  refine ⟨_, isKept, List.take_left, assembles.count, ?_⟩
  intro index blob isBlob
  rcases assembles.placed index blob isBlob with
    ⟨position, chunk, publication, isPosition, isChunk, isPublication, inPublication⟩
  have inChunks := (List.getElem?_eq_some_iff.mp isPublication).1
  rcases forall₂_getElem?_left areChunks (List.getElem?_range inChunks) with
    ⟨chunkRef, isChunkRef, resolves⟩
  rw [resolve_shift] at resolves
  dsimp only at resolves
  have chunkAt : (visited.prepare maxRecords)[chunk]? = some publication := by
    rw [Visited.prepare, List.getElem?_append_left inChunks]
    exact isPublication
  rcases forall₂_getElem?_left stored (found chunk publication chunkAt) with
    ⟨sameRef, isSameRef, chunkStored⟩
  rw [Nat.add_comm, resolves, Option.some.injEq] at isSameRef
  subst isSameRef
  rcases chunkStored with ⟨own, isOwn, _⟩
  refine ⟨position, chunkRef, _, isPosition, ?_, isOwn, inPublication⟩
  rw [isChunk, List.getElem?_append_right (Nat.le_add_right _ _), Nat.add_sub_cancel_left]
  exact isChunkRef

/-- Every returned reference leads to everything its value was published with. -/
theorem publishMany_stores {store : PayloadStore State Ref Record} {maxRecords : Nat}
    (two : 2 ≤ maxRecords) (lawful : store.Lawful maxRecords)
    {values : List (Visited Ref Record × String)} {state after : State} {refs : List Ref}
    (published : publishMany store maxRecords values state = .ok (refs, after)) :
    List.Forall₂ (fun value ref => Preserves store maxRecords after value.1 ref) values refs ∧
      store.Keeps state after := by
  have bundled := bundle_bundled two (values.map Prod.fst)
  have publishable : Publishable maxRecords
      ([] ++ (bundle maxRecords (values.map Prod.fst)).1) := bundled.publishable
  rw [publishMany] at published
  rcases bind_eq_ok.mp published with ⟨first, _, more⟩
  rcases bind_eq_ok.mp more with ⟨⟨all, final⟩, ran, more⟩
  rcases bind_eq_ok.mp more with ⟨roots, rootsEq, returned⟩
  rw [pure_eq_ok, Except.ok.injEq, Prod.mk.injEq] at returned
  rcases returned with ⟨rfl, rfl⟩
  have stored := publishFrom_stores lawful (Nat.le_refl _) publishable .nil ran
  rw [mapM_eq_ok] at rootsEq
  have related := bundled.roots
  rw [List.forall₂_map_left_iff] at related
  refine ⟨(forall₂_comp related rootsEq).imp ?_, stored.2⟩
  rintro value ref ⟨root, located, isRef⟩
  exact located.preserves two stored.1 (itemAt_eq_ok.mp isRef)

/-- `publish_many` hands the store acceptable batches only, and every returned reference
leads to everything its value was published with. -/
theorem publishMany_preserves {store : PayloadStore State Ref Record} {maxRecords : Nat}
    (two : 2 ≤ maxRecords) (lawful : store.Lawful maxRecords)
    (values : List (Visited Ref Record × String)) (state : State) :
    publishMany (store.guarded maxRecords) maxRecords values state =
        publishMany store maxRecords values state ∧
      ∀ refs after, publishMany store maxRecords values state = .ok (refs, after) →
        List.Forall₂ (fun value ref => Preserves store maxRecords after value.1 ref) values
            refs ∧
          store.Keeps state after := by
  have publishable : Publishable maxRecords
      ([] ++ (bundle maxRecords (values.map Prod.fst)).1) :=
    (bundle_bundled two (values.map Prod.fst)).publishable
  constructor
  · have guards (submissionId : String) :
        publish (store.guarded maxRecords) maxRecords (bundle maxRecords
            (values.map Prod.fst)).1 submissionId state =
          publish store maxRecords (bundle maxRecords (values.map Prod.fst)).1 submissionId
            state :=
      publishFrom_guarded publishable
    rw [publishMany, publishMany]
    simp only [guards]
  · intro refs after published
    exact publishMany_stores two lawful published

/-! ## A store in memory -/

def memoryRef (start : Nat) : Dependency Nat → Nat
  | .position index => start + index
  | .stored ref => ref

def memoryStore (Record : Type) : PayloadStore (List (Manifest Nat Record)) Nat Record where
  publishMany := fun state batch _ =>
    .ok (List.range' state.length batch.length,
      state ++ batch.map fun publication =>
        { records := publication.records
          dependencies := publication.dependencies.map (memoryRef state.length) })
  manifest := fun state ref => state[ref]?

theorem memoryStore_lawful (Record : Type) (maxRecords : Nat) :
    (memoryStore Record).Lawful maxRecords where
  stored := by
    intro state after batch submissionId refs isAcceptable published
    cases published
    rw [acceptable, Bool.and_eq_true, List.all_eq_true] at isAcceptable
    rw [List.forall₂_iff_get]
    refine ⟨by rw [List.length_range'], ?_⟩
    intro index inBatch inRefs
    rw [List.get_eq_getElem, List.get_eq_getElem, List.getElem_range', Nat.one_mul]
    refine ⟨batch[index].dependencies.map (memoryRef state.length), ?_, ?_⟩
    · rw [memoryStore]
      dsimp only
      rw [List.getElem?_append_right (Nat.le_add_right _ _), Nat.add_sub_cancel_left,
        List.getElem?_map, List.getElem?_eq_getElem inBatch, Option.map_some]
    · rw [List.forall₂_map_right_iff, List.forall₂_same]
      intro dependency member
      cases dependency with
      | stored ref => rfl
      | position position =>
          have backwards := isAcceptable.2 (batch[index], index)
            (List.mk_mem_zipIdx_iff_getElem?.mpr (List.getElem?_eq_getElem inBatch))
          rw [List.all_eq_true] at backwards
          have behind : position < index := of_decide_eq_true (backwards _ member)
          rw [Dependency.resolve, List.getElem?_eq_getElem (by rw [List.length_range']; omega),
            List.getElem_range', Nat.one_mul]
          rfl
  keeps := by
    intro state after batch submissionId refs _ published
    cases published
    intro ref kept isKept
    have inside := (List.getElem?_eq_some_iff.mp isKept).1
    exact (List.getElem?_append_left inside).trans isKept

/-- Two values of three and one blobs and a stored dependency, with room for two
records in a batch. -/
theorem publishMany_twoValues :
    let values : List (Visited Nat (List Nat) × String) :=
      [({ blobs := [[1], [2], [3]], dependencies := [0],
          root := fun positions => positions.map BlobPosition.dependency }, "first"),
        ({ blobs := [[4]], dependencies := []
           root := fun positions => positions.map BlobPosition.ordinal }, "second")]
    ∃ refs after,
      publishMany (memoryStore (List Nat)) 2 values [{ records := [[9]], dependencies := [] }] =
          .ok (refs, after) ∧
        List.Forall₂ (fun value ref => Preserves (memoryStore (List Nat)) 2 after value.1 ref)
          values refs := by
  intro values
  have published : ∃ refs after, publishMany (memoryStore (List Nat)) 2 values
      [{ records := [[9]], dependencies := [] }] = .ok (refs, after) := ⟨_, _, rfl⟩
  rcases published with ⟨refs, after, ran⟩
  exact ⟨refs, after, ran, ((publishMany_preserves (by decide)
    (memoryStore_lawful (List Nat) 2) values _).2 refs after ran).1⟩

end Vime.Data
