import Vime.Backends.MegatronUtils.UpdateWeight.StageOwners

/-! # The parameters that all ranks agree on

What a rank knows of every parameter after both exchanges, and what the comparison of all ranks
gives: the same parameters in the same order, and so the same buckets.
-/

namespace Vime.Backends.MegatronUtils.HfWeightIterator

open Vime.Foundation

variable {ν : Type} {layout : RankLayout} {weights : Nat → List (LocalParam ν)} {rank peer : Nat}
  {name : String} {info : ParamInfo}

/-! ## The exchange between expert-parallel ranks -/

/-- The table has the own parameters and those of the ranks seen, which are then the source. -/
structure KnowsPeers (tables : Nat → InfoTable) (own : InfoTable) (seen : List Nat)
    (table : InfoTable) : Prop where
  distinct : (table.map Prod.fst).Nodup
  kept : ∀ name info, own.lookup name = some info → table.lookup name = some info
  source : ∀ name info, table.lookup name = some info → own.lookup name = some info ∨
    (own.lookup name = none ∧ ∃ peer ∈ seen, ∃ base, (tables peer).lookup name = some base ∧
      info = { base with srcRank := peer })
  missing : ∀ name, table.lookup name = none → ∀ peer ∈ seen, (tables peer).lookup name = none

theorem lookup_mergeExpertInfo (srcRank : Nat) (table : InfoTable) (item : String × ParamInfo)
    (name : String) :
    (mergeExpertInfo srcRank table item).lookup name =
      if name = item.1 then some ((table.lookup name).getD { item.2 with srcRank := srcRank })
      else table.lookup name := by
  rw [mergeExpertInfo]
  by_cases same : name = item.1
  · rw [if_pos same, same]
    cases found : table.lookup item.1 with
    | none => simp [lookup_setItem]
    | some oldInfo => exact found
  · rw [if_neg same]
    split
    · rfl
    · rw [lookup_setItem, if_neg same]

theorem nodup_keys_mergeExpertInfos (srcRank : Nat) (items : InfoTable) {table : InfoTable}
    (distinct : (table.map Prod.fst).Nodup) :
    ((items.foldl (mergeExpertInfo srcRank) table).map Prod.fst).Nodup := by
  induction items generalizing table with
  | nil => exact distinct
  | cons item rest induction =>
      apply induction
      rw [mergeExpertInfo]
      split
      · exact distinct
      · exact nodup_keys_setItem _ _ distinct

theorem KnowsPeers.add {tables : Nat → InfoTable} {own : InfoTable} {seen : List Nat}
    {table : InfoTable} (knows : KnowsPeers tables own seen table)
    (distinct : ((tables peer).map Prod.fst).Nodup) :
    KnowsPeers tables own (seen ++ [peer]) ((tables peer).foldl (mergeExpertInfo peer) table) := by
  have looked := lookup_foldl_items
    (fun old new => some (old.getD { new with srcRank := peer }))
    (lookup_mergeExpertInfo peer) distinct table
  have stays : ∀ name info, table.lookup name = some info →
      ((tables peer).foldl (mergeExpertInfo peer) table).lookup name = some info := by
    intro name info found
    rw [looked, found]
    split
    · rfl
    · rfl
  refine ⟨nodup_keys_mergeExpertInfos peer _ knows.distinct,
    fun name info found => stays name info (knows.kept name info found), ?_, ?_⟩
  · intro name info found
    cases oldEq : table.lookup name with
    | some old =>
        have same : old = info := Option.some.inj ((stays name old oldEq).symm.trans found)
        rcases knows.source name old oldEq with isOwn | ⟨notOwn, source, inSeen, base, held, sent⟩
        · exact .inl (same ▸ isOwn)
        · exact .inr ⟨notOwn, source, List.mem_append_left _ inSeen, base, held, same ▸ sent⟩
    | none =>
        have notOwn : own.lookup name = none := by
          cases ownEq : own.lookup name with
          | none => rfl
          | some held =>
              rw [knows.kept name held ownEq] at oldEq
              cases oldEq
        rw [looked, oldEq] at found
        cases newEq : (tables peer).lookup name with
        | none =>
            rw [newEq] at found
            cases found
        | some new =>
            rw [newEq] at found
            exact .inr ⟨notOwn, peer, List.mem_append_right _ (List.mem_singleton_self _), new,
              newEq, (Option.some.inj found).symm⟩
  · intro name found other among
    rw [looked] at found
    cases newEq : (tables peer).lookup name with
    | some new =>
        rw [newEq] at found
        cases found
    | none =>
        rw [newEq] at found
        rcases List.mem_append.mp among with early | last
        · exact knows.missing name found other early
        · rw [List.mem_singleton.mp last]
          exact newEq

theorem KnowsPeers.mergeExperts {tables : Nat → InfoTable} {own : InfoTable} (group : List Nat) :
    ∀ {seen : List Nat} {table : InfoTable}, KnowsPeers tables own seen table →
      (∀ peer ∈ group, ((tables peer).map Prod.fst).Nodup) →
      KnowsPeers tables own (seen ++ group)
        (mergeExperts table (group.map fun peer => (peer, tables peer))) := by
  induction group with
  | nil =>
      intro seen table knows _
      rwa [List.append_nil]
  | cons peer rest induction =>
      intro seen table knows nodup
      rw [List.append_cons, List.map_cons, HfWeightIterator.mergeExperts, List.foldl_cons]
      exact induction (knows.add (nodup peer List.mem_cons_self))
        fun other member => nodup other (List.mem_cons_of_mem _ member)

theorem blockInfos_knows (layout : RankLayout) (weights : Nat → List (LocalParam ν))
    (isRank : rank < layout.worldSize) :
    KnowsPeers (stageInfos layout weights) (stageInfos layout weights rank) (layout.epGroup rank)
      (blockInfos layout weights rank) := by
  have distinct : ∀ peer ∈ layout.epGroup rank,
      ((stageInfos layout weights peer).map Prod.fst).Nodup :=
    fun peer inGroup =>
      (stageInfos_knows layout weights (layout.epGroupEq rank isRank peer inGroup).1).distinct
  have alone : KnowsPeers (stageInfos layout weights) (stageInfos layout weights rank) []
      (stageInfos layout weights rank) :=
    ⟨(stageInfos_knows layout weights isRank).distinct, fun _ _ found => found,
      fun _ _ found => .inl found, fun _ _ _ among => by cases among⟩
  have inGroup := layout.inEpGroup rank isRank
  rw [blockInfos]
  by_cases several : layout.epSize rank > 1
  · rw [if_pos several]
    exact KnowsPeers.mergeExperts (layout.epGroup rank) alone distinct
  · rw [if_neg several, group_of_not_several inGroup several]
    refine ⟨alone.distinct, alone.kept, fun _ _ found => .inl found,
      fun name found peer among => ?_⟩
    rw [List.mem_singleton.mp among]
    exact found

/-! ## What the infos say -/

theorem stageInfos_described (isRank : rank < layout.worldSize)
    (found : (stageInfos layout weights rank).lookup name = some info) :
    info.name = name ∧ info.size = info.shape.prod * info.dtype.itemSize := by
  rcases (stageInfos_knows layout weights isRank).owner name info found with ⟨_, isOwn, _⟩
  rcases (localTables info.srcRank (weights info.srcRank)).described name info isOwn with
    ⟨_, named, sized, _⟩
  exact ⟨named, sized⟩

theorem blockInfos_described (isRank : rank < layout.worldSize)
    (found : (blockInfos layout weights rank).lookup name = some info) :
    info.name = name ∧ info.size = info.shape.prod * info.dtype.itemSize := by
  rcases (blockInfos_knows layout weights isRank).source name info found with
    isOwn | ⟨_, peer, inGroup, base, held, sent⟩
  · exact stageInfos_described isRank isOwn
  · have described := stageInfos_described (layout.epGroupEq rank isRank peer inGroup).1 held
    rw [sent]
    exact described

theorem mem_sortedInfos (isRank : rank < layout.worldSize) :
    info ∈ sortedInfos layout weights rank ↔
      (blockInfos layout weights rank).lookup info.name = some info := by
  have distinct := (blockInfos_knows layout weights isRank).distinct
  rw [sortedInfos, List.mem_insertionSort, List.mem_map]
  constructor
  · intro member
    rcases member with ⟨item, inTable, itemEq⟩
    have found : (blockInfos layout weights rank).lookup item.1 = some item.2 :=
      lookup_of_mem distinct inTable
    rw [itemEq] at found
    rw [(blockInfos_described isRank found).1]
    exact found
  · intro found
    exact ⟨(info.name, info), mem_of_lookup found, rfl⟩

theorem sortedInfos_filterMap (isRank : rank < layout.worldSize) {infos : List ParamInfo}
    (known : ∀ info ∈ infos, info ∈ sortedInfos layout weights rank) :
    (infos.map ParamInfo.name).filterMap
        (fun name => (blockInfos layout weights rank).lookup name) = infos := by
  induction infos with
  | nil => rfl
  | cons info rest induction =>
      have found := (mem_sortedInfos isRank).mp (known info List.mem_cons_self)
      rw [List.map_cons, List.filterMap_cons, found,
        induction fun other member => known other (List.mem_cons_of_mem _ member)]

theorem sortedInfos_names_nodup (isRank : rank < layout.worldSize) :
    ((sortedInfos layout weights rank).map ParamInfo.name).Nodup := by
  have distinct := (blockInfos_knows layout weights isRank).distinct
  have sorted : (sortedInfos layout weights rank).Perm
      ((blockInfos layout weights rank).map Prod.snd) := List.perm_insertionSort _ _
  have names : ((blockInfos layout weights rank).map Prod.snd).map ParamInfo.name =
      (blockInfos layout weights rank).map Prod.fst := by
    rw [List.map_map]
    apply List.map_congr_left
    intro item member
    exact (blockInfos_described isRank (lookup_of_mem distinct member)).1
  rw [(sorted.map ParamInfo.name).nodup_iff, names]
  exact distinct

/-! ## The comparison of all ranks -/

def fingerprint (info : ParamInfo) : String × List Nat × DType :=
  (info.name, info.shape, info.dtype)

theorem checkSameInfo_eq_ok {index : Nat} {infos : List ParamInfo}
    (checked : checkSameInfo index info infos = .ok ()) :
    ∃ other, infos[index]? = some other ∧ fingerprint other = fingerprint info := by
  rw [checkSameInfo] at checked
  rcases bind_eq_ok.mp checked with ⟨other, found, compared⟩
  rcases raiseIf_bind_eq_ok.mp compared with ⟨sameName, later⟩
  rcases raiseIf_bind_eq_ok.mp later with ⟨sameShape, last⟩
  have sameType := raiseIf_eq_ok.mp last
  refine ⟨other, itemAt_eq_ok.mp found, ?_⟩
  rw [fingerprint, fingerprint, not_not.mp sameName, not_not.mp sameShape, not_not.mp sameType]

theorem getMegatronLocalParamInfos_eq_ok {infos : List ParamInfo}
    (returned : getMegatronLocalParamInfos layout weights rank = .ok infos) :
    infos = sortedInfos layout weights rank ∧
      ∀ peer < layout.worldSize, ∀ (index : Nat) (info : ParamInfo), infos[index]? = some info →
        ∃ other, (sortedInfos layout weights peer)[index]? = some other ∧
          fingerprint other = fingerprint info := by
  rw [getMegatronLocalParamInfos] at returned
  rcases bind_eq_ok.mp returned with ⟨_, checked, result⟩
  have same : sortedInfos layout weights rank = infos := Except.ok.inj result
  refine ⟨same.symm, fun peer isPeer index info found => ?_⟩
  rw [← same] at found
  rw [checkParamInfos, forM_eq_ok] at checked
  have inList : (index, info) ∈ (sortedInfos layout weights rank).mapIdx
      fun index paramInfo => (index, paramInfo) := by
    rw [List.mem_iff_getElem?]
    refine ⟨index, ?_⟩
    rw [List.getElem?_mapIdx, found]
    rfl
  have compared := (forM_eq_ok _ _).mp (checked (index, info) inList)
    (sortedInfos layout weights peer)
    (List.mem_map.mpr ⟨peer, List.mem_range.mpr isPeer, rfl⟩)
  exact checkSameInfo_eq_ok compared

theorem sortedInfos_agree (isRank : rank < layout.worldSize) (isPeer : peer < layout.worldSize)
    {infos : Nat → List ParamInfo}
    (returned : ∀ rank < layout.worldSize,
      getMegatronLocalParamInfos layout weights rank = .ok (infos rank)) :
    (infos rank).map fingerprint = (infos peer).map fingerprint := by
  have half : ∀ {rank peer : Nat}, rank < layout.worldSize → peer < layout.worldSize →
      ∀ (index : Nat) (info : ParamInfo), (infos rank)[index]? = some info →
        ((infos peer).map fingerprint)[index]? = some (fingerprint info) := by
    intro rank peer isRank isPeer index info found
    rcases (getMegatronLocalParamInfos_eq_ok (returned rank isRank)).2 peer isPeer index info found
      with ⟨other, otherFound, same⟩
    rw [← (getMegatronLocalParamInfos_eq_ok (returned peer isPeer)).1] at otherFound
    rw [List.getElem?_map, otherFound, Option.map_some, same]
  apply List.ext_getElem?
  intro index
  cases here : (infos rank)[index]? with
  | some info => rw [half isRank isPeer index info here, List.getElem?_map, here, Option.map_some]
  | none =>
      rw [List.getElem?_map, here, Option.map_none]
      cases there : (infos peer)[index]? with
      | none => rw [List.getElem?_map, there, Option.map_none]
      | some other =>
          have back := half isPeer isRank index other there
          rw [List.getElem?_map, here] at back
          cases back

/-! ## Buckets -/

section Buckets

variable {α β : Type}

def Packing.map (transform : α → β) (packing : Packing α) : Packing β :=
  { closed := packing.closed.map (List.map transform)
    current := packing.current.map transform
    bufferSize := packing.bufferSize }

theorem packItem_map (limit : Nat) (sizeOf : β → Nat) (transform : α → β) (packing : Packing α)
    (item : α) :
    packItem limit sizeOf (packing.map transform) (transform item) =
      (packItem limit (sizeOf ∘ transform) packing item).map transform := by
  rw [packItem, packItem]
  by_cases full : packing.bufferSize + (sizeOf ∘ transform) item > limit ∧ packing.current ≠ []
  · rw [if_pos full, if_pos ⟨full.1, by simpa [Packing.map] using full.2⟩]
    simp [Packing.map]
  · rw [if_neg full, if_neg fun both => full ⟨both.1, by simpa [Packing.map] using both.2⟩]
    simp [Packing.map]

theorem packItems_map (limit : Nat) (sizeOf : β → Nat) (transform : α → β) (items : List α) :
    packItems limit sizeOf (items.map transform) =
      (packItems limit (sizeOf ∘ transform) items).map (List.map transform) := by
  have folded : ∀ (items : List α) (packing : Packing α),
      (items.map transform).foldl (packItem limit sizeOf) (packing.map transform) =
        (items.foldl (packItem limit (sizeOf ∘ transform)) packing).map transform := by
    intro items
    induction items with
    | nil => exact fun _ => rfl
    | cons item rest induction =>
        intro packing
        rw [List.map_cons, List.foldl_cons, List.foldl_cons, packItem_map, induction]
  have whole := folded items { closed := [], current := [], bufferSize := 0 }
  rw [packItems, packItems]
  rw [show ({ closed := [], current := [], bufferSize := 0 } : Packing β) =
    Packing.map transform { closed := [], current := [], bufferSize := 0 } from rfl, whole]
  simp [Packing.map]

theorem flatten_packItems (limit : Nat) (sizeOf : α → Nat) (items : List α) :
    (packItems limit sizeOf items).flatten = items := by
  have folded : ∀ (items : List α) (packing : Packing α),
      ((items.foldl (packItem limit sizeOf) packing).closed ++
        [(items.foldl (packItem limit sizeOf) packing).current]).flatten =
          (packing.closed ++ [packing.current]).flatten ++ items := by
    intro items
    induction items with
    | nil => exact fun packing => (List.append_nil _).symm
    | cons item rest induction =>
        intro packing
        rw [List.foldl_cons, induction, packItem]
        split
        · simp
        · simp
  exact folded items _

end Buckets

def sizedName (sizes : BucketSizes) (info : ParamInfo) : String × Nat :=
  (info.name, paramSize sizes info.name info.size)

def nameBuckets (sizes : BucketSizes) (infos : List ParamInfo) : List (List String) :=
  (packItems sizes.updateWeightBufferSize Prod.snd (infos.map (sizedName sizes))).map
    (List.map Prod.fst)

theorem packParamInfoBuckets_names (sizes : BucketSizes) (infos : List ParamInfo) :
    (packParamInfoBuckets sizes infos).map (List.map ParamInfo.name) = nameBuckets sizes infos := by
  rw [nameBuckets, packItems_map, List.map_map]
  apply List.map_congr_left
  intro bucket _
  rw [Function.comp_apply, List.map_map]
  rfl

theorem flatten_nameBuckets (sizes : BucketSizes) (infos : List ParamInfo) :
    (nameBuckets sizes infos).flatten = infos.map ParamInfo.name := by
  rw [← packParamInfoBuckets_names, ← List.map_flatten, packParamInfoBuckets, flatten_packItems]

theorem names_agree (isRank : rank < layout.worldSize) (isPeer : peer < layout.worldSize)
    {infos : Nat → List ParamInfo}
    (returned : ∀ rank < layout.worldSize,
      getMegatronLocalParamInfos layout weights rank = .ok (infos rank)) :
    (infos rank).map ParamInfo.name = (infos peer).map ParamInfo.name := by
  have names := congrArg (List.map Prod.fst) (sortedInfos_agree isRank isPeer returned)
  rw [List.map_map, List.map_map] at names
  exact names

theorem buckets_agree (isRank : rank < layout.worldSize) (isPeer : peer < layout.worldSize)
    {infos : Nat → List ParamInfo}
    (returned : ∀ rank < layout.worldSize,
      getMegatronLocalParamInfos layout weights rank = .ok (infos rank)) (sizes : BucketSizes) :
    nameBuckets sizes (infos rank) = nameBuckets sizes (infos peer) := by
  have sized : ∀ {rank : Nat}, rank < layout.worldSize →
      (infos rank).map (sizedName sizes) = ((infos rank).map fingerprint).map fun print =>
        (print.1, paramSize sizes print.1 (print.2.1.prod * print.2.2.itemSize)) := by
    intro rank isRank
    rw [List.map_map]
    apply List.map_congr_left
    intro info member
    rw [(getMegatronLocalParamInfos_eq_ok (returned rank isRank)).1, mem_sortedInfos isRank]
      at member
    rw [sizedName, (blockInfos_described isRank member).2]
    rfl
  rw [nameBuckets, nameBuckets, sized isRank, sized isPeer,
    sortedInfos_agree isRank isPeer returned]

theorem packParamInfoBuckets_read (isRank : rank < layout.worldSize) (sizes : BucketSizes)
    {infos : List ParamInfo} (infosEq : infos = sortedInfos layout weights rank) :
    packParamInfoBuckets sizes infos =
      (nameBuckets sizes infos).map fun names =>
        names.filterMap fun name => (blockInfos layout weights rank).lookup name := by
  rw [← packParamInfoBuckets_names, List.map_map]
  conv_lhs => rw [← List.map_id (packParamInfoBuckets sizes infos)]
  apply List.map_congr_left
  intro bucket member
  refine (sortedInfos_filterMap isRank fun info inBucket => ?_).symm
  rw [← infosEq, ← flatten_packItems sizes.updateWeightBufferSize
    (fun info => paramSize sizes info.name info.size) infos]
  exact List.mem_flatten.mpr ⟨bucket, member, inBucket⟩

end Vime.Backends.MegatronUtils.HfWeightIterator
