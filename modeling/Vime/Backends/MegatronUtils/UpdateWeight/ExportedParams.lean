import Vime.Backends.MegatronUtils.UpdateWeight.IssuedBroadcasts

/-! # The exchange of all ranks

The programs of all ranks are projections of one order of broadcasts, bucket by bucket and the
pipeline stages before the experts. So they never block each other, whatever order the groups
proceed in, and in the end every rank holds every parameter.
-/

namespace Vime.Backends.MegatronUtils.HfWeightIterator

open Vime.Foundation

variable {ν : Type} {layout : RankLayout} {weights : Nat → List (LocalParam ν)} {rank peer : Nat}
  {name : String} {info : ParamInfo}

/-! ## The program of a rank -/

def heldValue (weights : Nat → List (LocalParam ν)) (rank : Nat) (info : ParamInfo) : Option ν :=
  if rank = info.srcRank then (localWeights (weights rank)).lookup info.name else none

theorem heldValue_of_source (isRank : rank < layout.worldSize)
    (found : (blockInfos layout weights rank).lookup name = some info)
    (isSource : rank = info.srcRank) :
    (stageInfos layout weights rank).lookup name = some info ∧
      ∃ value, (localWeights (weights rank)).lookup name = some value := by
  rcases (blockInfos_knows layout weights isRank).source name info found with
    isOwn | ⟨notOwn, peer, inGroup, base, held, sent⟩
  · rcases (stageInfos_knows layout weights isRank).owner name info isOwn with ⟨_, isLocal, _⟩
    rw [← isSource] at isLocal
    exact ⟨isOwn, ((localTables rank (weights rank)).described name info isLocal).2.2.2⟩
  · rw [sent] at isSource
    dsimp only at isSource
    rw [← isSource, notOwn] at held
    cases held

theorem loadParam_eq (isRank : rank < layout.worldSize)
    (found : (blockInfos layout weights rank).lookup name = some info) :
    loadParam (localWeights (weights rank)) rank info =
      .ok (info.name, heldValue weights rank info) := by
  have named := (blockInfos_described isRank found).1
  rw [loadParam, heldValue]
  split
  · rename_i isSource
    rcases (heldValue_of_source isRank found isSource).2 with ⟨value, isHeld⟩
    rw [named, isHeld]
  · rfl

def issued (layout : RankLayout) (weights : Nat → List (LocalParam ν))
    (buckets : List (List String)) (rank : Nat) : List (Broadcast Nat String) :=
  buckets.flatMap fun names =>
    stageBroadcasts layout weights rank names ++ coalescedBroadcasts layout weights rank names

def bucketProgram (layout : RankLayout) (weights : Nat → List (LocalParam ν)) (rank : Nat)
    (names : List String) : RankProgram ν :=
  { params := (readInfos layout weights rank names).map fun info =>
      (info.name, heldValue weights rank info)
    broadcasts := stageBroadcasts layout weights rank names ++
      coalescedBroadcasts layout weights rank names }

/-- The exchange of a bucket of known names raises nothing and issues their broadcasts. -/
theorem getMegatronFullParams_eq (oneHolder : OneHolder layout weights)
    (isRank : rank < layout.worldSize) {names : List String}
    (known : Known layout weights rank names) :
    getMegatronFullParams layout weights rank (readInfos layout weights rank names) =
      .ok (bucketProgram layout weights rank names) := by
  have loaded : (readInfos layout weights rank names).mapM
      (loadParam (localWeights (weights rank)) rank) = .ok _ :=
    mapM_eq_ok_map _ (fun info => (info.name, heldValue weights rank info)) _ fun info isInfo =>
    by
      rcases List.mem_filterMap.mp isInfo with ⟨name, _, found⟩
      exact loadParam_eq isRank found
  rw [getMegatronFullParams, loaded, ok_bind, expertBroadcasts_eq oneHolder isRank known, ok_bind,
    pipelineBroadcasts_eq isRank]
  rfl

theorem known_nameBuckets (isRank : rank < layout.worldSize) (sizes : BucketSizes)
    {infos : List ParamInfo} (infosEq : infos = sortedInfos layout weights rank) :
    ∀ names ∈ nameBuckets sizes infos, Known layout weights rank names := by
  intro names isBucket name inNames
  have inAll : name ∈ (nameBuckets sizes infos).flatten :=
    List.mem_flatten.mpr ⟨names, isBucket, inNames⟩
  rw [flatten_nameBuckets, infosEq] at inAll
  rcases List.mem_map.mp inAll with ⟨info, isInfo, named⟩
  rw [← named, (mem_sortedInfos isRank).mp isInfo]
  exact Option.some_ne_none info

theorem getHfWeightChunks_eq (oneHolder : OneHolder layout weights)
    (isRank : rank < layout.worldSize) (sizes : BucketSizes) {infos : List ParamInfo}
    (infosEq : infos = sortedInfos layout weights rank) :
    getHfWeightChunks layout weights rank (packParamInfoBuckets sizes infos) =
      .ok
        { params := infos.map fun info => (info.name, heldValue weights rank info)
          broadcasts := issued layout weights (nameBuckets sizes infos) rank } := by
  have known := known_nameBuckets isRank sizes infosEq
  have all := mapM_map_eq_ok (getMegatronFullParams layout weights rank)
    (readInfos layout weights rank) _ (nameBuckets sizes infos)
    fun names isBucket => getMegatronFullParams_eq oneHolder isRank (known names isBucket)
  have read : packParamInfoBuckets sizes infos =
      (nameBuckets sizes infos).map (readInfos layout weights rank) :=
    packParamInfoBuckets_read isRank sizes infosEq
  have whole : infos = (nameBuckets sizes infos).flatMap (readInfos layout weights rank) := by
    rw [List.flatMap_def, ← read, packParamInfoBuckets, flatten_packItems]
  rw [getHfWeightChunks, read, all, ok_bind]
  nth_rewrite 3 [whole]
  rw [List.map_flatMap, List.flatMap_map, List.flatMap_map, issued]
  rfl

/-! ## The common order -/

def leaders (worldSize : Nat) (group : Nat → List Nat) : List Nat :=
  (List.range worldSize).filter fun rank => (group rank).head? = some rank

theorem exists_leader {worldSize : Nat} {group : Nat → List Nat}
    (inGroup : ∀ rank < worldSize, rank ∈ group rank)
    (groupEq : ∀ rank < worldSize, ∀ peer ∈ group rank, peer < worldSize ∧ group peer = group rank)
    (isRank : rank < worldSize) :
    ∃ leader ∈ leaders worldSize group, leader ∈ group rank ∧
      ∀ other ∈ leaders worldSize group, other ≠ leader → rank ∉ group other := by
  cases here : group rank with
  | nil =>
      have isMember := inGroup rank isRank
      rw [here] at isMember
      cases isMember
  | cons leader rest =>
      have leads : leader ∈ group rank := here ▸ List.mem_cons_self
      rcases groupEq rank isRank leader leads with ⟨inWorld, same⟩
      refine ⟨leader, ?_, List.mem_cons_self, ?_⟩
      · rw [leaders, List.mem_filter, List.mem_range]
        refine ⟨inWorld, ?_⟩
        rw [same, here]
        simp
      · intro other isLeader different contains
        rw [leaders, List.mem_filter, List.mem_range] at isLeader
        have sameGroup := (groupEq other isLeader.1 rank contains).2
        have first : (group other).head? = some other := by simpa using isLeader.2
        rw [← sameGroup, here, List.head?_cons] at first
        exact different (Option.some.inj first).symm

def worldOrder (layout : RankLayout) (weights : Nat → List (LocalParam ν))
    (buckets : List (List String)) : List (Broadcast Nat String) :=
  buckets.flatMap fun names =>
    (leaders layout.worldSize layout.ppGroup).flatMap
        (fun leader => stageBroadcasts layout weights leader names) ++
      (leaders layout.worldSize layout.epGroup).flatMap
        fun leader => coalescedBroadcasts layout weights leader names

theorem mem_stageBroadcasts {op : Broadcast Nat String} {names : List String}
    (isOp : op ∈ stageBroadcasts layout weights rank names) :
    ∃ name ∈ names, ∃ info, (stageInfos layout weights rank).lookup name = some info ∧
      op = { members := layout.ppGroup rank, source := info.srcRank, keys := [name] } := by
  rw [stageBroadcasts] at isOp
  split at isOp
  · rcases List.mem_filterMap.mp isOp with ⟨name, inNames, opEq⟩
    rcases Option.map_eq_some_iff.mp opEq with ⟨info, found, isInfo⟩
    exact ⟨name, inNames, info, found, isInfo.symm⟩
  · cases isOp

theorem mem_coalescedBroadcasts {op : Broadcast Nat String} {names : List String}
    (isOp : op ∈ coalescedBroadcasts layout weights rank names) :
    op.members = layout.epGroup rank ∧ (∃ name, name ∈ op.keys) ∧ ∀ name ∈ op.keys,
      name ∈ names ∧ isExpertName name = true ∧
        op.source = (layout.epGroup rank).getD (holderIndex layout weights rank name) 0 := by
  rw [coalescedBroadcasts] at isOp
  split at isOp
  · rcases List.mem_map.mp isOp with ⟨entry, isEntry, opEq⟩
    have values := eq_valuesAt_of_mem isEntry
    have keyed := mem_keys_collect.mp (List.mem_map_of_mem isEntry)
    rw [← opEq]
    refine ⟨rfl, ?_, ?_⟩
    · rcases List.mem_map.mp keyed with ⟨pair, isPair, sameKey⟩
      refine ⟨pair.2, ?_⟩
      dsimp only
      rw [values, mem_valuesAt, ← sameKey]
      exact isPair
    · intro name inKeys
      rw [values, mem_valuesAt] at inKeys
      rcases List.mem_map.mp inKeys with ⟨other, inNames, pairEq⟩
      rw [List.mem_filter] at inNames
      have sameName : other = name := congrArg Prod.snd pairEq
      have samePlace : holderIndex layout weights rank other = entry.1 := congrArg Prod.fst pairEq
      rw [sameName] at inNames samePlace
      rw [samePlace]
      exact ⟨inNames.1, inNames.2, rfl⟩
  · cases isOp

theorem exists_coalesced (weights : Nat → List (LocalParam ν)) (several : layout.epSize rank > 1)
    {names : List String} (inNames : name ∈ names) (isExpert : isExpertName name = true) :
    ∃ op ∈ coalescedBroadcasts layout weights rank names,
      op.members = layout.epGroup rank ∧ name ∈ op.keys := by
  have isEntry : (holderIndex layout weights rank name, name) ∈ (names.filter isExpertName).map
      fun name => (holderIndex layout weights rank name, name) :=
    List.mem_map.mpr ⟨name, List.mem_filter.mpr ⟨inNames, isExpert⟩, rfl⟩
  rcases List.mem_map.mp (mem_keys_collect.mpr (List.mem_map_of_mem isEntry)) with
    ⟨entry, collected, keyEq⟩
  rw [coalescedBroadcasts, if_pos several]
  refine ⟨_, List.mem_map_of_mem collected, rfl, ?_⟩
  dsimp only
  rw [eq_valuesAt_of_mem collected, mem_valuesAt, keyEq]
  exact isEntry

/-- A rank issues the broadcasts of the common order in which it takes part. -/
theorem project_worldOrder (buckets : List (List String)) (isRank : rank < layout.worldSize) :
    project (worldOrder layout weights buckets) rank = issued layout weights buckets rank := by
  rcases exists_leader layout.inPpGroup layout.ppGroupEq isRank with
    ⟨stageLeader, isStageLeader, leadsStage, otherStages⟩
  rcases exists_leader layout.inEpGroup layout.epGroupEq isRank with
    ⟨expertLeader, isExpertLeader, leadsExperts, otherExperts⟩
  have distinct : ∀ group : Nat → List Nat, (leaders layout.worldSize group).Nodup :=
    fun group => List.nodup_range.filter _
  rw [worldOrder, issued, project, List.filter_flatMap]
  apply List.flatMap_congr
  intro names _
  rw [List.filter_append]
  have stages : project ((leaders layout.worldSize layout.ppGroup).flatMap fun leader =>
      stageBroadcasts layout weights leader names) rank =
        stageBroadcasts layout weights stageLeader names := by
    apply project_flatMap_leaders (distinct layout.ppGroup) isStageLeader
    · intro op isOp
      rcases mem_stageBroadcasts isOp with ⟨_, _, _, _, opEq⟩
      rw [opEq, (layout.ppGroupEq rank isRank _ leadsStage).2]
      exact layout.inPpGroup rank isRank
    · intro other isLeader different op isOp
      rcases mem_stageBroadcasts isOp with ⟨_, _, _, _, opEq⟩
      rw [opEq]
      exact otherStages other isLeader different
  have experts : project ((leaders layout.worldSize layout.epGroup).flatMap fun leader =>
      coalescedBroadcasts layout weights leader names) rank =
        coalescedBroadcasts layout weights expertLeader names := by
    apply project_flatMap_leaders (distinct layout.epGroup) isExpertLeader
    · intro op isOp
      rw [(mem_coalescedBroadcasts isOp).1, (layout.epGroupEq rank isRank _ leadsExperts).2]
      exact layout.inEpGroup rank isRank
    · intro other isLeader different op isOp
      rw [(mem_coalescedBroadcasts isOp).1]
      exact otherExperts other isLeader different
  rw [project] at stages experts
  rw [stages, experts, stageBroadcasts_same isRank leadsStage,
    coalescedBroadcasts_same isRank leadsExperts]

/-- Two ranks issue the same sequence of the broadcasts in which both take part. -/
theorem issued_agree (buckets : List (List String)) (isRank : rank < layout.worldSize)
    (isPeer : peer < layout.worldSize) :
    (issued layout weights buckets rank).filter (fun op => peer ∈ op.members) =
      (issued layout weights buckets peer).filter fun op => rank ∈ op.members := by
  rw [← project_worldOrder buckets isRank, ← project_worldOrder buckets isPeer, project, project,
    List.filter_filter, List.filter_filter]
  apply List.filter_congr
  intro op _
  exact Bool.and_comm _ _

theorem bucketProgram_group (names : List String) (isRank : rank < layout.worldSize)
    (isPeer : peer < layout.worldSize) {group : List Nat} (inGroup : rank ∈ group)
    (peerIn : peer ∈ group) :
    (bucketProgram layout weights rank names).broadcasts.filter (fun op => op.members = group) =
      (bucketProgram layout weights peer names).broadcasts.filter fun op =>
        op.members = group := by
  have agree := @issued_agree _ layout weights _ _ [names] isRank isPeer
  rw [issued, issued, List.flatMap_singleton, List.flatMap_singleton] at agree
  have within (member : Nat) (isMember : member ∈ group) (ops : List (Broadcast Nat String)) :
      ops.filter (fun op => op.members = group) =
        (ops.filter fun op => member ∈ op.members).filter fun op => op.members = group := by
    rw [List.filter_filter]
    apply List.filter_congr
    intro op _
    by_cases isGroup : op.members = group
    · simp [isGroup, isMember]
    · simp [isGroup]
  rw [bucketProgram, bucketProgram, within peer peerIn, agree, ← within rank inGroup]

theorem mem_leaders {group : Nat → List Nat} {worldSize leader : Nat}
    (isLeader : leader ∈ leaders worldSize group) : leader < worldSize :=
  List.mem_range.mp (List.mem_filter.mp isLeader).1

theorem project_worldOrder_outside (buckets : List (List String))
    (outside : ¬ rank < layout.worldSize) :
    project (worldOrder layout weights buckets) rank = [] := by
  rw [project, List.filter_eq_nil_iff]
  intro op isOp
  rcases List.mem_flatMap.mp isOp with ⟨names, _, inBucket⟩
  rcases List.mem_append.mp inBucket with inStages | inExperts
  · rcases List.mem_flatMap.mp inStages with ⟨leader, isLeader, issuedOp⟩
    rcases mem_stageBroadcasts issuedOp with ⟨_, _, _, _, opEq⟩
    rw [opEq, decide_eq_true_iff]
    exact fun isMember => outside (layout.ppGroupEq leader (mem_leaders isLeader) rank isMember).1
  · rcases List.mem_flatMap.mp inExperts with ⟨leader, isLeader, issuedOp⟩
    rw [(mem_coalescedBroadcasts issuedOp).1, decide_eq_true_iff]
    exact fun isMember => outside (layout.epGroupEq leader (mem_leaders isLeader) rank isMember).1

/-! ## What is held -/

def OwnsParam (layout : RankLayout) (weights : Nat → List (LocalParam ν)) (rank : Nat)
    (name : String) : Prop :=
  rank < layout.worldSize ∧
    ∃ info, (stageInfos layout weights rank).lookup name = some info ∧ info.srcRank = rank

theorem heldAfter_stages (isRank : rank < layout.worldSize) {names : List String}
    (inNames : name ∈ names) (holds : (stageInfos layout weights rank).lookup name ≠ none) :
    heldAfter ((leaders layout.worldSize layout.ppGroup).flatMap fun leader =>
      stageBroadcasts layout weights leader names) (OwnsParam layout weights) rank name := by
  rcases Option.ne_none_iff_exists'.mp holds with ⟨info, found⟩
  by_cases isOwner : info.srcRank = rank
  · exact .inl ⟨isRank, info, found, isOwner⟩
  · rcases (stageInfos_knows layout weights isRank).owner name info found with ⟨inGroup, _, _⟩
    have several : layout.ppSize rank > 1 := by
      by_contra single
      rw [group_of_not_several (layout.inPpGroup rank isRank) single, List.mem_singleton] at inGroup
      exact isOwner inGroup
    rcases exists_leader layout.inPpGroup layout.ppGroupEq isRank with
      ⟨leader, isLeader, leads, _⟩
    have issuedOp : { members := layout.ppGroup rank, source := info.srcRank, keys := [name] } ∈
        stageBroadcasts layout weights leader names := by
      rw [stageBroadcasts_same isRank leads, stageBroadcasts, if_pos several, List.mem_filterMap]
      refine ⟨name, inNames, ?_⟩
      rw [found]
      rfl
    exact .inr ⟨_, List.mem_flatMap.mpr ⟨leader, isLeader, issuedOp⟩,
      layout.inPpGroup rank isRank, List.mem_singleton_self name⟩

theorem coalesced_source (oneHolder : OneHolder layout weights) (isRank : rank < layout.worldSize)
    {names : List String} (known : Known layout weights rank names) {op : Broadcast Nat String}
    (isOp : op ∈ coalescedBroadcasts layout weights rank names) (sends : name ∈ op.keys) :
    op.source ∈ layout.epGroup rank ∧ name ∈ names ∧
      (stageInfos layout weights op.source).lookup name ≠ none := by
  rcases (mem_coalescedBroadcasts isOp).2.2 name sends with ⟨inNames, isExpert, sourceEq⟩
  rcases holder_of_known oneHolder isRank isExpert (known name inNames) with
    ⟨peer, isPeer, holds⟩
  rw [List.getD_eq_getElem?_getD, isPeer] at sourceEq
  rw [sourceEq]
  exact ⟨List.mem_of_getElem? isPeer, inNames, holds⟩

theorem bucketProgram_groups (oneHolder : OneHolder layout weights)
    (isRank : rank < layout.worldSize) {names : List String}
    (known : Known layout weights rank names) {op : Broadcast Nat String}
    (isOp : op ∈ (bucketProgram layout weights rank names).broadcasts) :
    (op.members = layout.ppGroup rank ∨ op.members = layout.epGroup rank) ∧
      op.source ∈ op.members := by
  rcases List.mem_append.mp isOp with inStage | inExperts
  · rcases mem_stageBroadcasts inStage with ⟨name, _, info, found, opEq⟩
    rw [opEq]
    exact ⟨.inl rfl, ((stageInfos_knows layout weights isRank).owner name info found).1⟩
  · rcases mem_coalescedBroadcasts inExperts with ⟨members, ⟨name, sends⟩, _⟩
    rw [members]
    exact ⟨.inr rfl, (coalesced_source oneHolder isRank known inExperts sends).1⟩

section World

variable {buckets : List (List String)}

theorem worldOrder_sourced (oneHolder : OneHolder layout weights)
    (known : ∀ rank < layout.worldSize, ∀ names ∈ buckets, Known layout weights rank names) :
    Sourced (worldOrder layout weights buckets) := by
  intro op isOp
  rcases List.mem_flatMap.mp isOp with ⟨names, isBucket, inBucket⟩
  rcases List.mem_append.mp inBucket with inStages | inExperts
  · rcases List.mem_flatMap.mp inStages with ⟨leader, isLeader, issuedOp⟩
    rcases mem_stageBroadcasts issuedOp with ⟨name, _, info, found, opEq⟩
    rw [opEq]
    exact ((stageInfos_knows layout weights (mem_leaders isLeader)).owner name info found).1
  · rcases List.mem_flatMap.mp inExperts with ⟨leader, isLeader, issuedOp⟩
    have inWorld := mem_leaders isLeader
    rcases mem_coalescedBroadcasts issuedOp with ⟨members, ⟨name, sends⟩, _⟩
    rw [members]
    exact (coalesced_source oneHolder inWorld (known leader inWorld names isBucket) issuedOp
      sends).1

theorem worldOrder_provided (oneHolder : OneHolder layout weights)
    (known : ∀ rank < layout.worldSize, ∀ names ∈ buckets, Known layout weights rank names) :
    Provided (OwnsParam layout weights) (worldOrder layout weights buckets) := by
  apply provided_flatMap
  intro names isBucket
  apply Provided.append
  · apply provided_of_forall
    intro op isOp key sends
    rcases List.mem_flatMap.mp isOp with ⟨leader, isLeader, issuedOp⟩
    rcases mem_stageBroadcasts issuedOp with ⟨name, _, info, found, opEq⟩
    have inWorld := mem_leaders isLeader
    rcases (stageInfos_knows layout weights inWorld).owner name info found with ⟨inGroup, _, _⟩
    rw [opEq] at sends ⊢
    rw [List.mem_singleton.mp sends]
    refine ⟨(layout.ppGroupEq leader inWorld _ inGroup).1, info, ?_, rfl⟩
    rw [stageInfos_same inWorld inGroup]
    exact found
  · apply provided_of_forall
    intro op isOp key sends
    rcases List.mem_flatMap.mp isOp with ⟨leader, isLeader, issuedOp⟩
    have inWorld := mem_leaders isLeader
    rcases coalesced_source oneHolder inWorld (known leader inWorld names isBucket) issuedOp sends
      with ⟨inGroup, inNames, holds⟩
    exact heldAfter_stages (layout.epGroupEq leader inWorld _ inGroup).1 inNames holds

/-- Parameters that are no experts are replicated over expert parallelism. -/
def DenseReplicated (layout : RankLayout) (weights : Nat → List (LocalParam ν)) : Prop :=
  ∀ rank < layout.worldSize, ∀ name, isExpertName name = false →
    ∀ peer ∈ layout.epGroup rank, StageHolds layout weights peer name →
      StageHolds layout weights rank name

/-- In the end every rank holds every name that its block knows. -/
theorem worldOrder_held (dense : DenseReplicated layout weights) (isRank : rank < layout.worldSize)
    {names : List String} (isBucket : names ∈ buckets) (inNames : name ∈ names)
    (known : (blockInfos layout weights rank).lookup name ≠ none) :
    heldAfter (worldOrder layout weights buckets) (OwnsParam layout weights) rank name := by
  by_cases onStage : (stageInfos layout weights rank).lookup name ≠ none
  · rcases heldAfter_stages isRank inNames onStage with owns | ⟨op, isOp, received⟩
    · exact .inl owns
    · exact .inr ⟨op, List.mem_flatMap.mpr ⟨names, isBucket, List.mem_append_left _ isOp⟩, received⟩
  · rcases Option.ne_none_iff_exists'.mp known with ⟨info, found⟩
    rcases (blockInfos_knows layout weights isRank).source name info found with
      isOwn | ⟨_, peer, inGroup, base, held, _⟩
    · rw [isOwn] at onStage
      exact absurd (Option.some_ne_none info) onStage
    · have isPeer := (layout.epGroupEq rank isRank peer inGroup).1
      have peerHolds : StageHolds layout weights peer name := by
        rw [stageHolds_iff isPeer, held]
        exact Option.some_ne_none base
      have isExpert : isExpertName name = true := by
        by_contra notExpert
        exact onStage ((stageHolds_iff isRank).mp
          (dense rank isRank name (Bool.eq_false_of_not_eq_true notExpert) peer inGroup peerHolds))
      have several : layout.epSize rank > 1 := by
        by_contra single
        rw [group_of_not_several (layout.inEpGroup rank isRank) single, List.mem_singleton]
          at inGroup
        rw [inGroup] at held
        rw [held] at onStage
        exact onStage (Option.some_ne_none base)
      rcases exists_leader layout.inEpGroup layout.epGroupEq isRank with
        ⟨leader, isLeader, leads, _⟩
      rcases exists_coalesced weights several inNames isExpert with
        ⟨op, isOp, members, sends⟩
      rw [← coalescedBroadcasts_same isRank leads] at isOp
      refine .inr ⟨op, List.mem_flatMap.mpr ⟨names, isBucket, List.mem_append_right _
        (List.mem_flatMap.mpr ⟨leader, isLeader, isOp⟩)⟩, ?_, sends⟩
      rw [members]
      exact layout.inEpGroup rank isRank

end World

/-! ## All runs -/

def worldState (layout : RankLayout) (programs : Nat → RankProgram ν) :
    BroadcastState Nat String ν :=
  { programs := fun rank => if rank < layout.worldSize then (programs rank).broadcasts else []
    memory := fun rank name =>
      if rank < layout.worldSize then ((programs rank).params.lookup name).join else none }

def agreedProgram (weights : Nat → List (LocalParam ν)) (layout : RankLayout)
    (sizes : BucketSizes) (infos : Nat → List ParamInfo) (rank : Nat) : RankProgram ν :=
  { params := (infos rank).map fun info => (info.name, heldValue weights rank info)
    broadcasts := issued layout weights (nameBuckets sizes (infos rank)) rank }

/-- The lowest rank with a parameter in the pipeline group of a rank, or for an expert in that
of an expert-parallel peer. -/
structure IsOwner (layout : RankLayout) (weights : Nat → List (LocalParam ν)) (rank : Nat)
    (name : String) (owner : Nat) : Prop where
  stage : ∃ peer, owner ∈ layout.ppGroup peer ∧
    (peer = rank ∨ isExpertName name = true ∧ peer ∈ layout.epGroup rank)
  has : HasParam weights owner name
  lowest : ∀ other ∈ layout.ppGroup owner, HasParam weights other name → owner ≤ other

/-- The value of a parameter that the owner for a rank has. -/
def IsOwnersValue (layout : RankLayout) (weights : Nat → List (LocalParam ν)) (rank : Nat)
    (name : String) (value : ν) : Prop :=
  ∃ owner, IsOwner layout weights rank name owner ∧
    ∃ param ∈ weights owner, param.name = name ∧ param.value = value

section Run

variable {infos : Nat → List ParamInfo} {sizes : BucketSizes}

theorem agreedProgram_params (infosEq : ∀ rank < layout.worldSize,
      infos rank = sortedInfos layout weights rank) (isRank : rank < layout.worldSize)
    (found : (blockInfos layout weights rank).lookup name = some info) :
    (agreedProgram weights layout sizes infos rank).params.lookup name =
      some (heldValue weights rank info) := by
  have named := (blockInfos_described isRank found).1
  apply lookup_of_mem
  · rw [agreedProgram, List.map_map, infosEq rank isRank]
    exact sortedInfos_names_nodup isRank
  · refine List.mem_map.mpr ⟨info, ?_, by rw [named]⟩
    rw [infosEq rank isRank, mem_sortedInfos isRank, named]
    exact found

theorem worldState_owns (sizes : BucketSizes) (infosEq : ∀ rank < layout.worldSize,
      infos rank = sortedInfos layout weights rank) (owns : OwnsParam layout weights rank name) :
    ((worldState layout (agreedProgram weights layout sizes infos)).memory rank name).isSome := by
  rcases owns with ⟨isRank, info, found, isOwner⟩
  have blockFound := (blockInfos_knows layout weights isRank).kept name info found
  rcases (heldValue_of_source isRank blockFound isOwner.symm).2 with ⟨value, isHeld⟩
  rw [worldState]
  dsimp only
  rw [if_pos isRank, agreedProgram_params infosEq isRank blockFound, heldValue,
    if_pos isOwner.symm, (blockInfos_described isRank blockFound).1, isHeld]
  rfl

theorem worldState_origin (infosEq : ∀ rank < layout.worldSize,
      infos rank = sortedInfos layout weights rank) {value : ν}
    (holds : (worldState layout (agreedProgram weights layout sizes infos)).memory rank name =
      some value) : IsOwnersValue layout weights rank name value := by
  rw [worldState] at holds
  dsimp only at holds
  split at holds
  · rename_i isRank
    have found := Option.join_eq_some_iff.mp holds
    rcases List.mem_map.mp (mem_of_lookup found) with ⟨info, isInfo, itemEq⟩
    have named : info.name = name := congrArg Prod.fst itemEq
    have isHeld : heldValue weights rank info = some value := congrArg Prod.snd itemEq
    rw [infosEq rank isRank, mem_sortedInfos isRank, named] at isInfo
    rw [heldValue] at isHeld
    split at isHeld
    · rename_i isSource
      rw [named] at isHeld
      rcases (stageInfos_knows layout weights isRank).owner name info
        (heldValue_of_source isRank isInfo isSource).1 with ⟨inGroup, isOwn, least⟩
      rw [← isSource] at inGroup isOwn least
      rcases mem_of_lookup_localWeights (weights rank) [] isHeld with inEmpty | param
      · cases inEmpty
      · refine ⟨rank, ⟨⟨rank, inGroup, .inl rfl⟩, ?_, ?_⟩, param⟩
        · rw [hasParam_iff, isOwn]
          exact Option.some_ne_none info
        · exact fun other among has => least other among ((hasParam_iff _ _ _).mp has)
    · cases isHeld
  · cases holds

theorem IsOwnersValue.stage (oneHolder : OneHolder layout weights) (isRank : rank < layout.worldSize)
    (found : (stageInfos layout weights rank).lookup name = some info) {process : Nat}
    (inGroup : process ∈ layout.ppGroup rank) {value : ν}
    (owned : IsOwnersValue layout weights info.srcRank name value) :
    IsOwnersValue layout weights process name value := by
  rcases (stageInfos_knows layout weights isRank).owner name info found with ⟨sourceIn, _, _⟩
  rcases layout.ppGroupEq rank isRank _ sourceIn with ⟨isSource, sameAsSource⟩
  rcases layout.ppGroupEq rank isRank process inGroup with ⟨_, sameAsProcess⟩
  rcases owned with ⟨owner, ⟨⟨peer, onStage, reach⟩, has, lowest⟩, param⟩
  have isSourcePeer : peer = info.srcRank := by
    rcases reach with same | ⟨isExpert, inExperts⟩
    · exact same
    · apply oneHolder info.srcRank isSource name isExpert peer inExperts info.srcRank
        (layout.inEpGroup _ isSource)
      · exact ⟨owner, onStage, has⟩
      · rw [stageHolds_iff isSource, stageInfos_same isRank sourceIn, found]
        exact Option.some_ne_none info
  refine ⟨owner, ⟨⟨process, ?_, .inl rfl⟩, has, lowest⟩, param⟩
  rwa [sameAsProcess, ← sameAsSource, ← isSourcePeer]

theorem IsOwnersValue.experts (isExpert : isExpertName name = true)
    (isRank : rank < layout.worldSize) {source process : Nat}
    (sourceIn : source ∈ layout.epGroup rank) (inGroup : process ∈ layout.epGroup rank) {value : ν}
    (owned : IsOwnersValue layout weights source name value) :
    IsOwnersValue layout weights process name value := by
  have sameAsSource := (layout.epGroupEq rank isRank source sourceIn).2
  have sameAsProcess := (layout.epGroupEq rank isRank process inGroup).2
  rcases owned with ⟨owner, ⟨⟨peer, onStage, reach⟩, has, lowest⟩, param⟩
  refine ⟨owner, ⟨⟨peer, onStage, .inr ⟨isExpert, ?_⟩⟩, has, lowest⟩, param⟩
  rw [sameAsProcess]
  rcases reach with same | ⟨_, inExperts⟩
  · rwa [same]
  · rwa [← sameAsSource]

theorem worldOrder_passes {buckets : List (List String)} (oneHolder : OneHolder layout weights)
    (known : ∀ rank < layout.worldSize, ∀ names ∈ buckets, Known layout weights rank names) :
    ∀ op ∈ worldOrder layout weights buckets, ∀ key ∈ op.keys, ∀ process ∈ op.members,
      ∀ value : ν, IsOwnersValue layout weights op.source key value →
        IsOwnersValue layout weights process key value := by
  intro op isOp key sends process isMember value owned
  rcases List.mem_flatMap.mp isOp with ⟨names, isBucket, inBucket⟩
  rcases List.mem_append.mp inBucket with inStages | inExperts
  · rcases List.mem_flatMap.mp inStages with ⟨leader, isLeader, issuedOp⟩
    rcases mem_stageBroadcasts issuedOp with ⟨name, _, info, found, opEq⟩
    rw [opEq] at sends isMember owned
    rw [List.mem_singleton.mp sends] at owned ⊢
    exact owned.stage oneHolder (mem_leaders isLeader) found isMember
  · rcases List.mem_flatMap.mp inExperts with ⟨leader, isLeader, issuedOp⟩
    have inWorld := mem_leaders isLeader
    rcases mem_coalescedBroadcasts issuedOp with ⟨members, _, each⟩
    have sourceIn := (coalesced_source oneHolder inWorld (known leader inWorld names isBucket)
      issuedOp sends).1
    rw [members] at isMember
    exact owned.experts (each key sends).2.1 inWorld sourceIn isMember

section Validated

variable (oneHolder : OneHolder layout weights)
  (returned : ∀ rank < layout.worldSize,
    getMegatronLocalParamInfos layout weights rank = .ok (infos rank))

include returned

theorem infos_eq : ∀ rank < layout.worldSize, infos rank = sortedInfos layout weights rank :=
  fun rank isRank => (getMegatronLocalParamInfos_eq_ok (returned rank isRank)).1

theorem name_known (isRank : rank < layout.worldSize)
    (isName : name ∈ (infos 0).map ParamInfo.name) :
    (blockInfos layout weights rank).lookup name ≠ none := by
  rw [names_agree (Nat.zero_lt_of_lt isRank) isRank returned, infos_eq returned rank isRank]
    at isName
  rcases List.mem_map.mp isName with ⟨info, isInfo, named⟩
  rw [← named, (mem_sortedInfos isRank).mp isInfo]
  exact Option.some_ne_none info

theorem buckets_known (sizes : BucketSizes) :
    ∀ rank < layout.worldSize, ∀ names ∈ nameBuckets sizes (infos 0),
      Known layout weights rank names := by
  intro rank isRank names isBucket name inNames
  apply name_known returned isRank
  rw [← flatten_nameBuckets sizes]
  exact List.mem_flatten.mpr ⟨names, isBucket, inNames⟩

include oneHolder

theorem worldState_remains (sizes : BucketSizes) :
    BroadcastState.Remains
      (runAll (worldOrder layout weights (nameBuckets sizes (infos 0)))
        (worldState layout (agreedProgram weights layout sizes infos)).memory)
      (worldOrder layout weights (nameBuckets sizes (infos 0)))
      (worldState layout (agreedProgram weights layout sizes infos)) := by
  have known := buckets_known returned sizes
  refine
    { programs := fun rank => ?_
      sourced := worldOrder_sourced oneHolder known
      sound := ((worldOrder_provided oneHolder known).allSound fun process key owns =>
        worldState_owns sizes (infos_eq returned) owns).1
      gives := rfl }
  rw [worldState]
  dsimp only
  by_cases isRank : rank < layout.worldSize
  · rw [if_pos isRank, project_worldOrder _ isRank, agreedProgram,
      buckets_agree (Nat.zero_lt_of_lt isRank) isRank returned sizes]
  · rw [if_neg isRank, project_worldOrder_outside _ isRank]

theorem worldOrder_final (dense : DenseReplicated layout weights) (sizes : BucketSizes)
    (isRank : rank < layout.worldSize) (isName : name ∈ (infos 0).map ParamInfo.name) :
    ∃ value, runAll (worldOrder layout weights (nameBuckets sizes (infos 0)))
        (worldState layout (agreedProgram weights layout sizes infos)).memory rank name =
          some value ∧ IsOwnersValue layout weights rank name value := by
  have provided := worldOrder_provided oneHolder (buckets_known returned sizes)
  have held := (provided.allSound fun process key owns =>
    worldState_owns sizes (infos_eq returned) owns).2
  rw [← flatten_nameBuckets sizes] at isName
  rcases List.mem_flatten.mp isName with ⟨names, isBucket, inNames⟩
  have isSome := held rank name (worldOrder_held dense isRank isBucket inNames
    (buckets_known returned sizes rank isRank names isBucket name inNames))
  rcases Option.isSome_iff_exists.mp isSome with ⟨value, found⟩
  have passes := worldOrder_passes oneHolder (buckets_known returned sizes)
  exact ⟨value, found, runAll_origin passes
    (fun _ _ _ => worldState_origin (infos_eq returned)) _ _ _ found⟩

/-- Every run of the broadcasts can be continued until all are done, every source holds what it
sends, and at the end every rank has for every name the value of its owner. -/
theorem worldState_exchanges (dense : DenseReplicated layout weights) (sizes : BucketSizes) :
    ∃ total, ∀ actions state,
      runActions BroadcastState.step (fun _ _ => True)
          (worldState layout (agreedProgram weights layout sizes infos)) actions = some state →
        (∀ op later, state.step op = some later → op.Sound state.memory) ∧
        actions.length ≤ total ∧
        (actions.length < total → ∃ op later, state.step op = some later) ∧
        (actions.length = total → ∀ rank < layout.worldSize, state.programs rank = [] ∧
          ∀ name ∈ (infos 0).map ParamInfo.name, ∃ value,
            state.memory rank name = some value ∧ IsOwnersValue layout weights rank name value) := by
  refine ⟨(worldOrder layout weights (nameBuckets sizes (infos 0))).length, ?_⟩
  intro actions state ran
  rcases (worldState_remains oneHolder returned sizes).run ran with ⟨rest, counted, remainsRest⟩
  refine ⟨fun op later steps => (remainsRest.step steps).1, by omega, ?_, ?_⟩
  · intro unfinished
    cases rest with
    | nil =>
        rw [List.length_nil] at counted
        omega
    | cons op rest => exact ⟨op, remainsRest.progress⟩
  · intro finished rank isRank
    have noRest : rest = [] := List.eq_nil_of_length_eq_zero (by omega)
    subst noRest
    refine ⟨remainsRest.programs rank, fun name isName => ?_⟩
    have final : state.memory = _ := remainsRest.gives
    rw [final]
    exact worldOrder_final oneHolder returned dense sizes isRank isName

end Validated

/-- If the comparison passes on all ranks, they have the same names in the same buckets, and the
exchange of the buckets never blocks: any two ranks issue the same sequence of the broadcasts that
both take part in, every run can be continued until all broadcasts are done, every source holds
what it sends, and then every rank holds for every name the value of its owner. -/
theorem getHfWeightChunks_exchangesAll (layout : RankLayout) (weights : Nat → List (LocalParam ν))
    (sizes : BucketSizes) (dense : DenseReplicated layout weights)
    (oneHolder : OneHolder layout weights) (infos : Nat → List ParamInfo)
    (returned : ∀ rank < layout.worldSize,
      getMegatronLocalParamInfos layout weights rank = .ok (infos rank)) :
    ∃ (names : List String) (buckets : List (List String)) (programs : Nat → RankProgram ν),
      (∀ rank < layout.worldSize,
        (infos rank).map ParamInfo.name = names ∧
        (packParamInfoBuckets sizes (infos rank)).map (List.map ParamInfo.name) = buckets ∧
        getHfWeightChunks layout weights rank (packParamInfoBuckets sizes (infos rank)) =
          .ok (programs rank)) ∧
      (∀ rank < layout.worldSize, ∀ peer < layout.worldSize,
        (programs rank).broadcasts.filter (fun op => peer ∈ op.members) =
          (programs peer).broadcasts.filter fun op => rank ∈ op.members) ∧
      ∃ total, ∀ actions state,
        runActions BroadcastState.step (fun _ _ => True) (worldState layout programs) actions =
            some state →
          (∀ op later, state.step op = some later → op.Sound state.memory) ∧
          actions.length ≤ total ∧
          (actions.length < total → ∃ op later, state.step op = some later) ∧
          (actions.length = total → ∀ rank < layout.worldSize, state.programs rank = [] ∧
            ∀ name ∈ names, ∃ value, state.memory rank name = some value ∧
              IsOwnersValue layout weights rank name value) := by
  have sameBuckets : ∀ rank < layout.worldSize,
      nameBuckets sizes (infos rank) = nameBuckets sizes (infos 0) :=
    fun rank isRank => buckets_agree isRank (Nat.zero_lt_of_lt isRank) returned sizes
  refine ⟨(infos 0).map ParamInfo.name, nameBuckets sizes (infos 0),
    agreedProgram weights layout sizes infos, ?_, ?_,
    worldState_exchanges oneHolder returned dense sizes⟩
  · intro rank isRank
    rw [packParamInfoBuckets_names]
    exact ⟨names_agree isRank (Nat.zero_lt_of_lt isRank) returned, sameBuckets rank isRank,
      getHfWeightChunks_eq oneHolder isRank sizes (infos_eq returned rank isRank)⟩
  · intro rank isRank peer isPeer
    rw [agreedProgram, agreedProgram, sameBuckets rank isRank, sameBuckets peer isPeer]
    exact issued_agree _ isRank isPeer

/-- The exchange bucket by bucket: all ranks have the same names in the same buckets; for each
bucket the members of a communication group issue the same broadcasts in it, in the same order and
from the same source; and the run of all of them ends with the values of the owners. -/
theorem getMegatronFullParams_exchangesBuckets (layout : RankLayout)
    (weights : Nat → List (LocalParam ν)) (sizes : BucketSizes)
    (dense : DenseReplicated layout weights) (oneHolder : OneHolder layout weights)
    (infos : Nat → List ParamInfo)
    (returned : ∀ rank < layout.worldSize,
      getMegatronLocalParamInfos layout weights rank = .ok (infos rank)) :
    ∃ (names : List String) (buckets : List (List String))
      (programs : Nat → Nat → RankProgram ν) (whole : Nat → RankProgram ν),
      (∀ rank < layout.worldSize,
        (infos rank).map ParamInfo.name = names ∧
        (packParamInfoBuckets sizes (infos rank)).map (List.map ParamInfo.name) = buckets ∧
        (∀ (index : Nat) (bucket : List ParamInfo),
          (packParamInfoBuckets sizes (infos rank))[index]? = some bucket →
          getMegatronFullParams layout weights rank bucket = .ok (programs rank index)) ∧
        getHfWeightChunks layout weights rank (packParamInfoBuckets sizes (infos rank)) =
          .ok (whole rank)) ∧
      (∀ index, ∀ rank < layout.worldSize, ∀ op ∈ (programs rank index).broadcasts,
        (op.members = layout.ppGroup rank ∨ op.members = layout.epGroup rank) ∧
          op.source ∈ op.members) ∧
      (∀ index, ∀ rank < layout.worldSize, ∀ peer < layout.worldSize, ∀ group : List Nat,
        rank ∈ group → peer ∈ group →
        (programs rank index).broadcasts.filter (fun op => op.members = group) =
          (programs peer index).broadcasts.filter fun op => op.members = group) ∧
      ∃ total, ∀ actions state,
        runActions BroadcastState.step (fun _ _ => True) (worldState layout whole) actions =
            some state →
          (∀ op later, state.step op = some later → op.Sound state.memory) ∧
          actions.length ≤ total ∧
          (actions.length < total → ∃ op later, state.step op = some later) ∧
          (actions.length = total → ∀ rank < layout.worldSize, state.programs rank = [] ∧
            ∀ name ∈ names, ∃ value, state.memory rank name = some value ∧
              IsOwnersValue layout weights rank name value) := by
  have sameBuckets : ∀ rank < layout.worldSize,
      nameBuckets sizes (infos rank) = nameBuckets sizes (infos 0) :=
    fun rank isRank => buckets_agree isRank (Nat.zero_lt_of_lt isRank) returned sizes
  refine ⟨(infos 0).map ParamInfo.name, nameBuckets sizes (infos 0),
    fun rank index => bucketProgram layout weights rank
      ((nameBuckets sizes (infos 0)).getD index []),
    agreedProgram weights layout sizes infos, ?_, ?_, ?_,
    worldState_exchanges oneHolder returned dense sizes⟩
  · intro rank isRank
    have infosEq := infos_eq returned rank isRank
    rw [packParamInfoBuckets_names]
    refine ⟨names_agree isRank (Nat.zero_lt_of_lt isRank) returned, sameBuckets rank isRank, ?_,
      getHfWeightChunks_eq oneHolder isRank sizes infosEq⟩
    intro index bucket isBucket
    rw [packParamInfoBuckets_read isRank sizes infosEq, sameBuckets rank isRank,
      List.getElem?_map, Option.map_eq_some_iff] at isBucket
    rcases isBucket with ⟨own, isOwn, rfl⟩
    dsimp only
    rw [List.getD_eq_getElem?_getD, isOwn, Option.getD_some]
    exact getMegatronFullParams_eq oneHolder isRank
      (buckets_known returned sizes rank isRank own (List.mem_of_getElem? isOwn))
  · intro index rank isRank op isOp
    apply bucketProgram_groups oneHolder isRank _ isOp
    rw [List.getD_eq_getElem?_getD]
    cases isBucket : (nameBuckets sizes (infos 0))[index]? with
    | none => exact fun name inNone => by cases inNone
    | some own =>
        exact buckets_known returned sizes rank isRank own (List.mem_of_getElem? isBucket)
  · intro index rank isRank peer isPeer group inGroup peerIn
    exact bucketProgram_group _ isRank isPeer inGroup peerIn

end Run

/-! ## Two stages of two expert-parallel ranks -/

def twoByTwo : RankLayout where
  worldSize := 4
  ppGroup := fun rank => [rank % 2, rank % 2 + 2]
  epGroup := fun rank => [2 * (rank / 2), 2 * (rank / 2) + 1]
  inPpGroup := by decide
  ppGroupEq := by decide
  inEpGroup := by decide
  epGroupEq := by decide
  epGroupNodup := by decide
  oneStage := by decide

def twoByTwoWeights (rank : Nat) : List (LocalParam Nat) :=
  let param (name : String) (value : Nat) : LocalParam Nat :=
    { name := name, dtype := { name := "torch.bfloat16", itemSize := 2 }, shape := [2, 3]
      value := value }
  let stage := if rank < 2 then [param "router" 1] else [param s!"mlp.experts.w{rank - 2}" rank]
  param "embedding" 7 :: stage

def stageNames (rank : Nat) : List String :=
  (twoByTwo.ppGroup rank).flatMap fun owner => (twoByTwoWeights owner).map LocalParam.name

theorem mem_stageNames {name : String} {rank : Nat} :
    name ∈ stageNames rank ↔
      ∃ owner ∈ twoByTwo.ppGroup rank, ∃ param ∈ twoByTwoWeights owner, param.name = name := by
  simp [stageNames]

def twoByTwoInfos (rank : Nat) : List ParamInfo := sortedInfos twoByTwo twoByTwoWeights rank

theorem twoByTwo_dense : DenseReplicated twoByTwo twoByTwoWeights := by
  have dense : ∀ rank < 4, ∀ peer ∈ twoByTwo.epGroup rank,
      ∀ name ∈ stageNames peer, isExpertName name = false → name ∈ stageNames rank := by
    decide
  intro rank isRank name notExpert peer inGroup owns
  rcases owns with ⟨owner, onStage, param, isParam, isName, noDraft⟩
  have known := dense rank isRank peer inGroup name (mem_stageNames.mpr
    ⟨owner, onStage, param, isParam, isName⟩) notExpert
  rcases mem_stageNames.mp known with ⟨other, isOther, same, inOther, sameName⟩
  exact ⟨other, isOther, same, inOther, sameName, noDraft⟩

theorem twoByTwo_oneHolder : OneHolder twoByTwo twoByTwoWeights := by
  have oneHolder : ∀ rank < 4, ∀ first ∈ twoByTwo.epGroup rank,
      ∀ second ∈ twoByTwo.epGroup rank, ∀ name ∈ (stageNames first).filter isExpertName,
        name ∈ stageNames second → first = second := by
    decide
  intro rank isRank name isExpert first inFirst second inSecond ownsFirst ownsSecond
  rcases ownsFirst with ⟨owner, onStage, param, isParam, isName, _⟩
  rcases ownsSecond with ⟨other, onOther, same, isSame, sameName, _⟩
  exact oneHolder rank isRank first inFirst second inSecond name
    (List.mem_filter.mpr
      ⟨mem_stageNames.mpr ⟨owner, onStage, param, isParam, isName⟩, isExpert⟩)
    (mem_stageNames.mpr ⟨other, onOther, same, isSame, sameName⟩)

theorem getHfWeightChunks_twoByTwo :
    ∃ (names : List String) (buckets : List (List String)) (programs : Nat → RankProgram Nat),
      (∀ rank < twoByTwo.worldSize,
        (twoByTwoInfos rank).map ParamInfo.name = names ∧
        (packParamInfoBuckets ⟨2, 1, 30⟩ (twoByTwoInfos rank)).map (List.map ParamInfo.name) =
          buckets ∧
        getHfWeightChunks twoByTwo twoByTwoWeights rank
            (packParamInfoBuckets ⟨2, 1, 30⟩ (twoByTwoInfos rank)) = .ok (programs rank)) ∧
      (∀ rank < twoByTwo.worldSize, ∀ peer < twoByTwo.worldSize,
        (programs rank).broadcasts.filter (fun op => peer ∈ op.members) =
          (programs peer).broadcasts.filter fun op => rank ∈ op.members) ∧
      ∃ total, ∀ actions state,
        runActions BroadcastState.step (fun _ _ => True) (worldState twoByTwo programs) actions =
            some state →
          (∀ op later, state.step op = some later → op.Sound state.memory) ∧
          actions.length ≤ total ∧
          (actions.length < total → ∃ op later, state.step op = some later) ∧
          (actions.length = total → ∀ rank < twoByTwo.worldSize, state.programs rank = [] ∧
            ∀ name ∈ names, ∃ value, state.memory rank name = some value ∧
              IsOwnersValue twoByTwo twoByTwoWeights rank name value) :=
  getHfWeightChunks_exchangesAll twoByTwo twoByTwoWeights ⟨2, 1, 30⟩ twoByTwo_dense
    twoByTwo_oneHolder twoByTwoInfos (by decide)

theorem getMegatronFullParams_twoByTwo :
    ∃ (names : List String) (buckets : List (List String))
      (programs : Nat → Nat → RankProgram Nat) (whole : Nat → RankProgram Nat),
      (∀ rank < twoByTwo.worldSize,
        (twoByTwoInfos rank).map ParamInfo.name = names ∧
        (packParamInfoBuckets ⟨2, 1, 30⟩ (twoByTwoInfos rank)).map (List.map ParamInfo.name) =
          buckets ∧
        (∀ (index : Nat) (bucket : List ParamInfo),
          (packParamInfoBuckets ⟨2, 1, 30⟩ (twoByTwoInfos rank))[index]? = some bucket →
          getMegatronFullParams twoByTwo twoByTwoWeights rank bucket =
            .ok (programs rank index)) ∧
        getHfWeightChunks twoByTwo twoByTwoWeights rank
            (packParamInfoBuckets ⟨2, 1, 30⟩ (twoByTwoInfos rank)) = .ok (whole rank)) ∧
      (∀ index, ∀ rank < twoByTwo.worldSize, ∀ op ∈ (programs rank index).broadcasts,
        (op.members = twoByTwo.ppGroup rank ∨ op.members = twoByTwo.epGroup rank) ∧
          op.source ∈ op.members) ∧
      (∀ index, ∀ rank < twoByTwo.worldSize, ∀ peer < twoByTwo.worldSize, ∀ group : List Nat,
        rank ∈ group → peer ∈ group →
        (programs rank index).broadcasts.filter (fun op => op.members = group) =
          (programs peer index).broadcasts.filter fun op => op.members = group) ∧
      ∃ total, ∀ actions state,
        runActions BroadcastState.step (fun _ _ => True) (worldState twoByTwo whole) actions =
            some state →
          (∀ op later, state.step op = some later → op.Sound state.memory) ∧
          actions.length ≤ total ∧
          (actions.length < total → ∃ op later, state.step op = some later) ∧
          (actions.length = total → ∀ rank < twoByTwo.worldSize, state.programs rank = [] ∧
            ∀ name ∈ names, ∃ value, state.memory rank name = some value ∧
              IsOwnersValue twoByTwo twoByTwoWeights rank name value) :=
  getMegatronFullParams_exchangesBuckets twoByTwo twoByTwoWeights ⟨2, 1, 30⟩ twoByTwo_dense
    twoByTwo_oneHolder twoByTwoInfos (by decide)

end Vime.Backends.MegatronUtils.HfWeightIterator
