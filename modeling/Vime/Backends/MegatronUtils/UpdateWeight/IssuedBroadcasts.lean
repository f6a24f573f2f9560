import Vime.Backends.MegatronUtils.UpdateWeight.AgreedInfos

/-! # The broadcasts that a rank issues

For a bucket of names a rank issues broadcasts that its whole pipeline group and its whole
expert-parallel group issue alike: the source of a parameter is its owner in the pipeline group,
or the one rank of the expert-parallel group whose pipeline group has it.
-/

namespace Vime.Backends.MegatronUtils.HfWeightIterator

open Vime.Foundation

variable {ν : Type} {layout : RankLayout} {weights : Nat → List (LocalParam ν)} {rank peer : Nat}
  {name : String} {info : ParamInfo}

/-! ## Where parameters are -/

def HasParam (weights : Nat → List (LocalParam ν)) (rank : Nat) (name : String) : Prop :=
  ∃ param ∈ weights rank, param.name = name ∧ nameContains name ".draft_model." = false

def StageHolds (layout : RankLayout) (weights : Nat → List (LocalParam ν)) (rank : Nat)
    (name : String) : Prop :=
  ∃ peer ∈ layout.ppGroup rank, HasParam weights peer name

theorem lookup_localInfos (params : List (LocalParam ν)) :
    ∀ table : InfoTable,
      ((params.foldl
          (fun table param =>
            if nameContains param.name ".draft_model." then table
            else setItem param.name (localInfo rank param) table) table).lookup name ≠ none ↔
        table.lookup name ≠ none ∨
          ∃ param ∈ params, param.name = name ∧ nameContains name ".draft_model." = false) := by
  induction params with
  | nil => simp
  | cons param rest induction =>
      intro table
      rw [List.foldl_cons, induction]
      simp only [List.mem_cons, or_and_right, exists_or, exists_eq_left]
      rw [← or_assoc]
      apply or_congr_left
      by_cases draft : nameContains param.name ".draft_model." = true
      · rw [if_pos draft]
        constructor
        · exact Or.inl
        · rintro (held | ⟨same, notDraft⟩)
          · exact held
          · rw [same, notDraft] at draft
            exact absurd draft Bool.false_ne_true
      · rw [if_neg draft, lookup_setItem]
        by_cases same : name = param.name
        · rw [if_pos same, same]
          simp [Bool.not_eq_true _ ▸ draft]
        · rw [if_neg same]
          simp [Ne.symm same]

theorem hasParam_iff (weights : Nat → List (LocalParam ν)) (rank : Nat) (name : String) :
    HasParam weights rank name ↔ (ownInfos weights rank).lookup name ≠ none := by
  rw [ownInfos, localInfos, lookup_localInfos]
  simp [HasParam]

theorem stageHolds_iff (isRank : rank < layout.worldSize) :
    StageHolds layout weights rank name ↔
      (stageInfos layout weights rank).lookup name ≠ none := by
  have knows := stageInfos_knows layout weights isRank
  constructor
  · rintro ⟨peer, inGroup, holds⟩ absent
    exact (hasParam_iff weights peer name).mp holds (knows.missing name absent peer inGroup)
  · intro found
    rcases Option.ne_none_iff_exists'.mp found with ⟨info, infoEq⟩
    rcases knows.owner name info infoEq with ⟨inGroup, isOwn, _⟩
    refine ⟨info.srcRank, inGroup, (hasParam_iff weights info.srcRank name).mpr ?_⟩
    rw [isOwn]
    exact Option.some_ne_none info

theorem mem_of_lookup_localWeights (params : List (LocalParam ν)) {value : ν} :
    ∀ table : List (String × ν),
      (params.foldl (fun table param => setItem param.name param.value table) table).lookup name =
          some value →
        table.lookup name = some value ∨
          ∃ param ∈ params, param.name = name ∧ param.value = value := by
  induction params with
  | nil => exact fun _ found => .inl found
  | cons param rest induction =>
      intro table found
      rcases induction _ found with held | ⟨other, member, isOther⟩
      · rw [lookup_setItem] at held
        split at held
        · rename_i same
          exact .inr ⟨param, List.mem_cons_self, same.symm, Option.some.inj held⟩
        · exact .inl held
      · exact .inr ⟨other, List.mem_cons_of_mem _ member, isOther⟩

/-! ## Across pipeline stages -/

def readInfos (layout : RankLayout) (weights : Nat → List (LocalParam ν)) (rank : Nat)
    (names : List String) : List ParamInfo :=
  names.filterMap fun name => (blockInfos layout weights rank).lookup name

def stageBroadcasts (layout : RankLayout) (weights : Nat → List (LocalParam ν)) (rank : Nat)
    (names : List String) : List (Broadcast Nat String) :=
  if layout.ppSize rank > 1 then
    names.filterMap fun name => ((stageInfos layout weights rank).lookup name).map fun info =>
      { members := layout.ppGroup rank, source := info.srcRank, keys := [name] }
  else []

theorem pipelineBroadcasts_eq (isRank : rank < layout.worldSize) (names : List String) :
    pipelineBroadcasts layout rank (readInfos layout weights rank names) =
      stageBroadcasts layout weights rank names := by
  have knows := blockInfos_knows layout weights isRank
  rw [pipelineBroadcasts, stageBroadcasts]
  split
  · induction names with
    | nil => rfl
    | cons name rest induction =>
        rw [readInfos] at induction ⊢
        rw [List.filterMap_cons, List.filterMap_cons]
        cases stageEq : (stageInfos layout weights rank).lookup name with
        | some info =>
            rcases (stageInfos_knows layout weights isRank).owner name info stageEq with
              ⟨inGroup, _, _⟩
            have named := (stageInfos_described isRank stageEq).1
            rw [knows.kept name info stageEq]
            dsimp only [Option.map_some]
            rw [List.filter_cons_of_pos (by simpa using inGroup), List.map_cons, induction, named]
        | none =>
            dsimp only [Option.map_none]
            cases blockEq : (blockInfos layout weights rank).lookup name with
            | none => exact induction
            | some info =>
                rcases knows.source name info blockEq with
                  isOwn | ⟨_, peer, inGroup, base, held, sent⟩
                · rw [stageEq] at isOwn
                  cases isOwn
                · have outside : info.srcRank ∉ layout.ppGroup rank := by
                    rw [sent]
                    intro onStage
                    rw [layout.oneStage rank isRank peer onStage inGroup, stageEq] at held
                    cases held
                  dsimp only
                  rw [List.filter_cons_of_neg (by simpa using outside), induction]
  · rfl

theorem stageBroadcasts_same (isRank : rank < layout.worldSize)
    (inGroup : peer ∈ layout.ppGroup rank) (names : List String) :
    stageBroadcasts layout weights peer names = stageBroadcasts layout weights rank names := by
  have sameGroup := (layout.ppGroupEq rank isRank peer inGroup).2
  have sameInfos : ∀ name, (stageInfos layout weights peer).lookup name =
      (stageInfos layout weights rank).lookup name := stageInfos_same isRank inGroup
  rw [stageBroadcasts, stageBroadcasts, RankLayout.ppSize, RankLayout.ppSize, sameGroup]
  simp only [sameInfos]

/-! ## Across expert-parallel ranks -/

def holderIndex (layout : RankLayout) (weights : Nat → List (LocalParam ν)) (rank : Nat)
    (name : String) : Nat :=
  (layout.epGroup rank).findIdx fun peer => ((stageInfos layout weights peer).lookup name).isSome

def coalescedBroadcasts (layout : RankLayout) (weights : Nat → List (LocalParam ν)) (rank : Nat)
    (names : List String) : List (Broadcast Nat String) :=
  if layout.epSize rank > 1 then
    (collect ((names.filter isExpertName).map fun name =>
        (holderIndex layout weights rank name, name))).map fun entry =>
      { members := layout.epGroup rank
        source := (layout.epGroup rank).getD entry.1 0
        keys := entry.2 }
  else []

theorem coalescedBroadcasts_same (isRank : rank < layout.worldSize)
    (inGroup : peer ∈ layout.epGroup rank) (names : List String) :
    coalescedBroadcasts layout weights peer names =
      coalescedBroadcasts layout weights rank names := by
  have sameGroup := (layout.epGroupEq rank isRank peer inGroup).2
  have sameIndex : ∀ name, holderIndex layout weights peer name =
      holderIndex layout weights rank name := fun name => by
    rw [holderIndex, holderIndex, sameGroup]
  rw [coalescedBroadcasts, coalescedBroadcasts, RankLayout.epSize, RankLayout.epSize, sameGroup]
  simp only [sameIndex]

/-- At most one rank of an expert-parallel group has a pipeline group with the expert. -/
def OneHolder (layout : RankLayout) (weights : Nat → List (LocalParam ν)) : Prop :=
  ∀ rank < layout.worldSize, ∀ name, isExpertName name = true →
    ∀ first ∈ layout.epGroup rank, ∀ second ∈ layout.epGroup rank,
      StageHolds layout weights first name → StageHolds layout weights second name → first = second

theorem holderIndex_eq (oneHolder : OneHolder layout weights) (isRank : rank < layout.worldSize)
    (isExpert : isExpertName name = true) {index : Nat}
    (isPeer : (layout.epGroup rank)[index]? = some peer)
    (holds : (stageInfos layout weights peer).lookup name ≠ none) :
    holderIndex layout weights rank name = index := by
  rcases List.getElem?_eq_some_iff.mp isPeer with ⟨inside, peerEq⟩
  have inWorld : ∀ {other : Nat}, other ∈ layout.epGroup rank → other < layout.worldSize :=
    fun inGroup => (layout.epGroupEq rank isRank _ inGroup).1
  have inGroup : peer ∈ layout.epGroup rank := List.mem_of_getElem? isPeer
  have peerHolds := (stageHolds_iff (inWorld inGroup)).mpr holds
  rw [holderIndex, List.findIdx_eq inside]
  constructor
  · rw [peerEq, Option.isSome_iff_ne_none]
    exact holds
  · intro earlier before
    have otherIn : (layout.epGroup rank)[earlier] ∈ layout.epGroup rank := List.getElem_mem _
    cases found : (stageInfos layout weights (layout.epGroup rank)[earlier]).lookup name with
    | none => rfl
    | some info =>
        have otherHolds : StageHolds layout weights (layout.epGroup rank)[earlier] name := by
          rw [stageHolds_iff (inWorld otherIn), found]
          exact Option.some_ne_none info
        have same := oneHolder rank isRank name isExpert _ otherIn _ inGroup otherHolds peerHolds
        rw [← peerEq] at same
        have sameIndex := (layout.epGroupNodup rank isRank).getElem_inj_iff.mp same
        omega

/-- The place that every rank of a group gets, whatever order the groups come in. -/
theorem lookup_foldl_groups {global place : Nat} {groups : List (Nat × List Nat)}
    (samePlace : ∀ group ∈ groups, global ∈ group.2 → group.1 = place) :
    ∀ table : List (Nat × Nat),
      (∃ group ∈ groups, global ∈ group.2) ∨ table.lookup global = some place →
        (groups.foldl
          (fun table group =>
            group.2.foldl (fun table globalRank => setItem globalRank group.1 table) table)
          table).lookup global = some place := by
  have inner : ∀ (members : List Nat) (value : Nat) (table : List (Nat × Nat)),
      (members.foldl (fun table globalRank => setItem globalRank value table) table).lookup global =
        if global ∈ members then some value else table.lookup global := by
    intro members value
    induction members with
    | nil => simp
    | cons member rest induction =>
        intro table
        rw [List.foldl_cons, induction, lookup_setItem]
        by_cases inRest : global ∈ rest
        · simp [inRest]
        · by_cases here : global = member
          · simp [here]
          · simp [inRest, here]
  induction groups with
  | nil => exact fun table placed => placed.resolve_left (by simp)
  | cons group rest induction =>
      intro table placed
      rw [List.foldl_cons]
      apply induction fun other member => samePlace other (List.mem_cons_of_mem _ member)
      rw [inner]
      by_cases inGroup : global ∈ group.2
      · right
        rw [if_pos inGroup, samePlace group List.mem_cons_self inGroup]
      · rw [if_neg inGroup]
        rcases placed with ⟨other, isGroup, inOther⟩ | held
        · rcases List.mem_cons.mp isGroup with isFirst | isLater
          · exact absurd (isFirst ▸ inOther) inGroup
          · exact .inl ⟨other, isLater, inOther⟩
        · exact .inr held

theorem lookup_epBroadcastSrcRankMap (isRank : rank < layout.worldSize)
    (several : layout.epSize rank > 1) {index : Nat}
    (isPeer : (layout.epGroup rank)[index]? = some peer) {global : Nat}
    (inStage : global ∈ layout.ppGroup peer) :
    (epBroadcastSrcRankMap layout rank).lookup global = some index := by
  have inGroup : peer ∈ layout.epGroup rank := List.mem_of_getElem? isPeer
  have peerWorld := layout.epGroupEq rank isRank peer inGroup
  rw [epBroadcastSrcRankMap, if_neg (by omega)]
  apply lookup_foldl_groups
  · intro group isGroup inOther
    rcases List.mem_iff_getElem?.mp isGroup with ⟨place, found⟩
    rw [List.getElem?_mapIdx, Option.map_eq_some_iff] at found
    rcases found with ⟨other, isOther, groupEq⟩
    rw [← groupEq] at inOther ⊢
    have otherIn : other ∈ layout.epGroup rank := List.mem_of_getElem? isOther
    have otherWorld := layout.epGroupEq rank isRank other otherIn
    -- Both pipeline groups are that of the global rank, so the two peers are one.
    have sameStage : layout.ppGroup other = layout.ppGroup peer :=
      (layout.ppGroupEq other otherWorld.1 global inOther).2.symm.trans
        (layout.ppGroupEq peer peerWorld.1 global inStage).2
    have onStage : other ∈ layout.ppGroup peer :=
      sameStage ▸ layout.inPpGroup other otherWorld.1
    have samePeer : other = peer := by
      apply layout.oneStage peer peerWorld.1 other onStage
      rw [peerWorld.2]
      exact otherIn
    rcases List.getElem?_eq_some_iff.mp isOther with ⟨inside, otherEq⟩
    rcases List.getElem?_eq_some_iff.mp isPeer with ⟨peerInside, peerEq⟩
    rw [samePeer, ← peerEq] at otherEq
    exact (layout.epGroupNodup rank isRank).getElem_inj_iff.mp otherEq
  · left
    refine ⟨(index, layout.ppGroup peer), List.mem_iff_getElem?.mpr ⟨index, ?_⟩, inStage⟩
    rw [List.getElem?_mapIdx, isPeer]
    rfl

theorem exists_holder (isRank : rank < layout.worldSize)
    (found : (blockInfos layout weights rank).lookup name = some info) :
    ∃ (index peer : Nat), (layout.epGroup rank)[index]? = some peer ∧
      (stageInfos layout weights peer).lookup name ≠ none ∧
      info.srcRank ∈ layout.ppGroup peer := by
  rcases (blockInfos_knows layout weights isRank).source name info found with
    isOwn | ⟨_, peer, inGroup, base, held, sent⟩
  · rcases List.getElem?_of_mem (layout.inEpGroup rank isRank) with ⟨index, isPlace⟩
    refine ⟨index, rank, isPlace, ?_, ?_⟩
    · rw [isOwn]
      exact Option.some_ne_none info
    · exact ((stageInfos_knows layout weights isRank).owner name info isOwn).1
  · rcases List.getElem?_of_mem inGroup with ⟨index, isPlace⟩
    refine ⟨index, peer, isPlace, ?_, ?_⟩
    · rw [held]
      exact Option.some_ne_none base
    · rw [sent]
      exact layout.inPpGroup peer (layout.epGroupEq rank isRank peer inGroup).1

theorem expertSource_eq (oneHolder : OneHolder layout weights) (isRank : rank < layout.worldSize)
    (several : layout.epSize rank > 1) (isExpert : isExpertName name = true)
    (found : (blockInfos layout weights rank).lookup name = some info) :
    expertSource (epBroadcastSrcRankMap layout rank) info =
      .ok (holderIndex layout weights rank name, name) := by
  rcases exists_holder isRank found with ⟨index, peer, isPeer, holds, inStage⟩
  rw [expertSource, lookup_epBroadcastSrcRankMap isRank several isPeer inStage,
    holderIndex_eq oneHolder isRank isExpert isPeer holds, (blockInfos_described isRank found).1]

def Known (layout : RankLayout) (weights : Nat → List (LocalParam ν)) (rank : Nat)
    (names : List String) : Prop :=
  ∀ name ∈ names, (blockInfos layout weights rank).lookup name ≠ none

theorem mapM_expertSource (oneHolder : OneHolder layout weights) (isRank : rank < layout.worldSize)
    (several : layout.epSize rank > 1) {names : List String}
    (known : Known layout weights rank names) :
    ((readInfos layout weights rank names).filter fun info => isExpertName info.name).mapM
        (expertSource (epBroadcastSrcRankMap layout rank)) =
      .ok ((names.filter isExpertName).map fun name =>
        (holderIndex layout weights rank name, name)) := by
  induction names with
  | nil => rfl
  | cons name rest induction =>
      have later := induction fun other member => known other (List.mem_cons_of_mem _ member)
      rcases Option.ne_none_iff_exists'.mp (known name List.mem_cons_self) with ⟨info, found⟩
      rw [readInfos] at later ⊢
      rw [List.filterMap_cons, found]
      dsimp only
      have named := (blockInfos_described isRank found).1
      by_cases isExpert : isExpertName name = true
      · rw [List.filter_cons_of_pos (by rw [named]; exact isExpert),
          List.filter_cons_of_pos isExpert, List.mapM_cons, List.map_cons, later,
          expertSource_eq oneHolder isRank several isExpert found]
        rfl
      · rw [List.filter_cons_of_neg (by rw [named]; exact isExpert),
          List.filter_cons_of_neg isExpert, later]

theorem holder_of_known (oneHolder : OneHolder layout weights) (isRank : rank < layout.worldSize)
    (isExpert : isExpertName name = true)
    (known : (blockInfos layout weights rank).lookup name ≠ none) :
    ∃ peer, (layout.epGroup rank)[holderIndex layout weights rank name]? = some peer ∧
      (stageInfos layout weights peer).lookup name ≠ none := by
  rcases Option.ne_none_iff_exists'.mp known with ⟨info, found⟩
  rcases exists_holder isRank found with ⟨index, peer, isPeer, holds, _⟩
  rw [holderIndex_eq oneHolder isRank isExpert isPeer holds]
  exact ⟨peer, isPeer, holds⟩

theorem expertBroadcasts_eq (oneHolder : OneHolder layout weights)
    (isRank : rank < layout.worldSize) {names : List String} (known : Known layout weights rank names) :
    expertBroadcasts layout rank (readInfos layout weights rank names) =
      .ok (coalescedBroadcasts layout weights rank names) := by
  rw [expertBroadcasts, coalescedBroadcasts]
  split
  · rename_i several
    rw [broadcastExpertParams, mapM_expertSource oneHolder isRank several known, ok_bind]
    apply mapM_eq_ok_map
    intro entry member
    have isKey := mem_keys_collect.mp (List.mem_map_of_mem member)
    rw [List.map_map] at isKey
    rcases List.mem_map.mp isKey with ⟨name, inNames, keyEq⟩
    rw [List.mem_filter] at inNames
    rcases holder_of_known oneHolder isRank inNames.2 (known name inNames.1) with
      ⟨peer, isPeer, _⟩
    have placed : (layout.epGroup rank)[entry.1]? = some peer := by
      rw [← keyEq]
      exact isPeer
    rw [expertBroadcast, itemAt_eq_ok.mpr placed, ok_bind, List.getD_eq_getElem?_getD, placed]
    rfl
  · rfl

end Vime.Backends.MegatronUtils.HfWeightIterator
