import Vime.Backends.MegatronUtils.UpdateWeight.PlannedParams

/-! # What an expert transfer plan delivers

The parameters pass from the list through the dict of transfers, the dict of layers and the
batches, and none is lost or repeated on the way.
-/

namespace Vime.Backends.MegatronUtils.ExpertRouting

open Vime.Foundation

/-! ## Transfers -/

/-- The transfer of one entry of `params_by_transfer`. -/
def entryTransfer (entry : (Nat × Nat × List Int × Int) × List ExpertParam) : ExpertTransfer where
  sourceRank := entry.1.2.2.2
  targetRanks := entry.1.2.2.1
  params := sortedBy (fun param => toLex (param.expert, param.info.name)) entry.2

section Transfers

variable {params : List ExpertParam}

theorem mem_paramsByTransfer {key : Nat × Nat × List Int × Int} {held : List ExpertParam}
    (member : (key, held) ∈ paramsByTransfer params) :
    (∀ param, param ∈ held ↔ param ∈ params ∧
      (param.layer, param.expert, param.targetRanks, param.info.srcRank) = key) ∧ held ≠ [] := by
  have contents (param : ExpertParam) : param ∈ held ↔ param ∈ params ∧
      (param.layer, param.expert, param.targetRanks, param.info.srcRank) = key := by
    rw [eq_valuesAt_of_mem member, mem_valuesAt, List.mem_map]
    constructor
    · rintro ⟨other, inParams, same⟩
      cases same
      exact ⟨inParams, rfl⟩
    · rintro ⟨inParams, rfl⟩
      exact ⟨param, inParams, rfl⟩
  refine ⟨contents, ?_⟩
  have isKey : key ∈ (paramsByTransfer params).map Prod.fst := List.mem_map_of_mem member
  rw [paramsByTransfer, mem_keys_collect, List.map_map] at isKey
  rcases List.mem_map.mp isKey with ⟨param, inParams, keyEq⟩
  exact List.ne_nil_of_mem ((contents param).mpr ⟨inParams, keyEq⟩)

theorem entryTransfers_params :
    (((paramsByTransfer params).map entryTransfer).flatMap ExpertTransfer.params).Perm params := by
  have all := flatMap_collect_perm (params.map fun param =>
    ((param.layer, param.expert, param.targetRanks, param.info.srcRank), param))
  rw [List.map_map] at all
  have same : (params.map (Prod.snd ∘ fun param : ExpertParam =>
      ((param.layer, param.expert, param.targetRanks, param.info.srcRank), param))) = params :=
    List.map_id _
  rw [same] at all
  rw [List.flatMap_map]
  apply List.Perm.trans _ all
  apply List.Perm.flatMap_left
  intro entry _
  exact sortedBy_perm _ entry.2

theorem transfersByLayer_eq : transfersByLayer params =
    collect ((paramsByTransfer params).map fun entry => (entry.1.1, entryTransfer entry)) :=
  rfl

theorem nodup_layers : ((transfersByLayer params).map Prod.fst).Nodup := nodup_keys_collect _

theorem transfersByLayer_perm : ((transfersByLayer params).flatMap Prod.snd).Perm
    ((paramsByTransfer params).map entryTransfer) := by
  have all := flatMap_collect_perm
    ((paramsByTransfer params).map fun entry => (entry.1.1, entryTransfer entry))
  rw [List.map_map] at all
  exact all

theorem mem_transfersByLayer {layer : Nat} {transfers : List ExpertTransfer}
    (member : (layer, transfers) ∈ transfersByLayer params) :
    transfers ≠ [] ∧ ∀ transfer ∈ transfers, ∀ param ∈ transfer.params, param.layer = layer := by
  have valuesEq := eq_valuesAt_of_mem member
  constructor
  · have isKey : layer ∈ (transfersByLayer params).map Prod.fst := List.mem_map_of_mem member
    rw [transfersByLayer_eq, mem_keys_collect] at isKey
    rcases List.mem_map.mp isKey with ⟨entry, inEntries, rfl⟩
    rw [valuesEq]
    exact List.ne_nil_of_mem (mem_valuesAt.mpr inEntries)
  · intro transfer inTransfers param inTransfer
    rw [valuesEq, mem_valuesAt] at inTransfers
    rcases List.mem_map.mp inTransfers with ⟨entry, inEntries, entryEq⟩
    cases entryEq
    have inEntry := (sortedBy_perm _ entry.2).mem_iff.mp inTransfer
    exact congrArg Prod.fst (((mem_paramsByTransfer inEntries).1 param).mp inEntry).2

end Transfers

/-! ## Groups -/

theorem flatten_forall₂_perm {items : β → List α} {keys : List β} {groups : List (List (List α))}
    (each : List.Forall₂ (fun key group => (List.flatten group).Perm (items key)) keys groups) :
    groups.flatten.flatten.Perm (keys.flatMap items) := by
  induction each with
  | nil => exact List.Perm.refl _
  | cons same _ induction =>
      rw [List.flatten_cons, List.flatten_append, List.flatMap_cons]
      exact same.append induction

/-- The batches of a group hold the transfers of a layer, within the buffer. -/
structure LayerPacked (params : List ExpertParam) (bufferSize layer : Nat)
    (group : ExpertTransferGroup) : Prop where
  holds : (List.flatten group).Perm (((transfersByLayer params).lookup layer).getD [])
  bounded : ∀ batch ∈ group, ∀ rank, rankLoad rank batch ≤ bufferSize

def Grouped (params : List ExpertParam) (bufferSize : Nat) (plan : List ExpertTransferGroup) :
    Prop :=
  List.Forall₂ (LayerPacked params bufferSize)
    (sortedBy id ((transfersByLayer params).map Prod.fst)) plan

section Plan

variable {params : List ExpertParam} {bufferSize : Nat}

theorem layerTransfers {layer : Nat}
    (isLayer : layer ∈ sortedBy id ((transfersByLayer params).map Prod.fst)) :
    ∃ transfers, (layer, transfers) ∈ transfersByLayer params ∧
      ((transfersByLayer params).lookup layer).getD [] = transfers := by
  have isKey := (sortedBy_perm _ _).mem_iff.mp isLayer
  rcases List.mem_map.mp isKey with ⟨entry, member, rfl⟩
  refine ⟨entry.2, member, ?_⟩
  rw [lookup_of_mem nodup_layers member]
  rfl

variable (params) in
theorem buildExpertTransferPlan_spec (positive : 0 < bufferSize) :
    ((∃ plan, buildExpertTransferPlan params bufferSize = .ok plan) ↔
        ∀ entry ∈ paramsByTransfer params,
          expertTransferSize (entryTransfer entry) ≤ bufferSize) ∧
      ∀ plan, buildExpertTransferPlan params bufferSize = .ok plan →
        Grouped params bufferSize plan := by
  have packs (layer : Nat)
      (isLayer : layer ∈ sortedBy id ((transfersByLayer params).map Prod.fst)) :
      sortedBy (fun transfer => toLex (transfer.targetRanks, transfer.sourceRank))
        (((transfersByLayer params).lookup layer).getD []) ≠ [] := by
    rcases layerTransfers isLayer with ⟨transfers, member, found⟩
    intro noTransfer
    have perm := sortedBy_perm (fun transfer : ExpertTransfer =>
      toLex (transfer.targetRanks, transfer.sourceRank)) transfers
    rw [found] at noTransfer
    rw [noTransfer] at perm
    exact (mem_transfersByLayer member).1 (List.nil_perm.mp perm)
  rw [buildExpertTransferPlan, raiseIf, if_neg (Nat.ne_of_gt positive), ok_bind]
  constructor
  · have inLayer (transfer : ExpertTransfer) :
        transfer ∈ (paramsByTransfer params).map entryTransfer ↔
          ∃ layer ∈ sortedBy id ((transfersByLayer params).map Prod.fst),
            transfer ∈ ((transfersByLayer params).lookup layer).getD [] := by
      rw [← transfersByLayer_perm.mem_iff, ← (flatMap_lookup_perm nodup_layers
        (sortedBy_perm id ((transfersByLayer params).map Prod.fst))).mem_iff, List.mem_flatMap]
    constructor
    · rintro ⟨plan, returned⟩ entry member
      rcases (inLayer _).mp (List.mem_map_of_mem member) with ⟨layer, isLayer, inTransfers⟩
      have packed := mapM_eq_ok_mem returned layer isLayer
      exact (packExpertTransferBatches_spec (packs layer isLayer)).1.mp packed _
        ((sortedBy_perm _ _).mem_iff.mpr inTransfers)
    · intro fits
      rcases mapM_exists_forall (fun layer => packExpertTransferBatches
          (sortedBy (fun transfer => toLex (transfer.targetRanks, transfer.sourceRank))
            (((transfersByLayer params).lookup layer).getD [])) bufferSize) (fun _ => True)
        (sortedBy id ((transfersByLayer params).map Prod.fst)) (by
          intro layer isLayer
          rcases (packExpertTransferBatches_spec (packs layer isLayer)).1.mpr (by
            intro transfer member
            have inTransfers := (sortedBy_perm _ _).mem_iff.mp member
            rcases List.mem_map.mp ((inLayer transfer).mpr ⟨layer, isLayer, inTransfers⟩) with
              ⟨entry, inEntries, rfl⟩
            exact fits entry inEntries) with ⟨batches, batchesEq⟩
          exact ⟨batches, batchesEq, trivial⟩) with ⟨plan, planEq, _⟩
      exact ⟨plan, planEq⟩
  · intro plan returned
    have each := (List.forall₂_and_left ..).mpr ⟨fun _ isLayer => isLayer,
      (mapM_eq_ok _ _ plan).mp returned⟩
    apply each.imp
    rintro layer group ⟨isLayer, packed⟩
    rcases (packExpertTransferBatches_spec (packs layer isLayer)).2 group packed with
      ⟨holds, bounded⟩
    exact ⟨holds.trans (sortedBy_perm _ _), bounded⟩

theorem Grouped.transfers_perm {plan : List ExpertTransferGroup}
    (grouped : Grouped params bufferSize plan) :
    plan.flatten.flatten.Perm ((paramsByTransfer params).map entryTransfer) := by
  have joined := flatten_forall₂_perm (grouped.imp fun layer group packed => packed.holds)
  exact joined.trans ((flatMap_lookup_perm nodup_layers (sortedBy_perm _ _)).trans
    transfersByLayer_perm)

theorem Grouped.params_perm {plan : List ExpertTransferGroup}
    (grouped : Grouped params bufferSize plan) :
    (plan.flatten.flatten.flatMap ExpertTransfer.params).Perm params :=
  (grouped.transfers_perm.flatMap_right _).trans entryTransfers_params

theorem Grouped.layered {plan : List ExpertTransferGroup}
    (grouped : Grouped params bufferSize plan) :
    ∃ layers : List Nat, layers.Pairwise (· < ·) ∧
      List.Forall₂ (fun layer group => ∀ transfer ∈ List.flatten group,
        ∀ param ∈ transfer.params, param.layer = layer) layers plan := by
  refine ⟨sortedBy id ((transfersByLayer params).map Prod.fst), ?_, ?_⟩
  · have distinct : (sortedBy id ((transfersByLayer params).map Prod.fst)).Nodup :=
      (sortedBy_perm _ _).nodup_iff.mpr nodup_layers
    apply ((sortedBy_ordered id ((transfersByLayer params).map Prod.fst)).and distinct).imp
    exact fun both => Nat.lt_of_le_of_ne both.1 both.2
  · have each := (List.forall₂_and_left ..).mpr ⟨fun _ isLayer => isLayer, grouped⟩
    apply each.imp
    rintro layer group ⟨isLayer, packed⟩ transfer inGroup
    rcases layerTransfers isLayer with ⟨transfers, member, found⟩
    have inTransfers := packed.holds.mem_iff.mp inGroup
    rw [found] at inTransfers
    exact (mem_transfersByLayer member).2 transfer inTransfers

theorem Grouped.within {plan : List ExpertTransferGroup}
    (grouped : Grouped params bufferSize plan) :
    ∀ group ∈ plan, ∀ batch ∈ group, ∀ rank, rankLoad rank batch ≤ bufferSize := by
  intro group member
  rcases List.getElem?_of_mem member with ⟨index, isGroup⟩
  rcases List.getElem?_eq_some_iff.mp isGroup with ⟨inside, rfl⟩
  have isLayer : index < (sortedBy id ((transfersByLayer params).map Prod.fst)).length := by
    rw [List.Forall₂.length_eq grouped]
    exact inside
  exact (List.Forall₂.get grouped isLayer inside).bounded

end Plan

/-! ## The plan of the infos -/

def RoutedInfo.coordinates (info : RoutedInfo) : Nat × Nat × Nat :=
  (info.layer, info.expert, info.projection)

def sentParams (plan : List ExpertTransferGroup) : List ExpertParam :=
  plan.flatten.flatten.flatMap ExpertTransfer.params

/-- Every parameter is in one transfer of one batch, from its first owner to the ranks of its
expert; the layers ascend; and no rank stages more than the buffer. -/
structure Delivers (infos : List RoutedInfo) (localNamesByRank : List (List String))
    (engineGpuOffsets : List Int) (expertsPerRank bufferSize : Nat)
    (plan : List ExpertTransferGroup) : Prop where
  once : ∀ info ∈ infos, (sentParams plan).countP (fun param => param.info.name = info.name) = 1
  coordinatesOnce : (infos.map RoutedInfo.coordinates).Nodup → ∀ info ∈ infos,
    (sentParams plan).countP (fun param => param.info.coordinates = info.coordinates) = 1
  routed : ∀ transfer ∈ plan.flatten.flatten, ∀ param ∈ transfer.params, ∃ info ∈ infos,
    param.info.name = info.name ∧ param.layer = info.layer ∧ param.expert = info.expert ∧
      IsLowestOwner localNamesByRank info.name transfer.sourceRank ∧
      transfer.targetRanks =
        engineGpuOffsets.map fun gpuOffset => gpuOffset + ((info.expert / expertsPerRank : Nat) : Int)
  layered : ∃ layers : List Nat, layers.Pairwise (· < ·) ∧
    List.Forall₂ (fun layer group => ∀ transfer ∈ List.flatten group,
      ∀ param ∈ transfer.params, param.layer = layer) layers plan
  bounded : ∀ group ∈ plan, ∀ batch ∈ group, ∀ rank,
    ((batch.filter fun transfer => rank = transfer.sourceRank ∨ rank ∈ transfer.targetRanks).map
      expertTransferSize).sum ≤ bufferSize

def bundleSize (infos : List RoutedInfo) (localNamesByRank : List (List String))
    (layer expert owner : Nat) : Nat :=
  ((infos.filter fun info => info.layer = layer ∧ info.expert = expert ∧
    ownerOf localNamesByRank info.name = some owner).map fun info => info.size).sum

section Planning

variable {infos : List RoutedInfo} {localNamesByRank : List (List String)}
  {engineGpuCounts : List Nat} {engineGpuOffsets : List Int}
  {epSize worldSize numExperts bufferSize : Nat}

def plannedInfo (localNamesByRank : List (List String)) (engineGpuOffsets : List Int)
    (expertsPerRank : Nat) (info : RoutedInfo) : ExpertParam :=
  plannedParam engineGpuOffsets expertsPerRank (info.sourced localNamesByRank)

def plannedParams (infos : List RoutedInfo) (localNamesByRank : List (List String))
    (engineGpuOffsets : List Int) (expertsPerRank : Nat) : List ExpertParam :=
  sortedBy (fun param => toLex (param.layer, param.info.name))
    ((infos.map (RoutedInfo.sourced localNamesByRank)).map
      (plannedParam engineGpuOffsets expertsPerRank))

variable (infos localNamesByRank engineGpuOffsets) in
theorem plannedParams_perm (expertsPerRank : Nat) :
    (plannedParams infos localNamesByRank engineGpuOffsets expertsPerRank).Perm
      (infos.map (plannedInfo localNamesByRank engineGpuOffsets expertsPerRank)) := by
  apply (sortedBy_perm _ _).trans
  rw [List.map_map]
  exact List.Perm.refl _

theorem accepted_sourced :
    Accepted (infos.map (RoutedInfo.sourced localNamesByRank)) numExperts ↔
      Accepted infos numExperts := by
  have complete (layer : Nat) :
      LayerComplete (infos.map (RoutedInfo.sourced localNamesByRank)) numExperts layer ↔
        LayerComplete infos numExperts layer := by
    simp only [LayerComplete, List.mem_map, exists_exists_and_eq_and]
    exact Iff.rfl
  constructor
  · intro accepted
    refine ⟨fun none => accepted.nonempty (by rw [none]; rfl), ?_, ?_⟩
    · intro info member
      exact accepted.inRange (info.sourced localNamesByRank) (List.mem_map_of_mem member)
    · intro info member
      exact (complete _).mp
        (accepted.complete (info.sourced localNamesByRank) (List.mem_map_of_mem member))
  · intro accepted
    refine ⟨fun none => accepted.nonempty (List.map_eq_nil_iff.mp none), ?_, ?_⟩
    · intro info member
      rcases List.mem_map.mp member with ⟨original, isOriginal, rfl⟩
      exact accepted.inRange original isOriginal
    · intro info member
      rcases List.mem_map.mp member with ⟨original, isOriginal, rfl⟩
      exact (complete _).mpr (accepted.complete original isOriginal)

/-- The key of a parameter in `params_by_transfer`. -/
def transferKey (param : ExpertParam) : Nat × Nat × List Int × Int :=
  (param.layer, param.expert, param.targetRanks, param.info.srcRank)

theorem entryTransfer_size {expertsPerRank : Nat}
    {entry : (Nat × Nat × List Int × Int) × List ExpertParam}
    (member : entry ∈ paramsByTransfer
      (plannedParams infos localNamesByRank engineGpuOffsets expertsPerRank)) :
    expertTransferSize (entryTransfer entry) =
      ((infos.filter fun info =>
        transferKey (plannedInfo localNamesByRank engineGpuOffsets expertsPerRank info) =
          entry.1).map fun info => info.size).sum := by
  have sizes : expertTransferSize (entryTransfer entry) =
      (entry.2.map fun param => param.info.size).sum :=
    ((sortedBy_perm _ entry.2).map _).sum_eq
  have perm := plannedParams_perm infos localNamesByRank engineGpuOffsets expertsPerRank
  have filtered := ((perm.filter fun param => decide (transferKey param = entry.1)).map
    fun param => param.info.size).sum_eq
  rw [List.filter_map, List.map_map] at filtered
  rw [sizes, eq_valuesAt_of_mem member, valuesAt, List.filter_map, List.map_map, List.map_map]
  exact filtered

/-- Every transfer fits if every bundle does. -/
theorem transfers_fit_iff {expertsPerRank : Nat}
    (owned : ∀ info ∈ infos, Owned localNamesByRank info.name) :
    (∀ entry ∈ paramsByTransfer
        (plannedParams infos localNamesByRank engineGpuOffsets expertsPerRank),
        expertTransferSize (entryTransfer entry) ≤ bufferSize) ↔
      ∀ layer expert owner, bundleSize infos localNamesByRank layer expert owner ≤ bufferSize := by
  -- The key of an info tells its layer, its expert and its owner.
  have bundle (info : RoutedInfo) (owner : Nat)
      (isOwner : ownerOf localNamesByRank info.name = some owner) :
      ((infos.filter fun other =>
        transferKey (plannedInfo localNamesByRank engineGpuOffsets expertsPerRank other) =
          transferKey (plannedInfo localNamesByRank engineGpuOffsets expertsPerRank info)).map
        fun other => other.size).sum =
      bundleSize infos localNamesByRank info.layer info.expert owner := by
    rw [bundleSize]
    apply congrArg
    apply congrArg
    apply List.filter_congr
    intro other isOther
    rcases owned_iff.mp (owned other isOther) with ⟨otherOwner, isOtherOwner⟩
    apply decide_eq_decide.mpr
    simp only [transferKey, plannedInfo, plannedParam, RoutedInfo.sourced, isOwner, isOtherOwner,
      Option.getD_some, Prod.mk.injEq, Option.some.injEq, Int.natCast_inj]
    constructor
    · exact fun same => ⟨same.1, same.2.1, same.2.2.2⟩
    · rintro ⟨layerEq, expertEq, ownerEq⟩
      exact ⟨layerEq, expertEq, by rw [expertEq], ownerEq⟩
  have perm := plannedParams_perm infos localNamesByRank engineGpuOffsets expertsPerRank
  constructor
  · intro fits layer expert owner
    by_cases noInfo : (infos.filter fun info => info.layer = layer ∧ info.expert = expert ∧
        ownerOf localNamesByRank info.name = some owner) = []
    · rw [bundleSize, noInfo]
      exact Nat.zero_le _
    · rcases List.exists_mem_of_ne_nil _ noInfo with ⟨info, member⟩
      rw [List.mem_filter, decide_eq_true_eq] at member
      rcases member with ⟨isInfo, rfl, rfl, isOwner⟩
      have isKey : transferKey (plannedInfo localNamesByRank engineGpuOffsets expertsPerRank info) ∈
          (paramsByTransfer (plannedParams infos localNamesByRank engineGpuOffsets
            expertsPerRank)).map Prod.fst := by
        rw [paramsByTransfer, mem_keys_collect, List.map_map, List.mem_map]
        exact ⟨_, perm.mem_iff.mpr (List.mem_map_of_mem isInfo), rfl⟩
      rcases List.mem_map.mp isKey with ⟨entry, inEntries, entryEq⟩
      rw [← bundle info owner isOwner, ← entryEq, ← entryTransfer_size inEntries]
      exact fits entry inEntries
  · intro fits entry inEntries
    rcases mem_paramsByTransfer inEntries with ⟨contents, nonempty⟩
    rcases List.exists_mem_of_ne_nil _ nonempty with ⟨param, inEntry⟩
    rcases (contents param).mp inEntry with ⟨inParams, keyEq⟩
    rcases List.mem_map.mp (perm.mem_iff.mp inParams) with ⟨info, isInfo, rfl⟩
    rcases owned_iff.mp (owned info isInfo) with ⟨owner, isOwner⟩
    rw [entryTransfer_size inEntries, ← keyEq]
    exact Nat.le_trans (Nat.le_of_eq (bundle info owner isOwner)) (fits _ _ owner)

variable (infos localNamesByRank) in
/-- The planning returns exactly if the infos are accepted and owned and the bundles fit. -/
theorem planExpertTransfers_spec
    (layout : EngineLayout epSize worldSize engineGpuCounts engineGpuOffsets)
    (divides : epSize ∣ numExperts) (positive : 0 < bufferSize) :
    ((∃ plan, planExpertTransfers infos localNamesByRank engineGpuCounts engineGpuOffsets epSize
        worldSize numExperts bufferSize = .ok plan) ↔
      (∀ info ∈ infos, Owned localNamesByRank info.name) ∧ Accepted infos numExperts ∧
        ∀ layer expert owner, bundleSize infos localNamesByRank layer expert owner ≤ bufferSize) ∧
      ∀ plan, planExpertTransfers infos localNamesByRank engineGpuCounts engineGpuOffsets epSize
        worldSize numExperts bufferSize = .ok plan →
        (∀ info ∈ infos, Owned localNamesByRank info.name) ∧
          Grouped (plannedParams infos localNamesByRank engineGpuOffsets (numExperts / epSize))
            bufferSize plan := by
  have steps (plan : List ExpertTransferGroup) :
      planExpertTransfers infos localNamesByRank engineGpuCounts engineGpuOffsets epSize
          worldSize numExperts bufferSize = .ok plan ↔
        (∀ info ∈ infos, Owned localNamesByRank info.name) ∧ Accepted infos numExperts ∧
          buildExpertTransferPlan (plannedParams infos localNamesByRank engineGpuOffsets
            (numExperts / epSize)) bufferSize = .ok plan := by
    rw [planExpertTransfers, layout.getExpertTargetRanks_eq]
    simp only [bind_eq_ok, setExpertSourceRanks_eq_ok, ok_bind,
      buildExpertParams_eq_ok layout.positive divides]
    constructor
    · rintro ⟨_, ⟨owned, rfl⟩, _, ⟨accepted, rfl⟩, built⟩
      exact ⟨owned, accepted_sourced.mp accepted, built⟩
    · rintro ⟨owned, accepted, built⟩
      exact ⟨_, ⟨owned, rfl⟩, _, ⟨accepted_sourced.mpr accepted, rfl⟩, built⟩
  have built := buildExpertTransferPlan_spec
    (plannedParams infos localNamesByRank engineGpuOffsets (numExperts / epSize)) positive
  constructor
  · simp only [steps, exists_and_left, built.1]
    constructor
    · rintro ⟨owned, accepted, fits⟩
      exact ⟨owned, accepted, (transfers_fit_iff owned).mp fits⟩
    · rintro ⟨owned, accepted, fits⟩
      exact ⟨owned, accepted, (transfers_fit_iff owned).mpr fits⟩
  · intro plan returned
    rcases (steps plan).mp returned with ⟨owned, _, isBuilt⟩
    exact ⟨owned, built.2 plan isBuilt⟩

theorem countP_key_eq_one {κ : Type} [DecidableEq κ] {items : List α} {key : α → κ}
    (distinct : (items.map key).Nodup) {item : α} (member : item ∈ items) :
    items.countP (fun other => key other = key item) = 1 := by
  have counted := List.count_eq_one_of_mem distinct (List.mem_map_of_mem member)
  rw [List.count, List.countP_map] at counted
  exact counted

theorem Grouped.delivers {plan : List ExpertTransferGroup}
    (distinct : (infos.map fun info => info.name).Nodup)
    (owned : ∀ info ∈ infos, Owned localNamesByRank info.name) {expertsPerRank : Nat}
    (grouped : Grouped (plannedParams infos localNamesByRank engineGpuOffsets expertsPerRank)
      bufferSize plan) :
    Delivers infos localNamesByRank engineGpuOffsets expertsPerRank bufferSize plan := by
  have perm := plannedParams_perm infos localNamesByRank engineGpuOffsets expertsPerRank
  have sent : (sentParams plan).Perm
      (infos.map (plannedInfo localNamesByRank engineGpuOffsets expertsPerRank)) :=
    grouped.params_perm.trans perm
  constructor
  · intro info isInfo
    rw [sent.countP_eq, List.countP_map]
    exact countP_key_eq_one distinct isInfo
  · intro distinctCoordinates info isInfo
    rw [sent.countP_eq, List.countP_map]
    exact countP_key_eq_one distinctCoordinates isInfo
  · intro transfer inPlan param inTransfer
    rcases List.mem_map.mp (grouped.transfers_perm.mem_iff.mp inPlan) with
      ⟨entry, inEntries, rfl⟩
    have inEntry := (sortedBy_perm _ entry.2).mem_iff.mp inTransfer
    rcases ((mem_paramsByTransfer inEntries).1 param).mp inEntry with ⟨inParams, keyEq⟩
    rcases List.mem_map.mp (perm.mem_iff.mp inParams) with ⟨info, isInfo, rfl⟩
    rcases owned_iff.mp (owned info isInfo) with ⟨owner, isOwner⟩
    refine ⟨info, isInfo, rfl, rfl, rfl, ?_, ?_⟩
    · have sourceEq : (entryTransfer entry).sourceRank = (owner : Int) := by
        rw [entryTransfer, ← keyEq, plannedInfo, plannedParam, RoutedInfo.sourced, isOwner]
        rfl
      rw [sourceEq]
      exact ownerOf_isLowestOwner isOwner
    · rw [entryTransfer, ← keyEq]
      rfl
  · exact grouped.layered
  · intro group inPlan batch inGroup rank
    have within := grouped.within group inPlan batch inGroup rank
    rw [rankLoad] at within
    simp only [mem_participants] at within
    exact within

/-- What a plan delivers, and when the planning raises. -/
theorem planExpertTransfers_delivers
    (layout : EngineLayout epSize worldSize engineGpuCounts engineGpuOffsets)
    (divides : epSize ∣ numExperts) (positive : 0 < bufferSize)
    (distinct : (infos.map fun info => info.name).Nodup) :
    (∀ plan, planExpertTransfers infos localNamesByRank engineGpuCounts engineGpuOffsets epSize
        worldSize numExperts bufferSize = .ok plan →
      Delivers infos localNamesByRank engineGpuOffsets (numExperts / epSize) bufferSize plan) ∧
    ((∃ exception, planExpertTransfers infos localNamesByRank engineGpuCounts engineGpuOffsets
        epSize worldSize numExperts bufferSize = .error exception) ↔
      infos = [] ∨ (∃ info ∈ infos, ¬ LayerComplete infos numExperts info.layer) ∨
        (∃ info ∈ infos, numExperts ≤ info.expert) ∨
        (∃ info ∈ infos, ¬ Owned localNamesByRank info.name) ∨
        ∃ layer expert owner,
          bufferSize < bundleSize infos localNamesByRank layer expert owner) := by
  have spec := planExpertTransfers_spec infos localNamesByRank layout divides positive
  constructor
  · intro plan returned
    rcases spec.2 plan returned with ⟨owned, grouped⟩
    exact grouped.delivers distinct owned
  · have raises : (∃ exception, planExpertTransfers infos localNamesByRank engineGpuCounts
        engineGpuOffsets epSize worldSize numExperts bufferSize = .error exception) ↔
          ¬ ∃ plan, planExpertTransfers infos localNamesByRank engineGpuCounts engineGpuOffsets
            epSize worldSize numExperts bufferSize = .ok plan := by
      cases planExpertTransfers infos localNamesByRank engineGpuCounts engineGpuOffsets epSize
        worldSize numExperts bufferSize with
      | error exception => simp
      | ok plan => simp
    rw [raises, spec.1]
    constructor
    · intro refused
      by_contra accepted
      simp only [not_or, not_exists, not_and, not_not, Nat.not_le, Nat.not_lt] at accepted
      exact refused ⟨accepted.2.2.2.1, ⟨accepted.1, accepted.2.2.1, accepted.2.1⟩,
        accepted.2.2.2.2⟩
    · rintro (none | ⟨info, isInfo, gap⟩ | ⟨info, isInfo, beyond⟩ | ⟨info, isInfo, unowned⟩ |
        ⟨layer, expert, owner, exceeds⟩) ⟨owned, accepted, fits⟩
      · exact accepted.nonempty none
      · exact gap (accepted.complete info isInfo)
      · exact absurd (accepted.inRange info isInfo) (Nat.not_lt.mpr beyond)
      · exact unowned (owned info isInfo)
      · exact absurd (fits layer expert owner) (Nat.not_le.mpr exceeds)

end Planning

def oneExpert : List RoutedInfo :=
  [{ name := "module.module.decoder.layers.0.mlp.experts.linear_fc1.weight0"
     size := 60, srcRank := 0, layer := 0, projection := 1, expert := 0, isRouted := by decide },
    { name := "module.module.decoder.layers.0.mlp.experts.linear_fc2.weight0"
      size := 60, srcRank := 0, layer := 0, projection := 2, expert := 0, isRouted := by decide }]

def wrappedInfo : RoutedInfo where
  name := "module.module.language_model.decoder.layers.0.mlp.experts.linear_fc1.weight0"
  size := 60
  srcRank := 0
  layer := 0
  projection := 1
  expert := 0
  isRouted := by decide

def oneExpertOwners : List (List String) :=
  [oneExpert.map fun info => info.name, [wrappedInfo.name]]

theorem planExpertTransfers_oneExpert :
    ∃ plan, planExpertTransfers oneExpert oneExpertOwners [1, 1] [0, 1] 1 2 1 200 = .ok plan ∧
      Delivers oneExpert oneExpertOwners [0, 1] (1 / 1) 200 plan := by
  have layout : EngineLayout 1 2 [1, 1] [0, 1] :=
    ⟨by decide, rfl, by decide, by decide⟩
  have planned : (planExpertTransfers oneExpert oneExpertOwners [1, 1] [0, 1] 1 2 1 200).isOk := by
    decide
  cases returned : planExpertTransfers oneExpert oneExpertOwners [1, 1] [0, 1] 1 2 1 200 with
  | error exception =>
      rw [returned] at planned
      cases planned
  | ok plan =>
      exact ⟨plan, rfl, (planExpertTransfers_delivers layout (Nat.dvd_refl 1) (by decide)
        (by decide)).1 plan returned⟩

def transfersOf (coordinates : Nat × Nat × Nat) (plan : List ExpertTransferGroup) :
    List ExpertTransfer :=
  plan.flatten.flatten.filter fun transfer =>
    ∃ param ∈ transfer.params, param.info.coordinates = coordinates

theorem coordinates_sentTwice :
    ¬ ∀ (infos : List RoutedInfo) (localNamesByRank : List (List String))
      (engineGpuCounts : List Nat) (engineGpuOffsets : List Int)
      (epSize worldSize numExperts bufferSize : Nat) (plan : List ExpertTransferGroup),
      EngineLayout epSize worldSize engineGpuCounts engineGpuOffsets → epSize ∣ numExperts →
      0 < bufferSize → (infos.map fun info => info.name).Nodup →
      planExpertTransfers infos localNamesByRank engineGpuCounts engineGpuOffsets epSize
        worldSize numExperts bufferSize = .ok plan →
      ∀ info ∈ infos, (transfersOf info.coordinates plan).length = 1 := by
  intro once
  have layout : EngineLayout 1 2 [1, 1] [0, 1] :=
    ⟨by decide, rfl, by decide, by decide⟩
  have twice : (planExpertTransfers (oneExpert ++ [wrappedInfo]) oneExpertOwners [1, 1] [0, 1] 1 2
      1 200).map (fun plan => (transfersOf (0, 0, 1) plan).length) = .ok 2 := by
    decide
  rcases map_eq_ok.mp twice with ⟨plan, returned, isTwo⟩
  have isOne := once _ _ _ _ _ _ _ _ plan layout (Nat.dvd_refl 1) (by decide) (by decide)
    returned wrappedInfo (List.mem_append_right _ (List.mem_singleton_self _))
  exact absurd (isTwo.symm.trans isOne) (by decide)

end Vime.Backends.MegatronUtils.ExpertRouting
