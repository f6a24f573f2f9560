import Vime.Backends.MegatronUtils.UpdateWeight.TransferBatches

/-! # Planned parameters

What the steps before the packing return: the owner of each parameter, the ranks of the engines
for each expert, and one parameter of the plan for each info.
-/

namespace Vime.Backends.MegatronUtils.ExpertRouting

open Vime.Foundation

/-! ## Owners -/

def IsLowestOwner (localNamesByRank : List (List String)) (name : String) (rank : Int) : Prop :=
  ∃ owner : Nat, rank = owner ∧ (∃ names, localNamesByRank[owner]? = some names ∧ name ∈ names) ∧
    ∀ (earlier : Nat) names, earlier < owner → localNamesByRank[earlier]? = some names → name ∉ names

/-- Some rank has the name. -/
def Owned (localNamesByRank : List (List String)) (name : String) : Prop :=
  ∃ names ∈ localNamesByRank, name ∈ names

variable {localNamesByRank : List (List String)} {infos : List RoutedInfo}

theorem ownerOf_isLowestOwner {name : String} {owner : Nat}
    (found : ownerOf localNamesByRank name = some owner) :
    IsLowestOwner localNamesByRank name owner := by
  rw [ownerOf, List.findIdx?_eq_some_iff_getElem] at found
  rcases found with ⟨inside, holds, first⟩
  refine ⟨owner, rfl, ⟨_, List.getElem?_eq_getElem inside, of_decide_eq_true holds⟩, ?_⟩
  intro earlier names before isNames member
  apply first earlier before
  rcases List.getElem?_eq_some_iff.mp isNames with ⟨_, rfl⟩
  exact decide_eq_true member

theorem owned_iff {name : String} :
    Owned localNamesByRank name ↔ ∃ owner, ownerOf localNamesByRank name = some owner := by
  cases found : ownerOf localNamesByRank name with
  | none =>
      rw [ownerOf, List.findIdx?_eq_none_iff] at found
      apply iff_of_false
      · rintro ⟨names, member, holds⟩
        exact of_decide_eq_false (found names member) holds
      · rintro ⟨owner, same⟩
        cases same
  | some owner =>
      rcases ownerOf_isLowestOwner found with ⟨_, _, ⟨names, isNames, holds⟩, _⟩
      exact iff_of_true ⟨names, List.mem_of_getElem? isNames, holds⟩ ⟨owner, rfl⟩

def RoutedInfo.sourced (localNamesByRank : List (List String)) (info : RoutedInfo) : RoutedInfo :=
  { info with srcRank := ((ownerOf localNamesByRank info.name).getD 0 : Nat) }

theorem setExpertSourceRanks_eq_ok {sourced : List RoutedInfo} :
    setExpertSourceRanks infos localNamesByRank = .ok sourced ↔
      (∀ info ∈ infos, Owned localNamesByRank info.name) ∧
        sourced = infos.map (RoutedInfo.sourced localNamesByRank) := by
  apply mapM_eq_ok_map_iff
  intro info result
  rw [owned_iff]
  cases found : ownerOf localNamesByRank info.name with
  | none => simp
  | some owner =>
      simp only [RoutedInfo.sourced, found, Option.getD_some, Except.ok.injEq]
      constructor
      · exact fun same => ⟨⟨owner, rfl⟩, same.symm⟩
      · exact fun both => both.2.symm

/-! ## Engines -/

/-- Engines of the expert-parallel size, inside the world. -/
structure EngineLayout (epSize worldSize : Nat) (engineGpuCounts : List Nat)
    (engineGpuOffsets : List Int) : Prop where
  positive : 0 < epSize
  sameLength : engineGpuCounts.length = engineGpuOffsets.length
  sized : ∀ gpuCount ∈ engineGpuCounts, gpuCount = epSize
  inside : ∀ gpuOffset ∈ engineGpuOffsets, 0 ≤ gpuOffset ∧ gpuOffset + epSize ≤ worldSize

def engineRanks (engineGpuOffsets : List Int) (epRank : Nat) : List Int :=
  engineGpuOffsets.map fun gpuOffset => gpuOffset + epRank

theorem addEngines_eq {epSize worldSize : Nat} {engineGpuCounts : List Nat}
    {engineGpuOffsets : List Int} :
    engineGpuCounts.length = engineGpuOffsets.length →
      (∀ gpuCount ∈ engineGpuCounts, gpuCount = epSize) →
      (∀ gpuOffset ∈ engineGpuOffsets, 0 ≤ gpuOffset ∧ gpuOffset + epSize ≤ worldSize) →
      ∀ before : List Int,
        addEngines epSize worldSize engineGpuCounts engineGpuOffsets
            ((List.range epSize).map (engineRanks before)) =
          .ok ((List.range epSize).map (engineRanks (before ++ engineGpuOffsets))) := by
  induction engineGpuCounts generalizing engineGpuOffsets with
  | nil =>
      intro sameLength _ _ before
      have noOffsets : engineGpuOffsets = [] := List.length_eq_zero_iff.mp sameLength.symm
      rw [noOffsets, List.append_nil, addEngines]
  | cons gpuCount gpuCounts induction =>
      intro sameLength sized inside before
      cases engineGpuOffsets with
      | nil => cases sameLength
      | cons gpuOffset gpuOffsets =>
          rw [List.forall_mem_cons] at sized inside
          have later := induction (Nat.succ.inj sameLength) sized.2 inside.2
            (before ++ [gpuOffset])
          have isInside : ¬ (gpuOffset < 0 ∨ (worldSize : Int) < gpuOffset + gpuCount) := by
            rw [sized.1]
            omega
          have appended : (((List.range epSize).map (engineRanks before)).mapIdx
              fun epRank ranks => ranks ++ [gpuOffset + epRank]) =
                (List.range epSize).map (engineRanks (before ++ [gpuOffset])) := by
            apply List.ext_getElem
            · simp
            · intro epRank _ _
              simp [engineRanks]
          rw [addEngines, raiseIf, if_neg (not_not.mpr sized.1), ok_bind, raiseIf,
            if_neg isInside, ok_bind, appended, later, List.append_assoc, List.singleton_append]

theorem EngineLayout.getExpertTargetRanks_eq {epSize worldSize : Nat} {engineGpuCounts : List Nat}
    {engineGpuOffsets : List Int}
    (layout : EngineLayout epSize worldSize engineGpuCounts engineGpuOffsets) :
    getExpertTargetRanks engineGpuCounts engineGpuOffsets epSize worldSize =
      .ok ((List.range epSize).map (engineRanks engineGpuOffsets)) := by
  have started := addEngines_eq layout.sameLength layout.sized layout.inside []
  have empty : (List.range epSize).map (engineRanks []) = List.replicate epSize [] := by
    rw [List.eq_replicate_iff, List.length_map, List.length_range]
    refine ⟨rfl, ?_⟩
    intro ranks member
    rcases List.mem_map.mp member with ⟨epRank, _, rfl⟩
    rfl
  rw [empty, List.nil_append] at started
  exact started

/-! ## Parameters -/

def plannedParam (engineGpuOffsets : List Int) (expertsPerRank : Nat) (info : RoutedInfo) :
    ExpertParam where
  info := info
  layer := info.layer
  expert := info.expert
  targetRanks := engineRanks engineGpuOffsets (info.expert / expertsPerRank)

/-- A layer of the infos has both projections of every expert. -/
def LayerComplete (infos : List RoutedInfo) (numExperts layer : Nat) : Prop :=
  ∀ expert < numExperts, ∀ projection ∈ [1, 2], ∃ info ∈ infos,
    info.layer = layer ∧ info.expert = expert ∧ info.projection = projection

theorem readProjection_eq_some {text rest : List Char} {projection : Nat}
    (read : readProjection text = some (projection, rest)) : projection = 1 ∨ projection = 2 := by
  rw [readProjection.eq_def] at read
  split at read
  · exact .inl (Prod.mk.inj (Option.some.inj read)).1.symm
  · exact .inr (Prod.mk.inj (Option.some.inj read)).1.symm
  · cases read

theorem RoutedInfo.projection_eq (info : RoutedInfo) :
    info.projection = 1 ∨ info.projection = 2 := by
  have routed := info.isRouted
  rw [routedExpert] at routed
  simp only [Option.bind_eq_bind, Option.bind_eq_some_iff] at routed
  rcases routed with ⟨_, _, _, _, _, _, _, _, projection, read, _, _, expert, _, returned⟩
  split at returned
  · have same : projection.1 = info.projection :=
      congrArg (fun parsed : Nat × Nat × Nat => parsed.2.1) (Option.some.inj returned)
    rw [← same]
    exact readProjection_eq_some read
  · cases returned

theorem mem_expectedCoverage {numExperts : Nat} {pair : Nat × Nat} :
    pair ∈ expectedCoverage numExperts ↔ pair.1 < numExperts ∧ pair.2 ∈ [1, 2] := by
  rcases pair with ⟨expert, projection⟩
  simp only [expectedCoverage, List.mem_flatMap, List.mem_range, List.mem_cons, Prod.mk.injEq,
    List.not_mem_nil, or_false]
  constructor
  · rintro ⟨other, inside, ⟨rfl, rfl⟩ | ⟨rfl, rfl⟩⟩
    · exact ⟨inside, .inl rfl⟩
    · exact ⟨inside, .inr rfl⟩
  · rintro ⟨inside, isFirst | isSecond⟩
    · exact ⟨expert, inside, .inl ⟨rfl, isFirst⟩⟩
    · exact ⟨expert, inside, .inr ⟨rfl, isSecond⟩⟩

/-- The metadata check passes if there are infos and all their layers are complete. -/
theorem coverage_complete_iff {numExperts : Nat}
    (inRange : ∀ info ∈ infos, info.expert < numExperts) :
    ¬ (coverage infos = [] ∨ ∃ found ∈ (coverage infos).map Prod.snd,
        found.toFinset ≠ (expectedCoverage numExperts).toFinset) ↔
      infos ≠ [] ∧ ∀ info ∈ infos, LayerComplete infos numExperts info.layer := by
  have keys (layer : Nat) : layer ∈ (coverage infos).map Prod.fst ↔
      ∃ info ∈ infos, info.layer = layer := by
    rw [coverage, mem_keys_collect, List.map_map, List.mem_map]
    exact Iff.rfl
  have pairs (layer : Nat) (found : List (Nat × Nat)) (member : (layer, found) ∈ coverage infos) :
      found.toFinset = (expectedCoverage numExperts).toFinset ↔
        LayerComplete infos numExperts layer := by
    have isPair (pair : Nat × Nat) : pair ∈ found ↔ ∃ info ∈ infos,
        info.layer = layer ∧ info.expert = pair.1 ∧ info.projection = pair.2 := by
      rw [eq_valuesAt_of_mem member, mem_valuesAt, List.mem_map]
      simp only [Prod.ext_iff]
    simp only [Finset.ext_iff, List.mem_toFinset]
    constructor
    · intro same expert inside projection isProjection
      exact (isPair (expert, projection)).mp
        ((same (expert, projection)).mpr (mem_expectedCoverage.mpr ⟨inside, isProjection⟩))
    · intro complete pair
      rw [isPair, mem_expectedCoverage]
      constructor
      · rintro ⟨info, isInfo, _, expertEq, projectionEq⟩
        rw [← expertEq, ← projectionEq]
        refine ⟨inRange info isInfo, ?_⟩
        rw [List.mem_cons, List.mem_singleton]
        exact info.projection_eq
      · rintro ⟨inside, isProjection⟩
        exact complete pair.1 inside pair.2 isProjection
  rw [not_or]
  constructor
  · rintro ⟨nonempty, noGap⟩
    constructor
    · intro noInfos
      apply nonempty
      rw [noInfos]
      rfl
    · intro info isInfo
      rcases List.mem_map.mp ((keys info.layer).mpr ⟨info, isInfo, rfl⟩) with
        ⟨entry, inTable, entryEq⟩
      rw [← entryEq]
      apply (pairs entry.1 entry.2 inTable).mp
      by_contra different
      exact noGap ⟨entry.2, List.mem_map_of_mem inTable, different⟩
  · rintro ⟨someInfo, complete⟩
    constructor
    · intro noTable
      rcases List.exists_mem_of_ne_nil _ someInfo with ⟨info, isInfo⟩
      have inTable := (keys info.layer).mpr ⟨info, isInfo, rfl⟩
      rw [noTable] at inTable
      cases inTable
    · rintro ⟨found, isFound, different⟩
      rcases List.mem_map.mp isFound with ⟨entry, inTable, rfl⟩
      rcases (keys entry.1).mp (List.mem_map_of_mem inTable) with ⟨info, isInfo, layerEq⟩
      apply different
      apply (pairs entry.1 entry.2 inTable).mpr
      rw [← layerEq]
      exact complete info isInfo

/-- The infos that `_build_expert_params` accepts. -/
structure Accepted (infos : List RoutedInfo) (numExperts : Nat) : Prop where
  nonempty : infos ≠ []
  inRange : ∀ info ∈ infos, info.expert < numExperts
  complete : ∀ info ∈ infos, LayerComplete infos numExperts info.layer

theorem expertParam_eq_ok {engineGpuOffsets : List Int} {epSize numExperts : Nat}
    (divides : epSize ∣ numExperts) (info : RoutedInfo) (param : ExpertParam) :
    expertParam ((List.range epSize).map (engineRanks engineGpuOffsets)) numExperts
        (numExperts / epSize) info = .ok param ↔
      info.expert < numExperts ∧
        param = plannedParam engineGpuOffsets (numExperts / epSize) info := by
  rw [expertParam]
  by_cases inRange : info.expert < numExperts
  · have isRank : info.expert / (numExperts / epSize) < epSize := by
      apply Nat.div_lt_of_lt_mul
      rw [Nat.div_mul_cancel divides]
      exact inRange
    have found : itemAt ((List.range epSize).map (engineRanks engineGpuOffsets))
        (info.expert / (numExperts / epSize)) =
          .ok (engineRanks engineGpuOffsets (info.expert / (numExperts / epSize))) := by
      rw [itemAt_eq_ok, List.getElem?_map, List.getElem?_range isRank, Option.map_some]
    rw [raiseIf, if_neg (Nat.not_le.mpr inRange), ok_bind, found, ok_bind, pure_eq_ok,
      Except.ok.injEq]
    constructor
    · exact fun same => ⟨inRange, same.symm⟩
    · exact fun both => both.2.symm
  · rw [raiseIf, if_pos (Nat.le_of_not_lt inRange), error_bind]
    exact iff_of_false (fun same => by cases same) fun both => inRange both.1

theorem buildExpertParams_eq_ok {engineGpuOffsets : List Int} {epSize numExperts : Nat}
    (positive : 0 < epSize) (divides : epSize ∣ numExperts) {params : List ExpertParam} :
    buildExpertParams infos ((List.range epSize).map (engineRanks engineGpuOffsets)) numExperts =
        .ok params ↔
      Accepted infos numExperts ∧
        params = sortedBy (fun param => toLex (param.layer, param.info.name))
          (infos.map (plannedParam engineGpuOffsets (numExperts / epSize))) := by
  have length : ((List.range epSize).map (engineRanks engineGpuOffsets)).length = epSize := by
    rw [List.length_map, List.length_range]
  rw [buildExpertParams, length, raiseIf_bind_eq_ok, raiseIf_bind_eq_ok,
    and_iff_right (Nat.ne_of_gt positive), and_iff_right (not_not.mpr (Nat.mod_eq_zero_of_dvd divides)),
    bind_eq_ok]
  simp only [mapM_eq_ok_map_iff (expertParam_eq_ok divides), raiseIf_bind_eq_ok, pure_eq_ok,
    Except.ok.injEq]
  constructor
  · rintro ⟨_, ⟨inRange, rfl⟩, complete, rfl⟩
    rw [coverage_complete_iff inRange] at complete
    exact ⟨⟨complete.1, inRange, complete.2⟩, rfl⟩
  · rintro ⟨accepted, rfl⟩
    exact ⟨_, ⟨accepted.inRange, rfl⟩,
      (coverage_complete_iff accepted.inRange).mpr ⟨accepted.nonempty, accepted.complete⟩, rfl⟩

end Vime.Backends.MegatronUtils.ExpertRouting
