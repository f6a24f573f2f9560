import Vime.Backends.MegatronUtils.UpdateWeight.HfWeightIterator

/-! # Owners of parameters

After the exchange of metadata a rank knows, for every parameter of its pipeline group, the
lowest rank that has it, and for every other parameter a rank of its expert-parallel group whose
pipeline group has it.
-/

namespace Vime.Backends.MegatronUtils.HfWeightIterator

open Vime.Foundation

variable {ν : Type} {layout : RankLayout} {weights : Nat → List (LocalParam ν)} {rank peer : Nat}
  {name : String} {info : ParamInfo}

/-! ## A rank's own parameters -/

structure LocalTables (rank : Nat) (infos : InfoTable) (values : List (String × ν)) : Prop where
  distinct : (infos.map Prod.fst).Nodup
  described : ∀ name info, infos.lookup name = some info →
    info.srcRank = rank ∧ info.name = name ∧
      info.size = info.shape.prod * info.dtype.itemSize ∧ ∃ value, values.lookup name = some value

theorem LocalTables.add {infos : InfoTable} {values : List (String × ν)}
    (tables : LocalTables rank infos values) (param : LocalParam ν) :
    LocalTables rank
      (if nameContains param.name ".draft_model." then infos
      else setItem param.name (localInfo rank param) infos)
      (setItem param.name param.value values) := by
  have kept : ∀ name, (∃ value, values.lookup name = some value) →
      ∃ value, (setItem param.name param.value values).lookup name = some value := by
    intro name found
    rw [lookup_setItem]
    split
    · exact ⟨_, rfl⟩
    · exact found
  by_cases draft : nameContains param.name ".draft_model."
  · rw [if_pos draft]
    refine ⟨tables.distinct, fun name info found => ?_⟩
    rcases tables.described name info found with ⟨source, named, sized, value⟩
    exact ⟨source, named, sized, kept name value⟩
  · rw [if_neg draft]
    refine ⟨nodup_keys_setItem _ _ tables.distinct, fun name info found => ?_⟩
    rw [lookup_setItem] at found
    split at found
    · rename_i same
      rw [← Option.some.inj found, same]
      refine ⟨rfl, rfl, rfl, param.value, ?_⟩
      rw [lookup_setItem, if_pos rfl]
    · rcases tables.described name info found with ⟨source, named, sized, value⟩
      exact ⟨source, named, sized, kept name value⟩

theorem LocalTables.addAll {infos : InfoTable} {values : List (String × ν)}
    (tables : LocalTables rank infos values) (params : List (LocalParam ν)) :
    LocalTables rank
      (params.foldl
        (fun table param =>
          if nameContains param.name ".draft_model." then table
          else setItem param.name (localInfo rank param) table) infos)
      (params.foldl (fun table param => setItem param.name param.value table) values) := by
  induction params generalizing infos values with
  | nil => exact tables
  | cons param rest induction => exact induction (tables.add param)

theorem localTables (rank : Nat) (params : List (LocalParam ν)) :
    LocalTables rank (localInfos rank params) (localWeights params) :=
  LocalTables.addAll ⟨by simp, fun _ _ found => by cases found⟩ params

/-! ## The exchange between pipeline stages -/

structure KnowsOwners (locals : Nat → InfoTable) (seen : List Nat) (table : InfoTable) : Prop where
  distinct : (table.map Prod.fst).Nodup
  owner : ∀ name info, table.lookup name = some info →
    info.srcRank ∈ seen ∧ (locals info.srcRank).lookup name = some info ∧
      ∀ peer ∈ seen, (locals peer).lookup name ≠ none → info.srcRank ≤ peer
  missing : ∀ name, table.lookup name = none → ∀ peer ∈ seen, (locals peer).lookup name = none

/-- The info that stays of an old one and one from `srcRank`. -/
def lowerInfo (srcRank : Nat) (old : Option ParamInfo) (new : ParamInfo) : ParamInfo :=
  match old with
  | some oldInfo => if oldInfo.srcRank > srcRank then new else oldInfo
  | none => new

theorem lookup_mergeStageInfo (srcRank : Nat) (table : InfoTable) (item : String × ParamInfo)
    (name : String) :
    (mergeStageInfo srcRank table item).lookup name =
      if name = item.1 then some (lowerInfo srcRank (table.lookup name) item.2)
      else table.lookup name := by
  rw [mergeStageInfo]
  by_cases same : name = item.1
  · rw [if_pos same, same]
    cases found : table.lookup item.1 with
    | none => simp [lowerInfo, lookup_setItem]
    | some oldInfo =>
        dsimp only [lowerInfo]
        split
        · rw [lookup_setItem, if_pos rfl]
        · exact found
  · rw [if_neg same]
    split
    · split
      · rw [lookup_setItem, if_neg same]
      · rfl
    · rw [lookup_setItem, if_neg same]

theorem nodup_keys_mergeStageInfo (srcRank : Nat) {table : InfoTable} (item : String × ParamInfo)
    (distinct : (table.map Prod.fst).Nodup) :
    ((mergeStageInfo srcRank table item).map Prod.fst).Nodup := by
  rw [mergeStageInfo]
  split
  · split
    · exact nodup_keys_setItem _ _ distinct
    · exact distinct
  · exact nodup_keys_setItem _ _ distinct

/-- The table of one more rank. -/
theorem KnowsOwners.add {locals : Nat → InfoTable} {seen : List Nat} {table : InfoTable}
    (knows : KnowsOwners locals seen table)
    (distinct : ((locals peer).map Prod.fst).Nodup)
    (own : ∀ name info, (locals peer).lookup name = some info → info.srcRank = peer) :
    KnowsOwners locals (seen ++ [peer]) ((locals peer).foldl (mergeStageInfo peer) table) := by
  have looked := lookup_foldl_items (fun old new => some (lowerInfo peer old new))
    (lookup_mergeStageInfo peer) distinct table
  have nodup : ∀ (items table : InfoTable), (table.map Prod.fst).Nodup →
      ((items.foldl (mergeStageInfo peer) table).map Prod.fst).Nodup := by
    intro items
    induction items with
    | nil => exact fun _ distinct => distinct
    | cons item rest induction =>
        exact fun table distinct => induction _ (nodup_keys_mergeStageInfo peer item distinct)
  refine ⟨nodup _ _ knows.distinct, ?_, ?_⟩
  · intro name info found
    rw [looked] at found
    simp only [List.mem_append, List.mem_singleton]
    cases newEq : (locals peer).lookup name with
    | none =>
        rw [newEq] at found
        rcases knows.owner name info found with ⟨inSeen, isOwn, least⟩
        refine ⟨.inl inSeen, isOwn, fun other among held => ?_⟩
        rcases among with early | same
        · exact least other early held
        · exact absurd newEq (same ▸ held)
    | some new =>
        have ofPeer := own name new newEq
        rw [newEq] at found
        cases oldEq : table.lookup name with
        | none =>
            rw [oldEq] at found
            have isNew : new = info := Option.some.inj found
            rw [← isNew, ofPeer]
            refine ⟨.inr rfl, newEq, fun other among held => ?_⟩
            rcases among with early | same
            · exact absurd (knows.missing name oldEq other early) held
            · exact Nat.le_of_eq same.symm
        | some old =>
            rcases knows.owner name old oldEq with ⟨inSeen, isOwn, least⟩
            rw [oldEq] at found
            have chosen : (if old.srcRank > peer then new else old) = info := Option.some.inj found
            by_cases lower : old.srcRank > peer
            · rw [if_pos lower] at chosen
              rw [← chosen, ofPeer]
              refine ⟨.inr rfl, newEq, fun other among held => ?_⟩
              rcases among with early | same
              · exact Nat.le_of_lt (Nat.lt_of_lt_of_le lower (least other early held))
              · exact Nat.le_of_eq same.symm
            · rw [if_neg lower] at chosen
              rw [← chosen]
              refine ⟨.inl inSeen, isOwn, fun other among held => ?_⟩
              rcases among with early | same
              · exact least other early held
              · exact same ▸ Nat.le_of_not_lt lower
  · intro name found other among
    rw [looked] at found
    cases newEq : (locals peer).lookup name with
    | some new =>
        rw [newEq] at found
        cases found
    | none =>
        rw [newEq] at found
        rcases List.mem_append.mp among with early | last
        · exact knows.missing name found other early
        · rw [List.mem_singleton.mp last]
          exact newEq

theorem KnowsOwners.mergeStages {locals : Nat → InfoTable}
    (distinct : ∀ peer, ((locals peer).map Prod.fst).Nodup)
    (own : ∀ peer name info, (locals peer).lookup name = some info → info.srcRank = peer)
    (group : List Nat) :
    ∀ {seen : List Nat} {table : InfoTable}, rank ∈ seen → KnowsOwners locals seen table →
      KnowsOwners locals (seen ++ group)
        (mergeStages rank table (group.map fun peer => (peer, locals peer))) := by
  induction group with
  | nil =>
      intro seen table isSeen knows
      rwa [List.append_nil]
  | cons peer rest induction =>
      intro seen table isSeen knows
      rw [List.append_cons, List.map_cons, HfWeightIterator.mergeStages, List.foldl_cons]
      have inBoth : rank ∈ seen ++ [peer] := List.mem_append_left _ isSeen
      by_cases same : peer = rank
      · have again : KnowsOwners locals (seen ++ [peer]) table := by
          have covered : ∀ other, other ∈ seen ++ [peer] ↔ other ∈ seen := by
            intro other
            rw [List.mem_append, List.mem_singleton, same]
            exact or_iff_left_of_imp fun isRank => isRank ▸ isSeen
          refine ⟨knows.distinct, fun name info found => ?_, fun name found other among =>
            knows.missing name found other ((covered other).mp among)⟩
          rcases knows.owner name info found with ⟨inSeen, isOwn, least⟩
          exact ⟨(covered _).mpr inSeen, isOwn, fun other among =>
            least other ((covered other).mp among)⟩
        rw [if_pos same]
        exact induction inBoth again
      · rw [if_neg same]
        exact induction inBoth (knows.add (distinct peer) (own peer))

def ownInfos (weights : Nat → List (LocalParam ν)) (rank : Nat) : InfoTable :=
  localInfos rank (weights rank)

theorem group_of_not_several {group : List Nat} (inGroup : rank ∈ group)
    (single : ¬ group.length > 1) : group = [rank] := by
  cases group with
  | nil => cases inGroup
  | cons first rest =>
      rw [List.length_cons] at single
      have noRest : rest = [] := List.eq_nil_of_length_eq_zero (by omega)
      rw [noRest, List.mem_singleton] at inGroup
      rw [noRest, inGroup]

theorem stageInfos_knows (layout : RankLayout) (weights : Nat → List (LocalParam ν))
    (isRank : rank < layout.worldSize) :
    KnowsOwners (ownInfos weights) (layout.ppGroup rank) (stageInfos layout weights rank) := by
  have distinct : ∀ peer, ((ownInfos weights peer).map Prod.fst).Nodup :=
    fun peer => (localTables peer (weights peer)).distinct
  have own : ∀ peer name info, (ownInfos weights peer).lookup name = some info →
      info.srcRank = peer :=
    fun peer name info found => ((localTables peer (weights peer)).described name info found).1
  have alone : KnowsOwners (ownInfos weights) [rank] (ownInfos weights rank) := by
    refine ⟨distinct rank, fun name info found => ?_, fun name found other isRank =>
      List.mem_singleton.mp isRank ▸ found⟩
    rw [own rank name info found]
    exact ⟨List.mem_singleton_self _, found, fun other isRank _ =>
      Nat.le_of_eq (List.mem_singleton.mp isRank).symm⟩
  have inGroup := layout.inPpGroup rank isRank
  rw [stageInfos]
  by_cases several : layout.ppSize rank > 1
  · have merged := KnowsOwners.mergeStages distinct own (layout.ppGroup rank)
      (List.mem_singleton_self rank) alone
    have covered : ∀ other,
        other ∈ [rank] ++ layout.ppGroup rank ↔ other ∈ layout.ppGroup rank := by
      intro other
      rw [List.mem_append, List.mem_singleton]
      exact or_iff_right_of_imp fun isRank => isRank ▸ inGroup
    rw [if_pos several]
    refine ⟨merged.distinct, fun name info found => ?_, fun name found other among =>
      merged.missing name found other ((covered other).mpr among)⟩
    rcases merged.owner name info found with ⟨inSeen, isOwn, least⟩
    exact ⟨(covered _).mp inSeen, isOwn, fun other among =>
      least other ((covered other).mpr among)⟩
  · rw [if_neg several, group_of_not_several inGroup several]
    exact alone

theorem stageInfos_same (isRank : rank < layout.worldSize) (inGroup : peer ∈ layout.ppGroup rank)
    (name : String) :
    (stageInfos layout weights peer).lookup name =
      (stageInfos layout weights rank).lookup name := by
  rcases layout.ppGroupEq rank isRank peer inGroup with ⟨isPeer, sameGroup⟩
  have here := stageInfos_knows layout weights isRank
  have there := stageInfos_knows layout weights isPeer
  rw [sameGroup] at there
  cases hereEq : (stageInfos layout weights rank).lookup name with
  | none =>
      cases thereEq : (stageInfos layout weights peer).lookup name with
      | none => rfl
      | some info =>
          rcases there.owner name info thereEq with ⟨inSeen, isOwn, _⟩
          rw [here.missing name hereEq _ inSeen] at isOwn
          cases isOwn
  | some info =>
      rcases here.owner name info hereEq with ⟨inSeen, isOwn, least⟩
      have held : (ownInfos weights info.srcRank).lookup name ≠ none := by
        rw [isOwn]
        exact Option.some_ne_none info
      cases thereEq : (stageInfos layout weights peer).lookup name with
      | none => exact absurd (there.missing name thereEq _ inSeen) held
      | some other =>
          rcases there.owner name other thereEq with ⟨otherSeen, otherOwn, otherLeast⟩
          have otherHeld : (ownInfos weights other.srcRank).lookup name ≠ none := by
            rw [otherOwn]
            exact Option.some_ne_none other
          have sameRank : info.srcRank = other.srcRank :=
            Nat.le_antisymm (least _ otherSeen otherHeld) (otherLeast _ inSeen held)
          rw [← otherOwn, ← sameRank, isOwn]

end Vime.Backends.MegatronUtils.HfWeightIterator
