import Mathlib.Algebra.Order.Ring.Nat
import Mathlib.Algebra.Order.Ring.Rat
import Mathlib.Data.List.Basic
import Vime.Foundation.Python

/-! # Conversion of a rollout

`vime/data/batch_builder.py`: the rollout ids, the loss masks and the mask totals of the
samples of a batch.
-/

namespace Vime.Data

open Vime.Foundation

/-- What the conversion reads of a sample. -/
structure TrainSample where
  totalLength : Nat
  responseLength : Nat
  lossMask : Option (List Nat) := none
  rolloutId : Option Int := none
  index : Option Int := none
  removeSample : Bool := false

structure TrainData where
  totalLengths : List Nat
  responseLengths : List Nat
  rolloutIds : List Int
  lossMasks : List (List Nat)
  rolloutMaskSums : List Nat
  deriving DecidableEq, Repr

def TrainSample.givenId (sample : TrainSample) : Option Int :=
  match sample.rolloutId with
  | some rid => some rid
  | none => sample.index

/-- `while tmp_id in existed_rollout_id_values: tmp_id += 1`, for as many turns as there are
values. -/
def nextFreeId (existed : List Int) : Nat → Int → Int
  | 0, tmpId => tmpId
  | turns + 1, tmpId =>
      if tmpId ∈ existed then nextFreeId existed turns (tmpId + 1) else tmpId

def fillRolloutIds (existed : List Int) (tmpId : Int) : List (Option Int) → List Int
  | [] => []
  | some rid :: rest => rid :: fillRolloutIds existed tmpId rest
  | none :: rest =>
      let fresh := nextFreeId existed existed.length tmpId
      fresh :: fillRolloutIds (fresh :: existed) fresh rest

def rolloutIdsOf (samples : List TrainSample) : List Int :=
  let given := samples.map TrainSample.givenId
  fillRolloutIds (given.filterMap id) 0 given

/-- `1` on every response token where no mask is given, `0` on a removed sample. -/
def TrainSample.trainedMask (sample : TrainSample) : List Nat :=
  if sample.removeSample then List.replicate sample.responseLength 0
  else sample.lossMask.getD (List.replicate sample.responseLength 1)

def checkedMask (sample : TrainSample) : Except PyException (List Nat) := do
  let lossMask := sample.lossMask.getD (List.replicate sample.responseLength 1)
  raiseIf (lossMask.length ≠ sample.responseLength)
    (.assertionError s!"loss mask length {lossMask.length} != response length {sample.responseLength}")
  pure sample.trainedMask

def rolloutTotalMask (entries : List (Int × Nat)) : Int → Nat :=
  entries.foldl (fun totals entry =>
    Function.update totals entry.1 (totals entry.1 + entry.2)) fun _ => 0

def convert (samples : List TrainSample) : Except PyException TrainData := do
  let rolloutIds := rolloutIdsOf samples
  let lossMasks ← samples.mapM checkedMask
  let totals := rolloutTotalMask (rolloutIds.zip (lossMasks.map List.sum))
  -- `samples[0].metadata`
  raiseIf (samples.isEmpty = true) .indexError
  pure
    { totalLengths := samples.map TrainSample.totalLength
      responseLengths := samples.map TrainSample.responseLength
      rolloutIds := rolloutIds
      lossMasks := lossMasks
      rolloutMaskSums := rolloutIds.map totals }

/-! ## Rollout ids -/

/-- Two samples carry the same id, or they are one sample. -/
def SameRollout (given : List (Option Int)) (left right : Nat) : Prop :=
  left = right ∨ ∃ rid, given[left]? = some (some rid) ∧ given[right]? = some (some rid)

theorem nextFreeId_not_mem (existed : List Int) :
    ∀ (turns : Nat) (tmpId : Int),
      (existed.filter (tmpId ≤ ·)).length ≤ turns → nextFreeId existed turns tmpId ∉ existed
  | 0, tmpId, few => by
      intro member
      rw [nextFreeId] at member
      have counted : tmpId ∈ existed.filter (tmpId ≤ ·) := by simpa using member
      rw [List.length_eq_zero_iff.mp (Nat.le_zero.mp few)] at counted
      exact nomatch counted
  | turns + 1, tmpId, few => by
      rw [nextFreeId]
      by_cases used : tmpId ∈ existed
      · rw [if_pos used]
        apply nextFreeId_not_mem existed turns (tmpId + 1)
        have counted : tmpId ∈ existed.filter (tmpId ≤ ·) := by simpa using used
        have later : existed.filter (tmpId + 1 ≤ ·) =
            (existed.filter (tmpId ≤ ·)).filter (tmpId + 1 ≤ ·) := by
          rw [List.filter_filter]
          apply List.filter_congr
          intro rid _
          rw [← Bool.decide_and, decide_eq_decide]
          omega
        -- The id that was passed is no longer counted.
        have fewer : ((existed.filter (tmpId ≤ ·)).filter (tmpId + 1 ≤ ·)).length <
            (existed.filter (tmpId ≤ ·)).length := by
          apply List.length_filter_lt_length_iff_exists.mpr
          exact ⟨tmpId, counted, by simp [Int.not_le.mpr (Int.lt_succ tmpId)]⟩
        rw [later]
        omega
      · rw [if_neg used]
        exact used

theorem nextFreeId_fresh (existed : List Int) (tmpId : Int) :
    nextFreeId existed existed.length tmpId ∉ existed :=
  nextFreeId_not_mem existed _ tmpId (List.length_filter_le _ _)

theorem length_fillRolloutIds (existed : List Int) (tmpId : Int) (given : List (Option Int)) :
    (fillRolloutIds existed tmpId given).length = given.length := by
  induction given generalizing existed tmpId with
  | nil => rfl
  | cons entry rest induction =>
      cases entry with
      | none => rw [fillRolloutIds, List.length_cons, induction, List.length_cons]
      | some rid => rw [fillRolloutIds, List.length_cons, induction, List.length_cons]

theorem fillRolloutIds_existed {rid : Int} :
    ∀ (given : List (Option Int)) (existed : List Int) (tmpId : Int), rid ∈ existed →
      ∀ position : Nat, (fillRolloutIds existed tmpId given)[position]? = some rid ↔
        given[position]? = some (some rid)
  | [], _, _, _, position => by simp [fillRolloutIds]
  | some other :: rest, existed, tmpId, member, position => by
      rw [fillRolloutIds]
      cases position with
      | zero => simp
      | succ position =>
          rw [List.getElem?_cons_succ, List.getElem?_cons_succ]
          exact fillRolloutIds_existed rest existed tmpId member position
  | none :: rest, existed, tmpId, member, position => by
      rw [fillRolloutIds]
      have fresh := nextFreeId_fresh existed tmpId
      cases position with
      | zero =>
          rw [List.getElem?_cons_zero, List.getElem?_cons_zero, Option.some.injEq]
          constructor
          · intro same
            exact absurd (same ▸ member) fresh
          · intro same
            cases same
      | succ position =>
          rw [List.getElem?_cons_succ, List.getElem?_cons_succ]
          exact fillRolloutIds_existed rest _ _ (List.mem_cons_of_mem _ member) position

/-- Filled ids agree exactly for samples of one rollout: a missing id is one of its own. -/
theorem fillRolloutIds_eq_iff :
    ∀ (given : List (Option Int)) (existed : List Int) (tmpId : Int),
      (∀ rid, some rid ∈ given → rid ∈ existed) → ∀ left right,
        left < given.length → right < given.length →
          ((fillRolloutIds existed tmpId given)[left]? =
              (fillRolloutIds existed tmpId given)[right]? ↔ SameRollout given left right)
  | [], _, _, _, _, _, inside, _ => nomatch inside
  | entry :: rest, existed, tmpId, listed, left, right, leftInside, rightInside => by
      have restListed : ∀ rid, some rid ∈ rest → rid ∈ existed := fun rid member =>
        listed rid (List.mem_cons_of_mem _ member)
      -- The head against a later sample; `existing` holds the ids when the loop goes on.
      have against : ∀ (headId : Int) (existing : List Int) (laterTmp : Int) (position : Nat),
          headId ∈ existing → (entry = some headId ∨ entry = none ∧ headId ∉ existed) →
            (some headId = (fillRolloutIds existing laterTmp rest)[position]? ↔
              ∃ rid, entry = some rid ∧ rest[position]? = some (some rid)) := by
        intro headId existing laterTmp position exists' isHead
        rw [eq_comm, fillRolloutIds_existed rest existing laterTmp exists' position]
        constructor
        · intro found
          rcases isHead with given | ⟨_, fresh⟩
          · exact ⟨headId, given, found⟩
          · exact absurd (restListed headId (List.mem_of_getElem? found)) fresh
        · rintro ⟨rid, given, found⟩
          rcases isHead with same | ⟨missing, _⟩
          · rw [same, Option.some.injEq] at given
            rw [given]
            exact found
          · rw [missing] at given
            cases given
      have goesOn : ∃ (headId : Int) (existing : List Int) (laterTmp : Int),
          fillRolloutIds existed tmpId (entry :: rest) =
              headId :: fillRolloutIds existing laterTmp rest ∧
            headId ∈ existing ∧ (∀ rid ∈ existed, rid ∈ existing) ∧
            (entry = some headId ∨ entry = none ∧ headId ∉ existed) := by
        cases entry with
        | some rid =>
            exact ⟨rid, existed, tmpId, rfl, listed rid List.mem_cons_self, fun _ member => member,
              .inl rfl⟩
        | none =>
            exact ⟨_, _, _, rfl, List.mem_cons_self, fun _ member => List.mem_cons_of_mem _ member,
              .inr ⟨rfl, nextFreeId_fresh existed tmpId⟩⟩
      rcases goesOn with ⟨headId, existing, laterTmp, filled, exists', grows, isHead⟩
      rw [filled]
      cases left with
      | zero =>
          cases right with
          | zero => simp [SameRollout]
          | succ right =>
              rw [List.getElem?_cons_zero, List.getElem?_cons_succ,
                against headId existing laterTmp right exists' isHead]
              simp [SameRollout]
      | succ left =>
          cases right with
          | zero =>
              rw [eq_comm, List.getElem?_cons_zero, List.getElem?_cons_succ,
                against headId existing laterTmp left exists' isHead]
              simp [SameRollout, and_comm]
          | succ right =>
              rw [List.getElem?_cons_succ, List.getElem?_cons_succ,
                fillRolloutIds_eq_iff rest existing laterTmp
                  (fun rid member => grows rid (restListed rid member)) left right
                  (Nat.lt_of_succ_lt_succ leftInside) (Nat.lt_of_succ_lt_succ rightInside)]
              simp [SameRollout]

theorem rolloutIdsOf_eq_iff (samples : List TrainSample) {left right : Nat}
    (leftInside : left < samples.length) (rightInside : right < samples.length) :
    (rolloutIdsOf samples)[left]? = (rolloutIdsOf samples)[right]? ↔
      SameRollout (samples.map TrainSample.givenId) left right := by
  apply fillRolloutIds_eq_iff
  · intro rid member
    exact List.mem_filterMap.mpr ⟨some rid, member, rfl⟩
  · rwa [List.length_map]
  · rwa [List.length_map]

theorem length_rolloutIdsOf (samples : List TrainSample) :
    (rolloutIdsOf samples).length = samples.length := by
  rw [rolloutIdsOf, length_fillRolloutIds, List.length_map]

/-! ## Masks -/

theorem checkedMask_eq_ok {sample : TrainSample} {lossMask : List Nat} :
    checkedMask sample = .ok lossMask ↔
      (sample.lossMask.getD (List.replicate sample.responseLength 1)).length =
        sample.responseLength ∧ sample.trainedMask = lossMask := by
  rw [checkedMask, raiseIf_bind_eq_ok, not_not, pure_eq_ok, Except.ok.injEq]

theorem checkedMask_length {sample : TrainSample} {lossMask : List Nat}
    (checked : checkedMask sample = .ok lossMask) : lossMask.length = sample.responseLength := by
  rw [checkedMask_eq_ok] at checked
  rw [← checked.2, TrainSample.trainedMask]
  split
  · exact List.length_replicate
  · exact checked.1

theorem foldl_update_apply (entries : List (Int × Nat)) (rid : Int) :
    ∀ totals : Int → Nat, entries.foldl (fun totals entry =>
        Function.update totals entry.1 (totals entry.1 + entry.2)) totals rid =
      totals rid + ((entries.filter (·.1 = rid)).map Prod.snd).sum := by
  induction entries with
  | nil => simp
  | cons entry rest induction =>
      intro totals
      rw [List.foldl_cons, induction]
      by_cases same : entry.1 = rid
      · subst same
        simp [Nat.add_assoc]
      · rw [Function.update_of_ne (Ne.symm same), List.filter_cons_of_neg (by simpa using same)]

theorem rolloutTotalMask_apply (entries : List (Int × Nat)) (rid : Int) :
    rolloutTotalMask entries rid = ((entries.filter (·.1 = rid)).map Prod.snd).sum := by
  rw [rolloutTotalMask, foldl_update_apply, Nat.zero_add]

theorem convert_eq_ok {samples : List TrainSample} {data : TrainData}
    (converted : convert samples = .ok data) :
    (∀ sample ∈ samples, sample.trainedMask.length = sample.responseLength) ∧
      data =
        { totalLengths := samples.map TrainSample.totalLength
          responseLengths := samples.map TrainSample.responseLength
          rolloutIds := rolloutIdsOf samples
          lossMasks := samples.map TrainSample.trainedMask
          rolloutMaskSums := (rolloutIdsOf samples).map (rolloutTotalMask
            ((rolloutIdsOf samples).zip (samples.map fun sample => sample.trainedMask.sum))) } := by
  rw [convert] at converted
  rcases bind_eq_ok.mp converted with ⟨lossMasks, masksEq, afterMasks⟩
  dsimp only at afterMasks
  rw [raiseIf_bind_eq_ok, pure_eq_ok, Except.ok.injEq] at afterMasks
  have checked : ∀ sample ∈ samples, checkedMask sample = .ok sample.trainedMask := by
    intro sample member
    rcases mapM_eq_ok_mem masksEq sample member with ⟨lossMask, checkedEq⟩
    rw [checkedEq, (checkedMask_eq_ok.mp checkedEq).2]
  rw [mapM_eq_ok_map checkedMask TrainSample.trainedMask samples checked, Except.ok.injEq]
    at masksEq
  refine ⟨fun sample member => checkedMask_length (checked sample member), ?_⟩
  rw [← afterMasks.2, ← masksEq, List.map_map]
  rfl

end Vime.Data
