import Vime.Data.Rewind
import Vime.Utils.Types

/-! # Groups that are generated again

`iter_samples` and `prepare_retry_group` of `vime/rollout/base_types.py`, for whatever a group
holds in its slots.
-/

namespace Vime.Rollout

open Vime.Foundation Vime.Utils Vime.Data

/-- What the slots of a group are: a sample, or a list that custom generation made of it. -/
class GroupSlot (V : Type) where
  isList : V → Bool
  /-- The statuses of `iter_samples`. -/
  statuses : V → List Status

instance : GroupSlot (SampleTree Status) where
  isList
    | .sample _ => false
    | .items _ => true
  statuses := iterSamples

section Retry

variable {V : Type} [GroupSlot V]

def interrupted (slots : List V) : Bool :=
  slots.any fun slot =>
    (GroupSlot.statuses slot).any fun status => status = .aborted ∨ status = .pending

def retrySlot (original result : V) : V :=
  if GroupSlot.isList result && interrupted [result] then original else result

def retryGroup (inputs results : List V) : List V :=
  List.zipWith retrySlot inputs results

def prepareRetryGroup (inputs results : List V) : Except PyException (List V) :=
  if inputs.length = results.length then .ok (retryGroup inputs results)
  else .error (.valueError "zip() argument lengths differ")

theorem retrySlot_self (slot : V) : retrySlot slot slot = slot := by
  rw [retrySlot, ite_self]

end Retry

end Vime.Rollout
