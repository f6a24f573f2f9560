import Mathlib.Algebra.Order.Ring.Nat
import Mathlib.Algebra.Order.Ring.Rat
import Vime.Foundation.Python

/-! # Shared sample data

The parts of `Sample` that several components read: statuses and the counters
accumulated over model calls.
-/

namespace Vime.Utils

abbrev TokenId := Int

/-- Values standing for floating-point log probabilities. `zero` is `0.0` and
`uniform k` is `-math.log(k)`. -/
class LogProbValue (F : Type) where
  zero : F
  uniform : Nat → F

/-- Log probabilities that the validators inspect. `finiteNonpositive` is
`isfinite` together with `not > 0`, and `isClose` is `np.isclose` with the
tolerances of the source. -/
class SamplerValue (F : Type) extends LogProbValue F where
  finiteNonpositive : F → Bool
  isClose : F → F → Bool

inductive Status where
  | pending
  | completed
  | truncated
  | aborted
  | failed
  deriving DecidableEq, Repr

structure SpecInfo where
  specAcceptTokenNum : Int := 0
  specDraftTokenNum : Int := 0
  specVerifyCt : Int := 0
  completionTokenNum : Int := 0
  deriving DecidableEq, Repr

structure PrefixCacheInfo where
  cachedTokens : Int := 0
  totalPromptTokens : Int := 0
  deriving DecidableEq, Repr

def SpecInfo.plus (left right : SpecInfo) : SpecInfo where
  specAcceptTokenNum := left.specAcceptTokenNum + right.specAcceptTokenNum
  specDraftTokenNum := left.specDraftTokenNum + right.specDraftTokenNum
  specVerifyCt := left.specVerifyCt + right.specVerifyCt
  completionTokenNum := left.completionTokenNum + right.completionTokenNum

def PrefixCacheInfo.plus (left right : PrefixCacheInfo) : PrefixCacheInfo where
  cachedTokens := left.cachedTokens + right.cachedTokens
  totalPromptTokens := left.totalPromptTokens + right.totalPromptTokens

end Vime.Utils
