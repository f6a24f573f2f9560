import Mathlib.Algebra.Order.Ring.Nat
import Mathlib.Algebra.Order.Ring.Rat
import Mathlib.Data.Rat.Defs
import Vime.Foundation.Python

/-! # Forward work of a sample

`vime/utils/flops_utils.py`: the estimated floating-point operations of one forward
pass, used as the weight of a sample when work is balanced.
-/

namespace Vime.Utils

open Vime.Foundation

/-- The operations on work estimates. Python mixes integers and floating-point
numbers here, so no law of arithmetic is assumed. -/
class Number (W : Type) extends Zero W, Add W, Sub W, Mul W, Div W, NatCast W, BEq W where
  less : W → W → Bool

instance : Number Rat where
  less left right := decide (left < right)

/-- `moe_layer_freq`: one frequency for each layer, or a period. -/
inductive MoeLayerFreq where
  | pattern (frequencies : List Int)
  | period (every : Nat)
  deriving DecidableEq, Repr

structure FlopsArgs where
  hiddenSize : Nat
  numAttentionHeads : Nat
  numQueryGroups : Nat
  vocabSize : Nat
  ffnHiddenSize : Nat
  numLayers : Nat
  kvChannels : Nat
  numExperts : Option Nat := none
  moeSharedExpertIntermediateSize : Option Nat := none
  moeFfnHiddenSize : Nat := 0
  moeRouterTopk : Nat := 0
  moeLayerFreq : Option MoeLayerFreq := none
  multiLatentAttention : Bool := false
  qLoraRank : Option Nat := none
  kvLoraRank : Option Nat := none
  qkHeadDim : Nat := 0
  qkPosEmbHeadDim : Nat := 0
  vHeadDim : Nat := 0
  deriving DecidableEq, Repr

def calculateLmHeadFlops (seqlen hiddenSize vocabSize : Nat) : Nat :=
  2 * seqlen * hiddenSize * vocabSize

def calculateQFlops (args : FlopsArgs) (seqlen hiddenSize numAttentionHeads : Nat) : Nat :=
  match args.multiLatentAttention, args.qLoraRank with
  | true, some qLoraRank =>
      2 * seqlen * qLoraRank *
        (args.hiddenSize + args.numAttentionHeads * (args.qkHeadDim + args.qkPosEmbHeadDim))
  | true, none =>
      2 * seqlen * hiddenSize * numAttentionHeads * (args.qkHeadDim + args.qkPosEmbHeadDim)
  | false, _ => 2 * seqlen * hiddenSize * numAttentionHeads * args.kvChannels

def calculateKvFlops (args : FlopsArgs) (seqlen hiddenSize numQueryGroups : Nat) : Nat :=
  match args.multiLatentAttention, args.kvLoraRank with
  | true, some kvLoraRank =>
      2 * seqlen *
        (kvLoraRank *
            (args.hiddenSize + args.numAttentionHeads * (args.qkHeadDim + args.vHeadDim)) +
          args.hiddenSize * args.qkPosEmbHeadDim)
  | _, _ => 2 * 2 * seqlen * hiddenSize * numQueryGroups * args.kvChannels

def calculateQkvProjectionFlops (args : FlopsArgs)
    (seqlen hiddenSize numAttentionHeads numQueryGroups : Nat) : Nat :=
  calculateQFlops args seqlen hiddenSize numAttentionHeads +
    calculateKvFlops args seqlen hiddenSize numQueryGroups

def calculateOutputFlops (seqlen hiddenSize : Nat) : Nat :=
  2 * seqlen * hiddenSize * hiddenSize

def calculateMlpFlops (seqlen hiddenSize ffnHiddenSize : Nat) : Nat :=
  2 * seqlen * hiddenSize * ffnHiddenSize * 3

/-- `(num_dense_layers, num_moe_layers)`. -/
def layerCounts (args : FlopsArgs) : Except PyException (Nat × Nat) :=
  match args.numExperts, args.moeLayerFreq with
  | none, _ => .ok (args.numLayers, 0)
  | some _, some (.pattern frequencies) =>
      .ok (frequencies.countP (· = 0), frequencies.countP (· > 0))
  | some _, some (.period every) => do
      raiseIf (every = 0 ∧ args.numLayers ≠ 0) .zeroDivisionError
      pure ((List.range args.numLayers).countP (· % every ≠ 0),
        (List.range args.numLayers).countP (· % every = 0))
  | some _, none => .ok (0, args.numLayers)

def moeFfn (args : FlopsArgs) : Nat :=
  args.moeFfnHiddenSize * args.moeRouterTopk +
    args.moeSharedExpertIntermediateSize.getD 0

section Estimate

variable {W : Type} [Number W]

def calculateAttentionFlops (args : FlopsArgs) (seqlen numAttentionHeads : Nat) : W :=
  if args.multiLatentAttention then
    ((2 * numAttentionHeads * seqlen * seqlen * (args.qkHeadDim + args.qkPosEmbHeadDim) :
        Nat) : W) / ((2 : Nat) : W) +
      ((numAttentionHeads * seqlen * seqlen * args.vHeadDim : Nat) : W)
  else
    ((2 * numAttentionHeads * seqlen * seqlen * args.kvChannels : Nat) : W) /
        ((2 : Nat) : W) +
      ((numAttentionHeads * seqlen * seqlen * args.kvChannels : Nat) : W)

def calculateLayerFlops (args : FlopsArgs)
    (seqlen hiddenSize numAttentionHeads numQueryGroups ffnHiddenSize : Nat) : W :=
  ((calculateQkvProjectionFlops args seqlen hiddenSize numAttentionHeads numQueryGroups :
      Nat) : W) +
    calculateAttentionFlops args seqlen numAttentionHeads +
    ((calculateOutputFlops seqlen hiddenSize : Nat) : W) +
    ((calculateMlpFlops seqlen hiddenSize ffnHiddenSize : Nat) : W)

def addLayerFlops (args : FlopsArgs) (seqlen ffnHiddenSize numLayers : Nat)
    (totalFlops : W) : W :=
  if 0 < numLayers then
    totalFlops +
      calculateLayerFlops args seqlen args.hiddenSize args.numAttentionHeads
        args.numQueryGroups ffnHiddenSize * ((numLayers : Nat) : W)
  else totalFlops

def calculateFwdFlops (seqlens : List Nat) (args : FlopsArgs) : Except PyException W := do
  let counts ← layerCounts args
  let addSeqlen (totalFlops : W) (seqlen : Nat) : W :=
    let withDense := addLayerFlops args seqlen args.ffnHiddenSize counts.1 totalFlops
    let withMoe := addLayerFlops args seqlen (moeFfn args) counts.2 withDense
    withMoe + ((calculateLmHeadFlops seqlen args.hiddenSize args.vocabSize : Nat) : W)
  pure (seqlens.foldl addSeqlen 0)

end Estimate

end Vime.Utils
