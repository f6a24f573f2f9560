import Vime.Foundation.Occurrences
import Vime.Foundation.Python

/-! # Loss masks of rendered conversations

`gen_multi_turn_loss_mask_qwen3_5` of `vime/utils/mask_utils.py`: the spans of the assistant
messages are searched in the rendered text, and a token is trained if it meets one of them.
-/

namespace Vime.Utils.MaskUtils

open Vime.Foundation

/-! ## Data -/

/-- A message; `content` stands for the keys that only the template reads. -/
structure Message where
  role : String
  content : String := ""
  stepLossMask : Option Int := none

/-- A tokenizer with its chat template, for the given tools. `encode` gives the tokens of a text
and their offset mapping, if there is one. -/
structure Tokenizer where
  applyChatTemplate : List Message → List Char
  templateTokenIds : List Message → List Int
  encode : List Char → List Int × Option (List (Nat × Nat))

def assistantHeader : List Char := "<|im_start|>assistant\n".toList

def thinkPrefix : List Char := "<think>\n".toList

def endMarker : List Char := "<|im_end|>".toList

/-- `message.get("step_loss_mask", 1) == 1`. -/
def Message.trains (message : Message) : Bool := decide (message.stepLossMask.getD 1 = 1)

/-! ## Spans -/

def spanEnd (renderedText : List Char) (endPos : Nat) : Nat :=
  if renderedText[endPos + endMarker.length]? = some '\n' then endPos + endMarker.length + 1
  else endPos + endMarker.length

def maskStart (renderedText : List Char) (contentStart : Nat) : Nat :=
  if OccursAt renderedText thinkPrefix contentStart then contentStart + thinkPrefix.length
  else contentStart

/-- `for pos in range(start, stop): char_mask[pos] = 1`. -/
def fillOnes (charMask : List Int) (start stop : Nat) : List Int :=
  (List.range' start (stop - start)).foldl (fun written pos => written.set pos 1) charMask

def locateAssistant (renderedText : List Char) (cursor : Nat) : Except PyException (Nat × Nat) :=
  match firstOccurrence renderedText assistantHeader cursor with
  | none => .error (.valueError
      "Failed to locate assistant message in rendered Qwen3.5 chat template output.")
  | some headerPos =>
      match firstOccurrence renderedText endMarker (headerPos + assistantHeader.length) with
      | none => .error (.valueError
          "Failed to locate <|im_end|> for assistant message in rendered text.")
      | some endPos =>
          .ok (headerPos + assistantHeader.length, spanEnd renderedText endPos)

def markAssistant (renderedText : List Char) :
    List Message → (cursor : Nat) → (charMask : List Int) → Except PyException (List Int)
  | [], _, charMask => .ok charMask
  | message :: rest, cursor, charMask =>
      if message.role ≠ "assistant" then markAssistant renderedText rest cursor charMask
      else do
        let located ← locateAssistant renderedText cursor
        markAssistant renderedText rest located.2
          (if message.trains then
            fillOnes charMask (maskStart renderedText located.1) located.2
          else charMask)

/-! ## Tokens -/

/-- `char_mask_prefix_sum`. -/
def prefixSums (charMask : List Int) : List Int := charMask.scanl (· + ·) 0

def tokenMask (prefixSum : List Int) (offsets : Nat × Nat) : Except PyException Int :=
  if offsets.2 ≤ offsets.1 then .ok 0
  else do
    let upToEnd ← itemAt prefixSum offsets.2
    let upToStart ← itemAt prefixSum offsets.1
    pure (if upToEnd - upToStart > 0 then 1 else 0)

def genMultiTurnLossMaskQwen35 (tokenizer : Tokenizer) (messages : List Message) :
    Except PyException (List Int × List Int) :=
  let renderedText := tokenizer.applyChatTemplate messages
  let tokenized := tokenizer.encode renderedText
  match tokenized.2 with
  | none => .error (.valueError
      "Qwen3.5 loss mask generation requires a fast tokenizer with `return_offsets_mapping` support.")
  | some offsetMapping => do
      raiseIf (tokenized.1 ≠ tokenizer.templateTokenIds messages) (.valueError
        "Qwen3.5 rendered text tokenization does not match `apply_chat_template(..., tokenize=True)` output.")
      let charMask ← markAssistant renderedText messages 0 (List.replicate renderedText.length 0)
      let lossMask ← offsetMapping.mapM (tokenMask (prefixSums charMask))
      pure (tokenized.1, lossMask)

end Vime.Utils.MaskUtils
