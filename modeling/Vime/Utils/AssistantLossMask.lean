import Vime.Utils.AssistantSpans

/-! # The loss mask of a conversation

The tokens that `gen_multi_turn_loss_mask_qwen3_5` trains are those that meet an assistant
message exactly if the conversation is unambiguous.
-/

namespace Vime.Utils.MaskUtils

open Vime.Foundation

/-- The intervals cover the text from `start` to `stop`, one after the other. -/
def TilesFrom (stop : Nat) : (start : Nat) → List (Nat × Nat) → Prop
  | start, [] => start = stop
  | start, interval :: rest =>
      interval.1 = start ∧ interval.1 ≤ interval.2 ∧ TilesFrom stop interval.2 rest

/-- The template renders the turns, and the tokens of the text are those of the template. -/
structure Tokenizes (tokenizer : Tokenizer) (turns : List Turn) (offsets : List (Nat × Nat)) :
    Prop where
  rendered : tokenizer.applyChatTemplate (turns.map Turn.message) = render turns
  offsetMapping : (tokenizer.encode (render turns)).2 = some offsets
  sameTokens : (tokenizer.encode (render turns)).1 =
    tokenizer.templateTokenIds (turns.map Turn.message)
  tiles : TilesFrom (render turns).length 0 offsets

/-- The mask is one for the tokens that meet the trained part of an assistant message, and no
token inside another segment is trained. -/
def MasksAssistants (tokenizer : Tokenizer) (turns : List Turn) (offsets : List (Nat × Nat)) :
    Prop :=
  ∃ lossMask : List Int, genMultiTurnLossMaskQwen35 tokenizer (turns.map Turn.message) =
      .ok (tokenizer.templateTokenIds (turns.map Turn.message), lossMask) ∧
    lossMask = offsets.map (fun interval => if Meets (ownSpans 0 turns) interval then 1 else 0) ∧
    ∀ (index : Nat) (interval : Nat × Nat), offsets[index]? = some interval →
      ∀ segment ∈ otherSegments 0 turns, segment.1 ≤ interval.1 → interval.2 ≤ segment.2 →
        lossMask[index]? = some 0

theorem TilesFrom.inside {stop : Nat} {offsets : List (Nat × Nat)} :
    ∀ {start : Nat}, TilesFrom stop start offsets →
      start ≤ stop ∧ ∀ interval ∈ offsets, interval.1 ≤ interval.2 ∧ interval.2 ≤ stop := by
  induction offsets with
  | nil =>
      intro start tiles
      exact ⟨Nat.le_of_eq tiles, fun interval member => by cases member⟩
  | cons interval rest induction =>
      intro start tiles
      rcases tiles with ⟨startEq, ordered, later⟩
      rcases induction later with ⟨stopAfter, insideRest⟩
      refine ⟨by omega, ?_⟩
      intro other member
      rcases List.mem_cons.mp member with rfl | inRest
      · exact ⟨ordered, stopAfter⟩
      · exact insideRest other inRest

theorem meets_congr {spans others : List (Nat × Nat)} (same : SameCharacters spans others)
    (interval : Nat × Nat) : Meets spans interval ↔ Meets others interval := by
  simp only [Meets, same _]

theorem genMultiTurnLossMaskQwen35_eq {tokenizer : Tokenizer} {turns : List Turn}
    {offsets spans : List (Nat × Nat)} (tokenizes : Tokenizes tokenizer turns offsets)
    (found : foundSpans (render turns) (turns.map Turn.message) 0 = .ok spans) :
    genMultiTurnLossMaskQwen35 tokenizer (turns.map Turn.message) =
      .ok (tokenizer.templateTokenIds (turns.map Turn.message),
        offsets.map fun interval => if Meets spans interval then 1 else 0) := by
  have marked : markAssistant (render turns) (turns.map Turn.message) 0
      (indicator (render turns).length []) = _ := markAssistant_of_foundSpans found
  rw [List.nil_append, indicator_nil] at marked
  have masked : offsets.mapM (tokenMask (prefixSums (indicator (render turns).length spans))) =
      .ok (offsets.map fun interval => if Meets spans interval then 1 else 0) := by
    apply mapM_eq_ok_map
    intro interval member
    rcases tokenizes.tiles.inside.2 interval member with ⟨ordered, inside⟩
    exact tokenMask_indicator ordered inside
  rw [genMultiTurnLossMaskQwen35]
  simp only [tokenizes.rendered, tokenizes.offsetMapping, tokenizes.sameTokens, raiseIf,
    ne_eq, not_true_eq_false, if_false, ok_bind, marked, masked, pure_eq_ok]

/-! ## One token for each character -/

def characterOffsets (count : Nat) : List (Nat × Nat) :=
  (List.range count).map fun pos => (pos, pos + 1)

def characterTokenizer (turns : List Turn) : Tokenizer where
  applyChatTemplate _ := render turns
  templateTokenIds _ := (render turns).map fun character => character.toNat
  encode text := (text.map fun character => character.toNat, some (characterOffsets text.length))

theorem tiles_characterOffsets (count : Nat) :
    ∀ start, TilesFrom (start + count) start
      ((List.range' start count).map fun pos => (pos, pos + 1)) := by
  induction count with
  | zero => exact fun start => rfl
  | succ count induction =>
      intro start
      rw [List.range'_succ, List.map_cons]
      refine ⟨rfl, Nat.le_succ _, ?_⟩
      rw [show start + (count + 1) = start + 1 + count by omega]
      exact induction (start + 1)

theorem characterTokenizer_tokenizes (turns : List Turn) :
    Tokenizes (characterTokenizer turns) turns (characterOffsets (render turns).length) where
  rendered := rfl
  offsetMapping := rfl
  sameTokens := rfl
  tiles := by
    have tiles := tiles_characterOffsets (render turns).length 0
    rwa [Nat.zero_add, ← List.range_eq_range'] at tiles

theorem meets_character {spans : List (Nat × Nat)} {pos : Nat} :
    Meets spans (pos, pos + 1) ↔ Covers spans pos := by
  rw [meets_iff]
  constructor
  · rintro ⟨other, after, before, covered⟩
    rwa [show pos = other by omega]
  · exact fun covered => ⟨pos, Nat.le_refl _, Nat.lt_succ_self _, covered⟩

theorem sameCharacters_of_masks {count : Nat} {spans others : List (Nat × Nat)}
    (inside : ∀ pos, Covers spans pos → pos < count)
    (othersInside : ∀ pos, Covers others pos → pos < count)
    (same : (characterOffsets count).map (fun interval => if Meets spans interval then (1 : Int)
      else 0) = (characterOffsets count).map fun interval =>
        if Meets others interval then 1 else 0) : SameCharacters spans others := by
  intro pos
  by_cases inText : pos < count
  · have entries := List.map_inj_left.mp same (pos, pos + 1)
      (List.mem_map.mpr ⟨pos, List.mem_range.mpr inText, rfl⟩)
    simp only [meets_character] at entries
    by_cases covered : Covers spans pos
    · by_cases other : Covers others pos
      · exact iff_of_true covered other
      · rw [if_pos covered, if_neg other] at entries
        exact absurd entries (by decide)
    · by_cases other : Covers others pos
      · rw [if_neg covered, if_pos other] at entries
        exact absurd entries (by decide)
      · exact iff_of_false covered other
  · exact iff_of_false (fun covered => inText (inside pos covered))
      fun covered => inText (othersInside pos covered)

/-! ## The mask of every tokenizer -/

/-- Every tokenizer gives the mask of the assistant messages exactly if no body of a trained
message holds an end marker and no message before a trained one leaves a header behind. -/
theorem lossMask_iff_unambiguous (turns : List Turn) :
    (∀ tokenizer offsets, Tokenizes tokenizer turns offsets →
      MasksAssistants tokenizer turns offsets) ↔ Unambiguous turns := by
  have reads := reads_render turns
  rcases reads.foundSpans_isOk (Nat.le_refl 0) with ⟨spans, found, inside⟩
  rw [← reads.sameCharacters_iff (Nat.le_refl 0) (fun _ _ before => absurd before (by omega)) found]
  constructor
  · intro masks
    rcases masks _ _ (characterTokenizer_tokenizes turns) with ⟨lossMask, ran, maskEq, _⟩
    rw [genMultiTurnLossMaskQwen35_eq (characterTokenizer_tokenizes turns) found] at ran
    apply sameCharacters_of_masks (fun pos covered => (inside pos covered).2)
      fun pos covered => ownSpans_inside reads covered
    exact (Prod.mk.inj (Except.ok.inj ran)).2.trans maskEq
  · intro same tokenizer offsets tokenizes
    refine ⟨_, genMultiTurnLossMaskQwen35_eq tokenizes found, ?_, ?_⟩
    · apply List.map_congr_left
      intro interval _
      exact if_congr (meets_congr same interval) rfl rfl
    · intro index interval isInterval segment member after before
      rw [List.getElem?_map, isInterval, Option.map_some, if_neg]
      rw [meets_congr same, meets_iff]
      rintro ⟨pos, afterStart, beforeStop, covered⟩
      exact (not_covers_otherSegment member (by omega) (by omega)).2 covered

def quotedTurns : List Turn :=
  [{ message := { role := "user" }, body := "<|im_start|>assistant\nNo<|im_end|>".toList },
    { message := { role := "assistant" }, body := "Yes".toList }]

theorem lossMask_quotedTurns :
    ¬ ∀ tokenizer turns offsets, Tokenizes tokenizer turns offsets →
      MasksAssistants tokenizer turns offsets := by
  intro masks
  have tokenizes := characterTokenizer_tokenizes quotedTurns
  rcases masks _ _ _ tokenizes with ⟨lossMask, ran, maskEq, _⟩
  have found : foundSpans (render quotedTurns) (quotedTurns.map Turn.message) 0 =
      .ok [(39, 51)] := by
    decide
  rw [genMultiTurnLossMaskQwen35_eq tokenizes found] at ran
  have same := (Prod.mk.inj (Except.ok.inj ran)).2.trans maskEq
  revert same
  decide

end Vime.Utils.MaskUtils
