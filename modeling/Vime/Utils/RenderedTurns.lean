import Vime.Utils.MarkedTokens

/-! # Rendered conversations

The text of a conversation is the concatenation of one segment for each message. A header or an
end marker of the text stands within one segment, since both open with a character that they do
not repeat and that closes the segment before.
-/

namespace Vime.Utils.MaskUtils

open Vime.Foundation

def openMarker : List Char := "<|im_start|>".toList

def closing : List Char := endMarker ++ ['\n']

/-- A message and the body that the template renders for it. -/
structure Turn where
  message : Message
  body : List Char

namespace Turn

def header (turn : Turn) : List Char := openMarker ++ turn.message.role.toList ++ ['\n']

def content (turn : Turn) : List Char := turn.header ++ turn.body

def segment (turn : Turn) : List Char := turn.content ++ closing

def IsAssistant (turn : Turn) : Prop := turn.message.role = "assistant"

instance (turn : Turn) : Decidable turn.IsAssistant :=
  inferInstanceAs (Decidable (_ = _))

def Trained (turn : Turn) : Prop := turn.IsAssistant ∧ turn.message.trains = true

instance (turn : Turn) : Decidable turn.Trained :=
  inferInstanceAs (Decidable (_ ∧ _))

def trainedFrom (turn : Turn) : Nat :=
  turn.header.length + if thinkPrefix <+: turn.body then thinkPrefix.length else 0

theorem segment_length (turn : Turn) :
    turn.segment.length = turn.content.length + closing.length :=
  List.length_append

theorem content_length (turn : Turn) :
    turn.content.length = turn.header.length + turn.body.length :=
  List.length_append

theorem trainedFrom_le (turn : Turn) : turn.trainedFrom ≤ turn.content.length := by
  rw [trainedFrom, content_length]
  split
  · rename_i isPrefix
    exact Nat.add_le_add_left isPrefix.length_le _
  · exact Nat.le_add_right _ _

theorem header_of_assistant {turn : Turn} (assistant : turn.IsAssistant) :
    turn.header = assistantHeader := by
  rw [header, assistant]
  decide

end Turn

def render (turns : List Turn) : List Char := turns.flatMap Turn.segment

theorem render_cons (turn : Turn) (rest : List Turn) :
    render (turn :: rest) = turn.content ++ (closing ++ render rest) := by
  rw [render, List.flatMap_cons, Turn.segment, List.append_assoc, ← render]

/-! ## Markers -/

theorem length_assistantHeader : assistantHeader.length = 22 := by decide

theorem length_endMarker : endMarker.length = 10 := by decide

theorem length_closing : closing.length = 11 := by decide

theorem length_thinkPrefix : thinkPrefix.length = 8 := by decide

theorem assistantHeader_opensOnce : OpensOnce '<' assistantHeader := ⟨by decide, by decide⟩

theorem endMarker_opensOnce : OpensOnce '<' endMarker := ⟨by decide, by decide⟩

theorem closing_opensOnce : OpensOnce '<' closing := ⟨by decide, by decide⟩

theorem thinkPrefix_opensOnce : OpensOnce '<' thinkPrefix := ⟨by decide, by decide⟩

section Markers

variable {text : List Char} {position ends headerPos : Nat}

theorem endMarker_of_closing (closed : OccursAt text closing ends) :
    OccursAt text endMarker ends ∧ text[ends + endMarker.length]? = some '\n' := by
  constructor
  · have cut := congrArg (List.take endMarker.length) closed
    rw [List.take_take, Nat.min_eq_left (by decide)] at cut
    exact cut
  · rw [closed.getElem? (by decide)]
    decide

theorem spanEnd_of_closing (closed : OccursAt text closing ends) :
    spanEnd text ends = ends + closing.length := by
  rw [spanEnd, if_pos (endMarker_of_closing closed).2]
  rfl

theorem header_ne_endMarker (isHeader : OccursAt text assistantHeader position) :
    ¬ OccursAt text endMarker position := by
  intro isEnd
  have ofHeader := isHeader.getElem? (show 5 < assistantHeader.length by decide)
  have ofEnd := isEnd.getElem? (show 5 < endMarker.length by decide)
  rw [ofEnd] at ofHeader
  exact absurd ofHeader (by decide)

variable (text position) in
theorem spanEnd_bounds : position + endMarker.length ≤ spanEnd text position ∧
    spanEnd text position ≤ position + closing.length := by
  rw [spanEnd, length_endMarker, length_closing]
  split
  · omega
  · omega

theorem spanEnd_le_opening {pattern : List Char} (isEnd : OccursAt text endMarker ends)
    (occurs : OccursAt text pattern position) (opens : pattern.head? = some '<')
    (after : ends < position) : spanEnd text ends ≤ position := by
  have apart := isEnd.apart endMarker_opensOnce occurs opens after
  have nonempty : 0 < pattern.length := by
    cases pattern with
    | nil => cases opens
    | cons => exact Nat.succ_pos _
  have opening := occurs.getElem? nonempty
  rw [Nat.add_zero, ← List.head?_eq_getElem?, opens] at opening
  rw [spanEnd]
  split
  · rename_i newline
    by_cases touches : ends + endMarker.length = position
    · rw [touches, opening] at newline
      exact absurd newline (by decide)
    · omega
  · exact apart

theorem header_le_closing (closed : OccursAt text closing ends)
    (isHeader : OccursAt text assistantHeader headerPos)
    (before : headerPos < ends + closing.length) :
    headerPos + assistantHeader.length ≤ ends := by
  rcases Nat.lt_trichotomy headerPos ends with earlier | same | inside
  · exact isHeader.apart assistantHeader_opensOnce closed (by decide) earlier
  · subst same
    exact absurd (endMarker_of_closing closed).1 (header_ne_endMarker isHeader)
  · have opening := isHeader.getElem? (show 0 < assistantHeader.length by decide)
    have inClosing := closed.getElem? (show headerPos - ends < closing.length by omega)
    rw [show ends + (headerPos - ends) = headerPos + 0 by omega, opening] at inClosing
    apply absurd (List.mem_of_getElem? (i := headerPos - ends - 1) (l := closing.tail) ?_)
      closing_opensOnce.2
    rw [List.getElem?_tail, show headerPos - ends - 1 + 1 = headerPos - ends by omega, ← inClosing]
    decide

end Markers

/-! ## Segments of the text -/

/-- From `start` on, after a complete segment, the text renders the turns. -/
structure Reads (text : List Char) (start : Nat) (turns : List Turn) : Prop where
  drop_eq : text.drop start = render turns
  inside : start ≤ text.length
  closed : start = 0 ∨ ∃ ends, ends + closing.length = start ∧ OccursAt text closing ends

theorem reads_render (turns : List Turn) : Reads (render turns) 0 turns :=
  ⟨rfl, Nat.zero_le _, .inl rfl⟩

section Reads

variable {text : List Char} {start position : Nat} {turn : Turn} {rest : List Turn}

theorem Reads.text_eq (reads : Reads text start (turn :: rest)) :
    text = text.take start ++ turn.content ++ (closing ++ render rest) := by
  have whole := List.take_append_drop start text
  rw [reads.drop_eq, render_cons, ← List.append_assoc] at whole
  exact whole.symm

theorem Reads.take_length (reads : Reads text start (turn :: rest)) :
    (text.take start).length = start := by
  rw [List.length_take, Nat.min_eq_left reads.inside]

theorem Reads.closing_occurs (reads : Reads text start (turn :: rest)) :
    OccursAt text closing (start + turn.content.length) := by
  have cut : text.drop (start + turn.content.length) = closing ++ render rest := by
    rw [← List.drop_drop, reads.drop_eq, render_cons, List.drop_left]
  rw [OccursAt, cut, List.take_left]

theorem Reads.next (reads : Reads text start (turn :: rest)) :
    Reads text (start + turn.segment.length) rest := by
  have closed := reads.closing_occurs
  have fits := closed.end_le (by decide)
  rw [turn.segment_length, ← Nat.add_assoc]
  refine ⟨?_, fits, .inr ⟨_, rfl, closed⟩⟩
  rw [Nat.add_assoc, ← turn.segment_length, ← List.drop_drop, reads.drop_eq, render_cons,
    ← List.append_assoc, ← Turn.segment, List.drop_left]

theorem Reads.occurs_iff (reads : Reads text start (turn :: rest)) {pattern : List Char}
    (fits : position + pattern.length ≤ turn.content.length) :
    OccursAt text pattern (start + position) ↔ OccursAt turn.content pattern position := by
  have middle : OccursAt (text.take start ++ turn.content ++ (closing ++ render rest)) pattern
      ((text.take start).length + position) ↔ _ := occursAt_middle fits
  rw [← reads.text_eq, reads.take_length] at middle
  exact middle

theorem Reads.body_iff (reads : Reads text start (turn :: rest)) {pattern : List Char}
    (fits : position + pattern.length ≤ turn.body.length) :
    OccursAt text pattern (start + turn.header.length + position) ↔
      OccursAt turn.body pattern position := by
  have inBody : OccursAt (turn.header ++ turn.body ++ []) pattern
      (turn.header.length + position) ↔ _ := occursAt_middle fits
  rw [List.append_nil, ← Turn.content] at inBody
  rw [Nat.add_assoc, reads.occurs_iff (by rw [turn.content_length]; omega), inBody]

theorem Reads.header_occurs (reads : Reads text start (turn :: rest))
    (assistant : turn.IsAssistant) : OccursAt text assistantHeader start := by
  have fits : 0 + assistantHeader.length ≤ turn.content.length := by
    rw [turn.content_length, Turn.header_of_assistant assistant]
    omega
  apply (reads.occurs_iff fits).mpr
  rw [OccursAt, List.drop_zero, Turn.content, Turn.header_of_assistant assistant, List.take_left]

theorem Reads.header_fits (reads : Reads text start (turn :: rest))
    (isHeader : OccursAt text assistantHeader position)
    (before : position < start + turn.segment.length) :
    position + assistantHeader.length ≤ start + turn.content.length := by
  apply header_le_closing reads.closing_occurs isHeader
  rwa [Nat.add_assoc, ← turn.segment_length]

theorem Reads.maskStart_eq (reads : Reads text start (turn :: rest)) :
    maskStart text (start + turn.header.length) = start + turn.trainedFrom := by
  have occursIff : OccursAt text thinkPrefix (start + turn.header.length) ↔
      thinkPrefix <+: turn.body := by
    have inBody (fits : 0 + thinkPrefix.length ≤ turn.body.length) :
        OccursAt text thinkPrefix (start + turn.header.length) ↔
          thinkPrefix <+: turn.body := by
      rw [← Nat.add_zero (start + turn.header.length), reads.body_iff fits, OccursAt,
        List.drop_zero, List.prefix_iff_eq_take]
      exact eq_comm
    constructor
    · intro occurs
      have isEnd := (endMarker_of_closing reads.closing_occurs).1
      have length := turn.content_length
      by_cases isEmpty : turn.body.length = 0
      · rw [length, isEmpty, Nat.add_zero] at isEnd
        have ofPrefix := occurs.getElem? (show 1 < thinkPrefix.length by decide)
        rw [isEnd.getElem? (show 1 < endMarker.length by decide)] at ofPrefix
        exact absurd ofPrefix (by decide)
      · have fits := occurs.apart thinkPrefix_opensOnce isEnd (by decide) (by omega)
        exact (inBody (by omega)).mp occurs
    · intro isPrefix
      exact (inBody (by rw [Nat.zero_add]; exact isPrefix.length_le)).mpr isPrefix
  rw [maskStart, Turn.trainedFrom]
  by_cases occurs : OccursAt text thinkPrefix (start + turn.header.length)
  · rw [if_pos occurs, if_pos (occursIff.mp occurs), Nat.add_assoc]
  · rw [if_neg occurs, if_neg fun isPrefix => occurs (occursIff.mpr isPrefix), Nat.add_zero]

end Reads

end Vime.Utils.MaskUtils
