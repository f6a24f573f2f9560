import Vime.Utils.RenderedTurns

/-! # The spans of the assistant messages

The search takes one header of the text for each assistant message. It is in step with the
messages while no header stands between its cursor and the next segment. A header that is left
over puts it behind, and it stays behind: every later span ends before the segment it is for.
-/

namespace Vime.Utils.MaskUtils

open Vime.Foundation

def ownSpans : (start : Nat) → List Turn → List (Nat × Nat)
  | _, [] => []
  | start, turn :: rest =>
      if turn.Trained then
        (start + turn.trainedFrom, start + turn.segment.length) ::
          ownSpans (start + turn.segment.length) rest
      else ownSpans (start + turn.segment.length) rest

def otherSegments : (start : Nat) → List Turn → List (Nat × Nat)
  | _, [] => []
  | start, turn :: rest =>
      if turn.IsAssistant then otherSegments (start + turn.segment.length) rest
      else (start, start + turn.segment.length) :: otherSegments (start + turn.segment.length) rest

/-- A segment that leaves no header behind for the search: its content holds none, or, if it is
an assistant segment, none of its body follows an end marker. -/
def Turn.Unmarked (turn : Turn) : Prop :=
  if turn.IsAssistant then
    ∀ ends headerPos, OccursAt turn.body endMarker ends →
      OccursAt turn.body assistantHeader headerPos → headerPos < ends
  else ∀ headerPos, ¬ OccursAt turn.content assistantHeader headerPos

/-- No trained body holds an end marker, and every segment before a trained one is unmarked. -/
def Unambiguous : List Turn → Prop
  | [] => True
  | turn :: rest =>
      (turn.Trained → ∀ ends, ¬ OccursAt turn.body endMarker ends) ∧
        ((∃ later ∈ rest, later.Trained) → turn.Unmarked) ∧ Unambiguous rest

/-! ## The spans of the messages -/

theorem covers_ownSpans {turns : List Turn} {pos : Nat} :
    ∀ {start : Nat}, Covers (ownSpans start turns) pos → start ≤ pos := by
  induction turns with
  | nil =>
      intro start covered
      exact absurd covered not_covers_nil
  | cons turn rest induction =>
      intro start covered
      rw [ownSpans] at covered
      split at covered
      · rcases covers_cons.mp covered with own | later
        · omega
        · have after := induction later
          omega
      · have after := induction covered
        omega

theorem ownSpans_inside {text : List Char} {turns : List Turn} {pos : Nat} :
    ∀ {start : Nat}, Reads text start turns → Covers (ownSpans start turns) pos →
      pos < text.length := by
  induction turns with
  | nil =>
      intro start _ covered
      exact absurd covered not_covers_nil
  | cons turn rest induction =>
      intro start reads covered
      have inText := reads.next.inside
      rw [ownSpans] at covered
      split at covered
      · rcases covers_cons.mp covered with own | later
        · omega
        · exact induction reads.next later
      · exact induction reads.next covered

theorem not_covers_otherSegment {turns : List Turn} {segment : Nat × Nat} {pos : Nat} :
    ∀ {start : Nat}, segment ∈ otherSegments start turns → segment.1 ≤ pos → pos < segment.2 →
      start ≤ segment.1 ∧ ¬ Covers (ownSpans start turns) pos := by
  induction turns with
  | nil =>
      intro start member
      cases member
  | cons turn rest induction =>
      intro start member after before
      rw [otherSegments] at member
      rw [ownSpans]
      by_cases assistant : turn.IsAssistant
      · rw [if_pos assistant] at member
        rcases induction member after before with ⟨beyond, notCovered⟩
        refine ⟨by omega, ?_⟩
        split
        · rw [covers_cons]
          rintro (own | later)
          · omega
          · exact notCovered later
        · exact notCovered
      · have untrained : ¬ turn.Trained := fun isTrained => assistant isTrained.1
        rw [if_neg assistant] at member
        rw [if_neg untrained]
        rcases List.mem_cons.mp member with rfl | later
        · refine ⟨Nat.le_refl _, ?_⟩
          intro covered
          have beyond := covers_ownSpans covered
          omega
        · rcases induction later after before with ⟨beyond, notCovered⟩
          exact ⟨by omega, notCovered⟩

theorem ownSpans_untrained {turns : List Turn} (untrained : ¬ ∃ turn ∈ turns, turn.Trained) :
    ∀ start, ownSpans start turns = [] := by
  induction turns with
  | nil => exact fun _ => rfl
  | cons turn rest induction =>
      intro start
      simp only [List.mem_cons, exists_eq_or_imp, not_or] at untrained
      rw [ownSpans, if_neg untrained.1, induction untrained.2]

theorem unambiguous_untrained {turns : List Turn}
    (untrained : ¬ ∃ turn ∈ turns, turn.Trained) : Unambiguous turns := by
  induction turns with
  | nil => trivial
  | cons turn rest induction =>
      simp only [List.mem_cons, exists_eq_or_imp, not_or] at untrained
      exact ⟨fun trained => absurd trained untrained.1, fun later => absurd later untrained.2,
        induction untrained.2⟩

/-! ## The search -/

section Search

variable {text : List Char} {start cursor : Nat}

/-- What the search finds for an assistant message whose segment is not before its cursor. -/
structure Located (text : List Char) (start cursor : Nat) (turn : Turn)
    (headerPos endPos : Nat) : Prop where
  located : locateAssistant text cursor =
    .ok (headerPos + assistantHeader.length, spanEnd text endPos)
  isHeader : OccursAt text assistantHeader headerPos
  afterCursor : cursor ≤ headerPos
  notLater : headerPos ≤ start
  firstHeader : ∀ earlier, cursor ≤ earlier → OccursAt text assistantHeader earlier →
    headerPos ≤ earlier
  isEnd : OccursAt text endMarker endPos
  afterHeader : headerPos + assistantHeader.length ≤ endPos
  firstEnd : ∀ earlier, headerPos + assistantHeader.length ≤ earlier →
    OccursAt text endMarker earlier → endPos ≤ earlier
  inSegment : spanEnd text endPos ≤ start + turn.segment.length
  before : headerPos < start → spanEnd text endPos ≤ start

theorem Reads.exists_located {turn : Turn} {rest : List Turn}
    (reads : Reads text start (turn :: rest)) (behind : cursor ≤ start)
    (assistant : turn.IsAssistant) :
    ∃ headerPos endPos, Located text start cursor turn headerPos endPos := by
  rcases firstOccurrence_le (show assistantHeader ≠ [] by decide) behind
    (reads.header_occurs assistant) with ⟨headerPos, isFirst, notLater⟩
  rcases (firstOccurrence_eq_some (by decide)).mp isFirst with
    ⟨afterCursor, isHeader, firstHeader⟩
  -- The closing before or after the header bounds the first end marker.
  have closes : ∃ ends, OccursAt text closing ends ∧
      headerPos + assistantHeader.length ≤ ends ∧
      ends + closing.length ≤ start + turn.segment.length ∧
      (headerPos < start → ends + closing.length ≤ start) := by
    by_cases same : headerPos = start
    · refine ⟨start + turn.content.length, reads.closing_occurs, ?_, ?_, ?_⟩
      · rw [same, turn.content_length, Turn.header_of_assistant assistant]
        omega
      · rw [turn.segment_length, Nat.add_assoc]
      · intro before
        omega
    · rcases reads.closed with isStart | ⟨ends, endsEq, closed⟩
      · omega
      · have fits := header_le_closing closed isHeader (by omega)
        exact ⟨ends, closed, fits, by omega, fun _ => Nat.le_of_eq endsEq⟩
  rcases closes with ⟨ends, closed, after, inSegment, before⟩
  rcases firstOccurrence_le (show endMarker ≠ [] by decide) after
    (endMarker_of_closing closed).1 with ⟨endPos, isFirstEnd, endNotLater⟩
  rcases (firstOccurrence_eq_some (by decide)).mp isFirstEnd with ⟨afterHeader, isEnd, firstEnd⟩
  have spanLe : spanEnd text endPos ≤ ends + closing.length :=
    Nat.le_trans (spanEnd_bounds text endPos).2 (Nat.add_le_add_right endNotLater _)
  refine ⟨headerPos, endPos, ?_, isHeader, afterCursor, notLater, firstHeader, isEnd,
    afterHeader, firstEnd, Nat.le_trans spanLe inSegment, ?_⟩
  · rw [locateAssistant]
    simp only [isFirst, isFirstEnd]
  · exact fun earlier => Nat.le_trans spanLe (before earlier)

theorem Located.foundSpans_cons {turn : Turn} {rest : List Turn} {headerPos endPos : Nat}
    (located : Located text start cursor turn headerPos endPos) (assistant : turn.IsAssistant) :
    foundSpans text ((turn :: rest).map Turn.message) cursor =
      (do
        let spans ← foundSpans text (rest.map Turn.message) (spanEnd text endPos)
        pure (if turn.Trained then
          (maskStart text (headerPos + assistantHeader.length), spanEnd text endPos) :: spans
        else spans)) := by
  have trains : turn.Trained ↔ turn.message.trains = true := and_iff_right assistant
  have isAssistant : turn.message.role = "assistant" := assistant
  rw [List.map_cons, foundSpans, if_neg (not_not.mpr isAssistant), located.located, ok_bind]
  simp only [trains]

theorem foundSpans_other {turn : Turn} {rest : List Turn} (other : ¬ turn.IsAssistant) :
    foundSpans text ((turn :: rest).map Turn.message) cursor =
      foundSpans text (rest.map Turn.message) cursor := by
  have isOther : turn.message.role ≠ "assistant" := other
  rw [List.map_cons, foundSpans, if_pos isOther]

theorem maskStart_bounds (text : List Char) (contentStart : Nat) :
    contentStart ≤ maskStart text contentStart ∧
    maskStart text contentStart ≤ contentStart + thinkPrefix.length := by
  rw [maskStart]
  split
  · omega
  · omega

theorem Reads.foundSpans_isOk {turns : List Turn} :
    ∀ {start cursor : Nat}, Reads text start turns → cursor ≤ start →
      ∃ spans, foundSpans text (turns.map Turn.message) cursor = .ok spans ∧
        ∀ pos, Covers spans pos → cursor < pos ∧ pos < text.length := by
  induction turns with
  | nil =>
      intro start cursor _ _
      exact ⟨[], rfl, fun pos covered => absurd covered not_covers_nil⟩
  | cons turn rest induction =>
      intro start cursor reads behind
      by_cases assistant : turn.IsAssistant
      · rcases reads.exists_located behind assistant with ⟨headerPos, endPos, located⟩
        rcases induction reads.next located.inSegment with ⟨spans, spansEq, after⟩
        have bounds := spanEnd_bounds text endPos
        have contentAfter := maskStart_bounds text (headerPos + assistantHeader.length)
        have afterCursor := located.afterCursor
        have afterHeader := located.afterHeader
        have positive := length_assistantHeader
        have inSegment := located.inSegment
        have inText := reads.next.inside
        rw [located.foundSpans_cons assistant, spansEq, ok_bind]
        refine ⟨_, rfl, ?_⟩
        intro pos covered
        split at covered
        · rcases covers_cons.mp covered with own | later
          · omega
          · have afterEnd := after pos later
            omega
        · have afterEnd := after pos covered
          omega
      · rw [foundSpans_other assistant]
        exact induction reads.next (by omega)

theorem foundSpans_untrained {turns : List Turn}
    (untrained : ¬ ∃ turn ∈ turns, turn.Trained) :
    ∀ {start cursor : Nat}, Reads text start turns → cursor ≤ start →
      foundSpans text (turns.map Turn.message) cursor = .ok [] := by
  induction turns with
  | nil => exact fun _ _ => rfl
  | cons turn rest induction =>
      intro start cursor reads behind
      simp only [List.mem_cons, exists_eq_or_imp, not_or] at untrained
      by_cases assistant : turn.IsAssistant
      · rcases reads.exists_located behind assistant with ⟨headerPos, endPos, located⟩
        rw [located.foundSpans_cons assistant,
          induction untrained.2 reads.next located.inSegment, ok_bind, if_neg untrained.1,
          pure_eq_ok]
      · rw [foundSpans_other assistant]
        exact induction untrained.2 reads.next (by omega)

/-- Once a header is left over, the last trained segment stays without its span. -/
theorem Reads.misses_of_leftover {turns : List Turn} (trained : ∃ turn ∈ turns, turn.Trained) :
    ∀ {start cursor leftover : Nat} {spans : List (Nat × Nat)}, Reads text start turns →
      cursor ≤ leftover → leftover < start → OccursAt text assistantHeader leftover →
      foundSpans text (turns.map Turn.message) cursor = .ok spans →
      ∃ pos, Covers (ownSpans start turns) pos ∧ ¬ Covers spans pos := by
  induction turns with
  | nil =>
      rcases trained with ⟨turn, member, _⟩
      cases member
  | cons turn rest induction =>
      intro start cursor leftover spans reads after before isHeader found
      have segmentLength := turn.segment_length
      have closingLength := length_closing
      by_cases assistant : turn.IsAssistant
      · rcases reads.exists_located (show cursor ≤ start by omega) assistant with
          ⟨headerPos, endPos, located⟩
        have early := located.firstHeader leftover after isHeader
        have spanBefore := located.before (by omega)
        rw [located.foundSpans_cons assistant] at found
        rcases bind_eq_ok.mp found with ⟨later, laterEq, returned⟩
        rw [← Except.ok.inj returned]
        -- The span found for this message ends before its segment.
        have notOwn (pos : Nat) (inSegment : start ≤ pos) (notLater : ¬ Covers later pos) :
            ¬ Covers (if turn.Trained then
              (maskStart text (headerPos + assistantHeader.length), spanEnd text endPos) :: later
            else later) pos := by
          split
          · rw [covers_cons]
            rintro (own | isLater)
            · omega
            · exact notLater isLater
          · exact notLater
        by_cases trainedLater : ∃ later ∈ rest, later.Trained
        · rcases induction trainedLater reads.next spanBefore (by omega)
            (reads.header_occurs assistant) laterEq with ⟨pos, covered, notCovered⟩
          have afterSegment := covers_ownSpans covered
          refine ⟨pos, ?_, notOwn pos (by omega) notCovered⟩
          rw [ownSpans]
          split
          · exact covers_cons.mpr (.inr covered)
          · exact covered
        · have isTrained : turn.Trained := by
            rcases trained with ⟨other, member, otherTrained⟩
            rcases List.mem_cons.mp member with rfl | inRest
            · exact otherTrained
            · exact absurd ⟨other, inRest, otherTrained⟩ trainedLater
          have noLater := foundSpans_untrained trainedLater reads.next located.inSegment
          rw [noLater] at laterEq
          have inside := turn.trainedFrom_le
          refine ⟨start + turn.content.length, ?_, notOwn _ (by omega) ?_⟩
          · rw [ownSpans, if_pos isTrained, covers_cons]
            left
            dsimp only
            omega
          · rw [← Except.ok.inj laterEq]
            exact not_covers_nil
      · rw [foundSpans_other assistant] at found
        have untrained : ¬ turn.Trained := fun isTrained => assistant isTrained.1
        have trainedLater : ∃ later ∈ rest, later.Trained := by
          rcases trained with ⟨other, member, otherTrained⟩
          rcases List.mem_cons.mp member with rfl | inRest
          · exact absurd otherTrained untrained
          · exact ⟨other, inRest, otherTrained⟩
        rw [ownSpans, if_neg untrained]
        exact induction trainedLater reads.next after (by omega) isHeader found

def InStep (text : List Char) (cursor start : Nat) : Prop :=
  ∀ position, cursor ≤ position → position < start → ¬ OccursAt text assistantHeader position

def SameCharacters (spans others : List (Nat × Nat)) : Prop :=
  ∀ pos, Covers spans pos ↔ Covers others pos

section InStep

variable {turn : Turn} {rest : List Turn} {endPos : Nat} {spans : List (Nat × Nat)}

theorem Reads.unmarked_other (reads : Reads text start (turn :: rest))
    (inStep : InStep text cursor start) (behind : cursor ≤ start)
    (other : ¬ turn.IsAssistant) :
    turn.Unmarked ↔ InStep text cursor (start + turn.segment.length) := by
  have segmentLength := turn.segment_length
  rw [Turn.Unmarked, if_neg other]
  constructor
  · intro unmarked position after before isHeader
    by_cases earlier : position < start
    · exact inStep position after earlier isHeader
    · have fits := reads.header_fits isHeader before
      apply unmarked (position - start)
      apply (reads.occurs_iff (by omega)).mp
      rwa [Nat.add_sub_of_le (Nat.le_of_not_lt earlier)]
  · intro synced headerPos isHeader
    have fits := isHeader.end_le (by decide)
    have positive := length_assistantHeader
    have closingLength := length_closing
    apply synced (start + headerPos) (by omega) (by omega)
    exact (reads.occurs_iff fits).mpr isHeader

/-- An assistant message is unmarked if the search is in step after its span. -/
theorem Located.unmarked (located : Located text start cursor turn start endPos)
    (reads : Reads text start (turn :: rest)) (assistant : turn.IsAssistant) :
    turn.Unmarked ↔
      InStep text (spanEnd text endPos) (start + turn.segment.length) := by
  have segmentLength := turn.segment_length
  have contentLength := turn.content_length
  have headerLength := congrArg List.length (Turn.header_of_assistant assistant)
  have bounds := spanEnd_bounds text endPos
  have afterHeader := located.afterHeader
  have markerLength := length_assistantHeader
  have endLength := length_endMarker
  rw [Turn.Unmarked, if_pos assistant]
  constructor
  · intro unmarked position after before isHeader
    have fits := reads.header_fits isHeader before
    have inBody {pattern : List Char} {place : Nat} (occurs : OccursAt text pattern place)
        (afterStart : start + turn.header.length ≤ place)
        (inside : place + pattern.length ≤ start + turn.content.length) :
        OccursAt turn.body pattern (place - (start + turn.header.length)) := by
      apply (reads.body_iff (by omega)).mp
      rwa [Nat.add_sub_of_le afterStart]
    have isLess := unmarked _ _ (inBody located.isEnd (by omega) (by omega))
      (inBody isHeader (by omega) fits)
    omega
  · intro synced ends headerPos isEnd isHeader
    have endFits := isEnd.end_le (by decide)
    have headerFits := isHeader.end_le (by decide)
    have isEndInText := (reads.body_iff endFits).mpr isEnd
    have isHeaderInText := (reads.body_iff headerFits).mpr isHeader
    by_contra notBefore
    have first := located.firstEnd _ (by omega) isEndInText
    have different : endPos ≠ start + turn.header.length + headerPos := by
      intro same
      apply header_ne_endMarker isHeaderInText
      rw [← same]
      exact located.isEnd
    have spanBefore := spanEnd_le_opening located.isEnd isHeaderInText (by decide) (by omega)
    exact synced _ spanBefore (by omega) isHeaderInText

theorem Located.noEnd_iff (located : Located text start cursor turn start endPos)
    (reads : Reads text start (turn :: rest)) (assistant : turn.IsAssistant) :
    (∀ ends, ¬ OccursAt turn.body endMarker ends) ↔
      endPos = start + turn.content.length := by
  have contentLength := turn.content_length
  have headerLength := congrArg List.length (Turn.header_of_assistant assistant)
  have afterHeader := located.afterHeader
  have own := (endMarker_of_closing reads.closing_occurs).1
  have notLater := located.firstEnd _ (by omega) own
  constructor
  · intro noEnd
    by_contra different
    have fits := located.isEnd.apart endMarker_opensOnce own (by decide) (by omega)
    apply noEnd (endPos - (start + turn.header.length))
    apply (reads.body_iff (by omega)).mp
    rw [Nat.add_sub_of_le (by omega)]
    exact located.isEnd
  · intro same ends isEnd
    have fits := isEnd.end_le (by decide)
    have first := located.firstEnd _ (by omega) ((reads.body_iff fits).mpr isEnd)
    have positive := length_endMarker
    omega

/-- The span found in step is the own one if it stops at the end of the segment. -/
theorem Located.sameCharacters_iff (located : Located text start cursor turn start endPos)
    (reads : Reads text start (turn :: rest)) (assistant : turn.IsAssistant)
    (after : ∀ pos, Covers spans pos → spanEnd text endPos < pos) :
    SameCharacters
        ((maskStart text (start + assistantHeader.length), spanEnd text endPos) :: spans)
        ((start + turn.trainedFrom, start + turn.segment.length) ::
          ownSpans (start + turn.segment.length) rest) ↔
      endPos = start + turn.content.length ∧
        SameCharacters spans (ownSpans (start + turn.segment.length) rest) := by
  have segmentLength := turn.segment_length
  have own := (endMarker_of_closing reads.closing_occurs).1
  have contentLength := turn.content_length
  have headerEq := Turn.header_of_assistant assistant
  have headerLength := congrArg List.length headerEq
  have afterHeader := located.afterHeader
  have notLater := located.firstEnd _ (by omega) own
  have closingLength := length_closing
  rw [← headerEq, reads.maskStart_eq]
  constructor
  · intro same
    have stops : endPos = start + turn.content.length := by
      by_contra different
      have stop := spanEnd_le_opening located.isEnd own (by decide) (by omega)
      have bounds := spanEnd_bounds text endPos
      have trainedFrom : turn.trainedFrom ≤ turn.header.length + thinkPrefix.length := by
        rw [Turn.trainedFrom]
        split
        · exact Nat.le_refl _
        · omega
      have endLength := length_endMarker
      have thinkLength := length_thinkPrefix
      have covered := (same (spanEnd text endPos)).mpr
        (covers_cons.mpr (.inl ⟨by dsimp only; omega, by dsimp only; omega⟩))
      rcases covers_cons.mp covered with inSpan | later
      · exact Nat.lt_irrefl _ inSpan.2
      · exact Nat.lt_irrefl _ (after _ later)
    refine ⟨stops, ?_⟩
    have stop : spanEnd text endPos = start + turn.segment.length := by
      rw [stops, spanEnd_of_closing reads.closing_occurs, segmentLength, Nat.add_assoc]
    intro pos
    rw [stop] at same after
    have both := same pos
    rw [covers_cons, covers_cons] at both
    constructor
    · intro covered
      have beyond := after pos covered
      rcases both.mp (.inr covered) with inSpan | later
      · omega
      · exact later
    · intro covered
      have beyond := covers_ownSpans covered
      rcases both.mpr (.inr covered) with inSpan | later
      · omega
      · exact later
  · rintro ⟨stops, same⟩ pos
    rw [stops, spanEnd_of_closing reads.closing_occurs, segmentLength, Nat.add_assoc,
      covers_cons, covers_cons, ← segmentLength, same pos]

theorem Reads.sameCharacters_rest (next : Reads text start rest) (behind : cursor ≤ start)
    (unmarked : turn.Unmarked ↔ InStep text cursor start)
    (found : foundSpans text (rest.map Turn.message) cursor = .ok spans)
    (decides : InStep text cursor start →
      (SameCharacters spans (ownSpans start rest) ↔ Unambiguous rest)) :
    SameCharacters spans (ownSpans start rest) ↔
      ((∃ later ∈ rest, later.Trained) → turn.Unmarked) ∧ Unambiguous rest := by
  by_cases inStep : InStep text cursor start
  · rw [decides inStep]
    exact (and_iff_right fun _ => unmarked.mpr inStep).symm
  · have isMarked : ¬ turn.Unmarked := fun isUnmarked => inStep (unmarked.mp isUnmarked)
    by_cases trainedLater : ∃ later ∈ rest, later.Trained
    · have leftover : ∃ position, cursor ≤ position ∧ position < start ∧
          OccursAt text assistantHeader position := by
        by_contra none
        exact inStep fun position after before isHeader => none ⟨position, after, before, isHeader⟩
      rcases leftover with ⟨position, after, before, isHeader⟩
      rcases next.misses_of_leftover trainedLater after before isHeader found with
        ⟨pos, covered, notCovered⟩
      constructor
      · exact fun same => absurd ((same pos).mpr covered) notCovered
      · exact fun holds => absurd (holds.1 trainedLater) isMarked
    · rw [foundSpans_untrained trainedLater next behind, Except.ok.injEq] at found
      rw [← found, ownSpans_untrained trainedLater]
      exact iff_of_true (fun _ => Iff.rfl)
        ⟨fun later => absurd later trainedLater, unambiguous_untrained trainedLater⟩

end InStep

/-- In step, the search finds the spans of the messages exactly if they are unambiguous. -/
theorem Reads.sameCharacters_iff {turns : List Turn} :
    ∀ {start cursor : Nat} {spans : List (Nat × Nat)}, Reads text start turns →
      cursor ≤ start → InStep text cursor start →
      foundSpans text (turns.map Turn.message) cursor = .ok spans →
      (SameCharacters spans (ownSpans start turns) ↔ Unambiguous turns) := by
  induction turns with
  | nil =>
      intro start cursor spans _ _ _ found
      rw [List.map_nil, foundSpans, Except.ok.injEq] at found
      rw [← found]
      exact iff_of_true (fun _ => Iff.rfl) trivial
  | cons turn rest induction =>
      intro start cursor spans reads behind inStep found
      rw [ownSpans, Unambiguous]
      by_cases assistant : turn.IsAssistant
      · rcases reads.exists_located behind assistant with ⟨headerPos, endPos, located⟩
        have same : headerPos = start := by
          by_contra different
          have notLater := located.notLater
          exact inStep headerPos located.afterCursor (by omega) located.isHeader
        subst same
        rw [located.foundSpans_cons assistant] at found
        rcases bind_eq_ok.mp found with ⟨later, laterEq, returned⟩
        rw [← Except.ok.inj returned]
        have decided := reads.next.sameCharacters_rest located.inSegment
          (located.unmarked reads assistant) laterEq
          fun stays => induction reads.next located.inSegment stays laterEq
        by_cases trained : turn.Trained
        · rcases reads.next.foundSpans_isOk located.inSegment with ⟨found, foundEq, after⟩
          rw [foundEq, Except.ok.injEq] at laterEq
          rw [laterEq] at after
          rw [if_pos trained, if_pos trained,
            located.sameCharacters_iff reads assistant fun pos covered => (after pos covered).1,
            decided, ← located.noEnd_iff reads assistant, forall_prop_of_true trained]
        · rw [if_neg trained, if_neg trained, decided]
          exact (and_iff_right fun isTrained => absurd isTrained trained).symm
      · have untrained : ¬ turn.Trained := fun isTrained => assistant isTrained.1
        rw [foundSpans_other assistant] at found
        rw [if_neg untrained, reads.next.sameCharacters_rest (by omega)
          (reads.unmarked_other inStep behind assistant) found
          fun stays => induction reads.next (by omega) stays found]
        exact (and_iff_right fun isTrained => absurd isTrained untrained).symm

end Search

end Vime.Utils.MaskUtils
