import Vime.Agent.TurnRuns

/-! # The loss mask of a run

A builder trains exactly the responses of the trained turns of its run that no
later turn overwrote.
-/

namespace Vime.Agent

open Vime.Foundation Vime.Utils

variable {Message F Prompt : Type}

namespace FlaggedTurn

/-- The held token at `position` belongs to the trained response of the turn. -/
structure Trains (flagged : FlaggedTurn F) (position : Nat) : Prop where
  trained : flagged.trained = true
  after : flagged.turn.promptIds.length ≤ position
  before : position < flagged.turn.promptIds.length + flagged.turn.outputIds.length

def trainsBelow (budget : Nat) (flagged : FlaggedTurn F) : Bool :=
  flagged.trained && !flagged.turn.outputIds.isEmpty &&
    flagged.turn.promptIds.length < budget

def trainsAny (flagged : FlaggedTurn F) : Bool :=
  flagged.trained && !flagged.turn.outputIds.isEmpty

theorem trainsBelow_iff {budget : Nat} {flagged : FlaggedTurn F} :
    flagged.trainsBelow budget = true ↔ ∃ position < budget, flagged.Trains position := by
  simp only [trainsBelow, Bool.and_eq_true, Bool.not_eq_true', List.isEmpty_eq_false_iff,
    ← List.length_pos_iff, decide_eq_true_eq]
  constructor
  · rintro ⟨⟨trained, nonempty⟩, inside⟩
    exact ⟨_, inside, trained, Nat.le_refl _, by omega⟩
  · rintro ⟨position, inside, trained, after, before⟩
    exact ⟨⟨trained, by omega⟩, by omega⟩

theorem trainsAny_iff {flagged : FlaggedTurn F} :
    flagged.trainsAny = true ↔ ∃ position, flagged.Trains position := by
  simp only [trainsAny, Bool.and_eq_true, Bool.not_eq_true', List.isEmpty_eq_false_iff,
    ← List.length_pos_iff]
  constructor
  · rintro ⟨trained, nonempty⟩
    exact ⟨_, trained, Nat.le_refl _, by omega⟩
  · rintro ⟨position, trained, after, before⟩
    exact ⟨trained, by omega⟩

end FlaggedTurn

theorem survivors_subset (forkThreshold : Nat) :
    ∀ (run : List (FlaggedTurn F)), survivors forkThreshold run ⊆ run
  | [] => List.Subset.refl _
  | flagged :: rest => by
      have later := survivors_subset forkThreshold rest
      rw [survivors]
      split
      · exact List.subset_cons_of_subset _ later
      · exact List.cons_subset_cons _ later

section Masks

variable [LogProbValue F] {forkThreshold : Nat}

theorem SampleBuilder.Appended.lossMask_eq_one_iff {builder next : SampleBuilder F}
    {flagged : FlaggedTurn F} {keep : Nat}
    (appended : SampleBuilder.Appended builder flagged.turn keep flagged.trained next)
    (inside : keep ≤ builder.lossMask.length) (position : Nat) :
    next.lossMask[position]? = some 1 ↔
      position < keep ∧ builder.lossMask[position]? = some 1 ∨ flagged.Trains position := by
  have inPrompt := appended.agrees.trans (commonPrefixLength_le_right _ _)
  have keptLength : (builder.lossMask.take keep).length = keep := List.length_take_of_le inside
  have promptLength : (builder.lossMask.take keep ++
      List.replicate (flagged.turn.promptIds.length - keep) 0).length =
      flagged.turn.promptIds.length := by
    rw [List.length_append, keptLength, List.length_replicate]
    omega
  rw [appended.lossMask]
  by_cases beforeOutput : position < flagged.turn.promptIds.length
  · have notTrained : ¬ flagged.Trains position := fun trains =>
      absurd trains.after (Nat.not_le_of_lt beforeOutput)
    rw [List.getElem?_append_left (by omega), or_iff_left notTrained]
    by_cases kept : position < keep
    · rw [List.getElem?_append_left (by omega), List.getElem?_take, if_pos kept,
        and_iff_right kept]
    · rw [List.getElem?_append_right (by omega), List.getElem?_replicate, keptLength,
        if_pos (by omega)]
      simp [kept]
  · rw [List.getElem?_append_right (by omega), List.getElem?_replicate, promptLength]
    have notKept : ¬ position < keep := by omega
    simp only [notKept, false_and, false_or]
    constructor
    · intro isOne
      split at isOne
      · rename_i inOutput
        have trained : flagged.trained = true := by
          cases flag : flagged.trained <;> simp [flag] at isOne ⊢
        exact ⟨trained, by omega, by omega⟩
      · cases isOne
    · intro trains
      have inOutput := trains.before
      rw [if_pos (by omega), trains.trained]
      rfl

structure MasksRun (forkThreshold : Nat) (run : List (FlaggedTurn F))
    (builder : SampleBuilder F) : Prop where
  leading : run.head?.map (fun flagged => flagged.turn.promptIds.length) =
    some builder.leadingPromptLen
  longer : ∀ flagged ∈ run, builder.leadingPromptLen ≤ flagged.turn.promptIds.length
  binary : ∀ entry ∈ builder.lossMask, entry = 0 ∨ entry = 1
  ones : ∀ position, builder.lossMask[position]? = some 1 ↔
    ∃ flagged ∈ survivors forkThreshold run, flagged.Trains position
  disjoint : ∀ body last, survivors forkThreshold run = body ++ [last] →
    ∀ flagged ∈ body, flagged.turn.promptIds.length + flagged.turn.outputIds.length ≤
      last.turn.promptIds.length

theorem SampleBuilder.Appended.binary {builder next : SampleBuilder F}
    {turn : TurnRecord F} {keep : Nat} {trained : Bool}
    (appended : SampleBuilder.Appended builder turn keep trained next)
    (before : ∀ entry ∈ builder.lossMask, entry = 0 ∨ entry = 1) :
    ∀ entry ∈ next.lossMask, entry = 0 ∨ entry = 1 := by
  intro entry member
  rw [appended.lossMask, List.mem_append, List.mem_append] at member
  rcases member with (kept | inPrompt) | inOutput
  · exact before entry (List.mem_of_mem_take kept)
  · exact .inl (List.eq_of_mem_replicate inPrompt)
  · rw [List.eq_of_mem_replicate inOutput]
    cases trained <;> simp

theorem MasksRun.opened {flagged : FlaggedTurn F} {builder : SampleBuilder F}
    (appended : SampleBuilder.Appended { forkThreshold := forkThreshold } flagged.turn 0
      flagged.trained builder) : MasksRun forkThreshold [flagged] builder where
  leading := by
    rw [appended.leading]
    rfl
  longer := by
    rw [List.forall_mem_singleton, appended.leading]
    exact Nat.le_refl _
  binary := appended.binary (by intro entry member; cases member)
  ones := by
    intro position
    rw [appended.lossMask_eq_one_iff (Nat.zero_le _)]
    simp [survivors]
  disjoint := by
    intro body last single other member
    have length := congrArg List.length single
    simp only [survivors, List.head?_nil, Option.any_none, List.length_append,
      List.length_singleton] at length
    have isNil : body = [] := List.length_eq_zero_iff.mp (by simpa using length.symm)
    rw [isNil] at member
    cases member

theorem MasksRun.extended {before : List (FlaggedTurn F)} {last flagged : FlaggedTurn F}
    {builder next : SampleBuilder F} (masks : MasksRun forkThreshold (before ++ [last]) builder)
    (holds : HoldsRun forkThreshold last builder)
    (appended : SampleBuilder.Appended builder flagged.turn
      (keptAfter forkThreshold last flagged) flagged.trained next) :
    MasksRun forkThreshold (before ++ [last] ++ [flagged]) next := by
  have inHeld := appended.agrees.trans (commonPrefixLength_le_left _ _)
  have inPrompt := appended.agrees.trans (commonPrefixLength_le_right _ _)
  have fromLast : last.turn.promptIds.length ≤ keptAfter forkThreshold last flagged := by
    rw [keptAfter]
    split <;> omega
  have lastLonger := masks.longer last (by simp)
  have sameLeading : next.leadingPromptLen = builder.leadingPromptLen := by
    rw [appended.leading, holds.start]
    rfl
  rcases survivors_concat forkThreshold before last flagged with ⟨body, ends, grows⟩
  have bodyEnds := masks.disjoint body last ends
  constructor
  · rw [sameLeading, ← masks.leading]
    cases before <;> rfl
  · intro other member
    rw [sameLeading]
    rcases List.mem_append.mp member with older | isNew
    · exact masks.longer other older
    · rw [List.mem_singleton.mp isNew]
      omega
  · exact appended.binary masks.binary
  · intro position
    rw [appended.lossMask_eq_one_iff (by rw [holds.parallel.lossMask]; exact inHeld),
      masks.ones, ends, grows]
    simp only [List.mem_append, List.mem_singleton, or_and_right, exists_or, exists_eq_left]
    apply or_congr_left
    rw [keptAfter]
    split
    · -- what is kept ends before the overwritten response
      constructor
      · rintro ⟨inside, ⟨other, member, trains⟩ | trains⟩
        · exact ⟨other, member, trains⟩
        · exact absurd trains.after (Nat.not_le_of_lt inside)
      · rintro ⟨other, member, trains⟩
        exact ⟨Nat.lt_of_lt_of_le trains.before (bodyEnds other member),
          .inl ⟨other, member, trains⟩⟩
    · -- everything held ends with the last response
      simp only [List.mem_append, List.mem_singleton, or_and_right, exists_or, exists_eq_left]
      rw [and_iff_right_iff_imp]
      rintro (⟨other, member, trains⟩ | trains)
      · exact Nat.lt_of_lt_of_le trains.before
          ((bodyEnds other member).trans (Nat.le_add_right _ _))
      · exact trains.before
  · intro newBody newLast newEnds other member
    rw [grows] at newEnds
    have same := List.append_inj' newEnds rfl
    rw [← List.singleton_inj.mp same.2]
    rw [← same.1] at member
    rw [keptAfter] at inPrompt fromLast
    split at member
    · exact (bodyEnds other member).trans (fromLast.trans inPrompt)
    · rename_i keeps
      rw [if_neg keeps] at inPrompt fromLast
      rcases List.mem_append.mp member with older | isLast
      · exact (bodyEnds other older).trans (fromLast.trans inPrompt)
      · rw [List.mem_singleton.mp isLast]
        exact inPrompt

theorem Built.masksRun {run : List (FlaggedTurn F)} {builder : SampleBuilder F}
    (built : Built forkThreshold run builder) : MasksRun forkThreshold run builder :=
  Built.invariant (fun _ _ appended => .opened appended)
    (fun _ _ _ _ _ masks holds _ appended => masks.extended holds appended) built

def trainsWithin (forkThreshold budget : Nat) (run : List (FlaggedTurn F)) : Bool :=
  (survivors forkThreshold run).any (FlaggedTurn.trainsBelow budget)

def trainsSomething (forkThreshold : Nat) (run : List (FlaggedTurn F)) : Bool :=
  (survivors forkThreshold run).any FlaggedTurn.trainsAny

omit [LogProbValue F] in
theorem MasksRun.leading_le {run : List (FlaggedTurn F)} {builder : SampleBuilder F}
    (masks : MasksRun forkThreshold run builder) {position : Nat}
    (trained : builder.lossMask[position]? = some 1) :
    builder.leadingPromptLen ≤ position := by
  rcases (masks.ones position).mp trained with ⟨flagged, member, trains⟩
  exact (masks.longer flagged (survivors_subset _ _ member)).trans trains.after

omit [LogProbValue F] in
theorem MasksRun.hasTrainedResponse {run : List (FlaggedTurn F)} {builder : SampleBuilder F}
    (masks : MasksRun forkThreshold run builder) :
    builder.hasTrainedResponse = trainsSomething forkThreshold run := by
  rw [Bool.eq_iff_iff, SampleBuilder.hasTrainedResponse, trainsSomething, List.any_eq_true,
    List.any_eq_true]
  constructor
  · rintro ⟨entry, member, nonzero⟩
    have isOne : entry = 1 :=
      (masks.binary entry (List.mem_of_mem_drop member)).resolve_left (by simpa using nonzero)
    rcases List.getElem?_of_mem (List.mem_of_mem_drop member) with ⟨position, atPosition⟩
    rcases (masks.ones position).mp (isOne ▸ atPosition) with ⟨flagged, survives, trains⟩
    exact ⟨flagged, survives, FlaggedTurn.trainsAny_iff.mpr ⟨position, trains⟩⟩
  · rintro ⟨flagged, survives, trainsAny⟩
    rcases FlaggedTurn.trainsAny_iff.mp trainsAny with ⟨position, trains⟩
    have trained := (masks.ones position).mpr ⟨flagged, survives, trains⟩
    refine ⟨1, ?_, rfl⟩
    apply List.mem_of_getElem? (i := position - builder.leadingPromptLen)
    rw [List.getElem?_drop, Nat.add_sub_cancel' (masks.leading_le trained)]
    exact trained

omit [LogProbValue F] in
/-- The mask cut to a budget trains a token of the response region exactly if some
kept turn trains one within the budget. -/
theorem MasksRun.one_mem_cut_iff {run : List (FlaggedTurn F)} {builder : SampleBuilder F}
    (masks : MasksRun forkThreshold run builder) (budget : Nat) :
    1 ∈ (builder.lossMask.take budget).drop builder.leadingPromptLen ↔
      trainsWithin forkThreshold budget run = true := by
  rw [trainsWithin, List.any_eq_true]
  constructor
  · intro member
    rcases List.getElem?_of_mem member with ⟨index, atIndex⟩
    rw [List.getElem?_drop, List.getElem?_take] at atIndex
    split at atIndex
    · rename_i inside
      rcases (masks.ones _).mp atIndex with ⟨flagged, survives, trains⟩
      exact ⟨flagged, survives, FlaggedTurn.trainsBelow_iff.mpr ⟨_, inside, trains⟩⟩
    · cases atIndex
  · rintro ⟨flagged, survives, below⟩
    rcases FlaggedTurn.trainsBelow_iff.mp below with ⟨position, inside, trains⟩
    have trained := (masks.ones position).mpr ⟨flagged, survives, trains⟩
    apply List.mem_of_getElem? (i := position - builder.leadingPromptLen)
    rw [List.getElem?_drop, Nat.add_sub_cancel' (masks.leading_le trained),
      List.getElem?_take, if_pos inside]
    exact trained

end Masks

end Vime.Agent
