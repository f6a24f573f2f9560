import Vime.Agent.ResponseTrace

/-! # Responses along one path

Whether a path keeps the response of a turn is decided by the turn that follows
it there. All kept responses are held once, trained exactly when no earlier path
had claimed their node.
-/

namespace Vime.Agent

open Vime.Foundation Vime.Utils

variable {Message F Sid Prompt : Type}

/-! ## Overwritten responses -/

/-- The following turn of the same path diverges inside the response of `turn`
and is short enough to be realigned. -/
def Realigns (forkThreshold : Nat) (turn next : TurnRecord F) : Prop :=
  let held := turn.promptIds ++ turn.outputIds
  let agreed := commonPrefixLength held next.promptIds
  turn.promptIds.length ≤ agreed ∧ agreed < held.length ∧
    next.outputIds.length < forkThreshold

instance (forkThreshold : Nat) (turn next : TurnRecord F) :
    Decidable (Realigns forkThreshold turn next) :=
  inferInstanceAs (Decidable (_ ∧ _ ∧ _))

/-- The response of the node `id` is overwritten by the turn that follows it on
the path. -/
def overwritten (forkThreshold : Nat) : List (Nat × TurnRecord F) → Nat → Bool
  | node :: next :: rest, id =>
      if node.1 = id then decide (Realigns forkThreshold node.2 next.2)
      else overwritten forkThreshold (next :: rest) id
  | _, _ => false

theorem overwritten_concat (forkThreshold : Nat) (last next : Nat × TurnRecord F)
    (id : Nat) : ∀ (earlier : List (Nat × TurnRecord F)),
      (∀ node ∈ earlier, node.1 ≠ last.1) →
      overwritten forkThreshold (earlier ++ [last, next]) id =
        if last.1 = id then decide (Realigns forkThreshold last.2 next.2)
        else overwritten forkThreshold (earlier ++ [last]) id
  | [], _ => by simp [overwritten]
  | [node], distinct => by
      have different : node.1 ≠ last.1 := distinct node (by simp)
      by_cases isNode : node.1 = id
      · have notLast : last.1 ≠ id := fun equal => different (isNode.trans equal.symm)
        simp [overwritten, isNode, notLast]
      · simp [overwritten, isNode]
  | node :: second :: rest, distinct => by
      have later := overwritten_concat forkThreshold last next id (second :: rest)
        (fun other member => distinct other (List.mem_cons_of_mem _ member))
      have different : node.1 ≠ last.1 := distinct node (by simp)
      simp only [List.cons_append] at later ⊢
      rw [overwritten, overwritten, later]
      by_cases isNode : node.1 = id
      · have notLast : last.1 ≠ id := fun equal => different (isNode.trans equal.symm)
        simp [isNode, notLast]
      · simp [isNode]

theorem overwritten_last (forkThreshold : Nat) (last : Nat × TurnRecord F) :
    ∀ (earlier : List (Nat × TurnRecord F)), (∀ node ∈ earlier, node.1 ≠ last.1) →
      overwritten forkThreshold (earlier ++ [last]) last.1 = false
  | [], _ => rfl
  | [node], distinct => by
      simp [overwritten, distinct node (by simp)]
  | node :: second :: rest, distinct => by
      have later := overwritten_last forkThreshold last (second :: rest)
        (fun other member => distinct other (List.mem_cons_of_mem _ member))
      simp only [List.cons_append] at later ⊢
      rw [overwritten, if_neg (distinct node (by simp))]
      exact later

theorem overwritten_of_not_mem (forkThreshold : Nat) (id : Nat) :
    ∀ (nodes : List (Nat × TurnRecord F)), (∀ node ∈ nodes, node.1 ≠ id) →
      overwritten forkThreshold nodes id = false
  | [], _ => rfl
  | [_], _ => rfl
  | node :: next :: rest, absent => by
      rw [overwritten, if_neg (absent node (by simp))]
      exact overwritten_of_not_mem forkThreshold id (next :: rest)
        fun other member => absent other (List.mem_cons_of_mem _ member)

/-! ## The builder that took the latest turn -/

def TurnRecord.flagged (turn : TurnRecord F) (trained : Bool) : List (TokenId × Nat) :=
  turn.outputIds.map fun token => (token, trained.toNat)

theorem TurnRecord.flagged_eq_zip (turn : TurnRecord F) (trained : Bool) :
    turn.flagged trained =
      turn.outputIds.zip (List.replicate turn.outputIds.length trained.toNat) := by
  rw [flagged]
  induction turn.outputIds with
  | nil => rfl
  | cons token rest induction =>
      rw [List.map_cons, induction, List.length_cons, List.replicate_succ,
        List.zip_cons_cons]

theorem TurnRecord.flagged_ne_nil {turn : TurnRecord F} (generated : turn.outputIds ≠ [])
    (trained : Bool) : turn.flagged trained ≠ [] := by
  simpa [flagged] using generated

/-- The builder ends with the response of `last`, and nothing before it was
generated by that node. -/
structure Latest (traced : TracedBuilder F) (last : Nat × TurnRecord F) : Prop where
  tokens : traced.builder.tokens = last.2.promptIds ++ last.2.outputIds
  start : traced.builder.lastResponseStartIdx = some last.2.promptIds.length
  leading : traced.builder.leadingPromptLen ≤ last.2.promptIds.length
  origin : ∃ front, traced.origin =
      front ++ List.replicate last.2.outputIds.length (some last.1) ∧
    front.length = last.2.promptIds.length ∧ some last.1 ∉ front

/-- Lists of a traced builder are index-aligned and its leading prompt was not
generated. -/
structure TracedBuilder.WellTraced (forkThreshold : Nat) (traced : TracedBuilder F) :
    Prop where
  aligned : traced.builder.Aligned
  origin : traced.origin.length = traced.builder.tokens.length
  threshold : traced.builder.forkThreshold = forkThreshold
  leading : ∀ owner ∈ traced.origin.take traced.builder.leadingPromptLen, owner = none

theorem TracedBuilder.WellTraced.length_held {forkThreshold : Nat}
    {traced : TracedBuilder F} (wellTraced : traced.WellTraced forkThreshold) :
    traced.held.length = traced.builder.tokens.length := by
  simp [held, wellTraced.aligned.lossMask]

theorem Latest.classifyTokenDrift {forkThreshold : Nat} {traced : TracedBuilder F}
    {last : Nat × TurnRecord F} {turn : TurnRecord F} (latest : Latest traced last)
    (wellTraced : traced.WellTraced forkThreshold) (plain : turn.Plain) :
    traced.builder.classifyTokenDrift turn =
      if (last.2.promptIds ++ last.2.outputIds).length ≤
          commonPrefixLength (last.2.promptIds ++ last.2.outputIds) turn.promptIds then
        .clean
      else if Realigns forkThreshold last.2 turn then .realign
      else .fork := by
  rw [SampleBuilder.classifyTokenDrift_eq wellTraced.aligned plain, latest.tokens,
    latest.start, wellTraced.threshold]
  dsimp only
  split
  · rfl
  · rename_i drifted
    simp only [Realigns, Nat.lt_of_not_le drifted, true_and]

theorem TracedBuilder.wellTraced_opened (forkThreshold : Nat) :
    (TracedBuilder.opened forkThreshold : TracedBuilder F).WellTraced forkThreshold :=
  ⟨SampleBuilder.aligned_initial forkThreshold, rfl, rfl, by simp [TracedBuilder.opened]⟩

section Traced

variable [LogProbValue F]

namespace TracedBuilder

theorem absorb_origin_take {traced : TracedBuilder F} (node : Nat × TurnRecord F)
    {keep : Nat} (trained : Bool) (inside : keep ≤ traced.origin.length) :
    (traced.absorb node keep trained).origin.take keep = traced.origin.take keep := by
  dsimp only [absorb]
  rw [List.append_assoc]
  exact List.take_left' (List.length_take_of_le inside)

theorem response_absorb {forkThreshold : Nat} {traced : TracedBuilder F}
    (wellTraced : traced.WellTraced forkThreshold) (node : Nat × TurnRecord F)
    (keep : Nat) (trained : Bool) (id : Nat) :
    (traced.absorb node keep trained).response id =
      ownedBy (traced.origin.take keep) (traced.held.take keep) id ++
        if node.1 = id then node.2.flagged trained else [] := by
  have heldLength := wellTraced.length_held
  have sameLength : (traced.origin.take keep).length = (traced.held.take keep).length := by
    rw [List.length_take, List.length_take, wellTraced.origin, heldLength]
  have heldEq : (traced.absorb node keep trained).held =
      traced.held.take keep ++
        (node.2.promptIds.drop keep).zip
          (List.replicate (node.2.promptIds.length - keep) 0) ++
        node.2.flagged trained := by
    rw [held, absorb, SampleBuilder.absorb,
      List.zip_append (by simp [wellTraced.aligned.lossMask]),
      List.zip_append (by simp [wellTraced.aligned.lossMask]), ← TurnRecord.flagged_eq_zip,
      held, List.zip, List.take_zipWith]
  have outputLength : node.2.outputIds.length = (node.2.flagged trained).length := by
    simp [TurnRecord.flagged]
  rw [response, heldEq]
  dsimp only [absorb]
  rw [ownedBy_append (by simp [sameLength]), ownedBy_append sameLength, ownedBy_prompt,
    List.append_nil, outputLength, ownedBy_replicate]

theorem latest_absorb {forkThreshold : Nat} {traced : TracedBuilder F}
    {node : Nat × TurnRecord F} {keep : Nat} (trained : Bool)
    (wellTraced : traced.WellTraced forkThreshold)
    (agrees : keep ≤ commonPrefixLength traced.builder.tokens node.2.promptIds)
    (fresh : some node.1 ∉ traced.origin)
    (leading : traced.builder.lastResponseStartIdx = none ∨
      traced.builder.leadingPromptLen ≤ keep) :
    Latest (traced.absorb node keep trained) node := by
  have keepTokens := agrees.trans (commonPrefixLength_le_left _ _)
  have keepPrompt := agrees.trans (commonPrefixLength_le_right _ _)
  constructor
  · exact SampleBuilder.absorb_tokens trained agrees
  · exact SampleBuilder.absorb_lastResponseStartIdx trained agrees
  · dsimp only [absorb, SampleBuilder.absorb]
    rcases leading with first | before
    · simp [first]
    · split
      · exact Nat.le_refl _
      · exact before.trans keepPrompt
  · refine ⟨_, rfl, ?_, ?_⟩
    · rw [List.length_append, List.length_replicate,
        List.length_take_of_le (wellTraced.origin ▸ keepTokens)]
      omega
    · simp only [List.mem_append, List.mem_replicate, reduceCtorEq, and_false, or_false]
      exact fun member => fresh (List.mem_of_mem_take member)

theorem WellTraced.absorb {forkThreshold : Nat} {traced : TracedBuilder F}
    {node : Nat × TurnRecord F} {keep : Nat} (trained : Bool)
    (wellTraced : traced.WellTraced forkThreshold) (plain : node.2.Plain)
    (agrees : keep ≤ commonPrefixLength traced.builder.tokens node.2.promptIds)
    (leading : (traced.builder.lastResponseStartIdx = none ∧ traced.origin = []) ∨
      (traced.builder.lastResponseStartIdx ≠ none ∧
        traced.builder.leadingPromptLen ≤ keep)) :
    (traced.absorb node keep trained).WellTraced forkThreshold where
  aligned := wellTraced.aligned.absorb plain keep trained
  origin := by
    simp [TracedBuilder.absorb, SampleBuilder.absorb, wellTraced.origin]
  threshold := wellTraced.threshold
  leading := by
    have keepTokens := agrees.trans (commonPrefixLength_le_left _ _)
    rcases leading with ⟨first, empty⟩ | ⟨later, before⟩
    · intro owner member
      simp only [TracedBuilder.absorb, SampleBuilder.absorb, first, empty,
        Option.isNone_none, if_true, List.take_nil, List.nil_append] at member
      have inPrompt : keep = 0 := by
        have noTokens := wellTraced.origin
        rw [empty, List.length_nil] at noTokens
        omega
      rw [inPrompt, Nat.sub_zero, List.take_left' (by simp)] at member
      exact (List.mem_replicate.mp member).2
    · intro owner member
      apply wellTraced.leading owner
      have sameLeading : (traced.absorb node keep trained).builder.leadingPromptLen =
          traced.builder.leadingPromptLen := by
        simp [TracedBuilder.absorb, SampleBuilder.absorb, later]
      have kept := congrArg (List.take traced.builder.leadingPromptLen)
        (absorb_origin_take node trained
          (wellTraced.origin ▸ keepTokens))
      rw [List.take_take, List.take_take, Nat.min_eq_left before] at kept
      rw [sameLeading, kept] at member
      exact member

end TracedBuilder

/-! ## One path -/

def responses (builders : List (TracedBuilder F)) (id : Nat) :
    List (List (TokenId × Nat)) :=
  (builders.map fun traced => traced.response id).filter fun response =>
    !response.isEmpty

omit [LogProbValue F] in
theorem responses_cons (traced : TracedBuilder F) (closed : List (TracedBuilder F))
    (id : Nat) :
    responses (traced :: closed) id =
      [traced.response id].filter (fun response => !response.isEmpty) ++
        responses closed id := by
  simp only [responses, List.map_cons, List.filter_cons, List.filter_nil]
  split <;> rfl

omit [LogProbValue F] in
theorem responses_eq_nil {builders : List (TracedBuilder F)} {id : Nat}
    (absent : ∀ traced ∈ builders, some id ∉ traced.origin) :
    responses builders id = [] := by
  rw [responses, List.filter_eq_nil_iff]
  intro response member
  rcases List.mem_map.mp member with ⟨traced, inBuilders, rfl⟩
  simp [TracedBuilder.response, ownedBy_eq_nil (absent traced inBuilders)]

structure PathTrace (forkThreshold : Nat) (claimed : List Nat)
    (nodes : List (Nat × TurnRecord F)) (state : List (TracedBuilder F) × List Nat) :
    Prop where
  wellTraced : ∀ traced ∈ state.1, traced.WellTraced forkThreshold
  owners : ∀ traced ∈ state.1, ∀ id, some id ∈ traced.origin → id ∈ nodes.map Prod.fst
  flags : ∀ id, id ∈ state.2 ↔ id ∈ claimed ∨ id ∈ nodes.map Prod.fst
  latest : match nodes.getLast? with
    | none => state.1 = []
    | some last => ∃ current closed, state.1 = current :: closed ∧
        Latest current last ∧ ∀ traced ∈ closed, some last.1 ∉ traced.origin
  kept : ∀ node ∈ nodes, node.2.outputIds ≠ [] →
    responses state.1 node.1 =
      if overwritten forkThreshold nodes node.1 then []
      else [node.2.flagged (!claimed.contains node.1)]

omit [LogProbValue F] in
theorem pathTrace_nil (forkThreshold : Nat) (claimed : List Nat) :
    PathTrace forkThreshold claimed ([] : List (Nat × TurnRecord F)) ([], claimed) :=
  ⟨by simp, by simp, by simp, by simp, by simp⟩

section Step

variable {forkThreshold : Nat} {claimed : List Nat}
  {earlier : List (Nat × TurnRecord F)} {node : Nat × TurnRecord F}
  {state : List (TracedBuilder F) × List Nat}

omit [LogProbValue F] in
theorem PathTrace.trained_eq (trace : PathTrace forkThreshold claimed earlier state)
    (fresh : node.1 ∉ earlier.map Prod.fst) :
    (!state.2.contains node.1) = !claimed.contains node.1 := by
  have same := trace.flags node.1
  simp only [fresh, or_false] at same
  rw [Bool.eq_iff_iff]
  simp [same]

/-- The step sets the flag of exactly its own node. -/
theorem tracedStep_flags (id : Nat) :
    id ∈ (tracedStep forkThreshold state node).2 ↔ id ∈ state.2 ∨ id = node.1 := by
  have flagged : (tracedStep forkThreshold state node).2 =
      if !state.2.contains node.1 then node.1 :: state.2 else state.2 := by
    rcases state with ⟨builders, flags⟩
    cases builders with
    | nil => rfl
    | cons current closed =>
        simp only [tracedStep]
        cases current.builder.classifyTokenDrift node.2 <;> rfl
  rw [flagged]
  by_cases before : node.1 ∈ state.2
  · simp only [List.contains_eq_mem, before, decide_true, Bool.not_true, Bool.false_eq_true,
      if_false]
    exact ⟨.inl, fun either => either.elim (fun h => h) (fun equal => equal ▸ before)⟩
  · simp [before, or_comm]

/-- A step either opens a builder, extends the current one, or realigns it over
the response of the latest turn. -/
theorem tracedStep_cases (trace : PathTrace forkThreshold claimed earlier state)
    (plain : node.2.Plain) :
    let trained := !state.2.contains node.1
    ((tracedStep forkThreshold state node).1 =
        (TracedBuilder.opened forkThreshold).absorb node 0 trained :: state.1 ∧
      ∀ last, earlier.getLast? = some last → ¬ Realigns forkThreshold last.2 node.2) ∨
    ∃ last current closed, earlier.getLast? = some last ∧ state.1 = current :: closed ∧
      Latest current last ∧ (∀ traced ∈ closed, some last.1 ∉ traced.origin) ∧
      (((tracedStep forkThreshold state node).1 =
          current.absorb node current.builder.tokens.length trained :: closed ∧
        current.builder.tokens.length ≤
          commonPrefixLength current.builder.tokens node.2.promptIds) ∨
        ((tracedStep forkThreshold state node).1 =
          current.absorb node last.2.promptIds.length trained :: closed ∧
        Realigns forkThreshold last.2 node.2)) := by
  rcases state with ⟨builders, flags⟩
  have latestBuilder := trace.latest
  cases lastNode : earlier.getLast? with
  | none =>
      rw [lastNode] at latestBuilder
      have empty : builders = [] := latestBuilder
      subst empty
      exact .inl ⟨rfl, by simp⟩
  | some last =>
      rw [lastNode] at latestBuilder
      rcases latestBuilder with ⟨current, closed, isCons, latest, onlyLatest⟩
      have isBuilders : builders = current :: closed := isCons
      subst isBuilders
      have wellTraced := trace.wellTraced current (by simp)
      have kind := latest.classifyTokenDrift wellTraced plain
      simp only [tracedStep]
      split at kind
      · rename_i clean
        refine .inr ⟨last, current, closed, rfl, rfl, latest, onlyLatest, .inl ?_⟩
        simp only [kind, SampleBuilder.keptLength]
        exact ⟨trivial, latest.tokens ▸ clean⟩
      · split at kind
        · rename_i realigns
          refine .inr ⟨last, current, closed, rfl, rfl, latest, onlyLatest, .inr ?_⟩
          simp only [kind, SampleBuilder.keptLength, latest.start, Option.getD_some]
          exact ⟨trivial, realigns⟩
        · rename_i forks
          refine .inl ⟨by simp only [kind], ?_⟩
          intro other isLast
          rw [Option.some.injEq] at isLast
          exact isLast ▸ forks

/-- How a step changes the responses of the other nodes. -/
theorem responses_step (trace : PathTrace forkThreshold claimed earlier state)
    (plain : node.2.Plain) {id : Nat} (other : node.1 ≠ id) :
    responses (tracedStep forkThreshold state node).1 id =
      match earlier.getLast? with
      | none => []
      | some last =>
          if last.1 = id ∧ Realigns forkThreshold last.2 node.2 then []
          else responses state.1 id := by
  have extended (traced : TracedBuilder F) (wellTraced : traced.WellTraced forkThreshold)
      (keep : Nat) (trained : Bool) :
      (traced.absorb node keep trained).response id =
        ownedBy (traced.origin.take keep) (traced.held.take keep) id := by
    rw [TracedBuilder.response_absorb wellTraced, if_neg other, List.append_nil]
  rcases tracedStep_cases trace plain with
    ⟨opens, notRealigned⟩ |
      ⟨last, current, closed, lastNode, isBuilders, latest, onlyLatest, extends_⟩
  · have openedResponse : ((TracedBuilder.opened forkThreshold).absorb node 0
        (!state.2.contains node.1)).response id = [] := by
      rw [extended _ (TracedBuilder.wellTraced_opened forkThreshold)]
      rfl
    rw [opens, responses_cons, openedResponse]
    cases lastNode : earlier.getLast? with
    | none =>
        have latestBuilder := trace.latest
        rw [lastNode] at latestBuilder
        have empty : state.1 = [] := latestBuilder
        simp [empty, responses]
    | some last =>
        have keeps := notRealigned last lastNode
        simp [keeps]
  · have wellTraced := trace.wellTraced current (by simp [isBuilders])
    rw [lastNode, isBuilders]
    dsimp only
    rcases extends_ with ⟨stepEq, clean⟩ | ⟨stepEq, realigns⟩
    · -- the whole builder is kept, so no response of it is overwritten
      have keeps : ¬ Realigns forkThreshold last.2 node.2 := by
        intro realigns
        rw [latest.tokens] at clean
        exact absurd realigns.2.1 (Nat.not_lt.mpr clean)
      have wholeResponse : (current.absorb node current.builder.tokens.length
          (!state.2.contains node.1)).response id = current.response id := by
        rw [extended current wellTraced, ← wellTraced.origin, List.take_length,
          wellTraced.origin, ← wellTraced.length_held, List.take_length]
        rfl
      rw [stepEq, responses_cons, responses_cons, wholeResponse,
        if_neg fun both => keeps both.2]
    · -- exactly the response of the latest turn is dropped
      rcases latest.origin with ⟨front, originEq, frontLength, notInFront⟩
      have keptOrigin : current.origin.take last.2.promptIds.length = front := by
        rw [originEq]
        exact List.take_left' frontLength
      rw [stepEq, responses_cons, extended current wellTraced, keptOrigin]
      by_cases isLast : last.1 = id
      · rw [if_pos ⟨isLast, realigns⟩, ownedBy_eq_nil (isLast ▸ notInFront),
          responses_eq_nil (isLast ▸ onlyLatest)]
        rfl
      · have heldLength : current.held.length =
            front.length + last.2.outputIds.length := by
          rw [wellTraced.length_held, latest.tokens, List.length_append, frontLength]
        have notInResponse : some id ∉
            List.replicate last.2.outputIds.length (some last.1) := by
          simp [List.mem_replicate, Ne.symm isLast]
        have wholeResponse : current.response id =
            ownedBy front (current.held.take last.2.promptIds.length) id := by
          rw [TracedBuilder.response, originEq,
            ← List.take_append_drop last.2.promptIds.length current.held,
            ownedBy_append (by rw [List.length_take]; omega),
            ownedBy_eq_nil notInResponse, List.append_nil, List.take_append_drop]
        rw [if_neg fun both => isLast both.1, responses_cons, wholeResponse]

/-- The builder that takes the turn: it is well traced, ends with the turn, and
its other tokens were generated by earlier nodes. -/
theorem tracedStep_head (trace : PathTrace forkThreshold claimed earlier state)
    (plain : node.2.Plain) (fresh : node.1 ∉ earlier.map Prod.fst) :
    ∃ next rest, (tracedStep forkThreshold state node).1 = next :: rest ∧
      next.WellTraced forkThreshold ∧ Latest next node ∧
      next.response node.1 =
        node.2.flagged (!claimed.contains node.1) ∧
      (∀ id, some id ∈ next.origin → id = node.1 ∨ id ∈ earlier.map Prod.fst) ∧
      ∀ traced ∈ rest, traced ∈ state.1 := by
  have freshIn : ∀ traced ∈ state.1, some node.1 ∉ traced.origin :=
    fun traced member owned => fresh (trace.owners traced member node.1 owned)
  have trainedEq := trace.trained_eq fresh
  have takes (traced : TracedBuilder F) (wellTraced : traced.WellTraced forkThreshold)
      (unowned : some node.1 ∉ traced.origin) (keep : Nat)
      (agrees : keep ≤ commonPrefixLength traced.builder.tokens node.2.promptIds)
      (leading : (traced.builder.lastResponseStartIdx = none ∧ traced.origin = []) ∨
        (traced.builder.lastResponseStartIdx ≠ none ∧
          traced.builder.leadingPromptLen ≤ keep)) :
      (traced.absorb node keep (!state.2.contains node.1)).WellTraced forkThreshold ∧
      Latest (traced.absorb node keep (!state.2.contains node.1)) node ∧
      (traced.absorb node keep (!state.2.contains node.1)).response node.1 =
        node.2.flagged (!claimed.contains node.1) ∧
      ∀ id, some id ∈ (traced.absorb node keep (!state.2.contains node.1)).origin →
        id = node.1 ∨ some id ∈ traced.origin := by
    refine ⟨wellTraced.absorb _ plain agrees leading,
      TracedBuilder.latest_absorb _ wellTraced agrees unowned
        (leading.imp (fun first => first.1) (fun later => later.2)), ?_, ?_⟩
    · rw [TracedBuilder.response_absorb wellTraced, if_pos rfl, trainedEq,
        ownedBy_eq_nil fun member => unowned (List.mem_of_mem_take member),
        List.nil_append]
    · intro id member
      simp only [TracedBuilder.absorb, List.mem_append, List.mem_replicate, reduceCtorEq,
        and_false, or_false, Option.some.injEq] at member
      exact member.elim (fun kept => .inr (List.mem_of_mem_take kept))
        (fun generated => .inl generated.2)
  rcases tracedStep_cases trace plain with
    ⟨opens, _⟩ |
      ⟨last, current, closed, lastNode, isBuilders, latest, onlyLatest, extends_⟩
  · have taken := takes (.opened forkThreshold)
      (TracedBuilder.wellTraced_opened forkThreshold) (by simp [TracedBuilder.opened]) 0
      (Nat.zero_le _) (.inl ⟨rfl, rfl⟩)
    refine ⟨_, _, opens, taken.1, taken.2.1, taken.2.2.1, ?_, fun _ member => member⟩
    intro id member
    exact (taken.2.2.2 id member).imp_right (by simp [TracedBuilder.opened])
  · have currentMem : current ∈ state.1 := by simp [isBuilders]
    have wellTraced := trace.wellTraced current currentMem
    have started : current.builder.lastResponseStartIdx ≠ none := by simp [latest.start]
    have responseInside : last.2.promptIds.length ≤ current.builder.tokens.length := by
      rw [latest.tokens, List.length_append]
      exact Nat.le_add_right _ _
    have restIn : ∀ traced ∈ closed, traced ∈ state.1 := by
      intro traced member
      rw [isBuilders]
      exact List.mem_cons_of_mem _ member
    rcases extends_ with ⟨stepEq, clean⟩ | ⟨stepEq, realigns⟩
    · have taken := takes current wellTraced (freshIn current currentMem) _ clean
        (.inr ⟨started, latest.leading.trans responseInside⟩)
      refine ⟨_, _, stepEq, taken.1, taken.2.1, taken.2.2.1, ?_, restIn⟩
      intro id member
      exact (taken.2.2.2 id member).imp_right (trace.owners current currentMem id)
    · have taken := takes current wellTraced (freshIn current currentMem) _
        (latest.tokens ▸ realigns.1) (.inr ⟨started, latest.leading⟩)
      refine ⟨_, _, stepEq, taken.1, taken.2.1, taken.2.2.1, ?_, restIn⟩
      intro id member
      exact (taken.2.2.2 id member).imp_right (trace.owners current currentMem id)

theorem PathTrace.step (trace : PathTrace forkThreshold claimed earlier state)
    (plain : node.2.Plain) (fresh : node.1 ∉ earlier.map Prod.fst)
    (nodup : (earlier.map Prod.fst).Nodup) :
    PathTrace forkThreshold claimed (earlier ++ [node])
      (tracedStep forkThreshold state node) := by
  rcases tracedStep_head trace plain fresh with
    ⟨next, rest, stepEq, wellTraced, latest, ownResponse, nextOwners, restIn⟩
  constructor
  · intro traced member
    rw [stepEq] at member
    rcases List.mem_cons.mp member with rfl | inRest
    · exact wellTraced
    · exact trace.wellTraced traced (restIn traced inRest)
  · intro traced member id owned
    rw [stepEq] at member
    simp only [List.map_append, List.map_cons, List.map_nil, List.mem_append,
      List.mem_singleton]
    rcases List.mem_cons.mp member with rfl | inRest
    · exact (nextOwners id owned).symm
    · exact .inl (trace.owners traced (restIn traced inRest) id owned)
  · intro id
    rw [tracedStep_flags, trace.flags]
    simp [or_assoc]
  · rw [List.getLast?_concat]
    exact ⟨next, rest, stepEq, latest, fun traced member owned =>
      fresh (trace.owners traced (restIn traced member) node.1 owned)⟩
  · intro target member generated
    rcases List.eq_nil_or_concat earlier with empty | ⟨before, last, isConcat⟩
    · subst empty
      have isNode : target = node := by simpa using member
      subst isNode
      have restEmpty : rest = [] := by
        have noBuilders : state.1 = [] := trace.latest
        rw [List.eq_nil_iff_forall_not_mem]
        intro traced inRest
        simpa [noBuilders] using restIn traced inRest
      rw [stepEq, restEmpty, responses_cons, ownResponse]
      simp [responses, overwritten, TurnRecord.flagged_ne_nil generated]
    · rw [List.concat_eq_append] at isConcat
      have lastNode : earlier.getLast? = some last := by simp [isConcat]
      have distinct : ∀ other ∈ before, other.1 ≠ last.1 := by
        rw [isConcat, List.map_append, List.nodup_append] at nodup
        intro other inBefore equal
        exact nodup.2.2 other.1 (List.mem_map_of_mem inBefore) last.1 (by simp) equal
      have overwrittenEq : overwritten forkThreshold (earlier ++ [node]) target.1 =
          if last.1 = target.1 then decide (Realigns forkThreshold last.2 node.2)
          else overwritten forkThreshold earlier target.1 := by
        rw [isConcat, List.append_assoc]
        exact overwritten_concat forkThreshold last node target.1 before distinct
      rcases List.mem_append.mp member with inEarlier | isNode
      · have other : node.1 ≠ target.1 := fun equal =>
          fresh (equal ▸ List.mem_map_of_mem inEarlier)
        rw [responses_step trace plain other, lastNode, overwrittenEq,
          trace.kept target inEarlier generated]
        dsimp only
        by_cases isLast : last.1 = target.1
        · have keptBefore : overwritten forkThreshold earlier target.1 = false := by
            rw [isConcat, ← isLast]
            exact overwritten_last forkThreshold last before distinct
          simp [isLast, keptBefore]
        · simp [isLast]
      · rw [List.mem_singleton] at isNode
        subst isNode
        have notLast : last.1 ≠ target.1 := fun equal =>
          fresh (equal ▸ List.mem_map_of_mem (by simp [isConcat]))
        have notBefore : overwritten forkThreshold earlier target.1 = false :=
          overwritten_of_not_mem forkThreshold target.1 earlier
            fun other inEarlier equal => fresh (equal ▸ List.mem_map_of_mem inEarlier)
        have restResponses : responses rest target.1 = [] :=
          responses_eq_nil fun traced inRest owned =>
            fresh (trace.owners traced (restIn traced inRest) target.1 owned)
        rw [stepEq, responses_cons, ownResponse, restResponses, overwrittenEq, if_neg notLast,
          notBefore]
        simp [TurnRecord.flagged_ne_nil generated]

end Step

/-- Linearizing a path holds each response that the path does not overwrite in
exactly one builder. -/
theorem tracedChain_pathTrace (forkThreshold : Nat) (claimed : List Nat)
    (nodes : List (Nat × TurnRecord F)) (plain : ∀ node ∈ nodes, node.2.Plain)
    (nodup : (nodes.map Prod.fst).Nodup) :
    PathTrace forkThreshold claimed nodes (tracedChain forkThreshold claimed nodes) := by
  induction nodes using List.reverseRecOn with
  | nil => exact pathTrace_nil forkThreshold claimed
  | append_singleton earlier node induction =>
      rw [List.map_append, List.nodup_append] at nodup
      have fresh : node.1 ∉ earlier.map Prod.fst := fun member =>
        nodup.2.2 node.1 member node.1 (by simp) rfl
      have before := induction
        (fun other member => plain other (List.mem_append_left _ member)) nodup.1
      rw [tracedChain, List.foldl_concat]
      exact before.step (plain node (by simp)) fresh nodup.1

end Traced

end Vime.Agent
