import Vime.Agent.Absorption

/-! # Token-exactness of agent trajectories

Every token an emitted sample trains on was sampled by the model on exactly the
token prefix it is trained on.
-/

namespace Vime.Agent

open Vime.Foundation Vime.Utils

variable {Message F Sid Prompt : Type}

/-! ## One builder -/

/-- The held token at `position` is output token `offset` of `turn`, it follows
the context the model sampled it on, and it carries the recorded log probability. -/
structure SampledAt [LogProbValue F] (tokens : List TokenId) (logprobs : List F)
    (turn : TurnRecord F) (position offset : Nat) : Prop where
  located : position = turn.promptIds.length + offset
  inside : offset < turn.outputIds.length
  context : tokens.take position = turn.promptIds ++ turn.outputIds.take offset
  token : tokens[position]? = turn.outputIds[offset]?
  logprob : logprobs[position]? =
    if turn.outputLogProbs = [] then some LogProbValue.zero
    else turn.outputLogProbs[offset]?

theorem SampledAt.of_take_eq [LogProbValue F] {tokens tokens' : List TokenId}
    {logprobs logprobs' : List F} {turn : TurnRecord F} {position offset keep : Nat}
    (sampled : SampledAt tokens logprobs turn position offset)
    (before : position < keep) (sameTokens : tokens'.take keep = tokens.take keep)
    (sameLogprobs : logprobs'.take keep = logprobs.take keep) :
    SampledAt tokens' logprobs' turn position offset := by
  have tokenAt := congrArg (·[position]?) sameTokens
  have logprobAt := congrArg (·[position]?) sameLogprobs
  have contextAt := congrArg (List.take position) sameTokens
  simp only [List.getElem?_take, if_pos before] at tokenAt logprobAt
  rw [List.take_take, List.take_take, Nat.min_eq_left (Nat.le_of_lt before)] at contextAt
  exact ⟨sampled.located, sampled.inside, contextAt.trans sampled.context,
    tokenAt.trans sampled.token, logprobAt.trans sampled.logprob⟩

theorem TurnRecord.sampledLogProbs_getElem? [LogProbValue F] (turn : TurnRecord F)
    {offset : Nat} (inside : offset < turn.outputIds.length) :
    turn.sampledLogProbs[offset]? =
      if turn.outputLogProbs = [] then some LogProbValue.zero
      else turn.outputLogProbs[offset]? := by
  rw [sampledLogProbs]
  by_cases absent : turn.outputLogProbs = []
  · simp [absent, inside]
  · simp [absent]

namespace SampleBuilder

def Exact [LogProbValue F] (sampled : TurnRecord F → Prop)
    (builder : SampleBuilder F) : Prop :=
  ∀ position, builder.lossMask[position]? = some 1 →
    ∃ turn, sampled turn ∧ ∃ offset,
      SampledAt builder.tokens builder.logprobs turn position offset

theorem exact_initial [LogProbValue F] (sampled : TurnRecord F → Prop)
    (forkThreshold : Nat) :
    ({ forkThreshold := forkThreshold } : SampleBuilder F).Exact sampled := by
  intro position trained
  simp at trained

/-- Absorbing a turn keeps the builder exact: what is kept was exact before, the
rest of the prompt is masked, and the output follows exactly its own prompt. -/
theorem Exact.absorb [LogProbValue F] {sampled : TurnRecord F → Prop}
    {builder : SampleBuilder F} {turn : TurnRecord F} {keep : Nat} {trained : Bool}
    (exact_ : builder.Exact sampled) (aligned : builder.Aligned)
    (agrees : keep ≤ commonPrefixLength builder.tokens turn.promptIds)
    (isSampled : sampled turn) : (builder.absorb turn keep trained).Exact sampled := by
  have keepTokens := agrees.trans (commonPrefixLength_le_left _ _)
  have keepPrompt := agrees.trans (commonPrefixLength_le_right _ _)
  have keepMask : (builder.lossMask.take keep).length = keep := by
    rw [List.length_take, aligned.lossMask]
    omega
  have keepLogprobs : (builder.logprobs.take keep).length = keep := by
    rw [List.length_take, aligned.logprobs]
    omega
  have newTokens := absorb_tokens trained agrees
  intro position trainedAt
  rw [SampleBuilder.absorb] at trainedAt
  dsimp only at trainedAt
  by_cases kept : position < keep
  · -- inside the kept stretch nothing changed
    rw [List.append_assoc, List.getElem?_append_left (by omega),
      List.getElem?_take, if_pos kept] at trainedAt
    rcases exact_ position trainedAt with ⟨source, isSource, offset, at_⟩
    exact ⟨source, isSource, offset, at_.of_take_eq kept
      (absorb_tokens_take turn trained keepTokens)
      (absorb_logprobs_take turn trained (aligned.logprobs ▸ keepTokens))⟩
  · by_cases inPrompt : position < turn.promptIds.length
    · -- re-read prompt tokens are masked
      rw [List.getElem?_append_left
          (by rw [List.length_append, keepMask, List.length_replicate]; omega),
        List.getElem?_append_right (by omega), List.getElem?_replicate] at trainedAt
      split at trainedAt <;> simp at trainedAt
    · have inside : position - turn.promptIds.length < turn.outputIds.length := by
        have bound := (List.getElem?_eq_some_iff.mp trainedAt).1
        rw [List.length_append, List.length_append, keepMask, List.length_replicate,
          List.length_replicate] at bound
        omega
      refine ⟨turn, isSampled, position - turn.promptIds.length, ?_⟩
      constructor
      · omega
      · exact inside
      · rw [newTokens, List.take_append, List.take_of_length_le (by omega)]
      · rw [newTokens, List.getElem?_append_right (by omega)]
      · have before : (builder.logprobs.take keep ++ List.replicate
            (turn.promptIds.length - keep) (LogProbValue.zero : F)).length =
            turn.promptIds.length := by
          rw [List.length_append, keepLogprobs, List.length_replicate]
          omega
        rw [← turn.sampledLogProbs_getElem? inside, SampleBuilder.absorb]
        dsimp only
        rw [List.getElem?_append_right (by omega), before]

end SampleBuilder

/-! ## Chains -/

section Chains

variable [LogProbValue F]

def BuildersExact (sampled : TurnRecord F → Prop) (builders : List (SampleBuilder F)) :
    Prop :=
  ∀ builder ∈ builders, builder.Aligned ∧ builder.Exact sampled

theorem BuildersExact.absorbStep {sampled : TurnRecord F → Prop} {forkThreshold : Nat}
    {state : List (SampleBuilder F) × List Nat} {node : Nat × TurnRecord F}
    (exact_ : BuildersExact sampled state.1) (plain : node.2.Plain)
    (isSampled : sampled node.2) :
    BuildersExact sampled (Agent.absorbStep forkThreshold state node).1 := by
  rcases state with ⟨builders, claimed⟩
  have aligned := (splitStep_eq_absorbStep forkThreshold (builders, claimed)
    (fun builder member => (exact_ builder member).1) plain).2
  have opens (trained : Bool) : (SampleBuilder.absorb
      { forkThreshold := forkThreshold } node.2 0 trained).Exact sampled :=
    (SampleBuilder.exact_initial sampled forkThreshold).absorb
      (SampleBuilder.aligned_initial forkThreshold) (Nat.zero_le _) isSampled
  refine fun builder member => ⟨aligned builder member, ?_⟩
  cases builders with
  | nil =>
      simp only [Agent.absorbStep, List.mem_singleton] at member
      exact member ▸ opens _
  | cons current closed =>
      have currentExact := exact_ current (by simp)
      have older : ∀ builder ∈ closed, builder.Exact sampled := fun builder inClosed =>
        (exact_ builder (List.mem_cons_of_mem _ inClosed)).2
      have extends_ (notFork : current.classifyTokenDrift node.2 ≠ .fork)
          (trained : Bool) : (current.absorb node.2
            (current.keptLength (current.classifyTokenDrift node.2)) trained).Exact
            sampled :=
        currentExact.2.absorb currentExact.1
          (SampleBuilder.keptLength_agrees currentExact.1 plain notFork) isSampled
      cases kind : current.classifyTokenDrift node.2 with
      | fork =>
          simp only [Agent.absorbStep, kind, List.mem_cons] at member
          rcases member with rfl | rfl | inClosed
          · exact opens _
          · exact currentExact.2
          · exact older builder inClosed
      | clean =>
          rw [kind] at extends_
          simp only [Agent.absorbStep, kind, List.mem_cons] at member
          rcases member with rfl | inClosed
          · exact extends_ (by simp) _
          · exact older builder inClosed
      | realign =>
          rw [kind] at extends_
          simp only [Agent.absorbStep, kind, List.mem_cons] at member
          rcases member with rfl | inClosed
          · exact extends_ (by simp) _
          · exact older builder inClosed

theorem absorbChain_exact {sampled : TurnRecord F → Prop} (forkThreshold : Nat)
    (claimed : List Nat) {nodes : List (Nat × TurnRecord F)}
    (plain : ∀ node ∈ nodes, node.2.Plain) (isSampled : ∀ node ∈ nodes, sampled node.2) :
    BuildersExact sampled (absorbChain forkThreshold claimed nodes).1 :=
  foldl_invariant (absorbStep forkThreshold) (fun state => BuildersExact sampled state.1)
    nodes
    (fun node member _ exact_ =>
      exact_.absorbStep (plain node member) (isSampled node member))
    ([], claimed) (by simp [BuildersExact])

theorem absorbChains_exact [ChatMessage Message] {sampled : TurnRecord F → Prop}
    (forkThreshold : Nat) (extraMetadata : List (String × String)) :
    ∀ (claimed : List Nat) {chains : List (List (MessageNode Message F))},
      (∀ chain ∈ chains, ∀ node ∈ assistantNodes chain,
        node.2.Plain ∧ sampled node.2) →
      ∀ entry ∈ absorbChains forkThreshold extraMetadata claimed chains,
        entry.1.Aligned ∧ entry.1.Exact sampled
  | _, [], _ => by simp [absorbChains]
  | claimed, chain :: rest, recorded => by
      simp only [List.forall_mem_cons] at recorded
      have here := absorbChain_exact forkThreshold claimed
        (fun node member => (recorded.1 node member).1)
        (fun node member => (recorded.1 node member).2)
      intro entry member
      simp only [absorbChains, List.mem_append, List.mem_map, List.mem_reverse] at member
      rcases member with ⟨builder, inChain, rfl⟩ | later
      · exact here builder inChain
      · exact absorbChains_exact forkThreshold extraMetadata _ recorded.2 entry later

end Chains

/-! ## The routing tree -/

namespace Session

def Holds (sampled : TurnRecord F → Prop) (session : Session Message F) : Prop :=
  ∀ node ∈ session.root.labels, ∀ turn, node.turn = some turn → sampled turn

theorem holds_initial (sampled : TurnRecord F → Prop) :
    (initial : Session Message F).Holds sampled := by
  intro node member turn stored
  simp only [initial, RoseTree.labels_node, RoseTree.forestLabels_nil,
    List.mem_singleton] at member
  subst member
  simp at stored

theorem Holds.addChild {sampled : TurnRecord F → Prop} {session : Session Message F}
    (holds : session.Holds sampled) (address : List Nat)
    (node : Nat → MessageNode Message F)
    (isSampled : ∀ turn, (node session.nextId).turn = some turn → sampled turn) :
    (session.addChild address node).1.Holds sampled := by
  intro label member turn stored
  have grown := (RoseTree.labels_addChildAt_subperm session.root address
    (.node (node session.nextId) [])).subset member
  simp only [RoseTree.labels_node, RoseTree.forestLabels_nil, List.singleton_append,
    List.mem_cons] at grown
  rcases grown with rfl | old
  · exact isSampled turn stored
  · exact holds label old turn stored

section Routing

variable [ChatMessage Message]

theorem tryMergeAssistantRewrite_cases (forkThreshold : Nat)
    (session : Session Message F) (address : List Nat) (promptMessages : List Message)
    (depth : Nat) :
    tryMergeAssistantRewrite forkThreshold session address promptMessages depth =
        (session, address, depth) ∨
      ∃ message index,
        tryMergeAssistantRewrite forkThreshold session address promptMessages depth =
          ({ session with
              root := session.root.relabelAt (address ++ [index]) fun node =>
                { node with turn := none, turnIndex := none, message := some message } },
            address ++ [index], depth + 1) := by
  unfold tryMergeAssistantRewrite
  split
  · exact .inl rfl
  · split
    · exact .inl rfl
    · split
      · exact .inl rfl
      · dsimp only
        split
        · split
          · exact .inl rfl
          · split
            · exact .inl rfl
            · exact .inr ⟨_, _, rfl⟩
        · exact .inl rfl

theorem Holds.tryMergeAssistantRewrite {sampled : TurnRecord F → Prop}
    {session : Session Message F} (holds : session.Holds sampled) (forkThreshold : Nat)
    (address : List Nat) (promptMessages : List Message) (depth : Nat) :
    (tryMergeAssistantRewrite forkThreshold session address promptMessages
      depth).1.Holds sampled := by
  rcases tryMergeAssistantRewrite_cases forkThreshold session address promptMessages
    depth with unchanged | ⟨message, index, merged⟩
  · rw [unchanged]
    exact holds
  · rw [merged]
    have demoted (label : MessageNode Message F) (turn : TurnRecord F)
        (stored : ({ label with
          turn := none, turnIndex := none, message := some message } :
            MessageNode Message F).turn = some turn) : sampled turn := by
      simp at stored
    exact RoseTree.forall_labels_relabelAt _
      (fun label : MessageNode Message F => ∀ turn, label.turn = some turn → sampled turn)
      (fun label _ => demoted label) _ _ holds

theorem Holds.mountPromptMessages {sampled : TurnRecord F → Prop} :
    ∀ {messages : List Message} {session : Session Message F} {address : List Nat},
      session.Holds sampled →
        (Session.mountPromptMessages session address messages).1.Holds sampled
  | [], _, _, holds => holds
  | message :: rest, session, address, holds =>
      (holds.addChild address _ (by simp)).mountPromptMessages

theorem Holds.record {sampled : TurnRecord F → Prop} {session : Session Message F}
    (holds : session.Holds sampled) (forkThreshold : Nat) {turn : TurnRecord F}
    (isSampled : sampled turn) (promptMessages : List Message)
    (responseMessage : Option Message) (turnIndex : Nat) :
    (session.record forkThreshold turn promptMessages responseMessage
      turnIndex).Holds sampled := by
  have merged := holds.tryMergeAssistantRewrite forkThreshold
    (findMountPoint session.root promptMessages) promptMessages
    (findMountPoint session.root promptMessages).length
  refine (merged.mountPromptMessages).addChild _ _ ?_
  intro other stored
  have same : turn = other := by simpa using stored
  exact same ▸ isSampled

end Routing

end Session

theorem sampled_of_mem_leafChains {sampled : TurnRecord F → Prop}
    {session : Session Message F} (holds : session.Holds sampled)
    {chain : List (MessageNode Message F)} (member : chain ∈ leafChains session.root)
    {node : Nat × TurnRecord F} (inChain : node ∈ assistantNodes chain) :
    sampled node.2 := by
  simp only [assistantNodes, List.mem_filterMap] at inChain
  rcases inChain with ⟨label, labelMem, generated⟩
  split at generated
  · simp only [Option.map_eq_some_iff] at generated
    rcases generated with ⟨turn, stored, rfl⟩
    apply holds label _ turn stored
    rw [RoseTree.labels_eq]
    exact List.mem_cons_of_mem _
      ((RoseTree.forestLeafPaths_sublist _ _ member).subset labelMem)
  · simp at generated

/-! ## Recorded sessions -/

def recordedTurns (calls : List (RecordCall Message F)) : List (TurnRecord F) :=
  (calls.filter fun call => !call.promptMessages.isEmpty).map RecordCall.turn

namespace TrajectoryManager

variable [DecidableEq Sid] [ChatMessage Message]

/-- Every turn kept for `sid` is one of the given turns. -/
def Holds (sampled : TurnRecord F → Prop) (manager : TrajectoryManager Sid Message F)
    (sid : Sid) : Prop :=
  ∀ session, manager.trees sid = some session → session.Holds sampled

theorem Holds.recordTurn {sampled : TurnRecord F → Prop}
    {manager : TrajectoryManager Sid Message F} {sid : Sid} {call : RecordCall Message F}
    (holds : manager.Holds sampled sid) (plain : call.turn.Plain)
    (isSampled : call.promptMessages ≠ [] → sampled call.turn) :
    ∃ next, manager.recordTurn sid call = .ok next ∧ next.Holds sampled sid ∧
      next.forkThreshold = manager.forkThreshold := by
  unfold TrajectoryManager.recordTurn
  dsimp only
  split
  · exact ⟨manager, rfl, holds, rfl⟩
  · rename_i nonempty
    have isNonempty : call.promptMessages ≠ [] := by simpa using nonempty
    rw [if_neg (by rcases plain.logProbs with absent | aligned <;> simp_all)]
    refine ⟨_, rfl, ?_, rfl⟩
    intro session stored
    simp only [Function.update_self, Option.some.injEq] at stored
    subst stored
    refine Session.Holds.record ?_ _ (isSampled isNonempty) _ _ _
    cases tree : manager.trees sid with
    | none => exact Session.holds_initial sampled
    | some session => exact holds session tree

theorem Holds.recordTurns {sampled : TurnRecord F → Prop} {sid : Sid} :
    ∀ {calls : List (RecordCall Message F)} {manager : TrajectoryManager Sid Message F},
      manager.Holds sampled sid → (∀ call ∈ calls, call.turn.Plain) →
      (∀ turn ∈ recordedTurns calls, sampled turn) →
      ∃ next, manager.recordTurns sid calls = .ok next ∧ next.Holds sampled sid
  | [], manager, holds, _, _ => ⟨manager, rfl, holds⟩
  | call :: rest, manager, holds, plain, isSampled => by
      simp only [List.forall_mem_cons] at plain
      have sampledHere : call.promptMessages ≠ [] → sampled call.turn := by
        intro nonempty
        apply isSampled
        simp [recordedTurns, nonempty]
      have sampledLater : ∀ turn ∈ recordedTurns rest, sampled turn := by
        intro turn member
        apply isSampled
        simp only [recordedTurns, List.mem_map, List.mem_filter] at member ⊢
        rcases member with ⟨other, ⟨inRest, nonempty⟩, rfl⟩
        exact ⟨other, ⟨List.mem_cons_of_mem _ inRest, nonempty⟩, rfl⟩
      rcases holds.recordTurn plain.1 sampledHere with ⟨middle, first, holdsMiddle, _⟩
      rcases holdsMiddle.recordTurns plain.2 sampledLater with ⟨next, later, holdsNext⟩
      refine ⟨next, ?_, holdsNext⟩
      rw [TrajectoryManager.recordTurns, List.foldlM_cons, first]
      exact later

end TrajectoryManager

/-! ## Emitted samples -/

/-- Every trained position of the response region holds a token that some turn
sampled on exactly the preceding tokens, with its recorded log probability. -/
def TokenExact [LogProbValue F] (turns : List (TurnRecord F))
    (sample : Sample Prompt F) : Prop :=
  ∃ start : Nat, (start : Int) = sample.tokens.length - sample.responseLength ∧
    ∀ position, start ≤ position → sample.lossMask[position - start]? = some 1 →
      ∃ turn ∈ turns, ∃ offset,
        position = turn.promptIds.length + offset ∧
        offset < turn.outputIds.length ∧
        sample.tokens.take position = turn.promptIds ++ turn.outputIds.take offset ∧
        sample.tokens[position]? = turn.outputIds[offset]? ∧
        sample.rolloutLogProbs[position - start]? =
          if turn.outputLogProbs = [] then some LogProbValue.zero
          else turn.outputLogProbs[offset]?

theorem SampleBuilder.Exact.emitted [LogProbValue F] {turns : List (TurnRecord F)}
    {sampled : TurnRecord F → Prop} {builder : SampleBuilder F}
    (exact_ : builder.Exact sampled) (aligned : builder.Aligned)
    (recorded : ∀ turn, sampled turn → turn ∈ turns) (baseSample : BaseSample Prompt)
    (metadata : SampleMetadata) :
    TokenExact turns (builder.emitted baseSample metadata) := by
  refine ⟨builder.leadingPromptLen, ?_, ?_⟩
  · dsimp only [SampleBuilder.emitted]
    rw [aligned.lossMask]
    omega
  · intro position inResponse trained
    dsimp only [SampleBuilder.emitted] at trained ⊢
    rw [List.getElem?_drop, Nat.add_sub_cancel' inResponse] at trained ⊢
    rcases exact_ position trained with ⟨turn, isSampled, offset, at_⟩
    exact ⟨turn, recorded turn isSampled, offset, at_.located, at_.inside, at_.context,
      at_.token, at_.logprob⟩

/-- Recording any turns on a session and linearizing it without a token budget
succeeds and emits token-exact samples. -/
theorem getTrajectory_tokenExact [DecidableEq Sid] [ChatMessage Message] [LogProbValue F]
    (manager : TrajectoryManager Sid Message F) (sid : Sid)
    (calls : List (RecordCall Message F)) (baseSample : BaseSample Prompt) (reward : F)
    (extraMetadata : List (String × String)) (fresh : manager.trees sid = none)
    (plain : ∀ call ∈ calls, call.turn.Plain) :
    ∃ recorded samples final,
      manager.recordTurns sid calls = .ok recorded ∧
      recorded.getTrajectory sid baseSample reward extraMetadata 0 =
        .ok (samples, final) ∧
      ∀ sample ∈ samples, TokenExact (recordedTurns calls) sample := by
  let sampled (turn : TurnRecord F) : Prop := turn.Plain ∧ turn ∈ recordedTurns calls
  have plainRecorded : ∀ turn ∈ recordedTurns calls, sampled turn := by
    intro turn member
    refine ⟨?_, member⟩
    simp only [recordedTurns, List.mem_map, List.mem_filter] at member
    rcases member with ⟨call, ⟨inCalls, _⟩, rfl⟩
    exact plain call inCalls
  have initialHolds : manager.Holds sampled sid := by
    intro session stored
    simp [fresh] at stored
  rcases initialHolds.recordTurns plain plainRecorded with ⟨recorded, recordedEq, holds⟩
  cases tree : recorded.trees sid with
  | none =>
      refine ⟨recorded, [], recorded, recordedEq, ?_, by simp⟩
      simp [TrajectoryManager.getTrajectory, tree]
  | some session =>
      have stored := holds session tree
      have onChains : ∀ chain ∈ leafChains session.root, ∀ node ∈ assistantNodes chain,
          sampled node.2 := fun chain member node inChain =>
        sampled_of_mem_leafChains stored member inChain
      have emits := getTrajectory_eq tree
        (fun chain member node inChain => (onChains chain member node inChain).1)
        baseSample reward extraMetadata
      have plainAndSampled : ∀ chain ∈ leafChains session.root,
          ∀ node ∈ assistantNodes chain, node.2.Plain ∧ sampled node.2 :=
        fun chain member node inChain =>
          have here := onChains chain member node inChain
          ⟨here.1, here⟩
      have exact_ := absorbChains_exact recorded.forkThreshold extraMetadata []
        plainAndSampled
      refine ⟨recorded, _, _, recordedEq, emits, ?_⟩
      intro sample member
      simp only [trajectorySamples, List.mem_map, List.mem_filter] at member
      rcases member with ⟨entry, ⟨inEntries, _⟩, rfl⟩
      have builderExact := exact_ entry inEntries
      exact builderExact.2.emitted builderExact.1 (fun turn isSampled => isSampled.2)
        baseSample entry.2

/-- A response that is re-tokenized in the next prompt and realigned. -/
theorem getTrajectory_tokenExact_realigned :
    let calls : List (RecordCall TextMessage Int) :=
      [{ turn :=
          { promptIds := [1, 2], outputIds := [3, 4], finishReason := "stop",
            outputLogProbs := [-5, -6] }
         promptMessages := [⟨"user", "compute"⟩]
         responseMessage := some ⟨"assistant", "ok"⟩ },
        { turn := { promptIds := [1, 2, 3, 9], outputIds := [7], finishReason := "stop" }
          promptMessages := [⟨"user", "compute"⟩, ⟨"assistant", "ok"⟩, ⟨"user", "more"⟩]
          responseMessage := none }]
    ∃ recorded samples final,
      (TrajectoryManager.new (some 8) : TrajectoryManager Unit TextMessage Int).recordTurns
        () calls = .ok recorded ∧
      recorded.getTrajectory () ({ prompt := "" } : BaseSample String) 1 [] 0 =
        .ok (samples, final) ∧
      ∀ sample ∈ samples, TokenExact (recordedTurns calls) sample := by
  intro calls
  apply getTrajectory_tokenExact _ _ _ _ _ _ rfl
  simp only [calls, List.forall_mem_cons]
  exact ⟨⟨rfl, .inr rfl⟩, ⟨rfl, .inl rfl⟩, by simp⟩

end Vime.Agent
