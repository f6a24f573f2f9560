import Vime.Agent.NodeIdentity
import Vime.Agent.PathTrace

/-! # How often a response is trained

A generated node shared by several leaf paths is claimed by the first path that
reaches it. Whether that path keeps the response is decided by its next turn
only, so a response can be claimed and then overwritten.
-/

namespace Vime.Agent

open Vime.Foundation Vime.Utils

variable {Message F Sid Prompt : Type}

def leafTurns (root : MessageTree Message F) : List (List (Nat × TurnRecord F)) :=
  (leafChains root).map assistantNodes

def passesThrough (path : List (Nat × TurnRecord F)) (id : Nat) : Bool :=
  path.any fun node => node.1 == id

def keptOnFirstPath (forkThreshold : Nat) (paths : List (List (Nat × TurnRecord F)))
    (id : Nat) : Bool :=
  (paths.find? fun path => passesThrough path id).any fun path =>
    !overwritten forkThreshold path id

def keptOnSomePath (forkThreshold : Nat) (paths : List (List (Nat × TurnRecord F)))
    (id : Nat) : Bool :=
  paths.any fun path =>
    passesThrough path id && !overwritten forkThreshold path id

/-- A path whose nodes are distinct, hold no replay data and agree with `node`
on its identity. -/
structure PathThrough (node : Nat × TurnRecord F) (path : List (Nat × TurnRecord F)) :
    Prop where
  plain : ∀ other ∈ path, other.2.Plain
  nodup : (path.map Prod.fst).Nodup
  same : ∀ other ∈ path, other.1 = node.1 → other = node

theorem PathThrough.passes_iff {node : Nat × TurnRecord F}
    {path : List (Nat × TurnRecord F)} (through : PathThrough node path) :
    passesThrough path node.1 = true ↔ node ∈ path := by
  simp only [passesThrough, List.any_eq_true, beq_iff_eq]
  constructor
  · rintro ⟨other, member, sameId⟩
    exact through.same other member sameId ▸ member
  · intro member
    exact ⟨node, member, rfl⟩

section Traced

variable [LogProbValue F]

/-! ## One path -/

omit [LogProbValue F] in
theorem countP_responses {counts : List (TokenId × Nat) → Bool} (nothing : counts [] = false)
    (builders : List (TracedBuilder F)) (id : Nat) :
    builders.countP (fun traced => counts (traced.response id)) =
      (responses builders id).countP counts := by
  induction builders with
  | nil => rfl
  | cons traced closed induction =>
      rw [List.countP_cons, induction, responses_cons, List.countP_append, Nat.add_comm]
      congr 1
      cases owned : traced.response id with
      | nil => simp [nothing]
      | cons entry rest => simp [List.countP_cons]

theorem countP_tracedChain (forkThreshold : Nat) (claimed : List Nat)
    {node : Nat × TurnRecord F} {path : List (Nat × TurnRecord F)}
    (through : PathThrough node path) (generated : node.2.outputIds ≠ [])
    {counts : List (TokenId × Nat) → Bool} (nothing : counts [] = false)
    (untrained : counts (node.2.flagged false) = false)
    (whole : counts (node.2.flagged true) = true) :
    (tracedChain forkThreshold claimed path).1.countP
        (fun traced => counts (traced.response node.1)) =
      if passesThrough path node.1 = true ∧
          overwritten forkThreshold path node.1 = false ∧ node.1 ∉ claimed
      then 1 else 0 := by
  have trace := tracedChain_pathTrace forkThreshold claimed path through.plain through.nodup
  rw [countP_responses nothing]
  by_cases member : node ∈ path
  · rw [trace.kept node member generated]
    cases kept : overwritten forkThreshold path node.1 with
    | true => simp
    | false =>
        by_cases before : node.1 ∈ claimed
        · simp [before, untrained]
        · simp [before, whole, through.passes_iff, member]
  · have absent : responses (tracedChain forkThreshold claimed path).1 node.1 = [] := by
      apply responses_eq_nil
      intro traced inBuilders owned
      rcases List.mem_map.mp (trace.owners traced inBuilders node.1 owned) with
        ⟨other, inPath, sameId⟩
      exact member (through.same other inPath sameId ▸ inPath)
    rw [absent, if_neg fun both => member (through.passes_iff.mp both.1)]
    rfl

/-! ## All paths -/

variable [ChatMessage Message] {forkThreshold : Nat} {extraMetadata : List (String × String)}

/-- Over all leaf paths a response is counted once exactly if the first path
through its node keeps it. -/
theorem countP_tracedChains {node : Nat × TurnRecord F} (generated : node.2.outputIds ≠ [])
    {counts : List (TokenId × Nat) → Bool} (nothing : counts [] = false)
    (untrained : counts (node.2.flagged false) = false)
    (whole : counts (node.2.flagged true) = true) :
    ∀ (claimed : List Nat) {chains : List (List (MessageNode Message F))},
      (∀ chain ∈ chains, PathThrough node (assistantNodes chain)) →
      (tracedChains forkThreshold extraMetadata claimed chains).countP
          (fun entry => counts (entry.1.response node.1)) =
        if node.1 ∉ claimed ∧
            keptOnFirstPath forkThreshold (chains.map assistantNodes) node.1 = true
        then 1 else 0
  | claimed, [], _ => by simp [tracedChains, keptOnFirstPath]
  | claimed, chain :: rest, through => by
      simp only [List.forall_mem_cons] at through
      have here := countP_tracedChain forkThreshold claimed through.1 generated nothing
        untrained whole
      have later := countP_tracedChains generated nothing untrained whole
        (tracedChain forkThreshold claimed (assistantNodes chain)).2 through.2
      have flags := (tracedChain_pathTrace forkThreshold claimed (assistantNodes chain)
        through.1.plain through.1.nodup).flags node.1
      have inPath : node.1 ∈ (assistantNodes chain).map Prod.fst ↔
          passesThrough (assistantNodes chain) node.1 = true := by
        simp [passesThrough]
      rw [tracedChains, List.countP_append, later, List.countP_map, List.countP_reverse]
      have sameCount : (tracedChain forkThreshold claimed (assistantNodes chain)).1.countP
          ((fun entry => counts (entry.1.response node.1)) ∘
            fun builder => (builder, chainMetadata chain extraMetadata)) = _ := here
      rw [inPath] at flags
      simp only [sameCount, flags, List.map_cons, keptOnFirstPath, List.find?_cons]
      cases passesThrough (assistantNodes chain) node.1 with
      | true => simp [and_comm]
      | false => simp

theorem mem_tracedChains {traced : TracedBuilder F} :
    ∀ {claimed : List Nat} {chains : List (List (MessageNode Message F))},
      (∃ metadata, (traced, metadata) ∈
        tracedChains forkThreshold extraMetadata claimed chains) →
      ∃ chain ∈ chains, ∃ before,
        traced ∈ (tracedChain forkThreshold before (assistantNodes chain)).1
  | _, [], member => by simp [tracedChains] at member
  | claimed, chain :: rest, ⟨metadata, member⟩ => by
      rw [tracedChains, List.mem_append] at member
      rcases member with here | later
      · simp only [List.mem_map, List.mem_reverse, Prod.mk.injEq] at here
        rcases here with ⟨builder, inChain, rfl, _⟩
        exact ⟨chain, by simp, claimed, inChain⟩
      · rcases mem_tracedChains ⟨metadata, later⟩ with ⟨other, inRest, before, inChain⟩
        exact ⟨other, List.mem_cons_of_mem _ inRest, before, inChain⟩

/-- Some builder holds the response exactly if some path keeps it. -/
theorem held_iff_keptOnSomePath {node : Nat × TurnRecord F}
    (generated : node.2.outputIds ≠ []) :
    ∀ (claimed : List Nat) {chains : List (List (MessageNode Message F))},
      (∀ chain ∈ chains, PathThrough node (assistantNodes chain)) →
      ((∃ entry ∈ tracedChains forkThreshold extraMetadata claimed chains,
          entry.1.response node.1 ≠ []) ↔
        keptOnSomePath forkThreshold (chains.map assistantNodes) node.1 = true)
  | claimed, [], _ => by simp [tracedChains, keptOnSomePath]
  | claimed, chain :: rest, through => by
      simp only [List.forall_mem_cons] at through
      have later := held_iff_keptOnSomePath generated
        (tracedChain forkThreshold claimed (assistantNodes chain)).2 through.2
      have trace := tracedChain_pathTrace forkThreshold claimed (assistantNodes chain)
        through.1.plain through.1.nodup
      have here : (∃ traced ∈ (tracedChain forkThreshold claimed (assistantNodes chain)).1,
          traced.response node.1 ≠ []) ↔
          node ∈ assistantNodes chain ∧
            overwritten forkThreshold (assistantNodes chain) node.1 = false := by
        have asResponses : (∃ traced ∈
            (tracedChain forkThreshold claimed (assistantNodes chain)).1,
            traced.response node.1 ≠ []) ↔
            responses (tracedChain forkThreshold claimed (assistantNodes chain)).1 node.1 ≠
              [] := by
          rw [responses, Ne, List.filter_eq_nil_iff]
          simp
        rw [asResponses]
        by_cases member : node ∈ assistantNodes chain
        · rw [trace.kept node member generated]
          simp [member]
        · have absent : responses
              (tracedChain forkThreshold claimed (assistantNodes chain)).1 node.1 = [] := by
            apply responses_eq_nil
            intro traced inBuilders owned
            rcases List.mem_map.mp (trace.owners traced inBuilders node.1 owned) with
              ⟨other, inPath, sameId⟩
            exact member (through.1.same other inPath sameId ▸ inPath)
          simp [absent, member]
      rw [keptOnSomePath, List.map_cons, List.any_cons, Bool.or_eq_true, Bool.and_eq_true,
        through.1.passes_iff, Bool.not_eq_true', ← here]
      rw [keptOnSomePath] at later
      rw [← later, tracedChains]
      simp only [List.mem_append, or_and_right, exists_or]
      simp

/-! ## Emitted samples -/

omit [LogProbValue F] [ChatMessage Message] in
theorem TracedBuilder.WellTraced.response_eq {traced : TracedBuilder F}
    (wellTraced : traced.WellTraced forkThreshold) (id : Nat) :
    ownedBy (traced.origin.drop traced.builder.leadingPromptLen)
        (traced.held.drop traced.builder.leadingPromptLen) id = traced.response id := by
  have sameLength : (traced.origin.take traced.builder.leadingPromptLen).length =
      (traced.held.take traced.builder.leadingPromptLen).length := by
    rw [List.length_take, List.length_take, wellTraced.origin, wellTraced.length_held]
  have notLeading : some id ∉ traced.origin.take traced.builder.leadingPromptLen := by
    intro member
    have isPrompt := wellTraced.leading (some id) member
    simp at isPrompt
  have split : ownedBy (traced.origin.take traced.builder.leadingPromptLen ++
        traced.origin.drop traced.builder.leadingPromptLen)
      (traced.held.take traced.builder.leadingPromptLen ++
        traced.held.drop traced.builder.leadingPromptLen) id = _ :=
    ownedBy_append sameLength id
  rw [List.take_append_drop, List.take_append_drop, ownedBy_eq_nil notLeading,
    List.nil_append] at split
  exact split.symm

def TracedBuilder.emitted (traced : TracedBuilder F) (baseSample : BaseSample Prompt)
    (reward : F) (metadata : SampleMetadata) : TracedSample Prompt F where
  sample := { traced.builder.emitted baseSample metadata with reward := reward }
  origin := traced.origin.drop traced.builder.leadingPromptLen

omit [ChatMessage Message] in
theorem TracedBuilder.WellTraced.emitted_response {traced : TracedBuilder F}
    (wellTraced : traced.WellTraced forkThreshold) (baseSample : BaseSample Prompt)
    (reward : F) (metadata : SampleMetadata) (id : Nat) :
    (traced.emitted baseSample reward metadata).response id = traced.response id := by
  have sameLength := wellTraced.aligned.lossMask
  rw [← wellTraced.response_eq id]
  dsimp only [TracedSample.response, TracedBuilder.emitted, SampleBuilder.emitted,
    TracedBuilder.held]
  have heldRegion : (traced.builder.tokens.drop (traced.builder.tokens.length -
        (traced.builder.lossMask.drop traced.builder.leadingPromptLen).length)).zip
        (traced.builder.lossMask.drop traced.builder.leadingPromptLen) =
      (traced.builder.tokens.zip traced.builder.lossMask).drop
        traced.builder.leadingPromptLen := by
    simp only [List.zip, List.drop_zipWith]
    rcases Nat.le_total traced.builder.leadingPromptLen traced.builder.lossMask.length with
      inside | outside
    · rw [List.length_drop, ← sameLength, Nat.sub_sub_self inside]
    · rw [List.drop_of_length_le outside, List.zipWith_nil_right, List.zipWith_nil_right]
  rw [heldRegion]

omit [ChatMessage Message] [LogProbValue F] in
theorem TracedBuilder.WellTraced.hasTrainedResponse {traced : TracedBuilder F}
    (wellTraced : traced.WellTraced forkThreshold) {id : Nat}
    (trained : (traced.response id).any (fun entry => entry.2 == 1) = true) :
    traced.builder.hasTrainedResponse = true := by
  rw [← wellTraced.response_eq id, List.any_eq_true] at trained
  rcases trained with ⟨entry, owned, isTrained⟩
  rw [ownedBy, List.mem_map] at owned
  rcases owned with ⟨pair, member, rfl⟩
  have inHeld := (List.of_mem_zip (List.mem_of_mem_filter member)).2
  rw [TracedBuilder.held, List.zip, List.drop_zipWith] at inHeld
  have inMask := (List.of_mem_zip inHeld).2
  rw [SampleBuilder.hasTrainedResponse, List.any_eq_true]
  exact ⟨pair.2.2, inMask, by simp [eq_of_beq isTrained]⟩

theorem countP_tracedSamples {node : Nat × TurnRecord F} {root : MessageTree Message F}
    (through : ∀ chain ∈ leafChains root, PathThrough node (assistantNodes chain))
    {counts : List (TokenId × Nat) → Bool}
    (marked : ∀ response, counts response = true →
      response.any (fun entry => entry.2 == 1) = true)
    (baseSample : BaseSample Prompt) (reward : F) :
    (tracedSamples forkThreshold baseSample reward extraMetadata root).countP
        (fun traced => counts (traced.response node.1)) =
      (tracedChains forkThreshold extraMetadata [] (leafChains root)).countP
        (fun entry => counts (entry.1.response node.1)) := by
  rw [tracedSamples, List.countP_map, List.countP_filter]
  apply List.countP_congr
  intro entry member
  rcases mem_tracedChains ⟨entry.2, member⟩ with ⟨chain, inChains, before, inChain⟩
  have onPath := through chain inChains
  have wellTraced := (tracedChain_pathTrace forkThreshold before (assistantNodes chain)
    onPath.plain onPath.nodup).wellTraced entry.1 inChain
  have sameResponse := wellTraced.emitted_response baseSample reward entry.2 node.1
  dsimp only [TracedBuilder.emitted] at sameResponse
  simp only [Function.comp_apply, sameResponse, Bool.and_eq_true, and_iff_left_iff_imp]
  exact fun counted => wellTraced.hasTrainedResponse (marked _ counted)

end Traced

/-! ## Recorded sessions -/

def trainings (samples : List (TracedSample Prompt F)) (node : Nat × TurnRecord F) : Nat :=
  samples.countP fun traced => traced.response node.1 == node.2.flagged true

def partialTrainings (samples : List (TracedSample Prompt F)) (id : Nat) : Nat :=
  samples.countP fun traced => (traced.response id).any fun entry => entry.2 == 1

theorem Session.Identified.pathThrough {session : Session Message F}
    (identified : session.Identified) (plain : session.Holds TurnRecord.Plain)
    {node : Nat × TurnRecord F} (generated : node ∈ generatedNodes session.root) :
    ∀ chain ∈ leafChains session.root, PathThrough node (assistantNodes chain) := by
  intro chain member
  have nodup := generatedNodes_nodup identified
  have onTree := assistantNodes_sublist_generatedNodes member
  exact ⟨fun other inChain => sampled_of_mem_leafChains plain member inChain,
    (onTree.map Prod.fst).nodup nodup,
    fun other inChain sameId =>
      List.inj_on_of_nodup_map nodup (onTree.subset inChain) generated sameId⟩

section Sessions

variable [LogProbValue F] [ChatMessage Message] {forkThreshold : Nat}
  {extraMetadata : List (String × String)}

theorem countP_samples {session : Session Message F} (identified : session.Identified)
    (plain : session.Holds TurnRecord.Plain) {node : Nat × TurnRecord F}
    (generated : node ∈ generatedNodes session.root) (nonempty : node.2.outputIds ≠ [])
    (counts : List (TokenId × Nat) → Bool)
    (marked : ∀ response, counts response = true →
      response.any (fun entry => entry.2 == 1) = true)
    (whole : counts (node.2.flagged true) = true)
    (baseSample : BaseSample Prompt) (reward : F) :
    (tracedSamples forkThreshold baseSample reward extraMetadata session.root).countP
        (fun traced => counts (traced.response node.1)) =
      (keptOnFirstPath forkThreshold (leafTurns session.root) node.1).toNat := by
  have through := identified.pathThrough plain generated
  have nothing : counts [] = false := by
    rw [← Bool.not_eq_true]
    intro counted
    have anyMarked := marked [] counted
    simp at anyMarked
  have untrained : counts (node.2.flagged false) = false := by
    rw [← Bool.not_eq_true]
    intro counted
    have anyMarked := marked _ counted
    simp [TurnRecord.flagged] at anyMarked
  rw [countP_tracedSamples through marked baseSample reward,
    countP_tracedChains nonempty nothing untrained whole [] through, ← leafTurns]
  cases keptOnFirstPath forkThreshold (leafTurns session.root) node.1 <;> simp

omit [LogProbValue F] [ChatMessage Message] in
theorem any_flagged {turn : TurnRecord F} (nonempty : turn.outputIds ≠ []) :
    (turn.flagged true).any (fun entry => entry.2 == 1) = true := by
  rcases List.exists_mem_of_ne_nil _ nonempty with ⟨token, member⟩
  rw [List.any_eq_true]
  exact ⟨(token, 1), List.mem_map.mpr ⟨token, member, rfl⟩, rfl⟩

theorem trainings_eq {session : Session Message F} (identified : session.Identified)
    (plain : session.Holds TurnRecord.Plain) {node : Nat × TurnRecord F}
    (generated : node ∈ generatedNodes session.root) (nonempty : node.2.outputIds ≠ [])
    (baseSample : BaseSample Prompt) (reward : F) :
    trainings (tracedSamples forkThreshold baseSample reward extraMetadata session.root)
        node = (keptOnFirstPath forkThreshold (leafTurns session.root) node.1).toNat := by
  apply countP_samples identified plain generated nonempty
    (fun response => response == node.2.flagged true)
  · intro response isWhole
    rw [eq_of_beq isWhole]
    exact any_flagged nonempty
  · exact beq_self_eq_true _

theorem partialTrainings_eq {session : Session Message F} (identified : session.Identified)
    (plain : session.Holds TurnRecord.Plain) {node : Nat × TurnRecord F}
    (generated : node ∈ generatedNodes session.root) (nonempty : node.2.outputIds ≠ [])
    (baseSample : BaseSample Prompt) (reward : F) :
    partialTrainings
        (tracedSamples forkThreshold baseSample reward extraMetadata session.root) node.1 =
      (keptOnFirstPath forkThreshold (leafTurns session.root) node.1).toNat :=
  countP_samples identified plain generated nonempty
    (fun response => response.any fun entry => entry.2 == 1)
    (fun _ counted => counted) (any_flagged nonempty) baseSample reward

/-- Every response that some builder of some leaf path holds is trained in one
sample, and no response is trained in two. -/
def EachTrainedOnce (forkThreshold : Nat) (extraMetadata : List (String × String))
    (root : MessageTree Message F) (samples : List (TracedSample Prompt F)) : Prop :=
  ∀ node ∈ generatedNodes root, node.2.outputIds ≠ [] →
    (∃ entry ∈ tracedChains forkThreshold extraMetadata [] (leafChains root),
      entry.1.response node.1 ≠ []) →
    trainings samples node = 1 ∧ partialTrainings samples node.1 = 1

def FirstPathsKeep (forkThreshold : Nat) (root : MessageTree Message F) : Prop :=
  ∀ node ∈ generatedNodes root, node.2.outputIds ≠ [] →
    keptOnSomePath forkThreshold (leafTurns root) node.1 = true →
    keptOnFirstPath forkThreshold (leafTurns root) node.1 = true

/-- After any recorded turns, linearization trains each held response once exactly
if no first path overwrites a response that a later path keeps. -/
theorem getTrajectory_trainedOnce_iff [DecidableEq Sid]
    (manager recorded : TrajectoryManager Sid Message F) (sid : Sid)
    (calls : List (RecordCall Message F)) (baseSample : BaseSample Prompt) (reward : F)
    (extraMetadata : List (String × String)) (fresh : manager.trees sid = none)
    (replayFree : ∀ call ∈ calls, call.turn.replay = none)
    (accepted : manager.recordTurns sid calls = .ok recorded) :
    let root := ((recorded.trees sid).getD Session.initial).root
    let samples := tracedSamples manager.forkThreshold baseSample reward extraMetadata root
    (∃ final, recorded.getTrajectory sid baseSample reward extraMetadata 0 =
        .ok (samples.map TracedSample.sample, final)) ∧
      (EachTrainedOnce manager.forkThreshold extraMetadata root samples ↔
        FirstPathsKeep manager.forkThreshold root) := by
  have invariant := TrajectoryManager.recordTurns_invariant
    (fun session : Session Message F =>
      session.Identified ∧ session.Holds TurnRecord.Plain)
    ⟨Session.identified_initial, Session.holds_initial _⟩
    (fun forkThreshold call turnIndex plain before =>
      ⟨before.1.record forkThreshold call.turn _ _ turnIndex,
        before.2.record forkThreshold plain _ _ turnIndex⟩)
    replayFree accepted
    (by
      rw [fresh]
      exact ⟨Session.identified_initial, Session.holds_initial _⟩)
  rcases invariant with ⟨sameThreshold, identified, plain⟩
  intro root samples
  constructor
  · cases tree : recorded.trees sid with
    | none =>
        refine ⟨recorded, ?_⟩
        have noSamples : samples = [] := by
          simp only [samples, root, tree, Option.getD_none]
          rfl
        simp [TrajectoryManager.getTrajectory, tree, noSamples]
    | some session =>
        have sameRoot : root = session.root := by simp [root, tree]
        rw [tree, Option.getD_some] at plain
        have emits := getTrajectory_eq tree
          (fun chain member node inChain => sampled_of_mem_leafChains plain member inChain)
          baseSample reward extraMetadata
        refine ⟨recorded.dropSession sid, ?_⟩
        rw [emits, tracedSamples_samples, sameThreshold, sameRoot]
  · apply forall_congr'
    intro node
    apply forall_congr'
    intro generated
    apply forall_congr'
    intro nonempty
    rw [held_iff_keptOnSomePath nonempty [] (identified.pathThrough plain generated),
      ← leafTurns, trainings_eq identified plain generated nonempty baseSample reward,
      partialTrainings_eq identified plain generated nonempty baseSample reward, and_self]
    apply imp_congr_right
    intro _
    cases keptOnFirstPath manager.forkThreshold (leafTurns root) node.1 <;> simp

end Sessions

/-- A session of one shared turn and two branches. The first branch re-tokenizes
the shared response within the turn and continues with `firstPrompt`. -/
def branchingCalls (firstPrompt : List TokenId) : List (RecordCall TextMessage Int) :=
  let shared : List TextMessage := [⟨"user", "compute"⟩, ⟨"assistant", "a"⟩]
  [{ turn := { promptIds := [1], outputIds := [2, 3], finishReason := "stop" }
     promptMessages := [⟨"user", "compute"⟩]
     responseMessage := some ⟨"assistant", "a"⟩ },
    { turn := { promptIds := firstPrompt, outputIds := [7], finishReason := "stop" }
      promptMessages := shared ++ [⟨"user", "x"⟩]
      responseMessage := none },
    { turn := { promptIds := [1, 2, 3, 8], outputIds := [6], finishReason := "stop" }
      promptMessages := shared ++ [⟨"user", "y"⟩]
      responseMessage := none }]

/-- The first branch overwrites the response of the shared turn, the second one
keeps it, and no sample trains it. -/
theorem branchingCalls_untrained :
    ∃ recorded final,
      (TrajectoryManager.new none : TrajectoryManager Unit TextMessage Int).recordTurns ()
        (branchingCalls [1, 2, 9]) = .ok recorded ∧
      let root := ((recorded.trees ()).getD Session.initial).root
      let samples := tracedSamples 1024 ({ prompt := "" } : BaseSample String) 1 [] root
      recorded.getTrajectory () ({ prompt := "" } : BaseSample String) 1 [] 0 =
          .ok (samples.map TracedSample.sample, final) ∧
        ¬ EachTrainedOnce 1024 [] root samples := by
  refine ⟨_, _, rfl, rfl, ?_⟩
  unfold EachTrainedOnce
  decide

/-- Without that drift the shared response is trained on the first branch. -/
theorem branchingCalls_trained :
    ∃ recorded,
      (TrajectoryManager.new none : TrajectoryManager Unit TextMessage Int).recordTurns ()
        (branchingCalls [1, 2, 3, 9]) = .ok recorded ∧
      let root := ((recorded.trees ()).getD Session.initial).root
      let samples := tracedSamples 1024 ({ prompt := "" } : BaseSample String) 1 [] root
      EachTrainedOnce 1024 [] root samples := by
  refine ⟨_, rfl, ?_⟩
  have decides := getTrajectory_trainedOnce_iff
    (TrajectoryManager.new none : TrajectoryManager Unit TextMessage Int) _ ()
    (branchingCalls [1, 2, 3, 9]) ({ prompt := "" } : BaseSample String) 1 [] rfl
    (by simp [branchingCalls]) rfl
  apply decides.2.mpr
  unfold FirstPathsKeep
  decide

end Vime.Agent
