import Vime.Agent.TokenExactness

/-! # Where held response tokens come from

Linearization with a trace: every held token remembers the node whose output it
was copied from. Forgetting the trace gives back the builders of the manager, so
the trace says for each emitted token which recorded response it belongs to.
-/

namespace Vime.Agent

open Vime.Foundation Vime.Utils

variable {Message F Sid Prompt β : Type}

/-- A builder whose tokens carry the identity of the node that generated them;
`none` marks tokens that came from a prompt. -/
structure TracedBuilder (F : Type) where
  builder : SampleBuilder F
  origin : List (Option Nat)

def ownedBy (origin : List (Option Nat)) (values : List β) (id : Nat) : List β :=
  ((origin.zip values).filter fun entry => entry.1 == some id).map Prod.snd

section Traced

variable [LogProbValue F]

namespace TracedBuilder

def absorb (traced : TracedBuilder F) (node : Nat × TurnRecord F) (keep : Nat)
    (trained : Bool) : TracedBuilder F where
  builder := traced.builder.absorb node.2 keep trained
  origin := traced.origin.take keep ++
    List.replicate (node.2.promptIds.length - keep) none ++
    List.replicate node.2.outputIds.length (some node.1)

def opened (forkThreshold : Nat) : TracedBuilder F where
  builder := { forkThreshold := forkThreshold }
  origin := []

def held (traced : TracedBuilder F) : List (TokenId × Nat) :=
  traced.builder.tokens.zip traced.builder.lossMask

def response (traced : TracedBuilder F) (id : Nat) : List (TokenId × Nat) :=
  ownedBy traced.origin traced.held id

end TracedBuilder

def tracedStep (forkThreshold : Nat) (state : List (TracedBuilder F) × List Nat)
    (node : Nat × TurnRecord F) : List (TracedBuilder F) × List Nat :=
  let trained := !state.2.contains node.1
  let claimed := if trained then node.1 :: state.2 else state.2
  let opened : TracedBuilder F := .opened forkThreshold
  match state.1 with
  | [] => ([opened.absorb node 0 trained], claimed)
  | current :: closed =>
      match current.builder.classifyTokenDrift node.2 with
      | .fork => (opened.absorb node 0 trained :: current :: closed, claimed)
      | kind =>
          (current.absorb node (current.builder.keptLength kind) trained :: closed,
            claimed)

def tracedChain (forkThreshold : Nat) (claimed : List Nat)
    (nodes : List (Nat × TurnRecord F)) : List (TracedBuilder F) × List Nat :=
  nodes.foldl (tracedStep forkThreshold) ([], claimed)

def tracedChains [ChatMessage Message] (forkThreshold : Nat)
    (extraMetadata : List (String × String)) :
    List Nat → List (List (MessageNode Message F)) →
      List (TracedBuilder F × SampleMetadata)
  | _, [] => []
  | claimed, chain :: rest =>
      let traced := tracedChain forkThreshold claimed (assistantNodes chain)
      traced.1.reverse.map (fun builder => (builder, chainMetadata chain extraMetadata)) ++
        tracedChains forkThreshold extraMetadata traced.2 rest

structure TracedSample (Prompt F : Type) where
  sample : Sample Prompt F
  origin : List (Option Nat)

/-- The tokens that a sample holds from the response of a node, with their loss
mask; the loss mask starts at the response region. -/
def TracedSample.response (traced : TracedSample Prompt F) (id : Nat) :
    List (TokenId × Nat) :=
  let responseStart := traced.sample.tokens.length - traced.sample.lossMask.length
  ownedBy traced.origin
    ((traced.sample.tokens.drop responseStart).zip traced.sample.lossMask) id

def tracedSamples [ChatMessage Message] (forkThreshold : Nat)
    (baseSample : BaseSample Prompt) (reward : F)
    (extraMetadata : List (String × String)) (root : MessageTree Message F) :
    List (TracedSample Prompt F) :=
  ((tracedChains forkThreshold extraMetadata [] (leafChains root)).filter
    fun entry => entry.1.builder.hasTrainedResponse).map fun entry =>
      { sample := { entry.1.builder.emitted baseSample entry.2 with reward := reward }
        origin := entry.1.origin.drop entry.1.builder.leadingPromptLen }

/-! ## The trace is only a trace -/

theorem tracedStep_builders (forkThreshold : Nat)
    (state : List (TracedBuilder F) × List Nat) (node : Nat × TurnRecord F) :
    ((tracedStep forkThreshold state node).1.map TracedBuilder.builder,
        (tracedStep forkThreshold state node).2) =
      absorbStep forkThreshold (state.1.map TracedBuilder.builder, state.2) node := by
  rcases state with ⟨builders, claimed⟩
  cases builders with
  | nil => rfl
  | cons current closed =>
      simp only [tracedStep, absorbStep, List.map_cons]
      cases current.builder.classifyTokenDrift node.2 <;> rfl

theorem tracedChain_builders (forkThreshold : Nat) (claimed : List Nat)
    (nodes : List (Nat × TurnRecord F)) :
    ((tracedChain forkThreshold claimed nodes).1.map TracedBuilder.builder,
        (tracedChain forkThreshold claimed nodes).2) =
      absorbChain forkThreshold claimed nodes := by
  induction nodes using List.reverseRecOn with
  | nil => rfl
  | append_singleton earlier node induction =>
      rw [tracedChain, absorbChain, List.foldl_concat, List.foldl_concat,
        tracedStep_builders]
      exact congrArg (absorbStep forkThreshold · node) induction

theorem tracedChains_builders [ChatMessage Message] (forkThreshold : Nat)
    (extraMetadata : List (String × String)) :
    ∀ (claimed : List Nat) (chains : List (List (MessageNode Message F))),
      (tracedChains forkThreshold extraMetadata claimed chains).map
          (fun entry => (entry.1.builder, entry.2)) =
        absorbChains forkThreshold extraMetadata claimed chains
  | _, [] => rfl
  | claimed, chain :: rest => by
      have here := tracedChain_builders forkThreshold claimed (assistantNodes chain)
      have later := tracedChains_builders forkThreshold extraMetadata
        (tracedChain forkThreshold claimed (assistantNodes chain)).2 rest
      rw [tracedChains, absorbChains, ← here, ← later]
      simp [List.map_reverse, Function.comp_def]

theorem tracedSamples_samples [ChatMessage Message] (forkThreshold : Nat)
    (baseSample : BaseSample Prompt) (reward : F)
    (extraMetadata : List (String × String)) (root : MessageTree Message F) :
    (tracedSamples forkThreshold baseSample reward extraMetadata root).map
        TracedSample.sample =
      trajectorySamples forkThreshold baseSample reward extraMetadata root := by
  rw [tracedSamples, trajectorySamples,
    ← tracedChains_builders forkThreshold extraMetadata [] (leafChains root),
    List.filter_map, List.map_map, List.map_map]
  rfl

end Traced

/-! ## Owned positions -/

theorem ownedBy_append {origin origin' : List (Option Nat)} {values values' : List β}
    (sameLength : origin.length = values.length) (id : Nat) :
    ownedBy (origin ++ origin') (values ++ values') id =
      ownedBy origin values id ++ ownedBy origin' values' id := by
  rw [ownedBy, List.zip_append sameLength, List.filter_append, List.map_append]
  rfl

theorem ownedBy_eq_nil {origin : List (Option Nat)} {values : List β} {id : Nat}
    (absent : some id ∉ origin) : ownedBy origin values id = [] := by
  rw [ownedBy, List.map_eq_nil_iff, List.filter_eq_nil_iff]
  intro entry member isOwner
  have inOrigin := (List.of_mem_zip member).1
  exact absent (by simpa using (eq_of_beq isOwner) ▸ inOrigin)

@[simp] theorem ownedBy_prompt (count : Nat) (values : List β) (id : Nat) :
    ownedBy (List.replicate count none) values id = [] :=
  ownedBy_eq_nil (by simp [List.mem_replicate])

theorem ownedBy_replicate (owner id : Nat) :
    ∀ (values : List β),
      ownedBy (List.replicate values.length (some owner)) values id =
        if owner = id then values else []
  | [] => by simp [ownedBy]
  | value :: rest => by
      have later := ownedBy_replicate owner id rest
      rw [ownedBy] at later ⊢
      rw [List.length_cons, List.replicate_succ, List.zip_cons_cons, List.filter_cons]
      by_cases same : owner = id
      · simp only [same, beq_self_eq_true, if_true] at later ⊢
        rw [List.map_cons, later]
      · simp only [same, if_false, Option.some_beq_some, beq_iff_eq] at later ⊢
        exact later

end Vime.Agent
