import Vime.Agent.AppendedTurns
import Vime.Agent.TokenExactness

/-! # Node identities

Every node of a session's tree is a distinct object. Leaf paths share nodes, so
this is what lets a flag on a node be read on one path and set on another.
-/

namespace Vime.Agent

open Vime.Foundation Vime.Utils

variable {Message F Sid Prompt : Type}

namespace Session

structure Identified (session : Session Message F) : Prop where
  nodup : (session.root.labels.map MessageNode.id).Nodup
  bounded : ∀ id ∈ session.root.labels.map MessageNode.id, id < session.nextId

theorem identified_initial : (initial : Session Message F).Identified :=
  ⟨by simp [initial], by simp [initial]⟩

theorem Identified.addChild {session : Session Message F} (identified : session.Identified)
    (address : List Nat) (node : Nat → MessageNode Message F)
    (isNext : (node session.nextId).id = session.nextId) :
    (session.addChild address node).1.Identified := by
  have fresh : session.nextId ∉ session.root.labels.map MessageNode.id := fun member =>
    Nat.lt_irrefl _ (identified.bounded _ member)
  have grownIds : ((node session.nextId :: session.root.labels).map MessageNode.id) =
      session.nextId :: session.root.labels.map MessageNode.id := by
    rw [List.map_cons, isNext]
  have grown := RoseTree.labels_addChildAt_subperm session.root address
    (.node (node session.nextId) [])
  rw [RoseTree.labels_node, RoseTree.forestLabels_nil] at grown
  rcases grown with ⟨same, perm, sublist⟩
  have idsSublist := sublist.map MessageNode.id
  have idsPerm := perm.map MessageNode.id
  rw [List.singleton_append, grownIds] at idsSublist
  constructor
  · exact idsPerm.nodup_iff.mp
      (idsSublist.nodup (List.nodup_cons.mpr ⟨fresh, identified.nodup⟩))
  · intro id member
    have inGrown := idsSublist.subset (idsPerm.mem_iff.mpr member)
    rcases List.mem_cons.mp inGrown with rfl | old
    · exact Nat.lt_succ_self _
    · exact Nat.lt_succ_of_lt (identified.bounded id old)

section Routing

variable [ChatMessage Message]

theorem Identified.tryMergeAssistantRewrite {session : Session Message F}
    (identified : session.Identified) (forkThreshold : Nat) (address : List Nat)
    (promptMessages : List Message) (depth : Nat) :
    (tryMergeAssistantRewrite forkThreshold session address promptMessages
      depth).1.Identified := by
  rcases tryMergeAssistantRewrite_cases forkThreshold session address promptMessages
    depth with unchanged | ⟨message, index, merged⟩
  · rw [unchanged]
    exact identified
  · rw [merged]
    have sameIds := RoseTree.labels_map_relabelAt
      (fun node : MessageNode Message F =>
        { node with turn := none, turnIndex := none, message := some message })
      MessageNode.id (fun _ => rfl) (address ++ [index]) session.root
    constructor
    · rw [sameIds]
      exact identified.nodup
    · rw [sameIds]
      exact identified.bounded

theorem Identified.mountPromptMessages :
    ∀ {messages : List Message} {session : Session Message F} {address : List Nat},
      session.Identified → (Session.mountPromptMessages session address messages).1.Identified
  | [], _, _, identified => identified
  | _ :: _, _, address, identified =>
      (identified.addChild address _ rfl).mountPromptMessages

theorem Identified.record {session : Session Message F} (identified : session.Identified)
    (forkThreshold : Nat) (turn : TurnRecord F) (promptMessages : List Message)
    (responseMessage : Option Message) (turnIndex : Nat) :
    (session.record forkThreshold turn promptMessages responseMessage
      turnIndex).Identified :=
  ((identified.tryMergeAssistantRewrite forkThreshold _ promptMessages
    _).mountPromptMessages).addChild _ _ rfl

end Routing

end Session

/-! ## Recorded sessions -/

namespace TrajectoryManager

variable [DecidableEq Sid] [ChatMessage Message]

theorem recordTurn_eq_ok {manager next : TrajectoryManager Sid Message F} {sid : Sid}
    {call : RecordCall Message F} (accepted : manager.recordTurn sid call = .ok next) :
    next = manager ∨
      (call.turn.outputLogProbs = [] ∨
        call.turn.outputLogProbs.length = call.turn.outputIds.length) ∧
      next.forkThreshold = manager.forkThreshold ∧
      next.trees sid = some (((manager.trees sid).getD Session.initial).record
        manager.forkThreshold call.turn call.promptMessages call.responseMessage
        (manager.turnCount sid + 1)) := by
  unfold TrajectoryManager.recordTurn at accepted
  dsimp only at accepted
  split at accepted
  · simp only [Except.ok.injEq] at accepted
    exact .inl accepted.symm
  · split at accepted
    · simp at accepted
    · rename_i lengths
      simp only [Except.ok.injEq] at accepted
      subst accepted
      refine .inr ⟨?_, rfl, by simp⟩
      by_cases absent : call.turn.outputLogProbs = []
      · exact .inl absent
      · exact .inr (by simpa [absent] using lengths)

theorem recordTurns_keeps (allowed : TurnRecord F → Prop) (holds : Session Message F → Prop)
    {sid : Sid} (initial : holds Session.initial)
    (record : ∀ {session : Session Message F} (forkThreshold : Nat)
      (call : RecordCall Message F) (turnIndex : Nat), allowed call.turn →
      call.turn.Recordable → holds session →
      holds (session.record forkThreshold call.turn call.promptMessages
        call.responseMessage turnIndex)) :
    ∀ {calls : List (RecordCall Message F)}
      {manager recorded : TrajectoryManager Sid Message F},
      (∀ call ∈ calls, allowed call.turn) → manager.recordTurns sid calls = .ok recorded →
      holds ((manager.trees sid).getD Session.initial) →
      recorded.forkThreshold = manager.forkThreshold ∧
        holds ((recorded.trees sid).getD Session.initial)
  | [], manager, recorded, _, accepted, before => by
      simp only [recordTurns, List.foldlM_nil, pure_eq_ok, Except.ok.injEq] at accepted
      subst accepted
      exact ⟨rfl, before⟩
  | call :: rest, manager, recorded, areAllowed, accepted, before => by
      rw [List.forall_mem_cons] at areAllowed
      rw [recordTurns, List.foldlM_cons] at accepted
      cases first : manager.recordTurn sid call with
      | error exception => simp [first] at accepted
      | ok next =>
          rw [first, ok_bind] at accepted
          have later := recordTurns_keeps allowed holds initial record areAllowed.2 accepted
          rcases recordTurn_eq_ok first with same | ⟨lengths, sameThreshold, tree⟩
          · exact same ▸ later (same ▸ before)
          · have after := later (by
              rw [tree]
              exact record manager.forkThreshold call _ areAllowed.1 lengths before)
            exact ⟨after.1.trans sameThreshold, after.2⟩

theorem recordTurns_invariant (holds : Session Message F → Prop) {sid : Sid}
    (initial : holds Session.initial)
    (record : ∀ {session : Session Message F} (forkThreshold : Nat)
      (call : RecordCall Message F) (turnIndex : Nat), call.turn.Plain → holds session →
      holds (session.record forkThreshold call.turn call.promptMessages
        call.responseMessage turnIndex))
    {calls : List (RecordCall Message F)}
    {manager recorded : TrajectoryManager Sid Message F}
    (replayFree : ∀ call ∈ calls, call.turn.replay = none)
    (accepted : manager.recordTurns sid calls = .ok recorded)
    (before : holds ((manager.trees sid).getD Session.initial)) :
    recorded.forkThreshold = manager.forkThreshold ∧
      holds ((recorded.trees sid).getD Session.initial) :=
  recordTurns_keeps (fun turn => turn.replay = none) holds initial
    (fun forkThreshold call turnIndex noReplay recordable =>
      record forkThreshold call turnIndex ⟨noReplay, recordable⟩)
    replayFree accepted before

end TrajectoryManager

/-! ## Generated nodes -/

def generatedNodes (root : MessageTree Message F) : List (Nat × TurnRecord F) :=
  assistantNodes root.labels

theorem assistantNodes_ids_sublist (nodes : List (MessageNode Message F)) :
    ((assistantNodes nodes).map Prod.fst).Sublist (nodes.map MessageNode.id) := by
  induction nodes with
  | nil => exact List.Sublist.refl _
  | cons node rest induction =>
      rw [assistantNodes, List.filterMap_cons, List.map_cons]
      split
      · exact induction.trans (List.sublist_cons_self _ _)
      · rename_i generated isGenerated
        have sameId : generated.1 = node.id := by
          split at isGenerated
          · simp only [Option.map_eq_some_iff] at isGenerated
            rcases isGenerated with ⟨turn, _, rfl⟩
            rfl
          · simp at isGenerated
        rw [List.map_cons, sameId]
        exact induction.cons_cons _

theorem generatedNodes_nodup {session : Session Message F}
    (identified : session.Identified) :
    ((generatedNodes session.root).map Prod.fst).Nodup :=
  (assistantNodes_ids_sublist _).nodup identified.nodup

theorem assistantNodes_sublist_generatedNodes {root : MessageTree Message F}
    {chain : List (MessageNode Message F)} (member : chain ∈ leafChains root) :
    (assistantNodes chain).Sublist (generatedNodes root) := by
  have inForest := RoseTree.forestLeafPaths_sublist _ _ member
  have inTree : chain.Sublist root.labels := by
    rw [RoseTree.labels_eq]
    exact inForest.trans (List.sublist_cons_self _ _)
  exact inTree.filterMap _

end Vime.Agent
