import Vime.Agent.SampleBuilder
import Vime.Foundation.RoseTree

/-! # The per-session routing tree

`TrajectoryManager` of `vime/agent/trajectory.py`: turns are routed into a tree
of chat messages and the tree is linearized into loss-masked samples. Nodes
carry an `id` standing for the identity of the Python object, because sibling
leaf paths share the nodes of their common prefix.
-/

namespace Vime.Agent

open Vime.Foundation Vime.Utils

/-- What the manager reads of a chat message. `==` is the dict equality that
routing compares with. -/
class ChatMessage (Message : Type) extends BEq Message where
  role : Message → Option String
  hasToolCalls : Message → Bool

structure MessageNode (Message F : Type) where
  id : Nat
  role : Option String := none
  message : Option Message := none
  turn : Option (TurnRecord F) := none
  turnIndex : Option Nat := none

variable {Message F Sid Prompt : Type}

abbrev MessageTree (Message F : Type) := RoseTree (MessageNode Message F)

/-- One session's tree together with the next unused object identity. -/
structure Session (Message F : Type) where
  root : MessageTree Message F
  nextId : Nat

namespace Session

def initial : Session Message F where
  root := .node { id := 0 } []
  nextId := 1

/-- Create a node and append it below the node at `address`. The result is the
address of the new node. -/
def addChild (session : Session Message F) (address : List Nat)
    (node : Nat → MessageNode Message F) : Session Message F × List Nat :=
  let siblings := ((session.root.subtreeAt address).map RoseTree.children).getD []
  ({ root := session.root.addChildAt address (.node (node session.nextId) [])
     nextId := session.nextId + 1 },
    address ++ [siblings.length])

section Routing

variable [ChatMessage Message]

/-- Deepest matching node for a message list: its address below `tree`. Each
step matches one message, so the address length is the routing depth. -/
def findMountPoint (tree : MessageTree Message F) : List Message → List Nat
  | [] => []
  | message :: rest =>
      match tree.children.findIdx? fun child =>
          child.label.role == ChatMessage.role message &&
            child.label.message == some message with
      | none => []
      | some index =>
          match tree.children[index]? with
          | none => []
          | some child => index :: findMountPoint child rest

def isAssistant (node : MessageTree Message F) : Bool :=
  node.label.role == some "assistant"

/-- Overwrite a short, generated, childless assistant in place with the message
that replaces it, instead of forking. `address` and `depth` are the mount point. -/
def tryMergeAssistantRewrite (forkThreshold : Nat) (session : Session Message F)
    (address : List Nat) (promptMessages : List Message) (depth : Nat) :
    Session Message F × List Nat × Nat :=
  let unchanged := (session, address, depth)
  if forkThreshold = 0 then
    unchanged
  else
    match promptMessages[depth]? with
    | none => unchanged
    | some message =>
        if ChatMessage.role message ≠ some "assistant" then
          unchanged
        else
          let siblings :=
            ((session.root.subtreeAt address).map RoseTree.children).getD []
          match siblings.filter isAssistant, siblings.findIdx? isAssistant with
          | [rewritten], some index =>
              match rewritten.label.turn with
              | none => unchanged
              | some turn =>
                  if !rewritten.children.isEmpty ||
                      forkThreshold ≤ turn.outputIds.length then
                    unchanged
                  else
                    let target := address ++ [index]
                    ({ session with
                        root := session.root.relabelAt target fun node =>
                          { node with
                            turn := none
                            turnIndex := none
                            message := some message } },
                      target, depth + 1)
          | _, _ => unchanged

def mountPromptMessages (session : Session Message F) (address : List Nat) :
    List Message → Session Message F × List Nat
  | [] => (session, address)
  | message :: rest =>
      let mounted := session.addChild address fun id =>
        { id := id, role := ChatMessage.role message, message := some message }
      mountPromptMessages mounted.1 mounted.2 rest

def attachAssistantLeaf (session : Session Message F) (address : List Nat)
    (turn : TurnRecord F) (responseMessage : Option Message) (turnIndex : Nat) :
    Session Message F :=
  (session.addChild address fun id =>
    { id := id
      role := some "assistant"
      message := responseMessage
      turn := some turn
      turnIndex := some turnIndex }).1

def record (forkThreshold : Nat) (session : Session Message F) (turn : TurnRecord F)
    (promptMessages : List Message) (responseMessage : Option Message)
    (turnIndex : Nat) : Session Message F :=
  let address := findMountPoint session.root promptMessages
  let merged := tryMergeAssistantRewrite forkThreshold session address promptMessages
    address.length
  let mounted := mountPromptMessages merged.1 merged.2.1
    (promptMessages.drop merged.2.2)
  attachAssistantLeaf mounted.1 mounted.2 turn responseMessage turnIndex

end Routing

end Session

/-! ## Linearization -/

def assistantNodes (chain : List (MessageNode Message F)) :
    List (Nat × TurnRecord F) :=
  chain.filterMap fun node =>
    if node.role = some "assistant" then node.turn.map fun turn => (node.id, turn)
    else none

section Linearize

variable [LogProbValue F]

/-- Builders of one chain, most recent first, while its nodes are consumed in
order. `claimed` lists the nodes whose `response_trained` flag is set. -/
def splitStep (forkThreshold : Nat)
    (state : List (SampleBuilder F) × List Nat) (node : Nat × TurnRecord F) :
    Except PyException (List (SampleBuilder F) × List Nat) := do
  let (builders, claimed) := state
  let trained := !claimed.contains node.1
  let claimed := if trained then node.1 :: claimed else claimed
  let opened : SampleBuilder F := { forkThreshold := forkThreshold }
  match builders with
  | [] => do
      let first ← opened.appendTurn node.2 .clean trained
      pure ([first], claimed)
  | current :: closed =>
      match current.classifyTokenDrift node.2 with
      | .fork => do
          let next ← opened.appendTurn node.2 .clean trained
          pure (next :: current :: closed, claimed)
      | kind => do
          let extended ← current.appendTurn node.2 kind trained
          pure (extended :: closed, claimed)

def splitChainIntoBuilders (forkThreshold : Nat) (claimed : List Nat)
    (chain : List (MessageNode Message F)) :
    Except PyException (List (SampleBuilder F) × List Nat) := do
  let (builders, claimed) ←
    (assistantNodes chain).foldlM (splitStep forkThreshold) ([], claimed)
  pure (builders.reverse, claimed)

def chainMetadata [ChatMessage Message] (chain : List (MessageNode Message F))
    (extraMetadata : List (String × String)) : SampleMetadata :=
  let generated := chain.filter fun node =>
    node.role == some "assistant" && node.turn.isSome
  { extra := extraMetadata
    truncated := match (generated.getLast?).bind MessageNode.turn with
      | some turn => turn.finishReason == "length"
      | none => false
    useTool := generated.any fun node =>
      match node.message with
      | some message => ChatMessage.hasToolCalls message
      | none => false
    illFormed := generated.any fun node =>
      match node.turn with
      | some turn => turn.illFormed
      | none => false }

def chainToSamples [ChatMessage Message] (forkThreshold : Nat) (claimed : List Nat)
    (chain : List (MessageNode Message F)) (baseSample : BaseSample Prompt)
    (extraMetadata : List (String × String)) (maxSampleTokens : Nat) :
    Except PyException (List (Sample Prompt F) × List Nat) := do
  let (builders, claimed) ← splitChainIntoBuilders forkThreshold claimed chain
  let samples ← (builders.filter SampleBuilder.hasTrainedResponse).mapM fun builder =>
    builder.toSample baseSample (chainMetadata chain extraMetadata) maxSampleTokens
  pure (samples, claimed)

def chainsToSamples [ChatMessage Message] (forkThreshold : Nat)
    (baseSample : BaseSample Prompt) (extraMetadata : List (String × String))
    (maxSampleTokens : Nat) :
    List Nat → List (List (MessageNode Message F)) →
      Except PyException (List (Sample Prompt F))
  | _, [] => pure []
  | claimed, chain :: rest => do
      let (samples, claimed) ← chainToSamples forkThreshold claimed chain baseSample
        extraMetadata maxSampleTokens
      let later ← chainsToSamples forkThreshold baseSample extraMetadata
        maxSampleTokens claimed rest
      pure (samples ++ later)

def leafChains (root : MessageTree Message F) : List (List (MessageNode Message F)) :=
  RoseTree.forestLeafPaths root.children

end Linearize

/-! ## The manager -/

structure TrajectoryManager (Sid Message F : Type) where
  forkThreshold : Nat
  trees : Sid → Option (Session Message F)
  turnCount : Sid → Nat

/-- Arguments of one `record_turn` call, the session id apart. -/
structure RecordCall (Message F : Type) where
  turn : TurnRecord F
  promptMessages : List Message
  responseMessage : Option Message

namespace TrajectoryManager

variable [DecidableEq Sid]

/-- A new manager; `none` selects the default threshold. -/
def new (forkThresholdTokens : Option Nat) : TrajectoryManager Sid Message F where
  forkThreshold := forkThresholdTokens.getD 1024
  trees := fun _ => none
  turnCount := fun _ => 0

def recordTurn [ChatMessage Message] (manager : TrajectoryManager Sid Message F)
    (sid : Sid) (call : RecordCall Message F) :
    Except PyException (TrajectoryManager Sid Message F) :=
  let turn := call.turn
  if call.promptMessages.isEmpty then
    .ok manager
  else if !turn.outputLogProbs.isEmpty &&
      turn.outputLogProbs.length != turn.outputIds.length then
    .error (.assertionError
      s!"turn.output_log_probs length {turn.outputLogProbs.length} != turn.output_ids length {turn.outputIds.length}")
  else
    let session := (manager.trees sid).getD Session.initial
    let turnIndex := manager.turnCount sid + 1
    .ok { manager with
      trees := Function.update manager.trees sid (some
        (session.record manager.forkThreshold turn call.promptMessages
          call.responseMessage turnIndex))
      turnCount := Function.update manager.turnCount sid turnIndex }

def recordTurns [ChatMessage Message] (manager : TrajectoryManager Sid Message F)
    (sid : Sid) (calls : List (RecordCall Message F)) :
    Except PyException (TrajectoryManager Sid Message F) :=
  calls.foldlM (fun manager call => manager.recordTurn sid call) manager

def dropSession (manager : TrajectoryManager Sid Message F) (sid : Sid) :
    TrajectoryManager Sid Message F :=
  { manager with
    trees := Function.update manager.trees sid none
    turnCount := Function.update manager.turnCount sid 0 }

def getTrajectory [ChatMessage Message] [LogProbValue F]
    (manager : TrajectoryManager Sid Message F) (sid : Sid)
    (baseSample : BaseSample Prompt) (reward : F)
    (extraMetadata : List (String × String)) (maxSampleTokens : Nat) :
    Except PyException (List (Sample Prompt F) × TrajectoryManager Sid Message F) :=
  match manager.trees sid with
  | none => .ok ([], manager)
  | some session => do
      let samples ← chainsToSamples manager.forkThreshold baseSample extraMetadata
        maxSampleTokens [] (leafChains session.root)
      pure (samples.map fun sample => { sample with reward := reward },
        manager.dropSession sid)

end TrajectoryManager

/-! ## Concrete sessions -/

structure TextMessage where
  role : String
  content : String
  deriving DecidableEq, Repr

instance : ChatMessage TextMessage where
  role := fun message => some message.role
  hasToolCalls := fun _ => false

instance : LogProbValue Int where
  zero := 0
  uniform := fun k => -(Nat.log2 k : Int)

end Vime.Agent
