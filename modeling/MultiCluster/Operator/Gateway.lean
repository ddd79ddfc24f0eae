import MultiCluster.Api.Wire
import MultiCluster.Timing.Retry

/-!
# The gateway

The ends of the tunnels between clusters run on nodes that are labelled as gateways. A joining cluster without
such a node gets one: the first worker, or else the first node that is not a master.
-/

namespace MultiCluster

/-- What to do about the gateway. -/
inductive GatewayChoice where
  /-- A node is labelled as gateway already. -/
  | alreadyLabeled (node : String)
  /-- A node is to be labelled. -/
  | label (node : String)
  /-- No node qualifies. -/
  | noCandidate
  deriving DecidableEq, Repr

namespace Gateway

/-- The label of a worker. -/
def workerLabel : String := "node-role.kubernetes.io/worker"

/-- The label of a master. -/
def masterLabel : String := "node-role.kubernetes.io/master"

/-- Whether a node is labelled as gateway. -/
def isGateway (n : Node) : Bool :=
  n.metadata.label? Api.gatewayLabel == some "true"

/-- Whether a node is a worker. -/
def isWorker (n : Node) : Bool :=
  n.metadata.hasLabel workerLabel

/-- Whether a node is a master. -/
def isMaster (n : Node) : Bool :=
  n.metadata.hasLabel masterLabel

/-- The node that becomes the gateway of a cluster without one. -/
def candidate? (nodes : List Node) : Option Node :=
  nodes.find? isWorker <|> nodes.find? fun n => !isMaster n

/-- Decides what to do about the gateway. -/
def select (nodes : List Node) : GatewayChoice :=
  match nodes.find? isGateway with
  | some n => .alreadyLabeled n.metadata.anyName
  | none =>
    match candidate? nodes with
    | some n => .label n.metadata.anyName
    | none => .noCandidate

/-- What the answer to an attempt to label a node means: after a conflict the node is not labelled yet. -/
def labeled : Except ApiFailure Unit → Except Failure (Option Unit)
  | .ok () => .ok (some ())
  | .error e => if (Failure.kubernetes e).isConflict then .ok none else .error (.kubernetes e)

/-- Labels a node as gateway, and tries again after a conflict. -/
def label (node : String) : Task Api.interface Unit :=
  Backoff.nodeLabel.waitFor ("label gateway node " ++ node)
    (Task.ofProgram ((Api.request (.labelNode node)).bind fun r => .done (labeled r)))

/-- Makes sure that a cluster has a gateway if it can have one. Returns the node that was labelled for it. -/
def ensure : Task Api.interface (Option String) := do
  let nodes : List Node ← Api.call .nodes
  match select nodes with
  | .label node =>
    label node
    return some node
  | _ => return none

end Gateway

end MultiCluster
