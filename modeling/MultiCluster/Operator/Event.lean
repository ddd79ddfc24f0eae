import MultiCluster.Json.Basic
import MultiCluster.Object.Fields

/-!
# Events

What happened in an attempt is published as events on the membership.
-/

namespace MultiCluster

/-- Whether an event reports a success or a failure. -/
inductive EventType where
  | normal
  | warning
  deriving DecidableEq, Repr

/-- The name of a type of events. -/
def EventType.name : EventType → String
  | normal => "Normal"
  | warning => "Warning"

/-- An event. -/
structure Event where
  type : EventType
  reason : String
  action : String
  note : Option String
  deriving DecidableEq, Repr

namespace Event

/-! ### Reasons and actions -/

/-- The ledger exists and is consistent. -/
def brokerReady : String := "BrokerReady"

/-- The ledger could not be set up. -/
def brokerFailed : String := "BrokerFailed"

/-- The network of the cluster is known. -/
def networkDiscovered : String := "NetworkDiscovered"

/-- A global block was committed. -/
def globalCidrAllocated : String := "GlobalCIDRAllocated"

/-- The cluster joined. -/
def joinSucceeded : String := "JoinSucceeded"

/-- The attempt to join failed. -/
def joinFailed : String := "JoinFailed"

/-- A node was labelled as gateway. -/
def gatewayLabeled : String := "GatewayLabeled"

/-- The action of checking a membership. -/
def reconciling : String := "Reconcile"

/-- The action of setting up the ledger. -/
def deployingBroker : String := "DeployBroker"

/-- The action of joining. -/
def joining : String := "Join"

/-! ### The event resource -/

/-- The fields that identify the object of an event. -/
def referenceFields : List String :=
  ["apiVersion", "fieldPath", "kind", "name", "namespace", "resourceVersion", "uid"]

/-- The object that an event is about, by the fields that identify it. -/
def reference (j : Json) : TextMap :=
  .ofList (referenceFields.filterMap fun key => (j.given? key).bind fun v => v.asText?.map fun s => (key, s))

/-- The namespace in which an event about an object is stored. -/
def storeNamespace (about : TextMap) : String :=
  (about.get? "namespace").getD "default"

/-- An event as a resource. Its name and its time are not part of it. -/
def toJson (e : Event) (about : TextMap) (controller : String) : Json :=
  .object <| [
    ("apiVersion", .text "events.k8s.io/v1"),
    ("kind", .text "Event"),
    ("action", .text e.action),
    ("eventTime", .text "<timestamp>"),
    ("metadata", .object <| ("name", .text "<event name>") ::
      Json.optionalMember "namespace" .text (about.get? "namespace"))] ++
    Json.optionalMember "note" .text e.note ++ [
    ("reason", .text e.reason),
    ("regarding", .ofTextMap about),
    ("reportingController", .text controller),
    ("reportingInstance", .text controller),
    ("type", .text e.type.name)]

end Event

end MultiCluster
