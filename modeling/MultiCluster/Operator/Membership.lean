import MultiCluster.Join.Request
import MultiCluster.Json.Reader
import MultiCluster.Ledger.Codec
import MultiCluster.Object.Metadata

/-!
# Memberships

The resource that says what a cluster contributes to a broker domain: hosting it, joining it, or both. Its JSON form
fills in the defaults of the fields that are missing.
-/

namespace MultiCluster

/-- What a cluster contributes to a broker domain. -/
inductive Action where
  /-- It hosts the domain and its ledger. -/
  | broker
  /-- It joins a domain. -/
  | join
  /-- It hosts the domain and joins it. -/
  | all
  deriving DecidableEq, Repr

namespace Action

/-- The name of an action. -/
def name : Action → String
  | broker => "broker"
  | join => "join"
  | all => "all"

/-- The action with a name. -/
def ofName? : String → Option Action
  | "broker" => some broker
  | "join" => some join
  | "all" => some all
  | _ => none

/-- Whether the cluster hosts the domain. -/
def deploysBroker : Action → Bool
  | broker | all => true
  | join => false

/-- Whether the cluster joins the domain. -/
def joins : Action → Bool
  | join | all => true
  | broker => false

/-- Reads an action. -/
def ofJson? (j : Json) : Option Action :=
  j.name?.bind ofName?

end Action

/-- The settings of a broker domain. -/
structure BrokerConfig where
  /-- Whether the clusters are connected; the gateway and the registration depend on it. -/
  connectivity : Bool := true
  /-- Whether global addressing is in use. -/
  globalAddressing : Bool := false
  /-- The address space that the clusters share. -/
  supernet : String := Record.standardSupernet
  /-- The default number of global addresses of a cluster. -/
  blockSize : UInt64 := Record.standardBlockSize
  deriving DecidableEq

namespace BrokerConfig

/-- The names of the fields. -/
def fieldNames : List String :=
  ["connectivityEnabled", "globalnetEnable", "globalnetCidrRange", "defaultGlobalnetClusterSize"]

/-- Reads the settings of a broker domain. -/
def ofJson? (j : Json) : Option BrokerConfig := do
  let f ← j.fields? fieldNames
  let connectivity ← f.orElse "connectivityEnabled" true Json.asBool?
  let globalAddressing ← f.orElse "globalnetEnable" false Json.asBool?
  let supernet ← f.orElse "globalnetCidrRange" Record.standardSupernet Json.asText?
  let blockSize ← f.orElse "defaultGlobalnetClusterSize" Record.standardBlockSize Json.asWord?
  return { connectivity, globalAddressing, supernet, blockSize }

/-- The settings of a broker domain as a JSON object. -/
def toJson (c : BrokerConfig) : Json :=
  .object [
    ("connectivityEnabled", .bool c.connectivity),
    ("globalnetEnable", .bool c.globalAddressing),
    ("globalnetCidrRange", .text c.supernet),
    ("defaultGlobalnetClusterSize", .ofWord c.blockSize)]

end BrokerConfig

/-- The settings of a cluster that joins. -/
structure JoinConfig where
  cluster : String
  serviceCidr : Option String := none
  clusterCidr : Option String := none
  globalCidr : Option String := none
  blockSize : Option UInt64 := none
  /-- Whether a node is labelled as gateway if none is yet. -/
  labelGateway : Bool := true
  deriving DecidableEq

namespace JoinConfig

/-- The names of the fields. -/
def fieldNames : List String :=
  ["clusterID", "serviceCIDR", "clusterCIDR", "globalnetCIDR", "globalnetClusterSize", "labelGateway"]

/-- Reads the settings of a cluster that joins. -/
def ofJson? (j : Json) : Option JoinConfig := do
  let f ← j.fields? fieldNames
  let cluster ← f.required "clusterID" Json.asText?
  let serviceCidr ← f.optional "serviceCIDR" Json.asText?
  let clusterCidr ← f.optional "clusterCIDR" Json.asText?
  let globalCidr ← f.optional "globalnetCIDR" Json.asText?
  let blockSize ← f.optional "globalnetClusterSize" Json.asWord?
  let labelGateway ← f.orElse "labelGateway" true Json.asBool?
  return { cluster, serviceCidr, clusterCidr, globalCidr, blockSize, labelGateway }

/-- The settings of a cluster that joins as a JSON object; what is none is left out. -/
def toJson (c : JoinConfig) : Json :=
  .object <| ("clusterID", .text c.cluster) ::
    Json.optionalMember "serviceCIDR" .text c.serviceCidr ++
    Json.optionalMember "clusterCIDR" .text c.clusterCidr ++
    Json.optionalMember "globalnetCIDR" .text c.globalCidr ++
    Json.optionalMember "globalnetClusterSize" .ofWord c.blockSize ++
    [("labelGateway", .bool c.labelGateway)]

/-- A text that is not blank, as it is. -/
def unlessBlank (s : Option String) : Option String :=
  s.filter fun c => !Text.isBlankText c

/-- What is asked for when the cluster joins; a blank range asks for none. -/
def toRequest (c : JoinConfig) : JoinRequest where
  cluster := c.cluster
  serviceCidr := unlessBlank c.serviceCidr
  clusterCidr := unlessBlank c.clusterCidr
  globalCidr := unlessBlank c.globalCidr
  blockSize := c.blockSize

end JoinConfig

/-- What a membership asks for. -/
structure MembershipSpec where
  action : Action := .all
  broker : BrokerConfig := {}
  join : Option JoinConfig := none
  deriving DecidableEq

namespace MembershipSpec

/-- The names of the fields. -/
def fieldNames : List String := ["action", "brokerConfig", "joinConfig"]

/-- Reads what a membership asks for. -/
def ofJson? (j : Json) : Option MembershipSpec := do
  let f ← j.fields? fieldNames
  let action ← f.orElse "action" .all Action.ofJson?
  let broker ← f.orElse "brokerConfig" {} BrokerConfig.ofJson?
  let join ← f.optional "joinConfig" JoinConfig.ofJson?
  return { action, broker, join }

/-- Reads what a membership asks for from a JSON text. -/
def ofText? (s : String) : Option MembershipSpec :=
  (Json.read? s).bind ofJson?

/-- What a membership asks for as a JSON object. -/
def toJson (s : MembershipSpec) : Json :=
  .object <| [("action", .text s.action.name), ("brokerConfig", s.broker.toJson)] ++
    Json.optionalMember "joinConfig" JoinConfig.toJson s.join

/-- What a membership asks for as a JSON text. -/
def toText (s : MembershipSpec) : String :=
  s.toJson.compact

/-- Rejects what cannot be done before anything is tried. -/
def validate (s : MembershipSpec) : Except Failure Unit := do
  if s.broker.blockSize = 0 then
    throw (.malformed "brokerConfig.defaultGlobalnetClusterSize" "must be greater than zero")
  if s.action.joins then
    match s.join with
    | none => throw (.malformed "joinConfig" ("required for action " ++ s.action.name))
    | some join => ClusterId.validate join.cluster

end MembershipSpec

/-- What became of the last attempt. -/
inductive MembershipPhase where
  | pending
  | running
  | failed
  deriving DecidableEq, Repr

namespace MembershipPhase

/-- The name of a phase. -/
def name : MembershipPhase → String
  | pending => "Pending"
  | running => "Running"
  | failed => "Failed"

/-- The phase with a name. -/
def ofName? : String → Option MembershipPhase
  | "Pending" => some pending
  | "Running" => some running
  | "Failed" => some failed
  | _ => none

end MembershipPhase

/-- The status of a membership. -/
structure MembershipStatus where
  phase : MembershipPhase := .pending
  lastUpdated : Option String := none
  deriving DecidableEq

/-- Reads the status of a membership. -/
def MembershipStatus.ofJson? (j : Json) : Option MembershipStatus := do
  let f ← j.fields? ["phase", "lastUpdated"]
  let phase ← f.orElse "phase" .pending fun j => j.name?.bind MembershipPhase.ofName?
  let lastUpdated ← f.optional "lastUpdated" Json.asText?
  return { phase, lastUpdated }

/-- A membership. -/
structure Membership where
  metadata : Metadata
  spec : MembershipSpec
  status : Option MembershipStatus := none

/-- Reads a membership. -/
def Membership.ofJson? (j : Json) : Option Membership := do
  let f ← j.fields? ["metadata", "spec", "status"]
  let metadata ← f.required "metadata" Metadata.ofJson?
  let spec ← f.required "spec" MembershipSpec.ofJson?
  let status ← f.nullable "status" MembershipStatus.ofJson?
  return { metadata, spec, status }

end MultiCluster
