import MultiCluster.Api.Call
import MultiCluster.Api.Status
import MultiCluster.Operator.Definition

/-!
# Calls on the wire

How a call is sent to an API server, and how the object in its answer is read.
-/

namespace MultiCluster

/-- The name under which the operator changes objects. -/
def fieldManager : String := "knitnet-controller"

namespace Api

/-- What a request does. -/
inductive Verb where
  | get
  | post
  | put
  | delete
  /-- Merges a document into an object. -/
  | merge
  /-- Applies an object on the server's side. -/
  | apply
  deriving DecidableEq, Repr

/-- The method of a request. -/
def Verb.method : Verb → String
  | get => "GET"
  | post => "POST"
  | put => "PUT"
  | delete => "DELETE"
  | merge | apply => "PATCH"

/-- The type of the document in a request that changes an object. -/
def Verb.contentType? : Verb → Option String
  | merge => some "application/merge-patch+json"
  | apply => some "application/apply-patch+yaml"
  | _ => none

/-- A request to an API server. -/
structure Request where
  verb : Verb
  path : String
  /-- The parameters behind the path, in the order of their names. -/
  query : List (String × String) := []
  body : Option Json := none

/-- The line that identifies a request: method, path and parameters. -/
def Request.line (r : Request) : String :=
  r.verb.method ++ " " ++ r.path ++
    if r.query.isEmpty then "" else "?" ++ "&".intercalate (r.query.map fun p => p.1 ++ "=" ++ p.2)

/-- The path of a collection of namespaced objects. -/
def collection (api space kind : String) : String :=
  api ++ "/namespaces/" ++ space ++ "/" ++ kind

/-- The parameters of a request that changes an object. -/
def managed : List (String × String) := [("fieldManager", fieldManager)]

/-- The parameters of a request that takes over the fields that it sets. -/
def forced : List (String × String) := managed ++ [("force", "true")]

/-- The transient service of discovery. Its address lies in no range. -/
def probeService (name : String) : Json :=
  .object [
    ("apiVersion", .text "v1"),
    ("kind", .text "Service"),
    ("metadata", .ofPairs [("name", name)]),
    ("spec", .object [("clusterIP", .text "0.0.0.0"), ("ports", .array [.object [("port", .integer 443)]])])]

/-- The name of the transient service. -/
def probeServiceName : String := "knitnet-cidr-probe"

/-- The label of a gateway node. -/
def gatewayLabel : String := "submariner.io/gateway"

/-- The document that labels a node as gateway. -/
def gatewayPatch : Json :=
  .object [("metadata", .object [("labels", .ofPairs [(gatewayLabel, "true")])])]

/-- The document that sets the phase of a membership. -/
def phasePatch (phase : MembershipPhase) : Json :=
  .object [("status", .ofPairs [("phase", phase.name), ("lastUpdated", "<timestamp>")])]

/-- The request of a call. -/
def Call.toRequest : Call → Request
  | configMap space name => { verb := .get, path := collection "/api/v1" space "configmaps/" ++ name }
  | createConfigMap space object =>
    { verb := .post, path := collection "/api/v1" space "configmaps", body := object.toJson }
  | replaceConfigMap space name object =>
    { verb := .put, path := collection "/api/v1" space "configmaps/" ++ name, body := object.toJson }
  | pods selector => { verb := .get, path := "/api/v1/pods", query := [("labelSelector", selector)] }
  | service space name => { verb := .get, path := collection "/api/v1" space "services/" ++ name }
  | createService space =>
    { verb := .post, path := collection "/api/v1" space "services", body := probeService probeServiceName }
  | deleteService space name =>
    { verb := .delete, path := collection "/api/v1" space "services/" ++ name, body := Json.object [] }
  | clusterNetwork => { verb := .get, path := "/apis/config.openshift.io/v1/networks/cluster" }
  | secrets space =>
    { verb := .get, path := collection "/api/v1" space "secrets",
      query := [("fieldSelector", "type=kubernetes.io/service-account-token")] }
  | version => { verb := .get, path := "/version" }
  | applyRegistration registration =>
    { verb := .apply, query := forced, body := registration.toJson,
      path := collection "/apis/submariner.io/v1alpha1" operatorNamespace "submariners/" ++
        Registration.objectName }
  | nodes => { verb := .get, path := "/api/v1/nodes" }
  | labelNode name =>
    { verb := .merge, path := "/api/v1/nodes/" ++ name, query := managed, body := gatewayPatch }
  | setPhase space name phase =>
    { verb := .merge, query := managed, body := phasePatch phase,
      path := collection ("/apis/" ++ Definition.group ++ "/" ++ Definition.version) space
        (Definition.plural ++ "/") ++ name ++ "/status" }
  | applyDefinition =>
    { verb := .apply, query := forced, body := Definition.toJson,
      path := "/apis/apiextensions.k8s.io/v1/customresourcedefinitions/" ++ Definition.name }
  | createEvent event about controller =>
    { verb := .post, path := collection "/apis/events.k8s.io/v1" (Event.storeNamespace about) "events",
      body := event.toJson about controller }

/-- The name of the object that a call finds by its name. -/
def Call.objectName? : Call → Option String
  | configMap _ name | replaceConfigMap _ name _ | service _ name | deleteService _ name | labelNode name
  | setPhase _ name _ => some name
  | _ => none

/-- Whether a character may stand in the path of a request: not a space, a control, an angle bracket or a grave
accent. -/
def isPathChar (c : Char) : Bool :=
  0x20 < c.toNat && c != '<' && c != '>' && c != '\x60'

/-- What is sent for a call: nothing if the object it is about has an empty name, or if a name cannot stand in a
path. -/
def Call.send (c : Call) : Except ApiFailure Request :=
  if c.objectName? = some "" then .error .nameless
  else if c.toRequest.path.toList.all isPathChar then .ok c.toRequest
  else .error .unsendable

/-- Reads the items of a list of objects; `null` stands for no items. -/
def itemsOfJson? (decode : Json → Option α) (j : Json) : Option (List α) :=
  match j.member? "items" with
  | none => none
  | some .null => some []
  | some items => Json.list? decode items

/-- Reads an object that nobody looks at. -/
def anyObject? (apiVersion kind : String) (j : Json) : Option Unit := do
  guard (j.isOfKind apiVersion kind)
  let _ ← j.metadata?

/-- The fields that all objects have. -/
def envelopeFields : List String := ["apiVersion", "kind", "metadata"]

/-- Reads the object in the answer to a call. -/
def Call.decode? : (c : Call) → Json → Option c.Result
  | configMap _ _, j => ConfigMap.ofJson? j
  | createConfigMap _ _, j => (ConfigMap.ofJson? j).map fun _ => ()
  | replaceConfigMap _ _ _, j => (ConfigMap.ofJson? j).map fun _ => ()
  | pods _, j => itemsOfJson? Pod.ofJson? j
  | service _ _, j => Service.ofJson? j
  | createService _, j => Service.ofJson? j
  | deleteService _ _, j =>
    if (j.get "kind").asText? = some "Status" then some () else (Service.ofJson? j).map fun _ => ()
  | clusterNetwork, j => do
    let members ← j.asObject?
    return .object (members.filter fun m => !envelopeFields.contains m.1)
  | secrets _, j => itemsOfJson? Secret.ofJson? j
  | version, j => do
    let major ← j.fieldOr "major" "" Json.asText?
    let minor ← j.fieldOr "minor" "" Json.asText?
    return (major, minor)
  | applyRegistration _, j => j.metadata?.map fun _ => ()
  | nodes, j => itemsOfJson? Node.ofJson? j
  | labelNode _, j => (Node.ofJson? j).map fun _ => ()
  | setPhase _ _ _, j => (Membership.ofJson? j).map fun _ => ()
  | applyDefinition, j => anyObject? "apiextensions.k8s.io/v1" "CustomResourceDefinition" j
  | createEvent _ _ _, j => anyObject? "events.k8s.io/v1" "Event" j

/-- What an answer with a status code and a document means for a call. -/
def Call.readAnswer (c : Call) (code : Nat) (body : Json) : Except ApiFailure c.Result :=
  if isErrorCode code then .error (statusFailure code body)
  else match c.decode? body with
    | some result => .ok result
    | none => .error .unreadable

end Api

end MultiCluster
