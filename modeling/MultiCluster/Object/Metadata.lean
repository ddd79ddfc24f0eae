import MultiCluster.Object.Ownership

/-!
# Metadata

What all objects of a cluster have in common.
-/

namespace MultiCluster

/-- The metadata of an object. -/
structure Metadata where
  name : Option String := none
  generateName : Option String := none
  space : Option String := none
  labels : Option TextMap := none
  annotations : Option TextMap := none
  /-- The version of the object that the server counts up. -/
  resourceVersion : Option String := none
  uid : Option String := none
  selfLink : Option String := none
  /-- How often the desired state of the object changed. -/
  generation : Option Int64 := none
  created : Option Instant := none
  deleted : Option Instant := none
  /-- How many seconds the object may take to end. -/
  gracePeriod : Option Int64 := none
  /-- What has to be done before the object is deleted. -/
  finalizers : Option (List String) := none
  owners : Option (List Owner) := none
  managedFields : Option (List ManagedFields) := none
  deriving Inhabited

namespace Metadata

/-- Reads metadata. -/
def ofJson? (j : Json) : Option Metadata := do
  let name ← j.field? "name" Json.asText?
  let generateName ← j.field? "generateName" Json.asText?
  let space ← j.field? "namespace" Json.asText?
  let labels ← j.field? "labels" Json.asTextMap?
  let annotations ← j.field? "annotations" Json.asTextMap?
  let resourceVersion ← j.field? "resourceVersion" Json.asText?
  let uid ← j.field? "uid" Json.asText?
  let selfLink ← j.field? "selfLink" Json.asText?
  let generation ← j.field? "generation" Json.asInt64?
  let created ← j.field? "creationTimestamp" Json.asInstant?
  let deleted ← j.field? "deletionTimestamp" Json.asInstant?
  let gracePeriod ← j.field? "deletionGracePeriodSeconds" Json.asInt64?
  let finalizers ← j.field? "finalizers" (Json.list? Json.asText?)
  let owners ← j.field? "ownerReferences" (Json.list? Owner.ofJson?)
  let managedFields ← j.field? "managedFields" (Json.list? ManagedFields.ofJson?)
  return {
    name, generateName, space, labels, annotations, resourceVersion, uid, selfLink, generation, created, deleted,
    gracePeriod, finalizers, owners, managedFields }

/-- Metadata as a JSON object. -/
def toJson (m : Metadata) : Json :=
  .object <|
    Json.optionalMember "name" .text m.name ++ Json.optionalMember "generateName" .text m.generateName ++
    Json.optionalMember "namespace" .text m.space ++ Json.optionalMember "labels" .ofTextMap m.labels ++
    Json.optionalMember "annotations" .ofTextMap m.annotations ++
    Json.optionalMember "resourceVersion" .text m.resourceVersion ++ Json.optionalMember "uid" .text m.uid ++
    Json.optionalMember "selfLink" .text m.selfLink ++ Json.optionalMember "generation" .ofInt64 m.generation ++
    Json.optionalMember "creationTimestamp" .ofInstant m.created ++
    Json.optionalMember "deletionTimestamp" .ofInstant m.deleted ++
    Json.optionalMember "deletionGracePeriodSeconds" .ofInt64 m.gracePeriod ++
    Json.optionalMember "finalizers" .ofTexts m.finalizers ++
    Json.optionalMember "ownerReferences" (fun os => .array (os.map Owner.toJson)) m.owners ++
    Json.optionalMember "managedFields" (fun ms => .array (ms.map ManagedFields.toJson)) m.managedFields

/-- The name of an object, or else the beginning of a name that is yet to be made. -/
def anyName (m : Metadata) : String :=
  (m.name <|> m.generateName).getD ""

/-- The value of a label. -/
def label? (m : Metadata) (key : String) : Option String :=
  m.labels.bind fun labels => labels.get? key

/-- No labels answer as empty ones do. -/
theorem label?_eq_get?_getD (m : Metadata) (key : String) : m.label? key = (m.labels.getD .empty).get? key := by
  cases h : m.labels <;> simp [label?, h]

/-- Whether a label is set. -/
def hasLabel (m : Metadata) (key : String) : Bool :=
  (m.label? key).isSome

/-- The value of an annotation. -/
def annotation? (m : Metadata) (key : String) : Option String :=
  m.annotations.bind fun annotations => annotations.get? key

end Metadata

/-- Reads the metadata of an object; an object without any has empty ones. -/
def Json.metadata? (j : Json) : Option Metadata :=
  j.fieldOr "metadata" {} Metadata.ofJson?

end MultiCluster
