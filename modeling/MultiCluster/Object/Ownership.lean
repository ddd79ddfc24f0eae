import MultiCluster.Object.Fields

/-!
# Owners and managers

An object names the objects that it belongs to, and who manages which of its fields.
-/

namespace MultiCluster

/-- An object that another one belongs to. -/
structure Owner where
  apiVersion : String
  kind : String
  name : String
  uid : String
  /-- Whether the owner controls the object. -/
  controls : Option Bool := none
  /-- Whether the owner is not deleted before the object. -/
  blocksDeletion : Option Bool := none

namespace Owner

/-- Reads an owner. -/
def ofJson? (j : Json) : Option Owner := do
  let apiVersion ← j.fieldOr "apiVersion" "" Json.asText?
  let kind ← j.fieldOr "kind" "" Json.asText?
  let name ← j.fieldOr "name" "" Json.asText?
  let uid ← j.fieldOr "uid" "" Json.asText?
  let controls ← j.field? "controller" Json.asBool?
  let blocksDeletion ← j.field? "blockOwnerDeletion" Json.asBool?
  return { apiVersion, kind, name, uid, controls, blocksDeletion }

/-- An owner as a JSON object. -/
def toJson (o : Owner) : Json :=
  .object <|
    [("apiVersion", .text o.apiVersion), ("kind", .text o.kind), ("name", .text o.name), ("uid", .text o.uid)] ++
    Json.optionalMember "controller" .bool o.controls ++
    Json.optionalMember "blockOwnerDeletion" .bool o.blocksDeletion

end Owner

/-- Which fields of an object someone manages. -/
structure ManagedFields where
  manager : Option String := none
  /-- How the manager came to manage the fields. -/
  operation : Option String := none
  apiVersion : Option String := none
  time : Option Instant := none
  /-- The form in which the fields are described. -/
  form : Option String := none
  fields : Option Json := none
  subresource : Option String := none

namespace ManagedFields

/-- Reads which fields someone manages. -/
def ofJson? (j : Json) : Option ManagedFields := do
  let manager ← j.field? "manager" Json.asText?
  let operation ← j.field? "operation" Json.asText?
  let apiVersion ← j.field? "apiVersion" Json.asText?
  let time ← j.field? "time" Json.asInstant?
  let form ← j.field? "fieldsType" Json.asText?
  let fields ← j.field? "fieldsV1" some
  let subresource ← j.field? "subresource" Json.asText?
  return { manager, operation, apiVersion, time, form, fields, subresource }

/-- Which fields someone manages, as a JSON object. -/
def toJson (m : ManagedFields) : Json :=
  .object <|
    Json.optionalMember "manager" .text m.manager ++ Json.optionalMember "operation" .text m.operation ++
    Json.optionalMember "apiVersion" .text m.apiVersion ++ Json.optionalMember "time" .ofInstant m.time ++
    Json.optionalMember "fieldsType" .text m.form ++ Json.optionalMember "fieldsV1" id m.fields ++
    Json.optionalMember "subresource" .text m.subresource

end ManagedFields

end MultiCluster
