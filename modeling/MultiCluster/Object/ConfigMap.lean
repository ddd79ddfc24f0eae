import MultiCluster.Object.Bytes
import MultiCluster.Object.Metadata

/-!
# Configuration maps

An object that holds texts and bytes by key.
-/

namespace MultiCluster

/-- A configuration map. -/
structure ConfigMap where
  metadata : Metadata := {}
  data : Option TextMap := none
  binaryData : Option BytesMap := none
  /-- Whether the contents are never to change. -/
  immutable : Option Bool := none
  deriving Inhabited

namespace ConfigMap

/-- Reads a configuration map. -/
def ofJson? (j : Json) : Option ConfigMap := do
  guard (j.isOfKind "v1" "ConfigMap")
  let metadata ← j.metadata?
  let data ← j.field? "data" Json.asTextMap?
  let binaryData ← j.field? "binaryData" BytesMap.ofJson?
  let immutable ← j.field? "immutable" Json.asBool?
  return { metadata, data, binaryData, immutable }

/-- A configuration map as a JSON object. -/
def toJson (c : ConfigMap) : Json :=
  .object <| [("apiVersion", .text "v1"), ("kind", .text "ConfigMap"), ("metadata", c.metadata.toJson)] ++
    Json.optionalMember "data" .ofTextMap c.data ++
    Json.optionalMember "binaryData" BytesMap.toJson c.binaryData ++
    Json.optionalMember "immutable" .bool c.immutable

/-- The value of a key. -/
def get? (c : ConfigMap) (key : String) : Option String :=
  c.data.bind fun data => data.get? key

/-- No data answer as empty ones do. -/
theorem get?_eq_get?_getD (c : ConfigMap) (key : String) : c.get? key = (c.data.getD .empty).get? key := by
  cases h : c.data <;> simp [get?, h]

end ConfigMap

end MultiCluster
