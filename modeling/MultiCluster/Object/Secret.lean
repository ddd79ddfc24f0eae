import MultiCluster.Object.Bytes
import MultiCluster.Object.Metadata

/-!
# Secrets

An object that holds bytes by key.
-/

namespace MultiCluster

/-- A secret. -/
structure Secret where
  metadata : Metadata := {}
  data : BytesMap := []
  deriving Inhabited

namespace Secret

/-- Reads a secret. -/
def ofJson? (j : Json) : Option Secret := do
  guard (j.isOfKind "v1" "Secret")
  let metadata ← j.metadata?
  let data ← j.fieldOr "data" [] BytesMap.ofJson?
  return { metadata, data }

/-- The bytes of a key. -/
def get? (s : Secret) (key : String) : Option Bytes :=
  s.data.lookup key

end Secret

end MultiCluster
