import MultiCluster.Object.Metadata

/-!
# Nodes and services

Of a node only its metadata are read, and of a service its address.
-/

namespace MultiCluster

/-- A node of a cluster. -/
structure Node where
  metadata : Metadata := {}
  deriving Inhabited

/-- Reads a node. -/
def Node.ofJson? (j : Json) : Option Node := do
  guard (j.isOfKind "v1" "Node")
  return { metadata := ← j.metadata? }

/-- A service. -/
structure Service where
  clusterIp : Option String := none
  deriving DecidableEq, Repr, Inhabited

/-- Reads a service. -/
def Service.ofJson? (j : Json) : Option Service := do
  guard (j.isOfKind "v1" "Service")
  let _ ← j.metadata?
  let spec ← j.fieldOr "spec" none fun spec => spec.field? "clusterIP" Json.asText?
  return { clusterIp := spec }

end MultiCluster
