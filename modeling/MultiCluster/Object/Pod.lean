import MultiCluster.Object.Metadata

/-!
# Pods

Of a pod the commands, arguments and environments of its containers are read.
-/

namespace MultiCluster

/-- An environment variable of a container. -/
structure Variable where
  name : String
  value : Option String
  deriving DecidableEq, Repr

/-- A container of a pod. -/
structure Container where
  command : List String := []
  args : List String := []
  env : List Variable := []
  deriving DecidableEq, Repr

/-- A pod. -/
structure Pod where
  metadata : Metadata := {}
  containers : List Container := []
  deriving Inhabited

/-- Reads an environment variable. -/
def Variable.ofJson? (j : Json) : Option Variable := do
  let name ← j.fieldOr "name" "" Json.asText?
  let value ← j.field? "value" Json.asText?
  return { name, value }

/-- Reads a container. -/
def Container.ofJson? (j : Json) : Option Container := do
  let command ← j.fieldOr "command" [] (Json.list? Json.asText?)
  let args ← j.fieldOr "args" [] (Json.list? Json.asText?)
  let env ← j.fieldOr "env" [] (Json.list? Variable.ofJson?)
  return { command, args, env }

/-- Reads a pod. -/
def Pod.ofJson? (j : Json) : Option Pod := do
  guard (j.isOfKind "v1" "Pod")
  let metadata ← j.metadata?
  let containers ← j.fieldOr "spec" [] fun spec => spec.fieldOr "containers" [] (Json.list? Container.ofJson?)
  return { metadata, containers }

end MultiCluster
