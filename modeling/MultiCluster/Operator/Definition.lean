import MultiCluster.Json.Basic

/-!
# The definition of the membership resource

How the resource is made known to an API server.
-/

namespace MultiCluster.Definition

/-- The group of the resource. -/
def group : String := "operator.tkestack.io"

/-- The version of the resource. -/
def version : String := "v1alpha1"

/-- The kind of the resource. -/
def kind : String := "Knitnet"

/-- The name of one resource. -/
def singular : String := "knitnet"

/-- The name of several resources. -/
def plural : String := "knitnets"

/-- The name of the definition. -/
def name : String := plural ++ "." ++ group

/-- A column that is shown for each resource. -/
structure Column where
  name : String
  type : String
  /-- Where the value stands in the resource. -/
  path : String
  deriving DecidableEq, Repr

/-- The columns that are shown for each resource. -/
def columns : List Column := [
  ⟨"Action", "string", ".spec.action"⟩,
  ⟨"Phase", "string", ".status.phase"⟩,
  ⟨"Age", "date", ".metadata.creationTimestamp"⟩]

/-- The names of the resource. -/
def names : Json :=
  .object [
    ("categories", .array []),
    ("kind", .text kind),
    ("plural", .text plural),
    ("shortNames", .ofTexts ["kn"]),
    ("singular", .text singular)]

/-- What the definition says about the resource, without the schema of its fields. -/
def facts : Json :=
  .object [
    ("name", .text name),
    ("group", .text group),
    ("scope", .text "Namespaced"),
    ("names", names),
    ("version", .text version),
    ("served", .bool true),
    ("storage", .bool true),
    ("subresources", .object [("status", .object [])]),
    ("columns", .array (columns.map fun c =>
      .ofPairs [("name", c.name), ("type", c.type), ("jsonPath", c.path)]))]

/-- The definition as a resource; the schema is not part of it. -/
def toJson : Json :=
  .object [
    ("apiVersion", .text "apiextensions.k8s.io/v1"),
    ("kind", .text "CustomResourceDefinition"),
    ("metadata", .ofPairs [("name", name)]),
    ("spec", .text "<crd spec>")]

end MultiCluster.Definition
