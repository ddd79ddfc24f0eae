import MultiCluster.Json.Decode
import MultiCluster.Text.Map
import MultiCluster.Timing.Instant

/-!
# Fields of cluster objects

An object of a cluster is read from JSON leniently: fields that nobody asks for are skipped, and a field that is
missing or `null` is none. A field that is none is left out when the object is written.
-/

namespace MultiCluster.Json

/-- Reads a field of an object that may be missing or `null`. -/
def field? (j : Json) (key : String) (decode : Json → Option α) : Option (Option α) :=
  match j with
  | object _ =>
    match j.given? key with
    | none => some none
    | some value => (decode value).map some
  | _ => none

/-- Reads a field of an object that has a default. -/
def fieldOr (j : Json) (key : String) (default : α) (decode : Json → Option α) : Option α :=
  (j.field? key decode).map fun found => found.getD default

/-- Whether an object is not of another kind than the given one. -/
def isOfKind (j : Json) (apiVersion kind : String) : Bool :=
  match j with
  | object _ =>
    (match j.member? "apiVersion" with
      | none => true
      | some v => v.asText? == some apiVersion) &&
    (match j.member? "kind" with
      | none => true
      | some k => k.asText? == some kind)
  | _ => false

/-- An optional member of an object. -/
def optionalMember (key : String) (encode : α → Json) (a : Option α) : List (String × Json) :=
  match a with
  | some a => [(key, encode a)]
  | none => []

/-- Reads a map from texts to texts. -/
def asTextMap? (j : Json) : Option TextMap :=
  (textMap? j).map TextMap.ofList

/-- The object of a map. -/
def ofTextMap (m : TextMap) : Json :=
  ofPairs m.pairs

/-- The instant that a value is. -/
def asInstant? (j : Json) : Option Instant :=
  j.asText?.bind Instant.ofText?

/-- The text of an instant. -/
def ofInstant (i : Instant) : Json :=
  text i.toText

end MultiCluster.Json
