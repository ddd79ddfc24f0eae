import MultiCluster.Json.Basic

/-!
# Reading structures from JSON values

A structure with named fields is an object, or an array of the fields' values in the order of the fields from
which fields with a default may be missing at the end. Keys that name no field are ignored; a key that names a field
twice is an error.
-/

namespace MultiCluster.Json

/-- The values of the fields of a structure. -/
structure Fields where
  /-- Whether the values are given by the order of the fields and not by their names. -/
  ordered : Bool
  value? : String → Option Json

/-- The value under a key that must not occur twice. -/
def unique? (ms : List (String × Json)) (key : String) : Option (Option Json) :=
  match ms.filter fun m => m.1 == key with
  | [] => some none
  | [m] => some (some m.2)
  | _ => none

/-- Reads the fields with the given names. -/
def fields? (names : List String) : Json → Option Fields
  | object ms =>
    if names.all fun n => (unique? ms n).isSome then
      some ⟨false, fun n => if names.contains n then (unique? ms n).join else none⟩
    else none
  | array xs => if xs.length ≤ names.length then some ⟨true, fun n => (names.zip xs).lookup n⟩ else none
  | _ => none

/-- A field that must be present. -/
def Fields.required (f : Fields) (name : String) (decode : Json → Option α) : Option α :=
  (f.value? name).bind decode

/-- A field that has a default. -/
def Fields.orElse (f : Fields) (name : String) (default : α) (decode : Json → Option α) : Option α :=
  match f.value? name with
  | none => some default
  | some j => decode j

/-- A field that may be missing or `null`. -/
def Fields.optional (f : Fields) (name : String) (decode : Json → Option α) : Option (Option α) :=
  match f.value? name with
  | none => some none
  | some null => some none
  | some j => (decode j).map some

/-- A field that may be `null`, or missing where fields are given by their names. -/
def Fields.nullable (f : Fields) (name : String) (decode : Json → Option α) : Option (Option α) :=
  if f.ordered && (f.value? name).isNone then none else f.optional name decode

/-- The items of an array, each read by `decode`. -/
def list? (decode : Json → Option α) : Json → Option (List α)
  | array xs => xs.mapM decode
  | _ => none

/-- A map from texts to texts; the last of several members with one key counts. -/
def textMap? : Json → Option (List (String × String))
  | object ms => ms.mapM fun m => m.2.asText?.map fun s => (m.1, s)
  | _ => none

/-- One of several names: as a text, or as the only key of an object with the value `null`. -/
def name? : Json → Option String
  | text s => some s
  | object [(s, null)] => some s
  | _ => none

end MultiCluster.Json
