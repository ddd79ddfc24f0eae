import MultiCluster.Json.Basic
import MultiCluster.Text.Base64

/-!
# Bytes

Sequences of bytes, which JSON gives as texts in base 64, and maps from texts to them. `ofJson?_toJson` says that
bytes read back.
-/

namespace MultiCluster

/-- A sequence of bytes. -/
abbrev Bytes := List UInt8

namespace Bytes

/-- Reads bytes; `null` stands for none. -/
def ofJson? : Json → Option Bytes
  | .null => some []
  | .text s => Text.Base64.decode s.toList
  | _ => none

/-- The text of bytes in base 64. -/
def toJson (bytes : Bytes) : Json :=
  .text (String.ofList (Text.Base64.encode bytes))

/-- Bytes read back from their text. -/
theorem ofJson?_toJson (bytes : Bytes) : ofJson? bytes.toJson = some bytes := by
  simp [ofJson?, toJson, Text.Base64.decode_encode]

/-- The text that a sequence of bytes encodes in UTF-8. -/
def toText? (bytes : Bytes) : Option String :=
  String.fromUTF8? ⟨bytes.toArray⟩

/-- The bytes of a text in UTF-8. -/
def ofText (s : String) : Bytes :=
  s.toUTF8.data.toList

end Bytes

/-- A map from texts to bytes; a key's value is the one of its first pair. -/
abbrev BytesMap := List (String × Bytes)

/-- Reads a map from texts to bytes; the last of several members with one key comes first. -/
def BytesMap.ofJson? (j : Json) : Option BytesMap := do
  let members ← j.asObject?
  members.reverse.mapM fun m => (Bytes.ofJson? m.2).map fun bytes => (m.1, bytes)

/-- The object of a map. -/
def BytesMap.toJson (m : BytesMap) : Json :=
  .object (m.map fun p => (p.1, Bytes.toJson p.2))

end MultiCluster
