import MultiCluster.Json.Decode
import MultiCluster.Json.Reader
import MultiCluster.Json.Writer
import MultiCluster.Ledger.Record
import MultiCluster.Text.Blank
import MultiCluster.Text.Map

/-!
# The stored form of a record

A record is stored as a map with four keys: `globalnetEnabled` holds `true` or `false`, `globalnetCidrRange` the
supernet as a quoted JSON text, `globalnetClusterSize` the default block size in decimal, and `clusterinfo` the
entries as an indented JSON array. Reading is more lenient: blanks around the values are ignored, the supernet
may stand without quotes, and a disabled record needs only its flag.
-/

namespace MultiCluster

namespace Record

/-- The key of the flag. -/
def enabledKey : String := "globalnetEnabled"

/-- The key of the supernet. -/
def supernetKey : String := "globalnetCidrRange"

/-- The key of the default block size. -/
def blockSizeKey : String := "globalnetClusterSize"

/-- The key of the entries. -/
def entriesKey : String := "clusterinfo"

/-- The four keys of the stored form. -/
def keys : List String := [enabledKey, supernetKey, blockSizeKey, entriesKey]

/-- The supernet of a disabled record that names none. -/
def standardSupernet : String := "242.0.0.0/8"

/-- The default block size of a disabled record that names none. -/
def standardBlockSize : UInt64 := 65536

end Record

/-! ### Entries as JSON values -/

namespace Entry

/-- An entry as a JSON object. -/
def toJson (e : Entry) : Json :=
  .object <|
    ("cluster_id", .text e.cluster) ::
      (match e.plugin with
        | some plugin => [("network_plugin", .text plugin)]
        | none => []) ++
      [("global_cidr", .ofTexts (e.blocks.map Network.toText))]

/-- Reads a network from its text. -/
def blockOfJson? (j : Json) : Option Network :=
  j.asText?.bind Network.ofText?

/-- Reads an entry: the cluster is required, no plugin and no blocks are the defaults. -/
def ofJson? (j : Json) : Option Entry := do
  let f ← j.fields? ["cluster_id", "network_plugin", "global_cidr"]
  let cluster ← f.required "cluster_id" Json.asText?
  let plugin ← f.optional "network_plugin" Json.asText?
  let blocks ← f.orElse "global_cidr" [] (Json.list? blockOfJson?)
  return { cluster, plugin, blocks }

end Entry

namespace Record

/-! ### Writing -/

/-- The stored form of a record. -/
def toData (r : Record) : TextMap where
  pairs := [
    (enabledKey, if r.enabled then "true" else "false"),
    (supernetKey, (Json.text r.supernet.toText).compact),
    (blockSizeKey, toString r.defaultBlockSize.toNat),
    (entriesKey, (Json.array (r.entries.map Entry.toJson)).indented)]

/-! ### Reading -/

/-- The failure for a key without a value. -/
def missing (key : String) : Failure :=
  .serialization ("missing key " ++ key)

/-- The failure for a key with a value that cannot be read. -/
def invalid (key detail : String) : Failure :=
  .serialization ("invalid " ++ key ++ ": " ++ detail)

/-- Reads the flag. -/
def readEnabled (data : TextMap) : Except Failure Bool :=
  match data.get? enabledKey with
  | none => .error (missing enabledKey)
  | some raw =>
    let value := Text.trim raw
    if value = "true" then .ok true
    else if value = "false" then .ok false
    else .error (invalid enabledKey (Text.quoted value))

/-- The value of a key that has a default in a disabled record. -/
def setting (data : TextMap) (enabled : Bool) (key default : String) : Except Failure String :=
  match data.get? key with
  | some raw => .ok raw
  | none => if enabled then .error (missing key) else .ok default

/-- The text that a value holds in JSON quotes, or else the value itself. -/
def unquote (raw : String) : String :=
  ((Json.read? raw).bind Json.asText?).getD raw

/-- Reads the supernet. -/
def readSupernet (data : TextMap) (enabled : Bool) : Except Failure Network := do
  let raw ← setting data enabled supernetKey standardSupernet
  let range := unquote raw
  match Network.ofText? (Text.trim range) with
  | some net => .ok net
  | none => .error (invalid supernetKey (Text.quoted range ++ ": invalid IP address syntax"))

/-- Reads the default block size. -/
def readBlockSize (data : TextMap) (enabled : Bool) : Except Failure UInt64 := do
  let raw ← setting data enabled blockSizeKey (toString standardBlockSize.toNat)
  match Text.Decimal.read Text.Decimal.wordLimit (Text.trim raw) with
  | .ok n => .ok (UInt64.ofNat n)
  | .error flaw => .error (invalid blockSizeKey (Text.quoted raw ++ ": " ++ flaw.message))

/-- Reads the entries; a missing or blank value stands for none. -/
def readEntries (data : TextMap) : Except Failure (List Entry) :=
  match (data.get? entriesKey).map Text.trim with
  | none => .ok []
  | some raw =>
    if raw = "" then .ok []
    else match (Json.read? raw).bind (Json.list? Entry.ofJson?) with
      | some entries => .ok entries
      | none => .error (invalid entriesKey "<detail>")

/-- Reads a record from its stored form. Keys other than the four are ignored. -/
def ofData (data : TextMap) : Except Failure Record := do
  let enabled ← readEnabled data
  let supernet ← readSupernet data enabled
  let defaultBlockSize ← readBlockSize data enabled
  let entries ← readEntries data
  return { enabled, supernet, defaultBlockSize, entries }

end Record

end MultiCluster
