import MultiCluster.Discovery.CommandLine
import MultiCluster.Discovery.Network

/-!
# The generic fallback

Without a known plugin only the service range can be learnt: from the command line of the API server, or from the
message with which the cluster refuses a service whose address lies in no range.
-/

namespace MultiCluster.Discovery

/-- The namespace of the transient service. -/
def probeNamespace : String := "default"

/-- What stands before the range in the message. -/
def rangeMarker : String := "valid IPs is "

/-- The punctuation that may follow the range. -/
def isPunctuation (c : Char) : Bool :=
  c == '.' || c == ',' || c == '"'

/-- The range that a message names behind the last marker: the next word without the punctuation at its end, if
it has a slash. -/
def parseServiceRange (message : String) : Option String := do
  let tail ← Text.afterLast? rangeMarker.toList message.toList
  let word ← (Text.words tail).head?
  let range := Text.dropEnd isPunctuation word
  if range.contains '/' then some (String.ofList range) else none

/-- Learns the service range from the fate of the transient service, which is deleted if it was created. -/
def serviceCidrFromProbe : Task Introspection.interface (Option String) := do
  match ← Introspection.createProbe probeNamespace with
  | .rejected message => return parseServiceRange message
  | .created name _ =>
    Introspection.deleteProbe probeNamespace name
    return none

/-- Discovers the service range of a cluster without a known plugin. -/
def discoverGeneric : Task Introspection.interface (Option ClusterNetwork) := do
  let cidr ← match ← findServiceCidr with
    | some cidr => pure (some cidr)
    | none => serviceCidrFromProbe
  return cidr.map fun cidr => { plugin := .generic, serviceCidrs := [cidr] }

end MultiCluster.Discovery
