import MultiCluster.Discovery.Generic
import MultiCluster.Discovery.Probe

/-!
# Discovery

The first probe whose signature is there decides. If there is none, the generic fallback is tried. A failed
request ends discovery with a failure that names the probe.
-/

namespace MultiCluster.Discovery

/-- Runs a step of discovery under the name of its probe. -/
def named (probe : String) (t : Task Introspection.interface α) : Task Introspection.interface α :=
  t.mapFailure fun e => .discovery probe e.message

/-- Tries probes in order, and then the generic fallback. -/
def discoverWith : List Probe → Task Introspection.interface (Option ClusterNetwork)
  | [] => named "generic" discoverGeneric
  | p :: ps => do
    match ← named p.name p.detect with
    | some network => return some network
    | none => discoverWith ps

/-- Discovers the network of a cluster. -/
def discover : Task Introspection.interface (Option ClusterNetwork) :=
  discoverWith Probe.order

end MultiCluster.Discovery
