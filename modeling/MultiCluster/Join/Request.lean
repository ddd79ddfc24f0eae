import MultiCluster.ClusterId
import MultiCluster.Discovery.Network
import MultiCluster.Net.Cidr
import MultiCluster.Text.Blank

/-!
# Join requests

What is asked for when a cluster joins, and the addressing that results from the request and from discovery: a
range that the request names wins over a discovered one.
-/

namespace MultiCluster

/-- What is asked for when a cluster joins. -/
structure JoinRequest where
  cluster : String
  /-- The range of the services, if it is not to be discovered. -/
  serviceCidr : Option String := none
  /-- The range of the pods, if it is not to be discovered. -/
  clusterCidr : Option String := none
  /-- The global block to claim, if none is to be drawn. -/
  globalCidr : Option String := none
  /-- The number of global addresses, if not the default one. -/
  blockSize : Option UInt64 := none
  deriving DecidableEq

/-- A range, and whether it was discovered. -/
structure ResolvedCidr where
  cidr : String
  autoDetected : Bool
  deriving DecidableEq, Repr

/-- What a registration needs to know about the addressing of a cluster. -/
structure ResolvedNetwork where
  cluster : String
  serviceCidr : ResolvedCidr
  clusterCidr : ResolvedCidr
  /-- The global block; none if global addressing is not in use. -/
  globalCidr : Option Network := none
  /-- The name of the network plugin. -/
  plugin : String
  deriving DecidableEq

namespace JoinRequest

/-- Checks a range that a request names. -/
def checkCidr (field : String) : Option String → Except Failure Unit
  | none => .ok ()
  | some cidr =>
    if Net.isCidr (Text.trim cidr) then .ok ()
    else .error (.malformed field (Text.quoted cidr ++ " is not a CIDR: invalid IP address syntax"))

/-- Checks the identity of the cluster, and that every range that the request names is one. -/
def validate (r : JoinRequest) : Except Failure Unit := do
  ClusterId.validate r.cluster
  checkCidr "serviceCIDR" r.serviceCidr
  checkCidr "clusterCIDR" r.clusterCidr
  checkCidr "globalnetCIDR" r.globalCidr

end JoinRequest

/-- A text that is not blank, without the blanks around it. -/
def meaningful? (s : Option String) : Option String :=
  (s.map Text.trim).filter fun c => c != ""

/-- The range of a kind: the one that is named, or else the first discovered one. -/
def resolveCidr (kind : String) (explicit : Option String) (discovered : List String) :
    Except Failure ResolvedCidr :=
  match meaningful? explicit, discovered.head? with
  | some cidr, _ => .ok { cidr, autoDetected := false }
  | none, some cidr => .ok { cidr, autoDetected := true }
  | none, none => .error (.noCidr kind)

/-- The addressing that results from a request and from discovery. -/
def resolveNetwork (r : JoinRequest) (n : Option ClusterNetwork) : Except Failure ResolvedNetwork := do
  let serviceCidr ← resolveCidr "service" r.serviceCidr (n.elim [] ClusterNetwork.serviceCidrs)
  let clusterCidr ← resolveCidr "cluster" r.clusterCidr (n.elim [] ClusterNetwork.podCidrs)
  let plugin := n.elim NetworkPlugin.generic ClusterNetwork.plugin
  return { cluster := r.cluster, serviceCidr, clusterCidr, plugin := plugin.name }

end MultiCluster
