import MultiCluster.Discovery.Introspection

/-!
# A described cluster

A cluster given by its objects, which answers discovery and keeps a log of the requests. Single requests can be
made to fail.
-/

namespace MultiCluster.Replay

/-- A cluster given by its objects; a configuration map is found under `namespace/name`. -/
structure Cluster where
  configMaps : List (String × Option TextMap) := []
  /-- The pods that a selector matches. -/
  pods : List (String × List Pod) := []
  services : List String := []
  openShiftNetwork : Option Json := none
  /-- What becomes of the transient service. -/
  probe : ProbeOutcome := .rejected ""
  /-- The failures of requests, by their text in the log. -/
  failures : List (String × Failure) := []

/-- A cluster together with the log of the requests made to it, latest first. -/
structure LoggedCluster where
  cluster : Cluster
  log : List String := []

/-- A request as it stands in the log. -/
def requestText : Introspection.Query → String
  | .configMap space name => "get_config_map " ++ space ++ "/" ++ name
  | .pods selector => "list_pods " ++ selector
  | .service space name => "get_service " ++ space ++ "/" ++ name
  | .openShiftNetwork => "get_openshift_network"
  | .createProbe space => "create_probe_service " ++ space
  | .deleteProbe space name => "delete_probe_service " ++ space ++ "/" ++ name

/-- What a cluster answers to a request that does not fail. -/
def Cluster.find (c : Cluster) : (q : Introspection.Query) → q.Result
  | .configMap space name => (c.configMaps.lookup (space ++ "/" ++ name)).map fun data => { data }
  | .pods selector => (c.pods.lookup selector).getD []
  | .service space name => c.services.contains (space ++ "/" ++ name)
  | .openShiftNetwork => c.openShiftNetwork
  | .createProbe _ => c.probe
  | .deleteProbe _ _ => ()

/-- What a cluster answers to a request. -/
def Cluster.answer (c : Cluster) (q : Introspection.Query) : Except Failure q.Result :=
  match c.failures.lookup (requestText q) with
  | some e => .error e
  | none => .ok (c.find q)

/-- A cluster as the world of discovery. -/
def LoggedCluster.world : Program.World Introspection.interface LoggedCluster where
  answer q s := (s.cluster.answer q, { s with log := requestText q :: s.log })

end MultiCluster.Replay
