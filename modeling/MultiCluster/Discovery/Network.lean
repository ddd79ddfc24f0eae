import MultiCluster.Text.Map

/-!
# Discovered networks

What discovery finds out about the network of a cluster.
-/

namespace MultiCluster

/-- The plugin that provides the pod network of a cluster. -/
inductive NetworkPlugin where
  /-- No plugin was identified. -/
  | generic
  | flannel
  | weaveNet
  | calico
  | ovnKubernetes
  | openShiftSdn
  | canalFlannel
  deriving DecidableEq, Repr

namespace NetworkPlugin

/-- The name by which a registration knows a plugin. -/
def name : NetworkPlugin → String
  | generic => "generic"
  | flannel => "flannel"
  | weaveNet => "weave-net"
  | calico => "calico"
  | ovnKubernetes => "OVNKubernetes"
  | openShiftSdn => "OpenShiftSDN"
  | canalFlannel => "canal-flannel"

/-- All plugins. -/
def all : List NetworkPlugin :=
  [generic, flannel, weaveNet, calico, ovnKubernetes, openShiftSdn, canalFlannel]

/-- The plugin with a name. -/
def ofName? (s : String) : Option NetworkPlugin :=
  all.find? fun p => p.name == s

end NetworkPlugin

/-- The network of a cluster. -/
structure ClusterNetwork where
  plugin : NetworkPlugin
  /-- The ranges of the pods, in the order of discovery. -/
  podCidrs : List String := []
  /-- The ranges of the services, in the order of discovery. -/
  serviceCidrs : List String := []
  /-- What else a registration needs to know about the plugin. -/
  settings : TextMap := .empty
  deriving DecidableEq, Repr

namespace ClusterNetwork

/-- The network with one more pod range, if there is one. -/
def withPodCidr (n : ClusterNetwork) (cidr : Option String) : ClusterNetwork :=
  { n with podCidrs := n.podCidrs ++ cidr.toList }

/-- The network with one more service range, if there is one. -/
def withServiceCidr (n : ClusterNetwork) (cidr : Option String) : ClusterNetwork :=
  { n with serviceCidrs := n.serviceCidrs ++ cidr.toList }

/-- The network with a setting. -/
def withSetting (n : ClusterNetwork) (key value : String) : ClusterNetwork :=
  { n with settings := n.settings.insert key value }

/-- One line about a network. -/
def summary (n : ClusterNetwork) : String :=
  "plugin=" ++ n.plugin.name ++ " pods=[" ++ ",".intercalate n.podCidrs ++ "] services=[" ++
    ",".intercalate n.serviceCidrs ++ "]"

end ClusterNetwork

end MultiCluster
