import MultiCluster.Discovery.CommandLine
import MultiCluster.Discovery.Network

/-!
# Probes

A probe looks for the object that marks one plugin, its signature, and reads the ranges from what it finds.
-/

namespace MultiCluster

/-- A probe for one plugin. -/
inductive Probe where
  | openShift
  | weaveNet
  | canalFlannel
  | ovnKubernetes
  | flannel
  | calico
  deriving DecidableEq, Repr

/-- The object by which a probe recognises its plugin. -/
inductive Signature where
  | configMap (c : ConfigMap)
  | pod (p : Pod)
  | networkConfig (document : Json)

namespace Probe

/-- The probes in the order in which they are tried. -/
def order : List Probe := [openShift, weaveNet, canalFlannel, ovnKubernetes, flannel, calico]

/-- The name of a probe in failures. -/
def name : Probe → String
  | openShift => "openshift"
  | weaveNet => "weave-net"
  | canalFlannel => "canal-flannel"
  | ovnKubernetes => "ovn-kubernetes"
  | flannel => "flannel"
  | calico => "calico"

/-- The probe with a name. -/
def ofName? (s : String) : Option Probe :=
  order.find? fun p => p.name == s

/-- The plugin that a probe recognises. -/
def plugin : Probe → NetworkPlugin
  | openShift => .openShiftSdn
  | weaveNet => .weaveNet
  | canalFlannel => .canalFlannel
  | ovnKubernetes => .ovnKubernetes
  | flannel => .flannel
  | calico => .calico

/-! ### Signatures -/

/-- The first pod that a selector matches. -/
def firstPod (selector : String) : Task Introspection.interface (Option Signature) := do
  let pods ← Introspection.pods selector
  return pods.head?.map .pod

/-- A configuration map of the system. -/
def systemConfigMap (name : String) : Task Introspection.interface (Option Signature) := do
  let found ← Introspection.configMap "kube-system" name
  return found.map .configMap

/-- Looks for the signature of a probe's plugin. -/
def signature : Probe → Task Introspection.interface (Option Signature)
  | openShift => do
    let found ← Introspection.openShiftNetwork
    return found.map .networkConfig
  | weaveNet => firstPod "name=weave-net"
  | canalFlannel => systemConfigMap "canal-config"
  | ovnKubernetes => firstPod "name=ovnkube-db"
  | flannel => systemConfigMap "kube-flannel-cfg"
  | calico => systemConfigMap "calico-config"

/-! ### Extraction -/

/-- The network that an OpenShift document describes. -/
def openShiftNetwork (document : Json) : ClusterNetwork :=
  let spec := document.get "spec"
  { plugin := if (spec.get "networkType").asText? = some "OVNKubernetes" then .ovnKubernetes else .openShiftSdn
    podCidrs := (spec.get "clusterNetwork").items.filterMap fun e => (e.get "cidr").asText?
    serviceCidrs := (spec.get "serviceNetwork").items.filterMap Json.asText? }

/-- The name of the database service of OVN. -/
def ovnService : String := "ovnkube-db"

/-- The address of one of the databases of OVN, by the number of its socket. -/
def ovnAddress (protocol space number : String) : String :=
  protocol ++ ":" ++ ovnService ++ "." ++ space ++ ":" ++ number

/-- How the databases of OVN are reached: in plain, unless the pod asks for encryption. -/
def ovnProtocol (pod : Pod) : String :=
  match pod.envValue? "OVN_SSL_ENABLE" with
  | some v => if Text.equalIgnoringCase v "no" then "tcp" else "ssl"
  | none => "tcp"

/-- The network of the cluster whose OVN database runs in a pod. -/
def ovnNetwork (pod : Pod) : Task Introspection.interface ClusterNetwork := do
  let network : ClusterNetwork := { plugin := .ovnKubernetes }
  let some space := pod.metadata.space | return network
  if !(← Introspection.service space ovnService) then
    return network
  let protocol := ovnProtocol pod
  let network := (network.withSetting "OVN_NBDB" (ovnAddress protocol space "6641")).withSetting "OVN_SBDB"
    (ovnAddress protocol space "6642")
  let found ← Introspection.configMap space "ovn-config"
  match found.bind ConfigMap.data with
  | some data => return (network.withPodCidr (data.get? "net_cidr")).withServiceCidr (data.get? "svc_cidr")
  | none => return network

/-- Reads the network of a cluster from the signature of a probe's plugin. -/
def extract (p : Probe) (s : Signature) : Task Introspection.interface ClusterNetwork :=
  let network : ClusterNetwork := { plugin := p.plugin }
  match p, s with
  | openShift, .networkConfig document => return openShiftNetwork document
  | weaveNet, .pod pod => do
    return (network.withPodCidr (pod.envValue? "IPALLOC_RANGE")).withServiceCidr (← Discovery.findServiceCidr)
  | canalFlannel, .configMap c | flannel, .configMap c => do
    return (network.withPodCidr c.netConfNetwork).withServiceCidr (← Discovery.findServiceCidr)
  | ovnKubernetes, .pod pod => ovnNetwork pod
  | calico, .configMap _ => do
    let pods ← Discovery.findPodCidr
    return (network.withPodCidr pods).withServiceCidr (← Discovery.findServiceCidr)
  | _, _ => return network

/-- The network of the cluster, if a probe's plugin is there. -/
def detect (p : Probe) : Task Introspection.interface (Option ClusterNetwork) := do
  match ← p.signature with
  | some s => return some (← p.extract s)
  | none => return none

end Probe

end MultiCluster
