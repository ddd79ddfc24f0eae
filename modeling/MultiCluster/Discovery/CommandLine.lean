import MultiCluster.Discovery.Introspection
import MultiCluster.Json.Reader
import MultiCluster.Text.Blank
import MultiCluster.Text.Search

/-!
# What command lines and configurations reveal

The flags of control-plane processes, the environments of containers, and the network configuration that flannel
keeps under `net-conf.json`.
-/

namespace MultiCluster

/-! ### Flags -/

/-- The words of the command lines of a pod. An argument may hold a whole line. -/
def Pod.commandWords (p : Pod) : List (List Char) :=
  p.containers.flatMap fun c => (c.command ++ c.args).flatMap fun arg => Text.words arg.toList

/-- The value of a flag in a command line: what follows the first `flag=`, or the word behind `flag`. -/
def flagValue? (flag : List Char) : List (List Char) → Option (List Char)
  | [] => none
  | w :: ws =>
    if w = flag then ws.head?
    else match Text.stripStart? (flag ++ ['=']) w with
      | some value => some value
      | none => flagValue? flag ws

/-- The value of a flag in a pod's command lines, if it is not empty. -/
def Pod.commandParameter (p : Pod) (flag : String) : Option String :=
  ((flagValue? flag.toList p.commandWords).filter fun value => !value.isEmpty).map String.ofList

/-- The value of the first environment variable of a pod with a name, if it is not empty. -/
def Pod.envValue? (p : Pod) (name : String) : Option String :=
  (((p.containers.flatMap Container.env).find? fun v => v.name == name).bind Variable.value).filter
    fun value => value != ""

/-! ### Configurations -/

/-- The key of the network configuration of flannel. -/
def netConfKey : String := "net-conf.json"

/-- The pod range in the network configuration of flannel, if it is not empty. -/
def ConfigMap.netConfNetwork (c : ConfigMap) : Option String := do
  let raw ← c.get? netConfKey
  let fields ← (← Json.read? raw).fields? ["Network"]
  let network ← fields.optional "Network" Json.asText?
  network.filter fun n => n != ""

/-! ### Lookups -/

namespace Discovery

/-- The value of a flag on the first pod that sets it, among those that a selector matches. -/
def findFlag (selector flag : String) : Task Introspection.interface (Option String) := do
  let pods ← Introspection.pods selector
  return pods.findSome? fun pod => pod.commandParameter flag

/-- The service range on the command line of the API server. -/
def findServiceCidr : Task Introspection.interface (Option String) :=
  findFlag "component=kube-apiserver" "--service-cluster-ip-range"

/-- The pod range on the command line of the controller manager, or else of the proxy. -/
def findPodCidr : Task Introspection.interface (Option String) := do
  match ← findFlag "component=kube-controller-manager" "--cluster-cidr" with
  | some cidr => return some cidr
  | none => findFlag "k8s-app=kube-proxy" "--cluster-cidr"

end Discovery

end MultiCluster
