import MultiCluster.Object.ConfigMap
import MultiCluster.Object.Pod
import MultiCluster.Program

/-!
# Looking into a cluster

What discovery may ask of a cluster. A lookup that finds nothing is answered by none, and a failure always means
that the lookup itself failed. Two requests change the cluster: they create and delete a transient service.
-/

namespace MultiCluster

/-- What became of the transient service. -/
inductive ProbeOutcome where
  /-- The cluster refused it with a message. -/
  | rejected (message : String)
  /-- The cluster created it, possibly with an address; it must be deleted. -/
  | created (name : String) (clusterIp : Option String)
  deriving DecidableEq, Repr

namespace Introspection

/-- What discovery may ask of a cluster. -/
inductive Query where
  | configMap (space name : String)
  /-- The pods of all namespaces that a label selector matches. -/
  | pods (selector : String)
  /-- Whether a service exists. -/
  | service (space name : String)
  /-- The document that configures the network of an OpenShift cluster. -/
  | openShiftNetwork
  | createProbe (space : String)
  | deleteProbe (space name : String)
  deriving DecidableEq, Repr

/-- The answer to a request that succeeds. -/
def Query.Result : Query → Type
  | configMap _ _ => Option ConfigMap
  | pods _ => List Pod
  | service _ _ => Bool
  | openShiftNetwork => Option Json
  | createProbe _ => ProbeOutcome
  | deleteProbe _ _ => Unit

/-- The requests that only read. -/
def Query.isRead : Query → Bool
  | createProbe _ | deleteProbe _ _ => false
  | _ => true

/-- The requests to a cluster. -/
def interface : Interface where
  Query := Query
  Reply q := Except Failure q.Result

/-- Makes a request to the cluster. -/
def ask (q : Query) : Task interface q.Result :=
  Task.ofProgram (Program.request (I := interface) q)

/-- A configuration map, if it exists. -/
def configMap (space name : String) : Task interface (Option ConfigMap) :=
  ask (.configMap space name)

/-- The pods that a label selector matches. -/
def pods (selector : String) : Task interface (List Pod) :=
  ask (.pods selector)

/-- Whether a service exists. -/
def service (space name : String) : Task interface Bool :=
  ask (.service space name)

/-- The document that configures the network of an OpenShift cluster, if there is one. -/
def openShiftNetwork : Task interface (Option Json) :=
  ask .openShiftNetwork

/-- Submits the transient service. -/
def createProbe (space : String) : Task interface ProbeOutcome :=
  ask (.createProbe space)

/-- Deletes the transient service. -/
def deleteProbe (space name : String) : Task interface Unit :=
  ask (.deleteProbe space name)

end Introspection

end MultiCluster
