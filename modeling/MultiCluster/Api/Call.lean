import MultiCluster.Join.Registration
import MultiCluster.Object.ConfigMap
import MultiCluster.Object.Node
import MultiCluster.Object.Pod
import MultiCluster.Operator.Event
import MultiCluster.Operator.Membership
import MultiCluster.Program

/-!
# Calls to an API server

The calls that are made to an API server, with the kind of object that each is answered with. An answer that is
no such object is a failure.
-/

namespace MultiCluster.Api

/-- A call to an API server. -/
inductive Call where
  | configMap (space name : String)
  | createConfigMap (space : String) (object : ConfigMap)
  /-- Replaces an object whose version is the one that the new object carries. -/
  | replaceConfigMap (space name : String) (object : ConfigMap)
  | pods (selector : String)
  | service (space name : String)
  /-- Submits the transient service of discovery. -/
  | createService (space : String)
  | deleteService (space name : String)
  /-- The document that configures the network of an OpenShift cluster. -/
  | clusterNetwork
  /-- The secrets that hold tokens. -/
  | secrets (space : String)
  | version
  | applyRegistration (registration : Registration)
  | nodes
  /-- Labels a node as gateway. -/
  | labelNode (name : String)
  | setPhase (space name : String) (phase : MembershipPhase)
  | applyDefinition
  | createEvent (event : Event) (about : TextMap) (controller : String)

/-- The answer to a call that succeeds. -/
def Call.Result : Call → Type
  | configMap _ _ => ConfigMap
  | pods _ => List Pod
  | service _ _ => Service
  | createService _ => Service
  | clusterNetwork => Json
  | secrets _ => List Secret
  | version => String × String
  | nodes => List Node
  | _ => Unit

/-- The calls to an API server. -/
def interface : Interface where
  Query := Call
  Reply c := Except ApiFailure c.Result

/-- The failure that the failure of a call is. -/
def toFailure : Except ApiFailure α → Except Failure α
  | .ok a => .ok a
  | .error e => .error (.kubernetes e)

/-- Takes a missing object for none. -/
def toOption : Except ApiFailure α → Except ApiFailure (Option α)
  | .ok a => .ok (some a)
  | .error e => if e.isAbsent then .ok none else .error e

/-- Makes a call. -/
def request (c : Call) : Program interface (Except ApiFailure c.Result) :=
  Program.request (I := interface) c

/-- Makes a call. -/
def call (c : Call) : Task interface c.Result :=
  Task.ofProgram ((request c).bind fun r => .done (toFailure r))

/-- Makes a call for an object that may be missing. -/
def lookup (c : Call) : Task interface (Option c.Result) :=
  Task.ofProgram ((request c).bind fun r => .done (toFailure (toOption r)))

end MultiCluster.Api
