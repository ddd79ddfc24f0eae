import MultiCluster.Api.Wire
import MultiCluster.Discovery.Introspection
import MultiCluster.Join.Requirements

/-!
# The collaborators of a join on an API server

Discovery, the requirements, the credentials and the registration, as calls to an API server.
-/

namespace MultiCluster.Api

/-! ### Discovery -/

/-- What became of the transient service: a server that finds the object invalid has refused it. -/
def probeOutcome : Except ApiFailure Service → Except Failure ProbeOutcome
  | .ok service => .ok (.created probeServiceName service.clusterIp)
  | .error (.status state message reason code) =>
    if code = 422 ∨ code = 400 then .ok (.rejected message)
    else .error (.kubernetes (.status state message reason code))
  | .error e => .error (.kubernetes e)

/-- A service that is gone is deleted. -/
def deletion : Except ApiFailure Unit → Except Failure Unit
  | .ok () => .ok ()
  | .error e => if e.code? = some 404 then .ok () else .error (.kubernetes e)

/-- Answers a request of discovery. -/
def introspect : (q : Introspection.Query) → Program interface (Except Failure q.Result)
  | .configMap space name => (lookup (.configMap space name)).toProgram
  | .pods selector => (call (.pods selector)).toProgram
  | .service space name =>
    (request (.service space name)).bind fun r => .done (toFailure ((toOption r).map Option.isSome))
  | .openShiftNetwork => (lookup .clusterNetwork).toProgram
  | .createProbe space => (request (.createService space)).bind fun r => .done (probeOutcome r)
  | .deleteProbe space name => (request (.deleteService space name)).bind fun r => .done (deletion r)

/-- A task of discovery. -/
def onCluster (t : Task Introspection.interface α) : Task interface α :=
  Task.ofProgram (t.toProgram.interpret introspect)

/-! ### Requirements -/

/-- The requirements that the cluster does not fulfil. -/
def checkRequirements : Task interface (List String) := do
  let version : String × String ← call .version
  return (Requirements.checkVersion version.1 version.2).toList

/-! ### Credentials -/

/-- Answers a request for a credential from the secrets of a namespace. -/
def fetchCredential (space : String) : Credential.Query → Program interface (Except Failure (Option Credential))
  | .fetch identity =>
    (request (.secrets space)).bind fun r =>
      .done ((toFailure r).map fun secrets => Credential.ofSecrets? identity secrets)

/-- A task on the credentials of a namespace. -/
def onCredentials (space : String) (t : Task Credential.interface α) : Task interface α :=
  Task.ofProgram (t.toProgram.interpret (fetchCredential space))

/-! ### Registration -/

/-- What a failed registration means. -/
def registered (cluster : String) : Except ApiFailure Unit → Except Failure Unit
  | .ok () => .ok ()
  | .error e => .error (.registration cluster e.message)

/-- Registers a cluster at a broker. -/
def register (broker : Broker) (network : ResolvedNetwork) (credential : Credential) : Task interface Unit :=
  Task.ofProgram ((request (.applyRegistration (.of network credential broker))).bind fun r =>
    .done (registered network.cluster r))

end MultiCluster.Api
