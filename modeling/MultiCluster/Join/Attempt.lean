import MultiCluster.Allocation.Allocator
import MultiCluster.Discovery.Discover
import MultiCluster.Join.Credential
import MultiCluster.Join.Request
import MultiCluster.Join.Requirements

/-!
# Join attempts

An attempt to join a cluster goes through four phases. It discovers the network of the cluster and resolves the
addressing; it validates the request and the requirements; it commits a global block, if there is an allocator;
and it registers the cluster with the credential, which is awaited on the way into that phase. The first step that
fails ends the attempt. What was committed stays committed, and a later attempt finds it again.

An attempt is a loop of transitions between states. Each transition leads to a state from which fewer transitions
can follow, so that the loop ends.
-/

namespace MultiCluster

/-- A phase of an attempt. -/
inductive JoinPhase where
  | discovering
  | validating
  | allocating
  | registering
  | succeeded
  | failed
  deriving DecidableEq, Repr

/-- The name of a phase. -/
def JoinPhase.name : JoinPhase → String
  | discovering => "Discovering"
  | validating => "Validating"
  | allocating => "Allocating"
  | registering => "Registering"
  | succeeded => "Succeeded"
  | failed => "Failed"

/-- The result of an attempt. -/
structure JoinOutcome where
  cluster : String
  /-- `succeeded` or `failed`. -/
  phase : JoinPhase
  /-- The phase in which the attempt failed. -/
  failedIn : Option JoinPhase := none
  /-- The addressing, as far as it was resolved. -/
  resolved : Option ResolvedNetwork := none
  failure : Option Failure := none

/-- The addressing of a joined cluster, or the failure that ended the attempt. -/
def JoinOutcome.toExcept (o : JoinOutcome) : Except Failure ResolvedNetwork :=
  match o.failure, o.resolved with
  | some e, _ => .error e
  | none, some network => .ok network
  | none, none => .error (.internal "join" ("attempt for " ++ o.cluster ++ " ended without a configuration"))

namespace Join

/-! ### Collaborators -/

/-- What an attempt may ask of its collaborators. -/
inductive Query where
  | cluster (q : Introspection.Query)
  /-- The requirements that the cluster does not fulfil. -/
  | requirements
  | ledger (q : Ledger.Query)
  | credential (q : Credential.Query)
  | register (network : ResolvedNetwork) (credential : Credential)

/-- The answer to a request. -/
def Query.Reply : Query → Type
  | cluster q => Introspection.interface.Reply q
  | requirements => Except Failure (List String)
  | ledger q => Ledger.interface.Reply q
  | credential q => Credential.interface.Reply q
  | register _ _ => Except Failure Unit

/-- The requests of an attempt. -/
def interface : Interface where
  Query := Query
  Reply := Query.Reply

/-- A task on the cluster that joins. -/
def onCluster (t : Task Introspection.interface α) : Task interface α :=
  Task.ofProgram (t.toProgram.interpret fun q => Program.request (I := interface) (.cluster q))

/-- A task on the ledger of the broker. -/
def onLedger (t : Task Ledger.interface α) : Task interface α :=
  Task.ofProgram (t.toProgram.interpret fun q => Program.request (I := interface) (.ledger q))

/-- A task on the source of credentials. -/
def onCredentials (t : Task Credential.interface α) : Task interface α :=
  Task.ofProgram (t.toProgram.interpret fun q => Program.request (I := interface) (.credential q))

/-- The requirements that the cluster does not fulfil. -/
def requirements : Task interface (List String) :=
  Task.ofProgram (Program.request (I := interface) .requirements)

/-- Registers a cluster. -/
def register (network : ResolvedNetwork) (credential : Credential) : Task interface Unit :=
  Task.ofProgram (Program.request (I := interface) (.register network credential))

/-- A collaborator without which there is no attempt. -/
inductive Collaborator where
  | cluster
  | requirements
  | credentials
  | registrar
  deriving DecidableEq, Repr

/-- What a collaborator is called. -/
def Collaborator.description : Collaborator → String
  | cluster => "cluster introspection"
  | requirements => "requirements checker"
  | credentials => "credential source"
  | registrar => "registrar"

/-- The collaborators in the order in which they are missed. -/
def Collaborator.all : List Collaborator := [cluster, requirements, credentials, registrar]

/-- Fails with the first collaborator that is missing. -/
def ensurePresent (present : List Collaborator) : Except Failure Unit :=
  match Collaborator.all.find? fun c => !present.contains c with
  | some c => .error (.internal "join" ("orchestrator built without " ++ c.description))
  | none => .ok ()

/-! ### States -/

/-- Where an attempt stands, with what it has found out so far. -/
inductive State where
  | discovering
  | validating (network : ResolvedNetwork)
  | allocating (network : ResolvedNetwork) (request : AllocationRequest)
  | registering (network : ResolvedNetwork) (credential : Credential)
  | succeeded (network : ResolvedNetwork)
  /-- The phase that failed, why it did, and the addressing as far as it was resolved. -/
  | failed (phase : JoinPhase) (failure : Failure) (network : Option ResolvedNetwork)

namespace State

def phase : State → JoinPhase
  | discovering => .discovering
  | validating _ => .validating
  | allocating _ _ => .allocating
  | registering _ _ => .registering
  | succeeded _ => .succeeded
  | failed _ _ _ => .failed

def isTerminal : State → Bool
  | succeeded _ | failed _ _ _ => true
  | _ => false

/-- How many transitions can follow at most. -/
def remaining : State → Nat
  | discovering => 4
  | validating _ => 3
  | allocating _ _ => 2
  | registering _ _ => 1
  | succeeded _ | failed _ _ _ => 0

end State

/-- A state that fewer than `n` transitions can follow. -/
def Later (n : Nat) := { s : State // s.remaining < n }

/-! ### Transitions -/

/-- How attempts are made. -/
structure Plan where
  /-- The allocator; without one there is no global block. -/
  allocator : Option Allocator
  /-- How long an attempt waits for the credential. -/
  backoff : Backoff := .credentialWait

/-- What an attempt asks of the allocator. -/
def allocationRequest (r : JoinRequest) (network : ResolvedNetwork) : AllocationRequest :=
  { cluster := r.cluster, blockSize := r.blockSize, plugin := some network.plugin : AllocationRequest }.claiming
    r.globalCidr

variable {n : Nat}

/-- Ends a transition in a state. -/
def enter (s : State) (h : s.remaining < n := by simp [State.remaining]) : Program interface (Later n) :=
  .done ⟨s, h⟩

/-- Goes on with the result of a task. A failure of the task ends the attempt in the given phase. -/
def proceed (phase : JoinPhase) (network : Option ResolvedNetwork) (t : Task interface α)
    (next : α → Program interface (Later (n + 1))) : Program interface (Later (n + 1)) :=
  t.toProgram.bind fun
    | .ok a => next a
    | .error e => enter (.failed phase e network)

/-- Discovers the network and resolves the addressing. -/
def discoverNetwork (r : JoinRequest) : Program interface (Later 4) :=
  proceed .discovering none (onCluster Discovery.discover) fun found =>
  proceed .discovering none (Task.ofExcept (resolveNetwork r found)) fun network =>
  enter (.validating network)

/-- Waits for the credential. Running out of patience fails the phase that comes next. -/
def awaitCredential (plan : Plan) (network : ResolvedNetwork) : Program interface (Later (n + 2)) :=
  proceed .registering network
    (onCredentials (Credential.wait plan.backoff (Credential.identityOf network.cluster))) fun credential =>
  enter (.registering network credential)

/-- Goes on with a request that fulfils the requirements. Without an allocator no allocation follows. -/
def prepareAllocation (plan : Plan) (r : JoinRequest) (network : ResolvedNetwork) : Program interface (Later 3) :=
  if plan.allocator.isNone then awaitCredential plan network
  else
    let request := allocationRequest r network
    proceed .validating network (Task.ofExcept request.validate) fun _ =>
    enter (.allocating network request)

/-- Checks the request and the requirements. -/
def validate (plan : Plan) (r : JoinRequest) (network : ResolvedNetwork) : Program interface (Later 3) :=
  proceed .validating network (Task.ofExcept r.validate) fun _ =>
  proceed .validating network requirements fun unmet =>
  proceed .validating network (Task.ofExcept (Requirements.ensureMet unmet)) fun _ =>
  prepareAllocation plan r network

/-- Commits a global block, if there is an allocator. -/
def allocate (plan : Plan) (network : ResolvedNetwork) (request : AllocationRequest) : Program interface (Later 2) :=
  match plan.allocator with
  | none => awaitCredential plan network
  | some allocator =>
    proceed .allocating network (onLedger (allocator.commit request)) fun block =>
    awaitCredential plan { network with globalCidr := block }

/-- Registers the cluster. If that fails, the block stays committed. -/
def registerCluster (network : ResolvedNetwork) (credential : Credential) : Program interface (Later 1) :=
  proceed .registering network (register network credential) fun _ =>
  enter (.succeeded network)

/-- One transition. -/
def transition (plan : Plan) (r : JoinRequest) :
    (s : State) → s.isTerminal = false → Program interface (Later s.remaining)
  | .discovering, _ => discoverNetwork r
  | .validating network, _ => validate plan r network
  | .allocating network request, _ => allocate plan network request
  | .registering network credential, _ => registerCluster network credential
  | .succeeded _, h => Bool.noConfusion h
  | .failed _ _ _, h => Bool.noConfusion h

/-! ### Attempts -/

/-- Makes transitions until the attempt has ended. -/
def drive (plan : Plan) (r : JoinRequest) (s : State) : Program interface State :=
  if h : s.isTerminal = true then .done s
  else (transition plan r s (Bool.eq_false_iff.mpr h)).bind fun t => drive plan r t.1
termination_by s.remaining
decreasing_by exact t.2

/-- The outcome of an attempt that stopped in a state. -/
def outcomeOf (cluster : String) : State → JoinOutcome
  | .succeeded network => { cluster, phase := .succeeded, resolved := some network }
  | .failed phase failure network =>
    { cluster, phase := .failed, failedIn := some phase, resolved := network, failure := some failure }
  | s =>
    { cluster, phase := .failed, failedIn := some s.phase,
      failure := some (.internal "join" "state machine stopped early") }

/-- Makes an attempt. -/
def run (plan : Plan) (r : JoinRequest) : Program interface JoinOutcome :=
  (drive plan r .discovering).bind fun s => .done (outcomeOf r.cluster s)

end Join

end MultiCluster
