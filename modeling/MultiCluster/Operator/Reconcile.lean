import MultiCluster.Api.Clients
import MultiCluster.Api.Ledger
import MultiCluster.Join.Attempt
import MultiCluster.Operator.Gateway

/-!
# Reconciling a membership

One reconciliation does what a membership asks for: it sets up the ledger of the broker domain, labels a gateway,
and makes one attempt to join. What happens is published as events. In the end the phase of the membership is set
if it changed, and the membership is looked at again after some time.
-/

namespace MultiCluster.Operator

/-! ### Collaborators -/

/-- The cluster that a call goes to. -/
inductive Site where
  /-- The cluster that the membership is about. -/
  | own
  /-- The cluster that hosts the broker domain. -/
  | broker
  deriving DecidableEq, Repr

/-- What a reconciliation may ask for. -/
inductive Query where
  | call (site : Site) (c : Api.Call)
  | publish (event : Event)

/-- The answer to a request. -/
def Query.Reply : Query → Type
  | call _ c => Api.interface.Reply c
  | publish _ => Unit

/-- The requests of a reconciliation. -/
def interface : Interface where
  Query := Query
  Reply := Query.Reply

/-- A program of calls to the API server of a cluster. -/
def atSite (site : Site) (p : Program Api.interface α) : Program interface α :=
  p.interpret fun c => Program.request (I := interface) (.call site c)

/-- A task on the API server of a cluster. -/
def onSite (site : Site) (t : Task Api.interface α) : Task interface α :=
  Task.ofProgram (atSite site t.toProgram)

/-- Publishes an event. -/
def publish (event : Event) : Program interface Unit :=
  Program.request (I := interface) (.publish event)

/-- Publishes that something went well. -/
def report (reason action note : String) : Program interface Unit :=
  publish { type := .normal, reason, action, note := some note }

/-- Publishes that something failed. -/
def warn (reason action note : String) : Program interface Unit :=
  publish { type := .warning, reason, action, note := some note }

/-! ### The broker -/

/-- A line about a ledger that is set up. -/
def brokerNote (r : Record) : String :=
  "globalnet " ++ (if r.enabled then "enabled" else "disabled") ++ " on " ++ r.supernet.toText ++ " (" ++
    toString r.entries.length ++ " clusters assigned)"

/-- Sets up the ledger of the broker domain. -/
def deployBroker (broker : Broker) (config : BrokerConfig) : Task interface Unit :=
  Task.ofProgram do
    let result ← (onSite .broker (Api.LedgerClient.onLedger broker.space
      (Allocator.establish config.supernet config.blockSize config.globalAddressing))).toProgram
    match result with
    | .ok record =>
      report Event.brokerReady Event.deployingBroker (brokerNote record)
      return .ok ()
    | .error e =>
      warn Event.brokerFailed Event.deployingBroker e.message
      return .error e

/-! ### Joining -/

/-- Answers a request of an attempt to join. Nothing is registered unless the clusters are connected. -/
def collaborate (broker : Broker) (connectivity : Bool) : (q : Join.Query) → Program interface q.Reply
  | .cluster q => atSite .own (Api.introspect q)
  | .requirements => atSite .own Api.checkRequirements.toProgram
  | .ledger q => atSite .broker (Api.LedgerClient.answer broker.space q)
  | .credential q => atSite .broker (Api.fetchCredential broker.space q)
  | .register network credential =>
    if connectivity then atSite .own (Api.register broker network credential).toProgram
    else .done (.ok ())

/-- How attempts are made: the ledger is the one of the broker. -/
def plan (broker : Broker) : Join.Plan where
  allocator := some { ledgerName := Api.LedgerClient.ledgerName broker.space }

/-- A line about the addressing of a cluster. -/
def networkNote (n : ResolvedNetwork) : String :=
  "plugin " ++ n.plugin ++ ", service CIDR " ++ n.serviceCidr.cidr ++ ", cluster CIDR " ++ n.clusterCidr.cidr

/-- A line about a failed attempt. -/
def failureNote (phase : JoinPhase) (e : Failure) : String :=
  "failed in " ++ phase.name ++ " (" ++ e.kind ++ "): " ++ e.message

/-- Publishes the addressing that an attempt resolved. -/
def reportNetwork : Option ResolvedNetwork → Program interface Unit
  | none => .done ()
  | some network => do
    report Event.networkDiscovered Event.joining (networkNote network)
    match network.globalCidr with
    | some block => report Event.globalCidrAllocated Event.joining ("global CIDR " ++ block.toText)
    | none => return ()

/-- Publishes how an attempt ended. -/
def reportOutcome (o : JoinOutcome) : Program interface Unit := do
  reportNetwork o.resolved
  if o.phase = .succeeded then
    report Event.joinSucceeded Event.joining ("cluster " ++ o.cluster ++ " joined")
  else match o.failedIn, o.failure with
    | some phase, some e => warn Event.joinFailed Event.joining (failureNote phase e)
    | _, _ => return ()

/-- Labels a gateway and publishes which node it is. -/
def labelGateway : Task interface Unit := do
  match ← onSite .own Gateway.ensure with
  | some node =>
    Task.ofProgram do
      report Event.gatewayLabeled Event.joining ("labeled node " ++ node ++ " as gateway")
      return .ok ()
  | none => return ()

/-- Makes an attempt to join and publishes how it ended. -/
def attemptJoin (broker : Broker) (connectivity : Bool) (config : JoinConfig) : Task interface Unit :=
  Task.ofProgram do
    let o ← (Join.run (plan broker) config.toRequest).interpret (collaborate broker connectivity)
    reportOutcome o
    return o.toExcept.map fun _ => ()

/-- Joins the broker domain. -/
def join (broker : Broker) (spec : MembershipSpec) : Task interface Unit := do
  let some config := spec.join | throw (.malformed "joinConfig" "required to join")
  if config.labelGateway && spec.broker.connectivity then
    labelGateway
  attemptJoin broker spec.broker.connectivity config

/-! ### The membership -/

/-- Publishes that a membership cannot be done. -/
def reject (spec : MembershipSpec) (e : Failure) : Task interface Unit :=
  Task.ofProgram do
    warn (if spec.action.joins then Event.joinFailed else Event.brokerFailed) Event.reconciling e.message
    return .error e

/-- Does what a membership asks for. -/
def work (broker : Broker) (spec : MembershipSpec) : Task interface Unit :=
  match spec.validate with
  | .error e => reject spec e
  | .ok () => do
    if spec.action.deploysBroker then
      deployBroker broker spec.broker
    if spec.action.joins then
      join broker spec

/-- The phase after the work. -/
def phaseAfter : Except Failure Unit → MembershipPhase
  | .ok () => .running
  | .error _ => .failed

/-- Sets the phase of a membership, if it changed. -/
def setPhase (m : Membership) (phase : MembershipPhase) : Task interface Unit :=
  if m.status.map MembershipStatus.phase = some phase then return ()
  else onSite .own
    (Api.call (.setPhase (m.metadata.space.getD operatorNamespace) m.metadata.anyName phase))

/-- After how many seconds a membership is looked at again. -/
def requeueAfter : Except Failure Unit → Nat
  | .ok () => 300
  | .error _ => 60

/-- After how many seconds a membership is looked at again if its phase could not be set. -/
def requeueAfterFailure : Nat := 5

/-- Reconciles a membership. Returns after how many seconds it is looked at again. -/
def reconcile (broker : Broker) (m : Membership) : Task interface Nat := do
  let result ← Task.ofProgram ((work broker m.spec).toProgram.bind fun r => .done (.ok r))
  setPhase m (phaseAfter result)
  return requeueAfter result

/-! ### Setting up -/

/-- Makes the membership resource known to an API server. -/
def installDefinition : Program Api.interface (Except String Unit) :=
  (Api.request .applyDefinition).bind fun
    | .ok () => .done (.ok ())
    | .error e => .done (.error ("failed to install " ++ Definition.name ++ " CRD: " ++ e.message))

/-- Publishes an event about an object on an API server. A failure to do so has no consequence. -/
def publishOn (controller : String) (about : TextMap) (event : Event) : Program Api.interface Unit :=
  (Api.request (.createEvent event about controller)).bind fun _ => .done ()

end MultiCluster.Operator
