import MultiCluster.Proofs.Join.Shared
import MultiCluster.Proofs.Join.Waiting
import MultiCluster.Proofs.Operator.Events

/-!
# What a reconciliation may do

The requests of a reconciliation serve different purposes, and a membership permits only those that belong to what it
asks for. So a membership that does not pass the checks causes no request but for events and its status, a cluster that
only hosts the broker domain is not looked into, and nothing is written to a cluster unless the membership says so.

Main statement: `requests_are_permitted`.
-/

namespace MultiCluster.Operator

variable {α σ : Type} {broker : Broker} {config : BrokerConfig} {spec : MembershipSpec} {m : Membership}
  {es : List (Exchange interface)} {result : Except Failure Unit}

/-! ### Purposes -/

/-- What a request of a reconciliation is for. -/
inductive Purpose where
  /-- To create the ledger. -/
  | creation
  /-- To read the ledger. -/
  | reading
  /-- To replace the record of the ledger. -/
  | replacement
  | credential
  | discovery
  | requirements
  /-- To list the nodes. -/
  | listing
  /-- To label a node as gateway. -/
  | labeling
  | registration
  | status
  | event
  | other
  deriving DecidableEq, Repr

/-- What a call to the API server of the broker is for. -/
def brokerPurpose : Api.Call → Purpose
  | .createConfigMap _ _ => .creation
  | .configMap _ _ => .reading
  | .replaceConfigMap _ _ _ => .replacement
  | .secrets _ => .credential
  | _ => .other

/-- What a call to the API server of the own cluster is for. -/
def ownPurpose : Api.Call → Purpose
  | .configMap _ _ | .pods _ | .service _ _ | .clusterNetwork | .createService _ | .deleteService _ _ => .discovery
  | .version => .requirements
  | .nodes => .listing
  | .labelNode _ => .labeling
  | .applyRegistration _ => .registration
  | .setPhase _ _ _ => .status
  | _ => .other

def Query.purpose : Query → Purpose
  | .call .broker c => brokerPurpose c
  | .call .own c => ownPurpose c
  | .publish _ => .event

namespace Purpose

/-- The purposes of setting up the ledger. -/
def isSetup : Purpose → Bool
  | creation | reading => true
  | _ => false

/-- The purposes of labelling a gateway. -/
def isGateway : Purpose → Bool
  | listing | labeling => true
  | _ => false

/-- The purposes of an attempt to join, besides registering the cluster. -/
def isAttempt : Purpose → Bool
  | discovery | requirements | reading | replacement | credential => true
  | _ => false

/-- The purposes of telling how things stand. -/
def isNotice : Purpose → Bool
  | event | status => true
  | _ => false

end Purpose

/-- A membership permits events and setting its status in any case, and other purposes only if it passes the checks and
asks for what they belong to. -/
def Permits (spec : MembershipSpec) : Purpose → Prop
  | .creation => spec.validate = .ok () ∧ spec.action.deploysBroker = true
  | .reading => spec.validate = .ok ()
  | .replacement | .credential | .discovery | .requirements => spec.validate = .ok () ∧ spec.action.joins = true
  | .listing | .labeling => spec.validate = .ok () ∧ spec.action.joins = true ∧
      ∃ config, spec.join = some config ∧ config.labelGateway = true ∧ spec.broker.connectivity = true
  | .registration => spec.validate = .ok () ∧ spec.action.joins = true ∧ spec.broker.connectivity = true
  | .status | .event => True
  | .other => False

/-! ### The requests of the parts -/

private theorem requests_atSite {site : Site} {P : Query → Prop} {p : Program Api.interface α}
    (hp : p.Requests fun c => P (.call site c)) : (atSite site p).Requests (I := interface) P :=
  hp.interpret fun _ hc => Program.requests_request (I := interface) hc

private theorem requests_deploying : (deploying broker config).Requests (I := interface)
    fun q : Query => q.purpose.isSetup = true := by
  refine requests_atSite ((Allocator.establish_requests _ _ _).interpret fun q hq => ?_)
  rcases hq with rfl | ⟨record, rfl, -⟩
  · rw [Api.LedgerClient.answer, Api.LedgerClient.toProgram_read]
    exact .ask rfl fun _ => .done _
  · exact .ask rfl fun _ => .done _

private theorem requests_labeling : labeling.Requests (I := interface)
    fun q : Query => q.purpose.isGateway = true := by
  refine requests_atSite (Task.requests_bind (.ask rfl fun _ => .done _) fun nodes => ?_)
  split
  · refine Task.requests_bind (Backoff.requests_poll ?_ _ _ _ _) fun u => Task.requests_pure _
    exact .ask rfl fun _ => .done _
  · exact Task.requests_pure _

/-- An attempt never creates a ledger. -/
private theorem requests_run (plan : Join.Plan) (r : JoinRequest) : (Join.run plan r).Requests (I := Join.interface)
    fun q : Join.Query => ∀ record, q ≠ .ledger (.create record) := by
  refine Program.requests_of_trace fun h record hq => ?_
  subst hq
  cases Join.due_of_trace_run h with
  | ledger happlies hc =>
    rcases Join.decides_of_committing hc with hread | ⟨_, _, _, -, -, hwrite⟩
    · cases hread
    · cases hwrite

private theorem requests_introspect (q : Introspection.Query) :
    (Api.introspect q).Requests fun c => (ownPurpose c).isAttempt = true := by
  cases q <;> exact .ask rfl fun _ => .done _

private theorem requests_answer {space : String} {q : Ledger.Query} (hq : ∀ record, q ≠ .create record) :
    (Api.LedgerClient.answer space q).Requests fun c => (brokerPurpose c).isAttempt = true := by
  cases q with
  | create record => exact absurd rfl (hq record)
  | read =>
    rw [Api.LedgerClient.answer, Api.LedgerClient.toProgram_read]
    exact .ask rfl fun _ => .done _
  | writeIfUnchanged record v =>
    rw [Api.LedgerClient.answer, Api.LedgerClient.toProgram_writeIfUnchanged]
    refine .ask rfl fun reply => ?_
    cases Api.LedgerClient.fetched space reply with
    | ok o => exact .ask rfl fun _ => .done _
    | error f => exact .done _

private theorem requests_attempting (broker : Broker) (connectivity : Bool) (config : JoinConfig) :
    (attempting broker connectivity config).Requests (I := interface) fun q : Query =>
      q.purpose.isAttempt = true ∨ (q.purpose = .registration ∧ connectivity = true) := by
  refine (requests_run _ _).interpret fun q hq => ?_
  cases q with
  | cluster q =>
    exact requests_atSite ((requests_introspect q).imp fun c hc => .inl hc)
  | requirements =>
    exact requests_atSite (Task.requests_bind (.ask (.inl rfl) fun _ => .done _) fun _ => Task.requests_pure _)
  | ledger q =>
    refine requests_atSite ((requests_answer fun record heq => ?_).imp fun c hc => .inl hc)
    exact hq record (congrArg Join.Query.ledger heq)
  | credential q =>
    cases q with
    | fetch identity => exact requests_atSite (.ask (.inl rfl) fun _ => .done _)
  | register network c =>
    unfold collaborate
    split
    · exact requests_atSite (.ask (.inr ⟨rfl, ‹_›⟩) fun _ => .done _)
    · exact .done _

/-! ### What was done -/

private theorem purpose_of_mem_resolutionEvents {network : Option ResolvedNetwork} :
    ∀ x ∈ resolutionEvents network, x.query.purpose = .event := by
  intro x hx
  cases network with
  | none => cases hx
  | some network =>
    rw [resolutionEvents] at hx
    rcases List.mem_cons.mp hx with rfl | hx
    · rfl
    · cases hblock : network.globalCidr with
      | none =>
        rw [hblock] at hx
        cases hx
      | some block =>
        rw [hblock] at hx
        rw [List.mem_singleton.mp hx]
        rfl

private theorem purpose_of_mem_endEvents {o : JoinOutcome} : ∀ x ∈ endEvents o, x.query.purpose = .event := by
  intro x hx
  unfold endEvents at hx
  split at hx
  · rw [List.mem_singleton.mp hx]
    rfl
  · split at hx
    · rw [List.mem_singleton.mp hx]
      rfl
    · cases hx

/-- Setting up the ledger is followed by one event. -/
private theorem Deploys.split (h : Deploys broker config es result) :
    ∃ own x found, es = own ++ [x] ∧ (deploying broker config).Trace own (.done found) ∧
      (∀ x ∈ own, x.query.purpose.isSetup = true) ∧ x.query.purpose = .event ∧
      ∀ e, result = .error e ↔ found = .error e := by
  cases h with
  | @ready own record h => exact ⟨own, _, _, rfl, h, h.forall_requests requests_deploying, rfl, by simp⟩
  | @failed own e h => exact ⟨own, _, _, rfl, h, h.forall_requests requests_deploying, rfl, by simp⟩

private theorem Labels.purpose_cases (h : Labels es result) :
    ∀ x ∈ es, x.query.purpose.isGateway = true ∨ x.query.purpose = .event := by
  cases h with
  | labeled h =>
    intro x hx
    rcases List.mem_append.mp hx with hx | hx
    · exact .inl (h.forall_requests requests_labeling x hx)
    · rw [List.mem_singleton.mp hx]
      exact .inr rfl
  | unchanged h => exact fun x hx => .inl (h.forall_requests requests_labeling x hx)
  | failed h => exact fun x hx => .inl (h.forall_requests requests_labeling x hx)

private theorem Attempts.purpose_cases {connectivity : Bool} {config : JoinConfig}
    (h : Attempts broker connectivity config es result) : ∀ x ∈ es, x.query.purpose.isAttempt = true ∨
      (x.query.purpose = .registration ∧ connectivity = true) ∨ x.query.purpose = .event := by
  cases h with
  | mk h =>
    intro x hx
    rw [List.mem_append, List.mem_append] at hx
    rcases hx with (hx | hx) | hx
    · rcases h.forall_requests (requests_attempting _ _ _) x hx with hattempt | hregistration
      · exact .inl hattempt
      · exact .inr (.inl hregistration)
    · exact .inr (.inr (purpose_of_mem_resolutionEvents x hx))
    · exact .inr (.inr (purpose_of_mem_endEvents x hx))

/-! ### What was permitted -/

section Permitted

variable {p : Purpose} (hv : spec.validate = .ok ())

include hv

private theorem permits_of_isSetup (hd : spec.action.deploysBroker = true) (h : p.isSetup = true) :
    Permits spec p ∧ p ≠ .status := by
  cases p <;> cases h
  · exact ⟨⟨hv, hd⟩, by decide⟩
  · exact ⟨hv, by decide⟩

private theorem permits_of_isGateway (hj : spec.action.joins = true) {config : JoinConfig}
    (hc : spec.join = some config)
    (hl : (config.labelGateway && spec.broker.connectivity) = true) (h : p.isGateway = true) :
    Permits spec p ∧ p ≠ .status := by
  have hlabel := (Bool.and_eq_true _ _).mp hl
  cases p <;> cases h
  · exact ⟨⟨hv, hj, config, hc, hlabel⟩, by decide⟩
  · exact ⟨⟨hv, hj, config, hc, hlabel⟩, by decide⟩

private theorem permits_of_isAttempt (hj : spec.action.joins = true) (h : p.isAttempt = true) :
    Permits spec p ∧ p ≠ .status := by
  cases p <;> cases h
  · exact ⟨hv, by decide⟩
  · exact ⟨⟨hv, hj⟩, by decide⟩
  · exact ⟨⟨hv, hj⟩, by decide⟩
  · exact ⟨⟨hv, hj⟩, by decide⟩
  · exact ⟨⟨hv, hj⟩, by decide⟩

private theorem permits_of_attempt (hj : spec.action.joins = true)
    (h : p.isAttempt = true ∨ (p = .registration ∧ spec.broker.connectivity = true) ∨ p = .event) :
    Permits spec p ∧ p ≠ .status := by
  rcases h with h | ⟨rfl, hconnectivity⟩ | rfl
  · exact permits_of_isAttempt hv hj h
  · exact ⟨⟨hv, hj, hconnectivity⟩, by decide⟩
  · exact ⟨trivial, by decide⟩

end Permitted

private theorem permits_event (spec : MembershipSpec) {p : Purpose} (h : p = .event) :
    Permits spec p ∧ p ≠ .status := by
  subst h
  exact ⟨trivial, by decide⟩

private theorem Deploys.permits (h : Deploys broker spec.broker es result) (hv : spec.validate = .ok ())
    (hd : spec.action.deploysBroker = true) : ∀ x ∈ es, Permits spec x.query.purpose ∧ x.query.purpose ≠ .status := by
  obtain ⟨own, last, found, rfl, -, hown, hlast, -⟩ := h.split
  intro x hx
  rcases List.mem_append.mp hx with hx | hx
  · exact permits_of_isSetup hv hd (hown x hx)
  · rw [List.mem_singleton.mp hx]
    exact permits_event spec hlast

private theorem Joins.permits (h : Joins broker spec es result) (hv : spec.validate = .ok ())
    (hj : spec.action.joins = true) : ∀ x ∈ es, Permits spec x.query.purpose ∧ x.query.purpose ≠ .status := by
  have hlabels : ∀ {es o config}, spec.join = some config → (config.labelGateway && spec.broker.connectivity) = true →
      Labels es o → ∀ x ∈ es, Permits spec x.query.purpose ∧ x.query.purpose ≠ .status := by
    intro es o config hc hl h x hx
    rcases h.purpose_cases x hx with hgateway | hevent
    · exact permits_of_isGateway hv hj hc hl hgateway
    · exact permits_event spec hevent
  cases h with
  | unconfigured hnone => exact fun x hx => nomatch hx
  | attempted hc hl h => exact fun x hx => permits_of_attempt hv hj (h.purpose_cases x hx)
  | unlabeled hc hl h => exact hlabels hc hl h
  | labeled hc hl h h' =>
    intro x hx
    rcases List.mem_append.mp hx with hx | hx
    · exact hlabels hc hl h x hx
    · exact permits_of_attempt hv hj (h'.purpose_cases x hx)

theorem Works.permits (h : Works broker spec es result) :
    ∀ x ∈ es, Permits spec x.query.purpose ∧ x.query.purpose ≠ .status := by
  cases h with
  | rejected hv =>
    intro x hx
    rw [List.mem_singleton.mp hx]
    exact permits_event spec rfl
  | undeployed hv hd h => exact h.permits hv hd
  | deployed hv ha h => exact h.permits hv (by rw [ha]; rfl)
  | both hv ha h h' =>
    intro x hx
    rcases List.mem_append.mp hx with hx | hx
    · exact h.permits hv (by rw [ha]; rfl) x hx
    · exact h'.permits hv (by rw [ha]; rfl) x hx
  | joined hv ha h => exact h.permits hv (by rw [ha]; rfl)

/-- The work begins with setting up the ledger if the membership asks for it, and ends with that if it fails or if there
is nothing else to do. -/
private theorem Works.setup (h : Works broker spec es result) (hv : spec.validate = .ok ())
    (hd : spec.action.deploysBroker = true) : ∃ own rest found, es = own ++ rest ∧
      (deploying broker spec.broker).Trace own (.done found) ∧ (∀ x ∈ own, x.query.purpose.isSetup = true) ∧
      ((∃ f, found = .error f) ∨ spec.action = .broker → ∀ x ∈ rest, x.query.purpose = .event) := by
  cases h with
  | rejected hv' => cases hv.symm.trans hv'
  | undeployed _ _ h =>
    obtain ⟨own, last, found, rfl, htrace, hown, hlast, -⟩ := h.split
    refine ⟨own, [last], found, rfl, htrace, hown, fun _ x hx => ?_⟩
    rw [List.mem_singleton.mp hx]
    exact hlast
  | deployed _ ha h =>
    obtain ⟨own, last, found, rfl, htrace, hown, hlast, -⟩ := h.split
    refine ⟨own, [last], found, rfl, htrace, hown, fun _ x hx => ?_⟩
    rw [List.mem_singleton.mp hx]
    exact hlast
  | both _ ha h h' =>
    obtain ⟨own, last, found, rfl, htrace, hown, -, hfound⟩ := h.split
    refine ⟨own, _, found, List.append_assoc .., htrace, hown, ?_⟩
    -- an attempt was made, so that neither the ledger failed nor the action was only to host it
    rintro (⟨f, hf⟩ | haction)
    · cases (hfound f).mpr hf
    · cases ha.symm.trans haction
  | joined _ ha h =>
    rw [ha] at hd
    cases hd

private theorem SetsPhase.purpose_eq {phase : MembershipPhase} (h : SetsPhase m phase es result) :
    (∀ x ∈ es, x.query.purpose = .status) ∧ es.length ≤ 1 := by
  cases h with
  | unchanged => exact ⟨fun x hx => (nomatch hx), Nat.zero_le 1⟩
  | patched =>
    refine ⟨fun x hx => ?_, Nat.le_refl 1⟩
    rw [List.mem_singleton.mp hx]
    rfl

/-- A reconciliation makes only requests that the membership permits, and sets the status at most once; if the ledger
could not be set up, only events and the status follow. -/
theorem requests_are_permitted (broker : Broker) (m : Membership) (w : Program.World interface σ) (s : σ) :
    let es := (reconcile broker m).toProgram.log w s
    (∀ x ∈ es, Permits m.spec x.query.purpose) ∧
    es.countP (fun x => x.query.purpose == .status) ≤ 1 ∧
    (m.spec.validate = .ok () → m.spec.action.deploysBroker = true → ∃ own rest found, es = own ++ rest ∧
      (deploying broker m.spec.broker).Trace own (.done found) ∧ (∀ x ∈ own, x.query.purpose.isSetup = true) ∧
      ((∃ f, found = .error f) ∨ m.spec.action = .broker → ∀ x ∈ rest, x.query.purpose.isNotice = true)) := by
  intro es
  obtain ⟨o, s', hrun⟩ := (finishes_reconcile broker m).run w s
  have hcourse : Reconciles broker m es o := reconciles_of_trace (Program.trace_log_of_run (congrArg Prod.fst hrun))
  clear_value es
  cases hcourse with
  | @mk done set result _ hworks hsets =>
    obtain ⟨hstatus, hlength⟩ := hsets.purpose_eq
    refine ⟨?_, ?_, ?_⟩
    · intro x hx
      rcases List.mem_append.mp hx with hx | hx
      · exact (hworks.permits x hx).1
      · rw [hstatus x hx]
        trivial
    · have hnone : done.countP (fun x => x.query.purpose == .status) = 0 := by
        refine List.countP_eq_zero.mpr fun x hx => ?_
        rw [beq_iff_eq]
        exact (hworks.permits x hx).2
      rw [List.countP_append, hnone, Nat.zero_add]
      exact Nat.le_trans List.countP_le_length hlength
    · intro hv hd
      obtain ⟨own, rest, found, rfl, htrace, hown, hrest⟩ := hworks.setup hv hd
      refine ⟨own, rest ++ set, found, List.append_assoc .., htrace, hown, fun hover x hx => ?_⟩
      rcases List.mem_append.mp hx with hx | hx
      · rw [hrest hover x hx]
        rfl
      · rw [hstatus x hx]
        rfl

/-- Whatever a cluster that only hosts the broker domain asks for is refused: it asks for nothing but its ledger. -/
theorem hosting_is_permitted :
    let broker : Broker := { space := "submariner-k8s-broker", apiServer := "https://broker:6443" }
    let m : Membership := { metadata := { name := some "kn" }, spec := { action := .broker } }
    let w := refusing (.transport "connection refused")
    m.spec.validate = .ok () ∧ m.spec.action.deploysBroker = true ∧
      ∀ x ∈ (reconcile broker m).toProgram.log w (),
        x.query.purpose.isSetup = true ∨ x.query.purpose.isNotice = true := by
  intro broker m w
  have hvalid : m.spec.validate = .ok () := by decide
  obtain ⟨-, -, hsetup⟩ := requests_are_permitted broker m w ()
  obtain ⟨own, rest, found, hes, -, hown, hrest⟩ := hsetup hvalid rfl
  refine ⟨hvalid, rfl, fun x hx => ?_⟩
  rw [hes] at hx
  rcases List.mem_append.mp hx with hx | hx
  · exact .inl (hown x hx)
  · exact .inr (hrest (.inr rfl) x hx)

end MultiCluster.Operator
