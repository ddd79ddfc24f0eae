import MultiCluster.Operator.Reconcile
import MultiCluster.Proofs.Join.Course

/-!
# The course of a reconciliation

A reconciliation checks what a membership asks for, sets up the ledger of the broker domain, labels a gateway, and makes
an attempt to join, as far as the membership asks for it, and it stops where one of these fails. Last it sets the phase
of the membership. The exchanges of a reconciliation say which of its parts have been gone through, and how each ended.

Main statements: `works_of_trace` for the work that a membership asks for, and `reconciles_of_trace` for a whole
reconciliation.
-/

namespace MultiCluster.Operator

/-! ### Parts -/

/-- The part that sets up the ledger. -/
def deploying (broker : Broker) (config : BrokerConfig) : Program interface (Except Failure Record) :=
  (onSite .broker (Api.LedgerClient.onLedger broker.space
    (Allocator.establish config.supernet config.blockSize config.globalAddressing))).toProgram

/-- The part that labels a gateway. -/
def labeling : Program interface (Except Failure (Option String)) :=
  (onSite .own Gateway.ensure).toProgram

/-- The part that makes an attempt to join. -/
def attempting (broker : Broker) (connectivity : Bool) (config : JoinConfig) : Program interface JoinOutcome :=
  (Join.run (plan broker) config.toRequest).interpret (collaborate broker connectivity)

/-- An event that was published because something went well. -/
def reported (reason action note : String) : Exchange interface :=
  ⟨.publish { type := .normal, reason, action, note := some note }, ()⟩

/-- An event that was published because something failed. -/
def warned (reason action note : String) : Exchange interface :=
  ⟨.publish { type := .warning, reason, action, note := some note }, ()⟩

/-- The events about the addressing that an attempt resolved. -/
def resolutionEvents : Option ResolvedNetwork → List (Exchange interface)
  | none => []
  | some network => reported Event.networkDiscovered Event.joining (networkNote network) ::
    match network.globalCidr with
    | some block => [reported Event.globalCidrAllocated Event.joining ("global CIDR " ++ block.toText)]
    | none => []

/-- The event about the end of an attempt. -/
def endEvents (o : JoinOutcome) : List (Exchange interface) :=
  if o.phase = .succeeded then [reported Event.joinSucceeded Event.joining ("cluster " ++ o.cluster ++ " joined")]
  else match o.failedIn, o.failure with
    | some phase, some e => [warned Event.joinFailed Event.joining (failureNote phase e)]
    | _, _ => []

/-! ### What was gone through -/

/-- The ledger was set up, or it failed to be. -/
inductive Deploys (broker : Broker) (config : BrokerConfig) : List (Exchange interface) → Except Failure Unit → Prop
  | ready {es : List (Exchange interface)} {record : Record}
      (h : (deploying broker config).Trace es (.done (.ok record))) :
      Deploys broker config (es ++ [reported Event.brokerReady Event.deployingBroker (brokerNote record)]) (.ok ())
  | failed {es : List (Exchange interface)} {e : Failure} (h : (deploying broker config).Trace es (.done (.error e))) :
      Deploys broker config (es ++ [warned Event.brokerFailed Event.deployingBroker e.message]) (.error e)

/-- A node was labelled, or there was nothing to do, or it failed. -/
inductive Labels : List (Exchange interface) → Except Failure Unit → Prop
  | labeled {es : List (Exchange interface)} {node : String} (h : labeling.Trace es (.done (.ok (some node)))) :
      Labels (es ++ [reported Event.gatewayLabeled Event.joining ("labeled node " ++ node ++ " as gateway")]) (.ok ())
  | unchanged {es : List (Exchange interface)} (h : labeling.Trace es (.done (.ok none))) : Labels es (.ok ())
  | failed {es : List (Exchange interface)} {e : Failure} (h : labeling.Trace es (.done (.error e))) :
      Labels es (.error e)

/-- An attempt to join was made. -/
inductive Attempts (broker : Broker) (connectivity : Bool) (config : JoinConfig) :
    List (Exchange interface) → Except Failure Unit → Prop
  | mk {es : List (Exchange interface)} {o : JoinOutcome}
      (h : (attempting broker connectivity config).Trace es (.done o)) :
      Attempts broker connectivity config (es ++ resolutionEvents o.resolved ++ endEvents o)
        (o.toExcept.map fun _ => ())

/-- An attempt was made, after a gateway was labelled if this is asked for. -/
inductive Joins (broker : Broker) (spec : MembershipSpec) : List (Exchange interface) → Except Failure Unit → Prop
  | unconfigured (h : spec.join = none) : Joins broker spec [] (.error (.malformed "joinConfig" "required to join"))
  | attempted {es : List (Exchange interface)} {result : Except Failure Unit} {config : JoinConfig}
      (hc : spec.join = some config) (hl : (config.labelGateway && spec.broker.connectivity) = false)
      (h : Attempts broker spec.broker.connectivity config es result) : Joins broker spec es result
  | unlabeled {es : List (Exchange interface)} {e : Failure} {config : JoinConfig} (hc : spec.join = some config)
      (hl : (config.labelGateway && spec.broker.connectivity) = true) (h : Labels es (.error e)) :
      Joins broker spec es (.error e)
  | labeled {es es' : List (Exchange interface)} {result : Except Failure Unit} {config : JoinConfig}
      (hc : spec.join = some config) (hl : (config.labelGateway && spec.broker.connectivity) = true)
      (h : Labels es (.ok ())) (h' : Attempts broker spec.broker.connectivity config es' result) :
      Joins broker spec (es ++ es') result

/-- What a membership asks for was rejected, or it was done as far as nothing failed. -/
inductive Works (broker : Broker) (spec : MembershipSpec) : List (Exchange interface) → Except Failure Unit → Prop
  | rejected {e : Failure} (hv : spec.validate = .error e) :
      Works broker spec [warned (if spec.action.joins then Event.joinFailed else Event.brokerFailed) Event.reconciling
        e.message] (.error e)
  | undeployed {es : List (Exchange interface)} {e : Failure} (hv : spec.validate = .ok ())
      (hd : spec.action.deploysBroker = true) (h : Deploys broker spec.broker es (.error e)) :
      Works broker spec es (.error e)
  | deployed {es : List (Exchange interface)} (hv : spec.validate = .ok ()) (ha : spec.action = .broker)
      (h : Deploys broker spec.broker es (.ok ())) : Works broker spec es (.ok ())
  | both {es es' : List (Exchange interface)} {result : Except Failure Unit} (hv : spec.validate = .ok ())
      (ha : spec.action = .all) (h : Deploys broker spec.broker es (.ok ())) (h' : Joins broker spec es' result) :
      Works broker spec (es ++ es') result
  | joined {es : List (Exchange interface)} {result : Except Failure Unit} (hv : spec.validate = .ok ())
      (ha : spec.action = .join) (h : Joins broker spec es result) : Works broker spec es result

/-- The phase of a membership was set, unless it is the current one. -/
inductive SetsPhase (m : Membership) (phase : MembershipPhase) :
    List (Exchange interface) → Except Failure Unit → Prop
  | unchanged (h : m.status.map MembershipStatus.phase = some phase) : SetsPhase m phase [] (.ok ())
  | patched (h : m.status.map MembershipStatus.phase ≠ some phase) (reply : Except ApiFailure Unit) :
      SetsPhase m phase
        [⟨.call .own (.setPhase (m.metadata.space.getD operatorNamespace) m.metadata.anyName phase), reply⟩]
        (Api.toFailure reply)

/-- The work was done, and then the phase was set. -/
inductive Reconciles (broker : Broker) (m : Membership) : List (Exchange interface) → Except Failure Nat → Prop
  | mk {es es' : List (Exchange interface)} {result set : Except Failure Unit} (h : Works broker m.spec es result)
      (h' : SetsPhase m (phaseAfter result) es' set) :
      Reconciles broker m (es ++ es') (set.map fun _ => requeueAfter result)

/-! ### Events -/

variable {broker : Broker} {config : BrokerConfig} {spec : MembershipSpec} {m : Membership}
  {es : List (Exchange interface)} {result : Except Failure Unit}

private theorem trace_report {reason action note : String} (h : (report reason action note).Trace es (.done ())) :
    es = [reported reason action note] :=
  Program.trace_request_done h

private theorem trace_warn {reason action note : String} (h : (warn reason action note).Trace es (.done ())) :
    es = [warned reason action note] :=
  Program.trace_request_done h

private theorem trace_reportNetwork {network : Option ResolvedNetwork}
    (h : (reportNetwork network).Trace es (.done ())) :
    es = resolutionEvents network := by
  cases network with
  | none => exact (Program.trace_done h).1
  | some network =>
    obtain ⟨es₁, es₂, u, rfl, hfirst, hnext⟩ := h.bind_done_cases
    rw [trace_report hfirst, resolutionEvents]
    cases hblock : network.globalCidr with
    | none =>
      simp only [hblock] at hnext
      rw [(Program.trace_done hnext).1]
      rfl
    | some block =>
      simp only [hblock] at hnext
      rw [trace_report hnext]
      rfl

private theorem trace_reportOutcome {o : JoinOutcome} (h : (reportOutcome o).Trace es (.done ())) :
    es = resolutionEvents o.resolved ++ endEvents o := by
  obtain ⟨es₁, es₂, u, rfl, hnetwork, hend⟩ := h.bind_done_cases
  rw [trace_reportNetwork hnetwork]
  congr 1
  unfold endEvents
  by_cases hphase : o.phase = .succeeded
  · rw [if_pos hphase] at hend ⊢
    exact trace_report hend
  · rw [if_neg hphase] at hend ⊢
    cases hfailedIn : o.failedIn with
    | none =>
      simp only [hfailedIn] at hend
      exact (Program.trace_done hend).1
    | some phase =>
      cases hfailure : o.failure with
      | none =>
        simp only [hfailedIn, hfailure] at hend
        exact (Program.trace_done hend).1
      | some e =>
        simp only [hfailedIn, hfailure] at hend
        exact trace_warn hend

/-! ### The parts in sequence -/

private theorem deploys_of_trace (h : (deployBroker broker config).toProgram.Trace es (.done result)) :
    Deploys broker config es result := by
  obtain ⟨es₁, es₂, found, rfl, hdeploying, hnext⟩ := h.bind_done_cases
  cases found with
  | ok record =>
    obtain ⟨u, hreport, rfl⟩ := hnext.of_bind_done
    rw [trace_report hreport]
    exact .ready hdeploying
  | error e =>
    obtain ⟨u, hwarn, rfl⟩ := hnext.of_bind_done
    rw [trace_warn hwarn]
    exact .failed hdeploying

private theorem labels_of_trace (h : labelGateway.toProgram.Trace es (.done result)) : Labels es result := by
  rcases Task.trace_bind_done h with ⟨e, hlabeling, rfl⟩ | ⟨es₁, es₂, node, rfl, hlabeling, hnext⟩
  · exact .failed hlabeling
  · cases node with
    | none =>
      obtain ⟨rfl, heq⟩ := Program.trace_done hnext
      cases heq
      rw [List.append_nil]
      exact .unchanged hlabeling
    | some node =>
      obtain ⟨u, hreport, rfl⟩ := hnext.of_bind_done
      rw [trace_report hreport]
      exact .labeled hlabeling

private theorem attempts_of_trace {connectivity : Bool} {config : JoinConfig}
    (h : (attemptJoin broker connectivity config).toProgram.Trace es (.done result)) :
    Attempts broker connectivity config es result := by
  obtain ⟨es₁, es₂, o, rfl, hattempting, hnext⟩ := h.bind_done_cases
  obtain ⟨u, hreport, rfl⟩ := hnext.of_bind_done
  rw [trace_reportOutcome hreport, ← List.append_assoc]
  exact .mk hattempting

private theorem joins_of_trace (h : (join broker spec).toProgram.Trace es (.done result)) :
    Joins broker spec es result := by
  unfold join at h
  cases hjoin : spec.join with
  | none =>
    rw [hjoin] at h
    obtain ⟨rfl, heq⟩ := Program.trace_done h
    cases heq
    exact .unconfigured hjoin
  | some config =>
    rw [hjoin] at h
    cases hlabel : config.labelGateway && spec.broker.connectivity with
    | false =>
      simp only [hlabel] at h
      exact .attempted hjoin hlabel (attempts_of_trace h)
    | true =>
      simp only [hlabel, ↓reduceIte] at h
      rcases Task.trace_bind_done h with ⟨e, hlabeling, rfl⟩ | ⟨es₁, es₂, u, rfl, hlabeling, hattempt⟩
      · exact .unlabeled hjoin hlabel (labels_of_trace hlabeling)
      · exact .labeled hjoin hlabel (labels_of_trace hlabeling) (attempts_of_trace hattempt)

/-- Where the work that a membership asks for has come to when it is over. -/
theorem works_of_trace (h : (work broker spec).toProgram.Trace es (.done result)) : Works broker spec es result := by
  unfold work at h
  cases hvalid : spec.validate with
  | error e =>
    rw [hvalid] at h
    obtain ⟨u, hwarn, rfl⟩ := h.of_bind_done
    rw [trace_warn hwarn]
    exact .rejected hvalid
  | ok u =>
    rw [hvalid] at h
    cases haction : spec.action with
    | join =>
      rw [haction] at h
      exact .joined hvalid haction (joins_of_trace h)
    | broker =>
      rw [haction] at h
      rcases Task.trace_bind_done h with ⟨e, hdeploy, rfl⟩ | ⟨es₁, es₂, u, rfl, hdeploy, hend⟩
      · exact .undeployed hvalid (by rw [haction]; rfl) (deploys_of_trace hdeploy)
      · obtain ⟨rfl, heq⟩ := Program.trace_done hend
        cases heq
        rw [List.append_nil]
        exact .deployed hvalid haction (deploys_of_trace hdeploy)
    | all =>
      rw [haction] at h
      rcases Task.trace_bind_done h with ⟨e, hdeploy, rfl⟩ | ⟨es₁, es₂, u, rfl, hdeploy, hjoin⟩
      · exact .undeployed hvalid (by rw [haction]; rfl) (deploys_of_trace hdeploy)
      · exact .both hvalid haction (deploys_of_trace hdeploy) (joins_of_trace hjoin)

/-- Nothing is tried for a membership that does not pass the checks. -/
theorem Works.of_invalid {e : Failure} (h : Works broker spec es result) (hv : spec.validate = .error e) :
    es = [warned (if spec.action.joins then Event.joinFailed else Event.brokerFailed) Event.reconciling e.message] ∧
      result = .error e := by
  cases h with
  | rejected hv' =>
    rw [hv] at hv'
    cases hv'
    exact ⟨rfl, rfl⟩
  | undeployed hv' => cases hv.symm.trans hv'
  | deployed hv' => cases hv.symm.trans hv'
  | both hv' => cases hv.symm.trans hv'
  | joined hv' => cases hv.symm.trans hv'

theorem setsPhase_of_trace {phase : MembershipPhase} (h : (setPhase m phase).toProgram.Trace es (.done result)) :
    SetsPhase m phase es result := by
  unfold setPhase at h
  by_cases hphase : m.status.map MembershipStatus.phase = some phase
  · rw [if_pos hphase] at h
    obtain ⟨rfl, heq⟩ := Program.trace_done h
    cases heq
    exact .unchanged hphase
  · rw [if_neg hphase] at h
    obtain ⟨reply, es', rfl, hreply⟩ := Program.trace_ask_done h
    obtain ⟨rfl, heq⟩ := Program.trace_done hreply
    cases heq
    exact .patched hphase reply

theorem toProgram_reconcile (broker : Broker) (m : Membership) :
    (reconcile broker m).toProgram = (work broker m.spec).toProgram.bind fun result =>
      (setPhase m (phaseAfter result)).toProgram.bind fun set => .done (set.map fun _ => requeueAfter result) := by
  unfold reconcile
  -- the work is wrapped so that its failure is a result, and the phase is set all the same
  rw [Task.toProgram_bind]
  refine (Program.bind_assoc ..).trans (congrArg (Program.bind _) (funext fun result => ?_))
  show (setPhase m (phaseAfter result) >>= fun _ => pure (requeueAfter result)).toProgram = _
  rw [Task.toProgram_bind]
  refine congrArg (Program.bind _) (funext fun set => ?_)
  cases set <;> rfl

/-- What a reconciliation has done when it is over. -/
theorem reconciles_of_trace {o : Except Failure Nat} (h : (reconcile broker m).toProgram.Trace es (.done o)) :
    Reconciles broker m es o := by
  rw [toProgram_reconcile] at h
  obtain ⟨es₁, es₂, result, rfl, hwork, hnext⟩ := h.bind_done_cases
  obtain ⟨set, hset, rfl⟩ := hnext.of_bind_done
  exact .mk (works_of_trace hwork) (setsPhase_of_trace hset)

end MultiCluster.Operator
