import MultiCluster.Proofs.Allocation.Establish
import MultiCluster.Proofs.Api.Client
import MultiCluster.Proofs.Join.Termination
import MultiCluster.Proofs.Operator.Course

/-!
# Reconciliations end

Every part of a reconciliation makes a bounded number of calls: a node is labelled with a limited number of polls, and
the attempts of a commit are limited. So a reconciliation comes to an end, whatever the API servers answer.

Main statements: `finishes_reconcile`, and `log_reconcile` for the exchanges of a whole reconciliation.
-/

namespace MultiCluster

variable {α : Type}

/-! ### Calls -/

namespace Api

private theorem finishes_call (c : Call) : (call c).toProgram.Finishes :=
  .ask fun _ => .done _

private theorem finishes_lookup (c : Call) : (lookup c).toProgram.Finishes :=
  .ask fun _ => .done _

private theorem finishes_introspect (q : Introspection.Query) : (introspect q).Finishes := by
  cases q with
  | configMap space name => exact finishes_lookup _
  | pods selector => exact finishes_call _
  | service space name => exact .ask fun _ => .done _
  | openShiftNetwork => exact finishes_lookup _
  | createProbe space => exact .ask fun _ => .done _
  | deleteProbe space name => exact .ask fun _ => .done _

private theorem finishes_checkRequirements : checkRequirements.toProgram.Finishes :=
  Task.finishes_bind (finishes_call _) fun _ => Task.finishes_pure _

private theorem finishes_fetchCredential (space : String) (q : Credential.Query) :
    (fetchCredential space q).Finishes := by
  cases q with
  | fetch identity => exact .ask fun _ => .done _

private theorem finishes_register (broker : Broker) (network : ResolvedNetwork) (c : Credential) :
    (register broker network c).toProgram.Finishes :=
  .ask fun _ => .done _

private theorem LedgerClient.finishes_answer (space : String) (q : Ledger.Query) : (answer space q).Finishes := by
  cases q with
  | create record => exact .ask fun _ => .done _
  | read =>
    rw [answer, toProgram_read]
    exact .ask fun _ => .done _
  | writeIfUnchanged record v =>
    rw [answer, toProgram_writeIfUnchanged]
    refine .ask fun reply => ?_
    cases fetched space reply with
    | ok o => exact .ask fun _ => .done _
    | error f => exact .done _

end Api

private theorem Gateway.finishes_ensure : ensure.toProgram.Finishes := by
  refine Task.finishes_bind (Api.finishes_call _) fun nodes => ?_
  split
  · refine Task.finishes_bind (Backoff.finishes_waitFor (.ask fun _ => .done _) _ _) fun u => ?_
    exact Task.finishes_pure _
  · exact Task.finishes_pure _

/-! ### Parts of a reconciliation -/

namespace Operator

private theorem finishes_atSite (site : Site) {p : Program Api.interface α} (hp : p.Finishes) :
    (atSite site p).Finishes :=
  hp.interpret fun _ => Program.finishes_request (I := interface) _

private theorem finishes_publish (event : Event) : (publish event).Finishes :=
  Program.finishes_request (I := interface) _

private theorem finishes_deployBroker (broker : Broker) (config : BrokerConfig) :
    (deployBroker broker config).toProgram.Finishes := by
  have hestablish := Allocator.finishes_establish config.supernet config.blockSize config.globalAddressing
  refine (finishes_atSite .broker (hestablish.interpret (Api.LedgerClient.finishes_answer _))).bind fun found => ?_
  cases found with
  | ok record => exact (finishes_publish _).bind fun _ => .done _
  | error e => exact (finishes_publish _).bind fun _ => .done _

private theorem finishes_labelGateway : labelGateway.toProgram.Finishes := by
  refine Task.finishes_bind (finishes_atSite .own Gateway.finishes_ensure) fun node => ?_
  cases node with
  | some node => exact (finishes_publish _).bind fun _ => .done _
  | none => exact Task.finishes_pure _

private theorem finishes_collaborate (broker : Broker) (connectivity : Bool) (q : Join.Query) :
    (collaborate broker connectivity q).Finishes := by
  cases q with
  | cluster q => exact finishes_atSite .own (Api.finishes_introspect q)
  | requirements => exact finishes_atSite .own Api.finishes_checkRequirements
  | ledger q => exact finishes_atSite .broker (Api.LedgerClient.finishes_answer _ q)
  | credential q => exact finishes_atSite .broker (Api.finishes_fetchCredential _ q)
  | register network c =>
    unfold collaborate
    split
    · exact finishes_atSite .own (Api.finishes_register _ _ _)
    · exact .done _

private theorem finishes_reportNetwork (network : Option ResolvedNetwork) : (reportNetwork network).Finishes := by
  cases network with
  | none => exact .done _
  | some network =>
    refine (finishes_publish _).bind fun _ => ?_
    split
    · exact finishes_publish _
    · exact .done _

private theorem finishes_reportOutcome (o : JoinOutcome) : (reportOutcome o).Finishes := by
  refine (finishes_reportNetwork _).bind fun _ => ?_
  split
  · exact finishes_publish _
  · split
    · exact finishes_publish _
    · exact .done _

private theorem finishes_attemptJoin (broker : Broker) (connectivity : Bool) (config : JoinConfig) :
    (attemptJoin broker connectivity config).toProgram.Finishes := by
  have hbudget : ∀ a, (plan broker).allocator = some a → 0 < a.retry.maxAttempts := by
    intro a ha
    cases ha
    exact Nat.succ_pos 4
  have hattempt := (Join.finishes_run hbudget config.toRequest).interpret (finishes_collaborate broker connectivity)
  exact hattempt.bind fun o => (finishes_reportOutcome o).bind fun _ => .done _

private theorem finishes_join (broker : Broker) (spec : MembershipSpec) : (join broker spec).toProgram.Finishes := by
  unfold join
  split
  · rename_i config _
    have hattempt := finishes_attemptJoin broker spec.broker.connectivity config
    cases config.labelGateway && spec.broker.connectivity with
    | true => exact Task.finishes_bind finishes_labelGateway fun _ => hattempt
    | false => exact hattempt
  · exact Task.finishes_throw _

theorem finishes_work (broker : Broker) (spec : MembershipSpec) : (work broker spec).toProgram.Finishes := by
  unfold work
  cases spec.validate with
  | error e => exact (finishes_publish _).bind fun _ => .done _
  | ok u =>
    cases spec.action with
    | broker => exact Task.finishes_bind (finishes_deployBroker _ _) fun _ => Task.finishes_pure _
    | join => exact finishes_join _ _
    | all => exact Task.finishes_bind (finishes_deployBroker _ _) fun _ => finishes_join _ _

private theorem finishes_setPhase (m : Membership) (phase : MembershipPhase) :
    (setPhase m phase).toProgram.Finishes := by
  unfold setPhase
  split
  · exact Task.finishes_pure _
  · exact finishes_atSite .own (Api.finishes_call _)

/-- A reconciliation ends, whatever the API servers answer. -/
theorem finishes_reconcile (broker : Broker) (m : Membership) : (reconcile broker m).toProgram.Finishes := by
  refine Task.finishes_bind ((finishes_work _ _).bind fun _ => .done _) fun result => ?_
  exact Task.finishes_bind (finishes_setPhase _ _) fun _ => Task.finishes_pure _

/-- The exchanges of a reconciliation are those of the work, and then at most one that sets the phase. -/
theorem log_reconcile (broker : Broker) (m : Membership) {σ : Type} (w : Program.World interface σ) (s : σ) :
    ∃ result s' set, (work broker m.spec).toProgram.run w s = (some result, s') ∧
      (reconcile broker m).toProgram.log w s = (work broker m.spec).toProgram.log w s ++ set ∧
      Works broker m.spec ((work broker m.spec).toProgram.log w s) result ∧
      ∃ o, SetsPhase m (phaseAfter result) set o := by
  obtain ⟨result, s', hwork⟩ := (finishes_work broker m.spec).run w s
  obtain ⟨o, s'', hset⟩ := (finishes_setPhase m (phaseAfter result)).run w s'
  have hworks := works_of_trace (Program.trace_log_of_run (congrArg Prod.fst hwork))
  have hsets := setsPhase_of_trace (Program.trace_log_of_run (congrArg Prod.fst hset))
  refine ⟨result, s', _, hwork, ?_, hworks, o, hsets⟩
  rw [toProgram_reconcile, Program.log_bind, hwork]
  exact congrArg (List.append _) (Program.log_bind_done ..)

end Operator

end MultiCluster
