import MultiCluster.Proofs.Operator.Termination

/-!
# How failures are made known

The status of a membership says only that something failed; what it was is published as a warning. Every failure of a
reconciliation is published in this way, exactly once and with its wording, except one: if no gateway could be labelled,
the reconciliation fails without a word. Nothing is published as a warning if nothing has failed.

Main statements: `failures_are_explained`, and `gateway_failure_is_not_explained` for the exception.
-/

namespace MultiCluster.Operator

variable {α σ : Type} {broker : Broker} {config : BrokerConfig} {spec : MembershipSpec} {m : Membership}
  {es : List (Exchange interface)} {result : Except Failure Unit} {e : Failure}

/-! ### Warnings -/

/-- The warnings among some exchanges. -/
def warnings (es : List (Exchange interface)) : List Event :=
  es.filterMap fun
    | ⟨.publish event, _⟩ => if event.type = .warning then some event else none
    | ⟨.call _ _, _⟩ => none

private theorem warnings_append (es es' : List (Exchange interface)) :
    warnings (es ++ es') = warnings es ++ warnings es' :=
  List.filterMap_append

/-- A call to the API server of a cluster. -/
def IsCall (q : Query) : Prop :=
  ∃ site c, q = .call site c

private theorem warnings_of_calls (h : ∀ x ∈ es, IsCall x.query) : warnings es = [] := by
  refine List.filterMap_eq_nil_iff.mpr fun x hx => ?_
  obtain ⟨query, reply⟩ := x
  obtain ⟨site, c, rfl⟩ := h _ hx
  rfl

private theorem warnings_resolutionEvents (network : Option ResolvedNetwork) :
    warnings (resolutionEvents network) = [] := by
  cases network with
  | none => rfl
  | some network =>
    rw [resolutionEvents]
    cases network.globalCidr <;> rfl

/-! ### Calls -/

private theorem calls_atSite (site : Site) (p : Program Api.interface α) :
    (atSite site p).Requests (I := interface) IsCall :=
  Program.requests_interpret (I := Api.interface) (J := interface)
    (fun c => Program.requests_request (I := interface) ⟨site, c, rfl⟩) p

private theorem calls_deploying : (deploying broker config).Requests (I := interface) IsCall :=
  calls_atSite _ _

private theorem calls_labeling : labeling.Requests (I := interface) IsCall :=
  calls_atSite _ _

private theorem calls_attempting (broker : Broker) (connectivity : Bool) (config : JoinConfig) :
    (attempting broker connectivity config).Requests (I := interface) IsCall := by
  refine Program.requests_interpret (fun q => ?_) _
  cases q with
  | cluster q => exact calls_atSite _ _
  | requirements => exact calls_atSite _ _
  | ledger q => exact calls_atSite _ _
  | credential q => exact calls_atSite _ _
  | register network c =>
    unfold collaborate
    split
    · exact calls_atSite _ _
    · exact .done _

/-! ### Explanations -/

/-- A note contains the wording of a failure. -/
def Mentions (note : String) (e : Failure) : Prop :=
  ∃ before after, note = before ++ e.message ++ after

private theorem mentions_message (e : Failure) : Mentions e.message e :=
  ⟨"", "", by rw [String.empty_append, String.append_empty]⟩

private theorem mentions_failureNote (phase : JoinPhase) (e : Failure) : Mentions (failureNote phase e) e :=
  ⟨"failed in " ++ phase.name ++ " (" ++ e.kind ++ "): ", "", by rw [String.append_empty, failureNote]⟩

/-- The last exchange is a warning that mentions a failure, and it is the only warning. -/
def Explained (es : List (Exchange interface)) (e : Failure) : Prop :=
  ∃ earlier reason action note, es = earlier ++ [warned reason action note] ∧ warnings earlier = [] ∧ Mentions note e

/-- The last exchanges are those of a part that has failed to label a gateway. -/
def EndsUnlabeled (es : List (Exchange interface)) (e : Failure) : Prop :=
  ∃ earlier own, es = earlier ++ own ∧ labeling.Trace own (.done (.error e))

private theorem Explained.warnings_eq (h : Explained es e) :
    ∃ event note, warnings es = [event] ∧ event.note = some note ∧ Mentions note e := by
  obtain ⟨earlier, reason, action, note, rfl, hearlier, hnote⟩ := h
  refine ⟨{ type := .warning, reason, action, note := some note }, note, ?_, rfl, hnote⟩
  rw [warnings_append, hearlier, List.nil_append]
  rfl

/-- Labelling ends with a call, and never with an event. -/
private theorem Explained.not_endsUnlabeled (h : Explained es e) : ¬EndsUnlabeled es e := by
  rintro ⟨earlier', own, hes, hlabeling⟩
  obtain ⟨earlier, reason, action, note, rfl, -, -⟩ := h
  -- the last exchange would be both an event and a call
  rcases List.eq_nil_or_concat own with rfl | ⟨own, last, rfl⟩
  · cases hlabeling.awake_of_nil
  · rw [List.concat_eq_append, ← List.append_assoc] at hes
    obtain ⟨-, hlast⟩ := List.append_inj' hes rfl
    have hcall : IsCall last.query := hlabeling.forall_requests calls_labeling last (by simp)
    rw [← List.singleton_inj.mp hlast] at hcall
    obtain ⟨site, c, hcall⟩ := hcall
    cases hcall

/-- The warnings among some exchanges are those that the result calls for, or labelling a gateway has failed. -/
def Accounts (es : List (Exchange interface)) : Except Failure Unit → Prop
  | .ok () => warnings es = []
  | .error e => Explained es e ∨ (EndsUnlabeled es e ∧ warnings es = [])

private theorem Accounts.append {es' : List (Exchange interface)} (hes : warnings es = []) (h : Accounts es' result) :
    Accounts (es ++ es') result := by
  cases result with
  | ok u =>
    have hes' : warnings es' = [] := h
    show warnings (es ++ es') = []
    rw [warnings_append, hes, hes', List.append_nil]
  | error e =>
    rcases h with ⟨earlier, reason, action, note, rfl, hearlier, hnote⟩ | ⟨⟨earlier, own, rfl, hlabeling⟩, hnone⟩
    · refine .inl ⟨es ++ earlier, reason, action, note, (List.append_assoc ..).symm, ?_, hnote⟩
      rw [warnings_append, hes, hearlier, List.append_nil]
    · refine .inr ⟨⟨es ++ earlier, own, (List.append_assoc ..).symm, hlabeling⟩, ?_⟩
      rw [warnings_append, hes, hnone, List.append_nil]

/-! ### Parts -/

private theorem Deploys.accounts (h : Deploys broker config es result) : Accounts es result := by
  cases h with
  | ready h =>
    show warnings (_ ++ [_]) = []
    rw [warnings_append, warnings_of_calls (h.forall_requests calls_deploying)]
    rfl
  | @failed es e h =>
    have hcalls : warnings es = [] := warnings_of_calls (h.forall_requests calls_deploying)
    exact .inl ⟨es, _, _, _, rfl, hcalls, mentions_message e⟩

private theorem Labels.warnings_eq_nil (h : Labels es result) : warnings es = [] := by
  cases h with
  | labeled h =>
    rw [warnings_append, warnings_of_calls (h.forall_requests calls_labeling)]
    rfl
  | unchanged h => exact warnings_of_calls (h.forall_requests calls_labeling)
  | failed h => exact warnings_of_calls (h.forall_requests calls_labeling)

private theorem Labels.endsUnlabeled (h : Labels es (.error e)) : EndsUnlabeled es e := by
  cases h with
  | failed h => exact ⟨[], es, rfl, h⟩

/-- A failed attempt is explained by the note about the phase that failed. -/
private theorem Attempts.accounts {connectivity : Bool} {config : JoinConfig}
    (h : Attempts broker connectivity config es result) : Accounts es result := by
  cases h with
  | @mk es o h =>
    have hbefore : warnings (es ++ resolutionEvents o.resolved) = [] := by
      rw [warnings_append, warnings_resolutionEvents,
        warnings_of_calls (h.forall_requests (calls_attempting _ _ _)), List.append_nil]
    obtain ⟨es', hrun⟩ := h.of_interpret
    rcases Join.run_cases hrun with ⟨network, -, rfl⟩ | ⟨step, f, found, -, rfl⟩
    · show warnings (_ ++ _) = []
      rw [warnings_append, hbefore]
      rfl
    · exact .inl ⟨_, _, _, _, rfl, hbefore, mentions_failureNote step.phase f⟩

/-- A membership that passes the checks says how to join if it asks for joining. -/
private theorem exists_joinConfig (hv : spec.validate = .ok ()) (hj : spec.action.joins = true) :
    ∃ config, spec.join = some config := by
  cases hjoin : spec.join with
  | some config => exact ⟨config, rfl⟩
  | none =>
    unfold MembershipSpec.validate at hv
    simp only [hj, hjoin, ↓reduceIte] at hv
    split at hv <;> cases hv

private theorem Joins.accounts (h : Joins broker spec es result) (hv : spec.validate = .ok ())
    (hj : spec.action.joins = true) : Accounts es result := by
  cases h with
  | unconfigured hnone =>
    obtain ⟨config, hsome⟩ := exists_joinConfig hv hj
    rw [hnone] at hsome
    cases hsome
  | attempted hc hl h => exact h.accounts
  | unlabeled hc hl h => exact .inr ⟨h.endsUnlabeled, h.warnings_eq_nil⟩
  | labeled hc hl h h' => exact h'.accounts.append h.warnings_eq_nil

private theorem Works.accounts (h : Works broker spec es result) : Accounts es result := by
  cases h with
  | @rejected e hv => exact .inl ⟨[], _, _, _, rfl, rfl, mentions_message e⟩
  | undeployed hv hd h => exact h.accounts
  | deployed hv ha h => exact h.accounts
  | both hv ha h h' =>
    have hready : warnings _ = [] := h.accounts
    exact (h'.accounts hv (by rw [ha]; rfl)).append hready
  | joined hv ha h => exact h.accounts hv (by rw [ha]; rfl)

private theorem SetsPhase.warnings_eq_nil {phase : MembershipPhase} (h : SetsPhase m phase es result) :
    warnings es = [] := by
  cases h <;> rfl

/-! ### Reconciliations -/

/-- A failure is published as exactly one warning, with its wording, unless it is that a gateway was labelled, which is
not published; a success is published as none. -/
theorem failures_are_explained (broker : Broker) (m : Membership) (w : Program.World interface σ) (s : σ) :
    let own := (work broker m.spec).toProgram.log w s
    let es := (reconcile broker m).toProgram.log w s
    ∃ result s', (work broker m.spec).toProgram.run w s = (some result, s') ∧
      (∃ set o, es = own ++ set ∧ SetsPhase m (phaseAfter result) set o) ∧
      (result = .ok () → warnings es = []) ∧
      ∀ e, result = .error e →
        (EndsUnlabeled own e → warnings es = []) ∧
        (¬EndsUnlabeled own e → ∃ event note, warnings es = [event] ∧ event.note = some note ∧ Mentions note e) := by
  intro own es
  obtain ⟨result, s', set, hwork, hlog, hworks, o, hsets⟩ := log_reconcile broker m w s
  have hes : es = own ++ set := hlog
  have hwarnings : warnings es = warnings own := by
    rw [hes, warnings_append, hsets.warnings_eq_nil, List.append_nil]
  have haccounts : Accounts own result := hworks.accounts
  refine ⟨result, s', hwork, ⟨set, o, hes, hsets⟩, ?_, ?_⟩
  · rintro rfl
    exact hwarnings.trans haccounts
  · rintro e rfl
    rw [hwarnings]
    rcases haccounts with hexplained | ⟨hends, hnone⟩
    · exact ⟨fun hends => absurd hends hexplained.not_endsUnlabeled, fun _ => hexplained.warnings_eq⟩
    · exact ⟨fun _ => hnone, fun hnot => absurd hends hnot⟩

/-- The servers of two clusters that refuse every call but to set a phase. -/
def refusing (e : ApiFailure) : Program.World interface Unit where
  answer
    | .call _ (.setPhase _ _ _), s => (.ok (), s)
    | .call _ _, s => (.error e, s)
    | .publish _, s => ((), s)

/-- A membership that does not say how to join is rejected, and one warning says why. -/
theorem unconfigured_membership_is_explained :
    let broker : Broker := { space := "submariner-k8s-broker", apiServer := "https://broker:6443" }
    let m : Membership := { metadata := { name := some "kn" }, spec := { action := .join } }
    let e : Failure := .malformed "joinConfig" "required for action join"
    let w := refusing (.transport "connection refused")
    ∃ event note, warnings ((reconcile broker m).toProgram.log w ()) = [event] ∧ event.note = some note ∧
      Mentions note e := by
  intro broker m e w
  have hvalid : m.spec.validate = .error e := by decide
  obtain ⟨result, s', hwork, -, -, hfailed⟩ := failures_are_explained broker m w ()
  obtain ⟨hlog, hresult⟩ := (works_of_trace (Program.trace_log_of_run (congrArg Prod.fst hwork))).of_invalid hvalid
  have hexplained : Explained ((work broker m.spec).toProgram.log w ()) e :=
    ⟨[], _, _, _, hlog, rfl, mentions_message e⟩
  exact (hfailed e hresult).2 hexplained.not_endsUnlabeled

/-- A cluster may not list its nodes: no gateway is labelled, the membership has failed, and nobody is told why. -/
theorem gateway_failure_is_not_explained :
    let broker : Broker := { space := "submariner-k8s-broker", apiServer := "https://broker:6443" }
    let m : Membership := {
      metadata := { name := some "kn" }
      spec := { action := .join, join := some { cluster := "east" } } }
    let refusal : ApiFailure := .status "Failure" "nodes is forbidden" "Forbidden" 403
    (work broker m.spec).toProgram.run (refusing refusal) () = (some (.error (.kubernetes refusal)), ()) ∧
      (reconcile broker m).toProgram.log (refusing refusal) () =
        [⟨.call .own .nodes, .error refusal⟩, ⟨.call .own (.setPhase operatorNamespace "kn" .failed), .ok ()⟩] ∧
      warnings ((reconcile broker m).toProgram.log (refusing refusal) ()) = [] := by
  intro broker m refusal
  have hvalid : m.spec.validate = .ok () := by
    have hname : ClusterId.validate "east" = .ok () := by
      unfold ClusterId.validate
      rw [if_neg (by decide), if_neg (by decide), if_neg (by decide)]
    exact hname
  have hwork : (work broker m.spec).toProgram = (join broker m.spec).toProgram := by
    rw [work, hvalid]
    rfl
  have hlog : (reconcile broker m).toProgram.log (refusing refusal) () =
      [⟨.call .own .nodes, .error refusal⟩, ⟨.call .own (.setPhase operatorNamespace "kn" .failed), .ok ()⟩] := by
    rw [toProgram_reconcile, hwork]
    rfl
  refine ⟨?_, hlog, ?_⟩
  · rw [hwork]
    rfl
  · rw [hlog]
    rfl

end MultiCluster.Operator
