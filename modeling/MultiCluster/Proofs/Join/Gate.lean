import MultiCluster.Proofs.Concurrency.Embedding
import MultiCluster.Proofs.Join.Course
import MultiCluster.Proofs.Join.Waiting

/-!
# What an attempt does, and when

An attempt approaches the ledger, where it commits a block, then the source of credentials, and last the registrar. It
approaches none of them before all that has to precede it has succeeded, and nobody any more once a step has failed,
whatever the collaborators answer.

Main statement: `effects_are_gated`.
-/

namespace MultiCluster.Join

variable {plan : Plan} {r : JoinRequest} {es : List (Exchange interface)} {network : ResolvedNetwork} {σ : Type}

/-- The requests for credentials among those of an attempt. -/
def credentialRequests : Interface.Embedding Credential.interface interface where
  query := .credential
  reply _ := Equiv.refl _

private theorem awaiting_eq_lift (plan : Plan) (cluster : String) : awaiting plan cluster =
    credentialRequests.lift (Credential.wait plan.backoff (Credential.identityOf cluster)).toProgram :=
  (credentialRequests.lift_eq_interpret _).symm

/-- The credential that has arrived is the answer to the last request for it. -/
private theorem Awaits.last_fetched {c : Credential} (h : Awaits plan r es network c) :
    ∃ earlier, es = earlier ++ [⟨.credential (.fetch (Credential.identityOf r.cluster)), .ok (some c)⟩] := by
  cases h with
  | @mk es es' network c h hw =>
    rw [awaiting_eq_lift] at hw
    obtain ⟨own, rfl, hwait⟩ := Interface.Embedding.done_of_trace_lift hw
    obtain ⟨earlier, rfl⟩ := Credential.trace_wait hwait
    refine ⟨es ++ earlier.map credentialRequests.exchange, ?_⟩
    rw [List.map_append, List.append_assoc]
    rfl

/-- Only the credential of the cluster is asked for. -/
private theorem fetch_of_awaiting {q : Credential.Query}
    {next : interface.Reply (.credential q) → Program interface (Except Failure Credential)}
    (h : (awaiting plan r.cluster).Trace es (.ask (.credential q) next)) :
    q = .fetch (Credential.identityOf r.cluster) := by
  rw [awaiting_eq_lift] at h
  obtain ⟨own, q', next', -, hq, hask⟩ := Interface.Embedding.ask_of_trace_lift h
  cases hq
  exact hask.next_request Credential.requests_wait

/-- Once a step has failed, the attempt is over. -/
private theorem Fails.ended {step : Step} {e : Failure} {found : Option ResolvedNetwork}
    (h : Fails plan r es step e found) :
    ∃ o, (run plan r).Trace es (.done o) := by
  have hreached : Reached plan r es (.failed step.phase e found) := ⟨step, h, rfl⟩
  exact ⟨_, hreached.ended rfl⟩

/-- Once the registrar has answered, the attempt is over. -/
private theorem Awaits.ended {c : Credential} (h : Awaits plan r es network c) (reply : Except Failure Unit) :
    ∃ o, (run plan r).Trace (es ++ [⟨.register network c, reply⟩]) (.done o) := by
  cases reply with
  | ok u =>
    have hsucceeds : Succeeds plan r (es ++ [⟨.register network c, .ok ()⟩]) network := .mk h
    have hreached : Reached plan r (es ++ [⟨.register network c, .ok ()⟩]) (.succeeded network) := hsucceeds
    exact ⟨_, hreached.ended rfl⟩
  | error e => exact (Fails.registration h).ended

private theorem Due.ledger_cases {q : Ledger.Query} (h : Due plan r es (.ledger q)) :
    ∃ earlier own network a, es = earlier ++ own ∧ Applies plan r earlier network a ∧
      ∀ e ∈ own, ∃ q', e.query = .ledger q' := by
  cases h with
  | @ledger earlier own network a _ _ h hc =>
    exact ⟨earlier, own, network, a, rfl, h, hc.forall_requests (requests_onLedger _)⟩

private theorem Due.credential_cases {q : Credential.Query} (h : Due plan r es (.credential q)) :
    q = .fetch (Credential.identityOf r.cluster) ∧
    ∃ earlier own, es = earlier ++ own ∧
      ((plan.allocator = none ∧ ∃ network, Admits r earlier network) ∨
        ∃ network block, Commits plan r earlier network block) ∧
      ∀ e ∈ own, ∃ q', e.query = .credential q' := by
  cases h with
  | @credential earlier own network _ _ h hw =>
    refine ⟨fetch_of_awaiting hw, earlier, own, rfl, ?_, hw.forall_requests (requests_onCredentials _)⟩
    rcases h.globalCidr_cases with ⟨ha, -, hadmits⟩ | ⟨found, hcommits⟩
    · exact .inl ⟨ha, network, hadmits⟩
    · exact .inr ⟨found, _, hcommits⟩

/-- The addressing that is registered is for the cluster of the request, and its global block is the one that was
committed. -/
private theorem Awaits.addressing {c : Credential} (h : Awaits plan r es network c) :
    network.cluster = r.cluster ∧
    ((plan.allocator = none ∧ network.globalCidr = none) ∨
      ∃ earlier own found, es = earlier ++ own ∧ Commits plan r earlier found network.globalCidr ∧
        ∀ e ∈ own, ∃ q', e.query = .credential q') := by
  cases h with
  | @mk earlier own _ _ h hw =>
    refine ⟨h.cluster_eq, ?_⟩
    rcases h.globalCidr_cases with ⟨ha, hnone, -⟩ | ⟨found, hcommits⟩
    · exact .inl ⟨ha, hnone⟩
    · exact .inr ⟨earlier, own, found, rfl, hcommits, hw.forall_requests (requests_onCredentials _)⟩

/-- Whatever it is answered, an attempt approaches the ledger, the source of credentials and the registrar in this
order, each only after all before has succeeded, and nobody after a failure. -/
theorem effects_are_gated (plan : Plan) (r : JoinRequest) (w : Program.World interface σ) (s : σ) :
    let es := (run plan r).log w s
    (∀ before after q reply, es = before ++ ⟨.ledger q, reply⟩ :: after →
      ∃ earlier own network a, before = earlier ++ own ∧ Applies plan r earlier network a ∧
        ∀ e ∈ own, ∃ q', e.query = .ledger q') ∧
    (∀ before after q reply, es = before ++ ⟨.credential q, reply⟩ :: after →
      q = .fetch (Credential.identityOf r.cluster) ∧
      ∃ earlier own, before = earlier ++ own ∧
        ((plan.allocator = none ∧ ∃ network, Admits r earlier network) ∨
          ∃ network block, Commits plan r earlier network block) ∧
        ∀ e ∈ own, ∃ q', e.query = .credential q') ∧
    (∀ before after network c reply, es = before ++ ⟨.register network c, reply⟩ :: after →
      after = [] ∧ Awaits plan r before network c ∧
      (∃ earlier, before = earlier ++ [⟨.credential (.fetch (Credential.identityOf r.cluster)), .ok (some c)⟩]) ∧
      network.cluster = r.cluster ∧
      ((plan.allocator = none ∧ network.globalCidr = none) ∨
        ∃ earlier own found, before = earlier ++ own ∧ Commits plan r earlier found network.globalCidr ∧
          ∀ e ∈ own, ∃ q', e.query = .credential q')) ∧
    ∀ before after step e found, es = before ++ after → Fails plan r before step e found → after = [] := by
  intro es
  obtain ⟨p, htrace⟩ : ∃ p, (run plan r).Trace es p := by
    obtain ⟨p, htrace, -⟩ := Program.exists_trace_log w (run plan r) s
    exact ⟨p, htrace⟩
  -- all that matters about the exchanges is that the attempt can have made them
  clear_value es
  have hdue : ∀ {before after : List (Exchange interface)} {q : Query} {reply : interface.Reply q},
      es = before ++ ⟨q, reply⟩ :: after → Due plan r before q := by
    intro before after q reply hes
    rw [hes] at htrace
    obtain ⟨next, hask, -⟩ := htrace.split
    exact due_of_trace_run hask
  refine ⟨?_, ?_, ?_, ?_⟩
  · intro before after q reply hes
    exact (hdue hes).ledger_cases
  · intro before after q reply hes
    exact (hdue hes).credential_cases
  · intro before after network c reply hes
    cases hdue hes with
    | register h =>
      obtain ⟨o, hover⟩ := h.ended reply
      rw [hes, List.append_cons] at htrace
      exact ⟨hover.eq_nil_of_done htrace, h, h.last_fetched, h.addressing⟩
  · intro before after step e found hes h
    obtain ⟨o, hover⟩ := h.ended
    rw [hes] at htrace
    exact hover.eq_nil_of_done htrace

end MultiCluster.Join
