import MultiCluster.Proofs.Allocation.Satisfiable
import MultiCluster.Proofs.Join.Gate
import MultiCluster.Proofs.Join.Outcome
import MultiCluster.Proofs.Join.Shared

/-!
# Attempts whose request cannot be satisfied

What an attempt asks of the allocator is checked before the ledger is asked for anything. The check says that the
cluster may have its name and that not both a block and a number of addresses are asked for. It lets requests pass that
no record can satisfy, and an attempt with such a request goes as far as to the ledger. There it fails, unless global
addressing is not in use.

Main statement: `doomed_requests_reach_ledger`.
-/

namespace MultiCluster.Join

open Allocator

variable {plan : Plan} {r : JoinRequest} {es : List (Exchange interface)} {network : ResolvedNetwork} {field : String}
  {σ : Type}

/-! ### What is asked of the allocator -/

private theorem allocationRequest_validate_iff (network : ResolvedNetwork) :
    (allocationRequest r network).validate = .ok () ↔ ClusterId.validate r.cluster = .ok () ∧
      ((∀ c ∈ r.globalCidr, Text.isBlankText c = true) ∨ r.blockSize = none) := by
  have hclaim : (allocationRequest r network).explicitCidr = none ↔ ∀ c ∈ r.globalCidr, Text.isBlankText c = true := by
    simp [allocationRequest, AllocationRequest.claiming]
  rw [AllocationRequest.validate_eq_ok_iff, hclaim]
  rfl

/-- What a request is doomed by does not depend on the addressing. -/
private theorem doomed_congr {network' : ResolvedNetwork} (h : (allocationRequest r network).Doomed field) :
    (allocationRequest r network').Doomed field :=
  h.congr rfl rfl

/-! ### Commits of doomed requests -/

section

variable {q : AllocationRequest} {a : Allocator} {record : Record}

private theorem ruling_of_doomed (h : q.Doomed field) (henabled : record.enabled = true) :
    ∃ message, ruling q record = .finish (.error (.malformed field message)) := by
  obtain ⟨message, hallocate⟩ := h.allocate_eq record
  exact ⟨message, by rw [ruling, if_pos henabled, hallocate]⟩

/-- The commit of a doomed request only reads. -/
private theorem read_of_doomed (h : q.Doomed field) {query : Ledger.Query}
    {next : interface.Reply (.ledger query) → Program interface (Except Failure (Option Network))}
    (hc : (committing a q).Trace es (.ask (.ledger query) next)) : query = .read := by
  rcases decides_of_committing hc with hread | ⟨record, v, b, -, hassign, -⟩
  · exact hread
  · obtain ⟨-, hallocate, -⟩ := ruling_eq_assign hassign
    obtain ⟨message, hrefused⟩ := h.allocate_eq record
    rw [hrefused] at hallocate
    cases hallocate

/-- The commit of a doomed request fails with the first record that it reads while global addressing is in use. -/
private theorem committing_of_doomed (h : q.Doomed field) (henabled : record.enabled = true) (v : Version)
    {next : interface.Reply (.ledger .read) → Program interface (Except Failure (Option Network))}
    (hc : (committing a q).Trace es (.ask (.ledger .read) next)) :
    ∃ message, (committing a q).Trace (es ++ [got record v]) (.done (.error (.malformed field message))) := by
  obtain ⟨message, hruling⟩ := ruling_of_doomed h henabled
  rw [committing_eq_lift] at hc ⊢
  obtain ⟨own, query, next', rfl, hquery, hask⟩ := Interface.Embedding.ask_of_trace_lift hc
  cases hquery
  have hdone := trace_commit_of_finish (v := v) hask hruling fun f hf => by cases hf; rfl
  have hlift := Interface.Embedding.trace_lift (E := ledgerRequests) hdone
  rw [List.map_append] at hlift
  exact ⟨message, hlift⟩

end

/-! ### Attempts -/

/-- A ledger request that is due is made for a valid request, and for a doomed one it is a read. -/
private theorem Due.of_ledger {query : Ledger.Query} (h : Due plan r es (.ledger query)) (network : ResolvedNetwork) :
    r.validate = .ok () ∧ (allocationRequest r network).validate = .ok () ∧
      ∀ field, (allocationRequest r network).Doomed field → query = .read := by
  cases h with
  | @ledger earlier own found a _ next h hc =>
    refine ⟨h.admits.valid, ?_, fun field hdoomed => read_of_doomed (doomed_congr hdoomed) hc⟩
    exact (allocationRequest_validate_iff network).mpr ((allocationRequest_validate_iff found).mp h.valid)

/-- An attempt with a doomed request fails with the first record that it reads while global addressing is in use. -/
private theorem Due.ended_of_doomed {record : Record} (h : Due plan r es (.ledger .read))
    (hdoomed : (allocationRequest r network).Doomed field) (henabled : record.enabled = true) (v : Version) :
    ∃ found message, (run plan r).Trace (es ++ [got record v])
      (.done { cluster := r.cluster, phase := .failed, failedIn := some .allocating, resolved := some found,
               failure := some (.malformed field message) }) := by
  cases h with
  | @ledger earlier own found a _ next h hc =>
    obtain ⟨message, hdone⟩ := committing_of_doomed (doomed_congr hdoomed) henabled v hc
    have hreached : Reached plan r (earlier ++ (own ++ [got record v]))
        (.failed .allocating (.malformed field message) found) := ⟨.commit, .commit h hdone, rfl⟩
    rw [← List.append_assoc] at hreached
    exact ⟨found, message, hreached.ended rfl⟩

/-- A request that no record can satisfy may pass the checks. Then an attempt reads the ledger, and fails for the field
that dooms the request once it reads that global addressing is in use. -/
theorem doomed_requests_reach_ledger (plan : Plan) (r : JoinRequest) (w : Program.World interface σ) (s : σ)
    (network : ResolvedNetwork) :
    let q := allocationRequest r network
    let es := (run plan r).log w s
    (q.validate = .ok () ↔ ClusterId.validate r.cluster = .ok () ∧
      ((∀ c ∈ r.globalCidr, Text.isBlankText c = true) ∨ r.blockSize = none)) ∧
    ((∃ (record : Record) (b : Network), record.enabled = true ∧ record.validate = .ok () ∧
      record.allocate q = .ok b) ↔ ∀ field, ¬ q.Doomed field) ∧
    (∀ e ∈ es, ∀ query, e.query = .ledger query → r.validate = .ok () ∧ q.validate = .ok ()) ∧
    ∀ field, q.Doomed field →
      (∀ record : Record, ∃ message, record.allocate q = .error (.malformed field message)) ∧
      (∀ e ∈ es, ∀ query, e.query = .ledger query → query = .read) ∧
      ∀ before after record v, es = before ++ got record v :: after → record.enabled = true →
        after = [] ∧ ∃ found message, ((run plan r).run w s).1 =
          some { cluster := r.cluster, phase := .failed, failedIn := some .allocating, resolved := some found,
                 failure := some (.malformed field message) } := by
  intro q es
  obtain ⟨p, htrace⟩ : ∃ p, (run plan r).Trace es p := by
    obtain ⟨p, htrace, -⟩ := Program.exists_trace_log w (run plan r) s
    exact ⟨p, htrace⟩
  have hdue : ∀ {before after : List (Exchange interface)} {query : Query} {reply : interface.Reply query},
      es = before ++ ⟨query, reply⟩ :: after → Due plan r before query := by
    intro before after query reply hes
    have hsplit : (run plan r).Trace (before ++ ⟨query, reply⟩ :: after) p := hes ▸ htrace
    obtain ⟨next, hask, -⟩ := hsplit.split
    exact due_of_trace_run hask
  have hledger : ∀ e ∈ es, ∀ query, e.query = .ledger query → ∃ before, Due plan r before (.ledger query) := by
    rintro ⟨_, reply⟩ he query rfl
    obtain ⟨before, after, hes⟩ := List.append_of_mem he
    exact ⟨before, hdue hes⟩
  refine ⟨allocationRequest_validate_iff network, AllocationRequest.satisfiable_iff, ?_, fun field hdoomed => ?_⟩
  · intro e he query hquery
    obtain ⟨before, h⟩ := hledger e he query hquery
    obtain ⟨hrequest, hvalid, -⟩ := h.of_ledger network
    exact ⟨hrequest, hvalid⟩
  refine ⟨hdoomed.allocate_eq, ?_, ?_⟩
  · intro e he query hquery
    obtain ⟨before, h⟩ := hledger e he query hquery
    exact (h.of_ledger network).2.2 field hdoomed
  · intro before after record v hes henabled
    obtain ⟨found, message, hended⟩ := (hdue hes).ended_of_doomed hdoomed henabled v
    have hsplit : es = (before ++ [got record v]) ++ after := by rw [hes, List.append_cons]
    have hover : after = [] := hended.eq_nil_of_done (hsplit ▸ htrace)
    have hlog : (run plan r).log w s = before ++ [got record v] := by
      rw [hover, List.append_nil] at hsplit
      exact hsplit
    exact ⟨hover, found, message, Program.run_of_trace_log (hlog ▸ hended)⟩

/-- No record gives a block without addresses, but the request for one passes its check. -/
theorem empty_block_passes_check :
    let q := allocationRequest { cluster := "east", blockSize := some 0 }
      { cluster := "east", serviceCidr := ⟨"10.96.0.0/12", false⟩, clusterCidr := ⟨"10.244.0.0/16", false⟩,
        plugin := "generic" }
    q.validate = .ok () ∧ ¬ ∃ (record : Record) (b : Network), record.enabled = true ∧ record.allocate q = .ok b := by
  intro q
  have hname : ClusterId.validate "east" = .ok () := rfl
  refine ⟨AllocationRequest.validate_eq_ok_iff.mpr ⟨hname, .inl rfl⟩, ?_⟩
  rintro ⟨record, b, -, hb⟩
  have hdoomed : q.Doomed "globalnetClusterSize" := .sizeless rfl rfl (.inl rfl)
  obtain ⟨message, hrefused⟩ := hdoomed.allocate_eq record
  rw [hrefused] at hb
  cases hb

end MultiCluster.Join
