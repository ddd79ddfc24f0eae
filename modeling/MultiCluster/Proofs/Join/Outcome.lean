import MultiCluster.Proofs.Join.Termination

/-!
# The outcome of an attempt

An attempt comes to an end, and its outcome says how: which step failed first, if one did, with which failure, in which
phase, and how far the addressing was resolved until then.

Main statement: `outcome_is_exact`.
-/

namespace MultiCluster.Join

variable {plan : Plan} {r : JoinRequest} {es : List (Exchange interface)} {network : ResolvedNetwork}
  {block : Network} {step : Step} {e : Failure} {found : Option ResolvedNetwork} {σ : Type}

/-! ### What a failed attempt has found out -/

private theorem Fails.found_eq_none_iff (h : Fails plan r es step e found) :
    found = none ↔ step.phase = .discovering := by
  cases h <;> simp [Step.phase]

/-- A commit among some exchanges returned a block. -/
def Committed (plan : Plan) (r : JoinRequest) (es : List (Exchange interface)) (block : Network) : Prop :=
  ∃ earlier later network, es = earlier ++ later ∧ Commits plan r earlier network (some block)

private theorem Committed.append (h : Committed plan r es block) (es' : List (Exchange interface)) :
    Committed plan r (es ++ es') block := by
  obtain ⟨earlier, later, network, rfl, hcommits⟩ := h
  exact ⟨earlier, later ++ es', network, List.append_assoc .., hcommits⟩

private theorem Allocates.committed_of_globalCidr (h : Allocates plan r es network)
    (hb : network.globalCidr = some block) :
    Committed plan r es block := by
  rcases h.globalCidr_cases with ⟨-, hnone, -⟩ | ⟨found, hcommits⟩
  · rw [hb] at hnone
    cases hnone
  · rw [hb] at hcommits
    exact ⟨es, [], found, (List.append_nil es).symm, hcommits⟩

private theorem Succeeds.committed_of_globalCidr (h : Succeeds plan r es network)
    (hb : network.globalCidr = some block) :
    Committed plan r es block := by
  obtain ⟨earlier, later, rfl, hallocates⟩ := h.allocates
  exact (hallocates.committed_of_globalCidr hb).append later

/-- A global block in what a failed attempt has found out is one that its commit returned. -/
private theorem Fails.committed_of_globalCidr (h : Fails plan r es step e (some network))
    (hb : network.globalCidr = some block) : Committed plan r es block := by
  by_cases hphase : step.phase = .registering
  · obtain ⟨earlier, later, rfl, hallocates⟩ := h.allocates hphase
    exact (hallocates.committed_of_globalCidr hb).append later
  · rw [h.globalCidr_eq hphase] at hb
    cases hb

theorem Admits.valid (h : Admits r es network) : r.validate = .ok () := by
  cases h with
  | mk h hv => exact hv

private theorem Succeeds.valid (h : Succeeds plan r es network) : r.validate = .ok () := by
  obtain ⟨earlier, later, -, hallocates⟩ := h.allocates
  rcases hallocates.globalCidr_cases with ⟨-, -, hadmits⟩ | ⟨found, hcommits⟩
  · exact hadmits.valid
  · cases hcommits with
    | mk h hc => exact h.admits.valid

/-! ### Outcomes -/

section Ended

variable {o : JoinOutcome} (h : (run plan r).Trace es (.done o))

include h

private theorem eq_outcomeOf {s : State} (hs : Reached plan r es s) (hterminal : s.isTerminal = true) :
    o = outcomeOf r.cluster s :=
  h.value_unique (hs.ended hterminal)

private theorem phase_eq_succeeded_iff : o.phase = .succeeded ↔ ∃ network, Succeeds plan r es network := by
  constructor
  · intro ho
    rcases run_cases h with ⟨network, hsucceeds, -⟩ | ⟨step, e, found, -, rfl⟩
    · exact ⟨network, hsucceeds⟩
    · cases ho
  · rintro ⟨network, hsucceeds⟩
    rw [eq_outcomeOf h (s := .succeeded network) hsucceeds rfl]
    rfl

theorem phase_eq_failed_iff : o.phase = .failed ↔ ∃ step e found, Fails plan r es step e found := by
  constructor
  · intro ho
    rcases run_cases h with ⟨network, -, rfl⟩ | ⟨step, e, found, hfails, -⟩
    · cases ho
    · exact ⟨step, e, found, hfails⟩
  · rintro ⟨step, e, found, hfails⟩
    rw [eq_outcomeOf h (s := .failed step.phase e found) ⟨step, hfails, rfl⟩ rfl]
    rfl

private theorem resolved_eq_none_iff : o.resolved = none ↔ o.failedIn = some .discovering := by
  rcases run_cases h with ⟨network, -, rfl⟩ | ⟨step, e, found, hfails, rfl⟩
  · simp
  · simp [hfails.found_eq_none_iff]

private theorem committed_of_resolved (hr : o.resolved = some network) (hb : network.globalCidr = some block) :
    Committed plan r es block := by
  rcases run_cases h with ⟨network', hsucceeds, rfl⟩ | ⟨step, e, found, hfails, rfl⟩
  · cases hr
    exact hsucceeds.committed_of_globalCidr hb
  · cases hr
    exact hfails.committed_of_globalCidr hb

private theorem toExcept_eq_ok_iff : (∃ network, o.toExcept = .ok network) ↔ o.phase = .succeeded := by
  rcases run_cases h with ⟨network, -, rfl⟩ | ⟨step, e, found, -, rfl⟩
  · simp [JoinOutcome.toExcept]
  · simp [JoinOutcome.toExcept]

end Ended

/-- An attempt ends, whatever it is answered, and its outcome is that all steps succeeded, or which one failed first, in
which phase and how, with the addressing as far as it was resolved. -/
theorem outcome_is_exact (hbudget : ∀ a, plan.allocator = some a → 0 < a.retry.maxAttempts) (r : JoinRequest)
    (w : Program.World interface σ) (s : σ) :
    let es := (run plan r).log w s
    ∃ o s', (run plan r).run w s = (some o, s') ∧
      ((∃ network, Succeeds plan r es network ∧
          o = { cluster := r.cluster, phase := .succeeded, resolved := some network }) ∨
        ∃ step e found, Fails plan r es step e found ∧
          o = { cluster := r.cluster, phase := .failed, failedIn := some step.phase, resolved := found,
                failure := some e }) ∧
      (o.phase = .succeeded ↔ ∃ network, Succeeds plan r es network) ∧
      (o.phase = .failed ↔ ∃ step e found, Fails plan r es step e found) ∧
      (o.resolved = none ↔ o.failedIn = some .discovering) ∧
      (∀ network block, o.resolved = some network → network.globalCidr = some block → Committed plan r es block) ∧
      ((∃ network, o.toExcept = .ok network) ↔ o.phase = .succeeded) ∧
      (∃ t, (drive plan r .discovering).run w s = (some t, s') ∧ t.isTerminal = true ∧ o = outcomeOf r.cluster t) ∧
      ¬(o.failure = none ∧ o.resolved = none) := by
  intro es
  obtain ⟨t, s', hdrive⟩ := (finishes_drive hbudget r .discovering).run w s
  have hterminal : t.isTerminal = true :=
    (trace_drive_iff.mp (Program.trace_log_of_run (congrArg Prod.fst hdrive))).2
  have hrun : (run plan r).run w s = (some (outcomeOf r.cluster t), s') := by
    rw [run, Program.run_bind, hdrive]
    rfl
  have hended : (run plan r).Trace es (.done (outcomeOf r.cluster t)) :=
    Program.trace_log_of_run (congrArg Prod.fst hrun)
  refine ⟨_, s', hrun, run_cases hended, phase_eq_succeeded_iff hended, phase_eq_failed_iff hended,
    resolved_eq_none_iff hended, fun network block => committed_of_resolved hended, toExcept_eq_ok_iff hended,
    ⟨t, hdrive, hterminal, rfl⟩, ?_⟩
  rintro ⟨hfailure, hresolved⟩
  rcases run_cases hended with ⟨network, -, ho⟩ | ⟨step, e, found, -, ho⟩
  · rw [ho] at hresolved
    cases hresolved
  · rw [ho] at hfailure
    cases hfailure

/-- A world in which everybody answers what an attempt needs, but the plugin of the cluster is not known. -/
def obliging : Program.World interface Unit where
  answer
    | .cluster (.configMap _ _), s => (.ok none, s)
    | .cluster (.pods _), s => (.ok [], s)
    | .cluster (.service _ _), s => (.ok false, s)
    | .cluster .openShiftNetwork, s => (.ok none, s)
    | .cluster (.createProbe _), s => (.ok (.rejected ""), s)
    | .cluster (.deleteProbe _ _), s => (.ok (), s)
    | .requirements, s => (.ok [], s)
    | .ledger .read, s => (.ok (Record.empty { address := 4060086272, length := 8 } 65536 false, ⟨"1"⟩), s)
    | .ledger (.create _), s => (.ok false, s)
    | .ledger (.writeIfUnchanged _ _), s => (.ok (), s)
    | .credential (.fetch identity), s => (.ok (some { identity, token := "token", ca := [] }), s)
    | .register _ _, s => (.ok (), s)

/-- A request for a cluster without a name fails, although everybody answers what the attempt needs. -/
theorem nameless_outcome_is_exact :
    let plan : Plan := { allocator := some { ledgerName := "ledger", retry := .withMaxAttempts 3 } }
    let r : JoinRequest := { cluster := "", serviceCidr := some "10.96.0.0/12", clusterCidr := some "10.244.0.0/16" }
    (∀ a, plan.allocator = some a → 0 < a.retry.maxAttempts) ∧
      ∃ o s', (run plan r).run obliging () = (some o, s') ∧ o.phase = .failed := by
  intro plan r
  have hbudget : ∀ a, plan.allocator = some a → 0 < a.retry.maxAttempts := by
    intro a ha
    cases ha
    decide
  obtain ⟨o, s', hrun, hcases, -⟩ := outcome_is_exact hbudget r obliging ()
  refine ⟨hbudget, o, s', hrun, ?_⟩
  rcases hcases with ⟨network, hsucceeds, -⟩ | ⟨step, e, found, -, ho⟩
  · have hvalid : ClusterId.validate "" >>= _ = .ok () := hsucceeds.valid
    obtain ⟨u, hname, -⟩ := bind_eq_ok_cases hvalid
    rw [ClusterId.validate, if_pos (by decide)] at hname
    cases hname
  · rw [ho]

end MultiCluster.Join
