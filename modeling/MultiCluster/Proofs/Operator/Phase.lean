import MultiCluster.Proofs.Operator.Permits

/-!
# How an attempt is reported

The phase of a membership tells whether the last attempt went well. A reconciliation sets it once the work is over,
unless it has this phase already, and it fails only if this request does. So after a reconciliation that does not fail,
the phase that the API server keeps is the one that the work calls for.

Main statement: `attempt_is_reported`.
-/

namespace MultiCluster.Operator

variable {σ : Type} {broker : Broker} {spec : MembershipSpec} {m : Membership} {es : List (Exchange interface)}
  {result : Except Failure Unit} {w : Program.World interface σ} {s s' : σ}

/-! ### The request that sets the phase -/

/-- The request that sets the phase of a membership. -/
def patch (m : Membership) (phase : MembershipPhase) : Query :=
  .call .own (.setPhase (m.metadata.space.getD "submariner-operator") m.metadata.anyName phase)

/-- A request that sets the phase of some membership. -/
def IsPatch (q : Query) : Prop :=
  ∃ site space name phase, q = .call site (.setPhase space name phase)

/-- The work never sets a phase. -/
private theorem Works.not_isPatch (h : Works broker spec es result) : ∀ x ∈ es, ¬ IsPatch x.query := by
  rintro x hx ⟨site, space, name, phase, hq⟩
  obtain ⟨hpermits, hstatus⟩ := h.permits x hx
  rw [hq] at hpermits hstatus
  cases site with
  | own => exact hstatus rfl
  | broker => exact hpermits

/-- What setting the phase comes to in a world, from a state: the exchanges, the outcome and the next state. -/
inductive Sets (w : Program.World interface σ) (m : Membership) (phase : MembershipPhase) (s : σ) :
    List (Exchange interface) → Except Failure Unit → σ → Prop
  /-- The membership has this phase already. -/
  | unchanged (h : m.status.map MembershipStatus.phase = some phase) : Sets w m phase s [] (.ok ()) s
  | patched {s' : σ} (h : m.status.map MembershipStatus.phase ≠ some phase)
      (hreply : w.answer (patch m phase) s = (.ok (), s')) : Sets w m phase s [⟨patch m phase, .ok ()⟩] (.ok ()) s'
  | refused {s' : σ} {e : ApiFailure} (h : m.status.map MembershipStatus.phase ≠ some phase)
      (hreply : w.answer (patch m phase) s = (.error e, s')) :
      Sets w m phase s [⟨patch m phase, .error e⟩] (.error (.kubernetes e)) s'

private theorem sets_setPhase (w : Program.World interface σ) (m : Membership) (phase : MembershipPhase) (s : σ) :
    ∃ o s', (setPhase m phase).toProgram.run w s = (some o, s') ∧
      Sets w m phase s ((setPhase m phase).toProgram.log w s) o s' := by
  by_cases h : m.status.map MembershipStatus.phase = some phase
  · rw [setPhase, if_pos h]
    exact ⟨.ok (), s, rfl, .unchanged h⟩
  · have hrun : (setPhase m phase).toProgram.run w s =
        (some (Api.toFailure (w.answer (patch m phase) s).1), (w.answer (patch m phase) s).2) := by
      rw [setPhase, if_neg h]
      rfl
    have hlog : (setPhase m phase).toProgram.log w s = [⟨patch m phase, (w.answer (patch m phase) s).1⟩] := by
      rw [setPhase, if_neg h]
      rfl
    rw [hrun, hlog]
    rcases hreply : w.answer (patch m phase) s with ⟨e | u, s'⟩
    · exact ⟨_, s', rfl, .refused h hreply⟩
    · exact ⟨_, s', rfl, .patched h hreply⟩

private theorem Sets.requests {phase : MembershipPhase} {o : Except Failure Unit} (h : Sets w m phase s es o s') :
    (m.status.map MembershipStatus.phase = some phase → es = []) ∧
      (m.status.map MembershipStatus.phase ≠ some phase → ∃ reply, es = [⟨patch m phase, reply⟩]) := by
  cases h with
  | unchanged h => exact ⟨fun _ => rfl, fun hne => absurd h hne⟩
  | patched h => exact ⟨fun heq => absurd heq h, fun _ => ⟨_, rfl⟩⟩
  | refused h => exact ⟨fun heq => absurd heq h, fun _ => ⟨_, rfl⟩⟩

private theorem Sets.eq_error_iff {phase : MembershipPhase} {o : Except Failure Unit} (h : Sets w m phase s es o s')
    (f : Failure) : o = .error f ↔ ∃ e, f = .kubernetes e ∧ ⟨patch m phase, .error e⟩ ∈ es := by
  cases h with
  | unchanged h => exact iff_of_false nofun fun ⟨e, _, hmem⟩ => nomatch hmem
  | patched h hreply =>
    refine iff_of_false nofun ?_
    rintro ⟨e, -, hmem⟩
    cases List.mem_singleton.mp hmem
  | refused h hreply =>
    constructor
    · rintro ⟨⟩
      exact ⟨_, rfl, List.mem_cons_self⟩
    · rintro ⟨e, rfl, hmem⟩
      cases List.mem_singleton.mp hmem
      rfl

/-! ### What a server keeps -/

/-- The API servers keep a phase of the membership: a request to set it does so if it succeeds, and no request that sets
no phase changes it. -/
structure KeepsPhase (w : Program.World interface σ) (m : Membership) (stored : σ → Option MembershipPhase) : Prop where
  patched : ∀ {phase s s'}, w.answer (patch m phase) s = (.ok (), s') → stored s' = some phase
  answered : ∀ q s, ¬ IsPatch q → stored (w.answer q s).2 = stored s
  rested : ∀ d s, stored (w.rest d s) = stored s

/-- The work leaves the phase as it is. -/
private theorem KeepsPhase.stored_work {stored : σ → Option MembershipPhase} (hkeeps : KeepsPhase w m stored)
    (hrun : (work broker spec).toProgram.run w s = (some result, s'))
    (hworks : Works broker spec ((work broker spec).toProgram.log w s) result) : stored s' = stored s := by
  have hkept : stored ((work broker spec).toProgram.run w s).2 = stored s := by
    refine Program.run_preserves (R := fun t => stored t = stored s) (fun x hx t ht => ?_) (fun d t ht => ?_) rfl
    · rw [hkeeps.answered _ _ (hworks.not_isPatch x hx), ht]
    · rw [hkeeps.rested, ht]
  rwa [hrun] at hkept

/-- A server keeps the phase once it is set. -/
private theorem KeepsPhase.stored_set {stored : σ → Option MembershipPhase} (hkeeps : KeepsPhase w m stored)
    {phase : MembershipPhase} (h : Sets w m phase s es (.ok ()) s')
    (hs : stored s = m.status.map MembershipStatus.phase) : stored s' = some phase := by
  cases h with
  | unchanged h => rw [hs, h]
  | patched h hreply => exact hkeeps.patched hreply

/-! ### Reconciliations -/

private theorem phaseAfter_eq_running_iff : phaseAfter result = .running ↔ result = .ok () := by
  cases result <;> simp [phaseAfter]

private theorem phaseAfter_eq_failed_iff : phaseAfter result = .failed ↔ ∃ e, result = .error e := by
  cases result <;> simp [phaseAfter]

private theorem requeueAfter_cases (result : Except Failure Unit) :
    (result = .ok () → requeueAfter result = 300) ∧ ((∃ e, result = .error e) → requeueAfter result = 60) := by
  cases result <;> simp [requeueAfter]

/-- A reconciliation runs like its work, and then sets the phase. -/
private theorem run_reconcile (broker : Broker) (m : Membership) (w : Program.World interface σ) (s : σ) :
    ∃ result s' set o s'', (work broker m.spec).toProgram.run w s = (some result, s') ∧
      Works broker m.spec ((work broker m.spec).toProgram.log w s) result ∧
      Sets w m (phaseAfter result) s' set o s'' ∧
      (reconcile broker m).toProgram.run w s = (some (o.map fun _ => requeueAfter result), s'') ∧
      (reconcile broker m).toProgram.log w s = (work broker m.spec).toProgram.log w s ++ set := by
  obtain ⟨result, s', hwork⟩ := (finishes_work broker m.spec).run w s
  obtain ⟨o, s'', hset, hsets⟩ := sets_setPhase w m (phaseAfter result) s'
  have hworks := works_of_trace (Program.trace_log_of_run (congrArg Prod.fst hwork))
  refine ⟨result, s', _, o, s'', hwork, hworks, hsets, ?_, ?_⟩
  · rw [toProgram_reconcile, Program.run_bind, hwork]
    simp only [Program.run_bind, hset]
    rfl
  · rw [toProgram_reconcile, Program.log_bind, hwork]
    exact congrArg (List.append _) (Program.log_bind_done ..)

/-- A reconciliation sets the phase that its work calls for unless the membership has it already, fails exactly if this
request fails, and comes back after 300 or else after 60 seconds. -/
theorem attempt_is_reported (broker : Broker) (m : Membership) (w : Program.World interface σ) (s : σ) :
    let own := (work broker m.spec).toProgram.log w s
    let es := (reconcile broker m).toProgram.log w s
    let current := m.status.map MembershipStatus.phase
    ∃ result target outcome s' s'', (work broker m.spec).toProgram.run w s = (some result, s') ∧
      (reconcile broker m).toProgram.run w s = (some outcome, s'') ∧
      (target = .running ↔ result = .ok ()) ∧ (target = .failed ↔ ∃ e, result = .error e) ∧
      (∀ x ∈ own, ¬ IsPatch x.query) ∧
      (current = some target → es = own) ∧
      (current ≠ some target → ∃ reply, es = own ++ [⟨patch m target, reply⟩]) ∧
      (∀ f, outcome = .error f ↔ ∃ e, f = .kubernetes e ∧ ⟨patch m target, .error e⟩ ∈ es) ∧
      (∀ seconds, outcome = .ok seconds →
        (result = .ok () → seconds = 300) ∧ ((∃ e, result = .error e) → seconds = 60)) ∧
      ∀ stored : σ → Option MembershipPhase, KeepsPhase w m stored → stored s = current →
        ∀ seconds, outcome = .ok seconds → stored s'' = some target := by
  intro own es current
  obtain ⟨result, s', set, o, s'', hwork, hworks, hsets, hrun, hes⟩ := run_reconcile broker m w s
  have hes : es = own ++ set := hes
  obtain ⟨hunchanged, hchanged⟩ := hsets.requests
  refine ⟨result, phaseAfter result, _, s', s'', hwork, hrun, phaseAfter_eq_running_iff, phaseAfter_eq_failed_iff,
    hworks.not_isPatch, fun heq => ?_, fun hne => ?_, fun f => ?_, fun seconds hseconds => ?_, ?_⟩
  · rw [hes, hunchanged heq, List.append_nil]
  · obtain ⟨reply, hset⟩ := hchanged hne
    exact ⟨reply, by rw [hes, hset]⟩
  · have hfails : (o.map fun _ => requeueAfter result) = .error f ↔ o = .error f := by cases o <;> simp [Except.map]
    rw [hfails, hsets.eq_error_iff, hes]
    refine exists_congr fun e => and_congr_right fun _ => (List.mem_append.trans ?_).symm
    exact or_iff_right fun hmem => hworks.not_isPatch _ hmem ⟨_, _, _, _, rfl⟩
  · obtain rfl : requeueAfter result = seconds := by cases o <;> cases hseconds; rfl
    exact requeueAfter_cases result
  · intro stored hkeeps hs seconds hseconds
    obtain rfl : o = .ok () := by cases o <;> cases hseconds; rfl
    exact hkeeps.stored_set hsets ((hkeeps.stored_work hwork hworks).trans hs)

/-- The servers of two clusters that refuse every call but to set a phase, and keep the phase that was set last. -/
def keeping (e : ApiFailure) : Program.World interface (Option MembershipPhase) where
  answer
    | .call _ (.setPhase _ _ phase), _ => (.ok (), some phase)
    | .call _ _, s => (.error e, s)
    | .publish _, s => ((), s)

/-- A membership was running, and then its settings for joining were taken away. It is rejected, and the server has it
as failed afterwards. -/
theorem rejected_membership_is_reported :
    let broker : Broker := { space := "submariner-k8s-broker", apiServer := "https://broker:6443" }
    let m : Membership := {
      metadata := { name := some "kn" }, spec := { action := .join }, status := some { phase := .running } }
    let w := keeping (.transport "connection refused")
    KeepsPhase w m id ∧ id (some .running) = m.status.map MembershipStatus.phase ∧
      ∃ s'', (reconcile broker m).toProgram.run w (some .running) = (some (.ok 60), s'') ∧ id s'' = some .failed := by
  intro broker m w
  have hkeeps : KeepsPhase w m id := by
    refine ⟨fun h => (congrArg Prod.snd h).symm, fun q s h => ?_, fun d s => rfl⟩
    match q with
    | .call site c =>
      cases c with
      | setPhase space name phase => exact absurd ⟨site, space, name, phase, rfl⟩ h
      | _ => rfl
    | .publish event => rfl
  have hvalid : m.spec.validate = .error (.malformed "joinConfig" "required for action join") := by decide
  obtain ⟨result, target, outcome, s', s'', hwork, hrun, -, hfailed, -, -, -, hrefused, hseconds, hstored⟩ :=
    attempt_is_reported broker m w (some .running)
  have hresult := ((works_of_trace (Program.trace_log_of_run (congrArg Prod.fst hwork))).of_invalid hvalid).2
  have htarget : target = .failed := hfailed.mpr ⟨_, hresult⟩
  cases outcome with
  | error f =>
    -- the request to set the phase would have been refused
    obtain ⟨e, -, hmem⟩ := (hrefused f).mp rfl
    obtain ⟨t, hreply⟩ := Program.reply_of_mem_log hmem
    cases hreply
  | ok seconds =>
    obtain rfl : seconds = 60 := (hseconds seconds rfl).2 ⟨_, hresult⟩
    refine ⟨hkeeps, rfl, s'', hrun, ?_⟩
    rw [hstored id hkeeps rfl 60 rfl, htarget]

end MultiCluster.Operator
