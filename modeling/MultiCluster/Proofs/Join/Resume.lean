import MultiCluster.Proofs.Join.Outcome
import MultiCluster.Proofs.Join.Shared

/-!
# A later attempt finds the same block

What an attempt has committed stays committed, however the attempt ends. So a later attempt with the same request gets
the same block, and as there is nothing left to decide, it does not write to the ledger.

Main statement: `attempt_resumes_on_its_block`.
-/

namespace MultiCluster.Join

open Allocator

variable {σ : Type} {plan : Plan} {r : JoinRequest} {network : ResolvedNetwork} {g : Option Network} {l : MemoryLedger}

/-- A request that leaves the ledger as it is. -/
def Reads (q : Query) : Prop :=
  ∀ query, q = .ledger query → query = .read

/-- A request to somebody else. -/
def AvoidsLedger (q : Query) : Prop :=
  ∀ query, q ≠ .ledger query

/-- A world in which nobody else uses the ledger, and each request to it is answered. -/
abbrev undisturbed (w : Program.World interface σ) : Program.World interface (MemoryLedger × σ) :=
  sharing w fun _ _ => .answered

variable {w : Program.World interface σ} {s : MemoryLedger × σ}

private theorem undisturbed_reads {q : Query} (hq : Reads q) (hs : s.1 = l) : ((undisturbed w).answer q s).2.1 = l := by
  by_cases hledger : ∃ query, q = .ledger query
  · obtain ⟨query, rfl⟩ := hledger
    obtain rfl := hq query rfl
    exact hs
  · rw [sharing_other w _ s fun query heq => hledger ⟨query, heq⟩]
    exact hs

private theorem yields_of_requests {α : Type} {p : Program interface α} (hp : p.Finishes)
    (hrequests : p.Requests (I := interface) AvoidsLedger) (hs : s.1 = l) :
    p.Yields (undisturbed w) Reads (fun _ s' => s'.1 = l) s := by
  have hreads : p.Requests (I := interface) Reads :=
    hrequests.imp fun q hq query heq => absurd heq (hq query)
  exact hp.yields (R := fun s' : MemoryLedger × σ => s'.1 = l) hreads undisturbed_reads id hs

private theorem yields_request {q : Query} (hq : AvoidsLedger q) (hs : s.1 = l) :
    (Program.request (I := interface) q).Yields (undisturbed w) Reads (fun _ s' => s'.1 = l) s :=
  yields_of_requests (Program.finishes_request (I := interface) q) (Program.requests_request (I := interface) hq) hs

section Rules

variable {n : Nat} {α : Type} {phase : JoinPhase} {found : Option ResolvedNetwork}
  {next : α → Program interface (Later (n + 1))} {Q : Later (n + 1) → MemoryLedger × σ → Prop}

private theorem yields_enter {t : State} {h : t.remaining < n + 1} (hQ : Q ⟨t, h⟩ s) :
    (enter t h).Yields (undisturbed w) Reads Q s :=
  hQ

private theorem yields_proceed {t : Task interface α} {B : Except Failure α → MemoryLedger × σ → Prop}
    (ht : t.toProgram.Yields (undisturbed w) Reads B s)
    (herror : ∀ {e s'}, B (.error e) s' → Q ⟨.failed phase e found, Nat.succ_pos n⟩ s')
    (hok : ∀ {a s'}, B (.ok a) s' → (next a).Yields (undisturbed w) Reads Q s') :
    (proceed phase found t next).Yields (undisturbed w) Reads Q s := by
  refine ht.bind fun {o s'} hB => ?_
  cases o with
  | ok a => exact hok hB
  | error e => exact yields_enter (herror hB)

private theorem yields_proceed_ofExcept {o : Except Failure α}
    (herror : ∀ {e}, o = .error e → Q ⟨.failed phase e found, Nat.succ_pos n⟩ s)
    (hok : ∀ {a}, o = .ok a → (next a).Yields (undisturbed w) Reads Q s) :
    (proceed phase found (Task.ofExcept o) next).Yields (undisturbed w) Reads Q s := by
  cases o with
  | ok a => exact hok rfl
  | error e => exact yields_enter (herror rfl)

end Rules

/-- Where an attempt can stand whose request is settled: it fails in one of the first two phases, or it gets past the
allocation with the block that is settled. -/
def OnCourse (r : JoinRequest) (g : Option Network) : State → Prop
  | .discovering => True
  | .validating _ => True
  | .allocating network request => request = allocationRequest r network ∧ request.validate = .ok ()
  | .registering network _ => network.globalCidr = g
  | .succeeded network => network.globalCidr = g
  | .failed phase _ found =>
    phase = .discovering ∨ phase = .validating ∨
      (phase = .registering ∧ ∃ network, found = some network ∧ network.globalCidr = g)

private theorem committing_yields {a : Allocator} {q : AllocationRequest} (hq : q.validate = .ok ())
    (h : SettledAt q g l) (hs : s.1 = l) :
    (committing a q).Yields (undisturbed w) Reads (fun o s' => o = .ok g ∧ s'.1 = l) s := by
  obtain ⟨record, n, hholds, hsettled⟩ := h
  obtain ⟨left, hleft⟩ := a.retry.exists_attempts
  rw [committing_eq_lift, commit_of_ok hq, hleft, trying_succ]
  refine ⟨?_, ?_⟩
  · intro query heq
    cases heq
    rfl
  · have hread : s.1.read = .ok (record, MemoryLedger.versionOf n) := by
      rw [hs]
      exact hholds.read
    show (ledgerRequests.lift (reviewing a q left _ s.1.read)).Yields _ _ _ (s.1, _)
    rw [hread, reviewing_of_finish hsettled]
    exact ⟨rfl, hs⟩

/-- What a transition of such an attempt does: it leaves the ledger as it is. -/
abbrev StaysOnCourse (w : Program.World interface σ) (r : JoinRequest) (g : Option Network) (l : MemoryLedger) {n : Nat}
    (p : Program interface (Later n)) (s : MemoryLedger × σ) : Prop :=
  p.Yields (undisturbed w) Reads (fun t s' => OnCourse r g t.1 ∧ s'.1 = l) s

private theorem discoverNetwork_stays (hs : s.1 = l) : StaysOnCourse w r g l (discoverNetwork r) s := by
  have hrequests : discovery.Requests (I := interface) AvoidsLedger := by
    refine (requests_onCluster _).imp ?_
    rintro q ⟨q', rfl⟩ query heq
    cases heq
  refine yields_proceed (yields_of_requests finishes_discovery hrequests hs) ?_ ?_
  · intro e s' hs'
    exact ⟨.inl rfl, hs'⟩
  · intro found s' hs'
    refine yields_proceed_ofExcept ?_ ?_
    · intro e _
      exact ⟨.inl rfl, hs'⟩
    · intro network _
      exact yields_enter ⟨trivial, hs'⟩

private theorem awaitCredential_stays {n : Nat} (hg : network.globalCidr = g) (hs : s.1 = l) :
    StaysOnCourse w r g l (awaitCredential (n := n) plan network) s := by
  have hrequests : (awaiting plan network.cluster).Requests (I := interface) AvoidsLedger := by
    refine (requests_onCredentials _).imp ?_
    rintro q ⟨q', rfl⟩ query heq
    cases heq
  refine yields_proceed (yields_of_requests (finishes_awaiting plan _) hrequests hs) ?_ ?_
  · intro e s' hs'
    exact ⟨.inr (.inr ⟨rfl, network, rfl, hg⟩), hs'⟩
  · intro c s' hs'
    exact yields_enter ⟨hg, hs'⟩

private theorem validate_stays (ha : plan.allocator ≠ none) (hs : s.1 = l) :
    StaysOnCourse w r g l (validate plan r network) s := by
  have hfailed : ∀ {e} {s' : MemoryLedger × σ}, s'.1 = l →
      OnCourse r g (.failed .validating e (some network)) ∧ s'.1 = l := fun hs' => ⟨.inr (.inl rfl), hs'⟩
  have hrequirements : AvoidsLedger .requirements := by
    intro query heq
    cases heq
  refine yields_proceed_ofExcept (fun _ => hfailed hs) fun _ => ?_
  refine yields_proceed (yields_request hrequirements hs) hfailed ?_
  intro unmet s' hs'
  refine yields_proceed_ofExcept (fun _ => hfailed hs') fun _ => ?_
  unfold prepareAllocation
  cases hallocator : plan.allocator with
  | none => exact absurd hallocator ha
  | some a =>
    refine yields_proceed_ofExcept (fun _ => hfailed hs') fun hq => ?_
    exact yields_enter ⟨⟨rfl, hq⟩, hs'⟩

private theorem allocate_stays (ha : plan.allocator ≠ none) (hq : (allocationRequest r network).validate = .ok ())
    (hsettled : SettledAt (allocationRequest r network) g l) (hs : s.1 = l) :
    StaysOnCourse w r g l (allocate plan network (allocationRequest r network)) s := by
  unfold allocate
  cases hallocator : plan.allocator with
  | none => exact absurd hallocator ha
  | some a =>
    refine yields_proceed (committing_yields (a := a) hq hsettled hs) ?_ ?_
    · rintro e s' ⟨heq, -⟩
      cases heq
    · rintro block s' ⟨heq, hs'⟩
      cases heq
      exact awaitCredential_stays rfl hs'

private theorem registerCluster_stays {c : Credential} (hg : network.globalCidr = g) (hs : s.1 = l) :
    StaysOnCourse w r g l (registerCluster network c) s := by
  have hregister : AvoidsLedger (.register network c) := by
    intro query heq
    cases heq
  refine yields_proceed (yields_request hregister hs) ?_ ?_
  · intro e s' hs'
    exact ⟨.inr (.inr ⟨rfl, network, rfl, hg⟩), hs'⟩
  · intro u s' hs'
    exact yields_enter ⟨hg, hs'⟩

/-- A transition of an attempt whose request is settled leaves the ledger as it is, and keeps the attempt on its
course. -/
private theorem transition_stays (ha : plan.allocator ≠ none)
    (hsettled : ∀ network, SettledAt (allocationRequest r network) g l) {t : State} (ht : OnCourse r g t)
    (hterminal : t.isTerminal = false) (hs : s.1 = l) : StaysOnCourse w r g l (transition plan r t hterminal) s := by
  cases t with
  | discovering => exact discoverNetwork_stays hs
  | validating network => exact validate_stays ha hs
  | allocating network request =>
    obtain ⟨rfl, hq⟩ := ht
    exact allocate_stays ha hq (hsettled network) hs
  | registering network c => exact registerCluster_stays ht hs
  | succeeded network => cases hterminal
  | failed phase e found => cases hterminal

private theorem drive_stays (ha : plan.allocator ≠ none)
    (hsettled : ∀ network, SettledAt (allocationRequest r network) g l) {t : State} (ht : OnCourse r g t)
    (hs : s.1 = l) : (drive plan r t).Yields (undisturbed w) Reads
      (fun t' s' => OnCourse r g t' ∧ t'.isTerminal = true ∧ s'.1 = l) s := by
  induction hn : t.remaining using Nat.strongRecOn generalizing t s with
  | ind n ih =>
    subst hn
    unfold drive
    split
    · exact ⟨ht, ‹_›, hs⟩
    · have hstep := transition_stays (w := w) ha hsettled ht (Bool.eq_false_iff.mpr ‹_›) hs
      refine hstep.bind fun {t' s'} h => ?_
      exact ih _ t'.2 h.1 h.2 rfl

/-- An attempt that stays on its course to the end fails in one of the first two phases, or gets past the
allocation. -/
private theorem OnCourse.outcome {t : State} (h : OnCourse r g t) (hterminal : t.isTerminal = true) :
    (outcomeOf r.cluster t).failedIn = some .discovering ∨ (outcomeOf r.cluster t).failedIn = some .validating ∨
      PastAllocation (outcomeOf r.cluster t) g := by
  cases t with
  | discovering => cases hterminal
  | validating network => cases hterminal
  | allocating network request => cases hterminal
  | registering network c => cases hterminal
  | succeeded network => exact .inr (.inr ⟨.inl rfl, network, rfl, h⟩)
  | failed phase e found =>
    rcases h with rfl | rfl | ⟨rfl, network, rfl, hg⟩
    · exact .inl rfl
    · exact .inr (.inl rfl)
    · exact .inr (.inr ⟨.inr rfl, network, rfl, hg⟩)

/-- What was asked in an attempt that got past the allocation is valid. -/
private theorem valid_of_past_allocation {es : List (Exchange interface)} {o : JoinOutcome}
    (h : (run plan r).Trace es (.done o)) (ho : PastAllocation o g) (ha : plan.allocator ≠ none) :
    r.validate = .ok () ∧ ∀ network, (allocationRequest r network).validate = .ok () := by
  obtain ⟨earlier, later, network, -, hcommits⟩ := commits_of_past_allocation h ho ha
  cases hcommits with
  | mk happlies hc =>
    -- the plugin, which depends on what was discovered, is not checked
    exact ⟨happlies.admits.valid, fun _ => happlies.valid⟩

/-- If what is asked is valid, only three steps can fail before the allocation. -/
private theorem Fails.step_cases {es : List (Exchange interface)} {step : Step} {e : Failure}
    {found : Option ResolvedNetwork} (h : Fails plan r es step e found) (hv : r.validate = .ok ())
    (hq : ∀ network, (Join.allocationRequest r network).validate = .ok ())
    (hphase : step.phase = .discovering ∨ step.phase = .validating) :
    step = .discovery ∨ step = .resolution ∨ step = .requirements := by
  cases h with
  | discovery => exact .inl rfl
  | resolution => exact .inr (.inl rfl)
  | request h hv' =>
    rw [hv] at hv'
    cases hv'
  | unanswered => exact .inr (.inr rfl)
  | unmet => exact .inr (.inr rfl)
  | allocationRequest h ha hq' =>
    rw [hq] at hq'
    cases hq'
  | commit => simp [Step.phase] at hphase
  | credential => simp [Step.phase] at hphase
  | registration => simp [Step.phase] at hphase

/-- A later attempt with the same request does not write to the ledger and gets the block that the first one committed,
unless it fails at discovery, at the resolution or at the requirements. -/
theorem attempt_resumes_on_its_block {ι τ : Type} [DecidableEq ι] (w : Program.World interface σ)
    (delivery : Ledger.Query → σ → Delivery) (l : MemoryLedger) (s : σ) (plan plan' : Plan)
    (ha : plan.allocator ≠ none) (ha' : plan'.allocator ≠ none) (r : JoinRequest) (allocators : ι → Allocator)
    (requests : ι → AllocationRequest) (hothers : ∀ i, (requests i).cluster ≠ r.cluster) (schedule : List (Option ι))
    {o : JoinOutcome} {g : Option Network} :
    let p := attemptAmong (sharing w delivery) (l, s) plan r allocators requests schedule
    p.programs none = (.done o : Program interface JoinOutcome) → PastAllocation o g →
    ∀ (w' : Program.World interface τ) (t : τ),
      let es := (run plan' r).log (undisturbed w') (p.state.1, t)
      ∃ o' t', (run plan' r).run (undisturbed w') (p.state.1, t) = (some o', p.state.1, t') ∧
        (∀ e ∈ es, Reads e.query) ∧
        (PastAllocation o' g ∨ ∃ step e found, Fails plan' r es step e found ∧
          (step = .discovery ∨ step = .resolution ∨ step = .requirements)) := by
  intro p hover hpast w' t es
  have hsettled : ∀ network, SettledAt (allocationRequest r network) g p.state.1 :=
    settled_of_past_allocation ha hothers hover hpast
  obtain ⟨hv, hq⟩ := valid_of_past_allocation (trace_of_attemptAmong hover) hpast ha
  have hdrive := drive_stays (w := w') (s := (p.state.1, t)) ha' hsettled (t := .discovering) trivial rfl
  have hrun : (run plan' r).Yields (undisturbed w') Reads (fun o' s' =>
      (o'.failedIn = some .discovering ∨ o'.failedIn = some .validating ∨ PastAllocation o' g) ∧ s'.1 = p.state.1)
      (p.state.1, t) := by
    refine hdrive.bind fun {t' s'} h => ?_
    exact ⟨h.1.outcome h.2.1, h.2.2⟩
  obtain ⟨o', ⟨l', t'⟩, hvalue, ⟨houtcome, rfl⟩, hreads⟩ := hrun.run
  refine ⟨o', t', hvalue, hreads, ?_⟩
  have htrace : (run plan' r).Trace es (.done o') := Program.trace_log_of_run (congrArg Prod.fst hvalue)
  rcases run_cases htrace with ⟨network, -, rfl⟩ | ⟨step, e, found, hfails, rfl⟩
  · rcases houtcome with hnone | hnone | hpast'
    · cases hnone
    · cases hnone
    · exact .inl hpast'
  · rcases houtcome with hphase | hphase | hpast'
    · exact .inr ⟨step, e, found, hfails, hfails.step_cases hv hq (.inl (Option.some.inj hphase))⟩
    · exact .inr ⟨step, e, found, hfails, hfails.step_cases hv hq (.inr (Option.some.inj hphase))⟩
    · exact .inl hpast'

/-! ### A cluster that joins twice -/

namespace East

def usual : Plan where
  allocator := some { ledgerName := MemoryLedger.name }

def request : JoinRequest where
  cluster := "east"
  serviceCidr := some "10.96.0.0/12"
  clusterCidr := some "10.244.0.0/16"

def addressing : ResolvedNetwork where
  cluster := "east"
  serviceCidr := ⟨"10.96.0.0/12", false⟩
  clusterCidr := ⟨"10.244.0.0/16", false⟩
  plugin := "generic"

/-- An attempt whose request is settled, one transition after the other. -/
private theorem run_of_settled (h : SettledAt (allocationRequest request addressing) g l) :
    (run usual request).run (undisturbed obliging) (l, ()) =
      (some (outcomeOf "east" (.succeeded { addressing with globalCidr := g })), (l, ())) := by
  let world := undisturbed obliging
  let s : MemoryLedger × Unit := (l, ())
  let credential : Credential := { identity := "cluster-east", token := "token", ca := [] }
  have hdiscover : (transition usual request .discovering rfl).run world s =
      (some ⟨.validating addressing, by decide⟩, s) := rfl
  have hvalidate : (transition usual request (.validating addressing) rfl).run world s =
      (some ⟨.allocating addressing (allocationRequest request addressing), by decide⟩, s) := rfl
  have hallocate : (transition usual request (.allocating addressing (allocationRequest request addressing)) rfl).run
      world s = (some ⟨.registering { addressing with globalCidr := g } credential, Nat.lt_succ_self 1⟩, s) := by
    obtain ⟨o, ⟨l, t⟩, hcommit, ⟨rfl, rfl⟩, -⟩ :=
      (committing_yields (w := obliging) (a := { ledgerName := MemoryLedger.name }) (s := s) rfl h rfl).run
    refine (Program.run_bind world (committing { ledgerName := MemoryLedger.name } _) _ s).trans ?_
    rw [hcommit]
    rfl
  have hregister : (transition usual request (.registering { addressing with globalCidr := g } credential) rfl).run
      world s = (some ⟨.succeeded { addressing with globalCidr := g }, Nat.lt_succ_self 0⟩, s) := rfl
  have hdrive : (drive usual request .discovering).run world s =
      (some (.succeeded { addressing with globalCidr := g }), s) := by
    rw [drive_of_running rfl, Program.run_bind, hdiscover]
    simp only
    rw [drive_of_running rfl, Program.run_bind, hvalidate]
    simp only
    rw [drive_of_running rfl, Program.run_bind, hallocate]
    simp only
    rw [drive_of_running rfl, Program.run_bind, hregister]
    simp only
    rw [drive_of_terminal rfl]
    rfl
  rw [run, Program.run_bind, hdrive]
  rfl

end East

/-- A cluster that holds a block joins, then another one joins, and then the first one joins again. -/
theorem held_block_is_found_again :
    let b : Network := { address := 4060086272, length := 16 }
    let record : Record := {
      enabled := true
      supernet := { address := 4060086272, length := 8 }
      defaultBlockSize := 65536
      entries := [{ cluster := "east", plugin := none, blocks := [b] }] }
    let amongOthers := fun schedule => attemptAmong (undisturbed obliging) (.holding record, ()) East.usual
      East.request (fun _ : Unit => { ledgerName := MemoryLedger.name }) (fun _ => { cluster := "west" }) schedule
    ∃ n o, let p := amongOthers (List.replicate n none ++ [some (), some ()])
      p.programs none = (.done o : Program interface JoinOutcome) ∧ PastAllocation o (some b) ∧
      ∃ o' t', (run East.usual East.request).run (undisturbed obliging) (p.state.1, ()) = (some o', p.state.1, t') ∧
        PastAllocation o' (some b) := by
  intro b record amongOthers
  let start : Pool interface (MemoryLedger × Unit) (Returns (ι := Unit)) :=
    .start (.holding record, ()) (attemptBeside East.usual East.request
      (fun _ => { ledgerName := MemoryLedger.name }) (fun _ => { cluster := "west" }))
  have hsettled : SettledAt (allocationRequest East.request East.addressing) (some b) (.holding record) := by
    refine ⟨record, 1, ⟨record.toData, rfl, Record.ofData_toData record⟩, ?_⟩
    exact settled_iff.mpr (.inr ⟨b, rfl, rfl, rfl, rfl⟩)
  obtain ⟨n, hdone, -⟩ := Pool.exists_run (w := undisturbed obliging) (i := none) (p := start)
    (East.run_of_settled hsettled)
  have hover : (amongOthers (List.replicate n none ++ [some (), some ()])).programs none =
      (.done (outcomeOf "east" (.succeeded { East.addressing with globalCidr := some b })) :
        Program interface JoinOutcome) := by
    have hsplit : amongOthers (List.replicate n none ++ [some (), some ()]) =
        (start.run (undisturbed obliging) (List.replicate n none)).run (undisturbed obliging) [some (), some ()] :=
      Pool.run_append _ _
    rw [hsplit]
    exact Pool.step_programs_of_done (Pool.step_programs_of_done hdone _ (some ())) _ (some ())
  have hpast : PastAllocation (outcomeOf "east" (.succeeded { East.addressing with globalCidr := some b })) (some b) :=
    ⟨.inl rfl, _, rfl, rfl⟩
  have hallocator : East.usual.allocator ≠ none := Option.some_ne_none _
  obtain ⟨o', t', hrun, -, hresumed⟩ := attempt_resumes_on_its_block obliging (fun _ _ => .answered)
    (.holding record) () East.usual East.usual hallocator hallocator East.request
    (fun _ : Unit => { ledgerName := MemoryLedger.name }) (fun _ => { cluster := "west" }) (fun _ => by decide)
    (List.replicate n none ++ [some (), some ()]) hover hpast obliging ()
  refine ⟨n, _, hover, hpast, o', t', hrun, ?_⟩
  rcases hresumed with hagain | ⟨step, e, found, hfails, -⟩
  · exact hagain
  · -- everybody answers what the attempt needs, so that no step of it fails
    have hsucceeded := East.run_of_settled
      (settled_of_past_allocation hallocator (fun _ => by decide) hover hpast East.addressing)
    have ho := Option.some.inj (congrArg Prod.fst (hrun.symm.trans hsucceeded))
    have hfailed : o'.phase = .failed :=
      (phase_eq_failed_iff (Program.trace_log_of_run (congrArg Prod.fst hrun))).mpr ⟨step, e, found, hfails⟩
    rw [ho] at hfailed
    cases hfailed

end MultiCluster.Join
