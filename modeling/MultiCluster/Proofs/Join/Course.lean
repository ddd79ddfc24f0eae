import MultiCluster.Join.Attempt
import MultiCluster.Proofs.Concurrency.Sequence

/-!
# The course of an attempt

An attempt to join goes through eight steps, of which some make requests and some only check. The exchanges of an
attempt say how far it has come: each step begins where the steps before it have succeeded, and the first step that
fails is the last one.

Main statements: `drive_follows` says which request an attempt can make after which exchanges, and `trace_drive_iff`
where it ends.
-/

namespace MultiCluster.Join

/-! ### Steps -/

/-- A step of an attempt. -/
inductive Step where
  | discovery
  | resolution
  | request
  | requirements
  | allocationRequest
  | commit
  | credential
  | registration
  deriving DecidableEq, Repr

/-- The phase that a step fails. -/
def Step.phase : Step → JoinPhase
  | discovery | resolution => .discovering
  | request | requirements | allocationRequest => .validating
  | commit => .allocating
  | credential | registration => .registering

/-- The step that discovers the network. -/
def discovery : Program interface (Except Failure (Option ClusterNetwork)) :=
  (onCluster Discovery.discover).toProgram

/-- The step that commits a global block. -/
def committing (a : Allocator) (q : AllocationRequest) : Program interface (Except Failure (Option Network)) :=
  (onLedger (a.commit q)).toProgram

/-- The step that waits for the credential of a cluster. -/
def awaiting (plan : Plan) (cluster : String) : Program interface (Except Failure Credential) :=
  (onCredentials (Credential.wait plan.backoff (Credential.identityOf cluster))).toProgram

/-! ### How far an attempt has come -/

variable {plan : Plan} {r : JoinRequest}

/-- The network is discovered, and the addressing resolved. -/
inductive Discovers (r : JoinRequest) : List (Exchange interface) → ResolvedNetwork → Prop
  | mk {es : List (Exchange interface)} {found : Option ClusterNetwork} {network : ResolvedNetwork}
      (h : discovery.Trace es (.done (.ok found))) (hr : resolveNetwork r found = .ok network) : Discovers r es network

/-- Besides, the request is valid, and there is no requirement that the cluster does not fulfil. -/
inductive Admits (r : JoinRequest) : List (Exchange interface) → ResolvedNetwork → Prop
  | mk {es : List (Exchange interface)} {network : ResolvedNetwork} (h : Discovers r es network)
      (hv : r.validate = .ok ()) : Admits r (es ++ [⟨.requirements, .ok []⟩]) network

/-- Besides, there is an allocator, and what is asked of it is valid. -/
structure Applies (plan : Plan) (r : JoinRequest) (es : List (Exchange interface)) (network : ResolvedNetwork)
    (a : Allocator) : Prop where
  admits : Admits r es network
  allocator : plan.allocator = some a
  valid : (allocationRequest r network).validate = .ok ()

/-- Besides, the allocator has committed. -/
inductive Commits (plan : Plan) (r : JoinRequest) :
    List (Exchange interface) → ResolvedNetwork → Option Network → Prop
  | mk {es es' : List (Exchange interface)} {network : ResolvedNetwork} {a : Allocator} {block : Option Network}
      (h : Applies plan r es network a)
      (hc : (committing a (allocationRequest r network)).Trace es' (.done (.ok block))) :
      Commits plan r (es ++ es') network block

/-- The addressing is complete: with the block that was committed, or without one if there is no allocator. -/
inductive Allocates (plan : Plan) (r : JoinRequest) : List (Exchange interface) → ResolvedNetwork → Prop
  | skipped {es : List (Exchange interface)} {network : ResolvedNetwork} (h : Admits r es network)
      (ha : plan.allocator = none) : Allocates plan r es network
  | committed {es : List (Exchange interface)} {network : ResolvedNetwork} {block : Option Network}
      (h : Commits plan r es network block) : Allocates plan r es { network with globalCidr := block }

/-- Besides, the credential has arrived. -/
inductive Awaits (plan : Plan) (r : JoinRequest) :
    List (Exchange interface) → ResolvedNetwork → Credential → Prop
  | mk {es es' : List (Exchange interface)} {network : ResolvedNetwork} {c : Credential}
      (h : Allocates plan r es network) (hw : (awaiting plan r.cluster).Trace es' (.done (.ok c))) :
      Awaits plan r (es ++ es') network c

/-- All steps have succeeded. -/
inductive Succeeds (plan : Plan) (r : JoinRequest) : List (Exchange interface) → ResolvedNetwork → Prop
  | mk {es : List (Exchange interface)} {network : ResolvedNetwork} {c : Credential}
      (h : Awaits plan r es network c) : Succeeds plan r (es ++ [⟨.register network c, .ok ()⟩]) network

/-- A step has failed, and all steps before it have succeeded. -/
inductive Fails (plan : Plan) (r : JoinRequest) :
    List (Exchange interface) → Step → Failure → Option ResolvedNetwork → Prop
  | discovery {es : List (Exchange interface)} {e : Failure} (h : discovery.Trace es (.done (.error e))) :
      Fails plan r es .discovery e none
  | resolution {es : List (Exchange interface)} {found : Option ClusterNetwork} {e : Failure}
      (h : discovery.Trace es (.done (.ok found))) (hr : resolveNetwork r found = .error e) :
      Fails plan r es .resolution e none
  | request {es : List (Exchange interface)} {network : ResolvedNetwork} {e : Failure} (h : Discovers r es network)
      (hv : r.validate = .error e) : Fails plan r es .request e (some network)
  | unanswered {es : List (Exchange interface)} {network : ResolvedNetwork} {e : Failure} (h : Discovers r es network)
      (hv : r.validate = .ok ()) : Fails plan r (es ++ [⟨.requirements, .error e⟩]) .requirements e (some network)
  | unmet {es : List (Exchange interface)} {network : ResolvedNetwork} {unmet : List String} {e : Failure}
      (h : Discovers r es network) (hv : r.validate = .ok ()) (hm : Requirements.ensureMet unmet = .error e) :
      Fails plan r (es ++ [⟨.requirements, .ok unmet⟩]) .requirements e (some network)
  | allocationRequest {es : List (Exchange interface)} {network : ResolvedNetwork} {a : Allocator} {e : Failure}
      (h : Admits r es network) (ha : plan.allocator = some a)
      (hq : (Join.allocationRequest r network).validate = .error e) :
      Fails plan r es .allocationRequest e (some network)
  | commit {es es' : List (Exchange interface)} {network : ResolvedNetwork} {a : Allocator} {e : Failure}
      (h : Applies plan r es network a)
      (hc : (committing a (Join.allocationRequest r network)).Trace es' (.done (.error e))) :
      Fails plan r (es ++ es') .commit e (some network)
  | credential {es es' : List (Exchange interface)} {network : ResolvedNetwork} {e : Failure}
      (h : Allocates plan r es network) (hw : (awaiting plan r.cluster).Trace es' (.done (.error e))) :
      Fails plan r (es ++ es') .credential e (some network)
  | registration {es : List (Exchange interface)} {network : ResolvedNetwork} {c : Credential} {e : Failure}
      (h : Awaits plan r es network c) :
      Fails plan r (es ++ [⟨.register network c, .error e⟩]) .registration e (some network)

/-- Which request an attempt may make after which exchanges. -/
inductive Due (plan : Plan) (r : JoinRequest) : List (Exchange interface) → Query → Prop
  | cluster {es : List (Exchange interface)} {q : Introspection.Query}
      {next : interface.Reply (.cluster q) → Program interface (Except Failure (Option ClusterNetwork))}
      (h : discovery.Trace es (.ask (.cluster q) next)) : Due plan r es (.cluster q)
  | requirements {es : List (Exchange interface)} {network : ResolvedNetwork} (h : Discovers r es network)
      (hv : r.validate = .ok ()) : Due plan r es .requirements
  | ledger {es es' : List (Exchange interface)} {network : ResolvedNetwork} {a : Allocator} {q : Ledger.Query}
      {next : interface.Reply (.ledger q) → Program interface (Except Failure (Option Network))}
      (h : Applies plan r es network a)
      (hc : (committing a (allocationRequest r network)).Trace es' (.ask (.ledger q) next)) :
      Due plan r (es ++ es') (.ledger q)
  | credential {es es' : List (Exchange interface)} {network : ResolvedNetwork} {q : Credential.Query}
      {next : interface.Reply (.credential q) → Program interface (Except Failure Credential)}
      (h : Allocates plan r es network)
      (hw : (awaiting plan r.cluster).Trace es' (.ask (.credential q) next)) : Due plan r (es ++ es') (.credential q)
  | register {es : List (Exchange interface)} {network : ResolvedNetwork} {c : Credential}
      (h : Awaits plan r es network c) : Due plan r es (.register network c)

/-- What the exchanges of an attempt have been when it stands in a state. -/
def Reached (plan : Plan) (r : JoinRequest) (es : List (Exchange interface)) : State → Prop
  | .discovering => es = []
  | .validating network => Discovers r es network
  | .allocating network request => (∃ a, Applies plan r es network a) ∧ request = allocationRequest r network
  | .registering network credential => Awaits plan r es network credential
  | .succeeded network => Succeeds plan r es network
  | .failed phase failure network => ∃ step, Fails plan r es step failure network ∧ step.phase = phase

/-! ### Tasks of an attempt -/

variable {es : List (Exchange interface)} {network : ResolvedNetwork}

theorem requests_onCluster {α : Type} (t : Task Introspection.interface α) :
    (onCluster t).toProgram.Requests (I := interface) fun q : Query => ∃ q', q = .cluster q' := by
  refine Program.requests_interpret (J := interface) (fun q => ?_) t.toProgram
  exact Program.requests_request ⟨q, rfl⟩

theorem requests_onLedger {α : Type} (t : Task Ledger.interface α) :
    (onLedger t).toProgram.Requests (I := interface) fun q : Query => ∃ q', q = .ledger q' := by
  refine Program.requests_interpret (J := interface) (fun q => ?_) t.toProgram
  exact Program.requests_request ⟨q, rfl⟩

theorem requests_onCredentials {α : Type} (t : Task Credential.interface α) :
    (onCredentials t).toProgram.Requests (I := interface) fun q : Query => ∃ q', q = .credential q' := by
  refine Program.requests_interpret (J := interface) (fun q => ?_) t.toProgram
  exact Program.requests_request ⟨q, rfl⟩

private theorem ensureMet_eq_ok {unmet : List String} (h : Requirements.ensureMet unmet = .ok ()) : unmet = [] := by
  cases unmet with
  | nil => rfl
  | cons name unmet => cases h

private theorem cluster_of_resolveNetwork {found : Option ClusterNetwork} (h : resolveNetwork r found = .ok network) :
    network.cluster = r.cluster ∧ network.globalCidr = none := by
  unfold resolveNetwork at h
  obtain ⟨service, -, h⟩ := bind_eq_ok_cases h
  obtain ⟨cluster, -, h⟩ := bind_eq_ok_cases h
  cases h
  exact ⟨rfl, rfl⟩

private theorem Discovers.cluster_eq (h : Discovers r es network) : network.cluster = r.cluster := by
  cases h with
  | mk h hr => exact (cluster_of_resolveNetwork hr).1

private theorem Admits.cluster_eq (h : Admits r es network) : network.cluster = r.cluster := by
  cases h with
  | mk h hv => exact h.cluster_eq

private theorem Discovers.globalCidr_eq (h : Discovers r es network) : network.globalCidr = none := by
  cases h with
  | mk h hr => exact (cluster_of_resolveNetwork hr).2

private theorem Admits.globalCidr_eq (h : Admits r es network) : network.globalCidr = none := by
  cases h with
  | mk h hv => exact h.globalCidr_eq

theorem Allocates.cluster_eq (h : Allocates plan r es network) : network.cluster = r.cluster := by
  cases h with
  | skipped h ha => exact h.cluster_eq
  | committed h =>
    cases h with
    | mk h hc => exact h.admits.cluster_eq

/-- The global block of a complete addressing is the one that was committed; without an allocator there is none. -/
theorem Allocates.globalCidr_cases (h : Allocates plan r es network) :
    (plan.allocator = none ∧ network.globalCidr = none ∧ Admits r es network) ∨
    ∃ found, Commits plan r es found network.globalCidr := by
  cases h with
  | skipped h ha => exact .inl ⟨ha, h.globalCidr_eq, h⟩
  | @committed network block h => exact .inr ⟨network, h⟩

section Allocated

variable {step : Step} {e : Failure} {c : Credential}

theorem Awaits.allocates (h : Awaits plan r es network c) :
    ∃ earlier later, es = earlier ++ later ∧ Allocates plan r earlier network := by
  cases h with
  | mk h hw => exact ⟨_, _, rfl, h⟩

theorem Succeeds.allocates (h : Succeeds plan r es network) :
    ∃ earlier later, es = earlier ++ later ∧ Allocates plan r earlier network := by
  cases h with
  | mk h =>
    obtain ⟨earlier, later, rfl, hallocates⟩ := h.allocates
    exact ⟨earlier, _, List.append_assoc .., hallocates⟩

/-- The only steps that come after the allocation are those of the last phase. -/
theorem Fails.allocates (h : Fails plan r es step e (some network)) (hphase : step.phase = .registering) :
    ∃ earlier later, es = earlier ++ later ∧ Allocates plan r earlier network := by
  cases h with
  | request => cases hphase
  | unanswered => cases hphase
  | unmet => cases hphase
  | allocationRequest => cases hphase
  | commit => cases hphase
  | credential h hw => exact ⟨_, _, rfl, h⟩
  | registration h =>
    obtain ⟨earlier, later, rfl, hallocates⟩ := h.allocates
    exact ⟨earlier, _, List.append_assoc .., hallocates⟩

theorem Fails.globalCidr_eq (h : Fails plan r es step e (some network)) (hphase : step.phase ≠ .registering) :
    network.globalCidr = none := by
  cases h with
  | request h hv => exact h.globalCidr_eq
  | unanswered h hv => exact h.globalCidr_eq
  | unmet h hv hm => exact h.globalCidr_eq
  | allocationRequest h ha hq => exact h.globalCidr_eq
  | commit h hc => exact h.admits.globalCidr_eq
  | credential => exact absurd rfl hphase
  | registration => exact absurd rfl hphase

end Allocated

/-! ### Which request follows -/

section Follows

variable {A : List (Exchange interface) → Query → Prop} {n : Nat}
  {B : List (Exchange interface) → Later (n + 1) → Prop} {α : Type} {phase : JoinPhase}
  {found : Option ResolvedNetwork} {next : α → Program interface (Later (n + 1))}

private theorem enter_follows {s : State} {h : s.remaining < n + 1} (hs : B es ⟨s, h⟩) : (enter s h).Follows A B es :=
  Program.follows_done hs

private theorem proceed_follows {t : Task interface α}
    (hasks : ∀ {es' q cont}, t.toProgram.Trace es' (.ask q cont) → A (es ++ es') q)
    (herror : ∀ {es' e}, t.toProgram.Trace es' (.done (.error e)) →
      B (es ++ es') ⟨.failed phase e found, Nat.succ_pos n⟩)
    (hok : ∀ {es' a}, t.toProgram.Trace es' (.done (.ok a)) → (next a).Follows A B (es ++ es')) :
    (proceed phase found t next).Follows A B es := by
  refine Program.follows_bind hasks fun {es' o} hdone => ?_
  cases o with
  | ok a => exact hok hdone
  | error e => exact enter_follows (herror hdone)

private theorem proceed_ofExcept_follows {o : Except Failure α}
    (herror : ∀ {e}, o = .error e → B es ⟨.failed phase e found, Nat.succ_pos n⟩)
    (hok : ∀ {a}, o = .ok a → (next a).Follows A B es) :
    (proceed phase found (Task.ofExcept o) next).Follows A B es := by
  cases o with
  | ok a => exact hok rfl
  | error e => exact enter_follows (herror rfl)

end Follows

/-- What an attempt does after some exchanges is due, and leads to a state that it can have reached. -/
abbrev Proceeds (plan : Plan) (r : JoinRequest) {n : Nat} (es : List (Exchange interface))
    (p : Program interface (Later n)) : Prop :=
  p.Follows (Due plan r) (fun es t => Reached plan r es t.1) es

private theorem discoverNetwork_proceeds : Proceeds plan r [] (discoverNetwork r) := by
  refine proceed_follows ?_ ?_ ?_
  · intro es q next hask
    obtain ⟨q, rfl⟩ := hask.next_request (requests_onCluster _)
    exact .cluster hask
  · intro es e hdone
    exact ⟨.discovery, .discovery hdone, rfl⟩
  · intro es found hdone
    refine proceed_ofExcept_follows ?_ ?_
    · intro e hr
      exact ⟨.resolution, .resolution hdone hr, rfl⟩
    · intro network hr
      exact enter_follows (Discovers.mk hdone hr)

private theorem awaitCredential_proceeds {n : Nat} (h : Allocates plan r es network) :
    Proceeds plan r es (awaitCredential (n := n) plan network) := by
  have hcluster := h.cluster_eq
  unfold awaitCredential
  rw [hcluster]
  refine proceed_follows ?_ ?_ ?_
  · intro es q next hask
    obtain ⟨q, rfl⟩ := hask.next_request (requests_onCredentials _)
    exact .credential h hask
  · intro es e hdone
    exact ⟨.credential, .credential h hdone, rfl⟩
  · intro es c hdone
    exact enter_follows (Awaits.mk h hdone)

private theorem prepareAllocation_proceeds (h : Admits r es network) :
    Proceeds plan r es (prepareAllocation plan r network) := by
  unfold prepareAllocation
  cases ha : plan.allocator with
  | none => exact awaitCredential_proceeds (.skipped h ha)
  | some a =>
    refine proceed_ofExcept_follows ?_ ?_
    · intro e hq
      exact ⟨.allocationRequest, .allocationRequest h ha hq, rfl⟩
    · intro u hq
      exact enter_follows ⟨⟨a, h, ha, hq⟩, rfl⟩

private theorem validate_proceeds (h : Discovers r es network) : Proceeds plan r es (validate plan r network) := by
  refine proceed_ofExcept_follows ?_ ?_
  · intro e hv
    exact ⟨.request, .request h hv, rfl⟩
  · intro u hv
    refine proceed_follows ?_ ?_ ?_
    · intro es q next hask
      obtain ⟨rfl, rfl⟩ := Program.trace_request_ask hask
      rw [List.append_nil]
      exact .requirements h hv
    · intro es e hdone
      rw [Program.trace_request_done hdone]
      exact ⟨.requirements, .unanswered h hv, rfl⟩
    · intro es unmet hdone
      rw [Program.trace_request_done hdone]
      refine proceed_ofExcept_follows ?_ ?_
      · intro e hm
        exact ⟨.requirements, .unmet h hv hm, rfl⟩
      · intro u hm
        rw [ensureMet_eq_ok hm]
        exact prepareAllocation_proceeds (.mk h hv)

private theorem allocate_proceeds {a : Allocator} (h : Applies plan r es network a) :
    Proceeds plan r es (allocate plan network (allocationRequest r network)) := by
  unfold allocate
  rw [h.allocator]
  refine proceed_follows ?_ ?_ ?_
  · intro es q next hask
    obtain ⟨q, rfl⟩ := hask.next_request (requests_onLedger _)
    exact .ledger h hask
  · intro es e hdone
    exact ⟨.commit, .commit h hdone, rfl⟩
  · intro es block hdone
    exact awaitCredential_proceeds (.committed (.mk h hdone))

private theorem registerCluster_proceeds {c : Credential} (h : Awaits plan r es network c) :
    Proceeds plan r es (registerCluster network c) := by
  refine proceed_follows ?_ ?_ ?_
  · intro es q next hask
    obtain ⟨rfl, rfl⟩ := Program.trace_request_ask hask
    rw [List.append_nil]
    exact .register h
  · intro es e hdone
    rw [Program.trace_request_done hdone]
    exact ⟨.registration, .registration h, rfl⟩
  · intro es u hdone
    rw [Program.trace_request_done hdone]
    exact enter_follows (Succeeds.mk h)

/-- One transition does what is due, and leads to a state that the attempt can have reached. -/
private theorem transition_proceeds {s : State} (h : Reached plan r es s) (hs : s.isTerminal = false) :
    Proceeds plan r es (transition plan r s hs) := by
  cases s with
  | discovering =>
    cases h
    exact discoverNetwork_proceeds
  | validating network => exact validate_proceeds h
  | allocating network request =>
    obtain ⟨⟨a, h⟩, rfl⟩ := h
    exact allocate_proceeds h
  | registering network c => exact registerCluster_proceeds h
  | succeeded network => cases hs
  | failed phase failure network => cases hs

/-- From a state that an attempt can have reached, it does only what is due, and ends in a terminal state that it can
have reached. -/
theorem drive_follows {s : State} (h : Reached plan r es s) :
    (drive plan r s).Follows (Due plan r) (fun es t => Reached plan r es t ∧ t.isTerminal = true) es := by
  -- each transition leads to a state that fewer of them can follow
  induction hn : s.remaining using Nat.strongRecOn generalizing s es with
  | ind n ih =>
    subst hn
    unfold drive
    split
    · exact Program.follows_done ⟨h, ‹_›⟩
    · have hstep := transition_proceeds h (Bool.eq_false_iff.mpr ‹_›)
      refine Program.follows_bind hstep.asks fun {es' t} hdone => ?_
      exact ih _ t.2 (hstep.ends hdone) rfl

/-! ### Where the exchanges lead -/

theorem drive_of_terminal {s : State} (hs : s.isTerminal = true) : drive plan r s = .done s := by
  rw [drive, dif_pos hs]

theorem drive_of_running {s : State} (hs : s.isTerminal = false) :
    drive plan r s = (transition plan r s hs).bind fun t => drive plan r t.1 := by
  rw [drive, dif_neg (Bool.eq_false_iff.mp hs)]

section Proceed

variable {n : Nat} {α : Type} {phase : JoinPhase} {found : Option ResolvedNetwork}
  {next : α → Program interface (Later (n + 1))} {t : Task interface α} {a : α} {e : Failure}

theorem proceed_ofExcept_ok {o : Except Failure α} (h : o = .ok a) :
    proceed phase found (Task.ofExcept o) next = next a := by
  rw [h]
  rfl

theorem proceed_ofExcept_error {o : Except Failure α} (h : o = .error e) :
    proceed phase found (Task.ofExcept o) next = enter (.failed phase e found) (Nat.succ_pos n) := by
  rw [h]
  rfl

private theorem trace_proceed_ok (h : t.toProgram.Trace es (.done (.ok a))) :
    (proceed phase found t next).Trace es (next a) :=
  h.bind_left _

private theorem trace_proceed_error (h : t.toProgram.Trace es (.done (.error e))) :
    (proceed phase found t next).Trace es (enter (.failed phase e found) (Nat.succ_pos n)) :=
  h.bind_left _

private theorem trace_request (q : Query) (reply : interface.Reply q) :
    (Program.request (I := interface) q).Trace [⟨q, reply⟩] (.done reply) :=
  Program.Trace.refl.ask reply

end Proceed

/-- The rest of an attempt after a part of a transition. -/
def andThen (plan : Plan) (r : JoinRequest) {n : Nat} (p : Program interface (Later n)) : Program interface State :=
  p.bind fun t => drive plan r t.1

private theorem Discovers.leads (plan : Plan) (h : Discovers r es network) :
    (drive plan r .discovering).Trace es (andThen plan r (validate plan r network)) := by
  obtain ⟨hdone, hr⟩ := h
  have hstep : (discoverNetwork r).Trace es (proceed .discovering none (Task.ofExcept (resolveNetwork r _))
      fun network => enter (.validating network)) := trace_proceed_ok hdone
  rw [proceed_ofExcept_ok hr] at hstep
  rw [drive_of_running rfl]
  have hleads := hstep.bind_left fun t => drive plan r t.1
  have hdrive : drive plan r (.validating network) = andThen plan r (validate plan r network) := drive_of_running rfl
  rw [← hdrive]
  exact hleads

/-- What follows once the request is found valid. -/
theorem validate_eq (hv : r.validate = .ok ()) : validate plan r network =
    proceed .validating network requirements fun unmet =>
      proceed .validating network (Task.ofExcept (Requirements.ensureMet unmet)) fun _ =>
        prepareAllocation plan r network :=
  proceed_ofExcept_ok hv

private theorem Admits.leads (plan : Plan) (h : Admits r es network) :
    (drive plan r .discovering).Trace es (andThen plan r (prepareAllocation plan r network)) := by
  obtain ⟨h, hv⟩ := h
  have hstep : (validate plan r network).Trace [⟨.requirements, .ok []⟩] (prepareAllocation plan r network) := by
    rw [validate_eq hv]
    exact trace_proceed_ok (trace_request .requirements _)
  exact (h.leads plan).trans (hstep.bind_left _)

private theorem Applies.leads {a : Allocator} (h : Applies plan r es network a) : (drive plan r .discovering).Trace es
    (andThen plan r (proceed .allocating network (onLedger (a.commit (allocationRequest r network))) fun block =>
      awaitCredential (n := 0) plan { network with globalCidr := block })) := by
  have hprepare : prepareAllocation plan r network = enter (.allocating network (allocationRequest r network)) := by
    unfold prepareAllocation
    rw [h.allocator]
    exact proceed_ofExcept_ok h.valid
  have hallocate : allocate plan network (allocationRequest r network) =
      proceed .allocating network (onLedger (a.commit (allocationRequest r network))) fun block =>
        awaitCredential (n := 0) plan { network with globalCidr := block } := by
    unfold allocate
    rw [h.allocator]
  have hleads := h.admits.leads plan
  rw [hprepare] at hleads
  have hdrive : andThen plan r (enter (n := 3) (.allocating network (allocationRequest r network))) =
      andThen plan r (allocate plan network (allocationRequest r network)) := drive_of_running rfl
  rw [hdrive, hallocate] at hleads
  exact hleads

private theorem Allocates.leads (h : Allocates plan r es network) : ∃ n, (drive plan r .discovering).Trace es
    (andThen plan r (awaitCredential (n := n) plan network)) := by
  cases h with
  | skipped h ha =>
    have hprepare : prepareAllocation plan r network = awaitCredential plan network := by
      unfold prepareAllocation
      rw [ha]
      rfl
    have hleads := h.leads plan
    rw [hprepare] at hleads
    exact ⟨1, hleads⟩
  | committed h =>
    cases h with
    | mk h hc => exact ⟨0, h.leads.trans ((trace_proceed_ok hc).bind_left _)⟩

private theorem Awaits.leads {c : Credential} (h : Awaits plan r es network c) :
    (drive plan r .discovering).Trace es (andThen plan r (registerCluster network c)) := by
  cases h with
  | mk h hw =>
    obtain ⟨n, hleads⟩ := h.leads
    rw [← h.cluster_eq] at hw
    have hstep : (awaitCredential (n := n) plan network).Trace _ (enter (.registering network c)) :=
      trace_proceed_ok hw
    have hdrive : andThen plan r (enter (n := n + 2) (.registering network c)) =
        andThen plan r (registerCluster network c) := drive_of_running rfl
    rw [← hdrive]
    exact hleads.trans (hstep.bind_left _)

private theorem Succeeds.leads (h : Succeeds plan r es network) :
    (drive plan r .discovering).Trace es (.done (.succeeded network)) := by
  cases h with
  | @mk es network c h =>
    have hstep : (registerCluster network c).Trace [⟨.register network c, .ok ()⟩] (enter (.succeeded network)) :=
      trace_proceed_ok (trace_request (.register network c) (.ok ()))
    have hdrive : andThen plan r (enter (n := 1) (.succeeded network)) = .done (.succeeded network) :=
      drive_of_terminal rfl
    rw [← hdrive]
    exact h.leads.trans (hstep.bind_left _)

/-- An attempt ends where a part of a transition fails. -/
private theorem trace_failed {n : Nat} {es' : List (Exchange interface)} {p : Program interface (Later (n + 1))}
    {phase : JoinPhase} {e : Failure} {found : Option ResolvedNetwork}
    (hleads : (drive plan r .discovering).Trace es (andThen plan r p))
    (hstep : p.Trace es' (enter (.failed phase e found) (Nat.succ_pos n))) :
    (drive plan r .discovering).Trace (es ++ es') (.done (.failed phase e found)) := by
  have hdrive : andThen plan r (enter (n := n + 1) (.failed phase e found)) = .done (.failed phase e found) :=
    drive_of_terminal rfl
  rw [← hdrive]
  exact hleads.trans (hstep.bind_left _)

private theorem Fails.leads {step : Step} {e : Failure} {found : Option ResolvedNetwork}
    (h : Fails plan r es step e found) :
    (drive plan r .discovering).Trace es (.done (.failed step.phase e found)) := by
  have hstart : (drive plan r .discovering).Trace [] (andThen plan r (discoverNetwork r)) := by
    rw [drive_of_running rfl]
    exact .refl
  cases h with
  | discovery h => exact trace_failed hstart (trace_proceed_error h)
  | resolution h hr =>
    have hstep : (discoverNetwork r).Trace es (proceed .discovering none (Task.ofExcept (resolveNetwork r _))
        fun network => enter (.validating network)) := trace_proceed_ok h
    rw [proceed_ofExcept_error hr] at hstep
    exact trace_failed hstart hstep
  | @request _ network _ h hv =>
    have hstep : (validate plan r network).Trace [] (enter (.failed .validating e (some network))) := by
      rw [validate, proceed_ofExcept_error hv]
      exact .refl
    have hfailed := trace_failed (h.leads plan) hstep
    rwa [List.append_nil] at hfailed
  | @unanswered _ network _ h hv =>
    refine trace_failed (h.leads plan) ?_
    rw [validate_eq hv]
    exact trace_proceed_error (trace_request .requirements (.error e))
  | @unmet _ network unmet _ h hv hm =>
    have hstep : (validate plan r network).Trace [⟨.requirements, .ok unmet⟩] (proceed .validating network
        (Task.ofExcept (Requirements.ensureMet unmet)) fun _ => prepareAllocation plan r network) := by
      rw [validate_eq hv]
      exact trace_proceed_ok (trace_request .requirements (.ok unmet))
    rw [proceed_ofExcept_error hm] at hstep
    exact trace_failed (h.leads plan) hstep
  | @allocationRequest _ network a _ h ha hq =>
    have hstep : (prepareAllocation plan r network).Trace [] (enter (.failed .validating e (some network))) := by
      unfold prepareAllocation
      rw [ha]
      show (proceed .validating network (Task.ofExcept (Join.allocationRequest r network).validate) _).Trace _ _
      rw [proceed_ofExcept_error hq]
      exact .refl
    have hfailed := trace_failed (h.leads plan) hstep
    rwa [List.append_nil] at hfailed
  | commit h hc => exact trace_failed h.leads (trace_proceed_error hc)
  | @credential _ _ network _ h hw =>
    obtain ⟨n, hleads⟩ := h.leads
    rw [← h.cluster_eq] at hw
    exact trace_failed hleads (trace_proceed_error hw)
  | @registration _ network c _ h =>
    exact trace_failed h.leads (trace_proceed_error (trace_request (.register network c) (.error e)))

/-- An attempt ends in a terminal state exactly after the exchanges with which it can have reached that state. -/
theorem trace_drive_iff {s : State} :
    (drive plan r .discovering).Trace es (.done s) ↔ Reached plan r es s ∧ s.isTerminal = true := by
  constructor
  · intro h
    have hstart : Reached plan r [] .discovering := rfl
    exact (drive_follows hstart).ends h
  · rintro ⟨h, hs⟩
    cases s with
    | discovering => cases hs
    | validating network => cases hs
    | allocating network request => cases hs
    | registering network c => cases hs
    | succeeded network => exact h.leads
    | failed phase e found =>
      obtain ⟨step, h, rfl⟩ := h
      exact h.leads

theorem due_of_trace_run {q : Query} {next : interface.Reply q → Program interface JoinOutcome}
    (h : (run plan r).Trace es (.ask q next)) : Due plan r es q := by
  have hstart : Reached plan r [] .discovering := rfl
  rcases h.bind_ask_cases with ⟨next', hask⟩ | ⟨es₁, es₂, s, -, -, hover⟩
  · exact (drive_follows hstart).asks hask
  · cases (Program.trace_done hover).2

theorem due_of_log {σ : Type} {w : Program.World interface σ} {s : σ} {before after : List (Exchange interface)}
    {q : Query} {reply : interface.Reply q} (h : (run plan r).log w s = before ++ ⟨q, reply⟩ :: after) :
    Due plan r before q := by
  obtain ⟨next, hask⟩ := Program.ask_of_log h
  exact due_of_trace_run hask

private theorem trace_run_iff {o : JoinOutcome} : (run plan r).Trace es (.done o) ↔
    ∃ s, Reached plan r es s ∧ s.isTerminal = true ∧ o = outcomeOf r.cluster s := by
  constructor
  · intro h
    obtain ⟨es₁, es₂, s, rfl, hdrive, hover⟩ := h.bind_done_cases
    obtain ⟨rfl, heq⟩ := Program.trace_done hover
    obtain ⟨hreached, hterminal⟩ := trace_drive_iff.mp hdrive
    rw [List.append_nil]
    exact ⟨s, hreached, hterminal, Program.done.inj heq⟩
  · rintro ⟨s, hreached, hterminal, rfl⟩
    exact (trace_drive_iff.mpr ⟨hreached, hterminal⟩).bind_left _

theorem Reached.ended {s : State} (h : Reached plan r es s) (hs : s.isTerminal = true) :
    (run plan r).Trace es (.done (outcomeOf r.cluster s)) :=
  trace_run_iff.mpr ⟨s, h, hs, rfl⟩

/-- An attempt that has ended has succeeded, or a step has failed. -/
theorem run_cases {o : JoinOutcome} (h : (run plan r).Trace es (.done o)) :
    (∃ network, Succeeds plan r es network ∧
      o = { cluster := r.cluster, phase := .succeeded, resolved := some network }) ∨
    ∃ step e found, Fails plan r es step e found ∧
      o = { cluster := r.cluster, phase := .failed, failedIn := some step.phase, resolved := found,
            failure := some e } := by
  obtain ⟨s, hreached, hterminal, rfl⟩ := trace_run_iff.mp h
  cases s with
  | discovering => cases hterminal
  | validating network => cases hterminal
  | allocating network request => cases hterminal
  | registering network c => cases hterminal
  | succeeded network => exact .inl ⟨network, hreached, rfl⟩
  | failed phase e found =>
    obtain ⟨step, hfails, rfl⟩ := hreached
    exact .inr ⟨step, e, found, hfails, rfl⟩

end MultiCluster.Join
