import MultiCluster.Proofs.Discovery.Ranges
import MultiCluster.Proofs.Join.Outcome

/-!
# Blank ranges in a request

A request may name three ranges. A blank range names nothing: the addressing is resolved, and the global block is asked
for, as if it had been left out. But validation takes a blank range for a text that names no network, and the attempt
ends there if it finds no fault before.

Main statement: `blank_ranges_stop_attempts`. That a request goes the same way as one that leaves blank ranges out, if
validation makes no difference between them, is `run_congr`.
-/

namespace MultiCluster

/-- A range that a request may name, in place of a discovered one or of a block that is drawn. -/
inductive Override where
  | services
  | pods
  | global
  deriving DecidableEq, Repr

namespace Override

/-- The ranges in the order in which they are validated. -/
def all : List Override := [services, pods, global]

/-- The field that a failure of validation names. -/
def field : Override → String
  | services => "serviceCIDR"
  | pods => "clusterCIDR"
  | global => "globalnetCIDR"

/-- The text for a range in a request. -/
def named? : Override → JoinRequest → Option String
  | services, r => r.serviceCidr
  | pods, r => r.clusterCidr
  | global, r => r.globalCidr

/-- The check of a range of a request. -/
def check (r : JoinRequest) (o : Override) : Except Failure Unit :=
  JoinRequest.checkCidr o.field (o.named? r)

/-- The failure for a text that names no network. -/
def fault (o : Override) (c : String) : Failure :=
  .malformed o.field (Text.quoted c ++ " is not a CIDR: invalid IP address syntax")

end Override

variable {r r' : JoinRequest} {o : Override} {c : String}

/-- The second request is the first one without some of its blank ranges. -/
structure LeavesOutBlanks (r r' : JoinRequest) : Prop where
  cluster : r'.cluster = r.cluster
  blockSize : r'.blockSize = r.blockSize
  ranges : ∀ o : Override, o.named? r' = o.named? r ∨
    o.named? r' = none ∧ ∃ c, o.named? r = some c ∧ Text.isBlankText c = true

/-- Validation of the first request stops at a blank range that the second one leaves out: the cluster may have its
name, and the ranges that are checked before it are in order. -/
structure StopsAtBlank (r r' : JoinRequest) (o : Override) (c : String) : Prop where
  cluster : ClusterId.validate r.cluster = .ok ()
  earlier : ∃ before after, Override.all = before ++ o :: after ∧ ∀ o' ∈ before, o'.check r = .ok ()
  named : o.named? r = some c
  blank : Text.isBlankText c = true
  leftOut : o.named? r' = none

/-! ### Validation -/

namespace Override

private theorem check_of_blank (h : o.named? r = some c) (hc : Text.isBlankText c = true) :
    o.check r = .error (o.fault c) := by
  have hno : Net.isCidr (Text.trim c) = false := by
    rw [Text.trim_eq_empty_iff.mpr hc]
    decide
  rw [check, h, JoinRequest.checkCidr, hno]
  rfl

/-- Checks ranges one after another, up to the first one that is not in order. -/
def checkAll (r : JoinRequest) : List Override → Except Failure Unit
  | [] => .ok ()
  | o :: os => do
    o.check r
    checkAll r os

private theorem checkAll_cons_of_ok {os : List Override} (h : o.check r = .ok ()) :
    checkAll r (o :: os) = checkAll r os := by
  rw [checkAll, h]
  rfl

private theorem checkAll_cons_of_error {os : List Override} {e : Failure} (h : o.check r = .error e) :
    checkAll r (o :: os) = .error e := by
  rw [checkAll, h]
  rfl

private theorem checkAll_append {before after : List Override} (h : ∀ o' ∈ before, o'.check r = .ok ()) :
    checkAll r (before ++ after) = checkAll r after := by
  induction before with
  | nil => rfl
  | cons o os ih =>
    rw [List.cons_append, checkAll_cons_of_ok (h o List.mem_cons_self)]
    exact ih fun o' ho' => h o' (List.mem_cons_of_mem _ ho')

private theorem checkAll_congr {os : List Override}
    (h : ∀ before o after, os = before ++ o :: after → (∀ o' ∈ before, o'.check r = .ok ()) → o.check r' = o.check r) :
    checkAll r' os = checkAll r os := by
  induction os with
  | nil => rfl
  | cons o os ih =>
    have hfirst : o.check r' = o.check r := h [] o os rfl (List.forall_mem_nil _)
    cases hcheck : o.check r with
    | error e => rw [checkAll_cons_of_error hcheck, checkAll_cons_of_error (hfirst.trans hcheck)]
    | ok u =>
      rw [checkAll_cons_of_ok hcheck, checkAll_cons_of_ok (hfirst.trans hcheck)]
      refine ih fun before o' after hos hbefore => h (o :: before) o' after (by rw [hos]; rfl) fun o'' ho'' => ?_
      rcases List.mem_cons.mp ho'' with rfl | ho''
      · exact hcheck
      · exact hbefore o'' ho''

private theorem validate_eq_checkAll (r : JoinRequest) :
    r.validate = (do ClusterId.validate r.cluster; checkAll r all) := by
  have hlast : checkAll r [global] = global.check r := by
    cases hcheck : global.check r with
    | ok u => exact checkAll_cons_of_ok hcheck
    | error e => exact checkAll_cons_of_error hcheck
  have hall : checkAll r all = (do services.check r; pods.check r; checkAll r [global]) := rfl
  rw [hall, hlast]
  rfl

end Override

/-- Two requests are validated alike, if validation of the one does not stop at a blank range that the other leaves
out. -/
private theorem LeavesOutBlanks.validate_eq (h : LeavesOutBlanks r r') (hstop : ∀ o c, ¬ StopsAtBlank r r' o c) :
    r'.validate = r.validate := by
  rw [Override.validate_eq_checkAll, Override.validate_eq_checkAll, h.cluster]
  cases hcluster : ClusterId.validate r.cluster with
  | error e => rfl
  | ok u =>
    refine Override.checkAll_congr fun before o after hall hbefore => ?_
    rcases h.ranges o with hsame | ⟨hnone, c, hc, hblank⟩
    · rw [Override.check, Override.check, hsame]
    · exact absurd ⟨hcluster, ⟨before, after, hall, hbefore⟩, hc, hblank, hnone⟩ (hstop o c)

private theorem StopsAtBlank.validate_eq (h : StopsAtBlank r r' o c) : r.validate = .error (o.fault c) := by
  obtain ⟨before, after, hall, hbefore⟩ := h.earlier
  rw [Override.validate_eq_checkAll, h.cluster, hall]
  show Override.checkAll r (before ++ o :: after) = .error (o.fault c)
  rw [Override.checkAll_append hbefore]
  exact Override.checkAll_cons_of_error (Override.check_of_blank h.named h.blank)

/-! ### Resolution and allocation -/

private theorem LeavesOutBlanks.meaningful?_eq (h : LeavesOutBlanks r r') (o : Override) :
    meaningful? (o.named? r') = meaningful? (o.named? r) := by
  rcases h.ranges o with hsame | ⟨hnone, c, hc, hblank⟩
  · rw [hsame]
  · have hblank' : meaningful? (some c) = none := meaningful?_eq_none_iff.mpr (by simp [hblank])
    rw [hnone, hc, hblank']
    rfl

private theorem LeavesOutBlanks.resolveNetwork_eq (h : LeavesOutBlanks r r') (found : Option ClusterNetwork) :
    resolveNetwork r' found = resolveNetwork r found := by
  have hservices : meaningful? r'.serviceCidr = meaningful? r.serviceCidr := h.meaningful?_eq .services
  have hpods : meaningful? r'.clusterCidr = meaningful? r.clusterCidr := h.meaningful?_eq .pods
  rw [resolveNetwork, resolveNetwork, resolveCidr, resolveCidr, resolveCidr, resolveCidr, hservices, hpods, h.cluster]

private theorem LeavesOutBlanks.allocationRequest_eq (h : LeavesOutBlanks r r') (network : ResolvedNetwork) :
    Join.allocationRequest r' network = Join.allocationRequest r network := by
  have hclaim : (Override.global.named? r').filter (fun c => !Text.isBlankText c) =
      (Override.global.named? r).filter fun c => !Text.isBlankText c := by
    rcases h.ranges .global with hsame | ⟨hnone, c, hc, hblank⟩
    · rw [hsame]
    · rw [hnone, hc, Option.filter, hblank]
      rfl
  have hclaim' : (r'.globalCidr.filter fun c => !Text.isBlankText c) =
      r.globalCidr.filter fun c => !Text.isBlankText c := hclaim
  rw [Join.allocationRequest, Join.allocationRequest, AllocationRequest.claiming, AllocationRequest.claiming, hclaim',
    h.cluster, h.blockSize]

namespace Join

/-! ### Attempts -/

variable {plan : Plan} {σ : Type}

private theorem discoverNetwork_congr (h : LeavesOutBlanks r r') : discoverNetwork r' = discoverNetwork r := by
  rw [discoverNetwork, discoverNetwork, funext h.resolveNetwork_eq]

private theorem validate_congr (h : LeavesOutBlanks r r') (hv : r'.validate = r.validate) (network : ResolvedNetwork) :
    validate plan r' network = validate plan r network := by
  have hprepare : prepareAllocation plan r' network = prepareAllocation plan r network := by
    rw [prepareAllocation, prepareAllocation, h.allocationRequest_eq]
  rw [validate, validate, hv, hprepare]

private theorem transition_congr (h : LeavesOutBlanks r r') (hv : r'.validate = r.validate) (s : State)
    (hs : s.isTerminal = false) : transition plan r' s hs = transition plan r s hs := by
  cases s with
  | discovering => exact discoverNetwork_congr h
  | validating network => exact validate_congr h hv network
  | allocating network request => rfl
  | registering network credential => rfl
  | succeeded network => cases hs
  | failed phase failure network => cases hs

private theorem drive_congr (h : LeavesOutBlanks r r') (hv : r'.validate = r.validate) (s : State) :
    drive plan r' s = drive plan r s := by
  -- each transition leads to a state that fewer of them can follow
  induction hn : s.remaining using Nat.strongRecOn generalizing s with
  | ind n ih =>
    subst hn
    cases hs : s.isTerminal with
    | true => rw [drive_of_terminal hs, drive_of_terminal hs]
    | false =>
      rw [drive_of_running hs, drive_of_running hs, transition_congr h hv]
      exact congrArg _ (funext fun t => ih _ t.2 t.1 rfl)

/-- If validation makes no difference between two requests of which one leaves out blank ranges of the other, the same
attempt is made for both. -/
theorem run_congr (h : LeavesOutBlanks r r') (hv : r'.validate = r.validate) : run plan r' = run plan r := by
  rw [run, run, drive_congr h hv, h.cluster]

/-! ### The first transition -/

section

variable {es : List (Exchange interface)} {w : Program.World interface σ} {s s' : σ} {t : Later 4}

private theorem finishes_discoverNetwork (r : JoinRequest) : (discoverNetwork r).Finishes :=
  finishes_proceed finishes_discovery fun found =>
    finishes_proceed (Task.finishes_ofExcept (resolveNetwork r found)) fun _ => .done _

private theorem requests_discoverNetwork (r : JoinRequest) :
    (discoverNetwork r).Requests fun q : Query => ∃ q', q = .cluster q' := by
  refine Program.Requests.bind (requests_onCluster _) fun o => ?_
  cases o with
  | error e => exact .done _
  | ok found =>
    refine Program.Requests.bind (p := (Task.ofExcept (resolveNetwork r found)).toProgram) (.done _) fun o => ?_
    cases o with
    | error e => exact .done _
    | ok network => exact .done _

/-- The first transition leads to validation, or discovery has failed. -/
private theorem discoverNetwork_cases (h : (discoverNetwork r).Trace es (.done t)) :
    (∃ network, t.1 = .validating network ∧ Discovers r es network) ∨ ∃ e, t.1 = .failed .discovering e none := by
  obtain ⟨es₁, es₂, o, rfl, hdiscovery, hnext⟩ := h.bind_done_cases
  cases o with
  | error e =>
    obtain ⟨rfl, heq⟩ := Program.trace_done hnext
    cases heq
    exact .inr ⟨e, rfl⟩
  | ok found =>
    change (proceed .discovering none (Task.ofExcept (resolveNetwork r found)) _).Trace es₂ _ at hnext
    cases hr : resolveNetwork r found with
    | error e =>
      rw [proceed_ofExcept_error hr] at hnext
      obtain ⟨rfl, heq⟩ := Program.trace_done hnext
      cases heq
      exact .inr ⟨e, rfl⟩
    | ok network =>
      rw [proceed_ofExcept_ok hr] at hnext
      obtain ⟨rfl, heq⟩ := Program.trace_done hnext
      cases heq
      rw [List.append_nil]
      exact .inl ⟨network, rfl, .mk hdiscovery hr⟩

/-- What is left of an attempt in a state. -/
def rest (plan : Plan) (r : JoinRequest) (t : State) : Program interface JoinOutcome :=
  (drive plan r t).bind fun u => .done (outcomeOf r.cluster u)

private theorem rest_of_running {t : State} (ht : t.isTerminal = false) :
    rest plan r t = (transition plan r t ht).bind fun u => rest plan r u.1 := by
  rw [rest, drive_of_running ht, Program.bind_assoc]
  rfl

private theorem run_rest {t : State} (ht : t.isTerminal = false) {u : Later t.remaining}
    (h : (transition plan r t ht).run w s = (some u, s')) :
    (rest plan r t).run w s = (rest plan r u.1).run w s' := by
  rw [rest_of_running ht, Program.run_bind, h]

private theorem log_rest {t : State} (ht : t.isTerminal = false) {u : Later t.remaining}
    (h : (transition plan r t ht).run w s = (some u, s')) :
    (rest plan r t).log w s = (transition plan r t ht).log w s ++ (rest plan r u.1).log w s' := by
  rw [rest_of_running ht, Program.log_bind, h]

private theorem rest_of_terminal {t : State} (ht : t.isTerminal = true) :
    rest plan r t = .done (outcomeOf r.cluster t) := by
  rw [rest, drive_of_terminal ht]
  rfl

private theorem rest_of_invalid {network : ResolvedNetwork} {e : Failure} (hv : r.validate = .error e) :
    rest plan r (.validating network) = .done (outcomeOf r.cluster (.failed .validating e network)) := by
  have hstep : validate plan r network = enter (.failed .validating e network) := proceed_ofExcept_error hv
  have hrest : rest plan r (.validating network) = rest plan r (.failed .validating e network) := by
    rw [rest_of_running rfl]
    show (validate plan r network).bind _ = _
    rw [hstep]
    rfl
  rw [hrest, rest_of_terminal rfl]

end

/-- An attempt for a request with blank ranges is the one for the request without them, unless validation takes one of
these for a text that names no network and ends it there. -/
theorem blank_ranges_stop_attempts (plan : Plan) (h : LeavesOutBlanks r r') :
    ((∀ o c, ¬ StopsAtBlank r r' o c) → run plan r' = run plan r) ∧
    ∀ o c, StopsAtBlank r r' o c → ∀ (σ : Type) (w : Program.World interface σ) (s : σ),
      let es := (run plan r).log w s
      (∀ e ∈ es, ∃ q, e.query = .cluster q) ∧ es <+: (run plan r').log w s ∧
      ((run plan r').run w s = (run plan r).run w s ∧ (∃ e, ((run plan r).run w s).1 =
          some { cluster := r.cluster, phase := .failed, failedIn := some .discovering, failure := some e }) ∨
        ∃ network s', Discovers r' es network ∧ (run plan r).run w s =
          (some { cluster := r.cluster, phase := .failed, failedIn := some .validating, resolved := some network,
                  failure := some (o.fault c) }, s')) := by
  refine ⟨fun hstop => run_congr h (h.validate_eq hstop), ?_⟩
  intro o c hstop σ w s es
  obtain ⟨t, s', hfirst⟩ := (finishes_discoverNetwork r).run w s
  have hsame : discoverNetwork r' = discoverNetwork r := discoverNetwork_congr h
  have hfirst' : (discoverNetwork r').run w s = (some t, s') := by rw [hsame, hfirst]
  have htrace : (discoverNetwork r').Trace ((discoverNetwork r).log w s) (.done t) := by
    rw [← hsame]
    exact Program.trace_log_of_run (congrArg Prod.fst hfirst')
  have hcases := discoverNetwork_cases htrace
  -- validation makes no request, so the attempt is over after the first transition
  have hover : ∃ u, rest plan r t.1 = .done u := by
    rcases hcases with ⟨network, ht, -⟩ | ⟨e, ht⟩
    · exact ⟨_, by rw [ht]; exact rest_of_invalid hstop.validate_eq⟩
    · exact ⟨_, by rw [ht]; exact rest_of_terminal rfl⟩
  have hes : es = (discoverNetwork r).log w s := by
    obtain ⟨u, hu⟩ := hover
    have hlog : es = (discoverNetwork r).log w s ++ (rest plan r t.1).log w s' := log_rest rfl hfirst
    rw [hlog, hu]
    exact List.append_nil _
  refine ⟨?_, ?_, ?_⟩
  · rw [hes]
    exact htrace.forall_requests (requests_discoverNetwork r')
  · have hlog : (run plan r').log w s = (discoverNetwork r').log w s ++ (rest plan r' t.1).log w s' :=
      log_rest rfl hfirst'
    rw [hes, hlog, hsame]
    exact List.prefix_append _ _
  · have hrun : (run plan r).run w s = (rest plan r t.1).run w s' := run_rest rfl hfirst
    have hrun' : (run plan r').run w s = (rest plan r' t.1).run w s' := run_rest rfl hfirst'
    rw [hrun, hrun']
    rcases hcases with ⟨network, ht, hdiscovers⟩ | ⟨e, ht⟩
    · rw [ht, rest_of_invalid hstop.validate_eq, hes]
      exact .inr ⟨network, s', hdiscovers, rfl⟩
    · rw [ht, rest_of_terminal rfl, rest_of_terminal rfl, h.cluster]
      exact .inl ⟨rfl, e, rfl⟩

/-- A world in which a cluster is asked, and everybody else answers what an attempt needs. -/
def obligingFor (cluster : Program.World Introspection.interface Unit) : Program.World interface Unit where
  answer
    | .cluster q, s => cluster.answer q s
    | q, s => obliging.answer q s

/-- A cluster whose ranges can be discovered. -/
def configuredCluster : Program.World Introspection.interface Unit :=
  Discovery.ovnCluster { data := some ⟨[("net_cidr", "10.128.0.0/14"), ("svc_cidr", "172.30.0.0/16")]⟩ }

/-- Validation stops at a blank range for the services, and nobody but the cluster is asked. -/
theorem blank_service_range_stops_attempt :
    let r : JoinRequest := { cluster := "east", serviceCidr := some " " }
    let r' : JoinRequest := { cluster := "east" }
    LeavesOutBlanks r r' ∧ StopsAtBlank r r' .services " " ∧
      ∀ e ∈ (run { allocator := none } r).log obliging (), ∃ q, e.query = .cluster q := by
  intro r r'
  have hleft : LeavesOutBlanks r r' := by
    refine ⟨rfl, rfl, fun o => ?_⟩
    cases o with
    | services => exact .inr ⟨rfl, " ", rfl, by decide⟩
    | pods => exact .inl rfl
    | global => exact .inl rfl
  have hname : ClusterId.validate "east" = .ok () := rfl
  have hstop : StopsAtBlank r r' .services " " :=
    ⟨hname, ⟨[], [.pods, .global], rfl, List.forall_mem_nil _⟩, rfl, by decide, rfl⟩
  refine ⟨hleft, hstop, ?_⟩
  exact ((blank_ranges_stop_attempts { allocator := none } hleft).2 _ _ hstop Unit obliging ()).1

/-- A blank range for the services fails an attempt that succeeds without it, because the cluster has a range that can
be discovered. -/
theorem blank_service_range_is_refused :
    ∃ o o', ((run { allocator := none } { cluster := "east", serviceCidr := some " " }).run
        (obligingFor configuredCluster) ()).1 = some o ∧
      ((run { allocator := none } { cluster := "east" }).run (obligingFor configuredCluster) ()).1 = some o' ∧
      o.failedIn = some .validating ∧ o'.phase = .succeeded := by
  have hblank : JoinRequest.validate { cluster := "east", serviceCidr := some " " } =
      .error (Override.services.fault " ") := rfl
  have hnone : JoinRequest.validate { cluster := "east" } = .ok () := rfl
  let network : ResolvedNetwork := {
    cluster := "east"
    serviceCidr := { cidr := "172.30.0.0/16", autoDetected := true }
    clusterCidr := { cidr := "10.128.0.0/14", autoDetected := true }
    plugin := "OVNKubernetes" }
  let credential : Credential := { identity := "cluster-east", token := "token", ca := [] }
  have hadmitted : (validate { allocator := none } { cluster := "east" } network).run
      (obligingFor configuredCluster) () = (some ⟨.registering network credential, by decide⟩, ()) := by
    rw [validate_eq hnone]
    rfl
  refine ⟨outcomeOf "east" (.failed .validating (Override.services.fault " ") network),
    outcomeOf "east" (.succeeded network), ?_, ?_, rfl, rfl⟩
  · rw [run, ← rest, run_rest (u := ⟨.validating network, _⟩) rfl rfl, rest_of_invalid hblank]
    rfl
  · rw [run, ← rest, run_rest (u := ⟨.validating network, _⟩) rfl rfl, run_rest rfl hadmitted,
      run_rest (u := ⟨.succeeded network, _⟩) rfl rfl, rest_of_terminal rfl]
    rfl

end Join

end MultiCluster
