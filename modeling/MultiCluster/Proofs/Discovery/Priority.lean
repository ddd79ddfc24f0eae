import Mathlib.Data.List.Forall2
import MultiCluster.Proofs.Discovery.Termination

/-!
# The first signature decides

The probes look for their signatures one after another. The first lookup that does not come back empty decides: if it
fails, discovery fails in the name of its probe; if it finds the signature, the probe reads the network from it, and
discovery ends with what it reads. Neither asks for a signature again or changes the cluster. Only if no probe finds its
signature, the fallback is tried.

Main statement: `Discovery.first_signature_decides`.
-/

namespace MultiCluster

open Introspection (interface)

variable {α β σ : Type} {es : List (Exchange interface)}

/-! ### Lookups that may fail -/

namespace Introspection

/-- The failure of a request, if it has failed. -/
def failure? (e : Exchange interface) : Option Failure :=
  match (e.reply : Except Failure e.query.Result) with
  | .ok _ => none
  | .error f => some f

end Introspection

open Introspection (failure?)

namespace Probe

/-- The lookup by which a probe looks for its signature. -/
def lookup : Probe → Introspection.Query
  | openShift => .openShiftNetwork
  | weaveNet => .pods "name=weave-net"
  | canalFlannel => .configMap "kube-system" "canal-config"
  | ovnKubernetes => .pods "name=ovnkube-db"
  | flannel => .configMap "kube-system" "kube-flannel-cfg"
  | calico => .configMap "kube-system" "calico-config"

/-- What the answer to its lookup tells a probe: the signature of its plugin, that there is none, or a failure. -/
def sighting : (p : Probe) → interface.Reply p.lookup → Except Failure (Option Signature)
  | openShift => Except.map fun found : Option Json => found.map .networkConfig
  | weaveNet | ovnKubernetes => Except.map fun pods : List Pod => pods.head?.map .pod
  | canalFlannel | flannel | calico => Except.map fun found : Option ConfigMap => found.map .configMap

/-- The plugin that a probe reports for a signature. OpenShift comes with one of two plugins, and its document names
the one. -/
def pluginOf : Probe → Signature → NetworkPlugin
  | openShift, .networkConfig document =>
    if ((document.get "spec").get "networkType").asText? = some "OVNKubernetes" then .ovnKubernetes else .openShiftSdn
  | p, _ => p.plugin

/-- The probe has looked for its signature, and there is none. -/
inductive Misses (p : Probe) : Exchange interface → Prop
  | intro {reply : interface.Reply p.lookup} (h : p.sighting reply = .ok none) : Misses p ⟨p.lookup, reply⟩

private theorem lookup_injective {p p' : Probe} (h : p.lookup = p'.lookup) : p = p' := by
  revert h
  cases p <;> cases p' <;> decide

theorem isRead_lookup (p : Probe) : p.lookup.isRead = true := by
  cases p <;> rfl

private theorem signature_eq (p : Probe) :
    p.signature.toProgram = .ask p.lookup fun reply => .done (p.sighting reply) := by
  cases p
  all_goals
    refine congrArg (Program.ask _) (funext fun reply => ?_)
    cases reply <;> rfl

end Probe

namespace Discovery

/-! ### Reading from a signature -/

/-- A request for more about a signature: it changes nothing, and it is no lookup of a signature. -/
def IsDetail (q : Introspection.Query) : Prop :=
  q.isRead = true ∧ ∀ p : Probe, q ≠ p.lookup

/-- The exchanges of a task that asks for details until one request fails, and comes to a value with the property `Q` if
none does. -/
inductive Reads (Q : α → Prop) : List (Exchange interface) → Except Failure α → Prop
  | ok {es : List (Exchange interface)} {a : α} (hes : ∀ e ∈ es, IsDetail e.query ∧ failure? e = none) (ha : Q a) :
      Reads Q es (.ok a)
  | error {es : List (Exchange interface)} {e : Exchange interface} {f : Failure}
      (hes : ∀ e ∈ es, IsDetail e.query ∧ failure? e = none) (he : IsDetail e.query) (hf : failure? e = some f) :
      Reads Q (es ++ [e]) (.error f)

variable {Q : α → Prop} {R : β → Prop} {r : Except Failure α}

private theorem Reads.details (h : Reads Q es r) : ∀ e ∈ es, IsDetail e.query := by
  intro e he
  cases h with
  | ok hes => exact (hes e he).1
  | error hes hlast =>
    rcases List.mem_append.mp he with he | he
    · exact (hes e he).1
    · obtain rfl := List.mem_singleton.mp he
      exact hlast

private theorem reads_pure {a : α} (ha : Q a) (h : (pure a : Task interface α).toProgram.Trace es (.done r)) :
    Reads Q es r := by
  obtain ⟨rfl, heq⟩ := Program.trace_done h
  cases heq
  exact .ok (by simp) ha

private theorem reads_ask {q : Introspection.Query} {r : Except Failure q.Result} (hq : IsDetail q)
    (h : (Introspection.ask q).toProgram.Trace es (.done r)) : Reads (fun _ => True) es r := by
  obtain rfl := Program.trace_request_done h
  cases r with
  | ok a => exact .ok (by simpa using ⟨hq, rfl⟩) trivial
  | error f =>
    have hnone : ∀ e ∈ ([] : List (Exchange interface)), IsDetail e.query ∧ failure? e = none := by simp
    exact .error hnone hq rfl

private theorem reads_bind {t : Task interface α} {f : α → Task interface β} {o : Except Failure β}
    (h : (t >>= f).toProgram.Trace es (.done o))
    (ht : ∀ {es r}, t.toProgram.Trace es (.done r) → Reads Q es r)
    (hf : ∀ {a es o}, Q a → (f a).toProgram.Trace es (.done o) → Reads R es o) : Reads R es o := by
  rcases Task.trace_bind_done h with ⟨e, hfirst, rfl⟩ | ⟨es₁, es₂, a, rfl, hfirst, hnext⟩
  · cases ht hfirst with
    | error hes he hfail => exact .error hes he hfail
  · cases ht hfirst with
    | ok hes ha =>
      have hall : ∀ {es'}, (∀ e ∈ es', IsDetail e.query ∧ failure? e = none) →
          ∀ e ∈ es₁ ++ es', IsDetail e.query ∧ failure? e = none :=
        fun hes' e he => (List.mem_append.mp he).elim (hes e) (hes' e)
      cases hf ha hnext with
      | ok hes' hb => exact .ok (hall hes') hb
      | error hes' he hfail =>
        rw [← List.append_assoc]
        exact .error (hall hes') he hfail

private theorem isDetail_pods {selector : String} (hweave : selector ≠ "name=weave-net")
    (hovn : selector ≠ "name=ovnkube-db") :
    IsDetail (.pods selector) := by
  refine ⟨rfl, fun p => ?_⟩
  cases p with
  | weaveNet => exact fun h => hweave (Introspection.Query.pods.inj h)
  | ovnKubernetes => exact fun h => hovn (Introspection.Query.pods.inj h)
  | openShift | canalFlannel | flannel | calico => exact Introspection.Query.noConfusion

private theorem isDetail_service (space name : String) : IsDetail (.service space name) := by
  refine ⟨rfl, fun p => ?_⟩
  cases p <;> exact Introspection.Query.noConfusion

private theorem isDetail_ovnConfig (space : String) : IsDetail (.configMap space "ovn-config") := by
  refine ⟨rfl, fun p => ?_⟩
  cases p with
  | canalFlannel | flannel | calico => exact fun h => absurd (Introspection.Query.configMap.inj h).2 (by decide)
  | openShift | weaveNet | ovnKubernetes => exact Introspection.Query.noConfusion

private theorem reads_findFlag {selector flag : String} {r : Except Failure (Option String)}
    (hselector : IsDetail (.pods selector))
    (h : (findFlag selector flag).toProgram.Trace es (.done r)) : Reads (fun _ => True) es r :=
  reads_bind h (reads_ask hselector) fun _ hdone => reads_pure trivial hdone

private theorem reads_findServiceCidr {r : Except Failure (Option String)}
    (h : findServiceCidr.toProgram.Trace es (.done r)) : Reads (fun _ => True) es r :=
  reads_findFlag (isDetail_pods (by decide) (by decide)) h

private theorem reads_findPodCidr {r : Except Failure (Option String)}
    (h : findPodCidr.toProgram.Trace es (.done r)) : Reads (fun _ => True) es r := by
  refine reads_bind h (reads_findFlag (isDetail_pods (by decide) (by decide))) ?_
  intro found es' r' _ hnext
  cases found with
  | some cidr => exact reads_pure trivial hnext
  | none => exact reads_findFlag (isDetail_pods (by decide) (by decide)) hnext

end Discovery

namespace Probe

open Discovery

private theorem reads_ovnNetwork {pod : Pod} {r : Except Failure ClusterNetwork}
    (h : (ovnNetwork pod).toProgram.Trace es (.done r)) : Reads (fun n => n.plugin = .ovnKubernetes) es r := by
  unfold ovnNetwork at h
  cases hspace : pod.metadata.space with
  | none =>
    rw [hspace] at h
    exact reads_pure rfl h
  | some space =>
    rw [hspace] at h
    refine reads_bind h (reads_ask (isDetail_service space ovnService)) ?_
    intro there es' r' _ hnext
    cases there with
    | false => exact reads_pure rfl hnext
    | true =>
      refine reads_bind hnext (reads_ask (isDetail_ovnConfig space)) ?_
      intro found es' r' _ hnext
      split at hnext
      · exact reads_pure rfl hnext
      · exact reads_pure rfl hnext

/-- What a probe reads from a signature is a network with the plugin that it reports. -/
private theorem reads_extract {p : Probe} {s : Signature} {r : Except Failure ClusterNetwork}
    (h : (p.extract s).toProgram.Trace es (.done r)) : Reads (fun n => n.plugin = p.pluginOf s) es r := by
  unfold extract at h
  split at h
  · exact reads_pure rfl h
  · exact reads_bind h reads_findServiceCidr fun _ hdone => reads_pure rfl hdone
  · exact reads_bind h reads_findServiceCidr fun _ hdone => reads_pure rfl hdone
  · exact reads_bind h reads_findServiceCidr fun _ hdone => reads_pure rfl hdone
  · exact reads_ovnNetwork h
  · refine reads_bind h reads_findPodCidr fun _ hnext => ?_
    exact reads_bind hnext reads_findServiceCidr fun _ hdone => reads_pure rfl hdone
  · rename_i hdocument _ _ _ _ _
    refine reads_pure ?_ h
    unfold pluginOf
    split
    · exact (hdocument _ rfl rfl).elim
    · rfl

/-! ### Deciding -/

/-- The exchanges with which a probe decides discovery, and the outcome. Its lookup fails, or it finds a signature and
all is read from it. -/
inductive Decides (p : Probe) : List (Exchange interface) → Except Failure (Option ClusterNetwork) → Prop
  | unanswered {reply : interface.Reply p.lookup} {e : Failure} (hfail : p.sighting reply = .error e) :
      Decides p [⟨p.lookup, reply⟩] (.error (.discovery p.name e.message))
  | found {reply : interface.Reply p.lookup} {s : Signature} {es : List (Exchange interface)} {n : ClusterNetwork}
      (hfound : p.sighting reply = .ok (some s)) (hextract : (p.extract s).toProgram.Trace es (.done (.ok n)))
      (hreplies : ∀ e ∈ es, failure? e = none) (hplugin : n.plugin = p.pluginOf s) :
      Decides p (⟨p.lookup, reply⟩ :: es) (.ok (some n))
  | unread {reply : interface.Reply p.lookup} {s : Signature} {es : List (Exchange interface)} {e : Exchange interface}
      {f : Failure} (hfound : p.sighting reply = .ok (some s))
      (hextract : (p.extract s).toProgram.Trace (es ++ [e]) (.done (.error f))) (hfail : failure? e = some f) :
      Decides p (⟨p.lookup, reply⟩ :: (es ++ [e])) (.error (.discovery p.name f.message))

/-- A probe misses its signature, or it decides. -/
private theorem detect_cases {p : Probe} {o : Except Failure (Option ClusterNetwork)}
    (h : (named p.name p.detect).toProgram.Trace es (.done o)) :
    (∃ e, es = [e] ∧ p.Misses e ∧ o = .ok none) ∨ p.Decides es o := by
  obtain ⟨r, hdetect, rfl⟩ := Task.trace_mapFailure_done h
  rw [detect, Task.toProgram_bind, signature_eq] at hdetect
  obtain ⟨reply, es, rfl, hnext⟩ := Program.trace_ask_done hdetect
  rw [Program.bind] at hnext
  cases hsighting : p.sighting reply with
  | error e =>
    rw [hsighting] at hnext
    obtain ⟨rfl, heq⟩ := Program.trace_done hnext
    cases heq
    exact .inr (.unanswered hsighting)
  | ok found =>
    rw [hsighting] at hnext
    cases found with
    | none =>
      obtain ⟨rfl, heq⟩ := Program.trace_done hnext
      cases heq
      exact .inl ⟨_, rfl, .intro hsighting, rfl⟩
    | some s =>
      rcases Task.trace_bind_done hnext with ⟨e, hextract, rfl⟩ | ⟨es₁, es₂, n, rfl, hextract, hdone⟩
      · cases reads_extract hextract with
        | error hes he hfail => exact .inr (.unread hsighting hextract hfail)
      · obtain ⟨rfl, heq⟩ := Program.trace_done hdone
        cases heq
        cases reads_extract hextract with
        | ok hes hplugin =>
          rw [List.append_nil]
          exact .inr (.found hsighting hextract (fun e he => (hes e he).2) hplugin)

/-- The probe that decides makes its own lookup, and else asks for details only. -/
private theorem Decides.lookups {p : Probe} {o : Except Failure (Option ClusterNetwork)} (h : p.Decides es o) :
    ∀ e ∈ es, e.query = p.lookup ∨ IsDetail e.query := by
  cases h with
  | unanswered =>
    intro e he
    obtain rfl := List.mem_singleton.mp he
    exact .inl rfl
  | found hfound hextract =>
    intro e he
    rcases List.mem_cons.mp he with rfl | he
    · exact .inl rfl
    · exact .inr ((reads_extract hextract).details e he)
  | unread hfound hextract =>
    intro e he
    rcases List.mem_cons.mp he with rfl | he
    · exact .inl rfl
    · exact .inr ((reads_extract hextract).details e he)

end Probe

namespace Discovery

/-- The exchanges of the fallback, and the outcome, in which a failure is named after it. -/
def FallsBack (es : List (Exchange interface)) (o : Except Failure (Option ClusterNetwork)) : Prop :=
  ∃ r, discoverGeneric.toProgram.Trace es (.done r) ∧ o = r.mapError fun e => .discovery "generic" e.message

/-- Probes that are tried in order miss their signatures until one of them decides, or the fallback is tried. -/
theorem discoverWith_cases {ps : List Probe} {o : Except Failure (Option ClusterNetwork)}
    (h : (discoverWith ps).toProgram.Trace es (.done o)) :
    ∃ es₁ es₂, es = es₁ ++ es₂ ∧
      ((∃ before p after, ps = before ++ p :: after ∧ List.Forall₂ Probe.Misses before es₁ ∧ p.Decides es₂ o) ∨
        List.Forall₂ Probe.Misses ps es₁ ∧ FallsBack es₂ o) := by
  induction ps generalizing es with
  | nil =>
    obtain ⟨r, hgeneric, rfl⟩ := Task.trace_mapFailure_done h
    exact ⟨[], es, rfl, .inr ⟨.nil, r, hgeneric, rfl⟩⟩
  | cons p ps ih =>
    rcases Task.trace_bind_done h with ⟨e, hdetect, rfl⟩ | ⟨es₁, es₂, found, rfl, hdetect, hnext⟩
    · rcases Probe.detect_cases hdetect with ⟨_, -, -, heq⟩ | hdecides
      · cases heq
      · exact ⟨[], es, rfl, .inl ⟨[], p, ps, rfl, .nil, hdecides⟩⟩
    · rcases Probe.detect_cases hdetect with ⟨e, rfl, hmiss, heq⟩ | hdecides
      · cases heq
        -- the signature is missing, and the other probes go on as if this one had not been there
        obtain ⟨es₁, es₂, rfl, ⟨before, p', after, rfl, hbefore, hdecides⟩ | ⟨hall, hgeneric⟩⟩ := ih hnext
        · exact ⟨e :: es₁, es₂, rfl, .inl ⟨p :: before, p', after, rfl, .cons hmiss hbefore, hdecides⟩⟩
        · exact ⟨e :: es₁, es₂, rfl, .inr ⟨.cons hmiss hall, hgeneric⟩⟩
      · cases found with
        | some n =>
          obtain ⟨rfl, heq⟩ := Program.trace_done hnext
          cases heq
          rw [List.append_nil]
          exact ⟨[], es₁, rfl, .inl ⟨[], p, ps, rfl, .nil, hdecides⟩⟩
        | none => cases hdecides

theorem exists_misses_of_mem {ps : List Probe} {e : Exchange interface} (h : List.Forall₂ Probe.Misses ps es)
    (he : e ∈ es) : ∃ p ∈ ps, p.Misses e := by
  induction h with
  | nil => cases he
  | @cons p e' ps es hmiss _ ih =>
    rcases List.mem_cons.mp he with rfl | he
    · exact ⟨p, List.mem_cons_self, hmiss⟩
    · obtain ⟨p', hp', hmiss'⟩ := ih he
      exact ⟨p', List.mem_cons_of_mem _ hp', hmiss'⟩

/-- What the probes before the one that decides, and this one, ask: they only read, and they ask for no signature of a
probe behind it. -/
theorem lookups_of_decides {ps before after : List Probe} {p : Probe} {es₁ es₂ : List (Exchange interface)}
    {o : Except Failure (Option ClusterNetwork)} (hps : before ++ p :: after = ps) (hnodup : ps.Nodup)
    (hbefore : List.Forall₂ Probe.Misses before es₁) (hdecides : p.Decides es₂ o) :
    ∀ e ∈ es₁ ++ es₂, e.query.isRead = true ∧ ∀ p' ∈ after, e.query ≠ p'.lookup := by
  have hearlier : ∀ p₀ ∈ before ++ [p], ∀ p' ∈ after, p₀ ≠ p' := by
    rw [← hps, List.append_cons] at hnodup
    exact fun p₀ h₀ p' h' => (List.nodup_append.mp hnodup).2.2 p₀ h₀ p' h'
  have hlookup : ∀ p₀ ∈ before ++ [p], p₀.lookup.isRead = true ∧ ∀ p' ∈ after, p₀.lookup ≠ p'.lookup :=
    fun p₀ h₀ => ⟨p₀.isRead_lookup, fun p' h' heq => hearlier p₀ h₀ p' h' (Probe.lookup_injective heq)⟩
  intro e he
  rcases List.mem_append.mp he with he | he
  · obtain ⟨p₀, h₀, hmiss⟩ := exists_misses_of_mem hbefore he
    cases hmiss
    exact hlookup p₀ (List.mem_append_left _ h₀)
  · rcases hdecides.lookups e he with hown | hdetail
    · rw [hown]
      exact hlookup p (by simp)
    · exact ⟨hdetail.1, fun p' _ => hdetail.2 p'⟩

/-- The first lookup that does not come back empty decides, and the fallback if there is none; answers to requests that
are not made do not matter. -/
theorem first_signature_decides (w : Program.World interface σ) (s : σ) :
    (∃ es₁ es₂ o, discover.toProgram.log w s = es₁ ++ es₂ ∧ (discover.toProgram.run w s).1 = some o ∧
      ((∃ before p after, Probe.order = before ++ p :: after ∧ List.Forall₂ Probe.Misses before es₁ ∧
          p.Decides es₂ o ∧ ∀ e ∈ es₁ ++ es₂, e.query.isRead = true ∧ ∀ p' ∈ after, e.query ≠ p'.lookup) ∨
        List.Forall₂ Probe.Misses Probe.order es₁ ∧ FallsBack es₂ o)) ∧
    ∀ (τ : Type) (w' : Program.World interface τ) (t : τ),
      (discover.toProgram.run w s).1 = (discover.toProgram.run w' t).1 ∧
        discover.toProgram.log w s = discover.toProgram.log w' t ∨
      ∃ common q reply reply' es es', reply ≠ reply' ∧
        discover.toProgram.log w s = common ++ ⟨q, reply⟩ :: es ∧
        discover.toProgram.log w' t = common ++ ⟨q, reply'⟩ :: es' := by
  refine ⟨?_, fun τ w' t => Program.run_agrees_or_parts w w' _ s t⟩
  obtain ⟨o, s', hrun⟩ := (finishes_discoverWith Probe.order).run w s
  have hvalue : (discover.toProgram.run w s).1 = some o := congrArg Prod.fst hrun
  obtain ⟨es₁, es₂, hlog, ⟨before, p, after, horder, hbefore, hdecides⟩ | hfallback⟩ :=
    discoverWith_cases (Program.trace_log_of_run hvalue)
  · have hlookups := lookups_of_decides horder.symm (by decide) hbefore hdecides
    exact ⟨es₁, es₂, o, hlog, hvalue, .inl ⟨before, p, after, horder, hbefore, hdecides, hlookups⟩⟩
  · exact ⟨es₁, es₂, o, hlog, hvalue, .inr hfallback⟩

end Discovery

end MultiCluster
