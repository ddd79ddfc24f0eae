import MultiCluster.Proofs.Discovery.Fallback
import MultiCluster.Proofs.Join.Resolution

/-!
# Where empty ranges come from

Discovery finds ranges in environments, on command lines, in configurations and in messages, and takes none of these if
it is empty. But it copies what an OpenShift document lists and what a configuration of OVN says, and these may be empty
texts. Then the addressing is resolved to an empty range, instead of none.

Main statement: `Discovery.empty_ranges_are_copied`.
-/

namespace MultiCluster

open Introspection (interface)

variable {es : List (Exchange interface)} {e : Exchange interface} {kind : RangeKind} {σ : Type}

/-! ### Values that are taken if they are not empty -/

private theorem Pod.envValue?_ne_empty (p : Pod) (name : String) : p.envValue? name ≠ some "" := by
  intro h
  simp [envValue?, Option.filter_eq_some_iff] at h

private theorem Pod.commandParameter_ne_empty (p : Pod) (flag : String) : p.commandParameter flag ≠ some "" := by
  intro h
  obtain ⟨value, hvalue, hempty⟩ := Option.map_eq_some_iff.mp h
  obtain ⟨-, hne⟩ := Option.filter_eq_some_iff.mp hvalue
  obtain rfl : value = [] := by simpa using congrArg String.toList hempty
  simp at hne

private theorem ConfigMap.netConfNetwork_ne_empty (c : ConfigMap) : c.netConfNetwork ≠ some "" := by
  intro h
  obtain ⟨raw, -, h⟩ := Option.bind_eq_some_iff.mp h
  obtain ⟨j, -, h⟩ := Option.bind_eq_some_iff.mp h
  obtain ⟨fields, -, h⟩ := Option.bind_eq_some_iff.mp h
  obtain ⟨network, -, h⟩ := Option.bind_eq_some_iff.mp h
  simp [Option.filter_eq_some_iff] at h

private theorem Discovery.parseServiceRange_ne_empty (message : String) : parseServiceRange message ≠ some "" := by
  intro h
  obtain ⟨tail, -, h⟩ := Option.bind_eq_some_iff.mp h
  obtain ⟨word, -, h⟩ := Option.bind_eq_some_iff.mp h
  obtain ⟨hslash, hempty⟩ := (Option.ite_none_right_eq_some ..).mp h
  have hnil : Text.dropEnd isPunctuation word = [] := by
    simpa using congrArg String.toList (Option.some.inj hempty)
  rw [hnil] at hslash
  cases hslash

namespace RangeKind

/-- The key under which an OpenShift document lists the ranges of a kind. -/
def listKey : RangeKind → String
  | services => "serviceNetwork"
  | pods => "clusterNetwork"

/-- The range that an item of such a list names. -/
def listed? : RangeKind → Json → Option String
  | services, item => item.asText?
  | pods, item => (item.get "cidr").asText?

/-- The key under which a configuration of OVN names the range of a kind. -/
def configKey : RangeKind → String
  | services => "svc_cidr"
  | pods => "net_cidr"

private theorem discovered_openShiftNetwork (kind : RangeKind) (document : Json) :
    kind.discovered (Probe.openShiftNetwork document) =
      ((document.get "spec").get kind.listKey).items.filterMap kind.listed? := by
  cases kind <;> rfl

end RangeKind

namespace Discovery

/-- The answer has an empty text for a range: in the list of an OpenShift document, or in a configuration of OVN. -/
inductive LeavesEmpty (kind : RangeKind) : Exchange interface → Prop
  | listed {document item : Json} (hitem : item ∈ ((document.get "spec").get kind.listKey).items)
      (h : kind.listed? item = some "") : LeavesEmpty kind ⟨.openShiftNetwork, .ok (some document)⟩
  | configured {space name : String} {config : ConfigMap} (hname : name = "ovn-config")
      (h : config.get? kind.configKey = some "") : LeavesEmpty kind ⟨.configMap space name, .ok (some config)⟩

private theorem not_leavesEmpty_of_pods {selector : String} (h : e.query = .pods selector) : ¬ LeavesEmpty kind e := by
  rintro (⟨-, -⟩ | ⟨-, -⟩)
  · cases h
  · cases h

private theorem not_leavesEmpty_lookup {p : Probe} (hp : p ≠ .openShift) (reply : interface.Reply p.lookup) :
    ¬ LeavesEmpty kind ⟨p.lookup, reply⟩ := by
  intro h
  cases p with
  | openShift => exact hp rfl
  | weaveNet | ovnKubernetes => exact not_leavesEmpty_of_pods rfl h
  | canalFlannel | flannel | calico =>
    cases h with
    | configured hname _ => exact absurd hname (by decide)

private theorem not_leavesEmpty_of_misses {p : Probe} (h : p.Misses e) : ¬ LeavesEmpty kind e := by
  cases h with
  | @intro reply hmiss =>
    by_cases hp : p = .openShift
    · subst hp
      intro hleaves
      cases hleaves with
      | listed _ _ => cases hmiss
    · exact not_leavesEmpty_lookup hp reply

private theorem leavesEmpty_listed_iff {document : Json} :
    LeavesEmpty kind ⟨.openShiftNetwork, .ok (some document)⟩ ↔
      "" ∈ kind.discovered (Probe.openShiftNetwork document) := by
  rw [kind.discovered_openShiftNetwork, List.mem_filterMap]
  constructor
  · rintro ⟨hitem, h⟩
    exact ⟨_, hitem, h⟩
  · rintro ⟨item, hitem, h⟩
    exact .listed hitem h

private theorem leavesEmpty_configured_iff (kind : RangeKind) (space : String) (found : Option ConfigMap) :
    LeavesEmpty kind ⟨.configMap space "ovn-config", .ok found⟩ ↔
      (found.bind ConfigMap.data).bind (fun data => data.get? kind.configKey) = some "" := by
  constructor
  · intro h
    cases h with
    | configured hname h => exact h
  · intro h
    obtain ⟨data, hdata, hrange⟩ := Option.bind_eq_some_iff.mp h
    obtain ⟨config, rfl, hconfig⟩ := Option.bind_eq_some_iff.mp hdata
    exact .configured rfl (by rw [ConfigMap.get?, hconfig]; exact hrange)

/-! ### Lookups of flags -/

private theorem of_findFlag (kind : RangeKind) {selector flag : String} {found : Option String}
    (h : (findFlag selector flag).toProgram.Trace es (.done (.ok found))) :
    (∀ e ∈ es, ¬ LeavesEmpty kind e) ∧ found ≠ some "" := by
  obtain ⟨reply, rfl, heq⟩ := trace_findFlag h
  refine ⟨fun e he => ?_, ?_⟩
  · obtain rfl := List.mem_singleton.mp he
    exact not_leavesEmpty_of_pods rfl
  · rintro rfl
    cases reply with
    | error e => cases heq
    | ok pods =>
      obtain ⟨pod, -, hflag⟩ := List.exists_of_findSome?_eq_some (Except.ok.inj heq).symm
      exact pod.commandParameter_ne_empty flag hflag

private theorem of_findServiceCidr (kind : RangeKind) {found : Option String}
    (h : findServiceCidr.toProgram.Trace es (.done (.ok found))) :
    (∀ e ∈ es, ¬ LeavesEmpty kind e) ∧ found ≠ some "" :=
  of_findFlag kind h

private theorem of_findPodCidr (kind : RangeKind) {found : Option String}
    (h : findPodCidr.toProgram.Trace es (.done (.ok found))) :
    (∀ e ∈ es, ¬ LeavesEmpty kind e) ∧ found ≠ some "" := by
  rcases Task.trace_bind_done h with ⟨e, -, heq⟩ | ⟨es₁, es₂, first, rfl, hfirst, hnext⟩
  · cases heq
  · obtain ⟨hes₁, hne⟩ := of_findFlag kind hfirst
    cases first with
    | some cidr =>
      obtain ⟨rfl, heq⟩ := Program.trace_done hnext
      cases heq
      rw [List.append_nil]
      exact ⟨hes₁, hne⟩
    | none =>
      obtain ⟨hes₂, hne'⟩ := of_findFlag kind hnext
      exact ⟨fun e he => (List.mem_append.mp he).elim (hes₁ e) (hes₂ e), hne'⟩

end Discovery

/-! ### What a probe reports -/

namespace RangeKind

private theorem empty_notMem_discovered {n : ClusterNetwork} {pods services : Option String}
    (hn : "" ∉ kind.discovered n) (hpods : pods ≠ some "") (hservices : services ≠ some "") :
    "" ∉ kind.discovered ((n.withPodCidr pods).withServiceCidr services) := by
  cases kind with
  | services => simpa [discovered, ClusterNetwork.withServiceCidr, ClusterNetwork.withPodCidr] using ⟨hn, hservices⟩
  | pods => simpa [discovered, ClusterNetwork.withServiceCidr, ClusterNetwork.withPodCidr] using ⟨hn, hpods⟩

private theorem discovered_ovnConfig (kind : RangeKind) (n : ClusterNetwork) (data : TextMap) :
    kind.discovered ((n.withPodCidr (data.get? "net_cidr")).withServiceCidr (data.get? "svc_cidr")) =
      kind.discovered n ++ (data.get? kind.configKey).toList := by
  cases kind <;> rfl

end RangeKind

namespace Probe

open Discovery

/-- The network of OVN has no ranges if there is no configuration to ask for, else those that the configuration
names. -/
private theorem ovnNetwork_cases {pod : Pod} {n : ClusterNetwork}
    (h : (ovnNetwork pod).toProgram.Trace es (.done (.ok n))) :
    (∀ kind : RangeKind, kind.discovered n = []) ∧ (∀ e ∈ es, ∃ space name, e.query = .service space name) ∨
    ∃ (space : String) (there : Except Failure Bool) (found : Option ConfigMap),
      es = [⟨.service space ovnService, there⟩, ⟨.configMap space "ovn-config", .ok found⟩] ∧
      ∀ kind : RangeKind, kind.discovered n =
        ((found.bind ConfigMap.data).bind fun data => data.get? kind.configKey).toList := by
  have hblank : ∀ settings (kind : RangeKind), kind.discovered { plugin := .ovnKubernetes, settings } = [] := by
    rintro settings (_ | _)
    · rfl
    · rfl
  unfold ovnNetwork at h
  cases hspace : pod.metadata.space with
  | none =>
    rw [hspace] at h
    obtain ⟨rfl, heq⟩ := Program.trace_done h
    cases heq
    exact .inl ⟨hblank _, List.forall_mem_nil _⟩
  | some space =>
    rw [hspace] at h
    obtain ⟨there, es, rfl, hnext⟩ := Program.trace_ask_done h
    cases there with
    | error e =>
      obtain ⟨rfl, heq⟩ := Program.trace_done hnext
      cases heq
    | ok isThere =>
      cases isThere with
      | false =>
        obtain ⟨rfl, heq⟩ := Program.trace_done hnext
        cases heq
        refine .inl ⟨hblank _, fun e he => ?_⟩
        obtain rfl := List.mem_singleton.mp he
        exact ⟨space, ovnService, rfl⟩
      | true =>
        obtain ⟨reply, es, rfl, hdone⟩ := Program.trace_ask_done hnext
        cases reply with
        | error e =>
          obtain ⟨rfl, heq⟩ := Program.trace_done hdone
          cases heq
        | ok found =>
          dsimp only [Program.bind, ExceptT.bindCont] at hdone
          refine .inr ⟨space, .ok true, found, ?_⟩
          cases hdata : Option.bind found ConfigMap.data with
          | none =>
            rw [hdata] at hdone
            obtain ⟨rfl, heq⟩ := Program.trace_done hdone
            cases heq
            exact ⟨rfl, hblank _⟩
          | some data =>
            rw [hdata] at hdone
            obtain ⟨rfl, heq⟩ := Program.trace_done hdone
            cases heq
            refine ⟨rfl, fun kind => ?_⟩
            rw [RangeKind.discovered_ovnConfig, ClusterNetwork.withSetting, ClusterNetwork.withSetting, hblank]
            rfl

private theorem empty_mem_ovnNetwork {pod : Pod} {n : ClusterNetwork}
    (h : (ovnNetwork pod).toProgram.Trace es (.done (.ok n))) :
    "" ∈ kind.discovered n ↔ ∃ e ∈ es, LeavesEmpty kind e := by
  rcases ovnNetwork_cases h with ⟨hnone, hes⟩ | ⟨space, there, found, rfl, hranges⟩
  · refine iff_of_false (by simp [hnone kind]) ?_
    rintro ⟨e, he, hleaves⟩
    obtain ⟨space, name, hservice⟩ := hes e he
    cases hleaves with
    | listed _ _ => cases hservice
    | configured _ _ => cases hservice
  · have hservice : ¬ LeavesEmpty kind (⟨.service space ovnService, there⟩ : Exchange interface) := nofun
    rw [hranges kind, Option.mem_toList, ← leavesEmpty_configured_iff kind space]
    simp [hservice]

/-- A network without empty ranges gets none from the command line of the API server. -/
private theorem empty_notMem_of_findServiceCidr {network n : ClusterNetwork} {pods : Option String}
    (hnetwork : "" ∉ kind.discovered network) (hpods : pods ≠ some "")
    (h : (do return (network.withPodCidr pods).withServiceCidr (← findServiceCidr) :
      Task interface ClusterNetwork).toProgram.Trace es (.done (.ok n))) :
    "" ∉ kind.discovered n ∧ ∀ e ∈ es, ¬ LeavesEmpty kind e := by
  rcases Task.trace_bind_done h with ⟨e, -, heq⟩ | ⟨es₁, es₂, services, rfl, hservices, hdone⟩
  · cases heq
  · obtain ⟨hes, hne⟩ := of_findServiceCidr kind hservices
    obtain ⟨rfl, heq⟩ := Program.trace_done hdone
    cases heq
    rw [List.append_nil]
    exact ⟨RangeKind.empty_notMem_discovered hnetwork hpods hne, hes⟩

private theorem sighting_openShift {reply : interface.Reply openShift.lookup} {s : Signature}
    (h : openShift.sighting reply = .ok (some s)) :
    ∃ document, reply = .ok (some document) ∧ s = .networkConfig document := by
  cases reply with
  | error e => cases h
  | ok found =>
    cases found with
    | none => cases h
    | some document =>
      cases h
      exact ⟨document, rfl, rfl⟩

/-- A range that a probe reports is empty if the signature or the configuration of its plugin has it so. -/
private theorem empty_mem_extract {p : Probe} {reply : interface.Reply p.lookup} {s : Signature} {n : ClusterNetwork}
    (hfound : p.sighting reply = .ok (some s)) (h : (p.extract s).toProgram.Trace es (.done (.ok n))) :
    "" ∈ kind.discovered n ↔ ∃ e ∈ (⟨p.lookup, reply⟩ : Exchange interface) :: es, LeavesEmpty kind e := by
  have hblank : "" ∉ kind.discovered { plugin := p.plugin } := by
    cases kind <;> exact List.not_mem_nil
  have hnone : p ≠ .openShift → "" ∉ kind.discovered n ∧ (∀ e ∈ es, ¬ LeavesEmpty kind e) →
      ("" ∈ kind.discovered n ↔ ∃ e ∈ (⟨p.lookup, reply⟩ : Exchange interface) :: es, LeavesEmpty kind e) := by
    rintro hp ⟨hn, hes⟩
    simpa [hn, not_leavesEmpty_lookup hp reply] using hes
  unfold extract at h
  split at h
  · obtain ⟨document, rfl, hs⟩ := sighting_openShift hfound
    cases hs
    obtain ⟨rfl, heq⟩ := Program.trace_done h
    cases heq
    simp only [List.mem_singleton, exists_eq_left]
    exact leavesEmpty_listed_iff.symm
  · rename_i pod
    exact hnone nofun (empty_notMem_of_findServiceCidr hblank (pod.envValue?_ne_empty _) h)
  · rename_i config
    exact hnone nofun (empty_notMem_of_findServiceCidr hblank config.netConfNetwork_ne_empty h)
  · rename_i config
    exact hnone nofun (empty_notMem_of_findServiceCidr hblank config.netConfNetwork_ne_empty h)
  · have hfirst := @not_leavesEmpty_lookup kind ovnKubernetes nofun reply
    simp [empty_mem_ovnNetwork h, hfirst]
  · rcases Task.trace_bind_done h with ⟨e, -, heq⟩ | ⟨es₁, es₂, pods, rfl, hpods, hnext⟩
    · cases heq
    · obtain ⟨hes₁, hne⟩ := of_findPodCidr kind hpods
      obtain ⟨hn, hes₂⟩ := empty_notMem_of_findServiceCidr hblank hne hnext
      exact hnone nofun ⟨hn, fun e he => (List.mem_append.mp he).elim (hes₁ e) (hes₂ e)⟩
  · rename_i hdocument _ _ _ _ _
    obtain ⟨rfl, heq⟩ := Program.trace_done h
    cases heq
    refine hnone ?_ ⟨hblank, List.forall_mem_nil _⟩
    rintro rfl
    obtain ⟨document, -, rfl⟩ := sighting_openShift hfound
    exact hdocument document rfl rfl

end Probe

namespace Discovery

private theorem of_submits (kind : RangeKind) {found : Option String} (h : Submits es (.ok found)) :
    (∀ e ∈ es, ¬ LeavesEmpty kind e) ∧ found ≠ some "" := by
  cases h with
  | refused => exact ⟨by simpa using nofun, parseServiceRange_ne_empty _⟩
  | removed => exact ⟨by simpa using ⟨nofun, nofun⟩, nofun⟩

private theorem of_guesses (kind : RangeKind) {n : ClusterNetwork} {r : Except Failure (Option ClusterNetwork)}
    (h : Guesses es r) (hr : r = .ok (some n)) : (∀ e ∈ es, ¬ LeavesEmpty kind e) ∧ "" ∉ kind.discovered n := by
  have hgeneric : ∀ {cidr}, some cidr ≠ some "" → "" ∉ kind.discovered (generic cidr) := by
    intro cidr hne
    cases kind with
    | services => simpa [RangeKind.discovered, generic] using Ne.symm hne
    | pods => exact List.not_mem_nil
  have hlookup : ∀ pods : Except Failure (List Pod),
      ¬ LeavesEmpty kind (⟨.pods "component=kube-apiserver", pods⟩ : Exchange interface) :=
    fun _ => not_leavesEmpty_of_pods rfl
  cases h with
  | unanswered => cases hr
  | @configured pods cidr h =>
    cases hr
    obtain ⟨pod, -, hflag⟩ := List.exists_of_findSome?_eq_some h
    have hne : some cidr ≠ some "" := hflag ▸ pod.commandParameter_ne_empty _
    exact ⟨by simpa using hlookup _, hgeneric hne⟩
  | @submitted pods es r h hs =>
    cases r with
    | error e => cases hr
    | ok found =>
      cases found with
      | none => cases hr
      | some cidr =>
        cases hr
        obtain ⟨hes, hne⟩ := of_submits kind hs
        exact ⟨by simpa using ⟨hlookup _, hes⟩, hgeneric hne⟩

/-- A range that discovery reports is empty if the cluster has it so. -/
private theorem empty_mem_discover (kind : RangeKind) {n : ClusterNetwork}
    (h : discover.toProgram.Trace es (.done (.ok (some n)))) :
    "" ∈ kind.discovered n ↔ ∃ e ∈ es, LeavesEmpty kind e := by
  obtain ⟨es₁, es₂, rfl, hcases⟩ := discoverWith_cases h
  have hmissed : ∀ {ps}, List.Forall₂ Probe.Misses ps es₁ → ∀ e ∈ es₁, ¬ LeavesEmpty kind e := by
    intro ps hmisses e he
    obtain ⟨p, -, hmiss⟩ := exists_misses_of_mem hmisses he
    exact not_leavesEmpty_of_misses hmiss
  have hlater : (∀ e ∈ es₁, ¬ LeavesEmpty kind e) →
      ((∃ e ∈ es₁ ++ es₂, LeavesEmpty kind e) ↔ ∃ e ∈ es₂, LeavesEmpty kind e) := by
    intro hes₁
    constructor
    · rintro ⟨e, he, hleaves⟩
      exact (List.mem_append.mp he).elim (fun he => absurd hleaves (hes₁ e he)) fun he => ⟨e, he, hleaves⟩
    · rintro ⟨e, he, hleaves⟩
      exact ⟨e, List.mem_append_right _ he, hleaves⟩
  rcases hcases with ⟨before, p, after, -, hbefore, hdecides⟩ | ⟨hmisses, r, hgeneric, heq⟩
  · rw [hlater (hmissed hbefore)]
    cases hdecides with
    | found hfound hextract => exact Probe.empty_mem_extract hfound hextract
  · rw [hlater (hmissed hmisses)]
    cases r with
    | error e => cases heq
    | ok found =>
      obtain ⟨hes₂, hn⟩ := of_guesses kind (guesses_of_trace hgeneric) heq.symm
      exact iff_of_false hn fun ⟨e, he, hleaves⟩ => hes₂ e he hleaves

/-- Discovery reports an empty range exactly if an OpenShift document or a configuration of OVN that it has read has
one, and a request that names none may be resolved to it. -/
theorem empty_ranges_are_copied (w : Program.World interface σ) (s : σ) :
    let es := discover.toProgram.log w s
    ∃ o, (discover.toProgram.run w s).1 = some o ∧ ∀ n, o = .ok (some n) → ∀ kind : RangeKind,
      ("" ∈ kind.discovered n ↔ ∃ e ∈ es, LeavesEmpty kind e) ∧
      ∀ r : JoinRequest, (∀ c ∈ kind.named? r, Text.isBlankText c = true) →
        (kind.discovered n = [] → ∃ kind' : RangeKind, kind'.discovered n = [] ∧
          resolveNetwork r (some n) = .error (.noCidr kind'.name)) ∧
        ∀ network, resolveNetwork r (some n) = .ok network →
          (kind.resolved network).autoDetected = true ∧
          (kind.discovered n).head? = some (kind.resolved network).cidr ∧
          ((kind.resolved network).cidr = "" → ∃ e ∈ es, LeavesEmpty kind e) := by
  intro es
  obtain ⟨o, s', hrun⟩ := (finishes_discoverWith Probe.order).run w s
  have hvalue : (discover.toProgram.run w s).1 = some o := congrArg Prod.fst hrun
  refine ⟨o, hvalue, ?_⟩
  rintro n rfl kind
  have hempty := empty_mem_discover kind (Program.trace_log_of_run hvalue)
  refine ⟨hempty, fun r hr => ⟨fun hnone => ?_, fun network hnetwork => ?_⟩⟩
  · have hfail : kind.resolution r (some n) = .error (.noCidr kind.name) :=
      resolution_eq_error_iff.mpr ⟨hr, hnone, rfl⟩
    obtain ⟨kind', e', hfail', hnetwork⟩ := resolveNetwork_of_error hfail
    obtain ⟨-, hnone', rfl⟩ := resolution_eq_error_iff.mp hfail'
    exact ⟨kind', hnone', hnetwork⟩
  · have hrange := (resolveNetwork_eq_ok_iff.mp hnetwork).1 kind
    obtain ⟨hfirst, hauto⟩ := resolution_of_blank hr hrange
    refine ⟨hauto, hfirst, fun hcidr => hempty.mp ?_⟩
    rw [← hcidr]
    exact List.mem_of_head? hfirst

/-- A cluster with a database of OVN and a configuration of it. -/
def ovnCluster (config : ConfigMap) : Program.World interface Unit where
  answer
    | .configMap _ name, s => (.ok (if name = "ovn-config" then some config else none), s)
    | .pods selector, s =>
      (.ok (if selector = "name=ovnkube-db" then [{ metadata := { space := some "ovn-kubernetes" } }] else []), s)
    | .service _ _, s => (.ok true, s)
    | .openShiftNetwork, s => (.ok none, s)
    | .createProbe _, s => (.ok (.rejected ""), s)
    | .deleteProbe _ _, s => (.ok (), s)

/-- If the configuration of OVN leaves the range of the pods empty, an empty range is discovered, and a request that
names no range gets it. -/
theorem empty_pod_range_is_copied :
    let config : ConfigMap := { data := some ⟨[("net_cidr", ""), ("svc_cidr", "172.30.0.0/16")]⟩ }
    ∃ n, (discover.toProgram.run (ovnCluster config) ()).1 = some (.ok (some n)) ∧ "" ∈ n.podCidrs ∧
      ∃ network, resolveNetwork { cluster := "east" } (some n) = .ok network ∧
        network.clusterCidr = { cidr := "", autoDetected := true } := by
  intro config
  refine ⟨_, rfl, ?_, _, rfl, ?_⟩
  · exact List.mem_singleton.mpr rfl
  · rfl

end Discovery

end MultiCluster
