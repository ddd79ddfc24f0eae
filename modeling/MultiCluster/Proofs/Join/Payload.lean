import MultiCluster.Join.Registration
import MultiCluster.Proofs.Join.Resolution

/-!
# What a registration hands over

A registration names the ranges that the request names, and leaves out those that were discovered. So it depends on
discovery only through the name of the plugin, and two discoveries that find the same plugin lead to the same
registration.

Main statement: `configured_addressing_is_registered`.
-/

namespace MultiCluster

/-- The key of a kind of range in a registration. -/
def RangeKind.key : RangeKind → String
  | services => "serviceCIDR"
  | pods => "clusterCIDR"

/-- A request names no range of a kind, and none was discovered. -/
def RangeKind.Unknown (kind : RangeKind) (r : JoinRequest) (found : Option ClusterNetwork) : Prop :=
  (∀ s ∈ kind.named? r, Text.isBlankText s = true) ∧ found.elim [] kind.discovered = []

variable {r : JoinRequest} {found found' : Option ClusterNetwork} {network network' : ResolvedNetwork}

/-! ### The ranges -/

private theorem explicit?_of_resolution {kind : RangeKind} {range : ResolvedCidr}
    (h : kind.resolution r found = .ok range) :
    Registration.explicit? range = meaningful? (kind.named? r) := by
  rw [RangeKind.resolution, resolveCidr] at h
  cases hnamed : meaningful? (kind.named? r) with
  | some cidr =>
    rw [hnamed] at h
    cases h
    rfl
  | none =>
    rw [hnamed] at h
    split at h
    · contradiction
    · cases h
      rfl
    · cases h

private theorem resolution_of_unknown {kind : RangeKind} (h : kind.Unknown r found) :
    kind.resolution r found = .error (.noCidr kind.name) :=
  resolution_eq_error_iff.mpr ⟨h.1, h.2, rfl⟩

private theorem exists_resolution {kind : RangeKind} (h : ¬ kind.Unknown r found) :
    ∃ range, kind.resolution r found = .ok range := by
  cases hrange : kind.resolution r found with
  | ok range => exact ⟨range, rfl⟩
  | error e =>
    obtain ⟨hblank, hnone, -⟩ := resolution_eq_error_iff.mp hrange
    exact absurd ⟨hblank, hnone⟩ h

/-- The resolution fails for want of a range, of one for the services if both are unknown. -/
private theorem resolveNetwork_eq_error_iff {e : Failure} : resolveNetwork r found = .error e ↔
    RangeKind.services.Unknown r found ∧ e = .noCidr "service" ∨
      ¬ RangeKind.services.Unknown r found ∧ RangeKind.pods.Unknown r found ∧ e = .noCidr "cluster" := by
  by_cases hs : RangeKind.services.Unknown r found
  · have hservices : resolveCidr "service" r.serviceCidr (found.elim [] ClusterNetwork.serviceCidrs) =
        .error (.noCidr "service") := resolution_of_unknown hs
    have hfail : resolveNetwork r found = .error (.noCidr "service") := by
      rw [resolveNetwork, hservices]
      rfl
    simp [hfail, hs, eq_comm]
  · obtain ⟨service, hservice⟩ := exists_resolution hs
    have hservices : resolveCidr "service" r.serviceCidr (found.elim [] ClusterNetwork.serviceCidrs) = .ok service :=
      hservice
    by_cases hp : RangeKind.pods.Unknown r found
    · have hpods : resolveCidr "cluster" r.clusterCidr (found.elim [] ClusterNetwork.podCidrs) =
          .error (.noCidr "cluster") := resolution_of_unknown hp
      have hfail : resolveNetwork r found = .error (.noCidr "cluster") := by
        rw [resolveNetwork, hservices, hpods]
        rfl
      simp [hfail, hs, hp, eq_comm]
    · obtain ⟨cluster, hcluster⟩ := exists_resolution hp
      have hpods : resolveCidr "cluster" r.clusterCidr (found.elim [] ClusterNetwork.podCidrs) = .ok cluster :=
        hcluster
      have hnever : resolveNetwork r found ≠ .error e := by
        rw [resolveNetwork, hservices, hpods]
        intro heq
        cases heq
      simp [hnever, hs, hp]

/-! ### Members of objects -/

namespace Json

@[simp]
theorem member?_append (key : String) (ms ms' : List (String × Json)) :
    (object (ms ++ ms')).member? key = ((object ms').member? key).or ((object ms).member? key) := by
  simp [member?, List.find?_append, Option.map_or]

@[simp]
theorem member?_cons (key : String) (m : String × Json) (ms : List (String × Json)) :
    (object (m :: ms)).member? key = ((object ms).member? key).or (if m.1 = key then some m.2 else none) := by
  by_cases h : m.1 = key <;> simp [member?, List.find?_append, h]

@[simp]
theorem member?_nil (key : String) : (object []).member? key = none := rfl

@[simp]
theorem member?_optionalMember {α : Type} (key name : String) (encode : α → Json) (a : Option α) :
    (object (optionalMember name encode a)).member? key = if name = key then a.map encode else none := by
  cases a <;> simp [optionalMember]

end Json

/-! ### The registration -/

/-- The registration of a request on a cluster with a plugin. -/
def JoinRequest.registration (r : JoinRequest) (plugin : NetworkPlugin) (block : Option Network)
    (credential : Credential) (broker : Broker) : Registration where
  apiServer := stripScheme broker.apiServer
  token := credential.token
  ca := credential.ca
  brokerSpace := broker.space
  cluster := r.cluster
  serviceCidr := meaningful? r.serviceCidr
  clusterCidr := meaningful? r.clusterCidr
  globalCidr := block
  plugin := plugin.name

/-- The resolved addressing is registered as the request has it, and of discovery only the plugin is. -/
private theorem registration_of_resolved (h : resolveNetwork r found = .ok network) (block : Option Network)
    (credential : Credential) (broker : Broker) :
    Registration.of { network with globalCidr := block } credential broker =
      r.registration (found.elim .generic ClusterNetwork.plugin) block credential broker := by
  obtain ⟨hranges, hcluster, -, hplugin⟩ := resolveNetwork_eq_ok_iff.mp h
  have hservices : Registration.explicit? network.serviceCidr = meaningful? r.serviceCidr :=
    explicit?_of_resolution (hranges .services)
  have hpods : Registration.explicit? network.clusterCidr = meaningful? r.clusterCidr :=
    explicit?_of_resolution (hranges .pods)
  simp only [Registration.of, JoinRequest.registration, hcluster, hservices, hpods, hplugin]

namespace Registration

/-- What the resource of a registration specifies. -/
def payload (r : Registration) : Json :=
  r.toJson.get "spec"

/-- The range of a kind that a registration names. -/
def named? (r : Registration) : RangeKind → Option String
  | .services => r.serviceCidr
  | .pods => r.clusterCidr

private theorem payload_eq (r : Registration) : r.payload = .object ([
    ("broker", .text "k8s"),
    ("brokerK8sApiServer", .text r.apiServer),
    ("brokerK8sApiServerToken", .text r.token),
    ("brokerK8sCA", .text (String.ofList (Text.Base64.encode r.ca))),
    ("brokerK8sRemoteNamespace", .text r.brokerSpace),
    ("clusterID", .text r.cluster)] ++
    Json.optionalMember "serviceCIDR" .text r.serviceCidr ++
    Json.optionalMember "clusterCIDR" .text r.clusterCidr ++
    Json.optionalMember "globalCIDR" (fun n : Network => .text n.toText) r.globalCidr ++ [
    ("namespace", .text operatorNamespace),
    ("networkPlugin", .text r.plugin)]) := rfl

/-- The members of a payload. A range, and the global block, is left out if there is none. -/
private theorem member?_payload (r : Registration) :
    (∀ kind : RangeKind, r.payload.member? kind.key = (r.named? kind).map Json.text) ∧
    r.payload.member? "clusterID" = some (.text r.cluster) ∧
    r.payload.member? "brokerK8sApiServerToken" = some (.text r.token) ∧
    r.payload.member? "brokerK8sCA" = some (.text (String.ofList (Text.Base64.encode r.ca))) ∧
    r.payload.member? "globalCIDR" = r.globalCidr.map (fun block => Json.text block.toText) ∧
    r.payload.member? "networkPlugin" = some (.text r.plugin) := by
  refine ⟨fun kind => ?_, ?_, ?_, ?_, ?_, ?_⟩
  · cases kind <;> simp [payload_eq, RangeKind.key, named?]
  all_goals simp [payload_eq]

end Registration

/-- A registration has a range exactly if the request names one, without blanks around it; of what was discovered it has
the plugin alone. -/
theorem configured_addressing_is_registered (r : JoinRequest) (found : Option ClusterNetwork) (block : Option Network)
    (credential : Credential) (broker : Broker) :
    (∀ network, resolveNetwork r found = .ok network →
      let payload := (Registration.of { network with globalCidr := block } credential broker).payload
      (∀ (kind : RangeKind) (j : Json), payload.member? kind.key = some j ↔
        ∃ s t, kind.named? r = some s ∧ Text.isBlankText s = false ∧ Text.TrimsTo s t ∧ j = .text t) ∧
      (∀ found' network', resolveNetwork r found' = .ok network' →
        found'.elim .generic ClusterNetwork.plugin = found.elim .generic ClusterNetwork.plugin →
        (Registration.of { network' with globalCidr := block } credential broker).payload = payload) ∧
      payload.member? "clusterID" = some (.text r.cluster) ∧
      payload.member? "brokerK8sApiServerToken" = some (.text credential.token) ∧
      payload.member? "globalCIDR" = block.map (fun b => Json.text b.toText) ∧
      payload.member? "networkPlugin" = some (.text (found.elim .generic ClusterNetwork.plugin).name) ∧
      ∃ ca, payload.member? "brokerK8sCA" = some (.text ca) ∧ Text.Base64.decode ca.toList = some credential.ca) ∧
    ∀ e, resolveNetwork r found = .error e ↔
      RangeKind.services.Unknown r found ∧ e = .noCidr "service" ∨
        ¬ RangeKind.services.Unknown r found ∧ RangeKind.pods.Unknown r found ∧ e = .noCidr "cluster" := by
  refine ⟨?_, fun e => resolveNetwork_eq_error_iff⟩
  intro network h payload
  have hpayload :
      payload = (r.registration (found.elim .generic ClusterNetwork.plugin) block credential broker).payload :=
    congrArg Registration.payload (registration_of_resolved h block credential broker)
  obtain ⟨hranges, hcluster, htoken, hca, hblock, hplugin⟩ :=
    (r.registration (found.elim .generic ClusterNetwork.plugin) block credential broker).member?_payload
  rw [hpayload]
  refine ⟨fun kind j => ?_, fun found' network' h' hsame => ?_, hcluster, htoken, hblock, hplugin, _, hca, ?_⟩
  · have hnamed : (r.registration (found.elim .generic ClusterNetwork.plugin) block credential broker).named? kind =
        meaningful? (kind.named? r) := by cases kind <;> rfl
    rw [hranges, hnamed, Option.map_eq_some_iff]
    constructor
    · rintro ⟨t, ht, rfl⟩
      obtain ⟨s, hs, hblank, htrims⟩ := meaningful?_eq_some_iff.mp ht
      exact ⟨s, t, hs, hblank, htrims, rfl⟩
    · rintro ⟨s, t, hs, hblank, htrims, rfl⟩
      exact ⟨t, meaningful?_eq_some_iff.mpr ⟨s, hs, hblank, htrims⟩, rfl⟩
  · rw [registration_of_resolved h' block credential broker, hsame]
  · rw [String.toList_ofList, Text.Base64.decode_encode]
    rfl

end MultiCluster
