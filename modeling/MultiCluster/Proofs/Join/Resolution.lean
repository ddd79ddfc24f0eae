import MultiCluster.Join.Request
import MultiCluster.Proofs.Text.Trim

/-!
# How the addressing is resolved

A registration needs two ranges, one for the services and one for the pods, and both are resolved in the same way. A
range that the request names wins, and a blank one names nothing; without one the first discovered range is taken, and
if there is none the resolution fails.

Main statements: `resolution_of_blank`, `resolution_eq_error_iff` and `resolveNetwork_eq_ok_iff`.
-/

namespace MultiCluster

/-- What a range is for. -/
inductive RangeKind where
  | services
  | pods
  deriving DecidableEq, Repr

namespace RangeKind

/-- The name of a kind in failures. -/
def name : RangeKind → String
  | services => "service"
  | pods => "cluster"

/-- The range of a kind that a request names. -/
def named? : RangeKind → JoinRequest → Option String
  | services, r => r.serviceCidr
  | pods, r => r.clusterCidr

/-- The ranges of a kind that were discovered. -/
def discovered : RangeKind → ClusterNetwork → List String
  | services, n => n.serviceCidrs
  | pods, n => n.podCidrs

/-- The range of a kind that was resolved. -/
def resolved : RangeKind → ResolvedNetwork → ResolvedCidr
  | services, network => network.serviceCidr
  | pods, network => network.clusterCidr

end RangeKind

/-! ### Blank ranges -/

theorem Text.trim_eq_empty_iff {s : String} : trim s = "" ↔ isBlankText s = true := by
  rw [trim_eq_iff, isBlankText, List.all_eq_true]
  constructor
  · rintro ⟨before, after, hs, hbefore, hafter, -⟩ c hc
    rw [hs, String.toList_empty, List.nil_append] at hc
    exact (List.mem_append.mp hc).elim (hbefore c) (hafter c)
  · intro h
    exact ⟨s.toList, [], by simp, h, by simp, by simp, by simp⟩

theorem meaningful?_eq_none_iff {range : Option String} :
    meaningful? range = none ↔ ∀ c ∈ range, Text.isBlankText c = true := by
  cases range with
  | none => simp [meaningful?]
  | some c => simp [meaningful?, Option.filter, Text.trim_eq_empty_iff]

theorem meaningful?_eq_some_iff {range : Option String} {t : String} : meaningful? range = some t ↔
    ∃ s, range = some s ∧ Text.isBlankText s = false ∧ Text.TrimsTo s t := by
  cases range with
  | none => simp [meaningful?]
  | some s =>
    rw [meaningful?, Option.map_some, Option.filter_eq_some_iff]
    constructor
    · rintro ⟨ht, hne⟩
      have htrim : Text.trim s = t := Option.some.inj ht
      refine ⟨s, rfl, ?_, Text.trim_eq_iff.mp htrim⟩
      rw [Bool.eq_false_iff, ne_eq, ← Text.trim_eq_empty_iff, htrim]
      simpa using hne
    · rintro ⟨s', hs, hblank, htrims⟩
      cases hs
      have htrim : Text.trim s = t := Text.trim_eq_iff.mpr htrims
      refine ⟨congrArg some htrim, ?_⟩
      rw [Bool.eq_false_iff, ne_eq, ← Text.trim_eq_empty_iff, htrim] at hblank
      simpa using hblank

/-! ### One range -/

variable {r : JoinRequest} {found : Option ClusterNetwork} {network : ResolvedNetwork}

/-- The resolution of the range of a kind. -/
def RangeKind.resolution (kind : RangeKind) (r : JoinRequest) (found : Option ClusterNetwork) :
    Except Failure ResolvedCidr :=
  resolveCidr kind.name (kind.named? r) (found.elim [] kind.discovered)

section

variable {kind : RangeKind} {range : ResolvedCidr} {e : Failure}

/-- A request that names no range gets the first discovered one. -/
theorem resolution_of_blank (hr : ∀ c ∈ kind.named? r, Text.isBlankText c = true)
    (h : kind.resolution r found = .ok range) :
    (found.elim [] kind.discovered).head? = some range.cidr ∧ range.autoDetected = true := by
  rw [RangeKind.resolution, resolveCidr, meaningful?_eq_none_iff.mpr hr] at h
  split at h
  · contradiction
  · cases h
    exact ⟨‹_›, rfl⟩
  · cases h

/-- The resolution of a range fails only for want of one. -/
theorem resolution_eq_error_iff : kind.resolution r found = .error e ↔
    (∀ c ∈ kind.named? r, Text.isBlankText c = true) ∧ found.elim [] kind.discovered = [] ∧
      e = .noCidr kind.name := by
  rw [RangeKind.resolution, resolveCidr, ← meaningful?_eq_none_iff, ← List.head?_eq_none_iff]
  cases hnamed : meaningful? (kind.named? r) with
  | some cidr => simp
  | none =>
    cases hfirst : (found.elim [] kind.discovered).head? with
    | some cidr => simp
    | none => simp [eq_comm]

end

/-! ### Both ranges -/

/-- The addressing is resolved if both ranges are. -/
theorem resolveNetwork_eq_ok_iff : resolveNetwork r found = .ok network ↔
    (∀ kind : RangeKind, kind.resolution r found = .ok (kind.resolved network)) ∧ network.cluster = r.cluster ∧
      network.globalCidr = none ∧ network.plugin = (found.elim .generic ClusterNetwork.plugin).name := by
  constructor
  · intro h
    obtain ⟨service, hservice, h⟩ := bind_eq_ok_cases h
    obtain ⟨cluster, hcluster, h⟩ := bind_eq_ok_cases h
    cases h
    refine ⟨fun kind => ?_, rfl, rfl, rfl⟩
    cases kind with
    | services => exact hservice
    | pods => exact hcluster
  · rintro ⟨hranges, hcluster, hglobal, hplugin⟩
    have hservices : resolveCidr "service" r.serviceCidr (found.elim [] ClusterNetwork.serviceCidrs) = _ :=
      hranges .services
    have hpods : resolveCidr "cluster" r.clusterCidr (found.elim [] ClusterNetwork.podCidrs) = _ := hranges .pods
    obtain ⟨cluster, service, pods, global, plugin⟩ := network
    cases hcluster
    cases hglobal
    cases hplugin
    rw [resolveNetwork, hservices, hpods]
    rfl

/-- A range that cannot be resolved fails the resolution, in its own name or in that of the other range. -/
theorem resolveNetwork_of_error {kind : RangeKind} {e : Failure} (h : kind.resolution r found = .error e) :
    ∃ (kind' : RangeKind) (e' : Failure), kind'.resolution r found = .error e' ∧
      resolveNetwork r found = .error e' := by
  cases hnetwork : resolveNetwork r found with
  | ok network =>
    rw [(resolveNetwork_eq_ok_iff.mp hnetwork).1 kind] at h
    cases h
  | error e' =>
    rcases bind_eq_error_cases hnetwork with hservices | ⟨service, -, hnetwork⟩
    · exact ⟨.services, e', hservices, rfl⟩
    · rcases bind_eq_error_cases hnetwork with hpods | ⟨cluster, -, hdone⟩
      · exact ⟨.pods, e', hpods, rfl⟩
      · cases hdone

end MultiCluster
