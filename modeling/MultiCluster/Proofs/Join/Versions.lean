import MultiCluster.Api.Clients
import MultiCluster.Proofs.Join.Gate
import MultiCluster.Proofs.Text.Numeral
import MultiCluster.Proofs.Text.Trim

/-!
# The version of a cluster

A cluster is joined only if its API server has version 1.15 or a later one. The first part of a version decides, and
the second one only if the first one is that of the oldest version. Vendors put plus signs behind a part. A version with
a part that is no number, or one that does not fit into 32 bits, is as good as one that is too old: the attempt ends
with the requirement that is not fulfilled, and the ledger has not been asked for anything.

Main statement: `unsupported_versions_stop_attempts`.
-/

namespace MultiCluster

namespace Requirements

variable {s major minor : String} {v ma mi : Nat}

/-! ### The parts of a version -/

/-- The text `s` names the number `v`: between blanks it has the number, and then any number of plus signs. -/
def NamesPart (s : String) (v : Nat) : Prop :=
  ∃ trimmed number pluses : String, Text.TrimsTo s trimmed ∧ trimmed = number ++ pluses ∧
    (∀ c ∈ pluses.toList, c = '+') ∧ (∀ c ∈ number.toList.getLast?, c ≠ '+') ∧
    Text.Decimal.Spells number v ∧ v < Nat.pow 2 32

private theorem versionPart?_eq_some_iff_read : versionPart? s = some v ↔
    Text.Decimal.read Text.Decimal.halfLimit (String.ofList (Text.dropEnd (· == '+') (Text.trim s).toList)) =
      .ok v := by
  rw [Text.Decimal.read, Text.trim, String.toList_ofList, String.toList_ofList, versionPart?]
  cases Text.Decimal.readChars Text.Decimal.halfLimit (Text.dropEnd (· == '+') (Text.trimChars s.toList)) <;> simp

/-- A part of a version is read as the number that it names. -/
private theorem versionPart?_eq_some_iff : versionPart? s = some v ↔ NamesPart s v := by
  rw [versionPart?_eq_some_iff_read, Text.Decimal.read_eq_ok_iff (by decide)]
  constructor
  · rintro ⟨hspells, hlimit⟩
    obtain ⟨⟨pluses, htrimmed, hpluses⟩, hlast⟩ := Text.dropEnd_eq_iff.mp (Eq.refl (Text.dropEnd (· == '+') _))
    refine ⟨Text.trim s, _, String.ofList pluses, Text.trim_eq_iff.mp rfl, ?_, ?_, ?_, hspells, hlimit⟩
    · apply String.toList_injective
      simpa using htrimmed
    · simpa using hpluses
    · simpa using hlast
  · rintro ⟨trimmed, number, pluses, htrims, rfl, hpluses, hlast, hspells, hlimit⟩
    have hnumber : Text.dropEnd (· == '+') (number ++ pluses).toList = number.toList := by
      rw [String.toList_append]
      exact Text.dropEnd_eq_iff.mpr ⟨⟨_, rfl, by simpa using hpluses⟩, by simpa using hlast⟩
    rw [Text.trim_eq_iff.mpr htrims, hnumber, String.ofList_toList]
    exact ⟨hspells, hlimit⟩

/-! ### The check -/

/-- The texts name version 1.15 or a later one. -/
def Supports (major minor : String) : Prop :=
  ∃ ma mi, NamesPart major ma ∧ NamesPart minor mi ∧ (1 < ma ∨ ma = 1 ∧ 15 ≤ mi)

/-- What is said of a version: that it is too old, or that it is none. -/
def Faults (major minor message : String) : Prop :=
  (∃ ma mi, NamesPart major ma ∧ NamesPart minor mi ∧ message =
    "Kubernetes " ++ toString ma ++ "." ++ toString mi ++ " is older than the minimum supported 1.15") ∨
  ¬ ((∃ ma, NamesPart major ma) ∧ ∃ mi, NamesPart minor mi) ∧ message =
    "unrecognised Kubernetes version " ++ Text.quoted major ++ "." ++ Text.quoted minor

private theorem NamesPart.unique {v' : Nat} (h : NamesPart s v) (h' : NamesPart s v') : v = v' := by
  have hsame := (versionPart?_eq_some_iff.mpr h).symm.trans (versionPart?_eq_some_iff.mpr h')
  exact Option.some.inj hsame

private theorem supports_iff (hma : NamesPart major ma) (hmi : NamesPart minor mi) :
    Supports major minor ↔ 1 < ma ∨ ma = 1 ∧ 15 ≤ mi := by
  constructor
  · rintro ⟨ma', mi', hma', hmi', h⟩
    rwa [hma.unique hma', hmi.unique hmi']
  · exact fun h => ⟨ma, mi, hma, hmi, h⟩

private theorem checkVersion_of_parts (hma : NamesPart major ma) (hmi : NamesPart minor mi) : checkVersion major minor =
    if 1 < ma ∨ ma = 1 ∧ 15 ≤ mi then none
    else some ("Kubernetes " ++ toString ma ++ "." ++ toString mi ++ " is older than the minimum supported 1.15") := by
  rw [checkVersion, versionPart?_eq_some_iff.mpr hma, versionPart?_eq_some_iff.mpr hmi]

private theorem checkVersion_of_no_parts (h : ¬ ((∃ ma, NamesPart major ma) ∧ ∃ mi, NamesPart minor mi)) :
    checkVersion major minor =
      some ("unrecognised Kubernetes version " ++ Text.quoted major ++ "." ++ Text.quoted minor) := by
  unfold checkVersion
  split
  · rename_i ma mi hma hmi
    exact absurd ⟨⟨ma, versionPart?_eq_some_iff.mp hma⟩, mi, versionPart?_eq_some_iff.mp hmi⟩ h
  · rfl

/-- A version is supported, or the check says what is wrong with it. -/
private theorem checkVersion_cases (major minor : String) : (Supports major minor ∧ checkVersion major minor = none) ∨
    ¬ Supports major minor ∧ ∃ message, checkVersion major minor = some message ∧ Faults major minor message := by
  by_cases hparts : (∃ ma, NamesPart major ma) ∧ ∃ mi, NamesPart minor mi
  · obtain ⟨⟨ma, hma⟩, mi, hmi⟩ := hparts
    rw [supports_iff hma hmi, checkVersion_of_parts hma hmi]
    by_cases h : 1 < ma ∨ ma = 1 ∧ 15 ≤ mi
    · exact .inl ⟨h, if_pos h⟩
    · exact .inr ⟨h, _, if_neg h, .inl ⟨ma, mi, hma, hmi, rfl⟩⟩
  · have hnot : ¬ Supports major minor := fun ⟨ma, mi, hma, hmi, _⟩ => hparts ⟨⟨ma, hma⟩, mi, hmi⟩
    exact .inr ⟨hnot, _, checkVersion_of_no_parts hparts, .inr ⟨hparts, rfl⟩⟩

private theorem checkVersion_eq_none_iff : checkVersion major minor = none ↔ Supports major minor := by
  rcases checkVersion_cases major minor with ⟨h, hcheck⟩ | ⟨h, message, hcheck, -⟩
  · simp [h, hcheck]
  · simp [h, hcheck]

/-- One plus sign may lead a number, and any number of them may follow it, but no blank may stand between them. -/
example : checkVersion " +1\n" "21++" = none ∧ (checkVersion "1+ +" "21").isSome = true := by decide +kernel

private theorem ensureMet_checkVersion_iff :
    ensureMet (checkVersion major minor).toList = .ok () ↔ checkVersion major minor = none := by
  cases checkVersion major minor <;> simp [ensureMet]

private theorem ensureMet_of_some {message : String} (h : checkVersion major minor = some message) :
    ensureMet (checkVersion major minor).toList = .error (.requirements message) := by
  rw [h]
  rfl

end Requirements

namespace Join

open Requirements (checkVersion ensureMet Supports Faults)

variable {plan : Plan} {r : JoinRequest} {es : List (Exchange interface)} {network : ResolvedNetwork} {σ : Type}

/-! ### The requirements of an attempt -/

/-- The answer that all requirements are fulfilled. -/
def met : Exchange interface :=
  ⟨.requirements, .ok []⟩

private theorem Admits.met_mem (h : Admits r es network) : met ∈ es := by
  cases h with
  | mk h hv => exact List.mem_append_right _ (List.mem_singleton.mpr rfl)

private theorem Allocates.met_mem (h : Allocates plan r es network) : met ∈ es := by
  rcases h.globalCidr_cases with ⟨-, -, hadmits⟩ | ⟨found, hcommits⟩
  · exact hadmits.met_mem
  · cases hcommits with
    | mk h hc => exact List.mem_append_left _ h.admits.met_mem

/-- Without the answer that all requirements are fulfilled, an attempt only looks into the cluster and asks for them. -/
private theorem Due.met_mem {q : Query} (h : Due plan r es q) :
    (∃ q', q = .cluster q') ∨ q = .requirements ∨ met ∈ es := by
  cases h with
  | cluster h => exact .inl ⟨_, rfl⟩
  | requirements h hv => exact .inr (.inl rfl)
  | ledger h hc => exact .inr (.inr (List.mem_append_left _ h.admits.met_mem))
  | credential h hw => exact .inr (.inr (List.mem_append_left _ h.met_mem))
  | register h =>
    obtain ⟨earlier, later, rfl, hallocates⟩ := h.allocates
    exact .inr (.inr (List.mem_append_left _ hallocates.met_mem))

/-- An attempt ends with the requirements if they are not all fulfilled, or not known. -/
private theorem Due.ended_of_unmet (h : Due plan r es .requirements) {reply : Except Failure (List String)}
    {e : Failure} (hreply : reply.bind ensureMet = .error e) :
    ∃ found, (run plan r).Trace (es ++ [⟨.requirements, reply⟩])
      (.done { cluster := r.cluster, phase := .failed, failedIn := some .validating, resolved := some found,
               failure := some e }) := by
  cases h with
  | @requirements _ network h hv =>
    have hfails : Fails plan r (es ++ [⟨.requirements, reply⟩]) .requirements e (some network) := by
      cases reply with
      | ok unmet => exact .unmet h hv hreply
      | error e' =>
        cases hreply
        exact .unanswered h hv
    have hreached : Reached plan r (es ++ [⟨.requirements, reply⟩]) (.failed .validating e (some network)) :=
      ⟨.requirements, hfails, rfl⟩
    exact ⟨network, hreached.ended rfl⟩

section

variable {w : Program.World interface σ} {s : σ}

/-- An attempt that is never answered that all requirements are fulfilled has only looked into the cluster and asked for
them. -/
private theorem log_of_not_met (h : met ∉ (run plan r).log w s) :
    ∀ e ∈ (run plan r).log w s, (∃ q, e.query = .cluster q) ∨ e.query = .requirements := by
  rintro ⟨q, reply⟩ he
  obtain ⟨before, after, hes⟩ := List.append_of_mem he
  rcases (due_of_log hes).met_mem with hcluster | hrequirements | hmet
  · exact .inl hcluster
  · exact .inr hrequirements
  · exact absurd (hes ▸ List.mem_append_left _ hmet) h

private theorem run_of_unmet {before after : List (Exchange interface)} {reply : Except Failure (List String)}
    {e : Failure}
    (hes : (run plan r).log w s = before ++ ⟨.requirements, reply⟩ :: after) (h : reply.bind ensureMet = .error e) :
    after = [] ∧ ∃ found, ((run plan r).run w s).1 =
      some { cluster := r.cluster, phase := .failed, failedIn := some .validating, resolved := some found,
             failure := some e } := by
  obtain ⟨found, hended⟩ := (due_of_log hes).ended_of_unmet h
  obtain ⟨hover, hrun⟩ := Program.over_of_log hended (hes.trans (List.append_cons before _ after))
  exact ⟨hover, found, hrun⟩

end

/-- A cluster of the given version answers so when it is asked for the requirements that it does not fulfil. -/
def AnswersAs (major minor : String) (reply : Except Failure (List String)) : Prop :=
  Api.checkRequirements.toProgram.Trace [⟨.version, Except.ok (major, minor)⟩] (.done reply)

private theorem answersAs_iff {major minor : String} {reply : Except Failure (List String)} :
    AnswersAs major minor reply ↔ reply = .ok (checkVersion major minor).toList := by
  have hcheck : AnswersAs major minor (.ok (checkVersion major minor).toList) :=
    Program.Trace.refl.ask (I := Api.interface) (q := Api.Call.version) (Except.ok (major, minor))
  constructor
  · exact fun h => h.value_unique hcheck
  · rintro rfl
    exact hcheck

/-- The check passes exactly the versions from 1.15 on; for any other one there is an unfulfilled requirement, with
which an attempt ends before it asks the ledger for anything. -/
theorem unsupported_versions_stop_attempts (plan : Plan) (r : JoinRequest) (w : Program.World interface σ) (s : σ)
    (major minor : String) :
    let es := (run plan r).log w s
    (checkVersion major minor = none ↔ Supports major minor) ∧
    (ensureMet (checkVersion major minor).toList = .ok () ↔ Supports major minor) ∧
    (¬ Supports major minor → ∃ message, Faults major minor message ∧ checkVersion major minor = some message ∧
      ensureMet (checkVersion major minor).toList = .error (.requirements message) ∧
      ((∀ reply, (⟨.requirements, reply⟩ : Exchange interface) ∈ es → AnswersAs major minor reply) →
        (∀ e ∈ es, (∃ q, e.query = .cluster q) ∨ e.query = .requirements) ∧
        ∀ before after (reply : Except Failure (List String)), es = before ++ ⟨.requirements, reply⟩ :: after →
          after = [] ∧ ∃ found, ((run plan r).run w s).1 =
            some { cluster := r.cluster, phase := .failed, failedIn := some .validating, resolved := some found,
                   failure := some (.requirements message) })) := by
  intro es
  refine ⟨Requirements.checkVersion_eq_none_iff,
    Requirements.ensureMet_checkVersion_iff.trans Requirements.checkVersion_eq_none_iff, fun hnot => ?_⟩
  rcases Requirements.checkVersion_cases major minor with ⟨hsupports, -⟩ | ⟨-, message, hcheck, hfaults⟩
  · exact absurd hsupports hnot
  have hunmet := Requirements.ensureMet_of_some hcheck
  refine ⟨message, hfaults, hcheck, hunmet, fun hanswers => ?_⟩
  have hreply : ∀ reply, (⟨.requirements, reply⟩ : Exchange interface) ∈ es →
      reply = .ok (checkVersion major minor).toList := fun reply h => answersAs_iff.mp (hanswers reply h)
  refine ⟨log_of_not_met fun hmet => ?_, fun before after reply hes => run_of_unmet hes ?_⟩
  · have hanswer := hreply _ hmet
    rw [hcheck] at hanswer
    cases hanswer
  · rw [hreply reply (hes ▸ List.mem_append_right _ List.mem_cons_self)]
    exact hunmet

end Join

end MultiCluster
