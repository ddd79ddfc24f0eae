import MultiCluster.Proofs.Discovery.Priority

/-!
# The transient service is removed

Discovery changes a cluster in one way only: if no probe finds its signature and no API server names a range, the
fallback submits a service that the cluster should refuse. If the cluster creates it all the same, discovery deletes it,
and it ends well only if that succeeds.

Main statement: `Discovery.transient_service_is_removed`. What the fallback asks, and what comes of it, are
`Discovery.Submits` and `Discovery.Guesses`.
-/

namespace MultiCluster.Discovery

open Introspection (interface)

variable {es before after : List (Exchange interface)} {σ : Type}

/-! ### The course of the fallback -/

theorem trace_findFlag {selector flag : String} {r : Except Failure (Option String)}
    (h : (findFlag selector flag).toProgram.Trace es (.done r)) :
    ∃ reply : interface.Reply (.pods selector), es = [⟨.pods selector, reply⟩] ∧
      r = Except.map (fun pods : List Pod => pods.findSome? fun pod => pod.commandParameter flag) reply := by
  have hprogram : (findFlag selector flag).toProgram =
      .ask (.pods selector) fun reply : Except Failure (List Pod) =>
        .done (reply.map fun pods => pods.findSome? fun pod => pod.commandParameter flag) := by
    refine congrArg (Program.ask (I := interface) _) (funext fun reply => ?_)
    cases reply <;> rfl
  rw [hprogram] at h
  obtain ⟨reply, es', rfl, hdone⟩ := Program.trace_ask_done h
  obtain ⟨rfl, heq⟩ := Program.trace_done hdone
  exact ⟨reply, rfl, Program.done.inj heq⟩

/-- The exchanges about the transient service, and the range that is learnt from them. -/
inductive Submits : List (Exchange interface) → Except Failure (Option String) → Prop
  | unanswered {e : Failure} : Submits [⟨.createProbe probeNamespace, .error e⟩] (.error e)
  | refused {message : String} :
      Submits [⟨.createProbe probeNamespace, .ok (.rejected message)⟩] (.ok (parseServiceRange message))
  | removed {name : String} {address : Option String} :
      Submits [⟨.createProbe probeNamespace, .ok (.created name address)⟩, ⟨.deleteProbe probeNamespace name, .ok ()⟩]
        (.ok none)
  | left {name : String} {address : Option String} {e : Failure} :
      Submits [⟨.createProbe probeNamespace, .ok (.created name address)⟩, ⟨.deleteProbe probeNamespace name, .error e⟩]
        (.error e)

private theorem submits_of_trace {r : Except Failure (Option String)}
    (h : serviceCidrFromProbe.toProgram.Trace es (.done r)) : Submits es r := by
  obtain ⟨reply, es', rfl, hnext⟩ := Program.trace_ask_done h
  cases reply with
  | error e =>
    obtain ⟨rfl, heq⟩ := Program.trace_done hnext
    cases heq
    exact .unanswered
  | ok outcome =>
    cases outcome with
    | rejected message =>
      obtain ⟨rfl, heq⟩ := Program.trace_done hnext
      cases heq
      exact .refused
    | created name address =>
      obtain ⟨removal, es', rfl, hdone⟩ := Program.trace_ask_done hnext
      cases removal with
      | ok u =>
        obtain ⟨rfl, heq⟩ := Program.trace_done hdone
        cases heq
        exact .removed
      | error e =>
        obtain ⟨rfl, heq⟩ := Program.trace_done hdone
        cases heq
        exact .left

/-- The service is submitted first. If it is created, its deletion follows, which has to succeed; else nothing does. -/
private theorem Submits.cases_reply {r : Except Failure (Option String)} (h : Submits es r) :
    ∃ (reply : interface.Reply (.createProbe probeNamespace)) (rest : List (Exchange interface)),
      es = ⟨.createProbe probeNamespace, reply⟩ :: rest ∧
      ((∀ name address, reply ≠ .ok (.created name address)) ∧ rest = [] ∨
        ∃ (name : String) (address : Option String) (removal : Except Failure Unit),
          reply = .ok (.created name address) ∧ rest = [⟨.deleteProbe probeNamespace name, removal⟩] ∧
          ∀ cidr, r = .ok cidr → removal = .ok ()) := by
  cases h with
  | unanswered => exact ⟨_, _, rfl, .inl ⟨nofun, rfl⟩⟩
  | refused => exact ⟨_, _, rfl, .inl ⟨nofun, rfl⟩⟩
  | @removed name address => exact ⟨_, _, rfl, .inr ⟨name, address, .ok (), rfl, rfl, fun _ _ => rfl⟩⟩
  | @left name address e => exact ⟨_, _, rfl, .inr ⟨name, address, .error e, rfl, rfl, nofun⟩⟩

/-- The only other request about the service is the last one, which deletes what was created. -/
private theorem Submits.split {r : Except Failure (Option String)} {q : Introspection.Query} {reply : interface.Reply q}
    (h : Submits (before ++ ⟨q, reply⟩ :: after) r) :
    (before = [] ∧ q = .createProbe probeNamespace) ∨
    ∃ name address, before = [⟨.createProbe probeNamespace, .ok (.created name address)⟩] ∧
      q = .deleteProbe probeNamespace name ∧ after = [] := by
  obtain ⟨reply₀, rest, heq, hrest⟩ := h.cases_reply
  cases before with
  | nil =>
    cases heq
    exact .inl ⟨rfl, rfl⟩
  | cons e before =>
    obtain ⟨rfl, htail⟩ := List.cons.inj heq
    rcases hrest with ⟨-, rfl⟩ | ⟨name, address, removal, rfl, rfl, -⟩
    · simp at htail
    · cases before with
      | nil =>
        cases htail
        exact .inr ⟨name, address, rfl, rfl, rfl⟩
      | cons e before => simp at htail

/-- What follows the submission. -/
private theorem Submits.after_create {r : Except Failure (Option String)} {space : String}
    {reply : interface.Reply (.createProbe space)} (h : Submits (before ++ ⟨.createProbe space, reply⟩ :: after) r) :
    before = [] ∧ space = probeNamespace ∧ (∀ e ∈ after, ∀ space', e.query ≠ .createProbe space') ∧
      (∀ name address, reply = .ok (.created name address) →
        ∃ removal : Except Failure Unit, after = [⟨.deleteProbe space name, removal⟩] ∧
          ∀ cidr, r = .ok cidr → removal = .ok ()) ∧
      ((∀ name address, reply ≠ .ok (.created name address)) → after = []) := by
  rcases h.split with ⟨rfl, hq⟩ | ⟨_, _, -, hq, -⟩
  · cases hq
    obtain ⟨reply₀, rest, heq, ⟨hnot, rfl⟩ | ⟨name, address, removal, rfl, rfl, hremoved⟩⟩ := h.cases_reply
    · cases heq
      refine ⟨rfl, rfl, List.forall_mem_nil _, ?_, fun _ => rfl⟩
      exact fun name address hreply => absurd hreply (hnot name address)
    · cases heq
      refine ⟨rfl, rfl, ?_, ?_, fun hnot => absurd rfl (hnot name address)⟩
      · intro e he
        obtain rfl := List.mem_singleton.mp he
        exact nofun
      · rintro _ _ hreply
        cases hreply
        exact ⟨removal, rfl, hremoved⟩
  · cases hq

/-- The network of which only a service range is known. -/
def generic (cidr : String) : ClusterNetwork :=
  { plugin := .generic, serviceCidrs := [cidr] }

/-- The exchanges of the fallback, and what comes of them. -/
inductive Guesses : List (Exchange interface) → Except Failure (Option ClusterNetwork) → Prop
  | unanswered {e : Failure} : Guesses [⟨.pods "component=kube-apiserver", .error e⟩] (.error e)
  | configured {pods : List Pod} {cidr : String}
      (h : (pods.findSome? fun pod => pod.commandParameter "--service-cluster-ip-range") = some cidr) :
      Guesses [⟨.pods "component=kube-apiserver", .ok pods⟩] (.ok (some (generic cidr)))
  | submitted {pods : List Pod} {es : List (Exchange interface)} {r : Except Failure (Option String)}
      (h : ∀ pod ∈ pods, pod.commandParameter "--service-cluster-ip-range" = none) (hs : Submits es r) :
      Guesses (⟨.pods "component=kube-apiserver", .ok pods⟩ :: es) (r.map fun cidr => cidr.map generic)

theorem guesses_of_trace {r : Except Failure (Option ClusterNetwork)}
    (h : discoverGeneric.toProgram.Trace es (.done r)) : Guesses es r := by
  rcases Task.trace_bind_done h with ⟨e, hlookup, rfl⟩ | ⟨es₁, es₂, found, rfl, hlookup, hnext⟩
  · obtain ⟨reply, rfl, heq⟩ := trace_findFlag hlookup
    cases reply with
    | error e' =>
      cases heq
      exact .unanswered
    | ok pods => cases heq
  · obtain ⟨reply, rfl, heq⟩ := trace_findFlag hlookup
    cases reply with
    | error e' => cases heq
    | ok pods =>
      have hfound : found = pods.findSome? fun pod => pod.commandParameter "--service-cluster-ip-range" :=
        Except.ok.inj heq
      cases found with
      | some cidr =>
        obtain ⟨rfl, heq⟩ := Program.trace_done hnext
        cases heq
        exact .configured hfound.symm
      | none =>
        have hnone := List.findSome?_eq_none_iff.mp hfound.symm
        rcases Task.trace_bind_done hnext with ⟨e, hprobe, rfl⟩ | ⟨es₁, es₂, cidr, rfl, hprobe, hdone⟩
        · exact .submitted hnone (submits_of_trace hprobe)
        · obtain ⟨rfl, heq⟩ := Program.trace_done hdone
          cases heq
          rw [List.append_nil]
          exact .submitted hnone (submits_of_trace hprobe)

/-! ### What discovery changes -/

/-- No probe has found its signature, and no API server has named a range. -/
def NothingKnown (es : List (Exchange interface)) : Prop :=
  ∃ (misses : List (Exchange interface)) (pods : List Pod),
    es = misses ++ [⟨.pods "component=kube-apiserver", .ok pods⟩] ∧ List.Forall₂ Probe.Misses Probe.order misses ∧
    ∀ pod ∈ pods, pod.commandParameter "--service-cluster-ip-range" = none

private theorem isRead_of_misses {ps : List Probe} (h : List.Forall₂ Probe.Misses ps es) :
    ∀ e ∈ es, e.query.isRead = true := by
  intro e he
  obtain ⟨p, -, hmiss⟩ := exists_misses_of_mem h he
  cases hmiss
  exact p.isRead_lookup

private theorem NothingKnown.isRead (h : NothingKnown es) : ∀ e ∈ es, e.query.isRead = true := by
  obtain ⟨misses, pods, rfl, hmisses, -⟩ := h
  intro e he
  rcases List.mem_append.mp he with he | he
  · exact isRead_of_misses hmisses e he
  · obtain rfl := List.mem_singleton.mp he
    rfl

/-- Discovery only reads, or it reads until nothing is known and then submits the transient service. -/
private theorem discover_cases {o : Except Failure (Option ClusterNetwork)}
    (h : discover.toProgram.Trace es (.done o)) :
    (∀ e ∈ es, e.query.isRead = true) ∨
    ∃ known own r, es = known ++ own ∧ NothingKnown known ∧ Submits own r ∧
      ∀ found, o = .ok found → ∃ cidr, r = .ok cidr := by
  obtain ⟨es₁, es₂, rfl, ⟨before, p, after, horder, hbefore, hdecides⟩ | ⟨hmisses, r, hgeneric, rfl⟩⟩ :=
    discoverWith_cases h
  · have hlookups := lookups_of_decides horder.symm (by decide) hbefore hdecides
    exact .inl fun e he => (hlookups e he).1
  · have hreads : ∀ (reply : interface.Reply (.pods "component=kube-apiserver")),
        ∀ e ∈ es₁ ++ [⟨.pods "component=kube-apiserver", reply⟩], e.query.isRead = true := by
      intro reply e he
      rcases List.mem_append.mp he with he | he
      · exact isRead_of_misses hmisses e he
      · obtain rfl := List.mem_singleton.mp he
        rfl
    cases guesses_of_trace hgeneric with
    | unanswered => exact .inl (hreads _)
    | configured => exact .inl (hreads _)
    | @submitted pods own r hnone hs =>
      refine .inr ⟨es₁ ++ [⟨.pods "component=kube-apiserver", .ok pods⟩], own, r, List.append_cons .., ?_, hs, ?_⟩
      · exact ⟨es₁, pods, rfl, hmisses, hnone⟩
      · intro found hfound
        cases r with
        | ok cidr => exact ⟨cidr, rfl⟩
        | error e => cases hfound

/-- A request that changes something stands behind those that only read. -/
private theorem exists_own_of_change {known own : List (Exchange interface)} {e : Exchange interface}
    (hknown : ∀ e ∈ known, e.query.isRead = true) (he : e.query.isRead = false)
    (h : known ++ own = before ++ e :: after) : ∃ own', before = known ++ own' ∧ own = own' ++ e :: after := by
  rcases List.append_eq_append_iff.mp h with ⟨own', hbefore, hown⟩ | ⟨rest, hread, hrest⟩
  · exact ⟨own', hbefore, hown⟩
  · cases rest with
    | nil => exact ⟨[], by simpa using hread.symm, by simpa using hrest.symm⟩
    | cons e' rest =>
      obtain ⟨rfl, -⟩ := List.cons.inj hrest
      have hmem : e ∈ known := by simp [hread]
      rw [hknown e hmem] at he
      cases he

/-- Discovery submits the transient service at most once, when nothing else is known, and deletes it again if the
cluster has created it; all other requests only read. -/
theorem transient_service_is_removed (w : Program.World interface σ) (s : σ) :
    let es := discover.toProgram.log w s
    ∃ o, (discover.toProgram.run w s).1 = some o ∧
      (∀ before after space reply, es = before ++ ⟨.createProbe space, reply⟩ :: after →
        space = probeNamespace ∧ NothingKnown before ∧
        (∀ e ∈ before ++ after, ∀ space', e.query ≠ .createProbe space') ∧
        (∀ name address, reply = .ok (.created name address) →
          ∃ removal : Except Failure Unit, after = [⟨.deleteProbe space name, removal⟩] ∧
            ∀ found, o = .ok found → removal = .ok ()) ∧
        ((∀ name address, reply ≠ .ok (.created name address)) → after = [])) ∧
      ∀ before after q reply, es = before ++ ⟨q, reply⟩ :: after → q.isRead = false →
        q = .createProbe probeNamespace ∨
        ∃ earlier name address, q = .deleteProbe probeNamespace name ∧
          before = earlier ++ [⟨.createProbe probeNamespace, .ok (.created name address)⟩] := by
  intro es
  obtain ⟨o, s', hrun⟩ := (finishes_discoverWith Probe.order).run w s
  have hvalue : (discover.toProgram.run w s).1 = some o := congrArg Prod.fst hrun
  refine ⟨o, hvalue, ?_⟩
  rcases discover_cases (Program.trace_log_of_run hvalue) with hreads | ⟨known, own, r, hes, hknown, hs, hok⟩
  · -- there is no request that changes anything
    have hread : ∀ before after q reply, es = before ++ ⟨q, reply⟩ :: after → q.isRead = true := by
      intro before after q reply hes
      have hmem : (⟨q, reply⟩ : Exchange interface) ∈ es := by simp [hes]
      exact hreads _ hmem
    refine ⟨fun before after space reply hes => ?_, fun before after q reply hes hq => ?_⟩
    · cases hread before after _ reply hes
    · rw [hread before after q reply hes] at hq
      cases hq
  · refine ⟨fun before after space reply hes' => ?_, fun before after q reply hes' hq => ?_⟩
    · obtain ⟨own', rfl, rfl⟩ := exists_own_of_change hknown.isRead rfl (hes.symm.trans hes')
      obtain ⟨rfl, hspace, honce, hcreated, hrefused⟩ := hs.after_create
      rw [List.append_nil]
      refine ⟨hspace, hknown, ?_, ?_, hrefused⟩
      · intro e he space' heq
        rcases List.mem_append.mp he with he | he
        · have hread := hknown.isRead e he
          rw [heq] at hread
          cases hread
        · exact honce e he space' heq
      · intro name address hreply
        obtain ⟨removal, hafter, hremoved⟩ := hcreated name address hreply
        refine ⟨removal, hafter, fun found hfound => ?_⟩
        obtain ⟨cidr, hcidr⟩ := hok found hfound
        exact hremoved cidr hcidr
    · obtain ⟨own', rfl, rfl⟩ := exists_own_of_change hknown.isRead hq (hes.symm.trans hes')
      rcases hs.split with ⟨-, hcreate⟩ | ⟨name, address, rfl, hdelete, -⟩
      · exact .inl hcreate
      · exact .inr ⟨known, name, address, hdelete, rfl⟩

end MultiCluster.Discovery
