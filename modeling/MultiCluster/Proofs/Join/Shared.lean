import MultiCluster.Proofs.Allocation.Settled
import MultiCluster.Proofs.Concurrency.Embedding
import MultiCluster.Proofs.Join.Course
import MultiCluster.Proofs.Ledger.Contents

/-!
# An attempt among commits

An attempt to join shares the ledger of the broker with commits for other clusters, in any order of their requests.
Requests to the ledger may fail, with or without effect. Once the attempt has got through its commit, what it asked of
the allocator is settled under the record that the ledger holds, and it stays settled whatever the others do.

Main statement: `settled_of_past_allocation`.
-/

namespace MultiCluster.Join

open Allocator

variable {σ : Type}

/-! ### A shared ledger -/

/-- A read that was answered with a record and its version. -/
def got (record : Record) (v : Version) : Exchange interface :=
  ⟨.ledger .read, .ok (record, v)⟩

/-- A write under a version that succeeded. -/
def wrote (record : Record) (v : Version) : Exchange interface :=
  ⟨.ledger (.writeIfUnchanged record v), .ok ()⟩

/-- What becomes of a request to the ledger. -/
inductive Delivery where
  | answered
  /-- It fails and has no effect. -/
  | lost (e : Failure)
  /-- It takes effect, but the answer is a failure. -/
  | unacknowledged (e : Failure)

/-- A world with a ledger in memory. Everything else is answered from a state of its own, on which it also depends what
becomes of a request to the ledger. -/
def sharing (w : Program.World interface σ) (delivery : Ledger.Query → σ → Delivery) :
    Program.World interface (MemoryLedger × σ) where
  answer
    | .ledger q, (l, s) =>
      match delivery q s with
      | .answered => ((MemoryLedger.answer q l).1, (MemoryLedger.answer q l).2, (w.answer (.ledger q) s).2)
      | .lost e => (.error e, l, (w.answer (.ledger q) s).2)
      | .unacknowledged e => (.error e, (MemoryLedger.answer q l).2, (w.answer (.ledger q) s).2)
    | q, (l, s) => ((w.answer q s).1, l, (w.answer q s).2)
  rest d s := (s.1, w.rest d s.2)

section Sharing

variable (w : Program.World interface σ) (delivery : Ledger.Query → σ → Delivery) (s : MemoryLedger × σ)

private theorem sharing_ledger_cases (q : Ledger.Query) :
    (((sharing w delivery).answer (.ledger q) s).1 = (MemoryLedger.answer q s.1).1 ∧
      ((sharing w delivery).answer (.ledger q) s).2.1 = (MemoryLedger.answer q s.1).2) ∨
    ((∃ e, ((sharing w delivery).answer (.ledger q) s).1 = Except.error e) ∧
      (((sharing w delivery).answer (.ledger q) s).2.1 = s.1 ∨
        ((sharing w delivery).answer (.ledger q) s).2.1 = (MemoryLedger.answer q s.1).2)) := by
  simp only [sharing]
  cases delivery q s.2 with
  | answered => exact .inl ⟨rfl, rfl⟩
  | lost e => exact .inr ⟨⟨e, rfl⟩, .inl rfl⟩
  | unacknowledged e => exact .inr ⟨⟨e, rfl⟩, .inr rfl⟩

/-- A request to the ledger that was answered with a success has had its effect. -/
private theorem answered_of_ok {q : Ledger.Query} {x : q.Result}
    (h : ((sharing w delivery).answer (.ledger q) s).1 = Except.ok x) : (MemoryLedger.answer q s.1).1 = Except.ok x ∧
      ((sharing w delivery).answer (.ledger q) s).2.1 = (MemoryLedger.answer q s.1).2 := by
  rcases sharing_ledger_cases w delivery s q with ⟨hanswer, hstate⟩ | ⟨⟨e, herror⟩, -⟩
  · exact ⟨hanswer.symm.trans h, hstate⟩
  · rw [herror] at h
    cases h

private theorem holds_of_got {q : Query} {record : Record} {v : Version}
    (h : (⟨q, ((sharing w delivery).answer q s).1⟩ : Exchange interface) = got record v) :
    ∃ n, ((sharing w delivery).answer q s).2.1.Holds record n ∧ v = MemoryLedger.versionOf n := by
  have hq : q = .ledger .read := congrArg Exchange.query h
  subst hq
  have hreply : ((sharing w delivery).answer (.ledger .read) s).1 = Except.ok (record, v) := by injection h
  obtain ⟨hread, hstate⟩ := answered_of_ok w delivery s hreply
  obtain ⟨n, hholds, hv⟩ := MemoryLedger.read_eq_ok_iff.mp hread
  refine ⟨n, ?_, hv⟩
  rw [hstate]
  exact hholds

private theorem holds_of_wrote {q : Query} {record : Record} {v : Version}
    (h : (⟨q, ((sharing w delivery).answer q s).1⟩ : Exchange interface) = wrote record v) :
    ∃ n, ((sharing w delivery).answer q s).2.1.Holds record n := by
  have hq : q = .ledger (.writeIfUnchanged record v) := congrArg Exchange.query h
  subst hq
  have hreply : ((sharing w delivery).answer (.ledger (.writeIfUnchanged record v)) s).1 = Except.ok () := by
    injection h
  obtain ⟨hwrite, hstate⟩ := answered_of_ok w delivery s hreply
  rw [hstate]
  rcases s.1.writeIfUnchanged_cases record v with ⟨data, n, -, -, -, hholds⟩ | ⟨⟨f, hf⟩, -⟩
  · exact ⟨n + 1, hholds⟩
  · cases hf.symm.trans hwrite

theorem sharing_other {q : Query} (h : ∀ q', q ≠ .ledger q') : ((sharing w delivery).answer q s).2.1 = s.1 := by
  cases q with
  | ledger q => exact absurd rfl (h q)
  | cluster q => rfl
  | requirements => rfl
  | credential q => rfl
  | register network c => rfl

end Sharing

/-! ### Commits over the requests of an attempt -/

/-- The requests to the ledger among those of an attempt. -/
def ledgerRequests : Interface.Embedding Ledger.interface interface where
  query := .ledger
  reply _ := Equiv.refl _

theorem committing_eq_lift (a : Allocator) (q : AllocationRequest) :
    committing a q = ledgerRequests.lift (a.commit q).toProgram :=
  (ledgerRequests.lift_eq_interpret _).symm

variable {a : Allocator} {q : AllocationRequest} {es : List (Exchange interface)} {g : Option Network}

/-- A commit reads, or writes what it has decided on under a record that it has read. -/
theorem decides_of_committing {query : Ledger.Query}
    {next : interface.Reply (.ledger query) → Program interface (Except Failure (Option Network))}
    (h : (committing a q).Trace es (.ask (.ledger query) next)) :
    query = .read ∨ ∃ record v b, got record v ∈ es ∧ ruling q record = .assign b ∧
      query = .writeIfUnchanged (amended q record b) v := by
  rw [committing_eq_lift] at h
  obtain ⟨own, query', next', rfl, hquery, hask⟩ := Interface.Embedding.ask_of_trace_lift h
  cases hquery
  rcases (commit_stage hask).request_cases rfl with
    hread | ⟨rounds, left, delay, record, v, b, -, rfl, hruling, hwriting⟩
  · exact .inl hread
  · refine .inr ⟨record, v, b, ?_, hruling, ?_⟩
    · exact List.mem_map_of_mem (List.mem_append_right _ (List.mem_singleton.mpr rfl))
    · cases hwriting
      rfl

/-- Some exchanges show that a request has got its block: it was settled under a record that was read, or the block was
written. -/
def Shows (q : AllocationRequest) (g : Option Network) (es : List (Exchange interface)) : Prop :=
  (∃ record v, got record v ∈ es ∧ Settled q record g) ∨
  ∃ record v b, wrote (amended q record b) v ∈ es ∧ ruling q record = .assign b ∧ g = some b

private theorem shows_of_committing (h : (committing a q).Trace es (.done (.ok g))) : Shows q g es := by
  rw [committing_eq_lift] at h
  obtain ⟨own, rfl, hdone⟩ := Interface.Embedding.done_of_trace_lift h
  rcases (commit_stage hdone).done_cases rfl with ⟨f, -, hx, -⟩ | ⟨rounds, last, o, -, hlog, -, -, hx, rfl⟩
  · cases hx
  · have ho : o = .ok g := by
      cases o with
      | ok x => exact hx.symm
      | error f => cases hx
    subst ho
    cases hlog with
    | @finished record _ v hr =>
      refine .inl ⟨record, v, ?_, hr⟩
      exact List.mem_map_of_mem (List.mem_append_right _ (List.mem_singleton.mpr rfl))
    | @written record b v hr =>
      refine .inr ⟨record, v, b, ?_, hr, rfl⟩
      exact List.mem_map_of_mem (f := ledgerRequests.exchange) (a := Ledger.wrote (amended q record b) v)
        (List.mem_append_right _ (List.mem_cons_of_mem _ List.mem_cons_self))

private theorem Shows.subset {es' : List (Exchange interface)} (h : Shows q g es) (hes : es ⊆ es') : Shows q g es' := by
  rcases h with ⟨record, v, hmem, hsettled⟩ | ⟨record, v, b, hmem, hruling, hg⟩
  · exact .inl ⟨record, v, hes hmem, hsettled⟩
  · exact .inr ⟨record, v, b, hes hmem, hruling, hg⟩

/-! ### An attempt and commits beside it -/

section Beside

variable {ι : Type} {plan : Plan} {r : JoinRequest} {requests : ι → AllocationRequest} {l l' : MemoryLedger}

/-- What an attempt and the commits beside it return. -/
def Returns : Option ι → Type
  | none => JoinOutcome
  | some _ => Except Failure (Option Network)

/-- An attempt, and a commit for each index. -/
def attemptBeside (plan : Plan) (r : JoinRequest) (allocators : ι → Allocator) (requests : ι → AllocationRequest) :
    (c : Option ι) → Program interface (Returns c)
  | none => run plan r
  | some i => committing (allocators i) (requests i)

/-- What is asked of an allocator. -/
def IsAsked (r : JoinRequest) (requests : ι → AllocationRequest) : Option ι → AllocationRequest → Prop
  | none, q => ∃ network, q = allocationRequest r network
  | some i, q => q = requests i

/-- What an attempt asks is ruled on in the same way whatever network it has discovered. -/
private theorem ruling_eq_of_isAsked {q' : AllocationRequest} (h : IsAsked r requests none q)
    (h' : IsAsked r requests none q') (record : Record) : ruling q record = ruling q' record := by
  obtain ⟨network, rfl⟩ := h
  obtain ⟨network', rfl⟩ := h'
  rfl

/-- A request is settled under the record that a ledger holds. -/
def SettledAt (q : AllocationRequest) (g : Option Network) (l : MemoryLedger) : Prop :=
  ∃ record n, l.Holds record n ∧ Settled q record g

/-- How a ledger changes: not at all, or what was asked of an allocator is written under the record that was there. -/
def Changes (r : JoinRequest) (requests : ι → AllocationRequest) (l l' : MemoryLedger) : Prop :=
  l'.stored = l.stored ∨ ∃ c q record n b, IsAsked r requests c q ∧ l.Holds record n ∧ ruling q record = .assign b ∧
    l'.Holds (amended q record b) (n + 1)

private theorem SettledAt.changes (h : SettledAt q g l) (hq : IsAsked r requests none q)
    (hothers : ∀ i, (requests i).cluster ≠ r.cluster) (hchanges : Changes r requests l l') : SettledAt q g l' := by
  obtain ⟨record, n, hholds, hsettled⟩ := h
  rcases hchanges with hsame | ⟨c, q', record', n', b, hq', hbefore, hassign, hafter⟩
  · exact ⟨record, n, hholds.of_stored_eq hsame, hsettled⟩
  · obtain ⟨rfl, rfl⟩ := hholds.unique hbefore
    cases c with
    | none =>
      rw [ruling_eq_of_isAsked hq' hq] at hassign
      rw [Settled, hassign] at hsettled
      cases hsettled
    | some i =>
      obtain ⟨network, rfl⟩ := hq
      cases hq'
      exact ⟨_, _, hafter, hsettled.amended (hothers i) hassign⟩

section Answered

variable {w : Program.World interface σ} {delivery : Ledger.Query → σ → Delivery}

private theorem changes_of_decided {c : Option ι} {query : Ledger.Query} {s : MemoryLedger × σ}
    (h : query = .read ∨ ∃ q record v b, IsAsked r requests c q ∧ s.1.Remembers record v ∧
      ruling q record = .assign b ∧ query = .writeIfUnchanged (amended q record b) v) :
    Changes r requests s.1 ((sharing w delivery).answer (.ledger query) s).2.1 := by
  have hanswer : Changes r requests s.1 (MemoryLedger.answer query s.1).2 := by
    rcases h with rfl | ⟨q, record, v, b, hq, hremembers, hruling, rfl⟩
    · exact .inl rfl
    · rcases hremembers.write_cases (amended q record b) with ⟨n, -, hbefore, -, hafter⟩ | ⟨-, hsame⟩
      · exact .inr ⟨c, q, record, n, b, hq, hbefore, hruling, hafter⟩
      · exact .inl hsame
  rcases sharing_ledger_cases w delivery s query with ⟨-, hstate⟩ | ⟨-, hstate | hstate⟩
  · rw [hstate]
    exact hanswer
  · rw [hstate]
    exact .inl rfl
  · rw [hstate]
    exact hanswer

private theorem remembers_sharing {s : MemoryLedger × σ} {record : Record} {v : Version} (h : s.1.Remembers record v)
    (q : Query) : ((sharing w delivery).answer q s).2.1.Remembers record v := by
  by_cases hq : ∃ query, q = .ledger query
  · obtain ⟨query, rfl⟩ := hq
    rcases sharing_ledger_cases w delivery s query with ⟨-, hstate⟩ | ⟨-, hstate | hstate⟩
    · rw [hstate]
      exact h.answer query
    · rw [hstate]
      exact h
    · rw [hstate]
      exact h.answer query
  · rw [sharing_other w delivery s fun query heq => hq ⟨query, heq⟩]
    exact h

end Answered

variable [DecidableEq ι]

/-- An attempt and commits beside it that share a ledger, after the steps of a schedule. -/
def attemptAmong (w : Program.World interface (MemoryLedger × σ)) (s : MemoryLedger × σ) (plan : Plan) (r : JoinRequest)
    (allocators : ι → Allocator) (requests : ι → AllocationRequest) (schedule : List (Option ι)) :
    Pool interface (MemoryLedger × σ) (Returns (ι := ι)) :=
  (Pool.start s (attemptBeside plan r allocators requests)).run w schedule

section Steps

variable {w : Program.World interface (MemoryLedger × σ)} {s : MemoryLedger × σ} {allocators : ι → Allocator}
  {schedule : List (Option ι)}

/-- Whoever makes a request to the ledger reads, or writes what was decided on under a record that was read. -/
private theorem decides {c : Option ι} {query : Ledger.Query}
    {next : interface.Reply (.ledger query) → Program interface (Returns c)}
    (h : (attemptAmong w s plan r allocators requests schedule).programs c = .ask (.ledger query) next) :
    query = .read ∨ ∃ q record v b, IsAsked r requests c q ∧
      ⟨c, got record v⟩ ∈ (attemptAmong w s plan r allocators requests schedule).history ∧
      ruling q record = .assign b ∧ query = .writeIfUnchanged (amended q record b) v := by
  have hmem : ∀ {e}, e ∈ (attemptAmong w s plan r allocators requests schedule).log c →
      ⟨c, e⟩ ∈ (attemptAmong w s plan r allocators requests schedule).history := Pool.mem_history_of_mem_log
  have htrace := Pool.trace w s (attemptBeside plan r allocators requests) schedule c
  rw [← attemptAmong, h] at htrace
  generalize (attemptAmong w s plan r allocators requests schedule).log c = es at htrace hmem
  cases c with
  | none =>
    cases due_of_trace_run htrace with
    | @ledger _ _ network _ _ _ happlies hc =>
      rcases decides_of_committing hc with hread | ⟨record, v, b, hgot, hruling, hwrite⟩
      · exact .inl hread
      · exact .inr ⟨_, record, v, b, ⟨network, rfl⟩, hmem (List.mem_append_right _ hgot), hruling, hwrite⟩
  | some i =>
    rcases decides_of_committing htrace with hread | ⟨record, v, b, hgot, hruling, hwrite⟩
    · exact .inl hread
    · exact .inr ⟨_, record, v, b, rfl, hmem hgot, hruling, hwrite⟩

end Steps

/-! ### What every step preserves -/

/-- Who has read can rely on the version, and what the attempt has got is settled. -/
structure Consistent (r : JoinRequest) (requests : ι → AllocationRequest)
    (p : Pool interface (MemoryLedger × σ) (Returns (ι := ι))) : Prop where
  remembers : ∀ {c record v}, ⟨c, got record v⟩ ∈ p.history → p.state.1.Remembers record v
  settled : ∀ {q g}, IsAsked r requests none q → Shows q g (p.log none) → SettledAt q g p.state.1

variable {w : Program.World interface σ} {delivery : Ledger.Query → σ → Delivery}

private theorem Shows.concat_cases {e : Exchange interface} (h : Shows q g (es ++ [e])) : Shows q g es ∨
    (∃ record v, e = got record v ∧ Settled q record g) ∨
    ∃ record v b, e = wrote (amended q record b) v ∧ ruling q record = .assign b ∧ g = some b := by
  rcases h with ⟨record, v, hmem, hsettled⟩ | ⟨record, v, b, hmem, hruling, hg⟩
  · rcases List.mem_append.mp hmem with hmem | hmem
    · exact .inl (.inl ⟨record, v, hmem, hsettled⟩)
    · exact .inr (.inl ⟨record, v, (List.mem_singleton.mp hmem).symm, hsettled⟩)
  · rcases List.mem_append.mp hmem with hmem | hmem
    · exact .inl (.inr ⟨record, v, b, hmem, hruling, hg⟩)
    · exact .inr (.inr ⟨record, v, b, (List.mem_singleton.mp hmem).symm, hruling, hg⟩)

/-- A request that is answered preserves what is known of the ledger, if it changes the ledger only by a decision. -/
private theorem Consistent.answered {p : Pool interface (MemoryLedger × σ) (Returns (ι := ι))} {c : Option ι}
    {q : interface.Query} {next : interface.Reply q → Program interface (Returns c)} (h : Consistent r requests p)
    (hothers : ∀ i, (requests i).cluster ≠ r.cluster)
    (hchanges : Changes r requests p.state.1 ((sharing w delivery).answer q p.state).2.1) :
    Consistent r requests (p.answered (sharing w delivery) c q next) := by
  constructor
  · intro c' record v hmem
    rcases List.mem_append.mp hmem with hmem | hmem
    · exact remembers_sharing (h.remembers hmem) q
    · have hevent := List.mem_singleton.mp hmem
      obtain ⟨n, hholds, rfl⟩ := holds_of_got w delivery p.state (congrArg Pool.Event.exchange hevent).symm
      exact hholds.remembers
  · intro q' g hq' hshows
    by_cases hc : c = none
    · subst hc
      rw [Pool.log_answered] at hshows
      rcases hshows.concat_cases with hshows | ⟨record, v, he, hsettled⟩ | ⟨record, v, b, he, hruling, rfl⟩
      · exact (h.settled hq' hshows).changes hq' hothers hchanges
      · obtain ⟨n, hholds, -⟩ := holds_of_got w delivery p.state he
        exact ⟨record, n, hholds, hsettled⟩
      · obtain ⟨n, hholds⟩ := holds_of_wrote w delivery p.state he
        exact ⟨_, n, hholds, .of_amended hruling⟩
    · have hlog : (p.answered (sharing w delivery) c q next).log none = p.log none := by
        simp [Pool.log, Pool.answered, hc]
      rw [hlog] at hshows
      exact (h.settled hq' hshows).changes hq' hothers hchanges

/-- Whatever the order of the requests, who has read can rely on the version, and what the attempt has got stays
settled. -/
private theorem consistent (s : MemoryLedger × σ) (plan : Plan) (allocators : ι → Allocator)
    (hothers : ∀ i, (requests i).cluster ≠ r.cluster) (schedule : List (Option ι)) :
    Consistent r requests (attemptAmong (sharing w delivery) s plan r allocators requests schedule) := by
  refine Pool.reachable_induction (P := fun _ p => Consistent r requests p) ?_ ?_ schedule
  · refine ⟨?_, ?_⟩
    · intro c record v hmem
      cases hmem
    · rintro q g - (⟨record, v, hmem, -⟩ | ⟨record, v, b, hmem, -⟩)
      · cases hmem
      · cases hmem
  · intro schedule c h
    rcases Pool.step_cases (sharing w delivery) ((Pool.start s (attemptBeside plan r allocators requests)).run
      (sharing w delivery) schedule) c with ⟨q, next, hask, hstep⟩ | ⟨d, next, -, hstep⟩ | hstep
    · rw [hstep]
      refine h.answered hothers ?_
      by_cases hq : ∃ query, q = .ledger query
      · obtain ⟨query, rfl⟩ := hq
        refine changes_of_decided (c := c) ?_
        rcases decides hask with hread | ⟨q, record, v, b, hq, hgot, hruling, hwrite⟩
        · exact .inl hread
        · exact .inr ⟨q, record, v, b, hq, h.remembers hgot, hruling, hwrite⟩
      · rw [sharing_other w delivery _ fun query heq => hq ⟨query, heq⟩]
        exact .inl rfl
    · rw [hstep]
      refine ⟨h.remembers, ?_⟩
      intro q g hq hshows
      exact h.settled hq hshows
    · rw [hstep]
      exact h

/-! ### What the attempt has got -/

/-- An attempt got past the allocation, with a block or without one. -/
structure PastAllocation (o : JoinOutcome) (g : Option Network) : Prop where
  failedIn : o.failedIn = none ∨ o.failedIn = some .registering
  resolved : ∃ network, o.resolved = some network ∧ network.globalCidr = g

omit [DecidableEq ι] in
theorem commits_of_past_allocation {o : JoinOutcome} (h : (run plan r).Trace es (.done o)) (ho : PastAllocation o g)
    (ha : plan.allocator ≠ none) :
    ∃ earlier later network, es = earlier ++ later ∧ Commits plan r earlier network g := by
  obtain ⟨hfailedIn, network, hresolved, hg⟩ := ho
  have hallocates : ∃ earlier later, es = earlier ++ later ∧ Allocates plan r earlier network := by
    rcases run_cases h with ⟨network', hsucceeds, rfl⟩ | ⟨step, e, found, hfails, rfl⟩
    · cases hresolved
      exact hsucceeds.allocates
    · cases hresolved
      rcases hfailedIn with hnone | hphase
      · cases hnone
      · exact hfails.allocates (Option.some.inj hphase)
  obtain ⟨earlier, later, hes, hallocates⟩ := hallocates
  rcases hallocates.globalCidr_cases with ⟨hnone, -⟩ | ⟨found, hcommits⟩
  · exact absurd hnone ha
  · exact ⟨earlier, later, found, hes, hg ▸ hcommits⟩

theorem trace_of_attemptAmong {w : Program.World interface (MemoryLedger × σ)} {s : MemoryLedger × σ}
    {allocators : ι → Allocator} {schedule : List (Option ι)} {o : JoinOutcome}
    (h : (attemptAmong w s plan r allocators requests schedule).programs none =
      (.done o : Program interface JoinOutcome)) :
    (run plan r).Trace ((attemptAmong w s plan r allocators requests schedule).log none) (.done o) := by
  have htrace := Pool.trace w s (attemptBeside plan r allocators requests) schedule none
  rw [← attemptAmong, h] at htrace
  exact htrace

omit [DecidableEq ι] in
private theorem shows_of_past_allocation {o : JoinOutcome} (h : (run plan r).Trace es (.done o))
    (ho : PastAllocation o g) (ha : plan.allocator ≠ none) : ∃ network, Shows (allocationRequest r network) g es := by
  obtain ⟨earlier, later, network, rfl, hcommits⟩ := commits_of_past_allocation h ho ha
  cases hcommits with
  | @mk before own _ _ _ happlies hc =>
    have hshows := (shows_of_committing hc).subset (List.subset_append_right before own)
    exact ⟨network, hshows.subset (List.subset_append_left (before ++ own) later)⟩

/-- Once the attempt is past the allocation, what it asked of the allocator is settled under the record that the ledger
holds, whatever has been committed for other clusters since. -/
theorem settled_of_past_allocation {s : MemoryLedger × σ} {allocators : ι → Allocator} {schedule : List (Option ι)}
    {o : JoinOutcome} (ha : plan.allocator ≠ none) (hothers : ∀ i, (requests i).cluster ≠ r.cluster)
    (hover : (attemptAmong (sharing w delivery) s plan r allocators requests schedule).programs none =
      (.done o : Program interface JoinOutcome))
    (hpast : PastAllocation o g) (network : ResolvedNetwork) :
    SettledAt (allocationRequest r network) g
      (attemptAmong (sharing w delivery) s plan r allocators requests schedule).state.1 := by
  obtain ⟨network', hshows⟩ := shows_of_past_allocation (trace_of_attemptAmong hover) hpast ha
  obtain ⟨record, n, hholds, hsettled⟩ :=
    (consistent s plan allocators hothers schedule).settled ⟨network', rfl⟩ hshows
  exact ⟨record, n, hholds, hsettled⟩

end Beside

end MultiCluster.Join
