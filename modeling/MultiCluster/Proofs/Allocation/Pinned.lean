import MultiCluster.Proofs.Allocation.CommitPool
import MultiCluster.Proofs.Allocation.Vacancy
import MultiCluster.Proofs.Ledger.Soundness

/-!
# A held block is pinned

A write changes or appends the entry of the cluster that it is for, and no other. A cluster that holds a block and
names none is ruled to keep it, whatever size it asks for, so that none of its commits writes. So no order of commits
renumbers a cluster that did not ask for it. Main statement: `held_block_is_pinned`.
-/

namespace MultiCluster

open Allocator

/-! ### Other clusters' entries -/

/-- A record in which at most one entry of a cluster was changed, or one was appended. -/
structure Record.ChangesOnly (cluster : String) (r r' : Record) : Prop where
  enabled : r'.enabled = r.enabled
  supernet : r'.supernet = r.supernet
  defaultBlockSize : r'.defaultBlockSize = r.defaultBlockSize
  entries :
    (∃ before e e' after, r.entries = before ++ e :: after ∧ r'.entries = before ++ e' :: after ∧
      e.cluster = cluster ∧ e'.cluster = cluster) ∨
    ∃ e', r'.entries = r.entries ++ [e'] ∧ e'.cluster = cluster

namespace Record

private theorem changesOnly_assign (r : Record) (cluster : String) (block : Network) (plugin : Option String) :
    r.ChangesOnly cluster (r.assign cluster block plugin) := by
  refine ⟨rfl, rfl, rfl, ?_⟩
  rcases assignEntry_cases cluster block plugin r.entries with
    ⟨before, e, after, hentries, hcluster, -, hassign⟩ | ⟨-, hassign⟩
  · exact .inl ⟨before, e, _, after, hentries, hassign, hcluster, hcluster⟩
  · exact .inr ⟨_, hassign, rfl⟩

private theorem ChangesOnly.filter_eq {r r' : Record} {cluster other : String} (h : r.ChangesOnly cluster r')
    (hne : other ≠ cluster) :
    (r'.entries.filter fun e => e.cluster == other) = r.entries.filter fun e => e.cluster == other := by
  rcases h.entries with ⟨before, e, e', after, hr, hr', he, he'⟩ | ⟨e', hr', he'⟩
  · rw [hr, hr', List.filter_append, List.filter_append, List.filter_cons_of_neg, List.filter_cons_of_neg]
    · simpa [he] using hne.symm
    · simpa [he'] using hne.symm
  · rw [hr', List.filter_append, List.filter_cons_of_neg, List.filter_nil, List.append_nil]
    simpa [he'] using hne.symm

private theorem entryFor?_eq_head? (r : Record) (cluster : String) :
    r.entryFor? cluster = (r.entries.filter fun e => e.cluster == cluster).head? :=
  List.head?_filter.symm

end Record

/-! ### A cluster that holds a block -/

/-- How a cluster that holds a block and names none is answered. -/
def keeping (q : AllocationRequest) (r : Record) (held : Network) : Except Failure (Option Network) :=
  (BlockSize.ofAddresses (q.blockSize.getD r.defaultBlockSize)).map fun _ => some held

/-- It is ruled to keep its block, unless it asks for a size that no block has. -/
private theorem ruling_of_held {q : AllocationRequest} {r : Record} {b : Network} (henabled : r.enabled = true)
    (hauto : q.explicitCidr = none) (hheld : r.primary? q.cluster = some b) :
    ruling q r = .finish (keeping q r b) := by
  have hallocate : r.allocate q = r.draw q := by rw [Record.allocate, hauto]
  rw [ruling, henabled, if_pos rfl, hallocate, keeping]
  cases hsize : BlockSize.ofAddresses (q.blockSize.getD r.defaultBlockSize) with
  | error f =>
    rw [Record.draw_of_error hsize]
    rfl
  | ok size =>
    rw [Record.draw_of_held hsize hheld]
    exact if_pos hheld

/-- The failure for a size is not one that is tried again. -/
private theorem settle_keeping (a : Allocator) (q : AllocationRequest) (left : Nat) (delay : Duration) (r : Record)
    (b : Network) : settle a q left delay (keeping q r b) = .done (keeping q r b) := by
  unfold keeping
  rcases BlockSize.ofAddresses_cases (q.blockSize.getD r.defaultBlockSize) with
    ⟨-, message, hsize⟩ | ⟨-, -, size, hsize⟩
  · rw [hsize]
    rfl
  · rw [hsize]
    rfl

/-! ### Commits that share a ledger -/

variable {ι : Type} [DecidableEq ι] {l : MemoryLedger} {allocators : ι → Allocator} {requests : ι → AllocationRequest}

/-- The ledger holds a record in which a cluster has the same entries, and the settings are the same, as in a given
one. -/
def Keeps (l : MemoryLedger) (r₀ : Record) (cluster : String) : Prop :=
  ∃ r n, l.Holds r n ∧ r.enabled = r₀.enabled ∧ r.defaultBlockSize = r₀.defaultBlockSize ∧
    (r.entries.filter fun e => e.cluster == cluster) = r₀.entries.filter fun e => e.cluster == cluster

/-- A step of a commit leaves the record, or changes or appends the entry of its own cluster. -/
private theorem changesOnly_step (schedule : List ι) (i : ι) {r : Record} {n : Nat}
    (h : (commitsAfter l allocators requests schedule).state.Holds r n) :
    ∃ r' n', (commitsAfter l allocators requests (schedule ++ [i])).state.Holds r' n' ∧
      (r' = r ∨ (r.ChangesOnly (requests i).cluster r' ∧ ∃ b, ruling (requests i) r = .assign b)) := by
  rcases commits_step l allocators requests schedule i with ⟨r', n', b, hlands⟩ | ⟨hstored, -⟩
  · obtain ⟨rfl, rfl⟩ := h.unique hlands.before
    exact ⟨_, _, hlands.after, .inr ⟨r.changesOnly_assign _ _ _, b, hlands.decided⟩⟩
  · exact ⟨r, n, h.of_stored_eq hstored, .inl rfl⟩

section Pinned

variable {r₀ : Record} {X : String} {b : Network}

private theorem primary?_of_filter_eq {r : Record} (hheld : r₀.primary? X = some b)
    (hfilter : (r.entries.filter fun e => e.cluster == X) = r₀.entries.filter fun e => e.cluster == X) :
    r.primary? X = some b := by
  rw [Record.primary?, Record.entryFor?_eq_head?, hfilter, ← Record.entryFor?_eq_head?]
  exact hheld

/-- No step changes the entries of a cluster that holds a block and whose commits name none. -/
private theorem keeps_step (henabled : r₀.enabled = true) (hheld : r₀.primary? X = some b)
    (hauto : ∀ i, (requests i).cluster = X → (requests i).explicitCidr = none) {schedule : List ι}
    (h : Keeps (commitsAfter l allocators requests schedule).state r₀ X) (i : ι) :
    Keeps (commitsAfter l allocators requests (schedule ++ [i])).state r₀ X := by
  obtain ⟨r, n, hholds, he, hsize, hfilter⟩ := h
  obtain ⟨r', n', hholds', rfl | ⟨hchanges, b', hassign⟩⟩ := changesOnly_step schedule i hholds
  · exact ⟨r', n', hholds', he, hsize, hfilter⟩
  · have hne : X ≠ (requests i).cluster := by
      intro hX
      have hruling := ruling_of_held (he.trans henabled) (hauto i hX.symm)
        (hX ▸ primary?_of_filter_eq hheld hfilter)
      rw [hruling] at hassign
      cases hassign
    exact ⟨r', n', hholds', hchanges.enabled.trans he, hchanges.defaultBlockSize.trans hsize,
      (hchanges.filter_eq hne).trans hfilter⟩

/-- The first step of a commit for a cluster that holds a block reads the ledger and ends the commit. -/
private theorem keeping_step (henabled : r₀.enabled = true) (hheld : r₀.primary? X = some b)
    {p : Pool Ledger.interface MemoryLedger fun _ : ι => Except Failure (Option Network)} {i : ι}
    (hX : (requests i).cluster = X) (hauto : (requests i).explicitCidr = none)
    (hvalid : (requests i).validate = .ok ()) (hkeeps : Keeps p.state r₀ X) (hlog : p.log i = [])
    (hprogram : p.programs i = ((allocators i).commit (requests i)).toProgram) :
    ∃ r v, (p.step MemoryLedger.world i).log i = [Ledger.got r v] ∧
      (p.step MemoryLedger.world i).programs i = .done (keeping (requests i) r₀ b) := by
  obtain ⟨r, n, hholds, he, hsize, hfilter⟩ := hkeeps
  have hruling := ruling_of_held (he.trans henabled) hauto (hX ▸ primary?_of_filter_eq hheld hfilter)
  obtain ⟨left, hleft⟩ : ∃ left, (allocators i).retry.attempts = left + 1 := by
    refine Nat.exists_eq_succ_of_ne_zero ?_
    rw [RetryPolicy.attempts]
    split
    · decide
    · assumption
  rw [commit_of_ok hvalid, hleft, trying_succ] at hprogram
  have hread : (MemoryLedger.world.answer .read p.state).1 = Except.ok (r, MemoryLedger.versionOf n) := hholds.read
  obtain ⟨hlog', hprogram'⟩ := Pool.step_of_reply hprogram hread
  refine ⟨r, MemoryLedger.versionOf n, ?_, ?_⟩
  · rw [hlog'.trans (congrArg (· ++ _) hlog)]
    rfl
  · have hsame : keeping (requests i) r b = keeping (requests i) r₀ b := by rw [keeping, hsize, keeping]
    rw [← hsame]
    exact hprogram'.trans ((reviewing_of_finish hruling).trans (settle_keeping _ _ _ _ r b))

/-- Commits for a cluster that holds a block and names none: the ledger keeps the cluster's entries, and each of the
commits that has made a step has read once and is over. -/
private theorem pinned_run (allocators : ι → Allocator) (hholds : ∃ n, l.Holds r₀ n) (henabled : r₀.enabled = true)
    (hheld : r₀.primary? X = some b)
    (hown : ∀ i, (requests i).cluster = X → (requests i).explicitCidr = none ∧ (requests i).validate = .ok ())
    (schedule : List ι) :
    Keeps (commitsAfter l allocators requests schedule).state r₀ X ∧
    ∀ i, (requests i).cluster = X →
      (i ∉ schedule → (commitsAfter l allocators requests schedule).log i = [] ∧
        (commitsAfter l allocators requests schedule).programs i =
          ((allocators i).commit (requests i)).toProgram) ∧
      (i ∈ schedule → ∃ r v, (commitsAfter l allocators requests schedule).log i = [Ledger.got r v] ∧
        (commitsAfter l allocators requests schedule).programs i = .done (keeping (requests i) r₀ b)) := by
  -- what a commit decides depends on what the ledger holds then, so both are preserved together
  let P : List ι → (Pool Ledger.interface MemoryLedger fun _ : ι => Except Failure (Option Network)) → Prop :=
    fun schedule p => Keeps p.state r₀ X ∧ ∀ i, (requests i).cluster = X →
      (i ∉ schedule → p.log i = [] ∧ p.programs i = ((allocators i).commit (requests i)).toProgram) ∧
      (i ∈ schedule → ∃ r v, p.log i = [Ledger.got r v] ∧ p.programs i = .done (keeping (requests i) r₀ b))
  refine Pool.reachable_induction (P := P) ?_ ?_ schedule
  · obtain ⟨n, hholds⟩ := hholds
    refine ⟨⟨r₀, n, hholds, rfl, rfl, rfl⟩, fun i _ => ⟨fun _ => ⟨rfl, rfl⟩, fun hi => ?_⟩⟩
    cases hi
  · rintro schedule j ⟨hkeeps, hclients⟩
    refine ⟨?_, fun i hX => ?_⟩
    · rw [← Pool.run_concat]
      exact keeps_step henabled hheld (fun i hi => (hown i hi).1) hkeeps j
    · obtain ⟨hidle, hover⟩ := hclients i hX
      by_cases hij : i = j
      · subst hij
        refine ⟨fun hi => absurd (by simp) hi, fun _ => ?_⟩
        by_cases hmem : i ∈ schedule
        · obtain ⟨r, v, hlog, hprogram⟩ := hover hmem
          rw [Pool.step_of_done hprogram]
          exact ⟨r, v, hlog, hprogram⟩
        · obtain ⟨hlog, hprogram⟩ := hidle hmem
          obtain ⟨hauto, hvalid⟩ := hown i hX
          exact keeping_step henabled hheld hX hauto hvalid hkeeps hlog hprogram
      · obtain ⟨hprogram, hlog⟩ := Pool.step_of_ne hij MemoryLedger.world
          ((commits l allocators requests).run MemoryLedger.world schedule)
        have hmem : i ∈ schedule ++ [j] ↔ i ∈ schedule := by simp [hij]
        rw [hmem, hprogram, hlog]
        exact ⟨hidle, hover⟩

end Pinned

private theorem holds_run {r₀ : Record} (allocators : ι → Allocator) (requests : ι → AllocationRequest)
    (h : ∃ n, l.Holds r₀ n) (schedule : List ι) :
    ∃ r n, (commitsAfter l allocators requests schedule).state.Holds r n := by
  refine Pool.reachable_induction (P := fun _ p => ∃ r n, MemoryLedger.Holds p.state r n) ⟨r₀, h⟩ ?_ schedule
  rintro schedule i ⟨r, n, ih⟩
  rw [← Pool.run_concat]
  obtain ⟨r', n', hafter, -⟩ := changesOnly_step schedule i ih
  exact ⟨r', n', hafter⟩

/-- However commits interleave, a cluster that holds a block and names none keeps its entries and gets this block after
one read; and no step changes the entry of a cluster that it is not for. -/
theorem held_block_is_pinned (l : MemoryLedger) {r₀ : Record} {v₀ : Version} (hstart : l.read = .ok (r₀, v₀))
    (allocators : ι → Allocator) (requests : ι → AllocationRequest) (schedule : List ι) :
    let p := commitsAfter l allocators requests schedule
    (∀ X b, r₀.enabled = true → r₀.primary? X = some b →
      (∀ i, (requests i).cluster = X → (requests i).explicitCidr = none ∧ (requests i).validate = .ok ()) →
      (∃ r v, p.state.read = .ok (r, v) ∧ r.entryFor? X = r₀.entryFor? X ∧
        (r.entries.filter fun e => e.cluster == X) = r₀.entries.filter fun e => e.cluster == X) ∧
      ∀ i, (requests i).cluster = X →
        (∀ e ∈ p.log i, e.query = .read) ∧
        (0 < ((requests i).blockSize.getD r₀.defaultBlockSize).toNat →
          ((requests i).blockSize.getD r₀.defaultBlockSize).toNat ≤ addressLimit →
          i ∈ schedule → ∃ r v, p.log i = [Ledger.got r v] ∧ p.programs i = .done (.ok (some b)))) ∧
    ∀ i, ∃ r v r' v', p.state.read = .ok (r, v) ∧
      (commitsAfter l allocators requests (schedule ++ [i])).state.read = .ok (r', v') ∧
      (r' = r ∨ r.ChangesOnly (requests i).cluster r') := by
  intro p
  obtain ⟨n₀, hholds₀, -⟩ := MemoryLedger.read_eq_ok_iff.mp hstart
  refine ⟨fun X b henabled hheld hown => ?_, fun i => ?_⟩
  · obtain ⟨⟨r, n, hholds, -, -, hfilter⟩, hclients⟩ :=
      pinned_run allocators ⟨n₀, hholds₀⟩ henabled hheld hown schedule
    refine ⟨⟨r, _, hholds.read, ?_, hfilter⟩, fun i hX => ⟨?_, ?_⟩⟩
    · rw [Record.entryFor?_eq_head?, hfilter, ← Record.entryFor?_eq_head?]
    · intro e he
      by_cases hi : i ∈ schedule
      · obtain ⟨r', v, hlog, -⟩ := (hclients i hX).2 hi
        rw [hlog] at he
        rw [List.mem_singleton.mp he]
        rfl
      · rw [((hclients i hX).1 hi).1] at he
        cases he
    · intro hpos hle hi
      obtain ⟨r', v, hlog, hprogram⟩ := (hclients i hX).2 hi
      refine ⟨r', v, hlog, ?_⟩
      rcases BlockSize.ofAddresses_cases ((requests i).blockSize.getD r₀.defaultBlockSize) with
        ⟨hbad, -⟩ | ⟨-, -, size, hsize⟩
      · omega
      · rw [hprogram, keeping, hsize]
        rfl
  · obtain ⟨r, n, hholds⟩ := holds_run allocators requests ⟨n₀, hholds₀⟩ schedule
    obtain ⟨r', n', hholds', hchange⟩ := changesOnly_step schedule i hholds
    refine ⟨r, _, r', _, hholds.read, hholds'.read, ?_⟩
    rcases hchange with heq | ⟨hchanges, -⟩
    · exact .inl heq
    · exact .inr hchanges

/-- A cluster that holds 65536 addresses asks for 16, while another one joins. -/
theorem larger_held_block_is_pinned :
    let b : Network := { address := 4060086272, length := 16 }
    let r₀ : Record := {
      enabled := true
      supernet := { address := 4060086272, length := 8 }
      defaultBlockSize := 65536
      entries := [{ cluster := "east", plugin := none, blocks := [b] }] }
    let requests : Bool → AllocationRequest := fun i =>
      if i then { cluster := "east", blockSize := some 16 } else { cluster := "west" }
    let p := commitsAfter (.holding r₀) (fun _ => { ledgerName := MemoryLedger.name }) requests [false, true, false]
    r₀.primary? "east" = some b ∧ (requests true).validate = .ok () ∧
      ∃ r v, p.log true = [Ledger.got r v] ∧ p.programs true = .done (.ok (some b)) := by
  intro b r₀ requests p
  have hheld : r₀.primary? "east" = some b := by decide
  have hname : ClusterId.validate "east" = .ok () := by
    unfold ClusterId.validate
    rw [if_neg (by decide), if_neg (by decide), if_neg (by decide)]
  have hvalid : (requests true).validate = .ok () := by
    show AllocationRequest.validate { cluster := "east", blockSize := some 16 } = .ok ()
    unfold AllocationRequest.validate
    rw [hname]
    rfl
  have hread : (MemoryLedger.holding r₀).read = .ok (r₀, MemoryLedger.versionOf 1) :=
    MemoryLedger.Holds.read ⟨r₀.toData, rfl, Record.ofData_toData r₀⟩
  have hown : ∀ i, (requests i).cluster = "east" →
      (requests i).explicitCidr = none ∧ (requests i).validate = .ok () := by
    intro i hi
    cases i with
    | true => exact ⟨rfl, hvalid⟩
    | false => exact absurd hi (by decide)
  obtain ⟨-, hclients⟩ := (held_block_is_pinned (.holding r₀) hread (fun _ => { ledgerName := MemoryLedger.name })
    requests [false, true, false]).1 "east" b rfl hheld hown
  exact ⟨hheld, hvalid, (hclients true rfl).2 (by decide) (by decide) (by decide)⟩

end MultiCluster
