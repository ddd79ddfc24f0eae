import Mathlib.Data.Fintype.Card
import MultiCluster.Proofs.Allocation.Rounds

/-!
# A conflict budget of the number of clients is enough

A write of a commit meets a conflict only because a write of another commit has landed since the read of its round.
The rounds of one commit lie one behind the other, so that no write causes two of its conflicts, and each commit lands
one write at most. So a commit meets fewer conflicts than there are commits, and a budget of their number lets it make
its last round undisturbed. Main statement: `conflict_budget_suffices`.
-/

namespace MultiCluster

open Allocator

/-! ### Conflicts and their causes -/

section Causes

variable {ι : Type}

/-- At a place of a history a client was answered with a conflict. -/
def ConflictAt (history : List (Pool.Event Ledger.interface ι)) (i : ι) (k : ℕ) : Prop :=
  ∃ e, history[k]? = some ⟨i, e⟩ ∧ Ledger.isConflict e = true

/-- At place `w`, another client landed a write against the version that a client had read last, and that is why the
client's own write against it met a conflict at place `k`. -/
def Causes (history : List (Pool.Event Ledger.interface ι)) (i : ι) (w k : ℕ) : Prop :=
  ∃ m j r r' record v f, m < w ∧ w < k ∧ j ≠ i ∧
    history[m]? = some ⟨i, Ledger.got r v⟩ ∧
    history[w]? = some ⟨j, Ledger.wrote r' v⟩ ∧
    history[k]? = some ⟨i, .writeIfUnchanged record v, .error f⟩ ∧
    ∀ x e, m < x → x < k → history[x]? = some e → e.client ≠ i

/-- The rounds of a client lie one behind the other, so that a write causes one conflict of the client at most. -/
private theorem Causes.unique {history : List (Pool.Event Ledger.interface ι)} {i : ι} {w k k' : ℕ}
    (h : Causes history i w k) (h' : Causes history i w k') : k = k' := by
  obtain ⟨m, j, r, r₁, record, v, f, hm, hw, -, -, -, hk, hbetween⟩ := h
  obtain ⟨m', j', r', r₁', record', v', f', hm', hw', -, -, -, hk', hbetween'⟩ := h'
  rcases Nat.lt_trichotomy k k' with hlt | heq | hlt
  · exact absurd rfl (hbetween' k _ (hm'.trans hw) hlt hk)
  · exact heq
  · exact absurd rfl (hbetween k' _ (hm.trans hw') hlt hk')

private theorem writers_eq (history : List (Pool.Event Ledger.interface ι)) :
    writers history = (history.filter fun e => Ledger.isLanded e.exchange).map Pool.Event.client := by
  induction history with
  | nil => rfl
  | cons e history ih =>
    have hcons : writers (e :: history) =
        ((Ledger.landed? e.exchange).map fun _ => e.client).toList ++ writers history := by
      cases hlanded : Ledger.landed? e.exchange <;> simp [writers, landings, hlanded]
    rw [hcons, ih, List.filter_cons, Ledger.isLanded]
    cases Ledger.landed? e.exchange <;> rfl

end Causes

variable {ι : Type} [DecidableEq ι] {l : MemoryLedger} {allocators : ι → Allocator} {requests : ι → AllocationRequest}
  {r₀ : Record} {n₀ : Nat}

/-- A read gets the record that the ledger holds, with a version that names the number of writes before. A write
follows the last read of its client and is made against the version that was read there. -/
private theorem exchange_cases (h : l.Holds r₀ n₀) {schedule : List ι}
    {before after : List (Pool.Event Ledger.interface ι)} {i : ι} {e : Exchange Ledger.interface}
    (hsplit : (commitsAfter l allocators requests schedule).history = before ++ ⟨i, e⟩ :: after) :
    (∃ r, e = Ledger.got r (MemoryLedger.versionOf (n₀ + (landings before).length))) ∨
    ∃ record v first r second, before = first ++ ⟨i, Ledger.got r v⟩ :: second ∧ (∀ x ∈ second, x.client ≠ i) ∧
      (e = Ledger.wrote record v ∧ v = MemoryLedger.versionOf (n₀ + (landings before).length) ∨
        e = ⟨.writeIfUnchanged record v, .error (.conflict MemoryLedger.name)⟩ ∧
          v ≠ MemoryLedger.versionOf (n₀ + (landings before).length)) := by
  obtain ⟨query, reply⟩ := e
  obtain ⟨earlier, next, rfl, hask, hreply⟩ := Pool.history_split _ _ _ _ hsplit
  obtain ⟨r, bs, -, hholds, -⟩ := (commits_serialized h allocators requests earlier).current
  have hstage := commits_stage l allocators requests earlier i
  rcases hstage.request_cases hask with rfl | ⟨rounds, left, delay, r', v, b, -, hlog, -, hwriting⟩
  · left
    have hread : reply = .ok (r, MemoryLedger.versionOf _) := hreply.trans hholds.read
    exact ⟨r, by rw [hread]; rfl⟩
  · right
    have heq := hask.symm.trans hwriting
    rw [writing] at heq
    cases heq
    obtain ⟨first, second, hfirst, hsecond⟩ := Pool.history_of_log_concat hlog
    refine ⟨amended (requests i) r' b, v, first, r', second, hfirst, hsecond, ?_⟩
    rcases hholds.write (amended (requests i) r' b) v with ⟨hv, hok, -⟩ | ⟨hv, hconflict, -⟩
    · have hwrote : reply = .ok () := hreply.trans hok
      exact .inl ⟨by rw [hwrote]; rfl, hv⟩
    · have hrefused : reply = .error (.conflict MemoryLedger.name) := hreply.trans hconflict
      exact .inr ⟨by rw [hrefused], hv⟩

/-- Nothing but conflicts fails at the ledger. -/
private theorem isConflict_of_error (h : l.Holds r₀ n₀) {schedule : List ι} {i : ι} {e : Exchange Ledger.interface}
    (he : e ∈ (commitsAfter l allocators requests schedule).log i) {f : Failure} (hf : e.reply = .error f) :
    f.isConflict = true := by
  obtain ⟨before, after, hsplit⟩ := List.append_of_mem (Pool.mem_history_of_mem_log he)
  rcases exchange_cases h hsplit with ⟨r, rfl⟩ | ⟨record, v, first, r, second, -, -, ⟨rfl, -⟩ | ⟨rfl, -⟩⟩
  · cases hf
  · cases hf
  · cases hf
    rfl

private theorem landed?_eq_some {e : Exchange Ledger.interface} {v : Version} (h : Ledger.landed? e = some v) :
    ∃ r, e = Ledger.wrote r v := by
  obtain ⟨query, reply⟩ := e
  cases query with
  | create record => cases h
  | read => cases h
  | writeIfUnchanged record v' =>
    cases reply with
    | error f => cases h
    | ok u =>
      cases h
      exact ⟨record, rfl⟩

/-- Behind a read whose version is not the current one any more, the first write that landed was made against that
version. -/
private theorem exists_landing (h : l.Holds r₀ n₀) {schedule : List ι}
    {first second after : List (Pool.Event Ledger.interface ι)} {i : ι} {r : Record} {v : Version}
    (hsplit : (commitsAfter l allocators requests schedule).history = first ++ ⟨i, Ledger.got r v⟩ :: (second ++ after))
    (hv : v ≠ MemoryLedger.versionOf (n₀ + (landings (first ++ ⟨i, Ledger.got r v⟩ :: second)).length)) :
    ∃ j r' third fourth, second = third ++ ⟨j, Ledger.wrote r' v⟩ :: fourth := by
  have hread : v = MemoryLedger.versionOf (n₀ + (landings first).length) := by
    rcases exchange_cases h hsplit with ⟨r', hgot⟩ | ⟨record, v', -, -, -, -, -, ⟨hwrote, -⟩ | ⟨hrefused, -⟩⟩
    · cases hgot
      rfl
    · cases congrArg Exchange.query hwrote
    · cases congrArg Exchange.query hrefused
  have hgot : ∀ rest, landings (first ++ ⟨i, Ledger.got r v⟩ :: rest) = landings first ++ landings rest := by
    intro rest
    rw [landings, List.filterMap_append]
    rfl
  cases hsecond : landings second with
  | nil =>
    rw [hgot, hsecond, List.append_nil] at hv
    exact absurd hread hv
  | cons landing rest =>
    obtain ⟨third, ⟨j, e⟩, fourth, rfl, hnone, hsome, -⟩ := List.filterMap_eq_cons_iff.mp hsecond
    obtain ⟨v', hlanded, rfl⟩ := Option.map_eq_some_iff.mp hsome
    obtain ⟨r', rfl⟩ := landed?_eq_some hlanded
    have hthird : landings third = [] := List.filterMap_eq_nil_iff.mpr hnone
    have hsplit' : (commitsAfter l allocators requests schedule).history =
        (first ++ ⟨i, Ledger.got r v⟩ :: third) ++ ⟨j, Ledger.wrote r' v'⟩ :: (fourth ++ after) := by
      rw [hsplit]
      simp
    have hv' : v' = v := by
      rcases exchange_cases h hsplit' with ⟨r'', hgot'⟩ | ⟨record, v'', -, -, -, -, -, ⟨hwrote, hv''⟩ | ⟨hrefused, -⟩⟩
      · cases congrArg Exchange.query hgot'
      · cases hwrote
        rw [hv'', hgot, hthird, List.append_nil, hread]
      · cases hrefused
    subst hv'
    exact ⟨j, r', third, fourth, rfl⟩

private theorem exists_split {α : Type} {xs : List α} {k : ℕ} {x : α} (h : xs[k]? = some x) :
    ∃ before after, xs = before ++ x :: after ∧ before.length = k := by
  obtain ⟨hlt, rfl⟩ := List.getElem?_eq_some_iff.mp h
  refine ⟨xs.take k, xs.drop (k + 1), ?_, List.length_take_of_le hlt.le⟩
  rw [← List.drop_eq_getElem_cons hlt, List.take_append_drop]

/-- Each conflict of a commit has its cause. -/
private theorem exists_causes (h : l.Holds r₀ n₀) {schedule : List ι} {i : ι} {k : ℕ}
    (hk : ConflictAt (commitsAfter l allocators requests schedule).history i k) :
    ∃ w, Causes (commitsAfter l allocators requests schedule).history i w k := by
  obtain ⟨e, he, hconflict⟩ := hk
  obtain ⟨before, after, hsplit, rfl⟩ := exists_split he
  rcases exchange_cases h hsplit with ⟨r, rfl⟩ | ⟨record, v, first, r, second, rfl, hsecond, ⟨rfl, -⟩ | ⟨rfl, hv⟩⟩
  · cases hconflict
  · cases hconflict
  · rw [List.append_assoc, List.cons_append] at hsplit
    obtain ⟨j, r', third, fourth, rfl⟩ := exists_landing h hsplit hv
    have hlater : ∀ x, (commitsAfter l allocators requests schedule).history[first.length + 1 + x]? =
        (third ++ ⟨j, Ledger.wrote r' v⟩ :: fourth ++
          ⟨i, .writeIfUnchanged record v, .error (.conflict MemoryLedger.name)⟩ :: after)[x]? := by
      intro x
      rw [hsplit, List.getElem?_append_right (by omega), Nat.add_assoc, Nat.add_sub_cancel_left, Nat.add_comm,
        List.getElem?_cons_succ]
    refine ⟨first.length + 1 + third.length, first.length, j, r, r', record, v, .conflict MemoryLedger.name, ?_, ?_,
      ?_, ?_, ?_, he, ?_⟩
    · omega
    · simp only [List.length_append, List.length_cons]
      omega
    · exact hsecond ⟨j, Ledger.wrote r' v⟩ (by simp)
    · rw [hsplit]
      simp
    · rw [hlater]
      simp
    · intro x e hm hk he
      obtain ⟨y, rfl⟩ := Nat.exists_eq_add_of_le hm
      have hy : y < (third ++ ⟨j, Ledger.wrote r' v⟩ :: fourth).length := by
        simp only [List.length_append, List.length_cons] at hk ⊢
        omega
      rw [hlater, List.getElem?_append_left hy] at he
      exact hsecond e (List.mem_of_getElem? he)

/-- Different conflicts of a commit have different causes. -/
private theorem exists_cause (h : l.Holds r₀ n₀) (allocators : ι → Allocator) (requests : ι → AllocationRequest)
    (schedule : List ι) (i : ι) :
    ∃ cause : ℕ → ℕ, Set.InjOn cause {k | ConflictAt (commitsAfter l allocators requests schedule).history i k} ∧
      ∀ k, ConflictAt (commitsAfter l allocators requests schedule).history i k →
        Causes (commitsAfter l allocators requests schedule).history i (cause k) k := by
  have hexists : ∀ k, ∃ w, ConflictAt (commitsAfter l allocators requests schedule).history i k →
      Causes (commitsAfter l allocators requests schedule).history i w k := by
    intro k
    by_cases hk : ConflictAt (commitsAfter l allocators requests schedule).history i k
    · obtain ⟨w, hw⟩ := exists_causes h hk
      exact ⟨w, fun _ => hw⟩
    · exact ⟨0, fun hk' => absurd hk' hk⟩
  choose cause hcause using hexists
  refine ⟨cause, fun k hk k' hk' heq => ?_, hcause⟩
  have hw := hcause k hk
  rw [heq] at hw
  exact hw.unique (hcause k' hk')

/-! ### Counting -/

variable {p : Pool Ledger.interface MemoryLedger fun _ : ι => Except Failure (Option Network)} {i : ι}

private theorem countP_log (P : Exchange Ledger.interface → Bool) :
    (p.log i).countP P = p.history.countP fun e => P e.exchange && decide (e.client = i) := by
  rw [Pool.log, List.countP_map, List.countP_filter]
  rfl

private theorem count_writers : (writers p.history).count i = (p.log i).countP Ledger.isLanded := by
  rw [writers_eq, List.count, List.countP_map, List.countP_filter, countP_log]
  refine List.countP_congr fun e _ => ?_
  simp [and_comm]

/-- If no client lands two writes, the others land fewer than there are clients. -/
private theorem countP_others_lt [Fintype ι] (honce : ∀ j, (writers p.history).count j ≤ 1) (i : ι) :
    p.history.countP (fun e => Ledger.isLanded e.exchange && decide (e.client ≠ i)) < Fintype.card ι := by
  have hcount : p.history.countP (fun e => Ledger.isLanded e.exchange && decide (e.client ≠ i)) =
      ((writers p.history).filter fun j => decide (j ≠ i)).length := by
    rw [writers_eq, ← List.countP_eq_length_filter, List.countP_map, List.countP_filter]
    refine List.countP_congr fun e _ => ?_
    simp [and_comm]
  have hnodup : (i :: (writers p.history).filter fun j => decide (j ≠ i)).Nodup := by
    refine List.nodup_cons.mpr ⟨?_, (List.nodup_iff_count_le_one.mpr honce).filter _⟩
    simp
  rw [hcount]
  exact hnodup.length_le_card

/-- A commit meets fewer conflicts than there are clients. -/
private theorem countP_isConflict_lt [Fintype ι] (h : l.Holds r₀ n₀) (schedule : List ι) (i : ι)
    (honce : ∀ j, (writers (commitsAfter l allocators requests schedule).history).count j ≤ 1) :
    ((commitsAfter l allocators requests schedule).log i).countP Ledger.isConflict < Fintype.card ι := by
  obtain ⟨cause, hinj, hcause⟩ := exists_cause h allocators requests schedule i
  let history := (commitsAfter l allocators requests schedule).history
  let conflicts := history.findIdxs fun e => Ledger.isConflict e.exchange && decide (e.client = i)
  let others := history.findIdxs fun e => Ledger.isLanded e.exchange && decide (e.client ≠ i)
  have hconflicts : ∀ k ∈ conflicts, ConflictAt history i k := by
    intro k hk
    obtain ⟨hlt, hk⟩ := List.mem_findIdxs_iff_exists_getElem_pos.mp hk
    simp only [Bool.and_eq_true, decide_eq_true_eq] at hk
    refine ⟨history[k].exchange, ?_, hk.1⟩
    rw [List.getElem?_eq_getElem hlt, ← hk.2]
  have hmem : conflicts.map cause ⊆ others := by
    intro w hw
    obtain ⟨k, hk, rfl⟩ := List.mem_map.mp hw
    obtain ⟨m, j, r, r', record, v, f, -, -, hne, -, hlanded, -⟩ := hcause k (hconflicts k hk)
    obtain ⟨hlt, heq⟩ := List.getElem?_eq_some_iff.mp hlanded
    refine List.mem_findIdxs_iff_exists_getElem_pos.mpr ⟨hlt, ?_⟩
    simp [history, heq, hne, Ledger.isLanded, Ledger.landed?, Ledger.wrote]
  have hnodup : (conflicts.map cause).Nodup :=
    List.Nodup.map_on (fun k hk k' hk' => hinj (hconflicts k hk) (hconflicts k' hk')) List.nodup_findIdxs
  calc ((commitsAfter l allocators requests schedule).log i).countP Ledger.isConflict
      = conflicts.length := by rw [countP_log, List.length_findIdxs]
    _ = (conflicts.map cause).length := (List.length_map cause).symm
    _ ≤ others.length := hnodup.length_le_of_subset hmem
    _ = history.countP fun e => Ledger.isLanded e.exchange && decide (e.client ≠ i) := List.length_findIdxs
    _ < Fintype.card ι := countP_others_lt honce i

/-- Commits whose budget is at least their number never give up because of conflicts: each lands at most one write, and
each of its conflicts has a cause of its own. -/
theorem conflict_budget_suffices [Fintype ι] (l : MemoryLedger) {r₀ : Record} {v₀ : Version}
    (hstart : l.read = .ok (r₀, v₀)) (allocators : ι → Allocator)
    (hbudget : ∀ i, Fintype.card ι ≤ (allocators i).retry.maxAttempts) (requests : ι → AllocationRequest)
    (schedule : List ι) :
    let p := commitsAfter l allocators requests schedule
    ∀ i, (writers p.history).count i ≤ 1 ∧
      (p.log i).countP Ledger.isRead ≤ Fintype.card ι ∧
      (∀ resource attempts, p.programs i ≠ .done (.error (.conflictRetriesExhausted resource attempts))) ∧
      ∃ cause : ℕ → ℕ, Set.InjOn cause {k | ConflictAt p.history i k} ∧
        ∀ k, ConflictAt p.history i k → Causes p.history i (cause k) k := by
  intro p i
  obtain ⟨n₀, hholds, -⟩ := MemoryLedger.read_eq_ok_iff.mp hstart
  have hstage : ∀ j, Stage (allocators j) (requests j) (p.log j) (p.programs j) :=
    commits_stage l allocators requests schedule
  have honce : ∀ j, (writers p.history).count j ≤ 1 := by
    intro j
    rw [count_writers]
    exact (hstage j).countP_isLanded_le
  have hconflicts : (p.log i).countP Ledger.isConflict < Fintype.card ι := countP_isConflict_lt hholds schedule i honce
  refine ⟨honce i, ?_, ?_, exists_cause hholds allocators requests schedule i⟩
  · have hrounds := (hstage i).countP_isRead_le
    omega
  · intro resource attempts hdone
    have hspent := (hstage i).maxAttempts_le hdone fun e he f hf => isConflict_of_error hholds he hf
    have hleft := hbudget i
    omega

/-- Two clusters read the same record and write one after the other, and the second one tries again. -/
theorem two_attempts_suffice_for_two_commits :
    let r₀ : Record := {
      enabled := true
      supernet := { address := 4060086272, length := 8 }
      defaultBlockSize := 65536
      entries := [] }
    let allocators : Bool → Allocator := fun _ =>
      { ledgerName := MemoryLedger.name, retry := { RetryPolicy.onConflict with maxAttempts := 2 } }
    let requests : Bool → AllocationRequest := fun i => { cluster := if i then "east" else "west" }
    let p := commitsAfter (.holding r₀) allocators requests [true, false, true, false, false, false, false]
    (∀ i, Fintype.card Bool ≤ (allocators i).retry.maxAttempts) ∧
      ∀ i, (writers p.history).count i ≤ 1 ∧ (p.log i).countP Ledger.isRead ≤ 2 ∧
        ∀ resource attempts, p.programs i ≠ .done (.error (.conflictRetriesExhausted resource attempts)) := by
  intro r₀ allocators requests p
  have hread : (MemoryLedger.holding r₀).read = .ok (r₀, MemoryLedger.versionOf 1) :=
    MemoryLedger.Holds.read ⟨r₀.toData, rfl, Record.ofData_toData r₀⟩
  have hbudget : ∀ i, Fintype.card Bool ≤ (allocators i).retry.maxAttempts := fun _ => Nat.le_refl 2
  refine ⟨hbudget, fun i => ?_⟩
  have hboth := conflict_budget_suffices (.holding r₀) hread allocators hbudget requests
    [true, false, true, false, false, false, false] i
  -- stated of the pool, so that it need not be run
  change (writers p.history).count i ≤ 1 ∧ _ at hboth
  obtain ⟨honce, hrounds, hleft, -⟩ := hboth
  exact ⟨honce, hrounds, hleft⟩

end MultiCluster
