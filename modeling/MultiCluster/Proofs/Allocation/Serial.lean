import MultiCluster.Proofs.Allocation.CommitPool

/-!
# Commits have the effect of a serial run

Commits that share a ledger may interleave their reads and writes in any order. The writes that land, in their order,
still have the effect of commits of which each begins when the one before has ended: each is decided on the record
that the one before has left. Main statement: `commits_serialize`.
-/

namespace MultiCluster

open Allocator

/-! ### The writes that landed -/

/-- The version that a successful write was made against. -/
def Ledger.landed? : Exchange Ledger.interface → Option Version
  | ⟨.writeIfUnchanged _ v, reply⟩ =>
    match (reply : Except Failure Unit) with
    | .ok _ => some v
    | .error _ => none
  | ⟨.read, _⟩ => none
  | ⟨.create _, _⟩ => none

section Landings

variable {ι : Type}

/-- The successful writes of a history in the order in which they landed: who made them, and against which version. -/
def landings (history : List (Pool.Event Ledger.interface ι)) : List (ι × Version) :=
  history.filterMap fun e => (Ledger.landed? e.exchange).map fun v => (e.client, v)

/-- The programs whose writes landed, in order. -/
def writers (history : List (Pool.Event Ledger.interface ι)) : List ι :=
  (landings history).map Prod.fst

private theorem landings_concat_wrote (history : List (Pool.Event Ledger.interface ι)) (i : ι) (r : Record)
    (v : Version) :
    landings (history ++ [⟨i, Ledger.wrote r v⟩]) = landings history ++ [(i, v)] := by
  rw [landings, List.filterMap_append]
  rfl

private theorem landings_concat_none (history : List (Pool.Event Ledger.interface ι))
    {e : Pool.Event Ledger.interface ι}
    (h : Ledger.landed? e.exchange = none) : landings (history ++ [e]) = landings history := by
  rw [landings, List.filterMap_append]
  simp [landings, h]

end Landings

/-! ### Serial runs -/

section Serial

variable {ι : Type} {requests : ι → AllocationRequest}

/-- Allocates a block for one more request and assigns it; the blocks so far are kept. -/
def commitNext (requests : ι → AllocationRequest) (s : Record × List Network) (i : ι) :
    Except Failure (Record × List Network) := do
  let block ← s.1.allocate (requests i)
  return (amended (requests i) s.1 block, s.2 ++ [block])

/-- One commit after another, from a record on: the record in the end, and the blocks in order. -/
def serialRun (requests : ι → AllocationRequest) (r : Record) (order : List ι) :
    Except Failure (Record × List Network) :=
  order.foldlM (commitNext requests) (r, [])

theorem serialRun_concat {r r' : Record} {order : List ι} {bs : List Network} {i : ι} {b : Network}
    (h : serialRun requests r order = .ok (r', bs)) (hb : r'.allocate (requests i) = .ok b) :
    serialRun requests r (order ++ [i]) = .ok (amended (requests i) r' b, bs ++ [b]) := by
  rw [serialRun] at h
  rw [serialRun, List.foldlM_append, h]
  simp [commitNext, hb, bind, Except.bind, pure, Except.pure]

end Serial

/-! ### Serialization -/

variable {ι : Type}

/-- What every step of commits that share a ledger preserves, if the ledger held a record at a revision. -/
structure Serialized (requests : ι → AllocationRequest) (r₀ : Record) (n₀ : Nat)
    (p : Pool Ledger.interface MemoryLedger fun _ : ι => Except Failure (Option Network)) : Prop where
  /-- The ledger holds the record of the serial run, and the writers have returned its blocks. -/
  current : ∃ r bs, serialRun requests r₀ (writers p.history) = .ok (r, bs) ∧
    p.state.Holds r (n₀ + (landings p.history).length) ∧
    (writers p.history).map p.programs = bs.map fun b => .done (.ok (some b))
  /-- Every read got the record of the serial run up to then. -/
  reads : ∀ before i r v after, p.history = before ++ ⟨i, Ledger.got r v⟩ :: after →
    ∃ bs, serialRun requests r₀ (writers before) = .ok (r, bs)
  /-- Each write landed at its own revision. -/
  versions : (landings p.history).map Prod.snd =
    (List.range (landings p.history).length).map fun k => MemoryLedger.versionOf (n₀ + k)

section Steps

variable {requests : ι → AllocationRequest} {r₀ : Record} {n₀ : Nat}
  {p p' : Pool Ledger.interface MemoryLedger fun _ : ι => Except Failure (Option Network)} {i : ι}

/-- The reads still get the records of the serial run if the last exchange, should it be a read, got the current
one. -/
private theorem Serialized.reads_concat (h : Serialized requests r₀ n₀ p) {e : Pool.Event Ledger.interface ι}
    (hhistory : p'.history = p.history ++ [e])
    (hlast : ∀ r v, e.exchange = Ledger.got r v → ∃ bs, serialRun requests r₀ (writers p.history) = .ok (r, bs)) :
    ∀ before j r v after, p'.history = before ++ ⟨j, Ledger.got r v⟩ :: after →
      ∃ bs, serialRun requests r₀ (writers before) = .ok (r, bs) := by
  intro before j r v after hsplit
  rw [hhistory] at hsplit
  rcases concat_eq_append_cons hsplit with ⟨-, rfl, heq⟩ | ⟨after', -, hsplit'⟩
  · exact hlast r v (congrArg Pool.Event.exchange heq).symm
  · exact h.reads before j r v after' hsplit'

/-- A step that lands no write changes nothing in the serial run. -/
private theorem Serialized.keeps (h : Serialized requests r₀ n₀ p) (hstored : p'.state.stored = p.state.stored)
    (hlandings : landings p'.history = landings p.history)
    (hdone : ∀ j o, p.programs j = .done o → p'.programs j = .done o)
    (hreads : ∀ before j r v after, p'.history = before ++ ⟨j, Ledger.got r v⟩ :: after →
      ∃ bs, serialRun requests r₀ (writers before) = .ok (r, bs)) : Serialized requests r₀ n₀ p' := by
  obtain ⟨r, bs, hserial, hholds, hprograms⟩ := h.current
  have hwriters : writers p'.history = writers p.history := by rw [writers, hlandings, writers]
  refine ⟨⟨r, bs, ?_, ?_, ?_⟩, hreads, ?_⟩
  · rw [hwriters]
    exact hserial
  · rw [hlandings]
    exact hholds.of_stored_eq hstored
  · rw [hwriters, ← hprograms]
    refine List.map_congr_left fun j hj => ?_
    have hmem : p.programs j ∈ (writers p.history).map p.programs := List.mem_map_of_mem hj
    rw [hprograms] at hmem
    obtain ⟨b, -, hb⟩ := List.mem_map.mp hmem
    rw [hdone j _ hb.symm, hb]
  · rw [hlandings]
    exact h.versions

variable [DecidableEq ι]

private theorem Serialized.lands (h : Serialized requests r₀ n₀ p) {r : Record} {n : Nat} {b : Network}
    (hl : Lands (requests i) i p p' r n b) : Serialized requests r₀ n₀ p' := by
  obtain ⟨r', bs, hserial, hholds, hprograms⟩ := h.current
  obtain ⟨rfl, rfl⟩ := hholds.unique hl.before
  obtain ⟨-, hallocate, -⟩ := ruling_eq_assign hl.decided
  have hlandings := landings_concat_wrote p.history i (amended (requests i) r' b)
    (MemoryLedger.versionOf (n₀ + (landings p.history).length))
  rw [← hl.history] at hlandings
  have hwriters : writers p'.history = writers p.history ++ [i] := by
    rw [writers, hlandings, List.map_append]
    rfl
  -- the writers so far are done, and the new one is not
  have hold : (writers p.history).map p'.programs = (writers p.history).map p.programs := by
    refine List.map_congr_left fun j hj => ?_
    have hdone : p.programs j ∈ (writers p.history).map p.programs := List.mem_map_of_mem hj
    rw [hprograms] at hdone
    obtain ⟨b', -, hb'⟩ := List.mem_map.mp hdone
    have hne : j ≠ i := by
      rintro rfl
      exact hl.running _ hb'.symm
    rw [hl.programs, Function.update_of_ne hne]
  refine ⟨⟨amended (requests i) r' b, bs ++ [b], ?_, ?_, ?_⟩, ?_, ?_⟩
  · rw [hwriters]
    exact serialRun_concat hserial hallocate
  · rw [hlandings, List.length_append, List.length_singleton]
    exact hl.after
  · rw [hwriters, List.map_append, List.map_append, hold, hprograms, List.map_singleton, List.map_singleton,
      hl.programs, Function.update_self]
  · refine h.reads_concat hl.history fun r v heq => ?_
    cases congrArg Exchange.query heq
  · rw [hlandings, List.map_append, h.versions, List.length_append, List.length_singleton, List.range_succ,
      List.map_append]
    rfl

end Steps

variable [DecidableEq ι] {l : MemoryLedger} {allocators : ι → Allocator} {requests : ι → AllocationRequest}
  {r₀ : Record} {n₀ : Nat}

private theorem serialized_step {schedule : List ι}
    (h : Serialized requests r₀ n₀ (commitsAfter l allocators requests schedule)) (i : ι) :
    Serialized requests r₀ n₀ (commitsAfter l allocators requests (schedule ++ [i])) := by
  have hdone : ∀ j o, (commitsAfter l allocators requests schedule).programs j = .done o →
      (commitsAfter l allocators requests (schedule ++ [i])).programs j = .done o := by
    intro j o hj
    rw [commitsAfter_concat]
    exact Pool.step_programs_of_done hj MemoryLedger.world i
  rcases commits_step l allocators requests schedule i with
    ⟨r, n, b, hlands⟩ | ⟨hstored, hhistory | hhistory | ⟨record, v, f, hhistory⟩⟩
  · exact h.lands hlands
  · refine h.keeps hstored (by rw [hhistory]) hdone ?_
    rw [hhistory]
    exact h.reads
  · refine h.keeps hstored (by rw [hhistory]; exact landings_concat_none _ rfl) hdone ?_
    refine h.reads_concat hhistory fun r v heq => ?_
    -- what is read is what the ledger holds, which is the record of the serial run
    obtain ⟨n, hholds, -⟩ := MemoryLedger.read_eq_ok_iff.mp (MemoryLedger.read_of_got heq)
    obtain ⟨r', bs, hserial, hholds', -⟩ := h.current
    obtain ⟨rfl, -⟩ := hholds.unique hholds'
    exact ⟨bs, hserial⟩
  · refine h.keeps hstored (by rw [hhistory]; exact landings_concat_none _ rfl) hdone ?_
    refine h.reads_concat hhistory fun r v heq => ?_
    cases congrArg Exchange.query heq

theorem commits_serialized (h : l.Holds r₀ n₀) (allocators : ι → Allocator) (requests : ι → AllocationRequest)
    (schedule : List ι) : Serialized requests r₀ n₀ (commitsAfter l allocators requests schedule) := by
  have hstart : Serialized requests r₀ n₀ (commits l allocators requests) := by
    refine ⟨⟨r₀, [], rfl, h, rfl⟩, ?_, rfl⟩
    intro before i r v after hsplit
    exact absurd hsplit (by simp [commits, Pool.start])
  refine Pool.reachable_induction (P := fun _ p => Serialized requests r₀ n₀ p) hstart ?_ schedule
  intro schedule i ih
  rw [← Pool.run_concat]
  exact serialized_step ih i

/-- However commits interleave, those whose writes landed leave the record, and return the blocks, of a serial run in
the order of these writes; the others return what they read last. -/
theorem commits_serialize (l : MemoryLedger) {r₀ : Record} {v₀ : Version} (hstart : l.read = .ok (r₀, v₀))
    (allocators : ι → Allocator) (requests : ι → AllocationRequest) (schedule : List ι) :
    let p := commitsAfter l allocators requests schedule
    (∃ r bs v, p.state.read = .ok (r, v) ∧ serialRun requests r₀ (writers p.history) = .ok (r, bs) ∧
      (writers p.history).map p.programs = bs.map fun b => .done (.ok (some b))) ∧
    (∀ i b, p.programs i = .done (.ok (some b)) → i ∉ writers p.history →
      ∃ before after r v bs, p.history = before ++ ⟨i, Ledger.got r v⟩ :: after ∧ (∀ e ∈ after, e.client ≠ i) ∧
        serialRun requests r₀ (writers before) = .ok (r, bs) ∧ r.primary? (requests i).cluster = some b) ∧
    ((landings p.history).map Prod.snd).Nodup := by
  intro p
  obtain ⟨n₀, hholds, -⟩ := MemoryLedger.read_eq_ok_iff.mp hstart
  have hserialized : Serialized requests r₀ n₀ p := commits_serialized hholds allocators requests schedule
  refine ⟨?_, ?_, ?_⟩
  · obtain ⟨r, bs, hserial, hcurrent, hprograms⟩ := hserialized.current
    exact ⟨r, bs, _, hcurrent.read, hserial, hprograms⟩
  · intro i b hdone hwriter
    have hstage : Stage (allocators i) (requests i) (p.log i) (p.programs i) :=
      commits_stage l allocators requests schedule i
    obtain ⟨rounds, r, v, -, ⟨hlog, hr⟩ | ⟨hlog, -⟩⟩ := hstage.of_block hdone
    · obtain ⟨before, after, hsplit, hafter⟩ := Pool.history_of_log_concat hlog
      obtain ⟨bs, hserial⟩ := hserialized.reads before i r v after hsplit
      exact ⟨before, after, r, v, bs, hsplit, hafter, hserial, ruling_eq_finish_some hr⟩
    · refine absurd ?_ hwriter
      have hevent : ⟨i, Ledger.wrote (amended (requests i) r b) v⟩ ∈ p.history := by
        refine Pool.mem_history_of_mem_log ?_
        rw [hlog]
        simp
      exact List.mem_map.mpr ⟨(i, v), List.mem_filterMap.mpr ⟨_, hevent, rfl⟩, rfl⟩
  · rw [hserialized.versions]
    refine List.pairwise_map.mpr (List.nodup_range.imp fun hne heq => hne ?_)
    have hrevision := MemoryLedger.versionOf_injective heq
    omega

/-- Two clusters read the same record, and then both write. -/
theorem two_commits_serialize :
    let r₀ : Record := {
      enabled := true
      supernet := { address := 4060086272, length := 8 }
      defaultBlockSize := 65536
      entries := [] }
    let requests : Bool → AllocationRequest := fun i => { cluster := if i then "east" else "west" }
    let p := commitsAfter (.holding r₀) (fun _ => { ledgerName := MemoryLedger.name }) requests
      [true, false, true, false]
    (MemoryLedger.holding r₀).read = .ok (r₀, MemoryLedger.versionOf 1) ∧
      ∃ r bs v, p.state.read = .ok (r, v) ∧ serialRun requests r₀ (writers p.history) = .ok (r, bs) := by
  intro r₀ requests p
  have hread : (MemoryLedger.holding r₀).read = .ok (r₀, MemoryLedger.versionOf 1) :=
    MemoryLedger.Holds.read ⟨r₀.toData, rfl, Record.ofData_toData r₀⟩
  obtain ⟨⟨r, bs, v, hcurrent, hserial, -⟩, -, -⟩ := commits_serialize (.holding r₀) hread
    (fun _ => { ledgerName := MemoryLedger.name }) requests [true, false, true, false]
  exact ⟨hread, r, bs, v, hcurrent, hserial⟩

end MultiCluster
