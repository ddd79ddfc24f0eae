import MultiCluster.Proofs.Allocation.CommitLog
import MultiCluster.Proofs.Allocation.Establish
import MultiCluster.Proofs.Ledger.Soundness

/-!
# A shared ledger stays valid

Any number of allocators establish a ledger and commit to it, in any order of their requests. A ledger is first
created without entries, and each later write assigns a free block of the supernet on the record that it replaces. So
the stored record stays valid, although no commit validates it. Main statement: `ledger_stays_valid`.
-/

namespace MultiCluster

open Allocator

/-- A call of an allocator. -/
inductive Call where
  | establish (supernet : String) (blockSize : UInt64) (enabled : Bool)
  | commit (allocator : Allocator) (request : AllocationRequest)

namespace Call

def Result : Call → Type
  | establish _ _ _ => Record
  | commit _ _ => Option Network

def program : (c : Call) → Program Ledger.interface (Except Failure c.Result)
  | establish supernet blockSize enabled => (Allocator.establish supernet blockSize enabled).toProgram
  | commit allocator request => (allocator.commit request).toProgram

end Call

/-! ### What a call requests -/

/-- A call reads, or creates a record without entries, or writes what it decided on a record that it has read, under
the version of that record. -/
private theorem Call.request_cases (c : Call) {es : List (Exchange Ledger.interface)}
    {p : Program Ledger.interface (Except Failure c.Result)} (h : c.program.Trace es p) {query : Ledger.Query}
    {next : Except Failure query.Result → Program Ledger.interface (Except Failure c.Result)}
    (hp : p = .ask (I := Ledger.interface) query next) :
    query = .read ∨ (∃ record, query = .create record ∧ record.entries = []) ∨
      ∃ q r v b, Ledger.got r v ∈ es ∧ ruling q r = .assign b ∧ query = .writeIfUnchanged (amended q r b) v := by
  cases c with
  | establish supernet blockSize enabled =>
    have hrequests := h.requests (establish_requests supernet blockSize enabled)
    rw [hp] at hrequests
    cases hrequests with
    | ask hq hnext =>
      rcases hq with hread | hcreate
      · exact .inl hread
      · exact .inr (.inl hcreate)
  | commit a q =>
    rcases (commit_stage h).request_cases hp with hread | ⟨rounds, left, delay, r, v, b, -, rfl, hr, hwriting⟩
    · exact .inl hread
    · rw [hp] at hwriting
      cases hwriting
      exact .inr (.inr ⟨q, r, v, b, List.mem_append_right _ (List.mem_singleton.mpr rfl), hr, rfl⟩)

/-! ### What a call leaves behind -/

/-- The ledger does not exist, or it holds a sound record. -/
def MemoryLedger.IsSound (l : MemoryLedger) : Prop :=
  ∀ s, l.stored = some s → ∃ r, Record.ofData s.data = .ok r ∧ r.IsSound

private theorem MemoryLedger.Holds.isSound_iff {l : MemoryLedger} {r : Record} {n : Nat} (h : l.Holds r n) :
    l.IsSound ↔ r.IsSound := by
  obtain ⟨data, hstored, hdata⟩ := h
  constructor
  · intro hl
    obtain ⟨r', hr', hsound⟩ := hl _ hstored
    rw [hdata] at hr'
    cases hr'
    exact hsound
  · intro hr s hs
    rw [hstored] at hs
    cases hs
    exact ⟨r, hdata, hr⟩

private theorem MemoryLedger.IsSound.of_stored_eq {l l' : MemoryLedger} (h : l.IsSound) (heq : l'.stored = l.stored) :
    l'.IsSound := by
  intro s hs
  exact h s (heq.symm.trans hs)

theorem Record.isSound_of_no_entries {r : Record} (h : r.entries = []) : r.IsSound := by
  constructor
  · simp [h]
  · simp [h]

/-- An assigned block lies in the supernet and is free, so that a sound record stays sound. -/
private theorem Record.IsSound.amended {q : AllocationRequest} {r : Record} {b : Network} (h : r.IsSound)
    (hr : ruling q r = .assign b) : (amended q r b).IsSound := by
  obtain ⟨-, hallocate, hne⟩ := ruling_eq_assign hr
  obtain ⟨hin, hfree⟩ := Record.allocate_free hallocate hne
  exact h.assign hin hfree q.plugin

/-! ### Calls that share a ledger -/

variable {ι : Type} [DecidableEq ι]

/-- Calls that share a ledger, after the steps of a schedule. -/
def callsAfter (l : MemoryLedger) (calls : ι → Call) (schedule : List ι) :
    Pool Ledger.interface MemoryLedger fun i => Except Failure (calls i).Result :=
  (Pool.start l fun i => (calls i).program).run MemoryLedger.world schedule

theorem callsAfter_concat (l : MemoryLedger) (calls : ι → Call) (schedule : List ι) (i : ι) :
    callsAfter l calls (schedule ++ [i]) = (callsAfter l calls schedule).step MemoryLedger.world i :=
  Pool.run_concat schedule

/-- A step of a call leaves the stored record as it is, or stores a first record without entries, or assigns a block on
the record that it replaces. -/
theorem calls_step (l : MemoryLedger) (calls : ι → Call) (schedule : List ι) (i : ι) :
    let p := callsAfter l calls schedule
    let p' := p.step MemoryLedger.world i
    p'.state.stored = p.state.stored ∨
    (∃ record, record.entries = [] ∧ p.state.stored = none ∧ p'.state.Holds record 1) ∨
    ∃ q r n b, p.state.Holds r n ∧ ruling q r = .assign b ∧ p'.state.Holds (amended q r b) (n + 1) := by
  intro p p'
  have htrace : (calls i).program.Trace (p.log i) (p.programs i) :=
    Pool.trace MemoryLedger.world l (fun i => (calls i).program) schedule i
  rcases Pool.step_cases MemoryLedger.world p i with ⟨query, next, hask, hstep⟩ | ⟨d, next, -, hstep⟩ | hstep
  · have hstate : p'.state = (MemoryLedger.answer query p.state).2 := congrArg Pool.state hstep
    rw [hstate]
    rcases (calls i).request_cases htrace hask with rfl | ⟨record, rfl, hempty⟩ | ⟨q, r, v, b, hgot, hr, rfl⟩
    · exact .inl rfl
    · rcases MemoryLedger.create_cases p.state record with ⟨hnone, hcreate⟩ | hcreate
      · refine .inr (.inl ⟨record, hempty, hnone, record.toData, ?_, Record.ofData_toData record⟩)
        rw [MemoryLedger.answer, hcreate]
      · left
        rw [MemoryLedger.answer, hcreate]
    · have hremembers : p.state.Remembers r v :=
        Pool.remembers l (fun i => (calls i).program) schedule (Pool.mem_history_of_mem_log hgot)
      -- the record that the write replaces is the one that it was decided on
      rcases hremembers.write_cases (amended q r b) with ⟨n, -, hholds, -, hafter⟩ | ⟨-, hsame⟩
      · exact .inr (.inr ⟨q, r, n, b, hholds, hr, hafter⟩)
      · exact .inl hsame
  · exact .inl (congrArg (fun p => p.state.stored) hstep)
  · exact .inl (congrArg (fun p => p.state.stored) hstep)

private theorem isSound_step {l : MemoryLedger} {calls : ι → Call} {schedule : List ι}
    (h : (callsAfter l calls schedule).state.IsSound) (i : ι) :
    ((callsAfter l calls schedule).step MemoryLedger.world i).state.IsSound := by
  rcases calls_step l calls schedule i with
    hsame | ⟨record, hempty, -, hafter⟩ | ⟨q, r, n, b, hholds, hr, hafter⟩
  · exact h.of_stored_eq hsame
  · exact hafter.isSound_iff.mpr (Record.isSound_of_no_entries hempty)
  · exact hafter.isSound_iff.mpr ((hholds.isSound_iff.mp h).amended hr)

/-- A ledger that is absent, or holds a record that validates, stays so under any calls in any order of their
requests, whether they end or are abandoned: its stored data decodes, and the record validates. -/
theorem ledger_stays_valid (l : MemoryLedger)
    (hstart : ∀ s, l.stored = some s → ∃ r, Record.ofData s.data = .ok r ∧ r.validate = .ok ())
    (calls : ι → Call) (schedule : List ι) :
    ∀ s, (callsAfter l calls schedule).state.stored = some s →
      ∃ r, Record.ofData s.data = .ok r ∧ r.validate = .ok () ∧
        (r.entries.map Entry.cluster).Nodup ∧
        (∀ e ∈ r.entries, ∀ b ∈ e.blocks, ∀ a, a ∈ b → a ∈ r.supernet) ∧
        ∀ e ∈ r.entries, ∀ e' ∈ r.entries, e.cluster ≠ e'.cluster →
          ∀ b ∈ e.blocks, ∀ b' ∈ e'.blocks, ∀ a, a ∈ b → a ∉ b' := by
  have hsound : l.IsSound := by
    intro s hs
    obtain ⟨r, hdata, hvalid⟩ := hstart s hs
    exact ⟨r, hdata, Record.validate_eq_ok_iff.mp hvalid⟩
  have hafter : (callsAfter l calls schedule).state.IsSound :=
    Pool.reachable_induction (P := fun _ p => MemoryLedger.IsSound p.state) hsound
      (fun _ i h => isSound_step h i) schedule
  intro s hs
  obtain ⟨r, hdata, hr⟩ := hafter s hs
  refine ⟨r, hdata, Record.validate_eq_ok_iff.mpr hr, hr.nodup, ?_, fun e he e' he' hne => hr.disjoint he he' hne⟩
  intro e he b hb
  exact Network.contains_iff.mp (hr.inside e he b hb)

/-- A cluster asks for a block while another call tries to establish a different ledger. -/
theorem ledger_with_one_entry_stays_valid :
    let r : Record := {
      enabled := true
      supernet := { address := 4060086272, length := 8 }
      defaultBlockSize := 65536
      entries := [{ cluster := "east", plugin := none, blocks := [{ address := 4060086272, length := 16 }] }] }
    let calls : Bool → Call := fun i =>
      if i then .commit { ledgerName := MemoryLedger.name } { cluster := "west" }
      else .establish "10.0.0.0/8" 256 true
    r.validate = .ok () ∧
      ∀ s, (callsAfter (.holding r) calls [true, false, false, true]).state.stored = some s →
        ∃ r', Record.ofData s.data = .ok r' ∧ r'.validate = .ok () := by
  intro r calls
  have hvalid : r.validate = .ok () := by
    refine Record.validate_eq_ok_iff.mpr ⟨?_, List.pairwise_singleton _ _⟩
    intro e he b hb
    obtain rfl := List.mem_singleton.mp he
    obtain rfl := List.mem_singleton.mp hb
    decide
  refine ⟨hvalid, fun s hs => ?_⟩
  have hstart : ∀ s, (MemoryLedger.holding r).stored = some s →
      ∃ r', Record.ofData s.data = .ok r' ∧ r'.validate = .ok () := by
    intro s hs
    cases hs
    exact ⟨r, Record.ofData_toData r, hvalid⟩
  obtain ⟨r', hdata, hvalid', -⟩ := ledger_stays_valid (.holding r) hstart calls [true, false, false, true] s hs
  exact ⟨r', hdata, hvalid'⟩

end MultiCluster
