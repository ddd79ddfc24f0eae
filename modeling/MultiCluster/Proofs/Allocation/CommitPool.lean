import MultiCluster.Proofs.Allocation.CommitLog

/-!
# Commits that share a ledger

Any number of commits run against one ledger in memory, in any order of their requests. A step of such a pool changes
the ledger only if a commit replaces the very record that it decided on. Main statement: `commits_step`.
-/

namespace MultiCluster

variable {ι : Type} [DecidableEq ι] (l : MemoryLedger) (allocators : ι → Allocator)
  (requests : ι → AllocationRequest)

open Allocator

/-- Commits, one for each index, that share a ledger in memory. -/
def commits : Pool Ledger.interface MemoryLedger fun _ : ι => Except Failure (Option Network) :=
  .start l fun i => ((allocators i).commit (requests i)).toProgram

/-- Commits that share a ledger, after the steps of a schedule. -/
def commitsAfter (schedule : List ι) :
    Pool Ledger.interface MemoryLedger fun _ : ι => Except Failure (Option Network) :=
  (commits l allocators requests).run MemoryLedger.world schedule

theorem commitsAfter_concat (schedule : List ι) (i : ι) :
    commitsAfter l allocators requests (schedule ++ [i]) =
      (commitsAfter l allocators requests schedule).step MemoryLedger.world i :=
  Pool.run_concat schedule

theorem commits_stage (schedule : List ι) (i : ι) :
    Stage (allocators i) (requests i) ((commitsAfter l allocators requests schedule).log i)
      ((commitsAfter l allocators requests schedule).programs i) :=
  commit_stage (Pool.trace MemoryLedger.world l (fun i => ((allocators i).commit (requests i)).toProgram) schedule i)

/-- What a successful write of a commit does: it replaces the record that it decided on, and ends the commit. -/
structure Lands (q : AllocationRequest) (i : ι)
    (p p' : Pool Ledger.interface MemoryLedger fun _ : ι => Except Failure (Option Network))
    (r : Record) (n : Nat) (b : Network) : Prop where
  before : p.state.Holds r n
  decided : ruling q r = .assign b
  running : ∀ o, p.programs i ≠ .done o
  after : p'.state.Holds (amended q r b) (n + 1)
  history : p'.history = p.history ++ [⟨i, Ledger.wrote (amended q r b) (MemoryLedger.versionOf n)⟩]
  programs : p'.programs = Function.update p.programs i (.done (.ok (some b)))

/-- A step of a commit lands a write, or it leaves the stored record as it is. Then it is a read, or a write that is
refused, or not a request. -/
theorem commits_step (schedule : List ι) (i : ι) :
    let p := commitsAfter l allocators requests schedule
    let p' := commitsAfter l allocators requests (schedule ++ [i])
    (∃ r n b, Lands (requests i) i p p' r n b) ∨
    (p'.state.stored = p.state.stored ∧
      (p'.history = p.history ∨ p'.history = p.history ++ [⟨i, .read, p.state.read⟩] ∨
        ∃ record v f, p'.history = p.history ++ [⟨i, .writeIfUnchanged record v, .error f⟩])) := by
  intro p p'
  have hp' : p' = p.step MemoryLedger.world i := commitsAfter_concat l allocators requests schedule i
  have hstage : Stage (allocators i) (requests i) (p.log i) (p.programs i) :=
    commits_stage l allocators requests schedule i
  rcases Pool.step_cases MemoryLedger.world p i with ⟨query, next, hask, hstep⟩ | ⟨d, next, -, hstep⟩ | hstep
  · rcases hstage.request_cases hask with rfl | ⟨rounds, left, delay, r, v, b, -, hlog, hr, hwriting⟩
    · right
      rw [hp', hstep]
      exact ⟨rfl, .inr (.inl rfl)⟩
    · have hgot : ⟨i, Ledger.got r v⟩ ∈ p.history := by
        refine Pool.mem_history_of_mem_log ?_
        rw [hlog]
        exact List.mem_append_right _ (List.mem_singleton.mpr rfl)
      -- other commits may have written since the read, but then the version is not the current one any more
      have hremembers : p.state.Remembers r v := Pool.remembers l _ schedule hgot
      have hwrite := Pool.step_of_ask (w := MemoryLedger.world) hwriting
      rw [hp', hwrite]
      rcases hremembers.write_cases (amended (requests i) r b) with ⟨n, rfl, hholds, hok, hafter⟩ | ⟨⟨f, hf⟩, hsame⟩
      · have hreply : (MemoryLedger.world.answer
            (.writeIfUnchanged (amended (requests i) r b) (MemoryLedger.versionOf n)) p.state).1 = Except.ok () := hok
        refine .inl ⟨r, n, b, hholds, hr, ?_, hafter, Pool.history_answered hreply, Pool.update_answered hreply⟩
        intro o hdone
        rw [hwriting] at hdone
        cases hdone
      · have hreply : (MemoryLedger.world.answer (.writeIfUnchanged (amended (requests i) r b) v) p.state).1 =
            Except.error f := hf
        exact .inr ⟨hsame, .inr (.inr ⟨amended (requests i) r b, v, f, Pool.history_answered hreply⟩)⟩
  · right
    rw [hp', hstep]
    exact ⟨rfl, .inl rfl⟩
  · right
    rw [hp', hstep]
    exact ⟨rfl, .inl rfl⟩

end MultiCluster
