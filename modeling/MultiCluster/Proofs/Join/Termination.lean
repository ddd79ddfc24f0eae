import MultiCluster.Proofs.Allocation.CommitLog
import MultiCluster.Proofs.Discovery.Termination
import MultiCluster.Proofs.Join.Course

/-!
# Attempts end

Discovery makes a bounded number of requests, a commit ends with its last attempt, and the wait for the credential with
its last poll. So an attempt comes to an end, whatever its collaborators answer, if the attempts of a commit are
limited.

Main statement: `Join.finishes_run`.
-/

namespace MultiCluster

private theorem Credential.finishes_wait (b : Backoff) (identity : String) : (wait b identity).toProgram.Finishes := by
  refine Backoff.finishes_waitFor ?_ b _
  exact .ask fun reply => .done _

namespace Join

variable {plan : Plan}

theorem finishes_discovery : discovery.Finishes :=
  (Discovery.finishes_discoverWith _).interpret fun q => Program.finishes_request (I := interface) (.cluster q)

private theorem finishes_committing {a : Allocator} (h : 0 < a.retry.maxAttempts) (q : AllocationRequest) :
    (committing a q).Finishes :=
  (Allocator.finishes_commit h q).interpret fun q => Program.finishes_request (I := interface) (.ledger q)

theorem finishes_awaiting (plan : Plan) (cluster : String) : (awaiting plan cluster).Finishes :=
  (Credential.finishes_wait _ _).interpret fun q => Program.finishes_request (I := interface) (.credential q)

theorem finishes_proceed {n : Nat} {α : Type} {phase : JoinPhase} {found : Option ResolvedNetwork}
    {t : Task interface α} {next : α → Program interface (Later (n + 1))} (ht : t.toProgram.Finishes)
    (hnext : ∀ a, (next a).Finishes) : (proceed phase found t next).Finishes := by
  refine ht.bind fun o => ?_
  cases o with
  | ok a => exact hnext a
  | error e => exact .done _

private theorem finishes_awaitCredential {n : Nat} (plan : Plan) (network : ResolvedNetwork) :
    (awaitCredential (n := n) plan network).Finishes :=
  finishes_proceed (finishes_awaiting plan _) fun _ => .done _

/-- A transition ends if the attempts of a commit are limited. -/
private theorem finishes_transition (h : ∀ a, plan.allocator = some a → 0 < a.retry.maxAttempts) (r : JoinRequest)
    (s : State) (hs : s.isTerminal = false) : (transition plan r s hs).Finishes := by
  cases s with
  | discovering =>
    refine finishes_proceed finishes_discovery fun found => ?_
    exact finishes_proceed (Task.finishes_ofExcept _) fun network => .done _
  | validating network =>
    refine finishes_proceed (Task.finishes_ofExcept _) fun u => ?_
    refine finishes_proceed (Program.finishes_request (I := interface) _) fun unmet => ?_
    refine finishes_proceed (Task.finishes_ofExcept _) fun u => ?_
    unfold prepareAllocation
    split
    · exact finishes_awaitCredential _ _
    · exact finishes_proceed (Task.finishes_ofExcept _) fun u => .done _
  | allocating network request =>
    show (allocate plan network request).Finishes
    unfold allocate
    cases ha : plan.allocator with
    | none => exact finishes_awaitCredential _ _
    | some a => exact finishes_proceed (finishes_committing (h a ha) _) fun block => finishes_awaitCredential _ _
  | registering network c => exact finishes_proceed (Program.finishes_request (I := interface) _) fun u => .done _
  | succeeded network => cases hs
  | failed phase e network => cases hs

theorem finishes_drive (h : ∀ a, plan.allocator = some a → 0 < a.retry.maxAttempts) (r : JoinRequest) (s : State) :
    (drive plan r s).Finishes := by
  induction hn : s.remaining using Nat.strongRecOn generalizing s with
  | ind n ih =>
    subst hn
    unfold drive
    split
    · exact .done _
    · exact (finishes_transition h r s _).bind fun t => ih _ t.2 _ rfl

/-- An attempt ends if the attempts of a commit are limited. -/
theorem finishes_run (h : ∀ a, plan.allocator = some a → 0 < a.retry.maxAttempts) (r : JoinRequest) :
    (run plan r).Finishes :=
  (finishes_drive h r _).bind fun _ => .done _

end Join

end MultiCluster
