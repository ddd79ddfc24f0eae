import MultiCluster.Allocation.Decide
import MultiCluster.Ledger.Store
import MultiCluster.Timing.Retry

/-!
# The allocator

The allocator is a client of a ledger. It initializes the ledger of a broker domain, and it commits allocations:
it decides on the freshest record and writes the result back under the version of that record, and it repeats
both after a conflict.
-/

namespace MultiCluster

/-- An allocator for one ledger. -/
structure Allocator where
  /-- The name of the ledger. -/
  ledgerName : String
  /-- How often a commit is repeated after a conflict. -/
  retry : RetryPolicy := .onConflict

namespace Allocator

/-- Creates the ledger of a broker domain, or adopts the one that exists. An existing ledger is validated and
never overwritten. -/
def establish (supernet : String) (blockSize : UInt64) (enabled : Bool) : Task Ledger.interface Record := do
  if enabled then
    let _ ← Task.ofExcept (validateSupernet supernet blockSize)
  let net ← Task.ofExcept (parseNetwork "globalnetCIDRRange" supernet)
  let size ← Task.ofExcept (BlockSize.ofAddresses blockSize)
  let record := Record.empty net size.toWord enabled
  if ← Ledger.create record then
    return record
  let (existing, _) ← Ledger.read
  Task.ofExcept existing.validate
  return existing

/-- The current record. -/
def record : Task Ledger.interface Record := do
  let (current, _) ← Ledger.read
  return current

/-- Decides once on a block and stores the decision. There is no block if global addressing is not in use, and
nothing to store if the cluster holds the block already. -/
def round (request : AllocationRequest) : Task Ledger.interface (Option Network) := do
  let (current, version) ← Ledger.read
  if !current.enabled then
    return none
  let block ← Task.ofExcept (current.allocate request)
  if current.primary? request.cluster = some block then
    return some block
  Ledger.writeIfUnchanged (current.assign request.cluster block request.plugin) version
  return some block

/-- The failure of a commit whose last attempt failed. -/
def exhaustion (a : Allocator) (e : Failure) : Failure :=
  if e.isConflict then .conflictRetriesExhausted a.ledgerName a.retry.maxAttempts else e

/-- Allocates a block for a request and stores it. -/
def commit (a : Allocator) (request : AllocationRequest) : Task Ledger.interface (Option Network) := do
  Task.ofExcept request.validate
  Task.mapFailure a.exhaustion
    (Task.ofProgram (a.retry.retryIf Failure.isConflict (round request).toProgram))

end Allocator

end MultiCluster
