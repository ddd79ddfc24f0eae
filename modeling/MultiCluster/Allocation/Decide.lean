import MultiCluster.Allocation.BlockSize
import MultiCluster.Allocation.Request
import MultiCluster.Ledger.Record

/-!
# Deciding on a block

Given a record and a request, which block the cluster gets. A named block is checked and returned as it is. Else
a cluster keeps the block that it holds, and a new cluster gets the lowest free block of the requested size.
-/

namespace MultiCluster

/-- The least multiple of `size` that is not below `n`. -/
def roundUp (n size : Nat) : Nat :=
  (n + size - 1) / size * size

theorem le_roundUp (n : Nat) {size : Nat} (h : 0 < size) : n ≤ roundUp n size := by
  have h1 := Nat.div_add_mod (n + size - 1) size
  have h2 := Nat.mod_lt (n + size - 1) h
  have h3 : roundUp n size = size * ((n + size - 1) / size) := Nat.mul_comm _ _
  omega

theorem dvd_roundUp (n size : Nat) : size ∣ roundUp n size :=
  Nat.dvd_mul_left _ _

/-- Whether an interval of addresses, given by its start and its size, meets the one from `offset` to `stop`. -/
def meets (offset stop : Nat) (taken : Nat × Nat) : Bool :=
  taken.1 < stop && offset < taken.1 + taken.2

/-- The start of the first free block of `size` addresses from `offset` on that ends no later than `stop`. A
collision with a taken interval moves the search behind it, to the next multiple of the size. -/
def scan (taken : List (Nat × Nat)) (size stop offset : Nat) : Option Nat :=
  if _h : 0 < size ∧ offset + size ≤ stop then
    match taken.find? (meets offset (offset + size)) with
    | none => some offset
    | some t => scan taken size stop (roundUp (max (t.1 + t.2) (offset + size)) size)
  else none
termination_by stop - offset
decreasing_by
  have := le_roundUp (max (t.1 + t.2) (offset + size)) _h.1
  omega

namespace Record

/-- The order of intervals: by start, then by size. -/
def intervalLe (a b : Nat × Nat) : Bool :=
  a.1 < b.1 || (a.1 == b.1 && a.2 ≤ b.2)

/-- The intervals that the other clusters' blocks cover, in order. -/
def taken (r : Record) (cluster : String) : List (Nat × Nat) :=
  ((r.blocksExcluding cluster).map fun p => (p.2.first, p.2.size)).mergeSort intervalLe

/-- Checks a block that a cluster names. -/
def claim (r : Record) (cluster cidr : String) : Except Failure Network := do
  let requested ← parseNetwork "globalnetCIDR" cidr
  if !r.supernet.contains requested then
    throw (.outOfBounds requested.toText r.supernet.toText)
  match (r.blocksExcluding cluster).find? fun p => p.2.overlaps requested with
  | some (owner, existing) => throw (.overlap requested.toText existing.toText owner)
  | none => return requested

/-- Finds a block for a cluster that names none. -/
def draw (r : Record) (request : AllocationRequest) : Except Failure Network := do
  let size ← BlockSize.ofAddresses (request.blockSize.getD r.defaultBlockSize)
  match r.primary? request.cluster with
  | some held => return held
  | none =>
    let _ ← size.capacity r.supernet
    match scan (r.taken request.cluster) size.addresses r.supernet.stop r.supernet.first with
    | some start => size.blockAt start
    | none => throw (.exhausted size.addresses r.supernet.toText)

/-- Decides which block a cluster gets. -/
def allocate (r : Record) (request : AllocationRequest) : Except Failure Network :=
  match request.explicitCidr with
  | some cidr => r.claim request.cluster cidr
  | none => r.draw request

end Record

end MultiCluster
