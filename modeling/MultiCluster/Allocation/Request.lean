import MultiCluster.ClusterId
import MultiCluster.Text.Blank

/-!
# Allocation requests

What a cluster asks for: a block of the default size, a block of another size, or one block that it names.
-/

namespace MultiCluster

/-- What a cluster asks for. -/
structure AllocationRequest where
  cluster : String
  /-- The text of the block to claim. -/
  explicitCidr : Option String := none
  /-- The number of addresses, if not the default one. -/
  blockSize : Option UInt64 := none
  /-- The network plugin to note beside the assignment. -/
  plugin : Option String := none
  deriving DecidableEq

namespace AllocationRequest

/-- The request with a block to claim; a blank text claims none. -/
def claiming (r : AllocationRequest) (cidr : Option String) : AllocationRequest :=
  { r with explicitCidr := cidr.filter fun c => !Text.isBlankText c }

/-- Rejects a request that no record can satisfy. -/
def validate (r : AllocationRequest) : Except Failure Unit := do
  ClusterId.validate r.cluster
  if r.explicitCidr.isSome && r.blockSize.isSome then
    throw (.malformed "globalnetClusterSize" "a block size cannot be combined with an explicit global CIDR")

end AllocationRequest

end MultiCluster
