import MultiCluster.Failure
import MultiCluster.Net.Network
import MultiCluster.Text.Blank

/-!
# Block sizes

Blocks have a power of two of addresses and are aligned to their size, so that a supernet divides into disjoint
blocks of any size it can hold. A requested size is rounded up. Main statements: `le_addresses` and
`addresses_lt_two_mul` say that rounding up gives the least power of two that is large enough.
-/

namespace MultiCluster

/-- A size that a block can have: a power of two, up to the whole address space. -/
structure BlockSize where
  exponent : Nat
  exponent_le : exponent ≤ 32 := by omega

namespace BlockSize

/-- The number of addresses. -/
def addresses (b : BlockSize) : Nat :=
  Nat.pow 2 b.exponent

/-- The exponent of the least power of two that is not below `n`. -/
def ceilLog2 (n : Nat) : Nat :=
  if n ≤ 1 then 0 else (n - 1).log2 + 1

theorem le_two_pow_ceilLog2 (n : Nat) : n ≤ Nat.pow 2 (ceilLog2 n) := by
  rw [Nat.pow_eq]
  unfold ceilLog2
  split
  · simpa using ‹n ≤ 1›
  · have := (Nat.log2_lt (n := n - 1) (k := (n - 1).log2 + 1) (by omega)).mp (Nat.lt_succ_self _)
    omega

theorem two_pow_ceilLog2_lt {n : Nat} (h : 0 < n) : Nat.pow 2 (ceilLog2 n) < 2 * n := by
  rw [Nat.pow_eq]
  unfold ceilLog2
  split
  · omega
  · have := Nat.log2_self_le (n := n - 1) (by omega)
    rw [Nat.pow_succ]
    omega

theorem ceilLog2_le {n k : Nat} (h : n ≤ Nat.pow 2 k) : ceilLog2 n ≤ k := by
  rw [Nat.pow_eq] at h
  unfold ceilLog2
  split
  · omega
  · exact (Nat.log2_lt (by omega)).mpr (by omega)

/-- The failure for a size that no block can have. -/
def malformed (message : String) : Failure :=
  .malformed "globalnetClusterSize" message

/-- Rounds a requested number of addresses up to a block size. -/
def ofAddresses (n : UInt64) : Except Failure BlockSize :=
  if n = 0 then .error (malformed "block size must be greater than zero")
  else if h : n.toNat ≤ addressLimit then
    .ok { exponent := ceilLog2 n.toNat, exponent_le := ceilLog2_le (k := 32) h }
  else .error (malformed ("block size " ++ toString n.toNat ++ " exceeds the IPv4 address space"))

/-- The number of addresses as a word. -/
def toWord (b : BlockSize) : UInt64 :=
  UInt64.ofNat b.addresses

theorem addresses_pos (b : BlockSize) : 0 < b.addresses :=
  Nat.two_pow_pos _

theorem addresses_le (b : BlockSize) : b.addresses ≤ addressLimit :=
  Nat.pow_le_pow_right (n := 2) (by decide) b.exponent_le

/-- The block is large enough for the request. -/
theorem le_addresses {n : UInt64} {b : BlockSize} (h : ofAddresses n = .ok b) : n.toNat ≤ b.addresses := by
  simp only [ofAddresses] at h
  split at h
  · cases h
  · split at h
    · cases h; exact le_two_pow_ceilLog2 _
    · cases h

/-- Half the block would be too small for the request. -/
theorem addresses_lt_two_mul {n : UInt64} {b : BlockSize} (h : ofAddresses n = .ok b) :
    b.addresses < 2 * n.toNat := by
  simp only [ofAddresses] at h
  split at h
  · cases h
  · rename_i hn
    have hp : 0 < n.toNat := Nat.pos_of_ne_zero fun h0 => hn (UInt64.toNat.inj (by simpa using h0))
    split at h
    · cases h; exact two_pow_ceilLog2_lt hp
    · cases h

/-- The block of a size that starts at an address. -/
def blockAt (start : Nat) (b : BlockSize) : Except Failure Network :=
  if h : start < addressLimit then
    .ok { address := start, length := 32 - b.exponent, address_lt := h, length_le := Nat.sub_le _ _ }
  else .error (.internal "allocator" "block offset beyond IPv4")

/-- How many blocks of a size a supernet holds; at least one. -/
def capacity (supernet : Network) (b : BlockSize) : Except Failure Nat :=
  if supernet.size < b.addresses then
    .error (malformed ("block size " ++ toString b.addresses ++ " exceeds the " ++ toString supernet.size ++
      " addresses of supernet " ++ supernet.toText))
  else .ok (supernet.size / b.addresses)

end BlockSize

/-- Reads a network that must not have bits set behind its leading ones; `field` names where the text is from. -/
def parseNetwork (field cidr : String) : Except Failure Network :=
  match Network.ofText? (Text.trim cidr) with
  | none =>
    .error (.malformed field (Text.quoted cidr ++ " is not an IPv4 CIDR: invalid IP address syntax"))
  | some net =>
    if net.isTruncated then .ok net
    else .error (.malformed field
      (cidr ++ " has host bits set, did you mean " ++ net.truncate.toText ++ "?"))

/-- How many blocks for a requested number of addresses a supernet holds. -/
def capacityInBlocks (supernet : Network) (addresses : UInt64) : Except Failure Nat := do
  let b ← BlockSize.ofAddresses addresses
  b.capacity supernet

/-- How many blocks for a requested number of addresses fit into the supernet that a text names. -/
def validateSupernet (supernet : String) (addresses : UInt64) : Except Failure Nat := do
  let net ← parseNetwork "globalnetCIDRRange" supernet
  capacityInBlocks net addresses

end MultiCluster
