import MultiCluster.Net.Number

/-!
# IPv4 networks

A network is an address together with the number of leading bits that its addresses share. The address may have
bits set behind those, and two networks are equal only if these bits are too. What a network covers does not
depend on them: it is the interval of `size` addresses from `first` on.

Main statements: `mem_iff` describes the addresses of a network by their interval, `contains_iff` says that one
network contains another exactly if it has all its addresses.
-/

namespace MultiCluster

/-- The number of addresses. -/
def addressLimit : Nat := 4294967296

/-- An IPv4 network, with the address it was written with. -/
structure Network where
  address : Nat
  /-- How many leading bits the addresses share. -/
  length : Nat
  address_lt : address < addressLimit := by decide
  length_le : length ≤ 32 := by decide
  deriving DecidableEq

namespace Network

instance : Inhabited Network := ⟨⟨0, 0, by decide, by decide⟩⟩

/-- The number of addresses of a network. -/
def size (n : Network) : Nat :=
  Nat.pow 2 (32 - n.length)

/-- The lowest address of a network. -/
def first (n : Network) : Nat :=
  n.address / n.size * n.size

/-- The address behind the highest one. -/
def stop (n : Network) : Nat :=
  n.first + n.size

/-- An address belongs to a network if it is in its interval. -/
instance : Membership Nat Network where
  mem n a := n.first ≤ a ∧ a < n.stop

instance (a : Nat) (n : Network) : Decidable (a ∈ n) :=
  inferInstanceAs (Decidable (n.first ≤ a ∧ a < n.stop))

theorem mem_iff {a : Nat} {n : Network} : a ∈ n ↔ n.first ≤ a ∧ a < n.stop :=
  Iff.rfl

theorem size_pos (n : Network) : 0 < n.size :=
  Nat.two_pow_pos _

theorem first_le_address (n : Network) : n.first ≤ n.address :=
  Nat.div_mul_le_self _ _

theorem size_dvd_first (n : Network) : n.size ∣ n.first :=
  Nat.dvd_mul_left _ _

theorem size_dvd_addressLimit (n : Network) : n.size ∣ addressLimit :=
  Nat.pow_dvd_pow 2 (n := 32) (Nat.sub_le 32 n.length)

theorem stop_le (n : Network) : n.stop ≤ addressLimit := by
  obtain ⟨k, hk⟩ := n.size_dvd_addressLimit
  have hlt : n.address / n.size < k := by
    rw [Nat.div_lt_iff_lt_mul n.size_pos, Nat.mul_comm, ← hk]; exact n.address_lt
  have : (n.address / n.size + 1) * n.size ≤ k * n.size := Nat.mul_le_mul_right _ hlt
  rw [Nat.mul_comm k, ← hk, Nat.add_mul, Nat.one_mul] at this
  exact this

theorem first_lt (n : Network) : n.first < addressLimit :=
  Nat.lt_of_le_of_lt n.first_le_address n.address_lt

/-- The network without the bits behind its leading ones. -/
def truncate (n : Network) : Network where
  address := n.first
  length := n.length
  address_lt := n.first_lt
  length_le := n.length_le

/-- A network whose address has no bits set behind the leading ones. -/
def isTruncated (n : Network) : Bool :=
  n == n.truncate

/-- Whether every address of `inner` is one of `outer`. -/
def contains (outer inner : Network) : Bool :=
  outer.first ≤ inner.first && inner.stop ≤ outer.stop

/-- Whether two networks share an address: one of them has the first address of the other. -/
def overlaps (a b : Network) : Bool :=
  decide (b.first ∈ a) || decide (a.first ∈ b)

theorem first_mem (n : Network) : n.first ∈ n :=
  ⟨Nat.le_refl _, Nat.lt_add_of_pos_right n.size_pos⟩

/-- A network contains another exactly if it has all its addresses. -/
theorem contains_iff {outer inner : Network} :
    outer.contains inner = true ↔ ∀ a, a ∈ inner → a ∈ outer := by
  have hpos := inner.size_pos
  simp only [contains, Bool.and_eq_true, decide_eq_true_eq, mem_iff]
  constructor
  · intro ⟨hl, hr⟩ a ⟨ha, ha'⟩
    exact ⟨Nat.le_trans hl ha, Nat.lt_of_lt_of_le ha' hr⟩
  · intro h
    have h1 := h inner.first ⟨Nat.le_refl _, by simp only [stop]; omega⟩
    have h2 := h (inner.stop - 1) ⟨by simp only [stop]; omega, by simp only [stop]; omega⟩
    simp only [stop] at *
    omega

/-- How often two divides a number below `2 ^ steps`. -/
def halvings : (steps : Nat) → Nat → Nat
  | 0, _ => 0
  | steps + 1, n => if n % 2 = 0 then halvings steps (n / 2) + 1 else 0

/-- How many leading bits the addresses of a block of `size` addresses share, for a power of two. -/
def lengthOfSize (size : Nat) : Nat :=
  32 - halvings 64 size

theorem halvings_two_pow {k steps : Nat} (h : k < steps) : halvings steps (Nat.pow 2 k) = k := by
  rw [Nat.pow_eq]
  induction k generalizing steps with
  | zero =>
    cases steps with
    | zero => omega
    | succ s => simp [halvings]
  | succ k ih =>
    cases steps with
    | zero => omega
    | succ s =>
      have h2 : 2 ^ (k + 1) % 2 = 0 := by omega
      have hd : 2 ^ (k + 1) / 2 = 2 ^ k := by omega
      simp [halvings, h2, hd, ih (by omega : k < s)]

/-- A block of `2 ^ k` addresses shares all but `k` bits. -/
theorem lengthOfSize_two_pow {k : Nat} (h : k < 64) : lengthOfSize (Nat.pow 2 k) = 32 - k := by
  rw [lengthOfSize, halvings_two_pow h]

/-! ### Text -/

/-- The four numbers of an address. -/
def octets (address : Nat) : List Nat :=
  [address / 16777216, address / 65536 % 256, address / 256 % 256, address % 256]

/-- The text of an address. -/
def addressText (address : Nat) : String :=
  ".".intercalate ((octets address).map toString)

/-- The text of a network, with the bits behind the leading ones. -/
def toText (n : Network) : String :=
  addressText n.address ++ "/" ++ toString n.length

instance : ToString Network := ⟨toText⟩

/-- Reads an address: four numbers below 256 of at most three digits, with points between them. -/
def readAddress (cs : List Char) : Option (Nat × List Char) := do
  let (a, cs) ← Net.readNumber 10 3 256 cs
  let cs ← Net.readChar '.' cs
  let (b, cs) ← Net.readNumber 10 3 256 cs
  let cs ← Net.readChar '.' cs
  let (c, cs) ← Net.readNumber 10 3 256 cs
  let cs ← Net.readChar '.' cs
  let (d, cs) ← Net.readNumber 10 3 256 cs
  return (a * 16777216 + b * 65536 + c * 256 + d, cs)

/-- Reads a network: an address, a slash, and a length of at most two digits. -/
def ofChars? (cs : List Char) : Option Network := do
  let (address, cs) ← readAddress cs
  let cs ← Net.readChar '/' cs
  let (length, cs) ← Net.readNumber 10 2 33 cs
  if h : cs = [] ∧ address < addressLimit ∧ length ≤ 32 then
    return { address, length, address_lt := h.2.1, length_le := h.2.2 }
  else none

/-- Reads a network. -/
def ofText? (s : String) : Option Network :=
  ofChars? s.toList

end Network

end MultiCluster
