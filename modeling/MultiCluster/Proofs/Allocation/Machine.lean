import MultiCluster.Proofs.Allocation.Vacancy
import MultiCluster.Text.Decimal

/-!
# Drawing a block with machine words

The numbers of a draw are natural numbers. Here the same draw is made with words of 64 bits: every sum, product,
difference, quotient, shift and narrowing is checked, and there is no outcome as soon as one of them leaves its
range, nor if the scan makes more rounds than there are addresses. Main statement: `Machine.draw_eq`, the checked
draw always has an outcome, and it is the one of the draw.
-/

namespace MultiCluster

namespace Machine

/-! ### Checked operations -/

/-- A number that fits into a word of 64 bits. -/
def word (n : Nat) : Option Nat :=
  if n < Text.Decimal.wordLimit then some n else none

def sub (a b : Nat) : Option Nat :=
  if b ≤ a then some (a - b) else none

def div (a b : Nat) : Option Nat :=
  if b = 0 then none else some (a / b)

/-- The quotient, rounded up. -/
def ceilDiv (a b : Nat) : Option Nat :=
  if b = 0 then none else word (a / b + if a % b = 0 then 0 else 1)

/-- The word with one bit set. -/
def bit (k : Nat) : Option Nat :=
  if k < 64 then word (Nat.pow 2 k) else none

/-- A number that fits into a byte. -/
def byte (n : Nat) : Option Nat :=
  if n < 256 then some n else none

/-! ### The steps of a draw -/

/-- A computation with checked operations that may also fail as the draw does. -/
abbrev Checked (α : Type) := ExceptT Failure Option α

/-- A computation without failures. -/
def Checked.exact {α : Type} (a : Option α) : Checked α :=
  ExceptT.lift a

/-- Rounds a size up to a power of two. -/
def normalize (n : UInt64) : Checked Nat :=
  if n = 0 then throw (BlockSize.malformed "block size must be greater than zero")
  else if addressLimit < n.toNat then
    throw (BlockSize.malformed ("block size " ++ toString n.toNat ++ " exceeds the IPv4 address space"))
  else .exact (word (Nat.pow 2 (BlockSize.ceilLog2 n.toNat)))

def count (n : Network) : Checked Nat := do
  let bits ← .exact (sub 32 n.length)
  .exact (bit bits)

/-- How many blocks of a size the supernet holds. The size is rounded up once more. -/
def capacity (supernet : Network) (addresses : Nat) : Checked Nat := do
  let size ← normalize (UInt64.ofNat addresses)
  let most ← count supernet
  if most < size then
    throw (BlockSize.malformed ("block size " ++ toString size ++ " exceeds the " ++ toString most ++
      " addresses of supernet " ++ supernet.toText))
  .exact (div most size)

def intervals : List (String × Network) → Checked (List (Nat × Nat))
  | [] => return []
  | p :: ps => do
    let size ← count p.2
    let rest ← intervals ps
    return (p.2.first, size) :: rest

/-- The first interval that meets the one from `offset` to `stop`; an interval that starts behind is not added up. -/
def collision? (offset stop : Nat) : List (Nat × Nat) → Option (Option (Nat × Nat))
  | [] => some none
  | t :: ts =>
    if t.1 < stop then do
      let behind ← word (t.1 + t.2)
      if offset < behind then return some t else collision? offset stop ts
    else collision? offset stop ts

/-- The scan, with at most the given number of rounds. -/
def scan (taken : List (Nat × Nat)) (size stop : Nat) : (rounds offset : Nat) → Option (Option Nat)
  | 0, _ => none
  | rounds + 1, offset => do
    let candidate ← word (offset + size)
    if candidate ≤ stop then
      match ← collision? offset candidate taken with
      | none => return some offset
      | some t =>
        let behind ← word (t.1 + t.2)
        let blocks ← ceilDiv (max behind candidate) size
        let next ← word (blocks * size)
        scan taken size stop rounds next
    else return none

def blockAt (start size : Nat) : Checked Network := do
  if hs : start < addressLimit then
    let bits ← .exact (sub 32 (Network.halvings 64 size))
    let length ← .exact (byte bits)
    if hl : length ≤ 32 then
      return { address := start, length, address_lt := hs, length_le := hl }
    else throw (.internal "allocator" "invalid IP address prefix")
  else throw (.internal "allocator" "block offset beyond IPv4")

/-- Searches for a block of a size among those that the other clusters leave. -/
def search (r : Record) (cluster : String) (size : Nat) : Checked Network := do
  let _ ← capacity r.supernet size
  let taken ← intervals (r.blocksExcluding cluster)
  let most ← count r.supernet
  let stop ← .exact (word (r.supernet.first + most))
  match ← .exact (scan (taken.mergeSort Record.intervalLe) size stop (addressLimit + 1) r.supernet.first) with
  | some start => blockAt start size
  | none => throw (.exhausted size r.supernet.toText)

/-- Finds a block for a cluster that names none. -/
def draw (r : Record) (request : AllocationRequest) : Checked Network := do
  let size ← normalize (request.blockSize.getD r.defaultBlockSize)
  match r.primary? request.cluster with
  | some held =>
    let _ ← count held
    return held
  | none => search r request.cluster size

/-! ### No operation leaves its range -/

@[simp] theorem exact_some_bind {α β : Type} (a : α) (f : α → Checked β) : (Checked.exact (some a) >>= f) = f a :=
  rfl

private theorem word_of_le {n : Nat} (h : n ≤ 2 * addressLimit) : word n = some n := by
  refine if_pos ?_
  simp only [addressLimit, Text.Decimal.wordLimit] at *
  omega

private theorem normalize_eq (n : UInt64) :
    normalize n = ExceptT.mk (some ((BlockSize.ofAddresses n).map BlockSize.addresses)) := by
  unfold normalize BlockSize.ofAddresses
  by_cases h0 : n = 0
  · simp only [h0, ↓reduceIte]
    rfl
  · by_cases hle : n.toNat ≤ addressLimit
    · have hpow : Nat.pow 2 (BlockSize.ceilLog2 n.toNat) ≤ addressLimit :=
        Nat.pow_le_pow_right (n := 2) (by decide) (BlockSize.ceilLog2_le (k := 32) hle)
      have hword := word_of_le (Nat.le_trans hpow (Nat.le_mul_of_pos_left _ (by decide)))
      simp only [h0, hle, Nat.not_lt.mpr hle, ↓reduceIte, ↓reduceDIte, hword]
      rfl
    · simp only [h0, hle, Nat.not_le.mp hle, ↓reduceIte, ↓reduceDIte]
      rfl

@[simp] private theorem count_eq (n : Network) : count n = Checked.exact (some n.size) := by
  have hlen := n.length_le
  have hsub : sub 32 n.length = some (32 - n.length) := if_pos hlen
  have hsize : n.size ≤ addressLimit := Nat.le_of_dvd (by decide) n.size_dvd_addressLimit
  have hbit : bit (32 - n.length) = some n.size := by
    rw [bit, if_pos (by omega)]
    exact word_of_le (Nat.le_trans hsize (by decide))
  rw [count, hsub, exact_some_bind, hbit]

private theorem capacity_eq (supernet : Network) (b : BlockSize) :
    capacity supernet b.addresses = ExceptT.mk (some (b.capacity supernet)) := by
  have hpos := b.addresses_pos
  -- a power of two is not rounded
  have hnorm : normalize (UInt64.ofNat b.addresses) = Checked.exact (some b.addresses) := by
    have hsize : BlockSize.ofAddresses (UInt64.ofNat b.addresses) = .ok b := b.ofAddresses_toWord
    rw [normalize_eq, hsize]
    rfl
  have hdiv : div supernet.size b.addresses = some (supernet.size / b.addresses) := if_neg (by omega)
  rw [capacity, hnorm, exact_some_bind, count_eq, exact_some_bind, BlockSize.capacity]
  by_cases hlt : supernet.size < b.addresses
  · simp only [hlt, ↓reduceIte]
    rfl
  · simp only [hlt, ↓reduceIte, hdiv]
    rfl

private theorem intervals_eq (ps : List (String × Network)) :
    intervals ps = Checked.exact (some (ps.map fun p => (p.2.first, p.2.size))) := by
  induction ps with
  | nil => rfl
  | cons p ps ih =>
    rw [intervals, count_eq, exact_some_bind, ih, exact_some_bind]
    rfl

section Scan

variable {taken : List (Nat × Nat)} {size stop offset : Nat}

private theorem collision?_eq (h : ∀ t ∈ taken, t.1 + t.2 ≤ addressLimit) :
    collision? offset stop taken = some (taken.find? (meets offset stop)) := by
  induction taken with
  | nil => rfl
  | cons t ts ih =>
    have hword : word (t.1 + t.2) = some (t.1 + t.2) :=
      word_of_le (Nat.le_trans (h t (by simp)) (by decide))
    have ihts := ih fun t' ht' => h t' (List.mem_cons_of_mem _ ht')
    rw [collision?, hword]
    by_cases hlt : t.1 < stop
    · by_cases hmeet : offset < t.1 + t.2
      · simp [hlt, hmeet, meets]
      · simp [hlt, hmeet, meets, ihts]
    · simp [hlt, meets, ihts]

/-- Rounding up to a multiple of a divisor of the address space stays in the address space. -/
private theorem ceilDiv_eq {n : Nat} (hs : 0 < size) (hn : n ≤ addressLimit) :
    ∃ k, ceilDiv n size = some k ∧ k * size = roundUp n size := by
  have hceil : n / size + (if n % size = 0 then 0 else 1) = (n + size - 1) / size := by
    have hdiv := Nat.div_add_mod n size
    have hmod := Nat.mod_lt n hs
    symm
    rw [Nat.div_eq_iff hs]
    split
    · rw [Nat.add_zero, Nat.mul_comm]
      omega
    · rw [Nat.add_mul, Nat.mul_comm (n / size)]
      omega
  have hle : n / size ≤ n := Nat.div_le_self n size
  refine ⟨(n + size - 1) / size, ?_, rfl⟩
  rw [ceilDiv, if_neg (by omega), ← hceil]
  refine word_of_le ?_
  simp only [addressLimit] at *
  split <;> omega

/-- The scan of a part of the address space stays in range, and it makes a round for each address at most. -/
private theorem scan_eq {rounds : Nat} (hs : 0 < size) (hd : size ∣ addressLimit) (hstop : stop ≤ addressLimit)
    (ht : ∀ t ∈ taken, t.1 + t.2 ≤ addressLimit) (ho : offset ≤ addressLimit) (hr : 0 < rounds)
    (hrounds : stop < offset + rounds) :
    scan taken size stop rounds offset = some (MultiCluster.scan taken size stop offset) := by
  have hsize : size ≤ addressLimit := Nat.le_of_dvd (by decide) hd
  induction rounds generalizing offset with
  | zero => omega
  | succ rounds ih =>
    have hcandidate : word (offset + size) = some (offset + size) := word_of_le (by omega)
    rw [scan, MultiCluster.scan, hcandidate]
    by_cases hfits : offset + size ≤ stop
    · cases hfind : taken.find? (meets offset (offset + size)) with
      | none => simp [hfits, hs, collision?_eq ht, hfind]
      | some t =>
        have htle := ht t (List.mem_of_find?_eq_some hfind)
        have hmax : max (t.1 + t.2) (offset + size) ≤ addressLimit := Nat.max_le.mpr ⟨htle, by omega⟩
        have hbehind : word (t.1 + t.2) = some (t.1 + t.2) := word_of_le (by omega)
        obtain ⟨k, hk, hround⟩ := ceilDiv_eq hs hmax
        have hnext : roundUp (max (t.1 + t.2) (offset + size)) size ≤ addressLimit := roundUp_le hmax hd
        have hgrow := le_roundUp (max (t.1 + t.2) (offset + size)) hs
        have hword : word (k * size) = some (roundUp (max (t.1 + t.2) (offset + size)) size) := by
          rw [hround]
          exact word_of_le (by omega)
        -- each round moves on by an address at least, so that the rounds suffice
        have hrest := ih hnext (by omega) (by omega)
        simp [hfits, hs, collision?_eq ht, hfind, hbehind, hk, hword, hrest]
    · simp [hfits]

end Scan

private theorem blockAt_eq (start : Nat) (b : BlockSize) :
    blockAt start b.addresses = ExceptT.mk (some (b.blockAt start)) := by
  have hexp := b.exponent_le
  have hhalf : Network.halvings 64 b.addresses = b.exponent := Network.halvings_two_pow (by omega)
  have hsub : sub 32 b.exponent = some (32 - b.exponent) := if_pos hexp
  have hbyte : byte (32 - b.exponent) = some (32 - b.exponent) := if_pos (by omega)
  unfold blockAt BlockSize.blockAt
  by_cases hs : start < addressLimit
  · simp only [hs, ↓reduceDIte, hhalf, hsub, hbyte, exact_some_bind, Nat.sub_le]
    rfl
  · simp only [hs, ↓reduceDIte]
    rfl

private theorem search_eq (r : Record) (cluster : String) (size : BlockSize) :
    search r cluster size.addresses = ExceptT.mk (some (do
      let _ ← size.capacity r.supernet
      match MultiCluster.scan (r.taken cluster) size.addresses r.supernet.stop r.supernet.first with
      | some start => size.blockAt start
      | none => throw (.exhausted size.addresses r.supernet.toText))) := by
  have hstop := r.supernet.stop_le
  have hword : word (r.supernet.first + r.supernet.size) = some r.supernet.stop :=
    word_of_le (Nat.le_trans hstop (by decide))
  have htaken : ∀ t ∈ r.taken cluster, t.1 + t.2 ≤ addressLimit := by
    intro t ht
    obtain ⟨e, -, -, b, -, rfl⟩ := Record.mem_taken.mp ht
    exact b.stop_le
  have hd : size.addresses ∣ addressLimit := Nat.pow_dvd_pow 2 (n := 32) size.exponent_le
  have hscan : scan (r.taken cluster) size.addresses r.supernet.stop (addressLimit + 1) r.supernet.first =
      some (MultiCluster.scan (r.taken cluster) size.addresses r.supernet.stop r.supernet.first) :=
    scan_eq size.addresses_pos hd hstop htaken (Nat.le_of_lt r.supernet.first_lt) (by omega) (by omega)
  rw [search, capacity_eq]
  cases hcap : size.capacity r.supernet with
  | error f => rfl
  | ok blocks =>
    show (intervals (r.blocksExcluding cluster) >>= fun taken => _) = _
    rw [intervals_eq, exact_some_bind, count_eq, exact_some_bind, hword, exact_some_bind]
    show (Checked.exact (scan (r.taken cluster) _ _ _ _) >>= fun start? => _) = _
    rw [hscan, exact_some_bind]
    cases MultiCluster.scan (r.taken cluster) size.addresses r.supernet.stop r.supernet.first with
    | some start => exact blockAt_eq start size
    | none => rfl

/-- No operation of a draw leaves its range. -/
theorem draw_eq (r : Record) (q : AllocationRequest) : (draw r q).run = some (r.draw q) := by
  unfold draw Record.draw
  rw [normalize_eq]
  cases hsize : BlockSize.ofAddresses (q.blockSize.getD r.defaultBlockSize) with
  | error f => rfl
  | ok size =>
    cases hp : r.primary? q.cluster with
    | some held =>
      simp only [count_eq]
      rfl
    | none => exact congrArg ExceptT.run (search_eq r q.cluster size)

end Machine

end MultiCluster
