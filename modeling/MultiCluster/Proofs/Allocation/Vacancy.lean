import MultiCluster.Proofs.Allocation.Scan
import MultiCluster.Proofs.Net.Overlap

/-!
# Which blocks a decision can give

A run of addresses is vacant for a cluster if it is aligned, lies in the supernet, and belongs to no block of another
cluster. A cluster without a block gets the lowest vacant run of the requested size.

Main statements: `Record.draw_of_fits` and `Record.draw_of_size_lt` say what a cluster without a block gets.
-/

namespace MultiCluster

namespace BlockSize

/-- The number of addresses is the only power of two between a requested number and its double. -/
theorem addresses_eq {n : UInt64} {b : BlockSize} {k : Nat} (h : ofAddresses n = .ok b)
    (hk : n.toNat ≤ Nat.pow 2 k) (hk' : Nat.pow 2 k < 2 * n.toNat) : b.addresses = Nat.pow 2 k := by
  have hle := le_addresses h
  have hlt := addresses_lt_two_mul h
  have hmono : ∀ {i j : Nat}, Nat.pow 2 i < 2 * Nat.pow 2 j → i ≤ j := by
    intro i j hij
    have hsucc : 2 ^ i < 2 ^ (j + 1) := by
      rw [Nat.pow_succ, Nat.mul_comm]
      exact hij
    have hlt' := (Nat.pow_lt_pow_iff_right (by decide)).mp hsucc
    omega
  have hexp : b.exponent = k := by
    refine Nat.le_antisymm (hmono ?_) (hmono ?_)
    · show b.addresses < _
      omega
    · show _ < 2 * b.addresses
      omega
  rw [addresses, hexp]

/-- A network is divided into blocks of any size that it can hold. -/
theorem addresses_dvd_of_le {size : BlockSize} {net : Network} (h : size.addresses ≤ net.size) :
    size.addresses ∣ net.size :=
  Nat.pow_dvd_pow 2 ((Nat.pow_le_pow_iff_right (by decide)).mp h)

/-- A number has a block size exactly if it is neither zero nor larger than the address space. -/
theorem ofAddresses_cases (n : UInt64) :
    (n.toNat = 0 ∨ addressLimit < n.toNat) ∧ (∃ message, ofAddresses n = .error (malformed message)) ∨
      0 < n.toNat ∧ n.toNat ≤ addressLimit ∧ ∃ b, ofAddresses n = .ok b := by
  unfold ofAddresses
  by_cases h0 : n = 0
  · subst h0
    exact .inl ⟨.inl rfl, _, if_pos rfl⟩
  · have hpos : 0 < n.toNat := Nat.pos_of_ne_zero fun h => h0 (UInt64.toNat.inj (by simpa using h))
    by_cases hle : n.toNat ≤ addressLimit
    · exact .inr ⟨hpos, hle, _, by rw [if_neg h0, dif_pos hle]⟩
    · exact .inl ⟨.inr (Nat.not_le.mp hle), _, by rw [if_neg h0, dif_neg hle]⟩

theorem exponent_eq {n : UInt64} {b : BlockSize} (h : ofAddresses n = .ok b) : b.exponent = ceilLog2 n.toNat := by
  unfold ofAddresses at h
  split at h
  · cases h
  · split at h
    · cases h
      rfl
    · cases h

/-- The number of addresses fits into a word. -/
theorem toNat_toWord (b : BlockSize) : b.toWord.toNat = b.addresses := by
  have hle := b.addresses_le
  refine UInt64.toNat_ofNat_of_lt' (Nat.lt_of_le_of_lt hle ?_)
  decide

/-- A number that is the size of a block is not rounded. -/
theorem ofAddresses_toWord (b : BlockSize) : ofAddresses b.toWord = .ok b := by
  have hpos := b.addresses_pos
  have hle := b.addresses_le
  rcases ofAddresses_cases b.toWord with ⟨hout, -⟩ | ⟨-, -, c, hc⟩
  · rw [toNat_toWord] at hout
    omega
  · have hexp : c.exponent = b.exponent := by
      rw [exponent_eq hc, toNat_toWord]
      refine Nat.le_antisymm (ceilLog2_le (Nat.le_refl _)) ?_
      exact (Nat.pow_le_pow_iff_right (by decide)).mp (le_two_pow_ceilLog2 b.addresses)
    obtain ⟨k, hk⟩ := b
    obtain ⟨l, hl⟩ := c
    obtain rfl : l = k := hexp
    exact hc

theorem blockAt_of_dvd {start : Nat} {size : BlockSize} (hlt : start < addressLimit)
    (hd : size.addresses ∣ start) :
    ∃ b, size.blockAt start = .ok b ∧ b.first = start ∧ b.size = size.addresses ∧ b.isTruncated = true := by
  refine ⟨⟨start, 32 - size.exponent, hlt, Nat.sub_le _ _⟩, by rw [blockAt, dif_pos hlt], ?_⟩
  have hsize : ∀ h, Network.size ⟨start, 32 - size.exponent, hlt, h⟩ = size.addresses := by
    intro h
    have hexp := size.exponent_le
    show Nat.pow 2 (32 - (32 - size.exponent)) = Nat.pow 2 size.exponent
    congr 1
    omega
  have hfirst : ∀ h, Network.first ⟨start, 32 - size.exponent, hlt, h⟩ = start := by
    intro h
    rw [Network.first, hsize]
    exact Nat.div_mul_cancel hd
  refine ⟨hfirst _, hsize _, ?_⟩
  simp [Network.isTruncated, Network.truncate, hfirst]

end BlockSize

namespace Record

variable {r : Record} {cluster : String}

theorem mem_blocksExcluding {p : String × Network} :
    p ∈ r.blocksExcluding cluster ↔ ∃ e ∈ r.entries, e.cluster ≠ cluster ∧ ∃ b ∈ e.blocks, (e.cluster, b) = p := by
  simp [blocksExcluding, and_assoc]

/-- The addresses of a block belong to no block of another cluster. -/
def IsFree (r : Record) (cluster : String) (block : Network) : Prop :=
  ∀ e ∈ r.entries, e.cluster ≠ cluster → ∀ b ∈ e.blocks, ∀ a, a ∈ b → a ∉ block

/-- An aligned run of addresses of the supernet that belong to no block of another cluster. -/
structure IsVacant (r : Record) (cluster : String) (size start : Nat) : Prop where
  aligned : size ∣ start
  inside : ∀ a, start ≤ a → a < start + size → a ∈ r.supernet
  free : ∀ e ∈ r.entries, e.cluster ≠ cluster → ∀ b ∈ e.blocks, ∀ a, start ≤ a → a < start + size → a ∉ b

theorem mem_taken {t : Nat × Nat} :
    t ∈ r.taken cluster ↔ ∃ e ∈ r.entries, e.cluster ≠ cluster ∧ ∃ b ∈ e.blocks, (b.first, b.size) = t := by
  rw [taken, List.mem_mergeSort, List.mem_map]
  constructor
  · rintro ⟨p, hp, rfl⟩
    obtain ⟨e, he, hne, b, hb, rfl⟩ := mem_blocksExcluding.mp hp
    exact ⟨e, he, hne, b, hb, rfl⟩
  · rintro ⟨e, he, hne, b, hb, rfl⟩
    exact ⟨_, mem_blocksExcluding.mpr ⟨e, he, hne, b, hb, rfl⟩, rfl⟩

/-- A run of addresses meets the interval of a block exactly if the block has one of them. -/
private theorem meets_eq_false_iff {size start : Nat} {b : Network} (hs : 0 < size) :
    meets start (start + size) (b.first, b.size) = false ↔ ∀ a, start ≤ a → a < start + size → a ∉ b := by
  have hpos := b.size_pos
  simp only [meets, Bool.and_eq_false_iff, decide_eq_false_iff_not, Network.mem_iff, Network.stop]
  constructor
  · intro h a ha ha' hb
    omega
  · intro h
    -- the larger of the two lower ends is common to the run and the block, if anything is
    have hmax := h (max start b.first) (by omega)
    omega

/-- The vacant runs are the places of the scan inside the supernet. -/
private theorem isVacant_iff {size start : Nat} (hs : 0 < size) :
    r.IsVacant cluster size start ↔
      r.supernet.first ≤ start ∧ IsPlace (r.taken cluster) size r.supernet.stop start := by
  constructor
  · intro h
    have hlow := h.inside start (Nat.le_refl _) (by omega)
    have hhigh := h.inside (start + size - 1) (by omega) (by omega)
    rw [Network.mem_iff] at hlow hhigh
    refine ⟨hlow.1, h.aligned, by omega, ?_⟩
    intro t ht
    obtain ⟨e, he, hne, b, hb, rfl⟩ := mem_taken.mp ht
    exact (meets_eq_false_iff hs).mpr (h.free e he hne b hb)
  · rintro ⟨hle, hplace⟩
    refine ⟨hplace.aligned, ?_, ?_⟩
    · intro a ha ha'
      have hfits := hplace.fits
      exact Network.mem_iff.mpr ⟨by omega, by omega⟩
    · intro e he hne b hb
      exact (meets_eq_false_iff hs).mp (hplace.free _ (mem_taken.mpr ⟨e, he, hne, b, hb, rfl⟩))

/-! ### Drawing -/

variable {q : AllocationRequest} {size : BlockSize}

theorem draw_of_held {b : Network} (hsize : BlockSize.ofAddresses (q.blockSize.getD r.defaultBlockSize) = .ok size)
    (hp : r.primary? q.cluster = some b) : r.draw q = .ok b := by
  simp [draw, hsize, hp, bind, Except.bind, pure, Except.pure]

theorem draw_of_error {f : Failure} (hsize : BlockSize.ofAddresses (q.blockSize.getD r.defaultBlockSize) = .error f) :
    r.draw q = .error f := by
  simp [draw, hsize, bind, Except.bind]

theorem draw_of_size_lt (hsize : BlockSize.ofAddresses (q.blockSize.getD r.defaultBlockSize) = .ok size)
    (hp : r.primary? q.cluster = none) (hlt : r.supernet.size < size.addresses) :
    ∃ message, r.draw q = .error (BlockSize.malformed message) := by
  have hcap : ∃ message, size.capacity r.supernet = .error (BlockSize.malformed message) :=
    ⟨_, by rw [BlockSize.capacity, if_pos hlt]⟩
  obtain ⟨message, hm⟩ := hcap
  exact ⟨message, by simp [draw, hsize, hp, hm, bind, Except.bind]⟩

/-- Blocks of a size that fits into the supernet start at its first address. -/
private theorem addresses_dvd_first (hle : size.addresses ≤ r.supernet.size) :
    size.addresses ∣ r.supernet.first :=
  Nat.dvd_trans (BlockSize.addresses_dvd_of_le hle) r.supernet.size_dvd_first

/-- A cluster without a block gets the lowest vacant run of the size, or none if no run is vacant. -/
theorem draw_of_fits (hsize : BlockSize.ofAddresses (q.blockSize.getD r.defaultBlockSize) = .ok size)
    (hp : r.primary? q.cluster = none) (hle : size.addresses ≤ r.supernet.size) :
    (∃ b, r.draw q = .ok b ∧ b.size = size.addresses ∧ b.isTruncated = true ∧
      r.IsVacant q.cluster size.addresses b.first ∧
      ∀ start, r.IsVacant q.cluster size.addresses start → b.first ≤ start) ∨
    (r.draw q = .error (.exhausted size.addresses r.supernet.toText) ∧
      ∀ start, ¬ r.IsVacant q.cluster size.addresses start) := by
  have hpos := size.addresses_pos
  have hfirst := addresses_dvd_first hle
  have hcap : size.capacity r.supernet = .ok (r.supernet.size / size.addresses) := if_neg (Nat.not_lt.mpr hle)
  cases hscan : scan (r.taken q.cluster) size.addresses r.supernet.stop r.supernet.first with
  | some o =>
    obtain ⟨hplace, hlow, hleast⟩ := scan_eq_some hfirst hscan
    have hlt : o < addressLimit := by
      have hstop := r.supernet.stop_le
      have hfits := hplace.fits
      omega
    have hdraw : r.draw q = size.blockAt o := by simp [draw, hsize, hp, hcap, hscan, bind, Except.bind]
    obtain ⟨b, hb, rfl, hbsize, htrunc⟩ := BlockSize.blockAt_of_dvd hlt hplace.aligned
    refine .inl ⟨b, hdraw.trans hb, hbsize, htrunc, (isVacant_iff hpos).mpr ⟨hlow, hplace⟩, ?_⟩
    intro start hv
    obtain ⟨hle', hplace'⟩ := (isVacant_iff hpos).mp hv
    exact hleast start hle' hplace'
  | none =>
    have hdraw : r.draw q = .error (.exhausted size.addresses r.supernet.toText) := by
      simp [draw, hsize, hp, hcap, hscan, bind, Except.bind, throw, throwThe, MonadExceptOf.throw]
    refine .inr ⟨hdraw, fun start hv => ?_⟩
    obtain ⟨hle', hplace'⟩ := (isVacant_iff hpos).mp hv
    exact scan_eq_none hpos hfirst hscan start hle' hplace'

private theorem IsVacant.isFree {b : Network} (h : r.IsVacant cluster b.size b.first) :
    r.supernet.contains b = true ∧ r.IsFree cluster b := by
  constructor
  · exact Network.contains_iff.mpr fun a ha => h.inside a ha.1 ha.2
  · intro e he hne b' hb' a ha hab
    exact h.free e he hne b' hb' a hab.1 hab.2 ha

/-- A block that a cluster gets without naming one is the one that it holds, or a free one of the supernet. -/
theorem draw_free {b : Network} (h : r.draw q = .ok b) :
    r.primary? q.cluster = some b ∨ (r.supernet.contains b = true ∧ r.IsFree q.cluster b) := by
  cases hsize : BlockSize.ofAddresses (q.blockSize.getD r.defaultBlockSize) with
  | error f => rw [draw_of_error hsize] at h; cases h
  | ok size =>
    cases hp : r.primary? q.cluster with
    | some held =>
      rw [draw_of_held hsize hp] at h
      exact .inl (congrArg some (Except.ok.inj h))
    | none =>
      refine .inr ?_
      by_cases hlt : r.supernet.size < size.addresses
      · obtain ⟨message, hm⟩ := draw_of_size_lt hsize hp hlt
        rw [hm] at h
        cases h
      · rcases draw_of_fits hsize hp (Nat.not_lt.mp hlt) with ⟨b', hb', hbsize, -, hvacant, -⟩ | ⟨hex, -⟩
        · obtain rfl : b' = b := Except.ok.inj (hb'.symm.trans h)
          rw [← hbsize] at hvacant
          exact hvacant.isFree
        · rw [hex] at h
          cases h

end Record

end MultiCluster
