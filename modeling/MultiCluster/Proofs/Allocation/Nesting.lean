import MultiCluster.Proofs.Allocation.Vacancy

/-!
# Networks are nested or disjoint

Leading bits decide what belongs to a network: it covers the addresses that have the leading bits of its own one,
whatever bits stand behind them. So if two networks share an address, the one with fewer leading bits covers all of the
other. The test for an overlap only asks whether one network has the first address of the other, and the scan for a free
block compares intervals of addresses. Both tests come to the same, so that what is drawn and what is named is held
against the same blocks.

Main statement: `Network.overlap_is_address_sharing`.
-/

namespace MultiCluster

/-! ### Leading bits -/

/-- Two numbers have the same bits from the `k`-th one on. -/
def AgreeFrom (k x y : Nat) : Prop :=
  ∀ i, k ≤ i → x.testBit i = y.testBit i

private theorem AgreeFrom.symm {k x y : Nat} (h : AgreeFrom k x y) : AgreeFrom k y x :=
  fun i hi => (h i hi).symm

private theorem AgreeFrom.trans {k x y z : Nat} (h : AgreeFrom k x y) (h' : AgreeFrom k y z) : AgreeFrom k x z :=
  fun i hi => (h i hi).trans (h' i hi)

private theorem AgreeFrom.mono {k l x y : Nat} (h : AgreeFrom k x y) (hkl : k ≤ l) : AgreeFrom l x y :=
  fun i hi => h i (Nat.le_trans hkl hi)

/-- The bits from the `k`-th one on are those of the quotient by the `k`-th power of two. -/
private theorem agreeFrom_iff_div_eq {k x y : Nat} : AgreeFrom k x y ↔ x / Nat.pow 2 k = y / Nat.pow 2 k := by
  rw [Nat.pow_eq]
  constructor
  · intro h
    apply Nat.eq_of_testBit_eq
    intro i
    rw [Nat.testBit_div_two_pow, Nat.testBit_div_two_pow]
    exact h (i + k) (Nat.le_add_left k i)
  · intro h i hi
    obtain ⟨j, rfl⟩ := Nat.exists_eq_add_of_le' hi
    rw [← Nat.testBit_div_two_pow, h, Nat.testBit_div_two_pow]

namespace Network

variable {a b n : Network} {x : Nat}

/-- The number `x` is an address with the leading bits of the network. -/
def Covers (n : Network) (x : Nat) : Prop :=
  x < addressLimit ∧ AgreeFrom (32 - n.length) x n.address

/-- The networks have the same leading bits. Those that stand behind them may differ. -/
def SameLeading (n n' : Network) : Prop :=
  n'.length = n.length ∧ AgreeFrom (32 - n.length) n'.address n.address

private theorem mem_iff_div_eq : x ∈ n ↔ x / n.size = n.address / n.size := by
  have hpos := n.size_pos
  rw [mem_iff, Nat.div_eq_iff hpos]
  simp only [stop, first]
  omega

/-- The addresses of a network are those with its leading bits. -/
private theorem mem_iff_covers : x ∈ n ↔ n.Covers x := by
  have hbits : x ∈ n ↔ AgreeFrom (32 - n.length) x n.address := mem_iff_div_eq.trans agreeFrom_iff_div_eq.symm
  constructor
  · intro h
    have hstop := n.stop_le
    have hlt := (mem_iff.mp h).2
    exact ⟨by omega, hbits.mp h⟩
  · exact fun h => hbits.mpr h.2

/-- Of two networks that share an address the one with fewer leading bits covers the other. -/
theorem Covers.nested (ha : a.Covers x) (hb : b.Covers x) (hle : a.length ≤ b.length) {y : Nat} (hy : b.Covers y) :
    a.Covers y := by
  have hyx : AgreeFrom (32 - b.length) y x := hy.2.trans hb.2.symm
  exact ⟨hy.1, (hyx.mono (by omega)).trans ha.2⟩

private theorem covers_first (n : Network) : n.Covers n.first :=
  mem_iff_covers.mp n.first_mem

private theorem SameLeading.covers_iff {n' : Network} (h : n.SameLeading n') : n'.Covers x ↔ n.Covers x := by
  obtain ⟨hlength, hbits⟩ := h
  unfold Covers
  rw [hlength]
  constructor
  · exact fun ⟨hlt, hx⟩ => ⟨hlt, hx.trans hbits⟩
  · exact fun ⟨hlt, hx⟩ => ⟨hlt, hx.trans hbits.symm⟩

/-! ### Overlaps -/

private theorem overlaps_iff_covers : a.overlaps b = true ↔ ∃ x, a.Covers x ∧ b.Covers x := by
  simp only [overlaps_iff, mem_iff_covers]

/-- Two networks overlap exactly if one of them covers the other. -/
private theorem overlaps_iff_nested :
    a.overlaps b = true ↔ (∀ x, b.Covers x → a.Covers x) ∨ ∀ x, a.Covers x → b.Covers x := by
  rw [overlaps_iff_covers]
  constructor
  · rintro ⟨x, ha, hb⟩
    rcases Nat.le_total a.length b.length with hle | hle
    · exact .inl fun y hy => ha.nested hb hle hy
    · exact .inr fun y hy => hb.nested ha hle hy
  · rintro (h | h)
    · exact ⟨b.first, h _ b.covers_first, b.covers_first⟩
    · exact ⟨a.first, a.covers_first, h _ a.covers_first⟩

private theorem overlaps_comm (a b : Network) : a.overlaps b = b.overlaps a := by
  rw [Bool.eq_iff_iff, overlaps_iff_covers, overlaps_iff_covers]
  simp only [and_comm]

private theorem overlaps_congr {a' b' : Network} (ha : a.SameLeading a') (hb : b.SameLeading b') :
    a'.overlaps b' = a.overlaps b := by
  rw [Bool.eq_iff_iff, overlaps_iff_covers, overlaps_iff_covers]
  simp only [ha.covers_iff, hb.covers_iff]

/-- The intervals of two networks meet exactly if the networks overlap. -/
private theorem meets_eq_overlaps (a b : Network) : meets a.first a.stop (b.first, b.size) = a.overlaps b := by
  have hapos := a.size_pos
  have hbpos := b.size_pos
  have hmeets : meets a.first a.stop (b.first, b.size) = true ↔ b.first < a.stop ∧ a.first < b.stop := by
    rw [meets, Bool.and_eq_true, decide_eq_true_iff, decide_eq_true_iff]
    rfl
  rw [Bool.eq_iff_iff, hmeets]
  simp only [overlaps, Bool.or_eq_true, decide_eq_true_eq, mem_iff, stop]
  omega

end Network

/-- A block that starts where a scan stands meets an interval of the taken ones exactly if the block overlaps one of the
other clusters' blocks. -/
private theorem Record.any_taken_meets (r : Record) (cluster : String) {size : BlockSize} {start : Nat}
    {block : Network} (hd : size.addresses ∣ start) (hblock : size.blockAt start = .ok block) :
    (r.taken cluster).any (meets start (start + size.addresses)) =
      (r.blocksExcluding cluster).any fun p => p.2.overlaps block := by
  have hlt : start < addressLimit := by
    by_cases hlt : start < addressLimit
    · exact hlt
    · rw [BlockSize.blockAt, dif_neg hlt] at hblock
      cases hblock
  obtain ⟨b, hb, hfirst, hsize, -⟩ := BlockSize.blockAt_of_dvd hlt hd
  obtain rfl : b = block := Except.ok.inj (hb.symm.trans hblock)
  have hstop : start + size.addresses = b.stop := by rw [Network.stop, hfirst, hsize]
  rw [taken, (List.mergeSort_perm _ _).any_eq, List.any_map, hstop, ← hfirst]
  refine congrArg (List.any _) (funext fun p => ?_)
  rw [Network.overlaps_comm]
  exact Network.meets_eq_overlaps b p.2

/-- Networks overlap exactly if they share an address, and exactly if one covers the other; the test of the scan, on
intervals of addresses, comes to the same. -/
theorem Network.overlap_is_address_sharing (a b : Network) :
    (a.overlaps b = true ↔ ∃ x, a.Covers x ∧ b.Covers x) ∧
    (a.overlaps b = true ↔ (∀ x, b.Covers x → a.Covers x) ∨ ∀ x, a.Covers x → b.Covers x) ∧
    a.overlaps b = b.overlaps a ∧
    (∀ a' b', a.SameLeading a' → b.SameLeading b' → a'.overlaps b' = a.overlaps b) ∧
    meets a.first (a.first + a.size) (b.first, b.size) = a.overlaps b ∧
    ∀ (r : Record) (cluster : String) (size : BlockSize) (start : Nat),
      size.addresses ∣ start → size.blockAt start = .ok a →
      (r.taken cluster).any (meets start (start + size.addresses)) =
        (r.blocksExcluding cluster).any fun p => p.2.overlaps a :=
  ⟨overlaps_iff_covers, overlaps_iff_nested, overlaps_comm a b, fun _ _ => overlaps_congr, meets_eq_overlaps a b,
    fun r cluster _ _ => r.any_taken_meets cluster⟩

end MultiCluster
