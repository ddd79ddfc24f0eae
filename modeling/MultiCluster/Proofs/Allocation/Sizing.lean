import Mathlib.Order.Bounds.Basic
import MultiCluster.Proofs.Allocation.Vacancy

/-!
# Block sizes are exact

A number of addresses is rounded up to the least power of two that is large enough, and a block of this size is all of
a network, with nothing left over: the length of the network and the number of its addresses are worked out from each
other, the one by counting the zeros behind the only bit that is set in the number, the other by shifting this bit back.
Neither rounds, and both stay inside a word, from blocks of one address to the block of all addresses.

Main statement: `BlockSize.sizes_are_exact`.
-/

namespace MultiCluster

namespace BlockSize

variable {n m : UInt64} {b c : BlockSize}

/-! ### Rounding up -/

/-- Rounding up gives the least power of two that is large enough. -/
private theorem isLeast_addresses (h : ofAddresses n = .ok b) :
    IsLeast {s | n.toNat ≤ s ∧ ∃ k, s = Nat.pow 2 k} b.addresses := by
  refine ⟨⟨le_addresses h, b.exponent, rfl⟩, ?_⟩
  rintro s ⟨hn, k, rfl⟩
  have hexp : b.exponent ≤ k := by
    rw [exponent_eq h]
    exact ceilLog2_le hn
  exact Nat.pow_le_pow_right (by decide) hexp

private theorem addresses_mono (hb : ofAddresses n = .ok b) (hc : ofAddresses m = .ok c) (h : n ≤ m) :
    b.addresses ≤ c.addresses := by
  have hlarge : n.toNat ≤ c.addresses := Nat.le_trans (UInt64.le_iff_toNat_le.mp h) (le_addresses hc)
  exact (isLeast_addresses hb).2 ⟨hlarge, c.exponent, rfl⟩

/-! ### From the size to the length and back -/

/-- The exponent is the number of zeros behind the only bit that is set. -/
private theorem ctz_toWord (b : BlockSize) : b.toWord.toBitVec.ctz.toNat = b.exponent := by
  have hne : b.toWord.toBitVec ≠ 0#64 := by
    intro hzero
    have hpos := b.addresses_pos
    rw [← b.toNat_toWord, ← UInt64.toNat_toBitVec, hzero] at hpos
    exact absurd hpos (Nat.lt_irrefl 0)
  -- the bit behind which there are only zeros is set, and a power of two has no other one
  have hbit := BitVec.getLsbD_true_ctz_of_ne_zero hne
  rw [← BitVec.testBit_toNat, UInt64.toNat_toBitVec, toNat_toWord, addresses, Nat.pow_eq, Nat.testBit_two_pow,
    decide_eq_true_iff] at hbit
  exact hbit.symm

private theorem blockAt_eq_ok {start : Nat} {block : Network} (h : b.blockAt start = .ok block) :
    block.address = start ∧ block.length = 32 - b.exponent := by
  unfold blockAt at h
  split at h
  · cases h
    exact ⟨rfl, rfl⟩
  · cases h

end BlockSize

/-- Shifted by the bits that the addresses of a network do not share, the lowest bit is the number of its addresses. -/
private theorem Network.toNat_one_shiftLeft (net : Network) :
    ((1 : UInt64) <<< UInt64.ofNat (32 - net.length)).toNat = net.size := by
  have hlt : Nat.pow 2 (32 - net.length) < 2 ^ 64 := Nat.pow_lt_pow_right (by decide) (by omega)
  have hamount : (UInt64.ofNat (32 - net.length)).toNat % 64 = 32 - net.length := by
    rw [UInt64.toNat_ofNat_of_lt' (by simp only [UInt64.size]; omega)]
    omega
  rw [UInt64.toNat_shiftLeft, hamount, UInt64.toNat_one, Nat.one_shiftLeft]
  exact Nat.mod_eq_of_lt hlt

namespace BlockSize

/-- A number of addresses is rounded up to the least power of two, and at each multiple of it that leaves enough
addresses there is a block of exactly that many. -/
theorem sizes_are_exact (n : UInt64) :
    ((∃ message, ofAddresses n = .error (.malformed "globalnetClusterSize" message)) ↔
      n.toNat = 0 ∨ addressLimit < n.toNat) ∧
    (0 < n.toNat → n.toNat ≤ addressLimit → ∃ b, ofAddresses n = .ok b ∧
      b.toWord.toNat = b.addresses ∧
      IsLeast {s | n.toNat ≤ s ∧ ∃ k, s = Nat.pow 2 k} b.addresses ∧
      ofAddresses b.toWord = .ok b ∧
      (∀ m c, n ≤ m → ofAddresses m = .ok c → b.addresses ≤ c.addresses) ∧
      ∀ start, b.addresses ∣ start → start + b.addresses ≤ addressLimit →
        ∃ block, b.blockAt start = .ok block ∧ block.isTruncated = true ∧ block.address = start ∧
          block.first = start ∧ block.size = b.addresses ∧
          block.length = Network.lengthOfSize b.addresses ∧
          block.length + b.toWord.toBitVec.ctz.toNat = 32 ∧
          (1 : UInt64) <<< UInt64.ofNat (32 - block.length) = b.toWord) := by
  constructor
  · rcases ofAddresses_cases n with ⟨hout, message, herror⟩ | ⟨hpos, hle, b, hb⟩
    · exact ⟨fun _ => hout, fun _ => ⟨message, herror⟩⟩
    · constructor
      · rintro ⟨message, herror⟩
        rw [hb] at herror
        cases herror
      · intro hout
        omega
  · intro hpos hle
    obtain ⟨b, hb⟩ : ∃ b, ofAddresses n = .ok b := by
      rcases ofAddresses_cases n with ⟨hout, -⟩ | ⟨-, -, hsize⟩
      · omega
      · exact hsize
    have hmono : ∀ m c, n ≤ m → ofAddresses m = .ok c → b.addresses ≤ c.addresses :=
      fun m c hle hc => addresses_mono hb hc hle
    refine ⟨b, hb, b.toNat_toWord, isLeast_addresses hb, b.ofAddresses_toWord, hmono, ?_⟩
    intro start hd hstop
    have hexp := b.exponent_le
    have hsizepos := b.addresses_pos
    obtain ⟨block, hblock, hfirst, hsize, htruncated⟩ := blockAt_of_dvd (by omega) hd
    obtain ⟨haddress, hlength⟩ := blockAt_eq_ok hblock
    have hcounted : block.length = Network.lengthOfSize b.addresses := by
      rw [hlength, addresses, Network.lengthOfSize_two_pow (by omega)]
    refine ⟨block, hblock, htruncated, haddress, hfirst, hsize, hcounted, ?_, ?_⟩
    · rw [ctz_toWord, hlength]
      omega
    · apply UInt64.toNat.inj
      rw [Network.toNat_one_shiftLeft, hsize, toNat_toWord]

end BlockSize

end MultiCluster
