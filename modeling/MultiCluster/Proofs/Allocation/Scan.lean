import MultiCluster.Allocation.Decide

/-!
# The scan finds the lowest free block

The scan moves from one aligned offset to the next, and jumps behind an interval that it meets. No free block starts
in between: such a block would start behind the met interval, at a multiple of the size. Main statements:
`scan_eq_some` and `scan_eq_none`.
-/

namespace MultiCluster

theorem roundUp_le {n size m : Nat} (h : n ≤ m) (hd : size ∣ m) : roundUp n size ≤ m := by
  obtain ⟨k, rfl⟩ := hd
  unfold roundUp
  rw [Nat.mul_comm size k]
  rcases Nat.eq_zero_or_pos size with rfl | hs
  · simp
  · refine Nat.mul_le_mul_right size (Nat.le_of_lt_succ ?_)
    rw [Nat.div_lt_iff_lt_mul hs, Nat.succ_mul, Nat.mul_comm k]
    omega

/-- A place for a block of `size` addresses: an aligned offset from which the block ends no later than `stop` and
meets no taken interval. -/
structure IsPlace (taken : List (Nat × Nat)) (size stop offset : Nat) : Prop where
  aligned : size ∣ offset
  fits : offset + size ≤ stop
  free : ∀ t ∈ taken, meets offset (offset + size) t = false

section Scan

variable {taken : List (Nat × Nat)} {size stop offset p : Nat} {t : Nat × Nat}

/-- Two different multiples of a number differ by it at least. -/
private theorem add_le_of_dvd (ho : size ∣ offset) (hp : size ∣ p) (hlt : offset < p) : offset + size ≤ p := by
  have hsub : size ∣ p - offset := Nat.dvd_sub hp ho
  have hle : size ≤ p - offset := Nat.le_of_dvd (by omega) hsub
  omega

/-- A place from a met interval's offset on is not skipped by the jump behind the interval. -/
private theorem IsPlace.jump_le (h : IsPlace taken size stop p) (ho : size ∣ offset) (hle : offset ≤ p) (ht : t ∈ taken)
    (hm : meets offset (offset + size) t = true) : roundUp (max (t.1 + t.2) (offset + size)) size ≤ p := by
  have hfree := h.free t ht
  have hne : offset ≠ p := by
    rintro rfl
    rw [hm] at hfree
    contradiction
  have hnext : offset + size ≤ p := add_le_of_dvd ho h.aligned (by omega)
  -- the interval starts before the block at `offset` ends, hence before the one at `p`, which it does not meet
  have hbehind : t.1 + t.2 ≤ p := by
    simp only [meets, Bool.and_eq_true, decide_eq_true_eq] at hm
    simp only [meets, Bool.and_eq_false_iff, decide_eq_false_iff_not] at hfree
    omega
  exact roundUp_le (Nat.max_le.mpr ⟨hbehind, hnext⟩) h.aligned

/-- An offset that the scan finds is the lowest place from its start on. -/
theorem scan_eq_some {o : Nat} (ho : size ∣ offset) (h : scan taken size stop offset = some o) :
    IsPlace taken size stop o ∧ offset ≤ o ∧ ∀ p, offset ≤ p → IsPlace taken size stop p → o ≤ p := by
  fun_induction scan taken size stop offset with
  | case1 offset hfits hnone =>
    obtain rfl : offset = o := by simpa using h
    have hfree := List.find?_eq_none.mp hnone
    exact ⟨⟨ho, hfits.2, by simpa using hfree⟩, Nat.le_refl _, fun p hp _ => hp⟩
  | case2 offset hfits t hfind ih =>
    obtain ⟨hplace, hle, hleast⟩ := ih (dvd_roundUp _ _) h
    have hgrow := le_roundUp (max (t.1 + t.2) (offset + size)) hfits.1
    refine ⟨hplace, by omega, fun p hp hp' => hleast p ?_ hp'⟩
    exact hp'.jump_le ho hp (List.mem_of_find?_eq_some hfind) (List.find?_some hfind)
  | case3 offset hfits => cases h

/-- A scan that finds nothing passed no place. -/
theorem scan_eq_none (hs : 0 < size) (ho : size ∣ offset) (h : scan taken size stop offset = none) :
    ∀ p, offset ≤ p → ¬ IsPlace taken size stop p := by
  fun_induction scan taken size stop offset with
  | case1 offset hfits hnone => cases h
  | case2 offset hfits t hfind ih =>
    intro p hp hp'
    refine ih (dvd_roundUp _ _) h p ?_ hp'
    exact hp'.jump_le ho hp (List.mem_of_find?_eq_some hfind) (List.find?_some hfind)
  | case3 offset hfits =>
    intro p hp hp'
    have hend := hp'.fits
    exact hfits ⟨hs, by omega⟩

end Scan

end MultiCluster
