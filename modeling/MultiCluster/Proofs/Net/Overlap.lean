import MultiCluster.Net.Network

/-!
# Overlapping networks

Two networks overlap exactly if some address belongs to both of them: the larger of the two first addresses is
shared as soon as any address is. Main statement: `Network.overlaps_iff`.
-/

namespace MultiCluster.Network

/-- Two networks overlap exactly if they share an address. -/
theorem overlaps_iff {a b : Network} : a.overlaps b = true ↔ ∃ x, x ∈ a ∧ x ∈ b := by
  simp only [overlaps, Bool.or_eq_true, decide_eq_true_eq]
  constructor
  · rintro (h | h)
    · exact ⟨b.first, h, b.first_mem⟩
    · exact ⟨a.first, a.first_mem, h⟩
  · rintro ⟨x, hxa, hxb⟩
    simp only [mem_iff] at hxa hxb ⊢
    have ha := a.first_mem
    have hb := b.first_mem
    simp only [mem_iff] at ha hb
    omega

theorem overlaps_eq_false_iff {a b : Network} : a.overlaps b = false ↔ ∀ x, x ∈ a → x ∉ b := by
  rw [← Bool.not_eq_true, overlaps_iff]
  exact ⟨fun h x hxa hxb => h ⟨x, hxa, hxb⟩, fun h ⟨x, hxa, hxb⟩ => h x hxa hxb⟩

end MultiCluster.Network
