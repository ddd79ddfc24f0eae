import MultiCluster.Proofs.Allocation.Machine

/-!
# A cluster without a block gets the lowest free one

The size of a request is rounded up to a power of two. If there is no such size, or if it exceeds the supernet, the
request is malformed; else the cluster gets the lowest vacant run of that size, and space is exhausted exactly if no
run is vacant. Main statement: `Record.allocate_lowest`.
-/

namespace MultiCluster

namespace Record

/-- Automatic allocation gives a cluster the lowest vacant run of the size that it asks for, or says why there is none;
with machine words the outcome is the same. -/
theorem allocate_lowest (r : Record) (q : AllocationRequest) (hauto : q.explicitCidr = none)
    (hnew : r.primary? q.cluster = none) :
    let n := (q.blockSize.getD r.defaultBlockSize).toNat
    ((n = 0 ∨ addressLimit < n) → ∃ message, r.allocate q = .error (BlockSize.malformed message)) ∧
    (∀ k, n ≤ Nat.pow 2 k → Nat.pow 2 k < 2 * n → n ≤ addressLimit →
      (r.supernet.size < Nat.pow 2 k → ∃ message, r.allocate q = .error (BlockSize.malformed message)) ∧
      (Nat.pow 2 k ≤ r.supernet.size →
        ((∃ start, r.IsVacant q.cluster (Nat.pow 2 k) start) →
          ∃ b, r.allocate q = .ok b ∧ b.size = Nat.pow 2 k ∧ b.isTruncated = true ∧
            r.IsVacant q.cluster (Nat.pow 2 k) b.first ∧
            ∀ start, r.IsVacant q.cluster (Nat.pow 2 k) start → b.first ≤ start) ∧
        ((∀ start, ¬ r.IsVacant q.cluster (Nat.pow 2 k) start) →
          r.allocate q = .error (.exhausted (Nat.pow 2 k) r.supernet.toText)))) ∧
    (∀ context message, r.allocate q ≠ .error (.internal context message)) ∧
    (Machine.draw r q).run = some (r.allocate q) := by
  intro n
  have halloc : r.allocate q = r.draw q := by rw [allocate, hauto]
  rw [halloc]
  rcases BlockSize.ofAddresses_cases (q.blockSize.getD r.defaultBlockSize) with
    ⟨hn, message, hsize⟩ | ⟨hpos, hle, size, hsize⟩
  · have hdraw := draw_of_error hsize
    refine ⟨fun _ => ⟨message, hdraw⟩, ?_, ?_, Machine.draw_eq r q⟩
    · intro k hk hk' hle
      omega
    · rw [hdraw]
      simp [BlockSize.malformed]
  · refine ⟨fun h => by omega, ?_, ?_, Machine.draw_eq r q⟩
    · intro k hk hk' _
      rw [← BlockSize.addresses_eq hsize hk hk']
      refine ⟨fun hlt => draw_of_size_lt hsize hnew hlt, fun hfits => ?_⟩
      rcases draw_of_fits hsize hnew hfits with ⟨b, hb⟩ | ⟨hnone, hvacant⟩
      · exact ⟨fun _ => ⟨b, hb⟩, fun h => absurd hb.2.2.2.1 (h b.first)⟩
      · exact ⟨fun ⟨start, h⟩ => absurd h (hvacant start), fun _ => hnone⟩
    · intro context message
      by_cases hlt : r.supernet.size < size.addresses
      · obtain ⟨message', hdraw⟩ := draw_of_size_lt hsize hnew hlt
        rw [hdraw]
        simp [BlockSize.malformed]
      · rcases draw_of_fits hsize hnew (Nat.not_lt.mp hlt) with ⟨b, hb, -⟩ | ⟨hnone, -⟩
        · rw [hb]
          simp
        · rw [hnone]
          simp

/-- Behind the block of another cluster, an eighth of the address space is the lowest block of its size. -/
theorem allocate_lowest_behind_block :
    let r : Record := {
      enabled := true
      supernet := { address := 5, length := 0 }
      defaultBlockSize := 500000000
      entries := [{ cluster := "east", plugin := none, blocks := [{ address := 7, length := 32 }] }] }
    ∃ b, r.allocate { cluster := "west" } = .ok b ∧ b.first = 536870912 ∧ b.size = 536870912 := by
  intro r
  have hlowest := allocate_lowest r { cluster := "west" } rfl rfl
  have hvacant : r.IsVacant "west" (Nat.pow 2 29) 536870912 := by
    refine ⟨by decide, ?_, ?_⟩
    · intro a ha ha'
      have hfirst : r.supernet.first = 0 := by decide
      have hstop : 536870912 + Nat.pow 2 29 ≤ r.supernet.stop := by decide
      exact Network.mem_iff.mpr ⟨by omega, by omega⟩
    · intro e he _ b hb a ha _
      obtain rfl := List.mem_singleton.mp he
      obtain rfl := List.mem_singleton.mp hb
      exact fun hab => absurd (Nat.lt_of_le_of_lt ha hab.2) (by decide)
  obtain ⟨b, hb, hbsize, -, hbvacant, hleast⟩ :=
    ((hlowest.2.1 29 (by decide) (by decide) (by decide)).2 (by decide)).1 ⟨_, hvacant⟩
  refine ⟨b, hb, ?_, hbsize⟩
  have hle := hleast _ hvacant
  obtain ⟨k, hk⟩ := hbvacant.aligned
  -- the first run of this size has the address of the other cluster's block
  have hne : b.first ≠ 0 := by
    intro h0
    rw [h0] at hbvacant
    exact hbvacant.free _ (List.mem_singleton.mpr rfl) (by decide) _ (List.mem_singleton.mpr rfl) 7
      (by decide) (by decide) (by decide)
  simp only [Nat.pow_eq] at hk
  omega

end Record

end MultiCluster
