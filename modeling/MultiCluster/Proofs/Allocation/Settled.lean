import MultiCluster.Proofs.Allocation.Claim
import MultiCluster.Proofs.Allocation.CommitLog
import MultiCluster.Proofs.Ledger.Soundness

/-!
# Settled requests

A request is settled under a record if there is nothing left to decide: global addressing is not in use, or the block
that the request gets is the one that its cluster holds. Assigning the block that a request gets settles it. And it
stays settled while other clusters get blocks, because these are free, so that none of them meets the held block. A
request that names its block passes the check again for this reason.

Main statements: `Settled.of_amended` and `Settled.amended`.
-/

namespace MultiCluster

namespace Record

variable {r : Record} {cluster other : String} {b b' : Network}

/-! ### Assignments -/

private theorem mem_entries_assign {plugin : Option String} {e : Entry} (h : e ∈ (r.assign cluster b plugin).entries) :
    e ∈ r.entries ∨ (e.cluster = cluster ∧ e.blocks = [b]) := by
  rcases assignEntry_cases cluster b plugin r.entries with
    ⟨before, e', after, hentries, hcluster, -, hassign⟩ | ⟨-, hassign⟩
  · rw [hentries]
    rw [assign, hassign] at h
    rcases List.mem_append.mp h with h | h
    · exact .inl (List.mem_append_left _ h)
    · rcases List.mem_cons.mp h with rfl | h
      · exact .inr ⟨hcluster, rfl⟩
      · exact .inl (List.mem_append_right _ (List.mem_cons_of_mem _ h))
  · rw [assign, hassign] at h
    rcases List.mem_append.mp h with h | h
    · exact .inl h
    · obtain rfl := List.mem_singleton.mp h
      exact .inr ⟨rfl, rfl⟩

private theorem exists_entry_of_primary? (h : r.primary? cluster = some b) :
    ∃ e ∈ r.entries, e.cluster = cluster ∧ b ∈ e.blocks := by
  obtain ⟨e, hfind, hprimary⟩ := Option.bind_eq_some_iff.mp h
  refine ⟨e, List.mem_of_find?_eq_some hfind, ?_, List.mem_of_mem_head? hprimary⟩
  simpa using List.find?_some hfind

/-- A block that is free for a cluster stays free for it when it is assigned to it. -/
private theorem IsFree.assign_self {plugin : Option String} (h : r.IsFree cluster b) :
    (r.assign cluster b' plugin).IsFree cluster b := by
  intro e he hne
  rcases mem_entries_assign he with he | ⟨hcluster, -⟩
  · exact h e he hne
  · exact absurd hcluster hne

/-- A free block that a cluster holds stays free for it when another cluster gets a block that is free. -/
private theorem IsFree.assign_other {plugin : Option String} (h : r.IsFree cluster b)
    (hheld : r.primary? cluster = some b)
    (hne : other ≠ cluster) (hother : r.IsFree other b') : (r.assign other b' plugin).IsFree cluster b := by
  intro e he hcluster b'' hb''
  rcases mem_entries_assign he with he | ⟨-, hblocks⟩
  · exact h e he hcluster b'' hb''
  · rw [hblocks, List.mem_singleton] at hb''
    subst hb''
    -- the new block avoids the entry with the held one
    obtain ⟨e₀, he₀, rfl, hb₀⟩ := exists_entry_of_primary? hheld
    intro a ha hab
    exact hother e₀ he₀ hne.symm b hb₀ a hab ha

private theorem primary?_assign_of_ne (h : other ≠ cluster) (block : Network) (plugin : Option String) :
    (r.assign cluster block plugin).primary? other = r.primary? other := by
  rw [primary?, entryFor?_assign_of_ne h, primary?]

/-! ### Held blocks -/

/-- A cluster gets the block that it holds, unless it names another one, or one that is not its own, or asks for a size
that no block has. -/
private theorem allocate_of_held {q : AllocationRequest} (hheld : r.primary? q.cluster = some b)
    (hsize : q.explicitCidr = none → ∃ size, BlockSize.ofAddresses (q.blockSize.getD r.defaultBlockSize) = .ok size)
    (hclaim : ∀ cidr, q.explicitCidr = some cidr → r.claim q.cluster cidr = .ok b) : r.allocate q = .ok b := by
  unfold allocate
  cases hcidr : q.explicitCidr with
  | some cidr => exact hclaim cidr hcidr
  | none =>
    obtain ⟨size, hsize⟩ := hsize hcidr
    exact draw_of_held hsize hheld

private theorem size_of_draw {q : AllocationRequest} (h : r.draw q = .ok b) :
    ∃ size, BlockSize.ofAddresses (q.blockSize.getD r.defaultBlockSize) = .ok size := by
  obtain ⟨size, hsize, -⟩ := bind_eq_ok_cases h
  exact ⟨size, hsize⟩

/-- A cluster that has got a block gets it again. -/
private theorem allocate_assign_self {q : AllocationRequest} (h : r.allocate q = .ok b) (plugin : Option String) :
    (r.assign q.cluster b plugin).allocate q = .ok b := by
  refine allocate_of_held (primary?_assign ..) ?_ ?_
  · intro hauto
    have hdraw : r.draw q = .ok b := by
      rw [← h, allocate, hauto]
    exact size_of_draw (r := r) hdraw
  · intro cidr hcidr
    rw [allocate, hcidr] at h
    obtain ⟨hparse, hin, hfree⟩ := claim_eq_ok_iff.mp h
    exact claim_eq_ok_iff.mpr ⟨hparse, hin, hfree.assign_self⟩

/-- A cluster gets the block that it holds still after another cluster has got a free one. -/
private theorem allocate_assign_other {q : AllocationRequest} (h : r.allocate q = .ok b)
    (hheld : r.primary? q.cluster = some b) (hne : other ≠ q.cluster) (hother : r.IsFree other b')
    (plugin : Option String) : (r.assign other b' plugin).allocate q = .ok b := by
  refine allocate_of_held ?_ ?_ ?_
  · rw [primary?_assign_of_ne hne.symm]
    exact hheld
  · intro hauto
    have hdraw : r.draw q = .ok b := by
      rw [← h, allocate, hauto]
    exact size_of_draw (r := r) hdraw
  · intro cidr hcidr
    rw [allocate, hcidr] at h
    obtain ⟨hparse, hin, hfree⟩ := claim_eq_ok_iff.mp h
    exact claim_eq_ok_iff.mpr ⟨hparse, hin, hfree.assign_other hheld hne hother⟩

end Record

namespace Allocator

variable {q q' : AllocationRequest} {r : Record} {b : Network} {g : Option Network}

/-! ### Settled requests -/

/-- There is nothing left to decide on a request: it gets no block, as global addressing is not in use, or the block
that its cluster holds. -/
def Settled (q : AllocationRequest) (r : Record) (g : Option Network) : Prop :=
  ruling q r = .finish (.ok g)

theorem settled_iff : Settled q r g ↔ (r.enabled = false ∧ g = none) ∨
    ∃ b, g = some b ∧ r.enabled = true ∧ r.allocate q = .ok b ∧ r.primary? q.cluster = some b := by
  constructor
  · intro h
    rcases ruling_cases q r with ⟨he, hr⟩ | ⟨f, -, -, hr⟩ | ⟨b, he, hb, hp, hr⟩ | ⟨b, -, -, -, hr⟩
    all_goals rw [Settled, hr] at h; cases h
    · exact .inl ⟨he, rfl⟩
    · exact .inr ⟨b, rfl, he, hb, hp⟩
  · rintro (⟨he, rfl⟩ | ⟨b, rfl, he, hb, hp⟩)
    · simp [Settled, ruling, he]
    · simp [Settled, ruling, he, hb, hp]

/-- Assigning the block that a request gets settles it. -/
theorem Settled.of_amended (h : ruling q r = .assign b) : Settled q (amended q r b) (some b) := by
  obtain ⟨he, hb, -⟩ := ruling_eq_assign h
  exact settled_iff.mpr (.inr ⟨b, rfl, he, Record.allocate_assign_self hb q.plugin, Record.primary?_assign ..⟩)

/-- A request stays settled when another cluster gets a block. -/
theorem Settled.amended (h : Settled q r g) (hne : q'.cluster ≠ q.cluster) (hassign : ruling q' r = .assign b) :
    Settled q (Allocator.amended q' r b) g := by
  obtain ⟨he', hb', hheld'⟩ := ruling_eq_assign hassign
  rcases settled_iff.mp h with ⟨he, -⟩ | ⟨held, rfl, he, hb, hheld⟩
  · rw [he] at he'
    cases he'
  · have hfree := (Record.allocate_free hb' hheld').2
    refine settled_iff.mpr (.inr ⟨held, rfl, he, Record.allocate_assign_other hb hheld hne hfree q'.plugin, ?_⟩)
    rw [Allocator.amended, Record.primary?_assign_of_ne hne.symm]
    exact hheld

end Allocator

end MultiCluster
