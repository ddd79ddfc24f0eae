import MultiCluster.Proofs.Ledger.Soundness

/-!
# What validation finds

Validation goes through the entries once and compares each of them with the ones before it. It accepts a record exactly
if no cluster occurs twice, no block has an address outside of the supernet, and no address belongs to blocks of two
entries; blocks of one entry may share addresses. If it fails, it names something that is wrong with the record.

Main statement: `Record.validation_is_exact`.
-/

namespace MultiCluster

namespace Record

/-- What is wrong with a record, and the failure that says so. The list `[e, e']` is a sublist of the entries if `e'`
stands behind `e` among them. -/
inductive Violation (r : Record) : Failure → Prop
  | repeated {e e' : Entry} (h : [e, e'].Sublist r.entries) (hc : e.cluster = e'.cluster) :
      Violation r (.malformed "clusterinfo" ("cluster " ++ e'.cluster ++ " appears more than once"))
  | escaping {e : Entry} {b : Network} {a : Nat} (he : e ∈ r.entries) (hb : b ∈ e.blocks) (ha : a ∈ b)
      (hout : a ∉ r.supernet) : Violation r (.outOfBounds b.toText r.supernet.toText)
  | shared {e e' : Entry} {b b' : Network} {a : Nat} (h : [e, e'].Sublist r.entries) (hb : b ∈ e.blocks)
      (hb' : b' ∈ e'.blocks) (ha : a ∈ b) (ha' : a ∈ b') :
      Violation r (.overlap b'.toText b.toText e.cluster)

/-! ### Failed checks -/

private theorem of_collision?_eq_some {es : List Entry} {block b : Network} {owner : String}
    (h : collision? es block = some (owner, b)) :
    ∃ e ∈ es, b ∈ e.blocks ∧ e.cluster = owner ∧ b.overlaps block = true := by
  obtain ⟨e, he, hfound⟩ := List.exists_of_findSome?_eq_some h
  obtain ⟨b', hfind, heq⟩ := Option.map_eq_some_iff.mp hfound
  cases heq
  have hoverlap := List.find?_some hfind
  exact ⟨e, he, List.mem_of_find?_eq_some hfind, rfl, hoverlap⟩

private theorem checkBlock_eq_error_cases {supernet : Network} {earlier : List Entry} {block : Network} {f : Failure}
    (h : checkBlock supernet earlier block = .error f) :
    (supernet.contains block = false ∧ f = .outOfBounds block.toText supernet.toText) ∨
    ∃ e ∈ earlier, ∃ b ∈ e.blocks, b.overlaps block = true ∧ f = .overlap block.toText b.toText e.cluster := by
  unfold checkBlock at h
  split at h
  · rename_i hout
    cases h
    exact .inl ⟨by simpa using hout, rfl⟩
  · split at h
    · rename_i owner b hcollision
      cases h
      obtain ⟨e, he, hb, rfl, hoverlap⟩ := of_collision?_eq_some hcollision
      exact .inr ⟨e, he, b, hb, hoverlap, rfl⟩
    · cases h

private theorem checkBlocks_eq_error_cases {supernet : Network} {earlier : List Entry} {blocks : List Network}
    {f : Failure} (h : checkBlocks supernet earlier blocks = .error f) :
    ∃ block ∈ blocks, checkBlock supernet earlier block = .error f := by
  induction blocks with
  | nil => cases h
  | cons block blocks ih =>
    rcases bind_eq_error_cases h with hfirst | ⟨-, -, hrest⟩
    · exact ⟨block, by simp, hfirst⟩
    · obtain ⟨b, hb, hcheck⟩ := ih hrest
      exact ⟨b, List.mem_cons_of_mem _ hb, hcheck⟩

private theorem checkEntries_eq_error_cases {supernet : Network} {earlier es : List Entry} {e : Entry} {f : Failure}
    (h : checkEntries supernet earlier (e :: es) = .error f) :
    (∃ p ∈ earlier, p.cluster = e.cluster ∧
      f = .malformed "clusterinfo" ("cluster " ++ e.cluster ++ " appears more than once")) ∨
    checkBlocks supernet earlier e.blocks = .error f ∨ checkEntries supernet (earlier ++ [e]) es = .error f := by
  rw [checkEntries] at h
  split at h
  · rename_i hany
    cases h
    obtain ⟨p, hp, hcluster⟩ := List.any_eq_true.mp hany
    exact .inl ⟨p, hp, beq_iff_eq.mp hcluster, rfl⟩
  · rcases bind_eq_error_cases h with hblocks | ⟨-, -, hrest⟩
    · exact .inr (.inl hblocks)
    · exact .inr (.inr hrest)

private theorem pair_sublist {earlier es : List Entry} {p e : Entry} (hp : p ∈ earlier) :
    [p, e].Sublist (earlier ++ e :: es) :=
  (List.singleton_sublist.mpr hp).append (List.singleton_sublist.mpr List.mem_cons_self)

variable {r : Record} {f : Failure}

/-- A check that fails at one of the entries, after it has passed the earlier ones, has found a violation. -/
private theorem violation_of_checkEntries {earlier es : List Entry} (hentries : r.entries = earlier ++ es)
    (h : checkEntries r.supernet earlier es = .error f) : r.Violation f := by
  -- for all entries that have passed so far, since each step adds one to them
  induction es generalizing earlier with
  | nil => cases h
  | cons e es ih =>
    have hbehind : ∀ p ∈ earlier, [p, e].Sublist r.entries := by
      intro p hp
      rw [hentries]
      exact pair_sublist hp
    rcases checkEntries_eq_error_cases h with ⟨p, hp, hcluster, rfl⟩ | hblocks | hrest
    · exact .repeated (hbehind p hp) hcluster
    · obtain ⟨block, hblock, hcheck⟩ := checkBlocks_eq_error_cases hblocks
      rcases checkBlock_eq_error_cases hcheck with ⟨hout, rfl⟩ | ⟨p, hp, b, hb, hoverlap, rfl⟩
      · have hescapes : ¬ ∀ a, a ∈ block → a ∈ r.supernet := by
          rw [← Network.contains_iff, hout]
          exact Bool.false_ne_true
        obtain ⟨a, ha, hsupernet⟩ : ∃ a, a ∈ block ∧ a ∉ r.supernet := by simpa using hescapes
        exact .escaping (hentries ▸ List.mem_append_right _ List.mem_cons_self) hblock ha hsupernet
      · obtain ⟨a, ha, ha'⟩ := Network.overlaps_iff.mp hoverlap
        exact .shared (hbehind p hp) hb hblock ha ha'
    · exact ih (by rw [hentries, List.append_assoc]; rfl) hrest

private theorem violation_of_validate (h : r.validate = .error f) : r.Violation f := by
  have hall : r.entries = [] ++ r.entries := rfl
  exact violation_of_checkEntries hall h

/-! ### Sound records, by their addresses -/

private theorem isSound_iff : r.IsSound ↔
    (r.entries.map Entry.cluster).Nodup ∧
    (∀ e ∈ r.entries, ∀ b ∈ e.blocks, ∀ a, a ∈ b → a ∈ r.supernet) ∧
    r.entries.Pairwise fun e e' => ∀ b ∈ e.blocks, ∀ b' ∈ e'.blocks, ∀ a, a ∈ b → a ∉ b' := by
  constructor
  · intro h
    exact ⟨h.nodup, fun e he b hb => Network.contains_iff.mp (h.inside e he b hb),
      h.apart.imp fun hap => hap.disjoint⟩
  · rintro ⟨hnodup, hinside, hdisjoint⟩
    refine ⟨fun e he b hb => Network.contains_iff.mpr (hinside e he b hb), ?_⟩
    exact (List.pairwise_map.mp hnodup).imp₂ (fun _ _ hne hd => ⟨hne, hd⟩) hdisjoint

/-- Validation accepts a record exactly if clusters are distinct, addresses lie in the supernet, and entries share none;
a failure names something that violates this. -/
theorem validation_is_exact (r : Record) :
    (r.validate = .ok () ↔
      (r.entries.map Entry.cluster).Nodup ∧
      (∀ e ∈ r.entries, ∀ b ∈ e.blocks, ∀ a, a ∈ b → a ∈ r.supernet) ∧
      r.entries.Pairwise fun e e' => ∀ b ∈ e.blocks, ∀ b' ∈ e'.blocks, ∀ a, a ∈ b → a ∉ b') ∧
    ∀ f, r.validate = .error f → r.Violation f := by
  refine ⟨?_, fun f h => violation_of_validate h⟩
  rw [validate_eq_ok_iff, isSound_iff]

end Record

end MultiCluster
