import MultiCluster.Ledger.Record
import MultiCluster.Proofs.Net.Overlap

/-!
# Sound records

A record is sound if every block lies in the supernet and any two entries are apart: they belong to different
clusters, and no address belongs to a block of each. Validation accepts exactly the sound records, and a record stays
sound if a cluster gets a block that lies in the supernet and shares no address with a block of another cluster.

Main statements: `Record.validate_eq_ok_iff` and `Record.IsSound.assign`.
-/

namespace MultiCluster

/-- Two entries are apart if they belong to different clusters and no address belongs to a block of each. -/
structure Entry.Apart (e e' : Entry) : Prop where
  cluster_ne : e.cluster ≠ e'.cluster
  disjoint : ∀ b ∈ e.blocks, ∀ b' ∈ e'.blocks, ∀ a, a ∈ b → a ∉ b'

private theorem Entry.Apart.symm {e e' : Entry} (h : e.Apart e') : e'.Apart e :=
  ⟨h.cluster_ne.symm, fun b' hb' b hb a ha' ha => h.disjoint b hb b' hb' a ha ha'⟩

namespace Record

/-- What a broker domain relies on: all blocks lie in the supernet, and the entries are apart from each other. -/
structure IsSound (r : Record) : Prop where
  inside : ∀ e ∈ r.entries, ∀ b ∈ e.blocks, r.supernet.contains b = true
  apart : r.entries.Pairwise Entry.Apart

/-! ### Validation -/

private theorem collision?_eq_none_iff {es : List Entry} {block : Network} :
    collision? es block = none ↔ ∀ e ∈ es, ∀ b ∈ e.blocks, ∀ a, a ∈ b → a ∉ block := by
  simp [collision?, Network.overlaps_eq_false_iff]

private theorem checkBlock_eq_ok_iff {supernet : Network} {earlier : List Entry} {block : Network} :
    checkBlock supernet earlier block = .ok () ↔
      supernet.contains block = true ∧ ∀ e ∈ earlier, ∀ b ∈ e.blocks, ∀ a, a ∈ b → a ∉ block := by
  rw [← collision?_eq_none_iff]
  unfold checkBlock
  split
  · simp_all
  · cases collision? earlier block <;> simp_all

private theorem checkBlocks_eq_ok_iff {supernet : Network} {earlier : List Entry} {blocks : List Network} :
    checkBlocks supernet earlier blocks = .ok () ↔
      ∀ block ∈ blocks, supernet.contains block = true ∧
        ∀ e ∈ earlier, ∀ b ∈ e.blocks, ∀ a, a ∈ b → a ∉ block := by
  induction blocks with
  | nil => simp [checkBlocks]
  | cons block blocks ih =>
    rw [List.forall_mem_cons, ← checkBlock_eq_ok_iff, ← ih, checkBlocks]
    cases checkBlock supernet earlier block <;> simp [bind, Except.bind]

private theorem checkEntries_cons_eq_ok_iff {supernet : Network} {earlier es : List Entry} {e : Entry} :
    checkEntries supernet earlier (e :: es) = .ok () ↔
      (∀ p ∈ earlier, p.cluster ≠ e.cluster) ∧ checkBlocks supernet earlier e.blocks = .ok () ∧
        checkEntries supernet (earlier ++ [e]) es = .ok () := by
  rw [checkEntries]
  by_cases hdup : (earlier.any fun p => p.cluster == e.cluster) = true
  · have hmem : ¬ ∀ p ∈ earlier, p.cluster ≠ e.cluster := by simpa using hdup
    simp [hdup, hmem, bind, Except.bind, throw, throwThe, MonadExceptOf.throw]
  · have hne : ∀ p ∈ earlier, p.cluster ≠ e.cluster := by simpa using hdup
    simp only [hdup]
    cases checkBlocks supernet earlier e.blocks with
    | error f => simp [bind, Except.bind]
    | ok u => simpa [bind, Except.bind, pure, Except.pure] using fun _ => hne

/-- Entries pass the check behind some earlier ones exactly if their blocks lie in the supernet and they are apart
from the earlier ones and from each other. -/
private theorem checkEntries_eq_ok_iff {supernet : Network} {earlier es : List Entry} :
    checkEntries supernet earlier es = .ok () ↔
      (∀ e ∈ es, ∀ b ∈ e.blocks, supernet.contains b = true) ∧ es.Pairwise Entry.Apart ∧
        ∀ p ∈ earlier, ∀ e ∈ es, p.Apart e := by
  induction es generalizing earlier with
  | nil => simp [checkEntries]
  | cons e es ih =>
    rw [checkEntries_cons_eq_ok_iff, checkBlocks_eq_ok_iff, ih, List.pairwise_cons]
    simp only [List.mem_append, List.mem_cons, List.not_mem_nil, or_false]
    constructor
    · rintro ⟨hne, hblocks, hin, hap, hear⟩
      refine ⟨?_, ⟨fun e' he' => hear e (.inr rfl) e' he', hap⟩, ?_⟩
      · rintro e' (rfl | he')
        · exact fun b hb => (hblocks b hb).1
        · exact hin e' he'
      · rintro p hp e' (rfl | he')
        · exact ⟨hne p hp, fun b hb b' hb' => (hblocks b' hb').2 p hp b hb⟩
        · exact hear p (.inl hp) e' he'
    · rintro ⟨hin, ⟨hfirst, hap⟩, hear⟩
      refine ⟨fun p hp => (hear p hp e (.inl rfl)).cluster_ne, ?_, fun e' he' => hin e' (.inr he'), hap, ?_⟩
      · exact fun b hb => ⟨hin e (.inl rfl) b hb, fun p hp b' hb' => (hear p hp e (.inl rfl)).disjoint b' hb' b hb⟩
      · rintro p (hp | rfl) e' he'
        · exact hear p hp e' (.inr he')
        · exact hfirst e' he'

/-- Validation accepts exactly the sound records. -/
theorem validate_eq_ok_iff {r : Record} : r.validate = .ok () ↔ r.IsSound := by
  rw [validate, checkEntries_eq_ok_iff]
  constructor
  · exact fun ⟨hin, hap, _⟩ => ⟨hin, hap⟩
  · exact fun h => ⟨h.inside, h.apart, by simp⟩

theorem IsSound.disjoint {r : Record} (h : r.IsSound) {e e' : Entry} (he : e ∈ r.entries) (he' : e' ∈ r.entries)
    (hne : e.cluster ≠ e'.cluster) : ∀ b ∈ e.blocks, ∀ b' ∈ e'.blocks, ∀ a, a ∈ b → a ∉ b' := by
  obtain ⟨i, hi, rfl⟩ := List.mem_iff_getElem.mp he
  obtain ⟨j, hj, rfl⟩ := List.mem_iff_getElem.mp he'
  have hap := List.pairwise_iff_getElem.mp h.apart
  rcases Nat.lt_trichotomy i j with hij | rfl | hij
  · exact (hap i j hi hj hij).disjoint
  · exact absurd rfl hne
  · exact (hap j i hj hi hij).symm.disjoint

theorem IsSound.nodup {r : Record} (h : r.IsSound) : (r.entries.map Entry.cluster).Nodup :=
  List.pairwise_map.mpr (h.apart.imp fun hap => hap.cluster_ne)

/-! ### Assignments -/

/-- An assignment replaces the blocks of the first entry that is the cluster's, or else appends an entry. -/
theorem assignEntry_cases (cluster : String) (block : Network) (plugin : Option String) (es : List Entry) :
    (∃ before e after, es = before ++ e :: after ∧ e.cluster = cluster ∧ (∀ p ∈ before, p.cluster ≠ cluster) ∧
      assignEntry cluster block plugin es =
        before ++ { e with plugin := plugin <|> e.plugin, blocks := [block] } :: after) ∨
    ((∀ p ∈ es, p.cluster ≠ cluster) ∧
      assignEntry cluster block plugin es = es ++ [{ cluster, plugin, blocks := [block] }]) := by
  induction es with
  | nil => exact .inr ⟨by simp, rfl⟩
  | cons e es ih =>
    by_cases he : e.cluster = cluster
    · exact .inl ⟨[], e, es, rfl, he, by simp, by simp [assignEntry, he]⟩
    · rcases ih with ⟨before, e', after, rfl, he', hbefore, heq⟩ | ⟨hnone, heq⟩
      · refine .inl ⟨e :: before, e', after, rfl, he', ?_, by simp [assignEntry, he, heq]⟩
        intro p hp
        rcases List.mem_cons.mp hp with rfl | hp
        · exact he
        · exact hbefore p hp
      · refine .inr ⟨?_, by simp [assignEntry, he, heq]⟩
        intro p hp
        rcases List.mem_cons.mp hp with rfl | hp
        · exact he
        · exact hnone p hp

/-- In a sound record the entries beside the assigned one are those of the other clusters. -/
private theorem IsSound.assignEntry_split {r : Record} (h : r.IsSound) (cluster : String) (block : Network)
    (plugin : Option String) :
    ∃ before new after, assignEntry cluster block plugin r.entries = before ++ new :: after ∧
      new.cluster = cluster ∧ new.blocks = [block] ∧ (before ++ after).Sublist r.entries ∧
      ∀ p ∈ before ++ after, p.cluster ≠ cluster := by
  rcases assignEntry_cases cluster block plugin r.entries with
    ⟨before, e, after, hes, rfl, hbefore, heq⟩ | ⟨hnone, heq⟩
  · have hap := h.apart
    rw [hes, List.pairwise_append, List.pairwise_cons] at hap
    refine ⟨before, _, after, heq, rfl, rfl, ?_, ?_⟩
    · rw [hes]
      exact (List.Sublist.refl before).append (List.sublist_cons_self e after)
    · intro p hp
      -- behind the first entry of the cluster there is no other one, as no cluster occurs twice
      rcases List.mem_append.mp hp with hp | hp
      · exact hbefore p hp
      · exact (hap.2.1.1 p hp).cluster_ne.symm
  · exact ⟨r.entries, _, [], heq, rfl, rfl, by simp, by simpa using hnone⟩

/-- A sound record stays sound if a cluster gets a block that lies in the supernet and shares no address with a block
of another cluster. -/
theorem IsSound.assign {r : Record} (h : r.IsSound) {cluster : String} {block : Network}
    (hin : r.supernet.contains block = true)
    (hfree : ∀ e ∈ r.entries, e.cluster ≠ cluster → ∀ b ∈ e.blocks, ∀ a, a ∈ b → a ∉ block)
    (plugin : Option String) : (r.assign cluster block plugin).IsSound := by
  obtain ⟨before, new, after, heq, hcluster, hblocks, hsub, hothers⟩ := h.assignEntry_split cluster block plugin
  have hentries : (r.assign cluster block plugin).entries = before ++ new :: after := heq
  constructor
  · intro e he
    rw [hentries, List.mem_append, List.mem_cons] at he
    rcases he with he | rfl | he
    · exact h.inside e (hsub.subset (List.mem_append_left _ he))
    · intro b hb
      rw [hblocks, List.mem_singleton] at hb
      rw [hb]
      exact hin
    · exact h.inside e (hsub.subset (List.mem_append_right _ he))
  -- being apart is symmetric, so the new entry may as well be the first one
  · rw [hentries, List.pairwise_middle fun hap => hap.symm, List.pairwise_cons]
    refine ⟨fun e he => ⟨?_, ?_⟩, h.apart.sublist hsub⟩
    · rw [hcluster]
      exact (hothers e he).symm
    · intro b hb b' hb' a ha ha'
      rw [hblocks, List.mem_singleton] at hb
      rw [hb] at ha
      exact hfree e (hsub.subset he) (hothers e he) b' hb' a ha' ha

end Record

end MultiCluster
