import MultiCluster.Proofs.Allocation.Vacancy
import MultiCluster.Proofs.Net.Text

/-!
# A named block is given or refused for one reason

A claim names its block by a text. The block is given as it is named if all its addresses are in the supernet and no
block of another cluster has any of them. What the cluster itself holds does not matter. Else the claim fails for the
first of three reasons: the text names no block, the block leaves the supernet, or it meets a block of another cluster,
and then the failure says which one and whose.

Main statements: `Record.claims_are_decided`, and `Record.allocate_free` on a block that a cluster does not hold yet.
-/

namespace MultiCluster

/-! ### Blocks by their text -/

private theorem Network.isTruncated_iff {n : Network} : n.isTruncated = true ↔ n.first = n.address := by
  rw [isTruncated, beq_iff_eq]
  constructor
  · exact fun h => (congrArg address h).symm
  · intro h
    obtain ⟨address, length, haddress, hlength⟩ := n
    simp only [truncate, h]

/-- The text names the block `n`, blanks at its ends aside: a network that begins at the address it is named by. -/
def NamesBlock (cidr : String) (n : Network) : Prop :=
  ∃ text, Text.TrimsTo cidr text ∧ Network.Spells text n ∧ n.first = n.address

private theorem namesBlock_iff {cidr : String} {n : Network} :
    NamesBlock cidr n ↔ Network.ofText? (Text.trim cidr) = some n ∧ n.isTruncated = true := by
  rw [Network.ofText?_eq_some_iff, Network.isTruncated_iff]
  constructor
  · rintro ⟨text, htrim, hspells, hfirst⟩
    rw [Text.trim_eq_iff.mpr htrim]
    exact ⟨hspells, hfirst⟩
  · exact fun ⟨hspells, hfirst⟩ => ⟨_, Text.trim_eq_iff.mp rfl, hspells, hfirst⟩

theorem parseNetwork_cases (field cidr : String) :
    (∃ net, Network.ofText? (Text.trim cidr) = some net ∧ net.isTruncated = true ∧
      parseNetwork field cidr = .ok net) ∨
    (∀ net, Network.ofText? (Text.trim cidr) = some net → net.isTruncated = false) ∧
      ∃ message, parseNetwork field cidr = .error (.malformed field message) := by
  unfold parseNetwork
  cases Network.ofText? (Text.trim cidr) with
  | none => exact .inr ⟨fun net h => (nomatch h), _, rfl⟩
  | some net =>
    cases htruncated : net.isTruncated with
    | true => exact .inl ⟨net, rfl, htruncated, if_pos htruncated⟩
    | false =>
      refine .inr ⟨fun net' h => ?_, _, if_neg (Bool.eq_false_iff.mp htruncated)⟩
      cases h
      exact htruncated

private theorem parseNetwork_of_namesBlock {cidr : String} {n : Network} (h : NamesBlock cidr n) (field : String) :
    parseNetwork field cidr = .ok n := by
  obtain ⟨hparsed, htruncated⟩ := namesBlock_iff.mp h
  rcases parseNetwork_cases field cidr with ⟨net, hnet, -, hparse⟩ | ⟨hbad, -⟩
  · obtain rfl : net = n := Option.some.inj (hnet.symm.trans hparsed)
    exact hparse
  · rw [hbad n hparsed] at htruncated
    cases htruncated

private theorem parseNetwork_of_no_block {cidr : String} (h : ∀ n, ¬ NamesBlock cidr n) (field : String) :
    ∃ message, parseNetwork field cidr = .error (.malformed field message) := by
  rcases parseNetwork_cases field cidr with ⟨net, hnet, htruncated, -⟩ | ⟨-, hmalformed⟩
  · exact absurd (namesBlock_iff.mpr ⟨hnet, htruncated⟩) (h net)
  · exact hmalformed

namespace Record

/-! ### The first block that is met -/

/-- In the order of the entries, `b` is the first block of a cluster other than `cluster` that has an address of `n`,
and it belongs to `owner`. -/
def FirstMet (r : Record) (cluster : String) (n : Network) (owner : String) (b : Network) : Prop :=
  ∃ before e after bs bs', r.entries = before ++ e :: after ∧ e.blocks = bs ++ b :: bs' ∧
    e.cluster = owner ∧ owner ≠ cluster ∧ (∃ a, a ∈ b ∧ a ∈ n) ∧
    (∀ p ∈ before, p.cluster ≠ cluster → ∀ c ∈ p.blocks, ∀ a, a ∈ c → a ∉ n) ∧
    ∀ c ∈ bs, ∀ a, a ∈ c → a ∉ n

variable {r : Record} {cluster cidr owner : String} {n b : Network}

private theorem find?_blocks_eq_none_iff {bs : List Network} :
    (bs.find? fun b => b.overlaps n) = none ↔ ∀ b ∈ bs, ∀ a, a ∈ b → a ∉ n := by
  simp [Network.overlaps_eq_false_iff]

private theorem find?_blocksExcluding_eq_none_iff :
    ((r.blocksExcluding cluster).find? fun p => p.2.overlaps n) = none ↔ r.IsFree cluster n := by
  rw [List.find?_eq_none]
  constructor
  · intro h e he hne b hb
    have hno := h (e.cluster, b) (mem_blocksExcluding.mpr ⟨e, he, hne, b, hb, rfl⟩)
    exact Network.overlaps_eq_false_iff.mp (Bool.eq_false_iff.mpr hno)
  · intro h p hp
    obtain ⟨e, he, hne, b, hb, rfl⟩ := mem_blocksExcluding.mp hp
    exact Bool.eq_false_iff.mp (Network.overlaps_eq_false_iff.mpr (h e he hne b hb))

/-- What the search for a block finds is the first one: it goes through the entries, and through the blocks of each. -/
private theorem firstMet_of_find? (h : ((r.blocksExcluding cluster).find? fun p => p.2.overlaps n) = some (owner, b)) :
    r.FirstMet cluster n owner b := by
  obtain ⟨enabled, supernet, size, es⟩ := r
  simp only [FirstMet, blocksExcluding] at h ⊢
  induction es with
  | nil => cases h
  | cons e es ih =>
    by_cases hown : e.cluster = cluster
    · rw [List.filter_cons_of_neg (by simpa using hown)] at h
      obtain ⟨before, e', after, bs, bs', rfl, hblocks, howner, hne, hmet, hbefore, hbs⟩ := ih h
      refine ⟨e :: before, e', after, bs, bs', rfl, hblocks, howner, hne, hmet, ?_, hbs⟩
      rintro p hp hother
      rcases List.mem_cons.mp hp with rfl | hp
      · exact absurd hown hother
      · exact hbefore p hp hother
    · rw [List.filter_cons_of_pos (by simpa using hown), List.flatMap_cons, List.find?_append, List.find?_map] at h
      cases hfind : e.blocks.find? fun b => b.overlaps n with
      | some b' =>
        -- the entry has a block that is met, and the search stays with it
        have heq : (e.cluster, b') = (owner, b) := by simpa [Function.comp_def, hfind] using h
        cases heq
        obtain ⟨hoverlap, bs, bs', hblocks, hbs⟩ := List.find?_eq_some_iff_append.mp hfind
        refine ⟨[], e, es, bs, bs', rfl, hblocks, rfl, hown, Network.overlaps_iff.mp hoverlap, by simp, ?_⟩
        exact fun c hc => Network.overlaps_eq_false_iff.mp (by simpa using hbs c hc)
      | none =>
        have hrest : ((es.filter fun e => e.cluster != cluster).flatMap fun e =>
            e.blocks.map fun b => (e.cluster, b)).find? (fun p => p.2.overlaps n) = some (owner, b) := by
          simpa [Function.comp_def, hfind] using h
        obtain ⟨before, e', after, bs, bs', rfl, hblocks, howner, hne, hmet, hbefore, hbs⟩ := ih hrest
        refine ⟨e :: before, e', after, bs, bs', rfl, hblocks, howner, hne, hmet, ?_, hbs⟩
        rintro p hp hother
        rcases List.mem_cons.mp hp with rfl | hp
        · exact find?_blocks_eq_none_iff.mp hfind
        · exact hbefore p hp hother

/-! ### Claims -/

private theorem claim_eq (hparse : parseNetwork "globalnetCIDR" cidr = .ok n) :
    r.claim cluster cidr =
      if r.supernet.contains n = true then
        match (r.blocksExcluding cluster).find? fun p => p.2.overlaps n with
        | some (owner, existing) => .error (.overlap n.toText existing.toText owner)
        | none => .ok n
      else .error (.outOfBounds n.toText r.supernet.toText) := by
  rw [claim, hparse]
  cases hin : r.supernet.contains n with
  | true =>
    simp only [bind, Except.bind, hin, Bool.not_true, Bool.false_eq_true, ↓reduceIte]
    rfl
  | false =>
    simp only [bind, Except.bind, hin, Bool.not_false, Bool.false_eq_true, ↓reduceIte]
    rfl

private theorem claim_of_outside (hname : NamesBlock cidr n) {a : Nat} (ha : a ∈ n) (hout : a ∉ r.supernet) :
    r.claim cluster cidr = .error (.outOfBounds n.toText r.supernet.toText) := by
  have hcontains : ¬ r.supernet.contains n = true := fun h => hout (Network.contains_iff.mp h a ha)
  rw [claim_eq (parseNetwork_of_namesBlock hname _), if_neg hcontains]

theorem claim_of_free (hname : NamesBlock cidr n) (hin : ∀ a, a ∈ n → a ∈ r.supernet) (hfree : r.IsFree cluster n) :
    r.claim cluster cidr = .ok n := by
  rw [claim_eq (parseNetwork_of_namesBlock hname _), if_pos (Network.contains_iff.mpr hin),
    find?_blocksExcluding_eq_none_iff.mpr hfree]

private theorem claim_of_met (hname : NamesBlock cidr n) (hin : ∀ a, a ∈ n → a ∈ r.supernet)
    (hmet : ¬ r.IsFree cluster n) :
    ∃ owner b, r.FirstMet cluster n owner b ∧
      r.claim cluster cidr = .error (.overlap n.toText b.toText owner) := by
  rw [claim_eq (parseNetwork_of_namesBlock hname _), if_pos (Network.contains_iff.mpr hin)]
  cases hfind : (r.blocksExcluding cluster).find? fun p => p.2.overlaps n with
  | none => exact absurd (find?_blocksExcluding_eq_none_iff.mp hfind) hmet
  | some p => exact ⟨p.1, p.2, firstMet_of_find? hfind, rfl⟩

theorem claim_of_no_block (h : ∀ n, ¬ NamesBlock cidr n) :
    ∃ message, r.claim cluster cidr = .error (.malformed "globalnetCIDR" message) := by
  obtain ⟨message, hparse⟩ := parseNetwork_of_no_block h "globalnetCIDR"
  exact ⟨message, by rw [claim, hparse]; rfl⟩

/-- A claim ends in one of four ways. -/
theorem claim_cases (r : Record) (cluster cidr : String) :
    (∃ message, r.claim cluster cidr = .error (.malformed "globalnetCIDR" message)) ∨
    ∃ n, NamesBlock cidr n ∧
      (r.claim cluster cidr = .error (.outOfBounds n.toText r.supernet.toText) ∨
        (∃ (owner : String) (b : Network), r.claim cluster cidr = .error (.overlap n.toText b.toText owner)) ∨
        (∀ a, a ∈ n → a ∈ r.supernet) ∧ r.IsFree cluster n ∧ r.claim cluster cidr = .ok n) := by
  by_cases hname : ∃ n, NamesBlock cidr n
  · obtain ⟨n, hname⟩ := hname
    refine .inr ⟨n, hname, ?_⟩
    by_cases hin : ∀ a, a ∈ n → a ∈ r.supernet
    · by_cases hfree : r.IsFree cluster n
      · exact .inr (.inr ⟨hin, hfree, claim_of_free hname hin hfree⟩)
      · obtain ⟨owner, b, -, hclaim⟩ := claim_of_met hname hin hfree
        exact .inr (.inl ⟨owner, b, hclaim⟩)
    · obtain ⟨a, ha, hout⟩ : ∃ a, a ∈ n ∧ a ∉ r.supernet := by simpa using hin
      exact .inl (claim_of_outside hname ha hout)
  · exact .inl (claim_of_no_block fun n h => hname ⟨n, h⟩)

/-- A named block is given exactly if it is one, lies in the supernet and is free. -/
theorem claim_eq_ok_iff : r.claim cluster cidr = .ok n ↔
    NamesBlock cidr n ∧ (∀ a, a ∈ n → a ∈ r.supernet) ∧ r.IsFree cluster n := by
  constructor
  · intro h
    rcases claim_cases r cluster cidr with ⟨message, hclaim⟩ |
      ⟨n', hname, hclaim | ⟨owner, b, hclaim⟩ | ⟨hin, hfree, hclaim⟩⟩
    all_goals rw [hclaim] at h; cases h
    exact ⟨hname, hin, hfree⟩
  · exact fun ⟨hname, hin, hfree⟩ => claim_of_free hname hin hfree

/-- A block that is given to a cluster which does not hold it yet lies in the supernet and is free. -/
theorem allocate_free {q : AllocationRequest} {b : Network} (h : r.allocate q = .ok b)
    (hne : r.primary? q.cluster ≠ some b) : r.supernet.contains b = true ∧ r.IsFree q.cluster b := by
  unfold allocate at h
  split at h
  · obtain ⟨-, hin, hfree⟩ := claim_eq_ok_iff.mp h
    exact ⟨Network.contains_iff.mpr hin, hfree⟩
  · exact (draw_free h).resolve_left hne

/-- A named block is given exactly if its text names one, it lies in the supernet, and no block of another cluster meets
it; else the failure says which of these does not hold first. -/
theorem claims_are_decided (r : Record) (q : AllocationRequest) (cidr : String) :
    let outcome := r.allocate { q with explicitCidr := some cidr }
    (∀ n, outcome = .ok n ↔ NamesBlock cidr n ∧ (∀ a, a ∈ n → a ∈ r.supernet) ∧ r.IsFree q.cluster n) ∧
    ((∀ n, ¬ NamesBlock cidr n) → ∃ message, outcome = .error (.malformed "globalnetCIDR" message)) ∧
    ∀ n, NamesBlock cidr n →
      (∀ a, a ∈ n → a ∉ r.supernet → outcome = .error (.outOfBounds n.toText r.supernet.toText)) ∧
      ((∀ a, a ∈ n → a ∈ r.supernet) → ¬ r.IsFree q.cluster n →
        ∃ owner b, r.FirstMet q.cluster n owner b ∧ outcome = .error (.overlap n.toText b.toText owner)) := by
  intro outcome
  have houtcome : outcome = r.claim q.cluster cidr := rfl
  rw [houtcome]
  refine ⟨fun n => claim_eq_ok_iff, claim_of_no_block, fun n hname => ?_⟩
  exact ⟨fun a => claim_of_outside hname, claim_of_met hname⟩

end Record

end MultiCluster
