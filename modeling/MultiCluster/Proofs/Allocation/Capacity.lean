import Mathlib.Data.List.Induction
import MultiCluster.Proofs.Allocation.Serial
import MultiCluster.Proofs.Allocation.Vacancy
import MultiCluster.Proofs.Ledger.Soundness
import MultiCluster.Proofs.Net.Text

/-!
# A supernet is handed out block by block

A record is filled up to an address if its blocks cover the supernet up to there and nothing behind. In such a record
the lowest vacant run of addresses begins where the blocks end, so that one cluster after another gets the next block,
until the supernet is full. The number of blocks is the capacity that was computed beforehand.

Main statement: `capacity_is_handed_out`.
-/

namespace MultiCluster

open Allocator

namespace Record

/-- The blocks cover the supernet up to an address, end there, and belong to the given clusters. -/
structure IsFilled (r : Record) (clusters : List String) (stop : Nat) : Prop where
  owners : ∀ e ∈ r.entries, e.cluster ∈ clusters
  below : ∀ e ∈ r.entries, ∀ b ∈ e.blocks, b.stop ≤ stop
  covered : ∀ a, r.supernet.first ≤ a → a < stop → ∃ e ∈ r.entries, ∃ b ∈ e.blocks, a ∈ b

variable {r : Record} {clusters : List String} {stop : Nat} {c : String} {size : BlockSize}

theorem isFilled_empty (net : Network) (n : UInt64) (enabled : Bool) :
    (empty net n enabled).IsFilled [] net.first := by
  constructor
  · intro e he
    cases he
  · intro e he
    cases he
  · intro a ha ha'
    have hfirst : net.first ≤ a := ha
    omega

private theorem IsFilled.primary?_eq_none (h : r.IsFilled clusters stop) (hc : c ∉ clusters) : r.primary? c = none := by
  have hnone : r.entryFor? c = none := by
    rw [entryFor?, List.find?_eq_none]
    intro e he heq
    have hcluster : e.cluster = c := by simpa using heq
    exact hc (hcluster ▸ h.owners e he)
  rw [primary?, hnone]
  rfl

/-- What is vacant for a new cluster begins where the blocks end, or behind. -/
private theorem IsFilled.le_of_isVacant (h : r.IsFilled clusters stop) (hc : c ∉ clusters) {start : Nat}
    (hv : r.IsVacant c size.addresses start) : stop ≤ start := by
  have hpos := size.addresses_pos
  have hlow := (hv.inside start (Nat.le_refl _) (by omega)).1
  by_contra hlt
  obtain ⟨e, he, b, hb, hab⟩ := h.covered start hlow (by omega)
  have hne : e.cluster ≠ c := fun heq => hc (heq ▸ h.owners e he)
  exact hv.free e he hne b hb start (Nat.le_refl _) (by omega) hab

theorem IsFilled.isVacant (h : r.IsFilled clusters stop) (hd : size.addresses ∣ stop) (hle : r.supernet.first ≤ stop)
    (hfits : stop + size.addresses ≤ r.supernet.stop) : r.IsVacant c size.addresses stop := by
  refine ⟨hd, ?_, ?_⟩
  · intro a ha ha'
    exact ⟨by omega, by omega⟩
  · intro e he _ b hb a ha _ hab
    have hbelow := h.below e he b hb
    have hlt := hab.2
    omega

theorem IsFilled.allocate (h : r.IsFilled clusters stop) (hc : c ∉ clusters)
    (hsize : BlockSize.ofAddresses r.defaultBlockSize = .ok size) (hd : size.addresses ∣ stop)
    (hle : r.supernet.first ≤ stop) (hfits : stop + size.addresses ≤ r.supernet.stop) :
    ∃ b, r.allocate { cluster := c } = .ok b ∧ b.first = stop ∧ b.size = size.addresses := by
  have hroom : size.addresses ≤ r.supernet.size := by
    have hstop : r.supernet.stop = r.supernet.first + r.supernet.size := rfl
    omega
  have hvacant : r.IsVacant c size.addresses stop := h.isVacant hd hle hfits
  rcases draw_of_fits (q := { cluster := c }) hsize (h.primary?_eq_none hc) hroom with
    ⟨b, hb, hbsize, -, hbvacant, hleast⟩ | ⟨-, hnone⟩
  · exact ⟨b, hb, Nat.le_antisymm (hleast stop hvacant) (h.le_of_isVacant hc hbvacant), hbsize⟩
  · exact absurd hvacant (hnone stop)

/-- A supernet that is filled to its end has no block for a new cluster. -/
private theorem IsFilled.allocate_full (h : r.IsFilled clusters r.supernet.stop) (hc : c ∉ clusters)
    (hsize : BlockSize.ofAddresses r.defaultBlockSize = .ok size) (hroom : size.addresses ≤ r.supernet.size) :
    r.allocate { cluster := c } = .error (.exhausted size.addresses r.supernet.toText) := by
  rcases draw_of_fits (q := { cluster := c }) hsize (h.primary?_eq_none hc) hroom with
    ⟨b, -, hbsize, -, hbvacant, -⟩ | ⟨hex, -⟩
  · have hbehind : r.supernet.stop ≤ b.first := h.le_of_isVacant hc hbvacant
    have hpos := size.addresses_pos
    have hinside := (hbvacant.inside b.first (Nat.le_refl _) (by omega)).2
    omega
  · exact hex

private theorem IsFilled.assign (h : r.IsFilled clusters stop) (hc : c ∉ clusters) {b : Network} (hb : b.first = stop)
    (plugin : Option String) : (r.assign c b plugin).IsFilled (clusters ++ [c]) b.stop := by
  have hentries : (r.assign c b plugin).entries = r.entries ++ [{ cluster := c, plugin, blocks := [b] }] := by
    rcases assignEntry_cases c b plugin r.entries with ⟨before, e, after, hes, hcluster, -, -⟩ | ⟨-, heq⟩
    · have he : e ∈ r.entries := by
        rw [hes]
        simp
      exact absurd (hcluster ▸ h.owners e he) hc
    · exact heq
  have hstop : stop ≤ b.stop := by
    rw [← hb]
    exact Nat.le_add_right _ _
  constructor
  · intro e he
    rw [hentries] at he
    rcases List.mem_append.mp he with he | he
    · exact List.mem_append_left _ (h.owners e he)
    · obtain rfl := List.mem_singleton.mp he
      simp
  · intro e he b' hb'
    rw [hentries] at he
    rcases List.mem_append.mp he with he | he
    · exact Nat.le_trans (h.below e he b' hb') hstop
    · obtain rfl := List.mem_singleton.mp he
      obtain rfl := List.mem_singleton.mp hb'
      exact Nat.le_refl _
  · intro a ha ha'
    rw [hentries]
    by_cases hlt : a < stop
    · obtain ⟨e, he, b', hb', hab⟩ := h.covered a ha hlt
      exact ⟨e, List.mem_append_left _ he, b', hb', hab⟩
    · refine ⟨_, List.mem_append_right _ (List.mem_singleton.mpr rfl), b, List.mem_singleton.mpr rfl, ?_, ha'⟩
      omega

end Record

/-! ### One cluster after another -/

section Fill

variable {net : Network} {n : UInt64} {size : BlockSize}

/-- A request for a block of the default size. -/
def defaultRequest (c : String) : AllocationRequest :=
  { cluster := c }

/-- Blocks that lie side by side from an address on. -/
def SideBySide (start size : Nat) (bs : List Network) : Prop :=
  ∀ i b, bs[i]? = some b → b.first = start + i * size ∧ b.size = size

private theorem SideBySide.concat {start k : Nat} {bs : List Network} {b : Network} (h : SideBySide start k bs)
    (hfirst : b.first = start + bs.length * k) (hsize : b.size = k) : SideBySide start k (bs ++ [b]) := by
  intro i b' hi
  rcases Nat.lt_trichotomy i bs.length with hlt | rfl | hgt
  · rw [List.getElem?_append_left hlt] at hi
    exact h i b' hi
  · rw [List.getElem?_concat_length] at hi
    cases hi
    exact ⟨hfirst, hsize⟩
  · rw [List.getElem?_eq_none (by simp; omega)] at hi
    cases hi

/-- As many clusters as there is room for get blocks that lie side by side and fill the supernet from its first
address on. -/
private theorem serialRun_fills (hsize : BlockSize.ofAddresses n = .ok size) (hd : size.addresses ∣ net.first)
    {clusters : List String} (hnodup : clusters.Nodup) (hroom : clusters.length * size.addresses ≤ net.size) :
    ∃ r bs, serialRun defaultRequest (Record.empty net n true) clusters = .ok (r, bs) ∧
      r.supernet = net ∧ r.defaultBlockSize = n ∧ bs.length = clusters.length ∧
      SideBySide net.first size.addresses bs ∧
      r.IsFilled clusters (net.first + clusters.length * size.addresses) := by
  -- blocks are assigned at the end of the list, so the induction is on the reversed one
  induction clusters using List.reverseRecOn with
  | nil =>
    refine ⟨_, [], rfl, rfl, rfl, rfl, ?_, ?_⟩
    · intro i b hi
      cases hi
    · have hempty := Record.isFilled_empty net n true
      simpa using hempty
  | append_singleton clusters c ih =>
    obtain ⟨hnodup', -, hdisjoint⟩ := List.nodup_append.mp hnodup
    have hc : c ∉ clusters := fun hmem => hdisjoint c hmem c (List.mem_singleton.mpr rfl) rfl
    have hlength : (clusters ++ [c]).length = clusters.length + 1 := by simp
    rw [hlength, Nat.add_mul, Nat.one_mul] at hroom
    obtain ⟨r, bs, hserial, hnet, hn, hbs, hside, hfilled⟩ := ih hnodup' (by omega)
    have hstop : net.stop = net.first + net.size := rfl
    obtain ⟨b, hb, hfirst, hbsize⟩ := hfilled.allocate hc (hn ▸ hsize)
      (Nat.dvd_add hd (Nat.dvd_mul_left _ _)) (by rw [hnet]; omega) (by rw [hnet]; omega)
    refine ⟨_, _, serialRun_concat hserial hb, hnet, hn, by simp [hbs], ?_, ?_⟩
    · exact hside.concat (by rw [hbs]; exact hfirst) hbsize
    · have hnext := hfilled.assign hc hfirst none
      have hend : b.stop = net.first + (clusters ++ [c]).length * size.addresses := by
        rw [Network.stop, hfirst, hbsize, hlength, Nat.add_mul, Nat.one_mul, Nat.add_assoc]
      rw [hend] at hnext
      exact hnext

end Fill

/-- Blocks side by side have every address from the start of the first one to the end of the last one, and share
none. -/
private theorem SideBySide.tiles {start k : Nat} {bs : List Network} (h : SideBySide start k bs) :
    (∀ a, (start ≤ a ∧ a < start + bs.length * k) ↔ ∃ b ∈ bs, a ∈ b) ∧
      bs.Pairwise fun b b' => ∀ a, a ∈ b → a ∉ b' := by
  have hmem : ∀ i b a, bs[i]? = some b → (a ∈ b ↔ start + i * k ≤ a ∧ a < start + (i + 1) * k) := by
    intro i b a hi
    obtain ⟨hfirst, hsize⟩ := h i b hi
    rw [Network.mem_iff, Network.stop, hfirst, hsize, Nat.add_mul, Nat.one_mul, Nat.add_assoc]
  constructor
  · intro a
    constructor
    · rintro ⟨hle, hlt⟩
      have hk : 0 < k := Nat.pos_of_ne_zero fun h0 => by
        rw [h0, Nat.mul_zero] at hlt
        omega
      have hi : (a - start) / k < bs.length := (Nat.div_lt_iff_lt_mul hk).mpr (by omega)
      have hdiv := Nat.div_add_mod (a - start) k
      have hmod := Nat.mod_lt (a - start) hk
      rw [Nat.mul_comm] at hdiv
      refine ⟨bs[(a - start) / k], List.getElem_mem hi, (hmem _ _ a (List.getElem?_eq_getElem hi)).mpr ?_⟩
      rw [Nat.add_mul, Nat.one_mul]
      omega
    · rintro ⟨b, hb, hab⟩
      obtain ⟨i, hi, rfl⟩ := List.mem_iff_getElem.mp hb
      obtain ⟨hle, hlt⟩ := (hmem i _ a (List.getElem?_eq_getElem hi)).mp hab
      have hend : (i + 1) * k ≤ bs.length * k := Nat.mul_le_mul_right k hi
      omega
  · rw [List.pairwise_iff_getElem]
    intro i j hi hj hij a ha ha'
    obtain ⟨-, hlt⟩ := (hmem i _ a (List.getElem?_eq_getElem hi)).mp ha
    obtain ⟨hle, -⟩ := (hmem j _ a (List.getElem?_eq_getElem hj)).mp ha'
    have hbetween : (i + 1) * k ≤ j * k := Nat.mul_le_mul_right k hij
    omega

/-! ### The capacity -/

namespace BlockSize

/-- A capacity that was computed is how many blocks of the size fill the supernet; else the size does not fit. -/
theorem capacity_cases (net : Network) (size : BlockSize) :
    (∃ k, size.capacity net = .ok k ∧ 1 ≤ k ∧ k * size.addresses = net.size) ∨
      ∃ message, size.capacity net = .error (malformed message) ∧ net.size < size.addresses := by
  by_cases hlt : net.size < size.addresses
  · exact .inr ⟨_, if_pos hlt, hlt⟩
  · have hle : size.addresses ≤ net.size := Nat.not_lt.mp hlt
    refine .inl ⟨_, if_neg hlt, ?_, Nat.div_mul_cancel (addresses_dvd_of_le hle)⟩
    exact Nat.div_pos hle size.addresses_pos

end BlockSize

section Validate

variable {supernet : String} {net : Network} {n : UInt64} {k : Nat} {f : Failure}

/-- A network without host bits is read back from its text. -/
private theorem parseNetwork_toText (field : String) (h : net.isTruncated = true) :
    parseNetwork field net.toText = .ok net := by
  unfold parseNetwork
  simp only [Network.trim_toText, Network.ofText?_toText, h, ↓reduceIte]

/-- A supernet is validated by its text, then by the size, and then by the capacity for blocks of this size. -/
theorem validateSupernet_of_network (n : UInt64) (h : parseNetwork "globalnetCIDRRange" supernet = .ok net) :
    validateSupernet supernet n = (BlockSize.ofAddresses n).bind fun size => size.capacity net := by
  rw [validateSupernet, h]
  rfl

private theorem validateSupernet_eq_ok (h : validateSupernet supernet n = .ok k) :
    ∃ net size, parseNetwork "globalnetCIDRRange" supernet = .ok net ∧ BlockSize.ofAddresses n = .ok size ∧
      1 ≤ k ∧ k * size.addresses = net.size := by
  cases hnet : parseNetwork "globalnetCIDRRange" supernet with
  | error f =>
    rw [validateSupernet, hnet] at h
    cases h
  | ok net =>
    rw [validateSupernet_of_network n hnet] at h
    cases hsize : BlockSize.ofAddresses n with
    | error f =>
      rw [hsize] at h
      cases h
    | ok size =>
      rw [hsize] at h
      have hcap : size.capacity net = .ok k := h
      rcases size.capacity_cases net with ⟨k', hk', hpos, hfull⟩ | ⟨message, hbad, -⟩
      · obtain rfl : k' = k := Except.ok.inj (hk'.symm.trans hcap)
        exact ⟨net, size, rfl, rfl, hpos, hfull⟩
      · rw [hbad] at hcap
        cases hcap

/-- A network that is no supernet for the size fails the first request in the same way. -/
private theorem allocate_empty_of_invalid (hnet : parseNetwork "globalnetCIDRRange" supernet = .ok net)
    (hf : validateSupernet supernet n = .error f) (c : String) :
    (∃ message, f = BlockSize.malformed message) ∧
      (Record.empty net n true).allocate (defaultRequest c) = .error f := by
  have hallocate : (Record.empty net n true).allocate (defaultRequest c) =
      (Record.empty net n true).draw (defaultRequest c) := rfl
  rw [validateSupernet_of_network n hnet] at hf
  rw [hallocate]
  rcases BlockSize.ofAddresses_cases n with ⟨-, message, hsize⟩ | ⟨-, -, size, hsize⟩
  · rw [hsize] at hf
    cases hf
    exact ⟨⟨message, rfl⟩, Record.draw_of_error hsize⟩
  · rw [hsize] at hf
    have hcap : size.capacity net = .error f := hf
    constructor
    · rcases size.capacity_cases net with ⟨k, hk, -, -⟩ | ⟨message, hbad, -⟩
      · rw [hk] at hcap
        cases hcap
      · rw [hbad] at hcap
        cases hcap
        exact ⟨message, rfl⟩
    · rw [Record.draw]
      show (BlockSize.ofAddresses n >>= _) = _
      rw [hsize]
      show (size.capacity net >>= _) = _
      rw [hcap]
      rfl

end Validate

/-- A supernet that holds `k` blocks of a size is handed out to the first `k` clusters in order and is exhausted then;
the blocks tile it. -/
theorem capacity_is_handed_out (supernet : String) (n : UInt64) :
    (∀ k, validateSupernet supernet n = .ok k →
      1 ≤ k ∧ ∃ net e, parseNetwork "globalnetCIDRRange" supernet = .ok net ∧
        n.toNat ≤ Nat.pow 2 e ∧ Nat.pow 2 e < 2 * n.toNat ∧
        ∀ clusters : List String, clusters.Nodup → clusters.length ≤ k →
          ∃ r bs, serialRun defaultRequest (Record.empty net n true) clusters = .ok (r, bs) ∧
            bs.length = clusters.length ∧
            (∀ i b, bs[i]? = some b → b.first = net.first + i * Nat.pow 2 e ∧ b.size = Nat.pow 2 e) ∧
            (clusters.length = k →
              (∀ a, a ∈ net ↔ ∃ b ∈ bs, a ∈ b) ∧ (bs.Pairwise fun b b' => ∀ a, a ∈ b → a ∉ b') ∧
              ∀ c, c ∉ clusters →
                r.allocate (defaultRequest c) = .error (.exhausted (Nat.pow 2 e) net.toText))) ∧
    ∀ net f, parseNetwork "globalnetCIDRRange" supernet = .ok net → validateSupernet supernet n = .error f →
      (∃ field message, f = .malformed field message) ∧
        ∀ c, (Record.empty net n true).allocate (defaultRequest c) = .error f := by
  constructor
  · intro k hk
    obtain ⟨net, size, hnet, hsize, hpos, hfull⟩ := validateSupernet_eq_ok hk
    have hroom : size.addresses ≤ net.size := by
      rw [← hfull]
      exact Nat.le_mul_of_pos_left _ hpos
    have hd : size.addresses ∣ net.first :=
      Nat.dvd_trans (BlockSize.addresses_dvd_of_le hroom) net.size_dvd_first
    refine ⟨hpos, net, size.exponent, hnet, BlockSize.le_addresses hsize,
      BlockSize.addresses_lt_two_mul hsize, ?_⟩
    intro clusters hnodup hlength
    have hfits : clusters.length * size.addresses ≤ net.size := by
      rw [← hfull]
      exact Nat.mul_le_mul_right _ hlength
    obtain ⟨r, bs, hserial, hsupernet, hdefault, hbs, hside, hfilled⟩ := serialRun_fills hsize hd hnodup hfits
    refine ⟨r, bs, hserial, hbs, hside, ?_⟩
    intro hall
    obtain ⟨hcover, hdisjoint⟩ := hside.tiles
    rw [hbs, hall, hfull] at hcover
    rw [hall, hfull, ← hsupernet] at hfilled
    refine ⟨hcover, hdisjoint, ?_⟩
    intro c hc
    have hexhausted := hfilled.allocate_full hc (hdefault ▸ hsize) (hsupernet ▸ hroom)
    rw [hsupernet] at hexhausted
    exact hexhausted
  · intro net f hnet hf
    refine ⟨?_, fun c => (allocate_empty_of_invalid hnet hf c).2⟩
    obtain ⟨message, rfl⟩ := (allocate_empty_of_invalid hnet hf "").1
    exact ⟨_, message, rfl⟩

/-- Four clusters share sixteen million addresses, and there is nothing for a fifth one. -/
theorem capacity_is_handed_out_to_four :
    let net : Network := { address := 167772160, length := 8 }
    validateSupernet net.toText 3000000 = .ok 4 ∧
      ∃ r bs, serialRun defaultRequest (Record.empty net 3000000 true) ["a", "b", "c", "d"] = .ok (r, bs) ∧
        (∀ b, bs[3]? = some b → b.first = 180355072 ∧ b.size = 4194304) ∧
        r.allocate (defaultRequest "e") = .error (.exhausted 4194304 net.toText) := by
  intro net
  have hparse : parseNetwork "globalnetCIDRRange" net.toText = .ok net := parseNetwork_toText _ (by decide)
  obtain ⟨size, hsize⟩ : ∃ size, BlockSize.ofAddresses 3000000 = .ok size := ⟨_, rfl⟩
  have haddresses : size.addresses = Nat.pow 2 22 := BlockSize.addresses_eq hsize (by decide) (by decide)
  have hcap : validateSupernet net.toText 3000000 = .ok 4 := by
    rw [validateSupernet_of_network _ hparse, hsize]
    show size.capacity net = .ok 4
    rw [BlockSize.capacity, haddresses, if_neg (by decide)]
    exact congrArg Except.ok (by decide)
  refine ⟨hcap, ?_⟩
  obtain ⟨-, net', e, hnet', hle, hlt, hfill⟩ := (capacity_is_handed_out net.toText 3000000).1 4 hcap
  obtain rfl : net = net' := Except.ok.inj (hparse.symm.trans hnet')
  have he : Nat.pow 2 e = 4194304 := by
    rw [← BlockSize.addresses_eq hsize hle hlt, haddresses]
  obtain ⟨r, bs, hserial, hlength, hside, hfull⟩ := hfill ["a", "b", "c", "d"] (by decide) (by decide)
  have hexhausted := (hfull rfl).2.2 "e" (by decide)
  rw [he] at hexhausted hside
  refine ⟨r, bs, hserial, fun b hb => ?_, hexhausted⟩
  obtain ⟨hfirst, hb'⟩ := hside 3 b hb
  have hbase : net.first = 167772160 := by decide
  exact ⟨by omega, hb'⟩

end MultiCluster
