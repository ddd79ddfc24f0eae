import MultiCluster.Net.Network
import MultiCluster.Proofs.Text.Numeral
import MultiCluster.Proofs.Text.Trim

/-!
# Texts of networks

A network is named by the four numbers of its address, with points between them, a slash, and its length. Numbers may
have leading zeros, up to three digits in an address and two in a length. These are exactly the texts from which the
network is read, and the one that is written for it is among them.

Main statements: `Network.ofText?_eq_some_iff` and `Network.ofText?_toText`.
-/

namespace MultiCluster

open Text.Decimal (IsNumeral isNumeral_toDigits)

namespace Net

/-! ### Numbers and characters at the beginning of a text -/

private theorem digitValue?_ten (c : Char) :
    digitValue? 10 c = if c.isDigit = true then some (c.toNat - 48) else none := by
  by_cases hc : c.isDigit = true
  · have hbounds : 48 ≤ c.toNat ∧ c.toNat ≤ 57 := by
      simp only [Char.isDigit, Bool.and_eq_true, decide_eq_true_eq] at hc
      exact ⟨UInt32.le_iff_toNat_le.mp hc.1, UInt32.le_iff_toNat_le.mp hc.2⟩
    simp only [digitValue?, hc, ↓reduceIte, Option.filter_some, decide_eq_true_eq]
    rw [if_pos (by omega)]
  · -- the letters stand for numbers from ten on
    have hletter : ∀ {a b : Char}, a ≤ c ∧ c ≤ b → a.toNat ≤ c.toNat := fun h => UInt32.le_iff_toNat_le.mp h.1
    simp only [digitValue?, hc, Bool.false_eq_true, ↓reduceIte]
    split
    · rename_i h
      have := hletter h
      have ha : ('a').toNat = 97 := rfl
      rw [Option.filter_some, if_neg (by simp; omega)]
    · split
      · rename_i h
        have := hletter h
        have ha : ('A').toNat = 65 := rfl
        rw [Option.filter_some, if_neg (by simp; omega)]
      · rfl

private theorem spanDigits_ten (cs : List Char) :
    spanDigits 10 cs = ((cs.takeWhile Char.isDigit).map fun c => c.toNat - 48, cs.dropWhile Char.isDigit) := by
  induction cs with
  | nil => rfl
  | cons c cs ih =>
    by_cases hc : c.isDigit = true
    · simp [spanDigits, digitValue?_ten, hc, ih]
    · simp [spanDigits, digitValue?_ten, hc]

private theorem ofDigits_map (ds : List Char) :
    ofDigits 10 (ds.map fun c => c.toNat - 48) = Nat.ofDigitChars 10 ds 0 := by
  suffices h : ∀ n, (ds.map fun c => c.toNat - 48).foldl (fun n d => n * 10 + d) n = Nat.ofDigitChars 10 ds n from
    h 0
  induction ds with
  | nil => intro n; simp
  | cons c ds ih =>
    intro n
    rw [List.map_cons, List.foldl_cons, ih, Nat.ofDigitChars_cons, Nat.mul_comm]
    rfl

/-- What is read is a numeral up to where its digits end, if it is short enough and its value small enough. -/
private theorem readNumber_eq_some_iff {width limit n : Nat} {cs rest : List Char} :
    readNumber 10 width limit cs = some (n, rest) ↔
      ∃ ds, cs = ds ++ rest ∧ IsNumeral ds n ∧ ds.length ≤ width ∧ n < limit ∧
        ∀ c ∈ rest.head?, c.isDigit = false := by
  simp only [readNumber, spanDigits_ten, ofDigits_map, List.length_map]
  constructor
  · intro h
    split at h
    · cases h
    · rename_i hread
      cases h
      simp only [List.isEmpty_iff, List.map_eq_nil_iff, not_or, Nat.not_lt, Nat.not_le] at hread
      obtain ⟨hne, hwidth, hlimit⟩ := hread
      refine ⟨cs.takeWhile Char.isDigit, List.takeWhile_append_dropWhile.symm, ⟨⟨hne, ?_⟩, rfl⟩, hwidth, hlimit, ?_⟩
      · exact fun c hc => List.all_eq_true.mp List.all_takeWhile c hc
      · intro c hc
        have hnot := List.head?_dropWhile_not Char.isDigit cs
        rw [Option.mem_def.mp hc] at hnot
        exact hnot
  · rintro ⟨ds, rfl, hds, hwidth, hlimit, hrest⟩
    have hend : rest.takeWhile Char.isDigit = [] ∧ rest.dropWhile Char.isDigit = rest := by
      cases rest with
      | nil => exact ⟨rfl, rfl⟩
      | cons c cs => simp [hrest c (by simp)]
    rw [List.takeWhile_append_of_pos hds.isDigit, List.dropWhile_append_of_pos hds.isDigit, hend.1, hend.2,
      List.append_nil, hds.value, if_neg]
    simp only [List.isEmpty_iff, List.map_eq_nil_iff, not_or, Nat.not_lt, Nat.not_le]
    exact ⟨hds.ne_nil, hwidth, hlimit⟩

private theorem readChar_eq_some_iff {c : Char} {cs rest : List Char} :
    readChar c cs = some rest ↔ cs = c :: rest := by
  cases cs with
  | nil => simp [readChar]
  | cons d ds =>
    by_cases h : c = d
    · simp [readChar, h]
    · simp [readChar, h, Ne.symm h]

end Net

namespace Network

/-! ### Which texts name a network -/

/-- The text of an address. -/
def SpellsAddress (cs : List Char) (address : Nat) : Prop :=
  ∃ a b c d, cs = a ++ '.' :: (b ++ '.' :: (c ++ '.' :: d)) ∧
    (IsNumeral a (address / 16777216) ∧ a.length ≤ 3) ∧ (IsNumeral b (address / 65536 % 256) ∧ b.length ≤ 3) ∧
    (IsNumeral c (address / 256 % 256) ∧ c.length ≤ 3) ∧ IsNumeral d (address % 256) ∧ d.length ≤ 3

/-- The text `s` names the network `n`. -/
def Spells (s : String) (n : Network) : Prop :=
  ∃ address length, s.toList = address ++ '/' :: length ∧ SpellsAddress address n.address ∧
    IsNumeral length n.length ∧ length.length ≤ 2

private theorem readAddress_eq_some_iff {address : Nat} {cs rest : List Char} :
    readAddress cs = some (address, rest) ↔
      ∃ text, cs = text ++ rest ∧ SpellsAddress text address ∧ address < addressLimit ∧
        ∀ c ∈ rest.head?, c.isDigit = false := by
  simp only [readAddress, Option.bind_eq_bind, Option.bind_eq_some_iff, Option.pure_def, Option.some.injEq,
    Prod.mk.injEq, Prod.exists, Net.readNumber_eq_some_iff, Net.readChar_eq_some_iff, addressLimit]
  constructor
  · rintro ⟨a, _, ⟨as, rfl, ha, has, halt, -⟩, _, rfl, b, _, ⟨bs, rfl, hb, hbs, hblt, -⟩, _, rfl,
      c, _, ⟨cs, rfl, hc, hcs, hclt, -⟩, _, rfl, d, _, ⟨ds, rfl, hd, hds, hdlt, hend⟩, hvalue, rfl⟩
    have hfields : address / 16777216 = a ∧ address / 65536 % 256 = b ∧ address / 256 % 256 = c ∧
        address % 256 = d ∧ address < 4294967296 := by omega
    obtain ⟨rfl, rfl, rfl, rfl, hlt⟩ := hfields
    exact ⟨as ++ '.' :: (bs ++ '.' :: (cs ++ '.' :: ds)), by simp,
      ⟨as, bs, cs, ds, rfl, ⟨ha, has⟩, ⟨hb, hbs⟩, ⟨hc, hcs⟩, hd, hds⟩, hlt, hend⟩
  · rintro ⟨_, rfl, ⟨as, bs, cs, ds, rfl, ⟨ha, has⟩, ⟨hb, hbs⟩, ⟨hc, hcs⟩, hd, hds⟩, hlt, hend⟩
    have hpoint : ∀ cs : List Char, ∀ c ∈ ('.' :: cs).head?, c.isDigit = false := by
      intro cs c hc
      cases hc
      decide
    exact ⟨_, _, ⟨as, by simp, ha, has, by omega, hpoint _⟩, _, rfl, _, _,
      ⟨bs, rfl, hb, hbs, by omega, hpoint _⟩, _, rfl, _, _, ⟨cs, rfl, hc, hcs, by omega, hpoint _⟩, _, rfl, _, _,
      ⟨ds, rfl, hd, hds, by omega, hend⟩, by omega, rfl⟩

/-- A network is read from exactly the texts that name it. -/
theorem ofText?_eq_some_iff {s : String} {n : Network} : ofText? s = some n ↔ Spells s n := by
  have hslash : ∀ cs : List Char, ∀ c ∈ ('/' :: cs).head?, c.isDigit = false := by
    intro cs c hc
    cases hc
    decide
  simp only [ofText?, ofChars?, Spells, Option.bind_eq_bind, Option.bind_eq_some_iff, Prod.exists,
    readAddress_eq_some_iff, Net.readNumber_eq_some_iff, Net.readChar_eq_some_iff, Option.pure_def]
  constructor
  · rintro ⟨address, _, ⟨text, hs, haddress, -, -⟩, _, rfl, length, _, ⟨ls, rfl, hls, hwidth, -, -⟩, h⟩
    obtain ⟨hall, h⟩ := Option.dite_none_right_eq_some.mp h
    obtain ⟨rfl, hlt, hle⟩ := hall
    cases h
    exact ⟨text, ls, by rw [hs, List.append_nil], haddress, hls, hwidth⟩
  · rintro ⟨text, ls, hs, haddress, hls, hwidth⟩
    have hlength := n.length_le
    refine ⟨n.address, _, ⟨text, hs, haddress, n.address_lt, hslash _⟩, ls, rfl, n.length, [],
      ⟨ls, (List.append_nil ls).symm, hls, hwidth, by omega, by simp⟩, ?_⟩
    rw [dif_pos ⟨rfl, n.address_lt, n.length_le⟩]

/-! ### The text that is written -/

private theorem length_digits_le {n width : Nat} (hw : 0 < width) (h : n < Nat.pow 10 width) :
    (Nat.toDigits 10 n).length ≤ width :=
  (Nat.length_toDigits_le_iff (by decide) hw).mpr h

private theorem toList_addressText (address : Nat) :
    (addressText address).toList =
      Nat.toDigits 10 (address / 16777216) ++ '.' :: (Nat.toDigits 10 (address / 65536 % 256) ++
        '.' :: (Nat.toDigits 10 (address / 256 % 256) ++ '.' :: Nat.toDigits 10 (address % 256))) := by
  simp [addressText, octets, Nat.toList_repr]

private theorem toList_toText (n : Network) :
    n.toText.toList = (addressText n.address).toList ++ '/' :: Nat.toDigits 10 n.length := by
  simp [toText, Nat.toList_repr]

theorem spells_toText (n : Network) : Spells n.toText n := by
  have hnumber : ∀ k, k < 256 → IsNumeral (Nat.toDigits 10 k) k ∧ (Nat.toDigits 10 k).length ≤ 3 := fun k hk =>
    ⟨isNumeral_toDigits k, length_digits_le (by decide) (Nat.lt_trans hk (by decide))⟩
  have haddress := n.address_lt
  simp only [addressLimit] at haddress
  refine ⟨(addressText n.address).toList, Nat.toDigits 10 n.length, toList_toText n,
    ⟨_, _, _, _, toList_addressText n.address, hnumber _ (by omega), hnumber _ (by omega), hnumber _ (by omega),
      hnumber _ (by omega)⟩, isNumeral_toDigits n.length, ?_⟩
  exact length_digits_le (by decide) (Nat.lt_of_le_of_lt n.length_le (by decide))

/-- A network reads back from its text. -/
theorem ofText?_toText (n : Network) : ofText? n.toText = some n :=
  ofText?_eq_some_iff.mpr n.spells_toText

/-- The text of a network has no blanks, so that trimming leaves it as it is. -/
theorem trim_toText (n : Network) : Text.trim n.toText = n.toText := by
  have hdigit : ∀ k, ∀ c ∈ Nat.toDigits 10 k, Text.isBlank c = false := fun k c hc =>
    Text.isBlank_of_isDigit (Nat.isDigit_of_mem_toDigits (by decide) (by decide) hc)
  apply Text.trim_of_no_blank
  rw [toList_toText, toList_addressText]
  simp only [List.mem_append, List.mem_cons]
  rintro c ((hc | rfl | hc | rfl | hc | rfl | hc) | rfl | hc)
  all_goals first | exact hdigit _ c hc | decide

end Network

end MultiCluster
