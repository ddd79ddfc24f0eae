import MultiCluster.Text.Decimal

/-!
# Numerals

A numeral is a text of digits, and leading zeros do not change its value. The reader of unsigned numbers takes exactly
the numerals of the numbers below its limit, with or without a plus sign. Main statement: `read_eq_ok_iff`.
-/

namespace MultiCluster.Text.Decimal

/-- One or more digits. -/
structure IsDigits (ds : List Char) : Prop where
  ne_nil : ds ≠ []
  isDigit : ∀ c ∈ ds, c.isDigit = true

/-- The digits `ds` stand for the number `n`. -/
structure IsNumeral (ds : List Char) (n : Nat) : Prop extends IsDigits ds where
  value : Nat.ofDigitChars 10 ds 0 = n

theorem isNumeral_toDigits (n : Nat) : IsNumeral (Nat.toDigits 10 n) n where
  ne_nil := Nat.toDigits_ne_nil
  isDigit := fun _ hc => Nat.isDigit_of_mem_toDigits (by decide) (by decide) hc
  value := Nat.ofDigitChars_ten_toDigits

/-- The text `s` names the unsigned number `n`: by its digits, in front of which one plus sign may stand. -/
def Spells (s : String) (n : Nat) : Prop :=
  ∃ ds, (s.toList = ds ∨ s.toList = '+' :: ds) ∧ IsNumeral ds n

private theorem digitValue?_eq_none {c : Char} (h : ¬ c.isDigit = true) : digitValue? c = none := by
  simp [digitValue?, h]

private theorem of_readDigits_eq_ok {limit n : Nat} {cs : List Char} {value : Nat} (hvalue : value < limit)
    (h : readDigits limit value cs = .ok n) :
    (∀ c ∈ cs, c.isDigit = true) ∧ Nat.ofDigitChars 10 cs value = n ∧ n < limit := by
  induction cs generalizing value with
  | nil =>
    cases h
    exact ⟨by simp, rfl, hvalue⟩
  | cons c cs ih =>
    by_cases hc : c.isDigit = true
    · rw [readDigits, digitValue?_eq_some hc] at h
      simp only at h
      split at h
      · rename_i hlt
        obtain ⟨hdigits, hn, hlimit⟩ := ih hlt h
        rw [Nat.ofDigitChars_cons]
        exact ⟨by simpa [hc] using hdigits, hn, hlimit⟩
      · cases h
    · rw [readDigits, digitValue?_eq_none hc] at h
      cases h

/-- Digits behind a number below the limit are read exactly if the number that they continue it to is below it. -/
private theorem readDigits_eq_ok_iff {limit n value : Nat} {cs : List Char} (hvalue : value < limit) :
    readDigits limit value cs = .ok n ↔
      (∀ c ∈ cs, c.isDigit = true) ∧ Nat.ofDigitChars 10 cs value = n ∧ n < limit := by
  constructor
  · exact of_readDigits_eq_ok hvalue
  · rintro ⟨hdigits, rfl, hlimit⟩
    exact readDigits_eq_ok cs hdigits hlimit

private theorem readDigits_eq_ok_iff_isNumeral {limit n : Nat} {cs : List Char} (hne : cs ≠ []) (hlimit : 0 < limit) :
    readDigits limit 0 cs = .ok n ↔ IsNumeral cs n ∧ n < limit := by
  rw [readDigits_eq_ok_iff hlimit]
  constructor
  · exact fun ⟨hdigits, hn, hlt⟩ => ⟨⟨⟨hne, hdigits⟩, hn⟩, hlt⟩
  · exact fun ⟨h, hlt⟩ => ⟨h.isDigit, h.value, hlt⟩

/-- No numeral begins with a plus sign. -/
private theorem IsNumeral.head_ne_plus {cs : List Char} {n : Nat} : ¬ IsNumeral ('+' :: cs) n := by
  intro h
  exact absurd (h.isDigit '+' List.mem_cons_self) (by decide)

/-- The texts from which an unsigned number below the limit is read are the ones that name it. -/
theorem read_eq_ok_iff {limit n : Nat} (hlimit : 0 < limit) {s : String} :
    read limit s = .ok n ↔ Spells s n ∧ n < limit := by
  unfold read Spells
  generalize s.toList = cs
  cases cs with
  | nil =>
    constructor
    · intro h
      cases h
    · rintro ⟨⟨ds, rfl | h, hds⟩, -⟩
      · exact absurd rfl hds.ne_nil
      · cases h
  | cons c cs =>
    by_cases hc : c = '+'
    · subst hc
      have hspells : (∃ ds, ('+' :: cs = ds ∨ '+' :: cs = '+' :: ds) ∧ IsNumeral ds n) ↔ IsNumeral cs n := by
        constructor
        · rintro ⟨ds, rfl | h, hds⟩
          · exact absurd hds IsNumeral.head_ne_plus
          · cases h
            exact hds
        · exact fun h => ⟨cs, .inr rfl, h⟩
      rw [hspells]
      cases cs with
      | nil => simpa [readChars] using fun h : IsNumeral [] n => absurd rfl h.ne_nil
      | cons d ds =>
        rw [← readDigits_eq_ok_iff_isNumeral (List.cons_ne_nil d ds) hlimit]
        rfl
    · have hspells : (∃ ds, (c :: cs = ds ∨ c :: cs = '+' :: ds) ∧ IsNumeral ds n) ↔ IsNumeral (c :: cs) n := by
        constructor
        · rintro ⟨ds, rfl | h, hds⟩
          · exact hds
          · exact absurd (List.cons.inj h).1 hc
        · exact fun h => ⟨c :: cs, .inl rfl, h⟩
      have hread : readChars limit (c :: cs) = readDigits limit 0 (c :: cs) := by
        unfold readChars
        split <;> simp_all
      rw [hspells, hread, readDigits_eq_ok_iff_isNumeral (List.cons_ne_nil c cs) hlimit]

end MultiCluster.Text.Decimal
