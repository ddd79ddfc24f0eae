import MultiCluster.Json.Reader
import MultiCluster.Proofs.Text.Numeral

/-!
# Numbers

A number has digits, and it may have a sign, a fraction and an exponent. Nothing marks its end: it is read up to the
first character that cannot belong to it. Main statements: `SpellsNumber.read` and `of_readNumber`.
-/

namespace MultiCluster.Json

open Text.Decimal (IsDigits)

/-- The digits of a fraction behind their point, or no fraction. -/
inductive SpellsFraction : List Char → Option (List Char) → Prop
  | none : SpellsFraction [] none
  | some {ds : List Char} (h : IsDigits ds) : SpellsFraction ('.' :: ds) (some ds)

/-- An exponent behind its letter, with or without a sign, or no exponent. -/
inductive SpellsExponent : List Char → Option Int → Prop
  | none : SpellsExponent [] none
  | unsigned {e : Char} {ds : List Char} (he : e = 'e' ∨ e = 'E') (h : IsDigits ds) :
      SpellsExponent (e :: ds) (some (Nat.ofDigitChars 10 ds 0))
  | plus {e : Char} {ds : List Char} (he : e = 'e' ∨ e = 'E') (h : IsDigits ds) :
      SpellsExponent (e :: '+' :: ds) (some (Nat.ofDigitChars 10 ds 0))
  | minus {e : Char} {ds : List Char} (he : e = 'e' ∨ e = 'E') (h : IsDigits ds) :
      SpellsExponent (e :: '-' :: ds) (some (-(Nat.ofDigitChars 10 ds 0 : Int)))

/-- A number without its sign: only the number zero begins with a zero before its point. -/
inductive SpellsUnsigned (negative : Bool) : List Char → Json → Prop
  | intro {ds fs es : List Char} {fraction : Option (List Char)} {exponent : Option Int} (hds : IsDigits ds)
      (hzero : ∀ rest, ds = '0' :: rest → rest = []) (hfs : SpellsFraction fs fraction)
      (hes : SpellsExponent es exponent) :
      SpellsUnsigned negative (ds ++ (fs ++ es)) (numberOf negative ds fraction exponent)

/-- The characters of a number. -/
inductive SpellsNumber : List Char → Json → Prop
  | positive {cs : List Char} {j : Json} (h : SpellsUnsigned false cs j) : SpellsNumber cs j
  | negative {cs : List Char} {j : Json} (h : SpellsUnsigned true cs j) : SpellsNumber ('-' :: cs) j

/-- What stands behind a number must not go on with it. -/
def EndsNumber (rest : List Char) : Prop :=
  ∀ c ∈ rest.head?, c.isDigit = false ∧ c ≠ '.' ∧ c ≠ 'e' ∧ c ≠ 'E'

theorem endsNumber_cons {c : Char} (h : c.isDigit = false ∧ c ≠ '.' ∧ c ≠ 'e' ∧ c ≠ 'E') (cs : List Char) :
    EndsNumber (c :: cs) := by
  intro d hd
  cases hd
  exact h

private theorem spanDigits_append {ds rest : List Char} (hds : IsDigits ds)
    (hrest : ∀ c ∈ rest.head?, c.isDigit = false) : spanDigits (ds ++ rest) = (ds, rest) := by
  have hend : rest.takeWhile Char.isDigit = [] ∧ rest.dropWhile Char.isDigit = rest := by
    cases rest with
    | nil => exact ⟨rfl, rfl⟩
    | cons c cs => simp [hrest c (by simp)]
  rw [spanDigits, List.takeWhile_append_of_pos hds.isDigit, List.dropWhile_append_of_pos hds.isDigit, hend.1, hend.2,
    List.append_nil]

private theorem of_spanDigits {cs ds rest : List Char} (h : spanDigits cs = (ds, rest)) (hne : ds ≠ []) :
    IsDigits ds ∧ cs = ds ++ rest := by
  cases h
  exact ⟨⟨hne, fun c hc => List.all_eq_true.mp List.all_takeWhile c hc⟩, List.takeWhile_append_dropWhile.symm⟩

/-! ### The parts of a number -/

private theorem readWhole_append {ds rest : List Char} (hds : IsDigits ds) (hzero : ∀ ds', ds = '0' :: ds' → ds' = [])
    (hrest : ∀ c ∈ rest.head?, c.isDigit = false) : readWhole (ds ++ rest) = some (ds, rest) := by
  rw [readWhole, spanDigits_append hds hrest]
  split
  · rename_i heq
    exact absurd (Prod.mk.inj heq).1 hds.ne_nil
  · rename_i heq
    cases hzero _ (Prod.mk.inj heq).1
  · rfl

private theorem of_readWhole {cs ds rest : List Char} (h : readWhole cs = some (ds, rest)) :
    IsDigits ds ∧ (∀ ds', ds = '0' :: ds' → ds' = []) ∧ cs = ds ++ rest := by
  unfold readWhole at h
  split at h
  · cases h
  · cases h
  · rename_i hempty hzero
    have hspan := Option.some.inj h
    have hne : ds ≠ [] := fun hnil => hempty rest (by rw [hspan, hnil])
    obtain ⟨hds, hcs⟩ := of_spanDigits hspan hne
    refine ⟨hds, fun ds' hds' => ?_, hcs⟩
    cases ds' with
    | nil => rfl
    | cons d ds'' => exact absurd (by rw [hspan, hds']) (hzero d ds'' rest)

private theorem readFraction_append {fs rest : List Char} {fraction : Option (List Char)}
    (h : SpellsFraction fs fraction) (hrest : ∀ c ∈ rest.head?, c.isDigit = false ∧ c ≠ '.') :
    readFraction (fs ++ rest) = some (fraction, rest) := by
  cases h with
  | none =>
    rw [List.nil_append]
    unfold readFraction
    split
    · exact absurd rfl (hrest '.' rfl).2
    · rfl
  | some hds =>
    rw [List.cons_append, readFraction, spanDigits_append hds fun c hc => (hrest c hc).1]
    split
    · rename_i heq
      exact absurd (Prod.mk.inj heq).1 hds.ne_nil
    · rename_i heq
      cases heq
      rfl

private theorem of_readFraction {cs rest : List Char} {fraction : Option (List Char)}
    (h : readFraction cs = some (fraction, rest)) : ∃ fs, SpellsFraction fs fraction ∧ cs = fs ++ rest := by
  unfold readFraction at h
  split at h
  · split at h
    · cases h
    · rename_i hne hspan
      cases h
      obtain ⟨hds, rfl⟩ := of_spanDigits hspan fun hnil => hne (by rw [hnil])
      exact ⟨_, .some hds, rfl⟩
  · cases h
    exact ⟨[], .none, rfl⟩

private theorem readExponentDigits_append {ds rest : List Char} (hds : IsDigits ds)
    (hrest : ∀ c ∈ rest.head?, c.isDigit = false) :
    readExponentDigits (ds ++ rest) = some (Nat.ofDigitChars 10 ds 0, rest) := by
  rw [readExponentDigits, spanDigits_append hds hrest]
  split
  · rename_i heq
    exact absurd (Prod.mk.inj heq).1 hds.ne_nil
  · rename_i heq
    cases heq
    rfl

private theorem of_readExponentDigits {cs rest : List Char} {n : Nat} (h : readExponentDigits cs = some (n, rest)) :
    ∃ ds, IsDigits ds ∧ n = Nat.ofDigitChars 10 ds 0 ∧ cs = ds ++ rest := by
  unfold readExponentDigits at h
  split at h
  · cases h
  · rename_i hne hspan
    cases h
    obtain ⟨hds, rfl⟩ := of_spanDigits hspan fun hnil => hne (by rw [hnil])
    exact ⟨_, hds, rfl, rfl⟩

private theorem head_of_isDigits {ds : List Char} (h : IsDigits ds) (rest : List Char) :
    ∃ d ds', ds ++ rest = d :: ds' ∧ d.isDigit = true := by
  obtain ⟨d, ds', rfl⟩ := List.exists_cons_of_ne_nil h.ne_nil
  exact ⟨d, ds' ++ rest, rfl, h.isDigit d List.mem_cons_self⟩

private theorem readExponent_append {es rest : List Char} {exponent : Option Int} (h : SpellsExponent es exponent)
    (hrest : EndsNumber rest) : readExponent (es ++ rest) = some (exponent, rest) := by
  have hdigit : ∀ c ∈ rest.head?, c.isDigit = false := fun c hc => (hrest c hc).1
  cases h with
  | none =>
    cases rest with
    | nil => rfl
    | cons c cs =>
      obtain ⟨-, -, he, hE⟩ := hrest c (by simp)
      simp [readExponent, he, hE]
  | @unsigned e ds he hds =>
    obtain ⟨d, ds', hcs, hd⟩ := head_of_isDigits hds rest
    have hread := readExponentDigits_append hds hdigit
    rw [List.cons_append]
    rw [hcs] at hread ⊢
    -- a digit is no sign, so that the digits follow the letter
    have hsign : ∀ s cs, d :: ds' = s :: cs → s ≠ '-' ∧ s ≠ '+' := by
      rintro s cs heq
      cases heq
      exact ⟨by rintro rfl; exact absurd hd (by decide), by rintro rfl; exact absurd hd (by decide)⟩
    rw [readExponent, if_pos he, hread, Option.map_some]
    · exact fun cs heq => (hsign _ cs heq).1 rfl
    · exact fun cs heq => (hsign _ cs heq).2 rfl
  | plus he hds =>
    rw [List.cons_append, List.cons_append, readExponent, if_pos he]
    simp only [readExponentDigits_append hds hdigit, Option.map_some]
  | minus he hds =>
    rw [List.cons_append, List.cons_append, readExponent, if_pos he]
    simp only [readExponentDigits_append hds hdigit, Option.map_some]

private theorem of_readExponent {cs rest : List Char} {exponent : Option Int}
    (h : readExponent cs = some (exponent, rest)) : ∃ es, SpellsExponent es exponent ∧ cs = es ++ rest := by
  cases cs with
  | nil =>
    cases h
    exact ⟨[], .none, rfl⟩
  | cons e cs =>
    unfold readExponent at h
    simp only at h
    split at h
    · rename_i he
      split at h
      all_goals
        obtain ⟨⟨n, rest'⟩, hread, heq⟩ := Option.map_eq_some_iff.mp h
        cases heq
        obtain ⟨ds, hds, rfl, rfl⟩ := of_readExponentDigits hread
      · exact ⟨_, .minus he hds, rfl⟩
      · exact ⟨_, .plus he hds, rfl⟩
      · exact ⟨_, .unsigned he hds, rfl⟩
    · cases h
      exact ⟨[], .none, rfl⟩

/-! ### Numbers -/

/-- Where an exponent may stand, or a number end, neither digits nor a fraction go on. -/
private theorem SpellsExponent.ends {es rest : List Char} {exponent : Option Int} (h : SpellsExponent es exponent)
    (hrest : EndsNumber rest) : ∀ c ∈ (es ++ rest).head?, c.isDigit = false ∧ c ≠ '.' := by
  have hletter : ∀ {e : Char}, e = 'e' ∨ e = 'E' → e.isDigit = false ∧ e ≠ '.' := by
    rintro e (rfl | rfl) <;> decide
  intro c hc
  cases h with
  | none => exact ⟨(hrest c hc).1, (hrest c hc).2.1⟩
  | unsigned he => cases hc; exact hletter he
  | plus he => cases hc; exact hletter he
  | minus he => cases hc; exact hletter he

private theorem SpellsFraction.ends {fs rest : List Char} {fraction : Option (List Char)}
    (h : SpellsFraction fs fraction) (hrest : ∀ c ∈ rest.head?, c.isDigit = false ∧ c ≠ '.') :
    ∀ c ∈ (fs ++ rest).head?, c.isDigit = false := by
  intro c hc
  cases h with
  | none => exact (hrest c hc).1
  | some => cases hc; decide

private theorem SpellsUnsigned.read {negative : Bool} {cs rest : List Char} {j : Json}
    (h : SpellsUnsigned negative cs j) (hrest : EndsNumber rest) :
    readUnsigned negative (cs ++ rest) = some (j, rest) := by
  cases h with
  | intro hds hzero hfs hes =>
    have hexponent := hes.ends hrest
    rw [readUnsigned, List.append_assoc, List.append_assoc, readWhole_append hds hzero (hfs.ends hexponent)]
    simp only [Option.bind_eq_bind, Option.bind_some, readFraction_append hfs hexponent,
      readExponent_append hes hrest, Option.pure_def]

private theorem of_readUnsigned {negative : Bool} {cs rest : List Char} {j : Json}
    (h : readUnsigned negative cs = some (j, rest)) : ∃ v, SpellsUnsigned negative v j ∧ cs = v ++ rest := by
  simp only [readUnsigned, Option.bind_eq_bind, Option.bind_eq_some_iff] at h
  obtain ⟨⟨ds, cs₁⟩, hwhole, ⟨fraction, cs₂⟩, hfraction, ⟨exponent, cs₃⟩, hexponent, heq⟩ := h
  cases heq
  obtain ⟨hds, hzero, rfl⟩ := of_readWhole hwhole
  obtain ⟨fs, hfs, rfl⟩ := of_readFraction hfraction
  obtain ⟨es, hes, rfl⟩ := of_readExponent hexponent
  exact ⟨_, .intro hds hzero hfs hes, by simp only [List.append_assoc]⟩

/-- A number begins with its sign or with a digit. -/
theorem SpellsNumber.head {cs : List Char} {j : Json} (h : SpellsNumber cs j) :
    ∃ c cs', cs = c :: cs' ∧ (c = '-' ∨ c.isDigit = true) := by
  cases h with
  | positive h =>
    cases h with
    | @intro ds fs es _ _ hds =>
      obtain ⟨d, ds', hcs, hd⟩ := head_of_isDigits hds (fs ++ es)
      exact ⟨d, ds', hcs, .inr hd⟩
  | negative h => exact ⟨_, _, rfl, .inl rfl⟩

/-- A number is read to its end. -/
theorem SpellsNumber.read {cs rest : List Char} {j : Json} (h : SpellsNumber cs j) (hrest : EndsNumber rest) :
    readNumber (cs ++ rest) = some (j, rest) := by
  cases h with
  | negative h => exact h.read hrest
  | positive h =>
    have hsign : ∀ cs', cs ++ rest ≠ '-' :: cs' := by
      cases h with
      | @intro ds fs es _ _ hds =>
        intro cs' heq
        obtain ⟨d, ds', hcs, hd⟩ := head_of_isDigits hds ((fs ++ es) ++ rest)
        rw [List.append_assoc, hcs] at heq
        cases heq
        exact absurd hd (by decide)
    rw [readNumber]
    · exact h.read hrest
    · exact hsign

theorem of_readNumber {cs rest : List Char} {j : Json} (h : readNumber cs = some (j, rest)) :
    ∃ v, SpellsNumber v j ∧ cs = v ++ rest := by
  unfold readNumber at h
  split at h
  · obtain ⟨v, hv, rfl⟩ := of_readUnsigned h
    exact ⟨_, .negative hv, rfl⟩
  · obtain ⟨v, hv, rfl⟩ := of_readUnsigned h
    exact ⟨_, .positive hv, rfl⟩

end MultiCluster.Json
