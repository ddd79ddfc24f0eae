import MultiCluster.Json.Writer
import MultiCluster.Proofs.Json.Grammar

/-!
# Reading JSON values that were written

What is written for a value without fractions spells this value, in either style and at any depth, whatever characters
its texts and keys consist of. So the value reads back. Main statements: `read?_compact` and `read?_indented`.
-/

namespace MultiCluster.Json

/-- A value all of whose parts are texts, integers, truth values and `null`. -/
inductive IsPlain : Json → Prop
  | null : IsPlain null
  | bool (b : Bool) : IsPlain (bool b)
  | integer (n : Int) : IsPlain (integer n)
  | text (s : String) : IsPlain (text s)
  | array {xs : List Json} (h : ∀ x ∈ xs, IsPlain x) : IsPlain (array xs)
  | object {ms : List (String × Json)} (h : ∀ m ∈ ms, IsPlain m.2) : IsPlain (object ms)

/-! ### Texts -/

private theorem hexValue?_digitChar : ∀ d, d < 16 → hexValue? (Nat.digitChar d) = some d := by
  decide

private theorem hexUnit?_low {n : Nat} (h : n < 0x20) :
    hexUnit? '0' '0' (Nat.digitChar (n / 16)) (Nat.digitChar (n % 16)) = some n := by
  have h0 : hexValue? '0' = some 0 := by decide
  have h1 := hexValue?_digitChar (n / 16) (by omega)
  have h2 := hexValue?_digitChar (n % 16) (by omega)
  simp only [hexUnit?, h0, h1, h2, Option.bind_eq_bind, Option.bind_some, Option.pure_def,
    Option.some.injEq]
  omega

/-- An escaped character spells the character. -/
private theorem SpellsChars.escapeChar {cs s : List Char} (c : Char) (h : SpellsChars cs s) :
    SpellsChars (escapeChar c ++ cs) (c :: s) := by
  unfold Json.escapeChar
  split
  · subst_vars; exact .letter (e := '"') rfl h
  split
  · subst_vars; exact .letter (e := '\\') rfl h
  split
  · subst_vars; exact .letter (e := 'b') rfl h
  split
  · subst_vars; exact .letter (e := 'f') rfl h
  split
  · subst_vars; exact .letter (e := 'n') rfl h
  split
  · subst_vars; exact .letter (e := 'r') rfl h
  split
  · subst_vars; exact .letter (e := 't') rfl h
  rename_i hquote hescape _ _ _ _ _
  split
  · rename_i hcontrol
    have hutf16 : utf16 c = [c.toNat] := if_pos (by omega)
    refine .units ?_ h
    rw [hutf16]
    exact .cons (.unit (hexUnit?_low hcontrol)) .nil
  · rename_i hcontrol
    exact .char hquote hescape hcontrol h

private theorem spellsText_escape (s : String) : SpellsText (s.toList.flatMap escapeChar) (some s) := by
  have h : ∀ cs : List Char, SpellsChars (cs.flatMap escapeChar) cs := by
    intro cs
    induction cs with
    | nil => exact .nil
    | cons c cs ih => exact ih.escapeChar c
  exact .text (h s.toList)

/-! ### Integers -/

/-- Only the number zero is written with a zero at its beginning. -/
private theorem digits_head {n : Nat} {ds : List Char} (h : Text.Decimal.digits n = '0' :: ds) : ds = [] := by
  induction n using Nat.strongRecOn generalizing ds with
  | ind n ih =>
    unfold Text.Decimal.digits at h
    rw [Nat.toDigits_eq_if (by decide)] at h
    split at h
    · simp at h; exact h.2
    · rename_i hn
      cases hq : Nat.toDigits 10 (n / 10) with
      | nil => exact absurd hq Nat.toDigits_ne_nil
      | cons d es =>
        -- the first digit is that of `n / 10`, which would then be zero, so that `n` had one digit
        rw [hq, List.cons_append, List.cons.injEq] at h
        have hes : es = [] := ih (n / 10) (by omega) (by rw [Text.Decimal.digits, hq, h.1])
        have hv : Nat.ofDigitChars 10 (Nat.toDigits 10 (n / 10)) 0 = n / 10 := Nat.ofDigitChars_ten_toDigits
        have hz : Nat.ofDigitChars 10 ['0'] 0 = 0 := by decide
        rw [hq, hes, h.1, hz] at hv
        omega

private theorem spellsUnsigned_digits (negative : Bool) (n : Nat) :
    SpellsUnsigned negative (Text.Decimal.digits n) (numberOf negative (Text.Decimal.digits n) none none) := by
  have h : SpellsUnsigned negative (Text.Decimal.digits n ++ ([] ++ [])) _ :=
    .intro (Text.Decimal.isNumeral_toDigits n).toIsDigits (fun _ => digits_head) .none .none
  rwa [List.append_nil, List.append_nil] at h

private theorem spellsNumber_writeInteger (n : Int) : SpellsNumber (writeInteger n) (integer n) := by
  have hvalue : Nat.ofDigitChars 10 (Text.Decimal.digits n.natAbs) 0 = n.natAbs := Nat.ofDigitChars_ten_toDigits
  unfold writeInteger
  split
  · have hnumber : numberOf true (Text.Decimal.digits n.natAbs) none none = integer n := by
      have hne : (n.natAbs == 0) = false := beq_eq_false_iff_ne.mpr (by omega)
      have hn : -(n.natAbs : Int) = n := by omega
      simp only [numberOf, hvalue, hne, hn, Bool.and_false, Bool.false_eq_true, ↓reduceIte]
    exact hnumber ▸ .negative (spellsUnsigned_digits true n.natAbs)
  · have hnumber : numberOf false (Text.Decimal.digits n.natAbs) none none = integer n := by
      have hn : (n.natAbs : Int) = n := by omega
      simp only [numberOf, hvalue, hn, Bool.false_and, Bool.false_eq_true, ↓reduceIte]
    exact hnumber ▸ .positive (spellsUnsigned_digits false n.natAbs)

/-! ### Values -/

private theorem isSpaces_lineBreak (style : Style) (depth : Nat) : IsSpaces (style.lineBreak depth) := by
  cases style with
  | compact => exact isSpaces_nil
  | indented =>
    intro c hc
    rcases List.mem_cons.mp hc with rfl | hc
    · decide
    · rw [List.eq_of_mem_replicate hc]
      decide

private theorem spellsItems_write (style : Style) (depth outer : Nat) {x : Json} {xs : List Json}
    (h : ∀ y ∈ x :: xs, Spells (write style depth y) y) :
    SpellsItems (style.lineBreak depth ++ (write style depth x ++ (writeItems style depth xs ++ style.lineBreak outer)))
      (x :: xs) := by
  induction xs generalizing x with
  | nil =>
    rw [writeItems, List.nil_append]
    exact .one (isSpaces_lineBreak style depth) (h x (by simp)) (isSpaces_lineBreak style outer)
  | cons y ys ih =>
    have hys := ih (x := y) fun z hz => h z (List.mem_cons_of_mem _ hz)
    have hall := SpellsItems.more (isSpaces_lineBreak style depth) (h x (by simp)) isSpaces_nil hys
    simpa only [writeItems, List.nil_append, List.cons_append, List.append_assoc] using hall

private theorem spellsMembers_write (style : Style) (depth outer : Nat) {m : String × Json} {ms : List (String × Json)}
    (h : ∀ n ∈ m :: ms, Spells (write style depth n.2) n.2) :
    SpellsMembers (style.lineBreak depth ++ (writeText m.1 ++ (style.colon ++ (write style depth m.2 ++
      (writeMembers style depth ms ++ style.lineBreak outer))))) ((m :: ms).map fun n => (some n.1, n.2)) := by
  obtain ⟨gap, hgap, hcolon⟩ : ∃ gap, IsSpaces gap ∧ style.colon = ':' :: gap := by
    cases style with
    | compact => exact ⟨[], isSpaces_nil, rfl⟩
    | indented => exact ⟨[' '], by simp [IsSpaces, isSpace], rfl⟩
  have hbreak := isSpaces_lineBreak style
  induction ms generalizing m with
  | nil =>
    have hone :=
      SpellsMembers.one (hbreak depth) (spellsText_escape m.1) isSpaces_nil hgap (h m (by simp)) (hbreak outer)
    simpa only [writeMembers, writeText, hcolon, List.nil_append, List.cons_append, List.append_assoc, List.map_cons,
      List.map_nil] using hone
  | cons n ns ih =>
    have hns := ih (m := n) fun z hz => h z (List.mem_cons_of_mem _ hz)
    have hall :=
      SpellsMembers.more (hbreak depth) (spellsText_escape m.1) isSpaces_nil hgap (h m (by simp)) isSpaces_nil hns
    simpa only [writeMembers, writeText, hcolon, List.nil_append, List.cons_append, List.append_assoc, List.map_cons,
      List.map_nil] using hall

/-- What is written for a value spells the value. -/
private theorem IsPlain.spells_write {j : Json} (hj : j.IsPlain) (style : Style) (depth : Nat) :
    Spells (write style depth j) j := by
  induction hj generalizing depth with
  | null => rw [write]; exact .null
  | bool b =>
    cases b with
    | false => rw [write]; exact .no
    | true => rw [write]; exact .yes
  | integer n => rw [write]; exact .number (spellsNumber_writeInteger n)
  | text s => rw [write]; exact .text (spellsText_escape s)
  | @array xs h ih =>
    cases xs with
    | nil => rw [write]; exact .noItems isSpaces_nil
    | cons x xs =>
      have hitems := spellsItems_write style (depth + 1) depth fun y hy => ih y hy (depth + 1)
      rw [write]
      simpa only [List.cons_append, List.append_assoc] using Spells.array hitems
  | @object ms h ih =>
    cases ms with
    | nil => rw [write]; exact .noMembers isSpaces_nil
    | cons m ms =>
      have hmembers := spellsMembers_write style (depth + 1) depth fun n hn => ih n hn (depth + 1)
      rw [write]
      simpa only [List.cons_append, List.append_assoc] using Spells.object hmembers

/-- A written value is the one that its text holds. -/
private theorem read?_write {j : Json} (hj : j.IsPlain) (style : Style) :
    read? (String.ofList (write style 0 j)) = some j := by
  refine read?_eq_some_iff.mpr ⟨[], _, [], ?_, isSpaces_nil, hj.spells_write style 0, isSpaces_nil⟩
  rw [String.toList_ofList, List.append_nil, List.nil_append]

theorem read?_compact {j : Json} (hj : j.IsPlain) : read? j.compact = some j :=
  read?_write hj .compact

theorem read?_indented {j : Json} (hj : j.IsPlain) : read? j.indented = some j :=
  read?_write hj .indented

end MultiCluster.Json
