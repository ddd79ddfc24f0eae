import MultiCluster.Json.Reader

/-!
# Quoted texts

A quoted text spells each of its characters in one of three ways: as itself, by the letter of an escape, or by its one
or two UTF-16 units. The reader joins units to characters after it has found the closing quote, so that a text with an
unpaired surrogate still has an end. Main statement: `readText_eq_some_iff`.
-/

namespace MultiCluster.Json

/-! ### The parts of a quoted text -/

/-- The characters by which a part of a quoted text is spelled. -/
inductive Piece.IsSpelled : Piece → List Char → Prop
  | char {c : Char} (hquote : c ≠ '"') (hescape : c ≠ '\\') (hcontrol : ¬ c.toNat < 0x20) : IsSpelled (.char c) [c]
  | letter {e c : Char} (h : escaped? e = some c) : IsSpelled (.char c) ['\\', e]
  | unit {a b c d : Char} {n : Nat} (h : hexUnit? a b c d = some n) : IsSpelled (.unit n) ['\\', 'u', a, b, c, d]

/-- The characters of some parts of a quoted text, one after another. -/
inductive SpellsPieces : List Char → List Piece → Prop
  | nil : SpellsPieces [] []
  | cons {cs cs' : List Char} {p : Piece} {ps : List Piece} (hp : p.IsSpelled cs) (hps : SpellsPieces cs' ps) :
      SpellsPieces (cs ++ cs') (p :: ps)

private theorem readPieces_of_isSpelled {p : Piece} {cs : List Char} (h : p.IsSpelled cs) (rest : List Char) :
    readPieces (cs ++ rest) = (readPieces rest).map fun r => (p :: r.1, r.2) := by
  cases h with
  | @char c hquote hescape hcontrol =>
    have hplain : ¬ (c.toNat < 0x20 ∨ c = '\\') := not_or.mpr ⟨hcontrol, hescape⟩
    rw [List.singleton_append, readPieces, if_neg hplain]
    · cases readPieces rest <;> rfl
    · exact hquote
    · exact fun _ _ _ _ _ h => absurd h hescape
    · exact fun _ _ h => absurd h hescape
  | @letter e c h =>
    -- the letter of a unit is none of the others
    have hu : e ≠ 'u' := by rintro rfl; simp [escaped?] at h
    rw [List.cons_append, List.cons_append, List.nil_append, readPieces, h]
    · cases readPieces rest <;> rfl
    · exact fun _ _ _ _ _ he => absurd he hu
  | @unit a b c d n h =>
    simp only [List.cons_append, List.nil_append, readPieces, h]
    cases readPieces rest <;> rfl

/-- The parts of a quoted text are read up to its closing quote. -/
private theorem readPieces_eq_some_iff {cs rest : List Char} {ps : List Piece} :
    readPieces cs = some (ps, rest) ↔ ∃ body, SpellsPieces body ps ∧ cs = body ++ '"' :: rest := by
  constructor
  · intro h
    -- the reader goes part by part, and each part that it has read is spelled by what it has left behind
    fun_induction readPieces cs generalizing ps with
    | case1 => cases h
    | case2 rest' =>
      cases h
      exact ⟨[], .nil, rfl⟩
    | case3 a b c d cs ih =>
      simp only [Option.bind_eq_bind, Option.bind_eq_some_iff] at h
      obtain ⟨n, hn, ⟨ps', rest'⟩, hps, heq⟩ := h
      cases heq
      obtain ⟨body, hbody, rfl⟩ := ih hps
      exact ⟨_, .cons (.unit hn) hbody, rfl⟩
    | case4 e cs hnot ih =>
      simp only [Option.bind_eq_bind, Option.bind_eq_some_iff] at h
      obtain ⟨c, hc, ⟨ps', rest'⟩, hps, heq⟩ := h
      cases heq
      obtain ⟨body, hbody, rfl⟩ := ih hps
      exact ⟨_, .cons (.letter hc) hbody, rfl⟩
    | case5 => cases h
    | case6 c cs hquote hunit hletter hplain ih =>
      simp only [Option.bind_eq_bind, Option.bind_eq_some_iff] at h
      obtain ⟨⟨ps', rest'⟩, hps, heq⟩ := h
      cases heq
      obtain ⟨body, hbody, rfl⟩ := ih hps
      obtain ⟨hcontrol, hescape⟩ := not_or.mp hplain
      exact ⟨_, .cons (.char hquote hescape hcontrol) hbody, rfl⟩
  · rintro ⟨body, hbody, rfl⟩
    induction hbody with
    | nil => rw [List.nil_append, readPieces]
    | cons hp _ ih => rw [List.append_assoc, readPieces_of_isSpelled hp, ih, Option.map_some]

private theorem SpellsPieces.unique {cs : List Char} {ps ps' : List Piece} (h : SpellsPieces cs ps)
    (h' : SpellsPieces cs ps') :
    ps = ps' := by
  have hread : readPieces (cs ++ ['"']) = some (ps, []) := readPieces_eq_some_iff.mpr ⟨cs, h, rfl⟩
  rw [readPieces_eq_some_iff.mpr ⟨cs, h', rfl⟩] at hread
  cases hread
  rfl

/-! ### The characters of a quoted text -/

/-- The UTF-16 units of a character. -/
def utf16 (c : Char) : List Nat :=
  if c.toNat < 0x10000 then [c.toNat]
  else [0xD800 + (c.toNat - 0x10000) / 0x400, 0xDC00 + (c.toNat - 0x10000) % 0x400]

/-- The characters that spell a text between its quotes: each character of the text stands for itself, or is named by
the letter of an escape or by its units. -/
inductive SpellsChars : List Char → List Char → Prop
  | nil : SpellsChars [] []
  | char {c : Char} {cs s : List Char} (hquote : c ≠ '"') (hescape : c ≠ '\\') (hcontrol : ¬ c.toNat < 0x20)
      (h : SpellsChars cs s) : SpellsChars (c :: cs) (c :: s)
  | letter {e c : Char} {cs s : List Char} (he : escaped? e = some c) (h : SpellsChars cs s) :
      SpellsChars ('\\' :: e :: cs) (c :: s)
  | units {c : Char} {us cs s : List Char} (hu : SpellsPieces us ((utf16 c).map .unit)) (h : SpellsChars cs s) :
      SpellsChars (us ++ cs) (c :: s)

private theorem hexValue?_lt {c : Char} {n : Nat} (h : hexValue? c = some n) : n < 16 := by
  have hbounds : ∀ {a b : Char}, a ≤ c ∧ c ≤ b → c.toNat ≤ b.toNat := fun h => UInt32.le_iff_toNat_le.mp h.2
  have h9 : ('9').toNat = 57 := rfl
  have hf : ('f').toNat = 102 := rfl
  have hF : ('F').toNat = 70 := rfl
  unfold hexValue? at h
  split at h
  · rename_i hdigit
    have hc : c ≤ '9' := by
      simp only [Char.isDigit, Bool.and_eq_true, decide_eq_true_eq] at hdigit
      exact hdigit.2
    have hle : c.toNat ≤ ('9').toNat := UInt32.le_iff_toNat_le.mp hc
    cases h
    omega
  · split at h
    · rename_i hlower
      have := hbounds hlower
      cases h
      omega
    · split at h
      · rename_i hupper
        have := hbounds hupper
        cases h
        omega
      · cases h

private theorem hexUnit?_lt {a b c d : Char} {n : Nat} (h : hexUnit? a b c d = some n) : n < 0x10000 := by
  simp only [hexUnit?, Option.bind_eq_bind, Option.bind_eq_some_iff] at h
  obtain ⟨w, hw, x, hx, y, hy, z, hz, heq⟩ := h
  cases heq
  have := hexValue?_lt hw
  have := hexValue?_lt hx
  have := hexValue?_lt hy
  have := hexValue?_lt hz
  omega

private theorem SpellsPieces.append {cs cs' : List Char} {ps ps' : List Piece} (h : SpellsPieces cs ps)
    (h' : SpellsPieces cs' ps') : SpellsPieces (cs ++ cs') (ps ++ ps') := by
  induction h with
  | nil => exact h'
  | cons hp _ ih =>
    rw [List.append_assoc]
    exact .cons hp ih

private theorem toNat_valid (c : Char) : c.toNat < 0xD800 ∨ 0xDFFF < c.toNat ∧ c.toNat < 0x110000 :=
  c.valid

private theorem toNat_ofNat {n : Nat} (h : n < 0xD800 ∨ 0xDFFF < n ∧ n < 0x110000) : (Char.ofNat n).toNat = n := by
  rw [Char.ofNat, dif_pos h]
  rfl

private theorem isHighSurrogate_iff {n : Nat} : isHighSurrogate n = true ↔ 0xD800 ≤ n ∧ n < 0xDC00 := by
  simp [isHighSurrogate]

private theorem isLowSurrogate_iff {n : Nat} : isLowSurrogate n = true ↔ 0xDC00 ≤ n ∧ n < 0xE000 := by
  simp [isLowSurrogate]

private theorem joinPieces_unit {n : Nat} (h : n < 0xD800 ∨ 0xDFFF < n) (ps : List Piece) :
    joinPieces (.unit n :: ps) = (joinPieces ps).map (Char.ofNat n :: ·) := by
  have hhigh : isHighSurrogate n = false := by simp [isHighSurrogate]; omega
  have hlow : isLowSurrogate n = false := by simp [isLowSurrogate]; omega
  rcases ps with _ | ⟨_ | l, ps⟩ <;> simp [joinPieces, hhigh, hlow]

private theorem joinPieces_units (c : Char) (ps : List Piece) :
    joinPieces ((utf16 c).map .unit ++ ps) = (joinPieces ps).map (c :: ·) := by
  have hvalid := toNat_valid c
  unfold utf16
  split
  · rw [List.map_singleton, List.singleton_append, joinPieces_unit (by omega), Char.ofNat_toNat]
  · have hhigh : isHighSurrogate (0xD800 + (c.toNat - 0x10000) / 0x400) = true := isHighSurrogate_iff.mpr (by omega)
    have hlow : isLowSurrogate (0xDC00 + (c.toNat - 0x10000) % 0x400) = true := isLowSurrogate_iff.mpr (by omega)
    have hvalue : 0x10000 + (0xD800 + (c.toNat - 0x10000) / 0x400 - 0xD800) * 0x400 +
        (0xDC00 + (c.toNat - 0x10000) % 0x400 - 0xDC00) = c.toNat := by omega
    simp only [List.map_cons, List.map_nil, List.cons_append, List.nil_append, joinPieces, hhigh, hlow, Bool.and_self,
      ↓reduceIte, hvalue, Char.ofNat_toNat]

private theorem SpellsChars.exists_pieces {cs s : List Char} (h : SpellsChars cs s) :
    ∃ ps, SpellsPieces cs ps ∧ joinPieces ps = some s := by
  induction h with
  | nil => exact ⟨[], .nil, rfl⟩
  | char hquote hescape hcontrol _ ih =>
    obtain ⟨ps, hps, hjoin⟩ := ih
    exact ⟨_, .cons (.char hquote hescape hcontrol) hps, by rw [joinPieces, hjoin, Option.map_some]⟩
  | letter he _ ih =>
    obtain ⟨ps, hps, hjoin⟩ := ih
    exact ⟨_, .cons (.letter he) hps, by rw [joinPieces, hjoin, Option.map_some]⟩
  | units hu _ ih =>
    obtain ⟨ps, hps, hjoin⟩ := ih
    exact ⟨_, hu.append hps, by rw [joinPieces_units, hjoin, Option.map_some]⟩

private theorem lt_of_isSpelled {n : Nat} {cs : List Char} (h : (Piece.unit n).IsSpelled cs) : n < 0x10000 := by
  cases h with
  | unit h => exact hexUnit?_lt h

private theorem SpellsChars.unit {n : Nat} {us cs s : List Char} (hu : (Piece.unit n).IsSpelled us)
    (hn : isHighSurrogate n = false) (hn' : isLowSurrogate n = false) (h : SpellsChars cs s) :
    SpellsChars (us ++ cs) (Char.ofNat n :: s) := by
  have hlt := lt_of_isSpelled hu
  have hvalid : n < 0xD800 ∨ 0xDFFF < n ∧ n < 0x110000 := by
    have hhigh := mt isHighSurrogate_iff.mpr (Bool.eq_false_iff.mp hn)
    have hlow := mt isLowSurrogate_iff.mpr (Bool.eq_false_iff.mp hn')
    omega
  have hunits : utf16 (Char.ofNat n) = [n] := by rw [utf16, toNat_ofNat hvalid, if_pos hlt]
  refine .units ?_ h
  rw [hunits]
  exact List.append_nil us ▸ .cons hu .nil

private theorem SpellsChars.pair {hi lo : Nat} {us us' cs s : List Char} (hu : (Piece.unit hi).IsSpelled us)
    (hu' : (Piece.unit lo).IsSpelled us') (hhigh : isHighSurrogate hi = true) (hlow : isLowSurrogate lo = true)
    (h : SpellsChars cs s) :
    SpellsChars (us ++ (us' ++ cs)) (Char.ofNat (0x10000 + (hi - 0xD800) * 0x400 + (lo - 0xDC00)) :: s) := by
  have hhigh := isHighSurrogate_iff.mp hhigh
  have hlow := isLowSurrogate_iff.mp hlow
  generalize hn : 0x10000 + (hi - 0xD800) * 0x400 + (lo - 0xDC00) = n
  have hunits : utf16 (Char.ofNat n) = [hi, lo] := by
    have hfirst : 0xD800 + (n - 0x10000) / 0x400 = hi := by omega
    have hsecond : 0xDC00 + (n - 0x10000) % 0x400 = lo := by omega
    rw [utf16, toNat_ofNat (by omega), if_neg (by omega), hfirst, hsecond]
  rw [← List.append_assoc]
  refine .units ?_ h
  rw [hunits]
  exact .cons hu (List.append_nil us' ▸ .cons hu' .nil)

private theorem SpellsChars.of_joinPieces {cs s : List Char} {ps : List Piece} (hps : SpellsPieces cs ps)
    (h : joinPieces ps = some s) : SpellsChars cs s := by
  -- a case for each way to join the first parts, and two units make one character if they are a pair
  fun_induction joinPieces ps generalizing cs s with
  | case1 =>
    cases hps
    cases h
    exact .nil
  | case2 c ps ih =>
    obtain ⟨s, hs, rfl⟩ := Option.map_eq_some_iff.mp h
    cases hps with
    | cons hp hps =>
      cases hp with
      | char hquote hescape hcontrol => exact .char hquote hescape hcontrol (ih hps hs)
      | letter he => exact .letter he (ih hps hs)
  | case3 hi lo ps hpair ih =>
    obtain ⟨hhigh, hlow⟩ := Bool.and_eq_true_iff.mp hpair
    obtain ⟨s, hs, rfl⟩ := Option.map_eq_some_iff.mp h
    cases hps with
    | cons hp hps =>
      cases hps with
      | cons hp' hps => exact .pair hp hp' hhigh hlow (ih hps hs)
  | case4 => cases h
  | case5 n lo ps _ hsurrogate ih =>
    obtain ⟨hhigh, hlow⟩ := Bool.or_eq_false_iff.mp (Bool.eq_false_iff.mpr hsurrogate)
    obtain ⟨s, hs, rfl⟩ := Option.map_eq_some_iff.mp h
    cases hps with
    | cons hp hps => exact .unit hp hhigh hlow (ih hps hs)
  | case6 => cases h
  | case7 n ps _ hsurrogate ih =>
    obtain ⟨hhigh, hlow⟩ := Bool.or_eq_false_iff.mp (Bool.eq_false_iff.mpr hsurrogate)
    obtain ⟨s, hs, rfl⟩ := Option.map_eq_some_iff.mp h
    cases hps with
    | cons hp hps => exact .unit hp hhigh hlow (ih hps hs)

/-- What stands between the quotes of a text, and the text, which is none if a surrogate is unpaired. -/
inductive SpellsText : List Char → Option String → Prop
  | text {cs : List Char} {s : String} (h : SpellsChars cs s.toList) : SpellsText cs (some s)
  | unpaired {cs : List Char} {ps : List Piece} (h : SpellsPieces cs ps) (hno : ∀ s, ¬ SpellsChars cs s) :
      SpellsText cs none

private theorem spellsText_iff {cs : List Char} {o : Option String} :
    SpellsText cs o ↔ ∃ ps, SpellsPieces cs ps ∧ (joinPieces ps).map String.ofList = o := by
  constructor
  · rintro (⟨h⟩ | ⟨h, hno⟩)
    · obtain ⟨ps, hps, hjoin⟩ := h.exists_pieces
      exact ⟨ps, hps, by rw [hjoin, Option.map_some, String.ofList_toList]⟩
    · refine ⟨_, h, ?_⟩
      rw [Option.map_eq_none_iff, Option.eq_none_iff_forall_ne_some]
      exact fun s hs => hno s (.of_joinPieces h hs)
  · rintro ⟨ps, hps, rfl⟩
    cases hjoin : joinPieces ps with
    | some s =>
      refine .text ?_
      rw [String.toList_ofList]
      exact .of_joinPieces hps hjoin
    | none =>
      refine .unpaired hps fun s hs => ?_
      obtain ⟨ps', hps', hjoin'⟩ := hs.exists_pieces
      rw [hps'.unique hps, hjoin] at hjoin'
      cases hjoin'

/-- A quoted text is read to its closing quote. -/
theorem readText_eq_some_iff {cs rest : List Char} {o : Option String} :
    readText cs = some (o, rest) ↔ ∃ body, SpellsText body o ∧ cs = body ++ '"' :: rest := by
  simp only [readText, Option.bind_eq_bind, Option.bind_eq_some_iff, spellsText_iff]
  constructor
  · rintro ⟨⟨ps, rest'⟩, hps, heq⟩
    cases heq
    obtain ⟨body, hbody, rfl⟩ := readPieces_eq_some_iff.mp hps
    exact ⟨body, ⟨ps, hbody, rfl⟩, rfl⟩
  · rintro ⟨body, ⟨ps, hbody, rfl⟩, rfl⟩
    exact ⟨(ps, rest), readPieces_eq_some_iff.mpr ⟨body, hbody, rfl⟩, rfl⟩

end MultiCluster.Json
