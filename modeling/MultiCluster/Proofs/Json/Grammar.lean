import MultiCluster.Proofs.Json.Number
import MultiCluster.Proofs.Json.Text

/-!
# The grammar of JSON

Which characters spell a value: names, numbers, quoted texts, and arrays and objects with spaces around their items,
keys and values. The reader accepts a text if it holds a value between spaces, and then it returns this value. It reads
with a bound on the nesting, and no text nests deeper than it is long.

Main statement: `read?_eq_some_iff`.
-/

namespace MultiCluster.Json

/-- Nothing but spaces. -/
def IsSpaces (cs : List Char) : Prop :=
  ∀ c ∈ cs, isSpace c = true

mutual

/-- The characters of a value. -/
inductive Spells : List Char → Json → Prop
  | null : Spells ['n', 'u', 'l', 'l'] null
  | yes : Spells ['t', 'r', 'u', 'e'] (bool true)
  | no : Spells ['f', 'a', 'l', 's', 'e'] (bool false)
  | number {cs : List Char} {j : Json} (h : SpellsNumber cs j) : Spells cs j
  | text {cs : List Char} {s : String} (h : SpellsText cs (some s)) : Spells ('"' :: (cs ++ ['"'])) (text s)
  | unpaired {cs : List Char} (h : SpellsText cs none) : Spells ('"' :: (cs ++ ['"'])) illFormed
  | noItems {s : List Char} (hs : IsSpaces s) : Spells ('[' :: (s ++ [']'])) (array [])
  | array {cs : List Char} {js : List Json} (h : SpellsItems cs js) : Spells ('[' :: (cs ++ [']'])) (array js)
  | noMembers {s : List Char} (hs : IsSpaces s) : Spells ('\x7b' :: (s ++ ['\x7d'])) (object [])
  | object {cs : List Char} {ms : List (String × Json)} (h : SpellsMembers cs (ms.map fun m => (some m.1, m.2))) :
      Spells ('\x7b' :: (cs ++ ['\x7d'])) (object ms)
  | unpairedKey {cs : List Char} {ms : List (Option String × Json)} (h : SpellsMembers cs ms)
      (hkey : ∃ m ∈ ms, m.1 = none) : Spells ('\x7b' :: (cs ++ ['\x7d'])) illFormed

/-- The characters of one or more items, with commas between them and spaces around them. -/
inductive SpellsItems : List Char → List Json → Prop
  | one {s cs s' : List Char} {j : Json} (hs : IsSpaces s) (h : Spells cs j) (hs' : IsSpaces s') :
      SpellsItems (s ++ (cs ++ s')) [j]
  | more {s cs s' cs' : List Char} {j : Json} {js : List Json} (hs : IsSpaces s) (h : Spells cs j) (hs' : IsSpaces s')
      (hmore : SpellsItems cs' js) : SpellsItems (s ++ (cs ++ (s' ++ ',' :: cs'))) (j :: js)

/-- The characters of one or more members, with a colon behind each key, commas between the members and spaces around
all. -/
inductive SpellsMembers : List Char → List (Option String × Json) → Prop
  | one {s key s₁ s₂ cs s' : List Char} {k : Option String} {j : Json} (hs : IsSpaces s) (hkey : SpellsText key k)
      (hs₁ : IsSpaces s₁) (hs₂ : IsSpaces s₂) (h : Spells cs j) (hs' : IsSpaces s') :
      SpellsMembers (s ++ '"' :: (key ++ '"' :: (s₁ ++ ':' :: (s₂ ++ (cs ++ s'))))) [(k, j)]
  | more {s key s₁ s₂ cs s' cs' : List Char} {k : Option String} {j : Json} {ms : List (Option String × Json)}
      (hs : IsSpaces s) (hkey : SpellsText key k) (hs₁ : IsSpaces s₁) (hs₂ : IsSpaces s₂) (h : Spells cs j)
      (hs' : IsSpaces s') (hmore : SpellsMembers cs' ms) :
      SpellsMembers (s ++ '"' :: (key ++ '"' :: (s₁ ++ ':' :: (s₂ ++ (cs ++ (s' ++ ',' :: cs')))))) ((k, j) :: ms)

end

/-- A text holds a value if nothing but spaces stands around it. -/
def Holds (s : String) (j : Json) : Prop :=
  ∃ before cs after, s.toList = before ++ (cs ++ after) ∧ IsSpaces before ∧ Spells cs j ∧ IsSpaces after

/-! ### Spaces -/

section

variable {s cs rest : List Char}

private theorem IsSpaces.append {s' : List Char} (h : IsSpaces s) (h' : IsSpaces s') : IsSpaces (s ++ s') :=
  fun c hc => (List.mem_append.mp hc).elim (h c) (h' c)

theorem isSpaces_nil : IsSpaces [] :=
  fun _ hc => nomatch hc

private theorem skipSpaces_append (h : IsSpaces s) (cs : List Char) : skipSpaces (s ++ cs) = skipSpaces cs :=
  List.dropWhile_append_of_pos h

private theorem skipSpaces_cons {c : Char} (h : isSpace c = false) (cs : List Char) : skipSpaces (c :: cs) = c :: cs :=
  List.dropWhile_cons_of_neg (by simp [h])

private theorem exists_skipSpaces (h : skipSpaces cs = rest) : ∃ s, IsSpaces s ∧ cs = s ++ rest :=
  ⟨cs.takeWhile isSpace, fun _ hc => List.all_eq_true.mp List.all_takeWhile _ hc,
    h ▸ List.takeWhile_append_dropWhile.symm⟩

/-- A number does not go on with a space. -/
private theorem IsSpaces.endsNumber (h : IsSpaces s) (hrest : EndsNumber rest) : EndsNumber (s ++ rest) := by
  cases s with
  | nil => exact hrest
  | cons c s =>
    have hspace := h c List.mem_cons_self
    simp only [isSpace, Bool.or_eq_true, beq_iff_eq] at hspace
    refine endsNumber_cons ?_ _
    rcases hspace with ((rfl | rfl) | rfl) | rfl <;> decide

end

/-! ### The first character of a value -/

/-- A value does not begin with a space, and it does not look like the end of an array. -/
private theorem Spells.head {cs : List Char} {j : Json} (h : Spells cs j) :
    ∃ c cs', cs = c :: cs' ∧ isSpace c = false ∧ c ≠ ']' := by
  cases h with
  | number h =>
    obtain ⟨c, cs', rfl, hc⟩ := h.head
    refine ⟨c, cs', rfl, ?_, ?_⟩
    · simp only [isSpace, Bool.or_eq_false_iff, beq_eq_false_iff_ne]
      refine ⟨⟨⟨?_, ?_⟩, ?_⟩, ?_⟩ <;> (rintro rfl; exact absurd hc (by decide))
    · rintro rfl
      exact absurd hc (by decide)
  | _ => exact ⟨_, _, rfl, by decide, by decide⟩

private theorem Spells.skipSpaces_append {cs : List Char} {j : Json} (h : Spells cs j) (rest : List Char) :
    skipSpaces (cs ++ rest) = cs ++ rest := by
  obtain ⟨c, cs', rfl, hspace, -⟩ := h.head
  exact skipSpaces_cons hspace _

private theorem Spells.length_pos {cs : List Char} {j : Json} (h : Spells cs j) : 0 < cs.length := by
  obtain ⟨c, cs', rfl, -⟩ := h.head
  exact Nat.succ_pos _

private theorem readValue_of_number {c : Char} (hc : c = '-' ∨ c.isDigit = true) (fuel : Nat) (cs : List Char) :
    readValue (fuel + 1) (c :: cs) = readNumber (c :: cs) := by
  have hne : c ≠ '"' ∧ c ≠ '[' ∧ c ≠ '\x7b' ∧ c ≠ 'n' ∧ c ≠ 't' ∧ c ≠ 'f' := by
    rcases hc with rfl | hc
    · decide
    · refine ⟨?_, ?_, ?_, ?_, ?_, ?_⟩ <;> (rintro rfl; exact absurd hc (by decide))
  unfold readValue
  split <;> simp_all

/-! ### Objects -/

private theorem objectOf_texts (ms : List (String × Json)) :
    objectOf (ms.map fun m => (some m.1, m.2)) = object ms := by
  have h : ∀ ns : List (String × Json),
      ((ns.map fun m => (some m.1, m.2)).mapM fun m : Option String × Json => m.1.map fun k => (k, m.2)) =
        some ns := by
    intro ns
    induction ns with
    | nil => rfl
    | cons n ns ih => simp [ih]
  rw [objectOf, h]

private theorem objectOf_unpaired {ms : List (Option String × Json)} (h : ∃ m ∈ ms, m.1 = none) :
    objectOf ms = illFormed := by
  have hnone : (ms.mapM fun m => m.1.map fun k => (k, m.2)) = none := by
    induction ms with
    | nil => simp at h
    | cons m ms ih =>
      obtain ⟨key, j⟩ := m
      cases key with
      | none => rfl
      | some k =>
        have hms : ∃ m ∈ ms, m.1 = none := by simpa using h
        simp [ih hms]
  rw [objectOf, hnone]

/-- All keys are texts, or one has an unpaired surrogate. -/
private theorem keys_cases (ms : List (Option String × Json)) :
    (∃ ns : List (String × Json), ms = ns.map fun m => (some m.1, m.2)) ∨ ∃ m ∈ ms, m.1 = none := by
  induction ms with
  | nil => exact .inl ⟨[], rfl⟩
  | cons m ms ih =>
    obtain ⟨key, j⟩ := m
    cases key with
    | none => exact .inr ⟨_, List.mem_cons_self, rfl⟩
    | some k =>
      rcases ih with ⟨ns, rfl⟩ | ⟨m, hm, hkey⟩
      · exact .inl ⟨(k, j) :: ns, rfl⟩
      · exact .inr ⟨m, List.mem_cons_of_mem _ hm, hkey⟩

/-! ### The reader takes what the grammar allows -/

/-- With this bound on the nesting, the reader takes the values whose texts are no longer than the bound. -/
structure Takes (fuel : Nat) : Prop where
  value : ∀ {cs rest : List Char} {j : Json}, Spells cs j → cs.length ≤ fuel → EndsNumber rest →
    readValue fuel (cs ++ rest) = some (j, rest)
  items : ∀ {cs : List Char} {js : List Json}, SpellsItems cs js → cs.length < fuel → ∀ rest,
    readItems fuel (skipSpaces (cs ++ ']' :: rest)) = some (js, rest)
  members : ∀ {cs : List Char} {ms : List (Option String × Json)}, SpellsMembers cs ms → cs.length < fuel → ∀ rest,
    readMembers fuel (skipSpaces (cs ++ '\x7d' :: rest)) = some (ms, rest)

/-- Items do not look like the end of their array. -/
private theorem SpellsItems.head {cs : List Char} {js : List Json} (h : SpellsItems cs js) (rest : List Char) :
    ∃ c cs', skipSpaces (cs ++ rest) = c :: cs' ∧ c ≠ ']' := by
  cases h with
  | one hs h hs' =>
    obtain ⟨c, cs', rfl, hspace, hc⟩ := h.head
    exact ⟨c, _, by rw [List.append_assoc, skipSpaces_append hs]; exact skipSpaces_cons hspace _, hc⟩
  | more hs h hs' hmore =>
    obtain ⟨c, cs', rfl, hspace, hc⟩ := h.head
    exact ⟨c, _, by rw [List.append_assoc, skipSpaces_append hs]; exact skipSpaces_cons hspace _, hc⟩

private theorem SpellsMembers.head {cs : List Char} {ms : List (Option String × Json)} (h : SpellsMembers cs ms)
    (rest : List Char) : ∃ cs', skipSpaces (cs ++ rest) = '"' :: cs' := by
  cases h with
  | one hs =>
    rw [List.append_assoc, skipSpaces_append hs]
    exact ⟨_, skipSpaces_cons (by decide) _⟩
  | more hs =>
    rw [List.append_assoc, skipSpaces_append hs]
    exact ⟨_, skipSpaces_cons (by decide) _⟩

section

variable {fuel : Nat} {cs rest : List Char} {j : Json} {js : List Json} {ms : List (Option String × Json)}

private theorem readValue_array (h : SpellsItems cs js)
    (hread : readItems fuel (skipSpaces (cs ++ ']' :: rest)) = some (js, rest)) :
    readValue (fuel + 1) ('[' :: (cs ++ ']' :: rest)) = some (array js, rest) := by
  obtain ⟨c, cs', hskip, hc⟩ := h.head (']' :: rest)
  rw [readValue]
  rw [hskip] at hread ⊢
  split
  · rename_i heq
    exact absurd (List.cons.inj heq).1 hc
  · rw [hread]
    rfl

private theorem readValue_object (h : SpellsMembers cs ms)
    (hread : readMembers fuel (skipSpaces (cs ++ '\x7d' :: rest)) = some (ms, rest)) :
    readValue (fuel + 1) ('\x7b' :: (cs ++ '\x7d' :: rest)) = some (objectOf ms, rest) := by
  obtain ⟨cs', hskip⟩ := h.head ('\x7d' :: rest)
  rw [readValue]
  rw [hskip] at hread ⊢
  split
  · rename_i heq
    cases (List.cons.inj heq).1
  · rw [hread]
    rfl

private theorem Takes.readValue_succ (ht : Takes fuel) (h : Spells cs j) (hlength : cs.length ≤ fuel + 1)
    (hrest : EndsNumber rest) : readValue (fuel + 1) (cs ++ rest) = some (j, rest) := by
  cases h with
  | null => rfl
  | yes => rfl
  | no => rfl
  | number h =>
    have hread := h.read hrest
    obtain ⟨c, cs', rfl, hc⟩ := h.head
    rw [List.cons_append] at hread ⊢
    rw [readValue_of_number hc, hread]
  | @text cs s h =>
    have hread : readText (cs ++ '"' :: rest) = some (some s, rest) := readText_eq_some_iff.mpr ⟨cs, h, rfl⟩
    rw [List.cons_append, List.append_assoc, List.singleton_append, readValue, hread]
    rfl
  | @unpaired cs h =>
    have hread : readText (cs ++ '"' :: rest) = some (none, rest) := readText_eq_some_iff.mpr ⟨cs, h, rfl⟩
    rw [List.cons_append, List.append_assoc, List.singleton_append, readValue, hread]
    rfl
  | noItems hs =>
    rw [List.cons_append, List.append_assoc, List.singleton_append, readValue, skipSpaces_append hs,
      skipSpaces_cons (by decide)]
    rfl
  | @array cs js h =>
    rw [List.cons_append, List.append_assoc, List.singleton_append]
    exact readValue_array h (ht.items h (by simp at hlength; omega) rest)
  | noMembers hs =>
    rw [List.cons_append, List.append_assoc, List.singleton_append, readValue, skipSpaces_append hs,
      skipSpaces_cons (by decide)]
    rfl
  | @object cs ms h =>
    rw [List.cons_append, List.append_assoc, List.singleton_append,
      readValue_object h (ht.members h (by simp at hlength; omega) rest), objectOf_texts]
  | @unpairedKey cs ms h hkey =>
    rw [List.cons_append, List.append_assoc, List.singleton_append,
      readValue_object h (ht.members h (by simp at hlength; omega) rest), objectOf_unpaired hkey]

private theorem Takes.readItems_succ (ht : Takes fuel) (h : SpellsItems cs js) (hlength : cs.length < fuel + 1)
    (rest : List Char) : readItems (fuel + 1) (skipSpaces (cs ++ ']' :: rest)) = some (js, rest) := by
  cases h with
  | @one s cs s' j hs h hs' =>
    simp only [List.length_append] at hlength
    have hread := ht.value h (by omega) (hs'.endsNumber (endsNumber_cons (c := ']') (by decide) rest))
    simp only [List.append_assoc]
    rw [skipSpaces_append hs, h.skipSpaces_append, readItems, hread]
    simp [skipSpaces_append hs', skipSpaces_cons (c := ']') (by decide)]
  | @more s cs s' cs' j js hs h hs' hmore =>
    simp only [List.length_append, List.length_cons] at hlength
    have hread := ht.value h (by omega) (hs'.endsNumber (endsNumber_cons (c := ',') (by decide) (cs' ++ ']' :: rest)))
    have hread' := ht.items hmore (by omega) rest
    simp only [List.append_assoc, List.cons_append]
    rw [skipSpaces_append hs, h.skipSpaces_append, readItems, hread]
    simp [skipSpaces_append hs', skipSpaces_cons (c := ',') (by decide), hread']

/-- A member is read to its value, and what stands behind it decides how reading goes on. -/
private theorem readMembers_member {key s₁ s₂ tail : List Char} {k : Option String} (hkey : SpellsText key k)
    (hs₁ : IsSpaces s₁) (hs₂ : IsSpaces s₂) (h : Spells cs j) (hread : readValue fuel (cs ++ tail) = some (j, tail)) :
    readMembers (fuel + 1) ('"' :: (key ++ '"' :: (s₁ ++ ':' :: (s₂ ++ (cs ++ tail))))) =
      match skipSpaces tail with
      | '\x7d' :: cs => some ([(k, j)], cs)
      | ',' :: cs => (readMembers fuel (skipSpaces cs)).map fun r => ((k, j) :: r.1, r.2)
      | _ => none := by
  have hname : readText (key ++ '"' :: (s₁ ++ ':' :: (s₂ ++ (cs ++ tail)))) =
      some (k, s₁ ++ ':' :: (s₂ ++ (cs ++ tail))) :=
    readText_eq_some_iff.mpr ⟨key, hkey, rfl⟩
  have hvalue : skipSpaces (s₂ ++ (cs ++ tail)) = cs ++ tail := by
    rw [skipSpaces_append hs₂, h.skipSpaces_append]
  simp only [readMembers, hname, Option.bind_eq_bind, Option.bind_some, skipSpaces_append hs₁,
    skipSpaces_cons (c := ':') (by decide), hvalue, hread]
  generalize skipSpaces tail = behind
  split
  · rfl
  · show _ = (readMembers fuel (skipSpaces _)).map _
    cases readMembers fuel (skipSpaces _) <;> rfl
  · simp_all

private theorem Takes.readMembers_succ (ht : Takes fuel) (h : SpellsMembers cs ms) (hlength : cs.length < fuel + 1)
    (rest : List Char) : readMembers (fuel + 1) (skipSpaces (cs ++ '\x7d' :: rest)) = some (ms, rest) := by
  cases h with
  | @one s key s₁ s₂ cs s' k j hs hkey hs₁ hs₂ h hs' =>
    simp only [List.length_append, List.length_cons] at hlength
    have hread := ht.value h (by omega) (hs'.endsNumber (endsNumber_cons (c := '\x7d') (by decide) rest))
    simp only [List.append_assoc, List.cons_append]
    rw [skipSpaces_append hs, skipSpaces_cons (by decide), readMembers_member hkey hs₁ hs₂ h hread,
      skipSpaces_append hs', skipSpaces_cons (by decide)]
    rfl
  | @more s key s₁ s₂ cs s' cs' k j ms hs hkey hs₁ hs₂ h hs' hmore =>
    simp only [List.length_append, List.length_cons] at hlength
    have hread := ht.value h (by omega)
      (hs'.endsNumber (endsNumber_cons (c := ',') (by decide) (cs' ++ '\x7d' :: rest)))
    have hread' := ht.members hmore (by omega) rest
    simp only [List.append_assoc, List.cons_append]
    rw [skipSpaces_append hs, skipSpaces_cons (by decide), readMembers_member hkey hs₁ hs₂ h hread,
      skipSpaces_append hs', skipSpaces_cons (by decide)]
    simp only [hread', Option.map_some]

end

private theorem takes (fuel : Nat) : Takes fuel := by
  -- the bound falls by one with each bracket, brace and comma, and the text has lost one character by then
  induction fuel with
  | zero =>
    refine ⟨fun h hlength => ?_, fun _ hlength => absurd hlength (Nat.not_lt_zero _),
      fun _ hlength => absurd hlength (Nat.not_lt_zero _)⟩
    have hpos := h.length_pos
    omega
  | succ fuel ih => exact ⟨ih.readValue_succ, ih.readItems_succ, ih.readMembers_succ⟩

/-! ### The grammar allows what the reader takes -/

/-- With this bound on the nesting, what the reader takes belongs to the grammar. -/
structure Allows (fuel : Nat) : Prop where
  value : ∀ {cs rest : List Char} {j : Json}, readValue fuel cs = some (j, rest) → ∃ v, Spells v j ∧ cs = v ++ rest
  items : ∀ {cs rest : List Char} {js : List Json}, readItems fuel cs = some (js, rest) →
    ∃ v, SpellsItems v js ∧ cs = v ++ ']' :: rest
  members : ∀ {cs rest : List Char} {ms : List (Option String × Json)}, readMembers fuel cs = some (ms, rest) →
    ∃ v, SpellsMembers v ms ∧ cs = v ++ '\x7d' :: rest

private theorem SpellsItems.spaces {s cs : List Char} {js : List Json} (hs : IsSpaces s) (h : SpellsItems cs js) :
    SpellsItems (s ++ cs) js := by
  cases h with
  | one hs₀ h hs' =>
    rw [← List.append_assoc]
    exact .one (hs.append hs₀) h hs'
  | more hs₀ h hs' hmore =>
    rw [← List.append_assoc]
    exact .more (hs.append hs₀) h hs' hmore

private theorem SpellsMembers.spaces {s cs : List Char} {ms : List (Option String × Json)} (hs : IsSpaces s)
    (h : SpellsMembers cs ms) : SpellsMembers (s ++ cs) ms := by
  cases h with
  | one hs₀ hkey hs₁ hs₂ h hs' =>
    rw [← List.append_assoc]
    exact .one (hs.append hs₀) hkey hs₁ hs₂ h hs'
  | more hs₀ hkey hs₁ hs₂ h hs' hmore =>
    rw [← List.append_assoc]
    exact .more (hs.append hs₀) hkey hs₁ hs₂ h hs' hmore

section

variable {fuel : Nat} {cs rest : List Char} {j : Json} {js : List Json} {ms : List (Option String × Json)}

private theorem Allows.readValue_succ (ha : Allows fuel) (h : readValue (fuel + 1) cs = some (j, rest)) :
    ∃ v, Spells v j ∧ cs = v ++ rest := by
  unfold readValue at h
  split at h
  · cases h
  · obtain ⟨⟨o, rest'⟩, hread, heq⟩ := Option.map_eq_some_iff.mp h
    cases heq
    obtain ⟨body, hbody, rfl⟩ := readText_eq_some_iff.mp hread
    cases o with
    | some s => exact ⟨_, .text hbody, by simp⟩
    | none => exact ⟨_, .unpaired hbody, by simp⟩
  · split at h
    · rename_i hskip
      cases h
      obtain ⟨s, hs, rfl⟩ := exists_skipSpaces hskip
      exact ⟨_, .noItems hs, by simp⟩
    · obtain ⟨⟨js, rest'⟩, hread, heq⟩ := Option.map_eq_some_iff.mp h
      cases heq
      obtain ⟨v, hv, hskip⟩ := ha.items hread
      obtain ⟨s, hs, rfl⟩ := exists_skipSpaces hskip
      exact ⟨_, .array (hv.spaces hs), by simp⟩
  · split at h
    · rename_i hskip
      cases h
      obtain ⟨s, hs, rfl⟩ := exists_skipSpaces hskip
      exact ⟨_, .noMembers hs, by simp⟩
    · obtain ⟨⟨ms, rest'⟩, hread, heq⟩ := Option.map_eq_some_iff.mp h
      cases heq
      obtain ⟨v, hv, hskip⟩ := ha.members hread
      obtain ⟨s, hs, rfl⟩ := exists_skipSpaces hskip
      rcases keys_cases ms with ⟨ns, rfl⟩ | hkey
      · rw [objectOf_texts]
        exact ⟨_, .object (hv.spaces hs), by simp⟩
      · rw [objectOf_unpaired hkey]
        exact ⟨_, .unpairedKey (hv.spaces hs) hkey, by simp⟩
  · cases h
    exact ⟨_, .null, rfl⟩
  · cases h
    exact ⟨_, .yes, rfl⟩
  · cases h
    exact ⟨_, .no, rfl⟩
  · obtain ⟨v, hv, rfl⟩ := of_readNumber h
    exact ⟨v, .number hv, rfl⟩

private theorem Allows.readItems_succ (ha : Allows fuel) (h : readItems (fuel + 1) cs = some (js, rest)) :
    ∃ v, SpellsItems v js ∧ cs = v ++ ']' :: rest := by
  rw [readItems] at h
  obtain ⟨⟨j, cs₁⟩, hread, hnext⟩ := Option.bind_eq_some_iff.mp h
  obtain ⟨v, hv, rfl⟩ := ha.value hread
  simp only at hnext
  split at hnext
  · rename_i hskip
    cases hnext
    obtain ⟨s, hs, rfl⟩ := exists_skipSpaces hskip
    exact ⟨_, .one isSpaces_nil hv hs, by simp⟩
  · -- the spaces behind a comma belong to the items that follow
    rename_i hskip
    obtain ⟨s, hs, rfl⟩ := exists_skipSpaces hskip
    obtain ⟨⟨js', rest'⟩, hread', heq⟩ := Option.bind_eq_some_iff.mp hnext
    cases heq
    obtain ⟨v', hv', hskip'⟩ := ha.items hread'
    obtain ⟨s', hs', rfl⟩ := exists_skipSpaces hskip'
    exact ⟨_, .more isSpaces_nil hv hs (hv'.spaces hs'), by simp⟩
  · cases hnext

private theorem Allows.readMembers_succ (ha : Allows fuel) (h : readMembers (fuel + 1) cs = some (ms, rest)) :
    ∃ v, SpellsMembers v ms ∧ cs = v ++ '\x7d' :: rest := by
  unfold readMembers at h
  split at h
  · obtain ⟨⟨k, cs₁⟩, hread, hnext⟩ := Option.bind_eq_some_iff.mp h
    obtain ⟨key, hkey, rfl⟩ := readText_eq_some_iff.mp hread
    simp only at hnext
    split at hnext
    · rename_i hcolon
      obtain ⟨s₁, hs₁, rfl⟩ := exists_skipSpaces hcolon
      obtain ⟨⟨j, cs₃⟩, hread', hnext'⟩ := Option.bind_eq_some_iff.mp hnext
      obtain ⟨v, hv, hskip⟩ := ha.value hread'
      obtain ⟨s₂, hs₂, rfl⟩ := exists_skipSpaces hskip
      simp only at hnext'
      split at hnext'
      · rename_i hskip'
        cases hnext'
        obtain ⟨s, hs, rfl⟩ := exists_skipSpaces hskip'
        exact ⟨_, .one isSpaces_nil hkey hs₁ hs₂ hv hs, by simp⟩
      · rename_i hskip'
        obtain ⟨s, hs, rfl⟩ := exists_skipSpaces hskip'
        obtain ⟨⟨ms', rest'⟩, hmore, heq⟩ := Option.bind_eq_some_iff.mp hnext'
        cases heq
        obtain ⟨v', hv', hskip''⟩ := ha.members hmore
        obtain ⟨s', hs', rfl⟩ := exists_skipSpaces hskip''
        exact ⟨_, .more isSpaces_nil hkey hs₁ hs₂ hv hs (hv'.spaces hs'), by simp⟩
      · cases hnext'
    · cases hnext
  · cases h

end

private theorem allows (fuel : Nat) : Allows fuel := by
  induction fuel with
  | zero =>
    refine ⟨fun h => ?_, fun h => ?_, fun h => ?_⟩
    · cases h
    · cases h
    · cases h
  | succ fuel ih => exact ⟨ih.readValue_succ, ih.readItems_succ, ih.readMembers_succ⟩

/-- The reader accepts exactly the texts that hold a value, and returns this value. -/
theorem read?_eq_some_iff {s : String} {j : Json} : read? s = some j ↔ Holds s j := by
  have hspaces : ∀ {cs}, skipSpaces cs = [] ↔ IsSpaces cs := by
    intro cs
    constructor
    · intro h
      obtain ⟨s, hs, rfl⟩ := exists_skipSpaces h
      rwa [List.append_nil]
    · intro h
      rw [← List.append_nil cs, skipSpaces_append h]
      rfl
  simp only [read?, readChars?, Option.bind_eq_bind, Option.bind_eq_some_iff, List.isEmpty_iff,
    Option.ite_none_right_eq_some, Option.some.injEq, hspaces]
  constructor
  · rintro ⟨⟨j', rest⟩, hread, hrest, rfl⟩
    obtain ⟨cs, hcs, hskip⟩ := (allows _).value hread
    obtain ⟨before, hbefore, hs⟩ := exists_skipSpaces hskip
    exact ⟨before, cs, rest, hs, hbefore, hcs, hrest⟩
  · rintro ⟨before, cs, after, hs, hbefore, hcs, hafter⟩
    -- no text nests deeper than it is long, so that the bound of the reader does not matter
    have hend : EndsNumber (after ++ []) := hafter.endsNumber (by simp [EndsNumber])
    have hlength : cs.length ≤ s.toList.length + 1 := by
      rw [hs]
      simp only [List.length_append]
      omega
    refine ⟨(j, after), ?_, hafter, rfl⟩
    rw [List.append_nil] at hend
    rw [← (takes (s.toList.length + 1)).value hcs hlength hend, hs, skipSpaces_append hbefore, hcs.skipSpaces_append]

end MultiCluster.Json
