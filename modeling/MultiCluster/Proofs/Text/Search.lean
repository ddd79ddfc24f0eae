import MultiCluster.Text.Search

/-!
# Occurrences

A search for the last occurrence of a marker finds nothing exactly if the marker does not occur. If the first character
of the marker stands nowhere else in it, two occurrences do not overlap, and what is found behind the last one is what
stands behind some occurrence and has no other one in it. Main statements: `afterLast?_eq_none_iff` and
`afterLast?_eq_some_iff`.
-/

namespace MultiCluster.Text

variable {marker text rest : List Char}

private theorem stripStart?_eq_none_iff : stripStart? marker text = none ↔ ¬ marker <+: text := by
  simp [stripStart?]

theorem afterLast?_eq_none_iff : afterLast? marker text = none ↔ ¬ marker <:+: text := by
  induction text with
  | nil => rw [afterLast?, stripStart?_eq_none_iff, List.prefix_nil, List.infix_nil]
  | cons c cs ih =>
    rw [List.infix_cons_iff, not_or, ← ih, ← stripStart?_eq_none_iff, afterLast?]
    cases afterLast? marker cs <;> simp

/-- What stands behind the last occurrence does not have another one in it. -/
private theorem not_infix_of_afterLast? (hne : marker ≠ []) (h : afterLast? marker text = some rest) :
    ¬ marker <:+: rest := by
  induction text with
  | nil =>
    have hnil := eq_append_of_stripStart? h
    exact absurd (List.append_eq_nil_iff.mp hnil.symm).1 hne
  | cons c cs ih =>
    rw [afterLast?] at h
    cases hlast : afterLast? marker cs with
    | some rest' =>
      rw [hlast] at h ih
      exact ih h
    | none =>
      rw [hlast] at h
      intro hrest
      cases marker with
      | nil => exact hne rfl
      | cons d marker =>
        -- another occurrence behind this one would have been found first
        obtain ⟨rfl, rfl⟩ := List.cons.inj (eq_append_of_stripStart? h)
        exact afterLast?_eq_none_iff.mp hlast (List.infix_append_of_infix_right hrest)

private theorem afterLast?_append (before : List Char) (h : ¬ marker <:+: (marker ++ rest).tail) :
    afterLast? marker (before ++ (marker ++ rest)) = some rest := by
  induction before with
  | nil =>
    cases htext : marker ++ rest with
    | nil => simp [(List.append_eq_nil_iff.mp htext).1] at h
    | cons c cs =>
      rw [htext, List.tail_cons] at h
      rw [List.nil_append, afterLast?, afterLast?_eq_none_iff.mpr h, ← htext]
      exact stripStart?_append marker rest
  | cons c before ih => rw [List.cons_append, afterLast?, ih]

private theorem infix_append_iff_of_notMem {c : Char} {cs start : List Char} (h : c ∉ start) :
    c :: cs <:+: start ++ rest ↔ c :: cs <:+: rest := by
  induction start with
  | nil => rfl
  | cons d start ih =>
    obtain ⟨hd, hstart⟩ : c ≠ d ∧ c ∉ start := by simpa using h
    rw [List.cons_append, List.infix_cons_iff, ih hstart]
    constructor
    · rintro (hhere | hrest)
      · exact absurd (List.cons_prefix_cons.mp hhere).1 hd
      · exact hrest
    · exact .inr

/-- Behind a marker that does not overlap itself, what is found has no other occurrence in it. -/
theorem afterLast?_eq_some_iff {c : Char} {cs : List Char} (h : c ∉ cs) :
    afterLast? (c :: cs) text = some rest ↔ (∃ before, text = before ++ (c :: cs ++ rest)) ∧ ¬ c :: cs <:+: rest := by
  constructor
  · intro hlast
    obtain ⟨before, rfl⟩ := suffix_of_afterLast? hlast
    exact ⟨⟨before, List.append_assoc ..⟩, not_infix_of_afterLast? (List.cons_ne_nil c cs) hlast⟩
  · rintro ⟨⟨before, rfl⟩, hrest⟩
    refine afterLast?_append before ?_
    rwa [List.cons_append, List.tail_cons, infix_append_iff_of_notMem h]

end MultiCluster.Text
