import MultiCluster.Text.Blank

/-!
# Words

The words of a text are its maximal runs of characters that are not blank. So blanks between two texts separate their
words, however many they are, and a text that is a word is its own only word. Main statements: `words_gap`,
`words_of_isWord`, `isWord_of_mem_words`, and `head?_words_eq_some_iff` on the first word.
-/

namespace MultiCluster.Text

/-- A text that is not empty and has no blank in it. -/
def IsWord (w : List Char) : Prop :=
  w ≠ [] ∧ ∀ c ∈ w, isBlank c = false

theorem words_of_isWord {w : List Char} (h : IsWord w) : words w = [w] := by
  cases w with
  | nil => exact absurd rfl h.1
  | cons c cs => exact words_of_no_blank h.2

private theorem words_blank_append {gap : List Char} (h : ∀ c ∈ gap, isBlank c = true) (cs : List Char) :
    words (gap ++ cs) = words cs := by
  induction gap with
  | nil => rfl
  | cons b gap ih =>
    have hb : isBlank b = true := h b List.mem_cons_self
    rw [List.cons_append, words_cons_blank hb]
    exact ih fun c hc => h c (List.mem_cons_of_mem b hc)

theorem words_gap {gap : List Char} (hne : gap ≠ []) (h : ∀ c ∈ gap, isBlank c = true) (xs ys : List Char) :
    words (xs ++ gap ++ ys) = words xs ++ words ys := by
  cases gap with
  | nil => exact absurd rfl hne
  | cons b gap =>
    have hb : isBlank b = true := h b List.mem_cons_self
    have hgap : ∀ c ∈ gap, isBlank c = true := fun c hc => h c (List.mem_cons_of_mem b hc)
    rw [List.append_assoc, List.cons_append, words_append_blank hb, words_blank_append hgap]

private theorem isWord_of_mem_extendFirst {c : Char} {ws : List (List Char)} {w : List Char} (hc : isBlank c = false)
    (hws : ∀ v ∈ ws, IsWord v) (h : w ∈ extendFirst c ws) : IsWord w := by
  cases ws with
  | nil =>
    obtain rfl : w = [c] := by simpa [extendFirst] using h
    exact ⟨by simp, by simpa using hc⟩
  | cons v vs =>
    rcases List.mem_cons.mp h with rfl | h
    · have hv := hws v List.mem_cons_self
      exact ⟨by simp, by simpa [hc] using hv.2⟩
    · exact hws w (List.mem_cons_of_mem v h)

theorem isWord_of_mem_words {cs w : List Char} (h : w ∈ words cs) : IsWord w := by
  induction cs generalizing w with
  | nil => simp [words] at h
  | cons c cs ih =>
    rw [words] at h
    split at h
    · exact ih h
    · -- the character extends the first word, if it stands right before one, or is a word of its own
      have hc : isBlank c = false := by simpa using ‹¬isBlank c = true›
      split at h
      · exact isWord_of_mem_extendFirst hc (fun v hv => ih hv) h
      · rcases List.mem_cons.mp h with rfl | h
        · exact ⟨by simp, by simpa using hc⟩
        · exact ih h

theorem head?_words_append {gap w rest : List Char} (hgap : ∀ c ∈ gap, isBlank c = true) (hw : IsWord w)
    (hrest : ∀ c ∈ rest.head?, isBlank c = true) : (words (gap ++ (w ++ rest))).head? = some w := by
  rw [words_blank_append hgap]
  cases rest with
  | nil => rw [List.append_nil, words_of_isWord hw, List.head?_cons]
  | cons b rest =>
    have hb : isBlank b = true := hrest b rfl
    rw [words_append_blank hb, words_of_isWord hw]
    rfl

private theorem exists_gap_of_head?_words {cs w : List Char} (h : (words cs).head? = some w) :
    ∃ gap rest, cs = gap ++ (w ++ rest) ∧ (∀ c ∈ gap, isBlank c = true) ∧ ∀ c ∈ rest.head?, isBlank c = true := by
  induction cs generalizing w with
  | nil => cases h
  | cons c cs ih =>
    by_cases hc : isBlank c = true
    · rw [words_cons_blank hc] at h
      obtain ⟨gap, rest, rfl, hgap, hrest⟩ := ih h
      exact ⟨c :: gap, rest, rfl, by simpa [hc] using hgap, hrest⟩
    · rw [words, if_neg hc] at h
      by_cases hbegins : beginsWord cs = true
      · -- the character extends the first word of the rest, which stands at its beginning
        rw [if_pos hbegins] at h
        cases hws : words cs with
        | nil => exact absurd hws (words_ne_nil hbegins)
        | cons v vs =>
          rw [hws] at h ih
          obtain ⟨gap, rest, rfl, hgap, hrest⟩ := ih rfl
          obtain rfl : c :: v = w := Option.some.inj h
          cases gap with
          | nil => exact ⟨[], rest, rfl, List.forall_mem_nil _, hrest⟩
          | cons b gap =>
            have hb : isBlank b = true := hgap b List.mem_cons_self
            simp [beginsWord, hb] at hbegins
      · rw [if_neg hbegins] at h
        obtain rfl : [c] = w := Option.some.inj h
        refine ⟨[], cs, rfl, List.forall_mem_nil _, fun d hd => ?_⟩
        simpa [beginsWord, Option.mem_def.mp hd] using hbegins

/-- The first word of a text stands behind blanks only, and reaches up to the next blank. -/
theorem head?_words_eq_some_iff {cs w : List Char} : (words cs).head? = some w ↔
    ∃ gap rest, cs = gap ++ (w ++ rest) ∧ (∀ c ∈ gap, isBlank c = true) ∧ IsWord w ∧
      ∀ c ∈ rest.head?, isBlank c = true := by
  constructor
  · intro h
    obtain ⟨gap, rest, hcs, hgap, hrest⟩ := exists_gap_of_head?_words h
    exact ⟨gap, rest, hcs, hgap, isWord_of_mem_words (List.mem_of_mem_head? h), hrest⟩
  · rintro ⟨gap, rest, rfl, hgap, hw, hrest⟩
    exact head?_words_append hgap hw hrest

end MultiCluster.Text
