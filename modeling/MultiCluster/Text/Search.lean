/-!
# Searching in texts

Where a marker occurs in a text, and what stands behind it.
-/

namespace MultiCluster.Text

/-- What follows `start` in a text that begins with it. -/
def stripStart? (start text : List Char) : Option (List Char) :=
  if start.isPrefixOf text then some (text.drop start.length) else none

/-- What follows the first occurrence of `marker`. -/
def afterFirst? (marker : List Char) : List Char → Option (List Char)
  | [] => stripStart? marker []
  | c :: cs =>
    match stripStart? marker (c :: cs) with
    | some rest => some rest
    | none => afterFirst? marker cs

/-- What follows the last occurrence of `marker`. -/
def afterLast? (marker : List Char) : List Char → Option (List Char)
  | [] => stripStart? marker []
  | c :: cs =>
    match afterLast? marker cs with
    | some rest => some rest
    | none => stripStart? marker (c :: cs)

/-- Equality of texts up to the case of the letters of the Latin alphabet. -/
def equalIgnoringCase (s t : String) : Bool :=
  s.toList.map Char.toLower == t.toList.map Char.toLower

theorem stripStart?_append (start text : List Char) : stripStart? start (start ++ text) = some text := by
  have : start.isPrefixOf (start ++ text) = true := by simp [List.isPrefixOf_iff_prefix]
  simp [stripStart?, this]

theorem eq_append_of_stripStart? {start text rest : List Char} (h : stripStart? start text = some rest) :
    text = start ++ rest := by
  simp only [stripStart?] at h
  split at h
  · rename_i hp
    obtain ⟨t, rfl⟩ := List.isPrefixOf_iff_prefix.mp hp
    simpa using h
  · exact absurd h (by simp)

/-- What follows an occurrence of the marker ends the text. -/
theorem suffix_of_afterLast? {marker text rest : List Char} (h : afterLast? marker text = some rest) :
    ∃ before, text = before ++ marker ++ rest := by
  induction text with
  | nil => exact ⟨[], by simpa using eq_append_of_stripStart? h⟩
  | cons c cs ih =>
    simp only [afterLast?] at h
    cases hl : afterLast? marker cs with
    | some r =>
      rw [hl] at h
      obtain rfl : r = rest := by simpa using h
      obtain ⟨b, hb⟩ := ih hl
      exact ⟨c :: b, by simp [hb]⟩
    | none =>
      rw [hl] at h
      exact ⟨[], by simpa using eq_append_of_stripStart? h⟩

end MultiCluster.Text
