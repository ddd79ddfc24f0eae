/-!
# Blank characters

The characters with the Unicode property `White_Space`, and what depends on them: trimming a text, splitting
it into words, and deciding whether it is blank. `words_append_blank` says that a blank between two texts
separates their words.
-/

namespace MultiCluster.Text

/-- The characters with the Unicode property `White_Space`. -/
def isBlank (c : Char) : Bool :=
  let n := c.toNat
  (0x09 ≤ n && n ≤ 0x0D) || n == 0x20 || n == 0x85 || n == 0xA0 || n == 0x1680 ||
    (0x2000 ≤ n && n ≤ 0x200A) || n == 0x2028 || n == 0x2029 || n == 0x202F || n == 0x205F || n == 0x3000

/-- A text without the characters satisfying `p` at its end. -/
def dropEnd (p : Char → Bool) (cs : List Char) : List Char :=
  (cs.reverse.dropWhile p).reverse

/-- A text without the blanks at both ends. -/
def trimChars (cs : List Char) : List Char :=
  dropEnd isBlank (cs.dropWhile isBlank)

/-- A text without the blanks at both ends. -/
def trim (s : String) : String :=
  String.ofList (trimChars s.toList)

/-- A text of blanks only, or an empty one. -/
def isBlankText (s : String) : Bool :=
  s.toList.all isBlank

/-- Whether a text begins with a word. -/
def beginsWord (cs : List Char) : Bool :=
  cs.head?.any fun c => !isBlank c

/-- Puts a character in front of the first word. -/
def extendFirst (c : Char) : List (List Char) → List (List Char)
  | [] => [[c]]
  | w :: ws => (c :: w) :: ws

/-- The maximal runs of characters that are not blank, in order. -/
def words : List Char → List (List Char)
  | [] => []
  | c :: cs =>
    if isBlank c then words cs
    else if beginsWord cs then extendFirst c (words cs)
    else [c] :: words cs

theorem words_cons_blank {c : Char} (h : isBlank c = true) (cs : List Char) :
    words (c :: cs) = words cs := by
  simp [words, h]

private theorem extendFirst_ne_nil (c : Char) (ws : List (List Char)) : extendFirst c ws ≠ [] := by
  cases ws <;> simp [extendFirst]

/-- A text that begins with a word has one. -/
theorem words_ne_nil {cs : List Char} (h : beginsWord cs = true) : words cs ≠ [] := by
  cases cs with
  | nil => simp [beginsWord] at h
  | cons c cs =>
    have hc : isBlank c = false := by simpa [beginsWord] using h
    simp only [words, hc, Bool.false_eq_true, ↓reduceIte]
    split
    · exact extendFirst_ne_nil c _
    · simp

private theorem extendFirst_append {ws : List (List Char)} (h : ws ≠ []) (c : Char) (vs : List (List Char)) :
    extendFirst c (ws ++ vs) = extendFirst c ws ++ vs := by
  cases ws with
  | nil => exact absurd rfl h
  | cons w ws => rfl

/-- A run of characters that are not blank is one word. -/
theorem words_of_no_blank {c : Char} {cs : List Char} (h : ∀ d ∈ c :: cs, isBlank d = false) :
    words (c :: cs) = [c :: cs] := by
  induction cs generalizing c with
  | nil => simp [words, beginsWord, h c (by simp)]
  | cons d ds ih =>
    have hd := ih (c := d) (fun e he => h e (List.mem_cons_of_mem _ he))
    rw [words, hd]
    simp [h c (by simp), h d (by simp), beginsWord, extendFirst]

/-- Whether a text begins with a word does not depend on what stands behind a blank. -/
private theorem beginsWord_append_blank {b : Char} (hb : isBlank b = true) (xs ys : List Char) :
    beginsWord (xs ++ b :: ys) = beginsWord xs := by
  cases xs <;> simp [beginsWord, hb]

/-- A blank between two texts separates their words. -/
theorem words_append_blank {b : Char} (hb : isBlank b = true) (xs ys : List Char) :
    words (xs ++ b :: ys) = words xs ++ words ys := by
  induction xs with
  | nil => simp [words, words_cons_blank hb]
  | cons c cs ih =>
    simp only [List.cons_append, words, ih, beginsWord_append_blank hb]
    split
    · rfl
    · split
      · exact extendFirst_append (words_ne_nil ‹_›) c _
      · rfl

end MultiCluster.Text
