import MultiCluster.Text.Blank

/-!
# Trimming

Trimming takes away the blanks at both ends of a text and nothing else: what is left neither begins nor ends with a
blank, and before and behind it stood blanks only. Main statement: `trim_eq_iff`.
-/

namespace MultiCluster.Text

/-- The text `t` stands between blanks in the text `s`, and neither begins nor ends with a blank. -/
def TrimsTo (s t : String) : Prop :=
  ∃ before after, s.toList = before ++ (t.toList ++ after) ∧
    (∀ c ∈ before, isBlank c = true) ∧ (∀ c ∈ after, isBlank c = true) ∧
    (∀ c ∈ t.toList.head?, isBlank c = false) ∧ ∀ c ∈ t.toList.getLast?, isBlank c = false

section

variable {p : Char → Bool} {xs ys : List Char}

private theorem dropWhile_append (hx : ∀ c ∈ xs, p c = true) (hy : ∀ c ∈ ys.head?, p c = false) :
    (xs ++ ys).dropWhile p = ys := by
  rw [List.dropWhile_append_of_pos hx]
  cases ys with
  | nil => rfl
  | cons c cs => rw [List.dropWhile_cons_of_neg (by simp [hy c (by simp)])]

private theorem dropEnd_append (hx : ∀ c ∈ xs.getLast?, p c = false) (hy : ∀ c ∈ ys, p c = true) :
    dropEnd p (xs ++ ys) = xs := by
  rw [dropEnd, List.reverse_append, dropWhile_append (by simpa using hy) (by simpa using hx), List.reverse_reverse]

private theorem head?_dropWhile (p : Char → Bool) (cs : List Char) : ∀ c ∈ (cs.dropWhile p).head?, p c = false := by
  intro c hc
  have hnot := List.head?_dropWhile_not p cs
  rw [Option.mem_def.mp hc] at hnot
  exact hnot

private theorem mem_takeWhile {cs : List Char} {c : Char} (h : c ∈ cs.takeWhile p) : p c = true :=
  List.all_eq_true.mp List.all_takeWhile c h

private theorem eq_dropEnd_append (p : Char → Bool) (cs : List Char) :
    cs = dropEnd p cs ++ (cs.reverse.takeWhile p).reverse := by
  rw [dropEnd, ← List.reverse_append, List.takeWhile_append_dropWhile, List.reverse_reverse]

/-- What is left when the characters satisfying `p` are taken off the end of a text. -/
theorem dropEnd_eq_iff {cs : List Char} : dropEnd p cs = xs ↔
    (∃ ys, cs = xs ++ ys ∧ ∀ c ∈ ys, p c = true) ∧ ∀ c ∈ xs.getLast?, p c = false := by
  constructor
  · rintro rfl
    refine ⟨⟨_, eq_dropEnd_append p cs, fun c hc => mem_takeWhile (List.mem_reverse.mp hc)⟩, ?_⟩
    intro c hc
    refine head?_dropWhile p cs.reverse c ?_
    rwa [dropEnd, List.getLast?_reverse] at hc
  · rintro ⟨⟨ys, rfl, hys⟩, hlast⟩
    exact dropEnd_append hlast hys

end

private theorem trimsTo_trim (s : String) : TrimsTo s (trim s) := by
  rw [trim, trimChars, TrimsTo, String.toList_ofList]
  refine ⟨s.toList.takeWhile isBlank, ((s.toList.dropWhile isBlank).reverse.takeWhile isBlank).reverse, ?_,
    fun c hc => mem_takeWhile hc, fun c hc => mem_takeWhile (List.mem_reverse.mp hc), ?_, ?_⟩
  · rw [← eq_dropEnd_append, List.takeWhile_append_dropWhile]
  · -- what is left of the end still has the first character, unless nothing is left
    intro c hc
    refine head?_dropWhile isBlank s.toList c ?_
    rw [eq_dropEnd_append isBlank (s.toList.dropWhile isBlank), List.head?_append, Option.mem_def.mp hc]
    rfl
  · intro c hc
    refine head?_dropWhile isBlank (s.toList.dropWhile isBlank).reverse c ?_
    rwa [dropEnd, List.getLast?_reverse] at hc

/-- Trimming gives the text that stands between the blanks at both ends. -/
theorem trim_eq_iff {s t : String} : trim s = t ↔ TrimsTo s t := by
  constructor
  · rintro rfl
    exact trimsTo_trim s
  · rintro ⟨before, after, hs, hbefore, hafter, hfirst, hlast⟩
    have hchars : trimChars s.toList = t.toList := by
      rw [trimChars, hs]
      cases ht : t.toList with
      | nil =>
        have hall : ∀ c ∈ before ++ after, isBlank c = true := by
          intro c hc
          rcases List.mem_append.mp hc with hc | hc
          · exact hbefore c hc
          · exact hafter c hc
        rw [List.nil_append, ← List.append_nil (before ++ after), dropWhile_append hall (by simp)]
        rfl
      | cons c cs =>
        rw [ht] at hfirst hlast
        rw [dropWhile_append hbefore (by simpa using hfirst), dropEnd_append hlast hafter]
    rw [trim, hchars, String.ofList_toList]

/-- A text that neither begins nor ends with a blank is its own trimmed form. -/
theorem trim_eq_self {s : String} (hfirst : ∀ c ∈ s.toList.head?, isBlank c = false)
    (hlast : ∀ c ∈ s.toList.getLast?, isBlank c = false) : trim s = s :=
  trim_eq_iff.mpr ⟨[], [], by simp, by simp, by simp, hfirst, hlast⟩

theorem trim_of_no_blank {s : String} (h : ∀ c ∈ s.toList, isBlank c = false) : trim s = s :=
  trim_eq_self (fun c hc => h c (List.mem_of_mem_head? hc)) (fun c hc => h c (List.mem_of_getLast? hc))

theorem isBlank_of_isDigit {c : Char} (h : c.isDigit = true) : isBlank c = false := by
  have hc : 48 ≤ c.toNat ∧ c.toNat ≤ 57 := by
    simp only [Char.isDigit, Bool.and_eq_true, decide_eq_true_eq] at h
    exact ⟨UInt32.le_iff_toNat_le.mp h.1, UInt32.le_iff_toNat_le.mp h.2⟩
  simp only [isBlank, Bool.or_eq_false_iff, Bool.and_eq_false_iff, decide_eq_false_iff_not,
    beq_eq_false_iff_ne]
  omega

end MultiCluster.Text
