import Mathlib.Computability.RegularExpressions
import Mathlib.Data.String.Basic
import MultiCluster.ClusterId

/-!
# The pattern of identities

The check of an identity counts its bytes, then looks at all of its characters, and last at the first and the last
one. What it accepts are the words of the regular expression `[a-z0-9][a-z0-9.-]*[a-z0-9]`. The count of the bytes
agrees with it although it does not count characters: a text of one character is refused all the same if this
character is so many bytes long that the count lets it pass, because the characters of identities are of one byte.

Main statement: `ClusterId.accepts_exactly_pattern`.
-/

namespace MultiCluster.ClusterId

/-! ### The pattern -/

/-- The words that are one of the given characters. -/
def oneOf (cs : List Char) : RegularExpression Char :=
  (cs.map RegularExpression.char).sum

private theorem mem_oneOf {cs w : List Char} : w ∈ (oneOf cs).matches' ↔ ∃ c ∈ cs, w = [c] := by
  unfold oneOf
  induction cs with
  | nil => simp [RegularExpression.matches'_zero]
  | cons c cs ih =>
    rw [List.map_cons, List.sum_cons, RegularExpression.matches'_add, Language.mem_add, ih, List.exists_mem_cons_iff]
    rfl

private theorem mem_star_oneOf {cs w : List Char} : w ∈ (oneOf cs).star.matches' ↔ ∀ c ∈ w, c ∈ cs := by
  rw [RegularExpression.matches'_star, Language.mem_kstar]
  constructor
  · rintro ⟨ws, rfl, hws⟩ c hc
    obtain ⟨v, hv, hcv⟩ := List.mem_flatten.mp hc
    obtain ⟨d, hd, rfl⟩ := mem_oneOf.mp (hws v hv)
    rwa [List.mem_singleton.mp hcv]
  · intro h
    refine ⟨w.map fun c => [c], (List.flatMap_singleton' w).symm, ?_⟩
    intro v hv
    obtain ⟨c, hc, rfl⟩ := List.mem_map.mp hv
    exact mem_oneOf.mpr ⟨c, h c hc, rfl⟩

/-- The class `[a-z0-9]`. -/
def alphanumerics : List Char :=
  "abcdefghijklmnopqrstuvwxyz0123456789".toList

/-- The pattern `[a-z0-9][a-z0-9.-]*[a-z0-9]`. -/
def pattern : RegularExpression Char :=
  oneOf alphanumerics * (oneOf (alphanumerics ++ ['.', '-'])).star * oneOf alphanumerics

private theorem toNat_le_of_isAlphanumeric {c : Char} (h : isAlphanumeric c = true) : c.toNat ≤ 122 := by
  rcases Bool.or_eq_true_iff.mp h with hlower | hdigit
  · have hle : c.val ≤ 'z'.val := of_decide_eq_true (Bool.and_eq_true_iff.mp hlower).2
    exact UInt32.le_iff_toNat_le.mp hle
  · have hle : c.val ≤ '9'.val := of_decide_eq_true (Bool.and_eq_true_iff.mp hdigit).2
    exact Nat.le_trans (UInt32.le_iff_toNat_le.mp hle) (by decide)

private theorem mem_alphanumerics {c : Char} : c ∈ alphanumerics ↔ isAlphanumeric c = true := by
  constructor
  · have hall : alphanumerics.all isAlphanumeric = true := by decide +kernel
    exact List.all_eq_true.mp hall c
  · intro h
    have hall : ∀ n < 123, isAlphanumeric (Char.ofNat n) = true → Char.ofNat n ∈ alphanumerics := by decide +kernel
    have hc := hall c.toNat (Nat.lt_succ_of_le (toNat_le_of_isAlphanumeric h))
    rw [Char.ofNat_toNat] at hc
    exact hc h

private theorem mem_alphanumerics_append {c : Char} : c ∈ alphanumerics ++ ['.', '-'] ↔ isAllowed c = true := by
  simp [mem_alphanumerics, isAllowed, or_assoc]

/-- A word of the pattern: a letter or digit at each end, and characters that may stand in an identity between them. -/
private theorem mem_pattern {w : List Char} : w ∈ pattern.matches' ↔
    ∃ first middle last, w = first :: (middle ++ [last]) ∧ isAlphanumeric first = true ∧
      (∀ c ∈ middle, isAllowed c = true) ∧ isAlphanumeric last = true := by
  simp only [pattern, RegularExpression.matches'_mul, Language.mem_mul, mem_oneOf, mem_star_oneOf, mem_alphanumerics,
    mem_alphanumerics_append]
  constructor
  · rintro ⟨_, ⟨_, ⟨first, hfirst, rfl⟩, middle, hmiddle, rfl⟩, _, ⟨last, hlast, rfl⟩, rfl⟩
    exact ⟨first, middle, last, rfl, hfirst, hmiddle, hlast⟩
  · rintro ⟨first, middle, last, rfl, hfirst, hmiddle, hlast⟩
    exact ⟨_, ⟨_, ⟨first, hfirst, rfl⟩, middle, hmiddle, rfl⟩, _, ⟨last, hlast, rfl⟩, rfl⟩

private theorem mem_pattern_of_ends {first last : Char} {middle : List Char} :
    first :: (middle ++ [last]) ∈ pattern.matches' ↔
    isAlphanumeric first = true ∧ (∀ c ∈ middle, isAllowed c = true) ∧ isAlphanumeric last = true := by
  rw [mem_pattern]
  constructor
  · rintro ⟨first', middle', last', heq, hfirst, hmiddle, hlast⟩
    obtain ⟨rfl, hrest⟩ := List.cons.inj heq
    obtain ⟨rfl, hlasts⟩ := List.append_inj' hrest rfl
    cases hlasts
    exact ⟨hfirst, hmiddle, hlast⟩
  · exact fun h => ⟨first, middle, last, rfl, h⟩

private theorem isAllowed_of_isAlphanumeric {c : Char} (h : isAlphanumeric c = true) : isAllowed c = true := by
  simp [isAllowed, h]

private theorem isAllowed_of_mem_pattern {w : List Char} (h : w ∈ pattern.matches') : ∀ c ∈ w, isAllowed c = true := by
  obtain ⟨first, middle, last, rfl, hfirst, hmiddle, hlast⟩ := mem_pattern.mp h
  intro c hc
  simp only [List.mem_cons, List.mem_append, List.not_mem_nil, or_false] at hc
  rcases hc with rfl | hc | rfl
  · exact isAllowed_of_isAlphanumeric hfirst
  · exact hmiddle c hc
  · exact isAllowed_of_isAlphanumeric hlast

/-! ### The count of the bytes -/

/-- The characters of identities are of one byte. -/
private theorem utf8Size_of_isAllowed {c : Char} (h : isAllowed c = true) : c.utf8Size = 1 := by
  have hc : c.toNat ≤ 127 := by
    simp only [isAllowed, Bool.or_eq_true, beq_iff_eq] at h
    rcases h with (h | rfl) | rfl
    · exact Nat.le_trans (toNat_le_of_isAlphanumeric h) (by decide)
    · decide
    · decide
  exact Char.utf8Size_eq_one_iff.mpr (UInt32.le_iff_toNat_le.mpr hc)

private theorem length_le_utf8Len (cs : List Char) : cs.length ≤ String.utf8Len cs := by
  induction cs with
  | nil => exact Nat.le_refl 0
  | cons c cs ih =>
    have hc := c.utf8Size_pos
    rw [List.length_cons, String.utf8Len_cons]
    omega

private theorem utf8Len_of_isAllowed {cs : List Char} (h : ∀ c ∈ cs, isAllowed c = true) :
    String.utf8Len cs = cs.length := by
  induction cs with
  | nil => rfl
  | cons c cs ih =>
    rw [List.length_cons, String.utf8Len_cons, utf8Size_of_isAllowed (h c List.mem_cons_self),
      ih fun d hd => h d (List.mem_cons_of_mem c hd)]

/-- A word of the pattern has at least two characters, and so at least two bytes. -/
private theorem two_le_of_mem_pattern {s : String} (h : s.toList ∈ pattern.matches') : 2 ≤ s.utf8ByteSize := by
  obtain ⟨first, middle, last, hs, -⟩ := mem_pattern.mp h
  have hlength := length_le_utf8Len s.toList
  rw [String.utf8Len_toList, hs] at hlength
  simp only [List.length_cons, List.length_append, List.length_nil] at hlength
  omega

/-- A text of at least two bytes whose characters may stand in an identity has at least two characters. -/
private theorem exists_ends {s : String} (hbytes : 2 ≤ s.utf8ByteSize) (h : ∀ c ∈ s.toList, isAllowed c = true) :
    ∃ first middle last, s.toList = first :: (middle ++ [last]) := by
  rw [← String.utf8Len_toList, utf8Len_of_isAllowed h] at hbytes
  cases hs : s.toList with
  | nil => simp [hs] at hbytes
  | cons first rest =>
    rcases List.eq_nil_or_concat rest with rfl | ⟨middle, last, rfl⟩
    · simp [hs] at hbytes
    · exact ⟨first, middle, last, by rw [List.concat_eq_append]⟩

/-! ### The check -/

private theorem validate_of_short {s : String} (h : s.utf8ByteSize < 2) :
    validate s = .error (invalid s "must be at least two characters long") :=
  if_pos h

private theorem validate_of_not_allowed {s : String} (hbytes : 2 ≤ s.utf8ByteSize) {c : Char} (hc : c ∈ s.toList)
    (h : isAllowed c = false) :
    validate s = .error (invalid s "may only contain lowercase alphanumerics, '.' and '-'") := by
  have hnot : (!s.toList.all isAllowed) = true := by
    simp only [Bool.not_eq_true', List.all_eq_false]
    exact ⟨c, hc, by simp [h]⟩
  rw [validate, if_neg (Nat.not_lt.mpr hbytes), if_pos hnot]

private theorem validate_of_allowed {s : String} (hbytes : 2 ≤ s.utf8ByteSize)
    (hall : ∀ c ∈ s.toList, isAllowed c = true)
    {first last : Char} {middle : List Char} (hs : s.toList = first :: (middle ++ [last])) :
    validate s = if isAlphanumeric first = true ∧ isAlphanumeric last = true then .ok ()
      else .error (invalid s "must start and end with a lowercase alphanumeric") := by
  have hnot : ¬ (!s.toList.all isAllowed) = true := by simpa using hall
  have hlast : (first :: (middle ++ [last])).getLast? = some last :=
    List.getLast?_concat (l := first :: middle)
  rw [validate, if_neg (Nat.not_lt.mpr hbytes), if_neg hnot, hs, hlast]
  show (if (!(isAlphanumeric first && isAlphanumeric last)) = true then _ else _) = _
  cases isAlphanumeric first <;> cases isAlphanumeric last <;> rfl

/-- An identity is accepted if it is a word of the pattern, and else it is refused for some reason. -/
private theorem validate_cases (s : String) :
    (s.toList ∈ pattern.matches' ∧ validate s = .ok ()) ∨
    s.toList ∉ pattern.matches' ∧ ∃ reason, validate s = .error (invalid s reason) := by
  by_cases hbytes : 2 ≤ s.utf8ByteSize
  · by_cases hall : ∀ c ∈ s.toList, isAllowed c = true
    · obtain ⟨first, middle, last, hs⟩ := exists_ends hbytes hall
      rw [validate_of_allowed hbytes hall hs]
      by_cases hends : isAlphanumeric first = true ∧ isAlphanumeric last = true
      · refine .inl ⟨mem_pattern.mpr ⟨first, middle, last, hs, hends.1, fun c hc => hall c ?_, hends.2⟩, if_pos hends⟩
        simp [hs, hc]
      · refine .inr ⟨fun hmem => hends ?_, _, if_neg hends⟩
        exact (mem_pattern_of_ends.mp (hs ▸ hmem)).imp_right And.right
    · obtain ⟨c, hc, hnot⟩ : ∃ c ∈ s.toList, ¬ isAllowed c = true := by simpa using hall
      have herror := validate_of_not_allowed hbytes hc (Bool.eq_false_iff.mpr hnot)
      exact .inr ⟨fun hmem => hnot (isAllowed_of_mem_pattern hmem c hc), _, herror⟩
  · exact .inr ⟨fun hmem => hbytes (two_le_of_mem_pattern hmem), _, validate_of_short (Nat.not_le.mp hbytes)⟩

/-- Exactly the words of the pattern are accepted as identities; the count of the bytes refuses none of them, and a text
of one character is no word. -/
theorem accepts_exactly_pattern (s : String) :
    (validate s = .ok () ↔ s.toList ∈ pattern.matches') ∧
    (s.toList ∉ pattern.matches' →
      ∃ reason, validate s = .error (.malformed "clusterID" (Text.quoted s ++ " " ++ reason))) ∧
    (s.utf8ByteSize < 2 → s.toList ∉ pattern.matches') ∧
    ∀ c, s.toList = [c] → s.toList ∉ pattern.matches' ∧ validate s = .error (invalid s
      (if c.utf8Size = 1 then "must be at least two characters long"
        else "may only contain lowercase alphanumerics, '.' and '-'")) := by
  refine ⟨?_, ?_, ?_, ?_⟩
  · rcases validate_cases s with ⟨hmem, hok⟩ | ⟨hnot, reason, herror⟩
    · simp [hmem, hok]
    · simp [hnot, herror]
  · intro hnot
    rcases validate_cases s with ⟨hmem, -⟩ | ⟨-, herror⟩
    · exact absurd hmem hnot
    · exact herror
  · exact fun hbytes hmem => Nat.not_le.mpr hbytes (two_le_of_mem_pattern hmem)
  · intro c hs
    have hbytes : s.utf8ByteSize = c.utf8Size := by rw [← String.utf8Len_toList, hs]; simp
    have hpos := c.utf8Size_pos
    refine ⟨fun hmem => ?_, ?_⟩
    · obtain ⟨first, middle, last, hw, -⟩ := mem_pattern.mp hmem
      rw [hs] at hw
      simp at hw
    · split
      · exact validate_of_short (by omega)
      · rename_i hsize
        refine validate_of_not_allowed (c := c) (by omega) (by simp [hs]) (Bool.eq_false_iff.mpr fun hallowed => ?_)
        exact hsize (utf8Size_of_isAllowed hallowed)

end MultiCluster.ClusterId
