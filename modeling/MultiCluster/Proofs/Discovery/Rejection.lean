import MultiCluster.Discovery.Generic
import MultiCluster.Proofs.Text.Search
import MultiCluster.Proofs.Text.Trim
import MultiCluster.Proofs.Text.Words

/-!
# The range in a rejection

A cluster that refuses the transient service says in its message which range the service has to be in. The range is
looked for behind the last marker, whatever stands in front of it: the next word, without the punctuation at its end, if
it has a slash. So a range is found wherever it follows the last marker, up to a blank or the end of the message, and
what is found is never anything else.

Main statement: `Discovery.rejection_names_range`.
-/

namespace MultiCluster.Discovery

open Text (isBlank)

/-- A text that can be a range: it has a slash, no blank, and no punctuation at its end. -/
structure IsRange (range : String) : Prop where
  slash : '/' ∈ range.toList
  unbroken : ∀ c ∈ range.toList, isBlank c = false
  unpunctuated : ∀ c ∈ range.toList.getLast?, isPunctuation c = false

/-- Behind the last marker, and blanks, the message has the range, and then punctuation up to a blank or the end. -/
def NamesRange (message range : String) : Prop :=
  ∃ before gap punctuation after : String,
    message = before ++ rangeMarker ++ gap ++ range ++ punctuation ++ after ∧
    (∀ c ∈ gap.toList, isBlank c = true) ∧ (∀ c ∈ punctuation.toList, isPunctuation c = true) ∧
    (∀ c ∈ after.toList.head?, isBlank c = true) ∧
    ¬ rangeMarker.toList <:+: (gap ++ range ++ punctuation ++ after).toList

variable {message range : String}

private theorem isBlank_of_isPunctuation {c : Char} (h : isPunctuation c = true) : isBlank c = false := by
  simp only [isPunctuation, Bool.or_eq_true, beq_iff_eq] at h
  rcases h with (rfl | rfl) | rfl <;> decide

/-- The message is searched for the marker, the first word behind it is taken, and the punctuation at its end. -/
private theorem parseServiceRange_eq_some_iff_exists : parseServiceRange message = some range ↔
    ∃ tail word, Text.afterLast? rangeMarker.toList message.toList = some tail ∧
      (Text.words tail).head? = some word ∧ Text.dropEnd isPunctuation word = range.toList ∧ '/' ∈ range.toList := by
  simp only [parseServiceRange, Option.bind_eq_bind, Option.bind_eq_some_iff]
  constructor
  · rintro ⟨tail, htail, word, hword, h⟩
    obtain ⟨hslash, hrange⟩ := (Option.ite_none_right_eq_some ..).mp h
    obtain rfl := Option.some.inj hrange
    rw [String.toList_ofList]
    exact ⟨tail, word, htail, hword, rfl, by simpa using hslash⟩
  · rintro ⟨tail, word, htail, hword, hrange, hslash⟩
    refine ⟨tail, htail, word, hword, ?_⟩
    rw [hrange, String.ofList_toList, if_pos (by simpa using hslash)]

/-- The first character of the marker stands nowhere else in it, so that no two markers overlap. -/
private theorem afterMarker_eq_some_iff {text tail : List Char} : Text.afterLast? rangeMarker.toList text = some tail ↔
    (∃ before, text = before ++ (rangeMarker.toList ++ tail)) ∧ ¬ rangeMarker.toList <:+: tail := by
  have hmarker : rangeMarker.toList = 'v' :: "alid IPs is ".toList := by decide
  rw [hmarker]
  exact Text.afterLast?_eq_some_iff (by decide)

/-- A message is read as the range that it names. -/
private theorem parseServiceRange_eq_some_iff :
    parseServiceRange message = some range ↔ IsRange range ∧ NamesRange message range := by
  rw [parseServiceRange_eq_some_iff_exists]
  constructor
  · rintro ⟨tail, word, htail, hword, hrange, hslash⟩
    obtain ⟨⟨before, hmessage⟩, hlast⟩ := afterMarker_eq_some_iff.mp htail
    obtain ⟨gap, after, rfl, hgap, hisword, hafter⟩ := Text.head?_words_eq_some_iff.mp hword
    obtain ⟨⟨punctuation, rfl, hpunctuation⟩, hend⟩ := Text.dropEnd_eq_iff.mp hrange
    refine ⟨⟨hslash, fun c hc => hisword.2 c (List.mem_append_left _ hc), hend⟩,
      String.ofList before, String.ofList gap, String.ofList punctuation, String.ofList after, ?_, ?_⟩
    · apply String.toList_injective
      simp [hmessage]
    · simpa using ⟨hgap, hpunctuation, hafter, by simpa using hlast⟩
  · rintro ⟨hrange, before, gap, punctuation, after, rfl, hgap, hpunctuation, hafter, hlast⟩
    have hword : Text.IsWord (range.toList ++ punctuation.toList) := by
      refine ⟨List.append_ne_nil_of_left_ne_nil (List.ne_nil_of_mem hrange.slash) _, fun c hc => ?_⟩
      rcases List.mem_append.mp hc with hc | hc
      · exact hrange.unbroken c hc
      · exact isBlank_of_isPunctuation (hpunctuation c hc)
    refine ⟨gap.toList ++ (range.toList ++ punctuation.toList ++ after.toList), range.toList ++ punctuation.toList,
      afterMarker_eq_some_iff.mpr ⟨⟨before.toList, ?_⟩, ?_⟩, Text.head?_words_append hgap hword hafter,
      Text.dropEnd_eq_iff.mpr ⟨⟨_, rfl, hpunctuation⟩, hrange.unpunctuated⟩, hrange.slash⟩
    · simp
    · simpa using hlast

/-- The last marker counts, and all of the punctuation behind the range is left out. -/
example : parseServiceRange "of no valid IPs is sure: the range of valid IPs is 10.96.0.0/12\"., and it is full" =
    some "10.96.0.0/12" := by decide +kernel

private theorem parseServiceRange_of_no_marker (h : ¬ rangeMarker.toList <:+: message.toList) :
    parseServiceRange message = none := by
  rw [parseServiceRange, Text.afterLast?_eq_none_iff.mpr h]
  rfl

/-- What is read from a message is the range that it names behind its last marker, and nothing is read from a message
that names none. -/
theorem rejection_names_range (message range : String) :
    (parseServiceRange message = some range ↔ IsRange range ∧ NamesRange message range) ∧
    (∀ before punctuation after : String, IsRange range → (∀ c ∈ punctuation.toList, isPunctuation c = true) →
      (∀ c ∈ after.toList.head?, isBlank c = true) →
      ¬ rangeMarker.toList <:+: (range ++ punctuation ++ after).toList →
      parseServiceRange (before ++ rangeMarker ++ range ++ punctuation ++ after) = some range) ∧
    (¬ rangeMarker.toList <:+: message.toList → parseServiceRange message = none) ∧
    (parseServiceRange message = some range → IsRange range) := by
  refine ⟨parseServiceRange_eq_some_iff, ?_, parseServiceRange_of_no_marker, ?_⟩
  · intro before punctuation after hrange hpunctuation hafter hlast
    refine parseServiceRange_eq_some_iff.mpr ⟨hrange, before, "", punctuation, after, ?_, ?_, hpunctuation, hafter, ?_⟩
    · rw [String.append_empty]
    · simp
    · rwa [String.empty_append]
  · exact fun h => (parseServiceRange_eq_some_iff.mp h).1

end MultiCluster.Discovery
