import Mathlib.Logic.Relation
import MultiCluster.Discovery.CommandLine
import MultiCluster.Proofs.Text.Words

/-!
# Flags of one container

The first word of a command line that mentions a flag decides on its value. A word mentions a flag if it is the flag,
and then the next word is the value, or if it begins with the flag and `=`, and then the rest of it is. What the
value is depends on the words of the line alone, and not on how these are spread over arguments.

Main statement: `flag_is_read_off_words`.
-/

namespace MultiCluster

/-! ### The first mention -/

/-- A word sets a flag, or announces its value. -/
def Mentions (flag w : List Char) : Prop :=
  w = flag ∨ flag ++ ['='] <+: w

section

variable {flag w v : List Char} {before ws : List (List Char)}

private theorem flagValue?_cons_of_not_mentions (h : ¬ Mentions flag w) (ws : List (List Char)) :
    flagValue? flag (w :: ws) = flagValue? flag ws := by
  have hflag : w ≠ flag := fun heq => h (.inl heq)
  have hprefix : (flag ++ ['=']).isPrefixOf w = false :=
    Bool.eq_false_iff.mpr fun hp => h (.inr (List.isPrefixOf_iff_prefix.mp hp))
  simp [flagValue?, hflag, Text.stripStart?, hprefix]

private theorem flagValue?_append (h : ∀ w ∈ before, ¬ Mentions flag w) (ws : List (List Char)) :
    flagValue? flag (before ++ ws) = flagValue? flag ws := by
  induction before with
  | nil => rfl
  | cons w before ih =>
    have hw := h w List.mem_cons_self
    have hbefore := fun w' hw' => h w' (List.mem_cons_of_mem w hw')
    rw [List.cons_append, flagValue?_cons_of_not_mentions hw, ih hbefore]

theorem flagValue?_flag (flag : List Char) (ws : List (List Char)) : flagValue? flag (flag :: ws) = ws.head? := by
  simp [flagValue?]

theorem flagValue?_setting (flag v : List Char) (ws : List (List Char)) :
    flagValue? flag ((flag ++ '=' :: v) :: ws) = some v := by
  have hne : flag ++ '=' :: v ≠ flag := by simp
  have hstrip : Text.stripStart? (flag ++ ['=']) (flag ++ '=' :: v) = some v := by
    have happend := Text.stripStart?_append (flag ++ ['=']) v
    rwa [List.append_assoc, List.singleton_append] at happend
  simp [flagValue?, hne, hstrip]

end

/-- The value of a flag in a line, if it is not empty. -/
def parameterIn (flag : String) (ws : List (List Char)) : Option String :=
  ((flagValue? flag.toList ws).filter fun value => !value.isEmpty).map String.ofList

section

variable {flag : String} {before ws : List (List Char)}

theorem parameterIn_append (h : ∀ w ∈ before, ¬ Mentions flag.toList w) (ws : List (List Char)) :
    parameterIn flag (before ++ ws) = parameterIn flag ws := by
  rw [parameterIn, parameterIn, flagValue?_append h]

theorem parameterIn_eq_none (h : ∀ w ∈ ws, ¬ Mentions flag.toList w) : parameterIn flag ws = none := by
  have happend := parameterIn_append h []
  rw [List.append_nil] at happend
  rw [happend]
  rfl

theorem parameterIn_of_value {v : List Char} (h : flagValue? flag.toList ws = some v) (hv : v ≠ []) :
    parameterIn flag ws = some (String.ofList v) := by
  have hne : (!v.isEmpty) = true := by simpa using hv
  rw [parameterIn, h, Option.filter_some, if_pos hne, Option.map_some]

end

/-! ### The command line of a container -/

namespace Container

/-- The arguments of a command line. -/
def arguments (c : Container) : List String :=
  c.command ++ c.args

/-- The words of a command line. -/
def words (c : Container) : List (List Char) :=
  c.arguments.flatMap fun a => Text.words a.toList

theorem isWord_of_mem_words {c : Container} {w : List Char} (h : w ∈ c.words) : Text.IsWord w := by
  obtain ⟨a, -, hw⟩ := List.mem_flatMap.mp h
  exact Text.isWord_of_mem_words hw

/-- Arguments that are words are the words of the line. -/
private theorem words_of_arguments {c : Container} {ws : List (List Char)} (h : c.arguments = ws.map String.ofList)
    (hws : ∀ w ∈ ws, Text.IsWord w) : c.words = ws := by
  rw [words, h]
  clear h
  induction ws with
  | nil => rfl
  | cons w ws ih =>
    have hw : Text.words w = [w] := Text.words_of_isWord (hws w List.mem_cons_self)
    have hrest := ih fun w' hw' => hws w' (List.mem_cons_of_mem w hw')
    rw [List.map_cons, List.flatMap_cons, String.toList_ofList, hw, hrest, List.singleton_append]

/-- No word mentions the flag. -/
def Omits (c : Container) (flag : String) : Prop :=
  ∀ w ∈ c.words, ¬ Mentions flag.toList w

/-- The first mention of the flag sets it to a value, as `flag=value` or as `flag value`. -/
def Sets (c : Container) (flag v : String) : Prop :=
  ∃ before after, (∀ w ∈ before, ¬ Mentions flag.toList w) ∧
    (c.words = before ++ (flag.toList ++ '=' :: v.toList) :: after ∨
      c.words = before ++ flag.toList :: v.toList :: after)

theorem Sets.parameterIn_eq {c : Container} {flag v : String} (h : c.Sets flag v) (hv : v ≠ "")
    (rest : List (List Char)) : parameterIn flag (c.words ++ rest) = some v := by
  have hchars : v.toList ≠ [] := fun h => hv (String.toList_eq_nil_iff.mp h)
  obtain ⟨before, after, hbefore, hwords | hwords⟩ := h
  · have hvalue := flagValue?_setting flag.toList v.toList (after ++ rest)
    rw [hwords, List.append_assoc, parameterIn_append hbefore, List.cons_append, parameterIn_of_value hvalue hchars,
      String.ofList_toList]
  · have hvalue := flagValue?_flag flag.toList (v.toList :: (after ++ rest))
    rw [hwords, List.append_assoc, parameterIn_append hbefore, List.cons_append, List.cons_append,
      parameterIn_of_value hvalue hchars, String.ofList_toList]

/-! ### Other ways to write a command line -/

/-- One command line is another one, with its arguments spread differently over command and arguments, or with two
adjacent arguments joined by blanks, or with an argument split at blanks. -/
inductive Rewrites (c d : Container) : Prop
  | move (h : d.arguments = c.arguments)
  | join {before after : List String} {x gap y : String} (hne : gap ≠ "") (hblank : Text.isBlankText gap = true)
      (hc : c.arguments = before ++ x :: y :: after) (hd : d.arguments = before ++ (x ++ gap ++ y) :: after)
  | split {before after : List String} {x gap y : String} (hne : gap ≠ "") (hblank : Text.isBlankText gap = true)
      (hc : c.arguments = before ++ (x ++ gap ++ y) :: after) (hd : d.arguments = before ++ x :: y :: after)

private theorem flatMap_words_join {before after : List String} {x gap y : String} (hne : gap ≠ "")
    (hblank : Text.isBlankText gap = true) :
    (before ++ (x ++ gap ++ y) :: after).flatMap (fun a => Text.words a.toList) =
      (before ++ x :: y :: after).flatMap fun a => Text.words a.toList := by
  have hchars : gap.toList ≠ [] := fun h => hne (String.toList_eq_nil_iff.mp h)
  have hgap : ∀ c ∈ gap.toList, Text.isBlank c = true := List.all_eq_true.mp hblank
  have hwords : Text.words (x ++ gap ++ y).toList = Text.words x.toList ++ Text.words y.toList := by
    rw [String.toList_append, String.toList_append]
    exact Text.words_gap hchars hgap x.toList y.toList
  simp only [List.flatMap_append, List.flatMap_cons, hwords, List.append_assoc]

private theorem Rewrites.words_eq {c d : Container} (h : c.Rewrites d) : d.words = c.words := by
  rw [words, words]
  cases h with
  | move h => rw [h]
  | join hne hblank hc hd => rw [hc, hd, flatMap_words_join hne hblank]
  | split hne hblank hc hd => rw [hc, hd, flatMap_words_join hne hblank]

private theorem words_eq_of_reflTransGen {c d : Container} (h : Relation.ReflTransGen Rewrites c d) :
    d.words = c.words := by
  induction h with
  | refl => rfl
  | tail _ hstep ih => rw [hstep.words_eq, ih]

end Container

/-! ### Pods -/

namespace Pod

/-- The pod with one container only. -/
def only (p : Pod) (c : Container) : Pod :=
  { p with containers := [c] }

theorem commandParameter_eq (p : Pod) (flag : String) :
    p.commandParameter flag = parameterIn flag (p.containers.flatMap Container.words) := rfl

theorem commandParameter_only (p : Pod) (c : Container) (flag : String) :
    (p.only c).commandParameter flag = parameterIn flag c.words := by
  rw [commandParameter_eq, only, List.flatMap_singleton]

end Pod

/-- The value of a flag depends on the words of a command line alone, however they are spread over arguments: the first
mention sets it, and without a mention there is none. -/
theorem flag_is_read_off_words (p : Pod) (flag : String) (c : Container) :
    (∀ d, Relation.ReflTransGen Container.Rewrites c d →
      (p.only d).commandParameter flag = (p.only c).commandParameter flag) ∧
    (∀ v, v ≠ "" → c.Sets flag v → (p.only c).commandParameter flag = some v) ∧
    (c.Omits flag → (p.only c).commandParameter flag = none) ∧
    ∀ ws, (∀ w ∈ ws, Text.IsWord w) → c.arguments = ws.map String.ofList → c.words = ws := by
  refine ⟨?_, ?_, ?_, ?_⟩
  · intro d h
    rw [Pod.commandParameter_only, Pod.commandParameter_only, Container.words_eq_of_reflTransGen h]
  · intro v hv hsets
    have hvalue := hsets.parameterIn_eq hv []
    rw [List.append_nil] at hvalue
    rw [Pod.commandParameter_only, hvalue]
  · intro homits
    rw [Pod.commandParameter_only, parameterIn_eq_none homits]
  · intro ws hws h
    exact Container.words_of_arguments h hws

end MultiCluster
