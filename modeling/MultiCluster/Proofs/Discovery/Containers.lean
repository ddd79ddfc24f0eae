import MultiCluster.Proofs.Discovery.Flags

/-!
# Settings of several containers

The command lines of a pod are read as one, and so are the environments. The first mention of a flag, or of a variable,
decides for the whole pod, also if it leaves the value open or empty. Then a flag gets the next word of another
container, or no value at all, although a later container has one; and the value of a variable is hidden in the same
way.

Main statements: `pod_settings_cross_containers` and `later_setting_is_not_found`.
-/

namespace MultiCluster

/-- Some element of a list has a property first, unless none has it. -/
private theorem forall_not_or_exists_first {α : Type} (P : α → Prop) (xs : List α) :
    (∀ x ∈ xs, ¬ P x) ∨ ∃ before x after, xs = before ++ x :: after ∧ (∀ y ∈ before, ¬ P y) ∧ P x := by
  classical
  cases hfind : xs.find? fun x => decide (P x) with
  | none => exact .inl fun x hx => by simpa using List.find?_eq_none.mp hfind x hx
  | some x =>
    obtain ⟨hx, before, after, hxs, hbefore⟩ := List.find?_eq_some_iff_append.mp hfind
    exact .inr ⟨before, x, after, hxs, by simpa using hbefore, by simpa using hx⟩

/-! ### Flags -/

namespace Container

variable {c : Container} {flag : String}

/-- The first mention of the flag sets it to the empty text. -/
def Empties (c : Container) (flag : String) : Prop :=
  ∃ before after, c.words = before ++ (flag.toList ++ ['=']) :: after ∧ ∀ w ∈ before, ¬ Mentions flag.toList w

/-- The first mention of the flag is the last word, so that no value follows. -/
def EndsWith (c : Container) (flag : String) : Prop :=
  ∃ before, c.words = before ++ [flag.toList] ∧ ∀ w ∈ before, ¬ Mentions flag.toList w

private theorem isWord_of_mem_flatMap {cs : List Container} : ∀ w ∈ cs.flatMap words, Text.IsWord w := by
  intro w hw
  obtain ⟨c, -, hw⟩ := List.mem_flatMap.mp hw
  exact isWord_of_mem_words hw

private theorem forall_not_mentions {cs : List Container} (h : ∀ c ∈ cs, c.Omits flag) :
    ∀ w ∈ cs.flatMap words, ¬ Mentions flag.toList w := by
  intro w hw
  obtain ⟨c, hc, hw⟩ := List.mem_flatMap.mp hw
  exact h c hc w hw

private theorem Empties.parameterIn_eq (h : c.Empties flag) (rest : List (List Char)) :
    parameterIn flag (c.words ++ rest) = none := by
  obtain ⟨before, after, hwords, hbefore⟩ := h
  rw [hwords, List.append_assoc, parameterIn_append hbefore, List.cons_append, parameterIn, flagValue?_setting]
  rfl

private theorem EndsWith.parameterIn_eq (h : c.EndsWith flag) {rest : List (List Char)}
    (hrest : ∀ w ∈ rest, Text.IsWord w) :
    parameterIn flag (c.words ++ rest) = rest.head?.map String.ofList := by
  obtain ⟨before, hwords, hbefore⟩ := h
  rw [hwords, List.append_assoc, parameterIn_append hbefore]
  cases rest with
  | nil => simp [parameterIn, flagValue?_flag]
  | cons w rest =>
    have hw : w ≠ [] := (hrest w List.mem_cons_self).1
    exact parameterIn_of_value (flagValue?_flag flag.toList (w :: rest)) hw

private theorem Empties.parameterIn_words (h : c.Empties flag) : parameterIn flag c.words = none := by
  have heq := h.parameterIn_eq []
  rwa [List.append_nil] at heq

private theorem EndsWith.parameterIn_words (h : c.EndsWith flag) : parameterIn flag c.words = none := by
  have heq : parameterIn flag (c.words ++ []) = none := h.parameterIn_eq fun w hw => nomatch hw
  rwa [List.append_nil] at heq

/-- A container has no mention of a flag, or an empty one, or one without a value, or it sets the flag. -/
private theorem mention_cases (c : Container) (flag : String) :
    c.Omits flag ∨ c.Empties flag ∨ c.EndsWith flag ∨ ∃ v, v ≠ "" ∧ c.Sets flag v := by
  have hsome : ∀ {v : List Char}, v ≠ [] → String.ofList v ≠ "" := fun hv h => hv (by simpa using h)
  rcases forall_not_or_exists_first (Mentions flag.toList) c.words with homits | ⟨before, w, after, hwords, hbefore, hw⟩
  · exact .inl homits
  · rcases hw with rfl | ⟨v, rfl⟩
    · cases after with
      | nil => exact .inr (.inr (.inl ⟨before, hwords, hbefore⟩))
      | cons v after =>
        have hv : v ≠ [] := (isWord_of_mem_words (c := c) (by simp [hwords])).1
        refine .inr (.inr (.inr ⟨String.ofList v, hsome hv, before, after, hbefore, .inr ?_⟩))
        rw [hwords, String.toList_ofList]
    · by_cases hv : v = []
      · rw [hv, List.append_nil] at hwords
        exact .inr (.inl ⟨before, after, hwords, hbefore⟩)
      · refine .inr (.inr (.inr ⟨String.ofList v, hsome hv, before, after, hbefore, .inl ?_⟩))
        rw [hwords, String.toList_ofList, List.append_assoc, List.singleton_append]

end Container

namespace Pod

variable {p : Pod} {flag : String} {before after : List Container} {c : Container}

/-- The value of a flag, container by container: the first one that a container has by itself. -/
def parameterByContainer (p : Pod) (flag : String) : Option String :=
  p.containers.findSome? fun c => (p.only c).commandParameter flag

private theorem commandParameter_of_first (hp : p.containers = before ++ c :: after)
    (hbefore : ∀ b ∈ before, b.Omits flag) :
    p.commandParameter flag = parameterIn flag (c.words ++ after.flatMap Container.words) := by
  rw [commandParameter_eq, hp, List.flatMap_append,
    parameterIn_append (Container.forall_not_mentions hbefore), List.flatMap_cons]

private theorem parameterByContainer_of_first (hp : p.containers = before ++ c :: after)
    (hbefore : ∀ b ∈ before, b.Omits flag) : p.parameterByContainer flag =
      (parameterIn flag c.words).or (after.findSome? fun d => (p.only d).commandParameter flag) := by
  have hnone : (before.findSome? fun b => (p.only b).commandParameter flag) = none := by
    rw [List.findSome?_eq_none_iff]
    intro b hb
    rw [commandParameter_only, parameterIn_eq_none (hbefore b hb)]
  rw [parameterByContainer, hp, List.findSome?_append, hnone, Option.none_or, List.findSome?_cons,
    commandParameter_only]
  cases parameterIn flag c.words <;> rfl

/-- The first container that mentions a flag sets it to the empty text, although a later one has a value, or it ends
with the flag, and the next word is not what the later containers set the flag to. -/
inductive CutsShort (p : Pod) (flag : String) : Prop
  | emptied {before after : List Container} {c d : Container} {v : String}
      (hp : p.containers = before ++ c :: after) (hbefore : ∀ b ∈ before, b.Omits flag) (hc : c.Empties flag)
      (hd : d ∈ after) (hv : (p.only d).commandParameter flag = some v)
  | unfinished {before after : List Container} {c : Container} (hp : p.containers = before ++ c :: after)
      (hbefore : ∀ b ∈ before, b.Omits flag) (hc : c.EndsWith flag)
      (hne : (after.flatMap Container.words).head?.map String.ofList ≠
        after.findSome? fun d => (p.only d).commandParameter flag)

private theorem CutsShort.ne (h : p.CutsShort flag) : p.commandParameter flag ≠ p.parameterByContainer flag := by
  cases h with
  | @emptied before after c d v hp hbefore hc hd hv =>
    rw [commandParameter_of_first hp hbefore, parameterByContainer_of_first hp hbefore, hc.parameterIn_eq,
      hc.parameterIn_words, Option.none_or]
    intro hnone
    rw [List.findSome?_eq_none_iff.mp hnone.symm d hd] at hv
    cases hv
  | unfinished hp hbefore hc hne =>
    rw [commandParameter_of_first hp hbefore, parameterByContainer_of_first hp hbefore,
      hc.parameterIn_eq Container.isWord_of_mem_flatMap, hc.parameterIn_words, Option.none_or]
    exact hne

private theorem commandParameter_eq_of_not_cutsShort (h : ¬ p.CutsShort flag) :
    p.commandParameter flag = p.parameterByContainer flag := by
  rcases forall_not_or_exists_first (fun c : Container => ¬ c.Omits flag) p.containers with
    homits | ⟨before, c, after, hp, hbefore, hc⟩
  · simp only [Classical.not_not] at homits
    have hnone : p.parameterByContainer flag = none := by
      refine List.findSome?_eq_none_iff.mpr fun c hc => ?_
      rw [commandParameter_only, parameterIn_eq_none (homits c hc)]
    rw [commandParameter_eq, hnone]
    exact parameterIn_eq_none (Container.forall_not_mentions homits)
  · simp only [Classical.not_not] at hbefore
    rw [commandParameter_of_first hp hbefore, parameterByContainer_of_first hp hbefore]
    -- the first container with a mention decides, and it differs from its own value only if it has none
    rcases c.mention_cases flag with homits | hempties | hends | ⟨v, hv, hsets⟩
    · exact absurd homits hc
    · -- no later container has a value that is lost
      rw [hempties.parameterIn_eq, hempties.parameterIn_words, Option.none_or, eq_comm, List.findSome?_eq_none_iff]
      intro d hd
      cases hvalue : (p.only d).commandParameter flag with
      | none => rfl
      | some v => exact absurd (.emptied hp hbefore hempties hd hvalue) h
    · rw [hends.parameterIn_eq Container.isWord_of_mem_flatMap, hends.parameterIn_words, Option.none_or]
      by_cases heq : (after.flatMap Container.words).head?.map String.ofList =
          after.findSome? fun d => (p.only d).commandParameter flag
      · exact heq
      · exact absurd (.unfinished hp hbefore hends heq) h
    · have halone := hsets.parameterIn_eq hv []
      rw [List.append_nil] at halone
      rw [hsets.parameterIn_eq hv, halone, Option.some_or]

end Pod

/-! ### Variables -/

/-- A variable has a name, and a value that is not empty. -/
def Variable.Gives (x : Variable) (name : String) : Prop :=
  x.name = name ∧ ∃ v, x.value = some v ∧ v ≠ ""

namespace Pod

variable {p : Pod} {name : String}

/-- The first variable with a name has no value or an empty one, although a later one gives the name a value. -/
def HidesVariable (p : Pod) (name : String) : Prop :=
  ∃ before x after, p.containers.flatMap Container.env = before ++ x :: after ∧ (∀ y ∈ before, y.name ≠ name) ∧
    x.name = name ∧ (∀ v ∈ x.value, v = "") ∧ ∃ y ∈ after, y.Gives name

private theorem envValue?_eq_none_iff {before after : List Variable} {x : Variable}
    (hp : p.containers.flatMap Container.env = before ++ x :: after) (hbefore : ∀ y ∈ before, y.name ≠ name)
    (hx : x.name = name) : p.envValue? name = none ↔ ∀ v ∈ x.value, v = "" := by
  have hfind : (before ++ x :: after).find? (fun y => y.name == name) = some x := by
    rw [List.find?_eq_some_iff_append]
    exact ⟨by simpa using hx, before, after, rfl, by simpa using hbefore⟩
  rw [envValue?, hp, hfind, Option.bind_some]
  simp [Option.filter_eq_none_iff]

private theorem envValue?_hides_iff : (p.envValue? name = none ∧ ∃ c ∈ p.containers, ∃ x ∈ c.env, x.Gives name) ↔
    p.HidesVariable name := by
  constructor
  · rintro ⟨hnone, c, hc, x, hx, hgives⟩
    have hmem : x ∈ p.containers.flatMap Container.env := List.mem_flatMap.mpr ⟨c, hc, hx⟩
    rcases forall_not_or_exists_first (fun y : Variable => y.name = name) (p.containers.flatMap Container.env) with
      hall | ⟨before, y, after, hp, hbefore, hy⟩
    · exact absurd hgives.1 (hall x hmem)
    · rw [envValue?_eq_none_iff hp hbefore hy] at hnone
      refine ⟨before, y, after, hp, hbefore, hy, hnone, x, ?_, hgives⟩
      rw [hp] at hmem
      rcases List.mem_append.mp hmem with hmem | hmem
      · exact absurd hgives.1 (hbefore x hmem)
      · rcases List.mem_cons.mp hmem with rfl | hmem
        · obtain ⟨-, v, hv, hne⟩ := hgives
          exact absurd (hnone v hv) hne
        · exact hmem
  · rintro ⟨before, x, after, hp, hbefore, hx, hempty, y, hy, hgives⟩
    have hmem : y ∈ p.containers.flatMap Container.env := by
      rw [hp]
      exact List.mem_append_right before (List.mem_cons_of_mem x hy)
    obtain ⟨c, hc, hcy⟩ := List.mem_flatMap.mp hmem
    exact ⟨(envValue?_eq_none_iff hp hbefore hx).mpr hempty, c, hc, y, hcy, hgives⟩

end Pod

/-- A pod's value of a flag is the first one that a container has by itself, unless the first mention cuts it short; a
variable is hidden exactly if the first one with its name has no value. -/
theorem pod_settings_cross_containers (p : Pod) (flag name : String) :
    (p.commandParameter flag = p.parameterByContainer flag ↔ ¬ p.CutsShort flag) ∧
    (∀ before c after, p.containers = before ++ c :: after → (∀ b ∈ before, b.Omits flag) →
      (c.Empties flag → p.commandParameter flag = none) ∧
      (c.EndsWith flag →
        p.commandParameter flag = (after.flatMap Container.words).head?.map String.ofList)) ∧
    ((p.envValue? name = none ∧ ∃ c ∈ p.containers, ∃ x ∈ c.env, x.Gives name) ↔ p.HidesVariable name) := by
  refine ⟨⟨fun heq hcut => hcut.ne heq, Pod.commandParameter_eq_of_not_cutsShort⟩, ?_, Pod.envValue?_hides_iff⟩
  intro before c after hp hbefore
  have hvalue := Pod.commandParameter_of_first hp hbefore
  constructor
  · intro hempties
    rw [hvalue, hempties.parameterIn_eq]
  · intro hends
    rw [hvalue, hends.parameterIn_eq Container.isWord_of_mem_flatMap]

/-- What the second one of two containers sets is not found if the first one ends with the flag, sets it to the empty
text, or has the variable without a value. -/
theorem later_setting_is_not_found :
    let second : Container :=
      { command := ["kube-proxy", "--cluster-cidr=10.244.0.0/16"], env := [⟨"IPALLOC_RANGE", some "10.32.0.0/12"⟩] }
    let ending : Pod := { containers := [{ command := ["manager", "--cluster-cidr"] }, second] }
    let emptying : Pod := { containers := [{ command := ["manager", "--cluster-cidr="] }, second] }
    let unset : Pod := { containers := [{ env := [⟨"IPALLOC_RANGE", some ""⟩] }, second] }
    (ending.commandParameter "--cluster-cidr" = some "kube-proxy" ∧
      ending.parameterByContainer "--cluster-cidr" = some "10.244.0.0/16") ∧
    (emptying.commandParameter "--cluster-cidr" = none ∧
      emptying.parameterByContainer "--cluster-cidr" = some "10.244.0.0/16") ∧
    (unset.envValue? "IPALLOC_RANGE" = none ∧
      ∃ c ∈ unset.containers, ∃ x ∈ c.env, x.Gives "IPALLOC_RANGE") := by
  intro second ending emptying unset
  refine ⟨⟨?_, ?_⟩, ⟨?_, ?_⟩, ?_, second, ?_, _, List.mem_singleton.mpr rfl, rfl, _, rfl, ?_⟩
  all_goals decide

end MultiCluster
