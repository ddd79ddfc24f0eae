import Mathlib.Data.List.Forall2
import Mathlib.Data.List.Nodup
import MultiCluster.Json.Decode

/-!
# Fields and lists of JSON values

The fields of a structure are the members of an object in which no field occurs twice, or the items of an array that is
not too long. Each of the ways to read a field accepts exactly some values, and a list is read item by item.

Main statements: `hasFields_of_fields?`, `HasFields.exists_fields?` and `list?_eq_some_iff`.
-/

namespace MultiCluster.Json

/-! ### Lists -/

private theorem mapM_eq_some_iff {α β : Type} {f : α → Option β} {xs : List α} {ys : List β} :
    xs.mapM f = some ys ↔ List.Forall₂ (fun x y => f x = some y) xs ys := by
  induction xs generalizing ys with
  | nil => cases ys <;> simp
  | cons x xs ih => cases ys <;> simp [Option.bind_eq_some_iff, ih]

theorem list?_eq_some_iff {α : Type} {decode : Json → Option α} {j : Json} {xs : List α} :
    list? decode j = some xs ↔ ∃ js, j = array js ∧ List.Forall₂ (fun j x => decode j = some x) js xs := by
  cases j with
  | array js => simp [list?, mapM_eq_some_iff]
  | _ => simp [list?]

theorem asText?_eq_some_iff {j : Json} {s : String} : j.asText? = some s ↔ j = text s := by
  cases j <;> simp [asText?]

theorem asBool?_eq_some_iff {j : Json} {b : Bool} : j.asBool? = some b ↔ j = bool b := by
  cases j <;> simp [asBool?]

theorem asWord?_eq_some_iff {j : Json} {n : UInt64} : j.asWord? = some n ↔ j = ofWord n := by
  refine ⟨fun h => ?_, fun h => h ▸ asWord?_ofWord n⟩
  obtain ⟨k, hk, rfl⟩ := Option.map_eq_some_iff.mp h
  cases j with
  | integer m =>
    simp only [asNat?] at hk
    split_ifs at hk with hm
    cases hk
    have hlt : m.toNat < 2 ^ 64 := by omega
    rw [ofWord, UInt64.toNat_ofNat_of_lt' hlt, Int.toNat_of_nonneg hm.1]
  | _ => cases hk

theorem name?_eq_some_iff {j : Json} {s : String} : j.name? = some s ↔ j = text s ∨ j = object [(s, null)] := by
  unfold name?
  split <;> simp_all

/-! ### Fields -/

private theorem lookup_eq_head? (ms : List (String × Json)) (name : String) :
    ms.lookup name = ((ms.filter fun m => m.1 == name).head?).map Prod.snd := by
  induction ms with
  | nil => rfl
  | cons m ms ih =>
    obtain ⟨key, j⟩ := m
    rw [List.lookup_cons, ih]
    by_cases h : name = key
    · subst h
      simp
    · rw [List.filter_cons_of_neg (by simpa using Ne.symm h), beq_eq_false_iff_ne.mpr h]

/-- A key that does not occur twice has the value of its member, if there is one. -/
private theorem unique?_eq_some_iff {ms : List (String × Json)} {name : String} {o : Option Json} :
    unique? ms name = some o ↔ (ms.filter fun m => m.1 == name).length ≤ 1 ∧ ms.lookup name = o := by
  rw [lookup_eq_head?, unique?]
  split
  · rename_i h
    simp [h]
  · rename_i h
    simp [h]
  · rename_i hnil hone
    refine iff_of_false (by simp) fun h => ?_
    have hlength := h.1
    cases hfilter : ms.filter fun m => m.1 == name with
    | nil => exact hnil hfilter
    | cons m ms' =>
      cases ms' with
      | nil => exact hone m hfilter
      | cons m' ms'' =>
        rw [hfilter] at hlength
        simp at hlength

/-- The values of the fields of a structure, which may be missing. -/
inductive HasFields (names : List String) : Json → (String → Option Json) → Prop
  /-- The members of an object, among which no field occurs twice. -/
  | object {ms : List (String × Json)} {v : String → Option Json}
      (hunique : ∀ name ∈ names, (ms.filter fun m => m.1 == name).length ≤ 1)
      (hv : ∀ name ∈ names, v name = ms.lookup name) : HasFields names (object ms) v
  /-- The items of an array, in the order of the fields. -/
  | array {js : List Json} {v : String → Option Json} (hlength : js.length ≤ names.length)
      (hv : ∀ name ∈ names, v name = (names.zip js).lookup name) : HasFields names (array js) v

variable {names : List String} {j : Json}

theorem hasFields_of_fields? {f : Fields} (h : fields? names j = some f) : HasFields names j f.value? := by
  unfold fields? at h
  split at h
  · split at h
    · rename_i ms hall
      cases h
      have hunique : ∀ name ∈ names, ∃ o, unique? ms name = some o := by
        simpa [Option.isSome_iff_exists] using hall
      refine .object (fun name hname => ?_) fun name hname => ?_
      · obtain ⟨o, ho⟩ := hunique name hname
        exact (unique?_eq_some_iff.mp ho).1
      · obtain ⟨o, ho⟩ := hunique name hname
        simp [hname, ho, (unique?_eq_some_iff.mp ho).2]
    · cases h
  · split at h
    · rename_i hlength
      cases h
      exact .array hlength fun _ _ => rfl
    · cases h
  · cases h

theorem HasFields.exists_fields? {v : String → Option Json} (h : HasFields names j v) :
    ∃ f, fields? names j = some f ∧ ∀ name ∈ names, f.value? name = v name := by
  cases h with
  | @object ms _ hunique hv =>
    have hlookup : ∀ name ∈ names, unique? ms name = some (ms.lookup name) :=
      fun name hname => unique?_eq_some_iff.mpr ⟨hunique name hname, rfl⟩
    have hall : (names.all fun name => (unique? ms name).isSome) = true := by
      rw [List.all_eq_true]
      exact fun name hname => by rw [hlookup name hname]; rfl
    refine ⟨_, if_pos hall, fun name hname => ?_⟩
    simp [hname, hlookup name hname, hv name hname]
  | array hlength hv => exact ⟨_, if_pos hlength, fun name hname => (hv name hname).symm⟩

/-- The members of an object are the fields that they name, if they name no other ones and each at most once. -/
theorem hasFields_of_sublist {ms : List (String × Json)} (h : (ms.map Prod.fst).Sublist names) (hnodup : names.Nodup) :
    HasFields names (object ms) fun name => ms.lookup name := by
  refine .object (fun name _ => ?_) fun _ _ => rfl
  rw [← List.countP_eq_length_filter]
  have hcount := List.nodup_iff_count_le_one.mp (hnodup.sublist h) name
  rwa [List.count, List.countP_map] at hcount

/-! ### Single fields -/

section Field

variable {α : Type} {P : Json → α → Prop} {decode : Json → Option α} {f : Fields} {name : String} {a : α} {o : Option α}

/-- A field has a value: the one that is given, or else the default if there is one. -/
inductive FieldIs (P : Json → α → Prop) (default : Option α) : Option Json → α → Prop
  | given {j : Json} {a : α} (h : P j a) : FieldIs P default (some j) a
  | missing {a : α} (h : default = some a) : FieldIs P default none a

/-- A field has a value, or it has none, which `null` stands for too. -/
inductive OptionalIs (P : Json → α → Prop) : Option Json → Option α → Prop
  | given {j : Json} {a : α} (hnull : j ≠ null) (h : P j a) : OptionalIs P (some j) (some a)
  | missing : OptionalIs P none none
  | null : OptionalIs P (some null) none

theorem Fields.required_eq_some_iff (hdecode : ∀ {j a}, decode j = some a ↔ P j a) :
    f.required name decode = some a ↔ FieldIs P none (f.value? name) a := by
  unfold required
  cases f.value? name with
  | none => exact iff_of_false nofun nofun
  | some j => exact ⟨fun h => .given (hdecode.mp h), fun h => by cases h with | given h => exact hdecode.mpr h⟩

theorem Fields.orElse_eq_some_iff {default : α} (hdecode : ∀ {j a}, decode j = some a ↔ P j a) :
    f.orElse name default decode = some a ↔ FieldIs P (some default) (f.value? name) a := by
  unfold orElse
  cases f.value? name with
  | none => exact ⟨fun h => .missing h, fun h => by cases h with | missing h => exact h⟩
  | some j => exact ⟨fun h => .given (hdecode.mp h), fun h => by cases h with | given h => exact hdecode.mpr h⟩

theorem Fields.optional_eq_some_iff (hdecode : ∀ {j a}, decode j = some a ↔ P j a) :
    f.optional name decode = some o ↔ OptionalIs P (f.value? name) o := by
  unfold optional
  generalize f.value? name = v
  constructor
  · intro h
    split at h
    · cases h
      exact .missing
    · cases h
      exact .null
    · rename_i hnull
      obtain ⟨a, ha, rfl⟩ := Option.map_eq_some_iff.mp h
      exact .given hnull (hdecode.mp ha)
  · rintro (⟨hnull, h⟩ | _ | _)
    · simp [hdecode.mpr h]
    · rfl
    · rfl

end Field

end MultiCluster.Json
