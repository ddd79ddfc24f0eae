/-!
# Maps from texts to texts

A map is kept as a list of pairs, and a key's value is the one of its first pair. Main statements: `get?_insert` and
`get?_insertAll` describe insertions by what the map answers afterwards.
-/

namespace MultiCluster

/-- A map from texts to texts. -/
structure TextMap where
  pairs : List (String × String)
  deriving DecidableEq, Repr, Inhabited

namespace TextMap

/-- The map without keys. -/
def empty : TextMap := ⟨[]⟩

/-- The value of a key. -/
def get? (m : TextMap) (key : String) : Option String :=
  m.pairs.lookup key

/-- Whether a key has a value. -/
def contains (m : TextMap) (key : String) : Bool :=
  (m.get? key).isSome

/-- Gives a key a value, in place of the one it had. -/
def insertPair (key value : String) : List (String × String) → List (String × String)
  | [] => [(key, value)]
  | p :: ps => if p.1 = key then (key, value) :: ps else p :: insertPair key value ps

/-- The map in which a key has a given value. -/
def insert (m : TextMap) (key value : String) : TextMap :=
  ⟨insertPair key value m.pairs⟩

/-- The map with the pairs of another one inserted. -/
def insertAll (m other : TextMap) : TextMap :=
  other.pairs.foldl (fun m p => m.insert p.1 p.2) m

/-- The map of some pairs; the last pair of a key counts. -/
def ofList (ps : List (String × String)) : TextMap :=
  empty.insertAll ⟨ps⟩

@[simp]
theorem get?_empty (key : String) : empty.get? key = none := rfl

private theorem lookup_cons_pair (key value other : String) (ps : List (String × String)) :
    ((key, value) :: ps).lookup other = if other = key then some value else ps.lookup other := by
  rw [List.lookup_cons]
  by_cases h : other = key
  · simp [h]
  · have hb : (other == key) = false := by simpa using h
    simp [h, hb]

private theorem lookup_insertPair (key value other : String) (ps : List (String × String)) :
    (insertPair key value ps).lookup other = if other = key then some value else ps.lookup other := by
  induction ps with
  | nil => exact lookup_cons_pair key value other []
  | cons p ps ih =>
    obtain ⟨k, v⟩ := p
    by_cases hk : k = key
    · subst hk
      simp only [insertPair, ↓reduceIte, lookup_cons_pair]
      split <;> rfl
    · simp only [insertPair, hk, ↓reduceIte, lookup_cons_pair, ih]
      by_cases ho : other = k
      · have : other ≠ key := fun h => hk (ho.symm.trans h)
        simp [ho, hk]
      · simp [ho]

/-- After an insertion the key has the value and every other key has the one it had. -/
theorem get?_insert (m : TextMap) (key value other : String) :
    (m.insert key value).get? other = if other = key then some value else m.get? other :=
  lookup_insertPair key value other m.pairs

theorem contains_iff {m : TextMap} {key : String} : m.contains key = true ↔ key ∈ m.pairs.map Prod.fst := by
  rw [contains, get?, List.lookup_isSome_iff, List.mem_map]
  constructor
  · rintro ⟨p, hp, hkey⟩
    exact ⟨p, hp, (beq_iff_eq.mp hkey).symm⟩
  · rintro ⟨p, hp, rfl⟩
    exact ⟨p, hp, beq_self_eq_true p.1⟩

/-- With the pairs of a map inserted, its keys have the values that they have in it, and every other key has the one
it had. -/
theorem get?_insertAll (m : TextMap) {other : TextMap} (hnodup : (other.pairs.map Prod.fst).Nodup) (key : String) :
    (m.insertAll other).get? key = (other.get? key).or (m.get? key) := by
  obtain ⟨ps⟩ := other
  induction ps generalizing m with
  | nil => rfl
  | cons p ps ih =>
    obtain ⟨k, v⟩ := p
    rw [List.map_cons, List.nodup_cons] at hnodup
    have hrest : (m.insertAll ⟨(k, v) :: ps⟩).get? key = (get? ⟨ps⟩ key).or ((m.insert k v).get? key) :=
      ih (m.insert k v) hnodup.2
    have hcons : get? ⟨(k, v) :: ps⟩ key = if key = k then some v else get? ⟨ps⟩ key := lookup_cons_pair k v key ps
    rw [hrest, get?_insert, hcons]
    by_cases hkey : key = k
    · -- the keys that are inserted later are other ones
      have hnone : get? ⟨ps⟩ k = none := by
        rw [← Option.not_isSome_iff_eq_none]
        exact fun h => hnodup.1 (contains_iff.mp h)
      simp [hkey, hnone]
    · simp [hkey]

end TextMap

end MultiCluster
