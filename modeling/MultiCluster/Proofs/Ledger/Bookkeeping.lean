import MultiCluster.Proofs.Allocation.Rounds

/-!
# The books of a ledger in memory

Any requests, in any order and with any versions, leave a ledger in memory in a state that can be told from its history:
it holds the record that was stored last, its version is one more than the number of writes that landed, and it counts
these writes and the conflicts. What it answers next follows from that. In particular a version is compared as a text,
so that a write under the current number in another spelling is a conflict.

The counters are numbers without a bound here. Together they are at most the number of requests, and so a run of fewer
than `2 ^ 32` requests keeps each of them inside 32 bits.

Main statement: `MemoryLedger.history_determines_answers`.
-/

namespace MultiCluster

namespace Ledger

/-! ### What an exchange stores -/

/-- The record that an exchange has stored: a first one, or one that replaces another. -/
def stored? : Exchange interface → Option Record
  | ⟨.create record, reply⟩ =>
    match (reply : Except Failure Bool) with
    | .ok true => some record
    | .ok false => none
    | .error _ => none
  | ⟨.read, _⟩ => none
  | ⟨.writeIfUnchanged record _, reply⟩ =>
    match (reply : Except Failure Unit) with
    | .ok _ => some record
    | .error _ => none

/-- The record that some exchanges have stored last. -/
def lastStored? (es : List (Exchange interface)) : Option Record :=
  (es.filterMap stored?).getLast?

variable {es : List (Exchange interface)} {e : Exchange interface}

private theorem lastStored?_concat_of_some {record : Record} (h : stored? e = some record) :
    lastStored? (es ++ [e]) = some record := by
  simp [lastStored?, h]

private theorem lastStored?_concat_of_none (h : stored? e = none) :
    lastStored? (es ++ [e]) = lastStored? es := by
  simp [lastStored?, h]

private theorem isConflict_of_isLanded (h : isLanded e = true) : isConflict e = false := by
  obtain ⟨q, reply⟩ := e
  cases q with
  | create record => cases h
  | read => cases h
  | writeIfUnchanged record v =>
    cases reply with
    | ok _ => rfl
    | error f => cases h

/-- No exchange is both a write that landed and a conflict. -/
private theorem countP_add_countP_le (es : List (Exchange interface)) :
    es.countP isLanded + es.countP isConflict ≤ es.length := by
  induction es with
  | nil => exact Nat.le_refl 0
  | cons e es ih =>
    rw [List.countP_cons, List.countP_cons, List.length_cons]
    cases hlanded : isLanded e with
    | true =>
      rw [isConflict_of_isLanded hlanded, if_pos rfl, if_neg Bool.false_ne_true]
      omega
    | false =>
      rw [if_neg Bool.false_ne_true]
      split <;> omega

end Ledger

namespace MemoryLedger

open Ledger

/-! ### Books -/

/-- A ledger that was absent at first has answered some requests, of any kind and with any versions. -/
inductive Served : List (Exchange interface) → MemoryLedger → Prop
  | absent : Served [] .absent
  | answer {es : List (Exchange interface)} {l l' : MemoryLedger} {q : Query} {reply : Except Failure q.Result}
      (h : Served es l) (hanswer : answer q l = (reply, l')) : Served (es ++ [⟨q, reply⟩]) l'

/-- The ledger that holds a record after some writes and conflicts. -/
def booked (record : Record) (writes conflicts : Nat) : MemoryLedger where
  stored := some { data := record.toData, revision := 1 + writes }
  writes := writes
  conflicts := conflicts

private theorem read_booked (record : Record) (writes conflicts : Nat) :
    (booked record writes conflicts).read = .ok (record, versionOf (1 + writes)) :=
  Holds.read ⟨record.toData, rfl, Record.ofData_toData record⟩

private theorem write_booked_of_eq {v : Version} {writes : Nat} (h : versionOf (1 + writes) = v)
    (record record' : Record) (conflicts : Nat) :
    (booked record writes conflicts).writeIfUnchanged record' v = (.ok (), booked record' (writes + 1) conflicts) := by
  rw [writeIfUnchanged, booked]
  simp only [h, ↓reduceIte]
  rfl

private theorem write_booked_of_ne {v : Version} {writes : Nat} (h : versionOf (1 + writes) ≠ v)
    (record record' : Record) (conflicts : Nat) :
    (booked record writes conflicts).writeIfUnchanged record' v =
      (.error (.conflict name), booked record writes (conflicts + 1)) := by
  rw [writeIfUnchanged, booked]
  simp only [h, ↓reduceIte]
  rfl

/-- A ledger is what its history says: absent as long as nothing has been stored, and else the last record, with the
numbers of writes that landed and of conflicts. -/
inductive IsBooked (es : List (Exchange interface)) : MemoryLedger → Prop
  | absent (hnone : lastStored? es = none) (hwrites : es.countP isLanded = 0) (hconflicts : es.countP isConflict = 0) :
      IsBooked es .absent
  | created {record : Record} (hlast : lastStored? es = some record) :
      IsBooked es (booked record (es.countP isLanded) (es.countP isConflict))

variable {es : List (Exchange interface)} {e : Exchange interface} {l : MemoryLedger}

/-- The books with one more exchange, which is counted if it is a write that landed or a conflict. -/
private theorem IsBooked.concat {record : Record} (hlast : lastStored? (es ++ [e]) = some record) :
    IsBooked (es ++ [e])
      (booked record (es.countP isLanded + [e].countP isLanded) (es.countP isConflict + [e].countP isConflict)) := by
  rw [← List.countP_append, ← List.countP_append]
  exact .created hlast

/-- An exchange that stores nothing and is no conflict leaves the books as they are. -/
private theorem IsBooked.idle (h : IsBooked es l) (hstored : stored? e = none) (hlanded : isLanded e = false)
    (hconflict : isConflict e = false) : IsBooked (es ++ [e]) l := by
  have hlast : lastStored? (es ++ [e]) = lastStored? es := lastStored?_concat_of_none hstored
  have hwrites : (es ++ [e]).countP isLanded = es.countP isLanded := by simp [hlanded]
  have hconflicts : (es ++ [e]).countP isConflict = es.countP isConflict := by simp [hconflict]
  cases h with
  | absent hnone hw hc => exact .absent (hlast.trans hnone) (hwrites.trans hw) (hconflicts.trans hc)
  | created hsome =>
    rw [← hwrites, ← hconflicts]
    exact .created (hlast.trans hsome)

/-- An answer keeps the books right. -/
private theorem IsBooked.answer (h : IsBooked es l) (q : Query) :
    IsBooked (es ++ [⟨q, (answer q l).1⟩]) (answer q l).2 := by
  cases h with
  | absent hnone hwrites hconflicts =>
    have h : IsBooked es .absent := .absent hnone hwrites hconflicts
    cases q with
    | create record =>
      -- nothing has been counted before the first record
      have hlast : lastStored? (es ++ [⟨.create record, .ok true⟩]) = some record := lastStored?_concat_of_some rfl
      have hbooks := IsBooked.concat hlast
      rw [hwrites, hconflicts] at hbooks
      exact hbooks
    | read => exact h.idle rfl rfl rfl
    | writeIfUnchanged record v => exact h.idle rfl rfl rfl
  | @created record hlast =>
    have h := IsBooked.created hlast
    cases q with
    | create record' => exact h.idle rfl rfl rfl
    | read =>
      rw [MemoryLedger.answer, read_booked]
      exact h.idle rfl rfl rfl
    | writeIfUnchanged record' v =>
      rw [MemoryLedger.answer]
      by_cases hv : versionOf (1 + es.countP isLanded) = v
      · rw [write_booked_of_eq hv]
        exact .concat (lastStored?_concat_of_some rfl)
      · rw [write_booked_of_ne hv]
        exact .concat ((lastStored?_concat_of_none rfl).trans hlast)

/-- The books of a ledger are right after any requests. -/
private theorem Served.isBooked (h : Served es l) : IsBooked es l := by
  induction h with
  | absent => exact .absent rfl rfl rfl
  | @answer _ _ _ q _ _ hanswer ih =>
    have hnext := ih.answer q
    rw [hanswer] at hnext
    exact hnext

/-! ### Answers -/

private theorem IsBooked.writes_eq (h : IsBooked es l) : l.writes = es.countP isLanded := by
  cases h with
  | absent _ hwrites _ => exact hwrites.symm
  | created _ => rfl

private theorem IsBooked.conflicts_eq (h : IsBooked es l) : l.conflicts = es.countP isConflict := by
  cases h with
  | absent _ _ hconflicts => exact hconflicts.symm
  | created _ => rfl

private theorem IsBooked.eq_absent (h : IsBooked es l) (hnone : lastStored? es = none) : l = .absent := by
  cases h with
  | absent => rfl
  | created hlast =>
    rw [hnone] at hlast
    cases hlast

private theorem IsBooked.eq_booked (h : IsBooked es l) {record : Record} (hlast : lastStored? es = some record) :
    l = booked record l.writes l.conflicts := by
  cases h with
  | absent hnone =>
    rw [hnone] at hlast
    cases hlast
  | created hlast' =>
    cases hlast.symm.trans hlast'
    rfl

/-- What a ledger holds and answers follows from its history: from the record that was stored last, and from the numbers
of writes that landed and of conflicts. -/
theorem history_determines_answers (h : Served es l) :
    (l.writes = es.countP isLanded ∧ l.conflicts = es.countP isConflict ∧ l.writes + l.conflicts ≤ es.length) ∧
    (lastStored? es = none →
      l.stored = none ∧
      answer .read l = (.error notFound, l) ∧
      (∀ r v, answer (.writeIfUnchanged r v) l = (.error notFound, l)) ∧
      ∀ r, answer (.create r) l = (.ok true, { l with stored := some ⟨r.toData, 1⟩ })) ∧
    ∀ r, lastStored? es = some r →
      l.stored = some ⟨r.toData, 1 + l.writes⟩ ∧
      answer .read l = (.ok (r, ⟨toString (1 + l.writes)⟩), l) ∧
      (∀ r', answer (.create r') l = (.ok false, l)) ∧
      ∀ r' v,
        (v.token = toString (1 + l.writes) →
          answer (.writeIfUnchanged r' v) l =
            (.ok (), { l with stored := some ⟨r'.toData, 1 + (l.writes + 1)⟩, writes := l.writes + 1 })) ∧
        (v.token ≠ toString (1 + l.writes) →
          answer (.writeIfUnchanged r' v) l =
            (.error (.conflict name), { l with conflicts := l.conflicts + 1 })) := by
  have hbooks := h.isBooked
  refine ⟨⟨hbooks.writes_eq, hbooks.conflicts_eq, ?_⟩, ?_, ?_⟩
  · rw [hbooks.writes_eq, hbooks.conflicts_eq]
    exact countP_add_countP_le es
  · intro hnone
    obtain rfl := hbooks.eq_absent hnone
    exact ⟨rfl, rfl, fun _ _ => rfl, fun _ => rfl⟩
  · intro r hlast
    have hl := hbooks.eq_booked hlast
    generalize l.writes = writes, l.conflicts = conflicts at hl
    subst hl
    refine ⟨rfl, ?_, fun _ => rfl, fun r' v => ⟨fun hv => ?_, fun hv => ?_⟩⟩
    · rw [answer, read_booked]
      rfl
    · obtain ⟨token⟩ := v
      exact write_booked_of_eq (congrArg Version.mk hv.symm) r r' conflicts
    · exact write_booked_of_ne (fun heq => hv (congrArg Version.token heq).symm) r r' conflicts

/-- A version is the text of a number and not the number: with a zero in front it is out of date. -/
theorem padded_version_is_stale :
    let first : Record := .empty { address := 4060086272, length := 8 } 65536 true
    let second := first.assign "east" { address := 4060086272, length := 16 } none
    let es : List (Exchange interface) := [
      ⟨.writeIfUnchanged second ⟨"1"⟩, .error notFound⟩,
      ⟨.create first, .ok true⟩,
      ⟨.writeIfUnchanged second ⟨"01"⟩, .error (.conflict name)⟩,
      ⟨.writeIfUnchanged second ⟨"1"⟩, .ok ()⟩]
    ∃ l, Served es l ∧ lastStored? es = some second ∧ l.writes = 1 ∧ l.conflicts = 1 ∧
      answer .read l = (.ok (second, ⟨"2"⟩), l) := by
  intro first second es
  -- the number is the current one, and the text is not
  have hpadded : versionOf (1 + 0) ≠ ⟨"01"⟩ := by decide
  have hcreated : Served (es.take 2) (booked first 0 0) := (Served.absent.answer rfl).answer rfl
  have hstale : Served (es.take 3) (booked first 0 1) := hcreated.answer (write_booked_of_ne hpadded first second 0)
  have hserved : Served es (booked second 1 1) := hstale.answer (write_booked_of_eq rfl first second 1)
  obtain ⟨⟨hwrites, hconflicts, -⟩, -, hstored⟩ := history_determines_answers hserved
  obtain ⟨-, hread, -⟩ := hstored second rfl
  have htoken : toString (1 + (booked second 1 1).writes) = "2" := by decide
  rw [htoken] at hread
  exact ⟨_, hserved, rfl, hwrites, hconflicts, hread⟩

end MemoryLedger

end MultiCluster
