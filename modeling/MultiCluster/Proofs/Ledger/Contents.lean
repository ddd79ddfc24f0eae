import MultiCluster.Ledger.Memory
import MultiCluster.Proofs.Concurrency.Pool
import MultiCluster.Proofs.Ledger.StoredForm

/-!
# The contents of a ledger in memory

A ledger holds a record at a revision if its stored data decodes to that record. The revision grows with every
change, and different revisions have different versions. So a reader who meets the version again that it has read
meets the record again that it has read, whatever happened in between.

Main statements: `answer_cases` says what a request can change, and `Pool.remembers` that all programs which share a
ledger can rely on what they read.
-/

namespace MultiCluster

namespace Ledger

/-- A read that was answered with a record and its version. -/
def got (r : Record) (v : Version) : Exchange interface := ⟨.read, .ok (r, v)⟩

/-- A write under a version that succeeded. -/
def wrote (r : Record) (v : Version) : Exchange interface := ⟨.writeIfUnchanged r v, .ok ()⟩

end Ledger

namespace MemoryLedger

/-- The ledger holds a record at a revision. -/
def Holds (l : MemoryLedger) (r : Record) (n : Nat) : Prop :=
  ∃ data, l.stored = some ⟨data, n⟩ ∧ Record.ofData data = .ok r

theorem versionOf_injective {m n : Nat} (h : versionOf m = versionOf n) : m = n := by
  have hrepr : m.repr = n.repr := congrArg Version.token h
  have hdigits : Nat.toDigits 10 m = Nat.toDigits 10 n := by
    rw [← Nat.toList_repr, ← Nat.toList_repr, hrepr]
  rw [← Nat.ofDigitChars_ten_toDigits (n := m), ← Nat.ofDigitChars_ten_toDigits (n := n), hdigits]

theorem Holds.unique {l : MemoryLedger} {r r' : Record} {n n' : Nat} (h : l.Holds r n) (h' : l.Holds r' n') :
    r = r' ∧ n = n' := by
  obtain ⟨data, hstored, hdata⟩ := h
  obtain ⟨data', hstored', hdata'⟩ := h'
  rw [hstored] at hstored'
  cases hstored'
  rw [hdata] at hdata'
  exact ⟨Except.ok.inj hdata', rfl⟩

theorem Holds.of_stored_eq {l l' : MemoryLedger} {r : Record} {n : Nat} (h : l.Holds r n)
    (heq : l'.stored = l.stored) : l'.Holds r n := by
  obtain ⟨data, hstored, hdata⟩ := h
  exact ⟨data, heq.trans hstored, hdata⟩

/-- A reader gets the record that the ledger holds, with the version of its revision. -/
theorem read_eq_ok_iff {l : MemoryLedger} {r : Record} {v : Version} :
    l.read = .ok (r, v) ↔ ∃ n, l.Holds r n ∧ v = versionOf n := by
  constructor
  · intro h
    cases hs : l.stored with
    | none => simp [read, hs] at h
    | some s =>
      cases hd : Record.ofData s.data with
      | error f => simp [read, hs, hd, Except.map] at h
      | ok r' =>
        simp only [read, hs, hd, Except.map, Except.ok.injEq, Prod.mk.injEq] at h
        obtain ⟨rfl, rfl⟩ := h
        exact ⟨s.revision, ⟨s.data, hs, hd⟩, rfl⟩
  · rintro ⟨n, ⟨data, hs, hd⟩, rfl⟩
    simp [read, hs, hd, Except.map]

theorem read_of_got {l : MemoryLedger} {q : Ledger.Query} {r : Record} {v : Version}
    (h : (⟨q, (answer q l).1⟩ : Exchange Ledger.interface) = Ledger.got r v) : l.read = .ok (r, v) := by
  have hq : q = .read := congrArg Exchange.query h
  subst hq
  injection h

theorem Holds.read {l : MemoryLedger} {r : Record} {n : Nat} (h : l.Holds r n) :
    l.read = .ok (r, versionOf n) :=
  read_eq_ok_iff.mpr ⟨n, h, rfl⟩

theorem create_cases (l : MemoryLedger) (record : Record) :
    (l.stored = none ∧ l.create record = (true, { l with stored := some ⟨record.toData, 1⟩ })) ∨
      l.create record = (false, l) := by
  unfold create
  cases l.stored with
  | none => exact .inl ⟨rfl, rfl⟩
  | some s => exact .inr rfl

/-- A write succeeds exactly against the version of the current revision; else it stores nothing. -/
theorem writeIfUnchanged_cases (l : MemoryLedger) (record : Record) (v : Version) :
    (∃ data n, l.stored = some ⟨data, n⟩ ∧ v = versionOf n ∧ (l.writeIfUnchanged record v).1 = .ok () ∧
      (l.writeIfUnchanged record v).2.Holds record (n + 1)) ∨
    ((∃ f, (l.writeIfUnchanged record v).1 = .error f) ∧
      (l.writeIfUnchanged record v).2.stored = l.stored) := by
  cases hs : l.stored with
  | none => exact .inr ⟨⟨notFound, by simp [writeIfUnchanged, hs]⟩, by simp [writeIfUnchanged, hs]⟩
  | some s =>
    by_cases hv : versionOf s.revision = v
    · refine .inl ⟨s.data, s.revision, rfl, hv.symm, by simp [writeIfUnchanged, hs, hv], ?_⟩
      exact ⟨record.toData, by simp [writeIfUnchanged, hs, hv], Record.ofData_toData record⟩
    · exact .inr ⟨⟨.conflict name, by simp [writeIfUnchanged, hs, hv]⟩, by simp [writeIfUnchanged, hs, hv]⟩

/-- A write to a ledger that holds a record succeeds if its version is the current one, and else it meets a conflict. -/
theorem Holds.write {l : MemoryLedger} {r : Record} {n : Nat} (h : l.Holds r n) (record : Record) (v : Version) :
    (v = versionOf n ∧ (l.writeIfUnchanged record v).1 = .ok () ∧
      (l.writeIfUnchanged record v).2.Holds record (n + 1)) ∨
    (v ≠ versionOf n ∧ (l.writeIfUnchanged record v).1 = .error (.conflict name) ∧
      (l.writeIfUnchanged record v).2.stored = l.stored) := by
  obtain ⟨data, hs, -⟩ := h
  by_cases hv : versionOf n = v
  · refine .inl ⟨hv.symm, by simp [writeIfUnchanged, hs, hv], record.toData, ?_, Record.ofData_toData record⟩
    simp [writeIfUnchanged, hs, hv]
  · exact .inr ⟨Ne.symm hv, by simp [writeIfUnchanged, hs, hv], by simp [writeIfUnchanged, hs, hv]⟩

/-- What a request can change: a first record is stored, or the current record is replaced under its version. -/
theorem answer_cases (q : Ledger.Query) (l : MemoryLedger) :
    (answer q l).2.stored = l.stored ∨
    (∃ record, q = .create record ∧ l.stored = none ∧ (answer q l).2.Holds record 1) ∨
    (∃ record data n, q = .writeIfUnchanged record (versionOf n) ∧ l.stored = some ⟨data, n⟩ ∧
      (answer q l).2.Holds record (n + 1)) := by
  cases q with
  | read => exact .inl rfl
  | create record =>
    rcases create_cases l record with ⟨hnone, hcreate⟩ | hcreate
    · refine .inr (.inl ⟨record, rfl, hnone, record.toData, ?_, Record.ofData_toData record⟩)
      rw [answer, hcreate]
    · left
      rw [answer, hcreate]
  | writeIfUnchanged record v =>
    rcases writeIfUnchanged_cases l record v with ⟨data, n, hs, rfl, -, hholds⟩ | ⟨-, hsame⟩
    · exact .inr (.inr ⟨record, data, n, rfl, hs, hholds⟩)
    · exact .inl hsame

/-! ### What a reader can rely on -/

/-- A version stands for a record: as long as it is the current one, the ledger holds that record. -/
def Remembers (l : MemoryLedger) (r : Record) (v : Version) : Prop :=
  ∃ s n, l.stored = some s ∧ v = versionOf n ∧ n ≤ s.revision ∧ (s.revision = n → Record.ofData s.data = .ok r)

theorem Holds.remembers {l : MemoryLedger} {r : Record} {n : Nat} (h : l.Holds r n) :
    l.Remembers r (versionOf n) := by
  obtain ⟨data, hstored, hdata⟩ := h
  exact ⟨_, n, hstored, rfl, Nat.le_refl n, fun _ => hdata⟩

/-- A version that is still current leads back to the record that was read with it. -/
private theorem Remembers.holds {l : MemoryLedger} {r : Record} {n : Nat} {data : TextMap}
    (h : l.Remembers r (versionOf n)) (hs : l.stored = some ⟨data, n⟩) : l.Holds r n := by
  obtain ⟨s, m, hs', hv, -, hdata⟩ := h
  obtain rfl := versionOf_injective hv
  rw [hs] at hs'
  cases hs'
  exact ⟨data, hs, hdata rfl⟩

/-- A writer who decided on a record that was read with the version replaces that record, or nothing. -/
theorem Remembers.write_cases {l : MemoryLedger} {r : Record} {v : Version} (h : l.Remembers r v) (record : Record) :
    (∃ n, v = versionOf n ∧ l.Holds r n ∧ (l.writeIfUnchanged record v).1 = .ok () ∧
      (l.writeIfUnchanged record v).2.Holds record (n + 1)) ∨
    ((∃ f, (l.writeIfUnchanged record v).1 = .error f) ∧
      (l.writeIfUnchanged record v).2.stored = l.stored) := by
  rcases writeIfUnchanged_cases l record v with ⟨data, n, hs, rfl, hok, hholds⟩ | hrefused
  · exact .inl ⟨n, rfl, h.holds hs, hok, hholds⟩
  · exact .inr hrefused

/-- No request makes a version stand for another record. -/
theorem Remembers.answer {l : MemoryLedger} {r : Record} {v : Version} (h : l.Remembers r v) (q : Ledger.Query) :
    (answer q l).2.Remembers r v := by
  obtain ⟨s, n, hs, hv, hle, hdata⟩ := h
  rcases answer_cases q l with hsame | ⟨record, -, hnone, -⟩ | ⟨record, data, m, -, hs', hholds⟩
  · exact ⟨s, n, hsame.trans hs, hv, hle, hdata⟩
  · rw [hs] at hnone
    cases hnone
  · rw [hs] at hs'
    cases hs'
    obtain ⟨data', hstored', -⟩ := hholds
    refine ⟨_, n, hstored', hv, Nat.le_succ_of_le hle, ?_⟩
    -- the revision has moved on, and does not come back
    intro heq
    simp only at heq hle
    omega

end MemoryLedger

/-- Every reader of a shared ledger can rely on the version that it has read. -/
theorem Pool.remembers {ι : Type} {α : ι → Type} [DecidableEq ι] (l : MemoryLedger)
    (programs : (i : ι) → Program Ledger.interface (α i)) (schedule : List ι) {i : ι} {r : Record} {v : Version}
    (h : ⟨i, Ledger.got r v⟩ ∈ ((start l programs).run MemoryLedger.world schedule).history) :
    ((start l programs).run MemoryLedger.world schedule).state.Remembers r v := by
  revert h
  let P : Pool Ledger.interface MemoryLedger α → Prop := fun p =>
    ⟨i, Ledger.got r v⟩ ∈ p.history → p.state.Remembers r v
  refine run_induction (P := P) ?_ ?_ schedule
  · intro h
    cases h
  · intro p j ih h
    rcases step_cases MemoryLedger.world p j with ⟨q, next, -, hstep⟩ | ⟨d, next, -, hstep⟩ | hstep
    · rw [hstep] at h ⊢
      rcases List.mem_append.mp h with h | h
      · exact (ih h).answer q
      · have hevent := List.mem_singleton.mp h
        have hread := MemoryLedger.read_of_got (congrArg Event.exchange hevent).symm
        obtain ⟨n, hholds, rfl⟩ := MemoryLedger.read_eq_ok_iff.mp hread
        exact hholds.remembers.answer q
    · rw [hstep] at h ⊢
      exact ih h
    · rw [hstep] at h ⊢
      exact ih h

end MultiCluster
