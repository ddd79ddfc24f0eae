import MultiCluster.Proofs.Allocation.Capacity
import MultiCluster.Proofs.Allocation.Rounds

/-!
# The attempts of a commit

A commit begins another round only if a conflict has ended the one before and an attempt is left. So whatever a ledger
answers, a commit ends, and it returns what its last round came to. A conflict itself is never returned: one that ends
the last attempt is renamed.

Main statement: `commit_returns_last_round`.
-/

namespace MultiCluster

/-- A conditional write. -/
def Ledger.isWrite : Exchange Ledger.interface → Bool
  | ⟨.writeIfUnchanged _ _, _⟩ => true
  | ⟨.read, _⟩ => false
  | ⟨.create _, _⟩ => false

namespace Allocator

variable {a : Allocator} {q : AllocationRequest} {f : Failure} {es : List (Exchange Ledger.interface)}
  {p : Program Ledger.interface (Except Failure (Option Network))} {o : Except Failure (Option Network)} {σ : Type}

/-- A read, and then at most one write. -/
def IsRound (es : List (Exchange Ledger.interface)) : Prop :=
  ∃ e rest, es = e :: rest ∧ Ledger.isRead e = true ∧ rest.length ≤ 1 ∧ ∀ e' ∈ rest, Ledger.isWrite e' = true

private theorem RoundLog.isRound (h : RoundLog q es o) : IsRound es := by
  cases h with
  | unread => exact ⟨_, [], rfl, rfl, Nat.zero_le 1, by simp⟩
  | finished => exact ⟨_, [], rfl, rfl, Nat.zero_le 1, by simp⟩
  | refused => exact ⟨_, [_], rfl, rfl, Nat.le_refl 1, by simp [Ledger.isWrite]⟩
  | written => exact ⟨_, [_], rfl, rfl, Nat.le_refl 1, by simp [Ledger.isWrite, Ledger.wrote]⟩

private theorem Conflicting.isRound {rounds : List (List (Exchange Ledger.interface))} (hc : Conflicting q rounds) :
    ∀ c ∈ rounds, IsRound c := by
  intro c hmem
  obtain ⟨f, hround, -⟩ := hc c hmem
  exact hround.isRound

private theorem isConflict_exhaustion (a : Allocator) (f : Failure) : (a.exhaustion f).isConflict = false := by
  unfold exhaustion
  cases hf : f.isConflict with
  | true => rfl
  | false => exact hf

/-- A conflict is not what a commit fails with. -/
private theorem Stage.isConflict_eq_false (h : Stage a q es p) (hp : p = .done (.error f)) : f.isConflict = false := by
  rcases h.done_cases hp with ⟨f', hv, hx, -⟩ | ⟨rounds, last, o, -, -, -, -, hx, -⟩
  · cases hx
    by_contra hf
    have hcontention := Failure.isContention_of_isConflict (Bool.of_not_eq_false hf)
    rw [AllocationRequest.isContention_of_validate hv] at hcontention
    cases hcontention
  · cases o with
    | ok b => cases hx
    | error f' =>
      cases hx
      exact isConflict_exhaustion a f'

/-- A commit that returns no block has landed no write. -/
private theorem Stage.countP_isLanded_eq_zero (h : Stage a q es p) (hp : p = .done o) (ho : ∀ b, o ≠ .ok (some b)) :
    es.countP Ledger.isLanded = 0 := by
  rcases h.done_cases hp with ⟨f, -, -, rfl⟩ | ⟨rounds, last, o', hc, hlog, -, -, hx, rfl⟩
  · rfl
  · have hearlier : rounds.flatten.countP Ledger.isLanded = 0 := by
      rw [hc.countP_flatten fun hround _ => hround.countP_isLanded_of_error, Nat.mul_zero]
    rw [List.countP_append, hearlier, Nat.zero_add]
    cases hlog with
    | unread => rfl
    | finished => rfl
    | refused => rfl
    | @written r b => exact absurd hx (ho b)

/-- What a commit has returned after its last round: the outcome of this round, unless a conflict has used up the last
attempt. -/
def Concludes (a : Allocator) (rounds : Nat) (last o : Except Failure (Option Network)) : Prop :=
  (∃ f, last = .error f ∧ f.isConflict = true ∧ rounds = a.retry.maxAttempts ∧
    o = .error (.conflictRetriesExhausted a.ledgerName a.retry.maxAttempts)) ∨
  ((∀ f, last = .error f → f.isConflict = false) ∧ rounds ≤ a.retry.maxAttempts ∧ o = last)

private theorem Stage.concludes (h : Stage a q es p) (hp : p = .done o) (hbudget : 0 < a.retry.maxAttempts)
    (hv : q.validate = .ok ()) :
    ∃ rounds last x, es = rounds.flatten ++ last ∧ Conflicting q rounds ∧ RoundLog q last x ∧
      Concludes a (rounds.length + 1) x o := by
  rcases h.done_cases hp with ⟨f, hf, -, -⟩ | ⟨rounds, last, x, hc, hlog, hn, hlast, hx, rfl⟩
  · rw [hv] at hf
    cases hf
  · refine ⟨rounds, last, x, rfl, hc, hlog, ?_⟩
    have hattempts : a.retry.attempts = a.retry.maxAttempts := if_neg (by omega)
    rw [hattempts] at hn
    cases x with
    | ok b => exact .inr ⟨fun f hf => (nomatch hf), hn, hx⟩
    | error f =>
      cases hf : f.isConflict with
      | true =>
        refine .inl ⟨f, rfl, hf, (hlast f rfl hf).symm, ?_⟩
        rw [hx, Except.mapError, exhaustion, if_pos hf]
      | false =>
        refine .inr ⟨fun f' heq => ?_, hn, ?_⟩
        · cases heq
          exact hf
        · rw [hx, Except.mapError, exhaustion, hf, if_neg Bool.false_ne_true]

end Allocator

open Allocator

/-- Whatever a ledger answers, a commit makes rounds until one ends without a conflict or no attempt is left, returns
what the last one came to, and lands at most one write. -/
theorem commit_returns_last_round {σ : Type} (a : Allocator) (hbudget : 0 < a.retry.maxAttempts)
    (q : AllocationRequest) (w : Program.World Ledger.interface σ) (s : σ) :
    let es := (a.commit q).toProgram.log w s
    ∃ o s', (a.commit q).toProgram.run w s = (some o, s') ∧
      (∀ f, q.validate = .error f → o = .error f ∧ es = []) ∧
      (q.validate = .ok () →
        ∃ rounds last x, es = rounds.flatten ++ last ∧ Conflicting q rounds ∧ RoundLog q last x ∧
          (∀ c ∈ rounds ++ [last], IsRound c) ∧ Concludes a (rounds.length + 1) x o) ∧
      (∀ f, o = .error f → f.isConflict = false) ∧
      (∀ before after record v reply, es = before ++ ⟨.writeIfUnchanged record v, reply⟩ :: after →
        ∃ earlier r b, before = earlier ++ [Ledger.got r v] ∧ r.enabled = true ∧ r.allocate q = .ok b ∧
          r.primary? q.cluster ≠ some b ∧ record = r.assign q.cluster b q.plugin) ∧
      es.countP Ledger.isLanded ≤ 1 ∧
      ((∀ b, o ≠ .ok (some b)) → es.countP Ledger.isLanded = 0) := by
  intro es
  obtain ⟨o, s', hrun⟩ := (finishes_commit hbudget q).run w s
  have htrace : (a.commit q).toProgram.Trace es (.done o) := Program.trace_log_of_run (congrArg Prod.fst hrun)
  have hstage : Stage a q es (.done o) := commit_stage htrace
  refine ⟨o, s', hrun, ?_, ?_, ?_, ?_, hstage.countP_isLanded_le, hstage.countP_isLanded_eq_zero rfl⟩
  · intro f hf
    rw [commit_of_error hf] at htrace
    obtain ⟨hes, heq⟩ := Program.trace_done htrace
    exact ⟨Program.done.inj heq, hes⟩
  · intro hv
    obtain ⟨rounds, last, x, hes, hc, hlog, hconcludes⟩ := hstage.concludes rfl hbudget hv
    refine ⟨rounds, last, x, hes, hc, hlog, fun c hmem => ?_, hconcludes⟩
    rcases List.mem_append.mp hmem with hmem | hmem
    · exact hc.isRound c hmem
    · rw [List.mem_singleton.mp hmem]
      exact hlog.isRound
  · intro f hf
    exact hstage.isConflict_eq_false (congrArg Program.done hf)
  · intro before after record v reply hes
    rw [hes] at htrace
    obtain ⟨next, hask, -⟩ := htrace.split
    rcases (commit_stage hask).request_cases rfl with hread | ⟨rounds, left, delay, r, v', b, -, hbefore, hr, hwriting⟩
    · cases hread
    · cases hwriting
      obtain ⟨henabled, hallocate, hne⟩ := ruling_eq_assign hr
      exact ⟨rounds.flatten, r, b, hbefore, henabled, hallocate, hne, rfl⟩

/-- A ledger that shows the same record again and again, while every write meets a conflict. -/
def Ledger.contested (r : Record) (v : Version) : Program.World Ledger.interface Unit where
  answer
    | .read, s => (.ok (r, v), s)
    | .create _, s => (.ok false, s)
    | .writeIfUnchanged _ _, s =>
      (.error (.kubernetes (.status "Failure" "the object has been modified" "Conflict" 409)), s)

/-- A cluster asks a contested ledger for a block, with three attempts. -/
theorem commit_gives_up_on_contested_ledger :
    let r := Record.empty { address := 4060086272, length := 8 } 65536 true
    let a : Allocator := { ledgerName := "ledger", retry := .withMaxAttempts 3 }
    let q : AllocationRequest := { cluster := "east" }
    0 < a.retry.maxAttempts ∧ q.validate = .ok () ∧
      (a.commit q).toProgram.run (Ledger.contested r ⟨"1"⟩) () =
        (some (.error (.conflictRetriesExhausted "ledger" 3)), ()) := by
  intro r a q
  have hbudget : 0 < a.retry.maxAttempts := Nat.succ_pos 2
  have hvalid : q.validate = .ok () := by
    have hname : ClusterId.validate "east" = .ok () := by
      unfold ClusterId.validate
      rw [if_neg (by decide), if_neg (by decide), if_neg (by decide)]
    unfold AllocationRequest.validate
    rw [hname]
    rfl
  -- there is room for the block, so that every round comes to its write
  obtain ⟨b, hruling⟩ : ∃ b, ruling q r = .assign b := by
    have hfilled := Record.isFilled_empty { address := 4060086272, length := 8 } 65536 true
    obtain ⟨size, hsize⟩ : ∃ size, BlockSize.ofAddresses 65536 = .ok size := ⟨_, rfl⟩
    have haddresses : size.addresses = Nat.pow 2 16 := BlockSize.addresses_eq hsize (by decide) (by decide)
    obtain ⟨b, hb, -, -⟩ := hfilled.allocate (c := "east") (List.not_mem_nil) hsize
      (by rw [haddresses]; decide) (by decide) (by rw [haddresses]; decide)
    rcases ruling_cases q r with ⟨hoff, -⟩ | ⟨f, -, hf, -⟩ | ⟨b', -, -, hheld, -⟩ | ⟨b', -, -, -, hassign⟩
    · cases hoff
    · rw [hb] at hf
      cases hf
    · cases hheld
    · exact ⟨b', hassign⟩
  obtain ⟨o, s', hrun, -, hrounds, -⟩ := commit_returns_last_round a hbudget q (Ledger.contested r ⟨"1"⟩) ()
  obtain ⟨rounds, last, x, hes, -, hlog, -, hconcludes⟩ := hrounds hvalid
  have hreply : ∀ e ∈ last, ∃ s', e.reply = ((Ledger.contested r ⟨"1"⟩).answer e.query s').1 := fun e he =>
    Program.reply_of_mem_log (hes ▸ List.mem_append_right _ he)
  refine ⟨hbudget, hvalid, ?_⟩
  have ho : o = .error (.conflictRetriesExhausted "ledger" 3) := by
    cases hlog with
    | unread f =>
      obtain ⟨_, h⟩ := hreply _ (List.mem_singleton.mpr rfl)
      cases h
    | finished v h =>
      obtain ⟨_, hread⟩ := hreply _ (List.mem_singleton.mpr rfl)
      cases hread
      rw [hruling] at h
      cases h
    | refused v h f =>
      obtain ⟨_, hwrite⟩ := hreply _ (List.mem_cons_of_mem _ (List.mem_singleton.mpr rfl))
      rcases hconcludes with ⟨f', -, -, -, ho⟩ | ⟨hother, -⟩
      · exact ho
      · have hf := hother f rfl
        cases hwrite
        cases hf
    | written v h =>
      obtain ⟨_, hwrite⟩ := hreply _ (List.mem_cons_of_mem _ (List.mem_singleton.mpr rfl))
      cases hwrite
  rw [hrun, ho]

end MultiCluster
