import MultiCluster.Proofs.Concurrency.Sequence
import MultiCluster.Timing.Retry

/-!
# Programs that finish

A program finishes if none of its branches is unfinished, whatever its requests are answered with. Then each run of it
has a value. An operation that finishes can be repeated a limited number of times, and waited for. In a given world, a
program may finish although not all its branches do, and more can be said of its value and its requests.

Main statements: `Finishes.run`, `Yields.run`, `RetryPolicy.finishes_retryIf` and `Backoff.finishes_waitFor`.
-/

namespace MultiCluster

variable {I J : Interface} {α β ε σ : Type}

namespace Program

/-- No branch of a program is unfinished. -/
inductive Finishes : Program I α → Prop
  | done (a : α) : Finishes (.done a)
  | ask {q : I.Query} {next : I.Reply q → Program I α} (h : ∀ reply, Finishes (next reply)) : Finishes (.ask q next)
  | pause {d : Pause} {next : Program I α} (h : Finishes next) : Finishes (.pause d next)

variable {p : Program I α}

theorem Finishes.bind {f : α → Program I β} (hp : p.Finishes) (hf : ∀ a, (f a).Finishes) : (p.bind f).Finishes := by
  induction hp with
  | done a => exact hf a
  | ask h ih => exact .ask ih
  | pause h ih => exact .pause ih

theorem Finishes.interpret {answer : (q : I.Query) → Program J (I.Reply q)} (hp : p.Finishes)
    (h : ∀ q, (answer q).Finishes) : (p.interpret answer).Finishes := by
  induction hp with
  | done a => exact .done a
  | ask _ ih => exact (h _).bind ih
  | pause _ ih => exact .pause ih

theorem finishes_request (q : I.Query) : (request q).Finishes :=
  .ask fun reply => .done reply

/-- Each run of a program that finishes has a value. -/
theorem Finishes.run (hp : p.Finishes) (w : World I σ) (s : σ) : ∃ a s', p.run w s = (some a, s') := by
  induction hp generalizing s with
  | done a => exact ⟨a, s, rfl⟩
  | ask _ ih => exact ih _ _
  | pause _ ih => exact ih _

/-! ### What a run yields -/

/-- In a world, a program ends with a value and in a state that `Q` allows, and all its requests have the property
`P`. -/
def Yields (w : World I σ) (P : I.Query → Prop) (Q : α → σ → Prop) : Program I α → σ → Prop
  | .done a, s => Q a s
  | .ask q next, s => P q ∧ (next (w.answer q s).1).Yields w P Q (w.answer q s).2
  | .pause d next, s => next.Yields w P Q (w.rest d s)
  | .unfinished, _ => False

variable {w : World I σ} {P : I.Query → Prop} {Q : α → σ → Prop} {s : σ}

theorem Yields.run (h : p.Yields w P Q s) :
    ∃ a s', p.run w s = (some a, s') ∧ Q a s' ∧ ∀ e ∈ p.log w s, P e.query := by
  induction p generalizing s with
  | done a => exact ⟨a, s, rfl, h, fun e he => nomatch he⟩
  | ask q next ih =>
    obtain ⟨a, s', hrun, hQ, hlog⟩ := ih _ h.2
    refine ⟨a, s', hrun, hQ, fun e he => ?_⟩
    rcases List.mem_cons.mp he with rfl | he
    · exact h.1
    · exact hlog e he
  | pause d next ih => exact ih h
  | unfinished => exact h.elim

theorem Yields.bind {f : α → Program I β} {R : β → σ → Prop} (h : p.Yields w P Q s)
    (hf : ∀ {a s'}, Q a s' → (f a).Yields w P R s') : (p.bind f).Yields w P R s := by
  induction p generalizing s with
  | done a => exact hf h
  | ask q next ih => exact ⟨h.1, ih _ h.2⟩
  | pause d next ih => exact ih h
  | unfinished => exact h.elim

/-- A program that finishes preserves in every run what its requests preserve. -/
theorem Finishes.yields {R : σ → Prop} (hp : p.Finishes) (hrequests : p.Requests P)
    (hanswer : ∀ {q s}, P q → R s → R (w.answer q s).2) (hrest : ∀ {d s}, R s → R (w.rest d s)) (h : R s) :
    p.Yields w P (fun _ => R) s := by
  induction hp generalizing s with
  | done a => exact h
  | ask _ ih =>
    cases hrequests with
    | ask hq hnext => exact ⟨hq, ih _ (hnext _) (hanswer hq h)⟩
  | pause _ ih =>
    cases hrequests with
    | pause hnext => exact ih hnext (hrest h)

end Program

namespace Task

theorem finishes_ofExcept (o : Except Failure α) : (ofExcept o : Task I α).toProgram.Finishes :=
  .done o

theorem finishes_pure (a : α) : (pure a : Task I α).toProgram.Finishes :=
  .done (Except.ok a)

theorem finishes_throw (e : Failure) : (throw e : Task I α).toProgram.Finishes :=
  .done (Except.error e)

theorem finishes_bind {t : Task I α} {f : α → Task I β} (ht : t.toProgram.Finishes)
    (hf : ∀ a, (f a).toProgram.Finishes) : (t >>= f).toProgram.Finishes := by
  rw [toProgram_bind]
  refine ht.bind fun o => ?_
  cases o with
  | ok a => exact hf a
  | error e => exact .done (Except.error e)

theorem finishes_mapFailure {t : Task I α} (ht : t.toProgram.Finishes) (f : Failure → Failure) :
    (t.mapFailure f).toProgram.Finishes := by
  refine Program.Finishes.bind ht fun o => ?_
  cases o with
  | ok a => exact .done (Except.ok a)
  | error e => exact .done (Except.error (f e))

end Task

/-! ### Retrying and waiting -/

private theorem RetryPolicy.finishes_attempt {policy : RetryPolicy} {operation : Program I (Except ε α)}
    (hop : operation.Finishes) (hmax : policy.maxAttempts ≠ 0) (shouldRetry : ε → Bool) (left : Nat)
    (delay : Duration) : (policy.attempt shouldRetry operation (left + 1) delay).Finishes := by
  induction left generalizing delay with
  | zero =>
    refine hop.bind fun o => ?_
    cases o with
    | ok a => exact .done (Except.ok a)
    | error e =>
      have hlast : (0 = 0 ∧ policy.maxAttempts ≠ 0) := ⟨rfl, hmax⟩
      show (if !shouldRetry e then _ else if 0 = 0 ∧ policy.maxAttempts ≠ 0 then _ else _ : Program I _).Finishes
      rw [if_pos hlast, ite_self]
      exact .done (Except.error e)
  | succ left ih =>
    refine hop.bind fun o => ?_
    cases o with
    | ok a => exact .done (Except.ok a)
    | error e =>
      have hmore : ¬(left + 1 = 0 ∧ policy.maxAttempts ≠ 0) := fun h => Nat.succ_ne_zero left h.1
      simp only [if_neg hmore]
      split
      · exact .done (Except.error e)
      · exact .pause (ih _)

/-- Retrying ends if the attempts are limited. -/
theorem RetryPolicy.finishes_retryIf {policy : RetryPolicy} {operation : Program I (Except ε α)}
    (hop : operation.Finishes) (hmax : 0 < policy.maxAttempts) (shouldRetry : ε → Bool) :
    (policy.retryIf shouldRetry operation).Finishes := by
  have hne : policy.maxAttempts ≠ 0 := by omega
  obtain ⟨left, hleft⟩ := Nat.exists_eq_succ_of_ne_zero hne
  have hattempts : policy.attempts = left + 1 := by rw [attempts, if_neg hne, hleft]
  rw [retryIf, hattempts]
  exact finishes_attempt hop hne shouldRetry left _

private theorem Backoff.finishes_poll {condition : Task I (Option α)} (hc : condition.toProgram.Finishes) (b : Backoff)
    (operation : String) (left : Nat) (delay : Duration) :
    (b.poll operation condition left delay).toProgram.Finishes := by
  induction left generalizing delay with
  | zero => exact Task.finishes_throw _
  | succ left ih =>
    refine Task.finishes_bind hc fun found => ?_
    cases found with
    | some a => exact Task.finishes_pure a
    | none =>
      simp only
      split
      · exact Task.finishes_throw _
      · exact .pause (ih _)

/-- Waiting ends after the last poll at the latest. -/
theorem Backoff.finishes_waitFor {condition : Task I (Option α)} (hc : condition.toProgram.Finishes) (b : Backoff)
    (operation : String) : (b.waitFor operation condition).toProgram.Finishes :=
  finishes_poll hc b operation b.polls b.duration

end MultiCluster
