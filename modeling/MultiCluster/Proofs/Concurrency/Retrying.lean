import MultiCluster.Proofs.Concurrency.Sequence
import MultiCluster.Replay.Script
import MultiCluster.Timing.Retry

/-!
# Retrying

An operation is called again as long as it fails with an error worth repeating and attempts are left. So the first
outcome that is a success or another error ends retrying, and so does the last attempt, whichever comes first; the value
is the outcome of the last call, as it is. Which outcomes an operation has is left open: it may run in any world, and
what it does there may depend on its earlier calls.

Calls are counted from zero, so that call `n` is the one with `n` calls before it. Without a limit the calls are
counted up to `countedAttempts`, the largest number that fits 32 bits, and nothing is said beyond.

Main statement: `RetryPolicy.first_decision_ends_retrying`.
-/

namespace MultiCluster.RetryPolicy

open Program (World)

variable {I : Interface} {α ε σ : Type} {policy : RetryPolicy} {shouldRetry : ε → Bool}
  {operation : Program I (Except ε α)}

/-! ### After a call -/

/-- An outcome after which an operation is not called again, however many attempts are left. -/
inductive Decides (shouldRetry : ε → Bool) : Except ε α → Prop
  | success (a : α) : Decides shouldRetry (.ok a)
  | rejected {e : ε} (h : shouldRetry e = false) : Decides shouldRetry (.error e)

private theorem not_decides_iff {o : Except ε α} :
    ¬ Decides shouldRetry o ↔ ∃ e, o = .error e ∧ shouldRetry e = true := by
  cases o with
  | ok a => exact ⟨fun h => absurd (.success a) h, fun ⟨_, h, _⟩ => nomatch h⟩
  | error e =>
    constructor
    · intro h
      exact ⟨e, rfl, Bool.of_not_eq_false fun hrejected => h (.rejected hrejected)⟩
    · rintro ⟨e, h, hretry⟩ (_ | hrejected)
      cases h
      rw [hretry] at hrejected
      cases hrejected

/-- What follows a call, with some attempts left. -/
def follow (policy : RetryPolicy) (shouldRetry : ε → Bool) (operation : Program I (Except ε α)) (left : Nat)
    (delay : Duration) : Except ε α → Program I (Except ε α)
  | .ok a => .done (.ok a)
  | .error e =>
    if !shouldRetry e then .done (.error e)
    else if left = 0 ∧ policy.maxAttempts ≠ 0 then .done (.error e)
    else .pause (pause delay) (policy.attempt shouldRetry operation left (policy.nextDelay delay))

private theorem attempt_succ (left : Nat) (delay : Duration) :
    policy.attempt shouldRetry operation (left + 1) delay =
      operation.bind (policy.follow shouldRetry operation left delay) := by
  rw [attempt]
  refine congrArg operation.bind (funext fun o => ?_)
  cases o <;> rfl

private theorem follow_of_over {left : Nat} {o : Except ε α} (operation : Program I (Except ε α)) (delay : Duration)
    (h : Decides shouldRetry o ∨ left = 0 ∧ policy.maxAttempts ≠ 0) :
    policy.follow shouldRetry operation left delay o = .done o := by
  rcases h with (a | hrejected) | hlast
  · rfl
  · simp [follow, hrejected]
  · cases o with
    | ok a => rfl
    | error e => simp [follow, hlast]

private theorem follow_of_retried {left : Nat} {o : Except ε α} (operation : Program I (Except ε α)) (delay : Duration)
    (h : ¬ Decides shouldRetry o) (hmore : left ≠ 0 ∨ policy.maxAttempts = 0) :
    policy.follow shouldRetry operation left delay o =
      .pause (pause delay) (policy.attempt shouldRetry operation left (policy.nextDelay delay)) := by
  obtain ⟨e, rfl, hretry⟩ := not_decides_iff.mp h
  have hnotLast : ¬ (left = 0 ∧ policy.maxAttempts ≠ 0) := by omega
  simp only [follow, hretry, if_neg hnotLast, Bool.not_true, Bool.false_eq_true, ↓reduceIte]

/-! ### Calls in a row -/

/-- The delay from which the pause after a call is drawn; calls are counted from zero. -/
def delayAfter (policy : RetryPolicy) : Nat → Duration
  | 0 => policy.initialDelay
  | n + 1 => policy.nextDelay (policy.delayAfter n)

/-- The calls of an operation in a world, if they never ended: each has an outcome, and the pause that the policy makes
leads from the end of a call to the beginning of the next one. -/
structure Series (policy : RetryPolicy) (operation : Program I (Except ε α)) (w : World I σ)
    (outcomes : Nat → Except ε α) (begun ended : Nat → σ) : Prop where
  call : ∀ n, operation.run w (begun n) = (some (outcomes n), ended n)
  rest : ∀ n, w.rest (pause (policy.delayAfter n)) (ended n) = begun (n + 1)

variable {w : World I σ} {outcomes : Nat → Except ε α} {begun ended : Nat → σ}

/-- The exchanges of the first calls. -/
def callLog (operation : Program I (Except ε α)) (w : World I σ) (begun : Nat → σ) (calls : Nat) : List (Exchange I) :=
  (List.range calls).flatMap fun n => operation.log w (begun n)

private theorem callLog_succ (calls : Nat) :
    callLog operation w begun (calls + 1) = callLog operation w begun calls ++ operation.log w (begun calls) := by
  rw [callLog, List.range_succ, List.flatMap_append, List.flatMap_singleton]
  rfl

/-- The program makes the first `calls` calls, with nothing but the pauses between them, and returns the outcome of the
last one. -/
structure MakesCalls (operation : Program I (Except ε α)) (w : World I σ) (outcomes : Nat → Except ε α)
    (begun ended : Nat → σ) (p : Program I (Except ε α)) (calls : Nat) : Prop where
  run : p.run w (begun 0) = (some (outcomes (calls - 1)), ended (calls - 1))
  log : p.log w (begun 0) = callLog operation w begun calls

namespace Series

/-- Calls whose outcomes are retried use up their attempts, and nothing else. -/
private theorem attempt_of_retried (h : policy.Series operation w outcomes begun ended) (left : Nat) {calls : Nat}
    (hretried : ∀ n < calls, ¬ Decides shouldRetry (outcomes n)) (hmore : left ≠ 0 ∨ policy.maxAttempts = 0) :
    (policy.attempt shouldRetry operation (left + calls) policy.initialDelay).run w (begun 0) =
        (policy.attempt shouldRetry operation left (policy.delayAfter calls)).run w (begun calls) ∧
      (policy.attempt shouldRetry operation (left + calls) policy.initialDelay).log w (begun 0) =
        callLog operation w begun calls ++
          (policy.attempt shouldRetry operation left (policy.delayAfter calls)).log w (begun calls) := by
  -- the last call is split off, so that before it there is one attempt more
  induction calls generalizing left with
  | zero => exact ⟨rfl, rfl⟩
  | succ calls ih =>
    obtain ⟨hrun, hlog⟩ := ih (left + 1) (fun n hn => hretried n (Nat.lt_succ_of_lt hn))
      (.inl (Nat.succ_ne_zero left))
    have hfollow := follow_of_retried operation (policy.delayAfter calls)
      (hretried calls (Nat.lt_succ_self calls)) hmore
    rw [Nat.add_right_comm] at hrun hlog
    rw [← Nat.add_assoc, hrun, hlog, attempt_succ, Program.run_bind, Program.log_bind, h.call, callLog_succ]
    simp only [hfollow, Program.run, Program.log, h.rest, List.append_assoc]
    exact ⟨rfl, rfl⟩

/-- Retrying is over with the first outcome that decides, and with the last attempt. -/
private theorem makesCalls (h : policy.Series operation w outcomes begun ended) {n : Nat} (hlt : n < policy.attempts)
    (hretried : ∀ j < n, ¬ Decides shouldRetry (outcomes j))
    (hover : Decides shouldRetry (outcomes n) ∨ n + 1 = policy.maxAttempts) :
    MakesCalls operation w outcomes begun ended (policy.retryIf shouldRetry operation) (n + 1) := by
  obtain ⟨left, hleft⟩ : ∃ left, policy.attempts = left + 1 + n := ⟨policy.attempts - 1 - n, by omega⟩
  obtain ⟨hrun, hlog⟩ := h.attempt_of_retried (left + 1) hretried (.inl (Nat.succ_ne_zero left))
  have hend : Decides shouldRetry (outcomes n) ∨ left = 0 ∧ policy.maxAttempts ≠ 0 := by
    refine hover.imp_right fun hmax => ?_
    rw [attempts, if_neg (by omega)] at hleft
    omega
  have hfollow := follow_of_over operation (policy.delayAfter n) hend
  constructor
  · rw [retryIf, hleft, hrun, attempt_succ, Program.run_bind, h.call]
    simp only [hfollow, Program.run, Nat.add_sub_cancel]
  · rw [retryIf, hleft, hlog, attempt_succ, Program.log_bind, h.call, callLog_succ]
    simp only [hfollow, Program.log, List.append_nil]

/-- Without a limit there is no value as long as no outcome decides. -/
private theorem retryIf_of_none (h : policy.Series operation w outcomes begun ended) (hmax : policy.maxAttempts = 0)
    (hretried : ∀ n < countedAttempts, ¬ Decides shouldRetry (outcomes n)) :
    (policy.retryIf shouldRetry operation).run w (begun 0) = (none, begun countedAttempts) ∧
      (policy.retryIf shouldRetry operation).log w (begun 0) = callLog operation w begun countedAttempts := by
  have hattempts : policy.attempts = 0 + countedAttempts := by rw [attempts, if_pos hmax, Nat.zero_add]
  obtain ⟨hrun, hlog⟩ := h.attempt_of_retried 0 hretried (.inr hmax)
  rw [retryIf, hattempts, hrun, hlog, attempt]
  exact ⟨rfl, List.append_nil _⟩

end Series

/-- An operation is called up to its first outcome that decides, or up to the limit if there is one, whichever comes
first, and the value is the outcome of the last call. -/
theorem first_decision_ends_retrying (h : policy.Series operation w outcomes begun ended) (shouldRetry : ε → Bool) :
    let Makes := MakesCalls operation w outcomes begun ended (policy.retryIf shouldRetry operation)
    (0 < policy.maxAttempts →
      (∀ n, Decides shouldRetry (outcomes n) → (∀ j < n, ¬ Decides shouldRetry (outcomes j)) →
        Makes (min (n + 1) policy.maxAttempts)) ∧
      ((∀ n, ¬ Decides shouldRetry (outcomes n)) → Makes policy.maxAttempts)) ∧
    (policy.maxAttempts = 0 →
      (∀ n < countedAttempts, Decides shouldRetry (outcomes n) → (∀ j < n, ¬ Decides shouldRetry (outcomes j)) →
        Makes (n + 1)) ∧
      ((∀ n < countedAttempts, ¬ Decides shouldRetry (outcomes n)) →
        (policy.retryIf shouldRetry operation).run w (begun 0) = (none, begun countedAttempts) ∧
        (policy.retryIf shouldRetry operation).log w (begun 0) = callLog operation w begun countedAttempts)) := by
  intro Makes
  constructor
  · intro hmax
    have hattempts : policy.attempts = policy.maxAttempts := if_neg (by omega)
    have hlimit : ∀ n, n + 1 = policy.maxAttempts → (∀ j < n, ¬ Decides shouldRetry (outcomes j)) → Makes (n + 1) :=
      fun n hn hearlier => h.makesCalls (by omega) hearlier (.inr hn)
    constructor
    · intro n hn hearlier
      by_cases hle : n < policy.maxAttempts
      · rw [Nat.min_eq_left hle]
        exact h.makesCalls (by omega) hearlier (.inl hn)
      · rw [Nat.min_eq_right (by omega), ← Nat.sub_add_cancel hmax]
        exact hlimit _ (Nat.sub_add_cancel hmax) fun j hj => hearlier j (by omega)
    · intro hnone
      rw [← Nat.sub_add_cancel hmax]
      exact hlimit _ (Nat.sub_add_cancel hmax) fun j _ => hnone j
  · intro hmax
    have hattempts : policy.attempts = countedAttempts := if_pos hmax
    refine ⟨fun n hlt hn hearlier => ?_, h.retryIf_of_none hmax⟩
    exact h.makesCalls (hattempts ▸ hlt) hearlier (.inl hn)

/-! ### Any outcomes -/

/-- A world in which the calls of an operation have some outcomes in turn. Its state is the number of calls. -/
def inTurn (outcomes : Nat → Except ε α) : World (Replay.polling (Except ε α)) Nat where
  answer _ calls := (outcomes calls, calls + 1)

private theorem series_inTurn (policy : RetryPolicy) (outcomes : Nat → Except ε α) :
    policy.Series (Replay.poll (Except ε α)) (inTurn outcomes) outcomes (fun n => n) (fun n => n + 1) where
  call := fun _ => rfl
  rest := fun _ => rfl

/-- The third of three attempts is a success. -/
theorem third_attempt_ends_retrying :
    let outcomes : Nat → Except Failure Nat := fun n => if n < 2 then .error (.conflict "ledger") else .ok n
    let policy := withMaxAttempts 3
    policy.Series (Replay.poll (Except Failure Nat)) (inTurn outcomes) outcomes (fun n => n) (fun n => n + 1) ∧
      (policy.retryIf Failure.isConflict (Replay.poll (Except Failure Nat))).run (inTurn outcomes) 0 =
        (some (.ok 2), 3) := by
  intro outcomes policy
  have hseries := series_inTurn policy outcomes
  refine ⟨hseries, ?_⟩
  have hearlier : ∀ j < 2, ¬ Decides Failure.isConflict (outcomes j) := fun j hj =>
    not_decides_iff.mpr ⟨.conflict "ledger", if_pos hj, rfl⟩
  exact (((first_decision_ends_retrying hseries Failure.isConflict).1 (by decide)).1 2 (.success 2) hearlier).run

end MultiCluster.RetryPolicy
