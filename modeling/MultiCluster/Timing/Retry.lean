import MultiCluster.Program

/-!
# Retrying and waiting

A `RetryPolicy` repeats an operation that fails in a way worth repeating, with growing pauses between the
attempts. A `Backoff` polls a condition a fixed number of times.
-/

namespace MultiCluster

variable {I : Interface} {α ε : Type}

/-! ### Retrying -/

/-- How often and with which pauses an operation is repeated. -/
structure RetryPolicy where
  /-- How many attempts are made; zero stands for no limit. -/
  maxAttempts : Nat
  initialDelay : Duration
  maxDelay : Duration
  multiplier : Float

namespace RetryPolicy

/-- The policy without a limit. -/
def standard : RetryPolicy where
  maxAttempts := 0
  initialDelay := .ofMillis 100
  maxDelay := .ofMillis 30000
  multiplier := 2.0

/-- The standard policy with a limit. -/
def withMaxAttempts (n : Nat) : RetryPolicy :=
  { standard with maxAttempts := n }

/-- The policy for conflicts on a shared object. The delays are short: the other writer has just finished. -/
def onConflict : RetryPolicy where
  maxAttempts := 5
  initialDelay := .ofMillis 10
  maxDelay := .ofMillis 500
  multiplier := 2.0

/-- How many attempts are counted before an operation without a limit is called unfinished. -/
def countedAttempts : Nat := 4294967295

/-- How many attempts a policy allows. -/
def attempts (policy : RetryPolicy) : Nat :=
  if policy.maxAttempts = 0 then countedAttempts else policy.maxAttempts

/-- There is always a first attempt. -/
theorem exists_attempts (policy : RetryPolicy) : ∃ left, policy.attempts = left + 1 := by
  refine Nat.exists_eq_succ_of_ne_zero ?_
  rw [attempts]
  split
  · decide
  · assumption

/-- The pause after a failed attempt. -/
def pause (delay : Duration) : Pause where
  base := delay
  least := 0.5
  most := 1.5

/-- The delay after the next failed attempt. -/
def nextDelay (policy : RetryPolicy) (delay : Duration) : Duration :=
  delay.grow policy.multiplier policy.maxDelay

/-- Makes up to `left` attempts. -/
def attempt (policy : RetryPolicy) (shouldRetry : ε → Bool) (operation : Program I (Except ε α)) :
    (left : Nat) → Duration → Program I (Except ε α)
  | 0, _ => .unfinished
  | left + 1, delay => operation.bind fun
    | .ok a => .done (.ok a)
    | .error e =>
      if !shouldRetry e then .done (.error e)
      else if left = 0 ∧ policy.maxAttempts ≠ 0 then .done (.error e)
      else .pause (pause delay) (policy.attempt shouldRetry operation left (policy.nextDelay delay))

/-- Repeats an operation while it fails with an error worth repeating and attempts are left. The outcome is the
one of the last attempt. -/
def retryIf (policy : RetryPolicy) (shouldRetry : ε → Bool) (operation : Program I (Except ε α)) :
    Program I (Except ε α) :=
  policy.attempt shouldRetry operation policy.attempts policy.initialDelay

/-- Repeats an operation while it fails and attempts are left. -/
def retry (policy : RetryPolicy) (operation : Program I (Except ε α)) : Program I (Except ε α) :=
  policy.retryIf (fun _ => true) operation

end RetryPolicy

/-! ### Waiting -/

/-- How often a condition is polled, and the pauses between the polls. -/
structure Backoff where
  steps : Nat
  /-- The base of the first pause. -/
  duration : Duration
  /-- What the base grows by after each poll. -/
  factor : Float
  /-- The largest extra part of the base that is added to a pause. -/
  jitter : Float
  /-- The largest base. -/
  cap : Duration

namespace Backoff

/-- Waiting for a credential, for roughly two minutes. -/
def credentialWait : Backoff where
  steps := 10
  duration := .ofMillis 5000
  factor := 1.2
  jitter := 1.0
  cap := .ofMillis 60000

/-- Repeating the change of a node's labels. -/
def nodeLabel : Backoff where
  steps := 10
  duration := .ofMillis 1000
  factor := 1.2
  jitter := 1.0
  cap := .ofMillis 10000

/-- How many polls are made. -/
def polls (b : Backoff) : Nat :=
  max b.steps 1

/-- The pause after a poll. -/
def pause (b : Backoff) (delay : Duration) : Pause where
  base := delay
  least := 1.0
  most := 1.0 + b.jitter

/-- The base of the next pause. -/
def nextDelay (b : Backoff) (delay : Duration) : Duration :=
  delay.grow b.factor b.cap

/-- Polls a condition up to `left` times. -/
def poll (b : Backoff) (operation : String) (condition : Task I (Option α)) :
    (left : Nat) → Duration → Task I α
  | 0, _ => throw (.timeout operation b.polls)
  | left + 1, delay => do
    match ← condition with
    | some a => return a
    | none =>
      if left = 0 then throw (.timeout operation b.polls)
      else Task.ofProgram (.pause (b.pause delay)
        (b.poll operation condition left (b.nextDelay delay)).toProgram)

/-- Polls a condition until it yields a value. A failure of the condition ends the wait, and so does the last
poll. -/
def waitFor (b : Backoff) (operation : String) (condition : Task I (Option α)) : Task I α :=
  b.poll operation condition b.polls b.duration

end Backoff

end MultiCluster
