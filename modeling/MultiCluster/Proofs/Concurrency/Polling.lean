import MultiCluster.Proofs.Concurrency.Sequence
import MultiCluster.Timing.Retry

/-!
# Polling

A condition that is polled again and again answers in turn. A wait polls it until the first answer that is a value or a
failure, and ends with this one; if there is none among the polls that it may make, it makes them all and times out.

Main statements: `Backoff.Series.waitFor_of_first` and `Backoff.Series.waitFor_of_none`, where the answers are known
beforehand, and `Backoff.trace_waitFor_request`, for a condition that makes one request, from the exchanges.
-/

namespace MultiCluster.Backoff

open Program (World)

variable {I : Interface} {α σ : Type} {w : World I σ} {condition : Task I (Option α)}
  {answers : Nat → Except Failure (Option α)} {states : Nat → σ} {b : Backoff} {operation : String}

/-- The polls of a condition in a world: each takes the world from one state to the next and has its own answer, and
nothing happens in the pauses between them. -/
structure Series (w : World I σ) (condition : Task I (Option α)) (answers : Nat → Except Failure (Option α))
    (states : Nat → σ) : Prop where
  poll : ∀ n, condition.toProgram.run w (states n) = (some (answers n), states (n + 1))
  rest : ∀ d n, w.rest d (states n) = states n

namespace Series

private theorem tail (h : Series w condition answers states) :
    Series w condition (fun n => answers (n + 1)) fun n => states (n + 1) :=
  ⟨fun n => h.poll (n + 1), fun d n => h.rest d (n + 1)⟩

private theorem poll_of_settled (h : Series w condition answers states) {o : Except Failure α}
    (hfirst : answers 0 = o.map some) (left : Nat) (delay : Duration) :
    (b.poll operation condition (left + 1) delay).toProgram.run w (states 0) = (some o, states 1) := by
  rw [Backoff.poll, Task.toProgram_bind, Program.run_bind, h.poll 0, hfirst]
  cases o with
  | ok a => rfl
  | error e => rfl

private theorem poll_of_last (h : Series w condition answers states) (hfirst : answers 0 = .ok none)
    (delay : Duration) :
    (b.poll operation condition 1 delay).toProgram.run w (states 0) =
      (some (.error (.timeout operation b.polls)), states 1) := by
  rw [Backoff.poll, Task.toProgram_bind, Program.run_bind, h.poll 0, hfirst]
  rfl

private theorem poll_of_none (h : Series w condition answers states) (hfirst : answers 0 = .ok none) (left : Nat)
    (delay : Duration) : (b.poll operation condition (left + 2) delay).toProgram.run w (states 0) =
      (b.poll operation condition (left + 1) (b.nextDelay delay)).toProgram.run w (states 1) := by
  rw [Backoff.poll, Task.toProgram_bind, Program.run_bind, h.poll 0, hfirst]
  exact congrArg (Program.run w _) (h.rest (b.pause delay) 1)

private theorem run_poll_of_first (h : Series w condition answers states) {n left : Nat} {delay : Duration}
    {o : Except Failure α} (hle : n ≤ left) (hearlier : ∀ m < n, answers m = .ok none) (hn : answers n = o.map some) :
    (b.poll operation condition (left + 1) delay).toProgram.run w (states 0) = (some o, states (n + 1)) := by
  -- by induction on the index, for every series, since what is left after a poll is another one
  induction n generalizing answers states left delay with
  | zero => exact h.poll_of_settled hn left delay
  | succ n ih =>
    obtain ⟨left, rfl⟩ : ∃ l, left = l + 1 := ⟨left - 1, by omega⟩
    have hlater : ∀ m < n, answers (m + 1) = .ok none := fun m hm => hearlier (m + 1) (by omega)
    rw [h.poll_of_none (hearlier 0 (Nat.succ_pos n))]
    exact ih h.tail (by omega) hlater hn

private theorem run_poll_of_none (h : Series w condition answers states) {left : Nat} {delay : Duration}
    (hnone : ∀ m ≤ left, answers m = .ok none) :
    (b.poll operation condition (left + 1) delay).toProgram.run w (states 0) =
      (some (.error (.timeout operation b.polls)), states (left + 1)) := by
  induction left generalizing answers states delay with
  | zero => exact h.poll_of_last (hnone 0 (Nat.le_refl 0)) delay
  | succ left ih =>
    have hlater : ∀ m ≤ left, answers (m + 1) = .ok none := fun m hm => hnone (m + 1) (by omega)
    rw [h.poll_of_none (hnone 0 (Nat.zero_le _))]
    exact ih h.tail hlater

/-- A wait ends with the first answer that is a value or a failure. -/
theorem waitFor_of_first (h : Series w condition answers states) {n : Nat} {o : Except Failure α} (hlt : n < b.polls)
    (hearlier : ∀ m < n, answers m = .ok none) (hn : answers n = o.map some) :
    (b.waitFor operation condition).toProgram.run w (states 0) = (some o, states (n + 1)) := by
  obtain ⟨left, hleft⟩ : ∃ left, b.polls = left + 1 := ⟨b.polls - 1, by omega⟩
  rw [waitFor, hleft]
  exact h.run_poll_of_first (by omega) hearlier hn

/-- A wait without such an answer makes all its polls and times out. -/
theorem waitFor_of_none (h : Series w condition answers states) (hnone : ∀ n < b.polls, answers n = .ok none) :
    (b.waitFor operation condition).toProgram.run w (states 0) =
      (some (.error (.timeout operation b.polls)), states b.polls) := by
  obtain ⟨left, hleft⟩ : ∃ left, b.polls = left + 1 := ⟨b.polls - 1, by rw [polls]; omega⟩
  rw [waitFor, hleft, h.run_poll_of_none fun m hm => hnone m (by omega), hleft]

end Series

/-! ### Waits on one request -/

variable {q : I.Query} {read : I.Reply q → Except Failure (Option α)} {es : List (Exchange I)} {o : Except Failure α}

/-- One poll of a condition that makes one request. -/
private theorem trace_poll_cases (hcondition : condition.toProgram = (Program.request q).bind fun r => .done (read r))
    {left : Nat} {delay : Duration} (h : (b.poll operation condition (left + 1) delay).toProgram.Trace es (.done o)) :
    ∃ reply later, es = ⟨q, reply⟩ :: later ∧
      ((later = [] ∧ read reply = o.map some) ∨
        (read reply = .ok none ∧ left = 0 ∧ later = [] ∧ o = .error (.timeout operation b.polls)) ∨
        (read reply = .ok none ∧ left ≠ 0 ∧
          (b.poll operation condition left (b.nextDelay delay)).toProgram.Trace later (.done o))) := by
  rw [poll, Task.toProgram_bind, hcondition] at h
  obtain ⟨reply, later, rfl, hlater⟩ := Program.trace_ask_done h
  refine ⟨reply, later, rfl, ?_⟩
  simp only [Program.bind] at hlater
  cases hread : read reply with
  | error e =>
    rw [hread] at hlater
    obtain ⟨rfl, heq⟩ := Program.trace_done hlater
    cases heq
    exact .inl ⟨rfl, rfl⟩
  | ok found =>
    rw [hread] at hlater
    cases found with
    | some a =>
      obtain ⟨rfl, heq⟩ := Program.trace_done hlater
      cases heq
      exact .inl ⟨rfl, rfl⟩
    | none =>
      by_cases hleft : left = 0
      · simp only [if_pos hleft] at hlater
        obtain ⟨rfl, heq⟩ := Program.trace_done hlater
        exact .inr (.inl ⟨rfl, hleft, rfl, Program.done.inj heq⟩)
      · simp only [if_neg hleft] at hlater
        exact .inr (.inr ⟨rfl, hleft, Program.trace_pause_done hlater⟩)

private theorem trace_poll_request (hcondition : condition.toProgram = (Program.request q).bind fun r => .done (read r))
    {left : Nat} {delay : Duration} (h : (b.poll operation condition (left + 1) delay).toProgram.Trace es (.done o)) :
    ∃ earlier last, es = (earlier ++ [last]).map (Exchange.mk q) ∧ (∀ r ∈ earlier, read r = .ok none) ∧
      ((earlier.length ≤ left ∧ read last = o.map some) ∨
        (earlier.length = left ∧ read last = .ok none ∧ o = .error (.timeout operation b.polls))) := by
  induction left generalizing delay es with
  | zero =>
    obtain ⟨reply, later, rfl, ⟨rfl, hread⟩ | ⟨hread, -, rfl, ho⟩ | ⟨-, hleft, -⟩⟩ := trace_poll_cases hcondition h
    · exact ⟨[], reply, rfl, nofun, .inl ⟨Nat.le_refl 0, hread⟩⟩
    · exact ⟨[], reply, rfl, nofun, .inr ⟨rfl, hread, ho⟩⟩
    · exact absurd rfl hleft
  | succ left ih =>
    obtain ⟨reply, later, rfl, ⟨rfl, hread⟩ | ⟨-, hleft, -, -⟩ | ⟨hread, -, hlater⟩⟩ := trace_poll_cases hcondition h
    · exact ⟨[], reply, rfl, nofun, .inl ⟨Nat.zero_le _, hread⟩⟩
    · exact absurd hleft (Nat.succ_ne_zero left)
    · obtain ⟨earlier, last, rfl, hearlier, hlast⟩ := ih hlater
      refine ⟨reply :: earlier, last, rfl, List.forall_mem_cons.mpr ⟨hread, hearlier⟩, ?_⟩
      simpa using hlast

/-- A wait on one request repeats it while the answers mean that there is no value yet. It is over with the first answer
that means something else, or times out with the last one that it may ask for. -/
theorem trace_waitFor_request (hcondition : condition.toProgram = (Program.request q).bind fun r => .done (read r))
    (h : (b.waitFor operation condition).toProgram.Trace es (.done o)) :
    ∃ earlier last, es = (earlier ++ [last]).map (Exchange.mk q) ∧ (∀ r ∈ earlier, read r = .ok none) ∧
      ((earlier.length < b.polls ∧ read last = o.map some) ∨
        (earlier.length + 1 = b.polls ∧ read last = .ok none ∧ o = .error (.timeout operation b.polls))) := by
  obtain ⟨left, hleft⟩ : ∃ left, b.polls = left + 1 := ⟨b.polls - 1, by rw [polls]; omega⟩
  rw [waitFor, hleft] at h
  obtain ⟨earlier, last, hes, hearlier, ⟨hlt, hlast⟩ | ⟨hlength, hlast, ho⟩⟩ := trace_poll_request hcondition h
  · exact ⟨earlier, last, hes, hearlier, .inl ⟨by omega, hlast⟩⟩
  · exact ⟨earlier, last, hes, hearlier, .inr ⟨by omega, hlast, ho⟩⟩

end MultiCluster.Backoff
