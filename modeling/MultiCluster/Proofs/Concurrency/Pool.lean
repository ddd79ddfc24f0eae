import Mathlib.Logic.Function.Basic
import MultiCluster.Proofs.Concurrency.Trace

/-!
# Pools of programs

A pool is a family of programs that share one world. A step lets one of them make its next request or end its next
pause, and a schedule says which program makes each step, so that the schedules are the interleavings. A program that
a schedule does not name any more is abandoned where it stands.

Main statements: `Pool.trace`, in each pool that a schedule leads to, a program stands where the exchanges in which it
took part lead it, and `Pool.history_split`, each exchange was answered in a pool that a schedule leads to.
`Pool.run_induction` proves what every schedule preserves.
-/

namespace MultiCluster

/-- Where an element can stand in a list to which one element has been appended. -/
theorem concat_eq_append_cons {α : Type} {xs before after : List α} {x e : α}
    (h : xs ++ [e] = before ++ x :: after) :
    (after = [] ∧ before = xs ∧ x = e) ∨ ∃ after', after = after' ++ [e] ∧ xs = before ++ x :: after' := by
  rcases List.eq_nil_or_concat after with rfl | ⟨after', e', rfl⟩
  · obtain ⟨hxs, he⟩ := List.append_inj' h rfl
    exact .inl ⟨rfl, hxs.symm, (List.singleton_inj.mp he).symm⟩
  · rw [List.concat_eq_append, ← List.cons_append, ← List.append_assoc] at h
    obtain ⟨hxs, he⟩ := List.append_inj' h rfl
    obtain rfl := List.singleton_inj.mp he
    exact .inr ⟨after', by rw [List.concat_eq_append], hxs⟩

variable {I : Interface} {σ ι : Type} {α : ι → Type}

/-- An exchange, and the program that took part in it. -/
structure Pool.Event (I : Interface) (ι : Type) where
  client : ι
  exchange : Exchange I

/-- Programs in a shared world, with all exchanges so far in their order. -/
structure Pool (I : Interface) (σ : Type) {ι : Type} (α : ι → Type) where
  state : σ
  programs : (i : ι) → Program I (α i)
  history : List (Pool.Event I ι)

namespace Pool

def start (s : σ) (programs : (i : ι) → Program I (α i)) : Pool I σ α where
  state := s
  programs := programs
  history := []

variable [DecidableEq ι]

/-- The exchanges of one program. -/
def log (p : Pool I σ α) (i : ι) : List (Exchange I) :=
  (p.history.filter fun e => e.client = i).map Event.exchange

def answered (w : Program.World I σ) (p : Pool I σ α) (i : ι) (q : I.Query) (next : I.Reply q → Program I (α i)) :
    Pool I σ α where
  state := (w.answer q p.state).2
  programs := Function.update p.programs i (next (w.answer q p.state).1)
  history := p.history ++ [⟨i, q, (w.answer q p.state).1⟩]

def resumed (w : Program.World I σ) (p : Pool I σ α) (i : ι) (d : Pause) (next : Program I (α i)) : Pool I σ α where
  state := w.rest d p.state
  programs := Function.update p.programs i next
  history := p.history

/-- The pool after a step of one program. -/
def step (w : Program.World I σ) (p : Pool I σ α) (i : ι) : Pool I σ α :=
  match p.programs i with
  | .ask q next => p.answered w i q next
  | .pause d next => p.resumed w i d next
  | .done _ => p
  | .unfinished => p

/-- The pool after the steps of a schedule. -/
def run (w : Program.World I σ) (p : Pool I σ α) (schedule : List ι) : Pool I σ α :=
  schedule.foldl (step w) p

variable {w : Program.World I σ} {p : Pool I σ α} {i : ι}

theorem run_append (schedule later : List ι) : p.run w (schedule ++ later) = (p.run w schedule).run w later :=
  List.foldl_append

theorem run_concat (schedule : List ι) : p.run w (schedule ++ [i]) = (p.run w schedule).step w i :=
  run_append schedule [i]

/-! ### What a step does -/

theorem step_of_ask {q : I.Query} {next : I.Reply q → Program I (α i)} (h : p.programs i = .ask q next) :
    p.step w i = p.answered w i q next := by
  rw [step, h]

theorem step_of_done {a : α i} (h : p.programs i = .done a) : p.step w i = p := by
  rw [step, h]

/-- A step of a program makes its request, or ends its pause, or does nothing. -/
theorem step_cases (w : Program.World I σ) (p : Pool I σ α) (i : ι) :
    (∃ q next, p.programs i = .ask q next ∧ p.step w i = p.answered w i q next) ∨
    (∃ d next, p.programs i = .pause d next ∧ p.step w i = p.resumed w i d next) ∨
    p.step w i = p := by
  cases h : p.programs i with
  | ask q next => exact .inl ⟨q, next, rfl, step_of_ask h⟩
  | pause d next => exact .inr (.inl ⟨d, next, rfl, by rw [step, h]⟩)
  | done a => exact .inr (.inr (step_of_done h))
  | unfinished => exact .inr (.inr (by rw [step, h]))

/-- What holds at first and is preserved by every step holds after every schedule. -/
theorem run_induction {P : Pool I σ α → Prop} (h : P p) (hstep : ∀ (p' : Pool I σ α) (i : ι), P p' → P (p'.step w i))
    (schedule : List ι) : P (p.run w schedule) := by
  induction schedule generalizing p with
  | nil => exact h
  | cons i schedule ih => exact ih (hstep p i h)

/-- The same for a property of the schedule and the pool that it leads to. -/
theorem reachable_induction {P : List ι → Pool I σ α → Prop} (h : P [] p)
    (hstep : ∀ (schedule : List ι) (i : ι), P schedule (p.run w schedule) →
      P (schedule ++ [i]) ((p.run w schedule).step w i))
    (schedule : List ι) : P schedule (p.run w schedule) := by
  -- a step is made at the end of the schedule, so the induction is on the reversed one
  obtain ⟨reversed, rfl⟩ : ∃ reversed, schedule = List.reverse reversed := ⟨schedule.reverse, by simp⟩
  induction reversed with
  | nil => exact h
  | cons i reversed ih =>
    rw [List.reverse_cons, run_concat]
    exact hstep _ i ih

/-! ### One program of a pool -/

section Answered

variable {q : I.Query} {next : I.Reply q → Program I (α i)}

private theorem programs_answered : (p.answered w i q next).programs i = next (w.answer q p.state).1 :=
  Function.update_self ..

theorem update_answered {reply : I.Reply q} (h : (w.answer q p.state).1 = reply) :
    (p.answered w i q next).programs = Function.update p.programs i (next reply) := by
  rw [answered, h]

theorem history_answered {reply : I.Reply q} (h : (w.answer q p.state).1 = reply) :
    (p.answered w i q next).history = p.history ++ [⟨i, q, reply⟩] := by
  rw [answered, h]

theorem log_answered : (p.answered w i q next).log i = p.log i ++ [⟨q, (w.answer q p.state).1⟩] := by
  simp [log, answered]

/-- What a program gets as the answer to its request, and where that leads it. -/
theorem step_of_reply {reply : I.Reply q} (h : p.programs i = .ask q next) (hr : (w.answer q p.state).1 = reply) :
    (p.step w i).log i = p.log i ++ [⟨q, reply⟩] ∧ (p.step w i).programs i = next reply := by
  subst hr
  rw [step_of_ask h]
  exact ⟨log_answered, programs_answered⟩

private theorem programs_resumed {d : Pause} {next : Program I (α i)} : (p.resumed w i d next).programs i = next :=
  Function.update_self ..

end Answered

/-- The steps of the other programs do not matter to a program. -/
theorem step_of_ne {j : ι} (h : j ≠ i) (w : Program.World I σ) (p : Pool I σ α) :
    (p.step w i).programs j = p.programs j ∧ (p.step w i).log j = p.log j := by
  rcases step_cases w p i with ⟨q, next, -, hstep⟩ | ⟨d, next, -, hstep⟩ | hstep
  · rw [hstep]
    refine ⟨Function.update_of_ne h _ _, ?_⟩
    simp [log, answered, Ne.symm h]
  · rw [hstep]
    exact ⟨Function.update_of_ne h _ _, rfl⟩
  · rw [hstep]
    exact ⟨rfl, rfl⟩

theorem step_programs_of_done {j : ι} {a : α j} (h : p.programs j = .done a) (w : Program.World I σ) (i : ι) :
    (p.step w i).programs j = .done a := by
  by_cases hij : j = i
  · subst hij
    rw [step_of_done h, h]
  · rw [(step_of_ne hij w p).1, h]

/-- The last exchange of a program, as an event of the pool. -/
theorem history_of_log_concat {es : List (Exchange I)} {e : Exchange I} (h : p.log i = es ++ [e]) :
    ∃ before after, p.history = before ++ ⟨i, e⟩ :: after ∧ ∀ e' ∈ after, e'.client ≠ i := by
  obtain ⟨own, last, hfilter, -, hlast⟩ := List.map_eq_append_iff.mp h
  obtain ⟨⟨j, e'⟩, rfl, rfl⟩ := List.map_eq_singleton_iff.mp hlast
  obtain ⟨before, rest, hhistory, -, hrest⟩ := List.filter_eq_append_iff.mp hfilter
  obtain ⟨others, after, rfl, hothers, hj, hafter⟩ := List.filter_eq_cons_iff.mp hrest
  obtain rfl : j = i := by simpa using hj
  refine ⟨before ++ others, after, by rw [hhistory, List.append_assoc], ?_⟩
  intro e' he'
  have hne := List.filter_eq_nil_iff.mp hafter e' he'
  simpa using hne

theorem mem_history_of_mem_log {e : Exchange I} (h : e ∈ p.log i) : ⟨i, e⟩ ∈ p.history := by
  simp only [log, List.mem_map, List.mem_filter, decide_eq_true_eq] at h
  obtain ⟨⟨j, e'⟩, ⟨hmem, rfl⟩, rfl⟩ := h
  exact hmem

/-- A program stands where the exchanges in which it took part lead it. -/
theorem trace (w : Program.World I σ) (s : σ) (programs : (i : ι) → Program I (α i)) (schedule : List ι) (i : ι) :
    (programs i).Trace (((start s programs).run w schedule).log i)
      (((start s programs).run w schedule).programs i) := by
  refine run_induction (P := fun p => ∀ i, (programs i).Trace (p.log i) (p.programs i)) ?_ ?_ schedule i
  · intro i
    exact .refl
  · intro p j ih i
    by_cases hij : i = j
    · subst hij
      have htrace := ih i
      rcases step_cases w p i with ⟨q, next, hask, hstep⟩ | ⟨d, next, hpause, hstep⟩ | hstep
      · rw [hask] at htrace
        rw [hstep, log_answered, programs_answered]
        exact htrace.ask _
      · rw [hpause] at htrace
        rw [hstep, programs_resumed]
        exact htrace.pause
      · rw [hstep]
        exact htrace
    · obtain ⟨hprogram, hlog⟩ := step_of_ne hij w p
      rw [hprogram, hlog]
      exact ih i

/-- A program that makes all the steps comes to its value as in a run of its own. -/
theorem exists_run {a : α i} {s' : σ} (h : (p.programs i).run w p.state = (some a, s')) :
    ∃ n, (p.run w (List.replicate n i)).programs i = .done a ∧ (p.run w (List.replicate n i)).state = s' := by
  generalize hi : p.programs i = program at h
  induction program generalizing p with
  | done a' =>
    cases h
    exact ⟨0, hi, rfl⟩
  | ask q next ih =>
    have hstep := step_of_ask (w := w) hi
    obtain ⟨n, hn⟩ := ih _ (p := p.step w i) (by rw [hstep, programs_answered]) (by rw [hstep]; exact h)
    exact ⟨n + 1, hn⟩
  | pause d next ih =>
    have hstep : p.step w i = p.resumed w i d next := by rw [step, hi]
    obtain ⟨n, hn⟩ := ih (p := p.step w i) (by rw [hstep, programs_resumed]) (by rw [hstep]; exact h)
    exact ⟨n + 1, hn⟩
  | unfinished => cases h

/-! ### The exchanges of a pool -/

/-- Each exchange in the history of a pool was once the request of its client, answered in the state that the
exchanges before it had left. -/
theorem history_split (w : Program.World I σ) (s : σ) (programs : (i : ι) → Program I (α i)) (schedule : List ι)
    {before after : List (Event I ι)} {e : Event I ι}
    (h : ((start s programs).run w schedule).history = before ++ e :: after) :
    ∃ earlier next, ((start s programs).run w earlier).history = before ∧
      ((start s programs).run w earlier).programs e.client = .ask e.exchange.query next ∧
      e.exchange.reply = (w.answer e.exchange.query ((start s programs).run w earlier).state).1 := by
  revert before e after
  refine reachable_induction (p := start s programs) (P := fun _ p => ∀ {before after e},
    p.history = before ++ e :: after → ∃ earlier next, ((start s programs).run w earlier).history = before ∧
      ((start s programs).run w earlier).programs e.client = .ask e.exchange.query next ∧
      e.exchange.reply = (w.answer e.exchange.query ((start s programs).run w earlier).state).1) ?_ ?_ schedule
  · intro before after e h
    exact absurd h (by simp [start])
  · intro schedule i ih before after e h
    rcases step_cases w ((start s programs).run w schedule) i with
      ⟨q, next, hask, hstep⟩ | ⟨d, next, -, hstep⟩ | hstep
    · rw [hstep] at h
      rcases concat_eq_append_cons h with ⟨-, rfl, rfl⟩ | ⟨after', -, hsplit⟩
      · exact ⟨schedule, next, rfl, hask, rfl⟩
      · exact ih hsplit
    · rw [hstep] at h
      exact ih h
    · rw [hstep] at h
      exact ih h

end Pool

end MultiCluster
