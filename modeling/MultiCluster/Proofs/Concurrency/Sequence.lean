import MultiCluster.Proofs.Concurrency.Trace

/-!
# Exchanges in sequence

The exchanges of one program after another are those of the first one, followed by those of the second one from the
value that the first one ended with. And the exchanges of a program determine where it stands, but for its pauses: a
program that is over has made all its exchanges.

Main statements: `Trace.trans` and `Trace.bind_cases` compose and decompose traces, `Trace.split` says that each
exchange began as the request that stood next, and `Trace.eq_nil_of_done` that nothing follows the end of a program.
By `exists_trace_log` the exchanges that a program has in a world are a trace, and by `run_agrees_or_parts` two worlds
see the same of it until one of them gives another answer.
-/

namespace MultiCluster

variable {I J : Interface} {α β σ : Type}

namespace Program

variable {p p' p'' : Program I α} {f : α → Program I β} {es es' before after : List (Exchange I)} {e : Exchange I}
  {a : α} {b : β}

/-! ### One program after another -/

theorem Trace.trans (h : p.Trace es p') (h' : p'.Trace es' p'') : p.Trace (es ++ es') p'' := by
  induction h' with
  | refl =>
    rw [List.append_nil]
    exact h
  | ask h' reply ih =>
    rw [← List.append_assoc]
    exact ih.ask reply
  | pause h' ih => exact ih.pause

theorem Trace.bind_left (h : p.Trace es p') (f : α → Program I β) : (p.bind f).Trace es (p'.bind f) := by
  induction h with
  | refl => exact .refl
  | ask h reply ih => exact ih.ask reply
  | pause h ih => exact ih.pause

/-- One program after another stands in the first one, or the first one is over and it stands in the second one. -/
theorem Trace.bind_cases {q : Program I β} (h : (p.bind f).Trace es q) :
    (∃ p', p.Trace es p' ∧ q = p'.bind f) ∨
    ∃ es₁ es₂ a, es = es₁ ++ es₂ ∧ p.Trace es₁ (.done a) ∧ (f a).Trace es₂ q := by
  -- a step that leaves the first program starts from its value
  have hover : ∀ {es a q'}, p.Trace es (.done a) → (f a).Trace [] q' →
      ∃ es₁ es₂ a, es = es₁ ++ es₂ ∧ p.Trace es₁ (.done a) ∧ (f a).Trace es₂ q' :=
    fun hp hf => ⟨_, [], _, (List.append_nil _).symm, hp, hf⟩
  induction h with
  | refl => exact .inl ⟨p, .refl, rfl⟩
  | @ask es query next h reply ih =>
    rcases ih with ⟨p', hp, heq⟩ | ⟨es₁, es₂, a, rfl, hp, hf⟩
    · cases p' with
      | done a =>
        have hf : (f a).Trace [] (.ask query next) := heq ▸ .refl
        exact .inr ⟨es, [⟨query, reply⟩], a, rfl, hp, hf.ask reply⟩
      | ask query' next' =>
        cases heq
        exact .inl ⟨next' reply, hp.ask reply, rfl⟩
      | pause d next' => cases heq
      | unfinished => cases heq
    · exact .inr ⟨es₁, es₂ ++ [⟨query, reply⟩], a, List.append_assoc .., hp, hf.ask reply⟩
  | @pause es d next h ih =>
    rcases ih with ⟨p', hp, heq⟩ | ⟨es₁, es₂, a, rfl, hp, hf⟩
    · cases p' with
      | done a =>
        have hf : (f a).Trace [] (.pause d next) := heq ▸ .refl
        exact .inr (hover hp hf.pause)
      | ask query' next' => cases heq
      | pause d' next' =>
        cases heq
        exact .inl ⟨next', hp.pause, rfl⟩
      | unfinished => cases heq
    · exact .inr ⟨es₁, es₂, a, rfl, hp, hf.pause⟩

theorem Trace.bind_done_cases (h : (p.bind f).Trace es (.done b)) :
    ∃ es₁ es₂ a, es = es₁ ++ es₂ ∧ p.Trace es₁ (.done a) ∧ (f a).Trace es₂ (.done b) := by
  rcases h.bind_cases with ⟨p', hp, heq⟩ | hover
  · cases p' with
    | done a => exact ⟨es, [], a, (List.append_nil _).symm, hp, heq ▸ .refl⟩
    | ask => cases heq
    | pause => cases heq
    | unfinished => cases heq
  · exact hover

theorem Trace.bind_ask_cases {q : I.Query} {next : I.Reply q → Program I β}
    (h : (p.bind f).Trace es (.ask q next)) :
    (∃ next', p.Trace es (.ask q next')) ∨
    ∃ es₁ es₂ a, es = es₁ ++ es₂ ∧ p.Trace es₁ (.done a) ∧ (f a).Trace es₂ (.ask q next) := by
  rcases h.bind_cases with ⟨p', hp, heq⟩ | hover
  · cases p' with
    | done a => exact .inr ⟨es, [], a, (List.append_nil _).symm, hp, heq ▸ .refl⟩
    | ask q' next' =>
      cases heq
      exact .inl ⟨next', hp⟩
    | pause => cases heq
    | unfinished => cases heq
  · exact .inr hover

/-! ### Small programs -/

theorem trace_done (h : (done a : Program I α).Trace es p) : es = [] ∧ p = .done a := by
  induction h with
  | refl => exact ⟨rfl, rfl⟩
  | ask h reply ih => cases ih.2
  | pause h ih => cases ih.2

/-- A program whose value is only changed in the end. -/
theorem Trace.of_bind_done {g : α → β} (h : (p.bind fun a => .done (g a)).Trace es (.done b)) :
    ∃ a, p.Trace es (.done a) ∧ b = g a := by
  obtain ⟨es₁, es₂, a, rfl, hp, hover⟩ := h.bind_done_cases
  obtain ⟨rfl, heq⟩ := trace_done hover
  rw [List.append_nil]
  exact ⟨a, hp, Program.done.inj heq⟩

private theorem trace_pause {d : Pause} (h : (pause d p).Trace es p') : (es = [] ∧ p' = pause d p) ∨ p.Trace es p' := by
  induction h with
  | refl => exact .inl ⟨rfl, rfl⟩
  | ask h reply ih =>
    rcases ih with ⟨-, heq⟩ | ih
    · cases heq
    · exact .inr (ih.ask reply)
  | pause h ih =>
    rcases ih with ⟨rfl, heq⟩ | ih
    · cases heq
      exact .inr .refl
    · exact .inr ih.pause

theorem trace_pause_done {d : Pause} (h : (pause d p).Trace es (.done a)) : p.Trace es (.done a) := by
  rcases trace_pause h with ⟨-, heq⟩ | h
  · cases heq
  · exact h

private theorem trace_request {q : I.Query} {p : Program I (I.Reply q)} (h : (request q).Trace es p) :
    (es = [] ∧ p = request q) ∨ ∃ reply, es = [⟨q, reply⟩] ∧ p = .done reply := by
  induction h with
  | refl => exact .inl ⟨rfl, rfl⟩
  | ask h reply ih =>
    rcases ih with ⟨rfl, heq⟩ | ⟨reply', -, heq⟩
    · cases heq
      exact .inr ⟨reply, rfl, rfl⟩
    · cases heq
  | pause h ih =>
    rcases ih with ⟨-, heq⟩ | ⟨reply', -, heq⟩
    · cases heq
    · cases heq

theorem trace_request_done {q : I.Query} {reply : I.Reply q} (h : (request q).Trace es (.done reply)) :
    es = [⟨q, reply⟩] := by
  rcases trace_request h with ⟨-, heq⟩ | ⟨reply', hes, heq⟩
  · cases heq
  · cases heq
    exact hes

theorem trace_request_ask {q q' : I.Query} {next : I.Reply q' → Program I (I.Reply q)}
    (h : (request q).Trace es (.ask q' next)) : es = [] ∧ q' = q := by
  rcases trace_request h with ⟨hes, heq⟩ | ⟨reply, -, heq⟩
  · cases heq
    exact ⟨hes, rfl⟩
  · cases heq

/-! ### Where the exchanges lead -/

/-- A program after the pauses that it makes next. -/
def awake : Program I α → Program I α
  | pause _ next => next.awake
  | p => p

private theorem Trace.awake (h : p.Trace es p') : p.Trace es p'.awake := by
  induction p' with
  | done a => exact h
  | ask q next => exact h
  | pause d next ih => exact ih h.pause
  | unfinished => exact h

theorem Trace.awake_of_nil (h : p.Trace [] p') : p'.awake = p.awake := by
  generalize hes : ([] : List (Exchange I)) = es at h
  induction h with
  | refl => rfl
  | ask h reply ih => exact absurd hes.symm (by simp)
  | pause h ih => exact ih hes

/-- The first exchange of a program. -/
private theorem Trace.cons_cases (h : p.Trace (e :: es) p') :
    ∃ next, p.awake = .ask e.query next ∧ (next e.reply).Trace es p' := by
  generalize hes : e :: es = es' at h
  induction h generalizing es with
  | refl => cases hes
  | @ask es' q next h reply ih =>
    cases es' with
    | nil =>
      obtain ⟨rfl, rfl⟩ := List.cons.inj hes
      exact ⟨next, h.awake_of_nil.symm, .refl⟩
    | cons e' es' =>
      obtain ⟨rfl, rfl⟩ := List.cons.inj hes
      obtain ⟨next', hnext, htrace⟩ := ih rfl
      exact ⟨next', hnext, htrace.ask reply⟩
  | pause h ih =>
    obtain ⟨next', hnext, htrace⟩ := ih hes
    exact ⟨next', hnext, htrace.pause⟩

private theorem Trace.cons {next : I.Reply e.query → Program I α} (h : p.awake = .ask e.query next)
    (h' : (next e.reply).Trace es p') : p.Trace (e :: es) p' := by
  have hask : p.Trace [] (.ask e.query next) := h ▸ Trace.refl.awake
  exact (hask.ask e.reply).trans h'

/-- A program that begins with a request and is over has gone on with the answer. -/
theorem trace_ask_done {q : I.Query} {next : I.Reply q → Program I α} (h : (ask q next).Trace es (.done a)) :
    ∃ reply es', es = ⟨q, reply⟩ :: es' ∧ (next reply).Trace es' (.done a) := by
  cases es with
  | nil => cases h.awake_of_nil
  | cons e es' =>
    obtain ⟨next', heq, htrace⟩ := h.cons_cases
    cases heq
    exact ⟨e.reply, es', rfl, htrace⟩

/-- Each exchange was once the next request of the program. -/
theorem Trace.split (h : p.Trace (before ++ e :: after) p') :
    ∃ next, p.Trace before (.ask e.query next) ∧ (next e.reply).Trace after p' := by
  induction before generalizing p with
  | nil =>
    obtain ⟨next, hnext, htrace⟩ := h.cons_cases
    exact ⟨next, hnext ▸ Trace.refl.awake, htrace⟩
  | cons e' before ih =>
    obtain ⟨next', hnext', htrace'⟩ := h.cons_cases
    obtain ⟨next, hbefore, hafter⟩ := ih htrace'
    exact ⟨next, .cons hnext' hbefore, hafter⟩

/-- The exchanges of a program determine where it stands, but for its pauses. -/
private theorem Trace.awake_unique (h : p.Trace es p') (h' : p.Trace es p'') : p'.awake = p''.awake := by
  induction es generalizing p with
  | nil => rw [h.awake_of_nil, h'.awake_of_nil]
  | cons e es ih =>
    obtain ⟨next, hnext, htrace⟩ := h.cons_cases
    obtain ⟨next', hnext', htrace'⟩ := h'.cons_cases
    rw [hnext] at hnext'
    cases hnext'
    exact ih htrace htrace'

theorem Trace.value_unique {a' : α} (h : p.Trace es (.done a)) (h' : p.Trace es (.done a')) : a = a' :=
  Program.done.inj (h.awake_unique h')

/-- A program that is over has made all its exchanges. -/
theorem Trace.eq_nil_of_done (h : p.Trace es (.done a)) (h' : p.Trace (es ++ es') p') : es' = [] := by
  cases es' with
  | nil => rfl
  | cons e es' =>
    obtain ⟨next, hask, -⟩ := h'.split
    cases h.awake_unique hask

/-! ### Requests -/

variable {P : I.Query → Prop}

theorem Trace.next_request {q : I.Query} {next : I.Reply q → Program I α} (h : p.Trace es (.ask q next))
    (hp : p.Requests P) : P q := by
  cases h.requests hp with
  | ask hq => exact hq

theorem Trace.forall_requests (h : p.Trace es p') (hp : p.Requests P) : ∀ e ∈ es, P e.query := by
  intro e he
  obtain ⟨before, after, rfl⟩ := List.append_of_mem he
  obtain ⟨next, hask, -⟩ := h.split
  exact hask.next_request hp

/-- What each next request of a program has, all its requests have. -/
theorem requests_of_trace (h : ∀ {es q next}, p.Trace es (.ask q next) → P q) : p.Requests P := by
  induction p with
  | done a => exact .done a
  | ask q next ih => exact .ask (h .refl) fun reply => ih reply fun htrace => h ((Trace.refl.ask reply).trans htrace)
  | pause d next ih => exact .pause (ih fun htrace => h (Trace.refl.pause.trans htrace))
  | unfinished => exact .unfinished

theorem Requests.interpret {P' : J.Query → Prop} {answer : (q : I.Query) → Program J (I.Reply q)} (hp : p.Requests P)
    (h : ∀ q, P q → (answer q).Requests P') : (p.interpret answer).Requests P' := by
  induction hp with
  | done a => exact .done a
  | ask hq _ ih => exact (h _ hq).bind ih
  | pause _ ih => exact .pause ih
  | unfinished => exact .unfinished

theorem requests_interpret {P' : J.Query → Prop} {answer : (q : I.Query) → Program J (I.Reply q)}
    (h : ∀ q, (answer q).Requests P') (p : Program I α) : (p.interpret answer).Requests P' := by
  have hany : p.Requests fun _ => True := requests_of_trace fun _ => trivial
  exact hany.interpret fun q _ => h q

/-- A program whose requests were answered by programs has come to a value of its own. -/
theorem Trace.of_interpret {answer : (q : I.Query) → Program J (I.Reply q)} {es : List (Exchange J)}
    (h : (p.interpret answer).Trace es (.done a)) : ∃ es', p.Trace es' (.done a) := by
  induction p generalizing es with
  | done a' =>
    cases (trace_done h).2
    exact ⟨[], .refl⟩
  | ask q next ih =>
    obtain ⟨es₁, es₂, reply, -, -, hnext⟩ := h.bind_done_cases
    obtain ⟨es', htrace⟩ := ih reply hnext
    exact ⟨⟨q, reply⟩ :: es', .cons rfl htrace⟩
  | pause d next ih =>
    obtain ⟨es', htrace⟩ := ih (trace_pause_done h)
    exact ⟨es', Trace.refl.pause.trans htrace⟩
  | unfinished =>
    have hstuck : ∀ {es p'}, (unfinished : Program J α).Trace es p' → p' = unfinished := by
      intro es p' htrace
      induction htrace with
      | refl => rfl
      | ask _ reply ih => cases ih
      | pause _ ih => cases ih
    cases hstuck h

/-! ### What follows some exchanges -/

/-- After the exchanges `es`, a program makes a request only if `A` allows it after the exchanges so far, and it ends
only with a value that `B` allows after all of them. -/
structure Follows (A : List (Exchange I) → I.Query → Prop) (B : List (Exchange I) → α → Prop) (es : List (Exchange I))
    (p : Program I α) : Prop where
  asks : ∀ {es' q next}, p.Trace es' (.ask q next) → A (es ++ es') q
  ends : ∀ {es' a}, p.Trace es' (.done a) → B (es ++ es') a

variable {A : List (Exchange I) → I.Query → Prop} {B : List (Exchange I) → α → Prop}
  {C : List (Exchange I) → β → Prop}

theorem follows_done (h : B es a) : (done a).Follows A B es := by
  constructor
  · intro es' q next htrace
    cases (trace_done htrace).2
  · intro es' a' htrace
    obtain ⟨rfl, heq⟩ := trace_done htrace
    cases heq
    rw [List.append_nil]
    exact h

theorem follows_bind (hasks : ∀ {es' q next}, p.Trace es' (.ask q next) → A (es ++ es') q)
    (hover : ∀ {es' a}, p.Trace es' (.done a) → (f a).Follows A C (es ++ es')) : (p.bind f).Follows A C es := by
  constructor
  · intro es' q next htrace
    rcases htrace.bind_ask_cases with ⟨next', hask⟩ | ⟨es₁, es₂, a, rfl, hdone, hnext⟩
    · exact hasks hask
    · rw [← List.append_assoc]
      exact (hover hdone).asks hnext
  · intro es' b htrace
    obtain ⟨es₁, es₂, a, rfl, hdone, hnext⟩ := htrace.bind_done_cases
    rw [← List.append_assoc]
    exact (hover hdone).ends hnext

/-! ### Runs -/

/-- The exchanges of a program that runs in a world. -/
def log (w : World I σ) : Program I α → σ → List (Exchange I)
  | done _, _ => []
  | ask q next, s => ⟨q, (w.answer q s).1⟩ :: (next (w.answer q s).1).log w (w.answer q s).2
  | pause d next, s => next.log w (w.rest d s)
  | unfinished, _ => []

theorem log_bind (w : World I σ) (p : Program I α) (f : α → Program I β) (s : σ) :
    (p.bind f).log w s = p.log w s ++
      match p.run w s with
      | (some a, s') => (f a).log w s'
      | (none, _) => [] := by
  induction p generalizing s with
  | done a => rfl
  | ask q next ih => exact congrArg (List.cons _) (ih _ _)
  | pause d next ih => exact ih _
  | unfinished => rfl

theorem log_bind_done (w : World I σ) (p : Program I α) (g : α → β) (s : σ) :
    (p.bind fun a => done (g a)).log w s = p.log w s := by
  rw [log_bind]
  rcases p.run w s with ⟨a | a, s'⟩ <;> exact List.append_nil _

/-- The exchanges of a run are a trace, which leads to the value of the run if it has one. -/
theorem exists_trace_log (w : World I σ) (p : Program I α) (s : σ) :
    ∃ p', p.Trace (p.log w s) p' ∧ ∀ a, (p.run w s).1 = some a → p' = .done a := by
  induction p generalizing s with
  | done a => exact ⟨.done a, .refl, fun a' h => by cases h; rfl⟩
  | ask q next ih =>
    obtain ⟨p', htrace, hvalue⟩ := ih (w.answer q s).1 (w.answer q s).2
    exact ⟨p', .cons rfl htrace, hvalue⟩
  | pause d next ih =>
    obtain ⟨p', htrace, hvalue⟩ := ih (w.rest d s)
    exact ⟨p', Trace.refl.pause.trans htrace, hvalue⟩
  | unfinished => exact ⟨.unfinished, .refl, fun a h => by cases h⟩

/-- The world has given each answer of a run. -/
theorem reply_of_mem_log {w : World I σ} {s : σ} (h : e ∈ p.log w s) : ∃ s', e.reply = (w.answer e.query s').1 := by
  induction p generalizing s with
  | done a => cases h
  | ask q next ih =>
    rcases List.mem_cons.mp h with rfl | h
    · exact ⟨s, rfl⟩
    · exact ih _ h
  | pause d next ih => exact ih h
  | unfinished => cases h

theorem trace_log_of_run {w : World I σ} {s : σ} (h : (p.run w s).1 = some a) : p.Trace (p.log w s) (.done a) := by
  obtain ⟨p', htrace, hvalue⟩ := exists_trace_log w p s
  rw [hvalue a h] at htrace
  exact htrace

/-- A run whose exchanges lead to a value has this value. -/
theorem run_of_trace_log {w : World I σ} {s : σ} (h : p.Trace (p.log w s) (.done a)) : (p.run w s).1 = some a := by
  induction p generalizing s with
  | done a' =>
    obtain ⟨-, heq⟩ := trace_done h
    cases heq
    rfl
  | ask q next ih =>
    obtain ⟨next', hnext, htrace⟩ := h.cons_cases
    cases hnext
    exact ih _ htrace
  | pause d next ih => exact ih (trace_pause_done h)
  | unfinished =>
    have hawake := Trace.awake_of_nil h
    cases hawake

/-- Each exchange of a run began as the request that stood next. -/
theorem ask_of_log {w : World I σ} {s : σ} (h : p.log w s = before ++ e :: after) :
    ∃ next, p.Trace before (.ask e.query next) := by
  obtain ⟨p', htrace, -⟩ := exists_trace_log w p s
  rw [h] at htrace
  obtain ⟨next, hask, -⟩ := htrace.split
  exact ⟨next, hask⟩

/-- A run whose first exchanges lead to a value has this value, and no further exchanges. -/
theorem over_of_log {w : World I σ} {s : σ} (h : p.Trace es (.done a)) (hlog : p.log w s = es ++ es') :
    es' = [] ∧ (p.run w s).1 = some a := by
  obtain ⟨p', htrace, -⟩ := exists_trace_log w p s
  rw [hlog] at htrace
  have hover : es' = [] := h.eq_nil_of_done htrace
  rw [hover, List.append_nil] at hlog
  exact ⟨hover, run_of_trace_log (hlog ▸ h)⟩

/-- What no answer to the requests of a run undoes, and no pause, still holds after the run. -/
theorem run_preserves {R : σ → Prop} {w : World I σ} {s : σ}
    (hanswer : ∀ e ∈ p.log w s, ∀ t, R t → R (w.answer e.query t).2) (hrest : ∀ d t, R t → R (w.rest d t)) (h : R s) :
    R (p.run w s).2 := by
  induction p generalizing s with
  | done a => exact h
  | ask q next ih =>
    refine ih _ (fun e he => hanswer e (List.mem_cons_of_mem _ he)) ?_
    exact hanswer _ List.mem_cons_self s h
  | pause d next ih => exact ih hanswer (hrest d s h)
  | unfinished => exact h

/-- A program runs alike in two worlds, or they have answered one of its requests differently, after they had answered
all earlier ones alike. -/
theorem run_agrees_or_parts {τ : Type} (w : World I σ) (w' : World I τ) (p : Program I α) (s : σ) (t : τ) :
    (p.run w s).1 = (p.run w' t).1 ∧ p.log w s = p.log w' t ∨
    ∃ common q r r' es es', r ≠ r' ∧ p.log w s = common ++ ⟨q, r⟩ :: es ∧ p.log w' t = common ++ ⟨q, r'⟩ :: es' := by
  induction p generalizing s t with
  | done a => exact .inl ⟨rfl, rfl⟩
  | ask q next ih =>
    by_cases hreply : (w.answer q s).1 = (w'.answer q t).1
    · rw [run, run, log, log, ← hreply]
      rcases ih (w.answer q s).1 (w.answer q s).2 (w'.answer q t).2 with
        ⟨hvalue, hlog⟩ | ⟨common, q', r, r', es, es', hne, hlog, hlog'⟩
      · exact .inl ⟨hvalue, congrArg (List.cons _) hlog⟩
      · refine .inr ⟨_ :: common, q', r, r', es, es', hne, congrArg (List.cons _) hlog, ?_⟩
        exact congrArg (List.cons _) hlog'
    · exact .inr ⟨[], q, _, _, _, _, hreply, rfl, rfl⟩
  | pause d next ih => exact ih _ _
  | unfinished => exact .inl ⟨rfl, rfl⟩

end Program

/-- A task with its failures renamed is over as the task is, but for the name of the failure. -/
theorem Task.trace_mapFailure_done {t : Task I α} {f : Failure → Failure} {es : List (Exchange I)}
    {o : Except Failure α} (h : (t.mapFailure f).toProgram.Trace es (.done o)) :
    ∃ r, t.toProgram.Trace es (.done r) ∧ o = r.mapError f := by
  obtain ⟨es₁, es₂, r, rfl, hdone, hnext⟩ := Program.Trace.bind_done_cases h
  cases r with
  | ok a =>
    obtain ⟨rfl, heq⟩ := Program.trace_done hnext
    rw [List.append_nil]
    exact ⟨.ok a, hdone, Program.done.inj heq⟩
  | error e =>
    obtain ⟨rfl, heq⟩ := Program.trace_done hnext
    rw [List.append_nil]
    exact ⟨.error e, hdone, Program.done.inj heq⟩

/-- A task after another one is over with the failure of the first one, or from its value. -/
theorem Task.trace_bind_done {t : Task I α} {f : α → Task I β} {es : List (Exchange I)} {o : Except Failure β}
    (h : (t >>= f).toProgram.Trace es (.done o)) :
    (∃ e, t.toProgram.Trace es (.done (.error e)) ∧ o = .error e) ∨
    ∃ es₁ es₂ a, es = es₁ ++ es₂ ∧ t.toProgram.Trace es₁ (.done (.ok a)) ∧ (f a).toProgram.Trace es₂ (.done o) := by
  rw [toProgram_bind] at h
  obtain ⟨es₁, es₂, first, rfl, hfirst, hnext⟩ := h.bind_done_cases
  cases first with
  | ok a => exact .inr ⟨es₁, es₂, a, rfl, hfirst, hnext⟩
  | error e =>
    obtain ⟨rfl, heq⟩ := Program.trace_done hnext
    rw [List.append_nil]
    exact .inl ⟨e, hfirst, Program.done.inj heq⟩

end MultiCluster
