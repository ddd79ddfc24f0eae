import MultiCluster.Proofs.Api.Client
import MultiCluster.Proofs.Concurrency.Pool

/-!
# API servers with versions

An API server is seen through the one object in which a ledger is kept. Whoever changes the object gives it a version
that the server has never given before, and a replacement is accepted only if the sent object carries the current
version. So a version stands for one content of the object, whatever happens between two requests of a client.

Main statements: `Server.Pins.evolves`, a version never comes to stand for another content, and
`Server.Versioned.evolves_run`, whatever programs share a server, in whatever order their requests arrive, the server
evolves as it does under any other edits.
-/

namespace MultiCluster.Api

open LedgerClient

/-- An API server, as far as one object is concerned. -/
structure Server (σ : Type) where
  world : Program.World interface σ
  object : σ → Option ConfigMap
  /-- The versions that the server has given so far. -/
  issued : σ → String → Prop

namespace Server

variable {σ : Type}

def reply (srv : Server σ) (q : Call) (s : σ) : Except ApiFailure q.Result := (srv.world.answer q s).1

def after (srv : Server σ) (q : Call) (s : σ) : σ := (srv.world.answer q s).2

/-- What can happen on a server from one state to another, by requests of any clients or by edits of any other kind: the
object is left alone, or it is gone, or it is one with a version that is new. -/
structure Evolves (srv : Server σ) (s s' : σ) : Prop where
  issued : ∀ token, srv.issued s token → srv.issued s' token
  object : ∀ o, srv.object s' = some o → srv.object s = some o ∨
    ∃ token, o.metadata.resourceVersion = some token ∧ ¬ srv.issued s token ∧ srv.issued s' token

/-- The laws of a server on which every change gives the object of a ledger a version that is new, a replacement is
accepted only against the current version, and a request that is answered with an error has no effect. -/
structure Versioned (srv : Server σ) (space : String) : Prop where
  current : ∀ {s o}, srv.object s = some o →
    ∃ token, o.metadata.resourceVersion = some token ∧ srv.issued s token
  answer : ∀ q s, srv.Evolves s (srv.after q s)
  rest : ∀ d s, srv.Evolves s (srv.world.rest d s)
  refused : ∀ {q s e}, srv.reply q s = .error e → srv.object (srv.after q s) = srv.object s
  get : ∀ {s o}, srv.reply (getCall space) s = .ok o →
    srv.object s = some o ∧ srv.object (srv.after (getCall space) s) = some o
  /-- An accepted object is stored as it was sent, under a new version. -/
  replace : ∀ {s sent token}, sent.metadata.resourceVersion = some token →
    srv.reply (replaceCall space sent) s = .ok () →
    ∃ current fresh, srv.object s = some current ∧ current.metadata.resourceVersion = some token ∧
      ¬ srv.issued s fresh ∧ srv.object (srv.after (replaceCall space sent) s) = some (sent.stamped fresh)

/-- The laws of a server that refuses a request for these causes only: there is no object to be got or replaced, there
is one where a first one is to be created, or the version of the sent object is not the current one. -/
structure Optimistic (srv : Server σ) (space : String) : Prop extends Versioned srv space where
  get_absent : ∀ {s}, srv.object s = none →
    ∃ e, srv.reply (getCall space) s = .error e ∧ e.code? = some 404 ∧ e.isAbsent = true
  get_present : ∀ {s o}, srv.object s = some o → srv.reply (getCall space) s = .ok o
  create_absent : ∀ {s} (sent : ConfigMap), srv.object s = none → sent.metadata.name = some Ledger.objectName →
    srv.reply (.createConfigMap space sent) s = .ok () ∧
    ∃ o fresh, srv.object (srv.after (.createConfigMap space sent) s) = some o ∧ o.data = sent.data ∧
      o.metadata.resourceVersion = some fresh
  create_present : ∀ {s o} (sent : ConfigMap), srv.object s = some o → sent.metadata.name = some Ledger.objectName →
    ∃ e, srv.reply (.createConfigMap space sent) s = .error e ∧ e.code? = some 409
  replace_absent : ∀ {s} (sent : ConfigMap), srv.object s = none →
    ∃ e, srv.reply (replaceCall space sent) s = .error e ∧ e.code? = some 404
  replace_current : ∀ {s o token} (sent : ConfigMap), srv.object s = some o →
    o.metadata.resourceVersion = some token → sent.metadata.resourceVersion = some token →
    srv.reply (replaceCall space sent) s = .ok ()
  replace_stale : ∀ {s o token} (sent : ConfigMap), srv.object s = some o →
    o.metadata.resourceVersion ≠ some token → sent.metadata.resourceVersion = some token →
    ∃ e, srv.reply (replaceCall space sent) s = .error e ∧ e.code? = some 409

variable {srv : Server σ} {space : String} {s s' s'' : σ} {o o' : ConfigMap} {token : String}

theorem Evolves.refl (srv : Server σ) (s : σ) : srv.Evolves s s :=
  ⟨fun _ h => h, fun _ h => .inl h⟩

theorem Evolves.trans (h : srv.Evolves s s') (h' : srv.Evolves s' s'') : srv.Evolves s s'' := by
  refine ⟨fun token ht => h'.issued token (h.issued token ht), fun o ho => ?_⟩
  rcases h'.object o ho with ho | ⟨token, hversion, hfresh, hissued⟩
  · rcases h.object o ho with ho | ⟨token, hversion, hfresh, hissued⟩
    · exact .inl ho
    · exact .inr ⟨token, hversion, hfresh, h'.issued token hissued⟩
  · exact .inr ⟨token, hversion, fun ht => hfresh (h.issued token ht), hissued⟩

theorem run_done {α : Type} (srv : Server σ) (a : α) (s : σ) :
    Program.run srv.world (.done a) s = (some a, s) := rfl

theorem run_ask {α : Type} (srv : Server σ) (q : Call) (next : interface.Reply q → Program interface α)
    (s : σ) :
    Program.run srv.world (.ask q next) s = (next (srv.reply q s)).run srv.world (srv.after q s) := rfl

/-! ### What a version stands for -/

/-- A version stands for an object: as long as the object has this version it is that one. -/
def Pins (srv : Server σ) (s : σ) (token : String) (o : ConfigMap) : Prop :=
  srv.issued s token ∧ ∀ o', srv.object s = some o' → o'.metadata.resourceVersion = some token → o' = o

/-- Every version that has been given stands for the current object, if for any. -/
theorem pins_of_issued (ho : srv.object s = some o) (hissued : srv.issued s token) : srv.Pins s token o := by
  refine ⟨hissued, fun o' ho' _ => ?_⟩
  exact Option.some.inj (ho'.symm.trans ho)

theorem Versioned.issued_of_current (h : srv.Versioned space) (ho : srv.object s = some o)
    (hversion : o.metadata.resourceVersion = some token) : srv.issued s token := by
  obtain ⟨token', hversion', hissued⟩ := h.current ho
  obtain rfl : token' = token := Option.some.inj (hversion'.symm.trans hversion)
  exact hissued

/-- Nothing that happens makes a version stand for another object. -/
theorem Pins.evolves (h : srv.Pins s token o) (hs : srv.Evolves s s') : srv.Pins s' token o := by
  obtain ⟨hissued, hpins⟩ := h
  refine ⟨hs.issued token hissued, fun o' ho' hversion => ?_⟩
  rcases hs.object o' ho' with ho' | ⟨fresh, hfresh, hnew, -⟩
  · exact hpins o' ho' hversion
  · obtain rfl : fresh = token := Option.some.inj (hfresh.symm.trans hversion)
    exact absurd hissued hnew

/-- The clients of a server cannot do to it what other edits could not do, in whatever order they come. -/
theorem Versioned.evolves_run {ι : Type} {α : ι → Type} [DecidableEq ι] (h : srv.Versioned space)
    (p : Pool interface σ α) (schedule : List ι) : srv.Evolves p.state (p.run srv.world schedule).state := by
  refine Pool.run_induction (P := fun p' => srv.Evolves p.state p'.state) (.refl srv p.state) ?_ schedule
  intro p' i ih
  rcases Pool.step_cases srv.world p' i with ⟨q, next, -, hstep⟩ | ⟨d, next, -, hstep⟩ | hstep
  · rw [hstep]
    exact ih.trans (h.answer q p'.state)
  · rw [hstep]
    exact ih.trans (h.rest d p'.state)
  · rw [hstep]
    exact ih

/-! ### A program among others -/

/-- A request of a program, with the states of the server just before and just after it. -/
structure Moment (σ : Type) where
  call : Call
  before : σ
  after : σ

def moment (srv : Server σ) (q : Call) (s : σ) : Moment σ := ⟨q, s, srv.after q s⟩

/-- A program runs to its value on a server on which anything may happen before each of its requests. -/
inductive Amid (srv : Server σ) {α : Type} : σ → Program interface α → List (Moment σ) → α → σ → Prop
  | done (s : σ) (a : α) : Amid srv s (.done a) [] a s
  | ask {s s₁ s' : σ} {q : Call} {next : Except ApiFailure q.Result → Program interface α} {ms : List (Moment σ)}
      {a : α} (hs : srv.Evolves s s₁) (h : Amid srv (srv.after q s₁) (next (srv.reply q s₁)) ms a s') :
      Amid srv s (.ask q next) (srv.moment q s₁ :: ms) a s'
  | pause {s s₁ s' : σ} {d : Pause} {next : Program interface α} {ms : List (Moment σ)} {a : α}
      (hs : srv.Evolves s s₁) (h : Amid srv s₁ next ms a s') : Amid srv s (.pause d next) ms a s'

section Amid

variable {α : Type} {a b : α} {ms : List (Moment σ)}

theorem Amid.done_cases (h : srv.Amid s (.done a) ms b s') : ms = [] ∧ b = a ∧ s' = s := by
  cases h
  exact ⟨rfl, rfl, rfl⟩

theorem Amid.ask_cases {q : Call} {next : Except ApiFailure q.Result → Program interface α}
    (h : srv.Amid s (.ask q next) ms a s') :
    ∃ s₁ ms', srv.Evolves s s₁ ∧ ms = srv.moment q s₁ :: ms' ∧
      srv.Amid (srv.after q s₁) (next (srv.reply q s₁)) ms' a s' := by
  cases h with
  | ask hs h => exact ⟨_, _, hs, rfl, h⟩

/-- A program that has the server for itself is one among others that do nothing. -/
theorem Versioned.amid_of_run (h : srv.Versioned space) {p : Program interface α}
    (hrun : p.run srv.world s = (some a, s')) : ∃ ms, srv.Amid s p ms a s' := by
  induction p generalizing s with
  | done b =>
    cases hrun
    exact ⟨[], .done s' a⟩
  | ask q next ih =>
    obtain ⟨ms, hms⟩ := ih _ hrun
    exact ⟨_, .ask (.refl srv s) hms⟩
  | pause d next ih =>
    obtain ⟨ms, hms⟩ := ih hrun
    exact ⟨ms, .pause (h.rest d s) hms⟩
  | unfinished => cases hrun

end Amid

end Server

end MultiCluster.Api
