import MultiCluster.Allocation.Allocator
import MultiCluster.Proofs.Concurrency.Termination
import MultiCluster.Proofs.Ledger.Contents

/-!
# What a commit exchanges with its ledger

A round reads the ledger, rules on the record that it gets, and may write. A commit makes rounds that end in a
conflict, and then one that does not or for which no attempt is left. So at any time its exchanges are those of some
conflicting rounds, followed by those of the round that it is in, and they say where it stands.

Main statements: `commit_stage` describes the stages of a commit, `Stage.request_cases` says that a commit writes only
what it has just decided on, and `Stage.of_block` where a block that it returns comes from.
-/

namespace MultiCluster

namespace Allocator

/-! ### Rulings -/

/-- What a round does with a record: it ends with an outcome, or it assigns a block. -/
inductive Ruling where
  | finish (outcome : Except Failure (Option Network))
  | assign (block : Network)

/-- How a request is ruled on under a record. -/
def ruling (q : AllocationRequest) (r : Record) : Ruling :=
  if r.enabled then
    match r.allocate q with
    | .error f => .finish (.error f)
    | .ok block => if r.primary? q.cluster = some block then .finish (.ok (some block)) else .assign block
  else .finish (.ok none)

/-- The record after a block was assigned for a request. -/
def amended (q : AllocationRequest) (r : Record) (block : Network) : Record :=
  r.assign q.cluster block q.plugin

variable {a : Allocator} {q : AllocationRequest} {r : Record} {b : Network}

/-- There is no block if global addressing is not in use; else the decision is final if it failed or names the block
that the cluster holds. -/
theorem ruling_cases (q : AllocationRequest) (r : Record) :
    (r.enabled = false ∧ ruling q r = .finish (.ok none)) ∨
    (∃ f, r.enabled = true ∧ r.allocate q = .error f ∧ ruling q r = .finish (.error f)) ∨
    (∃ b, r.enabled = true ∧ r.allocate q = .ok b ∧ r.primary? q.cluster = some b ∧
      ruling q r = .finish (.ok (some b))) ∨
    (∃ b, r.enabled = true ∧ r.allocate q = .ok b ∧ r.primary? q.cluster ≠ some b ∧ ruling q r = .assign b) := by
  cases he : r.enabled with
  | false => exact .inl ⟨rfl, by simp [ruling, he]⟩
  | true =>
    cases ha : r.allocate q with
    | error f => exact .inr (.inl ⟨f, rfl, rfl, by simp [ruling, he, ha]⟩)
    | ok b =>
      by_cases hp : r.primary? q.cluster = some b
      · exact .inr (.inr (.inl ⟨b, rfl, rfl, hp, by simp [ruling, he, ha, hp]⟩))
      · exact .inr (.inr (.inr ⟨b, rfl, rfl, hp, by simp [ruling, he, ha, hp]⟩))

theorem ruling_eq_assign (h : ruling q r = .assign b) :
    r.enabled = true ∧ r.allocate q = .ok b ∧ r.primary? q.cluster ≠ some b := by
  rcases ruling_cases q r with ⟨-, hr⟩ | ⟨f, -, -, hr⟩ | ⟨b', -, -, -, hr⟩ | ⟨b', he, ha, hp, hr⟩
  all_goals rw [hr] at h; cases h
  exact ⟨he, ha, hp⟩

theorem ruling_eq_finish_some (h : ruling q r = .finish (.ok (some b))) : r.primary? q.cluster = some b := by
  rcases ruling_cases q r with ⟨-, hr⟩ | ⟨f, -, -, hr⟩ | ⟨b', -, -, hp, hr⟩ | ⟨b', -, -, -, hr⟩
  all_goals rw [hr] at h; cases h
  exact hp

/-! ### Rounds -/

/-- The exchanges of a complete round, and its outcome. -/
inductive RoundLog (q : AllocationRequest) : List (Exchange Ledger.interface) → Except Failure (Option Network) → Prop
  | unread (f : Failure) : RoundLog q [⟨.read, .error f⟩] (.error f)
  | finished {r : Record} {o : Except Failure (Option Network)} (v : Version) (h : ruling q r = .finish o) :
      RoundLog q [Ledger.got r v] o
  | refused {r : Record} {b : Network} (v : Version) (h : ruling q r = .assign b) (f : Failure) :
      RoundLog q [Ledger.got r v, ⟨.writeIfUnchanged (amended q r b) v, .error f⟩] (.error f)
  | written {r : Record} {b : Network} (v : Version) (h : ruling q r = .assign b) :
      RoundLog q [Ledger.got r v, Ledger.wrote (amended q r b) v] (.ok (some b))

/-- Rounds that all ended in a conflict. -/
def Conflicting (q : AllocationRequest) (rounds : List (List (Exchange Ledger.interface))) : Prop :=
  ∀ c ∈ rounds, ∃ f, RoundLog q c (.error f) ∧ f.isConflict = true

/-- A commit that is about to begin a round, with the given number of attempts left. -/
def trying (a : Allocator) (q : AllocationRequest) (left : Nat) (delay : Duration) :
    Program Ledger.interface (Except Failure (Option Network)) :=
  (a.retry.attempt Failure.isConflict (round q).toProgram left delay).bind fun
    | .ok x => .done (.ok x)
    | .error f => .done (.error (a.exhaustion f))

/-- A commit after a round with an outcome. -/
def settle (a : Allocator) (q : AllocationRequest) (left : Nat) (delay : Duration) :
    Except Failure (Option Network) → Program Ledger.interface (Except Failure (Option Network))
  | .ok x => .done (.ok x)
  | .error f =>
    if f.isConflict then
      if left = 0 ∧ a.retry.maxAttempts ≠ 0 then .done (.error (a.exhaustion f))
      else .pause (RetryPolicy.pause delay) (trying a q left (a.retry.nextDelay delay))
    else .done (.error f)

/-- A commit that is about to write. -/
def writing (a : Allocator) (q : AllocationRequest) (left : Nat) (delay : Duration) (r : Record) (v : Version)
    (b : Network) : Program Ledger.interface (Except Failure (Option Network)) :=
  .ask (.writeIfUnchanged (amended q r b) v) fun reply : Except Failure Unit =>
    settle a q left delay (reply.map fun _ => some b)

/-- A commit that has read. -/
def reviewing (a : Allocator) (q : AllocationRequest) (left : Nat) (delay : Duration) :
    Except Failure (Record × Version) → Program Ledger.interface (Except Failure (Option Network))
  | .error f => settle a q left delay (.error f)
  | .ok (r, v) =>
    match ruling q r with
    | .finish o => settle a q left delay o
    | .assign b => writing a q left delay r v b

theorem reviewing_of_finish {left : Nat} {delay : Duration} {v : Version} {o : Except Failure (Option Network)}
    (h : ruling q r = .finish o) : reviewing a q left delay (.ok (r, v)) = settle a q left delay o := by
  simp only [reviewing, h]

private theorem reviewing_of_assign {left : Nat} {delay : Duration} {v : Version} (h : ruling q r = .assign b) :
    reviewing a q left delay (.ok (r, v)) = writing a q left delay r v b := by
  simp only [reviewing, h]

private theorem round_eq (q : AllocationRequest) :
    (round q).toProgram = .ask (I := Ledger.interface) .read fun reply : Except Failure (Record × Version) =>
      match reply with
      | .error f => .done (.error f)
      | .ok (r, v) =>
        match ruling q r with
        | .finish o => .done o
        | .assign b => .ask (I := Ledger.interface) (.writeIfUnchanged (amended q r b) v)
            fun reply : Except Failure Unit => .done (reply.map fun _ => some b) := by
  refine congrArg (Program.ask (I := Ledger.interface) .read) (funext fun reply => ?_)
  rcases reply with f | ⟨r, v⟩
  · rfl
  · show ExceptT.bindCont _ (Except.ok (r, v)) = _
    simp only [ExceptT.bindCont]
    rcases ruling_cases q r with ⟨he, hr⟩ | ⟨f, he, ha, hr⟩ | ⟨b, he, ha, hp, hr⟩ | ⟨b, he, ha, hp, hr⟩
    · rw [hr, he]
      rfl
    · rw [hr, he, ha]
      rfl
    · rw [hr, he, ha]
      show (ExceptT.run (if r.primary? q.cluster = some b then _ else _)) = _
      rw [if_pos hp]
      rfl
    · rw [hr, he, ha]
      show (ExceptT.run (if r.primary? q.cluster = some b then _ else _)) = _
      rw [if_neg hp]
      refine congrArg (Program.ask (I := Ledger.interface) _) (funext fun reply => ?_)
      cases reply <;> rfl

/-- A conflict is renamed only when no attempt is left. -/
private theorem settle_eq (a : Allocator) (q : AllocationRequest) (left : Nat) (delay : Duration)
    (o : Except Failure (Option Network)) :
    (((Program.done o : Program Ledger.interface _).bind fun
      | .ok x => .done (.ok x)
      | .error f =>
        if !f.isConflict then .done (.error f)
        else if left = 0 ∧ a.retry.maxAttempts ≠ 0 then .done (.error f)
        else .pause (RetryPolicy.pause delay) (a.retry.attempt Failure.isConflict (round q).toProgram left
          (a.retry.nextDelay delay))).bind fun
      | .ok x => .done (.ok x)
      | .error f => .done (.error (a.exhaustion f))) = settle a q left delay o := by
  cases o with
  | ok x => rfl
  | error f =>
    cases hf : f.isConflict with
    | false => simp [Program.bind, settle, exhaustion, hf]
    | true =>
      by_cases hleft : left = 0 ∧ a.retry.maxAttempts ≠ 0
      · simp [Program.bind, settle, hf, hleft]
      · simp only [Program.bind, settle, hf, hleft, Bool.not_true, Bool.false_eq_true, ↓reduceIte]
        rfl

private theorem trying_zero (a : Allocator) (q : AllocationRequest) (delay : Duration) :
    trying a q 0 delay = .unfinished :=
  rfl

theorem trying_succ (a : Allocator) (q : AllocationRequest) (left : Nat) (delay : Duration) :
    trying a q (left + 1) delay = .ask (I := Ledger.interface) .read (reviewing a q left delay) := by
  rw [trying, RetryPolicy.attempt]
  -- only the round of this attempt is opened, not those of the later ones
  refine (congrArg (fun p => Program.bind (Program.bind p _) _) (round_eq q)).trans ?_
  refine congrArg (Program.ask (I := Ledger.interface) .read) (funext fun reply => ?_)
  rcases reply with f | ⟨r, v⟩
  · exact settle_eq a q left delay (.error f)
  · simp only [reviewing]
    cases ruling q r with
    | finish o =>
      cases o with
      | ok x => exact settle_eq a q left delay (.ok x)
      | error f => exact settle_eq a q left delay (.error f)
    | assign b =>
      refine congrArg (Program.ask (I := Ledger.interface) _) (funext fun reply => ?_)
      cases reply with
      | ok u => exact settle_eq a q left delay (.ok (some b))
      | error f => exact settle_eq a q left delay (.error f)

/-! ### Stages -/

theorem commit_of_error {f : Failure} (h : q.validate = .error f) : (a.commit q).toProgram = .done (.error f) := by
  unfold commit
  rw [h]
  rfl

theorem commit_of_ok (h : q.validate = .ok ()) :
    (a.commit q).toProgram = trying a q a.retry.attempts a.retry.initialDelay := by
  unfold commit
  rw [h]
  show (a.retry.attempt Failure.isConflict (round q).toProgram a.retry.attempts a.retry.initialDelay).bind _ = _
  refine congrArg (Program.bind _) (funext fun o => ?_)
  cases o <;> rfl

/-- Where a commit stands after some exchanges: it was rejected at once, or it is about to begin a round, or it waits
for the next one, or it is about to write, or it is over. -/
inductive Stage (a : Allocator) (q : AllocationRequest) :
    List (Exchange Ledger.interface) → Program Ledger.interface (Except Failure (Option Network)) → Prop
  | rejected {f : Failure} {p : Program Ledger.interface (Except Failure (Option Network))}
      (h : q.validate = .error f) (hp : p = .done (.error f)) : Stage a q [] p
  | atRead {rounds : List (List (Exchange Ledger.interface))} {left : Nat} {delay : Duration}
      {p : Program Ledger.interface (Except Failure (Option Network))} (hc : Conflicting q rounds)
      (hn : rounds.length + left = a.retry.attempts) (hp : p = trying a q left delay) : Stage a q rounds.flatten p
  | atRest {rounds : List (List (Exchange Ledger.interface))} {left : Nat} {delay : Duration} {d : Pause}
      {p : Program Ledger.interface (Except Failure (Option Network))} (hc : Conflicting q rounds)
      (hn : rounds.length + left = a.retry.attempts) (hp : p = .pause d (trying a q left delay)) :
      Stage a q rounds.flatten p
  | atWrite {rounds : List (List (Exchange Ledger.interface))} {left : Nat} {delay : Duration} {r : Record}
      {v : Version} {b : Network} {p : Program Ledger.interface (Except Failure (Option Network))}
      (hc : Conflicting q rounds) (hn : rounds.length + left + 1 = a.retry.attempts) (hr : ruling q r = .assign b)
      (hp : p = writing a q left delay r v b) : Stage a q (rounds.flatten ++ [Ledger.got r v]) p
  | ended {rounds : List (List (Exchange Ledger.interface))} {last : List (Exchange Ledger.interface)}
      {o : Except Failure (Option Network)} {p : Program Ledger.interface (Except Failure (Option Network))}
      (hc : Conflicting q rounds) (hlog : RoundLog q last o) (hn : rounds.length < a.retry.attempts)
      (hlast : ∀ f, o = .error f → f.isConflict = true → a.retry.maxAttempts = rounds.length + 1)
      (hp : p = .done (o.mapError a.exhaustion)) : Stage a q (rounds.flatten ++ last) p

section Stage

variable {es : List (Exchange Ledger.interface)} {p : Program Ledger.interface (Except Failure (Option Network))}
  {rounds : List (List (Exchange Ledger.interface))} {last : List (Exchange Ledger.interface)}
  {o : Except Failure (Option Network)} {left : Nat}

/-- A round ends the commit, or the next one follows after a pause. -/
private theorem Stage.of_round (hc : Conflicting q rounds) (hlog : RoundLog q last o)
    (hn : rounds.length + left + 1 = a.retry.attempts) (delay : Duration) :
    Stage a q (rounds.flatten ++ last) (settle a q left delay o) := by
  have hlt : rounds.length < a.retry.attempts := by omega
  cases o with
  | ok x => exact .ended hc hlog hlt (by simp) rfl
  | error f =>
    cases hf : f.isConflict with
    | false =>
      refine .ended hc hlog hlt ?_ ?_
      · intro f' heq hf'
        cases heq
        rw [hf] at hf'
        contradiction
      · show settle a q left delay (.error f) = .done (.error (a.exhaustion f))
        simp [settle, hf, exhaustion]
    | true =>
      by_cases hleft : left = 0 ∧ a.retry.maxAttempts ≠ 0
      · refine .ended hc hlog hlt (fun _ _ _ => ?_) ?_
        · rw [RetryPolicy.attempts, if_neg hleft.2] at hn
          omega
        · rw [settle, if_pos hf, if_pos hleft]
          rfl
      -- the conflict is one more round to be tried again
      · have hc' : Conflicting q (rounds ++ [last]) := by
          intro c hmem
          rcases List.mem_append.mp hmem with hmem | hmem
          · exact hc c hmem
          · rw [List.mem_singleton.mp hmem]
            exact ⟨f, hlog, hf⟩
        have hflat : rounds.flatten ++ last = (rounds ++ [last]).flatten := by simp
        rw [hflat, settle, if_pos hf, if_neg hleft]
        refine .atRest hc' ?_ rfl
        rw [List.length_append, List.length_singleton]
        omega

/-- A commit that makes a request is about to begin a round, or about to write what it decided on in this one. -/
private theorem Stage.ask_cases (h : Stage a q es p) {query : Ledger.Query}
    {next : Except Failure query.Result → Program Ledger.interface (Except Failure (Option Network))}
    (hp : p = .ask (I := Ledger.interface) query next) :
    (∃ rounds left delay, Conflicting q rounds ∧ rounds.length + left + 1 = a.retry.attempts ∧ es = rounds.flatten ∧
      p = trying a q (left + 1) delay) ∨
    ∃ rounds left delay r v b, Conflicting q rounds ∧ rounds.length + left + 1 = a.retry.attempts ∧
      es = rounds.flatten ++ [Ledger.got r v] ∧ ruling q r = .assign b ∧ p = writing a q left delay r v b := by
  cases h with
  | rejected hv hp' =>
    rw [hp] at hp'
    cases hp'
  | @atRead rounds left delay _ hc hn hp' =>
    cases left with
    | zero =>
      rw [hp, trying_zero] at hp'
      cases hp'
    | succ left => exact .inl ⟨rounds, left, delay, hc, hn, rfl, hp'⟩
  | atRest hc hn hp' =>
    rw [hp] at hp'
    cases hp'
  | @atWrite rounds left delay r v b _ hc hn hr hp' =>
    exact .inr ⟨rounds, left, delay, r, v, b, hc, hn, rfl, hr, hp'⟩
  | ended hc hlog hn hlast hp' =>
    rw [hp] at hp'
    cases hp'

private theorem Stage.ask (h : Stage a q es p) {query : Ledger.Query}
    {next : Except Failure query.Result → Program Ledger.interface (Except Failure (Option Network))}
    (hp : p = .ask (I := Ledger.interface) query next) (reply : Except Failure query.Result) :
    Stage a q (es ++ [⟨query, reply⟩]) (next reply) := by
  rcases h.ask_cases hp with
    ⟨rounds, left, delay, hc, hn, rfl, hp'⟩ | ⟨rounds, left, delay, r, v, b, hc, hn, rfl, hr, hp'⟩
  · rw [hp, trying_succ] at hp'
    cases hp'
    -- the round ends here, unless the record that was read leads to a write
    rcases reply with f | ⟨r, v⟩
    · exact .of_round hc (.unread f) hn delay
    · cases hr : ruling q r with
      | finish o =>
        have hnext := Stage.of_round hc (.finished v hr) hn delay
        rw [← reviewing_of_finish (v := v) hr] at hnext
        exact hnext
      | assign b => exact .atWrite hc hn hr (reviewing_of_assign hr)
  · rw [hp, writing] at hp'
    cases hp'
    rw [List.append_assoc]
    cases reply with
    | error f => exact .of_round hc (.refused v hr f) hn delay
    | ok u => exact .of_round hc (.written v hr) hn delay

private theorem Stage.pause (h : Stage a q es p) {d : Pause}
    {next : Program Ledger.interface (Except Failure (Option Network))} (hp : p = .pause d next) :
    Stage a q es next := by
  cases h with
  | rejected hv hp' =>
    rw [hp] at hp'
    cases hp'
  | @atRead rounds left delay _ hc hn hp' =>
    rw [hp] at hp'
    cases left with
    | zero => cases hp'
    | succ left =>
      rw [trying_succ] at hp'
      cases hp'
  | atRest hc hn hp' =>
    rw [hp] at hp'
    cases hp'
    exact .atRead hc hn rfl
  | atWrite hc hn hr hp' =>
    rw [hp] at hp'
    cases hp'
  | ended hc hlog hn hlast hp' =>
    rw [hp] at hp'
    cases hp'

/-- The exchanges of a commit say where it stands. -/
theorem commit_stage (h : (a.commit q).toProgram.Trace es p) : Stage a q es p := by
  induction h with
  | refl =>
    cases hv : q.validate with
    | error f => exact .rejected hv (commit_of_error hv)
    | ok u =>
      have hnone : Conflicting q [] := fun c hmem => nomatch hmem
      exact .atRead hnone (Nat.zero_add _) (commit_of_ok hv)
  | ask h reply ih => exact ih.ask rfl reply
  | pause h ih => exact ih.pause rfl

/-- A commit that makes a request reads, or writes what it has decided on since it last read. -/
theorem Stage.request_cases (h : Stage a q es p) {query : Ledger.Query}
    {next : Except Failure query.Result → Program Ledger.interface (Except Failure (Option Network))}
    (hp : p = .ask (I := Ledger.interface) query next) :
    query = .read ∨
    ∃ rounds left delay r v b, Conflicting q rounds ∧ es = rounds.flatten ++ [Ledger.got r v] ∧
      ruling q r = .assign b ∧ p = writing a q left delay r v b := by
  rcases h.ask_cases hp with
    ⟨rounds, left, delay, -, -, -, hp'⟩ | ⟨rounds, left, delay, r, v, b, hc, -, hes, hr, hp'⟩
  · left
    rw [hp, trying_succ] at hp'
    cases hp'
    rfl
  · exact .inr ⟨rounds, left, delay, r, v, b, hc, hes, hr, hp'⟩

/-- A commit ends with the record that it has read, if the ruling on it ends the round without a conflict. -/
theorem trace_commit_of_finish {v : Version}
    {next : Except Failure (Record × Version) → Program Ledger.interface (Except Failure (Option Network))}
    (h : (a.commit q).toProgram.Trace es (.ask (I := Ledger.interface) .read next)) (hr : ruling q r = .finish o)
    (ho : ∀ f, o = .error f → f.isConflict = false) :
    (a.commit q).toProgram.Trace (es ++ [Ledger.got r v]) (.done o) := by
  have hnext : next (.ok (r, v)) = .done o := by
    rcases (commit_stage h).ask_cases rfl with
      ⟨rounds, left, delay, -, -, -, hp⟩ | ⟨rounds, left, delay, r', v', b, -, -, -, -, hp⟩
    · rw [trying_succ] at hp
      cases hp
      rw [reviewing_of_finish hr]
      cases o with
      | ok x => rfl
      | error f => simp [settle, ho f rfl]
    · cases hp
  rw [← hnext]
  exact h.ask (.ok (r, v))

/-- A commit that is over was rejected at once, or its last round has ended it. -/
theorem Stage.done_cases (h : Stage a q es p) {x : Except Failure (Option Network)} (hp : p = .done x) :
    (∃ f, q.validate = .error f ∧ x = .error f ∧ es = []) ∨
    ∃ rounds last o, Conflicting q rounds ∧ RoundLog q last o ∧ rounds.length < a.retry.attempts ∧
      (∀ f, o = .error f → f.isConflict = true → a.retry.maxAttempts = rounds.length + 1) ∧
      x = o.mapError a.exhaustion ∧ es = rounds.flatten ++ last := by
  cases h with
  | rejected hv hp' =>
    rw [hp] at hp'
    cases hp'
    exact .inl ⟨_, hv, rfl, rfl⟩
  | @atRead rounds left delay _ hc hn hp' =>
    rw [hp] at hp'
    cases left with
    | zero => cases hp'
    | succ left =>
      rw [trying_succ] at hp'
      cases hp'
  | atRest hc hn hp' =>
    rw [hp] at hp'
    cases hp'
  | atWrite hc hn hr hp' =>
    rw [hp] at hp'
    cases hp'
  | @ended rounds last o _ hc hlog hn hlast hp' =>
    rw [hp] at hp'
    exact .inr ⟨rounds, last, o, hc, hlog, hn, hlast, Program.done.inj hp', rfl⟩

/-- A block that a commit returns is one that it found assigned in its last read, or one that it has just written. -/
theorem Stage.of_block (h : Stage a q es p) (hp : p = .done (.ok (some b))) :
    ∃ rounds r v, Conflicting q rounds ∧
      ((es = rounds.flatten ++ [Ledger.got r v] ∧ ruling q r = .finish (.ok (some b))) ∨
        (es = rounds.flatten ++ [Ledger.got r v, Ledger.wrote (amended q r b) v] ∧ ruling q r = .assign b)) := by
  rcases h.done_cases hp with ⟨f, -, hx, -⟩ | ⟨rounds, last, o, hc, hlog, -, -, hx, rfl⟩
  · cases hx
  · obtain rfl : o = .ok (some b) := by
      cases o with
      | error f => cases hx
      | ok x => exact hx.symm
    cases hlog with
    | finished v hr => exact ⟨rounds, _, v, hc, .inl ⟨rfl, hr⟩⟩
    | written v hr => exact ⟨rounds, _, v, hc, .inr ⟨rfl, hr⟩⟩

end Stage

/-! ### Ends -/

private theorem finishes_round (q : AllocationRequest) : (round q).toProgram.Finishes := by
  refine Task.finishes_bind (Program.finishes_request (I := Ledger.interface) _) fun current => ?_
  obtain ⟨r, v⟩ := current
  simp only
  split
  · exact Task.finishes_pure _
  · refine Task.finishes_bind (Task.finishes_ofExcept _) fun block => ?_
    split
    · exact Task.finishes_pure _
    · refine Task.finishes_bind (Program.finishes_request (I := Ledger.interface) _) fun u => ?_
      exact Task.finishes_pure _

/-- A commit ends if its attempts are limited. -/
theorem finishes_commit {a : Allocator} (h : 0 < a.retry.maxAttempts) (q : AllocationRequest) :
    (a.commit q).toProgram.Finishes := by
  refine Task.finishes_bind (Task.finishes_ofExcept _) fun u => ?_
  exact Task.finishes_mapFailure (RetryPolicy.finishes_retryIf (finishes_round q) h _) _

end Allocator

end MultiCluster
