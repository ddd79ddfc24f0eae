import MultiCluster.Program

/-!
# What a program can do

A program can be followed along the answers that it gets, whatever gives them. A property of all requests that a
program can make is a property of its branches, and it is found by going through the program once.

Main statements: `Task.requests_bind` bounds the requests of one task after another, and `Program.Trace.requests` says
that a program keeps to the bound wherever it stands.
-/

namespace MultiCluster

variable {I : Interface} {α β : Type}

/-- A request and its answer. -/
structure Exchange (I : Interface) where
  query : I.Query
  reply : I.Reply query

namespace Program

/-- The program `p` can have made the given exchanges, in this order, and then be the other program. -/
inductive Trace (p : Program I α) : List (Exchange I) → Program I α → Prop
  | refl : Trace p [] p
  | ask {es : List (Exchange I)} {q : I.Query} {next : I.Reply q → Program I α} (h : Trace p es (.ask q next))
      (reply : I.Reply q) : Trace p (es ++ [⟨q, reply⟩]) (next reply)
  | pause {es : List (Exchange I)} {d : Pause} {next : Program I α} (h : Trace p es (.pause d next)) :
      Trace p es next

/-- Every request that a program can make has a property. -/
inductive Requests (P : I.Query → Prop) : Program I α → Prop
  | done (a : α) : Requests P (.done a)
  | ask {q : I.Query} {next : I.Reply q → Program I α} (hq : P q) (h : ∀ reply, Requests P (next reply)) :
      Requests P (.ask q next)
  | pause {d : Pause} {next : Program I α} (h : Requests P next) : Requests P (.pause d next)
  | unfinished : Requests P .unfinished

variable {P : I.Query → Prop}

theorem Requests.bind {p : Program I α} {f : α → Program I β} (hp : p.Requests P) (hf : ∀ a, (f a).Requests P) :
    (p.bind f).Requests P := by
  induction hp with
  | done a => exact hf a
  | ask hq h ih => exact .ask hq ih
  | pause h ih => exact .pause ih
  | unfinished => exact .unfinished

theorem Requests.imp {P' : I.Query → Prop} {p : Program I α} (hp : p.Requests P) (h : ∀ q, P q → P' q) :
    p.Requests P' := by
  induction hp with
  | done a => exact .done a
  | ask hq _ ih => exact .ask (h _ hq) ih
  | pause _ ih => exact .pause ih
  | unfinished => exact .unfinished

theorem requests_request {q : I.Query} (h : P q) : (request q).Requests P :=
  .ask h fun reply => .done reply

/-- A program keeps to its requests wherever it stands. -/
theorem Trace.requests {p p' : Program I α} {es : List (Exchange I)} (h : p.Trace es p') (hp : p.Requests P) :
    p'.Requests P := by
  induction h with
  | refl => exact hp
  | ask h reply ih =>
    cases ih with
    | ask hq hnext => exact hnext reply
  | pause h ih =>
    cases ih with
    | pause hnext => exact hnext

end Program

namespace Task

variable {P : I.Query → Prop}

theorem requests_pure (a : α) : (pure a : Task I α).toProgram.Requests P :=
  .done (Except.ok a)

theorem requests_bind {t : Task I α} {f : α → Task I β} (ht : t.toProgram.Requests P)
    (hf : ∀ a, (f a).toProgram.Requests P) : (t >>= f).toProgram.Requests P := by
  refine Program.Requests.bind ht fun o => ?_
  cases o with
  | ok a => exact hf a
  | error e => exact .done (Except.error e)

end Task

end MultiCluster
