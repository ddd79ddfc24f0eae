import Mathlib.Logic.Equiv.Defs
import MultiCluster.Proofs.Concurrency.Sequence

/-!
# Programs over a larger interface

The requests of an interface can be made as requests of a larger one, with the same answers. A program that is carried
over in this way has no other traces than its own ones, with the requests renamed.

Main statement: `Embedding.of_trace_lift`.
-/

namespace MultiCluster

/-- How the requests of one interface are made as requests of another one. -/
structure Interface.Embedding (I J : Interface) where
  query : I.Query → J.Query
  reply : (q : I.Query) → J.Reply (query q) ≃ I.Reply q

namespace Interface.Embedding

variable {I J : Interface} {α : Type} (E : Interface.Embedding I J)

/-- An exchange of the larger interface. -/
def exchange (e : Exchange I) : Exchange J :=
  ⟨E.query e.query, (E.reply e.query).symm e.reply⟩

/-- A program over the larger interface. -/
def lift : Program I α → Program J α
  | .done a => .done a
  | .ask q next => .ask (E.query q) fun reply => lift (next (E.reply q reply))
  | .pause d next => .pause d (lift next)
  | .unfinished => .unfinished

theorem lift_eq_interpret (p : Program I α) :
    E.lift p = p.interpret fun q => (Program.request (E.query q)).bind fun reply => .done (E.reply q reply) := by
  induction p with
  | done a => rfl
  | ask q next ih => exact congrArg (Program.ask (E.query q)) (funext fun reply => ih (E.reply q reply))
  | pause d next ih => exact congrArg (Program.pause d) ih
  | unfinished => rfl

variable {E} {p p' : Program I α} {q : Program J α} {es : List (Exchange I)} {es' : List (Exchange J)}

theorem trace_lift (h : p.Trace es p') : (E.lift p).Trace (es.map E.exchange) (E.lift p') := by
  induction h with
  | refl => exact .refl
  | @ask es query next h reply ih =>
    have hnext := ih.ask ((E.reply query).symm reply)
    rw [Equiv.apply_symm_apply] at hnext
    rw [List.map_append]
    exact hnext
  | pause h ih => exact ih.pause

/-- The exchanges of a program that was carried over are its own ones. -/
theorem of_trace_lift (h : (E.lift p).Trace es' q) :
    ∃ es p', es' = es.map E.exchange ∧ q = E.lift p' ∧ p.Trace es p' := by
  induction h with
  | refl => exact ⟨[], p, rfl, rfl, .refl⟩
  | @ask es' query next h reply ih =>
    obtain ⟨es, p', rfl, heq, htrace⟩ := ih
    cases p' with
    | done a => cases heq
    | ask query' next' =>
      cases heq
      refine ⟨es ++ [⟨query', E.reply query' reply⟩], next' (E.reply query' reply), ?_, rfl, htrace.ask _⟩
      rw [List.map_append, List.map_singleton, exchange, Equiv.symm_apply_apply]
    | pause d next' => cases heq
    | unfinished => cases heq
  | pause h ih =>
    obtain ⟨es, p', rfl, heq, htrace⟩ := ih
    cases p' with
    | done a => cases heq
    | ask query' next' => cases heq
    | pause d' next' =>
      cases heq
      exact ⟨es, next', rfl, rfl, htrace.pause⟩
    | unfinished => cases heq

/-- A program that is over in the larger interface is over in its own one. -/
theorem done_of_trace_lift {a : α} (h : (E.lift p).Trace es' (.done a)) :
    ∃ es, es' = es.map E.exchange ∧ p.Trace es (.done a) := by
  obtain ⟨es, p', hes, heq, htrace⟩ := of_trace_lift h
  cases p' with
  | done a' =>
    cases heq
    exact ⟨es, hes, htrace⟩
  | ask => cases heq
  | pause => cases heq
  | unfinished => cases heq

theorem ask_of_trace_lift {query : J.Query} {next : J.Reply query → Program J α}
    (h : (E.lift p).Trace es' (.ask query next)) :
    ∃ es query' next', es' = es.map E.exchange ∧ query = E.query query' ∧ p.Trace es (.ask query' next') := by
  obtain ⟨es, p', hes, heq, htrace⟩ := of_trace_lift h
  cases p' with
  | done => cases heq
  | ask query' next' =>
    cases heq
    exact ⟨es, query', next', hes, rfl, htrace⟩
  | pause => cases heq
  | unfinished => cases heq

end Interface.Embedding

end MultiCluster
