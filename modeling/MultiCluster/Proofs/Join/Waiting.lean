import MultiCluster.Join.Credential
import MultiCluster.Proofs.Concurrency.Sequence

/-!
# Waiting for a credential

A wait polls one condition, and it ends well only with what the last poll has found. So a credential that was waited
for is the answer to a request for the credential of that very identity. Main statements: `Backoff.trace_poll` and
`Credential.trace_wait`.
-/

namespace MultiCluster

section Backoff

variable {I : Interface} {α : Type} {condition : Task I (Option α)} {es : List (Exchange I)} {a : α}

/-- What was waited for is what the last poll found. -/
theorem Backoff.trace_poll {b : Backoff} {operation : String} {left : Nat} {delay : Duration}
    (h : (b.poll operation condition left delay).toProgram.Trace es (.done (.ok a))) :
    ∃ earlier last, es = earlier ++ last ∧ condition.toProgram.Trace last (.done (.ok (some a))) := by
  induction left generalizing delay es with
  | zero => cases (Program.trace_done h).2
  | succ left ih =>
    rw [poll] at h
    rcases Task.trace_bind_done h with ⟨e, -, heq⟩ | ⟨first, rest, found, rfl, hfirst, hrest⟩
    · cases heq
    · cases found with
      | some a' =>
        obtain ⟨rfl, heq⟩ := Program.trace_done hrest
        cases heq
        exact ⟨[], first, List.append_nil first, hfirst⟩
      | none =>
        by_cases hleft : left = 0
        · simp only [if_pos hleft] at hrest
          cases (Program.trace_done hrest).2
        · simp only [if_neg hleft] at hrest
          obtain ⟨earlier, last, rfl, hlast⟩ := ih (Program.trace_pause_done hrest)
          exact ⟨first ++ earlier, last, (List.append_assoc ..).symm, hlast⟩

theorem Backoff.requests_poll {P : I.Query → Prop} (hc : condition.toProgram.Requests P) (b : Backoff)
    (operation : String) (left : Nat) (delay : Duration) :
    (b.poll operation condition left delay).toProgram.Requests P := by
  induction left generalizing delay with
  | zero => exact .done (Except.error _)
  | succ left ih =>
    refine Task.requests_bind hc fun found => ?_
    cases found with
    | some a => exact Task.requests_pure a
    | none =>
      by_cases hleft : left = 0
      · simp only [if_pos hleft]
        exact .done (Except.error _)
      · simp only [if_neg hleft]
        exact .pause (ih _)

end Backoff

namespace Credential

variable {b : Backoff} {identity : String}

theorem requests_wait : (wait b identity).toProgram.Requests (I := interface) fun q : Query => q = .fetch identity := by
  refine Backoff.requests_poll ?_ b _ _ _
  exact .ask rfl fun reply => .done _

/-- The credential that was waited for is the answer to the last request for it. -/
theorem trace_wait {es : List (Exchange interface)} {c : Credential}
    (h : (wait b identity).toProgram.Trace es (.done (.ok c))) :
    ∃ earlier, es = earlier ++ [⟨.fetch identity, .ok (some c)⟩] := by
  obtain ⟨earlier, last, rfl, hlast⟩ := Backoff.trace_poll h
  obtain ⟨es₁, es₂, found, rfl, hfetch, hover⟩ := hlast.bind_done_cases
  obtain ⟨rfl, heq⟩ := Program.trace_done hover
  have hfound : found = .ok (some c) := by
    have hvalue := Program.done.inj heq
    unfold unlessNotFound at hvalue
    split at hvalue
    · split at hvalue
      · cases hvalue
      · cases hvalue
    · exact hvalue.symm
  refine ⟨earlier, ?_⟩
  rw [List.append_nil, Program.trace_request_done hfetch, hfound]

end Credential

end MultiCluster
