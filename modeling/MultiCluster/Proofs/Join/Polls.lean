import MultiCluster.Join.Credential
import MultiCluster.Proofs.Concurrency.Polling

/-!
# How long a credential is waited for

An answer decides on a wait if it is a credential, or a failure other than that the object is missing. The wait ends
with the first decisive answer, and after the last poll at the latest.

Main statement: `Credential.wait_ends_with_first_decision`.
-/

namespace MultiCluster

/-! ### Missing objects -/

/-- A failure says that an object is missing. -/
inductive Failure.MeansMissing : Failure → Prop
  | notFound (kind name : String) : MeansMissing (.notFound kind name)
  | status (state message reason : String) : MeansMissing (.kubernetes (.status state message reason 404))

private theorem Failure.isNotFound_iff {e : Failure} : e.isNotFound = true ↔ e.MeansMissing := by
  constructor
  · intro h
    cases e with
    | notFound kind name => exact .notFound kind name
    | kubernetes cause =>
      cases cause with
      | status state message reason code =>
        obtain rfl : code = 404 := by simpa [isNotFound, ApiFailure.code?] using h
        exact .status state message reason
      | _ => simp [isNotFound, ApiFailure.code?] at h
    | _ => cases h
  · rintro (⟨kind, name⟩ | ⟨state, message, reason⟩)
    · rfl
    · rfl

namespace Credential

/-! ### Decisive answers -/

/-- The answer of a source of credentials ends a wait with an outcome. -/
inductive Decides : Except Failure (Option Credential) → Except Failure Credential → Prop
  | issued (c : Credential) : Decides (.ok (some c)) (.ok c)
  | failed {e : Failure} (h : ¬ e.MeansMissing) : Decides (.error e) (.error e)

private theorem Decides.unlessNotFound_eq {reply : Except Failure (Option Credential)} {o : Except Failure Credential}
    (h : Decides reply o) : unlessNotFound reply = o.map some := by
  cases h with
  | issued c => rfl
  | @failed e h =>
    have hfound : e.isNotFound = false := Bool.eq_false_iff.mpr fun hmissing => h (Failure.isNotFound_iff.mp hmissing)
    simp [unlessNotFound, hfound, Except.map]

private theorem unlessNotFound_of_undecided {reply : Except Failure (Option Credential)} (h : ∀ o, ¬ Decides reply o) :
    unlessNotFound reply = .ok none := by
  cases reply with
  | ok found =>
    cases found with
    | none => rfl
    | some c => exact absurd (.issued c) (h (.ok c))
  | error e =>
    by_cases hmissing : e.MeansMissing
    · simp [unlessNotFound, Failure.isNotFound_iff.mpr hmissing]
    · exact absurd (.failed hmissing) (h (.error e))

/-- A source of credentials that gives its answers in turn. Its state is whom it was asked for so far. -/
def inTurn (replies : Nat → Except Failure (Option Credential)) : Program.World interface (List String) where
  answer
    | .fetch identity, asked => (replies asked.length, asked ++ [identity])

private theorem series_inTurn (replies : Nat → Except Failure (Option Credential)) (identity : String) :
    Backoff.Series (inTurn replies)
      (Task.ofProgram ((fetch identity).toProgram.bind fun r => .done (unlessNotFound r)))
      (fun n => unlessNotFound (replies n)) fun n => List.replicate n identity := by
  constructor
  · intro n
    have hasked : (List.replicate n identity).length = n := List.length_replicate
    show (some (unlessNotFound (replies (List.replicate n identity).length)),
      List.replicate n identity ++ [identity]) = _
    rw [hasked, List.replicate_succ']
  · intro d n
    rfl

/-- A wait ends with the first decisive answer, or times out after as many polls as there are steps, and it asks for one
identity only. -/
theorem wait_ends_with_first_decision (b : Backoff) (identity : String)
    (replies : Nat → Except Failure (Option Credential)) :
    let polls := max b.steps 1
    let result := (wait b identity).toProgram.run (inTurn replies) []
    (∀ n o, n < polls → Decides (replies n) o → (∀ m < n, ∀ o', ¬ Decides (replies m) o') →
      result = (some o, List.replicate (n + 1) identity)) ∧
    ((∀ n < polls, ∀ o, ¬ Decides (replies n) o) →
      result = (some (.error (.timeout ("credential for " ++ identity) polls)), List.replicate polls identity)) := by
  intro polls result
  have hseries := series_inTurn replies identity
  constructor
  · intro n o hlt hn hearlier
    exact hseries.waitFor_of_first hlt (fun m hm => unlessNotFound_of_undecided (hearlier m hm)) hn.unlessNotFound_eq
  · intro hnone
    exact hseries.waitFor_of_none fun n hn => unlessNotFound_of_undecided (hnone n hn)

end Credential

end MultiCluster
