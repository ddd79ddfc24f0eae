import Mathlib.Order.Nat
import MultiCluster.Proofs.Allocation.Claim
import MultiCluster.Proofs.Allocation.Serial

/-!
# The rounds of a commit

A decision fails for reasons of its own and never with a conflict, so that only the ledger can send a commit into
another round. Each round begins with a read, each round but the last one ends with a conflict, and only the last one
can land a write.

Main statements: `Stage.countP_isRead_le` bounds the rounds of a commit by its conflicts, `Stage.countP_isLanded_le` the
writes that it lands, and `Stage.maxAttempts_le` says what it takes for a commit to give up.
-/

namespace MultiCluster

open Allocator

/-! ### Failures -/

/-- A failure says that other writers were in the way. -/
def Failure.isContention : Failure → Bool
  | conflictRetriesExhausted _ _ => true
  | f => f.isConflict

theorem Failure.isContention_of_isConflict {f : Failure} (h : f.isConflict = true) : f.isContention = true := by
  cases f with
  | conflictRetriesExhausted => rfl
  | _ => exact h

theorem AllocationRequest.isContention_of_validate {q : AllocationRequest} {f : Failure}
    (h : q.validate = .error f) : f.isContention = false := by
  unfold validate at h
  rcases bind_eq_error_cases h with hid | ⟨u, -, h⟩
  · simp only [ClusterId.validate] at hid
    split_ifs at hid
    all_goals cases hid; rfl
  · split_ifs at h
    · cases h
      rfl
    · cases h

namespace Record

variable {r : Record} {q : AllocationRequest} {f : Failure}

private theorem isContention_of_claim {cluster cidr : String} (h : r.claim cluster cidr = .error f) :
    f.isContention = false := by
  rcases claim_cases r cluster cidr with ⟨message, hclaim⟩ | ⟨n, -, hclaim | ⟨owner, b, hclaim⟩ | ⟨-, -, hclaim⟩⟩
  · rw [hclaim] at h; cases h; rfl
  · rw [hclaim] at h; cases h; rfl
  · rw [hclaim] at h; cases h; rfl
  · rw [hclaim] at h; cases h

private theorem isContention_of_draw (h : r.draw q = .error f) : f.isContention = false := by
  rcases BlockSize.ofAddresses_cases (q.blockSize.getD r.defaultBlockSize) with
    ⟨-, message, hsize⟩ | ⟨-, -, size, hsize⟩
  · rw [draw_of_error hsize] at h
    cases h
    rfl
  · cases hheld : r.primary? q.cluster with
    | some b =>
      rw [draw_of_held hsize hheld] at h
      cases h
    | none =>
      by_cases hlt : r.supernet.size < size.addresses
      · obtain ⟨message, hdraw⟩ := draw_of_size_lt hsize hheld hlt
        rw [hdraw] at h
        cases h
        rfl
      · rcases draw_of_fits hsize hheld (Nat.not_lt.mp hlt) with ⟨b, hdraw, -⟩ | ⟨hdraw, -⟩
        · rw [hdraw] at h
          cases h
        · rw [hdraw] at h
          cases h
          rfl

/-- A decision is never put off to other writers. -/
private theorem isContention_of_allocate (h : r.allocate q = .error f) : f.isContention = false := by
  unfold allocate at h
  cases hcidr : q.explicitCidr with
  | some cidr =>
    rw [hcidr] at h
    exact isContention_of_claim h
  | none =>
    rw [hcidr] at h
    exact isContention_of_draw h

end Record

/-! ### What a commit counts -/

/-- A read, with which a round begins. -/
def Ledger.isRead : Exchange Ledger.interface → Bool
  | ⟨.read, _⟩ => true
  | ⟨.create _, _⟩ => false
  | ⟨.writeIfUnchanged _ _, _⟩ => false

/-- An exchange that was answered with a conflict. -/
def Ledger.isConflict : Exchange Ledger.interface → Bool
  | ⟨query, reply⟩ =>
    match (reply : Except Failure query.Result) with
    | .ok _ => false
    | .error f => f.isConflict

/-- A write that landed. -/
def Ledger.isLanded (e : Exchange Ledger.interface) : Bool :=
  (landed? e).isSome

namespace Allocator

variable {a : Allocator} {q : AllocationRequest} {f : Failure}
  {rounds : List (List (Exchange Ledger.interface))} {es : List (Exchange Ledger.interface)}
  {p : Program Ledger.interface (Except Failure (Option Network))} {o : Except Failure (Option Network)}

private theorem isContention_of_ruling {r : Record} (h : ruling q r = .finish (.error f)) : f.isContention = false := by
  rcases ruling_cases q r with ⟨-, hr⟩ | ⟨f', -, hallocate, hr⟩ | ⟨b, -, -, -, hr⟩ | ⟨b, -, -, -, hr⟩
  all_goals rw [hr] at h; cases h
  exact Record.isContention_of_allocate hallocate

private theorem RoundLog.countP_isRead (h : RoundLog q es o) : es.countP Ledger.isRead = 1 := by
  cases h <;> rfl

private theorem RoundLog.countP_isLanded_le (h : RoundLog q es o) : es.countP Ledger.isLanded ≤ 1 := by
  cases h with
  | unread => exact Nat.zero_le 1
  | finished => exact Nat.zero_le 1
  | refused => exact Nat.zero_le 1
  | written => exact Nat.le_refl 1

theorem RoundLog.countP_isLanded_of_error (h : RoundLog q es (.error f)) : es.countP Ledger.isLanded = 0 := by
  cases h <;> rfl

/-- A conflict that ends a round is the answer to its write. -/
private theorem RoundLog.countP_isConflict (h : RoundLog q es (.error f)) (hf : f.isConflict = true) :
    es.countP Ledger.isConflict = 1 := by
  cases h with
  | unread => simp [Ledger.isConflict, hf]
  | finished v hr =>
    have hplain := isContention_of_ruling hr
    rw [Failure.isContention_of_isConflict hf] at hplain
    cases hplain
  | refused v hr => simp [Ledger.isConflict, Ledger.got, hf]

/-- What each round that ended in a conflict has a number of, all of them together have as often as there are
rounds. -/
theorem Conflicting.countP_flatten {P : Exchange Ledger.interface → Bool} {n : Nat} (hc : Conflicting q rounds)
    (hP : ∀ {c f}, RoundLog q c (.error f) → f.isConflict = true → c.countP P = n) :
    rounds.flatten.countP P = rounds.length * n := by
  have hmap : rounds.map (List.countP P) = rounds.map fun _ => n := by
    refine List.map_congr_left fun c hmem => ?_
    obtain ⟨f, hround, hf⟩ := hc c hmem
    exact hP hround hf
  rw [List.countP_flatten, hmap, List.map_const', List.sum_replicate_nat]

/-- Each round but the last one of a commit has met a conflict. -/
theorem Stage.countP_isRead_le (h : Stage a q es p) :
    es.countP Ledger.isRead ≤ es.countP Ledger.isConflict + 1 := by
  have hflatten : ∀ {rounds}, Conflicting q rounds →
      rounds.flatten.countP Ledger.isRead = rounds.flatten.countP Ledger.isConflict := by
    intro rounds hc
    rw [hc.countP_flatten fun hround _ => hround.countP_isRead, hc.countP_flatten RoundLog.countP_isConflict]
  cases h with
  | rejected => exact Nat.zero_le _
  | atRead hc => exact (hflatten hc).le.trans (Nat.le_succ _)
  | atRest hc => exact (hflatten hc).le.trans (Nat.le_succ _)
  | @atWrite rounds left delay r v b p hc =>
    have hgot : [Ledger.got r v].countP Ledger.isRead = 1 := rfl
    rw [List.countP_append, List.countP_append, hflatten hc, hgot]
    omega
  | ended hc hlog =>
    rw [List.countP_append, List.countP_append, hflatten hc, hlog.countP_isRead]
    omega

/-- A commit lands no write but that of its last round. -/
theorem Stage.countP_isLanded_le (h : Stage a q es p) : es.countP Ledger.isLanded ≤ 1 := by
  have hflatten : ∀ {rounds}, Conflicting q rounds → rounds.flatten.countP Ledger.isLanded = 0 := by
    intro rounds hc
    rw [hc.countP_flatten fun hround _ => hround.countP_isLanded_of_error, Nat.mul_zero]
  cases h with
  | rejected => exact Nat.zero_le _
  | atRead hc => exact (hflatten hc).le.trans (Nat.zero_le _)
  | atRest hc => exact (hflatten hc).le.trans (Nat.zero_le _)
  | @atWrite rounds left delay r v b p hc =>
    have hgot : [Ledger.got r v].countP Ledger.isLanded = 0 := rfl
    rw [List.countP_append, hflatten hc, hgot]
    decide
  | ended hc hlog =>
    rw [List.countP_append, hflatten hc, Nat.zero_add]
    exact hlog.countP_isLanded_le

/-- A commit gives up only when each attempt that it has was met by a conflict, if nothing but conflicts fails at the
ledger. -/
theorem Stage.maxAttempts_le (h : Stage a q es p) {resource : String} {attempts : Nat}
    (hp : p = .done (.error (.conflictRetriesExhausted resource attempts)))
    (hledger : ∀ e ∈ es, ∀ f, e.reply = .error f → f.isConflict = true) :
    a.retry.maxAttempts ≤ es.countP Ledger.isConflict := by
  rcases h.done_cases hp with ⟨f, hv, hx, -⟩ | ⟨rounds, last, o, hc, hlog, -, hlast, hx, rfl⟩
  · cases hx
    exact absurd (AllocationRequest.isContention_of_validate hv) Bool.noConfusion
  · cases o with
    | ok x => cases hx
    | error f =>
      have hf : f.isConflict = true := by
        cases hlog with
        | unread => exact hledger _ (List.mem_append_right _ List.mem_cons_self) f rfl
        | finished v hr =>
          -- a decision that failed is passed on as it is, and is no such failure
          have hplain := isContention_of_ruling hr
          by_contra hf
          rw [Except.mapError, exhaustion, if_neg hf] at hx
          cases hx
          cases hplain
        | refused v hr =>
          exact hledger _ (List.mem_append_right _ (List.mem_cons_of_mem _ List.mem_cons_self)) f rfl
      rw [List.countP_append, hc.countP_flatten RoundLog.countP_isConflict, hlog.countP_isConflict hf, Nat.mul_one]
      exact (hlast f rfl hf).le

end Allocator

end MultiCluster
