import MultiCluster.Proofs.Allocation.Capacity
import MultiCluster.Proofs.Allocation.Claim

/-!
# Requests that no record can satisfy

A request is doomed if it names a text that names no block, or if it names none and asks for a number of addresses that
no block has. Every record refuses it, whatever is assigned. Any other request is satisfied by a record without
assignments over all addresses. The check that a request has to pass before it is decided on looks for neither.

Main statements: `AllocationRequest.Doomed.allocate_eq`, `AllocationRequest.satisfiable_iff` and
`AllocationRequest.validate_eq_ok_iff`.
-/

namespace MultiCluster

namespace AllocationRequest

variable {q : AllocationRequest} {field : String}

/-- No record can satisfy the request, for the fault of one of its fields. -/
inductive Doomed (q : AllocationRequest) : String → Prop
  | nameless {cidr : String} (hcidr : q.explicitCidr = some cidr) (h : ∀ n, ¬ NamesBlock cidr n) :
      Doomed q "globalnetCIDR"
  | sizeless {n : UInt64} (hcidr : q.explicitCidr = none) (hsize : q.blockSize = some n)
      (h : n.toNat = 0 ∨ addressLimit < n.toNat) : Doomed q "globalnetClusterSize"

/-- What a request is doomed by does not depend on whose it is. -/
theorem Doomed.congr {q' : AllocationRequest} (h : q.Doomed field) (hcidr : q'.explicitCidr = q.explicitCidr)
    (hsize : q'.blockSize = q.blockSize) : q'.Doomed field := by
  cases h with
  | nameless hname hno => exact .nameless (hcidr.trans hname) hno
  | sizeless hnone hn hno => exact .sizeless (hcidr.trans hnone) (hsize.trans hn) hno

/-- Every record refuses a doomed request. -/
theorem Doomed.allocate_eq (h : q.Doomed field) (r : Record) :
    ∃ message, r.allocate q = .error (.malformed field message) := by
  cases h with
  | nameless hcidr hno =>
    rw [Record.allocate, hcidr]
    exact Record.claim_of_no_block hno
  | @sizeless n hcidr hsize hno =>
    rw [Record.allocate, hcidr]
    rcases BlockSize.ofAddresses_cases n with ⟨-, message, hn⟩ | ⟨hpos, hle, -⟩
    · exact ⟨message, Record.draw_of_error (by rw [hsize]; exact hn)⟩
    · omega

/-! ### Requests that are not doomed -/

/-- The record without assignments over all addresses. -/
def spacious : Record :=
  .empty default 65536 true

private theorem mem_spacious {a : Nat} (h : a < addressLimit) : a ∈ spacious.supernet := by
  have hfirst : spacious.supernet.first = 0 := rfl
  have hstop : spacious.supernet.stop = addressLimit := rfl
  exact Network.mem_iff.mpr ⟨by omega, by omega⟩

private theorem spacious_claim {cidr : String} {n : Network} (h : NamesBlock cidr n) (cluster : String) :
    spacious.claim cluster cidr = .ok n := by
  refine Record.claim_of_free h (fun a ha => ?_) ?_
  · have hstop := n.stop_le
    have hlt := (Network.mem_iff.mp ha).2
    exact mem_spacious (by omega)
  · intro e he
    cases he

private theorem spacious_draw {size : BlockSize} (h : BlockSize.ofAddresses (q.blockSize.getD 65536) = .ok size) :
    ∃ b, spacious.draw q = .ok b := by
  have hroom : size.addresses ≤ spacious.supernet.size := size.addresses_le
  rcases Record.draw_of_fits h rfl hroom with ⟨b, hb, -⟩ | ⟨-, hnone⟩
  · exact ⟨b, hb⟩
  · -- the run at the lowest address is vacant
    have hfilled : spacious.IsFilled [] 0 := Record.isFilled_empty _ _ _
    have hfits : 0 + size.addresses ≤ spacious.supernet.stop := by
      rw [Nat.zero_add]
      exact size.addresses_le
    exact absurd (hfilled.isVacant (Nat.dvd_zero _) (Nat.zero_le _) hfits) (hnone 0)

/-- A request can be satisfied exactly if it is not doomed. -/
theorem satisfiable_iff :
    (∃ (r : Record) (b : Network), r.enabled = true ∧ r.validate = .ok () ∧ r.allocate q = .ok b) ↔
      ∀ field, ¬ q.Doomed field := by
  constructor
  · rintro ⟨r, b, -, -, hb⟩ field hdoomed
    obtain ⟨message, hrefused⟩ := hdoomed.allocate_eq r
    rw [hrefused] at hb
    cases hb
  · intro h
    suffices hb : ∃ b, spacious.allocate q = .ok b by
      obtain ⟨b, hb⟩ := hb
      exact ⟨spacious, b, rfl, rfl, hb⟩
    cases hcidr : q.explicitCidr with
    | some cidr =>
      have hname : ∃ n, NamesBlock cidr n := by
        by_contra hno
        exact h _ (.nameless hcidr fun n hn => hno ⟨n, hn⟩)
      obtain ⟨n, hn⟩ := hname
      exact ⟨n, by rw [Record.allocate, hcidr]; exact spacious_claim hn _⟩
    | none =>
      have hsize : ∃ size, BlockSize.ofAddresses (q.blockSize.getD 65536) = .ok size := by
        rcases BlockSize.ofAddresses_cases (q.blockSize.getD 65536) with ⟨hno, -⟩ | ⟨-, -, hsize⟩
        · cases hn : q.blockSize with
          | some n =>
            rw [hn] at hno
            exact absurd (.sizeless hcidr hn hno) (h _)
          | none =>
            rw [hn] at hno
            exact absurd hno (by decide)
        · exact hsize
      obtain ⟨size, hsize⟩ := hsize
      obtain ⟨b, hb⟩ := spacious_draw hsize
      exact ⟨b, by rw [Record.allocate, hcidr]; exact hb⟩

/-- A request passes its check if the cluster may have its name, and it does not both name a block and ask for a
number of addresses. -/
theorem validate_eq_ok_iff : q.validate = .ok () ↔
    ClusterId.validate q.cluster = .ok () ∧ (q.explicitCidr = none ∨ q.blockSize = none) := by
  rw [validate]
  cases hname : ClusterId.validate q.cluster with
  | error e => simp [bind, Except.bind]
  | ok u =>
    cases hcidr : q.explicitCidr with
    | none => simp [bind, Except.bind, pure, Except.pure]
    | some cidr =>
      cases hsize : q.blockSize with
      | none => simp [bind, Except.bind, pure, Except.pure]
      | some n => simp [bind, Except.bind, throw, throwThe, MonadExceptOf.throw]

end AllocationRequest

end MultiCluster
