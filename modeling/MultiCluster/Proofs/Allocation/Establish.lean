import MultiCluster.Proofs.Allocation.Capacity
import MultiCluster.Proofs.Allocation.Claim
import MultiCluster.Proofs.Concurrency.Termination

/-!
# Establishing a ledger

The arguments for a ledger are checked before anything is asked of it. Then a first record is offered, and if there is
a ledger already, that one is read and validated instead.

Main statements: `configured_cases` says which arguments are malformed, and `establish_eq` what is done with the others.
-/

namespace MultiCluster

open Allocator

/-! ### The arguments for a ledger -/

/-- The arguments for a ledger name a supernet and a block size, and the supernet has room for a block if blocks are
going to be assigned. -/
structure Configures (supernet : String) (n : UInt64) (enabled : Bool) (net : Network) (size : BlockSize) : Prop where
  parsed : Network.ofText? (Text.trim supernet) = some net
  truncated : net.isTruncated = true
  rounded : BlockSize.ofAddresses n = .ok size
  room : enabled = true → size.addresses ≤ net.size

/-- The first record of a ledger. -/
def configured (supernet : String) (n : UInt64) (enabled : Bool) : Except Failure Record := do
  if enabled then
    let _ ← validateSupernet supernet n
  let net ← parseNetwork "globalnetCIDRRange" supernet
  let size ← BlockSize.ofAddresses n
  return Record.empty net size.toWord enabled

section Configured

variable {supernet : String} {n : UInt64} {net : Network} {size : BlockSize} {f : Failure}

private theorem configured_of_no_network (h : parseNetwork "globalnetCIDRRange" supernet = .error f) (enabled : Bool) :
    configured supernet n enabled = .error f := by
  cases enabled with
  | false =>
    rw [configured, h]
    rfl
  | true =>
    rw [configured, validateSupernet, h]
    rfl

private theorem configured_of_no_size (h : parseNetwork "globalnetCIDRRange" supernet = .ok net)
    (hsize : BlockSize.ofAddresses n = .error f) (enabled : Bool) : configured supernet n enabled = .error f := by
  cases enabled with
  | false =>
    rw [configured, h, hsize]
    rfl
  | true =>
    rw [configured, validateSupernet_of_network n h, hsize]
    rfl

private theorem configured_false (h : parseNetwork "globalnetCIDRRange" supernet = .ok net)
    (hsize : BlockSize.ofAddresses n = .ok size) :
    configured supernet n false = .ok (Record.empty net size.toWord false) := by
  rw [configured, h, hsize]
  rfl

/-- Room for a block is asked for only if blocks are going to be assigned. -/
private theorem configured_true (h : parseNetwork "globalnetCIDRRange" supernet = .ok net)
    (hsize : BlockSize.ofAddresses n = .ok size) :
    configured supernet n true = (size.capacity net).map fun _ => Record.empty net size.toWord true := by
  rw [configured, validateSupernet_of_network n h, h, hsize]
  show (size.capacity net).bind _ = _
  cases size.capacity net <;> rfl

/-- Arguments that name no settings are malformed. -/
theorem configured_cases (supernet : String) (n : UInt64) (enabled : Bool) :
    (∃ net size, Configures supernet n enabled net size ∧
      configured supernet n enabled = .ok (Record.empty net size.toWord enabled)) ∨
    (∀ net size, ¬Configures supernet n enabled net size) ∧
      ∃ field message, configured supernet n enabled = .error (.malformed field message) := by
  rcases parseNetwork_cases "globalnetCIDRRange" supernet with
    ⟨net, hparsed, htruncated, hnet⟩ | ⟨hbad, message, hnet⟩
  · rcases BlockSize.ofAddresses_cases n with ⟨-, message, hsize⟩ | ⟨-, -, size, hsize⟩
    · refine .inr ⟨fun net' size' h => ?_, _, message, configured_of_no_size hnet hsize enabled⟩
      cases hsize.symm.trans h.rounded
    · cases enabled with
      | false =>
        exact .inl ⟨net, size, ⟨hparsed, htruncated, hsize, fun h => (nomatch h)⟩, configured_false hnet hsize⟩
      | true =>
        rcases size.capacity_cases net with ⟨k, hk, hpos, hfull⟩ | ⟨message, hk, hlt⟩
        · have hroom : size.addresses ≤ net.size := by
            rw [← hfull]
            exact Nat.le_mul_of_pos_left _ hpos
          refine .inl ⟨net, size, ⟨hparsed, htruncated, hsize, fun _ => hroom⟩, ?_⟩
          rw [configured_true hnet hsize, hk, Except.map]
        · refine .inr ⟨fun net' size' h => ?_, "globalnetClusterSize", message, ?_⟩
          · have hroom := h.room rfl
            obtain rfl : net = net' := Option.some.inj (hparsed.symm.trans h.parsed)
            obtain rfl : size = size' := Except.ok.inj (hsize.symm.trans h.rounded)
            omega
          · rw [configured_true hnet hsize, hk, Except.map, BlockSize.malformed]
  · refine .inr ⟨fun net size h => ?_, _, message, configured_of_no_network hnet enabled⟩
    have htruncated := h.truncated
    rw [hbad net h.parsed] at htruncated
    cases htruncated

theorem configured_of_configures {enabled : Bool} (h : Configures supernet n enabled net size) :
    configured supernet n enabled = .ok (Record.empty net size.toWord enabled) := by
  rcases configured_cases supernet n enabled with ⟨net', size', h', heq⟩ | ⟨hnone, -⟩
  · obtain rfl : net' = net := Option.some.inj (h'.parsed.symm.trans h.parsed)
    obtain rfl : size' = size := Except.ok.inj (h'.rounded.symm.trans h.rounded)
    exact heq
  · exact absurd h (hnone net size)

end Configured

/-! ### Establishing a ledger -/

/-- Establishing a ledger with a first record: the one that exists already is read and validated instead. -/
def establishing (record : Record) : Program Ledger.interface (Except Failure Record) :=
  .ask (I := Ledger.interface) (.create record) fun created : Except Failure Bool =>
    match created with
    | .error f => .done (.error f)
    | .ok true => .done (.ok record)
    | .ok false => .ask (I := Ledger.interface) .read fun found : Except Failure (Record × Version) =>
      match found with
      | .error f => .done (.error f)
      | .ok (r, _) => .done (r.validate.map fun _ => r)

/-- What is done once the arguments are known to be good does not depend on the flag. -/
private theorem toProgram_establishing (record : Record) : (do
    if ← Ledger.create record then
      return record
    let (existing, _) ← Ledger.read
    Task.ofExcept existing.validate
    return existing : Task Ledger.interface Record).toProgram = establishing record := by
  refine congrArg (Program.ask (I := Ledger.interface) _) (funext fun created => ?_)
  rcases created with f | created
  · rfl
  cases created with
  | true => rfl
  | false =>
    refine congrArg (Program.ask (I := Ledger.interface) _) (funext fun found => ?_)
    rcases found with f | ⟨r, v⟩
    · rfl
    · show (Task.ofExcept r.validate >>= fun _ => pure r).toProgram = Program.done (r.validate.map fun _ => r)
      cases r.validate <;> rfl

theorem establish_eq (supernet : String) (n : UInt64) (enabled : Bool) :
    (establish supernet n enabled).toProgram =
      match configured supernet n enabled with
      | .error f => .done (.error f)
      | .ok record => establishing record := by
  unfold establish configured
  cases enabled with
  | false =>
    cases parseNetwork "globalnetCIDRRange" supernet with
    | error f => rfl
    | ok net =>
      cases BlockSize.ofAddresses n with
      | error f => rfl
      | ok size => exact toProgram_establishing _
  | true =>
    cases validateSupernet supernet n with
    | error f => rfl
    | ok k =>
      cases parseNetwork "globalnetCIDRRange" supernet with
      | error f => rfl
      | ok net =>
        cases BlockSize.ofAddresses n with
        | error f => rfl
        | ok size => exact toProgram_establishing _

theorem run_establishing_absent {l : MemoryLedger} (h : l.stored = none) (record : Record) :
    (establishing record).run MemoryLedger.world l =
      (some (.ok record), { l with stored := some ⟨record.toData, 1⟩ }) := by
  rcases MemoryLedger.create_cases l record with ⟨-, hcreate⟩ | hcreate
  · simp only [establishing, Program.run, MemoryLedger.world, MemoryLedger.answer, hcreate]
  · simp [MemoryLedger.create, h] at hcreate

theorem run_establishing_stored {l : MemoryLedger} {s : Stored} (h : l.stored = some s) (record : Record) :
    (establishing record).run MemoryLedger.world l =
      (some ((Record.ofData s.data).bind fun r => r.validate.map fun _ => r), l) := by
  have hcreate : l.create record = (false, l) := by simp [MemoryLedger.create, h]
  have hread : l.read = (Record.ofData s.data).map fun r => (r, MemoryLedger.versionOf s.revision) := by
    simp [MemoryLedger.read, h]
  simp only [establishing, Program.run, MemoryLedger.world, MemoryLedger.answer, hcreate, hread]
  cases Record.ofData s.data <;> rfl

section Validated

variable {found : Except Failure Record} {r : Record} {f : Failure}

theorem validated_eq_ok_iff :
    (found.bind fun r => r.validate.map fun _ => r) = .ok r ↔ found = .ok r ∧ r.validate = .ok () := by
  constructor
  · intro h
    obtain ⟨r', rfl, hreturn⟩ := bind_eq_ok_cases h
    cases hvalid : r'.validate with
    | error f =>
      rw [hvalid] at hreturn
      cases hreturn
    | ok u =>
      rw [hvalid] at hreturn
      cases hreturn
      exact ⟨rfl, hvalid⟩
  · rintro ⟨rfl, hvalid⟩
    show (r.validate.map fun _ => r) = .ok r
    rw [hvalid, Except.map]

theorem validated_eq_error_iff :
    (found.bind fun r => r.validate.map fun _ => r) = .error f ↔
      found = .error f ∨ ∃ r, found = .ok r ∧ r.validate = .error f := by
  constructor
  · intro h
    rcases bind_eq_error_cases h with hfound | ⟨r, rfl, hreturn⟩
    · exact .inl hfound
    · cases hvalid : r.validate with
      | error f' =>
        rw [hvalid] at hreturn
        cases hreturn
        exact .inr ⟨r, rfl, hvalid⟩
      | ok u =>
        rw [hvalid] at hreturn
        cases hreturn
  · rintro (rfl | ⟨r, rfl, hvalid⟩)
    · rfl
    · show (r.validate.map fun _ => r) = .error f
      rw [hvalid, Except.map]

end Validated

/-! ### Requests -/

/-- Establishing a ledger reads it, or creates it without entries. -/
theorem Allocator.establish_requests (supernet : String) (n : UInt64) (enabled : Bool) :
    (establish supernet n enabled).toProgram.Requests (I := Ledger.interface) fun query : Ledger.Query =>
      query = .read ∨ ∃ record, query = .create record ∧ record.entries = [] := by
  rw [establish_eq]
  rcases configured_cases supernet n enabled with ⟨net, size, -, hconfigured⟩ | ⟨-, field, message, hconfigured⟩
  · rw [hconfigured]
    refine .ask (.inr ⟨_, rfl, rfl⟩) fun created => ?_
    rcases created with f | created
    · exact .done _
    cases created with
    | true => exact .done _
    | false =>
      refine .ask (.inl rfl) fun found => ?_
      rcases found with f | ⟨r, v⟩
      · exact .done _
      · exact .done _
  · rw [hconfigured]
    exact .done _

theorem Allocator.finishes_establish (supernet : String) (n : UInt64) (enabled : Bool) :
    (establish supernet n enabled).toProgram.Finishes := by
  rw [establish_eq]
  cases configured supernet n enabled with
  | error f => exact .done _
  | ok record =>
    refine .ask fun created => ?_
    rcases created with f | created
    · exact .done _
    cases created with
    | true => exact .done _
    | false =>
      refine .ask fun found => ?_
      rcases found with f | ⟨r, v⟩
      · exact .done _
      · exact .done _

end MultiCluster
