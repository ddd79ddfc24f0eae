import MultiCluster.Ledger.Memory

/-!
# A ledger with other writers

A ledger in memory on which, while one client works, other writers act and requests fail as scripted. The writers
before the client's n-th conditional write each read the record, assign one block, and write it back.
-/

namespace MultiCluster.Replay

/-- A block that another writer assigns. -/
structure Assignment where
  cluster : String
  block : Network
  plugin : Option String := none

/-- What happens on a ledger while a client works, by the number of the client's own reads and conditional
writes, counted from zero. -/
structure Interference where
  rivals : List (List Assignment) := []
  readFailures : List (Option Failure) := []
  writeFailures : List (Option Failure) := []

/-- A ledger in memory under interference. -/
structure ContendedLedger where
  ledger : MemoryLedger
  interference : Interference := {}
  reads : Nat := 0
  writes : Nat := 0

/-- Another writer's change of a ledger. -/
def Assignment.apply (l : MemoryLedger) (a : Assignment) : MemoryLedger :=
  match l.read with
  | .error _ => l
  | .ok (record, version) => (l.writeIfUnchanged (record.assign a.cluster a.block a.plugin) version).2

namespace ContendedLedger

/-- Answers a request of the client. -/
def answer : (q : Ledger.Query) → ContendedLedger → Except Failure q.Result × ContendedLedger
  | .create record, c =>
    let (created, l) := c.ledger.create record
    (.ok created, { c with ledger := l })
  | .read, c =>
    let result := match (c.interference.readFailures[c.reads]?).join with
      | some e => .error e
      | none => c.ledger.read
    (result, { c with reads := c.reads + 1 })
  | .writeIfUnchanged record expected, c =>
    let l := ((c.interference.rivals[c.writes]?).getD []).foldl Assignment.apply c.ledger
    let (result, l) := match (c.interference.writeFailures[c.writes]?).join with
      | some e => (.error e, l)
      | none => l.writeIfUnchanged record expected
    (result, { c with ledger := l, writes := c.writes + 1 })

/-- The ledger as a world for its client. -/
def world : Program.World Ledger.interface ContendedLedger where
  answer q c := answer q c

end ContendedLedger

end MultiCluster.Replay
