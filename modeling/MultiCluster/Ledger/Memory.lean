import MultiCluster.Ledger.Codec
import MultiCluster.Ledger.Store

/-!
# The ledger in memory

The record is kept in its stored form, and the version is the decimal text of a counter that starts at one.

Revisions and the numbers of writes and conflicts are unbounded here. Where revisions have 64 bits and the two numbers
32, nothing differs in a run of fewer than `2 ^ 32` requests: each request adds at most one to each of the three.
-/

namespace MultiCluster

/-- A stored record and the number of its revision. -/
structure Stored where
  data : TextMap
  revision : Nat

/-- A ledger in memory, with the number of its successful and of its conflicting writes. -/
structure MemoryLedger where
  stored : Option Stored := none
  writes : Nat := 0
  conflicts : Nat := 0

namespace MemoryLedger

/-- The name of the ledger. -/
def name : String := "memory/" ++ Ledger.objectName

/-- The ledger that does not exist yet. -/
def absent : MemoryLedger := {}

/-- The ledger that holds a record at its first revision. -/
def holding (record : Record) : MemoryLedger :=
  { stored := some { data := record.toData, revision := 1 } }

/-- The version of a revision. -/
def versionOf (revision : Nat) : Version := ⟨toString revision⟩

/-- The failure of a request to a ledger that does not exist. -/
def notFound : Failure := .notFound "ledger" name

/-- Stores a first record. -/
def create (l : MemoryLedger) (record : Record) : Bool × MemoryLedger :=
  match l.stored with
  | some _ => (false, l)
  | none => (true, { l with stored := some { data := record.toData, revision := 1 } })

/-- The current record and its version. -/
def read (l : MemoryLedger) : Except Failure (Record × Version) :=
  match l.stored with
  | none => .error notFound
  | some s => (Record.ofData s.data).map fun r => (r, versionOf s.revision)

/-- Replaces the record if the version is the current one. -/
def writeIfUnchanged (l : MemoryLedger) (record : Record) (expected : Version) :
    Except Failure Unit × MemoryLedger :=
  match l.stored with
  | none => (.error notFound, l)
  | some s =>
    if versionOf s.revision = expected then
      (.ok (), { l with stored := some { data := record.toData, revision := s.revision + 1 }, writes := l.writes + 1 })
    else (.error (.conflict name), { l with conflicts := l.conflicts + 1 })

/-- Answers a request. -/
def answer : (q : Ledger.Query) → MemoryLedger → Except Failure q.Result × MemoryLedger
  | .create record, l => let (created, l) := l.create record; (.ok created, l)
  | .read, l => (l.read, l)
  | .writeIfUnchanged record expected, l => l.writeIfUnchanged record expected

/-- The stored record, if there is one. -/
def snapshot (l : MemoryLedger) : Except Failure (Option Record) :=
  match l.stored with
  | none => .ok none
  | some s => (Record.ofData s.data).map some

/-- The ledger as a world for its clients. -/
def world : Program.World Ledger.interface MemoryLedger where
  answer q l := answer q l

end MemoryLedger

end MultiCluster
