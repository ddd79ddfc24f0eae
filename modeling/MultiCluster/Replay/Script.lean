import MultiCluster.Program

/-!
# Scripts

A script answers the requests of one kind in the order in which they are made, and repeats its last answer. An
operation that makes one kind of request runs against a script with a clock of milliseconds, on which each pause
takes the shortest time that it may take.
-/

namespace MultiCluster.Replay

/-- The answers to successive requests. -/
structure Script (α : Type) where
  entries : List α

namespace Script

variable {α : Type}

/-- The answer to the request with a number, counted from zero. -/
def entry (s : Script α) (default : α) (n : Nat) : α :=
  (s.entries[n]?).getD (s.entries.getLast?.getD default)

end Script

/-- Requests of one kind. -/
def polling (α : Type) : Interface where
  Query := Unit
  Reply _ := α

/-- The one request. -/
def poll (α : Type) : Program (polling α) α :=
  Program.request (I := polling α) ()

/-- How far a scripted run has come. -/
structure Run (α : Type) where
  script : Script α
  default : α
  /-- The time of each request, latest first. -/
  times : List Nat := []
  /-- The milliseconds since the start. -/
  clock : Nat := 0

/-- A script as the world of an operation. -/
def Run.world (α : Type) : Program.World (polling α) (Run α) where
  answer _ s := (s.script.entry s.default s.times.length, { s with times := s.clock :: s.times })
  rest p s := { s with clock := s.clock + p.shortest.ceilMillis }

end MultiCluster.Replay
