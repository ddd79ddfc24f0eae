import MultiCluster.Join.Attempt
import MultiCluster.Replay.Cluster
import MultiCluster.Replay.Ledger
import MultiCluster.Replay.Script

/-!
# Described collaborators

The collaborators of a join attempt, given by what they answer, together with what they were asked.
-/

namespace MultiCluster.Replay

/-- The collaborators of an attempt. -/
structure Collaborators where
  cluster : LoggedCluster
  requirements : Except Failure (List String) := .ok []
  ledger : ContendedLedger
  /-- The answers to the requests for the credential. -/
  credentials : Script (Except Failure (Option Credential))
  /-- What becomes of a registration. -/
  registrar : Except Failure Unit := .ok ()
  /-- How often the credential was asked for. -/
  polls : Nat := 0
  /-- For which identity it was asked for last. -/
  identity : Option String := none
  /-- What was to be registered. -/
  registered : List (ResolvedNetwork × Credential) := []

/-- The answer of the collaborators to a request. -/
def Collaborators.answer : (q : Join.Query) → Collaborators → q.Reply × Collaborators
  | .cluster q, c =>
    let (r, s) := LoggedCluster.world.answer q c.cluster
    (r, { c with cluster := s })
  | .requirements, c => (c.requirements, c)
  | .ledger q, c =>
    let (r, s) := c.ledger.answer q
    (r, { c with ledger := s })
  | .credential (.fetch identity), c =>
    (c.credentials.entry (.ok none) c.polls, { c with polls := c.polls + 1, identity := some identity })
  | .register network credential, c =>
    (c.registrar, { c with registered := c.registered ++ [(network, credential)] })

/-- The collaborators as the world of an attempt. -/
def Collaborators.world : Program.World Join.interface Collaborators where
  answer q c := c.answer q

end MultiCluster.Replay
