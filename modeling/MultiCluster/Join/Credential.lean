import MultiCluster.Object.Secret
import MultiCluster.Timing.Retry

/-!
# Credentials

The broker issues a token for every cluster, in a secret of its own. The secret is filled some time after it was
made, so a joining cluster waits for it.
-/

namespace MultiCluster

/-- A token for the broker, and the certificate of its endpoint. -/
structure Credential where
  /-- Whom the token was issued for. -/
  identity : String
  token : String
  ca : Bytes
  deriving DecidableEq

namespace Credential

/-- The identity of a cluster at the broker. -/
def identityOf (cluster : String) : String :=
  "cluster-" ++ cluster

/-- A line about a credential that does not reveal the token. -/
def redacted (c : Credential) : String :=
  "Credential \x7b identity: " ++ Text.quoted c.identity ++ ", token: \"<redacted>\", ca_bytes: " ++
    toString c.ca.length ++ " \x7d"

/-- The annotation that names the account of a secret. -/
def accountAnnotation : String := "kubernetes.io/service-account.name"

/-- Whether a secret belongs to an identity. -/
def isIssuedTo (s : Secret) (identity : String) : Bool :=
  s.metadata.annotation? accountAnnotation == some identity

/-- The credential that a secret holds, if it is filled: its token must be a text that is not empty. -/
def ofSecret? (identity : String) (s : Secret) : Option Credential := do
  let token ← (← s.get? "token").toText?
  if token = "" then none
  else some { identity, token, ca := (s.get? "ca.crt").getD [] }

/-- The credential of an identity in a list of secrets: the first that is filled of those that belong to it. -/
def ofSecrets? (identity : String) (secrets : List Secret) : Option Credential :=
  (secrets.filter fun s => isIssuedTo s identity).findSome? (ofSecret? identity)

/-- Where credentials come from. -/
inductive Query where
  | fetch (identity : String)
  deriving DecidableEq, Repr

/-- The requests for credentials; none is the answer while the credential is not issued. -/
def interface : Interface where
  Query := Query
  Reply _ := Except Failure (Option Credential)

/-- The credential of an identity, if it is issued. -/
def fetch (identity : String) : Task interface (Option Credential) :=
  Task.ofProgram (Program.request (I := interface) (.fetch identity))

/-- Takes a missing object for a credential that is not issued yet. -/
def unlessNotFound : Except Failure (Option Credential) → Except Failure (Option Credential)
  | .error e => if e.isNotFound then .ok none else .error e
  | found => found

/-- Waits for the credential of an identity. -/
def wait (b : Backoff) (identity : String) : Task interface Credential :=
  b.waitFor ("credential for " ++ identity)
    (Task.ofProgram ((fetch identity).toProgram.bind fun r => .done (unlessNotFound r)))

end Credential

end MultiCluster
