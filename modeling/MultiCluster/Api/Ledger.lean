import MultiCluster.Api.Call
import MultiCluster.Ledger.Codec
import MultiCluster.Ledger.Store

/-!
# The ledger on an API server

The record is kept in a configuration map, and the version is the one that the server gives the object. A write
fetches the object, lays the four keys of the record over its data, and replaces it under the version that the
record was decided on. What others keep in the object stays there.
-/

namespace MultiCluster.Api.LedgerClient

/-- The name of the ledger in a namespace. -/
def ledgerName (space : String) : String :=
  space ++ "/" ++ Ledger.objectName

/-- The failure of a request to a ledger that does not exist. -/
def notFound (space : String) : Failure := .notFound "ConfigMap" (ledgerName space)

/-- The label that marks the object. -/
def labelKey : String := "component"

/-- The value of the label that marks the object. -/
def labelValue : String := "submariner-globalnet"

/-- The object that holds a first record. -/
def newObject (space : String) (record : Record) : ConfigMap where
  metadata :=
    { name := some Ledger.objectName, space := some space,
      labels := some (TextMap.empty.insert labelKey labelValue) }
  data := some record.toData

/-- An object with a record laid over its data, under the version that the record was decided on. -/
def overlay (stored : ConfigMap) (record : Record) (expected : Version) : ConfigMap :=
  { stored with
    metadata :=
      { stored.metadata with
        labels := some ((stored.metadata.labels.getD .empty).insert labelKey labelValue)
        resourceVersion := some expected.token }
    data := some ((stored.data.getD .empty).insertAll record.toData) }

/-- What a failed creation means: a conflict says that the object exists. -/
def created : Except ApiFailure Unit → Except Failure Bool
  | .ok () => .ok true
  | .error e => if e.code? = some 409 then .ok false else .error (.kubernetes e)

/-- What a failed replacement means. -/
def replaced (space : String) : Except ApiFailure Unit → Except Failure Unit
  | .ok () => .ok ()
  | .error e =>
    if e.code? = some 409 then .error (.conflict (ledgerName space))
    else if e.code? = some 404 then .error (notFound space)
    else .error (.kubernetes e)

/-- Stores a first record; returns whether there was none. -/
def create (space : String) (record : Record) : Task interface Bool :=
  Task.ofProgram ((request (.createConfigMap space (newObject space record))).bind fun r => .done (created r))

/-- The object that holds the record. -/
def fetch (space : String) : Task interface ConfigMap := do
  match ← lookup (.configMap space Ledger.objectName) with
  | some object => return object
  | none => throw (notFound space)

/-- The current record and its version. -/
def read (space : String) : Task interface (Record × Version) := do
  let object : ConfigMap ← fetch space
  match object.metadata.resourceVersion with
  | none => throw (.internal "ledger" (ledgerName space ++ " has no resourceVersion"))
  | some token =>
    let record ← Task.ofExcept (Record.ofData (object.data.getD .empty))
    return (record, ⟨token⟩)

/-- Replaces the record if the version is the current one. -/
def writeIfUnchanged (space : String) (record : Record) (expected : Version) : Task interface Unit := do
  let stored ← fetch space
  Task.ofProgram ((request (.replaceConfigMap space Ledger.objectName (overlay stored record expected))).bind
    fun r => .done (replaced space r))

/-- Answers a request to the ledger of a namespace. -/
def answer (space : String) : (q : Ledger.Query) → Program interface (Except Failure q.Result)
  | .create record => (create space record).toProgram
  | .read => (read space).toProgram
  | .writeIfUnchanged record expected => (writeIfUnchanged space record expected).toProgram

/-- A task on the ledger of a namespace. -/
def onLedger (space : String) (t : Task Ledger.interface α) : Task interface α :=
  Task.ofProgram (t.toProgram.interpret (answer space))

end MultiCluster.Api.LedgerClient
