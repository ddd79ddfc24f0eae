import MultiCluster.Ledger.Record
import MultiCluster.Program

/-!
# Ledgers

A ledger stores one record together with a version. A write names the version of the record it was decided on and
fails with a conflict if that version is no longer the current one, so that of several writers who decided on the
same version only one succeeds.
-/

namespace MultiCluster

/-- Names one revision of a ledger. -/
structure Version where
  token : String
  deriving DecidableEq, Repr, Inhabited

namespace Ledger

/-- The name of the object in which the record is stored. -/
def objectName : String := "submariner-globalnet-info"

/-- What a client may ask of a ledger. -/
inductive Query where
  /-- Stores a first record; the answer is whether there was none. -/
  | create (record : Record)
  | read
  /-- Replaces the record if the version is the current one. -/
  | writeIfUnchanged (record : Record) (expected : Version)

/-- The answer to a request that succeeds. -/
def Query.Result : Query → Type
  | create _ => Bool
  | read => Record × Version
  | writeIfUnchanged _ _ => Unit

/-- The requests to a ledger. -/
def interface : Interface where
  Query := Query
  Reply q := Except Failure q.Result

/-- Makes a request to the ledger. -/
def ask (q : Query) : Task interface q.Result :=
  Task.ofProgram (Program.request (I := interface) q)

/-- Stores a first record; returns whether there was none. -/
def create (record : Record) : Task interface Bool :=
  ask (.create record)

/-- The current record and its version. -/
def read : Task interface (Record × Version) :=
  ask .read

/-- Replaces the record if the version is the current one. -/
def writeIfUnchanged (record : Record) (expected : Version) : Task interface Unit :=
  ask (.writeIfUnchanged record expected)

end Ledger

end MultiCluster
