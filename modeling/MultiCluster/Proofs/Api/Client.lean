import MultiCluster.Api.Ledger
import MultiCluster.Proofs.Ledger.StoredForm

/-!
# The requests of a ledger's client

A client of a ledger on an API server makes one request to store a first record or to read, and two to write: it
fetches the object, and then it replaces it by one with the new record laid over it.

Main statements: `toProgram_read` and `toProgram_writeIfUnchanged`, which requests are made and what the answers mean,
and `laidOver_overlay`, what an accepted replacement changes.
-/

namespace MultiCluster

/-- An object under a version. -/
def ConfigMap.stamped (o : ConfigMap) (token : String) : ConfigMap :=
  { o with metadata := { o.metadata with resourceVersion := some token } }

namespace Api.LedgerClient

/-! ### The programs -/

abbrev getCall (space : String) : Call := .configMap space Ledger.objectName

abbrev replaceCall (space : String) (sent : ConfigMap) : Call := .replaceConfigMap space Ledger.objectName sent

/-- What the answer to the request for the object means. -/
def fetched (space : String) : Except ApiFailure ConfigMap → Except Failure ConfigMap
  | .ok o => .ok o
  | .error e => .error (if e.isAbsent then notFound space else .kubernetes e)

/-- The record in an object, and its version. -/
def decoded (space : String) (o : ConfigMap) : Except Failure (Record × Version) :=
  match o.metadata.resourceVersion with
  | none => .error (.internal "ledger" (ledgerName space ++ " has no resourceVersion"))
  | some token => (Record.ofData (o.data.getD .empty)).map fun r => (r, ⟨token⟩)

theorem toProgram_create (space : String) (record : Record) :
    (create space record).toProgram = .ask (.createConfigMap space (newObject space record)) fun reply =>
      .done (created reply) := rfl

private theorem toProgram_fetch (space : String) :
    (fetch space).toProgram = .ask (getCall space) fun reply => .done (fetched space reply) := by
  rw [fetch, Task.toProgram_bind]
  refine congrArg (Program.ask (I := interface) _) (funext fun reply => ?_)
  cases reply with
  | ok o => rfl
  | error e =>
    cases habsent : e.isAbsent with
    | true =>
      simp only [fetched, toOption, toFailure, habsent, Program.bind, ↓reduceIte]
      rfl
    | false =>
      simp only [fetched, toOption, toFailure, habsent, Program.bind, Bool.false_eq_true, ↓reduceIte]

theorem toProgram_read (space : String) :
    (read space).toProgram = .ask (getCall space) fun reply =>
      .done ((fetched space reply).bind (decoded space)) := by
  rw [read, Task.toProgram_bind, toProgram_fetch]
  refine congrArg (Program.ask (I := interface) _) (funext fun reply => ?_)
  change (Program.done (fetched space reply)).bind _ = _
  cases fetched space reply with
  | error f => rfl
  | ok o =>
    simp only [Program.bind, Except.bind, decoded]
    cases o.metadata.resourceVersion with
    | none => rfl
    | some token =>
      rw [Task.toProgram_bind]
      cases Record.ofData (o.data.getD .empty) <;> rfl

theorem toProgram_writeIfUnchanged (space : String) (record : Record) (v : Version) :
    (writeIfUnchanged space record v).toProgram = .ask (getCall space) fun reply =>
      match fetched space reply with
      | .ok o => .ask (replaceCall space (overlay o record v)) fun reply =>
        .done (replaced space reply)
      | .error f => .done (.error f) := by
  rw [writeIfUnchanged, Task.toProgram_bind, toProgram_fetch]
  refine congrArg (Program.ask (I := interface) _) (funext fun reply => ?_)
  change (Program.done (fetched space reply)).bind _ = _
  cases fetched space reply <;> rfl

/-- A read succeeds with the record of the object that was fetched, under the version of that object. -/
theorem decoded_eq_ok_iff {space : String} {o : ConfigMap} {r : Record} {v : Version} :
    decoded space o = .ok (r, v) ↔
      o.metadata.resourceVersion = some v.token ∧ Record.ofData (o.data.getD .empty) = .ok r := by
  cases htoken : o.metadata.resourceVersion with
  | none => simp [decoded, htoken]
  | some token =>
    cases hdata : Record.ofData (o.data.getD .empty) with
    | error f => simp [decoded, htoken, hdata, Except.map]
    | ok r' =>
      simp only [decoded, htoken, hdata, Except.map, Except.ok.injEq, Prod.mk.injEq, Option.some.injEq]
      constructor
      · rintro ⟨rfl, rfl⟩
        exact ⟨rfl, rfl⟩
      · rintro ⟨rfl, rfl⟩
        exact ⟨rfl, rfl⟩

/-! ### What a write changes -/

/-- An object with a record laid over it: it holds the record and has the label of a ledger, and nothing else than
these and the version is other than before. -/
structure LaidOver (record : Record) (before after : ConfigMap) : Prop where
  record : Record.ofData (after.data.getD .empty) = .ok record
  data : ∀ key ∉ Record.keys, after.get? key = before.get? key
  labels : ∀ key, after.metadata.label? key = if key = labelKey then some labelValue else before.metadata.label? key
  metadata : after.metadata = { before.metadata with
    labels := after.metadata.labels, resourceVersion := after.metadata.resourceVersion }
  binaryData : after.binaryData = before.binaryData
  immutable : after.immutable = before.immutable

private theorem get?_overlay (stored : ConfigMap) (record : Record) (v : Version) (key : String) :
    (overlay stored record v).get? key = (record.toData.get? key).or (stored.get? key) := by
  have hnodup : (record.toData.pairs.map Prod.fst).Nodup := by
    rw [Record.map_fst_toData]
    decide
  rw [ConfigMap.get?_eq_get?_getD stored, ← TextMap.get?_insertAll _ hnodup]
  rfl

theorem ofData_overlay (stored : ConfigMap) (record : Record) (v : Version) :
    Record.ofData ((overlay stored record v).data.getD .empty) = .ok record := by
  rw [← Record.ofData_toData record]
  refine Record.ofData_congr fun key hkey => ?_
  obtain ⟨value, hvalue⟩ := Option.isSome_iff_exists.mp (Record.contains_toData.mpr hkey)
  have hget := get?_overlay stored record v key
  rw [hvalue, Option.some_or] at hget
  rw [hvalue]
  exact hget

private theorem label?_overlay (stored : ConfigMap) (record : Record) (v : Version) (key : String) :
    (overlay stored record v).metadata.label? key =
      if key = labelKey then some labelValue else stored.metadata.label? key := by
  rw [Metadata.label?_eq_get?_getD stored.metadata, ← TextMap.get?_insert]
  rfl

/-- What an accepted replacement changes, whatever version the object gets. -/
theorem laidOver_overlay (stored : ConfigMap) (record : Record) (v : Version) (token : String) :
    LaidOver record stored ((overlay stored record v).stamped token) where
  record := ofData_overlay stored record v
  data key hkey := by
    have hnone : record.toData.get? key = none := by
      rw [← Option.not_isSome_iff_eq_none]
      exact fun h => hkey (Record.contains_toData.mp h)
    have hget := get?_overlay stored record v key
    rw [hnone, Option.none_or] at hget
    exact hget
  labels := label?_overlay stored record v
  metadata := rfl
  binaryData := rfl
  immutable := rfl

end Api.LedgerClient

end MultiCluster
