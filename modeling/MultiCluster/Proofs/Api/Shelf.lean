import MultiCluster.Proofs.Api.Server
import MultiCluster.Proofs.Ledger.Contents

/-!
# A server with one object

A server that keeps a single configuration map, whatever its name is, and counts the versions. Main statement:
`optimistic`, it obeys the laws of a server with optimistic concurrency.
-/

namespace MultiCluster.Api

/-- A configuration map, and the number of versions that it has had. -/
structure Shelf where
  object : Option ConfigMap
  count : Nat
  numbered : ∀ o, object = some o → ∃ n ≤ count, o.metadata.resourceVersion = some (toString n)

namespace Shelf

def absent : ApiFailure := .status "Failure" "not found" "NotFound" 404

def conflict (reason : String) : ApiFailure := .status "Failure" "conflict" reason 409

def empty : Shelf where
  object := none
  count := 0
  numbered _ h := by cases h

/-- Stores an object under the next version. -/
def put (b : Shelf) (o : ConfigMap) : Shelf where
  object := some (o.stamped (toString (b.count + 1)))
  count := b.count + 1
  numbered _ h := ⟨b.count + 1, Nat.le_refl _, by cases h; rfl⟩

def get (b : Shelf) : Except ApiFailure ConfigMap :=
  match b.object with
  | some o => .ok o
  | none => .error absent

def create (b : Shelf) (sent : ConfigMap) : Except ApiFailure Unit × Shelf :=
  match b.object with
  | some _ => (.error (conflict "AlreadyExists"), b)
  | none => (.ok (), b.put sent)

def replace (b : Shelf) (sent : ConfigMap) : Except ApiFailure Unit × Shelf :=
  match b.object with
  | none => (.error absent, b)
  | some o =>
    if o.metadata.resourceVersion = sent.metadata.resourceVersion then (.ok (), b.put sent)
    else (.error (conflict "Conflict"), b)

def answer : (q : Call) → Shelf → Except ApiFailure q.Result × Shelf
  | .configMap _ _, b => (b.get, b)
  | .createConfigMap _ sent, b => b.create sent
  | .replaceConfigMap _ _ sent, b => b.replace sent
  | _, b => (.error absent, b)

def server : Server Shelf where
  world := { answer := answer }
  object := Shelf.object
  issued b token := ∃ n ≤ b.count, token = toString n

variable (b : Shelf) (sent : ConfigMap)

private theorem not_issued_next : ¬ server.issued b (toString (b.count + 1)) := by
  rintro ⟨n, hn, heq⟩
  have hcount : b.count + 1 = n := MemoryLedger.versionOf_injective (congrArg Version.mk heq)
  omega

private theorem evolves_put : server.Evolves b (b.put sent) where
  issued token := by
    rintro ⟨n, hn, rfl⟩
    exact ⟨n, Nat.le_succ_of_le hn, rfl⟩
  object o ho := by
    cases ho
    exact .inr ⟨_, rfl, b.not_issued_next, b.count + 1, Nat.le_refl _, rfl⟩

private theorem get_of_none (h : b.object = none) : b.get = .error absent := by
  simp only [get, h]

private theorem get_of_some {o : ConfigMap} (h : b.object = some o) : b.get = .ok o := by
  simp only [get, h]

private theorem create_of_none (h : b.object = none) : b.create sent = (.ok (), b.put sent) := by
  rw [create, h]

private theorem create_of_some {o : ConfigMap} (h : b.object = some o) :
    b.create sent = (.error (conflict "AlreadyExists"), b) := by
  rw [create, h]

private theorem replace_of_none (h : b.object = none) : b.replace sent = (.error absent, b) := by
  rw [replace, h]

private theorem replace_of_eq {o : ConfigMap} (h : b.object = some o)
    (heq : o.metadata.resourceVersion = sent.metadata.resourceVersion) : b.replace sent = (.ok (), b.put sent) := by
  simp only [replace, h, heq, ↓reduceIte]

private theorem replace_of_ne {o : ConfigMap} (h : b.object = some o)
    (hne : o.metadata.resourceVersion ≠ sent.metadata.resourceVersion) :
    b.replace sent = (.error (conflict "Conflict"), b) := by
  simp only [replace, h, hne, ↓reduceIte]

/-- A request stores an object, or it changes nothing. -/
private theorem answer_cases (q : Call) :
    (∃ reply sent, answer q b = (.ok reply, b.put sent)) ∨ (answer q b).2 = b := by
  cases q with
  | createConfigMap space sent =>
    cases h : b.object with
    | none => exact .inl ⟨(), sent, create_of_none b sent h⟩
    | some o => exact .inr (congrArg Prod.snd (create_of_some b sent h))
  | replaceConfigMap space name sent =>
    cases h : b.object with
    | none => exact .inr (congrArg Prod.snd (replace_of_none b sent h))
    | some o =>
      by_cases heq : o.metadata.resourceVersion = sent.metadata.resourceVersion
      · exact .inl ⟨(), sent, replace_of_eq b sent h heq⟩
      · exact .inr (congrArg Prod.snd (replace_of_ne b sent h heq))
  | _ => exact .inr rfl

theorem versioned (space : String) : server.Versioned space where
  current {b o} ho := by
    obtain ⟨n, hn, hversion⟩ := b.numbered o ho
    exact ⟨_, hversion, n, hn, rfl⟩
  answer q b := by
    change server.Evolves b (Shelf.answer q b).2
    rcases b.answer_cases q with ⟨reply, sent, hput⟩ | hsame
    · rw [hput]
      exact b.evolves_put sent
    · rw [hsame]
      exact .refl server b
  rest _ b := .refl server b
  refused {q b e} he := by
    change (Shelf.answer q b).1 = _ at he
    change (Shelf.answer q b).2.object = b.object
    rcases b.answer_cases q with ⟨reply, sent, hput⟩ | hsame
    · rw [hput] at he
      cases he
    · rw [hsame]
  get {b o} ho := by
    change b.get = _ at ho
    cases h : b.object with
    | none =>
      rw [b.get_of_none h] at ho
      cases ho
    | some o' =>
      rw [b.get_of_some h] at ho
      cases ho
      exact ⟨h, h⟩
  replace {b sent token} htoken hok := by
    change (b.replace sent).1 = _ at hok
    cases h : b.object with
    | none =>
      rw [replace_of_none b sent h] at hok
      cases hok
    | some o =>
      by_cases heq : o.metadata.resourceVersion = sent.metadata.resourceVersion
      · refine ⟨o, _, h, heq.trans htoken, b.not_issued_next, ?_⟩
        change (b.replace sent).2.object = _
        rw [replace_of_eq b sent h heq]
        rfl
      · rw [replace_of_ne b sent h heq] at hok
        cases hok

theorem optimistic (space : String) : server.Optimistic space where
  toVersioned := versioned space
  get_absent {b} h := ⟨absent, b.get_of_none h, rfl, rfl⟩
  get_present {b o} h := b.get_of_some h
  create_absent {b} sent h _ := by
    have hcreate : b.create sent = (.ok (), b.put sent) := create_of_none b sent h
    have hobject : (b.create sent).2.object = some (sent.stamped (toString (b.count + 1))) := by
      rw [hcreate]
      rfl
    exact ⟨congrArg Prod.fst hcreate, _, _, hobject, rfl, rfl⟩
  create_present {b o} sent h _ :=
    ⟨_, congrArg Prod.fst (create_of_some b sent h), rfl⟩
  replace_absent {b} sent h :=
    ⟨_, congrArg Prod.fst (replace_of_none b sent h), rfl⟩
  replace_current {b o token} sent h hcurrent hsent :=
    congrArg Prod.fst (replace_of_eq b sent h (hcurrent.trans hsent.symm))
  replace_stale {b o token} sent h hstale hsent :=
    ⟨_, congrArg Prod.fst (replace_of_ne b sent h fun heq => hstale (heq.trans hsent)), rfl⟩

end Shelf

end MultiCluster.Api
