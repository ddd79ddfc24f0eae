import MultiCluster.Proofs.Api.Shelf

/-!
# The two ledgers answer alike

A ledger in memory counts its revisions, and a ledger on an API server has the versions that the server gives. A
client cannot tell them apart, as long as nobody else changes the object and every version that it writes under comes
from one of its reads: it gets the same answers, and the versions of two reads are equal in one ledger if and only if
they are equal in the other. Main statement: `ledgers_agree`.
-/

namespace MultiCluster

/-! ### A client that cannot make up versions -/

namespace Ledger

/-- A call of a client. A version to write under is named by the number of the read that returned it, counted from
zero. -/
inductive Move where
  | create (record : Record)
  | read
  | write (record : Record) (source : Nat)

/-- What a client sees of an answer, apart from versions. -/
inductive Seen where
  | created (first : Bool)
  | got (record : Record)
  | written
  | failed (kind : String)
  deriving DecidableEq

/-- What a client has seen, and the versions that its reads returned. -/
structure Transcript where
  seen : List Seen := []
  versions : List Version := []

namespace Transcript

def add (t : Transcript) (o : Seen) : Transcript := { t with seen := t.seen ++ [o] }

def note (t : Transcript) : (q : Query) → Except Failure q.Result → Transcript
  | .create _, .ok first => t.add (.created first)
  | .read, .ok (record, version) => { t.add (.got record) with versions := t.versions ++ [version] }
  | .writeIfUnchanged _ _, .ok () => t.add .written
  | _, .error f => t.add (.failed f.kind)

end Transcript

/-- The request of a call. There is none if the call names a read that has not succeeded. -/
def Move.query? (t : Transcript) : Move → Option Query
  | .create record => some (.create record)
  | .read => some .read
  | .write record source => t.versions[source]?.map (.writeIfUnchanged record)

/-- The client that makes some calls. -/
def play : List Move → Transcript → Program interface Transcript
  | [], t => .done t
  | m :: ms, t =>
    match m.query? t with
    | some q => .ask q fun reply => play ms (t.note q reply)
    | none => play ms t

private theorem run_play_nil (t : Transcript) (l : MemoryLedger) :
    (play [] t).run MemoryLedger.world l = (some t, l) := rfl

private theorem run_play_cons (m : Move) (ms : List Move) (t : Transcript) (l : MemoryLedger) :
    (play (m :: ms) t).run MemoryLedger.world l =
      match m.query? t with
      | some q => (play ms (t.note q (MemoryLedger.answer q l).1)).run MemoryLedger.world (MemoryLedger.answer q l).2
      | none => (play ms t).run MemoryLedger.world l := by
  rw [play]
  split <;> rfl

end Ledger

/-! ### A client of a server that nobody else uses -/

namespace Api.LedgerClient

variable {σ : Type} {srv : Server σ} {space : String} {s : σ} {o : ConfigMap} {record : Record} {v : Version}

private theorem run_read_absent (h : srv.Optimistic space) (hs : srv.object s = none) :
    ∃ s', (read space).toProgram.run srv.world s = (some (.error (notFound space)), s') ∧ srv.object s' = none := by
  obtain ⟨e, he, -, habsent⟩ := h.get_absent hs
  refine ⟨_, ?_, (h.refused he).trans hs⟩
  simp only [toProgram_read, Server.run_ask, he, Server.run_done, fetched, habsent, ↓reduceIte, Except.bind]

private theorem run_read_present (h : srv.Optimistic space) (ho : srv.object s = some o) :
    ∃ s', (read space).toProgram.run srv.world s = (some (decoded space o), s') ∧ srv.Evolves s s' ∧
      srv.object s' = some o := by
  have hget := h.get_present ho
  refine ⟨_, ?_, h.answer _ s, (h.get hget).2⟩
  simp only [toProgram_read, Server.run_ask, hget, Server.run_done, fetched, Except.bind]

private theorem run_create_absent (h : srv.Optimistic space) (hs : srv.object s = none) (record : Record) :
    ∃ s' o token, (create space record).toProgram.run srv.world s = (some (.ok true), s') ∧
      srv.object s' = some o ∧ o.metadata.resourceVersion = some token ∧
      Record.ofData (o.data.getD .empty) = .ok record := by
  obtain ⟨hok, o, token, ho, hdata, hversion⟩ := h.create_absent (newObject space record) hs rfl
  refine ⟨_, o, token, ?_, ho, hversion, ?_⟩
  · simp only [toProgram_create, Server.run_ask, Server.run_done, hok, created]
  · rw [hdata]
    exact Record.ofData_toData record

private theorem run_create_present (h : srv.Optimistic space) (ho : srv.object s = some o) (record : Record) :
    ∃ s', (create space record).toProgram.run srv.world s = (some (.ok false), s') ∧ srv.Evolves s s' ∧
      srv.object s' = some o := by
  obtain ⟨e, he, hcode⟩ := h.create_present (newObject space record) ho rfl
  refine ⟨_, ?_, h.answer _ s, (h.refused he).trans ho⟩
  simp only [toProgram_create, Server.run_ask, Server.run_done, he, created, hcode, ↓reduceIte]

private theorem run_write_current (h : srv.Optimistic space) (ho : srv.object s = some o)
    (hv : o.metadata.resourceVersion = some v.token) (record : Record) :
    ∃ s' o' token, (writeIfUnchanged space record v).toProgram.run srv.world s = (some (.ok ()), s') ∧
      srv.Evolves s s' ∧ srv.object s' = some o' ∧ o'.metadata.resourceVersion = some token ∧
      ¬ srv.issued s token ∧ Record.ofData (o'.data.getD .empty) = .ok record := by
  have hget := h.get_present ho
  have hfetch : srv.Evolves s _ := h.answer (getCall space) s
  have hok := h.replace_current (overlay o record v) (h.get hget).2 hv rfl
  obtain ⟨current, token, -, -, hfresh, hstored⟩ := h.replace rfl hok
  refine ⟨_, _, token, ?_, hfetch.trans (h.answer _ _), hstored, rfl, fun hissued => ?_, ofData_overlay o record v⟩
  · simp only [toProgram_writeIfUnchanged, Server.run_ask, Server.run_done, hget, fetched, hok, replaced]
  · exact hfresh (hfetch.issued token hissued)

private theorem run_write_stale (h : srv.Optimistic space) (ho : srv.object s = some o)
    (hv : o.metadata.resourceVersion ≠ some v.token) (record : Record) :
    ∃ s', (writeIfUnchanged space record v).toProgram.run srv.world s =
        (some (.error (.conflict (ledgerName space))), s') ∧
      srv.Evolves s s' ∧ srv.object s' = some o := by
  have hget := h.get_present ho
  have hfetch : srv.Evolves s _ := h.answer (getCall space) s
  obtain ⟨e, he, hcode⟩ := h.replace_stale (overlay o record v) (h.get hget).2 hv rfl
  refine ⟨_, ?_, hfetch.trans (h.answer _ _), (h.refused he).trans (h.get hget).2⟩
  simp only [toProgram_writeIfUnchanged, Server.run_ask, Server.run_done, hget, fetched, he, replaced, hcode,
    ↓reduceIte]

end Api.LedgerClient

/-! ### Versions that stand for each other -/

/-- The versions of one ledger and those of the other one are equal in the same places. -/
def Paired (ps : List (Version × Version)) : Prop :=
  ∀ p ∈ ps, ∀ q ∈ ps, p.1 = q.1 ↔ p.2 = q.2

namespace Paired

variable {ps : List (Version × Version)} {p : Version × Version}

/-- The versions of a change are new in both ledgers. -/
private theorem cons_new (h : Paired ps) (hfst : ∀ q ∈ ps, p.1 ≠ q.1) (hsnd : ∀ q ∈ ps, p.2 ≠ q.2) :
    Paired (p :: ps) := by
  intro x hx y hy
  rcases List.mem_cons.mp hx with rfl | hx'
  · rcases List.mem_cons.mp hy with rfl | hy'
    · exact ⟨fun _ => rfl, fun _ => rfl⟩
    · exact ⟨fun heq => absurd heq (hfst y hy'), fun heq => absurd heq (hsnd y hy')⟩
  · rcases List.mem_cons.mp hy with rfl | hy'
    · exact ⟨fun heq => absurd heq.symm (hfst x hx'), fun heq => absurd heq.symm (hsnd x hx')⟩
    · exact h x hx' y hy'

private theorem of_subset {qs : List (Version × Version)} (h : Paired ps) (hsub : ∀ q ∈ qs, q ∈ ps) : Paired qs :=
  fun x hx y hy => h x (hsub x hx) y (hsub y hy)

private theorem getElem?_iff (h : Paired ps) (i j : Nat) :
    (ps.map Prod.fst)[i]? = (ps.map Prod.fst)[j]? ↔ (ps.map Prod.snd)[i]? = (ps.map Prod.snd)[j]? := by
  simp only [List.getElem?_map]
  cases hi : ps[i]? with
  | none => cases hj : ps[j]? <;> simp
  | some x =>
    cases hj : ps[j]? with
    | none => simp
    | some y => simpa using h x (List.mem_of_getElem? hi) y (List.mem_of_getElem? hj)

end Paired

/-! ### The simulation -/

section Simulation

open Api Api.LedgerClient Ledger

variable {σ : Type} {srv : Server σ} {space : String} {l : MemoryLedger} {s s' : σ} {ps : List (Version × Version)}
  {t t' : Transcript}

/-- Neither ledger exists, or both hold the same record. The current versions and those that have been read are equal
in the same places, and the latter are none that a change gives later. -/
inductive Agrees (srv : Server σ) (l : MemoryLedger) (s : σ) : List (Version × Version) → Prop
  | absent (hl : l.stored = none) (hs : srv.object s = none) : Agrees srv l s []
  | present {r : Record} {n : Nat} {o : ConfigMap} {token : String} {ps : List (Version × Version)} (hl : l.Holds r n)
      (hs : srv.object s = some o) (hr : Record.ofData (o.data.getD .empty) = .ok r)
      (hversion : o.metadata.resourceVersion = some token)
      (hpaired : Paired ((MemoryLedger.versionOf n, ⟨token⟩) :: ps))
      (hpast : ∀ p ∈ ps, (∃ m ≤ n, p.1 = MemoryLedger.versionOf m) ∧ srv.issued s p.2.token) : Agrees srv l s ps

/-- The two clients have seen the same, and the versions that they have read stand for each other. -/
def Simulates (srv : Server σ) (l : MemoryLedger) (s : σ) (t t' : Transcript) : Prop :=
  ∃ seen ps, t = ⟨seen, ps.map Prod.fst⟩ ∧ t' = ⟨seen, ps.map Prod.snd⟩ ∧ Agrees srv l s ps

/-- A request to the ledger in memory and one to the ledger on the server, after which the two are still alike. -/
def Follows (srv : Server σ) (space : String) (l : MemoryLedger) (s : σ) (t t' : Transcript) (q q' : Query) : Prop :=
  ∃ reply s', (answer space q').run srv.world s = (some reply, s') ∧
    Simulates srv (MemoryLedger.answer q l).2 s' (t.note q (MemoryLedger.answer q l).1) (t'.note q' reply)

private theorem Agrees.paired (h : Agrees srv l s ps) : Paired ps := by
  cases h with
  | absent hl hs =>
    intro p hp
    cases hp
  | present hl hs hr hversion hpaired hpast => exact hpaired.of_subset fun q hq => List.mem_cons_of_mem _ hq

/-- Requests that leave both ledgers as they are. -/
private theorem Agrees.of_unchanged {l' : MemoryLedger} {o : ConfigMap} (h : Agrees srv l s ps)
    (ho : srv.object s = some o) (hl : l'.stored = l.stored) (hs : srv.Evolves s s') (ho' : srv.object s' = some o) :
    Agrees srv l' s' ps := by
  cases h with
  | absent hl hs => exact absurd (hs.symm.trans ho) (by simp)
  | present hl' hs' hr hversion hpaired hpast =>
    obtain rfl := Option.some.inj (hs'.symm.trans ho)
    refine .present (hl'.of_stored_eq hl) ho' hr hversion hpaired fun p hp => ?_
    obtain ⟨hfst, hsnd⟩ := hpast p hp
    exact ⟨hfst, hs.issued _ hsnd⟩

private theorem Agrees.create (h : srv.Optimistic space) (hagrees : Agrees srv l s ps) (record : Record)
    (seen : List Seen) :
    Follows srv space l s ⟨seen, ps.map Prod.fst⟩ ⟨seen, ps.map Prod.snd⟩ (.create record) (.create record) := by
  have hstate := hagrees
  cases hstate with
  | absent hl hs =>
    obtain ⟨s', o, token, hrun, ho, hversion, hdata⟩ := run_create_absent h hs record
    have hcreate : l.create record = (true, { l with stored := some ⟨record.toData, 1⟩ }) := by
      rw [MemoryLedger.create, hl]
    refine ⟨_, s', hrun, seen ++ [.created true], [], ?_, rfl, ?_⟩
    · rw [MemoryLedger.answer, hcreate]
      rfl
    · rw [MemoryLedger.answer, hcreate]
      refine .present ⟨record.toData, rfl, Record.ofData_toData record⟩ ho hdata hversion
        (hagrees.paired.cons_new ?_ ?_) ?_
      -- nothing has been read yet
      all_goals
        intro p hp
        cases hp
  | present hl hs hr hversion hpaired hpast =>
    obtain ⟨s', hrun, hevolves, ho⟩ := run_create_present h hs record
    have hcreate : l.create record = (false, l) := by
      obtain ⟨data, hstored, -⟩ := hl
      rw [MemoryLedger.create, hstored]
    refine ⟨_, s', hrun, seen ++ [.created false], ps, ?_, rfl, ?_⟩
    · rw [MemoryLedger.answer, hcreate]
      rfl
    · rw [MemoryLedger.answer, hcreate]
      exact hagrees.of_unchanged hs rfl hevolves ho

private theorem Agrees.read (h : srv.Optimistic space) (hagrees : Agrees srv l s ps) (seen : List Seen) :
    Follows srv space l s ⟨seen, ps.map Prod.fst⟩ ⟨seen, ps.map Prod.snd⟩ .read .read := by
  have hstate := hagrees
  cases hstate with
  | absent hl hs =>
    obtain ⟨s', hrun, ho⟩ := run_read_absent h hs
    have hread : l.read = .error MemoryLedger.notFound := by
      rw [MemoryLedger.read, hl]
    refine ⟨_, s', hrun, seen ++ [.failed "NotFound"], [], ?_, rfl, .absent hl ho⟩
    rw [MemoryLedger.answer, hread]
    rfl
  | @present r n o token _ hl hs hr hversion hpaired hpast =>
    obtain ⟨s', hrun, hevolves, ho⟩ := run_read_present h hs
    have hdecoded : decoded space o = .ok (r, ⟨token⟩) := decoded_eq_ok_iff.mpr ⟨hversion, hr⟩
    rw [hdecoded] at hrun
    refine ⟨_, s', hrun, seen ++ [.got r], ps ++ [(MemoryLedger.versionOf n, ⟨token⟩)], ?_, ?_, ?_⟩
    · rw [MemoryLedger.answer, hl.read, List.map_append]
      rfl
    · rw [List.map_append]
      rfl
    · refine .present hl ho hr hversion (hpaired.of_subset ?_) ?_
      · -- the version that was read is the current one
        intro q hq
        rw [List.mem_cons, List.mem_append, List.mem_singleton] at hq
        rcases hq with rfl | hq | rfl
        · exact List.mem_cons_self
        · exact List.mem_cons_of_mem _ hq
        · exact List.mem_cons_self
      · intro p hp
        rcases List.mem_append.mp hp with hp | hp
        · obtain ⟨hfst, hsnd⟩ := hpast p hp
          exact ⟨hfst, hevolves.issued _ hsnd⟩
        · rw [List.mem_singleton.mp hp]
          exact ⟨⟨n, Nat.le_refl n, rfl⟩, h.issued_of_current ho hversion⟩

/-- Under a version that has been read, a write succeeds in both ledgers, or it meets a conflict in both. -/
private theorem Agrees.write (h : srv.Optimistic space) (hagrees : Agrees srv l s ps) {p : Version × Version}
    (hp : p ∈ ps) (record : Record) (seen : List Seen) :
    Follows srv space l s ⟨seen, ps.map Prod.fst⟩ ⟨seen, ps.map Prod.snd⟩ (.writeIfUnchanged record p.1)
      (.writeIfUnchanged record p.2) := by
  have hstate := hagrees
  cases hstate with
  | absent hl hs => cases hp
  | @present r n o token _ hl hs hr hversion hpaired hpast =>
    have hcurrent : MemoryLedger.versionOf n = p.1 ↔ ⟨token⟩ = p.2 :=
      hpaired _ List.mem_cons_self p (List.mem_cons_of_mem _ hp)
    rcases hl.write record p.1 with ⟨hv, hok, hholds⟩ | ⟨hv, hconflict, hstored⟩
    · have hv' : o.metadata.resourceVersion = some p.2.token := by
        rw [hversion, ← hcurrent.mp hv.symm]
      obtain ⟨s', o', token', hrun, hevolves, ho', hversion', hfresh, hdata⟩ := run_write_current h hs hv' record
      refine ⟨_, s', hrun, seen ++ [.written], ps, ?_, rfl, .present hholds ho' hdata hversion' ?_ ?_⟩
      · rw [MemoryLedger.answer, hok]
        rfl
      · refine hagrees.paired.cons_new ?_ ?_
        · intro q hq heq
          obtain ⟨⟨m, hm, hfst⟩, -⟩ := hpast q hq
          have hrevision : n + 1 = m := MemoryLedger.versionOf_injective (heq.trans hfst)
          omega
        · intro q hq heq
          have htoken : q.2.token = token' := congrArg Version.token heq.symm
          rw [← htoken] at hfresh
          exact hfresh (hpast q hq).2
      · intro q hq
        obtain ⟨⟨m, hm, hfst⟩, hsnd⟩ := hpast q hq
        exact ⟨⟨m, Nat.le_succ_of_le hm, hfst⟩, hevolves.issued _ hsnd⟩
    · have hv' : o.metadata.resourceVersion ≠ some p.2.token := by
        rw [hversion]
        intro htoken
        have hpair : (⟨token⟩ : Version) = p.2 := congrArg Version.mk (Option.some.inj htoken)
        exact hv (hcurrent.mpr hpair).symm
      obtain ⟨s', hrun, hevolves, ho'⟩ := run_write_stale h hs hv' record
      refine ⟨_, s', hrun, seen ++ [.failed "Conflict"], ps, ?_, rfl, hagrees.of_unchanged hs hstored hevolves ho'⟩
      rw [MemoryLedger.answer, hconflict]
      rfl

private theorem Simulates.move (h : srv.Optimistic space) (hsim : Simulates srv l s t t') (m : Move) :
    (m.query? t = none ∧ m.query? t' = none) ∨
      ∃ q q', m.query? t = some q ∧ m.query? t' = some q' ∧ Follows srv space l s t t' q q' := by
  obtain ⟨seen, ps, rfl, rfl, hagrees⟩ := hsim
  cases m with
  | create record => exact .inr ⟨_, _, rfl, rfl, hagrees.create h record seen⟩
  | read => exact .inr ⟨_, _, rfl, rfl, hagrees.read h seen⟩
  | write record source =>
    cases hsource : ps[source]? with
    | none => exact .inl ⟨by simp [Move.query?, hsource], by simp [Move.query?, hsource]⟩
    | some p =>
      refine .inr ⟨_, _, ?_, ?_, hagrees.write h (List.mem_of_getElem? hsource) record seen⟩
      · simp [Move.query?, hsource]
      · simp [Move.query?, hsource]

private theorem Simulates.play (h : srv.Optimistic space) (moves : List Move) (hsim : Simulates srv l s t t') :
    ∃ u u' l' s', (Ledger.play moves t).run MemoryLedger.world l = (some u, l') ∧
      ((Ledger.play moves t').interpret (answer space)).run srv.world s = (some u', s') ∧
      Simulates srv l' s' u u' := by
  induction moves generalizing l s t t' with
  | nil => exact ⟨t, t', l, s, rfl, rfl, hsim⟩
  | cons m ms ih =>
    rw [Ledger.run_play_cons]
    rcases hsim.move h m with ⟨hq, hq'⟩ | ⟨q, q', hq, hq', reply, s₁, hrun, hsim₁⟩
    · rw [hq, Ledger.play, hq']
      exact ih hsim
    · rw [hq, Ledger.play, hq']
      obtain ⟨u, u', l', s', hmemory, hserver, hsim'⟩ := ih hsim₁
      have hrest := Program.run_bind srv.world (answer space q')
        (fun reply => (Ledger.play ms (t'.note q' reply)).interpret (answer space)) s
      rw [hrun] at hrest
      exact ⟨u, u', l', s', hmemory, hrest.trans hserver, hsim'⟩

end Simulation

/-- A client that writes under the versions of its reads sees the same answers from both ledgers, and two of these
versions are equal in the one exactly if they are equal in the other. -/
theorem ledgers_agree {σ : Type} {srv : Api.Server σ} {space : String} (h : srv.Optimistic space) {s : σ}
    (hs : srv.object s = none) (moves : List Ledger.Move) :
    ∃ t t' l s', (Ledger.play moves {}).run MemoryLedger.world .absent = (some t, l) ∧
      ((Ledger.play moves {}).interpret (Api.LedgerClient.answer space)).run srv.world s = (some t', s') ∧
      t.seen = t'.seen ∧ t.versions.length = t'.versions.length ∧
      ∀ i j : Nat, t.versions[i]? = t.versions[j]? ↔ t'.versions[i]? = t'.versions[j]? := by
  have hsim : Simulates srv .absent s {} {} := ⟨[], [], rfl, rfl, .absent rfl hs⟩
  obtain ⟨t, t', l, s', hmemory, hserver, seen, ps, rfl, rfl, hagrees⟩ := hsim.play h moves
  refine ⟨_, _, l, s', hmemory, hserver, rfl, ?_, hagrees.paired.getElem?_iff⟩
  rw [List.length_map, List.length_map]

/-- Of two writes under the same version the second one meets a conflict in both ledgers. -/
theorem ledgers_agree_on_stale_write :
    let first : Record := .empty { address := 4060086272, length := 8 } 65536 true
    let second := first.assign "east" { address := 4060086272, length := 16 } none
    let moves : List Ledger.Move := [.create first, .read, .write second 0, .write first 0, .read]
    ∃ t s, ((Ledger.play moves {}).interpret (Api.LedgerClient.answer "broker")).run Api.Shelf.server.world .empty =
        (some t, s) ∧
      t.seen = [.created true, .got first, .written, .failed "Conflict", .got second] ∧
      t.versions[0]? ≠ t.versions[1]? := by
  intro first second moves
  have hstale : MemoryLedger.versionOf 2 ≠ MemoryLedger.versionOf 1 := by
    intro heq
    cases MemoryLedger.versionOf_injective heq
  have hrun (a b : Record) :
      ∃ l, (Ledger.play [.create a, .read, .write b 0, .write a 0, .read] {}).run MemoryLedger.world .absent =
        (some ⟨[.created true, .got a, .written, .failed "Conflict", .got b],
          [MemoryLedger.versionOf 1, MemoryLedger.versionOf 2]⟩, l) := by
    simp [Ledger.run_play_cons, Ledger.run_play_nil, Ledger.Move.query?, Ledger.Transcript.note,
      Ledger.Transcript.add, MemoryLedger.answer, MemoryLedger.read, MemoryLedger.create,
      MemoryLedger.writeIfUnchanged, MemoryLedger.absent, Record.ofData_toData, Except.map, Failure.kind, hstale]
  have habsent : Api.Shelf.server.object .empty = none := rfl
  obtain ⟨l, hrun⟩ := hrun first second
  obtain ⟨t, t', l', s, hmemory, hserver, hseen, -, hversions⟩ :=
    ledgers_agree (Api.Shelf.optimistic "broker") habsent moves
  cases hrun.symm.trans hmemory
  refine ⟨t', s, hserver, hseen.symm, fun heq => hstale ?_⟩
  have hsame := (hversions 0 1).mpr heq
  simpa using hsame.symm

end MultiCluster
