import MultiCluster.Proofs.Api.Shelf

/-!
# What others keep in the object of a ledger

A write fetches the object that it lays its record over, and only then replaces it, so that the fetched object may be
another one than the one that the record was decided on. The replacement carries the version of the latter: if it is
accepted, no change has come between, and nothing that others keep in the object is lost. Main statement:
`ledger_write_keeps_other_edits`.
-/

namespace MultiCluster

open Api Api.LedgerClient

section Write

variable {σ : Type} {srv : Server σ} {space : String} {s s' : σ} {record r : Record} {v : Version}
  {outcome : Except Failure Unit} {ms : List (Server.Moment σ)}

private theorem pins_of_read (h : srv.Versioned space)
    (hread : srv.Amid s (read space).toProgram ms (.ok (r, v)) s') :
    ∃ o, srv.Pins s' v.token o ∧ Record.ofData (o.data.getD .empty) = .ok r := by
  rw [toProgram_read] at hread
  obtain ⟨s₁, ms', -, -, hdone⟩ := hread.ask_cases
  obtain ⟨-, hvalue, rfl⟩ := hdone.done_cases
  have hanswer : srv.Evolves s₁ _ := h.answer (getCall space) s₁
  cases hreply : srv.reply (getCall space) s₁ with
  | error e =>
    rw [hreply] at hvalue
    cases hvalue
  | ok o =>
    rw [hreply] at hvalue
    obtain ⟨hversion, hdata⟩ := decoded_eq_ok_iff.mp hvalue.symm
    obtain ⟨hobject, -⟩ := h.get hreply
    have hpins : srv.Pins s₁ v.token o := Server.pins_of_issued hobject (h.issued_of_current hobject hversion)
    exact ⟨o, hpins.evolves hanswer, hdata⟩

/-- A write fails with its first request, or it ends with what the answer to its second one means. -/
private theorem write_cases (hwrite : srv.Amid s (writeIfUnchanged space record v).toProgram ms outcome s') :
    ∃ s₁, srv.Evolves s s₁ ∧
      ((∃ e f, srv.reply (getCall space) s₁ = .error e ∧ outcome = .error f ∧
          ms = [srv.moment (getCall space) s₁]) ∨
        ∃ o s₂, srv.reply (getCall space) s₁ = .ok o ∧
          srv.Evolves (srv.after (getCall space) s₁) s₂ ∧
          outcome = replaced space (srv.reply (replaceCall space (overlay o record v)) s₂) ∧
          ms = [srv.moment (getCall space) s₁, srv.moment (replaceCall space (overlay o record v)) s₂]) := by
  rw [toProgram_writeIfUnchanged] at hwrite
  obtain ⟨s₁, ms', hs₁, rfl, hrest⟩ := hwrite.ask_cases
  refine ⟨s₁, hs₁, ?_⟩
  cases hreply : srv.reply (getCall space) s₁ with
  | error e =>
    rw [hreply] at hrest
    obtain ⟨rfl, rfl, -⟩ := hrest.done_cases
    exact .inl ⟨e, _, rfl, rfl, rfl⟩
  | ok o =>
    rw [hreply] at hrest
    obtain ⟨s₂, ms'', hs₂, rfl, hdone⟩ := hrest.ask_cases
    obtain ⟨rfl, rfl, -⟩ := hdone.done_cases
    exact .inr ⟨o, s₂, rfl, hs₂, rfl, rfl⟩

private theorem of_replaced_eq_ok {reply : Except ApiFailure Unit} (h : replaced space reply = .ok ()) :
    reply = .ok () := by
  cases reply with
  | ok a => rfl
  | error e =>
    simp only [replaced] at h
    split at h
    · cases h
    · split at h <;> cases h

private theorem of_replaced_eq_error {reply : Except ApiFailure Unit} {f : Failure}
    (h : replaced space reply = .error f) : ∃ e, reply = .error e := by
  cases reply with
  | ok a => cases h
  | error e => exact ⟨e, rfl⟩

end Write

/-- A write that succeeds replaces the record that was read and keeps what else is in the object just before, whatever
edits came in between; a write that fails changes nothing. -/
theorem ledger_write_keeps_other_edits {σ : Type} {srv : Server σ} {space : String} {s₀ s₁ s₂ s₃ : σ}
    {reads writes : List (Server.Moment σ)} {record r : Record} {v : Version} {outcome : Except Failure Unit}
    (h : srv.Versioned space) (hread : srv.Amid s₀ (read space).toProgram reads (.ok (r, v)) s₁)
    (hlater : srv.Evolves s₁ s₂)
    (hwrite : srv.Amid s₂ (writeIfUnchanged space record v).toProgram writes outcome s₃) :
    (outcome = .ok () → ∃ fetch replace sent before after, writes = [fetch, replace] ∧
        srv.object fetch.after = srv.object fetch.before ∧
        replace.call = replaceCall space sent ∧
        srv.object replace.before = some before ∧ srv.object replace.after = some after ∧
        Record.ofData (before.data.getD .empty) = .ok r ∧ LaidOver record before after) ∧
    (∀ f, outcome = .error f → ∀ m ∈ writes, srv.object m.after = srv.object m.before) := by
  obtain ⟨o₀, hpins, hr⟩ := pins_of_read h hread
  obtain ⟨sf, hsf, ⟨e, f, hfetch, rfl, rfl⟩ | ⟨o, sr, hfetch, hsr, rfl, rfl⟩⟩ := write_cases hwrite
  · constructor
    · intro hok
      cases hok
    · intro _ _ m hm
      obtain rfl := List.mem_singleton.mp hm
      exact h.refused hfetch
  · obtain ⟨hobject, hkept⟩ := h.get hfetch
    have hsame : srv.object (srv.after (getCall space) sf) = srv.object sf := hkept.trans hobject.symm
    refine ⟨fun hok => ?_, fun f hf m hm => ?_⟩
    · have hpinned : srv.Pins sf v.token o₀ := hpins.evolves (hlater.trans hsf)
      have hbetween : srv.Evolves sf sr := (h.answer (getCall space) sf).trans hsr
      -- the version was known when the object was fetched, so that it is current later only if that object is
      have hbase : srv.Pins sr v.token o := (Server.pins_of_issued hobject hpinned.1).evolves hbetween
      obtain ⟨current, fresh, hcurrent, hversion, -, hstored⟩ := h.replace rfl (of_replaced_eq_ok hok)
      obtain rfl : current = o := hbase.2 current hcurrent hversion
      obtain rfl : current = o₀ := (hpinned.evolves hbetween).2 current hcurrent hversion
      exact ⟨_, _, _, current, _, rfl, hsame, rfl, hcurrent, hstored, hr, laidOver_overlay current record v fresh⟩
    · obtain ⟨e, hrefused⟩ := of_replaced_eq_error hf
      simp only [List.mem_cons, List.not_mem_nil, or_false] at hm
      rcases hm with rfl | rfl
      · exact hsame
      · exact h.refused hrefused

/-- What another owner keeps in an object. -/
def Api.Shelf.notes : ConfigMap where
  metadata := { labels := some ⟨[("team", "network")]⟩ }
  data := some ⟨[("notes", "keep")]⟩

/-- A ledger in the object of another owner, under its second version. -/
def Api.Shelf.noted (record : Record) : Shelf where
  object := some ((overlay notes record ⟨"1"⟩).stamped "2")
  count := 2
  numbered _ h := ⟨2, Nat.le_refl 2, by cases h; rfl⟩

/-- Between the two requests of a write another client writes under a version that is no longer the current one. -/
theorem ledger_write_keeps_notes :
    let first : Record := .empty { address := 4060086272, length := 8 } 65536 true
    let second := first.assign "east" { address := 4060086272, length := 16 } none
    let rival : Pool interface Shelf fun _ : Unit => Except Failure Unit :=
      .start (.noted first) fun _ => (writeIfUnchanged "broker" first ⟨"1"⟩).toProgram
    let later := (rival.run Shelf.server.world [(), ()]).state
    ∃ reads fetch replace s₁ s₃ after,
      Shelf.server.Amid (.noted first) (read "broker").toProgram reads (.ok (first, ⟨"2"⟩)) s₁ ∧
      Shelf.server.Amid s₁ (writeIfUnchanged "broker" second ⟨"2"⟩).toProgram [fetch, replace] (.ok ()) s₃ ∧
      replace.before = later ∧ replace.after.object = some after ∧
      Record.ofData (after.data.getD .empty) = .ok second ∧
      after.metadata.label? "team" = some "network" ∧ after.get? "notes" = some "keep" := by
  intro first second rival later
  have hversioned : Shelf.server.Versioned "broker" := Shelf.versioned "broker"
  obtain ⟨reads, hread⟩ : ∃ reads,
      Shelf.server.Amid (.noted first) (read "broker").toProgram reads (.ok (first, ⟨"2"⟩)) (.noted first) := by
    have hdecoded : decoded "broker" ((overlay Shelf.notes first ⟨"1"⟩).stamped "2") = .ok (first, ⟨"2"⟩) :=
      decoded_eq_ok_iff.mpr ⟨rfl, ofData_overlay Shelf.notes first ⟨"1"⟩⟩
    have hrun : (read "broker").toProgram.run Shelf.server.world (.noted first) =
        (some (.ok (first, ⟨"2"⟩)), .noted first) := by
      have hget : Shelf.server.reply (getCall "broker") (.noted first) =
        .ok ((overlay Shelf.notes first ⟨"1"⟩).stamped "2") := rfl
      simp only [toProgram_read, Server.run_ask, hget, Server.run_done, fetched, Except.bind, hdecoded]
      rfl
    exact hversioned.amid_of_run hrun
  obtain ⟨fetch, replace, s₃, hbefore, hwrite⟩ : ∃ fetch replace s₃, replace.before = later ∧ Shelf.server.Amid
      (.noted first) (writeIfUnchanged "broker" second ⟨"2"⟩).toProgram [fetch, replace] (.ok ()) s₃ := by
    have hrival : Shelf.server.Evolves (.noted first) later := hversioned.evolves_run rival [(), ()]
    -- the rival's write is refused
    have hlater : later = .noted first := rfl
    rw [hlater] at hrival ⊢
    rw [toProgram_writeIfUnchanged]
    exact ⟨_, _, _, rfl, .ask (.refl _ _) (.ask hrival (.done _ _))⟩
  obtain ⟨hok, -⟩ := ledger_write_keeps_other_edits hversioned hread (.refl _ _) hwrite
  obtain ⟨fetch', replace', sent, before, after, hwrites, -, -, hnoted, hafter, -, hlaid⟩ := hok rfl
  cases hwrites
  rw [hbefore] at hnoted
  cases hnoted
  refine ⟨reads, fetch, replace, _, s₃, after, hread, hwrite, hbefore, hafter, hlaid.record, ?_, ?_⟩
  · rw [hlaid.labels]
    rfl
  · rw [hlaid.data "notes" (by decide)]
    rfl

end MultiCluster
