import MultiCluster.Proofs.Allocation.Safety

/-!
# The settings of a broker domain

A record says, besides its entries, whether global addressing is in use, which addresses there are, and how many of
them a cluster gets by default. These settings are checked before a ledger is established, and they are stored only if
there is no ledger yet. Each later write repeats the settings of the record that it replaces. So all who establish a
ledger are told the same settings, whichever they asked for and whoever was first.

Main statement: `settings_are_stored_once`.
-/

namespace MultiCluster

open Allocator

/-- What a record says of the broker domain as a whole. -/
structure Settings where
  enabled : Bool
  supernet : Network
  defaultBlockSize : UInt64
  deriving DecidableEq

def Record.settings (r : Record) : Settings where
  enabled := r.enabled
  supernet := r.supernet
  defaultBlockSize := r.defaultBlockSize

private theorem settings_amended (q : AllocationRequest) (r : Record) (b : Network) :
    (amended q r b).settings = r.settings := rfl

/-! ### The settings of a ledger -/

/-- The settings that a ledger has told with an answer. -/
def Ledger.told? : Exchange Ledger.interface → Option Settings
  | ⟨.read, .ok (r, _)⟩ => some r.settings
  | ⟨.create record, .ok true⟩ => some record.settings
  | _ => none

/-- A ledger that is established has told the settings of the record that is returned. -/
private theorem told_of_establishing {record r : Record} {es : List (Exchange Ledger.interface)}
    (h : (establishing record).Trace es (.done (.ok r))) : ∃ e ∈ es, Ledger.told? e = some r.settings := by
  obtain ⟨created, es₁, rfl, hcreated⟩ := Program.trace_ask_done h
  rcases created with f | created
  · cases (Program.trace_done hcreated).2
  cases created with
  | true =>
    obtain ⟨rfl, heq⟩ := Program.trace_done hcreated
    cases heq
    exact ⟨_, List.mem_singleton.mpr rfl, rfl⟩
  | false =>
    obtain ⟨found, es₂, rfl, hfound⟩ := Program.trace_ask_done hcreated
    rcases found with f | ⟨r', v⟩
    · cases (Program.trace_done hfound).2
    · obtain ⟨rfl, heq⟩ := Program.trace_done hfound
      cases hvalid : r'.validate with
      | error f =>
        rw [hvalid] at heq
        cases heq
      | ok u =>
        rw [hvalid] at heq
        cases heq
        exact ⟨_, List.mem_cons_of_mem _ (List.mem_singleton.mpr rfl), rfl⟩

namespace MemoryLedger

/-- The ledger holds a record with the given settings. -/
def Shows (l : MemoryLedger) (c : Settings) : Prop :=
  ∃ r n, l.Holds r n ∧ r.settings = c

private theorem shows_of_told {l : MemoryLedger} {q : Ledger.Query} {c : Settings}
    (h : Ledger.told? ⟨q, (answer q l).1⟩ = some c) : (answer q l).2.Shows c := by
  cases q with
  | read =>
    cases hread : l.read with
    | error f => simp [answer, Ledger.told?, hread] at h
    | ok found =>
      obtain ⟨r, v⟩ := found
      obtain ⟨n, hholds, -⟩ := read_eq_ok_iff.mp hread
      simp only [answer, Ledger.told?, hread] at h
      exact ⟨r, n, hholds, Option.some.inj h⟩
  | create record =>
    rcases create_cases l record with ⟨-, hcreate⟩ | hcreate
    · simp only [answer, Ledger.told?, hcreate] at h ⊢
      exact ⟨record, 1, ⟨record.toData, rfl, Record.ofData_toData record⟩, Option.some.inj h⟩
    · simp [answer, Ledger.told?, hcreate] at h
  | writeIfUnchanged record v => simp [Ledger.told?] at h

end MemoryLedger

variable {ι : Type} [DecidableEq ι]

/-- No step changes the settings of a stored record, nor whether it can be read. -/
private theorem settings_step {l : MemoryLedger} {calls : ι → Call} {schedule : List ι} {s : Stored}
    (h : (callsAfter l calls schedule).state.stored = some s) (i : ι) :
    ∃ s', (callsAfter l calls (schedule ++ [i])).state.stored = some s' ∧
      (Record.ofData s'.data).map Record.settings = (Record.ofData s.data).map Record.settings := by
  rw [callsAfter_concat]
  -- a step that stores something either finds no record, or adds an entry to the one that it replaces
  rcases calls_step l calls schedule i with
    hsame | ⟨record, -, hnone, -⟩ | ⟨q, r, n, b, ⟨data, hstored, hdata⟩, -, ⟨data', hstored', hdata'⟩⟩
  · exact ⟨s, hsame.trans h, rfl⟩
  · rw [h] at hnone
    cases hnone
  · rw [h] at hstored
    cases hstored
    refine ⟨_, hstored', ?_⟩
    rw [hdata', hdata]
    exact congrArg Except.ok (settings_amended q r b)

private theorem settings_run {l : MemoryLedger} {calls : ι → Call} {earlier : List ι} {s : Stored}
    (h : (callsAfter l calls earlier).state.stored = some s) (later : List ι) :
    ∃ s', (callsAfter l calls (earlier ++ later)).state.stored = some s' ∧
      (Record.ofData s'.data).map Record.settings = (Record.ofData s.data).map Record.settings := by
  induction later using List.reverseRecOn with
  | nil =>
    rw [List.append_nil]
    exact ⟨s, h, rfl⟩
  | append_singleton later i ih =>
    obtain ⟨s', hs', heq'⟩ := ih
    obtain ⟨s'', hs'', heq''⟩ := settings_step hs' i
    rw [← List.append_assoc]
    exact ⟨s'', hs'', heq''.trans heq'⟩

private theorem MemoryLedger.shows_iff {l : MemoryLedger} {c : Settings} :
    l.Shows c ↔ ∃ s, l.stored = some s ∧ (Record.ofData s.data).map Record.settings = .ok c := by
  constructor
  · rintro ⟨r, n, ⟨data, hstored, hdata⟩, rfl⟩
    exact ⟨_, hstored, by rw [hdata]; rfl⟩
  · rintro ⟨s, hs, hc⟩
    cases hdata : Record.ofData s.data with
    | error f =>
      rw [hdata] at hc
      cases hc
    | ok r =>
      rw [hdata] at hc
      exact ⟨r, s.revision, ⟨s.data, hs, hdata⟩, Except.ok.inj hc⟩

/-- What a ledger has told anyone stays true. -/
private theorem shows_of_mem_history (l : MemoryLedger) (calls : ι → Call) (schedule : List ι) :
    ∀ e ∈ (callsAfter l calls schedule).history, ∀ c, Ledger.told? e.exchange = some c →
      (callsAfter l calls schedule).state.Shows c := by
  refine Pool.reachable_induction (P := fun _ p => ∀ e ∈ p.history, ∀ c, Ledger.told? e.exchange = some c →
    MemoryLedger.Shows p.state c) ?_ ?_ schedule
  · intro e he
    cases he
  · intro schedule i ih e he c hc
    have hkept : (callsAfter l calls schedule).state.Shows c →
        ((callsAfter l calls schedule).step MemoryLedger.world i).state.Shows c := by
      intro hshows
      obtain ⟨s, hs, hsettings⟩ := MemoryLedger.shows_iff.mp hshows
      obtain ⟨s', hs', heq⟩ := settings_step hs i
      rw [callsAfter_concat] at hs'
      exact MemoryLedger.shows_iff.mpr ⟨s', hs', heq.trans hsettings⟩
    -- only an exchange of this very step needs a look at its answer
    rcases Pool.step_cases MemoryLedger.world (callsAfter l calls schedule) i with
      ⟨q, next, -, hstep⟩ | ⟨d, next, -, hstep⟩ | hstep
    · rcases List.mem_append.mp (congrArg Pool.history hstep ▸ he) with he | he
      · exact hkept (ih e he c hc)
      · rw [List.mem_singleton.mp he] at hc
        show ((callsAfter l calls schedule).step MemoryLedger.world i).state.Shows c
        rw [hstep]
        exact MemoryLedger.shows_of_told hc
    · exact hkept (ih e (congrArg Pool.history hstep ▸ he) c hc)
    · exact hkept (ih e (congrArg Pool.history hstep ▸ he) c hc)

/-- A call that has established a ledger, and the record that it has returned. -/
def Call.Established : (c : Call) → Program Ledger.interface (Except Failure c.Result) → Record → Prop
  | .establish _ _ _, p, r => p = .done (.ok r)
  | .commit _ _, _, _ => False

private theorem Call.told_of_established {c : Call} {es : List (Exchange Ledger.interface)}
    {p : Program Ledger.interface (Except Failure c.Result)} {r : Record} (h : c.program.Trace es p)
    (hp : c.Established p r) : ∃ e ∈ es, Ledger.told? e = some r.settings := by
  cases c with
  | commit a q => cases hp
  | establish supernet n enabled =>
    obtain rfl : p = .done (.ok r) := hp
    have htrace : (Allocator.establish supernet n enabled).toProgram.Trace es (.done (.ok r)) := h
    rw [establish_eq] at htrace
    cases hconfigured : configured supernet n enabled with
    | error f =>
      rw [hconfigured] at htrace
      cases (Program.trace_done htrace).2
    | ok record =>
      rw [hconfigured] at htrace
      exact told_of_establishing htrace

/-- Settings are checked before anything is asked of the ledger and stored only if there is no ledger yet; once stored,
they are those of every later record and answer. -/
theorem settings_are_stored_once (l : MemoryLedger) (calls : ι → Call) (earlier later : List ι) :
    (∀ supernet n enabled, (∀ net size, ¬Configures supernet n enabled net size) →
      ∃ field message, (establish supernet n enabled).toProgram = .done (.error (.malformed field message))) ∧
    (∀ supernet n enabled net size, Configures supernet n enabled net size →
      let record := Record.empty net size.toWord enabled
      (l.stored = none → (establish supernet n enabled).toProgram.run MemoryLedger.world l =
        (some (.ok record), { l with stored := some ⟨record.toData, 1⟩ })) ∧
      ∀ s, l.stored = some s → ∃ o, (establish supernet n enabled).toProgram.run MemoryLedger.world l = (some o, l) ∧
        (∀ r, o = .ok r ↔ Record.ofData s.data = .ok r ∧ r.validate = .ok ()) ∧
        ∀ f, o = .error f ↔
          Record.ofData s.data = .error f ∨ ∃ r, Record.ofData s.data = .ok r ∧ r.validate = .error f) ∧
    let p := callsAfter l calls earlier
    let p' := callsAfter l calls (earlier ++ later)
    (∀ s, p.state.stored = some s → ∃ s', p'.state.stored = some s' ∧
      (Record.ofData s'.data).map Record.settings = (Record.ofData s.data).map Record.settings) ∧
    ∀ i r, (calls i).Established (p.programs i) r → ∃ s' r', p'.state.stored = some s' ∧
      Record.ofData s'.data = .ok r' ∧ r'.settings = r.settings := by
  refine ⟨?_, ?_, ?_, ?_⟩
  · intro supernet n enabled hnone
    rcases configured_cases supernet n enabled with ⟨net, size, h, -⟩ | ⟨-, field, message, hbad⟩
    · exact absurd h (hnone net size)
    · exact ⟨field, message, by rw [establish_eq, hbad]⟩
  · intro supernet n enabled net size h record
    rw [establish_eq, configured_of_configures h]
    refine ⟨fun hs => run_establishing_absent hs record, fun s hs => ?_⟩
    refine ⟨_, run_establishing_stored hs record, fun r => ?_, fun f => ?_⟩
    · exact validated_eq_ok_iff
    · exact validated_eq_error_iff
  · intro s hs
    exact settings_run hs later
  · intro i r hestablished
    have htrace : (calls i).program.Trace ((callsAfter l calls earlier).log i)
        ((callsAfter l calls earlier).programs i) :=
      Pool.trace MemoryLedger.world l (fun i => (calls i).program) earlier i
    obtain ⟨e, he, htold⟩ := Call.told_of_established htrace hestablished
    have hshows := shows_of_mem_history l calls earlier _ (Pool.mem_history_of_mem_log he) _ htold
    obtain ⟨s, hs, hsettings⟩ := MemoryLedger.shows_iff.mp hshows
    obtain ⟨s', hs', heq⟩ := settings_run hs later
    obtain ⟨r', n, ⟨data, hstored, hdata⟩, hr'⟩ := MemoryLedger.shows_iff.mpr ⟨s', hs', heq.trans hsettings⟩
    exact ⟨_, r', hstored, hdata, hr'⟩

/-- A second broker asks for other settings, while a cluster joins. -/
theorem settings_of_first_broker_stay :
    let net : Network := { address := 4060086272, length := 8 }
    let other : Network := { address := 167772160, length := 8 }
    let r := Record.empty net 65536 true
    let calls : Bool → Call := fun i =>
      if i then .commit { ledgerName := MemoryLedger.name } { cluster := "west" }
      else .establish other.toText 256 false
    (∃ size, Configures other.toText 256 false other size) ∧
      (establish other.toText 256 false).toProgram.run MemoryLedger.world (.holding r) =
        (some (.ok r), .holding r) ∧
      ∃ s, (callsAfter (.holding r) calls [true, false, false, true]).state.stored = some s ∧
        (Record.ofData s.data).map Record.settings = .ok r.settings := by
  intro net other r calls
  obtain ⟨size, hsize⟩ : ∃ size, BlockSize.ofAddresses 256 = .ok size := ⟨_, rfl⟩
  have hconfigures : Configures other.toText 256 false other size := by
    refine ⟨?_, by decide, hsize, fun h => (nomatch h)⟩
    rw [Network.trim_toText, Network.ofText?_toText]
  have hdata : Record.ofData r.toData = .ok r := Record.ofData_toData r
  obtain ⟨-, hrun, hstay, -⟩ := settings_are_stored_once (.holding r) calls [] [true, false, false, true]
  refine ⟨⟨size, hconfigures⟩, ?_, ?_⟩
  · obtain ⟨-, hstored⟩ := hrun other.toText 256 false other size hconfigures
    obtain ⟨o, hrun, hok, -⟩ := hstored ⟨r.toData, 1⟩ rfl
    have ho : o = .ok r := (hok r).mpr ⟨hdata, Record.validate_eq_ok_iff.mpr (Record.isSound_of_no_entries rfl)⟩
    rw [hrun, ho]
  · obtain ⟨s, hs, hsettings⟩ := hstay ⟨r.toData, 1⟩ rfl
    rw [List.nil_append] at hs
    rw [hdata] at hsettings
    exact ⟨s, hs, hsettings⟩

end MultiCluster
