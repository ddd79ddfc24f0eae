import MultiCluster.Ledger.Codec
import MultiCluster.Proofs.Json.Fields
import MultiCluster.Proofs.Json.Grammar
import MultiCluster.Proofs.Net.Text

/-!
# Which maps hold a record

A map holds a record if its four values do. Each value may have blanks around it; the supernet may stand in JSON quotes
or without; the supernet and the default block size may be missing if the flag is not set; and the entries may be
missing or blank. A map that holds no record is refused with the first of the four keys that is missing or has a value
which cannot be read.

Main statement: `Record.format_is_exact`.
-/

namespace MultiCluster

/-! ### Entries -/

namespace Entry

/-- The plugin of an entry, by the value of its field: nothing and `null` stand for none. -/
inductive PluginIs : Option Json → Option String → Prop
  | missing : PluginIs none none
  | null : PluginIs (some .null) none
  | text (s : String) : PluginIs (some (.text s)) (some s)

/-- The blocks of an entry, by the value of their field: nothing stands for no blocks. -/
inductive BlocksAre : Option Json → List Network → Prop
  | missing : BlocksAre none []
  | array {js : List Json} {bs : List Network}
      (h : List.Forall₂ (fun j b => ∃ s, j = .text s ∧ Network.Spells s b) js bs) : BlocksAre (some (.array js)) bs

/-- A JSON value describes an entry by the three fields of the entry. -/
def IsDescribedBy (e : Entry) (j : Json) : Prop :=
  ∃ v, Json.HasFields ["cluster_id", "network_plugin", "global_cidr"] j v ∧
    v "cluster_id" = some (.text e.cluster) ∧ PluginIs (v "network_plugin") e.plugin ∧
    BlocksAre (v "global_cidr") e.blocks

private theorem blockOfJson?_eq_some_iff {j : Json} {b : Network} :
    blockOfJson? j = some b ↔ ∃ s, j = .text s ∧ Network.Spells s b := by
  simp only [blockOfJson?, Option.bind_eq_some_iff, Json.asText?_eq_some_iff, Network.ofText?_eq_some_iff]

variable {f : Json.Fields}

private theorem required_cluster_iff {name cluster : String} :
    f.required name Json.asText? = some cluster ↔ f.value? name = some (.text cluster) := by
  simp [Json.Fields.required, Option.bind_eq_some_iff, Json.asText?_eq_some_iff]

private theorem optional_plugin_iff {name : String} {plugin : Option String} :
    f.optional name Json.asText? = some plugin ↔ PluginIs (f.value? name) plugin := by
  unfold Json.Fields.optional
  generalize f.value? name = v
  constructor
  · intro h
    split at h
    · cases h
      exact .missing
    · cases h
      exact .null
    · obtain ⟨s, hs, rfl⟩ := Option.map_eq_some_iff.mp h
      rw [Json.asText?_eq_some_iff.mp hs]
      exact .text s
  · rintro (_ | _ | s) <;> rfl

private theorem orElse_blocks_iff {name : String} {blocks : List Network} :
    f.orElse name [] (Json.list? blockOfJson?) = some blocks ↔ BlocksAre (f.value? name) blocks := by
  unfold Json.Fields.orElse
  generalize f.value? name = v
  constructor
  · intro h
    split at h
    · cases h
      exact .missing
    · obtain ⟨js, rfl, hjs⟩ := Json.list?_eq_some_iff.mp h
      exact .array (hjs.imp fun _ _ => blockOfJson?_eq_some_iff.mp)
  · rintro (_ | hjs)
    · rfl
    · exact Json.list?_eq_some_iff.mpr ⟨_, rfl, hjs.imp fun _ _ => blockOfJson?_eq_some_iff.mpr⟩

/-- An entry is read from the values that describe it. -/
private theorem ofJson?_eq_some_iff {j : Json} {e : Entry} : ofJson? j = some e ↔ e.IsDescribedBy j := by
  simp only [ofJson?, Option.bind_eq_bind, Option.bind_eq_some_iff, required_cluster_iff, optional_plugin_iff,
    orElse_blocks_iff]
  constructor
  · rintro ⟨f, hf, cluster, hcluster, plugin, hplugin, blocks, hblocks, heq⟩
    cases heq
    exact ⟨f.value?, Json.hasFields_of_fields? hf, hcluster, hplugin, hblocks⟩
  · rintro ⟨v, hv, hcluster, hplugin, hblocks⟩
    obtain ⟨f, hf, hvalue⟩ := hv.exists_fields?
    refine ⟨f, hf, e.cluster, ?_, e.plugin, ?_, e.blocks, ?_, rfl⟩
    · rw [hvalue "cluster_id" (by simp), hcluster]
    · rw [hvalue "network_plugin" (by simp)]
      exact hplugin
    · rw [hvalue "global_cidr" (by simp)]
      exact hblocks

end Entry

namespace Record

variable {data : TextMap} {enabled : Bool} {f : Failure}

/-! ### The four values -/

/-- The flag that a map holds. -/
def FlagIs (data : TextMap) (enabled : Bool) : Prop :=
  ∃ raw, data.get? "globalnetEnabled" = some raw ∧ Text.TrimsTo raw (if enabled then "true" else "false")

/-- The value of a key, for which a default stands if it is missing and the flag is not set. -/
def HasSetting (data : TextMap) (enabled : Bool) (key default raw : String) : Prop :=
  data.get? key = some raw ∨ data.get? key = none ∧ enabled = false ∧ raw = default

/-- A value without the JSON quotes around it, if it has them. -/
inductive Unquotes (raw : String) : String → Prop
  | quoted {s : String} (h : Json.Holds raw (.text s)) : Unquotes raw s
  | bare (h : ∀ s, ¬ Json.Holds raw (.text s)) : Unquotes raw raw

/-- The supernet that a map holds, with the flag `enabled`. -/
def SupernetIs (data : TextMap) (enabled : Bool) (net : Network) : Prop :=
  ∃ raw range text, HasSetting data enabled "globalnetCidrRange" "242.0.0.0/8" raw ∧ Unquotes raw range ∧
    Text.TrimsTo range text ∧ Network.Spells text net

/-- The default block size that a map holds, with the flag `enabled`. -/
def BlockSizeIs (data : TextMap) (enabled : Bool) (n : UInt64) : Prop :=
  ∃ raw text, HasSetting data enabled "globalnetClusterSize" "65536" raw ∧ Text.TrimsTo raw text ∧
    Text.Decimal.Spells text n.toNat

/-- The entries that a map holds. -/
inductive EntriesAre (data : TextMap) : List Entry → Prop
  | missing (hraw : data.get? "clusterinfo" = none) : EntriesAre data []
  | blank {raw : String} (hraw : data.get? "clusterinfo" = some raw) (htrim : Text.TrimsTo raw "") : EntriesAre data []
  | array {raw text : String} {js : List Json} {es : List Entry} (hraw : data.get? "clusterinfo" = some raw)
      (htrim : Text.TrimsTo raw text) (hjson : Json.Holds text (.array js))
      (hes : List.Forall₂ (fun j e => e.IsDescribedBy j) js es) : EntriesAre data es

/-- A map holds a record: its four values are those of the record. -/
structure IsStored (data : TextMap) (r : Record) : Prop where
  enabled : FlagIs data r.enabled
  supernet : SupernetIs data r.enabled r.supernet
  defaultBlockSize : BlockSizeIs data r.enabled r.defaultBlockSize
  entries : EntriesAre data r.entries

/-- The first of the four keys whose value is missing or cannot be read. -/
inductive FirstFault (data : TextMap) : String → Prop
  | enabled (h : ∀ enabled, ¬ FlagIs data enabled) : FirstFault data "globalnetEnabled"
  | supernet {enabled : Bool} (henabled : FlagIs data enabled) (h : ∀ net, ¬ SupernetIs data enabled net) :
      FirstFault data "globalnetCidrRange"
  | defaultBlockSize {enabled : Bool} {net : Network} (henabled : FlagIs data enabled)
      (hsupernet : SupernetIs data enabled net) (h : ∀ n, ¬ BlockSizeIs data enabled n) :
      FirstFault data "globalnetClusterSize"
  | entries {enabled : Bool} {net : Network} {n : UInt64} (henabled : FlagIs data enabled)
      (hsupernet : SupernetIs data enabled net) (hsize : BlockSizeIs data enabled n) (h : ∀ es, ¬ EntriesAre data es) :
      FirstFault data "clusterinfo"

/-- The failure names the key, as missing or as invalid. -/
def Blames (data : TextMap) (key : String) (f : Failure) : Prop :=
  data.get? key = none ∧ f = .serialization ("missing key " ++ key) ∨
    ∃ raw detail, data.get? key = some raw ∧ f = .serialization ("invalid " ++ key ++ ": " ++ detail)

/-! ### Reading them -/

private theorem readEnabled_eq_ok_iff : readEnabled data = .ok enabled ↔ FlagIs data enabled := by
  simp only [FlagIs, ← Text.trim_eq_iff, readEnabled, enabledKey]
  cases data.get? "globalnetEnabled" with
  | none => simp
  | some raw =>
    simp only [Option.some.injEq, exists_eq_left']
    by_cases htrue : Text.trim raw = "true"
    · cases enabled <;> simp [htrue]
    · by_cases hfalse : Text.trim raw = "false"
      · cases enabled <;> simp [hfalse]
      · cases enabled <;> simp [htrue, hfalse]

private theorem blames_missing {key : String} (h : data.get? key = none) : Blames data key (missing key) :=
  .inl ⟨h, rfl⟩

private theorem blames_invalid {key raw : String} (h : data.get? key = some raw) (detail : String) :
    Blames data key (invalid key detail) :=
  .inr ⟨raw, detail, h, by simp only [invalid, String.append_assoc]⟩

private theorem blames_of_readEnabled (h : readEnabled data = .error f) : Blames data enabledKey f := by
  unfold readEnabled at h
  split at h
  · rename_i hraw
    cases h
    exact blames_missing hraw
  · rename_i hraw
    simp only at h
    split_ifs at h
    cases h
    exact blames_invalid hraw _

private theorem setting_eq_ok_iff {key default raw : String} :
    setting data enabled key default = .ok raw ↔ HasSetting data enabled key default raw := by
  unfold setting HasSetting
  cases data.get? key with
  | some raw' => simp
  | none => cases enabled <;> simp [eq_comm]

private theorem blames_of_setting {key default : String} (h : setting data enabled key default = .error f) :
    Blames data key f := by
  unfold setting at h
  split at h
  · cases h
  · rename_i hraw
    split_ifs at h
    cases h
    exact blames_missing hraw

private theorem unquote_eq_iff {raw s : String} : unquote raw = s ↔ Unquotes raw s := by
  unfold unquote
  cases hread : (Json.read? raw).bind Json.asText? with
  | some s' =>
    obtain ⟨j, hj, hs'⟩ := Option.bind_eq_some_iff.mp hread
    rw [Json.asText?_eq_some_iff.mp hs', Json.read?_eq_some_iff] at hj
    constructor
    · rintro rfl
      exact .quoted hj
    · rintro (h | h)
      · have hsame := (Json.read?_eq_some_iff.mpr h).symm.trans (Json.read?_eq_some_iff.mpr hj)
        cases hsame
        rfl
      · exact absurd hj (h s')
  | none =>
    have hbare : ∀ s, ¬ Json.Holds raw (.text s) := by
      intro s hs
      rw [Json.read?_eq_some_iff.mpr hs] at hread
      cases hread
    constructor
    · rintro rfl
      exact .bare hbare
    · rintro (h | h)
      · exact absurd h (hbare s)
      · rfl

private theorem readSupernet_eq_ok_iff {net : Network} :
    readSupernet data enabled = .ok net ↔ SupernetIs data enabled net := by
  simp only [SupernetIs, ← setting_eq_ok_iff, ← unquote_eq_iff, ← Text.trim_eq_iff, ← Network.ofText?_eq_some_iff,
    readSupernet, supernetKey, standardSupernet]
  cases setting data enabled "globalnetCidrRange" "242.0.0.0/8" with
  | error f => simp [bind, Except.bind]
  | ok raw =>
    simp only [bind, Except.bind, Except.ok.injEq, exists_eq_left', existsAndEq, true_and]
    cases Network.ofText? (Text.trim (unquote raw)) <;> simp

private theorem blames_of_readSupernet (h : readSupernet data enabled = .error f) : Blames data supernetKey f := by
  rcases bind_eq_error_cases h with hsetting | ⟨raw, hsetting, h⟩
  · exact blames_of_setting hsetting
  · simp only at h
    rcases setting_eq_ok_iff.mp hsetting with hraw | ⟨-, -, rfl⟩
    · split at h
      · cases h
      · cases h
        exact blames_invalid hraw _
    · -- the default is a supernet
      have hdefault : (Network.ofText? (Text.trim (unquote standardSupernet))).isSome = true := by decide
      split at h
      · cases h
      · rename_i hnone
        rw [hnone] at hdefault
        cases hdefault

private theorem read_word_iff {text : String} {n : UInt64} :
    Text.Decimal.read Text.Decimal.wordLimit text = .ok n.toNat ↔ Text.Decimal.Spells text n.toNat := by
  rw [Text.Decimal.read_eq_ok_iff (by decide)]
  exact and_iff_left n.toNat_lt

private theorem readBlockSize_eq_ok_iff {n : UInt64} :
    readBlockSize data enabled = .ok n ↔ BlockSizeIs data enabled n := by
  have hdefault : toString standardBlockSize.toNat = "65536" := rfl
  simp only [BlockSizeIs, ← setting_eq_ok_iff, ← Text.trim_eq_iff, ← read_word_iff, readBlockSize, blockSizeKey,
    hdefault]
  cases setting data enabled "globalnetClusterSize" "65536" with
  | error f => simp [bind, Except.bind]
  | ok raw =>
    simp only [bind, Except.bind, Except.ok.injEq, exists_eq_left', existsAndEq, true_and]
    cases hread : Text.Decimal.read Text.Decimal.wordLimit (Text.trim raw) with
    | error flaw => simp
    | ok m =>
      have hm : m < 2 ^ 64 := ((Text.Decimal.read_eq_ok_iff (by decide)).mp hread).2
      simp only [Except.ok.injEq]
      constructor
      · rintro rfl
        exact (UInt64.toNat_ofNat_of_lt hm).symm
      · rintro rfl
        exact UInt64.ofNat_toNat

private theorem blames_of_readBlockSize (h : readBlockSize data enabled = .error f) : Blames data blockSizeKey f := by
  rcases bind_eq_error_cases h with hsetting | ⟨raw, hsetting, h⟩
  · exact blames_of_setting hsetting
  · rcases setting_eq_ok_iff.mp hsetting with hraw | ⟨-, -, rfl⟩
    · split at h
      · cases h
      · cases h
        exact blames_invalid hraw _
    · have hdefault : Text.Decimal.read Text.Decimal.wordLimit (Text.trim (toString standardBlockSize.toNat)) =
          .ok 65536 := rfl
      rw [hdefault] at h
      cases h

private theorem readEntries_eq_ok_iff {es : List Entry} : readEntries data = .ok es ↔ EntriesAre data es := by
  constructor
  · intro h
    unfold readEntries at h
    cases hraw : data.get? entriesKey with
    | none =>
      rw [hraw] at h
      cases h
      exact .missing hraw
    | some raw =>
      rw [hraw, Option.map_some] at h
      simp only at h
      split_ifs at h with hblank
      · cases h
        exact .blank hraw (Text.trim_eq_iff.mp hblank)
      · split at h
        · rename_i es' hread
          cases h
          obtain ⟨j, hj, hlist⟩ := Option.bind_eq_some_iff.mp hread
          obtain ⟨js, rfl, hes⟩ := Json.list?_eq_some_iff.mp hlist
          exact .array hraw (Text.trim_eq_iff.mp rfl) (Json.read?_eq_some_iff.mp hj)
            (hes.imp fun _ _ => Entry.ofJson?_eq_some_iff.mp)
        · cases h
  · intro h
    unfold readEntries entriesKey
    cases h with
    | missing hraw =>
      rw [hraw]
      rfl
    | blank hraw htrim =>
      rw [hraw, Option.map_some, Text.trim_eq_iff.mpr htrim]
      rfl
    | @array raw text js _ hraw htrim hjson hes =>
      have hlist : Json.list? Entry.ofJson? (.array js) = some es :=
        Json.list?_eq_some_iff.mpr ⟨js, rfl, hes.imp fun _ _ => Entry.ofJson?_eq_some_iff.mpr⟩
      have hread := Json.read?_eq_some_iff.mpr hjson
      have htext : text ≠ "" := by
        rintro rfl
        have hempty : Json.read? "" = none := rfl
        rw [hempty] at hread
        cases hread
      simp only [hraw, Option.map_some, Text.trim_eq_iff.mpr htrim, if_neg htext, hread, Option.bind_some, hlist]

private theorem blames_of_readEntries (h : readEntries data = .error f) : Blames data entriesKey f := by
  unfold readEntries at h
  cases hraw : data.get? entriesKey with
  | none =>
    rw [hraw] at h
    cases h
  | some raw =>
    rw [hraw, Option.map_some] at h
    simp only at h
    split_ifs at h
    split at h
    · cases h
    · cases h
      exact blames_invalid hraw _

/-! ### Reading a record -/

theorem ofData_eq_ok_iff {r : Record} : ofData data = .ok r ↔ IsStored data r := by
  constructor
  · intro h
    obtain ⟨enabled, henabled, h⟩ := bind_eq_ok_cases h
    obtain ⟨net, hsupernet, h⟩ := bind_eq_ok_cases h
    obtain ⟨n, hsize, h⟩ := bind_eq_ok_cases h
    obtain ⟨es, hentries, h⟩ := bind_eq_ok_cases h
    cases h
    exact ⟨readEnabled_eq_ok_iff.mp henabled, readSupernet_eq_ok_iff.mp hsupernet, readBlockSize_eq_ok_iff.mp hsize,
      readEntries_eq_ok_iff.mp hentries⟩
  · intro h
    rw [ofData, readEnabled_eq_ok_iff.mpr h.enabled]
    simp only [bind, Except.bind, readSupernet_eq_ok_iff.mpr h.supernet, readBlockSize_eq_ok_iff.mpr h.defaultBlockSize,
      readEntries_eq_ok_iff.mpr h.entries]
    rfl

/-- What a failed reading would have accepted is not there. -/
private theorem not_of_error {α : Type} {t : Except Failure α} {Q : α → Prop} (hiff : ∀ a, t = .ok a ↔ Q a)
    (h : t = .error f) (a : α) : ¬ Q a := by
  intro ha
  rw [(hiff a).mpr ha] at h
  cases h

private theorem firstFault_of_ofData (h : ofData data = .error f) : ∃ key, FirstFault data key ∧ Blames data key f := by
  rcases bind_eq_error_cases h with henabled | ⟨enabled, henabled, h⟩
  · exact ⟨_, .enabled (not_of_error (fun _ => readEnabled_eq_ok_iff) henabled), blames_of_readEnabled henabled⟩
  have hflag := readEnabled_eq_ok_iff.mp henabled
  rcases bind_eq_error_cases h with hsupernet | ⟨net, hsupernet, h⟩
  · exact ⟨_, .supernet hflag (not_of_error (fun _ => readSupernet_eq_ok_iff) hsupernet),
      blames_of_readSupernet hsupernet⟩
  have hnet := readSupernet_eq_ok_iff.mp hsupernet
  rcases bind_eq_error_cases h with hsize | ⟨n, hsize, h⟩
  · exact ⟨_, .defaultBlockSize hflag hnet (not_of_error (fun _ => readBlockSize_eq_ok_iff) hsize),
      blames_of_readBlockSize hsize⟩
  have hn := readBlockSize_eq_ok_iff.mp hsize
  rcases bind_eq_error_cases h with hentries | ⟨es, -, h⟩
  · exact ⟨_, .entries hflag hnet hn (not_of_error (fun _ => readEntries_eq_ok_iff) hentries),
      blames_of_readEntries hentries⟩
  · cases h

/-- Reading depends on the values of the four keys alone. -/
theorem ofData_congr {data data' : TextMap} (h : ∀ key ∈ keys, data.get? key = data'.get? key) :
    ofData data = ofData data' := by
  have henabled : data.get? enabledKey = data'.get? enabledKey := h enabledKey (by simp [keys])
  have hsupernet : data.get? supernetKey = data'.get? supernetKey := h supernetKey (by simp [keys])
  have hsize : data.get? blockSizeKey = data'.get? blockSizeKey := h blockSizeKey (by simp [keys])
  have hentries : data.get? entriesKey = data'.get? entriesKey := h entriesKey (by simp [keys])
  simp only [ofData, readEnabled, readSupernet, readBlockSize, readEntries, setting, henabled, hsupernet, hsize,
    hentries]

/-- A record is read from a map exactly if the map holds it. Else the failure is one of serialization, and it names the
first of the four keys that is missing or has a value which cannot be read. Keys other than these do not matter. -/
theorem format_is_exact (data : TextMap) :
    (∀ r, ofData data = .ok r ↔ IsStored data r) ∧
    (∀ f, ofData data = .error f → ∃ key, FirstFault data key ∧ Blames data key f) ∧
    ∀ data' : TextMap, (∀ key ∈ ["globalnetEnabled", "globalnetCidrRange", "globalnetClusterSize", "clusterinfo"],
      data'.get? key = data.get? key) → ofData data' = ofData data :=
  ⟨fun _ => ofData_eq_ok_iff, fun _ => firstFault_of_ofData, fun _ => ofData_congr⟩

end Record

end MultiCluster
