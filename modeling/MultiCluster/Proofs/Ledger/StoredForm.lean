import MultiCluster.Proofs.Json.RoundTrip
import MultiCluster.Proofs.Ledger.Format

/-!
# A record reads back from its stored form

The four values of the stored form determine the record: the flag, the supernet with the bits behind its leading
ones, the default block size, and the entries with their identities, plugins and blocks in order. What else a map
holds does not matter. Main statements: `Record.ofData_toData` and `stored_form_determines_record`.
-/

namespace MultiCluster

namespace Entry

private theorem isPlain_ofTexts (ss : List String) : (Json.ofTexts ss).IsPlain := by
  refine .array fun x hx => ?_
  obtain ⟨s, -, rfl⟩ := List.mem_map.mp hx
  exact .text s

private theorem isPlain_toJson (e : Entry) : e.toJson.IsPlain := by
  obtain ⟨cluster, plugin, blocks⟩ := e
  refine .object fun m hm => ?_
  cases plugin with
  | none =>
    change m ∈ [("cluster_id", _), ("global_cidr", _)] at hm
    simp only [List.mem_cons, List.not_mem_nil, or_false] at hm
    rcases hm with rfl | rfl
    · exact .text _
    · exact isPlain_ofTexts _
  | some plugin =>
    change m ∈ [("cluster_id", _), ("network_plugin", _), ("global_cidr", _)] at hm
    simp only [List.mem_cons, List.not_mem_nil, or_false] at hm
    rcases hm with rfl | rfl | rfl
    · exact .text _
    · exact .text _
    · exact isPlain_ofTexts _

private theorem blocksAre_ofTexts (bs : List Network) :
    BlocksAre (some (.ofTexts (bs.map Network.toText))) bs := by
  refine .array ?_
  rw [List.map_map, List.forall₂_map_left_iff, List.forall₂_same]
  exact fun b _ => ⟨b.toText, rfl, Network.spells_toText b⟩

/-- The JSON object of an entry describes it; a plugin that the entry has not got is left out. -/
private theorem isDescribedBy_toJson (e : Entry) : e.IsDescribedBy e.toJson := by
  obtain ⟨cluster, plugin, blocks⟩ := e
  have hblocks := blocksAre_ofTexts blocks
  unfold toJson
  generalize Json.ofTexts (blocks.map Network.toText) = b at hblocks ⊢
  cases plugin with
  | none => exact ⟨_, .object (by simp) fun _ _ => rfl, rfl, PluginIs.missing, hblocks⟩
  | some plugin => exact ⟨_, .object (by simp) fun _ _ => rfl, rfl, PluginIs.text plugin, hblocks⟩

end Entry

namespace Record

private theorem get?_toData (r : Record) :
    r.toData.get? enabledKey = some (if r.enabled then "true" else "false") ∧
      r.toData.get? supernetKey = some (Json.text r.supernet.toText).compact ∧
      r.toData.get? blockSizeKey = some r.defaultBlockSize.toNat.repr ∧
      r.toData.get? entriesKey = some (Json.array (r.entries.map Entry.toJson)).indented := by
  simp [TextMap.get?, toData, enabledKey, supernetKey, blockSizeKey, entriesKey, List.lookup_cons]

private theorem trimsTo_repr (n : Nat) : Text.TrimsTo n.repr n.repr := by
  refine Text.trim_eq_iff.mp (Text.trim_of_no_blank fun c hc => Text.isBlank_of_isDigit ?_)
  rw [Nat.toList_repr] at hc
  exact Nat.isDigit_of_mem_toDigits (by decide) (by decide) hc

private theorem spells_repr (n : Nat) : Text.Decimal.Spells n.repr n :=
  ⟨_, .inl rfl, by rw [Nat.toList_repr]; exact Text.Decimal.isNumeral_toDigits n⟩

/-- The text of an array begins and ends with a bracket. -/
private theorem trimsTo_indented_array (js : List Json) :
    Text.TrimsTo (Json.array js).indented (Json.array js).indented := by
  obtain ⟨cs, h⟩ : ∃ cs, (Json.array js).indented.toList = '[' :: (cs ++ [']']) := by
    rw [Json.indented, String.toList_ofList]
    cases js with
    | nil => exact ⟨[], by rw [Json.write]; rfl⟩
    | cons j js => exact ⟨_, by rw [Json.write]; rfl⟩
  refine Text.trim_eq_iff.mp (Text.trim_eq_self ?_ ?_)
  · rw [h]; intro c hc; cases hc; decide
  · rw [h, ← List.cons_append, List.getLast?_concat]; intro c hc; cases hc; decide

private theorem holds_indented_entries (es : List Entry) :
    Json.Holds (Json.array (es.map Entry.toJson)).indented (.array (es.map Entry.toJson)) := by
  refine Json.read?_eq_some_iff.mp (Json.read?_indented (.array fun x hx => ?_))
  obtain ⟨e, -, rfl⟩ := List.mem_map.mp hx
  exact e.isPlain_toJson

/-- The stored form of a record holds the record. -/
private theorem isStored_toData (r : Record) : IsStored r.toData r := by
  obtain ⟨henabled, hsupernet, hsize, hentries⟩ := get?_toData r
  have hflag : Text.TrimsTo (if r.enabled then "true" else "false") (if r.enabled then "true" else "false") := by
    cases r.enabled <;> exact Text.trim_eq_iff.mp rfl
  have hquoted : Json.Holds (Json.text r.supernet.toText).compact (.text r.supernet.toText) :=
    Json.read?_eq_some_iff.mp (Json.read?_compact (.text _))
  have hdescribed : List.Forall₂ (fun j e => e.IsDescribedBy j) (r.entries.map Entry.toJson) r.entries := by
    rw [List.forall₂_map_left_iff, List.forall₂_same]
    exact fun e _ => e.isDescribedBy_toJson
  exact {
    enabled := ⟨_, henabled, hflag⟩
    supernet := ⟨_, _, _, .inl hsupernet, .quoted hquoted, Text.trim_eq_iff.mp (Network.trim_toText _),
      Network.spells_toText _⟩
    defaultBlockSize := ⟨_, _, .inl hsize, trimsTo_repr _, spells_repr _⟩
    entries := .array hentries (trimsTo_indented_array _) (holds_indented_entries _) hdescribed }

/-- A record reads back from its stored form. -/
theorem ofData_toData (r : Record) : ofData r.toData = .ok r :=
  ofData_eq_ok_iff.mpr r.isStored_toData

theorem map_fst_toData (r : Record) : r.toData.pairs.map Prod.fst = keys := rfl

/-- The stored form has the four keys and no other. -/
theorem contains_toData {r : Record} {key : String} : r.toData.contains key = true ↔ key ∈ keys := by
  rw [TextMap.contains_iff, map_fst_toData]

end Record

/-- The stored form of a record has exactly four keys. The record reads back from it, and from every map that has the
same values under these keys, whatever other keys the map has. -/
theorem stored_form_determines_record (r : Record) :
    (∀ key, r.toData.contains key = true ↔
      key ∈ ["globalnetEnabled", "globalnetCidrRange", "globalnetClusterSize", "clusterinfo"]) ∧
    Record.ofData r.toData = .ok r ∧
    ∀ data : TextMap, (∀ key ∈ Record.keys, data.get? key = r.toData.get? key) → Record.ofData data = .ok r := by
  refine ⟨fun key => Record.contains_toData, Record.ofData_toData r, fun data hdata => ?_⟩
  rw [Record.ofData_congr hdata, Record.ofData_toData]

/-- Texts that have to be escaped, empty ones, a cluster that occurs twice, the last address and the largest size. -/
theorem extended_stored_form_determines_record :
    let r : Record := {
      enabled := true
      supernet := { address := 4060151041, length := 8 }
      defaultBlockSize := 18446744073709551615
      entries := [
        { cluster := "a\"b\\c\n\u0001é🙂", plugin := some "", blocks := [] },
        { cluster := "", plugin := none, blocks := [{ address := 4294967295, length := 32 }] },
        { cluster := "", plugin := some "\u2028\t", blocks := [{ address := 4060151041, length := 0 }] }] }
    let data := r.toData.insert "notes" "globalnetEnabled"
    data.get? "notes" = some "globalnetEnabled" ∧ Record.ofData data = .ok r := by
  intro r data
  have hget : ∀ key, data.get? key = if key = "notes" then some "globalnetEnabled" else r.toData.get? key :=
    r.toData.get?_insert "notes" "globalnetEnabled"
  refine ⟨by rw [hget]; rfl, (stored_form_determines_record r).2.2 data fun key hkey => ?_⟩
  rw [hget, if_neg]
  rintro rfl
  exact absurd hkey (by decide)

end MultiCluster
