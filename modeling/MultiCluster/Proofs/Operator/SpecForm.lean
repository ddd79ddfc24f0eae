import MultiCluster.Operator.Membership
import MultiCluster.Proofs.Json.Fields
import MultiCluster.Proofs.Json.RoundTrip

/-!
# The JSON form of what a membership asks for

A JSON value describes what a membership asks for by its fields, from which those with a default may be missing. What is
written has all of these fields, so that it means the same whatever the defaults are, and it reads back. So reading and
writing again only fills in the defaults.

Main statements: `MembershipSpec.ofJson?_eq_some_iff` and `MembershipSpec.specs_survive_serialization`.
-/

namespace MultiCluster

/-! ### What a value describes -/

/-- A JSON value is the name of an action, by itself or as the only key of an object. -/
def Action.IsNamedBy (a : Action) (j : Json) : Prop :=
  j = .text a.name ∨ j = .object [(a.name, .null)]

/-- A JSON value describes the settings of a broker domain, with `defaults` for what is missing. -/
def BrokerConfig.IsDescribedBy (defaults : Option BrokerConfig) (c : BrokerConfig) (j : Json) : Prop :=
  ∃ v, Json.HasFields
      ["connectivityEnabled", "globalnetEnable", "globalnetCidrRange", "defaultGlobalnetClusterSize"] j v ∧
    Json.FieldIs (fun j b => j = .bool b) (defaults.map connectivity) (v "connectivityEnabled") c.connectivity ∧
    Json.FieldIs (fun j b => j = .bool b) (defaults.map globalAddressing) (v "globalnetEnable") c.globalAddressing ∧
    Json.FieldIs (fun j s => j = .text s) (defaults.map supernet) (v "globalnetCidrRange") c.supernet ∧
    Json.FieldIs (fun j n => j = .ofWord n) (defaults.map blockSize) (v "defaultGlobalnetClusterSize") c.blockSize

/-- A JSON value describes the settings of a cluster that joins; only the last field has a default. -/
def JoinConfig.IsDescribedBy (labelGateway : Option Bool) (c : JoinConfig) (j : Json) : Prop :=
  ∃ v, Json.HasFields
      ["clusterID", "serviceCIDR", "clusterCIDR", "globalnetCIDR", "globalnetClusterSize", "labelGateway"] j v ∧
    Json.FieldIs (fun j s => j = .text s) none (v "clusterID") c.cluster ∧
    Json.OptionalIs (fun j s => j = .text s) (v "serviceCIDR") c.serviceCidr ∧
    Json.OptionalIs (fun j s => j = .text s) (v "clusterCIDR") c.clusterCidr ∧
    Json.OptionalIs (fun j s => j = .text s) (v "globalnetCIDR") c.globalCidr ∧
    Json.OptionalIs (fun j n => j = .ofWord n) (v "globalnetClusterSize") c.blockSize ∧
    Json.FieldIs (fun j b => j = .bool b) labelGateway (v "labelGateway") c.labelGateway

/-- A JSON value describes what a membership asks for, with `defaults` for what is missing. -/
def MembershipSpec.IsDescribedBy (defaults : Option MembershipSpec) (s : MembershipSpec) (j : Json) : Prop :=
  ∃ v, Json.HasFields ["action", "brokerConfig", "joinConfig"] j v ∧
    Json.FieldIs (fun j a => Action.IsNamedBy a j) (defaults.map action) (v "action") s.action ∧
    Json.FieldIs (fun j c => BrokerConfig.IsDescribedBy (defaults.map broker) c j) (defaults.map broker)
      (v "brokerConfig") s.broker ∧
    Json.OptionalIs (fun j c => JoinConfig.IsDescribedBy (defaults.map fun _ => true) c j) (v "joinConfig") s.join

/-- What a membership asks for if it says nothing. -/
def MembershipSpec.standard : MembershipSpec where
  action := .all
  broker := { connectivity := true, globalAddressing := false, supernet := "242.0.0.0/8", blockSize := 65536 }
  join := none

/-! ### Reading it -/

private theorem Action.ofJson?_eq_some_iff {j : Json} {a : Action} : Action.ofJson? j = some a ↔ a.IsNamedBy j := by
  have hname : ∀ {s}, Action.ofName? s = some a ↔ s = a.name := by
    intro s
    unfold Action.ofName?
    cases a <;> split <;> simp_all [Action.name]
  simp only [Action.ofJson?, Option.bind_eq_some_iff, Json.name?_eq_some_iff, hname, Action.IsNamedBy, exists_eq_right]

variable {j : Json}

private theorem BrokerConfig.ofJson?_eq_some_iff {c : BrokerConfig} :
    ofJson? j = some c ↔ c.IsDescribedBy (some MembershipSpec.standard.broker) j := by
  simp only [ofJson?, Option.bind_eq_bind, Option.bind_eq_some_iff,
    Json.Fields.orElse_eq_some_iff Json.asBool?_eq_some_iff, Json.Fields.orElse_eq_some_iff Json.asText?_eq_some_iff,
    Json.Fields.orElse_eq_some_iff Json.asWord?_eq_some_iff]
  constructor
  · rintro ⟨f, hf, b, hb, g, hg, s, hs, n, hn, heq⟩
    cases heq
    exact ⟨f.value?, Json.hasFields_of_fields? hf, hb, hg, hs, hn⟩
  · rintro ⟨v, hv, hb, hg, hs, hn⟩
    obtain ⟨f, hf, hvalue⟩ := hv.exists_fields?
    rw [← hvalue _ (by simp)] at hb hg hs hn
    exact ⟨f, hf, _, hb, _, hg, _, hs, _, hn, rfl⟩

private theorem JoinConfig.ofJson?_eq_some_iff {c : JoinConfig} :
    ofJson? j = some c ↔ c.IsDescribedBy (some true) j := by
  simp only [ofJson?, Option.bind_eq_bind, Option.bind_eq_some_iff,
    Json.Fields.required_eq_some_iff Json.asText?_eq_some_iff,
    Json.Fields.optional_eq_some_iff Json.asText?_eq_some_iff,
    Json.Fields.optional_eq_some_iff Json.asWord?_eq_some_iff,
    Json.Fields.orElse_eq_some_iff Json.asBool?_eq_some_iff]
  constructor
  · rintro ⟨f, hf, cluster, hcluster, s, hs, p, hp, g, hg, n, hn, l, hl, heq⟩
    cases heq
    exact ⟨f.value?, Json.hasFields_of_fields? hf, hcluster, hs, hp, hg, hn, hl⟩
  · rintro ⟨v, hv, hcluster, hs, hp, hg, hn, hl⟩
    obtain ⟨f, hf, hvalue⟩ := hv.exists_fields?
    rw [← hvalue _ (by simp)] at hcluster hs hp hg hn hl
    exact ⟨f, hf, _, hcluster, _, hs, _, hp, _, hg, _, hn, _, hl, rfl⟩

namespace MembershipSpec

variable {s : MembershipSpec}

theorem ofJson?_eq_some_iff : ofJson? j = some s ↔ s.IsDescribedBy (some standard) j := by
  simp only [ofJson?, Option.bind_eq_bind, Option.bind_eq_some_iff,
    Json.Fields.orElse_eq_some_iff Action.ofJson?_eq_some_iff,
    Json.Fields.orElse_eq_some_iff BrokerConfig.ofJson?_eq_some_iff,
    Json.Fields.optional_eq_some_iff JoinConfig.ofJson?_eq_some_iff]
  constructor
  · rintro ⟨f, hf, a, ha, b, hb, join, hjoin, heq⟩
    cases heq
    exact ⟨f.value?, Json.hasFields_of_fields? hf, ha, hb, hjoin⟩
  · rintro ⟨v, hv, ha, hb, hjoin⟩
    obtain ⟨f, hf, hvalue⟩ := hv.exists_fields?
    rw [← hvalue _ (by simp)] at ha hb hjoin
    exact ⟨f, hf, _, ha, _, hb, _, hjoin, rfl⟩

private theorem ofText?_eq_some_iff {text : String} :
    ofText? text = some s ↔ ∃ j, Json.Holds text j ∧ s.IsDescribedBy (some standard) j := by
  simp only [ofText?, Option.bind_eq_some_iff, Json.read?_eq_some_iff, ofJson?_eq_some_iff]

end MembershipSpec

/-! ### Writing it -/

namespace Json

variable {α : Type} {encode : α → Json}

private theorem lookup_optionalMember (key name : String) (encode : α → Json) (o : Option α) :
    (optionalMember key encode o).lookup name = if name = key then o.map encode else none := by
  cases o with
  | none => simp [optionalMember]
  | some a =>
    by_cases h : name = key
    · simp [optionalMember, h]
    · have hne : (name == key) = false := beq_eq_false_iff_ne.mpr h
      simp [optionalMember, List.lookup_cons, h, hne]

private theorem keys_optionalMember (key : String) (encode : α → Json) (o : Option α) :
    ((optionalMember key encode o).map Prod.fst).Sublist [key] := by
  cases o with
  | none => exact List.nil_sublist _
  | some a => exact List.Sublist.refl _

private theorem isPlain_optionalMember (hencode : ∀ a, (encode a).IsPlain) (key : String) (o : Option α) :
    ∀ m ∈ optionalMember key encode o, m.2.IsPlain := by
  cases o with
  | none => nofun
  | some a => simpa [optionalMember] using hencode a

/-- An optional value is the value of a field that is left out for none. -/
private theorem optionalIs_map {P : Json → α → Prop} (hencode : ∀ a, encode a ≠ null ∧ P (encode a) a) (o : Option α) :
    OptionalIs P (o.map encode) o := by
  cases o with
  | none => exact .missing
  | some a => exact .given (hencode a).1 (hencode a).2

end Json

namespace BrokerConfig

private theorem isPlain_toJson (c : BrokerConfig) : c.toJson.IsPlain := by
  refine .object ?_
  simp only [List.forall_mem_cons]
  exact ⟨.bool _, .bool _, .text _, .integer _, nofun⟩

private theorem isDescribedBy_toJson (defaults : Option BrokerConfig) (c : BrokerConfig) :
    c.IsDescribedBy defaults c.toJson :=
  ⟨_, Json.hasFields_of_sublist (List.Sublist.refl _) (by decide), .given rfl, .given rfl, .given rfl, .given rfl⟩

end BrokerConfig

namespace JoinConfig

private theorem isPlain_toJson (c : JoinConfig) : c.toJson.IsPlain := by
  refine .object ?_
  simp only [List.forall_mem_append, List.forall_mem_cons]
  have htexts := Json.isPlain_optionalMember Json.IsPlain.text
  have hword : ∀ n : UInt64, (Json.ofWord n).IsPlain := fun n => .integer _
  have hwords := Json.isPlain_optionalMember hword
  exact ⟨⟨⟨⟨⟨.text _, htexts _ _⟩, htexts _ _⟩, htexts _ _⟩, hwords _ _⟩, .bool _, nofun⟩

private theorem isDescribedBy_toJson (labelGateway : Option Bool) (c : JoinConfig) :
    c.IsDescribedBy labelGateway c.toJson := by
  have htext : ∀ s : String, Json.text s ≠ .null ∧ Json.text s = .text s := fun s => ⟨nofun, rfl⟩
  have hword : ∀ n : UInt64, Json.ofWord n ≠ .null ∧ Json.ofWord n = .ofWord n := fun n => ⟨nofun, rfl⟩
  refine ⟨_, Json.hasFields_of_sublist ?_ (by decide), ?_⟩
  · have hkeys := fun key o => Json.keys_optionalMember key Json.text o
    have hsublist := (((((hkeys "serviceCIDR" c.serviceCidr).cons_cons "clusterID").append
      (hkeys "clusterCIDR" c.clusterCidr)).append (hkeys "globalnetCIDR" c.globalCidr)).append
      (Json.keys_optionalMember "globalnetClusterSize" Json.ofWord c.blockSize)).append
      (List.Sublist.refl ["labelGateway"])
    simp only [List.map_append, List.map_cons, List.map_nil]
    exact hsublist
  · simp only [List.cons_append, List.append_assoc, List.lookup_cons_self, List.lookup_cons, String.reduceBEq,
      List.lookup_append, Json.lookup_optionalMember, ↓reduceIte, String.reduceEq, List.lookup_nil, Option.or_self,
      Option.or_none, Option.none_or, Option.or_some, Option.getD_none]
    exact ⟨.given rfl, Json.optionalIs_map htext _, Json.optionalIs_map htext _, Json.optionalIs_map htext _,
      Json.optionalIs_map hword _, .given rfl⟩

end JoinConfig

namespace MembershipSpec

private theorem isPlain_toJson (s : MembershipSpec) : s.toJson.IsPlain := by
  refine .object ?_
  simp only [List.forall_mem_append, List.forall_mem_cons]
  exact ⟨⟨.text _, s.broker.isPlain_toJson, nofun⟩, Json.isPlain_optionalMember JoinConfig.isPlain_toJson _ _⟩

/-- The JSON object of what a membership asks for describes it, whatever the defaults are. -/
private theorem isDescribedBy_toJson (defaults : Option MembershipSpec) (s : MembershipSpec) :
    s.IsDescribedBy defaults s.toJson := by
  have hjoin : ∀ c : JoinConfig, c.toJson ≠ .null ∧ c.IsDescribedBy (defaults.map fun _ => true) c.toJson :=
    fun c => ⟨nofun, c.isDescribedBy_toJson _⟩
  refine ⟨_, Json.hasFields_of_sublist ?_ (by decide), ?_⟩
  · have hkeys := Json.keys_optionalMember "joinConfig" JoinConfig.toJson s.join
    simp only [List.map_append, List.map_cons, List.map_nil]
    exact (List.Sublist.refl ["action", "brokerConfig"]).append hkeys
  · simp only [List.cons_append, List.nil_append, List.lookup_cons_self, List.lookup_cons, String.reduceBEq,
      Json.lookup_optionalMember, ↓reduceIte]
    exact ⟨.given (.inl rfl), .given (s.broker.isDescribedBy_toJson _), Json.optionalIs_map hjoin _⟩

/-- What is written is read as the object that it was written from. -/
private theorem holds_toText (s : MembershipSpec) : Json.Holds s.toText s.toJson :=
  Json.read?_eq_some_iff.mp (Json.read?_compact s.isPlain_toJson)

private theorem ofText?_toText (s : MembershipSpec) : ofText? s.toText = some s :=
  ofText?_eq_some_iff.mpr ⟨s.toJson, s.holds_toText, s.isDescribedBy_toJson _⟩

/-- Reads a text and writes what was read. -/
def normalize? (text : String) : Option String :=
  (ofText? text).map toText

private theorem ofText?_normalize? (text : String) : (normalize? text).bind ofText? = ofText? text := by
  unfold normalize?
  cases ofText? text with
  | none => rfl
  | some s => rw [Option.map_some, Option.bind_some, ofText?_toText]

private theorem normalize?_normalize? (text : String) : (normalize? text).bind normalize? = normalize? text := by
  have h := congrArg (Option.map toText) (ofText?_normalize? text)
  rwa [Option.map_bind] at h

/-- What a membership asks for reads back after it is written, and writing what was read only fills in the defaults. -/
theorem specs_survive_serialization :
    (∀ s : MembershipSpec, ofText? s.toText = some s) ∧
    (∀ text, (normalize? text).bind ofText? = ofText? text) ∧
    (∀ text, (normalize? text).bind normalize? = normalize? text) ∧
    (∀ s : MembershipSpec, ∃ j, Json.Holds s.toText j ∧ s.IsDescribedBy none j) ∧
    ∀ text s, ofText? text = some s ↔ ∃ j, Json.Holds text j ∧ s.IsDescribedBy (some standard) j := by
  refine ⟨ofText?_toText, ofText?_normalize?, normalize?_normalize?, fun s => ?_, fun _ _ => ofText?_eq_some_iff⟩
  exact ⟨s.toJson, s.holds_toText, s.isDescribedBy_toJson none⟩

end MembershipSpec

end MultiCluster
