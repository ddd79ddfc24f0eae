import Mathlib.Logic.Relation
import MultiCluster.Api.Clients

/-!
# Whose secret a credential is read from

The secrets of all clusters lie side by side at the broker. The credential of an account is the one that the first of
its secrets holds, and a secret without a token does not stand in the way of a later one. The secrets of other accounts
do not matter, whatever they hold and wherever they stand.

Main statement: `Credential.credential_is_of_own_secret`.
-/

namespace MultiCluster

/-- The texts that bytes are read as in UTF-8 are those whose encoding they are. -/
private theorem Bytes.toText?_eq_some_iff {bytes : Bytes} {s : String} : bytes.toText? = some s ↔ bytes = ofText s := by
  unfold toText? ofText
  constructor
  · intro h
    unfold String.fromUTF8? at h
    split at h
    · cases h
      rfl
    · cases h
  · rintro rfl
    rw [String.fromUTF8?, String.toUTF8_eq_toByteArray]
    exact dif_pos s.isValidUTF8

namespace Secret

/-- A secret is annotated for an account. -/
def IsFor (s : Secret) (account : String) : Prop :=
  s.metadata.annotation? "kubernetes.io/service-account.name" = some account

/-- The token of a secret is a text that is not empty. -/
def HasToken (s : Secret) (token : String) : Prop :=
  s.get? "token" = some (Bytes.ofText token) ∧ token ≠ ""

end Secret

namespace Credential

variable {identity account : String} {secrets secrets' : List Secret} {secret : Secret} {c : Credential} {σ τ : Type}

/-! ### One secret -/

/-- A credential is the one of its identity that a secret holds. A secret without a certificate holds an empty one. -/
structure IsHeldBy (c : Credential) (s : Secret) : Prop where
  account : s.IsFor c.identity
  token : s.HasToken c.token
  ca : c.ca = (s.get? "ca.crt").getD []

private theorem isIssuedTo_iff : isIssuedTo secret identity = true ↔ secret.IsFor identity :=
  beq_iff_eq

private theorem ofSecret?_eq_some_iff : ofSecret? identity secret = some c ↔
    c.identity = identity ∧ secret.HasToken c.token ∧ c.ca = (secret.get? "ca.crt").getD [] := by
  simp only [ofSecret?, Option.bind_eq_bind, Option.bind_eq_some_iff, Bytes.toText?_eq_some_iff, Secret.HasToken]
  constructor
  · rintro ⟨_, htoken, token, rfl, heq⟩
    by_cases hempty : token = ""
    · rw [if_pos hempty] at heq
      cases heq
    · rw [if_neg hempty] at heq
      cases heq
      exact ⟨rfl, ⟨htoken, hempty⟩, rfl⟩
  · rintro ⟨rfl, ⟨htoken, hfilled⟩, hca⟩
    refine ⟨_, htoken, c.token, rfl, ?_⟩
    rw [if_neg hfilled, ← hca]

/-- The credential that a secret holds if it is one of the account. -/
def heldFor? (account : String) (s : Secret) : Option Credential :=
  if isIssuedTo s account then ofSecret? account s else none

private theorem heldFor?_eq_some_iff : heldFor? account secret = some c ↔ c.identity = account ∧ c.IsHeldBy secret := by
  rw [heldFor?, Option.ite_none_right_eq_some, isIssuedTo_iff, ofSecret?_eq_some_iff]
  constructor
  · rintro ⟨haccount, rfl, htoken, hca⟩
    exact ⟨rfl, haccount, htoken, hca⟩
  · rintro ⟨rfl, haccount, htoken, hca⟩
    exact ⟨haccount, rfl, htoken, hca⟩

private theorem heldFor?_eq_none_iff :
    heldFor? account secret = none ↔ ¬ (secret.IsFor account ∧ ∃ token, secret.HasToken token) := by
  rw [Option.eq_none_iff_forall_ne_some]
  constructor
  · rintro h ⟨haccount, token, htoken⟩
    exact h { identity := account, token, ca := _ } (heldFor?_eq_some_iff.mpr ⟨rfl, haccount, htoken, rfl⟩)
  · rintro h c hc
    obtain ⟨rfl, hheld⟩ := heldFor?_eq_some_iff.mp hc
    exact h ⟨hheld.account, c.token, hheld.token⟩

/-! ### All secrets -/

private theorem ofSecrets?_eq (identity : String) (secrets : List Secret) :
    ofSecrets? identity secrets = secrets.findSome? (heldFor? identity) := by
  unfold ofSecrets?
  induction secrets with
  | nil => rfl
  | cons s secrets ih =>
    rw [List.filter_cons, List.findSome?_cons, heldFor?]
    cases isIssuedTo s identity with
    | true => exact (List.findSome?_cons ..).trans (by rw [ih]; rfl)
    | false => exact ih

private theorem ofSecrets?_eq_some_iff : ofSecrets? identity secrets = some c ↔
    c.identity = identity ∧ ∃ before secret after, secrets = before ++ secret :: after ∧ c.IsHeldBy secret ∧
      ∀ s ∈ before, ¬ (s.IsFor identity ∧ ∃ token, s.HasToken token) := by
  simp only [ofSecrets?_eq, List.findSome?_eq_some_iff, heldFor?_eq_some_iff, heldFor?_eq_none_iff]
  constructor
  · rintro ⟨before, secret, after, hsecrets, ⟨hidentity, hheld⟩, hbefore⟩
    exact ⟨hidentity, before, secret, after, hsecrets, hheld, hbefore⟩
  · rintro ⟨hidentity, before, secret, after, hsecrets, hheld, hbefore⟩
    exact ⟨before, secret, after, hsecrets, ⟨hidentity, hheld⟩, hbefore⟩

private theorem isSome_ofSecrets?_iff : (ofSecrets? identity secrets).isSome = true ↔
    ∃ secret ∈ secrets, secret.IsFor identity ∧ ∃ token, secret.HasToken token := by
  have hheld : ∀ s, (heldFor? identity s).isSome = true ↔ s.IsFor identity ∧ ∃ token, s.HasToken token := by
    intro s
    rw [Option.isSome_iff_ne_none, ne_eq, heldFor?_eq_none_iff, Classical.not_not]
  rw [ofSecrets?_eq, List.findSome?_isSome_iff]
  simp only [hheld]

/-! ### Secrets of other accounts -/

/-- Some secrets become others, while those of an account stay as they are and in their order: a secret that is not one
of them is added, removed, or made another one that is not, or it changes places with a neighbour. -/
inductive Edits (account : String) : List Secret → List Secret → Prop
  | add {before after : List Secret} {s : Secret} (h : ¬ s.IsFor account) :
      Edits account (before ++ after) (before ++ s :: after)
  | remove {before after : List Secret} {s : Secret} (h : ¬ s.IsFor account) :
      Edits account (before ++ s :: after) (before ++ after)
  | change {before after : List Secret} {s s' : Secret} (h : ¬ s.IsFor account) (h' : ¬ s'.IsFor account) :
      Edits account (before ++ s :: after) (before ++ s' :: after)
  | swap {before after : List Secret} {s t : Secret} (h : ¬ s.IsFor account ∨ ¬ t.IsFor account) :
      Edits account (before ++ s :: t :: after) (before ++ t :: s :: after)

private theorem Edits.filter_eq (h : Edits account secrets secrets') :
    secrets'.filter (fun s => isIssuedTo s account) = secrets.filter fun s => isIssuedTo s account := by
  have hother : ∀ {s : Secret}, ¬ s.IsFor account → isIssuedTo s account = false :=
    fun h => Bool.eq_false_iff.mpr fun hissued => h (isIssuedTo_iff.mp hissued)
  cases h with
  | add h => simp [hother h]
  | remove h => simp [hother h]
  | change h h' => simp [hother h, hother h']
  | swap h =>
    rcases h with h | h
    · simp [List.filter_cons, hother h]
    · simp [List.filter_cons, hother h]

private theorem ofSecrets?_eq_of_reflTransGen (h : Relation.ReflTransGen (Edits account) secrets secrets') :
    ofSecrets? account secrets' = ofSecrets? account secrets := by
  have hown : secrets'.filter (fun s => isIssuedTo s account) = secrets.filter fun s => isIssuedTo s account := by
    induction h with
    | refl => rfl
    | tail _ hstep ih => rw [hstep.filter_eq, ih]
  rw [ofSecrets?, hown, ofSecrets?]

/-! ### Requests for a credential -/

private theorem run_fetchCredential {w : Program.World Api.interface σ} {s s' : σ} {space : String}
    (h : w.answer (.secrets space) s = (.ok secrets, s')) (identity : String) :
    (Api.fetchCredential space (.fetch identity)).run w s = (some (.ok (ofSecrets? identity secrets)), s') := by
  show (some ((Api.toFailure (w.answer (.secrets space) s).1).map _), (w.answer (.secrets space) s).2) = _
  rw [h]
  rfl

/-- A server that has some secrets, and nothing else. -/
def keeping (secrets : List Secret) : Program.World Api.interface Unit where
  answer
    | .secrets _, s => (.ok secrets, s)
    | _, s => (.error (.status "Failure" "not found" "NotFound" 404), s)

/-- A credential is the one of the first secret of the account that has a token, and edits to the secrets of other
accounts do not change that. -/
theorem credential_is_of_own_secret (w : Program.World Api.interface σ) (s s' : σ) (space identity : String)
    (secrets : List Secret) (hsecrets : w.answer (.secrets space) s = (.ok secrets, s')) :
    ∃ found, (Api.fetchCredential space (.fetch identity)).run w s = (some (.ok found), s') ∧
      (found.isSome = true ↔ ∃ secret ∈ secrets, secret.IsFor identity ∧ ∃ token, secret.HasToken token) ∧
      (∀ c, found = some c ↔ c.identity = identity ∧ ∃ before secret after,
        secrets = before ++ secret :: after ∧ c.IsHeldBy secret ∧
        ∀ earlier ∈ before, ¬ (earlier.IsFor identity ∧ ∃ token, earlier.HasToken token)) ∧
      ∀ {τ : Type} (w' : Program.World Api.interface τ) (t t' : τ) (secrets' : List Secret),
        Relation.ReflTransGen (Edits identity) secrets secrets' → w'.answer (.secrets space) t = (.ok secrets', t') →
        (Api.fetchCredential space (.fetch identity)).run w' t = (some (.ok found), t') := by
  refine ⟨ofSecrets? identity secrets, run_fetchCredential hsecrets identity, isSome_ofSecrets?_iff,
    fun c => ofSecrets?_eq_some_iff, ?_⟩
  intro τ w' t t' secrets' hedits hsecrets'
  rw [run_fetchCredential hsecrets' identity, ofSecrets?_eq_of_reflTransGen hedits]

/-- A secret for an account, with bytes by key. -/
def secretFor (account : String) (data : BytesMap) : Secret :=
  { metadata := { annotations := some ⟨[("kubernetes.io/service-account.name", account)]⟩ }, data }

/-- The secret of another cluster stands first, and then one whose token is not filled in. The credential is that of the
third secret, whether the other cluster has one or not. -/
theorem credential_is_found_behind_others :
    let west := secretFor "cluster-west" [("token", Bytes.ofText "west")]
    let unfilled := secretFor "cluster-east" [("token", []), ("ca.crt", Bytes.ofText "PEM")]
    let filled := secretFor "cluster-east" [("token", Bytes.ofText "east"), ("ca.crt", Bytes.ofText "PEM")]
    let later := secretFor "cluster-east" [("token", Bytes.ofText "later")]
    let c : Credential := { identity := "cluster-east", token := "east", ca := Bytes.ofText "PEM" }
    let own := [unfilled, filled, later]
    let fetch := Api.fetchCredential "submariner-k8s-broker" (.fetch "cluster-east")
    (keeping (west :: own)).answer (.secrets "submariner-k8s-broker") () = (.ok (west :: own), ()) ∧
      (keeping own).answer (.secrets "submariner-k8s-broker") () = (.ok own, ()) ∧
      Relation.ReflTransGen (Edits "cluster-east") (west :: own) own ∧
      fetch.run (keeping (west :: own)) () = (some (.ok (some c)), ()) ∧
      fetch.run (keeping own) () = (some (.ok (some c)), ()) := by
  intro west unfilled filled later c own fetch
  obtain ⟨found, hrun, -, hfound, hedits⟩ := credential_is_of_own_secret (keeping (west :: own)) () ()
    "submariner-k8s-broker" "cluster-east" (west :: own) rfl
  have hwest : ¬ west.IsFor "cluster-east" := by
    simp [Secret.IsFor, west, secretFor, Metadata.annotation?, TextMap.get?]
  have hunfilled : ¬ ∃ token, unfilled.HasToken token := by
    rintro ⟨token, htoken, hne⟩
    have hempty : Bytes.ofText token = Bytes.ofText "" := (Option.some.inj htoken).symm
    have hread : Bytes.toText? (Bytes.ofText token) = some token := Bytes.toText?_eq_some_iff.mpr rfl
    rw [hempty, Bytes.toText?_eq_some_iff.mpr rfl] at hread
    exact hne (Option.some.inj hread).symm
  have hheld : c.IsHeldBy filled := ⟨rfl, ⟨rfl, by decide⟩, rfl⟩
  have hc : found = some c := by
    refine (hfound c).mpr ⟨rfl, [west, unfilled], filled, [later], rfl, hheld, ?_⟩
    intro earlier hearlier
    rcases List.mem_cons.mp hearlier with rfl | hearlier
    · exact fun h => hwest h.1
    · rw [List.mem_singleton.mp hearlier]
      exact fun h => hunfilled h.2
  have hremoved : Relation.ReflTransGen (Edits "cluster-east") (west :: own) own :=
    .single (@Edits.remove "cluster-east" [] own west hwest)
  rw [hc] at hrun hedits
  exact ⟨rfl, rfl, hremoved, hrun, hedits (keeping own) () () own hremoved rfl⟩

end Credential

end MultiCluster
