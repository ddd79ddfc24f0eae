import Mathlib.Data.List.Nodup
import MultiCluster.Proofs.Concurrency.Polling
import MultiCluster.Proofs.Operator.Termination

/-!
# How a gateway is labelled

A cluster gets a gateway only if it has none, and then it is always the same node that is labelled: the first worker, or
else the first node that is not a master. Requests are repeated after conflicts only. Once the node is labelled there is
nothing left to do.

Main statement: `labeling_is_minimal`.
-/

namespace MultiCluster.Gateway

open Program (World)

variable {σ : Type} {nodes nodes' : List Node} {n n' : Node} {w : World Api.interface σ} {s s' : σ}

/-! ### Choosing a node -/

/-- A node is labelled as gateway. -/
def Serves (n : Node) : Prop :=
  n.metadata.label? "submariner.io/gateway" = some "true"

/-- A node has a role, whatever the value of the label is. -/
def HasRole (role : String) (n : Node) : Prop :=
  ∃ value, n.metadata.label? ("node-role.kubernetes.io/" ++ role) = some value

/-- There is a gateway already, or no node can become one. -/
def Complete (nodes : List Node) : Prop :=
  (∃ n ∈ nodes, Serves n) ∨ ∀ n ∈ nodes, ¬ HasRole "worker" n ∧ HasRole "master" n

/-- A node is the first one with a property. -/
def IsFirst (P : Node → Prop) (nodes : List Node) (n : Node) : Prop :=
  P n ∧ ∃ before after, nodes = before ++ n :: after ∧ ∀ m ∈ before, ¬ P m

/-- The node that is to become the gateway. -/
inductive Chosen (nodes : List Node) (n : Node) : Prop
  | worker (h : IsFirst (HasRole "worker") nodes n)
  | other (hnone : ∀ m ∈ nodes, ¬ HasRole "worker" m) (h : IsFirst (fun m => ¬ HasRole "master" m) nodes n)

private theorem isGateway_iff : isGateway n = true ↔ Serves n :=
  beq_iff_eq

private theorem isWorker_iff : isWorker n = true ↔ HasRole "worker" n :=
  Option.isSome_iff_exists

private theorem isMaster_iff : isMaster n = true ↔ HasRole "master" n :=
  Option.isSome_iff_exists

private theorem isFirst_of_find? {P : Node → Prop} {p : Node → Bool} (hp : ∀ {m}, p m = true ↔ P m)
    (h : nodes.find? p = some n) : IsFirst P nodes n := by
  obtain ⟨hn, before, after, rfl, hbefore⟩ := List.find?_eq_some_iff_append.mp h
  refine ⟨hp.mp hn, before, after, rfl, fun m hm hP => ?_⟩
  have hfalse := hbefore m hm
  rw [hp.mpr hP] at hfalse
  cases hfalse

private theorem forall_not_of_find? {P : Node → Prop} {p : Node → Bool} (hp : ∀ {m}, p m = true ↔ P m)
    (h : nodes.find? p = none) : ∀ m ∈ nodes, ¬ P m :=
  fun m hm hP => List.find?_eq_none.mp h m hm (hp.mpr hP)

private theorem IsFirst.mem {P : Node → Prop} (h : IsFirst P nodes n) : n ∈ nodes := by
  obtain ⟨-, before, after, rfl, -⟩ := h
  exact List.mem_append_right before List.mem_cons_self

private theorem Chosen.mem (h : Chosen nodes n) : n ∈ nodes := by
  cases h with
  | worker h => exact h.mem
  | other hnone h => exact h.mem

private theorem Chosen.not_master_only (h : Chosen nodes n) : ¬(¬ HasRole "worker" n ∧ HasRole "master" n) := by
  rintro ⟨hworker, hmaster⟩
  cases h with
  | worker h => exact hworker h.1
  | other hnone h => exact h.1 hmaster

private theorem candidate?_cases (nodes : List Node) :
    (∃ n, candidate? nodes = some n ∧ Chosen nodes n) ∨
      candidate? nodes = none ∧ ∀ n ∈ nodes, ¬ HasRole "worker" n ∧ HasRole "master" n := by
  have hother : ∀ {m : Node}, (!isMaster m) = true ↔ ¬ HasRole "master" m := by
    intro m
    rw [← isMaster_iff, Bool.not_eq_true', Bool.not_eq_true]
  cases hworker : nodes.find? isWorker with
  | some n => exact .inl ⟨n, by simp [candidate?, hworker], .worker (isFirst_of_find? isWorker_iff hworker)⟩
  | none =>
    have hnone := forall_not_of_find? isWorker_iff hworker
    cases hrest : nodes.find? fun m => !isMaster m with
    | some n => exact .inl ⟨n, by simp [candidate?, hworker, hrest], .other hnone (isFirst_of_find? hother hrest)⟩
    | none =>
      have hmasters := forall_not_of_find? hother hrest
      exact .inr ⟨by simp [candidate?, hworker, hrest], fun n hn => ⟨hnone n hn, not_not.mp (hmasters n hn)⟩⟩

private theorem Complete.select_ne (h : Complete nodes) (node : String) : select nodes ≠ .label node := by
  rcases hgateway : nodes.find? isGateway with _ | m
  · have hmasters := h.resolve_left fun ⟨n, hn, hserves⟩ =>
      List.find?_eq_none.mp hgateway n hn (isGateway_iff.mpr hserves)
    rcases candidate?_cases nodes with ⟨n, -, hchosen⟩ | ⟨hnone, -⟩
    · exact absurd (hmasters n hchosen.mem) hchosen.not_master_only
    · rw [select, hgateway, hnone]
      nofun
  · rw [select, hgateway]
    nofun

private theorem exists_chosen (h : ¬ Complete nodes) :
    ∃ n, Chosen nodes n ∧ select nodes = .label n.metadata.anyName := by
  have hgateway : nodes.find? isGateway = none := by
    rw [List.find?_eq_none]
    exact fun n hn hserves => h (.inl ⟨n, hn, isGateway_iff.mp hserves⟩)
  rcases candidate?_cases nodes with ⟨n, hsome, hchosen⟩ | ⟨-, hmasters⟩
  · refine ⟨n, hchosen, ?_⟩
    rw [select, hgateway, hsome]
  · exact absurd (.inr hmasters) h

/-! ### Labelling it -/

/-- An attempt to label a node met another change of the node. -/
def MetConflict (reply : Except ApiFailure Unit) : Prop :=
  ∃ state message reason, reply = .error (.status state message reason 409)

private theorem isConflict_iff {e : ApiFailure} :
    (Failure.kubernetes e).isConflict = true ↔ MetConflict (.error e) := by
  cases e <;> simp [Failure.isConflict, ApiFailure.code?, MetConflict]

private theorem labeled_of_not_metConflict {reply : Except ApiFailure Unit} (h : ¬ MetConflict reply) :
    labeled reply = (Api.toFailure reply).map some := by
  cases reply with
  | ok u => rfl
  | error e => exact if_neg fun hconflict => h (isConflict_iff.mp hconflict)

/-- A node is not labelled yet only after a conflict. -/
private theorem labeled_eq_ok_none_iff {reply : Except ApiFailure Unit} :
    labeled reply = .ok none ↔ MetConflict reply := by
  constructor
  · intro h
    by_contra hne
    rw [labeled_of_not_metConflict hne] at h
    cases reply <;> cases h
  · rintro ⟨state, message, reason, rfl⟩
    rfl

/-- A node is another one that has been labelled as gateway. -/
structure IsLabeled (n n' : Node) : Prop where
  name_eq : n'.metadata.anyName = n.metadata.anyName
  label_eq : ∀ key, n'.metadata.label? key =
    if key = "submariner.io/gateway" then some "true" else n.metadata.label? key

/-- The nodes of a cluster after the node of some name has been labelled. -/
def Updated (name : String) : List Node → List Node → Prop :=
  List.Forall₂ fun n n' => if n.metadata.anyName = name then IsLabeled n n' else n' = n

private theorem IsLabeled.serves (h : IsLabeled n n') : Serves n' :=
  (h.label_eq _).trans (if_pos rfl)

/-- The cluster has its gateway then. -/
private theorem Updated.complete (h : Updated n.metadata.anyName nodes nodes') (hn : n ∈ nodes) : Complete nodes' := by
  refine .inl ?_
  induction h with
  | nil => cases hn
  | @cons m m' ms ms' hm hms ih =>
    rcases List.mem_cons.mp hn with rfl | hn
    · rw [if_pos rfl] at hm
      exact ⟨m', List.mem_cons_self, hm.serves⟩
    · obtain ⟨n', hn', hserves⟩ := ih hn
      exact ⟨n', List.mem_cons_of_mem m' hn', hserves⟩

/-! ### Runs -/

/-- The nodes were listed. -/
def listed (nodes : List Node) : Exchange Api.interface :=
  ⟨Api.Call.nodes, .ok nodes⟩

/-- A node was to be labelled. -/
def patched (name : String) (reply : Except ApiFailure Unit) : Exchange Api.interface :=
  ⟨Api.Call.labelNode name, reply⟩

/-- What is done once it is decided what to do about the gateway. -/
def enact : GatewayChoice → Task Api.interface (Option String)
  | .label node => do
    label node
    return some node
  | _ => return none

private theorem ensure_eq : ensure = Api.call .nodes >>= fun nodes => enact (select nodes) := by
  refine congrArg (Bind.bind (Api.call .nodes)) (funext fun nodes => ?_)
  cases select nodes <;> rfl

private theorem run_ensure (hnodes : w.answer .nodes s = (.ok nodes, s')) :
    ensure.toProgram.run w s = (enact (select nodes)).toProgram.run w s' ∧
      ensure.toProgram.log w s = listed nodes :: (enact (select nodes)).toProgram.log w s' := by
  have hcall : (Api.call .nodes).toProgram.run w s = (some (.ok nodes), s') := by
    show (some (Api.toFailure (w.answer Api.Call.nodes s).1), (w.answer Api.Call.nodes s).2) = _
    rw [hnodes]
    rfl
  have hlog : (Api.call .nodes).toProgram.log w s = [listed nodes] := by
    show [(⟨Api.Call.nodes, (w.answer Api.Call.nodes s).1⟩ : Exchange Api.interface)] = _
    rw [hnodes]
    rfl
  rw [ensure_eq, Task.toProgram_bind, Program.run_bind, Program.log_bind, hcall, hlog]
  exact ⟨rfl, rfl⟩

private theorem run_ensure_of_complete (h : Complete nodes) (hnodes : w.answer .nodes s = (.ok nodes, s')) :
    ensure.toProgram.run w s = (some (.ok none), s') ∧ ensure.toProgram.log w s = [listed nodes] := by
  obtain ⟨hrun, hlog⟩ := run_ensure hnodes
  rw [hrun, hlog]
  cases hselect : select nodes with
  | label node => exact absurd hselect (h.select_ne node)
  | _ => exact ⟨rfl, rfl⟩

private theorem run_enact_label (name : String) (w : World Api.interface σ) (s : σ) :
    ∃ o t, (label name).toProgram.run w s = (some o, t) ∧
      (enact (.label name)).toProgram.run w s = (some (o.map fun _ => some name), t) ∧
      (enact (.label name)).toProgram.log w s = (label name).toProgram.log w s := by
  have hfinishes : (label name).toProgram.Finishes := Backoff.finishes_waitFor (.ask fun _ => .done _) _ _
  obtain ⟨o, t, hrun⟩ := hfinishes.run w s
  refine ⟨o, t, hrun, ?_⟩
  rw [enact, Task.toProgram_bind, Program.run_bind, Program.log_bind, hrun]
  cases o with
  | ok u => exact ⟨rfl, List.append_nil _⟩
  | error e => exact ⟨rfl, List.append_nil _⟩

/-- The requests that label a node, and what they come to. -/
private theorem requests_label {name : String} {es : List (Exchange Api.interface)} {o : Except Failure Unit}
    (h : (label name).toProgram.Trace es (.done o)) :
    ∃ earlier last, es = (earlier ++ [last]).map (patched name) ∧ earlier.length < 10 ∧
      (∀ reply ∈ earlier, MetConflict reply) ∧ (o = .ok () ↔ last = .ok ()) ∧
      (∀ e, last = .error e → ¬ MetConflict last → o = .error (.kubernetes e)) ∧
      (MetConflict last → earlier.length = 9 ∧ o = .error (.timeout ("label gateway node " ++ name) 10)) := by
  have hwait : ∃ (earlier : List (Except ApiFailure Unit)) (last : Except ApiFailure Unit),
      es = (earlier ++ [last]).map (patched name) ∧ (∀ reply ∈ earlier, labeled reply = .ok none) ∧
        ((earlier.length < 10 ∧ labeled last = o.map some) ∨ (earlier.length + 1 = 10 ∧ labeled last = .ok none ∧
          o = .error (.timeout ("label gateway node " ++ name) 10))) :=
    Backoff.trace_waitFor_request rfl h
  obtain ⟨earlier, last, hes, hearlier, hlast⟩ := hwait
  refine ⟨earlier, last, hes, by omega, fun reply hreply => labeled_eq_ok_none_iff.mp (hearlier reply hreply), ?_⟩
  by_cases hconflict : MetConflict last
  · rcases hlast with ⟨-, hread⟩ | ⟨hlength, -, rfl⟩
    · rw [labeled_eq_ok_none_iff.mpr hconflict] at hread
      cases o <;> cases hread
    · refine ⟨iff_of_false nofun ?_, fun e _ hne => absurd hconflict hne, fun _ => ⟨by omega, rfl⟩⟩
      rintro rfl
      obtain ⟨_, _, _, heq⟩ := hconflict
      cases heq
  · rcases hlast with ⟨-, hread⟩ | ⟨-, hread, -⟩
    · rw [labeled_of_not_metConflict hconflict] at hread
      have ho : o = Api.toFailure last := by cases o <;> cases last <;> cases hread <;> rfl
      rw [ho]
      cases last with
      | ok u => exact ⟨iff_of_true rfl rfl, nofun, fun h => absurd h hconflict⟩
      | error e =>
        refine ⟨iff_of_false nofun nofun, fun e' heq _ => ?_, fun h => absurd h hconflict⟩
        cases heq
        rfl
    · exact absurd (labeled_eq_ok_none_iff.mp hread) hconflict

/-- A server keeps the nodes of a cluster: it lists them, and a request to label one of them does so if it succeeds and
changes nothing otherwise. -/
structure KeepsNodes (w : World Api.interface σ) (stored : σ → List Node) : Prop where
  lists : ∀ {nodes s s'}, w.answer .nodes s = (.ok nodes, s') → stored s = nodes ∧ stored s' = nodes
  updates : ∀ {name s s'}, w.answer (.labelNode name) s = (.ok (), s') → Updated name (stored s) (stored s')
  refuses : ∀ {name e s s'}, w.answer (.labelNode name) s = (.error e, s') → stored s' = stored s
  rests : ∀ d s, stored (w.rest d s) = stored s

/-- One request to label a node, as it is polled. -/
def attempt (name : String) : Task Api.interface (Option Unit) :=
  Task.ofProgram ((Api.request (.labelNode name)).bind fun r => .done (labeled r))

private theorem run_attempt {name : String} {reply : Except ApiFailure Unit}
    (h : w.answer (.labelNode name) s = (reply, s')) :
    (attempt name).toProgram.run w s = (some (labeled reply), s') := by
  show (some (labeled (w.answer (.labelNode name) s).1), (w.answer (.labelNode name) s).2) = _
  rw [h]

/-- A wait for a label that is over without a failure has labelled the node. -/
private theorem KeepsNodes.updated_of_poll {stored : σ → List Node} (hkeeps : KeepsNodes w stored) {b : Backoff}
    {operation name : String} {left : Nat} {delay : Duration}
    (h : (b.poll operation (attempt name) left delay).toProgram.run w s = (some (.ok ()), s')) :
    Updated name (stored s) (stored s') := by
  induction left generalizing delay s with
  | zero => cases h
  | succ left ih =>
    rw [Backoff.poll, Task.toProgram_bind, Program.run_bind] at h
    obtain ⟨reply, t, hreply⟩ : ∃ (reply : Except ApiFailure Unit) (t : σ), w.answer (.labelNode name) s = (reply, t) :=
      ⟨_, _, rfl⟩
    rw [run_attempt hreply] at h
    cases reply with
    | ok u =>
      cases h
      exact hkeeps.updates hreply
    | error e =>
      by_cases hconflict : MetConflict (.error e)
      · rw [labeled_eq_ok_none_iff.mpr hconflict] at h
        by_cases hleft : left = 0
        · simp only [if_pos hleft] at h
          cases h
        · simp only [if_neg hleft] at h
          have hlater := ih h
          rwa [hkeeps.rests, hkeeps.refuses hreply] at hlater
      · rw [labeled_of_not_metConflict hconflict] at h
        cases h

/-- Only the chosen node is labelled, at most ten times and again only after conflicts, and no request is made if
nothing is to be done or once it has been done. -/
theorem labeling_is_minimal (hnodup : (nodes.map fun n => n.metadata.anyName).Nodup)
    (hnodes : w.answer .nodes s = (.ok nodes, s')) :
    let es := ensure.toProgram.log w s
    ∃ outcome t, ensure.toProgram.run w s = (some outcome, t) ∧
      (Complete nodes → es = [listed nodes] ∧ outcome = .ok none) ∧
      (¬ Complete nodes → ∃ n name earlier last, Chosen nodes n ∧ n.metadata.anyName = name ∧
        (∀ m ∈ nodes, m.metadata.anyName = name → m = n) ∧
        es = listed nodes :: (earlier ++ [last]).map (patched name) ∧
        earlier.length < 10 ∧ (∀ reply ∈ earlier, MetConflict reply) ∧
        (outcome = .ok (some name) ↔ last = .ok ()) ∧
        (∀ e, last = .error e → ¬ MetConflict last → outcome = .error (.kubernetes e)) ∧
        (MetConflict last → earlier.length = 9 ∧ outcome = .error (.timeout ("label gateway node " ++ name) 10)) ∧
        (∀ stored, KeepsNodes w stored → last = .ok () → Updated name nodes (stored t)) ∧
        ∀ nodes', Updated name nodes nodes' →
          ∀ (τ : Type) (w' : World Api.interface τ) (t t' : τ), w'.answer .nodes t = (.ok nodes', t') →
            ensure.toProgram.run w' t = (some (.ok none), t') ∧ ensure.toProgram.log w' t = [listed nodes']) := by
  intro es
  by_cases hcomplete : Complete nodes
  · obtain ⟨hrun, hlog⟩ := run_ensure_of_complete hcomplete hnodes
    exact ⟨_, s', hrun, fun _ => ⟨hlog, rfl⟩, fun h => absurd hcomplete h⟩
  · obtain ⟨n, hchosen, hselect⟩ := exists_chosen hcomplete
    obtain ⟨hensure, hlog⟩ := run_ensure hnodes
    rw [hselect] at hensure hlog
    obtain ⟨o, t, hlabel, hrun, hsame⟩ := run_enact_label n.metadata.anyName w s'
    have htrace := Program.trace_log_of_run (congrArg Prod.fst hlabel)
    obtain ⟨earlier, last, hes, hlt, hearlier, hok, hrefused, hconflicts⟩ := requests_label htrace
    refine ⟨_, t, hensure.trans hrun, fun h => absurd h hcomplete, fun _ =>
      ⟨n, _, earlier, last, hchosen, rfl, ?_, ?_, hlt, hearlier, ?_, ?_, ?_, ?_, ?_⟩⟩
    · intro m hm hname
      exact List.inj_on_of_nodup_map hnodup hm hchosen.mem hname
    · rw [← hes, ← hsame]
      exact hlog
    · rw [← hok]
      cases o with
      | ok u => exact iff_of_true rfl rfl
      | error e => exact iff_of_false nofun nofun
    · intro e hlast hne
      rw [hrefused e hlast hne]
      rfl
    · intro hconflict
      obtain ⟨hlength, ho⟩ := hconflicts hconflict
      rw [ho]
      exact ⟨hlength, rfl⟩
    · intro stored hkeeps hlast
      obtain rfl := hok.mpr hlast
      rw [← (hkeeps.lists hnodes).2]
      exact hkeeps.updated_of_poll hlabel
    · intro nodes' hupdated τ w' t t' hnodes'
      exact run_ensure_of_complete (hupdated.complete hchosen.mem) hnodes'

/-- A node that has been labelled as gateway if it is the one of the name. -/
def relabel (name : String) (n : Node) : Node :=
  if n.metadata.anyName = name then
    let labels := (n.metadata.labels.getD .empty).insert "submariner.io/gateway" "true"
    { n with metadata := { n.metadata with labels := some labels } }
  else n

private theorem updated_relabel (name : String) (nodes : List Node) :
    Updated name nodes (nodes.map (relabel name)) := by
  rw [Updated, List.forall₂_map_right_iff, List.forall₂_same]
  intro n _
  unfold relabel
  split
  · refine ⟨rfl, fun key => ?_⟩
    rw [n.metadata.label?_eq_get?_getD]
    exact TextMap.get?_insert ..
  · rfl

/-- A server that keeps the nodes of a cluster, and meets the first request to label one of them with a conflict. -/
def contended : World Api.interface (Bool × List Node) where
  answer
    | Api.Call.nodes, s => (.ok s.2, s)
    | Api.Call.labelNode _, (false, nodes) =>
      (.error (.status "Failure" "the object has been modified" "Conflict" 409), (true, nodes))
    | Api.Call.labelNode name, (true, nodes) => (.ok (), (true, nodes.map (relabel name)))
    | _, s => (.error (.transport "connection refused"), s)

private theorem keepsNodes_contended : KeepsNodes contended Prod.snd where
  lists h := by
    cases h
    exact ⟨rfl, rfl⟩
  updates {name s s'} h := by
    obtain ⟨_ | _, nodes⟩ := s
    · cases h
    · cases h
      exact updated_relabel name nodes
  refuses {name e s s'} h := by
    obtain ⟨_ | _, nodes⟩ := s
    · cases h
      rfl
    · cases h
  rests _ _ := rfl

/-- A worker is labelled in place of the master before it, with the second request. In the cluster as it is then,
nothing is left to do. -/
theorem contended_worker_is_labeled :
    let master : Node := { metadata := { name := some "m", labels := some ⟨[("node-role.kubernetes.io/master", "")]⟩ } }
    let worker : Node := { metadata := { name := some "w", labels := some ⟨[("node-role.kubernetes.io/worker", "")]⟩ } }
    ∃ t, ensure.toProgram.run contended (false, [master, worker]) = (some (.ok (some "w")), t) ∧
      ensure.toProgram.run contended t = (some (.ok none), t) ∧ ensure.toProgram.log contended t = [listed t.2] := by
  intro master worker
  have hnodup : ([master, worker].map fun n => n.metadata.anyName).Nodup := by decide
  have hnodes : contended.answer Api.Call.nodes (false, [master, worker]) =
      (.ok [master, worker], (false, [master, worker])) := rfl
  have hne : ¬ Complete [master, worker] := fun h => h.select_ne "w" (by decide)
  obtain ⟨outcome, t, hrun, -, hdue⟩ := labeling_is_minimal hnodup hnodes
  obtain ⟨n, name, earlier, last, -, -, -, hes, -, -, hsuccess, -, -, hstored, hagain⟩ := hdue hne
  have hlog : ensure.toProgram.log contended (false, [master, worker]) = [listed [master, worker],
      patched "w" (.error (.status "Failure" "the object has been modified" "Conflict" 409))] ++
        [patched "w" (.ok ())] := rfl
  rw [List.map_append, ← List.cons_append, hlog] at hes
  have hlast : patched name last = patched "w" (.ok ()) :=
    (List.cons.inj (List.append_inj_right' hes rfl)).1.symm
  obtain ⟨rfl, rfl⟩ : name = "w" ∧ last = .ok () := by
    cases hlast
    exact ⟨rfl, rfl⟩
  have hupdated := hstored Prod.snd keepsNodes_contended rfl
  exact ⟨t, hsuccess.mpr rfl ▸ hrun, hagain t.2 hupdated _ contended t t rfl⟩

end MultiCluster.Gateway
