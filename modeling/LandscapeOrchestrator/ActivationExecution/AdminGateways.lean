import LandscapeOrchestrator.ActivationExecution.Footprint
import LandscapeOrchestrator.ActivationExecution.Outcomes

/-!
# Activations beside an admin's Gateways

Activations run one API call at a time while an admin creates, deletes, replaces and
relabels Gateways. Whether a Gateway is the orchestrator's is decided on the copy that
was read; the Delete that follows names it only by namespace and name.

## Main definitions

- `Landscape` — the cluster, and which of its Gateways the orchestrator has created
- `AdminMove`, `adminMove` — the admin, and everyone who reports on Gateways
- `AdminCareful` — the moves that leave a pending Delete its target
-/

namespace LandscapeOrchestrator.ActivationExecution
open Apilib

/-- `created` says of each key whether the Gateway stored there is one that the
orchestrator has created. Nothing in the cluster tells this. -/
structure Landscape where
  cluster : Cluster
  created : NamespacedName → Bool

/-- The API server, beside the record of what the orchestrator has created. -/
def landscapeExec (adm : Admission) : Exec Op Res Landscape := fun op x =>
  ((exec adm op x.cluster).1, {
    cluster := (exec adm op x.cluster).2
    created := match op with
      | .createGateway g =>
        if (x.cluster.gateways ⟨g.ns, g.name⟩).isNone then
          Function.update x.created ⟨g.ns, g.name⟩ true
        else x.created
      | _ => x.created })

/-- `put` stores another object under the name of `g`, after a deletion if there was one;
`edit` changes the stored object, its labels included. -/
inductive AdminMove where
  | put (g : Gateway)
  | delete (key : NamespacedName)
  | edit (g : Gateway)
  | elsewhere (s : Cluster)

def adminMove : AdminMove → Landscape → Option Landscape
  | .put g, x => some {
      cluster := x.cluster.setGateway ⟨g.ns, g.name⟩ (some g)
      created := Function.update x.created ⟨g.ns, g.name⟩ false }
  | .delete key, x => some { x with cluster := x.cluster.setGateway key none }
  | .edit g, x =>
    if (x.cluster.gateways ⟨g.ns, g.name⟩).isSome then
      some { x with cluster := x.cluster.setGateway ⟨g.ns, g.name⟩ (some g) }
    else none
  | .elsewhere s, x => some { x with cluster := { s with gateways := x.cluster.gateways } }

/-- Every Gateway is stored under its own name, and those with the label are the
orchestrator's. -/
structure LabelsTrue (x : Landscape) : Prop where
  named : ∀ key g, x.cluster.gateways key = some g → key = ⟨g.ns, g.name⟩
  labelled : ∀ key g, x.cluster.gateways key = some g → isProvisioned g = true →
    x.created key = true

/-- Activations of any executions beside the admin. -/
def activations (adm : Admission) : Workload AdminMove NamespacedName (Runtime × Time) Op Res
    (Except ReconcileError CtrlResult) Landscape where
  init := LabelsTrue
  exec := landscapeExec adm
  env := adminMove
  prog req x := reconcile x.1 x.2 req

abbrev Activations :=
  Pool NamespacedName Op Res (Except ReconcileError CtrlResult) Landscape

/-- Some activation is about to delete the Gateway under `key`. -/
def DeletePending (pool : Activations) (key : NamespacedName) : Prop :=
  ∃ req k, pool.running req = some (.call (.deleteGateway key) k)

/-- The admin labels no Gateway of their own as the orchestrator's; and while a Delete is
pending, they neither put a Gateway in the place of its target nor take its label. -/
def AdminCareful (pool : Activations) : Move AdminMove NamespacedName (Runtime × Time) → Prop
  | .env (.put g) => isProvisioned g = false ∧ ¬ DeletePending pool ⟨g.ns, g.name⟩
  | .env (.edit g) =>
    if isProvisioned g then pool.state.created ⟨g.ns, g.name⟩ = true
    else ¬ DeletePending pool ⟨g.ns, g.name⟩
  | _ => True

variable {adm : Admission} {x y : Landscape}

/-- What is stored under `key`, if anything, is the orchestrator's and labelled. -/
def Owned (x : Landscape) (key : NamespacedName) : Prop :=
  ∀ g, x.cluster.gateways key = some g → isProvisioned g = true ∧ x.created key = true

/-- A Delete that is the next call would hit one of the orchestrator's Gateways. -/
def DeleteSafe (p : Program (Except ReconcileError CtrlResult)) (x : Landscape) : Prop :=
  ∀ key k, p = .call (.deleteGateway key) k → Owned x key

/-- What is left of an activation. -/
def ActivationLeft (_ : NamespacedName) (p : Program (Except ReconcileError CtrlResult))
    (x : Landscape) : Prop :=
  (∃ v, p.Grounded Seen.learn ActivationGrounds v) ∧ DeleteSafe p x

/-- The Gateways after one call: as before, without the one that was deleted, or with a
new one. -/
inductive GatewayEffect (adm : Admission) (op : Op) (x y : Landscape) : Prop
  | kept (hg : y.cluster.gateways = x.cluster.gateways) (hc : y.created = x.created)
  | deleted {key : NamespacedName} (hop : op = .deleteGateway key)
      (hg : y.cluster.gateways = Function.update x.cluster.gateways key none)
      (hc : y.created = x.created)
  | created {g : Gateway} (hop : op = .createGateway g)
      (hno : x.cluster.gateways ⟨g.ns, g.name⟩ = none)
      (hg : y.cluster.gateways =
        Function.update x.cluster.gateways ⟨g.ns, g.name⟩ (some (g.stored adm x.cluster)))
      (hc : y.created = Function.update x.created ⟨g.ns, g.name⟩ true)

theorem landscapeExec_created {op : Op}
    (h : ∀ g, op = .createGateway g → x.cluster.gateways ⟨g.ns, g.name⟩ ≠ none) :
    (landscapeExec adm op x).2.created = x.created := by
  cases op with
  | createGateway g => simp [landscapeExec, h g rfl]
  | _ => rfl

theorem gatewayEffect (adm : Admission) (op : Op) (x : Landscape) :
    GatewayEffect adm op x (landscapeExec adm op x).2 := by
  by_cases hnew : ∃ g, op = .createGateway g ∧ x.cluster.gateways ⟨g.ns, g.name⟩ = none
  · obtain ⟨g, rfl, hno⟩ := hnew
    refine .created rfl hno ?_ (by simp [landscapeExec, hno])
    simp only [landscapeExec, exec, hno]
    rfl
  · have hc : (landscapeExec adm op x).2.created = x.created :=
      landscapeExec_created fun g hop hno => hnew ⟨g, hop, hno⟩
    have heffect := exec_effect adm op x.cluster
    generalize ht : (exec adm op x.cluster).2 = t at heffect
    have hg : (landscapeExec adm op x).2.cluster.gateways = t.gateways := by rw [← ht]; rfl
    cases heffect with
    | createGateway g hno => exact absurd ⟨g, rfl, hno⟩ hnew
    | deleteGateway key => exact .deleted rfl hg hc
    | _ => exact .kept hg hc

/-- A Gateway that is stored after a call was stored before, or is the new router. -/
theorem GatewayEffect.stored {op : Op} {v : Seen} (h : GatewayEffect adm op x y)
    (hgrounds : ActivationGrounds v op) {key : NamespacedName} {g : Gateway}
    (hs : y.cluster.gateways key = some g) :
    x.cluster.gateways key = some g ∧ y.created key = x.created key ∨
      isProvisioned g = true ∧ y.created key = true ∧ key = ⟨g.ns, g.name⟩ := by
  cases h with
  | kept hg hc => exact .inl ⟨by rw [← hg, hs], by rw [hc]⟩
  | @deleted key' hop hg hc =>
    by_cases hk : key = key'
    · simp [hg, hk] at hs
    · exact .inl ⟨by simpa [hg, Function.update_of_ne hk] using hs, by rw [hc]⟩
  | @created new hop hno hg hc =>
    by_cases hk : key = ⟨new.ns, new.name⟩
    · obtain rfl : new.stored adm x.cluster = g := by simpa [hg, hk] using hs
      subst hop
      obtain ⟨ns, className, rfl⟩ := hgrounds
      exact .inr ⟨rfl, by simp [hc, hk], hk⟩
    · exact .inl ⟨by simpa [hg, Function.update_of_ne hk] using hs,
        by simp [hc, Function.update_of_ne hk]⟩

theorem GatewayEffect.owned {op : Op} {v : Seen} (h : GatewayEffect adm op x y)
    (hgrounds : ActivationGrounds v op) {key : NamespacedName} (ho : Owned x key) : Owned y key := by
  intro g hs
  obtain ⟨hs, hc⟩ | ⟨hp, hc, -⟩ := h.stored hgrounds hs
  · exact hc ▸ ho g hs
  · exact ⟨hp, hc⟩

theorem GatewayEffect.labelsTrue {op : Op} {v : Seen} (h : GatewayEffect adm op x y)
    (hgrounds : ActivationGrounds v op) (hx : LabelsTrue x) : LabelsTrue y where
  named key g hs := by
    obtain ⟨hs, -⟩ | ⟨-, -, hk⟩ := h.stored hgrounds hs
    · exact hx.named key g hs
    · exact hk
  labelled key g hs hp := by
    obtain ⟨hs, hc⟩ | ⟨-, hc, -⟩ := h.stored hgrounds hs
    · exact hc ▸ hx.labelled key g hs hp
    · exact hc

/-- A Gateway that the answer has just shown as one to delete is owned. -/
theorem owned_of_seen {op : Op} {v : Seen} {sight : GatewaySight} {key : NamespacedName}
    (hx : LabelsTrue x) (hgrounds : ActivationGrounds v op)
    (hseen : (Seen.learn op (landscapeExec adm op x).1 v).gateway = some sight)
    (hdel : sight.Deletable key) : Owned (landscapeExec adm op x).2 key := by
  have effect := gatewayEffect adm op x
  cases op with
  | getGateway k =>
    cases hs : x.cluster.gateways k with
    | none => simp [landscapeExec, exec, found, hs, Seen.learn] at hseen
    | some g =>
      simp only [landscapeExec, exec, found, hs, Seen.learn, Option.some.injEq] at hseen
      subst hseen
      obtain ⟨hp, rfl⟩ := hdel
      refine effect.owned hgrounds fun g' hg' => ?_
      rw [← hx.named k g hs] at hg' ⊢
      obtain rfl := Option.some.inj (hs.symm.trans hg')
      exact ⟨hp, hx.labelled k g hs hp⟩
  | createGateway g =>
    cases hs : x.cluster.gateways ⟨g.ns, g.name⟩ with
    | some old => simp [landscapeExec, exec, hs, Seen.learn] at hseen
    | none =>
      simp only [landscapeExec, exec, hs, Seen.learn, Option.some.injEq] at hseen
      subst hseen
      obtain rfl := hdel
      exact effect.owned hgrounds fun g' hg' => by simp [hs] at hg'
  | getStage k =>
    cases hs : x.cluster.stages k <;> simp [landscapeExec, exec, found, hs, Seen.learn] at hseen
  | _ => cases hseen

theorem deleteSafe_of_grounded {p : Program (Except ReconcileError CtrlResult)} {v : Seen}
    (h : p.Grounded Seen.learn ActivationGrounds v)
    (hseen : ∀ sight key, v.gateway = some sight → sight.Deletable key → Owned x key) :
    DeleteSafe p x := by
  rintro key k rfl
  obtain ⟨sight, hsight, hdel⟩ := h.1
  exact hseen sight key hsight hdel

theorem LabelsTrue.setGateway {g : Gateway} {created : NamespacedName → Bool} (hx : LabelsTrue x)
    (hc : ∀ key, key ≠ ⟨g.ns, g.name⟩ → created key = x.created key)
    (hp : isProvisioned g = true → created ⟨g.ns, g.name⟩ = true) :
    LabelsTrue ⟨x.cluster.setGateway ⟨g.ns, g.name⟩ (some g), created⟩ := by
  have other {key : NamespacedName} {g' : Gateway}
      (hs : (x.cluster.setGateway ⟨g.ns, g.name⟩ (some g)).gateways key = some g') :
      key = ⟨g.ns, g.name⟩ ∧ g' = g ∨ key ≠ ⟨g.ns, g.name⟩ ∧ x.cluster.gateways key = some g' := by
    by_cases hk : key = ⟨g.ns, g.name⟩
    · exact .inl ⟨hk, by simpa [hk, eq_comm] using hs⟩
    · exact .inr ⟨hk, by simpa [Function.update_of_ne hk] using hs⟩
  constructor
  · intro key g' hs
    obtain ⟨rfl, rfl⟩ | ⟨-, hs⟩ := other hs
    · rfl
    · exact hx.named key g' hs
  · intro key g' hs hp'
    obtain ⟨rfl, rfl⟩ | ⟨hk, hs⟩ := other hs
    · exact hp hp'
    · exact (hc key hk).trans (hx.labelled key g' hs hp')

/-- A careful admin keeps the labels true, and leaves what a pending Delete will hit. -/
theorem adminMove_careful {pool : Activations} {m : AdminMove}
    (hx : LabelsTrue pool.state) (hm : adminMove m pool.state = some y)
    (hok : AdminCareful pool (.env m)) :
    LabelsTrue y ∧ ∀ key, DeletePending pool key → Owned pool.state key → Owned y key := by
  cases m with
  | put g =>
    obtain rfl := Option.some.inj hm
    obtain ⟨hp, hno⟩ := hok
    refine ⟨hx.setGateway (fun key hk => by simp [Function.update_of_ne hk])
      (fun h => by simp [hp] at h), fun key hpend ho g' hs => ?_⟩
    have hk : key ≠ ⟨g.ns, g.name⟩ := fun hk => hno (hk ▸ hpend)
    simpa [Function.update_of_ne hk] using ho g' (by simpa [Function.update_of_ne hk] using hs)
  | delete k =>
    obtain rfl := Option.some.inj hm
    have kept {key : NamespacedName} {g : Gateway}
        (hs : (pool.state.cluster.setGateway k none).gateways key = some g) :
        pool.state.cluster.gateways key = some g := by
      by_cases hk : key = k
      · simp [hk] at hs
      · simpa [Function.update_of_ne hk] using hs
    exact ⟨⟨fun key g hs => hx.named key g (kept hs), fun key g hs => hx.labelled key g (kept hs)⟩,
      fun key _ ho g hs => ho g (kept hs)⟩
  | edit g =>
    simp only [adminMove] at hm
    split at hm
    · obtain rfl := Option.some.inj hm
      simp only [AdminCareful] at hok
      refine ⟨hx.setGateway (fun _ _ => rfl) fun hp => by rwa [if_pos hp] at hok,
        fun key hpend ho g' hs => ?_⟩
      by_cases hk : key = ⟨g.ns, g.name⟩
      · subst hk
        obtain rfl : g' = g := by simpa [eq_comm] using hs
        by_cases hp : isProvisioned g' = true
        · rw [if_pos hp] at hok
          exact ⟨hp, hok⟩
        · rw [if_neg hp] at hok
          exact absurd hpend hok
      · exact ho g' (by simpa [Function.update_of_ne hk] using hs)
    · cases hm
  | elsewhere s =>
    obtain rfl := Option.some.inj hm
    exact ⟨⟨hx.named, hx.labelled⟩, fun key _ ho => ho⟩

theorem activations_assertions (adm : Admission) :
    (activations adm).Assertions AdminCareful LabelsTrue ActivationLeft where
  init _ h := h
  env pool m y hpool hm hok := by
    obtain ⟨hy, hkeep⟩ := adminMove_careful hpool.inv hm hok
    refine ⟨hy, fun req p hrun => ?_⟩
    obtain ⟨hground, hsafe⟩ := hpool.left req p hrun
    refine ⟨hground, ?_⟩
    rintro key k rfl
    exact hkeep key ⟨req, k, hrun⟩ (hsafe key k rfl)
  start req choice x _ :=
    ⟨⟨{}, reconcile_grounded choice.1 choice.2 req {}⟩,
      deleteSafe_of_grounded (reconcile_grounded choice.1 choice.2 req {})
        fun sight key h => by cases h⟩
  call pool req op k hpool hrun _ := by
    obtain ⟨⟨v, hground⟩, hsafe⟩ := hpool.left req _ hrun
    have effect := gatewayEffect adm op pool.state
    refine ⟨effect.labelsTrue hground.1 hpool.inv, ⟨⟨_, hground.2 _⟩, ?_⟩, fun req' p _ hrun' => ?_⟩
    · exact deleteSafe_of_grounded (hground.2 _) fun sight key hsight hdel =>
        owned_of_seen hpool.inv hground.1 hsight hdel
    · obtain ⟨hground', hsafe'⟩ := hpool.left req' p hrun'
      refine ⟨hground', ?_⟩
      rintro key k' rfl
      exact effect.owned hground.1 (hsafe' key k' rfl)
  fault req op k message x _ hleft := by
    obtain ⟨⟨v, hground⟩, -⟩ := hleft
    refine ⟨⟨_, hground.2 _⟩, deleteSafe_of_grounded (hground.2 _) fun sight key hsight => ?_⟩
    -- a failed call shows no Gateway
    have hno : (Seen.learn op (.error (.fault message)) v).gateway = none := by
      cases op <;> rfl
    simp [hno] at hsight

/-- Beside a careful admin, a call of an activation changes or removes a stored Gateway
only when the orchestrator has created it and it still carries the label. -/
theorem admin_gateways_untouched (adm : Admission) {pool : Activations}
    (h : (activations adm).system.Reaches AdminCareful pool) {req : NamespacedName} {op : Op}
    {k : Except ApiError (Res op) → Program (Except ReconcileError CtrlResult)}
    (hrun : pool.running req = some (.call op k)) {key : NamespacedName} {g : Gateway}
    (hs : pool.state.cluster.gateways key = some g)
    (hchanged : (landscapeExec adm op pool.state).2.cluster.gateways key ≠ some g) :
    pool.state.created key = true ∧ isProvisioned g = true := by
  have hpool := (activations_assertions adm).reaches h
  obtain ⟨-, hsafe⟩ := hpool.left req _ hrun
  cases gatewayEffect adm op pool.state with
  | kept hg hc => exact absurd (by rw [hg, hs]) hchanged
  | @deleted key' hop hg hc =>
    subst hop
    obtain rfl : key = key' := by
      by_contra hk
      exact hchanged (by simp [hg, Function.update_of_ne hk, hs])
    exact (hsafe key k rfl g hs).symm
  | @created new hop hno hg hc =>
    have hk : key ≠ ⟨new.ns, new.name⟩ := fun hk => by simp [← hk, hs] at hno
    exact absurd (by simp [hg, Function.update_of_ne hk, hs]) hchanged

/-- The orchestrator's router has lost its routability, and an execution is activated. -/
def beforeDelete : Landscape where
  cluster :=
    { freshStage.setGateway (routerKey "landscape")
        (some { newRouterGateway "landscape" "mesh" with addresses := [] }) with
      executions := fun key =>
        if key = ⟨"landscape", "e"⟩ then
          some ⟨"e", 1, 1, typeGatewayRoute, "a", "\x7b\"gatewayClassName\":\"mesh\"\x7d", []⟩
        else none }
  created := fun _ => true

theorem beforeDelete_labelsTrue : LabelsTrue beforeDelete := by
  refine ⟨fun key g hs => ?_, fun _ _ _ _ => rfl⟩
  by_cases hk : key = routerKey "landscape"
  · subst hk
    obtain rfl := Option.some.inj hs
    rfl
  · have hno : beforeDelete.cluster.gateways key = none := Function.update_of_ne hk _ _
    simp [hno] at hs

/-- The activation, up to its Delete of the router. -/
def activateToDelete : List (Move AdminMove NamespacedName (Runtime × Time)) :=
  [.start ⟨"landscape", "e"⟩ (shopRuntime, 10), .call ⟨"landscape", "e"⟩, .call ⟨"landscape", "e"⟩,
    .call ⟨"landscape", "e"⟩, .call ⟨"landscape", "e"⟩, .call ⟨"landscape", "e"⟩,
    .call ⟨"landscape", "e"⟩, .call ⟨"landscape", "e"⟩]

/-- The next call deletes the router, which is there with or without the label. -/
def deletesRouter (label : Bool) (pool : Activations) : Bool :=
  match pool.running ⟨"landscape", "e"⟩ with
  | some (.call (.deleteGateway key) _) => key = routerKey "landscape" &&
    match pool.state.cluster.gateways (routerKey "landscape") with
    | some g => isProvisioned g == label
    | none => false
  | _ => false

theorem deletesRouter_spec {label : Bool} {pool : Activations} (h : deletesRouter label pool = true) :
    ∃ k g, pool.running ⟨"landscape", "e"⟩ =
        some (.call (.deleteGateway (routerKey "landscape")) k) ∧
      pool.state.cluster.gateways (routerKey "landscape") = some g ∧ isProvisioned g = label ∧
      (landscapeExec ⟨id⟩ (.deleteGateway (routerKey "landscape"))
        pool.state).2.cluster.gateways (routerKey "landscape") ≠ some g := by
  unfold deletesRouter at h
  split at h
  · next key k hrun =>
    obtain ⟨hkey, hg⟩ := Bool.and_eq_true_iff.mp h
    obtain rfl := of_decide_eq_true hkey
    split at hg
    · next g hs =>
      refine ⟨k, g, hrun, hs, by simpa using hg, ?_⟩
      simp [landscapeExec, exec, hs]
    · cases hg
  · cases h

/-- Only this activation runs; the admin labels nothing and leaves what it is about to
delete in place. -/
def carefulAdmin (pool : Activations) : Move AdminMove NamespacedName (Runtime × Time) → Bool
  | .start req _ => req = ⟨"landscape", "e"⟩
  | .env (.put g) => !isProvisioned g && match pool.running ⟨"landscape", "e"⟩ with
    | some (.call (.deleteGateway key) _) => key ≠ ⟨g.ns, g.name⟩
    | _ => true
  | .env (.edit g) => isProvisioned g && pool.state.created ⟨g.ns, g.name⟩
  | _ => true

/-- No other activation runs. -/
def OnlyActivation (pool : Activations) : Prop :=
  ∀ req, req ≠ ⟨"landscape", "e"⟩ → pool.running req = none

theorem OnlyActivation.next {pool pool' : Activations}
    {m : Move AdminMove NamespacedName (Runtime × Time)} (h : OnlyActivation pool)
    (hm : carefulAdmin pool m = true) (hn : (activations adm).system.next pool m = some pool') :
    OnlyActivation pool' := by
  intro req hreq
  refine Workload.running_next_eq_none (h req hreq) ?_ hn
  rintro x rfl
  exact hreq (of_decide_eq_true hm)

theorem OnlyActivation.careful {pool : Activations} (h : OnlyActivation pool)
    (m : Move AdminMove NamespacedName (Runtime × Time)) (hm : carefulAdmin pool m = true) :
    AdminCareful pool m := by
  cases m with
  | env e =>
    cases e with
    | put g =>
      obtain ⟨hlabel, hpending⟩ := Bool.and_eq_true_iff.mp hm
      refine ⟨by simpa using hlabel, ?_⟩
      rintro ⟨req, k, hrun⟩
      obtain rfl : req = ⟨"landscape", "e"⟩ := by
        by_contra hne
        rw [h req hne] at hrun
        cases hrun
      simp [hrun] at hpending
    | edit g =>
      obtain ⟨hlabel, hcreated⟩ := Bool.and_eq_true_iff.mp hm
      rw [AdminCareful, if_pos hlabel]
      exact hcreated
    | _ => trivial
  | _ => trivial

/-- An admin's Gateway, stored beside the router. -/
def edgeGateway : Gateway :=
  { newRouterGateway "landscape" "mesh" with name := "edge", labels := [] }

/-- The admin stores a Gateway of their own before the activation; while the Delete is
pending they store it again and edit the router. The Delete hits the orchestrator's router. -/
theorem admin_gateways_untouched_beside :
    ∃ pool k, (activations ⟨id⟩).system.Reaches AdminCareful pool ∧
      pool.state.cluster.gateways ⟨"landscape", "edge"⟩ ≠ none ∧
      pool.state.created ⟨"landscape", "edge"⟩ = false ∧
      pool.running ⟨"landscape", "e"⟩ =
        some (.call (.deleteGateway (routerKey "landscape")) k) ∧
      pool.state.created (routerKey "landscape") = true := by
  obtain ⟨pool, hpool, hp⟩ := System.reaches_of_follow (activations ⟨id⟩).system
    (.env (.put edgeGateway) :: activateToDelete ++
      [.env (.put edgeGateway), .env (.edit (newRouterGateway "landscape" "other"))])
    (fun pool => deletesRouter true pool &&
      ((pool.state.cluster.gateways ⟨"landscape", "edge"⟩).isSome &&
        !pool.state.created ⟨"landscape", "edge"⟩))
    (fun pool m (h : carefulAdmin pool m = true) => h) (s := ⟨beforeDelete, fun _ => none⟩)
    ⟨beforeDelete_labelsTrue, fun _ => rfl⟩ (by decide +kernel)
  have hcareful : (activations ⟨id⟩).system.Reaches AdminCareful pool := by
    refine hpool.strengthen OnlyActivation ?_ (fun _ _ _ hone hm hn => hone.next hm hn)
      fun _ m hone hm => hone.careful m hm
    rintro pool ⟨-, hidle⟩
    exact fun req _ => hidle req
  obtain ⟨hdeletes, hadmin⟩ := Bool.and_eq_true_iff.mp hp
  obtain ⟨hedge, hnot⟩ := Bool.and_eq_true_iff.mp hadmin
  obtain ⟨k, g, hrun, hs, -, hchanged⟩ := deletesRouter_spec hdeletes
  exact ⟨pool, k, hcareful, Option.isSome_iff_ne_none.mp hedge, by simpa using hnot, hrun,
    (admin_gateways_untouched ⟨id⟩ hcareful hrun hs hchanged).1⟩

/-- The admin replaces the router between the read and the Delete, which removes the
admin's Gateway. -/
theorem admin_gateway_deleted :
    ∃ pool k g, (activations ⟨id⟩).system.Reachable pool ∧
      pool.running ⟨"landscape", "e"⟩ =
        some (.call (.deleteGateway (routerKey "landscape")) k) ∧
      pool.state.cluster.gateways (routerKey "landscape") = some g ∧
      (landscapeExec ⟨id⟩ (.deleteGateway (routerKey "landscape"))
        pool.state).2.cluster.gateways (routerKey "landscape") ≠ some g ∧
      isProvisioned g = false := by
  obtain ⟨pool, hpool, hp⟩ := System.reachable_of_follow (activations ⟨id⟩).system
    (activateToDelete ++ [.env (.put { newRouterGateway "landscape" "mesh" with labels := [] })])
    (deletesRouter false) (s := ⟨beforeDelete, fun _ => none⟩)
    ⟨beforeDelete_labelsTrue, fun _ => rfl⟩ (by decide +kernel)
  obtain ⟨k, g, hrun, hs, hlabel, hchanged⟩ := deletesRouter_spec hp
  exact ⟨pool, k, g, hpool, hrun, hs, hchanged, hlabel⟩

end LandscapeOrchestrator.ActivationExecution
