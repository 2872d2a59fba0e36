import LandscapeOrchestrator.ActivationExecution.Outcomes
import LandscapeOrchestrator.ActivationExecution.RouteDiscipline
import LandscapeOrchestrator.Apilib.Runs
import Mathlib.Data.Fintype.Basic

/-!
# One Stage through its versions

Executions of several versions of one Stage are reconciled in any order while the
active version advances. `isSuperseded` compares with the active version only, so
a newer activation that has flipped the route before the active version moved can
be reverted by an older one.
-/

namespace LandscapeOrchestrator.ActivationExecution
open Apilib

-- ════════════════════════════════════════════════════════════════════════
-- Routing keys
-- ════════════════════════════════════════════════════════════════════════

/-- The routing keys a rule sets on a request. -/
def HTTPRouteRule.routingKeys (rule : HTTPRouteRule) : List String :=
  ((rule.filters.flatMap (·.set)).filter (·.name = headerRoutingKey)).map (·.value)

/-- Every request the route forwards carries `key`, and it forwards some. -/
def HTTPRouteSpec.Carries (spec : HTTPRouteSpec) (key : String) : Prop :=
  spec.rules ≠ [] ∧ ∀ rule ∈ spec.rules, rule.routingKeys = [key]

instance (spec : HTTPRouteSpec) (key : String) : Decidable (spec.Carries key) :=
  inferInstanceAs (Decidable (_ ∧ _))

theorem routeRule_routingKeys (stage vectorDeployment : String) (t : RouteTarget) :
    (routeRule stage vectorDeployment t).routingKeys = [vectorDeployment] := by
  simp [HTTPRouteRule.routingKeys, routeRule]

theorem routeSpec_carries {rt : Runtime} {stage : String} {vd : VectorDeployment}
    {rules : List HTTPRouteRule} (h : buildRouteRules rt stage vd = .ok rules) (hne : rules ≠ [])
    (config : GatewayRouteConfig) : (routeSpec config rules).Carries vd.name := by
  refine ⟨hne, fun rule hr => ?_⟩
  obtain ⟨t, rfl⟩ := buildRouteRules_routingKey h rule hr
  exact routeRule_routingKeys stage vd.name t

-- ════════════════════════════════════════════════════════════════════════
-- The versions of a Stage
-- ════════════════════════════════════════════════════════════════════════

/-- The versions `ι` of one Stage, each with its execution, its activation and a
VectorDeployment that exposes something. -/
structure StageHistory (ι : Type) where
  ns : String
  stage : String
  unmarshal : String → Except String ServiceSpec
  version : ι → String
  created : ι → Time
  execution : ι → String
  activation : ι → String
  deployment : ι → VectorDeployment
  created_injective : ∀ i j, created i = created j → i = j
  exposes : ∀ i, ∃ entry ∈ (deployment i).deploymentResults, ∃ result ∈ entry.2, ∃ t,
    routeTarget unmarshal result = .ok (some t)

namespace StageHistory

variable {ι : Type} (h : StageHistory ι)

def stageKey : NamespacedName := ⟨h.ns, h.stage⟩

def executionKey (i : ι) : NamespacedName := ⟨h.ns, h.execution i⟩

def vectorActivation (i : ι) : VectorActivation :=
  ⟨h.stage, h.version i, (h.deployment i).name⟩

def succeeded (s : Cluster) (i : ι) : Bool :=
  match s.executions (h.executionKey i) with
  | some e => isStatusConditionTrue e.conditions .succeeded
  | none => false

def Active (s : Cluster) (i : ι) : Prop :=
  (s.stages h.stageKey).map Stage.activeStageVersion = some (some (h.version i))

/-- The cluster holds the objects of every version; none is ever deleted. -/
structure Holds (s : Cluster) : Prop where
  versions : ∀ i, s.stageVersions ⟨h.ns, h.version i⟩ = some ⟨h.created i⟩
  activations : ∀ i, s.vectorActivations ⟨h.ns, h.activation i⟩ = some (h.vectorActivation i)
  deployments : ∀ i, s.vectorDeployments ⟨h.ns, (h.deployment i).name⟩ = some (h.deployment i)
  executions : ∀ i, ∃ e, s.executions (h.executionKey i) = some e ∧
    e.vectorActivation = h.activation i ∧
    ∃ config, parseGatewayRouteConfig e = .ok config ∧ config.provisionsGateway = false
  active : ∃ stage, s.stages h.stageKey = some stage ∧
    ∀ v, stage.activeStageVersion = some v → ∃ i, v = h.version i

-- ════════════════════════════════════════════════════════════════════════
-- Steps
-- ════════════════════════════════════════════════════════════════════════

inductive Label (ι : Type) where
  /-- A whole reconcile, with its map order, its sort, its clock and its failed calls. -/
  | reconcile (i : ι) (order : Golib.RangeOrder (String × List DeploymentResult))
      (sort : Golib.SliceSort RouteTarget RouteTarget.less) (now : Time)
      (faults : ℕ → Option String)
  | advance (i : ι)

/-- Whether `i` is newer than the active version, if there is one. -/
def newerThanActive (s : Cluster) (stage : Stage) (i : ι) : Bool :=
  match stage.activeStageVersion with
  | none => true
  | some active => match s.stageVersions ⟨h.ns, active⟩ with
    | none => false
    | some sv => sv.creationTimestamp < h.created i

/-- The active version moves only to a newer one whose execution has succeeded. -/
def system (adm : Admission) : System Cluster (Label ι) where
  init s := h.Holds s ∧ (s.stages h.stageKey).map Stage.activeStageVersion = some none ∧
    ∀ i, h.succeeded s i = false
  next s
    | .reconcile i order sort now faults =>
      some ((reconcile ⟨h.unmarshal, order, sort⟩ now (h.executionKey i)).run (exec adm) faults s).2
    | .advance i => match s.stages h.stageKey with
      | none => none
      | some stage =>
        if h.newerThanActive s stage i && h.succeeded s i then
          some (s.setStage h.stageKey (some { stage with activeStageVersion := some (h.version i) }))
        else none

/-- The route carries the key of version `i` or of one created later. -/
def Covered (s : Cluster) (i : ι) : Prop :=
  ∃ route w, s.httpRoutes (routeKey h.ns h.stage) = some route ∧
    h.created i ≤ h.created w ∧ route.spec.Carries (h.deployment w).name

def RouteCurrent (s : Cluster) : Prop := ∀ i, h.Active s i → h.Covered s i

/-- No execution that the controller would still route is reconciled once one of a
strictly newer version has succeeded. -/
def Orderly (s : Cluster) : Label ι → Prop
  | .reconcile i _ _ _ _ => superseded s h.ns (h.vectorActivation i) = true ∨
      ∀ j, h.succeeded s j = true → h.created j ≤ h.created i
  | .advance _ => True

-- ════════════════════════════════════════════════════════════════════════
-- Orderly runs
-- ════════════════════════════════════════════════════════════════════════

variable {h} {adm : Admission} {s t : Cluster} {rt : Runtime} {now : Time} {i j : ι}
  {ate : ActivationTaskExecution} {r : Except ReconcileError CtrlResult × ActivationTaskExecution}

theorem Covered.mono (hc : h.Covered s i) (hle : h.created j ≤ h.created i)
    (ht : t.httpRoutes = s.httpRoutes) : h.Covered t j := by
  obtain ⟨route, w, hr, hw, hk⟩ := hc
  exact ⟨route, w, by rw [ht, hr], hle.trans hw, hk⟩

theorem Holds.kept (hh : h.Holds s) (hk : Kept s t) : h.Holds t where
  versions i := by rw [hk.stageVersions]; exact hh.versions i
  activations i := by rw [hk.vectorActivations]; exact hh.activations i
  deployments i := by rw [hk.vectorDeployments]; exact hh.deployments i
  executions i := by rw [hk.executions]; exact hh.executions i
  active := by
    obtain ⟨stage, hs, ha⟩ := hh.active
    obtain ⟨stage', hs', heq⟩ := Option.map_eq_some_iff.mp
      ((hk.active h.stageKey).trans (by rw [hs]; rfl))
    exact ⟨stage', hs', fun v hv => ha v (heq ▸ hv)⟩

theorem Holds.setConditions (hh : h.Holds s) (he : s.executions (h.executionKey i) = some ate)
    (conditions : List (Condition ActivationCondition)) :
    h.Holds (s.setExecution (h.executionKey i) (some { ate with conditions := conditions })) where
  versions := hh.versions
  activations := hh.activations
  deployments := hh.deployments
  active := hh.active
  executions j := by
    by_cases hj : h.executionKey j = h.executionKey i
    · obtain ⟨e, he', hva, hconfig⟩ := hh.executions j
      obtain rfl : e = ate := Option.some.inj (by rw [← he', hj, he])
      exact ⟨{ e with conditions := conditions }, by simp [hj], hva, hconfig⟩
    · simpa [Function.update_of_ne hj] using hh.executions j

theorem Holds.activation_eq (hh : h.Holds s) (he : s.executions (h.executionKey i) = some ate)
    {va : VectorActivation} (hva : s.vectorActivations ⟨h.ns, ate.vectorActivation⟩ = some va) :
    va = h.vectorActivation i := by
  obtain ⟨e, he', hname, -⟩ := hh.executions i
  obtain rfl : e = ate := Option.some.inj (he'.symm.trans he)
  rw [hname, hh.activations i] at hva
  exact (Option.some.inj hva).symm

theorem Holds.created_eq (hh : h.Holds s) (heq : h.version i = h.version j) :
    h.created i = h.created j := by
  have hi := hh.versions i
  rw [heq, hh.versions j] at hi
  exact (StageVersion.mk.inj (Option.some.inj hi)).symm

/-- Executions under one key are of one version. -/
theorem Holds.created_eq_of_executionKey (hh : h.Holds s)
    (heq : h.executionKey i = h.executionKey j) : h.created i = h.created j := by
  obtain ⟨e, he, hva, -⟩ := hh.executions i
  have hi := hh.activation_eq (i := i) he (by rw [hva]; exact hh.activations i)
  have hj := hh.activation_eq (i := j) (heq ▸ he) (by rw [hva]; exact hh.activations i)
  exact hh.created_eq (VectorActivation.mk.inj (hi.symm.trans hj)).2.1

/-- An activation that is not superseded is of no older version than the active one. -/
theorem Holds.created_le_of_current (hh : h.Holds s)
    (hs : superseded s h.ns (h.vectorActivation i) = false) (hj : h.Active s j) :
    h.created j ≤ h.created i := by
  obtain ⟨stage, hst, hact⟩ := Option.map_eq_some_iff.mp hj
  by_cases heq : h.version j = h.version i
  · exact (hh.created_eq heq).le
  · have hst' : s.stages ⟨h.ns, (h.vectorActivation i).stage⟩ = some stage := hst
    have hi : s.stageVersions ⟨h.ns, (h.vectorActivation i).stageVersion⟩ = some ⟨h.created i⟩ :=
      hh.versions i
    have hne : ¬ h.version j = (h.vectorActivation i).stageVersion := heq
    simpa [superseded, hst', hact, hne, hi, hh.versions j] using hs

/-- What an orderly run keeps: every version that is active or has succeeded is
covered by the route. -/
structure Inv (h : StageHistory ι) (s : Cluster) : Prop where
  holds : h.Holds s
  covered : ∀ i, h.succeeded s i = true ∨ h.Active s i → h.Covered s i

/-- A superseded version is covered: the active version is newer, and it is covered. -/
theorem Inv.covered_of_superseded (hinv : h.Inv s)
    (hs : superseded s h.ns (h.vectorActivation i) = true) : h.Covered s i := by
  obtain ⟨stage, hst, hver⟩ := hinv.holds.active
  cases superseded_reason hs with
  | stageGone hgone => cases hgone.symm.trans hst
  | versionGone hm => cases hm.symm.trans (hinv.holds.versions i)
  | @newerActive stage' active mine activeSV hst' hact hm hsv hlt =>
    obtain rfl : stage' = stage := Option.some.inj (hst'.symm.trans hst)
    obtain ⟨k, rfl⟩ := hver active hact
    obtain rfl := Option.some.inj (hm.symm.trans (hinv.holds.versions i))
    obtain rfl := Option.some.inj (hsv.symm.trans (hinv.holds.versions k))
    have hk : h.Active s k := by
      unfold Active
      rw [hst, Option.map_some, hact]
    exact (hinv.covered k (.inr hk)).mono hlt.le rfl

/-- One activation keeps every version covered, and covers its own before it is
marked as succeeded. -/
theorem Inv.activation {order : Golib.RangeOrder (String × List DeploymentResult)}
    {sort : Golib.SliceSort RouteTarget RouteTarget.less} (hinv : h.Inv s)
    (hord : superseded s h.ns (h.vectorActivation i) = true ∨
      ∀ j, h.succeeded s j = true → h.created j ≤ h.created i)
    (he : s.executions (h.executionKey i) = some ate)
    (ho : ActivationOutcome adm ⟨h.unmarshal, order, sort⟩ now h.ns ate s r t) :
    (∀ j, h.succeeded s j = true ∨ h.Active s j → h.Covered t j) ∧
      (isStatusConditionTrue r.2.conditions .succeeded = true →
        isStatusConditionTrue ate.conditions .succeeded = true ∨ h.Covered t i) := by
  have keep (hr : t.httpRoutes = s.httpRoutes) :
      ∀ j, h.succeeded s j = true ∨ h.Active s j → h.Covered t j :=
    fun j hj => (hinv.covered j hj).mono le_rfl hr
  cases ho with
  | alreadyFailed hf => exact ⟨keep rfl, .inl⟩
  | aborted e hf => exact ⟨keep rfl, .inl⟩
  | skipped hf hva hs =>
    obtain rfl := hinv.holds.activation_eq he hva
    exact ⟨keep rfl, fun _ => .inr (hinv.covered_of_superseded hs)⟩
  | routeRemoved due ht =>
    obtain rfl := hinv.holds.activation_eq he due.activation
    obtain rfl := Option.some.inj (due.deployment.symm.trans (hinv.holds.deployments i))
    exact absurd rfl (buildRouteRules_ne_nil due.rules (h.exposes i))
  | routerFailed due hne hf hp hr => exact ⟨keep (hr.frame.1.trans hf.frame.1), .inl⟩
  | reported due hne hf hp hr hstate =>
    refine ⟨keep (hr.frame.1.trans hf.frame.1), fun hsucc => .inl ?_⟩
    rwa [report_succeeded] at hsucc
  | unapplied c due hne hf hv => exact ⟨keep hf.frame.1, .inl⟩
  | applied due hne hf hv hw =>
    obtain rfl := hinv.holds.activation_eq he due.activation
    obtain rfl := Option.some.inj (due.deployment.symm.trans (hinv.holds.deployments i))
    obtain ⟨route, hroute, hspec⟩ := hw.stored
    have cover (j : ι) (hj : h.created j ≤ h.created i) : h.Covered t j :=
      ⟨route, i, hroute, hj, hspec ▸ routeSpec_carries due.rules hne _⟩
    refine ⟨fun j hj => cover j ?_, fun _ => .inr (cover i le_rfl)⟩
    obtain hsucc | hact := hj
    · exact hord.resolve_left (by simp [due.current]) j hsucc
    · exact hinv.holds.created_le_of_current due.current hact

theorem active_iff_of_kept (hk : Kept s t) (j : ι) : h.Active t j ↔ h.Active s j := by
  unfold Active
  rw [hk.active]

theorem succeeded_of_kept (hk : Kept s t) (j : ι) : h.succeeded t j = h.succeeded s j := by
  unfold succeeded
  rw [hk.executions]

theorem succeeded_setConditions (conditions : List (Condition ActivationCondition)) (j : ι) :
    h.succeeded (s.setExecution (h.executionKey i) (some { ate with conditions := conditions })) j =
      if h.executionKey j = h.executionKey i then isStatusConditionTrue conditions .succeeded
      else h.succeeded s j := by
  unfold succeeded
  by_cases hj : h.executionKey j = h.executionKey i
  · simp [hj]
  · simp [hj]

theorem Inv.reconcile {order : Golib.RangeOrder (String × List DeploymentResult)}
    {sort : Golib.SliceSort RouteTarget RouteTarget.less}
    {result : Except ReconcileError CtrlResult} (hinv : h.Inv s)
    (hord : superseded s h.ns (h.vectorActivation i) = true ∨
      ∀ j, h.succeeded s j = true → h.created j ≤ h.created i)
    (ho : ReconcileOutcome adm ⟨h.unmarshal, order, sort⟩ now (h.executionKey i) s result t) :
    h.Inv t := by
  cases ho with
  | absent he => exact hinv
  | unread c => exact hinv
  | unmarked he ha hsame =>
    refine ⟨hinv.holds.kept ha.keeps, fun j hj => (hinv.activation hord he ha).1 j ?_⟩
    rwa [succeeded_of_kept ha.keeps, active_iff_of_kept ha.keeps] at hj
  | unpatched e he ha hnew =>
    refine ⟨hinv.holds.kept ha.keeps, fun j hj => (hinv.activation hord he ha).1 j ?_⟩
    rwa [succeeded_of_kept ha.keeps, active_iff_of_kept ha.keeps] at hj
  | @marked ate u r he ha hnew =>
    have he' : u.executions (h.executionKey i) = some ate := by rw [ha.keeps.executions, he]
    obtain ⟨hall, hown⟩ := hinv.activation hord he ha
    refine ⟨(hinv.holds.kept ha.keeps).setConditions he' _, fun j hj => ?_⟩
    have hj' : h.succeeded (u.setExecution (h.executionKey i)
        (some { ate with conditions := r.2.conditions })) j = true ∨ h.Active u j := hj
    rw [succeeded_setConditions, active_iff_of_kept ha.keeps] at hj'
    obtain hsucc | hact := hj'
    · split at hsucc
      · next hkey =>
        obtain hbefore | hcov := hown hsucc
        · refine hall j (.inl ?_)
          simp [succeeded, hkey, he, hbefore]
        · exact hcov.mono (hinv.holds.created_eq_of_executionKey hkey).le rfl
      · rw [succeeded_of_kept ha.keeps] at hsucc
        exact hall j (.inl hsucc)
    · exact hall j (.inr hact)

theorem Inv.advance (hinv : h.Inv s) (stage : Stage) (hsucc : h.succeeded s i = true) : h.Inv (s.setStage h.stageKey
      (some { stage with activeStageVersion := some (h.version i) })) where
  holds :=
    ⟨hinv.holds.versions, hinv.holds.activations, hinv.holds.deployments, hinv.holds.executions,
      _, Function.update_self .., fun v hv => ⟨i, (Option.some.inj hv).symm⟩⟩
  covered j hj := by
    obtain hj | hj := hj
    · exact (hinv.covered j (.inl hj)).mono le_rfl rfl
    · have heq : h.version i = h.version j := by simpa [Active] using hj
      exact (hinv.covered i (.inl hsucc)).mono (hinv.holds.created_eq heq).ge rfl

theorem Inv.next {l : Label ι} (hinv : h.Inv s) (hord : h.Orderly s l)
    (hn : (h.system adm).next s l = some t) : h.Inv t := by
  cases l with
  | reconcile i order sort now faults =>
    obtain rfl := Option.some.inj hn
    exact hinv.reconcile hord (Prog.ensures_iff_run.mp (reconcile_outcome _ now _) faults)
  | advance i =>
    simp only [system] at hn
    split at hn
    · cases hn
    · next stage hst =>
      split at hn
      · next hguard =>
        obtain rfl := Option.some.inj hn
        exact hinv.advance stage (Bool.and_eq_true_iff.mp hguard).2
      · cases hn

/-- In every orderly run the route of the Stage never falls behind its active version. -/
theorem route_never_reverts (h : StageHistory ι) (adm : Admission) (s : Cluster)
    (hs : (h.system adm).Reaches h.Orderly s) : h.RouteCurrent s := by
  have hstart : ∀ s, (h.system adm).init s → h.Inv s := by
    rintro s ⟨hh, hnone, hsucc⟩
    refine ⟨hh, fun i hi => ?_⟩
    obtain hi | hi := hi
    · simp [hsucc i] at hi
    · simp [Active, hnone] at hi
  have hinv : h.Inv s := hs.invariant hstart fun s l t hinv hord hn => hinv.next hord hn
  exact fun i hi => hinv.covered i (.inr hi)

-- ════════════════════════════════════════════════════════════════════════
-- Two versions
-- ════════════════════════════════════════════════════════════════════════

instance [Fintype ι] (h : StageHistory ι) (s : Cluster) (l : Label ι) : Decidable (h.Orderly s l) :=
  match l with
  | .reconcile _ _ _ _ _ => inferInstanceAs (Decidable (_ ∨ _))
  | .advance _ => instDecidableTrue

/-- Two versions of one Stage, `true` the newer one. -/
def rollout : StageHistory Bool where
  ns := "landscape"
  stage := "prod"
  unmarshal _ := .ok ⟨"landscape", "shop", [⟨"http", .tcp, 80⟩], "http"⟩
  version b := if b then "v2" else "v1"
  created b := if b then 2 else 1
  execution b := if b then "e2" else "e1"
  activation b := if b then "a2" else "a1"
  deployment b := ⟨if b then "vd2" else "vd1", [("shop", [⟨"shop", typeHTTPK8sService, ""⟩])]⟩
  created_injective := by decide
  exposes b := ⟨_, List.mem_singleton_self _, _, List.mem_singleton_self _,
    ⟨"shop", "shop", 80⟩, by decide⟩

def rolloutStart : Cluster where
  executions key :=
    if key = ⟨"landscape", "e1"⟩ then some ⟨"e1", 1, 1, typeGatewayRoute, "a1", "", []⟩
    else if key = ⟨"landscape", "e2"⟩ then some ⟨"e2", 2, 1, typeGatewayRoute, "a2", "", []⟩
    else none
  vectorActivations key :=
    if key = ⟨"landscape", "a1"⟩ then some ⟨"prod", "v1", "vd1"⟩
    else if key = ⟨"landscape", "a2"⟩ then some ⟨"prod", "v2", "vd2"⟩
    else none
  stages key := if key = ⟨"landscape", "prod"⟩ then some ⟨[], false, none⟩ else none
  stageVersions key :=
    if key = ⟨"landscape", "v1"⟩ then some ⟨1⟩
    else if key = ⟨"landscape", "v2"⟩ then some ⟨2⟩
    else none
  vectorDeployments key :=
    if key = ⟨"landscape", "vd1"⟩ then some (rollout.deployment false)
    else if key = ⟨"landscape", "vd2"⟩ then some (rollout.deployment true)
    else none
  gatewayClasses _ := false
  gateways _ := none
  httpRoutes _ := none
  revision := 0
  clock := 0

theorem rolloutStart_init (adm : Admission) : (rollout.system adm).init rolloutStart := by
  refine ⟨⟨by decide, by decide, by decide, fun b => ?_, _, rfl, by decide⟩, by decide, by decide⟩
  cases b
  · exact ⟨_, rfl, rfl, _, rfl, by decide⟩
  · exact ⟨_, rfl, rfl, _, rfl, by decide⟩

def plainReconcile (i : Bool) : Label Bool :=
  .reconcile i .insertion (.byKey RouteTarget.name) 10 fun _ => none

/-- The newer version is active and the route carries its key, or does not. -/
def newerIsActive (carries : Bool) (s : Cluster) : Bool :=
  (s.stages rollout.stageKey).map Stage.activeStageVersion = some (some "v2") &&
    match s.httpRoutes (routeKey "landscape" "prod") with
    | some route => decide (route.spec.Carries "vd2") == carries
    | none => false

/-- Both versions in turn, without a step back. -/
theorem route_follows_rollout :
    ∃ s, (rollout.system ⟨id⟩).Reaches rollout.Orderly s ∧ rollout.Active s true ∧
      rollout.RouteCurrent s := by
  obtain ⟨s, hs, hp⟩ := System.reaches_of_follow (rollout.system ⟨id⟩)
    [plainReconcile false, .advance false, plainReconcile true, .advance true]
    (newerIsActive true) (fun s l => of_decide_eq_true (p := rollout.Orderly s l))
    (rolloutStart_init _) (by decide +kernel)
  refine ⟨s, hs, ?_, route_never_reverts rollout _ s hs⟩
  exact (of_decide_eq_true (Bool.and_eq_true_iff.mp hp).1 :
    (s.stages rollout.stageKey).map Stage.activeStageVersion = some (some "v2"))

/-- A restart reconciles the older execution again after the newer one has flipped
the route; then the active version moves, and the route is the older one's. -/
theorem route_reverts :
    ∃ s, (rollout.system ⟨id⟩).Reachable s ∧ rollout.Active s true ∧ ¬ rollout.RouteCurrent s := by
  obtain ⟨s, hs, hp⟩ := System.reachable_of_follow (rollout.system ⟨id⟩)
    [plainReconcile false, .advance false, plainReconcile true, plainReconcile false, .advance true]
    (newerIsActive false) (rolloutStart_init _) (by decide +kernel)
  obtain ⟨hactive, hkey⟩ := Bool.and_eq_true_iff.mp hp
  have ha : (s.stages rollout.stageKey).map Stage.activeStageVersion = some (some "v2") :=
    of_decide_eq_true hactive
  refine ⟨s, hs, ha, fun hc => ?_⟩
  obtain ⟨route, w, hr, hw, hcar⟩ := hc true ha
  -- no version is newer than the active one
  obtain rfl : w = true := by
    cases w
    · exact absurd hw (by decide)
    · rfl
  have hroute : s.httpRoutes (routeKey "landscape" "prod") = some route := hr
  have hcar' : route.spec.Carries "vd2" := hcar
  simp [hroute, hcar'] at hkey

end StageHistory

end LandscapeOrchestrator.ActivationExecution
