import LandscapeOrchestrator.ActivationExecution.StageCleanup
import LandscapeOrchestrator.ActivationExecution.Supersession

/-!
# Stages do not reach each other's routes

Activations and cleanups of any Stages, in any order. A history keeps, for every
route, the cluster in which it was last written.

## Main definitions

- `HTTPRouteSpec.Serves` — which requests a route takes, by the Gateway API
- `stageRuns` — runs of both controllers
- `Isolated` — a route serves one Stage only, with the keys of its activations
-/

namespace LandscapeOrchestrator.ActivationExecution
open Apilib

/-- The value of each header, by its name in lower case. -/
structure HTTPRequest where
  header : String → Option String

/-- Every header of a match has to agree; their names are compared without case. -/
def HTTPRouteMatch.Accepts (m : HTTPRouteMatch) (r : HTTPRequest) : Prop :=
  ∀ h ∈ m.headers, r.header h.name.toLower = some h.value

/-- One of the matches has to hold. A rule without any takes every request. -/
def HTTPRouteRule.Accepts (rule : HTTPRouteRule) (r : HTTPRequest) : Prop :=
  rule.matches = [] ∨ ∃ m ∈ rule.matches, m.Accepts r

/-- A route without rules gets a default one, which takes every request. -/
def HTTPRouteSpec.Serves (spec : HTTPRouteSpec) (r : HTTPRequest) : Prop :=
  spec.rules = [] ∨ ∃ rule ∈ spec.rules, rule.Accepts r

/-- A rule that takes only requests whose stage header is `stage`. -/
def HTTPRouteRule.Requires (rule : HTTPRouteRule) (stage : String) : Prop :=
  rule.matches ≠ [] ∧ ∀ m ∈ rule.matches, ⟨headerStage, stage⟩ ∈ m.headers

theorem HTTPRouteRule.Requires.header {rule : HTTPRouteRule} {stage : String} {r : HTTPRequest}
    (h : rule.Requires stage) (ha : rule.Accepts r) : r.header headerStage = some stage := by
  obtain hno | ⟨m, hm, hacc⟩ := ha
  · exact absurd hno h.1
  · have hlower : headerStage.toLower = headerStage := by decide +kernel
    have := hacc _ (h.2 m hm)
    rwa [hlower] at this

theorem routeRule_requires (stage vectorDeployment : String) (t : RouteTarget) :
    (routeRule stage vectorDeployment t).Requires stage := by
  simp [HTTPRouteRule.Requires, routeRule]

/-- A stored VectorDeployment has the name it is stored under. -/
def Cluster.DeploymentsNamed (s : Cluster) : Prop :=
  ∀ key vd, s.vectorDeployments key = some vd → vd.name = key.name

/-- A whole reconcile of one of the controllers, or a change of everything but the routes. -/
inductive StageMove where
  | activate (req : NamespacedName) (rt : Runtime) (now : Time) (faults : ℕ → Option String)
  | cleanUp (req : NamespacedName) (faults : ℕ → Option String)
  | world (s : Cluster) (named : s.DeploymentsNamed)

def stageRuns (adm : Admission) : System Cluster StageMove where
  init s := s.DeploymentsNamed ∧ ∀ ns stage, s.httpRoutes (routeKey ns stage) = none
  next s
    | .activate req rt now faults => some ((reconcile rt now req).run (exec adm) faults s).2
    | .cleanUp req faults => some ((cleanupReconcile req).run (exec adm) faults s).2
    | .world t _ => some { t with httpRoutes := s.httpRoutes }

/-- The cluster right after the last change of each route. -/
abbrev RouteHistory := NamespacedName → Option Cluster

def noteRoutes (s : Cluster) (_ : StageMove) (t : Cluster) (history : RouteHistory) :
    RouteHistory :=
  fun key => if t.httpRoutes key = s.httpRoutes key then history key else some t

def recordedRuns (adm : Admission) : System (Cluster × RouteHistory) StageMove :=
  (stageRuns adm).recording noteRoutes fun _ => none

/-- A VectorActivation of the Stage names the stored VectorDeployment `name`. -/
def Activates (ns stage : String) (s : Cluster) (name : String) : Prop :=
  ∃ activation va, s.vectorActivations ⟨ns, activation⟩ = some va ∧ va.stage = stage ∧
    va.vectorDeployment = name ∧ (s.vectorDeployments ⟨ns, name⟩).isSome = true

/-- The rules of a route that was written in `written`. -/
structure Isolated (ns stage : String) (written : Cluster) (spec : HTTPRouteSpec) : Prop where
  rules_ne_nil : spec.rules ≠ []
  requires : ∀ rule ∈ spec.rules, rule.Requires stage
  routingKey : ∀ rule ∈ spec.rules, ∃ name, rule.routingKeys = [name] ∧
    Activates ns stage written name

theorem Isolated.header {ns stage : String} {written : Cluster} {spec : HTTPRouteSpec}
    {r : HTTPRequest} (h : Isolated ns stage written spec) (hs : spec.Serves r) :
    r.header headerStage = some stage := by
  obtain hno | ⟨rule, hr, hacc⟩ := hs
  · exact absurd hno h.rules_ne_nil
  · exact (h.requires rule hr).header hacc

/-- The Stages whose route a move may write: that of the execution's activation, or
the one that is cleaned up. -/
def StageMove.Concerns (s : Cluster) (ns stage : String) : StageMove → Prop
  | .activate req _ _ _ => req.ns = ns ∧ ∃ ate va, s.executions req = some ate ∧
      s.vectorActivations ⟨ns, ate.vectorActivation⟩ = some va ∧ va.stage = stage
  | .cleanUp req _ => req = ⟨ns, stage⟩
  | .world _ _ => False

variable {adm : Admission} {rt : Runtime} {now : Time} {ns : String} {req : NamespacedName}
  {ate : ActivationTaskExecution} {s t : Cluster}

/-- What may have happened to the route of a Stage between `s` and `t`. -/
inductive RouteChange (ns stage : String) (s t : Cluster) : Prop
  | kept (h : t.httpRoutes (routeKey ns stage) = s.httpRoutes (routeKey ns stage))
  | removed (h : t.httpRoutes (routeKey ns stage) = none)
  | written {route : HTTPRoute} (h : t.httpRoutes (routeKey ns stage) = some route)
      (hi : Isolated ns stage t route.spec)

theorem Due.isolated {va : VectorActivation} {config : GatewayRouteConfig} {vd : VectorDeployment}
    {rules : List HTTPRouteRule} (due : Due rt ns ate s va config vd rules)
    (hnamed : s.DeploymentsNamed) (hne : rules ≠ []) (hk : Kept s t) :
    Isolated ns va.stage t (routeSpec config rules) where
  rules_ne_nil := hne
  requires rule hr := by
    obtain ⟨target, rfl⟩ := buildRouteRules_routingKey due.rules rule hr
    exact routeRule_requires _ _ _
  routingKey rule hr := by
    obtain ⟨target, rfl⟩ := buildRouteRules_routingKey due.rules rule hr
    have hname : vd.name = va.vectorDeployment := hnamed _ _ due.deployment
    refine ⟨va.vectorDeployment, by rw [routeRule_routingKeys, hname], ate.vectorActivation, va,
      ?_, rfl, rfl, ?_⟩
    · exact hk.vectorActivations ▸ due.activation
    · rw [hk.vectorDeployments, due.deployment]
      rfl

/-- An activation changes at most the route of its own Stage. -/
theorem ActivationOutcome.routeChange
    {r : Except ReconcileError CtrlResult × ActivationTaskExecution}
    (h : ActivationOutcome adm rt now ns ate s r t) (hnamed : s.DeploymentsNamed) :
    t.httpRoutes = s.httpRoutes ∨
      ∃ va, s.vectorActivations ⟨ns, ate.vectorActivation⟩ = some va ∧
        RouteChange ns va.stage s t ∧
        ∀ key, key ≠ routeKey ns va.stage → t.httpRoutes key = s.httpRoutes key := by
  have hk := h.keeps
  cases h with
  | alreadyFailed hf => exact .inl rfl
  | aborted e hf => exact .inl rfl
  | skipped hf hva hs => exact .inl rfl
  | routeRemoved due ht =>
    obtain rfl | ⟨-, rfl⟩ := ht
    · exact .inr ⟨_, due.activation, .removed (by simp),
        fun key hk => by simp [Function.update_of_ne hk]⟩
    · exact .inl rfl
  | routerFailed due hne hf hp hr => exact .inl (hr.frame.1.trans hf.frame.1)
  | reported due hne hf hp hr hstate => exact .inl (hr.frame.1.trans hf.frame.1)
  | unapplied c due hne hf hv => exact .inl hf.frame.1
  | applied due hne hf hv hw =>
    obtain ⟨route, hroute, hspec⟩ := hw.stored
    refine .inr ⟨_, due.activation, .written hroute ?_,
      fun key hk => (hw.frame.1 key hk).trans (congrFun hf.frame.1 key)⟩
    rw [hspec]
    exact due.isolated hnamed hne hk

/-- A cleanup changes at most the route of its own Stage, and only removes it. -/
theorem cleanupReconcile_routes (adm : Admission) (s : Cluster) (req : NamespacedName) :
    (cleanupReconcile req).Ensures (exec adm)
      (fun _ t => (t.httpRoutes = s.httpRoutes ∨
          t.httpRoutes = Function.update s.httpRoutes (routeKey req.ns req.name) none) ∧
        t.vectorDeployments = s.vectorDeployments) s := by
  have hpatch (u : Cluster) (finalizers : List String) :
      (patchFinalizers req finalizers u).2.httpRoutes = u.httpRoutes ∧
        (patchFinalizers req finalizers u).2.vectorDeployments = u.vectorDeployments := by
    unfold patchFinalizers
    split
    · exact ⟨rfl, rfl⟩
    · split
      · exact ⟨rfl, rfl⟩
      · split <;> exact ⟨rfl, rfl⟩
  have release (stage : Stage) (u : Cluster)
      (hu : u.httpRoutes = s.httpRoutes ∨
        u.httpRoutes = Function.update s.httpRoutes (routeKey req.ns req.name) none)
      (hd : u.vectorDeployments = s.vectorDeployments) :
      (releaseStage req stage).Ensures (exec adm)
        (fun _ t => (t.httpRoutes = s.httpRoutes ∨
            t.httpRoutes = Function.update s.httpRoutes (routeKey req.ns req.name) none) ∧
          t.vectorDeployments = s.vectorDeployments) u := by
    refine ensures_patchStageFinalizers.mpr ⟨?_, fun msg => ⟨hu, hd⟩⟩
    obtain ⟨hroutes, hdeps⟩ := hpatch u (stage.finalizers.filter (· ≠ stageRouteFinalizer))
    rw [← hroutes] at hu
    split <;> exact ⟨hu, hdeps.trans hd⟩
  refine (ensures_get rfl).mpr ⟨⟨fun stage hst => ?_, fun _ => ⟨.inl rfl, rfl⟩⟩,
    fun msg => ⟨.inl rfl, rfl⟩⟩
  dsimp only
  split
  · exact ⟨.inl rfl, rfl⟩
  · refine ensures_deleteHTTPRoute.mpr ⟨⟨fun old _ => ?_, fun _ => ?_⟩, fun msg => ⟨.inl rfl, rfl⟩⟩
    · exact release stage _ (.inr rfl) rfl
    · exact release stage s (.inl rfl) rfl

/-- What one move does to the routes. -/
structure MoveEffect (l : StageMove) (s t : Cluster) : Prop where
  route : ∀ ns stage, RouteChange ns stage s t
  concerns : ∀ ns stage, t.httpRoutes (routeKey ns stage) ≠ s.httpRoutes (routeKey ns stage) →
    l.Concerns s ns stage
  named : t.DeploymentsNamed

theorem MoveEffect.of_routes_eq {l : StageMove} (h : t.httpRoutes = s.httpRoutes)
    (hn : t.DeploymentsNamed) : MoveEffect l s t :=
  ⟨fun _ _ => .kept (by rw [h]), fun _ _ hne => absurd (by rw [h]) hne, hn⟩

/-- A move that changes the route of at most one Stage, which it concerns. -/
theorem MoveEffect.of_stage {l : StageMove} {ns stage : String} (hc : RouteChange ns stage s t)
    (hother : ∀ key, key ≠ routeKey ns stage → t.httpRoutes key = s.httpRoutes key)
    (hl : l.Concerns s ns stage) (hn : t.DeploymentsNamed) : MoveEffect l s t where
  route ns' stage' := by
    by_cases hk : routeKey ns' stage' = routeKey ns stage
    · obtain ⟨rfl, rfl⟩ := routeKey_injective hk
      exact hc
    · exact .kept (hother _ hk)
  concerns ns' stage' hne := by
    have hk : routeKey ns' stage' = routeKey ns stage := by
      by_contra hk
      exact hne (hother _ hk)
    obtain ⟨rfl, rfl⟩ := routeKey_injective hk
    exact hl
  named := hn

/-- The last step of a reconcile stores conditions, which no route depends on. -/
theorem RouteChange.setExecution {stage : String} {key : NamespacedName}
    {e : Option ActivationTaskExecution} (h : RouteChange ns stage s t) :
    RouteChange ns stage s (t.setExecution key e) := by
  cases h with
  | kept h => exact .kept h
  | removed h => exact .removed h
  | written h hi => exact .written h ⟨hi.rules_ne_nil, hi.requires, hi.routingKey⟩

theorem ActivationOutcome.effect
    {r : Except ReconcileError CtrlResult × ActivationTaskExecution} {faults : ℕ → Option String}
    (h : ActivationOutcome adm rt now req.ns ate s r t) (he : s.executions req = some ate)
    (hn : s.DeploymentsNamed) : MoveEffect (.activate req rt now faults) s t := by
  have hn' : t.DeploymentsNamed := by
    unfold Cluster.DeploymentsNamed
    rw [h.keeps.vectorDeployments]
    exact hn
  obtain heq | ⟨va, hva, hc, hother⟩ := h.routeChange hn
  · exact .of_routes_eq heq hn'
  · exact .of_stage hc hother ⟨rfl, ate, va, he, hva, rfl⟩ hn'

theorem MoveEffect.setExecution {l : StageMove} {key : NamespacedName}
    {e : Option ActivationTaskExecution} (h : MoveEffect l s t) :
    MoveEffect l s (t.setExecution key e) :=
  ⟨fun ns stage => (h.route ns stage).setExecution, h.concerns, h.named⟩

theorem ReconcileOutcome.effect {result : Except ReconcileError CtrlResult}
    {faults : ℕ → Option String} (h : ReconcileOutcome adm rt now req s result t)
    (hn : s.DeploymentsNamed) : MoveEffect (.activate req rt now faults) s t := by
  cases h with
  | absent he => exact .of_routes_eq rfl hn
  | unread c => exact .of_routes_eq rfl hn
  | unmarked he h hsame => exact h.effect he hn
  | marked he h hnew => exact (h.effect he hn).setExecution
  | unpatched e he h hnew => exact h.effect he hn

theorem stageRuns_effect {l : StageMove} (hn : s.DeploymentsNamed)
    (h : (stageRuns adm).next s l = some t) : MoveEffect l s t := by
  cases l with
  | activate req rt now faults =>
    obtain rfl := Option.some.inj h
    have ho : (reconcile rt now req).Ensures (exec adm) (ReconcileOutcome adm rt now req s) s :=
      reconcile_outcome rt now req
    exact (Prog.ensures_iff_run.mp ho faults).effect hn
  | cleanUp req faults =>
    obtain rfl := Option.some.inj h
    obtain ⟨hroutes, hdeps⟩ := Prog.ensures_iff_run.mp (cleanupReconcile_routes adm s req) faults
    have hn' : ((cleanupReconcile req).run (exec adm) faults s).2.DeploymentsNamed := by
      unfold Cluster.DeploymentsNamed
      rw [hdeps]
      exact hn
    obtain heq | hrem := hroutes
    · exact .of_routes_eq heq hn'
    · have hgone : RouteChange req.ns req.name s ((cleanupReconcile req).run (exec adm) faults s).2 :=
        .removed (by simp [hrem])
      exact .of_stage hgone (fun key hk => by simp [hrem, Function.update_of_ne hk]) rfl hn'
  | world u named =>
    obtain rfl := Option.some.inj h
    exact .of_routes_eq rfl named

/-- Every stage route is isolated in the cluster it was last written in. -/
structure RoutesIsolated (x : Cluster × RouteHistory) : Prop where
  named : x.1.DeploymentsNamed
  isolated : ∀ ns stage route, x.1.httpRoutes (routeKey ns stage) = some route →
    ∃ written, x.2 (routeKey ns stage) = some written ∧ Isolated ns stage written route.spec

theorem MoveEffect.isolated {l : StageMove} {history : RouteHistory} (h : MoveEffect l s t)
    (hi : RoutesIsolated (s, history)) : RoutesIsolated (t, noteRoutes s l t history) := by
  refine ⟨h.named, ?_⟩
  intro ns stage route hroute
  by_cases hkept : t.httpRoutes (routeKey ns stage) = s.httpRoutes (routeKey ns stage)
  · obtain ⟨written, hw, his⟩ := hi.isolated ns stage route (hkept ▸ hroute)
    exact ⟨written, (if_pos hkept).trans hw, his⟩
  · refine ⟨t, if_neg hkept, ?_⟩
    cases h.route ns stage with
    | kept h => exact absurd h hkept
    | removed h => simp [h] at hroute
    | written h hi =>
      obtain rfl := Option.some.inj (h.symm.trans hroute)
      exact hi

theorem recordedRuns_isolated {x : Cluster × RouteHistory} (h : (recordedRuns adm).Reachable x) :
    RoutesIsolated x := by
  refine h.invariant (fun x hx => ?_) fun x l y hi _ hn => ?_
  · obtain ⟨⟨hn, hno⟩, -⟩ := hx
    exact ⟨hn, fun ns stage route hr => by simp [hno] at hr⟩
  · obtain ⟨t, ht, rfl⟩ := System.recording_next.mp hn
    exact (stageRuns_effect hi.named ht).isolated hi

/-- Along every run the route of a Stage takes only that Stage's requests and forwards
them with the key of a VectorDeployment that an activation of the Stage named when
the route was written; and a reconcile writes no other Stage's route. -/
theorem stages_isolated (adm : Admission) {s : Cluster} {history : RouteHistory}
    (h : (recordedRuns adm).Reachable (s, history)) :
    (∀ ns stage route, s.httpRoutes (routeKey ns stage) = some route →
      (∃ written, history (routeKey ns stage) = some written ∧
        Isolated ns stage written route.spec) ∧
      ∀ request, route.spec.Serves request → ∀ stage', request.header headerStage = some stage' →
        stage' = stage) ∧
    ∀ l t, (stageRuns adm).next s l = some t → ∀ ns stage,
      t.httpRoutes (routeKey ns stage) ≠ s.httpRoutes (routeKey ns stage) →
        l.Concerns s ns stage := by
  have hi := recordedRuns_isolated h
  refine ⟨fun ns stage route hroute => ?_, fun l t ht => (stageRuns_effect hi.named ht).concerns⟩
  obtain ⟨written, hw, his⟩ := hi.isolated ns stage route hroute
  refine ⟨⟨written, hw, his⟩, fun request hserves stage' hheader => ?_⟩
  exact Option.some.inj (hheader.symm.trans (his.header hserves))

/-- Two Stages, each with an execution that activates it. -/
def twoStages : Cluster :=
  { freshStage with
    executions := fun key =>
      if key = ⟨"landscape", "e"⟩ then some ⟨"e", 1, 1, typeGatewayRoute, "a", "", []⟩
      else if key = ⟨"landscape", "f"⟩ then some ⟨"f", 1, 1, typeGatewayRoute, "b", "", []⟩ else none
    vectorActivations := fun key =>
      if key = ⟨"landscape", "a"⟩ then some ⟨"prod", "v", "vd"⟩
      else if key = ⟨"landscape", "b"⟩ then some ⟨"test", "w", "vd"⟩ else none
    stages := fun key =>
      if key = ⟨"landscape", "prod"⟩ ∨ key = ⟨"landscape", "test"⟩ then some ⟨[], false, none⟩
      else none }

theorem twoStages_init (adm : Admission) : (recordedRuns adm).init (twoStages, fun _ => none) := by
  refine ⟨⟨fun key vd hvd => ?_, fun _ _ => rfl⟩, rfl⟩
  simp only [twoStages, freshStage] at hvd
  split at hvd
  · next hkey =>
    obtain rfl := Option.some.inj hvd
    rw [hkey]
  · cases hvd

/-- Both Stages are activated, and each gets a route. -/
theorem stages_isolated_two : ∃ x : Cluster × RouteHistory, (recordedRuns ⟨id⟩).Reachable x ∧
    (x.1.httpRoutes (routeKey "landscape" "prod")).isSome = true ∧
    (x.1.httpRoutes (routeKey "landscape" "test")).isSome = true ∧
    ∀ ns stage route, x.1.httpRoutes (routeKey ns stage) = some route →
      ∀ request, route.spec.Serves request →
        ∀ stage', request.header headerStage = some stage' → stage' = stage := by
  obtain ⟨⟨s, history⟩, hs, hboth⟩ := System.reachable_of_follow (recordedRuns ⟨id⟩)
    [.activate ⟨"landscape", "e"⟩ shopRuntime 10 fun _ => none,
      .activate ⟨"landscape", "f"⟩ shopRuntime 20 fun _ => none]
    (fun x => (x.1.httpRoutes (routeKey "landscape" "prod")).isSome &&
      (x.1.httpRoutes (routeKey "landscape" "test")).isSome)
    (twoStages_init _) (by decide +kernel)
  obtain ⟨hprod, htest⟩ := Bool.and_eq_true_iff.mp hboth
  exact ⟨(s, history), hs, hprod, htest,
    fun ns stage route hr => ((stages_isolated _ hs).1 ns stage route hr).2⟩

end LandscapeOrchestrator.ActivationExecution
