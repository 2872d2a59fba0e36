import LandscapeOrchestrator.ActivationExecution.Outcomes
import LandscapeOrchestrator.ActivationExecution.RouteDiscipline

/-!
# Routes on an unverified router

A Gateway that the orchestrator provisioned takes routes only once it is
cluster-routable. The pair of a route and an unverified Gateway can be completed
from either side, and the conditions under which a reconcile does so are exact.
-/

namespace LandscapeOrchestrator.ActivationExecution
open Apilib

variable {adm : Admission} {rt : Runtime} {now : Time} {ns : String} {s t : Cluster}
  {ate : ActivationTaskExecution}

def ParentReference.isRouter (ns : String) (p : ParentReference) : Bool :=
  p.name = defaultGatewayName && (p.ns = none || p.ns = some ns)

/-- Some stage route of the landscape names the router. -/
def RouterReferenced (ns : String) (s : Cluster) : Prop :=
  ∃ stage route, s.httpRoutes (routeKey ns stage) = some route ∧
    ∃ p ∈ route.spec.parentRefs, p.isRouter ns = true

/-- The router exists, is the orchestrator's, and is not cluster-routable. -/
def RouterUnverified (ns : String) (s : Cluster) : Prop :=
  ∃ g, s.gateways (routerKey ns) = some g ∧ isProvisioned g = true ∧ isClusterRoutable g = false

def RouterExposed (ns : String) (s : Cluster) : Prop :=
  RouterReferenced ns s ∧ RouterUnverified ns s

/-- The finalizer is there or can be added. -/
def FinalizerPossible (s : Cluster) (key : NamespacedName) : Prop :=
  ∃ stage, s.stages key = some stage ∧
    (stageRouteFinalizer ∈ stage.finalizers ∨ stage.deleting = false)

/-- The two ways to complete the pair: a configuration that does not provision names
the router itself, or the router is created under routes that already name it. -/
inductive CompletesExposure (ns : String) (s : Cluster) (config : GatewayRouteConfig) : Prop
  | route (hp : config.provisionsGateway = false) (hr : (parentRef config).isRouter ns = true)
      (hu : RouterUnverified ns s)
  | gateway (hp : config.provisionsGateway = true) (hg : s.gateways (routerKey ns) = none)
      (hc : s.gatewayClasses config.gatewayClassName = true) (hr : RouterReferenced ns s)

/-- The activation gets as far as its writes and completes the pair. -/
def ActivationExposes (rt : Runtime) (ns : String) (ate : ActivationTaskExecution) (s : Cluster) :
    Prop :=
  ∃ va config vd rules, Due rt ns ate s va config vd rules ∧ rules ≠ [] ∧
    FinalizerPossible s ⟨ns, va.stage⟩ ∧ CompletesExposure ns s config

def ExposesRouter (rt : Runtime) (req : NamespacedName) (s : Cluster) : Prop :=
  ∃ ate, s.executions req = some ate ∧ ActivationExposes rt req.ns ate s

theorem FinalizerEnsured.possible {key : NamespacedName} (h : FinalizerEnsured key s t) :
    FinalizerPossible s key := by
  cases h with
  | kept hs hf => exact ⟨_, hs, .inl hf⟩
  | added hs hf hd => exact ⟨_, hs, .inr hd⟩

theorem RouterExposed.mono (h : RouterExposed ns t)
    (hr : ∀ key route, t.httpRoutes key = some route → s.httpRoutes key = some route)
    (hg : t.gateways (routerKey ns) = s.gateways (routerKey ns)) : RouterExposed ns s := by
  obtain ⟨⟨stage, route, hroute, hp⟩, g, hg', hlab⟩ := h
  exact ⟨⟨stage, route, hr _ _ hroute, hp⟩, g, hg ▸ hg', hlab⟩

/-- The router is still what it was, is gone, or has been created. -/
theorem RouterOutcome.gateways {className : String} {startedAt : Time}
    {r : Except ReconcileError RouterGatewayState}
    (h : RouterOutcome adm ns className startedAt now s r t) :
    t.gateways (routerKey ns) = s.gateways (routerKey ns) ∨ t.gateways (routerKey ns) = none ∨
      s.gateways (routerKey ns) = none ∧ s.gatewayClasses className = true := by
  cases h with
  | removed hg hp he ht =>
    obtain rfl | ⟨-, rfl⟩ := ht
    · rename_i g
      by_cases hk : routerKey ns = ⟨g.ns, g.name⟩
      · exact .inr (.inl (by simp [← hk]))
      · exact .inl (by simp [Function.update_of_ne hk])
    · exact .inl rfl
  | created hg hc hr => exact .inr (.inr ⟨hg, hc⟩)
  | pruned hg hc hr => exact .inr (.inl (by simp))
  | prunedNotRemoved c hg hc hr => exact .inr (.inr ⟨hg, hc⟩)
  | _ => exact .inl rfl

/-- The step at the router exposes nothing new but by creating it. -/
theorem RouterOutcome.exposed {va : VectorActivation} {config : GatewayRouteConfig}
    {vd : VectorDeployment} {rules : List HTTPRouteRule} {u : Cluster}
    {r : Except ReconcileError RouterGatewayState}
    (hr : RouterOutcome adm ns config.gatewayClassName ate.creationTimestamp now u r t)
    (due : Due rt ns ate s va config vd rules) (hne : rules ≠ [])
    (hf : FinalizerEnsured ⟨ns, va.stage⟩ s u) (hp : config.provisionsGateway = true)
    (hx : RouterExposed ns t) : RouterExposed ns s ∨ ActivationExposes rt ns ate s := by
  have hroutes : t.httpRoutes = s.httpRoutes := hr.frame.1.trans hf.frame.1
  obtain hg | hg | ⟨hg, hc⟩ := hr.gateways
  · exact .inl (hx.mono (fun _ _ h => by rwa [← hroutes]) (hg.trans (by rw [hf.frame.2])))
  · obtain ⟨-, g, hg', -⟩ := hx
    cases hg.symm.trans hg'
  · refine .inr ⟨va, config, vd, rules, due, hne, hf.possible, .gateway hp ?_ ?_ ?_⟩
    · rw [← hf.frame.2, hg]
    · cases hf <;> exact hc
    · obtain ⟨⟨stage, route, hroute, hp⟩, -⟩ := hx
      exact ⟨stage, route, by rw [← hroutes, hroute], hp⟩

/-- What an activation exposes was exposed before, or it is one of the two ways. -/
theorem ActivationOutcome.exposed
    {r : Except ReconcileError CtrlResult × ActivationTaskExecution}
    (h : ActivationOutcome adm rt now ns ate s r t) (hx : RouterExposed ns t) :
    RouterExposed ns s ∨ ActivationExposes rt ns ate s := by
  cases h with
  | alreadyFailed hf => exact .inl hx
  | aborted e hf => exact .inl hx
  | skipped hf hva hs => exact .inl hx
  | routeRemoved due ht =>
    obtain rfl | ⟨-, rfl⟩ := ht
    · exact .inl (hx.mono (fun _ _ => Cluster.httpRoutes_of_removeRoute) rfl)
    · exact .inl hx
  | routerFailed due hne hf hp hr => exact hr.exposed due hne hf hp hx
  | reported due hne hf hp hr hstate => exact hr.exposed due hne hf hp hx
  | unapplied c due hne hf hv =>
    exact .inl (hx.mono (fun _ _ h => by rwa [← hf.frame.1]) (by rw [hf.frame.2]))
  | @applied va config vd rules u _ due hne hf hv hw =>
    have hgate : t.gateways = s.gateways := hw.frame.2.2.1.trans hf.frame.2
    obtain ⟨⟨stage, route, hroute, p, hp, hrouter⟩, g, hg, hlab⟩ := hx
    rw [hgate] at hg
    by_cases hk : routeKey ns stage = routeKey ns va.stage
    · -- the written route is the one that names the router
      refine .inr ⟨va, config, vd, rules, due, hne, hf.possible, ?_⟩
      obtain ⟨route', hroute', hspec⟩ := hw.stored
      obtain rfl : route = route' := Option.some.inj (hroute.symm.trans (hk ▸ hroute'))
      rw [hspec, routeSpec, List.mem_singleton] at hp
      subst hp
      refine .route ?_ hrouter ⟨g, hg, hlab⟩
      -- a provisioning configuration would have verified the router
      by_contra hprov
      obtain ⟨g', hg', hv'⟩ := hv (by simpa using hprov)
      rw [hf.frame.2, hg] at hg'
      obtain rfl := Option.some.inj hg'
      simp [hv' hlab.1] at hlab
    · refine .inl ⟨⟨stage, route, ?_, p, hp, hrouter⟩, g, hg, hlab⟩
      rw [← hf.frame.1, ← hw.frame.1 _ hk, hroute]

theorem ReconcileOutcome.exposed {req : NamespacedName} {r : Except ReconcileError CtrlResult}
    (h : ReconcileOutcome adm rt now req s r t) (hx : RouterExposed req.ns t) :
    RouterExposed req.ns s ∨ ExposesRouter rt req s := by
  cases h with
  | absent he => exact .inl hx
  | unread c => exact .inl hx
  | unmarked he ha hsame => exact (ha.exposed hx).imp_right fun h => ⟨_, he, h⟩
  | unpatched e he ha hnew => exact (ha.exposed hx).imp_right fun h => ⟨_, he, h⟩
  | marked he ha hnew => exact (ha.exposed hx).imp_right fun h => ⟨_, he, h⟩

theorem isSuperseded_allows (va : VectorActivation) :
    (isSuperseded ns va).Allows (exec adm) (fun r t => t = s ∧ r = .ok (superseded s ns va)) s := by
  refine allows_get rfl ?_
  cases hst : s.stages ⟨ns, va.stage⟩ with
  | none => exact Prog.allows_ret (by simp [superseded, hst])
  | some stage =>
    simp only [found]
    cases ha : stage.activeStageVersion with
    | none => exact Prog.allows_ret (by simp [superseded, hst, ha])
    | some active =>
      by_cases he : active = va.stageVersion
      · simp only [he, if_true]
        exact Prog.allows_ret (by simp [superseded, hst, ha, he])
      · simp only [he, if_false]
        refine allows_get rfl ?_
        cases hm : s.stageVersions ⟨ns, va.stageVersion⟩ with
        | none => exact Prog.allows_ret (by simp [superseded, hst, ha, he, hm])
        | some mine =>
          refine allows_get rfl ?_
          cases hsv : s.stageVersions ⟨ns, active⟩ with
          | none => exact Prog.allows_ret (by simp [superseded, hst, ha, he, hm, hsv])
          | some sv => exact Prog.allows_ret (by simp [superseded, hst, ha, he, hm, hsv])

theorem ensureStageFinalizer_allows {stage : String} (h : FinalizerPossible s ⟨ns, stage⟩) :
    (ensureStageFinalizer ns stage).Allows (exec adm)
      (fun r t => FinalizerEnsured ⟨ns, stage⟩ s t ∧ r = .ok ()) s := by
  obtain ⟨st, hst, hpos⟩ := h
  refine allows_get rfl ?_
  simp only [hst, found]
  by_cases hf : stageRouteFinalizer ∈ st.finalizers
  · simp only [hf, if_true]
    exact Prog.allows_ret ⟨.kept hst hf, rfl⟩
  · have hd : st.deleting = false := hpos.resolve_left hf
    simp only [hf, if_false]
    refine Prog.allows_ok ?_
    simp only [exec, patchFinalizers_add hst hf, hd, Bool.false_eq_true, if_false]
    exact Prog.allows_ret ⟨hd ▸ .added hst hf hd, rfl⟩

theorem applyStageRoute_allows (stage : String) (config : GatewayRouteConfig)
    (rules : List HTTPRouteRule) :
    (applyStageRoute ns stage config rules).Allows (exec adm)
      (fun r t => RouteWritten (routeKey ns stage) (routeSpec config rules) s t ∧ r = .ok ()) s := by
  refine allows_get rfl ?_
  cases hr : s.httpRoutes ⟨ns, stageRouteName stage⟩ with
  | none =>
    refine Prog.allows_ok ?_
    simp only [exec, hr]
    exact Prog.allows_ret ⟨.written, rfl⟩
  | some route =>
    simp only [found]
    by_cases hs : route.spec = routeSpec config rules
    · simp only [hs, if_true]
      exact Prog.allows_ret ⟨.same hr hs, rfl⟩
    · simp only [hs, if_false]
      refine Prog.allows_ok ?_
      simp only [exec, hr, if_true]
      exact Prog.allows_ret ⟨.written, rfl⟩

/-- An absent router of an installed class is created and stays: in the end, or
because the deletion of a pruned one fails. -/
theorem ensureRouterGateway_allows {className : String} {startedAt : Time}
    (hg : s.gateways (routerKey ns) = none) (hc : s.gatewayClasses className = true) :
    (ensureRouterGateway ns className startedAt now).Allows (exec adm)
      (fun r t => t = s.setGateway (routerKey ns) (some ((newRouterGateway ns className).stored adm s)) ∧
        ∀ state, r = .ok state → state.phase ≠ .ready) s := by
  have hg' : s.gateways ⟨ns, defaultGatewayName⟩ = none := hg
  refine allows_get rfl ?_
  simp only [hg', found, isNotFound_notFound, if_true]
  refine Prog.allows_ok ?_
  simp only [exec, hc, if_true]
  refine Prog.allows_ok ?_
  have hnew : s.gateways ⟨(newRouterGateway ns className).ns, (newRouterGateway ns className).name⟩ =
    none := hg
  simp only [exec, hnew]
  change Prog.Allows (exec adm) _ (if requestsClusterRoutability
    ((newRouterGateway ns className).stored adm s) then _ else _) _
  cases hr : requestsClusterRoutability ((newRouterGateway ns className).stored adm s) with
  | true =>
    simp only [if_true]
    exact Prog.allows_ret ⟨rfl, fun state h => by cases h; simp [pendingState]⟩
  | false =>
    simp only [Bool.false_eq_true, if_false]
    exact Prog.allows_fault "" (Prog.allows_ret ⟨rfl, fun state h => by cases h⟩)

/-- A Gateway that was just stored has no address yet. -/
theorem stored_unverified (adm : Admission) (s : Cluster) (ns className : String) :
    isProvisioned ((newRouterGateway ns className).stored adm s) = true ∧
      isClusterRoutable ((newRouterGateway ns className).stored adm s) = false := by
  constructor
  · rfl
  · simp [isClusterRoutable, newRouterGateway, Gateway.stored]

theorem exposeStage_allows {stage : String} {config : GatewayRouteConfig}
    {rules : List HTTPRouteRule} (hf : FinalizerPossible s ⟨ns, stage⟩)
    (hx : CompletesExposure ns s config) :
    (exposeStage now ns ate stage config rules).Allows (exec adm)
      (fun _ t => RouterExposed ns t) s := by
  refine (ensureStageFinalizer_allows hf).bind fun r t h => ?_
  obtain ⟨ht, rfl⟩ := h
  cases hx with
  | route hp href hu =>
    simp only [hp, Bool.false_eq_true, if_false]
    refine (applyStageRoute_allows stage config rules).bind fun r u h => ?_
    obtain ⟨hu', rfl⟩ := h
    refine Prog.allows_ret ⟨?_, ?_⟩
    · obtain ⟨route, hroute, hspec⟩ := hu'.stored
      exact ⟨stage, route, hroute, parentRef config, by simp [hspec, routeSpec], href⟩
    · obtain ⟨g, hg, hlab⟩ := hu
      exact ⟨g, by rw [hu'.frame.2.2.1, ht.frame.2, hg], hlab⟩
  | gateway hp hg hc href =>
    simp only [hp, if_true]
    have hg' : t.gateways (routerKey ns) = none := by rw [ht.frame.2, hg]
    have hc' : t.gatewayClasses config.gatewayClassName = true := by cases ht <;> exact hc
    refine (ensureRouterGateway_allows hg' hc').bind fun r u h => ?_
    obtain ⟨hu, hr⟩ := h
    have exposed : RouterExposed ns u := by
      subst hu
      obtain ⟨stage', route, hroute, hp⟩ := href
      exact ⟨⟨stage', route, by rw [Cluster.setGateway_httpRoutes, ht.frame.1, hroute], hp⟩,
        _, Function.update_self .., stored_unverified ..⟩
    cases r with
    | error e => exact Prog.allows_ret exposed
    | ok state =>
      simp only [ne_eq, hr state rfl, not_false_eq_true, if_true]
      exact Prog.allows_ret exposed

theorem reconcile_allows {req : NamespacedName} (h : ExposesRouter rt req s) :
    (reconcile rt now req).Allows (exec adm) (fun _ t => RouterExposed req.ns t) s := by
  obtain ⟨ate, he, va, config, vd, rules, due, hne, hf, hx⟩ := h
  refine allows_get rfl ?_
  simp only [he, found]
  refine Prog.Allows.bind (R := fun _ t => RouterExposed req.ns t) ?_ fun r t ht => ?_
  · unfold reconcileActivationTaskExecution
    simp only [due.notFailed, Bool.false_eq_true, if_false]
    refine allows_get rfl ?_
    simp only [due.activation, found]
    refine (isSuperseded_allows va).bind fun r u h => ?_
    obtain ⟨hu, hr⟩ := h
    subst hu hr
    simp only [due.current, due.config]
    refine allows_get rfl ?_
    simp only [due.deployment, found, due.rules]
    cases rules with
    | nil => exact absurd rfl hne
    | cons rule rules => exact exposeStage_allows hf hx
  · -- the status patch cannot undo it; let it fail
    obtain ⟨result, ate'⟩ := r
    dsimp only
    split
    · exact Prog.allows_ret ht
    · refine Prog.allows_fault "" ?_
      cases result <;> exact Prog.allows_ret ht

/-- From a state without the pair, every run of a reconcile avoids it exactly when
neither way to complete it is open. -/
theorem reconcile_avoids_exposure_iff (adm : Admission) (rt : Runtime) (now : Time)
    (req : NamespacedName) (s : Cluster) (h : ¬ RouterExposed req.ns s) :
    (∀ faults, ¬ RouterExposed req.ns ((reconcile rt now req).run (exec adm) faults s).2) ↔
      ¬ ExposesRouter rt req s := by
  constructor
  · intro hall hx
    have hrun : (reconcile rt now req).Allows (exec adm) (fun _ t => RouterExposed req.ns t) s :=
      reconcile_allows hx
    obtain ⟨faults, hbad⟩ := hrun
    exact hall faults hbad
  · intro hno faults hbad
    have ho : (reconcile rt now req).Ensures (exec adm) (ReconcileOutcome adm rt now req s) s :=
      reconcile_outcome rt now req
    exact ((Prog.ensures_iff_run.mp ho faults).exposed hbad).elim h hno

theorem freshStage_unexposed : ¬ RouterExposed "landscape" freshStage := by
  rintro ⟨⟨_, _, h, _⟩, _⟩
  cases h

/-- Without a router and with a configuration that provisions none, every run is safe. -/
theorem freshStage_avoids_exposure : ¬ RouterExposed "landscape" freshStage ∧
    ∀ faults, ¬ RouterExposed "landscape"
      ((reconcile shopRuntime 10 ⟨"landscape", "e"⟩).run (exec ⟨id⟩) faults freshStage).2 := by
  refine ⟨freshStage_unexposed, (reconcile_avoids_exposure_iff _ _ _ _ _ freshStage_unexposed).mpr ?_⟩
  rintro ⟨ate, he, va, config, vd, rules, due, -, -, hx⟩
  obtain rfl : ⟨"e", 1, 1, typeGatewayRoute, "a", "", []⟩ = ate := Option.some.inj he
  obtain rfl := Except.ok.inj due.config
  cases hx with
  | route hp hr hu =>
    obtain ⟨g, hg, -⟩ := hu
    cases hg
  | gateway hp hg hc hr => exact absurd hp (by decide)

/-- A router the orchestrator created, still waiting for an address. -/
def waitingRouter : Gateway := newRouterGateway "landscape" "mesh"

/-- The router waits, and an execution without a configuration is activated. -/
def besideWaitingRouter : Cluster :=
  freshStage.setGateway (routerKey "landscape") (some waitingRouter)

/-- A route of an earlier activation names the router, which is gone. -/
def leftoverRoute : Cluster :=
  { freshStage.writeRoute (routeKey "landscape" "old") ⟨[⟨defaultGatewayName, none⟩], [], []⟩ with
    gatewayClasses := fun name => name = "mesh"
    executions := fun key =>
      if key = ⟨"landscape", "e"⟩ then
        some ⟨"e", 1, 1, typeGatewayRoute, "a", "\x7b\"gatewayClassName\":\"mesh\"\x7d", []⟩
      else none }

def exposedBy (stage : String) (s : Cluster) : Bool :=
  (match s.httpRoutes (routeKey "landscape" stage) with
    | some route => route.spec.parentRefs.any (·.isRouter "landscape")
    | none => false) &&
  match s.gateways (routerKey "landscape") with
  | some g => isProvisioned g && !isClusterRoutable g
  | none => false

theorem routerExposed_of_exposedBy (stage : String) (h : exposedBy stage s = true) :
    RouterExposed "landscape" s := by
  obtain ⟨hr, hg⟩ := Bool.and_eq_true_iff.mp h
  constructor
  · split at hr
    · next route hroute =>
      obtain ⟨p, hp, hrouter⟩ := List.any_eq_true.mp hr
      exact ⟨stage, route, hroute, p, hp, hrouter⟩
    · cases hr
  · split at hg
    · next g hgate => exact ⟨g, hgate, by simpa using hg⟩
    · cases hg

/-- Both ways happen without any failed call. -/
theorem reconcile_exposes_router :
    (¬ RouterExposed "landscape" besideWaitingRouter ∧ RouterExposed "landscape"
      ((reconcile shopRuntime 10 ⟨"landscape", "e"⟩).run (exec ⟨id⟩) (fun _ => none)
        besideWaitingRouter).2) ∧
    (¬ RouterExposed "landscape" leftoverRoute ∧ RouterExposed "landscape"
      ((reconcile shopRuntime 10 ⟨"landscape", "e"⟩).run (exec ⟨id⟩) (fun _ => none)
        leftoverRoute).2) := by
  refine ⟨⟨?_, routerExposed_of_exposedBy "prod" (by decide +kernel)⟩,
    ?_, routerExposed_of_exposedBy "old" (by decide +kernel)⟩
  · rintro ⟨⟨_, _, h, _⟩, _⟩
    cases h
  · rintro ⟨_, _, h, _⟩
    cases h

end LandscapeOrchestrator.ActivationExecution
