import LandscapeOrchestrator.ActivationExecution.Controller

/-!
# What a reconcile can do

For each function of the activation controller, the list of its exits over a
whole run: the answer, the state it leaves and what was read on the way. The
results about activations are case analyses over `ActivationOutcome`.
-/

namespace LandscapeOrchestrator.ActivationExecution
open Apilib

variable {adm : Admission} {s : Cluster} {ns : String}

/-- What no activation writes: its inputs, and of a Stage all but the finalizers. -/
structure Kept (s t : Cluster) : Prop where
  executions : t.executions = s.executions
  vectorActivations : t.vectorActivations = s.vectorActivations
  stageVersions : t.stageVersions = s.stageVersions
  vectorDeployments : t.vectorDeployments = s.vectorDeployments
  active : ∀ key, (t.stages key).map Stage.activeStageVersion =
    (s.stages key).map Stage.activeStageVersion

theorem Kept.refl (s : Cluster) : Kept s s := ⟨rfl, rfl, rfl, rfl, fun _ => rfl⟩

theorem Kept.trans {s t u : Cluster} (h : Kept s t) (h' : Kept t u) : Kept s u :=
  ⟨h'.1.trans h.1, h'.2.trans h.2, h'.3.trans h.3, h'.4.trans h.4,
    fun key => (h'.5 key).trans (h.5 key)⟩

-- ════════════════════════════════════════════════════════════════════════
-- Superseded activations
-- ════════════════════════════════════════════════════════════════════════

/-- The answer of `isSuperseded` when every read succeeds. -/
def superseded (s : Cluster) (ns : String) (va : VectorActivation) : Bool :=
  match s.stages ⟨ns, va.stage⟩ with
  | none => true
  | some stage => match stage.activeStageVersion with
    | none => false
    | some active =>
      if active = va.stageVersion then false
      else match s.stageVersions ⟨ns, va.stageVersion⟩, s.stageVersions ⟨ns, active⟩ with
        | none, _ => true
        | some _, none => false
        | some mine, some activeSV => mine.creationTimestamp < activeSV.creationTimestamp

/-- `isSuperseded` writes nothing, and an answer is the one the state gives. -/
theorem isSuperseded_ensures (va : VectorActivation) :
    (isSuperseded ns va).Ensures (exec adm)
      (fun r t => t = s ∧ ∀ b, r = .ok b → b = superseded s ns va) s := by
  refine (ensures_get rfl).mpr ⟨⟨fun stage hst => ?_, fun hst => ?_⟩, fun msg => by simp⟩
  · cases ha : stage.activeStageVersion with
    | none => simp [ha, superseded, hst]
    | some active =>
      by_cases he : active = va.stageVersion
      · simp [ha, he, superseded, hst]
      · simp only [ha, he, if_false]
        refine (ensures_get rfl).mpr ⟨⟨fun mine hm => ?_, fun hm => ?_⟩, fun msg => by simp⟩
        · refine (ensures_get rfl).mpr ⟨⟨fun act hact => ?_, fun hact => ?_⟩, fun msg => by simp⟩
          · simp [superseded, hst, ha, he, hm, hact]
          · simp [superseded, hst, ha, he, hm, hact]
        · simp [superseded, hst, ha, he, hm]
  · simp [superseded, hst]

/-- Why an activation is superseded. -/
inductive SupersededReason (s : Cluster) (ns : String) (va : VectorActivation) : Prop
  | stageGone (hs : s.stages ⟨ns, va.stage⟩ = none)
  | versionGone (hm : s.stageVersions ⟨ns, va.stageVersion⟩ = none)
  | newerActive {stage : Stage} {active : String} {mine activeSV : StageVersion}
      (hs : s.stages ⟨ns, va.stage⟩ = some stage) (ha : stage.activeStageVersion = some active)
      (hm : s.stageVersions ⟨ns, va.stageVersion⟩ = some mine)
      (hact : s.stageVersions ⟨ns, active⟩ = some activeSV)
      (hlt : mine.creationTimestamp < activeSV.creationTimestamp)

theorem superseded_reason {va : VectorActivation} (h : superseded s ns va = true) :
    SupersededReason s ns va := by
  unfold superseded at h
  split at h
  · exact .stageGone ‹_›
  · next stage hst =>
    split at h
    · cases h
    · next active ha =>
      split at h
      · cases h
      · split at h
        · exact .versionGone ‹_›
        · cases h
        · next mine act hm hact => exact .newerActive hst ha hm hact (of_decide_eq_true h)

-- ════════════════════════════════════════════════════════════════════════
-- The Stage finalizer
-- ════════════════════════════════════════════════════════════════════════

/-- The states in which `ensureStageFinalizer` can succeed. A deleting Stage is
left alone when it already carries the finalizer and refuses a new one. -/
inductive FinalizerEnsured (key : NamespacedName) (s : Cluster) : Cluster → Prop
  | kept {stage : Stage} (hs : s.stages key = some stage)
      (hf : stageRouteFinalizer ∈ stage.finalizers) : FinalizerEnsured key s s
  | added {stage : Stage} (hs : s.stages key = some stage)
      (hf : stageRouteFinalizer ∉ stage.finalizers) (hd : stage.deleting = false) :
      FinalizerEnsured key s (s.setStage key
        (some { stage with finalizers := stage.finalizers ++ [stageRouteFinalizer] }))

/-- Adding a finalizer succeeds exactly on a Stage that is not being deleted. -/
theorem patchFinalizers_add {key : NamespacedName} {stage : Stage}
    (hs : s.stages key = some stage) (hf : stageRouteFinalizer ∉ stage.finalizers) :
    patchFinalizers key (stage.finalizers ++ [stageRouteFinalizer]) s =
      if stage.deleting then
        (.error (.fault "no new finalizers can be added if the object is being deleted"), s)
      else (.ok (), s.setStage key
        (some { stage with finalizers := stage.finalizers ++ [stageRouteFinalizer] })) := by
  have hn : ¬ (stage.finalizers ++ [stageRouteFinalizer]) ⊆ stage.finalizers :=
    fun h => hf (h (by simp))
  cases hd : stage.deleting <;> simp [patchFinalizers, hs, hd, hn]

theorem ensureStageFinalizer_ensures (stage : String) :
    (ensureStageFinalizer ns stage).Ensures (exec adm)
      (fun r t => match r with
        | .ok _ => FinalizerEnsured ⟨ns, stage⟩ s t
        | .error e => t = s ∧ ((∃ c, e = .getStage stage c) ∨ ∃ c, e = .addFinalizer stage c)) s := by
  refine (ensures_get rfl).mpr ⟨⟨fun st hst => ?_, fun hst => by simp⟩, fun msg => by simp⟩
  by_cases hf : stageRouteFinalizer ∈ st.finalizers
  · simp only [hf, if_true, Prog.pure_eq, Prog.ensures_ret]
    exact .kept hst hf
  · simp only [hf, if_false, ensures_patchStageFinalizers, patchFinalizers_add hst hf]
    refine ⟨?_, fun msg => by simp⟩
    by_cases hd : st.deleting = true
    · simp [hd]
    · rw [if_neg hd]
      exact FinalizerEnsured.added hst hf (by simpa using hd)

theorem FinalizerEnsured.frame {key : NamespacedName} {t : Cluster}
    (h : FinalizerEnsured key s t) :
    t.httpRoutes = s.httpRoutes ∧ t.gateways = s.gateways := by
  cases h <;> exact ⟨rfl, rfl⟩

theorem FinalizerEnsured.keeps {key : NamespacedName} {t : Cluster}
    (h : FinalizerEnsured key s t) : Kept s t := by
  cases h with
  | kept hs hf => exact .refl s
  | added hs hf hd =>
    refine ⟨rfl, rfl, rfl, rfl, fun k => ?_⟩
    by_cases hk : k = key
    · subst hk
      simp [hs]
    · simp [Function.update_of_ne hk]

theorem FinalizerEnsured.finalizer {key : NamespacedName} {t : Cluster}
    (h : FinalizerEnsured key s t) :
    ∃ stage, t.stages key = some stage ∧ stageRouteFinalizer ∈ stage.finalizers := by
  cases h with
  | kept hs hf => exact ⟨_, hs, hf⟩
  | added hs hf hd =>
    exact ⟨_, Function.update_self .., List.mem_append_right _ (List.mem_singleton_self _)⟩

-- ════════════════════════════════════════════════════════════════════════
-- The router Gateway
-- ════════════════════════════════════════════════════════════════════════

def routerKey (ns : String) : NamespacedName := ⟨ns, defaultGatewayName⟩

/-- Every exit of `ensureRouterGateway`. -/
inductive RouterOutcome (adm : Admission) (ns className : String) (startedAt now : Time)
    (s : Cluster) : Except ReconcileError RouterGatewayState → Cluster → Prop
  | unread (c : ApiError) : RouterOutcome adm ns className startedAt now s (.error (.getGateway ns c)) s
  | admin {g : Gateway} (hg : s.gateways (routerKey ns) = some g) (hp : isProvisioned g = false) :
      RouterOutcome adm ns className startedAt now s (.ok readyState) s
  | evaluated {g : Gateway} (hg : s.gateways (routerKey ns) = some g) (hp : isProvisioned g = true)
      (he : (evaluateRouterGateway g now).exposed = false) :
      RouterOutcome adm ns className startedAt now s (.ok (evaluateRouterGateway g now)) s
  | removed {g : Gateway} {t : Cluster} (hg : s.gateways (routerKey ns) = some g)
      (hp : isProvisioned g = true) (he : (evaluateRouterGateway g now).exposed = true)
      (ht : t = s.setGateway ⟨g.ns, g.name⟩ none ∨ s.gateways ⟨g.ns, g.name⟩ = none ∧ t = s) :
      RouterOutcome adm ns className startedAt now s (.ok (evaluateRouterGateway g now)) t
  | notRemoved {g : Gateway} (c : ApiError) (hg : s.gateways (routerKey ns) = some g)
      (hp : isProvisioned g = true) (he : (evaluateRouterGateway g now).exposed = true) :
      RouterOutcome adm ns className startedAt now s (.error (.deleteExposedGateway ns c)) s
  | classUnread (c : ApiError) (hg : s.gateways (routerKey ns) = none) :
      RouterOutcome adm ns className startedAt now s (.error (.getGatewayClass className c)) s
  | classMissing (hg : s.gateways (routerKey ns) = none) (hc : s.gatewayClasses className = false) :
      RouterOutcome adm ns className startedAt now s
        (.ok (missingGatewayClassState className startedAt now)) s
  | notCreated (c : ApiError) (hg : s.gateways (routerKey ns) = none)
      (hc : s.gatewayClasses className = true) :
      RouterOutcome adm ns className startedAt now s (.error (.createGateway ns c)) s
  | created (hg : s.gateways (routerKey ns) = none) (hc : s.gatewayClasses className = true)
      (hr : requestsClusterRoutability ((newRouterGateway ns className).stored adm s) = true)
      {message : String} :
      RouterOutcome adm ns className startedAt now s
        (.ok (pendingState reasonWaitingForClusterAddress message))
        (s.setGateway (routerKey ns) (some ((newRouterGateway ns className).stored adm s)))
  | pruned (hg : s.gateways (routerKey ns) = none) (hc : s.gatewayClasses className = true)
      (hr : requestsClusterRoutability ((newRouterGateway ns className).stored adm s) = false) :
      RouterOutcome adm ns className startedAt now s
        (.ok (evaluateRouterGateway ((newRouterGateway ns className).stored adm s) now))
        ((s.setGateway (routerKey ns) (some ((newRouterGateway ns className).stored adm s))).setGateway
          (routerKey ns) none)
  | prunedNotRemoved (c : ApiError) (hg : s.gateways (routerKey ns) = none)
      (hc : s.gatewayClasses className = true)
      (hr : requestsClusterRoutability ((newRouterGateway ns className).stored adm s) = false) :
      RouterOutcome adm ns className startedAt now s (.error (.deleteExposedGateway ns c))
        (s.setGateway (routerKey ns) (some ((newRouterGateway ns className).stored adm s)))

theorem createRouterGateway_ensures (className : String) (startedAt now : Time)
    (hg : s.gateways (routerKey ns) = none) :
    (createRouterGateway ns className startedAt now).Ensures (exec adm)
      (RouterOutcome adm ns className startedAt now s) s := by
  refine ensures_getGatewayClass.mpr ⟨⟨fun hc => ?_, fun hc => ?_⟩, fun msg => ?_⟩
  · refine ensures_createGateway.mpr ⟨⟨fun _ => ?_, fun old hold => ?_⟩, fun msg => ?_⟩
    · cases hr : requestsClusterRoutability ((newRouterGateway ns className).stored adm s) with
      | true =>
        simp only [hr, if_true]
        exact RouterOutcome.created hg hc hr
      | false =>
        simp only [hr, Bool.false_eq_true, if_false]
        refine ensures_deleteGateway.mpr ⟨⟨fun g _ => ?_, fun hno => ?_⟩, fun msg => ?_⟩
        · exact RouterOutcome.pruned hg hc hr
        · -- the Gateway was just stored under this key
          simp [Gateway.stored] at hno
        · exact RouterOutcome.prunedNotRemoved _ hg hc hr
    · exact absurd (hg.symm.trans hold) (by simp)
    · exact RouterOutcome.notCreated _ hg hc
  · exact RouterOutcome.classMissing hg hc
  · exact RouterOutcome.classUnread _ hg

theorem ensureRouterGateway_ensures (className : String) (startedAt now : Time) :
    (ensureRouterGateway ns className startedAt now).Ensures (exec adm)
      (RouterOutcome adm ns className startedAt now s) s := by
  refine (ensures_get rfl).mpr ⟨⟨fun g hg => ?_, fun hg => ?_⟩, fun msg => ?_⟩
  · cases hp : isProvisioned g with
    | false =>
      simp only [hp, Bool.not_false, if_true]
      exact RouterOutcome.admin hg hp
    | true =>
      simp only [hp, Bool.not_true, Bool.false_eq_true, if_false]
      cases he : (evaluateRouterGateway g now).exposed with
      | false => exact RouterOutcome.evaluated hg hp he
      | true =>
        simp only [if_true]
        refine ensures_deleteGateway.mpr ⟨⟨fun g' _ => ?_, fun hno => ?_⟩, fun msg => ?_⟩
        · exact RouterOutcome.removed hg hp he (.inl rfl)
        · exact RouterOutcome.removed hg hp he (.inr ⟨hno, rfl⟩)
        · exact RouterOutcome.notRemoved _ hg hp he
  · exact createRouterGateway_ensures className startedAt now hg
  · exact RouterOutcome.unread _

theorem RouterOutcome.frame {className : String} {startedAt now : Time}
    {r : Except ReconcileError RouterGatewayState} {t : Cluster}
    (h : RouterOutcome adm ns className startedAt now s r t) :
    t.httpRoutes = s.httpRoutes ∧ t.stages = s.stages ∧ Kept s t := by
  cases h with
  | removed hg hp he ht =>
    obtain rfl | ⟨-, rfl⟩ := ht <;> exact ⟨rfl, rfl, rfl, rfl, rfl, rfl, fun _ => rfl⟩
  | _ => exact ⟨rfl, rfl, rfl, rfl, rfl, rfl, fun _ => rfl⟩

-- ════════════════════════════════════════════════════════════════════════
-- The stage route
-- ════════════════════════════════════════════════════════════════════════

def routeKey (ns stage : String) : NamespacedName := ⟨ns, stageRouteName stage⟩

inductive RouteWritten (key : NamespacedName) (spec : HTTPRouteSpec) (s : Cluster) : Cluster → Prop
  | same {route : HTTPRoute} (hr : s.httpRoutes key = some route) (hs : route.spec = spec) :
      RouteWritten key spec s s
  | written : RouteWritten key spec s (s.writeRoute key spec)

theorem applyStageRoute_ensures (stage : String) (config : GatewayRouteConfig)
    (rules : List HTTPRouteRule) :
    (applyStageRoute ns stage config rules).Ensures (exec adm)
      (fun r t => match r with
        | .ok _ => RouteWritten (routeKey ns stage) (routeSpec config rules) s t
        | .error e => t = s ∧ ∃ c, e = .applyRoute stage c) s := by
  refine (ensures_get rfl).mpr ⟨⟨fun route hr => ?_, fun hr => ?_⟩, fun msg => by simp⟩
  · by_cases hs : route.spec = routeSpec config rules
    · simp only [hs, if_true]
      exact .same hr hs
    · simp only [hs, if_false]
      refine ensures_updateHTTPRoute.mpr ⟨⟨fun old _ _ => .written, fun old ho hv => ?_,
        fun hno => by simp⟩, fun msg => by simp⟩
      simp
  · refine ensures_createHTTPRoute.mpr ⟨⟨fun _ => .written, fun old ho => by simp⟩,
      fun msg => by simp⟩

theorem RouteWritten.stored {key : NamespacedName} {spec : HTTPRouteSpec} {t : Cluster}
    (h : RouteWritten key spec s t) : ∃ route, t.httpRoutes key = some route ∧ route.spec = spec := by
  cases h with
  | same hr hs => exact ⟨_, hr, hs⟩
  | written => exact ⟨_, by simp; rfl, rfl⟩

theorem RouteWritten.frame {key : NamespacedName} {spec : HTTPRouteSpec} {t : Cluster}
    (h : RouteWritten key spec s t) :
    (∀ k, k ≠ key → t.httpRoutes k = s.httpRoutes k) ∧ t.stages = s.stages ∧
      t.gateways = s.gateways ∧ Kept s t := by
  cases h with
  | same hr hs => exact ⟨fun _ _ => rfl, rfl, rfl, .refl s⟩
  | written =>
    exact ⟨fun k hk => by simp [Function.update_of_ne hk], rfl, rfl, rfl, rfl, rfl, rfl,
      fun _ => rfl⟩

-- ════════════════════════════════════════════════════════════════════════
-- The whole reconcile
-- ════════════════════════════════════════════════════════════════════════

/-- What an activation reads before it writes anything. -/
structure Due (rt : Runtime) (ns : String) (ate : ActivationTaskExecution) (s : Cluster)
    (va : VectorActivation) (config : GatewayRouteConfig) (vd : VectorDeployment)
    (rules : List HTTPRouteRule) : Prop where
  notFailed : isStatusConditionTrue ate.conditions .failed = false
  activation : s.vectorActivations ⟨ns, ate.vectorActivation⟩ = some va
  current : superseded s ns va = false
  config : parseGatewayRouteConfig ate = .ok config
  deployment : s.vectorDeployments ⟨ns, va.vectorDeployment⟩ = some vd
  rules : buildRouteRules rt va.stage vd = .ok rules

/-- The router may take routes: it is the operator's own Gateway, or one of the
orchestrator's that is cluster-routable. -/
def RouterVerified (ns : String) (s : Cluster) : Prop :=
  ∃ g, s.gateways (routerKey ns) = some g ∧ (isProvisioned g = true → isClusterRoutable g = true)

/-- The result and the state after every exit of `reconcileActivationTaskExecution`. -/
inductive ActivationOutcome (adm : Admission) (rt : Runtime) (now : Time) (ns : String)
    (ate : ActivationTaskExecution) (s : Cluster) :
    Except ReconcileError CtrlResult × ActivationTaskExecution → Cluster → Prop
  | alreadyFailed (hf : isStatusConditionTrue ate.conditions .failed = true) :
      ActivationOutcome adm rt now ns ate s (.ok {}, ate) s
  | aborted (e : ReconcileError) (hf : isStatusConditionTrue ate.conditions .failed = false) :
      ActivationOutcome adm rt now ns ate s (.error e, ate) s
  | skipped {va : VectorActivation}
      (hf : isStatusConditionTrue ate.conditions .failed = false)
      (hva : s.vectorActivations ⟨ns, ate.vectorActivation⟩ = some va)
      (hs : superseded s ns va = true) :
      ActivationOutcome adm rt now ns ate s (.ok {}, markSucceeded now ate) s
  | routeRemoved {va : VectorActivation} {config : GatewayRouteConfig} {vd : VectorDeployment}
      {t : Cluster} (due : Due rt ns ate s va config vd [])
      (ht : t = s.removeRoute (routeKey ns va.stage) ∨
        s.httpRoutes (routeKey ns va.stage) = none ∧ t = s) :
      ActivationOutcome adm rt now ns ate s (.ok {}, markSucceeded now ate) t
  | routerFailed {va : VectorActivation} {config : GatewayRouteConfig} {vd : VectorDeployment}
      {rules : List HTTPRouteRule} {t u : Cluster} {e : ReconcileError}
      (due : Due rt ns ate s va config vd rules) (hne : rules ≠ [])
      (hf : FinalizerEnsured ⟨ns, va.stage⟩ s t) (hp : config.provisionsGateway = true)
      (hr : RouterOutcome adm ns config.gatewayClassName ate.creationTimestamp now t (.error e) u) :
      ActivationOutcome adm rt now ns ate s (.error e, ate) u
  | reported {va : VectorActivation} {config : GatewayRouteConfig} {vd : VectorDeployment}
      {rules : List HTTPRouteRule} {t u : Cluster} {state : RouterGatewayState}
      (due : Due rt ns ate s va config vd rules) (hne : rules ≠ [])
      (hf : FinalizerEnsured ⟨ns, va.stage⟩ s t) (hp : config.provisionsGateway = true)
      (hr : RouterOutcome adm ns config.gatewayClassName ate.creationTimestamp now t (.ok state) u)
      (hstate : state.phase ≠ .ready) :
      ActivationOutcome adm rt now ns ate s
        (.ok (reportRouterGateway now ate state).1, (reportRouterGateway now ate state).2) u
  | unapplied {va : VectorActivation} {config : GatewayRouteConfig} {vd : VectorDeployment}
      {rules : List HTTPRouteRule} {t : Cluster} (c : ApiError)
      (due : Due rt ns ate s va config vd rules) (hne : rules ≠ [])
      (hf : FinalizerEnsured ⟨ns, va.stage⟩ s t)
      (hv : config.provisionsGateway = true → RouterVerified ns t) :
      ActivationOutcome adm rt now ns ate s (.error (.applyRoute va.stage c), ate) t
  | applied {va : VectorActivation} {config : GatewayRouteConfig} {vd : VectorDeployment}
      {rules : List HTTPRouteRule} {t u : Cluster}
      (due : Due rt ns ate s va config vd rules) (hne : rules ≠ [])
      (hf : FinalizerEnsured ⟨ns, va.stage⟩ s t)
      (hv : config.provisionsGateway = true → RouterVerified ns t)
      (hw : RouteWritten (routeKey ns va.stage) (routeSpec config rules) t u) :
      ActivationOutcome adm rt now ns ate s (.ok {}, markSucceeded now ate) u

/-- A ready router has not been touched, and it may take routes. -/
theorem RouterOutcome.ready {className : String} {startedAt now : Time}
    {state : RouterGatewayState} {t : Cluster}
    (h : RouterOutcome adm ns className startedAt now s (.ok state) t)
    (hr : state.phase = .ready) : t = s ∧ RouterVerified ns s := by
  cases h with
  | admin hg hp => exact ⟨rfl, _, hg, fun hp' => by simp [hp] at hp'⟩
  | evaluated hg hp he => exact ⟨rfl, _, hg, fun _ => (evaluateRouterGateway_ready hr).1⟩
  | removed hg hp he ht => simp [(evaluateRouterGateway_ready hr).2] at he
  | classMissing hg hc =>
    simp only [missingGatewayClassState] at hr
    split at hr <;> simp [failedState, pendingState] at hr
  | created hg hc hreq => simp [pendingState] at hr
  | pruned hg hc hreq =>
    have := evaluateRouterGateway_pruned now hreq
    simp [(evaluateRouterGateway_ready hr).2] at this

theorem attachStageRoute_outcome {rt : Runtime} {now : Time} {ate : ActivationTaskExecution}
    {va : VectorActivation} {config : GatewayRouteConfig} {vd : VectorDeployment}
    {rules : List HTTPRouteRule} {t : Cluster} (due : Due rt ns ate s va config vd rules)
    (hne : rules ≠ []) (hf : FinalizerEnsured ⟨ns, va.stage⟩ s t)
    (hv : config.provisionsGateway = true → RouterVerified ns t) :
    (attachStageRoute now ns ate va.stage config rules).Ensures (exec adm)
      (ActivationOutcome adm rt now ns ate s) t := by
  refine (applyStageRoute_ensures va.stage config rules).bind fun r u hu => ?_
  cases r with
  | error e =>
    obtain ⟨rfl, c, rfl⟩ := hu
    exact ActivationOutcome.unapplied c due hne hf hv
  | ok _ => exact ActivationOutcome.applied due hne hf hv hu

theorem exposeStage_outcome {rt : Runtime} {now : Time} {ate : ActivationTaskExecution}
    {va : VectorActivation} {config : GatewayRouteConfig} {vd : VectorDeployment}
    {rules : List HTTPRouteRule} (due : Due rt ns ate s va config vd rules) (hne : rules ≠ []) :
    (exposeStage now ns ate va.stage config rules).Ensures (exec adm)
      (ActivationOutcome adm rt now ns ate s) s := by
  refine (ensureStageFinalizer_ensures va.stage).bind fun r t ht => ?_
  cases r with
  | error e =>
    obtain ⟨rfl, -⟩ := ht
    exact ActivationOutcome.aborted e due.notFailed
  | ok _ =>
    by_cases hp : config.provisionsGateway = true
    · simp only [hp, if_true]
      refine (ensureRouterGateway_ensures config.gatewayClassName ate.creationTimestamp now).bind
        fun r u hu => ?_
      cases r with
      | error e => exact ActivationOutcome.routerFailed due hne ht hp hu
      | ok state =>
        by_cases hr : state.phase = .ready
        · obtain ⟨rfl, hv⟩ := hu.ready hr
          simp only [hr, ne_eq, not_true_eq_false, if_false]
          exact attachStageRoute_outcome due hne ht fun _ => hv
        · simp only [hr, ne_eq, not_false_eq_true, if_true]
          exact ActivationOutcome.reported due hne ht hp hu hr
    · rw [if_neg hp]
      exact attachStageRoute_outcome due hne ht fun h => absurd h hp

theorem reconcileActivationTaskExecution_outcome (rt : Runtime) (now : Time)
    (ate : ActivationTaskExecution) :
    (reconcileActivationTaskExecution rt now ns ate).Ensures (exec adm)
      (ActivationOutcome adm rt now ns ate s) s := by
  unfold reconcileActivationTaskExecution
  by_cases hf : isStatusConditionTrue ate.conditions .failed = true
  · simp only [hf, if_true]
    exact ActivationOutcome.alreadyFailed hf
  have hnf : isStatusConditionTrue ate.conditions .failed = false := by simpa using hf
  simp only [hnf, Bool.false_eq_true, if_false]
  have abort (e : ReconcileError) : ActivationOutcome adm rt now ns ate s (.error e, ate) s :=
    .aborted e hnf
  refine (ensures_get rfl).mpr ⟨⟨fun va hva => ?_, fun _ => abort _⟩, fun msg => abort _⟩
  refine (isSuperseded_ensures va).bind fun r t hr => ?_
  obtain ⟨rfl, hr⟩ := hr
  rcases r with e | (_ | _)
  · exact abort e
  · have hs : superseded t ns va = false := (hr _ rfl).symm
    cases hc : parseGatewayRouteConfig ate with
    | error e => exact abort e
    | ok config =>
      refine (ensures_get rfl).mpr ⟨⟨fun vd hvd => ?_, fun _ => abort _⟩, fun msg => abort _⟩
      cases hb : buildRouteRules rt va.stage vd with
      | error e =>
        simp only [hb]
        exact abort e
      | ok rules =>
        have due : Due rt ns ate t va config vd rules := ⟨hnf, hva, hs, hc, hvd, hb⟩
        simp only [hb]
        cases rules with
        | nil =>
          refine ensures_deleteHTTPRoute.mpr ⟨⟨fun old ho => ?_, fun hno => ?_⟩, fun msg => ?_⟩
          · exact ActivationOutcome.routeRemoved due (.inl rfl)
          · exact ActivationOutcome.routeRemoved due (.inr ⟨hno, rfl⟩)
          · exact abort _
        | cons rule rules => exact exposeStage_outcome due (by simp)
  · exact ActivationOutcome.skipped hnf hva (hr _ rfl).symm

theorem ActivationOutcome.keeps {rt : Runtime} {now : Time} {ate : ActivationTaskExecution}
    {r : Except ReconcileError CtrlResult × ActivationTaskExecution} {t : Cluster}
    (h : ActivationOutcome adm rt now ns ate s r t) : Kept s t := by
  cases h with
  | alreadyFailed hf => exact .refl s
  | aborted e hf => exact .refl s
  | skipped hf hva hs => exact .refl s
  | routeRemoved due ht =>
    obtain rfl | ⟨-, rfl⟩ := ht <;> exact ⟨rfl, rfl, rfl, rfl, fun _ => rfl⟩
  | routerFailed due hne hf hp hr => exact hf.keeps.trans hr.frame.2.2
  | reported due hne hf hp hr hstate => exact hf.keeps.trans hr.frame.2.2
  | unapplied c due hne hf hv => exact hf.keeps
  | applied due hne hf hv hw => exact hf.keeps.trans hw.frame.2.2.2

/-- The exits of `reconcile`: the execution is not there or not read, or an
activation has run and its conditions were left, stored, or could not be stored. -/
inductive ReconcileOutcome (adm : Admission) (rt : Runtime) (now : Time) (req : NamespacedName)
    (s : Cluster) : Except ReconcileError CtrlResult → Cluster → Prop
  | absent (he : s.executions req = none) : ReconcileOutcome adm rt now req s (.ok {}) s
  | unread (c : ApiError) : ReconcileOutcome adm rt now req s (.error (.fetch c)) s
  | unmarked {ate : ActivationTaskExecution} {t : Cluster}
      {r : Except ReconcileError CtrlResult × ActivationTaskExecution}
      (he : s.executions req = some ate) (h : ActivationOutcome adm rt now req.ns ate s r t)
      (hsame : r.2.conditions = ate.conditions) : ReconcileOutcome adm rt now req s r.1 t
  | marked {ate : ActivationTaskExecution} {t : Cluster}
      {r : Except ReconcileError CtrlResult × ActivationTaskExecution}
      (he : s.executions req = some ate) (h : ActivationOutcome adm rt now req.ns ate s r t)
      (hnew : r.2.conditions ≠ ate.conditions) :
      ReconcileOutcome adm rt now req s r.1
        (t.setExecution req (some { ate with conditions := r.2.conditions }))
  | unpatched {ate : ActivationTaskExecution} {t : Cluster}
      {r : Except ReconcileError CtrlResult × ActivationTaskExecution} (e : ReconcileError)
      (he : s.executions req = some ate) (h : ActivationOutcome adm rt now req.ns ate s r t)
      (hnew : r.2.conditions ≠ ate.conditions) : ReconcileOutcome adm rt now req s (.error e) t

theorem reconcile_outcome (rt : Runtime) (now : Time) (req : NamespacedName) :
    (reconcile rt now req).Ensures (exec adm) (ReconcileOutcome adm rt now req s) s := by
  refine (ensures_get rfl).mpr ⟨⟨fun ate he => ?_, fun he => ?_⟩, fun msg => ?_⟩
  · refine (reconcileActivationTaskExecution_outcome rt now ate).bind fun r t h => ?_
    obtain ⟨result, ate'⟩ := r
    by_cases hc : ate'.conditions = ate.conditions
    · simp only [hc, if_true]
      exact ReconcileOutcome.unmarked he h hc
    · simp only [hc, if_false]
      refine ensures_patchExecutionStatus.mpr ⟨⟨fun e' he' => ?_, fun hno => ?_⟩, fun msg => ?_⟩
      · -- the execution is still the one that was read
        obtain rfl : ate = e' := Option.some.inj (by rw [← he, ← h.keeps.executions, he'])
        exact ReconcileOutcome.marked he h hc
      · rw [h.keeps.executions, he] at hno
        cases hno
      · cases result with
        | error err => exact ReconcileOutcome.unpatched _ he h hc
        | ok res => exact ReconcileOutcome.unpatched _ he h hc
  · exact ReconcileOutcome.absent he
  · exact ReconcileOutcome.unread _

-- ════════════════════════════════════════════════════════════════════════
-- A small landscape for concrete runs
-- ════════════════════════════════════════════════════════════════════════

/-- One Stage that nobody has activated, with one execution. -/
def freshStage : Cluster where
  executions key := if key = ⟨"landscape", "e"⟩ then some ⟨"e", 1, 1, typeGatewayRoute, "a", "", []⟩ else none
  vectorActivations key := if key = ⟨"landscape", "a"⟩ then some ⟨"prod", "v", "vd"⟩ else none
  stages key := if key = ⟨"landscape", "prod"⟩ then some ⟨[], false, none⟩ else none
  stageVersions _ := none
  vectorDeployments key :=
    if key = ⟨"landscape", "vd"⟩ then
      some ⟨"vd", [("shop", [⟨"shop", typeHTTPK8sService, ""⟩])]⟩
    else none
  gatewayClasses _ := false
  gateways _ := none
  httpRoutes _ := none
  revision := 0
  clock := 0

def shopRuntime : Runtime where
  unmarshalServiceSpec _ := .ok ⟨"landscape", "shop", [⟨"http", .tcp, 80⟩], "http"⟩
  order := .insertion
  sort := .byKey RouteTarget.name

end LandscapeOrchestrator.ActivationExecution
