import LandscapeOrchestrator.ActivationExecution.Outcomes

namespace LandscapeOrchestrator.ActivationExecution
open Apilib

/-- A bad configuration, a missing VectorDeployment or a result that cannot be routed. -/
def ReconcileError.isPreparation : ReconcileError → Bool
  | .parseConfig => true
  | .getVectorDeployment _ _ => true
  | .decodeServiceSpec _ _ => true
  | .exposedPort _ _ => true
  | _ => false

/-- The activation is in place: the stage's route has exactly the rules, its
Stage carries the finalizer, and a provisioned router has been verified and is the
one the route is attached to. -/
structure RouteApplied (ns stage : String) (config : GatewayRouteConfig)
    (rules : List HTTPRouteRule) (t : Cluster) : Prop where
  route : ∃ route, t.httpRoutes (routeKey ns stage) = some route ∧
    route.spec = routeSpec config rules
  finalizer : ∃ st, t.stages ⟨ns, stage⟩ = some st ∧ stageRouteFinalizer ∈ st.finalizers
  router : config.provisionsGateway = true →
    RouterVerified ns t ∧ parentRef config = ⟨defaultGatewayName, none⟩

/-- How a run of `reconcileActivationTaskExecution` from `s`, with result `r` and
final state `t`, may change routes. -/
structure RouteDiscipline (rt : Runtime) (now : Time) (ns : String) (ate : ActivationTaskExecution)
    (s : Cluster) (r : Except ReconcileError CtrlResult × ActivationTaskExecution) (t : Cluster) :
    Prop where
  changed : ∀ key, t.httpRoutes key ≠ s.httpRoutes key →
    r = (.ok {}, markSucceeded now ate) ∧
      ∃ va, s.vectorActivations ⟨ns, ate.vectorActivation⟩ = some va ∧ key = routeKey ns va.stage
  onError : ∀ e, r.1 = .error e → t.httpRoutes = s.httpRoutes ∧ r.2 = ate ∧
    (e.isPreparation = true → t.stages = s.stages ∧ t.gateways = s.gateways)
  onReport : ∀ state : RouterGatewayState, state.phase ≠ .ready →
    r.2 = (reportRouterGateway now ate state).2 → t.httpRoutes = s.httpRoutes
  /-- A failed execution is left alone; it is the one exit that marks nothing. -/
  onFailed : isStatusConditionTrue ate.conditions .failed = true → r = (.ok {}, ate) ∧ t = s
  exits : isStatusConditionTrue ate.conditions .failed = false →
    (∃ e, r.1 = .error e) ∨
      (∃ state : RouterGatewayState, state.phase ≠ .ready ∧
        r = (.ok (reportRouterGateway now ate state).1, (reportRouterGateway now ate state).2)) ∨
      r = (.ok {}, markSucceeded now ate)
  onSuccess : isStatusConditionTrue ate.conditions .failed = false →
    (∃ res, r.1 = .ok res) → r.2 = markSucceeded now ate →
    isStatusConditionTrue r.2.conditions .succeeded = true ∧
    ∃ va, s.vectorActivations ⟨ns, ate.vectorActivation⟩ = some va ∧
      ((superseded s ns va = true ∧ SupersededReason s ns va ∧ t.httpRoutes = s.httpRoutes) ∨
        ∃ config vd rules, Due rt ns ate s va config vd rules ∧
          ((rules = [] ∧ t.httpRoutes (routeKey ns va.stage) = none ∧
              ∀ entry ∈ vd.deploymentResults, ∀ result ∈ entry.2,
                routeTarget rt.unmarshalServiceSpec result = .ok none) ∨
            rules ≠ [] ∧ RouteApplied ns va.stage config rules t))

variable {adm : Admission} {rt : Runtime} {now : Time} {ns : String}
  {ate : ActivationTaskExecution} {s t : Cluster}
  {r : Except ReconcileError CtrlResult × ActivationTaskExecution}

theorem markSucceeded_succeeded (now : Time) (ate : ActivationTaskExecution) :
    isStatusConditionTrue (markSucceeded now ate).conditions .succeeded = true :=
  isStatusConditionTrue_set rfl

theorem markSucceeded_failed (now : Time) (ate : ActivationTaskExecution) :
    isStatusConditionTrue (markSucceeded now ate).conditions .failed =
      isStatusConditionTrue ate.conditions .failed :=
  (isStatusConditionTrue_set_of_ne (by simp)).trans (isStatusConditionTrue_remove_of_ne (by simp))

theorem markSucceeded_inProgress (now : Time) (ate : ActivationTaskExecution) :
    isStatusConditionTrue (markSucceeded now ate).conditions .inProgress = false := by
  refine (isStatusConditionTrue_set_of_ne (by simp)).trans ?_
  simp [isStatusConditionTrue]

theorem report_succeeded (now : Time) (ate : ActivationTaskExecution) (state : RouterGatewayState) :
    isStatusConditionTrue (reportRouterGateway now ate state).2.conditions .succeeded =
      isStatusConditionTrue ate.conditions .succeeded := by
  unfold reportRouterGateway
  split
  · exact isStatusConditionTrue_set_of_ne (by simp)
  · exact (isStatusConditionTrue_set_of_ne (by simp)).trans
      (isStatusConditionTrue_remove_of_ne (by simp))

/-- A report leaves `InProgress` or `Failed` true, and success neither. -/
theorem report_ne_markSucceeded (hf : isStatusConditionTrue ate.conditions .failed = false)
    (state : RouterGatewayState) : (reportRouterGateway now ate state).2 ≠ markSucceeded now ate := by
  intro h
  unfold reportRouterGateway at h
  split at h
  · have hp := markSucceeded_inProgress now ate
    rw [← h] at hp
    exact absurd ((isStatusConditionTrue_set rfl).symm.trans hp) (by simp)
  · have hp := (markSucceeded_failed now ate).trans hf
    rw [← h] at hp
    exact absurd ((isStatusConditionTrue_set rfl).symm.trans hp) (by simp)

theorem RouterOutcome.error_isPreparation {className : String} {startedAt : Time}
    {e : ReconcileError} (h : RouterOutcome adm ns className startedAt now s (.error e) t) :
    e.isPreparation = false := by
  cases h <;> rfl

/-- Only a successful exit writes a route, and only its own stage's. -/
theorem ActivationOutcome.routes (h : ActivationOutcome adm rt now ns ate s r t) :
    t.httpRoutes = s.httpRoutes ∨
      isStatusConditionTrue ate.conditions .failed = false ∧
      r = (.ok {}, markSucceeded now ate) ∧
      ∃ va, s.vectorActivations ⟨ns, ate.vectorActivation⟩ = some va ∧
        ∀ key, key ≠ routeKey ns va.stage → t.httpRoutes key = s.httpRoutes key := by
  cases h with
  | alreadyFailed hf => exact .inl rfl
  | aborted e hf => exact .inl rfl
  | skipped hf hva hs => exact .inl rfl
  | routeRemoved due ht =>
    obtain rfl | ⟨-, rfl⟩ := ht
    · exact .inr ⟨due.notFailed, rfl, _, due.activation,
        fun key hk => by simp [Function.update_of_ne hk]⟩
    · exact .inl rfl
  | routerFailed due hne hf hp hr => exact .inl (hr.frame.1.trans hf.frame.1)
  | reported due hne hf hp hr hstate => exact .inl (hr.frame.1.trans hf.frame.1)
  | unapplied c due hne hf hv => exact .inl hf.frame.1
  | applied due hne hf hv hw =>
    exact .inr ⟨due.notFailed, rfl, _, due.activation,
      fun key hk => (hw.frame.1 key hk).trans (congrFun hf.frame.1 key)⟩

theorem ActivationOutcome.error (h : ActivationOutcome adm rt now ns ate s r t)
    {e : ReconcileError} (he : r.1 = .error e) :
    r.2 = ate ∧ (e.isPreparation = true → t = s) := by
  cases h with
  | aborted e hf => exact ⟨rfl, fun _ => rfl⟩
  | routerFailed due hne hf hp hr =>
    cases he
    exact ⟨rfl, fun h => by simp [hr.error_isPreparation] at h⟩
  | unapplied c due hne hf hv =>
    cases he
    exact ⟨rfl, fun h => by simp [ReconcileError.isPreparation] at h⟩
  | _ => cases he

/-- What holds when a run that was not failed before ends in success. -/
theorem ActivationOutcome.success (h : ActivationOutcome adm rt now ns ate s r t)
    (hnf : isStatusConditionTrue ate.conditions .failed = false)
    (hok : ∃ res, r.1 = .ok res) (hr : r.2 = markSucceeded now ate) :
    ∃ va, s.vectorActivations ⟨ns, ate.vectorActivation⟩ = some va ∧
      ((superseded s ns va = true ∧ SupersededReason s ns va ∧ t.httpRoutes = s.httpRoutes) ∨
        ∃ config vd rules, Due rt ns ate s va config vd rules ∧
          ((rules = [] ∧ t.httpRoutes (routeKey ns va.stage) = none ∧
              ∀ entry ∈ vd.deploymentResults, ∀ result ∈ entry.2,
                routeTarget rt.unmarshalServiceSpec result = .ok none) ∨
            rules ≠ [] ∧ RouteApplied ns va.stage config rules t)) := by
  cases h with
  | alreadyFailed hf => simp [hf] at hnf
  | skipped hf hva hs => exact ⟨_, hva, .inl ⟨hs, superseded_reason hs, rfl⟩⟩
  | routeRemoved due ht =>
    refine ⟨_, due.activation, .inr ⟨_, _, _, due, .inl ⟨rfl, ?_, buildRouteRules_nil due.rules⟩⟩⟩
    obtain rfl | ⟨hno, rfl⟩ := ht
    · simp
    · exact hno
  | reported due hne hf hp hrt hstate =>
    exact absurd hr (report_ne_markSucceeded hnf _)
  | applied due hne hf hv hw =>
    refine ⟨_, due.activation, .inr ⟨_, _, _, due, .inr ⟨hne, hw.stored, ?_, fun hp => ?_⟩⟩⟩
    · rw [hw.frame.2.1]
      exact hf.finalizer
    · obtain ⟨g, hg, hg'⟩ := hv hp
      obtain ⟨hname, hns⟩ := parseGatewayRouteConfig_provisions due.config hp
      exact ⟨⟨g, by rw [hw.frame.2.2.1, hg], hg'⟩, by simp [parentRef, hname, hns]⟩
  | _ =>
    obtain ⟨res, hres⟩ := hok
    cases hres

/-- Every exit of a run that was not failed before. -/
theorem ActivationOutcome.exits (h : ActivationOutcome adm rt now ns ate s r t)
    (hnf : isStatusConditionTrue ate.conditions .failed = false) :
    (∃ e, r.1 = .error e) ∨
      (∃ state : RouterGatewayState, state.phase ≠ .ready ∧
        r = (.ok (reportRouterGateway now ate state).1, (reportRouterGateway now ate state).2)) ∨
      r = (.ok {}, markSucceeded now ate) := by
  cases h with
  | alreadyFailed hf => simp [hf] at hnf
  | aborted e hf => exact .inl ⟨e, rfl⟩
  | skipped hf hva hs => exact .inr (.inr rfl)
  | routeRemoved due ht => exact .inr (.inr rfl)
  | routerFailed due hne hf hp hr => exact .inl ⟨_, rfl⟩
  | reported due hne hf hp hr hstate => exact .inr (.inl ⟨_, hstate, rfl⟩)
  | unapplied c due hne hf hv => exact .inl ⟨_, rfl⟩
  | applied due hne hf hv hw => exact .inr (.inr rfl)

theorem ActivationOutcome.routeDiscipline (h : ActivationOutcome adm rt now ns ate s r t) :
    RouteDiscipline rt now ns ate s r t where
  changed key hk := by
    obtain heq | ⟨-, hr, va, hva, hother⟩ := h.routes
    · exact absurd (congrFun heq key) hk
    · exact ⟨hr, va, hva, not_not.mp fun hne => hk (hother key hne)⟩
  onError e he := by
    obtain heq | ⟨-, hr, -⟩ := h.routes
    · obtain ⟨hate, hprep⟩ := h.error he
      exact ⟨heq, hate, fun hp => by rw [hprep hp]; exact ⟨rfl, rfl⟩⟩
    · simp [hr] at he
  onReport state hstate hr := by
    obtain heq | ⟨hnf, hr', -⟩ := h.routes
    · exact heq
    · exact absurd (hr.symm.trans (congrArg Prod.snd hr')) (report_ne_markSucceeded hnf state)
  onFailed hf := by
    cases h with
    | alreadyFailed _ => exact ⟨rfl, rfl⟩
    | aborted e hnf => simp [hf] at hnf
    | skipped hnf hva hs => simp [hf] at hnf
    | routeRemoved due ht => simp [due.notFailed] at hf
    | routerFailed due => simp [due.notFailed] at hf
    | reported due => simp [due.notFailed] at hf
    | unapplied c due => simp [due.notFailed] at hf
    | applied due => simp [due.notFailed] at hf
  exits hnf := h.exits hnf
  onSuccess hnf hok hr := ⟨by rw [hr]; exact markSucceeded_succeeded now ate, h.success hnf hok hr⟩

/-- The execution of `freshStage`. -/
def freshExecution : ActivationTaskExecution := ⟨"e", 1, 1, typeGatewayRoute, "a", "", []⟩

end LandscapeOrchestrator.ActivationExecution
