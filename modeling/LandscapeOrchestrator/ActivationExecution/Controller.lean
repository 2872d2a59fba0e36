import LandscapeOrchestrator.ActivationExecution.RouterGateway

/-!
# The activation and the stage-cleanup controller

Each reconcile is a program of API calls, in the order of the source. Events and
log lines are left out: nothing reads them.
-/

namespace LandscapeOrchestrator.ActivationExecution
open Apilib

/-- `ctrl.Result`. -/
structure CtrlResult where
  requeueAfter : Time := 0
  deriving DecidableEq, Repr

def markSucceeded (now : Time) (ate : ActivationTaskExecution) : ActivationTaskExecution :=
  { ate with
    conditions := setStatusCondition now (removeStatusCondition ate.conditions .inProgress) {
      type := .succeeded
      status := .isTrue
      reason := .name .succeeded
      message := "Successfully reconciled ActivationTaskExecution " ++ ate.name
      observedGeneration := ate.generation
      lastTransitionTime := some now } }

def reportRouterGateway (now : Time) (ate : ActivationTaskExecution) (state : RouterGatewayState) :
    CtrlResult × ActivationTaskExecution :=
  if state.phase = .pending then
    ({ requeueAfter := routerGatewayPollInterval },
      { ate with
        conditions := setStatusCondition now ate.conditions {
          type := .inProgress
          status := .isTrue
          reason := .text state.reason
          message := state.message
          observedGeneration := ate.generation
          lastTransitionTime := none } })
  else
    ({}, { ate with
      conditions := setStatusCondition now (removeStatusCondition ate.conditions .inProgress) {
        type := .failed
        status := .isTrue
        reason := .text state.reason
        message := state.message
        observedGeneration := ate.generation
        lastTransitionTime := none } })

/-- Whether a strictly newer StageVersion is already active than the one this
execution activates. -/
def isSuperseded (ns : String) (va : VectorActivation) : Program (Except ReconcileError Bool) := do
  match ← getStage ⟨ns, va.stage⟩ with
  | .error e => if e.isNotFound then return .ok true else return .error (.getStage va.stage e)
  | .ok stage =>
  match stage.activeStageVersion with
  | none => return .ok false
  | some active =>
  if active = va.stageVersion then return .ok false
  else
  match ← getStageVersion ⟨ns, va.stageVersion⟩ with
  | .error e =>
    if e.isNotFound then return .ok true else return .error (.getStageVersion va.stageVersion e)
  | .ok mine =>
  match ← getStageVersion ⟨ns, active⟩ with
  | .error e =>
    if e.isNotFound then return .ok false else return .error (.getActiveStageVersion active e)
  | .ok activeSV => return .ok (mine.creationTimestamp < activeSV.creationTimestamp)

def ensureStageFinalizer (ns stageName : String) : Program (Except ReconcileError Unit) := do
  match ← getStage ⟨ns, stageName⟩ with
  | .error e => return .error (.getStage stageName e)
  | .ok stage =>
  if stageRouteFinalizer ∈ stage.finalizers then return .ok ()
  else match ← patchStageFinalizers ⟨ns, stageName⟩ (stage.finalizers ++ [stageRouteFinalizer]) with
    | .error e => return .error (.addFinalizer stageName e)
    | .ok _ => return .ok ()

def parentRef (config : GatewayRouteConfig) : ParentReference :=
  ⟨config.gatewayName, if config.gatewayNamespace = "" then none else some config.gatewayNamespace⟩

/-- The spec an activation writes. -/
def routeSpec (config : GatewayRouteConfig) (rules : List HTTPRouteRule) : HTTPRouteSpec :=
  ⟨[parentRef config], [], rules⟩

/-- `controllerutil.CreateOrUpdate`: an existing route is updated only when its
spec differs. -/
def applyStageRoute (ns stage : String) (config : GatewayRouteConfig) (rules : List HTTPRouteRule) :
    Program (Except ReconcileError Unit) := do
  match ← getHTTPRoute ⟨ns, stageRouteName stage⟩ with
  | .error e =>
    if e.isNotFound then
      match ← createHTTPRoute ⟨ns, stageRouteName stage⟩ (routeSpec config rules) with
      | .error e => return .error (.applyRoute stage e)
      | .ok _ => return .ok ()
    else return .error (.applyRoute stage e)
  | .ok route =>
  if route.spec = routeSpec config rules then return .ok ()
  else
    match ← updateHTTPRoute ⟨ns, stageRouteName stage⟩ route.resourceVersion
      (routeSpec config rules) with
    | .error e => return .error (.applyRoute stage e)
    | .ok _ => return .ok ()

/-- The end of an activation: write the route and mark the execution. -/
def attachStageRoute (now : Time) (ns : String) (ate : ActivationTaskExecution) (stage : String)
    (config : GatewayRouteConfig) (rules : List HTTPRouteRule) :
    Program (Except ReconcileError CtrlResult × ActivationTaskExecution) := do
  match ← applyStageRoute ns stage config rules with
  | .error e => return (.error e, ate)
  | .ok _ => return (.ok {}, markSucceeded now ate)

/-- The writes of an activation that exposes something: the Stage's finalizer, the
router Gateway, the route. -/
def exposeStage (now : Time) (ns : String) (ate : ActivationTaskExecution) (stage : String)
    (config : GatewayRouteConfig) (rules : List HTTPRouteRule) :
    Program (Except ReconcileError CtrlResult × ActivationTaskExecution) := do
  match ← ensureStageFinalizer ns stage with
  | .error e => return (.error e, ate)
  | .ok _ =>
  if config.provisionsGateway then
    match ← ensureRouterGateway ns config.gatewayClassName ate.creationTimestamp now with
    | .error e => return (.error e, ate)
    | .ok state =>
      if state.phase ≠ .ready then
        let (result, ate) := reportRouterGateway now ate state
        return (.ok result, ate)
      else attachStageRoute now ns ate stage config rules
  else attachStageRoute now ns ate stage config rules

/-- The execution is passed by reference in the source: it comes back beside the
result, changed or not. -/
def reconcileActivationTaskExecution (rt : Runtime) (now : Time) (ns : String)
    (ate : ActivationTaskExecution) :
    Program (Except ReconcileError CtrlResult × ActivationTaskExecution) := do
  -- a failed execution fails its VectorActivation; a new one retries
  if isStatusConditionTrue ate.conditions .failed then return (.ok {}, ate)
  else
  match ← getVectorActivation ⟨ns, ate.vectorActivation⟩ with
  | .error e => return (.error (.fetchVectorActivation e), ate)
  | .ok va =>
  match ← isSuperseded ns va with
  | .error e => return (.error e, ate)
  | .ok true => return (.ok {}, markSucceeded now ate)
  | .ok false =>
  match parseGatewayRouteConfig ate with
  | .error e => return (.error e, ate)
  | .ok config =>
  match ← getVectorDeployment ⟨ns, va.vectorDeployment⟩ with
  | .error e => return (.error (.getVectorDeployment va.vectorDeployment e), ate)
  | .ok vd =>
  match buildRouteRules rt va.stage vd with
  | .error e => return (.error e, ate)
  | .ok [] =>
    match ignoreNotFound (← deleteHTTPRoute ⟨ns, stageRouteName va.stage⟩) with
    | some e => return (.error (.deleteRoute va.stage e), ate)
    | none => return (.ok {}, markSucceeded now ate)
  | .ok rules =>
  exposeStage now ns ate va.stage config rules

/-- `Reconcile` of the activation controller: the status is patched only when it changed. -/
def reconcile (rt : Runtime) (now : Time) (req : NamespacedName) :
    Program (Except ReconcileError CtrlResult) := do
  match ← getExecution req with
  | .error e => if e.isNotFound then return .ok {} else return .error (.fetch e)
  | .ok original =>
  let (result, ate) ← reconcileActivationTaskExecution rt now req.ns original
  if ate.conditions = original.conditions then return result
  else
  match ← patchExecutionStatus req ate.conditions, result with
  | .error e, .error err => return .error (.patchStatusAfter e err)
  | .error e, .ok _ => return .error (.patchStatus e)
  | .ok _, result => return result

/-- The last step of the cleanup: the finalizer is taken from the list that was read. -/
def releaseStage (req : NamespacedName) (stage : Stage) :
    Program (Except ReconcileError CtrlResult) := do
  match ← patchStageFinalizers req (stage.finalizers.filter (· ≠ stageRouteFinalizer)) with
  | .error e => return .error (.removeFinalizer req.name e)
  | .ok _ => return .ok {}

/-- The cleanup of a Stage that is being deleted: first its route, then the finalizer. -/
def cleanupStage (req : NamespacedName) (stage : Stage) :
    Program (Except ReconcileError CtrlResult) := do
  match ignoreNotFound (← deleteHTTPRoute ⟨req.ns, stageRouteName req.name⟩) with
  | some e => return .error (.deleteRoute req.name e)
  | none => releaseStage req stage

/-- `Reconcile` of the cleanup controller. -/
def cleanupReconcile (req : NamespacedName) : Program (Except ReconcileError CtrlResult) := do
  match ← getStage req with
  | .error e => if e.isNotFound then return .ok {} else return .error (.fetch e)
  | .ok stage =>
  if !stage.deleting || stageRouteFinalizer ∉ stage.finalizers then return .ok {}
  else cleanupStage req stage

end LandscapeOrchestrator.ActivationExecution
