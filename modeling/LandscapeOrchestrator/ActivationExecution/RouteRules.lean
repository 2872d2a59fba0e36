import LandscapeOrchestrator.ActivationExecution.Cluster
import LandscapeOrchestrator.Golib.Format
import LandscapeOrchestrator.Golib.Iteration
import LandscapeOrchestrator.Jsonlib.Unmarshal

/-!
# The rules of a stage route

`buildRouteRules` and `parseGatewayRouteConfig`: what an activation derives from
its VectorDeployment and its configuration before it touches the cluster.
-/

namespace LandscapeOrchestrator.ActivationExecution
open Apilib

/-- The executions this controller is for. -/
def typeGatewayRoute : String := "gateway-route.konfidence.cloud"
def headerStage : String := "x-konfidence-stage"
def headerService : String := "x-konfidence-service"
def headerRoutingKey : String := "x-konfidence-routing-key"
def annotationExposedPortName : String := "konfidence.cloud/exposed-port-name"
def defaultGatewayName : String := "konfidence-router"
def stageRouteFinalizer : String := "konfidence.cloud/gateway-route-cleanup"
def stageRouteNamePrefix : String := "konfidence-stage-"
def labelProvisionedBy : String := "konfidence.cloud/provisioned-by"
def provisionedByOrchestrator : String := "kubernetes-landscape-orchestrator"

/-- The deterministic per-stage HTTPRoute name. -/
def stageRouteName (stage : String) : String := stageRouteNamePrefix ++ stage

/-- The errors of a reconcile, one constructor for each place that returns one. -/
inductive ReconcileError where
  | fetch (cause : ApiError)
  | patchStatus (cause : ApiError)
  | patchStatusAfter (cause : ApiError) (reconcile : ReconcileError)
  | fetchVectorActivation (cause : ApiError)
  | getStage (stage : String) (cause : ApiError)
  | getStageVersion (name : String) (cause : ApiError)
  | getActiveStageVersion (name : String) (cause : ApiError)
  | parseConfig
  | getVectorDeployment (name : String) (cause : ApiError)
  | decodeServiceSpec (result : String) (cause : String)
  | exposedPort (result port : String)
  | addFinalizer (stage : String) (cause : ApiError)
  | removeFinalizer (stage : String) (cause : ApiError)
  | deleteRoute (stage : String) (cause : ApiError)
  | getGateway (ns : String) (cause : ApiError)
  | deleteExposedGateway (ns : String) (cause : ApiError)
  | getGatewayClass (name : String) (cause : ApiError)
  | createGateway (ns : String) (cause : ApiError)
  | applyRoute (stage : String) (cause : ApiError)
  deriving DecidableEq, Repr

/-- The text of an error, up to the decoder's own description of malformed JSON. -/
def ReconcileError.message : ReconcileError → String
  | fetch cause => cause.message
  | patchStatus cause => "unable to update activationTaskExecution status: " ++ cause.message
  | patchStatusAfter cause err =>
    "unable to update activationTaskExecution status: " ++ cause.message ++
      "; an error occurred while reconciling activationTaskExecution: " ++ err.message
  | fetchVectorActivation cause => "unable to fetch vectorActivation: " ++ cause.message
  | getStage stage cause => "get Stage " ++ stage ++ ": " ++ cause.message
  | getStageVersion name cause => "get StageVersion " ++ name ++ ": " ++ cause.message
  | getActiveStageVersion name cause => "get active StageVersion " ++ name ++ ": " ++ cause.message
  | parseConfig => "parse gateway-route config"
  | getVectorDeployment name cause =>
    "failed to get VectorDeployment " ++ name ++ ": " ++ cause.message
  | decodeServiceSpec result cause =>
    "decode ServiceSpec for deployment result " ++ Golib.quote result ++ ": " ++ cause
  | exposedPort result port =>
    "deployment result " ++ Golib.quote result ++ " references Service port " ++ Golib.quote port ++
      ", but the port is missing or not TCP; set Service annotation " ++
      Golib.quote annotationExposedPortName ++ " to the name of a TCP port"
  | addFinalizer stage cause => "add route finalizer to Stage " ++ stage ++ ": " ++ cause.message
  | removeFinalizer stage cause =>
    "remove route finalizer from Stage " ++ stage ++ ": " ++ cause.message
  | deleteRoute stage cause => "delete HTTPRoute for stage " ++ stage ++ ": " ++ cause.message
  | getGateway ns cause =>
    "get Gateway " ++ ns ++ "/" ++ defaultGatewayName ++ ": " ++ cause.message
  | deleteExposedGateway ns cause =>
    "delete exposed Gateway " ++ ns ++ "/" ++ defaultGatewayName ++ ": " ++ cause.message
  | getGatewayClass name cause => "get GatewayClass " ++ name ++ ": " ++ cause.message
  | createGateway ns cause =>
    "create Gateway " ++ ns ++ "/" ++ defaultGatewayName ++ ": " ++ cause.message
  | applyRoute stage cause => "apply HTTPRoute for stage " ++ stage ++ ": " ++ cause.message

structure GatewayRouteConfig where
  gatewayName : String
  gatewayNamespace : String
  gatewayClassName : String
  provisionsGateway : Bool
  deriving DecidableEq, Repr

def gatewayRouteConfigFields : List String := ["gatewayName", "gatewayNamespace", "gatewayClassName"]

/-- The configuration's own fields, before defaults. An empty text is no configuration. -/
def unmarshalGatewayRouteConfig (raw : String) : Option (String → String) :=
  if raw = "" then some fun _ => "" else Jsonlib.unmarshalStrings gatewayRouteConfigFields raw

/-- A Gateway is provisioned when a class is named and neither the Gateway nor
its namespace is; only then is the name filled with its default. -/
def parseGatewayRouteConfig (ate : ActivationTaskExecution) :
    Except ReconcileError GatewayRouteConfig :=
  match unmarshalGatewayRouteConfig ate.raw with
  | none => .error .parseConfig
  | some get =>
    .ok {
      gatewayName := if get "gatewayName" = "" then defaultGatewayName else get "gatewayName"
      gatewayNamespace := get "gatewayNamespace"
      gatewayClassName := get "gatewayClassName"
      provisionsGateway := get "gatewayClassName" ≠ "" && get "gatewayName" = "" &&
        get "gatewayNamespace" = "" }

/-- A provisioning configuration always names the default Gateway in the
landscape namespace. -/
theorem parseGatewayRouteConfig_provisions {ate : ActivationTaskExecution}
    {config : GatewayRouteConfig} (h : parseGatewayRouteConfig ate = .ok config)
    (hp : config.provisionsGateway = true) :
    config.gatewayName = defaultGatewayName ∧ config.gatewayNamespace = "" := by
  unfold parseGatewayRouteConfig at h
  split at h
  · cases h
  · cases h
    simp only [Bool.and_eq_true, decide_eq_true_eq] at hp
    exact ⟨by simp [hp.1.2], hp.2⟩

structure RouteTarget where
  name : String
  service : String
  port : ℤ
  deriving DecidableEq, Repr

def RouteTarget.less (a b : RouteTarget) : Bool := a.name < b.name

/-- What the language and its JSON package leave to one run: the decoder of
`ServiceSpec`, the order in which a map is ranged over, and the unstable sort. -/
structure Runtime where
  unmarshalServiceSpec : String → Except String ServiceSpec
  order : Golib.RangeOrder (String × List DeploymentResult)
  sort : Golib.SliceSort RouteTarget RouteTarget.less

/-- The loop body: nothing for a result that is not routed, a target for one that is. -/
def routeTarget (unmarshal : String → Except String ServiceSpec) (result : DeploymentResult) :
    Except ReconcileError (Option RouteTarget) :=
  if result.type ≠ typeHTTPK8sService then .ok none
  else match unmarshal result.raw with
    | .error cause => .error (.decodeServiceSpec result.name cause)
    | .ok spec =>
      if spec.ingressExposedPortName = "" then .ok none
      else match spec.servicePorts.find? (fun p => p.name = spec.ingressExposedPortName) with
        | none => .error (.exposedPort result.name spec.ingressExposedPortName)
        | some selectedPort =>
          if selectedPort.protocol ≠ .tcp then
            .error (.exposedPort result.name spec.ingressExposedPortName)
          else .ok (some ⟨result.name, spec.k8sName, selectedPort.port⟩)

/-- The loop over the results; the first error ends it. -/
def routeTargets (unmarshal : String → Except String ServiceSpec) :
    List DeploymentResult → Except ReconcileError (List RouteTarget)
  | [] => .ok []
  | result :: results =>
    match routeTarget unmarshal result with
    | .error e => .error e
    | .ok none => routeTargets unmarshal results
    | .ok (some t) => match routeTargets unmarshal results with
      | .error e => .error e
      | .ok ts => .ok (t :: ts)

/-- The target of a result that the loop accepts and routes. -/
def acceptedTarget (unmarshal : String → Except String ServiceSpec) (result : DeploymentResult) :
    Option RouteTarget :=
  (routeTarget unmarshal result).toOption.join

/-- The loop succeeds when it accepts every result, and keeps the targets in order. -/
theorem routeTargets_eq_ok {unmarshal : String → Except String ServiceSpec}
    {results : List DeploymentResult} {targets : List RouteTarget} :
    routeTargets unmarshal results = .ok targets ↔
      (∀ r ∈ results, ∃ t, routeTarget unmarshal r = .ok t) ∧
        targets = results.filterMap (acceptedTarget unmarshal) := by
  induction results generalizing targets with
  | nil => simp [routeTargets, eq_comm]
  | cons r rs ih =>
    unfold routeTargets
    cases hr : routeTarget unmarshal r with
    | error e => simp [hr]
    | ok o =>
      cases o with
      | none => simp [hr, ih, acceptedTarget, Except.toOption]
      | some t =>
        cases hrs : routeTargets unmarshal rs with
        | error e =>
          have hno : ¬ ∀ r ∈ rs, ∃ t, routeTarget unmarshal r = .ok t := fun h => by
            simpa [hrs] using (ih.mpr ⟨h, rfl⟩ : routeTargets unmarshal rs = _)
          simp only [List.forall_mem_cons]
          simp [hno]
        | ok ts =>
          obtain ⟨hall, rfl⟩ := ih.mp hrs
          have hcons : (r :: rs).filterMap (acceptedTarget unmarshal) =
              t :: rs.filterMap (acceptedTarget unmarshal) := by
            simp [acceptedTarget, hr, Except.toOption]
          simp only [List.forall_mem_cons, hr, hcons]
          exact ⟨fun h => ⟨⟨⟨_, rfl⟩, hall⟩, (Except.ok.inj h).symm⟩, fun h => congrArg _ h.2.symm⟩

def routeRule (stage vectorDeployment : String) (t : RouteTarget) : HTTPRouteRule where
  «matches» := [⟨[⟨headerStage, stage⟩, ⟨headerService, t.name⟩]⟩]
  filters := [{
    -- overwritten, not appended, so that a client cannot supply its own key
    set := [⟨headerRoutingKey, vectorDeployment⟩]
    remove := [headerStage, headerService] }]
  backendRefs := [⟨t.service, some t.port⟩]

def buildRouteRules (rt : Runtime) (stage : String) (vd : VectorDeployment) :
    Except ReconcileError (List HTTPRouteRule) :=
  match routeTargets rt.unmarshalServiceSpec ((rt.order.range vd.deploymentResults).flatMap (·.2)) with
  | .error e => .error e
  | .ok targets => .ok ((rt.sort.sort targets).map (routeRule stage vd.name))

/-- No rules means that no result is exposed. -/
theorem buildRouteRules_nil {rt : Runtime} {stage : String} {vd : VectorDeployment}
    (h : buildRouteRules rt stage vd = .ok []) :
    ∀ entry ∈ vd.deploymentResults, ∀ result ∈ entry.2,
      routeTarget rt.unmarshalServiceSpec result = .ok none := by
  unfold buildRouteRules at h
  split at h
  · cases h
  · next targets ht =>
    obtain ⟨hall, rfl⟩ := routeTargets_eq_ok.mp ht
    simp only [Except.ok.injEq, List.map_eq_nil_iff, rt.sort.sort_eq_nil,
      List.filterMap_eq_nil_iff] at h
    intro entry he result hr
    have hmem : result ∈ (rt.order.range vd.deploymentResults).flatMap (·.2) :=
      List.mem_flatMap.mpr ⟨entry, rt.order.mem_range.mpr he, hr⟩
    obtain ⟨t, ht⟩ := hall result hmem
    have := h result hmem
    simp only [acceptedTarget, ht, Except.toOption] at this
    exact ht.trans (congrArg _ this)

/-- An exposed result gives a rule. -/
theorem buildRouteRules_ne_nil {rt : Runtime} {stage : String} {vd : VectorDeployment}
    {rules : List HTTPRouteRule} (h : buildRouteRules rt stage vd = .ok rules)
    (hex : ∃ entry ∈ vd.deploymentResults, ∃ result ∈ entry.2, ∃ t,
      routeTarget rt.unmarshalServiceSpec result = .ok (some t)) : rules ≠ [] := by
  rintro rfl
  obtain ⟨entry, he, result, hr, t, ht⟩ := hex
  cases ht.symm.trans (buildRouteRules_nil h entry he result hr)

/-- Every rule overwrites the routing key with the name of the VectorDeployment. -/
theorem buildRouteRules_routingKey {rt : Runtime} {stage : String} {vd : VectorDeployment}
    {rules : List HTTPRouteRule} (h : buildRouteRules rt stage vd = .ok rules) :
    ∀ rule ∈ rules, ∃ t, rule = routeRule stage vd.name t := by
  unfold buildRouteRules at h
  split at h
  · cases h
  · cases h
    intro rule hr
    obtain ⟨t, -, rfl⟩ := List.mem_map.mp hr
    exact ⟨t, rfl⟩

end LandscapeOrchestrator.ActivationExecution
