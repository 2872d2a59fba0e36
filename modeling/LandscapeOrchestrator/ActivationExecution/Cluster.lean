import LandscapeOrchestrator.Apilib.Program
import LandscapeOrchestrator.Apilib.Conditions
import LandscapeOrchestrator.Apilib.Names
import LandscapeOrchestrator.DeploymentResult
import Mathlib.Logic.Function.Basic
import Mathlib.Tactic.Simps.Basic

/-!
# The cluster as the activation controllers see it

The objects that the activation and the stage-cleanup controller read and write,
and the answer of the API server to each of their calls. The landscape client is
the control-plane client, so there is one cluster.
-/

namespace LandscapeOrchestrator.ActivationExecution
open Apilib

/-- Nanoseconds. -/
abbrev Time := ℕ

inductive ActivationCondition where
  | inProgress
  | succeeded
  | failed
  | other (s : String)
  deriving DecidableEq, Repr

/-- `raw` is the registration's configuration, carried verbatim. -/
structure ActivationTaskExecution where
  name : String
  creationTimestamp : Time
  generation : ℕ
  type : String
  vectorActivation : String
  raw : String
  conditions : List (Condition ActivationCondition)
  deriving DecidableEq

structure VectorActivation where
  stage : String
  stageVersion : String
  vectorDeployment : String
  deriving DecidableEq, Repr

structure Stage where
  finalizers : List String
  deleting : Bool
  activeStageVersion : Option String
  deriving DecidableEq, Repr

structure StageVersion where
  creationTimestamp : Time
  deriving DecidableEq, Repr

/-- `deploymentResults` are the entries of a map from component to results. -/
structure VectorDeployment where
  name : String
  deploymentResults : List (String × List DeploymentResult)
  deriving DecidableEq, Repr

inductive Routability where
  | unset
  | cluster
  | other (s : String)
  deriving DecidableEq, Repr

inductive GatewayCondition where
  | accepted
  | programmed
  | other (s : String)
  deriving DecidableEq, Repr

structure GatewaySpecAddress where
  routability : Routability
  deriving DecidableEq, Repr

structure GatewayStatusAddress where
  value : String
  routability : Option Routability
  deriving DecidableEq, Repr

structure Listener where
  name : String
  protocol : String
  port : ℕ
  deriving DecidableEq, Repr

structure Gateway where
  ns : String
  name : String
  labels : List (String × String)
  creationTimestamp : Time
  gatewayClassName : String
  addresses : List GatewaySpecAddress
  listeners : List Listener
  statusAddresses : List GatewayStatusAddress
  conditions : List (Condition GatewayCondition)
  deriving DecidableEq

/-- A label that is not set reads as the empty string. -/
def Gateway.label (g : Gateway) (key : String) : String := (g.labels.lookup key).getD ""

structure HTTPHeader where
  name : String
  value : String
  deriving DecidableEq, Repr

structure HTTPRouteMatch where
  headers : List HTTPHeader
  deriving DecidableEq, Repr

/-- A filter of type `RequestHeaderModifier`, the only one written here. -/
structure HTTPHeaderFilter where
  set : List HTTPHeader
  remove : List String
  deriving DecidableEq, Repr

structure HTTPBackendRef where
  name : String
  port : Option ℤ
  deriving DecidableEq, Repr

structure HTTPRouteRule where
  «matches» : List HTTPRouteMatch
  filters : List HTTPHeaderFilter
  backendRefs : List HTTPBackendRef
  deriving DecidableEq, Repr

/-- An unset namespace is the namespace of the route. -/
structure ParentReference where
  name : String
  ns : Option String
  deriving DecidableEq, Repr

structure HTTPRouteSpec where
  parentRefs : List ParentReference
  hostnames : List String
  rules : List HTTPRouteRule
  deriving DecidableEq, Repr

structure HTTPRoute where
  spec : HTTPRouteSpec
  resourceVersion : ℕ
  deriving DecidableEq, Repr

structure Cluster where
  executions : NamespacedName → Option ActivationTaskExecution
  vectorActivations : NamespacedName → Option VectorActivation
  stages : NamespacedName → Option Stage
  stageVersions : NamespacedName → Option StageVersion
  vectorDeployments : NamespacedName → Option VectorDeployment
  gatewayClasses : String → Bool
  gateways : NamespacedName → Option Gateway
  httpRoutes : NamespacedName → Option HTTPRoute
  /-- The next resource version to hand out. -/
  revision : ℕ
  clock : Time

namespace Cluster

@[simps] def setExecution (s : Cluster) (key : NamespacedName)
    (e : Option ActivationTaskExecution) : Cluster :=
  { s with executions := Function.update s.executions key e }

@[simps] def setStage (s : Cluster) (key : NamespacedName) (stage : Option Stage) : Cluster :=
  { s with stages := Function.update s.stages key stage }

@[simps] def setGateway (s : Cluster) (key : NamespacedName) (g : Option Gateway) : Cluster :=
  { s with gateways := Function.update s.gateways key g }

@[simps] def removeRoute (s : Cluster) (key : NamespacedName) : Cluster :=
  { s with httpRoutes := Function.update s.httpRoutes key none }

/-- A written route takes the next resource version. -/
@[simps] def writeRoute (s : Cluster) (key : NamespacedName) (spec : HTTPRouteSpec) : Cluster :=
  { s with
    httpRoutes := Function.update s.httpRoutes key (some ⟨spec, s.revision⟩)
    revision := s.revision + 1 }

theorem httpRoutes_of_removeRoute {s : Cluster} {k key : NamespacedName} {route : HTTPRoute}
    (h : (s.removeRoute k).httpRoutes key = some route) : s.httpRoutes key = some route := by
  by_cases hk : key = k
  · simp [hk] at h
  · simpa [Function.update_of_ne hk] using h

end Cluster

/-- A status or finalizer patch is a JSON merge patch: the list it carries
replaces the stored one. -/
inductive Op where
  | getExecution (key : NamespacedName)
  | patchExecutionStatus (key : NamespacedName) (conditions : List (Condition ActivationCondition))
  | getVectorActivation (key : NamespacedName)
  | getStage (key : NamespacedName)
  | patchStageFinalizers (key : NamespacedName) (finalizers : List String)
  | getStageVersion (key : NamespacedName)
  | getVectorDeployment (key : NamespacedName)
  | getGatewayClass (name : String)
  | getGateway (key : NamespacedName)
  | createGateway (gateway : Gateway)
  | deleteGateway (key : NamespacedName)
  | getHTTPRoute (key : NamespacedName)
  | createHTTPRoute (key : NamespacedName) (spec : HTTPRouteSpec)
  | updateHTTPRoute (key : NamespacedName) (resourceVersion : ℕ) (spec : HTTPRouteSpec)
  | deleteHTTPRoute (key : NamespacedName)

@[reducible] def Res : Op → Type
  | .getExecution _ => ActivationTaskExecution
  | .getVectorActivation _ => VectorActivation
  | .getStage _ => Stage
  | .getStageVersion _ => StageVersion
  | .getVectorDeployment _ => VectorDeployment
  | .getGateway _ => Gateway
  | .createGateway _ => Gateway
  | .getHTTPRoute _ => HTTPRoute
  | _ => Unit

abbrev Program := Prog Op Res

def notFound (resource name : String) : ApiError :=
  .notFound (resource ++ " \"" ++ name ++ "\" not found")

def alreadyExists (resource name : String) : ApiError :=
  .alreadyExists (resource ++ " \"" ++ name ++ "\" already exists")

/-- The answer to a `Get`. -/
def found {α : Type} (resource name : String) : Option α → Except ApiError α
  | some a => .ok a
  | none => .error (notFound resource name)

/-- What the API server of the landscape keeps of the addresses of a new
Gateway: custom resource definitions without the routability field prune it. -/
structure Admission where
  storedAddresses : List GatewaySpecAddress → List GatewaySpecAddress

/-- An object with a deletion timestamp takes no new finalizer and vanishes with
its last one. -/
def patchFinalizers (key : NamespacedName) (finalizers : List String) (s : Cluster) :
    Except ApiError Unit × Cluster :=
  match s.stages key with
  | none => (.error (notFound "stages" key.name), s)
  | some stage =>
    if stage.deleting ∧ ¬ finalizers ⊆ stage.finalizers then
      (.error (.fault "no new finalizers can be added if the object is being deleted"), s)
    else if stage.deleting ∧ finalizers = [] then
      (.ok (), s.setStage key none)
    else
      (.ok (), s.setStage key (some { stage with finalizers := finalizers }))

/-- The API server. -/
def exec (adm : Admission) : Exec Op Res Cluster
  | .getExecution key, s => (found "activationtaskexecutions" key.name (s.executions key), s)
  | .patchExecutionStatus key conditions, s =>
    match s.executions key with
    | none => (.error (notFound "activationtaskexecutions" key.name), s)
    | some e => (.ok (), s.setExecution key (some { e with conditions := conditions }))
  | .getVectorActivation key, s => (found "vectoractivations" key.name (s.vectorActivations key), s)
  | .getStage key, s => (found "stages" key.name (s.stages key), s)
  | .patchStageFinalizers key finalizers, s => patchFinalizers key finalizers s
  | .getStageVersion key, s => (found "stageversions" key.name (s.stageVersions key), s)
  | .getVectorDeployment key, s => (found "vectordeployments" key.name (s.vectorDeployments key), s)
  | .getGatewayClass name, s =>
    (if s.gatewayClasses name then .ok () else .error (notFound "gatewayclasses" name), s)
  | .getGateway key, s => (found "gateways" key.name (s.gateways key), s)
  | .createGateway g, s =>
    match s.gateways ⟨g.ns, g.name⟩ with
    | some _ => (.error (alreadyExists "gateways" g.name), s)
    | none =>
      let stored := { g with
        addresses := adm.storedAddresses g.addresses
        creationTimestamp := s.clock }
      (.ok stored, s.setGateway ⟨g.ns, g.name⟩ (some stored))
  | .deleteGateway key, s =>
    match s.gateways key with
    | none => (.error (notFound "gateways" key.name), s)
    | some _ => (.ok (), s.setGateway key none)
  | .getHTTPRoute key, s => (found "httproutes" key.name (s.httpRoutes key), s)
  | .createHTTPRoute key spec, s =>
    match s.httpRoutes key with
    | some _ => (.error (alreadyExists "httproutes" key.name), s)
    | none => (.ok (), s.writeRoute key spec)
  | .updateHTTPRoute key resourceVersion spec, s =>
    match s.httpRoutes key with
    | none => (.error (notFound "httproutes" key.name), s)
    | some route =>
      if route.resourceVersion = resourceVersion then
        (.ok (), s.writeRoute key spec)
      else (.error (.fault "the object has been modified"), s)
  | .deleteHTTPRoute key, s =>
    match s.httpRoutes key with
    | none => (.error (notFound "httproutes" key.name), s)
    | some _ => (.ok (), s.removeRoute key)

end LandscapeOrchestrator.ActivationExecution
