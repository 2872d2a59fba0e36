import LandscapeOrchestrator.Apilib.Conditions
import LandscapeOrchestrator.Apilib.Program
import LandscapeOrchestrator.DeploymentResult
import LandscapeOrchestrator.FluxDeployer.Names
import LandscapeOrchestrator.Golib.Format

/-!
# Deployment results of an ArtifactDeployment

The Services a deployment brought to the landscape, and the results published for
them: `fetchExposableServices`, `validateExposePorts`,
`mapServicesToDeploymentResults` and the status updater that calls them.
-/

namespace LandscapeOrchestrator.FluxDeployer
open Apilib

def labelArtifactDeployment : String := "konfidence.cloud/artifact-deployment"
def annotationDeploymentResult : String := "konfidence.cloud/deployment-result"
def annotationExposedPortName : String := "konfidence.cloud/exposed-port-name"
def stalledReasonExposePortNotFound : String := "ExposePortNotFound"
def stalledReasonExposePortUnsupportedProtocol : String := "ExposePortUnsupportedProtocol"

inductive DeploymentCondition where
  | artifactDeployed
  | appHealthy
  | deploymentResultCreated
  | ready
  | stalled
  | other (s : String)
  deriving DecidableEq, Repr

structure ArtifactDeployment where
  ns : String
  name : String
  generation : ℕ
  conditions : List (Condition DeploymentCondition)
  deploymentResults : List DeploymentResult
  deriving DecidableEq

structure Service where
  ns : String
  name : String
  labels : List (String × String)
  annotations : List (String × String)
  ports : List ServicePort
  deriving DecidableEq, Repr

/-- An annotation that is not set reads as the empty string. -/
def Service.annotation (s : Service) (key : String) : String := (s.annotations.lookup key).getD ""

def getTargetNamespace (landscape : String) : String := landscape

structure Cluster where
  services : List Service

inductive Op where
  | listServices (ns label value : String)

@[reducible] def Res : Op → Type
  | .listServices _ _ _ => List Service

abbrev Program := Prog Op Res

def exec : Exec Op Res Cluster
  | .listServices ns label value, s =>
    (.ok (s.services.filter fun svc => svc.ns = ns && svc.labels.lookup label = some value), s)

def listServices (ns label value : String) : Program (Except ApiError (List Service)) :=
  Prog.perform (Op.listServices ns label value)

/-- The errors of the status updater. -/
inductive UpdateError where
  | selector (value : String)
  | list (cause : ApiError)
  | duplicate (first second result : String)
  | marshal (cause : String)
  deriving DecidableEq, Repr

/-- The text of an error, up to the library's own description of a bad selector. -/
def UpdateError.message : UpdateError → String
  | selector _ => "failed to create Selector"
  | list cause => "failed to list services by label selector: " ++ cause.message
  | duplicate first second result =>
    "services " ++ Golib.quote first ++ " and " ++ Golib.quote second ++
      " both declare deployment result (name=" ++ Golib.quote result ++ ", type=" ++
      Golib.quote typeHTTPK8sService ++ "); the pair must be unique"
  | marshal cause => "failed to marshal deploymentResultServiceSpec: " ++ cause

def fetchExposableServices (d : ArtifactDeployment) : Program (Except UpdateError (List Service)) :=
  let value := sanitizeK8sResourceName d.name
  if !isLabelValue value then return .error (.selector value)
  else do
    match ← listServices d.ns labelArtifactDeployment value with
    | .error e => return .error (.list e)
    | .ok services => return .ok services

/-- What the list call of `fetchExposableServices` asks for. -/
def selectedFor (d : ArtifactDeployment) (s : Service) : Bool :=
  s.ns = d.ns && s.labels.lookup labelArtifactDeployment = some (sanitizeK8sResourceName d.name)

theorem selectedFor_iff {d : ArtifactDeployment} {s : Service} : selectedFor d s = true ↔
    s.ns = d.ns ∧
      s.labels.lookup labelArtifactDeployment = some (sanitizeK8sResourceName d.name) := by
  simp [selectedFor]

theorem fetchExposableServices_ensures (d : ArtifactDeployment) (s : Cluster) :
    (fetchExposableServices d).Ensures exec (fun r t => t = s ∧
      ∀ services, r = .ok services → services = s.services.filter (selectedFor d)) s := by
  unfold fetchExposableServices
  dsimp only
  split
  · exact ⟨rfl, fun services h => by cases h⟩
  · refine Prog.ensures_perform_bind.mpr ⟨⟨rfl, fun services h => ?_⟩, fun msg => ?_⟩
    · exact (Except.ok.inj h).symm
    · exact ⟨rfl, fun services h => by cases h⟩

def hasDeploymentResultName (s : Service) : Bool := s.annotation annotationDeploymentResult ≠ ""

structure ExposureValidationError where
  reason : String
  message : String
  deriving DecidableEq, Repr

def formatAvailablePorts (ports : List ServicePort) : String :=
  if ports.length = 0 then "none"
  else String.intercalate ", " (ports.map fun p => Golib.quote p.name ++ "/" ++ p.protocol.text)

/-- The loop body of `validateExposePorts`. -/
def validateExposePort (s : Service) : Option ExposureValidationError :=
  if !hasDeploymentResultName s then none
  else
    let selectedPort := s.annotation annotationExposedPortName
    if selectedPort = "" then none
    else
      let subject := "Service " ++ Golib.quote s.name ++ ": annotation " ++
        Golib.quote annotationExposedPortName ++ " names port " ++ Golib.quote selectedPort
      match s.ports.find? (fun p => p.name = selectedPort) with
      | none => some {
          reason := stalledReasonExposePortNotFound
          message := subject ++ ", but no Service port has that name (available ports: " ++
            formatAvailablePorts s.ports ++ ")" }
      | some port =>
        if port.protocol ≠ .tcp then some {
          reason := stalledReasonExposePortUnsupportedProtocol
          message := subject ++ ", which uses unsupported protocol " ++
            Golib.quote port.protocol.text ++ " (only TCP is supported)" }
        else none

/-- The first Service that breaches the exposure contract. -/
def validateExposePorts : List Service → Option ExposureValidationError
  | [] => none
  | s :: services => match validateExposePort s with
    | some e => some e
    | none => validateExposePorts services

def serviceSpec (s : Service) : ServiceSpec where
  ns := s.ns
  k8sName := s.name
  servicePorts := s.ports
  ingressExposedPortName := s.annotation annotationExposedPortName

def resultKey (resultName : String) : String := resultName ++ "\x00" ++ typeHTTPK8sService

/-- The loop of `mapServicesToDeploymentResults`; `seen` maps a result to the Service
that declared it first. -/
def mapServices (marshal : ServiceSpec → Except String String) :
    List (String × String) → List Service → Except UpdateError (List DeploymentResult)
  | _, [] => .ok []
  | seen, s :: services =>
    if !hasDeploymentResultName s then mapServices marshal seen services
    else
      let resultName := s.annotation annotationDeploymentResult
      match seen.lookup (resultKey resultName) with
      | some first => .error (.duplicate first s.name resultName)
      | none => match marshal (serviceSpec s) with
        | .error cause => .error (.marshal cause)
        | .ok raw =>
          match mapServices marshal ((resultKey resultName, s.name) :: seen) services with
          | .error e => .error e
          | .ok results => .ok (⟨resultName, typeHTTPK8sService, raw⟩ :: results)

def mapServicesToDeploymentResults (marshal : ServiceSpec → Except String String)
    (services : List Service) : Except UpdateError (List DeploymentResult) :=
  mapServices marshal [] services

def setExposureValidationFailure (now : ℕ) (d : ArtifactDeployment) (e : ExposureValidationError) :
    ArtifactDeployment :=
  let condition (type : DeploymentCondition) (status : ConditionStatus) :
      Condition DeploymentCondition :=
    ⟨type, status, .text e.reason, e.message, d.generation, some now⟩
  { d with
    deploymentResults := []
    conditions := [condition .deploymentResultCreated .isFalse, condition .ready .isFalse,
      condition .stalled .isTrue].foldl (setStatusCondition now) d.conditions }

def hasExposureValidationFailure (d : ArtifactDeployment) : Bool :=
  match findStatusCondition d.conditions .stalled with
  | none => false
  | some stalled => stalled.status = .isTrue &&
    (stalled.reason = .text stalledReasonExposePortNotFound ||
      stalled.reason = .text stalledReasonExposePortUnsupportedProtocol)

def publish (now : ℕ) (d : ArtifactDeployment) (results : List DeploymentResult) :
    ArtifactDeployment :=
  { d with
    deploymentResults := results
    conditions := setStatusCondition now d.conditions {
      type := .deploymentResultCreated
      status := .isTrue
      reason := .name .deploymentResultCreated
      message := "Successfully created DeploymentResult"
      observedGeneration := d.generation
      lastTransitionTime := some now } }

/-- `DeploymentResultStatusUpdater.MutateStatus`. -/
def mutateStatus (marshal : ServiceSpec → Except String String) (now : ℕ) (d : ArtifactDeployment) :
    Program (Except UpdateError ArtifactDeployment) := do
  if hasExposureValidationFailure d then return .ok d
  else if !isStatusConditionTrue d.conditions .artifactDeployed then return .ok d
  else
  match ← fetchExposableServices d with
  | .error e => return .error e
  | .ok services =>
  match validateExposePorts services with
  | some e => return .ok (setExposureValidationFailure now d e)
  | none =>
  match mapServicesToDeploymentResults marshal services with
  | .error e => return .error e
  | .ok results => return .ok (publish now d results)

end LandscapeOrchestrator.FluxDeployer
