import LandscapeOrchestrator.ArtifactDeploymentController.Flux

/-!
# The Flux reconcilers

Each reconciler writes one Flux object of an ArtifactDeployment and copies the
conditions that Flux reports on it: `HelmRepository` and `HelmRelease` for a Helm
chart, `OCIRepository` and `Kustomization` for a Kustomize artifact.
-/

namespace LandscapeOrchestrator.ArtifactDeploymentController
open Apilib
open FluxDeployer (DeploymentCondition OCMResource HelmChartResource KustomizeResource Reference
  sanitizeK8sResourceName getTargetNamespace)

def defaultConfigMapName : String := "flux-deployer-configuration"
def maxKustomizationNameSuffixLength : ℕ := 36

/-- What other packages provide. -/
structure Libraries where
  parseReference : String → Except String Reference
  extractHostname : String → Except String String
  resourceName : String → String
  artifactVersionAnnotation : String
  artifactHashAnnotation : String
  marshal : ServiceSpec → Except String String

/-- A label that is not set reads as the empty string, which counts as missing. -/
def getKonfidenceLabel (d : Deployment) (label : String) : Option String :=
  let value := (d.labels.lookup ("konfidence.cloud/" ++ label)).getD ""
  if value = "" then none else some value

/-- `strconv.ParseBool` -/
def parseBool (s : String) : Option Bool :=
  if s ∈ ["1", "t", "T", "TRUE", "true", "True"] then some true
  else if s ∈ ["0", "f", "F", "FALSE", "false", "False"] then some false
  else none

/-- A label that is set to a true value. -/
def hasTrueLabel (d : Deployment) (label : String) : Bool :=
  (getKonfidenceLabel d label).bind parseBool = some true

def isInsecure (d : Deployment) : Bool := hasTrueLabel d "registry-insecure"

section Configuration

def getReconcileInterval (_landscape : String) : ℕ := 10
def getHelmInstallConfig (_landscape : String) : ℕ := 300
def getHelmDriftDetectionMode (_landscape : String) : String := "enabled"

/-- The kubeconfig Secret of a target, or none for the local cluster. -/
def DeploymentTarget.kubeConfig (target : DeploymentTarget) : Except String (Option String) :=
  match target.parameters with
  | none => .ok none
  | some params =>
    if params.apiGroup ≠ "" ∨ params.kind ≠ "Secret" ∨ params.name = "" then
      .error ("DeploymentTarget " ++ Golib.quote target.name ++
        " has invalid KLO kubeconfig parameters")
    else .ok (some params.name)

def getKubeConfigRef (landscape : String) (type : ArtifactType) :
    Program (Except String (Option String)) := do
  match ← findReadyTarget landscape type with
  | .error e => return .error e.message
  | .ok target => return target.kubeConfig

end Configuration

section Specs

variable (lib : Libraries) (d : Deployment)

def helmRepositorySpec (chart : HelmChartResource) (secretRef : Option String) :
    HelmRepositorySpec where
  interval := getReconcileInterval d.ns
  url := chart.repository
  insecure := isInsecure d || chart.insecure
  secretRef := secretRef
  type := if (Golib.cutPrefix chart.repository "oci://").isSome then "oci" else ""

def helmReleaseSpec (chart : HelmChartResource) (kubeConfig : Option String) : HelmReleaseSpec where
  interval := getReconcileInterval d.ns
  sourceRef := ⟨.helmRepository, d.ns, d.name⟩
  chart := chart.chartName
  version := chart.version
  releaseName := d.name
  kubeConfig := kubeConfig
  targetNamespace := getTargetNamespace d.ns
  storageNamespace := getTargetNamespace d.ns
  driftDetection := getHelmDriftDetectionMode d.ns
  installTimeout := getHelmInstallConfig d.ns
  commonLabels := [("konfidence.cloud/artifact-deployment", d.name)]

def ociRepositorySpec (artifact : KustomizeResource) (secretRef : Option String) :
    OCIRepositorySpec where
  interval := getReconcileInterval d.ns
  url := artifact.repository
  insecure := isInsecure d || artifact.insecure
  secretRef := secretRef
  tag := artifact.tag

/-- The suffix `-<version>-<hash>`, or `-<hash>` when that is too long. -/
def nameSuffix (version hash : String) : String :=
  let full := version ++ "-" ++ hash
  if full.utf8ByteSize + 1 ≤ maxKustomizationNameSuffixLength then
    "-" ++ sanitizeK8sResourceName full
  else "-" ++ sanitizeK8sResourceName hash

def buildKustomizationNameSuffix : String :=
  nameSuffix ((d.annotations.lookup lib.artifactVersionAnnotation).getD "")
    ((d.annotations.lookup lib.artifactHashAnnotation).getD "")

def kustomizationSpec (artifact : KustomizeResource) (kubeConfig : Option String) :
    KustomizationSpec where
  interval := getReconcileInterval d.ns
  sourceRef := ⟨.ociRepository, d.ns, d.name⟩
  path := artifact.path
  kubeConfig := kubeConfig
  targetNamespace := getTargetNamespace d.ns
  nameSuffix := buildKustomizationNameSuffix lib d
  prune := true
  wait := true
  commonLabels := [("konfidence.cloud/artifact-deployment", d.name)]

end Specs

section Writes

variable (lib : Libraries)

/-- The pull secret of a repository, or none for anonymous access. -/
def getSecretRef (d : Deployment) (repository : String) :
    Program (Except String (Option String)) := do
  if hasTrueLabel d "registry-skip-auth" then return .ok none
  else match lib.extractHostname repository with
  | .error cause => return .error ("failed to extract domain from registry url: " ++ cause)
  | .ok domain =>
    if domain = "" then return .ok none
    else match ← getSecretByConfigMap defaultConfigMapName domain with
    | .error e => return .error e.message
    | .ok configured =>
      if configured ≠ "" then return .ok (some configured)
      else match ← getSecret ⟨d.ns, lib.resourceName domain⟩ with
      | .ok _ => return .ok (some (lib.resourceName domain))
      | .error e =>
        if e.isNotFound then return .ok none
        else return .error ("failed to get pull secret " ++
          Golib.quote (lib.resourceName domain) ++ ": " ++ e.message)

/-- `controllerutil.CreateOrUpdate`: an object that already has its new form is not written. -/
def createOrUpdate (k : Kind) (key : NamespacedName) (mutate : Program (Except String k.Spec)) :
    Program (Except String (FluxObject k)) := do
  match ← getFlux k key with
  | .error e =>
    if e.isNotFound then
      match ← mutate with
      | .error cause => return .error cause
      | .ok spec => match ← createFlux k key spec with
        | .error e => return .error e.message
        | .ok o => return .ok o
    else return .error e.message
  | .ok o => match ← mutate with
    | .error cause => return .error cause
    | .ok spec =>
      if spec = o.spec then return .ok o
      else match ← updateFlux k key o.resourceVersion spec with
        | .error e => return .error e.message
        | .ok o => return .ok o

/-- A spec that needs the pull secret of a repository. -/
def withSecretRef {σ : Type} (d : Deployment) (repository kindName : String)
    (spec : Option String → σ) : Program (Except String σ) := do
  match ← getSecretRef lib d repository with
  | .error cause =>
    return .error ("failed to resolve secretRef for " ++ kindName ++ ": " ++ cause)
  | .ok secretRef => return .ok (spec secretRef)

/-- A spec that needs the kubeconfig of the deployment's target. -/
def withKubeConfig {σ : Type} (d : Deployment) (spec : Option String → σ) :
    Program (Except String σ) := do
  match ← getKubeConfigRef d.ns d.spec.artifactType with
  | .error cause => return .error cause
  | .ok kubeConfig => return .ok (spec kubeConfig)

def mutateHelmRepository (d : Deployment) (chart : HelmChartResource) :
    Program (Except String HelmRepositorySpec) :=
  withSecretRef lib d chart.repository "Helm Repository" (helmRepositorySpec d chart)

def mutateHelmRelease (d : Deployment) (chart : HelmChartResource) :
    Program (Except String HelmReleaseSpec) :=
  withKubeConfig d (helmReleaseSpec d chart)

def mutateOCIRepository (d : Deployment) (artifact : KustomizeResource) :
    Program (Except String OCIRepositorySpec) :=
  withSecretRef lib d artifact.repository "OCI Repository" (ociRepositorySpec d artifact)

def mutateKustomization (d : Deployment) (artifact : KustomizeResource) :
    Program (Except String KustomizationSpec) :=
  withKubeConfig d (kustomizationSpec lib d artifact)

end Writes

section Conditions

def fluxReason : Reason FluxCondition → Reason DeploymentCondition
  | .text s => .text s
  | .name t => .text t.text

/-- One Flux condition as one of the ArtifactDeployment. -/
def mapCondition (mapType : FluxCondition → Option DeploymentCondition) (now generation : ℕ)
    (conditions : List (Condition DeploymentCondition)) (c : Condition FluxCondition) :
    List (Condition DeploymentCondition) :=
  match mapType c.type with
  | none => conditions
  | some type => setStatusCondition now conditions {
      type := type
      status := c.status
      reason := fluxReason c.reason
      message := c.message
      observedGeneration := generation
      lastTransitionTime := some now }

def mapStatusConditions (mapType : FluxCondition → Option DeploymentCondition) (now : ℕ)
    (d : Deployment) (conditions : List (Condition FluxCondition)) : Deployment :=
  { d with conditions := conditions.foldl (mapCondition mapType now d.generation) d.conditions }

def artifactFetched : DeploymentCondition := .other "ArtifactFetched"

def mapHelmChartConditionType : FluxCondition → Option DeploymentCondition
  | .ready => some artifactFetched
  | _ => none

def mapHelmReleaseConditionType : FluxCondition → Option DeploymentCondition
  | .ready => some .artifactDeployed
  | .released => some .appHealthy
  | _ => none

def mapOCIRepositoryConditionType : FluxCondition → Option DeploymentCondition
  | .ready => some artifactFetched
  | _ => none

def mapKustomizationConditionType : FluxCondition → Option DeploymentCondition
  | .ready => some .artifactDeployed
  | .healthy => some .appHealthy
  | _ => none

end Conditions

section Reconcilers

variable (lib : Libraries) (now : ℕ)

/-- Write the object of `d` and say whether that succeeded. -/
def reconcileFlux (k : Kind) (kindName : String) (d : Deployment)
    (mutate : Program (Except String k.Spec)) : Program (Except String (FluxObject k)) := do
  match ← createOrUpdate k d.key mutate with
  | .error cause => return .error ("failed to reconcile " ++ kindName ++ ": " ++ cause)
  | .ok o => return .ok o

/-- A HelmRepository has no conditions to map. -/
def helmRepositoryReconcile (d : Deployment) (chart : HelmChartResource) :
    Program (Except String Bool) := do
  match ← reconcileFlux .helmRepository "HelmRepository" d (mutateHelmRepository lib d chart) with
  | .error cause => return .error cause
  | .ok _ => return .ok true

/-- The HelmChart that Flux makes for the HelmRelease; every error reads as its absence. -/
def getHelmChart (d : Deployment) : Program (Option (FluxObject .helmChart)) := do
  match ← getFlux .helmChart ⟨d.ns, d.ns ++ "-" ++ d.name⟩ with
  | .error _ => return none
  | .ok helmChart => return some helmChart

/-- The conditions of the HelmRelease count once the chart is there and ready. -/
def mapHelmStatus (d : Deployment) (release : FluxObject .helmRelease) : Program Deployment := do
  match ← getHelmChart d with
  | none => return d
  | some helmChart =>
    let d := mapStatusConditions mapHelmChartConditionType now d helmChart.conditions
    if isStatusConditionTrue helmChart.conditions .ready then
      return mapStatusConditions mapHelmReleaseConditionType now d release.conditions
    else return d

def helmReleaseReconcile (d : Deployment) (chart : HelmChartResource) :
    Program (Except String (Bool × Deployment)) := do
  match ← reconcileFlux .helmRelease "HelmRelease" d (mutateHelmRelease d chart) with
  | .error cause => return .error cause
  | .ok release =>
    let d ← mapHelmStatus now d release
    return .ok (isStatusConditionTrue release.conditions .ready, d)

def ociRepositoryReconcile (d : Deployment) (artifact : KustomizeResource) :
    Program (Except String (Bool × Deployment)) := do
  match ← reconcileFlux .ociRepository "OCIRepository" d (mutateOCIRepository lib d artifact) with
  | .error cause => return .error cause
  | .ok o => return .ok (isStatusConditionTrue o.conditions .ready,
      mapStatusConditions mapOCIRepositoryConditionType now d o.conditions)

def kustomizationReconcile (d : Deployment) (artifact : KustomizeResource) :
    Program (Except String (Bool × Deployment)) := do
  match ← reconcileFlux .kustomization "Kustomization" d (mutateKustomization lib d artifact) with
  | .error cause => return .error cause
  | .ok o => return .ok (isStatusConditionTrue o.conditions .ready,
      mapStatusConditions mapKustomizationConditionType now d o.conditions)

end Reconcilers

end LandscapeOrchestrator.ArtifactDeploymentController
