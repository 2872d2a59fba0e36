import LandscapeOrchestrator.Apilib.Runs
import LandscapeOrchestrator.ArtifactDeploymentController.Reconcilers

/-!
# The ArtifactDeployment controllers

The Helm and the Kustomize controller: each maps the one resource of its type, has the
Flux objects written, and runs the two status updaters on what Flux reported. Errors of
these steps are logged and swallowed; the status is patched once, at the end.

## Main definitions

- `reconcile` — one reconcile of either controller, in the order of the source
- `round` — a whole reconcile, while specs, Flux objects and Services change
- `deployers` — all runs of reconciles of both controllers
-/

namespace LandscapeOrchestrator.ArtifactDeploymentController
open Apilib
open FluxDeployer (DeploymentCondition OCMResource toHelm toKustomize)

def artifactDeploymentRequeueInterval : ℕ := 60

/-- `ReadyConditionStatusUpdater.MutateStatus` -/
def ReadyConditionStatusUpdater.mutateStatus (now : ℕ) (d : Deployment) : Deployment :=
  if isStatusConditionTrue d.conditions .stalled then d
  else if isStatusConditionTrue d.conditions .appHealthy &&
      isStatusConditionTrue d.conditions .deploymentResultCreated then
    { d with conditions := setStatusCondition now d.conditions {
        type := .ready
        status := .isTrue
        reason := .name .ready
        message := "Successfully reconciled ArtifactDeployment"
        observedGeneration := d.generation
        lastTransitionTime := some now } }
  else d

/-- `DeploymentResultStatusUpdater.MutateStatus`; an error leaves the status as it is. -/
def updateDeploymentResults (lib : Libraries) (now : ℕ) (d : Deployment) : Program Deployment := do
  match ← ofServices (FluxDeployer.mutateStatus lib.marshal now d.toArtifactDeployment) with
  | .error _ => return d
  | .ok updated => return { d with toArtifactDeployment := updated }

inductive Controller where
  | helm
  | kustomize
  deriving DecidableEq, Repr

namespace Controller

def artifactType : Controller → ArtifactType
  | helm => .helm
  | kustomize => .kustomize

def resourceType : Controller → String
  | helm => "helmChart"
  | kustomize => "kustomize"

def multipleReason : Controller → String
  | helm => "MultipleHelmChartResources"
  | kustomize => "MultipleKustomizeResources"

end Controller

section Reconcile

variable (lib : Libraries) (now : ℕ)

/-- The Flux objects of a Helm chart. -/
def helmFlux (resource : OCMResource) (d : Deployment) : Program Deployment := do
  match toHelm lib.parseReference resource with
  | .error _ => return d
  | .ok chart => match ← helmRepositoryReconcile lib d chart with
    | .error _ => return d
    | .ok _ => match ← helmReleaseReconcile now d chart with
      | .error _ => return d
      | .ok (_, d) => return d

/-- The Flux objects of a Kustomize artifact: the Kustomization waits for its source. -/
def kustomizeFlux (resource : OCMResource) (d : Deployment) : Program Deployment := do
  match toKustomize lib.parseReference resource with
  | .error _ => return d
  | .ok artifact => match ← ociRepositoryReconcile lib now d artifact with
    | .error _ => return d
    | .ok (isReady, d) =>
      if isReady then
        match ← kustomizationReconcile lib now d artifact with
        | .error _ => return d
        | .ok (_, d) => return d
      else return d

def Controller.flux : Controller → OCMResource → Deployment → Program Deployment
  | helm => helmFlux lib now
  | kustomize => kustomizeFlux lib now

def matchingResources (c : Controller) (d : Deployment) : List OCMResource :=
  d.spec.resources.filter fun resource => resource.type = c.resourceType

def multipleMessage (c : Controller) (d : Deployment) : String :=
  "expected exactly one OCM resource of type " ++ Golib.quote c.resourceType ++ ", found " ++
    toString (matchingResources c d).length ++ "; refusing to reconcile"

/-- The status for a spec with several matching resources. -/
def multipleResources (c : Controller) (d : Deployment) : Deployment :=
  { d with conditions := setStatusCondition now d.conditions {
      type := .ready
      status := .isFalse
      reason := .text c.multipleReason
      message := multipleMessage c d
      observedGeneration := d.generation
      lastTransitionTime := some now } }

def patchIfChanged (req : NamespacedName) (original d : Deployment) :
    Program (Except String Unit) := do
  if d.status = original.status then return .ok ()
  else match ← patchStatus req original.status d.status with
    | .error e => return .error ("unable to patch artifact deployment status: " ++ e.message)
    | .ok _ => return .ok ()

/-- The Flux objects of the one resource, if there is one. -/
def applyFlux (c : Controller) (d : Deployment) : Program Deployment :=
  match matchingResources c d with
  | [resource] => c.flux lib now resource d
  | _ => return d

/-- The Flux objects, then the two updaters. -/
def advance (c : Controller) (d : Deployment) : Program Deployment := do
  let d ← applyFlux lib now c d
  let d ← updateDeploymentResults lib now d
  return ReadyConditionStatusUpdater.mutateStatus now d

/-- The result is the time after which the object is reconciled again. -/
def reconcile (c : Controller) (req : NamespacedName) : Program (Except String (Option ℕ)) := do
  match ← getDeployment req with
  | .error e =>
    if e.isNotFound then return .ok none
    else return .error ("failed to get artifact deployment object: " ++ e.message)
  | .ok original =>
    if original.spec.artifactType ≠ c.artifactType then return .ok none
    else if 1 < (matchingResources c original).length then
      match ← patchIfChanged req original (multipleResources now c original) with
      | .error e => return .error e
      | .ok _ => return .error (multipleMessage c original)
    else
      let d ← advance lib now c original
      match ← patchIfChanged req original d with
      | .error e => return .error e
      | .ok _ => return .ok (some artifactDeploymentRequeueInterval)

/-- `HelmArtifactDeploymentReconciler.Reconcile` -/
def helmReconcile (req : NamespacedName) : Program (Except String (Option ℕ)) :=
  reconcile lib now .helm req

/-- `KustomizeArtifactDeploymentReconciler.Reconcile` -/
def kustomizeReconcile (req : NamespacedName) : Program (Except String (Option ℕ)) :=
  reconcile lib now .kustomize req

end Reconcile

section Runs

/-- What others do: a change of a spec raises the generation, a change of labels and
annotations does not, and everything else may change in any way. -/
inductive Change where
  | setSpec (key : NamespacedName) (spec : DeploymentSpec)
  | setMetadata (key : NamespacedName) (labels annotations : List (String × String))
  | setWorld (world : World)

def Change.apply : Change → Cluster → Cluster
  | setSpec key spec, s => match s.deployments key with
    | none => s
    | some d => s.setDeployment key { d with spec := spec, generation := d.generation + 1 }
  | setMetadata key labels annotations, s => match s.deployments key with
    | none => s
    | some d => s.setDeployment key { d with labels := labels, annotations := annotations }
  | setWorld world, s => { s with world := world }

/-- The circumstances of one reconcile: its time, what others do after each of its
calls, and which calls fail. -/
structure Circumstances where
  now : ℕ
  changes : ℕ → List Change
  faults : ℕ → Option String

/-- The API server while others act. -/
def disturbed (changes : ℕ → List Change) : Exec Op Res (Cluster × ℕ) :=
  exec.amid fun n s => (changes n).foldl (fun s c => c.apply s) s

/-- The API server as one reconcile sees it. -/
def server (changes : ℕ → List Change) : Exec Op Res ((Cluster × ℕ) × Log) :=
  (disturbed changes).logged

structure Round where
  result : Except String (Option ℕ)
  cluster : Cluster
  log : Log

/-- One reconcile, from its first call to its end. -/
def round (lib : Libraries) (c : Controller) (req : NamespacedName) (env : Circumstances)
    (s : Cluster) : Round :=
  let r := (reconcile lib env.now c req).run (server env.changes) env.faults ((s, 0), [])
  ⟨r.1, r.2.1.1, r.2.2⟩

inductive Label where
  | change (c : Change)
  | reconcile (c : Controller) (req : NamespacedName) (env : Circumstances)

/-- Objects are created without a status. -/
def Cluster.Fresh (s : Cluster) : Prop :=
  ∀ key d, s.deployments key = some d → d.conditions = [] ∧ d.deploymentResults = []

def deployers (lib : Libraries) : System Cluster Label where
  init := Cluster.Fresh
  next s
    | .change c => some (c.apply s)
    | .reconcile c req env => some (round lib c req env s).cluster

end Runs

section Podinfo

def podinfoLibraries : Libraries where
  parseReference _ := .error "invalid reference format"
  extractHostname _ := .ok ""
  resourceName := id
  artifactVersionAnnotation := "version"
  artifactHashAnnotation := "hash"
  marshal _ := .ok ""

def podinfoKey : NamespacedName := ⟨"shop", "podinfo"⟩

def podinfoResource : OCMResource where
  name := "podinfo-chart"
  type := "helmChart"
  content := "\x7b\"type\":\"helm\",\"helmRepository\":\"https://repo\",\"helmChart\":\"podinfo:6.9.1\"\x7d"

def podinfoChart : FluxDeployer.HelmChartResource :=
  ⟨podinfoResource, "https://repo", "podinfo", "6.9.1", false⟩

example : toHelm podinfoLibraries.parseReference podinfoResource = .ok podinfoChart := by
  decide +kernel

/-- A Helm chart that was not reconciled yet. -/
def podinfo : Deployment where
  ns := "shop"
  name := "podinfo"
  generation := 1
  conditions := []
  deploymentResults := []
  labels := []
  annotations := []
  spec := ⟨.helm, [podinfoResource]⟩

def fluxReport (type : FluxCondition) (status : ConditionStatus) : Condition FluxCondition :=
  ⟨type, status, .text "Reported", "", 1, none⟩

/-- A world in which Flux has fetched and installed the chart and reports `released`. -/
def podinfoWorld (released : ConditionStatus) (services : List FluxDeployer.Service) : World where
  flux
    | .helmChart, _ => some ⟨1, (), [fluxReport .ready .isTrue]⟩
    | .helmRelease, _ => some ⟨1, helmReleaseSpec podinfo podinfoChart none,
        [fluxReport .ready .isTrue, fluxReport .released released]⟩
    | _, _ => none
  readyTarget _ _ := .ok ⟨"local", none⟩
  secretByConfigMap _ _ := .ok ""
  secrets _ := false
  services := services

def podinfoCluster (world : World) : Cluster where
  deployments := Function.update (fun _ => none) podinfoKey (some podinfo)
  world := world

theorem podinfoCluster_fresh (world : World) : (podinfoCluster world).Fresh := by
  intro key d hd
  simp only [podinfoCluster, Function.update_apply] at hd
  split at hd
  · obtain rfl := Option.some.inj hd
    exact ⟨rfl, rfl⟩
  · cases hd

/-- A reconcile during which nothing else happens and no call fails. -/
def undisturbed (now : ℕ) : Circumstances := ⟨now, fun _ => [], fun _ => none⟩

end Podinfo

end LandscapeOrchestrator.ArtifactDeploymentController
