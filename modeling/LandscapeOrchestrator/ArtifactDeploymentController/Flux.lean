import LandscapeOrchestrator.Apilib.Names
import LandscapeOrchestrator.Apilib.Paths
import LandscapeOrchestrator.FluxDeployer.Mapper
import LandscapeOrchestrator.FluxDeployer.Services
import Mathlib.Logic.Function.Basic

/-!
# ArtifactDeployments and their Flux objects

The objects the two ArtifactDeployment controllers read and write, and the API server.
Flux objects of all kinds are stored and written alike; `Kind.Spec` says what the
controllers put into each. Owner references, events and log lines are left out:
nothing here reads them.

## Main definitions

- `Deployment`, `FluxObject` — the stored objects
- `World` — everything but the ArtifactDeployments
- `Cluster`, `Op`, `exec` — the API server
-/

namespace LandscapeOrchestrator.ArtifactDeploymentController
open Apilib
open FluxDeployer (ArtifactDeployment DeploymentCondition OCMResource)

inductive ArtifactType where
  | helm
  | kustomize
  | other (s : String)
  deriving DecidableEq, Repr

structure DeploymentSpec where
  artifactType : ArtifactType
  resources : List OCMResource
  deriving DecidableEq

structure Deployment extends ArtifactDeployment where
  labels : List (String × String)
  annotations : List (String × String)
  spec : DeploymentSpec
  deriving DecidableEq

structure Status where
  conditions : List (Condition DeploymentCondition)
  deploymentResults : List DeploymentResult
  deriving DecidableEq

namespace Deployment

def key (d : Deployment) : NamespacedName := ⟨d.ns, d.name⟩

def status (d : Deployment) : Status := ⟨d.conditions, d.deploymentResults⟩

/-- A merge patch holds the fields that differ. -/
def patch (d : Deployment) (before after : Status) : Deployment :=
  { d with
    conditions := if before.conditions = after.conditions then d.conditions else after.conditions
    deploymentResults := if before.deploymentResults = after.deploymentResults
      then d.deploymentResults else after.deploymentResults }

end Deployment

inductive Kind where
  | helmRepository
  | helmChart
  | helmRelease
  | ociRepository
  | kustomization
  deriving DecidableEq, Repr

/-- Intervals and timeouts are in seconds. A reference to a Secret is its name. -/
structure HelmRepositorySpec where
  interval : ℕ
  url : String
  insecure : Bool
  secretRef : Option String
  type : String
  deriving DecidableEq, Repr

structure SourceRef where
  kind : Kind
  ns : String
  name : String
  deriving DecidableEq, Repr

structure HelmReleaseSpec where
  interval : ℕ
  sourceRef : SourceRef
  chart : String
  version : String
  releaseName : String
  kubeConfig : Option String
  targetNamespace : String
  storageNamespace : String
  driftDetection : String
  installTimeout : ℕ
  commonLabels : List (String × String)
  deriving DecidableEq, Repr

structure OCIRepositorySpec where
  interval : ℕ
  url : String
  insecure : Bool
  secretRef : Option String
  tag : String
  deriving DecidableEq, Repr

structure KustomizationSpec where
  interval : ℕ
  sourceRef : SourceRef
  path : String
  kubeConfig : Option String
  targetNamespace : String
  nameSuffix : String
  prune : Bool
  wait : Bool
  commonLabels : List (String × String)
  deriving DecidableEq, Repr

/-- HelmCharts are written by Flux alone. -/
abbrev Kind.Spec : Kind → Type
  | helmRepository => HelmRepositorySpec
  | helmChart => Unit
  | helmRelease => HelmReleaseSpec
  | ociRepository => OCIRepositorySpec
  | kustomization => KustomizationSpec

instance (k : Kind) : DecidableEq k.Spec :=
  match k with
  | .helmRepository => inferInstanceAs (DecidableEq HelmRepositorySpec)
  | .helmChart => inferInstanceAs (DecidableEq Unit)
  | .helmRelease => inferInstanceAs (DecidableEq HelmReleaseSpec)
  | .ociRepository => inferInstanceAs (DecidableEq OCIRepositorySpec)
  | .kustomization => inferInstanceAs (DecidableEq KustomizationSpec)

/-- The resource name in the API server's texts. -/
def Kind.resource : Kind → String
  | helmRepository => "helmrepositories.source.toolkit.fluxcd.io"
  | helmChart => "helmcharts.source.toolkit.fluxcd.io"
  | helmRelease => "helmreleases.helm.toolkit.fluxcd.io"
  | ociRepository => "ocirepositories.source.toolkit.fluxcd.io"
  | kustomization => "kustomizations.kustomize.toolkit.fluxcd.io"

inductive FluxCondition where
  | ready
  | released
  | healthy
  | other (s : String)
  deriving DecidableEq, Repr

def FluxCondition.text : FluxCondition → String
  | ready => "Ready"
  | released => "Released"
  | healthy => "Healthy"
  | other s => s

structure FluxObject (k : Kind) where
  resourceVersion : ℕ
  spec : k.Spec
  conditions : List (Condition FluxCondition)

/-- The parameters of a DeploymentTarget refer to another object. -/
structure TargetParameters where
  apiGroup : String
  kind : String
  name : String
  deriving DecidableEq, Repr

structure DeploymentTarget where
  name : String
  parameters : Option TargetParameters
  deriving DecidableEq, Repr

/-- `readyTarget` and `secretByConfigMap` are what the library's lookups return. -/
structure World where
  flux : (k : Kind) → NamespacedName → Option (FluxObject k)
  readyTarget : String → ArtifactType → Except ApiError DeploymentTarget
  secretByConfigMap : String → String → Except ApiError String
  secrets : NamespacedName → Bool
  services : List FluxDeployer.Service

def World.setFlux (w : World) (k : Kind) (key : NamespacedName) (o : FluxObject k) : World :=
  { w with flux := Function.update w.flux k (Function.update (w.flux k) key (some o)) }

structure Cluster where
  deployments : NamespacedName → Option Deployment
  world : World

def Cluster.setDeployment (s : Cluster) (key : NamespacedName) (d : Deployment) : Cluster :=
  { s with deployments := Function.update s.deployments key (some d) }

def Cluster.setFlux (s : Cluster) (k : Kind) (key : NamespacedName) (o : FluxObject k) : Cluster :=
  { s with world := s.world.setFlux k key o }

inductive Op where
  | getDeployment (key : NamespacedName)
  | patchStatus (key : NamespacedName) (before after : Status)
  | getFlux (k : Kind) (key : NamespacedName)
  | createFlux (k : Kind) (key : NamespacedName) (spec : k.Spec)
  | updateFlux (k : Kind) (key : NamespacedName) (resourceVersion : ℕ) (spec : k.Spec)
  | findReadyTarget (ns : String) (type : ArtifactType)
  | getSecretByConfigMap (configMap domain : String)
  | getSecret (key : NamespacedName)
  | services (op : FluxDeployer.Op)

/-- A write answers with the stored object. -/
abbrev Res : Op → Type
  | .getDeployment _ => Deployment
  | .patchStatus _ _ _ => Deployment
  | .getFlux k _ => FluxObject k
  | .createFlux k _ _ => FluxObject k
  | .updateFlux k _ _ _ => FluxObject k
  | .findReadyTarget _ _ => DeploymentTarget
  | .getSecretByConfigMap _ _ => String
  | .getSecret _ => Unit
  | .services op => FluxDeployer.Res op

abbrev Program := Prog Op Res

abbrev Log := List (Done Op Res)

def notFound (resource name : String) : ApiError :=
  .notFound (resource ++ " \"" ++ name ++ "\" not found")

def alreadyExists (resource name : String) : ApiError :=
  .alreadyExists (resource ++ " \"" ++ name ++ "\" already exists")

/-- The API server. An update has to name the version it is based on. -/
def exec : Exec Op Res Cluster
  | .getDeployment key, s => match s.deployments key with
    | none => (.error (notFound "artifactdeployments.konfidence.cloud" key.name), s)
    | some d => (.ok d, s)
  | .patchStatus key before after, s => match s.deployments key with
    | none => (.error (notFound "artifactdeployments.konfidence.cloud" key.name), s)
    | some d => (.ok (d.patch before after), s.setDeployment key (d.patch before after))
  | .getFlux k key, s => match s.world.flux k key with
    | none => (.error (notFound k.resource key.name), s)
    | some o => (.ok o, s)
  | .createFlux k key spec, s => match s.world.flux k key with
    | some _ => (.error (alreadyExists k.resource key.name), s)
    | none => (.ok ⟨1, spec, []⟩, s.setFlux k key ⟨1, spec, []⟩)
  | .updateFlux k key resourceVersion spec, s => match s.world.flux k key with
    | none => (.error (notFound k.resource key.name), s)
    | some o =>
      if o.resourceVersion = resourceVersion then
        (.ok ⟨o.resourceVersion + 1, spec, o.conditions⟩,
          s.setFlux k key ⟨o.resourceVersion + 1, spec, o.conditions⟩)
      else (.error (.fault "the object has been modified"), s)
  | .findReadyTarget ns type, s => (s.world.readyTarget ns type, s)
  | .getSecretByConfigMap configMap domain, s => (s.world.secretByConfigMap configMap domain, s)
  | .getSecret key, s => if s.world.secrets key then (.ok (), s)
    else (.error (notFound "secrets" key.name), s)
  | .services op, s => ((FluxDeployer.exec op ⟨s.world.services⟩).1, s)

def getDeployment (key : NamespacedName) : Program (Except ApiError Deployment) :=
  Prog.perform (Op.getDeployment key)

def patchStatus (key : NamespacedName) (before after : Status) :
    Program (Except ApiError Deployment) :=
  Prog.perform (Op.patchStatus key before after)

def getFlux (k : Kind) (key : NamespacedName) : Program (Except ApiError (FluxObject k)) :=
  Prog.perform (Op.getFlux k key)

def createFlux (k : Kind) (key : NamespacedName) (spec : k.Spec) :
    Program (Except ApiError (FluxObject k)) :=
  Prog.perform (Op.createFlux k key spec)

def updateFlux (k : Kind) (key : NamespacedName) (resourceVersion : ℕ) (spec : k.Spec) :
    Program (Except ApiError (FluxObject k)) :=
  Prog.perform (Op.updateFlux k key resourceVersion spec)

def findReadyTarget (ns : String) (type : ArtifactType) :
    Program (Except ApiError DeploymentTarget) :=
  Prog.perform (Op.findReadyTarget ns type)

def getSecretByConfigMap (configMap domain : String) : Program (Except ApiError String) :=
  Prog.perform (Op.getSecretByConfigMap configMap domain)

def getSecret (key : NamespacedName) : Program (Except ApiError Unit) :=
  Prog.perform (Op.getSecret key)

/-- The program of the status updater, which lists Services only. -/
def ofServices {α : Type} (p : FluxDeployer.Program α) : Program α := p.embed Op.services fun _ r => r

/-- What a call can do to the state. -/
inductive Effect (s : Cluster) : Op → Cluster → Prop
  | same (op : Op) : Effect s op s
  | patchStatus {key : NamespacedName} {d : Deployment} (before after : Status)
      (hd : s.deployments key = some d) :
      Effect s (.patchStatus key before after) (s.setDeployment key (d.patch before after))
  | createFlux {k : Kind} {key : NamespacedName} (spec : k.Spec) (hno : s.world.flux k key = none) :
      Effect s (.createFlux k key spec) (s.setFlux k key ⟨1, spec, []⟩)
  | updateFlux {k : Kind} {key : NamespacedName} {o : FluxObject k} (version : ℕ) (spec : k.Spec)
      (ho : s.world.flux k key = some o) :
      Effect s (.updateFlux k key version spec)
        (s.setFlux k key ⟨o.resourceVersion + 1, spec, o.conditions⟩)

theorem exec_effect (op : Op) (s : Cluster) : Effect s op (exec op s).2 := by
  cases op with
  | getDeployment key =>
    simp only [exec]
    split <;> exact .same _
  | patchStatus key before after =>
    simp only [exec]
    split
    · exact .same _
    · next d hd => exact .patchStatus before after hd
  | getFlux k key =>
    simp only [exec]
    split <;> exact .same _
  | createFlux k key spec =>
    simp only [exec]
    split
    · exact .same _
    · next hno => exact .createFlux spec hno
  | updateFlux k key version spec =>
    simp only [exec]
    split
    · exact .same _
    · next o ho =>
      split
      · exact .updateFlux version spec ho
      · exact .same _
  | findReadyTarget ns type => exact .same _
  | getSecretByConfigMap configMap domain => exact .same _
  | getSecret key =>
    simp only [exec]
    split <;> exact .same _
  | services op => exact .same _

/-- A call that is answered with an error has changed nothing. -/
theorem exec_of_error {op : Op} {s : Cluster} {e : ApiError} (h : (exec op s).1 = .error e) :
    (exec op s).2 = s := by
  cases op with
  | getDeployment key =>
    simp only [exec]
    split <;> rfl
  | patchStatus key before after =>
    simp only [exec] at h ⊢
    split at h
    · rfl
    · cases h
  | getFlux k key =>
    simp only [exec]
    split <;> rfl
  | createFlux k key spec =>
    simp only [exec] at h ⊢
    split at h
    · rfl
    · cases h
  | updateFlux k key version spec =>
    simp only [exec] at h ⊢
    split at h
    · rfl
    · split at h
      · cases h
      · next hversion => rw [if_neg hversion]
  | findReadyTarget ns type => rfl
  | getSecretByConfigMap configMap domain => rfl
  | getSecret key =>
    simp only [exec]
    split <;> rfl
  | services op => rfl

end LandscapeOrchestrator.ArtifactDeploymentController
