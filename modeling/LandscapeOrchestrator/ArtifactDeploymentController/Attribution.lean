import LandscapeOrchestrator.ArtifactDeploymentController.Reconcilers

/-!
# Whose Service is it

Flux stamps the name of the deployment on everything that its HelmRelease or Kustomization
applies; the status updater selects by the sanitized name, in the namespace of the
deployment and in the cluster the orchestrator runs in.

## Main definitions

- `Release` — the Flux object that applies what a deployment consists of
- `AppliedService` — a Service with the release that applied it
- `Landscape` — the Services that were applied, and those of others
-/

namespace LandscapeOrchestrator.ArtifactDeploymentController
open Apilib
open FluxDeployer (HelmChartResource KustomizeResource Service fetchExposableServices selectedFor
  selectedFor_iff labelArtifactDeployment sanitizeK8sResourceName)

/-- The spec of the object that applies the manifests of a deployment. -/
inductive Release where
  | helm (spec : HelmReleaseSpec)
  | kustomization (spec : KustomizationSpec)

namespace Release

def commonLabels : Release → List (String × String)
  | helm spec => spec.commonLabels
  | kustomization spec => spec.commonLabels

def kubeConfig : Release → Option String
  | helm spec => spec.kubeConfig
  | kustomization spec => spec.kubeConfig

/-- The spec is one that the orchestrator writes for `d`. When the target cannot be
found there is no spec to write. -/
inductive WrittenFor (d : Deployment) : Release → Prop
  | helm (chart : HelmChartResource) (faults : ℕ → Option String) (s : Cluster)
      {spec : HelmReleaseSpec} (h : ((mutateHelmRelease d chart).run exec faults s).1 = .ok spec) :
      WrittenFor d (.helm spec)
  | kustomization (lib : Libraries) (artifact : KustomizeResource) (faults : ℕ → Option String)
      (s : Cluster) {spec : KustomizationSpec}
      (h : ((mutateKustomization lib d artifact).run exec faults s).1 = .ok spec) :
      WrittenFor d (.kustomization spec)

end Release

/-- A Service that Flux applied for a deployment. The labels of the release are on it
verbatim; its namespace is that of its manifest. A release without a kubeconfig is applied
to the cluster the orchestrator runs in. -/
structure AppliedService where
  owner : Deployment
  release : Release
  written : release.WrittenFor owner
  service : Service
  stamped : ∀ l ∈ release.commonLabels, service.labels.lookup l.1 = some l.2
  isLocal : Bool
  local_of_none : release.kubeConfig = none → isLocal = true

def AppliedService.isOf (a : AppliedService) (d : Deployment) : Bool := a.owner.key = d.key

/-- The Service, and whether it is in the cluster the orchestrator runs in. -/
def AppliedService.located (a : AppliedService) : Bool × Service := (a.isLocal, a.service)

/-- `others` are Services of the orchestrator's cluster that no release applied. -/
structure Landscape where
  applied : List AppliedService
  others : List Service

def Landscape.cluster (l : Landscape) : FluxDeployer.Cluster :=
  ⟨(l.applied.filter (·.isLocal)).map (·.service) ++ l.others⟩

variable {d : Deployment} {r : Release} {a : AppliedService} {l : Landscape}

theorem withKubeConfig_ensures {σ : Type} (d : Deployment) (spec : Option String → σ)
    (s : Cluster) :
    (withKubeConfig d spec).Ensures exec
      (fun r _ => ∀ made, r = .ok made → ∃ kubeConfig, made = spec kubeConfig) s := by
  have hget : (getKubeConfigRef d.ns d.spec.artifactType).Ensures exec (fun _ _ => True) s := by
    refine ⟨?_, fun msg => trivial⟩
    cases (exec (.findReadyTarget d.ns d.spec.artifactType) s).1 <;> trivial
  refine hget.bind fun r t _ => ?_
  cases r with
  | error cause =>
    rintro made ⟨⟩
  | ok kubeConfig =>
    rintro made ⟨⟩
    exact ⟨kubeConfig, rfl⟩

theorem Release.WrittenFor.commonLabels (h : r.WrittenFor d) :
    r.commonLabels = [(labelArtifactDeployment, d.name)] := by
  cases h with
  | helm chart faults s h =>
    obtain ⟨kubeConfig, rfl⟩ :=
      Prog.ensures_iff_run.mp (withKubeConfig_ensures d (helmReleaseSpec d chart) s) faults _ h
    rfl
  | kustomization lib artifact faults s h =>
    obtain ⟨kubeConfig, rfl⟩ :=
      Prog.ensures_iff_run.mp (withKubeConfig_ensures d (kustomizationSpec lib d artifact) s)
        faults _ h
    rfl

/-- An applied Service carries the name of its deployment. -/
theorem AppliedService.label (a : AppliedService) :
    a.service.labels.lookup labelArtifactDeployment = some a.owner.name := by
  refine a.stamped (labelArtifactDeployment, a.owner.name) ?_
  rw [a.written.commonLabels]
  exact List.mem_singleton_self _

theorem AppliedService.isOf_iff : a.isOf d = true ↔ a.owner.key = d.key := decide_eq_true_iff

theorem AppliedService.selectedFor_iff :
    selectedFor d.toArtifactDeployment a.service = true ↔
      a.service.ns = d.ns ∧ a.owner.name = sanitizeK8sResourceName d.name := by
  rw [FluxDeployer.selectedFor_iff, a.label, Option.some.injEq]

/-- The applied Services that `fetchExposableServices` lists for `d`. -/
def Landscape.selected (l : Landscape) (d : Deployment) : List AppliedService :=
  l.applied.filter fun a => a.isLocal && selectedFor d.toArtifactDeployment a.service

/-- The applied Services that are selected, and the others. -/
theorem fetchExposableServices_run (l : Landscape)
    (hlegal : isDNS1123Subdomain d.name = true ∧ d.name.toList.length ≤ 63) :
    ((fetchExposableServices d.toArtifactDeployment).run FluxDeployer.exec (fun _ => none)
        l.cluster).1 =
      .ok ((l.selected d).map (·.service) ++
        l.others.filter (selectedFor d.toArtifactDeployment)) := by
  have hvalue := FluxDeployer.sanitize_isLabelValue hlegal.1 hlegal.2
  have hlist : l.cluster.services.filter (selectedFor d.toArtifactDeployment) =
      (l.selected d).map (·.service) ++ l.others.filter (selectedFor d.toArtifactDeployment) := by
    simp only [Landscape.cluster, Landscape.selected, List.filter_append, List.filter_map,
      List.filter_filter]
    congr 2
    exact List.filter_congr fun a _ => Bool.and_comm ..
  simp only [fetchExposableServices, hvalue, Bool.not_true, Bool.false_eq_true, if_false,
    FluxDeployer.listServices, Prog.perform_bind, Prog.run, FluxDeployer.exec]
  rw [← hlist]
  rfl

theorem Landscape.located_selected (l : Landscape) (d : Deployment) :
    ((l.selected d).map (·.service)).map (true, ·) = (l.selected d).map AppliedService.located := by
  rw [List.map_map]
  refine List.map_congr_left fun a ha => ?_
  have hlocal := (Bool.and_eq_true_iff.mp (List.mem_filter.mp ha).2).1
  simp [AppliedService.located, hlocal]

/-- A Service with the place and the labels of a listed one is listed itself. -/
theorem Landscape.selected_of_located (ha : a ∈ l.applied)
    (h : a.located ∈ ((l.selected d).map (·.service) ++
      l.others.filter (selectedFor d.toArtifactDeployment)).map (true, ·)) :
    a ∈ l.selected d := by
  obtain ⟨s, hs, hlocated⟩ := List.mem_map.mp h
  obtain ⟨hlocal, rfl⟩ := Prod.mk.inj hlocated
  refine List.mem_filter.mpr ⟨ha, Bool.and_eq_true_iff.mpr ⟨hlocal.symm, ?_⟩⟩
  obtain hs | hs := List.mem_append.mp hs
  · obtain ⟨b, hb, hservice⟩ := List.mem_map.mp hs
    rw [← hservice]
    exact (Bool.and_eq_true_iff.mp (List.mem_filter.mp hb).2).2
  · exact (List.mem_filter.mp hs).2

/-- The listed Services are those of `d` when each applied Service is listed if and only if
it is one of `d`, and no other is. -/
theorem Landscape.selected_own_iff (l : Landscape) (d : Deployment) :
    ((l.selected d).map (·.service) ++
          l.others.filter (selectedFor d.toArtifactDeployment)).map (true, ·) =
        (l.applied.filter (·.isOf d)).map AppliedService.located ↔
      (∀ a ∈ l.applied, (a.isLocal && selectedFor d.toArtifactDeployment a.service) = a.isOf d) ∧
        ∀ s ∈ l.others, selectedFor d.toArtifactDeployment s = false := by
  constructor
  · intro heq
    have hown : ∀ a ∈ l.applied, a.isOf d = true → a ∈ l.selected d := by
      intro a ha hof
      refine Landscape.selected_of_located ha ?_
      rw [heq]
      exact List.mem_map_of_mem (List.mem_filter.mpr ⟨ha, hof⟩)
    -- there is no room for a Service that is not of `d`: the lists are of one length
    have hsub : (l.selected d).filter (·.isOf d) = l.applied.filter (·.isOf d) := by
      rw [Landscape.selected, List.filter_filter]
      refine List.filter_congr fun a ha => ?_
      by_cases hof : a.isOf d = true
      · rw [hof, (List.mem_filter.mp (hown a ha hof)).2]
        rfl
      · simp [hof]
    have hlength := congrArg List.length heq
    simp only [List.length_append, List.length_map, ← hsub] at hlength
    have hle := List.length_filter_le (·.isOf d) (l.selected d)
    have hothers : l.others.filter (selectedFor d.toArtifactDeployment) = [] :=
      List.length_eq_zero_iff.mp (by omega)
    have hall := List.length_filter_eq_length_iff.mp
      (show ((l.selected d).filter (·.isOf d)).length = (l.selected d).length by omega)
    refine ⟨fun a ha => Bool.eq_iff_iff.mpr ⟨fun hsel => ?_, fun hof => ?_⟩, fun s hs => ?_⟩
    · exact hall a (List.mem_filter.mpr ⟨ha, hsel⟩)
    · exact (List.mem_filter.mp (hown a ha hof)).2
    · simpa using List.filter_eq_nil_iff.mp hothers s hs
  · rintro ⟨happlied, hothers⟩
    have hnone : l.others.filter (selectedFor d.toArtifactDeployment) = [] :=
      List.filter_eq_nil_iff.mpr fun s hs => by simp [hothers s hs]
    rw [hnone, List.append_nil, Landscape.located_selected, Landscape.selected,
      List.filter_congr happlied]

/-- `fetchExposableServices` selects exactly the Services that Flux applied for its
deployment if and only if these lie in the namespace of the deployment, in the cluster of
the orchestrator, under a name without a dot, and no other Service there carries the
sanitized name: neither one of a namesake nor one that somebody else labelled. -/
theorem fetchExposableServices_own_iff (l : Landscape) (d : Deployment)
    (hlegal : isDNS1123Subdomain d.name = true ∧ d.name.toList.length ≤ 63) :
    (∃ services,
        ((fetchExposableServices d.toArtifactDeployment).run FluxDeployer.exec (fun _ => none)
          l.cluster).1 = .ok services ∧
        services.map (true, ·) = (l.applied.filter (·.isOf d)).map AppliedService.located) ↔
      (∀ a ∈ l.applied, a.owner.key = d.key →
        '.' ∉ d.name.toList ∧ a.isLocal = true ∧ a.service.ns = d.ns) ∧
      (∀ a ∈ l.applied, a.isLocal = true → a.service.ns = d.ns → a.owner.key ≠ d.key →
        a.owner.name ≠ sanitizeK8sResourceName d.name) ∧
      ∀ s ∈ l.others, s.ns = d.ns →
        s.labels.lookup labelArtifactDeployment ≠ some (sanitizeK8sResourceName d.name) := by
  rw [fetchExposableServices_run l hlegal]
  simp only [Except.ok.injEq, exists_eq_left', Landscape.selected_own_iff,
    ← FluxDeployer.sanitize_eq_self_iff hlegal.1 hlegal.2]
  have hname {a : AppliedService} (hkey : a.owner.key = d.key) : a.owner.name = d.name :=
    congrArg NamespacedName.name hkey
  constructor
  · rintro ⟨happlied, hothers⟩
    refine ⟨fun a ha hkey => ?_, fun a ha hlocal hns hkey hsame => ?_, fun s hs hns hlabel => ?_⟩
    · have hsel := (happlied a ha).trans (AppliedService.isOf_iff.mpr hkey)
      obtain ⟨hlocal, hsel⟩ := Bool.and_eq_true_iff.mp hsel
      obtain ⟨hns, hsame⟩ := AppliedService.selectedFor_iff.mp hsel
      exact ⟨hsame.symm.trans (hname hkey), hlocal, hns⟩
    · have hsel := AppliedService.selectedFor_iff.mpr ⟨hns, hsame⟩
      have hof := (happlied a ha).symm.trans (Bool.and_eq_true_iff.mpr ⟨hlocal, hsel⟩)
      exact hkey (AppliedService.isOf_iff.mp hof)
    · have hsel := selectedFor_iff.mpr ⟨hns, hlabel⟩
      rw [hothers s hs] at hsel
      cases hsel
  · rintro ⟨hown, hnamesake, hothers⟩
    refine ⟨fun a ha => Bool.eq_iff_iff.mpr ?_, fun s hs => Bool.eq_false_iff.mpr fun hsel => ?_⟩
    · rw [Bool.and_eq_true, AppliedService.selectedFor_iff, AppliedService.isOf_iff]
      constructor
      · rintro ⟨hlocal, hns, hsame⟩
        by_contra hkey
        exact hnamesake a ha hlocal hns hkey hsame
      · intro hkey
        obtain ⟨hsame, hlocal, hns⟩ := hown a ha hkey
        exact ⟨hlocal, hns, (hname hkey).trans hsame.symm⟩
    · obtain ⟨hns, hlabel⟩ := selectedFor_iff.mp hsel
      exact hothers s hs hns hlabel

section Examples

def deploymentNamed (name : String) : Deployment where
  ns := "landscape"
  name := name
  generation := 1
  conditions := []
  deploymentResults := []
  labels := []
  annotations := []
  spec := ⟨.helm, []⟩

def shopChart : HelmChartResource where
  ocmResource := ⟨"chart", "helmChart", ""⟩
  repository := "oci://registry.example/charts"
  chartName := "shop"
  version := "1.0.0"
  insecure := false

/-- A landscape whose ready target is the local cluster. -/
def localTarget : Cluster where
  deployments _ := none
  world := {
    flux := fun _ _ => none
    readyTarget := fun _ _ => .ok ⟨"local", none⟩
    secretByConfigMap := fun _ _ => .ok ""
    secrets := fun _ => false
    services := [] }

/-- A Service that the HelmRelease of a deployment applied in the landscape. -/
def releasedService (deployment service : String) : AppliedService where
  owner := deploymentNamed deployment
  release := .helm (helmReleaseSpec (deploymentNamed deployment) shopChart none)
  written := .helm shopChart (fun _ => none) localTarget rfl
  service := ⟨"landscape", service, [(labelArtifactDeployment, deployment)], [], []⟩
  stamped := by
    simp [Release.commonLabels, helmReleaseSpec, deploymentNamed, labelArtifactDeployment]
  isLocal := true
  local_of_none _ := rfl

/-- Two deployments with one Service each, beside a Service of nobody. -/
def twoDeployments (first second : String) : Landscape where
  applied := [releasedService first "a", releasedService second "b"]
  others := [⟨"landscape", "c", [], [], []⟩]

theorem dashed_deployment_selects_own : ∃ services,
    ((fetchExposableServices (deploymentNamed "shop-v1").toArtifactDeployment).run
      FluxDeployer.exec (fun _ => none) (twoDeployments "shop-v1" "cart").cluster).1 =
        .ok services ∧
      services.map (true, ·) =
        ((twoDeployments "shop-v1" "cart").applied.filter
          (·.isOf (deploymentNamed "shop-v1"))).map AppliedService.located := by
  refine (fetchExposableServices_own_iff (twoDeployments "shop-v1" "cart")
    (deploymentNamed "shop-v1") (by decide)).mpr ⟨?_, ?_, ?_⟩
  · decide +kernel
  · decide +kernel
  · decide +kernel

/-- The Service of `shop-v1` is taken for one of `shop.v1`, whose own is not found. -/
theorem dotted_deployment_selects_namesake :
    let l := twoDeployments "shop.v1" "shop-v1"
    let fetched := ((fetchExposableServices (deploymentNamed "shop.v1").toArtifactDeployment).run
      FluxDeployer.exec (fun _ => none) l.cluster).1
    fetched = .ok ((l.applied.filter (·.isOf (deploymentNamed "shop-v1"))).map (·.service)) ∧
      ¬ ∃ services, fetched = .ok services ∧ services.map (true, ·) =
        (l.applied.filter (·.isOf (deploymentNamed "shop.v1"))).map AppliedService.located := by
  have hfetched : ((fetchExposableServices (deploymentNamed "shop.v1").toArtifactDeployment).run
      FluxDeployer.exec (fun _ => none) (twoDeployments "shop.v1" "shop-v1").cluster).1 =
      .ok (((twoDeployments "shop.v1" "shop-v1").applied.filter
        (·.isOf (deploymentNamed "shop-v1"))).map (·.service)) := by
    decide +kernel
  refine ⟨hfetched, ?_⟩
  rintro ⟨services, hservices, heq⟩
  obtain rfl := Except.ok.inj (hfetched.symm.trans hservices)
  revert heq
  decide +kernel

end Examples

end LandscapeOrchestrator.ArtifactDeploymentController
