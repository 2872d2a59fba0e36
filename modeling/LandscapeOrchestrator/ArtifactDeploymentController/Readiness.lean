import LandscapeOrchestrator.ArtifactDeploymentController.CalmPass
import LandscapeOrchestrator.ArtifactDeploymentController.ExposureFailure
import LandscapeOrchestrator.ArtifactDeploymentController.ReadyGeneration

/-!
# Readiness is attained

Once Flux reports a release as installed and healthy, one reconcile that nothing disturbs
makes the deployment Ready for its generation and publishes the results of its Services,
whatever status it had before, unless it is stalled.
-/

namespace LandscapeOrchestrator.ArtifactDeploymentController
open Apilib
open FluxDeployer (DeploymentCondition OCMResource HelmChartResource KustomizeResource toHelm
  toKustomize hasExposureValidationFailure validateExposePorts mapServicesToDeploymentResults)

variable {lib : Libraries} {now : ℕ} {c : Controller} {d : Deployment} {s t : Cluster} {k : Kind}
  {req : NamespacedName}

/-- Flux reports the source as fetched, and the release as installed and healthy. -/
def World.Installed (w : World) (d : Deployment) : Controller → Prop
  | .helm => isStatusConditionTrue (w.chartConditions d) .ready = true ∧
      ∃ release, w.flux .helmRelease d.key = some release ∧
        isStatusConditionTrue release.conditions .ready = true ∧
        isStatusConditionTrue release.conditions .released = true
  | .kustomize => (∃ source, w.flux .ociRepository d.key = some source ∧
        isStatusConditionTrue source.conditions .ready = true) ∧
      ∃ kustomization, w.flux .kustomization d.key = some kustomization ∧
        isStatusConditionTrue kustomization.conditions .ready = true ∧
        isStatusConditionTrue kustomization.conditions .healthy = true

/-- With nobody else around, the program succeeds. -/
theorem Succeeds.calm {α : Type} {key : NamespacedName} {Q : α → Cluster → Prop}
    {p : Program (Except String α)} (h : Succeeds (fun _ => []) key key Q p ((s, 0), [])) :
    ∃ a, (p.calm exec s).1 = .ok a := by
  have hspared (op : Op) (x : (Cluster × ℕ) × Log) : SparedCall (fun _ => []) key key op x :=
    LeftAlone.refl ..
  obtain ⟨a, ha, -⟩ := h.attains (Prog.along_of_forall hspared p _)
  have hsame {β : Type} (p : Program β) (x : (Cluster × ℕ) × Log) :
      (p.run (server fun _ => []) (fun _ => none) x).1 = (p.calm exec x.1.1).1 := by
    induction p generalizing x with
    | ret a => rfl
    | call op k ih => exact ih _ _
  exact ⟨a, (hsame p ((s, 0), [])).symm.trans ha⟩

/-- A spec that can be made is written. -/
theorem Written.ok {mutate : Program (Except String k.Spec)} {kindName : String}
    {r : Except String (FluxObject k)}
    (h : Written k d.key (reconcileFlux k kindName d mutate) s r t)
    (hm : mutate.Uses fun op => op.isLookup = true)
    (hmade : ∃ spec, (mutate.calm exec s).1 = .ok spec) : ∃ o, r = .ok o := by
  obtain ⟨spec, hspec⟩ := hmade
  have hrun := h.run
  unfold reconcileFlux at hrun
  rw [Prog.calm_bind] at hrun
  cases hstored : s.world.flux k d.key with
  | none =>
    rw [createOrUpdate_calm_none hm hstored, hspec] at hrun
    exact ⟨_, (congrArg Prod.fst hrun).symm⟩
  | some o =>
    rw [createOrUpdate_calm_some hm hstored, hspec] at hrun
    by_cases hsame : spec = o.spec
    · simp only [if_pos hsame] at hrun
      exact ⟨_, (congrArg Prod.fst hrun).symm⟩
    · simp only [if_neg hsame] at hrun
      exact ⟨_, (congrArg Prod.fst hrun).symm⟩

/-- A condition that Flux reports as True is True once it is told. -/
theorem told_isTrue {mapSource mapRelease : FluxCondition → Option DeploymentCondition}
    {source release : List (Condition FluxCondition)} {t : FluxCondition} {u : DeploymentCondition}
    (hnodup : ((reports mapSource mapRelease d.generation source release).map Condition.type).Nodup)
    (hsource : isStatusConditionTrue source .ready = true) (hmap : mapRelease t = some u)
    (hrelease : isStatusConditionTrue release t = true) (now : ℕ) :
    isStatusConditionTrue
      (d.told now (reports mapSource mapRelease d.generation source release)).conditions u = true := by
  obtain ⟨cond, hfind, hstatus⟩ : ∃ cond, findStatusCondition release t = some cond ∧
      cond.status = .isTrue := by
    unfold isStatusConditionTrue at hrelease
    split at hrelease
    · next cond hfind => exact ⟨cond, hfind, by simpa using hrelease⟩
    · cases hrelease
  have htype : cond.type = t := by simpa using List.find?_some hfind
  have hreported : reported mapRelease d.generation cond = some
      ⟨u, .isTrue, fluxReason cond.reason, cond.message, d.generation, none⟩ := by
    simp [reported, htype, hmap, hstatus]
  have hmem : (⟨u, .isTrue, fluxReason cond.reason, cond.message, d.generation, none⟩ :
      Condition DeploymentCondition) ∈ reports mapSource mapRelease d.generation source release := by
    simp only [reports, hsource, if_true]
    refine List.mem_append_right _ (List.mem_filterMap.mpr ⟨cond, ?_, hreported⟩)
    exact List.mem_of_find?_eq_some hfind
  obtain ⟨time, hsaid⟩ := says_setAll now d.conditions hnodup _ hmem
  unfold isStatusConditionTrue Deployment.told
  simp only at hsaid ⊢
  rw [hsaid]
  rfl

/-- A pass that tells of a deployed and healthy release. -/
structure Installs (lib : Libraries) (now : ℕ) (c : Controller) (d : Deployment) (s : Cluster)
    (rs : List (Condition DeploymentCondition)) (t : Cluster) : Prop where
  run : (applyFlux lib now c d).calm exec s = (d.told now rs, t)
  deployments : t.deployments = s.deployments
  services : t.world.services = s.world.services
  isFlux : ∀ r ∈ rs, isFluxCondition r.type = true
  deployed : isStatusConditionTrue (d.told now rs).conditions .artifactDeployed = true
  healthy : isStatusConditionTrue (d.told now rs).conditions .appHealthy = true

theorem helm_installs (hs : s.world.Distinct) (hservable : Servable lib s.world d .helm)
    (hinstalled : s.world.Installed d .helm) : ∃ rs t, Installs lib now .helm d s rs t := by
  obtain ⟨resource, chart, hm, hmap, hsecret, htarget⟩ := hservable
  obtain ⟨hchart, release, hstored, hready, hreleased⟩ := hinstalled
  obtain ⟨r, s₁, hrepo⟩ : ∃ r t, Written _ d.key (writeHelmRepository lib d chart) s r t :=
    reconcileFlux_written _ (withSecretRef_uses _ _ _) s
  obtain ⟨o, rfl⟩ := hrepo.ok (withSecretRef_uses _ _ _) (withSecretRef_succeeds hsecret _ _).calm
  obtain ⟨r, s₂, hrelease⟩ : ∃ r t, Written _ d.key (writeHelmRelease d chart) s₁ r t :=
    reconcileFlux_written _ (withKubeConfig_uses _) s₁
  obtain ⟨release', rfl⟩ := hrelease.ok (withKubeConfig_uses _)
    (withKubeConfig_succeeds (htarget.congr (congrFun hrepo.lookups.readyTarget _)) _).calm
  -- The release keeps what Flux reports, and so does the chart.
  have hsame : release'.conditions = release.conditions :=
    hrelease.conditions release' release rfl (by rw [hrepo.flux_of_ne _ (by decide)]; exact hstored)
  have hchart' : s₂.world.chartConditions d = s.world.chartConditions d := by
    simp only [World.chartConditions, hrelease.flux_of_ne .helmChart (by decide),
      hrepo.flux_of_ne .helmChart (by decide)]
  obtain ⟨hnodup, hflux⟩ := helmReports_spec (hrelease.distinct (hrepo.distinct hs)) d
    (hrelease.stored release' rfl)
  have hsource : isStatusConditionTrue (s₂.world.chartConditions d) .ready = true := by
    rw [hchart', hchart]
  refine ⟨helmReports s₂.world d release', s₂, ?_, hrelease.deployments.trans hrepo.deployments,
    hrelease.services.trans hrepo.services, hflux, ?_, ?_⟩
  · simp only [applyFlux, hm]
    exact helmFlux_calm_written hmap hrepo.run hrelease.run
  · exact told_isTrue hnodup hsource (t := .ready) rfl (by rw [hsame, hready]) now
  · exact told_isTrue hnodup hsource (t := .released) rfl (by rw [hsame, hreleased]) now

theorem kustomize_installs (hs : s.world.Distinct) (hservable : Servable lib s.world d .kustomize)
    (hinstalled : s.world.Installed d .kustomize) : ∃ rs t, Installs lib now .kustomize d s rs t := by
  obtain ⟨resource, artifact, hm, hmap, hsecret, htarget, -⟩ := hservable
  obtain ⟨⟨source, hsource, hsourceReady⟩, kustomization, hstored, hready, hhealthy⟩ := hinstalled
  obtain ⟨r, s₁, hrepo⟩ : ∃ r t, Written _ d.key (writeOCIRepository lib d artifact) s r t :=
    reconcileFlux_written _ (withSecretRef_uses _ _ _) s
  obtain ⟨o, rfl⟩ := hrepo.ok (withSecretRef_uses _ _ _) (withSecretRef_succeeds hsecret _ _).calm
  have ho : o.conditions = source.conditions := hrepo.conditions o source rfl hsource
  have hfetched : isStatusConditionTrue o.conditions .ready = true := by rw [ho, hsourceReady]
  obtain ⟨r, s₂, hrelease⟩ : ∃ r t, Written _ d.key (writeKustomization lib d artifact) s₁ r t :=
    reconcileFlux_written _ (withKubeConfig_uses _) s₁
  obtain ⟨k, rfl⟩ := hrelease.ok (withKubeConfig_uses _)
    (withKubeConfig_succeeds (htarget.congr (congrFun hrepo.lookups.readyTarget _)) _).calm
  have hk : k.conditions = kustomization.conditions :=
    hrelease.conditions k kustomization rfl (by rw [hrepo.flux_of_ne _ (by decide)]; exact hstored)
  have hdistinct := hrepo.distinct hs
  obtain ⟨hnodup, hflux⟩ := kustomizeReports_spec (r := .ok k) d
    (hdistinct _ _ o (hrepo.stored o rfl)) fun k' hk' =>
      hrelease.distinct hdistinct _ _ k' (hrelease.stored k' hk')
  refine ⟨kustomizeReports d o (.ok k), s₂, ?_, hrelease.deployments.trans hrepo.deployments,
    hrelease.services.trans hrepo.services, hflux, ?_, ?_⟩
  · simp only [applyFlux, hm]
    exact kustomizeFlux_calm_written hmap hrepo.run hfetched hrelease.run
  · exact told_isTrue hnodup hfetched (t := .ready) rfl
      (by dsimp only; rw [hk, hready]) now
  · exact told_isTrue hnodup hfetched (t := .healthy) rfl
      (by dsimp only; rw [hk, hhealthy]) now

/-- The status that follows from a deployed and healthy release. -/
theorem follow_ready {w : World} {rs : List (Condition DeploymentCondition)}
    {services : List FluxDeployer.Service} {results : List DeploymentResult}
    (hflux : ∀ r ∈ rs, isFluxCondition r.type = true)
    (hdeployed : isStatusConditionTrue (d.told now rs).conditions .artifactDeployed = true)
    (hhealthy : isStatusConditionTrue (d.told now rs).conditions .appHealthy = true)
    (hstalled : isStatusConditionTrue d.conditions .stalled = false)
    (hfetch : w.exposable d = .ok services) (hvalid : validateExposePorts services = none)
    (hmap : mapServicesToDeploymentResults lib.marshal services = .ok results) :
    (follow lib now w rs d).ReadyNow ∧ (follow lib now w rs d).deploymentResults = results := by
  -- Flux tells nothing about stalling, and the results nothing about health.
  have hstalled' : isStatusConditionTrue (d.told now rs).conditions .stalled = false := by
    refine (isStatusConditionTrue_congr ?_).trans hstalled
    refine findStatusCondition_setAll_of_ne fun r hr h => ?_
    simpa [h, isFluxCondition, artifactFetched] using hflux r hr
  have hfailure : hasExposureValidationFailure (d.told now rs).toArtifactDeployment = false := by
    unfold isStatusConditionTrue at hstalled'
    unfold hasExposureValidationFailure
    split at hstalled'
    · next cond hfind => simp_all
    · next hfind => simp [hfind]
  have hresults : withResults lib now w (d.told now rs) = publishResults now (d.told now rs) results := by
    have hfetch' : w.exposable (d.told now rs) = .ok services := hfetch
    simp [withResults, hfailure, hdeployed, hfetch', hvalid, hmap]
  have hready := ReadyConditionStatusUpdater.mutateStatus_of_causes now
    (d := publishResults now (d.told now rs) results)
    ((isStatusConditionTrue_set_of_ne (by simp)).trans hstalled')
    ((isStatusConditionTrue_set_of_ne (by simp)).trans hhealthy)
    (isStatusConditionTrue_set rfl)
  unfold follow
  rw [hresults, hready]
  obtain ⟨time, hsaid⟩ := @says_set _ _ now (publishResults now (d.told now rs) results).conditions
    (ReadyConditionStatusUpdater.readyReport d.generation)
  exact ⟨⟨_, hsaid, rfl, rfl⟩, rfl⟩

/-- Whatever status a deployment has, unless it is stalled: when its resource can be served,
Flux reports the release as installed, and its Services can be exposed, one undisturbed
reconcile makes it Ready for its generation, with the results of these Services. -/
theorem reconcile_attains_ready (lib : Libraries) (c : Controller) (req : NamespacedName) (now : ℕ)
    (s : Cluster) (d : Deployment) (services : List FluxDeployer.Service)
    (results : List DeploymentResult) (hs : s.world.Distinct) (hd : s.deployments req = some d)
    (htype : d.spec.artifactType = c.artifactType)
    (hstalled : isStatusConditionTrue d.conditions .stalled = false)
    (hservable : Servable lib s.world d c) (hinstalled : s.world.Installed d c)
    (hfetch : s.world.exposable d = .ok services) (hvalid : validateExposePorts services = none)
    (hmap : mapServicesToDeploymentResults lib.marshal services = .ok results) :
    ∃ d', ((reconcile lib now c req).calm exec s).2.deployments req = some d' ∧ d'.ReadyNow ∧
      d'.deploymentResults = results := by
  obtain ⟨rs, t, h⟩ : ∃ rs t, Installs lib now c d s rs t := by
    cases c with
    | helm => exact helm_installs hs hservable hinstalled
    | kustomize => exact kustomize_installs hs hservable hinstalled
  have hone : ¬ 1 < (matchingResources c d).length := by rw [hservable.one]; exact Nat.lt_irrefl 1
  have hfetch' : t.world.exposable d = .ok services := by
    rw [World.exposable, h.services]
    exact hfetch
  rw [reconcile_calm now hd htype hone h.deployments h.run]
  exact ⟨follow lib now t.world rs d, by simp [Cluster.setDeployment],
    follow_ready h.isFlux h.deployed h.healthy hstalled hfetch' hvalid hmap⟩

/-- The chart after a change of its spec, with a Service whose port can be exposed. -/
def podinfoChanged : Cluster :=
  (podinfoCluster (podinfoWorld .isTrue [podinfoService [⟨"http", .tcp, 80⟩]])).setDeployment podinfoKey
    { podinfo with
      generation := 2
      conditions := [⟨.ready, .isFalse, .text "MultipleHelmChartResources", "", 1, some 1⟩] }

/-- A deployment that was refused before becomes Ready for its second generation. -/
theorem reconcile_attains_ready_podinfo : ∃ d',
    ((reconcile podinfoLibraries 10 .helm podinfoKey).calm exec podinfoChanged).2.deployments podinfoKey =
        some d' ∧
      d'.ReadyNow ∧ d'.deploymentResults = [⟨"podinfo", typeHTTPK8sService, ""⟩] := by
  have hdistinct : podinfoChanged.world.Distinct := by
    intro k key o ho
    cases k with
    | helmChart => obtain rfl := Option.some.inj ho; decide
    | helmRelease => obtain rfl := Option.some.inj ho; decide
    | _ => cases ho
  have hservable : Servable podinfoLibraries podinfoChanged.world
      { podinfo with
        generation := 2
        conditions := [⟨.ready, .isFalse, .text "MultipleHelmChartResources", "", 1, some 1⟩] } .helm :=
    ⟨podinfoResource, podinfoChart, by decide +kernel, by decide +kernel,
      .inr ⟨"", rfl, .inl rfl⟩, ⟨"local", none⟩, none, rfl, rfl⟩
  exact reconcile_attains_ready podinfoLibraries .helm podinfoKey 10 podinfoChanged _
    [podinfoService [⟨"http", .tcp, 80⟩]] _ hdistinct (by simp [podinfoChanged, Cluster.setDeployment]) rfl
    rfl hservable ⟨rfl, _, rfl, rfl, rfl⟩ (by decide +kernel) (by decide +kernel) (by decide +kernel)

end LandscapeOrchestrator.ArtifactDeploymentController
