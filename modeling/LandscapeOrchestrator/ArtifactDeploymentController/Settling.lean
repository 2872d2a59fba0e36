import LandscapeOrchestrator.ArtifactDeploymentController.CalmPass
import LandscapeOrchestrator.ArtifactDeploymentController.ExposureFailure
import LandscapeOrchestrator.ArtifactDeploymentController.ReadyCauses

/-!
# Reconciles settle

A reconcile that nothing disturbs leaves the Flux objects as it wants them, and the status
as it follows from what Flux reports. The next one therefore finds nothing to do.
-/

namespace LandscapeOrchestrator.ArtifactDeploymentController
open Apilib
open FluxDeployer (DeploymentCondition hasExposureValidationFailure validateExposePorts
  mapServicesToDeploymentResults)

variable {lib : Libraries} {now : ℕ} {c : Controller} {d : Deployment} {s : Cluster}
  {req : NamespacedName}

namespace ReadyConditionStatusUpdater

theorem mutateStatus_find (now : ℕ) (d : Deployment) {t : DeploymentCondition} (ht : t ≠ .ready) :
    findStatusCondition (mutateStatus now d).conditions t = findStatusCondition d.conditions t := by
  obtain ⟨-, -, -, cond, heq, htype, -, -⟩ | ⟨heq, -⟩ := mutateStatus_cases now d
  · rw [heq]
    exact findStatusCondition_set_of_ne (by rw [htype]; exact ht.symm)
  · rw [heq]

/-- Ready is on record when its causes are found again. -/
theorem mutateStatus_again (now' : ℕ) (d : Deployment) :
    mutateStatus now' (mutateStatus now d) = mutateStatus now d := by
  have hcause {t : DeploymentCondition} (ht : t ≠ .ready) :=
    isStatusConditionTrue_congr (mutateStatus_find now d ht)
  obtain ⟨hst, hh, hr, -⟩ | ⟨heq, hcauses⟩ := mutateStatus_cases now d
  · rw [mutateStatus_of_causes now' ((hcause (by simp)).trans hst) ((hcause (by simp)).trans hh)
      ((hcause (by simp)).trans hr), mutateStatus_of_causes now hst hh hr]
    exact told_eq_of_said fun r hmem => says_setAll now _ (by simp) r hmem
  · rw [heq]
    obtain h | h | h := hcauses <;> simp [mutateStatus, h]

end ReadyConditionStatusUpdater

theorem hasExposureValidationFailure_congr {d d' : Deployment}
    (h : findStatusCondition d'.conditions .stalled = findStatusCondition d.conditions .stalled) :
    hasExposureValidationFailure d'.toArtifactDeployment =
      hasExposureValidationFailure d.toArtifactDeployment := by
  simp [hasExposureValidationFailure, h]

theorem exposable_mutateStatus (w : World) (d : Deployment) :
    w.exposable (ReadyConditionStatusUpdater.mutateStatus now d) = w.exposable d := by
  rw [ReadyConditionStatusUpdater.mutateStatus_same]
  rfl

/-- After a publication, the Ready updater included, the results and their condition are on
record. -/
theorem publishResults_again (now now' : ℕ) (d : Deployment) (results : List DeploymentResult) :
    publishResults now' (ReadyConditionStatusUpdater.mutateStatus now (publishResults now d results))
        results =
      ReadyConditionStatusUpdater.mutateStatus now (publishResults now d results) := by
  have hsame := ReadyConditionStatusUpdater.mutateStatus_same now (publishResults now d results)
  have hsaid : Says (ReadyConditionStatusUpdater.mutateStatus now
      (publishResults now d results)).conditions (publishedReport d.generation) := by
    have hset : Says (publishResults now d results).conditions (publishedReport d.generation) := by
      rw [publishResults_eq]
      exact says_set
    exact hset.congr (ReadyConditionStatusUpdater.mutateStatus_find now _ (by simp [publishedReport]))
  generalize ReadyConditionStatusUpdater.mutateStatus now (publishResults now d results) = e at *
  have hgeneration : e.generation = d.generation := by rw [hsame]; rfl
  have hresults : e.deploymentResults = results := by rw [hsame]; rfl
  rw [publishResults_eq, hgeneration, told_eq_of_said (by simpa using hsaid), ← hresults]

/-- The Services decide the same again, after the Ready updater. -/
theorem withResults_again (lib : Libraries) (now now' : ℕ) (w : World) (d : Deployment) :
    withResults lib now' w
        (ReadyConditionStatusUpdater.mutateStatus now (withResults lib now w d)) =
      ReadyConditionStatusUpdater.mutateStatus now (withResults lib now w d) := by
  -- Neither failure nor deployment depends on Ready.
  have hfailure (e : Deployment) :=
    hasExposureValidationFailure_congr
      (ReadyConditionStatusUpdater.mutateStatus_find now e (t := .stalled) (by simp))
  have hdeployed (e : Deployment) :=
    isStatusConditionTrue_congr
      (ReadyConditionStatusUpdater.mutateStatus_find now e (t := .artifactDeployed) (by simp))
  by_cases hfail : hasExposureValidationFailure d.toArtifactDeployment = true
  · simp [withResults, hfail, hfailure]
  by_cases hdep : isStatusConditionTrue d.conditions .artifactDeployed = true
  swap
  · simp [withResults, hfail, hdep, hfailure, hdeployed]
  cases hfetch : w.exposable d with
  | error e => simp [withResults, hfail, hdep, hfailure, hdeployed, hfetch, exposable_mutateStatus]
  | ok services =>
  cases hvalid : validateExposePorts services with
  | some e =>
    have hfailed := exposureFailed_failExposure (validateExposePorts_reason hvalid) now d
    have heq : withResults lib now w d = failExposure now d e := by
      simp [withResults, hfail, hdep, hfetch, hvalid]
    rw [heq, hfailed.mutateStatus_eq]
    simp [withResults, hfailed.hasFailure]
  | none =>
  cases hmap : mapServicesToDeploymentResults lib.marshal services with
  | error e =>
    simp [withResults, hfail, hdep, hfailure, hdeployed, hfetch, hvalid, hmap, exposable_mutateStatus]
  | ok results =>
    have heq : withResults lib now w d = publishResults now d results := by
      simp [withResults, hfail, hdep, hfetch, hvalid, hmap]
    have hfail' : hasExposureValidationFailure (publishResults now d results).toArtifactDeployment =
        hasExposureValidationFailure d.toArtifactDeployment :=
      hasExposureValidationFailure_congr (findStatusCondition_set_of_ne (by simp))
    have hdep' : isStatusConditionTrue (publishResults now d results).conditions .artifactDeployed =
        isStatusConditionTrue d.conditions .artifactDeployed :=
      isStatusConditionTrue_set_of_ne (by simp)
    have hfetch' : w.exposable (publishResults now d results) = w.exposable d := rfl
    rw [heq]
    conv_lhs => unfold withResults
    simp only [hfailure, hdeployed, exposable_mutateStatus, hfail', hdep', hfetch', hfail, hdep,
      hfetch, hvalid, hmap, Bool.not_true]
    exact publishResults_again now now' d results

/-- The updater of results leaves alone what Flux reports on. -/
theorem withResults_find {t : DeploymentCondition} (ht : isFluxCondition t = true) (lib : Libraries)
    (now : ℕ) (w : World) (d : Deployment) :
    findStatusCondition (withResults lib now w d).conditions t = findStatusCondition d.conditions t := by
  have hne : DeploymentCondition.deploymentResultCreated ≠ t ∧ .ready ≠ t ∧ .stalled ≠ t := by
    refine ⟨?_, ?_, ?_⟩ <;> rintro rfl <;> simp [isFluxCondition, artifactFetched] at ht
  unfold withResults
  split
  · rfl
  split
  · rfl
  split
  · rfl
  split
  · rw [failExposure_conditions, findStatusCondition_set_of_ne hne.2.2,
      findStatusCondition_set_of_ne hne.2.1, findStatusCondition_set_of_ne hne.1]
  split
  · rfl
  · exact findStatusCondition_set_of_ne hne.1

/-- Once a pass has followed what Flux tells, it follows it in vain. -/
theorem follow_again (lib : Libraries) (now now' : ℕ) (w : World) (d : Deployment)
    {rs : List (Condition DeploymentCondition)} (hnodup : (rs.map Condition.type).Nodup)
    (hflux : ∀ r ∈ rs, isFluxCondition r.type = true) :
    follow lib now' w rs (follow lib now w rs d) = follow lib now w rs d := by
  have hsaid : ∀ r ∈ rs, Says (follow lib now w rs d).conditions r := by
    intro r hr
    have hne : r.type ≠ .ready := by
      intro h
      simpa [h, isFluxCondition, artifactFetched] using hflux r hr
    refine (says_setAll now d.conditions hnodup r hr).congr ?_
    rw [follow, ReadyConditionStatusUpdater.mutateStatus_find now _ hne, withResults_find (hflux r hr)]
    rfl
  rw [follow, told_eq_of_said hsaid]
  conv_lhs => rw [follow, withResults_again]
  exact ReadyConditionStatusUpdater.mutateStatus_again now' _

def multipleReport (c : Controller) (d : Deployment) : Condition DeploymentCondition :=
  ⟨.ready, .isFalse, .text c.multipleReason, multipleMessage c d, d.generation, none⟩

theorem multipleResources_eq (now : ℕ) (c : Controller) (d : Deployment) :
    multipleResources now c d = d.told now [multipleReport c d] := by
  have hset := setStatusCondition_now now d.conditions (multipleReport c d)
  simpa [multipleResources, Deployment.told, multipleReport] using hset

/-- A reconcile that finds several resources. -/
theorem reconcile_calm_multiple (lib : Libraries) (now : ℕ) (hd : s.deployments req = some d)
    (htype : d.spec.artifactType = c.artifactType) (hmany : 1 < (matchingResources c d).length) :
    (reconcile lib now c req).calm exec s = (.error (multipleMessage c d),
      s.setDeployment req (d.told now [multipleReport c d])) := by
  unfold reconcile getDeployment
  rw [Prog.calm_perform_bind]
  simp only [exec, hd, htype, ne_eq, not_true, if_false, hmany, if_true]
  rw [Prog.calm_bind, multipleResources_eq, patchIfChanged_calm hd rfl]
  rfl

/-- A reconcile that nothing disturbs leaves the next one nothing to do, whenever that
comes: it returns the same and changes nothing. -/
theorem reconcile_idempotent (lib : Libraries) (c : Controller) (req : NamespacedName) (now now' : ℕ)
    (s : Cluster) (hs : s.world.Distinct) :
    (reconcile lib now' c req).calm exec ((reconcile lib now c req).calm exec s).2 =
      (reconcile lib now c req).calm exec s := by
  cases hd : s.deployments req with
  | none =>
    have hrun now : (reconcile lib now c req).calm exec s = (.ok none, s) := by
      simp [reconcile, getDeployment, exec, hd, notFound, ApiError.isNotFound]
    simp only [hrun]
  | some d =>
  by_cases htype : d.spec.artifactType = c.artifactType
  swap
  · have hrun now : (reconcile lib now c req).calm exec s = (.ok none, s) := by
      simp [reconcile, getDeployment, exec, hd, htype]
    simp only [hrun]
  by_cases hmany : 1 < (matchingResources c d).length
  · rw [reconcile_calm_multiple lib now hd htype hmany]
    have hstored : (s.setDeployment req (d.told now [multipleReport c d])).deployments req =
        some (d.told now [multipleReport c d]) := by simp [Cluster.setDeployment]
    have hsaid : ∀ r ∈ [multipleReport c d], Says (d.told now [multipleReport c d]).conditions r :=
      says_setAll now _ (by simp)
    have hagain := reconcile_calm_multiple lib now' hstored htype hmany
    have heq : (d.told now [multipleReport c d]).told now'
        [multipleReport c (d.told now [multipleReport c d])] = d.told now [multipleReport c d] :=
      told_eq_of_said hsaid
    rw [heq, Cluster.setDeployment_self hstored] at hagain
    exact hagain
  · obtain ⟨rs, t, hpass⟩ := applyFlux_passed lib c d hs
    rw [reconcile_calm now hd htype hmany hpass.deployments (hpass.run now)]
    -- The second reconcile starts from the status that the first one has stored.
    have hsame := follow_same lib now t.world rs d
    have hfollow := follow_again lib now now' t.world d hpass.nodup hpass.isFlux
    generalize follow lib now t.world rs d = d' at *
    have hstored : (t.setDeployment req d').deployments req = some d' := by
      simp [Cluster.setDeployment]
    have hrun : (applyFlux lib now' c d').calm exec (t.setDeployment req d') =
        (d'.told now' rs, t.setDeployment req d') := by
      have hagain := hpass.again now' d'.status (t.setDeployment req d') rfl
      rwa [← hsame] at hagain
    rw [reconcile_calm now' hstored (by rw [hsame]; exact htype) (by rw [hsame]; exact hmany) rfl hrun]
    have hworld : (t.setDeployment req d').world = t.world := rfl
    rw [hworld, hfollow, Cluster.setDeployment_self hstored]

/-- Flux has installed the chart: the first reconcile creates the HelmRepository and stores
the status, and a later one finds both. -/
theorem reconcile_idempotent_podinfo :
    (podinfoWorld .isTrue []).Distinct ∧
      ((reconcile podinfoLibraries 10 .helm podinfoKey).calm exec
        (podinfoCluster (podinfoWorld .isTrue []))).2.world.flux .helmRepository podinfoKey ≠ none ∧
      (reconcile podinfoLibraries 70 .helm podinfoKey).calm exec
          ((reconcile podinfoLibraries 10 .helm podinfoKey).calm exec
            (podinfoCluster (podinfoWorld .isTrue []))).2 =
        (reconcile podinfoLibraries 10 .helm podinfoKey).calm exec
          (podinfoCluster (podinfoWorld .isTrue [])) := by
  have hdistinct : (podinfoWorld .isTrue []).Distinct := by
    intro k key o ho
    cases k with
    | helmChart => obtain rfl := Option.some.inj ho; decide
    | helmRelease => obtain rfl := Option.some.inj ho; decide
    | _ => cases ho
  refine ⟨hdistinct, ?_, reconcile_idempotent podinfoLibraries .helm podinfoKey 10 70 _ hdistinct⟩
  have hsome : (((reconcile podinfoLibraries 10 .helm podinfoKey).calm exec
      (podinfoCluster (podinfoWorld .isTrue []))).2.world.flux .helmRepository podinfoKey).isSome = true := by
    decide +kernel
  exact Option.isSome_iff_ne_none.mp hsome

end LandscapeOrchestrator.ArtifactDeploymentController
