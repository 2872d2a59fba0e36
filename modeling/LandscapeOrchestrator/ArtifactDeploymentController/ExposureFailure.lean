import LandscapeOrchestrator.ArtifactDeploymentController.Rounds

/-!
# An exposure failure is final

A reconcile that lists a Service in breach of the exposure contract stores a failure.
No later reconcile of either controller takes it back, whatever becomes of the spec,
of the Flux objects and of the Services.
-/

namespace LandscapeOrchestrator.ArtifactDeploymentController
open Apilib
open FluxDeployer (DeploymentCondition hasExposureValidationFailure stalledReasonExposePortNotFound
  stalledReasonExposePortUnsupportedProtocol)

variable {lib : Libraries} {now : ℕ} {c : Controller} {d d' : Deployment} {log : Log}

/-- No results, and the conditions say why. -/
structure ExposureFailed (d : Deployment) : Prop where
  results : d.deploymentResults = []
  notCreated : ∃ cond, findStatusCondition d.conditions .deploymentResultCreated = some cond ∧
    cond.status = .isFalse
  stalled : ∃ cond, findStatusCondition d.conditions .stalled = some cond ∧ cond.status = .isTrue ∧
    (cond.reason = .text stalledReasonExposePortNotFound ∨
      cond.reason = .text stalledReasonExposePortUnsupportedProtocol)
  notReady : isStatusConditionTrue d.conditions .ready = false

namespace ExposureFailed

theorem hasFailure (h : ExposureFailed d) :
    hasExposureValidationFailure d.toArtifactDeployment = true := by
  obtain ⟨cond, hfind, hst, hreason⟩ := h.stalled
  simp [hasExposureValidationFailure, hfind, hst, hreason]

/-- The failure is a matter of the status alone. -/
theorem of_status (h : ExposureFailed d) (hst : d'.status = d.status) : ExposureFailed d' := by
  simp only [Deployment.status, Status.mk.injEq] at hst
  obtain ⟨hconditions, hresults⟩ := hst
  exact ⟨hresults ▸ h.results, hconditions ▸ h.notCreated, hconditions ▸ h.stalled,
    hconditions ▸ h.notReady⟩

/-- Conditions of other types do not matter. -/
theorem of_frame (h : ExposureFailed d) (hresults : d'.deploymentResults = d.deploymentResults)
    (hframe : ∀ t ∈ [DeploymentCondition.deploymentResultCreated, .stalled],
      findStatusCondition d'.conditions t = findStatusCondition d.conditions t)
    (hready : isStatusConditionTrue d'.conditions .ready = false) : ExposureFailed d' where
  results := hresults.trans h.results
  notCreated := by
    rw [hframe _ (by simp)]
    exact h.notCreated
  stalled := by
    rw [hframe _ (by simp)]
    exact h.stalled
  notReady := hready

/-- The Ready updater leaves a stalled deployment alone. -/
theorem mutateStatus_eq (h : ExposureFailed d) :
    ReadyConditionStatusUpdater.mutateStatus now d = d := by
  obtain ⟨cond, hfind, hst, -⟩ := h.stalled
  simp [ReadyConditionStatusUpdater.mutateStatus, isStatusConditionTrue, hfind, hst]

end ExposureFailed

/-- What is stored for a rejected Service. -/
theorem exposureFailed_failExposure {e : FluxDeployer.ExposureValidationError}
    (hreason : e.reason = stalledReasonExposePortNotFound ∨
      e.reason = stalledReasonExposePortUnsupportedProtocol) (now : ℕ) (d : Deployment) :
    ExposureFailed (failExposure now d e) where
  results := rfl
  notCreated := by
    rw [failExposure_conditions, findStatusCondition_set_of_ne (by simp),
      findStatusCondition_set_of_ne (by simp)]
    obtain ⟨time, hset⟩ := @findStatusCondition_set_self _ _ now d.conditions
      ⟨.deploymentResultCreated, .isFalse, .text e.reason, e.message, d.generation, some now⟩
    exact ⟨_, hset, rfl⟩
  stalled := by
    rw [failExposure_conditions]
    obtain ⟨time, hset⟩ := @findStatusCondition_set_self DeploymentCondition _ now _
      ⟨.stalled, .isTrue, .text e.reason, e.message, d.generation, some now⟩
    refine ⟨_, hset, rfl, ?_⟩
    simpa using hreason
  notReady := by
    rw [failExposure_conditions, isStatusConditionTrue_set_of_ne (by simp),
      isStatusConditionTrue_set rfl]
    rfl

theorem ExposureFailed.fluxStep (h : ExposureFailed d) (hflux : FluxStep lib c d d' log) :
    ExposureFailed d' := by
  refine h.of_frame (by rw [hflux.same]) (fun t ht => ?_) ?_
  · simp only [List.mem_cons, List.not_mem_nil, or_false] at ht
    obtain rfl | rfl := ht <;> exact hflux.frame _ (by decide)
  · rw [isStatusConditionTrue, hflux.frame _ (by decide)]
    exact h.notReady

/-- One reconcile keeps the failure. -/
theorem ExposureFailed.attempted (h : ExposureFailed d) (ha : Attempted lib now c d d' log) :
    ExposureFailed d' := by
  obtain ⟨-, -, rfl⟩ | ⟨d₁, d₂, hflux, hupdated, rfl⟩ := ha
  · refine h.of_frame rfl (fun t ht => ?_) ?_
    · simp only [List.mem_cons, List.not_mem_nil, or_false] at ht
      obtain rfl | rfl := ht <;> exact findStatusCondition_set_of_ne (by simp)
    · simp [multipleResources, isStatusConditionTrue_set]
  · have h₁ := h.fluxStep hflux
    cases hupdated with
    | kept _ => rwa [h₁.mutateStatus_eq]
    | failed e hopen _ => simp [h₁.hasFailure] at hopen
    | published results _ hopen => simp [h₁.hasFailure] at hopen

/-- A rejected Service makes the reconcile want to store a failure. -/
theorem Attempted.exposureFailed (ha : Attempted lib now c d d' log) (hrej : Rejected log) :
    ExposureFailed d' := by
  obtain ⟨-, hnot, -⟩ | ⟨d₁, d₂, hflux, hupdated, rfl⟩ := ha
  · exact absurd hrej hnot
  · cases hupdated with
    | kept hnot => exact absurd hrej hnot
    | failed e _ hreason =>
      have h := exposureFailed_failExposure hreason now d₁
      rwa [h.mutateStatus_eq]
    | published results hnot _ => exact absurd hrej hnot

/-- The object of this name has failed. -/
def Cluster.Failed (req : NamespacedName) (s : Cluster) : Prop :=
  ∃ d, s.deployments req = some d ∧ ExposureFailed d

variable {req : NamespacedName} {s t : Cluster}

theorem Cluster.Failed.evolves (h : s.Failed req) (hev : s.Evolves t) : t.Failed req := by
  obtain ⟨d, hd, hfailed⟩ := h
  obtain ⟨d', hd', hev⟩ := hev.forth hd
  exact ⟨d', hd', hfailed.of_status hev.status⟩

theorem Cluster.Failed.setDeployment (h : s.Failed req) {key : NamespacedName}
    (hd : key = req → ExposureFailed d) : (s.setDeployment key d).Failed req := by
  by_cases hk : key = req
  · subst hk
    exact ⟨d, by simp [Cluster.setDeployment], hd rfl⟩
  · obtain ⟨d₀, hd₀, hfailed⟩ := h
    exact ⟨d₀, by simpa [Cluster.setDeployment, Function.update_of_ne (Ne.symm hk)] using hd₀, hfailed⟩

/-- A failure outlasts every step. -/
theorem Cluster.Failed.step {l : Label} (h : s.Failed req) (hn : (deployers lib).next s l = some t) :
    t.Failed req := by
  cases l with
  | change change =>
    obtain rfl := Option.some.inj hn
    exact h.evolves (Cluster.evolves_apply change s)
  | reconcile c key env =>
    obtain rfl := Option.some.inj hn
    obtain ⟨-, hev⟩ | ⟨-, hd, -, ha, hev⟩ := round_cases lib c key env s
    · exact h.evolves hev
    · refine (h.setDeployment fun hk => ?_).evolves hev
      obtain ⟨d₀, hd₀, hfailed⟩ := h
      rw [hk, hd₀, Option.some.injEq] at hd
      exact (hd ▸ hfailed).attempted ha

/-- The reconcile that rejects a Service and patches the status stores the failure. -/
theorem round_failed {env : Circumstances} (hrej : Rejected (round lib c req env s).log)
    (hpatched : Patched (round lib c req env s).log req) :
    (round lib c req env s).cluster.Failed req := by
  obtain ⟨hnot, -⟩ | @⟨before, d, d', answer, hlog, hd, htype, ha, hev⟩ :=
    round_cases lib c req env s
  · exact absurd hpatched hnot
  · have hrej' : Rejected before := by
      obtain ⟨ns, label, value, services, e, hmem, hv⟩ := hrej
      rw [hlog] at hmem
      obtain hmem | hmem := List.mem_append.mp hmem
      · exact ⟨ns, label, value, services, e, hmem, hv⟩
      · cases List.mem_singleton.mp hmem
    have hfailed : (s.setDeployment req d').Failed req :=
      ⟨d', by simp [Cluster.setDeployment], ha.exposureFailed hrej'⟩
    exact hfailed.evolves hev

/-- After a reconcile in which listed Services were rejected and the status was patched,
every later state of every run has the failure. -/
theorem exposure_failure_final (lib : Libraries) (c : Controller) (req : NamespacedName)
    (env : Circumstances) (s u : Cluster) (hrej : Rejected (round lib c req env s).log)
    (hpatched : Patched (round lib c req env s).log req)
    (hu : ((deployers lib).after (round lib c req env s).cluster).Reachable u) :
    ∃ d, u.deployments req = some d ∧ ExposureFailed d := by
  have hall : u.Failed req := by
    refine System.Reaches.invariant ?_ ?_ hu
    · intro t ht
      obtain rfl := ht
      exact round_failed hrej hpatched
    · intro t l t' ht _ hn
      exact Cluster.Failed.step ht hn
  exact hall

/-- A Service that selects a port it does not have, and the same Service corrected. -/
def podinfoService (ports : List ServicePort) : FluxDeployer.Service where
  ns := "shop"
  name := "podinfo"
  labels := [("konfidence.cloud/artifact-deployment", "podinfo")]
  annotations := [("konfidence.cloud/deployment-result", "podinfo"),
    ("konfidence.cloud/exposed-port-name", "http")]
  ports := ports

/-- The failure survives the correction of the Service and another reconcile. -/
theorem exposure_failure_final_podinfo :
    ∃ d, (round podinfoLibraries .helm podinfoKey (undisturbed 2)
      ((Change.setWorld (podinfoWorld .isTrue [podinfoService [⟨"http", .tcp, 80⟩]])).apply
        (round podinfoLibraries .helm podinfoKey (undisturbed 1)
          (podinfoCluster (podinfoWorld .isTrue [podinfoService []]))).cluster)).cluster.deployments
      podinfoKey = some d ∧ ExposureFailed d :=
  exposure_failure_final podinfoLibraries .helm podinfoKey (undisturbed 1)
    (podinfoCluster (podinfoWorld .isTrue [podinfoService []])) _ (by decide +kernel)
    (by decide +kernel)
    (((System.Reaches.init rfl).step
      (l := .change (.setWorld (podinfoWorld .isTrue [podinfoService [⟨"http", .tcp, 80⟩]]))) trivial
        rfl).step (l := .reconcile .helm podinfoKey (undisturbed 2)) trivial rfl)

end LandscapeOrchestrator.ArtifactDeploymentController
