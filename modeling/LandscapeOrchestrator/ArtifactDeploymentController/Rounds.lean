import LandscapeOrchestrator.ArtifactDeploymentController.Reconcile
import LandscapeOrchestrator.FluxDeployer.Publishing

/-!
# What one reconcile can do

A reconcile patches the status of its object once, or not at all. What it patches is
related here to the calls that were answered during the reconcile, whatever else
happened in the cluster meanwhile.

## Main results

- `mapStatusConditions_find` — where a condition comes from that Flux reported
- `applyFlux_paths`, `updateDeploymentResults_paths` — the two parts of a reconcile
- `round_cases` — the status after a reconcile
-/

namespace LandscapeOrchestrator.ArtifactDeploymentController
open Apilib
open FluxDeployer (DeploymentCondition OCMResource HelmChartResource KustomizeResource toHelm
  toKustomize validateExposePorts setExposureValidationFailure hasExposureValidationFailure
  stalledReasonExposePortNotFound stalledReasonExposePortUnsupportedProtocol)

variable {lib : Libraries} {now : ℕ} {c : Controller} {d d' : Deployment} {log : Log} {k : Kind}
  {key : NamespacedName}

-- ════════════════════════════════════════════════════════════════════════
-- Entries of the log
-- ════════════════════════════════════════════════════════════════════════

/-- The object was written with this spec, or was found with it. -/
def Synced (log : Log) (k : Kind) (key : NamespacedName) (spec : k.Spec) : Prop :=
  (∃ o, ⟨.createFlux k key spec, o⟩ ∈ log) ∨ (∃ version o, ⟨.updateFlux k key version spec, o⟩ ∈ log) ∨
    ∃ o : FluxObject k, ⟨.getFlux k key, o⟩ ∈ log ∧ o.spec = spec

/-- The object was seen in this form, in the answer to a read or a write. -/
def Saw (log : Log) (k : Kind) (key : NamespacedName) (o : FluxObject k) : Prop :=
  (∃ spec, ⟨.createFlux k key spec, o⟩ ∈ log) ∨
    (∃ version spec, ⟨.updateFlux k key version spec, o⟩ ∈ log) ∨ ⟨.getFlux k key, o⟩ ∈ log

/-- Services were listed that breach the exposure contract. -/
def Rejected (log : Log) : Prop :=
  ∃ ns label value services e, ⟨.services (.listServices ns label value), services⟩ ∈ log ∧
    validateExposePorts services = some e

/-- The status was patched. -/
def Patched (log : Log) (req : NamespacedName) : Prop :=
  ∃ before after answer, ⟨.patchStatus req before after, answer⟩ ∈ log

def isRejection : Done Op Res → Bool
  | ⟨.services (.listServices _ _ _), services⟩ => (validateExposePorts services).isSome
  | _ => false

def isPatchOf (req : NamespacedName) : Done Op Res → Bool
  | ⟨.patchStatus key _ _, _⟩ => key = req
  | _ => false

theorem rejected_iff : Rejected log ↔ log.any isRejection = true := by
  rw [List.any_eq_true]
  constructor
  · rintro ⟨ns, label, value, services, e, hmem, hv⟩
    exact ⟨_, hmem, by simp [isRejection, hv]⟩
  · rintro ⟨e, hmem, h⟩
    unfold isRejection at h
    split at h
    · next ns label value services =>
      obtain ⟨e, he⟩ := Option.isSome_iff_exists.mp h
      exact ⟨ns, label, value, services, e, hmem, he⟩
    · cases h

theorem patched_iff {req : NamespacedName} : Patched log req ↔ log.any (isPatchOf req) = true := by
  rw [List.any_eq_true]
  constructor
  · rintro ⟨before, after, answer, hmem⟩
    exact ⟨_, hmem, by simp [isPatchOf]⟩
  · rintro ⟨e, hmem, h⟩
    unfold isPatchOf at h
    split at h
    · next key before after answer =>
      obtain rfl := of_decide_eq_true h
      exact ⟨before, after, answer, hmem⟩
    · cases h

instance : Decidable (Rejected log) := decidable_of_iff _ rejected_iff.symm

instance {req : NamespacedName} : Decidable (Patched log req) := decidable_of_iff _ patched_iff.symm

theorem Synced.append {spec : k.Spec} (h : Synced log k key spec) (more : Log) :
    Synced (log ++ more) k key spec := by
  obtain ⟨o, h⟩ | ⟨version, o, h⟩ | ⟨o, h, hspec⟩ := h
  · exact .inl ⟨o, List.mem_append_left _ h⟩
  · exact .inr (.inl ⟨version, o, List.mem_append_left _ h⟩)
  · exact .inr (.inr ⟨o, List.mem_append_left _ h, hspec⟩)

theorem Saw.append {o : FluxObject k} (h : Saw log k key o) (more : Log) :
    Saw (log ++ more) k key o := by
  obtain ⟨spec, h⟩ | ⟨version, spec, h⟩ | h := h
  · exact .inl ⟨spec, List.mem_append_left _ h⟩
  · exact .inr (.inl ⟨version, spec, List.mem_append_left _ h⟩)
  · exact .inr (.inr (List.mem_append_left _ h))

/-- The calls of the Flux reconcilers. -/
def Op.isFlux : Op → Bool
  | .getDeployment _ => false
  | .patchStatus _ _ _ => false
  | .services _ => false
  | _ => true

/-- The calls between the first read and the patch. -/
def Op.isInner : Op → Bool
  | .getDeployment _ => false
  | .patchStatus _ _ _ => false
  | _ => true

theorem Op.isInner_of_isFlux (op : Op) (h : op.isFlux = true) : op.isInner = true := by
  cases op <;> first | rfl | cases h

theorem not_rejected_append {more : Log} (h : ¬ Rejected log)
    (hmore : ∀ e ∈ more, e.op.isFlux = true) : ¬ Rejected (log ++ more) := by
  rintro ⟨ns, label, value, services, e, hmem, hv⟩
  obtain hmem | hmem := List.mem_append.mp hmem
  · exact h ⟨ns, label, value, services, e, hmem, hv⟩
  · cases hmore _ hmem

-- ════════════════════════════════════════════════════════════════════════
-- Writes
-- ════════════════════════════════════════════════════════════════════════

abbrev FluxPaths {α : Type} (Q : α → Log → Prop) (p : Program α) (log : Log) : Prop :=
  p.Paths (fun op => op.isFlux = true) Q log

theorem getSecretRef_paths (d : Deployment) (repository : String) (log : Log) :
    FluxPaths (fun _ _ => True) (getSecretRef lib d repository) log := by
  unfold getSecretRef
  split
  · trivial
  split
  · trivial
  split
  · trivial
  refine Prog.paths_perform_bind.mpr ⟨rfl, fun configured => ?_, fun e => trivial⟩
  dsimp only
  split
  · trivial
  refine Prog.paths_perform_bind.mpr ⟨rfl, fun _ => trivial, fun e => ?_⟩
  dsimp only
  split <;> trivial

theorem withSecretRef_paths {σ : Type} (d : Deployment) (repository kindName : String)
    (spec : Option String → σ) (log : Log) :
    FluxPaths (fun r _ => ∀ x, r = .ok x → ∃ ref, x = spec ref)
      (withSecretRef lib d repository kindName spec) log := by
  refine (getSecretRef_paths d repository log).bind fun r log _ => ?_
  cases r with
  | error cause => simp
  | ok ref =>
    simp only [Prog.pure_eq, Prog.paths_ret, Except.ok.injEq]
    exact fun x hx => ⟨ref, hx.symm⟩

theorem withKubeConfig_paths {σ : Type} (d : Deployment) (spec : Option String → σ) (log : Log) :
    FluxPaths (fun r _ => ∀ x, r = .ok x → ∃ ref, x = spec ref) (withKubeConfig d spec) log := by
  have href : FluxPaths (fun _ _ => True) (getKubeConfigRef d.ns d.spec.artifactType) log :=
    ⟨rfl, fun _ => trivial, fun _ => trivial⟩
  refine href.bind fun r log _ => ?_
  cases r with
  | error cause => simp
  | ok ref =>
    simp only [Prog.pure_eq, Prog.paths_ret, Except.ok.injEq]
    exact fun x hx => ⟨ref, hx.symm⟩

/-- An object that is returned has been seen, and has a spec that `mutate` made. -/
theorem createOrUpdate_paths {R : k.Spec → Prop} {mutate : Program (Except String k.Spec)}
    (hmutate : ∀ log, FluxPaths (fun r _ => ∀ spec, r = .ok spec → R spec) mutate log) (log : Log) :
    FluxPaths (fun r log => ∀ o, r = .ok o → Saw log k key o ∧ ∃ spec, R spec ∧ Synced log k key spec)
      (createOrUpdate k key mutate) log := by
  refine Prog.paths_perform_bind.mpr ⟨rfl, fun o => ?_, fun e => ?_⟩
  · refine (hmutate _).grows.bind ?_
    rintro r _ ⟨hr, more, rfl, -⟩
    have hget : (⟨.getFlux k key, o⟩ : Done Op Res) ∈ log ++ [⟨.getFlux k key, o⟩] ++ more := by simp
    cases r with
    | error cause => simp
    | ok spec =>
      dsimp only
      split
      · next heq =>
        simp only [Prog.pure_eq, Prog.paths_ret, Except.ok.injEq]
        rintro _ rfl
        exact ⟨.inr (.inr hget), spec, hr spec rfl, .inr (.inr ⟨o, hget, heq.symm⟩)⟩
      · refine Prog.paths_perform_bind.mpr ⟨rfl, fun o' => ?_, fun e => by simp⟩
        simp only [Prog.pure_eq, Prog.paths_ret, Except.ok.injEq]
        rintro _ rfl
        exact ⟨.inr (.inl ⟨o.resourceVersion, spec, by simp⟩), spec, hr spec rfl,
          .inr (.inl ⟨o.resourceVersion, o', by simp⟩)⟩
  · dsimp only
    split
    · refine (hmutate _).bind fun r log hr => ?_
      cases r with
      | error cause => simp
      | ok spec =>
        refine Prog.paths_perform_bind.mpr ⟨rfl, fun o => ?_, fun e => by simp⟩
        simp only [Prog.pure_eq, Prog.paths_ret, Except.ok.injEq]
        rintro _ rfl
        exact ⟨.inl ⟨spec, by simp⟩, spec, hr spec rfl, .inl ⟨o, by simp⟩⟩
    · simp

theorem reconcileFlux_paths (k : Kind) {R : k.Spec → Prop} {mutate : Program (Except String k.Spec)}
    (kindName : String)
    (hmutate : ∀ log, FluxPaths (fun r _ => ∀ spec, r = .ok spec → R spec) mutate log) (log : Log) :
    FluxPaths
      (fun r log => ∀ o, r = .ok o → Saw log k d.key o ∧ ∃ spec, R spec ∧ Synced log k d.key spec)
      (reconcileFlux k kindName d mutate) log := by
  refine (createOrUpdate_paths hmutate log).bind fun r log hr => ?_
  cases r with
  | error cause => simp
  | ok o => simpa using hr

-- ════════════════════════════════════════════════════════════════════════
-- Conditions
-- ════════════════════════════════════════════════════════════════════════

/-- A condition is as before, or has the status of one that was mapped to it. -/
theorem mapStatusConditions_find (mapType : FluxCondition → Option DeploymentCondition) (now : ℕ)
    (d : Deployment) (cs : List (Condition FluxCondition)) (t : DeploymentCondition) :
    findStatusCondition (mapStatusConditions mapType now d cs).conditions t =
        findStatusCondition d.conditions t ∨
      ∃ c ∈ cs, mapType c.type = some t ∧ ∃ found,
        findStatusCondition (mapStatusConditions mapType now d cs).conditions t = some found ∧
          found.status = c.status := by
  simp only [mapStatusConditions]
  generalize d.conditions = conditions
  induction cs generalizing conditions with
  | nil => exact .inl rfl
  | cons c cs ih =>
    simp only [List.foldl_cons]
    obtain heq | ⟨c', hmem, hmap, hfound⟩ := ih (mapCondition mapType now d.generation conditions c)
    · rw [heq]
      cases hmap : mapType c.type with
      | none => exact .inl (by simp [mapCondition, hmap])
      | some u =>
        simp only [mapCondition, hmap]
        by_cases hu : u = t
        · subst hu
          obtain ⟨time, hset⟩ := @findStatusCondition_set_self _ _ now conditions
            ⟨u, c.status, fluxReason c.reason, c.message, d.generation, some now⟩
          exact .inr ⟨c, List.mem_cons_self, hmap, _, hset, rfl⟩
        · exact .inl (findStatusCondition_set_of_ne hu)
    · exact .inr ⟨c', List.mem_cons_of_mem _ hmem, hmap, hfound⟩

/-- Flux reports on fetching, on deploying and on health. -/
def isFluxCondition (t : DeploymentCondition) : Bool :=
  t = artifactFetched || t = .artifactDeployed || t = .appHealthy

/-- Only conditions that Flux reports on may have changed, and health only to a status
that `reports` allows. -/
structure FluxMapped (reports : ConditionStatus → Prop) (d d' : Deployment) : Prop where
  same : d' = { d with conditions := d'.conditions }
  frame : ∀ t, isFluxCondition t = false →
    findStatusCondition d'.conditions t = findStatusCondition d.conditions t
  health : findStatusCondition d'.conditions .appHealthy = findStatusCondition d.conditions .appHealthy ∨
    ∃ found, findStatusCondition d'.conditions .appHealthy = some found ∧ reports found.status

variable {reports reports' : ConditionStatus → Prop}

theorem FluxMapped.refl (d : Deployment) : FluxMapped reports d d := ⟨rfl, fun _ _ => rfl, .inl rfl⟩

theorem FluxMapped.trans {d'' : Deployment} (h : FluxMapped reports d d')
    (h' : FluxMapped reports d' d'') : FluxMapped reports d d'' where
  same := by rw [h'.same, h.same]
  frame t ht := (h'.frame t ht).trans (h.frame t ht)
  health := by
    obtain heq | hfound := h'.health
    · rw [heq]
      exact h.health
    · exact .inr hfound

theorem FluxMapped.mono (h : FluxMapped reports d d') (hr : ∀ st, reports st → reports' st) :
    FluxMapped reports' d d' :=
  ⟨h.same, h.frame, h.health.imp_right fun ⟨found, hfind, hst⟩ => ⟨found, hfind, hr _ hst⟩⟩

theorem fluxMapped_mapStatusConditions {mapType : FluxCondition → Option DeploymentCondition}
    (now : ℕ) (d : Deployment) (cs : List (Condition FluxCondition))
    (htarget : ∀ t u, mapType t = some u → isFluxCondition u = true)
    (hhealth : ∀ c ∈ cs, mapType c.type = some .appHealthy → reports c.status) :
    FluxMapped reports d (mapStatusConditions mapType now d cs) where
  same := rfl
  frame t ht := by
    obtain heq | ⟨c, -, hmap, -⟩ := mapStatusConditions_find mapType now d cs t
    · exact heq
    · simp [htarget _ _ hmap] at ht
  health := by
    obtain heq | ⟨c, hmem, hmap, found, hfind, hst⟩ :=
      mapStatusConditions_find mapType now d cs .appHealthy
    · exact .inl heq
    · exact .inr ⟨found, hfind, hst ▸ hhealth c hmem hmap⟩

-- ════════════════════════════════════════════════════════════════════════
-- The Flux part
-- ════════════════════════════════════════════════════════════════════════

/-- Exactly one resource matched, it was mapped, and both Flux objects have the specs
that follow from it. -/
def Wrote (lib : Libraries) (d : Deployment) (log : Log) : Controller → Prop
  | .helm => ∃ resource chart secretRef kubeConfig, matchingResources .helm d = [resource] ∧
      toHelm lib.parseReference resource = .ok chart ∧
      Synced log .helmRepository d.key (helmRepositorySpec d chart secretRef) ∧
      Synced log .helmRelease d.key (helmReleaseSpec d chart kubeConfig)
  | .kustomize => ∃ resource artifact secretRef kubeConfig,
      matchingResources .kustomize d = [resource] ∧
      toKustomize lib.parseReference resource = .ok artifact ∧
      Synced log .ociRepository d.key (ociRepositorySpec d artifact secretRef) ∧
      Synced log .kustomization d.key (kustomizationSpec lib d artifact kubeConfig)

/-- The object whose health the controller reads, and the condition it reads there. -/
def Controller.release : Controller → Kind
  | helm => .helmRelease
  | kustomize => .kustomization

def Controller.healthCondition : Controller → FluxCondition
  | helm => .released
  | kustomize => .healthy

/-- The release was seen with a health condition of this status. -/
def SawHealth (c : Controller) (log : Log) (key : NamespacedName) (status : ConditionStatus) : Prop :=
  ∃ o, Saw log c.release key o ∧ ∃ cond ∈ o.conditions,
    cond.type = c.healthCondition ∧ cond.status = status

/-- A new health status is one that the release of this resource reported. -/
def FluxStep (lib : Libraries) (c : Controller) (d d' : Deployment) (log : Log) : Prop :=
  FluxMapped (fun status => Wrote lib d log c ∧ SawHealth c log d.key status) d d'

theorem Wrote.append (h : Wrote lib d log c) (more : Log) : Wrote lib d (log ++ more) c := by
  cases c with
  | helm =>
    obtain ⟨resource, chart, secretRef, kubeConfig, hone, hmap, hsource, hrelease⟩ := h
    exact ⟨resource, chart, secretRef, kubeConfig, hone, hmap, hsource.append more,
      hrelease.append more⟩
  | kustomize =>
    obtain ⟨resource, artifact, secretRef, kubeConfig, hone, hmap, hsource, hrelease⟩ := h
    exact ⟨resource, artifact, secretRef, kubeConfig, hone, hmap, hsource.append more,
      hrelease.append more⟩

theorem SawHealth.append {status : ConditionStatus} (h : SawHealth c log key status) (more : Log) :
    SawHealth c (log ++ more) key status := by
  obtain ⟨o, hsaw, hcond⟩ := h
  exact ⟨o, hsaw.append more, hcond⟩

theorem FluxStep.append (h : FluxStep lib c d d' log) (more : Log) :
    FluxStep lib c d d' (log ++ more) :=
  h.mono fun _ hr => ⟨hr.1.append more, hr.2.append more⟩

theorem helmChart_target (t : FluxCondition) (u : DeploymentCondition)
    (h : mapHelmChartConditionType t = some u) : isFluxCondition u = true ∧ u ≠ .appHealthy := by
  cases t with
  | ready => obtain rfl := Option.some.inj h; decide
  | _ => cases h

theorem helmRelease_target (t : FluxCondition) (u : DeploymentCondition)
    (h : mapHelmReleaseConditionType t = some u) :
    isFluxCondition u = true ∧ (u = .appHealthy → t = .released) := by
  cases t with
  | ready => obtain rfl := Option.some.inj h; decide
  | released => obtain rfl := Option.some.inj h; decide
  | _ => cases h

theorem ociRepository_target (t : FluxCondition) (u : DeploymentCondition)
    (h : mapOCIRepositoryConditionType t = some u) : isFluxCondition u = true ∧ u ≠ .appHealthy := by
  cases t with
  | ready => obtain rfl := Option.some.inj h; decide
  | _ => cases h

theorem kustomization_target (t : FluxCondition) (u : DeploymentCondition)
    (h : mapKustomizationConditionType t = some u) :
    isFluxCondition u = true ∧ (u = .appHealthy → t = .healthy) := by
  cases t with
  | ready => obtain rfl := Option.some.inj h; decide
  | healthy => obtain rfl := Option.some.inj h; decide
  | _ => cases h

theorem mapHelmStatus_paths (reports : ConditionStatus → Prop) (d : Deployment)
    (release : FluxObject .helmRelease) (log : Log)
    (hreports : ∀ cond ∈ release.conditions, cond.type = .released → reports cond.status) :
    FluxPaths (fun d' _ => FluxMapped reports d d') (mapHelmStatus now d release) log := by
  have hget : FluxPaths (fun _ _ => True) (getHelmChart d) log :=
    ⟨rfl, fun _ => trivial, fun _ => trivial⟩
  refine hget.bind fun r log _ => ?_
  cases r with
  | none => exact FluxMapped.refl d
  | some helmChart =>
    have hchart : FluxMapped reports d
        (mapStatusConditions mapHelmChartConditionType now d helmChart.conditions) :=
      fluxMapped_mapStatusConditions now d _ (fun t u h => (helmChart_target t u h).1)
        fun c _ h => absurd rfl (helmChart_target _ _ h).2
    dsimp only
    split
    · refine hchart.trans (fluxMapped_mapStatusConditions now _ _
        (fun t u h => (helmRelease_target t u h).1) fun cond hmem h => ?_)
      exact hreports cond hmem ((helmRelease_target _ _ h).2 rfl)
    · exact hchart

theorem helmRepositoryReconcile_paths (d : Deployment) (chart : HelmChartResource) (log : Log) :
    FluxPaths (fun r log => ∀ x, r = .ok x → ∃ secretRef,
        Synced log .helmRepository d.key (helmRepositorySpec d chart secretRef))
      (helmRepositoryReconcile lib d chart) log := by
  refine (reconcileFlux_paths .helmRepository "HelmRepository" (withSecretRef_paths d
    chart.repository "Helm Repository" (helmRepositorySpec d chart)) log).bind fun r log hr => ?_
  cases r with
  | error cause => simp
  | ok o =>
    simp only [Prog.pure_eq, Prog.paths_ret, Except.ok.injEq]
    rintro _ -
    obtain ⟨-, spec, ⟨ref, rfl⟩, hsync⟩ := hr o rfl
    exact ⟨ref, hsync⟩

/-- Once the source is written, success means that the release is written too. -/
theorem helmReleaseReconcile_paths {resource : OCMResource} {chart : HelmChartResource}
    {secretRef : Option String} (hone : matchingResources .helm d = [resource])
    (hmap : toHelm lib.parseReference resource = .ok chart)
    (hsync : Synced log .helmRepository d.key (helmRepositorySpec d chart secretRef)) :
    FluxPaths (fun r log => ∀ x, r = .ok x → Wrote lib d log .helm ∧ FluxStep lib .helm d x.2 log)
      (helmReleaseReconcile now d chart) log := by
  refine (reconcileFlux_paths .helmRelease "HelmRelease"
    (withKubeConfig_paths d (helmReleaseSpec d chart)) log).grows.bind ?_
  rintro r _ ⟨hr, more, rfl, -⟩
  cases r with
  | error cause => simp
  | ok release =>
    obtain ⟨hsaw, spec, ⟨kubeConfig, rfl⟩, hsync'⟩ := hr release rfl
    have hwrote : Wrote lib d (log ++ more) .helm :=
      ⟨resource, chart, secretRef, kubeConfig, hone, hmap, hsync.append more, hsync'⟩
    refine (mapHelmStatus_paths
      (fun status => Wrote lib d (log ++ more) .helm ∧ SawHealth .helm (log ++ more) d.key status)
      d release _ fun cond hmem htype => ⟨hwrote, release, hsaw, cond, hmem, htype, rfl⟩).grows.bind ?_
    rintro d' _ ⟨hmapped, more', rfl, -⟩
    simp only [Prog.pure_eq, Prog.paths_ret, Except.ok.injEq]
    rintro _ rfl
    exact ⟨hwrote.append more', FluxStep.append hmapped more'⟩

theorem helmFlux_paths (d : Deployment) {resource : OCMResource}
    (hone : matchingResources .helm d = [resource]) (log : Log) :
    FluxPaths (fun d' log => FluxStep lib .helm d d' log) (helmFlux lib now resource d) log := by
  unfold helmFlux
  split
  · exact FluxMapped.refl d
  next chart hmap =>
  refine (helmRepositoryReconcile_paths d chart log).bind fun r log hr => ?_
  cases r with
  | error _ => exact FluxMapped.refl d
  | ok _ =>
    obtain ⟨secretRef, hsync⟩ := hr _ rfl
    refine (helmReleaseReconcile_paths hone hmap hsync).bind fun r log hr => ?_
    cases r with
    | error _ => exact FluxMapped.refl d
    | ok x => exact (hr x rfl).2

/-- The copy of the deployment after the source was reconciled. -/
abbrev fetched (now : ℕ) (d : Deployment) (cs : List (Condition FluxCondition)) : Deployment :=
  mapStatusConditions mapOCIRepositoryConditionType now d cs

theorem fluxStep_fetched (d : Deployment) (cs : List (Condition FluxCondition)) (log : Log) :
    FluxStep lib .kustomize d (fetched now d cs) log :=
  fluxMapped_mapStatusConditions now d _ (fun t u h => (ociRepository_target t u h).1)
    fun _ _ h => absurd rfl (ociRepository_target _ _ h).2

theorem ociRepositoryReconcile_paths (d : Deployment) (artifact : KustomizeResource) (log : Log) :
    FluxPaths (fun r log => ∀ x, r = .ok x → ∃ cs secretRef, x.2 = fetched now d cs ∧
        Synced log .ociRepository d.key (ociRepositorySpec d artifact secretRef))
      (ociRepositoryReconcile lib now d artifact) log := by
  refine (reconcileFlux_paths .ociRepository "OCIRepository" (withSecretRef_paths d
    artifact.repository "OCI Repository" (ociRepositorySpec d artifact)) log).bind fun r log hr => ?_
  cases r with
  | error cause => simp
  | ok o =>
    simp only [Prog.pure_eq, Prog.paths_ret, Except.ok.injEq]
    rintro _ rfl
    obtain ⟨-, spec, ⟨ref, rfl⟩, hsync⟩ := hr o rfl
    exact ⟨o.conditions, ref, rfl, hsync⟩

/-- The Kustomization is written for the copy that already has the source's conditions. -/
theorem kustomizationReconcile_paths {resource : OCMResource} {artifact : KustomizeResource}
    {secretRef : Option String} (hone : matchingResources .kustomize d = [resource])
    (hmap : toKustomize lib.parseReference resource = .ok artifact)
    (hsync : Synced log .ociRepository d.key (ociRepositorySpec d artifact secretRef))
    (cs : List (Condition FluxCondition)) :
    FluxPaths (fun r log => ∀ x, r = .ok x →
        Wrote lib d log .kustomize ∧ FluxStep lib .kustomize d x.2 log)
      (kustomizationReconcile lib now (fetched now d cs) artifact) log := by
  refine (reconcileFlux_paths .kustomization "Kustomization" (withKubeConfig_paths _
    (kustomizationSpec lib (fetched now d cs) artifact)) log).grows.bind ?_
  rintro r _ ⟨hr, more, rfl, -⟩
  cases r with
  | error cause => simp
  | ok o =>
    simp only [Prog.pure_eq, Prog.paths_ret, Except.ok.injEq]
    rintro _ rfl
    obtain ⟨hsaw, spec, ⟨kubeConfig, rfl⟩, hsync'⟩ := hr o rfl
    have hwrote : Wrote lib d (log ++ more) .kustomize :=
      ⟨resource, artifact, secretRef, kubeConfig, hone, hmap, hsync.append more, hsync'⟩
    refine ⟨hwrote, (fluxStep_fetched d cs _).trans (fluxMapped_mapStatusConditions now _ _
      (fun t u h => (kustomization_target t u h).1) fun cond hmem h => ?_)⟩
    exact ⟨hwrote, o, hsaw, cond, hmem, (kustomization_target _ _ h).2 rfl, rfl⟩

theorem kustomizeFlux_paths (d : Deployment) {resource : OCMResource}
    (hone : matchingResources .kustomize d = [resource]) (log : Log) :
    FluxPaths (fun d' log => FluxStep lib .kustomize d d' log)
      (kustomizeFlux lib now resource d) log := by
  unfold kustomizeFlux
  split
  · exact FluxMapped.refl d
  next artifact hmap =>
  refine (ociRepositoryReconcile_paths d artifact log).bind fun r log hr => ?_
  cases r with
  | error _ => exact FluxMapped.refl d
  | ok x =>
    obtain ⟨isReady, d₁⟩ := x
    obtain ⟨cs, secretRef, rfl, hsync⟩ := hr _ rfl
    dsimp only
    split
    · refine (kustomizationReconcile_paths hone hmap hsync cs).bind fun r log hr => ?_
      cases r with
      | error _ => exact fluxStep_fetched d cs log
      | ok x => exact (hr x rfl).2
    · exact fluxStep_fetched d cs log

theorem applyFlux_paths (c : Controller) (d : Deployment) (log : Log) :
    FluxPaths (fun d' log => FluxStep lib c d d' log) (applyFlux lib now c d) log := by
  unfold applyFlux
  split
  · next resource hone =>
    cases c with
    | helm => exact helmFlux_paths d hone log
    | kustomize => exact kustomizeFlux_paths d hone log
  · exact FluxMapped.refl d

-- ════════════════════════════════════════════════════════════════════════
-- The status updaters
-- ════════════════════════════════════════════════════════════════════════

theorem validateExposePorts_reason {services : List FluxDeployer.Service}
    {e : FluxDeployer.ExposureValidationError} (h : validateExposePorts services = some e) :
    e.reason = stalledReasonExposePortNotFound ∨
      e.reason = stalledReasonExposePortUnsupportedProtocol := by
  induction services with
  | nil => cases h
  | cons s services ih =>
    unfold validateExposePorts at h
    split at h
    · next e' he =>
      obtain rfl := Option.some.inj h
      unfold FluxDeployer.validateExposePort at he
      dsimp only at he
      split at he
      · cases he
      split at he
      · cases he
      split at he
      · obtain rfl := Option.some.inj he
        exact .inl rfl
      split at he
      · obtain rfl := Option.some.inj he
        exact .inr rfl
      · cases he
    · exact ih h

def failExposure (now : ℕ) (d : Deployment) (e : FluxDeployer.ExposureValidationError) : Deployment :=
  { d with toArtifactDeployment := setExposureValidationFailure now d.toArtifactDeployment e }

theorem failExposure_conditions (now : ℕ) (d : Deployment)
    (e : FluxDeployer.ExposureValidationError) :
    (failExposure now d e).conditions =
      setStatusCondition now (setStatusCondition now (setStatusCondition now d.conditions
        ⟨.deploymentResultCreated, .isFalse, .text e.reason, e.message, d.generation, some now⟩)
        ⟨.ready, .isFalse, .text e.reason, e.message, d.generation, some now⟩)
        ⟨.stalled, .isTrue, .text e.reason, e.message, d.generation, some now⟩ := rfl

def publishResults (now : ℕ) (d : Deployment) (results : List DeploymentResult) : Deployment :=
  { d with toArtifactDeployment := FluxDeployer.publish now d.toArtifactDeployment results }

/-- What the deployment-result updater makes of a deployment. -/
inductive Updated (now : ℕ) (d : Deployment) (log : Log) : Deployment → Prop
  | kept (hlog : ¬ Rejected log) : Updated now d log d
  | failed (e : FluxDeployer.ExposureValidationError)
      (hopen : hasExposureValidationFailure d.toArtifactDeployment = false)
      (hreason : e.reason = stalledReasonExposePortNotFound ∨
        e.reason = stalledReasonExposePortUnsupportedProtocol) :
      Updated now d log (failExposure now d e)
  | published (results : List DeploymentResult) (hlog : ¬ Rejected log)
      (hopen : hasExposureValidationFailure d.toArtifactDeployment = false) :
      Updated now d log (publishResults now d results)

abbrev InnerPaths {α : Type} (Q : α → Log → Prop) (p : Program α) (log : Log) : Prop :=
  p.Paths (fun op => op.isInner = true) Q log

/-- Services that are returned were listed, and nothing else was called. -/
theorem fetchExposableServices_paths (d : FluxDeployer.ArtifactDeployment) (log : Log) :
    InnerPaths (fun r log' => (∀ e, r = .error e → log' = log) ∧ ∀ services, r = .ok services →
        ∃ ns label value, log' = log ++ [⟨.services (.listServices ns label value), services⟩])
      (ofServices (FluxDeployer.fetchExposableServices d)) log := by
  unfold FluxDeployer.fetchExposableServices ofServices
  dsimp only
  split
  · exact ⟨fun _ _ => rfl, by simp⟩
  · refine ⟨rfl, fun services => ?_, fun e => ?_⟩
    · refine ⟨by simp, fun services' h => ?_⟩
      obtain rfl := Except.ok.inj h
      exact ⟨_, _, _, rfl⟩
    · exact ⟨fun _ _ => rfl, by simp⟩

theorem not_rejected_append_services (ns label value : String) {services : List FluxDeployer.Service}
    (h : ¬ Rejected log) (hv : validateExposePorts services = none) :
    ¬ Rejected (log ++ [⟨.services (.listServices ns label value), services⟩]) := by
  rintro ⟨ns', label', value', services', e, hmem, hv'⟩
  obtain hmem | hmem := List.mem_append.mp hmem
  · exact h ⟨ns', label', value', services', e, hmem, hv'⟩
  · cases List.mem_singleton.mp hmem
    rw [hv] at hv'
    cases hv'

theorem mutateStatus_paths (d : Deployment) {log : Log} (hlog : ¬ Rejected log) :
    InnerPaths (fun r log => (∀ e, r = .error e → Updated now d log d) ∧
        ∀ updated, r = .ok updated → Updated now d log { d with toArtifactDeployment := updated })
      (ofServices (FluxDeployer.mutateStatus lib.marshal now d.toArtifactDeployment)) log := by
  have kept {log : Log} (hlog : ¬ Rejected log) :
      ∀ updated, (Except.ok d.toArtifactDeployment : Except FluxDeployer.UpdateError _) = .ok updated →
        Updated now d log { d with toArtifactDeployment := updated } := by
    rintro _ ⟨⟩
    exact .kept hlog
  unfold FluxDeployer.mutateStatus ofServices
  cases hfail : hasExposureValidationFailure d.toArtifactDeployment with
  | true => exact ⟨by simp, kept hlog⟩
  | false =>
  cases hdep : isStatusConditionTrue d.conditions .artifactDeployed with
  | false => exact ⟨by simp, kept hlog⟩
  | true =>
  simp only [Bool.false_eq_true, if_false, Bool.not_true, Prog.embed_bind]
  refine (fetchExposableServices_paths d.toArtifactDeployment log).bind ?_
  rintro r log' ⟨herror, hok⟩
  cases r with
  | error e =>
    obtain rfl := herror e rfl
    exact ⟨fun _ _ => .kept hlog, by simp⟩
  | ok services =>
    obtain ⟨ns, label, value, rfl⟩ := hok services rfl
    dsimp only
    cases hv : validateExposePorts services with
    | some e =>
      refine ⟨by simp, ?_⟩
      rintro _ ⟨⟩
      exact .failed e hfail (validateExposePorts_reason hv)
    | none =>
      have hlog' := not_rejected_append_services ns label value hlog hv
      dsimp only
      cases FluxDeployer.mapServicesToDeploymentResults lib.marshal services with
      | error e => exact ⟨fun _ _ => .kept hlog', by simp⟩
      | ok results =>
        refine ⟨by simp, ?_⟩
        rintro _ ⟨⟩
        exact .published results hlog' hfail

theorem updateDeploymentResults_paths (d : Deployment) {log : Log} (hlog : ¬ Rejected log) :
    InnerPaths (fun d' log => Updated now d log d') (updateDeploymentResults lib now d) log := by
  refine (mutateStatus_paths d hlog).bind ?_
  rintro r log ⟨herror, hok⟩
  cases r with
  | error e => exact herror e rfl
  | ok updated => exact hok updated rfl

/-- What a reconcile that gets as far as the updaters wants to store. -/
def Advanced (lib : Libraries) (now : ℕ) (c : Controller) (d d' : Deployment) (log : Log) : Prop :=
  ∃ d₁ d₂, FluxStep lib c d d₁ log ∧ Updated now d₁ log d₂ ∧
    d' = ReadyConditionStatusUpdater.mutateStatus now d₂

theorem advance_paths (c : Controller) (d : Deployment) {log : Log} (hlog : ¬ Rejected log) :
    InnerPaths (fun d' log => Advanced lib now c d d' log) (advance lib now c d) log := by
  refine ((applyFlux_paths c d log).grows.mono Op.isInner_of_isFlux fun _ _ h => h).bind ?_
  rintro d₁ _ ⟨hflux, more, rfl, hmore⟩
  refine (updateDeploymentResults_paths d₁ (not_rejected_append hlog hmore)).grows.bind ?_
  rintro d₂ _ ⟨hupdated, more', rfl, -⟩
  exact ⟨d₁, d₂, hflux.append more', hupdated, rfl⟩

-- ════════════════════════════════════════════════════════════════════════
-- Stored objects
-- ════════════════════════════════════════════════════════════════════════

/-- What others do to an object: its status is kept, and another spec has another generation. -/
structure Deployment.Evolves (d d' : Deployment) : Prop where
  status : d'.status = d.status
  generation : d.generation ≤ d'.generation
  spec : d'.generation = d.generation → d'.spec = d.spec

theorem Deployment.Evolves.refl (d : Deployment) : d.Evolves d := ⟨rfl, le_rfl, fun _ => rfl⟩

theorem Deployment.Evolves.trans {d'' : Deployment} (h : d.Evolves d') (h' : d'.Evolves d'') :
    d.Evolves d'' where
  status := h'.status.trans h.status
  generation := h.generation.trans h'.generation
  spec heq := by
    have hle := h.generation
    have hle' := h'.generation
    exact (h'.spec (by omega)).trans (h.spec (by omega))

namespace Cluster

def Evolves (s t : Cluster) : Prop :=
  ∀ key, Option.Rel Deployment.Evolves (s.deployments key) (t.deployments key)

variable {s t u : Cluster}

theorem Evolves.refl (s : Cluster) : s.Evolves s := by
  intro key
  cases s.deployments key with
  | none => exact .none
  | some d => exact .some (.refl d)

theorem Evolves.forth (h : s.Evolves t) (hd : s.deployments key = some d) :
    ∃ d', t.deployments key = some d' ∧ d.Evolves d' := by
  have hkey := h key
  rw [hd] at hkey
  generalize t.deployments key = x at hkey
  cases hkey with
  | some hev => exact ⟨_, rfl, hev⟩

theorem Evolves.back (h : s.Evolves t) (hd : t.deployments key = some d') :
    ∃ d, s.deployments key = some d ∧ d.Evolves d' := by
  have hkey := h key
  rw [hd] at hkey
  generalize s.deployments key = x at hkey
  cases hkey with
  | some hev => exact ⟨_, rfl, hev⟩

theorem Evolves.trans (h : s.Evolves t) (h' : t.Evolves u) : s.Evolves u := by
  intro key
  have hkey := h key
  have hkey' := h' key
  generalize s.deployments key = x at hkey
  generalize t.deployments key = y at hkey hkey'
  cases hkey with
  | none => exact hkey'
  | some hev =>
    generalize u.deployments key = z at hkey'
    cases hkey' with
    | some hev' => exact .some (hev.trans hev')

theorem Evolves.of_eq (h : t.deployments = s.deployments) : s.Evolves t := by
  intro key
  rw [h]
  exact Evolves.refl s key

/-- One object is replaced by another form of it. -/
theorem Evolves.setDeployment (h : s.Evolves t) (req : NamespacedName) (hev : d.Evolves d') :
    (s.setDeployment req d).Evolves (t.setDeployment req d') := by
  intro key
  by_cases hk : key = req
  · subst hk
    simpa [Cluster.setDeployment] using Option.Rel.some hev
  · simpa [Cluster.setDeployment, Function.update_of_ne hk] using h key

theorem setDeployment_self (hd : s.deployments key = some d) : s.setDeployment key d = s := by
  simp [Cluster.setDeployment, ← hd]

theorem evolves_apply (change : Change) (s : Cluster) : s.Evolves (change.apply s) := by
  cases change with
  | setSpec key spec =>
    simp only [Change.apply]
    cases hd : s.deployments key with
    | none => exact .refl s
    | some d =>
      have hev : d.Evolves { d with spec := spec, generation := d.generation + 1 } :=
        ⟨rfl, Nat.le_succ _, fun heq => absurd heq (Nat.succ_ne_self _)⟩
      have h := (Evolves.refl s).setDeployment key hev
      rwa [setDeployment_self hd] at h
  | setMetadata key labels annotations =>
    simp only [Change.apply]
    cases hd : s.deployments key with
    | none => exact .refl s
    | some d =>
      have hev : d.Evolves { d with labels := labels, annotations := annotations } :=
        ⟨rfl, le_rfl, fun _ => rfl⟩
      have h := (Evolves.refl s).setDeployment key hev
      rwa [setDeployment_self hd] at h
  | setWorld world => exact .of_eq rfl

theorem evolves_changes (changes : List Change) (s : Cluster) :
    s.Evolves (changes.foldl (fun s c => c.apply s) s) := by
  induction changes generalizing s with
  | nil => exact .refl s
  | cons change changes ih => exact (evolves_apply change s).trans (ih _)

end Cluster

theorem exec_inner {op : Op} (h : op.isInner = true) (s : Cluster) :
    (exec op s).2.deployments = s.deployments := by
  have heffect := exec_effect op s
  generalize (exec op s).2 = t at heffect
  cases heffect with
  | patchStatus before after hd => cases h
  | _ => rfl

-- ════════════════════════════════════════════════════════════════════════
-- Whole reconciles
-- ════════════════════════════════════════════════════════════════════════

/-- What a reconcile wants to store. -/
def Attempted (lib : Libraries) (now : ℕ) (c : Controller) (d d' : Deployment) (log : Log) : Prop :=
  (1 < (matchingResources c d).length ∧ ¬ Rejected log ∧ d' = multipleResources now c d) ∨
    Advanced lib now c d d' log

theorem Updated.same (h : Updated now d log d') :
    d' = { d with conditions := d'.conditions, deploymentResults := d'.deploymentResults } := by
  cases h with
  | _ => rfl

theorem ReadyConditionStatusUpdater.mutateStatus_same (now : ℕ) (d : Deployment) :
    mutateStatus now d = { d with conditions := (mutateStatus now d).conditions } := by
  unfold mutateStatus
  split
  · rfl
  · split <;> rfl

/-- Only the status differs. -/
theorem Attempted.same (h : Attempted lib now c d d' log) :
    d' = { d with conditions := d'.conditions, deploymentResults := d'.deploymentResults } := by
  obtain ⟨-, -, rfl⟩ | ⟨d₁, d₂, hflux, hupdated, rfl⟩ := h
  · rfl
  · rw [ReadyConditionStatusUpdater.mutateStatus_same, hupdated.same, hflux.same]

/-- How a reconcile of `req` ends that started in `s`. -/
inductive Outcome (lib : Libraries) (now : ℕ) (c : Controller) (req : NamespacedName) (s : Cluster) :
    Cluster → Log → Prop
  | unpatched {t : Cluster} {log : Log} (hlog : ¬ Patched log req) (hev : s.Evolves t) :
      Outcome lib now c req s t log
  | patched {t : Cluster} {log before : Log} {d d' answer : Deployment}
      (hlog : log = before ++ [⟨.patchStatus req d.status d'.status, answer⟩])
      (hd : s.deployments req = some d) (htype : d.spec.artifactType = c.artifactType)
      (ha : Attempted lib now c d d' before) (hev : (s.setDeployment req d').Evolves t) :
      Outcome lib now c req s t log

variable {changes : ℕ → List Change} {req : NamespacedName} {s : Cluster}

theorem Deployment.patch_evolves {d₁ : Deployment} (hev : d.Evolves d₁)
    (hsame : d' = { d with conditions := d'.conditions, deploymentResults := d'.deploymentResults }) :
    d'.Evolves (d₁.patch d.status d'.status) where
  status := by
    have hst := hev.status
    simp only [Deployment.status, Status.mk.injEq] at hst
    simp only [Deployment.status, Deployment.patch, hst.1, hst.2]
    congr 1
    · split
      · next h => exact h
      · rfl
    · split
      · next h => exact h
      · rfl
  generation := by
    rw [hsame]
    exact hev.generation
  spec heq := by
    rw [hsame] at heq ⊢
    exact hev.spec heq

theorem patchIfChanged_ensures {x : (Cluster × ℕ) × Log} (hd : s.deployments req = some d)
    (htype : d.spec.artifactType = c.artifactType) (ha : Attempted lib now c d d' x.2)
    (hlog : ¬ Patched x.2 req) (hev : s.Evolves x.1.1) :
    (patchIfChanged req d d').Ensures (server changes)
      (fun _ y => Outcome lib now c req s y.1.1 y.2) x := by
  unfold patchIfChanged
  split
  · exact .unpatched hlog hev
  · refine Prog.ensures_perform_bind.mpr ⟨?_, fun msg => .unpatched hlog hev⟩
    obtain ⟨d₁, hd₁, hev₁⟩ := hev.forth hd
    have hstored : (s.setDeployment req d').Evolves
        (x.1.1.setDeployment req (d₁.patch d.status d'.status)) :=
      hev.setDeployment req (Deployment.patch_evolves hev₁ ha.same)
    simp only [server, disturbed, Exec.logged, Exec.amid, exec, hd₁]
    exact .patched rfl hd htype ha (hstored.trans (Cluster.evolves_changes _ _))

theorem reconcile_ensures (lib : Libraries) (now : ℕ) (c : Controller) (req : NamespacedName)
    (changes : ℕ → List Change) (s : Cluster) :
    (reconcile lib now c req).Ensures (server changes)
      (fun _ y => Outcome lib now c req s y.1.1 y.2) ((s, 0), []) := by
  have hempty : ¬ Patched [] req := by
    rintro ⟨before, after, answer, hmem⟩
    cases hmem
  refine Prog.ensures_perform_bind.mpr ⟨?_, fun msg => ?_⟩
  · cases hd : s.deployments req with
    | none =>
      simp only [server, disturbed, Exec.logged, Exec.amid, exec, hd, ApiError.isNotFound, notFound, if_true]
      exact .unpatched hempty (Cluster.evolves_changes _ _)
    | some d =>
      simp only [server, disturbed, Exec.logged, Exec.amid, exec, hd, List.nil_append, zero_add]
      have hev : s.Evolves ((changes 0).foldl (fun s c => c.apply s) s) := Cluster.evolves_changes _ _
      have hlog : ∀ more : Log, (∀ e ∈ more, e.op.isInner = true) →
          ¬ Patched ([⟨.getDeployment req, d⟩] ++ more) req := by
        rintro more hmore ⟨before, after, answer, hmem⟩
        obtain hmem | hmem := List.mem_cons.mp hmem
        · cases hmem
        · cases hmore _ hmem
      have hrej : ¬ Rejected [⟨.getDeployment req, d⟩] := by
        rintro ⟨ns, label, value, services, e, hmem, -⟩
        cases List.mem_singleton.mp hmem
      split
      · exact .unpatched (hlog [] (by simp)) hev
      next htype =>
      have htype : d.spec.artifactType = c.artifactType := not_not.mp htype
      split
      · next hmany =>
        have ha : Attempted lib now c d (multipleResources now c d) [⟨.getDeployment req, d⟩] :=
          .inl ⟨hmany, hrej, rfl⟩
        refine (patchIfChanged_ensures hd htype ha (hlog [] (by simp)) hev).bind fun r y hy => ?_
        cases r <;> exact hy
      · have hadvance : InnerPaths (fun d' log => Advanced lib now c d d' log) (advance lib now c d)
            [⟨.getDeployment req, d⟩] := advance_paths c d hrej
        have hinv : ∀ (op : Op) (x : Cluster × ℕ), op.isInner = true → s.Evolves x.1 →
            s.Evolves (disturbed changes op x).2.1 := by
          intro op x hop hx
          exact (hx.trans (.of_eq (exec_inner hop x.1))).trans (Cluster.evolves_changes _ _)
        refine Prog.Ensures.bind (hadvance.grows.ensures hinv hev) ?_
        rintro d' y ⟨⟨ha, more, hy, hmore⟩, hev⟩
        refine (patchIfChanged_ensures hd htype (.inr ha) (hy ▸ hlog more hmore) hev).bind
          fun r z hz => ?_
        cases r <;> exact hz
  · exact .unpatched hempty (.refl s)

/-- A whole reconcile: the status of its object is patched once or not at all. -/
theorem round_cases (lib : Libraries) (c : Controller) (req : NamespacedName) (env : Circumstances)
    (s : Cluster) :
    Outcome lib env.now c req s (round lib c req env s).cluster (round lib c req env s).log :=
  Prog.ensures_iff_run.mp (reconcile_ensures lib env.now c req env.changes s) env.faults

end LandscapeOrchestrator.ArtifactDeploymentController
