import LandscapeOrchestrator.Apilib.Calm
import LandscapeOrchestrator.ArtifactDeploymentController.Rounds

/-!
# A reconcile that nothing disturbs

Such a reconcile is a function of the cluster. The status it stores depends on the Flux
objects only through the conditions that are copied, so a pass over the Flux objects is
described by what they tell.

## Main definitions

- `World.Distinct` — Flux reports each condition once
- `Passed` — one pass over the Flux objects, and what they tell
- `follow` — the status that follows from it
-/

namespace LandscapeOrchestrator.ArtifactDeploymentController
open Apilib
open FluxDeployer (DeploymentCondition OCMResource HelmChartResource KustomizeResource toHelm
  toKustomize hasExposureValidationFailure validateExposePorts mapServicesToDeploymentResults)

/-- Flux reports each condition once. -/
def World.Distinct (w : World) : Prop :=
  ∀ k key (o : FluxObject k), w.flux k key = some o → (o.conditions.map Condition.type).Nodup

def Deployment.withStatus (d : Deployment) (st : Status) : Deployment :=
  { d with conditions := st.conditions, deploymentResults := st.deploymentResults }

variable {lib : Libraries} {now : ℕ} {c : Controller} {d : Deployment} {s t u : Cluster} {k : Kind}
  {key : NamespacedName}

section Reports

/-- A Flux condition as it is copied; the time is filled in when it is set. -/
def reported (mapType : FluxCondition → Option DeploymentCondition) (generation : ℕ)
    (c : Condition FluxCondition) : Option (Condition DeploymentCondition) :=
  (mapType c.type).map fun type => ⟨type, c.status, fluxReason c.reason, c.message, generation, none⟩

def Deployment.told (now : ℕ) (d : Deployment) (rs : List (Condition DeploymentCondition)) :
    Deployment :=
  { d with conditions := rs.foldl (setStatusCondition now) d.conditions }

variable {mapType : FluxCondition → Option DeploymentCondition} {generation : ℕ}

theorem setStatusCondition_now (now : ℕ) (cs : List (Condition DeploymentCondition))
    (new : Condition DeploymentCondition) :
    setStatusCondition now cs { new with lastTransitionTime := some now } =
      setStatusCondition now cs { new with lastTransitionTime := none } := by
  induction cs with
  | nil => rfl
  | cons c cs ih =>
    simp only [setStatusCondition, Option.getD_some, Option.getD_none]
    rw [ih]

theorem mapCondition_eq (cs : List (Condition DeploymentCondition)) (c : Condition FluxCondition) :
    mapCondition mapType now generation cs c =
      (reported mapType generation c).toList.foldl (setStatusCondition now) cs := by
  unfold mapCondition reported
  cases mapType c.type with
  | none => rfl
  | some type =>
    exact setStatusCondition_now now cs
      ⟨type, c.status, fluxReason c.reason, c.message, generation, none⟩

theorem mapStatusConditions_eq (d : Deployment) (cs : List (Condition FluxCondition)) :
    mapStatusConditions mapType now d cs =
      d.told now (cs.filterMap (reported mapType d.generation)) := by
  have hfold (conditions : List (Condition DeploymentCondition)) :
      cs.foldl (mapCondition mapType now d.generation) conditions =
        (cs.filterMap (reported mapType d.generation)).foldl (setStatusCondition now) conditions := by
    induction cs generalizing conditions with
    | nil => rfl
    | cons c cs ih =>
      rw [List.foldl_cons, ih, mapCondition_eq]
      cases hc : reported mapType d.generation c with
      | none => simp [hc]
      | some r => simp [hc]
  simp [mapStatusConditions, Deployment.told, hfold]

@[simp] theorem told_generation (d : Deployment) (rs : List (Condition DeploymentCondition)) :
    (d.told now rs).generation = d.generation := rfl

theorem told_append (d : Deployment) (rs rs' : List (Condition DeploymentCondition)) :
    (d.told now rs).told now rs' = d.told now (rs ++ rs') := by
  simp [Deployment.told]

/-- What is on record is told in vain. -/
theorem told_eq_of_said {rs : List (Condition DeploymentCondition)}
    (h : ∀ r ∈ rs, Says d.conditions r) : d.told now rs = d := by
  rw [Deployment.told, setAll_eq_of_said h]

/-- Conditions are copied one to one, to these types. -/
structure CopiesTo (targets : List DeploymentCondition)
    (mapType : FluxCondition → Option DeploymentCondition) : Prop where
  target : ∀ t u, mapType t = some u → u ∈ targets
  injective : ∀ t t' u, mapType t = some u → mapType t' = some u → t = t'

theorem CopiesTo.reports {targets : List DeploymentCondition} (h : CopiesTo targets mapType)
    (generation : ℕ) {cs : List (Condition FluxCondition)} (hcs : (cs.map Condition.type).Nodup) :
    ((cs.filterMap (reported mapType generation)).map Condition.type).Nodup ∧
      ∀ r ∈ cs.filterMap (reported mapType generation), r.type ∈ targets := by
  have htypes : (cs.filterMap (reported mapType generation)).map Condition.type =
      (cs.map Condition.type).filterMap mapType := by
    rw [List.map_filterMap, List.filterMap_map]
    congr 1
    funext c
    cases hc : mapType c.type <;> simp [reported, hc]
  rw [htypes]
  refine ⟨hcs.filterMap fun t t' u ht ht' => h.injective t t' u ht ht', fun r hr => ?_⟩
  obtain ⟨c, -, hc⟩ := List.mem_filterMap.mp hr
  obtain ⟨type, htype, rfl⟩ := Option.map_eq_some_iff.mp hc
  exact h.target c.type type htype

/-- What a source and a release tell: the release counts once the source is ready. -/
def reports (mapSource mapRelease : FluxCondition → Option DeploymentCondition) (generation : ℕ)
    (source release : List (Condition FluxCondition)) : List (Condition DeploymentCondition) :=
  source.filterMap (reported mapSource generation) ++
    if isStatusConditionTrue source .ready then release.filterMap (reported mapRelease generation)
    else []

/-- A source and a release tell different things. -/
theorem reports_spec {mapSource mapRelease : FluxCondition → Option DeploymentCondition}
    (hsource : CopiesTo [artifactFetched] mapSource)
    (hrelease : CopiesTo [.artifactDeployed, .appHealthy] mapRelease) (generation : ℕ)
    {source release : List (Condition FluxCondition)} (hs : (source.map Condition.type).Nodup)
    (hr : (release.map Condition.type).Nodup) :
    ((reports mapSource mapRelease generation source release).map Condition.type).Nodup ∧
      ∀ r ∈ reports mapSource mapRelease generation source release,
        isFluxCondition r.type = true := by
  obtain ⟨hnodup, htypes⟩ := hsource.reports generation hs
  obtain ⟨hnodup', htypes'⟩ := hrelease.reports generation hr
  have hfetched : ∀ r ∈ source.filterMap (reported mapSource generation), r.type = artifactFetched :=
    fun r hmem => List.mem_singleton.mp (htypes r hmem)
  have hreleased : ∀ r ∈ release.filterMap (reported mapRelease generation),
      r.type = .artifactDeployed ∨ r.type = .appHealthy :=
    fun r hmem => by simpa using htypes' r hmem
  unfold reports
  split
  · refine ⟨?_, fun r hmem => ?_⟩
    · rw [List.map_append, List.nodup_append]
      refine ⟨hnodup, hnodup', fun t ht t' ht' heq => ?_⟩
      obtain ⟨r, hmem, rfl⟩ := List.mem_map.mp ht
      obtain ⟨r', hmem', rfl⟩ := List.mem_map.mp ht'
      rw [hfetched r hmem] at heq
      obtain h | h := hreleased r' hmem' <;> simp [h, artifactFetched] at heq
    · obtain hmem | hmem := List.mem_append.mp hmem
      · simp [isFluxCondition, hfetched r hmem]
      · obtain h | h := hreleased r hmem <;> simp [isFluxCondition, h]
  · rw [List.append_nil]
    exact ⟨hnodup, fun r hmem => by simp [isFluxCondition, hfetched r hmem]⟩

theorem helmChart_copiesTo : CopiesTo [artifactFetched] mapHelmChartConditionType where
  target t u h := by cases t <;> simp_all [mapHelmChartConditionType]
  injective t t' u h h' := by cases t <;> cases t' <;> simp_all [mapHelmChartConditionType]

theorem ociRepository_copiesTo : CopiesTo [artifactFetched] mapOCIRepositoryConditionType where
  target t u h := by cases t <;> simp_all [mapOCIRepositoryConditionType]
  injective t t' u h h' := by cases t <;> cases t' <;> simp_all [mapOCIRepositoryConditionType]

theorem helmRelease_copiesTo :
    CopiesTo [.artifactDeployed, .appHealthy] mapHelmReleaseConditionType where
  target t u h := by cases t <;> simp_all [mapHelmReleaseConditionType]
  injective t t' u h h' := by
    cases t <;> cases t' <;> simp_all [mapHelmReleaseConditionType] <;> grind

theorem kustomization_copiesTo :
    CopiesTo [.artifactDeployed, .appHealthy] mapKustomizationConditionType where
  target t u h := by cases t <;> simp_all [mapKustomizationConditionType]
  injective t t' u h h' := by
    cases t <;> cases t' <;> simp_all [mapKustomizationConditionType] <;> grind

end Reports

section Writes

def Op.isLookup : Op → Bool
  | .findReadyTarget _ _ | .getSecretByConfigMap _ _ | .getSecret _ => true
  | _ => false

/-- The lookups find the same. -/
structure SameLookups (s t : Cluster) : Prop where
  readyTarget : t.world.readyTarget = s.world.readyTarget
  secretByConfigMap : t.world.secretByConfigMap = s.world.secretByConfigMap
  secrets : t.world.secrets = s.world.secrets

theorem SameLookups.trans (h : SameLookups s t) (h' : SameLookups t u) : SameLookups s u :=
  ⟨h'.1.trans h.1, h'.2.trans h.2, h'.3.trans h.3⟩

theorem SameLookups.setFlux (h : SameLookups s t) (o : FluxObject k) :
    SameLookups s (t.setFlux k key o) := ⟨h.1, h.2, h.3⟩

theorem SameLookups.of_world (h : SameLookups s t) (heq : u.world = t.world) : SameLookups s u :=
  ⟨by rw [heq, h.1], by rw [heq, h.2], by rw [heq, h.3]⟩

theorem exec_lookup {op : Op} (h : op.isLookup = true) (s : Cluster) : (exec op s).2 = s := by
  cases op with
  | findReadyTarget ns type => rfl
  | getSecretByConfigMap configMap domain => rfl
  | getSecret key =>
    simp only [exec]
    split <;> rfl
  | _ => cases h

theorem SameLookups.answer (h : SameLookups s t) {op : Op} (hop : op.isLookup = true) :
    (exec op t).1 = (exec op s).1 := by
  cases op with
  | findReadyTarget ns type => simp [exec, h.readyTarget]
  | getSecretByConfigMap configMap domain => simp [exec, h.secretByConfigMap]
  | getSecret key =>
    simp only [exec, h.secrets]
    split <;> rfl
  | _ => cases hop

/-- What is looked up decides about a spec. -/
theorem SameLookups.calm {α : Type} {p : Program α} (h : SameLookups s t)
    (hp : p.Uses fun op => op.isLookup = true) : p.calm exec t = ((p.calm exec s).1, t) :=
  hp.calm_eq (fun _ hop u => exec_lookup hop u) fun _ hop => h.answer hop

theorem getSecretRef_uses (repository : String) :
    (getSecretRef lib d repository).Uses fun op => op.isLookup = true := by
  unfold getSecretRef
  split
  · trivial
  split
  · trivial
  split
  · trivial
  refine .perform_bind rfl fun r => ?_
  split
  · trivial
  split
  · trivial
  refine .perform_bind rfl fun r => ?_
  split
  · trivial
  · split <;> trivial

theorem withSecretRef_uses {σ : Type} (repository kindName : String) (spec : Option String → σ) :
    (withSecretRef lib d repository kindName spec).Uses fun op => op.isLookup = true := by
  refine (getSecretRef_uses repository).bind fun r => ?_
  cases r <;> trivial

theorem withKubeConfig_uses {σ : Type} (spec : Option String → σ) :
    (withKubeConfig d spec).Uses fun op => op.isLookup = true := by
  have hget : (getKubeConfigRef d.ns d.spec.artifactType).Uses fun op => op.isLookup = true := by
    refine .perform_bind rfl fun r => ?_
    cases r <;> trivial
  refine hget.bind fun r => ?_
  cases r <;> trivial

@[simp] theorem flux_setFlux (s : Cluster) (o : FluxObject k) :
    (s.setFlux k key o).world.flux k key = some o := by
  simp [Cluster.setFlux, World.setFlux]

theorem flux_setFlux_of_ne {k' : Kind} (h : k' ≠ k) (s : Cluster) (o : FluxObject k) :
    (s.setFlux k key o).world.flux k' = s.world.flux k' := by
  simp [Cluster.setFlux, World.setFlux, Function.update_of_ne h]

theorem World.Distinct.setFlux (h : s.world.Distinct) {o : FluxObject k}
    (ho : (o.conditions.map Condition.type).Nodup) : (s.setFlux k key o).world.Distinct := by
  intro k' key' o' ho'
  by_cases hk : k' = k
  · subst hk
    by_cases hkey : key' = key
    · subst hkey
      rw [flux_setFlux] at ho'
      exact Option.some.inj ho' ▸ ho
    · rw [show (s.setFlux k' key o).world.flux k' key' = s.world.flux k' key' by
        simp [Cluster.setFlux, World.setFlux, Function.update_of_ne hkey]] at ho'
      exact h k' key' o' ho'
  · rw [flux_setFlux_of_ne hk] at ho'
    exact h k' key' o' ho'

/-- What a write leaves behind: at most the object of this kind and name is new, an object
that is returned is stored, and the same write then finds it done. -/
structure Written (k : Kind) (key : NamespacedName) (p : Program (Except String (FluxObject k)))
    (s : Cluster) (r : Except String (FluxObject k)) (t : Cluster) : Prop where
  run : p.calm exec s = (r, t)
  frame : t = s ∨ ∃ o, t = s.setFlux k key o
  distinct : s.world.Distinct → t.world.Distinct
  stored : ∀ o, r = .ok o → t.world.flux k key = some o
  conditions : ∀ o o', r = .ok o → s.world.flux k key = some o' → o.conditions = o'.conditions
  again : ∀ u, SameLookups s u → u.world.flux k key = t.world.flux k key → p.calm exec u = (r, u)

/-- Where there is no object of this name, one is created. -/
theorem createOrUpdate_calm_none {mutate : Program (Except String k.Spec)}
    (hm : mutate.Uses fun op => op.isLookup = true) (h : s.world.flux k key = none) :
    (createOrUpdate k key mutate).calm exec s = match (mutate.calm exec s).1 with
      | .error cause => (.error cause, s)
      | .ok spec => (.ok ⟨1, spec, []⟩, s.setFlux k key ⟨1, spec, []⟩) := by
  have hself : mutate.calm exec s = ((mutate.calm exec s).1, s) :=
    SameLookups.calm ⟨rfl, rfl, rfl⟩ hm
  unfold createOrUpdate getFlux
  simp only [Prog.calm_perform_bind, exec, h, notFound, ApiError.isNotFound, if_true]
  rw [Prog.calm_bind, hself]
  cases (mutate.calm exec s).1 with
  | error cause => rfl
  | ok spec =>
    dsimp only
    unfold createFlux
    simp only [Prog.calm_perform_bind, exec, h]
    rfl

/-- An object of this name is updated unless it has the wanted spec. -/
theorem createOrUpdate_calm_some {mutate : Program (Except String k.Spec)} {o : FluxObject k}
    (hm : mutate.Uses fun op => op.isLookup = true) (h : s.world.flux k key = some o) :
    (createOrUpdate k key mutate).calm exec s = match (mutate.calm exec s).1 with
      | .error cause => (.error cause, s)
      | .ok spec => if spec = o.spec then (.ok o, s)
        else (.ok ⟨o.resourceVersion + 1, spec, o.conditions⟩,
          s.setFlux k key ⟨o.resourceVersion + 1, spec, o.conditions⟩) := by
  have hself : mutate.calm exec s = ((mutate.calm exec s).1, s) :=
    SameLookups.calm ⟨rfl, rfl, rfl⟩ hm
  unfold createOrUpdate getFlux
  simp only [Prog.calm_perform_bind, exec, h]
  rw [Prog.calm_bind, hself]
  cases (mutate.calm exec s).1 with
  | error cause => rfl
  | ok spec =>
    dsimp only
    split
    · rfl
    · unfold updateFlux
      simp only [Prog.calm_perform_bind, exec, h, if_true]
      rfl

theorem createOrUpdate_written {mutate : Program (Except String k.Spec)}
    (hm : mutate.Uses fun op => op.isLookup = true) (s : Cluster) :
    ∃ r t, Written k key (createOrUpdate k key mutate) s r t := by
  -- The spec is the same when it is made again.
  have hspec {u : Cluster} (hu : SameLookups s u) :
      (mutate.calm exec u).1 = (mutate.calm exec s).1 := by rw [hu.calm hm]
  cases hstored : s.world.flux k key with
  | none =>
    have hrun := createOrUpdate_calm_none hm hstored
    cases hmade : (mutate.calm exec s).1 with
    | error cause =>
      refine ⟨.error cause, s, by rw [hrun, hmade], .inl rfl, id, by simp, by simp,
        fun u hu hsame => ?_⟩
      rw [createOrUpdate_calm_none hm (hsame.trans hstored), hspec hu, hmade]
    | ok spec =>
      rw [hmade] at hrun
      refine ⟨_, _, hrun, .inr ⟨_, rfl⟩, fun h => h.setFlux List.nodup_nil, ?_, by simp [hstored],
        fun u hu hsame => ?_⟩
      · rintro _ ⟨⟩
        exact flux_setFlux _ _
      · rw [createOrUpdate_calm_some hm (hsame.trans (flux_setFlux _ _)), hspec hu, hmade]
        simp
  | some o =>
    have hrun := createOrUpdate_calm_some hm hstored
    cases hmade : (mutate.calm exec s).1 with
    | error cause =>
      refine ⟨.error cause, s, by rw [hrun, hmade], .inl rfl, id, by simp, by simp,
        fun u hu hsame => ?_⟩
      rw [createOrUpdate_calm_some hm (hsame.trans hstored), hspec hu, hmade]
    | ok spec =>
      rw [hmade] at hrun
      dsimp only at hrun
      by_cases hsame : spec = o.spec
      · rw [if_pos hsame] at hrun
        refine ⟨_, _, hrun, .inl rfl, id, ?_, ?_, fun u hu hflux => ?_⟩
        · rintro _ ⟨⟩
          exact hstored
        · rintro _ o' ⟨⟩ ho'
          rw [Option.some.inj (hstored.symm.trans ho')]
        · rw [createOrUpdate_calm_some hm (hflux.trans hstored), hspec hu, hmade]
          simp [hsame]
      · rw [if_neg hsame] at hrun
        refine ⟨_, _, hrun, .inr ⟨_, rfl⟩, fun h => h.setFlux (h k key o hstored), ?_, ?_,
          fun u hu hflux => ?_⟩
        · rintro _ ⟨⟩
          exact flux_setFlux _ _
        · rintro _ o' ⟨⟩ ho'
          rw [Option.some.inj (hstored.symm.trans ho')]
        · rw [createOrUpdate_calm_some hm (hflux.trans (flux_setFlux _ _)), hspec hu, hmade]
          simp

theorem reconcileFlux_written {mutate : Program (Except String k.Spec)} (kindName : String)
    (hm : mutate.Uses fun op => op.isLookup = true) (s : Cluster) :
    ∃ r t, Written k d.key (reconcileFlux k kindName d mutate) s r t := by
  obtain ⟨r, t, h⟩ : ∃ r t, Written k d.key (createOrUpdate k d.key mutate) s r t :=
    createOrUpdate_written hm s
  have hrun {u v : Cluster} (hu : (createOrUpdate k d.key mutate).calm exec u = (r, v)) :
      (reconcileFlux k kindName d mutate).calm exec u =
        (r.mapError fun cause => "failed to reconcile " ++ kindName ++ ": " ++ cause, v) := by
    unfold reconcileFlux
    rw [Prog.calm_bind, hu]
    cases r <;> rfl
  have hok {o : FluxObject k}
      (ho : (r.mapError fun cause => "failed to reconcile " ++ kindName ++ ": " ++ cause) = .ok o) :
      r = .ok o := by
    cases r with
    | error cause => cases ho
    | ok o' => cases ho; rfl
  exact ⟨_, t, hrun h.run, h.frame, h.distinct, fun o ho => h.stored o (hok ho),
    fun o o' ho => h.conditions o o' (hok ho), fun u hu hflux => hrun (h.again u hu hflux)⟩

/-- Whatever else is written, the object can be found again. -/
theorem Written.lookups {p : Program (Except String (FluxObject k))}
    {r : Except String (FluxObject k)} (h : Written k key p s r t) : SameLookups s t := by
  obtain rfl | ⟨o, rfl⟩ := h.frame <;> exact ⟨rfl, rfl, rfl⟩

theorem Written.flux_of_ne {p : Program (Except String (FluxObject k))}
    {r : Except String (FluxObject k)} (h : Written k key p s r t) (k' : Kind) (hk : k' ≠ k) :
    t.world.flux k' = s.world.flux k' := by
  obtain rfl | ⟨o, rfl⟩ := h.frame
  · rfl
  · exact flux_setFlux_of_ne hk _ _

theorem Written.deployments {p : Program (Except String (FluxObject k))}
    {r : Except String (FluxObject k)} (h : Written k key p s r t) :
    t.deployments = s.deployments := by
  obtain rfl | ⟨o, rfl⟩ := h.frame <;> rfl

theorem Written.services {p : Program (Except String (FluxObject k))}
    {r : Except String (FluxObject k)} (h : Written k key p s r t) :
    t.world.services = s.world.services := by
  obtain rfl | ⟨o, rfl⟩ := h.frame <;> rfl

end Writes

section Flux

/-- The pass over the Flux objects of `d` leads from `s` to `t`. From there it needs no
write and tells the same, whatever the status of `d` is. -/
structure Passed (flux : ℕ → Deployment → Program Deployment) (d : Deployment) (s : Cluster)
    (rs : List (Condition DeploymentCondition)) (t : Cluster) : Prop where
  run : ∀ now, (flux now d).calm exec s = (d.told now rs, t)
  deployments : t.deployments = s.deployments
  services : t.world.services = s.world.services
  nodup : (rs.map Condition.type).Nodup
  isFlux : ∀ r ∈ rs, isFluxCondition r.type = true
  again : ∀ now st u, u.world = t.world →
    (flux now (d.withStatus st)).calm exec u = ((d.withStatus st).told now rs, u)

theorem Passed.nothing {flux : ℕ → Deployment → Program Deployment}
    (run : ∀ now, (flux now d).calm exec s = (d, t)) (deployments : t.deployments = s.deployments)
    (services : t.world.services = s.world.services)
    (again : ∀ now st u, u.world = t.world →
      (flux now (d.withStatus st)).calm exec u = (d.withStatus st, u)) : Passed flux d s [] t :=
  ⟨run, deployments, services, List.nodup_nil, by simp, again⟩

section Helm

variable {resource : OCMResource} {chart : HelmChartResource}

def helmChartKey (d : Deployment) : NamespacedName := ⟨d.ns, d.ns ++ "-" ++ d.name⟩

/-- A chart that is not there reports nothing. -/
def World.chartConditions (w : World) (d : Deployment) : List (Condition FluxCondition) :=
  ((w.flux .helmChart (helmChartKey d)).map FluxObject.conditions).getD []

def helmReports (w : World) (d : Deployment) (release : FluxObject .helmRelease) :
    List (Condition DeploymentCondition) :=
  reports mapHelmChartConditionType mapHelmReleaseConditionType d.generation (w.chartConditions d)
    release.conditions

theorem mapHelmStatus_calm (d : Deployment) (release : FluxObject .helmRelease) (s : Cluster) :
    (mapHelmStatus now d release).calm exec s = (d.told now (helmReports s.world d release), s) := by
  unfold mapHelmStatus getHelmChart getFlux helmReports World.chartConditions helmChartKey
  rw [Prog.calm_bind, Prog.calm_perform_bind]
  cases hchart : s.world.flux .helmChart ⟨d.ns, d.ns ++ "-" ++ d.name⟩ with
  | none =>
    simp only [exec, hchart, Prog.pure_eq, Prog.calm_ret]
    rfl
  | some chart =>
    simp only [exec, hchart, Prog.pure_eq, Prog.calm_ret, reports, Option.map_some, Option.getD_some]
    split
    · simp only [mapStatusConditions_eq, Prog.calm_ret, told_append]
      rfl
    · simp only [mapStatusConditions_eq, Prog.calm_ret, List.append_nil]

theorem helmReports_spec {w : World} (hw : w.Distinct) (d : Deployment)
    {release : FluxObject .helmRelease} (hrelease : w.flux .helmRelease d.key = some release) :
    ((helmReports w d release).map Condition.type).Nodup ∧
      ∀ r ∈ helmReports w d release, isFluxCondition r.type = true := by
  refine reports_spec helmChart_copiesTo helmRelease_copiesTo d.generation ?_
    (hw _ _ release hrelease)
  unfold World.chartConditions
  cases hstored : w.flux .helmChart (helmChartKey d) with
  | none => exact List.nodup_nil
  | some o => exact hw _ _ o hstored

/-- The two writes of the Helm controller. -/
abbrev writeHelmRepository (lib : Libraries) (d : Deployment) (chart : HelmChartResource) :
    Program (Except String (FluxObject .helmRepository)) :=
  reconcileFlux .helmRepository "HelmRepository" d (mutateHelmRepository lib d chart)

abbrev writeHelmRelease (d : Deployment) (chart : HelmChartResource) :
    Program (Except String (FluxObject .helmRelease)) :=
  reconcileFlux .helmRelease "HelmRelease" d (mutateHelmRelease d chart)

theorem helmFlux_calm_unwritten (hmap : toHelm lib.parseReference resource = .ok chart)
    {cause : String} (h : (writeHelmRepository lib d chart).calm exec s = (.error cause, t)) :
    (helmFlux lib now resource d).calm exec s = (d, t) := by
  simp [helmFlux, hmap, helmRepositoryReconcile, Prog.calm_bind, h]

theorem helmFlux_calm_written (hmap : toHelm lib.parseReference resource = .ok chart)
    {o : FluxObject .helmRepository} {r : Except String (FluxObject .helmRelease)}
    (h : (writeHelmRepository lib d chart).calm exec s = (.ok o, t))
    (h' : (writeHelmRelease d chart).calm exec t = (r, u)) :
    (helmFlux lib now resource d).calm exec s = (match r with
      | .error _ => d
      | .ok release => d.told now (helmReports u.world d release), u) := by
  cases r <;> simp [helmFlux, hmap, helmRepositoryReconcile, helmReleaseReconcile, Prog.calm_bind, h,
    h', mapHelmStatus_calm]

theorem helmFlux_passed (resource : OCMResource) (d : Deployment) (hs : s.world.Distinct) :
    ∃ rs t, Passed (fun now => helmFlux lib now resource) d s rs t := by
  cases hmap : toHelm lib.parseReference resource with
  | error e =>
    have hrun now d s : (helmFlux lib now resource d).calm exec s = (d, s) := by
      simp [helmFlux, hmap]
    exact ⟨[], s, .nothing (fun now => hrun now d s) rfl rfl fun now st u _ => hrun now _ u⟩
  | ok chart =>
  obtain ⟨r, s₁, hrepo⟩ : ∃ r t, Written _ d.key (writeHelmRepository lib d chart) s r t :=
    reconcileFlux_written _ (withSecretRef_uses _ _ _) s
  cases r with
  | error cause =>
    refine ⟨[], s₁, .nothing (fun now => helmFlux_calm_unwritten hmap hrepo.run) hrepo.deployments
      hrepo.services fun now st u hu => ?_⟩
    exact helmFlux_calm_unwritten hmap
      (hrepo.again u (hrepo.lookups.of_world hu) (by rw [hu]))
  | ok o =>
  obtain ⟨r, s₂, hrelease⟩ : ∃ r t, Written _ d.key (writeHelmRelease d chart) s₁ r t :=
    reconcileFlux_written _ (withKubeConfig_uses _) s₁
  -- Both objects are found again where the second write ended.
  have hrepo' {u : Cluster} (hu : u.world = s₂.world) :
      (writeHelmRepository lib d chart).calm exec u = (.ok o, u) :=
    hrepo.again u ((hrepo.lookups.trans hrelease.lookups).of_world hu)
      (by rw [hu, hrelease.flux_of_ne _ (by decide)])
  have hrelease' {u : Cluster} (hu : u.world = s₂.world) :
      (writeHelmRelease d chart).calm exec u = (r, u) :=
    hrelease.again u (hrelease.lookups.of_world hu) (by rw [hu])
  have hdeployments := hrelease.deployments.trans hrepo.deployments
  have hservices := hrelease.services.trans hrepo.services
  cases r with
  | error cause =>
    refine ⟨[], s₂, .nothing (fun now => helmFlux_calm_written hmap hrepo.run hrelease.run)
      hdeployments hservices fun now st u hu => ?_⟩
    exact helmFlux_calm_written (d := d.withStatus st) hmap (hrepo' hu) (hrelease' hu)
  | ok release =>
    have hdistinct := hrelease.distinct (hrepo.distinct hs)
    obtain ⟨hnodup, hflux⟩ := helmReports_spec hdistinct d (hrelease.stored release rfl)
    refine ⟨helmReports s₂.world d release, s₂,
      fun now => helmFlux_calm_written hmap hrepo.run hrelease.run, hdeployments, hservices, hnodup,
      hflux, fun now st u hu => ?_⟩
    have hagain : (helmFlux lib now resource (d.withStatus st)).calm exec u = _ :=
      helmFlux_calm_written (d := d.withStatus st) hmap (hrepo' hu) (hrelease' hu)
    rw [hu] at hagain
    exact hagain

end Helm

section Kustomize

variable {resource : OCMResource} {artifact : KustomizeResource}

/-- A Kustomization that could not be written reports nothing. -/
def kustomizeReports (d : Deployment) (source : FluxObject .ociRepository)
    (r : Except String (FluxObject .kustomization)) : List (Condition DeploymentCondition) :=
  reports mapOCIRepositoryConditionType mapKustomizationConditionType d.generation source.conditions
    (match r with
      | .error _ => []
      | .ok kustomization => kustomization.conditions)

/-- The two writes of the Kustomize controller. -/
abbrev writeOCIRepository (lib : Libraries) (d : Deployment) (artifact : KustomizeResource) :
    Program (Except String (FluxObject .ociRepository)) :=
  reconcileFlux .ociRepository "OCIRepository" d (mutateOCIRepository lib d artifact)

abbrev writeKustomization (lib : Libraries) (d : Deployment) (artifact : KustomizeResource) :
    Program (Except String (FluxObject .kustomization)) :=
  reconcileFlux .kustomization "Kustomization" d (mutateKustomization lib d artifact)

theorem kustomizeFlux_calm_unwritten (hmap : toKustomize lib.parseReference resource = .ok artifact)
    {cause : String} (h : (writeOCIRepository lib d artifact).calm exec s = (.error cause, t)) :
    (kustomizeFlux lib now resource d).calm exec s = (d, t) := by
  simp [kustomizeFlux, hmap, ociRepositoryReconcile, Prog.calm_bind, h]

theorem kustomizeFlux_calm_waiting (hmap : toKustomize lib.parseReference resource = .ok artifact)
    {o : FluxObject .ociRepository}
    (h : (writeOCIRepository lib d artifact).calm exec s = (.ok o, t))
    (hready : isStatusConditionTrue o.conditions .ready = false)
    (r : Except String (FluxObject .kustomization)) :
    (kustomizeFlux lib now resource d).calm exec s = (d.told now (kustomizeReports d o r), t) := by
  simp [kustomizeFlux, hmap, ociRepositoryReconcile, Prog.calm_bind, h, hready,
    mapStatusConditions_eq, kustomizeReports, reports]

theorem kustomizeFlux_calm_written (hmap : toKustomize lib.parseReference resource = .ok artifact)
    {o : FluxObject .ociRepository} {r : Except String (FluxObject .kustomization)}
    (h : (writeOCIRepository lib d artifact).calm exec s = (.ok o, t))
    (hready : isStatusConditionTrue o.conditions .ready = true)
    (h' : (writeKustomization lib d artifact).calm exec t = (r, u)) :
    (kustomizeFlux lib now resource d).calm exec s = (d.told now (kustomizeReports d o r), u) := by
  have hcopy (rs : List (Condition DeploymentCondition)) :
      (writeKustomization lib (d.told now rs) artifact).calm exec t = (r, u) := h'
  cases r <;> simp [kustomizeFlux, hmap, ociRepositoryReconcile, kustomizationReconcile,
    Prog.calm_bind, h, hready, hcopy, mapStatusConditions_eq, told_append, kustomizeReports, reports]

theorem kustomizeReports_spec {o : FluxObject .ociRepository}
    {r : Except String (FluxObject .kustomization)} (d : Deployment)
    (ho : (o.conditions.map Condition.type).Nodup)
    (hr : ∀ k, r = .ok k → (k.conditions.map Condition.type).Nodup) :
    ((kustomizeReports d o r).map Condition.type).Nodup ∧
      ∀ rep ∈ kustomizeReports d o r, isFluxCondition rep.type = true := by
  refine reports_spec ociRepository_copiesTo kustomization_copiesTo d.generation ho ?_
  cases r with
  | error cause => exact List.nodup_nil
  | ok k => exact hr k rfl

theorem kustomizeFlux_passed (resource : OCMResource) (d : Deployment) (hs : s.world.Distinct) :
    ∃ rs t, Passed (fun now => kustomizeFlux lib now resource) d s rs t := by
  cases hmap : toKustomize lib.parseReference resource with
  | error e =>
    have hrun now d s : (kustomizeFlux lib now resource d).calm exec s = (d, s) := by
      simp [kustomizeFlux, hmap]
    exact ⟨[], s, .nothing (fun now => hrun now d s) rfl rfl fun now st u _ => hrun now _ u⟩
  | ok artifact =>
  obtain ⟨r, s₁, hrepo⟩ : ∃ r t, Written _ d.key (writeOCIRepository lib d artifact) s r t :=
    reconcileFlux_written _ (withSecretRef_uses _ _ _) s
  cases r with
  | error cause =>
    refine ⟨[], s₁, .nothing (fun now => kustomizeFlux_calm_unwritten hmap hrepo.run)
      hrepo.deployments hrepo.services fun now st u hu => ?_⟩
    exact kustomizeFlux_calm_unwritten hmap
      (hrepo.again u (hrepo.lookups.of_world hu) (by rw [hu]))
  | ok o =>
  have hdistinct := hrepo.distinct hs
  have ho := hdistinct _ _ o (hrepo.stored o rfl)
  cases hready : isStatusConditionTrue o.conditions .ready with
  | false =>
    obtain ⟨hnodup, hflux⟩ := kustomizeReports_spec (r := .error "") d ho (by simp)
    refine ⟨_, s₁, fun now => kustomizeFlux_calm_waiting hmap hrepo.run hready _, hrepo.deployments,
      hrepo.services, hnodup, hflux, fun now st u hu => ?_⟩
    exact kustomizeFlux_calm_waiting (d := d.withStatus st) hmap
      (hrepo.again u (hrepo.lookups.of_world hu) (by rw [hu])) hready (.error "")
  | true =>
    obtain ⟨r, s₂, hrelease⟩ : ∃ r t, Written _ d.key (writeKustomization lib d artifact) s₁ r t :=
      reconcileFlux_written _ (withKubeConfig_uses _) s₁
    obtain ⟨hnodup, hflux⟩ := kustomizeReports_spec (r := r) d ho fun k hk =>
      hrelease.distinct hdistinct _ _ k (hrelease.stored k hk)
    refine ⟨_, s₂, fun now => kustomizeFlux_calm_written hmap hrepo.run hready hrelease.run,
      hrelease.deployments.trans hrepo.deployments, hrelease.services.trans hrepo.services, hnodup,
      hflux, fun now st u hu => ?_⟩
    refine kustomizeFlux_calm_written (d := d.withStatus st) hmap (hrepo.again u ?_ ?_) hready
      (hrelease.again u (hrelease.lookups.of_world hu) (by rw [hu]))
    · exact (hrepo.lookups.trans hrelease.lookups).of_world hu
    · rw [hu, hrelease.flux_of_ne _ (by decide)]

end Kustomize

theorem applyFlux_passed (lib : Libraries) (c : Controller) (d : Deployment)
    (hs : s.world.Distinct) : ∃ rs t, Passed (fun now => applyFlux lib now c) d s rs t := by
  match hm : matchingResources c d with
  | [resource] =>
    have heq now st : applyFlux lib now c (d.withStatus st) = c.flux lib now resource (d.withStatus st) := by
      have hm' : matchingResources c (d.withStatus st) = [resource] := hm
      simp [applyFlux, hm']
    have heq' now : applyFlux lib now c d = c.flux lib now resource d := by simp [applyFlux, hm]
    obtain ⟨rs, t, h⟩ : ∃ rs t, Passed (fun now => c.flux lib now resource) d s rs t := by
      cases c with
      | helm => exact helmFlux_passed resource d hs
      | kustomize => exact kustomizeFlux_passed resource d hs
    exact ⟨rs, t, fun now => by rw [heq', h.run], h.deployments, h.services, h.nodup, h.isFlux,
      fun now st u hu => by rw [heq, h.again now st u hu]⟩
  | [] =>
    have hm' st : matchingResources c (d.withStatus st) = [] := hm
    exact ⟨[], s, .nothing (fun now => by simp [applyFlux, hm]) rfl rfl
      fun now st u _ => by simp [applyFlux, hm']⟩
  | _ :: _ :: _ =>
    have hm' st : matchingResources c (d.withStatus st) = _ := hm
    exact ⟨[], s, .nothing (fun now => by simp [applyFlux, hm]) rfl rfl
      fun now st u _ => by simp [applyFlux, hm']⟩

end Flux

section Status

theorem ofServices_calm {α : Type} (p : FluxDeployer.Program α) (s : Cluster) :
    (ofServices p).calm exec s = ((p.calm FluxDeployer.exec ⟨s.world.services⟩).1, s) := by
  induction p with
  | ret a => rfl
  | call op k ih =>
    cases op with
    | listServices ns label value => exact ih _

/-- The Services that the updater of results finds. -/
def World.exposable (w : World) (d : Deployment) :
    Except FluxDeployer.UpdateError (List FluxDeployer.Service) :=
  ((FluxDeployer.fetchExposableServices d.toArtifactDeployment).calm FluxDeployer.exec ⟨w.services⟩).1

/-- `DeploymentResultStatusUpdater.MutateStatus` as a function of the Services. -/
def withResults (lib : Libraries) (now : ℕ) (w : World) (d : Deployment) : Deployment :=
  if hasExposureValidationFailure d.toArtifactDeployment then d
  else if !isStatusConditionTrue d.conditions .artifactDeployed then d
  else match w.exposable d with
    | .error _ => d
    | .ok services => match validateExposePorts services with
      | some e => failExposure now d e
      | none => match mapServicesToDeploymentResults lib.marshal services with
        | .error _ => d
        | .ok results => publishResults now d results

theorem updateDeploymentResults_calm (lib : Libraries) (now : ℕ) (d : Deployment) (s : Cluster) :
    (updateDeploymentResults lib now d).calm exec s = (withResults lib now s.world d, s) := by
  unfold updateDeploymentResults withResults FluxDeployer.mutateStatus
  rw [Prog.calm_bind, ofServices_calm]
  cases hasExposureValidationFailure d.toArtifactDeployment with
  | true => rfl
  | false =>
  cases isStatusConditionTrue d.conditions .artifactDeployed with
  | false => rfl
  | true =>
  simp only [Bool.false_eq_true, if_false, Bool.not_true, Prog.calm_bind, World.exposable]
  cases ((FluxDeployer.fetchExposableServices d.toArtifactDeployment).calm FluxDeployer.exec
    ⟨s.world.services⟩).1 with
  | error e => rfl
  | ok services =>
    dsimp only
    cases validateExposePorts services with
    | some e => rfl
    | none =>
      dsimp only
      cases mapServicesToDeploymentResults lib.marshal services with
      | error e => rfl
      | ok results => rfl

/-- What a pass makes of a deployment, from what the Flux objects tell. -/
def follow (lib : Libraries) (now : ℕ) (w : World) (rs : List (Condition DeploymentCondition))
    (d : Deployment) : Deployment :=
  ReadyConditionStatusUpdater.mutateStatus now (withResults lib now w (d.told now rs))

theorem withResults_same (lib : Libraries) (now : ℕ) (w : World) (d : Deployment) :
    withResults lib now w d = d.withStatus (withResults lib now w d).status := by
  unfold withResults
  split
  · rfl
  split
  · rfl
  split
  · rfl
  split
  · rfl
  split
  · rfl
  · rfl

/-- Only the status differs. -/
theorem follow_same (lib : Libraries) (now : ℕ) (w : World) (rs : List (Condition DeploymentCondition))
    (d : Deployment) : follow lib now w rs d = d.withStatus (follow lib now w rs d).status := by
  have hresults := withResults_same lib now w (d.told now rs)
  have hready := ReadyConditionStatusUpdater.mutateStatus_same now
    (withResults lib now w (d.told now rs))
  unfold follow
  generalize ReadyConditionStatusUpdater.mutateStatus now _ = e at *
  rw [hready, hresults]
  rfl

namespace ReadyConditionStatusUpdater

def readyReport (generation : ℕ) : Condition DeploymentCondition :=
  ⟨.ready, .isTrue, .name .ready, "Successfully reconciled ArtifactDeployment", generation, none⟩

theorem mutateStatus_of_causes (now : ℕ)
    (hst : isStatusConditionTrue d.conditions .stalled = false)
    (hh : isStatusConditionTrue d.conditions .appHealthy = true)
    (hr : isStatusConditionTrue d.conditions .deploymentResultCreated = true) :
    mutateStatus now d = d.told now [readyReport d.generation] := by
  have hset := setStatusCondition_now now d.conditions (readyReport d.generation)
  simpa [mutateStatus, hst, hh, hr, Deployment.told, readyReport] using hset

end ReadyConditionStatusUpdater

def publishedReport (generation : ℕ) : Condition DeploymentCondition :=
  ⟨.deploymentResultCreated, .isTrue, .name .deploymentResultCreated,
    "Successfully created DeploymentResult", generation, none⟩

theorem publishResults_eq (now : ℕ) (d : Deployment) (results : List DeploymentResult) :
    publishResults now d results = { d.told now [publishedReport d.generation] with
      deploymentResults := results } := by
  have hset := setStatusCondition_now now d.conditions (publishedReport d.generation)
  simpa [publishResults, FluxDeployer.publish, Deployment.told, publishedReport] using hset

end Status

section Runs

variable {req : NamespacedName} {original : Deployment}

theorem Deployment.patch_withStatus (d : Deployment) (st : Status) :
    d.patch d.status st = d.withStatus st := by
  obtain ⟨conditions, results⟩ := st
  simp only [Deployment.patch, Deployment.status, Deployment.withStatus]
  congr 1
  congr 1
  · exact ite_eq_right_iff.mpr id
  · exact ite_eq_right_iff.mpr id

/-- The status is stored, if it is not already. -/
theorem patchIfChanged_calm (hd : s.deployments req = some original)
    (hsame : d = original.withStatus d.status) :
    (patchIfChanged req original d).calm exec s = (.ok (), s.setDeployment req d) := by
  unfold patchIfChanged
  split
  · next heq =>
    have hself : d = original := by
      rw [hsame, heq]
      rfl
    rw [hself, Cluster.setDeployment_self hd]
    rfl
  · unfold patchStatus
    rw [Prog.calm_perform_bind]
    simp only [exec, hd, Deployment.patch_withStatus, ← hsame]
    rfl

theorem advance_calm {rs : List (Condition DeploymentCondition)} (now : ℕ)
    (h : (applyFlux lib now c d).calm exec s = (d.told now rs, t)) :
    (advance lib now c d).calm exec s = (follow lib now t.world rs d, t) := by
  unfold advance
  rw [Prog.calm_bind, h, Prog.calm_bind, updateDeploymentResults_calm]
  rfl

/-- A reconcile that finds one resource at most. -/
theorem reconcile_calm {rs : List (Condition DeploymentCondition)} (now : ℕ)
    (hd : s.deployments req = some d) (htype : d.spec.artifactType = c.artifactType)
    (hone : ¬ 1 < (matchingResources c d).length) (hdeployments : t.deployments = s.deployments)
    (h : (applyFlux lib now c d).calm exec s = (d.told now rs, t)) :
    (reconcile lib now c req).calm exec s = (.ok (some artifactDeploymentRequeueInterval),
      t.setDeployment req (follow lib now t.world rs d)) := by
  unfold reconcile getDeployment
  rw [Prog.calm_perform_bind]
  simp only [exec, hd, htype, ne_eq, not_true, if_false, hone]
  rw [Prog.calm_bind, advance_calm now h, Prog.calm_bind,
    patchIfChanged_calm (by rw [hdeployments]; exact hd) (follow_same lib now t.world rs d)]
  rfl

end Runs

end LandscapeOrchestrator.ArtifactDeploymentController
