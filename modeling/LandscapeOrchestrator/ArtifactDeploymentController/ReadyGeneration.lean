import LandscapeOrchestrator.ArtifactDeploymentController.ReadyCauses

/-!
# The generation that Ready claims

Health that was recorded for an earlier spec lets a reconcile report Ready for the
current one although it wrote nothing. A reconcile that starts without such a record
reports Ready only for what it wrote itself; so does one that meets no obstacle.

## Main definitions

- `LeftAlone` — what others leave alone while a reconcile runs
- `Unhindered` — a reconcile that meets no obstacle
- `Report` — what a reconcile of a run reported, with the writes it made

## Main results

- `ready_rests_on_writes` — one reconcile reports Ready for what it wrote
- `reports_backed` — so does every reconcile of a run
-/

namespace LandscapeOrchestrator.ArtifactDeploymentController
open Apilib
open FluxDeployer (DeploymentCondition HelmChartResource KustomizeResource toHelm toKustomize)

variable {lib : Libraries} {now : ℕ} {c : Controller} {d d' : Deployment} {log : Log}
  {req : NamespacedName} {env : Circumstances} {s : Cluster}

/-- Ready is True for the generation that is stored. -/
def Deployment.ReadyNow (d : Deployment) : Prop :=
  ∃ cond, findStatusCondition d.conditions .ready = some cond ∧ cond.status = .isTrue ∧
    cond.observedGeneration = d.generation

instance (d : Deployment) : Decidable d.ReadyNow :=
  decidable_of_iff ((findStatusCondition d.conditions .ready).any fun cond =>
      cond.status = .isTrue && cond.observedGeneration = d.generation) (by
    cases h : findStatusCondition d.conditions .ready <;> simp [Deployment.ReadyNow, h])

/-- Neither health nor readiness is on record. -/
def Cluster.Unrecorded (s : Cluster) (req : NamespacedName) : Prop :=
  ∀ d, s.deployments req = some d → isStatusConditionTrue d.conditions .appHealthy = false ∧
    isStatusConditionTrue d.conditions .ready = false

/-- Without a record, Ready is for the generation that was read and rests on a write. -/
theorem Attempted.ready (ha : Attempted lib now c d d' log)
    (hh : isStatusConditionTrue d.conditions .appHealthy = false)
    (hr : isStatusConditionTrue d.conditions .ready = false)
    (hready : isStatusConditionTrue d'.conditions .ready = true) :
    Wrote lib d log c ∧ ∃ cond, findStatusCondition d'.conditions .ready = some cond ∧
      cond.observedGeneration = d.generation := by
  obtain ⟨-, -, rfl⟩ | ⟨d₁, d₂, hflux, hupdated, rfl⟩ := ha
  · simp [multipleResources, isStatusConditionTrue_set] at hready
  obtain ⟨-, hh₂, -, cond, heq, htype, -, hgen⟩ | ⟨heq, -⟩ :=
    ReadyConditionStatusUpdater.mutateStatus_cases now d₂
  · have hh₁ : isStatusConditionTrue d₁.conditions .appHealthy = true :=
      hupdated.appHealthy.symm.trans hh₂
    have hwrote : Wrote lib d log c := by
      obtain hsame | ⟨found, -, hwrote, -⟩ := hflux.health
      · rw [isStatusConditionTrue_congr hsame, hh] at hh₁
        cases hh₁
      · exact hwrote
    obtain ⟨time, hset⟩ := @findStatusCondition_set_self _ _ now d₂.conditions cond
    rw [htype] at hset
    refine ⟨hwrote, _, by rw [heq]; exact hset, ?_⟩
    simp only [hgen]
    rw [hupdated.same, hflux.same]
  · -- nothing was set, so Ready is as it was stored
    rw [heq] at hready
    obtain hnot | ⟨hready₂, -, -⟩ := hupdated.ready
    · rw [hnot] at hready
      cases hready
    · rw [hready₂, hflux.isTrue rfl, hr] at hready
      cases hready

theorem round_ready_of_unrecorded (hs : s.Unrecorded req)
    (hd' : (round lib c req env s).cluster.deployments req = some d') (hready : d'.ReadyNow) :
    ∃ d, s.deployments req = some d ∧ d.spec = d'.spec ∧
      Wrote lib d (round lib c req env s).log c := by
  obtain ⟨cond, hfind, hst, hgen⟩ := hready
  obtain ⟨-, hev⟩ | @⟨before, d, d₁, answer, hlog, hd, -, ha, hev⟩ := round_cases lib c req env s
  · obtain ⟨d, hd, hev⟩ := hev.back hd'
    have hstatus := hev.status
    simp only [Deployment.status, Status.mk.injEq] at hstatus
    have hnot := (hs d hd).2
    simp [isStatusConditionTrue, ← hstatus.1, hfind, hst] at hnot
  · obtain ⟨d₂, hd₂, hev⟩ := hev.back hd'
    simp only [Cluster.setDeployment, Function.update_self, Option.some.injEq] at hd₂
    subst hd₂
    have hstatus := hev.status
    simp only [Deployment.status, Status.mk.injEq] at hstatus
    obtain ⟨hh, hr⟩ := hs d hd
    have hready₁ : isStatusConditionTrue d₁.conditions .ready = true := by
      simp [isStatusConditionTrue, ← hstatus.1, hfind, hst]
    obtain ⟨hwrote, cond', hfind', hgen'⟩ := ha.ready hh hr hready₁
    have hsame := ha.same
    rw [← hstatus.1, hfind, Option.some.injEq] at hfind'
    -- the generation that was read is still the stored one, and so is the spec
    have hgen₁ : d₁.generation = d.generation := by rw [hsame]
    have hspec₁ : d₁.spec = d.spec := by rw [hsame]
    have hgeneration : d'.generation = d₁.generation := by
      rw [hgen₁, ← hgen, hfind', hgen']
    refine ⟨d, hd, ?_, ?_⟩
    · rw [hev.spec hgeneration, hspec₁]
    · rw [hlog]
      exact hwrote.append _

/-- The pull secret of a repository can be determined. -/
def World.ResolvesSecret (lib : Libraries) (w : World) (d : Deployment) (repository : String) : Prop :=
  hasTrueLabel d "registry-skip-auth" = true ∨ ∃ domain, lib.extractHostname repository = .ok domain ∧
    (domain = "" ∨ ∃ name, w.secretByConfigMap defaultConfigMapName domain = .ok name)

/-- The deployment has a ready target whose parameters are valid. -/
def World.HasTarget (w : World) (d : Deployment) : Prop :=
  ∃ target ref, w.readyTarget d.ns d.spec.artifactType = .ok target ∧ target.kubeConfig = .ok ref

theorem World.HasTarget.congr {w w' : World} (h : w.HasTarget d)
    (heq : w'.readyTarget d.ns = w.readyTarget d.ns) : w'.HasTarget d := by
  obtain ⟨target, ref, htarget, href⟩ := h
  exact ⟨target, ref, by rw [heq]; exact htarget, href⟩

/-- One resource that can be mapped, and a world that has what its Flux objects need. A
Kustomization also needs a source that reports Ready. -/
def Servable (lib : Libraries) (w : World) (d : Deployment) : Controller → Prop
  | .helm => ∃ resource chart, matchingResources .helm d = [resource] ∧
      toHelm lib.parseReference resource = .ok chart ∧
      w.ResolvesSecret lib d chart.repository ∧ w.HasTarget d
  | .kustomize => ∃ resource artifact, matchingResources .kustomize d = [resource] ∧
      toKustomize lib.parseReference resource = .ok artifact ∧
      w.ResolvesSecret lib d artifact.repository ∧ w.HasTarget d ∧
      ∃ o, w.flux .ociRepository d.key = some o ∧ isStatusConditionTrue o.conditions .ready = true

/-- From `t` to `u` nothing changes that a reconcile of `req` depends on: the spec, the
configured pull secrets, the targets of the namespace, and the Flux objects of the name
other than HelmCharts. -/
structure LeftAlone (req key : NamespacedName) (t u : Cluster) : Prop where
  spec : ∀ d', u.deployments req = some d' → ∃ d, t.deployments req = some d ∧ d.spec = d'.spec
  secrets : u.world.secretByConfigMap = t.world.secretByConfigMap
  targets : u.world.readyTarget key.ns = t.world.readyTarget key.ns
  flux : ∀ k, k ≠ .helmChart → u.world.flux k key = t.world.flux k key

theorem LeftAlone.refl (req key : NamespacedName) (t : Cluster) : LeftAlone req key t t :=
  ⟨fun d' hd' => ⟨d', hd', rfl⟩, rfl, rfl, fun _ _ => rfl⟩

theorem LeftAlone.trans {key : NamespacedName} {t u v : Cluster} (h : LeftAlone req key t u)
    (h' : LeftAlone req key u v) : LeftAlone req key t v where
  spec d' hd' := by
    obtain ⟨d₁, hd₁, hspec₁⟩ := h'.spec d' hd'
    obtain ⟨d, hd, hspec⟩ := h.spec d₁ hd₁
    exact ⟨d, hd, hspec.trans hspec₁⟩
  secrets := h'.secrets.trans h.secrets
  targets := h'.targets.trans h.targets
  flux k hk := (h'.flux k hk).trans (h.flux k hk)

/-- What others do after this call leaves the reconcile alone. -/
def SparedCall (changes : ℕ → List Change) (req key : NamespacedName) (op : Op)
    (x : (Cluster × ℕ) × Log) : Prop :=
  LeftAlone req key (exec op x.1.1).2 (server changes op x).2.1.1

/-- The reconcile meets no obstacle: no call fails, its object can be served, and what
others do meanwhile leaves that alone. -/
structure Unhindered (lib : Libraries) (c : Controller) (req : NamespacedName) (env : Circumstances)
    (s : Cluster) : Prop where
  faults : ∀ n, env.faults n = none
  servable : ∃ d, s.deployments req = some d ∧ d.spec.artifactType = c.artifactType ∧
    Servable lib s.world d c ∧
    (reconcile lib env.now c req).Along (server env.changes) (SparedCall env.changes req d.key)
      ((s, 0), [])

section Spared

variable {changes : ℕ → List Change} {x : (Cluster × ℕ) × Log}

/-- The run on which no call fails, while others leave the reconcile alone. -/
abbrev SparedRun {α : Type} (changes : ℕ → List Change) (req key : NamespacedName)
    (Q : α → (Cluster × ℕ) × Log → Prop) (p : Program α) (x : (Cluster × ℕ) × Log) : Prop :=
  p.AttainsIf (server changes) (SparedCall changes req key) Q x

/-- The rule for one call: it is answered from the state, which is then left alone. -/
theorem sparedRun_call {β : Type} {key : NamespacedName} {op : Op}
    {f : Except ApiError (Res op) → Program β} {Q : β → (Cluster × ℕ) × Log → Prop}
    (h : ∀ y : (Cluster × ℕ) × Log, LeftAlone req key (exec op x.1.1).2 y.1.1 →
      SparedRun changes req key Q (f (exec op x.1.1).1) y) :
    SparedRun changes req key Q (Prog.perform op >>= f) x :=
  fun hok => h _ hok

/-- The program succeeds, and leaves the cluster as `Q` says. -/
abbrev Succeeds {α : Type} (changes : ℕ → List Change) (req key : NamespacedName)
    (Q : α → Cluster → Prop) (p : Program (Except String α)) (x : (Cluster × ℕ) × Log) : Prop :=
  SparedRun changes req key (fun r y => ∃ a, r = .ok a ∧ Q a y.1.1) p x

theorem getSecretRef_succeeds {repository : String}
    (h : x.1.1.world.ResolvesSecret lib d repository) :
    Succeeds changes req d.key (fun _ t => LeftAlone req d.key x.1.1 t)
      (getSecretRef lib d repository) x := by
  unfold getSecretRef
  split
  · exact ⟨none, rfl, .refl ..⟩
  next hlabel =>
  obtain ⟨domain, hdomain, hname⟩ := h.resolve_left hlabel
  rw [hdomain]
  dsimp only
  split
  · exact ⟨none, rfl, .refl ..⟩
  next hne =>
  obtain ⟨name, hname⟩ := hname.resolve_left hne
  refine sparedRun_call fun y hy => ?_
  simp only [exec, hname] at hy ⊢
  split
  · exact ⟨_, rfl, hy⟩
  · refine sparedRun_call fun z hz => ?_
    simp only [exec] at hz ⊢
    split at hz
    · next hsecret =>
      simp only [hsecret, if_true]
      exact ⟨_, rfl, hy.trans hz⟩
    · next hsecret =>
      simp only [hsecret, Bool.false_eq_true, if_false, notFound, ApiError.isNotFound, if_true]
      exact ⟨none, rfl, hy.trans hz⟩

theorem withSecretRef_succeeds {σ : Type} {repository : String}
    (h : x.1.1.world.ResolvesSecret lib d repository) (kindName : String) (spec : Option String → σ) :
    Succeeds changes req d.key (fun _ t => LeftAlone req d.key x.1.1 t)
      (withSecretRef lib d repository kindName spec) x := by
  refine Prog.AttainsIf.bind (getSecretRef_succeeds h) ?_
  rintro _ y ⟨ref, rfl, hy⟩
  exact ⟨spec ref, rfl, hy⟩

theorem withKubeConfig_succeeds {σ : Type} (h : x.1.1.world.HasTarget d)
    (spec : Option String → σ) :
    Succeeds changes req d.key (fun _ t => LeftAlone req d.key x.1.1 t) (withKubeConfig d spec) x := by
  obtain ⟨target, ref, htarget, href⟩ := h
  have hget : Succeeds changes req d.key (fun _ t => LeftAlone req d.key x.1.1 t)
      (getKubeConfigRef d.ns d.spec.artifactType) x := by
    refine sparedRun_call fun y hy => ?_
    simp only [exec, htarget] at hy ⊢
    exact ⟨ref, href, hy⟩
  refine Prog.AttainsIf.bind hget ?_
  rintro _ y ⟨ref, rfl, hy⟩
  exact ⟨spec ref, rfl, hy⟩

/-- What a write leaves for the next one: the targets are unaffected, and a stored object
keeps its conditions. -/
structure WriteLeaves (k : Kind) (key : NamespacedName) (s : Cluster) (o : FluxObject k)
    (t : Cluster) : Prop where
  targets : t.world.readyTarget key.ns = s.world.readyTarget key.ns
  conditions : ∀ o', s.world.flux k key = some o' → o.conditions = o'.conditions

theorem createOrUpdate_succeeds {k : Kind} (hk : k ≠ .helmChart) {key : NamespacedName}
    {mutate : Program (Except String k.Spec)}
    (hmutate : ∀ y : (Cluster × ℕ) × Log, LeftAlone req key x.1.1 y.1.1 →
      Succeeds changes req key (fun _ t => LeftAlone req key y.1.1 t) mutate y) :
    Succeeds changes req key (WriteLeaves k key x.1.1) (createOrUpdate k key mutate) x := by
  refine sparedRun_call fun y hy => ?_
  cases hstored : x.1.1.world.flux k key with
  | none =>
    simp only [exec, hstored, notFound, ApiError.isNotFound, if_true] at hy ⊢
    refine Prog.AttainsIf.bind (hmutate y hy) ?_
    rintro _ z ⟨spec, rfl, hz⟩
    have hxz := hy.trans hz
    have hnone : z.1.1.world.flux k key = none := (hxz.flux k hk).trans hstored
    refine sparedRun_call fun z' hz' => ?_
    simp only [exec, hnone] at hz' ⊢
    refine ⟨_, rfl, hz'.targets.trans hxz.targets, fun o' ho' => ?_⟩
    rw [hstored] at ho'
    cases ho'
  | some o =>
    simp only [exec, hstored] at hy ⊢
    have hconditions (o' : FluxObject k) (ho' : x.1.1.world.flux k key = some o') :
        o.conditions = o'.conditions := by
      rw [Option.some.inj (hstored.symm.trans ho')]
    refine Prog.AttainsIf.bind (hmutate y hy) ?_
    rintro _ z ⟨spec, rfl, hz⟩
    have hxz := hy.trans hz
    dsimp only
    split
    · exact ⟨o, rfl, hxz.targets, hconditions⟩
    · have hsome : z.1.1.world.flux k key = some o := (hxz.flux k hk).trans hstored
      refine sparedRun_call fun z' hz' => ?_
      simp only [exec, hsome, if_true] at hz' ⊢
      exact ⟨_, rfl, hz'.targets.trans hxz.targets, hconditions⟩

theorem reconcileFlux_succeeds {k : Kind} (hk : k ≠ .helmChart) (kindName : String)
    {mutate : Program (Except String k.Spec)}
    (hmutate : ∀ y : (Cluster × ℕ) × Log, LeftAlone req d.key x.1.1 y.1.1 →
      Succeeds changes req d.key (fun _ t => LeftAlone req d.key y.1.1 t) mutate y) :
    Succeeds changes req d.key (WriteLeaves k d.key x.1.1) (reconcileFlux k kindName d mutate) x := by
  refine Prog.AttainsIf.bind (createOrUpdate_succeeds hk hmutate) ?_
  rintro _ y ⟨o, rfl, ho⟩
  exact ⟨o, rfl, ho⟩

/-- What all runs ensure of the log holds of this one. -/
theorem FluxPaths.sparedRun {α : Type} {Q : α → Log → Prop} {p : Program α} {key : NamespacedName}
    (h : FluxPaths Q p x.2) : SparedRun changes req key (fun a y => Q a y.2) p x := by
  have hinv : ∀ (op : Op) (s : Cluster × ℕ), op.isFlux = true → True → True := fun _ _ _ h => h
  have hall : p.Ensures (server changes) (fun a y => Q a y.2 ∧ True) x := h.ensures hinv trivial
  exact (hall.mono fun _ _ hQ => hQ.1).attainsIf

theorem World.ResolvesSecret.congr {w w' : World} {repository : String}
    (h : w.ResolvesSecret lib d repository) (heq : w'.secretByConfigMap = w.secretByConfigMap) :
    w'.ResolvesSecret lib d repository := by
  unfold World.ResolvesSecret
  rw [heq]
  exact h

theorem helmFlux_sparedRun {resource : FluxDeployer.OCMResource} {chart : HelmChartResource}
    (hone : matchingResources .helm d = [resource])
    (hmap : toHelm lib.parseReference resource = .ok chart)
    (hsecret : x.1.1.world.ResolvesSecret lib d chart.repository) (htarget : x.1.1.world.HasTarget d) :
    SparedRun changes req d.key (fun _ y => Wrote lib d y.2 .helm) (helmFlux lib now resource d) x := by
  unfold helmFlux
  rw [hmap]
  have hsource : Succeeds changes req d.key
      (fun _ t => t.world.readyTarget d.ns = x.1.1.world.readyTarget d.ns)
      (helmRepositoryReconcile lib d chart) x := by
    refine Prog.AttainsIf.bind (reconcileFlux_succeeds (by decide) "HelmRepository" fun y hy =>
      withSecretRef_succeeds (hsecret.congr hy.secrets) _ _) ?_
    rintro _ y ⟨o, rfl, hy⟩
    exact ⟨true, rfl, hy.targets⟩
  -- the log of any run says what was written, once this run is known to succeed
  refine (hsource.and (helmRepositoryReconcile_paths d chart x.2).sparedRun).bind ?_
  rintro _ y ⟨⟨ready, rfl, hy⟩, hsync⟩
  obtain ⟨secretRef, hsync⟩ := hsync ready rfl
  have hrelease : Succeeds changes req d.key (fun _ _ => True) (helmReleaseReconcile now d chart) y := by
    refine Prog.AttainsIf.bind (reconcileFlux_succeeds (by decide) "HelmRelease" fun z hz =>
      withKubeConfig_succeeds (htarget.congr (hz.targets.trans hy)) _) ?_
    rintro _ z ⟨release, rfl, -⟩
    have hstatus : SparedRun changes req d.key (fun _ _ => True) (mapHelmStatus now d release) z :=
      Prog.attainsIf_invariant (fun _ => True) (fun _ _ _ _ => trivial) _ trivial
    exact hstatus.bind fun d' z' _ => ⟨_, rfl, trivial⟩
  refine (hrelease.and (helmReleaseReconcile_paths hone hmap hsync).sparedRun).bind ?_
  rintro _ z ⟨⟨r, rfl, -⟩, hwrote⟩
  exact (hwrote r rfl).1

theorem kustomizeFlux_sparedRun {resource : FluxDeployer.OCMResource} {artifact : KustomizeResource}
    (hone : matchingResources .kustomize d = [resource])
    (hmap : toKustomize lib.parseReference resource = .ok artifact)
    (hsecret : x.1.1.world.ResolvesSecret lib d artifact.repository)
    (htarget : x.1.1.world.HasTarget d) {o : FluxObject .ociRepository}
    (ho : x.1.1.world.flux .ociRepository d.key = some o)
    (hready : isStatusConditionTrue o.conditions .ready = true) :
    SparedRun changes req d.key (fun _ y => Wrote lib d y.2 .kustomize)
      (kustomizeFlux lib now resource d) x := by
  unfold kustomizeFlux
  rw [hmap]
  have hsource : Succeeds changes req d.key
      (fun r t => r.1 = true ∧ t.world.readyTarget d.ns = x.1.1.world.readyTarget d.ns)
      (ociRepositoryReconcile lib now d artifact) x := by
    refine Prog.AttainsIf.bind (reconcileFlux_succeeds (by decide) "OCIRepository" fun y hy =>
      withSecretRef_succeeds (hsecret.congr hy.secrets) _ _) ?_
    rintro _ y ⟨o', rfl, hy⟩
    exact ⟨_, rfl, by rw [hy.conditions o ho]; exact hready, hy.targets⟩
  refine (hsource.and (ociRepositoryReconcile_paths d artifact x.2).sparedRun).bind ?_
  rintro _ y ⟨⟨⟨isReady, d₁⟩, rfl, hisReady, hy⟩, hfetched⟩
  -- a source that is not ready would end the reconcile before the Kustomization
  obtain ⟨cs, secretRef, rfl, hsync⟩ := hfetched _ rfl
  dsimp only at hisReady
  subst hisReady
  have hrelease : Succeeds changes req d.key (fun _ _ => True)
      (kustomizationReconcile lib now (fetched now d cs) artifact) y := by
    refine Prog.AttainsIf.bind (reconcileFlux_succeeds (by decide) "Kustomization" fun z hz =>
      withKubeConfig_succeeds (htarget.congr (hz.targets.trans hy)) _) ?_
    rintro _ z ⟨release, rfl, -⟩
    exact ⟨_, rfl, trivial⟩
  refine (hrelease.and (kustomizationReconcile_paths hone hmap hsync cs).sparedRun).bind ?_
  rintro _ z ⟨⟨r, rfl, -⟩, hwrote⟩
  exact (hwrote r rfl).1

theorem applyFlux_sparedRun (h : Servable lib x.1.1.world d c) :
    SparedRun changes req d.key (fun _ y => Wrote lib d y.2 c) (applyFlux lib now c d) x := by
  unfold applyFlux
  cases c with
  | helm =>
    obtain ⟨resource, chart, hone, hmap, hsecret, htarget⟩ := h
    rw [hone]
    exact helmFlux_sparedRun hone hmap hsecret htarget
  | kustomize =>
    obtain ⟨resource, artifact, hone, hmap, hsecret, htarget, o, ho, hready⟩ := h
    rw [hone]
    exact kustomizeFlux_sparedRun hone hmap hsecret htarget ho hready

theorem Servable.one {w : World} (h : Servable lib w d c) : (matchingResources c d).length = 1 := by
  cases c with
  | helm =>
    obtain ⟨resource, -, hone, -⟩ := h
    rw [hone]
    rfl
  | kustomize =>
    obtain ⟨resource, -, hone, -⟩ := h
    rw [hone]
    rfl

theorem Servable.congr {t u : Cluster} (h : Servable lib t.world d c)
    (hsame : LeftAlone req d.key t u) : Servable lib u.world d c := by
  cases c with
  | helm =>
    obtain ⟨resource, chart, hone, hmap, hsecret, htarget⟩ := h
    exact ⟨resource, chart, hone, hmap, hsecret.congr hsame.secrets, htarget.congr hsame.targets⟩
  | kustomize =>
    obtain ⟨resource, artifact, hone, hmap, hsecret, htarget, o, ho, hready⟩ := h
    exact ⟨resource, artifact, hone, hmap, hsecret.congr hsame.secrets,
      htarget.congr hsame.targets, o, (hsame.flux _ (by decide)).trans ho, hready⟩

/-- The writes stay in the log. -/
theorem sparedRun_wrote {α : Type} {key : NamespacedName} (p : Program α) (h : Wrote lib d x.2 c) :
    SparedRun changes req key (fun _ y => Wrote lib d y.2 c) p x := by
  refine Prog.Ensures.attainsIf ((Prog.ensures_log_grows p x.1 x.2).mono ?_)
  rintro _ y ⟨more, hy⟩
  rw [hy]
  exact h.append more

theorem reconcile_sparedRun (hd : x.1.1.deployments req = some d)
    (htype : d.spec.artifactType = c.artifactType) (h : Servable lib x.1.1.world d c) :
    SparedRun changes req d.key (fun _ y => Wrote lib d y.2 c) (reconcile lib now c req) x := by
  refine sparedRun_call fun y hy => ?_
  simp only [exec, hd] at hy ⊢
  have hmany : ¬ 1 < (matchingResources c d).length := by
    have := h.one
    omega
  simp only [htype, ne_eq, not_true_eq_false, if_false, hmany]
  have hadvance : SparedRun changes req d.key (fun _ y => Wrote lib d y.2 c)
      (advance lib now c d) y :=
    (applyFlux_sparedRun (h.congr hy)).bind fun d₁ z hz => sparedRun_wrote _ hz
  exact hadvance.bind fun d₁ z hz => sparedRun_wrote _ hz

/-- Nobody changes the spec meanwhile. -/
theorem sparedRun_spec {α : Type} {key : NamespacedName} (p : Program α) (x : (Cluster × ℕ) × Log) :
    SparedRun changes req key (fun _ y => ∀ d', y.1.1.deployments req = some d' →
      ∃ d, x.1.1.deployments req = some d ∧ d.spec = d'.spec) p x := by
  refine Prog.attainsIf_invariant (fun y : (Cluster × ℕ) × Log => ∀ d',
    y.1.1.deployments req = some d' → ∃ d, x.1.1.deployments req = some d ∧ d.spec = d'.spec) ?_ p
    fun d' hd' => ⟨d', hd', rfl⟩
  intro op y hok hy d' hd'
  obtain ⟨d₂, hd₂, hspec₂⟩ := hok.spec d' hd'
  rw [← hspec₂]
  have heffect := exec_effect op y.1.1
  generalize (exec op y.1.1).2 = t at heffect hd₂
  cases heffect with
  | @patchStatus key d₁ before after hd₁ =>
    simp only [Cluster.setDeployment, Function.update_apply] at hd₂
    split at hd₂
    · next hkey =>
      subst hkey
      obtain rfl := Option.some.inj hd₂
      exact hy d₁ hd₁
    · exact hy d₂ hd₂
  | _ => exact hy d₂ hd₂

end Spared

theorem Unhindered.wrote (h : Unhindered lib c req env s)
    (hd' : (round lib c req env s).cluster.deployments req = some d') :
    ∃ d, s.deployments req = some d ∧ d.spec = d'.spec ∧
      Wrote lib d (round lib c req env s).log c := by
  obtain ⟨d, hd, htype, hserv, halong⟩ := h.servable
  have hfaults : env.faults = fun _ => none := funext h.faults
  have hrun := (Prog.AttainsIf.and (reconcile_sparedRun (x := ((s, 0), [])) hd htype hserv)
    (sparedRun_spec _ _)).attains halong
  unfold round at hd' ⊢
  rw [hfaults] at hd' ⊢
  obtain ⟨hwrote, hspec⟩ := hrun
  obtain ⟨d₁, hd₁, hspec⟩ := hspec d' hd'
  obtain rfl := Option.some.inj (hd.symm.trans hd₁)
  exact ⟨d, hd, hspec, hwrote⟩

/-- What lets a reconcile claim Ready rightly: it starts without a record of health and
readiness, or it meets no obstacle. -/
def Founded (lib : Libraries) (c : Controller) (req : NamespacedName) (env : Circumstances)
    (s : Cluster) : Prop :=
  s.Unrecorded req ∨ Unhindered lib c req env s

theorem Founded.wrote (h : Founded lib c req env s)
    (hd' : (round lib c req env s).cluster.deployments req = some d') (hready : d'.ReadyNow) :
    ∃ d, s.deployments req = some d ∧ d.spec = d'.spec ∧
      Wrote lib d (round lib c req env s).log c := by
  obtain hs | h := h
  · exact round_ready_of_unrecorded hs hd' hready
  · exact h.wrote hd'

/-- Whenever a reconcile leaves its object ready for the stored generation, and it
started without a record of health and readiness or met no obstacle, it found exactly
one resource in the stored spec, mapped it, and wrote both Flux objects. -/
theorem ready_rests_on_writes (lib : Libraries) (c : Controller) (req : NamespacedName)
    (env : Circumstances) (s : Cluster)
    (hwhen : s.Unrecorded req ∨ Unhindered lib c req env s) (d' : Deployment)
    (hd' : (round lib c req env s).cluster.deployments req = some d') (hready : d'.ReadyNow) :
    ∃ d, s.deployments req = some d ∧ d.spec = d'.spec ∧ Wrote lib d (round lib c req env s).log c :=
  Founded.wrote hwhen hd' hready

section Runs

/-- A reconcile that is over: the object it has left behind, and what it was answered. -/
structure Report where
  controller : Controller
  req : NamespacedName
  left : Option Deployment
  log : Log

def noteReports (lib : Libraries) (s : Cluster) (l : Label) (t : Cluster) (reports : List Report) :
    List Report :=
  match l with
  | .change _ => reports
  | .reconcile c req env => reports ++ [⟨c, req, t.deployments req, (round lib c req env s).log⟩]

/-- Runs of the two controllers, beside the reports of their reconciles. -/
def reporting (lib : Libraries) : System (Cluster × List Report) Label :=
  (deployers lib).recording (noteReports lib) []

def FoundedRounds (lib : Libraries) (x : Cluster × List Report) : Label → Prop
  | .change _ => True
  | .reconcile c req env => Founded lib c req env x.1

/-- A report of readiness for the stored generation comes with the writes for its spec. -/
def Report.Backed (lib : Libraries) (r : Report) : Prop :=
  ∀ d', r.left = some d' → d'.ReadyNow → ∃ d, d.spec = d'.spec ∧ Wrote lib d r.log r.controller

/-- In every run of the two controllers, whatever others change between and during the
reconciles: where each reconcile starts without a record of health and readiness or meets
no obstacle, each one that leaves its object ready has written for the spec that it leaves. -/
theorem reports_backed (lib : Libraries) (x : Cluster × List Report)
    (h : (reporting lib).Reaches (FoundedRounds lib) x) : ∀ r ∈ x.2, r.Backed lib := by
  induction h with
  | init hx =>
    rw [hx.2]
    exact fun r hr => by cases hr
  | @step x y l _ hok hn ih =>
    obtain ⟨t, ht, rfl⟩ := System.recording_next.mp hn
    cases l with
    | change change => exact ih
    | reconcile c req env =>
      obtain rfl := Option.some.inj ht
      intro r hr
      obtain hr | hr := List.mem_append.mp hr
      · exact ih r hr
      · obtain rfl := List.mem_singleton.mp hr
        intro d' hd' hready
        obtain ⟨d, -, hspec, hwrote⟩ := Founded.wrote hok hd' hready
        exact ⟨d, hspec, hwrote⟩

end Runs

/-- Readiness that can be read off the stored object. -/
theorem exists_readyNow {s : Cluster} {key : NamespacedName}
    (h : (s.deployments key).any (fun d => d.ReadyNow) = true) :
    ∃ d, s.deployments key = some d ∧ d.ReadyNow := by
  obtain ⟨d, hd, hready⟩ := (Option.any_eq_true _ _).mp h
  exact ⟨d, hd, of_decide_eq_true hready⟩

theorem podinfo_unrecorded : (podinfoCluster (podinfoWorld .isTrue [])).Unrecorded podinfoKey := by
  intro d hd
  rw [isStatusConditionTrue, isStatusConditionTrue, (podinfoCluster_fresh _ _ d hd).1]
  exact ⟨rfl, rfl⟩

/-- After the first answer, somebody labels the deployment. -/
def labelling : Circumstances where
  now := 2
  changes n := if n = 0 then [.setMetadata podinfoKey [("team", "shop")] []] else []
  faults _ := none

theorem setMetadata_leftAlone (req key key' : NamespacedName) (labels annotations : List (String × String))
    (s : Cluster) : LeftAlone req key s ((Change.setMetadata key' labels annotations).apply s) := by
  simp only [Change.apply]
  split
  · exact .refl ..
  · next d hd =>
    refine ⟨fun d' hd' => ?_, rfl, rfl, fun _ _ => rfl⟩
    simp only [Cluster.setDeployment, Function.update_apply] at hd'
    split at hd'
    · next hkey =>
      obtain rfl := Option.some.inj hd'
      exact ⟨d, hkey ▸ hd, rfl⟩
    · exact ⟨d', hd', rfl⟩

theorem labelling_spared (req key : NamespacedName) (op : Op) (x : (Cluster × ℕ) × Log) :
    SparedCall labelling.changes req key op x := by
  unfold SparedCall
  simp only [server, disturbed, Exec.logged, Exec.amid, labelling]
  split
  · exact setMetadata_leftAlone ..
  · exact .refl ..

theorem podinfoReady_servable : ∃ d, podinfoReady.deployments podinfoKey = some d ∧
    d.spec.artifactType = Controller.helm.artifactType ∧
    Servable podinfoLibraries podinfoReady.world d .helm := by
  have hany : (podinfoReady.deployments podinfoKey).any (fun d => d.ns = "shop" &&
      d.spec.artifactType = .helm && matchingResources .helm d = [podinfoResource]) = true := by
    decide +kernel
  have htarget : podinfoReady.world.readyTarget "shop" .helm = .ok ⟨"local", none⟩ := by
    decide +kernel
  have hmap : toHelm podinfoLibraries.parseReference podinfoResource = .ok podinfoChart := by
    decide +kernel
  obtain ⟨d, hd, htests⟩ := (Option.any_eq_true _ _).mp hany
  simp only [Bool.and_eq_true, decide_eq_true_eq] at htests
  obtain ⟨⟨hns, htype⟩, hone⟩ := htests
  refine ⟨d, hd, htype, podinfoResource, podinfoChart, hone, hmap, .inr ⟨"", rfl, .inl rfl⟩, ?_⟩
  exact ⟨⟨"local", none⟩, none, by rw [hns, htype, htarget], rfl⟩

/-- The first reconcile of a chart makes it ready. The next one finds it so, and keeps it
so while it is labelled. -/
theorem ready_rests_on_writes_podinfo :
    (∃ d', podinfoReady.deployments podinfoKey = some d' ∧ d'.ReadyNow ∧
      ∃ d, (podinfoCluster (podinfoWorld .isTrue [])).deployments podinfoKey = some d ∧
        d.spec = d'.spec ∧ Wrote podinfoLibraries d (round podinfoLibraries .helm podinfoKey
          (undisturbed 1) (podinfoCluster (podinfoWorld .isTrue []))).log .helm) ∧
    ∃ d', (round podinfoLibraries .helm podinfoKey labelling podinfoReady).cluster.deployments
        podinfoKey = some d' ∧ d'.ReadyNow ∧
      ∃ d, podinfoReady.deployments podinfoKey = some d ∧ d.spec = d'.spec ∧
        Wrote podinfoLibraries d
          (round podinfoLibraries .helm podinfoKey labelling podinfoReady).log .helm := by
  constructor
  · obtain ⟨d', hd', hready⟩ : ∃ d', podinfoReady.deployments podinfoKey = some d' ∧ d'.ReadyNow :=
      exists_readyNow (by decide +kernel)
    refine ⟨d', hd', hready, ?_⟩
    unfold podinfoReady at hd'
    exact ready_rests_on_writes podinfoLibraries .helm podinfoKey (undisturbed 1)
      (podinfoCluster (podinfoWorld .isTrue [])) (.inl podinfo_unrecorded) d' hd' hready
  · obtain ⟨d', hd', hready⟩ : ∃ d', (round podinfoLibraries .helm podinfoKey labelling
        podinfoReady).cluster.deployments podinfoKey = some d' ∧ d'.ReadyNow :=
      exists_readyNow (by decide +kernel)
    obtain ⟨d, hd, htype, hservable⟩ := podinfoReady_servable
    have hunhindered : Unhindered podinfoLibraries .helm podinfoKey labelling podinfoReady :=
      ⟨fun _ => rfl, d, hd, htype, hservable,
        Prog.along_of_forall (fun op x => labelling_spared _ _ op x) _ _⟩
    exact ⟨d', hd', hready, ready_rests_on_writes podinfoLibraries .helm podinfoKey labelling
      podinfoReady (.inr hunhindered) d' hd' hready⟩

/-- The spec loses its resource. -/
def podinfoEmptied : Cluster := (Change.setSpec podinfoKey ⟨.helm, []⟩).apply podinfoReady

theorem podinfoEmptied_reachable : (deployers podinfoLibraries).Reachable podinfoEmptied := by
  have hready : (deployers podinfoLibraries).Reachable podinfoReady := by
    unfold podinfoReady
    exact (System.Reaches.init (podinfoCluster_fresh (podinfoWorld .isTrue []))).step
      (l := .reconcile .helm podinfoKey (undisturbed 1)) trivial rfl
  unfold podinfoEmptied
  exact hready.step (l := .change (.setSpec podinfoKey ⟨.helm, []⟩)) trivial rfl

/-- The next reconcile finds no resource, and reports Ready for the new generation. -/
theorem ready_without_resource : (deployers podinfoLibraries).Reachable podinfoEmptied ∧
    ∃ d', (round podinfoLibraries .helm podinfoKey (undisturbed 2) podinfoEmptied).cluster.deployments
        podinfoKey = some d' ∧ d'.ReadyNow ∧
      ¬ ∃ d, podinfoEmptied.deployments podinfoKey = some d ∧ d.spec = d'.spec ∧
        Wrote podinfoLibraries d
          (round podinfoLibraries .helm podinfoKey (undisturbed 2) podinfoEmptied).log .helm := by
  refine ⟨podinfoEmptied_reachable, ?_⟩
  obtain ⟨d', hd', hready⟩ : ∃ d', (round podinfoLibraries .helm podinfoKey (undisturbed 2)
      podinfoEmptied).cluster.deployments podinfoKey = some d' ∧ d'.ReadyNow :=
    exists_readyNow (by decide +kernel)
  refine ⟨d', hd', hready, ?_⟩
  rintro ⟨d, hd, -, resource, _, _, _, hone, -⟩
  have hnone : (podinfoEmptied.deployments podinfoKey).map (matchingResources .helm) = some [] := by
    decide +kernel
  rw [hd, Option.map_some, hone] at hnone
  cases hnone

end LandscapeOrchestrator.ArtifactDeploymentController
