import LandscapeOrchestrator.ArtifactDeploymentController.Rounds

/-!
# What Ready rests on

Ready is set when the application is healthy and its results are published, and is not
taken back when health is lost. While a ready deployment's release reports no loss of
health, Ready never outlives what it rests on.
-/

namespace LandscapeOrchestrator.ArtifactDeploymentController
open Apilib
open FluxDeployer (DeploymentCondition)

variable {lib : Libraries} {now : ℕ} {c : Controller} {d d' : Deployment} {log : Log}

/-- Ready holds together with its causes. -/
def Deployment.ReadyCaused (d : Deployment) : Prop :=
  isStatusConditionTrue d.conditions .ready = true →
    isStatusConditionTrue d.conditions .appHealthy = true ∧
      isStatusConditionTrue d.conditions .deploymentResultCreated = true ∧
      isStatusConditionTrue d.conditions .stalled = false

theorem isStatusConditionTrue_congr {cs cs' : List (Condition DeploymentCondition)}
    {t : DeploymentCondition} (h : findStatusCondition cs' t = findStatusCondition cs t) :
    isStatusConditionTrue cs' t = isStatusConditionTrue cs t := by
  rw [isStatusConditionTrue, h, isStatusConditionTrue]

theorem FluxStep.isTrue (h : FluxStep lib c d d' log) {t : DeploymentCondition}
    (ht : isFluxCondition t = false) :
    isStatusConditionTrue d'.conditions t = isStatusConditionTrue d.conditions t :=
  isStatusConditionTrue_congr (h.frame t ht)

/-- The updater of results leaves health alone. -/
theorem Updated.appHealthy (h : Updated now d log d') :
    isStatusConditionTrue d'.conditions .appHealthy = isStatusConditionTrue d.conditions .appHealthy := by
  cases h with
  | kept _ => rfl
  | failed e _ _ =>
    rw [failExposure_conditions, isStatusConditionTrue_set_of_ne (by simp),
      isStatusConditionTrue_set_of_ne (by simp), isStatusConditionTrue_set_of_ne (by simp)]
  | published results _ _ => exact isStatusConditionTrue_set_of_ne (by simp)

/-- Ready is as before unless it is set to False; then publication and stalling are as
before, or publication has just succeeded. -/
theorem Updated.ready (h : Updated now d log d') :
    isStatusConditionTrue d'.conditions .ready = false ∨
      isStatusConditionTrue d'.conditions .ready = isStatusConditionTrue d.conditions .ready ∧
      isStatusConditionTrue d'.conditions .stalled = isStatusConditionTrue d.conditions .stalled ∧
      (isStatusConditionTrue d.conditions .deploymentResultCreated = true →
        isStatusConditionTrue d'.conditions .deploymentResultCreated = true) := by
  cases h with
  | kept _ => exact .inr ⟨rfl, rfl, id⟩
  | failed e _ _ =>
    left
    rw [failExposure_conditions, isStatusConditionTrue_set_of_ne (by simp),
      isStatusConditionTrue_set rfl]
    rfl
  | published results _ _ =>
    right
    refine ⟨isStatusConditionTrue_set_of_ne (by simp), isStatusConditionTrue_set_of_ne (by simp),
      fun _ => ?_⟩
    simp [publishResults, FluxDeployer.publish, isStatusConditionTrue_set]

/-- The Ready updater sets Ready on its causes, and otherwise changes nothing. -/
theorem ReadyConditionStatusUpdater.mutateStatus_cases (now : ℕ) (d : Deployment) :
    (isStatusConditionTrue d.conditions .stalled = false ∧
        isStatusConditionTrue d.conditions .appHealthy = true ∧
        isStatusConditionTrue d.conditions .deploymentResultCreated = true ∧
        ∃ cond, mutateStatus now d =
            { d with conditions := setStatusCondition now d.conditions cond } ∧
          cond.type = .ready ∧ cond.status = .isTrue ∧ cond.observedGeneration = d.generation) ∨
      mutateStatus now d = d ∧ (isStatusConditionTrue d.conditions .stalled = true ∨
        isStatusConditionTrue d.conditions .appHealthy = false ∨
        isStatusConditionTrue d.conditions .deploymentResultCreated = false) := by
  unfold mutateStatus
  cases hst : isStatusConditionTrue d.conditions .stalled with
  | true => exact .inr ⟨rfl, .inl rfl⟩
  | false =>
  cases hh : isStatusConditionTrue d.conditions .appHealthy with
  | false => exact .inr ⟨rfl, .inr (.inl rfl)⟩
  | true =>
  cases hr : isStatusConditionTrue d.conditions .deploymentResultCreated with
  | false => exact .inr ⟨rfl, .inr (.inr rfl)⟩
  | true => exact .inl ⟨rfl, rfl, rfl, _, rfl, rfl, rfl, rfl⟩

/-- One reconcile, when a ready deployment's release reports no loss of health. -/
theorem Deployment.ReadyCaused.attempted (h : d.ReadyCaused) (ha : Attempted lib now c d d' log)
    (hhealth : isStatusConditionTrue d.conditions .ready = true →
      ∀ status, SawHealth c log d.key status → status = .isTrue) : d'.ReadyCaused := by
  obtain ⟨-, -, rfl⟩ | ⟨d₁, d₂, hflux, hupdated, rfl⟩ := ha
  · intro hready
    simp [multipleResources, isStatusConditionTrue_set] at hready
  obtain ⟨hst, hh, hr, cond, heq, htype, -, -⟩ | ⟨heq, hcause⟩ :=
    ReadyConditionStatusUpdater.mutateStatus_cases now d₂
  · -- Ready was set just now
    intro _
    rw [heq]
    have hne (t : DeploymentCondition) (ht : t ≠ .ready) :
        isStatusConditionTrue (setStatusCondition now d₂.conditions cond) t =
          isStatusConditionTrue d₂.conditions t :=
      isStatusConditionTrue_set_of_ne (by rw [htype]; exact ht.symm)
    exact ⟨(hne _ (by simp)).trans hh, (hne _ (by simp)).trans hr, (hne _ (by simp)).trans hst⟩
  · rw [heq]
    intro hready
    obtain hnot | ⟨hready₂, hstalled₂, hcreated₂⟩ := hupdated.ready
    · rw [hnot] at hready
      cases hready
    -- it was stored as ready, so the causes held before
    have hready₀ : isStatusConditionTrue d.conditions .ready = true := by
      rw [← hflux.isTrue rfl, ← hready₂]
      exact hready
    obtain ⟨hh₀, hr₀, hst₀⟩ := h hready₀
    have hh₁ : isStatusConditionTrue d₁.conditions .appHealthy = true := by
      obtain hsame | ⟨found, hfind, -, hsaw⟩ := hflux.health
      · rw [isStatusConditionTrue_congr hsame]
        exact hh₀
      · simp [isStatusConditionTrue, hfind, hhealth hready₀ _ hsaw]
    refine ⟨hupdated.appHealthy.trans hh₁, hcreated₂ ?_, hstalled₂.trans ?_⟩
    · rw [hflux.isTrue rfl]
      exact hr₀
    · rw [hflux.isTrue rfl]
      exact hst₀

/-- Every condition of this type has the status True. -/
def FluxObject.Reports {k : Kind} (t : FluxCondition) (o : FluxObject k) : Prop :=
  ∀ cond ∈ o.conditions, cond.type = t → cond.status = .isTrue

/-- The release of `key` reports no loss of health. -/
def World.Healthy (c : Controller) (key : NamespacedName) (w : World) : Prop :=
  ∀ o, w.flux c.release key = some o → o.Reports c.healthCondition

variable {key : NamespacedName}

theorem World.Healthy.setFlux {w : World} (h : w.Healthy c key) {k : Kind} (key' : NamespacedName)
    {o : FluxObject k} (ho : ∀ o', w.flux k key' = some o' → o.conditions = o'.conditions)
    (hnew : w.flux k key' = none → o.conditions = []) : (w.setFlux k key' o).Healthy c key := by
  unfold Healthy at h ⊢
  generalize c.release = r at h ⊢
  intro o' ho'
  simp only [World.setFlux] at ho'
  by_cases hk : r = k
  · subst hk
    rw [Function.update_self] at ho'
    by_cases hkey : key = key'
    · subst hkey
      rw [Function.update_self] at ho'
      obtain rfl := Option.some.inj ho'
      cases hold : w.flux r key with
      | none =>
        intro cond hmem
        rw [hnew hold] at hmem
        cases hmem
      | some o'' =>
        intro cond hmem
        rw [ho o'' hold] at hmem
        exact h o'' hold cond hmem
    · rw [Function.update_of_ne hkey] at ho'
      exact h o' ho'
  · rw [Function.update_of_ne hk] at ho'
    exact h o' ho'

/-- No call makes an object unhealthy. -/
theorem exec_healthy {s : Cluster} (h : s.world.Healthy c key) (op : Op) :
    (exec op s).2.world.Healthy c key := by
  have heffect := exec_effect op s
  generalize (exec op s).2 = t at heffect
  cases heffect with
  | same => exact h
  | patchStatus before after hd => exact h
  | createFlux spec hno =>
    exact h.setFlux _ (fun o' ho' => by simp [hno] at ho') fun _ => rfl
  | updateFlux version spec ho =>
    refine h.setFlux _ (fun o' ho' => ?_) fun hnone => by simp [ho] at hnone
    obtain rfl := Option.some.inj (ho.symm.trans ho')
    rfl

/-- Every answer shows the stored object, or a new one. -/
theorem exec_shows {s : Cluster} (h : s.world.Healthy c key) {op : Op} {a : Res op}
    (ha : (exec op s).1 = .ok a) {o : FluxObject c.release} (hsaw : Saw [⟨op, a⟩] c.release key o) :
    o.Reports c.healthCondition := by
  unfold World.Healthy at h
  generalize c.release = r at h o
  obtain ⟨spec, hmem⟩ | ⟨version, spec, hmem⟩ | hmem := hsaw
  · cases List.mem_singleton.mp hmem
    simp only [exec] at ha
    split at ha
    · cases ha
    · cases ha
      intro cond hmem
      cases hmem
  · cases List.mem_singleton.mp hmem
    simp only [exec] at ha
    split at ha
    · cases ha
    next o' ho' =>
    split at ha
    · cases ha
      exact h o' ho'
    · cases ha
  · cases List.mem_singleton.mp hmem
    simp only [exec] at ha
    split at ha
    · cases ha
    next ho' =>
    obtain rfl := Except.ok.inj ha
    exact h _ ho'

theorem Saw.exists_mem {k : Kind} {o : FluxObject k} (h : Saw log k key o) :
    ∃ e ∈ log, Saw [e] k key o := by
  obtain ⟨spec, hmem⟩ | ⟨version, spec, hmem⟩ | hmem := h
  · exact ⟨_, hmem, .inl ⟨spec, List.mem_singleton_self _⟩⟩
  · exact ⟨_, hmem, .inr (.inl ⟨version, spec, List.mem_singleton_self _⟩)⟩
  · exact ⟨_, hmem, .inr (.inr (List.mem_singleton_self _))⟩

/-- The worlds that a change brings in report no loss of health. -/
def Change.Healthy (c : Controller) (key : NamespacedName) : Change → Prop
  | setWorld w => w.Healthy c key
  | _ => True

theorem Change.Healthy.apply {change : Change} (h : change.Healthy c key) {s : Cluster}
    (hs : s.world.Healthy c key) : (change.apply s).world.Healthy c key := by
  cases change with
  | setSpec _ _ =>
    simp only [Change.apply]
    split <;> exact hs
  | setMetadata _ _ _ =>
    simp only [Change.apply]
    split <;> exact hs
  | setWorld w => exact h

theorem changes_healthy {changes : List Change} (h : ∀ change ∈ changes, change.Healthy c key)
    {s : Cluster} (hs : s.world.Healthy c key) :
    (changes.foldl (fun s c => c.apply s) s).world.Healthy c key := by
  refine List.foldlRecOn (motive := fun t : Cluster => t.world.Healthy c key) changes _ hs ?_
  exact fun t ht change hmem => (h change hmem).apply ht

/-- What a whole reconcile sees of the release, when nobody reports a loss of health. -/
theorem round_sawHealth {req : NamespacedName} {env : Circumstances} {s : Cluster}
    (hs : s.world.Healthy c key) (hchanges : ∀ n, ∀ change ∈ env.changes n, change.Healthy c key)
    {status : ConditionStatus} (hsaw : SawHealth c (round lib c req env s).log key status) :
    status = .isTrue := by
  have hlog : (reconcile lib env.now c req).Ensures (server env.changes)
      (fun _ y => ∀ e ∈ y.2, ∀ o, Saw [⟨e.op, e.answer⟩] c.release key o →
        o.Reports c.healthCondition) ((s, 0), []) := by
    have hinv : ∀ (op : Op) (x : Cluster × ℕ), x.1.world.Healthy c key →
        (disturbed env.changes op x).2.1.world.Healthy c key :=
      fun op x hx => changes_healthy (hchanges x.2) (exec_healthy hx op)
    have hanswer : ∀ (op : Op) (x : Cluster × ℕ) (a : Res op), x.1.world.Healthy c key →
        (disturbed env.changes op x).1 = .ok a → ∀ o, Saw [⟨op, a⟩] c.release key o →
          o.Reports c.healthCondition :=
      fun op x a hx ha o hsaw => exec_shows hx ha hsaw
    exact Prog.ensures_logged (s := (s, 0)) hinv hanswer _ hs fun e he => by cases he
  obtain ⟨o, hsaw, cond, hmem, htype, rfl⟩ := hsaw
  obtain ⟨e, he, hsaw⟩ := hsaw.exists_mem
  exact Prog.ensures_iff_run.mp hlog env.faults e he o hsaw cond hmem htype

/-- A reconcile of a ready deployment finds no report of lost health, neither when it
starts nor in what changes meanwhile. -/
def KeepsHealth (s : Cluster) : Label → Prop
  | .change _ => True
  | .reconcile c req env => ∀ d, s.deployments req = some d →
      isStatusConditionTrue d.conditions .ready = true →
        s.world.Healthy c d.key ∧ ∀ n, ∀ change ∈ env.changes n, change.Healthy c d.key

/-- Every stored deployment that is ready has the causes of it. -/
def Cluster.ReadyCaused (s : Cluster) : Prop :=
  ∀ key d, s.deployments key = some d → d.ReadyCaused

theorem Cluster.ReadyCaused.evolves {s t : Cluster} (h : s.ReadyCaused) (hev : s.Evolves t) :
    t.ReadyCaused := by
  intro key d' hd'
  obtain ⟨d, hd, hev⟩ := hev.back hd'
  have hst := hev.status
  simp only [Deployment.status, Status.mk.injEq] at hst
  unfold Deployment.ReadyCaused
  rw [hst.1]
  exact h key d hd

/-- One step. -/
theorem Cluster.ReadyCaused.step {s t : Cluster} {l : Label} (h : s.ReadyCaused)
    (hl : KeepsHealth s l) (hn : (deployers lib).next s l = some t) : t.ReadyCaused := by
  cases l with
  | change change =>
    obtain rfl := Option.some.inj hn
    exact h.evolves (Cluster.evolves_apply change s)
  | reconcile c req env =>
    obtain rfl := Option.some.inj hn
    obtain ⟨-, hev⟩ | @⟨before, d, d', answer, hlog, hd, -, ha, hev⟩ := round_cases lib c req env s
    · exact h.evolves hev
    · refine Cluster.ReadyCaused.evolves (fun key d₁ hd₁ => ?_) hev
      simp only [Cluster.setDeployment, Function.update_apply] at hd₁
      split at hd₁
      · obtain rfl := Option.some.inj hd₁
        refine (h req d hd).attempted ha fun hready status hsaw => ?_
        obtain ⟨hs, hchanges⟩ := hl d hd hready
        have hall : SawHealth c (round lib c req env s).log d.key status := by
          rw [hlog]
          exact hsaw.append _
        exact round_sawHealth hs hchanges hall
      · exact h key d₁ hd₁

/-- In every run whose reconciles of ready deployments find no report of lost health,
Ready comes with AppHealthy and DeploymentResultCreated, and without Stalled. -/
theorem ready_has_causes (lib : Libraries) (s : Cluster)
    (hs : (deployers lib).Reaches KeepsHealth s) (key : NamespacedName) (d : Deployment)
    (hd : s.deployments key = some d) (hready : isStatusConditionTrue d.conditions .ready = true) :
    isStatusConditionTrue d.conditions .appHealthy = true ∧
      isStatusConditionTrue d.conditions .deploymentResultCreated = true ∧
      isStatusConditionTrue d.conditions .stalled = false := by
  have hall : s.ReadyCaused := by
    refine System.Reaches.invariant ?_ ?_ hs
    · intro s₀ h₀ key d hd hready
      simp [(h₀ key d hd).1, isStatusConditionTrue, findStatusCondition] at hready
    · intro s₁ l t h hl hn
      exact h.step hl hn
  exact hall key d hd hready

/-- The chart after its first reconcile. -/
def podinfoReady : Cluster :=
  (round podinfoLibraries .helm podinfoKey (undisturbed 1)
    (podinfoCluster (podinfoWorld .isTrue []))).cluster

theorem ready_has_causes_podinfo : ∃ d, podinfoReady.deployments podinfoKey = some d ∧
    isStatusConditionTrue d.conditions .ready = true ∧
    isStatusConditionTrue d.conditions .appHealthy = true := by
  have hany : (podinfoReady.deployments podinfoKey).any
      (fun d => isStatusConditionTrue d.conditions .ready) = true := by decide +kernel
  obtain ⟨d, hd, hready⟩ := (Option.any_eq_true _ _).mp hany
  have hreach : (deployers podinfoLibraries).Reaches KeepsHealth podinfoReady := by
    refine (System.Reaches.init (podinfoCluster_fresh (podinfoWorld .isTrue []))).step
      (l := .reconcile .helm podinfoKey (undisturbed 1)) ?_ rfl
    intro d hd hready
    simp only [podinfoCluster, Function.update_self, Option.some.injEq] at hd
    subst hd
    cases hready
  exact ⟨d, hd, hready, (ready_has_causes podinfoLibraries podinfoReady hreach podinfoKey d hd
    hready).1⟩

/-- Flux reports a failed release, and the next reconcile leaves Ready as it was. -/
theorem ready_outlives_health : ∃ s, (deployers podinfoLibraries).Reachable s ∧
    (s.deployments podinfoKey).any (fun d => isStatusConditionTrue d.conditions .ready &&
      !isStatusConditionTrue d.conditions .appHealthy) = true :=
  System.reachable_of_follow (deployers podinfoLibraries)
    [.reconcile .helm podinfoKey (undisturbed 1), .change (.setWorld (podinfoWorld .isFalse [])),
      .reconcile .helm podinfoKey (undisturbed 2)]
    (fun s => (s.deployments podinfoKey).any fun d => isStatusConditionTrue d.conditions .ready &&
      !isStatusConditionTrue d.conditions .appHealthy)
    (podinfoCluster_fresh (podinfoWorld .isTrue [])) (by decide +kernel)

end LandscapeOrchestrator.ArtifactDeploymentController
