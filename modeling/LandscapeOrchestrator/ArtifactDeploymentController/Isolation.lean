import LandscapeOrchestrator.Apilib.Justified
import LandscapeOrchestrator.ArtifactDeploymentController.CalmPass

/-!
# Deployments do not interfere

The Flux objects of a deployment bear its name, and a reconcile writes no other. So a
deployment is left alone by any number of reconciles of other deployments, whatever
happens during them.
-/

namespace LandscapeOrchestrator.ArtifactDeploymentController
open Apilib
open FluxDeployer (OCMResource HelmChartResource KustomizeResource toHelm toKustomize)

variable {lib : Libraries} {now : ℕ} {c : Controller} {d : Deployment} {k : Kind}
  {key req : NamespacedName} {s s₀ : Cluster} {log : Log}

section Calls

/-- Flux objects of this name alone are written. -/
def Op.WritesFlux (key : NamespacedName) : Op → Prop
  | .createFlux _ key' _ => key' = key
  | .updateFlux _ key' _ _ => key' = key
  | .patchStatus _ _ _ => False
  | _ => True

theorem Op.writesFlux_of_isLookup {op : Op} (h : op.isLookup = true) : op.WritesFlux key := by
  cases op <;> simp_all [Op.isLookup, Op.WritesFlux]

abbrev OwnFlux {α : Type} (key : NamespacedName) (Q : α → Prop) (p : Program α) : Prop :=
  p.Within (Op.WritesFlux key) Q

theorem ownFlux_of_lookups {α : Type} {p : Program α} (h : p.Uses fun op => op.isLookup = true) :
    OwnFlux key (fun _ => True) p := by
  induction p with
  | ret a => trivial
  | call op k ih => exact ⟨Op.writesFlux_of_isLookup h.1, fun r => ih r (h.2 r)⟩

theorem createOrUpdate_own {mutate : Program (Except String k.Spec)}
    (hm : mutate.Uses fun op => op.isLookup = true) :
    OwnFlux key (fun _ => True) (createOrUpdate k key mutate) := by
  refine .perform_bind trivial fun r => ?_
  cases r with
  | error e =>
    dsimp only
    split
    · refine (ownFlux_of_lookups hm).bind fun r _ => ?_
      cases r with
      | error cause => trivial
      | ok spec => exact .perform_bind rfl fun r => by cases r <;> trivial
    · trivial
  | ok o =>
    refine (ownFlux_of_lookups hm).bind fun r _ => ?_
    cases r with
    | error cause => trivial
    | ok spec =>
      dsimp only
      split
      · trivial
      · exact .perform_bind rfl fun r => by cases r <;> trivial

theorem reconcileFlux_own (kindName : String) {mutate : Program (Except String k.Spec)}
    (hm : mutate.Uses fun op => op.isLookup = true) :
    OwnFlux d.key (fun _ => True) (reconcileFlux k kindName d mutate) := by
  refine (createOrUpdate_own hm).bind fun r _ => ?_
  cases r <;> trivial

theorem helmFlux_own (resource : OCMResource) (d : Deployment) :
    OwnFlux d.key (fun _ => True) (helmFlux lib now resource d) := by
  unfold helmFlux
  split
  · trivial
  next chart _ =>
  have hrepo : OwnFlux d.key (fun _ => True) (helmRepositoryReconcile lib d chart) :=
    (reconcileFlux_own _ (withSecretRef_uses _ _ _)).bind fun r _ => by cases r <;> trivial
  have hstatus (release : FluxObject .helmRelease) :
      OwnFlux d.key (fun _ => True) (mapHelmStatus now d release) := by
    have hchart : OwnFlux d.key (fun _ => True) (getHelmChart d) :=
      .perform_bind trivial fun r => by cases r <;> trivial
    refine hchart.bind fun chart _ => ?_
    cases chart with
    | none => trivial
    | some chart =>
      dsimp only
      split <;> trivial
  refine hrepo.bind fun r _ => ?_
  cases r with
  | error cause => trivial
  | ok _ =>
    refine Prog.Within.bind (R := fun _ => True) ?_ fun r _ => by cases r <;> trivial
    refine (reconcileFlux_own _ (withKubeConfig_uses _)).bind fun r _ => ?_
    cases r with
    | error cause => trivial
    | ok release => exact (hstatus release).bind fun _ _ => trivial

theorem kustomizeFlux_own (resource : OCMResource) (d : Deployment) :
    OwnFlux d.key (fun _ => True) (kustomizeFlux lib now resource d) := by
  unfold kustomizeFlux
  split
  · trivial
  next artifact _ =>
  -- The Kustomization is written for a copy, which has the same name.
  have hrepo : OwnFlux d.key (fun r => ∀ b d', r = .ok (b, d') → d'.key = d.key)
      (ociRepositoryReconcile lib now d artifact) := by
    refine (reconcileFlux_own _ (withSecretRef_uses _ _ _)).bind fun r _ => ?_
    cases r with
    | error cause => exact fun b d' h => by cases h
    | ok o =>
      rintro b d' ⟨⟩
      rfl
  have hrelease (d : Deployment) :
      OwnFlux d.key (fun _ => True) (kustomizationReconcile lib now d artifact) :=
    (reconcileFlux_own _ (withKubeConfig_uses _)).bind fun r _ => by cases r <;> trivial
  refine hrepo.bind fun r hr => ?_
  cases r with
  | error cause => trivial
  | ok r =>
    obtain ⟨isReady, d'⟩ := r
    rw [← hr isReady d' rfl]
    dsimp only
    split
    · refine (hrelease d').bind fun r _ => ?_
      cases r <;> trivial
    · trivial

theorem advance_own (c : Controller) (d : Deployment) :
    OwnFlux d.key (fun _ => True) (advance lib now c d) := by
  have hflux : OwnFlux d.key (fun _ => True) (applyFlux lib now c d) := by
    unfold applyFlux
    split
    · cases c with
      | helm => exact helmFlux_own _ d
      | kustomize => exact kustomizeFlux_own _ d
    · trivial
  have hservices {α : Type} (p : FluxDeployer.Program α) : OwnFlux d.key (fun _ => True) (ofServices p) := by
    induction p with
    | ret a => trivial
    | call op k ih => exact ⟨trivial, fun r => ih _⟩
  refine hflux.bind fun d' _ => ?_
  refine Prog.Within.bind (R := fun _ => True) ?_ fun _ _ => trivial
  exact (hservices _).bind fun r _ => by cases r <;> trivial

/-- A reconcile writes the Flux objects of the deployment it has read, and the status of
the one it was asked for. -/
def OwnCall (req : NamespacedName) (log : Log) : Op → Prop
  | .createFlux _ key _ => ∃ d, ⟨.getDeployment req, d⟩ ∈ log ∧ key = d.key
  | .updateFlux _ key _ _ => ∃ d, ⟨.getDeployment req, d⟩ ∈ log ∧ key = d.key
  | .patchStatus key _ _ => key = req
  | _ => True

theorem ownCall_of_writesFlux {op : Op} (hop : op.WritesFlux d.key)
    (hmem : ⟨.getDeployment req, d⟩ ∈ log) : OwnCall req log op := by
  cases op with
  | createFlux k key spec => exact ⟨d, hmem, hop⟩
  | updateFlux k key version spec => exact ⟨d, hmem, hop⟩
  | patchStatus key before after => exact hop.elim
  | _ => trivial

theorem patchIfChanged_own (original : Deployment) (log : Log) :
    (patchIfChanged req original d).Justified (OwnCall req) (fun _ _ => True) log := by
  unfold patchIfChanged
  split
  · trivial
  · exact ⟨rfl, fun _ => trivial, fun _ => trivial⟩

theorem reconcile_own (lib : Libraries) (now : ℕ) (c : Controller) (req : NamespacedName) :
    (reconcile lib now c req).Justified (OwnCall req) (fun _ _ => True) [] := by
  unfold reconcile
  refine Prog.justified_perform_bind.mpr ⟨trivial, fun original => ?_, fun e => ?_⟩
  · dsimp only
    split
    · trivial
    split
    · refine (patchIfChanged_own original _).bind fun r log _ => ?_
      cases r <;> trivial
    · refine ((advance_own c original).justified fun more op hop =>
        ownCall_of_writesFlux hop (by simp)).bind fun d log _ => ?_
      refine (patchIfChanged_own original log).bind fun r log _ => ?_
      cases r <;> trivial
  · dsimp only
    split <;> trivial

end Calls

section Runs

/-- An object is stored under its own name. -/
def Cluster.Named (s : Cluster) : Prop := ∀ key d, s.deployments key = some d → d.key = key

/-- The status of the deployment and its Flux objects are as they were in `s₀`. -/
structure Untouched (s₀ : Cluster) (key : NamespacedName) (s : Cluster) : Prop where
  status : (s.deployments key).map Deployment.status = (s₀.deployments key).map Deployment.status
  flux : ∀ k, s.world.flux k key = s₀.world.flux k key

theorem Cluster.Named.setDeployment (h : s.Named) (hd : d.key = key) : (s.setDeployment key d).Named := by
  intro key' d' hd'
  simp only [Cluster.setDeployment, Function.update_apply] at hd'
  split at hd'
  · next heq =>
    obtain rfl := Option.some.inj hd'
    rw [hd, heq]
  · exact h key' d' hd'

theorem Untouched.setDeployment {req : NamespacedName} {d' : Deployment} (h : Untouched s₀ key s)
    (hd : s.deployments req = some d) (hkeep : req = key → d'.status = d.status) :
    Untouched s₀ key (s.setDeployment req d') := by
  refine ⟨?_, h.flux⟩
  rw [← h.status]
  by_cases hreq : key = req
  · subst hreq
    simp [Cluster.setDeployment, hd, hkeep rfl]
  · simp [Cluster.setDeployment, Function.update_of_ne hreq]

/-- Others may do anything but to the Flux objects of this name. -/
def Change.Spares (s₀ : Cluster) (key : NamespacedName) : Change → Prop
  | setWorld world => ∀ k, world.flux k key = s₀.world.flux k key
  | _ => True

theorem Change.Spares.apply {change : Change} (h : change.Spares s₀ key)
    (hs : s.Named ∧ Untouched s₀ key s) :
    (change.apply s).Named ∧ Untouched s₀ key (change.apply s) := by
  cases change with
  | setWorld world => exact ⟨hs.1, hs.2.status, h⟩
  | setSpec key' spec =>
    simp only [Change.apply]
    split
    · exact hs
    · next d hd => exact ⟨hs.1.setDeployment (hs.1 key' d hd), hs.2.setDeployment hd fun _ => rfl⟩
  | setMetadata key' labels annotations =>
    simp only [Change.apply]
    split
    · exact hs
    · next d hd => exact ⟨hs.1.setDeployment (hs.1 key' d hd), hs.2.setDeployment hd fun _ => rfl⟩

theorem changes_spare {changes : List Change} (h : ∀ change ∈ changes, change.Spares s₀ key)
    (hs : s.Named ∧ Untouched s₀ key s) :
    (changes.foldl (fun s change => change.apply s) s).Named ∧
      Untouched s₀ key (changes.foldl (fun s change => change.apply s) s) := by
  refine List.foldlRecOn (motive := fun t : Cluster => t.Named ∧ Untouched s₀ key t) changes _ hs ?_
  exact fun t ht change hmem => (h change hmem).apply ht

/-- What was read under a name bears it. -/
def ReadNamed (log : Log) : Prop := ∀ key d, ⟨.getDeployment key, d⟩ ∈ log → d.key = key

theorem ReadNamed.append (h : ReadNamed log) (hs : s.Named) {op : Op} {a : Res op}
    (ha : (exec op s).1 = .ok a) : ReadNamed (log ++ [⟨op, a⟩]) := by
  intro key d hmem
  obtain hmem | hmem := List.mem_append.mp hmem
  · exact h key d hmem
  · cases List.mem_singleton.mp hmem
    cases hstored : s.deployments key with
    | none => simp [exec, hstored] at ha
    | some d' =>
      simp only [exec, hstored, Except.ok.injEq] at ha
      exact ha ▸ hs key d' hstored

theorem Untouched.setFlux (h : Untouched s₀ key s) (hne : key ≠ req) (o : FluxObject k) :
    Untouched s₀ key (s.setFlux k req o) := by
  refine ⟨h.status, fun k' => ?_⟩
  rw [← h.flux k']
  by_cases hk : k' = k
  · subst hk
    simp [Cluster.setFlux, World.setFlux, Function.update_of_ne hne]
  · simp [Cluster.setFlux, World.setFlux, Function.update_of_ne hk]

/-- A call of a reconcile of another deployment. -/
theorem exec_spares {op : Op} (hop : OwnCall req log op) (hne : key ≠ req) (hlog : ReadNamed log)
    (hs : s.Named ∧ Untouched s₀ key s) : (exec op s).2.Named ∧ Untouched s₀ key (exec op s).2 := by
  have heffect := exec_effect op s
  generalize (exec op s).2 = t at heffect
  cases heffect with
  | same => exact hs
  | @patchStatus key' d before after hd =>
    obtain rfl : key' = req := hop
    exact ⟨hs.1.setDeployment (hs.1 _ d hd), hs.2.setDeployment hd fun h => absurd h.symm hne⟩
  | createFlux spec hno =>
    obtain ⟨d, hmem, rfl⟩ := hop
    rw [hlog req d hmem]
    exact ⟨hs.1, hs.2.setFlux hne _⟩
  | updateFlux version spec ho =>
    obtain ⟨d, hmem, rfl⟩ := hop
    rw [hlog req d hmem]
    exact ⟨hs.1, hs.2.setFlux hne _⟩

/-- A whole reconcile of another deployment. -/
theorem round_spares {env : Circumstances} (hne : key ≠ req)
    (henv : ∀ n, ∀ change ∈ env.changes n, change.Spares s₀ key) (hs : s.Named ∧ Untouched s₀ key s) :
    (round lib c req env s).cluster.Named ∧ Untouched s₀ key (round lib c req env s).cluster := by
  have hcall {op : Op} {x : Cluster × ℕ} {log : Log} (hop : OwnCall req log op)
      (hx : (x.1.Named ∧ Untouched s₀ key x.1) ∧ ReadNamed log) :
      (disturbed env.changes op x).2.1.Named ∧ Untouched s₀ key (disturbed env.changes op x).2.1 :=
    changes_spare (henv _) (exec_spares hop hne hx.2 hx.1)
  have hensures := (reconcile_own lib env.now c req).ensures (disturbed env.changes)
    (fun x log => (x.1.Named ∧ Untouched s₀ key x.1) ∧ ReadNamed log)
    (fun op x log a hop hx ha => ⟨hcall hop hx, hx.2.append hx.1.1 ha⟩)
    (fun op x log e hop hx _ => ⟨hcall hop hx, hx.2⟩) (s := (s, 0))
    ⟨hs, fun key d hmem => by cases hmem⟩
  exact (Prog.ensures_iff_run.mp hensures env.faults).2.1

/-- Only other deployments are reconciled, and others spare the Flux objects of this one. -/
def LeavesAlone (s₀ : Cluster) (key : NamespacedName) (_ : Cluster) : Label → Prop
  | .change change => change.Spares s₀ key
  | .reconcile _ req env => key ≠ req ∧ ∀ n, ∀ change ∈ env.changes n, change.Spares s₀ key

/-- A deployment is not reconciled: in every run of reconciles of other deployments, by
either controller, whichever calls fail and whatever others change meanwhile, its status
and its Flux objects stay as they are. -/
theorem deployments_isolated (lib : Libraries) (s₀ : Cluster) (hnamed : s₀.Named) (key : NamespacedName)
    (s : Cluster) (h : ((deployers lib).after s₀).Reaches (LeavesAlone s₀ key) s) :
    Untouched s₀ key s := by
  have hboth : s.Named ∧ Untouched s₀ key s := by
    induction h with
    | init hx =>
      obtain rfl := hx
      exact ⟨hnamed, rfl, fun _ => rfl⟩
    | @step x y l _ hok hn ih =>
      cases l with
      | change change =>
        obtain rfl := Option.some.inj hn
        exact Change.Spares.apply hok ih
      | reconcile c req env =>
        obtain rfl := Option.some.inj hn
        exact round_spares hok.1 hok.2 ih
  exact hboth.2

def cartKey : NamespacedName := ⟨"shop", "cart"⟩

/-- Two charts in one namespace. -/
def podinfoAndCart : Cluster :=
  (podinfoCluster (podinfoWorld .isTrue [])).setDeployment cartKey { podinfo with name := "cart" }

/-- A reconcile of one chart makes it ready and leaves the other alone. -/
theorem deployments_isolated_cart :
    ∃ s, ((deployers podinfoLibraries).after podinfoAndCart).Reaches (LeavesAlone podinfoAndCart cartKey) s ∧
      ((s.deployments podinfoKey).map fun d => isStatusConditionTrue d.conditions .ready) = some true ∧
      Untouched podinfoAndCart cartKey s := by
  have once (s : Cluster) (hs : s.Named) (hready : ((round podinfoLibraries .helm podinfoKey
        (undisturbed 1) s).cluster.deployments podinfoKey).map
          (fun d => isStatusConditionTrue d.conditions .ready) = some true) :
      ∃ t, ((deployers podinfoLibraries).after s).Reaches (LeavesAlone s cartKey) t ∧
        ((t.deployments podinfoKey).map fun d => isStatusConditionTrue d.conditions .ready) = some true ∧
        Untouched s cartKey t := by
    have hrun : ((deployers podinfoLibraries).after s).Reaches (LeavesAlone s cartKey)
        (round podinfoLibraries .helm podinfoKey (undisturbed 1) s).cluster :=
      (System.Reaches.init rfl).step (l := .reconcile .helm podinfoKey (undisturbed 1))
        ⟨by decide, fun n change hmem => by cases hmem⟩ rfl
    exact ⟨_, hrun, hready, deployments_isolated podinfoLibraries s hs cartKey _ hrun⟩
  have hnamed : podinfoAndCart.Named := by
    intro key d hd
    simp only [podinfoAndCart, podinfoCluster, Cluster.setDeployment, Function.update_apply] at hd
    split at hd
    · next h => exact Option.some.inj hd ▸ h ▸ rfl
    · split at hd
      · next h => exact Option.some.inj hd ▸ h ▸ rfl
      · cases hd
  exact once podinfoAndCart hnamed (by decide +kernel)

end Runs

end LandscapeOrchestrator.ArtifactDeploymentController
