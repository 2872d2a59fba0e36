import LandscapeOrchestrator.Apilib.Justified
import LandscapeOrchestrator.ArtifactDeploymentController.Rounds

/-!
# Where credentials come from

A source carries a pull secret and a release the kubeconfig of its target. Both are looked
up anew in every reconcile: the secret for the host of the object's own repository, the
target for the namespace and the type of the object's own deployment. Whatever happens
between two calls, an object is written only with what the same reconcile has looked up
for it; over a whole run, every object that is stored was written so.

## Main definitions

- `Credentials` — the credentials of a spec, against the log of one reconcile
- `Provided` — a reconcile has looked the credentials of an object up and written it
- `recorded` — runs of the two controllers, beside the log of each of their reconciles
-/

namespace LandscapeOrchestrator.ArtifactDeploymentController
open Apilib
open FluxDeployer (OCMResource HelmChartResource KustomizeResource toHelm toKustomize)

/-- The ready target for the deployment has this kubeconfig, which is none for the local
cluster. -/
def TargetFor (log : Log) (d : Deployment) (kubeConfig : Option String) : Prop :=
  ∃ target, ⟨.findReadyTarget d.ns d.spec.artifactType, target⟩ ∈ log ∧
    target.kubeConfig = .ok kubeConfig

/-- The pull secret for the host of a repository: the one that the configuration names for
the host, or else the one of the host's name in the namespace of the deployment. There is
none when the deployment asks for none, without a host, and when neither is found. -/
def SecretFor (lib : Libraries) (log : Log) (d : Deployment) (repository : String) :
    Option String → Prop
  | none => hasTrueLabel d "registry-skip-auth" = true ∨
      ∃ domain, lib.extractHostname repository = .ok domain ∧
        (domain = "" ∨ ⟨.getSecretByConfigMap defaultConfigMapName domain, ""⟩ ∈ log)
  | some name => hasTrueLabel d "registry-skip-auth" = false ∧
      ∃ domain, lib.extractHostname repository = .ok domain ∧ domain ≠ "" ∧
        (name ≠ "" ∧ ⟨.getSecretByConfigMap defaultConfigMapName domain, name⟩ ∈ log ∨
          name = lib.resourceName domain ∧
            ⟨.getSecretByConfigMap defaultConfigMapName domain, ""⟩ ∈ log ∧
            ⟨.getSecret ⟨d.ns, name⟩, ()⟩ ∈ log)

/-- HelmCharts are made by Flux and carry no credentials of ours. -/
def Credentials (lib : Libraries) (log : Log) (d : Deployment) : (k : Kind) → k.Spec → Prop
  | .helmRepository, spec => SecretFor lib log d spec.url spec.secretRef
  | .helmChart, _ => True
  | .helmRelease, spec => TargetFor log d spec.kubeConfig
  | .ociRepository, spec => SecretFor lib log d spec.url spec.secretRef
  | .kustomization, spec => TargetFor log d spec.kubeConfig

def WroteWith (log : Log) (k : Kind) (key : NamespacedName) (spec : k.Spec) : Prop :=
  (∃ o, ⟨.createFlux k key spec, o⟩ ∈ log) ∨ ∃ version o, ⟨.updateFlux k key version spec, o⟩ ∈ log

/-- The reconcile has read the deployment of the object and looked the credentials up
for it. -/
def LookedUp (lib : Libraries) (log : Log) (k : Kind) (key : NamespacedName) (spec : k.Spec) : Prop :=
  ∃ req d, ⟨.getDeployment req, d⟩ ∈ log ∧ d.key = key ∧ Credentials lib log d k spec

/-- The reconcile has looked the credentials up and written the object with them. -/
structure Provided (lib : Libraries) (log : Log) (k : Kind) (key : NamespacedName)
    (spec : k.Spec) : Prop where
  lookedUp : LookedUp lib log k key spec
  wrote : WroteWith log k key spec

/-- Every object of ours was provided for by a reconcile on record. -/
def World.Vouched (lib : Libraries) (record : List Log) (w : World) : Prop :=
  ∀ k key o, k ≠ .helmChart → w.flux k key = some o → ∃ log ∈ record, Provided lib log k key o.spec

variable {lib : Libraries} {now : ℕ} {c : Controller} {d : Deployment} {log : Log}
  {record : List Log} {k : Kind} {key : NamespacedName} {w : World}

section Growth

variable (more : Log)

theorem TargetFor.append {kubeConfig : Option String} (h : TargetFor log d kubeConfig) :
    TargetFor (log ++ more) d kubeConfig := by
  obtain ⟨target, hmem, hconfig⟩ := h
  exact ⟨target, List.mem_append_left _ hmem, hconfig⟩

theorem SecretFor.append {repository : String} {secretRef : Option String}
    (h : SecretFor lib log d repository secretRef) :
    SecretFor lib (log ++ more) d repository secretRef := by
  cases secretRef with
  | none =>
    refine h.imp_right ?_
    rintro ⟨domain, hdomain, hnone⟩
    exact ⟨domain, hdomain, hnone.imp_right (List.mem_append_left _)⟩
  | some name =>
    obtain ⟨hauth, domain, hdomain, hne, hfound⟩ := h
    refine ⟨hauth, domain, hdomain, hne, hfound.imp ?_ ?_⟩
    · rintro ⟨hname, hmem⟩
      exact ⟨hname, List.mem_append_left _ hmem⟩
    · rintro ⟨hname, hnone, hmem⟩
      exact ⟨hname, List.mem_append_left _ hnone, List.mem_append_left _ hmem⟩

theorem Credentials.append {spec : k.Spec} (h : Credentials lib log d k spec) :
    Credentials lib (log ++ more) d k spec := by
  cases k with
  | helmRepository => exact SecretFor.append more h
  | helmChart => trivial
  | helmRelease => exact TargetFor.append more h
  | ociRepository => exact SecretFor.append more h
  | kustomization => exact TargetFor.append more h

theorem LookedUp.append {spec : k.Spec} (h : LookedUp lib log k key spec) :
    LookedUp lib (log ++ more) k key spec := by
  obtain ⟨req, d, hread, hkey, hcredentials⟩ := h
  exact ⟨req, d, List.mem_append_left _ hread, hkey, hcredentials.append more⟩

theorem Provided.append {spec : k.Spec} (h : Provided lib log k key spec) :
    Provided lib (log ++ more) k key spec := by
  refine ⟨h.lookedUp.append more, h.wrote.imp ?_ ?_⟩
  · rintro ⟨o, hmem⟩
    exact ⟨o, List.mem_append_left _ hmem⟩
  · rintro ⟨version, o, hmem⟩
    exact ⟨version, o, List.mem_append_left _ hmem⟩

theorem World.Vouched.append (h : w.Vouched lib (record ++ [log])) :
    w.Vouched lib (record ++ [log ++ more]) := by
  intro k key o hk ho
  obtain ⟨log', hmem, hprovided⟩ := h k key o hk ho
  obtain hmem | hmem := List.mem_append.mp hmem
  · exact ⟨log', List.mem_append_left _ hmem, hprovided⟩
  · obtain rfl := List.mem_singleton.mp hmem
    exact ⟨_, List.mem_append_right _ List.mem_cons_self, hprovided.append more⟩

theorem World.Vouched.mono {record' : List Log} (h : w.Vouched lib record)
    (hsub : record ⊆ record') : w.Vouched lib record' := by
  intro k key o hk ho
  obtain ⟨log, hmem, hprovided⟩ := h k key o hk ho
  exact ⟨log, hsub hmem, hprovided⟩

end Growth

section Calls

/-- What a call writes for `d`, it writes under the name of `d` and with credentials that
were looked up for `d`; the other calls need none. -/
def VouchedCall (lib : Libraries) (d : Deployment) (log : Log) : Op → Prop
  | .createFlux k key spec => key = d.key ∧ Credentials lib log d k spec
  | .updateFlux k key _ spec => key = d.key ∧ Credentials lib log d k spec
  | _ => True

/-- The conditions of the deployment do not matter. -/
theorem vouchedCall_congr {d' : Deployment} (h : d' = { d with conditions := d'.conditions }) :
    VouchedCall lib d' = VouchedCall lib d := by
  rw [h]
  funext log op
  cases op with
  | createFlux k key spec => cases k <;> rfl
  | updateFlux k key version spec => cases k <;> rfl
  | _ => rfl

abbrev VouchedCalls {α : Type} (lib : Libraries) (d : Deployment) (Q : α → Log → Prop)
    (p : Program α) (log : Log) : Prop :=
  p.Justified (VouchedCall lib d) Q log

theorem getSecretRef_vouched (d : Deployment) (repository : String) (log : Log) :
    VouchedCalls lib d (fun r log => ∀ ref, r = .ok ref → SecretFor lib log d repository ref)
      (getSecretRef lib d repository) log := by
  unfold getSecretRef
  split
  · next hskip =>
    rintro _ ⟨⟩
    exact .inl hskip
  next hauth =>
  have hauth : hasTrueLabel d "registry-skip-auth" = false := Bool.eq_false_iff.mpr hauth
  split
  · exact fun ref h => by cases h
  next domain hdomain =>
  split
  · next hempty =>
    rintro _ ⟨⟩
    exact .inr ⟨domain, hdomain, .inl hempty⟩
  next hne =>
  refine Prog.justified_perform_bind.mpr ⟨trivial, fun configured => ?_, fun e => ?_⟩
  swap
  · exact fun ref h => by cases h
  dsimp only
  split
  · next hconfigured =>
    rintro _ ⟨⟩
    exact ⟨hauth, domain, hdomain, hne, .inl ⟨hconfigured, by simp⟩⟩
  next hconfigured =>
  obtain rfl : configured = "" := not_not.mp hconfigured
  refine Prog.justified_perform_bind.mpr ⟨trivial, fun _ => ?_, fun e => ?_⟩
  · rintro _ ⟨⟩
    exact ⟨hauth, domain, hdomain, hne, .inr ⟨rfl, by simp, by simp⟩⟩
  · dsimp only
    split
    · rintro _ ⟨⟩
      exact .inr ⟨domain, hdomain, .inr (by simp)⟩
    · exact fun ref h => by cases h

theorem withSecretRef_vouched {σ : Type} (d : Deployment) (repository kindName : String)
    (spec : Option String → σ) (log : Log) :
    VouchedCalls lib d (fun r log => ∀ made, r = .ok made →
        ∃ ref, SecretFor lib log d repository ref ∧ made = spec ref)
      (withSecretRef lib d repository kindName spec) log := by
  refine (getSecretRef_vouched d repository log).bind fun r log hr => ?_
  cases r with
  | error cause => exact fun made h => by cases h
  | ok ref =>
    rintro _ ⟨⟩
    exact ⟨ref, hr ref rfl, rfl⟩

theorem withKubeConfig_vouched {σ : Type} (d : Deployment) (spec : Option String → σ) (log : Log) :
    VouchedCalls lib d (fun r log => ∀ made, r = .ok made →
        ∃ ref, TargetFor log d ref ∧ made = spec ref)
      (withKubeConfig d spec) log := by
  have hget : VouchedCalls lib d (fun r log => ∀ ref, r = .ok ref → TargetFor log d ref)
      (getKubeConfigRef d.ns d.spec.artifactType) log :=
    ⟨trivial, fun target ref href => ⟨target, by simp, href⟩, fun e ref h => by cases h⟩
  refine hget.bind fun r log hr => ?_
  cases r with
  | error cause => exact fun made h => by cases h
  | ok ref =>
    rintro _ ⟨⟩
    exact ⟨ref, hr ref rfl, rfl⟩

/-- An object is written with the spec that was made for it. -/
theorem createOrUpdate_vouched {mutate : Program (Except String k.Spec)}
    (hm : ∀ log, VouchedCalls lib d
      (fun r log => ∀ spec, r = .ok spec → Credentials lib log d k spec) mutate log)
    (log : Log) : VouchedCalls lib d (fun _ _ => True) (createOrUpdate k d.key mutate) log := by
  refine Prog.justified_perform_bind.mpr ⟨trivial, fun o => ?_, fun e => ?_⟩
  · refine (hm _).bind fun r log hr => ?_
    cases r with
    | error cause => trivial
    | ok spec =>
      dsimp only
      split
      · trivial
      · exact ⟨⟨rfl, hr spec rfl⟩, fun o => trivial, fun e => trivial⟩
  · dsimp only
    split
    · refine (hm _).bind fun r log hr => ?_
      cases r with
      | error cause => trivial
      | ok spec => exact ⟨⟨rfl, hr spec rfl⟩, fun o => trivial, fun e => trivial⟩
    · trivial

theorem reconcileFlux_vouched (kindName : String) {mutate : Program (Except String k.Spec)}
    (hm : ∀ log, VouchedCalls lib d
      (fun r log => ∀ spec, r = .ok spec → Credentials lib log d k spec) mutate log)
    (log : Log) : VouchedCalls lib d (fun _ _ => True) (reconcileFlux k kindName d mutate) log := by
  refine (createOrUpdate_vouched hm log).bind fun r log _ => ?_
  cases r <;> trivial

theorem helmRepositoryReconcile_vouched (chart : HelmChartResource) (log : Log) :
    VouchedCalls lib d (fun _ _ => True) (helmRepositoryReconcile lib d chart) log := by
  refine (reconcileFlux_vouched _ (fun log => ?_) log).bind fun r log _ => by cases r <;> trivial
  refine (withSecretRef_vouched d _ _ _ log).mono fun r log hr spec hspec => ?_
  obtain ⟨ref, href, rfl⟩ := hr spec hspec
  exact href

theorem helmReleaseReconcile_vouched (chart : HelmChartResource) (log : Log) :
    VouchedCalls lib d (fun _ _ => True) (helmReleaseReconcile now d chart) log := by
  refine (reconcileFlux_vouched _ (fun log => ?_) log).bind fun r log _ => ?_
  · refine (withKubeConfig_vouched d _ log).mono fun r log hr spec hspec => ?_
    obtain ⟨ref, href, rfl⟩ := hr spec hspec
    exact href
  cases r with
  | error cause => trivial
  | ok release =>
    have hchart : VouchedCalls lib d (fun _ _ => True) (getHelmChart d) log :=
      ⟨trivial, fun _ => trivial, fun _ => trivial⟩
    have hstatus : VouchedCalls lib d (fun _ _ => True) (mapHelmStatus now d release) log := by
      refine hchart.bind fun chart log _ => ?_
      cases chart with
      | none => trivial
      | some chart =>
        dsimp only
        split <;> trivial
    exact hstatus.bind fun _ _ _ => trivial

theorem ociRepositoryReconcile_vouched (artifact : KustomizeResource) (log : Log) :
    VouchedCalls lib d (fun r _ => ∀ isReady d', r = .ok (isReady, d') →
      d' = { d with conditions := d'.conditions }) (ociRepositoryReconcile lib now d artifact) log := by
  refine (reconcileFlux_vouched _ (fun log => ?_) log).bind fun r log _ => ?_
  · refine (withSecretRef_vouched d _ _ _ log).mono fun r log hr spec hspec => ?_
    obtain ⟨ref, href, rfl⟩ := hr spec hspec
    exact href
  cases r with
  | error cause => exact fun isReady d' h => by cases h
  | ok o =>
    rintro isReady d' ⟨⟩
    rfl

theorem kustomizationReconcile_vouched (d : Deployment) (artifact : KustomizeResource) (log : Log) :
    VouchedCalls lib d (fun _ _ => True) (kustomizationReconcile lib now d artifact) log := by
  refine (reconcileFlux_vouched _ (fun log => ?_) log).bind fun r log _ => by cases r <;> trivial
  refine (withKubeConfig_vouched d _ log).mono fun r log hr spec hspec => ?_
  obtain ⟨ref, href, rfl⟩ := hr spec hspec
  exact href

theorem helmFlux_vouched (resource : OCMResource) (d : Deployment) (log : Log) :
    VouchedCalls lib d (fun _ _ => True) (helmFlux lib now resource d) log := by
  unfold helmFlux
  split
  · trivial
  next chart _ =>
  refine (helmRepositoryReconcile_vouched chart log).bind fun r log _ => ?_
  cases r with
  | error cause => trivial
  | ok _ =>
    refine (helmReleaseReconcile_vouched chart log).bind fun r log _ => ?_
    cases r <;> trivial

theorem kustomizeFlux_vouched (resource : OCMResource) (d : Deployment) (log : Log) :
    VouchedCalls lib d (fun _ _ => True) (kustomizeFlux lib now resource d) log := by
  unfold kustomizeFlux
  split
  · trivial
  next artifact _ =>
  refine (ociRepositoryReconcile_vouched artifact log).bind fun r log hr => ?_
  cases r with
  | error cause => trivial
  | ok r =>
    obtain ⟨isReady, d'⟩ := r
    dsimp only
    split
    · rw [← vouchedCall_congr (hr isReady d' rfl)]
      refine (kustomizationReconcile_vouched d' artifact log).bind fun r log _ => ?_
      cases r <;> trivial
    · trivial

theorem applyFlux_vouched (c : Controller) (d : Deployment) (log : Log) :
    VouchedCalls lib d (fun _ _ => True) (applyFlux lib now c d) log := by
  unfold applyFlux
  split
  · cases c with
    | helm => exact helmFlux_vouched _ d log
    | kustomize => exact kustomizeFlux_vouched _ d log
  · trivial

/-- Services are only listed. -/
theorem updateDeploymentResults_vouched (d' : Deployment) (log : Log) :
    VouchedCalls lib d (fun _ _ => True) (updateDeploymentResults lib now d') log := by
  have hservices {α : Type} (p : FluxDeployer.Program α) (log : Log) :
      VouchedCalls lib d (fun _ _ => True) (ofServices p) log := by
    induction p generalizing log with
    | ret a => trivial
    | call op k ih => exact ⟨trivial, fun a => ih _ _, fun e => ih _ _⟩
  refine (hservices _ log).bind fun r log _ => ?_
  cases r <;> trivial

theorem advance_vouched (c : Controller) (d : Deployment) (log : Log) :
    VouchedCalls lib d (fun _ _ => True) (advance lib now c d) log := by
  refine (applyFlux_vouched c d log).bind fun d' log _ => ?_
  exact (updateDeploymentResults_vouched d' log).bind fun _ _ _ => trivial

/-- What a reconcile writes, it has looked up. -/
def LookedUpCall (lib : Libraries) (log : Log) : Op → Prop
  | .createFlux k key spec => LookedUp lib log k key spec
  | .updateFlux k key _ spec => LookedUp lib log k key spec
  | _ => True

theorem VouchedCall.lookedUp {op : Op} (h : VouchedCall lib d log op) (req : NamespacedName)
    (hread : ⟨.getDeployment req, d⟩ ∈ log) : LookedUpCall lib log op := by
  cases op with
  | createFlux k key spec => exact ⟨req, d, hread, h.1.symm, h.2⟩
  | updateFlux k key version spec => exact ⟨req, d, hread, h.1.symm, h.2⟩
  | _ => trivial

theorem patchIfChanged_lookedUp (req : NamespacedName) (original d : Deployment) (log : Log) :
    (patchIfChanged req original d).Justified (LookedUpCall lib) (fun _ _ => True) log := by
  unfold patchIfChanged
  split
  · trivial
  · exact ⟨trivial, fun _ => trivial, fun _ => trivial⟩

/-- Every object that a reconcile writes carries credentials that it has looked up before,
for the deployment it has read. -/
theorem reconcile_lookedUp (lib : Libraries) (now : ℕ) (c : Controller) (req : NamespacedName)
    (log : Log) :
    (reconcile lib now c req).Justified (LookedUpCall lib) (fun _ _ => True) log := by
  unfold reconcile
  refine Prog.justified_perform_bind.mpr ⟨trivial, fun original => ?_, fun e => ?_⟩
  · dsimp only
    split
    · trivial
    split
    · refine (patchIfChanged_lookedUp req _ _ _).bind fun r log _ => ?_
      cases r <;> trivial
    · have hadvance : (advance lib now c original).Justified (LookedUpCall lib) (fun _ _ => True)
          (log ++ [⟨.getDeployment req, original⟩]) :=
        (advance_vouched c original _).along fun more op hop => hop.lookedUp req (by simp)
      refine hadvance.bind fun d log _ => ?_
      refine (patchIfChanged_lookedUp req _ _ log).bind fun r log _ => ?_
      cases r <;> trivial
  · dsimp only
    split <;> trivial

end Calls

section Runs

/-- What the controllers were answered, one log for each reconcile. -/
def noteAnswers (lib : Libraries) (s : Cluster) (l : Label) (_ : Cluster) (record : List Log) :
    List Log :=
  match l with
  | .change _ => record
  | .reconcile c req env => record ++ [(round lib c req env s).log]

def recorded (lib : Libraries) : System (Cluster × List Log) Label :=
  (deployers lib).recording (noteAnswers lib) []

/-- Others bring in no specs of their own, only such as reconciles on record have written. -/
def Change.Vouched (lib : Libraries) (record : List Log) : Change → Prop
  | setWorld world => world.Vouched lib record
  | _ => True

/-- What a reconcile writes, others may leave or write again already while it runs. -/
def BringsNone (lib : Libraries) (x : Cluster × List Log) : Label → Prop
  | .change change => change.Vouched lib x.2
  | .reconcile c req env => ∀ n, ∀ change ∈ env.changes n,
      change.Vouched lib (x.2 ++ [(round lib c req env x.1).log])

theorem Change.Vouched.apply {change : Change} {s : Cluster} (h : change.Vouched lib record)
    (hs : s.world.Vouched lib record) : (change.apply s).world.Vouched lib record := by
  cases change with
  | setWorld world => exact h
  | setSpec key spec =>
    simp only [Change.apply]
    split <;> exact hs
  | setMetadata key labels annotations =>
    simp only [Change.apply]
    split <;> exact hs

theorem changes_vouched {changes : List Change} {s : Cluster}
    (h : ∀ change ∈ changes, change.Vouched lib record) (hs : s.world.Vouched lib record) :
    (changes.foldl (fun s change => change.apply s) s).world.Vouched lib record := by
  refine List.foldlRecOn (motive := fun t : Cluster => t.world.Vouched lib record) changes _ hs ?_
  exact fun t ht change hmem => (h change hmem).apply ht

theorem World.Vouched.setFlux {s : Cluster} (h : s.world.Vouched lib record) {o : FluxObject k}
    (ho : ∃ log ∈ record, Provided lib log k key o.spec) :
    (s.setFlux k key o).world.Vouched lib record := by
  intro k' key' o' hours ho'
  simp only [Cluster.setFlux, World.setFlux] at ho'
  by_cases hk : k' = k
  · subst hk
    rw [Function.update_self] at ho'
    by_cases hkey : key' = key
    · subst hkey
      rw [Function.update_self] at ho'
      exact Option.some.inj ho' ▸ ho
    · rw [Function.update_of_ne hkey] at ho'
      exact h k' key' o' hours ho'
  · rw [Function.update_of_ne hk] at ho'
    exact h k' key' o' hours ho'

/-- A call with looked-up credentials, once it is on the log. -/
theorem exec_vouched {op : Op} {s : Cluster} {a : Res op} (hop : LookedUpCall lib log op)
    (hs : s.world.Vouched lib (record ++ [log])) :
    (exec op s).2.world.Vouched lib (record ++ [log ++ [⟨op, a⟩]]) := by
  have hs := hs.append [⟨op, a⟩]
  have hlast {log : Log} : log ∈ record ++ [log] := by simp
  have heffect := exec_effect op s
  generalize (exec op s).2 = t at heffect
  cases heffect with
  | same => exact hs
  | patchStatus before after hd => exact hs
  | createFlux spec hno =>
    exact hs.setFlux ⟨_, hlast, LookedUp.append _ hop, .inl ⟨a, by simp⟩⟩
  | updateFlux version spec ho =>
    exact hs.setFlux ⟨_, hlast, LookedUp.append _ hop, .inr ⟨version, a, by simp⟩⟩

/-- A whole reconcile, while others bring in no specs. -/
theorem round_vouched {req : NamespacedName} {env : Circumstances} {s : Cluster}
    (hs : s.world.Vouched lib record)
    (henv : ∀ n, ∀ change ∈ env.changes n,
      change.Vouched lib (record ++ [(round lib c req env s).log])) :
    (round lib c req env s).cluster.world.Vouched lib (record ++ [(round lib c req env s).log]) := by
  -- the log so far is on record beside the log that it will grow to
  generalize hrecord : record ++ [(round lib c req env s).log] = whole at henv ⊢
  have hchanges {n : ℕ} {s : Cluster} {log : Log} (h : s.world.Vouched lib (whole ++ [log])) :
      ((env.changes n).foldl (fun s change => change.apply s) s).world.Vouched lib
        (whole ++ [log]) := by
    refine changes_vouched (fun change hmem => ?_) h
    have hchange := henv n change hmem
    cases change with
    | setWorld world => exact World.Vouched.mono hchange (List.subset_append_left _ _)
    | _ => trivial
  have hensures := (reconcile_lookedUp lib env.now c req []).ensures (disturbed env.changes)
    (fun x log => x.1.world.Vouched lib (whole ++ [log]))
    (fun op x log a hop hx _ => hchanges (exec_vouched hop hx))
    (fun op x log e hop hx herror => by
      refine hchanges ?_
      rw [exec_of_error herror]
      exact hx) (s := (s, 0))
    (hs.mono fun log hmem => by simp [← hrecord, hmem])
  refine (Prog.ensures_iff_run.mp hensures env.faults).2.mono fun log hmem => ?_
  obtain hmem | hmem := List.mem_append.mp hmem
  · exact hmem
  · obtain rfl := List.mem_singleton.mp hmem
    rw [← hrecord]
    exact List.mem_append_right _ List.mem_cons_self

theorem recorded_step {x y : Cluster × List Log} {l : Label} (hx : x.1.world.Vouched lib x.2)
    (hok : BringsNone lib x l) (hn : (recorded lib).next x l = some y) :
    y.1.world.Vouched lib y.2 := by
  obtain ⟨t, ht, rfl⟩ := System.recording_next.mp hn
  cases l with
  | change change =>
    obtain rfl := Option.some.inj ht
    exact Change.Vouched.apply hok hx
  | reconcile c req env =>
    obtain rfl := Option.some.inj ht
    exact round_vouched hx hok

theorem recorded_vouched {s₀ : Cluster}
    (hs₀ : ∀ k key, k ≠ .helmChart → s₀.world.flux k key = none) {x : Cluster × List Log}
    (h : ((recorded lib).after (s₀, [])).Reaches (BringsNone lib) x) :
    x.1.world.Vouched lib x.2 := by
  induction h with
  | init hx =>
    obtain rfl := hx
    intro k key o hk ho
    rw [hs₀ k key hk] at ho
    cases ho
  | step _ hok hn ih => exact recorded_step ih hok hn

/-- In every run of the two controllers that starts without objects of theirs and in which
others bring in no specs of their own, whatever else they change and whichever calls fail:
every HelmRepository, HelmRelease, OCIRepository and Kustomization that is stored was
written by a reconcile that had read its deployment and looked its credentials up, the pull
secret for the host of its repository and the kubeconfig for the namespace and the type of
its deployment. -/
theorem credentials_looked_up (lib : Libraries) (s₀ : Cluster)
    (hs₀ : ∀ k key, k ≠ .helmChart → s₀.world.flux k key = none) (x : Cluster × List Log)
    (h : ((recorded lib).after (s₀, [])).Reaches (BringsNone lib) x) (k : Kind)
    (key : NamespacedName) (o : FluxObject k) (hk : k ≠ .helmChart)
    (ho : x.1.world.flux k key = some o) : ∃ log ∈ x.2, Provided lib log k key o.spec :=
  recorded_vouched hs₀ h k key o hk ho

/-- A chart for a remote cluster, before anything is written. -/
def podinfoRemote : Cluster :=
  podinfoCluster {
    flux := fun _ _ => none
    readyTarget := fun _ _ => .ok ⟨"remote", some ⟨"", "Secret", "kubeconfig"⟩⟩
    secretByConfigMap := fun _ _ => .ok ""
    secrets := fun _ => false
    services := [] }

def releaseKubeConfig (s : Cluster) : Option (Option String) :=
  (s.world.flux .helmRelease podinfoKey).map fun release => release.spec.kubeConfig

/-- The release is written with the kubeconfig of the remote target. -/
theorem credentials_looked_up_podinfo :
    ∃ x, ((recorded podinfoLibraries).after (podinfoRemote, [])).Reaches
        (BringsNone podinfoLibraries) x ∧
      ∃ release, x.1.world.flux .helmRelease podinfoKey = some release ∧
        release.spec.kubeConfig = some "kubeconfig" ∧
        ∃ log ∈ x.2, Provided podinfoLibraries log .helmRelease podinfoKey release.spec := by
  have once (s : Cluster) (hs : ∀ k key, k ≠ .helmChart → s.world.flux k key = none)
      (hwritten : releaseKubeConfig (round podinfoLibraries .helm podinfoKey (undisturbed 1) s).cluster =
        some (some "kubeconfig")) :
      ∃ x, ((recorded podinfoLibraries).after (s, [])).Reaches (BringsNone podinfoLibraries) x ∧
        ∃ release, x.1.world.flux .helmRelease podinfoKey = some release ∧
          release.spec.kubeConfig = some "kubeconfig" ∧
          ∃ log ∈ x.2, Provided podinfoLibraries log .helmRelease podinfoKey release.spec := by
    have hrun : ((recorded podinfoLibraries).after (s, [])).Reaches (BringsNone podinfoLibraries)
        ((round podinfoLibraries .helm podinfoKey (undisturbed 1) s).cluster,
          [] ++ [(round podinfoLibraries .helm podinfoKey (undisturbed 1) s).log]) :=
      (System.Reaches.init rfl).step (l := .reconcile .helm podinfoKey (undisturbed 1))
        (fun n change hmem => by cases hmem) rfl
    obtain ⟨release, hrelease, hconfig⟩ := Option.map_eq_some_iff.mp hwritten
    exact ⟨_, hrun, release, hrelease, hconfig, credentials_looked_up podinfoLibraries s hs _ hrun
      .helmRelease podinfoKey release (by decide) hrelease⟩
  exact once podinfoRemote (fun k key _ => rfl) (by decide +kernel)

end Runs

end LandscapeOrchestrator.ArtifactDeploymentController
