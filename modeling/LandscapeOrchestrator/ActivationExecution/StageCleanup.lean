import LandscapeOrchestrator.ActivationExecution.Footprint
import LandscapeOrchestrator.ActivationExecution.Outcomes

/-!
# Activations beside stage cleanups

Both controllers run at once, one API call at a time, while users create and
delete Stages. A route is created several calls after its Stage's finalizer was
checked, and a finalizer is released one call after the route was deleted. Routes are
orphaned when these two windows overlap, and only then.

## Main definitions

- `controllers` — both controllers beside the users
- `Committed` — an activation between its check of the finalizer and the route
- `Apart` — the two windows do not overlap

## Main results

- `no_orphaned_route` — every route has its Stage, with the finalizer
-/

namespace LandscapeOrchestrator.ActivationExecution
open Apilib

-- ════════════════════════════════════════════════════════════════════════
-- What a call does to Stages and routes
-- ════════════════════════════════════════════════════════════════════════

variable {adm : Admission} {s t : Cluster} {key : NamespacedName}

def HasFinalizer (s : Cluster) (key : NamespacedName) : Prop :=
  ∃ stage, s.stages key = some stage ∧ stageRouteFinalizer ∈ stage.finalizers

/-- A route that is there after a call was there before, or the call created it. -/
theorem exec_httpRoutes (op : Op) (h : ((exec adm op s).2.httpRoutes key).isSome) :
    (s.httpRoutes key).isSome ∨ ∃ spec, op = .createHTTPRoute key spec := by
  have heffect := exec_effect adm op s
  generalize (exec adm op s).2 = t at heffect h
  cases heffect with
  | createHTTPRoute k spec =>
    by_cases hk : key = k
    · exact .inr ⟨spec, by rw [hk]⟩
    · exact .inl (by simpa [Function.update_of_ne hk] using h)
  | @updateHTTPRoute k route version spec hr =>
    refine .inl ?_
    by_cases hk : key = k
    · rw [hk, hr]
      rfl
    · simpa [Function.update_of_ne hk] using h
  | deleteHTTPRoute k =>
    obtain ⟨route, hr⟩ := Option.isSome_iff_exists.mp h
    exact .inl (by simp [Cluster.httpRoutes_of_removeRoute hr])
  | _ => exact .inl h

theorem exec_stages (op : Op) (h : ∀ fs, op ≠ .patchStageFinalizers key fs) :
    (exec adm op s).2.stages key = s.stages key := by
  have heffect := exec_effect adm op s
  generalize (exec adm op s).2 = t at heffect
  cases heffect with
  | @removeStage k stage hs =>
    have hk : key ≠ k := fun hk => h [] (by rw [hk])
    simp [Function.update_of_ne hk]
  | @setFinalizers k stage fs hs =>
    have hk : key ≠ k := fun hk => h fs (by rw [hk])
    simp [Function.update_of_ne hk]
  | _ => rfl

-- ════════════════════════════════════════════════════════════════════════
-- Activations never take the finalizer away
-- ════════════════════════════════════════════════════════════════════════

def Op.KeepsFinalizer : Op → Prop
  | .patchStageFinalizers _ fs => stageRouteFinalizer ∈ fs
  | _ => True

theorem reconcile_uses (rt : Runtime) (now : Time) (req : NamespacedName) :
    (reconcile rt now req).Uses Op.KeepsFinalizer := by
  refine (reconcile_grounded rt now req {}).uses fun v op h => ?_
  cases op with
  | patchStageFinalizers key after =>
    obtain ⟨before, -, -, rfl⟩ := h
    exact List.mem_append_right _ (List.mem_singleton_self _)
  | _ => trivial

/-- A call that lists the finalizer in every patch leaves it where it is. -/
theorem HasFinalizer.call {op : Op} (h : HasFinalizer s key) (hop : op.KeepsFinalizer) :
    HasFinalizer (exec adm op s).2 key := by
  obtain ⟨st, hst, hf⟩ := h
  have heffect := exec_effect adm op s
  generalize (exec adm op s).2 = t at heffect
  cases heffect with
  | removeStage hs => cases hop
  | @setFinalizers k stage fs hs =>
    by_cases hk : key = k
    · exact ⟨{ stage with finalizers := fs }, by rw [hk]; exact Function.update_self .., hop⟩
    · exact ⟨st, by simp [Function.update_of_ne hk, hst], hf⟩
  | _ => exact ⟨st, hst, hf⟩

/-- A patch that is not refused has put its list in place. -/
theorem hasFinalizer_of_patch {fs : List String} {u : Unit} (hf : stageRouteFinalizer ∈ fs)
    (h : (exec adm (.patchStageFinalizers key fs) s).1 = .ok u) :
    HasFinalizer (exec adm (.patchStageFinalizers key fs) s).2 key := by
  have hne : fs ≠ [] := List.ne_nil_of_mem hf
  simp only [exec, patchFinalizers, hne, and_false, if_false] at h ⊢
  split at h
  · cases h
  · next stage hs =>
    split at h
    · cases h
    · next hsub =>
      simp only [hsub, if_false]
      exact ⟨{ stage with finalizers := fs }, by simp, hf⟩

-- ════════════════════════════════════════════════════════════════════════
-- The interleaving
-- ════════════════════════════════════════════════════════════════════════

/-- A job is the reconcile of one object; a controller never runs two at once. -/
inductive Job where
  | activation (req : NamespacedName)
  | cleanup (req : NamespacedName)
  deriving DecidableEq, Repr

/-- The moves of everyone else. `editStage` is another controller's: the active
version, and finalizers other than the route's. -/
inductive UserMove where
  | createStage (key : NamespacedName) (finalizers : List String)
  | deleteStage (key : NamespacedName)
  | editStage (key : NamespacedName) (active : Option String) (finalizers : List String)
  | elsewhere (s : Cluster)

/-- An object with finalizers is only marked by its deletion. -/
def userMove : UserMove → Cluster → Option Cluster
  | .createStage key finalizers, s => match s.stages key with
    | some _ => none
    | none => some (s.setStage key (some ⟨finalizers, false, none⟩))
  | .deleteStage key, s => match s.stages key with
    | none => none
    | some stage =>
      if stage.finalizers = [] then some (s.setStage key none)
      else some (s.setStage key (some { stage with deleting := true }))
  | .editStage key active finalizers, s => match s.stages key with
    | none => none
    | some stage =>
      let finalizers := finalizers.filter (· ≠ stageRouteFinalizer) ++
        stage.finalizers.filter (· = stageRouteFinalizer)
      if stage.deleting ∧ finalizers = [] then some (s.setStage key none)
      else some (s.setStage key (some ⟨finalizers, stage.deleting, active⟩))
  | .elsewhere s', s => some { s' with
      stages := s.stages
      httpRoutes := s.httpRoutes }

/-- The route of a Stage exists only while the Stage does and carries the finalizer. -/
def RoutesOwned (s : Cluster) : Prop :=
  ∀ ns stage, (s.httpRoutes (routeKey ns stage)).isSome → HasFinalizer s ⟨ns, stage⟩

/-- Both controllers and the users, from any state without orphaned routes. -/
def controllers (adm : Admission) : Workload UserMove Job (Runtime × Time) Op Res
    (Except ReconcileError CtrlResult) Cluster where
  init := RoutesOwned
  exec := exec adm
  env := userMove
  prog
    | .activation req, (rt, now) => reconcile rt now req
    | .cleanup req, _ => cleanupReconcile req

abbrev Controllers := Pool Job Op Res (Except ReconcileError CtrlResult) Cluster

/-- The job may create the route of the Stage without reading or patching the Stage
again: an activation past its check of the finalizer. -/
def Committed {α : Type} (key : NamespacedName) : Program α → Prop
  | .ret _ => False
  | .call op k => (∃ spec, op = .createHTTPRoute (routeKey key.ns key.name) spec) ∨
      op ≠ .getStage key ∧ (∀ fs, op ≠ .patchStageFinalizers key fs) ∧ ∃ r, Committed key (k r)

/-- No finalizer is released while an activation is between its check of the finalizer
and the route, and no route is created while a cleanup of its Stage is between the
deletion of the route and the release. -/
def Apart (pool : Controllers) : Move UserMove Job (Runtime × Time) → Prop
  | .call (.cleanup key) => ∀ fs k,
      pool.running (.cleanup key) = some (.call (.patchStageFinalizers key fs) k) →
      ∀ req p, pool.running (.activation req) = some p → ¬ Committed key p
  | .call (.activation req) => ∀ ns stage spec k,
      pool.running (.activation req) =
        some (.call (.createHTTPRoute (routeKey ns stage) spec) k) →
      ∀ fs k', pool.running (.cleanup ⟨ns, stage⟩) ≠
        some (.call (.patchStageFinalizers ⟨ns, stage⟩ fs) k')
  | _ => True

-- ════════════════════════════════════════════════════════════════════════
-- Assertions
-- ════════════════════════════════════════════════════════════════════════

theorem routeKey_injective {ns stage ns' stage' : String}
    (h : routeKey ns stage = routeKey ns' stage') : ns = ns' ∧ stage = stage' := by
  obtain ⟨hns, hname⟩ := NamespacedName.mk.inj h
  exact ⟨hns, by simpa [stageRouteName] using hname⟩

/-- Where a cleanup can stand. About to release the finalizer, the route is gone. -/
inductive CleanupAt (req : NamespacedName) (s : Cluster) :
    Program (Except ReconcileError CtrlResult) → Prop
  | begin : CleanupAt req s (cleanupReconcile req)
  | deleting (stage : Stage) : CleanupAt req s (cleanupStage req stage)
  | releasing (stage : Stage) (h : (s.httpRoutes (routeKey req.ns req.name)).isSome = false) :
      CleanupAt req s (releaseStage req stage)
  | done (r : Except ReconcileError CtrlResult) : CleanupAt req s (.ret r)

/-- An activation that is committed to a Stage has seen its finalizer, which is still there. -/
structure ActivationAt (p : Program (Except ReconcileError CtrlResult)) (s : Cluster) : Prop where
  uses : p.Uses Op.KeepsFinalizer
  held : ∃ held, p.Grounded learnHeld HeldGrounds held ∧
    ∀ key, held = some key → Committed key p → HasFinalizer s key

/-- What is left of a job. -/
def JobLeft : Job → Program (Except ReconcileError CtrlResult) → Cluster → Prop
  | .activation _, p, s => ActivationAt p s
  | .cleanup req, p, s => CleanupAt req s p

theorem CleanupAt.mono {req : NamespacedName} {p : Program (Except ReconcileError CtrlResult)}
    (h : CleanupAt req s p)
    (hr : ∀ stage, p = releaseStage req stage →
      (t.httpRoutes (routeKey req.ns req.name)).isSome →
      (s.httpRoutes (routeKey req.ns req.name)).isSome) : CleanupAt req t p := by
  cases h with
  | begin => exact .begin
  | deleting stage => exact .deleting stage
  | releasing stage habs =>
    refine .releasing stage ?_
    by_contra hsome
    have := hr stage rfl (by simpa only [Bool.not_eq_false] using hsome)
    simp [habs] at this
  | done r => exact .done r

/-- The others leave the finalizer alone as long as an activation is committed to it. -/
theorem ActivationAt.mono {p : Program (Except ReconcileError CtrlResult)} (h : ActivationAt p s)
    (hkeep : ∀ key, Committed key p → HasFinalizer s key → HasFinalizer t key) :
    ActivationAt p t := by
  obtain ⟨held, hgrounded, hheld⟩ := h.held
  exact ⟨h.uses, held, hgrounded, fun key hkey hp => hkeep key hp (hheld key hkey hp)⟩

/-- The step to the finalizer: an activation becomes committed by reading or patching it. -/
theorem ActivationAt.call (adm : Admission) {op : Op}
    {k : Except ApiError (Res op) → Program (Except ReconcileError CtrlResult)}
    (h : ActivationAt (.call op k) s) : ActivationAt (k (exec adm op s).1) (exec adm op s).2 := by
  obtain ⟨hop, huses⟩ := h.uses
  obtain ⟨held, hgrounded, hheld⟩ := h.held
  refine ⟨huses _, _, hgrounded.2 _, fun key hkey hp => ?_⟩
  by_cases haside : op.Aside ∨ ∃ rkey spec, op = .createHTTPRoute rkey spec
  · have hsame : learnHeld op (exec adm op s).1 held = held := by
      obtain haside | ⟨rkey, spec, rfl⟩ := haside
      · exact haside.learnHeld _ _
      · rfl
    have hbefore : Committed key (.call op k) := by
      refine .inr ⟨?_, fun fs => ?_, _, hp⟩
      · rintro rfl
        simp [Op.Aside] at haside
      · rintro rfl
        simp [Op.Aside] at haside
    exact (hheld key (hsame ▸ hkey) hbefore).call hop
  · cases op with
    | getStage key' =>
      simp only [exec] at hkey ⊢
      cases hs : s.stages key' with
      | none => simp [hs, found, learnHeld] at hkey
      | some stage =>
        simp only [hs, found, learnHeld] at hkey
        split at hkey
        · next hf => exact Option.some.inj hkey ▸ ⟨stage, hs, hf⟩
        · cases hkey
    | patchStageFinalizers key' fs =>
      cases hr : (exec adm (.patchStageFinalizers key' fs) s).1 with
      | error e => simp [hr, learnHeld] at hkey
      | ok u =>
        simp only [hr, learnHeld] at hkey
        split at hkey
        · next hf => exact Option.some.inj hkey ▸ hasFinalizer_of_patch hf hr
        · cases hkey
    | createHTTPRoute rkey spec => exact absurd (.inr ⟨rkey, spec, rfl⟩) haside
    | _ => exact absurd (.inl trivial) haside

/-- A failed call teaches nothing about a Stage, and has changed nothing. -/
theorem ActivationAt.fault (message : String) {op : Op}
    {k : Except ApiError (Res op) → Program (Except ReconcileError CtrlResult)}
    (h : ActivationAt (.call op k) s) : ActivationAt (k (.error (.fault message))) s := by
  obtain ⟨-, huses⟩ := h.uses
  obtain ⟨held, hgrounded, hheld⟩ := h.held
  refine ⟨huses _, _, hgrounded.2 _, fun key hkey hp => ?_⟩
  have hlearn : learnHeld op (.error (.fault message)) held = some key →
      held = some key ∧ op ≠ .getStage key ∧ ∀ fs, op ≠ .patchStageFinalizers key fs := by
    cases op <;> simp [learnHeld]
  obtain ⟨hkey, hget, hpatch⟩ := hlearn hkey
  exact hheld key hkey (.inr ⟨hget, hpatch, _, hp⟩)

/-- At the create call the Stage carries the finalizer. -/
theorem ActivationAt.creates {ns stage : String} {spec : HTTPRouteSpec}
    {k : Except ApiError Unit → Program (Except ReconcileError CtrlResult)}
    (h : ActivationAt (.call (.createHTTPRoute (routeKey ns stage) spec) k) s) :
    HasFinalizer s ⟨ns, stage⟩ := by
  obtain ⟨held, hgrounded, hheld⟩ := h.held
  obtain ⟨ns', stage', hkey, hseen⟩ := hgrounded.1
  obtain ⟨rfl, rfl⟩ := routeKey_injective hkey
  exact hheld _ hseen (.inl ⟨spec, rfl⟩)

/-- A Stage is changed; if it is this one, it keeps the finalizer. -/
theorem HasFinalizer.setStage {key' : NamespacedName} {new : Option Stage}
    (h : HasFinalizer s key) (hnew : key = key' → ∀ st, s.stages key' = some st →
      stageRouteFinalizer ∈ st.finalizers →
      ∃ st', new = some st' ∧ stageRouteFinalizer ∈ st'.finalizers) :
    HasFinalizer (s.setStage key' new) key := by
  obtain ⟨st, hst, hf⟩ := h
  by_cases hkey : key = key'
  · subst hkey
    obtain ⟨st', rfl, hf'⟩ := hnew rfl st hst hf
    exact ⟨st', Function.update_self .., hf'⟩
  · exact ⟨st, by simp [Function.update_of_ne hkey, hst], hf⟩

/-- Changing one Stage is safe if it has no route or keeps the finalizer. -/
theorem RoutesOwned.setStage (h : RoutesOwned s) {key : NamespacedName} {new : Option Stage}
    (hnew : (s.httpRoutes (routeKey key.ns key.name)).isSome → ∀ st, s.stages key = some st →
      stageRouteFinalizer ∈ st.finalizers →
      ∃ st', new = some st' ∧ stageRouteFinalizer ∈ st'.finalizers) :
    RoutesOwned (s.setStage key new) := by
  intro ns stage hr
  refine (h ns stage hr).setStage fun hkey => hnew ?_
  rwa [← hkey]

/-- Users leave the routes alone, and the route's finalizer. -/
theorem userMove_keeps {e : UserMove} (h : userMove e s = some t) :
    t.httpRoutes = s.httpRoutes ∧ ∀ key, HasFinalizer s key → HasFinalizer t key := by
  cases e with
  | createStage key fs =>
    simp only [userMove] at h
    split at h
    · cases h
    · next hno =>
      obtain rfl := Option.some.inj h
      exact ⟨rfl, fun _ hheld => hheld.setStage fun _ st hst => by simp [hno] at hst⟩
  | deleteStage key =>
    simp only [userMove] at h
    split at h
    · cases h
    · next old hold =>
      split at h
      · next hempty =>
        obtain rfl := Option.some.inj h
        refine ⟨rfl, fun _ hheld => hheld.setStage fun _ st hst hf => ?_⟩
        obtain rfl := Option.some.inj (hold.symm.trans hst)
        simp [hempty] at hf
      · obtain rfl := Option.some.inj h
        refine ⟨rfl, fun _ hheld => hheld.setStage fun _ st hst hf => ?_⟩
        obtain rfl := Option.some.inj (hold.symm.trans hst)
        exact ⟨_, rfl, hf⟩
  | editStage key active fs =>
    simp only [userMove] at h
    split at h
    · cases h
    · next old hold =>
      split at h
      · next hempty =>
        obtain rfl := Option.some.inj h
        refine ⟨rfl, fun _ hheld => hheld.setStage fun _ st hst hf => ?_⟩
        obtain rfl := Option.some.inj (hold.symm.trans hst)
        -- the list still holds the route's finalizer
        have hnone := (List.append_eq_nil_iff.mp hempty.2).2
        simp only [List.filter_eq_nil_iff, decide_eq_true_eq] at hnone
        exact absurd rfl (hnone _ hf)
      · obtain rfl := Option.some.inj h
        refine ⟨rfl, fun _ hheld => hheld.setStage fun _ st hst hf => ?_⟩
        obtain rfl := Option.some.inj (hold.symm.trans hst)
        exact ⟨_, rfl, by simp [hf]⟩
  | elsewhere s' =>
    obtain rfl := Option.some.inj h
    exact ⟨rfl, fun _ hf => hf⟩

/-- A call that lists the finalizer in every patch, and creates a route only under
a Stage that carries it. -/
theorem RoutesOwned.call (hinv : RoutesOwned s) {op : Op} (hop : op.KeepsFinalizer)
    (hcreate : ∀ ns stage spec, op = .createHTTPRoute (routeKey ns stage) spec →
      HasFinalizer s ⟨ns, stage⟩) : RoutesOwned (exec adm op s).2 := by
  intro ns stage hr
  obtain hr | ⟨spec, rfl⟩ := exec_httpRoutes op hr
  · exact (hinv ns stage hr).call hop
  · exact (hcreate ns stage spec rfl).call hop

/-- The own step of a cleanup: routes stay owned, and it stands where it should
afterwards. It releases a Stage only when no route of it is left. -/
theorem CleanupAt.call (adm : Admission) {req : NamespacedName} {op : Op}
    {k : Except ApiError (Res op) → Program (Except ReconcileError CtrlResult)}
    (hinv : RoutesOwned s) (h : CleanupAt req s (.call op k)) :
    RoutesOwned (exec adm op s).2 ∧ CleanupAt req (exec adm op s).2 (k (exec adm op s).1) ∧
      ∀ key spec, op ≠ .createHTTPRoute key spec := by
  generalize hp : Prog.call op k = p at h
  cases h with
  | begin =>
    simp only [cleanupReconcile, getStage, Prog.perform_bind] at hp
    cases hp
    refine ⟨hinv, ?_, fun key spec heq => by cases heq⟩
    change CleanupAt req s _
    simp only [exec]
    cases s.stages req with
    | none => exact .done _
    | some stage =>
      simp only [found]
      split
      · exact .done _
      · exact .deleting stage
  | deleting stage =>
    simp only [cleanupStage, deleteHTTPRoute, Prog.perform_bind] at hp
    cases hp
    have hne : ∀ key spec, Op.deleteHTTPRoute ⟨req.ns, stageRouteName req.name⟩ ≠
        .createHTTPRoute key spec := fun key spec heq => by cases heq
    refine ⟨hinv.call trivial fun ns stage spec heq => absurd heq (hne _ spec), ?_, hne⟩
    simp only [exec]
    cases hr : s.httpRoutes ⟨req.ns, stageRouteName req.name⟩ with
    | none => exact .releasing stage (by simp [routeKey, hr])
    | some route => exact .releasing stage (by simp [routeKey])
  | releasing stage habs =>
    simp only [releaseStage, patchStageFinalizers, Prog.perform_bind] at hp
    cases hp
    refine ⟨?_, ?_, fun key spec heq => by cases heq⟩
    · change RoutesOwned (patchFinalizers _ _ s).2
      obtain heq | ⟨st, hst, ⟨-, heq⟩ | heq⟩ := patchFinalizers_cases req
        (stage.finalizers.filter (· ≠ stageRouteFinalizer)) s
      · rwa [heq]
      · rw [heq]
        exact hinv.setStage fun hr => by simp [habs] at hr
      · rw [heq]
        exact hinv.setStage fun hr => by simp [habs] at hr
    · dsimp only
      split <;> exact .done _
  | done r => cases hp

/-- A cleanup patches its own Stage, and leaves the others alone. -/
theorem CleanupAt.call_cases {req : NamespacedName} {op : Op}
    {k : Except ApiError (Res op) → Program (Except ReconcileError CtrlResult)}
    (h : CleanupAt req s (.call op k)) :
    op.KeepsFinalizer ∨ ∃ fs, op = .patchStageFinalizers req fs := by
  generalize hp : Prog.call op k = p at h
  cases h with
  | begin =>
    simp only [cleanupReconcile, getStage, Prog.perform_bind] at hp
    cases hp
    exact .inl trivial
  | deleting stage =>
    simp only [cleanupStage, deleteHTTPRoute, Prog.perform_bind] at hp
    cases hp
    exact .inl trivial
  | releasing stage habs =>
    simp only [releaseStage, patchStageFinalizers, Prog.perform_bind] at hp
    cases hp
    exact .inr ⟨_, rfl⟩
  | done r => cases hp

theorem CleanupAt.fault {req : NamespacedName} {op : Op} (message : String)
    {k : Except ApiError (Res op) → Program (Except ReconcileError CtrlResult)}
    (h : CleanupAt req s (.call op k)) : CleanupAt req s (k (.error (.fault message))) := by
  generalize hp : Prog.call op k = p at h
  cases h with
  | begin =>
    simp only [cleanupReconcile, getStage, Prog.perform_bind] at hp
    cases hp
    exact .done _
  | deleting stage =>
    simp only [cleanupStage, deleteHTTPRoute, Prog.perform_bind] at hp
    cases hp
    exact .done _
  | releasing stage habs =>
    simp only [releaseStage, patchStageFinalizers, Prog.perform_bind] at hp
    cases hp
    exact .done _
  | done r => cases hp

/-- What a call of an activation is for another job: a cleanup that is about to release
its Stage must not be given a new route. -/
theorem JobLeft.beside_activation (adm : Admission) {j : Job}
    {p : Program (Except ReconcileError CtrlResult)} {op : Op} (h : JobLeft j p s)
    (hop : op.KeepsFinalizer)
    (hapart : ∀ req stage spec, j = .cleanup req → p = releaseStage req stage →
      op ≠ .createHTTPRoute (routeKey req.ns req.name) spec) :
    JobLeft j p (exec adm op s).2 := by
  cases j with
  | activation req => exact ActivationAt.mono h fun key _ hf => hf.call hop
  | cleanup req =>
    refine CleanupAt.mono h fun stage hp hr => ?_
    obtain hr | ⟨spec, heq⟩ := exec_httpRoutes op hr
    · exact hr
    · exact absurd heq (hapart req stage spec rfl hp)

/-- What a call of a cleanup is for another job: an activation that is committed to the
Stage must not lose the finalizer. -/
theorem JobLeft.beside_cleanup (adm : Admission) {j : Job} {req : NamespacedName}
    {p : Program (Except ReconcileError CtrlResult)} {op : Op} (h : JobLeft j p s)
    (hop : op.KeepsFinalizer ∨ ∃ fs, op = .patchStageFinalizers req fs)
    (hcreate : ∀ key spec, op ≠ .createHTTPRoute key spec)
    (hapart : ∀ fs req', op = .patchStageFinalizers req fs → j = .activation req' →
      ¬ Committed req p) :
    JobLeft j p (exec adm op s).2 := by
  cases j with
  | activation req' =>
    refine ActivationAt.mono h fun key hp hf => ?_
    obtain hkeeps | ⟨fs, rfl⟩ := hop
    · exact hf.call hkeeps
    · -- the release of another Stage
      have hk : key ≠ req := by
        rintro rfl
        exact hapart fs req' rfl rfl hp
      obtain ⟨st, hst, hf⟩ := hf
      refine ⟨st, (exec_stages _ fun fs' heq => hk ?_).trans hst, hf⟩
      injection heq with hkey
      exact hkey.symm
  | cleanup req' =>
    refine CleanupAt.mono h fun stage _ hr => ?_
    obtain hr | ⟨spec, heq⟩ := exec_httpRoutes op hr
    · exact hr
    · exact absurd heq (hcreate _ spec)

theorem controllers_assertions (adm : Admission) :
    (controllers adm).Assertions Apart RoutesOwned JobLeft where
  init s h := h
  env pool e t hpool ht _ := by
    obtain ⟨hroutes, hkeep⟩ := userMove_keeps ht
    refine ⟨fun ns stage hr => hkeep _ (hpool.inv ns stage (hroutes ▸ hr)), fun j p hrun => ?_⟩
    have hleft := hpool.left j p hrun
    cases j with
    | activation req => exact hleft.mono fun key _ => hkeep key
    | cleanup req => exact hleft.mono fun stage _ hr => by rwa [hroutes] at hr
  start j x s hinv := by
    cases j with
    | activation req =>
      exact ⟨reconcile_uses x.1 x.2 req, none, reconcile_held x.1 x.2 req none, by simp⟩
    | cleanup req => exact .begin
  call pool j op k hpool hrun hok := by
    cases j with
    | activation req =>
      have hleft : ActivationAt (.call op k) pool.state := hpool.left _ _ hrun
      refine ⟨hpool.inv.call hleft.uses.1 fun ns stage spec heq => ?_, hleft.call adm,
        fun j' p _ hrun' => (hpool.left j' p hrun').beside_activation adm hleft.uses.1 ?_⟩
      · subst heq
        exact hleft.creates
      · rintro req' stage spec rfl rfl rfl
        exact hok _ _ spec k hrun _ _ hrun'
    | cleanup req =>
      have hleft : CleanupAt req pool.state (.call op k) := hpool.left _ _ hrun
      obtain ⟨hinv, hown, hcreate⟩ := CleanupAt.call adm hpool.inv hleft
      refine ⟨hinv, hown, fun j' p _ hrun' =>
        (hpool.left j' p hrun').beside_cleanup adm hleft.call_cases hcreate ?_⟩
      rintro fs req' rfl rfl
      exact hok fs k hrun req' p hrun'
  fault j op k message s hinv hleft := by
    cases j with
    | activation req => exact ActivationAt.fault message hleft
    | cleanup req => exact CleanupAt.fault message hleft

/-- No stage route is orphaned, as long as activations and cleanups of a Stage keep
apart. -/
theorem no_orphaned_route (adm : Admission) (pool : Controllers)
    (h : (controllers adm).system.Reaches Apart pool) (ns stage : String)
    (hr : (pool.state.httpRoutes (routeKey ns stage)).isSome) :
    HasFinalizer pool.state ⟨ns, stage⟩ :=
  ((controllers_assertions adm).reaches h).inv ns stage hr

-- ════════════════════════════════════════════════════════════════════════
-- One Stage
-- ════════════════════════════════════════════════════════════════════════

def freshPool : Controllers := ⟨freshStage, fun _ => none⟩

theorem freshPool_init (adm : Admission) : (controllers adm).system.init freshPool :=
  ⟨fun _ _ hr => absurd hr Bool.false_ne_true, fun _ => rfl⟩

def activate : Job := .activation ⟨"landscape", "e"⟩
def cleanUp : Job := .cleanup ⟨"landscape", "prod"⟩

/-- The activation up to its last call, which creates the route. -/
def activateToCreate : List (Move UserMove Job (Runtime × Time)) :=
  [.start activate (shopRuntime, 10), .call activate, .call activate, .call activate,
    .call activate, .call activate, .call activate, .call activate]

/-- One job at a time: the activation or the cleanup. -/
def takesTurns (pool : Controllers) : Move UserMove Job (Runtime × Time) → Bool
  | .start j _ => (j = activate || j = cleanUp) && (pool.running activate).isNone &&
      (pool.running cleanUp).isNone
  | _ => true

/-- The activation or the cleanup runs, and no other job. -/
def OneJob (pool : Controllers) : Prop :=
  ∃ only, (only = activate ∨ only = cleanUp) ∧ ∀ j, j ≠ only → pool.running j = none

theorem OneJob.next {pool pool' : Controllers} {m : Move UserMove Job (Runtime × Time)}
    (h : OneJob pool) (hm : takesTurns pool m = true)
    (hn : (controllers adm).system.next pool m = some pool') : OneJob pool' := by
  obtain ⟨only, honly, hnone⟩ := h
  by_cases hstart : ∃ j x, m = .start j x
  · obtain ⟨j, x, rfl⟩ := hstart
    simp only [takesTurns, Bool.and_eq_true, Option.isNone_iff_eq_none, Bool.or_eq_true,
      decide_eq_true_eq] at hm
    obtain ⟨⟨hj, ha⟩, hc⟩ := hm
    refine ⟨j, hj, fun j' hj' => Workload.running_next_eq_none ?_ ?_ hn⟩
    · by_cases hk : j' = only
      · obtain rfl | rfl := honly
        · rwa [hk]
        · rwa [hk]
      · exact hnone j' hk
    · rintro x' heq
      exact hj' (Move.start.inj heq).1.symm
  · refine ⟨only, honly, fun j hj => Workload.running_next_eq_none (hnone j hj) ?_ hn⟩
    exact fun x heq => hstart ⟨j, x, heq⟩

/-- Jobs that take turns keep apart. -/
theorem OneJob.apart {pool : Controllers} (h : OneJob pool)
    (m : Move UserMove Job (Runtime × Time)) : Apart pool m := by
  have hnot {req key : NamespacedName} {p q : Program (Except ReconcileError CtrlResult)}
      (hp : pool.running (.activation req) = some p) (hq : pool.running (.cleanup key) = some q) :
      False := by
    obtain ⟨only, -, hnone⟩ := h
    have ha : Job.activation req = only := by
      by_contra ha
      simp [hnone _ ha] at hp
    have hc : Job.cleanup key ≠ only := by
      rw [← ha]
      simp
    simp [hnone _ hc] at hq
  cases m with
  | call j =>
    cases j with
    | activation req => exact fun ns stage spec k hp fs k' hq => hnot hp hq
    | cleanup key => exact fun fs k hq req p hp _ => hnot hp hq
  | _ => trivial

theorem reaches_apart {pool : Controllers}
    (h : (controllers adm).system.Reaches (fun pool m => takesTurns pool m = true) pool) :
    (controllers adm).system.Reaches Apart pool := by
  refine h.strengthen OneJob ?_ (fun _ _ _ hone hm hn => OneJob.next hone hm hn)
    fun _ m hone _ => OneJob.apart hone m
  rintro pool ⟨-, hidle⟩
  exact ⟨activate, .inl rfl, fun j _ => hidle j⟩

theorem owned_route_after_activation : ∃ pool, (controllers ⟨id⟩).system.Reaches Apart pool ∧
    (pool.state.httpRoutes (routeKey "landscape" "prod")).isSome ∧
    HasFinalizer pool.state ⟨"landscape", "prod"⟩ := by
  -- a cleanup has nothing to do before the Stage is deleted
  obtain ⟨pool, hturns, hr⟩ := System.reaches_of_follow (controllers ⟨id⟩).system
    ([.start cleanUp (shopRuntime, 9), .call cleanUp, .stop cleanUp] ++ activateToCreate ++
      [.call activate, .stop activate, .env (.deleteStage ⟨"landscape", "prod"⟩),
        .start cleanUp (shopRuntime, 11), .call cleanUp])
    (fun pool => (pool.state.httpRoutes (routeKey "landscape" "prod")).isSome)
    (fun pool m (h : takesTurns pool m = true) => h) (freshPool_init _) (by decide +kernel)
  have hpool := reaches_apart hturns
  exact ⟨pool, hpool, hr, no_orphaned_route _ pool hpool "landscape" "prod" hr⟩

/-- The Stage is deleted and cleaned up between the finalizer check and the write of
the route, which stays behind. -/
theorem orphaned_route : ∃ pool, (controllers ⟨id⟩).system.Reachable pool ∧
    (pool.state.httpRoutes (routeKey "landscape" "prod")).isSome ∧
    pool.state.stages ⟨"landscape", "prod"⟩ = none := by
  obtain ⟨pool, hpool, hp⟩ := System.reachable_of_follow (controllers ⟨id⟩).system
    (activateToCreate ++ [.env (.deleteStage ⟨"landscape", "prod"⟩), .start cleanUp (shopRuntime, 11),
      .call cleanUp, .call cleanUp, .call cleanUp, .call activate])
    (fun pool => (pool.state.httpRoutes (routeKey "landscape" "prod")).isSome &&
      (pool.state.stages ⟨"landscape", "prod"⟩).isNone)
    (freshPool_init _) (by decide +kernel)
  obtain ⟨hr, hs⟩ := Bool.and_eq_true_iff.mp hp
  exact ⟨pool, hpool, hr, by simpa using hs⟩

end LandscapeOrchestrator.ActivationExecution
