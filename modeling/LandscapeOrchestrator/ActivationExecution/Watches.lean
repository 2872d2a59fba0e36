import LandscapeOrchestrator.ActivationExecution.StageCleanup
import LandscapeOrchestrator.Apilib.Events

/-!
# What the activation controllers hear of

The cleanup is told of every change of a Stage. The activation is told when an execution
of its type is created or its spec changes; a Gateway that is not ready is polled.

## Main definitions

- `activationPredicate`, `stagePredicate` — what the two `SetupWithManager` ask for
- `watched` — both controllers with their queues
- `StatusKept` — only the controller writes the status of executions
- `OfOthers` — nobody gives the execution the type of the controller
-/

namespace LandscapeOrchestrator.ActivationExecution
open Apilib

def activationPredicate : Predicate ActivationTaskExecution :=
  (Predicate.generationChanged (·.generation)).and (.ofFilter fun e => e.type = typeGatewayRoute)

def stagePredicate : Predicate Stage := .ofUpdate fun _ _ => true

/-- An error, or a result that asks for another reconcile. -/
def retried : Except ReconcileError CtrlResult → Bool
  | .ok result => 0 < result.requeueAfter
  | .error _ => true

def watched (adm : Admission) :
    Watched UserMove Job (Runtime × Time) Op Res (Except ReconcileError CtrlResult) Cluster where
  toWorkload := controllers adm
  reports s t
    | .activation req => activationPredicate.notices (s.executions req) (t.executions req)
    | .cleanup req => stagePredicate.notices (s.stages req) (t.stages req)
  lists s
    | .activation req => activationPredicate.notices none (s.executions req)
    | .cleanup req => stagePredicate.notices none (s.stages req)
  retries := retried

abbrev ControllerStation := Station Job Op Res (Except ReconcileError CtrlResult) Cluster

namespace Watch

variable {adm : Admission} {s t u : Cluster} {req : NamespacedName}

section Cleanup

/-- A Stage that is being deleted still has the finalizer. -/
def StageDue (key : NamespacedName) (s : Cluster) : Prop :=
  ∃ stage, s.stages key = some stage ∧ stage.deleting = true ∧
    stageRouteFinalizer ∈ stage.finalizers

def SameStage (key : NamespacedName) (s t : Cluster) : Prop := t.stages key = s.stages key

theorem stagePredicate_unheard {old new : Option Stage}
    (h : stagePredicate.notices old new = false) : new = old := by
  cases old with
  | none => cases new with
    | none => rfl
    | some new => cases h
  | some old => cases new with
    | none => cases h
    | some new =>
      have heq : old = new := by
        by_contra hne
        simp [stagePredicate, Predicate.notices, Predicate.ofUpdate, hne] at h
      rw [heq]

/-- Once the finalizer is gone, nothing is due. -/
theorem releaseStage_done {stage : Stage} (hs : s.stages req = some stage) :
    (releaseStage req stage).Keeps (exec adm)
      ⟨SameStage req, fun _ _ => True, fun _ _ => True⟩
      (fun a t => retried a = true ∨ ¬ StageDue req t) s := by
  refine Prog.keeps_perform_bind.mpr fun t ht => ⟨trivial, fun _ => ?_, fun msg => .inl rfl⟩
  have ht : t.stages req = some stage := Eq.trans ht hs
  have hsubset : stage.finalizers.filter (· ≠ stageRouteFinalizer) ⊆ stage.finalizers :=
    List.filter_subset_self _
  simp only [exec, patchFinalizers, ht, hsubset, not_true, and_false, if_false]
  by_cases hlast : stage.deleting = true ∧
      stage.finalizers.filter (· ≠ stageRouteFinalizer) = []
  · rw [if_pos hlast]
    refine .inr ?_
    rintro ⟨stage', hs', -⟩
    simp at hs'
  · rw [if_neg hlast]
    refine .inr ?_
    rintro ⟨stage', hs', -, hf⟩
    simp only [Cluster.setStage_stages, Function.update_self, Option.some.injEq] at hs'
    simp [← hs'] at hf

theorem cleanupReconcile_done (req : NamespacedName) (s : Cluster) :
    (cleanupReconcile req).Keeps (exec adm)
      ⟨SameStage req, fun _ _ => True, fun _ _ => True⟩
      (fun a t => retried a = true ∨ ¬ StageDue req t) s := by
  refine Prog.keeps_perform_bind.mpr fun t ht => ⟨trivial, fun _ => ?_, fun msg => .inl rfl⟩
  simp only [exec]
  cases hs : t.stages req with
  | none =>
    refine .inr ?_
    rintro ⟨stage, hstage, -⟩
    simp [hs] at hstage
  | some stage =>
    simp only [found]
    split
    · next hidle =>
      refine .inr ?_
      rintro ⟨stage', hstage, hdeleting, hf⟩
      obtain rfl := Option.some.inj (hs.symm.trans hstage)
      simp [hdeleting, hf] at hidle
    · refine Prog.keeps_perform_bind.mpr fun u hu => ⟨trivial, fun _ => ?_, fun msg => .inl rfl⟩
      have hu : u.stages req = some stage := Eq.trans hu hs
      simp only [exec]
      cases u.httpRoutes ⟨req.ns, stageRouteName req.name⟩ with
      | none => exact releaseStage_done hu
      | some route => exact releaseStage_done hu

theorem cleanup_drains (adm : Admission)
    (ok : ControllerStation → StationMove UserMove Job (Runtime × Time) → Prop)
    (key : NamespacedName) :
    (watched adm).Drains ok (fun _ => True) (fun _ _ _ => True) (.cleanup key) (SameStage key)
      (StageDue key) where
  safe _ _ := ⟨trivial, fun _ _ _ _ => trivial⟩
  trans _ _ _ hst htu := Eq.trans htu hst
  refl _ _ := Eq.refl _
  env _ _ _ _ _ _ hr := stagePredicate_unheard hr
  call _ _ _ _ _ _ hr := stagePredicate_unheard hr
  stays s t hst hdue := by
    obtain ⟨stage, hs, hdue⟩ := hdue
    exact ⟨stage, Eq.trans hst.symm hs, hdue⟩
  lists s _ hdue := by
    obtain ⟨stage, hs, -⟩ := hdue
    simp [watched, hs, stagePredicate, Predicate.notices, Predicate.ofUpdate]
  prog _ s _ := cleanupReconcile_done key s

end Cleanup

section Activation

/-- The execution has an outcome. -/
def Terminal (conditions : List (Condition ActivationCondition)) : Prop :=
  isStatusConditionTrue conditions .succeeded = true ∨ isStatusConditionTrue conditions .failed = true

/-- The execution has an outcome, unless another reconcile is asked for. -/
def Concludes (r : Except ReconcileError CtrlResult × ActivationTaskExecution) : Prop :=
  retried r.1 = true ∨ Terminal r.2.conditions

def LeavesExecutions : Op → Prop
  | .patchExecutionStatus _ _ => False
  | _ => True

theorem markSucceeded_terminal (now : Time) (ate : ActivationTaskExecution) :
    Terminal (markSucceeded now ate).conditions :=
  .inl ((isStatusConditionTrue_set rfl).trans (by simp))

theorem reportRouterGateway_concludes {now : Time} {ate : ActivationTaskExecution}
    {state : RouterGatewayState} :
    Concludes (.ok (reportRouterGateway now ate state).1, (reportRouterGateway now ate state).2) := by
  unfold reportRouterGateway
  split
  · have hpoll : retried (.ok { requeueAfter := routerGatewayPollInterval }) = true := by decide
    exact .inl hpoll
  · exact .inr (.inr ((isStatusConditionTrue_set rfl).trans (by simp)))

theorem isSuperseded_within (ns : String) (va : VectorActivation) :
    (isSuperseded ns va).Within LeavesExecutions fun _ => True := by
  refine .perform_bind trivial fun r => ?_
  split
  · split <;> trivial
  · split
    · trivial
    · split
      · trivial
      · refine .perform_bind trivial fun r => ?_
        split
        · split <;> trivial
        · refine .perform_bind trivial fun r => ?_
          split
          · split <;> trivial
          · trivial

theorem ensureStageFinalizer_within (ns stage : String) :
    (ensureStageFinalizer ns stage).Within LeavesExecutions fun _ => True := by
  refine .perform_bind trivial fun r => ?_
  split
  · trivial
  · split
    · trivial
    · refine .perform_bind trivial fun r => ?_
      split <;> trivial

theorem createRouterGateway_within (ns className : String) (startedAt now : Time) :
    (createRouterGateway ns className startedAt now).Within LeavesExecutions fun _ => True := by
  refine .perform_bind trivial fun r => ?_
  split
  · split <;> trivial
  · refine .perform_bind trivial fun r => ?_
    split
    · split <;> trivial
    · split
      · trivial
      · refine .perform_bind trivial fun r => ?_
        split <;> trivial

theorem ensureRouterGateway_within (ns className : String) (startedAt now : Time) :
    (ensureRouterGateway ns className startedAt now).Within LeavesExecutions fun _ => True := by
  refine .perform_bind trivial fun r => ?_
  split
  · split
    · exact createRouterGateway_within ..
    · trivial
  · split
    · trivial
    · dsimp only
      split
      · refine .perform_bind trivial fun r => ?_
        split <;> trivial
      · trivial

theorem attachStageRoute_within (now : Time) (ns : String) (ate : ActivationTaskExecution)
    (stage : String) (config : GatewayRouteConfig) (rules : List HTTPRouteRule) :
    (attachStageRoute now ns ate stage config rules).Within LeavesExecutions Concludes := by
  have happly : (applyStageRoute ns stage config rules).Within LeavesExecutions fun _ => True := by
    refine .perform_bind trivial fun r => ?_
    split
    · split
      · refine .perform_bind trivial fun r => ?_
        split <;> trivial
      · trivial
    · split
      · trivial
      · refine .perform_bind trivial fun r => ?_
        split <;> trivial
  refine happly.bind fun r _ => ?_
  split
  · exact .inl rfl
  · exact .inr (markSucceeded_terminal now ate)

theorem exposeStage_within (now : Time) (ns : String) (ate : ActivationTaskExecution)
    (stage : String) (config : GatewayRouteConfig) (rules : List HTTPRouteRule) :
    (exposeStage now ns ate stage config rules).Within LeavesExecutions Concludes := by
  refine (ensureStageFinalizer_within ns stage).bind fun r _ => ?_
  split
  · exact .inl rfl
  · split
    · refine (ensureRouterGateway_within ..).bind fun r _ => ?_
      split
      · exact .inl rfl
      · split
        · exact reportRouterGateway_concludes
        · exact attachStageRoute_within ..
    · exact attachStageRoute_within ..

theorem reconcileActivationTaskExecution_within (rt : Runtime) (now : Time) (ns : String)
    (ate : ActivationTaskExecution) :
    (reconcileActivationTaskExecution rt now ns ate).Within LeavesExecutions Concludes := by
  unfold reconcileActivationTaskExecution
  split
  · next hfailed => exact .inr (.inr hfailed)
  · refine .perform_bind trivial fun r => ?_
    split
    · exact .inl rfl
    · refine (isSuperseded_within ..).bind fun r _ => ?_
      split
      · exact .inl rfl
      · exact .inr (markSucceeded_terminal now ate)
      · split
        · exact .inl rfl
        · refine .perform_bind trivial fun r => ?_
          split
          · exact .inl rfl
          · split
            · exact .inl rfl
            · refine .perform_bind trivial fun r => ?_
              split
              · exact .inl rfl
              · exact .inr (markSucceeded_terminal now ate)
            · exact exposeStage_within ..

theorem exec_executions {op : Op} (h : LeavesExecutions op) (s : Cluster) :
    (exec adm op s).2.executions = s.executions := by
  have heffect := exec_effect adm op s
  generalize (exec adm op s).2 = t at heffect
  cases heffect with
  | patchExecutionStatus conditions he => cases h
  | _ => rfl

/-- An execution of the controller's type without an outcome. -/
def ExecutionDue (req : NamespacedName) (s : Cluster) : Prop :=
  ∃ e, s.executions req = some e ∧ e.type = typeGatewayRoute ∧ ¬ Terminal e.conditions

/-- What the others do to an execution without a report: one of the controller's type is
as it was. -/
def Unheard (req : NamespacedName) (s t : Cluster) : Prop :=
  ∀ e, t.executions req = some e → e.type = typeGatewayRoute → s.executions req = some e

theorem Unheard.of_eq (h : t.executions req = s.executions req) : Unheard req s t :=
  fun _ he _ => h ▸ he

theorem Unheard.trans (hst : Unheard req s t) (htu : Unheard req t u) : Unheard req s u :=
  fun e he htype => hst e (htu e he htype) htype

/-- A reconcile that hears of every change is retried, or leaves an outcome. -/
theorem reconcile_concludes (rt : Runtime) (now : Time) (req : NamespacedName) (s : Cluster) :
    (reconcile rt now req).Keeps (exec adm)
      ⟨Unheard req, fun _ _ => True, fun _ _ => True⟩
      (fun a t => retried a = true ∨ ¬ ExecutionDue req t) s := by
  refine Prog.keeps_perform_bind.mpr fun t ht => ⟨trivial, fun _ => ?_, fun msg => .inl rfl⟩
  simp only [exec]
  cases hs : t.executions req with
  | none =>
    refine .inr ?_
    rintro ⟨e, he, -⟩
    simp [hs] at he
  | some original =>
    have hwithin : (reconcileActivationTaskExecution rt now req.ns original).Keeps (exec adm)
        ⟨Unheard req, fun _ _ => True, fun _ _ => True⟩
        (fun r u => Concludes r ∧ Unheard req t u) t := by
      have hcall : ∀ op u, LeavesExecutions op → True ∧ Unheard req u (exec adm op u).2 :=
        fun op u hop => ⟨trivial, .of_eq (congrFun (exec_executions hop u) req)⟩
      exact (reconcileActivationTaskExecution_within rt now req.ns original).keeps
        (Unheard req) (fun _ => .of_eq rfl) (fun _ _ _ hst htu => hst.trans htu)
        (fun _ _ h => h) hcall t
    refine hwithin.bind fun r u hr => ?_
    obtain ⟨hconcludes, hunheard⟩ := hr
    obtain ⟨result, ate⟩ := r
    -- an execution of the type that is stored now is the one that was read
    have hread {v : Cluster} (hv : Unheard req t v) {e : ActivationTaskExecution}
        (he : v.executions req = some e) (htype : e.type = typeGatewayRoute) : e = original :=
      Option.some.inj ((hv e he htype).symm.trans hs)
    dsimp only
    split
    · next hsame =>
      refine hconcludes.imp_right fun hterminal => ?_
      rintro ⟨e, he, htype, hnot⟩
      obtain rfl := hread hunheard he htype
      exact hnot (hsame ▸ hterminal)
    · refine Prog.keeps_perform_bind.mpr fun v hv => ⟨trivial, fun _ => ?_, fun msg => ?_⟩
      · simp only [exec]
        cases he : v.executions req with
        | none =>
          dsimp only
          split
          · exact .inl rfl
          · exact .inl rfl
          · next heq => cases heq
        | some e =>
          refine hconcludes.imp_right fun hterminal => ?_
          rintro ⟨e', he', -, hnot⟩
          simp only [Cluster.setExecution_executions, Function.update_self,
            Option.some.injEq] at he'
          exact hnot (he' ▸ hterminal)
      · split
        · exact .inl rfl
        · exact .inl rfl
        · next heq => cases heq

/-- The status of an execution is written by its own reconcile only. -/
def OwnStatus (j : Job) : Op → Prop
  | .patchExecutionStatus key _ => j = .activation key
  | _ => True

theorem LeavesExecutions.ownStatus {op : Op} (h : LeavesExecutions op) (j : Job) :
    OwnStatus j op := by
  cases op with
  | patchExecutionStatus key conditions => cases h
  | _ => trivial

theorem prog_uses (j : Job) (x : Runtime × Time) :
    ((controllers adm).prog j x).Uses (OwnStatus j) := by
  cases j with
  | activation req =>
    refine .perform_bind trivial fun r => ?_
    split
    · split <;> trivial
    · next original =>
      refine ((reconcileActivationTaskExecution_within x.1 x.2 req.ns original).uses
        fun op hop => hop.ownStatus _).bind fun r => ?_
      obtain ⟨result, ate⟩ := r
      dsimp only
      split
      · trivial
      · refine .perform_bind rfl fun r => ?_
        split <;> trivial
  | cleanup req =>
    refine .perform_bind trivial fun r => ?_
    split
    · split <;> trivial
    · split
      · trivial
      · refine .perform_bind trivial fun r => ?_
        split
        · trivial
        · refine .perform_bind trivial fun r => ?_
          split <;> trivial

theorem OwnStatus.frame {j : Job} {op : Op} (h : OwnStatus j op) (hne : .activation req ≠ j)
    (s : Cluster) : (exec adm op s).2.executions req = s.executions req := by
  have heffect := exec_effect adm op s
  generalize (exec adm op s).2 = t at heffect
  cases heffect with
  | @patchExecutionStatus key e conditions he =>
    have hk : req ≠ key := by
      rintro rfl
      exact hne (Eq.symm h)
    exact Function.update_of_ne hk _ _
  | _ => rfl

/-- An execution of the type that is stored without a report was there, and its spec is
the same. -/
theorem activationPredicate_unheard {old : Option ActivationTaskExecution}
    {new : ActivationTaskExecution} (htype : new.type = typeGatewayRoute)
    (h : activationPredicate.notices old (some new) = false) :
    ∃ e, old = some e ∧ new.generation = e.generation := by
  cases old with
  | none =>
    simp [activationPredicate, Predicate.notices, Predicate.and, Predicate.generationChanged,
      Predicate.ofUpdate, Predicate.ofFilter, htype] at h
  | some old =>
    refine ⟨old, rfl, ?_⟩
    by_cases heq : old = new
    · rw [heq]
    · have hgen : old.generation = new.generation := by
        simpa [activationPredicate, Predicate.notices, Predicate.and, Predicate.generationChanged,
          Predicate.ofUpdate, Predicate.ofFilter, htype, heq] using h
      exact hgen.symm

end Activation

end Watch

/-- Only the controller writes the status of executions: an execution that others leave
in place with its generation is unchanged. -/
def StatusKept (pool : Controllers) : Move UserMove Job (Runtime × Time) → Prop
  | .env (.elsewhere s') => ∀ req e e', pool.state.executions req = some e →
      s'.executions req = some e' → e'.generation = e.generation → e' = e
  | _ => True

theorem Watch.userMove_unheard {adm : Admission} {pool : Controllers} {m : UserMove} {t : Cluster}
    {req : NamespacedName} (hkept : StatusKept pool (.env m))
    (hm : userMove m pool.state = some t)
    (hr : (watched adm).reports pool.state t (.activation req) = false) :
    Watch.Unheard req pool.state t := by
  have hstage {key : NamespacedName} {o : Option Stage} :
      Watch.Unheard req pool.state (pool.state.setStage key o) := .of_eq rfl
  cases m with
  | createStage key finalizers =>
    simp only [userMove] at hm
    split at hm
    · cases hm
    · exact Option.some.inj hm ▸ hstage
  | deleteStage key =>
    simp only [userMove] at hm
    split at hm
    · cases hm
    · split at hm <;> exact Option.some.inj hm ▸ hstage
  | editStage key active finalizers =>
    simp only [userMove] at hm
    split at hm
    · cases hm
    · split at hm <;> exact Option.some.inj hm ▸ hstage
  | elsewhere s' =>
    obtain rfl := Option.some.inj hm
    intro e' he' htype
    have hnotices : activationPredicate.notices (pool.state.executions req) (some e') = false := by
      rw [← he']
      exact hr
    obtain ⟨e, he, hgen⟩ := Watch.activationPredicate_unheard htype hnotices
    rw [he, hkept req e e' he he' hgen]

theorem Watch.activation_drains (adm : Admission) (req : NamespacedName) :
    (watched adm).Drains (Watched.OnPool StatusKept) (fun _ => True)
      (fun j op _ => Watch.OwnStatus j op) (.activation req) (Watch.Unheard req)
      (Watch.ExecutionDue req) where
  safe st hst := Watched.reachable_of_uses (fun _ => True) (fun _ _ => trivial)
    (fun _ _ _ _ _ => trivial) (fun _ _ _ _ _ => trivial) Watch.prog_uses hst
  trans _ _ _ hst htu := hst.trans htu
  refl _ _ := .of_eq rfl
  env _ _ _ _ hok hm hr := Watch.userMove_unheard hok hm hr
  call _ _ s _ hop hne _ := .of_eq (hop.frame hne s)
  stays s t hst hdue := by
    obtain ⟨e, he, htype, hdue⟩ := hdue
    exact ⟨e, hst e he htype, htype, hdue⟩
  lists s _ hdue := by
    obtain ⟨e, he, htype, -⟩ := hdue
    simp [watched, he, activationPredicate, htype]
  prog x s _ := Watch.reconcile_concludes x.1 x.2 req s

/-- When nothing is reported, queued or running for an execution of the controller's type,
the execution has succeeded or failed. -/
theorem idle_activation_concluded (adm : Admission) (st : ControllerStation)
    (h : (watched adm).system.Reaches (Watched.OnPool StatusKept) st) (req : NamespacedName)
    (hidle : st.Idle (.activation req)) (e : ActivationTaskExecution)
    (he : st.state.executions req = some e) (htype : e.type = typeGatewayRoute) :
    isStatusConditionTrue e.conditions .succeeded = true ∨
      isStatusConditionTrue e.conditions .failed = true := by
  obtain ⟨-, hdone⟩ := (Watch.activation_drains adm req).idle h hidle
  by_contra hnot
  exact hdone ⟨e, he, htype, hnot⟩

/-- Only a Stage with the finalizer has a route. -/
theorem Watch.route_gone_of_not_due {adm : Admission} {st : ControllerStation}
    {key : NamespacedName} (h : (watched adm).system.Reaches (Watched.OnPool Apart) st)
    (hdone : ¬ Watch.StageDue key st.state)
    (hgoing : ∀ stage, st.state.stages key = some stage → stage.deleting = true) :
    st.state.httpRoutes (routeKey key.ns key.name) = none := by
  by_contra hroute
  have hstop (pool : Controllers) (j : Job) : Apart pool (.stop j) := by cases j <;> trivial
  have hpool := Watched.reaches_pool hstop h
  obtain ⟨stage, hs, hf⟩ := ((controllers_assertions adm).reaches hpool).inv key.ns key.name
    (Option.isSome_iff_ne_none.mpr hroute)
  exact hdone ⟨stage, hs, hgoing stage hs, hf⟩

/-- When nothing is reported, queued or running for the cleanup of a Stage, the Stage is not
held back by the route's finalizer; and if activations and cleanups have kept apart, a Stage
that is gone or going has no route. -/
theorem idle_stage_cleaned (adm : Admission) (st : ControllerStation)
    (h : (watched adm).system.Reachable st) (key : NamespacedName)
    (hidle : st.Idle (.cleanup key)) :
    (∀ stage, st.state.stages key = some stage → stage.deleting = true →
      stageRouteFinalizer ∉ stage.finalizers) ∧
    ((watched adm).system.Reaches (Watched.OnPool Apart) st →
      (∀ stage, st.state.stages key = some stage → stage.deleting = true) →
      st.state.httpRoutes (routeKey key.ns key.name) = none) := by
  obtain ⟨-, hdone⟩ := (Watch.cleanup_drains adm _ key).idle h hidle
  refine ⟨fun stage hs hdeleting hf => hdone ⟨stage, hs, hdeleting, hf⟩, fun hapart hgoing => ?_⟩
  exact Watch.route_gone_of_not_due hapart hdone hgoing

/-- No execution of the name is of the controller's type. -/
def OfOthers (req : NamespacedName) (s : Cluster) : Prop :=
  ∀ e, s.executions req = some e → e.type ≠ typeGatewayRoute

/-- An execution of another type is left alone: as long as the name has not been given to
one of the controller's type, no reconcile of it runs, and no call of a running job changes
it. -/
theorem other_execution_left_alone (adm : Admission) (st : ControllerStation)
    (req : NamespacedName)
    (h : (watched adm).system.Reaches (fun st _ => OfOthers req st.state) st)
    (hothers : OfOthers req st.state) :
    st.Idle (.activation req) ∧ ∀ j op f, st.running j = some (.call op f) →
      (exec adm op st.state).2.executions req = st.state.executions req := by
  have hfilter {s t : Cluster} (hs : OfOthers req s) (ht : OfOthers req t) :
      activationPredicate.notices (s.executions req) (t.executions req) = false := by
    cases hold : s.executions req with
    | none =>
      cases hnew : t.executions req with
      | none => rfl
      | some new => simp [activationPredicate, ht new hnew]
    | some old =>
      cases hnew : t.executions req with
      | none => simp [activationPredicate, Predicate.notices, Predicate.and, Predicate.ofFilter,
          hs old hold]
      | some new => simp [activationPredicate, Predicate.notices, Predicate.and,
          Predicate.ofFilter, ht new hnew]
  have hidle : st.Idle (.activation req) := by
    refine Watched.idle_throughout (OfOthers req) (fun s hs => ?_)
      (fun s t hs ht => hfilter hs ht) h hothers
    cases hnew : s.executions req with
    | none => simp [watched, hnew]
    | some new => simp [watched, activationPredicate, hnew, hs new hnew]
  refine ⟨hidle, fun j op f hrun => ?_⟩
  have hown := (Watched.reachable_of_uses (fun _ => True) (fun _ _ => trivial)
    (fun _ _ _ _ _ => trivial) (fun _ _ _ _ _ => trivial) Watch.prog_uses h).2 j op f hrun
  have hne : Job.activation req ≠ j := by
    rintro rfl
    simp [hidle.running] at hrun
  exact hown.frame hne st.state

section Runs

abbrev ControllerMove := StationMove UserMove Job (Runtime × Time)

/-- The process starts beside a Stage and an execution for it. -/
def freshStation : ControllerStation :=
  ⟨freshPool, (watched ⟨id⟩).lists freshStage, fun _ => false⟩

/-- A report is delivered and a job of `n` calls runs to its end. -/
def runReported (j : Job) (now : Time) (n : ℕ) : List ControllerMove :=
  [.deliver j, .pool (.start j (shopRuntime, now))] ++ List.replicate n (.pool (.call j)) ++
    [.pool (.stop j)]

/-- The run has no moves that could write a status. -/
def noElsewhere : ControllerMove → Bool
  | .pool (.env (.elsewhere _)) => false
  | _ => true

theorem noElsewhere_statusKept (st : ControllerStation) (m : ControllerMove)
    (h : noElsewhere m = true) : Watched.OnPool StatusKept st m := by
  cases m with
  | pool m =>
    cases m with
    | env e =>
      cases e with
      | elsewhere s => cases h
      | _ => trivial
    | _ => trivial
  | _ => trivial

theorem idle_activation_concluded_shop : ∃ st,
    (watched ⟨id⟩).system.Reaches (Watched.OnPool StatusKept) st ∧
      st.Idle activate ∧ ∃ e, st.state.executions ⟨"landscape", "e"⟩ = some e ∧
        (isStatusConditionTrue e.conditions .succeeded = true ∨
          isStatusConditionTrue e.conditions .failed = true) := by
  obtain ⟨st, hst, hp⟩ := System.reaches_of_follow (watched ⟨id⟩).system
    (runReported activate 10 9)
    (fun st => st.reported activate = false ∧ st.queued activate = false ∧
      (st.running activate).isNone = true ∧
      (st.state.executions ⟨"landscape", "e"⟩).any (·.type = typeGatewayRoute) = true)
    (fun st m (hcheck : noElsewhere m = true) => noElsewhere_statusKept st m hcheck)
    (s := freshStation) ⟨freshPool_init _, rfl, rfl⟩ (by decide +kernel)
  obtain ⟨hreported, hqueued, hrunning, htyped⟩ := of_decide_eq_true hp
  obtain ⟨e, he, htype⟩ := (Option.any_eq_true ..).mp htyped
  have hidle : st.Idle activate := ⟨hreported, hqueued, Option.isNone_iff_eq_none.mp hrunning⟩
  exact ⟨st, hst, hidle, e, he,
    idle_activation_concluded _ st hst _ hidle e he (of_decide_eq_true htype)⟩

def stationTurns (st : ControllerStation) : ControllerMove → Bool
  | .pool m => takesTurns st.toPool m
  | _ => true

theorem OneJob.nextStation {st st' : ControllerStation} {m : ControllerMove}
    (h : OneJob st.toPool) (hm : stationTurns st m = true)
    (hn : (watched adm).system.next st m = some st') : OneJob st'.toPool := by
  cases Watched.next_stationStep hn with
  | pool _ hnext => exact h.next hm hnext
  | deliver _ => exact h
  | resync _ => exact h
  | restart => exact ⟨activate, .inl rfl, fun _ _ => rfl⟩

theorem OneJob.initStation {st : ControllerStation} (h : (watched adm).system.init st) :
    OneJob st.toPool :=
  ⟨activate, .inl rfl, fun j _ => h.1.2 j⟩

theorem station_oneJob {st : ControllerStation}
    (h : (watched adm).system.Reaches (fun st m => stationTurns st m = true) st) :
    OneJob st.toPool :=
  h.invariant (fun _ h => OneJob.initStation h) fun _ _ _ hone hm hn => hone.nextStation hm hn

theorem station_reaches_apart {st : ControllerStation}
    (h : (watched adm).system.Reaches (fun st m => stationTurns st m = true) st) :
    (watched adm).system.Reaches (Watched.OnPool Apart) st := by
  refine h.strengthen (fun st => OneJob st.toPool) (fun _ h => OneJob.initStation h)
    (fun _ _ _ hone hm hn => hone.nextStation hm hn) fun st m hone _ => ?_
  cases m with
  | pool m => exact hone.apart m
  | _ => trivial

/-- The Stage is activated and then deleted. Another controller holds it back: it stays,
without the finalizer and without its route, and the cleanup hears of it once more. -/
theorem idle_stage_cleaned_prod : ∃ st,
    (watched ⟨id⟩).system.Reaches (Watched.OnPool Apart) st ∧
      st.Idle cleanUp ∧ st.state.revision = 1 ∧
      (∃ stage, st.state.stages ⟨"landscape", "prod"⟩ = some stage ∧ stage.deleting = true ∧
        stageRouteFinalizer ∉ stage.finalizers) ∧
      st.state.httpRoutes (routeKey "landscape" "prod") = none := by
  obtain ⟨st, hturns, hp⟩ := System.reaches_of_follow (watched ⟨id⟩).system
    (runReported activate 10 9 ++
      [.pool (.env (.editStage ⟨"landscape", "prod"⟩ none ["audit"])),
        .pool (.env (.deleteStage ⟨"landscape", "prod"⟩))] ++
      runReported cleanUp 11 3 ++ runReported cleanUp 12 1)
    (fun st => st.reported cleanUp = false ∧ st.queued cleanUp = false ∧
      (st.running cleanUp).isNone = true ∧
      (st.state.stages ⟨"landscape", "prod"⟩).any (·.deleting) = true ∧ st.state.revision = 1)
    (fun st m (h : stationTurns st m = true) => h) (s := freshStation)
    ⟨freshPool_init _, rfl, rfl⟩ (by decide +kernel)
  obtain ⟨hreported, hqueued, hrunning, hgoing, hrevision⟩ := of_decide_eq_true hp
  obtain ⟨stage, hs, hdeleting⟩ := (Option.any_eq_true ..).mp hgoing
  have hst := station_reaches_apart hturns
  have hidle : st.Idle cleanUp := ⟨hreported, hqueued, Option.isNone_iff_eq_none.mp hrunning⟩
  obtain ⟨hreleased, hgone⟩ := idle_stage_cleaned _ st (hst.mono fun _ _ _ => trivial)
    ⟨"landscape", "prod"⟩ hidle
  refine ⟨st, hst, hidle, hrevision, ⟨stage, hs, hdeleting, hreleased stage hs hdeleting⟩, ?_⟩
  refine hgone hst fun stage' hs' => ?_
  rw [hs] at hs'
  rwa [← Option.some.inj hs']

/-- An execution of another type beside the Stage. -/
def otherType : Cluster :=
  freshStage.setExecution ⟨"landscape", "e"⟩
    (some ⟨"e", 1, 1, "k8s-job.konfidence.cloud", "a", "", []⟩)

def ofOthersShop (s : Cluster) : Bool :=
  (s.executions ⟨"landscape", "e"⟩).all (·.type ≠ typeGatewayRoute)

theorem ofOthersShop_ofOthers {s : Cluster} (h : ofOthersShop s = true) :
    OfOthers ⟨"landscape", "e"⟩ s := by
  intro e he
  simpa [ofOthersShop, he] using h

/-- The execution has another type; its spec is edited, and the cleanup of its Stage
runs. -/
theorem other_execution_left_alone_shop : ∃ st,
    (watched ⟨id⟩).system.Reaches (fun st _ => OfOthers ⟨"landscape", "e"⟩ st.state) st ∧
      st.Idle activate ∧ (st.running cleanUp).isSome = true ∧
      (st.state.executions ⟨"landscape", "e"⟩).isSome = true := by
  obtain ⟨st, hst, hp⟩ := System.reaches_of_follow (watched ⟨id⟩).system
    [.pool (.env (.elsewhere (otherType.setExecution ⟨"landscape", "e"⟩
        (some ⟨"e", 1, 2, "k8s-job.konfidence.cloud", "b", "", []⟩)))),
      .resync cleanUp, .deliver cleanUp, .pool (.start cleanUp (shopRuntime, 11)),
      .pool (.call cleanUp)]
    (fun st => ofOthersShop st.state = true ∧ (st.running cleanUp).isSome = true ∧
      (st.state.executions ⟨"landscape", "e"⟩).isSome = true)
    (fun st m (h : ofOthersShop st.state = true) => ofOthersShop_ofOthers h)
    (s := ⟨⟨otherType, fun _ => none⟩, (watched ⟨id⟩).lists otherType, fun _ => false⟩)
    ⟨⟨(freshPool_init ⟨id⟩).1, fun _ => rfl⟩, rfl, rfl⟩ (by decide +kernel)
  obtain ⟨hothers, hrunning, hsome⟩ := of_decide_eq_true hp
  exact ⟨st, hst, (other_execution_left_alone _ st ⟨"landscape", "e"⟩ hst
    (ofOthersShop_ofOthers hothers)).1, hrunning, hsome⟩

end Runs

end LandscapeOrchestrator.ActivationExecution
