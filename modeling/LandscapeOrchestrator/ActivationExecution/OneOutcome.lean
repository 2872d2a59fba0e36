import LandscapeOrchestrator.Apilib.Runs
import LandscapeOrchestrator.ActivationExecution.RouteDiscipline

/-!
# One outcome at a time

`InProgress`, `Succeeded` and `Failed` exclude each other as long as an execution
that has succeeded keeps its router. A report about a router that was lost
afterwards does not take `Succeeded` back.
-/

namespace LandscapeOrchestrator.ActivationExecution
open Apilib

def ActivationCondition.isOutcome : ActivationCondition → Bool
  | .inProgress => true
  | .succeeded => true
  | .failed => true
  | .other _ => false

def AtMostOneOutcome (conditions : List (Condition ActivationCondition)) : Prop :=
  ∀ t u : ActivationCondition, t.isOutcome = true → u.isOutcome = true →
    isStatusConditionTrue conditions t = true → isStatusConditionTrue conditions u = true → t = u

def OneOutcome (req : NamespacedName) (s : Cluster) : Prop :=
  ∀ ate, s.executions req = some ate → AtMostOneOutcome ate.conditions

/-- A whole reconcile of the execution, or a change of everything else. -/
inductive ExecutionMove where
  | reconcile (rt : Runtime) (now : Time) (faults : ℕ → Option String)
  | world (s : Cluster)

/-- Runs of reconciles of the execution `req`. -/
def executionRuns (adm : Admission) (req : NamespacedName) : System Cluster ExecutionMove where
  init s := ∃ ate, s.executions req = some ate ∧ ate.conditions = []
  next s
    | .reconcile rt now faults => some ((reconcile rt now req).run (exec adm) faults s).2
    | .world t => some (t.setExecution req (s.executions req))

/-- The router that a successful activation needs: the operator's own Gateway, or
one of the orchestrator's that is not rejected and cluster-routable. -/
def RouterStands (ns : String) (s : Cluster) : Prop :=
  ∃ g, s.gateways (routerKey ns) = some g ∧
    (isProvisioned g = true → isClusterRoutable g = true ∧
      ∀ c, findStatusCondition g.conditions .accepted = some c → c.status ≠ .isFalse)

/-- An execution that has succeeded and provisions its router still has it. -/
def RouterKept (req : NamespacedName) (s : Cluster) : Prop :=
  ∀ ate config, s.executions req = some ate →
    isStatusConditionTrue ate.conditions .succeeded = true →
    parseGatewayRouteConfig ate = .ok config → config.provisionsGateway = true →
    RouterStands req.ns s

/-- Every reconcile finds the router kept. -/
def FindsRouter (req : NamespacedName) (s : Cluster) : ExecutionMove → Prop
  | .reconcile _ _ _ => RouterKept req s
  | .world _ => True

variable {adm : Admission} {rt : Runtime} {now : Time} {ns : String} {req : NamespacedName}
  {ate : ActivationTaskExecution} {s t : Cluster}

theorem AtMostOneOutcome.of_only {conditions : List (Condition ActivationCondition)}
    (only : ActivationCondition)
    (h : ∀ t, t.isOutcome = true → t ≠ only → isStatusConditionTrue conditions t = false) :
    AtMostOneOutcome conditions := by
  have honly (t : ActivationCondition) (ht : t.isOutcome = true)
      (htrue : isStatusConditionTrue conditions t = true) : t = only := by
    by_contra hne
    simp [h t ht hne] at htrue
  intro t u ht hu htrue hutrue
  exact (honly t ht htrue).trans (honly u hu hutrue).symm

theorem markSucceeded_atMostOne (hf : isStatusConditionTrue ate.conditions .failed = false) :
    AtMostOneOutcome (markSucceeded now ate).conditions := by
  refine .of_only .succeeded fun t ht hne => ?_
  cases t with
  | inProgress => exact markSucceeded_inProgress now ate
  | succeeded => exact absurd rfl hne
  | failed => exact (markSucceeded_failed now ate).trans hf
  | other s => cases ht

/-- A report on an execution without an outcome leaves one: `InProgress` or `Failed`. -/
theorem report_atMostOne (hf : isStatusConditionTrue ate.conditions .failed = false)
    (hs : isStatusConditionTrue ate.conditions .succeeded = false) (state : RouterGatewayState) :
    AtMostOneOutcome (reportRouterGateway now ate state).2.conditions := by
  have hsucc := (report_succeeded now ate state).trans hs
  unfold reportRouterGateway at hsucc ⊢
  split at hsucc
  · next hp =>
    rw [if_pos hp]
    refine .of_only .inProgress fun t ht hne => ?_
    cases t with
    | inProgress => exact absurd rfl hne
    | succeeded => exact hsucc
    | failed => exact (isStatusConditionTrue_set_of_ne (by simp)).trans hf
    | other s => cases ht
  · next hp =>
    rw [if_neg hp]
    refine .of_only .failed fun t ht hne => ?_
    cases t with
    | inProgress =>
      refine (isStatusConditionTrue_set_of_ne (by simp)).trans ?_
      simp [isStatusConditionTrue]
    | succeeded => exact hsucc
    | failed => exact absurd rfl hne
    | other s => cases ht

/-- A cluster-routable Gateway that is not rejected is judged ready at any time. -/
theorem evaluateRouterGateway_stands {g : Gateway} (hr : isClusterRoutable g = true)
    (ha : ∀ c, findStatusCondition g.conditions .accepted = some c → c.status ≠ .isFalse)
    (now : Time) : evaluateRouterGateway g now = readyState := by
  have hreq : requestsClusterRoutability g = true := by
    by_contra hreq
    simp [isClusterRoutable, hreq] at hr
  unfold evaluateRouterGateway
  simp only [hreq, Bool.not_true, Bool.false_eq_true, if_false, hr, if_true]
  split
  · next hc => exact absurd rfl (ha _ hc)
  · rfl

/-- Where the router stands, `ensureRouterGateway` answers ready. -/
theorem RouterOutcome.ready_of_stands {className : String} {startedAt : Time}
    {state : RouterGatewayState} (h : RouterOutcome adm ns className startedAt now s (.ok state) t)
    (hs : RouterStands ns s) : state.phase = .ready := by
  obtain ⟨g, hg, hstands⟩ := hs
  have judged {g' : Gateway} (hg' : s.gateways (routerKey ns) = some g')
      (hp : isProvisioned g' = true) : evaluateRouterGateway g' now = readyState := by
    obtain rfl : g = g' := Option.some.inj (hg.symm.trans hg')
    obtain ⟨hr, ha⟩ := hstands hp
    exact evaluateRouterGateway_stands hr ha now
  cases h with
  | admin hg' hp => rfl
  | evaluated hg' hp he => rw [judged hg' hp]; rfl
  | removed hg' hp he ht => rw [judged hg' hp]; rfl
  | classMissing hno hc => simp [hg] at hno
  | created hno hc hr => simp [hg] at hno
  | pruned hno hc hr => simp [hg] at hno

/-- What one activation leaves of the outcomes. -/
theorem ActivationOutcome.atMostOne
    {r : Except ReconcileError CtrlResult × ActivationTaskExecution}
    (h : ActivationOutcome adm rt now req.ns ate s r t) (he : s.executions req = some ate)
    (hi : OneOutcome req s) (hk : RouterKept req s) : AtMostOneOutcome r.2.conditions := by
  have hold := hi ate he
  cases h with
  | alreadyFailed hf => exact hold
  | aborted e hf => exact hold
  | skipped hf hva hs => exact markSucceeded_atMostOne hf
  | routeRemoved due ht => exact markSucceeded_atMostOne due.notFailed
  | routerFailed due hne hf hp hr => exact hold
  | @reported va config vd rules t' u state due hne hf hp hr hstate =>
    refine report_atMostOne due.notFailed ?_ _
    -- a succeeded execution would have found its router ready
    by_contra hs
    obtain ⟨g, hg, hstands⟩ := hk ate config he (by simpa using hs) due.config hp
    have hs' : RouterStands req.ns t' := ⟨g, by rw [hf.frame.2, hg], hstands⟩
    exact hstate (hr.ready_of_stands hs')
  | unapplied c due hne hf hv => exact hold
  | applied due hne hf hv hw => exact markSucceeded_atMostOne due.notFailed

theorem ReconcileOutcome.atMostOne {result : Except ReconcileError CtrlResult}
    (h : ReconcileOutcome adm rt now req s result t) (hi : OneOutcome req s)
    (hk : RouterKept req s) : OneOutcome req t := by
  cases h with
  | absent he => exact hi
  | unread c => exact hi
  | unmarked he h hsame =>
    rw [OneOutcome, h.keeps.executions]
    exact hi
  | @marked ate t' r he h hnew =>
    intro ate' he'
    obtain rfl : { ate with conditions := r.2.conditions } = ate' := by simpa using he'
    exact h.atMostOne he hi hk
  | unpatched e he h hnew =>
    rw [OneOutcome, h.keeps.executions]
    exact hi

/-- Along every run in which an execution that has succeeded keeps its router, at
most one outcome is true. -/
theorem executionRuns_oneOutcome (adm : Admission) (req : NamespacedName) {s : Cluster}
    (h : (executionRuns adm req).Reaches (FindsRouter req) s) : OneOutcome req s := by
  refine h.invariant (fun s hs => ?_) fun s l t hi hok hn => ?_
  · obtain ⟨ate, he, hc⟩ := hs
    intro ate' he'
    obtain rfl : ate = ate' := Option.some.inj (he.symm.trans he')
    rw [hc]
    exact .of_only .succeeded fun t _ _ => rfl
  · cases l with
    | reconcile rt now faults =>
      obtain rfl := Option.some.inj hn
      have ho : (reconcile rt now req).Ensures (exec adm) (ReconcileOutcome adm rt now req s) s :=
        reconcile_outcome rt now req
      exact (Prog.ensures_iff_run.mp ho faults).atMostOne hi hok
    | world u =>
      obtain rfl := Option.some.inj hn
      simpa [OneOutcome] using hi

/-- A router with a cluster-routable address. -/
def standingRouter : Gateway :=
  { newRouterGateway "landscape" "mesh" with statusAddresses := [⟨"10.0.0.1", some .cluster⟩] }

/-- An execution that provisions its router, which stands. -/
def besideStandingRouter : Cluster :=
  { freshStage.setGateway (routerKey "landscape") (some standingRouter) with
    gatewayClasses := fun name => name = "mesh"
    executions := fun key =>
      if key = ⟨"landscape", "e"⟩ then
        some ⟨"e", 1, 1, typeGatewayRoute, "a", "\x7b\"gatewayClassName\":\"mesh\"\x7d", []⟩
      else none }

def hasOutcome (outcome : ActivationCondition) (s : Cluster) : Bool :=
  match s.executions ⟨"landscape", "e"⟩ with
  | some ate => isStatusConditionTrue ate.conditions outcome
  | none => false

/-- The execution is activated, and again when it has succeeded and the router is still
in place. -/
theorem executionRuns_oneOutcome_twice :
    ∃ s, (executionRuns ⟨id⟩ ⟨"landscape", "e"⟩).Reaches (FindsRouter ⟨"landscape", "e"⟩) s ∧
      hasOutcome .succeeded s = true ∧ OneOutcome ⟨"landscape", "e"⟩ s := by
  have again {s : Cluster} (now : Time)
      (h : (executionRuns ⟨id⟩ ⟨"landscape", "e"⟩).Reaches (FindsRouter ⟨"landscape", "e"⟩) s)
      (hg : s.gateways (routerKey "landscape") = some standingRouter) :
      (executionRuns ⟨id⟩ ⟨"landscape", "e"⟩).Reaches (FindsRouter ⟨"landscape", "e"⟩)
        ((reconcile shopRuntime now ⟨"landscape", "e"⟩).run (exec ⟨id⟩) (fun _ => none) s).2 := by
    have hkept : RouterKept ⟨"landscape", "e"⟩ s := fun _ _ _ _ _ _ =>
      ⟨standingRouter, hg, fun _ => ⟨by decide +kernel, fun c hc => by cases hc⟩⟩
    exact h.step (l := .reconcile shopRuntime now fun _ => none) hkept rfl
  have htwice := again 20 (again 10 (.init ⟨_, rfl, rfl⟩) (s := besideStandingRouter) rfl)
    (by decide +kernel)
  exact ⟨_, htwice, by decide +kernel, executionRuns_oneOutcome _ _ htwice⟩

/-- The router is lost after the activation has succeeded, and the next reconcile
reports that it waits for a new one. -/
theorem executionRuns_two_outcomes :
    ∃ s, (executionRuns ⟨id⟩ ⟨"landscape", "e"⟩).Reachable s ∧
      ¬ OneOutcome ⟨"landscape", "e"⟩ s := by
  obtain ⟨s, hs, hboth⟩ := System.reachable_of_follow (executionRuns ⟨id⟩ ⟨"landscape", "e"⟩)
    [.reconcile shopRuntime 10 fun _ => none,
      .world (besideStandingRouter.setGateway (routerKey "landscape") none),
      .reconcile shopRuntime 20 fun _ => none]
    (fun s => hasOutcome .succeeded s && hasOutcome .inProgress s)
    (s := besideStandingRouter) ⟨_, rfl, rfl⟩ (by decide +kernel)
  obtain ⟨hsucc, hprog⟩ := Bool.and_eq_true_iff.mp hboth
  unfold hasOutcome at hsucc hprog
  cases he : s.executions ⟨"landscape", "e"⟩ with
  | none => simp [he] at hsucc
  | some ate =>
    simp only [he] at hsucc hprog
    exact ⟨s, hs, fun hone => by cases hone ate he _ _ rfl rfl hsucc hprog⟩

end LandscapeOrchestrator.ActivationExecution
