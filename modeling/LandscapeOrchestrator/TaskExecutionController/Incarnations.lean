import LandscapeOrchestrator.TaskExecutionController.Finality

/-!
# TaskExecutions that are re-created under their name

Users delete a TaskExecution and create another one of the same name; the Jobs of the
first are collected some time later. Jobs are found by the name of their owner, and a
status is patched by name, so the outcome of one incarnation can be taken from a Job of
the one before.

## Main definitions

- `incarnations` — all reconciles beside users, the Job controller and the collector
- `Settled` — the condition on re-creation under which the outcomes are a task's own
-/

namespace LandscapeOrchestrator.TaskExecutionController
open Apilib

/-- The UID in the controller reference of a Job. -/
def controllerUID (job : Job) : Option String := (controllerOf job).map (·.uid)

/-- The TaskExecution that controls the Job is gone, or another one has its name. -/
def orphaned (s : Cluster) (job : Job) : Bool :=
  match ownerIndex job with
  | none => false
  | some name => match s.taskExecutions ⟨job.ns, name⟩ with
    | none => true
    | some te => controllerUID job ≠ some te.uid

inductive LifecycleMove where
  | create (key : NamespacedName) (uid raw : String)
  | delete (key : NamespacedName)
  | collect (ns name : String)
  | setStatus (ns name : String) (conditions : List JobCondition)

/-- Only Jobs whose owner is gone are collected. -/
def lifecycleMove : LifecycleMove → Cluster → Option Cluster
  | .create key uid raw, s => match s.taskExecutions key with
    | some _ => none
    | none => some (s.setTaskExecution key ⟨uid, 1, raw, []⟩)
  | .delete key, s => some { s with taskExecutions := Function.update s.taskExecutions key none }
  | .collect ns name, s =>
    if ∀ j ∈ s.jobs, j.hasName ns name = true → orphaned s j = true
    then some { s with jobs := s.jobs.filter fun j => !j.hasName ns name } else none
  | .setStatus ns name conditions, s => jobMove (.setStatus ns name conditions) s

/-- The Jobs of a TaskExecution carry its UID. -/
def OwnJobs (s : Cluster) (key : NamespacedName) : Prop :=
  ∀ te, s.taskExecutions key = some te → ∀ j ∈ s.jobsOf key, controllerUID j = some te.uid

def incarnations (unmarshal : String → Except String String) :
    Workload LifecycleMove NamespacedName (String × ℕ) Op Res (Except String Unit) Cluster where
  init s := ∀ key, OwnJobs s key
  exec := exec
  env := lifecycleMove
  prog req x := reconcile unmarshal x.1 x.2 req

abbrev Tasks := Pool NamespacedName Op Res (Except String Unit) Cluster

/-- A TaskExecution is created only when no Job of an earlier one of its name is left and
no reconcile of that name is running. -/
def Settled (pool : Tasks) : Move LifecycleMove NamespacedName (String × ℕ) → Prop
  | .env (.create key _ _) => pool.state.jobsOf key = [] ∧ pool.running key = none
  | _ => True

/-- A Job of the TaskExecution `key` with the UID `uid` has ended with `r`. -/
def HasResult (s : Cluster) (key : NamespacedName) (uid : String) (r : JobResult) : Prop :=
  ∃ j ∈ s.jobsOf key, controllerUID j = some uid ∧ isJobFinished j = some r

namespace Incarnation

/-- What the others do between two calls of a reconcile of `req`: the TaskExecution stays
or goes, and while it stays its Jobs keep their results. -/
structure Rely (req : NamespacedName) (s t : Cluster) : Prop where
  own : OwnJobs t req
  taskExecution : ∀ te, t.taskExecutions req = some te → s.taskExecutions req = some te
  result : ∀ te r, t.taskExecutions req = some te → HasResult s req te.uid r →
    HasResult t req te.uid r

/-- The calls of a reconcile of `req`: a Job of the TaskExecution that is stored, if one
is, and an outcome of such a Job. -/
def Guar (req : NamespacedName) : Op → Cluster → Prop
  | .getTaskExecution _, _ => True
  | .listJobs _, _ => True
  | .createJob job, s => job.ns = req.ns ∧ ownerIndex job = some req.name ∧
    ∀ te, s.taskExecutions req = some te → controllerUID job = some te.uid
  | .patchStatus key _ after, s => key = req ∧
    ∀ te r, s.taskExecutions req = some te →
      isStatusConditionTrue after (JobResult.condition r) = true →
      isStatusConditionTrue te.conditions (JobResult.condition r) = false →
      HasResult s req te.uid r

def contract (req : NamespacedName) : Contract Op Cluster where
  rely := Rely req
  given _ _ := True
  guar := Guar req

variable {s t : Cluster} {key req : NamespacedName}

theorem Rely.of_jobs (hown : OwnJobs s req) (hte : ∀ te, t.taskExecutions req = some te →
      s.taskExecutions req = some te)
    (hjobs : t.jobsOf req = s.jobsOf req) : Rely req s t where
  own te h j hj := hown te (hte te h) j (hjobs ▸ hj)
  taskExecution := hte
  result te r _ h := by
    obtain ⟨j, hj, h⟩ := h
    exact ⟨j, hjobs ▸ hj, h⟩

/-- A Job that is collected is not one of a stored TaskExecution. -/
theorem collect_keeps {ns name : String} {te : TaskExecution} {j : Job}
    (h : ∀ j ∈ s.jobs, j.hasName ns name = true → orphaned s j = true)
    (hte : s.taskExecutions key = some te) (hj : j ∈ s.jobsOf key)
    (huid : controllerUID j = some te.uid) :
    j ∈ Cluster.jobsOf { s with jobs := s.jobs.filter fun j => !j.hasName ns name } key := by
  obtain ⟨hmem, hof⟩ := List.mem_filter.mp hj
  have hstays : j.hasName ns name = false := by
    by_contra hname
    have horphan := h j hmem (by simpa using hname)
    obtain ⟨hns, howner⟩ := of_decide_eq_true hof
    have hkey : (⟨j.ns, key.name⟩ : NamespacedName) = key := by rw [hns]
    simp [orphaned, howner, hkey, hte, huid] at horphan
  exact List.mem_filter.mpr ⟨List.mem_filter.mpr ⟨hmem, by simp [hstays]⟩, hof⟩

theorem controllerUID_setStatus (ns name : String) (conditions : List JobCondition) (j : Job) :
    controllerUID (j.setStatus ns name conditions) = controllerUID j := by
  unfold Job.setStatus
  split <;> rfl

/-- A TaskExecution is created under a name without Jobs. -/
theorem create_keeps {new : NamespacedName} {te : TaskExecution} (hown : ∀ key, OwnJobs s key)
    (hnone : s.jobsOf new = []) :
    (∀ key, OwnJobs (s.setTaskExecution new te) key) ∧
      ∀ req, req ≠ new → Rely req s (s.setTaskExecution new te) := by
  have other {key : NamespacedName} (hk : key ≠ new) {te' : TaskExecution}
      (hte : (s.setTaskExecution new te).taskExecutions key = some te') :
      s.taskExecutions key = some te' := by
    simpa [Cluster.setTaskExecution, Function.update_of_ne hk] using hte
  refine ⟨fun key te' hte j hj => ?_, fun req hne => .of_jobs (hown req) (fun te' => other hne) rfl⟩
  by_cases hk : key = new
  · have hj' : j ∈ s.jobsOf key := hj
    simp [hk, hnone] at hj'
  · exact hown key te' (other hk hte) j hj

theorem delete_keeps (old : NamespacedName) (hown : ∀ key, OwnJobs s key) :
    (∀ key, OwnJobs { s with taskExecutions := Function.update s.taskExecutions old none } key) ∧
      ∀ req, Rely req s { s with taskExecutions := Function.update s.taskExecutions old none } := by
  have kept {key : NamespacedName} {te : TaskExecution}
      (hte : Function.update s.taskExecutions old none key = some te) :
      s.taskExecutions key = some te := by
    by_cases hk : key = old
    · simp [hk] at hte
    · simpa [Function.update_of_ne hk] using hte
  exact ⟨fun key te hte j hj => hown key te (kept hte) j hj,
    fun req => .of_jobs (hown req) (fun te => kept) rfl⟩

theorem collected_keeps {ns name : String} (hown : ∀ key, OwnJobs s key)
    (h : ∀ j ∈ s.jobs, j.hasName ns name = true → orphaned s j = true) :
    (∀ key, OwnJobs { s with jobs := s.jobs.filter fun j => !j.hasName ns name } key) ∧
      ∀ req, Rely req s { s with jobs := s.jobs.filter fun j => !j.hasName ns name } := by
  have hown' (key : NamespacedName) :
      OwnJobs { s with jobs := s.jobs.filter fun j => !j.hasName ns name } key :=
    fun te hte j hj => hown key te hte j ((List.filter_sublist.filter _).subset hj)
  refine ⟨hown', fun req => ⟨hown' req, fun te => id, fun te r hte hres => ?_⟩⟩
  obtain ⟨j, hj, huid, hr⟩ := hres
  exact ⟨j, collect_keeps h hte hj huid, huid, hr⟩

/-- The Job controller changes no Job that has ended. -/
theorem setStatus_keeps {ns name : String} {conditions : List JobCondition}
    (hown : ∀ key, OwnJobs s key)
    (hfinal : ∀ j ∈ s.jobs, (isJobFinished j).isSome = true →
      isJobFinished (j.setStatus ns name conditions) = isJobFinished j) :
    (∀ key, OwnJobs { s with jobs := s.jobs.map (Job.setStatus ns name conditions) } key) ∧
      ∀ req, Rely req s { s with jobs := s.jobs.map (Job.setStatus ns name conditions) } := by
  have hown' (key : NamespacedName) :
      OwnJobs { s with jobs := s.jobs.map (Job.setStatus ns name conditions) } key := by
    intro te hte j' hj'
    rw [jobsOf_setStatus] at hj'
    obtain ⟨j, hj, rfl⟩ := List.mem_map.mp hj'
    rw [controllerUID_setStatus]
    exact hown key te hte j hj
  refine ⟨hown', fun req => ⟨hown' req, fun te => id, fun te r hte hres => ?_⟩⟩
  obtain ⟨j, hj, huid, hr⟩ := hres
  refine ⟨j.setStatus ns name conditions, ?_, by rw [controllerUID_setStatus, huid], ?_⟩
  · rw [jobsOf_setStatus]
    exact List.mem_map_of_mem hj
  · rw [hfinal j (List.mem_of_mem_filter hj) (by rw [hr]; rfl), hr]

theorem lifecycleMove_keeps {pool : Tasks} {m : LifecycleMove} (hown : ∀ key, OwnJobs pool.state key)
    (h : lifecycleMove m pool.state = some t) (hok : Settled pool (.env m)) :
    (∀ key, OwnJobs t key) ∧ ∀ req p, pool.running req = some p → Rely req pool.state t := by
  cases m with
  | create new uid raw =>
    obtain ⟨hnone, hidle⟩ := hok
    simp only [lifecycleMove] at h
    split at h
    · cases h
    · obtain rfl := Option.some.inj h
      obtain ⟨hown', hrely⟩ := create_keeps hown hnone
      refine ⟨hown', fun req p hrun => hrely req ?_⟩
      rintro rfl
      simp [hidle] at hrun
  | delete old =>
    obtain rfl := Option.some.inj h
    obtain ⟨hown', hrely⟩ := delete_keeps old hown
    exact ⟨hown', fun req p _ => hrely req⟩
  | collect ns name =>
    simp only [lifecycleMove] at h
    split at h
    · next horphan =>
      obtain rfl := Option.some.inj h
      obtain ⟨hown', hrely⟩ := collected_keeps hown horphan
      exact ⟨hown', fun req p _ => hrely req⟩
    · cases h
  | setStatus ns name conditions =>
    simp only [lifecycleMove, jobMove] at h
    split at h
    · next hfinal =>
      obtain rfl := Option.some.inj h
      obtain ⟨hown', hrely⟩ := setStatus_keeps hown hfinal
      exact ⟨hown', fun req p _ => hrely req⟩
    · cases h

/-- A call keeps the UID of a stored TaskExecution. -/
theorem Guar.taskExecution {op : Op} (h : Guar req op s) {te : TaskExecution}
    (hte : (exec op s).2.taskExecutions key = some te) :
    ∃ te', s.taskExecutions key = some te' ∧ te'.uid = te.uid ∧ (key ≠ req → te' = te) := by
  have heffect := exec_effect op s
  generalize (exec op s).2 = t at heffect hte
  cases heffect with
  | same => exact ⟨te, hte, rfl, fun _ => rfl⟩
  | createJob job => exact ⟨te, hte, rfl, fun _ => rfl⟩
  | @patchStatus k old before after hold =>
    obtain ⟨rfl, -⟩ := h
    by_cases hk : key = k
    · subst hk
      simp only [Cluster.setTaskExecution, Function.update_self, Option.some.injEq] at hte
      subst hte
      exact ⟨old, hold, rfl, fun hne => absurd rfl hne⟩
    · simp only [Cluster.setTaskExecution, Function.update_of_ne hk] at hte
      exact ⟨te, hte, rfl, fun _ => rfl⟩

/-- The Jobs after a call are those before it, and the one it created for `req`. -/
theorem Guar.jobsOf {op : Op} (h : Guar req op s) (key : NamespacedName) :
    (exec op s).2.jobsOf key = s.jobsOf key ∨
      key = req ∧ ∃ job, (exec op s).2.jobsOf key = s.jobsOf key ++ [job] ∧
        ∀ te, s.taskExecutions req = some te → controllerUID job = some te.uid := by
  have heffect := exec_effect op s
  generalize (exec op s).2 = t at heffect
  cases heffect with
  | same => exact .inl rfl
  | createJob job =>
    obtain ⟨hns, howner, huid⟩ := h
    rw [addJob_jobsOf]
    by_cases hof : job.isOf key = true
    · exact .inr ⟨(isOf_iff hns howner).mp hof, job, by rw [if_pos hof], huid⟩
    · exact .inl (by rw [if_neg hof, List.append_nil])
  | patchStatus before after hte => exact .inl rfl

theorem Guar.keeps {op : Op} (h : Guar req op s) (hown : ∀ key, OwnJobs s key) :
    (∀ key, OwnJobs (exec op s).2 key) ∧ ∀ req', req' ≠ req → Rely req' s (exec op s).2 := by
  have hown' (key : NamespacedName) : OwnJobs (exec op s).2 key := by
    intro te hte j hj
    obtain ⟨te', hte', huid, -⟩ := h.taskExecution hte
    obtain hjobs | ⟨rfl, job, hjobs, hjob⟩ := h.jobsOf key
    · rw [← huid]
      exact hown key te' hte' j (hjobs ▸ hj)
    · rw [hjobs] at hj
      obtain hj | hj := List.mem_append.mp hj
      · rw [← huid]
        exact hown key te' hte' j hj
      · rw [List.mem_singleton.mp hj, ← huid]
        exact hjob te' hte'
  refine ⟨hown', fun req' hne => .of_jobs (hown req') (fun te hte => ?_) ?_⟩
  · obtain ⟨te', hte', -, heq⟩ := h.taskExecution hte
    rw [← heq hne, hte']
  · obtain hjobs | ⟨rfl, -⟩ := h.jobsOf req'
    · exact hjobs
    · exact absurd rfl hne

/-- What is known once the Job is found or created: the TaskExecution, if it is still
there, is the one that was read, and the Job is its own. -/
def JobFound (req : NamespacedName) (te : TaskExecution) (r : Except String Job) (s : Cluster) :
    Prop :=
  ∀ te', s.taskExecutions req = some te' → te' = te ∧
    ∀ job result, r = .ok job → isJobFinished job = some result → HasResult s req te.uid result

theorem Rely.trans {u : Cluster} (hst : Rely req s t) (htu : Rely req t u) : Rely req s u where
  own := htu.own
  taskExecution te h := hst.taskExecution te (htu.taskExecution te h)
  result te r h hres := htu.result te r h (hst.result te r (htu.taskExecution te h) hres)

theorem createOrGetJob_keeps (unmarshal : String → Except String String) (suffix : String)
    {te : TaskExecution} (hte : s.taskExecutions req = some te) :
    (createOrGetJob unmarshal suffix req te).Keeps exec (contract req) (JobFound req te) s := by
  have hsame {t : Cluster} (ht : Rely req s t) (te' : TaskExecution)
      (hte' : t.taskExecutions req = some te') : te' = te :=
    Option.some.inj ((ht.taskExecution te' hte').symm.trans hte)
  refine createOrGetJob_keeps_of (exec_serves req) (fun _ _ _ => Rely.trans) (fun t _ => trivial)
    (fun e t ht te' hte' => ⟨hsame ht te' hte', ?_⟩)
    (fun job t ht hjobs te' hte' => ⟨hsame ht te' hte', fun job' result hok hres => ?_⟩)
    fun job t u ht _ _ hu hjob => ⟨⟨hjob.ns, hjob.owner, fun te' hte' => ?_⟩,
      fun te' hte' => ⟨hsame (ht.trans hu) te' hte', fun job' result hok hres => ?_⟩⟩
  · intro job result hok
    cases hok
  · obtain rfl := Except.ok.inj hok
    have hmem : job ∈ t.jobsOf req := by simp [hjobs]
    exact ⟨job, hmem, hsame ht te' hte' ▸ ht.own te' hte' job hmem, hres⟩
  · rw [hsame (ht.trans hu) te' hte']
    exact hjob.uid
  · -- a Job that was just created has not ended
    obtain rfl := Except.ok.inj hok
    rw [hjob.unfinished] at hres
    cases hres

theorem reconcile_keeps (unmarshal : String → Except String String) (suffix : String) (now : ℕ)
    (req : NamespacedName) (s : Cluster) :
    (reconcile unmarshal suffix now req).Keeps exec (contract req) (fun _ _ => True) s := by
  refine reconcile_keeps_of (exec_serves req) (fun t _ => trivial)
    (fun te t => createOrGetJob_keeps unmarshal suffix) ?_
  intro te job result u v hfound hres hv
  refine ⟨rfl, fun te' r hte' hset hnot => ?_⟩
  obtain ⟨rfl, hfound⟩ := hfound te' (hv.taskExecution te' hte')
  obtain rfl : r = result := by
    obtain heq | hold := recordResult_true hset
    · exact heq
    · simp [hold] at hnot
  exact hv.result te' r hte' (hfound job r rfl hres)

theorem relyGuarantee (unmarshal : String → Except String String) :
    (incarnations unmarshal).RelyGuaranteeUnder Settled (fun s => ∀ key, OwnJobs s key) contract where
  refl req _ hown := .of_jobs (hown req) (fun _ => id) rfl
  trans _ _ _ _ hst htu := hst.trans htu
  init _ h := h
  env _ _ _ hown hm hok := lifecycleMove_keeps hown hm hok
  call _ _ _ hown hg _ := hg.keeps hown
  prog req x s _ := reconcile_keeps unmarshal x.1 x.2 req s

end Incarnation

/-- When names are re-used only after the Jobs are gone, an outcome that a reconcile is
about to set comes from a Job with the UID of the TaskExecution. -/
theorem outcome_of_own_job (unmarshal : String → Except String String) {pool : Tasks}
    (h : (incarnations unmarshal).system.Reaches Settled pool) {req key : NamespacedName}
    {before after : List (Condition TaskCondition)} {k : Except ApiError Unit → Program (Except String Unit)}
    (hrun : pool.running req = some (.call (.patchStatus key before after) k))
    {te : TaskExecution} (hte : pool.state.taskExecutions key = some te) {r : JobResult}
    (hset : isStatusConditionTrue after r.condition = true)
    (hnot : isStatusConditionTrue te.conditions r.condition = false) :
    ∃ job ∈ pool.state.jobs, controllerUID job = some te.uid ∧
      ∃ c ∈ job.conditions, c.result = some r := by
  have hreach : (incarnations unmarshal).system.Reaches
      (fun pool m => Settled pool m ∧ Workload.Given Incarnation.contract pool m) pool :=
    h.mono fun pool m hok => ⟨hok, .of_forall (fun _ _ _ => trivial) pool m⟩
  obtain ⟨rfl, hguar⟩ : Incarnation.Guar req (.patchStatus key before after) pool.state :=
    ((Incarnation.relyGuarantee unmarshal).reaches hreach).2 req _ _ hrun
  obtain ⟨job, hjob, huid, hres⟩ := hguar te r hte hset hnot
  exact ⟨job, List.mem_of_mem_filter hjob, huid, List.exists_of_findSome?_eq_some hres⟩

/-- A task is created, its Job runs to its end, and the next reconcile lists the Job. -/
def completedTask : List (Move LifecycleMove NamespacedName (String × ℕ)) :=
  [.env (.create taskKey "u1" ""), .start taskKey ("x", 1), .call taskKey, .call taskKey,
    .call taskKey, .stop taskKey,
    .env (.setStatus "landscape" (boundedJobName taskKey.name "x") [⟨.complete, .isTrue⟩])]

/-- A reconcile up to its patch of the status. -/
def reconcileToRecord : List (Move LifecycleMove NamespacedName (String × ℕ)) :=
  [.start taskKey ("y", 2), .call taskKey, .call taskKey]

/-- The next call sets the outcome of the task `uid`, and there is a Job of that UID or
there is none. -/
def setsOutcome (uid : String) (own : Bool) (pool : Tasks) : Bool :=
  match pool.running taskKey, pool.state.taskExecutions taskKey with
  | some (.call (.patchStatus key _ after) _), some te =>
    key = taskKey && te.uid = uid && isStatusConditionTrue after .succeeded &&
      !isStatusConditionTrue te.conditions .succeeded &&
      (pool.state.jobs.any fun j => controllerUID j = some uid) == own
  | _, _ => false

theorem setsOutcome_spec {uid : String} {own : Bool} {pool : Tasks}
    (h : setsOutcome uid own pool = true) :
    ∃ before after k te, pool.running taskKey = some (.call (.patchStatus taskKey before after) k) ∧
      pool.state.taskExecutions taskKey = some te ∧ te.uid = uid ∧
      isStatusConditionTrue after (JobResult.condition .complete) = true ∧
      isStatusConditionTrue te.conditions (JobResult.condition .complete) = false ∧
      (pool.state.jobs.any fun j => controllerUID j = some uid) = own := by
  unfold setsOutcome at h
  split at h
  · next key before after k te hrun hte =>
    simp only [Bool.and_eq_true, decide_eq_true_eq, Bool.not_eq_true', beq_iff_eq] at h
    obtain ⟨⟨⟨⟨rfl, huid⟩, hset⟩, hnot⟩, hown⟩ := h
    exact ⟨before, after, k, te, hrun, hte, huid, hset, hnot, hown⟩
  · cases h

def settles (pool : Tasks) : Move LifecycleMove NamespacedName (String × ℕ) → Bool
  | .env (.create key _ _) => pool.state.jobsOf key = [] && (pool.running key).isNone
  | _ => true

theorem settles_settled (pool : Tasks) (m : Move LifecycleMove NamespacedName (String × ℕ))
    (h : settles pool m = true) : Settled pool m := by
  cases m with
  | env e =>
    cases e with
    | create key uid raw =>
      obtain ⟨hjobs, hidle⟩ := Bool.and_eq_true_iff.mp h
      exact ⟨of_decide_eq_true hjobs, by simpa using hidle⟩
    | _ => trivial
  | _ => trivial

theorem noTasks_init : (incarnations fun _ => .ok "").system.init
    ⟨⟨fun _ => none, [], fun _ => 0⟩, fun _ => none⟩ := by
  refine ⟨fun key te hte => ?_, fun _ => rfl⟩
  cases hte

/-- A task that is created once gets the outcome of its Job. -/
theorem outcome_of_own_job_once :
    ∃ pool te, (incarnations fun _ => .ok "").system.Reaches Settled pool ∧
      pool.state.taskExecutions taskKey = some te ∧
      ∃ job ∈ pool.state.jobs, controllerUID job = some te.uid ∧
        ∃ c ∈ job.conditions, c.result = some .complete := by
  obtain ⟨pool, hpool, hp⟩ := System.reaches_of_follow (incarnations fun _ => .ok "").system
    (completedTask ++ reconcileToRecord) (setsOutcome "u1" true) settles_settled noTasks_init
    (by decide +kernel)
  obtain ⟨before, after, k, te, hrun, hte, -, hset, hnot, -⟩ := setsOutcome_spec hp
  exact ⟨pool, te, hpool, hte, outcome_of_own_job _ hpool hrun hte hset hnot⟩

/-- The task is deleted and created again before its Job is collected; the new task gets
the outcome of the old Job, and there is no Job of its own. -/
theorem outcome_of_earlier_job :
    ∃ pool before after k te, (incarnations fun _ => .ok "").system.Reachable pool ∧
      pool.running taskKey = some (.call (.patchStatus taskKey before after) k) ∧
      pool.state.taskExecutions taskKey = some te ∧
      isStatusConditionTrue after (JobResult.condition .complete) = true ∧
      isStatusConditionTrue te.conditions (JobResult.condition .complete) = false ∧
      ¬ ∃ job ∈ pool.state.jobs, controllerUID job = some te.uid ∧
        ∃ c ∈ job.conditions, c.result = some .complete := by
  obtain ⟨pool, hpool, hp⟩ := System.reachable_of_follow (incarnations fun _ => .ok "").system
    (completedTask ++ [.env (.delete taskKey), .env (.create taskKey "u2" "")] ++ reconcileToRecord)
    (setsOutcome "u2" false) noTasks_init (by decide +kernel)
  obtain ⟨before, after, k, te, hrun, hte, hu, hset, hnot, hown⟩ := setsOutcome_spec hp
  refine ⟨pool, before, after, k, te, hpool, hrun, hte, hset, hnot, ?_⟩
  rintro ⟨job, hjob, huid, -⟩
  rw [hu] at huid
  simpa [huid] using List.any_eq_false.mp hown job hjob

end LandscapeOrchestrator.TaskExecutionController
