import LandscapeOrchestrator.Apilib.RelyGuarantee
import LandscapeOrchestrator.TaskExecutionController.Reconcile

/-!
# Task outcomes

Reconciles run beside the Job controller, which advances Jobs and deletes finished
ones. A reconcile that finds no Job creates one, whether or not the task has an
outcome already, so an outcome is final only as long as its Job stays.

## Main definitions

- `controller` — all reconciles beside the Job controller
- `Recorded` — the TaskExecution has the condition of a result
- `JobKept` — a Job that was created for a TaskExecution is still listed
-/

namespace LandscapeOrchestrator.TaskExecutionController
open Apilib

-- ════════════════════════════════════════════════════════════════════════
-- The Job controller
-- ════════════════════════════════════════════════════════════════════════

inductive JobMove where
  | setStatus (ns name : String) (conditions : List JobCondition)
  | deleteFinished (ns name : String)

def Job.hasName (ns name : String) (job : Job) : Bool := job.ns = ns ∧ job.name = name

def Job.setStatus (ns name : String) (conditions : List JobCondition) (job : Job) : Job :=
  if job.hasName ns name then { job with conditions := conditions } else job

/-- A Job that has ended keeps its result. Only such a Job is deleted. -/
def jobMove : JobMove → Cluster → Option Cluster
  | .setStatus ns name conditions, s =>
    if ∀ j ∈ s.jobs, (isJobFinished j).isSome →
        isJobFinished (j.setStatus ns name conditions) = isJobFinished j
    then some { s with jobs := s.jobs.map (Job.setStatus ns name conditions) } else none
  | .deleteFinished ns name, s =>
    if ∀ j ∈ s.jobs, j.hasName ns name = true → (isJobFinished j).isSome
    then some { s with jobs := s.jobs.filter fun j => !j.hasName ns name } else none

def Recorded (s : Cluster) (key : NamespacedName) (r : JobResult) : Prop :=
  ∃ te, s.taskExecutions key = some te ∧ isStatusConditionTrue te.conditions r.condition = true

/-- No task has run yet. -/
def controller (unmarshal : String → Except String String) :
    Workload JobMove NamespacedName (String × ℕ) Op Res (Except String Unit) Cluster where
  init s := s.jobs = [] ∧ (∀ key, s.created key = 0) ∧ ∀ key r, ¬ Recorded s key r
  exec := exec
  env := jobMove
  prog req x := reconcile unmarshal x.1 x.2 req

-- ════════════════════════════════════════════════════════════════════════
-- The invariant
-- ════════════════════════════════════════════════════════════════════════

/-- Every Job of the TaskExecution has ended with `r`. -/
def AllEnded (s : Cluster) (key : NamespacedName) (r : JobResult) : Prop :=
  ∀ j ∈ s.jobsOf key, isJobFinished j = some r

/-- One Job at most, and an outcome only from that Job. -/
structure Sound (s : Cluster) (key : NamespacedName) : Prop where
  once : s.created key ≤ 1
  jobs : (s.jobsOf key).length ≤ s.created key
  recorded : ∀ r, Recorded s key r → 0 < s.created key ∧ AllEnded s key r
  unique : ∀ r r', Recorded s key r → Recorded s key r' → r = r'

/-- What the others do to the state between two calls of a reconcile of `req`. -/
structure Rely (req : NamespacedName) (s t : Cluster) : Prop where
  sound : Sound t req
  taskExecution : t.taskExecutions req = s.taskExecutions req
  created : t.created req = s.created req
  ended : ∀ r, AllEnded s req r → AllEnded t req r

/-- When the Jobs are listed, a Job that was created earlier is still there. -/
def JobKept : Op → Cluster → Prop
  | .listJobs key, s => 0 < s.created key → s.jobsOf key ≠ []
  | _, _ => True

/-- The calls of a reconcile of `req`: the first Job of its own, and the result of
its Job, when no other was recorded. -/
def Guar (req : NamespacedName) : Op → Cluster → Prop
  | .getTaskExecution _, _ => True
  | .listJobs key, _ => key = req
  | .createJob job, s =>
    job.ns = req.ns ∧ ownerIndex job = some req.name ∧ s.created req = 0
  | .patchStatus key _ after, s => key = req ∧ 0 < s.created req ∧
    ∃ r, AllEnded s req r ∧ (∀ r', Recorded s req r' → r' = r) ∧
      ∀ r', isStatusConditionTrue after (JobResult.condition r') = true → r' = r

def contract (req : NamespacedName) : Contract Op Cluster where
  rely := Rely req
  given := JobKept
  guar := Guar req

variable {s t : Cluster} {key req : NamespacedName}

theorem JobResult.condition_injective {r r' : JobResult} (h : r.condition = r'.condition) :
    r = r' := by
  cases r <;> cases r' <;> first | rfl | cases h

theorem Recorded.congr {r : JobResult} (h : t.taskExecutions key = s.taskExecutions key) :
    Recorded t key r ↔ Recorded s key r := by
  simp [Recorded, h]

theorem Sound.of_unchanged (h : Sound s key) (hte : t.taskExecutions key = s.taskExecutions key)
    (hcr : t.created key = s.created key) (hlen : (t.jobsOf key).length ≤ (s.jobsOf key).length)
    (hended : ∀ r, AllEnded s key r → AllEnded t key r) : Sound t key where
  once := by rw [hcr]; exact h.once
  jobs := by rw [hcr]; exact Nat.le_trans hlen h.jobs
  recorded r hr := by
    obtain ⟨hpos, ha⟩ := h.recorded r ((Recorded.congr hte).mp hr)
    exact ⟨by rwa [hcr], hended r ha⟩
  unique r r' hr hr' := h.unique r r' ((Recorded.congr hte).mp hr) ((Recorded.congr hte).mp hr')

theorem isOf_setStatus (key : NamespacedName) (ns name : String)
    (conditions : List JobCondition) (j : Job) :
    (j.setStatus ns name conditions).isOf key = j.isOf key := by
  unfold Job.setStatus
  split <;> rfl

theorem jobsOf_setStatus (s : Cluster) (ns name : String) (conditions : List JobCondition)
    (key : NamespacedName) :
    Cluster.jobsOf { s with jobs := s.jobs.map (Job.setStatus ns name conditions) } key =
      (s.jobsOf key).map (Job.setStatus ns name conditions) := by
  rw [Cluster.jobsOf, Cluster.jobsOf, List.filter_map]
  congr 1
  exact List.filter_congr fun j _ => isOf_setStatus key ns name conditions j

/-- The Job controller neither adds Jobs nor changes how one has ended. -/
theorem jobMove_keeps {m : JobMove} (h : jobMove m s = some t) :
    t.taskExecutions = s.taskExecutions ∧ t.created = s.created ∧
      ∀ key, (t.jobsOf key).length ≤ (s.jobsOf key).length ∧
        ∀ r, AllEnded s key r → AllEnded t key r := by
  cases m with
  | setStatus ns name conditions =>
    simp only [jobMove] at h
    split at h
    · next hfinal =>
      obtain rfl := Option.some.inj h
      refine ⟨rfl, rfl, fun key => ?_⟩
      rw [jobsOf_setStatus, List.length_map]
      refine ⟨Nat.le_refl _, fun r ha j' hj' => ?_⟩
      rw [jobsOf_setStatus] at hj'
      obtain ⟨j, hj, rfl⟩ := List.mem_map.mp hj'
      have hr := ha j hj
      rw [hfinal j (List.mem_of_mem_filter hj) (by rw [hr]; rfl), hr]
    · cases h
  | deleteFinished ns name =>
    simp only [jobMove] at h
    split at h
    · obtain rfl := Option.some.inj h
      have hsub : ∀ key, (Cluster.jobsOf { s with
          jobs := s.jobs.filter fun j => !j.hasName ns name } key).Sublist (s.jobsOf key) :=
        fun key => List.filter_sublist.filter _
      exact ⟨rfl, rfl, fun key => ⟨(hsub key).length_le, fun r ha j hj => ha j ((hsub key).subset hj)⟩⟩
    · cases h

-- ════════════════════════════════════════════════════════════════════════
-- The calls of a reconcile
-- ════════════════════════════════════════════════════════════════════════

theorem addJob_jobsOf (s : Cluster) (job : Job) (key : NamespacedName) :
    (s.addJob job).jobsOf key = s.jobsOf key ++ if job.isOf key then [job] else [] := by
  simp only [Cluster.jobsOf, Cluster.addJob, List.filter_append]
  congr 1
  by_cases h : job.isOf key = true <;> simp [h]

/-- A Job of `req` is one of no other TaskExecution. -/
theorem isOf_iff {job : Job} (hns : job.ns = req.ns) (howner : ownerIndex job = some req.name) :
    job.isOf key = true ↔ key = req := by
  rw [Job.isOf, decide_eq_true_iff, hns, howner, Option.some.injEq]
  cases key
  cases req
  simp [eq_comm]

theorem addJob_created {job : Job} (hns : job.ns = req.ns)
    (howner : ownerIndex job = some req.name) :
    (s.addJob job).created = Function.update s.created req (s.created req + 1) := by
  have hkey : (⟨job.ns, req.name⟩ : NamespacedName) = req := by rw [hns]
  simp only [Cluster.addJob, howner, hkey]

/-- What a call can do to the state. -/
inductive Effect (s : Cluster) : Op → Cluster → Prop
  | same (op : Op) : Effect s op s
  | createJob (job : Job) : Effect s (.createJob job) (s.addJob job)
  | patchStatus {key : NamespacedName} {te : TaskExecution}
      (before after : List (Condition TaskCondition)) (hte : s.taskExecutions key = some te) :
      Effect s (.patchStatus key before after)
        (s.setTaskExecution key { te with conditions := after })

theorem exec_effect (op : Op) (s : Cluster) : Effect s op (exec op s).2 := by
  cases op with
  | getTaskExecution key =>
    simp only [exec]
    split <;> exact .same _
  | listJobs key => exact .same _
  | createJob job =>
    simp only [exec]
    split
    · exact .same _
    · exact .createJob job
  | patchStatus key before after =>
    simp only [exec]
    split
    · exact .same _
    · next te hte =>
      split
      · exact .same _
      · exact .patchStatus before after hte

theorem Guar.frame {op : Op} (h : Guar req op s) (hne : key ≠ req) :
    (exec op s).2.taskExecutions key = s.taskExecutions key ∧
      (exec op s).2.created key = s.created key ∧
      (exec op s).2.jobsOf key = s.jobsOf key := by
  have heffect := exec_effect op s
  generalize (exec op s).2 = t at heffect
  cases heffect with
  | same => exact ⟨rfl, rfl, rfl⟩
  | createJob job =>
    obtain ⟨hns, howner, -⟩ := h
    refine ⟨rfl, ?_, ?_⟩
    · rw [addJob_created hns howner, Function.update_of_ne hne]
    · rw [addJob_jobsOf, if_neg fun hof => hne ((isOf_iff hns howner).mp hof), List.append_nil]
  | patchStatus before after hte =>
    obtain ⟨rfl, -⟩ := h
    exact ⟨Function.update_of_ne hne _ _, rfl, rfl⟩

theorem Sound.own {op : Op} (h : Sound s req) (hg : Guar req op s) : Sound (exec op s).2 req := by
  have heffect := exec_effect op s
  generalize (exec op s).2 = t at heffect
  cases heffect with
  | same => exact h
  | createJob job =>
    obtain ⟨hns, howner, hzero⟩ := hg
    have hcr : (s.addJob job).created req = 1 := by
      rw [addJob_created hns howner, Function.update_self, hzero]
    have hnone : ∀ r, ¬ Recorded s req r := by
      intro r hr
      have := (h.recorded r hr).1
      omega
    have hlen := h.jobs
    have hempty : (s.jobsOf req).length = 0 := by omega
    refine ⟨Nat.le_of_eq hcr, ?_, fun r hr => absurd hr (hnone r), fun r r' hr => absurd hr (hnone r)⟩
    rw [hcr, addJob_jobsOf, List.length_append, hempty]
    split <;> simp
  | @patchStatus key te before after hte =>
    obtain ⟨rfl, hpos, r, hended, -, hafter⟩ := hg
    have hrec : ∀ r', Recorded (s.setTaskExecution key { te with conditions := after }) key r' →
        r' = r := by
      rintro r' ⟨te', hte', htrue⟩
      simp only [Cluster.setTaskExecution, Function.update_self, Option.some.injEq] at hte'
      subst hte'
      exact hafter r' htrue
    exact ⟨h.once, h.jobs, fun r' hr' => ⟨hpos, hrec r' hr' ▸ hended⟩,
      fun r₁ r₂ h₁ h₂ => (hrec r₁ h₁).trans (hrec r₂ h₂).symm⟩

-- ════════════════════════════════════════════════════════════════════════
-- The program keeps the contract
-- ════════════════════════════════════════════════════════════════════════

/-- A Job as the controller makes it for the TaskExecution. -/
structure Constructed (req : NamespacedName) (te : TaskExecution) (job : Job) : Prop where
  ns : job.ns = req.ns
  owner : ownerIndex job = some req.name
  uid : (controllerOf job).map (·.uid) = some te.uid
  unfinished : isJobFinished job = none

section Rules

variable {unmarshal : String → Except String String} {suffix : String} {now : ℕ} {te : TaskExecution}
  {job : Job}

theorem constructJob_ok (h : constructJob unmarshal suffix req te = .ok job) :
    Constructed req te job := by
  unfold constructJob at h
  split at h
  · cases h
  · obtain rfl := Except.ok.inj h
    exact ⟨rfl, rfl, rfl, rfl⟩

variable {S : Type} {server : Exec Op Res S} {read : S → Option TaskExecution}
  {listed : S → List Job} {add : Job → S → S} {c : Contract Op S} {s : S}

/-- What a reconcile of `req` reads from a server, and what its Job does to the state. -/
structure Serves (server : Exec Op Res S) (req : NamespacedName) (read : S → Option TaskExecution)
    (listed : S → List Job) (add : Job → S → S) : Prop where
  get : ∀ s, server (.getTaskExecution req) s = match read s with
    | none => (.error (notFound "taskexecutions" req.name), s)
    | some te => (.ok te, s)
  list : ∀ s, server (.listJobs req) s = (.ok (listed s), s)
  create : ∀ job s, (∃ e, server (.createJob job) s = (.error e, s)) ∨
    server (.createJob job) s = (.ok (), add job s)

theorem exec_serves (req : NamespacedName) :
    Serves exec req (·.taskExecutions req) (·.jobsOf req) fun job s => s.addJob job where
  get _ := rfl
  list _ := rfl
  create job s := by
    simp only [exec]
    split
    · exact .inl ⟨_, rfl⟩
    · exact .inr rfl

/-- The rule for `createOrGetJob` under any contract: it fails, it finds the only Job, or
it creates one after it found none. -/
theorem createOrGetJob_keeps_of {Q : Except String Job → S → Prop}
    (hserves : Serves server req read listed add)
    (htrans : ∀ s t u, c.rely s t → c.rely t u → c.rely s u)
    (hlist : ∀ t, c.rely s t → c.guar (.listJobs req) t)
    (hfail : ∀ e t, c.rely s t → Q (.error e) t)
    (hfound : ∀ job t, c.rely s t → listed t = [job] → Q (.ok job) t)
    (hcreate : ∀ job t u, c.rely s t → c.given (.listJobs req) t → listed t = [] →
      c.rely t u → Constructed req te job →
      c.guar (.createJob job) u ∧ Q (.ok job) (add job u)) :
    (createOrGetJob unmarshal suffix req te).Keeps server c Q s := by
  refine Prog.keeps_perform_bind.mpr fun t ht => ⟨hlist t ht, fun hgiven => ?_, fun msg => hfail _ t ht⟩
  rw [hserves.list]
  cases hjobs : listed t with
  | nil =>
    dsimp only
    cases hjob : constructJob unmarshal suffix req te with
    | error e => exact hfail _ t ht
    | ok job =>
      refine Prog.keeps_perform_bind.mpr fun u hu => ?_
      have hsu := htrans s t u ht hu
      obtain ⟨hguar, hok⟩ := hcreate job t u ht hgiven hjobs hu (constructJob_ok hjob)
      refine ⟨hguar, fun _ => ?_, fun msg => hfail _ u hsu⟩
      obtain ⟨e, he⟩ | hadd := hserves.create job u
      · rw [he]
        exact hfail _ u hsu
      · rw [hadd]
        exact hok
  | cons job rest =>
    cases rest with
    | nil => exact hfound job t ht hjobs
    | cons job' rest => exact hfail _ t ht

/-- The rule for `reconcile`: what `Found` says of the Job has to justify the patch. -/
theorem reconcile_keeps_of {Found : TaskExecution → Except String Job → S → Prop}
    (hserves : Serves server req read listed add)
    (hget : ∀ t, c.rely s t → c.guar (.getTaskExecution req) t)
    (hjob : ∀ te t, read t = some te →
      (createOrGetJob unmarshal suffix req te).Keeps server c (Found te) t)
    (hpatch : ∀ te job result t u, Found te (.ok job) t → isJobFinished job = some result →
      c.rely t u → c.guar (.patchStatus req te.conditions (recordResult now req.name te result)) u) :
    (reconcile unmarshal suffix now req).Keeps server c (fun _ _ => True) s := by
  refine Prog.keeps_perform_bind.mpr fun t ht => ⟨hget t ht, fun _ => ?_, fun msg => trivial⟩
  rw [hserves.get]
  cases hte : read t with
  | none => trivial
  | some te =>
    refine (hjob te t hte).bind fun r u hfound => ?_
    cases r with
    | error e => trivial
    | ok job =>
      dsimp only
      cases hres : isJobFinished job with
      | none => trivial
      | some result =>
        dsimp only
        split
        · trivial
        · refine Prog.keeps_perform_bind.mpr fun v hv =>
            ⟨hpatch te job result u v hfound hres hv, fun _ => ?_, fun msg => trivial⟩
          split <;> trivial

end Rules

/-- What is known once the Job is found or created. -/
def JobFound (req : NamespacedName) (te : TaskExecution) (r : Except String Job) (s : Cluster) :
    Prop :=
  s.taskExecutions req = some te ∧ ∀ job result, r = .ok job → isJobFinished job = some result →
    0 < s.created req ∧ AllEnded s req result ∧ ∀ r', Recorded s req r' → r' = result

theorem Rely.trans {u : Cluster} (hst : Rely req s t) (htu : Rely req t u) : Rely req s u where
  sound := htu.sound
  taskExecution := htu.taskExecution.trans hst.taskExecution
  created := htu.created.trans hst.created
  ended r h := htu.ended r (hst.ended r h)

theorem createOrGetJob_keeps (unmarshal : String → Except String String) (suffix : String)
    {te : TaskExecution} (hte : s.taskExecutions req = some te) :
    (createOrGetJob unmarshal suffix req te).Keeps exec (contract req) (JobFound req te) s := by
  refine createOrGetJob_keeps_of (exec_serves req) (fun _ _ _ => Rely.trans) (fun t _ => rfl)
    (fun e t ht => ?_) (fun job t ht hjobs => ?_) fun job t u ht hkept hjobs hu hjob => ?_
  · refine ⟨by rw [ht.taskExecution, hte], fun job result hok _ => ?_⟩
    cases hok
  · -- the only Job is the one that was created
    refine ⟨by rw [ht.taskExecution, hte], fun job' result hok hres => ?_⟩
    obtain rfl := Except.ok.inj hok
    have hended : AllEnded t req result := by
      intro j hj
      rw [hjobs, List.mem_singleton] at hj
      rwa [hj]
    have hpos : 0 < t.created req := by
      have := ht.sound.jobs
      rw [hjobs, List.length_singleton] at this
      exact this
    refine ⟨hpos, hended, fun r' hr' => ?_⟩
    have hr := (ht.sound.recorded r' hr').2 job (by simp [hjobs])
    exact Option.some.inj (hr.symm.trans hres)
  · have hzero : t.created req = 0 := by
      by_contra hpos
      exact hkept (Nat.pos_of_ne_zero hpos) hjobs
    refine ⟨⟨hjob.ns, hjob.owner, by rw [hu.created, hzero]⟩, ?_, fun job' result hok hres => ?_⟩
    · have hteu : u.taskExecutions req = some te := by rw [hu.taskExecution, ht.taskExecution, hte]
      exact hteu
    · -- a Job that was just created has not ended
      obtain rfl := Except.ok.inj hok
      rw [hjob.unfinished] at hres
      cases hres

/-- Of the two outcomes, a result sets its own. -/
theorem recordResult_true {name : String} {te : TaskExecution} {result r : JobResult} {now : ℕ}
    (h : isStatusConditionTrue (recordResult now name te result) r.condition = true) :
    r = result ∨ isStatusConditionTrue te.conditions r.condition = true := by
  by_cases hr : result.condition = r.condition
  · exact .inl (JobResult.condition_injective hr).symm
  · rw [recordResult, isStatusConditionTrue_set_of_ne hr] at h
    exact .inr h

theorem reconcile_keeps (unmarshal : String → Except String String) (suffix : String) (now : ℕ)
    (req : NamespacedName) (s : Cluster) :
    (reconcile unmarshal suffix now req).Keeps exec (contract req) (fun _ _ => True) s := by
  refine reconcile_keeps_of (exec_serves req) (fun t _ => trivial)
    (fun te t => createOrGetJob_keeps unmarshal suffix) ?_
  intro te job result u v hfound hres hv
  obtain ⟨hte, hfound⟩ := hfound
  obtain ⟨hpos, hended, honly⟩ := hfound job result rfl hres
  refine ⟨rfl, by rwa [hv.created], result, hv.ended _ hended, fun r' hr' => ?_, fun r' htrue => ?_⟩
  · exact honly r' ((Recorded.congr hv.taskExecution).mp hr')
  · obtain hr | htrue := recordResult_true htrue
    · exact hr
    · exact honly r' ⟨te, hte, htrue⟩

-- ════════════════════════════════════════════════════════════════════════
-- All interleavings
-- ════════════════════════════════════════════════════════════════════════

theorem controller_relyGuarantee (unmarshal : String → Except String String) :
    (controller unmarshal).RelyGuarantee (fun s => ∀ key, Sound s key) contract where
  refl req s h := ⟨h req, rfl, rfl, fun _ => id⟩
  trans _ _ _ _ hst htu := hst.trans htu
  init s h := by
    obtain ⟨hjobs, hcr, hrec⟩ := h
    intro key
    refine ⟨by simp [hcr], by simp [Cluster.jobsOf, hjobs], fun r hr => absurd hr (hrec key r),
      fun r _ hr => absurd hr (hrec key r)⟩
  env m s t h hm := by
    obtain ⟨hte, hcr, hjobs⟩ := jobMove_keeps hm
    have hsound : ∀ key, Sound t key := fun key =>
      (h key).of_unchanged (by rw [hte]) (by rw [hcr]) (hjobs key).1 (hjobs key).2
    exact ⟨hsound, fun req => ⟨hsound req, by rw [hte], by rw [hcr], (hjobs req).2⟩⟩
  call req op s h hg _ := by
    have hframe : ∀ key, key ≠ req → Rely key s (exec op s).2 := by
      intro key hne
      obtain ⟨hte, hcr, hjobs⟩ := hg.frame hne
      have hended : ∀ r, AllEnded s key r → AllEnded (exec op s).2 key r := by
        intro r ha
        rwa [AllEnded, hjobs]
      exact ⟨(h key).of_unchanged hte hcr (Nat.le_of_eq (by rw [hjobs])) hended, hte, hcr, hended⟩
    refine ⟨fun key => ?_, hframe⟩
    by_cases hk : key = req
    · exact hk ▸ (h req).own hg
    · exact (hframe key hk).sound
  prog req x s _ := reconcile_keeps unmarshal x.1 x.2 req s

/-- As long as a Job that was created is still there whenever the Jobs are listed, a
task runs once, has one outcome at most, and nothing happens after it. -/
theorem task_outcome_final (unmarshal : String → Except String String)
    (pool : Pool NamespacedName Op Res (Except String Unit) Cluster)
    (h : (controller unmarshal).system.Reaches (Workload.Given contract) pool)
    (key : NamespacedName) :
    pool.state.created key ≤ 1 ∧
      ¬ (Recorded pool.state key .complete ∧ Recorded pool.state key .failed) ∧
      ∀ r, Recorded pool.state key r → ∀ op k, pool.running key = some (.call op k) →
        (∀ job, op ≠ .createJob job) ∧
        ∀ key' before after r', op = .patchStatus key' before after →
          isStatusConditionTrue after r'.condition = true → r' = r := by
  obtain ⟨hinv, hguar⟩ := (controller_relyGuarantee unmarshal).reaches h
  refine ⟨(hinv key).once, fun hboth => ?_, fun r hr op k hrun => ⟨?_, ?_⟩⟩
  · cases (hinv key).unique _ _ hboth.1 hboth.2
  · rintro job rfl
    obtain ⟨-, -, hzero⟩ : Guar key (.createJob job) pool.state := hguar key _ k hrun
    have := ((hinv key).recorded r hr).1
    omega
  · rintro key' before after r' rfl htrue
    obtain ⟨-, -, r₀, -, honly, hafter⟩ :
      Guar key (.patchStatus key' before after) pool.state := hguar key _ k hrun
    rw [hafter r' htrue, honly r hr]

-- ════════════════════════════════════════════════════════════════════════
-- One task
-- ════════════════════════════════════════════════════════════════════════

def taskKey : NamespacedName := ⟨"landscape", "task"⟩

def oneTask : Cluster where
  taskExecutions key := if key = taskKey then some ⟨"u1", 1, "\x7b\x7d", []⟩ else none
  jobs := []
  created _ := 0

abbrev TaskMove := Move JobMove NamespacedName (String × ℕ)

theorem oneTask_init : (controller .ok).system.init ⟨oneTask, fun _ => none⟩ := by
  refine ⟨⟨rfl, fun _ => rfl, ?_⟩, fun _ => rfl⟩
  rintro key r ⟨te, hte, htrue⟩
  simp only [oneTask] at hte
  split at hte
  · cases Option.some.inj hte
    cases htrue
  · cases hte

/-- A reconcile of three calls. -/
def reconcileTask (suffix : String) (now : ℕ) : List TaskMove :=
  [.start taskKey (suffix, now), .call taskKey, .call taskKey, .call taskKey, .stop taskKey]

/-- The Job is created, completes, and its result is recorded. -/
def runTask : List TaskMove :=
  reconcileTask "aaaaaaaa" 10 ++
    [.env (.setStatus "landscape" "task-aaaaaaaa" [⟨.complete, .isTrue⟩])] ++
    reconcileTask "bbbbbbbb" 20

/-- The outcomes of the task. -/
def outcomes (s : Cluster) : Option (Bool × Bool) :=
  (s.taskExecutions taskKey).map fun te =>
    (isStatusConditionTrue te.conditions .succeeded, isStatusConditionTrue te.conditions .failed)

theorem recorded_of_outcomes {s : Cluster} {b b' : Bool} (h : outcomes s = some (b, b')) :
    (b = true → Recorded s taskKey .complete) ∧ (b' = true → Recorded s taskKey .failed) := by
  obtain ⟨te, hte, heq⟩ := Option.map_eq_some_iff.mp h
  obtain ⟨rfl, rfl⟩ := Prod.mk.inj heq
  exact ⟨fun hb => ⟨te, hte, hb⟩, fun hb => ⟨te, hte, hb⟩⟩

/-- The check of `JobKept` for the next call. -/
def keepsJob (pool : Pool NamespacedName Op Res (Except String Unit) Cluster) : TaskMove → Bool
  | .call j => match pool.running j with
    | some (.call (.listJobs key) _) =>
      pool.state.created key = 0 || !(pool.state.jobsOf key).isEmpty
    | _ => true
  | _ => true

theorem ne_nil_of_check {n : ℕ} {jobs : List Job} (h : (decide (n = 0) || !jobs.isEmpty) = true)
    (hpos : 0 < n) : jobs ≠ [] := by
  rintro rfl
  have hzero : n = 0 := by simpa using h
  omega

theorem keepsJob_given (pool : Pool NamespacedName Op Res (Except String Unit) Cluster)
    (m : TaskMove) (h : keepsJob pool m = true) : Workload.Given contract pool m := by
  cases m with
  | call j =>
    intro op k hrun
    cases op with
    | listJobs key =>
      simp only [keepsJob, hrun] at h
      exact ne_nil_of_check h
    | _ => trivial
  | _ => trivial

theorem task_outcome_final_once : ∃ pool,
    (controller .ok).system.Reaches (Workload.Given contract) pool ∧
      Recorded pool.state taskKey .complete ∧ pool.state.created taskKey ≤ 1 ∧
      ¬ (Recorded pool.state taskKey .complete ∧ Recorded pool.state taskKey .failed) := by
  obtain ⟨pool, hpool, hp⟩ := System.reaches_of_follow (controller .ok).system runTask
    (fun pool => outcomes pool.state = some (true, false)) keepsJob_given oneTask_init
    (by decide +kernel)
  obtain ⟨honce, hboth, -⟩ := task_outcome_final .ok pool hpool taskKey
  exact ⟨pool, hpool, (recorded_of_outcomes (of_decide_eq_true hp)).1 rfl, honce, hboth⟩

/-- The finished Job is deleted, and the next reconcile runs the task again. The
second Job fails. -/
theorem task_outcome_reversed : ∃ pool, (controller .ok).system.Reachable pool ∧
    pool.state.created taskKey = 2 ∧
    Recorded pool.state taskKey .complete ∧ Recorded pool.state taskKey .failed := by
  obtain ⟨pool, hpool, hp⟩ := System.reachable_of_follow (controller .ok).system
    (runTask ++ [.env (.deleteFinished "landscape" "task-aaaaaaaa")] ++
      reconcileTask "cccccccc" 30 ++
      [.env (.setStatus "landscape" "task-cccccccc" [⟨.failed, .isTrue⟩])] ++
      reconcileTask "dddddddd" 40)
    (fun pool => outcomes pool.state = some (true, true) ∧ pool.state.created taskKey = 2)
    oneTask_init (by decide +kernel)
  obtain ⟨hout, hcreated⟩ := of_decide_eq_true hp
  obtain ⟨hc, hf⟩ := recorded_of_outcomes hout
  exact ⟨pool, hpool, hcreated, hc rfl, hf rfl⟩

end LandscapeOrchestrator.TaskExecutionController
