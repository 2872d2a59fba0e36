import LandscapeOrchestrator.TaskExecutionController.Finality

/-!
# A cache that trails

The controller lists Jobs in a cache, to which the API server's Jobs are delivered one
by one; it creates Jobs at the API server at once, under a random name. A reconcile
that comes before the delivery of a Job does not see it and creates another one.

## Main definitions

- `CachedCluster`, `cachedExec` — the API server behind a cache of Jobs
- `cachedController` — all reconciles beside deliveries
- `Delivered` — when the Jobs are listed, the Job that was created earlier is in the cache
-/

namespace LandscapeOrchestrator.TaskExecutionController
open Apilib

/-- The cache holds each Job as it was when it was delivered last. -/
structure CachedCluster where
  server : Cluster
  cache : List Job

def CachedCluster.listed (s : CachedCluster) (key : NamespacedName) : List Job :=
  s.cache.filter (Job.isOf key)

/-- A Job that is delivered takes the place of an older copy. -/
def CachedCluster.deliver (s : CachedCluster) (job : Job) : CachedCluster :=
  { s with cache := (s.cache.filter fun j => !j.hasName job.ns job.name) ++ [job] }

/-- Only the Jobs are read from the cache. -/
def cachedExec (op : Op) (s : CachedCluster) : Except ApiError (Res op) × CachedCluster :=
  (match op with
    | .listJobs key => .ok (s.listed key)
    | op => (exec op s.server).1, { s with server := (exec op s.server).2 })

/-- Jobs are delivered and run, and TaskExecutions are written. No Job is deleted. -/
inductive CacheMove where
  | deliver (ns name : String)
  | setStatus (ns name : String) (conditions : List JobCondition)
  | write (key : NamespacedName) (te : TaskExecution)

def cacheMove : CacheMove → CachedCluster → Option CachedCluster
  | .deliver ns name, s => (s.server.jobs.find? (Job.hasName ns name)).map s.deliver
  | .setStatus ns name conditions, s =>
    (jobMove (.setStatus ns name conditions) s.server).map fun t => { s with server := t }
  | .write key te, s => some { s with server := s.server.setTaskExecution key te }

def cachedController (unmarshal : String → Except String String) :
    Workload CacheMove NamespacedName (String × ℕ) Op Res (Except String Unit) CachedCluster where
  init s := s.server.jobs = [] ∧ s.cache = [] ∧ ∀ key, s.server.created key = 0
  exec := cachedExec
  env := cacheMove
  prog req x := reconcile unmarshal x.1 x.2 req

/-- When the Jobs are listed, a Job that was created earlier has been delivered. -/
def Delivered : Op → CachedCluster → Prop
  | .listJobs key, s => 0 < s.server.created key → s.listed key ≠ []
  | _, _ => True

namespace Cached

/-- One Job at most at the API server, and in the cache no other. -/
structure OneJob (s : CachedCluster) (key : NamespacedName) : Prop where
  once : s.server.created key ≤ 1
  jobs : (s.server.jobsOf key).length ≤ s.server.created key
  listed : (s.listed key).length ≤ 1
  known : ∀ j ∈ s.listed key, ∃ j' ∈ s.server.jobsOf key, j'.hasName j.ns j.name = true

def Guar (req : NamespacedName) : Op → CachedCluster → Prop
  | .createJob job, s =>
    job.ns = req.ns ∧ ownerIndex job = some req.name ∧ s.server.created req = 0
  | _, _ => True

def contract (req : NamespacedName) : Contract Op CachedCluster where
  rely s t := t.server.created req = s.server.created req
  given := Delivered
  guar := Guar req

variable {s t : CachedCluster} {key req : NamespacedName}

section Environment

variable {ns name : String} {job : Job}

theorem eq_of_mem_of_length_le_one {l : List Job} {a b : Job} (h : l.length ≤ 1) (ha : a ∈ l)
    (hb : b ∈ l) : a = b := by
  match l, h with
  | [x], _ => rw [List.mem_singleton.mp ha, List.mem_singleton.mp hb]

theorem listed_deliver : (s.deliver job).listed key =
    ((s.listed key).filter fun j => !j.hasName job.ns job.name) ++
      if job.isOf key then [job] else [] := by
  simp only [CachedCluster.listed, CachedCluster.deliver, List.filter_append, List.filter_filter,
    Bool.and_comm]
  congr 1
  by_cases h : job.isOf key = true <;> simp [h]

theorem OneJob.deliver (h : OneJob s key) (hjob : job ∈ s.server.jobs) :
    OneJob (s.deliver job) key := by
  by_cases hof : job.isOf key = true
  · -- the API server has no other Job, so the cache had at most an older copy of this one
    have hmem : job ∈ s.server.jobsOf key := List.mem_filter.mpr ⟨hjob, hof⟩
    have hlen := Nat.le_trans h.jobs h.once
    have holder : ((s.listed key).filter fun j => !j.hasName job.ns job.name) = [] := by
      refine List.filter_eq_nil_iff.mpr fun j hj => ?_
      obtain ⟨j', hj', hsame⟩ := h.known j hj
      obtain rfl : j' = job := eq_of_mem_of_length_le_one hlen hj' hmem
      simp_all [Job.hasName]
    have hlisted : (s.deliver job).listed key = [job] := by
      rw [listed_deliver, holder, if_pos hof, List.nil_append]
    refine ⟨h.once, h.jobs, by rw [hlisted]; exact Nat.le_refl 1, fun j hj => ?_⟩
    rw [hlisted, List.mem_singleton] at hj
    exact ⟨job, hmem, by simp [hj, Job.hasName]⟩
  · have hsub : ((s.deliver job).listed key).Sublist (s.listed key) := by
      rw [listed_deliver, if_neg hof, List.append_nil]
      exact List.filter_sublist
    exact ⟨h.once, h.jobs, Nat.le_trans hsub.length_le h.listed,
      fun j hj => h.known j (hsub.subset hj)⟩

theorem hasName_setStatus (ns' name' : String) (conditions : List JobCondition) (j : Job) :
    (j.setStatus ns' name' conditions).hasName ns name = j.hasName ns name := by
  unfold Job.setStatus
  split <;> rfl

theorem OneJob.setStatus (h : OneJob s key) (conditions : List JobCondition) :
    OneJob { s with server :=
      { s.server with jobs := s.server.jobs.map (Job.setStatus ns name conditions) } } key where
  once := h.once
  jobs := by
    rw [jobsOf_setStatus, List.length_map]
    exact h.jobs
  listed := h.listed
  known j hj := by
    obtain ⟨j', hj', hname⟩ := h.known j hj
    refine ⟨j'.setStatus ns name conditions, ?_, by rwa [hasName_setStatus]⟩
    rw [jobsOf_setStatus]
    exact List.mem_map_of_mem hj'

theorem cacheMove_keeps {m : CacheMove} (h : ∀ key, OneJob s key) (hm : cacheMove m s = some t) :
    (∀ key, OneJob t key) ∧ t.server.created = s.server.created := by
  cases m with
  | deliver ns name =>
    obtain ⟨job, hjob, rfl⟩ := Option.map_eq_some_iff.mp hm
    exact ⟨fun key => (h key).deliver (List.mem_of_find?_eq_some hjob), rfl⟩
  | setStatus ns name conditions =>
    obtain ⟨c, hc, rfl⟩ := Option.map_eq_some_iff.mp hm
    simp only [jobMove] at hc
    split at hc
    · obtain rfl := Option.some.inj hc
      exact ⟨fun key => (h key).setStatus conditions, rfl⟩
    · cases hc
  | write key te =>
    obtain rfl := Option.some.inj hm
    exact ⟨fun key => ⟨(h key).once, (h key).jobs, (h key).listed, (h key).known⟩, rfl⟩

end Environment

theorem cachedExec_serves (req : NamespacedName) :
    Serves cachedExec req (·.server.taskExecutions req) (·.listed req)
      fun job s => { s with server := s.server.addJob job } where
  get s := by
    simp only [cachedExec, exec]
    cases s.server.taskExecutions req <;> rfl
  list _ := rfl
  create job s := by
    obtain ⟨e, he⟩ | hadd := (exec_serves req).create job s.server
    · exact .inl ⟨e, by simp only [cachedExec, he]⟩
    · exact .inr (by simp only [cachedExec, hadd])

section Create

variable {job : Job}

theorem OneJob.known_addJob (h : OneJob s key) : ∀ j ∈ s.listed key,
    ∃ j' ∈ (s.server.addJob job).jobsOf key, j'.hasName j.ns j.name = true := by
  intro j hj
  obtain ⟨j', hj', hname⟩ := h.known j hj
  refine ⟨j', ?_, hname⟩
  rw [addJob_jobsOf]
  exact List.mem_append_left _ hj'

theorem OneJob.create_first (h : OneJob s req) (hns : job.ns = req.ns)
    (howner : ownerIndex job = some req.name) (hzero : s.server.created req = 0) :
    OneJob { s with server := s.server.addJob job } req := by
  have hcr : (s.server.addJob job).created req = 1 := by
    rw [addJob_created hns howner, Function.update_self, hzero]
  have hjobs : ((s.server.addJob job).jobsOf req).length ≤ 1 := by
    have hnone := h.jobs
    rw [addJob_jobsOf, if_pos ((isOf_iff hns howner).mpr rfl), List.length_append,
      List.length_singleton]
    omega
  exact ⟨Nat.le_of_eq hcr, by rwa [hcr], h.listed, h.known_addJob⟩

theorem OneJob.create_other (h : OneJob s key) (hns : job.ns = req.ns)
    (howner : ownerIndex job = some req.name) (hne : key ≠ req) :
    OneJob { s with server := s.server.addJob job } key := by
  have hcr : (s.server.addJob job).created key = s.server.created key := by
    rw [addJob_created hns howner, Function.update_of_ne hne]
  have hjobs : (s.server.addJob job).jobsOf key = s.server.jobsOf key := by
    rw [addJob_jobsOf, if_neg fun hof => hne ((isOf_iff hns howner).mp hof), List.append_nil]
  exact ⟨by rw [hcr]; exact h.once, by rw [hcr, hjobs]; exact h.jobs, h.listed, h.known_addJob⟩

end Create

/-- A call that keeps its contract creates the first Job, or none. -/
theorem Guar.keeps {op : Op} (hg : Guar req op s) (h : ∀ key, OneJob s key) :
    (∀ key, OneJob (cachedExec op s).2 key) ∧
      ∀ key, key ≠ req → (cachedExec op s).2.server.created key = s.server.created key := by
  have heffect := exec_effect op s.server
  simp only [cachedExec]
  generalize (exec op s.server).2 = u at heffect
  cases heffect with
  | same => exact ⟨h, fun _ _ => rfl⟩
  | createJob job =>
    obtain ⟨hns, howner, hzero⟩ := hg
    refine ⟨fun key => ?_, fun key hne => ?_⟩
    · by_cases hk : key = req
      · subst hk
        exact (h key).create_first hns howner hzero
      · exact (h key).create_other hns howner hk
    · rw [addJob_created hns howner, Function.update_of_ne hne]
  | patchStatus before after hte =>
    exact ⟨fun key => ⟨(h key).once, (h key).jobs, (h key).listed, (h key).known⟩, fun _ _ => rfl⟩

theorem reconcile_keeps (unmarshal : String → Except String String) (suffix : String) (now : ℕ)
    (req : NamespacedName) (s : CachedCluster) :
    (reconcile unmarshal suffix now req).Keeps cachedExec (contract req) (fun _ _ => True) s := by
  have hjob (te : TaskExecution) (t : CachedCluster) : (createOrGetJob unmarshal suffix req te).Keeps
      cachedExec (contract req) (fun _ _ => True) t := by
    refine createOrGetJob_keeps_of (cachedExec_serves req) (fun _ _ _ hst htu => htu.trans hst)
      (fun _ _ => trivial) (fun _ _ _ => trivial) (fun _ _ _ _ => trivial)
      fun job u v _ hdelivered hnone hv hjob => ⟨⟨hjob.ns, hjob.owner, ?_⟩, trivial⟩
    -- no Job is listed, so none was created before
    have hzero : u.server.created req = 0 := by
      by_contra hpos
      exact hdelivered (Nat.pos_of_ne_zero hpos) hnone
    exact hv.trans hzero
  exact reconcile_keeps_of (cachedExec_serves req) (fun _ _ => trivial) (fun te t _ => hjob te t)
    fun _ _ _ _ _ _ _ _ => trivial

theorem relyGuarantee (unmarshal : String → Except String String) :
    (cachedController unmarshal).RelyGuarantee (fun s => ∀ key, OneJob s key) contract where
  refl _ _ _ := rfl
  trans _ _ _ _ hst htu := htu.trans hst
  init s h := by
    obtain ⟨hjobs, hcache, hcr⟩ := h
    intro key
    have hlisted : s.listed key = [] := by simp [CachedCluster.listed, hcache]
    exact ⟨by simp [hcr], by simp [Cluster.jobsOf, hjobs], by simp [hlisted], by simp [hlisted]⟩
  env m s t h hm := by
    obtain ⟨hone, hcr⟩ := cacheMove_keeps h hm
    exact ⟨hone, fun req => congrFun hcr req⟩
  call req op s h hg _ := hg.keeps h
  prog req x s _ := reconcile_keeps unmarshal x.1 x.2 req s

end Cached

section Errors

def multipleJobs (name : String) : String :=
  "multiple matching jobs found for taskExecution: " ++ name

/-- The API server does not answer with this very text. -/
def OtherText : Move CacheMove NamespacedName (String × ℕ) → Prop
  | .fault key message => message ≠ multipleJobs key.name
  | _ => True

/-- The answers to a reconcile of `req` after which it does not find several Jobs. -/
def SingleAnswer (req : NamespacedName) : (op : Op) → Except ApiError (Res op) → Prop
  | .getTaskExecution _, r =>
    ∀ e, r = .error e → e.isNotFound = true ∨ e.message ≠ multipleJobs req.name
  | .listJobs _, r => ∀ jobs, r = .ok jobs → jobs.length ≤ 1
  | _, _ => True

theorem head?_append {s t : String} {c : Char} (h : s.toList.head? = some c) :
    (s ++ t).toList.head? = some c := by
  rw [String.toList_append, List.head?_append, h]
  rfl

theorem unable_ne {text rest name : String} (h : text.toList.head? = some 'u') :
    text ++ rest ≠ multipleJobs name := by
  intro heq
  have hm : (multipleJobs name).toList.head? = some 'm' := head?_append (by decide +kernel)
  rw [← heq, head?_append h] at hm
  exact absurd (Option.some.inj hm) (by decide)

variable {unmarshal : String → Except String String} {suffix : String} {now : ℕ}

theorem createOrGetJob_ends (req : NamespacedName) (te : TaskExecution) :
    (createOrGetJob unmarshal suffix req te).Ends (SingleAnswer req)
      (fun r => r ≠ .error (multipleJobs req.name)) := by
  have fails {text rest : String} (h : text.toList.head? = some 'u') :
      (.error (text ++ rest) : Except String Job) ≠ .error (multipleJobs req.name) :=
    fun heq => unable_ne h (Except.error.inj heq)
  refine Prog.ends_perform_bind.mpr fun r hr => ?_
  match r with
  | .error e => exact fails (by decide +kernel)
  | .ok [] =>
    dsimp only
    cases constructJob unmarshal suffix req te with
    | error e => exact fails (by decide +kernel)
    | ok job =>
      refine Prog.ends_perform_bind.mpr fun r _ => ?_
      cases r with
      | error e => exact fails (by decide +kernel)
      | ok _ => exact fun h => by cases h
  | .ok [job] => exact fun h => by cases h
  | .ok (_ :: _ :: _) =>
    have := hr _ rfl
    simp at this

theorem reconcile_ends (req : NamespacedName) :
    (reconcile unmarshal suffix now req).Ends (SingleAnswer req)
      (fun r => r ≠ .error (multipleJobs req.name)) := by
  have done : (.ok () : Except String Unit) ≠ .error (multipleJobs req.name) := fun h => by cases h
  refine Prog.ends_perform_bind.mpr fun r hr => ?_
  cases r with
  | error e =>
    dsimp only
    split
    · exact done
    · next hfound => exact fun h => (hr e rfl).elim hfound fun hne => hne (Except.error.inj h)
  | ok te =>
    refine (createOrGetJob_ends req te).bind fun r hr => ?_
    cases r with
    | error e => exact fun h => hr (congrArg _ (Except.error.inj h))
    | ok job =>
      dsimp only
      cases isJobFinished job with
      | none => exact done
      | some result =>
        dsimp only
        split
        · exact done
        · refine Prog.ends_perform_bind.mpr fun r _ => ?_
          cases r with
          | error e => exact fun h => unable_ne (by decide +kernel) (Except.error.inj h)
          | ok _ => exact done

end Errors

/-- As long as a Job that was created has been delivered whenever the Jobs are listed,
one Job at most is ever created for a TaskExecution, and no reconcile ends with the
error about several Jobs. -/
theorem one_job_when_delivered (unmarshal : String → Except String String) (key : NamespacedName) :
    (∀ pool, (cachedController unmarshal).system.Reaches (Workload.Given Cached.contract) pool →
      pool.state.server.created key ≤ 1) ∧
    ∀ pool, (cachedController unmarshal).system.Reaches
        (fun pool m => Workload.Given Cached.contract pool m ∧ OtherText m) pool →
      pool.running key ≠ some (.ret (.error (multipleJobs key.name))) := by
  have hinv {pool} (h : (cachedController unmarshal).system.Reaches
      (Workload.Given Cached.contract) pool) := ((Cached.relyGuarantee unmarshal).reaches h).1
  refine ⟨fun pool h => (hinv h key).once, fun pool h hrun => ?_⟩
  refine Workload.reaches_ends (A := SingleAnswer)
    (Q := fun req r => r ≠ .error (multipleJobs req.name)) (fun req x => reconcile_ends req)
    (fun pool req op k h _ => ?_) (fun pool req op message hok => ?_) h hrun rfl
  · have hone := hinv (h.mono fun _ _ hok => hok.1)
    cases op with
    | getTaskExecution req' =>
      intro e he
      rw [show (cachedController unmarshal).exec = cachedExec from rfl,
        (Cached.cachedExec_serves req').get] at he
      split at he
      · exact .inl (Except.error.inj he ▸ rfl)
      · cases he
    | listJobs req' =>
      intro jobs hjobs
      exact Except.ok.inj hjobs ▸ (hone req').listed
    | _ => trivial
  · cases op with
    | getTaskExecution req' =>
      rintro e he
      obtain rfl := Except.error.inj he
      exact .inr hok.2
    | listJobs req' =>
      intro jobs hjobs
      cases hjobs
    | _ => trivial

section OneTask

abbrev CachedTasks := Pool NamespacedName Op Res (Except String Unit) CachedCluster

theorem cachedTask_init : (cachedController .ok).system.init ⟨⟨oneTask, []⟩, fun _ => none⟩ :=
  ⟨⟨rfl, rfl, fun _ => rfl⟩, fun _ => rfl⟩

/-- A reconcile that finds no Job in the cache and creates one. -/
def createsJob (suffix : String) : List (Move CacheMove NamespacedName (String × ℕ)) :=
  [.start taskKey (suffix, 0), .call taskKey, .call taskKey, .call taskKey, .stop taskKey]

/-- A reconcile up to the answer with the Jobs. -/
def listsJobs : List (Move CacheMove NamespacedName (String × ℕ)) :=
  [.start taskKey ("zzzzzzzz", 0), .call taskKey, .call taskKey]

/-- The check of `Delivered` for the next call; no call fails. -/
def delivers (pool : CachedTasks) : Move CacheMove NamespacedName (String × ℕ) → Bool
  | .call j => match pool.running j with
    | some (.call (.listJobs key) _) =>
      pool.state.server.created key = 0 || !(pool.state.listed key).isEmpty
    | _ => true
  | .fault _ _ => false
  | _ => true

theorem delivers_given (pool : CachedTasks) (m : Move CacheMove NamespacedName (String × ℕ))
    (h : delivers pool m = true) : Workload.Given Cached.contract pool m ∧ OtherText m := by
  cases m with
  | call j =>
    refine ⟨fun op k hrun => ?_, trivial⟩
    cases op with
    | listJobs key =>
      simp only [delivers, hrun] at h
      exact ne_nil_of_check h
    | _ => trivial
  | fault j message => cases h
  | _ => exact ⟨trivial, trivial⟩

theorem one_job_after_delivery : ∃ pool,
    (cachedController .ok).system.Reaches
        (fun pool m => Workload.Given Cached.contract pool m ∧ OtherText m) pool ∧
      (pool.state.listed taskKey).length = 1 ∧ pool.state.server.created taskKey ≤ 1 ∧
      pool.running taskKey ≠ some (.ret (.error (multipleJobs taskKey.name))) := by
  obtain ⟨pool, hpool, hp⟩ := System.reaches_of_follow (cachedController .ok).system
    (createsJob "aaaaaaaa" ++ [.env (.deliver "landscape" "task-aaaaaaaa")] ++ listsJobs)
    (fun pool => (pool.state.listed taskKey).length = 1) delivers_given cachedTask_init
    (by decide +kernel)
  obtain ⟨honce, herror⟩ := one_job_when_delivered .ok taskKey
  exact ⟨pool, hpool, of_decide_eq_true hp, honce pool (hpool.mono fun _ _ hok => hok.1),
    herror pool hpool⟩

def endsWith (text : String) (pool : CachedTasks) : Bool :=
  match pool.running taskKey with
  | some (.ret (.error e)) => e = text
  | _ => false

theorem endsWith_spec {text : String} {pool : CachedTasks} (h : endsWith text pool = true) :
    pool.running taskKey = some (.ret (.error text)) := by
  unfold endsWith at h
  split at h
  · next e hrun => rw [hrun, of_decide_eq_true h]
  · cases h

/-- The second reconcile comes before the delivery of the first Job; once both Jobs are
delivered, every reconcile fails. -/
theorem two_jobs_before_delivery : ∃ pool, (cachedController .ok).system.Reachable pool ∧
    pool.state.server.created taskKey = 2 ∧
    pool.running taskKey = some (.ret (.error (multipleJobs taskKey.name))) := by
  obtain ⟨pool, hpool, hp⟩ := System.reachable_of_follow (cachedController .ok).system
    (createsJob "aaaaaaaa" ++ createsJob "bbbbbbbb" ++
      [.env (.deliver "landscape" "task-aaaaaaaa"), .env (.deliver "landscape" "task-bbbbbbbb")] ++
      listsJobs)
    (fun pool => pool.state.server.created taskKey = 2 ∧
      endsWith (multipleJobs taskKey.name) pool = true)
    cachedTask_init (by decide +kernel)
  obtain ⟨hcreated, hends⟩ := of_decide_eq_true hp
  exact ⟨pool, hpool, hcreated, endsWith_spec hends⟩

end OneTask

end LandscapeOrchestrator.TaskExecutionController
