import LandscapeOrchestrator.Apilib.Events
import LandscapeOrchestrator.Golib.Strings
import LandscapeOrchestrator.TaskExecutionController.Finality

/-!
# What the TaskExecution controller hears of

A TaskExecution is reconciled when it or a Job of it gives an event. TaskExecutions are
filtered by their type, Jobs only by the kind of their owners. A reconcile does not read
the type.

## Main definitions

- `TypedCluster` — the cluster with the types of the TaskExecutions
- `taskExecutionFilter`, `jobFilter`, `ownerRequest` — what `SetupWithManager` asks for
- `watched` — the controller with its queue, beside users and everybody who handles Jobs
-/

namespace LandscapeOrchestrator.TaskExecutionController
open Apilib

structure TypedCluster where
  cluster : Cluster
  types : NamespacedName → String

namespace TypedCluster

def typed (s : TypedCluster) (key : NamespacedName) : Option (TaskExecution × String) :=
  (s.cluster.taskExecutions key).map fun te => (te, s.types key)

def write (s : TypedCluster) (key : NamespacedName) (te : TaskExecution) (type : String) :
    TypedCluster :=
  ⟨s.cluster.setTaskExecution key te, Function.update s.types key type⟩

def remove (s : TypedCluster) (key : NamespacedName) : TypedCluster :=
  { s with cluster :=
    { s.cluster with taskExecutions := Function.update s.cluster.taskExecutions key none } }

def setJobs (s : TypedCluster) (jobs : List Job) : TypedCluster :=
  { s with cluster := { s.cluster with jobs := jobs } }

end TypedCluster

/-- The calls of a reconcile leave the types alone. -/
def typedExec : Exec Op Res TypedCluster := fun op s =>
  ((exec op s.cluster).1, { s with cluster := (exec op s.cluster).2 })

section Filters

def typeK8sJob : String := "k8s-job"

def taskExecutionFilter : Predicate (TaskExecution × String) :=
  (Predicate.generationChanged (·.1.generation)).and (.ofFilter fun o => o.2 = typeK8sJob)

def jobOwnerRefsContainKind (references : List OwnerReference) (kind : String) : Bool :=
  references.any fun ref => ref.kind = kind

def jobFilter : Predicate Job :=
  .ofFilter fun job => jobOwnerRefsContainKind job.ownerReferences taskExecutionKind

def groupName : String := "konfidence.cloud"

/-- The group of `schema.ParseGroupVersion`, which refuses a second slash. -/
def parseGroup (apiVersion : String) : Option String :=
  match Golib.cut '/' apiVersion.toList with
  | (_, none) => some ""
  | (group, some version) => if '/' ∈ version then none else some (String.ofList group)

/-- The request that `Owns` makes of a Job. The version of the owner is not compared. -/
def ownerRequest (job : Job) : Option NamespacedName :=
  match controllerOf job with
  | none => none
  | some owner =>
    if owner.kind = taskExecutionKind ∧ parseGroup owner.apiVersion = some groupName
    then some ⟨job.ns, owner.name⟩ else none

/-- The Job of the same name. -/
def jobAt (jobs : List Job) (job : Job) : Option Job := jobs.find? (Job.hasName job.ns job.name)

/-- An event about a Job is handed to the owners of the old and of the new Job. -/
def jobReports (old new : List Job) (key : NamespacedName) : Bool :=
  (old ++ new).any fun job =>
    jobFilter.notices (jobAt old job) (jobAt new job) &&
      ((jobAt old job).any (ownerRequest · = some key) ||
        (jobAt new job).any (ownerRequest · = some key))

end Filters

/-- Users write TaskExecutions, and other controllers the status of those of other types.
Jobs are created, run and deleted by anybody, but keep their owners. -/
inductive ClusterMove where
  | create (key : NamespacedName) (uid type raw : String)
  | update (key : NamespacedName) (type raw : String)
  | delete (key : NamespacedName)
  | setConditions (key : NamespacedName) (conditions : List (Condition TaskCondition))
  | createJob (job : Job)
  | setJobStatus (ns name : String) (conditions : List JobCondition)
  | deleteJob (ns name : String)

/-- A change of the spec raises the generation. -/
def clusterMove : ClusterMove → TypedCluster → Option TypedCluster
  | .create key uid type raw, s => match s.cluster.taskExecutions key with
    | some _ => none
    | none => some (s.write key ⟨uid, 1, raw, []⟩ type)
  | .update key type raw, s => match s.cluster.taskExecutions key with
    | none => none
    | some te =>
      if te.raw = raw ∧ s.types key = type then some s
      else some (s.write key { te with generation := te.generation + 1, raw := raw } type)
  | .delete key, s => some (s.remove key)
  | .setConditions key conditions, s => match s.cluster.taskExecutions key with
    | none => none
    | some te =>
      if s.types key = typeK8sJob then none
      else some (s.write key { te with conditions := conditions } (s.types key))
  | .createJob job, s =>
    if s.cluster.jobs.any (Job.hasName job.ns job.name) then none
    else some { s with cluster := s.cluster.addJob job }
  | .setJobStatus ns name conditions, s =>
    some (s.setJobs (s.cluster.jobs.map (Job.setStatus ns name conditions)))
  | .deleteJob ns name, s => some (s.setJobs (s.cluster.jobs.filter fun j => !j.hasName ns name))

def noTasks : TypedCluster := ⟨⟨fun _ => none, [], fun _ => 0⟩, fun _ => ""⟩

def taskReports (s t : TypedCluster) (key : NamespacedName) : Bool :=
  taskExecutionFilter.notices (s.typed key) (t.typed key) ||
    jobReports s.cluster.jobs t.cluster.jobs key

/-- A listing gives an event for every object, as if all were created. -/
def watched (unmarshal : String → Except String String) :
    Watched ClusterMove NamespacedName (String × ℕ) Op Res (Except String Unit) TypedCluster where
  init s := s = noTasks
  exec := typedExec
  env := clusterMove
  prog req x := reconcile unmarshal x.1 x.2 req
  reports := taskReports
  lists := taskReports noTasks
  retries
    | .ok _ => false
    | .error _ => true

namespace Watch

section Jobs

variable {jobs old new : List Job} {job : Job} {key : NamespacedName} {ns name : String}
  {conditions : List JobCondition}

/-- No two Jobs have the same name. -/
def DistinctNames (jobs : List Job) : Prop :=
  jobs.Pairwise fun j j' => j.hasName j'.ns j'.name = false

theorem hasName_self (job : Job) : job.hasName job.ns job.name = true := by simp [Job.hasName]

theorem jobAt_of_mem (h : DistinctNames jobs) (hmem : job ∈ jobs) : jobAt jobs job = some job := by
  induction jobs with
  | nil => cases hmem
  | cons j jobs ih =>
    obtain ⟨hhead, htail⟩ := List.pairwise_cons.mp h
    rw [jobAt, List.find?_cons]
    obtain rfl | hmem := List.mem_cons.mp hmem
    · rw [hasName_self]
    · rw [hhead job hmem]
      exact ih htail hmem

theorem jobAt_eq_none (h : jobs.any (Job.hasName job.ns job.name) = false) : jobAt jobs job = none :=
  List.find?_eq_none.mpr fun j hj => by simpa using List.any_eq_false.mp h j hj

theorem jobAt_map_setStatus (jobs : List Job) (job : Job) :
    jobAt (jobs.map (Job.setStatus ns name conditions)) job =
      (jobAt jobs job).map (Job.setStatus ns name conditions) := by
  have hname : Job.hasName job.ns job.name ∘ Job.setStatus ns name conditions =
      Job.hasName job.ns job.name := by
    funext j
    rw [Function.comp_apply, Job.setStatus]
    split <;> rfl
  rw [jobAt, jobAt, List.find?_map, hname]

theorem DistinctNames.append (h : DistinctNames jobs)
    (hnew : jobs.any (Job.hasName job.ns job.name) = false) : DistinctNames (jobs ++ [job]) := by
  refine List.pairwise_append.mpr ⟨h, List.pairwise_singleton _ _, fun j hj j' hj' => ?_⟩
  rw [List.mem_singleton.mp hj']
  simpa using List.any_eq_false.mp hnew j hj

theorem DistinctNames.setStatus (h : DistinctNames jobs) :
    DistinctNames (jobs.map (Job.setStatus ns name conditions)) := by
  refine List.pairwise_map.mpr (h.imp fun {j j'} hne => ?_)
  unfold Job.setStatus
  split <;> split <;> exact hne

/-- The Jobs of a TaskExecution pass the filter and are handed to it. -/
theorem reported_of_isOf (h : job.isOf key = true) :
    jobOwnerRefsContainKind job.ownerReferences taskExecutionKind = true ∧
      ownerRequest job = some key := by
  obtain ⟨hns, howner⟩ := of_decide_eq_true h
  unfold ownerIndex at howner
  split at howner
  · cases howner
  · next owner hcontroller =>
    split at howner
    · cases howner
    · next hkind =>
      obtain ⟨hversion, hkind⟩ : owner.apiVersion = apiGVStr ∧ owner.kind = taskExecutionKind := by
        simpa [not_or] using hkind
      have hgroup : parseGroup apiGVStr = some groupName := by decide +kernel
      refine ⟨List.any_eq_true.mpr ⟨owner, List.mem_of_find?_eq_some hcontroller, by simp [hkind]⟩, ?_⟩
      simp only [ownerRequest, hcontroller, hkind, hversion, hgroup, and_self, if_true, hns,
        Option.some.inj howner]

/-- When nothing is reported, no Job of the TaskExecution was created, changed or deleted. -/
theorem unchanged_of_jobReports (h : jobReports old new key = false) (hmem : job ∈ old ++ new)
    (hof : job.isOf key = true) :
    (jobAt old job = some job → jobAt new job ≠ none) ∧
      (jobAt new job = some job → jobAt old job ≠ none) ∧
      ∀ job', jobAt old job = some job → jobAt new job = some job' →
        job'.ownerReferences = job.ownerReferences → job' = job := by
  obtain ⟨hkind, howner⟩ := reported_of_isOf hof
  have hnotices := List.any_eq_false.mp h job hmem
  refine ⟨fun hold hnew => ?_, fun hnew hold => ?_, fun job' hold hnew howners => ?_⟩
  · simp [hold, hnew, howner, jobFilter, Predicate.notices, Predicate.ofFilter, hkind] at hnotices
  · simp [hold, hnew, howner, jobFilter, Predicate.notices, Predicate.ofFilter, hkind] at hnotices
  · by_contra hne
    simp [hold, hnew, howner, jobFilter, Predicate.notices, Predicate.ofFilter, howners, hkind,
      Ne.symm hne] at hnotices

variable {s : Cluster}

theorem jobsOf_of_add (hnew : s.jobs.any (Job.hasName job.ns job.name) = false)
    (h : jobReports s.jobs (s.addJob job).jobs key = false) :
    (s.addJob job).jobsOf key = s.jobsOf key := by
  rw [addJob_jobsOf]
  split
  · next hof =>
    have hnone := jobAt_eq_none hnew
    have hsome : jobAt (s.addJob job).jobs job = some job := by
      simp only [jobAt] at hnone ⊢
      simp [Cluster.addJob, List.find?_append, hnone, hasName_self]
    exact absurd hnone ((unchanged_of_jobReports h (by simp [Cluster.addJob]) hof).2.1 hsome)
  · rw [List.append_nil]

theorem jobsOf_of_setStatus (hdistinct : DistinctNames s.jobs)
    (h : jobReports s.jobs (s.jobs.map (Job.setStatus ns name conditions)) key = false) :
    Cluster.jobsOf { s with jobs := s.jobs.map (Job.setStatus ns name conditions) } key =
      s.jobsOf key := by
  rw [jobsOf_setStatus]
  refine (List.map_congr_left fun j hj => ?_).trans (List.map_id' _)
  obtain ⟨hmem, hof⟩ := List.mem_filter.mp hj
  have hold := jobAt_of_mem hdistinct hmem
  refine (unchanged_of_jobReports h (List.mem_append_left _ hmem) hof).2.2 _ hold ?_ ?_
  · rw [jobAt_map_setStatus, hold, Option.map_some]
  · unfold Job.setStatus
    split <;> rfl

theorem jobsOf_of_delete (hdistinct : DistinctNames s.jobs)
    (h : jobReports s.jobs (s.jobs.filter fun j => !j.hasName ns name) key = false) :
    Cluster.jobsOf { s with jobs := s.jobs.filter fun j => !j.hasName ns name } key =
      s.jobsOf key := by
  simp only [Cluster.jobsOf]
  rw [List.filter_comm]
  refine List.filter_eq_self.mpr fun j hj => ?_
  obtain ⟨hmem, hof⟩ := List.mem_filter.mp hj
  by_contra hdeleted
  have hname : j.ns = ns ∧ j.name = name := by simpa [Job.hasName] using hdeleted
  have hnone : jobAt (s.jobs.filter fun j => !j.hasName ns name) j = none := by
    refine List.find?_eq_none.mpr fun j' hj' => ?_
    simpa [hname] using (List.mem_filter.mp hj').2
  exact (unchanged_of_jobReports h (List.mem_append_left _ hmem) hof).1
    (jobAt_of_mem hdistinct hmem) hnone

end Jobs

/-- The TaskExecution is of the controller's type. -/
def Ours (s : TypedCluster) (key : NamespacedName) : Prop :=
  ∃ te, s.typed key = some (te, typeK8sJob)

/-- The TaskExecution is of the controller's type, and does not have exactly one Job with
its result recorded. -/
def Due (key : NamespacedName) (s : TypedCluster) : Prop :=
  ∃ te, s.typed key = some (te, typeK8sJob) ∧
    ¬ ∃ job, s.cluster.jobsOf key = [job] ∧
      ∀ r, isJobFinished job = some r → isStatusConditionTrue te.conditions r.condition = true

/-- What the others do to a TaskExecution and its Jobs without an event about them. -/
def Rely (key : NamespacedName) (s t : TypedCluster) : Prop :=
  Ours t key → t.typed key = s.typed key ∧ t.cluster.jobsOf key = s.cluster.jobsOf key

/-- The calls of a reconcile of `req` that change something change what is its own. -/
def Own (req : NamespacedName) : Op → Prop
  | .createJob job => job.ns = req.ns ∧ ownerIndex job = some req.name
  | .patchStatus key _ _ => key = req
  | _ => True

variable {s t u : TypedCluster} {key req : NamespacedName} {unmarshal : String → Except String String}
  {suffix : String} {now : ℕ}

theorem Rely.trans (hst : Rely key s t) (htu : Rely key t u) : Rely key s u := by
  intro hours
  obtain ⟨htyped, hjobs⟩ := htu hours
  obtain ⟨te, hte⟩ := hours
  obtain ⟨htyped', hjobs'⟩ := hst ⟨te, htyped ▸ hte⟩
  exact ⟨htyped.trans htyped', hjobs.trans hjobs'⟩

theorem Due.ours (h : Due key s) : Ours s key := by
  obtain ⟨te, hte, -⟩ := h
  exact ⟨te, hte⟩

theorem Due.of_rely (h : Rely key s t) (hdue : Due key t) : Due key s := by
  obtain ⟨htyped, hjobs⟩ := h hdue.ours
  unfold Due at hdue ⊢
  rwa [htyped, hjobs] at hdue

section Environment

/-- TaskExecutions of other names and the Jobs are as they were. -/
theorem Rely.of_typed (hjobs : t.cluster.jobs = s.cluster.jobs)
    (htyped : Ours t key → t.typed key = s.typed key) : Rely key s t :=
  fun hours => ⟨htyped hours, by rw [Cluster.jobsOf, Cluster.jobsOf, hjobs]⟩

theorem typed_write_self (s : TypedCluster) (key : NamespacedName) (te : TaskExecution)
    (type : String) : (s.write key te type).typed key = some (te, type) := by
  simp [TypedCluster.typed, TypedCluster.write, Cluster.setTaskExecution]

theorem typed_write_of_ne {key' : NamespacedName} (hne : key ≠ key') (te : TaskExecution)
    (type : String) : (s.write key' te type).typed key = s.typed key := by
  simp [TypedCluster.typed, TypedCluster.write, Cluster.setTaskExecution, Function.update_of_ne hne]

/-- A TaskExecution that is written without an event is of another type, or stays. -/
theorem Rely.write {key' : NamespacedName} {te : TaskExecution} {type : String}
    (h : taskReports s (s.write key' te type) key = false)
    (hspec : key = key' → type = typeK8sJob →
      ∀ old, s.typed key = some old → old.1.generation ≠ te.generation) :
    Rely key s (s.write key' te type) := by
  refine Rely.of_typed rfl fun hours => ?_
  by_cases hk : key = key'
  · subst hk
    obtain ⟨te', hte'⟩ := hours
    rw [typed_write_self] at hte'
    obtain ⟨rfl, rfl⟩ := Prod.mk.inj (Option.some.inj hte')
    have hnotices := (Bool.or_eq_false_iff.mp h).1
    rw [typed_write_self] at hnotices
    cases hold : s.typed key with
    | none => simp [hold, Predicate.notices, taskExecutionFilter, Predicate.and,
        Predicate.generationChanged, Predicate.ofUpdate, Predicate.ofFilter] at hnotices
    | some old =>
      have hgen := hspec rfl rfl old hold
      have hne : old ≠ (te, typeK8sJob) := by
        rintro rfl
        exact hgen rfl
      simp [hold, Predicate.notices, taskExecutionFilter, Predicate.and,
        Predicate.generationChanged, Predicate.ofUpdate, Predicate.ofFilter, hgen, hne] at hnotices
  · exact typed_write_of_ne hk te type

/-- What a move can do to the cluster. -/
inductive Moved (s : TypedCluster) : ClusterMove → TypedCluster → Prop
  | same (m : ClusterMove) : Moved s m s
  | create {key : NamespacedName} (uid type raw : String) (h : s.typed key = none) :
      Moved s (.create key uid type raw) (s.write key ⟨uid, 1, raw, []⟩ type)
  | update {key : NamespacedName} {te : TaskExecution} (type raw : String)
      (h : s.typed key = some (te, s.types key)) :
      Moved s (.update key type raw)
        (s.write key { te with generation := te.generation + 1, raw := raw } type)
  | delete (key : NamespacedName) : Moved s (.delete key) (s.remove key)
  | setConditions {key : NamespacedName} {te : TaskExecution}
      (conditions : List (Condition TaskCondition)) (h : s.types key ≠ typeK8sJob) :
      Moved s (.setConditions key conditions)
        (s.write key { te with conditions := conditions } (s.types key))
  | createJob {job : Job} (h : s.cluster.jobs.any (Job.hasName job.ns job.name) = false) :
      Moved s (.createJob job) { s with cluster := s.cluster.addJob job }
  | setJobStatus (ns name : String) (conditions : List JobCondition) :
      Moved s (.setJobStatus ns name conditions)
        (s.setJobs (s.cluster.jobs.map (Job.setStatus ns name conditions)))
  | deleteJob (ns name : String) :
      Moved s (.deleteJob ns name) (s.setJobs (s.cluster.jobs.filter fun j => !j.hasName ns name))

theorem clusterMove_moved {m : ClusterMove} (hm : clusterMove m s = some t) : Moved s m t := by
  cases m with
  | create key uid type raw =>
    simp only [clusterMove] at hm
    split at hm
    · cases hm
    · next hnone => exact Option.some.inj hm ▸ .create uid type raw (by simp [TypedCluster.typed, hnone])
  | update key type raw =>
    simp only [clusterMove] at hm
    split at hm
    · cases hm
    · next te hte =>
      split at hm
      · exact Option.some.inj hm ▸ .same _
      · exact Option.some.inj hm ▸ .update type raw (by simp [TypedCluster.typed, hte])
  | delete key => exact Option.some.inj hm ▸ .delete key
  | setConditions key conditions =>
    simp only [clusterMove] at hm
    split at hm
    · cases hm
    · split at hm
      · cases hm
      · next htype => exact Option.some.inj hm ▸ .setConditions conditions htype
  | createJob job =>
    simp only [clusterMove] at hm
    split at hm
    · cases hm
    · next hnew => exact Option.some.inj hm ▸ .createJob (by simpa using hnew)
  | setJobStatus ns name conditions => exact Option.some.inj hm ▸ .setJobStatus ns name conditions
  | deleteJob ns name => exact Option.some.inj hm ▸ .deleteJob ns name

/-- Every move that changes a TaskExecution of the controller's type, or one of its Jobs,
is reported for it. -/
theorem Moved.rely {m : ClusterMove} (hdistinct : DistinctNames s.cluster.jobs)
    (hm : Moved s m t) (h : taskReports s t key = false) : Rely key s t := by
  have hjobs := (Bool.or_eq_false_iff.mp h).2
  cases hm with
  | same => exact fun _ => ⟨rfl, rfl⟩
  | create uid type raw hnone =>
    refine Rely.write h fun hk _ old hold => ?_
    rw [hk, hnone] at hold
    cases hold
  | update type raw hte =>
    refine Rely.write h fun hk _ old hold => ?_
    rw [hk, hte] at hold
    obtain rfl := Option.some.inj hold
    exact Nat.ne_of_lt (Nat.lt_succ_self _)
  | delete key' =>
    refine Rely.of_typed rfl fun hours => ?_
    by_cases hk : key = key'
    · subst hk
      obtain ⟨te, hte⟩ := hours
      simp [TypedCluster.typed, TypedCluster.remove] at hte
    · simp [TypedCluster.typed, TypedCluster.remove, Function.update_of_ne hk]
  | setConditions conditions htype => exact Rely.write h fun _ hours => absurd hours htype
  | createJob hnew => exact fun _ => ⟨rfl, jobsOf_of_add hnew hjobs⟩
  | setJobStatus => exact fun _ => ⟨rfl, jobsOf_of_setStatus hdistinct hjobs⟩
  | deleteJob => exact fun _ => ⟨rfl, jobsOf_of_delete hdistinct hjobs⟩

theorem Moved.distinct {m : ClusterMove} (hdistinct : DistinctNames s.cluster.jobs)
    (hm : Moved s m t) : DistinctNames t.cluster.jobs := by
  cases hm with
  | createJob hnew => exact hdistinct.append hnew
  | setJobStatus => exact hdistinct.setStatus
  | deleteJob => exact hdistinct.filter _
  | _ => exact hdistinct

end Environment

section Reconciles

theorem reconcile_uses : (reconcile unmarshal suffix now req).Uses (Own req) := by
  refine Prog.Uses.perform_bind trivial fun r => ?_
  cases r with
  | error e =>
    dsimp only
    split <;> trivial
  | ok te =>
    refine Prog.Uses.bind ?_ fun job => ?_
    · refine Prog.Uses.perform_bind trivial fun r => ?_
      split
      · trivial
      · split
        · trivial
        · next newJob hnew =>
          have hjob := constructJob_ok hnew
          refine Prog.Uses.perform_bind ⟨hjob.ns, hjob.owner⟩ fun r => ?_
          cases r <;> trivial
      · trivial
      · trivial
    · cases job with
      | error e => trivial
      | ok job =>
        dsimp only
        split
        · trivial
        · split
          · trivial
          · refine Prog.Uses.perform_bind rfl fun r => ?_
            cases r <;> trivial

theorem typedExec_distinct {op : Op} (hdistinct : DistinctNames s.cluster.jobs) :
    DistinctNames (typedExec op s).2.cluster.jobs := by
  cases op with
  | createJob job =>
    simp only [typedExec, exec]
    split
    · exact hdistinct
    · next hnew => exact hdistinct.append (by simpa [Job.hasName] using hnew)
  | getTaskExecution key =>
    simp only [typedExec, exec]
    split <;> exact hdistinct
  | listJobs key => exact hdistinct
  | patchStatus key before after =>
    simp only [typedExec, exec]
    split
    · exact hdistinct
    · split <;> exact hdistinct

/-- A reconcile leaves the other TaskExecutions and their Jobs alone. -/
theorem Own.frame {op : Op} (h : Own req op) (hne : key ≠ req) :
    (typedExec op s).2.typed key = s.typed key ∧
      (typedExec op s).2.cluster.jobsOf key = s.cluster.jobsOf key := by
  have heffect := exec_effect op s.cluster
  simp only [TypedCluster.typed, typedExec]
  generalize (exec op s.cluster).2 = t at heffect
  cases heffect with
  | same => exact ⟨rfl, rfl⟩
  | createJob job =>
    refine ⟨rfl, ?_⟩
    rw [addJob_jobsOf, if_neg fun hof => hne ((isOf_iff h.1 h.2).mp hof), List.append_nil]
  | patchStatus before after hte =>
    obtain rfl : _ = req := h
    simp [Cluster.setTaskExecution, Function.update_of_ne hne, Cluster.jobsOf]

theorem ours_of_typedExec {op : Op} (h : Ours (typedExec op s).2 req) : Ours s req := by
  have heffect := exec_effect op s.cluster
  obtain ⟨te, hte⟩ := h
  simp only [TypedCluster.typed, typedExec] at hte
  generalize (exec op s.cluster).2 = t at heffect hte
  cases heffect with
  | same => exact ⟨te, hte⟩
  | createJob job => exact ⟨te, hte⟩
  | @patchStatus key te' before after hte' =>
    by_cases hk : req = key
    · subst hk
      simp only [Cluster.setTaskExecution, Function.update_self, Option.map_some, Option.some.injEq,
        Prod.mk.injEq] at hte
      exact ⟨te', by rw [TypedCluster.typed, hte', Option.map_some, hte.2]⟩
    · exact ⟨te, by simpa [TypedCluster.typed, Cluster.setTaskExecution,
        Function.update_of_ne hk] using hte⟩

/-- The conditions of a reconcile that hears of every change. -/
abbrev told (req : NamespacedName) : Contract Op TypedCluster :=
  ⟨Rely req, fun _ _ => True, fun _ _ => True⟩

theorem typedExec_serves (req : NamespacedName) :
    Serves typedExec req (·.cluster.taskExecutions req) (·.cluster.jobsOf req)
      fun job s => { s with cluster := s.cluster.addJob job } where
  get s := by
    simp only [typedExec, (exec_serves req).get]
    split <;> rfl
  list _ := rfl
  create job s := by
    obtain ⟨e, he⟩ | hadd := (exec_serves req).create job s.cluster
    · exact .inl ⟨e, by rw [typedExec, he]⟩
    · exact .inr (by rw [typedExec, hadd])

/-- What is known of the Job of a TaskExecution of the controller's type. -/
def OnlyJob (req : NamespacedName) (te : TaskExecution) (r : Except String Job) (s : TypedCluster) :
    Prop :=
  ∀ job, r = .ok job → Ours s req →
    s.typed req = some (te, typeK8sJob) ∧ s.cluster.jobsOf req = [job]

theorem typed_of_ours {te : TaskExecution} (hte : s.cluster.taskExecutions req = some te)
    (hours : Ours s req) : s.typed req = some (te, typeK8sJob) := by
  obtain ⟨te', hte'⟩ := hours
  rw [TypedCluster.typed, hte, Option.map_some] at hte' ⊢
  obtain ⟨rfl, htype⟩ := Prod.mk.inj (Option.some.inj hte')
  rw [htype]

theorem createOrGetJob_keeps {te : TaskExecution} (hte : s.cluster.taskExecutions req = some te) :
    (createOrGetJob unmarshal suffix req te).Keeps typedExec (told req) (OnlyJob req te) s := by
  have hours {t : TypedCluster} (ht : Rely req s t) (h : Ours t req) :
      t.typed req = some (te, typeK8sJob) := by
    have htyped := (ht h).1
    rw [htyped]
    obtain ⟨te', hte'⟩ := h
    exact typed_of_ours hte ⟨te', htyped ▸ hte'⟩
  refine createOrGetJob_keeps_of (typedExec_serves req) (fun _ _ _ => Rely.trans) (fun _ _ => trivial)
    (fun e t ht => ?_) (fun job t ht hjobs => ?_) fun job t u ht _ hjobs hu hjob => ⟨trivial, ?_⟩
  · rintro job ⟨⟩
  · rintro job' ⟨⟩ h
    exact ⟨hours ht h, hjobs⟩
  · -- the Job is added to none
    rintro job' ⟨⟩ h
    have hof : job.isOf req = true := (isOf_iff hjob.ns hjob.owner).mpr rfl
    have h : Ours u req := h
    have htyped : u.typed req = some (te, typeK8sJob) := hours (ht.trans hu) h
    refine ⟨htyped, ?_⟩
    rw [addJob_jobsOf, (hu h).2, hjobs, if_pos hof, List.nil_append]

theorem not_due_of_only (te : TaskExecution) (job : Job)
    (h : Ours s req → s.typed req = some (te, typeK8sJob) ∧ s.cluster.jobsOf req = [job] ∧
      ∀ r, isJobFinished job = some r → isStatusConditionTrue te.conditions r.condition = true) :
    ¬ Due req s := by
  intro hdue
  obtain ⟨htyped, hjobs, hdone⟩ := h hdue.ours
  obtain ⟨te', hte', hnot⟩ := hdue
  obtain ⟨rfl, -⟩ := Prod.mk.inj (Option.some.inj (htyped.symm.trans hte'))
  exact hnot ⟨job, hjobs, hdone⟩

theorem recordResult_isTrue (name : String) (te : TaskExecution) (result : JobResult) :
    isStatusConditionTrue (recordResult now name te result) result.condition = true :=
  (isStatusConditionTrue_set rfl).trans (by simp)

/-- A status that is patched is the status of the TaskExecution. -/
theorem patchStatus_typed {te : TaskExecution} {after : List (Condition TaskCondition)}
    (hne : after ≠ te.conditions) (htyped : s.typed req = some (te, typeK8sJob)) :
    (typedExec (.patchStatus req te.conditions after) s).2.typed req =
        some ({ te with conditions := after }, typeK8sJob) ∧
      (typedExec (.patchStatus req te.conditions after) s).2.cluster.jobsOf req =
        s.cluster.jobsOf req := by
  obtain ⟨te', hte', heq⟩ := Option.map_eq_some_iff.mp htyped
  obtain ⟨rfl, htype⟩ := Prod.mk.inj heq
  simp [typedExec, exec, hte', hne.symm, TypedCluster.typed, Cluster.setTaskExecution, htype,
    Cluster.jobsOf]

/-- A reconcile that hears of every change fails, or leaves nothing to do. -/
theorem reconcile_done (req : NamespacedName) (s : TypedCluster) :
    (reconcile unmarshal suffix now req).Keeps typedExec (told req)
      (fun a t => (watched unmarshal).retries a = true ∨ ¬ Due req t) s := by
  refine Prog.keeps_perform_bind.mpr fun t ht => ⟨trivial, fun _ => ?_, fun msg => .inl rfl⟩
  rw [(typedExec_serves req).get]
  cases hte : t.cluster.taskExecutions req with
  | none =>
    refine .inr fun hdue => ?_
    obtain ⟨te, hte', -⟩ := hdue
    simp [TypedCluster.typed, hte] at hte'
  | some te =>
    refine (createOrGetJob_keeps hte).bind fun r u hfound => ?_
    cases r with
    | error e => exact .inl rfl
    | ok job =>
      have honly := hfound job rfl
      dsimp only
      cases hres : isJobFinished job with
      | none =>
        refine .inr (not_due_of_only te job fun hours => ⟨(honly hours).1, (honly hours).2, ?_⟩)
        simp [hres]
      | some result =>
        dsimp only
        split
        · next hsame =>
          refine .inr (not_due_of_only te job fun hours => ⟨(honly hours).1, (honly hours).2, ?_⟩)
          rintro r hr
          obtain rfl := Option.some.inj (hres.symm.trans hr)
          rw [← hsame]
          exact recordResult_isTrue _ _ _
        · next hne =>
          refine Prog.keeps_perform_bind.mpr fun v hv => ⟨trivial, fun _ => ?_, fun msg => .inl rfl⟩
          split
          · exact .inl rfl
          · refine .inr (not_due_of_only { te with
              conditions := recordResult now req.name te result } job fun hours => ?_)
            have hv' := hv (ours_of_typedExec hours)
            have huours : Ours u req := by
              obtain ⟨te', hte'⟩ := ours_of_typedExec hours
              exact ⟨te', hv'.1 ▸ hte'⟩
            obtain ⟨htyped, hjobs⟩ := honly huours
            obtain ⟨htyped', hjobs'⟩ := patchStatus_typed hne (hv'.1.trans htyped)
            refine ⟨htyped', (hjobs'.trans hv'.2).trans hjobs, fun r hr => ?_⟩
            obtain rfl := Option.some.inj (hres.symm.trans hr)
            exact recordResult_isTrue _ _ _

end Reconciles

theorem watched_drains (unmarshal : String → Except String String) (key : NamespacedName) :
    (watched unmarshal).Drains (fun _ _ => True) (fun s => DistinctNames s.cluster.jobs)
      (fun j op _ => Own j op) key (Rely key) (Due key) where
  safe st hst := by
    refine Watched.reachable_of_uses (fun s => DistinctNames s.cluster.jobs) (fun s hs => ?_)
      (fun m s t hs hm => ?_) (fun j op s hs _ => ?_) (fun j x => reconcile_uses) hst
    · obtain rfl : s = noTasks := hs
      exact .nil
    · exact (clusterMove_moved hm).distinct hs
    · exact typedExec_distinct hs
  trans _ _ _ hst htu := hst.trans htu
  refl _ _ _ := ⟨rfl, rfl⟩
  env _ _ _ hs _ hm hr := (clusterMove_moved hm).rely hs hr
  call _ _ _ _ hop hne _ _ := hop.frame hne
  stays _ _ hst hdue := hdue.of_rely hst
  lists s _ hdue := by
    obtain ⟨te, hte, -⟩ := hdue
    have hnone : noTasks.typed key = none := rfl
    simp [watched, taskReports, hte, hnone, taskExecutionFilter]
  prog x s _ := reconcile_done key s

section OtherTypes

/-- Nobody gives the TaskExecution the controller's type, or creates a Job that it owns. -/
def foreign (key : NamespacedName) : ClusterMove → Bool
  | .create key' _ type _ => key' ≠ key || type ≠ typeK8sJob
  | .update key' type _ => key' ≠ key || type ≠ typeK8sJob
  | .createJob job => ownerRequest job ≠ some key
  | _ => true

def leftToOthers (key : NamespacedName)
    (_ : Station NamespacedName Op Res (Except String Unit) TypedCluster) :
    StationMove ClusterMove NamespacedName (String × ℕ) → Bool
  | .pool (.env m) => foreign key m
  | _ => true

/-- The TaskExecution is not of the controller's type and never had a Job. -/
structure Untouched (key : NamespacedName) (s : TypedCluster) : Prop where
  type : ¬ Ours s key
  jobs : ∀ j ∈ s.cluster.jobs, ownerRequest j ≠ some key
  created : s.cluster.created key = 0

theorem ownerRequest_setStatus (ns name : String) (conditions : List JobCondition) (j : Job) :
    ownerRequest (j.setStatus ns name conditions) = ownerRequest j := by
  unfold Job.setStatus
  split <;> rfl

theorem created_addJob {s : Cluster} {job : Job} (h : ownerRequest job ≠ some key) :
    (s.addJob job).created key = s.created key := by
  cases hindex : ownerIndex job with
  | none => simp only [Cluster.addJob, hindex]
  | some name =>
    have hof : job.isOf ⟨job.ns, name⟩ = true := by simp [Job.isOf, hindex]
    have hne : key ≠ ⟨job.ns, name⟩ := by
      rintro rfl
      exact h (reported_of_isOf hof).2
    simp only [Cluster.addJob, hindex, Function.update_of_ne hne]

theorem Untouched.addJob {job : Job} (h : Untouched key s) (hjob : ownerRequest job ≠ some key) :
    Untouched key { s with cluster := s.cluster.addJob job } where
  type := h.type
  jobs j hj := by
    obtain hj | hj := List.mem_append.mp hj
    · exact h.jobs j hj
    · rwa [List.mem_singleton.mp hj]
  created := (created_addJob hjob).trans h.created

theorem Untouched.write {te : TaskExecution} {key' : NamespacedName} {type : String}
    (h : Untouched key s) (htype : key' ≠ key ∨ type ≠ typeK8sJob) :
    Untouched key (s.write key' te type) where
  type := by
    rintro ⟨te', hte'⟩
    by_cases hk : key = key'
    · subst hk
      rw [typed_write_self] at hte'
      exact (htype.resolve_left fun hne => hne rfl) (Prod.mk.inj (Option.some.inj hte')).2
    · rw [typed_write_of_ne hk] at hte'
      exact h.type ⟨te', hte'⟩
  jobs := h.jobs
  created := h.created

theorem Untouched.moved {m : ClusterMove} (h : Untouched key s) (hforeign : foreign key m = true)
    (hm : Moved s m t) : Untouched key t := by
  cases hm with
  | same => exact h
  | create uid type raw _ => exact h.write (by simpa [foreign] using hforeign)
  | update type raw _ => exact h.write (by simpa [foreign] using hforeign)
  | delete key' =>
    refine ⟨fun hours => ?_, h.jobs, h.created⟩
    obtain ⟨te, hte⟩ := hours
    by_cases hk : key = key'
    · subst hk
      simp [TypedCluster.typed, TypedCluster.remove] at hte
    · exact h.type ⟨te, by simpa [TypedCluster.typed, TypedCluster.remove,
        Function.update_of_ne hk] using hte⟩
  | setConditions conditions htype => exact h.write (.inr htype)
  | createJob _ => exact h.addJob (of_decide_eq_true hforeign)
  | setJobStatus ns name conditions =>
    refine ⟨h.type, fun j hj => ?_, h.created⟩
    obtain ⟨j, hmem, rfl⟩ := List.mem_map.mp hj
    rw [ownerRequest_setStatus]
    exact h.jobs j hmem
  | deleteJob ns name => exact ⟨h.type, fun j hj => h.jobs j (List.mem_of_mem_filter hj), h.created⟩

/-- The reconciles of others do not touch it. -/
theorem Untouched.call {op : Op} (h : Untouched key s) (hop : Own req op) (hne : key ≠ req) :
    Untouched key (typedExec op s).2 := by
  have htype : ¬ Ours (typedExec op s).2 key := fun hours => h.type (ours_of_typedExec hours)
  have heffect := exec_effect op s.cluster
  simp only [typedExec] at htype ⊢
  generalize (exec op s.cluster).2 = t at heffect htype
  cases heffect with
  | same => exact h
  | createJob job =>
    refine h.addJob fun howner => hne ?_
    have hof : job.isOf req = true := (isOf_iff hop.1 hop.2).mpr rfl
    exact Option.some.inj (howner.symm.trans (reported_of_isOf hof).2)
  | patchStatus before after hte => exact ⟨htype, h.jobs, h.created⟩

/-- What happens to others is not reported for it. -/
theorem Untouched.unreported (hs : Untouched key s) (ht : Untouched key t) :
    taskReports s t key = false := by
  have hfilter {s : TypedCluster} (h : Untouched key s) {te : TaskExecution} {type : String}
      (hte : s.typed key = some (te, type)) : type ≠ typeK8sJob :=
    fun htype => h.type ⟨te, htype ▸ hte⟩
  have hjobs {jobs : List Job} (h : ∀ j ∈ jobs, ownerRequest j ≠ some key) (job : Job) :
      (jobAt jobs job).any (ownerRequest · = some key) = false := by
    cases hat : jobAt jobs job with
    | none => rfl
    | some j => simpa using h j (List.mem_of_find?_eq_some hat)
  refine Bool.or_eq_false_iff.mpr ⟨?_, List.any_eq_false.mpr fun job _ => ?_⟩
  · cases hold : s.typed key with
    | none =>
      cases hnew : t.typed key with
      | none => rfl
      | some new => simp [taskExecutionFilter, hfilter ht hnew]
    | some old =>
      cases hnew : t.typed key with
      | none => simp [Predicate.notices, taskExecutionFilter, Predicate.and, Predicate.ofFilter,
          hfilter hs hold]
      | some new => simp [Predicate.notices, taskExecutionFilter, Predicate.and, Predicate.ofFilter,
          hfilter ht hnew]
  · simp [hjobs hs.jobs job, hjobs ht.jobs job]

theorem untouched_noTasks : Untouched key noTasks where
  type := by simp [Ours, TypedCluster.typed, noTasks]
  jobs := by simp [noTasks]
  created := rfl

end OtherTypes

end Watch

/-- The controller leaves a TaskExecution of another type alone: no reconcile of it ever
runs and no Job is created for it, as long as nobody else creates a Job that it owns. -/
theorem other_type_left_alone (unmarshal : String → Except String String) (key : NamespacedName)
    (st : Station NamespacedName Op Res (Except String Unit) TypedCluster)
    (h : (watched unmarshal).system.Reaches (fun st m => Watch.leftToOthers key st m = true) st) :
    st.Idle key ∧ st.state.cluster.jobsOf key = [] ∧ st.state.cluster.created key = 0 := by
  have hrun : st.Idle key ∧ Watch.Untouched key st.state := by
    refine Watched.idle_of_unreported (Watch.Untouched key) (fun s hs => ?_)
      (fun s hs => Watch.untouched_noTasks.unreported hs) (fun st m pool hr hidle hp hok hn => ?_) h
    · obtain rfl : s = noTasks := hs
      exact Watch.untouched_noTasks
    have hp' : Watch.Untouched key pool.state := by
      cases Workload.next_step hn with
      | env hm => exact hp.moved hok (Watch.clusterMove_moved hm)
      | @call j op f hrun =>
        have hop := ((Watch.watched_drains unmarshal key).safe _ (hr.mono fun _ _ _ => trivial)).2 j op
          f hrun
        have hne : key ≠ j := by
          rintro rfl
          simp [hidle.running] at hrun
        exact hp.call hop hne
      | start => exact hp
      | fault => exact hp
      | stop => exact hp
    exact ⟨hp', hp.unreported hp'⟩
  obtain ⟨hidle, huntouched⟩ := hrun
  refine ⟨hidle, List.filter_eq_nil_iff.mpr fun j hj hof => ?_, huntouched.created⟩
  exact huntouched.jobs j hj (Watch.reported_of_isOf hof).2

section Runs

abbrev TaskStation := Station NamespacedName Op Res (Except String Unit) TypedCluster
abbrev WatchedMove := StationMove ClusterMove NamespacedName (String × ℕ)

/-- The process starts on an empty cluster. -/
def taskStation : TaskStation := ⟨⟨noTasks, fun _ => none⟩, fun _ => false, fun _ => false⟩

theorem taskStation_init : (watched .ok).system.init taskStation := by
  refine ⟨⟨rfl, fun _ => rfl⟩, funext fun key => ?_, rfl⟩
  have hnone : taskReports noTasks noTasks key = false :=
    Watch.untouched_noTasks.unreported Watch.untouched_noTasks
  exact hnone.symm

/-- The report is delivered and a reconcile of `n` calls runs to its end. -/
def reconcileReported (suffix : String) (now n : ℕ) : List WatchedMove :=
  [.deliver taskKey, .pool (.start taskKey (suffix, now))] ++
    List.replicate n (.pool (.call taskKey)) ++ [.pool (.stop taskKey)]

/-- A task is created, run, reported finished, and recorded. Each Job event leads to one
more reconcile. -/
def runWatched : List WatchedMove :=
  [.pool (.env (.create taskKey "u1" typeK8sJob "\x7b\x7d"))] ++ reconcileReported "aaaaaaaa" 10 3 ++
    reconcileReported "bbbbbbbb" 20 2 ++
    [.pool (.env (.setJobStatus "landscape" "task-aaaaaaaa" [⟨.complete, .isTrue⟩]))] ++
    reconcileReported "cccccccc" 30 3

def otherKey : NamespacedName := ⟨"landscape", "other"⟩

/-- A TaskExecution of another type is created, reported on and edited while a task of the
controller's type runs. -/
theorem other_type_left_alone_once : ∃ st, (watched .ok).system.Reaches
      (fun st m => Watch.leftToOthers otherKey st m = true) st ∧
    (st.state.typed otherKey).map (·.2) = some "gateway" ∧
    st.state.cluster.created taskKey = 1 ∧ st.Idle otherKey ∧
    st.state.cluster.jobsOf otherKey = [] ∧ st.state.cluster.created otherKey = 0 := by
  obtain ⟨st, hst, hp⟩ := System.reaches_of_follow (watched .ok).system
    ([.pool (.env (.create otherKey "u2" "gateway" "\x7b\x7d"))] ++ runWatched ++
      [.pool (.env (.update otherKey "gateway" "[]")),
        .pool (.env (.setConditions otherKey [⟨.succeeded, .isTrue, .text "Done", "", 2, none⟩])),
        .restart])
    (fun st => (st.state.typed otherKey).map (·.2) = some "gateway" ∧
      st.state.cluster.created taskKey = 1)
    (fun st m (hcheck : Watch.leftToOthers otherKey st m = true) => hcheck) taskStation_init
    (by decide +kernel)
  obtain ⟨htype, hcreated⟩ := of_decide_eq_true hp
  exact ⟨st, hst, htype, hcreated, other_type_left_alone .ok otherKey st hst⟩

/-- A Job that names another version of the owner's kind: the index does not find it, but
its events are handed to the TaskExecution. -/
def foreignJob : Job where
  ns := "landscape"
  name := "foreign"
  ownerReferences := [⟨"konfidence.cloud/v1beta1", taskExecutionKind, "task", "u1", true⟩]
  spec := ""
  conditions := []

/-- The condition on Jobs is needed: a Job that a TaskExecution of another type owns makes
the controller run that TaskExecution. -/
theorem other_type_run : ∃ st, (watched .ok).system.Reachable st ∧
    (st.state.typed taskKey).map (·.2) = some "gateway" ∧
    (st.state.cluster.jobsOf taskKey).map (·.name) = ["task-aaaaaaaa"] := by
  obtain ⟨st, hst, hp⟩ := System.reachable_of_follow (watched .ok).system
    ([.pool (.env (.create taskKey "u1" "gateway" "\x7b\x7d")), .pool (.env (.createJob foreignJob))] ++
      reconcileReported "aaaaaaaa" 10 3)
    (fun st => (st.state.typed taskKey).map (·.2) = some "gateway" ∧
      (st.state.cluster.jobsOf taskKey).map (·.name) = ["task-aaaaaaaa"])
    taskStation_init (by decide +kernel)
  exact ⟨st, hst, of_decide_eq_true hp⟩

end Runs

end LandscapeOrchestrator.TaskExecutionController
