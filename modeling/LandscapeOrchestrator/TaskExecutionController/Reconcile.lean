import LandscapeOrchestrator.Apilib.Conditions
import LandscapeOrchestrator.Apilib.Names
import LandscapeOrchestrator.Apilib.Program
import Mathlib.Logic.Function.Basic

/-!
# The TaskExecution controller

The controller runs a Job for a TaskExecution and records how the Job ended. Whether
there is a Job is read from the owner index of the Jobs alone. Events and log lines
are left out: nothing reads them.

## Main definitions

- `Cluster`, `Op`, `exec` — TaskExecutions, Jobs, and the API server
- `createOrGetJob`, `isJobFinished`, `reconcile` — one reconcile
-/

namespace LandscapeOrchestrator.TaskExecutionController
open Apilib

inductive TaskCondition where
  | succeeded
  | failed
  | other (s : String)
  deriving DecidableEq, Repr

/-- `raw` is the JSON text of the Job spec. -/
structure TaskExecution where
  uid : String
  generation : ℕ
  raw : String
  conditions : List (Condition TaskCondition)
  deriving DecidableEq

structure OwnerReference where
  apiVersion : String
  kind : String
  name : String
  uid : String
  controller : Bool
  deriving DecidableEq, Repr

inductive JobConditionType where
  | complete
  | failed
  | other (s : String)
  deriving DecidableEq, Repr

structure JobCondition where
  type : JobConditionType
  status : ConditionStatus
  deriving DecidableEq, Repr

/-- `spec` is the decoded Job spec, kept as its JSON text. -/
structure Job where
  ns : String
  name : String
  ownerReferences : List OwnerReference
  spec : String
  conditions : List JobCondition
  deriving DecidableEq, Repr

def apiGVStr : String := "konfidence.cloud/v1alpha1"
def taskExecutionKind : String := "TaskExecution"

/-- `metav1.GetControllerOf`. -/
def controllerOf (job : Job) : Option OwnerReference :=
  job.ownerReferences.find? fun o => o.controller

/-- The index of Jobs by the name of the TaskExecution that controls them. -/
def ownerIndex (job : Job) : Option String :=
  match controllerOf job with
  | none => none
  | some owner =>
    if owner.apiVersion ≠ apiGVStr ∨ owner.kind ≠ taskExecutionKind then none else some owner.name

/-- `created` counts the Jobs that were ever created for the TaskExecution of a name. -/
structure Cluster where
  taskExecutions : NamespacedName → Option TaskExecution
  jobs : List Job
  created : NamespacedName → ℕ

/-- The Job is found under the name of the TaskExecution. -/
def Job.isOf (key : NamespacedName) (job : Job) : Bool :=
  job.ns = key.ns ∧ ownerIndex job = some key.name

def Cluster.jobsOf (s : Cluster) (key : NamespacedName) : List Job := s.jobs.filter (Job.isOf key)

/-- A status patch carries the conditions before and after the change. -/
inductive Op where
  | getTaskExecution (key : NamespacedName)
  | listJobs (key : NamespacedName)
  | createJob (job : Job)
  | patchStatus (key : NamespacedName) (before after : List (Condition TaskCondition))

abbrev Res : Op → Type
  | .getTaskExecution _ => TaskExecution
  | .listJobs _ => List Job
  | .createJob _ => Unit
  | .patchStatus _ _ _ => Unit

def notFound (resource name : String) : ApiError :=
  .notFound (resource ++ " \"" ++ name ++ "\" not found")

def alreadyExists (resource name : String) : ApiError :=
  .alreadyExists (resource ++ " \"" ++ name ++ "\" already exists")

/-- A Job that is added counts for the TaskExecution that controls it. -/
def Cluster.addJob (s : Cluster) (job : Job) : Cluster :=
  { s with
    jobs := s.jobs ++ [job]
    created := match ownerIndex job with
      | none => s.created
      | some name => Function.update s.created ⟨job.ns, name⟩ (s.created ⟨job.ns, name⟩ + 1) }

def Cluster.setTaskExecution (s : Cluster) (key : NamespacedName) (te : TaskExecution) : Cluster :=
  { s with taskExecutions := Function.update s.taskExecutions key (some te) }

/-- The API server, with current reads. -/
def exec : Exec Op Res Cluster
  | .getTaskExecution key, s => match s.taskExecutions key with
    | none => (.error (notFound "taskexecutions" key.name), s)
    | some te => (.ok te, s)
  | .listJobs key, s => (.ok (s.jobsOf key), s)
  | .createJob job, s =>
    if s.jobs.any fun j => j.ns = job.ns ∧ j.name = job.name
    then (.error (alreadyExists "jobs" job.name), s) else (.ok (), s.addJob job)
  | .patchStatus key before after, s => match s.taskExecutions key with
    | none => (.error (notFound "taskexecutions" key.name), s)
    | some te =>
      if before = after then (.ok (), s)
      else (.ok (), s.setTaskExecution key { te with conditions := after })

abbrev Program := Prog Op Res

def getTaskExecution (key : NamespacedName) : Program (Except ApiError TaskExecution) :=
  Prog.perform (Op.getTaskExecution key)

def listJobs (key : NamespacedName) : Program (Except ApiError (List Job)) :=
  Prog.perform (Op.listJobs key)

def createJob (job : Job) : Program (Except ApiError Unit) := Prog.perform (Op.createJob job)

def patchStatus (key : NamespacedName) (before after : List (Condition TaskCondition)) :
    Program (Except ApiError Unit) :=
  Prog.perform (Op.patchStatus key before after)

def maxJobNameLen : ℕ := 63

/-- Names are ASCII, so a character is a byte. -/
def boundedJobName (base suffix : String) : String :=
  let full := "-" ++ suffix
  if base.length > maxJobNameLen - full.length then
    let cut := base.toList.take (maxJobNameLen - full.length)
    String.ofList (cut.reverse.dropWhile fun c => c = '-').reverse ++ full
  else base ++ full

inductive JobResult where
  | complete
  | failed
  deriving DecidableEq, Repr

def JobCondition.result (c : JobCondition) : Option JobResult :=
  match c.type, c.status with
  | .complete, .isTrue => some .complete
  | .failed, .isTrue => some .failed
  | _, _ => none

/-- The first terminal condition decides. -/
def isJobFinished (job : Job) : Option JobResult := job.conditions.findSome? JobCondition.result

section

variable (unmarshal : String → Except String String) (suffix : String) (now : ℕ)

/-- The decoder of Job specs is a parameter, and so is the random suffix. A fresh Job
has no other controller, so the controller reference can be set. -/
def constructJob (req : NamespacedName) (te : TaskExecution) : Except String Job :=
  match unmarshal te.raw with
  | .error e => .error ("unable to unmarshal taskExecution spec: " ++ e)
  | .ok spec => .ok {
      ns := req.ns
      name := boundedJobName req.name suffix
      ownerReferences := [⟨apiGVStr, taskExecutionKind, req.name, te.uid, true⟩]
      spec := spec
      conditions := [] }

def createOrGetJob (req : NamespacedName) (te : TaskExecution) : Program (Except String Job) := do
  match ← listJobs req with
  | .error e => return .error ("unable to list jobs: " ++ e.message)
  | .ok [] =>
    match constructJob unmarshal suffix req te with
    | .error e => return .error ("unable to construct job from template: " ++ e)
    | .ok newJob =>
      match ← createJob newJob with
      | .error e => return .error ("unable to create job: " ++ e.message)
      | .ok _ => return .ok newJob
  | .ok [job] => return .ok job
  | .ok (_ :: _ :: _) =>
    return .error ("multiple matching jobs found for taskExecution: " ++ req.name)

def JobResult.condition : JobResult → TaskCondition
  | complete => .succeeded
  | failed => .failed

def JobResult.message (name : String) : JobResult → String
  | complete => "TaskExecution " ++ name ++ " reconciled successfully"
  | failed => "Reconciling TaskExecution " ++ name ++ " failed"

/-- The conditions once the Job has ended. -/
def recordResult (name : String) (te : TaskExecution) (result : JobResult) :
    List (Condition TaskCondition) :=
  setStatusCondition now te.conditions {
    type := result.condition
    status := .isTrue
    reason := .name result.condition
    message := result.message name
    observedGeneration := te.generation
    lastTransitionTime := some now }

def reconcile (req : NamespacedName) : Program (Except String Unit) := do
  match ← getTaskExecution req with
  | .error e => if e.isNotFound then return .ok () else return .error e.message
  | .ok te =>
    match ← createOrGetJob unmarshal suffix req te with
    | .error e => return .error e
    | .ok job =>
      match isJobFinished job with
      | none => return .ok ()
      | some result =>
        if recordResult now req.name te result = te.conditions then return .ok ()
        else
          match ← patchStatus req te.conditions (recordResult now req.name te result) with
          | .error e => return .error ("unable to update taskExecution status: " ++ e.message)
          | .ok _ => return .ok ()

end

end LandscapeOrchestrator.TaskExecutionController
