import LandscapeOrchestrator.ActivationExecution.StageCleanup
import LandscapeOrchestrator.VectorDataController.Lifecycle

/-!
# Finalizer patches beside other controllers

The orchestrator adds and removes its finalizers on Stages and on VectorData. Each patch
replaces the stored list by one that was computed from an earlier read, so it keeps
the edits of other controllers only when the list has not changed since.
-/

namespace LandscapeOrchestrator
open Apilib Golib

namespace ActivationExecution

/-- Both controllers beside the others' edits, from any state. -/
def stageEditors (adm : Admission) : Workload UserMove Job (Runtime × Time) Op Res
    (Except ReconcileError CtrlResult) Cluster :=
  { controllers adm with init := fun _ => True }

/-- The stored finalizers; a Stage that is gone has none. -/
def Cluster.stageFinalizers (s : Cluster) (key : NamespacedName) : List String :=
  match s.stages key with
  | some stage => stage.finalizers
  | none => []

/-- The list that a job last read of the Stage is still the stored one. -/
def ReadCurrent (pool : Controllers) (seen : Seen) (key : NamespacedName) : Prop :=
  ∀ before, seen.stage = some (key, before) → pool.state.stageFinalizers key = before

def JobGrounds : Job → Seen → Op → Prop
  | .activation _ => ActivationGrounds
  | .cleanup _ => CleanupGrounds

theorem stageEditors_grounded (adm : Admission) (j : Job) (x : Runtime × Time) :
    ((stageEditors adm).prog j x).Grounded Seen.learn (JobGrounds j) {} := by
  cases j with
  | activation req => exact reconcile_grounded x.1 x.2 req {}
  | cleanup req => exact cleanupReconcile_grounded req {}

/-- Either controller patches a list that differs from the one it read in its own
finalizer only. -/
theorem JobGrounds.editsOnly {j : Job} {v : Seen} {key : NamespacedName} {after : List String}
    (h : JobGrounds j v (.patchStageFinalizers key after)) :
    ∃ before, v.stage = some (key, before) ∧ EditsOnly stageRouteFinalizer before after := by
  cases j with
  | activation req =>
    obtain ⟨before, hread, hadds⟩ := h
    exact ⟨before, hread, hadds.editsOnly⟩
  | cleanup req =>
    obtain ⟨before, hread, hremoves⟩ := h
    exact ⟨before, hread, hremoves.editsOnly⟩

/-- A patch that succeeds stores its list. -/
theorem patchFinalizers_stored {key : NamespacedName} {after : List String} {s : Cluster}
    (h : (patchFinalizers key after s).1 = .ok ()) :
    (patchFinalizers key after s).2.stageFinalizers key = after := by
  unfold patchFinalizers at h ⊢
  split at h
  · cases h
  · split at h
    · cases h
    · next hnew =>
      rw [if_neg hnew]
      split
      · next hlast => simp [Cluster.stageFinalizers, hlast.2]
      · simp [Cluster.stageFinalizers]

theorem stagePatch_editsOnly {adm : Admission} {pool : Controllers} {learned : Job → Seen} {j : Job}
    {key : NamespacedName} {after : List String}
    {k : Except ApiError Unit → Program (Except ReconcileError CtrlResult)}
    (hr : ((stageEditors adm).learning Seen.learn {}).Reachable (pool, learned))
    (hrun : pool.running j = some (.call (.patchStageFinalizers key after) k))
    (hcurrent : ReadCurrent pool (learned j) key)
    (hok : (exec adm (.patchStageFinalizers key after) pool.state).1 = .ok ()) :
    EditsOnly stageRouteFinalizer (pool.state.stageFinalizers key)
      ((exec adm (.patchStageFinalizers key after) pool.state).2.stageFinalizers key) := by
  have hg := Workload.learning_grounded (stageEditors_grounded adm) hr j _ hrun
  obtain ⟨before, hread, hedit⟩ := JobGrounds.editsOnly hg.1
  have hstored : (exec adm (.patchStageFinalizers key after) pool.state).2.stageFinalizers key =
      after := patchFinalizers_stored hok
  rw [hcurrent before hread, hstored]
  exact hedit

end ActivationExecution

namespace VectorDataController

variable (marshal : ComponentDeploymentResults → Except String String)

def vectorDataEditors : Workload UserMove NamespacedName
    (RangeOrder (String × ComponentDeploymentResults) × ℕ) Op Res (Except String Unit) Cluster :=
  { controller marshal with init := fun _ => True }

def Cluster.vectorDataFinalizers (s : Cluster) (key : NamespacedName) : List String :=
  match s.vectorDatas key with
  | some vd => vd.finalizers
  | none => []

abbrev Reconciles := Pool NamespacedName Op Res (Except String Unit) Cluster

/-- The list in the last answer a reconcile had is still the stored one. -/
def ReadCurrent (pool : Reconciles) (read : Option (List String)) (key : NamespacedName) : Prop :=
  ∀ before, read = some before → pool.state.vectorDataFinalizers key = before

/-- The finalizers in the last answer that carried the object. -/
def learnFinalizers : Learn Op Res (Option (List String))
  | .getVectorData _, .ok vd, _ => some vd.finalizers
  | .patchFinalizers _ _ _, .ok vd, _ => some vd.finalizers
  | .patchStatus _ _ _, .ok vd, _ => some vd.finalizers
  | _, _, v => v

def FinalizerGrounds (v : Option (List String)) : Op → Prop
  | .patchFinalizers _ before after => v = some before ∧
      (AddsFinalizer vectorDataFinalizer before after ∨
        RemovesFinalizer vectorDataFinalizer before after)
  | _ => True

variable {marshal}

theorem setReady_grounded (now : ℕ) (req : NamespacedName) (vd : VectorData)
    (status : ConditionStatus) (reason message : String) (v : Option (List String)) :
    (setReady now req vd status reason message).Grounded learnFinalizers FinalizerGrounds v := by
  refine .perform_bind trivial fun r => ?_
  split <;> trivial

theorem materialize_grounded (order : RangeOrder (String × ComponentDeploymentResults)) (now : ℕ)
    (req : NamespacedName) (vd : VectorData) (v : Option (List String)) :
    (materialize marshal order now req vd).Grounded learnFinalizers FinalizerGrounds v := by
  unfold materialize
  split
  · refine (setReady_grounded ..).bind fun r v => ?_
    split <;> trivial
  · refine .perform_bind trivial fun r => ?_
    split
    · exact setReady_grounded ..
    · split
      · refine .perform_bind trivial fun r => ?_
        split
        · exact (setReady_grounded ..).bind fun r v => trivial
        · exact setReady_grounded ..
      · exact (setReady_grounded ..).bind fun r v => trivial

theorem handleDeletion_grounded (req : NamespacedName) (vd : VectorData) :
    (handleDeletion req vd).Grounded learnFinalizers FinalizerGrounds (some vd.finalizers) := by
  unfold handleDeletion
  split
  · next hf =>
    have remove : (removeFinalizer req vd).Grounded learnFinalizers FinalizerGrounds
        (some vd.finalizers) := by
      refine .perform_bind ⟨rfl, .inr ⟨hf, rfl⟩⟩ fun r => ?_
      split <;> trivial
    refine .perform_bind trivial fun r => ?_
    split
    · split
      · exact remove
      · trivial
    · exact remove
  · trivial

theorem reconcile_grounded (order : RangeOrder (String × ComponentDeploymentResults)) (now : ℕ)
    (req : NamespacedName) (v : Option (List String)) :
    (reconcile marshal order now req).Grounded learnFinalizers FinalizerGrounds v := by
  refine .perform_bind trivial fun r => ?_
  split
  · split <;> trivial
  · next vd =>
    split
    · exact handleDeletion_grounded req vd
    · split
      · exact materialize_grounded ..
      · next hf =>
        refine .perform_bind ⟨rfl, .inl ⟨hf, rfl⟩⟩ fun r => ?_
        split
        · trivial
        · exact materialize_grounded ..

/-- The list a patch carries is never the one it was computed from. -/
theorem FinalizerGrounds.changes {v : Option (List String)} {key : NamespacedName}
    {before after : List String} (h : FinalizerGrounds v (.patchFinalizers key before after)) :
    before ≠ after := by
  rintro rfl
  obtain ⟨-, ⟨hno, heq⟩ | ⟨hin, heq⟩⟩ := h
  · simpa using congrArg List.length heq
  · rw [heq] at hin
    simp at hin

theorem patchFinalizers_stored {key : NamespacedName} {before after : List String} {s : Cluster}
    {vd : VectorData} (hne : before ≠ after)
    (h : (exec (.patchFinalizers key before after) s).1 = .ok vd) :
    (exec (.patchFinalizers key before after) s).2.vectorDataFinalizers key = after := by
  simp only [exec] at h ⊢
  split at h
  · cases h
  · rw [if_neg hne] at h ⊢
    unfold writeFinalizers at h ⊢
    split at h
    · cases h
    · next hnew =>
      rw [if_neg hnew]
      split
      · next hlast => simp [Cluster.vectorDataFinalizers, hlast.2]
      · simp [Cluster.vectorDataFinalizers]

theorem vectorDataPatch_editsOnly {pool : Reconciles}
    {learned : NamespacedName → Option (List String)} {req key : NamespacedName}
    {before after : List String} {k : Except ApiError VectorData → Program (Except String Unit)}
    {vd : VectorData}
    (hr : ((vectorDataEditors marshal).learning learnFinalizers none).Reachable (pool, learned))
    (hrun : pool.running req = some (.call (.patchFinalizers key before after) k))
    (hcurrent : ReadCurrent pool (learned req) key)
    (hok : (exec (.patchFinalizers key before after) pool.state).1 = .ok vd) :
    EditsOnly vectorDataFinalizer (pool.state.vectorDataFinalizers key)
      ((exec (.patchFinalizers key before after) pool.state).2.vectorDataFinalizers key) := by
  have hg := Workload.learning_grounded (P := fun _ => FinalizerGrounds)
    (fun req x => reconcile_grounded x.1 x.2 req none) hr req _ hrun
  obtain ⟨hread, hedit⟩ := hg.1
  rw [hcurrent before hread, patchFinalizers_stored (FinalizerGrounds.changes hg.1) hok]
  exact hedit.elim AddsFinalizer.editsOnly RemovesFinalizer.editsOnly

end VectorDataController

/-- A finalizer patch whose list was read from what is still stored changes nothing but
the orchestrator's own finalizer. -/
theorem finalizer_patches_edit_only (adm : ActivationExecution.Admission)
    (marshal : VectorDataController.ComponentDeploymentResults → Except String String) :
    (∀ pool learned j key after k,
      ((ActivationExecution.stageEditors adm).learning ActivationExecution.Seen.learn {}).Reachable
        (pool, learned) →
      pool.running j = some (.call (.patchStageFinalizers key after) k) →
      ActivationExecution.ReadCurrent pool (learned j) key →
      (ActivationExecution.exec adm (.patchStageFinalizers key after) pool.state).1 = .ok () →
      EditsOnly ActivationExecution.stageRouteFinalizer (pool.state.stageFinalizers key)
        ((ActivationExecution.exec adm (.patchStageFinalizers key after)
          pool.state).2.stageFinalizers key)) ∧
    ∀ pool learned req key before after k vd,
      ((VectorDataController.vectorDataEditors marshal).learning
        VectorDataController.learnFinalizers none).Reachable (pool, learned) →
      pool.running req = some (.call (.patchFinalizers key before after) k) →
      VectorDataController.ReadCurrent pool (learned req) key →
      (VectorDataController.exec (.patchFinalizers key before after) pool.state).1 = .ok vd →
      EditsOnly VectorDataController.vectorDataFinalizer (pool.state.vectorDataFinalizers key)
        ((VectorDataController.exec (.patchFinalizers key before after)
          pool.state).2.vectorDataFinalizers key) :=
  ⟨fun _ _ _ _ _ _ hr hrun hcurrent hok =>
      ActivationExecution.stagePatch_editsOnly hr hrun hcurrent hok,
    fun _ _ _ _ _ _ _ _ hr hrun hcurrent hok =>
      VectorDataController.vectorDataPatch_editsOnly hr hrun hcurrent hok⟩

namespace ActivationExecution

/-- The activation of the fresh Stage, up to its patch of the finalizers. -/
def activateToPatch : List (Move UserMove Job (Runtime × Time)) :=
  [.start activate (shopRuntime, 10), .call activate, .call activate, .call activate,
    .call activate, .call activate]

/-- The patch of the running activation succeeds, and `test` holds of what it has seen and
of the list before and after it. -/
def patchOfActivation (test : Seen → NamespacedName → List String → List String → Bool)
    (x : Controllers × (Job → Seen)) : Bool :=
  match x.1.running activate with
  | some (.call (.patchStageFinalizers key after) _) =>
    (patchFinalizers key after x.1.state).1.isOk &&
      test (x.2 activate) key (x.1.state.stageFinalizers key)
        ((patchFinalizers key after x.1.state).2.stageFinalizers key)
  | _ => false

theorem patchOfActivation_spec {test : Seen → NamespacedName → List String → List String → Bool}
    {x : Controllers × (Job → Seen)} (h : patchOfActivation test x = true) :
    ∃ key after k, x.1.running activate = some (.call (.patchStageFinalizers key after) k) ∧
      (exec ⟨id⟩ (.patchStageFinalizers key after) x.1.state).1 = .ok () ∧
      test (x.2 activate) key (x.1.state.stageFinalizers key)
        ((exec ⟨id⟩ (.patchStageFinalizers key after) x.1.state).2.stageFinalizers key) = true := by
  unfold patchOfActivation at h
  split at h
  · next key after k hrun =>
    obtain ⟨hok, htest⟩ := Bool.and_eq_true_iff.mp h
    refine ⟨key, after, k, hrun, ?_, htest⟩
    change (patchFinalizers key after x.1.state).1 = .ok ()
    cases hr : (patchFinalizers key after x.1.state).1 with
    | ok u => rfl
    | error e => simp [hr, Except.isOk, Except.toBool] at hok
  · cases h

end ActivationExecution

namespace VectorDataController

/-- A VectorData is created, and its reconcile goes on to its patch of the finalizers. -/
def reconcileToPatch : List (Move UserMove NamespacedName
    (RangeOrder (String × ComponentDeploymentResults) × ℕ)) :=
  [.env (.create shopKey "u1" [] (rawSpec "1")), .start shopKey (.insertion, 10), .call shopKey]

def patchOfReconcile (test : Option (List String) → NamespacedName → List String → List String → Bool)
    (x : Reconciles × (NamespacedName → Option (List String))) : Bool :=
  match x.1.running shopKey with
  | some (.call (.patchFinalizers key before after) _) =>
    (exec (.patchFinalizers key before after) x.1.state).1.isOk &&
      test (x.2 shopKey) key (x.1.state.vectorDataFinalizers key)
        ((exec (.patchFinalizers key before after) x.1.state).2.vectorDataFinalizers key)
  | _ => false

theorem patchOfReconcile_spec
    {test : Option (List String) → NamespacedName → List String → List String → Bool}
    {x : Reconciles × (NamespacedName → Option (List String))}
    (h : patchOfReconcile test x = true) :
    ∃ key before after k vd,
      x.1.running shopKey = some (.call (.patchFinalizers key before after) k) ∧
      (exec (.patchFinalizers key before after) x.1.state).1 = .ok vd ∧
      test (x.2 shopKey) key (x.1.state.vectorDataFinalizers key)
        ((exec (.patchFinalizers key before after) x.1.state).2.vectorDataFinalizers key) = true := by
  unfold patchOfReconcile at h
  split at h
  · next key before after k hrun =>
    obtain ⟨hok, htest⟩ := Bool.and_eq_true_iff.mp h
    cases hr : (exec (.patchFinalizers key before after) x.1.state).1 with
    | ok vd => exact ⟨key, before, after, k, vd, hrun, hr, htest⟩
    | error e => simp [hr, Except.isOk, Except.toBool] at hok
  · cases h

end VectorDataController

/-- Another controller has added a finalizer before the read, and it stays. -/
theorem finalizer_patches_edit_only_beside :
    (∃ pool learned key after,
      ((ActivationExecution.stageEditors ⟨id⟩).learning ActivationExecution.Seen.learn {}).Reachable
        (pool, learned) ∧
      EditsOnly ActivationExecution.stageRouteFinalizer (pool.state.stageFinalizers key)
        ((ActivationExecution.exec ⟨id⟩ (.patchStageFinalizers key after)
          pool.state).2.stageFinalizers key) ∧
      "other" ∈ (ActivationExecution.exec ⟨id⟩ (.patchStageFinalizers key after)
        pool.state).2.stageFinalizers key) ∧
    ∃ pool learned key before after,
      ((VectorDataController.vectorDataEditors fun _ => .ok "[]").learning
        VectorDataController.learnFinalizers none).Reachable (pool, learned) ∧
      EditsOnly VectorDataController.vectorDataFinalizer (pool.state.vectorDataFinalizers key)
        ((VectorDataController.exec (.patchFinalizers key before after)
          pool.state).2.vectorDataFinalizers key) ∧
      "other" ∈ (VectorDataController.exec (.patchFinalizers key before after)
        pool.state).2.vectorDataFinalizers key := by
  constructor
  · obtain ⟨⟨pool, learned⟩, hr, hp⟩ := System.reachable_of_follow
      ((ActivationExecution.stageEditors ⟨id⟩).learning ActivationExecution.Seen.learn {})
      (.env (.editStage ⟨"landscape", "prod"⟩ none ["other"]) :: ActivationExecution.activateToPatch)
      (ActivationExecution.patchOfActivation fun seen key before _ =>
        seen.stage = some (key, before) ∧ "other" ∈ before)
      (s := (ActivationExecution.freshPool, fun _ => {})) ⟨⟨trivial, fun _ => rfl⟩, rfl⟩
      (by decide +kernel)
    obtain ⟨key, after, k, hrun, hok, htest⟩ := ActivationExecution.patchOfActivation_spec hp
    obtain ⟨hseen, hother⟩ := of_decide_eq_true htest
    have hcurrent : ActivationExecution.ReadCurrent pool (learned ActivationExecution.activate) key := by
      intro before hread
      simpa using hseen.symm.trans hread
    have hedits := (finalizer_patches_edit_only ⟨id⟩ fun _ => .ok "[]").1
      pool learned _ key after k hr hrun hcurrent hok
    exact ⟨pool, learned, key, after, hr, hedits, hedits.keeps hother (by decide)⟩
  · obtain ⟨⟨pool, learned⟩, hr, hp⟩ := System.reachable_of_follow
      ((VectorDataController.vectorDataEditors fun _ => .ok "[]").learning
        VectorDataController.learnFinalizers none)
      [.env (.create VectorDataController.shopKey "u1" [] (VectorDataController.rawSpec "1")),
        .env (.setFinalizers VectorDataController.shopKey ["other"]),
        .start VectorDataController.shopKey (.insertion, 10), .call VectorDataController.shopKey]
      (VectorDataController.patchOfReconcile fun read _ before _ =>
        read = some before ∧ "other" ∈ before)
      (s := (⟨VectorDataController.emptyCluster, fun _ => none⟩, fun _ => none))
      ⟨⟨trivial, fun _ => rfl⟩, rfl⟩ (by decide +kernel)
    obtain ⟨key, before, after, k, vd, hrun, hok, htest⟩ :=
      VectorDataController.patchOfReconcile_spec hp
    obtain ⟨hread, hother⟩ := of_decide_eq_true htest
    have hcurrent : VectorDataController.ReadCurrent pool
        (learned VectorDataController.shopKey) key := by
      intro stored hstored
      simpa using hread.symm.trans hstored
    have hedits := (finalizer_patches_edit_only ⟨id⟩ fun _ => .ok "[]").2
      pool learned _ key before after k vd hr hrun hcurrent hok
    exact ⟨pool, learned, key, before, after, hr, hedits, hedits.keeps hother (by decide)⟩

/-- Another controller adds a finalizer between the read and the patch, which drops it. -/
theorem finalizer_patches_drop_edits :
    (∃ pool learned j key after k,
      ((ActivationExecution.stageEditors ⟨id⟩).learning ActivationExecution.Seen.learn {}).Reachable
        (pool, learned) ∧
      pool.running j = some (.call (.patchStageFinalizers key after) k) ∧
      (ActivationExecution.exec ⟨id⟩ (.patchStageFinalizers key after) pool.state).1 = .ok () ∧
      ¬ EditsOnly ActivationExecution.stageRouteFinalizer (pool.state.stageFinalizers key)
        ((ActivationExecution.exec ⟨id⟩ (.patchStageFinalizers key after)
          pool.state).2.stageFinalizers key)) ∧
    ∃ pool learned req key before after k vd,
      ((VectorDataController.vectorDataEditors fun _ => .ok "[]").learning
        VectorDataController.learnFinalizers none).Reachable (pool, learned) ∧
      pool.running req = some (.call (.patchFinalizers key before after) k) ∧
      (VectorDataController.exec (.patchFinalizers key before after) pool.state).1 = .ok vd ∧
      ¬ EditsOnly VectorDataController.vectorDataFinalizer (pool.state.vectorDataFinalizers key)
        ((VectorDataController.exec (.patchFinalizers key before after)
          pool.state).2.vectorDataFinalizers key) := by
  have dropped {own : String} {before after : List String} (hne : "other" ≠ own)
      (h : (decide ("other" ∈ before) && decide ("other" ∉ after)) = true) :
      ¬ EditsOnly own before after := by
    obtain ⟨hbefore, hafter⟩ := Bool.and_eq_true_iff.mp h
    exact fun hedit => of_decide_eq_true hafter (hedit.keeps (of_decide_eq_true hbefore) hne)
  constructor
  · obtain ⟨⟨pool, learned⟩, hr, hp⟩ := System.reachable_of_follow
      ((ActivationExecution.stageEditors ⟨id⟩).learning ActivationExecution.Seen.learn {})
      (ActivationExecution.activateToPatch ++
        [.env (.editStage ⟨"landscape", "prod"⟩ none ["other"])])
      (ActivationExecution.patchOfActivation fun _ _ before after =>
        decide ("other" ∈ before) && decide ("other" ∉ after))
      (s := (ActivationExecution.freshPool, fun _ => {})) ⟨⟨trivial, fun _ => rfl⟩, rfl⟩
      (by decide +kernel)
    obtain ⟨key, after, k, hrun, hok, hlost⟩ := ActivationExecution.patchOfActivation_spec hp
    exact ⟨pool, learned, _, key, after, k, hr, hrun, hok, dropped (by decide) hlost⟩
  · obtain ⟨⟨pool, learned⟩, hr, hp⟩ := System.reachable_of_follow
      ((VectorDataController.vectorDataEditors fun _ => .ok "[]").learning
        VectorDataController.learnFinalizers none)
      (VectorDataController.reconcileToPatch ++
        [.env (.setFinalizers VectorDataController.shopKey ["other"])])
      (VectorDataController.patchOfReconcile fun _ _ before after =>
        decide ("other" ∈ before) && decide ("other" ∉ after))
      (s := (⟨VectorDataController.emptyCluster, fun _ => none⟩, fun _ => none))
      ⟨⟨trivial, fun _ => rfl⟩, rfl⟩ (by decide +kernel)
    obtain ⟨key, before, after, k, vd, hrun, hok, hlost⟩ :=
      VectorDataController.patchOfReconcile_spec hp
    exact ⟨pool, learned, _, key, before, after, k, vd, hr, hrun, hok, dropped (by decide) hlost⟩

end LandscapeOrchestrator
