import LandscapeOrchestrator.ActivationExecution.Controller
import LandscapeOrchestrator.Apilib.Finalizers
import LandscapeOrchestrator.Apilib.Grounds

/-!
# What the controllers know when they write

The finalizers of a Stage are patched from the list that was read before, a Gateway is
deleted on the answer to the call right before, and a route is created after its Stage's
finalizer was seen. All of this holds whatever the server answers in between.
-/

namespace LandscapeOrchestrator.ActivationExecution
open Apilib

/-- A Gateway that a call answered with. -/
inductive GatewaySight where
  | read (key : NamespacedName) (g : Gateway)
  | created (g : Gateway)

/-- The finalizers of the Stage that was read last, and the Gateway that the last call
answered with, if it did. -/
structure Seen where
  stage : Option (NamespacedName × List String) := none
  gateway : Option GatewaySight := none

def Seen.learn : Learn Op Res Seen
  | .getStage key, .ok stage, _ => { stage := some (key, stage.finalizers) }
  | .getGateway key, .ok g, v => { v with gateway := some (.read key g) }
  | .createGateway _, .ok g, v => { v with gateway := some (.created g) }
  | _, _, v => { v with gateway := none }

/-- A Gateway that may be deleted under `key`. -/
def GatewaySight.Deletable (key : NamespacedName) : GatewaySight → Prop
  | .read _ g => isProvisioned g = true ∧ key = ⟨g.ns, g.name⟩
  | .created g => key = ⟨g.ns, g.name⟩

/-- The grounds of each write, with the edits of finalizers that the controller makes. -/
def Grounds (edits : List String → List String → Prop) (v : Seen) : Op → Prop
  | .patchStageFinalizers key after => ∃ before, v.stage = some (key, before) ∧ edits before after
  | .createGateway g => ∃ ns className, g = newRouterGateway ns className
  | .deleteGateway key => ∃ sight, v.gateway = some sight ∧ sight.Deletable key
  | _ => True

abbrev ActivationGrounds : Seen → Op → Prop := Grounds (AddsFinalizer stageRouteFinalizer)
abbrev CleanupGrounds : Seen → Op → Prop := Grounds (RemovesFinalizer stageRouteFinalizer)

theorem isSuperseded_grounded (ns : String) (va : VectorActivation) (v : Seen) :
    (isSuperseded ns va).Grounded Seen.learn ActivationGrounds v := by
  refine .perform_bind trivial fun r => ?_
  split
  · split <;> trivial
  · split
    · trivial
    · split
      · trivial
      · refine .perform_bind trivial fun r => ?_
        split
        · split <;> trivial
        · refine .perform_bind trivial fun r => ?_
          split
          · split <;> trivial
          · trivial

theorem ensureStageFinalizer_grounded (ns stage : String) (v : Seen) :
    (ensureStageFinalizer ns stage).Grounded Seen.learn ActivationGrounds v := by
  refine .perform_bind trivial fun r => ?_
  split
  · trivial
  · next stage =>
    split
    · trivial
    · next hf =>
      refine .perform_bind ⟨stage.finalizers, rfl, hf, rfl⟩ fun r => ?_
      split <;> trivial

theorem createRouterGateway_grounded (ns className : String) (startedAt now : Time) (v : Seen) :
    (createRouterGateway ns className startedAt now).Grounded Seen.learn ActivationGrounds v := by
  refine .perform_bind trivial fun r => ?_
  split
  · split <;> trivial
  · refine .perform_bind ⟨ns, className, rfl⟩ fun r => ?_
    split
    · split <;> trivial
    · next gateway =>
      split
      · trivial
      · refine .perform_bind ⟨.created gateway, rfl, rfl⟩ fun r => ?_
        split <;> trivial

theorem ensureRouterGateway_grounded (ns className : String) (startedAt now : Time) (v : Seen) :
    (ensureRouterGateway ns className startedAt now).Grounded Seen.learn ActivationGrounds v := by
  refine .perform_bind trivial fun r => ?_
  split
  · split
    · exact createRouterGateway_grounded ..
    · trivial
  · next gateway =>
    split
    · trivial
    · next hp =>
      dsimp only
      split
      · refine .perform_bind ⟨.read _ gateway, rfl, by simpa using hp, rfl⟩ fun r => ?_
        split <;> trivial
      · trivial

theorem applyStageRoute_grounded (ns stage : String) (config : GatewayRouteConfig)
    (rules : List HTTPRouteRule) (v : Seen) :
    (applyStageRoute ns stage config rules).Grounded Seen.learn ActivationGrounds v := by
  refine .perform_bind trivial fun r => ?_
  split
  · split
    · refine .perform_bind trivial fun r => ?_
      split <;> trivial
    · trivial
  · split
    · trivial
    · refine .perform_bind trivial fun r => ?_
      split <;> trivial

theorem exposeStage_grounded (now : Time) (ns : String) (ate : ActivationTaskExecution)
    (stage : String) (config : GatewayRouteConfig) (rules : List HTTPRouteRule) (v : Seen) :
    (exposeStage now ns ate stage config rules).Grounded Seen.learn ActivationGrounds v := by
  have attach (v : Seen) :
      (attachStageRoute now ns ate stage config rules).Grounded Seen.learn ActivationGrounds v :=
    (applyStageRoute_grounded ns stage config rules v).bind fun r v => by split <;> trivial
  refine (ensureStageFinalizer_grounded ns stage v).bind fun r v => ?_
  split
  · trivial
  · split
    · refine (ensureRouterGateway_grounded ..).bind fun r v => ?_
      split
      · trivial
      · split
        · trivial
        · exact attach v
    · exact attach v

theorem reconcileActivationTaskExecution_grounded (rt : Runtime) (now : Time) (ns : String)
    (ate : ActivationTaskExecution) (v : Seen) :
    (reconcileActivationTaskExecution rt now ns ate).Grounded Seen.learn ActivationGrounds v := by
  unfold reconcileActivationTaskExecution
  split
  · trivial
  · refine .perform_bind trivial fun r => ?_
    split
    · trivial
    · refine (isSuperseded_grounded ..).bind fun r v => ?_
      split
      · trivial
      · trivial
      · split
        · trivial
        · refine .perform_bind trivial fun r => ?_
          split
          · trivial
          · split
            · trivial
            · refine .perform_bind trivial fun r => ?_
              split <;> trivial
            · exact exposeStage_grounded ..

theorem reconcile_grounded (rt : Runtime) (now : Time) (req : NamespacedName) (v : Seen) :
    (reconcile rt now req).Grounded Seen.learn ActivationGrounds v := by
  refine .perform_bind trivial fun r => ?_
  split
  · split <;> trivial
  · refine (reconcileActivationTaskExecution_grounded ..).bind fun r v => ?_
    obtain ⟨result, ate⟩ := r
    dsimp only
    split
    · trivial
    · refine .perform_bind trivial fun r => ?_
      split <;> trivial

/-- The route is deleted between the read and the patch. -/
theorem cleanupReconcile_grounded (req : NamespacedName) (v : Seen) :
    (cleanupReconcile req).Grounded Seen.learn CleanupGrounds v := by
  refine .perform_bind trivial fun r => ?_
  split
  · split <;> trivial
  · next stage =>
    split
    · trivial
    · next hf =>
      have hf : stageRouteFinalizer ∈ stage.finalizers := by
        by_contra hno
        simp [hno] at hf
      refine .perform_bind trivial fun r => ?_
      split
      · trivial
      · have hseen : (Seen.learn (.deleteHTTPRoute ⟨req.ns, stageRouteName req.name⟩) r
            (Seen.learn (.getStage req) (.ok stage) v)).stage = some (req, stage.finalizers) := rfl
        refine .perform_bind ⟨stage.finalizers, hseen, hf, rfl⟩ fun r => ?_
        split <;> trivial

section Held

/-- The Stage whose finalizer was found, or put, into its list by the last call that read
or patched a Stage. -/
def learnHeld : Learn Op Res (Option NamespacedName)
  | .getStage key, .ok stage, _ => if stageRouteFinalizer ∈ stage.finalizers then some key else none
  | .getStage _, .error _, _ => none
  | .patchStageFinalizers key after, .ok _, _ => if stageRouteFinalizer ∈ after then some key else none
  | .patchStageFinalizers _ _, .error _, _ => none
  | _, _, held => held

/-- A route is created under a Stage whose finalizer was seen. -/
def HeldGrounds (held : Option NamespacedName) : Op → Prop
  | .createHTTPRoute key _ => ∃ ns stage, key = ⟨ns, stageRouteName stage⟩ ∧ held = some ⟨ns, stage⟩
  | _ => True

/-- Calls that neither create a route nor touch a Stage. -/
def Op.Aside : Op → Prop
  | .createHTTPRoute _ _ => False
  | .getStage _ => False
  | .patchStageFinalizers _ _ => False
  | _ => True

theorem Op.Aside.learnHeld {op : Op} (h : op.Aside) (r : Except ApiError (Res op))
    (held : Option NamespacedName) : ActivationExecution.learnHeld op r held = held := by
  cases op <;> first | exact h.elim | rfl

theorem Op.Aside.heldGrounds {op : Op} (h : op.Aside) (held : Option NamespacedName) :
    HeldGrounds held op := by
  cases op <;> first | exact h.elim | trivial

theorem isSuperseded_held (ns : String) (va : VectorActivation) (held : Option NamespacedName) :
    (isSuperseded ns va).Grounded learnHeld HeldGrounds held := by
  refine .perform_bind trivial fun r => ?_
  split
  · split <;> trivial
  · split
    · trivial
    · split
      · trivial
      · refine .perform_bind trivial fun r => ?_
        split
        · split <;> trivial
        · refine .perform_bind trivial fun r => ?_
          split
          · split <;> trivial
          · trivial

/-- Without an error the finalizer is there: it was read, or it is in the list that was
patched. -/
theorem ensureStageFinalizer_held (ns stage : String) (held : Option NamespacedName) :
    (ensureStageFinalizer ns stage).Grounded learnHeld HeldGrounds held ∧
      (ensureStageFinalizer ns stage).Learns learnHeld
        (fun r held' => ∀ u, r = .ok u → held' = some ⟨ns, stage⟩) held := by
  refine ⟨.perform_bind trivial fun r => ?_, .perform_bind fun r => ?_⟩
  · split
    · trivial
    · split
      · trivial
      · refine .perform_bind trivial fun r => ?_
        split <;> trivial
  · split
    · rintro u ⟨⟩
    · split
      · next hf => exact fun u _ => if_pos hf
      · refine .perform_bind fun r => ?_
        split
        · rintro u ⟨⟩
        · exact fun u _ => if_pos (List.mem_append_right _ (List.mem_singleton_self _))

theorem createRouterGateway_aside (ns className : String) (startedAt now : Time) :
    (createRouterGateway ns className startedAt now).Uses Op.Aside := by
  refine .perform_bind trivial fun r => ?_
  split
  · split <;> trivial
  · refine .perform_bind trivial fun r => ?_
    split
    · split <;> trivial
    · split
      · trivial
      · refine .perform_bind trivial fun r => ?_
        split <;> trivial

theorem ensureRouterGateway_aside (ns className : String) (startedAt now : Time) :
    (ensureRouterGateway ns className startedAt now).Uses Op.Aside := by
  refine .perform_bind trivial fun r => ?_
  split
  · split
    · exact createRouterGateway_aside ..
    · trivial
  · split
    · trivial
    · dsimp only
      split
      · refine .perform_bind trivial fun r => ?_
        split <;> trivial
      · trivial

theorem attachStageRoute_held (now : Time) (ns : String) (ate : ActivationTaskExecution)
    (stage : String) (config : GatewayRouteConfig) (rules : List HTTPRouteRule) :
    (attachStageRoute now ns ate stage config rules).Grounded learnHeld HeldGrounds
      (some ⟨ns, stage⟩) := by
  have happly : (applyStageRoute ns stage config rules).Grounded learnHeld HeldGrounds
      (some ⟨ns, stage⟩) := by
    refine .perform_bind trivial fun r => ?_
    split
    · split
      · refine .perform_bind ⟨ns, stage, rfl, rfl⟩ fun r => ?_
        split <;> trivial
      · trivial
    · split
      · trivial
      · refine .perform_bind trivial fun r => ?_
        split <;> trivial
  refine happly.bind fun r v => ?_
  split <;> trivial

theorem exposeStage_held (now : Time) (ns : String) (ate : ActivationTaskExecution)
    (stage : String) (config : GatewayRouteConfig) (rules : List HTTPRouteRule)
    (held : Option NamespacedName) :
    (exposeStage now ns ate stage config rules).Grounded learnHeld HeldGrounds held := by
  obtain ⟨hgrounded, hlearns⟩ := ensureStageFinalizer_held ns stage held
  refine hgrounded.bind_learns hlearns fun r held' hheld => ?_
  split
  · trivial
  · next u =>
    obtain rfl := hheld u rfl
    have hattach := attachStageRoute_held now ns ate stage config rules
    split
    · have haside := ensureRouterGateway_aside ns config.gatewayClassName ate.creationTimestamp now
      refine (Prog.Grounded.of_uses haside fun v op h => h.heldGrounds v).bind_learns
        (Prog.Learns.of_uses haside fun op r v h => h.learnHeld r v) fun r held' hsame => ?_
      subst hsame
      split
      · trivial
      · split
        · trivial
        · exact hattach
    · exact hattach

/-- A route is created by an activation that has seen the finalizer of its Stage, and has
not looked at a Stage since. -/
theorem reconcile_held (rt : Runtime) (now : Time) (req : NamespacedName)
    (held : Option NamespacedName) :
    (reconcile rt now req).Grounded learnHeld HeldGrounds held := by
  refine .perform_bind trivial fun r => ?_
  split
  · split <;> trivial
  · refine Prog.Grounded.bind ?_ fun r v => ?_
    · unfold reconcileActivationTaskExecution
      split
      · trivial
      · refine .perform_bind trivial fun r => ?_
        split
        · trivial
        · refine (isSuperseded_held ..).bind fun r v => ?_
          split
          · trivial
          · trivial
          · split
            · trivial
            · refine .perform_bind trivial fun r => ?_
              split
              · trivial
              · split
                · trivial
                · refine .perform_bind trivial fun r => ?_
                  split <;> trivial
                · exact exposeStage_held ..
    · obtain ⟨result, ate⟩ := r
      dsimp only
      split
      · trivial
      · refine .perform_bind trivial fun r => ?_
        split <;> trivial

end Held

end LandscapeOrchestrator.ActivationExecution
