import LandscapeOrchestrator.ActivationExecution.RouteRules

/-!
# Calls and their rules

One program for each API call, and for each the rule that a postcondition of a
whole run steps over it: the answer by the state, and the failed call.
-/

namespace LandscapeOrchestrator.ActivationExecution
open Apilib

def getExecution (key : NamespacedName) : Program (Except ApiError ActivationTaskExecution) :=
  Prog.perform (Op.getExecution key)

def getVectorActivation (key : NamespacedName) : Program (Except ApiError VectorActivation) :=
  Prog.perform (Op.getVectorActivation key)

def getStage (key : NamespacedName) : Program (Except ApiError Stage) :=
  Prog.perform (Op.getStage key)

def getStageVersion (key : NamespacedName) : Program (Except ApiError StageVersion) :=
  Prog.perform (Op.getStageVersion key)

def getVectorDeployment (key : NamespacedName) : Program (Except ApiError VectorDeployment) :=
  Prog.perform (Op.getVectorDeployment key)

def getGateway (key : NamespacedName) : Program (Except ApiError Gateway) :=
  Prog.perform (Op.getGateway key)

def getHTTPRoute (key : NamespacedName) : Program (Except ApiError HTTPRoute) :=
  Prog.perform (Op.getHTTPRoute key)

def getGatewayClass (name : String) : Program (Except ApiError Unit) :=
  Prog.perform (Op.getGatewayClass name)

def patchExecutionStatus (key : NamespacedName)
    (conditions : List (Condition ActivationCondition)) : Program (Except ApiError Unit) :=
  Prog.perform (Op.patchExecutionStatus key conditions)

def patchStageFinalizers (key : NamespacedName) (finalizers : List String) :
    Program (Except ApiError Unit) :=
  Prog.perform (Op.patchStageFinalizers key finalizers)

def createGateway (g : Gateway) : Program (Except ApiError Gateway) :=
  Prog.perform (Op.createGateway g)

def deleteGateway (key : NamespacedName) : Program (Except ApiError Unit) :=
  Prog.perform (Op.deleteGateway key)

def createHTTPRoute (key : NamespacedName) (spec : HTTPRouteSpec) :
    Program (Except ApiError Unit) :=
  Prog.perform (Op.createHTTPRoute key spec)

def updateHTTPRoute (key : NamespacedName) (resourceVersion : ℕ) (spec : HTTPRouteSpec) :
    Program (Except ApiError Unit) :=
  Prog.perform (Op.updateHTTPRoute key resourceVersion spec)

def deleteHTTPRoute (key : NamespacedName) : Program (Except ApiError Unit) :=
  Prog.perform (Op.deleteHTTPRoute key)

/-- The error of a deletion, where an absent object is no error. -/
def ignoreNotFound : Except ApiError Unit → Option ApiError
  | .ok _ => none
  | .error e => if e.isNotFound then none else some e

@[simp] theorem isNotFound_notFound (resource name : String) :
    (notFound resource name).isNotFound = true := rfl

@[simp] theorem isNotFound_fault (msg : String) : (ApiError.fault msg).isNotFound = false := rfl

variable {adm : Admission} {s : Cluster} {α : Type} {Q : α → Cluster → Prop}

/-- The rule for every `Get`: the stored object, its absence, or a failed call. -/
theorem ensures_get {op : Op} {resource name : String} {x : Option (Res op)}
    {f : Except ApiError (Res op) → Program α} (h : exec adm op s = (found resource name x, s)) :
    (Prog.perform op >>= f).Ensures (exec adm) Q s ↔
      ((∀ b, x = some b → (f (.ok b)).Ensures (exec adm) Q s) ∧
        (x = none → (f (.error (notFound resource name))).Ensures (exec adm) Q s)) ∧
      ∀ msg, (f (.error (.fault msg))).Ensures (exec adm) Q s := by
  refine Prog.ensures_perform_bind.trans (and_congr_left' ?_)
  rw [h]
  cases x <;> simp [found]

theorem allows_get {op : Op} {resource name : String} {x : Option (Res op)}
    {f : Except ApiError (Res op) → Program α} (h : exec adm op s = (found resource name x, s))
    (hf : (f (found resource name x)).Allows (exec adm) Q s) :
    (Prog.perform op >>= f).Allows (exec adm) Q s :=
  Prog.allows_ok (by rw [h]; exact hf)

theorem ensures_getGatewayClass {name : String} {f : Except ApiError Unit → Program α} :
    (getGatewayClass name >>= f).Ensures (exec adm) Q s ↔
      ((s.gatewayClasses name = true → (f (.ok ())).Ensures (exec adm) Q s) ∧
        (s.gatewayClasses name = false →
          (f (.error (notFound "gatewayclasses" name))).Ensures (exec adm) Q s)) ∧
      ∀ msg, (f (.error (.fault msg))).Ensures (exec adm) Q s := by
  refine Prog.ensures_perform_bind.trans (and_congr_left' ?_)
  simp only [exec]
  cases s.gatewayClasses name <;> simp

theorem ensures_patchExecutionStatus {key : NamespacedName}
    {conditions : List (Condition ActivationCondition)} {f : Except ApiError Unit → Program α} :
    (patchExecutionStatus key conditions >>= f).Ensures (exec adm) Q s ↔
      ((∀ e, s.executions key = some e → (f (.ok ())).Ensures (exec adm) Q
          (s.setExecution key (some { e with conditions := conditions }))) ∧
        (s.executions key = none →
          (f (.error (notFound "activationtaskexecutions" key.name))).Ensures (exec adm) Q s)) ∧
      ∀ msg, (f (.error (.fault msg))).Ensures (exec adm) Q s := by
  refine Prog.ensures_perform_bind.trans (and_congr_left' ?_)
  simp only [exec]
  cases s.executions key <;> simp

theorem ensures_patchStageFinalizers {key : NamespacedName} {finalizers : List String}
    {f : Except ApiError Unit → Program α} :
    (patchStageFinalizers key finalizers >>= f).Ensures (exec adm) Q s ↔
      (f (patchFinalizers key finalizers s).1).Ensures (exec adm) Q
        (patchFinalizers key finalizers s).2 ∧
      ∀ msg, (f (.error (.fault msg))).Ensures (exec adm) Q s := Iff.rfl

/-- The object the server keeps of a created Gateway. -/
def Gateway.stored (adm : Admission) (s : Cluster) (g : Gateway) : Gateway :=
  { g with addresses := adm.storedAddresses g.addresses, creationTimestamp := s.clock }

theorem ensures_createGateway {g : Gateway} {f : Except ApiError Gateway → Program α} :
    (createGateway g >>= f).Ensures (exec adm) Q s ↔
      ((s.gateways ⟨g.ns, g.name⟩ = none → (f (.ok (g.stored adm s))).Ensures (exec adm) Q
          (s.setGateway ⟨g.ns, g.name⟩ (some (g.stored adm s)))) ∧
        (∀ old, s.gateways ⟨g.ns, g.name⟩ = some old →
          (f (.error (alreadyExists "gateways" g.name))).Ensures (exec adm) Q s)) ∧
      ∀ msg, (f (.error (.fault msg))).Ensures (exec adm) Q s := by
  refine Prog.ensures_perform_bind.trans (and_congr_left' ?_)
  simp only [exec]
  cases s.gateways ⟨g.ns, g.name⟩ <;> simp [Gateway.stored]

theorem ensures_deleteGateway {key : NamespacedName} {f : Except ApiError Unit → Program α} :
    (deleteGateway key >>= f).Ensures (exec adm) Q s ↔
      ((∀ g, s.gateways key = some g → (f (.ok ())).Ensures (exec adm) Q (s.setGateway key none)) ∧
        (s.gateways key = none →
          (f (.error (notFound "gateways" key.name))).Ensures (exec adm) Q s)) ∧
      ∀ msg, (f (.error (.fault msg))).Ensures (exec adm) Q s := by
  refine Prog.ensures_perform_bind.trans (and_congr_left' ?_)
  simp only [exec]
  cases s.gateways key <;> simp

theorem ensures_createHTTPRoute {key : NamespacedName} {spec : HTTPRouteSpec}
    {f : Except ApiError Unit → Program α} :
    (createHTTPRoute key spec >>= f).Ensures (exec adm) Q s ↔
      ((s.httpRoutes key = none → (f (.ok ())).Ensures (exec adm) Q (s.writeRoute key spec)) ∧
        (∀ old, s.httpRoutes key = some old →
          (f (.error (alreadyExists "httproutes" key.name))).Ensures (exec adm) Q s)) ∧
      ∀ msg, (f (.error (.fault msg))).Ensures (exec adm) Q s := by
  refine Prog.ensures_perform_bind.trans (and_congr_left' ?_)
  simp only [exec]
  cases s.httpRoutes key <;> simp

theorem ensures_updateHTTPRoute {key : NamespacedName} {version : ℕ} {spec : HTTPRouteSpec}
    {f : Except ApiError Unit → Program α} :
    (updateHTTPRoute key version spec >>= f).Ensures (exec adm) Q s ↔
      ((∀ old, s.httpRoutes key = some old → old.resourceVersion = version →
          (f (.ok ())).Ensures (exec adm) Q (s.writeRoute key spec)) ∧
        (∀ old, s.httpRoutes key = some old → old.resourceVersion ≠ version →
          (f (.error (.fault "the object has been modified"))).Ensures (exec adm) Q s) ∧
        (s.httpRoutes key = none →
          (f (.error (notFound "httproutes" key.name))).Ensures (exec adm) Q s)) ∧
      ∀ msg, (f (.error (.fault msg))).Ensures (exec adm) Q s := by
  refine Prog.ensures_perform_bind.trans (and_congr_left' ?_)
  simp only [exec]
  cases s.httpRoutes key with
  | none => simp
  | some old => by_cases h : old.resourceVersion = version <;> simp [h]

theorem ensures_deleteHTTPRoute {key : NamespacedName} {f : Except ApiError Unit → Program α} :
    (deleteHTTPRoute key >>= f).Ensures (exec adm) Q s ↔
      ((∀ old, s.httpRoutes key = some old →
          (f (.ok ())).Ensures (exec adm) Q (s.removeRoute key)) ∧
        (s.httpRoutes key = none →
          (f (.error (notFound "httproutes" key.name))).Ensures (exec adm) Q s)) ∧
      ∀ msg, (f (.error (.fault msg))).Ensures (exec adm) Q s := by
  refine Prog.ensures_perform_bind.trans (and_congr_left' ?_)
  simp only [exec]
  cases s.httpRoutes key <;> simp

theorem patchFinalizers_cases (key : NamespacedName) (fs : List String) (s : Cluster) :
    (patchFinalizers key fs s).2 = s ∨ ∃ stage, s.stages key = some stage ∧
      (fs = [] ∧ (patchFinalizers key fs s).2 = s.setStage key none ∨
        (patchFinalizers key fs s).2 = s.setStage key (some { stage with finalizers := fs })) := by
  unfold patchFinalizers
  split
  · exact .inl rfl
  · next stage hs =>
    split
    · exact .inl rfl
    · split
      · next h => exact .inr ⟨stage, hs, .inl ⟨h.2, rfl⟩⟩
      · exact .inr ⟨stage, hs, .inr rfl⟩

inductive Effect (adm : Admission) (s : Cluster) : Op → Cluster → Prop
  | same (op : Op) : Effect adm s op s
  | patchExecutionStatus {key : NamespacedName} {e : ActivationTaskExecution}
      (conditions : List (Condition ActivationCondition)) (he : s.executions key = some e) :
      Effect adm s (.patchExecutionStatus key conditions)
        (s.setExecution key (some { e with conditions := conditions }))
  | removeStage {key : NamespacedName} {stage : Stage} (hs : s.stages key = some stage) :
      Effect adm s (.patchStageFinalizers key []) (s.setStage key none)
  | setFinalizers {key : NamespacedName} {stage : Stage} (finalizers : List String)
      (hs : s.stages key = some stage) :
      Effect adm s (.patchStageFinalizers key finalizers)
        (s.setStage key (some { stage with finalizers := finalizers }))
  | createGateway (g : Gateway) (hno : s.gateways ⟨g.ns, g.name⟩ = none) :
      Effect adm s (.createGateway g) (s.setGateway ⟨g.ns, g.name⟩ (some (g.stored adm s)))
  | deleteGateway (key : NamespacedName) :
      Effect adm s (.deleteGateway key) (s.setGateway key none)
  | createHTTPRoute (key : NamespacedName) (spec : HTTPRouteSpec) :
      Effect adm s (.createHTTPRoute key spec) (s.writeRoute key spec)
  | updateHTTPRoute {key : NamespacedName} {route : HTTPRoute} (version : ℕ) (spec : HTTPRouteSpec)
      (hr : s.httpRoutes key = some route) :
      Effect adm s (.updateHTTPRoute key version spec) (s.writeRoute key spec)
  | deleteHTTPRoute (key : NamespacedName) :
      Effect adm s (.deleteHTTPRoute key) (s.removeRoute key)

theorem exec_effect (adm : Admission) (op : Op) (s : Cluster) :
    Effect adm s op (exec adm op s).2 := by
  cases op with
  | patchExecutionStatus key conditions =>
    simp only [exec]
    split
    · exact .same _
    · next e he => exact .patchExecutionStatus conditions he
  | patchStageFinalizers key finalizers =>
    simp only [exec]
    obtain heq | ⟨stage, hs, ⟨rfl, heq⟩ | heq⟩ := patchFinalizers_cases key finalizers s
    · rw [heq]
      exact .same _
    · rw [heq]
      exact .removeStage hs
    · rw [heq]
      exact .setFinalizers finalizers hs
  | createGateway g =>
    simp only [exec]
    split
    · exact .same _
    · next hno => exact .createGateway g hno
  | deleteGateway key =>
    simp only [exec]
    split
    · exact .same _
    · exact .deleteGateway key
  | createHTTPRoute key spec =>
    simp only [exec]
    split
    · exact .same _
    · exact .createHTTPRoute key spec
  | updateHTTPRoute key version spec =>
    simp only [exec]
    split
    · exact .same _
    · next route hr =>
      split
      · exact .updateHTTPRoute version spec hr
      · exact .same _
  | deleteHTTPRoute key =>
    simp only [exec]
    split
    · exact .same _
    · exact .deleteHTTPRoute key
  | _ => exact .same _

end LandscapeOrchestrator.ActivationExecution
