import LandscapeOrchestrator.ActivationExecution.Calls

/-!
# Provisioning the router Gateway

`ensureRouterGateway` and what it decides from the Gateway it finds. Every exit
is listed once, in `RouterOutcome`; results about the router use that list.
-/

namespace LandscapeOrchestrator.ActivationExecution
open Apilib

def second : Time := 1000000000
def routerGatewayReadyTimeout : Time := 5 * 60 * second
def routerGatewayPollInterval : Time := 15 * second

def reasonWaitingForClusterAddress : String := "WaitingForClusterAddress"
def reasonGatewayClassNotFound : String := "GatewayClassNotFound"
def reasonRoutabilityNotPersisted : String := "RoutabilityNotPersisted"
def reasonGatewayNotAccepted : String := "GatewayNotAccepted"
def reasonAddressNotClusterRoutable : String := "AddressNotClusterRoutable"
def reasonGatewayNotReady : String := "GatewayNotReady"

inductive RouterGatewayPhase where
  | pending
  | ready
  | failed
  deriving DecidableEq, Repr

/-- `exposed` marks a provisioned Gateway that may be reachable from outside and
must be deleted. -/
structure RouterGatewayState where
  phase : RouterGatewayPhase
  reason : String
  message : String
  exposed : Bool
  deriving DecidableEq, Repr

def readyState : RouterGatewayState := ⟨.ready, "", "", false⟩
def pendingState (reason message : String) : RouterGatewayState := ⟨.pending, reason, message, false⟩
def failedState (reason message : String) : RouterGatewayState := ⟨.failed, reason, message, false⟩
def exposedState (reason message : String) : RouterGatewayState :=
  { failedState reason message with exposed := true }

def requestsClusterRoutability (g : Gateway) : Bool :=
  g.addresses.all (fun a => a.routability = .cluster) && 0 < g.addresses.length

/-- The implementation honoured the request: every assigned address is cluster-routable. -/
def isClusterRoutable (g : Gateway) : Bool :=
  if !requestsClusterRoutability g || g.statusAddresses.length = 0 then false
  else g.statusAddresses.all fun a => a.routability = some .cluster

def isProvisioned (g : Gateway) : Bool := g.label labelProvisionedBy = provisionedByOrchestrator

def addressValues (addresses : List GatewayStatusAddress) : String :=
  String.intercalate ", " (addresses.map (·.value))

/-- A missing class stays pending first: a cached client may not have seen it yet. -/
def missingGatewayClassState (className : String) (startedAt now : Time) : RouterGatewayState :=
  let message := "GatewayClass " ++ className ++
    " does not exist; set gatewayClassName to an installed class"
  if now - startedAt > routerGatewayReadyTimeout then failedState reasonGatewayClassNotFound message
  else pendingState reasonGatewayClassNotFound message

def reasonText : Reason GatewayCondition → String
  | .text s => s
  | .name (.other s) => s
  | .name .accepted => "Accepted"
  | .name .programmed => "Programmed"

def evaluateRouterGateway (g : Gateway) (now : Time) : RouterGatewayState :=
  let name := g.ns ++ "/" ++ g.name
  if !requestsClusterRoutability g then
    exposedState reasonRoutabilityNotPersisted ("Gateway " ++ name ++
      " lost spec.addresses[].routability; install the Gateway API experimental-channel CRDs v1.7.0 or later")
  else match findStatusCondition g.conditions .accepted with
    | some ⟨_, .isFalse, reason, message, _, _⟩ =>
      failedState reasonGatewayNotAccepted
        ("Gateway " ++ name ++ " was not accepted (" ++ reasonText reason ++ "): " ++ message)
    | _ =>
      if isClusterRoutable g then readyState
      else if isStatusConditionTrue g.conditions .programmed && 0 < g.statusAddresses.length then
        exposedState reasonAddressNotClusterRoutable ("Gateway " ++ name ++
          " is programmed with addresses " ++ addressValues g.statusAddresses ++
          " that are not cluster-routable; GatewayClass " ++ g.gatewayClassName ++
          " does not support GEP-5093")
      else if now - g.creationTimestamp > routerGatewayReadyTimeout then
        failedState reasonGatewayNotReady ("Gateway " ++ name ++
          " has no cluster-routable address after 5m0s; check that a controller serves GatewayClass " ++
          g.gatewayClassName)
      else pendingState reasonWaitingForClusterAddress
        ("waiting for Gateway " ++ name ++ " to report a cluster-routable address")

/-- The four verdicts. -/
theorem evaluateRouterGateway_cases (g : Gateway) (now : Time) :
    (∃ reason message, evaluateRouterGateway g now = exposedState reason message) ∨
      (∃ reason message, evaluateRouterGateway g now = failedState reason message) ∨
      (∃ reason message, evaluateRouterGateway g now = pendingState reason message) ∨
      evaluateRouterGateway g now = readyState ∧ isClusterRoutable g = true := by
  unfold evaluateRouterGateway
  split
  · exact .inl ⟨_, _, rfl⟩
  · split
    · exact .inr (.inl ⟨_, _, rfl⟩)
    · split
      · next hr => exact .inr (.inr (.inr ⟨rfl, hr⟩))
      · split
        · exact .inl ⟨_, _, rfl⟩
        · split
          · exact .inr (.inl ⟨_, _, rfl⟩)
          · exact .inr (.inr (.inl ⟨_, _, rfl⟩))

/-- A Gateway is judged ready only when it is cluster-routable, and is then not
exposed. -/
theorem evaluateRouterGateway_ready {g : Gateway} {now : Time}
    (h : (evaluateRouterGateway g now).phase = .ready) :
    isClusterRoutable g = true ∧ (evaluateRouterGateway g now).exposed = false := by
  obtain ⟨r, m, he⟩ | ⟨r, m, he⟩ | ⟨r, m, he⟩ | ⟨he, hr⟩ := evaluateRouterGateway_cases g now
  · simp [he, exposedState, failedState] at h
  · simp [he, failedState] at h
  · simp [he, pendingState] at h
  · exact ⟨hr, by rw [he]; rfl⟩

theorem evaluateRouterGateway_pruned {g : Gateway} (now : Time)
    (h : requestsClusterRoutability g = false) : (evaluateRouterGateway g now).exposed = true := by
  unfold evaluateRouterGateway
  simp [h, exposedState]

def newRouterGateway (ns className : String) : Gateway where
  ns := ns
  name := defaultGatewayName
  labels := [(labelProvisionedBy, provisionedByOrchestrator)]
  creationTimestamp := 0
  gatewayClassName := className
  addresses := [⟨.cluster⟩]
  listeners := [⟨"http", "HTTP", 80⟩]
  statusAddresses := []
  conditions := []

def createRouterGateway (ns className : String) (startedAt now : Time) :
    Program (Except ReconcileError RouterGatewayState) := do
  match ← getGatewayClass className with
  | .error e =>
    if e.isNotFound then return .ok (missingGatewayClassState className startedAt now)
    else return .error (.getGatewayClass className e)
  | .ok _ =>
  let pending := pendingState reasonWaitingForClusterAddress ("created Gateway " ++ ns ++ "/" ++
    defaultGatewayName ++ ", waiting for a cluster-routable address")
  match ← createGateway (newRouterGateway ns className) with
  | .error e =>
    if e.isAlreadyExists then return .ok pending
    else return .error (.createGateway ns e)
  | .ok gateway =>
  -- the stored object: a pruned routability request shows up here
  if requestsClusterRoutability gateway then return .ok pending
  else match ignoreNotFound (← deleteGateway ⟨gateway.ns, gateway.name⟩) with
    | some e => return .error (.deleteExposedGateway ns e)
    | none => return .ok (evaluateRouterGateway gateway now)

def ensureRouterGateway (ns className : String) (startedAt now : Time) :
    Program (Except ReconcileError RouterGatewayState) := do
  match ← getGateway ⟨ns, defaultGatewayName⟩ with
  | .error e =>
    if e.isNotFound then createRouterGateway ns className startedAt now
    else return .error (.getGateway ns e)
  | .ok gateway =>
  if !isProvisioned gateway then return .ok readyState
  else
  let state := evaluateRouterGateway gateway now
  if state.exposed then
    match ignoreNotFound (← deleteGateway ⟨gateway.ns, gateway.name⟩) with
    | some e => return .error (.deleteExposedGateway ns e)
    | none => return .ok state
  else return .ok state

end LandscapeOrchestrator.ActivationExecution
