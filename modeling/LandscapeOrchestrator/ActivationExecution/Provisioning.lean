import LandscapeOrchestrator.ActivationExecution.OneOutcome

/-!
# Waiting for the router Gateway

An activation that finds its Gateway pending is polled again. A missing GatewayClass is
waited for until the execution has reached the timeout, and a Gateway until it has reached
the timeout itself. A Gateway is created at most once on the way, so the two waits add up.

## Main definitions

- `polls` — reconciles of one execution at the time of the cluster, with the polls in a row
  that found the Gateway pending
- `Punctual` — polls come in time, and nobody removes or replaces the Gateway
-/

namespace LandscapeOrchestrator.ActivationExecution
open Apilib

/-- When the first and the last poll in a row were made that found the Gateway pending. -/
structure Wait where
  first : Time
  last : Time
  deriving DecidableEq

structure Polled where
  cluster : Cluster
  wait : Option Wait

inductive PollMove where
  | poll (rt : Runtime) (faults : ℕ → Option String)
  | world (s : Cluster)

def asksPoll : Except ReconcileError CtrlResult → Bool
  | .ok result => 0 < result.requeueAfter
  | .error _ => false

/-- One more poll at the time `now`. -/
def Polled.waitAfter (x : Polled) (now : Time) (r : Except ReconcileError CtrlResult) : Option Wait :=
  if asksPoll r then some ⟨(x.wait.map Wait.first).getD now, now⟩ else none

def GatewaysCreated (s : Cluster) : Prop :=
  ∀ key g, s.gateways key = some g → g.creationTimestamp ≤ s.clock

def polls (adm : Admission) (req : NamespacedName) : System Polled PollMove where
  init x := x.wait = none ∧ GatewaysCreated x.cluster
  next x
    | .poll rt faults =>
      let r := (reconcile rt x.cluster.clock req).run (exec adm) faults x.cluster
      some ⟨r.2, x.waitAfter x.cluster.clock r.1⟩
    | .world s => some { x with cluster := s }

/-- The next poll comes `δ` after the last one at most. Others let time pass and may change
everything, but the router Gateway, once there, stays with its age; the execution was
created at `startedAt`. -/
def Punctual (req : NamespacedName) (startedAt δ : Time) (x : Polled) : PollMove → Prop
  | .poll _ _ => (∀ w, x.wait = some w → x.cluster.clock ≤ w.last + δ) ∧
      ∀ ate, x.cluster.executions req = some ate → ate.creationTimestamp = startedAt
  | .world s => x.cluster.clock ≤ s.clock ∧ GatewaysCreated s ∧
      ∀ g, x.cluster.gateways (routerKey req.ns) = some g →
        ∃ g', s.gateways (routerKey req.ns) = some g' ∧ g'.creationTimestamp = g.creationTimestamp

variable {adm : Admission} {rt : Runtime} {now startedAt δ : Time} {req : NamespacedName}
  {s t : Cluster}

/-- What a poll leaves that found the Gateway pending. -/
inductive PendingPoll (ns : String) (startedAt now : Time) (s t : Cluster) : Prop
  | classMissing (h : s.gateways (routerKey ns) = none)
      (hnow : now ≤ startedAt + routerGatewayReadyTimeout)
  | created {g : Gateway} (h : s.gateways (routerKey ns) = none)
      (hg : t.gateways (routerKey ns) = some g) (htime : g.creationTimestamp = s.clock)
  | evaluated {g : Gateway} (h : s.gateways (routerKey ns) = some g)
      (hg : t.gateways (routerKey ns) = some g)
      (hnow : now ≤ g.creationTimestamp + routerGatewayReadyTimeout)

theorem evaluateRouterGateway_pending {g : Gateway}
    (h : (evaluateRouterGateway g now).phase = .pending) :
    now ≤ g.creationTimestamp + routerGatewayReadyTimeout := by
  unfold evaluateRouterGateway at h
  split at h
  · cases h
  · split at h
    · cases h
    · split at h
      · cases h
      · split at h
        · cases h
        · split at h
          · cases h
          · next hnow => exact Nat.sub_le_iff_le_add'.mp (Nat.le_of_not_gt hnow)

theorem missingGatewayClassState_pending {className : String}
    (h : (missingGatewayClassState className startedAt now).phase = .pending) :
    now ≤ startedAt + routerGatewayReadyTimeout := by
  unfold missingGatewayClassState at h
  dsimp only at h
  split at h
  · cases h
  · next hnow => exact Nat.sub_le_iff_le_add'.mp (Nat.le_of_not_gt hnow)

theorem evaluateRouterGateway_exposed {g : Gateway}
    (h : (evaluateRouterGateway g now).exposed = true) :
    (evaluateRouterGateway g now).phase ≠ .pending := by
  obtain ⟨r, m, he⟩ | ⟨r, m, he⟩ | ⟨r, m, he⟩ | ⟨he, -⟩ := evaluateRouterGateway_cases g now
  · simp [he, exposedState, failedState]
  · simp [he, failedState]
  · simp [he, pendingState] at h
  · simp [he, readyState]

theorem RouterOutcome.pendingPoll {ns className : String} {state : RouterGatewayState}
    (h : RouterOutcome adm ns className startedAt now s (.ok state) t)
    (hp : state.phase = .pending) : PendingPoll ns startedAt now s t := by
  cases h with
  | admin hg hadmin => cases hp
  | evaluated hg hprov he => exact .evaluated hg hg (evaluateRouterGateway_pending hp)
  | removed hg hprov he ht => exact absurd hp (evaluateRouterGateway_exposed he)
  | classMissing hg hc => exact .classMissing hg (missingGatewayClassState_pending hp)
  | created hg hc hr => exact .created hg (Function.update_self ..) rfl
  | pruned hg hc hr =>
    exact absurd hp (evaluateRouterGateway_exposed (evaluateRouterGateway_pruned now hr))

/-- The Gateways decide about a poll; Stages and executions do not. -/
theorem PendingPoll.congr {ns : String} {s' t' : Cluster} (h : PendingPoll ns startedAt now s t)
    (hs : s'.gateways = s.gateways) (ht : t'.gateways = t.gateways) (hclock : s'.clock = s.clock) :
    PendingPoll ns startedAt now s' t' := by
  cases h with
  | classMissing hnone hnow => exact .classMissing (by rw [hs, hnone]) hnow
  | created hnone hg htime => exact .created (by rw [hs, hnone]) (by rw [ht, hg]) (by rw [hclock, htime])
  | evaluated hg hg' hnow => exact .evaluated (by rw [hs, hg]) (by rw [ht, hg']) hnow

theorem ActivationOutcome.pendingPoll {ate : ActivationTaskExecution} {ns : String}
    {r : Except ReconcileError CtrlResult × ActivationTaskExecution}
    (h : ActivationOutcome adm rt now ns ate s r t) (hp : asksPoll r.1 = true) :
    PendingPoll ns ate.creationTimestamp now s t := by
  cases h with
  | @reported va config vd rules t u state due hne hf hprov hr hstate =>
    have hpending : state.phase = .pending := by
      by_contra hnot
      simp [reportRouterGateway, hnot, asksPoll] at hp
    have hclock : s.clock = t.clock := by cases hf <;> rfl
    exact (hr.pendingPoll hpending).congr hf.frame.2.symm rfl hclock
  | _ => cases hp

theorem ReconcileOutcome.pendingPoll {r : Except ReconcileError CtrlResult}
    (h : ReconcileOutcome adm rt now req s r t) (hp : asksPoll r = true) :
    ∃ ate, s.executions req = some ate ∧ PendingPoll req.ns ate.creationTimestamp now s t := by
  cases h with
  | absent he => cases hp
  | unread c => cases hp
  | unmarked he h hsame => exact ⟨_, he, h.pendingPoll hp⟩
  | marked he h hnew => exact ⟨_, he, (h.pendingPoll hp).congr rfl rfl rfl⟩
  | unpatched e he h hnew => cases hp

/-- No call moves the clock, and a new Gateway carries its time. -/
theorem exec_gatewaysCreated (adm : Admission) (op : Op) (h : GatewaysCreated s) :
    GatewaysCreated (exec adm op s).2 ∧ (exec adm op s).2.clock = s.clock := by
  have heffect := exec_effect adm op s
  generalize (exec adm op s).2 = t at heffect
  have hset {key : NamespacedName} {o : Option Gateway}
      (ho : ∀ g, o = some g → g.creationTimestamp ≤ s.clock) :
      GatewaysCreated (s.setGateway key o) := by
    intro key' g hg
    by_cases hk : key' = key
    · subst hk
      exact ho g (by simpa using hg)
    · exact h key' g (by simpa [Function.update_of_ne hk] using hg)
  cases heffect with
  | createGateway g hno => exact ⟨hset fun g' hg' => Option.some.inj hg' ▸ Nat.le_refl _, rfl⟩
  | deleteGateway key => exact ⟨hset (by simp), rfl⟩
  | _ => exact ⟨h, rfl⟩

theorem run_gatewaysCreated (adm : Admission) {α : Type} (p : Program α) (faults : ℕ → Option String)
    (h : GatewaysCreated s) : GatewaysCreated (p.run (exec adm) faults s).2 ∧
      (p.run (exec adm) faults s).2.clock = s.clock := by
  induction p generalizing s faults with
  | ret a => exact ⟨h, rfl⟩
  | call op k ih =>
    simp only [Prog.run]
    split
    · exact ih _ _ h
    · obtain ⟨hcreated, hclock⟩ := exec_gatewaysCreated adm op h
      obtain ⟨hcreated', hclock'⟩ := ih _ (fun n => faults (n + 1)) hcreated
      exact ⟨hcreated', hclock'.trans hclock⟩

/-- Until when the class can be waited for: the timeout of the execution, or the first
poll if that came later. -/
def Wait.begun (startedAt : Time) (w : Wait) : Time :=
  max w.first (startedAt + routerGatewayReadyTimeout)

/-- The last poll found no Gateway in time, or there is a Gateway that was created in time
and has not reached the timeout at the last poll. -/
inductive Waiting (ns : String) (startedAt δ : Time) (s : Cluster) (w : Wait) : Prop
  | forClass (h : w.last ≤ w.begun startedAt)
  | forGateway {g : Gateway} (hg : s.gateways (routerKey ns) = some g)
      (hcreated : g.creationTimestamp ≤ w.begun startedAt + δ)
      (hlast : w.last ≤ g.creationTimestamp + routerGatewayReadyTimeout)

structure WaitInvariant (ns : String) (startedAt δ : Time) (x : Polled) : Prop where
  created : GatewaysCreated x.cluster
  waiting : ∀ w, x.wait = some w → w.last ≤ x.cluster.clock ∧ Waiting ns startedAt δ x.cluster w

/-- A poll that finds the Gateway pending, after polls that did. -/
theorem Waiting.poll {w : Wait} {ns : String} (h : Waiting ns startedAt δ s w)
    (hcreated : GatewaysCreated s) (hpunctual : s.clock ≤ w.last + δ)
    (hpoll : PendingPoll ns startedAt s.clock s t) :
    Waiting ns startedAt δ t ⟨w.first, s.clock⟩ := by
  have hbegun : (⟨w.first, s.clock⟩ : Wait).begun startedAt = w.begun startedAt := rfl
  have htime : startedAt + routerGatewayReadyTimeout ≤ w.begun startedAt := Nat.le_max_right _ _
  cases hpoll with
  | classMissing hnone hnow => exact .forClass (Nat.le_trans hnow htime)
  | created hnone hg hclock =>
    cases h with
    | forClass hlast =>
      refine .forGateway hg ?_ ?_
      · rw [hbegun, hclock]
        exact Nat.le_trans hpunctual (Nat.add_le_add_right hlast δ)
      · rw [hclock]
        exact Nat.le_add_right _ _
    | forGateway hg' => simp [hnone] at hg'
  | @evaluated g hg hg' hnow =>
    refine .forGateway hg' ?_ hnow
    rw [hbegun]
    cases h with
    | forClass hlast =>
      exact Nat.le_trans (hcreated _ g hg) (Nat.le_trans hpunctual (Nat.add_le_add_right hlast δ))
    | forGateway hold hage =>
      obtain rfl := Option.some.inj (hg.symm.trans hold)
      exact hage

/-- The first poll of a row. -/
theorem Waiting.first {ns : String} (hcreated : GatewaysCreated s)
    (hpoll : PendingPoll ns startedAt s.clock s t) :
    Waiting ns startedAt δ t ⟨s.clock, s.clock⟩ := by
  have hbegun : s.clock ≤ (⟨s.clock, s.clock⟩ : Wait).begun startedAt := Nat.le_max_left _ _
  cases hpoll with
  | classMissing hnone hnow => exact .forClass hbegun
  | created hnone hg hclock =>
    refine .forGateway hg ?_ ?_
    · rw [hclock]
      exact Nat.le_trans hbegun (Nat.le_add_right _ _)
    · rw [hclock]
      exact Nat.le_add_right _ _
  | @evaluated g hg hg' hnow =>
    exact .forGateway hg' (Nat.le_trans (hcreated _ g hg) (Nat.le_trans hbegun (Nat.le_add_right _ _)))
      hnow

/-- Others leave an existing Gateway its age. -/
theorem Waiting.world {w : Wait} {ns : String} (h : Waiting ns startedAt δ s w)
    (hkept : ∀ g, s.gateways (routerKey ns) = some g → ∃ g', t.gateways (routerKey ns) = some g' ∧
      g'.creationTimestamp = g.creationTimestamp) : Waiting ns startedAt δ t w := by
  cases h with
  | forClass hlast => exact .forClass hlast
  | @forGateway g hg hcreated hlast =>
    obtain ⟨g', hg', hage⟩ := hkept g hg
    exact .forGateway hg' (by rwa [hage]) (by rwa [hage])

theorem WaitInvariant.poll {x : Polled} {faults : ℕ → Option String}
    (h : WaitInvariant req.ns startedAt δ x) (hok : Punctual req startedAt δ x (.poll rt faults)) :
    let r := (reconcile rt x.cluster.clock req).run (exec adm) faults x.cluster
    WaitInvariant req.ns startedAt δ ⟨r.2, x.waitAfter x.cluster.clock r.1⟩ := by
  intro r
  obtain ⟨hcreated, hclock⟩ := run_gatewaysCreated adm (reconcile rt x.cluster.clock req) faults h.created
  refine ⟨hcreated, fun w hw => ?_⟩
  simp only [Polled.waitAfter] at hw
  split at hw
  · next hp =>
    obtain rfl := Option.some.inj hw
    have houtcome : ReconcileOutcome adm rt x.cluster.clock req x.cluster r.1 r.2 :=
      Prog.ensures_iff_run.mp (reconcile_outcome rt x.cluster.clock req) faults
    obtain ⟨ate, he, hpoll⟩ := houtcome.pendingPoll hp
    rw [hok.2 ate he] at hpoll
    refine ⟨Nat.le_of_eq hclock.symm, ?_⟩
    cases hwait : x.wait with
    | none => exact .first h.created hpoll
    | some w => exact (h.waiting w hwait).2.poll h.created (hok.1 w hwait) hpoll
  · cases hw

/-- Along every run of punctual polls, the last poll in a row that found the Gateway
pending came at most one interval and one timeout after the time until which the
GatewayClass can be waited for. -/
theorem waiting_bounded (adm : Admission) (req : NamespacedName) (startedAt δ : Time) (x : Polled)
    (h : (polls adm req).Reaches (Punctual req startedAt δ) x) (w : Wait) (hw : x.wait = some w) :
    w.last ≤ max w.first (startedAt + routerGatewayReadyTimeout) + δ + routerGatewayReadyTimeout := by
  have hinv : WaitInvariant req.ns startedAt δ x := by
    refine h.invariant (fun x hx => ⟨hx.2, fun w hw => by simp [hx.1] at hw⟩)
      fun x m y hx hok hn => ?_
    cases m with
    | poll rt faults =>
      obtain rfl := Option.some.inj hn
      exact hx.poll hok
    | world s =>
      obtain rfl := Option.some.inj hn
      obtain ⟨hclock, hcreated, hkept⟩ := hok
      refine ⟨hcreated, fun w hw => ?_⟩
      obtain ⟨hlast, hwaiting⟩ := hx.waiting w hw
      exact ⟨Nat.le_trans hlast hclock, hwaiting.world hkept⟩
  cases (hinv.waiting w hw).2 with
  | forClass hlast => exact Nat.le_trans hlast (Nat.le_trans (Nat.le_add_right _ δ) (Nat.le_add_right _ _))
  | forGateway hg hcreated hlast => exact Nat.le_trans hlast (Nat.add_le_add_right hcreated _)

/-- The execution before its router is created. -/
def beforeRouter : Cluster := besideStandingRouter.setGateway (routerKey "landscape") none

def shopPoll (x : Polled) : Polled :=
  let r := (reconcile shopRuntime x.cluster.clock ⟨"landscape", "e"⟩).run (exec ⟨id⟩) (fun _ => none)
    x.cluster
  ⟨r.2, x.waitAfter x.cluster.clock r.1⟩

def Polled.at (x : Polled) (clock : Time) : Polled :=
  { x with cluster := { x.cluster with clock := clock } }

/-- The router is created at the first poll and still has no address ten seconds later. -/
theorem waiting_bounded_created :
    ∃ x w, (polls ⟨id⟩ ⟨"landscape", "e"⟩).Reaches (Punctual ⟨"landscape", "e"⟩ 1 10) x ∧
      x.wait = some w ∧ w.last = w.first + 10 ∧
      w.last ≤ max w.first (1 + routerGatewayReadyTimeout) + 10 + routerGatewayReadyTimeout := by
  have poll (x : Polled)
      (h : (polls ⟨id⟩ ⟨"landscape", "e"⟩).Reaches (Punctual ⟨"landscape", "e"⟩ 1 10) x)
      (hwait : (x.wait.all fun w => decide (x.cluster.clock ≤ w.last + 10)) = true)
      (hage : ((x.cluster.executions ⟨"landscape", "e"⟩).all
        fun ate => ate.creationTimestamp == 1) = true) :
      (polls ⟨id⟩ ⟨"landscape", "e"⟩).Reaches (Punctual ⟨"landscape", "e"⟩ 1 10) (shopPoll x) := by
    refine h.step (l := .poll shopRuntime fun _ => none) ⟨fun w hw => ?_, fun ate he => ?_⟩ rfl
    · simpa [hw] using hwait
    · simpa [he] using hage
  have pass (x : Polled) (clock : Time)
      (h : (polls ⟨id⟩ ⟨"landscape", "e"⟩).Reaches (Punctual ⟨"landscape", "e"⟩ 1 10) x)
      (hcreated : GatewaysCreated x.cluster) (hle : x.cluster.clock ≤ clock) :
      (polls ⟨id⟩ ⟨"landscape", "e"⟩).Reaches (Punctual ⟨"landscape", "e"⟩ 1 10) (x.at clock) :=
    h.step (l := .world (x.at clock).cluster)
      ⟨hle, fun key g hg => Nat.le_trans (hcreated key g hg) hle, fun g hg => ⟨g, hg, rfl⟩⟩ rfl
  have kept (x : Polled) (h : GatewaysCreated x.cluster) : GatewaysCreated (shopPoll x).cluster :=
    (run_gatewaysCreated ⟨id⟩ _ _ h).1
  have hcreated : GatewaysCreated beforeRouter := by
    intro key g hg
    by_cases hk : key = routerKey "landscape" <;>
      simp [beforeRouter, besideStandingRouter, Cluster.setGateway, freshStage, hk] at hg
  have hfirst := poll ⟨beforeRouter, none⟩ (.init ⟨rfl, hcreated⟩) rfl (by decide +kernel)
  have hlater := pass _ 10 hfirst (kept _ hcreated) (by decide +kernel)
  have hsecond := poll _ hlater (by decide +kernel) (by decide +kernel)
  have hwait : (shopPoll ((shopPoll ⟨beforeRouter, none⟩).at 10)).wait = some ⟨0, 10⟩ := by
    decide +kernel
  exact ⟨_, ⟨0, 10⟩, hsecond, hwait, rfl,
    waiting_bounded ⟨id⟩ ⟨"landscape", "e"⟩ 1 10 _ hsecond ⟨0, 10⟩ hwait⟩

end LandscapeOrchestrator.ActivationExecution
