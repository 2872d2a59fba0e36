import LandscapeOrchestrator.ActivationExecution.Outcomes

/-!
# Exposed Gateways

`ensureRouterGateway` deletes a provisioned router that may be reachable from outside.
The verdict looks at the `Accepted` condition before it looks at the addresses, so a
router that is rejected and still programmed with a public address is left in place.

## Main definitions

- `Gateway.exposed` — what must not be left behind
- `Gateway.rejected` — the condition that hides it

## Main results

- `ensureRouterGateway_removes_exposed_iff` — when nothing exposed is left behind
-/

namespace LandscapeOrchestrator.ActivationExecution
open Apilib

/-- Some assigned address is not cluster-routable. -/
def Gateway.hasPublicAddress (g : Gateway) : Bool :=
  g.statusAddresses.any fun a => a.routability ≠ some .cluster

/-- Programmed, with such an address. -/
def Gateway.reachable (g : Gateway) : Bool :=
  isStatusConditionTrue g.conditions .programmed && g.hasPublicAddress

/-- The routability request is missing, or was not honoured. -/
def Gateway.exposed (g : Gateway) : Bool := !requestsClusterRoutability g || g.reachable

/-- The implementation reports `Accepted=False`. -/
def Gateway.rejected (g : Gateway) : Bool :=
  match findStatusCondition g.conditions .accepted with
  | some c => c.status = .isFalse
  | none => false

variable {adm : Admission} {ns : String} {s : Cluster} {g : Gateway} {now : Time}

theorem Gateway.hasPublicAddress_ne_nil (h : g.hasPublicAddress = true) : g.statusAddresses ≠ [] := by
  intro hnil
  simp [Gateway.hasPublicAddress, hnil] at h

/-- Behind a kept request, assigned addresses are cluster-routable or one of them is not. -/
theorem isClusterRoutable_iff (h : requestsClusterRoutability g = true) :
    isClusterRoutable g = true ↔ g.statusAddresses ≠ [] ∧ g.hasPublicAddress = false := by
  unfold isClusterRoutable
  by_cases hnil : g.statusAddresses = []
  · simp [hnil]
  · have hlen : g.statusAddresses.length ≠ 0 := fun h => hnil (List.length_eq_zero_iff.mp h)
    simp [h, hlen, hnil, Gateway.hasPublicAddress]

/-- The verdict on a rejected Gateway does not look at its addresses. -/
theorem evaluateRouterGateway_of_rejected (now : Time) (hreq : requestsClusterRoutability g = true)
    (hrej : g.rejected = true) : (evaluateRouterGateway g now).exposed = false := by
  unfold Gateway.rejected at hrej
  split at hrej
  · next c hc =>
    obtain ⟨type, status, reason, message, generation, time⟩ := c
    obtain rfl : status = .isFalse := of_decide_eq_true hrej
    simp [evaluateRouterGateway, hreq, hc, failedState]
  · cases hrej

theorem evaluateRouterGateway_of_not_rejected (now : Time)
    (hreq : requestsClusterRoutability g = true) (hrej : g.rejected = false) :
    (evaluateRouterGateway g now).exposed = g.reachable := by
  unfold evaluateRouterGateway
  simp only [hreq, Bool.not_true, Bool.false_eq_true, if_false]
  split
  · next hacc => simp [Gateway.rejected, hacc] at hrej
  · split
    · next hroutable =>
      simp [readyState, Gateway.reachable, ((isClusterRoutable_iff hreq).mp hroutable).2]
    · next hroutable =>
      rw [isClusterRoutable_iff hreq, not_and, Bool.not_eq_false] at hroutable
      split
      · next hprog =>
        simp only [Bool.and_eq_true, decide_eq_true_eq, List.length_pos_iff] at hprog
        simp [exposedState, Gateway.reachable, hprog.1, hroutable hprog.2]
      · next hprog =>
        have hunreachable : g.reachable = false := by
          refine Bool.eq_false_iff.mpr fun hr => hprog ?_
          obtain ⟨hp, hpublic⟩ := Bool.and_eq_true_iff.mp hr
          simpa [hp, List.length_pos_iff] using Gateway.hasPublicAddress_ne_nil hpublic
        rw [hunreachable]
        split <;> rfl

theorem evaluateRouterGateway_exposed_iff (g : Gateway) (now : Time) :
    (evaluateRouterGateway g now).exposed = true ↔
      requestsClusterRoutability g = false ∨ g.rejected = false ∧ g.reachable = true := by
  cases hreq : requestsClusterRoutability g with
  | false => simp [evaluateRouterGateway_pruned now hreq]
  | true =>
    cases hrej : g.rejected with
    | false => simp [evaluateRouterGateway_of_not_rejected now hreq hrej]
    | true => simp [evaluateRouterGateway_of_rejected now hreq hrej]

/-- No provisioned router is exposed. -/
def NoneExposed (ns : String) (s : Cluster) : Prop :=
  ∀ g, s.gateways (routerKey ns) = some g → isProvisioned g = true → g.exposed = false

/-- No provisioned router that asks for cluster routability is rejected and reachable. -/
def NoneHidden (ns : String) (s : Cluster) : Prop :=
  ∀ g, s.gateways (routerKey ns) = some g → isProvisioned g = true →
    requestsClusterRoutability g = true → g.rejected = true → g.reachable = false

/-- A Gateway that was just created has no status. -/
theorem stored_unreachable (adm : Admission) (s : Cluster) (ns className : String) :
    ((newRouterGateway ns className).stored adm s).reachable = false := rfl

theorem RouterOutcome.noneExposed {className : String} {startedAt : Time}
    {state : RouterGatewayState} {t : Cluster}
    (hkey : ∀ g, s.gateways (routerKey ns) = some g → ⟨g.ns, g.name⟩ = routerKey ns)
    (hhidden : NoneHidden ns s) (h : RouterOutcome adm ns className startedAt now s (.ok state) t) :
    NoneExposed ns t := by
  intro g' hg' hp'
  cases h with
  | admin hg hp =>
    obtain rfl := Option.some.inj (hg.symm.trans hg')
    cases hp.symm.trans hp'
  | evaluated hg hp he =>
    obtain rfl := Option.some.inj (hg'.symm.trans hg)
    have hkept := mt (evaluateRouterGateway_exposed_iff g' now).mpr (by simp [he])
    simp only [not_or, Bool.not_eq_false, not_and, Bool.not_eq_true] at hkept
    obtain ⟨hreq, hreach⟩ := hkept
    have hunreachable : g'.reachable = false := by
      cases hrej : g'.rejected with
      | false => exact hreach hrej
      | true => exact hhidden g' hg' hp' hreq hrej
    simp [Gateway.exposed, hreq, hunreachable]
  | removed hg hp he ht =>
    obtain rfl | ⟨hgone, rfl⟩ := ht
    · simp [hkey _ hg] at hg'
    · rw [hkey _ hg, hg] at hgone
      cases hgone
  | classMissing hg => cases hg.symm.trans hg'
  | created hg hc hr =>
    obtain rfl : Gateway.stored adm s _ = g' := by simpa using hg'
    simp [Gateway.exposed, hr, stored_unreachable]
  | pruned hg hc hr => simp at hg'

/-- Whatever calls fail, `ensureRouterGateway` returns without error only when no exposed
router is left, exactly when no stored router is rejected and reachable. -/
theorem ensureRouterGateway_removes_exposed_iff (adm : Admission) (ns className : String)
    (startedAt now : Time) (s : Cluster)
    (hkey : ∀ g, s.gateways (routerKey ns) = some g → ⟨g.ns, g.name⟩ = routerKey ns) :
    (ensureRouterGateway ns className startedAt now).Ensures (exec adm)
        (fun r t => ∀ state, r = .ok state → NoneExposed ns t) s ↔ NoneHidden ns s := by
  constructor
  · intro h g hg hp hreq hrej
    -- the Gateway is read and judged, and nothing is called after that
    have hread := ((ensures_get rfl).mp h).1.1 g hg
    have hkept := evaluateRouterGateway_of_rejected now hreq hrej
    simp only [hp, Bool.not_true, hkept, Bool.false_eq_true, if_false, Prog.pure_eq,
      Prog.ensures_ret] at hread
    have hexposed := hread _ rfl g hg hp
    simp only [Gateway.exposed, Bool.or_eq_false_iff] at hexposed
    exact hexposed.2
  · intro hhidden
    refine (ensureRouterGateway_ensures className startedAt now).mono fun r t hout state hr => ?_
    subst hr
    exact hout.noneExposed hkey hhidden

/-- A programmed router with a public address. -/
def publicRouter (accepted : ConditionStatus) : Gateway :=
  { newRouterGateway "landscape" "mesh" with
    statusAddresses := [⟨"203.0.113.7", none⟩]
    conditions := [⟨.accepted, accepted, .text "Reported", "", 1, none⟩,
      ⟨.programmed, .isTrue, .text "Programmed", "", 1, none⟩] }

def besidePublicRouter (accepted : ConditionStatus) : Cluster :=
  freshStage.setGateway (routerKey "landscape") (some (publicRouter accepted))

theorem besidePublicRouter_router {accepted : ConditionStatus} {g : Gateway}
    (h : (besidePublicRouter accepted).gateways (routerKey "landscape") = some g) :
    publicRouter accepted = g := by
  simpa [besidePublicRouter] using h

theorem public_router_removed :
    (ensureRouterGateway "landscape" "mesh" 0 0).Ensures (exec ⟨id⟩)
      (fun r t => ∀ state, r = .ok state → NoneExposed "landscape" t)
      (besidePublicRouter .isTrue) := by
  refine (ensureRouterGateway_removes_exposed_iff ⟨id⟩ "landscape" "mesh" 0 0 _ fun g hg => ?_).mpr
    fun g hg _ _ hrej => ?_
  · obtain rfl := besidePublicRouter_router hg
    rfl
  · obtain rfl := besidePublicRouter_router hg
    cases hrej

/-- The same router, not accepted by its implementation: it stays. -/
theorem rejected_router_left :
    ∃ state, (ensureRouterGateway "landscape" "mesh" 0 0).run (exec ⟨id⟩) (fun _ => none)
        (besidePublicRouter .isFalse) = (.ok state, besidePublicRouter .isFalse) ∧
      ¬ NoneExposed "landscape" (besidePublicRouter .isFalse) := by
  refine ⟨evaluateRouterGateway (publicRouter .isFalse) 0, rfl, fun h => ?_⟩
  have hexposed := h (publicRouter .isFalse) (by simp [besidePublicRouter]) (by decide)
  exact absurd hexposed (by decide)

end LandscapeOrchestrator.ActivationExecution
