import LandscapeOrchestrator.ActivationExecution.RouteRules
import Mathlib.Data.List.Perm.Basic

/-!
# What the rules route

The rules of a stage route are compared with the results they are made of: each
exposed result has one rule, in the order of the names. Names are unique within a
component only. Two components that expose a result of one name get two rules for the
same requests, in an order that depends on the iteration over the components.

## Main definitions

- `Unroutable`, `isExposed` — what a result asks for, apart from the loop
- `RuleFor` — the rule that belongs to an exposed result
- `SeparateNames` — no two components expose a result of one name

## Main results

- `buildRouteRules_exact` — one rule for each exposed result, or an error
- `routing_unambiguous_iff` — when no two rules match one request
-/

namespace LandscapeOrchestrator.ActivationExecution
open Apilib

/-- The first port of the name that is to be exposed. -/
def exposedPort (spec : ServiceSpec) : Option ServicePort :=
  spec.servicePorts.find? fun p => p.name = spec.ingressExposedPortName

def VectorDeployment.results (vd : VectorDeployment) : List DeploymentResult :=
  vd.deploymentResults.flatMap (·.2)

section Results

variable (unmarshal : String → Except String ServiceSpec)

/-- A result that cannot be decoded, or that names a port which is missing or not TCP. -/
def Unroutable (r : DeploymentResult) : Prop :=
  r.type = typeHTTPK8sService ∧ ((∃ cause, unmarshal r.raw = .error cause) ∨
    ∃ spec, unmarshal r.raw = .ok spec ∧ spec.ingressExposedPortName ≠ "" ∧
      ∀ port, exposedPort spec = some port → port.protocol ≠ .tcp)

/-- A result that names a port to expose. -/
def isExposed (r : DeploymentResult) : Bool :=
  r.type = typeHTTPK8sService && match unmarshal r.raw with
    | .error _ => false
    | .ok spec => spec.ingressExposedPortName ≠ ""

/-- The rule of a result: one match on the two headers, one backend, and a filter that
sets the routing key and removes the headers of the match. -/
def RuleFor (stage vectorDeployment : String) (r : DeploymentResult) (rule : HTTPRouteRule) : Prop :=
  ∃ spec port, unmarshal r.raw = .ok spec ∧ exposedPort spec = some port ∧
    rule.matches = [⟨[⟨headerStage, stage⟩, ⟨headerService, r.name⟩]⟩] ∧
    rule.backendRefs = [⟨spec.k8sName, some port.port⟩] ∧
    rule.filters = [{
      set := [⟨headerRoutingKey, vectorDeployment⟩]
      remove := [headerStage, headerService] }]

end Results

variable {unmarshal : String → Except String ServiceSpec} {r : DeploymentResult} {t : RouteTarget}
  {rt rt' : Runtime} {stage : String} {vd : VectorDeployment} {rules : List HTTPRouteRule}

/-- Every exit of the loop body. -/
inductive TargetOutcome (unmarshal : String → Except String ServiceSpec) (r : DeploymentResult) :
    Except ReconcileError (Option RouteTarget) → Prop
  | failed (e : ReconcileError) (h : Unroutable unmarshal r) : TargetOutcome unmarshal r (.error e)
  | skipped (h : isExposed unmarshal r = false) (hr : ¬ Unroutable unmarshal r) :
      TargetOutcome unmarshal r (.ok none)
  | routed {spec : ServiceSpec} {port : ServicePort} (h : isExposed unmarshal r = true)
      (hr : ¬ Unroutable unmarshal r) (hs : unmarshal r.raw = .ok spec)
      (hp : exposedPort spec = some port) :
      TargetOutcome unmarshal r (.ok (some ⟨r.name, spec.k8sName, port.port⟩))

theorem routeTarget_outcome (unmarshal : String → Except String ServiceSpec) (r : DeploymentResult) :
    TargetOutcome unmarshal r (routeTarget unmarshal r) := by
  unfold routeTarget
  split
  · next htype =>
    exact .skipped (by simp [isExposed, htype]) fun h => htype h.1
  · next htype =>
    have htype : r.type = typeHTTPK8sService := not_not.mp htype
    split
    · next cause hspec => exact .failed _ ⟨htype, .inl ⟨cause, hspec⟩⟩
    · next spec hspec =>
      have hdecoded : Unroutable unmarshal r ↔ spec.ingressExposedPortName ≠ "" ∧
          ∀ port, exposedPort spec = some port → port.protocol ≠ .tcp := by
        simp [Unroutable, htype, hspec]
      split
      · next hname =>
        exact .skipped (by simp [isExposed, hspec, hname]) fun h => (hdecoded.mp h).1 hname
      · next hname =>
        split
        · next hnone =>
          refine .failed _ (hdecoded.mpr ⟨hname, fun port hport => ?_⟩)
          cases hnone.symm.trans hport
        · next port hport =>
          split
          · next hproto =>
            refine .failed _ (hdecoded.mpr ⟨hname, fun port' hport' => ?_⟩)
            obtain rfl := Option.some.inj (hport.symm.trans hport')
            exact hproto
          · next hproto =>
            exact .routed (by simp [isExposed, htype, hspec, hname])
              (fun h => (hdecoded.mp h).2 port hport (not_not.mp hproto)) hspec hport

theorem routeTarget_ok_iff : (∃ o, routeTarget unmarshal r = .ok o) ↔ ¬ Unroutable unmarshal r := by
  have h := routeTarget_outcome unmarshal r
  generalize routeTarget unmarshal r = o at h
  cases h with
  | failed e h => simp [h]
  | skipped _ hr => simp [hr]
  | routed _ hr => simp [hr]

/-- The target that belongs to an exposed result. -/
def TargetFor (unmarshal : String → Except String ServiceSpec) (r : DeploymentResult)
    (t : RouteTarget) : Prop :=
  ∃ spec port, unmarshal r.raw = .ok spec ∧ exposedPort spec = some port ∧
    t = ⟨r.name, spec.k8sName, port.port⟩

theorem TargetFor.rule (h : TargetFor unmarshal r t) (stage vectorDeployment : String) :
    RuleFor unmarshal stage vectorDeployment r (routeRule stage vectorDeployment t) := by
  obtain ⟨spec, port, hs, hp, rfl⟩ := h
  exact ⟨spec, port, hs, hp, rfl, rfl, rfl⟩

/-- Where every result is accepted, the targets belong to the exposed results. -/
theorem targets_correspond {results : List DeploymentResult}
    (h : ∀ r ∈ results, ¬ Unroutable unmarshal r) :
    List.Forall₂ (TargetFor unmarshal) (results.filter (isExposed unmarshal))
      (results.filterMap (acceptedTarget unmarshal)) := by
  induction results with
  | nil => exact .nil
  | cons r rs ih =>
    obtain ⟨hr, hrs⟩ := List.forall_mem_cons.mp h
    have hout := routeTarget_outcome unmarshal r
    generalize ho : routeTarget unmarshal r = o at hout
    cases hout with
    | failed e hbad => exact absurd hbad hr
    | skipped hex =>
      have hnone : acceptedTarget unmarshal r = none := by simp [acceptedTarget, ho, Except.toOption]
      simpa [hex, hnone] using ih hrs
    | @routed spec port hex _ hs hp =>
      have hsome : acceptedTarget unmarshal r = some ⟨r.name, spec.k8sName, port.port⟩ := by
        simp [acceptedTarget, ho, Except.toOption]
      rw [List.filter_cons_of_pos hex, List.filterMap_cons_some hsome]
      exact .cons ⟨spec, port, hs, hp, rfl⟩ (ih hrs)

/-- The targets in the order in which the map is ranged over. -/
def rangedTargets (rt : Runtime) (vd : VectorDeployment) : List RouteTarget :=
  ((rt.order.range vd.deploymentResults).flatMap (·.2)).filterMap
    (acceptedTarget rt.unmarshalServiceSpec)

theorem rangedResults_perm (rt : Runtime) (vd : VectorDeployment) :
    ((rt.order.range vd.deploymentResults).flatMap (·.2)).Perm vd.results :=
  (rt.order.perm _).flatMap_right _

theorem buildRouteRules_eq_ok :
    buildRouteRules rt stage vd = .ok rules ↔
      (∀ r ∈ vd.results, ¬ Unroutable rt.unmarshalServiceSpec r) ∧
        rules = (rt.sort.sort (rangedTargets rt vd)).map (routeRule stage vd.name) := by
  have hall : (∀ r ∈ (rt.order.range vd.deploymentResults).flatMap (·.2),
      ∃ o, routeTarget rt.unmarshalServiceSpec r = .ok o) ↔
        ∀ r ∈ vd.results, ¬ Unroutable rt.unmarshalServiceSpec r := by
    simp only [routeTarget_ok_iff, (rangedResults_perm rt vd).mem_iff]
  unfold buildRouteRules
  split
  · next e he =>
    refine iff_of_false (by simp) fun h => ?_
    rw [routeTargets_eq_ok.mpr ⟨hall.mpr h.1, rfl⟩] at he
    cases he
  · next targets ht =>
    obtain ⟨hok, rfl⟩ := routeTargets_eq_ok.mp ht
    simp only [Except.ok.injEq, rangedTargets]
    exact ⟨fun h => ⟨hall.mp hok, h.symm⟩, fun h => h.2.symm⟩

/-- The exposed results in the order of the rules. -/
theorem sorted_correspond (rt : Runtime)
    (h : ∀ r ∈ vd.results, ¬ Unroutable rt.unmarshalServiceSpec r) :
    ∃ routed : List DeploymentResult,
      routed.Perm (vd.results.filter (isExposed rt.unmarshalServiceSpec)) ∧
      List.Forall₂ (TargetFor rt.unmarshalServiceSpec) routed
        (rt.sort.sort (rangedTargets rt vd)) := by
  have hranged := targets_correspond fun r hr => h r ((rangedResults_perm rt vd).mem_iff.mp hr)
  obtain ⟨routed, hrouted, hperm⟩ := List.perm_comp_forall₂ (rt.sort.perm _) hranged.flip
  exact ⟨routed, hperm.trans ((rangedResults_perm rt vd).filter _), hrouted.flip⟩

theorem names_eq {routed : List DeploymentResult} {targets : List RouteTarget}
    (h : List.Forall₂ (TargetFor unmarshal) routed targets) :
    routed.map (·.name) = targets.map (·.name) := by
  induction h with
  | nil => rfl
  | cons h _ ih =>
    obtain ⟨_, _, _, _, rfl⟩ := h
    simp [ih]

theorem sorted_names (rt : Runtime) (targets : List RouteTarget) :
    ((rt.sort.sort targets).map (·.name)).Pairwise (· ≤ ·) := by
  rw [List.pairwise_map]
  exact (rt.sort.sorted targets).imp fun h => not_lt.mp (by simpa [RouteTarget.less] using h)

/-- The rules are built exactly when no result is unroutable. They are then in
correspondence with the exposed results, sorted by name, each counted as often as it
occurs. -/
theorem buildRouteRules_exact (rt : Runtime) (stage : String) (vd : VectorDeployment) :
    ((∃ e, buildRouteRules rt stage vd = .error e) ↔
        ∃ r ∈ vd.results, Unroutable rt.unmarshalServiceSpec r) ∧
      ∀ rules, buildRouteRules rt stage vd = .ok rules →
        ∃ routed : List DeploymentResult,
          routed.Perm (vd.results.filter (isExposed rt.unmarshalServiceSpec)) ∧
          (routed.map (·.name)).Pairwise (· ≤ ·) ∧
          List.Forall₂ (RuleFor rt.unmarshalServiceSpec stage vd.name) routed rules := by
  constructor
  · by_cases h : ∀ r ∈ vd.results, ¬ Unroutable rt.unmarshalServiceSpec r
    · rw [buildRouteRules_eq_ok.mpr ⟨h, rfl⟩]
      refine iff_of_false (by simp) ?_
      rintro ⟨r, hr, hbad⟩
      exact h r hr hbad
    · cases hb : buildRouteRules rt stage vd with
      | error e => exact iff_of_true ⟨e, rfl⟩ (by simpa using h)
      | ok rules => exact absurd (buildRouteRules_eq_ok.mp hb).1 h
  · intro rules hb
    obtain ⟨hok, rfl⟩ := buildRouteRules_eq_ok.mp hb
    obtain ⟨routed, hperm, hrouted⟩ := sorted_correspond rt hok
    refine ⟨routed, hperm, ?_, ?_⟩
    · rw [names_eq hrouted]
      exact sorted_names rt _
    · rw [List.forall₂_map_right_iff]
      exact hrouted.imp fun r t h => h.rule stage vd.name

/-- A decoder for which the text of a result is the name of its Service. -/
def namedRuntime (order : Golib.RangeOrder (String × List DeploymentResult)) : Runtime where
  unmarshalServiceSpec raw := .ok ⟨"landscape", raw, [⟨"http", .tcp, 80⟩], "http"⟩
  order := order
  sort := .byKey RouteTarget.name

/-- Two components, each with one exposed result. -/
def twoComponents (name name' : String) : VectorDeployment where
  name := "vd"
  deploymentResults := [("shop", [⟨name, typeHTTPK8sService, "shop-api"⟩]),
    ("cart", [⟨name', typeHTTPK8sService, "cart-api"⟩])]

/-- The rules of the two, in this order. -/
def twoRules (name service name' service' : String) : List HTTPRouteRule :=
  [⟨name, service, 80⟩, ⟨name', service', 80⟩].map (routeRule "prod" "vd")

theorem shop_and_cart_exact : ∃ routed : List DeploymentResult,
    routed.Perm ((twoComponents "shop" "cart").results.filter
      (isExposed (namedRuntime .insertion).unmarshalServiceSpec)) ∧
    (routed.map (·.name)).Pairwise (· ≤ ·) ∧
    List.Forall₂ (RuleFor (namedRuntime .insertion).unmarshalServiceSpec "prod" "vd") routed
      (twoRules "cart" "cart-api" "shop" "shop-api") :=
  (buildRouteRules_exact (namedRuntime .insertion) "prod" (twoComponents "shop" "cart")).2 _
    (by decide +kernel)

section Requests

/-- The headers of a request that asks for a service of a stage. -/
def requestHeaders (stage service : String) (name : String) : Option String :=
  if name = headerStage then some stage
  else if name = headerService then some service
  else none

/-- A rule matches when all headers of one of its matches are as required. -/
def HTTPRouteRule.accepts (rule : HTTPRouteRule) (headers : String → Option String) : Bool :=
  rule.matches.any fun m => m.headers.all fun h => headers h.name = some h.value

/-- No two rules match the same stage and service. -/
def Unambiguous (rules : List HTTPRouteRule) : Prop :=
  rules.Pairwise fun a b => ∀ stage service,
    ¬ (a.accepts (requestHeaders stage service) = true ∧
      b.accepts (requestHeaders stage service) = true)

/-- Results are unique by name and type within each component. -/
def UniqueInComponents (vd : VectorDeployment) : Prop :=
  ∀ component ∈ vd.deploymentResults, (component.2.map fun r => (r.name, r.type)).Nodup

/-- No two components expose a result of one name. -/
def SeparateNames (unmarshal : String → Except String ServiceSpec) (vd : VectorDeployment) : Prop :=
  vd.deploymentResults.Pairwise fun a b =>
    ∀ r ∈ a.2, ∀ r' ∈ b.2, isExposed unmarshal r = true → isExposed unmarshal r' = true →
      r.name ≠ r'.name

theorem accepts_routeRule {vectorDeployment stage' service : String} :
    (routeRule stage vectorDeployment t).accepts (requestHeaders stage' service) = true ↔
      stage' = stage ∧ service = t.name := by
  have hne : headerService ≠ headerStage := by decide
  simp [HTTPRouteRule.accepts, routeRule, requestHeaders, hne]

theorem unambiguous_iff {targets : List RouteTarget} {vectorDeployment : String} :
    Unambiguous (targets.map (routeRule stage vectorDeployment)) ↔ (targets.map (·.name)).Nodup := by
  rw [Unambiguous, List.pairwise_map, List.Nodup, List.pairwise_map]
  refine List.Pairwise.iff fun a b => ?_
  simp only [accepts_routeRule]
  constructor
  · intro h hname
    exact h stage a.name ⟨⟨rfl, rfl⟩, rfl, hname⟩
  · rintro h stage' service ⟨⟨-, ha⟩, -, hb⟩
    exact h (ha.symm.trans hb)

/-- The names of the exposed results are unique when they are across components. -/
theorem exposedNames_nodup_iff (h : UniqueInComponents vd) :
    ((vd.results.filter (isExposed unmarshal)).map (·.name)).Nodup ↔ SeparateNames unmarshal vd := by
  have hcomponent : ∀ component ∈ vd.deploymentResults,
      ((component.2.filter (isExposed unmarshal)).map (·.name)).Nodup := by
    intro component hc
    have hsub : ((component.2.filter (isExposed unmarshal)).map fun r => (r.name, r.type)).Nodup :=
      (h component hc).sublist (List.filter_sublist.map _)
    -- exposed results are all of one type
    rw [List.Nodup, List.pairwise_map] at hsub ⊢
    refine hsub.imp_of_mem fun ha hb hne hname => hne ?_
    have htype : ∀ r ∈ component.2.filter (isExposed unmarshal), r.type = typeHTTPK8sService := by
      intro r hr
      have := (List.mem_filter.mp hr).2
      simp only [isExposed, Bool.and_eq_true, decide_eq_true_eq] at this
      exact this.1
    rw [hname, htype _ ha, htype _ hb]
  have hnames : (vd.results.filter (isExposed unmarshal)).map (·.name) =
      vd.deploymentResults.flatMap fun c => (c.2.filter (isExposed unmarshal)).map (·.name) := by
    rw [VectorDeployment.results, List.filter_flatMap, List.map_flatMap]
  rw [hnames, List.nodup_flatMap, SeparateNames]
  refine ⟨fun h => h.2.imp ?_, fun h => ⟨hcomponent, h.imp ?_⟩⟩
  · intro a b hdisjoint r hr r' hr' hex hex' hname
    exact hdisjoint (List.mem_map_of_mem (List.mem_filter.mpr ⟨hr, hex⟩))
      (hname ▸ List.mem_map_of_mem (List.mem_filter.mpr ⟨hr', hex'⟩))
  · intro a b hne name hna hnb
    obtain ⟨r, hr, rfl⟩ := List.mem_map.mp hna
    obtain ⟨r', hr', hname⟩ := List.mem_map.mp hnb
    obtain ⟨hr, hex⟩ := List.mem_filter.mp hr
    obtain ⟨hr', hex'⟩ := List.mem_filter.mp hr'
    exact hne r hr r' hr' hex hex' hname.symm

/-- Targets of different names have one sorted order. -/
theorem sort_eq_of_perm {targets targets' : List RouteTarget} (hperm : targets'.Perm targets)
    (hnames : (targets.map (·.name)).Nodup) :
    rt'.sort.sort targets' = rt.sort.sort targets := by
  have hsorted := (rt'.sort.perm targets').trans (hperm.trans (rt.sort.perm targets).symm)
  refine List.Perm.eq_of_pairwise ?_ (List.pairwise_map.mp (sorted_names rt' targets'))
    (List.pairwise_map.mp (sorted_names rt targets)) hsorted
  intro a b ha hb hab hba
  have ha' : a ∈ targets := hperm.mem_iff.mp ((rt'.sort.perm targets').mem_iff.mp ha)
  have hb' : b ∈ targets := (rt.sort.perm targets).mem_iff.mp hb
  exact List.inj_on_of_nodup_map hnames ha' hb' (le_antisymm hab hba)

/-- Where the rules can be built, every iteration order gives the same rules and no
request matches two of them, exactly when no two components expose a result of one
name. -/
theorem routing_unambiguous_iff (rt : Runtime) (stage : String) (vd : VectorDeployment)
    (rules : List HTTPRouteRule) (hunique : UniqueInComponents vd)
    (hok : buildRouteRules rt stage vd = .ok rules) :
    (∀ rt' : Runtime, rt'.unmarshalServiceSpec = rt.unmarshalServiceSpec →
        buildRouteRules rt' stage vd = .ok rules) ∧ Unambiguous rules ↔
      SeparateNames rt.unmarshalServiceSpec vd := by
  obtain ⟨hall, rfl⟩ := buildRouteRules_eq_ok.mp hok
  obtain ⟨routed, hperm, hrouted⟩ := sorted_correspond rt hall
  have hnodup : ((rt.sort.sort (rangedTargets rt vd)).map (·.name)).Nodup ↔
      SeparateNames rt.unmarshalServiceSpec vd := by
    rw [← names_eq hrouted, (hperm.map _).nodup_iff, exposedNames_nodup_iff hunique]
  rw [unambiguous_iff, hnodup, and_iff_right_iff_imp]
  intro hseparate rt' hsame
  refine buildRouteRules_eq_ok.mpr ⟨by rwa [hsame], congrArg _ ?_⟩
  have hranged : (rangedTargets rt' vd).Perm (rangedTargets rt vd) := by
    rw [rangedTargets, rangedTargets, hsame]
    exact ((rangedResults_perm rt' vd).trans (rangedResults_perm rt vd).symm).filterMap _
  refine (sort_eq_of_perm hranged ?_).symm
  exact ((rt.sort.perm _).map _).nodup_iff.mp (hnodup.mpr hseparate)

theorem twoComponents_unique (name name' : String) :
    UniqueInComponents (twoComponents name name') := by
  simp [UniqueInComponents, twoComponents]

theorem shop_and_cart_unambiguous :
    buildRouteRules (namedRuntime .reversed) "prod" (twoComponents "shop" "cart") =
        .ok (twoRules "cart" "cart-api" "shop" "shop-api") ∧
      Unambiguous (twoRules "cart" "cart-api" "shop" "shop-api") := by
  have hok : buildRouteRules (namedRuntime .insertion) "prod" (twoComponents "shop" "cart") =
      .ok (twoRules "cart" "cart-api" "shop" "shop-api") := by decide +kernel
  have hseparate : SeparateNames (namedRuntime .insertion).unmarshalServiceSpec
      (twoComponents "shop" "cart") := by
    simp [SeparateNames, twoComponents]
  obtain ⟨hsame, hclear⟩ := (routing_unambiguous_iff _ _ _ _ (twoComponents_unique _ _) hok).mpr
    hseparate
  exact ⟨hsame _ rfl, hclear⟩

/-- Both components call their result `api`: the rule that comes first depends on the
iteration order, and both match the same requests. -/
theorem shared_name_flips : UniqueInComponents (twoComponents "api" "api") ∧
    ∃ rules rules',
      buildRouteRules (namedRuntime .insertion) "prod" (twoComponents "api" "api") = .ok rules ∧
      buildRouteRules (namedRuntime .reversed) "prod" (twoComponents "api" "api") = .ok rules' ∧
      rules ≠ rules' ∧ ¬ Unambiguous rules := by
  refine ⟨twoComponents_unique _ _, twoRules "api" "shop-api" "api" "cart-api",
    twoRules "api" "cart-api" "api" "shop-api", by decide +kernel, by decide +kernel, by decide, ?_⟩
  rw [twoRules, unambiguous_iff]
  decide

end Requests

end LandscapeOrchestrator.ActivationExecution
