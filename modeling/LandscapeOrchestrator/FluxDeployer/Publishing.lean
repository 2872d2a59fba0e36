import LandscapeOrchestrator.ActivationExecution.RouteRules
import LandscapeOrchestrator.FluxDeployer.Services

/-!
# Published results are routable

The status updater checks the exposure contract of a Service before it publishes a
result; the activation checks it again on what it reads back. The two checks agree.

## Main definitions

- `Published` — what the status updater publishes for a list of Services
- `RoutedAs` — the rule that belongs to an exposed Service
- `Routable` — the results of a component can be read as those of its Services

## Main results

- `mutateStatus_ensures` — the status updater publishes for the Services it has listed
- `buildRouteRules_routable` — one rule for each exposed Service of the components
-/

namespace LandscapeOrchestrator.FluxDeployer
open Apilib
open ActivationExecution (RouteTarget routeTarget acceptedTarget routeRule buildRouteRules
  routeTargets_eq_ok HTTPRouteRule headerStage headerService headerRoutingKey)

/-- The JSON form of a `ServiceSpec` is read back unchanged. -/
structure ServiceSpecCodec where
  marshal : ServiceSpec → Except String String
  unmarshal : String → Except String ServiceSpec
  unmarshal_marshal : ∀ spec raw, marshal spec = .ok raw → unmarshal raw = .ok spec

variable {codec : ServiceSpecCodec} {services : List Service} {results : List DeploymentResult}

/-- The status updater publishes `results` for `services`. -/
structure Published (codec : ServiceSpecCodec) (services : List Service)
    (results : List DeploymentResult) : Prop where
  valid : validateExposePorts services = none
  mapped : mapServicesToDeploymentResults codec.marshal services = .ok results

/-- Every exit of `mutateStatus` that returns a status. -/
theorem mutateStatus_ensures (codec : ServiceSpecCodec) (now : ℕ) (d : ArtifactDeployment)
    (s : Cluster) :
    (mutateStatus codec.marshal now d).Ensures exec (fun r _ => ∀ d', r = .ok d' →
      d' = d ∨ (∃ e, d' = setExposureValidationFailure now d e) ∨
        ∃ results, Published codec (s.services.filter (selectedFor d)) results ∧
          d' = publish now d results) s := by
  unfold mutateStatus
  have same : ∀ d', (Except.ok d : Except UpdateError ArtifactDeployment) = .ok d' → d' = d :=
    fun d' h => (Except.ok.inj h).symm
  by_cases hfail : hasExposureValidationFailure d = true
  · simp only [hfail, if_true, Prog.pure_eq, Prog.ensures_ret]
    exact fun d' h => .inl (same d' h)
  by_cases hdep : isStatusConditionTrue d.conditions .artifactDeployed = true
  · simp only [hfail, hdep, Bool.false_eq_true, Bool.not_true, if_false]
    refine (fetchExposableServices_ensures d s).bind fun r t hr => ?_
    cases r with
    | error e => exact fun d' h => by cases h
    | ok services =>
      obtain rfl := hr.2 services rfl
      dsimp only
      cases hv : validateExposePorts (s.services.filter (selectedFor d)) with
      | some e =>
        simp only [Prog.pure_eq, Prog.ensures_ret]
        exact fun d' h => .inr (.inl ⟨e, (Except.ok.inj h).symm⟩)
      | none =>
        dsimp only
        cases hm : mapServicesToDeploymentResults codec.marshal
            (s.services.filter (selectedFor d)) with
        | error e => exact fun d' h => by cases h
        | ok results =>
          exact fun d' h => .inr (.inr ⟨results, ⟨hv, hm⟩, (Except.ok.inj h).symm⟩)
  · simp only [hfail, hdep, Bool.false_eq_true, Bool.not_false, if_true, if_false, Prog.pure_eq,
      Prog.ensures_ret]
    exact fun d' h => .inl (same d' h)

/-- The result published for a Service. -/
structure Publishes (codec : ServiceSpecCodec) (s : Service) (r : DeploymentResult) : Prop where
  name : r.name = s.annotation annotationDeploymentResult
  type : r.type = typeHTTPK8sService
  spec : codec.unmarshal r.raw = .ok (serviceSpec s)

/-- Both annotations are set. -/
def isExposed (s : Service) : Bool :=
  hasDeploymentResultName s && s.annotation annotationExposedPortName ≠ ""

def selectedPort (s : Service) : Option ServicePort :=
  s.ports.find? fun p => p.name = s.annotation annotationExposedPortName

/-- The rule of an exposed Service: one match on the two headers, backed by the Service
and the number of its selected port, with a filter that sets the routing key and removes
the headers of the match. -/
def RoutedAs (stage vectorDeployment : String) (s : Service) (rule : HTTPRouteRule) : Prop :=
  ∃ port, selectedPort s = some port ∧
    rule.matches =
      [⟨[⟨headerStage, stage⟩, ⟨headerService, s.annotation annotationDeploymentResult⟩]⟩] ∧
    rule.backendRefs = [⟨s.name, some port.port⟩] ∧
    rule.filters = [{
      set := [⟨headerRoutingKey, vectorDeployment⟩]
      remove := [headerStage, headerService] }]

/-- The contract of a Service that opted in: a selected port exists and is TCP. -/
def Valid (s : Service) : Prop :=
  isExposed s = true → ∃ port, selectedPort s = some port ∧ port.protocol = .tcp

theorem validateExposePort_eq_none {s : Service} : validateExposePort s = none ↔ Valid s := by
  unfold validateExposePort Valid isExposed
  cases hasDeploymentResultName s with
  | false => simp
  | true =>
    by_cases hp : s.annotation annotationExposedPortName = ""
    · simp [hp]
    · simp only [Bool.not_true, Bool.false_eq_true, if_false, hp, Bool.true_and, ne_eq,
        not_false_eq_true, decide_true, forall_const, selectedPort]
      split
      · next hnone => simp [hnone]
      · next port hport => by_cases ht : port.protocol = .tcp <;> simp [hport, ht]

theorem validateExposePorts_eq_none : validateExposePorts services = none ↔ ∀ s ∈ services, Valid s := by
  induction services with
  | nil => simp [validateExposePorts]
  | cons s services ih =>
    unfold validateExposePorts
    rw [List.forall_mem_cons, ← validateExposePort_eq_none, ← ih]
    cases validateExposePort s <;> simp

/-- The activation accepts the result of a valid Service and routes it exactly when
the Service is exposed. -/
theorem Publishes.target {s : Service} {r : DeploymentResult} (h : Publishes codec s r)
    (hopt : hasDeploymentResultName s = true) (hv : Valid s) :
    routeTarget codec.unmarshal r = .ok none ∧ isExposed s = false ∨
      ∃ port, selectedPort s = some port ∧ isExposed s = true ∧
        routeTarget codec.unmarshal r =
          .ok (some ⟨s.annotation annotationDeploymentResult, s.name, port.port⟩) := by
  by_cases hp : s.annotation annotationExposedPortName = ""
  · left
    simp [routeTarget, h.type, h.spec, serviceSpec, isExposed, hp]
  · right
    have hexp : isExposed s = true := by simp [isExposed, hopt, hp]
    obtain ⟨port, hport, htcp⟩ := hv hexp
    have hfind : (serviceSpec s).servicePorts.find?
        (fun p => p.name = (serviceSpec s).ingressExposedPortName) = some port := hport
    refine ⟨port, hport, hexp, ?_⟩
    have hne : ¬ (serviceSpec s).ingressExposedPortName = "" := hp
    simp [routeTarget, h.type, h.spec, hne, hfind, htcp, h.name]
    rfl

/-- The loop publishes one result per Service that opted in, under names that are
new to `seen` and different from each other. -/
theorem mapServices_ok {seen : List (String × String)}
    (h : mapServices codec.marshal seen services = .ok results) :
    List.Forall₂ (Publishes codec) (services.filter hasDeploymentResultName) results ∧
      (results.map (·.name)).Nodup ∧ ∀ r ∈ results, seen.lookup (resultKey r.name) = none := by
  induction services generalizing seen results with
  | nil =>
    obtain rfl := Except.ok.inj h
    simp
  | cons s services ih =>
    unfold mapServices at h
    cases hopt : hasDeploymentResultName s with
    | false =>
      simp only [hopt, Bool.not_false, if_true] at h
      simpa [hopt] using ih h
    | true =>
      simp only [hopt, Bool.not_true, Bool.false_eq_true, if_false] at h
      split at h
      · cases h
      · next hnew =>
        split at h
        · cases h
        · next raw hraw =>
          split at h
          · cases h
          · next rest hrest =>
            obtain rfl := Except.ok.inj h
            obtain ⟨hall, hnodup, hseen⟩ := ih hrest
            have hpub : Publishes codec s
                ⟨s.annotation annotationDeploymentResult, typeHTTPK8sService, raw⟩ :=
              ⟨rfl, rfl, codec.unmarshal_marshal _ _ hraw⟩
            -- the key just recorded is not found again, nor any seen before
            have hlater (r : DeploymentResult) (hr : r ∈ rest) :
                r.name ≠ s.annotation annotationDeploymentResult ∧
                  seen.lookup (resultKey r.name) = none := by
              have hlook := List.lookup_eq_none_iff.mp (hseen r hr)
              rw [List.forall_mem_cons] at hlook
              refine ⟨fun heq => ?_, List.lookup_eq_none_iff.mpr hlook.2⟩
              simp [heq] at hlook
            refine ⟨?_, ?_, ?_⟩
            · rw [List.filter_cons_of_pos hopt]
              exact .cons hpub hall
            · rw [List.map_cons, List.nodup_cons]
              refine ⟨fun hmem => ?_, hnodup⟩
              obtain ⟨r, hr, heq⟩ := List.mem_map.mp hmem
              exact (hlater r hr).1 heq
            · rw [List.forall_mem_cons]
              exact ⟨hnew, fun r hr => (hlater r hr).2⟩

/-- What the activation makes of the results of valid Services. -/
theorem routed_of_publishes (stage vectorDeployment : String) {opted : List Service}
    (hvalid : ∀ s ∈ opted, hasDeploymentResultName s = true ∧ Valid s)
    (hpairs : List.Forall₂ (Publishes codec) opted results) :
    (∀ r ∈ results, ∃ t, routeTarget codec.unmarshal r = .ok t) ∧
      List.Forall₂ (RoutedAs stage vectorDeployment) (opted.filter isExposed)
        ((results.filterMap (acceptedTarget codec.unmarshal)).map
          (routeRule stage vectorDeployment)) := by
  induction hpairs with
  | nil => simp
  | @cons s r opted results hpub _ ih =>
    obtain ⟨⟨hopt, hv⟩, hrest⟩ := List.forall_mem_cons.mp hvalid
    obtain ⟨hall, hrules⟩ := ih hrest
    obtain ⟨ht, hexp⟩ | ⟨port, hport, hexp, ht⟩ := hpub.target hopt hv
    · refine ⟨List.forall_mem_cons.mpr ⟨⟨_, ht⟩, hall⟩, ?_⟩
      simpa [hexp, acceptedTarget, ht, Except.toOption] using hrules
    · refine ⟨List.forall_mem_cons.mpr ⟨⟨_, ht⟩, hall⟩, ?_⟩
      have haccept : acceptedTarget codec.unmarshal r =
          some ⟨s.annotation annotationDeploymentResult, s.name, port.port⟩ := by
        simp [acceptedTarget, ht, Except.toOption]
      rw [List.filter_cons_of_pos hexp, List.filterMap_cons_some haccept, List.map_cons]
      exact .cons ⟨port, hport, rfl, rfl, rfl⟩ hrules

/-- The results of the entry are read as those of valid Services. -/
structure Routable (codec : ServiceSpecCodec) (services : List Service)
    (entry : String × List DeploymentResult) : Prop where
  valid : validateExposePorts services = none
  publishes : List.Forall₂ (Publishes codec) (services.filter hasDeploymentResultName) entry.2

theorem Routable.routed {entry : String × List DeploymentResult} (h : Routable codec services entry)
    (stage vectorDeployment : String) :
    (∀ r ∈ entry.2, ∃ t, routeTarget codec.unmarshal r = .ok t) ∧
      List.Forall₂ (RoutedAs stage vectorDeployment) (services.filter isExposed)
        ((entry.2.filterMap (acceptedTarget codec.unmarshal)).map
          (routeRule stage vectorDeployment)) := by
  have hexp : services.filter isExposed =
      (services.filter hasDeploymentResultName).filter isExposed := by
    rw [List.filter_filter]
    refine List.filter_congr fun s _ => ?_
    cases hopt : hasDeploymentResultName s <;> simp [isExposed, hopt]
  rw [hexp]
  refine routed_of_publishes stage vectorDeployment (fun s hs => ?_) h.publishes
  obtain ⟨hmem, hopt⟩ := List.mem_filter.mp hs
  exact ⟨hopt, validateExposePorts_eq_none.mp h.valid s hmem⟩

section Components

variable {components : List (List Service)} {entries : List (String × List DeploymentResult)}

/-- The rules of several components, in the order of the components. -/
theorem routed_components (h : List.Forall₂ (Routable codec) components entries)
    (stage vectorDeployment : String) :
    (∀ r ∈ entries.flatMap (·.2), ∃ t, routeTarget codec.unmarshal r = .ok t) ∧
      List.Forall₂ (RoutedAs stage vectorDeployment) (components.flatten.filter isExposed)
        (((entries.flatMap (·.2)).filterMap (acceptedTarget codec.unmarshal)).map
          (routeRule stage vectorDeployment)) := by
  induction h with
  | nil => simp
  | cons hc _ ih =>
    obtain ⟨haccept, hrules⟩ := hc.routed stage vectorDeployment
    simp only [List.flatMap_cons, List.flatten_cons, List.filter_append, List.filterMap_append,
      List.map_append, List.forall_mem_append]
    exact ⟨⟨haccept, ih.1⟩, List.rel_append hrules ih.2⟩

/-- The activation of components that can be read accepts all their results, and routes
exactly the exposed Services. -/
theorem buildRouteRules_routable (h : List.Forall₂ (Routable codec) components entries)
    (order : Golib.RangeOrder (String × List DeploymentResult))
    (sort : Golib.SliceSort RouteTarget RouteTarget.less) (stage name : String) :
    ∃ rules routed, buildRouteRules ⟨codec.unmarshal, order, sort⟩ stage ⟨name, entries⟩ =
        .ok rules ∧ rules.Perm routed ∧
      List.Forall₂ (RoutedAs stage name) (components.flatten.filter isExposed) routed := by
  obtain ⟨haccept, hrouted⟩ := routed_components h stage name
  -- the results in the order of the map, and in the order of the components
  have hperm : ((order.range entries).flatMap (·.2)).Perm (entries.flatMap (·.2)) :=
    (order.perm entries).flatMap_right (·.2)
  have hbuild : buildRouteRules ⟨codec.unmarshal, order, sort⟩ stage ⟨name, entries⟩ =
      .ok ((sort.sort (((order.range entries).flatMap (·.2)).filterMap
        (acceptedTarget codec.unmarshal))).map (routeRule stage name)) := by
    unfold buildRouteRules
    rw [routeTargets_eq_ok.mpr ⟨fun r hr => haccept r (hperm.mem_iff.mp hr), rfl⟩]
  exact ⟨_, _, hbuild, ((sort.perm _).trans (hperm.filterMap _)).map _, hrouted⟩

end Components

/-- A component of a VectorDeployment whose results were published for some Services. -/
structure PublishedComponent (codec : ServiceSpecCodec) where
  component : String
  services : List Service
  results : List DeploymentResult
  published : Published codec services results

namespace PublishedComponent

variable (c : PublishedComponent codec)

def entry : String × List DeploymentResult := (c.component, c.results)

theorem routable : Routable codec c.services c.entry :=
  ⟨c.published.valid, (mapServices_ok c.published.mapped).1⟩

/-- Results are identified by name and type. -/
theorem nodup : (c.results.map fun r => (r.name, r.type)).Nodup := by
  have hnodup := (mapServices_ok c.published.mapped).2.1
  refine List.Nodup.of_map Prod.fst ?_
  simpa [List.map_map, Function.comp_def] using hnodup

end PublishedComponent

/-- What the status updater publishes, it publishes for the Services it has listed, when
they are valid. Such results are pairwise distinct and one per Service that opted in; the
activation of a VectorDeployment made of them never fails on them, and routes exactly
the exposed Services. -/
theorem published_results_routable (codec : ServiceSpecCodec)
    (order : Golib.RangeOrder (String × List DeploymentResult))
    (sort : Golib.SliceSort RouteTarget RouteTarget.less) (stage name : String)
    (cs : List (PublishedComponent codec)) :
    (∀ now d s, (mutateStatus codec.marshal now d).Ensures exec (fun r _ => ∀ d', r = .ok d' →
      d' = d ∨ (∃ e, d' = setExposureValidationFailure now d e) ∨
        ∃ results, Published codec (s.services.filter (selectedFor d)) results ∧
          d' = publish now d results) s) ∧
    (∀ c ∈ cs, (c.results.map fun r => (r.name, r.type)).Nodup ∧
      List.Forall₂ (Publishes codec) (c.services.filter hasDeploymentResultName) c.results) ∧
    ∃ rules routed, buildRouteRules ⟨codec.unmarshal, order, sort⟩ stage
        ⟨name, cs.map PublishedComponent.entry⟩ = .ok rules ∧ rules.Perm routed ∧
      List.Forall₂ (RoutedAs stage name) ((cs.flatMap (·.services)).filter isExposed) routed := by
  refine ⟨fun now d s => mutateStatus_ensures codec now d s,
    fun c _ => ⟨c.nodup, c.routable.publishes⟩, ?_⟩
  have hroutable : List.Forall₂ (Routable codec) (cs.map (·.services))
      (cs.map PublishedComponent.entry) := by
    rw [List.forall₂_map_left_iff, List.forall₂_map_right_iff, List.forall₂_same]
    exact fun c _ => c.routable
  exact buildRouteRules_routable hroutable order sort stage name

end LandscapeOrchestrator.FluxDeployer
