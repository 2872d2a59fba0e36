import LandscapeOrchestrator.Apilib.Paths
import LandscapeOrchestrator.Apilib.RelyGuarantee
import LandscapeOrchestrator.Golib.Singleflight
import LandscapeOrchestrator.VectorDataService.Coherence
import LandscapeOrchestrator.VectorDataService.Handlers

/-!
# Isolation of vectors

Requests for any vectors share the cache and the fetches under way, while ConfigMaps
change and the informer removes entries. The cache, the flights and the ConfigMaps are
each addressed by a key of their own; here all of them lead to the vector asked for.

## Main definitions

- `Serving`, `ServingOp`, `serve` — the service with its flights and a history of ConfigMaps
- `sharedConfiguration` — the lookup in which requests share a fetch
- `requests` — any number of requests to both endpoints beside changes and events
- `Isolated` — what is cached, and what a flight returns, is the vector's own
-/

namespace LandscapeOrchestrator.VectorDataService
open Apilib Golib

/-- `versions` are the ConfigMaps of the namespace at every moment so far; no program
reads them. -/
structure Serving where
  base : State
  flights : Flights String (Except String String)
  versions : List (String → Option ConfigMap)

inductive ServingOp where
  | base (op : Op)
  | join (key : String)
  | await (flight : ℕ)
  | land (key : String) (flight : ℕ) (result : Except String String)

abbrev ServingOp.Res : ServingOp → Type
  | base op => op.Res
  | join _ => Ticket
  | await _ => Except String String
  | land _ _ _ => Unit

/-- A request that awaits a flight is blocked until the flight has landed. Here it may
also give up with an error, so the runs of the service are among those modelled. -/
def serve : Exec ServingOp ServingOp.Res Serving
  | .base op, s => ((exec op s.base).1, { s with base := (exec op s.base).2 })
  | .join key, s => (.ok (s.flights.join key).1, { s with flights := (s.flights.join key).2 })
  | .await n, s => match s.flights.landed n with
    | some result => (.ok result, s)
    | none => (.error (.fault "the flight has not landed"), s)
  | .land key n result, s => (.ok (), { s with flights := s.flights.land key n result })

abbrev ServingProgram := Prog ServingOp ServingOp.Res

/-- The leader of a flight makes the fetch; the others take its result. -/
def sharedFetch (order : RangeOrder (String × String)) (vectorId : String) :
    ServingProgram (Except String String) := do
  match ← Prog.perform (ServingOp.join vectorId) with
  | .error e => return .error e.message
  | .ok (.follow n) => match ← Prog.perform (ServingOp.await n) with
    | .error e => return .error e.message
    | .ok result => return result
  | .ok (.lead n) =>
    let result ← (fetchConfiguration order vectorId).embed ServingOp.base fun _ r => r
    let _ ← Prog.perform (ServingOp.land vectorId n result)
    return result

/-- `getConfiguration` with shared fetches. -/
def sharedConfiguration (order : RangeOrder (String × String)) (vectorId : String) :
    ServingProgram (Except String String) := do
  match ← Prog.perform (ServingOp.base (.cacheGet vectorId)) with
  | .ok (some cachedConfig) => return .ok cachedConfig
  | _ => sharedFetch order vectorId

/-- A request that shares its fetch with no other resolves the configuration as before. -/
theorem sharedConfiguration_alone (order : RangeOrder (String × String)) {vectorId : String}
    {s : Serving} (hcur : s.flights.current vectorId = none) :
    (sharedConfiguration order vectorId).Attains serve (fun result t =>
      (result, t.base) = (getConfiguration order vectorId).run exec (fun _ => none) s.base) s := by
  unfold sharedConfiguration
  rw [Prog.attains_perform_bind]
  cases hcache : s.base.cache vectorId with
  | some text =>
    simp only [serve, exec, hcache, Prog.pure_eq, Prog.attains_ret, getConfiguration, cacheGet,
      Prog.perform_bind, Prog.run]
  | none =>
    have hfetch : (getConfiguration order vectorId).run exec (fun _ => none) s.base =
        (fetchConfiguration order vectorId).run exec (fun _ => none) s.base := by
      simp only [getConfiguration, cacheGet, Prog.perform_bind, Prog.run, exec, hcache]
    simp only [serve, exec, hcache, hfetch]
    unfold sharedFetch
    rw [Prog.attains_perform_bind]
    simp only [serve, Flights.join_of_none hcur]
    refine Prog.Attains.bind (R := fun result (t : Serving) => (result, t.base) =
      (fetchConfiguration order vectorId).run exec (fun _ => none) s.base) ?_ fun result t h => h
    have hpart : ∀ op (u : Serving), (serve (.base op) u).1.map (fun r => r) = (exec op u.base).1 ∧
        (serve (.base op) u).2.base = (exec op u.base).2 := by
      intro op u
      refine ⟨?_, rfl⟩
      simp only [serve]
      cases (exec op u.base).1 <;> rfl
    obtain ⟨hresult, hbase⟩ := Prog.run_embed Serving.base hpart
      (fetchConfiguration order vectorId) (fun _ => none)
      { s with flights := s.flights.start vectorId }
    exact Prod.ext hresult hbase

section

variable (P : Platform) {J : Type} [DecidableEq J] (request : J → Request)

/-- Requests beside changes of ConfigMaps and delivered events. The service starts with
an empty cache. -/
def requests : Workload Change J (RangeOrder (String × String)) ServingOp ServingOp.Res Response
    Serving where
  init s := s.base.cache = (fun _ => none) ∧ s.flights = .empty ∧ s.versions = [s.base.configMaps]
  exec := serve
  env c s := (change c s.base).map fun t =>
    { s with base := t, versions := s.versions ++ [t.configMaps] }
  prog j order := handle P (sharedConfiguration order) (request j)

end

/-- The configuration is one of the vector's own ConfigMap, at some moment. -/
def Built (versions : List (String → Option ConfigMap)) (vectorId config : String) : Prop :=
  ∃ configMaps ∈ versions, ∃ cm, configMaps (configMapPrefix ++ vectorId) = some cm ∧
    ∃ order : RangeOrder (String × String),
      buildConfiguration vectorId (order.range cm.data) = .ok config

/-- The same, or the empty configuration at a moment when there was no ConfigMap. -/
def FromVersion (versions : List (String → Option ConfigMap)) (vectorId config : String) : Prop :=
  Built versions vectorId config ∨
    ∃ configMaps ∈ versions, configMaps (configMapPrefix ++ vectorId) = none ∧ config = ""

/-- What a fetch can return. -/
def Fetched (versions : List (String → Option ConfigMap)) (vectorId : String) :
    Except String String → Prop
  | .ok config => FromVersion versions vectorId config
  | .error _ => True

structure Isolated (s : Serving) : Prop where
  current : s.base.configMaps ∈ s.versions
  cache : ∀ vectorId text, s.base.cache vectorId = some text →
    text ≠ "" ∧ Built s.versions vectorId text
  flights : s.flights.Holds (Fetched s.versions)

/-- What everyone does to the service: nothing of the history is lost. -/
structure Evolves (s t : Serving) : Prop where
  isolated : Isolated t
  versions : s.versions ⊆ t.versions
  started : s.flights.started <+: t.flights.started

/-- Requests store and share only what they fetched for the vector. -/
def Guar : ServingOp → Serving → Prop
  | .base (.cacheSet vectorId text), s => text ≠ "" ∧ Built s.versions vectorId text
  | .land vectorId n result, s =>
    s.flights.started[n]? = some vectorId ∧ Fetched s.versions vectorId result
  | _, _ => True

def servingContract : Contract ServingOp Serving where
  rely := Evolves
  given _ _ := True
  guar := Guar

variable {s t u : Serving} {vectorId config : String} {versions versions' : List (String → Option ConfigMap)}

theorem Built.mono (hv : versions ⊆ versions') (h : Built versions vectorId config) :
    Built versions' vectorId config := by
  obtain ⟨configMaps, hmem, hbuilt⟩ := h
  exact ⟨configMaps, hv hmem, hbuilt⟩

theorem FromVersion.mono (hv : versions ⊆ versions') (h : FromVersion versions vectorId config) :
    FromVersion versions' vectorId config := by
  obtain h | ⟨configMaps, hmem, hnone⟩ := h
  · exact .inl (h.mono hv)
  · exact .inr ⟨configMaps, hv hmem, hnone⟩

theorem Fetched.mono (hv : versions ⊆ versions') {result : Except String String}
    (h : Fetched versions vectorId result) : Fetched versions' vectorId result := by
  cases result with
  | error e => trivial
  | ok config => exact FromVersion.mono hv h

theorem Evolves.refl (h : Isolated s) : Evolves s s := ⟨h, List.Subset.refl _, List.prefix_refl _⟩

theorem Evolves.trans (h : Evolves s t) (h' : Evolves t u) : Evolves s u :=
  ⟨h'.isolated, List.Subset.trans h.versions h'.versions, h.started.trans h'.started⟩

/-- Changes and events put nothing into the cache. -/
theorem change_cache {s t : State} {c : Change} (hc : change c s = some t) {text : String}
    (h : t.cache vectorId = some text) : s.cache vectorId = some text := by
  by_cases hne : c = .deliver
  · subst hne
    simp only [change] at hc
    split at hc
    · cases hc
    · next e events _ =>
      obtain rfl := Option.some.inj hc
      exact (handleEvent_cache h).1
  · rwa [(change_keeps hc hne).1] at h

theorem change_evolves {c : Change} {base : State} (hs : Isolated s)
    (hc : change c s.base = some base) :
    Evolves s { s with base := base, versions := s.versions ++ [base.configMaps] } where
  versions := List.subset_append_left _ _
  started := List.prefix_refl _
  isolated := {
    current := List.mem_append_right _ (List.mem_singleton_self _)
    cache := by
      intro vectorId text h
      obtain ⟨hne, hbuilt⟩ := hs.cache vectorId text (change_cache hc h)
      exact ⟨hne, hbuilt.mono (List.subset_append_left _ _)⟩
    flights := hs.flights.mono fun _ _ => Fetched.mono (List.subset_append_left _ _) }

theorem serve_base_evolves {op : Op} (hs : Isolated s) (hg : Guar (.base op) s) :
    Evolves s (serve (.base op) s).2 := by
  cases op with
  | cacheGet key => exact .refl hs
  | getConfigMap name =>
    have hsame : (serve (.base (.getConfigMap name)) s).2 = s := by
      simp only [serve, exec]
      split <;> rfl
    rw [hsame]
    exact .refl hs
  | cacheSet key val =>
    refine ⟨⟨hs.current, ?_, hs.flights⟩, List.Subset.refl _, List.prefix_refl _⟩
    intro vectorId text h
    by_cases hk : vectorId = key
    · subst hk
      simp only [serve, exec, State.cacheSet, Function.update_self, if_neg hg.1,
        Option.some.injEq] at h
      exact h ▸ hg
    · simp only [serve, exec, State.cacheSet, Function.update_of_ne hk] at h
      exact hs.cache vectorId text h

theorem serve_evolves {op : ServingOp} (hs : Isolated s) (hg : Guar op s) :
    Evolves s (serve op s).2 := by
  cases op with
  | base op => exact serve_base_evolves hs hg
  | join key =>
    simp only [serve]
    cases hcur : s.flights.current key with
    | some n =>
      rw [Flights.join_of_some hcur]
      exact .refl hs
    | none =>
      rw [Flights.join_of_none hcur]
      exact ⟨⟨hs.current, hs.cache, hs.flights.start⟩, List.Subset.refl _, List.prefix_append _ _⟩
  | await n =>
    simp only [serve]
    split <;> exact .refl hs
  | land key n result =>
    exact ⟨⟨hs.current, hs.cache, hs.flights.land hg.1 hg.2⟩, List.Subset.refl _,
      List.prefix_refl _⟩

/-- The leader fetches what it may share under the key of its flight `n`. -/
theorem fetchConfiguration_keeps (order : RangeOrder (String × String)) {n : ℕ}
    (hn : s.flights.started[n]? = some vectorId) :
    ((fetchConfiguration order vectorId).embed ServingOp.base fun _ r => r).Keeps serve
      servingContract (fun result t => t.flights.started[n]? = some vectorId ∧
        Fetched t.versions vectorId result) s := by
  simp only [fetchConfiguration, getConfigMap, Prog.perform_bind, Prog.embed]
  intro t ht
  have hnt := Flights.started_of_prefix ht.started hn
  refine ⟨trivial, fun _ => ?_, fun msg => ⟨hnt, trivial⟩⟩
  simp only [serve, exec]
  cases hcm : t.base.configMaps (configMapPrefix ++ vectorId) with
  | none => exact ⟨hnt, .inr ⟨_, ht.isolated.current, hcm, rfl⟩⟩
  | some cm =>
    simp only [Except.map]
    cases hbuild : buildConfiguration vectorId (order.range cm.data) with
    | error e => exact ⟨hnt, trivial⟩
    | ok text =>
      have hbuilt : Built t.versions vectorId text :=
        ⟨_, ht.isolated.current, cm, hcm, order, hbuild⟩
      dsimp only
      unfold storeConfiguration
      split
      · next hempty => exact ⟨hnt, .inl (hempty ▸ hbuilt)⟩
      · next hne =>
        intro u hu
        have hbuilt := hbuilt.mono hu.versions
        have hnu := Flights.started_of_prefix hu.started hnt
        exact ⟨⟨hne, hbuilt⟩, fun _ => ⟨hnu, .inl hbuilt⟩, fun msg => ⟨hnu, .inl hbuilt⟩⟩

theorem sharedFetch_keeps (order : RangeOrder (String × String)) :
    (sharedFetch order vectorId).Keeps serve servingContract
      (fun result t => Fetched t.versions vectorId result) s := by
  unfold sharedFetch
  rw [Prog.keeps_perform_bind]
  intro t ht
  refine ⟨trivial, fun _ => ?_, fun msg => trivial⟩
  simp only [serve]
  cases hcur : t.flights.current vectorId with
  | some n =>
    -- a follower: the flight was started for the same vector
    have hn := ht.isolated.flights.current vectorId n hcur
    rw [Flights.join_of_some hcur]
    dsimp only
    rw [Prog.keeps_perform_bind]
    intro u hu
    refine ⟨trivial, fun _ => ?_, fun msg => trivial⟩
    simp only [serve]
    cases hland : u.flights.landed n with
    | none => trivial
    | some result =>
      exact hu.isolated.flights.result (Flights.started_of_prefix hu.started hn) hland
  | none =>
    rw [Flights.join_of_none hcur]
    dsimp only
    have hn : (t.flights.start vectorId).started[t.flights.started.length]? = some vectorId :=
      List.getElem?_concat_length
    refine (fetchConfiguration_keeps order hn).bind ?_
    rintro result u ⟨hnu, hfetched⟩
    rw [Prog.keeps_perform_bind]
    intro w hw
    have hfetched := hfetched.mono hw.versions
    exact ⟨⟨Flights.started_of_prefix hw.started hnu, hfetched⟩, fun _ => hfetched,
      fun msg => hfetched⟩

theorem sharedConfiguration_keeps (order : RangeOrder (String × String)) :
    (sharedConfiguration order vectorId).Keeps serve servingContract
      (fun result t => Fetched t.versions vectorId result) s := by
  unfold sharedConfiguration
  rw [Prog.keeps_perform_bind]
  intro t ht
  refine ⟨trivial, fun _ => ?_, fun msg => sharedFetch_keeps order⟩
  simp only [serve, exec]
  cases hcache : t.base.cache vectorId with
  | none => exact sharedFetch_keeps order
  | some text => exact .inl (ht.isolated.cache vectorId text hcache).2

/-- The answer is an error, or is computed from a version of the vector's ConfigMap. -/
def AnswersFromVersion (P : Platform) (request : Request) (response : Response) (s : Serving) :
    Prop :=
  response.status = 400 ∨ response.status = 500 ∨
    ∃ vectorId config, targetingKey P request.body = some vectorId ∧
      FromVersion s.versions vectorId config ∧
      response = request.evaluate P vectorId (.ok config)

theorem AnswersFromVersion.mono {P : Platform} {request : Request} {response : Response}
    (h : AnswersFromVersion P request response s) (hst : Evolves s t) :
    AnswersFromVersion P request response t := by
  obtain h | h | ⟨vectorId, config, hkey, hversion, heq⟩ := h
  · exact .inl h
  · exact .inr (.inl h)
  · exact .inr (.inr ⟨vectorId, config, hkey, hversion.mono hst.versions, heq⟩)

theorem handle_keeps (P : Platform) (request : Request) (order : RangeOrder (String × String)) :
    (handle P (sharedConfiguration order) request).Keeps serve servingContract
      (AnswersFromVersion P request) s := by
  cases hkey : targetingKey P request.body with
  | none =>
    obtain ⟨response, hret, hstatus⟩ := handle_of_none hkey
    rw [hret]
    exact .inl hstatus
  | some vectorId =>
    rw [handle_of_some hkey]
    refine (sharedConfiguration_keeps order).bind ?_
    intro result t hfetched
    cases result with
    | error e =>
      refine .inr (.inl ?_)
      cases request <;> rfl
    | ok config => exact .inr (.inr ⟨vectorId, config, hkey, hfetched, rfl⟩)

section

variable (P : Platform) {J : Type} [DecidableEq J] (request : J → Request)

omit [DecidableEq J] in
theorem requests_relyGuarantee :
    (requests P request).RelyGuarantee Isolated (fun _ => servingContract) where
  refl _ _ hs := .refl hs
  trans _ _ _ _ h h' := h.trans h'
  init s h := by
    obtain ⟨hcache, hflights, hversions⟩ := h
    refine ⟨by simp [hversions], fun vectorId text h => by simp [hcache] at h, ?_⟩
    rw [hflights]
    exact .empty
  env c s t hs hc := by
    obtain ⟨base, hbase, rfl⟩ := Option.map_eq_some_iff.mp hc
    have h := change_evolves hs hbase
    exact ⟨h.isolated, fun _ => h⟩
  call _ op s hs hg _ := by
    have h := serve_evolves hs hg
    exact ⟨h.isolated, fun _ _ => h⟩
  prog j order s _ := (handle_keeps P (request j) order).mono fun _ _ _ => trivial

/-- In every interleaving, an answer without an error status is the one for a version
that the ConfigMap of the targeting key had so far, or for its absence. What is cached
for a vector is not empty and was built from a version of its ConfigMap. -/
theorem vectors_isolated {pool : Pool J ServingOp ServingOp.Res Response Serving}
    (hr : (requests P request).system.Reachable pool) :
    (∀ j response, pool.running j = some (.ret response) →
      response.status ≠ 400 → response.status ≠ 500 →
      ∃ vectorId config, targetingKey P (request j).body = some vectorId ∧
        FromVersion pool.state.versions vectorId config ∧
        response = (request j).evaluate P vectorId (.ok config)) ∧
    ∀ vectorId text, pool.state.base.cache vectorId = some text →
      text ≠ "" ∧ Built pool.state.versions vectorId text := by
  have hrg := requests_relyGuarantee P request
  have hgiven : (requests P request).system.Reaches (Workload.Given fun _ => servingContract) pool :=
    hr.mono fun pool m _ => Workload.Given.of_forall (fun _ _ _ => trivial) pool m
  refine ⟨fun j response hj h400 h500 => ?_, (hrg.reaches hgiven).1.cache⟩
  have hanswer : AnswersFromVersion P (request j) response pool.state :=
    hrg.returns (Q := fun j => AnswersFromVersion P (request j)) (fun _ _ _ _ hst h => h.mono hst)
      (fun j order _ _ => handle_keeps P (request j) order) hgiven hj
  obtain h | h | h := hanswer
  · exact absurd h h400
  · exact absurd h h500
  · exact h

end

/-- The ConfigMaps of a namespace with one vector. -/
def darkModeConfigMaps (name : String) : Option ConfigMap :=
  if name = "vector-data-vd-1" then some ⟨[("features.json", "\x7b\"darkMode\":true\x7d")], 1⟩
  else none

def darkModeServing : Serving :=
  ⟨⟨fun _ => none, darkModeConfigMaps, []⟩, .empty, [darkModeConfigMaps]⟩

/-- One request to each endpoint, both for the same vector. -/
def darkModeRequest : Bool → Request
  | true => .single "darkMode" (requestBody "vd-1")
  | false => .bulk "" (requestBody "vd-1")

/-- The status of a request that was answered. -/
def answeredStatus : Option (ServingProgram Response) → Option ℕ
  | some (.ret response) => some response.status
  | _ => none

/-- The bulk request follows the flight of the other one. The ConfigMap changes while
the leader holds what it fetched. -/
def sharedFlight : List (Move Change Bool (RangeOrder (String × String))) :=
  [.start true .insertion, .call true, .call true, .start false .insertion, .call false,
    .call false, .call true, .env (.update "vector-data-vd-1" []), .call true, .call true,
    .call false]

theorem vectors_isolated_sharedFlight :
    ∃ pool, (requests plainPlatform darkModeRequest).system.Reachable pool ∧
      answeredStatus (pool.running true) = some 200 ∧
      answeredStatus (pool.running false) = some 200 ∧
      (∀ j response, pool.running j = some (.ret response) →
        response.status ≠ 400 → response.status ≠ 500 →
        ∃ vectorId config, targetingKey plainPlatform (darkModeRequest j).body = some vectorId ∧
          FromVersion pool.state.versions vectorId config ∧
          response = (darkModeRequest j).evaluate plainPlatform vectorId (.ok config)) ∧
      ∀ vectorId text, pool.state.base.cache vectorId = some text →
        text ≠ "" ∧ Built pool.state.versions vectorId text := by
  obtain ⟨pool, hr, hp⟩ := System.reachable_of_follow (requests plainPlatform darkModeRequest).system
    sharedFlight (fun pool => decide (answeredStatus (pool.running true) = some 200) &&
      decide (answeredStatus (pool.running false) = some 200))
    (s := ⟨darkModeServing, fun _ => none⟩) ⟨⟨rfl, rfl, rfl⟩, fun _ => rfl⟩ (by decide +kernel)
  simp only [Bool.and_eq_true, decide_eq_true_eq] at hp
  exact ⟨pool, hr, hp.1, hp.2, vectors_isolated plainPlatform darkModeRequest hr⟩

end LandscapeOrchestrator.VectorDataService
