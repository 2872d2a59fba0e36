import LandscapeOrchestrator.Apilib.Interleaving
import LandscapeOrchestrator.VectorDataService.Configuration

/-!
# Cache coherence

Requests fill the cache and the informer empties it, each on its own. A request
stores what it fetched some calls ago; the event that would invalidate the stored
configuration may have been handled by then.

## Main definitions

- `handleEvent` — the informer's update and delete handlers
- `service` — requests beside changes of ConfigMaps and delivered events
- `Coherent` — every cached configuration is the one of its ConfigMap
- `HandlesInTime` — no event is handled while a request holds an outdated configuration
  that only this event would remove
-/

namespace LandscapeOrchestrator.VectorDataService
open Apilib Golib

/-- The handlers remove the entry of the vector; a resync is ignored. -/
def handleEvent (s : State) : InformerEvent → State
  | .updated name oldVersion newVersion =>
    if oldVersion = newVersion then s else s.cacheSet (trimPrefix name configMapPrefix) ""
  | .deleted name => s.cacheSet (trimPrefix name configMapPrefix) ""

/-- Changes of the ConfigMaps, the informer's resync, and the delivery of its next event. -/
inductive Change where
  | create (name : String) (cm : ConfigMap)
  | update (name : String) (data : List (String × String))
  | delete (name : String)
  | resync (name : String)
  | deliver

def State.setConfigMap (s : State) (name : String) (cm : Option ConfigMap)
    (events : List InformerEvent) : State :=
  { s with configMaps := Function.update s.configMaps name cm, events := s.events ++ events }

@[simp] theorem State.setConfigMap_configMaps (s : State) (name : String) (cm : Option ConfigMap)
    (events : List InformerEvent) :
    (s.setConfigMap name cm events).configMaps = Function.update s.configMaps name cm := rfl

def change : Change → State → Option State
  | .create name cm, s => match s.configMaps name with
    | some _ => none
    | none => some (s.setConfigMap name (some cm) [])
  | .update name data, s => (s.configMaps name).map fun cm =>
    s.setConfigMap name (some ⟨data, cm.resourceVersion + 1⟩)
      [.updated name cm.resourceVersion (cm.resourceVersion + 1)]
  | .delete name, s => (s.configMaps name).map fun _ => s.setConfigMap name none [.deleted name]
  | .resync name, s => (s.configMaps name).map fun cm =>
    s.setConfigMap name (some cm) [.updated name cm.resourceVersion cm.resourceVersion]
  | .deliver, s => match s.events with
    | [] => none
    | e :: events => some (handleEvent { s with events := events } e)

section

variable (J : Type) [DecidableEq J]

/-- Requests `J` for any vectors, each with its own order of the entries. The service
starts with an empty cache. -/
def service : Workload Change J (String × RangeOrder (String × String)) Op Op.Res
    (Except String String) State where
  init s := s.cache = (fun _ => none) ∧ s.events = []
  exec := exec
  env := change
  prog _ x := getConfiguration x.2 x.1

end

abbrev Service (J : Type) := Pool J Op Op.Res (Except String String) State

abbrev ServiceMove (J : Type) := Move Change J (String × RangeOrder (String × String))

/-- `text` is a configuration that the ConfigMap of the vector has now. -/
def Current (s : State) (vectorId text : String) : Prop :=
  ∃ cm, s.configMaps (configMapPrefix ++ vectorId) = some cm ∧
    ∃ order : RangeOrder (String × String),
      buildConfiguration vectorId (order.range cm.data) = .ok text

def Coherent (s : State) : Prop :=
  ∀ vectorId text, s.cache vectorId = some text → Current s vectorId text

/-- The event removes the entry of the vector. -/
def InformerEvent.Invalidates (vectorId : String) : InformerEvent → Prop
  | updated name oldVersion newVersion =>
    oldVersion ≠ newVersion ∧ trimPrefix name configMapPrefix = vectorId
  | deleted name => trimPrefix name configMapPrefix = vectorId

def Pending (s : State) (vectorId : String) : Prop := ∃ e ∈ s.events, e.Invalidates vectorId

/-- The configuration is current, or an event that removes it is to come. -/
def Live (s : State) (vectorId text : String) : Prop :=
  Current s vectorId text ∨ Pending s vectorId

def Accounted (s : State) : Prop :=
  ∀ vectorId text, s.cache vectorId = some text → Live s vectorId text

/-- When the informer handles an event for a vector, a request that has fetched this
vector's configuration and not stored it yet has one that is current, or another
event for the vector is to come. -/
def HandlesInTime {J : Type} (pool : Service J) : ServiceMove J → Prop
  | .env .deliver => ∀ e events, pool.state.events = e :: events →
    ∀ j vectorId text k, pool.running j = some (.call (.cacheSet vectorId text) k) →
      e.Invalidates vectorId →
      Current pool.state vectorId text ∨ ∃ e' ∈ events, e'.Invalidates vectorId
  | _ => True

variable {s t : State}

theorem handleEvent_configMaps (s : State) (e : InformerEvent) :
    (handleEvent s e).configMaps = s.configMaps ∧ (handleEvent s e).events = s.events := by
  cases e with
  | updated name old new => by_cases h : old = new <;> simp [handleEvent, h, State.cacheSet]
  | deleted name => exact ⟨rfl, rfl⟩

/-- An entry survives an event that is not about its vector, and no other. -/
theorem handleEvent_cache {e : InformerEvent} {vectorId text : String}
    (h : (handleEvent s e).cache vectorId = some text) :
    s.cache vectorId = some text ∧ ¬ e.Invalidates vectorId := by
  have hset : ∀ key, (s.cacheSet key "").cache vectorId = some text →
      s.cache vectorId = some text ∧ key ≠ vectorId := by
    intro key hc
    by_cases hk : vectorId = key
    · simp [State.cacheSet, hk] at hc
    · exact ⟨by simpa [State.cacheSet, Function.update_of_ne hk] using hc, Ne.symm hk⟩
  cases e with
  | updated name old new =>
    simp only [handleEvent] at h
    split at h
    · next heq => exact ⟨h, fun hi => hi.1 heq⟩
    · exact ⟨(hset _ h).1, fun hi => (hset _ h).2 hi.2⟩
  | deleted name => exact hset _ h

/-- A change of one ConfigMap is announced by an event for its vector, unless there was
no ConfigMap before or it stays the same. -/
theorem Live.setConfigMap {name : String} {cm : Option ConfigMap} {events : List InformerEvent}
    (hev : ∀ vectorId, name = configMapPrefix ++ vectorId →
      (∃ e ∈ events, e.Invalidates vectorId) ∨ s.configMaps name = none ∨ s.configMaps name = cm)
    {vectorId text : String} (h : Live s vectorId text) :
    Live (s.setConfigMap name cm events) vectorId text := by
  obtain ⟨cm', hcm, order, hbuild⟩ | ⟨e, he, hi⟩ := h
  · by_cases hname : configMapPrefix ++ vectorId = name
    · obtain ⟨e, he, hi⟩ | hnone | hsame := hev vectorId hname.symm
      · exact .inr ⟨e, List.mem_append_right _ he, hi⟩
      · rw [hname, hnone] at hcm
        cases hcm
      · refine .inl ⟨cm', ?_, order, hbuild⟩
        rw [State.setConfigMap_configMaps, hname, Function.update_self, ← hsame, ← hname, hcm]
    · refine .inl ⟨cm', ?_, order, hbuild⟩
      rwa [State.setConfigMap_configMaps, Function.update_of_ne hname]
  · exact .inr ⟨e, List.mem_append_left _ he, hi⟩

/-- An event that is handled no longer accounts for the entries of its vector. -/
theorem Live.deliver {e : InformerEvent} {events : List InformerEvent}
    (hs : s.events = e :: events) {vectorId text : String} (h : Live s vectorId text)
    (he : e.Invalidates vectorId →
      Current s vectorId text ∨ ∃ e' ∈ events, e'.Invalidates vectorId) :
    Live (handleEvent { s with events := events } e) vectorId text := by
  obtain ⟨hmaps, hevents⟩ := handleEvent_configMaps { s with events := events } e
  have hlive : Current s vectorId text ∨ ∃ e' ∈ events, e'.Invalidates vectorId := by
    obtain hc | ⟨e', he', hi⟩ := h
    · exact .inl hc
    · rw [hs, List.mem_cons] at he'
      obtain rfl | he' := he'
      · exact he hi
      · exact .inr ⟨e', he', hi⟩
  obtain ⟨cm, hcm, hbuild⟩ | ⟨e', he', hi⟩ := hlive
  · exact .inl ⟨cm, by rw [hmaps]; exact hcm, hbuild⟩
  · exact .inr ⟨e', by rw [hevents]; exact he', hi⟩

/-- Every change but the delivery of an event keeps the cache and what is live. -/
theorem change_keeps {c : Change} (hc : change c s = some t) (hne : c ≠ .deliver) :
    t.cache = s.cache ∧ ∀ vectorId text, Live s vectorId text → Live t vectorId text := by
  cases c with
  | create name cm =>
    simp only [change] at hc
    split at hc
    · cases hc
    · next hnone =>
      obtain rfl := Option.some.inj hc
      exact ⟨rfl, fun _ _ => .setConfigMap fun v hv => .inr (.inl hnone)⟩
  | update name data =>
    obtain ⟨cm, hcm, rfl⟩ := Option.map_eq_some_iff.mp hc
    have hev : ∀ v, name = configMapPrefix ++ v → InformerEvent.Invalidates v
        (.updated name cm.resourceVersion (cm.resourceVersion + 1)) := by
      rintro v rfl
      exact ⟨by omega, trimPrefix_append _ _⟩
    exact ⟨rfl, fun _ _ => .setConfigMap fun v hv => .inl ⟨_, List.mem_singleton_self _, hev v hv⟩⟩
  | delete name =>
    obtain ⟨cm, hcm, rfl⟩ := Option.map_eq_some_iff.mp hc
    have hev : ∀ v, name = configMapPrefix ++ v → InformerEvent.Invalidates v (.deleted name) := by
      rintro v rfl
      exact trimPrefix_append _ _
    exact ⟨rfl, fun _ _ => .setConfigMap fun v hv => .inl ⟨_, List.mem_singleton_self _, hev v hv⟩⟩
  | resync name =>
    obtain ⟨cm, hcm, rfl⟩ := Option.map_eq_some_iff.mp hc
    exact ⟨rfl, fun _ _ => .setConfigMap fun v hv => .inr (.inr hcm)⟩
  | deliver => exact absurd rfl hne

/-- The control points of a request. -/
inductive RequestAt (s : State) : Program (Except String String) → Prop
  | begin (order : RangeOrder (String × String)) (vectorId : String) :
      RequestAt s (getConfiguration order vectorId)
  | fetch (order : RangeOrder (String × String)) (vectorId : String) :
      RequestAt s (fetchConfiguration order vectorId)
  | store (vectorId text : String) (h : Live s vectorId text) :
      RequestAt s (storeConfiguration vectorId text)
  | done (r : Except String String) : RequestAt s (.ret r)

/-- Only what a request is about to store depends on the state. -/
theorem RequestAt.mono {p : Program (Except String String)} (h : RequestAt s p)
    (hlive : ∀ vectorId text k, p = .call (.cacheSet vectorId text) k →
      Live s vectorId text → Live t vectorId text) : RequestAt t p := by
  cases h with
  | begin order vectorId => exact .begin order vectorId
  | fetch order vectorId => exact .fetch order vectorId
  | done r => exact .done r
  | store vectorId text h =>
    by_cases htext : text = ""
    · have hret : storeConfiguration vectorId text = .ret (.ok "") := by
        rw [storeConfiguration, if_pos htext]
        rfl
      exact hret ▸ .done _
    · have hcall : storeConfiguration vectorId text =
          .call (.cacheSet vectorId text) fun _ => .ret (.ok text) := by
        rw [storeConfiguration, if_neg htext]
        rfl
      exact .store vectorId text (hlive vectorId text _ hcall h)

/-- A step of a request: the cache stays accounted for, and the request goes on. -/
theorem RequestAt.call {op : Op} {k : Except ApiError op.Res → Program (Except String String)}
    (h : RequestAt s (.call op k)) (hinv : Accounted s) :
    Accounted (exec op s).2 ∧ RequestAt (exec op s).2 (k (exec op s).1) ∧
      (exec op s).2.configMaps = s.configMaps ∧ (exec op s).2.events = s.events := by
  generalize hp : Prog.call op k = p at h
  cases h with
  | begin order vectorId =>
    simp only [getConfiguration, cacheGet, Prog.perform_bind] at hp
    cases hp
    refine ⟨hinv, ?_, rfl, rfl⟩
    simp only [exec]
    cases s.cache vectorId with
    | none => exact .fetch order vectorId
    | some config => exact .done _
  | fetch order vectorId =>
    simp only [fetchConfiguration, getConfigMap, Prog.perform_bind] at hp
    cases hp
    simp only [exec]
    cases hcm : s.configMaps (configMapPrefix ++ vectorId) with
    | none => exact ⟨hinv, .done _, rfl, rfl⟩
    | some cm =>
      refine ⟨hinv, ?_, rfl, rfl⟩
      dsimp only
      cases hbuild : buildConfiguration vectorId (order.range cm.data) with
      | error e => exact .done _
      | ok text => exact .store vectorId text (.inl ⟨cm, hcm, order, hbuild⟩)
  | store vectorId text hlive =>
    unfold storeConfiguration at hp
    split at hp
    · cases hp
    · next htext =>
      simp only [cacheSet, Prog.perform_bind] at hp
      cases hp
      refine ⟨fun v text' hc => ?_, .done _, rfl, rfl⟩
      by_cases hv : v = vectorId
      · subst hv
        have : text = text' := by simpa [exec, State.cacheSet, htext] using hc
        exact this ▸ hlive
      · have hc : s.cache v = some text' := by
          simpa [exec, State.cacheSet, Function.update_of_ne hv] using hc
        exact hinv v text' hc
  | done r => cases hp

theorem RequestAt.fault {op : Op} {k : Except ApiError op.Res → Program (Except String String)}
    (message : String) (h : RequestAt s (.call op k)) :
    RequestAt s (k (.error (.fault message))) := by
  generalize hp : Prog.call op k = p at h
  cases h with
  | begin order vectorId =>
    simp only [getConfiguration, cacheGet, Prog.perform_bind] at hp
    cases hp
    exact .fetch order vectorId
  | fetch order vectorId =>
    simp only [fetchConfiguration, getConfigMap, Prog.perform_bind] at hp
    cases hp
    exact .done _
  | store vectorId text hlive =>
    unfold storeConfiguration at hp
    split at hp
    · cases hp
    · simp only [cacheSet, Prog.perform_bind] at hp
      cases hp
      exact .done _
  | done r => cases hp

theorem live_congr {vectorId text : String} (hmaps : t.configMaps = s.configMaps)
    (hevents : t.events = s.events) (h : Live s vectorId text) : Live t vectorId text := by
  rw [Live, Current, Pending, hmaps, hevents]
  exact h

theorem service_assertions (J : Type) [DecidableEq J] :
    (service J).Assertions HandlesInTime Accounted (fun _ p s => RequestAt s p) where
  init s h := by
    intro vectorId text hc
    simp [h.1] at hc
  env pool c t hpool hc hok := by
    by_cases hdeliver : c = .deliver
    · subst hdeliver
      have hc : change .deliver pool.state = some t := hc
      simp only [change] at hc
      split at hc
      · cases hc
      · next e events hs =>
        obtain rfl := Option.some.inj hc
        refine ⟨fun vectorId text hcache => ?_, fun j p hrun => ?_⟩
        · obtain ⟨hcache, hnot⟩ := handleEvent_cache hcache
          exact (hpool.inv vectorId text hcache).deliver hs fun hi => absurd hi hnot
        · refine (hpool.left j p hrun).mono fun vectorId text k hp hlive => ?_
          exact hlive.deliver hs (hok e events hs j vectorId text k (hp ▸ hrun))
    · obtain ⟨hcache, hlive⟩ := change_keeps hc hdeliver
      refine ⟨fun vectorId text h => hlive _ _ (hpool.inv vectorId text (hcache ▸ h)),
        fun j p hrun => (hpool.left j p hrun).mono fun vectorId text k _ => hlive vectorId text⟩
  start j x s _ := .begin x.2 x.1
  call pool j op k hpool hrun _ := by
    obtain ⟨hinv, hown, hmaps, hevents⟩ := (hpool.left j _ hrun).call hpool.inv
    exact ⟨hinv, hown, fun j' p _ hrun' =>
      (hpool.left j' p hrun').mono fun _ _ _ _ h => live_congr hmaps hevents h⟩
  fault j op k message s _ h := h.fault message

/-- When all events are delivered the cache is coherent, as long as they were handled
in time. -/
theorem service_coherent (J : Type) [DecidableEq J] (pool : Service J)
    (h : (service J).system.Reaches HandlesInTime pool) (hev : pool.state.events = []) :
    Coherent pool.state := by
  intro vectorId text hc
  refine (((service_assertions J).reaches h).inv vectorId text hc).resolve_right ?_
  rintro ⟨e, he, -⟩
  simp [hev] at he

def oneVector : State where
  cache _ := none
  configMaps name := if name = "vector-data-v" then some ⟨[("features.json", "1")], 1⟩ else none
  events := []

theorem oneVector_init : (service Unit).system.init ⟨oneVector, fun _ => none⟩ :=
  ⟨⟨rfl, rfl⟩, fun _ => rfl⟩

/-- The request up to its last call, which stores the configuration. -/
def requestToStore : List (ServiceMove Unit) :=
  [.start () ("v", .insertion), .call (), .call ()]

/-- No request is about to store when an event is delivered. -/
def handlesIdle (pool : Service Unit) : ServiceMove Unit → Bool
  | .env .deliver => (pool.running ()).isNone
  | _ => true

theorem handlesIdle_handlesInTime (pool : Service Unit) (m : ServiceMove Unit)
    (h : handlesIdle pool m = true) : HandlesInTime pool m := by
  cases m with
  | env c =>
    cases c with
    | deliver =>
      intro e events _ j vectorId text k hrun
      have hnone : pool.running j = none := Option.isNone_iff_eq_none.mp h
      simp [hnone] at hrun
    | _ => trivial
  | _ => trivial

/-- The stored configuration is outdated by an update and removed with its event; a
second request caches the new one. -/
theorem service_coherent_after_update :
    ∃ pool, (service Unit).system.Reaches HandlesInTime pool ∧ pool.state.events = [] ∧
      pool.state.cache "v" = some "\x7b\"features\":2\x7d" ∧ Coherent pool.state := by
  obtain ⟨pool, hpool, hp⟩ := System.reaches_of_follow (service Unit).system
    (requestToStore ++ [.env (.update "vector-data-v" [("features.json", "2")]), .call (),
      .stop (), .env .deliver] ++ requestToStore ++ [.call (), .stop ()])
    (fun pool => pool.state.events = [] ∧ pool.state.cache "v" = some "\x7b\"features\":2\x7d")
    handlesIdle_handlesInTime oneVector_init (by decide +kernel)
  obtain ⟨hev, hcache⟩ := of_decide_eq_true hp
  exact ⟨pool, hpool, hev, hcache, service_coherent Unit pool hpool hev⟩

/-- The ConfigMap is updated and the event delivered between the fetch and the store.
The stale configuration stays in the cache. -/
theorem service_caches_stale :
    ∃ pool, (service Unit).system.Reachable pool ∧ pool.state.events = [] ∧
      (∀ j, pool.running j = none) ∧ ¬ Coherent pool.state := by
  obtain ⟨pool, hpool, hp⟩ := System.reachable_of_follow (service Unit).system
    (requestToStore ++ [.env (.update "vector-data-v" [("features.json", "2")]), .env .deliver,
      .call (), .stop ()])
    (fun pool => pool.state.events = [] ∧ (pool.running ()).isNone = true ∧
      pool.state.cache "v" = some "\x7b\"features\":1\x7d" ∧
      pool.state.configMaps "vector-data-v" = some ⟨[("features.json", "2")], 2⟩)
    oneVector_init (by decide +kernel)
  obtain ⟨hev, hidle, hcache, hcm⟩ := of_decide_eq_true hp
  refine ⟨pool, hpool, hev, fun _ => Option.isNone_iff_eq_none.mp hidle, fun h => ?_⟩
  obtain ⟨cm, hcm', order, hbuild⟩ := h "v" _ hcache
  obtain rfl := Option.some.inj (hcm.symm.trans hcm')
  rw [List.perm_singleton.mp (order.perm _)] at hbuild
  exact absurd hbuild (by decide +kernel)

end LandscapeOrchestrator.VectorDataService
