import LandscapeOrchestrator.Apilib.Driven
import LandscapeOrchestrator.VectorDataController.Watches
import LandscapeOrchestrator.VectorDataService.Agreement
import LandscapeOrchestrator.VectorDataService.Servable

/-!
# From the VectorData to the flags

The controller with its queue and the service run side by side. What joins them are the
ConfigMaps of one namespace: the controller writes them, the service reads them and its
informer hears of them.

## Main definitions

- `announce` — what a step of the controller is for the service
- `landscape` — both, with everybody else
- `Request.ofFeatures` — the answer that a features object calls for
-/

namespace LandscapeOrchestrator.VectorDataService
open Apilib Golib
open Jsonlib (Value)
open VectorDataController (ComponentDeploymentResults UserMove VectorDataSpec named renderData)

abbrev ControllerStation :=
  Station NamespacedName VectorDataController.Op VectorDataController.Res (Except String Unit)
    VectorDataController.Cluster

abbrev ControllerMove :=
  StationMove UserMove NamespacedName (RangeOrder (String × ComponentDeploymentResults) × ℕ)

/-- The ConfigMap that the next call of a reconcile may write. -/
def written (st : ControllerStation) : ControllerMove → Option NamespacedName
  | .pool (.call req) => match st.running req with
    | some (.call (.createConfigMap key _) _) => some key
    | some (.call (.deleteConfigMap key) _) => some key
    | _ => none
  | _ => none

section

variable {J : Type}

/-- The change that makes the entries of a ConfigMap what they are now. -/
def changesTo (name : String) (data : Option (List (String × String))) (x : State) : List Change :=
  match x.configMaps name, data with
  | none, some data => [.create name ⟨data, 1⟩]
  | some _, none => [.delete name]
  | some cm, some data => if cm.data = data then [] else [.update name data]
  | none, none => []

/-- Only the ConfigMaps of the namespace `ns` concern the service. -/
def announce (ns : String) (st : ControllerStation) (m : ControllerMove) (st' : ControllerStation)
    (pool : Service J) : List (ServiceMove J) :=
  match written st m with
  | none => []
  | some key =>
    if key.ns = ns then
      (changesTo key.name ((st'.state.configMaps key).map (·.data)) pool.state).map .env
    else []

/-- The ConfigMaps of the vectors have the entries that the controller has written. -/
def Mirrors (ns : String) (st : ControllerStation) (pool : Service J) : Prop :=
  ∀ v, (pool.state.configMaps (configMapPrefix ++ v)).map (·.data) =
    (st.state.configMaps (VectorDataController.configMapKey ⟨ns, v⟩)).map (·.data)

/-- The move writes the ConfigMap of this name. -/
def Change.Writes (name : String) : Change → Prop
  | create n _ => n = name
  | update n _ => n = name
  | delete n => n = name
  | resync _ => False
  | deliver => False

/-- Events are handled in time, and nobody but the controller writes the ConfigMaps of
vectors. -/
def InOrder (x : ControllerStation × Service J) : ControllerMove ⊕ ServiceMove J → Prop
  | .inl _ => True
  | .inr m => HandlesInTime x.2 m ∧ ∀ c, m = .env c → ∀ v, ¬ c.Writes (configMapPrefix ++ v)

variable (J) [DecidableEq J]

/-- The controller, the users, the service with its requests `J`, and the informer. -/
def landscape (marshal : ComponentDeploymentResults → Except String String) (ns : String) :
    System (ControllerStation × Service J) (ControllerMove ⊕ ServiceMove J) :=
  (VectorDataController.watched marshal).system.drive (service J).system (announce ns) (Mirrors ns)

end

/-- What a request is answered when these are the members of the features object. -/
def Request.ofFeatures (P : Platform) (ms : List (String × Value)) : Request → Response
  | single flagKey _ => flagAnswer flagKey (parseFlagValue P (storedFlag ms flagKey))
  | bulk ifNoneMatch _ => respondBulk P ifNoneMatch (bulkFlags P (mapOf ms))

/-- The request does not ask for the whole configuration. -/
def Request.AsksFlags (P : Platform) (v : String) : Request → Prop
  | single flagKey _ => P.equalFold flagKey v = false
  | bulk _ _ => True

/-- The raw fields of the spec are JSON, and its component names give names of entries. -/
structure Storable (spec : VectorDataSpec) : Prop where
  raw : RawJson spec
  legal : ∀ c ∈ named spec.deploymentResults, isConfigMapKey
    (VectorDataController.resultsConfigKey (VectorDataController.componentBasename c.1)) = true

section Mirror

variable {J : Type} [DecidableEq J] {marshal : ComponentDeploymentResults → Except String String}
  {ns : String} {st st' : ControllerStation} {pool pool' : Service J}

/-- A change of the ConfigMaps is a move of the service. -/
theorem follow_change {c : Change} {x : State} (h : change c pool.state = some x) :
    (service J).system.follow (fun _ _ => true) pool [.env c] = some { pool with state := x } := by
  simp [System.follow, Workload.system, service, h]

/-- The announced changes can always be made, and leave the other ConfigMaps alone. -/
theorem follow_changesTo (pool : Service J) (name : String)
    (data : Option (List (String × String))) :
    ∃ x, (service J).system.follow (fun _ _ => true) pool
        ((changesTo name data pool.state).map .env) = some { pool with state := x } ∧
      (x.configMaps name).map (·.data) = data ∧
      ∀ other, other ≠ name → x.configMaps other = pool.state.configMaps other := by
  have hset {c : Change} (cm : Option ConfigMap) (events : List InformerEvent)
      (hc : change c pool.state = some (pool.state.setConfigMap name cm events))
      (hcm : cm.map (·.data) = data) :
      ∃ x, (service J).system.follow (fun _ _ => true) pool [.env c] =
          some { pool with state := x } ∧
        (x.configMaps name).map (·.data) = data ∧
        ∀ other, other ≠ name → x.configMaps other = pool.state.configMaps other :=
    ⟨_, follow_change hc, by simpa using hcm, fun _ hne => Function.update_of_ne hne _ _⟩
  cases hcm : pool.state.configMaps name with
  | none =>
    cases data with
    | none =>
      simp only [changesTo, hcm]
      exact ⟨pool.state, rfl, by rw [hcm, Option.map_none], fun _ _ => rfl⟩
    | some data =>
      simp only [changesTo, hcm]
      exact hset (some ⟨data, 1⟩) [] (by simp [change, hcm]) rfl
  | some cm =>
    cases data with
    | none =>
      simp only [changesTo, hcm]
      exact hset none [.deleted name] (by simp [change, hcm]) rfl
    | some data =>
      simp only [changesTo, hcm]
      split
      · next heq => exact ⟨pool.state, rfl, by rw [hcm, Option.map_some, heq], fun _ _ => rfl⟩
      · exact hset (some ⟨data, cm.resourceVersion + 1⟩)
          [.updated name cm.resourceVersion (cm.resourceVersion + 1)] (by simp [change, hcm]) rfl

theorem changesTo_ne_deliver {name : String} {data : Option (List (String × String))} {x : State}
    {c : Change} (h : c ∈ changesTo name data x) : c ≠ .deliver := by
  unfold changesTo at h
  split at h
  · simp [List.mem_singleton.mp h]
  · simp [List.mem_singleton.mp h]
  · split at h
    · cases h
    · simp [List.mem_singleton.mp h]
  · cases h

omit [DecidableEq J] in
/-- What is announced is not the delivery of an event. -/
theorem announce_handlesInTime {m : ControllerMove} {move : ServiceMove J}
    (h : move ∈ announce ns st m st' pool) (t : Service J) : HandlesInTime t move := by
  unfold announce at h
  split at h
  · cases h
  · split at h
    · obtain ⟨c, hc, rfl⟩ := List.mem_map.mp h
      cases c with
      | deliver => exact absurd rfl (changesTo_ne_deliver hc)
      | _ => trivial
    · cases h

/-- A step of the controller that may write no ConfigMap writes none. -/
theorem configMaps_of_written {m : ControllerMove} {key : NamespacedName}
    (hn : (VectorDataController.watched marshal).system.next st m = some st')
    (hkey : written st m ≠ some key) : st'.state.configMaps key = st.state.configMaps key := by
  cases Watched.next_stationStep hn with
  | deliver _ => rfl
  | resync _ => rfl
  | restart => rfl
  | pool _ hnext =>
    cases Workload.next_step hnext with
    | env h => exact congrFun (VectorDataController.userMove_keeps h).1 key
    | start j x => rfl
    | fault message h => rfl
    | stop j => rfl
    | @call req op k hrun =>
      have heffect := VectorDataController.exec_effect op st.state
      simp only [written, hrun] at hkey
      show (VectorDataController.exec op st.state).2.configMaps key = _
      generalize (VectorDataController.exec op st.state).2 = t at heffect
      cases heffect with
      | same => rfl
      | patchFinalizers before after hs =>
        rw [VectorDataController.writeFinalizers_configMaps]
      | patchStatus before after hs => rfl
      | createConfigMap k cm =>
        exact Function.update_of_ne (fun heq => hkey (congrArg some heq.symm)) _ _
      | deleteConfigMap k =>
        exact Function.update_of_ne (fun heq => hkey (congrArg some heq.symm)) _ _

theorem Mirrors.controllerStep {m : ControllerMove} (h : Mirrors ns st pool)
    (hn : (VectorDataController.watched marshal).system.next st m = some st')
    (hf : (service J).system.follow (fun _ _ => true) pool (announce ns st m st' pool) =
      some pool') : Mirrors ns st' pool' := by
  intro v
  by_cases hkey : written st m = some (VectorDataController.configMapKey ⟨ns, v⟩)
  · simp only [announce, hkey, VectorDataController.configMapKey, if_true] at hf
    obtain ⟨x, hx, hdata, -⟩ := follow_changesTo pool (VectorDataController.configMapPrefix ++ v)
      ((st'.state.configMaps ⟨ns, VectorDataController.configMapPrefix ++ v⟩).map (·.data))
    obtain rfl := Option.some.inj (hx.symm.trans hf)
    exact hdata
  · rw [configMaps_of_written hn hkey, ← h v]
    refine congrArg (Option.map _) ?_
    unfold announce at hf
    split at hf
    · obtain rfl := Option.some.inj hf
      rfl
    · next key hwritten =>
      split at hf
      · next hns =>
        have hne : configMapPrefix ++ v ≠ key.name := by
          intro heq
          exact hkey (hwritten.trans (congrArg some (NamespacedName.mk.injEq .. ▸ ⟨hns, heq.symm⟩)))
        obtain ⟨x, hx, -, hothers⟩ := follow_changesTo pool key.name
          ((st'.state.configMaps key).map (·.data))
        obtain rfl := Option.some.inj (hx.symm.trans hf)
        exact hothers _ hne
      · obtain rfl := Option.some.inj hf
        rfl

/-- A change that does not write a ConfigMap keeps it. -/
theorem change_configMaps {c : Change} {s t : State} {name : String} (hc : change c s = some t)
    (hw : ¬ c.Writes name) : t.configMaps name = s.configMaps name := by
  cases c with
  | create n cm =>
    simp only [change] at hc
    split at hc
    · cases hc
    · obtain rfl := Option.some.inj hc
      exact Function.update_of_ne (Ne.symm hw) _ _
  | update n data =>
    obtain ⟨cm, -, rfl⟩ := Option.map_eq_some_iff.mp hc
    exact Function.update_of_ne (Ne.symm hw) _ _
  | delete n =>
    obtain ⟨cm, -, rfl⟩ := Option.map_eq_some_iff.mp hc
    exact Function.update_of_ne (Ne.symm hw) _ _
  | resync n =>
    obtain ⟨cm, hcm, rfl⟩ := Option.map_eq_some_iff.mp hc
    rw [State.setConfigMap_configMaps, ← hcm, Function.update_eq_self]
  | deliver =>
    simp only [change] at hc
    split at hc
    · cases hc
    · next e events hs =>
      obtain rfl := Option.some.inj hc
      exact congrFun (handleEvent_configMaps { s with events := events } e).1 name

/-- The calls of a request write no ConfigMap. -/
theorem exec_configMaps (op : Op) (s : State) : (exec op s).2.configMaps = s.configMaps := by
  cases op with
  | getConfigMap name =>
    simp only [exec]
    split <;> rfl
  | cacheGet vectorId => rfl
  | cacheSet vectorId text => rfl

theorem Mirrors.serviceStep {m : ServiceMove J} (h : Mirrors ns st pool)
    (hn : (service J).system.next pool m = some pool')
    (hw : ∀ c, m = .env c → ∀ v, ¬ c.Writes (configMapPrefix ++ v)) : Mirrors ns st pool' := by
  intro v
  have hsame : pool'.state.configMaps (configMapPrefix ++ v) =
      pool.state.configMaps (configMapPrefix ++ v) := by
    cases Workload.next_step hn with
    | env hc => exact change_configMaps hc (hw _ rfl v)
    | start j x => rfl
    | fault message hrun => rfl
    | stop j => rfl
    | call hrun => exact congrFun (exec_configMaps _ _) _
  rw [hsame]
  exact h v

end Mirror

/-- With no event to come, every cached configuration is the one of its ConfigMap. -/
theorem Accounted.coherent {s : State} (h : Accounted s) (hevents : s.events = []) :
    Coherent s := by
  intro v text hc
  refine (h v text hc).resolve_right ?_
  rintro ⟨e, he, -⟩
  simp [hevents] at he

section Answers

variable {P : Platform} {order : RangeOrder (String × String)} {enc : ResultsEncoder}
  {spec : VectorDataSpec} {ms : List (String × Value)} {v : String} {s : State}

/-- A configuration with this features object is answered from it. -/
theorem evaluate_of_readFeatures {request : Request} {config : String}
    (hread : readFeatures config = .ok (mapOf ms)) (hflags : request.AsksFlags P v) :
    request.evaluate P v (.ok config) = request.ofFeatures P ms := by
  cases request with
  | single flagKey body =>
    have hsingle := evaluateSingle_of_ok P hflags hread
    rwa [lookup_mapOf] at hsingle
  | bulk ifNoneMatch body => exact evaluateBulk_of_ok P v ifNoneMatch hread

theorem Storable.rendered (h : Storable spec)
    {components : List (String × ComponentDeploymentResults)}
    (hperm : components.Perm spec.deploymentResults) :
    ∀ e ∈ rendered enc spec components, isConfigMapKey e.1 = true := by
  intro e he
  have hfixed : isConfigMapKey VectorDataController.featuresConfigKey = true ∧
      isConfigMapKey VectorDataController.authoredConfigKey = true := by decide
  obtain rfl | he := List.mem_cons.mp he
  · exact hfixed.1
  obtain rfl | he := List.mem_cons.mp he
  · exact hfixed.2
  obtain ⟨c, hc, rfl⟩ := List.mem_map.mp he
  obtain ⟨hc, hne⟩ := VectorDataController.mem_named.mp hc
  exact h.legal c (VectorDataController.mem_named.mpr ⟨hperm.mem_iff.mp hc, hne⟩)

/-- What the controller renders for a spec is answered from the features of the spec. -/
theorem answer_of_rendered {request : Request}
    {order' : RangeOrder (String × ComponentDeploymentResults)} {data : List (String × String)}
    (hspec : Storable spec) (hdata : renderData enc.marshal order' spec = .ok data)
    (hs : Materialised s v data) (hfeatures : rawValue spec.features = some (.obj ms))
    (hkey : targetingKey P request.body = some v) (hflags : request.AsksFlags P v) :
    answer P order s request = request.ofFeatures P ms := by
  obtain ⟨order'', hconfig⟩ := hs.getConfiguration order
  obtain ⟨rfl, hkeys⟩ := VectorDataController.renderData_ok order'
    (fun c hc => (enc.marshal_valid
      (hspec.raw.results c (VectorDataController.mem_named.mp hc).1)).1) hdata
  obtain ⟨text, htext, hrep⟩ := buildConfiguration_rendered v hspec.raw (order'.perm _) hkeys
    (hspec.rendered (order'.perm _)) (order''.perm _)
  have hread : readFeatures text = .ok (mapOf ms) := by
    rw [readFeatures, if_neg (ne_empty_of_represents hrep), getAllFeatures_of_represents hrep,
      hfeatures]
    rfl
  rw [rendered, ← hconfig] at htext
  rw [answer_of_configuration request hkey htext]
  exact evaluate_of_readFeatures hread hflags

/-- Without a ConfigMap there is nothing in the cache, and no flag. -/
theorem answer_of_absent {request : Request} (hs : Coherent s)
    (hcm : s.configMaps (configMapPrefix ++ v) = none)
    (hkey : targetingKey P request.body = some v) (hflags : request.AsksFlags P v) :
    answer P order s request = request.ofFeatures P [] := by
  have hcache : s.cache v = none := by
    by_contra hne
    obtain ⟨text, htext⟩ := Option.ne_none_iff_exists'.mp hne
    obtain ⟨cm, hcm', -⟩ := hs v text htext
    rw [hcm] at hcm'
    cases hcm'
  have hconfig : ((getConfiguration order v).run exec (fun _ => none) s).1 = .ok "" := by
    simp [getConfiguration, fetchConfiguration, cacheGet, getConfigMap, Prog.run, exec, hcache, hcm,
      ApiError.isNotFound]
  rw [answer_of_configuration request hkey hconfig]
  exact evaluate_of_readFeatures rfl hflags

end Answers

def vectorKey : NamespacedName := ⟨"shop", "vd-1"⟩

/-- A VectorData is created and materialized. -/
def materializeVector : List ControllerMove :=
  [.pool (.env (.create vectorKey "u1" [] shopSpec)), .deliver vectorKey,
    .pool (.start vectorKey (.insertion, 10))] ++ List.replicate 5 (.pool (.call vectorKey)) ++
    [.pool (.stop vectorKey)]

/-- A request that finds nothing in the cache. -/
def fillCache : List (ServiceMove Unit) :=
  [.start () ("vd-1", .insertion), .call (), .call (), .call (), .stop ()]

/-- The check that the run makes no change of its own to the ConfigMaps. -/
def leavesConfigMaps (_ : ControllerStation × Service Unit) :
    ControllerMove ⊕ ServiceMove Unit → Bool
  | .inr (.env _) => false
  | _ => true

theorem leavesConfigMaps_inOrder (x : ControllerStation × Service Unit)
    (m : ControllerMove ⊕ ServiceMove Unit) (h : leavesConfigMaps x m = true) : InOrder x m := by
  cases m with
  | inl m => trivial
  | inr m =>
    cases m with
    | env c => cases h
    | _ => exact ⟨trivial, fun c hc => by cases hc⟩

/-- The features have this flag on. -/
def turnsOn (k : String) : Option Value → Bool
  | some (.obj ms) => match storedFlag ms k with
    | some (.bool b) => b
    | _ => false
  | _ => false

theorem exists_of_turnsOn {k : String} {v : Option Value} (h : turnsOn k v = true) :
    ∃ ms, v = some (.obj ms) ∧ storedFlag ms k = some (.bool true) := by
  unfold turnsOn at h
  split at h
  · next ms =>
    split at h
    · next b hb => exact ⟨ms, rfl, h ▸ hb⟩
    · cases h
  · cases h

end LandscapeOrchestrator.VectorDataService
