import LandscapeOrchestrator.Apilib.Paths
import LandscapeOrchestrator.VectorDataService.Coherence
import LandscapeOrchestrator.VectorDataService.Handlers
import LandscapeOrchestrator.VectorDataService.ReadBack

/-!
# Which vector data can be served

The endpoints against a ConfigMap that the controller wrote. The controller writes
`null` for absent features, and the service refuses features that are not an object.
-/

namespace LandscapeOrchestrator.VectorDataService
open Apilib Golib
open Jsonlib (Value Json decode)
open VectorDataController (ComponentDeploymentResults VectorDataSpec renderData)

/-- The answer to a request on its own, when the API server can be reached. -/
def answer (P : Platform) (order : RangeOrder (String × String)) (s : State) (request : Request) :
    Response :=
  ((handle P (getConfiguration order) request).run exec (fun _ => none) s).1

/-- The ConfigMap that the controller writes for the VectorData has these entries, and
what is cached for the vector was built from them. -/
structure Materialised (s : State) (name : String) (data : List (String × String)) : Prop where
  configMap : ∃ cm, s.configMaps (VectorDataController.configMapPrefix ++ name) = some cm ∧
    cm.data = data
  cache : ∀ text, s.cache name = some text → Current s name text

/-- Both endpoints answer for the vector, whatever flag they are asked for. -/
def Servable (P : Platform) (order : RangeOrder (String × String)) (s : State) (name : String) :
    Prop :=
  ∀ body, targetingKey P body = some name →
    (∀ ifNoneMatch, (answer P order s (.bulk ifNoneMatch body)).status = 200 ∨
      (answer P order s (.bulk ifNoneMatch body)).status = 304) ∧
    ∀ flagKey, (answer P order s (.single flagKey body)).status = 200 ∨
      (answer P order s (.single flagKey body)).status = 404

section

variable {P : Platform} {order : RangeOrder (String × String)} {s : State} {name : String}
  {data : List (String × String)}

/-- The configuration comes from the entries, be it through the cache. -/
theorem Materialised.getConfiguration (order : RangeOrder (String × String))
    (h : Materialised s name data) :
    ∃ order' : RangeOrder (String × String),
      ((getConfiguration order name).run exec (fun _ => none) s).1 =
        buildConfiguration name (order'.range data) := by
  obtain ⟨cm, hcm, rfl⟩ := h.configMap
  cases hcache : s.cache name with
  | none => exact ⟨order, getConfiguration_cold order hcache hcm⟩
  | some text =>
    obtain ⟨cm', hcm', order', hbuild⟩ := h.cache text hcache
    obtain rfl := Option.some.inj (hcm.symm.trans hcm')
    refine ⟨order', ?_⟩
    rw [hbuild]
    simp [VectorDataService.getConfiguration, cacheGet, Prog.run, exec, hcache]

theorem answer_of_configuration (request : Request) {config : Except String String}
    (hkey : targetingKey P request.body = some name)
    (hconfig : ((getConfiguration order name).run exec (fun _ => none) s).1 = config) :
    answer P order s request = request.evaluate P name config := by
  have hrun : (getConfiguration order name >>= fun c =>
      Prog.ret (request.evaluate P name c)).Attains exec
      (fun response _ => response = request.evaluate P name config) s := by
    refine Prog.Attains.bind (R := fun c _ => c = config) hconfig fun c t hc => ?_
    rw [Prog.attains_ret, hc]
  rw [answer, handle_of_some hkey]
  exact hrun

/-- What the service takes for the features of a text that represents a spec. -/
theorem getAllFeatures_of_represents {enc : ResultsEncoder} {spec : VectorDataSpec} {text : String}
    (h : Represents enc spec text) :
    getAllFeatures text = match rawValue spec.features with
      | some (.obj ms) => .ok (ms.foldl (fun m e => mapSet m e.1 e.2) [])
      | _ => .error "could not parse features json" := by
  obtain ⟨features, authored, results, hf, ha, -, hdecode⟩ := h
  have hlookup : ∃ m, (Jsonlib.decodeNext text).bind (Jsonlib.unmarshalMap []) = some m ∧
      m.lookup featuresField = some features := by
    rw [Jsonlib.decodeNext_of_decode hdecode]
    refine ⟨_, rfl, ?_⟩
    by_cases hr : results = []
    · simp [hr, mapSet, featuresField, List.lookup_cons]
    · simp [hr, mapSet, featuresField, List.lookup_cons]
  obtain ⟨m, hm, hfeatures⟩ := hlookup
  simp only [getAllFeatures, hm, hfeatures, hf]
  cases features <;> rfl

theorem ne_empty_of_represents {enc : ResultsEncoder} {spec : VectorDataSpec} {text : String}
    (h : Represents enc spec text) : text ≠ "" := by
  rintro rfl
  obtain ⟨features, authored, results, -, -, -, hdecode⟩ := h
  have hnone : decode "" = none := rfl
  rw [hnone] at hdecode
  cases hdecode

theorem respondBulk_status (ifNoneMatch : String) (flags : BulkResponse) :
    (respondBulk P ifNoneMatch flags).status = 200 ∨
      (respondBulk P ifNoneMatch flags).status = 304 := by
  unfold respondBulk
  split
  · exact .inr rfl
  · exact .inl rfl

/-- With readable features the bulk endpoint has its list, and the other one a value
or none. -/
theorem evaluate_of_features (vectorId : String) {config : String} {features : List (String × Value)}
    (hne : config ≠ "") (hf : getAllFeatures config = .ok features) :
    (∀ ifNoneMatch, (evaluateBulk P vectorId ifNoneMatch (.ok config)).status = 200 ∨
      (evaluateBulk P vectorId ifNoneMatch (.ok config)).status = 304) ∧
    ∀ flagKey, (evaluateSingle P vectorId flagKey (.ok config)).status = 200 ∨
      (evaluateSingle P vectorId flagKey (.ok config)).status = 404 := by
  constructor
  · intro ifNoneMatch
    simp only [evaluateBulk, hne, if_false, hf]
    exact respondBulk_status _ _
  · intro flagKey
    obtain ⟨value, hvalue⟩ : ∃ value,
        getFlagValueOrConfiguration P vectorId flagKey config = .ok value := by
      unfold getFlagValueOrConfiguration
      split
      · exact ⟨_, rfl⟩
      · exact ⟨_, by rw [hf]⟩
    simp only [evaluateSingle, hne, if_false, hvalue]
    cases value with
    | none => exact .inr rfl
    | some value => exact .inl rfl

end

/-- What the controller wrote for features that are absent, `null` or an object can be
served if and only if they are an object. -/
theorem servable_iff_features_object (P : Platform) (enc : ResultsEncoder)
    (order : RangeOrder (String × ComponentDeploymentResults))
    (order' : RangeOrder (String × String)) (name : String) (spec : VectorDataSpec)
    (data : List (String × String)) (hraw : RawJson spec)
    (hfeatures : rawValue spec.features = some .null ∨
      ∃ ms, rawValue spec.features = some (.obj ms))
    (hdata : renderData enc.marshal order spec = .ok data)
    (hlegal : ∀ entry ∈ data, isConfigMapKey entry.1 = true)
    (s : State) (hs : Materialised s name data) :
    Servable P order' s name ↔ ∃ ms, rawValue spec.features = some (.obj ms) := by
  obtain ⟨order'', hconfig⟩ := hs.getConfiguration order'
  obtain ⟨rfl, hkeys⟩ := VectorDataController.renderData_ok order
    (fun c hc => (enc.marshal_valid (hraw.results c (VectorDataController.mem_named.mp hc).1)).1) hdata
  obtain ⟨text, htext, hrep⟩ := buildConfiguration_rendered name hraw (order.perm _) hkeys hlegal
    (order''.perm _)
  have hread := getAllFeatures_of_represents hrep
  have hne := ne_empty_of_represents hrep
  rw [rendered, ← hconfig] at htext
  constructor
  · intro hserve
    obtain hnull | hobj := hfeatures
    · -- the bulk endpoint cannot read `null`
      rw [hnull] at hread
      have hkey : targetingKey P (Request.bulk "" (requestBody name)).body = some name :=
        targetingKey_requestBody P name
      have hstatus := (hserve _ (targetingKey_requestBody P name)).1 ""
      rw [answer_of_configuration _ hkey htext] at hstatus
      simp [Request.evaluate, evaluateBulk, hne, hread, internalServerErrorResponse] at hstatus
    · exact hobj
  · rintro ⟨ms, hobj⟩ body hkey
    rw [hobj] at hread
    obtain ⟨hbulk, hsingle⟩ := evaluate_of_features (P := P) name hne hread
    constructor
    · intro ifNoneMatch
      rw [answer_of_configuration (.bulk ifNoneMatch body) hkey htext]
      exact hbulk ifNoneMatch
    · intro flagKey
      rw [answer_of_configuration (.single flagKey body) hkey htext]
      exact hsingle flagKey

/-- The value is an object. -/
def isObject : Option Value → Bool
  | some (.obj _) => true
  | _ => false

theorem exists_of_isObject {v : Option Value} (h : isObject v = true) : ∃ ms, v = some (.obj ms) := by
  unfold isObject at h
  split at h
  · exact ⟨_, rfl⟩
  · cases h

theorem shopState_materialised : Materialised shopState "vd-1" shopData where
  configMap := ⟨⟨shopData, 1⟩, by decide +kernel, rfl⟩
  cache text h := by cases h

/-- The shop's vector data can be served. -/
theorem shop_servable :
    RawJson shopSpec ∧ renderData arrayEncoder.marshal .reversed shopSpec = .ok shopData ∧
      Materialised shopState "vd-1" shopData ∧
      Servable plainPlatform .reversed shopState "vd-1" := by
  have hobj : ∃ ms, rawValue shopSpec.features = some (.obj ms) :=
    exists_of_isObject (by decide +kernel)
  have hdata : renderData arrayEncoder.marshal .reversed shopSpec = .ok shopData := by
    decide +kernel
  exact ⟨shopSpec_wellFormed.toRawJson, hdata, shopState_materialised,
    (servable_iff_features_object plainPlatform arrayEncoder .reversed .reversed "vd-1" shopSpec
      shopData shopSpec_wellFormed.toRawJson (.inr hobj) hdata (by decide +kernel) shopState
      shopState_materialised).mpr hobj⟩

/-- A spec with nothing in it. -/
def bareSpec : VectorDataSpec where
  features := none
  authored := none
  deploymentResults := []
  components_nodup := List.nodup_nil

def bareData : List (String × String) := [("features.json", "null"), ("authored.json", "null")]

def bareState : State where
  cache _ := none
  configMaps name := if name = "vector-data-vd-1" then some ⟨bareData, 1⟩ else none
  events := []

/-- Absent features are written as `null`, and both endpoints then answer 500. -/
theorem absent_features_not_served :
    RawJson bareSpec ∧ rawValue bareSpec.features = some .null ∧
      renderData arrayEncoder.marshal .insertion bareSpec = .ok bareData ∧
      (∀ entry ∈ bareData, isConfigMapKey entry.1 = true) ∧
      Materialised bareState "vd-1" bareData ∧
      targetingKey plainPlatform (requestBody "vd-1") = some "vd-1" ∧
      (answer plainPlatform .insertion bareState (.bulk "" (requestBody "vd-1"))).status = 500 ∧
      (answer plainPlatform .insertion bareState
        (.single "darkMode" (requestBody "vd-1"))).status = 500 := by
  have hkey : targetingKey plainPlatform (requestBody "vd-1") = some "vd-1" :=
    targetingKey_requestBody plainPlatform "vd-1"
  have hconfig : ((getConfiguration .insertion "vd-1").run exec (fun _ => none) bareState).1 =
      .ok "\x7b\"authored\":null,\"features\":null\x7d" := by
    decide +kernel
  refine ⟨⟨rfl, rfl, by simp [bareSpec]⟩, rfl, by decide +kernel, by decide +kernel,
    ⟨⟨⟨bareData, 1⟩, by decide +kernel, rfl⟩, fun text h => by cases h⟩, hkey, ?_, ?_⟩
  · rw [answer_of_configuration (.bulk "" (requestBody "vd-1")) hkey hconfig]
    decide +kernel
  · rw [answer_of_configuration (.single "darkMode" (requestBody "vd-1")) hkey hconfig]
    decide +kernel

end LandscapeOrchestrator.VectorDataService
