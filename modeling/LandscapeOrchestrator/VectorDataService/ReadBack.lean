import LandscapeOrchestrator.VectorDataController.Render
import LandscapeOrchestrator.VectorDataService.Configuration

/-!
# The service reads back what the controller writes

The VectorData controller and the vector-data service agree on the layout of the
ConfigMap only by constants that each of them declares. Here the two meet: what
`renderData` writes, `getConfiguration` reads.
-/

namespace LandscapeOrchestrator.VectorDataService
open Apilib Golib
open Jsonlib (Value Json decode)
open VectorDataController (ComponentDeploymentResults VectorDataSpec componentBasename named renderData
  resultsConfigKey resultEntry rawOrNull Conflicting NulFree)

/-- The characters of a ConfigMap key. -/
def isKeyChar (c : Char) : Bool := c.isAlphanum || c = '-' || c = '.' || c = '_'

/-- What the API server accepts as a key. -/
def isConfigMapKey (key : String) : Bool := key.toList.all isKeyChar

theorem isSpace_range {c : Char} (h : isSpace c = true) : c.toNat ≤ 32 ∨ 127 < c.toNat := by
  simp only [isSpace, Bool.or_eq_true, decide_eq_true_eq, Bool.and_eq_true, List.mem_cons,
    List.not_mem_nil, or_false] at h
  rcases h with (((((((rfl | rfl) | rfl) | rfl) | rfl) | rfl) | h) | h)
  all_goals first | omega | decide

theorem isKeyChar_range {c : Char} (h : isKeyChar c = true) : 32 < c.toNat ∧ c.toNat ≤ 127 := by
  simp only [isKeyChar, Bool.or_eq_true, decide_eq_true_eq] at h
  rcases h with ((h | rfl) | rfl) | rfl
  · delta Char.isAlphanum Char.isAlpha Char.isUpper Char.isLower Char.isDigit at h
    simp only [Bool.or_eq_true, Bool.and_eq_true, decide_eq_true_eq, ge_iff_le,
      UInt32.le_iff_toNat_le] at h
    have hv : c.val.toNat = c.toNat := rfl
    simp at h
    omega
  all_goals decide

theorem isSpace_of_isKeyChar {c : Char} (h : isKeyChar c = true) : isSpace c = false := by
  by_contra hs
  have := isKeyChar_range h
  have := isSpace_range (Bool.of_not_eq_false hs)
  omega

/-- The suffix that the controller appends is what the service strips. -/
theorem deploymentName_append_suffix {basename : String}
    (h : ∀ c ∈ basename.toList, isKeyChar c = true) :
    deploymentName (basename ++ jsonSuffix) = basename := by
  have hspace : ∀ c ∈ (basename ++ jsonSuffix).toList, isSpace c = false := by
    intro c hc
    rw [String.toList_append, List.mem_append] at hc
    refine isSpace_of_isKeyChar (hc.elim (h c) fun hc => ?_)
    have hsuffix : jsonSuffix.toList.all isKeyChar = true := by decide
    exact List.all_eq_true.mp hsuffix c hc
  have hlen : (basename ++ jsonSuffix).length - jsonSuffix.length = basename.toList.length := by
    simp [String.length_toList]
  have hends : endsWithSuffix (basename ++ jsonSuffix) jsonSuffix = true := by
    rw [endsWithSuffix, if_neg (by simp), hlen, String.toList_append, List.drop_left]
    simp
  simp only [deploymentName, trimSpace_of_none hspace, hends, if_true, hlen]
  rw [String.toList_append, List.take_left, String.ofList_toList]

theorem isKeyChar_of_isConfigMapKey {basename : String}
    (h : isConfigMapKey (resultsConfigKey basename) = true) :
    ∀ c ∈ basename.toList, isKeyChar c = true := by
  intro c hc
  refine List.all_eq_true.mp h c ?_
  simp [resultsConfigKey, String.toList_append, hc]

/-- An entry of the controller is the member named by the basename. -/
theorem resultMember_resultEntry {text : ComponentDeploymentResults → String}
    {c : String × ComponentDeploymentResults}
    (h : isConfigMapKey (resultEntry text c).1 = true) :
    resultMember (resultEntry text c) = some (componentBasename c.1, text c.2) := by
  have hother : ¬ ((resultEntry text c).1 = featuresConfigKey ∨
      (resultEntry text c).1 = authoredConfigKey) :=
    not_or.mpr (VectorDataController.resultsConfigKey_ne_fixed (componentBasename c.1))
  have hcut : cutPrefix (resultsConfigKey (componentBasename c.1)) deploymentResultsPrefix =
      some (componentBasename c.1 ++ jsonSuffix) := by
    rw [resultsConfigKey, String.append_assoc]
    exact cutPrefix_append _ _
  rw [resultMember, if_neg hother, resultEntry, hcut, Option.map_some,
    deploymentName_append_suffix (isKeyChar_of_isConfigMapKey h)]

/-- The JSON value of a raw field, `null` when it is absent. -/
def rawValue : Option String → Option Value
  | none => some .null
  | some raw => if raw = "" then some .null else decode raw

theorem decode_rawOrNull (raw : Option String) : decode (rawOrNull raw) = rawValue raw := by
  have hnull : decode VectorDataController.jsonNullLiteral = some .null := rfl
  cases raw with
  | none => exact hnull
  | some raw =>
    by_cases h : raw = ""
    · simp [rawOrNull, rawValue, h, hnull]
    · simp [rawOrNull, rawValue, h]

/-- The encoder of deployment results writes JSON when the raw specs are JSON. -/
structure ResultsEncoder where
  marshal : ComponentDeploymentResults → Except String String
  valid : ∀ results, (∀ r ∈ results.getD [], (rawValue (some r.raw)).isSome) →
    ∃ text, marshal results = .ok text ∧ (decode text).isSome

namespace ResultsEncoder

/-- The text written for the results of a component. -/
def text (enc : ResultsEncoder) (results : ComponentDeploymentResults) : String :=
  match enc.marshal results with
  | .ok text => text
  | .error _ => ""

/-- The JSON value of the results of a component. -/
def json (enc : ResultsEncoder) (results : ComponentDeploymentResults) : Option Value :=
  match enc.marshal results with
  | .ok text => decode text
  | .error _ => none

theorem marshal_valid (enc : ResultsEncoder) {results : ComponentDeploymentResults}
    (h : ∀ r ∈ results.getD [], (rawValue (some r.raw)).isSome) :
    enc.marshal results = .ok (enc.text results) ∧
      decode (enc.text results) = enc.json results ∧ (decode (enc.text results)).isSome := by
  obtain ⟨text, ht, hd⟩ := enc.valid results h
  simp [ResultsEncoder.text, ResultsEncoder.json, ht, hd]

end ResultsEncoder

/-- The raw fields are JSON, as in every stored object. -/
structure RawJson (spec : VectorDataSpec) : Prop where
  features : (rawValue spec.features).isSome
  authored : (rawValue spec.authored).isSome
  results : ∀ c ∈ spec.deploymentResults, ∀ r ∈ c.2.getD [], (rawValue (some r.raw)).isSome

/-- The raw fields are JSON, and no result name or type holds a NUL. -/
structure WellFormed (spec : VectorDataSpec) : Prop extends RawJson spec where
  nulFree : ∀ c ∈ spec.deploymentResults, NulFree c.2

/-- The text is an object with the raw fields and, when a component has a name, the
deployment results: one member for each such component, under its basename. -/
def Represents (enc : ResultsEncoder) (spec : VectorDataSpec) (text : String) : Prop :=
  ∃ features authored results,
    rawValue spec.features = some features ∧ rawValue spec.authored = some authored ∧
    (results.map fun m : String × Value => (m.1, some m.2)).Perm
      ((named spec.deploymentResults).map fun c => (componentBasename c.1, enc.json c.2)) ∧
    decode text = some (.obj ([("authored", authored)] ++
      (if results = [] then [] else [("deploymentResults", .obj results)]) ++
      [("features", features)]))

/-- Encoding a configuration of JSON texts. -/
theorem Configuration.marshal_value {features authored : String}
    {results : List (String × String)} {f a : Value} (hf : decode features = some f)
    (ha : decode authored = some a) (hr : ∀ m ∈ results, (decode m.2).isSome) :
    ∃ text rs, (Configuration.mk (some features) (some authored) results).marshal = some text ∧
      (rs.map fun m : String × Value => (m.1, some m.2)).Perm
        (results.map fun m => (m.1, decode m.2)) ∧
      decode text = some (.obj ([("authored", a)] ++
        (if rs = [] then [] else [("deploymentResults", .obj rs)]) ++ [("features", f)])) := by
  obtain ⟨fv, hfc, hfv⟩ := Option.map_eq_some_iff.mp ((Jsonlib.compact_value _).trans hf)
  obtain ⟨av, hac, hav⟩ := Option.map_eq_some_iff.mp ((Jsonlib.compact_value _).trans ha)
  have hsort := (SliceSort.byKey (Prod.fst : String × String → String)).perm results
  obtain ⟨ms, hms, hval⟩ := marshalMembers_value fun m hm => hr m (hsort.mem_iff.mp hm)
  by_cases hnil : results = []
  · subst hnil
    refine ⟨Jsonlib.encode (.obj [(Jsonlib.quote "authored", av), (Jsonlib.quote "features", fv)]),
      [], ?_, .refl _, ?_⟩
    · simp [Configuration.marshal, marshalRaw, marshalMembers, marshalDeploymentResults, hfc, hac]
    · simp [Json.value, Json.valueMembers, hfv, hav]
  · refine ⟨Jsonlib.encode (.obj [(Jsonlib.quote "authored", av),
        (Jsonlib.quote "deploymentResults", .obj ms), (Jsonlib.quote "features", fv)]),
      Json.valueMembers ms, ?_, ?_, ?_⟩
    · simp [Configuration.marshal, marshalRaw, marshalMembers, marshalDeploymentResults,
        marshalMap, hfc, hac, hnil, hms]
    · rw [hval]
      exact hsort.map _
    · have hne : Json.valueMembers ms ≠ [] := by
        intro h
        rw [h] at hval
        have : (results.map fun m => (m.1, decode m.2)).length = 0 := by
          rw [← (hsort.map _).length_eq, ← hval]; rfl
        simp [hnil] at this
      simp [Json.value, Json.valueMembers, hfv, hav, hne]

/-- Without a cached configuration the lookup returns what the ConfigMap says. -/
theorem getConfiguration_cold (order : RangeOrder (String × String)) {vectorId : String} {s : State}
    {cm : ConfigMap} (hcache : s.cache vectorId = none)
    (hcm : s.configMaps (configMapPrefix ++ vectorId) = some cm) :
    ((getConfiguration order vectorId).run exec (fun _ => none) s).1 =
      buildConfiguration vectorId (order.range cm.data) := by
  simp only [getConfiguration, fetchConfiguration, cacheGet, getConfigMap, Prog.perform_bind,
    Prog.run, exec, hcache, hcm]
  cases buildConfiguration vectorId (order.range cm.data) with
  | error e => rfl
  | ok finalConfig =>
    dsimp only
    unfold storeConfiguration
    split
    · next h => rw [h]; rfl
    · rfl

/-- The entries that the controller writes for a spec without conflicts. -/
def rendered (enc : ResultsEncoder) (spec : VectorDataSpec)
    (components : List (String × ComponentDeploymentResults)) : List (String × String) :=
  (VectorDataController.featuresConfigKey, rawOrNull spec.features) ::
    (VectorDataController.authoredConfigKey, rawOrNull spec.authored) ::
    (named components).map (resultEntry enc.text)

section

variable {enc : ResultsEncoder} {spec : VectorDataSpec}
  {components : List (String × ComponentDeploymentResults)}

theorem rendered_keys_nodup
    (hkeys : ((named components).map fun c => componentBasename c.1).Nodup) :
    ((rendered enc spec components).map Prod.fst).Nodup := by
  have hresults : (((named components).map (resultEntry enc.text)).map Prod.fst).Nodup := by
    rw [List.map_map]
    have : (Prod.fst ∘ resultEntry enc.text : String × ComponentDeploymentResults → String) =
        resultsConfigKey ∘ fun c => componentBasename c.1 := rfl
    rw [this, ← List.map_map]
    exact hkeys.map fun a b => VectorDataController.resultsConfigKey_injective
  have hfixed : ∀ k ∈ ((named components).map (resultEntry enc.text)).map Prod.fst,
      k ≠ VectorDataController.featuresConfigKey ∧ k ≠ VectorDataController.authoredConfigKey := by
    intro k hk
    rw [List.map_map] at hk
    obtain ⟨c, -, rfl⟩ := List.mem_map.mp hk
    exact VectorDataController.resultsConfigKey_ne_fixed _
  rw [rendered, List.map_cons, List.map_cons, List.nodup_cons, List.nodup_cons]
  have hne : VectorDataController.featuresConfigKey ≠ VectorDataController.authoredConfigKey := by decide
  refine ⟨?_, fun h => (hfixed _ h).2 rfl, hresults⟩
  rw [List.mem_cons, not_or]
  exact ⟨hne, fun h => (hfixed _ h).1 rfl⟩

theorem filterMap_rendered
    (hlegal : ∀ e ∈ rendered enc spec components, isConfigMapKey e.1 = true) :
    (rendered enc spec components).filterMap resultMember =
      (named components).map fun c => (componentBasename c.1, enc.text c.2) := by
  have hf : ∀ v, resultMember (VectorDataController.featuresConfigKey, v) = none := fun v => rfl
  have ha : ∀ v, resultMember (VectorDataController.authoredConfigKey, v) = none := fun v => rfl
  rw [rendered, List.filterMap_cons_none (hf _), List.filterMap_cons_none (ha _),
    List.filterMap_map, ← List.filterMap_eq_map]
  refine List.filterMap_congr fun c hc => ?_
  refine resultMember_resultEntry (hlegal _ ?_)
  exact List.mem_cons_of_mem _ (List.mem_cons_of_mem _ (List.mem_map_of_mem hc))

theorem resultMembers_perm (hlegal : ∀ e ∈ rendered enc spec components, isConfigMapKey e.1 = true)
    {entries : List (String × String)} (hp : entries.Perm (rendered enc spec components)) :
    (entries.filterMap resultMember).Perm
      ((named components).map fun c => (componentBasename c.1, enc.text c.2)) := by
  have hmem := hp.filterMap resultMember
  rwa [filterMap_rendered hlegal] at hmem

/-- Whatever the order of the entries, the loop collects both fields and all results. -/
theorem combine_rendered (vectorId : String)
    (hkeys : ((named components).map fun c => componentBasename c.1).Nodup)
    (hlegal : ∀ e ∈ rendered enc spec components, isConfigMapKey e.1 = true)
    {entries : List (String × String)} (hp : entries.Perm (rendered enc spec components)) :
    combine vectorId .empty entries = .ok
      ⟨some (rawOrNull spec.features), some (rawOrNull spec.authored),
        entries.filterMap resultMember⟩ := by
  have hk : (entries.map Prod.fst).Nodup :=
    (hp.map Prod.fst).nodup_iff.mpr (rendered_keys_nodup hkeys)
  have hmem := resultMembers_perm hlegal hp
  have hnames : ((entries.filterMap resultMember).map Prod.fst).Nodup := by
    rw [(hmem.map Prod.fst).nodup_iff, List.map_map]
    exact hkeys
  have hnonempty : ∀ m ∈ entries.filterMap resultMember, m.1 ≠ "" := by
    intro m hm
    obtain ⟨c, hc, rfl⟩ := List.mem_map.mp (hmem.mem_iff.mp hm)
    exact mt VectorDataController.componentBasename_eq_empty.mp (VectorDataController.mem_named.mp hc).2
  have hfeatures : entries.lookup featuresConfigKey = some (rawOrNull spec.features) :=
    lookup_of_mem hk (hp.mem_iff.mpr List.mem_cons_self)
  have hauthored : entries.lookup authoredConfigKey = some (rawOrNull spec.authored) :=
    lookup_of_mem hk (hp.mem_iff.mpr (List.mem_cons_of_mem _ List.mem_cons_self))
  rw [combine_of_nodup .empty hk hnonempty hnames, hfeatures, hauthored]
  simp only [Configuration.empty, Option.some_or, List.nil_append]

/-- Whatever the order of the entries, the service combines them to the spec. -/
theorem buildConfiguration_rendered (vectorId : String) (hw : RawJson spec)
    (hc : components.Perm spec.deploymentResults)
    (hkeys : ((named components).map fun c => componentBasename c.1).Nodup)
    (hlegal : ∀ e ∈ rendered enc spec components, isConfigMapKey e.1 = true)
    {entries : List (String × String)} (hp : entries.Perm (rendered enc spec components)) :
    ∃ text, buildConfiguration vectorId entries = .ok text ∧ Represents enc spec text := by
  have hmem := resultMembers_perm hlegal hp
  have hcombine := combine_rendered vectorId hkeys hlegal hp
  -- every text that goes into the encoder is JSON
  have hjson : ∀ c ∈ named components, decode (enc.text c.2) = enc.json c.2 ∧
      (decode (enc.text c.2)).isSome := by
    intro c hcn
    exact (enc.marshal_valid
      (hw.results c (hc.mem_iff.mp (VectorDataController.mem_named.mp hcn).1))).2
  obtain ⟨f, hf⟩ := Option.isSome_iff_exists.mp hw.features
  obtain ⟨a, hau⟩ := Option.isSome_iff_exists.mp hw.authored
  have hr : ∀ m ∈ entries.filterMap resultMember, (decode m.2).isSome := by
    intro m hm
    obtain ⟨c, hc, rfl⟩ := List.mem_map.mp (hmem.mem_iff.mp hm)
    exact (hjson c hc).2
  obtain ⟨text, rs, htext, hrs, hdecode⟩ := Configuration.marshal_value
    ((decode_rawOrNull _).trans hf) ((decode_rawOrNull _).trans hau) hr
  refine ⟨text, ?_, f, a, rs, hf, hau, ?_, hdecode⟩
  · rw [buildConfiguration, hcombine]
    simp [htext, Configuration.empty]
  · refine hrs.trans ((hmem.map _).trans ?_)
    rw [List.map_map]
    have hval : (named components).map ((fun m : String × String => (m.1, decode m.2)) ∘
        fun c => (componentBasename c.1, enc.text c.2)) =
        (named components).map fun c => (componentBasename c.1, enc.json c.2) :=
      List.map_congr_left fun c hc => by
        rw [Function.comp_apply, (hjson c hc).1]
    rw [hval]
    exact (hc.filter _).map _

end

/-- The controller refuses a spec exactly when it has a conflict. Otherwise the
service, asked for the name of the VectorData, returns a text that represents the
spec, whatever the orders in which both sides range over their maps. -/
theorem getConfiguration_reads_renderData (enc : ResultsEncoder)
    (order : RangeOrder (String × ComponentDeploymentResults))
    (order' : RangeOrder (String × String)) (name : String) (spec : VectorDataSpec)
    (hw : WellFormed spec) :
    ((∃ e, renderData enc.marshal order spec = .error e) ↔ Conflicting spec) ∧
      ∀ data, renderData enc.marshal order spec = .ok data →
        (∀ entry ∈ data, isConfigMapKey entry.1 = true) →
        ∀ s cm, s.cache name = none →
          s.configMaps (VectorDataController.configMapPrefix ++ name) = some cm → cm.data = data →
          ∃ text, ((getConfiguration order' name).run exec (fun _ => none) s).1 = .ok text ∧
            Represents enc spec text := by
  have hok : ¬ Conflicting spec → renderData enc.marshal order spec =
      .ok (rendered enc spec (order.range spec.deploymentResults)) := by
    refine VectorDataController.renderData_of_not_conflicting order hw.nulFree fun c hc => ?_
    exact (enc.marshal_valid (hw.results c (VectorDataController.mem_named.mp hc).1)).1
  have hfail : Conflicting spec → ∃ e, renderData enc.marshal order spec = .error e :=
    VectorDataController.renderData_of_conflicting order hw.nulFree
  refine ⟨⟨?_, hfail⟩, ?_⟩
  · rintro ⟨e, he⟩
    by_contra h
    rw [hok h] at he
    cases he
  · intro data hdata hlegal s cm hcache hcm hcmdata
    have h : ¬ Conflicting spec := by
      intro h
      obtain ⟨e, he⟩ := hfail h
      rw [he] at hdata
      cases hdata
    obtain rfl := Except.ok.inj ((hok h).symm.trans hdata)
    rw [getConfiguration_cold order' hcache hcm, hcmdata]
    exact buildConfiguration_rendered name hw.toRawJson (order.perm _)
      ((VectorDataController.accepts_range order spec).mpr h).keys hlegal (order'.perm _)

def marshalResult (r : DeploymentResult) : Option Json :=
  (Jsonlib.compact (rawOrNull (some r.raw))).map fun v =>
    .obj [(Jsonlib.quote "name", .str (Jsonlib.quote r.name)),
      (Jsonlib.quote "type", .str (Jsonlib.quote r.type)), (Jsonlib.quote "spec", v)]

def marshalElems : List DeploymentResult → Option (List Json)
  | [] => some []
  | r :: rs => match marshalResult r, marshalElems rs with
    | some v, some vs => some (v :: vs)
    | _, _ => none

theorem marshalElems_valid {rs : List DeploymentResult}
    (h : ∀ r ∈ rs, (rawValue (some r.raw)).isSome) : ∃ vs, marshalElems rs = some vs := by
  induction rs with
  | nil => exact ⟨[], rfl⟩
  | cons r rs ih =>
    obtain ⟨hr, h⟩ := List.forall_mem_cons.mp h
    obtain ⟨vs, hvs⟩ := ih h
    rw [← decode_rawOrNull, ← Jsonlib.compact_value, Option.isSome_map,
      Option.isSome_iff_exists] at hr
    obtain ⟨v, hv⟩ := hr
    simp [marshalElems, marshalResult, hv, hvs]

/-- Results as an array of objects. -/
def arrayEncoder : ResultsEncoder where
  marshal
    | none => .ok (Jsonlib.encode .null)
    | some rs => match marshalElems rs with
      | some vs => .ok (Jsonlib.encode (.arr vs))
      | none => .error "json: error calling MarshalJSON for type runtime.RawExtension"
  valid results h := by
    cases results with
    | none => exact ⟨_, rfl, by rw [Jsonlib.decode_encode]; rfl⟩
    | some rs =>
      obtain ⟨vs, hvs⟩ : ∃ vs, marshalElems rs = some vs := marshalElems_valid h
      exact ⟨Jsonlib.encode (.arr vs), by simp only [hvs], by rw [Jsonlib.decode_encode]; rfl⟩

/-- A dotted component name that itself ends in the suffix, one without a path, and
one without a name. -/
def shopSpec : VectorDataSpec where
  features := some "\x7b \"darkMode\" : true \x7d"
  authored := none
  deploymentResults :=
    [("github.com/acme/shop.JSON", some [⟨"shop", "http-k8s-service", "\x7b\"K8sName\":\"shop-1\"\x7d"⟩]),
      ("billing", none), ("", some [])]
  components_nodup := by decide

theorem shopSpec_wellFormed : WellFormed shopSpec where
  features := by decide +kernel
  authored := rfl
  results := by decide +kernel
  nulFree := by
    unfold NulFree
    decide +kernel

def shopData : List (String × String) :=
  [("features.json", "\x7b \"darkMode\" : true \x7d"), ("authored.json", "null"),
    ("deploymentResults.billing.json", "null"),
    ("deploymentResults.shop.JSON.json",
      "[\x7b\"name\":\"shop\",\"type\":\"http-k8s-service\",\"spec\":\x7b\"K8sName\":\"shop-1\"\x7d\x7d]")]

/-- A cold cache and one ConfigMap. -/
def shopState : State where
  cache _ := none
  configMaps name := if name = "vector-data-vd-1" then some ⟨shopData, 1⟩ else none
  events := []

theorem shopData_read_back :
    WellFormed shopSpec ∧ renderData arrayEncoder.marshal .reversed shopSpec = .ok shopData ∧
      ∃ text, ((getConfiguration .reversed "vd-1").run exec (fun _ => none) shopState).1 =
        .ok text ∧ Represents arrayEncoder shopSpec text := by
  have hdata : renderData arrayEncoder.marshal .reversed shopSpec = .ok shopData := by
    decide +kernel
  exact ⟨shopSpec_wellFormed, hdata,
    (getConfiguration_reads_renderData arrayEncoder .reversed .reversed "vd-1" shopSpec
      shopSpec_wellFormed).2 shopData hdata (by decide +kernel) shopState ⟨shopData, 1⟩ rfl
      (by decide +kernel) rfl⟩

end LandscapeOrchestrator.VectorDataService
