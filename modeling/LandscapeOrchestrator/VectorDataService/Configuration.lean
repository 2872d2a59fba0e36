import LandscapeOrchestrator.Apilib.Program
import LandscapeOrchestrator.Golib.Iteration
import LandscapeOrchestrator.Golib.Maps
import LandscapeOrchestrator.Golib.Strings
import LandscapeOrchestrator.Jsonlib.Value
import Mathlib.Logic.Function.Basic

/-!
# The vector-data service

How the service resolves the configuration of a vector: from its cache, or else
from a ConfigMap, whose entries it combines to one JSON text and stores.

## Main definitions

- `State`, `Op`, `exec` — the cache, the ConfigMaps, and the calls on them
- `combine` — the loop over the entries of a ConfigMap
- `buildConfiguration` — the text for the entries of a ConfigMap
- `getConfiguration` — the whole lookup
-/

namespace LandscapeOrchestrator.VectorDataService
open Apilib Golib
open Jsonlib (StrLit Json)

def featuresConfigKey : String := "features.json"
def authoredConfigKey : String := "authored.json"
def deploymentResultsPrefix : String := "deploymentResults."
def jsonSuffix : String := ".json"
def configMapPrefix : String := "vector-data-"

structure ConfigMap where
  data : List (String × String)
  resourceVersion : ℕ
  deriving DecidableEq

/-- What the informer reports. A resync is an update between equal versions. -/
inductive InformerEvent where
  | updated (name : String) (oldVersion newVersion : ℕ)
  | deleted (name : String)
  deriving DecidableEq

/-- `cache` is the store of the in-memory cache by vector id, `configMaps` are the
ConfigMaps of the namespace by name, and `events` those the informer has not
handled yet. -/
structure State where
  cache : String → Option String
  configMaps : String → Option ConfigMap
  events : List InformerEvent

inductive Op where
  | cacheGet (key : String)
  | getConfigMap (name : String)
  | cacheSet (key val : String)
  deriving DecidableEq

abbrev Op.Res : Op → Type
  | cacheGet _ => Option String
  | getConfigMap _ => ConfigMap
  | cacheSet _ _ => Unit

/-- `InMemoryCache.Set`: an empty value removes the entry. -/
def State.cacheSet (s : State) (key val : String) : State :=
  { s with cache := Function.update s.cache key (if val = "" then none else some val) }

def exec : Exec Op Op.Res State
  | .cacheGet key, s => (.ok (s.cache key), s)
  | .getConfigMap name, s => match s.configMaps name with
    | none => (.error (.notFound ("configmaps \"" ++ name ++ "\" not found")), s)
    | some cm => (.ok cm, s)
  | .cacheSet key val, s => (.ok (), s.cacheSet key val)

abbrev Program := Prog Op Op.Res

def cacheGet (key : String) : Program (Except ApiError (Option String)) :=
  Prog.perform (Op.cacheGet key)

def getConfigMap (name : String) : Program (Except ApiError ConfigMap) :=
  Prog.perform (Op.getConfigMap name)

def cacheSet (key val : String) : Program (Except ApiError Unit) :=
  Prog.perform (Op.cacheSet key val)

/-- The source compares bytes. With an ASCII suffix this is the same over
characters: no character of several bytes folds into as many ASCII bytes. -/
def endsWithSuffix (str suffix : String) : Bool :=
  if str.length < suffix.length then false
  else (str.toList.drop (str.length - suffix.length)).map Char.toLower
    = suffix.toList.map Char.toLower

/-- The name under which the results of a key are offered; `rest` is the key without
its prefix. -/
def deploymentName (rest : String) : String :=
  let name := trimSpace rest
  if endsWithSuffix name jsonSuffix
  then String.ofList (name.toList.take (name.length - jsonSuffix.length)) else name

/-- The members of the configuration, each a raw JSON text. -/
structure Configuration where
  features : Option String
  authored : Option String
  deploymentResults : List (String × String)
  deriving DecidableEq, Repr

def Configuration.empty : Configuration := ⟨none, none, []⟩

/-- The loop over the entries. Entries with other keys are ignored. -/
def combine (vectorId : String) : Configuration → List (String × String) →
    Except String Configuration
  | acc, [] => .ok acc
  | acc, (key, value) :: entries =>
    if key = featuresConfigKey then combine vectorId { acc with features := some value } entries
    else if key = authoredConfigKey then
      combine vectorId { acc with authored := some value } entries
    else match cutPrefix key deploymentResultsPrefix with
      | none => combine vectorId acc entries
      | some rest =>
        if deploymentName rest = "" then
          .error ("configMap '" ++ vectorId ++ "' contains an invalid deploymentResult name: " ++ key)
        else combine vectorId
          { acc with deploymentResults := mapSet acc.deploymentResults (deploymentName rest) value }
          entries

/-- The members of an object whose values are raw texts. A text that is not JSON is
an error. -/
def marshalMembers : List (String × String) → Option (List (StrLit × Json))
  | [] => some []
  | (name, raw) :: members =>
    match Jsonlib.compact raw, marshalMembers members with
    | some v, some ms => some ((Jsonlib.quote name, v) :: ms)
    | _, _ => none

/-- The encoder writes the keys of a map in ascending order. -/
def marshalMap (m : List (String × String)) : Option Json :=
  (marshalMembers ((SliceSort.byKey Prod.fst).sort m)).map .obj

def marshalRaw (name : String) : Option String → Option (List (StrLit × Json))
  | none => some []
  | some raw => marshalMembers [(name, raw)]

def marshalDeploymentResults (results : List (String × String)) :
    Option (List (StrLit × Json)) :=
  if results = [] then some []
  else (marshalMap results).map fun v => [(Jsonlib.quote "deploymentResults", v)]

def Configuration.marshal (c : Configuration) : Option String :=
  match marshalRaw "authored" c.authored, marshalDeploymentResults c.deploymentResults,
    marshalRaw "features" c.features with
  | some authored, some results, some features =>
    some (Jsonlib.encode (.obj (authored ++ results ++ features)))
  | _, _, _ => none

/-- The configuration for the entries of a ConfigMap, as they are ranged over; empty
when no entry contributes. -/
def buildConfiguration (vectorId : String) (entries : List (String × String)) :
    Except String String :=
  match combine vectorId .empty entries with
  | .error e => .error e
  | .ok c =>
    if c = .empty then .ok ""
    else match c.marshal with
      | none => .error ("configMap '" ++ vectorId ++ "' contains invalid json")
      | some text => .ok text

/-- Keep a configuration that was fetched. An empty one is returned before the cache
is updated. -/
def storeConfiguration (vectorId finalConfig : String) : Program (Except String String) := do
  if finalConfig = "" then return .ok ""
  else
    let _ ← cacheSet vectorId finalConfig
    return .ok finalConfig

/-- The function that requests for one vector share. Here every request makes the fetch
for itself; those that join a flight only take its result. -/
def fetchConfiguration (order : RangeOrder (String × String)) (vectorId : String) :
    Program (Except String String) := do
  match ← getConfigMap (configMapPrefix ++ vectorId) with
  | .error e => if e.isNotFound then return .ok "" else return .error e.message
  | .ok cm =>
    match buildConfiguration vectorId (order.range cm.data) with
    | .error e => return .error e
    | .ok finalConfig => storeConfiguration vectorId finalConfig

/-- Resolve the configuration of a vector. The cache does not fail. -/
def getConfiguration (order : RangeOrder (String × String)) (vectorId : String) :
    Program (Except String String) := do
  match ← cacheGet vectorId with
  | .ok (some cachedConfig) => return .ok cachedConfig
  | _ => fetchConfiguration order vectorId

/-- The member that an entry adds to the deployment results. -/
def resultMember (entry : String × String) : Option (String × String) :=
  if entry.1 = featuresConfigKey ∨ entry.1 = authoredConfigKey then none
  else (cutPrefix entry.1 deploymentResultsPrefix).map fun rest => (deploymentName rest, entry.2)

/-- When no two entries contribute to one member, nothing is lost or overwritten. -/
theorem combine_of_nodup {vectorId : String} (acc : Configuration)
    {entries : List (String × String)} (hk : (entries.map Prod.fst).Nodup)
    (hname : ∀ m ∈ entries.filterMap resultMember, m.1 ≠ "")
    (hr : (acc.deploymentResults.map Prod.fst ++
      (entries.filterMap resultMember).map Prod.fst).Nodup) :
    combine vectorId acc entries = .ok
      ⟨(entries.lookup featuresConfigKey).or acc.features,
        (entries.lookup authoredConfigKey).or acc.authored,
        acc.deploymentResults ++ entries.filterMap resultMember⟩ := by
  induction entries generalizing acc with
  | nil => simp [combine]
  | cons entry entries ih =>
    obtain ⟨key, value⟩ := entry
    rw [List.map_cons, List.nodup_cons] at hk
    obtain ⟨hnew, hk⟩ := hk
    unfold combine
    by_cases hf : key = featuresConfigKey
    · subst hf
      have hm : resultMember (featuresConfigKey, value) = none := by simp [resultMember]
      rw [List.filterMap_cons_none hm] at hname hr ⊢
      rw [if_pos rfl, ih { acc with features := some value } hk hname hr, lookup_eq_none_of_new hnew]
      simp [List.lookup_cons, featuresConfigKey, authoredConfigKey]
    by_cases ha : key = authoredConfigKey
    · subst ha
      have hm : resultMember (authoredConfigKey, value) = none := by simp [resultMember]
      rw [List.filterMap_cons_none hm] at hname hr ⊢
      rw [if_neg hf, if_pos rfl, ih { acc with authored := some value } hk hname hr, lookup_eq_none_of_new hnew]
      simp [List.lookup_cons, featuresConfigKey, authoredConfigKey]
    have hskip : ∀ k, k ≠ key → List.lookup k ((key, value) :: entries) = entries.lookup k := by
      intro k hne
      rw [List.lookup_cons, beq_false_of_ne hne]
    rw [if_neg hf, if_neg ha, hskip _ (Ne.symm hf), hskip _ (Ne.symm ha)]
    cases hc : cutPrefix key deploymentResultsPrefix with
    | none =>
      have hm : resultMember (key, value) = none := by simp [resultMember, hc]
      rw [List.filterMap_cons_none hm] at hname hr ⊢
      exact ih acc hk hname hr
    | some rest =>
      have hm : resultMember (key, value) = some (deploymentName rest, value) := by
        simp [resultMember, hf, ha, hc]
      rw [List.filterMap_cons_some hm] at hname hr ⊢
      obtain ⟨hne, hname⟩ := List.forall_mem_cons.mp hname
      simp only [List.map_cons] at hr
      have hfresh : deploymentName rest ∉ acc.deploymentResults.map Prod.fst := by
        intro h
        exact List.disjoint_of_nodup_append hr h List.mem_cons_self
      dsimp only
      rw [if_neg hne, mapSet_of_new hfresh, ih _ hk hname (by simpa using hr)]
      simp

/-- Texts that are all JSON can be encoded. The members keep their names and values. -/
theorem marshalMembers_value {members : List (String × String)}
    (h : ∀ m ∈ members, (Jsonlib.decode m.2).isSome) :
    ∃ ms, marshalMembers members = some ms ∧
      (Json.valueMembers ms).map (fun m => (m.1, some m.2)) =
        members.map fun m => (m.1, Jsonlib.decode m.2) := by
  induction members with
  | nil => exact ⟨[], rfl, rfl⟩
  | cons m members ih =>
    obtain ⟨hm, h⟩ := List.forall_mem_cons.mp h
    obtain ⟨ms, hms, hval⟩ := ih h
    rw [← Jsonlib.compact_value, Option.isSome_map, Option.isSome_iff_exists] at hm
    obtain ⟨v, hv⟩ := hm
    refine ⟨(Jsonlib.quote m.1, v) :: ms, by simp [marshalMembers, hv, hms], ?_⟩
    simp [Json.valueMembers, hval, ← Jsonlib.compact_value, hv]

end LandscapeOrchestrator.VectorDataService
