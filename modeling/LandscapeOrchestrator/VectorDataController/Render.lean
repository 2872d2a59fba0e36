import LandscapeOrchestrator.DeploymentResult
import LandscapeOrchestrator.Golib.Format
import LandscapeOrchestrator.Golib.Iteration
import LandscapeOrchestrator.Golib.Maps
import LandscapeOrchestrator.Golib.Strings
import LandscapeOrchestrator.Jsonlib.Value

/-!
# Rendering vector data

How the VectorData controller lays out the spec of a VectorData in the data of a
ConfigMap: two fixed keys for the raw fields, and one key for each component.

## Main definitions

- `VectorDataSpec` — the spec, with the results of each component
- `renderData` — the data of the ConfigMap, or the reason why there is none
- `Conflicting` — two components would share a key, or one has ambiguous results
-/

namespace LandscapeOrchestrator.VectorDataController
open Golib

def configMapPrefix : String := "vector-data-"
def featuresConfigKey : String := "features.json"
def authoredConfigKey : String := "authored.json"
def deploymentResultsPrefix : String := "deploymentResults."
def jsonSuffix : String := ".json"
def jsonNullLiteral : String := "null"

/-- The results of one component; `none` is the nil slice, which JSON has as `null`. -/
abbrev ComponentDeploymentResults := Option (List DeploymentResult)

/-- The raw fields hold JSON texts. `deploymentResults` are the entries of a map
from component to results. -/
structure VectorDataSpec where
  features : Option String
  authored : Option String
  deploymentResults : List (String × ComponentDeploymentResults)
  components_nodup : (deploymentResults.map Prod.fst).Nodup
  deriving DecidableEq

inductive RenderError where
  | sameKey (other component basename : String)
  | duplicateResult (component name type : String)
  | marshal (component cause : String)
  deriving DecidableEq, Repr

def RenderError.message : RenderError → String
  | sameKey other component basename =>
    "components " ++ quote other ++ " and " ++ quote component
      ++ " map to the same deployment-result key " ++ quote basename
  | duplicateResult component name type =>
    "component " ++ quote component ++ " has duplicate deployment result (name=" ++ quote name
      ++ ", type=" ++ quote type ++ ")"
  | marshal component cause =>
    "marshal deployment results for component " ++ quote component ++ ": " ++ cause

/-- The last path segment of a component name. A name that ends in a slash is kept. -/
def componentBasename (component : String) : String :=
  match lastIndex '/' component.toList with
  | some idx =>
    if idx < component.length - 1 then String.ofList (component.toList.drop (idx + 1))
    else component
  | none => component

def rawOrNull : Option String → String
  | none => jsonNullLiteral
  | some raw => if raw = "" then jsonNullLiteral else raw

def resultKey (r : DeploymentResult) : String := r.name ++ "\x00" ++ r.type

/-- The first result whose key was seen before. -/
def duplicateResult : List String → List DeploymentResult → Option DeploymentResult
  | _, [] => none
  | seen, r :: rs => if resultKey r ∈ seen then some r else duplicateResult (resultKey r :: seen) rs

def assertUniqueResults (component : String) (results : ComponentDeploymentResults) :
    Option RenderError :=
  (duplicateResult [] (results.getD [])).map fun r => .duplicateResult component r.name r.type

def resultsConfigKey (basename : String) : String :=
  deploymentResultsPrefix ++ basename ++ jsonSuffix

/-- The loop over the components. `seen` maps each basename to its component. -/
def renderResults (marshal : ComponentDeploymentResults → Except String String) :
    List (String × String) → List (String × String) →
      List (String × ComponentDeploymentResults) → Except RenderError (List (String × String))
  | _, data, [] => .ok data
  | seen, data, (component, results) :: rest =>
    let basename := componentBasename component
    if basename = "" then renderResults marshal seen data rest
    else match seen.lookup basename with
      | some other => .error (.sameKey other component basename)
      | none => match assertUniqueResults component results with
        | some e => .error e
        | none => match marshal results with
          | .error cause => .error (.marshal component cause)
          | .ok encoded =>
            renderResults marshal (mapSet seen basename component)
              (mapSet data (resultsConfigKey basename) encoded) rest

def renderData (marshal : ComponentDeploymentResults → Except String String)
    (order : RangeOrder (String × ComponentDeploymentResults)) (spec : VectorDataSpec) :
    Except RenderError (List (String × String)) :=
  renderResults marshal []
    [(featuresConfigKey, rawOrNull spec.features), (authoredConfigKey, rawOrNull spec.authored)]
    (order.range spec.deploymentResults)

theorem componentBasename_eq_empty {component : String} :
    componentBasename component = "" ↔ component = "" := by
  constructor
  · intro h
    unfold componentBasename at h
    split at h
    · next idx _ =>
      split at h
      · next hlt =>
        have hdrop := congrArg String.toList h
        simp only [String.toList_ofList, String.toList_empty, List.drop_eq_nil_iff,
          String.length_toList] at hdrop
        omega
      · exact h
    · exact h
  · rintro rfl
    decide

theorem resultsConfigKey_injective {a b : String} (h : resultsConfigKey a = resultsConfigKey b) :
    a = b := by
  simpa [resultsConfigKey, String.ext_iff, String.toList_append] using h

theorem resultsConfigKey_ne_fixed (basename : String) :
    resultsConfigKey basename ≠ featuresConfigKey ∧
      resultsConfigKey basename ≠ authoredConfigKey := by
  have head : ∀ s, (resultsConfigKey s).toList.head? = some 'd' := by
    intro s
    simp [resultsConfigKey, deploymentResultsPrefix, String.toList_append]
  exact ⟨fun h => absurd (h ▸ head basename) (by decide),
    fun h => absurd (h ▸ head basename) (by decide)⟩

theorem duplicateResult_eq_none {seen : List String} {rs : List DeploymentResult} :
    duplicateResult seen rs = none ↔
      (rs.map resultKey).Nodup ∧ ∀ r ∈ rs, resultKey r ∉ seen := by
  induction rs generalizing seen with
  | nil => simp [duplicateResult]
  | cons r rs ih =>
    unfold duplicateResult
    by_cases hr : resultKey r ∈ seen
    · simp [hr]
    · rw [if_neg hr, ih, List.map_cons, List.nodup_cons, List.forall_mem_cons]
      simp only [List.mem_map, not_exists, not_and, List.mem_cons, not_or]
      constructor
      · rintro ⟨hnd, hrs⟩
        exact ⟨⟨fun x hx hk => (hrs x hx).1 hk, hnd⟩, hr, fun x hx => (hrs x hx).2⟩
      · rintro ⟨⟨hnew, hnd⟩, -, hrs⟩
        exact ⟨hnd, fun x hx => ⟨hnew x hx, hrs x hx⟩⟩

/-- Consumers resolve a result by its name and type. -/
def UniqueResults (results : ComponentDeploymentResults) : Prop :=
  ((results.getD []).map fun r => (r.name, r.type)).Nodup

instance (results : ComponentDeploymentResults) : Decidable (UniqueResults results) :=
  inferInstanceAs (Decidable (List.Nodup _))

/-- The components that get a key. -/
def named (components : List (String × ComponentDeploymentResults)) :
    List (String × ComponentDeploymentResults) :=
  components.filter fun c => c.1 ≠ ""

/-- No result's name or type holds the separator of `resultKey`. -/
def NulFree (results : ComponentDeploymentResults) : Prop :=
  ∀ r ∈ results.getD [], '\x00' ∉ r.name.toList ∧ '\x00' ∉ r.type.toList

theorem resultKey_injective {r r' : DeploymentResult}
    (h : '\x00' ∉ r.name.toList ∧ '\x00' ∉ r.type.toList) (hk : resultKey r = resultKey r') :
    r.name = r'.name ∧ r.type = r'.type := by
  have hk := congrArg String.toList hk
  simp only [resultKey, String.toList_append, List.append_assoc] at hk
  obtain ⟨hname, -, htype⟩ := (List.append_cons_inj_of_notMem h.1 h.2).mp hk
  exact ⟨String.toList_inj.mp hname, String.toList_inj.mp htype⟩

theorem assertUniqueResults_eq_none {component : String} {results : ComponentDeploymentResults}
    (hn : NulFree results) :
    assertUniqueResults component results = none ↔ UniqueResults results := by
  rw [assertUniqueResults, Option.map_eq_none_iff, duplicateResult_eq_none]
  simp only [List.not_mem_nil, not_false_eq_true, implies_true, and_true, UniqueResults,
    List.Nodup, List.pairwise_map]
  have hsep : ∀ r ∈ results.getD [], ∀ r', resultKey r ≠ resultKey r' ↔
      (r.name, r.type) ≠ (r'.name, r'.type) := by
    intro r hr r'
    refine not_congr ⟨fun h => ?_, fun h => ?_⟩
    · obtain ⟨hname, htype⟩ := resultKey_injective (hn r hr) h
      rw [hname, htype]
    · obtain ⟨hname, htype⟩ := Prod.mk.inj h
      rw [resultKey, resultKey, hname, htype]
  exact ⟨fun h => h.imp_of_mem fun ha _ => (hsep _ ha _).mp,
    fun h => h.imp_of_mem fun ha _ => (hsep _ ha _).mpr⟩

/-- No two components share a key, neither with each other nor with those of `seen`,
and none has ambiguous results. -/
structure Accepts (seen : List String) (components : List (String × ComponentDeploymentResults)) :
    Prop where
  keys : (seen ++ (named components).map fun c => componentBasename c.1).Nodup
  unique : ∀ c ∈ named components, UniqueResults c.2

/-- What the loop adds for one component. -/
def resultEntry (text : ComponentDeploymentResults → String)
    (c : String × ComponentDeploymentResults) : String × String :=
  (resultsConfigKey (componentBasename c.1), text c.2)

section Loop

variable {marshal : ComponentDeploymentResults → Except String String}
  {text : ComponentDeploymentResults → String} {seen data : List (String × String)}
  {components : List (String × ComponentDeploymentResults)}

theorem named_cons_empty {c : String × ComponentDeploymentResults} (h : c.1 = "") :
    named (c :: components) = named components := by
  simp [named, h]

theorem named_cons {c : String × ComponentDeploymentResults} (h : c.1 ≠ "") :
    named (c :: components) = c :: named components := by
  simp [named, h]

/-- One round of the loop for a component that is not skipped: what it accepts now
and what it leaves for later are what it accepts altogether. -/
theorem accepts_cons {c : String × ComponentDeploymentResults} (h : c.1 ≠ "") :
    Accepts (seen.map Prod.fst) (c :: components) ↔
      componentBasename c.1 ∉ seen.map Prod.fst ∧ UniqueResults c.2 ∧
        Accepts ((mapSet seen (componentBasename c.1) c.1).map Prod.fst) components := by
  by_cases hnew : componentBasename c.1 ∈ seen.map Prod.fst
  · refine ⟨fun ha => ?_, fun ha => absurd hnew ha.1⟩
    have := ha.keys
    rw [named_cons h, List.nodup_append'] at this
    exact absurd (List.mem_map_of_mem List.mem_cons_self) (this.2.2 hnew)
  · have hkeys : (mapSet seen (componentBasename c.1) c.1).map Prod.fst =
        seen.map Prod.fst ++ [componentBasename c.1] := by
      rw [mapSet_of_new hnew, List.map_append]; rfl
    constructor
    · rintro ⟨hk, hu⟩
      rw [named_cons h] at hk hu
      refine ⟨hnew, hu c List.mem_cons_self, ?_, fun d hd => hu d (List.mem_cons_of_mem c hd)⟩
      rwa [hkeys, List.append_assoc]
    · rintro ⟨-, hc, hk, hu⟩
      rw [hkeys, List.append_assoc] at hk
      refine ⟨by rwa [named_cons h], ?_⟩
      rw [named_cons h, List.forall_mem_cons]
      exact ⟨hc, hu⟩

theorem accepts_cons_empty {c : String × ComponentDeploymentResults} (h : c.1 = "")
    {seen : List String} : Accepts seen (c :: components) ↔ Accepts seen components := by
  constructor <;> rintro ⟨hk, hu⟩
  · rw [named_cons_empty h] at hk hu
    exact ⟨hk, hu⟩
  · exact ⟨by rwa [named_cons_empty h], by rwa [named_cons_empty h]⟩

/-- No entry stands under the key of a basename that was not seen. -/
def KeysSeen (seen data : List (String × String)) : Prop :=
  ∀ b, resultsConfigKey b ∈ data.map Prod.fst → b ∈ seen.map Prod.fst

theorem KeysSeen.step (h : KeysSeen seen data) (c : String × ComponentDeploymentResults) :
    KeysSeen (seen ++ [(componentBasename c.1, c.1)]) (data ++ [resultEntry text c]) := by
  intro b hb
  rw [List.map_append, List.mem_append] at hb ⊢
  refine hb.imp (h b) fun hb => ?_
  simpa using resultsConfigKey_injective (List.mem_singleton.mp hb)

/-- One round of the loop that adds an entry. -/
theorem renderResults_step {c : String × ComponentDeploymentResults} (hc : c.1 ≠ "")
    (hnew : componentBasename c.1 ∉ seen.map Prod.fst) (hu : assertUniqueResults c.1 c.2 = none)
    (hm : marshal c.2 = .ok (text c.2)) (hd : KeysSeen seen data) :
    renderResults marshal seen data (c :: components) =
      renderResults marshal (seen ++ [(componentBasename c.1, c.1)]) (data ++ [resultEntry text c])
        components := by
  have hdata : resultsConfigKey (componentBasename c.1) ∉ data.map Prod.fst := fun h => hnew (hd _ h)
  rw [renderResults, if_neg (mt componentBasename_eq_empty.mp hc), lookup_eq_none_of_new hnew]
  dsimp only
  rw [hu, hm]
  dsimp only
  rw [mapSet_of_new hnew, mapSet_of_new hdata]
  rfl

/-- A basename that was seen ends the loop. -/
theorem renderResults_seen {c : String × ComponentDeploymentResults} (hc : c.1 ≠ "")
    (h : componentBasename c.1 ∈ seen.map Prod.fst) :
    ∃ e, renderResults marshal seen data (c :: components) = .error e := by
  obtain ⟨other, hother⟩ := exists_lookup_of_mem h
  rw [renderResults, if_neg (mt componentBasename_eq_empty.mp hc), hother]
  exact ⟨_, rfl⟩

/-- So do ambiguous results. -/
theorem renderResults_ambiguous {c : String × ComponentDeploymentResults} (hc : c.1 ≠ "")
    (hnew : componentBasename c.1 ∉ seen.map Prod.fst) {e : RenderError}
    (hu : assertUniqueResults c.1 c.2 = some e) :
    renderResults marshal seen data (c :: components) = .error e := by
  rw [renderResults, if_neg (mt componentBasename_eq_empty.mp hc), lookup_eq_none_of_new hnew]
  dsimp only
  rw [hu]

/-- The loop adds one entry for each named component, in the order of the range. -/
theorem renderResults_of_accepts (hn : ∀ c ∈ components, NulFree c.2)
    (hm : ∀ c ∈ named components, marshal c.2 = .ok (text c.2)) (hd : KeysSeen seen data)
    (ha : Accepts (seen.map Prod.fst) components) :
    renderResults marshal seen data components =
      .ok (data ++ (named components).map (resultEntry text)) := by
  induction components generalizing seen data with
  | nil => simp [renderResults, named]
  | cons c rest ih =>
    obtain ⟨hnc, hn⟩ := List.forall_mem_cons.mp hn
    by_cases hc : c.1 = ""
    · rw [named_cons_empty hc] at hm ⊢
      rw [renderResults, if_pos (componentBasename_eq_empty.mpr hc)]
      exact ih hn hm hd ((accepts_cons_empty hc).mp ha)
    · rw [named_cons hc] at hm ⊢
      obtain ⟨hmc, hm⟩ := List.forall_mem_cons.mp hm
      obtain ⟨hnew, hu, ha⟩ := (accepts_cons hc).mp ha
      rw [mapSet_of_new hnew] at ha
      rw [renderResults_step hc hnew ((assertUniqueResults_eq_none hnc).mpr hu) hmc hd,
        ih hn hm (hd.step c) ha]
      simp

theorem renderResults_of_not_accepts (hn : ∀ c ∈ components, NulFree c.2)
    (ha : ¬ Accepts (seen.map Prod.fst) components) (hs : (seen.map Prod.fst).Nodup) :
    ∃ e, renderResults marshal seen data components = .error e := by
  induction components generalizing seen data with
  | nil => exact absurd ⟨by simpa [named] using hs, by simp [named]⟩ ha
  | cons c rest ih =>
    obtain ⟨hnc, hn⟩ := List.forall_mem_cons.mp hn
    by_cases hc : c.1 = ""
    · rw [renderResults, if_pos (componentBasename_eq_empty.mpr hc)]
      exact ih hn (mt (accepts_cons_empty hc).mpr ha) hs
    by_cases hnew : componentBasename c.1 ∈ seen.map Prod.fst
    · exact renderResults_seen hc hnew
    cases hu : assertUniqueResults c.1 c.2 with
    | some e => exact ⟨e, renderResults_ambiguous hc hnew hu⟩
    | none =>
      have hunique := (assertUniqueResults_eq_none hnc).mp hu
      rw [renderResults, if_neg (mt componentBasename_eq_empty.mp hc), lookup_eq_none_of_new hnew]
      dsimp only
      rw [hu]
      dsimp only
      cases marshal c.2 with
      | error cause => exact ⟨_, rfl⟩
      | ok encoded =>
        refine ih hn (fun hrest => ha ((accepts_cons hc).mpr ⟨hnew, hunique, hrest⟩)) ?_
        rw [mapSet_of_new hnew, List.map_append]
        exact hs.append (List.nodup_singleton _) (by simpa using hnew)

/-- When the loop succeeds it has added one entry for each named component, and no two
of them have one basename. -/
theorem renderResults_ok {out : List (String × String)}
    (hm : ∀ c ∈ named components, marshal c.2 = .ok (text c.2)) (hd : KeysSeen seen data)
    (hs : (seen.map Prod.fst).Nodup)
    (h : renderResults marshal seen data components = .ok out) :
    out = data ++ (named components).map (resultEntry text) ∧
      (seen.map Prod.fst ++ (named components).map fun c => componentBasename c.1).Nodup := by
  induction components generalizing seen data with
  | nil =>
    obtain rfl := Except.ok.inj h
    simpa [named] using hs
  | cons c rest ih =>
    by_cases hc : c.1 = ""
    · rw [named_cons_empty hc] at hm ⊢
      rw [renderResults, if_pos (componentBasename_eq_empty.mpr hc)] at h
      exact ih hm hd hs h
    rw [named_cons hc] at hm ⊢
    obtain ⟨hmc, hm⟩ := List.forall_mem_cons.mp hm
    by_cases hnew : componentBasename c.1 ∈ seen.map Prod.fst
    · obtain ⟨e, he⟩ := renderResults_seen hc hnew
      rw [he] at h
      cases h
    cases hu : assertUniqueResults c.1 c.2 with
    | some e =>
      rw [renderResults_ambiguous hc hnew hu] at h
      cases h
    | none =>
      rw [renderResults_step hc hnew hu hmc hd] at h
      have hs' : ((seen ++ [(componentBasename c.1, c.1)]).map Prod.fst).Nodup := by
        rw [List.map_append]
        exact hs.append (List.nodup_singleton _) (by simpa using hnew)
      obtain ⟨rfl, hkeys⟩ := ih hm (hd.step c) hs' h
      rw [List.map_append, List.append_assoc] at hkeys
      exact ⟨by simp, hkeys⟩

end Loop

/-- Two components would share a key, or the results of one are ambiguous. -/
def Conflicting (spec : VectorDataSpec) : Prop :=
  (∃ c ∈ spec.deploymentResults, ∃ d ∈ spec.deploymentResults, c.1 ≠ d.1 ∧ c.1 ≠ "" ∧ d.1 ≠ "" ∧
      componentBasename c.1 = componentBasename d.1) ∨
    ∃ c ∈ spec.deploymentResults, c.1 ≠ "" ∧ ¬ UniqueResults c.2

theorem mem_named {components : List (String × ComponentDeploymentResults)}
    {c : String × ComponentDeploymentResults} :
    c ∈ named components ↔ c ∈ components ∧ c.1 ≠ "" := by
  simp [named]

/-- The order of the range does not matter. -/
theorem accepts_range (order : RangeOrder (String × ComponentDeploymentResults))
    (spec : VectorDataSpec) :
    Accepts [] (order.range spec.deploymentResults) ↔ ¬ Conflicting spec := by
  have hperm : (named (order.range spec.deploymentResults)).Perm (named spec.deploymentResults) :=
    (order.perm _).filter _
  have hnd : (named spec.deploymentResults).Pairwise fun c d => c.1 ≠ d.1 :=
    (List.pairwise_map.mp spec.components_nodup).filter _
  constructor
  · rintro ⟨hk, hu⟩ (⟨c, hc, d, hd, hne, hcn, hdn, hcd⟩ | ⟨c, hc, hcn, hbad⟩)
    · rw [List.nil_append, (hperm.map _).nodup_iff] at hk
      have := List.inj_on_of_nodup_map hk (mem_named.mpr ⟨hc, hcn⟩) (mem_named.mpr ⟨hd, hdn⟩) hcd
      exact hne (congrArg Prod.fst this)
    · exact hbad (hu c (hperm.mem_iff.mpr (mem_named.mpr ⟨hc, hcn⟩)))
  · intro h
    refine ⟨?_, fun c hc => ?_⟩
    · rw [List.nil_append, (hperm.map _).nodup_iff, List.Nodup, List.pairwise_map]
      refine hnd.imp_of_mem fun hc hd hne heq => h (.inl ?_)
      obtain ⟨hc, hcn⟩ := mem_named.mp hc
      obtain ⟨hd, hdn⟩ := mem_named.mp hd
      exact ⟨_, hc, _, hd, hne, hcn, hdn, heq⟩
    · obtain ⟨hc, hcn⟩ := mem_named.mp (hperm.mem_iff.mp hc)
      by_contra hbad
      exact h (.inr ⟨c, hc, hcn, hbad⟩)

section Data

variable {marshal : ComponentDeploymentResults → Except String String}
  {text : ComponentDeploymentResults → String}
  (order : RangeOrder (String × ComponentDeploymentResults)) {spec : VectorDataSpec}

theorem keysSeen_fixed (spec : VectorDataSpec) : KeysSeen []
    [(featuresConfigKey, rawOrNull spec.features), (authoredConfigKey, rawOrNull spec.authored)] := by
  intro b hb
  obtain ⟨hf, ha⟩ := resultsConfigKey_ne_fixed b
  simp [hf, ha] at hb

theorem renderData_of_not_conflicting (hn : ∀ c ∈ spec.deploymentResults, NulFree c.2)
    (hm : ∀ c ∈ named spec.deploymentResults, marshal c.2 = .ok (text c.2))
    (h : ¬ Conflicting spec) :
    renderData marshal order spec = .ok
      ((featuresConfigKey, rawOrNull spec.features) ::
        (authoredConfigKey, rawOrNull spec.authored) ::
        (named (order.range spec.deploymentResults)).map (resultEntry text)) := by
  refine renderResults_of_accepts (fun c hc => hn c (order.mem_range.mp hc)) (fun c hc => ?_)
    (keysSeen_fixed spec) ((accepts_range order spec).mpr h)
  obtain ⟨hc, hcn⟩ := mem_named.mp hc
  exact hm c (mem_named.mpr ⟨order.mem_range.mp hc, hcn⟩)

theorem renderData_of_conflicting (hn : ∀ c ∈ spec.deploymentResults, NulFree c.2)
    (h : Conflicting spec) : ∃ e, renderData marshal order spec = .error e :=
  renderResults_of_not_accepts (fun c hc => hn c (order.mem_range.mp hc))
    (fun ha => (accepts_range order spec).mp ha h) List.nodup_nil

theorem renderData_ok {data : List (String × String)}
    (hm : ∀ c ∈ named spec.deploymentResults, marshal c.2 = .ok (text c.2))
    (h : renderData marshal order spec = .ok data) :
    data = (featuresConfigKey, rawOrNull spec.features) ::
        (authoredConfigKey, rawOrNull spec.authored) ::
        (named (order.range spec.deploymentResults)).map (resultEntry text) ∧
      ((named (order.range spec.deploymentResults)).map fun c => componentBasename c.1).Nodup := by
  have hnil : (([] : List (String × String)).map Prod.fst).Nodup := List.nodup_nil
  refine renderResults_ok (fun c hc => ?_) (keysSeen_fixed spec) hnil h
  obtain ⟨hc, hcn⟩ := mem_named.mp hc
  exact hm c (mem_named.mpr ⟨order.mem_range.mp hc, hcn⟩)

end Data

end LandscapeOrchestrator.VectorDataController
