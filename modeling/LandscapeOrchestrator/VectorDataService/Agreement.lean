import LandscapeOrchestrator.VectorDataService.Handlers

/-!
# The two endpoints agree

Both endpoints read the flags of a configuration from its features object. They are
compared flag by flag, and each with the object itself. A stored string is parsed as
JSON first, so a string that holds `null` counts as no value.

## Main definitions

- `FeaturesObject`, `storedFlag` — what the configuration holds
- `readFeatures` — what both handlers take from it
- `rangedFlags` — the loop of the bulk handler, for any iteration order
- `BulkAgrees` — a bulk response says what the single answers say

## Main results

- `bulk_agrees_with_single` — the bulk response and the single answers
- `single_finds_stored_iff` — when a stored flag of a supported type is found
-/

namespace LandscapeOrchestrator.VectorDataService
open Apilib Golib
open Jsonlib (Value Json)

/-- The configuration has the features object `ms`, members in the order of the text. -/
def FeaturesObject (config : String) (ms : List (String × Value)) : Prop :=
  ∃ result, (Jsonlib.decodeNext config).bind (Jsonlib.unmarshalMap []) = some result ∧
    result.lookup featuresField = some (.obj ms)

/-- The value of a flag: of two members of one name the later counts. -/
def storedFlag (ms : List (String × Value)) (k : String) : Option Value := ms.reverse.lookup k

/-- Strings that agree under case folding have as many characters. -/
def Platform.FoldsRunes (P : Platform) : Prop :=
  ∀ a b, P.equalFold a b = true → a.length = b.length

/-- What both handlers read; an empty configuration has no features. -/
def readFeatures (config : String) : Except String (List (String × Value)) :=
  if config = "" then .ok [] else getAllFeatures config

section Reading

variable {config : String} {features ms : List (String × Value)}

theorem FeaturesObject.ne_empty (h : FeaturesObject config ms) : config ≠ "" := by
  rintro rfl
  obtain ⟨result, hresult, -⟩ := h
  cases hresult

theorem FeaturesObject.readFeatures (h : FeaturesObject config ms) :
    readFeatures config = .ok (mapOf ms) := by
  rw [VectorDataService.readFeatures, if_neg h.ne_empty]
  obtain ⟨result, hresult, hlookup⟩ := h
  simp only [getAllFeatures, hresult, hlookup]
  rfl

/-- What is read is the features object, or there is none. -/
theorem readFeatures_ok (h : readFeatures config = .ok features) :
    (∃ ms, FeaturesObject config ms ∧ features = mapOf ms) ∨
      (∀ ms, ¬ FeaturesObject config ms) ∧ features = [] := by
  unfold readFeatures at h
  split at h
  · next hempty => exact .inr ⟨fun ms hms => hms.ne_empty hempty, (Except.ok.inj h).symm⟩
  · unfold getAllFeatures at h
    split at h
    · cases h
    · next result hresult =>
      split at h
      · next hnone =>
        refine .inr ⟨?_, (Except.ok.inj h).symm⟩
        rintro ms ⟨result', hresult', hlookup⟩
        rw [hresult] at hresult'
        rw [← Option.some.inj hresult', hnone] at hlookup
        cases hlookup
      · next v hlookup =>
        split at h
        · next ms => exact .inl ⟨ms, ⟨result, hresult, hlookup⟩, (Except.ok.inj h).symm⟩
        · cases h

theorem readFeatures_nodup (h : readFeatures config = .ok features) :
    (features.map Prod.fst).Nodup := by
  obtain ⟨ms, -, rfl⟩ | ⟨-, rfl⟩ := readFeatures_ok h
  · exact mapOf_keys_nodup ms
  · exact List.nodup_nil

/-- The flags that are read are those of the features object. -/
theorem readFeatures_keys (h : readFeatures config = .ok features) (k : String) :
    k ∈ features.map Prod.fst ↔ ∃ ms, FeaturesObject config ms ∧ k ∈ ms.map Prod.fst := by
  obtain ⟨ms, hms, rfl⟩ | ⟨hno, rfl⟩ := readFeatures_ok h
  · rw [mem_mapOf_keys]
    refine ⟨fun hk => ⟨ms, hms, hk⟩, ?_⟩
    rintro ⟨ms', hms', hk⟩
    obtain ⟨result, hresult, hlookup⟩ := hms
    obtain ⟨result', hresult', hlookup'⟩ := hms'
    rw [← Option.some.inj (hresult.symm.trans hresult')] at hlookup'
    rwa [Value.obj.inj (Option.some.inj (hlookup.symm.trans hlookup'))]
  · refine iff_of_false List.not_mem_nil ?_
    rintro ⟨ms, hms, -⟩
    exact hno ms hms

end Reading

section Endpoints

variable (P : Platform) {v k config : String}

/-- The answer about one flag, given its value. -/
def flagAnswer (k : String) : Option FlagValue → Response
  | none => notFoundResponse k ""
  | some x => okResponse ⟨k, x, targetingMatchReason⟩

theorem evaluateSingle_of_ok {features : List (String × Value)} (hk : P.equalFold k v = false)
    (h : readFeatures config = .ok features) :
    evaluateSingle P v k (.ok config) = flagAnswer k (parseFlagValue P (features.lookup k)) := by
  unfold readFeatures at h
  simp only [evaluateSingle]
  split at h
  · next hempty =>
    obtain rfl := Except.ok.inj h
    simp [hempty, flagAnswer, parseFlagValue]
  · next hne =>
    simp only [hne, if_false, getFlagValueOrConfiguration, hk, Bool.false_eq_true, h]
    cases parseFlagValue P (features.lookup k) <;> rfl

theorem evaluateSingle_of_error {e : String} (hk : P.equalFold k v = false)
    (h : readFeatures config = .error e) : (evaluateSingle P v k (.ok config)).status = 500 := by
  unfold readFeatures at h
  split at h
  · cases h
  · next hne =>
    simp [evaluateSingle, hne, getFlagValueOrConfiguration, hk, h, internalServerErrorResponse]

theorem evaluateBulk_of_ok {features : List (String × Value)} (v ifNoneMatch : String)
    (h : readFeatures config = .ok features) :
    evaluateBulk P v ifNoneMatch (.ok config) = respondBulk P ifNoneMatch (bulkFlags P features) := by
  unfold readFeatures at h
  split at h
  · next hempty =>
    obtain rfl := Except.ok.inj h
    simp only [evaluateBulk, hempty, if_true]
    rfl
  · next hne => simp only [evaluateBulk, hne, if_false, h]

theorem evaluateBulk_of_error {e : String} (v ifNoneMatch : String)
    (h : readFeatures config = .error e) :
    (evaluateBulk P v ifNoneMatch (.ok config)).status = 500 := by
  unfold readFeatures at h
  split at h
  · cases h
  · next hne => simp [evaluateBulk, hne, h, internalServerErrorResponse]

theorem respondBulk_ne_500 (ifNoneMatch : String) (flags : BulkResponse) :
    (respondBulk P ifNoneMatch flags).status ≠ 500 := by
  unfold respondBulk
  split <;> exact Nat.ne_of_beq_eq_false rfl

theorem flagAnswer_ne_500 (k : String) (x : Option FlagValue) : (flagAnswer k x).status ≠ 500 := by
  cases x <;> exact Nat.ne_of_beq_eq_false rfl

end Endpoints

section Bulk

variable (P : Platform)

/-- The key of an entry of the bulk response. -/
def entryKey : FlagResponse ⊕ ErrorResponse → String
  | .inl response => response.key
  | .inr response => response.key

/-- The entries in the order of the loop: the keys are collected in some order and
sorted. -/
def rangedFlags (order : RangeOrder String) (sort : SliceSort String fun a b => decide (a < b))
    (features : List (String × Value)) : BulkResponse :=
  (sort.sort (order.range (features.map Prod.fst))).map (flagEntry P features)

theorem entryKey_flagEntry (features : List (String × Value)) (k : String) :
    entryKey (flagEntry P features k) = k := by
  unfold flagEntry
  split <;> rfl

theorem sorted_le (sort : SliceSort String fun a b => decide (a < b)) (keys : List String) :
    (sort.sort keys).Pairwise (· ≤ ·) :=
  (sort.sorted keys).imp fun h => not_lt.mp (of_decide_eq_false h)

/-- Sorted keys do not depend on the order in which they were collected. -/
theorem rangedFlags_eq (order : RangeOrder String)
    (sort : SliceSort String fun a b => decide (a < b)) (features : List (String × Value)) :
    rangedFlags P order sort features = bulkFlags P features := by
  refine congrArg (List.map _) ?_
  refine List.Perm.eq_of_pairwise (fun a b _ _ => le_antisymm) (sorted_le sort _)
    (sorted_le (SliceSort.byKey id) _) ?_
  exact (sort.perm _).trans ((order.perm _).trans ((SliceSort.byKey id).perm _).symm)

theorem bulkFlags_keys (features : List (String × Value)) :
    (bulkFlags P features).map entryKey = (SliceSort.byKey id).sort (features.map Prod.fst) := by
  rw [bulkFlags, List.map_map]
  exact (List.map_congr_left fun k _ => entryKey_flagEntry P features k).trans (List.map_id _)

theorem bulkFlags_keys_perm (features : List (String × Value)) :
    ((bulkFlags P features).map entryKey).Perm (features.map Prod.fst) := by
  rw [bulkFlags_keys]
  exact (SliceSort.byKey id).perm _

theorem bulkFlags_keys_sorted (features : List (String × Value))
    (hnodup : (features.map Prod.fst).Nodup) :
    ((bulkFlags P features).map entryKey).Pairwise (· < ·) := by
  have hkeys : ((bulkFlags P features).map entryKey).Nodup :=
    (bulkFlags_keys_perm P features).nodup_iff.mpr hnodup
  have hle : ((bulkFlags P features).map entryKey).Pairwise (· ≤ ·) := by
    rw [bulkFlags_keys]
    exact sorted_le (SliceSort.byKey id) _
  exact (hle.and hkeys).imp fun h => lt_of_le_of_ne h.1 h.2

/-- The bulk response is sorted, has the flags of the features object, and says of each
what the other endpoint says. The flag that is named like the vector is not compared. -/
structure BulkAgrees (v config : String) (flags : BulkResponse) : Prop where
  increasing : (flags.map entryKey).Pairwise (· < ·)
  order : ∀ features, readFeatures config = .ok features → ∀ order sort,
    rangedFlags P order sort features = flags
  complete : ∀ k, k ∈ flags.map entryKey ↔ ∃ ms, FeaturesObject config ms ∧ k ∈ ms.map Prod.fst
  value : ∀ entry ∈ flags, P.equalFold (entryKey entry) v = false → ∀ x,
    entry = .inl ⟨entryKey entry, x, targetingMatchReason⟩ ↔
      evaluateSingle P v (entryKey entry) (.ok config) =
        okResponse ⟨entryKey entry, x, targetingMatchReason⟩
  notFound : ∀ entry ∈ flags, P.equalFold (entryKey entry) v = false →
    (entry = .inr ⟨entryKey entry, flagNotFoundErrorCode, ""⟩ ↔
      (evaluateSingle P v (entryKey entry) (.ok config)).status = 404)
  absent : ∀ k, k ∉ flags.map entryKey → P.equalFold k v = false →
    (evaluateSingle P v k (.ok config)).status = 404

theorem bulkFlags_agrees {v config : String} {features : List (String × Value)}
    (h : readFeatures config = .ok features) : BulkAgrees P v config (bulkFlags P features) := by
  have hmem : ∀ entry ∈ bulkFlags P features, entry = flagEntry P features (entryKey entry) := by
    intro entry hentry
    obtain ⟨k, -, rfl⟩ := List.mem_map.mp hentry
    rw [entryKey_flagEntry]
  have hkeys := fun k => (bulkFlags_keys_perm P features).mem_iff (a := k)
  refine ⟨bulkFlags_keys_sorted P features (readFeatures_nodup h), ?_, ?_, ?_, ?_, ?_⟩
  · intro features' h' order sort
    obtain rfl := Except.ok.inj (h.symm.trans h')
    exact rangedFlags_eq P order sort features
  · intro k
    rw [hkeys, readFeatures_keys h]
  · intro entry hentry hk x
    rw [evaluateSingle_of_ok P hk h]
    nth_rewrite 1 [hmem entry hentry]
    unfold flagEntry
    cases parseFlagValue P (features.lookup (entryKey entry)) with
    | none => simp [flagAnswer, notFoundResponse, errorResponse, okResponse]
    | some y => simp [flagAnswer, okResponse]
  · intro entry hentry hk
    rw [evaluateSingle_of_ok P hk h]
    nth_rewrite 1 [hmem entry hentry]
    unfold flagEntry
    cases parseFlagValue P (features.lookup (entryKey entry)) with
    | none => simp [flagAnswer, notFoundResponse, errorResponse]
    | some y => simp [flagAnswer, okResponse]
  · intro k hnew hk
    rw [hkeys] at hnew
    rw [evaluateSingle_of_ok P hk h, lookup_eq_none_of_new hnew]
    rfl

/-- The bulk endpoint fails exactly when the other one fails for every flag, and otherwise
its response agrees with all answers of the other one. -/
theorem bulk_agrees_with_single (hfold : P.FoldsRunes) (v ifNoneMatch config : String) :
    ((evaluateBulk P v ifNoneMatch (.ok config)).status = 500 ↔
        ∀ k, P.equalFold k v = false → (evaluateSingle P v k (.ok config)).status = 500) ∧
      ((evaluateBulk P v ifNoneMatch (.ok config)).status ≠ 500 →
        ∃ flags, evaluateBulk P v ifNoneMatch (.ok config) = respondBulk P ifNoneMatch flags ∧
          BulkAgrees P v config flags) := by
  cases h : readFeatures config with
  | error e =>
    have hbulk := evaluateBulk_of_error P v ifNoneMatch h
    exact ⟨iff_of_true hbulk fun k hk => evaluateSingle_of_error P hk h, fun hne => absurd hbulk hne⟩
  | ok features =>
    rw [evaluateBulk_of_ok P v ifNoneMatch h]
    refine ⟨iff_of_false (respondBulk_ne_500 P _ _) fun hall => ?_, fun _ =>
      ⟨bulkFlags P features, rfl, bulkFlags_agrees P h⟩⟩
    -- a longer key differs from the vector
    have hother : P.equalFold (v ++ "x") v = false := by
      refine Bool.eq_false_iff.mpr fun heq => ?_
      have := hfold _ _ heq
      rw [String.length_append] at this
      exact absurd this (Nat.ne_of_gt (Nat.lt_succ_self _))
    have := hall _ hother
    rw [evaluateSingle_of_ok P hother h] at this
    exact flagAnswer_ne_500 _ _ this

end Bulk

/-- A configuration with these flags. -/
def flagConfig (flags : List (String × Json)) : String :=
  Jsonlib.encode (.obj [(Jsonlib.quote "features",
    .obj (flags.map fun flag => (Jsonlib.quote flag.1, flag.2)))])

theorem flagConfig_features (flags : List (String × Json)) :
    FeaturesObject (flagConfig flags) (flags.map fun flag => (flag.1, flag.2.value)) := by
  have hmembers : Json.valueMembers (flags.map fun flag => (Jsonlib.quote flag.1, flag.2)) =
      flags.map fun flag => (flag.1, flag.2.value) := by
    induction flags with
    | nil => rfl
    | cons flag flags ih => simp [Json.valueMembers, ih]
  have hdecode : Jsonlib.decodeNext (flagConfig flags) =
      some (.obj [("features", .obj (flags.map fun flag => (flag.1, flag.2.value)))]) := by
    refine Jsonlib.decodeNext_of_decode ?_
    simp [flagConfig, Json.value, Json.valueMembers, hmembers]
  refine ⟨[("features", .obj (flags.map fun flag => (flag.1, flag.2.value)))], ?_, ?_⟩
  · simp [hdecode, Jsonlib.unmarshalMap, mapSet]
  · simp [featuresField, lookup_entry]

/-- Three flags, out of order; an object is no value of a flag. -/
def shopFlags : List (String × Json) :=
  [("motd", .str (Jsonlib.quote "welcome")), ("limits", .obj []), ("darkMode", .bool true)]

theorem plainPlatform_foldsRunes : plainPlatform.FoldsRunes := by
  intro a b h
  have := congrArg List.length (of_decide_eq_true h)
  simpa [String.length_toList] using this

theorem shopFlags_agree : ∃ flags,
    evaluateBulk plainPlatform "vd-1" "" (.ok (flagConfig shopFlags)) =
        respondBulk plainPlatform "" flags ∧
      BulkAgrees plainPlatform "vd-1" (flagConfig shopFlags) flags ∧
      "darkMode" ∈ flags.map entryKey ∧ "limits" ∈ flags.map entryKey ∧
      (evaluateSingle plainPlatform "vd-1" "limits" (.ok (flagConfig shopFlags))).status = 404 := by
  have hms := flagConfig_features shopFlags
  have hbulk := (bulk_agrees_with_single plainPlatform plainPlatform_foldsRunes "vd-1" ""
    (flagConfig shopFlags)).2
  rw [evaluateBulk_of_ok plainPlatform _ _ hms.readFeatures] at hbulk ⊢
  obtain ⟨flags, hflags, hagrees⟩ := hbulk (respondBulk_ne_500 _ _ _)
  refine ⟨flags, hflags, hagrees, (hagrees.complete _).mpr ⟨_, hms, ?_⟩,
    (hagrees.complete _).mpr ⟨_, hms, ?_⟩, ?_⟩
  · simp [shopFlags]
  · simp [shopFlags]
  · rw [evaluateSingle_of_ok plainPlatform (by decide +kernel) hms.readFeatures, lookup_mapOf]
    rfl

section Single

variable (P : Platform)

/-- The types of values that a flag may have. -/
def isSupported : Value → Bool
  | .bool _ | .num _ | .str _ => true
  | _ => false

theorem parseString_eq_none_iff (s : String) :
    parseString P s = none ↔ Jsonlib.decode s = some .null := by
  unfold parseString
  split
  · next w hw =>
    rw [hw]
    split
    · split
      · simp
      · next hnull => exact iff_of_false (by simp) fun h => hnull (Option.some.inj h)
    · next hfits =>
      refine iff_of_false (by simp) fun hnull => hfits ?_
      rw [Option.some.inj hnull]
      rfl
  · next hnone => simp [hnone]

/-- Which stored values are no value of a flag. -/
theorem parseFlagValue_eq_none_iff (stored : Option Value) :
    parseFlagValue P stored = none ↔
      (∀ value, stored = some value → isSupported value = false) ∨
        ∃ s, stored = some (.str s) ∧ Jsonlib.decode s = some .null := by
  cases stored with
  | none => simp [parseFlagValue]
  | some value =>
    cases value with
    | num n =>
      simp only [parseFlagValue, isSupported]
      split
      · simp
      · split <;> simp
    | str s => simp [parseFlagValue, parseString_eq_none_iff, isSupported]
    | _ => simp [parseFlagValue, isSupported]

/-- A flag of a supported type is found, and no other, exactly when it is not a string
that holds the JSON text `null`. -/
theorem single_finds_stored_iff (v k config : String) (ms : List (String × Value))
    (hms : FeaturesObject config ms) (hk : P.equalFold k v = false) :
    ((evaluateSingle P v k (.ok config) = notFoundResponse k "" ↔
          ∀ value, storedFlag ms k = some value → isSupported value = false) ∧
        ∀ value, storedFlag ms k = some value → isSupported value = true →
          ∃ x, evaluateSingle P v k (.ok config) = okResponse ⟨k, x, targetingMatchReason⟩) ↔
      ¬ ∃ s, storedFlag ms k = some (.str s) ∧ Jsonlib.decode s = some .null := by
  rw [evaluateSingle_of_ok P hk hms.readFeatures, lookup_mapOf, ← storedFlag]
  have hnone := parseFlagValue_eq_none_iff P (storedFlag ms k)
  cases hx : parseFlagValue P (storedFlag ms k) with
  | none =>
    simp only [hx, true_iff] at hnone
    constructor
    · rintro ⟨hfound, -⟩ ⟨s, hs, -⟩
      cases hfound.mp rfl _ hs
    · intro hno
      have hunsupported := hnone.resolve_right hno
      refine ⟨iff_of_true rfl hunsupported, fun value hvalue hsup => ?_⟩
      cases (hunsupported value hvalue).symm.trans hsup
  | some x =>
    simp only [hx, reduceCtorEq, false_iff, not_or] at hnone
    refine iff_of_true ⟨iff_of_false ?_ hnone.1, fun _ _ _ => ⟨x, rfl⟩⟩ hnone.2
    simp [flagAnswer, okResponse, notFoundResponse, errorResponse]

/-- The flag of a supported type is found, the object beside it is not. -/
theorem darkMode_found :
    (∃ x, evaluateSingle plainPlatform "vd-1" "darkMode" (.ok (flagConfig shopFlags)) =
      okResponse ⟨"darkMode", x, targetingMatchReason⟩) ∧
    evaluateSingle plainPlatform "vd-1" "limits" (.ok (flagConfig shopFlags)) =
      notFoundResponse "limits" "" := by
  have hms := flagConfig_features shopFlags
  have hfound := single_finds_stored_iff plainPlatform "vd-1" "darkMode" _ _ hms
    (by decide +kernel)
  have hmissing := single_finds_stored_iff plainPlatform "vd-1" "limits" _ _ hms
    (by decide +kernel)
  refine ⟨(hfound.mpr ?_).2 (.bool true) rfl rfl, (hmissing.mpr ?_).1.mpr ?_⟩
  · rintro ⟨s, hs, -⟩
    cases hs
  · rintro ⟨s, hs, -⟩
    cases hs
  · intro value hvalue
    obtain rfl := Option.some.inj hvalue
    rfl

/-- A flag whose value is the string `null` is not found. -/
theorem null_string_not_found :
    FeaturesObject (flagConfig [("motd", .str (Jsonlib.quote "null"))]) [("motd", .str "null")] ∧
      plainPlatform.equalFold "motd" "vd-1" = false ∧ isSupported (.str "null") = true ∧
      evaluateSingle plainPlatform "vd-1" "motd"
        (.ok (flagConfig [("motd", .str (Jsonlib.quote "null"))])) = notFoundResponse "motd" "" := by
  have hms : FeaturesObject (flagConfig [("motd", .str (Jsonlib.quote "null"))])
      [("motd", .str "null")] := by
    simpa [Json.value] using flagConfig_features [("motd", .str (Jsonlib.quote "null"))]
  have hk : plainPlatform.equalFold "motd" "vd-1" = false := by decide +kernel
  have hnull : parseFlagValue plainPlatform (some (.str "null")) = none :=
    (parseFlagValue_eq_none_iff plainPlatform _).mpr (.inr ⟨"null", rfl, rfl⟩)
  refine ⟨hms, hk, rfl, ?_⟩
  rw [evaluateSingle_of_ok plainPlatform hk hms.readFeatures, lookup_mapOf]
  exact congrArg (flagAnswer "motd") hnull

end Single

end LandscapeOrchestrator.VectorDataService
