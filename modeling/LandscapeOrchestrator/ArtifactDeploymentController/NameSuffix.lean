import LandscapeOrchestrator.ArtifactDeploymentController.Reconcile

/-!
# Name suffixes of Kustomizations

Whatever the version of an artifact looks like, the suffix of its objects is short,
legal, and ends with the hash of the artifact.
-/

namespace LandscapeOrchestrator.ArtifactDeploymentController
open Apilib
open FluxDeployer (sanitizeChars sanitizeK8sResourceName sanitizeChars_legal
  sanitizeChars_append_alnums sanitizeChars_of_label trimmedChars_length)

/-- The hash of the artifact, as it is annotated. -/
def artifactHash (lib : Libraries) (d : Deployment) : String :=
  (d.annotations.lookup lib.artifactHashAnnotation).getD ""

/-- A hash that the annotation may hold. -/
structure LegalHash (hash : String) : Prop where
  nonempty : hash ≠ ""
  alnum : ∀ c ∈ hash.toList, isAlnum c = true
  length : hash.length ≤ 35

variable {version hash : String}

theorem LegalHash.ne_nil (h : LegalHash hash) : hash.toList ≠ [] := fun hnil =>
  h.nonempty (String.toList_injective hnil)

theorem LegalHash.sanitized (h : LegalHash hash) : sanitizeChars hash.toList = hash.toList := by
  refine sanitizeChars_of_label (fun c hc => .inl (h.alnum c hc))
    (fun c hc => h.alnum c (List.mem_of_head? hc))
    (fun c hc => h.alnum c (List.mem_of_getLast? hc)) ?_
  have := h.length
  rw [String.length_toList]
  omega

/-- Both branches of `nameSuffix` put a dash before a sanitized text that is short enough
and ends with the hash. -/
theorem nameSuffix_cases (version : String) (h : LegalHash hash) :
    ∃ cs, (nameSuffix version hash).toList = '-' :: sanitizeChars cs ∧ cs.length ≤ 35 ∧
      ∃ front, '-' :: sanitizeChars cs = front ++ '-' :: hash.toList := by
  simp only [nameSuffix]
  split
  · next hfits =>
    have hlen : (version ++ "-" ++ hash).length ≤ 35 := by
      have := Golib.length_le_utf8ByteSize (version ++ "-" ++ hash)
      simp only [maxKustomizationNameSuffixLength] at hfits
      omega
    have htext : (version ++ "-" ++ hash).toList = version.toList ++ '-' :: hash.toList := by simp
    have hchars : version.toList.length + 1 + hash.toList.length ≤ 35 := by
      have : (version ++ "-" ++ hash).toList.length ≤ 35 := by rwa [String.length_toList]
      rw [htext, List.length_append, List.length_cons] at this
      omega
    refine ⟨version.toList ++ '-' :: hash.toList, ?_, ?_,
      sanitizeChars_append_alnums h.alnum h.ne_nil (by omega)⟩
    · simp [sanitizeK8sResourceName]
    · rw [List.length_append, List.length_cons]
      omega
  · refine ⟨hash.toList, by simp [sanitizeK8sResourceName], ?_, [], ?_⟩
    · rw [String.length_toList]
      exact h.length
    · rw [h.sanitized]
      rfl

/-- The suffix has at most 36 characters of `[a-z0-9-]`, begins with a dash and ends with
the hash behind a dash. Artifacts with different hashes of one length have different
suffixes. -/
theorem buildKustomizationNameSuffix_spec (lib : Libraries) (d : Deployment)
    (h : LegalHash (artifactHash lib d)) :
    (buildKustomizationNameSuffix lib d).length ≤ 36 ∧
      (∀ c ∈ (buildKustomizationNameSuffix lib d).toList, isAlnum c = true ∨ c = '-') ∧
      (buildKustomizationNameSuffix lib d).toList.head? = some '-' ∧
      (∃ front, buildKustomizationNameSuffix lib d = front ++ "-" ++ artifactHash lib d) ∧
      ∀ d', LegalHash (artifactHash lib d') →
        (artifactHash lib d').length = (artifactHash lib d).length →
        artifactHash lib d' ≠ artifactHash lib d →
        buildKustomizationNameSuffix lib d' ≠ buildKustomizationNameSuffix lib d := by
  have hcases : ∀ d', LegalHash (artifactHash lib d') → ∃ cs,
      (buildKustomizationNameSuffix lib d').toList = '-' :: sanitizeChars cs ∧ cs.length ≤ 35 ∧
        ∃ front, '-' :: sanitizeChars cs = front ++ '-' :: (artifactHash lib d').toList :=
    fun d' h' => nameSuffix_cases _ h'
  obtain ⟨cs, htext, hlen, front, hfront⟩ := hcases d h
  refine ⟨?_, ?_, ?_, ⟨String.ofList front, ?_⟩, ?_⟩
  · have hcut : (sanitizeChars cs).length ≤ cs.length :=
      Nat.le_trans (List.length_take_le' _ _) (trimmedChars_length cs)
    rw [← String.length_toList, htext, List.length_cons]
    omega
  · intro c hc
    rw [htext, List.mem_cons] at hc
    obtain rfl | hc := hc
    · exact .inr rfl
    · exact sanitizeChars_legal c hc
  · rw [htext]
    rfl
  · refine String.toList_injective ?_
    simp [htext, hfront]
  · intro d' h' hsame hne heq
    obtain ⟨cs', htext', -, front', hfront'⟩ := hcases d' h'
    -- two texts that end with hashes of one length
    have hends : front' ++ '-' :: (artifactHash lib d').toList =
        front ++ '-' :: (artifactHash lib d).toList := by
      rw [← hfront', ← hfront, ← htext', ← htext, heq]
    have hlength : ('-' :: (artifactHash lib d').toList).length =
        ('-' :: (artifactHash lib d).toList).length := by
      rw [List.length_cons, List.length_cons, String.length_toList, String.length_toList, hsame]
    have hlast := (List.append_inj' hends hlength).2
    exact hne (String.toList_injective (List.cons.inj hlast).2)

def annotatedPodinfo (version hash : String) : Deployment :=
  { podinfo with annotations := [("version", version), ("hash", hash)] }

theorem artifactHash_annotatedPodinfo (version hash : String) :
    artifactHash podinfoLibraries (annotatedPodinfo version hash) = hash := by
  have hkey : (podinfoLibraries.artifactHashAnnotation == "version") = false := by decide
  simp only [artifactHash, annotatedPodinfo, List.lookup_cons, hkey]
  rfl

/-- A version that is illegal in a name, and one that is too long for the suffix. -/
theorem podinfo_nameSuffix :
    (buildKustomizationNameSuffix podinfoLibraries
        (annotatedPodinfo "_1.2.3" "ab12cd34ef")).length ≤ 36 ∧
      buildKustomizationNameSuffix podinfoLibraries
          (annotatedPodinfo "this-is-a-very-long-version-string" "deadbeef01") ≠
        buildKustomizationNameSuffix podinfoLibraries (annotatedPodinfo "_1.2.3" "ab12cd34ef") := by
  have legal : LegalHash "ab12cd34ef" :=
    ⟨by decide, List.all_eq_true.mp (by decide +kernel), by decide⟩
  have legal' : LegalHash "deadbeef01" :=
    ⟨by decide, List.all_eq_true.mp (by decide +kernel), by decide⟩
  have h := buildKustomizationNameSuffix_spec podinfoLibraries
    (annotatedPodinfo "_1.2.3" "ab12cd34ef") (by rwa [artifactHash_annotatedPodinfo])
  refine ⟨h.1, h.2.2.2.2 _ ?_ ?_ ?_⟩ <;> simp only [artifactHash_annotatedPodinfo]
  · exact legal'
  · decide
  · decide

end LandscapeOrchestrator.ArtifactDeploymentController
