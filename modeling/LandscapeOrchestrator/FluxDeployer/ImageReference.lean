import LandscapeOrchestrator.Apilib.Names
import LandscapeOrchestrator.FluxDeployer.Mapper

/-!
# Image references

Both mappers take an image reference apart with a library and put its parts together
again for Flux. `ReadsReferences` is what is assumed of the library, and
`parseReference` is a parser of its grammar, for which the assumption is proved. The
mappers keep the reference whole exactly when it names a domain and no digest and,
for a Helm chart, its path has a directory.

## Main definitions

- `Reference.text`, `ReadsReferences` — what a reference is read from
- `parseReference` — the grammar
- `HelmChartResource.reference`, `KustomizeResource.reference` — what Flux pulls
-/

namespace LandscapeOrchestrator.FluxDeployer
open Apilib

/-- An optional part with its mark; an empty part is not there. -/
def marked (mark : Char) (part : String) : String :=
  if part = "" then "" else String.singleton mark ++ part

/-- `[domain '/'] path [':' tag] ['@' digest]` -/
def Reference.text (ref : Reference) : String :=
  (if ref.domain = "" then "" else ref.domain ++ "/") ++ ref.path ++ marked ':' ref.tag ++
    marked '@' ref.digest

/-- Components of a path begin with a small letter or a digit. -/
def IsComponent (e : List Char) : Prop := (∃ c cs, e = c :: cs ∧ isAlnum c = true) ∧ '/' ∉ e

def IsPath (path : String) : Prop :=
  ∃ es, es ≠ [] ∧ (∀ e ∈ es, IsComponent e) ∧ path.toList = ['/'].intercalate es

/-- A reference that is read gives its text back, and its path has components. -/
structure ReadsReferences (parse : String → Except String Reference) : Prop where
  text : ∀ {s ref}, parse s = .ok ref → ref.text = s
  path : ∀ {s ref}, parse s = .ok ref → IsPath ref.path

theorem toList_marked (mark : Char) (part : String) :
    (marked mark part).toList = if part.toList = [] then [] else mark :: part.toList := by
  unfold marked
  by_cases h : part = ""
  · simp [h]
  · simp [h, String.toList_eq_nil_iff]

section Grammar

/-- Where the scan of a path component stands. -/
inductive ComponentPos where
  | start
  | alnum
  | dot
  | underscore
  | underscores
  | dashes
  deriving DecidableEq, Repr

/-- Letters and digits, separated by a dot, one or two underscores, or dashes. -/
def ComponentPos.next (pos : ComponentPos) (c : Char) : Option ComponentPos :=
  if isAlnum c then some .alnum
  else match pos, c with
    | .alnum, '.' => some .dot
    | .alnum, '_' => some .underscore
    | .underscore, '_' => some .underscores
    | .alnum, '-' => some .dashes
    | .dashes, '-' => some .dashes
    | _, _ => none

def isPathComponent (cs : List Char) : Bool := cs.foldlM ComponentPos.next .start = some .alnum

def isRemoteName (cs : List Char) : Bool := (cs.splitOn '/').all isPathComponent

def isDomainComponent (cs : List Char) : Bool :=
  cs.all (fun c => isAnyAlnum c || c = '-') && cs.head?.any isAnyAlnum &&
    cs.getLast?.any isAnyAlnum

def isOptionalPort : List Char → Bool
  | [] => true
  | c :: digits => c = ':' && digits ≠ [] && digits.all Char.isDigit

def isHexDigit (c : Char) : Bool := c.isDigit || ('a' ≤ c && c ≤ 'f') || ('A' ≤ c && c ≤ 'F')

/-- A host name or an IPv6 address in brackets, and an optional port. -/
def isDomain : List Char → Bool
  | '[' :: cs => match Golib.cut ']' cs with
    | (_, none) => false
    | (address, some port) =>
      address ≠ [] && address.all (fun c => isHexDigit c || c = ':') && isOptionalPort port
  | cs =>
    ((cs.takeWhile (· ≠ ':')).splitOn '.').all isDomainComponent &&
      isOptionalPort (cs.dropWhile (· ≠ ':'))

def isWord (c : Char) : Bool := isAnyAlnum c || c = '_'

def isTag : List Char → Bool
  | [] => false
  | c :: cs => isWord c && cs.all (fun c => isWord c || c = '.' || c = '-') && cs.length ≤ 127

/-- The algorithms that are known, with the length of their digests. -/
def digestAlgorithms : List (String × ℕ) := [("sha256:", 64), ("sha384:", 96), ("sha512:", 128)]

def isDigest (cs : List Char) : Bool :=
  digestAlgorithms.any fun algorithm => match algorithm.1.toList.isPrefixOf? cs with
    | none => false
    | some hex => hex.length = algorithm.2 && hex.all fun c => c.isDigit || ('a' ≤ c && c ≤ 'f')

/-- The domain is what stands before the first slash, if it can be one. -/
def splitName (name : List Char) : Option (List Char × List Char) :=
  let (domain, rest) := Golib.cut '/' name
  match rest.filter fun path => isDomain domain && isRemoteName path with
  | some path => some (domain, path)
  | none => if isRemoteName name then some ([], name) else none

/-- `reference.Parse`, up to which error it gives. -/
def parseReference (s : String) : Except String Reference :=
  let (named, digest) := Golib.cut '@' s.toList
  -- a colon before the last slash belongs to a port
  let (last, tag) := Golib.cut ':' (named.rtakeWhile (· ≠ '/'))
  match splitName (named.rdropWhile (· ≠ '/') ++ last) with
  | none => .error "invalid reference format"
  | some (domain, path) =>
    if tag.all isTag && digest.all isDigest && path.length ≤ 255 then .ok {
      domain := String.ofList domain
      path := String.ofList path
      tag := String.ofList (tag.getD [])
      digest := String.ofList (digest.getD []) }
    else .error "invalid reference format"

theorem ComponentPos.foldlM_eq_none {cs : List Char} (h : '/' ∈ cs) (pos : ComponentPos) :
    cs.foldlM ComponentPos.next pos = none := by
  induction cs generalizing pos with
  | nil => simp at h
  | cons c cs ih =>
    obtain rfl | h := List.mem_cons.mp h
    · have hslash : pos.next '/' = none := by cases pos <;> rfl
      rw [List.foldlM_cons, hslash]
      rfl
    · rw [List.foldlM_cons]
      cases pos.next c with
      | none => rfl
      | some pos' => exact ih h pos'

theorem IsComponent.of_isPathComponent {cs : List Char} (h : isPathComponent cs = true) :
    IsComponent cs := by
  have hscan : cs.foldlM ComponentPos.next .start = some .alnum := of_decide_eq_true h
  refine ⟨?_, fun hslash => ?_⟩
  · cases cs with
    | nil => cases hscan
    | cons c cs =>
      refine ⟨c, cs, rfl, ?_⟩
      by_contra hc
      have hnext : ComponentPos.start.next c = none := by
        simp [ComponentPos.next, Bool.eq_false_of_not_eq_true hc]
      rw [List.foldlM_cons, hnext] at hscan
      cases hscan
  · rw [ComponentPos.foldlM_eq_none hslash] at hscan
    cases hscan

theorem IsPath.of_isRemoteName {cs : List Char} (h : isRemoteName cs = true) :
    IsPath (String.ofList cs) := by
  refine ⟨cs.splitOn '/', List.splitOn_ne_nil _ _, fun e he => ?_, ?_⟩
  · exact .of_isPathComponent (List.all_eq_true.mp h e he)
  · rw [String.toList_ofList, List.intercalate_splitOn]

theorem isDomain_nil : isDomain [] = false := by decide

theorem splitName_eq_some {name domain path : List Char} (h : splitName name = some (domain, path)) :
    isRemoteName path = true ∧ (if domain = [] then [] else domain ++ ['/']) ++ path = name := by
  simp only [splitName] at h
  split at h
  · next p hp =>
    obtain ⟨hrest, hvalid⟩ := Option.filter_eq_some_iff.mp hp
    obtain ⟨rfl, rfl⟩ : (Golib.cut '/' name).1 = domain ∧ p = path := by simpa using h
    have hne : (Golib.cut '/' name).1 ≠ [] := by
      intro hnil
      rw [hnil, isDomain_nil] at hvalid
      cases hvalid
    refine ⟨(Bool.and_eq_true_iff.mp hvalid).2, ?_⟩
    rw [if_neg hne, List.append_assoc]
    exact Golib.cut_eq_some hrest
  · split at h
    · next hname =>
      obtain ⟨rfl, rfl⟩ : [] = domain ∧ name = path := by simpa using h
      exact ⟨hname, rfl⟩
    · cases h

/-- An optional part that is cut off comes back with its mark. -/
theorem cut_append_marked {mark : Char} {cs : List Char} {p : List Char → Bool}
    (hp : p [] = false) (h : (Golib.cut mark cs).2.all p = true) :
    (Golib.cut mark cs).1 ++ (marked mark (String.ofList ((Golib.cut mark cs).2.getD []))).toList =
      cs := by
  rw [toList_marked, String.toList_ofList]
  cases hrest : (Golib.cut mark cs).2 with
  | none => simpa using Golib.cut_eq_none hrest
  | some rest =>
    have hne : rest ≠ [] := by
      rintro rfl
      simp [hrest, hp] at h
    simpa [hne] using Golib.cut_eq_some hrest

theorem parseReference_reads : ReadsReferences parseReference := by
  have hparts : ∀ {s ref}, parseReference s = .ok ref → ref.text = s ∧ IsPath ref.path := by
    intro s ref h
    simp only [parseReference] at h
    split at h
    · cases h
    · next domain path hname =>
      split at h
      · next hvalid =>
        obtain ⟨hpath, hjoin⟩ := splitName_eq_some hname
        simp only [Bool.and_eq_true] at hvalid
        obtain rfl := Except.ok.inj h
        refine ⟨String.toList_inj.mp ?_, .of_isRemoteName hpath⟩
        have hdomain : ((if String.ofList domain = "" then "" else String.ofList domain ++ "/") ++
            String.ofList path).toList =
              (Golib.cut '@' s.toList).1.rdropWhile (· ≠ '/') ++
                (Golib.cut ':' ((Golib.cut '@' s.toList).1.rtakeWhile (· ≠ '/'))).1 := by
          rw [← hjoin]
          by_cases hd : domain = []
          · simp [hd]
          · simp [hd, String.ofList_eq_empty_iff]
        rw [Reference.text, String.toList_append, String.toList_append, hdomain, List.append_assoc
          (List.rdropWhile _ _), cut_append_marked (p := isTag) rfl hvalid.1.1,
          List.rdropWhile_append_rtakeWhile, cut_append_marked (p := isDigest) (by decide) hvalid.1.2]
      · cases h
  exact ⟨fun h => (hparts h).1, fun h => (hparts h).2⟩

end Grammar

/-- What Flux pulls for a Helm chart. -/
def HelmChartResource.reference (chart : HelmChartResource) : String :=
  chart.repository ++ "/" ++ chart.chartName ++ ":" ++ chart.version

/-- What Flux pulls for a Kustomize artifact. -/
def KustomizeResource.reference (artifact : KustomizeResource) : String :=
  artifact.repository ++ ":" ++ artifact.tag

def OCMResource.accessType (resource : OCMResource) : Option String :=
  (Jsonlib.unmarshalStringsExact ["type"] resource.content).map (· "type")

def OCMResource.imageReference (resource : OCMResource) : Option String :=
  (Jsonlib.unmarshalStringsExact ["type", "imageReference"] resource.content).map
    (· "imageReference")

/-- The reference after its scheme. -/
def bareRef (imageReference : String) : String := (splitScheme imageReference).1

def Reference.hasDirectory (ref : Reference) : Prop := '/' ∈ ref.path.toList

instance (ref : Reference) : Decidable ref.hasDirectory :=
  inferInstanceAs (Decidable ('/' ∈ ref.path.toList))

section Mappers

variable {parse : String → Except String Reference} {ref : Reference} {resource : OCMResource}
  {image : String}

/-- The reference was read from the image reference. -/
structure ReadFrom (parse : String → Except String Reference) (image : String) (ref : Reference) :
    Prop where
  parsed : parse (bareRef image) = .ok ref
  tagged : ref.isNamedTagged = true

theorem insecure_iff : (splitScheme image).2 = true ↔ "http://".toList <+: image.toList := by
  unfold splitScheme Golib.cutPrefix
  cases h : "http://".toList.isPrefixOf? image.toList with
  | some bare =>
    have := List.isPrefixOf?_eq_some_iff_append_eq.mp h
    simpa using ⟨bare, this⟩
  | none =>
    have hnot : ¬ "http://".toList <+: image.toList := by
      rintro ⟨bare, hbare⟩
      rw [List.isPrefixOf?_eq_some_iff_append_eq.mpr hbare] at h
      cases h
    refine iff_of_false ?_ hnot
    cases "https://".toList.isPrefixOf? image.toList <;> simp

theorem parseImageReference_ok {insecure : Bool}
    (h : parseImageReference parse image = .ok (ref, insecure)) :
    ReadFrom parse image ref ∧ (insecure = true ↔ "http://".toList <+: image.toList) := by
  simp only [parseImageReference] at h
  split at h
  · cases h
  · next ref' hparse =>
    split at h
    · next htagged =>
      obtain ⟨rfl, rfl⟩ : ref' = ref ∧ (splitScheme image).2 = insecure := by simpa using h
      exact ⟨⟨hparse, htagged⟩, insecure_iff⟩
    · cases h

theorem toHelm_ok {chart : HelmChartResource} (haccess : resource.accessType = some "ociArtifact")
    (h : toHelm parse resource = .ok chart) :
    ∃ image ref insecure, resource.imageReference = some image ∧
      parseImageReference parse image = .ok (ref, insecure) ∧
      chart = ⟨resource, "oci://" ++ ref.domain ++ "/" ++
        String.ofList (Golib.pathDir ref.path.toList),
        String.ofList (Golib.pathBase ref.path.toList), ref.tag, insecure⟩ := by
  unfold toHelm at h
  split at h
  · cases h
  · split at h
    · cases h
    · next access hread =>
      obtain htype : access "type" = "ociArtifact" := by
        simpa [OCMResource.accessType, hread] using haccess
      rw [if_neg (by rw [htype]; decide), if_pos htype] at h
      split at h
      · cases h
      · next content hcontent =>
        split at h
        · cases h
        · next ref insecure hparse =>
          exact ⟨_, ref, insecure, by rw [OCMResource.imageReference, hcontent]; rfl, hparse,
            (Except.ok.inj h).symm⟩

theorem toKustomize_ok {artifact : KustomizeResource}
    (h : toKustomize parse resource = .ok artifact) :
    ∃ image ref insecure, resource.imageReference = some image ∧
      parseImageReference parse image = .ok (ref, insecure) ∧
      artifact = ⟨resource, "oci://" ++ ref.domain ++ "/" ++ ref.path, "./", ref.tag, insecure⟩ := by
  unfold toKustomize at h
  split at h
  · cases h
  · split at h
    · cases h
    · next content hcontent =>
      split at h
      · cases h
      · split at h
        · cases h
        · next ref insecure hparse =>
          exact ⟨_, ref, insecure, by rw [OCMResource.imageReference, hcontent]; rfl, hparse,
            (Except.ok.inj h).symm⟩

theorem IsComponent.isElement {e : List Char} (h : IsComponent e) : Golib.IsElement e := by
  obtain ⟨⟨c, cs, rfl, hc⟩, hslash⟩ := h
  have hdot : c ≠ '.' := by
    rintro rfl
    exact absurd hc (by decide)
  exact ⟨by simp, by simp [hdot], by simp [hdot], hslash⟩

/-- The path begins with neither a slash nor a dot. -/
theorem IsPath.head {path : String} (h : IsPath path) :
    ∃ c cs, path.toList = c :: cs ∧ c ≠ '/' ∧ c ≠ '.' := by
  obtain ⟨es, hne, hes, hpath⟩ := h
  obtain ⟨e, es, rfl⟩ := List.exists_cons_of_ne_nil hne
  obtain ⟨⟨c, cs, rfl, hc⟩, -⟩ := hes e List.mem_cons_self
  obtain ⟨rest, hrest⟩ := Golib.intercalate_head c cs es
  have hother (d : Char) (hd : isAlnum d = false) : c ≠ d := by
    rintro rfl
    rw [hc] at hd
    cases hd
  exact ⟨c, rest, hpath.trans hrest, hother _ rfl, hother _ rfl⟩

/-- A directory and a base make up the path exactly when it has a slash. -/
theorem IsPath.dir_base_iff {path : String} (h : IsPath path) :
    Golib.pathDir path.toList ++ '/' :: Golib.pathBase path.toList = path.toList ↔
      '/' ∈ path.toList := by
  refine ⟨fun heq => heq ▸ by simp, fun hslash => ?_⟩
  obtain ⟨es, hne, hes, hpath⟩ := h
  obtain ⟨init, b, rfl⟩ := (List.eq_nil_or_concat' es).resolve_left hne
  have hinit : init ≠ [] := by
    rintro rfl
    rw [hpath] at hslash
    exact (hes b (by simp)).2 (by simpa using hslash)
  rw [hpath]
  exact Golib.pathDir_slash_pathBase hinit (fun e he => (hes e (by simp [he])).isElement)
    (hes b (by simp)).isElement

/-- Parts put together as the mappers do, with `q` for the path, make up the text. -/
theorem rejoined_iff (htag : ref.tag ≠ "") (hpath : IsPath ref.path) (q : List Char) :
    ref.domain.toList ++ '/' :: (q ++ ':' :: ref.tag.toList) = ref.text.toList ↔
      ref.domain ≠ "" ∧ q ++ ':' :: ref.tag.toList =
        ref.path.toList ++ (':' :: ref.tag.toList ++ (marked '@' ref.digest).toList) := by
  have htail : (marked ':' ref.tag).toList = ':' :: ref.tag.toList := by
    rw [toList_marked, if_neg (by simpa using htag)]
  by_cases hdomain : ref.domain = ""
  · obtain ⟨c, cs, hhead, hslash, -⟩ := hpath.head
    refine iff_of_false (fun h => ?_) fun h => h.1 hdomain
    simp only [Reference.text, String.toList_append, hdomain, if_true, hhead] at h
    exact hslash (List.cons.inj h).1.symm
  · simp only [Reference.text, String.toList_append, hdomain, if_false, htail]
    simp [hdomain]

theorem kustomize_reference_iff (htag : ref.tag ≠ "") (hpath : IsPath ref.path) :
    "oci://" ++ ref.domain ++ "/" ++ ref.path ++ ":" ++ ref.tag = "oci://" ++ ref.text ↔
      ref.domain ≠ "" ∧ ref.digest = "" := by
  have hdigest : (marked '@' ref.digest).toList = [] ↔ ref.digest = "" := by
    rw [toList_marked]
    by_cases h : ref.digest = "" <;> simp [h]
  have h := rejoined_iff htag hpath ref.path.toList
  rw [List.append_cancel_left_eq, List.self_eq_append_right, hdigest] at h
  rw [← h, ← String.toList_inj]
  simp

theorem helm_repository_iff (hpath : IsPath ref.path) :
    "oci://" ++ ref.domain ++ "/" ++ String.ofList (Golib.pathDir ref.path.toList) ++ "/" ++
        String.ofList (Golib.pathBase ref.path.toList) =
      "oci://" ++ ref.domain ++ "/" ++ ref.path ↔ ref.hasDirectory := by
  rw [← String.toList_inj, Reference.hasDirectory, ← hpath.dir_base_iff]
  simp

theorem helm_reference_iff (htag : ref.tag ≠ "") (hpath : IsPath ref.path) :
    "oci://" ++ ref.domain ++ "/" ++ String.ofList (Golib.pathDir ref.path.toList) ++ "/" ++
          String.ofList (Golib.pathBase ref.path.toList) ++ ":" ++ ref.tag =
        "oci://" ++ ref.text ↔
      ref.domain ≠ "" ∧ ref.digest = "" ∧ ref.hasDirectory := by
  by_cases hdir : ref.hasDirectory
  · rw [← and_assoc, and_iff_left hdir, ← kustomize_reference_iff htag hpath,
      (helm_repository_iff hpath).mpr hdir]
  · -- the directory of a single component is the dot
    have h := rejoined_iff htag hpath
      (Golib.pathDir ref.path.toList ++ '/' :: Golib.pathBase ref.path.toList)
    obtain ⟨c, cs, hhead, -, hdot⟩ := hpath.head
    refine iff_of_false (fun heq => ?_) fun hall => hdir hall.2.2
    have := (h.mp (by rw [← String.toList_inj] at heq; simpa using heq)).2
    rw [Golib.pathDir_single hdir, hhead] at this
    exact hdot (List.cons.inj this).1.symm

end Mappers

/-- Flux pulls the reference that was given exactly when it has a domain, no digest
and, for a Helm chart, a directory. -/
theorem mapped_reference_iff (parse : String → Except String Reference)
    (hparse : ReadsReferences parse) :
    (∀ resource chart, resource.accessType = some "ociArtifact" →
      toHelm parse resource = .ok chart →
        ∃ image ref, resource.imageReference = some image ∧ ReadFrom parse image ref ∧
          (chart.reference = "oci://" ++ bareRef image ↔
            ref.domain ≠ "" ∧ ref.digest = "" ∧ ref.hasDirectory) ∧
          (chart.insecure = true ↔ "http://".toList <+: image.toList)) ∧
      (∀ resource artifact, toKustomize parse resource = .ok artifact →
        ∃ image ref, resource.imageReference = some image ∧ ReadFrom parse image ref ∧
          (artifact.reference = "oci://" ++ bareRef image ↔
            ref.domain ≠ "" ∧ ref.digest = "") ∧
          (artifact.insecure = true ↔ "http://".toList <+: image.toList)) ∧
      ∀ helm kustomize chart artifact, helm.accessType = some "ociArtifact" →
        toHelm parse helm = .ok chart → toKustomize parse kustomize = .ok artifact →
        helm.imageReference = kustomize.imageReference →
          ∃ image ref, helm.imageReference = some image ∧ ReadFrom parse image ref ∧
            (chart.repository ++ "/" ++ chart.chartName = artifact.repository ↔
              ref.hasDirectory) := by
  have htag {ref : Reference} (h : ref.isNamedTagged = true) : ref.tag ≠ "" := by
    simpa using (Bool.and_eq_true_iff.mp h).2
  refine ⟨fun resource chart haccess hmap => ?_, fun resource artifact hmap => ?_,
    fun helm kustomize chart artifact haccess hhelm hkustomize hsame => ?_⟩
  · obtain ⟨image, ref, insecure, himage, hread, rfl⟩ := toHelm_ok haccess hmap
    obtain ⟨hfrom, hinsecure⟩ := parseImageReference_ok hread
    refine ⟨image, ref, himage, hfrom, ?_, hinsecure⟩
    rw [← hparse.text hfrom.parsed]
    exact helm_reference_iff (htag hfrom.tagged) (hparse.path hfrom.parsed)
  · obtain ⟨image, ref, insecure, himage, hread, rfl⟩ := toKustomize_ok hmap
    obtain ⟨hfrom, hinsecure⟩ := parseImageReference_ok hread
    refine ⟨image, ref, himage, hfrom, ?_, hinsecure⟩
    rw [← hparse.text hfrom.parsed]
    exact kustomize_reference_iff (htag hfrom.tagged) (hparse.path hfrom.parsed)
  · obtain ⟨image, ref, insecure, himage, hread, rfl⟩ := toHelm_ok haccess hhelm
    obtain ⟨image', ref', insecure', himage', hread', rfl⟩ := toKustomize_ok hkustomize
    obtain rfl : image = image' := Option.some.inj (himage.symm.trans (hsame.trans himage'))
    obtain ⟨rfl, -⟩ : ref = ref' ∧ insecure = insecure' := by simpa [hread] using hread'
    have hfrom := (parseImageReference_ok hread).1
    exact ⟨image, ref, himage, hfrom, helm_repository_iff (hparse.path hfrom.parsed)⟩

/-- A resource in an OCI registry. -/
def ociResource (type image : String) : OCMResource where
  name := "podinfo"
  type := type
  content := Jsonlib.encode (.obj [(Jsonlib.quote "type", .str (Jsonlib.quote "ociArtifact")),
    (Jsonlib.quote "imageReference", .str (Jsonlib.quote image))])

theorem decode_ociResource (type image : String) :
    Jsonlib.decode (ociResource type image).content =
      some (.obj [("type", .str "ociArtifact"), ("imageReference", .str image)]) := by
  simp [ociResource, Jsonlib.Json.value, Jsonlib.Json.valueMembers]

theorem accessType_ociResource (type image : String) :
    (ociResource type image).accessType = some "ociArtifact" := by
  simp [OCMResource.accessType, Jsonlib.unmarshalStringsExact, decode_ociResource,
    Jsonlib.setField, Jsonlib.fieldFor]

theorem imageReference_ociResource (type image : String) :
    (ociResource type image).imageReference = some image := by
  simp [OCMResource.imageReference, Jsonlib.unmarshalStringsExact, decode_ociResource,
    Jsonlib.setField, Jsonlib.fieldFor]

section

variable {parse : String → Except String Reference} {image : String} {ref : Reference}
  {insecure : Bool}

theorem toHelm_ociResource (h : parseImageReference parse image = .ok (ref, insecure)) :
    toHelm parse (ociResource "helmChart" image) = .ok ⟨ociResource "helmChart" image,
      "oci://" ++ ref.domain ++ "/" ++ String.ofList (Golib.pathDir ref.path.toList),
      String.ofList (Golib.pathBase ref.path.toList), ref.tag, insecure⟩ := by
  have htype : (ociResource "helmChart" image).type = "helmChart" := rfl
  simp [toHelm, htype, Jsonlib.unmarshalStringsExact, decode_ociResource, Jsonlib.setField,
    Jsonlib.fieldFor, h]

theorem toKustomize_ociResource (h : parseImageReference parse image = .ok (ref, insecure)) :
    toKustomize parse (ociResource "kustomize" image) = .ok ⟨ociResource "kustomize" image,
      "oci://" ++ ref.domain ++ "/" ++ ref.path, "./", ref.tag, insecure⟩ := by
  have htype : (ociResource "kustomize" image).type = "kustomize" := rfl
  simp [toKustomize, htype, Jsonlib.unmarshalStringsExact, decode_ociResource, Jsonlib.setField,
    Jsonlib.fieldFor, h]

end

theorem nested_reference_kept :
    ∃ chart, toHelm parseReference
        (ociResource "helmChart" "http://registry.local:5000/charts/podinfo:6.9.1") = .ok chart ∧
      chart.reference = "oci://registry.local:5000/charts/podinfo:6.9.1" ∧
      chart.insecure = true := by
  have hread : parseImageReference parseReference
      "http://registry.local:5000/charts/podinfo:6.9.1" =
        .ok (⟨"registry.local:5000", "charts/podinfo", "6.9.1", ""⟩, true) := by decide +kernel
  obtain ⟨image, ref, himage, hfrom, hkept, hinsecure⟩ :=
    (mapped_reference_iff parseReference parseReference_reads).1 _ _
      (accessType_ociResource _ _) (toHelm_ociResource hread)
  obtain rfl := Option.some.inj (himage.symm.trans (imageReference_ociResource _ _))
  obtain rfl := Except.ok.inj (hfrom.parsed.symm.trans (parseImageReference_ok hread).1.parsed)
  refine ⟨_, toHelm_ociResource hread, ?_, hinsecure.mpr (by decide +kernel)⟩
  rw [hkept.mpr (by decide +kernel)]
  decide +kernel

def podinfoDigest : String :=
  "sha256:94ee94f0d9b4a1d4bd5a2c0d0c6f1a0a4b3c2d1e0f9a8b7c6d5e4f3a2b1c0d9e"

/-- A chart at the root of its registry is looked for under a dot, where the other
mapper does not look; and a digest is dropped. -/
theorem root_chart_and_digest_lost :
    ∃ chart artifact pinned,
      toHelm parseReference (ociResource "helmChart" "registry.example.com/podinfo:6.9.1") =
          .ok chart ∧
        chart.reference = "oci://registry.example.com/./podinfo:6.9.1" ∧
        toKustomize parseReference
            (ociResource "kustomize" "registry.example.com/podinfo:6.9.1") = .ok artifact ∧
        artifact.reference = "oci://registry.example.com/podinfo:6.9.1" ∧
        toKustomize parseReference (ociResource "kustomize"
            ("registry.example.com/apps/podinfo:6.9.1@" ++ podinfoDigest)) = .ok pinned ∧
        pinned.reference = "oci://registry.example.com/apps/podinfo:6.9.1" := by
  have hroot : parseImageReference parseReference "registry.example.com/podinfo:6.9.1" =
      .ok (⟨"registry.example.com", "podinfo", "6.9.1", ""⟩, false) := by decide +kernel
  have hpinned : parseImageReference parseReference
      ("registry.example.com/apps/podinfo:6.9.1@" ++ podinfoDigest) =
        .ok (⟨"registry.example.com", "apps/podinfo", "6.9.1", podinfoDigest⟩, false) := by
    decide +kernel
  exact ⟨_, _, _, toHelm_ociResource hroot, by decide +kernel, toKustomize_ociResource hroot,
    by decide +kernel, toKustomize_ociResource hpinned, by decide +kernel⟩

end LandscapeOrchestrator.FluxDeployer
