import LandscapeOrchestrator.Golib.Format
import LandscapeOrchestrator.Golib.Path
import LandscapeOrchestrator.Golib.Strings
import LandscapeOrchestrator.Jsonlib.Unmarshal

/-!
# Mapping OCM resources

The content of an OCM resource says where its artifact lies. `toHelm` and
`toKustomize` read it into what the Flux reconcilers need. The parser of image
references is a library; it is a parameter here.
-/

namespace LandscapeOrchestrator.FluxDeployer

structure OCMResource where
  name : String
  type : String
  content : String
  deriving DecidableEq, Repr

structure HelmChartResource where
  ocmResource : OCMResource
  repository : String
  chartName : String
  version : String
  insecure : Bool
  deriving DecidableEq, Repr

structure KustomizeResource where
  ocmResource : OCMResource
  repository : String
  path : String
  tag : String
  insecure : Bool
  deriving DecidableEq, Repr

/-- A parsed image reference; a part that is not there is empty. -/
structure Reference where
  domain : String
  path : String
  tag : String
  digest : String
  deriving DecidableEq, Repr

/-- The assertion `ref.(reference.NamedTagged)`: a digest beside the tag does not matter. -/
def Reference.isNamedTagged (ref : Reference) : Bool := ref.path ≠ "" && ref.tag ≠ ""

inductive MapError where
  | resourceType (type target : String)
  | unmarshal (target : String)
  | accessType (type : String)
  | reference (cause : String)
  | notTagged (imageReference : String)
  deriving DecidableEq, Repr

/-- The text of an error, up to the library's own description of bad JSON. -/
def MapError.message : MapError → String
  | resourceType type target => "type '" ++ type ++ "' not parsable to " ++ target
  | unmarshal target => "unable to unmarshal content to " ++ target
  | accessType type =>
    "type '" ++ type ++ "' not parsable to HelmChartResource (supported: helm, ociArtifact)"
  | reference cause => "unable to parse kustomizeImage reference: " ++ cause
  | notTagged imageReference => "imageReference must be in format " ++
      Golib.quote "<repository-url>:<tag>" ++ ", got " ++ Golib.quote imageReference

/-- An optional scheme is stripped; `http://` marks an insecure registry. -/
def splitScheme (imageReference : String) : String × Bool :=
  match Golib.cutPrefix imageReference "http://" with
  | some bare => (bare, true)
  | none => match Golib.cutPrefix imageReference "https://" with
    | some bare => (bare, false)
    | none => (imageReference, false)

section

variable (parse : String → Except String Reference)

/-- The reference of an `ociArtifact`, and whether its registry is insecure. -/
def parseImageReference (imageReference : String) : Except MapError (Reference × Bool) :=
  let (bareRef, insecure) := splitScheme imageReference
  match parse bareRef with
  | .error cause => .error (.reference cause)
  | .ok ref =>
    if ref.isNamedTagged then .ok (ref, insecure) else .error (.notTagged imageReference)

/-- The access type `helm`: the version follows a colon in the chart, or stands alone. -/
def helmAccess (resource : OCMResource) (content : String → String) : HelmChartResource :=
  let chart := content "helmChart"
  match (chart.toList.splitOn ':').map String.ofList with
  | chartName :: version :: _ => ⟨resource, content "helmRepository", chartName, version, false⟩
  | _ => ⟨resource, content "helmRepository", chart, content "version", false⟩

def toHelm (resource : OCMResource) : Except MapError HelmChartResource :=
  if resource.type ≠ "helmChart" then .error (.resourceType resource.type "HelmChartResource")
  else match Jsonlib.unmarshalStringsExact ["type"] resource.content with
    | none => .error (.unmarshal "accessType wrapper")
    | some access =>
      if access "type" = "helm" then
        match Jsonlib.unmarshalStringsExact ["type", "helmRepository", "helmChart", "version"]
            resource.content with
        | none => .error (.unmarshal "HelmChartResource")
        | some content => .ok (helmAccess resource content)
      else if access "type" = "ociArtifact" then
        match Jsonlib.unmarshalStringsExact ["type", "imageReference"] resource.content with
        | none => .error (.unmarshal "HelmChartResource")
        | some content =>
          match parseImageReference parse (content "imageReference") with
          | .error e => .error e
          | .ok (ref, insecure) => .ok {
              ocmResource := resource
              repository := "oci://" ++ ref.domain ++ "/" ++
                String.ofList (Golib.pathDir ref.path.toList)
              chartName := String.ofList (Golib.pathBase ref.path.toList)
              version := ref.tag
              insecure := insecure }
      else .error (.accessType resource.type)

def toKustomize (resource : OCMResource) : Except MapError KustomizeResource :=
  if resource.type ≠ "kustomize" then .error (.resourceType resource.type "KustomizeResource")
  else match Jsonlib.unmarshalStringsExact ["type", "imageReference"] resource.content with
    | none => .error (.unmarshal "KustomizeResource")
    | some content =>
      if content "type" ≠ "ociArtifact" then
        .error (.resourceType (content "type") "KustomizeResource")
      else match parseImageReference parse (content "imageReference") with
        | .error e => .error e
        | .ok (ref, insecure) => .ok {
            ocmResource := resource
            repository := "oci://" ++ ref.domain ++ "/" ++ ref.path
            path := "./"
            tag := ref.tag
            insecure := insecure }

end

end LandscapeOrchestrator.FluxDeployer
