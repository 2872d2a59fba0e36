import LandscapeOrchestrator.FluxDeployer.Publishing
import LandscapeOrchestrator.Jsonlib.Record

/-!
# The wire format of deployment results

The deployer writes a `ServiceSpec` as JSON into a status; API servers read the status and
write it again before the activation decodes it. On the way the members of objects may
change places.

## Main definitions

- `PortField`, `portSchema`, `SpecField`, `specSchema` — the two Go structs
- `marshalServiceSpec`, `unmarshalServiceSpec` — the encoder and the decoder
- `wireCodec` — both, as what the publishing of results assumes
- `Reencoded` — a result after it was stored and read
-/

namespace LandscapeOrchestrator.FluxDeployer
open Apilib
open Jsonlib (Value Json Schema Slice Int32Range)
open ActivationExecution (RouteTarget buildRouteRules)

def Protocol.ofText (s : String) : Protocol :=
  if s = "TCP" then .tcp else if s = "UDP" then .udp else if s = "SCTP" then .sctp else .other s

/-- `intstr.IntOrString`. -/
structure IntOrString where
  isString : Bool
  intVal : ℤ
  strVal : String
  deriving DecidableEq

namespace IntOrString

/-- `UnmarshalJSON` looks at the first character only to tell a string. -/
def decode : Value → IntOrString → Option IntOrString
  | .str s, old => some { old with isString := true, strVal := s }
  | v, old => (Jsonlib.decodeInt32 v old.intVal).map fun i =>
    { old with isString := false, intVal := i }

def json (x : IntOrString) : Json :=
  if x.isString then .str (Jsonlib.quote x.strVal) else .num (Jsonlib.intLit x.intVal)

end IntOrString

/-- `appProtocol` is a pointer. -/
def decodeStringPointer : Value → Option String → Option (Option String)
  | .null, _ => some none
  | .str s, _ => some (some s)
  | _, _ => none

def decodeProtocol (v : Value) (old : Protocol) : Option Protocol :=
  (Jsonlib.decodeString v old.text).map Protocol.ofText

/-- The fields of `corev1.ServicePort`. -/
inductive PortField where
  | name
  | protocol
  | appProtocol
  | port
  | targetPort
  | nodePort
  deriving DecidableEq

abbrev PortField.Ty : PortField → Type
  | name => String
  | protocol => Protocol
  | appProtocol => Option String
  | port => ℤ
  | targetPort => IntOrString
  | nodePort => ℤ

def portSchema : Schema PortField PortField.Ty where
  fields := [.name, .protocol, .appProtocol, .port, .targetPort, .nodePort]
  name
    | .name => "name"
    | .protocol => "protocol"
    | .appProtocol => "appProtocol"
    | .port => "port"
    | .targetPort => "targetPort"
    | .nodePort => "nodePort"
  zero
    | .name => ""
    | .protocol => .other ""
    | .appProtocol => none
    | .port => 0
    | .targetPort => ⟨false, 0, ""⟩
    | .nodePort => 0
  dec
    | .name => Jsonlib.decodeString
    | .protocol => decodeProtocol
    | .appProtocol => decodeStringPointer
    | .port => Jsonlib.decodeInt32
    | .targetPort => IntOrString.decode
    | .nodePort => Jsonlib.decodeInt32

/-- A port with all its fields. -/
abbrev PortRecord := (f : PortField) → f.Ty

/-- The fields that the orchestrator reads. -/
def PortRecord.port (r : PortRecord) : ServicePort := ⟨r .name, r .protocol, r .port⟩

/-- The fields of `ServiceSpec`. -/
inductive SpecField where
  | ns
  | k8sName
  | servicePorts
  | ingressExposedPortName
  deriving DecidableEq

abbrev SpecField.Ty : SpecField → Type
  | ns => String
  | k8sName => String
  | servicePorts => Slice PortRecord
  | ingressExposedPortName => String

def specSchema : Schema SpecField SpecField.Ty where
  fields := [.ns, .k8sName, .servicePorts, .ingressExposedPortName]
  name
    | .ns => "Namespace"
    | .k8sName => "K8sName"
    | .servicePorts => "ServicePorts"
    | .ingressExposedPortName => "IngressExposedPortName"
  zero
    | .ns => ""
    | .k8sName => ""
    | .servicePorts => ⟨[], []⟩
    | .ingressExposedPortName => ""
  dec
    | .ns => Jsonlib.decodeString
    | .k8sName => Jsonlib.decodeString
    | .servicePorts => Jsonlib.decodeSlice portSchema.zero portSchema.decode
    | .ingressExposedPortName => Jsonlib.decodeString

/-- `json.Unmarshal` into a `ServiceSpec`. The decoder's messages are not told apart. -/
def unmarshalServiceSpec (raw : String) : Except String ServiceSpec :=
  match (Jsonlib.decode raw).bind fun v => specSchema.decode v specSchema.zero with
  | none => .error "json: cannot unmarshal into Go value of type deploymentresult.ServiceSpec"
  | some r => .ok {
      ns := r .ns
      k8sName := r .k8sName
      servicePorts := (r .servicePorts).elems.map PortRecord.port
      ingressExposedPortName := r .ingressExposedPortName }

/-- The fields of a port that the orchestrator does not read. -/
structure PortRest where
  appProtocol : Option String
  targetPort : ℤ ⊕ String
  nodePort : ℤ
  targetPort_range : ∀ i, targetPort = .inl i → Int32Range i
  nodePort_range : Int32Range nodePort

/-- The target port of a port, as the decoder leaves it. -/
def PortRest.intOrString (x : PortRest) : IntOrString :=
  match x.targetPort with
  | .inl i => ⟨false, i, ""⟩
  | .inr s => ⟨true, 0, s⟩

def PortRest.record (x : PortRest) (p : ServicePort) : PortRecord
  | .name => p.name
  | .protocol => p.protocol
  | .appProtocol => x.appProtocol
  | .port => p.port
  | .targetPort => x.intOrString
  | .nodePort => x.nodePort

/-- `omitempty`. -/
def unlessEmpty {F : Type} (f : F) (s : String) : List (F × Json) :=
  if s = "" then [] else [(f, .str (Jsonlib.quote s))]

/-- The members in the order of the struct. -/
def portMembers (r : PortRecord) : List (PortField × Json) :=
  unlessEmpty .name (r .name) ++ unlessEmpty .protocol (r .protocol).text ++
    (match r .appProtocol with
      | none => []
      | some s => [(.appProtocol, .str (Jsonlib.quote s))]) ++
    [(.port, .num (Jsonlib.intLit (r .port))), (.targetPort, (r .targetPort).json)] ++
    if r .nodePort = 0 then [] else [(.nodePort, .num (Jsonlib.intLit (r .nodePort)))]

/-- The object with these members. -/
def objectJson {F : Type} {T : F → Type} (S : Schema F T) (es : List (F × Json)) : Json :=
  .obj (es.map fun e => (Jsonlib.quote (S.name e.1), e.2))

/-- No ports are a nil slice. -/
def portsJson (ports : List PortRecord) : Json :=
  if ports = [] then .null else .arr (ports.map fun r => objectJson portSchema (portMembers r))

section

variable (rest : ServiceSpec → ServicePort → PortRest)

/-- The ports of a spec with all their fields. -/
def specPorts (spec : ServiceSpec) : List PortRecord :=
  spec.servicePorts.map fun p => (rest spec p).record p

def specMembers (spec : ServiceSpec) : List (SpecField × Json) :=
  [(.ns, .str (Jsonlib.quote spec.ns)), (.k8sName, .str (Jsonlib.quote spec.k8sName)),
    (.servicePorts, portsJson (specPorts rest spec))] ++
    unlessEmpty .ingressExposedPortName spec.ingressExposedPortName

/-- A port of the Go type: a number of 32 bits and a protocol by its text. -/
def Encodable (p : ServicePort) : Prop := Int32Range p.port ∧ Protocol.ofText p.protocol.text = p.protocol

instance (p : ServicePort) : Decidable (Encodable p) := inferInstanceAs (Decidable (_ ∧ _))

/-- `json.Marshal`. There is no other `ServiceSpec` in Go than one that can be encoded. -/
def marshalServiceSpec (spec : ServiceSpec) : Except String String :=
  if ∀ p ∈ spec.servicePorts, Encodable p then
    .ok (Jsonlib.encode (objectJson specSchema (specMembers rest spec)))
  else .error "json: unsupported value"

end

section Decoding

theorem portSchema_fieldOf (f : PortField) : portSchema.fieldOf (portSchema.name f) = some f := by
  cases f <;> decide

theorem specSchema_fieldOf (f : SpecField) : specSchema.fieldOf (specSchema.name f) = some f := by
  cases f <;> decide

theorem reordered_str {s : String} {w : Value} (h : Value.Reordered (.str s) w) : w = .str s := by
  cases h
  rfl

theorem reordered_num {n : Jsonlib.NumLit} {w : Value} (h : Value.Reordered (.num n) w) :
    w = .num n := by
  cases h
  rfl

theorem objectJson_value {F : Type} {T : F → Type} [DecidableEq F] (S : Schema F T)
    (es : List (F × Json)) :
    (objectJson S es).value = S.object (es.map fun e => (e.1, e.2.value)) := by
  refine congrArg Value.obj ?_
  induction es with
  | nil => rfl
  | cons e es ih => simp [Json.valueMembers, ih]

theorem mem_unlessEmpty {F : Type} {f g : F} {s : String} {u : Json}
    (h : (g, u) ∈ unlessEmpty f s) : g = f ∧ u = .str (Jsonlib.quote s) := by
  unfold unlessEmpty at h
  split at h
  · cases h
  · exact Prod.mk.inj (List.mem_singleton.mp h)

theorem unlessEmpty_fields {F : Type} (f : F) (s : String) :
    ((unlessEmpty f s).map Prod.fst).Sublist [f] := by
  unfold unlessEmpty
  split
  · exact List.nil_sublist _
  · exact List.Sublist.refl _

theorem not_mem_unlessEmpty {F : Type} {f : F} {s : String}
    (h : f ∉ (unlessEmpty f s).map Prod.fst) : s = "" := by
  by_contra hs
  exact h (by simp [unlessEmpty, hs])

/-- What the decoder makes of each member of a port. -/
theorem portMembers_decode {x : PortRest} {p : ServicePort} (hp : Encodable p) {f : PortField}
    {u : Json} (hu : (f, u) ∈ portMembers (x.record p)) {w : Value}
    (hw : Value.Reordered u.value w) :
    portSchema.dec f w (portSchema.zero f) = some (x.record p f) := by
  have hstr {s : String} (hu : u = .str (Jsonlib.quote s)) : w = .str s := by
    rw [hu, Json.value, Jsonlib.value_quote] at hw
    exact reordered_str hw
  have hnum {i : ℤ} (hu : u = .num (Jsonlib.intLit i)) : w = .num (Jsonlib.intLit i) := by
    rw [hu, Json.value] at hw
    exact reordered_num hw
  simp only [portMembers, List.mem_append, List.mem_cons, List.not_mem_nil, or_false] at hu
  obtain (((hu | hu) | hu) | hu | hu) | hu := hu
  · obtain ⟨rfl, he⟩ := mem_unlessEmpty hu
    rw [hstr he]
    rfl
  · obtain ⟨rfl, he⟩ := mem_unlessEmpty hu
    rw [hstr he]
    exact congrArg some hp.2
  · cases happ : x.appProtocol with
    | none => simp [PortRest.record, happ] at hu
    | some s =>
      simp only [PortRest.record, happ, List.mem_singleton, Prod.mk.injEq] at hu
      obtain ⟨rfl, he⟩ := hu
      rw [hstr he]
      exact congrArg some happ.symm
  · obtain ⟨rfl, he⟩ := Prod.mk.inj hu
    rw [hnum he]
    exact Jsonlib.decodeInt32_intLit hp.1 0
  · obtain ⟨rfl, he⟩ := Prod.mk.inj hu
    simp only [PortRest.record, PortRest.intOrString] at he ⊢
    cases htarget : x.targetPort with
    | inl i =>
      simp only [htarget, IntOrString.json, Bool.false_eq_true, if_false] at he
      rw [hnum he]
      simp [portSchema, IntOrString.decode,
        Jsonlib.decodeInt32_intLit (x.targetPort_range i htarget)]
    | inr s =>
      simp only [htarget, IntOrString.json, if_true] at he
      rw [hstr he]
      rfl
  · split at hu
    · cases hu
    · obtain ⟨rfl, he⟩ := Prod.mk.inj (List.mem_singleton.mp hu)
      rw [hnum he]
      exact Jsonlib.decodeInt32_intLit x.nodePort_range 0

theorem portMembers_nodup (r : PortRecord) : ((portMembers r).map Prod.fst).Nodup := by
  have happ : ((match r .appProtocol with
      | none => []
      | some s => [(PortField.appProtocol, Json.str (Jsonlib.quote s))]).map Prod.fst).Sublist
      [PortField.appProtocol] := by
    cases r .appProtocol with
    | none => exact List.nil_sublist _
    | some s => exact List.Sublist.refl _
  have hnode : ((if r .nodePort = 0 then []
      else [(PortField.nodePort, Json.num (Jsonlib.intLit (r .nodePort)))]).map Prod.fst).Sublist
      [PortField.nodePort] := by
    split
    · exact List.nil_sublist _
    · exact List.Sublist.refl _
  have hsub : ((portMembers r).map Prod.fst).Sublist portSchema.fields := by
    simp only [portMembers, List.map_append]
    exact ((((unlessEmpty_fields _ _).append (unlessEmpty_fields _ _)).append happ).append
      (List.Sublist.refl [PortField.port, PortField.targetPort])).append hnode
  exact hsub.nodup (by decide)

/-- A field without a member has its zero value. -/
theorem portMembers_rest {x : PortRest} {p : ServicePort} (hp : Encodable p) {f : PortField}
    (hf : f ∉ (portMembers (x.record p)).map Prod.fst) : x.record p f = portSchema.zero f := by
  simp only [portMembers, List.map_append, List.mem_append, not_or] at hf
  obtain ⟨⟨⟨⟨hname, hprotocol⟩, happ⟩, hboth⟩, hnode⟩ := hf
  cases f with
  | name => exact not_mem_unlessEmpty hname
  | protocol =>
    have htext : p.protocol.text = "" := not_mem_unlessEmpty hprotocol
    have hof := hp.2
    rw [htext] at hof
    exact hof.symm
  | appProtocol =>
    cases hx : x.appProtocol with
    | none => exact hx
    | some s => simp [PortRest.record, hx] at happ
  | port => simp at hboth
  | targetPort => simp at hboth
  | nodePort =>
    by_contra hne
    have hne : ¬ x.record p .nodePort = 0 := hne
    exact hnode (by rw [if_neg hne]; simp)

/-- A port is read back in any order of its members. -/
theorem decode_port {x : PortRest} {p : ServicePort} (hp : Encodable p) {w : Value}
    (hw : Value.Reordered (objectJson portSchema (portMembers (x.record p))).value w) :
    portSchema.decode w portSchema.zero = some (x.record p) := by
  rw [objectJson_value] at hw
  refine Schema.decode_reordered portSchema_fieldOf ?_ hw (fun f u w hu hw => ?_) fun f hf => ?_
  · rw [List.map_map]
    exact portMembers_nodup _
  · obtain ⟨e, he, heq⟩ := List.mem_map.mp hu
    obtain ⟨rfl, rfl⟩ := Prod.mk.inj heq
    exact portMembers_decode hp he hw
  · rw [List.map_map] at hf
    exact portMembers_rest hp hf

variable {rest : ServiceSpec → ServicePort → PortRest} {spec : ServiceSpec}

/-- The record that a spec is read back to. -/
def specRecord (rest : ServiceSpec → ServicePort → PortRest) (spec : ServiceSpec) :
    (f : SpecField) → f.Ty
  | .ns => spec.ns
  | .k8sName => spec.k8sName
  | .servicePorts => ⟨specPorts rest spec, []⟩
  | .ingressExposedPortName => spec.ingressExposedPortName

theorem valueElems_eq_map (xs : List Json) : Json.valueElems xs = xs.map Json.value := by
  induction xs with
  | nil => rfl
  | cons x xs ih => rw [Json.valueElems, ih, List.map_cons]

theorem decode_ports (h : ∀ p ∈ spec.servicePorts, Encodable p) {w : Value}
    (hw : Value.Reordered (portsJson (specPorts rest spec)).value w) :
    specSchema.dec .servicePorts w (specSchema.zero .servicePorts) =
      some ⟨specPorts rest spec, []⟩ := by
  unfold portsJson at hw
  split at hw
  · next hnil =>
    rw [hnil]
    cases hw
    rfl
  · rw [Json.value, valueElems_eq_map, List.map_map] at hw
    obtain ⟨ys, rfl, hys⟩ := hw.of_arr
    refine Jsonlib.decodeSlice_nil ?_
    rw [specPorts, List.forall₂_map_right_iff]
    rw [specPorts, List.map_map, List.forall₂_map_left_iff] at hys
    exact .flip (((List.forall₂_and_left _ _).mpr ⟨h, hys⟩).imp fun p y hy => decode_port hy.1 hy.2)

/-- What the decoder makes of each member of a spec. -/
theorem specMembers_decode (h : ∀ p ∈ spec.servicePorts, Encodable p) {f : SpecField} {u : Json}
    (hu : (f, u) ∈ specMembers rest spec) {w : Value} (hw : Value.Reordered u.value w) :
    specSchema.dec f w (specSchema.zero f) = some (specRecord rest spec f) := by
  have hstr {s : String} (hu : u = .str (Jsonlib.quote s)) : w = .str s := by
    rw [hu, Json.value, Jsonlib.value_quote] at hw
    exact reordered_str hw
  simp only [specMembers, List.mem_append, List.mem_cons, List.not_mem_nil, or_false] at hu
  obtain (hu | hu | hu) | hu := hu
  · obtain ⟨rfl, he⟩ := Prod.mk.inj hu
    rw [hstr he]
    rfl
  · obtain ⟨rfl, he⟩ := Prod.mk.inj hu
    rw [hstr he]
    rfl
  · obtain ⟨rfl, rfl⟩ := Prod.mk.inj hu
    exact decode_ports h hw
  · obtain ⟨rfl, he⟩ := mem_unlessEmpty hu
    rw [hstr he]
    rfl

theorem specMembers_nodup : ((specMembers rest spec).map Prod.fst).Nodup := by
  have hsub : ((specMembers rest spec).map Prod.fst).Sublist specSchema.fields := by
    simp only [specMembers, List.map_append]
    exact (List.Sublist.refl [SpecField.ns, SpecField.k8sName, SpecField.servicePorts]).append
      (unlessEmpty_fields _ _)
  exact hsub.nodup (by decide)

theorem specMembers_rest {f : SpecField} (hf : f ∉ (specMembers rest spec).map Prod.fst) :
    specRecord rest spec f = specSchema.zero f := by
  simp only [specMembers, List.map_append, List.mem_append, not_or] at hf
  obtain ⟨hfixed, hingress⟩ := hf
  cases f with
  | ingressExposedPortName => exact not_mem_unlessEmpty hingress
  | _ => simp at hfixed

/-- A spec is read back from every text that has its members, in any order at any depth. -/
theorem unmarshal_reordered (h : ∀ p ∈ spec.servicePorts, Encodable p) {raw : String} {v : Value}
    (hraw : Jsonlib.decode raw = some v)
    (hv : Value.Reordered (objectJson specSchema (specMembers rest spec)).value v) :
    unmarshalServiceSpec raw = .ok spec := by
  have hdecode : specSchema.decode v specSchema.zero = some (specRecord rest spec) := by
    rw [objectJson_value] at hv
    refine Schema.decode_reordered specSchema_fieldOf ?_ hv (fun f u w hu hw => ?_) fun f hf => ?_
    · rw [List.map_map]
      exact specMembers_nodup
    · obtain ⟨e, he, heq⟩ := List.mem_map.mp hu
      obtain ⟨rfl, rfl⟩ := Prod.mk.inj heq
      exact specMembers_decode h he hw
    · rw [List.map_map] at hf
      exact specMembers_rest hf
  have hports : (specPorts rest spec).map PortRecord.port = spec.servicePorts := by
    rw [specPorts, List.map_map]
    exact List.map_id' _
  rw [unmarshalServiceSpec, hraw, Option.bind_some, hdecode]
  simp only [specRecord, hports]

theorem marshal_ok {raw : String} (h : marshalServiceSpec rest spec = .ok raw) :
    (∀ p ∈ spec.servicePorts, Encodable p) ∧
      Jsonlib.decode raw = some (objectJson specSchema (specMembers rest spec)).value := by
  unfold marshalServiceSpec at h
  split at h
  · next hports =>
    obtain rfl := Except.ok.inj h
    exact ⟨hports, Jsonlib.decode_encode _⟩
  · cases h

end Decoding

/-- What the publishing of results assumes of the wire format. -/
def wireCodec (rest : ServiceSpec → ServicePort → PortRest) : ServiceSpecCodec where
  marshal := marshalServiceSpec rest
  unmarshal := unmarshalServiceSpec
  unmarshal_marshal spec raw h := by
    obtain ⟨hports, hdecode⟩ := marshal_ok h
    exact unmarshal_reordered hports hdecode (.refl _)

/-- Two ports, one of them exposed. -/
def wireService : Service where
  ns := "landscape"
  name := "shop"
  labels := []
  annotations := [("konfidence.cloud/deployment-result", "shop"),
    ("konfidence.cloud/exposed-port-name", "http")]
  ports := [⟨"metrics", .udp, 9090⟩, ⟨"http", .tcp, 80⟩]

def noRest : PortRest where
  appProtocol := none
  targetPort := .inl 0
  nodePort := 0
  targetPort_range := by
    rintro i ⟨⟩
    decide
  nodePort_range := by decide

def wireResult (json : Json) : DeploymentResult :=
  ⟨"shop", typeHTTPK8sService, Jsonlib.encode json⟩

/-- A component with this Service and a result for it. -/
def wireComponent : PublishedComponent (wireCodec fun _ _ => noRest) where
  component := "shop"
  services := [wireService]
  results := [wireResult (objectJson specSchema
    (specMembers (fun _ _ => noRest) (serviceSpec wireService)))]
  published := ⟨by decide +kernel, by decide +kernel⟩

theorem wireService_exposed : ([wireComponent].flatMap (·.services)).filter isExposed =
    [wireService] := by
  decide +kernel

/-- The one rule goes to port 80 of the Service. -/
theorem published_results_routable_shop :
    ∃ rules routed, buildRouteRules ⟨unmarshalServiceSpec, .insertion, .byKey RouteTarget.name⟩
        "prod" ⟨"v1", [wireComponent.entry]⟩ = .ok rules ∧ rules.Perm routed ∧
      List.Forall₂ (RoutedAs "prod" "v1") [wireService] routed := by
  obtain ⟨-, -, hrouted⟩ := published_results_routable (wireCodec fun _ _ => noRest) .insertion
    (.byKey RouteTarget.name) "prod" "v1" [wireComponent]
  rwa [wireService_exposed] at hrouted

/-- The result after others have decoded and encoded it. -/
structure Reencoded (r r' : DeploymentResult) : Prop where
  name : r'.name = r.name
  type : r'.type = r.type
  raw : ∃ v v', Jsonlib.decode r.raw = some v ∧ Jsonlib.decode r'.raw = some v' ∧
    Value.Reordered v v'

/-- What was published for a Service still is after it was encoded again. -/
theorem publishes_reencoded {rest : ServiceSpec → ServicePort → PortRest} {s : Service}
    {raw : String} (hraw : marshalServiceSpec rest (serviceSpec s) = .ok raw) {r' : DeploymentResult}
    (h : Reencoded ⟨s.annotation annotationDeploymentResult, typeHTTPK8sService, raw⟩ r') :
    Publishes (wireCodec rest) s r' := by
  obtain ⟨hports, hdecode⟩ := marshal_ok hraw
  obtain ⟨v, v', hv, hv', hreordered⟩ := h.raw
  obtain rfl := Option.some.inj (hdecode.symm.trans hv)
  exact ⟨h.name, h.type, unmarshal_reordered hports hv' hreordered⟩

/-- The result that the loop makes for a Service. -/
def MarshalledAs (marshal : ServiceSpec → Except String String) (s : Service)
    (r : DeploymentResult) : Prop :=
  ∃ raw, marshal (serviceSpec s) = .ok raw ∧
    r = ⟨s.annotation annotationDeploymentResult, typeHTTPK8sService, raw⟩

theorem mapServices_marshalled {marshal : ServiceSpec → Except String String}
    {services : List Service} {seen : List (String × String)} {results : List DeploymentResult}
    (h : mapServices marshal seen services = .ok results) :
    List.Forall₂ (MarshalledAs marshal) (services.filter hasDeploymentResultName) results := by
  induction services generalizing seen results with
  | nil =>
    obtain rfl := Except.ok.inj h
    exact .nil
  | cons s services ih =>
    unfold mapServices at h
    cases hopt : hasDeploymentResultName s with
    | false =>
      simp only [hopt, Bool.not_false, if_true] at h
      simpa [hopt] using ih h
    | true =>
      simp only [hopt, Bool.not_true, Bool.false_eq_true, if_false] at h
      split at h
      · cases h
      · split at h
        · cases h
        · next raw hraw =>
          split at h
          · cases h
          · next rest hrest =>
            obtain rfl := Except.ok.inj h
            rw [List.filter_cons_of_pos hopt]
            exact .cons ⟨raw, hraw, rfl⟩ (ih hrest)

theorem publishes_of_reencoded {rest : ServiceSpec → ServicePort → PortRest}
    {opted : List Service} {results results' : List DeploymentResult}
    (hmade : List.Forall₂ (MarshalledAs (marshalServiceSpec rest)) opted results)
    (hstored : List.Forall₂ Reencoded results results') :
    List.Forall₂ (Publishes (wireCodec rest)) opted results' := by
  induction hmade generalizing results' with
  | nil =>
    cases hstored
    exact .nil
  | cons hr _ ih =>
    obtain ⟨raw, hraw, rfl⟩ := hr
    cases hstored with
    | cons hr' hstored => exact .cons (publishes_reencoded hraw hr') (ih hstored)

/-- A component after others have decoded and encoded its results. -/
def ReencodedComponent {codec : ServiceSpecCodec} (c : PublishedComponent codec)
    (stored : String × List DeploymentResult) : Prop :=
  stored.1 = c.component ∧ List.Forall₂ Reencoded c.results stored.2

/-- What the deployer publishes for valid Services is decoded and encoded by others before
the activation reads it. Nothing is lost: no result is refused, and the rules are, up to
their order, those of the exposed Services, each backed by the selected port. -/
theorem reencoded_results_routed (rest : ServiceSpec → ServicePort → PortRest)
    (order : Golib.RangeOrder (String × List DeploymentResult))
    (sort : Golib.SliceSort RouteTarget RouteTarget.less) (stage name : String)
    (cs : List (PublishedComponent (wireCodec rest)))
    (stored : List (String × List DeploymentResult))
    (hstored : List.Forall₂ ReencodedComponent cs stored) :
    ∃ rules routed, buildRouteRules ⟨unmarshalServiceSpec, order, sort⟩ stage ⟨name, stored⟩ =
        .ok rules ∧ rules.Perm routed ∧
      List.Forall₂ (RoutedAs stage name) ((cs.flatMap (·.services)).filter isExposed) routed := by
  have hroutable : List.Forall₂ (Routable (wireCodec rest)) (cs.map (·.services)) stored := by
    rw [List.forall₂_map_left_iff]
    refine hstored.imp fun c entry hentry => ⟨c.published.valid, ?_⟩
    exact publishes_of_reencoded (mapServices_marshalled c.published.mapped) hentry.2
  exact buildRouteRules_routable hroutable order sort stage name

/-- The members of a port, last first. -/
def backwardPort (name protocol : String) (port : ℤ) : Json :=
  .obj [(Jsonlib.quote "targetPort", .num (Jsonlib.intLit 0)),
    (Jsonlib.quote "port", .num (Jsonlib.intLit port)),
    (Jsonlib.quote "protocol", .str (Jsonlib.quote protocol)),
    (Jsonlib.quote "name", .str (Jsonlib.quote name))]

def backwardSpec : Json :=
  .obj [(Jsonlib.quote "IngressExposedPortName", .str (Jsonlib.quote "http")),
    (Jsonlib.quote "ServicePorts",
      .arr [backwardPort "metrics" "UDP" 9090, backwardPort "http" "TCP" 80]),
    (Jsonlib.quote "K8sName", .str (Jsonlib.quote "shop")),
    (Jsonlib.quote "Namespace", .str (Jsonlib.quote "landscape"))]

theorem reordered_reverse {ms : List (String × Value)} (ms' : List (String × Value))
    (hkeys : ms.map Prod.fst = ms'.map Prod.fst)
    (h : List.Forall₂ Value.Reordered (ms.map Prod.snd) (ms'.map Prod.snd)) :
    Value.Reordered (.obj ms) (.obj ms'.reverse) :=
  .obj hkeys h (List.reverse_perm _).symm

def forwardPort (name protocol : String) (port : ℤ) : Value :=
  .obj [("name", .str name), ("protocol", .str protocol), ("port", .num (Jsonlib.intLit port)),
    ("targetPort", .num (Jsonlib.intLit 0))]

theorem backwardPort_reordered (name protocol : String) (port : ℤ) :
    Value.Reordered (forwardPort name protocol port) (backwardPort name protocol port).value := by
  simp only [backwardPort, Json.value, Json.valueMembers, Jsonlib.value_quote]
  exact reordered_reverse _ rfl (List.forall₂_same.mpr fun v _ => .refl v)

theorem backwardSpec_reordered : Value.Reordered
    (objectJson specSchema (specMembers (fun _ _ => noRest) (serviceSpec wireService))).value
    backwardSpec.value := by
  have hports : (portsJson (specPorts (fun _ _ => noRest) (serviceSpec wireService))).value =
      .arr [forwardPort "metrics" "UDP" 9090, forwardPort "http" "TCP" 80] := by
    rw [portsJson, if_neg (by simp [specPorts, serviceSpec, wireService])]
    simp [specPorts, serviceSpec, wireService, objectJson, portMembers, PortRest.record, noRest,
      unlessEmpty, Protocol.text, portSchema, PortRest.intOrString, IntOrString.json, Json.value,
      Json.valueElems, Json.valueMembers, forwardPort]
  have hspec : (objectJson specSchema
      (specMembers (fun _ _ => noRest) (serviceSpec wireService))).value =
      .obj [("Namespace", .str "landscape"), ("K8sName", .str "shop"), ("ServicePorts", .arr
        [forwardPort "metrics" "UDP" 9090, forwardPort "http" "TCP" 80]),
        ("IngressExposedPortName", .str "http")] := by
    have hingress : (serviceSpec wireService).ingressExposedPortName = "http" := by decide
    simp [objectJson, specMembers, hingress, unlessEmpty, specSchema, Json.value,
      Json.valueMembers, hports]
    exact ⟨rfl, rfl⟩
  rw [hspec]
  simp only [backwardSpec, Json.value, Json.valueMembers, Json.valueElems, Jsonlib.value_quote]
  refine reordered_reverse [("Namespace", .str "landscape"), ("K8sName", .str "shop"),
    ("ServicePorts", .arr [(backwardPort "metrics" "UDP" 9090).value,
      (backwardPort "http" "TCP" 80).value]), ("IngressExposedPortName", .str "http")] rfl ?_
  refine .cons (.refl _) (.cons (.refl _) (.cons (.arr ?_) (.cons (.refl _) .nil)))
  exact .cons (backwardPort_reordered _ _ _) (.cons (backwardPort_reordered _ _ _) .nil)

/-- The exposed port of the Service is routed, although the members come last first. -/
theorem reencoded_results_routed_shop :
    ∃ rules routed, buildRouteRules ⟨unmarshalServiceSpec, .reversed, .byKey RouteTarget.name⟩
        "prod" ⟨"v1", [("shop", [wireResult backwardSpec])]⟩ = .ok rules ∧ rules.Perm routed ∧
      List.Forall₂ (RoutedAs "prod" "v1") [wireService] routed := by
  have hresult : Reencoded (wireResult (objectJson specSchema
      (specMembers (fun _ _ => noRest) (serviceSpec wireService)))) (wireResult backwardSpec) :=
    ⟨rfl, rfl, _, _, Jsonlib.decode_encode _, Jsonlib.decode_encode _, backwardSpec_reordered⟩
  have hstored : ReencodedComponent wireComponent ("shop", [wireResult backwardSpec]) :=
    ⟨rfl, .cons hresult .nil⟩
  have hrouted := reencoded_results_routed (fun _ _ => noRest) .reversed
    (.byKey RouteTarget.name) "prod" "v1" [wireComponent] _ (.cons hstored .nil)
  rwa [wireService_exposed] at hrouted

end LandscapeOrchestrator.FluxDeployer
