import LandscapeOrchestrator.Jsonlib.Decoder
import LandscapeOrchestrator.VectorDataService.Configuration

/-!
# The evaluation endpoints

The two handlers of the service: both read the vector id from the request body and
resolve its configuration; one then answers with a single flag, the other with all
of them. They are written over any program that resolves configurations.

## Main definitions

- `getEvaluationContext`, `vectorIdOf` — what the body says
- `getAllFeatures`, `parseFlagValue` — what the configuration says
- `evaluateSingle`, `evaluateBulk` — the answer, once the configuration is there
- `handleEvaluateSingle`, `handleEvaluateBulk` — the handlers
-/

namespace LandscapeOrchestrator.VectorDataService
open Apilib Golib
open Jsonlib (Json NumLit Value)

def targetingKeyField : String := "targetingKey"
def featuresField : String := "features"
def targetingMatchReason : String := "TARGETING_MATCH"
def flagNotFoundErrorCode : String := "FLAG_NOT_FOUND"
def parseErrorErrorCode : String := "PARSE_ERROR"
def targetingKeyMissingErrorCode : String := "TARGETING_KEY_MISSING"

/-- The values of flags. A number that is neither an integer of 64 bits nor a float
is kept as text. -/
inductive FlagValue where
  | int (n : Int)
  | float (n : NumLit)
  | text (s : String)
  | json (v : Value)
  | bool (b : Bool)

/-- The variant and the metadata of the protocol are never set. -/
structure FlagResponse where
  key : String
  value : FlagValue
  reason : String

structure ErrorResponse where
  key : String
  errorCode : String
  errorDetails : String
  deriving DecidableEq

abbrev BulkResponse := List (FlagResponse ⊕ ErrorResponse)

inductive Body where
  | flag (response : FlagResponse)
  | error (response : ErrorResponse)
  | details (errorDetails : String)
  | bulk (flags : BulkResponse)
  | empty

structure Response where
  status : ℕ
  etag : Option String
  body : Body

/-- What the decoder reports about a body that it rejects. -/
inductive DecodeError where
  | malformed (offset : ℕ)
  | other (message : String)

/-- What the libraries decide: whether a number is in the range of a float, which
strings agree under case folding, what is wrong with a body, and the quoted hash of
a response. -/
structure Platform where
  float : NumLit → Bool
  equalFold : String → String → Bool
  decodeError : String → DecodeError
  etag : BulkResponse → String

def errorResponse (statusCode : ℕ) (flagKey errorCode msg : String) : Response :=
  ⟨statusCode, none, .error ⟨flagKey, errorCode, msg⟩⟩

def notFoundResponse (flagKey msg : String) : Response :=
  errorResponse 404 flagKey flagNotFoundErrorCode msg

/-- The key stays empty. -/
def bulkErrorResponse (statusCode : ℕ) (errorCode msg : String) : Response :=
  errorResponse statusCode "" errorCode msg

def internalServerErrorResponse (msg : String) : Response := ⟨500, none, .details msg⟩

def okResponse (flag : FlagResponse) : Response := ⟨200, none, .flag flag⟩

def okResponseWithEtag (flags : BulkResponse) (etag : String) : Response :=
  ⟨200, some etag, .bulk flags⟩

def notModifiedResponse : Response := ⟨304, none, .empty⟩

section Body

variable (P : Platform)

def DecodeError.text : DecodeError → String
  | malformed offset => "syntax error in JSON at char " ++ toString offset
  | other message => "invalid JSON in request body: " ++ message

/-- One member of the body. Only `context` is read; its numbers become floats. -/
def readMember (context : Option (List (String × Value))) (m : String × Value) :
    Option (List (String × Value)) :=
  match Jsonlib.fieldFor ["context"] m.1 with
  | none => context
  | some _ => if m.2.fits P.float then context.bind fun c => Jsonlib.unmarshalMap c m.2 else none

/-- The context of the request, empty when the body has none. -/
def getEvaluationContext (body : String) : Except String (List (String × Value)) :=
  match Jsonlib.decodeNext body with
  | some .null => .ok []
  | some (.obj ms) => match ms.foldl (readMember P) (some []) with
    | some context => .ok context
    | none => .error (P.decodeError body).text
  | _ => .error (P.decodeError body).text

/-- The vector id is the targeting key, if that is a string. -/
def vectorIdOf (context : List (String × Value)) : Option String :=
  match context.lookup targetingKeyField with
  | some (.str vectorId) => some vectorId
  | _ => none

/-- The vector that a body asks for. -/
def targetingKey (body : String) : Option String :=
  match getEvaluationContext P body with
  | .ok context => vectorIdOf context
  | .error _ => none

end Body

section Evaluation

variable (P : Platform)

/-- The features of a configuration; a configuration without them has none. Numbers
stay as they are written. -/
def getAllFeatures (config : String) : Except String (List (String × Value)) :=
  match (Jsonlib.decodeNext config).bind (Jsonlib.unmarshalMap []) with
  | none => .error "could not parse config json"
  | some result => match result.lookup featuresField with
    | none => .ok []
    | some v => match v with
      | .obj ms => .ok (ms.foldl (fun m e => mapSet m e.1 e.2) [])
      | _ => .error "could not parse features json"

/-- A string that holds JSON is parsed. -/
def parseString (s : String) : Option FlagValue :=
  match Jsonlib.decode s with
  | some v =>
    if v.fits P.float then
      match v with
      | .null => none
      | v => some (.json v)
    else some (.text s)
  | none => some (.text s)

/-- `none` when there is no value, or one of another type. -/
def parseFlagValue : Option Value → Option FlagValue
  | some (.num n) => match Jsonlib.parseInt64 n.text with
    | some i => some (.int i)
    | none => if P.float n then some (.float n) else some (.text (String.ofList n.text))
  | some (.str s) => parseString P s
  | some (.bool b) => some (.bool b)
  | _ => none

/-- The flag key that is the vector id asks for the whole configuration. -/
def getFlagValueOrConfiguration (vectorId flagKey config : String) :
    Except String (Option FlagValue) :=
  if P.equalFold flagKey vectorId then .ok (parseString P config)
  else match getAllFeatures config with
    | .error e => .error e
    | .ok features => .ok (parseFlagValue P (features.lookup flagKey))

/-- One entry of the bulk response. -/
def flagEntry (features : List (String × Value)) (key : String) : FlagResponse ⊕ ErrorResponse :=
  match parseFlagValue P (features.lookup key) with
  | none => .inr ⟨key, flagNotFoundErrorCode, ""⟩
  | some value => .inl ⟨key, value, targetingMatchReason⟩

def bulkFlags (features : List (String × Value)) : BulkResponse :=
  ((SliceSort.byKey id).sort (features.map Prod.fst)).map (flagEntry P features)

/-- The handler of one flag from the point where the configuration is resolved. -/
def evaluateSingle (vectorId flagKey : String) : Except String String → Response
  | .error e => internalServerErrorResponse
      ("invalid configuration for vectorId '" ++ vectorId ++ "' and flag '" ++ flagKey ++ "': " ++ e)
  | .ok config =>
    if config = "" then notFoundResponse flagKey ""
    else match getFlagValueOrConfiguration P vectorId flagKey config with
      | .error e => internalServerErrorResponse
          ("could not parse flag value/vector configuration for vectorId: " ++ vectorId ++
            " and flag " ++ flagKey ++ ": " ++ e)
      | .ok none => notFoundResponse flagKey ""
      | .ok (some value) => okResponse ⟨flagKey, value, targetingMatchReason⟩

/-- The response of the bulk handler, unless the client has it already. -/
def respondBulk (ifNoneMatch : String) (flags : BulkResponse) : Response :=
  if ifNoneMatch = P.etag flags then notModifiedResponse
  else okResponseWithEtag flags (P.etag flags)

/-- The handler of all flags from the point where the configuration is resolved. -/
def evaluateBulk (vectorId ifNoneMatch : String) : Except String String → Response
  | .error e => internalServerErrorResponse
      ("invalid configuration for vectorId '" ++ vectorId ++ "': " ++ e)
  | .ok config =>
    if config = "" then respondBulk P ifNoneMatch []
    else match getAllFeatures config with
      | .error e => internalServerErrorResponse
          ("invalid feature configuration for vectorId '" ++ vectorId ++ "': " ++ e)
      | .ok features => respondBulk P ifNoneMatch (bulkFlags P features)

end Evaluation

section Handlers

variable {Op : Type} {Res : Op → Type} (P : Platform)
  (getConfiguration : String → Prog Op Res (Except String String))

/-- Both handlers begin alike. `badRequest` answers with an error code and a message. -/
def withVectorId (body : String) (badRequest : String → String → Response)
    (answer : String → Prog Op Res Response) : Prog Op Res Response :=
  match getEvaluationContext P body with
  | .error e => return badRequest parseErrorErrorCode e
  | .ok context => match vectorIdOf context with
    | none => return badRequest targetingKeyMissingErrorCode "missing or invalid targeting key"
    | some vectorId => answer vectorId

def handleEvaluateSingle (flagKey body : String) : Prog Op Res Response :=
  withVectorId P body (errorResponse 400 flagKey) fun vectorId => do
    let config ← getConfiguration vectorId
    return evaluateSingle P vectorId flagKey config

/-- `ifNoneMatch` is the value of that header, empty when it is not sent. -/
def handleEvaluateBulk (ifNoneMatch body : String) : Prog Op Res Response :=
  withVectorId P body (bulkErrorResponse 400) fun vectorId => do
    let config ← getConfiguration vectorId
    return evaluateBulk P vectorId ifNoneMatch config

/-- A request to one of the two endpoints. -/
inductive Request where
  | single (flagKey body : String)
  | bulk (ifNoneMatch body : String)

def handle : Request → Prog Op Res Response
  | .single flagKey body => handleEvaluateSingle P getConfiguration flagKey body
  | .bulk ifNoneMatch body => handleEvaluateBulk P getConfiguration ifNoneMatch body

end Handlers

namespace Request

def body : Request → String
  | single _ body => body
  | bulk _ body => body

/-- The answer for a vector whose configuration is resolved. -/
def evaluate (P : Platform) (vectorId : String) : Request → Except String String → Response
  | single flagKey _ => evaluateSingle P vectorId flagKey
  | bulk ifNoneMatch _ => evaluateBulk P vectorId ifNoneMatch

end Request

section Rules

variable {Op : Type} {Res : Op → Type} {P : Platform} {body : String}
  {badRequest : String → String → Response} {answer : String → Prog Op Res Response}

theorem withVectorId_of_some {vectorId : String} (h : targetingKey P body = some vectorId) :
    withVectorId P body badRequest answer = answer vectorId := by
  unfold targetingKey at h
  unfold withVectorId
  cases hcontext : getEvaluationContext P body with
  | error e => simp [hcontext] at h
  | ok context =>
    simp only [hcontext] at h
    simp only [h]

theorem withVectorId_of_none (h : targetingKey P body = none) :
    ∃ errorCode msg, withVectorId P body badRequest answer = .ret (badRequest errorCode msg) := by
  unfold targetingKey at h
  unfold withVectorId
  cases hcontext : getEvaluationContext P body with
  | error e => exact ⟨_, _, rfl⟩
  | ok context =>
    simp only [hcontext] at h
    simp only [h]
    exact ⟨_, _, rfl⟩

variable {getConfiguration : String → Prog Op Res (Except String String)} {request : Request}

/-- A request with a targeting key is answered from the configuration of that vector. -/
theorem handle_of_some {vectorId : String} (h : targetingKey P request.body = some vectorId) :
    handle P getConfiguration request =
      getConfiguration vectorId >>= fun config => .ret (request.evaluate P vectorId config) := by
  cases request with
  | single flagKey body => exact withVectorId_of_some h
  | bulk ifNoneMatch body => exact withVectorId_of_some h

/-- A request without one is answered at once. -/
theorem handle_of_none (h : targetingKey P request.body = none) :
    ∃ response, handle P getConfiguration request = .ret response ∧ response.status = 400 := by
  cases request with
  | single flagKey body =>
    obtain ⟨errorCode, msg, hret⟩ := withVectorId_of_none h
    exact ⟨_, hret, rfl⟩
  | bulk ifNoneMatch body =>
    obtain ⟨errorCode, msg, hret⟩ := withVectorId_of_none h
    exact ⟨_, hret, rfl⟩

end Rules

/-- A body that asks for a vector. -/
def requestBody (vectorId : String) : String :=
  Jsonlib.encode (.obj [(Jsonlib.quote "context",
    .obj [(Jsonlib.quote "targetingKey", .str (Jsonlib.quote vectorId))])])

theorem targetingKey_requestBody (P : Platform) (vectorId : String) :
    targetingKey P (requestBody vectorId) = some vectorId := by
  have hdecode : Jsonlib.decodeNext (requestBody vectorId) =
      some (.obj [("context", .obj [("targetingKey", .str vectorId)])]) := by
    refine Jsonlib.decodeNext_of_decode ?_
    simp [requestBody, Json.value, Json.valueMembers]
  have hfield : Jsonlib.fieldFor ["context"] "context" = some "context" := rfl
  simp [targetingKey, getEvaluationContext, hdecode, readMember, hfield, Value.fits,
    Jsonlib.fitsMembers, Jsonlib.unmarshalMap, mapSet, vectorIdOf, targetingKeyField]

/-- A platform without numbers out of range, with case folding of ASCII letters. -/
def plainPlatform : Platform where
  float _ := true
  equalFold := Jsonlib.foldEq
  decodeError _ := .other "unexpected EOF"
  etag _ := "\"da39\""

end LandscapeOrchestrator.VectorDataService
