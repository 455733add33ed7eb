import ThreatScope.ApiSecurity.Records
import ThreatScope.Library.UnitOfWork

/-!
# Response exposure and the analysis of an assessment

What the module reads from the runtime and from its rule files, and the review of the responses
an imported definition documents: every field of a response schema whose name contains that of a
sensitive field. A field is listed once for each status code that documents it.
-/

set_option autoImplicit false

namespace ThreatScope.ApiSecurity

open Library

/-! ## The runtime -/

/-- An entry of `owasp_api_top10_2023.json`. -/
structure OwaspCategory where
  id : String
  title : String
  manualValidationNote : String

/-- An entry of `remediation_catalog.json`. -/
structure Guidance where
  description : String
  impact : String
  remediation : String

/-- What the module takes from the runtime and from its rule files. -/
structure ApiRuntime where
  py : Interpreter
  /-- `text.lower()`. -/
  lower : String → String
  /-- `text.upper()`. -/
  upper : String → String
  /-- `json.loads(text)`, none when it raises. -/
  loads : String → Option Json
  /-- `hashlib.sha256(text.encode("utf-8")).hexdigest()`. -/
  sha256 : String → String
  /-- `owasp_categories()`. -/
  owaspCategories : List OwaspCategory
  /-- `sensitive_fields()`. -/
  sensitiveFields : List String
  /-- `remediation_catalog()`. -/
  remediationCatalog : List (String × Guidance)

namespace ApiDatabase

/-- `assessment.endpoints`, with their keys. -/
def endpointsOf (db : ApiDatabase) (assessmentId : Nat) : List (Nat × ApiEndpoint) :=
  db.endpoints.rows.filter fun row => row.2.assessmentId == assessmentId

/-- `assessment.artifacts`. -/
def artifactsOf (db : ApiDatabase) (assessmentId : Nat) : List ApiImportArtifact :=
  (db.artifacts.rows.map Prod.snd).filter fun artifact =>
    artifact.assessmentId == assessmentId

end ApiDatabase

/-! ## Fields of a schema -/

section Schemas

variable (env : ApiRuntime)

/-- `re.sub(r"[^a-z0-9]", "", name.lower())`. -/
def normalizedName (name : String) : String :=
  String.ofList ((env.lower name).toList.filter fun c =>
    ('a' ≤ c && c ≤ 'z') || ('0' ≤ c && c ≤ '9'))

def matchesSensitive (name : String) : Option String :=
  env.sensitiveFields.find? fun field =>
    Text.contains (normalizedName env name) (normalizedName env field)

/-- The path of a field below another. -/
def nestedPath (path name : String) : String :=
  if path = "" then name else path ++ "." ++ name

/-- The path of the items below a field. -/
def itemsPath (path : String) : String :=
  if path = "" then "[]" else path ++ "[]"

/-- `_schema_fields(schema, path, depth)`, with the levels that may still be read. -/
def schemaFields : Nat → Json → String → List String
  | 0, _, _ => []
  | levels + 1, .obj schema, path =>
    (match Dict.find? schema "properties" with
      | some (.obj properties) => properties.flatMap fun (name, nested) =>
        nestedPath path name :: schemaFields levels nested (nestedPath path name)
      | _ => []) ++
    (match Dict.find? schema "items" with
      | some items => schemaFields levels items (itemsPath path)
      | none => []) ++
    ["allOf", "oneOf", "anyOf"].flatMap fun key =>
      match Dict.find? schema key with
      | some (.arr parts) => parts.flatMap fun nested => schemaFields levels nested path
      | _ => []
  | _ + 1, _, _ => []

/-- `part.replace(first + second, new)`. -/
def replacePair (first second new : Char) : List Char → List Char
  | c :: d :: rest =>
    if c = first ∧ d = second then new :: replacePair first second new rest
    else c :: replacePair first second new (d :: rest)
  | text => text

/-- `part.replace("~1", "/").replace("~0", "~")`. -/
def unescapePart (part : String) : String :=
  String.ofList (replacePair '~' '0' '~' (replacePair '~' '1' '/' part.toList))

/-- The value at a pointer, none when a step leaves the objects. -/
def pointerValue : Json → List String → Option Json
  | current, [] => some current
  | .obj fields, part :: rest => pointerValue (Dict.get fields (unescapePart part)) rest
  | _, _ :: _ => none

def resolve (document value : Json) : Json :=
  match value with
  | .obj fields =>
    match Dict.find? fields "$ref" with
    | some (.str reference) =>
      if Text.startsWith reference "#/" then
        match pointerValue document
            (Text.split '/' (String.ofList (reference.toList.drop 2))) with
        | some .null => value
        | some found => found
        | none => value
      else value
    | _ => value
  | _ => value

/-! ## The review -/

/-- An item of `response_exposure_review`. -/
structure Exposure where
  endpointId : Option Nat
  method : String
  path : String
  statusCode : Option String
  fieldPath : String
  exposureType : String
  severity : String

/-- `_endpoint_id(endpoints, path, method)`. -/
def endpointIdOf (endpoints : List (Nat × ApiEndpoint)) (path method : String) : Option Nat :=
  (endpoints.find? fun (_, endpoint) =>
    endpoint.path == path && endpoint.method == env.upper method).map Prod.fst

/-- `_severity(field)`. -/
def exposureSeverity (field : String) : String :=
  if field ∈ ["password", "passwd", "secret", "token", "access_token", "refresh_token", "api_key",
      "private_key", "ssn", "national_id", "credit_card", "cvv", "bank_account",
      "health_record"] then "high"
  else "medium"

/-- `value.get(key, {}).items()`, empty when that is no dictionary. -/
def objectItems (value : Json) (key : String) : Dict :=
  match value with
  | .obj fields =>
    match Dict.find? fields key with
    | some (.obj items) => items
    | _ => []
  | _ => []

/-- `field_path.split(".")[-1]`. -/
def lastName (fieldPath : String) : String := ((Text.split '.' fieldPath).getLast?).getD ""

/-- The sensitive fields that the media of a response document. -/
def mediaFields (document : Json) (media : Json) : List (String × String) :=
  match media with
  | .obj fields =>
    (schemaFields 21 (resolve document (Dict.get fields "schema")) "").filterMap fun fieldPath =>
      (matchesSensitive env (lastName fieldPath)).map fun exposure => (fieldPath, exposure)
  | _ => []

/-- The names of operations in a path item. -/
def httpMethods : List String :=
  ["get", "post", "put", "patch", "delete", "head", "options", "trace"]

/-- The exposures of an `openapi` artifact. -/
def openapiExposures (endpoints : List (Nat × ApiEndpoint)) (document : Json) : List Exposure :=
  (objectItems document "paths").flatMap fun (path, pathItem) =>
    match pathItem with
    | .obj operations => operations.flatMap fun (method, operation) =>
      if env.lower method ∈ httpMethods then
        (objectItems operation "responses").flatMap fun (statusCode, response) =>
          (objectItems (resolve document response) "content").flatMap fun (_, media) =>
            (mediaFields env document media).map fun (fieldPath, exposure) =>
              { endpointId := endpointIdOf env endpoints path method
                method := env.upper method
                path := path
                statusCode := some statusCode
                fieldPath := fieldPath
                exposureType := exposure
                severity := exposureSeverity exposure }
      else []
    | _ => []

/-- The exposures of a `postman` artifact. -/
def postmanExposures (endpoints : List (Nat × ApiEndpoint)) : List Exposure :=
  endpoints.flatMap fun (key, endpoint) =>
    endpoint.parameters.filterMap fun parameter =>
      match matchesSensitive env parameter.name with
      | some exposure =>
        if parameter.location = "body" then
          some { endpointId := some key
                 method := endpoint.method
                 path := endpoint.path
                 statusCode := none
                 fieldPath := parameter.name
                 exposureType := exposure
                 severity := exposureSeverity exposure }
        else none
      | none => none

/-- The signature under which an exposure is listed once. -/
def Exposure.signature (item : Exposure) : String × String × Option String × String :=
  (item.method, item.path, item.statusCode, item.fieldPath)

/-- The first item of each signature. -/
def firstSignatures (seen : List (String × String × Option String × String)) :
    List Exposure → List Exposure
  | [] => []
  | item :: rest =>
    if item.signature ∈ seen then firstSignatures seen rest
    else item :: firstSignatures (item.signature :: seen) rest

def responseExposureReview (db : ApiDatabase) (assessmentId : Nat) : List Exposure :=
  let endpoints := db.endpointsOf assessmentId
  firstSignatures [] ((db.artifactsOf assessmentId).flatMap fun artifact =>
    match env.loads artifact.redactedContent with
    | none => []
    | some document =>
      match artifact.artifactType with
      | .openapi => openapiExposures env endpoints document
      | .postman => postmanExposures env endpoints)

end Schemas

/-!
## The analysis of an assessment

`analyze_assessment` derives candidate findings from the inventory, the artifacts, the documented
responses and the decoded tokens of an assessment, adds those whose fingerprint the database does
not have and counts the findings of each OWASP category. A session does not flush on its own: the
query for a fingerprint sees the findings of earlier requests, not those it has just added.
-/

/-! ## Candidates -/

def stateChanging : List String := ["POST", "PUT", "PATCH", "DELETE"]

/-- `SENSITIVE_PATH_RE`. -/
def sensitivePathTerms : List String :=
  ["admin", "user", "account", "payment", "billing", "password", "token", "secret", "internal",
    "export", "report", "profile", "role", "permission"]

/-- The parts of a name that ask for a review of server-side requests. -/
def urlTerms : List String := ["url", "uri", "callback", "webhook", "redirect"]

section Candidates

variable (env : ApiRuntime)

def remediationFor (kind : String) : Guidance :=
  match env.remediationCatalog.find? fun entry => entry.1 == kind with
  | some (_, guidance) => guidance
  | none =>
    ⟨"A passive API security risk indicator was observed in imported metadata.",
      "The issue may increase API risk and should be reviewed by the owning team.",
      "Update API documentation and implementation controls, then repeat passive analysis."⟩

/-- `str(part)` of an optional key. -/
def keyText : Option Nat → String
  | some key => toString key
  | none => "None"

def fingerprint (assessmentId : Nat) (endpointId : Option Nat) (title evidence : String) :
    String :=
  env.sha256 (toString assessmentId ++ "|" ++ keyText endpointId ++ "|" ++ title ++ "|" ++
    evidence)

def finding (assessmentId : Nat) (endpointId : Option Nat) (title kind owasp severity confidence
    evidence source : String) : ApiFinding :=
  let guidance := remediationFor env kind
  { assessmentId := assessmentId
    endpointId := endpointId
    title := title
    owaspCategory := some owasp
    severity := severity
    confidence := confidence
    description := guidance.description
    evidence := evidence
    impact := guidance.impact
    remediation := guidance.remediation
    source := source
    fingerprint := fingerprint env assessmentId endpointId title evidence }

/-- Whether a text column is empty or null. -/
def blank (text : Option String) : Bool := text.getD "" == ""

/-- The candidates of an endpoint. -/
def endpointCandidates (assessmentId : Nat) (sourceType : SourceType) (key : Nat)
    (endpoint : ApiEndpoint) : List ApiFinding :=
  let lowerPath := env.lower endpoint.path
  let source := match sourceType with
    | .imported artifactType => artifactType.text
    | .manual => "inventory"
  let operation := endpoint.method ++ " " ++ endpoint.path
  (if !endpoint.authRequired && stateChanging.contains endpoint.method then
      [finding env assessmentId (some key) "Unauthenticated State-Changing API Endpoint"
        "unauthenticated_state_change" "API2:2023 Broken Authentication" "high" "medium"
        (operation ++ " is documented without authentication.") source]
    else []) ++
  (if !endpoint.authRequired && sensitivePathTerms.any (Text.contains lowerPath) then
      [finding env assessmentId (some key)
        "Sensitive Endpoint Without Documented Authentication" "sensitive_unauthenticated"
        "API2:2023 Broken Authentication" "high" "medium"
        (operation ++ " contains sensitive path terms and no documented auth requirement.")
        source]
    else []) ++
  (if endpoint.deprecated then
      [finding env assessmentId (some key) "Deprecated API Endpoint Still Present"
        "deprecated_endpoint" "API9:2023 Improper Inventory Management" "medium" "high"
        (operation ++ " is marked deprecated in imported metadata.") source]
    else []) ++
  (if blank endpoint.operationId && blank endpoint.summary then
      [finding env assessmentId (some key) "Missing Operation Identifier and Summary"
        "missing_operation_id" "API9:2023 Improper Inventory Management" "info" "high"
        (operation ++ " lacks operationId and summary.") "inventory"]
    else []) ++
  if endpoint.parameters.any fun parameter =>
      urlTerms.any (Text.contains (env.lower parameter.name)) then
    [finding env assessmentId (some key) "External URL Parameter Requires SSRF Review"
      "sensitive_unauthenticated" "API7:2023 Server Side Request Forgery" "medium" "low"
      (operation ++ " documents URL-like parameters. This is a potential risk indicator; " ++
        "manual validation required.") "inventory"]
  else []

/-- The candidates about the authentication of all endpoints. -/
def inventoryCandidates (assessmentId : Nat) (endpoints : List (Nat × ApiEndpoint)) :
    List ApiFinding :=
  let hasAuth := endpoints.any fun row => row.2.authRequired
  let hasUnauth := endpoints.any fun row => !row.2.authRequired
  if !endpoints.isEmpty && !hasAuth then
    [finding env assessmentId none "Missing or Incomplete API Security Scheme"
      "missing_security_scheme" "API8:2023 Security Misconfiguration" "medium" "high"
      "No imported endpoint declares authentication." "inventory"]
  else if hasAuth && hasUnauth then
    [finding env assessmentId none "Inconsistent Authentication Requirements"
      "inconsistent_auth" "API8:2023 Security Misconfiguration" "low" "medium"
      "Imported inventory contains both authenticated and unauthenticated endpoints."
      "inventory"]
  else []

/-- `summary.get("server_urls", [])`, as texts. -/
def serverUrls (summary : Dict) : List String :=
  match Dict.find? summary "server_urls" with
  | some (.arr urls) => urls.map env.py.str
  | _ => []

/-- The candidates of an artifact. -/
def artifactCandidates (assessmentId : Nat) (artifact : ApiImportArtifact) : List ApiFinding :=
  let cleartext := (serverUrls env artifact.parsedSummary).filter fun url =>
    Text.startsWith (env.lower url) "http://"
  let redacted := env.lower artifact.redactedContent
  (if cleartext.isEmpty then []
    else [finding env assessmentId none "Insecure HTTP Server URL Documented"
      "insecure_http_server" "API8:2023 Security Misconfiguration" "medium" "high"
      ("Server URLs include cleartext HTTP: " ++ ", ".intercalate cleartext ++ ".")
      artifact.artifactType.text]) ++
  if Text.contains redacted "ratelimit" || Text.contains redacted "rate-limit" then []
  else [finding env assessmentId none "Missing Rate-Limit Documentation"
    "missing_rate_limit" "API4:2023 Unrestricted Resource Consumption" "low" "medium"
    (artifact.filename ++ " does not document rate-limit headers or constraints.")
    artifact.artifactType.text]

/-- The candidate of an exposure. -/
def exposureCandidate (assessmentId : Nat) (exposure : Exposure) : ApiFinding :=
  finding env assessmentId exposure.endpointId "Sensitive Response Field Documented"
    "sensitive_response_field" "API3:2023 Broken Object Property Level Authorization"
    exposure.severity "medium"
    (exposure.method ++ " " ++ exposure.path ++ " documents field " ++ exposure.fieldPath ++
      ". Runtime exposure is not confirmed.") "response_schema"

/-- The candidates of a decoded token. -/
def jwtCandidates (assessmentId : Nat) (analysis : JwtAnalysis) : List ApiFinding :=
  analysis.findings.map fun item =>
    finding env assessmentId none item.title "jwt_risk" "API2:2023 Broken Authentication"
      item.severity "medium"
      ("JWT fingerprint " ++ Text.truncate 12 analysis.tokenFingerprint ++ ": " ++ item.detail)
      "jwt"

/-- `assessment.jwt_analyses`. -/
def ApiDatabase.jwtAnalysesOf (db : ApiDatabase) (assessmentId : Nat) : List JwtAnalysis :=
  (db.jwtAnalyses.rows.map Prod.snd).filter fun analysis =>
    analysis.assessmentId == some assessmentId

def candidateFindings (db : ApiDatabase) (assessmentId : Nat) (assessment : ApiAssessment) :
    List ApiFinding :=
  let endpoints := db.endpointsOf assessmentId
  endpoints.flatMap (fun row =>
      endpointCandidates env assessmentId assessment.sourceType row.1 row.2) ++
    inventoryCandidates env assessmentId endpoints ++
    (db.artifactsOf assessmentId).flatMap (artifactCandidates env assessmentId) ++
    (responseExposureReview env db assessmentId).map
      (exposureCandidate env assessmentId) ++
    (db.jwtAnalysesOf assessmentId).flatMap (jwtCandidates env assessmentId)

end Candidates

/-! ## The findings -/

namespace ApiDatabase

/-- The findings of an assessment. -/
def findingsOf (db : ApiDatabase) (assessmentId : Nat) : List ApiFinding :=
  (db.findings.rows.map Prod.snd).filter fun row => row.assessmentId == assessmentId

/-- Whether an assessment has a finding with a fingerprint. -/
def hasFinding (db : ApiDatabase) (assessmentId : Nat) (print : String) : Bool :=
  (db.findingsOf assessmentId).any fun row => row.fingerprint == print

/-- Add a finding. -/
def addFinding (row : ApiFinding) (db : ApiDatabase) : ApiDatabase :=
  { db with findings := db.findings.insert row }

end ApiDatabase

/-- One candidate of `upsert_findings`: the query asks the database. -/
def offerFinding (assessmentId : Nat) (state : Nat × UnitOfWork ApiDatabase)
    (item : ApiFinding) : Nat × UnitOfWork ApiDatabase :=
  if state.2.stored.hasFinding assessmentId item.fingerprint then state
  else (state.1 + 1, state.2.write (ApiDatabase.addFinding item))

def upsertFindings (env : ApiRuntime) (work : UnitOfWork ApiDatabase) (assessmentId : Nat)
    (assessment : ApiAssessment) : Nat × UnitOfWork ApiDatabase :=
  let offered := (candidateFindings env work.live assessmentId assessment).foldl
    (offerFinding assessmentId) (0, work)
  (offered.1, offered.2.flush)

/-! ## The coverage -/

/-- `finding.owasp_category.split(" ")[0]`. -/
def categoryId (owaspCategory : String) : String :=
  String.ofList (owaspCategory.toList.takeWhile (· != ' '))

/-- Whether a finding is counted for a category. -/
def ApiFinding.isOf (row : ApiFinding) (category : String) : Bool :=
  match row.owaspCategory with
  | some owasp => owasp != "" && categoryId owasp == category
  | none => false

/-- The row that `build_coverage` makes for a category. -/
def coverageRow (assessmentId : Nat) (findings : List ApiFinding) (category : OwaspCategory) :
    ApiOwaspCoverage :=
  let related := findings.countP (ApiFinding.isOf · category.id)
  { assessmentId := assessmentId
    categoryId := category.id
    categoryTitle := category.title
    status :=
      if related ≠ 0 then
        if category.id ∈ ["API1:2023", "API3:2023", "API5:2023", "API6:2023", "API7:2023"] then
          "partial"
        else "covered"
      else if category.id = "API6:2023" then "not_applicable"
      else "not_observed"
    findingCount := related
    evidenceSummary :=
      if related ≠ 0 then
        toString related ++ " static finding indicator(s). " ++ category.manualValidationNote
      else if category.id = "API6:2023" then
        "Business-flow testing is out of scope for this phase."
      else "No static indicator observed. Manual validation note: " ++
        category.manualValidationNote }

def refreshCoverage (env : ApiRuntime) (db : ApiDatabase) (assessmentId : Nat)
    (findings : List ApiFinding) : ApiDatabase :=
  { db with
    coverage := env.owaspCategories.foldl (fun table category =>
        table.insert (coverageRow assessmentId findings category))
      (db.coverage.deleteWhere fun _ row => row.assessmentId == assessmentId) }

/-! ## The requests -/

/-- What `analyze_assessment` answers. -/
structure AnalysisReply where
  findingsCreated : Nat
  findingsTotal : Nat
  highOrCriticalFindings : Nat
  coverageCategories : Nat

section Requests

variable (env : ApiRuntime)

/-- The error of a request for an assessment that is not there. -/
def assessmentNotFound : ApiFailure := ⟨404, "API assessment not found."⟩

def analyzeAssessment (db : ApiDatabase) (assessmentId : Nat) :
    Except ApiFailure (AnalysisReply × ApiDatabase) :=
  match db.assessments.get? assessmentId with
  | none => .error assessmentNotFound
  | some assessment =>
    let (created, work) :=
      upsertFindings env (UnitOfWork.start db) assessmentId assessment
    let findings := work.live.findingsOf assessmentId
    let covered := refreshCoverage env work.live assessmentId findings
    let severe := findings.countP fun row => row.severity == "high" || row.severity == "critical"
    let analyzed := covered.notify "API assessment analyzed"
      ("Generated " ++ toString created ++ " new API finding(s) for '" ++ assessment.name ++
        "'.") "success" assessmentId
    let notified := if severe = 0 then analyzed
      else analyzed.notify "High-risk API finding created"
        (toString severe ++ " high or critical API finding(s) are present.") "warning"
        assessmentId
    .ok (⟨created, findings.length, severe, env.owaspCategories.length⟩, notified)

/-- `create_report(db, assessment_id)`. The report itself is not kept. -/
def createReport (db : ApiDatabase) (assessmentId : Nat) : Except ApiFailure ApiDatabase :=
  match db.assessments.get? assessmentId with
  | none => .error assessmentNotFound
  | some assessment =>
    let analyzed :=
      if (db.findingsOf assessmentId).isEmpty then
        let (_, work) :=
          upsertFindings env (UnitOfWork.start db) assessmentId assessment
        refreshCoverage env work.live assessmentId (work.live.findingsOf assessmentId)
      else db
    .ok (analyzed.notify "API report generated"
      ("Generated API Security report for '" ++ assessment.name ++
        "', including authorization and business-flow review sections.") "success"
      assessmentId)

end Requests

end ThreatScope.ApiSecurity
