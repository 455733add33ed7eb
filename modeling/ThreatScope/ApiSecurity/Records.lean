import ThreatScope.Library.Json
import ThreatScope.Library.RowInvariants

/-!
# API security records

The tables of the API security module: assessments with their imported inventory, the findings
of the analysis, the authorization matrix with its reviews, and the business flows with their
steps and risks. A suppression of the analytics module may name an endpoint.
-/

set_option autoImplicit false

namespace ThreatScope.ApiSecurity

open Library

/-! ## The inventory -/

/-- `ApiImportArtifact.artifact_type`. -/
inductive ArtifactType where
  | openapi
  | postman
deriving DecidableEq

/-- The artifact type as text. -/
def ArtifactType.text : ArtifactType → String
  | .openapi => "openapi"
  | .postman => "postman"

/-- `artifact_type.title()`. -/
def ArtifactType.title : ArtifactType → String
  | .openapi => "Openapi"
  | .postman => "Postman"

/-- `preliminary_risk_level`. -/
inductive RiskLevel where
  | info
  | low
  | medium
  | high
deriving DecidableEq

/-- An item of `parameters_json`. -/
structure ApiParameter where
  name : String
  location : String
  required : Bool
  schemaType : String

/-- An operation as a parser returns it. -/
structure Operation where
  path : String
  method : String
  operationId : Option String
  summary : Option String
  description : Option String
  authRequired : Bool
  authSchemes : List String
  requestContentTypes : List String
  responseContentTypes : List String
  parameters : List ApiParameter
  tags : List String
  folderPath : Option String
  deprecated : Bool
  preliminaryRiskLevel : RiskLevel
  preliminaryRiskReasons : List String

/-- A row of `api_endpoints`. -/
structure ApiEndpoint extends Operation where
  assessmentId : Nat

/-- What `parse_openapi` and `parse_postman` return. -/
structure ApiDefinition where
  version : Option String
  baseUrl : Option String
  endpoints : List Operation
  redactedContent : String
  summary : Dict

/-- A row of `api_import_artifacts`. -/
structure ApiImportArtifact where
  assessmentId : Nat
  artifactType : ArtifactType
  filename : String
  redactedContent : String
  parsedSummary : Dict

/-- `ApiAssessment.status`. -/
inductive AssessmentStatus where
  | draft
  | processing
  | completed
  | failed
deriving DecidableEq

/-- `ApiAssessment.source_type`. -/
inductive SourceType where
  | manual
  | imported (artifactType : ArtifactType)

/-- A row of `api_assessments`. -/
structure ApiAssessment where
  name : String
  sourceType : SourceType
  sourceFilename : Option String
  status : AssessmentStatus
  baseUrl : Option String
  apiVersion : Option String
  endpointCount : Nat
  unauthenticatedEndpointCount : Nat
  highRiskEndpointCount : Nat
  riskScore : Nat
  errorMessage : Option String

/-! ## Analysis -/

/-- An item of `JwtAnalysis.findings_json`. -/
structure JwtFinding where
  code : String
  title : String
  severity : String
  detail : String

/-- A row of `jwt_analyses`. -/
structure JwtAnalysis where
  assessmentId : Option Nat
  tokenFingerprint : String
  findings : List JwtFinding

/-- A row of `api_findings`. -/
structure ApiFinding where
  assessmentId : Nat
  endpointId : Option Nat
  title : String
  owaspCategory : Option String
  severity : String
  confidence : String
  description : String
  evidence : String
  impact : String
  remediation : String
  source : String
  fingerprint : String

/-- A row of `api_owasp_coverage`. -/
structure ApiOwaspCoverage where
  assessmentId : Nat
  categoryId : String
  categoryTitle : String
  status : String
  findingCount : Nat
  evidenceSummary : String

/-! ## Authorization reviews -/

/-- `ApiRole.privilege_level`. -/
inductive PrivilegeLevel where
  | public_
  | user
  | privileged
  | admin
  | service
deriving DecidableEq

/-- A row of `api_roles`. -/
structure ApiRole where
  assessmentId : Nat
  name : String
  privilegeLevel : PrivilegeLevel

/-- A row of `authorization_matrix_entries`. -/
structure AuthorizationMatrixEntry where
  assessmentId : Nat
  endpointId : Nat
  roleId : Nat
  expectedAccess : String
  objectScope : String
  expectedConditions : Option Json
  analystNotes : Option String
  reviewStatus : String

/-- `AuthorizationReview.review_type`. -/
inductive ReviewType where
  | objectLevel
  | functionLevel
  | propertyLevel
deriving DecidableEq

/-- `AuthorizationReview.analyst_decision`. -/
inductive AnalystDecision where
  | open_
  | accepted
  | rejected
  | needsTesting
deriving DecidableEq

/-- A row of `authorization_reviews`. -/
structure AuthorizationReview where
  assessmentId : Nat
  endpointId : Nat
  matrixEntryId : Option Nat
  reviewType : ReviewType
  expectedBehavior : String
  observedMetadata : String
  riskIndicator : String
  severity : String
  confidence : String
  manualValidationRequired : Bool
  analystDecision : AnalystDecision
  notes : Option String
  validationChecklist : List String
deriving DecidableEq

/-! ## Business flows -/

/-- A row of `api_business_flows`. -/
structure ApiBusinessFlow where
  assessmentId : Nat
  name : String
  riskScore : Nat

/-- A row of `api_business_flow_steps`. -/
structure ApiBusinessFlowStep where
  flowId : Nat
  stepOrder : Int
  endpointId : Option Nat
  actionName : String
  expectedActorRole : Option String
  prerequisiteDescription : Option String
  expectedStateBefore : Option String
  expectedStateAfter : Option String
  sensitiveOperation : Bool

/-- `ApiBusinessFlowRisk.status`. -/
inductive RiskStatus where
  | open_
  | accepted
  | resolved
deriving DecidableEq

/-- A row of `api_business_flow_risks`. -/
structure ApiBusinessFlowRisk where
  flowId : Nat
  stepId : Option Nat
  riskType : String
  title : String
  severity : String
  confidence : String
  description : String
  evidenceSummary : String
  remediation : String
  manualValidationRequired : Bool
  status : RiskStatus
  owaspCategory : Option String
  fingerprint : String

/-! ## The database -/

/-- A row of `notifications`. -/
structure Notification where
  title : String
  message : String
  kind : String
  assessmentId : Nat

/-- The tables of the module. A suppression is kept as the endpoint it names. -/
structure ApiDatabase where
  assessments : Table ApiAssessment
  endpoints : Table ApiEndpoint
  artifacts : Table ApiImportArtifact
  jwtAnalyses : Table JwtAnalysis
  findings : Table ApiFinding
  coverage : Table ApiOwaspCoverage
  roles : Table ApiRole
  matrix : Table AuthorizationMatrixEntry
  reviews : Table AuthorizationReview
  flows : Table ApiBusinessFlow
  steps : Table ApiBusinessFlowStep
  risks : Table ApiBusinessFlowRisk
  suppressions : Table (Option Nat)
  notifications : List Notification

/-- An `HTTPException`. -/
structure ApiFailure where
  status : Nat
  detail : String

/-- What a call leaves. -/
structure ApiReply where
  db : ApiDatabase
  failure : Option ApiFailure

def ApiDatabase.notify (db : ApiDatabase) (title message kind : String)
    (assessmentId : Nat) : ApiDatabase :=
  { db with
    notifications := db.notifications ++ [⟨title, message, kind, assessmentId⟩] }

/-!
## Importing a definition

`import_definition` clears the tables that refer to the endpoints of an assessment, replaces its
endpoints and its artifact and commits. It forgets the findings: SQLite refuses to delete an
endpoint that a finding refers to, and the handler of the exception commits what was cleared
before. An import replaces the inventory atomically exactly when that does not happen
(`importDefinition_atomic_iff`).
-/

/-! ## The import -/

/-- What a parser makes of an upload. -/
inductive Parsed where
  | definition (value : ApiDefinition)
  /-- `OpenApiParseError`, `PostmanParseError` or another `ValueError`. -/
  | refused (message : String)
  /-- Any other exception. -/
  | crashed

/-- How the statements of a session end. -/
inductive Statements where
  | done (db : ApiDatabase)
  /-- A statement failed; the transaction goes on without it. -/
  | failed (db : ApiDatabase)
  /-- A flush failed; the transaction is rolled back. -/
  | broken

/-- `RISK_WEIGHTS`. -/
def riskWeight : RiskLevel → Nat
  | .info => 1
  | .low => 3
  | .medium => 6
  | .high => 9

/-- `round(total / count)`: to the nearest integer, to the even one from the middle. -/
def roundQuotient (total count : Nat) : Nat :=
  let twice := 2 * (total % count)
  if twice < count then total / count
  else if count < twice then total / count + 1
  else total / count + total / count % 2

def riskScoreForLevels (levels : List RiskLevel) : Nat :=
  if levels = [] then 0 else roundQuotient (levels.map riskWeight).sum levels.length

namespace ApiDatabase

/-- The endpoints of an assessment. -/
def isEndpointOf (db : ApiDatabase) (assessmentId endpointId : Nat) : Bool :=
  (db.endpoints.get? endpointId).any fun endpoint => endpoint.assessmentId == assessmentId

/-- Whether an optional reference names an endpoint of an assessment. -/
def refersTo (db : ApiDatabase) (assessmentId : Nat) (reference : Option Nat) : Bool :=
  reference.any (db.isEndpointOf assessmentId)

/-- The deletion of the matrix entries of an assessment's endpoints; the reviews of a deleted
entry lose it. -/
def deleteMatrix (db : ApiDatabase) (assessmentId : Nat) : ApiDatabase :=
  let doomed := fun entry : AuthorizationMatrixEntry =>
    db.isEndpointOf assessmentId entry.endpointId
  { db with
    matrix := db.matrix.deleteWhere fun _ entry => doomed entry
    reviews := db.reviews.update fun _ review =>
      { review with
        matrixEntryId := review.matrixEntryId.filter fun key =>
          !(db.matrix.get? key).any doomed } }

/-- The statements that clear what refers to the endpoints of an assessment. -/
def clearReferences (db : ApiDatabase) (assessmentId : Nat) : ApiDatabase :=
  let reviewed := { db with
    reviews := db.reviews.deleteWhere fun _ review =>
      db.isEndpointOf assessmentId review.endpointId }
  let unmatched := reviewed.deleteMatrix assessmentId
  { unmatched with
    steps := unmatched.steps.update fun _ step =>
      { step with
        endpointId := step.endpointId.filter fun key =>
          !unmatched.isEndpointOf assessmentId key } }

/-- Whether a row that does not let it go refers to an endpoint of an assessment. -/
def isHeld (db : ApiDatabase) (assessmentId : Nat) : Bool :=
  (db.findings.rows.any fun row => db.refersTo assessmentId row.2.endpointId) ||
    (db.suppressions.rows.any fun row => db.refersTo assessmentId row.2) ||
    (db.reviews.rows.any fun row => db.isEndpointOf assessmentId row.2.endpointId) ||
    db.matrix.rows.any fun row => db.isEndpointOf assessmentId row.2.endpointId

/-- `DELETE` of the endpoints of an assessment, none when the database refuses it. The steps of
the flows let an endpoint go. -/
def deleteEndpoints (db : ApiDatabase) (assessmentId : Nat) : Option ApiDatabase :=
  if db.isHeld assessmentId then none
  else some { db with
    endpoints := db.endpoints.deleteWhere fun _ endpoint =>
      endpoint.assessmentId == assessmentId
    steps := db.steps.update fun _ step =>
      { step with
        endpointId := step.endpointId.filter fun key =>
          !db.isEndpointOf assessmentId key } }

/-- Add the endpoints of a definition. -/
def addEndpoints (db : ApiDatabase) (assessmentId : Nat) (endpoints : List Operation) :
    ApiDatabase :=
  { db with
    endpoints := endpoints.foldl (fun table operation =>
      table.insert ⟨operation, assessmentId⟩) db.endpoints }

/-- The columns of an assessment after an import. -/
def describe (assessment : ApiAssessment) (artifactType : ArtifactType) (filename : String)
    (definition : ApiDefinition) : ApiAssessment :=
  { assessment with
    sourceType := .imported artifactType
    sourceFilename := some filename
    status := .completed
    baseUrl := definition.baseUrl
    apiVersion := definition.version
    endpointCount := definition.endpoints.length
    unauthenticatedEndpointCount :=
      definition.endpoints.countP fun operation => !operation.authRequired
    highRiskEndpointCount :=
      definition.endpoints.countP fun operation => operation.preliminaryRiskLevel == .high
    riskScore := riskScoreForLevels (definition.endpoints.map Operation.preliminaryRiskLevel)
    errorMessage := none }

end ApiDatabase

section Import

variable (binds : ApiDefinition → Bool)

/-- `_replace_inventory`; `binds` says whether the driver can bind the texts of a definition. -/
def replaceInventory (db : ApiDatabase) (assessmentId : Nat) (artifactType : ArtifactType)
    (filename : String) (definition : ApiDefinition) : Statements :=
  let cleared := if db.endpoints.rows.any fun row => row.2.assessmentId == assessmentId then
      db.clearReferences assessmentId
    else db
  match cleared.deleteEndpoints assessmentId with
  | none => .failed cleared
  | some deleted =>
    let replaced := { deleted with
      artifacts := (deleted.artifacts.deleteWhere fun _ artifact =>
          artifact.assessmentId == assessmentId).insert
        ⟨assessmentId, artifactType, filename, definition.redactedContent,
          definition.summary⟩ }
    if binds definition then
      .done { replaced.addEndpoints assessmentId definition.endpoints with
        assessments := replaced.assessments.modify assessmentId fun assessment =>
          ApiDatabase.describe assessment artifactType filename definition }
    else .broken

/-- The handlers of an import: the assessment and a notification say that it failed. -/
def failImport (db : ApiDatabase) (assessmentId : Nat) (artifactType : ArtifactType)
    (message : String) : ApiDatabase :=
  { db with
    assessments := db.assessments.modify assessmentId fun assessment =>
      { assessment with status := .failed, errorMessage := some message } }.notify
    (artifactType.title ++ " import failed") message "danger" assessmentId

/-- The message of an import that failed after the parser. -/
def importFailed : String :=
  "Import failed because the uploaded definition could not be processed safely."

/-- `import_definition`, with what the parser makes of the upload. -/
def importDefinition (db : ApiDatabase) (assessmentId : Nat) (artifactType : ArtifactType)
    (filename : String) (parsed : Parsed) : ApiReply :=
  match db.assessments.get? assessmentId with
  | none => ⟨db, some ⟨404, "API assessment not found."⟩⟩
  | some assessment =>
    let processing := { db with
      assessments := db.assessments.modify assessmentId fun assessment =>
        { assessment with status := .processing, errorMessage := none } }
    match parsed with
    | .refused message =>
      ⟨failImport processing assessmentId artifactType message, some ⟨400, message⟩⟩
    | .crashed =>
      ⟨failImport processing assessmentId artifactType importFailed,
        some ⟨500, importFailed⟩⟩
    | .definition definition =>
      match replaceInventory binds processing assessmentId artifactType filename
          definition with
      | .done replaced =>
        ⟨replaced.notify (artifactType.title ++ " import completed")
          ("Imported " ++ toString definition.endpoints.length ++ " API endpoints for '" ++
            assessment.name ++ "'.") "success" assessmentId, none⟩
      | .failed cleared =>
        -- The handler commits the statements before the one that failed.
        ⟨failImport cleared assessmentId artifactType importFailed,
          some ⟨500, importFailed⟩⟩
      | .broken =>
        -- The handler cannot commit on a session whose flush failed.
        ⟨db, some ⟨500, "This Session's transaction has been rolled back"⟩⟩

end Import

end ThreatScope.ApiSecurity
