import ThreatScope.Soar.Records

/-!
# The dispatcher

`_dispatch` of `soar/service.py`: one function for each group of actions, from
the configuration of a step to the store it leaves, the record it touched and
the state it saw before.

The action writes the store, the variable state and the counters of the
execution, and nothing else of it; that is the type of `DispatchOutcome`.
-/

set_option autoImplicit false

namespace ThreatScope.Soar

open Library AccessControl

variable {ρ : Type} (env : SoarPlatform ρ)

/-- `error(status, code, message)`. -/
def serviceError (status : Nat) (code message : String) : Failure :=
  .http ⟨status, code, Text.truncate 500 message⟩

/-- `dumps`: the value as it is stored, or the refusal of a value that is too
large. -/
def dumps (value : Json) (limit : Nat) : Except Failure Json :=
  let stored := redact env.toInterpreter value
  if limit < env.encodedSize stored then
    .error (serviceError 422 "SOAR_PLAYBOOK_INVALID" "JSON payload exceeds safe storage bound")
  else .ok stored

/-- The bound of `dumps` when none is given. -/
def storageLimit : Nat := 65536

def caseTransitions : String → List String
  | "new" => ["triage", "investigating"]
  | "triage" => ["investigating", "contained"]
  | "investigating" => ["contained", "monitoring"]
  | "contained" => ["monitoring"]
  | "monitoring" => ["resolved"]
  | "reopened" => ["investigating"]
  | _ => []

/-- What a call of the dispatcher reads besides the store. -/
structure DispatchContext where
  now : Instant
  executionId : Nat
  execution : SoarExecution
  /-- The position of the step record. -/
  step : Nat
  stepKey : String
  config : Dict
  actor : Nat
  actorName : String
  /-- The session of the request, when the route binds one. -/
  sessionId : Option Nat

/-- What a local action leaves. -/
structure LocalOutcome (ρ : Type) where
  store : Store ρ
  recordId : Option Nat
  before : Dict := []
  recordsCreated : Nat := 0
  recordsUpdated : Nat := 0
  variableState : Option Json := none
  /-- A constraint that fails when the transaction is committed. -/
  violation : Option String := none
  commits : Bool := false

/-- What a call of the dispatcher leaves. -/
structure DispatchOutcome (ρ : Type) where
  output : Dict
  store : Store ρ
  recordsCreated : Nat := 0
  recordsUpdated : Nat := 0
  simulatedActions : Nat := 0
  variableState : Option Json := none
  violation : Option String := none
  commits : Bool := false

/-- The counters and variables of an execution after an action. -/
def SoarExecution.absorb (execution : SoarExecution) (outcome : DispatchOutcome ρ) :
    SoarExecution :=
  { execution with
    recordsCreated := execution.recordsCreated + outcome.recordsCreated
    recordsUpdated := execution.recordsUpdated + outcome.recordsUpdated
    simulatedActionCount := execution.simulatedActionCount + outcome.simulatedActions
    variableState := outcome.variableState.getD execution.variableState }

/-! ## Reading the configuration -/

/-- An optional text as JSON. -/
def jsonText (text : Option String) : Json := text.elim .null .str

/-- An optional key as JSON. -/
def jsonKey (key : Option Nat) : Json := key.elim .null fun key => .int key

namespace DispatchContext

/-- `config.get(key)`. -/
def get (context : DispatchContext) (key : String) : Json := Dict.get context.config key

/-- `execution.trigger_source_id`. -/
def trigger (context : DispatchContext) : Json := jsonKey context.execution.triggerSourceId

end DispatchContext

/-- `int(value or 0)`. -/
def intOrZero (value : Json) : Except Failure Int :=
  match env.int (value.orElse (.int 0)) with
  | some number => .ok number
  | none => .error (.other "int() argument is not a number")

/-- `str(value)[:count]`. -/
def textOf (value : Json) (count : Nat) : String :=
  Text.truncate count (env.str value)

/-- `db.get(Model, key)`. -/
def rowAt {α : Type} (table : Table α) (key : Int) : Option (Nat × α) :=
  if 0 < key then (table.get? key.toNat).map fun row => (key.toNat, row) else none

/-- A row, or the exception for a missing one. -/
def requireRow {α : Type} (row : Option (Nat × α)) (message : String) :
    Except Failure (Nat × α) :=
  match row with
  | some row => .ok row
  | none => .error (.other message)

/-- The integer a column keeps of a value. -/
def columnInteger : Json → Option Int
  | .bool value => some (if value then 1 else 0)
  | .int value => some value
  | .str value => env.integerAffinity (.str value)
  | .float value => env.integerAffinity (.float value)
  | _ => none

/-- A value written to a foreign key that names a user. -/
def userReference (store : Store ρ) (value : Json) : Except String (Option Nat) :=
  match value with
  | .null => .ok none
  | value =>
    match columnInteger env value with
    | some number =>
      match rowAt store.directory.users number with
      | some (key, _) => .ok (some key)
      | none => .error "FOREIGN KEY constraint failed"
    | none => .error "FOREIGN KEY constraint failed"

/-- A user reference that is flushed at once. -/
def flushedReference (store : Store ρ) (value : Json) : Except Failure (Option Nat) :=
  match userReference env store value with
  | .ok key => .ok key
  | .error message => .error (.other message)

/-- `int(config.get("source_id") or execution.trigger_source_id or 0)`. -/
def sourceId (context : DispatchContext) : Except Failure Int :=
  intOrZero env ((context.get "source_id").orElse context.trigger)

/-- The `case_key` a step of an execution gives a case. -/
def soarCaseKey (executionId : Nat) (stepKey : String) : String :=
  "SOAR-" ++ Text.truncate 20
    (env.sha256 ("soar:" ++ toString executionId ++ ":" ++ stepKey))

/-- The case the configuration or the variables name. -/
def targetCase (store : Store ρ) (context : DispatchContext) :
    Except Failure (Option (Nat × IncidentCase)) := do
  let key ← intOrZero env ((context.get "case_id").orElse
    (Dict.get context.execution.variableState.fields "case_id"))
  return rowAt store.cases key

/-! ## Cases -/

def createIncidentCase (store : Store ρ) (context : DispatchContext) :
    Except Failure (LocalOutcome ρ) := do
  let caseKey := soarCaseKey env context.executionId context.stepKey
  let (store, key, created) : Store ρ × Nat × Nat :=
    match store.cases.first? fun _ row => row.caseKey == caseKey with
    | some (key, _) => (store, key, 0)
    | none =>
      let row : IncidentCase :=
        { caseKey := caseKey
          title := textOf env ((context.get "title").orElse
            (.str ("SOAR investigation " ++ Text.truncate 8 context.execution.uuid))) 240
          summary := textOf env ((context.get "body").orElse
            (.str "Created by an approved ThreatScope SOAR-Lite playbook.")) 8000
          caseType := "soar_investigation"
          severity := env.str (getOr context.config "severity" (.str "high"))
          priority := "P2"
          confidence := "medium"
          status := "new"
          assigneeName := none
          sourceModuleCount := 1
          evidenceCount := 0
          tags := [.str "soar"] }
      ({ store with cases := store.cases.insert row }, store.cases.nextKey, 1)
  let stored ← dumps env
    (.obj (Dict.set context.execution.variableState.fields "case_id" (.int key))) storageLimit
  return { store := store, recordId := some key, recordsCreated := created,
           variableState := some stored }

/-- `assign_case_owner` and `restore_case_owner`. -/
def writeOwner (context : DispatchContext) (row : IncidentCase) : IncidentCase :=
  { row with
    assigneeName := some (textOf env ((context.get "value").orElse
      ((context.get "owner_user_id").orElse (.str "Unassigned"))) 200) }

/-- `change_case_severity` and `restore_case_severity`. -/
def writeSeverity (context : DispatchContext) (row : IncidentCase) : IncidentCase :=
  { row with
    severity := textOf env ((context.get "severity").orElse
      ((context.get "value").orElse (.str row.severity))) 16 }

/-- The status `transition_case_lifecycle` and `restore_case_status` ask for. -/
def targetStatus (context : DispatchContext) : String :=
  env.str ((context.get "status").orElse (context.get "value"))

/-- `transition_case_lifecycle` and `restore_case_status`. -/
def writeStatus (move : Bool) (context : DispatchContext) (row : IncidentCase) :
    Except Failure IncidentCase :=
  let target := targetStatus env context
  if move && !(caseTransitions row.status).contains target then
    .error (.other "Invalid incident-case lifecycle transition")
  else if target == "resolved" then
    .error (.other "Automatic case closure is prohibited")
  else .ok { row with status := Text.truncate 30 target }

/-- The tag `add_case_tag` and `remove_case_tag` are about. -/
def targetTag (context : DispatchContext) : Json :=
  .str (textOf env ((context.get "value").orElse (.str "soar")) 100)

/-- The tags after `add_case_tag` or `remove_case_tag`. -/
def changedTags (add : Bool) (tag : Json) (tags : List Json) : List Json :=
  if add then if tags.any (Json.pyEq · tag) then tags else tags ++ [tag]
  else tags.filter fun item => !Json.pyEq item tag

/-- `add_case_tag` and `remove_case_tag`. -/
def writeTags (add : Bool) (context : DispatchContext) (row : IncidentCase) :
    Except Failure IncidentCase := do
  let stored ← dumps env (.arr (changedTags add (targetTag env context) row.tags))
    storageLimit
  return { row with tags := stored.items }

/-- A change of one field of a case, with the value it had. -/
def changeCase (store : Store ρ) (target : Option (Nat × IncidentCase)) (field : String)
    (previous : IncidentCase → Json) (write : IncidentCase → Except Failure IncidentCase) :
    Except Failure (LocalOutcome ρ) := do
  let (key, row) ← requireRow target "Incident case target is invalid"
  let changed ← write row
  return { store := { store with cases := store.cases.modify key fun _ => changed }
           recordId := some key
           before := [("case_id", .int key), (field, previous row)]
           recordsUpdated := 1 }

def addCaseComment (store : Store ρ) (context : DispatchContext)
    (target : Option (Nat × IncidentCase)) : Except Failure (LocalOutcome ρ) := do
  let (key, _) ← requireRow target "Incident case target is invalid"
  let note : IncidentNote :=
    { caseId := key
      noteText := textOf env ((context.get "body").orElse (context.get "reason")) 8000
      authorLabel := Text.truncate 100 context.actorName }
  return { store := { store with notes := store.notes.insert note }
           recordId := some store.notes.nextKey
           recordsCreated := 1 }

def cancelCaseTask (store : Store ρ) (context : DispatchContext) :
    Except Failure (LocalOutcome ρ) := do
  let (key, row) ← requireRow
    (rowAt store.actionItems (← intOrZero env (context.get "record_id")))
    "Case task is unavailable"
  return { store := { store with
             actionItems := store.actionItems.modify key fun row =>
               { row with status := "cancelled" } }
           recordId := some key
           before := [("record_id", .int key), ("status", .str row.status)]
           recordsUpdated := 1 }

/-- The marker of the tasks a step creates. -/
def taskMarker (context : DispatchContext) : String :=
  "[SOAR:" ++ toString context.executionId ++ ":" ++ context.stepKey ++ "]"

/-- The actions that create a task of a case. -/
def createCaseTask (store : Store ρ) (context : DispatchContext) (displayName : String)
    (target : Option (Nat × IncidentCase)) : Except Failure (LocalOutcome ρ) := do
  let target := target.or (store.cases.first? fun _ row =>
    row.caseKey == soarCaseKey env context.executionId "create_case")
  let (key, _) ← requireRow target "A case is required for this analyst task"
  let marker := taskMarker context
  match store.actionItems.first? fun _ item => item.caseId == key &&
      Text.like ('%' :: marker.toList ++ ['%']) item.description.toList with
  | some (existing, _) => return { store := store, recordId := some existing }
  | none =>
    let item : IncidentActionItem :=
      { caseId := key
        title := textOf env ((context.get "title").orElse (.str displayName)) 240
        description := Text.truncate 8000 (env.str ((context.get "body").orElse
          ((context.get "reason").orElse (.str "Review playbook output"))) ++ " " ++ marker)
        status := "open"
        assigneeName := textOf env ((context.get "owner_user_id").orElse
          (.str context.actorName)) 200 }
    return { store := { store with actionItems := store.actionItems.insert item }
             recordId := some store.actionItems.nextKey
             recordsCreated := 1 }

/-- `key.removeprefix("link_").removesuffix("_to_case")`. -/
def linkedSource : ActionKey → String
  | .linkSocAlertToCase => "soc_alert"
  | .linkDetectionMatchToCase => "detection_match"
  | .linkThreatIntelligenceMatchToCase => "threat_intelligence_match"
  | .linkVulnerabilityToCase => "vulnerability"
  | .linkPhishingAnalysisToCase => "phishing_analysis"
  | .linkDocumentAnalysisToCase => "document_analysis"
  | _ => "add_case_evidence"

/-- `add_case_evidence` and the actions that link a source to a case. -/
def linkEvidence (store : Store ρ) (context : DispatchContext) (action : ActionDefinition)
    (target : Option (Nat × IncidentCase)) : Except Failure (LocalOutcome ρ) := do
  let (key, _) ← requireRow target "Incident case target is invalid"
  let source ← sourceId env context
  let sourceType := linkedSource action.actionKey
  let fingerprint := env.sha256 (toString key ++ ":" ++ sourceType ++ ":" ++
    toString source ++ ":" ++ toString context.executionId ++ "." ++ toString context.step)
  let (linked, record, created) : Store ρ × Nat × Nat :=
    match store.evidence.first? fun _ row => row.evidenceFingerprint == fingerprint with
    | some (record, _) => (store, record, 0)
    | none =>
      let row : IncidentEvidence :=
        { caseId := key
          sourceModule := Text.truncate 30 sourceType
          sourceRecordType := Text.truncate 50 sourceType
          sourceRecordId := source
          sourceInternalRoute := none
          titleSnapshot := Text.truncate 500 action.displayName
          evidenceSnapshot := "Redacted SOAR source link"
          severity := "high"
          confidence := "medium"
          evidenceFingerprint := fingerprint }
      ({ store with
          evidence := store.evidence.insert row
          cases := store.cases.modify key fun row =>
            { row with evidenceCount := row.evidenceCount + 1 } },
        store.evidence.nextKey, 1)
  let linked := match action.actionKey with
    | .linkDetectionMatchToCase =>
      { linked with
        detectionMatches := linked.detectionMatches.modify source.toNat fun _ => some key }
    | .linkThreatIntelligenceMatchToCase =>
      { linked with
        indicatorMatches := linked.indicatorMatches.modify source.toNat fun _ => some key }
    | _ => linked
  return { store := linked, recordId := some record, recordsCreated := created }

/-! ## Alerts -/

/-- `mark_soc_alert_reviewing` and `add_soc_alert_note`. -/
def reviewAlert (store : Store ρ) (context : DispatchContext) (reviewing : Bool) :
    Except Failure (LocalOutcome ρ) := do
  let (key, row) ← requireRow (rowAt store.alerts (← sourceId env context))
    "SOC alert target is invalid"
  let earlier := row.analystNotes.getD ""
  let note := textOf env ((context.get "body").orElse ((context.get "reason").orElse
    (.str "SOAR review"))) 4000
  let changed : SocAlert :=
    { status := if reviewing then "reviewing" else row.status
      analystNotes := some (earlier ++ (if earlier = "" then "" else "\n") ++ note) }
  return { store := { store with alerts := store.alerts.modify key fun _ => changed }
           recordId := some key
           before := [("record_id", .int key), ("status", .str row.status),
             ("analyst_notes", jsonText row.analystNotes)]
           recordsUpdated := 1 }

/-! ## Vulnerabilities and remediation -/

def cancelRemediationTask (store : Store ρ) (context : DispatchContext) :
    Except Failure (LocalOutcome ρ) := do
  let (key, _) ← requireRow
    (rowAt store.remediationTasks (← intOrZero env (context.get "record_id")))
    "'NoneType' object has no attribute 'status'"
  return { store := { store with
             remediationTasks := store.remediationTasks.modify key fun row =>
               { row with status := "cancelled" } }
           recordId := some key }

/-- `assign_vulnerability` and `restore_vulnerability_owner`. The reference is
checked when the transaction is committed. -/
def assignVulnerability (store : Store ρ) (context : DispatchContext)
    (target : Nat × VulnerabilityRecord) : LocalOutcome ρ :=
  let (key, row) := target
  let before : Dict := [("vulnerability_id", .int key),
    ("owner_user_id", jsonKey row.currentOwnerUserId)]
  match userReference env store
      ((context.get "owner_user_id").orElse (context.get "value")) with
  | .ok owner =>
    { store := { store with
        vulnerabilities := store.vulnerabilities.modify key fun row =>
          { row with currentOwnerUserId := owner } }
      recordId := some key
      before := before
      recordsCreated := 1 }
  | .error message =>
    { store := store
      recordId := some key
      before := before
      recordsCreated := 1
      violation := some message }

/-- `create_remediation_plan_draft`. -/
def createRemediationPlan (store : Store ρ) (context : DispatchContext) (vulnerability : Nat) :
    Except Failure (LocalOutcome ρ) := do
  let owner ← flushedReference env store (context.get "owner_user_id")
  let plan : RemediationPlan :=
    { vulnerabilityId := vulnerability
      title := textOf env ((context.get "title").orElse (.str "SOAR remediation plan")) 300
      objective := textOf env ((context.get "reason").orElse
        (.str "Review and remediate")) 8000
      status := "draft"
      priority := env.str ((context.get "severity").orElse (.str "high"))
      ownerUserId := owner }
  return { store := { store with remediationPlans := store.remediationPlans.insert plan }
           recordId := some store.remediationPlans.nextKey
           recordsCreated := 1 }

def createRemediationTask (store : Store ρ) (context : DispatchContext) (vulnerability : Nat) :
    Except Failure (LocalOutcome ρ) := do
  let named := rowAt store.remediationPlans (← intOrZero env (context.get "plan_id"))
  let (plan, _) ← requireRow (named.or (store.remediationPlans.last? fun _ plan =>
    plan.vulnerabilityId == vulnerability && plan.status == "draft"))
    "A remediation plan is required"
  let assignee ← flushedReference env store (context.get "owner_user_id")
  let task : RemediationTask :=
    { planId := plan
      title := textOf env ((context.get "title").orElse
        (.str "SOAR remediation review")) 300
      description := textOf env ((context.get "body").orElse (context.get "reason")) 8000
      status := "todo"
      assigneeUserId := assignee }
  return { store := { store with remediationTasks := store.remediationTasks.insert task }
           recordId := some store.remediationTasks.nextKey
           recordsCreated := 1 }

/-! ## Users and sessions -/

/-- Revoke the open sessions of a user. -/
def revokeSessions (store : Store ρ) (user : Nat) (now : Instant) (reason : String) : Store ρ :=
  { store with
    sessions := store.sessions.update fun _ session =>
      if session.userId = user ∧ session.revokedAt = none then
        { session with revokedAt := some now, revokeReason := some reason }
      else session }

/-- Write the status of a user. -/
def writeAccount (store : Store ρ) (user : Nat) (status : AccountStatus)
    (disabledAt : Option Instant) : Store ρ :=
  { store with
    directory := { store.directory with
      users := store.directory.users.modify user fun account =>
        { account with status := status, disabledAt := disabledAt } } }

def revokeSelectedSession (store : Store ρ) (context : DispatchContext) :
    Except Failure (LocalOutcome ρ) := do
  let (key, _) ← requireRow
    (rowAt store.sessions (← intOrZero env (context.get "session_id")))
    "Target session is invalid"
  if context.sessionId = some key then
    .error (.other "Unsafe current-session revocation is prohibited")
  else
    return { store := { store with
               sessions := store.sessions.modify key fun session =>
                 { session with
                   revokedAt := session.revokedAt.or (some context.now)
                   revokeReason := some "soar_sensitive_action" } }
             recordId := some key
             recordsUpdated := 1 }

/-- `temporarily_disable_user`, `reenable_user` and `revoke_other_user_sessions`. -/
def changeUser (key : ActionKey) (store : Store ρ) (context : DispatchContext)
    (target : Option (Nat × UserAccount)) : Except Failure (LocalOutcome ρ) := do
  let (user, account) ← requireRow target "Target user is invalid"
  let activeAdmins := store.directory.users.count fun _ account =>
    account.status == .active && account.isSystemAdmin
  match key with
  | .temporarilyDisableUser =>
    if user = context.actor then
      .error (serviceError 409 "SOAR_SENSITIVE_ACTION_DENIED"
        "Unsafe self-disablement is prohibited")
    else if account.isSystemAdmin && activeAdmins ≤ 1 then
      .error (serviceError 409 "SOAR_LAST_ADMIN_PROTECTED"
        "The only active Administrator cannot be disabled")
    else
      return { store := revokeSessions
                 (writeAccount store user .disabled (some context.now)) user context.now
                 "user_disabled_by_soar"
               recordId := some user
               recordsUpdated := 1 }
  | .reenableUser =>
    return { store := writeAccount store user .active none
             recordId := some user
             recordsUpdated := 1 }
  | _ =>
    if user = context.actor then
      .error (serviceError 409 "SOAR_SENSITIVE_ACTION_DENIED"
        "Use normal session controls for the current user; this action is limited to another user")
    else
      return { store := revokeSessions store user context.now "soar_sensitive_action"
               recordId := some user
               recordsUpdated := 1 }

/-- The actions on users and sessions. -/
def sensitiveAction (key : ActionKey) (store : Store ρ) (context : DispatchContext) :
    Except Failure (LocalOutcome ρ) := do
  if env.str ((context.get "reason").orElse (.str "")) = "" then
    .error (.other "Sensitive action requires an explicit reason")
  else
    let user ← intOrZero env ((context.get "user_id").orElse
      ((context.get "source_id").orElse context.trigger))
    match key with
    | .revokeSelectedSession => revokeSelectedSession env store context
    | _ => changeUser key store context (rowAt store.directory.users user)

/-! ## The dispatcher -/

/-- An action whose records stay abstract. -/
def foreignAction (key : ActionKey) (store : Store ρ) (context : DispatchContext) :
    Except Failure (LocalOutcome ρ) := do
  let result ← env.performForeign store
    { action := key
      execution := context.execution
      executionId := context.executionId
      step := context.step
      config := context.config
      actor := context.actor
      now := context.now }
  return { store := { store with foreign := result.foreign }
           recordId := result.recordId
           recordsCreated := result.recordsCreated
           commits := result.commits }

/-- The actions on a vulnerability, which must exist. -/
def vulnerabilityAction (key : ActionKey) (store : Store ρ) (context : DispatchContext) :
    Except Failure (LocalOutcome ρ) := do
  let target ← requireRow (rowAt store.vulnerabilities (← sourceId env context))
    "Vulnerability target is invalid"
  match key with
  | .assignVulnerability => return assignVulnerability env store context target
  | .restoreVulnerabilityOwner => return assignVulnerability env store context target
  | .createRemediationPlanDraft => createRemediationPlan env store context target.1
  | .createRemediationTask => createRemediationTask env store context target.1
  | _ => foreignAction env key store context

/-- The local branches of `_dispatch`. -/
def localAction (action : ActionDefinition) (store : Store ρ) (context : DispatchContext) :
    Except Failure (LocalOutcome ρ) := do
  let target ← targetCase env store context
  match action.actionKey with
  | .createIncidentCase => createIncidentCase env store context
  | .assignCaseOwner | .restoreCaseOwner =>
    changeCase store target "assignee_name" (fun row => jsonText row.assigneeName)
      fun row => .ok (writeOwner env context row)
  | .changeCaseSeverity | .restoreCaseSeverity =>
    changeCase store target "severity" (fun row => .str row.severity)
      fun row => .ok (writeSeverity env context row)
  | .transitionCaseLifecycle =>
    changeCase store target "status" (fun row => .str row.status)
      (writeStatus env true context)
  | .restoreCaseStatus =>
    changeCase store target "status" (fun row => .str row.status)
      (writeStatus env false context)
  | .addCaseTag =>
    changeCase store target "tags" (fun row => .arr row.tags) (writeTags env true context)
  | .removeCaseTag =>
    changeCase store target "tags" (fun row => .arr row.tags) (writeTags env false context)
  | .addCaseComment => addCaseComment env store context target
  | .cancelCaseTask => cancelCaseTask env store context
  | .createInvestigationChecklistItem | .createCaseFollowUpTask | .createAlertReviewTask
  | .createAnalystReviewTask | .createIocReviewTask | .assignInternalTask =>
    createCaseTask env store context action.displayName target
  | .addCaseEvidence | .linkSocAlertToCase | .linkDetectionMatchToCase
  | .linkThreatIntelligenceMatchToCase | .linkVulnerabilityToCase
  | .linkPhishingAnalysisToCase | .linkDocumentAnalysisToCase =>
    linkEvidence env store context action target
  | .markSocAlertReviewing => reviewAlert env store context true
  | .addSocAlertNote => reviewAlert env store context false
  | .cancelRemediationTask => cancelRemediationTask env store context
  | .assignVulnerability | .restoreVulnerabilityOwner | .addVulnerabilityComment
  | .createRemediationPlanDraft | .createRemediationTask | .requestVulnerabilityVerification
  | .createRiskAcceptanceProposal =>
    vulnerabilityAction env action.actionKey store context
  | .revokeSelectedSession | .revokeOtherUserSessions | .temporarilyDisableUser
  | .reenableUser => sensitiveAction env action.actionKey store context
  | .createDetectionSuppressionProposal | .addIndicatorToWatchlist
  | .createInternalNotification | .addSupportedRecordTag | .captureEvidenceSnapshot
  | .createAnomalyCaseProposal | .requestAnomalyReview | .generateAnalyticsReport
  | .addAnomalyTag | .queueConnectorNotification | .queueExternalTicketCreate
  | .queueExternalTicketUpdate | .queueSiemEventPublish | .queueStixExport
  | .testConnectorHealth | .createConnectorDeliveryReviewTask =>
    foreignAction env action.actionKey store context
  | _ => .error (.other "Action implementation is not allowlisted")

def readContext (store : Store ρ) (key : ActionKey) (source : Int) : Dict :=
  if key = .calculateWorkflowRiskSummary then
    [("status", .str "succeeded"), ("record_id", .null),
      ("summary", .str "Bounded current workflow risk summary calculated from local records."),
      ("context", (env.readContext store key source).getD (.obj []))]
  else match (if source = 0 then none else env.readContext store key source) with
    | some data =>
      [("status", .str "succeeded"), ("record_id", .int source),
        ("summary", .str "Permission-filtered local context loaded."), ("context", data)]
    | none =>
      [("status", .str "succeeded"), ("record_id", .null),
        ("summary", .str "No matching local context was found."), ("context", .obj [])]

/-- The output of a simulated action. -/
def simulatedOutput (action : ActionDefinition) (context : DispatchContext) : Dict :=
  [("status", .str "simulated"),
    ("summary", .str ("Simulated " ++ action.displayName.toLower ++
      ". No external infrastructure was modified.")),
    ("intended_target",
      .str (textOf env (getOr context.config "target" context.trigger) 500)),
    ("reason", .str (textOf env
      (getOr context.config "reason" (.str "Approved simulation")) 2000)),
    ("assumptions",
      redact env.toInterpreter (getOr context.config "assumptions" (.arr []))),
    ("simulation_only", .bool true), ("external_infrastructure_modified", .bool false)]

/-- `safety_classification` as text. -/
def SafetyClass.text : SafetyClass → String
  | .readOnly => "read_only"
  | .harmlessLocal => "harmless_local"
  | .controlledLocal => "controlled_local"
  | .sensitiveLocal => "sensitive_local"
  | .simulationOnly => "simulation_only"

/-- The output of a local action. -/
def localOutput (action : ActionDefinition) (outcome : LocalOutcome ρ) : Dict :=
  [("status", .str "succeeded"), ("record_id", jsonKey outcome.recordId),
    ("summary", .str ("Allowlisted local action completed: " ++ action.displayName ++ ".")),
    ("before_state", redact env.toInterpreter (.obj outcome.before)),
    ("safety_classification", .str action.safetyClassification.text)]

def dispatch (action : ActionDefinition) (store : Store ρ) (context : DispatchContext) :
    Except Failure (DispatchOutcome ρ) :=
  if action.simulationOnly then
    .ok { output := simulatedOutput env action context, store := store,
          simulatedActions := 1 }
  else if action.safetyClassification = .readOnly then
    match sourceId env context with
    | .ok source =>
      .ok { output := readContext env store action.actionKey source, store := store }
    | .error failure => .error failure
  else if context.execution.mode = .simulation ∧
      (context.get "perform_harmless_local").truthy = false then
    .ok { output := [("status", .str "intended"),
            ("summary", .str
              "Simulation recorded the intended local action; no local mutation was configured.")]
          store := store }
  else match localAction env action store context with
    | .ok outcome =>
      .ok { output := localOutput env action outcome
            store := outcome.store
            recordsCreated := outcome.recordsCreated
            recordsUpdated := outcome.recordsUpdated
            variableState := outcome.variableState
            violation := outcome.violation
            commits := outcome.commits }
    | .error failure => .error failure

end ThreatScope.Soar
