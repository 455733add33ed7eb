import ThreatScope.Soar.Engine

/-!
# The operations on executions

The service functions and routes that write an execution: creation, resumption,
approval decisions, analyst input, due processing, cancellation, retry and
rollback, each as a function of the database and the request.

`perform` takes one event to the next database. Between two requests the
environment may replace the store and the playbooks by any others, which is how
analysts, other modules and playbook editors appear here; only the requests
write executions. The permissions the routes require are left out, so the runs
below are more than the routes admit.
-/

set_option autoImplicit false

namespace ThreatScope.Soar

open Library AccessControl

variable {ρ : Type} (env : SoarPlatform ρ)

/-! ## Approvals -/

/-- The other active users who may decide an approval. -/
def otherEligible (store : Store ρ) (required : String) (user : Nat) : Bool :=
  store.directory.users.rows.any fun row =>
    row.2.status == .active && row.1 != user &&
      ((store.permissions row.1).contains required ||
        (store.permissions row.1).contains "soar:approve")

/-- The approve decisions of an approval. -/
def SoarApproval.approvals (approval : SoarApproval) : Nat :=
  approval.decisions.countP fun decision => decision.decision == .approve

/-- The checks of `decide_approval` after the expiry. -/
def decisionRefusal (context : RunContext) (account : UserAccount) (store : Store ρ)
    (approval : SoarApproval) : Option Failure :=
  let permissions := store.permissions context.actor
  if !permissions.contains approval.requiredPermission &&
      !permissions.contains "soar:approve" then
    some (serviceError 403 "SOAR_APPROVAL_NOT_ELIGIBLE" "Current user is not eligible to decide")
  else if account.status != .active ||
      account.lockedUntil.any (fun until_ => decide (context.now < until_)) then
    some (serviceError 403 "SOAR_APPROVAL_NOT_ELIGIBLE"
      "Disabled or locked users cannot approve")
  else if approval.assignedToUserId.any (· != context.actor) then
    some (serviceError 403 "SOAR_APPROVAL_NOT_ELIGIBLE" "Approval is assigned to another user")
  else if approval.separationRequired && approval.requesterUserId == context.actor &&
      otherEligible store approval.requiredPermission context.actor then
    some (serviceError 403 "SOAR_APPROVAL_NOT_ELIGIBLE"
      "Requester/approver separation is required")
  else if approval.decisions.any fun decision => decision.decidedByUserId == context.actor then
    some (serviceError 409 "SOAR_APPROVAL_ALREADY_DECIDED" "User already decided this approval")
  else none

/-- An approval with one more decision and the status it comes to. -/
def SoarApproval.decided (approval : SoarApproval) (user : Nat) (decision : Decision)
    (status : ApprovalStatus) : SoarApproval :=
  { approval with decisions := approval.decisions ++ [⟨decision, user⟩], status := status }

/-- Write the status of an approval. -/
def SoarExecution.setApprovalStatus (execution : SoarExecution) (position : Nat)
    (status : ApprovalStatus) : SoarExecution :=
  execution.modifyApproval position fun approval => { approval with status := status }

/-- Store a decided approval. -/
def SoarExecution.storeApproval (execution : SoarExecution) (position : Nat)
    (approval : SoarApproval) : SoarExecution :=
  execution.modifyApproval position fun _ => approval

/-- The execution after a rejection. -/
def SoarExecution.rejectRun (execution : SoarExecution) : SoarExecution :=
  { execution.setStatus .failed with
    errorCode := some "SOAR_APPROVAL_REQUIRED"
    errorSummary := some "Approval was rejected" }

/-- `db.get(SoarStepExecution, ..)`, for a record the code goes on to write. -/
def stepAt (execution : SoarExecution) (position : Nat) : Except Failure SoarStepExecution :=
  match execution.steps[position]? with
  | some record => .ok record
  | none => .error (.other "'NoneType' object has no attribute 'status'")

/-- The step an execution takes after the approval of a record: an approval step
is done, every other step is taken again. -/
def stepAfterApproval (record : SoarStepExecution) (source : Dict) :
    Except Failure (Option String) :=
  if record.stepType = some .approval then columnText env (Dict.get source "on_success")
  else .ok (some record.stepKey)

/-- The state after the last missing approval: the step record and the next step. -/
def completeApproval (context : RunContext) (execution : SoarExecution) (step : Nat) :
    Except Failure SoarExecution := do
  let record ← stepAt execution step
  let source ← sourceStep execution.definition record.stepKey
  let next ← stepAfterApproval env record source
  let status := if record.stepType = some .approval then .succeeded else .approved
  return { execution.setStepStatus step status with
    approvedByUserId := some context.actor
    currentStepKey := next }.setStatus .queued

/-- An accepted decision. -/
def applyDecision (context : RunContext) (work : Work ρ) (position : Nat)
    (approval : SoarApproval) (decision : Decision) : ServiceReply ρ :=
  let store (status : ApprovalStatus) :=
    work.execution.storeApproval position (approval.decided context.actor decision status)
  match decision with
  | .reject => ⟨{ work with execution := (store .rejected).rejectRun }, none, []⟩
  | .approve =>
    if approval.minimumApprovals ≤ approval.approvals + 1 then
      match completeApproval env context (store .approved) approval.stepExecution with
      | .error failure => refuse work failure
      | .ok execution => runExecution env context { work with execution := execution }
    else ⟨{ work with execution := store .partiallyApproved }, none, []⟩

def decideApproval (context : RunContext) (account : UserAccount) (position : Nat)
    (decision : Decision) (work : Work ρ) : ServiceReply ρ :=
  match work.execution.approvals[position]? with
  | none => refuse work (serviceError 404 "" "Record not found")
  | some approval =>
    if !approval.status.isOpen then
      refuse work (serviceError 409 "SOAR_APPROVAL_ALREADY_DECIDED"
        "Approval is no longer pending")
    else if approval.expiresAt ≤ context.now then
      ⟨{ work with execution := work.execution.setApprovalStatus position .expired },
        some (serviceError 409 "SOAR_APPROVAL_EXPIRED" "Approval has expired"), []⟩
    else match decisionRefusal context account work.store approval with
      | some failure => refuse work failure
      | none => applyDecision env context work position approval decision

def cancelApproval (position : Nat) (work : Work ρ) : ServiceReply ρ :=
  match work.execution.approvals[position]? with
  | none => refuse work (serviceError 404 "" "Record not found")
  | some approval =>
    if approval.status.isOpen then
      ⟨{ work with execution := work.execution.setApprovalStatus position .cancelled },
        none, []⟩
    else refuse work (serviceError 409 "SOAR_APPROVAL_ALREADY_DECIDED"
      "Approval is not pending")

/-! ## Analyst input -/

/-- Write the status of an analyst input. -/
def SoarExecution.setInputStatus (execution : SoarExecution) (position : Nat)
    (status : InputStatus) : SoarExecution :=
  execution.modifyInput position fun input => { input with status := status }

/-- The names of the fields of an analyst input; a list or a dictionary cannot be
one. -/
def fieldNames : List Json → Except Failure (List Json)
  | [] => .ok []
  | .obj field :: rest =>
    match hashable (Dict.get field "name"), fieldNames rest with
    | .error message, _ => .error (.other message)
    | .ok (), .error failure => .error failure
    | .ok (), .ok names => .ok (Dict.get field "name" :: names)
  | _ :: rest => fieldNames rest

/-- The checks of the response of an analyst. -/
def responseRefusal (input : SoarAnalystInput) (response : Dict) : Option Failure :=
  match fieldNames input.schema.items with
  | .error failure => some failure
  | .ok names =>
    match checkEach (fun name => (hashable name).map fun _ => []) input.requiredFields with
    | .error message => some (.other message)
    | .ok _ =>
      if response.any (fun field => !names.any (Json.isStr field.1)) ||
          input.requiredFields.any
            (fun name => !response.any fun field => name.isStr field.1) then
        some (serviceError 422 "SOAR_ANALYST_INPUT_INVALID"
          "Response fields do not match the bounded server schema")
      else if response.any fun field => decide (8000 < (env.str field.2).length) then
        some (serviceError 422 "SOAR_ANALYST_INPUT_INVALID" "Response value is too long")
      else none

/-- The state after an accepted response. -/
def acceptResponse (context : RunContext) (execution : SoarExecution) (position step : Nat)
    (response : Dict) : Except Failure SoarExecution := do
  let stored ← dumps env (.obj response) 32000
  let record ← stepAt execution step
  let output ← dumps env
    (.obj [("status", .str "submitted"), ("response", .obj response)]) storageLimit
  let source ← sourceStep execution.definition record.stepKey
  let _ ← dumps env (.obj [("field_names",
    .arr ((sortTexts (response.map Prod.fst)).map Json.str))]) 16000
  let next ← columnText env (Dict.get source "on_success")
  let execution := execution.modifyInput position fun input =>
    { input with
      response := stored
      submittedByUserId := some context.actor
      status := .submitted }
  return (execution.recordOutput step .succeeded output next).setStatus .queued

def submitAnalystInput (context : RunContext) (position : Nat) (response : Dict)
    (work : Work ρ) : ServiceReply ρ :=
  match work.execution.inputs[position]? with
  | none => refuse work (serviceError 404 "" "Record not found")
  | some input =>
    if input.status ≠ .pending then
      refuse work (serviceError 409 "SOAR_ANALYST_INPUT_INVALID"
        "Analyst input is no longer pending")
    else if input.expiresAt ≤ context.now then
      ⟨{ work with execution := work.execution.setInputStatus position .expired },
        some (serviceError 409 "SOAR_ANALYST_INPUT_INVALID" "Analyst input has expired"), []⟩
    else if input.requestedFromUserId.any (· != context.actor) then
      refuse work (serviceError 403 "SOAR_PERMISSION_DENIED"
        "Analyst input is assigned to another user")
    else match responseRefusal env input response with
      | some failure => refuse work failure
      | none =>
        match acceptResponse env context work.execution position input.stepExecution
            response with
        | .error failure => refuse work failure
        | .ok execution => runExecution env context { work with execution := execution }

def cancelInput (position : Nat) (work : Work ρ) : ServiceReply ρ :=
  match work.execution.inputs[position]? with
  | none => refuse work (serviceError 404 "" "Record not found")
  | some input =>
    if input.status = .pending then
      ⟨{ work with execution := work.execution.setInputStatus position .cancelled }, none, []⟩
    else refuse work (serviceError 409 "SOAR_ANALYST_INPUT_INVALID"
      "Input is no longer pending")

/-! ## Cancellation and retry -/

/-- The execution after its cancellation: what still waits is cancelled with it. -/
def SoarExecution.cancel (execution : SoarExecution) : SoarExecution :=
  { execution.setStatus .cancelled with
    approvals := execution.approvals.map fun approval =>
      if approval.status.isOpen then { approval with status := .cancelled } else approval
    inputs := execution.inputs.map fun input =>
      if input.status = .pending then { input with status := .cancelled } else input }

def cancelExecution (work : Work ρ) : ServiceReply ρ :=
  if work.execution.status.isTerminal then
    refuse work (serviceError 409 "SOAR_EXECUTION_TERMINAL"
      "Terminal execution cannot be cancelled")
  else ⟨{ work with execution := work.execution.cancel }, none, []⟩

/-- The execution a retry starts from. -/
def SoarExecution.restart (execution : SoarExecution) (key : String) : SoarExecution :=
  { execution with
    retryCount := execution.retryCount + 1
    currentStepKey := some key
    errorCode := none
    errorSummary := none }.setStatus .queued

def retryExecution (context : RunContext) (work : Work ρ) : ServiceReply ρ :=
  if work.execution.status ≠ .failed then
    refuse work (serviceError 409 "SOAR_EXECUTION_CONFLICT"
      "Only failed executions can be retried")
  else if 3 ≤ work.execution.retryCount then
    refuse work (serviceError 409 "SOAR_RETRY_EXHAUSTED" "Execution retry limit is exhausted")
  else match work.execution.lastStep? fun step => step.status == .failed with
    | none => refuse work (serviceError 409 "SOAR_RETRY_EXHAUSTED"
        "Failed step or error code is not safely retryable")
    | some (last, _) =>
      if last.action?.any fun key => key.definition.supportsIdempotency &&
          last.errorCode.any fun code => key.definition.retryableErrorCodes.contains code then
        runExecution env context
          { work with execution := work.execution.restart last.stepKey }
      else refuse work (serviceError 409 "SOAR_RETRY_EXHAUSTED"
        "Failed step or error code is not safely retryable")

/-! ## Due processing -/

/-- The executions `process_due` selects, in the order it takes them. -/
def dueExecutions (executions : Table SoarExecution) (now : Instant) (batchSize : Nat) :
    List Nat :=
  (((executions.rows.filter fun row => row.2.status == .waitingDelay &&
      row.2.nextResumeAt.any (fun due => decide (due ≤ now))).insertionSort
        fun first second => first.2.nextResumeAt.getD 0 ≤ second.2.nextResumeAt.getD 0).take
    batchSize).map Prod.fst

/-- The state of an execution whose delay is over. -/
def finishDelay (execution : SoarExecution) (record : SoarStepExecution) (position : Nat) :
    Except Failure SoarExecution := do
  let source ← sourceStep execution.definition record.stepKey
  let output ← dumps env (.obj [("status", .str "delay_completed"),
    ("summary", .str "Persistent delay became due")]) storageLimit
  let next ← columnText env (Dict.get source "on_success")
  return { execution.recordOutput position .succeeded output next with
    nextResumeAt := none }.setStatus .queued

/-- The body of the loop of `process_due`. -/
def resumeDelayed (context : RunContext) (work : Work ρ) : ServiceReply ρ :=
  match work.execution.lastStep? fun step =>
      work.execution.currentStepKey == some step.stepKey && step.status == .waitingDelay with
  | none => ⟨work, none, []⟩
  | some (record, position) =>
    match finishDelay env work.execution record position with
    | .error failure => refuse work failure
    | .ok execution => runExecution env context { work with execution := execution }

/-- The end of `process_due`. -/
def expireExecutions (executions : Table SoarExecution) (now : Instant) : Table SoarExecution :=
  executions.update fun _ execution =>
    if !execution.status.isTerminal && decide (execution.expiresAt ≤ now) then
      execution.setStatus .expired
    else execution

/-! ## Rollback -/

/-- The rollback record of a step record. -/
def rollbackOf (step : SoarStepExecution) (position actor : Nat) (reason : String) :
    Except Failure SoarRollbackRecord :=
  let compensation := step.action?.bind fun key => key.definition.compensatingActionKey
  match dumps env (getOr step.outputSnapshot.fields "before_state" (.obj []))
      storageLimit with
  | .error failure => .error failure
  | .ok before =>
    .ok { sourceStepExecution := position
          compensatingActionKey := compensation
          status := if compensation.isSome then .waitingApproval else .notSupported
          beforeState := before
          actualAfterState := .obj []
          reason := reason
          requestedByUserId := actor
          approvedByUserId := none
          executedByUserId := none
          errorSummary := none }

/-- The rollback records of the finished step records that have none yet, newest
step first. -/
def newRollbacks (existing : List SoarRollbackRecord) (actor : Nat) (reason : String) :
    List (SoarStepExecution × Nat) → Except Failure (List SoarRollbackRecord)
  | [] => .ok []
  | (step, position) :: rest =>
    let compensation := step.action?.bind fun key => key.definition.compensatingActionKey
    if existing.any fun record => record.sourceStepExecution == position &&
        record.compensatingActionKey == compensation then
      newRollbacks existing actor reason rest
    else match rollbackOf env step position actor reason with
      | .error failure => .error failure
      | .ok record =>
        match newRollbacks existing actor reason rest with
        | .error failure => .error failure
        | .ok records => .ok (record :: records)

/-- The finished step records, newest first. -/
def finishedSteps (execution : SoarExecution) : List (SoarStepExecution × Nat) :=
  (execution.steps.zipIdx.filter fun row =>
    row.1.status == .succeeded || row.1.status == .simulated).reverse

/-- The execution with requested rollback records. -/
def SoarExecution.requestRollback (execution : SoarExecution)
    (records : List SoarRollbackRecord) : SoarExecution :=
  { execution.setStatus .rollbackRequested with rollbacks := execution.rollbacks ++ records }

def requestRollbacks (context : RunContext) (reason : String) (work : Work ρ) :
    ServiceReply ρ :=
  if !work.execution.status.isTerminal || work.execution.status == .rolledBack ||
      work.execution.status == .rollbackFailed then
    refuse work (serviceError 409 "SOAR_EXECUTION_TERMINAL"
      "Rollback requires a completed, failed, or cancelled execution")
  else match newRollbacks env work.execution.rollbacks context.actor reason
      (finishedSteps work.execution) with
    | .error failure => refuse work failure
    | .ok records =>
      if (finishedSteps work.execution).isEmpty then
        refuse work (serviceError 409 "SOAR_ROLLBACK_UNSUPPORTED"
          "Execution has no compensatable step history")
      else
        ⟨{ work with execution := work.execution.requestRollback records }, none, []⟩

/-- Write the status of a rollback record. -/
def SoarExecution.setRollbackStatus (execution : SoarExecution) (position : Nat)
    (status : RollbackStatus) : SoarExecution :=
  execution.modifyRollback position fun record => { record with status := status }

/-- Approve a rollback record. -/
def SoarExecution.grantRollback (execution : SoarExecution) (position actor : Nat) :
    SoarExecution :=
  execution.modifyRollback position fun record =>
    { record with status := .approved, approvedByUserId := some actor }

def approveRollback (context : RunContext) (position : Nat) (work : Work ρ) :
    ServiceReply ρ :=
  match work.execution.rollbacks[position]? with
  | none => refuse work (serviceError 404 "" "Record not found")
  | some record =>
    if record.status ≠ .waitingApproval then
      refuse work (serviceError 409 "SOAR_ROLLBACK_CONFLICT"
        "Rollback is not awaiting approval")
    else if record.requestedByUserId = context.actor ∧
        (work.store.directory.users.rows.any fun row => row.2.status == .active &&
          row.1 != context.actor && row.2.isSystemAdmin) = true then
      refuse work (serviceError 403 "SOAR_APPROVAL_NOT_ELIGIBLE"
        "Rollback requester cannot self-approve while another Administrator is eligible")
    else
      ⟨{ work with execution := work.execution.grantRollback position context.actor },
        none, []⟩

/-- The configuration of a compensation: the state before the action, with the
first field that names no record as its value. -/
def rollbackConfig (record : SoarRollbackRecord) (source : SoarStepExecution) : Dict :=
  let before := record.beforeState.fields
  let value := List.find? (fun field : String × Json =>
    field.1 != "case_id" && field.1 != "vulnerability_id" && field.1 != "record_id") before
  Dict.merge before
    [("record_id", Dict.get source.outputSnapshot.fields "record_id"),
      ("value", (value.map Prod.snd).getD .null),
      ("case_id", Dict.get before "case_id"),
      ("source_id", Dict.get before "vulnerability_id"),
      ("reason", .str record.reason)]

/-- `str(exception)`. -/
def Failure.text : Failure → String
  | .http error => toString error.status ++ ": " ++
      env.repr (.obj [("code", .str error.code), ("message", .str error.message)])
  | .other message => message

/-- The execution after a compensation that raised. -/
def SoarExecution.failRollback (execution : SoarExecution) (position : Nat)
    (summary : String) : SoarExecution :=
  (execution.modifyRollback position fun record =>
    { record with
      status := .failed
      errorSummary := some (Text.truncate 1000 summary) }).setStatus .rollbackFailed

/-- The execution after a compensation that went through. -/
def SoarExecution.finishRollback (execution : SoarExecution) (position : Nat)
    (output : Json) (actor : Nat) : SoarExecution :=
  let finished := execution.modifyRollback position fun record =>
    { record with
      status := .completed
      actualAfterState := output
      executedByUserId := some actor }
  let pending := finished.rollbacks.countP fun record => record.status == .waitingApproval
  finished.setStatus (if pending = 0 then .rolledBack else .rollbackRequested)

/-- The call of the dispatcher for a rollback record, and its output as it is
stored. -/
def compensate (context : RunContext) (work : Work ρ) (record : SoarRollbackRecord)
    (action : ActionDefinition) (source : SoarStepExecution) :
    Except Failure (DispatchOutcome ρ × Json) := do
  let outcome ← dispatch env action work.store
    { now := context.now
      executionId := context.executionId
      execution := work.execution
      step := record.sourceStepExecution
      stepKey := source.stepKey
      config := rollbackConfig record source
      actor := context.actor
      actorName := context.actorName
      sessionId := context.sessionId }
  let output ← dumps env (.obj outcome.output) storageLimit
  return (outcome, output)

/-- The compensation of an approved rollback record. -/
def runCompensation (context : RunContext) (work : Work ρ) (position : Nat)
    (record : SoarRollbackRecord) (action : ActionDefinition) (source : SoarStepExecution) :
    ServiceReply ρ :=
  let calls := [⟨action, context.executionId, work, record.sourceStepExecution, context.actor,
    true⟩]
  match compensate env context work record action source with
  | .error failure =>
    ⟨{ work with execution := work.execution.failRollback position (failure.text env) },
      none, calls⟩
  | .ok (outcome, output) =>
    match outcome.violation with
    -- The constraint fails in the commit after the handler: nothing is saved.
    | some message => ⟨work, some (.other message), calls⟩
    | none =>
      ⟨⟨(work.execution.absorb outcome).finishRollback position output context.actor,
        outcome.store⟩, none, calls⟩

def executeRollback (context : RunContext) (position : Nat) (work : Work ρ) :
    ServiceReply ρ :=
  match work.execution.rollbacks[position]? with
  | none => refuse work (serviceError 404 "" "Record not found")
  | some record =>
    if record.status ≠ .approved then
      refuse work (serviceError 409 "SOAR_ROLLBACK_CONFLICT"
        "Rollback must be approved before execution")
    else match record.compensatingActionKey with
      | none =>
        ⟨{ work with execution := work.execution.setRollbackStatus position .notSupported },
          some (serviceError 409 "SOAR_ROLLBACK_UNSUPPORTED"
            "This action cannot be securely reversed"), []⟩
      | some key =>
        match work.execution.steps[record.sourceStepExecution]? with
        | none => refuse work
            (.other "'NoneType' object has no attribute 'output_snapshot_json'")
        | some source =>
          runCompensation env context work position record key.definition source

def cancelRollback (position : Nat) (work : Work ρ) : ServiceReply ρ :=
  match work.execution.rollbacks[position]? with
  | none => refuse work (serviceError 404 "" "Record not found")
  | some record =>
    if record.status = .proposed ∨ record.status = .waitingApproval ∨
        record.status = .approved then
      ⟨{ work with execution := work.execution.setRollbackStatus position .cancelled },
        none, []⟩
    else refuse work (serviceError 409 "SOAR_ROLLBACK_CONFLICT"
      "Rollback cannot be cancelled")

/-! ## Creation -/

/-- `ExecutionCreate`, with the identifier that is drawn for the execution. -/
structure ExecutionCreate where
  uuid : String
  mode : ExecutionMode
  triggerSourceType : String
  triggerSourceId : Option Nat
  idempotencyKey : String
  inputContext : Dict

/-- Whether the lifecycle of a playbook permits a mode. -/
def permitsMode (lifecycle : LifecycleStatus) (mode : ExecutionMode) : Bool :=
  if mode = .liveLocal then lifecycle == .active
  else lifecycle == .testing || lifecycle == .active

/-- The definition `create_execution` runs: that of the current version, which
must be valid and fit the mode. -/
def runnableDefinition (store : Store ρ) (playbook : SoarPlaybook) (mode : ExecutionMode) :
    Except Failure Json :=
  if !permitsMode playbook.lifecycleStatus mode then
    .error (serviceError 409 "SOAR_PLAYBOOK_NOT_ACTIVE"
      "Playbook lifecycle does not permit this execution mode")
  else match playbook.definition? with
    | none => .error (.other "No row was found when one was required")
    | some definition =>
      match validateDefinition env.toInterpreter definition playbook.triggerMode
          store.policyMaps with
      | .error message => .error (.other message)
      | .ok validation =>
        if !validation.valid then
          .error (serviceError 422 "SOAR_PLAYBOOK_INVALID"
            "Current playbook version is invalid")
        else if mode = .liveLocal ∧ validation.simulationOnlyActions ≠ [] then
          .error (serviceError 422 "SOAR_ACTION_MODE_NOT_ALLOWED"
            "A playbook containing simulation-only actions cannot execute in live-local mode")
        else .ok definition

/-- The row `create_execution` adds. -/
def newExecution (store : Store ρ) (playbookId : Nat) (playbook : SoarPlaybook)
    (payload : ExecutionCreate) (actor : Nat) (now : Instant) (proposed : Bool) :
    Except Failure SoarExecution := do
  let definition ← runnableDefinition env store playbook payload.mode
  let inputContext ← dumps env (.obj payload.inputContext) storageLimit
  let variableState ← dumps env (getOr definition.fields "variables" (.obj []))
    storageLimit
  let start ← columnText env (Dict.get definition.fields "start_step")
  let status : ExecutionStatus := if proposed then .proposed else .queued
  return { uuid := payload.uuid
           playbookId := playbookId
           playbookVersion := playbook.currentVersion
           definition := definition
           triggerSourceType := payload.triggerSourceType
           triggerSourceId := payload.triggerSourceId
           idempotencyKey := payload.idempotencyKey
           mode := payload.mode
           status := status
           statusWrites := [status]
           requestedByUserId := actor
           approvedByUserId := none
           currentStepKey := start
           inputContext := inputContext
           variableState := variableState
           errorCode := none
           errorSummary := none
           recordsCreated := 0
           recordsUpdated := 0
           simulatedActionCount := 0
           retryCount := 0
           expiresAt := now + hours 72
           nextResumeAt := none
           steps := []
           approvals := []
           inputs := []
           rollbacks := [] }

/-! ## The system -/

/-- What a request can do to one execution. -/
inductive Command where
  | resume
  | decide (approval : Nat) (decision : Decision)
  | submitInput (input : Nat) (response : Dict)
  | cancel
  | retry
  | cancelApproval (approval : Nat)
  | cancelInput (input : Nat)
  | requestRollbacks (reason : String)
  | approveRollback (rollback : Nat)
  | executeRollback (rollback : Nat)
  | cancelRollback (rollback : Nat)

/-- The service call behind a command. -/
def Command.call (context : RunContext) (account : UserAccount) :
    Command → Work ρ → ServiceReply ρ
  | .resume => runExecution env context
  | .decide approval decision => decideApproval env context account approval decision
  | .submitInput input response => submitAnalystInput env context input response
  | .cancel => cancelExecution
  | .retry => retryExecution env context
  | .cancelApproval approval => Soar.cancelApproval approval
  | .cancelInput input => Soar.cancelInput input
  | .requestRollbacks reason => Soar.requestRollbacks env context reason
  | .approveRollback rollback => Soar.approveRollback context rollback
  | .executeRollback rollback => Soar.executeRollback env context rollback
  | .cancelRollback rollback => Soar.cancelRollback rollback

/-- A request that writes executions. -/
inductive Operation where
  | create (playbook : Nat) (payload : ExecutionCreate) (proposed : Bool)
  | processDue (batchSize : Nat)
  | act (execution : Nat) (command : Command)

/-- A request with its caller, its session and its time. -/
structure Request where
  now : Instant
  actor : Nat
  sessionId : Option Nat
  operation : Operation

/-- What happens next. -/
inductive Event (ρ : Type) where
  /-- Something else writes the store or the playbooks. -/
  | environment (store : Store ρ) (playbooks : Table SoarPlaybook)
  | request (request : Request)

/-- What a request leaves. -/
structure Reply (ρ : Type) where
  db : Database ρ
  failure : Option Failure
  calls : List (DispatchCall ρ)

/-- The context of a request about one execution. -/
def Request.context (request : Request) (account : UserAccount) (executionId : Nat) :
    RunContext :=
  { now := request.now
    executionId := executionId
    actor := request.actor
    actorName := account.displayName
    sessionId := request.sessionId }

/-- A service call on one execution of the database. -/
def onExecution (db : Database ρ) (executionId : Nat) (call : Work ρ → ServiceReply ρ) : Reply ρ :=
  match db.executions.get? executionId with
  | none => ⟨db, some (serviceError 404 "" "Record not found"), []⟩
  | some execution =>
    let reply := call ⟨execution, db.store⟩
    ⟨{ db with
        executions := db.executions.modify executionId fun _ => reply.work.execution
        store := reply.work.store },
      reply.failure, reply.calls⟩

def createExecution (db : Database ρ) (request : Request) (account : UserAccount)
    (playbookId : Nat) (payload : ExecutionCreate) (proposed : Bool) : Reply ρ :=
  match db.playbooks.get? playbookId with
  | none => ⟨db, some (serviceError 404 "" "Record not found"), []⟩
  | some playbook =>
    if (db.executions.first? fun _ execution => execution.playbookId == playbookId &&
        execution.idempotencyKey == payload.idempotencyKey).isSome then
      ⟨db, none, []⟩
    else match newExecution env db.store playbookId playbook payload request.actor
        request.now proposed with
      | .error failure => ⟨db, some failure, []⟩
      | .ok execution =>
        let key := db.executions.nextKey
        let created := { db with executions := db.executions.insert execution }
        if proposed then ⟨created, none, []⟩
        else onExecution created key (runExecution env (request.context account key))

/-- The loop of `process_due`; an exception ends it. -/
def resumeAll (request : Request) (account : UserAccount) :
    List Nat → Database ρ → List (DispatchCall ρ) → Reply ρ
  | [], db, calls => ⟨db, none, calls⟩
  | key :: rest, db, calls =>
    let reply := onExecution db key
      (resumeDelayed env (request.context account key))
    match reply.failure with
    | some failure => ⟨reply.db, some failure, calls ++ reply.calls⟩
    | none => resumeAll request account rest reply.db (calls ++ reply.calls)

def processDue (db : Database ρ) (request : Request) (account : UserAccount)
    (batchSize : Nat) : Reply ρ :=
  let reply := resumeAll env request account
    (dueExecutions db.executions request.now batchSize) db []
  match reply.failure with
  | some _ => reply
  | none =>
    { reply with
      db := { reply.db with
        executions := expireExecutions reply.db.executions request.now } }

/-- What an event leaves. -/
def perform (db : Database ρ) : Event ρ → Reply ρ
  | .environment store playbooks =>
    ⟨{ db with store := store, playbooks := playbooks }, none, []⟩
  | .request request =>
    match db.store.directory.users.get? request.actor with
    | none => ⟨db, some (serviceError 401 "" "Authentication required"), []⟩
    | some account =>
      match request.operation with
      | .create playbook payload proposed =>
        createExecution env db request account playbook payload proposed
      | .processDue batchSize => processDue env db request account batchSize
      | .act key command =>
        onExecution db key
          (command.call env (request.context account key) account)

/-- The next database. -/
def stepDatabase (db : Database ρ) (event : Event ρ) : Database ρ :=
  (perform env db event).db

/-- The database before the first execution. -/
def Database.initial (store : Store ρ) (playbooks : Table SoarPlaybook) : Database ρ :=
  ⟨Table.empty, playbooks, store⟩

/-! ## A small deployment

Two administrators, one playbook and an empty store: the concrete runs below
start here. Text is ASCII, and no action outside the modelled tables exists. -/

/-- The runtime on ASCII text. -/
def plainPlatform : SoarPlatform Unit where
  foldTable c := [c]
  parseInt _ := none
  repr _ := "object"
  floatText _ := "0.0"
  sha256 text := text
  integerAffinity _ := none
  readContext _ _ _ := none
  performForeign _ _ := .ok ⟨(), some 1, 1, false⟩

/-- An active administrator. -/
def administrator (name : String) : UserAccount where
  username := name
  usernameNormalized := name
  displayName := name
  emailNormalized := none
  passwordHash := ""
  status := .active
  isSystemAdmin := true
  failedLoginCount := 0
  lockedUntil := none
  mustChangePassword := false
  mfaEnabled := false
  lastLoginAt := none
  lastLoginIpHash := none
  disabledAt := none

/-- A store with the users 1 and 2, both administrators, and policies for the
given actions. -/
def plainStore (actions : List ActionKey) : Store Unit where
  directory :=
    { users := (Table.empty.insert (administrator "alice")).insert (administrator "bob")
      permissions := "soar:approve" :: actions.map fun key => key.definition.requiredPermission
      roles := Table.empty
      assignments := [] }
  policies := actions.map fun key => ⟨key, true, false, none⟩
  sessions := Table.empty
  cases := Table.empty
  notes := Table.empty
  actionItems := Table.empty
  evidence := Table.empty
  alerts := Table.empty
  detectionMatches := Table.empty
  indicatorMatches := Table.empty
  vulnerabilities := Table.empty
  remediationPlans := Table.empty
  remediationTasks := Table.empty
  foreign := ()

/-- A step of a playbook. -/
def plainStep (key type_ : String) (position : Int) (fields : Dict) : Json :=
  .obj ([("key", .str key), ("type", .str type_), ("position", .int position)] ++ fields)

/-- A playbook that starts at its step `a`. -/
def plainPlaybook (steps : List Json) : SoarPlaybook :=
  ⟨.active, .manual, 1, [.obj [("start_step", .str "a"), ("steps", .arr steps)]]⟩

/-- The deployment of one playbook with its actions. -/
def deployment (actions : List ActionKey) (steps : List Json) : Database Unit :=
  .initial (plainStore actions) (Table.empty.insert (plainPlaybook steps))

/-- A request of a user at a time. -/
def ask (actor : Nat) (now : Instant) (operation : Operation) : Event Unit :=
  .request ⟨now, actor, none, operation⟩

/-- The creation of an execution of the playbook. -/
def createRun (mode : ExecutionMode) : Operation :=
  .create 1 ⟨"0f8fad5b", mode, "manual", none, "first-run", []⟩ false

end ThreatScope.Soar
