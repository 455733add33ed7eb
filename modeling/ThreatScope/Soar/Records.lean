import ThreatScope.AccessControl.AuditLog
import ThreatScope.Library.Rows
import ThreatScope.Library.Traversals
import ThreatScope.Soar.Validation

/-!
# Executions and the records they act on

The rows of `soar/models.py` and the local records the dispatcher writes.

An execution carries its step records, approvals, analyst inputs and rollback
records as lists: rows are only ever added, so a row is named by its position
and the last row is the one with the largest id. A playbook version is never
changed, so an execution carries the definition it is pinned to. Columns that
hold JSON are kept as the value they decode to.

Records that only one action touches and no compensation reverts (watchlists,
notifications, connector deliveries and the like) stay abstract: they are the
`foreign` part of the store, and `SoarPlatform.performForeign` is the action.
-/

set_option autoImplicit false

namespace ThreatScope.Soar

open Library AccessControl

/-! ## Local records -/

/-- A row of `soar_action_policies`. -/
structure SoarActionPolicy where
  actionKey : ActionKey
  enabled : Bool
  automaticLocalAllowed : Bool
  approvalRequiredOverride : Option Bool

/-- A row of `incident_cases`. Its status is a text: an action can write any. -/
structure IncidentCase where
  caseKey : String
  title : String
  summary : String
  caseType : String
  severity : String
  priority : String
  confidence : String
  status : String
  assigneeName : Option String
  sourceModuleCount : Nat := 0
  evidenceCount : Nat := 0
  primaryEntityId : Option Nat := none
  tags : List Json
  resolutionSummary : Option String := none
  closedAt : Option Instant := none

/-- A row of `incident_notes`. -/
structure IncidentNote where
  caseId : Nat
  noteText : String
  authorLabel : String

/-- A row of `incident_action_items`. -/
structure IncidentActionItem where
  caseId : Nat
  title : String
  description : String
  status : String
  assigneeName : String

/-- A row of `incident_evidence`. -/
structure IncidentEvidence where
  caseId : Nat
  sourceModule : String
  sourceRecordType : String
  sourceRecordId : Int
  sourceInternalRoute : Option String
  titleSnapshot : String
  evidenceSnapshot : String
  severity : String
  confidence : String
  entityId : Option Nat := none
  correlationMatchId : Option Nat := none
  evidenceFingerprint : String

/-- A row of `soc_alerts`. -/
structure SocAlert where
  status : String
  analystNotes : Option String

/-- A row of `vulnerability_records`. -/
structure VulnerabilityRecord where
  currentOwnerUserId : Option Nat

/-- A row of `remediation_plans`. -/
structure RemediationPlan where
  vulnerabilityId : Nat
  title : String
  objective : String
  status : String
  priority : String
  ownerUserId : Option Nat

/-- A row of `remediation_tasks`. -/
structure RemediationTask where
  planId : Nat
  title : String
  description : String
  status : String
  assigneeUserId : Option Nat

/-- A row of `auth_sessions`. -/
structure AuthSession where
  userId : Nat
  revokedAt : Option Instant
  revokeReason : Option String

/-- Everything outside the tables of the module that an action reads or writes. -/
structure Store (ρ : Type) where
  directory : Directory
  policies : List SoarActionPolicy
  sessions : Table AuthSession
  cases : Table IncidentCase
  notes : Table IncidentNote
  actionItems : Table IncidentActionItem
  evidence : Table IncidentEvidence
  alerts : Table SocAlert
  /-- The `case_id` of the detection matches. -/
  detectionMatches : Table (Option Nat)
  /-- The `case_id` of the indicator matches. -/
  indicatorMatches : Table (Option Nat)
  vulnerabilities : Table VulnerabilityRecord
  remediationPlans : Table RemediationPlan
  remediationTasks : Table RemediationTask
  foreign : ρ

namespace Store

variable {ρ : Type}

/-- The policy of an action. -/
def policy? (store : Store ρ) (key : ActionKey) : Option SoarActionPolicy :=
  store.policies.find? fun policy => policy.actionKey == key

/-- `policy_map` and `automatic_policy_map`. -/
def policyMaps (store : Store ρ) : PolicyMaps where
  enabled := fun key => (store.policy? key).map SoarActionPolicy.enabled
  automatic := fun key => (store.policy? key).any SoarActionPolicy.automaticLocalAllowed

/-- `effective_permissions` of a user of the directory. -/
def permissions (store : Store ρ) (user : Nat) : List String :=
  match store.directory.users.get? user with
  | some account => store.directory.effectivePermissions user account
  | none => []

end Store

/-! ## Executions -/

/-- `SoarExecution.status`. -/
inductive ExecutionStatus where
  | proposed
  | queued
  | running
  | waitingApproval
  | waitingInput
  | waitingDelay
  | completed
  | completedWithWarnings
  | failed
  | cancelled
  | expired
  | rollbackRequested
  | rolledBack
  | rollbackFailed
deriving DecidableEq

/-- `TERMINAL`. -/
def ExecutionStatus.isTerminal : ExecutionStatus → Bool
  | .completed | .completedWithWarnings | .failed | .cancelled | .rolledBack | .rollbackFailed
  | .expired => true
  | _ => false

/-- `SoarStepExecution.status`. -/
inductive StepStatus where
  | running
  | succeeded
  | simulated
  | skipped
  | approved
  | waitingApproval
  | waitingInput
  | waitingDelay
  | failed
deriving DecidableEq

/-- A step record that waits for someone or something. -/
def StepStatus.isWaiting : StepStatus → Bool
  | .waitingApproval | .waitingInput | .waitingDelay => true
  | _ => false

/-- A row of `soar_step_executions`. Records of one execution share a step key
exactly when they share an idempotency key, so the digest is left out. -/
structure SoarStepExecution where
  stepKey : String
  stepName : String
  stepType : Option StepType
  actionKey : Option String
  attemptNumber : Nat
  status : StepStatus
  outputSnapshot : Json
  errorCode : Option String
  errorSummary : Option String

/-- The action of a step record, when the catalog has it. -/
def SoarStepExecution.action? (step : SoarStepExecution) : Option ActionKey :=
  step.actionKey.bind ActionKey.ofText?

/-- `SoarApproval.status`. -/
inductive ApprovalStatus where
  | pending
  | partiallyApproved
  | approved
  | rejected
  | expired
  | cancelled
deriving DecidableEq

/-- An approval that can still be decided. -/
def ApprovalStatus.isOpen : ApprovalStatus → Bool
  | .pending | .partiallyApproved => true
  | _ => false

/-- The two decisions. -/
inductive Decision where
  | approve
  | reject
deriving DecidableEq

/-- A row of `soar_approval_decisions`. -/
structure SoarApprovalDecision where
  decision : Decision
  decidedByUserId : Nat
deriving DecidableEq

/-- A row of `soar_approvals`. -/
structure SoarApproval where
  stepExecution : Nat
  approvalType : String
  requiredPermission : String
  minimumApprovals : Nat
  requesterUserId : Nat
  assignedToUserId : Option Nat
  status : ApprovalStatus
  separationRequired : Bool
  expiresAt : Instant
  decisions : List SoarApprovalDecision

/-- `SoarAnalystInput.status`. -/
inductive InputStatus where
  | pending
  | submitted
  | expired
  | cancelled
deriving DecidableEq

/-- A row of `soar_analyst_inputs`. -/
structure SoarAnalystInput where
  stepExecution : Nat
  schema : Json
  requiredFields : List Json
  requestedFromUserId : Option Nat
  status : InputStatus
  expiresAt : Instant
  response : Json
  submittedByUserId : Option Nat

/-- `SoarRollbackRecord.status`. -/
inductive RollbackStatus where
  | proposed
  | waitingApproval
  | approved
  | running
  | completed
  | failed
  | cancelled
  | notSupported
deriving DecidableEq

/-- A row of `soar_rollback_records`. -/
structure SoarRollbackRecord where
  sourceStepExecution : Nat
  compensatingActionKey : Option ActionKey
  status : RollbackStatus
  beforeState : Json
  actualAfterState : Json
  reason : String
  requestedByUserId : Nat
  approvedByUserId : Option Nat
  executedByUserId : Option Nat
  errorSummary : Option String

/-- A row of `soar_executions` with the rows that belong to it.
`statusWrites` lists the statuses written to the row, oldest first; it is there
to state what happened and no function reads it. -/
structure SoarExecution where
  uuid : String
  playbookId : Nat
  playbookVersion : Nat
  definition : Json
  triggerSourceType : String
  triggerSourceId : Option Nat
  idempotencyKey : String
  mode : ExecutionMode
  status : ExecutionStatus
  statusWrites : List ExecutionStatus
  requestedByUserId : Nat
  approvedByUserId : Option Nat
  currentStepKey : Option String
  inputContext : Json
  variableState : Json
  errorCode : Option String
  errorSummary : Option String
  recordsCreated : Nat
  recordsUpdated : Nat
  simulatedActionCount : Nat
  retryCount : Nat
  expiresAt : Instant
  nextResumeAt : Option Instant
  steps : List SoarStepExecution
  approvals : List SoarApproval
  inputs : List SoarAnalystInput
  rollbacks : List SoarRollbackRecord

namespace SoarExecution

/-- Write the status. -/
def setStatus (execution : SoarExecution) (status : ExecutionStatus) : SoarExecution :=
  { execution with status := status, statusWrites := execution.statusWrites ++ [status] }

/-- Change a step record. -/
def modifyStep (execution : SoarExecution) (position : Nat)
    (change : SoarStepExecution → SoarStepExecution) : SoarExecution :=
  { execution with steps := execution.steps.modify position change }

/-- Change an approval. -/
def modifyApproval (execution : SoarExecution) (position : Nat)
    (change : SoarApproval → SoarApproval) : SoarExecution :=
  { execution with approvals := execution.approvals.modify position change }

/-- Change an analyst input. -/
def modifyInput (execution : SoarExecution) (position : Nat)
    (change : SoarAnalystInput → SoarAnalystInput) : SoarExecution :=
  { execution with inputs := execution.inputs.modify position change }

/-- Change a rollback record. -/
def modifyRollback (execution : SoarExecution) (position : Nat)
    (change : SoarRollbackRecord → SoarRollbackRecord) : SoarExecution :=
  { execution with rollbacks := execution.rollbacks.modify position change }

section Fields

variable (execution : SoarExecution) (status : ExecutionStatus) (position : Nat)

@[simp] theorem steps_setStatus : (execution.setStatus status).steps = execution.steps := rfl

@[simp] theorem approvals_setStatus :
    (execution.setStatus status).approvals = execution.approvals := rfl

@[simp] theorem inputs_setStatus : (execution.setStatus status).inputs = execution.inputs := rfl

@[simp] theorem approvals_modifyStep (change : SoarStepExecution → SoarStepExecution) :
    (execution.modifyStep position change).approvals = execution.approvals := rfl

@[simp] theorem inputs_modifyStep (change : SoarStepExecution → SoarStepExecution) :
    (execution.modifyStep position change).inputs = execution.inputs := rfl

@[simp] theorem steps_modifyInput (change : SoarAnalystInput → SoarAnalystInput) :
    (execution.modifyInput position change).steps = execution.steps := rfl

@[simp] theorem approvals_modifyInput (change : SoarAnalystInput → SoarAnalystInput) :
    (execution.modifyInput position change).approvals = execution.approvals := rfl

@[simp] theorem inputs_modifyInput (change : SoarAnalystInput → SoarAnalystInput) :
    (execution.modifyInput position change).inputs = execution.inputs.modify position change := rfl

end Fields

/-- The last step record that satisfies a test, with its position. -/
def lastStep? (execution : SoarExecution) (test : SoarStepExecution → Bool) :
    Option (SoarStepExecution × Nat) :=
  Rows.last? execution.steps test

/-- The last approval of a step record, with its position. -/
def latestApproval? (execution : SoarExecution) (step : Nat) : Option (SoarApproval × Nat) :=
  Rows.last? execution.approvals fun approval => approval.stepExecution == step

end SoarExecution

/-! ## Playbooks -/

/-- `SoarPlaybook.lifecycle_status`. -/
inductive LifecycleStatus where
  | draft
  | testing
  | active
  | disabled
  | archived
deriving DecidableEq

/-- A row of `soar_playbooks` with its versions, the first of which is version 1. -/
structure SoarPlaybook where
  lifecycleStatus : LifecycleStatus
  triggerMode : TriggerMode
  currentVersion : Nat
  versions : List Json

/-- The definition of the current version. -/
def SoarPlaybook.definition? (playbook : SoarPlaybook) : Option Json :=
  if playbook.currentVersion = 0 then none else playbook.versions[playbook.currentVersion - 1]?

/-- The database. -/
structure Database (ρ : Type) where
  executions : Table SoarExecution
  playbooks : Table SoarPlaybook
  store : Store ρ

/-! ## Failures -/

/-- An `HTTPException` with its status and detail. -/
structure ServiceError where
  status : Nat
  code : String
  message : String
deriving DecidableEq

/-- An exception: one the engine passes on, or one it turns into a failed
execution. -/
inductive Failure where
  | http (error : ServiceError)
  | other (message : String)
deriving DecidableEq

/-- A pending action on records outside the modelled tables. -/
structure ForeignCall where
  action : ActionKey
  execution : SoarExecution
  executionId : Nat
  step : Nat
  config : Dict
  actor : Nat
  now : Instant

/-- What such an action leaves. -/
structure ForeignResult (ρ : Type) where
  foreign : ρ
  recordId : Option Nat
  recordsCreated : Nat
  /-- The action committed the transaction it ran in. -/
  commits : Bool

/-- What the engine takes from the runtime, the database and the modules whose
records stay abstract. -/
structure SoarPlatform (ρ : Type) extends Interpreter where
  /-- `hashlib.sha256(text.encode()).hexdigest()`. -/
  sha256 : String → String
  /-- The integer an `INTEGER` column keeps of a text or a float. -/
  integerAffinity : Json → Option Int
  /-- The redacted columns `_read_context` loads for an action and a record. -/
  readContext : Store ρ → ActionKey → Int → Option Json
  /-- An action on the abstract part of the store. -/
  performForeign : Store ρ → ForeignCall → Except Failure (ForeignResult ρ)

end ThreatScope.Soar
