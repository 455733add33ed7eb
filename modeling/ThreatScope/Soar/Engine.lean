import ThreatScope.Soar.Dispatch

/-!
# The engine

`run_execution` of `soar/service.py`: a loop of at most fifty steps over the
pinned definition of one execution.

A turn of the loop either commits what it did and goes on, commits and returns,
or raises. Whatever raises leaves the state of the last commit, which the
functions below call `saved`; `work` is what the session holds since then. An
`HTTPException` is passed on, every other exception inside the turn becomes a
failed execution.

Each call of the dispatcher is recorded as a `DispatchCall` with the state it
was made in. The record is there to state what was dispatched when; no function
reads it.
-/

set_option autoImplicit false

namespace ThreatScope.Soar

open Library AccessControl

variable {ρ : Type} (env : SoarPlatform ρ)

/-! ## The state of a run -/

/-- An execution and the store, as one session sees them. -/
structure Work (ρ : Type) where
  execution : SoarExecution
  store : Store ρ

/-- Who drives a run, and when. -/
structure RunContext where
  now : Instant
  executionId : Nat
  actor : Nat
  actorName : String
  sessionId : Option Nat

/-- A call of the dispatcher, with the state it was made in. -/
structure DispatchCall (ρ : Type) where
  action : ActionDefinition
  executionId : Nat
  work : Work ρ
  step : Nat
  actor : Nat
  /-- The call is part of a compensation, not of the playbook. -/
  compensation : Bool

/-- What a service call leaves: the committed state, the exception it raised and
the dispatcher calls it made. -/
structure ServiceReply (ρ : Type) where
  work : Work ρ
  failure : Option Failure
  calls : List (DispatchCall ρ)

/-- The reply of a call that raises before it writes anything. -/
def refuse (work : Work ρ) (failure : Failure) : ServiceReply ρ := ⟨work, some failure, []⟩

/-- `execution.status`, written on the execution of a session. -/
def Work.setStatus (work : Work ρ) (status : ExecutionStatus) : Work ρ :=
  { work with execution := work.execution.setStatus status }

/-! ## The definition of an execution -/

/-- A text column bound to a value: numbers are kept as text, a list or a
dictionary cannot be bound. -/
def columnText : Json → Except Failure (Option String)
  | .null => .ok none
  | .bool value => .ok (some (if value then "1" else "0"))
  | .int value => .ok (some (toString value))
  | .float value => .ok (some (env.floatText value))
  | .str value => .ok (some value)
  | .arr _ => .error (.other "Error binding parameter: type 'list' is not supported")
  | .obj _ => .error (.other "Error binding parameter: type 'dict' is not supported")

/-- `step["key"]`, `none` for a key that is not a text. -/
def stepKey (step : Json) : Except Failure (Option String × Dict) :=
  match step with
  | .obj fields =>
    match Dict.find? fields "key" with
    | none => .error (.other "'key'")
    | some (.arr _) => .error (.other "unhashable type: 'list'")
    | some (.obj _) => .error (.other "unhashable type: 'dict'")
    | some key => .ok (key.str?, fields)
  | value => .error (.other ("'" ++ value.typeName ++ "' object is not subscriptable"))

/-- `{step["key"]: step for step in steps}`. -/
def collectSteps : List Json → List (String × Dict) → Except Failure (List (String × Dict))
  | [], byKey => .ok byKey
  | step :: rest, byKey =>
    match stepKey step with
    | .error failure => .error failure
    | .ok (some key, fields) => collectSteps rest (setStep byKey key fields)
    | .ok (none, _) => collectSteps rest byKey

/-- The steps of a definition by key; a later step replaces an earlier one. -/
def stepsByKey (definition : Json) : Except Failure (List (String × Dict)) :=
  match definition with
  | .obj fields =>
    match getOr fields "steps" (.arr []) with
    | .arr steps => collectSteps steps []
    | value => .error (.other ("'" ++ value.typeName ++ "' object is not iterable"))
  | value => .error (.other ("'" ++ value.typeName ++ "' object has no attribute 'get'"))

/-- `next(item for item in steps if item["key"] == key)`. -/
def firstStep (key : String) : List Json → Except Failure Dict
  | [] => .error (.other "StopIteration")
  | step :: rest =>
    match stepKey step with
    | .error failure => .error failure
    | .ok (found, fields) => if found = some key then .ok fields else firstStep key rest

/-- The step of a definition that a record was made for. -/
def sourceStep (definition : Json) (key : String) : Except Failure Dict :=
  match Dict.find? definition.fields "steps" with
  | some (.arr steps) => firstStep key steps
  | _ => .error (.other "'steps'")

/-- `step.get("configuration", {})` when it is a dictionary. -/
def configurationOf (step : Dict) : Dict := (getOr step "configuration" (.obj [])).fields

/-- The type of a step. -/
def typeOf (step : Dict) : Option StepType := StepType.ofJson? (Dict.get step "type")

/-! ## Step records -/

/-- The statuses of a record that is used again. -/
def StepStatus.isReusable : StepStatus → Bool
  | .running | .failed => false
  | _ => true

namespace SoarExecution

/-- The record of a step with the largest attempt number, with its position. -/
def newestAttempt? (execution : SoarExecution) (key : String) :
    Option (SoarStepExecution × Nat) :=
  Rows.largest? execution.steps (fun step => step.stepKey == key) fun step => step.attemptNumber

/-- The number of the attempt a new record starts. -/
def nextAttempt (execution : SoarExecution) (key : String) : Nat :=
  match execution.newestAttempt? key with
  | some (existing, _) => if existing.status = .failed then existing.attemptNumber + 1 else 1
  | none => 1

/-- Add a step record. -/
def addStep (execution : SoarExecution) (step : SoarStepExecution) : SoarExecution :=
  { execution with steps := execution.steps ++ [step] }

/-- Write the status of a step record. -/
def setStepStatus (execution : SoarExecution) (position : Nat) (status : StepStatus) :
    SoarExecution :=
  execution.modifyStep position fun step => { step with status := status }

/-- Write the outcome of a step record and the next step. -/
def recordOutput (execution : SoarExecution) (position : Nat) (status : StepStatus)
    (output : Json) (next : Option String) : SoarExecution :=
  { execution.modifyStep position fun step =>
      { step with status := status, outputSnapshot := output } with currentStepKey := next }

/-- `_fail`: the newest running record and the execution fail. -/
def fail (execution : SoarExecution) (code summary : String) : SoarExecution :=
  let summary := Text.truncate 1000 summary
  let marked := match execution.lastStep? fun step => step.status == .running with
    | some (_, position) => execution.modifyStep position fun step =>
      { step with status := .failed, errorCode := some code, errorSummary := some summary }
    | none => execution
  { marked.setStatus .failed with errorCode := some code, errorSummary := some summary }

/-- Wait for an approval. -/
def askApproval (execution : SoarExecution) (position : Nat) (approval : SoarApproval) :
    SoarExecution :=
  { execution.setStepStatus position .waitingApproval with
    approvals := execution.approvals ++ [approval] }.setStatus .waitingApproval

/-- Wait for an analyst, with the inputs that are added. -/
def askInput (execution : SoarExecution) (position : Nat) (added : List SoarAnalystInput) :
    SoarExecution :=
  { execution.setStepStatus position .waitingInput with
    inputs := execution.inputs ++ added }.setStatus .waitingInput

/-- Wait for a delay. -/
def startDelay (execution : SoarExecution) (position : Nat) (due : Instant) : SoarExecution :=
  { execution.setStepStatus position .waitingDelay with
    nextResumeAt := some due }.setStatus .waitingDelay

end SoarExecution

/-- `fields[key]`. -/
def requireField (fields : Dict) (key : String) : Except Failure Json :=
  match Dict.find? fields key with
  | some value => .ok value
  | none => .error (.other ("'" ++ key ++ "'"))

/-- The record `_create_step` adds for a step. -/
def newStep (execution : SoarExecution) (key : String) (step : Dict) :
    Except Failure SoarStepExecution := do
  let stepType ← requireField step "type"
  let _ ← dumps env (getOr step "configuration" (.obj [])) storageLimit
  let _ ← columnText env stepType
  let actionKey ← columnText env (Dict.get step "action_key")
  if execution.steps.any fun row => row.stepKey == key &&
      row.attemptNumber == execution.nextAttempt key then
    .error (.other "UNIQUE constraint failed")
  else
    return { stepKey := key
             stepName := textOf env (getOr step "name" (.str key)) 200
             stepType := typeOf step
             actionKey := actionKey
             attemptNumber := execution.nextAttempt key
             status := .running
             outputSnapshot := .obj []
             errorCode := none
             errorSummary := none }

/-- `_create_step`: the record to work on, with its position. -/
def createStep (execution : SoarExecution) (key : String) (step : Dict) :
    Except Failure (SoarExecution × SoarStepExecution × Nat) :=
  match (execution.newestAttempt? key).filter fun row => row.1.status.isReusable with
  | some (existing, position) => .ok (execution, existing, position)
  | none =>
    match newStep env execution key step with
    | .error failure => .error failure
    | .ok record => .ok (execution.addStep record, record, execution.steps.length)

/-- `_fail` on the state of a session. -/
def failExecution (work : Work ρ) (code summary : String) : Work ρ :=
  { work with execution := work.execution.fail code summary }

/-! ## Waiting for an approval -/

/-- `min(high, max(low, int(config.get(key, default))))`. -/
def boundedInt (config : Dict) (key : String) (default low high : Int) : Except Failure Int :=
  match env.int (getOr config key (.int default)) with
  | some number => .ok (min high (max low number))
  | none => .error (.other "int() argument is not a number")

/-- `timedelta(hours=count)`. -/
def hours (count : Int) : Int := count * 3600000000

/-- Whether an action is sensitive; an approval step has no action. -/
def isSensitiveAction (action : Option ActionDefinition) : Bool :=
  action.any fun action => action.safetyClassification == .sensitiveLocal

/-- The approval `_pending_approval` adds. -/
def newApproval (context : RunContext) (store : Store ρ) (position : Nat)
    (action : Option ActionDefinition) (config : Dict) (approvalType : String) :
    Except Failure SoarApproval := do
  let minimum ← boundedInt env config "minimum_approvals" 1 1 5
  let lifetime ← boundedInt env config "expires_hours" 24 1 72
  let assigned ← flushedReference env store (Dict.get config "assigned_to_user_id")
  return { stepExecution := position
           approvalType := approvalType
           requiredPermission :=
             if isSensitiveAction action then "soar:sensitive_actions" else "soar:approve"
           minimumApprovals := minimum.toNat
           requesterUserId := context.actor
           assignedToUserId := assigned
           status := .pending
           separationRequired := isSensitiveAction action ||
             (getOr config "separation_required" (.bool false)).truthy
           expiresAt := context.now + hours lifetime
           decisions := [] }

/-- `_pending_approval`: the approval of a step record and the state with it. -/
def pendingApproval (context : RunContext) (work : Work ρ) (position : Nat)
    (action : Option ActionDefinition) (config : Dict) (approvalType : String) :
    Except Failure (Work ρ × SoarApproval) :=
  match work.execution.latestApproval? position with
  | some (existing, _) => .ok (work, existing)
  | none =>
    match newApproval env context work.store position action config approvalType with
    | .error failure => .error failure
    | .ok approval =>
      .ok ({ work with execution := work.execution.askApproval position approval }, approval)

/-! ## Waiting for an analyst or a delay -/

/-- `[f.get("name") for f in fields if f.get("required")]`. -/
def requiredNames : List Json → Except Failure (List Json)
  | [] => .ok []
  | .obj field :: rest =>
    match requiredNames rest with
    | .error failure => .error failure
    | .ok names =>
      .ok (if (Dict.get field "required").truthy then Dict.get field "name" :: names
        else names)
  | value :: _ =>
    .error (.other ("'" ++ value.typeName ++ "' object has no attribute 'get'"))

/-- The analyst input a step asks for. -/
def newInput (context : RunContext) (store : Store ρ) (position : Nat) (config : Dict) :
    Except Failure SoarAnalystInput := do
  let fields := getOr config "fields" (.arr [])
  let schema ← dumps env fields storageLimit
  let names ← requiredNames fields.items
  let required ← dumps env (.arr names) storageLimit
  let lifetime ← boundedInt env config "expires_hours" 24 1 72
  let requested ← flushedReference env store (Dict.get config "requested_from_user_id")
  return { stepExecution := position
           schema := schema
           requiredFields := required.items
           requestedFromUserId := requested
           status := .pending
           expiresAt := context.now + hours lifetime
           response := .obj []
           submittedByUserId := none }

/-- The `analyst_input` branch. -/
def awaitInput (context : RunContext) (work : Work ρ) (position : Nat) (config : Dict) :
    Except Failure (Work ρ) :=
  match work.execution.inputs.find? fun input => input.stepExecution == position with
  | some _ => .ok { work with execution := work.execution.askInput position [] }
  | none =>
    match newInput env context work.store position config with
    | .error failure => .error failure
    | .ok input => .ok { work with execution := work.execution.askInput position [input] }

/-- The `delay` branch. -/
def awaitDelay (context : RunContext) (work : Work ρ) (position : Nat) (config : Dict) :
    Except Failure (Work ρ) :=
  match env.int (getOr config "delay_seconds" (.int 1)) with
  | none => .error (.other "int() argument is not a number")
  | some seconds =>
    .ok { work with
      execution := work.execution.startDelay position (context.now + seconds * 1000000) }

/-! ## One step -/

/-- What a step comes down to before anything is dispatched. -/
inductive StepPlan (ρ : Type) where
  /-- Commit and return. -/
  | halt (work : Work ρ)
  /-- `return _fail(..)`. -/
  | fail (code summary : String)
  /-- Record an output without a dispatch. -/
  | record (output : Dict) (status : StepStatus) (route : Json)
  /-- Dispatch an action, then record its output. -/
  | dispatch (action : ActionDefinition) (config : Dict) (route : Json)

/-- `execution.mode` as text. -/
def ExecutionMode.text : ExecutionMode → String
  | .dryRun => "dry_run"
  | .simulation => "simulation"
  | .liveLocal => "live_local"

/-- The outputs of the finished steps by step key. -/
def stepOutputs (execution : SoarExecution) : Dict :=
  (execution.steps.filter fun step => step.status == .succeeded || step.status == .simulated ||
      step.status == .skipped).foldl
    (fun outputs step =>
      Dict.set outputs step.stepKey (.obj [("output", step.outputSnapshot)])) []

/-- `_context`. -/
def conditionContext (executionId : Nat) (execution : SoarExecution) : Except Failure Dict :=
  match execution.variableState with
  | .obj values =>
    .ok (Dict.merge
      [("trigger", .obj (Dict.merge
          [("source_type", .str execution.triggerSourceType),
            ("source_id", jsonKey execution.triggerSourceId)]
          execution.inputContext.fields)),
        ("execution", .obj [("id", .int executionId), ("uuid", .str execution.uuid),
          ("mode", .str execution.mode.text)]),
        ("playbook", .obj [("id", .int execution.playbookId),
          ("version", .int execution.playbookVersion)]),
        ("steps", .obj (stepOutputs execution)),
        ("analyst_input", .obj []),
        ("constants", getOr execution.definition.fields "constants" (.obj []))]
      values)
  | value => .error (.other ("'" ++ value.typeName ++ "' object is not a mapping"))

/-- The `condition` branch. -/
def planCondition (context : RunContext) (work : Work ρ) (step : Dict) :
    Except Failure (StepPlan ρ) :=
  match conditionContext context.executionId work.execution with
  | .error failure => .error failure
  | .ok values =>
    match evaluate env.toInterpreter (Dict.get step "condition") values with
    | .error message => .error (.other message)
    | .ok decision =>
      .ok (.record
        [("status", .str "succeeded"), ("matched", .bool decision.matched),
          ("summary", .str decision.explanation)]
        .succeeded
        (Dict.get step (if decision.matched then "on_success" else "on_failure")))

/-- The `end` branch. -/
def planEnd (work : Work ρ) (position : Nat) (config : Dict) : Except Failure (StepPlan ρ) :=
  if (Dict.get config "outcome").isStr "failed" then
    .ok (.fail "SOAR_STEP_FAILED" "Workflow reached its failure terminal")
  else
    match dumps env (.obj [("status", .str "completed"),
        ("summary", .str "Terminal step reached")]) storageLimit with
    | .error failure => .error failure
    | .ok output =>
      .ok (.halt { work with
        execution := (work.execution.recordOutput position .succeeded output none).setStatus
          .completed })

/-- The kind of approval the action branch asks for. -/
def ActionDefinition.approvalType (action : ActionDefinition) : Option String :=
  if action.safetyClassification = .sensitiveLocal then some "sensitive_action"
  else if action.simulationOnly then some "containment_simulation"
  else none

/-- The checks of the action branch before its approval. -/
def actionRefusal (context : RunContext) (work : Work ρ) (action : ActionDefinition) :
    Option (String × String) :=
  if (work.store.policy? action.actionKey).all fun policy => !policy.enabled then
    some ("SOAR_ACTION_DISABLED", "Action is disabled by policy")
  else if !action.allowedExecutionModes.contains work.execution.mode then
    some ("SOAR_ACTION_MODE_NOT_ALLOWED", "Action cannot run in this execution mode")
  else if !(work.store.permissions context.actor).contains action.requiredPermission then
    some ("SOAR_PERMISSION_DENIED", "Dispatch-time action permission denied")
  else none

/-- The branch of every other step type. -/
def planAction (context : RunContext) (work : Work ρ) (position : Nat) (step config : Dict) :
    Except Failure (StepPlan ρ) :=
  match catalogEntry (Dict.get step "action_key") with
  | .error message => .error (.other message)
  | .ok none => .ok (.fail "SOAR_ACTION_UNKNOWN" "Action is not in the server-owned catalog")
  | .ok (some key) =>
    let action := key.definition
    let route := Dict.get step "on_success"
    match actionRefusal context work action with
    | some (code, summary) => .ok (.fail code summary)
    | none =>
      match action.approvalType with
      | none => .ok (.dispatch action config route)
      | some approvalType =>
        match pendingApproval env context work position (some action) config
            approvalType with
        | .error failure => .error failure
        | .ok (work, approval) =>
          if approval.status = .approved then .ok (.dispatch action config route)
          else .ok (.halt work)

/-- The branches of a turn, on the record of the step. -/
def planStep (context : RunContext) (work : Work ρ) (position : Nat) (step : Dict) :
    Except Failure (StepPlan ρ) :=
  match requireField step "type" with
  | .error failure => .error failure
  | .ok typeValue =>
    let config := configurationOf step
    if work.execution.mode = .dryRun ∧ typeOf step ≠ some .end_ then
      .ok (.record
        [("status", .str "intended"),
          ("summary", .str ("Dry run recorded intended " ++ env.str typeValue ++
            " step; no mutation was performed."))]
        .skipped (Dict.get step "on_success"))
    else match typeOf step with
      | some .end_ => planEnd env work position config
      | some .condition => planCondition env context work step
      | some .approval =>
        match pendingApproval env context work position none config
            (env.str (getOr config "approval_type" (.str "step"))) with
        | .error failure => .error failure
        | .ok (work, _) => .ok (.halt work)
      | some .analystInput =>
        match awaitInput env context work position config with
        | .error failure => .error failure
        | .ok work => .ok (.halt work)
      | some .delay =>
        match awaitDelay env context work position config with
        | .error failure => .error failure
        | .ok work => .ok (.halt work)
      | _ => planAction env context work position step config

/-! ## The loop -/

/-- What a turn of the loop comes to. -/
inductive Turn (ρ : Type) where
  /-- `run_execution` returns or raises. -/
  | stop (reply : ServiceReply ρ)
  /-- The turn is committed and the loop goes on. -/
  | next (work : Work ρ) (calls : List (DispatchCall ρ))

/-- An exception inside a turn: everything since the last commit is lost. -/
def abortTurn (saved : Work ρ) (failure : Failure) (calls : List (DispatchCall ρ)) : Turn ρ :=
  match failure with
  | .http error => .stop ⟨saved, some (.http error), calls⟩
  | .other message =>
    .stop ⟨failExecution saved "SOAR_STEP_FAILED" (Text.truncate 500 message), none, calls⟩

/-- The end of a turn: the record gets its output, the execution its next step. -/
def recordStep (saved work : Work ρ) (position : Nat) (output : Dict) (status : StepStatus)
    (route : Json) (violation : Option String) (calls : List (DispatchCall ρ)) : Turn ρ :=
  match dumps env (.obj output) storageLimit with
  | .error failure => abortTurn saved failure calls
  | .ok stored =>
    match columnText env route, violation with
    | .error failure, _ => abortTurn saved failure calls
    | .ok _, some message => abortTurn saved (.other message) calls
    | .ok key, none =>
      let work := { work with
        execution := work.execution.recordOutput position status stored key }
      if route.truthy then .next work calls
      else .stop ⟨work.setStatus .completedWithWarnings, none, calls⟩

/-- The dispatch of an action and the end of its turn. -/
def dispatchStep (context : RunContext) (saved work : Work ρ) (position : Nat) (key : String)
    (action : ActionDefinition) (config : Dict) (route : Json) : Turn ρ :=
  let calls := [⟨action, context.executionId, work, position, context.actor, false⟩]
  match dispatch env action work.store
      { now := context.now
        executionId := context.executionId
        execution := work.execution
        step := position
        stepKey := key
        config := config
        actor := context.actor
        actorName := context.actorName
        sessionId := context.sessionId } with
  | .error failure => abortTurn saved failure calls
  | .ok outcome =>
    let work : Work ρ := ⟨work.execution.absorb outcome, outcome.store⟩
    -- An action that commits saves the record of its step with everything else.
    let saved := if outcome.commits then work else saved
    recordStep env saved work position outcome.output
      (if action.simulationOnly then .simulated else .succeeded) route outcome.violation calls

/-- The turn of a step whose record is at hand. -/
def takeStep (context : RunContext) (saved work : Work ρ) (position : Nat) (key : String)
    (step : Dict) : Turn ρ :=
  match planStep env context work position step with
  | .error failure => abortTurn saved failure []
  | .ok (.halt work) => .stop ⟨work, none, []⟩
  | .ok (.fail code summary) => .stop ⟨failExecution work code summary, none, []⟩
  | .ok (.record output status route) =>
    recordStep env saved work position output status route none []
  | .ok (.dispatch action config route) =>
    dispatchStep env context saved work position key action config route

/-- One turn of the loop. -/
def runTurn (context : RunContext) (byKey : List (String × Dict)) (saved work : Work ρ)
    (key : String) : Turn ρ :=
  match stepOf byKey key with
  | none =>
    .stop ⟨failExecution work "SOAR_PLAYBOOK_INVALID" "Current step is unavailable", none, []⟩
  | some step =>
    match createStep env work.execution key step with
    | .error failure => .stop (refuse saved failure)
    | .ok (execution, record, position) =>
      let work := { work with execution := execution }
      if record.status.isWaiting then .stop ⟨work, none, []⟩
      else takeStep env context saved work position key step

/-- The loop with the turns it may still take. -/
def runLoop (context : RunContext) (byKey : List (String × Dict)) :
    Nat → Work ρ → Work ρ → List (DispatchCall ρ) → ServiceReply ρ
  | 0, _, work, calls =>
    ⟨failExecution work "SOAR_PLAYBOOK_INVALID"
      "Execution exceeded the bounded 50-step dispatch limit", none, calls⟩
  | turns + 1, saved, work, calls =>
    match work.execution.currentStepKey.filter (· ≠ "") with
    | none =>
      ⟨failExecution work "SOAR_PLAYBOOK_INVALID"
        "Execution exceeded the bounded 50-step dispatch limit", none, calls⟩
    | some key =>
      match runTurn env context byKey saved work key with
      | .stop reply => { reply with calls := calls ++ reply.calls }
      | .next work more => runLoop context byKey turns work work (calls ++ more)

def runExecution (context : RunContext) (work : Work ρ) : ServiceReply ρ :=
  if work.execution.status.isTerminal then
    refuse work (serviceError 409 "SOAR_EXECUTION_TERMINAL" "Terminal execution cannot resume")
  else if work.execution.expiresAt ≤ context.now then ⟨work.setStatus .expired, none, []⟩
  else match stepsByKey work.execution.definition with
    | .error failure => refuse work failure
    | .ok byKey => runLoop env context byKey 50 work (work.setStatus .running) []

end ThreatScope.Soar
