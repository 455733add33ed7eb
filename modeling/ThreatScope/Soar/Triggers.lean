import ThreatScope.Soar.Operations

/-!
# Trigger rules

`evaluate_triggers` goes through the enabled rules of a source type and creates an execution for
each that matches and is not suppressed. Only the evaluation of a condition is guarded: an
exception of `create_execution` leaves the loop, and whatever was committed before it stays.
-/

set_option autoImplicit false

namespace ThreatScope.Soar

open Library AccessControl

variable {ρ : Type} (env : SoarPlatform ρ)

/-! ## Rules and runs -/

/-- A row of `soar_trigger_rules`. -/
structure SoarTriggerRule where
  playbookId : Nat
  sourceType : String
  conditions : Json
  automaticLocal : Bool
  cooldownMinutes : Int
  maximumProposalsPerHour : Int
  enabled : Bool

/-- `SoarTriggerEvaluationRun.status`. -/
inductive EvaluationStatus where
  | running
  | completed
  | completedWithErrors
deriving DecidableEq

/-- A row of `soar_trigger_evaluation_runs`. -/
structure TriggerEvaluationRun where
  sourceType : String
  sourceEntityId : Nat
  status : EvaluationStatus := .running
  rulesEvaluated : Nat := 0
  rulesMatched : Nat := 0
  proposalsCreated : Nat := 0
  automaticExecutionsCreated : Nat := 0
  duplicatesSuppressed : Nat := 0
  cooldownSuppressed : Nat := 0
  errorsCount : Nat := 0
  errorSummary : List String := []
  requestedByUserId : Nat
  completedAt : Option Instant := none

/-- The `trigger_rule_id` and the `created_at` of an execution that a rule has created. -/
structure TriggerOrigin where
  execution : Nat
  ruleId : Nat
  createdAt : Instant

/-- The database with the origins of its executions. -/
structure TriggerState (ρ : Type) where
  db : Database ρ
  origins : List TriggerOrigin

/-- `TriggerEvaluateRequest`, with the identifiers that are drawn for the executions of each
rule. -/
structure TriggerRequest where
  sourceType : String
  sourceEntityId : Nat
  sourceContext : Dict
  uuids : Nat → String

/-- What an evaluation does about a rule. -/
inductive RuleEffect where
  /-- The evaluation of the condition raised. -/
  | failed
  | unmatched
  | duplicate
  | cooling
  /-- An execution was created, as this row. -/
  | created (execution : SoarExecution)

/-! ## One rule -/

/-- `{"trigger": {"source_type": .., "source_id": .., **redact(source_context)}}`. -/
def triggerContext (payload : TriggerRequest) : Dict :=
  [("trigger", .obj (Dict.merge
    [("source_type", .str payload.sourceType), ("source_id", .int payload.sourceEntityId)]
    (redact env.toInterpreter (.obj payload.sourceContext)).fields))]

/-- Whether the condition of a rule matches, `none` when its evaluation raises. -/
def verdict (payload : TriggerRequest) (rule : SoarTriggerRule) : Option Bool :=
  match evaluate env.toInterpreter rule.conditions (triggerContext env payload) with
  | .ok decision => some decision.matched
  | .error _ => none

/-- The idempotency key of the execution of a rule. -/
def triggerFingerprint (payload : TriggerRequest) (ruleId : Nat) : String :=
  env.sha256 ("trigger:" ++ toString ruleId ++ ":" ++ payload.sourceType ++ ":" ++
    toString payload.sourceEntityId)

/-- `timedelta(minutes=count)`. -/
def minutes (count : Int) : Int := count * 60000000

/-- The suppression of a matching rule. -/
def suppression (state : TriggerState ρ) (payload : TriggerRequest) (now : Instant)
    (ruleId : Nat) (rule : SoarTriggerRule) : Option RuleEffect :=
  if (state.db.executions.first? fun _ execution =>
      execution.playbookId == rule.playbookId &&
        execution.idempotencyKey == triggerFingerprint env payload ruleId).isSome then
    some .duplicate
  else if state.origins.any fun origin => origin.ruleId == ruleId &&
      decide (now - minutes rule.cooldownMinutes ≤ origin.createdAt) then
    some .cooling
  else if rule.maximumProposalsPerHour ≤ ((state.origins.filter fun origin =>
      origin.ruleId == ruleId && decide (now - hours 1 ≤ origin.createdAt)).length : Int) then
    some .cooling
  else none

/-- The payload of the execution of a rule. -/
def rulePayload (payload : TriggerRequest) (ruleId : Nat) (rule : SoarTriggerRule) :
    ExecutionCreate where
  uuid := payload.uuids ruleId
  mode := if rule.automaticLocal then .liveLocal else .dryRun
  triggerSourceType := payload.sourceType
  triggerSourceId := some payload.sourceEntityId
  idempotencyKey := triggerFingerprint env payload ruleId
  inputContext := payload.sourceContext

/-- The row `create_execution` commits for a rule, when it commits one. -/
def ruleExecution (db : Database ρ) (request : Request) (payload : TriggerRequest)
    (ruleId : Nat) (rule : SoarTriggerRule) : Except Failure SoarExecution :=
  match db.playbooks.get? rule.playbookId with
  | none => .error (.other "'NoneType' object has no attribute 'id'")
  | some playbook =>
    newExecution env db.store rule.playbookId playbook
      (rulePayload env payload ruleId rule) request.actor request.now (!rule.automaticLocal)

/-- What `create_execution` leaves for a rule whose row it commits. -/
def ruleCreation (db : Database ρ) (request : Request) (account : UserAccount)
    (payload : TriggerRequest) (ruleId : Nat) (rule : SoarTriggerRule) : Reply ρ :=
  createExecution env db request account rule.playbookId
    (rulePayload env payload ruleId rule) (!rule.automaticLocal)

/-! ## The loop -/

/-- The state of an evaluation: the run as the session holds it and as it was last committed. -/
structure Evaluation (ρ : Type) where
  state : TriggerState ρ
  run : TriggerEvaluationRun
  stored : Option TriggerEvaluationRun
  effects : List (Nat × RuleEffect)

/-- What an evaluation leaves. -/
structure TriggerReply (ρ : Type) where
  state : TriggerState ρ
  run : Option TriggerEvaluationRun
  effects : List (Nat × RuleEffect)
  failure : Option Failure

namespace Evaluation

/-- Note what is done about a rule. -/
def note (evaluation : Evaluation ρ) (ruleId : Nat) (effect : RuleEffect) : Evaluation ρ :=
  { evaluation with effects := evaluation.effects ++ [(ruleId, effect)] }

/-- Change the run. -/
def count (evaluation : Evaluation ρ) (change : TriggerEvaluationRun → TriggerEvaluationRun) :
    Evaluation ρ :=
  { evaluation with run := change evaluation.run }

/-- An exception leaves what was committed. -/
def raise (evaluation : Evaluation ρ) (failure : Failure) : TriggerReply ρ :=
  ⟨evaluation.state, evaluation.stored, evaluation.effects, some failure⟩

end Evaluation

/-- The execution of a rule that is due. `create_execution` commits the run with it. -/
def createForRule (request : Request) (account : UserAccount) (payload : TriggerRequest)
    (ruleId : Nat) (rule : SoarTriggerRule) (evaluation : Evaluation ρ) :
    Except (TriggerReply ρ) (Evaluation ρ) :=
  match ruleExecution env evaluation.state.db request payload ruleId rule with
  | .error failure => .error (evaluation.raise failure)
  | .ok execution =>
    let key := evaluation.state.db.executions.nextKey
    let reply := ruleCreation env evaluation.state.db request account payload ruleId
      rule
    let committed : Evaluation ρ :=
      { (evaluation.note ruleId (.created execution)) with
        state := ⟨reply.db,
          evaluation.state.origins ++ [⟨key, ruleId, request.now⟩]⟩
        stored := some evaluation.run }
    match reply.failure with
    | some failure => .error (committed.raise failure)
    | none => .ok (committed.count fun run =>
      if rule.automaticLocal then
        { run with automaticExecutionsCreated := run.automaticExecutionsCreated + 1 }
      else { run with proposalsCreated := run.proposalsCreated + 1 })

/-- The body of the loop. -/
def evaluateRule (request : Request) (account : UserAccount) (payload : TriggerRequest)
    (ruleId : Nat) (rule : SoarTriggerRule) (evaluation : Evaluation ρ) :
    Except (TriggerReply ρ) (Evaluation ρ) :=
  let evaluated := evaluation.count fun run =>
    { run with rulesEvaluated := run.rulesEvaluated + 1 }
  match verdict env payload rule with
  | none => .ok ((evaluated.note ruleId .failed).count fun run =>
    { run with errorsCount := run.errorsCount + 1 })
  | some false => .ok (evaluated.note ruleId .unmatched)
  | some true =>
    let matched := evaluated.count fun run => { run with rulesMatched := run.rulesMatched + 1 }
    match suppression env matched.state payload request.now ruleId rule with
    | some .duplicate => .ok ((matched.note ruleId .duplicate).count fun run =>
      { run with duplicatesSuppressed := run.duplicatesSuppressed + 1 })
    | some effect => .ok ((matched.note ruleId effect).count fun run =>
      { run with cooldownSuppressed := run.cooldownSuppressed + 1 })
    | none => createForRule env request account payload ruleId rule matched

/-- The loop over the rules. -/
def evaluateRules (request : Request) (account : UserAccount) (payload : TriggerRequest) :
    List (Nat × SoarTriggerRule) → Evaluation ρ → Except (TriggerReply ρ) (Evaluation ρ)
  | [], evaluation => .ok evaluation
  | (ruleId, rule) :: rest, evaluation =>
    match evaluateRule env request account payload ruleId rule evaluation with
    | .error reply => .error reply
    | .ok evaluation => evaluateRules request account payload rest evaluation

/-- The end of the run. -/
def TriggerEvaluationRun.finish (run : TriggerEvaluationRun) (now : Instant) :
    TriggerEvaluationRun :=
  { run with
    status := if run.errorsCount = 0 then .completed else .completedWithErrors
    completedAt := some now
    errorSummary := List.replicate (min run.errorsCount 20)
      "A bounded trigger evaluation failed" }

/-- The enabled rules of a source type in the order of their keys. -/
def enabledRules (rules : Table SoarTriggerRule) (sourceType : String) :
    List (Nat × SoarTriggerRule) :=
  rules.rows.filter fun row => row.2.sourceType == sourceType && row.2.enabled

/-- The evaluation before the first rule. -/
def Evaluation.start (request : Request) (payload : TriggerRequest) (state : TriggerState ρ) :
    Evaluation ρ where
  state := state
  run :=
    { sourceType := payload.sourceType
      sourceEntityId := payload.sourceEntityId
      requestedByUserId := request.actor }
  stored := none
  effects := []

/-- The evaluation of the rules that the query finds, of which it takes a hundred. -/
def evaluateListed (request : Request) (account : UserAccount) (payload : TriggerRequest)
    (rules : List (Nat × SoarTriggerRule)) (state : TriggerState ρ) : TriggerReply ρ :=
  match evaluateRules env request account payload (rules.take 100)
      (Evaluation.start request payload state) with
  | .error reply => reply
  | .ok evaluation =>
    ⟨evaluation.state, some (evaluation.run.finish request.now), evaluation.effects, none⟩

def evaluateTriggers (request : Request) (account : UserAccount) (payload : TriggerRequest)
    (rules : Table SoarTriggerRule) (state : TriggerState ρ) : TriggerReply ρ :=
  evaluateListed env request account payload (enabledRules rules payload.sourceType) state

end ThreatScope.Soar
