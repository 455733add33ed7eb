import ThreatScope.Soar.Catalog
import ThreatScope.Soar.Conditions

/-!
# Playbook validation

`validate_definition` of `soar/validation.py` on any JSON value. The result
lists every error with its code, field path, step key and message, in the order
in which the source appends them; an `Except` error is an exception the source
does not catch.

The checks follow the source: forbidden fields, the root, the steps one by one
(`checkStep`), the routes, reachability from the start step and the search for
a cycle.
-/

set_option autoImplicit false

namespace ThreatScope.Soar

open Library

/-- An entry of `errors` or `warnings`. -/
structure ValidationIssue where
  code : String
  path : Option String
  stepKey : Option String
  message : String
deriving DecidableEq

/-- An issue with a path and no step key. -/
def issueAt (path message : String) : ValidationIssue :=
  ⟨"SOAR_PLAYBOOK_INVALID", some path, none, message⟩

/-- An issue about a field of a step. -/
def stepIssue (path key message : String) : ValidationIssue :=
  ⟨"SOAR_PLAYBOOK_INVALID", some path, some key, message⟩

/-- An issue about a step, without a path. -/
def keyIssue (key message : String) : ValidationIssue :=
  ⟨"SOAR_PLAYBOOK_INVALID", none, some key, message⟩

/-- `STEP_TYPES`. -/
inductive StepType where
  | action
  | approval
  | condition
  | analystInput
  | delay
  | notification
  | caseWorkflow
  | evidenceSnapshot
  | end_
deriving DecidableEq

/-- The step type a text names. -/
def StepType.ofText? : String → Option StepType
  | "action" => some .action
  | "approval" => some .approval
  | "condition" => some .condition
  | "analyst_input" => some .analystInput
  | "delay" => some .delay
  | "notification" => some .notification
  | "case_workflow" => some .caseWorkflow
  | "evidence_snapshot" => some .evidenceSnapshot
  | "end" => some .end_
  | _ => none

/-- The step type of a JSON value. -/
def StepType.ofJson? (value : Json) : Option StepType := value.str?.bind StepType.ofText?

/-- `playbook.trigger_mode`. -/
inductive TriggerMode where
  | manual
  | proposalOnly
  | automaticLocal
deriving DecidableEq

def forbiddenKeys : List String :=
  ["command", "shell", "url", "webhook", "callable", "module", "python", "javascript", "sql",
    "query", "executable", "script", "headers", "http_method"]

/-- `KEY_RE.fullmatch(text)`. -/
def matchesStepKey (text : String) : Bool :=
  let letter := fun c : Char => ('a' ≤ c && c ≤ 'z') || ('A' ≤ c && c ≤ 'Z')
  match text.toList with
  | [] => false
  | first :: rest => letter first && rest.length ≤ 99 &&
      rest.all fun c => letter c || ('0' ≤ c && c ≤ '9') || c == '_' || c == '-'

/-- The keys of a dictionary can be looked up by null, a number or a text; a list
or a dictionary raises. -/
def hashable (value : Json) : Except String Unit :=
  match value with
  | .arr _ => .error "unhashable type: 'list'"
  | .obj _ => .error "unhashable type: 'dict'"
  | _ => .ok ()

/-- An integer as `isinstance(value, int)` sees it, truth values included. -/
def integer? : Json → Option Int
  | .bool value => some (if value then 1 else 0)
  | .int value => some value
  | _ => none

/-- `fields.get(key, default)`. -/
def getOr (fields : Dict) (key : String) (default : Json) : Json :=
  (Dict.find? fields key).getD default

/-! ## Forbidden fields -/

/-- `_walk_forbidden` with the levels that remain. -/
def walkForbidden (py : Interpreter) : Nat → String → Json → List ValidationIssue
  | 0, path, _ => [issueAt path "JSON nesting exceeds safe depth"]
  | levels + 1, path, .obj fields =>
    fields.flatMap fun (key, item) =>
      let normalized := Text.replaceChar '-' (some '_') (py.casefold key)
      let place := path ++ "." ++ key
      (if forbiddenKeys.contains normalized || Text.startsWith normalized "__" then
        [issueAt place
          "Executable, network, SQL, or internal-object fields are prohibited"]
      else []) ++ walkForbidden py levels place item
  | levels + 1, path, .arr items =>
    items.zipIdx.flatMap fun (item, index) =>
      walkForbidden py levels (path ++ "[" ++ toString index ++ "]") item
  | _ + 1, path, .str text =>
    if Text.startsWith text "$\x7b" && Text.endsWith text "\x7d" &&
        !validateReference (.str text) then
      [issueAt path "Variable reference is not in an allowlisted context"]
    else []
  | _ + 1, _, _ => []

/-! ## Conditions -/

/-- The errors of several conditions on one count. -/
def conditionErrorsEach (one : String → Json → Nat → Except String (List ValidationIssue × Nat))
    (path : String) : List (Json × Nat) → Nat → Except String (List ValidationIssue × Nat)
  | [], count => .ok ([], count)
  | (child, index) :: rest, count =>
    match one (path ++ ".conditions[" ++ toString index ++ "]") child count with
    | .error message => .error message
    | .ok (errors, count) =>
      match conditionErrorsEach one path rest count with
      | .error message => .error message
      | .ok (later, count) => .ok (errors ++ later, count)

/-- `_condition_errors` with the levels that remain. -/
def conditionErrors : Nat → String → Json → Nat → Except String (List ValidationIssue × Nat)
  | 0, path, _, count => .ok ([issueAt path "Condition depth exceeds 8"], count)
  | levels + 1, path, node, count =>
    match conditionOperator node with
    | .error message => .error message
    | .ok none => .ok ([issueAt path "Condition operator is invalid"], count)
    | .ok (some (fields, text, operator)) =>
      if operator = .all ∨ operator = .any then
        match Dict.get fields "conditions" with
        | .arr items =>
          if 1 ≤ items.length ∧ items.length ≤ 20 then
            conditionErrorsEach (conditionErrors levels) path items.zipIdx count
          else .ok ([issueAt path (text ++ " requires 1 to 20 conditions")], count)
        | _ => .ok ([issueAt path (text ++ " requires 1 to 20 conditions")], count)
      else if operator = .not then
        conditionErrors levels (path ++ ".condition") (Dict.get fields "condition") count
      else
        let tooMany := if 100 < count + 1 then
            [issueAt path "Condition comparison count exceeds 100"]
          else []
        let sides := ["left", "right"].flatMap fun side =>
          match Dict.find? fields side with
          | some value => if validateReference value then []
              else [issueAt (path ++ "." ++ side) "Variable reference is not allowed"]
          | none => []
        .ok (tooMany ++ sides, count + 1)

/-! ## One step -/

/-- What the loop over the steps accumulates. -/
structure StepScan where
  errors : List ValidationIssue := []
  warnings : List ValidationIssue := []
  byKey : List (String × Dict) := []
  positions : List Json := []
  simulationActions : List ActionKey := []
  approvals : List (String × Int) := []
  automaticOk : Bool := true
  branches : Nat := 0
  evidenceCount : Nat := 0

namespace StepScan

/-- Append errors. -/
def report (scan : StepScan) (errors : List ValidationIssue) : StepScan :=
  { scan with errors := scan.errors ++ errors }

/-- Append warnings. -/
def warn (scan : StepScan) (warnings : List ValidationIssue) : StepScan :=
  { scan with warnings := scan.warnings ++ warnings }

end StepScan

/-- `by_key.get(key)`. -/
def stepOf (byKey : List (String × Dict)) (key : String) : Option Dict :=
  (byKey.find? fun entry => entry.1 == key).map Prod.snd

/-- `by_key[key] = step`: a key keeps its place, its step is the last one. -/
def setStep (byKey : List (String × Dict)) (key : String) (step : Dict) : List (String × Dict) :=
  if byKey.any fun entry => entry.1 == key then
    byKey.map fun entry => if entry.1 == key then (key, step) else entry
  else byKey ++ [(key, step)]

/-- The issue of an integer field outside its bounds. -/
def boundIssue (path key field : String) (value : Json) (low high : Int) (message : String) :
    List ValidationIssue :=
  match integer? value with
  | some number => if low ≤ number ∧ number ≤ high then []
      else [stepIssue (path ++ "." ++ field) key message]
  | none => [stepIssue (path ++ "." ++ field) key message]

/-- The check of `delay_seconds`. -/
def delayIssues (path key : String) (step : Dict) : List ValidationIssue :=
  let delay := match getOr step "configuration" (.obj []) with
    | .obj fields => Dict.get fields "delay_seconds"
    | _ => .null
  boundIssue path key "configuration.delay_seconds" delay 1 86400
    "Delay must be 1 second to 24 hours"

/-- The types an analyst-input field may have. -/
def analystFieldTypes : List String :=
  ["short_text", "long_text", "select", "multi_select", "boolean", "integer", "date", "datetime"]

/-- The check of one analyst-input field. -/
def analystFieldIssues (py : Interpreter) (path key : String) (field : Json) :
    Except String (List ValidationIssue) :=
  match field with
  | .obj fields =>
    let name := py.casefold (py.str (getOr fields "name" (.str "")))
    if !analystFieldTypes.contains (py.str (getOr fields "type" (.str ""))) ||
        ["password", "secret", "token", "mfa", "recovery", "key"].any (Text.contains name) then
      .ok [stepIssue (path ++ ".configuration.fields") key
        "Secret or unsupported analyst-input fields are prohibited"]
    else .ok []
  | value => .error ("'" ++ value.typeName ++ "' object has no attribute 'get'")

/-- Concatenate the results of a check that may raise. -/
def checkEach {α : Type} (check : α → Except String (List ValidationIssue)) :
    List α → Except String (List ValidationIssue)
  | [] => .ok []
  | item :: rest =>
    match check item with
    | .error message => .error message
    | .ok issues =>
      match checkEach check rest with
      | .error message => .error message
      | .ok later => .ok (issues ++ later)

/-- The check of the fields of an analyst-input step. -/
def analystInputIssues (py : Interpreter) (path key : String) (step : Dict) :
    Except String (List ValidationIssue) :=
  let fields := match getOr step "configuration" (.obj []) with
    | .obj configuration => getOr configuration "fields" (.arr [])
    | _ => .arr []
  let count := match fields with
    | .arr items => if 20 < items.length then
          [stepIssue (path ++ ".configuration.fields") key
            "Analyst input supports at most 20 fields"]
        else []
    | _ => [stepIssue (path ++ ".configuration.fields") key
        "Analyst input supports at most 20 fields"]
  match checkEach (analystFieldIssues py path key) fields.items with
  | .error message => .error message
  | .ok issues => .ok (count ++ issues)

/-- `max(1, min(5, int(step.get("configuration", {}).get("minimum_approvals", 1))))`. -/
def stepMinimumApprovals (py : Interpreter) (step : Dict) : Except String Int :=
  match getOr step "configuration" (.obj []) with
  | .obj configuration =>
    match py.int (getOr configuration "minimum_approvals" (.int 1)) with
    | some number => .ok (max 1 (min 5 number))
    | none => .error "int() argument is not a number"
  | value => .error ("'" ++ value.typeName ++ "' object has no attribute 'get'")

/-- `any(item.get("type") == "approval" for item in steps)`. -/
def hasApprovalStep : List Json → Except String Bool
  | [] => .ok false
  | .obj fields :: rest =>
    if (Dict.get fields "type").isStr "approval" then .ok true else hasApprovalStep rest
  | value :: _ => .error ("'" ++ value.typeName ++ "' object has no attribute 'get'")

/-- The policies as `policy_map` and `automatic_policy_map` give them. -/
structure PolicyMaps where
  enabled : ActionKey → Option Bool
  automatic : ActionKey → Bool

/-- The checks of the action of a step. -/
def checkAction (steps : List Json) (triggerMode : TriggerMode) (policies : PolicyMaps)
    (path key : String) (action : ActionDefinition) (retries : Json) (scan : StepScan) :
    Except String StepScan :=
  let scan := scan.warn (if policies.enabled action.actionKey = some false then
      [⟨"SOAR_ACTION_DISABLED", none, some key, "Action is disabled by policy"⟩]
    else [])
  let scan := if action.simulationOnly then
      { scan with simulationActions := scan.simulationActions ++ [action.actionKey] }
    else scan
  let sensitive := action.safetyClassification == .sensitiveLocal
  match (if sensitive then hasApprovalStep steps else .ok true) with
  | .error message => .error message
  | .ok approved =>
    let scan := scan.report (if approved then []
      else [⟨"SOAR_APPROVAL_REQUIRED", some path, some key,
        "Sensitive actions require an approval step"⟩])
    let automatic := triggerMode == .automaticLocal && (!action.automaticLocalEligible ||
      (action.safetyClassification == .harmlessLocal && !policies.automatic action.actionKey))
    let scan := if automatic then
        { scan.report [⟨"SOAR_ACTION_POLICY_VIOLATION", some path, some key,
            "Action is not explicitly policy-enabled for automatic-local execution"⟩] with
          automaticOk := false }
      else scan
    .ok (scan.warn ((if retries.truthy && !action.supportsIdempotency then
        [keyIssue key "Retry is configured for a non-idempotent action"]
      else []) ++ (if action.simulationOnly then
        [⟨"SOAR_ACTION_MODE_NOT_ALLOWED", none, some key,
          "SIMULATION ONLY — NO EXTERNAL ACTION IS PERFORMED"⟩]
      else []) ++ (if sensitive then
        [⟨"SOAR_APPROVAL_REQUIRED", none, some key, "ADMINISTRATOR APPROVAL REQUIRED"⟩]
      else [])))

/-- The routes of a step that are set. -/
def routesOf (step : Dict) : List Json :=
  (["on_success", "on_failure", "on_timeout"].map (Dict.get step)).filter Json.truthy

/-- `key in ACTION_CATALOG` for any value. -/
def catalogEntry (value : Json) : Except String (Option ActionKey) :=
  match hashable value with
  | .error message => .error message
  | .ok () => .ok (value.str?.bind ActionKey.ofText?)

/-- The body of the loop over the steps, for a step with a usable key. -/
def checkKeyedStep (py : Interpreter) (steps : List Json) (triggerMode : TriggerMode)
    (policies : PolicyMaps) (index : Nat) (path key : String) (step : Dict) (scan : StepScan) :
    Except String StepScan :=
  let scan := scan.report (if scan.byKey.any fun entry => entry.1 == key then
      [stepIssue (path ++ ".key") key "Duplicate stable step key"]
    else [])
  let scan := { scan with byKey := setStep scan.byKey key step }
  match hashable (Dict.get step "type") with
  | .error message => .error message
  | .ok () =>
  let stepType := StepType.ofJson? (Dict.get step "type")
  let scan := scan.report (if stepType = none then
      [stepIssue (path ++ ".type") key "Unsupported step type"]
    else [])
  let position := getOr step "position" (.int index)
  let scan := scan.report (if integer? position = none ||
        scan.positions.any (Json.pyEq position) then
      [stepIssue (path ++ ".position") key "Step positions must be unique integers"]
    else [])
  match hashable position with
  | .error message => .error message
  | .ok () =>
  let scan := { scan with positions := scan.positions ++ [position] }
  let retries := getOr step "max_retries" (.int 0)
  let scan := scan.report (
    boundIssue path key "max_retries" retries 0 3 "Retries must be between 0 and 3" ++
    boundIssue path key "retry_delay_seconds" (getOr step "retry_delay_seconds" (.int 0)) 0 3600
      "Retry delay exceeds one hour" ++
    boundIssue path key "timeout_seconds" (getOr step "timeout_seconds" (.int 30)) 1 3600
      "Step timeout must be 1 to 3600 seconds" ++
    if stepType = some .delay then delayIssues path key step else [])
  match (if stepType = some .condition then
      conditionErrors (maxDepth + 1) (path ++ ".condition") (Dict.get step "condition") 0
    else .ok ([], 0)) with
  | .error message => .error message
  | .ok (conditionIssues, _) =>
  match (if stepType = some .analystInput then analystInputIssues py path key step
    else .ok []) with
  | .error message => .error message
  | .ok fieldIssues =>
  let scan := scan.report (conditionIssues ++ fieldIssues)
  let scan := if stepType = some .evidenceSnapshot then
      { scan with evidenceCount := scan.evidenceCount + 1 }
    else scan
  match (if stepType = some .approval then
      match stepMinimumApprovals py step with
      | .error message => .error message
      | .ok minimum => .ok { scan with approvals := scan.approvals ++ [(key, minimum)] }
    else Except.ok scan) with
  | .error message => .error message
  | .ok scan =>
  if stepType = some .action ∨ stepType = some .notification ∨ stepType = some .caseWorkflow ∨
      stepType = some .evidenceSnapshot then
    match catalogEntry (Dict.get step "action_key") with
    | .error message => .error message
    | .ok none =>
      -- The branches of a step with an unknown action are not counted.
      .ok (scan.report [⟨"SOAR_ACTION_UNKNOWN", some (path ++ ".action_key"), some key,
        "Action key is not in the server-owned catalog"⟩])
    | .ok (some action) =>
      match checkAction steps triggerMode policies path key action.definition retries scan with
      | .error message => .error message
      | .ok scan => .ok { scan with branches := scan.branches + (routesOf step).length }
  else .ok { scan with branches := scan.branches + (routesOf step).length }

/-- The body of the loop over the steps. -/
def checkStep (py : Interpreter) (steps : List Json) (triggerMode : TriggerMode)
    (policies : PolicyMaps) (scan : StepScan) (item : Json × Nat) : Except String StepScan :=
  let path := "steps[" ++ toString item.2 ++ "]"
  match item.1 with
  | .obj step =>
    match Dict.get step "key" with
    | .str key =>
      if matchesStepKey key then
        checkKeyedStep py steps triggerMode policies item.2 path key step scan
      else .ok (scan.report [issueAt (path ++ ".key") "Stable step key is invalid"])
    | _ => .ok (scan.report [issueAt (path ++ ".key") "Stable step key is invalid"])
  | _ => .ok (scan.report [issueAt path "Step must be an object"])

/-- The loop over the steps. -/
def checkSteps (py : Interpreter) (steps : List Json) (triggerMode : TriggerMode)
    (policies : PolicyMaps) : List (Json × Nat) → StepScan → Except String StepScan
  | [], scan => .ok scan
  | item :: rest, scan =>
    match checkStep py steps triggerMode policies scan item with
    | .error message => .error message
    | .ok scan => checkSteps py steps triggerMode policies rest scan

/-! ## The route graph -/

/-- The steps a step routes to. -/
abbrev Adjacency := List (String × List String)

/-- The targets of a step. -/
def targetsOf (adjacency : Adjacency) (key : String) : List String :=
  ((adjacency.find? fun entry => entry.1 == key).map Prod.snd).getD []

/-- The errors of one route of a step. -/
def routeIssue (py : Interpreter) (byKey : List (String × Dict)) (key : String)
    (target : Json) : Except String (List ValidationIssue) :=
  if target.isStr key then .ok [keyIssue key "Self-loop is prohibited"]
  else match hashable target with
    | .error message => .error message
    | .ok () =>
      if (target.str?.bind (stepOf byKey)).isSome then .ok []
      else .ok [keyIssue key ("Route target " ++ py.repr target ++ " does not exist")]

/-- The errors of the routes of one step. -/
def routeIssues (py : Interpreter) (byKey : List (String × Dict)) (key : String)
    (routes : List Json) : Except String (List ValidationIssue) :=
  checkEach (routeIssue py byKey key) routes

/-- The warning of a step without a route. -/
def missingRoute (key : String) (step : Dict) : List ValidationIssue :=
  if !(Dict.get step "type").isStr "end" && (routesOf step).isEmpty then
    [keyIssue key "Non-terminal step has no route"]
  else []

/-- The adjacency of the steps, restricted to routes that name a step. -/
def adjacencyOf (byKey : List (String × Dict)) : Adjacency :=
  byKey.map fun (key, step) =>
    (key, (routesOf step).filterMap fun target =>
      target.str?.filter fun text => (stepOf byKey text).isSome)

/-- The breadth-first search from a queue, with the number of pops it may make. -/
def search (adjacency : Adjacency) : Nat → List String → List String → List String
  | 0, _, reachable => reachable
  | _, [], reachable => reachable
  | pops + 1, key :: queue, reachable =>
    if reachable.contains key then search adjacency pops queue reachable
    else search adjacency pops (queue ++ targetsOf adjacency key) (reachable ++ [key])

/-- How often the search can pop: once for the start and once for each route. -/
def searchBound (adjacency : Adjacency) : Nat :=
  1 + (adjacency.map fun entry => entry.2.length).sum

/-- The steps reachable from the start step. -/
def reachableFrom (adjacency : Adjacency) (start : Option String) : List String :=
  search adjacency (searchBound adjacency) start.toList []

/-- The colours of the depth-first search and whether it met a cycle. -/
structure Visit where
  started : List String := []
  finished : List String := []
  cycle : Bool := false

/-- `visit`: `started` and not `finished` is colour 1, `finished` is colour 2. -/
def visit (adjacency : Adjacency) : Nat → String → Visit → Visit
  | 0, _, state => state
  | depth + 1, key, state =>
    let entered := { state with started := state.started ++ [key] }
    let left := (targetsOf adjacency key).foldl (fun state target =>
      if state.started.contains target && !state.finished.contains target then
        { state with cycle := true }
      else if state.started.contains target then state
      else visit adjacency depth target state) entered
    { left with finished := left.finished ++ [key] }

/-- Whether the depth-first search from the start step meets a cycle. -/
def hasCycle (adjacency : Adjacency) (start : Option String) : Bool :=
  match start with
  | some key => (visit adjacency adjacency.length key {}).cycle
  | none => false

/-! ## The whole definition -/

/-- The result of `validate_definition`. -/
structure ValidationResult where
  valid : Bool
  errors : List ValidationIssue
  warnings : List ValidationIssue
  normalizedDefinition : Json
  approvalRequirements : List (String × Int)
  simulationOnlyActions : List String
  automaticLocalEligible : Bool
  unreachableSteps : List String
  estimatedSeconds : Int

/-- The text order Python sorts by. -/
def sortTexts (texts : List String) : List String := texts.insertionSort (· ≤ ·)

/-- The sort key of a step in `_normalize`. -/
def positionOf (py : Interpreter) (step : Json) : Except String (Int × String) :=
  match step with
  | .obj fields =>
    match py.int (getOr fields "position" (.int 0)) with
    | some position => .ok (position, py.str (getOr fields "key" (.str "")))
    | none => .error "int() argument is not a number"
  | value => .error ("'" ++ value.typeName ++ "' object has no attribute 'get'")

/-- Steps with their sort keys. -/
def positioned (py : Interpreter) :
    List Json → Except String (List ((Int × String) × Json))
  | [] => .ok []
  | step :: rest =>
    match positionOf py step with
    | .error message => .error message
    | .ok place =>
      match positioned py rest with
      | .error message => .error message
      | .ok later => .ok ((place, step) :: later)

/-- The order of the sort keys. -/
def placeLe (first second : (Int × String) × Json) : Bool :=
  first.1.1 < second.1.1 || (first.1.1 == second.1.1 && first.1.2 ≤ second.1.2)

/-- `_normalize`: the steps sorted by position and key. `canonical` of the definition has not
gone too deep before. -/
def normalize (py : Interpreter) (definition : Dict) : Except String Json :=
  if !printable (.obj definition) then .error "Exceeds the limit (4300 digits)"
  else match getOr definition "steps" (.arr []) with
  | .arr steps =>
    match positioned py steps with
    | .error message => .error message
    | .ok placed => .ok (.obj (Dict.set definition "steps"
        (.arr ((placed.insertionSort fun first second => placeLe first second = true).map
          Prod.snd))))
  | .str "" => .ok (.obj (Dict.set definition "steps" (.arr [])))
  | .obj [] => .ok (.obj (Dict.set definition "steps" (.arr [])))
  | .str _ => .error "'str' object has no attribute 'get'"
  | .obj _ => .error "'str' object has no attribute 'get'"
  | value => .error ("'" ++ value.typeName ++ "' object is not iterable")

/-- The seconds a step may take. -/
def estimatedStepSeconds (step : Json) : Int :=
  match step with
  | .obj fields =>
    let delay := if (Dict.get fields "type").isStr "delay" then
        match getOr fields "configuration" (.obj []) with
        | .obj configuration =>
          (integer? (getOr configuration "delay_seconds" (.int 0))).getD 0
        | _ => 0
      else 0
    delay + (integer? (getOr fields "timeout_seconds" (.int 30))).getD 30 *
      (1 + (integer? (getOr fields "max_retries" (.int 0))).getD 0)
  | _ => 0

/-- The fields a definition may have. -/
def supportedRoot : List String := ["start_step", "variables", "constants", "steps", "description"]

def validateDefinition (py : Interpreter) (definition : Json) (triggerMode : TriggerMode)
    (policies : PolicyMaps) : Except String ValidationResult :=
  -- A `RecursionError` is not caught, the other failures of the encoding are.
  if py.depthLimit < definition.depth then .error "maximum recursion depth exceeded"
  else
  let oversized := if !(printable definition && py.encodable definition) then
      [issueAt "definition" "Definition must be JSON-compatible"]
    else if 524288 < py.encodedSize definition then
      [issueAt "definition" "Definition exceeds 512 KiB"]
    else []
  match definition with
  | .obj fields =>
    let rootErrors := oversized ++ walkForbidden py 13 "definition" definition ++
      fields.flatMap fun (key, _) =>
        if supportedRoot.contains key then [] else [issueAt key "Unsupported root field"]
    let variableErrors := match getOr fields "variables" (.obj []) with
      | .obj declared => if 100 < declared.length then
            [issueAt "variables" "Variables must be an object with at most 100 entries"]
          else []
      | _ => [issueAt "variables" "Variables must be an object with at most 100 entries"]
    let (stepErrors, steps) := match Dict.get fields "steps" with
      | .arr steps => if 1 ≤ steps.length ∧ steps.length ≤ 50 then ([], steps)
          else ([issueAt "steps" "Playbook requires 1 to 50 steps"], [])
      | _ => ([issueAt "steps" "Playbook requires 1 to 50 steps"], [])
    match checkSteps py steps triggerMode policies steps.zipIdx
        { errors := rootErrors ++ variableErrors ++ stepErrors } with
    | .error message => .error message
    | .ok scan =>
    let scan := scan.report (
      (if 20 < scan.branches then [issueAt "steps" "Branch count exceeds 20"] else []) ++
      if 25 < scan.evidenceCount then
        [issueAt "steps" "Evidence snapshot count exceeds 25"] else [])
    let startValue := Dict.get fields "start_step"
    match hashable startValue with
    | .error message => .error message
    | .ok () =>
    let start := startValue.str?.filter fun text => (stepOf scan.byKey text).isSome
    let scan := scan.report (if start = none then
        [issueAt "start_step" "Start step does not exist"] else [])
    match checkEach (fun entry : String × Dict =>
        routeIssues py scan.byKey entry.1 (routesOf entry.2)) scan.byKey with
    | .error message => .error message
    | .ok routeErrors =>
    let scan := (scan.warn (scan.byKey.flatMap fun (key, step) => missingRoute key step)).report
      routeErrors
    let adjacency := adjacencyOf scan.byKey
    let reachable := reachableFrom adjacency start
    let unreachable := sortTexts
      ((scan.byKey.map Prod.fst).filter fun key => !reachable.contains key)
    let terminalReachable := reachable.any fun key =>
      (stepOf scan.byKey key).any fun step => (Dict.get step "type").isStr "end"
    let scan := scan.report (
      unreachable.map (fun key => keyIssue key "Step is unreachable") ++
      (if hasCycle adjacency start then
        [issueAt "steps" "Cycles and recursive playbooks are prohibited"] else []) ++
      if terminalReachable then [] else
        [issueAt "steps" "No reachable terminal end step"])
    match normalize py fields with
    | .error message => .error message
    | .ok normalized =>
    let estimated := (steps.map estimatedStepSeconds).sum
    let scan := scan.report (if 259200 < estimated then
        [issueAt "steps" "Estimated maximum execution path exceeds 72 hours"] else [])
    let valid := scan.errors.isEmpty
    -- `content_hash` encodes the normalized definition, which has the texts of the definition.
    if !py.encodable definition then .error "surrogates not allowed"
    else
    .ok { valid := valid
          errors := scan.errors.take 100
          warnings := scan.warnings.take 100
          normalizedDefinition := normalized
          approvalRequirements := scan.approvals
          simulationOnlyActions := sortTexts (scan.simulationActions.map ActionKey.text).dedup
          automaticLocalEligible := scan.automaticOk && valid
          unreachableSteps := unreachable
          estimatedSeconds := estimated }
  | _ =>
    .ok { valid := false
          errors := if oversized = [] then
              [issueAt "definition" "Definition must be an object"] else oversized
          warnings := []
          normalizedDefinition := .obj []
          approvalRequirements := []
          simulationOnlyActions := []
          automaticLocalEligible := false
          unreachableSteps := []
          estimatedSeconds := 0 }

end ThreatScope.Soar
