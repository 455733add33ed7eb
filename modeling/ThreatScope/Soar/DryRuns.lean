import ThreatScope.Library.SortedKeys
import ThreatScope.Soar.EngineSteps
import ThreatScope.Soar.ValidatorTotality

/-!
# Dry runs

A version of a playbook is stored together with its steps: `_sync_steps` writes a row for each one
and refuses the whole version when a column cannot be bound or is too large. A dry run of
`run_execution` of such a playbook follows the success routes from the start step, records every
step as skipped, dispatches nothing and finishes in the same call (`dryRun_inert`).
-/

set_option autoImplicit false

namespace ThreatScope.Soar

open Library AccessControl

variable {ρ : Type} (env : SoarPlatform ρ)

/-! ## Storing a version -/

/-- A row of `soar_playbook_steps`. -/
structure SoarPlaybookStep where
  stableStepKey : String
  stepType : String
  name : String
  description : Option String
  actionKey : Option String
  configuration : Json
  inputMapping : Json
  outputMapping : Json
  position : Int
  onSuccessStepKey : Option String
  onFailureStepKey : Option String
  onTimeoutStepKey : Option String
  timeoutSeconds : Option String
  maxRetries : Int
  retryDelaySeconds : Int
  continueOnFailure : Bool
  enabled : Bool

/-- A text column that must have a value. -/
def requiredText (value : Json) : Except Failure String := do
  match ← columnText env value with
  | some text => .ok text
  | none => .error (.other "NOT NULL constraint failed")

/-- `int(value)`. -/
def intOf (value : Json) : Except Failure Int :=
  match env.int value with
  | some number => .ok number
  | none => .error (.other "int() argument is not a number")

/-- The row of a step. -/
def syncStep (index : Nat) (item : Json) : Except Failure SoarPlaybookStep :=
  match item with
  | .obj step => do
    let key ← requireField step "key"
    let stableStepKey ← requiredText env key
    let stepType ← requireField step "type" >>= requiredText env
    let actionKey ← columnText env (Dict.get step "action_key")
    let configuration ← dumps env (getOr step "configuration" (.obj [])) storageLimit
    let inputMapping ← dumps env (getOr step "input_mapping" (.obj [])) storageLimit
    let outputMapping ← dumps env (getOr step "output_mapping" (.obj [])) storageLimit
    let position ← intOf env (getOr step "position" (.int index))
    let onSuccessStepKey ← columnText env (Dict.get step "on_success")
    let onFailureStepKey ← columnText env (Dict.get step "on_failure")
    let onTimeoutStepKey ← columnText env (Dict.get step "on_timeout")
    let timeoutSeconds ← columnText env (Dict.get step "timeout_seconds")
    let maxRetries ← intOf env (getOr step "max_retries" (.int 0))
    let retryDelaySeconds ← intOf env (getOr step "retry_delay_seconds" (.int 0))
    let description := textOf env (getOr step "description" (.str "")) 2000
    return { stableStepKey, stepType, actionKey, configuration, inputMapping, outputMapping
             position, onSuccessStepKey, onFailureStepKey, onTimeoutStepKey, timeoutSeconds
             maxRetries, retryDelaySeconds
             name := textOf env (getOr step "name" key) 200
             description := if description = "" then none else some description
             continueOnFailure := (getOr step "continue_on_failure" (.bool false)).truthy
             enabled := (getOr step "enabled" (.bool true)).truthy }
  | value => .error (.other ("'" ++ value.typeName ++ "' object is not subscriptable"))

/-- `_sync_steps` of a normalized definition. -/
def syncSteps (normalized : Json) : Except Failure (List SoarPlaybookStep) := do
  let rows ← (Dict.get normalized.fields "steps").items.zipIdx.mapM fun (item, index) =>
    syncStep env index item
  if (rows.map SoarPlaybookStep.stableStepKey).Nodup then return rows
  else .error (.other "UNIQUE constraint failed")

/-- What `seed_defaults`, `create_playbook` and `update_playbook` write of a definition: one more
version, with its steps. -/
def storeVersion (policies : PolicyMaps) (playbook : SoarPlaybook) (definition : Json) :
    Except Failure SoarPlaybook :=
  match validateDefinition env.toInterpreter definition playbook.triggerMode policies with
  | .error message => .error (.other message)
  | .ok result => do
    let _ ← syncSteps env result.normalizedDefinition
    return { playbook with
      currentVersion := playbook.currentVersion + 1
      versions := playbook.versions ++ [definition] }

/-- The playbooks that the functions of the service leave. -/
inductive SoarPlaybook.Written : SoarPlaybook → Prop where
  | created (lifecycleStatus : LifecycleStatus) (triggerMode : TriggerMode) :
      Written ⟨lifecycleStatus, triggerMode, 0, []⟩
  | stored {before after : SoarPlaybook} {policies : PolicyMaps} {definition : Json}
      (written : Written before)
      (done : storeVersion env policies before definition = .ok after) : Written after
  /-- `version_rollback` copies a version and its normalized definition. -/
  | rolledBack {before : SoarPlaybook} {definition : Json} (written : Written before)
      (source : definition ∈ before.versions) :
      Written { before with
        currentVersion := before.currentVersion + 1
        versions := before.versions ++ [definition] }
  /-- `lifecycle`, and the new trigger mode of `update_playbook`. -/
  | moved {before : SoarPlaybook} (written : Written before)
      (lifecycleStatus : LifecycleStatus) (triggerMode : TriggerMode) :
      Written { before with lifecycleStatus, triggerMode }

/-! ## The path and the property -/

/-- The steps on the success routes from a step, up to an end step or a step without a route. -/
def successPath (byKey : List (String × Dict)) : Nat → String → List (String × Dict)
  | 0, _ => []
  | count + 1, key =>
    match stepOf byKey key with
    | none => []
    | some step =>
      (key, step) ::
        if typeOf step = some .end_ then []
        else match Dict.get step "on_success" with
          | .str next => if next = "" then [] else successPath byKey count next
          | _ => []

/-- The path of a definition, whose steps it visits at most once. -/
def definitionPath (fields : Dict) : List (String × Dict) :=
  match Dict.get fields "start_step" with
  | .str start => successPath (checkedSteps fields) (checkedSteps fields).length start
  | _ => []

/-- An end step whose outcome is a failure. -/
def EndsInFailure (step : Dict) : Prop :=
  typeOf step = some .end_ ∧ (Dict.get (configurationOf step) "outcome").isStr "failed" = true

/-- An execution that a dry run along a path has finished. -/
structure DryFinished (path : List (String × Dict)) (execution : SoarExecution) : Prop where
  ended : execution.status = .completed ∨ execution.status = .completedWithWarnings ∨
    execution.status = .failed ∧ ∃ entry, path.getLast? = some entry ∧ EndsInFailure entry.2
  steps : execution.steps.map SoarStepExecution.stepKey = path.map Prod.fst
  created : execution.recordsCreated = 0
  updated : execution.recordsUpdated = 0
  approvals : execution.approvals = []
  inputs : execution.inputs = []
  delay : execution.nextResumeAt = none

/-- The record of a step, and what follows it, can be written. -/
structure Recordable (step : Dict) : Prop where
  configuration : ∃ stored, dumps env (getOr step "configuration" (.obj [])) storageLimit =
    .ok stored
  action : isHashable (Dict.get step "action_key") = true
  route : isHashable (Dict.get step "on_success") = true

/-! ## What is stored can be recorded -/

section Stored

theorem columnText_ok_iff (value : Json) :
    (∃ text, columnText env value = .ok text) ↔ isHashable value = true := by
  cases value <;> simp [columnText, isHashable]

variable {env}

/-- **A step with a row can be recorded.** -/
theorem recordable_of_syncStep {index : Nat} {step : Dict} {row : SoarPlaybookStep}
    (done : syncStep env index (.obj step) = .ok row) : Recordable env step := by
  unfold syncStep at done
  obtain ⟨key, -, done⟩ := bind_eq_ok_iff.mp done
  obtain ⟨stableStepKey, -, done⟩ := bind_eq_ok_iff.mp done
  obtain ⟨stepType, -, done⟩ := bind_eq_ok_iff.mp done
  obtain ⟨actionKey, action, done⟩ := bind_eq_ok_iff.mp done
  obtain ⟨configuration, stored, done⟩ := bind_eq_ok_iff.mp done
  obtain ⟨inputMapping, -, done⟩ := bind_eq_ok_iff.mp done
  obtain ⟨outputMapping, -, done⟩ := bind_eq_ok_iff.mp done
  obtain ⟨position, -, done⟩ := bind_eq_ok_iff.mp done
  obtain ⟨onSuccess, route, -⟩ := bind_eq_ok_iff.mp done
  exact ⟨⟨configuration, stored⟩, (columnText_ok_iff env _).mp ⟨actionKey, action⟩,
    (columnText_ok_iff env _).mp ⟨onSuccess, route⟩⟩

theorem map_snd_of_positioned {py : Interpreter} {items : List Json}
    {placed : List ((Int × String) × Json)} (done : positioned py items = .ok placed) :
    placed.map Prod.snd = items := by
  induction items generalizing placed with
  | nil =>
    cases done
    rfl
  | cons item rest ih =>
    rw [positioned] at done
    split at done
    · cases done
    split at done
    · cases done
    rename_i later found
    cases done
    rw [List.map_cons, ih found]

/-- The normalized definition has every step. -/
theorem mem_steps_of_normalize {py : Interpreter} {fields : Dict} {normalized : Json}
    (done : normalize py fields = .ok normalized) {items : List Json}
    (listed : Dict.get fields "steps" = .arr items) {item : Json} (member : item ∈ items) :
    item ∈ (Dict.get normalized.fields "steps").items := by
  have given : getOr fields "steps" (.arr []) = .arr items := by
    unfold Dict.get at listed
    unfold getOr
    cases found : Dict.find? fields "steps" with
    | none =>
      rw [found] at listed
      cases listed
    | some value =>
      rw [found] at listed
      exact listed
  unfold normalize at done
  rw [given] at done
  split at done
  · cases done
  dsimp only at done
  split at done
  · cases done
  rename_i placed found
  cases done
  rw [Dict.get, Json.fields, Dict.find?_set_self, Option.getD_some, Json.items]
  rw [← map_snd_of_positioned found] at member
  obtain ⟨place, inside, same⟩ := List.mem_map.mp member
  exact List.mem_map.mpr ⟨place, (List.mem_insertionSort _).mpr inside, same⟩

theorem normalize_of_validated {py : Interpreter} {fields : Dict} {triggerMode : TriggerMode}
    {policies : PolicyMaps} {result : ValidationResult}
    (validated : validateDefinition py (.obj fields) triggerMode policies = .ok result) :
    normalize py fields = .ok result.normalizedDefinition := by
  unfold validateDefinition at validated
  split at validated
  · cases validated
  extract_lets at validated
  dsimp -zeta only at validated
  extract_lets at validated
  split at validated
  · cases validated
  extract_lets at validated
  split at validated
  · cases validated
  split at validated
  · cases validated
  extract_lets at validated
  split at validated
  · cases validated
  rename_i normalized found
  split at validated
  · cases validated
  cases validated
  exact found

theorem recordable_of_synced {fields : Dict} {triggerMode : TriggerMode} {policies : PolicyMaps}
    {result : ValidationResult} {rows : List SoarPlaybookStep}
    (validated : validateDefinition env.toInterpreter (.obj fields) triggerMode policies =
      .ok result) (synced : syncSteps env result.normalizedDefinition = .ok rows) :
    ∀ entry ∈ checkedSteps fields, Recordable env entry.2 := by
  rintro ⟨key, step⟩ checked
  obtain ⟨item, looped, keyed⟩ := List.mem_filterMap.mp checked
  obtain ⟨rfl, -, -⟩ := keyedItem?_some keyed
  obtain ⟨items, listed, member⟩ : ∃ items, Dict.get fields "steps" = .arr items ∧
      .obj step ∈ items := by
    unfold loopItems at looped
    cases given : Dict.get fields "steps" with
    | arr items =>
      rw [given] at looped
      dsimp only at looped
      split at looped
      · exact ⟨items, rfl, looped⟩
      · cases looped
    | _ =>
      rw [given] at looped
      cases looped
  have inside := mem_steps_of_normalize (normalize_of_validated validated) listed member
  obtain ⟨rows', mapped, -⟩ := bind_eq_ok_iff.mp synced
  obtain ⟨index, bound, same⟩ := List.getElem_of_mem inside
  obtain ⟨row, done⟩ := exists_mapM_eq_ok_iff.mp ⟨rows', mapped⟩ (.obj step, index)
    (List.mk_mem_zipIdx_iff_getElem?.mpr (List.getElem?_eq_some_iff.mpr ⟨bound, same⟩))
  exact recordable_of_syncStep done

/-- **Every stored definition can be recorded**, by induction on what was written. -/
theorem SoarPlaybook.Written.recordable {playbook : SoarPlaybook}
    (written : playbook.Written env) {fields : Dict} (version : .obj fields ∈ playbook.versions) :
    ∀ entry ∈ checkedSteps fields, Recordable env entry.2 := by
  induction written with
  | created => cases version
  | stored _ done ih =>
    unfold storeVersion at done
    split at done
    · cases done
    rename_i result validated
    obtain ⟨rows, synced, done⟩ := bind_eq_ok_iff.mp done
    cases done
    rcases List.mem_append.mp version with old | new
    · exact ih old
    · rw [← List.mem_singleton.mp new] at validated
      exact recordable_of_synced validated synced
  | rolledBack _ source ih =>
    rcases List.mem_append.mp version with old | new
    · exact ih old
    · rw [← List.mem_singleton.mp new] at source
      exact ih source
  | moved _ _ _ ih => exact ih version

end Stored

/-! ## The record of a step -/

section Record

/-- The state of a dry run that has visited some steps. -/
structure DryVisited (visited : List (String × Dict)) (execution : SoarExecution) : Prop where
  mode : execution.mode = .dryRun
  steps : execution.steps.map SoarStepExecution.stepKey = visited.map Prod.fst
  created : execution.recordsCreated = 0
  updated : execution.recordsUpdated = 0
  approvals : execution.approvals = []
  inputs : execution.inputs = []
  delay : execution.nextResumeAt = none

variable {env}

theorem stepKeys_of_identities {execution other : SoarExecution}
    (same : other.identities = execution.identities) :
    other.steps.map SoarStepExecution.stepKey = execution.steps.map SoarStepExecution.stepKey := by
  have keys := congrArg (List.map StepIdentity.stepKey) same
  simp only [SoarExecution.identities, List.map_map] at keys
  exact keys

theorem newestAttempt?_of_fresh {execution : SoarExecution} {key : String}
    (fresh : key ∉ execution.steps.map SoarStepExecution.stepKey) :
    execution.newestAttempt? key = none := by
  cases found : execution.newestAttempt? key with
  | none => rfl
  | some best =>
    obtain ⟨here, same⟩ := SoarExecution.getElem?_of_newestAttempt? found
    exact absurd (List.mem_map.mpr ⟨_, List.mem_of_getElem? here, same⟩) fresh

theorem requireField_of_typed {step : Dict} (typed : (typeOf step).isSome = true) :
    ∃ text, requireField step "type" = .ok (.str text) := by
  obtain ⟨stepType, read⟩ := Option.isSome_iff_exists.mp typed
  simp only [typeOf, Dict.get] at read
  cases value : Dict.find? step "type" with
  | none =>
    rw [value] at read
    cases read
  | some json =>
    rw [value] at read
    cases json with
    | str text => exact ⟨text, by rw [requireField, value]⟩
    | _ => cases read

/-- A step that has not been visited gets a record of its own, when it can be recorded. -/
theorem newStep_of_fresh {execution : SoarExecution} {key : String} {step : Dict}
    (fresh : key ∉ execution.steps.map SoarStepExecution.stepKey)
    (typed : (typeOf step).isSome = true) (good : Recordable env step) :
    ∃ record, newStep env execution key step = .ok record := by
  have unique : (execution.steps.any fun row => row.stepKey == key &&
      row.attemptNumber == execution.nextAttempt key) = false := by
    rw [List.any_eq_false]
    intro row member same
    simp only [Bool.and_eq_true, beq_iff_eq] at same
    exact fresh (List.mem_map.mpr ⟨row, member, same.1⟩)
  obtain ⟨text, required⟩ := requireField_of_typed typed
  obtain ⟨stored, fits⟩ := good.configuration
  obtain ⟨action, bound⟩ := (columnText_ok_iff env _).mpr good.action
  rw [newStep, required, fits, bound]
  simp [bind, Except.bind, columnText, unique, pure, Except.pure]

theorem createStep_of_fresh {execution : SoarExecution} {key : String} {step : Dict}
    (fresh : key ∉ execution.steps.map SoarStepExecution.stepKey) :
    createStep env execution key step =
      (newStep env execution key step).map fun record =>
        (execution.addStep record, record, execution.steps.length) := by
  rw [createStep, newestAttempt?_of_fresh fresh]
  cases newStep env execution key step <;> rfl

end Record

/-! ## The output of a step -/

section Output

theorem stringSize_truncate (text : String) :
    Interpreter.stringSize (Text.truncate 500 text) ≤ 3002 := by
  have small : ∀ c : Char, Interpreter.escapedSize c ≤ 6 := by
    intro c
    have width : c.utf8Size ≤ 4 := c.utf8Size_le_four
    unfold Interpreter.escapedSize
    split
    · omega
    split <;> omega
  have total : ∀ characters : List Char,
      (characters.map Interpreter.escapedSize).sum ≤ 6 * characters.length := by
    intro characters
    induction characters with
    | nil => simp
    | cons c rest ih =>
      have here := small c
      simp only [List.map_cons, List.sum_cons, List.length_cons]
      omega
  have short : (Text.truncate 500 text).toList.length ≤ 500 := by
    simp [Text.truncate]
  have bound := total (Text.truncate 500 text).toList
  unfold Interpreter.stringSize
  omega

theorem casefold_of_ascii (table : Char → List Char) {text : String}
    (ascii : ∀ c ∈ text.toList, c.toNat < 128) :
    Text.casefold table text = String.ofList (text.toList.map Char.toLower) := by
  unfold Text.casefold
  generalize text.toList = characters at ascii
  apply congrArg
  induction characters with
  | nil => rfl
  | cons c rest ih =>
    rw [List.flatMap_cons, ih fun other member => ascii other (List.mem_cons_of_mem _ member),
      Text.foldChar, if_pos (ascii c List.mem_cons_self)]
    rfl

theorem dumps_output (status summary : String) :
    ∃ stored, dumps env (.obj [("status", .str status), ("summary", .str summary)])
      storageLimit = .ok stored := by
  have stored : redact env.toInterpreter
      (.obj [("status", .str status), ("summary", .str summary)]) =
      .obj [("status", .str (Text.truncate 500 status)),
        ("summary", .str (Text.truncate 500 summary))] := by
    have plain : isSensitive env.toInterpreter "status" = false ∧
        isSensitive env.toInterpreter "summary" = false := by
      unfold isSensitive Interpreter.casefold
      rw [casefold_of_ascii _ (by simp), casefold_of_ascii _ (by simp)]
      decide +kernel
    have keys : Text.truncate 100 "status" = "status" ∧
        Text.truncate 100 "summary" = "summary" := by
      decide +kernel
    simp [redact, redactWithin, keys, plain, Dict.set]
  have first := stringSize_truncate status
  have second := stringSize_truncate summary
  have keys : Interpreter.stringSize "status" = 8 ∧ Interpreter.stringSize "summary" = 9 := by
    decide +kernel
  have fits : ¬ storageLimit < env.encodedSize (redact env.toInterpreter
      (.obj [("status", .str status), ("summary", .str summary)])) := by
    rw [stored]
    simp only [Interpreter.encodedSize, Interpreter.encodedFields, List.isEmpty_cons, keys,
      Bool.false_eq_true, if_false, storageLimit]
    omega
  exact ⟨_, if_neg fits⟩

end Output

/-! ## One turn -/

section Turns

variable {context : RunContext} {byKey : List (String × Dict)}

/-- What a turn of a dry run comes to at a step it has not visited. -/
inductive DryTurn (visited : List (String × Dict)) (key : String) (step : Dict) (work : Work ρ) :
    Turn ρ → Prop where
  | finished {execution : SoarExecution}
      (last : typeOf step = some .end_ ∨ (Dict.get step "on_success").truthy = false)
      (done : DryFinished (visited ++ [(key, step)]) execution) :
      DryTurn visited key step work (.stop ⟨⟨execution, work.store⟩, none, []⟩)
  | onward {execution : SoarExecution}
      (open_ : typeOf step ≠ some .end_) (route : (Dict.get step "on_success").truthy = true)
      (bound : columnText env (Dict.get step "on_success") = .ok execution.currentStepKey)
      (state : DryVisited (visited ++ [(key, step)]) execution) :
      DryTurn visited key step work (.next ⟨execution, work.store⟩ [])

theorem DryVisited.addStep {visited : List (String × Dict)} {execution : SoarExecution}
    {key : String} {step : Dict} {record : SoarStepExecution}
    (state : DryVisited visited execution) (same : record.stepKey = key) :
    DryVisited (visited ++ [(key, step)]) (execution.addStep record) where
  mode := state.mode
  steps := by
    simp only [SoarExecution.addStep, List.map_append, state.steps, List.map_cons, List.map_nil,
      same]
  created := state.created
  updated := state.updated
  approvals := state.approvals
  inputs := state.inputs
  delay := state.delay

theorem DryVisited.recordOutput {visited : List (String × Dict)} {execution : SoarExecution}
    (state : DryVisited visited execution) (position : Nat) (status : StepStatus) (output : Json)
    (next : Option String) :
    DryVisited visited (execution.recordOutput position status output next) where
  mode := state.mode
  steps := (stepKeys_of_identities
    (execution.identities_recordOutput position status output next)).trans state.steps
  created := state.created
  updated := state.updated
  approvals := state.approvals
  inputs := state.inputs
  delay := state.delay

theorem DryVisited.finished {visited : List (String × Dict)} {execution : SoarExecution}
    (state : DryVisited visited execution) (status : ExecutionStatus)
    (ended : status = .completed ∨ status = .completedWithWarnings) :
    DryFinished visited (execution.setStatus status) where
  ended := ended.imp id .inl
  steps := state.steps
  created := state.created
  updated := state.updated
  approvals := state.approvals
  inputs := state.inputs
  delay := state.delay

theorem DryVisited.failed {visited : List (String × Dict)} {execution : SoarExecution}
    (state : DryVisited visited execution) {entry : String × Dict}
    (last : visited.getLast? = some entry) (failure : EndsInFailure entry.2)
    (code summary : String) : DryFinished visited (execution.fail code summary) where
  ended := .inr (.inr ⟨rfl, entry, last, failure⟩)
  steps := (stepKeys_of_identities (execution.identities_fail code summary)).trans state.steps
  created := by
    rw [← state.created, SoarExecution.fail]
    cases execution.lastStep? fun step => step.status == .running <;> rfl
  updated := by
    rw [← state.updated, SoarExecution.fail]
    cases execution.lastStep? fun step => step.status == .running <;> rfl
  approvals := by
    rw [← state.approvals, SoarExecution.fail]
    cases execution.lastStep? fun step => step.status == .running <;> rfl
  inputs := by
    rw [← state.inputs, SoarExecution.fail]
    cases execution.lastStep? fun step => step.status == .running <;> rfl
  delay := by
    rw [← state.delay, SoarExecution.fail]
    cases execution.lastStep? fun step => step.status == .running <;> rfl

theorem planEnd_cases (work : Work ρ) (position : Nat) (config : Dict) :
    (Dict.get config "outcome").isStr "failed" = true ∧
        planEnd env work position config = .ok
          (.fail "SOAR_STEP_FAILED" "Workflow reached its failure terminal") ∨
      (Dict.get config "outcome").isStr "failed" = false ∧
        ∃ stored, planEnd env work position config = .ok (.halt { work with
          execution := (work.execution.recordOutput position .succeeded stored none).setStatus
            .completed }) := by
  unfold planEnd
  cases outcome : (Dict.get config "outcome").isStr "failed" with
  | true => exact .inl ⟨rfl, if_pos rfl⟩
  | false =>
    obtain ⟨stored, fits⟩ := dumps_output env "completed"
      "Terminal step reached"
    refine .inr ⟨rfl, stored, ?_⟩
    rw [if_neg (by simp), fits]

/-- **A turn of a dry run at a step it has not visited.** -/
theorem runTurn_dry {visited : List (String × Dict)} {saved work : Work ρ} {key : String}
    {step : Dict} (known : stepOf byKey key = some step) (typed : (typeOf step).isSome = true)
    (good : Recordable env step) (state : DryVisited visited work.execution)
    (fresh : key ∉ visited.map Prod.fst) :
    DryTurn env visited key step work
      (runTurn env context byKey saved work key) := by
  rw [← state.steps] at fresh
  obtain ⟨record, made⟩ := newStep_of_fresh fresh typed good
  obtain ⟨same, -, -, running, -, -⟩ := newStep_ok env made
  have entered := @DryVisited.addStep _ _ _ step _ state same
  have atWork : record.status.isWaiting = false := by rw [running]; rfl
  obtain ⟨text, required⟩ := requireField_of_typed typed
  unfold runTurn
  rw [known]
  dsimp only
  rw [createStep_of_fresh fresh, made]
  simp only [Except.map, atWork, Bool.false_eq_true, if_false]
  unfold takeStep planStep
  rw [required]
  dsimp only
  by_cases end_ : typeOf step = some .end_
  · rw [if_neg (by simp [end_]), end_]
    rcases planEnd_cases env
        (⟨work.execution.addStep record, work.store⟩ : Work ρ) work.execution.steps.length
        (configurationOf step) with ⟨outcome, planned⟩ | ⟨-, stored, planned⟩
    · simp only [planned]
      exact .finished (.inl end_) (entered.failed List.getLast?_concat ⟨end_, outcome⟩ _ _)
    · simp only [planned]
      exact .finished (.inl end_) ((entered.recordOutput _ _ _ _).finished .completed (.inl rfl))
  · rw [if_pos ⟨entered.mode, end_⟩]
    obtain ⟨stored, fits⟩ := dumps_output env "intended"
      ("Dry run recorded intended " ++ env.str (.str text) ++
        " step; no mutation was performed.")
    obtain ⟨next, bound⟩ := (columnText_ok_iff env _).mpr good.route
    dsimp only
    rw [recordStep, fits, bound]
    have recorded := entered.recordOutput work.execution.steps.length .skipped stored next
    dsimp only
    by_cases route : (Dict.get step "on_success").truthy = true
    · rw [if_pos route]
      exact .onward end_ route bound recorded
    · rw [if_neg route]
      exact .finished (.inr (by simpa using route))
        (recorded.finished .completedWithWarnings (.inr rfl))

end Turns

/-! ## The whole run -/

/-- A call that dispatches nothing, leaves the store alone and finishes its execution. -/
structure InertReply (path : List (String × Dict)) (store : Store ρ) (reply : ServiceReply ρ) :
    Prop where
  accepted : reply.failure = none
  calls : reply.calls = []
  store : reply.work.store = store
  finished : DryFinished path reply.work.execution

/-- The steps of an accepted definition, with the walks from its start. -/
structure AcceptedGraph (byKey : List (String × Dict)) (start : String) : Prop where
  distinct : (byKey.map Prod.fst).Nodup
  named : ∀ entry ∈ byKey, entry.1 ≠ ""
  typed : ∀ entry ∈ byKey, (typeOf entry.2).isSome = true
  routes : ∀ entry ∈ byKey, (Dict.get entry.2 "on_success").truthy = true →
    ∃ target step, Dict.get entry.2 "on_success" = .str target ∧ (target, step) ∈ byKey
  walks : ∀ path : List String, path.head? = some start → path.IsChain (Routes byKey) →
    path.Nodup ∧ path.length ≤ byKey.length

section Runs

variable {context : RunContext} {byKey : List (String × Dict)} {start : String}

theorem successPath_of_last {fuel : Nat} {key : String} {step : Dict}
    (known : stepOf byKey key = some step)
    (last : typeOf step = some .end_ ∨ (Dict.get step "on_success").truthy = false) :
    successPath byKey (fuel + 1) key = [(key, step)] := by
  rw [successPath, known]
  dsimp only
  rcases last with end_ | route
  · rw [if_pos end_]
  · by_cases end_ : typeOf step = some .end_
    · rw [if_pos end_]
    · rw [if_neg end_]
      cases value : Dict.get step "on_success" with
      | str next =>
        rw [value] at route
        have empty : next = "" := by simpa [Json.truthy] using route
        simp [empty]
      | _ => rfl

theorem successPath_of_route {fuel : Nat} {key target : String} {step : Dict}
    (known : stepOf byKey key = some step) (open_ : typeOf step ≠ some .end_)
    (route : Dict.get step "on_success" = .str target) (named : target ≠ "") :
    successPath byKey (fuel + 1) key = (key, step) :: successPath byKey fuel target := by
  rw [successPath, known]
  dsimp only
  rw [if_neg open_, route]
  dsimp only
  rw [if_neg named]

theorem AcceptedGraph.fresh (graph : AcceptedGraph byKey start) {visited : List (String × Dict)}
    {key : String} (headed : (visited.map Prod.fst ++ [key]).head? = some start)
    (walk : (visited.map Prod.fst ++ [key]).IsChain (Routes byKey)) :
    key ∉ visited.map Prod.fst ∧ visited.length + 1 ≤ byKey.length := by
  obtain ⟨once, short⟩ := graph.walks _ headed walk
  constructor
  · intro again
    exact (List.nodup_append.mp once).2.2 key again key (List.mem_singleton.mpr rfl) rfl
  · simpa using short

/-- **The loop of a dry run**, by induction on the turns it may still take. -/
theorem runLoop_dry (graph : AcceptedGraph byKey start)
    (good : ∀ entry ∈ byKey, Recordable env entry.2) (turns : Nat) :
    ∀ {fuel : Nat} {visited : List (String × Dict)} {saved work : Work ρ} {key : String}
      {step : Dict}, (key, step) ∈ byKey → DryVisited visited work.execution →
      work.execution.currentStepKey = some key →
      (visited.map Prod.fst ++ [key]).head? = some start →
      (visited.map Prod.fst ++ [key]).IsChain (Routes byKey) →
      byKey.length ≤ visited.length + turns → byKey.length ≤ visited.length + fuel →
      InertReply (visited ++ successPath byKey fuel key) work.store
        (runLoop env context byKey turns saved work []) := by
  induction turns with
  | zero =>
    intro fuel visited saved work key step _ _ _ headed walk enough _
    have short := (graph.fresh headed walk).2
    omega
  | succ turns ih =>
    intro fuel visited saved work key step member state current headed walk enough fueled
    obtain ⟨fresh, short⟩ := graph.fresh headed walk
    have known := (stepOf_eq_some_iff graph.distinct key step).mpr member
    obtain ⟨fuel, rfl⟩ : ∃ less, fuel = less + 1 := ⟨fuel - 1, by omega⟩
    have here : work.execution.currentStepKey.filter (· ≠ "") = some key := by
      rw [current]
      exact Option.filter_some_pos (by simpa using graph.named _ member)
    rw [runLoop, here]
    dsimp only
    have turn := @runTurn_dry ρ env context byKey _ saved work _ _ known
      (graph.typed _ member) (good _ member) state fresh
    generalize runTurn env context byKey saved work key = result at turn
    cases turn with
    | finished last done =>
      rw [@successPath_of_last _ fuel _ _ known last]
      exact ⟨rfl, rfl, rfl, done⟩
    | onward open_ route bound state' =>
      rename_i execution
      obtain ⟨target, next, leads, listed⟩ := graph.routes _ member route
      have path := @successPath_of_route _ fuel _ _ _ known open_ leads
        (graph.named _ listed)
      have currentNext : execution.currentStepKey = some target := by
        rw [leads] at bound
        exact (Except.ok.inj bound).symm
      have edge : Routes byKey key target := by
        refine ⟨step, known, List.mem_filter.mpr ⟨?_, ?_⟩⟩
        · rw [← leads]
          exact List.mem_map_of_mem (List.mem_cons_self)
        · rw [← leads]
          exact route
      have walked : ((visited ++ [(key, step)]).map Prod.fst ++ [target]).IsChain
          (Routes byKey) := by
        rw [List.map_append]
        exact walk.append (List.isChain_singleton target) (by
          intro last isLast first isFirst
          simp only [List.getLast?_concat, Option.mem_some_iff] at isLast
          simp only [List.head?_cons, Option.mem_some_iff] at isFirst
          rw [← isLast, ← isFirst]
          exact edge)
      have headed' : ((visited ++ [(key, step)]).map Prod.fst ++ [target]).head? =
          some start := by
        rw [← headed]
        simp [List.head?_append]
      rw [path, List.append_cons]
      exact @ih fuel _ ⟨execution, work.store⟩ ⟨execution, work.store⟩ _ _ listed
        state' currentNext headed' walked (by simp; omega) (by simp; omega)

end Runs

/-! ## Accepted definitions -/

section Accepted

theorem find?_of_get {fields : Dict} {key : String} {value : Json} (given : value ≠ .null)
    (read : Dict.get fields key = value) : Dict.find? fields key = some value := by
  unfold Dict.get at read
  cases found : Dict.find? fields key with
  | none =>
    rw [found] at read
    exact absurd read.symm given
  | some other =>
    rw [found] at read
    exact congrArg some read

theorem collectSteps_of_keyed {named : List (String × Dict)}
    (keys : ∀ entry ∈ named, Dict.get entry.2 "key" = .str entry.1) :
    ∀ byKey : List (String × Dict), ((byKey ++ named).map Prod.fst).Nodup →
      collectSteps (named.map fun entry => .obj entry.2) byKey = .ok (byKey ++ named) := by
  induction named with
  | nil => simp [collectSteps]
  | cons entry rest ih =>
    intro byKey distinct
    obtain ⟨key, step⟩ := entry
    have here := find?_of_get (by simp) (keys _ List.mem_cons_self)
    have absent : (byKey.any fun entry => entry.1 == key) = false := by
      rw [List.any_eq_false]
      intro other member same
      rw [List.map_append] at distinct
      exact (List.nodup_append.mp distinct).2.2 other.1 (List.mem_map_of_mem member) key
        List.mem_cons_self (beq_iff_eq.mp same)
    have read : stepKey (.obj step) = .ok (some key, step) := by
      simp only [stepKey, here, Json.str?]
    rw [List.map_cons, collectSteps, read]
    dsimp only
    rw [setStep, absent, if_neg Bool.false_ne_true,
      ih (fun other member => keys other (List.mem_cons_of_mem _ member)) _
        (by rwa [← List.append_cons]), ← List.append_cons]

theorem exists_fields_of_valid {py : Interpreter} {definition : Json}
    {triggerMode : TriggerMode} {policies : PolicyMaps} {result : ValidationResult}
    (validated : validateDefinition py definition triggerMode policies = .ok result)
    (valid : result.valid = true) : ∃ fields, definition = .obj fields := by
  cases definition with
  | obj fields => exact ⟨fields, rfl⟩
  | _ =>
    unfold validateDefinition at validated
    split at validated
    · cases validated
    cases validated
    cases valid

/-- **What the validator accepts is an accepted graph**, whose steps the engine collects. -/
theorem acceptedGraph_of_valid {py : Interpreter} {fields : Dict} {triggerMode : TriggerMode}
    {policies : PolicyMaps} {result : ValidationResult}
    (validated : validateDefinition py (.obj fields) triggerMode policies = .ok result)
    (valid : result.valid = true) :
    stepsByKey (.obj fields) = .ok (checkedSteps fields) ∧ (checkedSteps fields).length ≤ 50 ∧
      ∃ start step, Dict.get fields "start_step" = .str start ∧
        (start, step) ∈ checkedSteps fields ∧ AcceptedGraph (checkedSteps fields) start := by
  have formed := wellFormed_of_valid validated valid
  obtain ⟨items, listed, least, most, keyed⟩ := formed.steps
  have graph := validateDefinition_reportsGraph py listed ⟨least, most⟩ keyed validated
  have few : (checkedSteps fields).length ≤ 50 := by
    rw [keyed.objects, List.length_map] at most
    exact most
  have collected : stepsByKey (.obj fields) = .ok (checkedSteps fields) := by
    have read : getOr fields "steps" (.arr []) = .arr items := by
      rw [getOr, find?_of_get (by simp) listed, Option.getD_some]
    simp only [stepsByKey, read]
    rw [keyed.objects]
    exact collectSteps_of_keyed (fun entry member => (keyed.keys entry member).1) []
      keyed.distinct
  obtain ⟨start, step, starts, known⟩ := formed.start
  refine ⟨collected, few, start, step, starts, known, keyed.distinct, ?_, ?_, ?_, ?_⟩
  · intro entry member empty
    have stable := (keyed.keys entry member).2
    rw [empty] at stable
    exact absurd stable (by decide)
  · intro entry member
    obtain ⟨index, here, same⟩ := List.getElem_of_mem member
    have placed : (entry, index) ∈ (checkedSteps fields).zipIdx := by
      rw [List.mk_mem_zipIdx_iff_getElem?, List.getElem?_eq_getElem here, same]
    exact (formed.each _ placed).type
  · intro entry member truthy
    have route : Dict.get entry.2 "on_success" ∈ routesOf entry.2 :=
      List.mem_filter.mpr ⟨List.mem_map_of_mem List.mem_cons_self, truthy⟩
    obtain ⟨target, next, same, -, stored⟩ := formed.routes entry member _ route
    exact ⟨target, next, same, stored⟩
  · intro path headed walk
    cases path with
    | nil => cases headed
    | cons first rest =>
      obtain rfl := Option.some.inj headed
      obtain ⟨once, -, short⟩ := graph.walks valid first rest starts walk
      exact ⟨once, short⟩

end Accepted

/-! ## Creation -/

/-- A creation that leaves an inert dry run along a path, finished in the same call. -/
structure Inert (db : Database ρ) (path : List (String × Dict)) (reply : Reply ρ) :
    Prop where
  accepted : reply.failure = none
  calls : reply.calls = []
  store : reply.db.store = db.store
  finished : ∃ execution, reply.db.executions.get? db.executions.nextKey =
    some execution ∧ DryFinished path execution

theorem newExecution_dry {store : Store ρ} {playbookId : Nat} {playbook : SoarPlaybook}
    {payload : ExecutionCreate} {actor : Nat} {now : Instant} {proposed : Bool}
    {execution : SoarExecution} (mode : payload.mode = .dryRun)
    (made : newExecution env store playbookId playbook payload actor now proposed =
      .ok execution) :
    DryVisited [] execution ∧ execution.status.isTerminal = false ∧ now < execution.expiresAt ∧
      columnText env (Dict.get execution.definition.fields "start_step") =
        .ok execution.currentStepKey ∧
      execution.definition ∈ playbook.versions ∧
      ∃ result, validateDefinition env.toInterpreter execution.definition
        playbook.triggerMode store.policyMaps = .ok result ∧ result.valid = true := by
  unfold newExecution at made
  obtain ⟨definition, runnable, made⟩ := bind_eq_ok_iff.mp made
  obtain ⟨inputContext, -, made⟩ := bind_eq_ok_iff.mp made
  obtain ⟨variableState, -, made⟩ := bind_eq_ok_iff.mp made
  obtain ⟨start, bound, made⟩ := bind_eq_ok_iff.mp made
  cases made
  refine ⟨⟨mode, rfl, rfl, rfl, rfl, rfl, rfl⟩, ?_, ?_, bound, ?_⟩
  · cases proposed <;> rfl
  · exact Int.lt_add_of_pos_right now (by decide)
  · unfold runnableDefinition at runnable
    split at runnable
    · cases runnable
    split at runnable
    · cases runnable
    rename_i found
    split at runnable
    · cases runnable
    rename_i result validated
    split at runnable
    · cases runnable
    rename_i valid
    split at runnable
    · cases runnable
    cases runnable
    refine ⟨?_, result, validated, by simpa using valid⟩
    unfold SoarPlaybook.definition? at found
    split at found
    · cases found
    · exact List.mem_of_getElem? found

/-- **A dry run is inert.** A dry run of a playbook that the service has written finishes in the
call that creates it: it records the steps on the success routes from the start step in order,
dispatches nothing and asks for nothing. -/
theorem dryRun_inert (db : Database ρ) (request : Request) (account : UserAccount)
    (playbookId : Nat) (playbook : SoarPlaybook) (payload : ExecutionCreate)
    (execution : SoarExecution) (mode : payload.mode = .dryRun)
    (found : db.playbooks.get? playbookId = some playbook) (written : playbook.Written env)
    (unused : (db.executions.first? fun _ execution =>
      execution.playbookId == playbookId &&
        execution.idempotencyKey == payload.idempotencyKey) = none)
    (made : newExecution env db.store playbookId playbook payload request.actor
      request.now false = .ok execution) :
    Inert db (definitionPath execution.definition.fields)
      (createExecution env db request account playbookId payload false) := by
  obtain ⟨visited, live, timely, bound, version, result, validated, valid⟩ :=
    newExecution_dry env mode made
  obtain ⟨fields, definition⟩ := exists_fields_of_valid validated valid
  rw [definition] at validated bound version
  obtain ⟨collected, few, start, step, starts, known, graph⟩ :=
    acceptedGraph_of_valid validated valid
  have path : definitionPath execution.definition.fields =
      successPath (checkedSteps fields) (checkedSteps fields).length start := by
    rw [definition]
    show definitionPath fields = _
    rw [definitionPath, starts]
  have current : execution.currentStepKey = some start := by
    rw [show Dict.get (Json.obj fields).fields "start_step" = .str start from starts] at bound
    exact (Except.ok.inj bound).symm
  have running : DryVisited [] (execution.setStatus .running) :=
    ⟨visited.mode, visited.steps, visited.created, visited.updated, visited.approvals,
      visited.inputs, visited.delay⟩
  generalize contextOf : request.context account db.executions.nextKey = context
  have now : context.now = request.now := by
    rw [← contextOf]
    rfl
  have run : runExecution env context ⟨execution, db.store⟩ =
      runLoop env context (checkedSteps fields) 50 ⟨execution, db.store⟩
        ⟨execution.setStatus .running, db.store⟩ [] := by
    unfold runExecution
    dsimp only
    rw [if_neg (by simp [live]), if_neg (by rw [now]; exact not_le.mpr timely), definition,
      collected]
    rfl
  have loop := @runLoop_dry ρ env context _ _ graph (written.recordable version) 50
    (checkedSteps fields).length [] ⟨execution, db.store⟩
    ⟨execution.setStatus .running, db.store⟩ _ _ known running current rfl
    (List.isChain_singleton start) (by simpa using few) (by simp)
  rw [List.nil_append, ← run] at loop
  have created : createExecution env db request account playbookId payload false =
      onExecution { db with executions := db.executions.insert execution }
        db.executions.nextKey (runExecution env context) := by
    unfold createExecution
    rw [found]
    dsimp only
    rw [unused, made, ← contextOf]
    rfl
  rw [path, created, onExecution, Table.get?_insert_nextKey]
  refine ⟨loop.accepted, loop.calls, loop.store, _, ?_, loop.finished⟩
  rw [Table.get?_modify_self, Table.get?_insert_nextKey]
  rfl

/-! ## A dry run along a delay -/

/-- The steps of a playbook that waits for a minute. -/
def delaySteps : List Json :=
  [plainStep "a" "delay" 0
      [("configuration", .obj [("delay_seconds", .int 60)]), ("on_success", .str "e")],
    plainStep "e" "end" 1 []]

/-- The creation of a dry run by the first administrator. -/
def dryCreation : ExecutionCreate := ⟨"0f8fad5b", .dryRun, "manual", none, "first-run", []⟩

theorem written_delayPlaybook : (plainPlaybook delaySteps).Written plainPlatform := by
  have stored : (storeVersion plainPlatform (plainStore []).policyMaps ⟨.active, .manual, 0, []⟩
      (.obj [("start_step", .str "a"), ("steps", .arr delaySteps)])).toBool = true := by
    decide +kernel
  obtain ⟨after, done⟩ := exists_of_toBool stored
  have same : after = plainPlaybook delaySteps := by
    unfold storeVersion at done
    split at done
    · cases done
    · obtain ⟨rows, -, done⟩ := bind_eq_ok_iff.mp done
      cases done
      rfl
  exact same ▸ .stored (.created .active .manual) done

theorem dryRun_inert_delay :
    ∃ execution, newExecution plainPlatform (plainStore []) 1 (plainPlaybook delaySteps) dryCreation
        1 0 false = .ok execution ∧
      (definitionPath execution.definition.fields).map Prod.fst = ["a", "e"] ∧
      Inert (deployment [] delaySteps) (definitionPath execution.definition.fields)
        (createExecution plainPlatform (deployment [] delaySteps) ⟨0, 1, none, createRun .dryRun⟩
          (administrator "alice") 1 dryCreation false) := by
  have along : (newExecution plainPlatform (plainStore []) 1 (plainPlaybook delaySteps) dryCreation
      1 0 false).toOption.any (fun execution =>
        (definitionPath execution.definition.fields).map Prod.fst == ["a", "e"]) = true := by
    decide +kernel
  cases made : newExecution plainPlatform (plainStore []) 1 (plainPlaybook delaySteps) dryCreation
      1 0 false with
  | error failure =>
    rw [made] at along
    cases along
  | ok execution =>
    rw [made] at along
    exact ⟨execution, rfl, beq_iff_eq.mp along,
      dryRun_inert plainPlatform (deployment [] delaySteps) ⟨0, 1, none, createRun .dryRun⟩
        (administrator "alice") 1 (plainPlaybook delaySteps) dryCreation execution rfl rfl
        written_delayPlaybook rfl made⟩

end ThreatScope.Soar
