import ThreatScope.Soar.Operations

/-!
# What the engine can do to an execution

`EngineStep` lists every change the engine makes to an execution, each with what
holds when it is made, and `runExecution_steps` says that whatever a run of the
engine leaves is reached by such steps, with every dispatcher call made in a
state on the way (`Dispatched`). An invariant of executions is then checked
against the list, and never against the loop.

A run that starts on a record that waits returns at once with the status it has
just written. `EngineStep` can leave that case out: with `quiet` the first step
starts only where no record waits.
-/

set_option autoImplicit false

namespace ThreatScope.Soar

open Library AccessControl

variable {ρ : Type} (env : SoarPlatform ρ)

/-! ## Records and their attempts -/

/-- What never changes of a step record. -/
structure StepIdentity where
  stepKey : String
  stepType : Option StepType
  actionKey : Option String
  attemptNumber : Nat

/-- The identity of a step record. -/
def SoarStepExecution.identity (step : SoarStepExecution) : StepIdentity :=
  ⟨step.stepKey, step.stepType, step.actionKey, step.attemptNumber⟩

namespace SoarExecution

/-- The identities of the step records. -/
def identities (execution : SoarExecution) : List StepIdentity :=
  execution.steps.map SoarStepExecution.identity

/-- The record of the current step. -/
def currentRecord? (execution : SoarExecution) : Option (SoarStepExecution × Nat) :=
  execution.currentStepKey.bind execution.newestAttempt?

/-- Every step with a record has a first attempt. -/
def FirstAttempts (execution : SoarExecution) : Prop :=
  ∀ identity ∈ execution.identities, ∃ first ∈ execution.identities,
    first.stepKey = identity.stepKey ∧ first.attemptNumber = 1

@[simp] theorem identities_setStatus (execution : SoarExecution) (status : ExecutionStatus) :
    (execution.setStatus status).identities = execution.identities := rfl

theorem identities_modifyStep (execution : SoarExecution) (position : Nat)
    (change : SoarStepExecution → SoarStepExecution)
    (kept : ∀ step, (change step).identity = step.identity) :
    (execution.modifyStep position change).identities = execution.identities :=
  Rows.map_modify_of_kept execution.steps position change _ kept

@[simp] theorem identities_setStepStatus (execution : SoarExecution) (position : Nat)
    (status : StepStatus) :
    (execution.setStepStatus position status).identities = execution.identities :=
  execution.identities_modifyStep position _ fun _ => rfl

@[simp] theorem steps_recordOutput (execution : SoarExecution) (position : Nat)
    (status : StepStatus) (output : Json) (next : Option String) :
    (execution.recordOutput position status output next).steps =
      execution.steps.modify position fun step =>
        { step with status := status, outputSnapshot := output } := rfl

@[simp] theorem approvals_recordOutput (execution : SoarExecution) (position : Nat)
    (status : StepStatus) (output : Json) (next : Option String) :
    (execution.recordOutput position status output next).approvals = execution.approvals := rfl

@[simp] theorem inputs_recordOutput (execution : SoarExecution) (position : Nat)
    (status : StepStatus) (output : Json) (next : Option String) :
    (execution.recordOutput position status output next).inputs = execution.inputs := rfl

@[simp] theorem identities_recordOutput (execution : SoarExecution) (position : Nat)
    (status : StepStatus) (output : Json) (next : Option String) :
    (execution.recordOutput position status output next).identities = execution.identities :=
  execution.identities_modifyStep position _ fun _ => rfl

@[simp] theorem identities_askApproval (execution : SoarExecution) (position : Nat)
    (approval : SoarApproval) :
    (execution.askApproval position approval).identities = execution.identities :=
  execution.identities_setStepStatus position _

@[simp] theorem identities_askInput (execution : SoarExecution) (position : Nat)
    (added : List SoarAnalystInput) :
    (execution.askInput position added).identities = execution.identities :=
  execution.identities_setStepStatus position _

@[simp] theorem identities_startDelay (execution : SoarExecution) (position : Nat) (due : Instant) :
    (execution.startDelay position due).identities = execution.identities :=
  execution.identities_setStepStatus position _

@[simp] theorem identities_absorb (execution : SoarExecution) (outcome : DispatchOutcome ρ) :
    (execution.absorb outcome).identities = execution.identities := rfl

@[simp] theorem identities_fail (execution : SoarExecution) (code summary : String) :
    (execution.fail code summary).identities = execution.identities := by
  simp only [fail]
  split
  · exact execution.identities_modifyStep _ _ fun _ => rfl
  · rfl

@[simp] theorem identities_addStep (execution : SoarExecution) (step : SoarStepExecution) :
    (execution.addStep step).identities = execution.identities ++ [step.identity] :=
  List.map_append

theorem newestAttempt?_modifyStep (execution : SoarExecution) (position : Nat)
    (change : SoarStepExecution → SoarStepExecution) (key : String)
    (kept : ∀ step, (change step).identity = step.identity) :
    (execution.modifyStep position change).newestAttempt? key =
      (execution.newestAttempt? key).map fun row =>
        if row.2 = position then (change row.1, row.2) else row := by
  have sameKey : ∀ step, (change step).stepKey = step.stepKey :=
    fun step => congrArg StepIdentity.stepKey (kept step)
  have sameAttempt : ∀ step, (change step).attemptNumber = step.attemptNumber :=
    fun step => congrArg StepIdentity.attemptNumber (kept step)
  exact Rows.largest?_modify execution.steps position change _ _
    (fun step => by simp only [sameKey step]) sameAttempt

theorem getElem?_of_newestAttempt? {execution : SoarExecution} {key : String}
    {record : SoarStepExecution} {position : Nat}
    (found : execution.newestAttempt? key = some (record, position)) :
    execution.steps[position]? = some record ∧ record.stepKey = key := by
  obtain ⟨here, same⟩ := Rows.mem_of_largest? found
  exact ⟨here, by simpa using same⟩

end SoarExecution

theorem newStep_ok {execution : SoarExecution} {key : String} {step : Dict}
    {record : SoarStepExecution} (made : newStep env execution key step = .ok record) :
    record.stepKey = key ∧ record.stepType = typeOf step ∧
      columnText env (Dict.get step "action_key") = .ok record.actionKey ∧
      record.status = .running ∧ record.attemptNumber = execution.nextAttempt key ∧
      ∀ row ∈ execution.steps, row.stepKey = key →
        row.attemptNumber ≠ execution.nextAttempt key := by
  unfold newStep at made
  obtain ⟨typeValue, -, made⟩ := bind_eq_ok_iff.mp made
  obtain ⟨-, -, made⟩ := bind_eq_ok_iff.mp made
  obtain ⟨-, -, made⟩ := bind_eq_ok_iff.mp made
  obtain ⟨actionKey, bound, made⟩ := bind_eq_ok_iff.mp made
  split at made
  · cases made
  rename_i unique
  cases made
  refine ⟨rfl, rfl, bound, rfl, rfl, ?_⟩
  intro row member same taken
  exact unique (List.any_eq_true.mpr ⟨row, member, by simp [same, taken]⟩)

theorem newestAttempt?_addStep {execution : SoarExecution} {key : String} {step : Dict}
    {record : SoarStepExecution} (attempts : execution.FirstAttempts)
    (fresh : ∀ existing position, execution.newestAttempt? key = some (existing, position) →
      existing.status.isReusable = false)
    (made : newStep env execution key step = .ok record) :
    (execution.addStep record).newestAttempt? key = some (record, execution.steps.length) := by
  obtain ⟨sameKey, -, -, -, attempt, unique⟩ := newStep_ok env made
  have passes : (record.stepKey == key) = true := by simp [sameKey]
  have shape := Rows.largest?_concat execution.steps record (fun step => step.stepKey == key)
    fun step => step.attemptNumber
  rw [if_pos passes] at shape
  show Rows.largest? (execution.steps ++ [record]) _ _ = _
  rw [shape]
  cases found : Rows.largest? execution.steps (fun step => step.stepKey == key)
      fun step => step.attemptNumber with
  | none => rfl
  | some best =>
    obtain ⟨existing, position⟩ := best
    have newest : execution.newestAttempt? key = some (existing, position) := found
    obtain ⟨here, same⟩ := SoarExecution.getElem?_of_newestAttempt? newest
    have notReusable := fresh existing position newest
    simp only [SoarExecution.nextAttempt, newest] at attempt
    cases status : existing.status with
    | failed =>
      rw [status, if_pos rfl] at attempt
      simp [attempt]
    | running =>
      -- A first attempt exists, so the attempt number 1 is taken.
      rw [status, if_neg (by simp)] at attempt
      obtain ⟨first, member, firstKey, firstNumber⟩ := attempts existing.identity
        (List.mem_map.mpr ⟨existing, List.mem_of_getElem? here, rfl⟩)
      obtain ⟨row, stored, rfl⟩ := List.mem_map.mp member
      have number : execution.nextAttempt key = 1 := by
        simp [SoarExecution.nextAttempt, newest, status]
      exact absurd (firstNumber.trans number.symm)
        (unique row stored (firstKey.trans same))
    | _ => rw [status] at notReusable; cases notReusable

theorem FirstAttempts.addStep {execution : SoarExecution} {key : String} {step : Dict}
    {record : SoarStepExecution} (attempts : execution.FirstAttempts)
    (made : newStep env execution key step = .ok record) :
    (execution.addStep record).FirstAttempts := by
  obtain ⟨sameKey, -, -, -, attempt, -⟩ := newStep_ok env made
  intro identity member
  rw [SoarExecution.identities_addStep] at member ⊢
  rcases List.mem_append.mp member with old | new
  · obtain ⟨first, stored, firstKey, number⟩ := attempts identity old
    exact ⟨first, List.mem_append_left _ stored, firstKey, number⟩
  · rw [List.mem_singleton.mp new]
    cases found : execution.newestAttempt? key with
    | none =>
      refine ⟨record.identity, List.mem_append_right _ (List.mem_singleton.mpr rfl), rfl, ?_⟩
      rw [SoarExecution.nextAttempt, found] at attempt
      exact attempt
    | some best =>
      obtain ⟨existing, position⟩ := best
      obtain ⟨here, same⟩ := SoarExecution.getElem?_of_newestAttempt? found
      obtain ⟨first, stored, firstKey, number⟩ := attempts existing.identity
        (List.mem_map.mpr ⟨existing, List.mem_of_getElem? here, rfl⟩)
      exact ⟨first, List.mem_append_left _ stored,
        firstKey.trans (same.trans sameKey.symm), number⟩

theorem FirstAttempts.of_identities {execution other : SoarExecution}
    (attempts : execution.FirstAttempts) (same : other.identities = execution.identities) :
    other.FirstAttempts := by
  unfold SoarExecution.FirstAttempts
  rw [same]
  exact attempts

/-! ## The steps of the engine -/

/-- The engine is at a step whose record is at hand and does not wait. -/
structure AtStep (execution : SoarExecution) (key : String) (step : Dict)
    (record : SoarStepExecution) (position : Nat) : Prop where
  current : execution.currentStepKey = some key
  defined : ∃ byKey, stepsByKey execution.definition = .ok byKey ∧ stepOf byKey key = some step
  newest : execution.newestAttempt? key = some (record, position)
  idle : record.status.isWaiting = false

/-- An approval is the one a step asks for: an approval step for itself, any other
step for its action. -/
structure Asks (step : Dict) (position : Nat) (approval : SoarApproval) : Prop where
  record : approval.stepExecution = position
  pending : approval.status = .pending
  undecided : approval.decisions = []
  kind : typeOf step = some .approval ∨
    typeOf step ≠ some .approval ∧ ∃ key,
      catalogEntry (Dict.get step "action_key") = .ok (some key) ∧
      key.definition.approvalType.isSome ∧
      (key.definition.safetyClassification = .sensitiveLocal →
        approval.separationRequired = true ∧
          approval.requiredPermission = "soar:sensitive_actions")

/-- A change the engine makes to an execution. -/
inductive EngineStep (quiet : Prop) : SoarExecution → SoarExecution → Prop where
  | start {execution : SoarExecution}
      (idle : quiet → ∀ record position, execution.currentRecord? = some (record, position) →
        record.status.isWaiting = false) :
      EngineStep quiet execution (execution.setStatus .running)
  | enter {execution : SoarExecution} {key : String} {step : Dict} {record : SoarStepExecution}
      (current : execution.currentStepKey = some key)
      (defined : ∃ byKey, stepsByKey execution.definition = .ok byKey ∧
        stepOf byKey key = some step)
      (fresh : ∀ existing position, execution.newestAttempt? key = some (existing, position) →
        existing.status.isReusable = false)
      (made : newStep env execution key step = .ok record) :
      EngineStep quiet execution (execution.addStep record)
  | askApproval {execution : SoarExecution} {key : String} {step : Dict}
      {record : SoarStepExecution} {position : Nat} {approval : SoarApproval}
      (here : AtStep execution key step record position)
      (unasked : execution.latestApproval? position = none)
      (asks : Asks step position approval) :
      EngineStep quiet execution (execution.askApproval position approval)
  | askInput {execution : SoarExecution} {key : String} {step : Dict}
      {record : SoarStepExecution} {position : Nat} {added : List SoarAnalystInput}
      (here : AtStep execution key step record position)
      (asks : added = [] ∨ ∃ input, added = [input] ∧ input.stepExecution = position ∧
        ∀ other ∈ execution.inputs, other.stepExecution ≠ position) :
      EngineStep quiet execution (execution.askInput position added)
  | startDelay {execution : SoarExecution} {key : String} {step : Dict}
      {record : SoarStepExecution} {position : Nat} {due : Instant}
      (here : AtStep execution key step record position) :
      EngineStep quiet execution (execution.startDelay position due)
  | absorb {execution : SoarExecution} (outcome : DispatchOutcome ρ) :
      EngineStep quiet execution (execution.absorb outcome)
  | record {execution : SoarExecution} {key : String} {step : Dict}
      {record : SoarStepExecution} {position : Nat} {status : StepStatus} {output : Json}
      {next : Option String} (here : AtStep execution key step record position)
      (done : status = .skipped ∨ status = .succeeded ∨ status = .simulated) :
      EngineStep quiet execution (execution.recordOutput position status output next)
  | close {execution : SoarExecution} {status : ExecutionStatus}
      (terminal : status = .completed ∨ status = .completedWithWarnings ∨ status = .expired) :
      EngineStep quiet execution (execution.setStatus status)
  | fail {execution : SoarExecution} {code summary : String} :
      EngineStep quiet execution (execution.fail code summary)

/-- Any number of such changes. -/
abbrev EngineSteps (quiet : Prop) : SoarExecution → SoarExecution → Prop :=
  Relation.ReflTransGen (EngineStep env quiet)

section Steps

variable {quiet : Prop} {execution other : SoarExecution}

theorem EngineStep.definition (step : EngineStep env quiet execution other) :
    other.definition = execution.definition := by
  cases step with
  | fail =>
    simp only [SoarExecution.fail]
    split <;> rfl
  | _ => rfl

theorem EngineSteps.definition (steps : EngineSteps env quiet execution other) :
    other.definition = execution.definition := by
  induction steps with
  | refl => rfl
  | tail _ step ih => exact (step.definition env).trans ih

theorem EngineStep.firstAttempts (step : EngineStep env quiet execution other)
    (attempts : execution.FirstAttempts) : other.FirstAttempts := by
  cases step with
  | enter current defined fresh made => exact FirstAttempts.addStep env attempts made
  | _ => exact FirstAttempts.of_identities attempts (by simp)

theorem EngineSteps.firstAttempts (steps : EngineSteps env quiet execution other)
    (attempts : execution.FirstAttempts) : other.FirstAttempts := by
  induction steps with
  | refl => exact attempts
  | tail _ step ih => exact step.firstAttempts env ih

end Steps

/-! ## The phases of a turn -/

/-- An action is about to be dispatched: it is the catalog entry of the step, its
checks are passed, and the approval it needs is given. -/
structure Ready (context : RunContext) (work : Work ρ) (step : Dict) (position : Nat)
    (action : ActionDefinition) : Prop where
  live : work.execution.mode ≠ .dryRun
  stepType : typeOf step ≠ some .approval
  entry : ∃ key, catalogEntry (Dict.get step "action_key") = .ok (some key) ∧
    action = key.definition
  unrefused : actionRefusal context work action = none
  approved : action.approvalType.isSome → ∃ approval place,
    work.execution.latestApproval? position = some (approval, place) ∧
      approval.status = .approved

/-- A call of the dispatcher the engine makes on its way from an execution. -/
structure Dispatched (context : RunContext) (quiet : Prop) (origin : SoarExecution)
    (call : DispatchCall ρ) : Prop where
  forward : call.compensation = false
  execution : call.executionId = context.executionId
  reached : EngineSteps env quiet origin call.work.execution
  ready : ∃ key step record, AtStep call.work.execution key step record call.step ∧
    Ready context call.work step call.step call.action

/-- What a turn leaves is reached from an execution. -/
def Turn.Reaches (context : RunContext) (quiet : Prop) (origin : SoarExecution) :
    Turn ρ → Prop
  | .stop reply => EngineSteps env quiet origin reply.work.execution ∧
      ∀ call ∈ reply.calls, Dispatched env context quiet origin call
  | .next work calls => EngineSteps env quiet origin work.execution ∧
      ∀ call ∈ calls, Dispatched env context quiet origin call

section Phases

variable {context : RunContext} {quiet : Prop}

theorem createStep_ok (quiet : Prop) {execution other : SoarExecution} {key : String} {step : Dict}
    {record : SoarStepExecution} {position : Nat} (attempts : execution.FirstAttempts)
    (current : execution.currentStepKey = some key)
    (defined : ∃ byKey, stepsByKey execution.definition = .ok byKey ∧
      stepOf byKey key = some step)
    (created : createStep env execution key step = .ok (other, record, position)) :
    EngineSteps env quiet execution other ∧ other.currentStepKey = some key ∧
      other.newestAttempt? key = some (record, position) := by
  unfold createStep at created
  split at created
  · rename_i existing place found
    cases created
    obtain ⟨newest, -⟩ := Option.filter_eq_some_iff.mp found
    exact ⟨.refl, current, newest⟩
  · rename_i unused
    split at created
    · cases created
    rename_i made
    cases created
    have fresh : ∀ existing position,
        execution.newestAttempt? key = some (existing, position) →
          existing.status.isReusable = false := by
      intro existing position newest
      rw [newest] at unused
      simpa using Option.filter_eq_none_iff.mp unused (existing, position) rfl
    exact ⟨.single (.enter current defined fresh made), current,
      newestAttempt?_addStep env attempts fresh made⟩

theorem newApproval_ok {store : Store ρ} {position : Nat} {action : Option ActionDefinition}
    {config : Dict} {approvalType : String} {approval : SoarApproval}
    (made : newApproval env context store position action config approvalType =
      .ok approval) :
    approval.stepExecution = position ∧ approval.status = .pending ∧ approval.decisions = [] ∧
      (isSensitiveAction action = true → approval.separationRequired = true ∧
        approval.requiredPermission = "soar:sensitive_actions") := by
  unfold newApproval at made
  obtain ⟨minimum, -, made⟩ := bind_eq_ok_iff.mp made
  obtain ⟨lifetime, -, made⟩ := bind_eq_ok_iff.mp made
  obtain ⟨assigned, -, made⟩ := bind_eq_ok_iff.mp made
  cases made
  refine ⟨rfl, rfl, rfl, ?_⟩
  intro sensitive
  simp [sensitive]

theorem pendingApproval_ok {work result : Work ρ} {position : Nat}
    {action : Option ActionDefinition} {config : Dict} {approvalType : String}
    {approval : SoarApproval}
    (asked : pendingApproval env context work position action config approvalType =
      .ok (result, approval)) :
    (result = work ∧ ∃ place, work.execution.latestApproval? position = some (approval, place)) ∨
      (work.execution.latestApproval? position = none ∧
        newApproval env context work.store position action config approvalType =
          .ok approval ∧
        result = { work with execution := work.execution.askApproval position approval }) := by
  unfold pendingApproval at asked
  split at asked
  · rename_i existing place found
    cases asked
    exact .inl ⟨rfl, place, found⟩
  · rename_i none
    split at asked
    · cases asked
    rename_i made
    cases asked
    exact .inr ⟨none, made, rfl⟩

theorem newInput_ok {store : Store ρ} {position : Nat} {config : Dict} {input : SoarAnalystInput}
    (made : newInput env context store position config = .ok input) :
    input.stepExecution = position := by
  unfold newInput at made
  obtain ⟨schema, -, made⟩ := bind_eq_ok_iff.mp made
  obtain ⟨names, -, made⟩ := bind_eq_ok_iff.mp made
  obtain ⟨required, -, made⟩ := bind_eq_ok_iff.mp made
  obtain ⟨lifetime, -, made⟩ := bind_eq_ok_iff.mp made
  obtain ⟨requested, -, made⟩ := bind_eq_ok_iff.mp made
  cases made
  rfl

/-- What a plan may do to the execution it is made for. -/
def StepPlan.Fits (context : RunContext) (quiet : Prop) (work : Work ρ) (step : Dict)
    (position : Nat) : StepPlan ρ → Prop
  | .halt result => EngineSteps env quiet work.execution result.execution
  | .fail .. => True
  | .record _ status _ => status = .skipped ∨ status = .succeeded ∨ status = .simulated
  | .dispatch action _ _ => Ready context work step position action

theorem pendingApproval_steps {work result : Work ρ} {key : String} {step : Dict}
    {record : SoarStepExecution} {position : Nat} {action : Option ActionDefinition}
    {config : Dict} {approvalType : String} {approval : SoarApproval}
    (here : AtStep work.execution key step record position)
    (kind : typeOf step = some .approval ∨ typeOf step ≠ some .approval ∧
      ∃ key, catalogEntry (Dict.get step "action_key") = .ok (some key) ∧
        key.definition.approvalType.isSome ∧ action = some key.definition)
    (asked : pendingApproval env context work position action config approvalType =
      .ok (result, approval)) :
    EngineSteps env quiet work.execution result.execution := by
  rcases pendingApproval_ok env asked with ⟨rfl, -⟩ | ⟨unasked, made, rfl⟩
  · exact .refl
  · obtain ⟨place, pending, undecided, sensitive⟩ := newApproval_ok env made
    refine .single (.askApproval here unasked ⟨place, pending, undecided, ?_⟩)
    rcases kind with step | ⟨other, key, entry, needed, rfl⟩
    · exact .inl step
    · refine .inr ⟨other, key, entry, needed, ?_⟩
      intro class_
      exact sensitive (by simp [isSensitiveAction, class_])

/-- The plan of an action fits the step it is made for. -/
theorem planAction_fits {work : Work ρ} {key : String} {step config : Dict}
    {record : SoarStepExecution} {position : Nat} {plan : StepPlan ρ}
    (here : AtStep work.execution key step record position)
    (live : work.execution.mode ≠ .dryRun) (stepType : typeOf step ≠ some .approval)
    (planned : planAction env context work position step config = .ok plan) :
    plan.Fits env context quiet work step position := by
  unfold planAction at planned
  split at planned
  · cases planned
  · cases planned
    trivial
  · rename_i key entry
    dsimp only at planned
    split at planned
    · cases planned
      trivial
    · rename_i unrefused
      split at planned
      · rename_i unneeded
        cases planned
        exact ⟨live, stepType, ⟨key, entry, rfl⟩, unrefused,
          fun needed => by simp [unneeded] at needed⟩
      · rename_i approvalType needed
        split at planned
        · cases planned
        · rename_i result approval asked
          split at planned
          · rename_i approved
            cases planned
            refine ⟨live, stepType, ⟨key, entry, rfl⟩, unrefused, fun _ => ?_⟩
            rcases pendingApproval_ok env asked with
              ⟨-, place, latest⟩ | ⟨-, made, -⟩
            · exact ⟨approval, place, latest, approved⟩
            · obtain ⟨-, pending, -, -⟩ := newApproval_ok env made
              rw [pending] at approved
              cases approved
          · cases planned
            exact pendingApproval_steps env here
              (.inr ⟨stepType, key, entry, by simp [needed], rfl⟩) asked

/-- **A plan fits the execution it is made for.** -/
theorem planStep_fits (quiet : Prop) {work : Work ρ} {key : String} {step : Dict}
    {record : SoarStepExecution} {position : Nat} {plan : StepPlan ρ}
    (here : AtStep work.execution key step record position)
    (planned : planStep env context work position step = .ok plan) :
    plan.Fits env context quiet work step position := by
  unfold planStep at planned
  split at planned
  · cases planned
  dsimp only at planned
  split at planned
  · cases planned
    exact .inl rfl
  rename_i notDry
  split at planned
  · -- The end of the playbook.
    unfold planEnd at planned
    split at planned
    · cases planned
      trivial
    split at planned
    · cases planned
    · cases planned
      exact (Relation.ReflTransGen.single (.record here (.inr (.inl rfl)))).tail
        (.close (.inl rfl))
  · unfold planCondition at planned
    split at planned
    · cases planned
    split at planned
    · cases planned
    · cases planned
      exact .inr (.inl rfl)
  · rename_i approval
    split at planned
    · cases planned
    · rename_i asked
      cases planned
      exact pendingApproval_steps env here (.inl approval) asked
  · split at planned
    · cases planned
    · rename_i asked
      cases planned
      unfold awaitInput at asked
      split at asked
      · cases asked
        exact .single (.askInput here (.inl rfl))
      · rename_i unasked
        split at asked
        · cases asked
        rename_i input made
        cases asked
        refine .single (.askInput here (.inr ⟨input, rfl, newInput_ok env made, ?_⟩))
        intro other member same
        exact List.find?_eq_none.mp unasked other member (by simp [same])
  · split at planned
    · cases planned
    · rename_i asked
      cases planned
      unfold awaitDelay at asked
      split at asked
      · cases asked
      · cases asked
        exact .single (.startDelay here)
  · rename_i notEnd notCondition notApproval notInput notDelay
    have live : work.execution.mode ≠ .dryRun := by
      intro dry
      exact notDry ⟨dry, notEnd⟩
    exact planAction_fits env here live notApproval planned

/-- An aborted turn leaves what was saved, and that is reached. -/
theorem abortTurn_reaches {origin : SoarExecution} {saved : Work ρ} {failure : Failure}
    {calls : List (DispatchCall ρ)} (savedReached : EngineSteps env quiet origin saved.execution)
    (dispatched : ∀ call ∈ calls, Dispatched env context quiet origin call) :
    (abortTurn saved failure calls).Reaches env context quiet origin := by
  cases failure with
  | http error => exact ⟨savedReached, dispatched⟩
  | other message => exact ⟨savedReached.tail .fail, dispatched⟩

theorem recordStep_reaches {origin : SoarExecution} {saved work : Work ρ} {position : Nat}
    {output : Dict} {status : StepStatus} {route : Json} {violation : Option String}
    {calls : List (DispatchCall ρ)} {key : String} {step : Dict} {record : SoarStepExecution}
    (savedReached : EngineSteps env quiet origin saved.execution)
    (workReached : EngineSteps env quiet origin work.execution)
    (here : AtStep work.execution key step record position)
    (done : status = .skipped ∨ status = .succeeded ∨ status = .simulated)
    (dispatched : ∀ call ∈ calls, Dispatched env context quiet origin call) :
    (recordStep env saved work position output status route violation calls).Reaches
      env context quiet origin := by
  unfold recordStep
  split
  · exact abortTurn_reaches env savedReached dispatched
  split
  · exact abortTurn_reaches env savedReached dispatched
  · exact abortTurn_reaches env savedReached dispatched
  · rename_i stored _ _ _ next _
    have recorded : EngineSteps env quiet origin
        (work.execution.recordOutput position status stored next) :=
      workReached.tail (.record here done)
    dsimp only
    split
    · exact ⟨recorded, dispatched⟩
    · exact ⟨recorded.tail (.close (.inr (.inl rfl))), dispatched⟩

theorem AtStep.absorb {execution : SoarExecution} {key : String} {step : Dict}
    {record : SoarStepExecution} {position : Nat} (outcome : DispatchOutcome ρ)
    (here : AtStep execution key step record position) :
    AtStep (execution.absorb outcome) key step record position :=
  ⟨here.current, here.defined, here.newest, here.idle⟩

/-- What a turn leaves at a step is reached. -/
theorem takeStep_reaches {origin : SoarExecution} {saved work : Work ρ} {position : Nat}
    {key : String} {step : Dict} {record : SoarStepExecution}
    (savedReached : EngineSteps env quiet origin saved.execution)
    (workReached : EngineSteps env quiet origin work.execution)
    (here : AtStep work.execution key step record position) :
    (takeStep env context saved work position key step).Reaches env context quiet
      origin := by
  have nothing : ∀ call ∈ ([] : List (DispatchCall ρ)),
      Dispatched env context quiet origin call :=
    fun _ member => absurd member List.not_mem_nil
  unfold takeStep
  split
  · exact abortTurn_reaches env savedReached nothing
  · rename_i planned
    exact ⟨workReached.trans (planStep_fits env quiet here planned), nothing⟩
  · exact ⟨workReached.tail .fail, nothing⟩
  · rename_i planned
    exact recordStep_reaches env savedReached workReached here
      (planStep_fits env quiet here planned) nothing
  · rename_i action config route planned
    have ready := planStep_fits env quiet here planned
    have dispatched : ∀ call ∈ [(⟨action, context.executionId, work, position, context.actor,
        false⟩ : DispatchCall ρ)], Dispatched env context quiet origin call := by
      intro call member
      rw [List.mem_singleton.mp member]
      exact ⟨rfl, rfl, workReached, key, step, record, here, ready⟩
    unfold dispatchStep
    dsimp only
    split
    · exact abortTurn_reaches env savedReached dispatched
    · rename_i outcome _
      have absorbed := workReached.tail (.absorb outcome)
      refine recordStep_reaches env ?_ absorbed (here.absorb outcome) ?_ dispatched
      · split
        · exact absorbed
        · exact savedReached
      · cases action.simulationOnly
        · exact .inr (.inl rfl)
        · exact .inr (.inr rfl)

/-- **One turn of the loop.** -/
theorem runTurn_reaches (context : RunContext) {origin : SoarExecution}
    {byKey : List (String × Dict)} {saved work : Work ρ} {key : String}
    (savedReached : EngineSteps env quiet origin saved.execution)
    (workReached : EngineSteps env quiet origin work.execution)
    (attempts : work.execution.FirstAttempts) (current : work.execution.currentStepKey = some key)
    (defined : stepsByKey work.execution.definition = .ok byKey) :
    (runTurn env context byKey saved work key).Reaches env context quiet origin := by
  have nothing : ∀ call ∈ ([] : List (DispatchCall ρ)),
      Dispatched env context quiet origin call :=
    fun _ member => absurd member List.not_mem_nil
  unfold runTurn
  split
  · exact ⟨workReached.tail .fail, nothing⟩
  · rename_i step known
    split
    · exact ⟨savedReached, nothing⟩
    · rename_i other record position created
      obtain ⟨entered, sameKey, newest⟩ :=
        createStep_ok env quiet attempts current ⟨byKey, defined, known⟩ created
      have enteredReached := workReached.trans entered
      dsimp only
      split
      · exact ⟨enteredReached, nothing⟩
      · rename_i idle
        have definition : stepsByKey other.definition = .ok byKey := by
          rw [entered.definition env]
          exact defined
        have here : AtStep other key step record position :=
          ⟨sameKey, ⟨byKey, definition, known⟩, newest, by simpa using idle⟩
        exact takeStep_reaches env savedReached enteredReached here

/-- By induction on the turns, what the loop leaves is reached. -/
theorem runLoop_reaches {origin : SoarExecution} {byKey : List (String × Dict)}
    (attempts : origin.FirstAttempts) (defined : stepsByKey origin.definition = .ok byKey)
    (turns : Nat) : ∀ {saved work : Work ρ} {calls : List (DispatchCall ρ)},
    EngineSteps env quiet origin saved.execution →
    EngineSteps env quiet origin work.execution →
    (∀ call ∈ calls, Dispatched env context quiet origin call) →
    EngineSteps env quiet origin
        (runLoop env context byKey turns saved work calls).work.execution ∧
      ∀ call ∈ (runLoop env context byKey turns saved work calls).calls,
        Dispatched env context quiet origin call := by
  induction turns with
  | zero =>
    intro saved work calls _ workReached dispatched
    exact ⟨workReached.tail .fail, dispatched⟩
  | succ turns ih =>
    intro saved work calls savedReached workReached dispatched
    unfold runLoop
    split
    · exact ⟨workReached.tail .fail, dispatched⟩
    · rename_i key found
      obtain ⟨current, -⟩ := Option.filter_eq_some_iff.mp found
      have turn := runTurn_reaches env context savedReached workReached
        (workReached.firstAttempts env attempts) current
        (by rw [workReached.definition env]; exact defined)
      split
      · rename_i reply stopped
        rw [stopped] at turn
        obtain ⟨reached, more⟩ := turn
        refine ⟨reached, fun call member => ?_⟩
        rcases List.mem_append.mp member with before | now
        · exact dispatched call before
        · exact more call now
      · rename_i next more goesOn
        rw [goesOn] at turn
        obtain ⟨reached, later⟩ := turn
        refine ih reached reached fun call member => ?_
        rcases List.mem_append.mp member with before | now
        · exact dispatched call before
        · exact later call now

/-- **What a run of the engine does.** It reaches what it leaves by engine steps,
and dispatches only on the way. -/
theorem runExecution_steps {work : Work ρ} (attempts : work.execution.FirstAttempts)
    (idle : quiet → ∀ record position,
      work.execution.currentRecord? = some (record, position) →
        record.status.isWaiting = false) :
    EngineSteps env quiet work.execution
        (runExecution env context work).work.execution ∧
      ∀ call ∈ (runExecution env context work).calls,
        Dispatched env context quiet work.execution call := by
  have nothing : ∀ call ∈ ([] : List (DispatchCall ρ)),
      Dispatched env context quiet work.execution call :=
    fun _ member => absurd member List.not_mem_nil
  unfold runExecution
  split
  · exact ⟨.refl, nothing⟩
  split
  · exact ⟨.single (.close (.inr (.inr rfl))), nothing⟩
  split
  · exact ⟨.refl, nothing⟩
  · rename_i byKey defined
    exact runLoop_reaches env attempts defined 50 .refl (.single (.start idle)) nothing

end Phases

end ThreatScope.Soar
