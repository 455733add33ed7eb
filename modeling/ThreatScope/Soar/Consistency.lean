import ThreatScope.Soar.Events

/-!
# Records agree with the playbook

Three facts hold of every execution at every time (`Consistent`): a step with a
record has a first attempt, a step record carries the type and the action its
playbook gives the step, and an approval belongs to an approval step or to a
step whose action needs one, with the separation and the permission its action
prescribes.

Only two engine steps add rows, `enter` and `askApproval`; every other write
keeps the identities of the records and the kinds of the approvals
(`SameRecords`).
-/

set_option autoImplicit false

namespace ThreatScope.Soar

open Library AccessControl

variable {ρ : Type} (env : SoarPlatform ρ)

/-- What never changes of an approval and depends on its step. -/
structure ApprovalKind where
  stepExecution : Nat
  requiredPermission : String
  separationRequired : Bool

/-- The kind of an approval. -/
def SoarApproval.kind (approval : SoarApproval) : ApprovalKind :=
  ⟨approval.stepExecution, approval.requiredPermission, approval.separationRequired⟩

/-- The kinds of the approvals of an execution. -/
def SoarExecution.approvalKinds (execution : SoarExecution) : List ApprovalKind :=
  execution.approvals.map SoarApproval.kind

/-- A step record carries what its playbook says about the step. -/
def Follows (definition : Json) (identity : StepIdentity) : Prop :=
  ∃ byKey step, stepsByKey definition = .ok byKey ∧
    stepOf byKey identity.stepKey = some step ∧ identity.stepType = typeOf step ∧
    columnText env (Dict.get step "action_key") = .ok identity.actionKey

/-- The action of a step record, when the catalog has it. -/
def StepIdentity.action? (identity : StepIdentity) : Option ActionKey :=
  identity.actionKey.bind ActionKey.ofText?

/-- A step record admits an approval of a kind. -/
def StepIdentity.Admits (identity : StepIdentity) (kind : ApprovalKind) : Prop :=
  identity.stepType = some .approval ∨
    identity.stepType ≠ some .approval ∧ ∃ key, identity.action? = some key ∧
      key.definition.approvalType.isSome ∧
      (key.definition.safetyClassification = .sensitiveLocal →
        kind.separationRequired = true ∧ kind.requiredPermission = "soar:sensitive_actions")

/-- The rows of an execution agree with its playbook and with each other. -/
structure Consistent (execution : SoarExecution) : Prop where
  attempts : execution.FirstAttempts
  records : ∀ identity ∈ execution.identities, Follows env execution.definition identity
  approvals : ∀ kind ∈ execution.approvalKinds, ∃ identity,
    execution.identities[kind.stepExecution]? = some identity ∧ identity.Admits kind

/-! ## Writes that add no row -/

/-- Two states of an execution with the same records and approvals, but for what
may change of them. -/
structure SameRecords (execution other : SoarExecution) : Prop where
  definition : other.definition = execution.definition
  requested : other.requestedByUserId = execution.requestedByUserId
  identities : other.identities = execution.identities
  kinds : other.approvalKinds = execution.approvalKinds

section Writes

variable {env} {execution other third : SoarExecution}

theorem Consistent.of_same (consistent : Consistent env execution)
    (same : SameRecords execution other) : Consistent env other := by
  constructor
  · exact FirstAttempts.of_identities consistent.attempts same.identities
  · rw [same.identities, same.definition]
    exact consistent.records
  · rw [same.kinds, same.identities]
    exact consistent.approvals

theorem SameRecords.trans (first : SameRecords execution other)
    (second : SameRecords other third) : SameRecords execution third :=
  ⟨second.definition.trans first.definition, second.requested.trans first.requested,
    second.identities.trans first.identities, second.kinds.trans first.kinds⟩

theorem SameRecords.setStatus (execution : SoarExecution) (status : ExecutionStatus) :
    SameRecords execution (execution.setStatus status) :=
  ⟨rfl, rfl, rfl, rfl⟩

theorem SameRecords.modifyInput (execution : SoarExecution) (position : Nat)
    (change : SoarAnalystInput → SoarAnalystInput) :
    SameRecords execution (execution.modifyInput position change) :=
  ⟨rfl, rfl, rfl, rfl⟩

theorem SameRecords.recordOutput (execution : SoarExecution) (position : Nat)
    (status : StepStatus) (output : Json) (next : Option String) :
    SameRecords execution (execution.recordOutput position status output next) :=
  ⟨rfl, rfl, execution.identities_recordOutput position status output next, rfl⟩

theorem SameRecords.modifyApproval (execution : SoarExecution) (position : Nat)
    (change : SoarApproval → SoarApproval) (kept : ∀ approval, (change approval).kind =
      approval.kind) : SameRecords execution (execution.modifyApproval position change) :=
  ⟨rfl, rfl, rfl, Rows.map_modify_of_kept execution.approvals position change _ kept⟩

theorem SameRecords.storeApproval {position : Nat} {approval stored : SoarApproval}
    (found : execution.approvals[position]? = some approval) (kept : stored.kind = approval.kind) :
    SameRecords execution (execution.storeApproval position stored) := by
  refine ⟨rfl, rfl, rfl, ?_⟩
  apply List.ext_getElem?
  intro index
  simp only [SoarExecution.approvalKinds, SoarExecution.storeApproval,
    SoarExecution.modifyApproval, List.getElem?_map, List.getElem?_modify]
  by_cases here : position = index
  · subst here
    simp [found, kept]
  · simp [here]

theorem SameRecords.cancel (execution : SoarExecution) :
    SameRecords execution execution.cancel := by
  refine ⟨rfl, rfl, rfl, ?_⟩
  simp only [SoarExecution.approvalKinds, SoarExecution.cancel, List.map_map]
  refine List.map_congr_left fun approval _ => ?_
  simp only [Function.comp]
  split <;> rfl

end Writes

/-! ## The engine -/

section Engine

variable {env} {quiet : Prop} {execution other : SoarExecution}

theorem AtStep.follows {key : String} {step : Dict} {record : SoarStepExecution}
    {position : Nat} (here : AtStep execution key step record position)
    (consistent : Consistent env execution) :
    execution.identities[position]? = some record.identity ∧ record.stepType = typeOf step ∧
      columnText env (Dict.get step "action_key") = .ok record.actionKey := by
  obtain ⟨stored, sameKey⟩ := SoarExecution.getElem?_of_newestAttempt? here.newest
  have place : execution.identities[position]? = some record.identity := by
    rw [SoarExecution.identities, List.getElem?_map, stored]
    rfl
  obtain ⟨byKey, playbookStep, parsed, found, type_, action⟩ :=
    consistent.records _ (List.mem_of_getElem? place)
  obtain ⟨otherSteps, parsedAlso, foundAlso⟩ := here.defined
  rw [parsed] at parsedAlso
  cases parsedAlso
  have keys : record.identity.stepKey = key := sameKey
  rw [keys, foundAlso] at found
  cases found
  exact ⟨place, type_, action⟩

theorem AtStep.action? {key : String} {step : Dict} {record : SoarStepExecution}
    {position : Nat} {action : ActionKey} (here : AtStep execution key step record position)
    (consistent : Consistent env execution)
    (entry : catalogEntry (Dict.get step "action_key") = .ok (some action)) :
    record.action? = some action := by
  obtain ⟨-, -, bound⟩ := here.follows consistent
  generalize Dict.get step "action_key" = value at entry bound
  unfold catalogEntry at entry
  cases value with
  | str text =>
    simp only [columnText, Except.ok.injEq] at bound
    simp only [hashable, Json.str?, Option.bind_some, Except.ok.injEq] at entry
    simp only [SoarStepExecution.action?, ← bound, Option.bind_some, entry]
  | null => cases entry
  | bool value => cases entry
  | int value => cases entry
  | float value => cases entry
  | arr items => cases entry
  | obj fields => cases entry

/-- Every step of the engine keeps an execution consistent. -/
theorem EngineStep.consistent (step : EngineStep env quiet execution other)
    (consistent : Consistent env execution) : Consistent env other := by
  cases step with
  | enter current defined fresh made =>
    rename_i key step record
    obtain ⟨sameKey, type_, action, -⟩ := newStep_ok env made
    obtain ⟨byKey, parsed, found⟩ := defined
    refine ⟨FirstAttempts.addStep env consistent.attempts made, ?_, ?_⟩
    · intro identity member
      rw [SoarExecution.identities_addStep] at member
      rcases List.mem_append.mp member with old | new
      · exact consistent.records identity old
      · rw [List.mem_singleton.mp new]
        have keys : record.identity.stepKey = key := sameKey
        exact ⟨byKey, step, parsed, by rw [keys]; exact found, type_, action⟩
    · intro kind member
      obtain ⟨identity, place, admits⟩ := consistent.approvals kind member
      obtain ⟨bound, -⟩ := List.getElem?_eq_some_iff.mp place
      refine ⟨identity, ?_, admits⟩
      rw [SoarExecution.identities_addStep, List.getElem?_append_left bound]
      exact place
  | askApproval here unasked asks =>
    rename_i key step record position approval
    refine ⟨FirstAttempts.of_identities consistent.attempts (by simp), ?_, ?_⟩
    · rw [SoarExecution.identities_askApproval]
      exact consistent.records
    · intro kind member
      rw [SoarExecution.identities_askApproval]
      have shape : (execution.askApproval position approval).approvalKinds =
          execution.approvalKinds ++ [approval.kind] := List.map_append
      rw [shape] at member
      rcases List.mem_append.mp member with old | new
      · exact consistent.approvals kind old
      · rw [List.mem_singleton.mp new]
        obtain ⟨place, type_, -⟩ := here.follows consistent
        refine ⟨record.identity, ?_, ?_⟩
        · show execution.identities[approval.stepExecution]? = _
          rw [asks.record]
          exact place
        · rcases asks.kind with approvalStep | ⟨otherType, action, entry, needed, sensitive⟩
          · exact .inl (type_.trans approvalStep)
          · refine .inr ⟨fun equal => otherType (type_.symm.trans equal), action, ?_, needed,
              sensitive⟩
            exact here.action? consistent entry
  | fail =>
    refine consistent.of_same ⟨?_, ?_, by simp, ?_⟩
    all_goals
      simp only [SoarExecution.fail]
      split <;> rfl
  | _ => exact consistent.of_same ⟨rfl, rfl, by simp, rfl⟩

/-- What the engine may do to the rows of an execution: it adds records, and it adds
approvals nobody has decided. -/
structure Grows (execution other : SoarExecution) : Prop where
  requested : other.requestedByUserId = execution.requestedByUserId
  identities : ∃ added, other.identities = execution.identities ++ added
  approvals : ∃ added, other.approvals = execution.approvals ++ added ∧
    ∀ approval ∈ added, approval.status = .pending ∧ approval.decisions = []

theorem Grows.of_same (requested : other.requestedByUserId = execution.requestedByUserId)
    (identities : other.identities = execution.identities)
    (approvals : other.approvals = execution.approvals) : Grows execution other := by
  refine ⟨requested, ⟨[], ?_⟩, [], ?_, ?_⟩
  · rw [identities, List.append_nil]
  · rw [approvals, List.append_nil]
  · exact fun _ member => absurd member List.not_mem_nil

theorem Grows.trans {third : SoarExecution} (first : Grows execution other)
    (second : Grows other third) : Grows execution third := by
  obtain ⟨old, before, undecided⟩ := first.approvals
  obtain ⟨new, after, alsoUndecided⟩ := second.approvals
  obtain ⟨early, identities⟩ := first.identities
  obtain ⟨late, moreIdentities⟩ := second.identities
  refine ⟨second.requested.trans first.requested, ⟨early ++ late, ?_⟩, old ++ new, ?_, ?_⟩
  · rw [moreIdentities, identities, List.append_assoc]
  · rw [after, before, List.append_assoc]
  · intro approval member
    rcases List.mem_append.mp member with here | there
    · exact undecided approval here
    · exact alsoUndecided approval there

theorem EngineStep.grows (step : EngineStep env quiet execution other) :
    Grows execution other := by
  cases step with
  | enter current defined fresh made =>
    exact ⟨rfl, ⟨_, SoarExecution.identities_addStep _ _⟩, [], (List.append_nil _).symm,
      fun _ member => absurd member List.not_mem_nil⟩
  | askApproval here unasked asks =>
    rename_i key step record position approval
    refine ⟨rfl, ⟨[], ?_⟩, [approval], rfl, ?_⟩
    · rw [SoarExecution.identities_askApproval, List.append_nil]
    · intro added member
      rw [List.mem_singleton.mp member]
      exact ⟨asks.pending, asks.undecided⟩
  | fail =>
    refine .of_same ?_ (by simp) ?_
    all_goals
      simp only [SoarExecution.fail]
      split <;> rfl
  | _ => exact .of_same rfl (by simp) rfl

theorem EngineSteps.grows (steps : EngineSteps env quiet execution other) :
    Grows execution other := by
  induction steps with
  | refl => exact .of_same rfl rfl rfl
  | tail _ step ih => exact ih.trans step.grows

/-- A run of the engine adds records, and approvals nobody has decided. -/
theorem runExecution_grows {context : RunContext} (work : Work ρ)
    (attempts : work.execution.FirstAttempts) :
    Grows work.execution (runExecution env context work).work.execution := by
  have steps : EngineSteps env False work.execution
      (runExecution env context work).work.execution :=
    (runExecution_steps env attempts False.elim).1
  exact steps.grows

theorem EngineSteps.consistent (steps : EngineSteps env quiet execution other)
    (consistent : Consistent env execution) : Consistent env other := by
  induction steps with
  | refl => exact consistent
  | tail _ step ih => exact step.consistent ih

/-- So does a whole run. -/
theorem runExecution_consistent {context : RunContext} {work : Work ρ}
    (consistent : Consistent env work.execution) :
    Consistent env (runExecution env context work).work.execution := by
  have steps : EngineSteps env False work.execution
      (runExecution env context work).work.execution :=
    (runExecution_steps env consistent.attempts False.elim).1
  exact steps.consistent consistent

end Engine

/-! ## Every event -/

section Commands

variable {env} {context : RunContext} {account : UserAccount} {work : Work ρ}

theorem completeApproval_same {execution result : SoarExecution} {step : Nat}
    (completed : completeApproval env context execution step = .ok result) :
    SameRecords execution result := by
  obtain ⟨record, next, -, rfl⟩ := completeApproval_ok env completed
  exact ⟨rfl, rfl, execution.identities_setStepStatus step _, rfl⟩

theorem acceptResponse_same {execution result : SoarExecution} {position step : Nat}
    {response : Dict}
    (accepted : acceptResponse env context execution position step response = .ok result) :
    SameRecords execution result := by
  obtain ⟨stored, output, next, rfl⟩ := acceptResponse_ok env accepted
  exact (SameRecords.modifyInput execution position _).trans
    ((SameRecords.recordOutput _ step .succeeded output next).trans (.setStatus _ .queued))

theorem finishDelay_same {execution result : SoarExecution} {record : SoarStepExecution}
    {position : Nat} (finished : finishDelay env execution record position = .ok result) :
    SameRecords execution result := by
  obtain ⟨output, next, rfl⟩ := finishDelay_ok env finished
  have delayed : SameRecords (execution.recordOutput position .succeeded output next)
      { execution.recordOutput position .succeeded output next with nextResumeAt := none } :=
    ⟨rfl, rfl, rfl, rfl⟩
  exact (SameRecords.recordOutput execution position .succeeded output next).trans
    (delayed.trans (.setStatus _ .queued))

theorem runCompensation_same (work : Work ρ) {position : Nat} {record : SoarRollbackRecord}
    {action : ActionDefinition} {source : SoarStepExecution} :
    SameRecords work.execution
      (runCompensation env context work position record action source).work.execution := by
  have ends := runCompensation_effect env context work position record action source
  generalize (runCompensation env context work position record action source).work = result
    at ends ⊢
  cases ends with
  | raised => exact ⟨rfl, rfl, rfl, rfl⟩
  | violated => exact ⟨rfl, rfl, rfl, rfl⟩
  | finished => exact ⟨rfl, rfl, rfl, rfl⟩

theorem stored_same {execution : SoarExecution} {position actor : Nat}
    {approval : SoarApproval} (found : execution.approvals[position]? = some approval)
    (decision : Decision) (status : ApprovalStatus) :
    SameRecords execution
      (execution.storeApproval position (approval.decided actor decision status)) :=
  .storeApproval found rfl

theorem CommandEffect.consistent {command : Command} {reply : ServiceReply ρ}
    (effect : CommandEffect env context account work command reply)
    (consistent : Consistent env work.execution) :
    Consistent env reply.work.execution := by
  cases effect with
  | refused => exact consistent
  | resume => exact runExecution_consistent consistent
  | closeApproval found isOpen closed unapproved decides =>
    exact consistent.of_same (.modifyApproval _ _ _ fun _ => rfl)
  | reject accepted =>
    exact consistent.of_same ((stored_same accepted.found .reject .rejected).trans
      ⟨rfl, rfl, rfl, rfl⟩)
  | approvePartly accepted missing =>
    exact consistent.of_same (stored_same accepted.found .approve .partiallyApproved)
  | approve accepted enough completed =>
    exact runExecution_consistent (consistent.of_same
      ((stored_same accepted.found .approve .approved).trans (completeApproval_same completed)))
  | closeInput found isPending closed => exact consistent.of_same ⟨rfl, rfl, rfl, rfl⟩
  | answer answerable accepted =>
    exact runExecution_consistent (consistent.of_same (acceptResponse_same accepted))
  | cancel running => exact consistent.of_same (.cancel _)
  | retry failed found =>
    exact runExecution_consistent (consistent.of_same ⟨rfl, rfl, rfl, rfl⟩)
  | requestRollback ended made => exact consistent.of_same ⟨rfl, rfl, rfl, rfl⟩
  | grantRollback found waiting => exact consistent.of_same ⟨rfl, rfl, rfl, rfl⟩
  | closeRollback closed => exact consistent.of_same ⟨rfl, rfl, rfl, rfl⟩
  | compensate found granted compensation ofStep =>
    exact consistent.of_same (runCompensation_same work)

theorem resumeDelayed_consistent (consistent : Consistent env work.execution) :
    Consistent env (resumeDelayed env context work).work.execution := by
  rcases resumeDelayed_effect env context work with
    same | ⟨failure, refused⟩ | ⟨record, position, execution, -, -, -, finished, ran⟩
  · rw [same]
    exact consistent
  · rw [refused]
    exact consistent
  · rw [ran]
    exact runExecution_consistent (consistent.of_same (finishDelay_same finished))

theorem resumeDelayed_grows (work : Work ρ) (consistent : Consistent env work.execution) :
    Grows work.execution (resumeDelayed env context work).work.execution := by
  rcases resumeDelayed_effect env context work with
    same | ⟨failure, refused⟩ | ⟨record, position, execution, -, -, -, finished, ran⟩
  · rw [same]
    exact .of_same rfl rfl rfl
  · rw [refused]
    exact .of_same rfl rfl rfl
  · rw [ran]
    have same := finishDelay_same finished
    refine Grows.trans (.of_same same.requested same.identities ?_)
      (runExecution_grows ⟨execution, work.store⟩ (consistent.of_same same).attempts)
    obtain ⟨output, next, rfl⟩ := finishDelay_ok env finished
    rfl

theorem newExecution_consistent {store : Store ρ} {playbookId : Nat} {playbook : SoarPlaybook}
    {payload : ExecutionCreate} {actor : Nat} {now : Instant} {proposed : Bool}
    {execution : SoarExecution}
    (made : newExecution env store playbookId playbook payload actor now proposed =
      .ok execution) : Consistent env execution := by
  obtain ⟨steps, approvals, -⟩ := newExecution_ok env made
  refine ⟨?_, ?_, ?_⟩
  · simp [SoarExecution.FirstAttempts, SoarExecution.identities, steps]
  · simp [SoarExecution.identities, steps]
  · simp [SoarExecution.approvalKinds, approvals]

end Commands

/-- **The rows of an execution stay consistent through every event.** -/
theorem consistent_preserved (db : Database ρ) (event : Event ρ) :
    Preserves env db event (fun _ execution => Consistent env execution)
      (fun _ execution => Consistent env execution) fun _ => True := by
  constructor
  · exact fun _ _ _ consistent => consistent
  · intro request account playbookId playbook payload proposed execution _ _ made
    have consistent := newExecution_consistent made
    exact ⟨consistent, runExecution_consistent consistent, fun _ _ => trivial⟩
  · intro request account key command execution _ _ _ _ consistent
    exact ⟨(command.call_effect env).consistent consistent, fun _ _ => trivial⟩
  · intro request account store key execution batchSize _ _ _ _ consistent
    exact ⟨resumeDelayed_consistent consistent, fun _ _ => trivial⟩
  · exact fun _ _ _ _ _ _ _ _ consistent => consistent.of_same ⟨rfl, rfl, rfl, rfl⟩

/-- The property of a row together with its consistency. -/
def WithConsistency (property : Nat → SoarExecution → Prop) (key : Nat)
    (execution : SoarExecution) : Prop :=
  Consistent env execution ∧ property key execution

theorem allRows_initial (store : Store ρ) (playbooks : Table SoarPlaybook)
    (property : Nat → SoarExecution → Prop) :
    AllRows (Database.initial store playbooks).executions property :=
  fun key execution found => by simp [Database.initial] at found

/-- **An invariant of executions holds throughout a run.** Each event has to
preserve it on executions that satisfy it and are consistent. -/
theorem invariant_of_run {property : Nat → SoarExecution → Prop}
    {called : DispatchCall ρ → Prop} (allowed : Transition (Database ρ) (Event ρ) → Prop)
    (rule : ∀ db event,
      AllRows db.executions (WithConsistency env property) →
      allowed ⟨db, event, stepDatabase env db event⟩ →
      Preserves env db event (WithConsistency env property) property called)
    {start : Database ρ} (initially : AllRows start.executions (WithConsistency env property))
    {events : List (Event ρ)} (all : ∀ move ∈ trace (stepDatabase env) start events, allowed move) :
    ∀ move ∈ trace (stepDatabase env) start events,
      AllRows move.before.executions (WithConsistency env property) ∧
        AllRows move.after.executions (WithConsistency env property) ∧
        ∀ call ∈ (perform env move.before move.input).calls, called call := by
  have both (db : Database ρ) (event : Event ρ)
      (kept : AllRows db.executions (WithConsistency env property))
      (fits : allowed ⟨db, event, stepDatabase env db event⟩) :
      Preserves env db event (WithConsistency env property)
        (WithConsistency env property) fun call => True ∧ called call :=
    ((consistent_preserved env db event).before_of fun _ _ holds => holds.1).and
      (rule db event kept fits)
  intro move member
  obtain ⟨before, after⟩ := invariant_along_trace (stepDatabase env)
    (fun db => AllRows db.executions (WithConsistency env property)) allowed
    (fun db event kept fits => ((both db event kept fits).perform kept).1)
    initially all move member
  refine ⟨before, after, fun call made => ?_⟩
  have shape := after_eq_of_mem_trace (stepDatabase env) member
  have fits := all move member
  obtain ⟨db, event, next⟩ := move
  simp only at shape
  subst shape
  exact (((both db event before fits).perform before).2 call made).2

/-- **A property of the past and of each execution holds after every run.** -/
theorem history_of_run
    (property : List (Transition (Database ρ) (Event ρ)) → Nat → SoarExecution → Prop)
    {called : DispatchCall ρ → Prop}
    (rule : ∀ past db event,
      Preserves env db event (WithConsistency env (property past))
        (property (past ++ [⟨db, event, stepDatabase env db event⟩])) called)
    {start : Database ρ} (initially : AllRows start.executions (WithConsistency env (property [])))
    (events : List (Event ρ)) :
    AllRows (final (stepDatabase env) start events).executions
        (property (trace (stepDatabase env) start events)) ∧
      ∀ move ∈ trace (stepDatabase env) start events,
        ∀ call ∈ (perform env move.before move.input).calls, called call := by
  have run := run_induction (stepDatabase env)
    (motive := fun past db =>
      AllRows db.executions (WithConsistency env (property past)) ∧
        ∀ move ∈ past,
          ∀ call ∈ (perform env move.before move.input).calls, called call)
    ⟨initially, fun _ member => absurd member List.not_mem_nil⟩
    (fun past db event holds => by
      obtain ⟨kept, made⟩ := holds
      have both := ((consistent_preserved env db event).before_of
        fun _ _ holds => holds.1).and (rule past db event)
      obtain ⟨next, more⟩ := both.perform kept
      refine ⟨next, fun move member => ?_⟩
      rcases List.mem_append.mp member with old | new
      · exact made move old
      · rw [List.mem_singleton.mp new]
        exact fun call place => (more call place).2)
    events
  exact ⟨fun key execution found => (run.1 key execution found).2, run.2⟩

/-- Every run keeps the executions consistent. -/
theorem consistent_of_run {start : Database ρ}
    (initially : AllRows start.executions fun _ execution => Consistent env execution)
    (events : List (Event ρ)) :
    AllRows (final (stepDatabase env) start events).executions
      fun _ execution => Consistent env execution :=
  invariant_final (stepDatabase env)
    (fun db => AllRows db.executions fun _ execution => Consistent env execution)
    (fun _ => True)
    (fun db event kept _ => ((consistent_preserved env db event).perform kept).1)
    initially fun _ _ => trivial

theorem consistent_before {store : Store ρ} {playbooks : Table SoarPlaybook}
    {events : List (Event ρ)} {move : Transition (Database ρ) (Event ρ)}
    (member : move ∈ trace (stepDatabase env) (.initial store playbooks) events) :
    AllRows move.before.executions (fun _ execution => Consistent env execution) ∧
      move.after = (perform env move.before move.input).db := by
  obtain ⟨before, -⟩ := invariant_along_trace (stepDatabase env)
    (fun db => AllRows db.executions fun _ execution => Consistent env execution)
    (fun _ => True)
    (fun db event kept _ => ((consistent_preserved env db event).perform kept).1)
    (allRows_initial store playbooks _) (fun _ _ => trivial) move member
  exact ⟨before, after_eq_of_mem_trace (stepDatabase env) member⟩

/-! ## Calls -/

section Calls

variable {env} {context : RunContext} {account : UserAccount} {work : Work ρ}

/-- Every call of a run is made on the way from the execution it took up. -/
theorem runExecution_calls (consistent : Consistent env work.execution) :
    ∀ call ∈ (runExecution env context work).calls,
      Dispatched env context False work.execution call :=
  (runExecution_steps env consistent.attempts False.elim).2

/-- A compensation calls for its own execution. -/
theorem runCompensation_calls {position : Nat} {record : SoarRollbackRecord}
    {action : ActionDefinition} {source : SoarStepExecution} :
    ∀ call ∈ (runCompensation env context work position record action source).calls,
      call.executionId = context.executionId ∧ call.compensation = true := by
  intro call member
  have single : call = ⟨action, context.executionId, work, record.sourceStepExecution,
      context.actor, true⟩ := by
    unfold runCompensation at member
    dsimp only at member
    repeat' split at member
    all_goals exact List.mem_singleton.mp member
  rw [single]
  exact ⟨rfl, rfl⟩

theorem CommandEffect.calls {command : Command} {reply : ServiceReply ρ}
    (effect : CommandEffect env context account work command reply)
    (consistent : Consistent env work.execution) :
    ∀ call ∈ reply.calls, call.executionId = context.executionId ∧
      (call.compensation = true ∨ ∃ origin, Consistent env origin ∧
        Dispatched env context False origin call) := by
  have ofRun {prepared : SoarExecution} (same : SameRecords work.execution prepared) :
      ∀ call ∈ (runExecution env context { work with execution := prepared }).calls,
        call.executionId = context.executionId ∧
          (call.compensation = true ∨ ∃ origin, Consistent env origin ∧
            Dispatched env context False origin call) := by
    intro call member
    have prepared := consistent.of_same same
    have dispatched := runExecution_calls prepared call member
    exact ⟨dispatched.execution, .inr ⟨_, prepared, dispatched⟩⟩
  cases effect with
  | resume => exact ofRun ⟨rfl, rfl, rfl, rfl⟩
  | approve accepted enough completed =>
    exact ofRun ((stored_same accepted.found .approve .approved).trans
      (completeApproval_same completed))
  | answer answerable accepted => exact ofRun (acceptResponse_same accepted)
  | retry failed found => exact ofRun ⟨rfl, rfl, rfl, rfl⟩
  | compensate found granted compensation ofStep =>
    intro call member
    obtain ⟨same, compensates⟩ := runCompensation_calls call member
    exact ⟨same, .inl compensates⟩
  | _ => exact fun call member => absurd member List.not_mem_nil

theorem resumeDelayed_calls (consistent : Consistent env work.execution) :
    ∀ call ∈ (resumeDelayed env context work).calls,
      call.executionId = context.executionId ∧ ∃ origin, Consistent env origin ∧
        Dispatched env context False origin call := by
  intro call member
  rcases resumeDelayed_effect env context work with
    same | ⟨failure, refused⟩ | ⟨record, position, execution, -, -, -, finished, ran⟩
  · rw [same] at member
    exact absurd member List.not_mem_nil
  · rw [refused] at member
    exact absurd member List.not_mem_nil
  · rw [ran] at member
    have prepared := consistent.of_same (finishDelay_same finished)
    have dispatched := runExecution_calls prepared call member
    exact ⟨dispatched.execution, _, prepared, dispatched⟩

end Calls

/-- **Every call a run makes is a compensation, or one the engine makes on its way
from a consistent execution.** -/
theorem calls_of_run (store : Store ρ) (playbooks : Table SoarPlaybook) (events : List (Event ρ)) :
    ∀ move ∈ trace (stepDatabase env) (.initial store playbooks) events,
      ∀ call ∈ (perform env move.before move.input).calls,
        call.compensation = true ∨ ∃ context origin, Consistent env origin ∧
          Dispatched env context False origin call := by
  refine (history_of_run env (fun _ _ _ => True) ?_
    (allRows_initial store playbooks _) events).2
  intro past db event
  constructor
  · exact fun _ _ _ _ => trivial
  · intro request account playbookId playbook payload proposed created _ _ made
    have consistent := newExecution_consistent made
    exact ⟨trivial, trivial, fun call member =>
      .inr ⟨_, _, consistent, runExecution_calls consistent call member⟩⟩
  · rintro request account key command execution - - - - ⟨consistent, -⟩
    have effect : CommandEffect env (request.context account key) account
        ⟨execution, db.store⟩ command _ := command.call_effect env
    refine ⟨trivial, fun call member => ?_⟩
    obtain ⟨-, compensates | ⟨origin, prepared, dispatched⟩⟩ :=
      effect.calls consistent call member
    · exact .inl compensates
    · exact .inr ⟨_, origin, prepared, dispatched⟩
  · rintro request account store key execution batchSize - - - - ⟨consistent, -⟩
    refine ⟨trivial, fun call member => ?_⟩
    obtain ⟨-, origin, prepared, dispatched⟩ := resumeDelayed_calls consistent call member
    exact .inr ⟨_, origin, prepared, dispatched⟩
  · exact fun _ _ _ _ _ _ _ _ _ => trivial

end ThreatScope.Soar
