import ThreatScope.Soar.Consistency

/-!
# Waiting executions

A step record that waits for an approval, an input or a delay should be matched
by the status of its execution, or nothing takes the execution on: due processing
selects by `waiting_delay`, and analysts look for the other two. The law
(`SoarExecution.Coherent`) is about the record of the current step.

What carries it through a run is `Settled`: a record that waits is the newest of
the current step, it is the only one, open approvals and pending inputs belong to
it, and a delayed execution has a time to resume at. A resumption while a record
waits writes `running` and returns (`resumesWaiting`); `waiting_coherent` is the
law for runs without one, `not_waiting_coherent_of_resumption` the run that
breaks it.
-/

set_option autoImplicit false

namespace ThreatScope.Soar

open Library AccessControl

variable {ρ : Type} (env : SoarPlatform ρ)

/-- The status of an execution whose current record waits. -/
def StepStatus.awaited? : StepStatus → Option ExecutionStatus
  | .waitingApproval => some .waitingApproval
  | .waitingInput => some .waitingInput
  | .waitingDelay => some .waitingDelay
  | _ => none

/-- The status of an execution says what its current record waits for. -/
def SoarExecution.Coherent (execution : SoarExecution) : Prop :=
  execution.status.isTerminal = false → ∀ record position awaited,
    execution.currentRecord? = some (record, position) →
    record.status.awaited? = some awaited → execution.status = awaited

/-- A delayed execution is selected once it is due, by every batch that is large
enough. -/
def StaysSelected (executions : Table SoarExecution) (key : Nat)
    (execution : SoarExecution) : Prop :=
  execution.status.isTerminal = false → ∀ record position,
    execution.currentRecord? = some (record, position) → record.status = .waitingDelay →
    ∃ due, execution.nextResumeAt = some due ∧ ∀ now batchSize, due ≤ now →
      executions.rows.length ≤ batchSize → key ∈ dueExecutions executions now batchSize

/-- The events of the law: creations, resumptions, decisions, responses, due
processing, and whatever else writes the store. -/
def Event.drives : Event ρ → Bool
  | .environment _ _ => true
  | .request asked => match asked.operation with
    | .create _ _ _ | .processDue _ => true
    | .act _ command => match command with
      | .resume | .decide _ _ | .submitInput _ _ => true
      | _ => false

/-- An execution that a resumption would take on while its current record waits. -/
def SoarExecution.waitsAt (execution : SoarExecution) (now : Instant) : Bool :=
  !execution.status.isTerminal && decide (now < execution.expiresAt) &&
    execution.currentRecord?.any fun row => row.1.status.isWaiting

/-- A user resumes an execution while its current record waits. -/
def resumesWaiting (db : Database ρ) : Event ρ → Bool
  | .environment _ _ => false
  | .request request => match request.operation with
    | .act key .resume => (db.store.directory.users.get? request.actor).isSome &&
        (db.executions.get? key).any fun execution => execution.waitsAt request.now
    | _ => false

/-! ## The invariant -/

/-- No two approvals and no two inputs belong to one record. -/
def OneRequest (execution : SoarExecution) : Prop :=
  (execution.approvalKinds.map ApprovalKind.stepExecution).Nodup ∧
    (execution.inputs.map SoarAnalystInput.stepExecution).Nodup

/-- Nothing of an execution waits. -/
structure Resting (execution : SoarExecution) : Prop where
  records : ∀ record ∈ execution.steps, record.status.isWaiting = false
  approvals : ∀ approval ∈ execution.approvals, approval.status.isOpen = false
  inputs : ∀ input ∈ execution.inputs, input.status ≠ .pending
  single : OneRequest execution

/-- What waits is the record of the current step, and the execution knows it. -/
structure Settled (execution : SoarExecution) : Prop where
  current : ∀ record position, execution.steps[position]? = some record →
    record.status.isWaiting = true → execution.currentRecord? = some (record, position)
  approvals : ∀ approval ∈ execution.approvals, approval.status.isOpen = true →
    ∃ record, execution.steps[approval.stepExecution]? = some record ∧
      record.status = .waitingApproval
  inputs : ∀ input ∈ execution.inputs, input.status = .pending →
    ∃ record, execution.steps[input.stepExecution]? = some record ∧
      record.status = .waitingInput
  status : execution.status.isTerminal = false → ∀ record ∈ execution.steps,
    ∀ awaited, record.status.awaited? = some awaited → execution.status = awaited
  due : ∀ record ∈ execution.steps, record.status = .waitingDelay →
    execution.nextResumeAt.isSome = true
  single : OneRequest execution

section Invariant

variable {execution other : SoarExecution}

theorem StepStatus.isWaiting_of_awaited? {status : StepStatus} {awaited : ExecutionStatus}
    (waits : status.awaited? = some awaited) : status.isWaiting = true := by
  cases status with
  | waitingApproval => rfl
  | waitingInput => rfl
  | waitingDelay => rfl
  | _ => cases waits

theorem Resting.settled (resting : Resting execution) : Settled execution := by
  constructor
  · intro record position here waits
    rw [resting.records record (List.mem_of_getElem? here)] at waits
    cases waits
  · intro approval member isOpen
    rw [resting.approvals approval member] at isOpen
    cases isOpen
  · intro input member pending
    exact absurd pending (resting.inputs input member)
  · intro running record member awaited waits
    have waiting := StepStatus.isWaiting_of_awaited? waits
    rw [resting.records record member] at waiting
    cases waiting
  · intro record member delayed
    have waiting : record.status.isWaiting = true := by rw [delayed]; rfl
    rw [resting.records record member] at waiting
    cases waiting
  · exact resting.single

theorem Settled.resting (settled : Settled execution)
    (idle : ∀ record position, execution.currentRecord? = some (record, position) →
      record.status.isWaiting = false) : Resting execution := by
  have records : ∀ record ∈ execution.steps, record.status.isWaiting = false := by
    intro record member
    obtain ⟨position, here⟩ := List.getElem?_of_mem member
    cases waits : record.status.isWaiting with
    | false => rfl
    | true =>
      have current := settled.current record position here waits
      exact waits.symm.trans (idle record position current)
  refine ⟨records, ?_, ?_, settled.single⟩
  · intro approval member
    cases isOpen : approval.status.isOpen with
    | false => rfl
    | true =>
      obtain ⟨record, here, waits⟩ := settled.approvals approval member isOpen
      have still := records record (List.mem_of_getElem? here)
      rw [waits] at still
      cases still
  · intro input member pending
    obtain ⟨record, here, waits⟩ := settled.inputs input member pending
    have still := records record (List.mem_of_getElem? here)
    rw [waits] at still
    cases still

theorem Settled.eq_of_waiting (settled : Settled execution) {record later : SoarStepExecution}
    {position place : Nat} (here : execution.steps[position]? = some record)
    (waits : record.status.isWaiting = true) (there : execution.steps[place]? = some later)
    (alsoWaits : later.status.isWaiting = true) : position = place ∧ record = later := by
  have first := settled.current record position here waits
  have second := settled.current later place there alsoWaits
  rw [first] at second
  simp only [Option.some.injEq, Prod.mk.injEq] at second
  exact ⟨second.2, second.1⟩

theorem Settled.coherent (settled : Settled execution) : execution.Coherent := by
  intro running record position awaited current waits
  obtain ⟨key, -, newest⟩ := Option.bind_eq_some_iff.mp current
  obtain ⟨here, -⟩ := SoarExecution.getElem?_of_newestAttempt? newest
  exact settled.status running record (List.mem_of_getElem? here) awaited waits

theorem Settled.close (settled : Settled execution) (status : ExecutionStatus)
    (terminal : status.isTerminal = true) : Settled (execution.setStatus status) := by
  refine ⟨settled.current, settled.approvals, settled.inputs, ?_, settled.due, settled.single⟩
  intro running
  have running : status.isTerminal = false := running
  rw [terminal] at running
  cases running

theorem Resting.of_same (resting : Resting execution) (steps : other.steps = execution.steps)
    (approvals : other.approvals = execution.approvals)
    (inputs : other.inputs = execution.inputs) : Resting other := by
  obtain ⟨records, closed, answered, ⟨single, alone⟩⟩ := resting
  refine ⟨?_, ?_, ?_, ⟨?_, ?_⟩⟩
  · rw [steps]
    exact records
  · rw [approvals]
    exact closed
  · rw [inputs]
    exact answered
  · rw [SoarExecution.approvalKinds, approvals]
    exact single
  · rw [inputs]
    exact alone

theorem Resting.modifyStep (resting : Resting execution) (position : Nat)
    {change : SoarStepExecution → SoarStepExecution}
    (done : ∀ step, (change step).status.isWaiting = false) :
    Resting (execution.modifyStep position change) := by
  refine ⟨?_, resting.approvals, resting.inputs, resting.single⟩
  intro record member
  obtain ⟨index, found⟩ := List.getElem?_of_mem member
  rcases Rows.getElem?_of_modify found with ⟨-, old⟩ | ⟨step, -, -, rfl⟩
  · exact resting.records record (List.mem_of_getElem? old)
  · exact done step

theorem Resting.addStep (resting : Resting execution) {record : SoarStepExecution}
    (runs : record.status = .running) : Resting (execution.addStep record) := by
  refine ⟨?_, resting.approvals, resting.inputs, resting.single⟩
  intro step member
  rcases List.mem_append.mp member with old | new
  · exact resting.records step old
  · rw [List.mem_singleton.mp new, runs]
    rfl

end Invariant

/-! ## The engine -/

section Engine

variable {env} {execution other : SoarExecution}

theorem AtStep.currentRecord? {key : String} {step : Dict} {record : SoarStepExecution}
    {position : Nat} (here : AtStep execution key step record position) :
    execution.currentRecord? = some (record, position) := by
  rw [SoarExecution.currentRecord?, here.current]
  exact here.newest

theorem Settled.resting_of_atStep {key : String} {step : Dict} {record : SoarStepExecution}
    {position : Nat} (settled : Settled execution)
    (here : AtStep execution key step record position) : Resting execution := by
  refine settled.resting fun found place current => ?_
  rw [here.currentRecord?] at current
  cases current
  exact here.idle

theorem Resting.waits {record : SoarStepExecution} {position : Nat}
    (resting : Resting execution) (status : StepStatus)
    (found : execution.currentRecord? = some (record, position)) :
    ∀ later place, (execution.setStepStatus position status).steps[place]? = some later →
      later.status.isWaiting = true → later.status = status ∧
        (execution.setStepStatus position status).currentRecord? = some (later, place) := by
  intro later place here waits
  rcases Rows.getElem?_of_modify here with ⟨-, old⟩ | ⟨step, rfl, stored, rfl⟩
  · rw [resting.records later (List.mem_of_getElem? old)] at waits
    cases waits
  · refine ⟨rfl, ?_⟩
    obtain ⟨key, current, newest⟩ := Option.bind_eq_some_iff.mp found
    obtain ⟨here, -⟩ := SoarExecution.getElem?_of_newestAttempt? newest
    rw [stored] at here
    cases here
    have kept := execution.newestAttempt?_modifyStep place
      (fun step => { step with status := status }) key fun _ => rfl
    rw [newest] at kept
    show execution.currentStepKey.bind _ = _
    rw [current]
    exact kept.trans (by simp)

theorem getElem?_setStepStatus {record : SoarStepExecution} {position : Nat}
    (status : StepStatus) (found : execution.currentRecord? = some (record, position)) :
    (execution.setStepStatus position status).steps[position]? =
      some { record with status := status } := by
  obtain ⟨key, -, newest⟩ := Option.bind_eq_some_iff.mp found
  obtain ⟨here, -⟩ := SoarExecution.getElem?_of_newestAttempt? newest
  simp [SoarExecution.setStepStatus, SoarExecution.modifyStep, here]

/-- So does asking for an approval. -/
theorem Resting.askApproval {record : SoarStepExecution} {position : Nat}
    {approval : SoarApproval} (resting : Resting execution)
    (found : execution.currentRecord? = some (record, position))
    (unasked : execution.latestApproval? position = none)
    (ofStep : approval.stepExecution = position) :
    Settled (execution.askApproval position approval) := by
  have waits := resting.waits .waitingApproval found
  have stored := getElem?_setStepStatus .waitingApproval found
  constructor
  · intro later place here waiting
    exact (waits later place here waiting).2
  · intro other member isOpen
    rcases List.mem_append.mp member with old | new
    · rw [resting.approvals other old] at isOpen
      cases isOpen
    · rw [List.mem_singleton.mp new, ofStep]
      exact ⟨_, stored, rfl⟩
  · intro input member pending
    exact absurd pending (resting.inputs input member)
  · intro _ later member awaited waiting
    obtain ⟨place, here⟩ := List.getElem?_of_mem member
    have same := (waits later place here (StepStatus.isWaiting_of_awaited? waiting)).1
    rw [same] at waiting
    cases waiting
    rfl
  · intro later member delayed
    obtain ⟨place, here⟩ := List.getElem?_of_mem member
    have same := (waits later place here (by rw [delayed]; rfl)).1
    rw [delayed] at same
    cases same
  · refine ⟨?_, resting.single.2⟩
    have shape : (execution.askApproval position approval).approvalKinds =
        execution.approvalKinds ++ [approval.kind] := List.map_append
    rw [shape, List.map_append, List.map_singleton]
    refine List.Nodup.append resting.single.1 (List.nodup_singleton _) ?_
    rw [List.disjoint_singleton]
    intro member
    obtain ⟨kind, ofKind, same⟩ := List.mem_map.mp member
    obtain ⟨other, stored, rfl⟩ := List.mem_map.mp ofKind
    have absent := Rows.last?_eq_none_iff.mp unasked other stored
    have sameStep : other.stepExecution = position := same.trans ofStep
    simp [sameStep] at absent

/-- Asking for an input where nothing waits settles the execution. -/
theorem Resting.askInput {record : SoarStepExecution} {position : Nat}
    {added : List SoarAnalystInput} (resting : Resting execution)
    (found : execution.currentRecord? = some (record, position))
    (asks : added = [] ∨ ∃ input, added = [input] ∧ input.stepExecution = position ∧
      ∀ other ∈ execution.inputs, other.stepExecution ≠ position) :
    Settled (execution.askInput position added) := by
  have waits := resting.waits .waitingInput found
  have stored := getElem?_setStepStatus .waitingInput found
  have ofStep : ∀ input ∈ added, input.stepExecution = position := by
    intro input member
    rcases asks with rfl | ⟨asked, rfl, same, -⟩
    · cases member
    · rw [List.mem_singleton.mp member]
      exact same
  constructor
  · intro later place here waiting
    exact (waits later place here waiting).2
  · intro approval member isOpen
    rw [resting.approvals approval member] at isOpen
    cases isOpen
  · intro input member pending
    rcases List.mem_append.mp member with old | new
    · exact absurd pending (resting.inputs input old)
    · rw [ofStep input new]
      exact ⟨_, stored, rfl⟩
  · intro _ later member awaited waiting
    obtain ⟨place, here⟩ := List.getElem?_of_mem member
    have same := (waits later place here (StepStatus.isWaiting_of_awaited? waiting)).1
    rw [same] at waiting
    cases waiting
    rfl
  · intro later member delayed
    obtain ⟨place, here⟩ := List.getElem?_of_mem member
    have same := (waits later place here (by rw [delayed]; rfl)).1
    rw [delayed] at same
    cases same
  · refine ⟨resting.single.1, ?_⟩
    show ((execution.inputs ++ added).map _).Nodup
    rcases asks with rfl | ⟨asked, rfl, same, unasked⟩
    · rw [List.append_nil]
      exact resting.single.2
    · rw [List.map_append, List.map_singleton]
      refine List.Nodup.append resting.single.2 (List.nodup_singleton _) ?_
      rw [List.disjoint_singleton]
      intro member
      obtain ⟨other, stored, equal⟩ := List.mem_map.mp member
      exact unasked other stored (equal.trans same)

theorem Resting.startDelay {record : SoarStepExecution} {position : Nat} {due : Instant}
    (resting : Resting execution) (found : execution.currentRecord? = some (record, position)) :
    Settled (execution.startDelay position due) := by
  have waits := resting.waits .waitingDelay found
  constructor
  · intro later place here waiting
    exact (waits later place here waiting).2
  · intro approval member isOpen
    rw [resting.approvals approval member] at isOpen
    cases isOpen
  · intro input member pending
    exact absurd pending (resting.inputs input member)
  · intro _ later member awaited waiting
    obtain ⟨place, here⟩ := List.getElem?_of_mem member
    have same := (waits later place here (StepStatus.isWaiting_of_awaited? waiting)).1
    rw [same] at waiting
    cases waiting
    rfl
  · exact fun _ _ _ => rfl
  · exact resting.single

/-- A settled execution that fails stays settled. -/
theorem Settled.fail (settled : Settled execution) (code summary : String) :
    Settled (execution.fail code summary) := by
  simp only [SoarExecution.fail]
  split
  · rename_i record position found
    obtain ⟨stored, runs⟩ := Rows.mem_of_last? found
    have running : record.status = .running := by simpa using runs
    -- The record that fails was running, so it is none of those that wait.
    have kept : ∀ later place, (execution.modifyStep position fun step =>
        { step with
          status := .failed
          errorCode := some code
          errorSummary := some (Text.truncate 1000 summary) }).steps[place]? = some later →
        later.status.isWaiting = true →
        place ≠ position ∧ execution.steps[place]? = some later := by
      intro later place here waits
      rcases Rows.getElem?_of_modify here with old | ⟨step, -, -, rfl⟩
      · exact old
      · cases waits
    have others : ∀ place later, execution.steps[place]? = some later →
        later.status ≠ .running → place ≠ position := by
      rintro place later here notRunning rfl
      rw [stored] at here
      cases here
      exact notRunning running
    constructor
    · intro later place here waits
      obtain ⟨different, old⟩ := kept later place here waits
      obtain ⟨key, current, newest⟩ :=
        Option.bind_eq_some_iff.mp (settled.current later place old waits)
      have same := execution.newestAttempt?_modifyStep position (fun step =>
        { step with
          status := .failed
          errorCode := some code
          errorSummary := some (Text.truncate 1000 summary) }) key fun _ => rfl
      rw [newest] at same
      show execution.currentStepKey.bind _ = _
      rw [current]
      exact same.trans (by simp [different])
    · intro approval member isOpen
      obtain ⟨later, here, waits⟩ := settled.approvals approval member isOpen
      have different := others _ _ here (by simp [waits])
      exact ⟨later, (Rows.getElem?_modify_of_ne different).trans here, waits⟩
    · intro input member pending
      obtain ⟨later, here, waits⟩ := settled.inputs input member pending
      have different := others _ _ here (by simp [waits])
      exact ⟨later, (Rows.getElem?_modify_of_ne different).trans here, waits⟩
    · intro wrong
      cases wrong
    · intro later member delayed
      obtain ⟨place, here⟩ := List.getElem?_of_mem member
      obtain ⟨-, old⟩ := kept later place here (by rw [delayed]; rfl)
      exact settled.due later (List.mem_of_getElem? old) delayed
    · exact settled.single
  · have failed := settled.close .failed rfl
    exact ⟨failed.current, failed.approvals, failed.inputs, failed.status, failed.due,
      failed.single⟩

/-- **A step of the engine keeps an execution settled**, when a run starts only
where nothing waits. -/
theorem EngineStep.settled (step : EngineStep env True execution other)
    (settled : Settled execution) : Settled other := by
  cases step with
  | start idle =>
    have resting : Resting (execution.setStatus .running) :=
      (settled.resting (idle trivial)).of_same rfl rfl rfl
    exact resting.settled
  | enter current defined fresh made =>
    have resting : Resting execution := by
      refine settled.resting fun record position found => ?_
      rw [SoarExecution.currentRecord?, current] at found
      have used := fresh record position found
      cases status : record.status with
      | running => rfl
      | failed => rfl
      | _ => rw [status] at used; cases used
    obtain ⟨-, -, -, runs, -⟩ := newStep_ok env made
    exact (resting.addStep runs).settled
  | askApproval here unasked asks =>
    exact (settled.resting_of_atStep here).askApproval here.currentRecord? unasked asks.record
  | askInput here asks =>
    exact (settled.resting_of_atStep here).askInput here.currentRecord? asks
  | startDelay here =>
    exact (settled.resting_of_atStep here).startDelay here.currentRecord?
  | absorb outcome =>
    exact ⟨settled.current, settled.approvals, settled.inputs, settled.status, settled.due,
      settled.single⟩
  | record here done =>
    rename_i key step record position status output next
    have finished : status.isWaiting = false := by
      rcases done with rfl | rfl | rfl <;> rfl
    have rested : Resting (execution.modifyStep position fun step =>
        { step with status := status, outputSnapshot := output }) :=
      (settled.resting_of_atStep here).modifyStep position fun _ => finished
    have resting : Resting (execution.recordOutput position status output next) :=
      rested.of_same rfl rfl rfl
    exact resting.settled
  | close terminal =>
    refine settled.close _ ?_
    rcases terminal with rfl | rfl | rfl <;> rfl
  | fail => exact settled.fail _ _

theorem EngineSteps.settled (steps : EngineSteps env True execution other)
    (settled : Settled execution) : Settled other := by
  induction steps with
  | refl => exact settled
  | tail _ step ih => exact step.settled ih

/-- Unless it waits, a run of the engine leaves a settled execution settled. -/
theorem runExecution_settled {context : RunContext} {work : Work ρ}
    (attempts : work.execution.FirstAttempts) (settled : Settled work.execution)
    (calm : work.execution.waitsAt context.now = false) :
    Settled (runExecution env context work).work.execution := by
  by_cases terminal : work.execution.status.isTerminal = true
  · have refused : (runExecution env context work).work = work := by
      unfold runExecution
      rw [if_pos terminal]
      rfl
    rw [refused]
    exact settled
  by_cases expired : work.execution.expiresAt ≤ context.now
  · have closed : (runExecution env context work).work = work.setStatus .expired := by
      unfold runExecution
      rw [if_neg terminal, if_pos expired]
    rw [closed]
    exact settled.close .expired rfl
  · have idle : True → ∀ record position,
        work.execution.currentRecord? = some (record, position) →
          record.status.isWaiting = false := by
      intro _ record position current
      simp only [SoarExecution.waitsAt, current, Option.any_some, terminal, Bool.not_false,
        Bool.true_and, decide_eq_true (not_le.mp expired)] at calm
      exact calm
    have steps : EngineSteps env True work.execution
        (runExecution env context work).work.execution :=
      (runExecution_steps env attempts idle).1
    exact EngineSteps.settled steps settled

theorem Resting.waitsAt (resting : Resting execution) (now : Instant) :
    execution.waitsAt now = false := by
  cases current : execution.currentRecord? with
  | none => simp [SoarExecution.waitsAt, current]
  | some row =>
    obtain ⟨record, position⟩ := row
    obtain ⟨key, -, newest⟩ := Option.bind_eq_some_iff.mp current
    obtain ⟨here, -⟩ := SoarExecution.getElem?_of_newestAttempt? newest
    simp [SoarExecution.waitsAt, current, resting.records record (List.mem_of_getElem? here)]

end Engine

/-! ## Every event -/

section Commands

variable {env} {execution other : SoarExecution}

theorem Settled.modifyApproval {position : Nat} (change : SoarApproval → SoarApproval)
    {approval : SoarApproval} (settled : Settled execution)
    (found : execution.approvals[position]? = some approval)
    (ofStep : (change approval).stepExecution = approval.stepExecution)
    (opens : (change approval).status.isOpen = true → approval.status.isOpen = true)
    (same : SameRecords execution (execution.modifyApproval position change)) :
    Settled (execution.modifyApproval position change) := by
  refine ⟨settled.current, ?_, settled.inputs, settled.status, settled.due, ?_⟩
  · intro asked member isOpen
    obtain ⟨index, here⟩ := List.getElem?_of_mem member
    rcases Rows.getElem?_of_modify here with ⟨-, old⟩ | ⟨stored, -, there, rfl⟩
    · exact settled.approvals asked (List.mem_of_getElem? old) isOpen
    · rw [found] at there
      cases there
      rw [ofStep]
      exact settled.approvals approval (List.mem_of_getElem? found) (opens isOpen)
  · refine ⟨?_, settled.single.2⟩
    rw [same.kinds]
    exact settled.single.1

theorem Settled.storeApproval {position actor : Nat} {approval : SoarApproval}
    (settled : Settled execution) (found : execution.approvals[position]? = some approval)
    (decision : Decision) (status : ApprovalStatus)
    (opens : status.isOpen = true → approval.status.isOpen = true) :
    Settled (execution.storeApproval position (approval.decided actor decision status)) :=
  settled.modifyApproval (fun _ => approval.decided actor decision status) found rfl opens
    (stored_same found decision status)

theorem Settled.closeInput (settled : Settled execution) (position : Nat) {status : InputStatus}
    (closed : status ≠ .pending) : Settled (execution.setInputStatus position status) := by
  refine ⟨settled.current, settled.approvals, ?_, settled.status, settled.due,
    settled.single.1, ?_⟩
  · intro input member pending
    obtain ⟨index, here⟩ := List.getElem?_of_mem member
    rcases Rows.getElem?_of_modify here with ⟨-, old⟩ | ⟨stored, -, -, rfl⟩
    · exact settled.inputs input (List.mem_of_getElem? old) pending
    · exact absurd pending closed
  · have kept := Rows.map_modify_of_kept execution.inputs position
      (fun input => { input with status := status }) SoarAnalystInput.stepExecution fun _ => rfl
    exact (congrArg List.Nodup kept).mpr settled.single.2

theorem Settled.rejectRun (settled : Settled execution) : Settled execution.rejectRun := by
  have failed := settled.close .failed rfl
  exact ⟨failed.current, failed.approvals, failed.inputs, failed.status, failed.due,
    failed.single⟩

/-- Once the record that waits is finished, with the request it waits for, the
execution is at rest. -/
theorem Settled.resting_of_finished {record : SoarStepExecution} {position : Nat}
    (settled : Settled execution) (here : execution.steps[position]? = some record)
    (waits : record.status.isWaiting = true) (change : SoarStepExecution → SoarStepExecution)
    (steps : other.steps = execution.steps.modify position change)
    (done : ∀ step, (change step).status.isWaiting = false)
    (approvals : ∀ approval ∈ other.approvals, approval.status.isOpen = true →
      approval ∈ execution.approvals ∧
        (approval.stepExecution = position → record.status ≠ .waitingApproval))
    (inputs : ∀ input ∈ other.inputs, input.status = .pending →
      input ∈ execution.inputs ∧
        (input.stepExecution = position → record.status ≠ .waitingInput))
    (single : OneRequest other) : Resting other := by
  refine ⟨?_, ?_, ?_, single⟩
  · intro later member
    rw [steps] at member
    obtain ⟨place, found⟩ := List.getElem?_of_mem member
    rcases Rows.getElem?_of_modify found with ⟨different, old⟩ | ⟨step, -, -, rfl⟩
    · cases alsoWaits : later.status.isWaiting with
      | false => rfl
      | true =>
        obtain ⟨same, -⟩ := settled.eq_of_waiting here waits old alsoWaits
        exact absurd same.symm different
    · exact done step
  · intro approval member
    cases isOpen : approval.status.isOpen with
    | false => rfl
    | true =>
      obtain ⟨old, elsewhere⟩ := approvals approval member isOpen
      obtain ⟨later, there, alsoWaits⟩ := settled.approvals approval old isOpen
      obtain ⟨same, rfl⟩ :=
        settled.eq_of_waiting here waits there (by rw [alsoWaits]; rfl)
      exact absurd alsoWaits (elsewhere same.symm)
  · intro input member pending
    obtain ⟨old, elsewhere⟩ := inputs input member pending
    obtain ⟨later, there, alsoWaits⟩ := settled.inputs input old pending
    obtain ⟨same, rfl⟩ := settled.eq_of_waiting here waits there (by rw [alsoWaits]; rfl)
    exact elsewhere same.symm alsoWaits

/-- Nor after an approval that is completed. -/
theorem Settled.completeApproval {context : RunContext} {account : UserAccount} {work : Work ρ}
    {position : Nat} {approval : SoarApproval} {result : SoarExecution}
    (settled : Settled work.execution) (accepted : Accepted context account work position approval)
    (completed : completeApproval env context (work.execution.storeApproval position
      (approval.decided context.actor .approve .approved)) approval.stepExecution =
        .ok result) : Resting result := by
  have same := (stored_same accepted.found .approve .approved).trans
    (completeApproval_same completed)
  obtain ⟨record, next, -, rfl⟩ := completeApproval_ok env completed
  obtain ⟨waiting, here, waits⟩ := settled.approvals approval
    (List.mem_of_getElem? accepted.found) accepted.isOpen
  refine settled.resting_of_finished here (by rw [waits]; rfl) _ rfl ?_ ?_ ?_ ⟨?_, ?_⟩
  · intro step
    show StepStatus.isWaiting (if _ then _ else _) = false
    split <;> rfl
  · intro other member isOpen
    obtain ⟨index, found⟩ := List.getElem?_of_mem member
    rcases Rows.getElem?_of_modify found with ⟨different, old⟩ | ⟨stored, -, -, rfl⟩
    · refine ⟨List.mem_of_getElem? old, fun sameStep => absurd ?_ different⟩
      have kinds : work.execution.approvals.map SoarApproval.stepExecution =
          work.execution.approvalKinds.map ApprovalKind.stepExecution := by
        rw [SoarExecution.approvalKinds, List.map_map]
        rfl
      have distinct := settled.single.1
      rw [← kinds] at distinct
      exact Rows.eq_of_nodup_map distinct old accepted.found sameStep
    · cases isOpen
  · intro input member pending
    refine ⟨member, fun _ input => ?_⟩
    rw [waits] at input
    cases input
  · rw [same.kinds]
    exact settled.single.1
  · exact settled.single.2

/-- After an accepted response nothing waits. -/
theorem Settled.acceptResponse {context : RunContext} {work : Work ρ} {position : Nat}
    {response : Dict} {input : SoarAnalystInput} {result : SoarExecution}
    (settled : Settled work.execution)
    (answerable : Answerable env context work position response input)
    (accepted : acceptResponse env context work.execution position input.stepExecution
      response = .ok result) : Resting result := by
  obtain ⟨stored, output, next, rfl⟩ := acceptResponse_ok env accepted
  obtain ⟨waiting, here, waits⟩ := settled.inputs input
    (List.mem_of_getElem? answerable.found) answerable.isPending
  have waiting : waiting.status.isWaiting = true := by rw [waits]; rfl
  refine settled.resting_of_finished here waiting
    (fun step => { step with status := .succeeded, outputSnapshot := output })
    ?_ (fun _ => rfl) ?_ ?_ ⟨?_, ?_⟩
  · simp only [SoarExecution.steps_setStatus, SoarExecution.steps_recordOutput,
      SoarExecution.steps_modifyInput]
  · intro approval member isOpen
    simp only [SoarExecution.approvals_setStatus, SoarExecution.approvals_recordOutput,
      SoarExecution.approvals_modifyInput] at member
    refine ⟨member, fun _ approval => ?_⟩
    rw [waits] at approval
    cases approval
  · intro other member pending
    simp only [SoarExecution.inputs_setStatus, SoarExecution.inputs_recordOutput,
      SoarExecution.inputs_modifyInput] at member
    obtain ⟨index, found⟩ := List.getElem?_of_mem member
    rcases Rows.getElem?_of_modify found with ⟨different, old⟩ | ⟨changed, -, -, rfl⟩
    · refine ⟨List.mem_of_getElem? old, fun sameStep => absurd ?_ different⟩
      exact Rows.eq_of_nodup_map settled.single.2 old answerable.found sameStep
    · cases pending
  · simp only [SoarExecution.approvalKinds, SoarExecution.approvals_setStatus,
      SoarExecution.approvals_recordOutput, SoarExecution.approvals_modifyInput]
    exact settled.single.1
  · simp only [SoarExecution.inputs_setStatus, SoarExecution.inputs_recordOutput,
      SoarExecution.inputs_modifyInput]
    rw [Rows.map_modify_of_kept]
    · exact settled.single.2
    · exact fun _ => rfl

theorem Settled.finishDelay {record : SoarStepExecution} {position : Nat}
    {result : SoarExecution} (settled : Settled execution)
    (here : execution.steps[position]? = some record) (waits : record.status = .waitingDelay)
    (finished : finishDelay env execution record position = .ok result) :
    Resting result := by
  obtain ⟨output, next, rfl⟩ := finishDelay_ok env finished
  refine settled.resting_of_finished here (by rw [waits]; rfl) _ rfl (fun _ => rfl) ?_ ?_
    settled.single
  · intro approval member isOpen
    refine ⟨member, fun _ approval => ?_⟩
    rw [waits] at approval
    cases approval
  · intro input member pending
    refine ⟨member, fun _ input => ?_⟩
    rw [waits] at input
    cases input

/-- **A command that drives an execution keeps it settled**, unless it resumes it
while its current record waits. -/
theorem CommandEffect.settled {context : RunContext} {account : UserAccount} {work : Work ρ}
    {command : Command} {reply : ServiceReply ρ}
    (effect : CommandEffect env context account work command reply)
    (consistent : Consistent env work.execution) (settled : Settled work.execution)
    (drives : command = .resume ∨ (∃ position decision, command = .decide position decision) ∨
      ∃ position response, command = .submitInput position response)
    (calm : command = .resume → work.execution.waitsAt context.now = false) :
    Settled reply.work.execution := by
  cases effect with
  | refused => exact settled
  | resume => exact runExecution_settled consistent.attempts settled (calm rfl)
  | closeApproval found isOpen closed unapproved decides =>
    rename_i position approval status failure
    refine settled.modifyApproval (fun approval => { approval with status := status }) found rfl
      ?_ (.modifyApproval _ _ _ fun _ => rfl)
    intro stays
    have stays : status.isOpen = true := stays
    rw [closed] at stays
    cases stays
  | reject accepted =>
    refine Settled.rejectRun (settled.storeApproval accepted.found .reject .rejected ?_)
    intro wrong
    cases wrong
  | approvePartly accepted missing =>
    exact settled.storeApproval accepted.found .approve .partiallyApproved
      fun _ => accepted.isOpen
  | approve accepted enough completed =>
    have resting := settled.completeApproval accepted completed
    have same := (stored_same accepted.found .approve .approved).trans
      (completeApproval_same completed)
    exact runExecution_settled (consistent.of_same same).attempts resting.settled
      (resting.waitsAt _)
  | closeInput found isPending closed => exact settled.closeInput _ closed
  | answer answerable accepted =>
    have resting := settled.acceptResponse answerable accepted
    exact runExecution_settled (consistent.of_same (acceptResponse_same accepted)).attempts
      resting.settled (resting.waitsAt _)
  | closeRollback closed =>
    exact ⟨settled.current, settled.approvals, settled.inputs, settled.status, settled.due,
      settled.single⟩
  | _ => rcases drives with wrong | ⟨_, _, wrong⟩ | ⟨_, _, wrong⟩ <;> cases wrong

theorem resumeDelayed_settled {context : RunContext} {work : Work ρ}
    (consistent : Consistent env work.execution) (settled : Settled work.execution) :
    Settled (resumeDelayed env context work).work.execution := by
  rcases resumeDelayed_effect env context work with
    same | ⟨failure, refused⟩ | ⟨record, position, execution, here, waits, -, finished, ran⟩
  · rw [same]
    exact settled
  · rw [refused]
    exact settled
  · rw [ran]
    have resting := settled.finishDelay here waits finished
    exact runExecution_settled (consistent.of_same (finishDelay_same finished)).attempts
      resting.settled (resting.waitsAt _)

/-- An event that resumes no waiting execution keeps the executions settled. -/
theorem settled_preserved {db : Database ρ} {event : Event ρ}
    (drives : event.drives = true) (calm : resumesWaiting db event = false) :
    Preserves env db event (WithConsistency env fun _ row => Settled row)
      (fun _ row => Settled row) fun _ => True := by
  constructor
  · exact fun _ _ _ holds => holds.2
  · intro request account playbookId playbook payload proposed created _ _ made
    obtain ⟨steps, approvals, inputs, -⟩ := newExecution_ok env made
    have resting : Resting created := by
      refine ⟨?_, ?_, ?_, ⟨?_, ?_⟩⟩
      · simp [steps]
      · simp [approvals]
      · simp [inputs]
      · simp [SoarExecution.approvalKinds, approvals]
      · simp [inputs]
    exact ⟨resting.settled, runExecution_settled (newExecution_consistent made).attempts
      resting.settled (resting.waitsAt _), fun _ _ => trivial⟩
  · rintro request account key command execution rfl operation known stored ⟨consistent, settled⟩
    have effect : CommandEffect env (request.context account key) account
        ⟨execution, db.store⟩ command _ := command.call_effect env
    refine ⟨effect.settled consistent settled ?_ ?_, fun _ _ => trivial⟩
    · simp only [Event.drives, operation] at drives
      cases command with
      | resume => exact .inl rfl
      | decide position decision => exact .inr (.inl ⟨position, decision, rfl⟩)
      | submitInput position response => exact .inr (.inr ⟨position, response, rfl⟩)
      | _ => cases drives
    · rintro rfl
      show execution.waitsAt request.now = false
      simpa [resumesWaiting, operation, known, stored] using calm
  · rintro request account store key execution batchSize _ _ _ _ ⟨consistent, settled⟩
    exact ⟨resumeDelayed_settled consistent settled, fun _ _ => trivial⟩
  · intro request key execution batchSize _ _ _ _ settled
    exact settled.close .expired rfl

theorem Settled.staysSelected {executions : Table SoarExecution} {key : Nat}
    (settled : Settled execution) (stored : executions.get? key = some execution) :
    StaysSelected executions key execution := by
  intro running record position current delayed
  obtain ⟨_, -, newest⟩ := Option.bind_eq_some_iff.mp current
  obtain ⟨here, -⟩ := SoarExecution.getElem?_of_newestAttempt? newest
  have member := List.mem_of_getElem? here
  obtain ⟨due, resumes⟩ := Option.isSome_iff_exists.mp (settled.due record member delayed)
  have status := settled.status running record member .waitingDelay (by rw [delayed]; rfl)
  refine ⟨due, resumes, fun now batchSize passed enough => ?_⟩
  exact mem_dueExecutions stored ⟨status, due, resumes, passed⟩ enough

/-- **The status of an execution says what its current record waits for**, and a
delayed execution stays selected, throughout every run that never resumes an
execution while its current record waits. -/
theorem waiting_coherent (store : Store ρ) (playbooks : Table SoarPlaybook)
    (events : List (Event ρ)) (drives : ∀ event ∈ events, event.drives = true)
    (calm : ∀ move ∈ trace (stepDatabase env) (.initial store playbooks) events,
      resumesWaiting move.before move.input = false) :
    ∀ move ∈ trace (stepDatabase env) (.initial store playbooks) events,
      AllRows move.after.executions fun key execution =>
        execution.Coherent ∧ StaysSelected move.after.executions key execution := by
  have settled := invariant_of_run env
    (fun move => move.input.drives = true ∧
      resumesWaiting move.before move.input = false)
    (fun db event _ fits => settled_preserved fits.1 fits.2)
    (allRows_initial store playbooks _) fun move member =>
      ⟨drives _ (input_mem_of_mem_trace _ member), calm move member⟩
  intro move member key execution stored
  obtain ⟨-, after, -⟩ := settled move member
  obtain ⟨-, here⟩ := after key execution stored
  exact ⟨here.coherent, here.staysSelected stored⟩

end Commands

/-- A playbook that waits for a minute and ends. -/
def delayedDeployment : Database Unit :=
  deployment []
    [plainStep "a" "delay" 1 [("configuration", .obj [("delay_seconds", .int 60)]),
        ("on_success", .str "e")],
      plainStep "e" "end" 2 []]

/-- A run of the playbook and its early resumption. -/
def delayedRun : List (Event Unit) :=
  [ask 1 10 (createRun .liveLocal), ask 1 20 (.act 1 .resume)]

/-- The status of the first execution with the status of its current record. -/
def firstWait (db : Database Unit) : Option (ExecutionStatus × Option StepStatus) :=
  (db.executions.get? 1).map fun execution =>
    (execution.status, execution.currentRecord?.map fun row => row.1.status)

theorem waiting_coherent_create :
    AllRows (stepDatabase plainPlatform delayedDeployment
        (ask 1 10 (createRun .liveLocal))).executions fun key execution =>
      execution.Coherent ∧ StaysSelected (stepDatabase plainPlatform delayedDeployment
        (ask 1 10 (createRun .liveLocal))).executions key execution := by
  refine waiting_coherent (plainStore []) _ [ask 1 10 (createRun .liveLocal)] ?_ ?_
    ⟨delayedDeployment, ask 1 10 (createRun .liveLocal),
      stepDatabase plainPlatform delayedDeployment (ask 1 10 (createRun .liveLocal))⟩
    (List.mem_singleton.mpr rfl)
  · intro event member
    rw [List.mem_singleton.mp member]
    rfl
  · intro move member
    simp only [trace, List.mem_singleton] at member
    subst member
    rfl

/-- **A resumption while a delay runs breaks the law.** The execution is running,
its current record waits for the delay, and no due processing selects it. -/
theorem not_waiting_coherent_of_resumption :
    (∀ event ∈ delayedRun, event.drives = true) ∧
      ∃ execution, (final (stepDatabase plainPlatform) delayedDeployment
        delayedRun).executions.get? 1 = some execution ∧
        execution.status = .running ∧ ¬ execution.Coherent ∧
        ¬ StaysSelected (final (stepDatabase plainPlatform) delayedDeployment
          delayedRun).executions 1 execution := by
  have waits : firstWait (final (stepDatabase plainPlatform) delayedDeployment delayedRun) =
      some (.running, some .waitingDelay) := by decide +kernel
  generalize final (stepDatabase plainPlatform) delayedDeployment delayedRun = db at waits ⊢
  obtain ⟨execution, stored, both⟩ := Option.map_eq_some_iff.mp waits
  obtain ⟨running, current⟩ := Prod.mk.inj both
  obtain ⟨⟨record, position⟩, found, delayed⟩ := Option.map_eq_some_iff.mp current
  have delayed : record.status = .waitingDelay := delayed
  have live : execution.status.isTerminal = false := by
    rw [running]
    rfl
  refine ⟨?_, execution, stored, running, ?_, ?_⟩
  · intro event member
    simp only [delayedRun, List.mem_cons, List.not_mem_nil, or_false] at member
    rcases member with rfl | rfl <;> rfl
  · intro coherent
    have wrong := coherent live record position .waitingDelay found (by rw [delayed]; rfl)
    rw [running] at wrong
    cases wrong
  · intro selected
    obtain ⟨due, -, taken⟩ := selected live record position found delayed
    obtain ⟨-, spec⟩ := dueExecutions_spec db.executions due db.executions.rows.length
    obtain ⟨other, same, waiting, -⟩ := spec 1 (taken due _ le_rfl le_rfl)
    rw [stored] at same
    cases same
    rw [running] at waiting
    cases waiting

end ThreatScope.Soar
