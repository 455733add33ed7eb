import ThreatScope.Soar.Consistency

/-!
# Cancelled and expired executions

Once an execution is cancelled or expired, nothing more of its playbook should
run: no step record is added, no action is dispatched, and only compensation
statuses follow. The service keeps this unless an event revives the execution
(`revives`): a requested rollback is not a terminal status, so the execution can
be resumed, cancelled or expired again, and an approval or an input that outlived
the expiry can still be decided or answered.

`stopped_stays` is the law for runs without such an event, and
`not_stopped_stays_of_resumption` the run that breaks it.
-/

set_option autoImplicit false

namespace ThreatScope.Soar

open Library AccessControl

/-- The statuses a compensation writes. -/
def ExecutionStatus.isCompensation : ExecutionStatus → Bool
  | .rollbackRequested | .rolledBack | .rollbackFailed => true
  | _ => false

/-- The statuses of an execution that is cancelled or expired, or compensated
after that. -/
def ExecutionStatus.isHalted : ExecutionStatus → Bool
  | .cancelled | .expired => true
  | status => status.isCompensation

/-- What may happen to a stopped execution: compensation statuses are written, and
no step record is added. -/
structure SoarExecution.StaysStopped (before after : SoarExecution) : Prop where
  status : after.status = before.status ∨ after.status.isCompensation = true
  writes : ∃ written, after.statusWrites = before.statusWrites ++ written ∧
    ∀ status ∈ written, status.isCompensation = true
  steps : after.identities = before.identities

variable {ρ : Type} (env : SoarPlatform ρ)

/-- A transition leaves a stopped execution stopped and dispatches no step of its
playbook. -/
def StoppedTransition (key : Nat) (move : Transition (Database ρ) (Event ρ)) : Prop :=
  (∀ before, move.before.executions.get? key = some before → ∃ after,
    move.after.executions.get? key = some after ∧ before.StaysStopped after) ∧
  ∀ call ∈ (perform env move.before move.input).calls,
    call.executionId = key → call.compensation = true

/-- A command that takes a stopped execution up again. -/
def revivedBy (request : Request) (store : Store ρ) (key : Nat) (execution : SoarExecution)
    (account : UserAccount) : Command → Bool
  | .resume | .cancel => execution.status == .rollbackRequested
  | .decide position decision => execution.approvals[position]?.any fun approval =>
    approval.status.isOpen && decide (request.now < approval.expiresAt) &&
      (decisionRefusal (request.context account key) account store approval).isNone &&
      (decision == .reject || decide (approval.minimumApprovals ≤ approval.approvals + 1))
  | .submitInput position response => execution.inputs[position]?.any fun input =>
    input.status == .pending && decide (request.now < input.expiresAt) &&
      !input.requestedFromUserId.any (· != request.actor) &&
      (responseRefusal env input response).isNone
  | _ => false

/-- An event that takes a stopped execution up again: it resumes or cancels a
requested rollback, expires it, or has an open approval or input of the execution
rejected, completed or answered. -/
def revives (db : Database ρ) (event : Event ρ) (key : Nat) (execution : SoarExecution) : Bool :=
  match event with
  | .environment _ _ => false
  | .request request => match request.operation with
    | .create _ _ _ => false
    | .processDue _ =>
      execution.status == .rollbackRequested && decide (execution.expiresAt ≤ request.now)
    | .act target command => target == key &&
        (db.store.directory.users.get? request.actor).any fun account =>
          revivedBy env request db.store key execution account command

/-- A database in which an execution is cancelled, expired or compensated after
that. -/
def Stopped (key : Nat) (db : Database ρ) : Prop :=
  AllRows db.executions (fun _ row => Consistent env row) ∧
    ∃ execution, db.executions.get? key = some execution ∧
      execution.status.isHalted = true

section Law

variable {env}

theorem SoarExecution.StaysStopped.of_same {before after : SoarExecution}
    (status : after.status = before.status) (writes : after.statusWrites = before.statusWrites)
    (steps : after.identities = before.identities) : before.StaysStopped after := by
  refine ⟨.inl status, ⟨[], ?_, fun _ member => absurd member List.not_mem_nil⟩, steps⟩
  rw [writes, List.append_nil]

theorem SoarExecution.StaysStopped.refl (execution : SoarExecution) :
    execution.StaysStopped execution :=
  .of_same rfl rfl rfl

theorem SoarExecution.StaysStopped.compensation {before after : SoarExecution}
    (status : ExecutionStatus) (compensation : status.isCompensation = true)
    (result : after.status = status) (writes : after.statusWrites = before.statusWrites ++ [status])
    (steps : after.identities = before.identities) : before.StaysStopped after := by
  refine ⟨.inr (result ▸ compensation), ⟨[status], writes, ?_⟩, steps⟩
  intro written member
  rw [List.mem_singleton.mp member]
  exact compensation

theorem SoarExecution.StaysStopped.isHalted {before after : SoarExecution}
    (stays : before.StaysStopped after) (halted : before.status.isHalted = true) :
    after.status.isHalted = true := by
  rcases stays.status with same | compensation
  · rw [same]
    exact halted
  · cases status : after.status with
    | rollbackRequested => rfl
    | rolledBack => rfl
    | rollbackFailed => rfl
    | _ => rw [status] at compensation; cases compensation

theorem ExecutionStatus.isTerminal_of_isHalted {status : ExecutionStatus}
    (halted : status.isHalted = true) (settled : (status == .rollbackRequested) = false) :
    status.isTerminal = true := by
  cases status with
  | rollbackRequested => cases settled
  | cancelled => rfl
  | expired => rfl
  | rolledBack => rfl
  | rollbackFailed => rfl
  | _ => cases halted

theorem runExecution_of_isTerminal (context : RunContext) {work : Work ρ}
    (terminal : work.execution.status.isTerminal = true) :
    runExecution env context work = refuse work
      (serviceError 409 "SOAR_EXECUTION_TERMINAL" "Terminal execution cannot resume") :=
  if_pos terminal

theorem runCompensation_staysStopped {context : RunContext} (work : Work ρ) {position : Nat}
    {record : SoarRollbackRecord} {action : ActionDefinition} {source : SoarStepExecution} :
    work.execution.StaysStopped
      (runCompensation env context work position record action source).work.execution := by
  have ends := runCompensation_effect env context work position record action source
  generalize (runCompensation env context work position record action source).work = result
    at ends ⊢
  cases ends with
  | raised => exact .compensation .rollbackFailed rfl rfl rfl rfl
  | violated => exact .refl _
  | finished =>
    simp only [SoarExecution.finishRollback]
    split
    · exact .compensation .rolledBack rfl rfl rfl rfl
    · exact .compensation .rollbackRequested rfl rfl rfl rfl

theorem revivedBy_of_accepted {request : Request} {store : Store ρ} {key position : Nat}
    {execution : SoarExecution} {account : UserAccount} {decision : Decision}
    {approval : SoarApproval}
    (accepted : Accepted (request.context account key) account ⟨execution, store⟩ position
      approval)
    (ends : decision = .reject ∨ approval.minimumApprovals ≤ approval.approvals + 1) :
    revivedBy env request store key execution account (.decide position decision) = true := by
  have inTime : request.now < approval.expiresAt := accepted.inTime
  have found : execution.approvals[position]? = some approval := accepted.found
  have eligible : decisionRefusal (request.context account key) account store approval = none :=
    accepted.eligible
  simp [revivedBy, found, accepted.isOpen, inTime, eligible, ends]

/-- **A command that does not revive a stopped execution leaves it stopped.** -/
theorem CommandEffect.staysStopped {request : Request} {store : Store ρ} {key : Nat}
    {execution : SoarExecution} {account : UserAccount} {command : Command} {reply : ServiceReply ρ}
    (effect : CommandEffect env (request.context account key) account ⟨execution, store⟩
      command reply)
    (halted : execution.status.isHalted = true)
    (calm : revivedBy env request store key execution account command = false) :
    execution.StaysStopped reply.work.execution ∧
      ∀ call ∈ reply.calls, call.compensation = true := by
  have nothing : ∀ call ∈ ([] : List (DispatchCall ρ)), call.compensation = true :=
    fun _ member => absurd member List.not_mem_nil
  cases effect with
  | refused => exact ⟨.refl _, nothing⟩
  | resume =>
    have terminal : (⟨execution, store⟩ : Work ρ).execution.status.isTerminal = true :=
      ExecutionStatus.isTerminal_of_isHalted halted calm
    rw [runExecution_of_isTerminal (request.context account key) terminal]
    exact ⟨.refl _, nothing⟩
  | closeApproval found isOpen closed unapproved decides => exact ⟨.of_same rfl rfl rfl, nothing⟩
  | reject accepted =>
    rw [revivedBy_of_accepted accepted (.inl rfl)] at calm
    cases calm
  | approvePartly accepted missing => exact ⟨.of_same rfl rfl rfl, nothing⟩
  | approve accepted enough completed =>
    rw [revivedBy_of_accepted accepted (.inr enough)] at calm
    cases calm
  | closeInput found isPending closed => exact ⟨.of_same rfl rfl rfl, nothing⟩
  | answer answerable accepted =>
    rename_i position response input prepared
    have found : execution.inputs[position]? = some input := answerable.found
    have inTime : request.now < input.expiresAt := answerable.inTime
    have addressed : input.requestedFromUserId.any (· != request.actor) = false :=
      answerable.addressed
    simp [revivedBy, found, answerable.isPending, inTime, addressed, answerable.fits] at calm
  | cancel running =>
    have terminal := ExecutionStatus.isTerminal_of_isHalted halted calm
    rw [terminal] at running
    cases running
  | retry failed found =>
    have failed : execution.status = .failed := failed
    rw [failed] at halted
    cases halted
  | requestRollback ended made =>
    exact ⟨.compensation .rollbackRequested rfl rfl rfl rfl, nothing⟩
  | grantRollback found waiting => exact ⟨.of_same rfl rfl rfl, nothing⟩
  | closeRollback closed => exact ⟨.of_same rfl rfl rfl, nothing⟩
  | compensate found granted compensation ofStep =>
    exact ⟨runCompensation_staysStopped ⟨execution, store⟩,
      fun call member => (runCompensation_calls call member).2⟩

/-- What an event may make of a stopped execution. Due processing does not write
it before it marks executions expired. -/
def BecomesStopped (key : Nat) (execution : SoarExecution) (event : Event ρ) (row : Nat)
    (after : SoarExecution) : Prop :=
  row = key → execution.StaysStopped after ∧
    ∀ request batchSize, event = .request request →
      request.operation = .processDue batchSize → after = execution

/-- An event that does not revive a stopped execution only compensates for it. -/
theorem stopped_preserved {db : Database ρ} {event : Event ρ} {key : Nat}
    {execution : SoarExecution} (stored : db.executions.get? key = some execution)
    (halted : execution.status.isHalted = true)
    (calm : revives env db event key execution = false) :
    Preserves env db event (fun _ row => Consistent env row)
      (BecomesStopped key execution event)
      fun call => call.executionId = key → call.compensation = true := by
  constructor
  · rintro row other found - rfl
    rw [stored] at found
    cases found
    exact ⟨.refl _, fun _ _ _ _ => rfl⟩
  · intro request account playbookId playbook payload proposed created asked operation made
    have fresh : db.executions.nextKey ≠ key := by
      have bound := Table.lt_nextKey_of_get? stored
      omega
    have consistent := newExecution_consistent made
    refine ⟨fun same => absurd same fresh, fun same => absurd same fresh, ?_⟩
    intro call member same
    have dispatched := runExecution_calls consistent call member
    exact absurd (dispatched.execution.symm.trans same) fresh
  · intro request account row command other asked operation known found consistent
    subst asked
    have effect : CommandEffect env (request.context account row) account
        ⟨other, db.store⟩ command _ := command.call_effect env
    by_cases same : row = key
    · subst same
      rw [stored] at found
      cases found
      have quiet : revivedBy env request db.store row execution account command =
          false := by
        simpa [revives, operation, known] using calm
      obtain ⟨stays, calls⟩ := effect.staysStopped halted quiet
      refine ⟨fun _ => ⟨stays, ?_⟩, fun call member _ => calls call member⟩
      intro again batchSize equal due
      cases equal
      rw [operation] at due
      cases due
    · refine ⟨fun equal => absurd equal same, fun call member equal => ?_⟩
      obtain ⟨id_, -⟩ := effect.calls consistent call member
      exact absurd (id_.symm.trans equal) same
  · intro request account store row other batchSize asked operation found due consistent
    have different : row ≠ key := by
      rintro rfl
      rw [stored] at found
      cases found
      rw [due.1] at halted
      cases halted
    refine ⟨fun equal => absurd equal different, fun call member equal => ?_⟩
    obtain ⟨id_, -⟩ := resumeDelayed_calls consistent call member
    exact absurd (id_.symm.trans equal) different
  · intro request row other batchSize asked operation running overdue follows same
    obtain ⟨-, unchanged⟩ := follows same
    have equal := unchanged request batchSize asked operation
    subst equal asked
    have settled : (other.status == .rollbackRequested) = false := by
      simpa [revives, operation, overdue] using calm
    rw [ExecutionStatus.isTerminal_of_isHalted halted settled] at running
    cases running

/-- An execution stays stopped in an event that does not revive it. -/
theorem Stopped.step {db : Database ρ} {key : Nat} (event : Event ρ) (stopped : Stopped env key db)
    (calm : ∀ execution, db.executions.get? key = some execution →
      revives env db event key execution = false) :
    Stopped env key (stepDatabase env db event) ∧
      StoppedTransition env key ⟨db, event, stepDatabase env db event⟩ := by
  obtain ⟨consistent, execution, stored, halted⟩ := stopped
  obtain ⟨nextConsistent, -⟩ := (consistent_preserved env db event).perform consistent
  obtain ⟨follows, calls⟩ :=
    (stopped_preserved stored halted (calm execution stored)).perform consistent
  obtain ⟨after, kept⟩ := Option.isSome_iff_exists.mp
    (perform_stored event (Option.isSome_iff_exists.mpr ⟨execution, stored⟩))
  obtain ⟨stays, -⟩ := follows key after kept rfl
  refine ⟨⟨nextConsistent, after, kept, stays.isHalted halted⟩, ?_, calls⟩
  intro before found
  rw [stored] at found
  cases found
  exact ⟨after, kept, stays⟩

/-- **A cancelled or expired execution stays stopped.** Once a run has cancelled
or expired an execution, every later event that does not revive it adds no step
record to it, dispatches no step of its playbook and writes no status but those
of a compensation. -/
theorem stopped_stays (store : Store ρ) (playbooks : Table SoarPlaybook)
    (first rest : List (Event ρ)) (key : Nat) (execution : SoarExecution)
    (stored : (final (stepDatabase env) (.initial store playbooks)
      first).executions.get? key = some execution)
    (stopped : execution.status = .cancelled ∨ execution.status = .expired)
    (calm : ∀ move ∈ trace (stepDatabase env)
        (final (stepDatabase env) (.initial store playbooks) first) rest,
      ∀ before, move.before.executions.get? key = some before →
        revives env move.before move.input key before = false) :
    ∀ move ∈ trace (stepDatabase env)
        (final (stepDatabase env) (.initial store playbooks) first) rest,
      StoppedTransition env key move := by
  have consistent := consistent_of_run env (allRows_initial store playbooks _) first
  have halted : execution.status.isHalted = true := by
    rcases stopped with cancelled | expired
    · rw [cancelled]
      rfl
    · rw [expired]
      rfl
  intro move member
  obtain ⟨before, -⟩ := invariant_along_trace (stepDatabase env) (Stopped env key)
    (fun move => ∀ before, move.before.executions.get? key = some before →
      revives env move.before move.input key before = false)
    (fun _ event kept fits => (kept.step event fits).1)
    ⟨consistent, execution, stored, halted⟩ calm move member
  have shape := after_eq_of_mem_trace (stepDatabase env) member
  have fits := calm move member
  obtain ⟨db, event, next⟩ := move
  simp only at shape
  subst shape
  exact (before.step event fits).2

end Law

/-- A playbook that loads a record, asks for an approval and ends. -/
def guardedDeployment : Database Unit :=
  deployment [.loadSocAlertContext]
    [plainStep "a" "action" 1 [("action_key", .str "load_soc_alert_context"),
        ("on_success", .str "p")],
      plainStep "p" "approval" 2 [("on_success", .str "e")], plainStep "e" "end" 3 []]

/-- A run of the playbook that is cancelled while it waits. -/
def cancelledRun : List (Event Unit) :=
  [ask 1 10 (createRun .liveLocal), ask 1 20 (.act 1 .cancel)]

/-- A rollback is requested, then the execution is resumed. -/
def rollbackRequest : Event Unit := ask 1 30 (.act 1 (.requestRollbacks "undo"))

/-- See `rollbackRequest`. -/
def resumption : Event Unit := ask 1 40 (.act 1 .resume)

/-- The status of the first execution. -/
def firstStatus (db : Database Unit) : Option ExecutionStatus :=
  (db.executions.get? 1).map SoarExecution.status

theorem stopped_stays_rollbackRequest :
    StoppedTransition plainPlatform 1
      ⟨final (stepDatabase plainPlatform) guardedDeployment cancelledRun, rollbackRequest,
        stepDatabase plainPlatform (final (stepDatabase plainPlatform) guardedDeployment
          cancelledRun) rollbackRequest⟩ := by
  have halts : firstStatus (final (stepDatabase plainPlatform) guardedDeployment cancelledRun) =
      some .cancelled := by decide +kernel
  obtain ⟨execution, stored, status⟩ := Option.map_eq_some_iff.mp halts
  refine stopped_stays _ _ cancelledRun [rollbackRequest] 1 execution stored (.inl status) ?_ _
    (List.mem_singleton.mpr rfl)
  intro move member before found
  simp only [trace, List.mem_singleton] at member
  subst member
  simp [revives, rollbackRequest, ask, revivedBy]

/-- **A cancelled execution can run again.** A requested rollback takes it out of
the terminal statuses, and a resumption then sets it running. -/
theorem not_stopped_stays_of_resumption :
    firstStatus (final (stepDatabase plainPlatform) guardedDeployment cancelledRun) =
        some .cancelled ∧
      ∃ move ∈ trace (stepDatabase plainPlatform)
          (final (stepDatabase plainPlatform) guardedDeployment cancelledRun)
          [rollbackRequest, resumption],
        firstStatus move.before = some .rollbackRequested ∧
          firstStatus move.after = some .running ∧
          ¬ StoppedTransition plainPlatform 1 move := by
  obtain ⟨cancelled, requests, resumes⟩ :
      firstStatus (final (stepDatabase plainPlatform) guardedDeployment cancelledRun) =
          some .cancelled ∧
        firstStatus (stepDatabase plainPlatform (final (stepDatabase plainPlatform)
          guardedDeployment cancelledRun) rollbackRequest) = some .rollbackRequested ∧
        firstStatus (stepDatabase plainPlatform (stepDatabase plainPlatform
          (final (stepDatabase plainPlatform) guardedDeployment cancelledRun) rollbackRequest)
          resumption) = some .running := by decide +kernel
  generalize final (stepDatabase plainPlatform) guardedDeployment cancelledRun = db
    at cancelled requests resumes ⊢
  refine ⟨cancelled, ⟨stepDatabase plainPlatform db rollbackRequest, resumption, _⟩,
    List.mem_cons_of_mem _ (List.mem_cons_self ..), requests, resumes, ?_⟩
  rintro ⟨stays, -⟩
  obtain ⟨execution, stored, requested⟩ := Option.map_eq_some_iff.mp requests
  obtain ⟨resumed, found, same, -⟩ := stays execution stored
  obtain ⟨other, alsoFound, running⟩ := Option.map_eq_some_iff.mp resumes
  have equal : resumed = other := Option.some.inj (found.symm.trans alsoFound)
  rw [equal, running, requested] at same
  rcases same with wrong | wrong <;> cases wrong

end ThreatScope.Soar
