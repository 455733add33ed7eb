import ThreatScope.Library.Runs
import ThreatScope.Soar.EngineSteps

/-!
# What a command can do to its execution

`CommandEffect` lists the replies of the service calls: refused without a
write, one write without the engine, a run of the engine on a prepared
execution, or a compensation. `Command.call_effect` says that every command
replies in one of these ways; the invariants of executions are checked against
the list.
-/

set_option autoImplicit false

namespace ThreatScope.Soar

open Library AccessControl

variable {ρ : Type} (env : SoarPlatform ρ)

/-- A decision on an approval passes every check of `decide_approval`. -/
structure Accepted (context : RunContext) (account : UserAccount) (work : Work ρ)
    (position : Nat) (approval : SoarApproval) : Prop where
  found : work.execution.approvals[position]? = some approval
  isOpen : approval.status.isOpen = true
  inTime : context.now < approval.expiresAt
  eligible : decisionRefusal context account work.store approval = none

/-- A response passes every check of `submit_analyst_input`. -/
structure Answerable (context : RunContext) (work : Work ρ) (position : Nat)
    (response : Dict) (input : SoarAnalystInput) : Prop where
  found : work.execution.inputs[position]? = some input
  isPending : input.status = .pending
  inTime : context.now < input.expiresAt
  addressed : input.requestedFromUserId.any (· != context.actor) = false
  fits : responseRefusal env input response = none

/-- How a command can reply. -/
inductive CommandEffect (context : RunContext) (account : UserAccount) (work : Work ρ) :
    Command → ServiceReply ρ → Prop where
  | refused {command : Command} {failure : Failure} :
      CommandEffect context account work command (refuse work failure)
  | resume : CommandEffect context account work .resume (runExecution env context work)
  | closeApproval {command : Command} {position : Nat} {approval : SoarApproval}
      {status : ApprovalStatus} {failure : Option Failure}
      (found : work.execution.approvals[position]? = some approval)
      (isOpen : approval.status.isOpen = true) (closed : status.isOpen = false)
      (unapproved : status ≠ .approved)
      (decides : command = .cancelApproval position ∨
        approval.expiresAt ≤ context.now ∧ ∃ decision, command = .decide position decision) :
      CommandEffect context account work command
        ⟨{ work with execution := work.execution.setApprovalStatus position status },
          failure, []⟩
  | reject {position : Nat} {approval : SoarApproval}
      (accepted : Accepted context account work position approval) :
      CommandEffect context account work (.decide position .reject)
        ⟨{ work with
            execution := (work.execution.storeApproval position
              (approval.decided context.actor .reject .rejected)).rejectRun }, none, []⟩
  | approvePartly {position : Nat} {approval : SoarApproval}
      (accepted : Accepted context account work position approval)
      (missing : approval.approvals + 1 < approval.minimumApprovals) :
      CommandEffect context account work (.decide position .approve)
        ⟨{ work with
            execution := work.execution.storeApproval position
              (approval.decided context.actor .approve .partiallyApproved) }, none, []⟩
  | approve {position : Nat} {approval : SoarApproval} {execution : SoarExecution}
      (accepted : Accepted context account work position approval)
      (enough : approval.minimumApprovals ≤ approval.approvals + 1)
      (completed : completeApproval env context (work.execution.storeApproval position
        (approval.decided context.actor .approve .approved)) approval.stepExecution =
          .ok execution) :
      CommandEffect context account work (.decide position .approve)
        (runExecution env context { work with execution := execution })
  | closeInput {command : Command} {position : Nat} {input : SoarAnalystInput}
      {status : InputStatus} {failure : Option Failure}
      (found : work.execution.inputs[position]? = some input)
      (isPending : input.status = .pending) (closed : status ≠ .pending) :
      CommandEffect context account work command
        ⟨{ work with execution := work.execution.setInputStatus position status }, failure, []⟩
  | answer {position : Nat} {response : Dict} {input : SoarAnalystInput}
      {execution : SoarExecution} (answerable : Answerable env context work position
        response input)
      (accepted : acceptResponse env context work.execution position input.stepExecution
        response = .ok execution) :
      CommandEffect context account work (.submitInput position response)
        (runExecution env context { work with execution := execution })
  | cancel (running : work.execution.status.isTerminal = false) :
      CommandEffect context account work .cancel
        ⟨{ work with execution := work.execution.cancel }, none, []⟩
  | retry {last : SoarStepExecution} (failed : work.execution.status = .failed)
      (found : last ∈ work.execution.steps) :
      CommandEffect context account work .retry
        (runExecution env context
          { work with execution := work.execution.restart last.stepKey })
  | requestRollback {reason : String} {records : List SoarRollbackRecord}
      (ended : work.execution.status.isTerminal = true)
      (made : newRollbacks env work.execution.rollbacks context.actor reason
        (finishedSteps work.execution) = .ok records) :
      CommandEffect context account work (.requestRollbacks reason)
        ⟨{ work with execution := work.execution.requestRollback records }, none, []⟩
  | grantRollback {position : Nat} {record : SoarRollbackRecord}
      (found : work.execution.rollbacks[position]? = some record)
      (waiting : record.status = .waitingApproval) :
      CommandEffect context account work (.approveRollback position)
        ⟨{ work with execution := work.execution.grantRollback position context.actor },
          none, []⟩
  | closeRollback {command : Command} {position : Nat} {status : RollbackStatus}
      {failure : Option Failure} (closed : status = .cancelled ∨ status = .notSupported) :
      CommandEffect context account work command
        ⟨{ work with execution := work.execution.setRollbackStatus position status },
          failure, []⟩
  | compensate {position : Nat} {record : SoarRollbackRecord} {key : ActionKey}
      {source : SoarStepExecution}
      (found : work.execution.rollbacks[position]? = some record)
      (granted : record.status = .approved)
      (compensation : record.compensatingActionKey = some key)
      (ofStep : work.execution.steps[record.sourceStepExecution]? = some source) :
      CommandEffect context account work (.executeRollback position)
        (runCompensation env context work position record key.definition source)

section Effects

variable {context : RunContext} {account : UserAccount} {work : Work ρ}

/-- What a decision does to an execution. -/
theorem decideApproval_effect (position : Nat) (decision : Decision) :
    CommandEffect env context account work (.decide position decision)
      (decideApproval env context account position decision work) := by
  unfold decideApproval
  split
  · exact .refused
  rename_i approval found
  split
  · exact .refused
  rename_i isOpen
  simp only [Bool.not_eq_true', Bool.not_eq_false] at isOpen
  split
  · rename_i overdue
    exact .closeApproval found isOpen rfl (by simp) (.inr ⟨overdue, decision, rfl⟩)
  rename_i inTime
  split
  · exact .refused
  rename_i eligible
  have accepted : Accepted context account work position approval :=
    ⟨found, isOpen, not_le.mp inTime, eligible⟩
  unfold applyDecision
  cases decision with
  | reject => exact .reject accepted
  | approve =>
    dsimp only
    split
    · rename_i enough
      split
      · exact .refused
      · rename_i completed
        exact .approve accepted enough completed
    · rename_i missing
      exact .approvePartly accepted (not_le.mp missing)

theorem submitAnalystInput_effect (position : Nat) (response : Dict) :
    CommandEffect env context account work (.submitInput position response)
      (submitAnalystInput env context position response work) := by
  unfold submitAnalystInput
  split
  · exact .refused
  rename_i input found
  split
  · exact .refused
  rename_i isPending
  simp only [ne_eq, Decidable.not_not] at isPending
  split
  · exact .closeInput found isPending (by simp)
  rename_i inTime
  split
  · exact .refused
  rename_i addressed
  split
  · exact .refused
  rename_i fits
  split
  · exact .refused
  · rename_i accepted
    exact .answer ⟨found, isPending, not_le.mp inTime, by simpa using addressed, fits⟩ accepted

theorem retryExecution_effect :
    CommandEffect env context account work .retry
      (retryExecution env context work) := by
  unfold retryExecution
  split
  · exact .refused
  rename_i failed
  simp only [ne_eq, Decidable.not_not] at failed
  split
  · exact .refused
  split
  · exact .refused
  rename_i last position found
  split
  · exact .retry failed (List.mem_of_getElem? (Rows.mem_of_last? found).1)
  · exact .refused

theorem requestRollbacks_effect (reason : String) :
    CommandEffect env context account work (.requestRollbacks reason)
      (requestRollbacks env context reason work) := by
  unfold requestRollbacks
  split
  · exact .refused
  rename_i ended
  simp only [Bool.or_eq_true, Bool.not_eq_true', not_or, Bool.not_eq_false] at ended
  split
  · exact .refused
  rename_i made
  split
  · exact .refused
  · exact .requestRollback ended.1.1 made

theorem executeRollback_effect (position : Nat) :
    CommandEffect env context account work (.executeRollback position)
      (executeRollback env context position work) := by
  unfold executeRollback
  split
  · exact .refused
  rename_i record found
  split
  · exact .refused
  rename_i granted
  simp only [ne_eq, Decidable.not_not] at granted
  split
  · exact .closeRollback (.inr rfl)
  rename_i compensation
  split
  · exact .refused
  · rename_i ofStep
    exact .compensate found granted compensation ofStep

/-- **Every command replies in one of the listed ways.** -/
theorem Command.call_effect (command : Command) :
    CommandEffect env context account work command
      (command.call env context account work) := by
  cases command with
  | resume => exact .resume
  | decide position decision => exact decideApproval_effect env position decision
  | submitInput position response => exact submitAnalystInput_effect env position response
  | cancel =>
    show CommandEffect env context account work .cancel (cancelExecution work)
    unfold cancelExecution
    split
    · exact .refused
    · rename_i running
      exact .cancel (by simpa using running)
  | retry => exact retryExecution_effect env
  | cancelApproval position =>
    show CommandEffect env context account work _ (Soar.cancelApproval position work)
    unfold Soar.cancelApproval
    split
    · exact .refused
    rename_i found
    split
    · rename_i isOpen
      exact .closeApproval found isOpen rfl (by simp) (.inl rfl)
    · exact .refused
  | cancelInput position =>
    show CommandEffect env context account work _ (Soar.cancelInput position work)
    unfold Soar.cancelInput
    split
    · exact .refused
    rename_i found
    split
    · rename_i isPending
      exact .closeInput found isPending (by simp)
    · exact .refused
  | requestRollbacks reason => exact requestRollbacks_effect env reason
  | approveRollback position =>
    show CommandEffect env context account work _
      (Soar.approveRollback context position work)
    unfold Soar.approveRollback
    split
    · exact .refused
    rename_i record found
    split
    · exact .refused
    rename_i waiting
    simp only [ne_eq, Decidable.not_not] at waiting
    split
    · exact .refused
    · exact .grantRollback found waiting
  | executeRollback position => exact executeRollback_effect env position
  | cancelRollback position =>
    show CommandEffect env context account work _ (Soar.cancelRollback position work)
    unfold Soar.cancelRollback
    split
    · exact .refused
    split
    · exact .closeRollback (.inl rfl)
    · exact .refused

end Effects

/-! ## Prepared executions -/

theorem completeApproval_ok {context : RunContext} {execution result : SoarExecution}
    {step : Nat} (completed : completeApproval env context execution step = .ok result) :
    ∃ record next, execution.steps[step]? = some record ∧
      result = { execution.setStepStatus step
          (if record.stepType = some StepType.approval then .succeeded else .approved) with
        approvedByUserId := some context.actor
        currentStepKey := next }.setStatus .queued := by
  unfold completeApproval at completed
  obtain ⟨record, found, completed⟩ := bind_eq_ok_iff.mp completed
  obtain ⟨source, -, completed⟩ := bind_eq_ok_iff.mp completed
  obtain ⟨next, -, completed⟩ := bind_eq_ok_iff.mp completed
  refine ⟨record, next, ?_, (Except.ok.inj completed).symm⟩
  unfold stepAt at found
  split at found
  · rename_i here
    rw [here, Except.ok.inj found]
  · cases found

theorem acceptResponse_ok {context : RunContext} {execution result : SoarExecution}
    {position step : Nat} {response : Dict}
    (accepted : acceptResponse env context execution position step response = .ok result) :
    ∃ stored output next,
      result = ((execution.modifyInput position fun input =>
        { input with
          response := stored
          submittedByUserId := some context.actor
          status := .submitted }).recordOutput step .succeeded output next).setStatus
        .queued := by
  unfold acceptResponse at accepted
  obtain ⟨stored, -, accepted⟩ := bind_eq_ok_iff.mp accepted
  obtain ⟨record, -, accepted⟩ := bind_eq_ok_iff.mp accepted
  obtain ⟨output, -, accepted⟩ := bind_eq_ok_iff.mp accepted
  obtain ⟨source, -, accepted⟩ := bind_eq_ok_iff.mp accepted
  obtain ⟨names, -, accepted⟩ := bind_eq_ok_iff.mp accepted
  obtain ⟨next, -, accepted⟩ := bind_eq_ok_iff.mp accepted
  exact ⟨stored, output, next, (Except.ok.inj accepted).symm⟩

theorem finishDelay_ok {execution result : SoarExecution} {record : SoarStepExecution}
    {position : Nat} (finished : finishDelay env execution record position = .ok result) :
    ∃ output next, result = { execution.recordOutput position .succeeded output next with
      nextResumeAt := none }.setStatus .queued := by
  unfold finishDelay at finished
  obtain ⟨source, -, finished⟩ := bind_eq_ok_iff.mp finished
  obtain ⟨output, -, finished⟩ := bind_eq_ok_iff.mp finished
  obtain ⟨next, -, finished⟩ := bind_eq_ok_iff.mp finished
  exact ⟨output, next, (Except.ok.inj finished).symm⟩

/-- How a compensation ends: it raises, its commit fails, or it goes through. -/
inductive CompensationEffect (context : RunContext) (work : Work ρ) (position : Nat)
    (record : SoarRollbackRecord) (action : ActionDefinition) (source : SoarStepExecution) :
    Work ρ → Prop
  | raised {failure : Failure}
      (raises : compensate env context work record action source = .error failure) :
      CompensationEffect context work position record action source
        { work with execution := work.execution.failRollback position (failure.text env) }
  | violated {outcome : DispatchOutcome ρ} {output : Json} {message : String}
      (returns : compensate env context work record action source = .ok (outcome, output))
      (violation : outcome.violation = some message) :
      CompensationEffect context work position record action source work
  | finished {outcome : DispatchOutcome ρ} {output : Json}
      (returns : compensate env context work record action source = .ok (outcome, output))
      (valid : outcome.violation = none) :
      CompensationEffect context work position record action source
        ⟨(work.execution.absorb outcome).finishRollback position output context.actor,
          outcome.store⟩

/-- What a compensation does to an execution. -/
theorem runCompensation_effect (context : RunContext) (work : Work ρ) (position : Nat)
    (record : SoarRollbackRecord) (action : ActionDefinition) (source : SoarStepExecution) :
    CompensationEffect env context work position record action source
      (runCompensation env context work position record action source).work := by
  unfold runCompensation
  dsimp only
  split
  · rename_i raises
    exact .raised raises
  rename_i returns
  split
  · rename_i violation
    exact .violated returns violation
  · rename_i valid
    exact .finished returns valid

theorem resumeDelayed_effect (context : RunContext) (work : Work ρ) :
    resumeDelayed env context work = ⟨work, none, []⟩ ∨
      (∃ failure, resumeDelayed env context work = refuse work failure) ∨
      ∃ record position execution,
        work.execution.steps[position]? = some record ∧ record.status = .waitingDelay ∧
        work.execution.currentStepKey = some record.stepKey ∧
        finishDelay env work.execution record position = .ok execution ∧
        resumeDelayed env context work =
          runExecution env context { work with execution := execution } := by
  unfold resumeDelayed
  split
  · exact .inl rfl
  · rename_i record position found
    obtain ⟨here, passes⟩ := Rows.mem_of_last? found
    simp only [Bool.and_eq_true, beq_iff_eq] at passes
    split
    · rename_i failure _
      exact .inr (.inl ⟨failure, rfl⟩)
    · rename_i execution finished
      exact .inr (.inr ⟨record, position, execution, here, passes.2, passes.1, finished, rfl⟩)

/-!
## What an event can do to the executions

An event writes an execution in five ways: it creates it, runs a command on it,
takes it on after a delay, marks it expired, or leaves it alone. A property of
executions that survives these (`Preserves`) survives the event
(`Preserves.perform`) and every run of events (`invariant_of_run`).

The property may speak of the key of the execution, and what is shown after the
event may differ from what held before it; a second property is about the
dispatcher calls the event makes.
-/

variable {ρ : Type} (env : SoarPlatform ρ)

/-- A reply leaves an execution with a property and makes calls with a property. -/
def ServiceReply.Keeps (reply : ServiceReply ρ) (property : SoarExecution → Prop)
    (called : DispatchCall ρ → Prop) : Prop :=
  property reply.work.execution ∧ ∀ call ∈ reply.calls, called call

/-- What holds of every row of a table of executions. -/
def AllRows (executions : Table SoarExecution) (property : Nat → SoarExecution → Prop) : Prop :=
  ∀ key execution, executions.get? key = some execution → property key execution

/-- An execution `process_due` selects. -/
def SoarExecution.isDue (execution : SoarExecution) (now : Instant) : Prop :=
  execution.status = .waitingDelay ∧ ∃ due, execution.nextResumeAt = some due ∧ due ≤ now

/-- A property survives each way an event writes an execution. -/
structure Preserves (db : Database ρ) (event : Event ρ)
    (before after : Nat → SoarExecution → Prop) (called : DispatchCall ρ → Prop) : Prop where
  keep : ∀ key execution, db.executions.get? key = some execution →
    before key execution → after key execution
  create : ∀ request account playbookId playbook payload proposed execution,
    event = .request request → request.operation = .create playbookId payload proposed →
    newExecution env db.store playbookId playbook payload request.actor request.now
      proposed = .ok execution →
    after db.executions.nextKey execution ∧
      (runExecution env (request.context account db.executions.nextKey)
        ⟨execution, db.store⟩).Keeps (after db.executions.nextKey) called
  act : ∀ request account key command execution,
    event = .request request → request.operation = .act key command →
    db.store.directory.users.get? request.actor = some account →
    db.executions.get? key = some execution → before key execution →
    (command.call env (request.context account key) account
      ⟨execution, db.store⟩).Keeps (after key) called
  delay : ∀ request account store key execution batchSize,
    event = .request request → request.operation = .processDue batchSize →
    db.executions.get? key = some execution → execution.isDue request.now →
    before key execution →
    (resumeDelayed env (request.context account key) ⟨execution, store⟩).Keeps
      (after key) called
  expire : ∀ request key execution batchSize,
    event = .request request → request.operation = .processDue batchSize →
    execution.status.isTerminal = false → execution.expiresAt ≤ request.now →
    after key execution → after key (execution.setStatus .expired)

section Rule

variable {env}

/-! ## Rows -/

theorem AllRows.modify {executions : Table SoarExecution}
    {property : Nat → SoarExecution → Prop} (all : AllRows executions property) (key : Nat)
    {result : SoarExecution} (here : property key result) :
    AllRows (executions.modify key fun _ => result) property := by
  intro other execution found
  rw [Table.get?_modify] at found
  split at found
  · rename_i same
    obtain ⟨old, -, rfl⟩ := Option.map_eq_some_iff.mp found
    rw [same]
    exact here
  · exact all other execution found

theorem AllRows.insert {executions : Table SoarExecution}
    {property : Nat → SoarExecution → Prop} (all : AllRows executions property)
    {result : SoarExecution} (here : property executions.nextKey result) :
    AllRows (executions.insert result) property := by
  intro other execution found
  rw [Table.get?_insert] at found
  split at found
  · rename_i same
    cases found
    rw [same]
    exact here
  · exact all other execution found

/-- A call that keeps a property of its row keeps it of all rows. -/
theorem onExecution_keeps {db : Database ρ} (key : Nat)
    (call : Work ρ → ServiceReply ρ) {property : Nat → SoarExecution → Prop}
    {called : DispatchCall ρ → Prop} (all : AllRows db.executions property)
    (kept : ∀ execution, db.executions.get? key = some execution →
      (call ⟨execution, db.store⟩).Keeps (property key) called) :
    AllRows (onExecution db key call).db.executions property ∧
      ∀ made ∈ (onExecution db key call).calls, called made := by
  unfold onExecution
  split
  · exact ⟨all, fun _ member => absurd member List.not_mem_nil⟩
  · rename_i execution found
    obtain ⟨here, calls⟩ := kept execution found
    exact ⟨all.modify key here, calls⟩

theorem get?_onExecution_of_ne {db : Database ρ} {key other : Nat}
    {call : Work ρ → ServiceReply ρ} (different : other ≠ key) :
    (onExecution db key call).db.executions.get? other =
      db.executions.get? other := by
  unfold onExecution
  split
  · rfl
  · exact Table.get?_modify_of_ne _ _ different

theorem dueExecutions_spec (executions : Table SoarExecution) (now : Instant) (batchSize : Nat) :
    (dueExecutions executions now batchSize).Nodup ∧
      ∀ key ∈ dueExecutions executions now batchSize, ∃ execution,
        executions.get? key = some execution ∧ execution.isDue now := by
  unfold dueExecutions
  constructor
  · have filtered := (List.filter_sublist (p := fun row : Nat × SoarExecution =>
      row.2.status == .waitingDelay && row.2.nextResumeAt.any fun due => decide (due ≤ now))
        (l := executions.rows)).map Prod.fst
    refine ((List.take_sublist _ _).map Prod.fst).nodup ?_
    exact ((List.perm_insertionSort _ _).map Prod.fst).nodup_iff.mpr
      (filtered.nodup executions.keys_nodup)
  · intro key member
    obtain ⟨row, taken, rfl⟩ := List.mem_map.mp member
    have sorted := List.mem_of_mem_take taken
    obtain ⟨stored, due⟩ := List.mem_filter.mp
      ((List.perm_insertionSort _ _).mem_iff.mp sorted)
    simp only [Bool.and_eq_true, beq_iff_eq, Option.any_eq_true, decide_eq_true_eq] at due
    exact ⟨row.2, (executions.get?_eq_some_iff row.1 row.2).mpr stored, due⟩

theorem mem_dueExecutions {executions : Table SoarExecution} {now : Instant} {batchSize key : Nat}
    {execution : SoarExecution} (stored : executions.get? key = some execution)
    (due : execution.isDue now) (enough : executions.rows.length ≤ batchSize) :
    key ∈ dueExecutions executions now batchSize := by
  obtain ⟨delayed, time, resumes, passed⟩ := due
  have row := (executions.get?_eq_some_iff key execution).mp stored
  unfold dueExecutions
  refine List.mem_map.mpr ⟨(key, execution), ?_, rfl⟩
  rw [List.take_of_length_le]
  · refine (List.perm_insertionSort _ _).mem_iff.mpr (List.mem_filter.mpr ⟨row, ?_⟩)
    simp [delayed, resumes, passed]
  · rw [List.length_insertionSort]
    exact (List.length_filter_le _ _).trans enough

/-! ## One event -/

variable {db : Database ρ} {event : Event ρ} {before after : Nat → SoarExecution → Prop}
  {called : DispatchCall ρ → Prop}

/-- The loop of due processing, by induction on the executions it still takes:
those are as they were when the loop began. -/
theorem Preserves.resumeAll (rule : Preserves env db event before after called)
    {request : Request} (account : UserAccount) {batchSize : Nat}
    (asked : event = .request request) (due : request.operation = .processDue batchSize)
    (all : AllRows db.executions before) (keys : List Nat) :
    ∀ {current : Database ρ} {calls : List (DispatchCall ρ)}, keys.Nodup →
    (∀ key ∈ keys, ∃ execution, db.executions.get? key = some execution ∧
      execution.isDue request.now) →
    (∀ key ∈ keys, current.executions.get? key = db.executions.get? key) →
    AllRows current.executions after → (∀ call ∈ calls, called call) →
    AllRows (Soar.resumeAll env request account keys current calls).db.executions
        after ∧
      ∀ call ∈ (Soar.resumeAll env request account keys current calls).calls,
        called call := by
  induction keys with
  | nil => exact fun _ _ _ kept calls => ⟨kept, calls⟩
  | cons key rest ih =>
    intro current calls distinct selected untouched kept made
    obtain ⟨absent, distinct⟩ := List.nodup_cons.mp distinct
    obtain ⟨nextAll, more⟩ := onExecution_keeps key
      (resumeDelayed env (request.context account key)) kept fun execution found => by
        obtain ⟨_, here, isDue⟩ := selected key (List.mem_cons_self ..)
        rw [untouched key (List.mem_cons_self ..), here] at found
        cases found
        exact rule.delay request account current.store key execution batchSize asked due here
          isDue (all key execution here)
    have together : ∀ call ∈ calls ++ (onExecution current key
        (resumeDelayed env (request.context account key))).calls, called call := by
      intro call member
      rcases List.mem_append.mp member with old | new
      · exact made call old
      · exact more call new
    unfold Soar.resumeAll
    dsimp only
    split
    · exact ⟨nextAll, together⟩
    · refine ih distinct (fun other member => selected other (List.mem_cons_of_mem _ member))
        (fun other member => ?_) nextAll together
      have different : other ≠ key := by
        rintro rfl
        exact absent member
      rw [get?_onExecution_of_ne different]
      exact untouched other (List.mem_cons_of_mem _ member)

/-- **An event preserves what survives each of its writes.** -/
theorem Preserves.perform (rule : Preserves env db event before after called)
    (all : AllRows db.executions before) :
    AllRows (Soar.perform env db event).db.executions after ∧
      ∀ call ∈ (Soar.perform env db event).calls, called call := by
  have kept : AllRows db.executions after :=
    fun key execution found => rule.keep key execution found (all key execution found)
  have nothing : ∀ call ∈ ([] : List (DispatchCall ρ)), called call :=
    fun _ member => absurd member List.not_mem_nil
  cases event with
  | environment store playbooks => exact ⟨kept, nothing⟩
  | request request =>
    unfold Soar.perform
    dsimp only
    split
    · exact ⟨kept, nothing⟩
    rename_i account known
    split
    · rename_i playbookId payload proposed operation
      unfold createExecution
      split
      · exact ⟨kept, nothing⟩
      split
      · exact ⟨kept, nothing⟩
      split
      · exact ⟨kept, nothing⟩
      rename_i playbook _ _ _ execution made
      obtain ⟨added, ran⟩ := rule.create request account playbookId playbook payload proposed
        execution rfl operation made
      dsimp only
      split
      · exact ⟨kept.insert added, nothing⟩
      · refine onExecution_keeps _ _ (kept.insert added) fun inserted found => ?_
        rw [Table.get?_insert_nextKey] at found
        cases found
        exact ran
    · rename_i batchSize operation
      unfold processDue
      obtain ⟨distinct, selected⟩ :=
        dueExecutions_spec db.executions request.now batchSize
      obtain ⟨resumed, calls⟩ := rule.resumeAll account rfl operation all
        (dueExecutions db.executions request.now batchSize) distinct selected
        (fun _ _ => rfl) kept nothing
      dsimp only
      split
      · exact ⟨resumed, calls⟩
      · refine ⟨fun key execution found => ?_, calls⟩
        unfold expireExecutions at found
        rw [Table.get?_update] at found
        obtain ⟨old, stored, rfl⟩ := Option.map_eq_some_iff.mp found
        split
        · rename_i overdue
          simp only [Bool.and_eq_true, Bool.not_eq_true', decide_eq_true_eq] at overdue
          exact rule.expire request key old batchSize rfl operation overdue.1 overdue.2
            (resumed key old stored)
        · exact resumed key old stored
    · rename_i key command operation
      unfold onExecution
      split
      · exact ⟨kept, nothing⟩
      · rename_i execution found
        obtain ⟨here, calls⟩ := rule.act request account key command execution rfl operation
          known found (all key execution found)
        exact ⟨kept.modify key here, calls⟩

/-- Two properties that an event preserves are preserved together. -/
theorem Preserves.and {other : Nat → SoarExecution → Prop} {alsoCalled : DispatchCall ρ → Prop}
    (first : Preserves env db event before after called)
    (second : Preserves env db event before other alsoCalled) :
    Preserves env db event before
      (fun key execution => after key execution ∧ other key execution)
      fun call => called call ∧ alsoCalled call := by
  have together {reply : ServiceReply ρ} {key : Nat} (one : reply.Keeps (after key) called)
      (two : reply.Keeps (other key) alsoCalled) :
      reply.Keeps (fun execution => after key execution ∧ other key execution)
        fun call => called call ∧ alsoCalled call :=
    ⟨⟨one.1, two.1⟩, fun call member => ⟨one.2 call member, two.2 call member⟩⟩
  constructor
  · intro key execution found holds
    exact ⟨first.keep key execution found holds, second.keep key execution found holds⟩
  · intro request account playbookId playbook payload proposed execution asked operation made
    obtain ⟨new, ran⟩ := first.create request account playbookId playbook payload proposed
      execution asked operation made
    obtain ⟨alsoNew, alsoRan⟩ := second.create request account playbookId playbook payload
      proposed execution asked operation made
    exact ⟨⟨new, alsoNew⟩, together ran alsoRan⟩
  · intro request account key command execution asked operation known found holds
    exact together
      (first.act request account key command execution asked operation known found holds)
      (second.act request account key command execution asked operation known found holds)
  · intro request account store key execution batchSize asked operation found due holds
    exact together
      (first.delay request account store key execution batchSize asked operation found due holds)
      (second.delay request account store key execution batchSize asked operation found due
        holds)
  · intro request key execution batchSize asked operation running overdue holds
    exact ⟨first.expire request key execution batchSize asked operation running overdue holds.1,
      second.expire request key execution batchSize asked operation running overdue holds.2⟩

theorem Preserves.before_of {stronger : Nat → SoarExecution → Prop}
    (rule : Preserves env db event before after called)
    (weaken : ∀ key execution, stronger key execution → before key execution) :
    Preserves env db event stronger after called where
  keep key execution found holds := rule.keep key execution found (weaken key execution holds)
  create := rule.create
  act request account key command execution asked operation known found holds :=
    rule.act request account key command execution asked operation known found
      (weaken key execution holds)
  delay request account store key execution batchSize asked operation found due holds :=
    rule.delay request account store key execution batchSize asked operation found due
      (weaken key execution holds)
  expire := rule.expire

/-! ## No execution is deleted -/

theorem onExecution_stored {db : Database ρ} {key : Nat} (other : Nat)
    (call : Work ρ → ServiceReply ρ) (stored : (db.executions.get? key).isSome) :
    ((onExecution db other call).db.executions.get? key).isSome := by
  unfold onExecution
  split
  · exact stored
  · simp only [Table.get?_modify]
    split
    · simpa using stored
    · exact stored

theorem resumeAll_stored (request : Request) (account : UserAccount) {key : Nat}
    (keys : List Nat) : ∀ {db : Database ρ} {calls : List (DispatchCall ρ)},
    (db.executions.get? key).isSome →
    ((resumeAll env request account keys db calls).db.executions.get?
      key).isSome := by
  induction keys with
  | nil => exact fun stored => stored
  | cons other rest ih =>
    intro db calls stored
    have kept := onExecution_stored other
      (resumeDelayed env (request.context account other)) stored
    unfold resumeAll
    dsimp only
    split
    · exact kept
    · exact ih kept

/-- **An event deletes no execution.** -/
theorem perform_stored {db : Database ρ} (event : Event ρ) {key : Nat}
    (stored : (db.executions.get? key).isSome) :
    ((perform env db event).db.executions.get? key).isSome := by
  cases event with
  | environment store playbooks => exact stored
  | request request =>
    unfold perform
    dsimp only
    split
    · exact stored
    rename_i account known
    split
    · rename_i payload proposed operation
      unfold createExecution
      split
      · exact stored
      split
      · exact stored
      split
      · exact stored
      rename_i execution _
      have inserted : ((db.executions.insert execution).get? key).isSome := by
        rw [Table.get?_insert]
        split
        · rfl
        · exact stored
      dsimp only
      split
      · exact inserted
      · exact onExecution_stored _ _ inserted
    · rename_i batchSize operation
      have resumed : ((resumeAll env request account
          (dueExecutions db.executions request.now batchSize) db
            []).db.executions.get? key).isSome := resumeAll_stored request account _ stored
      unfold processDue
      dsimp only
      split
      · exact resumed
      · simp only [expireExecutions, Table.get?_update, Option.isSome_map]
        exact resumed
    · exact onExecution_stored _ _ stored

theorem stepDatabase_stored {db : Database ρ} (event : Event ρ) {key : Nat}
    (stored : (db.executions.get? key).isSome) :
    ((stepDatabase env db event).executions.get? key).isSome :=
  perform_stored event stored

end Rule

theorem newExecution_ok {store : Store ρ} {playbookId : Nat} {playbook : SoarPlaybook}
    {payload : ExecutionCreate} {actor : Nat} {now : Instant} {proposed : Bool}
    {execution : SoarExecution}
    (made : newExecution env store playbookId playbook payload actor now proposed =
      .ok execution) :
    execution.steps = [] ∧ execution.approvals = [] ∧ execution.inputs = [] ∧
      execution.rollbacks = [] ∧ execution.requestedByUserId = actor ∧
      execution.statusWrites = [execution.status] ∧
      (execution.status = .proposed ∨ execution.status = .queued) := by
  unfold newExecution at made
  obtain ⟨definition, -, made⟩ := bind_eq_ok_iff.mp made
  obtain ⟨inputContext, -, made⟩ := bind_eq_ok_iff.mp made
  obtain ⟨variableState, -, made⟩ := bind_eq_ok_iff.mp made
  obtain ⟨start, -, made⟩ := bind_eq_ok_iff.mp made
  cases made
  refine ⟨rfl, rfl, rfl, rfl, rfl, rfl, ?_⟩
  cases proposed
  · exact .inr rfl
  · exact .inl rfl

end ThreatScope.Soar
