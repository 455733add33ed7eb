import ThreatScope.Soar.Consistency

/-!
# When an execution is rolled back

An execution should be marked rolled back only when its compensation is complete:
no record with a compensating action waits for its approval or its execution, and
none has failed. The status is computed from the records that wait for approval
alone, so the mark is right exactly when, besides the record that is executed, some
record waits for its approval or none is outstanding (`rolledBack_complete_iff`).

Only a completed rollback record marks an execution; everything else writes other
statuses (`Unmarked`).
-/

set_option autoImplicit false

namespace ThreatScope.Soar

open Library AccessControl

variable {ρ : Type} (env : SoarPlatform ρ)

/-- The compensation of a record is still to come, or it failed. -/
def SoarRollbackRecord.isOutstanding (record : SoarRollbackRecord) : Bool :=
  record.compensatingActionKey.isSome && (record.status == .waitingApproval ||
    record.status == .approved || record.status == .failed)

/-- The status `rolled_back` was written between two states. -/
def MarksRolledBack (before after : SoarExecution) : Prop :=
  ∃ written, after.statusWrites = before.statusWrites ++ written ∧
    ExecutionStatus.rolledBack ∈ written

/-- An execution is marked rolled back only when no record is outstanding. -/
def CompleteRollback (before after : SoarExecution) : Prop :=
  MarksRolledBack before after → ∀ record ∈ after.rollbacks, record.isOutstanding = false

/-- Besides the record at a position, none waits for its approval and one is
outstanding. -/
def SoarExecution.leavesOpen (execution : SoarExecution) (position : Nat) : Bool :=
  (execution.rollbacks.zipIdx.all fun row =>
      row.2 == position || row.1.status != .waitingApproval) &&
    execution.rollbacks.zipIdx.any fun row => row.2 != position && row.1.isOutstanding

/-- The compensation of the approved record at a position goes through. -/
def goesThrough (context : RunContext) (work : Work ρ) (position : Nat) : Bool :=
  work.execution.rollbacks[position]?.any fun record =>
    record.status == .approved && record.compensatingActionKey.any fun key =>
      work.execution.steps[record.sourceStepExecution]?.any fun source =>
        match compensate env context work record key.definition source with
        | .ok (outcome, _) => outcome.violation.isNone
        | .error _ => false

/-- The rollback record of an execution that an event completes. -/
def completedRollback (db : Database ρ) (event : Event ρ) (key : Nat)
    (execution : SoarExecution) : Option Nat :=
  match event with
  | .environment _ _ => none
  | .request request => match request.operation with
    | .act target (.executeRollback position) =>
      if target == key && (db.store.directory.users.get? request.actor).any fun account =>
          goesThrough env (request.context account key) ⟨execution, db.store⟩
            position then some position
      else none
    | _ => none

/-! ## What everything else writes -/

/-- The status `rolled_back` is not among those written. -/
def Unmarked (before after : SoarExecution) : Prop :=
  ∃ written, after.statusWrites = before.statusWrites ++ written ∧
    ExecutionStatus.rolledBack ∉ written

/-- Unless the event completes a rollback record of it, an execution stays unmarked. -/
def UnmarkedRow (db : Database ρ) (event : Event ρ) (key : Nat) (row : SoarExecution) :
    Prop :=
  ∀ before, db.executions.get? key = some before →
    completedRollback env db event key before = none → Unmarked before row

section Unmarked

variable {env} {before after later : SoarExecution} {quiet : Prop}

theorem Unmarked.of_same (writes : after.statusWrites = before.statusWrites) :
    Unmarked before after := by
  refine ⟨[], ?_, List.not_mem_nil⟩
  rw [writes, List.append_nil]

theorem Unmarked.write (status : ExecutionStatus) (other : status ≠ .rolledBack)
    (writes : after.statusWrites = before.statusWrites ++ [status]) : Unmarked before after := by
  refine ⟨[status], writes, ?_⟩
  rw [List.mem_singleton]
  exact other.symm

theorem Unmarked.setStatus (execution : SoarExecution) (status : ExecutionStatus)
    (other : status ≠ .rolledBack) : Unmarked execution (execution.setStatus status) :=
  .write status other rfl

theorem Unmarked.trans (first : Unmarked before after) (second : Unmarked after later) :
    Unmarked before later := by
  obtain ⟨early, writes, absent⟩ := first
  obtain ⟨late, moreWrites, alsoAbsent⟩ := second
  refine ⟨early ++ late, ?_, ?_⟩
  · rw [moreWrites, writes, List.append_assoc]
  · intro member
    rcases List.mem_append.mp member with old | new
    · exact absent old
    · exact alsoAbsent new

theorem Unmarked.complete (unmarked : Unmarked before after) : CompleteRollback before after := by
  rintro ⟨written, writes, marked⟩
  obtain ⟨others, same, absent⟩ := unmarked
  rw [same] at writes
  rw [← List.append_cancel_left writes] at marked
  exact absurd marked absent

theorem EngineStep.unmarked (step : EngineStep env quiet before after) :
    Unmarked before after := by
  cases step with
  | start idle => exact .write .running (by simp) rfl
  | enter current defined fresh made => exact .of_same rfl
  | askApproval here unasked asks => exact .write .waitingApproval (by simp) rfl
  | askInput here asks => exact .write .waitingInput (by simp) rfl
  | startDelay here => exact .write .waitingDelay (by simp) rfl
  | absorb outcome => exact .of_same rfl
  | record here done => exact .of_same rfl
  | close terminal =>
    refine .write _ ?_ rfl
    rcases terminal with rfl | rfl | rfl <;> simp
  | fail =>
    simp only [SoarExecution.fail]
    split
    · exact .write .failed (by simp) rfl
    · exact .write .failed (by simp) rfl

theorem EngineSteps.unmarked (steps : EngineSteps env quiet before after) :
    Unmarked before after := by
  induction steps with
  | refl => exact .of_same rfl
  | tail _ step ih => exact ih.trans step.unmarked

/-- A run of the engine does not write `rolled_back`. -/
theorem runExecution_unmarked {context : RunContext} (work : Work ρ)
    (attempts : work.execution.FirstAttempts) :
    Unmarked work.execution (runExecution env context work).work.execution := by
  have steps : EngineSteps env False work.execution
      (runExecution env context work).work.execution :=
    (runExecution_steps env attempts False.elim).1
  exact steps.unmarked

end Unmarked

/-! ## A compensation -/

section Compensation

variable {execution : SoarExecution} {position : Nat} {outcome : DispatchOutcome ρ}
  {output : Json} {actor : Nat}

theorem getElem?_finishRollback (execution : SoarExecution) (position : Nat) (output : Json)
    (actor : Nat) {index : Nat} {record : SoarRollbackRecord}
    (found : (execution.finishRollback position output actor).rollbacks[index]? = some record) :
    (index ≠ position ∧ execution.rollbacks[index]? = some record) ∨
      index = position ∧ record.status = .completed := by
  rcases Rows.getElem?_of_modify found with old | ⟨stored, rfl, -, rfl⟩
  · exact .inl old
  · exact .inr ⟨rfl, rfl⟩

/-- A compensation that goes through marks the execution exactly when no other
record waits for its approval. -/
theorem marksRolledBack_finishRollback :
    MarksRolledBack execution ((execution.absorb outcome).finishRollback position output actor) ↔
      ∀ index record, index ≠ position → execution.rollbacks[index]? = some record →
        record.status ≠ .waitingApproval := by
  have shape : ((execution.absorb outcome).finishRollback position output actor).statusWrites =
      execution.statusWrites ++ [if (((execution.absorb outcome).modifyRollback position
        fun record => { record with
          status := .completed
          actualAfterState := output
          executedByUserId := some actor }).rollbacks.countP
          fun record => record.status == .waitingApproval) = 0
        then ExecutionStatus.rolledBack else .rollbackRequested] := rfl
  have counted : (((execution.absorb outcome).modifyRollback position fun record =>
      { record with
        status := .completed
        actualAfterState := output
        executedByUserId := some actor }).rollbacks.countP
        fun record => record.status == .waitingApproval) = 0 ↔
      ∀ index record, index ≠ position → execution.rollbacks[index]? = some record →
        record.status ≠ .waitingApproval := by
    rw [List.countP_eq_zero]
    constructor
    · intro none index record different found waiting
      have kept : ((execution.absorb outcome).modifyRollback position fun record =>
          { record with
            status := .completed
            actualAfterState := output
            executedByUserId := some actor }).rollbacks[index]? = some record :=
        (Rows.getElem?_modify_of_ne different).trans found
      exact none record (List.mem_of_getElem? kept) (by simp [waiting])
    · intro none record member waiting
      obtain ⟨index, found⟩ := List.getElem?_of_mem member
      rcases Rows.getElem?_of_modify found with ⟨different, old⟩ | ⟨stored, -, -, rfl⟩
      · exact none index record different old (by simpa using waiting)
      · simp at waiting
  constructor
  · rintro ⟨written, writes, marked⟩
    rw [shape] at writes
    rw [← List.append_cancel_left writes, List.mem_singleton] at marked
    refine counted.mp ?_
    by_contra pending
    rw [if_neg pending] at marked
    cases marked
  · intro none
    refine ⟨_, shape, ?_⟩
    rw [if_pos (counted.mpr none)]
    exact List.mem_singleton.mpr rfl

/-- **A compensation that goes through is complete exactly when it leaves nothing
open**: another record still waits for its approval, or none is outstanding. -/
theorem completeRollback_finishRollback :
    CompleteRollback execution
        ((execution.absorb outcome).finishRollback position output actor) ↔
      execution.leavesOpen position = false := by
  have others : ((execution.rollbacks.zipIdx.all fun row =>
      row.2 == position || row.1.status != .waitingApproval) = true) ↔
      ∀ index record, index ≠ position → execution.rollbacks[index]? = some record →
        record.status ≠ .waitingApproval := by
    rw [List.all_eq_true]
    constructor
    · intro all index record different found
      have here := all (record, index) (List.mk_mem_zipIdx_iff_getElem?.mpr found)
      simpa [different] using here
    · intro all row member
      have found := List.mk_mem_zipIdx_iff_getElem?.mp (show (row.1, row.2) ∈ _ from member)
      by_cases same : row.2 = position
      · simp [same]
      · simpa [same] using all row.2 row.1 same found
  have outstanding : ((execution.rollbacks.zipIdx.any fun row =>
      row.2 != position && row.1.isOutstanding) = true) ↔
      ∃ index record, index ≠ position ∧ execution.rollbacks[index]? = some record ∧
        record.isOutstanding = true := by
    rw [List.any_eq_true]
    constructor
    · rintro ⟨row, member, facts⟩
      simp only [Bool.and_eq_true, bne_iff_ne, ne_eq] at facts
      exact ⟨row.2, row.1, facts.1, List.mk_mem_zipIdx_iff_getElem?.mp member, facts.2⟩
    · rintro ⟨index, record, different, found, open_⟩
      refine ⟨(record, index), List.mk_mem_zipIdx_iff_getElem?.mpr found, ?_⟩
      simp [different, open_]
  constructor
  · intro complete
    by_contra left
    simp only [SoarExecution.leavesOpen, Bool.not_eq_false, Bool.and_eq_true] at left
    have marks : MarksRolledBack execution
        ((execution.absorb outcome).finishRollback position output actor) :=
      marksRolledBack_finishRollback.mpr (others.mp left.1)
    obtain ⟨index, record, different, found, open_⟩ := outstanding.mp left.2
    have kept : ((execution.absorb outcome).finishRollback position output
        actor).rollbacks[index]? = some record :=
      (Rows.getElem?_modify_of_ne different).trans found
    rw [complete marks record (List.mem_of_getElem? kept)] at open_
    cases open_
  · intro closed marks record member
    have none := others.mpr (marksRolledBack_finishRollback.mp marks)
    simp only [SoarExecution.leavesOpen, none, Bool.true_and] at closed
    obtain ⟨index, found⟩ := List.getElem?_of_mem member
    rcases getElem?_finishRollback _ _ _ _ found with ⟨different, old⟩ | ⟨-, completed⟩
    · cases open_ : record.isOutstanding with
      | false => rfl
      | true =>
        have wrong := outstanding.mpr ⟨index, record, different, old, open_⟩
        rw [closed] at wrong
        cases wrong
    · simp [SoarRollbackRecord.isOutstanding, completed]

end Compensation

/-! ## Every event -/

section Events

variable {env} {execution : SoarExecution} {context : RunContext} {account : UserAccount}

/-- Nor does a command that completes no rollback. -/
theorem CommandEffect.unmarked {store : Store ρ} {command : Command} {reply : ServiceReply ρ}
    (effect : CommandEffect env context account ⟨execution, store⟩ command reply)
    (consistent : Consistent env execution)
    (uncompleted : ∀ position, command = .executeRollback position →
      goesThrough env context ⟨execution, store⟩ position = false) :
    Unmarked execution reply.work.execution := by
  have rerun {prepared : SoarExecution} (same : SameRecords execution prepared)
      (unmarked : Unmarked execution prepared) : Unmarked execution
        (runExecution env context ⟨prepared, store⟩).work.execution :=
    unmarked.trans (runExecution_unmarked ⟨prepared, store⟩ (consistent.of_same same).attempts)
  cases effect with
  | refused => exact .of_same rfl
  | resume => exact rerun ⟨rfl, rfl, rfl, rfl⟩ (.of_same rfl)
  | closeApproval found isOpen closed unapproved decides => exact .of_same rfl
  | reject accepted => exact .write .failed (by simp) rfl
  | approvePartly accepted missing => exact .of_same rfl
  | approve accepted enough completed =>
    have same := (stored_same accepted.found .approve .approved).trans
      (completeApproval_same completed)
    obtain ⟨record, next, -, rfl⟩ := completeApproval_ok env completed
    exact rerun same (.write .queued (by simp) rfl)
  | closeInput found isPending closed => exact .of_same rfl
  | answer answerable accepted =>
    have same := acceptResponse_same accepted
    obtain ⟨stored, output, next, rfl⟩ := acceptResponse_ok env accepted
    refine rerun same (Unmarked.trans ?_ (Unmarked.setStatus _ .queued (by simp)))
    exact .of_same rfl
  | cancel running => exact .write .cancelled (by simp) rfl
  | retry failed found => exact rerun ⟨rfl, rfl, rfl, rfl⟩ (.write .queued (by simp) rfl)
  | requestRollback ended made => exact .write .rollbackRequested (by simp) rfl
  | grantRollback found waiting => exact .of_same rfl
  | closeRollback closed => exact .of_same rfl
  | compensate found granted compensation ofStep =>
    rename_i position record key source
    have ends := runCompensation_effect env context ⟨execution, store⟩ position record
      key.definition source
    generalize (runCompensation env context ⟨execution, store⟩ position record
      key.definition source).work = result at ends ⊢
    cases ends with
    | raised => exact .write .rollbackFailed (by simp) rfl
    | violated => exact .of_same rfl
    | finished returns valid =>
      have fails := uncompleted position rfl
      simp [goesThrough, found, granted, compensation, ofStep, returns, valid] at fails

theorem resumeDelayed_unmarked (work : Work ρ) (consistent : Consistent env work.execution) :
    Unmarked work.execution (resumeDelayed env context work).work.execution := by
  rcases resumeDelayed_effect env context work with
    same | ⟨failure, refused⟩ | ⟨record, position, execution, -, -, -, finished, ran⟩
  · rw [same]
    exact .of_same rfl
  · rw [refused]
    exact .of_same rfl
  · rw [ran]
    have same := finishDelay_same finished
    obtain ⟨output, next, rfl⟩ := finishDelay_ok env finished
    have queued : Unmarked work.execution
        ({ work.execution.recordOutput position .succeeded output next with
          nextResumeAt := none }.setStatus .queued) := by
      refine Unmarked.trans ?_ (Unmarked.setStatus _ .queued (by simp))
      exact .of_same rfl
    exact queued.trans (runExecution_unmarked ⟨_, work.store⟩ (consistent.of_same same).attempts)

/-- An event marks no execution unless it completes a rollback record of it. -/
theorem unmarked_preserved (db : Database ρ) (event : Event ρ) :
    Preserves env db event (fun _ row => Consistent env row)
      (UnmarkedRow env db event) fun _ => True := by
  constructor
  · intro key execution stored _ before found _
    rw [stored] at found
    cases found
    exact .of_same rfl
  · intro request account playbookId playbook payload proposed created _ _ made
    have absent : db.executions.get? db.executions.nextKey = none :=
      Table.get?_eq_none_of_ge _ le_rfl
    refine ⟨fun before found => ?_, fun before found => ?_, fun _ _ => trivial⟩
    · rw [absent] at found
      cases found
    · rw [absent] at found
      cases found
  · intro request account key command execution asked operation known stored consistent
    subst asked
    have effect : CommandEffect env (request.context account key) account
        ⟨execution, db.store⟩ command _ := command.call_effect env
    refine ⟨fun before found uncompleted => ?_, fun _ _ => trivial⟩
    rw [stored] at found
    cases found
    refine effect.unmarked consistent ?_
    rintro position rfl
    simpa [completedRollback, operation, known] using uncompleted
  · intro request account store key execution batchSize _ _ stored _ consistent
    refine ⟨fun before found _ => ?_, fun _ _ => trivial⟩
    rw [stored] at found
    cases found
    exact resumeDelayed_unmarked ⟨execution, store⟩ consistent
  · intro request key execution batchSize _ _ _ _ row before found uncompleted
    exact (row before found uncompleted).trans (Unmarked.setStatus _ .expired (by simp))

/-- What an event leaves that completes a rollback record. -/
theorem finishes_of_completedRollback {db : Database ρ} {event : Event ρ} {key : Nat}
    {position : Nat} (stored : db.executions.get? key = some execution)
    (completes : completedRollback env db event key execution = some position) :
    ∃ (outcome : DispatchOutcome ρ) (output : Json) (actor : Nat),
      (stepDatabase env db event).executions.get? key =
        some ((execution.absorb outcome).finishRollback position output actor) := by
  cases event with
  | environment store playbooks => cases completes
  | request request =>
    unfold completedRollback at completes
    dsimp only at completes
    split at completes
    · rename_i target place operation
      split at completes
      · rename_i fits
        cases completes
        simp only [Bool.and_eq_true, beq_iff_eq] at fits
        obtain ⟨rfl, fits⟩ := fits
        obtain ⟨account, known, through⟩ := (Option.any_eq_true _ _).mp fits
        simp only [goesThrough, Option.any_eq_true, Bool.and_eq_true, beq_iff_eq] at through
        obtain ⟨record, found, granted, action, compensation, source, ofStep, ends⟩ := through
        split at ends
        · rename_i outcome output returns
          have valid : outcome.violation = none := Option.isNone_iff_eq_none.mp ends
          refine ⟨outcome, output, (request.context account target).actor, ?_⟩
          simp [stepDatabase, perform, known, operation, onExecution, stored, Command.call,
            executeRollback, found, granted, compensation, ofStep, runCompensation, returns,
            valid]
        · cases ends
      · cases completes
    · cases completes

/-- **An execution is marked rolled back only when its compensation is complete,
exactly when a completed record leaves nothing open.** In every run, whatever a
transition does to an execution, it marks it rolled back only with no record
outstanding, if and only if the rollback record it completes, when it completes
one, leaves nothing open. -/
theorem rolledBack_complete_iff (store : Store ρ) (playbooks : Table SoarPlaybook)
    (events : List (Event ρ)) :
    ∀ move ∈ trace (stepDatabase env) (.initial store playbooks) events,
      ∀ key before after, move.before.executions.get? key = some before →
        move.after.executions.get? key = some after →
        (CompleteRollback before after ↔ ∀ position,
          completedRollback env move.before move.input key before =
            some position → before.leavesOpen position = false) := by
  intro move member key before after stored kept
  obtain ⟨consistent, shape⟩ := consistent_before env member
  rw [shape] at kept
  cases completes : completedRollback env move.before move.input key before with
  | none =>
    obtain ⟨rows, -⟩ :=
      (unmarked_preserved move.before move.input).perform consistent
    have unmarked := rows key after kept before stored completes
    refine ⟨?_, fun _ => unmarked.complete⟩
    rintro - position wrong
    cases wrong
  | some position =>
    obtain ⟨outcome, output, actor, finishes⟩ := finishes_of_completedRollback stored completes
    rw [stepDatabase, kept] at finishes
    cases finishes
    rw [completeRollback_finishRollback]
    constructor
    · rintro closed other same
      cases same
      exact closed
    · intro closed
      exact closed position rfl

end Events

def taskStore : Store Unit :=
  { plainStore [.createCaseFollowUpTask] with
    cases := Table.empty.insert
      { caseKey := "k", title := "t", summary := "s", caseType := "incident", severity := "high",
        priority := "P2", confidence := "medium", status := "new", assigneeName := none,
        tags := [] } }

/-- A step that adds a follow-up task to the case. -/
def taskStep (key : String) (position : Int) (next : String) : Json :=
  plainStep key "action" position [("action_key", .str "create_case_follow_up_task"),
    ("configuration", .obj [("case_id", .int 1)]), ("on_success", .str next)]

/-- A playbook that adds tasks to the case. -/
def taskPlaybooks (steps : List Json) : Table SoarPlaybook :=
  Table.empty.insert (plainPlaybook (steps ++ [plainStep "e" "end" 3 []]))

/-- The deployment of this playbook. -/
def taskDeployment (steps : List Json) : Database Unit := .initial taskStore (taskPlaybooks steps)

/-- The playbook runs, and its rollback is requested. -/
def requestedRun : List (Event Unit) :=
  [ask 1 10 (createRun .liveLocal), ask 1 20 (.act 1 (.requestRollbacks "undo"))]

/-- A rollback record is approved. -/
def approval (position : Nat) : Event Unit := ask 2 30 (.act 1 (.approveRollback position))

/-- The rollback record of the last task is executed. -/
def taskRollback : Event Unit := ask 2 40 (.act 1 (.executeRollback 1))

/-- The statuses written to the first execution, and whether a record of it is
outstanding. -/
def rollbackView (db : Database Unit) : Option (List ExecutionStatus × Bool) :=
  (db.executions.get? 1).map fun execution =>
    (execution.statusWrites, execution.rollbacks.any SoarRollbackRecord.isOutstanding)

theorem rolledBack_complete_iff_single :
    ∃ move ∈ trace (stepDatabase plainPlatform) (taskDeployment [taskStep "a" 1 "e"])
        (requestedRun ++ [approval 1] ++ [taskRollback]),
      ∃ before after, move.before.executions.get? 1 = some before ∧
        move.after.executions.get? 1 = some after ∧ CompleteRollback before after := by
  have closes : ((final (stepDatabase plainPlatform) (taskDeployment [taskStep "a" 1 "e"])
      (requestedRun ++ [approval 1])).executions.get? 1).any
        (fun before => !before.leavesOpen 1) = true := by decide +kernel
  have member : ⟨final (stepDatabase plainPlatform) (taskDeployment [taskStep "a" 1 "e"])
      (requestedRun ++ [approval 1]), taskRollback, stepDatabase plainPlatform
        (final (stepDatabase plainPlatform) (taskDeployment [taskStep "a" 1 "e"])
          (requestedRun ++ [approval 1])) taskRollback⟩ ∈ trace (stepDatabase plainPlatform)
      (taskDeployment [taskStep "a" 1 "e"]) (requestedRun ++ [approval 1] ++ [taskRollback]) :=
    mem_trace_concat _ _ _ _
  have law := rolledBack_complete_iff taskStore
    (taskPlaybooks [taskStep "a" 1 "e"]) (requestedRun ++ [approval 1] ++ [taskRollback])
    _ member 1
  generalize final (stepDatabase plainPlatform) (taskDeployment [taskStep "a" 1 "e"])
    (requestedRun ++ [approval 1]) = db at closes member law
  obtain ⟨before, stored, closed⟩ := (Option.any_eq_true _ _).mp closes
  have lives : ((stepDatabase plainPlatform db taskRollback).executions.get? 1).isSome :=
    stepDatabase_stored taskRollback (Option.isSome_iff_exists.mpr ⟨before, stored⟩)
  obtain ⟨after, kept⟩ := Option.isSome_iff_exists.mp lives
  refine ⟨_, member, before, after, stored, kept, (law before after stored kept).mpr ?_⟩
  intro position completes
  simp only [completedRollback, taskRollback, ask] at completes
  split at completes
  · cases completes
    simpa using closed
  · cases completes

/-- **An execution is marked rolled back while a record is outstanding.** Both
records are approved; the first compensation marks the execution. -/
theorem not_rolledBack_complete :
    ∃ move ∈ trace (stepDatabase plainPlatform)
        (taskDeployment [taskStep "a" 1 "b", taskStep "b" 2 "e"])
        (requestedRun ++ [approval 1, approval 2] ++ [taskRollback]),
      ∃ before after, move.before.executions.get? 1 = some before ∧
        move.after.executions.get? 1 = some after ∧ ¬ CompleteRollback before after := by
  obtain ⟨requested, marked⟩ :
      rollbackView (final (stepDatabase plainPlatform)
          (taskDeployment [taskStep "a" 1 "b", taskStep "b" 2 "e"])
          (requestedRun ++ [approval 1, approval 2])) =
          some ([.queued, .running, .completed, .rollbackRequested], true) ∧
        rollbackView (stepDatabase plainPlatform (final (stepDatabase plainPlatform)
          (taskDeployment [taskStep "a" 1 "b", taskStep "b" 2 "e"])
          (requestedRun ++ [approval 1, approval 2])) taskRollback) =
          some ([.queued, .running, .completed, .rollbackRequested, .rolledBack], true) := by
    decide +kernel
  rw [trace_concat]
  generalize final (stepDatabase plainPlatform)
    (taskDeployment [taskStep "a" 1 "b", taskStep "b" 2 "e"])
    (requestedRun ++ [approval 1, approval 2]) = db at requested marked ⊢
  obtain ⟨before, stored, early⟩ := Option.map_eq_some_iff.mp requested
  obtain ⟨after, kept, late⟩ := Option.map_eq_some_iff.mp marked
  rw [Prod.mk.injEq] at early late
  refine ⟨_, List.mem_append_right _ (List.mem_singleton.mpr rfl), before, after, stored, kept,
    fun complete => ?_⟩
  have marks : MarksRolledBack before after := by
    refine ⟨[.rolledBack], ?_, List.mem_singleton.mpr rfl⟩
    rw [early.1, late.1]
    rfl
  obtain ⟨record, member, outstanding⟩ := List.any_eq_true.mp late.2
  rw [complete marks record member] at outstanding
  cases outstanding

end ThreatScope.Soar
