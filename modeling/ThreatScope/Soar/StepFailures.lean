import ThreatScope.Soar.EngineSteps

/-!
# The trace of a failed step

An exception inside a turn of the engine rolls the session back before the failure is
recorded. The record of the step was added in the same transaction, so that `_fail` finds no
running record and marks none: the execution fails without a trace of the step. The record
survives only when it is a new one and the action of the step committed it before the
exception (`failed_step_traced_iff`).
-/

set_option autoImplicit false

namespace ThreatScope.Soar

open Library AccessControl

variable {ρ : Type} (env : SoarPlatform ρ)

/-! ## Attempts -/

/-- No two records of a step have the same attempt number. -/
def SoarExecution.DistinctAttempts (execution : SoarExecution) : Prop :=
  (execution.identities.map fun identity => (identity.stepKey, identity.attemptNumber)).Nodup

section Attempts

variable {execution other : SoarExecution} {key : String} {step : Dict}
  {record : SoarStepExecution} {position : Nat}

theorem distinctAttempts_addStep (distinct : execution.DistinctAttempts)
    (made : newStep env execution key step = .ok record) :
    (execution.addStep record).DistinctAttempts := by
  obtain ⟨sameKey, -, -, -, attempt, unique⟩ := newStep_ok env made
  unfold SoarExecution.DistinctAttempts at *
  rw [SoarExecution.identities_addStep, List.map_append, List.nodup_append]
  refine ⟨distinct, List.nodup_singleton _, ?_⟩
  intro pair old later new same
  obtain ⟨identity, listed, rfl⟩ := List.mem_map.mp old
  obtain ⟨row, stored, rfl⟩ := List.mem_map.mp listed
  rw [List.mem_singleton.mp new] at same
  have keys := congrArg Prod.fst same
  have attempts := congrArg Prod.snd same
  exact unique row stored (keys.trans sameKey) (attempts.trans attempt)

theorem createStep_cases
    (created : createStep env execution key step = .ok (other, record, position)) :
    (other = execution ∧ execution.newestAttempt? key = some (record, position) ∧
        record.status.isReusable = true) ∨
      ((execution.newestAttempt? key).filter (fun row => row.1.status.isReusable) = none ∧
        newStep env execution key step = .ok record ∧
        other = execution.addStep record ∧ position = execution.steps.length) := by
  unfold createStep at created
  split at created
  · rename_i existing place found
    cases created
    obtain ⟨newest, reusable⟩ := Option.filter_eq_some_iff.mp found
    exact .inl ⟨rfl, newest, reusable⟩
  · rename_i unused
    split at created
    · cases created
    · rename_i made
      cases created
      exact .inr ⟨unused, made, rfl, rfl⟩

theorem distinctAttempts_createStep (distinct : execution.DistinctAttempts)
    (created : createStep env execution key step = .ok (other, record, position)) :
    other.DistinctAttempts := by
  rcases createStep_cases env created with ⟨rfl, -⟩ | ⟨-, made, rfl, -⟩
  · exact distinct
  · exact distinctAttempts_addStep env distinct made

theorem distinctAttempts_of_identities (distinct : execution.DistinctAttempts)
    (same : other.identities = execution.identities) : other.DistinctAttempts := by
  unfold SoarExecution.DistinctAttempts
  rw [same]
  exact distinct

theorem eq_of_attempt (distinct : execution.DistinctAttempts) {first second : SoarStepExecution}
    {here there : Nat} (one : execution.steps[here]? = some first)
    (another : execution.steps[there]? = some second) (keys : first.stepKey = second.stepKey)
    (attempts : first.attemptNumber = second.attemptNumber) : here = there := by
  unfold SoarExecution.DistinctAttempts SoarExecution.identities at distinct
  rw [List.map_map] at distinct
  exact Rows.eq_of_nodup_map distinct one another (Prod.ext keys attempts)

end Attempts

/-! ## What a failure marks -/

section Failing

variable {execution : SoarExecution} {code summary : String} {record : SoarStepExecution}
  {position : Nat}

theorem getElem?_fail (here : execution.steps[position]? = some record)
    (idle : record.status ≠ .running) :
    (execution.fail code summary).steps[position]? = some record := by
  unfold SoarExecution.fail
  simp only [SoarExecution.steps_setStatus]
  split
  · rename_i running place found
    obtain ⟨there, passes⟩ := Rows.mem_of_last? found
    have different : position ≠ place := by
      rintro rfl
      obtain rfl := Option.some.inj (here.symm.trans there)
      exact idle (beq_iff_eq.mp passes)
    exact (Rows.getElem?_modify_of_ne different).trans here
  · exact here

theorem lastStep?_fail {steps : List SoarStepExecution}
    (added : execution.steps = steps ++ [record]) (running : record.status = .running) :
    ∃ row, (execution.fail code summary).lastStep? (fun row => row.status == .failed) =
        some (row, steps.length) ∧
      row.identity = record.identity ∧ row.errorCode = some code := by
  have found : execution.lastStep? (fun row => row.status == .running) =
      some (record, steps.length) := by
    unfold SoarExecution.lastStep?
    rw [added, Rows.last?_concat, if_pos (by simp [running])]
  have marked : (execution.fail code summary).steps = steps ++
      [{ record with status := .failed, errorCode := some code,
                     errorSummary := some (Text.truncate 1000 summary) }] := by
    unfold SoarExecution.fail
    simp only [found, SoarExecution.steps_setStatus, SoarExecution.modifyStep, added]
    exact Rows.modify_concat steps record _
  refine ⟨{ record with status := .failed, errorCode := some code,
                        errorSummary := some (Text.truncate 1000 summary) }, ?_, rfl, rfl⟩
  unfold SoarExecution.lastStep?
  rw [marked, Rows.last?_concat, if_pos (by simp)]

end Failing

/-! ## Exceptions in a step -/

section Raising

variable (context : RunContext)

/-- What the dispatcher reads for a step. -/
def dispatchContext (work : Work ρ) (position : Nat) (key : String) (config : Dict) :
    DispatchContext :=
  { now := context.now
    executionId := context.executionId
    execution := work.execution
    step := position
    stepKey := key
    config := config
    actor := context.actor
    actorName := context.actorName
    sessionId := context.sessionId }

/-- The state that an action leaves. -/
def Work.absorb (work : Work ρ) (outcome : DispatchOutcome ρ) : Work ρ :=
  ⟨work.execution.absorb outcome, outcome.store⟩

/-- The exception that the end of a turn raises for an output. -/
def outputFailure (output : Dict) (route : Json) (violation : Option String) : Option Failure :=
  match dumps env (.obj output) storageLimit with
  | .error failure => some failure
  | .ok _ =>
    match columnText env route, violation with
    | .error failure, _ => some failure
    | .ok _, some message => some (.other message)
    | .ok _, none => none

/-- A step raises an exception that becomes a failed execution: the state of the last commit
before it, and its message. -/
inductive StepRaises (saved work : Work ρ) (position : Nat) (key : String) (step : Dict) :
    Work ρ → String → Prop where
  | planning {message : String}
      (raised : planStep env context work position step = .error (.other message)) :
      StepRaises saved work position key step saved message
  | recording {output : Dict} {status : StepStatus} {route : Json} {message : String}
      (planned : planStep env context work position step = .ok (.record output status route))
      (raised : outputFailure env output route none = some (.other message)) :
      StepRaises saved work position key step saved message
  | dispatching {action : ActionDefinition} {config : Dict} {route : Json} {message : String}
      (planned : planStep env context work position step =
        .ok (.dispatch action config route))
      (raised : dispatch env action work.store (dispatchContext context work position key
        config) = .error (.other message)) :
      StepRaises saved work position key step saved message
  | finishing {action : ActionDefinition} {config : Dict} {route : Json} {message : String}
      {outcome : DispatchOutcome ρ}
      (planned : planStep env context work position step =
        .ok (.dispatch action config route))
      (done : dispatch env action work.store (dispatchContext context work position key
        config) = .ok outcome)
      (raised : outputFailure env outcome.output route outcome.violation =
        some (.other message)) :
      StepRaises saved work position key step
        (if outcome.commits then work.absorb outcome else saved) message

/-- The action of a step is done and has committed. -/
def ActionCommits (work : Work ρ) (position : Nat) (key : String) (step : Dict) : Prop :=
  ∃ action config route outcome,
    planStep env context work position step = .ok (.dispatch action config route) ∧
      dispatch env action work.store (dispatchContext context work position key config) =
        .ok outcome ∧
      outcome.commits = true

variable {context} {saved work kept : Work ρ} {position : Nat} {key message : String} {step : Dict}

theorem recordStep_of_failure {output : Dict} {status : StepStatus} {route : Json}
    {violation : Option String} {calls : List (DispatchCall ρ)} {failure : Failure}
    (raised : outputFailure env output route violation = some failure) :
    recordStep env saved work position output status route violation calls =
      abortTurn saved failure calls := by
  unfold outputFailure at raised
  unfold recordStep
  cases written : dumps env (.obj output) storageLimit with
  | error refused =>
    rw [written] at raised
    cases raised
    rfl
  | ok stored =>
    rw [written] at raised
    dsimp only at raised ⊢
    cases bound : columnText env route with
    | error refused =>
      rw [bound] at raised
      cases raised
      rfl
    | ok column =>
      rw [bound] at raised
      cases violation with
      | none => cases raised
      | some message =>
        cases raised
        rfl

/-- **A step that raises** ends the run with a failure of the last commit. -/
theorem takeStep_of_raises
    (raises : StepRaises env context saved work position key step kept message) :
    ∃ calls, takeStep env context saved work position key step =
      .stop ⟨failExecution kept "SOAR_STEP_FAILED" (Text.truncate 500 message), none, calls⟩ := by
  unfold takeStep
  cases raises with
  | planning raised =>
    rw [raised]
    exact ⟨_, rfl⟩
  | recording planned raised =>
    rw [planned]
    simp only
    rw [recordStep_of_failure env raised]
    exact ⟨_, rfl⟩
  | dispatching planned raised =>
    unfold dispatchContext at raised
    rw [planned]
    simp only
    unfold dispatchStep
    simp only [raised]
    exact ⟨_, rfl⟩
  | finishing planned done raised =>
    unfold dispatchContext at done
    rw [planned]
    simp only
    unfold dispatchStep
    simp only [done]
    rw [recordStep_of_failure env raised]
    exact ⟨_, rfl⟩

/-- The state of the last commit has the record of the step only behind an action that
committed. -/
theorem kept_of_raises (raises : StepRaises env context saved work position key step kept message) :
    (ActionCommits env context work position key step ∧
        kept.execution.steps = work.execution.steps) ∨
      (¬ActionCommits env context work position key step ∧ kept = saved) := by
  cases raises with
  | planning raised =>
    refine .inr ⟨?_, rfl⟩
    rintro ⟨_, _, _, _, planned, -⟩
    cases raised.symm.trans planned
  | recording planned raised =>
    refine .inr ⟨?_, rfl⟩
    rintro ⟨_, _, _, _, other, -⟩
    cases planned.symm.trans other
  | dispatching planned raised =>
    refine .inr ⟨?_, rfl⟩
    rintro ⟨_, _, _, _, other, done, -⟩
    cases planned.symm.trans other
    cases raised.symm.trans done
  | @finishing action config route _ outcome planned done raised =>
    cases commits : outcome.commits with
    | true =>
      rw [if_pos rfl]
      exact .inl ⟨⟨action, config, route, outcome, planned, done, commits⟩, rfl⟩
    | false =>
      rw [if_neg Bool.false_ne_true]
      refine .inr ⟨?_, rfl⟩
      rintro ⟨_, _, _, _, other, again, committed⟩
      cases planned.symm.trans other
      cases done.symm.trans again
      cases commits.symm.trans committed

end Raising

/-! ## The turn that a run ends with -/

section Turns

variable (context : RunContext) (byKey : List (String × Dict))

/-- The saved state, the state and the key at the beginning of the turn that returns or
raises. -/
def lastTurn : Nat → Work ρ → Work ρ → Option (Work ρ × Work ρ × String)
  | 0, _, _ => none
  | turns + 1, saved, work =>
    match work.execution.currentStepKey.filter (· ≠ "") with
    | none => none
    | some key =>
      match runTurn env context byKey saved work key with
      | .stop _ => some (saved, work, key)
      | .next work _ => lastTurn turns work work

variable {context} {byKey} {saved work last turn : Work ρ} {key : String} {turns : Nat}

/-- A step that raises ends its turn with the failure recorded. -/
theorem runTurn_of_raises {kept : Work ρ} {step : Dict} {entered : SoarExecution}
    {record : SoarStepExecution} {position : Nat} {message : String}
    (known : stepOf byKey key = some step)
    (created : createStep env work.execution key step = .ok (entered, record, position))
    (idle : record.status.isWaiting = false)
    (raised : StepRaises env context saved { work with execution := entered } position key
      step kept message) :
    ∃ calls, runTurn env context byKey saved work key =
      .stop ⟨failExecution kept "SOAR_STEP_FAILED" (Text.truncate 500 message), none, calls⟩ := by
  obtain ⟨calls, taken⟩ := takeStep_of_raises env raised
  refine ⟨calls, ?_⟩
  unfold runTurn
  simp only [known, created, idle, Bool.false_eq_true, if_false, taken]

theorem lastTurn_of_stop {reply : ServiceReply ρ}
    (here : work.execution.currentStepKey.filter (· ≠ "") = some key)
    (stopped : runTurn env context byKey saved work key = .stop reply) :
    lastTurn env context byKey (turns + 1) saved work = some (saved, work, key) := by
  unfold lastTurn
  rw [here]
  simp only
  rw [stopped]

/-- The loop ends as its last turn does. -/
theorem runLoop_of_lastTurn
    (found : lastTurn env context byKey turns saved work = some (last, turn, key))
    {reply : ServiceReply ρ} (stopped : runTurn env context byKey last turn key = .stop reply)
    (calls : List (DispatchCall ρ)) :
    ∃ made, runLoop env context byKey turns saved work calls =
      { reply with calls := made ++ reply.calls } := by
  induction turns generalizing saved work calls with
  | zero => cases found
  | succ turns ih =>
    unfold lastTurn at found
    unfold runLoop
    cases here : work.execution.currentStepKey.filter (· ≠ "") with
    | none =>
      rw [here] at found
      cases found
    | some current =>
      rw [here] at found
      simp only at found ⊢
      cases taken : runTurn env context byKey saved work current with
      | stop other =>
        rw [taken] at found
        cases found
        cases taken.symm.trans stopped
        exact ⟨calls, rfl⟩
      | next after more =>
        rw [taken] at found
        exact ih found (calls ++ more)

theorem abortTurn_ne_next {failure : Failure} {calls more : List (DispatchCall ρ)} :
    abortTurn saved failure calls ≠ .next work more := by
  cases failure with
  | http error => exact (nomatch ·)
  | other message => exact (nomatch ·)

theorem identities_of_recordStep {position : Nat} {output : Dict} {status : StepStatus}
    {route : Json} {violation : Option String} {calls more : List (DispatchCall ρ)} {after : Work ρ}
    (taken : recordStep env saved work position output status route violation calls =
      .next after more) : after.execution.identities = work.execution.identities := by
  unfold recordStep at taken
  split at taken
  · exact absurd taken abortTurn_ne_next
  · split at taken
    · exact absurd taken abortTurn_ne_next
    · exact absurd taken abortTurn_ne_next
    · simp only at taken
      split at taken
      · cases taken
        exact SoarExecution.identities_recordOutput _ _ _ _ _
      · cases taken

theorem distinctAttempts_of_next {after : Work ρ} {more : List (DispatchCall ρ)}
    (distinct : work.execution.DistinctAttempts)
    (taken : runTurn env context byKey saved work key = .next after more) :
    after.execution.DistinctAttempts := by
  unfold runTurn at taken
  split at taken
  · cases taken
  · rename_i step _
    split at taken
    · cases taken
    · rename_i entered record position created
      have distinct := distinctAttempts_createStep env distinct created
      simp only at taken
      split at taken
      · cases taken
      · unfold takeStep at taken
        split at taken
        · exact absurd taken abortTurn_ne_next
        · cases taken
        · cases taken
        · exact distinctAttempts_of_identities distinct (identities_of_recordStep env taken)
        · unfold dispatchStep at taken
          simp only at taken
          split at taken
          · exact absurd taken abortTurn_ne_next
          · exact distinctAttempts_of_identities distinct
              (identities_of_recordStep env taken)

theorem lastTurn_state (same : saved.execution.steps = work.execution.steps)
    (distinct : work.execution.DistinctAttempts)
    (found : lastTurn env context byKey turns saved work = some (last, turn, key)) :
    last.execution.steps = turn.execution.steps ∧ turn.execution.DistinctAttempts := by
  induction turns generalizing saved work with
  | zero => cases found
  | succ turns ih =>
    unfold lastTurn at found
    split at found
    · cases found
    · split at found
      · cases found
        exact ⟨same, distinct⟩
      · rename_i taken
        exact ih rfl (distinctAttempts_of_next env distinct taken) found

end Turns

/-! ## The trace -/

/-- A run of an execution in whose last turn the processing of a step raises an exception: the
record `_create_step` returned for it, the state of the last commit before the exception, and
its message. -/
structure RaisingRun (context : RunContext) (work : Work ρ) where
  byKey : List (String × Dict)
  saved : Work ρ
  turn : Work ρ
  key : String
  step : Dict
  entered : SoarExecution
  record : SoarStepExecution
  position : Nat
  kept : Work ρ
  message : String
  live : work.execution.status.isTerminal = false
  unexpired : context.now < work.execution.expiresAt
  defined : stepsByKey work.execution.definition = .ok byKey
  reached : lastTurn env context byKey 50 work (work.setStatus .running) =
    some (saved, turn, key)
  known : stepOf byKey key = some step
  created : createStep env turn.execution key step = .ok (entered, record, position)
  idle : record.status.isWaiting = false
  raised : StepRaises env context saved { turn with execution := entered } position key step
    kept message

/-- The statuses of a record that is completed. -/
def StepStatus.isCompleted : StepStatus → Bool
  | .succeeded | .simulated | .skipped => true
  | _ => false

/-- What a failed step leaves: a failed execution, whose newest failed record is that of the
step and the attempt, and the completed records as they were. -/
structure LeavesTrace (before : SoarExecution) (key : String) (attempt : Nat)
    (reply : ServiceReply ρ) : Prop where
  returned : reply.failure = none
  failed : reply.work.execution.status = .failed
  recorded : ∃ row position,
    reply.work.execution.lastStep? (fun row => row.status == .failed) = some (row, position) ∧
      row.stepKey = key ∧ row.attemptNumber = attempt ∧ row.errorCode.isSome = true
  completed : ∀ (position : Nat) (row : SoarStepExecution),
    before.steps[position]? = some row → row.status.isCompleted = true →
      reply.work.execution.steps[position]? = some row

section Trace

variable {context : RunContext} {work : Work ρ}

/-- **A run that raises in a step** returns the failure of the last commit before it. -/
theorem RaisingRun.runExecution (raising : RaisingRun env context work) :
    ∃ calls, runExecution env context work =
      ⟨failExecution raising.kept "SOAR_STEP_FAILED" (Text.truncate 500 raising.message), none,
        calls⟩ := by
  obtain ⟨calls, stopped⟩ :=
    runTurn_of_raises env raising.known raising.created raising.idle raising.raised
  obtain ⟨made, same⟩ := runLoop_of_lastTurn env raising.reached stopped []
  refine ⟨made ++ calls, ?_⟩
  unfold Soar.runExecution
  rw [if_neg (by rw [raising.live]; exact Bool.false_ne_true),
    if_neg (not_le.mpr raising.unexpired), raising.defined]
  exact same

theorem RaisingRun.state (raising : RaisingRun env context work)
    (distinct : work.execution.DistinctAttempts) :
    raising.saved.execution.steps = raising.turn.execution.steps ∧
      raising.turn.execution.DistinctAttempts :=
  @lastTurn_state _ env context raising.byKey work (work.setStatus .running) _ _ _ 50 rfl
    (distinctAttempts_of_identities distinct (work.execution.identities_setStatus .running))
    raising.reached

/-- A record of the last commit that is not running when the run fails stays as it is. -/
theorem RaisingRun.getElem?_steps (raising : RaisingRun env context work)
    (distinct : work.execution.DistinctAttempts) {position : Nat} {row : SoarStepExecution}
    (here : raising.turn.execution.steps[position]? = some row) (idle : row.status ≠ .running)
    (code summary : String) :
    (raising.kept.execution.fail code summary).steps[position]? = some row := by
  obtain ⟨same, -⟩ := raising.state env distinct
  refine getElem?_fail ?_ idle
  rcases kept_of_raises env raising.raised with ⟨-, kept⟩ | ⟨-, kept⟩
  · rw [kept]
    rcases createStep_cases env raising.created with ⟨entered, -⟩ | ⟨-, -, entered, -⟩
    · rw [entered]
      exact here
    · rw [entered]
      exact List.getElem?_append_left (List.getElem?_eq_some_iff.mp here).1 ▸ here
  · rw [kept, same]
    exact here

/-- **A failed step leaves its trace** exactly where its record was committed. For every
execution and every run that raises an exception in a step, the run leaves a failed execution
with a failed record of the step and the attempt exactly when the step had no record to take up
again and its action committed before the exception. -/
theorem failed_step_traced_iff (distinct : work.execution.DistinctAttempts)
    (raising : RaisingRun env context work) :
    LeavesTrace raising.turn.execution raising.key raising.record.attemptNumber
        (Soar.runExecution env context work) ↔
      (raising.turn.execution.newestAttempt? raising.key).filter
          (fun row => row.1.status.isReusable) = none ∧
        ActionCommits env context { raising.turn with execution := raising.entered }
          raising.position raising.key raising.step := by
  obtain ⟨calls, reply⟩ := raising.runExecution
  obtain ⟨same, distinctToo⟩ := raising.state env distinct
  rw [reply]
  constructor
  · rintro ⟨-, -, ⟨row, place, found, sameKey, attempt, -⟩, -⟩
    obtain ⟨there, failed⟩ := Rows.mem_of_last? found
    rcases createStep_cases env raising.created with
      ⟨entered, newest, reusable⟩ | ⟨unused, made, -, -⟩
    · -- A record that is taken up again is neither running nor failed.
      exfalso
      obtain ⟨here, recordKey⟩ := SoarExecution.getElem?_of_newestAttempt? newest
      have idle : raising.record.status ≠ .running := by
        intro running
        rw [running] at reusable
        cases reusable
      have stays := raising.getElem?_steps env distinct here idle "SOAR_STEP_FAILED"
        (Text.truncate 500 raising.message)
      have steps : raising.kept.execution.steps = raising.turn.execution.steps := by
        rcases kept_of_raises env raising.raised with ⟨-, kept⟩ | ⟨-, kept⟩
        · rw [kept, entered]
        · rw [kept, same]
      have distinctLater : (raising.kept.execution.fail "SOAR_STEP_FAILED"
          (Text.truncate 500 raising.message)).DistinctAttempts := by
        refine distinctAttempts_of_identities distinctToo ?_
        rw [SoarExecution.identities_fail]
        exact congrArg (List.map SoarStepExecution.identity) steps
      obtain rfl := eq_of_attempt distinctLater there stays (sameKey.trans recordKey.symm) attempt
      obtain rfl := Option.some.inj (there.symm.trans stays)
      rw [beq_iff_eq.mp failed] at reusable
      cases reusable
    · refine ⟨unused, ?_⟩
      by_contra uncommitted
      -- The last commit has no record of the attempt.
      obtain ⟨-, -, -, -, number, unique⟩ := newStep_ok env made
      have kept : raising.kept = raising.saved := by
        rcases kept_of_raises env raising.raised with ⟨commits, -⟩ | ⟨-, kept⟩
        · exact absurd commits uncommitted
        · exact kept
      have listed : row.identity ∈ raising.turn.execution.identities := by
        have inside : row.identity ∈ (raising.kept.execution.fail "SOAR_STEP_FAILED"
            (Text.truncate 500 raising.message)).identities :=
          List.mem_map_of_mem (List.mem_of_getElem? there)
        rw [SoarExecution.identities_fail, kept] at inside
        unfold SoarExecution.identities at inside
        rw [same] at inside
        exact inside
      obtain ⟨old, stored, identity⟩ := List.mem_map.mp listed
      have oldKey : old.stepKey = row.stepKey := congrArg StepIdentity.stepKey identity
      have oldAttempt : old.attemptNumber = row.attemptNumber :=
        congrArg StepIdentity.attemptNumber identity
      exact unique old stored (oldKey.trans sameKey) (oldAttempt.trans (attempt.trans number))
  · rintro ⟨unused, commits⟩
    refine ⟨rfl, rfl, ?_, ?_⟩
    · rcases createStep_cases env raising.created with
        ⟨-, newest, reusable⟩ | ⟨-, made, entered, -⟩
      · rw [newest, Option.filter_eq_none_iff] at unused
        exact absurd reusable (unused _ rfl)
      · obtain ⟨sameKey, -, -, running, -, -⟩ := newStep_ok env made
        have added : raising.kept.execution.steps =
            raising.turn.execution.steps ++ [raising.record] := by
          rcases kept_of_raises env raising.raised with ⟨-, kept⟩ | ⟨uncommitted, -⟩
          · rw [kept, entered]
            rfl
          · exact absurd commits uncommitted
        obtain ⟨row, found, identity, code⟩ := @lastStep?_fail _ "SOAR_STEP_FAILED"
          (Text.truncate 500 raising.message) _ _ added running
        refine ⟨row, _, found, ?_, congrArg StepIdentity.attemptNumber identity, ?_⟩
        · exact (congrArg StepIdentity.stepKey identity).trans sameKey
        · rw [code]
          rfl
    · intro position row here completed
      refine raising.getElem?_steps env distinct here ?_ _ _
      intro running
      rw [running] at completed
      cases completed

end Trace

/-! ## Two runs -/

/-- An execution of a playbook that is about to start. -/
def queuedExecution (steps : List Json) : SoarExecution where
  uuid := "0f8fad5b"
  playbookId := 1
  playbookVersion := 1
  definition := .obj [("start_step", .str "a"), ("steps", .arr steps)]
  triggerSourceType := "manual"
  triggerSourceId := none
  idempotencyKey := "first-run"
  mode := .liveLocal
  status := .queued
  statusWrites := []
  requestedByUserId := 1
  approvedByUserId := none
  currentStepKey := some "a"
  inputContext := .obj []
  variableState := .obj []
  errorCode := none
  errorSummary := none
  recordsCreated := 0
  recordsUpdated := 0
  simulatedActionCount := 0
  retryCount := 0
  expiresAt := 1000
  nextResumeAt := none
  steps := []
  approvals := []
  inputs := []
  rollbacks := []

/-- The fields of a step `a` with an action. -/
def actionFields (action : ActionKey) (route : Json) : Dict :=
  [("key", .str "a"), ("type", .str "action"), ("position", .int 1),
    ("action_key", .str action.text), ("on_success", route)]

def endFields : Dict := [("key", .str "e"), ("type", .str "end"), ("position", .int 2)]

/-- The execution of the step, with the policy and the permission of its action. -/
def queuedWork (action : ActionKey) (route : Json) : Work Unit :=
  ⟨queuedExecution [.obj (actionFields action route), .obj endFields], plainStore [action]⟩

/-- A first run of the administrator `alice`. -/
def firstContext : RunContext := ⟨10, 1, 1, "alice", none⟩

/-- The record of the step. -/
def actionRecord (action : ActionKey) : SoarStepExecution where
  stepKey := "a"
  stepName := "a"
  stepType := some .action
  actionKey := some action.text
  attemptNumber := 1
  status := .running
  outputSnapshot := .obj []
  errorCode := none
  errorSummary := none

/-- The session in the first turn, with the record. -/
def enteredWork (action : ActionKey) (route : Json) : Work Unit :=
  { queuedWork action route with
    execution := ((queuedWork action route).setStatus .running).execution.addStep
      (actionRecord action) }

/-- A runtime whose other modules commit. -/
def committingPlatform : SoarPlatform Unit :=
  { plainPlatform with performForeign := fun _ _ => .ok ⟨(), some 1, 1, true⟩ }

def reportOutcome : DispatchOutcome Unit where
  output := localOutput committingPlatform ActionKey.generateAnalyticsReport.definition
    ⟨plainStore [.generateAnalyticsReport], some 1, [], 1, 0, none, none, true⟩
  store := plainStore [.generateAnalyticsReport]
  recordsCreated := 1
  commits := true

theorem dispatch_report :
    dispatch committingPlatform ActionKey.generateAnalyticsReport.definition
      (plainStore [.generateAnalyticsReport])
      (dispatchContext firstContext (enteredWork .generateAnalyticsReport (.arr [])) 0 "a" []) =
        .ok reportOutcome := rfl

def keptReport : Work Unit :=
  if reportOutcome.commits then
    (enteredWork .generateAnalyticsReport (.arr [])).absorb reportOutcome
  else queuedWork .generateAnalyticsReport (.arr [])

theorem report_raises :
    StepRaises committingPlatform firstContext (queuedWork .generateAnalyticsReport (.arr []))
      (enteredWork .generateAnalyticsReport (.arr [])) 0 "a"
      (actionFields .generateAnalyticsReport (.arr [])) keptReport
      "Error binding parameter: type 'list' is not supported" := by
  have planned : planStep committingPlatform firstContext
      (enteredWork .generateAnalyticsReport (.arr [])) 0
      (actionFields .generateAnalyticsReport (.arr [])) =
    .ok (.dispatch ActionKey.generateAnalyticsReport.definition [] (.arr [])) := rfl
  exact .finishing planned dispatch_report (by decide +kernel)

def reportingRun : RaisingRun committingPlatform firstContext
    (queuedWork .generateAnalyticsReport (.arr [])) where
  byKey := [("a", actionFields .generateAnalyticsReport (.arr [])), ("e", endFields)]
  saved := queuedWork .generateAnalyticsReport (.arr [])
  turn := (queuedWork .generateAnalyticsReport (.arr [])).setStatus .running
  key := "a"
  step := actionFields .generateAnalyticsReport (.arr [])
  entered := (enteredWork .generateAnalyticsReport (.arr [])).execution
  record := actionRecord .generateAnalyticsReport
  position := 0
  kept := keptReport
  message := "Error binding parameter: type 'list' is not supported"
  live := rfl
  unexpired := by decide
  defined := rfl
  reached := by
    obtain ⟨calls, stopped⟩ := @runTurn_of_raises _ committingPlatform firstContext
      [("a", actionFields .generateAnalyticsReport (.arr [])), ("e", endFields)] _
      ((queuedWork .generateAnalyticsReport (.arr [])).setStatus .running) "a" _ _ _ _ _ _
      rfl rfl rfl report_raises
    exact lastTurn_of_stop committingPlatform rfl stopped
  known := rfl
  created := rfl
  idle := rfl
  raised := report_raises

theorem report_leaves_trace :
    LeavesTrace reportingRun.turn.execution "a" 1
      (runExecution committingPlatform firstContext
        (queuedWork .generateAnalyticsReport (.arr []))) := by
  have fresh : (queuedWork .generateAnalyticsReport (.arr [])).execution.DistinctAttempts :=
    List.nodup_nil
  refine (failed_step_traced_iff committingPlatform fresh reportingRun).mpr ⟨rfl, ?_⟩
  exact ⟨_, _, _, _, rfl, dispatch_report, rfl⟩

/-- The run of a task that is not there. -/
def cancellingRun : RaisingRun plainPlatform firstContext
    (queuedWork .cancelCaseTask (.str "e")) where
  byKey := [("a", actionFields .cancelCaseTask (.str "e")), ("e", endFields)]
  saved := queuedWork .cancelCaseTask (.str "e")
  turn := (queuedWork .cancelCaseTask (.str "e")).setStatus .running
  key := "a"
  step := actionFields .cancelCaseTask (.str "e")
  entered := (enteredWork .cancelCaseTask (.str "e")).execution
  record := actionRecord .cancelCaseTask
  position := 0
  kept := queuedWork .cancelCaseTask (.str "e")
  message := "Case task is unavailable"
  live := rfl
  unexpired := by decide
  defined := rfl
  reached := rfl
  known := rfl
  created := rfl
  idle := rfl
  raised := by
    have planned : planStep plainPlatform firstContext (enteredWork .cancelCaseTask (.str "e")) 0
        (actionFields .cancelCaseTask (.str "e")) =
      .ok (.dispatch ActionKey.cancelCaseTask.definition [] (.str "e")) := rfl
    exact .dispatching planned rfl

theorem missing_task_leaves_no_trace :
    ¬ ∀ (env : SoarPlatform Unit) (context : RunContext) (work : Work Unit)
      (raising : RaisingRun env context work), work.execution.DistinctAttempts →
      LeavesTrace raising.turn.execution raising.key raising.record.attemptNumber
        (runExecution env context work) := by
  intro leaves
  obtain ⟨-, -, ⟨row, position, found, -⟩, -⟩ :=
    leaves plainPlatform firstContext _ cancellingRun List.nodup_nil
  obtain ⟨here, -⟩ := Rows.mem_of_last? found
  have none : (runExecution plainPlatform firstContext
      (queuedWork .cancelCaseTask (.str "e"))).work.execution.steps = [] := rfl
  rw [none] at here
  cases here

end ThreatScope.Soar
