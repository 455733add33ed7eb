import ThreatScope.Soar.Consistency

/-!
# The ledger of an execution

Whatever users, clocks and schedulers do, an execution keeps what it was created with, its step
records and its statuses are only added to, and the attempts of each of its steps are numbered
1, 2, 3 and so on (`ledger_only_grows`).
-/

set_option autoImplicit false

namespace ThreatScope.Soar

open Library AccessControl

/-- The columns that are written when an execution is created. -/
structure Origin where
  uuid : String
  playbookId : Nat
  playbookVersion : Nat
  definition : Json
  triggerSourceType : String
  triggerSourceId : Option Nat
  idempotencyKey : String
  mode : ExecutionMode
  requestedByUserId : Nat
  inputContext : Json
  expiresAt : Instant

namespace SoarExecution

/-- The columns that `create_execution` wrote. -/
def origin (execution : SoarExecution) : Origin where
  uuid := execution.uuid
  playbookId := execution.playbookId
  playbookVersion := execution.playbookVersion
  definition := execution.definition
  triggerSourceType := execution.triggerSourceType
  triggerSourceId := execution.triggerSourceId
  idempotencyKey := execution.idempotencyKey
  mode := execution.mode
  requestedByUserId := execution.requestedByUserId
  inputContext := execution.inputContext
  expiresAt := execution.expiresAt

/-- The attempt numbers of a step, in the order of its records. -/
def attemptsOf (execution : SoarExecution) (key : String) : List Nat :=
  (execution.steps.filter fun step => step.stepKey == key).map fun step => step.attemptNumber

/-- The attempts of every step are numbered from one. -/
def Numbered (execution : SoarExecution) : Prop :=
  ∀ key, execution.attemptsOf key = List.range' 1 (execution.attemptsOf key).length

theorem attemptsOf_eq (execution : SoarExecution) (key : String) : execution.attemptsOf key =
    (execution.identities.filter fun identity => identity.stepKey == key).map
      fun identity => identity.attemptNumber := by
  unfold identities attemptsOf
  rw [List.filter_map, List.map_map]
  rfl

end SoarExecution

/-- The ledger of the first state goes on in the second. -/
structure Extends (before after : SoarExecution) : Prop where
  origin : after.origin = before.origin
  records : before.identities <+: after.identities
  statuses : before.statusWrites <+: after.statusWrites
  numbered : before.Numbered → after.Numbered

section Steps

variable {ρ : Type} {env : SoarPlatform ρ} {before after later : SoarExecution} {quiet : Prop}

theorem Extends.of_written (origin : after.origin = before.origin)
    (records : after.identities = before.identities) (written : List ExecutionStatus)
    (statuses : after.statusWrites = before.statusWrites ++ written) : Extends before after where
  origin := origin
  records := records ▸ List.prefix_refl _
  statuses := statuses ▸ List.prefix_append _ _
  numbered numbered key := by
    have same : after.attemptsOf key = before.attemptsOf key := by
      rw [after.attemptsOf_eq, before.attemptsOf_eq, records]
    rw [same]
    exact numbered key

theorem Extends.of_same (origin : after.origin = before.origin)
    (records : after.identities = before.identities)
    (statuses : after.statusWrites = before.statusWrites) : Extends before after :=
  .of_written origin records [] (statuses.trans (List.append_nil _).symm)

theorem Extends.refl (execution : SoarExecution) : Extends execution execution :=
  .of_same rfl rfl rfl

theorem Extends.setStatus (execution : SoarExecution) (status : ExecutionStatus) :
    Extends execution (execution.setStatus status) :=
  .of_written rfl rfl [status] rfl

theorem Extends.storeApproval (execution : SoarExecution) (position : Nat)
    (approval : SoarApproval) : Extends execution (execution.storeApproval position approval) :=
  .of_same rfl rfl rfl

theorem Extends.modifyInput (execution : SoarExecution) (position : Nat)
    (change : SoarAnalystInput → SoarAnalystInput) :
    Extends execution (execution.modifyInput position change) :=
  .of_same rfl rfl rfl

theorem Extends.recordOutput (execution : SoarExecution) (position : Nat) (status : StepStatus)
    (output : Json) (next : Option String) :
    Extends execution (execution.recordOutput position status output next) :=
  .of_same rfl (execution.identities_recordOutput position status output next) rfl

theorem Extends.finishRollback (execution : SoarExecution) (position : Nat) (output : Json)
    (actor : Nat) : Extends execution (execution.finishRollback position output actor) :=
  .of_written rfl rfl [_] rfl

theorem Extends.rejectRun (execution : SoarExecution) : Extends execution execution.rejectRun :=
  .of_written rfl rfl [.failed] rfl

theorem Extends.trans (first : Extends before after) (second : Extends after later) :
    Extends before later where
  origin := second.origin.trans first.origin
  records := first.records.trans second.records
  statuses := first.statuses.trans second.statuses
  numbered numbered := second.numbered (first.numbered numbered)

theorem le_of_newestAttempt? {key : String} {existing : SoarStepExecution} {position : Nat}
    (found : before.newestAttempt? key = some (existing, position)) {number : Nat}
    (attempt : number ∈ before.attemptsOf key) : number ≤ existing.attemptNumber := by
  obtain ⟨row, inside, rfl⟩ := List.mem_map.mp attempt
  obtain ⟨member, passes⟩ := List.mem_filter.mp inside
  obtain ⟨place, here⟩ := List.getElem?_of_mem member
  have listed : (row, place) ∈ before.steps.zipIdx.filter fun row => row.1.stepKey == key :=
    List.mem_filter.mpr ⟨List.mk_mem_zipIdx_iff_getElem?.mpr here, passes⟩
  have newest : (existing, position) ∈ (before.steps.zipIdx.filter fun row =>
      row.1.stepKey == key).argmax fun row => row.1.attemptNumber := found
  have least := List.le_of_mem_argmax listed newest
  exact least

/-- A new record has the number after those of its step: the number 1 is taken when there is
one. -/
theorem nextAttempt_eq {key : String} {count : Nat}
    (counted : before.attemptsOf key = List.range' 1 count)
    (unique : ∀ row ∈ before.steps, row.stepKey = key →
      row.attemptNumber ≠ before.nextAttempt key) : before.nextAttempt key = 1 + count := by
  have number {attempt : Nat} :
      attempt ∈ before.attemptsOf key ↔ 1 ≤ attempt ∧ attempt < 1 + count := by
    rw [counted, List.mem_range'_1]
  have taken {attempt : Nat} (inside : attempt ∈ before.attemptsOf key) :
      attempt ≠ before.nextAttempt key := by
    obtain ⟨row, stored, rfl⟩ := List.mem_map.mp inside
    obtain ⟨member, same⟩ := List.mem_filter.mp stored
    exact unique row member (beq_iff_eq.mp same)
  rcases Nat.eq_zero_or_pos count with rfl | some
  · cases found : before.newestAttempt? key with
    | none => rw [SoarExecution.nextAttempt, found]
    | some best =>
      obtain ⟨here, same⟩ := SoarExecution.getElem?_of_newestAttempt? found
      have attempt : best.1.attemptNumber ∈ before.attemptsOf key :=
        List.mem_map.mpr ⟨best.1, List.mem_filter.mpr ⟨List.mem_of_getElem? here,
          beq_iff_eq.mpr same⟩, rfl⟩
      have bounds := number.mp attempt
      omega
  · have first := taken (number.mpr ⟨le_rfl, by omega⟩)
    have last : count ∈ before.attemptsOf key := number.mpr ⟨some, by omega⟩
    unfold SoarExecution.nextAttempt at first taken ⊢
    cases found : before.newestAttempt? key with
    | none => exact absurd rfl (found ▸ first)
    | some best =>
      obtain ⟨existing, position⟩ := best
      rw [found] at first
      have least := le_of_newestAttempt? found last
      obtain ⟨here, same⟩ := SoarExecution.getElem?_of_newestAttempt? found
      have attempt : existing.attemptNumber ∈ before.attemptsOf key :=
        List.mem_map.mpr ⟨existing, List.mem_filter.mpr ⟨List.mem_of_getElem? here,
          beq_iff_eq.mpr same⟩, rfl⟩
      have most := (number.mp attempt).2
      dsimp only at first ⊢
      split_ifs at first ⊢
      · omega
      · exact absurd rfl first

theorem numbered_addStep {key : String} {step : Dict} {record : SoarStepExecution}
    (numbered : before.Numbered) (made : newStep env before key step = .ok record) :
    (before.addStep record).Numbered := by
  obtain ⟨rfl, -, -, -, attempt, unique⟩ := newStep_ok env made
  intro other
  have split : (before.addStep record).attemptsOf other = before.attemptsOf other ++
      ([record].filter fun step => step.stepKey == other).map fun step => step.attemptNumber := by
    unfold SoarExecution.attemptsOf SoarExecution.addStep
    rw [List.filter_append, List.map_append]
  rw [split]
  by_cases here : record.stepKey = other
  · subst here
    have single : ([record].filter fun step => step.stepKey == record.stepKey) = [record] := by
      simp
    rw [single, List.map_singleton, List.length_append, List.length_singleton,
      List.range'_1_concat, attempt, nextAttempt_eq (numbered _) unique, ← numbered]
  · have elsewhere : ([record].filter fun step => step.stepKey == other) = [] := by simp [here]
    rw [elsewhere, List.map_nil, List.append_nil]
    exact numbered other

theorem EngineStep.extends (step : EngineStep env quiet before after) :
    Extends before after := by
  cases step with
  | start => exact .of_written rfl rfl [.running] rfl
  | enter current defined fresh made =>
    exact ⟨rfl, SoarExecution.identities_addStep _ _ ▸ List.prefix_append _ _,
      List.prefix_refl _, fun numbered => numbered_addStep numbered made⟩
  | askApproval => exact .of_written rfl (by simp) [.waitingApproval] rfl
  | askInput => exact .of_written rfl (by simp) [.waitingInput] rfl
  | startDelay => exact .of_written rfl (by simp) [.waitingDelay] rfl
  | absorb outcome => exact .of_same rfl rfl rfl
  | record => exact .of_same rfl (by simp) rfl
  | close => exact .of_written rfl rfl [_] rfl
  | fail =>
    refine .of_written ?_ (by simp) [.failed] ?_
    · simp only [SoarExecution.fail]
      split <;> rfl
    · simp only [SoarExecution.fail]
      split <;> rfl

theorem EngineSteps.extends (steps : EngineSteps env quiet before after) :
    Extends before after := by
  induction steps with
  | refl => exact .refl _
  | tail _ step ih => exact ih.trans step.extends

/-- A run of the engine extends the ledger of an execution. -/
theorem runExecution_extends {context : RunContext} (work : Work ρ)
    (attempts : work.execution.FirstAttempts) :
    Extends work.execution (runExecution env context work).work.execution := by
  have steps : EngineSteps env False work.execution
      (runExecution env context work).work.execution :=
    (runExecution_steps env attempts False.elim).1
  exact steps.extends

theorem completeApproval_extends {context : RunContext} {step : Nat}
    (completed : completeApproval env context before step = .ok after) :
    Extends before after := by
  obtain ⟨record, next, -, rfl⟩ := completeApproval_ok env completed
  exact .of_written rfl (before.identities_setStepStatus step _) [.queued] rfl

theorem acceptResponse_extends {context : RunContext} {position step : Nat} {response : Dict}
    (accepted : acceptResponse env context before position step response = .ok after) :
    Extends before after := by
  obtain ⟨stored, output, next, rfl⟩ := acceptResponse_ok env accepted
  exact ((Extends.modifyInput before position _).trans (.recordOutput _ step _ output next)).trans
    (.setStatus _ .queued)

/-- **A command extends the ledger.** -/
theorem CommandEffect.extends {context : RunContext} {account : UserAccount} {store : Store ρ}
    {command : Command} {reply : ServiceReply ρ}
    (effect : CommandEffect env context account ⟨before, store⟩ command reply)
    (consistent : Consistent env before) : Extends before reply.work.execution := by
  have rerun {prepared : SoarExecution} (same : SameRecords before prepared)
      (extended : Extends before prepared) : Extends before
        (runExecution env context ⟨prepared, store⟩).work.execution :=
    extended.trans (runExecution_extends ⟨prepared, store⟩ (consistent.of_same same).attempts)
  cases effect with
  | refused => exact .refl _
  | resume => exact rerun ⟨rfl, rfl, rfl, rfl⟩ (.refl _)
  | closeApproval => exact .of_same rfl rfl rfl
  | reject => exact (Extends.storeApproval before _ _).trans (.rejectRun _)
  | approvePartly => exact .storeApproval before _ _
  | approve accepted enough completed =>
    have same := (stored_same accepted.found .approve .approved).trans
      (completeApproval_same completed)
    exact rerun same ((Extends.storeApproval before _ _).trans
      (completeApproval_extends completed))
  | closeInput => exact .of_same rfl rfl rfl
  | answer answerable accepted =>
    exact rerun (acceptResponse_same accepted) (acceptResponse_extends accepted)
  | cancel => exact .of_written rfl rfl [.cancelled] rfl
  | retry => exact rerun ⟨rfl, rfl, rfl, rfl⟩ (.of_written rfl rfl [.queued] rfl)
  | requestRollback => exact .of_written rfl rfl [.rollbackRequested] rfl
  | grantRollback => exact .of_same rfl rfl rfl
  | closeRollback => exact .of_same rfl rfl rfl
  | compensate =>
    rename_i position record key source found granted compensation ofStep
    have ends := runCompensation_effect env context ⟨before, store⟩ position record
      key.definition source
    generalize (runCompensation env context ⟨before, store⟩ position record
      key.definition source).work = result at ends ⊢
    cases ends with
    | raised => exact .of_written rfl rfl [.rollbackFailed] rfl
    | violated => exact .refl _
    | finished =>
      have absorbed {outcome : DispatchOutcome ρ} : Extends before (before.absorb outcome) :=
        .of_same rfl rfl rfl
      exact absorbed.trans (.finishRollback _ position _ _)

theorem resumeDelayed_extends {context : RunContext} (work : Work ρ)
    (consistent : Consistent env work.execution) :
    Extends work.execution (resumeDelayed env context work).work.execution := by
  rcases resumeDelayed_effect env context work with
    same | ⟨failure, refused⟩ | ⟨record, position, execution, -, -, -, finished, ran⟩
  · rw [same]
    exact .refl _
  · rw [refused]
    exact .refl _
  · rw [ran]
    have same := finishDelay_same finished
    obtain ⟨output, next, rfl⟩ := finishDelay_ok env finished
    have recorded := Extends.recordOutput work.execution position .succeeded output next
    generalize
      work.execution.recordOutput position .succeeded output next = stepped at same ⊢ recorded
    have queued : Extends stepped ({ stepped with nextResumeAt := none }.setStatus .queued) :=
      .of_written rfl rfl [.queued] rfl
    exact (recorded.trans queued).trans
      (runExecution_extends ⟨_, work.store⟩ (consistent.of_same same).attempts)

/-! ## Events and runs -/

/-- After an event, the ledgers of the executions go on, and new ones are numbered. -/
def Continues (db : Database ρ) (key : Nat) (row : SoarExecution) : Prop :=
  match db.executions.get? key with
  | some earlier => Extends earlier row
  | none => row.Numbered

/-- Every event only continues the record of an execution. -/
theorem continues_preserved (db : Database ρ) (event : Event ρ) :
    Preserves env db event (fun _ row => Consistent env row)
      (Continues db) fun _ => True := by
  have stored {key : Nat} {execution row : SoarExecution}
      (found : db.executions.get? key = some execution) (extended : Extends execution row) :
      Continues db key row := by
    unfold Continues
    rw [found]
    exact extended
  constructor
  · intro key execution found _
    exact stored found (.refl execution)
  · intro request account playbookId playbook payload proposed execution _ _ made
    have fresh : execution.Numbered := by
      intro key
      simp [SoarExecution.attemptsOf, (newExecution_ok env made).1]
    have attempts : execution.FirstAttempts := by
      intro identity member
      simp [SoarExecution.identities, (newExecution_ok env made).1] at member
    have absent : db.executions.get? db.executions.nextKey = none :=
      Table.get?_eq_none_of_ge _ le_rfl
    unfold Continues
    rw [absent]
    exact ⟨fresh, (runExecution_extends ⟨execution, db.store⟩ attempts).numbered fresh,
      fun _ _ => trivial⟩
  · intro request account key command execution _ _ _ found consistent
    have effect : CommandEffect env (request.context account key) account
        ⟨execution, db.store⟩ command _ := command.call_effect env
    exact ⟨stored found (effect.extends consistent), fun _ _ => trivial⟩
  · intro request account store key execution batchSize _ _ found _ consistent
    exact ⟨stored found (resumeDelayed_extends ⟨execution, store⟩ consistent), fun _ _ => trivial⟩
  · intro request key execution batchSize _ _ _ _ row
    have expired := Extends.setStatus execution .expired
    unfold Continues at row ⊢
    split
    · rename_i earlier found
      rw [found] at row
      exact Extends.trans row expired
    · rename_i absent
      rw [absent] at row
      exact expired.numbered row

/-- The executions of a database agree with their playbooks and number their attempts. -/
def Orderly (env : SoarPlatform ρ) (db : Database ρ) : Prop :=
  AllRows db.executions fun _ row => Consistent env row ∧ row.Numbered

theorem Orderly.continues {db : Database ρ} (orderly : Orderly env db) (event : Event ρ) :
    AllRows (stepDatabase env db event).executions (Continues db) :=
  ((continues_preserved db event).perform fun key row found =>
    (orderly key row found).1).1

/-- Every event keeps the database orderly. -/
theorem Orderly.step {db : Database ρ} (orderly : Orderly env db)
    (event : Event ρ) : Orderly env (stepDatabase env db event) := by
  intro key row found
  have consistent := ((consistent_preserved env db event).perform
    fun key row found => (orderly key row found).1).1 key row found
  have goes := orderly.continues event key row found
  unfold Continues at goes
  cases stored : db.executions.get? key with
  | none =>
    rw [stored] at goes
    exact ⟨consistent, goes⟩
  | some earlier =>
    rw [stored] at goes
    exact ⟨consistent, Extends.numbered goes (orderly key earlier stored).2⟩

theorem Orderly.extends {key : Nat} (events : List (Event ρ)) :
    ∀ {db : Database ρ} {execution : SoarExecution}, Orderly env db →
      db.executions.get? key = some execution →
      ∃ later, (final (stepDatabase env) db events).executions.get? key = some later ∧
        Extends execution later := by
  induction events with
  | nil => exact fun _ found => ⟨_, found, .refl _⟩
  | cons event rest ih =>
    intro db execution orderly found
    obtain ⟨next, stored⟩ := Option.isSome_iff_exists.mp
      (stepDatabase_stored event (Option.isSome_iff_exists.mpr ⟨_, found⟩))
    have goes := orderly.continues event key next stored
    unfold Continues at goes
    rw [found] at goes
    obtain ⟨later, kept, extended⟩ := ih (orderly.step event) stored
    exact ⟨later, kept, Extends.trans goes extended⟩

/-- **A ledger only grows.** In every run of events and from any moment of it on, an execution stays
stored with the columns it was created with, its step records and its statuses are added to the
ones it has, and the attempts of each of its steps are numbered from one. -/
theorem ledger_only_grows (env : SoarPlatform ρ) (store : Store ρ)
    (playbooks : Table SoarPlaybook) (past future : List (Event ρ)) :
    AllRows (final (stepDatabase env) (.initial store playbooks) past).executions
      fun key execution => execution.Numbered ∧ ∃ later,
        (final (stepDatabase env) (.initial store playbooks) (past ++ future)).executions.get?
          key = some later ∧ Extends execution later := by
  intro key execution found
  have orderly : Orderly env (final (stepDatabase env) (.initial store playbooks) past) :=
    invariant_final (stepDatabase env) (Orderly env) (fun _ => True)
      (fun _ event orderly _ => orderly.step event) (allRows_initial store playbooks _)
      fun _ _ => trivial
  refine ⟨(orderly key execution found).2, ?_⟩
  unfold final
  rw [List.foldl_append]
  exact orderly.extends future found

end Steps

end ThreatScope.Soar
