import ThreatScope.Soar.Approvals

/-!
# What the approval rules promise, and when

Two promises of the approval rules are kept by part of the code only.

An action should wait for an approval when its catalog entry requires an
administrator or its policy overrides the catalog. The engine asks for approvals
by the safety class alone, so a dispatch keeps the promise exactly when its
action is guarded (`honours_iff_guarded`): it needs no approval, or it is
sensitive or simulated.

The user who requested an execution should not approve its sensitive steps while
somebody else can. The engine records as requester whoever drives it when the
approval is made, so the requester of the execution can be a counted approver
(`approvesOwnRequest`); without such a decision none is
(`requester_never_approves`).
-/

set_option autoImplicit false

namespace ThreatScope.Soar

open Library AccessControl

variable {ρ : Type} (env : SoarPlatform ρ)

/-! ## Approval flags -/

/-- The catalog or the policy of an action requires an approval. -/
def requiresApproval (store : Store ρ) (action : ActionDefinition) : Bool :=
  action.administratorApprovalRequired ||
    (store.policy? action.actionKey).any fun policy => policy.approvalRequiredOverride == some true

/-- The engine asks for an approval wherever one is required. -/
def guarded (store : Store ρ) (action : ActionDefinition) : Bool :=
  !requiresApproval store action || action.safetyClassification == .sensitiveLocal ||
    action.simulationOnly

/-- A call of the dispatcher waited for the approval its action requires. -/
def Honours (call : DispatchCall ρ) : Prop :=
  requiresApproval call.work.store call.action = true →
    ∃ approval ∈ call.work.execution.approvals,
      approval.stepExecution = call.step ∧ approval.status = .approved

section Flags

variable {env} {context : RunContext} {origin : SoarExecution} {call : DispatchCall ρ}

theorem Dispatched.no_approval (consistent : Consistent env origin)
    (dispatched : Dispatched env context False origin call)
    (unasked : call.action.approvalType = none) :
    ∀ approval ∈ call.work.execution.approvals, approval.stepExecution ≠ call.step := by
  intro approval member same
  have reached := EngineSteps.consistent dispatched.reached consistent
  obtain ⟨key, step, record, here, ready⟩ := dispatched.ready
  obtain ⟨entryKey, entry, action⟩ := ready.entry
  obtain ⟨place, type_, -⟩ := here.follows reached
  obtain ⟨identity, found, admits⟩ := reached.approvals approval.kind
    (List.mem_map.mpr ⟨approval, member, rfl⟩)
  have ofStep : approval.kind.stepExecution = call.step := same
  rw [ofStep, place] at found
  cases found
  rcases admits with approvalStep | ⟨-, asked, actionOf, needed, -⟩
  · exact ready.stepType (type_.symm.trans approvalStep)
  · have catalog : record.identity.action? = some entryKey := here.action? reached entry
    rw [catalog] at actionOf
    cases actionOf
    rw [action] at unasked
    rw [unasked] at needed
    cases needed

/-- **A call of the engine honours the approval flags exactly when its action is
guarded.** -/
theorem Dispatched.honours_iff (consistent : Consistent env origin)
    (dispatched : Dispatched env context False origin call) :
    Honours call ↔ guarded call.work.store call.action = true := by
  have asks := call.action.approvalType_isSome_iff
  constructor
  · intro honours
    by_cases required : requiresApproval call.work.store call.action = true
    · obtain ⟨approval, member, ofStep, -⟩ := honours required
      have asked : call.action.approvalType.isSome := by
        cases unasked : call.action.approvalType with
        | some _ => rfl
        | none => exact absurd ofStep (dispatched.no_approval consistent unasked approval member)
      rcases asks.mp asked with sensitive | simulated
      · simp [guarded, sensitive]
      · simp [guarded, simulated]
    · simp [guarded, required]
  · intro guarded_ required
    have asked : call.action.approvalType.isSome := by
      simp only [guarded, required, Bool.not_true, Bool.false_or, Bool.or_eq_true,
        beq_iff_eq] at guarded_
      exact asks.mpr guarded_
    obtain ⟨key, step, record, -, ready⟩ := dispatched.ready
    obtain ⟨approval, place, latest, approved⟩ := ready.approved asked
    obtain ⟨here, ofStep⟩ := Rows.mem_of_last? latest
    exact ⟨approval, List.mem_of_getElem? here, by simpa using ofStep, approved⟩

end Flags

/-- **The approval flags are honoured by exactly the dispatches of guarded
actions.** In every run, each call the engine makes comes after an approved
approval of its step, where the catalog or the policy requires one, if and only if
no approval is required or the action is sensitive or simulated. -/
theorem honours_iff_guarded (store : Store ρ) (playbooks : Table SoarPlaybook)
    (events : List (Event ρ)) :
    ∀ move ∈ trace (stepDatabase env) (.initial store playbooks) events,
      ∀ call ∈ (perform env move.before move.input).calls,
        call.compensation = false →
          (Honours call ↔ guarded call.work.store call.action = true) := by
  intro move member call made forward
  rcases calls_of_run env store playbooks events move member call made with
    compensates | ⟨context, origin, consistent, dispatched⟩
  · rw [compensates] at forward
    cases forward
  · exact dispatched.honours_iff consistent

/-- A playbook of one action. -/
def singleAction (key : ActionKey) (name : String) : Database Unit :=
  deployment [key]
    [plainStep "a" "action" 1 [("action_key", .str name), ("on_success", .str "e")],
      plainStep "e" "end" 2 []]

/-- A playbook that reads a record and ends. -/
def readingDeployment : Database Unit :=
  singleAction .loadSocAlertContext "load_soc_alert_context"

/-- A playbook that queues a connector notification and ends. -/
def connectorDeployment : Database Unit :=
  singleAction .queueConnectorNotification "queue_connector_notification"

theorem honours_iff_guarded_read :
    ∃ move ∈ trace (stepDatabase plainPlatform) readingDeployment
        [ask 1 10 (createRun .liveLocal)],
      ∃ call ∈ (perform plainPlatform move.before move.input).calls,
        call.compensation = false ∧ Honours call := by
  have dispatches : (perform plainPlatform readingDeployment
      (ask 1 10 (createRun .liveLocal))).calls.any (fun call =>
        !call.compensation && guarded call.work.store call.action) = true := by decide +kernel
  obtain ⟨call, made, facts⟩ := List.any_eq_true.mp dispatches
  simp only [Bool.and_eq_true, Bool.not_eq_true'] at facts
  obtain ⟨forward, guarded_⟩ := facts
  refine ⟨_, List.mem_cons_self .., call, made, forward, ?_⟩
  exact (honours_iff_guarded plainPlatform _ _ [ask 1 10 (createRun .liveLocal)] _
    (List.mem_cons_self ..) call made forward).mpr guarded_

/-- **A connector action runs without its approval.** The catalog requires an
administrator for it, and the execution has no approval at all. -/
theorem not_honours_connector :
    ∃ move ∈ trace (stepDatabase plainPlatform) connectorDeployment
        [ask 1 10 (createRun .liveLocal)],
      ∃ call ∈ (perform plainPlatform move.before move.input).calls,
        call.compensation = false ∧ call.action.administratorApprovalRequired = true ∧
          call.work.execution.mode = .liveLocal ∧ ¬ Honours call := by
  have dispatches : (perform plainPlatform connectorDeployment
      (ask 1 10 (createRun .liveLocal))).calls.any (fun call => !call.compensation &&
        call.action.administratorApprovalRequired && call.work.execution.mode == .liveLocal &&
        call.work.execution.approvals.isEmpty) = true := by decide +kernel
  obtain ⟨call, made, facts⟩ := List.any_eq_true.mp dispatches
  simp only [Bool.and_eq_true, Bool.not_eq_true', beq_iff_eq, List.isEmpty_iff] at facts
  obtain ⟨⟨⟨forward, required⟩, live⟩, none⟩ := facts
  refine ⟨_, List.mem_cons_self .., call, made, forward, required, live, ?_⟩
  intro honours
  obtain ⟨approval, member, -⟩ := honours (by simp [requiresApproval, required])
  rw [none] at member
  cases member

/-! ## The requester of an execution -/

/-- Whether the step of a record is an action on users or sessions. -/
def SoarExecution.sensitiveAt (execution : SoarExecution) (step : Nat) : Bool :=
  (execution.identities[step]?).any fun identity =>
    identity.stepType != some .approval &&
      identity.action?.any fun key => key.definition.safetyClassification == .sensitiveLocal

/-- The requester of an execution passes the checks for an approval of one of its
sensitive steps, and the approval would not be complete, or somebody else could
give it. -/
def approvesOwnRequest (db : Database ρ) : Event ρ → Bool
  | .environment _ _ => false
  | .request asked => match asked.operation with
    | .act key (.decide position .approve) =>
      (db.store.directory.users.get? asked.actor).any fun account =>
        (db.executions.get? key).any fun execution =>
          (execution.approvals[position]?).any fun approval =>
            asked.actor == execution.requestedByUserId &&
              execution.sensitiveAt approval.stepExecution &&
              approval.status.isOpen && decide (asked.now < approval.expiresAt) &&
              (decisionRefusal (asked.context account key) account db.store
                approval).isNone &&
              (decide (approval.approvals + 1 < approval.minimumApprovals) ||
                otherEligible db.store approval.requiredPermission asked.actor)
    | _ => false

/-- No approval of a sensitive step becomes approved with a decision of the
requester, while another active user is eligible. -/
def Fair (store : Store ρ) (before after : SoarExecution) : Prop :=
  ∀ (position : Nat) (approval approved : SoarApproval),
    before.approvals[position]? = some approval →
    after.approvals[position]? = some approved → approval.status ≠ .approved →
    approved.status = .approved → before.sensitiveAt approval.stepExecution = true →
    otherEligible store approval.requiredPermission before.requestedByUserId = true →
    ∀ decision ∈ approved.decisions, decision.decidedByUserId ≠ before.requestedByUserId

/-- No open approval of a sensitive step counts the requester. -/
def Unbiased (execution : SoarExecution) : Prop :=
  ∀ (position : Nat) (approval : SoarApproval),
    execution.approvals[position]? = some approval → approval.status.isOpen = true →
      execution.sensitiveAt approval.stepExecution = true →
    ∀ decision ∈ approval.decisions, decision.decidedByUserId ≠ execution.requestedByUserId

section Requester

variable {env} {store : Store ρ} {execution other start : SoarExecution}

theorem Fair.of_approvals (same : other.approvals = execution.approvals) :
    Fair store execution other := by
  intro position approval approved here there unapproved becomes
  rw [same, here] at there
  cases there
  exact absurd becomes unapproved

theorem Fair.grow (fair : Fair store start execution)
    (rows : start.approvals.length = execution.approvals.length)
    (grows : Grows execution other) : Fair store start other := by
  obtain ⟨added, shape, -⟩ := grows.approvals
  intro position approval approved here there
  obtain ⟨bound, -⟩ := List.getElem?_eq_some_iff.mp here
  rw [rows] at bound
  rw [shape, List.getElem?_append_left bound] at there
  exact fair position approval approved here there

theorem SameRecords.sensitiveAt (same : SameRecords execution other) (step : Nat) :
    other.sensitiveAt step = execution.sensitiveAt step := by
  rw [SoarExecution.sensitiveAt, same.identities]
  rfl

theorem Unbiased.of_same (unbiased : Unbiased execution) (same : SameRecords execution other)
    (approvals : other.approvals = execution.approvals) : Unbiased other := by
  intro position approval found isOpen sensitive
  rw [approvals] at found
  rw [same.sensitiveAt] at sensitive
  rw [same.requested]
  exact unbiased position approval found isOpen sensitive

theorem Unbiased.grow (unbiased : Unbiased execution) (consistent : Consistent env execution)
    (grows : Grows execution other) : Unbiased other := by
  obtain ⟨added, shape, fresh⟩ := grows.approvals
  obtain ⟨more, identities⟩ := grows.identities
  intro position approval found isOpen sensitive
  rw [shape, List.getElem?_append] at found
  split at found
  · obtain ⟨identity, place, -⟩ := consistent.approvals approval.kind
      (List.mem_map.mpr ⟨approval, List.mem_of_getElem? found, rfl⟩)
    obtain ⟨bound, -⟩ := List.getElem?_eq_some_iff.mp place
    have bound : approval.stepExecution < execution.identities.length := bound
    have old : execution.sensitiveAt approval.stepExecution = true := by
      rw [SoarExecution.sensitiveAt, identities, List.getElem?_append_left bound] at sensitive
      exact sensitive
    rw [grows.requested]
    exact unbiased position approval found isOpen old
  · obtain ⟨-, undecided⟩ := fresh approval (List.mem_of_getElem? found)
    simp [undecided]

theorem Unbiased.modify {position : Nat} (change : SoarApproval → SoarApproval)
    (unbiased : Unbiased execution)
    (same : SameRecords execution (execution.modifyApproval position change))
    (kept : ∀ approval, execution.approvals[position]? = some approval →
      (change approval).status.isOpen = true →
      execution.sensitiveAt (change approval).stepExecution = true →
      ∀ decision ∈ (change approval).decisions,
        decision.decidedByUserId ≠ execution.requestedByUserId) :
    Unbiased (execution.modifyApproval position change) := by
  intro index later found isOpen sensitive
  rw [same.sensitiveAt] at sensitive
  rcases Rows.getElem?_of_modify found with ⟨-, old⟩ | ⟨approval, -, stored, rfl⟩
  · exact unbiased index later old isOpen sensitive
  · exact kept approval stored isOpen sensitive

theorem Fair.modify {position : Nat} (change : SoarApproval → SoarApproval)
    (kept : ∀ approval, execution.approvals[position]? = some approval →
      (change approval).status = .approved →
      execution.sensitiveAt approval.stepExecution = true →
      otherEligible store approval.requiredPermission execution.requestedByUserId = true →
      ∀ decision ∈ (change approval).decisions,
        decision.decidedByUserId ≠ execution.requestedByUserId) :
    Fair store execution (execution.modifyApproval position change) := by
  intro index approval approved here there unapproved becomes sensitive others
  rcases Rows.getElem?_of_modify there with ⟨-, old⟩ | ⟨stored, rfl, place, rfl⟩
  · rw [here] at old
    cases old
    exact absurd becomes unapproved
  · rw [here] at place
    cases place
    exact kept approval here becomes sensitive others

theorem SameRecords.length (same : SameRecords execution other) :
    execution.approvals.length = other.approvals.length := by
  have lengths := congrArg List.length same.kinds
  simpa [SoarExecution.approvalKinds] using lengths.symm

/-- A run of the engine keeps the approvals unbiased and fair. -/
theorem runExecution_fair {context : RunContext} (work : Work ρ)
    (consistent : Consistent env work.execution) (unbiased : Unbiased work.execution)
    (fair : Fair store start work.execution)
    (rows : start.approvals.length = work.execution.approvals.length) :
    Unbiased (runExecution env context work).work.execution ∧
      Fair store start (runExecution env context work).work.execution := by
  have grows : Grows work.execution (runExecution env context work).work.execution :=
    runExecution_grows work consistent.attempts
  exact ⟨unbiased.grow consistent grows, fair.grow rows grows⟩

/-- **A command keeps an execution unbiased and is fair**, unless its requester
approves a sensitive step of it. -/
theorem CommandEffect.fair {request : Request} {account : UserAccount} {key : Nat}
    {command : Command} {reply : ServiceReply ρ}
    (effect : CommandEffect env (request.context account key) account ⟨execution, store⟩
      command reply)
    (consistent : Consistent env execution) (unbiased : Unbiased execution)
    (calm : ∀ position approval, command = .decide position .approve →
      Accepted (request.context account key) account ⟨execution, store⟩ position approval →
      execution.sensitiveAt approval.stepExecution = true →
      request.actor = execution.requestedByUserId →
      approval.minimumApprovals ≤ approval.approvals + 1 ∧
        otherEligible store approval.requiredPermission request.actor = false) :
    Unbiased reply.work.execution ∧ Fair store execution reply.work.execution := by
  have untouched {prepared : SoarExecution} (same : SameRecords execution prepared)
      (approvals : prepared.approvals = execution.approvals) :
      Unbiased prepared ∧ Fair store execution prepared :=
    ⟨unbiased.of_same same approvals, .of_approvals approvals⟩
  have rerun {prepared : SoarExecution} (same : SameRecords execution prepared)
      (both : Unbiased prepared ∧ Fair store execution prepared) :
      Unbiased (runExecution env (request.context account key)
          ⟨prepared, store⟩).work.execution ∧
        Fair store execution (runExecution env (request.context account key)
          ⟨prepared, store⟩).work.execution :=
    runExecution_fair ⟨prepared, store⟩ (consistent.of_same same) both.1 both.2 same.length
  cases effect with
  | refused => exact untouched ⟨rfl, rfl, rfl, rfl⟩ rfl
  | resume =>
    exact rerun ⟨rfl, rfl, rfl, rfl⟩ (untouched ⟨rfl, rfl, rfl, rfl⟩ rfl)
  | closeApproval found isOpen closed unapproved decides =>
    rename_i position approval status failure
    refine ⟨unbiased.modify (fun approval => { approval with status := status })
      (.modifyApproval _ _ _ fun _ => rfl) ?_, .modify
      (fun approval => { approval with status := status }) ?_⟩
    · intro stored there opens
      have opens : status.isOpen = true := opens
      rw [closed] at opens
      cases opens
    · exact fun _ _ becomes => absurd becomes unapproved
  | reject accepted =>
    rename_i position approval
    have same : SameRecords execution (execution.storeApproval position
        (approval.decided request.actor .reject .rejected)) :=
      stored_same accepted.found .reject .rejected
    have rejected : Unbiased (execution.storeApproval position
        (approval.decided request.actor .reject .rejected)) := by
      refine unbiased.modify (fun _ => approval.decided request.actor .reject .rejected) same ?_
      intro _ _ opens
      cases opens
    refine ⟨rejected.of_same ⟨rfl, rfl, rfl, rfl⟩ rfl, ?_⟩
    refine Fair.modify (fun _ => approval.decided request.actor .reject .rejected) ?_
    intro _ _ becomes
    cases becomes
  | approvePartly accepted missing =>
    rename_i position approval
    refine ⟨unbiased.modify
      (fun _ => approval.decided request.actor .approve .partiallyApproved)
      (stored_same accepted.found .approve .partiallyApproved) ?_, .modify
      (fun _ => approval.decided request.actor .approve .partiallyApproved) ?_⟩
    · intro _ _ _ sensitive decision member
      have sensitive : execution.sensitiveAt approval.stepExecution = true := sensitive
      rcases List.mem_append.mp member with old | new
      · exact unbiased position approval accepted.found accepted.isOpen sensitive decision old
      · rw [List.mem_singleton.mp new]
        intro own
        obtain ⟨enough, -⟩ := calm position approval rfl accepted sensitive own
        exact absurd missing (not_lt.mpr enough)
    · intro _ _ becomes
      cases becomes
  | approve accepted enough completed =>
    rename_i position approval prepared
    have stored : SameRecords execution (execution.storeApproval position
        (approval.decided request.actor .approve .approved)) :=
      stored_same accepted.found .approve .approved
    have same := stored.trans (completeApproval_same completed)
    have unbiasedStore : Unbiased (execution.storeApproval position
        (approval.decided request.actor .approve .approved)) := by
      refine unbiased.modify (fun _ => approval.decided request.actor .approve .approved)
        stored ?_
      intro _ _ opens
      cases opens
    have fairStore : Fair store execution (execution.storeApproval position
        (approval.decided request.actor .approve .approved)) := by
      refine .modify (fun _ => approval.decided request.actor .approve .approved) ?_
      intro old place _ sensitive others decision member
      have equal : old = approval := Option.some.inj (place.symm.trans accepted.found)
      subst equal
      rcases List.mem_append.mp member with earlier | new
      · exact unbiased position old accepted.found accepted.isOpen sensitive decision earlier
      · rw [List.mem_singleton.mp new]
        intro own
        have own : request.actor = execution.requestedByUserId := own
        obtain ⟨-, alone⟩ := calm position old rfl accepted sensitive own
        rw [own, others] at alone
        cases alone
    have completedSame := completeApproval_same completed
    obtain ⟨record, next, -, rfl⟩ := completeApproval_ok env completed
    exact rerun same ⟨unbiasedStore.of_same completedSame rfl,
      fun index old new here there => fairStore index old new here there⟩
  | closeInput found isPending closed => exact untouched ⟨rfl, rfl, rfl, rfl⟩ rfl
  | answer answerable accepted =>
    have same := acceptResponse_same accepted
    obtain ⟨stored, output, next, rfl⟩ := acceptResponse_ok env accepted
    exact rerun same (untouched same (by simp))
  | cancel running =>
    refine ⟨?_, ?_⟩
    · intro position later found isOpen
      simp only [SoarExecution.cancel, List.getElem?_map] at found
      obtain ⟨approval, -, rfl⟩ := Option.map_eq_some_iff.mp found
      split at isOpen
      · cases isOpen
      · rename_i closed
        exact absurd isOpen closed
    · intro position approval approved here there unapproved becomes
      simp only [SoarExecution.cancel, List.getElem?_map, here, Option.map_some,
        Option.some.injEq] at there
      subst there
      split at becomes
      · cases becomes
      · exact absurd becomes unapproved
  | retry failed found =>
    rename_i last
    have same : SameRecords execution (execution.restart last.stepKey) := ⟨rfl, rfl, rfl, rfl⟩
    exact rerun same (untouched same rfl)
  | requestRollback ended made => exact untouched ⟨rfl, rfl, rfl, rfl⟩ rfl
  | grantRollback found waiting => exact untouched ⟨rfl, rfl, rfl, rfl⟩ rfl
  | closeRollback closed => exact untouched ⟨rfl, rfl, rfl, rfl⟩ rfl
  | compensate found granted compensation ofStep =>
    exact untouched (runCompensation_same ⟨execution, store⟩)
      (runCompensation_approvals ⟨execution, store⟩)

/-- What an event leaves of an execution, when no requester approves. -/
def FairRow (db : Database ρ) (key : Nat) (row : SoarExecution) : Prop :=
  Unbiased row ∧ ∀ before, db.executions.get? key = some before →
    Fair db.store before row

/-- An event in which nobody approves an own request keeps the rows fair. -/
theorem fair_preserved {db : Database ρ} {event : Event ρ}
    (calm : approvesOwnRequest db event = false) :
    Preserves env db event (WithConsistency env fun _ row => Unbiased row)
      (FairRow db) fun _ => True := by
  constructor
  · rintro key execution stored ⟨-, unbiased⟩
    refine ⟨unbiased, fun before found => ?_⟩
    rw [stored] at found
    cases found
    exact .of_approvals rfl
  · intro request account playbookId playbook payload proposed created _ _ made
    have absent : db.executions.get? db.executions.nextKey = none :=
      Table.get?_eq_none_of_ge _ le_rfl
    obtain ⟨-, approvals, -⟩ := newExecution_ok env made
    have unbiased : Unbiased created := by
      intro position approval found
      rw [approvals] at found
      cases found
    have consistent := newExecution_consistent made
    refine ⟨⟨unbiased, fun before found => ?_⟩, ⟨unbiased.grow consistent
      (runExecution_grows ⟨created, db.store⟩ consistent.attempts), fun before found => ?_⟩,
      fun _ _ => trivial⟩
    · rw [absent] at found
      cases found
    · rw [absent] at found
      cases found
  · rintro request account key command execution rfl operation known stored ⟨consistent, unbiased⟩
    have effect : CommandEffect env (request.context account key) account
        ⟨execution, db.store⟩ command _ := command.call_effect env
    have both := effect.fair consistent unbiased ?_
    · refine ⟨⟨both.1, fun before found => ?_⟩, fun _ _ => trivial⟩
      rw [stored] at found
      cases found
      exact both.2
    · rintro position approval rfl accepted sensitive own
      have found : execution.approvals[position]? = some approval := accepted.found
      have inTime : request.now < approval.expiresAt := accepted.inTime
      have eligible : decisionRefusal (request.context account key) account db.store
          approval = none := accepted.eligible
      have same : (request.actor == execution.requestedByUserId) = true := beq_iff_eq.mpr own
      simp only [approvesOwnRequest, operation, same, known, stored, found, Option.any_some,
        sensitive, accepted.isOpen, inTime, eligible, Option.isNone_none, decide_true,
        Bool.and_self, Bool.true_and, Bool.or_eq_false_iff, decide_eq_false_iff_not,
        not_lt] at calm
      exact calm
  · rintro request account store key execution batchSize - - stored - ⟨consistent, unbiased⟩
    have grows : Grows execution (resumeDelayed env (request.context account key)
        ⟨execution, store⟩).work.execution :=
      resumeDelayed_grows ⟨execution, store⟩ consistent
    refine ⟨⟨unbiased.grow consistent grows, fun before found => ?_⟩, fun _ _ => trivial⟩
    rw [stored] at found
    cases found
    exact (Fair.of_approvals rfl).grow rfl grows
  · rintro request key execution batchSize - - - - ⟨unbiased, fair⟩
    exact ⟨unbiased.of_same ⟨rfl, rfl, rfl, rfl⟩ rfl, fair⟩

/-- Such an event keeps every execution unbiased. -/
theorem Unbiased.step {db : Database ρ} {event : Event ρ}
    (all : AllRows db.executions (WithConsistency env fun _ row => Unbiased row))
    (calm : approvesOwnRequest db event = false) :
    AllRows (stepDatabase env db event).executions
        (WithConsistency env fun _ row => Unbiased row) ∧
      AllRows (stepDatabase env db event).executions (FairRow db) := by
  obtain ⟨fair, -⟩ := (fair_preserved calm).perform all
  obtain ⟨consistent, -⟩ := (consistent_preserved env db event).perform
    fun key row found => (all key row found).1
  exact ⟨fun key row found => ⟨consistent key row found, (fair key row found).1⟩, fair⟩

/-- **No requester approves a sensitive step of the own execution.** In every run
in which no requester passes the checks for an approval of a sensitive step that
stays incomplete or that another active user could give, an approval of such a
step that becomes approved while another active user is eligible counts no
decision of the user who requested the execution. -/
theorem requester_never_approves (store : Store ρ) (playbooks : Table SoarPlaybook)
    (events : List (Event ρ))
    (calm : ∀ move ∈ trace (stepDatabase env) (.initial store playbooks) events,
      approvesOwnRequest move.before move.input = false) :
    ∀ move ∈ trace (stepDatabase env) (.initial store playbooks) events,
      ∀ key before after, move.before.executions.get? key = some before →
        move.after.executions.get? key = some after →
        Fair move.before.store before after := by
  intro move member key before after stored kept
  obtain ⟨unbiased, -⟩ := invariant_along_trace (stepDatabase env)
    (fun db => AllRows db.executions
      (WithConsistency env fun _ row => Unbiased row))
    (fun move => approvesOwnRequest move.before move.input = false)
    (fun _ _ all fits => (Unbiased.step all fits).1) (allRows_initial store playbooks _) calm
    move member
  have shape := after_eq_of_mem_trace (stepDatabase env) member
  have fits := calm move member
  obtain ⟨db, event, next⟩ := move
  simp only at shape
  subst shape
  obtain ⟨-, fair⟩ := Unbiased.step unbiased fits
  exact (fair key after kept).2 before stored

end Requester

/-- A playbook with an approval, an action on a user and an end. -/
def sensitiveDeployment : Database Unit :=
  deployment [.revokeOtherUserSessions]
    [plainStep "a" "approval" 1 [("on_success", .str "s")],
      plainStep "s" "action" 2 [("action_key", .str "revoke_other_user_sessions"),
        ("on_success", .str "e")],
      plainStep "e" "end" 3 []]

/-- The first user requests the execution and the second approves its first step,
so the second drives it to its sensitive step. -/
def drivenRun : List (Event Unit) :=
  [ask 1 10 (createRun .liveLocal), ask 2 20 (.act 1 (.decide 0 .approve))]

/-- The requester of the execution approves its sensitive step. -/
def ownApproval : Event Unit := ask 1 30 (.act 1 (.decide 1 .approve))

/-- The two approvals of a run, and what the requester's decision makes of the
second. -/
def secondApproval (db : Database Unit) :
    Option (Nat × Bool × ApprovalStatus × List SoarApprovalDecision) :=
  (db.executions.get? 1).bind fun execution =>
    (execution.approvals[1]?).map fun approval =>
      (execution.requestedByUserId, execution.sensitiveAt approval.stepExecution &&
        otherEligible db.store approval.requiredPermission execution.requestedByUserId,
        approval.status, approval.decisions)

theorem requester_never_approves_driven :
    ∃ move ∈ trace (stepDatabase plainPlatform) sensitiveDeployment drivenRun,
      ∃ before after, move.before.executions.get? 1 = some before ∧
        move.after.executions.get? 1 = some after ∧
        Fair move.before.store before after := by
  obtain ⟨calm, created⟩ :
      (trace (stepDatabase plainPlatform) sensitiveDeployment drivenRun).all
          (fun move => !approvesOwnRequest move.before move.input) = true ∧
        ((stepDatabase plainPlatform sensitiveDeployment
          (ask 1 10 (createRun .liveLocal))).executions.get? 1).isSome = true := by
    decide +kernel
  have member : ⟨stepDatabase plainPlatform sensitiveDeployment (ask 1 10 (createRun .liveLocal)),
      ask 2 20 (.act 1 (.decide 0 .approve)), stepDatabase plainPlatform
        (stepDatabase plainPlatform sensitiveDeployment (ask 1 10 (createRun .liveLocal)))
        (ask 2 20 (.act 1 (.decide 0 .approve)))⟩ ∈
      trace (stepDatabase plainPlatform) sensitiveDeployment drivenRun :=
    List.mem_cons_of_mem _ (List.mem_singleton.mpr rfl)
  have law := requester_never_approves _ _ drivenRun
    (fun move member => by simpa using List.all_eq_true.mp calm move member)
    _ member 1
  generalize stepDatabase plainPlatform sensitiveDeployment (ask 1 10 (createRun .liveLocal)) =
    db at created member law
  have lives : ((stepDatabase plainPlatform db
      (ask 2 20 (.act 1 (.decide 0 .approve)))).executions.get? 1).isSome :=
    stepDatabase_stored _ created
  obtain ⟨before, stored⟩ := Option.isSome_iff_exists.mp created
  obtain ⟨after, kept⟩ := Option.isSome_iff_exists.mp lives
  exact ⟨_, member, before, after, stored, kept, law before after stored kept⟩

/-- **The requester of an execution approves a sensitive step of it.** The recorded
requester of that approval is the user who drove the execution to the step, and
another administrator is active. -/
theorem not_requester_never_approves :
    ∃ move ∈ trace (stepDatabase plainPlatform) sensitiveDeployment
        (drivenRun ++ [ownApproval]),
      ∃ before after, move.before.executions.get? 1 = some before ∧
        move.after.executions.get? 1 = some after ∧
        ¬ Fair move.before.store before after := by
  have decides : secondApproval (final (stepDatabase plainPlatform) sensitiveDeployment
        drivenRun) = some (1, true, .pending, []) ∧
      secondApproval (stepDatabase plainPlatform (final (stepDatabase plainPlatform)
        sensitiveDeployment drivenRun) ownApproval) =
        some (1, true, .approved, [⟨.approve, 1⟩]) := by decide +kernel
  obtain ⟨asked, approved⟩ := decides
  rw [trace_concat]
  generalize final (stepDatabase plainPlatform) sensitiveDeployment drivenRun = db
    at asked approved ⊢
  obtain ⟨before, stored, first⟩ := Option.bind_eq_some_iff.mp asked
  obtain ⟨after, kept, second⟩ := Option.bind_eq_some_iff.mp approved
  obtain ⟨open_, here, facts⟩ := Option.map_eq_some_iff.mp first
  obtain ⟨decided, there, alsoFacts⟩ := Option.map_eq_some_iff.mp second
  simp only [Prod.mk.injEq, Bool.and_eq_true] at facts alsoFacts
  obtain ⟨requester, ⟨sensitive, others⟩, pending, -⟩ := facts
  obtain ⟨-, -, becomes, decisions⟩ := alsoFacts
  refine ⟨_, List.mem_append_right _ (List.mem_singleton.mpr rfl), before, after, stored, kept, ?_⟩
  intro fair
  have excluded := fair 1 open_ decided here there (by simp [pending]) becomes sensitive others
    ⟨.approve, 1⟩ (by simp [decisions])
  exact excluded requester.symm

end ThreatScope.Soar
