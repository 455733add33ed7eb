import ThreatScope.Soar.Consistency

/-!
# Approvals and their quorum

An approval is approved by the decisions recorded for it, each taken by a user
who was eligible then. Eligibility is about the past, so the invariant
(`Sound`) speaks of the transitions so far: every recorded decision has one in
which its user passed the checks of `decide_approval`.

`approvals_quorate` is the law of the decisions and of the dispatcher: the engine
calls it for a sensitive or a simulated action only while the latest approval of
the step is approved.
-/

set_option autoImplicit false

namespace ThreatScope.Soar

open Library AccessControl

variable {ρ : Type} (env : SoarPlatform ρ)

/-- A user may decide an approval at the time of a request. -/
structure Eligible (store : Store ρ) (request : Request) (approval : SoarApproval) : Prop where
  inTime : request.now < approval.expiresAt
  active : ∃ account, store.directory.users.get? request.actor = some account ∧
    account.status = .active ∧ ∀ until_, account.lockedUntil = some until_ → until_ ≤ request.now
  permitted : approval.requiredPermission ∈ store.permissions request.actor ∨
    "soar:approve" ∈ store.permissions request.actor
  assignee : ∀ user, approval.assignedToUserId = some user → request.actor = user
  separated : approval.separationRequired = true →
    otherEligible store approval.requiredPermission request.actor = true →
    request.actor ≠ approval.requesterUserId

/-- A decision was taken in a transition. -/
structure TakenIn (key position : Nat) (approval : SoarApproval) (decision : SoarApprovalDecision)
    (move : Transition (Database ρ) (Event ρ)) : Prop where
  asked : ∃ request, move.input = .request request ∧
    request.operation = .act key (.decide position decision.decision) ∧
    request.actor = decision.decidedByUserId ∧ Eligible move.before.store request approval

/-- The decisions of an approved approval. -/
structure Quorum (past : List (Transition (Database ρ) (Event ρ))) (key position : Nat)
    (approval : SoarApproval) : Prop where
  approvers : ∃ users : List Nat, users.Nodup ∧ approval.minimumApprovals ≤ users.length ∧
    ∀ user ∈ users, ⟨.approve, user⟩ ∈ approval.decisions
  unrejected : ∀ decision ∈ approval.decisions, decision.decision ≠ .reject
  taken : ∀ decision ∈ approval.decisions, ∃ move ∈ past,
    TakenIn key position approval decision move

/-! ## The invariant -/

/-- What holds of an approval, whatever its status. -/
structure SoundApproval (past : List (Transition (Database ρ) (Event ρ))) (key position : Nat)
    (approval : SoarApproval) : Prop where
  distinct : (approval.decisions.map SoarApprovalDecision.decidedByUserId).Nodup
  unrejected : approval.status ≠ .rejected →
    ∀ decision ∈ approval.decisions, decision.decision = .approve
  enough : approval.status = .approved → approval.minimumApprovals ≤ approval.approvals
  taken : ∀ decision ∈ approval.decisions, ∃ move ∈ past,
    TakenIn key position approval decision move

/-- What holds of the approvals of an execution. -/
def Sound (past : List (Transition (Database ρ) (Event ρ))) (key : Nat)
    (execution : SoarExecution) : Prop :=
  ∀ position approval, execution.approvals[position]? = some approval →
    SoundApproval past key position approval

section Invariant

variable {past : List (Transition (Database ρ) (Event ρ))} {key position : Nat}
  {approval : SoarApproval} {execution other : SoarExecution}

theorem SoundApproval.quorum (sound : SoundApproval past key position approval)
    (approved : approval.status = .approved) : Quorum past key position approval := by
  have all : ∀ decision ∈ approval.decisions, decision.decision = .approve :=
    sound.unrejected (by simp [approved])
  have counted : approval.approvals = approval.decisions.length := by
    refine List.countP_eq_length.mpr fun decision member => ?_
    simp [all decision member]
  refine ⟨⟨_, sound.distinct, ?_, ?_⟩, ?_, sound.taken⟩
  · rw [List.length_map, ← counted]
    exact sound.enough approved
  · intro user member
    obtain ⟨decision, stored, rfl⟩ := List.mem_map.mp member
    have approves := all decision stored
    obtain ⟨kind, user⟩ := decision
    simp only at approves
    subst approves
    exact stored
  · intro decision member wrong
    rw [all decision member] at wrong
    cases wrong

theorem SoundApproval.later (sound : SoundApproval past key position approval)
    (more : List (Transition (Database ρ) (Event ρ))) :
    SoundApproval (past ++ more) key position approval := by
  refine ⟨sound.distinct, sound.unrejected, sound.enough, ?_⟩
  intro decision member
  obtain ⟨move, old, taken⟩ := sound.taken decision member
  exact ⟨move, List.mem_append_left _ old, taken⟩

theorem Sound.later (sound : Sound past key execution)
    (more : List (Transition (Database ρ) (Event ρ))) : Sound (past ++ more) key execution :=
  fun position approval found => (sound position approval found).later more

theorem Sound.of_approvals (sound : Sound past key execution)
    (same : other.approvals = execution.approvals) : Sound past key other := by
  intro position approval found
  rw [same] at found
  exact sound position approval found

theorem SoundApproval.close (sound : SoundApproval past key position approval)
    {status : ApprovalStatus} (isOpen : approval.status.isOpen = true)
    (unapproved : status ≠ .approved) :
    SoundApproval past key position { approval with status := status } := by
  refine ⟨sound.distinct, fun _ => sound.unrejected ?_, fun wrong => absurd wrong unapproved, ?_⟩
  · intro rejected
    rw [rejected] at isOpen
    cases isOpen
  · intro decision member
    obtain ⟨move, old, ⟨taken⟩⟩ := sound.taken decision member
    obtain ⟨request, asked, operation, actor, eligible⟩ := taken
    exact ⟨move, old, request, asked, operation, actor, eligible.inTime, eligible.active,
      eligible.permitted, eligible.assignee, eligible.separated⟩

theorem Sound.modify (sound : Sound past key execution) (position : Nat)
    (change : SoarApproval → SoarApproval)
    (kept : ∀ approval, execution.approvals[position]? = some approval →
      SoundApproval past key position (change approval)) :
    Sound past key (execution.modifyApproval position change) := by
  intro index later found
  rcases Rows.getElem?_of_modify found with ⟨-, old⟩ | ⟨approval, rfl, stored, rfl⟩
  · exact sound index later old
  · exact kept approval stored

theorem Sound.cancel (sound : Sound past key execution) : Sound past key execution.cancel := by
  intro position later found
  simp only [SoarExecution.cancel, List.getElem?_map] at found
  obtain ⟨approval, stored, rfl⟩ := Option.map_eq_some_iff.mp found
  split
  · rename_i isOpen
    exact (sound position approval stored).close isOpen (by simp)
  · exact sound position approval stored

/-- Whom nothing refuses may decide, and has not decided before. -/
theorem decisionRefusal_eq_none {context : RunContext} {account : UserAccount} {store : Store ρ}
    (passed : decisionRefusal context account store approval = none) :
    (approval.requiredPermission ∈ store.permissions context.actor ∨
        "soar:approve" ∈ store.permissions context.actor) ∧
      (account.status = .active ∧
        ∀ until_, account.lockedUntil = some until_ → until_ ≤ context.now) ∧
      (∀ user, approval.assignedToUserId = some user → context.actor = user) ∧
      (approval.separationRequired = true →
        otherEligible store approval.requiredPermission context.actor = true →
        context.actor ≠ approval.requesterUserId) ∧
      ∀ decision ∈ approval.decisions, decision.decidedByUserId ≠ context.actor := by
  unfold decisionRefusal at passed
  simp only [ite_eq_iff, reduceCtorEq, and_false, false_or, and_true] at passed
  obtain ⟨permitted, active, assignee, separated, undecided⟩ := passed
  refine ⟨?_, ?_, ?_, ?_, ?_⟩
  · simp only [Bool.and_eq_true, Bool.not_eq_true', List.contains_eq_mem, decide_eq_false_iff_not,
      not_and, Decidable.not_not] at permitted
    by_cases required : approval.requiredPermission ∈ store.permissions context.actor
    · exact .inl required
    · exact .inr (permitted required)
  · simp only [Bool.or_eq_true, not_or, bne_iff_ne, ne_eq, Decidable.not_not, Option.any_eq_true,
      not_exists, not_and, decide_eq_true_eq, not_lt] at active
    exact active
  · intro user assigned
    simp only [assigned, Option.any_some, bne_iff_ne, ne_eq, Decidable.not_not] at assignee
    exact assignee.symm
  · intro required others same
    rw [same] at others
    simp [required, same, others] at separated
  · intro decision member same
    exact undecided (List.any_eq_true.mpr ⟨decision, member, by simp [same]⟩)

/-- An accepted decision keeps its approval sound, in a past that ends with the
transition it was taken in. -/
theorem SoundApproval.decided {request : Request} {account : UserAccount}
    {db after : Database ρ} {decision : Decision} {status : ApprovalStatus}
    (sound : SoundApproval past key position approval)
    (accepted : Accepted (request.context account key) account ⟨execution, db.store⟩
      position approval)
    (known : db.store.directory.users.get? request.actor = some account)
    (operation : request.operation = .act key (.decide position decision))
    (rejects : decision = .reject → status = .rejected)
    (completes : status = .approved →
      decision = .approve ∧ approval.minimumApprovals ≤ approval.approvals + 1) :
    SoundApproval (past ++ [⟨db, .request request, after⟩]) key position
      (approval.decided request.actor decision status) := by
  obtain ⟨permitted, active, assignee, separated, undecided⟩ :=
    decisionRefusal_eq_none accepted.eligible
  have opened : approval.status ≠ .rejected := by
    intro rejected
    have isOpen := accepted.isOpen
    rw [rejected] at isOpen
    cases isOpen
  constructor
  · simp only [SoarApproval.decided, List.map_append, List.map_singleton]
    refine List.Nodup.append sound.distinct (List.nodup_singleton _) ?_
    rw [List.disjoint_singleton]
    intro member
    obtain ⟨earlier, stored, same⟩ := List.mem_map.mp member
    exact undecided earlier stored same
  · intro notRejected earlier member
    rcases List.mem_append.mp member with old | new
    · exact sound.unrejected opened earlier old
    · rw [List.mem_singleton.mp new]
      cases decision with
      | approve => rfl
      | reject => exact absurd (rejects rfl) notRejected
  · intro approved
    obtain ⟨rfl, enough⟩ := completes approved
    have counted : (approval.decided request.actor .approve status).approvals =
        approval.approvals + 1 := by
      simp [SoarApproval.approvals, SoarApproval.decided]
    rw [counted]
    exact enough
  · intro earlier member
    rcases List.mem_append.mp member with old | new
    · obtain ⟨move, before, ⟨taken⟩⟩ := sound.taken earlier old
      obtain ⟨asked, input, act, actor, eligible⟩ := taken
      exact ⟨move, List.mem_append_left _ before, asked, input, act, actor, eligible.inTime,
        eligible.active, eligible.permitted, eligible.assignee, eligible.separated⟩
    · rw [List.mem_singleton.mp new]
      exact ⟨_, List.mem_append_right _ (List.mem_singleton.mpr rfl), request, rfl, operation, rfl,
        accepted.inTime, ⟨account, known, active⟩, permitted, assignee, separated⟩

end Invariant

/-! ## Every event -/

section Events

variable {env} {execution : SoarExecution} {context : RunContext}

variable {past : List (Transition (Database ρ) (Event ρ))} {key : Nat}

/-- A run of the engine keeps what holds of the approvals. -/
theorem runExecution_sound (work : Work ρ) (attempts : work.execution.FirstAttempts)
    (sound : Sound past key work.execution) :
    Sound past key (runExecution env context work).work.execution := by
  have grows : Grows work.execution (runExecution env context work).work.execution :=
    runExecution_grows work attempts
  obtain ⟨added, shape, fresh⟩ := grows.approvals
  intro position approval found
  rw [shape, List.getElem?_append] at found
  split at found
  · exact sound position approval found
  · obtain ⟨pending, undecided⟩ := fresh approval (List.mem_of_getElem? found)
    refine ⟨?_, ?_, ?_, ?_⟩
    · simp [undecided]
    · simp [undecided]
    · simp [pending]
    · simp [undecided]

theorem runCompensation_approvals (work : Work ρ) {position : Nat} {record : SoarRollbackRecord}
    {action : ActionDefinition} {source : SoarStepExecution} :
    (runCompensation env context work position record action source).work.execution.approvals =
      work.execution.approvals := by
  have ends := runCompensation_effect env context work position record action source
  generalize (runCompensation env context work position record action source).work = result
    at ends ⊢
  cases ends with
  | raised => rfl
  | violated => rfl
  | finished => rfl

/-- **A command keeps the approvals of its execution sound.** -/
theorem CommandEffect.sound {request : Request} {account : UserAccount}
    {db after : Database ρ} {command : Command} {reply : ServiceReply ρ}
    (effect : CommandEffect env (request.context account key) account
      ⟨execution, db.store⟩ command reply)
    (known : db.store.directory.users.get? request.actor = some account)
    (operation : request.operation = .act key command)
    (consistent : Consistent env execution) (sound : Sound past key execution) :
    Sound (past ++ [⟨db, .request request, after⟩]) key reply.work.execution := by
  have kept : Sound (past ++ [⟨db, .request request, after⟩]) key execution :=
    sound.later _
  cases effect with
  | refused => exact kept
  | resume =>
    exact runExecution_sound ⟨execution, db.store⟩ consistent.attempts kept
  | closeApproval found isOpen closed unapproved decides =>
    rename_i position approval status failure
    refine kept.modify position (fun approval => { approval with status := status }) ?_
    intro stored there
    have same : stored = approval := Option.some.inj (there.symm.trans found)
    subst same
    exact (kept position stored there).close isOpen unapproved
  | reject accepted =>
    rename_i position approval
    refine Sound.of_approvals (kept.modify position
      (fun _ => approval.decided request.actor .reject .rejected) ?_) rfl
    intro stored _
    exact (sound position approval accepted.found).decided accepted known operation
      (fun _ => rfl) (fun wrong => by cases wrong)
  | approvePartly accepted missing =>
    rename_i position approval
    refine kept.modify position (fun _ =>
      approval.decided request.actor .approve .partiallyApproved) ?_
    intro stored _
    exact (sound position approval accepted.found).decided accepted known operation
      (fun wrong => by cases wrong) (fun wrong => by cases wrong)
  | approve accepted enough completed =>
    rename_i position approval prepared
    have same := (stored_same accepted.found .approve .approved).trans
      (completeApproval_same completed)
    obtain ⟨record, next, -, rfl⟩ := completeApproval_ok env completed
    refine runExecution_sound _ (consistent.of_same same).attempts ?_
    refine Sound.of_approvals (kept.modify position
      (fun _ => approval.decided request.actor .approve .approved) ?_) rfl
    intro stored _
    exact (sound position approval accepted.found).decided accepted known operation
      (fun wrong => by cases wrong) (fun _ => ⟨rfl, enough⟩)
  | closeInput found isPending closed => exact kept.of_approvals rfl
  | answer answerable accepted =>
    have same := acceptResponse_same accepted
    obtain ⟨stored, output, next, rfl⟩ := acceptResponse_ok env accepted
    exact runExecution_sound _ (consistent.of_same same).attempts (kept.of_approvals (by simp))
  | cancel running => exact kept.cancel
  | retry failed found =>
    exact runExecution_sound _ (consistent.of_same ⟨rfl, rfl, rfl, rfl⟩).attempts
      (kept.of_approvals rfl)
  | requestRollback ended made => exact kept.of_approvals rfl
  | grantRollback found waiting => exact kept.of_approvals rfl
  | closeRollback closed => exact kept.of_approvals rfl
  | compensate found granted compensation ofStep =>
    exact kept.of_approvals (runCompensation_approvals ⟨execution, db.store⟩)

theorem resumeDelayed_sound (work : Work ρ) (consistent : Consistent env work.execution)
    (sound : Sound past key work.execution) :
    Sound past key (resumeDelayed env context work).work.execution := by
  rcases resumeDelayed_effect env context work with
    same | ⟨failure, refused⟩ | ⟨record, position, execution, -, -, -, finished, ran⟩
  · rw [same]
    exact sound
  · rw [refused]
    exact sound
  · rw [ran]
    have same := finishDelay_same finished
    obtain ⟨output, next, rfl⟩ := finishDelay_ok env finished
    exact runExecution_sound _ (consistent.of_same same).attempts (sound.of_approvals rfl)

/-- **An event keeps the approvals sound.** -/
theorem sound_preserved (past : List (Transition (Database ρ) (Event ρ)))
    (db : Database ρ) (event : Event ρ) :
    Preserves env db event (WithConsistency env (Sound past))
      (Sound (past ++ [⟨db, event, stepDatabase env db event⟩]))
      fun _ => True := by
  constructor
  · exact fun key execution _ holds => holds.2.later _
  · intro request account playbookId playbook payload proposed created _ _ made
    obtain ⟨-, approvals, -⟩ := newExecution_ok env made
    have sound : Sound (past ++ [⟨db, event, stepDatabase env db event⟩])
        db.executions.nextKey created := by
      intro position approval found
      rw [approvals] at found
      cases found
    exact ⟨sound, runExecution_sound ⟨created, db.store⟩
      (newExecution_consistent made).attempts sound, fun _ _ => trivial⟩
  · rintro request account key command execution rfl operation known stored ⟨consistent, sound⟩
    have effect : CommandEffect env (request.context account key) account
        ⟨execution, db.store⟩ command _ := command.call_effect env
    exact ⟨effect.sound known operation consistent sound, fun _ _ => trivial⟩
  · rintro request account store key execution batchSize - - stored - ⟨consistent, sound⟩
    exact ⟨(resumeDelayed_sound ⟨execution, store⟩ consistent sound).later _,
      fun _ _ => trivial⟩
  · exact fun _ _ _ _ _ _ _ _ sound => sound.of_approvals rfl

theorem ActionDefinition.approvalType_isSome_iff (action : ActionDefinition) :
    action.approvalType.isSome ↔
      action.safetyClassification = .sensitiveLocal ∨ action.simulationOnly = true := by
  unfold ActionDefinition.approvalType
  split
  · rename_i sensitive
    simp [sensitive]
  · rename_i ordinary
    split
    · rename_i simulated
      simp [simulated]
    · rename_i real
      simp [ordinary, real]

/-- **Approved means a quorum of eligible users, and sensitive or simulated actions
run only when approved.** In every state a run reaches, the decisions of an
approved approval are approvals of enough distinct users, none rejects, and each
was taken in a transition of the run by a user who was eligible then; and
whenever the engine calls the dispatcher for a sensitive or a simulated action,
the latest approval of that step record is approved. -/
theorem approvals_quorate (store : Store ρ) (playbooks : Table SoarPlaybook)
    (events : List (Event ρ)) :
    (AllRows (final (stepDatabase env) (.initial store playbooks) events).executions
      fun key execution => ∀ position approval,
        execution.approvals[position]? = some approval → approval.status = .approved →
        Quorum (trace (stepDatabase env) (.initial store playbooks) events) key position
          approval) ∧
      ∀ move ∈ trace (stepDatabase env) (.initial store playbooks) events,
        ∀ call ∈ (perform env move.before move.input).calls,
          call.compensation = false →
          (call.action.safetyClassification = .sensitiveLocal ∨
            call.action.simulationOnly = true) →
          ∃ approval place, call.work.execution.latestApproval? call.step =
            some (approval, place) ∧ approval.status = .approved := by
  obtain ⟨sound, -⟩ := history_of_run env Sound sound_preserved
    (allRows_initial store playbooks _) events
  refine ⟨?_, ?_⟩
  · intro key execution found position approval stored approved
    exact (sound key execution found position approval stored).quorum approved
  · intro move member call made forward classified
    rcases calls_of_run env store playbooks events move member call made with
      compensates | ⟨context, origin, -, dispatched⟩
    · rw [compensates] at forward
      cases forward
    · obtain ⟨key, step, record, -, ready⟩ := dispatched.ready
      exact ready.approved (call.action.approvalType_isSome_iff.mpr classified)

end Events

end ThreatScope.Soar
