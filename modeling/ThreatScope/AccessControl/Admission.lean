import ThreatScope.AccessControl.Administrators

/-!
# Who is admitted

A request is admitted for an account with a session. A session is opened by a login,
which asks for the status, or by a second factor, which refuses `disabled` and `locked`
accounts only. A challenge outlives a rejection, so the second factor can open a session
of an account that is rejected or waits for approval, and the admission asks for no more
than the second factor did. In a run in which no second factor is accepted for such an
account, every admitted account is active (`onlyActive_admitted`).
-/

set_option autoImplicit false

namespace ThreatScope.AccessControl

open Library

/-- An account that was rejected or waits for approval. -/
def AccountStatus.undecided (status : AccountStatus) : Bool :=
  status == .pendingApproval || status == .rejected

/-- The account exists, and is neither rejected nor waiting for approval. -/
def Decided (users : Table UserAccount) (user : Nat) : Prop :=
  ∃ account, users.get? user = some account ∧ account.status.undecided = false

/-- A live challenge of an account that was rejected or waits for approval is presented
with a factor that is accepted. -/
def AccessRequest.completesUndecided (env : AccountPlatform) {ρ : Type}
    (request : AccessRequest ρ) (state : AccessState) : Bool :=
  match request.call with
  | .verifyMfaLogin challenge code recovery _ =>
    match getChallenge env.toMfaPlatform state.mfa request.now challenge with
    | none => false
    | some (_, row) =>
      ((state.users.get? row.userId).any fun account => account.status.undecided) &&
        (verifyUserFactor env.toMfaPlatform state.mfa request.now row.userId code
          recovery).2.toOption.join.isSome
  | _ => false

/-- An account that has to change its password cannot be admitted, and every account
with a session was decided on. -/
structure Admitting (state : AccessState) : Prop where
  waits : ∀ key account, state.users.get? key = some account →
    account.status = .pendingPasswordChange → account.mustChangePassword = true
  sessions : ∀ user, state.HasSession user → Decided state.users user

/-! ## The accounts -/

section Accounts

variable {others ended : Prop} {old new : UserAccount}

theorem AccountEffect.waits (effect : AccountEffect others ended old new)
    (before : old.status = .pendingPasswordChange → old.mustChangePassword = true) :
    new.status = .pendingPasswordChange → new.mustChangePassword = true := by
  intro waiting
  cases effect with
  | keeps status _ waits =>
    rw [waits]
    exact before (status.symm.trans waiting)
  | locks status _ => simp [status] at waiting
  | unlocks _ status _ => simp [status] at waiting
  | disables _ status => simp [status] at waiting
  | rejects _ status _ => simp [status] at waiting
  | reopens _ status => simp [status] at waiting
  | approves _ status => simp [status] at waiting
  | readmits status _ =>
    rcases status with active | ⟨-, waits⟩
    · simp [active] at waiting
    · exact waits
  | holds status barred _ =>
    rw [status] at waiting
    rcases barred with other | other | other <;> simp [other] at waiting
  | assigns _ status waits =>
    rw [waits]
    exact before (status.symm.trans waiting)

/-- An account that was decided on stays so, unless it is rejected and its sessions end. -/
theorem AccountEffect.decided (effect : AccountEffect others ended old new)
    (before : old.status.undecided = false) : new.status.undecided = false ∨ ended := by
  cases effect with
  | keeps status _ _ => exact .inl (by rwa [status])
  | locks status _ => exact .inl (by rw [status]; rfl)
  | unlocks _ status _ => exact .inl (by rw [status]; rfl)
  | disables _ status => exact .inl (by rw [status]; rfl)
  | rejects _ _ ends => exact .inr ends
  | reopens rejected _ => simp [rejected, AccountStatus.undecided] at before
  | approves _ status => exact .inl (by rw [status]; rfl)
  | readmits status _ =>
    rcases status with active | ⟨waits, -⟩
    · exact .inl (by rw [active]; rfl)
    · exact .inl (by rw [waits]; rfl)
  | holds status _ _ => exact .inl (by rwa [status])
  | assigns _ status _ => exact .inl (by rwa [status])

end Accounts

section Effects

variable {ended : Nat → Prop} {users written : Table UserAccount}

theorem AccountEffect.of_harmless {ended : Prop} {old new : UserAccount}
    (effect : AccountEffect False False old new) : AccountEffect False ended old new := by
  cases effect with
  | keeps status admin waits => exact .keeps status admin waits
  | locks status admin => exact .locks status admin
  | unlocks locked status admin => exact .unlocks locked status admin
  | disables guarded status => exact .disables guarded status
  | rejects _ _ ends => exact ends.elim
  | reopens rejected status => exact .reopens rejected status
  | approves undecided status => exact .approves undecided status
  | readmits status admin => exact .readmits status admin
  | holds status barred admin => exact .holds status barred admin
  | assigns guarded status waits => exact .assigns guarded status waits

theorem exists_of_rel {relation : UserAccount → UserAccount → Prop} {reading : Option UserAccount}
    {old : UserAccount} (related : Option.Rel relation (some old) reading) :
    ∃ new, reading = some new ∧ relation old new := by
  cases related with
  | some related => exact ⟨_, rfl, related⟩

theorem UsersEffect.row (effect : UsersEffect ended users written) {key : Nat}
    {old : UserAccount} (stored : users.get? key = some old) :
    ∃ new others, written.get? key = some new ∧ AccountEffect others (ended key) old new := by
  cases effect with
  | harmless rows =>
    have row := rows key
    rw [stored] at row
    obtain ⟨new, left, effect⟩ := exists_of_rel row
    exact ⟨new, False, left, effect.of_harmless⟩
  | changes target apart row =>
    by_cases here : key = target
    · subst here
      rw [stored] at row
      obtain ⟨new, left, effect⟩ := exists_of_rel row
      exact ⟨new, _, left, effect⟩
    · exact ⟨old, False, (apart key here).trans stored, .refl old⟩
  | adds added same _ =>
    refine ⟨old, False, ?_, .refl old⟩
    rw [same, Table.get?_insert_of_ne, stored]
    exact Nat.ne_of_lt (Table.lt_nextKey_of_get? stored)

theorem UsersEffect.newRow (effect : UsersEffect ended users written) {key : Nat}
    {new : UserAccount} (missing : users.get? key = none) (left : written.get? key = some new) :
    new.status = .pendingPasswordChange → new.mustChangePassword = true := by
  cases effect with
  | harmless rows =>
    have row := rows key
    rw [missing, left] at row
    cases row
  | changes target apart row =>
    by_cases here : key = target
    · subst here
      rw [missing, left] at row
      cases row
    · rw [apart key here, missing] at left
      cases left
  | adds added same waits =>
    rw [same, Table.get?_insert] at left
    split at left
    · cases left
      exact waits
    · rw [missing] at left
      cases left

theorem UsersEffect.decided (effect : UsersEffect ended users written) {user : Nat}
    (decided : Decided users user) : Decided written user ∨ ended user := by
  obtain ⟨old, stored, before⟩ := decided
  obtain ⟨new, others, left, row⟩ := effect.row stored
  rcases row.decided before with after | ends
  · exact .inl ⟨new, left, after⟩
  · exact .inr ends

end Effects

/-! ## The sessions -/

section Sessions

variable {env : AccountPlatform} {config : AccessConfig} {state written : AccessState}
  {sessions : Table AuthSession} {now : Instant}

/-- A call opens no session, except of an account that was decided on. -/
def OpensDecided (state written : AccessState) : Prop :=
  ∀ user, written.HasSession user → state.HasSession user ∨ Decided written.users user

theorem OpensDecided.of_shrinks (shrinks : Shrinks state.sessions written.sessions) :
    OpensDecided state written := by
  rintro user ⟨key, session, stored, unrevoked, rfl⟩
  obtain ⟨old, before, open_, owner⟩ := shrinks key session stored unrevoked
  exact .inl ⟨key, old, before, open_, owner⟩

theorem OpensDecided.of_same (same : written.sessions = state.sessions) :
    OpensDecided state written := by
  apply OpensDecided.of_shrinks
  rw [same]
  exact .refl _

theorem OpensDecided.create {config : SessionConfig} {env : Platform} {key : Nat}
    {token csrf : String} {verified : Bool}
    (made : createSession env config state.sessions now key token csrf verified =
      some sessions) (same : written.sessions = sessions) (decided : Decided written.users key) :
    OpensDecided state written := by
  rintro user ⟨place, session, stored, unrevoked, owner⟩
  unfold createSession at made
  split at made
  · cases made
  cases made
  rw [same, Table.get?_insert] at stored
  split at stored
  · cases stored
    exact .inr (owner ▸ decided)
  · exact .inl ⟨place, session, stored, unrevoked, owner⟩

theorem loginRoute_opens (state : AccessState) (request : LoginRequest) (draws : LoginDraws) :
    OpensDecided state (loginRoute env config state request draws) := by
  unfold loginRoute
  split
  · exact .of_same rfl
  split
  · exact .of_same rfl
  simp only
  split
  · exact .of_same rfl
  rename_i login key _ user stored
  split
  · exact .of_same rfl
  rename_i decided
  split
  · exact .of_same rfl
  split
  · rename_i sessions made
    refine .create made rfl ⟨user, stored, ?_⟩
    simpa [AccountStatus.undecided] using decided
  · exact .of_same rfl

theorem accepted_of_verifyMfaLogin {env : MfaPlatform} {mfa : MfaState}
    {challenge code : String} {recovery : Bool} {factor : Factor}
    (accepted : (verifyMfaLogin env mfa now challenge code recovery).accepted = some factor) :
    ∃ place row account, getChallenge env mfa now challenge = some (place, row) ∧
      (verifyMfaLogin env mfa now challenge code recovery).user = row.userId ∧
      mfa.users.get? row.userId = some account ∧
      (verifyUserFactor env mfa now row.userId code recovery).2 = .ok (some factor) := by
  unfold verifyMfaLogin at accepted ⊢
  split at accepted
  · cases accepted
  rename_i place row live
  split at accepted
  · cases accepted
  rename_i account stored
  split at accepted
  · cases accepted
  rename_i allowed
  rw [if_neg allowed]
  revert accepted
  cases factored : verifyUserFactor env mfa now row.userId code recovery with
  | mk after answer =>
    obtain _ | _ | accepts := answer
    · rintro ⟨⟩
    · rintro ⟨⟩
    · intro same
      cases same
      exact ⟨place, row, account, live, rfl, stored, by rw [factored]⟩

theorem verifyMfaLoginRoute_opens {ρ : Type} (state : AccessState) (now : Instant)
    (challenge code : String) (recovery : Bool) (draws : LoginDraws)
    (decided : AccessRequest.completesUndecided env
      (⟨now, .verifyMfaLogin challenge code recovery draws⟩ : AccessRequest ρ) state = false) :
    OpensDecided state
      (verifyMfaLoginRoute env config state now challenge code recovery draws) := by
  unfold verifyMfaLoginRoute
  simp only
  split
  · exact .of_same rfl
  rename_i factor accepted
  split
  · rename_i sessions made
    obtain ⟨place, row, account, live, owner, stored, factored⟩ :=
      accepted_of_verifyMfaLogin accepted
    refine .create made rfl ?_
    have kept := verifyMfaLogin_users env.toMfaPlatform state.mfa now challenge code recovery
    refine ⟨account, ?_, ?_⟩
    · rw [users_withSessions, users_withMfa, kept, owner]
      exact stored
    · have stored' : state.users.get? row.userId = some account := stored
      simpa [AccessRequest.completesUndecided, live, stored', factored, Except.toOption]
        using decided
  · exact .of_same rfl

theorem mfaRoute_opens (state : AccessState) (now : Instant) (call : MfaCall) (current : Nat)
    (csrf : String) :
    OpensDecided state (mfaRoute env state now call current csrf) := by
  unfold mfaRoute
  simp only
  split
  · exact .of_shrinks (rotateCsrf_shrinks _ _ _ _)
  · exact .of_shrinks ((revokeUserSessions_shrinks _ _ _ _ _).trans (rotateCsrf_shrinks _ _ _ _))
  · exact .of_shrinks (revokeUserSessions_shrinks _ _ _ _ _)
  · exact .of_same rfl

theorem setPassword_shrinks {key : Nat} {user : UserAccount} {password salt reason : String}
    {mustChange : Bool} {current : Option Nat}
    (sets : setPassword env state now key user password salt mustChange reason current =
      .ok written) : Shrinks state.sessions written.sessions := by
  simp only [setPassword, bind_eq_ok_iff, pure_eq_ok_iff] at sets
  obtain ⟨passwordHash, -, rfl⟩ := sets
  exact revokeUserSessions_shrinks _ _ _ _ _

theorem changePassword_opens (state : AccessState) (now : Instant) (current : Nat)
    (currentPassword newPassword salt csrf : String) :
    OpensDecided state
      (changePassword env state now current currentPassword newPassword salt csrf) := by
  unfold changePassword
  split
  · exact .of_same rfl
  split
  · exact .of_same rfl
  split
  · split
    · rename_i sets
      exact .of_shrinks ((setPassword_shrinks sets).trans (rotateCsrf_shrinks _ _ _ _))
    · exact .of_same rfl
  · exact .of_same rfl

end Sessions

section Playbooks

open Soar

variable {ρ : Type} {soar : SoarPlatform ρ} {store : Store ρ} {context : DispatchContext}

/-- A playbook keeps the sessions it finds revoked. -/
def KeepsRevoked (sessions written : Table Soar.AuthSession) : Prop :=
  ∀ key old new, sessions.get? key = some old → written.get? key = some new →
    new.revokedAt = none → old.revokedAt = none

theorem KeepsRevoked.refl (sessions : Table Soar.AuthSession) : KeepsRevoked sessions sessions := by
  intro key old new stored left unrevoked
  rw [stored] at left
  cases left
  exact unrevoked

theorem keepsRevoked_revokeSessions (store : Store ρ) (user : Nat) (now : Instant)
    (reason : String) :
    KeepsRevoked store.sessions (revokeSessions store user now reason).sessions := by
  intro key old new stored left unrevoked
  simp only [revokeSessions, Table.get?_update, stored, Option.map_some, Option.some.injEq] at left
  subst left
  split at unrevoked
  · cases unrevoked
  · exact unrevoked

theorem sensitiveAction_keepsRevoked {key : ActionKey} {result : LocalOutcome ρ}
    (acts : sensitiveAction soar key store context = .ok result) :
    KeepsRevoked store.sessions result.store.sessions := by
  unfold sensitiveAction at acts
  split at acts
  · cases acts
  rw [bind_eq_ok_iff] at acts
  obtain ⟨user, -, acts⟩ := acts
  split at acts
  · simp only [revokeSelectedSession, bind_eq_ok_iff] at acts
    obtain ⟨_, -, ⟨target, session⟩, -, acts⟩ := acts
    split at acts
    · cases acts
    cases acts
    intro key old new stored left unrevoked
    simp only [Table.get?_modify, stored, Option.map_some] at left
    split at left
    · cases left
      simp at unrevoked
    · cases left
      exact unrevoked
  · simp only [changeUser, bind_eq_ok_iff] at acts
    obtain ⟨⟨target, account⟩, -, acts⟩ := acts
    split at acts
    · split at acts
      · cases acts
      split at acts
      · cases acts
      · cases acts
        exact keepsRevoked_revokeSessions _ _ _ _
    · cases acts
      exact .refl _
    · split at acts
      · cases acts
      · cases acts
        exact keepsRevoked_revokeSessions _ _ _ _

theorem soarDispatch_shrinks (soar : SoarPlatform ρ) (state : AccessState)
    (action : SensitiveAction) (rest : Store ρ) (context : DispatchContext) :
    Shrinks state.sessions (soarDispatch soar state action rest context).sessions := by
  unfold soarDispatch
  split
  · rename_i outcome dispatches
    have keeps : KeepsRevoked (state.store rest).sessions outcome.store.sessions := by
      rcases dispatch_sensitive dispatches with same | ⟨result, acts, same⟩
      · rw [same]
        exact .refl _
      · rw [same]
        exact sensitiveAction_keepsRevoked acts
    refine Shrinks.update fun key row stored unrevoked => ?_
    have read : (state.store rest).sessions.get? key =
        some ⟨row.userId, row.revokedAt, row.revokeReason⟩ := by
      simp [AccessState.store, stored]
    cases left : outcome.store.sessions.get? key with
    | none =>
      simp only [left] at unrevoked
      exact ⟨unrevoked, by simp only⟩
    | some written =>
      simp only [left] at unrevoked
      exact ⟨keeps key _ _ read left unrevoked, by simp only⟩
  · exact .refl _

end Playbooks

/-! ## Any call -/

section Calls

variable {ρ : Type} {env : AccountPlatform} {config : AccessConfig} {state : AccessState}

theorem authorizePlatformRequest_shrinks (env : AccountPlatform) (config : AccessConfig)
    (state : AccessState) (now : Instant) (request : PlatformRequest) :
    Shrinks state.sessions (authorizePlatformRequest env config state now request).1.sessions := by
  have rows := (lookupSession_effect env.toPlatform config.session state.users state.sessions
    now request.cookie true).1
  unfold authorizePlatformRequest
  split
  · rename_i sessions looked
    rw [looked] at rows
    exact rows.shrinks
  · rename_i sessions key looked
    rw [looked] at rows
    exact rows.shrinks

/-- **What a call does to the sessions**, one case for each route. -/
theorem next_opens (soar : Soar.SoarPlatform ρ) (state : AccessState) (request : AccessRequest ρ)
    (decided : request.completesUndecided env state = false) :
    OpensDecided state (state.next env config soar request) := by
  obtain ⟨now, call⟩ := request
  cases call with
  | login login draws => exact loginRoute_opens _ _ _
  | verifyMfaLogin challenge code recovery draws =>
    exact verifyMfaLoginRoute_opens _ _ _ _ _ _ decided
  | mfa call current csrf => exact mfaRoute_opens _ _ _ _ _
  | changePassword current currentPassword newPassword salt csrf =>
    exact changePassword_opens _ _ _ _ _ _ _
  | register payload tokens salt =>
    apply after_cases (OpensDecided.of_same rfl)
    intro written registers
    exact .of_shrinks (registerLocalAccount_effect (fun _ => False) registers).sessions
  | createUser payload salt =>
    apply after_cases (OpensDecided.of_same rfl)
    intro written creates
    exact .of_shrinks (createUser_effect (fun _ => False) creates).sessions
  | approve key keys confirmAdministrator =>
    apply userRoute_cases (OpensDecided.of_same rfl)
    intro user written stored approves
    exact .of_shrinks (approveRegistration_effect (fun _ => False) stored approves).sessions
  | reject key reason =>
    apply userRoute_cases (OpensDecided.of_same rfl)
    intro user written stored rejects
    exact .of_shrinks (rejectRegistration_effect (fun _ => True) stored rejects trivial).sessions
  | reopen key =>
    apply userRoute_cases (OpensDecided.of_same rfl)
    intro user written stored reopens
    exact .of_shrinks (reopenRegistration_effect (fun _ => False) stored reopens).sessions
  | update key payload =>
    apply userRoute_cases (OpensDecided.of_same rfl)
    intro user written stored updates
    exact .of_shrinks (adminUpdateUser_effect (fun _ => False) updates).sessions
  | disable key =>
    apply userRoute_cases (OpensDecided.of_same rfl)
    intro user written stored disables
    exact .of_shrinks (disableUser_effect (fun _ => False) stored disables).sessions
  | enable key =>
    apply userRoute_cases (OpensDecided.of_same rfl)
    intro user written stored enables
    exact .of_shrinks (enableUser_effect (fun _ => False) enables).sessions
  | unlock key =>
    apply userRoute_cases (OpensDecided.of_same rfl)
    intro user written stored unlocks
    exact .of_shrinks (unlockUser_effect (fun _ => False) unlocks).sessions
  | resetPassword key password salt =>
    apply userRoute_cases (OpensDecided.of_same rfl)
    intro user written stored sets
    exact .of_shrinks (setPassword_effect (fun _ => False) sets).sessions
  | setRoles key keys =>
    apply userRoute_cases (OpensDecided.of_same rfl)
    intro user written stored assigns
    exact .of_shrinks (setUserRoles_effect (fun _ => False) stored assigns).sessions
  | roles roles => exact .of_same rfl
  | soar action rest context => exact .of_shrinks (soarDispatch_shrinks _ _ _ _ _)
  | logout cookie csrf =>
    exact .of_shrinks (logout_effect env.toPlatform config.session state.users
      state.sessions now cookie csrf).1.shrinks
  | rotateCsrf session token => exact .of_shrinks (rotateCsrf_shrinks _ _ _ _)
  | revokeSession session reason => exact .of_shrinks (revokeSession_shrinks _ _ _ _)
  | revokeUserSessions user reason exceptSession =>
    exact .of_shrinks (revokeUserSessions_shrinks _ _ _ _ _)
  | authorize request => exact .of_shrinks (authorizePlatformRequest_shrinks _ _ _ _ _)

/-- **A call that completes no login of an undecided account keeps the invariant.** -/
theorem Admitting.next (soar : Soar.SoarPlatform ρ) {request : AccessRequest ρ}
    (admitting : Admitting state) (decided : request.completesUndecided env state = false) :
    Admitting (state.next env config soar request) := by
  have users := next_users env config soar state request
  refine ⟨?_, ?_⟩
  · intro key new left
    cases stored : state.users.get? key with
    | none => exact UsersEffect.newRow users stored left
    | some old =>
      obtain ⟨row, others, same, effect⟩ := UsersEffect.row users stored
      obtain rfl := Option.some.inj (left.symm.trans same)
      exact effect.waits (admitting.waits key old stored)
  · intro user has
    rcases next_opens soar state request decided user has with had | decided
    · rcases UsersEffect.decided users (admitting.sessions user had) with decided | ends
      · exact decided
      · exact absurd has ends
    · exact decided

/-- What an admission found: an open session of an account that is not refused and has
not to change its password. -/
theorem authorizePlatformRequest_admits {now : Instant} {request : PlatformRequest} {user : Nat}
    (admits : (authorizePlatformRequest env config state now request).2 = .ok user) :
    state.HasSession user ∧ ∃ account, state.users.get? user = some account ∧
      account.status ≠ .disabled ∧ account.status ≠ .locked ∧
      account.mustChangePassword = false := by
  have effect := lookupSession_effect env.toPlatform config.session state.users state.sessions
    now request.cookie true
  unfold authorizePlatformRequest at admits
  revert admits effect
  generalize lookupSession env.toPlatform config.session state.users state.sessions now
    request.cookie true = looked
  rintro admits ⟨rows, finds⟩
  obtain ⟨sessions, _ | key⟩ := looked
  · cases admits
  obtain ⟨session, stored, unrevoked, -, allowed⟩ := finds key rfl
  have row := rows key
  rw [stored] at row
  simp only at admits row
  cases left : sessions.get? key with
  | none =>
    rw [left] at row
    cases row
  | some new =>
    rw [left] at row admits
    obtain ⟨effect⟩ := row
    simp only [Option.bind_some, effect.userId] at admits
    cases found : state.users.get? session.userId with
    | none => simp [found] at admits
    | some account =>
      simp only [found, Option.map_some] at admits
      split at admits
      · cases admits
      rename_i settled
      split at admits
      · cases admits
      split at admits
      · cases admits
      cases admits
      rw [effect.userId]
      have refused : account.status ≠ .disabled ∧ account.status ≠ .locked := by
        simpa [refusesUser, found] using allowed
      exact ⟨⟨key, session, stored, unrevoked, rfl⟩, account, found, refused.1, refused.2,
        by simpa using settled⟩

theorem Admitting.active {now : Instant} {request : PlatformRequest} {user : Nat}
    (admitting : Admitting state)
    (admits : (authorizePlatformRequest env config state now request).2 = .ok user) :
    ∃ account, state.users.get? user = some account ∧ account.status = .active := by
  obtain ⟨has, account, stored, enabled, unlocked, settled⟩ :=
    authorizePlatformRequest_admits admits
  obtain ⟨same, again, decided⟩ := admitting.sessions user has
  obtain rfl := Option.some.inj (stored.symm.trans again)
  refine ⟨account, stored, ?_⟩
  cases status : account.status with
  | active => rfl
  | pendingApproval => simp [status, AccountStatus.undecided] at decided
  | rejected => simp [status, AccountStatus.undecided] at decided
  | disabled => exact absurd status enabled
  | locked => exact absurd status unlocked
  | pendingPasswordChange =>
    have waits := admitting.waits user account stored status
    simp [settled] at waits

end Calls

/-! ## Runs -/

theorem admitting_initial (permissions : List String) (roles : Table AccessRole) :
    Admitting (AccessState.initial permissions roles) := by
  refine ⟨?_, ?_⟩
  · intro key account stored
    cases stored
  · rintro user ⟨key, session, stored, -, -⟩
    cases stored

/-- Every account a run admits is active at the time. -/
def OnlyActiveAdmitted {ρ : Type} (env : AccountPlatform) (config : AccessConfig)
    (soar : Soar.SoarPlatform ρ) (start : AccessState) (requests : List (AccessRequest ρ)) : Prop :=
  ∀ move ∈ trace (AccessState.next env config soar) start requests, ∀ user,
    move.input.admits env config move.before = some user →
      ∃ account, move.before.users.get? user = some account ∧ account.status = .active

/-- **Only active accounts are admitted**, in a run in which no second factor completes the
login of an account that was rejected or waits for approval. -/
theorem onlyActive_admitted {ρ : Type} (env : AccountPlatform) (config : AccessConfig)
    (soar : Soar.SoarPlatform ρ) (permissions : List String) (roles : Table AccessRole)
    (requests : List (AccessRequest ρ))
    (decided : ∀ move ∈ trace (AccessState.next env config soar)
      (AccessState.initial permissions roles) requests,
        move.input.completesUndecided env move.before = false) :
    OnlyActiveAdmitted env config soar (AccessState.initial permissions roles) requests := by
  intro move member user admits
  have admitting : Admitting move.before := by
    refine (invariant_along_trace (AccessState.next env config soar) Admitting
      (fun move => move.input.completesUndecided env move.before = false)
      ?_ (admitting_initial permissions roles) decided move member).1
    intro state request before allowed
    exact before.next soar allowed
  obtain ⟨before, ⟨now, call⟩, after⟩ := move
  cases call with
  | authorize request =>
    have admitted : (authorizePlatformRequest env config before now request).2 = .ok user := by
      revert admits
      simp only [AccessRequest.admits]
      cases (authorizePlatformRequest env config before now request).2 with
      | error error => rintro ⟨⟩
      | ok other =>
        rintro ⟨⟩
        rfl
    exact admitting.active admitted
  | _ => cases admits

/-! ## A rejected account that is admitted -/

/-- A registration with a second factor: the account is active and enrolled. -/
def enrolledRun : List (AccessRequest Unit) :=
  [⟨0, .register ⟨"al@x.org", some "alice", "Alice", "correct-horse", "correct-horse", true,
      "local-privacy-v1"⟩ [] ""⟩,
    ⟨0, .mfa (.enroll 1 "correct-horse" "Phone" false "secret") 0 ""⟩,
    ⟨0, .mfa (.confirm 1 "000000" none ["0123456789ab"]) 0 ""⟩]

/-- The password of the account, which asks for the second factor. -/
def passwordLogin : AccessRequest Unit :=
  ⟨0, .login ⟨0, none, "alice", "correct-horse"⟩ ⟨"token", "csrf", "challenge"⟩⟩

/-- The code of the next half minute. -/
def codeLogin : AccessRequest Unit :=
  ⟨seconds 30, .verifyMfaLogin "challenge" "111111" false ⟨"token", "csrf", ""⟩⟩

/-- A look at the dashboard. -/
def dashboardView : AccessRequest Unit :=
  ⟨seconds 31, .authorize ⟨some "token", "GET", "", ["dashboard:view"], true⟩⟩

theorem onlyActive_admitted_enrolled :
    OnlyActiveAdmitted plainAccounts localConfig Soar.plainPlatform freshPlatform
      (enrolledRun ++ [passwordLogin, codeLogin, dashboardView]) := by
  apply onlyActive_admitted plainAccounts localConfig Soar.plainPlatform
  decide +kernel

/-- The run up to the admission: the challenge is older than the rejection. -/
def rejectedRun : List (AccessRequest Unit) :=
  enrolledRun ++ [passwordLogin, ⟨seconds 1, .reject 1 "obsolete"⟩, codeLogin]

theorem not_onlyActive_of_last {ρ : Type} {env : AccountPlatform} {config : AccessConfig}
    {soar : Soar.SoarPlatform ρ} {start : AccessState} {requests : List (AccessRequest ρ)}
    {last : AccessRequest ρ} {user : Nat} {status : AccountStatus} (inactive : status ≠ .active)
    (admits : last.admits env config
      (final (AccessState.next env config soar) start requests) = some user)
    (found : ((final (AccessState.next env config soar) start requests).users.get? user).map
      UserAccount.status = some status) :
    ¬ OnlyActiveAdmitted env config soar start (requests ++ [last]) := by
  intro held
  obtain ⟨account, stored, active⟩ := held _ (mem_trace_concat _ start requests last) user admits
  rw [stored, Option.map_some, active] at found
  exact inactive (Option.some.inj found).symm

/-- A challenge that was issued before the account was rejected admits it afterwards. -/
theorem not_onlyActive_admitted :
    ¬ OnlyActiveAdmitted plainAccounts localConfig Soar.plainPlatform freshPlatform
      (rejectedRun ++ [dashboardView]) := by
  have admits : dashboardView.admits plainAccounts localConfig
      (final (AccessState.next plainAccounts localConfig Soar.plainPlatform) freshPlatform
        rejectedRun) = some 1 := by decide +kernel
  have rejected : ((final (AccessState.next plainAccounts localConfig Soar.plainPlatform)
      freshPlatform rejectedRun).users.get? 1).map UserAccount.status = some .rejected := by
    decide +kernel
  exact not_onlyActive_of_last (by decide : AccountStatus.rejected ≠ .active) admits rejected

end ThreatScope.AccessControl
