import ThreatScope.AccessControl.GuessingBound
import ThreatScope.AccessControl.Routes
import ThreatScope.AccessControl.SessionLifetime

/-!
# What a call does to the accounts

A dozen routes write a status, a flag or a role. What each of them can do to one
account is one of the ways of `AccountEffect`, and a call of any route changes the
accounts in one of the three ways of `UsersEffect`: it leaves every account its
rights, it changes one account, or it adds one (`next_users`). The invariants of the
accounts are derived from these two and never from the routes.
-/

set_option autoImplicit false

namespace ThreatScope.AccessControl

open Library

/-- What one call can do to an account. `others` says that another administrator is
active or has to change the password, and `ended` that the call leaves the account no
session. -/
inductive AccountEffect (others ended : Prop) (old new : UserAccount) : Prop where
  | keeps (status : new.status = old.status) (admin : new.isSystemAdmin = old.isSystemAdmin)
      (waits : new.mustChangePassword = old.mustChangePassword)
  | locks (status : new.status = .locked) (admin : new.isSystemAdmin = old.isSystemAdmin)
  | unlocks (locked : old.status = .locked) (status : new.status = .active)
      (admin : new.isSystemAdmin = old.isSystemAdmin)
  | disables (guarded : old.isSystemAdmin = true → others) (status : new.status = .disabled)
  | rejects (guarded : old.isSystemAdmin = true → others) (status : new.status = .rejected)
      (ended : ended)
  | reopens (rejected : old.status = .rejected) (status : new.status = .pendingApproval)
  | approves (undecided : old.status = .pendingApproval ∨ old.status = .rejected)
      (status : new.status = .active)
  | readmits (status : new.status = .active ∨
        new.status = .pendingPasswordChange ∧ new.mustChangePassword = true)
      (admin : new.isSystemAdmin = old.isSystemAdmin)
  | holds (status : new.status = old.status)
      (barred : old.status = .disabled ∨ old.status = .pendingApproval ∨ old.status = .rejected)
      (admin : new.isSystemAdmin = old.isSystemAdmin)
  | assigns (guarded : old.isSystemAdmin = true → new.isSystemAdmin = true ∨ others)
      (status : new.status = old.status)
      (waits : new.mustChangePassword = old.mustChangePassword)

theorem AccountEffect.refl {others ended : Prop} (account : UserAccount) :
    AccountEffect others ended account account := .keeps rfl rfl rfl

/-- Another administrator is active or has to change the password. -/
def AnotherAdmin (users : Table UserAccount) (key : Nat) : Prop :=
  ∃ other account, other ≠ key ∧ users.get? other = some account ∧
    account.isSystemAdmin = true ∧
    (account.status = .active ∨ account.status = .pendingPasswordChange)

/-- What one call does to the accounts. -/
inductive UsersEffect (ended : Nat → Prop) (users written : Table UserAccount) : Prop where
  | harmless (rows : ∀ key, Option.Rel (AccountEffect False False) (users.get? key)
      (written.get? key))
  | changes (target : Nat) (apart : ∀ key, key ≠ target → written.get? key = users.get? key)
      (row : Option.Rel (AccountEffect (AnotherAdmin users target) (ended target))
        (users.get? target) (written.get? target))
  | adds (account : UserAccount) (added : written = users.insert account)
      (waits : account.status = .pendingPasswordChange → account.mustChangePassword = true)

section Tables

variable {ended : Nat → Prop} {users written : Table UserAccount} {key : Nat}

theorem UsersEffect.refl (users : Table UserAccount) : UsersEffect ended users users := by
  apply UsersEffect.harmless
  intro key
  cases users.get? key with
  | none => exact .none
  | some account => exact .some (.refl account)

theorem UsersEffect.of_eq (same : written = users) : UsersEffect ended users written := by
  rw [same]
  exact .refl users

theorem UsersEffect.modify {change : UserAccount → UserAccount}
    (effect : ∀ account, users.get? key = some account →
      AccountEffect (AnotherAdmin users key) (ended key) account (change account)) :
    UsersEffect ended users (users.modify key change) := by
  apply UsersEffect.changes key
  · intro other apart
    exact Table.get?_modify_of_ne users change apart
  · rw [Table.get?_modify_self]
    cases found : users.get? key with
    | none => exact .none
    | some account => exact .some (effect account found)

theorem anotherAdmin_of_ensure {user : UserAccount} {result : Unit}
    (passes : ensureNotLastAdmin users key user = .ok result) (admin : user.isSystemAdmin = true) :
    AnotherAdmin users key := by
  unfold ensureNotLastAdmin at passes
  split at passes
  · cases passes
  rename_i guard
  have counted : 0 < activeAdministratorCount users (some key) := by
    apply Nat.pos_of_ne_zero
    intro zero
    simp [admin, zero] at guard
  obtain ⟨other, account, stored, passes⟩ := (Table.count_pos_iff _ _).mp counted
  simp only [Bool.and_eq_true, Bool.or_eq_true, beq_iff_eq, bne_iff_ne, ne_eq,
    Option.some.injEq] at passes
  obtain ⟨⟨isAdmin, status⟩, apart⟩ := passes
  exact ⟨other, account, fun same => apart same.symm, stored, isAdmin, status⟩

end Tables

/-! ## Logins and second factors -/

section Login

variable {env : Platform} {config : LoginConfig}

theorem AccountEffect.clear {others ended : Prop} (account : UserAccount) :
    AccountEffect others ended account account.clear := by
  by_cases locked : account.status = .locked
  · exact .unlocks locked (if_pos locked) rfl
  · exact .keeps (if_neg locked) rfl rfl

/-- The rights of an account after an attempt: the same, or it is locked. -/
structure Attempted (old new : UserAccount) : Prop where
  status : new.status = old.status ∨ new.status = .locked
  admin : new.isSystemAdmin = old.isSystemAdmin
  waits : new.mustChangePassword = old.mustChangePassword

theorem Attempted.refl (account : UserAccount) : Attempted account account :=
  ⟨.inl rfl, rfl, rfl⟩

theorem Attempted.trans {first second third : UserAccount} (earlier : Attempted first second)
    (later : Attempted second third) : Attempted first third := by
  refine ⟨?_, later.admin.trans earlier.admin, later.waits.trans earlier.waits⟩
  rcases later.status with same | locked
  · rw [same]
    exact earlier.status
  · exact .inr locked

/-- An attempt leaves the rights of every account, or locks it. -/
theorem attemptLogin_users (config : LoginConfig) (state : LoginState) (request : LoginRequest)
    (key? : Option Nat) (normalized : Option String) (key : Nat) :
    Option.Rel Attempted (state.users.get? key)
      ((attemptLogin env config state request key? normalized).1.users.get? key) := by
  have unchanged := Table.rel_self Attempted.refl (state.users.get? key)
  unfold attemptLogin
  simp only
  split
  · exact unchanged
  split
  · exact unchanged
  split
  · exact unchanged
  rename_i target user found
  obtain ⟨rfl, stored⟩ : key? = some target ∧ state.users.get? target = some user := by
    cases key? with
    | none => simp at found
    | some other =>
      simp only [Option.bind_some, Option.map_eq_some_iff, Prod.mk.injEq] at found
      obtain ⟨account, stored, rfl, rfl⟩ := found
      exact ⟨rfl, stored⟩
  split
  · cases user.status.refusesLogin with
    | true => exact unchanged
    | false =>
      apply Table.rel_modify state.users Attempted.refl
      intro account _
      simp only
      split
      · exact ⟨.inr rfl, rfl, rfl⟩
      · exact ⟨.inl rfl, rfl, rfl⟩
  · rename_i accepted
    have unlocked : user.status ≠ .locked := by
      rintro locked
      simp [locked, AccountStatus.refusesLogin] at accepted
    have cleared : Option.Rel Attempted (state.users.get? key)
        ((clearFailures env state target).users.get? key) := by
      simp only [clearFailures, stored]
      apply Table.rel_modify state.users Attempted.refl
      intro account same
      obtain rfl := Option.some.inj (stored.symm.trans same)
      exact ⟨.inl (if_neg unlocked), rfl, rfl⟩
    refine Table.rel_comp ?_ cleared (Table.rel_modify _ Attempted.refl ?_ key)
    · exact fun _ _ _ earlier later => earlier.trans later
    · exact fun _ _ => ⟨.inl rfl, rfl, rfl⟩

theorem lifted_users (state : LoginState) (request : LoginRequest) (key : Nat) :
    Option.Rel (fun old new : UserAccount =>
        new = old ∨ old.status = .locked ∧ new = old.clear)
      (state.users.get? key) ((state.lifted env request).users.get? key) := by
  rcases get?_lifted env state request key with same | ⟨user, stored, expired, cleared⟩
  · rw [same]
    exact Table.rel_self (fun _ => .inl rfl) _
  · rw [stored, cleared]
    simp only [UserAccount.lockExpired, Bool.and_eq_true, beq_iff_eq] at expired
    exact .some (.inr ⟨expired.1, rfl⟩)

theorem authenticatePassword_users (env : Platform) (ended : Nat → Prop) (config : LoginConfig)
    (state : LoginState) (request : LoginRequest) :
    UsersEffect ended state.users
      (authenticatePassword env config state request).1.users := by
  apply UsersEffect.harmless
  intro key
  rw [authenticatePassword_eq]
  refine Table.rel_comp ?_ (lifted_users state request key)
    (attemptLogin_users config (state.lifted env request) request _ _ key)
  rintro old middle new (rfl | ⟨locked, rfl⟩) ⟨status, admin, waits⟩
  · rcases status with same | nowLocked
    · exact .keeps same admin waits
    · exact .locks nowLocked admin
  · rcases status with same | nowLocked
    · exact .unlocks locked (same.trans (if_pos locked)) admin
    · exact .locks nowLocked admin

theorem clearFailures_effect (ended : Nat → Prop) (state : LoginState) (target : Nat) :
    UsersEffect ended state.users (clearFailures env state target).users := by
  unfold clearFailures
  split
  · exact .refl _
  · exact .modify fun account _ => AccountEffect.clear account

end Login

section Mfa

variable (env : MfaPlatform)

theorem verifyUserFactor_users (state : MfaState) (now : Instant) (user : Nat) (value : String)
    (recovery : Bool) :
    (verifyUserFactor env state now user value recovery).1.users = state.users := by
  unfold verifyUserFactor consumeRecoveryCode
  cases recovery with
  | true =>
    simp only [if_true]
    split
    · rfl
    · rfl
  | false =>
    simp only [Bool.false_eq_true, if_false]
    split
    · rfl
    · split
      · rfl
      · rfl
      · rfl

theorem verifyMfaLogin_users (state : MfaState) (now : Instant) (token code : String)
    (recovery : Bool) :
    (verifyMfaLogin env state now token code recovery).state.users = state.users := by
  unfold verifyMfaLogin
  split
  · rfl
  rename_i row _
  split
  · rfl
  split
  · rfl
  have kept := verifyUserFactor_users env state now row.userId code recovery
  revert kept
  generalize verifyUserFactor env state now row.userId code recovery = result
  rintro kept
  obtain ⟨after, _ | _ | _⟩ := result
  · exact kept
  · exact kept
  · exact kept

theorem beginEnrollment_users (state : MfaState) (now : Instant) (user : Nat) (label : String)
    (restart : Bool) (secret : String) :
    (beginEnrollment env state now user label restart secret).1.users = state.users := by
  unfold beginEnrollment cancelEnrollment
  repeat' split
  all_goals rfl

theorem confirmEnrollment_users (state : MfaState) (now : Instant) (user : Nat) (code : String)
    (deviceId : Option Nat) (tokens : List String) :
    (confirmEnrollment env state now user code deviceId tokens).1.users = state.users ∨
      (confirmEnrollment env state now user code deviceId tokens).1.users =
        state.users.modify user fun row => { row with mfaEnabled := true } := by
  unfold confirmEnrollment
  repeat' split
  all_goals first
    | exact .inl rfl
    | exact .inr rfl

/-- A second factor call keeps the rights of every account; the reset asks for a new
password. -/
theorem mfaReply_users (ended : Nat → Prop) (state : MfaState) (request : MfaRequest) :
    UsersEffect ended state.users (mfaReply env state request).state.users := by
  obtain ⟨now, call⟩ := request
  cases call with
  | challenge user token => exact .refl _
  | verifyLogin token code recovery =>
    rw [mfaReply, verifyMfaLogin_users]
    exact .refl _
  | enroll user password label restart secret =>
    have kept := beginEnrollment_users env state now user label restart secret
    simp only [mfaReply, enrollMfa]
    split
    · exact .refl _
    split
    · exact .refl _
    split
    · exact .refl _
    · exact .refl _
    split
    · exact .refl _
    revert kept
    generalize beginEnrollment env state now user label restart secret = result
    rintro kept
    obtain ⟨after, _ | _⟩ := result
    · exact .of_eq kept
    · exact .of_eq kept
  | status user =>
    simp only [mfaReply, mfaStatus, MfaReply.quiet]
    split
    · split
      · exact .refl _
      · exact .refl _
    · exact .refl _
  | confirm user code deviceId tokens =>
    have written := confirmEnrollment_users env state now user code deviceId
      tokens
    simp only [mfaReply, confirmMfa]
    split
    · exact .refl _
    split
    · exact .refl _
    split
    · exact .refl _
    revert written
    generalize confirmEnrollment env state now user code deviceId tokens = result
    rintro written
    have effect : UsersEffect ended state.users result.1.users := by
      rcases written with same | enabled
      · exact .of_eq same
      · rw [enabled]
        exact .modify fun _ _ => .keeps rfl rfl rfl
    obtain ⟨after, _ | ⟨factor, digests⟩⟩ := result
    · exact effect
    · exact effect
  | cancel user => exact .refl _
  | disable user confirmDisable password code recovery =>
    have kept := verifyUserFactor_users env state now user code recovery
    simp only [mfaReply, disableMfa]
    split
    · exact .refl _
    split
    · exact .refl _
    split
    · exact .refl _
    split
    · exact .refl _
    · exact .refl _
    revert kept
    generalize verifyUserFactor env state now user code recovery = result
    rintro kept
    obtain ⟨after, _ | _ | _⟩ := result
    · exact .of_eq kept
    · exact .of_eq kept
    · simp only at kept ⊢
      rw [kept]
      exact .modify fun _ _ => .keeps rfl rfl rfl
  | regenerate user password code recovery tokens =>
    have kept := verifyUserFactor_users env state now user code recovery
    simp only [mfaReply, regenerateRecovery]
    split
    · exact .refl _
    split
    · exact .refl _
    split
    · exact .refl _
    · exact .refl _
    revert kept
    generalize verifyUserFactor env state now user code recovery = result
    rintro kept
    obtain ⟨after, _ | _ | factor⟩ := result
    · exact .of_eq kept
    · exact .of_eq kept
    · simp only
      split
      · exact .of_eq kept
      · exact .of_eq kept
  | reset user =>
    simp only [mfaReply, resetMfa]
    split
    · exact .refl _
    · simp only
      refine .modify fun account _ => ?_
      by_cases disabled : account.status = .disabled
      · exact .holds ((if_pos disabled).trans disabled.symm) (.inl disabled) rfl
      · exact .readmits (.inr ⟨if_neg disabled, rfl⟩) rfl

end Mfa

/-! ## The sessions that stay -/

section Sessions

variable {sessions : Table AuthSession}

/-- Every session that is open was open before, for the same account. -/
def Shrinks (sessions written : Table AuthSession) : Prop :=
  ∀ key new, written.get? key = some new → new.revokedAt = none →
    ∃ old, sessions.get? key = some old ∧ old.revokedAt = none ∧ old.userId = new.userId

theorem Shrinks.refl (sessions : Table AuthSession) : Shrinks sessions sessions :=
  fun _ new stored unrevoked => ⟨new, stored, unrevoked, rfl⟩

theorem Shrinks.trans {first second third : Table AuthSession} (earlier : Shrinks first second)
    (later : Shrinks second third) : Shrinks first third := by
  intro key new stored unrevoked
  obtain ⟨middle, between, unrevoked, sameOwner⟩ := later key new stored unrevoked
  obtain ⟨old, before, unrevoked, owner⟩ := earlier key middle between unrevoked
  exact ⟨old, before, unrevoked, owner.trans sameOwner⟩

theorem RowsEffect.shrinks {config : SessionConfig} {now : Instant} {found : Option Nat}
    {written : Table AuthSession} (rows : RowsEffect config now found sessions written) :
    Shrinks sessions written := by
  intro key new stored unrevoked
  have row := rows key
  rw [stored] at row
  revert row
  cases before : sessions.get? key with
  | none => rintro ⟨⟩
  | some old =>
    rintro ⟨effect⟩
    refine ⟨old, rfl, ?_, effect.userId.symm⟩
    cases revoked : old.revokedAt with
    | none => rfl
    | some time => simpa [unrevoked] using effect.revoked (by rw [revoked]; rfl)

theorem Shrinks.update {change : Nat → AuthSession → AuthSession}
    (kept : ∀ key row, sessions.get? key = some row → (change key row).revokedAt = none →
      row.revokedAt = none ∧ row.userId = (change key row).userId) :
    Shrinks sessions (sessions.update change) := by
  intro key new stored unrevoked
  rw [Table.get?_update, Option.map_eq_some_iff] at stored
  obtain ⟨row, before, rfl⟩ := stored
  exact ⟨row, before, kept key row before unrevoked⟩

theorem Shrinks.modify {target : Nat} {change : AuthSession → AuthSession}
    (kept : ∀ row, (change row).revokedAt = none →
      row.revokedAt = none ∧ row.userId = (change row).userId) :
    Shrinks sessions (sessions.modify target change) := by
  intro key new stored unrevoked
  rw [Table.get?_modify] at stored
  split at stored
  · rw [Option.map_eq_some_iff] at stored
    obtain ⟨row, before, rfl⟩ := stored
    exact ⟨row, before, kept row unrevoked⟩
  · exact ⟨new, stored, unrevoked, rfl⟩

theorem rotateCsrf_shrinks (env : Platform) (sessions : Table AuthSession) (target : Nat)
    (token : String) : Shrinks sessions (rotateCsrf env sessions target token) :=
  .modify fun _ unrevoked => ⟨unrevoked, rfl⟩

theorem revokeSession_shrinks (sessions : Table AuthSession) (now : Instant) (target : Nat)
    (reason : String) : Shrinks sessions (revokeSession sessions now target reason) := by
  refine .modify fun row unrevoked => ?_
  split at unrevoked
  · rename_i revoked
    simp [unrevoked] at revoked
  · cases unrevoked

theorem revokeUserSessions_shrinks (sessions : Table AuthSession) (now : Instant) (user : Nat)
    (reason : String) (exceptSession : Option Nat) :
    Shrinks sessions (revokeUserSessions sessions now user reason exceptSession) := by
  refine .update fun key row _ unrevoked => ?_
  split at unrevoked
  · cases unrevoked
  · rename_i kept
    rw [if_neg kept]
    exact ⟨unrevoked, rfl⟩

end Sessions

/-! ## The routes of an administrator -/

section Services

variable {env : AccountPlatform} {config : AccessConfig} {state written : AccessState}
  {now : Instant} {key : Nat} {user : UserAccount} (ended : Nat → Prop)

@[simp] theorem users_withSessions (state : AccessState) (sessions : Table AuthSession) :
    (state.withSessions sessions).users = state.users := rfl

@[simp] theorem users_withUsers (state : AccessState) (users : Table UserAccount) :
    (state.withUsers users).users = users := rfl

@[simp] theorem users_modifyUser (state : AccessState) (key : Nat)
    (change : UserAccount → UserAccount) :
    (state.modifyUser key change).users = state.users.modify key change := rfl

@[simp] theorem users_withLogin (state : AccessState) (login : LoginState) :
    (state.withLogin login).users = login.users := rfl

@[simp] theorem users_withMfa (state : AccessState) (mfa : MfaState) :
    (state.withMfa mfa).users = mfa.users := rfl

theorem UsersEffect.modifyUser {change : UserAccount → UserAccount}
    (effect : ∀ account, state.users.get? key = some account →
      AccountEffect (AnotherAdmin state.users key) (ended key) account (change account)) :
    UsersEffect ended state.users (state.modifyUser key change).users :=
  .modify effect

theorem assignRoles_users {directory assigned : Directory} {keys : List String}
    (assigns : assignRoles directory key keys = .ok assigned) :
      assigned.users = directory.users := by
  unfold assignRoles at assigns
  simp only at assigns
  split at assigns
  · cases assigns
  · cases assigns
    rfl

/-- What a service that opens no session leaves. -/
structure ServiceEffect (ended : Nat → Prop) (state written : AccessState) : Prop where
  users : UsersEffect ended state.users written.users
  sessions : Shrinks state.sessions written.sessions

theorem createUser_effect {payload : UserCreate} {salt : String}
    (creates : createUser env state payload salt = .ok written) :
    ServiceEffect ended state written := by
  simp only [createUser, bind_eq_ok_iff] at creates
  obtain ⟨username, -, email, -, creates⟩ := creates
  split at creates
  · cases creates
  split at creates
  · cases creates
  simp only [bind_eq_ok_iff, pure_eq_ok_iff] at creates
  obtain ⟨displayName, -, passwordHash, -, directory, assigns, rfl⟩ := creates
  refine ⟨.adds _ (assignRoles_users assigns) ?_, .refl _⟩
  intro waits
  cases must : payload.mustChangePassword with
  | true => rfl
  | false => simp [must] at waits

theorem registeredAccount_plain {users : Table UserAccount} {payload : RegistrationRequest}
    {email : String} {tokens : List String} {salt : String} {account : UserAccount}
    (made : registeredAccount env config users payload email tokens salt = .ok account) :
    account.isSystemAdmin = false ∧ account.status ≠ .pendingPasswordChange := by
  simp only [registeredAccount] at made
  split at made
  · cases made
  split at made
  · cases made
  split at made
  · cases made
  simp only [bind_eq_ok_iff] at made
  obtain ⟨username, -, usernameNormalized, -, displayName, -, made⟩ := made
  split at made
  · cases made
  simp only [bind_eq_ok_iff, pure_eq_ok_iff] at made
  obtain ⟨passwordHash, -, rfl⟩ := made
  refine ⟨rfl, ?_⟩
  split
  · simp
  · simp

theorem registerLocalAccount_effect {payload : RegistrationRequest} {tokens : List String}
    {salt : String}
    (registers : registerLocalAccount env config state payload tokens salt = .ok written) :
    ServiceEffect ended state written := by
  unfold registerLocalAccount at registers
  split at registers
  · cases registers
  split at registers
  · cases registers
  · cases registers
  split at registers
  · cases registers
  rename_i made
  cases registers
  simp only [bind_eq_ok_iff, pure_eq_ok_iff] at made
  obtain ⟨account, registered, directory, assigns, rfl⟩ := made
  refine ⟨.adds account (assignRoles_users assigns) ?_, .refl _⟩
  intro waits
  exact absurd waits (registeredAccount_plain registered).2

theorem approveRegistration_effect {keys : List String} {confirmAdministrator : Bool}
    (stored : state.users.get? key = some user)
    (approves : approveRegistration state key user keys confirmAdministrator = .ok written) :
    ServiceEffect ended state written := by
  unfold approveRegistration at approves
  generalize (if keys.isEmpty then ["registered_user"] else keys).dedup = unique at approves
  simp only at approves
  split at approves
  · cases approves
  rename_i undecided
  split at approves
  · cases approves
  split at approves
  · cases approves
  simp only [bind_eq_ok_iff, pure_eq_ok_iff] at approves
  obtain ⟨directory, assigns, rfl⟩ := approves
  have same : directory.users = state.users := assignRoles_users assigns
  have effect : UsersEffect ended state.users (state.users.modify key fun row =>
      { row with
        status := .active
        isSystemAdmin := unique.contains "administrator" }) := by
    refine .modify fun account found => ?_
    obtain rfl := Option.some.inj (stored.symm.trans found)
    refine .approves ?_ rfl
    by_cases pending : user.status = .pendingApproval
    · exact .inl pending
    · exact .inr (Classical.not_not.mp fun unrejected => undecided ⟨pending, unrejected⟩)
  refine ⟨?_, .refl _⟩
  rw [users_modifyUser]
  simpa only [AccessState.users, same] using effect

theorem rejectRegistration_effect {reason : String} (stored : state.users.get? key = some user)
    (rejects : rejectRegistration state now key user reason = .ok written)
    (ends : ended key) : ServiceEffect ended state written := by
  simp only [rejectRegistration] at rejects
  split at rejects
  · cases rejects
  split at rejects
  · cases rejects
  simp only [bind_eq_ok_iff, pure_eq_ok_iff] at rejects
  obtain ⟨_, passes, rfl⟩ := rejects
  refine ⟨UsersEffect.modifyUser ended fun account found => ?_,
    revokeUserSessions_shrinks _ _ _ _ _⟩
  obtain rfl := Option.some.inj (stored.symm.trans found)
  exact .rejects (anotherAdmin_of_ensure passes) rfl ends

theorem reopenRegistration_effect (stored : state.users.get? key = some user)
    (reopens : reopenRegistration state key user = .ok written) :
    ServiceEffect ended state written := by
  unfold reopenRegistration at reopens
  split at reopens
  · cases reopens
  rename_i rejected
  cases reopens
  refine ⟨UsersEffect.modifyUser ended fun account found => ?_, .refl _⟩
  obtain rfl := Option.some.inj (stored.symm.trans found)
  exact .reopens (Classical.not_not.mp rejected) rfl

theorem adminUpdateUser_effect {payload : UserUpdate}
    (updates : adminUpdateUser env state key user payload = .ok written) :
    ServiceEffect ended state written := by
  simp only [adminUpdateUser, bind_eq_ok_iff] at updates
  obtain ⟨displayName, -, email, -, updates⟩ := updates
  split at updates
  · cases updates
  rw [pure_eq_ok_iff] at updates
  subst updates
  refine ⟨UsersEffect.modifyUser ended fun account _ => ?_, .refl _⟩
  cases payload.mustChangePassword with
  | none => exact .keeps rfl rfl rfl
  | some must =>
    cases must with
    | true => exact .readmits (.inr ⟨rfl, rfl⟩) rfl
    | false => exact .readmits (.inl rfl) rfl

theorem disableUser_effect (stored : state.users.get? key = some user)
    (disables : disableUser state now key user = .ok written) :
    ServiceEffect ended state written := by
  simp only [disableUser, bind_eq_ok_iff, pure_eq_ok_iff] at disables
  obtain ⟨_, passes, rfl⟩ := disables
  refine ⟨UsersEffect.modifyUser ended fun account found => ?_,
    revokeUserSessions_shrinks _ _ _ _ _⟩
  obtain rfl := Option.some.inj (stored.symm.trans found)
  exact .disables (anotherAdmin_of_ensure passes) rfl

theorem enableUser_effect (enables : enableUser state key user = .ok written) :
    ServiceEffect ended state written := by
  cases enables
  refine ⟨UsersEffect.modifyUser ended fun account _ => ?_, .refl _⟩
  cases must : account.mustChangePassword with
  | true => exact .readmits (.inr ⟨rfl, rfl⟩) rfl
  | false => exact .readmits (.inl rfl) rfl

theorem unlockUser_effect (unlocks : unlockUser env state key user = .ok written) :
    ServiceEffect ended state written := by
  cases unlocks
  exact ⟨clearFailures_effect ended state.login key, .refl _⟩

theorem setPassword_effect {password salt reason : String} {mustChange : Bool}
    {current : Option Nat}
    (sets : setPassword env state now key user password salt mustChange reason current =
      .ok written) : ServiceEffect ended state written := by
  simp only [setPassword, bind_eq_ok_iff, pure_eq_ok_iff] at sets
  obtain ⟨passwordHash, -, rfl⟩ := sets
  refine ⟨UsersEffect.modifyUser ended fun account _ => ?_, revokeUserSessions_shrinks _ _ _ _ _⟩
  have readmitted (status : AccountStatus)
      (changed : status = if mustChange then .pendingPasswordChange else .active) :
      AccountEffect (AnotherAdmin state.users key) (ended key) account
        { account with
          passwordHash := passwordHash
          mustChangePassword := mustChange
          status := status } := by
    refine .readmits ?_ rfl
    cases mustChange with
    | true => exact .inr ⟨changed, rfl⟩
    | false => exact .inl changed
  cases status : account.status with
  | disabled => exact .holds (by rw [status]; rfl) (.inl status) rfl
  | pendingApproval => exact .holds (by rw [status]; rfl) (.inr (.inl status)) rfl
  | rejected => exact .holds (by rw [status]; rfl) (.inr (.inr status)) rfl
  | active => exact readmitted _ rfl
  | locked => exact readmitted _ rfl
  | pendingPasswordChange => exact readmitted _ rfl

theorem setUserRoles_effect {keys : List String} (stored : state.users.get? key = some user)
    (assigns : setUserRoles state now key user keys = .ok written) :
    ServiceEffect ended state written := by
  simp only [setUserRoles, bind_eq_ok_iff, pure_eq_ok_iff] at assigns
  obtain ⟨_, passes, directory, roles, rfl⟩ := assigns
  have same : directory.users = state.users := assignRoles_users roles
  have effect : UsersEffect ended state.users (state.users.modify key fun row =>
      { row with isSystemAdmin := keys.contains "administrator" }) := by
    refine .modify fun account found => ?_
    obtain rfl := Option.some.inj (stored.symm.trans found)
    refine .assigns (fun admin => ?_) rfl rfl
    cases becoming : keys.contains "administrator" with
    | true => exact .inl rfl
    | false =>
      simp only [admin, becoming, Bool.not_false, Bool.and_self, if_true] at passes
      exact .inr (anotherAdmin_of_ensure passes admin)
  refine ⟨?_, revokeUserSessions_shrinks _ _ _ _ _⟩
  rw [users_withSessions, users_modifyUser]
  simpa only [AccessState.users, same] using effect

end Services

/-! ## Playbooks -/

section Playbooks

open Soar

variable {ρ : Type} {soar : SoarPlatform ρ} {store : Store ρ} {context : DispatchContext}

theorem dispatch_sensitive {action : SensitiveAction} {outcome : DispatchOutcome ρ}
    (dispatches : dispatch soar action.key.definition store context = .ok outcome) :
    outcome.store = store ∨ ∃ result,
      sensitiveAction soar action.key store context = .ok result ∧
        outcome.store = result.store := by
  have performs {result : LocalOutcome ρ}
      (acts : localAction soar action.key.definition store context = .ok result) :
      sensitiveAction soar action.key store context = .ok result := by
    simp only [localAction, bind_eq_ok_iff] at acts
    obtain ⟨target, -, acts⟩ := acts
    cases action <;> exact acts
  have local_ : action.key.definition.simulationOnly = false ∧
      action.key.definition.safetyClassification ≠ .readOnly := by
    cases action <;> decide
  unfold dispatch at dispatches
  rw [if_neg (by simp [local_.1]), if_neg local_.2] at dispatches
  split at dispatches
  · cases dispatches
    exact .inl rfl
  split at dispatches
  · rename_i result acts
    cases dispatches
    exact .inr ⟨result, performs acts, rfl⟩
  · cases dispatches

/-- The guard of the playbook counts the active administrators, the target among them. -/
theorem anotherAdmin_of_activeAdmins {users : Table UserAccount}
    (several : 1 < users.count fun _ account => account.status == .active && account.isSystemAdmin)
    (key : Nat) : AnotherAdmin users key := by
  obtain ⟨other, account, apart, stored, passes⟩ := Table.exists_ne_of_one_lt_count several key
  simp only [Bool.and_eq_true, beq_iff_eq] at passes
  exact ⟨other, account, apart, stored, passes.2, .inl passes.1⟩

theorem UsersEffect.writeAccount {ended : Nat → Prop} {user : Nat} {status : AccountStatus}
    {disabledAt : Option Instant}
    (effect : ∀ account, store.directory.users.get? user = some account →
      AccountEffect (AnotherAdmin store.directory.users user) (ended user) account
        { account with status := status, disabledAt := disabledAt }) :
    UsersEffect ended store.directory.users
      (writeAccount store user status disabledAt).directory.users :=
  .modify effect

theorem changeUser_users (ended : Nat → Prop) {key : ActionKey}
    {target : Option (Nat × UserAccount)} {result : LocalOutcome ρ}
    (stored : ∀ user account, target = some (user, account) →
      store.directory.users.get? user = some account)
    (changes : changeUser key store context target = .ok result) :
    UsersEffect ended store.directory.users result.store.directory.users := by
  unfold changeUser at changes
  rw [bind_eq_ok_iff] at changes
  obtain ⟨⟨user, account⟩, found, changes⟩ := changes
  have isStored : store.directory.users.get? user = some account := by
    apply stored
    cases target with
    | none => cases found
    | some row =>
      cases found
      rfl
  simp only at changes
  split at changes
  · split at changes
    · cases changes
    split at changes
    · cases changes
    rename_i guard
    cases changes
    refine UsersEffect.writeAccount fun other same => ?_
    obtain rfl := Option.some.inj (isStored.symm.trans same)
    refine .disables (fun admin => ?_) rfl
    apply anotherAdmin_of_activeAdmins
    simpa [admin] using guard
  · cases changes
    exact UsersEffect.writeAccount fun _ _ => .readmits (.inl rfl) rfl
  · split at changes
    · cases changes
    · cases changes
      exact .refl _

theorem sensitiveAction_users (ended : Nat → Prop) {key : ActionKey} {result : LocalOutcome ρ}
    (acts : sensitiveAction soar key store context = .ok result) :
    UsersEffect ended store.directory.users result.store.directory.users := by
  unfold sensitiveAction at acts
  split at acts
  · cases acts
  rw [bind_eq_ok_iff] at acts
  obtain ⟨user, -, acts⟩ := acts
  split at acts
  · simp only [revokeSelectedSession, bind_eq_ok_iff] at acts
    obtain ⟨_, -, session, -, acts⟩ := acts
    split at acts
    · cases acts
    · cases acts
      exact .refl _
  · refine changeUser_users ended ?_ acts
    intro key account found
    unfold rowAt at found
    split at found
    · simp only [Option.map_eq_some_iff, Prod.mk.injEq] at found
      obtain ⟨row, stored, rfl, rfl⟩ := found
      exact stored
    · cases found

theorem soarDispatch_users (ended : Nat → Prop) (soar : SoarPlatform ρ) (state : AccessState)
    (action : SensitiveAction) (rest : Store ρ) (context : DispatchContext) :
    UsersEffect ended state.users (soarDispatch soar state action rest context).users := by
  unfold soarDispatch
  split
  · rename_i outcome dispatches
    rcases dispatch_sensitive dispatches with same | ⟨result, acts, same⟩
    · rw [same]
      exact .refl _
    · rw [same]
      exact sensitiveAction_users ended acts
  · exact .refl _

end Playbooks

/-! ## Any call -/

/-- The account has a session that is not revoked. -/
def AccessState.HasSession (state : AccessState) (user : Nat) : Prop :=
  ∃ key session, state.sessions.get? key = some session ∧ session.revokedAt = none ∧
    session.userId = user

/-- The effect of a call on the accounts; an account ends without a session that has none
in the state the call leaves. -/
def AccountsEffect (state written : AccessState) : Prop :=
  UsersEffect (fun user => ¬ written.HasSession user) state.users written.users

section Calls

variable {env : AccountPlatform} {config : AccessConfig} {state : AccessState} {now : Instant}

theorem not_hasSession_revoked (state : AccessState) (sessions : Table AuthSession)
    (now : Instant) (user : Nat) (reason : String) :
    ¬ (state.withSessions (revokeUserSessions sessions now user reason none)).HasSession user := by
  rintro ⟨key, session, stored, unrevoked, owner⟩
  simp only [AccessState.withSessions, revokeUserSessions, Table.get?_update,
    Option.map_eq_some_iff] at stored
  obtain ⟨row, -, written⟩ := stored
  split at written
  · subst written
    cases unrevoked
  · rename_i kept
    subst written
    exact kept ⟨owner, unrevoked, nofun⟩

/-- What holds of the state and of every state a service leaves holds after its route. -/
theorem userRoute_cases {property : AccessState → Prop} {key : Nat}
    {service : UserAccount → Except String AccessState} (unchanged : property state)
    (served : ∀ user written, state.users.get? key = some user → service user = .ok written →
      property written) : property (state.after (userRoute state key service)) := by
  unfold userRoute
  split
  · exact unchanged
  · rename_i user stored
    split
    · exact unchanged
    · rename_i written answers
      exact served user written stored answers

theorem after_cases {property : AccessState → Prop} {ε : Type} {result : Except ε AccessState}
    (unchanged : property state) (served : ∀ written, result = .ok written → property written) :
    property (state.after result) := by
  cases result with
  | error error => exact unchanged
  | ok written => exact served written rfl

theorem loginRoute_users (ended : Nat → Prop) (state : AccessState) (request : LoginRequest)
    (draws : LoginDraws) :
    UsersEffect ended state.users (loginRoute env config state request draws).users := by
  have effect := authenticatePassword_users env.toPlatform ended config.login
    state.login request
  unfold loginRoute
  split
  · exact .refl _
  revert effect
  generalize authenticatePassword env.toPlatform config.login state.login request = result
  intro effect
  obtain ⟨login, _ | key⟩ := result
  · exact effect
  simp only
  split
  · exact effect
  split
  · exact effect
  split
  · exact effect
  split
  · exact effect
  · exact effect

theorem verifyMfaLoginRoute_users (ended : Nat → Prop) (state : AccessState) (now : Instant)
    (challenge code : String) (recovery : Bool) (draws : LoginDraws) :
    UsersEffect ended state.users
      (verifyMfaLoginRoute env config state now challenge code recovery draws).users := by
  apply UsersEffect.of_eq
  unfold verifyMfaLoginRoute
  simp only
  split
  · exact verifyMfaLogin_users _ _ _ _ _ _
  split
  · exact verifyMfaLogin_users _ _ _ _ _ _
  · exact verifyUserFactor_users _ _ _ _ _ _

theorem mfaRoute_users (ended : Nat → Prop) (state : AccessState) (now : Instant) (call : MfaCall)
    (current : Nat) (csrf : String) :
    UsersEffect ended state.users (mfaRoute env state now call current csrf).users := by
  have effect := mfaReply_users env.toMfaPlatform ended state.mfa ⟨now, call⟩
  unfold mfaRoute
  simp only
  split
  · exact effect
  · exact effect
  · exact effect
  · exact effect

theorem changePassword_users (ended : Nat → Prop) (state : AccessState) (now : Instant)
    (current : Nat) (currentPassword newPassword salt csrf : String) :
    UsersEffect ended state.users
      (changePassword env state now current currentPassword newPassword salt csrf).users := by
  unfold changePassword
  split
  · exact .refl _
  split
  · exact .refl _
  split
  · split
    · rename_i sets
      have effect := setPassword_effect ended sets
      exact effect.users
    · exact .refl _
  · exact .refl _

theorem authorizePlatformRequest_users (env : AccountPlatform) (config : AccessConfig)
    (state : AccessState) (now : Instant) (request : PlatformRequest) :
    (authorizePlatformRequest env config state now request).1.users = state.users := by
  unfold authorizePlatformRequest
  split
  · rfl
  · rfl

/-- **What a call does to the accounts**, one case for each route. -/
theorem next_users {ρ : Type} (env : AccountPlatform) (config : AccessConfig)
    (soar : Soar.SoarPlatform ρ) (state : AccessState) (request : AccessRequest ρ) :
    AccountsEffect state (state.next env config soar request) := by
  obtain ⟨now, call⟩ := request
  cases call with
  | login login draws => exact loginRoute_users _ _ _ _
  | verifyMfaLogin challenge code recovery draws => exact verifyMfaLoginRoute_users _ _ _ _ _ _ _
  | mfa call current csrf => exact mfaRoute_users _ _ _ _ _ _
  | changePassword current currentPassword newPassword salt csrf =>
    exact changePassword_users _ _ _ _ _ _ _ _
  | register payload tokens salt =>
    apply after_cases (UsersEffect.refl _)
    intro written registers
    exact (registerLocalAccount_effect _ registers).users
  | createUser payload salt =>
    apply after_cases (UsersEffect.refl _)
    intro written creates
    exact (createUser_effect _ creates).users
  | approve key keys confirmAdministrator =>
    apply userRoute_cases (UsersEffect.refl _)
    intro user written stored approves
    exact (approveRegistration_effect _ stored approves).users
  | reject key reason =>
    apply userRoute_cases (UsersEffect.refl _)
    intro user written stored rejects
    refine (rejectRegistration_effect _ stored rejects ?_).users
    simp only [rejectRegistration] at rejects
    split at rejects
    · cases rejects
    split at rejects
    · cases rejects
    simp only [bind_eq_ok_iff, pure_eq_ok_iff] at rejects
    obtain ⟨_, -, rfl⟩ := rejects
    exact not_hasSession_revoked _ _ _ _ _
  | reopen key =>
    apply userRoute_cases (UsersEffect.refl _)
    intro user written stored reopens
    exact (reopenRegistration_effect _ stored reopens).users
  | update key payload =>
    apply userRoute_cases (UsersEffect.refl _)
    intro user written stored updates
    exact (adminUpdateUser_effect _ updates).users
  | disable key =>
    apply userRoute_cases (UsersEffect.refl _)
    intro user written stored disables
    exact (disableUser_effect _ stored disables).users
  | enable key =>
    apply userRoute_cases (UsersEffect.refl _)
    intro user written stored enables
    exact (enableUser_effect _ enables).users
  | unlock key =>
    apply userRoute_cases (UsersEffect.refl _)
    intro user written stored unlocks
    exact (unlockUser_effect _ unlocks).users
  | resetPassword key password salt =>
    apply userRoute_cases (UsersEffect.refl _)
    intro user written stored sets
    exact (setPassword_effect _ sets).users
  | setRoles key keys =>
    apply userRoute_cases (UsersEffect.refl _)
    intro user written stored assigns
    exact (setUserRoles_effect _ stored assigns).users
  | roles roles => exact UsersEffect.refl _
  | soar action rest context => exact soarDispatch_users _ _ _ _ _ _
  | logout cookie csrf => exact UsersEffect.refl _
  | rotateCsrf session token => exact UsersEffect.refl _
  | revokeSession session reason => exact UsersEffect.refl _
  | revokeUserSessions user reason exceptSession => exact UsersEffect.refl _
  | authorize request =>
    exact UsersEffect.of_eq (authorizePlatformRequest_users env config state now request)

end Calls

end ThreatScope.AccessControl
