import ThreatScope.AccessControl.Accounts
import ThreatScope.Library.Runs

/-!
# Password login, lockout and approval

`authenticate_password` with the lock and the rate limit it drives
(`authentication.py`, `rate_limit_service.py`). One call reads the clock once;
the identifier, the password, the client address and the clock are arbitrary
inputs, so a run is any sequence of calls.

An account that waits for approval can be locked by failed logins like any
other. The lock overwrites the status, and lifting it writes `active` whatever
the status was before (`clear_failures`). So approval survives a run exactly
when no call of the run finds the account with an expired lock
(`approvalHeld_iff`).
-/

set_option autoImplicit false

namespace ThreatScope.AccessControl

open Library

/-- The bounds `get_config` clamps the two login settings to. -/
structure LoginConfig where
  loginMaxAttempts : Nat
  lockoutMinutes : Nat
  two_le_attempts : 2 ≤ loginMaxAttempts
  attempts_le : loginMaxAttempts ≤ 20
  one_le_lockout : 1 ≤ lockoutMinutes
  lockout_le : lockoutMinutes ≤ 1440

/-- A row of `login_attempts`. -/
structure LoginAttempt where
  usernameHash : String
  clientIpHash : Option String
  success : Bool
  failureReasonCode : Option String
  attemptedAt : Instant

/-- The tables a login reads and writes. -/
structure LoginState where
  users : Table UserAccount
  attempts : List LoginAttempt

/-- One call of `authenticate_password`. -/
structure LoginRequest where
  now : Instant
  clientHost : Option String
  identifier : String
  password : String

/-- The ways a login ends without a user. -/
inductive LoginError where
  /-- Status 429. -/
  | rateLimited
  /-- Status 401. -/
  | invalidCredentials
  /-- An exception `verify_password` lets through. -/
  | hasher (error : HasherError)
deriving DecidableEq

namespace LoginState

/-- The status of the account with a key. -/
def status (state : LoginState) (key : Nat) : Option AccountStatus :=
  (state.users.get? key).map UserAccount.status

end LoginState

variable (env : Platform)

/-! ## The rate limit -/

def usernameHash (normalized : Option String) : String :=
  env.hashValue ("username:" ++ normalized.getD "None")

def clientIpHash (clientHost : Option String) : Option String :=
  match clientHost with
  | some host => if host = "" then none else some (env.hashValue ("ip:" ++ host))
  | none => none

/-- A failed attempt under one of the given hashes. -/
def LoginAttempt.failedUnder (attempt : LoginAttempt) (hashes : List String) : Bool :=
  hashes.contains attempt.usernameHash && !attempt.success

def isRateLimited (config : LoginConfig) (state : LoginState) (now : Instant)
    (normalized ipHash : Option String) : Bool :=
  let since := now - minutes 15
  let sameAddress := fun attempt : LoginAttempt => match ipHash with
    | some hash => hash == "" || attempt.clientIpHash == some hash
    | none => true
  config.loginMaxAttempts ≤ state.attempts.countP fun attempt =>
    attempt.failedUnder [usernameHash env normalized] && since ≤ attempt.attemptedAt &&
      sameAddress attempt

def recordAttempt (state : LoginState) (now : Instant) (normalized ipHash : Option String)
    (success : Bool) (reason : Option String) : LoginState :=
  let kept := if success then
      state.attempts.filter fun attempt =>
        !attempt.failedUnder [usernameHash env normalized]
    else state.attempts
  let attempt : LoginAttempt :=
    { usernameHash := usernameHash env normalized
      clientIpHash := ipHash
      success := success
      failureReasonCode :=
        if success then none else some (Text.truncate 64 (reason.getD "invalid_credentials"))
      attemptedAt := now }
  { state with
    attempts := (kept ++ [attempt]).filter fun row => !(row.attemptedAt < now - days 30) }

/-! ## The lock -/

def registerUserFailure (config : LoginConfig) (state : LoginState) (now : Instant) (key : Nat) :
    LoginState :=
  { state with
    users := state.users.modify key fun user =>
      let failedLoginCount := user.failedLoginCount + 1
      if config.loginMaxAttempts ≤ failedLoginCount then
        { user with
          failedLoginCount := failedLoginCount
          status := .locked
          lockedUntil := some (now + minutes config.lockoutMinutes) }
      else { user with failedLoginCount := failedLoginCount } }

def clearUserLoginAttempts (user : UserAccount) (attempts : List LoginAttempt) :
    List LoginAttempt :=
  let identities := user.usernameNormalized :: (user.emailNormalized.filter (· != "")).toList
  let hashes := identities.map fun identity => usernameHash env (some identity)
  attempts.filter fun attempt => !attempt.failedUnder hashes

def clearFailures (state : LoginState) (key : Nat) : LoginState :=
  match state.users.get? key with
  | none => state
  | some user =>
    { users := state.users.modify key fun row =>
        { row with
          failedLoginCount := 0
          lockedUntil := none
          status := if row.status = .locked then .active else row.status }
      attempts := clearUserLoginAttempts env user state.attempts }

/-- A locked account whose `locked_until` has passed. -/
def UserAccount.lockExpired (user : UserAccount) (now : Instant) : Bool :=
  user.status == .locked && match user.lockedUntil with
    | some lockedUntil => lockedUntil ≤ now
    | none => false

def unlockIfExpired (state : LoginState) (now : Instant) (key : Nat) : LoginState × Bool :=
  match state.users.get? key with
  | none => (state, false)
  | some user =>
    if user.lockExpired now then (clearFailures env state key, true) else (state, false)

/-! ## One login -/

/-- The identifier as it is looked up, and whether it is an address. -/
def normalizedIdentifier (identifier : String) : Bool × Option String :=
  let raw := Text.strip identifier
  let isEmail := raw.toList.contains '@'
  let normalized := if isEmail then normalizeEmail env (some raw)
    else (normalizeUsername env raw).map some
  (isEmail,
    normalized.getD (some (Text.truncate 254 (Text.casefold env.foldTable raw))))

/-- The account a call looks up. -/
def LoginState.findUser (state : LoginState) (identifier : String) : Option Nat :=
  let (isEmail, normalized) := normalizedIdentifier env identifier
  (state.users.first? fun _ user =>
    if isEmail then user.emailNormalized == normalized
    else some user.usernameNormalized == normalized).map Prod.fst

/-- `user.status in {"disabled", "locked"}`. -/
def AccountStatus.refusesLogin (status : AccountStatus) : Bool :=
  status == .disabled || status == .locked

/-- What a call does after the expired lock is lifted. -/
def attemptLogin (config : LoginConfig) (state : LoginState) (request : LoginRequest)
    (key? : Option Nat) (normalized : Option String) : LoginState × Except LoginError Nat :=
  let ipHash := clientIpHash env request.clientHost
  if isRateLimited env config state request.now normalized ipHash then
    (state, .error .rateLimited)
  else
    let user := key?.bind fun key => (state.users.get? key).map fun user => (key, user)
    match verifyPassword env (user.map fun found => found.2.passwordHash)
        request.password with
    | .error error => (state, .error (.hasher error))
    | .ok valid =>
      match user with
      | none =>
        (recordAttempt env state request.now normalized ipHash false
          (some "invalid_credentials"), .error .invalidCredentials)
      | some (key, user) =>
        if !valid || user.status.refusesLogin then
          let counted := if user.status.refusesLogin then state
            else registerUserFailure config state request.now key
          (recordAttempt env counted request.now normalized ipHash false
            (some "invalid_credentials"), .error .invalidCredentials)
        else
          let cleared := recordAttempt env (clearFailures env state key)
            request.now normalized ipHash true none
          ({ cleared with
              users := cleared.users.modify key fun row =>
                { row with lastLoginAt := some request.now, lastLoginIpHash := ipHash } },
            .ok key)

def authenticatePassword (config : LoginConfig) (state : LoginState) (request : LoginRequest) :
    LoginState × Except LoginError Nat :=
  let (_, normalized) := normalizedIdentifier env request.identifier
  let key? := state.findUser env request.identifier
  let (unlocked, expiredLock) := match key? with
    | some key => unlockIfExpired env state request.now key
    | none => (state, false)
  let unlocked := if expiredLock then
      { unlocked with
        attempts := unlocked.attempts.filter fun attempt =>
          !attempt.failedUnder [usernameHash env normalized] }
    else unlocked
  attemptLogin env config unlocked request key? normalized

/-- The state a login leaves. -/
def login (config : LoginConfig) (state : LoginState) (request : LoginRequest) : LoginState :=
  (authenticatePassword env config state request).1

/-! ## What a call does to a status -/

/-- The call looks up this account and finds it locked with `locked_until`
passed. -/
def LoginState.findsExpiredLock (state : LoginState) (request : LoginRequest) (key : Nat) : Bool :=
  state.findUser env request.identifier == some key &&
    (state.users.get? key).any fun user => user.lockExpired request.now

variable (config : LoginConfig) (state : LoginState) (request : LoginRequest)

theorem status_modify (users : Table UserAccount) (attempts : List LoginAttempt)
    (key other : Nat) (change : UserAccount → UserAccount) :
    LoginState.status ⟨users.modify key change, attempts⟩ other =
      (users.get? other).map fun user =>
        if other = key then (change user).status else user.status := by
  simp only [LoginState.status, Table.get?_modify]
  by_cases same : other = key
  · simp only [if_pos same, Option.map_map]
    rfl
  · simp only [if_neg same]

@[simp] theorem status_recordAttempt (now : Instant) (normalized ipHash : Option String)
    (success : Bool) (reason : Option String) (key : Nat) :
    (recordAttempt env state now normalized ipHash success reason).status key =
      state.status key := rfl

theorem status_registerUserFailure (now : Instant) (key other : Nat) :
    (registerUserFailure config state now key).status other = state.status other ∨
      (registerUserFailure config state now key).status other = some .locked := by
  rw [registerUserFailure, status_modify]
  cases found : state.users.get? other with
  | none => exact .inl (by simp [LoginState.status, found])
  | some user =>
    by_cases same : other = key
    · simp only [if_pos same, LoginState.status, found, Option.map_some]
      split
      · exact .inr rfl
      · exact .inl rfl
    · exact .inl (by simp [same, LoginState.status, found])

/-- Clearing the failures of an account turns `locked` into `active`, and
changes no other status. -/
theorem status_clearFailures (key other : Nat) :
    (clearFailures env state key).status other =
      if other = key ∧ state.status other = some .locked then some .active
      else state.status other := by
  unfold clearFailures
  cases found : state.users.get? key with
  | none =>
    have absent : ¬ (other = key ∧ state.status other = some .locked) := by
      rintro ⟨rfl, locked⟩
      simp [LoginState.status, found] at locked
    simp only [if_neg absent]
  | some user =>
    simp only [status_modify]
    by_cases same : other = key
    · subst same
      by_cases locked : user.status = .locked <;>
        simp [LoginState.status, found, locked]
    · have apart : ¬ (other = key ∧ state.status other = some .locked) := fun both =>
        same both.1
      simp only [if_neg apart, if_neg same]
      rfl

/-- An attempt leaves every status, counts a failure or clears one account. -/
theorem attemptLogin_cases (key? : Option Nat) (normalized : Option String) :
    (∀ key, (attemptLogin env config state request key? normalized).1.status key =
        state.status key) ∨
      ∃ key user, key? = some key ∧ state.users.get? key = some user ∧
        user.status.refusesLogin = false ∧
        ((∀ other, (attemptLogin env config state request key? normalized).1.status other =
            (registerUserFailure config state request.now key).status other) ∨
          (∀ other, (attemptLogin env config state request key? normalized).1.status other =
            (clearFailures env state key).status other)) := by
  unfold attemptLogin
  simp only
  split
  · exact .inl fun _ => rfl
  · cases key? with
    | none =>
      simp only [Option.bind_none, Option.map_none, verifyPassword]
      exact .inl fun _ => rfl
    | some key =>
      cases found : state.users.get? key with
      | none =>
        simp only [Option.bind_some, found, Option.map_none, verifyPassword]
        exact .inl fun _ => rfl
      | some user =>
        simp only [Option.bind_some, found, Option.map_some]
        cases verifyPassword env (some user.passwordHash) request.password with
        | error error => exact .inl fun _ => rfl
        | ok valid =>
          cases refused : user.status.refusesLogin with
          | true =>
            simp only [Bool.or_true, if_true]
            exact .inl fun _ => rfl
          | false =>
            refine .inr ⟨key, user, rfl, found, refused, ?_⟩
            cases valid with
            | false => exact .inl fun _ => rfl
            | true =>
              refine .inr fun other => ?_
              simp only [Bool.not_true, Bool.or_self, Bool.false_eq_true, if_false,
                status_modify, ite_self]
              rfl

theorem status_attemptLogin (key? : Option Nat) (normalized : Option String) (other : Nat) :
    (attemptLogin env config state request key? normalized).1.status other =
        state.status other ∨
      (attemptLogin env config state request key? normalized).1.status other =
        some .locked := by
  rcases attemptLogin_cases env config state request key? normalized with
    unchanged | ⟨key, user, -, found, admitted, counted | cleared⟩
  · exact .inl (unchanged other)
  · rw [counted other]
    exact status_registerUserFailure config state request.now key other
  · have free : ¬ (other = key ∧ state.status other = some .locked) := by
      rintro ⟨rfl, locked⟩
      simp only [LoginState.status, found, Option.map_some, Option.some.injEq] at locked
      simp [locked, AccountStatus.refusesLogin] at admitted
    rw [cleared other, status_clearFailures, if_neg free]
    exact .inl rfl

theorem status_attemptLogin_of_active {key : Nat} (user : UserAccount)
    (found : state.users.get? key = some user) (active : user.status = .active)
    (fresh : user.failedLoginCount = 0) (key? : Option Nat) (normalized : Option String) :
    (attemptLogin env config state request key? normalized).1.status key =
      some .active := by
  have before : state.status key = some .active := by simp [LoginState.status, found, active]
  rcases attemptLogin_cases env config state request key? normalized with
    unchanged | ⟨other, account, -, -, -, counted | cleared⟩
  · rw [unchanged key, before]
  · have below : ¬ config.loginMaxAttempts ≤ 0 + 1 := by
      have bound := config.two_le_attempts
      omega
    rw [counted key, registerUserFailure, status_modify, found]
    simp only [Option.map_some, fresh, if_neg below, active, ite_self]
  · rw [cleared key, status_clearFailures, before]
    simp

/-- A call that does not find an expired lock on an account leaves its status
alone or locks it. -/
theorem status_login {key : Nat} (unexpired : state.findsExpiredLock env request key = false) :
    (login env config state request).status key = state.status key ∨
      (login env config state request).status key = some .locked := by
  unfold login authenticatePassword
  simp only
  cases looked : state.findUser env request.identifier with
  | none =>
    simp only [Bool.false_eq_true, if_false]
    exact status_attemptLogin env config state request none _ key
  | some other =>
    simp only
    have same : (unlockIfExpired env state request.now other).1.status key =
        state.status key := by
      unfold unlockIfExpired
      cases found : state.users.get? other with
      | none => rfl
      | some user =>
        simp only
        split
        · rename_i expired
          have apart : ¬ (key = other ∧ state.status key = some .locked) := by
            rintro ⟨rfl, -⟩
            simp [LoginState.findsExpiredLock, looked, found, expired] at unexpired
          rw [status_clearFailures, if_neg apart]
        · rfl
    rw [← same]
    split
    · exact status_attemptLogin env config _ request (some other) _ key
    · exact status_attemptLogin env config _ request (some other) _ key

/-- A call that finds an expired lock leaves the account `active`, whatever
its status was before it was locked. -/
theorem status_login_of_expired {key : Nat}
    (expired : state.findsExpiredLock env request key = true) :
    (login env config state request).status key = some .active := by
  simp only [LoginState.findsExpiredLock, Bool.and_eq_true, beq_iff_eq] at expired
  obtain ⟨looked, lifted⟩ := expired
  cases found : state.users.get? key with
  | none => simp [found] at lifted
  | some user =>
    simp only [found, Option.any_some] at lifted
    have locked : user.status = .locked := by
      simp only [UserAccount.lockExpired, Bool.and_eq_true, beq_iff_eq] at lifted
      exact lifted.1
    unfold login authenticatePassword
    simp only [looked, unlockIfExpired, found, lifted, if_true]
    refine status_attemptLogin_of_active env config _ request
      { user with failedLoginCount := 0, lockedUntil := none, status := .active } ?_ rfl rfl _ _
    simp [clearFailures, found, locked]

/-! ## Approval over a run of logins -/

/-- Over a run, an account that was not `active` is never made `active`, and an
account that a call finds locked stays locked or gets back the status it
had. -/
structure ApprovalHeld (env : Platform) (config : LoginConfig) (start : LoginState)
    (key : Nat) (requests : List LoginRequest) : Prop where
  neverActive : ∀ move ∈ trace (login env config) start requests,
    move.after.status key ≠ some .active
  statusRestored : ∀ move ∈ trace (login env config) start requests,
    move.before.status key = some .locked →
      move.after.status key = some .locked ∨
        move.after.status key = start.status key

/-- **Logging in bypasses no approval exactly when no login finds the account
with an expired lock.** -/
theorem approvalHeld_iff (env : Platform) (config : LoginConfig) (start : LoginState) (key : Nat)
    (unapproved : start.status key = some .pendingApproval ∨ start.status key = some .rejected)
    (requests : List LoginRequest) :
    ApprovalHeld env config start key requests ↔
      ∀ move ∈ trace (login env config) start requests,
        move.before.findsExpiredLock env move.input key = false := by
  constructor
  · intro held move member
    cases expired : move.before.findsExpiredLock env move.input key with
    | false => rfl
    | true =>
      have activated := status_login_of_expired env config _ _ expired
      rw [← after_eq_of_mem_trace _ member] at activated
      exact absurd activated (held.neverActive move member)
  · intro unexpired
    have kept := invariant_along_trace (login env config)
      (fun state => state.status key = start.status key ∨ state.status key = some .locked)
      (fun move =>
        move.before.findsExpiredLock env move.input key = false)
      (fun state request before allowed => by
        rcases status_login env config state request allowed with same | locked
        · rw [same]
          exact before
        · exact .inr locked)
      (.inl rfl) unexpired
    constructor
    · intro move member active
      rcases (kept move member).2 with same | locked
      · rw [same] at active
        rcases unapproved with pending | rejected
        · simp [active] at pending
        · simp [active] at rejected
      · simp [active] at locked
    · intro move member _
      exact (kept move member).2.symm

/-! A pending account, two attempts before the lock, a lock of one minute. -/

/-- Text that needs no Unicode table, and a password stored as it is. -/
def plainPlatform : Platform where
  nfkc := id
  foldTable := fun c => [c]
  hashValue := id
  hasherVerify := fun stored password =>
    if stored = password then .ok true else .error .verifyMismatch

def shortLock : LoginConfig where
  loginMaxAttempts := 2
  lockoutMinutes := 1
  two_le_attempts := by decide
  attempts_le := by decide
  one_le_lockout := by decide
  lockout_le := by decide

def pendingAccount : UserAccount where
  username := "alice"
  usernameNormalized := "alice"
  displayName := "Alice"
  emailNormalized := none
  passwordHash := "right"
  status := .pendingApproval
  isSystemAdmin := false
  failedLoginCount := 0
  lockedUntil := none
  mustChangePassword := false
  mfaEnabled := false
  lastLoginAt := none
  lastLoginIpHash := none
  disabledAt := none

def pendingStart : LoginState := ⟨Table.empty.insert pendingAccount, []⟩

/-- A wrong password at a time. -/
def wrongPassword (now : Instant) : LoginRequest := ⟨now, none, "alice", "wrong"⟩

/-- The second wrong password locks the account, and the third one comes while it is locked. -/
theorem approvalHeld_of_lock :
    ApprovalHeld plainPlatform shortLock pendingStart 1
      [wrongPassword 0, wrongPassword 1, wrongPassword 2] := by
  refine (approvalHeld_iff plainPlatform shortLock pendingStart 1 (.inl (by decide)) _).mpr ?_
  intro move member
  rcases List.mem_cons.mp member with first | later
  · rw [first]
    decide
  rcases List.mem_cons.mp later with second | last
  · rw [second]
    decide
  rw [List.mem_singleton.mp last]
  decide

/-- Two wrong passwords, a wait of two minutes and a third wrong password make
a pending account active. -/
theorem not_approvalHeld_of_expired_lock :
    ¬ ApprovalHeld plainPlatform shortLock pendingStart 1
        [wrongPassword 0, wrongPassword 1, wrongPassword (minutes 2)] := by
  intro held
  refine held.neverActive _ (List.mem_cons_of_mem _ (List.mem_cons_of_mem _
    (List.mem_singleton.mpr rfl))) ?_
  decide

end ThreatScope.AccessControl
