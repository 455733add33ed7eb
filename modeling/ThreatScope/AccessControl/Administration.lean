import ThreatScope.AccessControl.Authentication
import ThreatScope.AccessControl.Mfa
import ThreatScope.Soar.Dispatch

/-!
# Administration and admission

The routes that create accounts, decide on registrations, write statuses, roles
and passwords, log users in, and admit requests (`user_service.py`,
`account_service.py`, `role_service.py`, `router.py`, `dependencies.py`), over one
state. Every route is one call with its clock and its random draws. The routes that
an administrator calls are calls of any caller here, and a route that is refused by
its own permission or rate limit is no call.
-/

set_option autoImplicit false

namespace ThreatScope.AccessControl

open Library

/-- What the accounts take from the runtime and from the packages that hash. -/
structure AccountPlatform extends MfaPlatform where
  /-- `_HASHER.hash(password)`, with the salt it draws. -/
  hasherHash : String → String → String

/-- `registration_mode`. -/
inductive RegistrationMode where
  | disabled
  | approvalRequired
  | autoActivateLimited
deriving DecidableEq

/-- The settings of `get_config`. -/
structure AccessConfig where
  login : LoginConfig
  session : SessionConfig
  localLoginEnabled : Bool
  selfRegistrationEnabled : Bool
  registrationMode : RegistrationMode
  privacyNoticeVersion : String

/-- The tables of the module. -/
structure AccessState where
  directory : Directory
  attempts : List LoginAttempt
  devices : Table MfaDevice
  recoveryCodes : Table MfaRecoveryCode
  challenges : Table MfaLoginChallenge
  sessions : Table AuthSession

/-- An `HTTPException`. -/
structure HttpError where
  status : Nat
  detail : String

namespace AccessState

/-- The accounts. -/
def users (state : AccessState) : Table UserAccount := state.directory.users

def withUsers (state : AccessState) (users : Table UserAccount) : AccessState :=
  { state with directory := { state.directory with users := users } }

def withSessions (state : AccessState) (sessions : Table AuthSession) : AccessState :=
  { state with sessions := sessions }

/-- Write one account. -/
def modifyUser (state : AccessState) (key : Nat) (change : UserAccount → UserAccount) :
    AccessState :=
  state.withUsers (state.users.modify key change)

/-- The tables a login reads and writes. -/
def login (state : AccessState) : LoginState := ⟨state.users, state.attempts⟩

def withLogin (state : AccessState) (login : LoginState) : AccessState :=
  { state.withUsers login.users with attempts := login.attempts }

/-- The tables the second factors live in. -/
def mfa (state : AccessState) : MfaState :=
  ⟨state.users, state.devices, state.recoveryCodes, state.challenges⟩

def withMfa (state : AccessState) (mfa : MfaState) : AccessState :=
  { state.withUsers mfa.users with
    devices := mfa.devices
    recoveryCodes := mfa.recoveryCodes
    challenges := mfa.challenges }

/-- The database as a playbook finds it. -/
def store {ρ : Type} (state : AccessState) (rest : Soar.Store ρ) : Soar.Store ρ :=
  { rest with
    directory := state.directory
    sessions := state.sessions.map fun session =>
      ⟨session.userId, session.revokedAt, session.revokeReason⟩ }

/-- What a playbook wrote of it. -/
def withStore {ρ : Type} (state : AccessState) (store : Soar.Store ρ) : AccessState :=
  { state with
    directory := store.directory
    sessions := state.sessions.update fun key session =>
      match store.sessions.get? key with
      | some written =>
        { session with revokedAt := written.revokedAt, revokeReason := written.revokeReason }
      | none => session }

end AccessState

variable (env : AccountPlatform) (config : AccessConfig)

/-! ## Passwords -/

/-- `common_passwords.txt`. -/
def commonPasswords : List String :=
  ["password", "password123", "password1234", "qwerty123456", "letmein123456", "adminadmin123",
    "welcome123456", "changeme12345", "threatscope123", "vulnscope1234"]

/-- `validate_password`, answering with the error it raises. -/
def validatePassword (password username : String) (prohibitedTerms : List String) :
    Option String :=
  let fold := Text.casefold env.foldTable
  let normalizedUsername := fold (Text.strip username)
  let normalizedPassword := fold password
  if password.length < 12 then some "Password must contain at least 12 characters"
  else if 128 < password.length then some "Password must contain no more than 128 characters"
  else if Text.strip password = "" then some "Password cannot contain only whitespace"
  else if normalizedUsername ≠ "" ∧ Text.contains normalizedPassword normalizedUsername then
    some "Password must not contain the username"
  else if prohibitedTerms.any fun term =>
      let normalizedTerm := fold (Text.strip term)
      3 ≤ normalizedTerm.length && Text.contains normalizedPassword normalizedTerm then
    some "Password must not contain the email identifier"
  else if commonPasswords.contains normalizedPassword then some "Password is too commonly used"
  else none

def hashPassword (password salt username : String) (prohibitedTerms : List String) :
    Except String String :=
  match validatePassword env password username prohibitedTerms with
  | some error => .error error
  | none => .ok (env.hasherHash password salt)

/-! ## Roles -/

/-- The roles with one of the keys. -/
def rolesNamed (directory : Directory) (keys : List String) : List (Nat × AccessRole) :=
  directory.roles.rows.filter fun row => keys.contains row.2.roleKey

def assignRoles (directory : Directory) (user : Nat) (keys : List String) :
    Except String Directory :=
  let roles := (rolesNamed directory keys).filter fun row => row.2.enabled
  if roles.length ≠ keys.dedup.length then .error "One or more roles are invalid or disabled"
  else .ok { directory with
    assignments := (directory.assignments.filter fun assignment => assignment.1 != user) ++
      roles.map fun role => (user, role.1) }

/-! ## The accounts -/

def validateDisplayName (value : String) : Except String String :=
  let result := Text.collapse value
  if 2 ≤ result.length ∧ result.length ≤ 120 then .ok result
  else .error "Display name must be 2-120 characters"

/-- `normalize_username`, with its error. -/
def checkedUsername (value : String) : Except String String :=
  match normalizeUsername env.toPlatform value with
  | some normalized => .ok normalized
  | none => .error
      "Username must be 3-64 characters using letters, numbers, dot, underscore, or hyphen"

/-- `normalize_email`, with its error. -/
def checkedEmail (value : Option String) : Except String (Option String) :=
  match normalizeEmail env.toPlatform value with
  | some normalized => .ok normalized
  | none => .error "Email address is invalid"

/-- An account has this username. -/
def usernameTaken (users : Table UserAccount) (normalized : String) : Bool :=
  (users.first? fun _ user => user.usernameNormalized == normalized).isSome

/-- An account other than `except` has this address. -/
def emailTaken (users : Table UserAccount) (email : Option String) (except : Option Nat) : Bool :=
  match email with
  | none => false
  | some address => (users.first? fun key user =>
    user.emailNormalized == some address && except != some key).isSome

/-- What an account is created from. -/
structure UserCreate where
  username : String
  displayName : String
  email : Option String
  password : String
  roleKeys : List String
  mustChangePassword : Bool
  isSystemAdmin : Bool

/-- `create_user`. No caller passes a status. -/
def createUser (state : AccessState) (payload : UserCreate) (salt : String) :
    Except String AccessState := do
  let username ← checkedUsername env payload.username
  let email ← checkedEmail env payload.email
  if usernameTaken state.users username then .error "Username is already in use"
  else if emailTaken state.users email none then .error "Email is already in use"
  else
    let displayName ← validateDisplayName payload.displayName
    let passwordHash ← hashPassword env payload.password salt username []
    let account : UserAccount :=
      { username := Text.strip payload.username
        usernameNormalized := username
        displayName := displayName
        emailNormalized := email
        passwordHash := passwordHash
        status := if payload.mustChangePassword then .pendingPasswordChange else .active
        isSystemAdmin := payload.isSystemAdmin
        failedLoginCount := 0
        lockedUntil := none
        mustChangePassword := payload.mustChangePassword
        mfaEnabled := false
        lastLoginAt := none
        lastLoginIpHash := none
        disabledAt := none }
    let created := state.withUsers (state.users.insert account)
    let keys := if !payload.roleKeys.isEmpty then payload.roleKeys
      else if payload.isSystemAdmin then ["administrator"] else []
    let directory ← assignRoles created.directory state.users.nextKey keys
    return { created with directory := directory }

def activeAdministratorCount (users : Table UserAccount) (excludeUser : Option Nat) : Nat :=
  users.count fun key user =>
    user.isSystemAdmin && (user.status == .active || user.status == .pendingPasswordChange) &&
      excludeUser != some key

def ensureNotLastAdmin (users : Table UserAccount) (key : Nat) (user : UserAccount) :
    Except String Unit :=
  if user.isSystemAdmin && activeAdministratorCount users (some key) == 0 then
    .error "The last active system administrator cannot be disabled or demoted"
  else .ok ()

/-- The status `set_password` leaves. -/
def AccountStatus.afterPassword (status : AccountStatus) (mustChange : Bool) : AccountStatus :=
  match status with
  | .disabled => .disabled
  | .pendingApproval => .pendingApproval
  | .rejected => .rejected
  | _ => if mustChange then .pendingPasswordChange else .active

def setPassword (state : AccessState) (now : Instant) (key : Nat) (user : UserAccount)
    (password salt : String) (mustChange : Bool) (reason : String) (current : Option Nat) :
    Except String AccessState := do
  let passwordHash ← hashPassword env password salt user.usernameNormalized []
  let written := state.modifyUser key fun row =>
    { row with
      passwordHash := passwordHash
      mustChangePassword := mustChange
      status := row.status.afterPassword mustChange }
  return written.withSessions (revokeUserSessions written.sessions now key reason current)

/-! ## Registrations -/

/-- What a visitor registers with. -/
structure RegistrationRequest where
  email : String
  username : Option String
  displayName : String
  password : String
  passwordConfirmation : String
  termsAccepted : Bool
  privacyNoticeVersion : String

/-- `re.sub(r"[^a-z0-9._-]+", ".", text)`. -/
def dotRuns (inRun : Bool) : List Char → List Char
  | [] => []
  | c :: rest =>
    if ('a' ≤ c && c ≤ 'z') || ('0' ≤ c && c ≤ '9') || c == '.' || c == '_' || c == '-' then
      c :: dotRuns false rest
    else if inRun then dotRuns true rest else '.' :: dotRuns true rest

/-- `generated_username`, with the texts `secrets.token_hex` draws. -/
def generatedUsername (users : Table UserAccount) (localPart : String) (tokens : List String) :
    Except String String :=
  let base := Text.truncate 44 (Text.stripChars ['.', '_', '-']
    (String.ofList (dotRuns false (Text.casefold env.foldTable localPart).toList)))
  let base := if base.length < 3 then "user" else base
  match ((tokens.take 20).map fun token => Text.truncate 64 (base ++ "." ++ token)).find?
      fun candidate => !usernameTaken users candidate with
  | some candidate => .ok candidate
  | none => .error "A safe username could not be generated"

/-- The body of `register_local_account` that answers with status 422. -/
def registeredAccount (users : Table UserAccount) (payload : RegistrationRequest)
    (email : String) (tokens : List String) (salt : String) : Except String UserAccount := do
  let localPart := (Text.split '@' email).headD ""
  if !payload.termsAccepted then .error "Terms and privacy acknowledgement is required"
  else if payload.privacyNoticeVersion ≠ config.privacyNoticeVersion then
    .error "The current privacy notice must be accepted"
  else if payload.password ≠ payload.passwordConfirmation then
    .error "Password confirmation does not match"
  else
    let username ← (payload.username.filter (· ≠ "")).elim
      (generatedUsername env users localPart tokens) fun given => .ok (Text.strip given)
    let usernameNormalized ← checkedUsername env username
    let displayName ← validateDisplayName payload.displayName
    if emailTaken users (some email) none || usernameTaken users usernameNormalized then
      .error "Account registration could not be completed"
    else
      let passwordHash ←
        hashPassword env payload.password salt usernameNormalized [localPart]
      return { username := username
               usernameNormalized := usernameNormalized
               displayName := displayName
               emailNormalized := some email
               passwordHash := passwordHash
               status := if config.registrationMode = .approvalRequired then .pendingApproval
                 else .active
               isSystemAdmin := false
               failedLoginCount := 0
               lockedUntil := none
               mustChangePassword := false
               mfaEnabled := false
               lastLoginAt := none
               lastLoginIpHash := none
               disabledAt := none }

def registerLocalAccount (state : AccessState) (payload : RegistrationRequest)
    (tokens : List String) (salt : String) : Except HttpError AccessState :=
  if !config.localLoginEnabled || !config.selfRegistrationEnabled ||
      config.registrationMode == .disabled then
    .error ⟨403, "Local account registration is unavailable"⟩
  else match checkedEmail env (some payload.email) with
    | .error detail => .error ⟨422, detail⟩
    | .ok none => .error ⟨422, "Email address is required"⟩
    | .ok (some email) =>
      match (do
        let account ← registeredAccount env config state.users payload email tokens salt
        let created := state.withUsers (state.users.insert account)
        let directory ← assignRoles created.directory state.users.nextKey ["registered_user"]
        return { created with
          directory := directory
          attempts := clearUserLoginAttempts env.toPlatform account created.attempts }) with
      | .error detail => .error ⟨422, detail⟩
      | .ok registered => .ok registered

def approveRegistration (state : AccessState) (key : Nat) (user : UserAccount)
    (keys : List String) (confirmAdministrator : Bool) : Except String AccessState := do
  let unique := (if keys.isEmpty then ["registered_user"] else keys).dedup
  let roles := rolesNamed state.directory unique
  if user.status ≠ .pendingApproval ∧ user.status ≠ .rejected then
    .error "Only pending or reopened registrations can be approved"
  else if unique.contains "administrator" ∧ !confirmAdministrator then
    .error "Administrator assignment requires explicit confirmation"
  else if roles.length ≠ unique.length ∨ roles.any (fun role => !role.2.enabled) then
    .error "One or more roles are invalid or disabled"
  else
    let directory ← assignRoles state.directory key unique
    let assigned : AccessState := { state with directory := directory }
    return assigned.modifyUser key fun row =>
      { row with status := .active, isSystemAdmin := unique.contains "administrator" }

def rejectRegistration (state : AccessState) (now : Instant) (key : Nat) (user : UserAccount)
    (reason : String) : Except String AccessState := do
  let bounded := Text.collapse reason
  if bounded.length < 3 ∨ 500 < bounded.length then
    .error "A bounded rejection reason is required"
  else if user.status ≠ .pendingApproval ∧ user.status ≠ .active then
    .error "Registration cannot be rejected from its current status"
  else
    ensureNotLastAdmin state.users key user
    let written := state.modifyUser key fun row => { row with status := .rejected }
    return written.withSessions
      (revokeUserSessions written.sessions now key "registration_rejected" none)

def reopenRegistration (state : AccessState) (key : Nat) (user : UserAccount) :
    Except String AccessState :=
  if user.status ≠ .rejected then .error "Only rejected registrations can be reopened"
  else .ok (state.modifyUser key fun row => { row with status := .pendingApproval })

/-! ## The routes of an administrator -/

/-- A route on an account that exists, whose errors are answered with 422. -/
def userRoute (state : AccessState) (key : Nat)
    (service : UserAccount → Except String AccessState) : Except HttpError AccessState :=
  match state.users.get? key with
  | none => .error ⟨404, "User not found"⟩
  | some user =>
    match service user with
    | .error detail => .error ⟨422, detail⟩
    | .ok written => .ok written

/-- What `admin_update_user` changes. -/
structure UserUpdate where
  displayName : Option String
  email : Option String
  mustChangePassword : Option Bool

def adminUpdateUser (state : AccessState) (key : Nat) (user : UserAccount)
    (payload : UserUpdate) : Except String AccessState := do
  let displayName ← payload.displayName.elim (.ok user.displayName) validateDisplayName
  let email ← payload.email.elim (.ok user.emailNormalized) fun text =>
    checkedEmail env (some text)
  if payload.email.isSome ∧ emailTaken state.users email (some key) then
    .error "Email is already in use"
  else
    return state.modifyUser key fun row =>
      { row with
        displayName := displayName
        emailNormalized := email
        mustChangePassword := payload.mustChangePassword.getD row.mustChangePassword
        status := match payload.mustChangePassword with
          | some true => .pendingPasswordChange
          | some false => .active
          | none => row.status }

def disableUser (state : AccessState) (now : Instant) (key : Nat) (user : UserAccount) :
    Except String AccessState := do
  ensureNotLastAdmin state.users key user
  let written := state.modifyUser key fun row =>
    { row with status := .disabled, disabledAt := some now }
  return written.withSessions
    (revokeUserSessions written.sessions now key "account_disabled" none)

def enableUser (state : AccessState) (key : Nat) (_user : UserAccount) :
    Except String AccessState :=
  .ok (state.modifyUser key fun row =>
    { row with
      status := if row.mustChangePassword then .pendingPasswordChange else .active
      disabledAt := none })

def unlockUser (state : AccessState) (key : Nat) (_user : UserAccount) :
    Except String AccessState :=
  .ok (state.withLogin (clearFailures env.toPlatform state.login key))

def setUserRoles (state : AccessState) (now : Instant) (key : Nat) (user : UserAccount)
    (keys : List String) : Except String AccessState := do
  let becomingAdmin := keys.contains "administrator"
  (if user.isSystemAdmin && !becomingAdmin then ensureNotLastAdmin state.users key user
    else .ok ())
  let directory ← assignRoles state.directory key keys
  let assigned : AccessState := { state with directory := directory }
  let written := assigned.modifyUser key fun row => { row with isSystemAdmin := becomingAdmin }
  return written.withSessions
    (revokeUserSessions written.sessions now key "role_assignment_changed" none)

end ThreatScope.AccessControl
