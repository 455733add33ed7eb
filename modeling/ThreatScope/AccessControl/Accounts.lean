import ThreatScope.Library.RowInvariants
import ThreatScope.Library.Text

/-!
# Local accounts, their roles, permissions and sessions

The account rows of `access_control/models.py`, the normalization of the two
identifiers an account is found by (`user_service.py`), and the permissions an
account holds through its roles (`role_service.py`).

What the interpreter and the cryptographic packages supply (Unicode tables,
the peppered digest, the Argon2 check) is collected in `Platform`; everything
else is written out.
-/

set_option autoImplicit false

namespace ThreatScope.AccessControl

open Library

/-- A naive UTC time, in microseconds. -/
abbrev Instant := Int

/-- `timedelta(minutes=count)`. -/
def minutes (count : Nat) : Int := count * 60000000

/-- `timedelta(days=count)`. -/
def days (count : Nat) : Int := count * 86400000000

/-- The exceptions `PasswordHasher.verify` can raise. -/
inductive HasherError where
  | verifyMismatch
  | invalidHash
  | typeError
  | other
deriving DecidableEq

/-- What the module takes from the Python runtime and from the packages that
hash. -/
structure Platform where
  /-- `unicodedata.normalize("NFKC", text)`. -/
  nfkc : String → String
  /-- Case folding of a character outside ASCII. -/
  foldTable : Char → List Char
  /-- `hash_value`: the digest of the peppered text. -/
  hashValue : String → String
  /-- `_HASHER.verify(password_hash, password)`. -/
  hasherVerify : String → String → Except HasherError Bool

/-- `UserAccount.status`. -/
inductive AccountStatus where
  | pendingApproval
  | active
  | rejected
  | disabled
  | locked
  | pendingPasswordChange
deriving DecidableEq

/-- A row of `user_accounts`. -/
structure UserAccount where
  username : String
  usernameNormalized : String
  displayName : String
  emailNormalized : Option String
  passwordHash : String
  status : AccountStatus
  isSystemAdmin : Bool
  failedLoginCount : Nat
  lockedUntil : Option Instant
  mustChangePassword : Bool
  mfaEnabled : Bool
  lastLoginAt : Option Instant
  lastLoginIpHash : Option String
  disabledAt : Option Instant

/-! ## Normalized identifiers -/

/-- A character of `[A-Za-z0-9]`. -/
def isAsciiAlphanumeric (c : Char) : Bool :=
  ('a' ≤ c && c ≤ 'z') || ('A' ≤ c && c ≤ 'Z') || ('0' ≤ c && c ≤ '9')

/-- `USERNAME_RE.fullmatch(text)`. -/
def matchesUsername (text : String) : Bool :=
  match text.toList with
  | [] => false
  | first :: rest =>
    isAsciiAlphanumeric first && 2 ≤ rest.length && rest.length ≤ 63 &&
      rest.all fun c => isAsciiAlphanumeric c || c == '.' || c == '_' || c == '-'

/-- `EMAIL_RE.fullmatch(text)`: one `@`, no space, text before the `@`, and a
dot inside the domain. -/
def matchesEmail (text : String) : Bool :=
  match Text.splitChars '@' text.toList with
  | [localPart, domain] =>
    !localPart.isEmpty && (localPart ++ domain).all (fun c => !Text.isSpace c) &&
      (domain.drop 1).dropLast.contains '.'
  | _ => false

/-- `normalize_username`, `none` when it raises. -/
def normalizeUsername (env : Platform) (value : String) : Option String :=
  let normalized := Text.casefold env.foldTable (env.nfkc (Text.strip value))
  if !matchesUsername (Text.strip value) || 64 < normalized.length then none
  else some normalized

/-- `normalize_email`, `none` when it raises, `some none` for a missing address. -/
def normalizeEmail (env : Platform) (value : Option String) : Option (Option String) :=
  match value with
  | none => some none
  | some text =>
    if Text.strip text = "" then some none
    else
      let email := Text.casefold env.foldTable (env.nfkc (Text.strip text))
      if 254 < email.length || !matchesEmail email then none else some (some email)

/-- `verify_password`, with the exceptions it does not catch. -/
def verifyPassword (env : Platform) (passwordHash : Option String) (password : String) :
    Except HasherError Bool :=
  match passwordHash with
  | none => .ok false
  | some stored =>
    if stored = "" then .ok false
    else match env.hasherVerify stored password with
      | .ok verified => .ok verified
      | .error .other => .error .other
      | .error _ => .ok false

/-! ## Roles and permissions -/

/-- A row of `access_roles` with the keys of its permissions. -/
structure AccessRole where
  roleKey : String
  enabled : Bool
  permissions : List String

/-- The tables that decide what an account may do. -/
structure Directory where
  users : Table UserAccount
  permissions : List String
  roles : Table AccessRole
  /-- Pairs of a user and a role. -/
  assignments : List (Nat × Nat)

namespace Directory

/-- The permissions of the enabled roles of a user. -/
def rolePermissions (directory : Directory) (user : Nat) : List String :=
  (directory.assignments.filter fun assignment => assignment.1 == user).flatMap
    fun assignment => match directory.roles.get? assignment.2 with
      | some role => if role.enabled then role.permissions else []
      | none => []

def effectivePermissions (directory : Directory) (user : Nat) (account : UserAccount) :
    List String :=
  if account.isSystemAdmin then directory.permissions else directory.rolePermissions user

end Directory

/-!
## Sessions

The rows of `auth_sessions` and the calls that write them
(`session_service.py`, `csrf_service.py`). A session is found by the digest of
its token, so a request carries the token of its cookie and the clock is an
input.
-/

/-- `timedelta(hours=count)`. -/
def hours (count : Nat) : Int := count * 3600000000

/-- `timedelta(seconds=count)`. -/
def seconds (count : Nat) : Int := count * 1000000

/-- The two session settings of `get_config`. -/
structure SessionConfig where
  sessionHours : Nat
  idleMinutes : Nat

/-- A row of `auth_sessions`. -/
structure AuthSession where
  userId : Nat
  tokenHash : String
  csrfTokenHash : String
  createdAt : Instant
  lastSeenAt : Instant
  expiresAt : Instant
  idleExpiresAt : Instant
  revokedAt : Option Instant
  revokeReason : Option String
  mfaVerified : Bool
  sessionVersion : Nat

variable (env : Platform) (config : SessionConfig)

/-- `create_session`, `none` when the digest of the token is taken. -/
def createSession (sessions : Table AuthSession) (now : Instant) (user : Nat)
    (token csrf : String) (mfaVerified : Bool) : Option (Table AuthSession) :=
  if (sessions.first? fun _ row => row.tokenHash == env.hashValue token).isSome then none
  else some (sessions.insert
    { userId := user
      tokenHash := env.hashValue token
      csrfTokenHash := env.hashValue csrf
      createdAt := now
      lastSeenAt := now
      expiresAt := now + hours config.sessionHours
      idleExpiresAt := now + minutes config.idleMinutes
      revokedAt := none
      revokeReason := none
      mfaVerified := mfaVerified
      sessionVersion := 1 })

/-- A session whose lifetime or idle time is over. -/
def AuthSession.isExpired (session : AuthSession) (now : Instant) : Bool :=
  decide (session.expiresAt ≤ now) || decide (session.idleExpiresAt ≤ now)

/-- A session that is revoked. -/
def AuthSession.revoke (session : AuthSession) (now : Instant) (reason : String) : AuthSession :=
  { session with revokedAt := some now, revokeReason := some reason }

/-- The refresh of a session, throttled to once a minute. -/
def AuthSession.refresh (session : AuthSession) (now : Instant) : AuthSession :=
  if seconds 60 ≤ now - session.lastSeenAt then
    { session with
      lastSeenAt := now
      idleExpiresAt := min session.expiresAt (now + minutes config.idleMinutes) }
  else session

/-- The session a cookie names. -/
def cookieSession (sessions : Table AuthSession) (cookie : Option String) :
    Option (Nat × AuthSession) :=
  match cookie with
  | none => none
  | some token =>
    if token = "" then none
    else sessions.first? fun _ row => row.tokenHash == env.hashValue token

/-- `user.status in {"disabled", "locked"}`, and no row at all. -/
def refusesUser (users : Table UserAccount) (user : Nat) : Bool :=
  match users.get? user with
  | none => true
  | some account => account.status == .disabled || account.status == .locked

def lookupSession (users : Table UserAccount) (sessions : Table AuthSession) (now : Instant)
    (cookie : Option String) (refresh : Bool) : Table AuthSession × Option Nat :=
  match cookieSession env sessions cookie with
  | none => (sessions, none)
  | some (key, session) =>
    if session.revokedAt.isSome then (sessions, none)
    else if session.isExpired now then
      (sessions.modify key fun row => row.revoke now "expired", none)
    else if refusesUser users session.userId then (sessions, none)
    else if refresh then (sessions.modify key fun row => row.refresh config now, some key)
    else (sessions, some key)

def rotateCsrf (sessions : Table AuthSession) (key : Nat) (token : String) : Table AuthSession :=
  sessions.modify key fun row =>
    { row with
      csrfTokenHash := env.hashValue token
      sessionVersion := row.sessionVersion + 1 }

def revokeSession (sessions : Table AuthSession) (now : Instant) (key : Nat) (reason : String) :
    Table AuthSession :=
  sessions.modify key fun row =>
    if row.revokedAt.isSome then row else row.revoke now (Text.truncate 120 reason)

def revokeUserSessions (sessions : Table AuthSession) (now : Instant) (user : Nat)
    (reason : String) (exceptSession : Option Nat) : Table AuthSession :=
  sessions.update fun key row =>
    if row.userId = user ∧ row.revokedAt = none ∧ exceptSession ≠ some key then
      row.revoke now (Text.truncate 120 reason)
    else row

def validateCsrf (session : AuthSession) (supplied : String) : Bool :=
  supplied != "" && env.hashValue supplied == session.csrfTokenHash

/-- `logout`: the session of the cookie is revoked when the request proves its
origin. Answers with the session the lookup returned. -/
def logout (users : Table UserAccount) (sessions : Table AuthSession) (now : Instant)
    (cookie : Option String) (csrf : String) : Table AuthSession × Option Nat :=
  match lookupSession env config users sessions now cookie true with
  | (sessions, none) => (sessions, none)
  | (sessions, some key) =>
    if (sessions.get? key).any fun session => validateCsrf env session csrf then
      (revokeSession sessions now key "logout", some key)
    else (sessions, some key)

end ThreatScope.AccessControl
