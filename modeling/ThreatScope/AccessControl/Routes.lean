import ThreatScope.AccessControl.Administration

/-!
# The routes as one machine

Login, second factor, logout, the self-service of an account, the playbook actions
on accounts, and the admission of a request (`router.py`, `dependencies.py`). A run
is any sequence of their calls (`AccessState.next`).
-/

set_option autoImplicit false

namespace ThreatScope.AccessControl

open Library

variable (env : AccountPlatform) (config : AccessConfig)

/-! ## Logging in -/

/-- The random draws of a login. -/
structure LoginDraws where
  token : String
  csrf : String
  challenge : String

/-- `login`. An account that waits or was rejected gets no session; one with a
second factor gets a challenge. -/
def loginRoute (state : AccessState) (request : LoginRequest) (draws : LoginDraws) : AccessState :=
  if !config.localLoginEnabled then state
  else match authenticatePassword env.toPlatform config.login state.login request with
    | (login, .error _) => state.withLogin login
    | (login, .ok key) =>
      let cleared := state.withLogin login
      match cleared.users.get? key with
      | none => cleared
      | some user =>
        if user.status = .pendingApproval ∨ user.status = .rejected then cleared
        else if user.mfaEnabled then
          cleared.withMfa (createChallenge env.toMfaPlatform cleared.mfa request.now key
            draws.challenge)
        else match createSession env.toPlatform config.session cleared.sessions
            request.now key draws.token draws.csrf false with
          | some sessions => cleared.withSessions sessions
          | none => cleared

/-- `verify_mfa_login`. A token that is taken rolls back to what the factor committed. -/
def verifyMfaLoginRoute (state : AccessState) (now : Instant) (challenge code : String)
    (recovery : Bool) (draws : LoginDraws) : AccessState :=
  let reply := verifyMfaLogin env.toMfaPlatform state.mfa now challenge code recovery
  match reply.accepted with
  | none => state.withMfa reply.state
  | some _ =>
    match createSession env.toPlatform config.session state.sessions now reply.user
        draws.token draws.csrf true with
    | some sessions => (state.withMfa reply.state).withSessions sessions
    | none => state.withMfa
        (verifyUserFactor env.toMfaPlatform state.mfa now reply.user code recovery).1

/-! ## The account's own routes -/

/-- The second factor routes of a session, and the administrator's reset. Disabling
ends the other sessions of the account, the reset all of them. -/
def mfaRoute (state : AccessState) (now : Instant) (call : MfaCall) (current : Nat)
    (csrf : String) : AccessState :=
  let reply := mfaReply env.toMfaPlatform state.mfa ⟨now, call⟩
  let written := state.withMfa reply.state
  match reply.error, call with
  | none, .confirm .. =>
    written.withSessions (rotateCsrf env.toPlatform written.sessions current csrf)
  | none, .disable user _ _ _ _ =>
    written.withSessions (rotateCsrf env.toPlatform
      (revokeUserSessions written.sessions now user "mfa_disabled" (some current)) current csrf)
  | none, .reset user =>
    written.withSessions
      (revokeUserSessions written.sessions now user "administrator_mfa_reset" none)
  | _, _ => written

def changePassword (state : AccessState) (now : Instant) (current : Nat)
    (currentPassword newPassword salt csrf : String) : AccessState :=
  match state.sessions.get? current with
  | none => state
  | some session =>
    match state.users.get? session.userId with
    | none => state
    | some user =>
      match verifyPassword env.toPlatform (some user.passwordHash) currentPassword with
      | .ok true =>
        match setPassword env state now session.userId user newPassword salt false
            "password_changed" (some current) with
        | .ok written => written.withSessions
            (rotateCsrf env.toPlatform written.sessions current csrf)
        | .error _ => state
      | _ => state

/-! ## Playbooks -/

/-- The playbook actions on accounts and sessions. -/
inductive SensitiveAction where
  | revokeSelectedSession
  | revokeOtherUserSessions
  | temporarilyDisableUser
  | reenableUser
deriving DecidableEq

/-- The catalog key of the action. -/
def SensitiveAction.key : SensitiveAction → Soar.ActionKey
  | .revokeSelectedSession => .revokeSelectedSession
  | .revokeOtherUserSessions => .revokeOtherUserSessions
  | .temporarilyDisableUser => .temporarilyDisableUser
  | .reenableUser => .reenableUser

/-- A playbook step of an execution that acts on accounts. -/
def soarDispatch {ρ : Type} (soar : Soar.SoarPlatform ρ) (state : AccessState)
    (action : SensitiveAction) (rest : Soar.Store ρ) (context : Soar.DispatchContext) :
    AccessState :=
  match Soar.dispatch soar (action.key.definition) (state.store rest) context with
  | .ok outcome => state.withStore outcome.store
  | .error _ => state

/-! ## Admission -/

/-- A request of the platform: `required` and `requireAll` are what
`required_permissions` answers for its path. -/
structure PlatformRequest where
  cookie : Option String
  method : String
  csrf : String
  required : List String
  requireAll : Bool

/-- `request.method.upper() in {"POST", "PUT", "PATCH", "DELETE"}`. -/
def PlatformRequest.mutates (request : PlatformRequest) : Bool :=
  ["POST", "PUT", "PATCH", "DELETE"].contains (env.upper request.method)

/-- `required.issubset(current) if require_all else bool(required.intersection(current))`. -/
def PlatformRequest.allows (request : PlatformRequest) (current : List String) : Bool :=
  if request.requireAll then request.required.all current.contains
  else request.required.any current.contains

/-- `authorize_platform_request`, answering with the account it admits. -/
def authorizePlatformRequest (state : AccessState) (now : Instant) (request : PlatformRequest) :
    AccessState × Except HttpError Nat :=
  match lookupSession env.toPlatform config.session state.users state.sessions now
      request.cookie true with
  | (sessions, none) => (state.withSessions sessions, .error ⟨401, "Authentication required"⟩)
  | (sessions, some key) =>
    (state.withSessions sessions,
      match (sessions.get? key).bind fun session =>
          (state.users.get? session.userId).map fun user => (session, user) with
      | none => .error ⟨401, "Authentication required"⟩
      | some (session, user) =>
        let current := state.directory.effectivePermissions session.userId user
        if user.mustChangePassword then .error ⟨403, "Password change required"⟩
        else if !request.required.isEmpty && !request.allows current then
          .error ⟨403, "Permission denied"⟩
        else if request.mutates env &&
            !validateCsrf env.toPlatform session request.csrf then
          .error ⟨403, "CSRF validation failed"⟩
        else .ok session.userId)

/-! ## The machine -/

/-- The state before the first account, with the seeded permissions and roles. -/
def AccessState.initial (permissions : List String) (roles : Table AccessRole) : AccessState where
  directory := ⟨Table.empty, permissions, roles, []⟩
  attempts := []
  devices := Table.empty
  recoveryCodes := Table.empty
  challenges := Table.empty
  sessions := Table.empty

/-- A call of a route. -/
inductive AccessCall (ρ : Type) where
  | login (request : LoginRequest) (draws : LoginDraws)
  | verifyMfaLogin (challenge code : String) (recovery : Bool) (draws : LoginDraws)
  | mfa (call : MfaCall) (current : Nat) (csrf : String)
  | changePassword (current : Nat) (currentPassword newPassword salt csrf : String)
  | register (payload : RegistrationRequest) (tokens : List String) (salt : String)
  | createUser (payload : UserCreate) (salt : String)
  | approve (user : Nat) (keys : List String) (confirmAdministrator : Bool)
  | reject (user : Nat) (reason : String)
  | reopen (user : Nat)
  | update (user : Nat) (payload : UserUpdate)
  | disable (user : Nat)
  | enable (user : Nat)
  | unlock (user : Nat)
  | resetPassword (user : Nat) (password salt : String)
  | setRoles (user : Nat) (keys : List String)
  | roles (roles : Table AccessRole)
  | soar (action : SensitiveAction) (rest : Soar.Store ρ) (context : Soar.DispatchContext)
  | logout (cookie : Option String) (csrf : String)
  | rotateCsrf (session : Nat) (token : String)
  | revokeSession (session : Nat) (reason : String)
  | revokeUserSessions (user : Nat) (reason : String) (exceptSession : Option Nat)
  | authorize (request : PlatformRequest)

/-- A call at a time. -/
structure AccessRequest (ρ : Type) where
  now : Instant
  call : AccessCall ρ

/-- The state a service leaves: its own, or the one before when it raises. -/
def AccessState.after (state : AccessState) {ε : Type} (result : Except ε AccessState) :
    AccessState :=
  match result with
  | .ok written => written
  | .error _ => state

/-- The state a call leaves. -/
def AccessState.next {ρ : Type} (soar : Soar.SoarPlatform ρ) (state : AccessState)
    (request : AccessRequest ρ) : AccessState :=
  let now := request.now
  match request.call with
  | .login login draws => loginRoute env config state { login with now := now } draws
  | .verifyMfaLogin challenge code recovery draws =>
    verifyMfaLoginRoute env config state now challenge code recovery draws
  | .mfa call current csrf => mfaRoute env state now call current csrf
  | .changePassword current currentPassword newPassword salt csrf =>
    AccessControl.changePassword env state now current currentPassword newPassword salt csrf
  | .register payload tokens salt =>
    state.after (registerLocalAccount env config state payload tokens salt)
  | .createUser payload salt => state.after (AccessControl.createUser env state payload salt)
  | .approve key keys confirmAdministrator =>
    state.after (userRoute state key fun user =>
      approveRegistration state key user keys confirmAdministrator)
  | .reject key reason =>
    state.after (userRoute state key fun user => rejectRegistration state now key user reason)
  | .reopen key => state.after (userRoute state key (reopenRegistration state key))
  | .update key payload =>
    state.after (userRoute state key fun user =>
      adminUpdateUser env state key user payload)
  | .disable key => state.after (userRoute state key (disableUser state now key))
  | .enable key => state.after (userRoute state key (enableUser state key))
  | .unlock key => state.after (userRoute state key (unlockUser env state key))
  | .resetPassword key password salt =>
    state.after (userRoute state key fun user =>
      setPassword env state now key user password salt true
        "administrator_password_reset" none)
  | .setRoles key keys =>
    state.after (userRoute state key fun user => setUserRoles state now key user keys)
  | .roles roles => { state with directory := { state.directory with roles := roles } }
  | .soar action rest context => soarDispatch soar state action rest context
  | .logout cookie csrf =>
    state.withSessions (AccessControl.logout env.toPlatform config.session state.users
      state.sessions now cookie csrf).1
  | .rotateCsrf session token =>
    state.withSessions
      (AccessControl.rotateCsrf env.toPlatform state.sessions session token)
  | .revokeSession session reason =>
    state.withSessions (AccessControl.revokeSession state.sessions now session reason)
  | .revokeUserSessions user reason exceptSession =>
    state.withSessions
      (AccessControl.revokeUserSessions state.sessions now user reason exceptSession)
  | .authorize request => (authorizePlatformRequest env config state now request).1

/-- The account a call admits. -/
def AccessRequest.admits {ρ : Type} (request : AccessRequest ρ) (state : AccessState) :
    Option Nat :=
  match request.call with
  | .authorize platformRequest =>
    (authorizePlatformRequest env config state request.now platformRequest).2.toOption
  | _ => none

end ThreatScope.AccessControl
