import ThreatScope.AccessControl.Accounts
import ThreatScope.Library.Runs
import ThreatScope.Library.SingleUse

/-!
# Second factors

Authenticator devices, recovery codes and login challenges
(`mfa_service.py`), with the routes that present a second factor or replace
one (`router.py`): login, enrollment, disabling, regeneration and the
administrator's reset.

`verify_user_factor` answers with the factor it accepted rather than with
`True`, so that a run can say what was accepted when. A call that raises keeps
what was committed before it and nothing else.
-/

set_option autoImplicit false

namespace ThreatScope.AccessControl

open Library

/-- What the second factors take from `pyotp`, `cryptography` and the Unicode
tables. -/
structure MfaPlatform extends Platform where
  /-- `pyotp.TOTP(secret).generate_otp(counter)`. -/
  generateOtp : String → Int → String
  /-- `decrypt_secret`, `none` when it raises. -/
  decryptSecret : String → Option String
  /-- `encrypt_secret`, `none` when it raises. -/
  encryptSecret : String → Option String
  /-- The characters `\\d` matches. -/
  isDigit : Char → Bool
  /-- `text.upper()`. -/
  upper : String → String

/-- A row of `mfa_devices`. -/
structure MfaDevice where
  userId : Nat
  label : String
  secretEncryptedOrProtected : String
  enabled : Bool
  confirmedAt : Option Instant
  lastUsedCounter : Option Int
  lastUsedAt : Option Instant
  enrollmentExpiresAt : Option Instant
  failedAttempts : Nat
  createdAt : Instant
  disabledAt : Option Instant

/-- A row of `mfa_recovery_codes`. -/
structure MfaRecoveryCode where
  userId : Nat
  codeHash : String
  usedAt : Option Instant

/-- A row of `mfa_login_challenges`. -/
structure MfaLoginChallenge where
  userId : Nat
  challengeTokenHash : String
  expiresAt : Instant
  usedAt : Option Instant
  failedAttempts : Nat

/-- The tables the second factors live in. -/
structure MfaState where
  users : Table UserAccount
  devices : Table MfaDevice
  recoveryCodes : Table MfaRecoveryCode
  challenges : Table MfaLoginChallenge

/-- The ways a call ends without its result. -/
inductive MfaError where
  | secretUnavailable
  | typeError
  | integrity
  | noPendingSetup
  | enrollmentExpired
  | enrollmentRateLimit
  | invalidEnrollmentCode
  | notEligible
  | wrongPassword
  | alreadyEnabled
  | notEnabled
  | notConfirmed
  | factorRejected
  | invalidChallenge
  | codeRequired
  | notFound
  | hasher (error : HasherError)

/-- A factor that was accepted: a time step of a device, or a recovery code. -/
inductive Factor where
  | totp (device : Nat) (counter : Int)
  | recovery (digest : String)

variable (env : MfaPlatform)

/-! ## Time-based codes -/

def totpCounter (now : Instant) : Int := now.tdiv 1000000 / 30

/-- `hmac.compare_digest` on two texts. -/
def compareDigest (left right : String) : Except MfaError Bool :=
  if (left.toList ++ right.toList).all fun c => c.toNat < 128 then .ok (left == right)
  else .error .typeError

/-- The first of the counters whose code is the presented one. -/
def matchedCounter (expected : Int → String) (normalized : String) :
    List Int → Except MfaError (Option Int)
  | [] => .ok none
  | candidate :: rest =>
    match compareDigest (expected candidate) normalized with
    | .error error => .error error
    | .ok true => .ok (some candidate)
    | .ok false => matchedCounter expected normalized rest

/-- `verify_totp`, answering with the counter it accepts. -/
def verifyTotp (device : MfaDevice) (now : Instant) (code : String) :
    Except MfaError (Option Int) :=
  let normalized := Text.strip code
  if !(normalized.length == 6 && normalized.toList.all env.isDigit) then .ok none
  else match env.decryptSecret device.secretEncryptedOrProtected with
    | none => .error .secretUnavailable
    | some secret =>
      let current := totpCounter now
      match matchedCounter (env.generateOtp secret) normalized
          [current - 1, current, current + 1] with
      | .error error => .error error
      | .ok none => .ok none
      | .ok (some counter) =>
        match device.lastUsedCounter with
        | some last => if counter ≤ last then .ok none else .ok (some counter)
        | none => .ok (some counter)

/-- The device after a counter is accepted. -/
def MfaDevice.use (device : MfaDevice) (now : Instant) (counter : Int) : MfaDevice :=
  { device with lastUsedCounter := some counter, lastUsedAt := some now }

/-! ## Recovery codes -/

/-- `_format_code` on the text `secrets.token_hex(6)` returns. -/
def formatCode (token : String) : String :=
  let raw := (env.upper token).toList
  String.ofList (raw.take 4 ++ '-' :: (raw.drop 4).take 4 ++ '-' :: raw.drop 8)

def recoveryHash (code : String) : String :=
  env.hashValue
    ("recovery:" ++ env.upper (Text.strip (Text.replaceChar '-' none code)))

/-- Add the rows of new codes. -/
def insertCodes (user : Nat) : List String → Table MfaRecoveryCode → Table MfaRecoveryCode
  | [], codes => codes
  | digest :: rest, codes => insertCodes user rest (codes.insert ⟨user, digest, none⟩)

/-- `generate_recovery_codes`: the old codes of the user are deleted and new
ones stored. The digests are unique in the table. -/
def generateRecoveryCodes (codes : Table MfaRecoveryCode) (user : Nat) (tokens : List String) :
    Except MfaError (Table MfaRecoveryCode × List String) :=
  let kept := codes.deleteWhere fun _ row => row.userId == user
  let digests := tokens.map fun token => recoveryHash env (formatCode env token)
  if digests.Nodup ∧ ∀ row ∈ kept.rows, row.2.codeHash ∉ digests then
    .ok (insertCodes user digests kept, digests)
  else .error .integrity

/-- `consume_recovery_code`, answering with the digest it accepts. -/
def consumeRecoveryCode (state : MfaState) (now : Instant) (user : Nat) (code : String) :
    MfaState × Option String :=
  let digest := recoveryHash env code
  match state.recoveryCodes.first? fun _ row =>
      row.userId == user && row.codeHash == digest && row.usedAt == none with
  | none => (state, none)
  | some (key, _) =>
    ({ state with
        recoveryCodes := state.recoveryCodes.modify key fun row =>
          { row with usedAt := some now } },
      some digest)

def verifyUserFactor (state : MfaState) (now : Instant) (user : Nat) (value : String)
    (recovery : Bool) : MfaState × Except MfaError (Option Factor) :=
  if recovery then
    let (state, accepted) := consumeRecoveryCode env state now user value
    (state, .ok (accepted.map Factor.recovery))
  else match state.devices.first? fun _ device => device.userId == user && device.enabled with
    | none => (state, .ok none)
    | some (key, device) =>
      match verifyTotp env device now value with
      | .error error => (state, .error error)
      | .ok none => (state, .ok none)
      | .ok (some counter) =>
        ({ state with devices := state.devices.modify key fun row => row.use now counter },
          .ok (some (.totp key counter)))

/-! ## Enrollment -/

/-- The newest device of a user that is not enabled. -/
def pendingDevice (devices : Table MfaDevice) (user : Nat) (deviceId : Option Nat) :
    Option (Nat × MfaDevice) :=
  devices.newest? MfaDevice.createdAt fun key device =>
    device.userId == user && !device.enabled && match deviceId with
      | some wanted => key == wanted
      | none => true

def cancelEnrollment (state : MfaState) (user : Nat) : MfaState :=
  { state with
    devices := state.devices.deleteWhere fun _ device => device.userId == user && !device.enabled }

/-- `begin_enrollment`, with the secret `pyotp.random_base32` draws. -/
def beginEnrollment (state : MfaState) (now : Instant) (user : Nat) (label : String)
    (restart : Bool) (secret : String) : MfaState × Except MfaError Nat :=
  let fresh : MfaState × Except MfaError Nat :=
    match env.encryptSecret secret with
    | none => (state, .error .secretUnavailable)
    | some stored =>
      let cleared := cancelEnrollment state user
      let trimmed := Text.truncate 100 (Text.strip label)
      let device : MfaDevice :=
        { userId := user
          label := if trimmed = "" then "Authenticator" else trimmed
          secretEncryptedOrProtected := stored
          enabled := false
          confirmedAt := none
          lastUsedCounter := none
          lastUsedAt := none
          enrollmentExpiresAt := some (now + minutes 10)
          failedAttempts := 0
          createdAt := now
          disabledAt := none }
      ({ cleared with devices := cleared.devices.insert device },
        .ok cleared.devices.nextKey)
  match pendingDevice state.devices user none with
  | some (key, device) =>
    match device.enrollmentExpiresAt with
    | some expires =>
      if now < expires && !restart then
        match env.decryptSecret device.secretEncryptedOrProtected with
        | none => (state, .error .secretUnavailable)
        | some _ => (state, .ok key)
      else fresh
    | none => fresh
  | none => fresh

/-- `confirm_enrollment`, answering with the accepted factor and the digests of
the new recovery codes. -/
def confirmEnrollment (state : MfaState) (now : Instant) (user : Nat) (code : String)
    (deviceId : Option Nat) (tokens : List String) :
    MfaState × Except MfaError (Factor × List String) :=
  match pendingDevice state.devices user deviceId with
  | none => (state, .error .noPendingSetup)
  | some (key, device) =>
    if !(device.enrollmentExpiresAt.any fun expires => now < expires) then
      ({ state with devices := state.devices.deleteWhere fun other _ => other == key },
        .error .enrollmentExpired)
    else if 5 ≤ device.failedAttempts then (state, .error .enrollmentRateLimit)
    else match verifyTotp env device now code with
      | .error error => (state, .error error)
      | .ok none =>
        ({ state with
            devices := state.devices.modify key fun row =>
              { row with failedAttempts := row.failedAttempts + 1 } },
          .error (if 5 ≤ device.failedAttempts + 1 then .enrollmentRateLimit
            else .invalidEnrollmentCode))
      | .ok (some counter) =>
        match generateRecoveryCodes env state.recoveryCodes user tokens with
        | .error error => (state, .error error)
        | .ok (codes, digests) =>
          ({ state with
              users := state.users.modify user fun row => { row with mfaEnabled := true }
              devices := state.devices.modify key fun row =>
                { row.use now counter with
                  enabled := true
                  confirmedAt := some now
                  enrollmentExpiresAt := none
                  failedAttempts := 0 }
              recoveryCodes := codes },
            .ok (.totp key counter, digests))

/-- What `mfa_status` writes: an expired setup is deleted. -/
def mfaStatus (state : MfaState) (now : Instant) (user : Nat) : MfaState :=
  match pendingDevice state.devices user none with
  | some (key, device) =>
    if device.enrollmentExpiresAt.any fun expires => now < expires then state
    else { state with devices := state.devices.deleteWhere fun other _ => other == key }
  | none => state

/-! ## Login challenges -/

/-- `create_challenge`, with the token `secrets.token_urlsafe` draws. -/
def createChallenge (state : MfaState) (now : Instant) (user : Nat) (token : String) : MfaState :=
  { state with
    challenges := state.challenges.insert
      ⟨user, env.hashValue token, now + minutes 5, none, 0⟩ }

def getChallenge (state : MfaState) (now : Instant) (token : String) :
    Option (Nat × MfaLoginChallenge) :=
  (state.challenges.first? fun _ row => row.challengeTokenHash == env.hashValue token).filter
    fun found => found.2.usedAt == none && now < found.2.expiresAt && found.2.failedAttempts < 5

/-! ## The routes -/

/-- What a call leaves and answers: the factor it accepted, whether it withdrew
the user's recovery codes, and the digests of those it issued. -/
structure MfaReply where
  state : MfaState
  user : Nat
  accepted : Option Factor
  withdrawn : Bool
  issued : List String
  error : Option MfaError

/-- A call that raises. -/
def MfaReply.raised (state : MfaState) (user : Nat) (accepted : Option Factor)
    (error : MfaError) : MfaReply :=
  ⟨state, user, accepted, false, [], some error⟩

/-- A call that neither accepts nor replaces a factor. -/
def MfaReply.quiet (state : MfaState) (user : Nat) : MfaReply :=
  ⟨state, user, none, false, [], none⟩

def verifyMfaLogin (state : MfaState) (now : Instant) (token code : String) (recovery : Bool) :
    MfaReply :=
  match getChallenge env state now token with
  | none => .raised state 0 none .invalidChallenge
  | some (challenge, row) =>
    match state.users.get? row.userId with
    | none => .raised state row.userId none .invalidChallenge
    | some user =>
      if user.status = .disabled || user.status = .locked then
        .raised state row.userId none .invalidChallenge
      else match verifyUserFactor env state now row.userId code recovery with
        | (state, .error error) => .raised state row.userId none error
        | (state, .ok none) =>
          .raised { state with
              challenges := state.challenges.modify challenge fun row =>
                { row with failedAttempts := row.failedAttempts + 1 } }
            row.userId none .factorRejected
        | (state, .ok (some factor)) =>
          ⟨{ state with
              challenges := state.challenges.modify challenge fun row =>
                { row with usedAt := some now } },
            row.userId, some factor, false, [], none⟩

/-- `_require_mfa_eligible`. -/
def mfaEligible (user : UserAccount) (now : Instant) : Bool :=
  user.status == .active && !user.mustChangePassword &&
    !(user.lockedUntil.any fun lockedUntil => now < lockedUntil)

def enrollMfa (state : MfaState) (now : Instant) (key : Nat) (password label : String)
    (restart : Bool) (secret : String) : MfaReply :=
  match state.users.get? key with
  | none => .raised state key none .notFound
  | some user =>
    if !mfaEligible user now then .raised state key none .notEligible
    else match verifyPassword env.toPlatform (some user.passwordHash) password with
      | .error error => .raised state key none (.hasher error)
      | .ok false => .raised state key none .wrongPassword
      | .ok true =>
        if user.mfaEnabled then .raised state key none .alreadyEnabled
        else match beginEnrollment env state now key label restart secret with
          | (state, .error error) => .raised state key none error
          | (state, .ok _) => .quiet state key

def confirmMfa (state : MfaState) (now : Instant) (key : Nat) (code : String)
    (deviceId : Option Nat) (tokens : List String) : MfaReply :=
  match state.users.get? key with
  | none => .raised state key none .notFound
  | some user =>
    if !mfaEligible user now then .raised state key none .notEligible
    else if user.mfaEnabled then .raised state key none .alreadyEnabled
    else match confirmEnrollment env state now key code deviceId tokens with
      | (state, .error error) => .raised state key none error
      | (state, .ok (factor, digests)) => ⟨state, key, some factor, true, digests, none⟩

/-- What disabling and the reset write to the devices they select. -/
def disableDevices (devices : Table MfaDevice) (now : Instant)
    (selected : MfaDevice → Bool) : Table MfaDevice :=
  devices.update fun _ device =>
    if selected device then { device with enabled := false, disabledAt := some now } else device

def disableMfa (state : MfaState) (now : Instant) (key : Nat) (confirmDisable : Bool)
    (password code : String) (recovery : Bool) : MfaReply :=
  match state.users.get? key with
  | none => .raised state key none .notFound
  | some user =>
    if !confirmDisable then .raised state key none .notConfirmed
    else if !user.mfaEnabled then .raised state key none .notEnabled
    else match verifyPassword env.toPlatform (some user.passwordHash) password with
      | .error error => .raised state key none (.hasher error)
      | .ok false => .raised state key none .factorRejected
      | .ok true =>
        match verifyUserFactor env state now key code recovery with
        | (state, .error error) => .raised state key none error
        | (state, .ok none) => .raised state key none .factorRejected
        | (state, .ok (some factor)) =>
          ⟨{ users := state.users.modify key fun row => { row with mfaEnabled := false }
             devices := disableDevices state.devices now fun device =>
               device.userId == key && device.enabled
             recoveryCodes := state.recoveryCodes.deleteWhere fun _ row => row.userId == key
             challenges := state.challenges.deleteWhere fun _ row =>
               row.userId == key && row.usedAt == none },
            key, some factor, true, [], none⟩

/-- `regenerate_recovery`. The factor is committed before the codes are drawn. -/
def regenerateRecovery (state : MfaState) (now : Instant) (key : Nat) (password code : String)
    (recovery : Bool) (tokens : List String) : MfaReply :=
  match state.users.get? key with
  | none => .raised state key none .notFound
  | some user =>
    if recovery then .raised state key none .codeRequired
    else match verifyPassword env.toPlatform (some user.passwordHash) password with
      | .error error => .raised state key none (.hasher error)
      | .ok false => .raised state key none .factorRejected
      | .ok true =>
        match verifyUserFactor env state now key code recovery with
        | (state, .error error) => .raised state key none error
        | (state, .ok none) => .raised state key none .factorRejected
        | (state, .ok (some factor)) =>
          match generateRecoveryCodes env state.recoveryCodes key tokens with
          | .error error => .raised state key (some factor) error
          | .ok (codes, digests) =>
            ⟨{ state with recoveryCodes := codes }, key, some factor, true, digests, none⟩

def resetMfa (state : MfaState) (now : Instant) (key : Nat) : MfaReply :=
  match state.users.get? key with
  | none => .raised state key none .notFound
  | some _ =>
    ⟨{ state with
        users := state.users.modify key fun row =>
          { row with
            mfaEnabled := false
            mustChangePassword := true
            status := if row.status = .disabled then .disabled else .pendingPasswordChange }
        devices := disableDevices state.devices now fun device => device.userId == key
        recoveryCodes := state.recoveryCodes.deleteWhere fun _ row => row.userId == key },
      key, none, true, [], none⟩

/-- A call, with the random draws it makes. -/
inductive MfaCall where
  | challenge (user : Nat) (token : String)
  | verifyLogin (token code : String) (recovery : Bool)
  | enroll (user : Nat) (password label : String) (restart : Bool) (secret : String)
  | status (user : Nat)
  | confirm (user : Nat) (code : String) (deviceId : Option Nat) (tokens : List String)
  | cancel (user : Nat)
  | disable (user : Nat) (confirmDisable : Bool) (password code : String) (recovery : Bool)
  | regenerate (user : Nat) (password code : String) (recovery : Bool) (tokens : List String)
  | reset (user : Nat)

/-- A call at a time. -/
structure MfaRequest where
  now : Instant
  call : MfaCall

/-- Answer a call. -/
def mfaReply (state : MfaState) (request : MfaRequest) : MfaReply :=
  match request.call with
  | .challenge user token => .quiet (createChallenge env state request.now user token) user
  | .verifyLogin token code recovery =>
    verifyMfaLogin env state request.now token code recovery
  | .enroll user password label restart secret =>
    enrollMfa env state request.now user password label restart secret
  | .status user => .quiet (mfaStatus state request.now user) user
  | .confirm user code deviceId tokens =>
    confirmMfa env state request.now user code deviceId tokens
  | .cancel user => .quiet (cancelEnrollment state user) user
  | .disable user confirmDisable password code recovery =>
    disableMfa env state request.now user confirmDisable password code recovery
  | .regenerate user password code recovery tokens =>
    regenerateRecovery env state request.now user password code recovery tokens
  | .reset user => resetMfa state request.now user

/-- The state a call leaves. -/
def mfaStep (state : MfaState) (request : MfaRequest) : MfaState :=
  (mfaReply env state request).state

end ThreatScope.AccessControl
