import ThreatScope.AccessControl.Authentication

/-!
# The lifetime of a session

A session ends at a fixed time, after a time without use, or when it is revoked.
The use is recorded at most once a minute, so the row lags behind the real use:
`last_seen_at` is never later than the last use, and `idle_expires_at` is at most
`idle_minutes` after `last_seen_at`. With that, a lookup that returns a session
comes before the end of the session and of its idle time, whenever the session
was used last (`session_lifetime`).

Every call writes a row in one of three ways (`RowEffect`): it keeps its times,
it refreshes them while it returns the session, or it revokes it.
-/

set_option autoImplicit false

namespace ThreatScope.AccessControl

open Library

/-- The accounts and their sessions. -/
structure SessionState where
  users : Table UserAccount
  sessions : Table AuthSession

/-- What is done with the sessions. Everything else may only write accounts. -/
inductive SessionCall where
  | create (user : Nat) (token csrf : String) (mfaVerified : Bool)
  | lookup (cookie : Option String) (refresh : Bool)
  | logout (cookie : Option String) (csrf : String)
  | rotate (key : Nat) (token : String)
  | revoke (key : Nat) (reason : String)
  | revokeUser (user : Nat) (reason : String) (exceptSession : Option Nat)
  | accounts (users : Table UserAccount)

/-- A call with its time. -/
structure SessionRequest where
  now : Instant
  call : SessionCall

variable (env : Platform) (config : SessionConfig)

/-- The sessions a call leaves, and the session its lookup returns. -/
def SessionState.perform (state : SessionState) (request : SessionRequest) :
    SessionState × Option Nat :=
  match request.call with
  | .create user token csrf mfaVerified =>
    ({ state with
        sessions := (createSession env config state.sessions request.now user token csrf
          mfaVerified).getD state.sessions }, none)
  | .lookup cookie refresh =>
    let (sessions, found) :=
      lookupSession env config state.users state.sessions request.now cookie refresh
    ({ state with sessions := sessions }, found)
  | .logout cookie csrf =>
    let (sessions, found) :=
      AccessControl.logout env config state.users state.sessions request.now cookie csrf
    ({ state with sessions := sessions }, found)
  | .rotate key token =>
    ({ state with sessions := rotateCsrf env state.sessions key token }, none)
  | .revoke key reason =>
    ({ state with sessions := revokeSession state.sessions request.now key reason }, none)
  | .revokeUser user reason exceptSession =>
    ({ state with
        sessions := revokeUserSessions state.sessions request.now user reason exceptSession },
      none)
  | .accounts users => ({ state with users := users }, none)

/-- The next state. -/
def SessionState.next (state : SessionState) (request : SessionRequest) : SessionState :=
  (state.perform env config request).1

/-- The cookie of a call that looks a session up. -/
def SessionCall.cookie : SessionCall → Option String
  | .lookup cookie _ => cookie
  | .logout cookie _ => cookie
  | _ => none

/-- The session a transition returns. -/
def returned (move : Transition SessionState SessionRequest) : Option Nat :=
  (move.before.perform env config move.input).2

/-- The transition creates the session or returns it. -/
def usesSession (move : Transition SessionState SessionRequest) (key : Nat) : Bool :=
  returned env config move == some key ||
    (move.before.sessions.get? key).isNone && (move.after.sessions.get? key).isSome

/-- The last creation or successful lookup of a session. -/
def lastUse (past : List (Transition SessionState SessionRequest)) (key : Nat) :
    Option Instant :=
  ((past.filter fun move => usesSession env config move key).getLast?).map
    fun move => move.input.now

/-- The session is revoked after the transition. -/
def IsRevoked (move : Transition SessionState SessionRequest) (key : Nat) : Prop :=
  ∃ session, move.after.sessions.get? key = some session ∧ session.revokedAt.isSome = true

/-- The transition looks the session up and finds it revoked or expired. -/
def FindsEnded (move : Transition SessionState SessionRequest) (key : Nat) : Prop :=
  ∃ session, cookieSession env move.before.sessions move.input.call.cookie =
      some (key, session) ∧
    (session.revokedAt.isSome = true ∨ session.isExpired move.input.now = true)

/-- The transition moves the idle time of the session. -/
def Refreshes (move : Transition SessionState SessionRequest) (key : Nat) : Prop :=
  ∃ old new, move.before.sessions.get? key = some old ∧
    move.after.sessions.get? key = some new ∧
    (new.lastSeenAt ≠ old.lastSeenAt ∨ new.idleExpiresAt ≠ old.idleExpiresAt)

/-! ## What a call does to a row -/

/-- What a call at a time leaves of a row: `refreshed` says that the call returned
the session. -/
structure RowEffect (now : Instant) (refreshed : Prop) (old new : AuthSession) : Prop where
  userId : new.userId = old.userId
  createdAt : new.createdAt = old.createdAt
  expiresAt : new.expiresAt = old.expiresAt
  revoked : old.revokedAt.isSome = true → new.revokedAt.isSome = true
  times : (new.lastSeenAt = old.lastSeenAt ∧ new.idleExpiresAt = old.idleExpiresAt) ∨
    (refreshed ∧ new.lastSeenAt = now ∧
      new.idleExpiresAt = min old.expiresAt (now + minutes config.idleMinutes))

section Rows

variable {env config} {now : Instant} {refreshed : Prop}

theorem RowEffect.of_same {old new : AuthSession} (userId : new.userId = old.userId)
    (createdAt : new.createdAt = old.createdAt) (expiresAt : new.expiresAt = old.expiresAt)
    (revoked : old.revokedAt.isSome = true → new.revokedAt.isSome = true)
    (lastSeenAt : new.lastSeenAt = old.lastSeenAt)
    (idleExpiresAt : new.idleExpiresAt = old.idleExpiresAt) :
    RowEffect config now refreshed old new :=
  ⟨userId, createdAt, expiresAt, revoked, .inl ⟨lastSeenAt, idleExpiresAt⟩⟩

theorem RowEffect.refl (row : AuthSession) : RowEffect config now refreshed row row :=
  .of_same rfl rfl rfl id rfl rfl

theorem RowEffect.revoke (row : AuthSession) (reason : String) :
    RowEffect config now refreshed row (row.revoke now reason) :=
  .of_same rfl rfl rfl (fun _ => rfl) rfl rfl

theorem RowEffect.refresh (row : AuthSession) (returns : refreshed) :
    RowEffect config now refreshed row (row.refresh config now) := by
  unfold AuthSession.refresh
  split
  · exact ⟨rfl, rfl, rfl, id, .inr ⟨returns, rfl, rfl⟩⟩
  · exact .refl row

theorem RowEffect.trans {first second third : AuthSession}
    (earlier : RowEffect config now refreshed first second)
    (later : RowEffect config now refreshed second third) :
    RowEffect config now refreshed first third := by
  refine ⟨later.userId.trans earlier.userId, later.createdAt.trans earlier.createdAt,
    later.expiresAt.trans earlier.expiresAt,
    fun revoked => later.revoked (earlier.revoked revoked), ?_⟩
  rcases later.times with ⟨lastSeenAt, idleExpiresAt⟩ | ⟨returns, lastSeenAt, idleExpiresAt⟩
  · rw [lastSeenAt, idleExpiresAt]
    exact earlier.times
  · rw [earlier.expiresAt] at idleExpiresAt
    exact .inr ⟨returns, lastSeenAt, idleExpiresAt⟩

end Rows

/-- A session a call creates has the times of the call. -/
structure Created (now : Instant) (row : AuthSession) : Prop where
  createdAt : row.createdAt = now
  lastSeenAt : row.lastSeenAt = now
  expiresAt : row.expiresAt = now + hours config.sessionHours
  idleExpiresAt : row.idleExpiresAt = now + minutes config.idleMinutes

/-- Two tables have the same rows, up to the effect of a call. -/
def RowsEffect (now : Instant) (found : Option Nat) (old new : Table AuthSession) : Prop :=
  ∀ key, Option.Rel (RowEffect config now (found = some key)) (old.get? key) (new.get? key)

section Tables

variable {env config} {now : Instant} {found : Option Nat} {sessions : Table AuthSession}

theorem RowsEffect.refl (found : Option Nat) (sessions : Table AuthSession) :
    RowsEffect config now found sessions sessions := by
  intro key
  cases sessions.get? key with
  | none => exact .none
  | some row => exact .some (.refl row)

theorem RowsEffect.update (change : Nat → AuthSession → AuthSession)
    (effect : ∀ key row, RowEffect config now (found = some key) row (change key row)) :
    RowsEffect config now found sessions (sessions.update change) := by
  intro key
  rw [Table.get?_update]
  cases sessions.get? key with
  | none => exact .none
  | some row => exact .some (effect key row)

theorem RowsEffect.modify (key : Nat) (change : AuthSession → AuthSession)
    (effect : ∀ row, RowEffect config now (found = some key) row (change row)) :
    RowsEffect config now found sessions (sessions.modify key change) := by
  intro other
  rw [Table.get?_modify]
  by_cases same : other = key
  · subst same
    rw [if_pos rfl]
    cases sessions.get? other with
    | none => exact .none
    | some row => exact .some (effect row)
  · rw [if_neg same]
    exact RowsEffect.refl found sessions other

theorem RowsEffect.trans {first second third : Table AuthSession}
    (earlier : RowsEffect config now found first second)
    (later : RowsEffect config now found second third) :
    RowsEffect config now found first third := by
  intro key
  have before := earlier key
  have after := later key
  revert before after
  generalize first.get? key = old
  generalize second.get? key = middle
  generalize third.get? key = new
  rintro (effect | _) (alsoEffect | _)
  · exact .some (effect.trans alsoEffect)
  · exact .none

theorem get?_of_cookieSession {cookie : Option String} {key : Nat} {session : AuthSession}
    (named : cookieSession env sessions cookie = some (key, session)) :
    sessions.get? key = some session := by
  unfold cookieSession at named
  split at named
  · cases named
  · split at named
    · cases named
    · exact (Table.get?_of_first? named).1

/-- A session that a lookup returns is neither revoked nor expired, and its account is
not refused. -/
theorem lookupSession_effect (env : Platform) (config : SessionConfig)
    (users : Table UserAccount) (sessions : Table AuthSession) (now : Instant)
    (cookie : Option String) (refresh : Bool) :
    RowsEffect config now
        (lookupSession env config users sessions now cookie refresh).2 sessions
        (lookupSession env config users sessions now cookie refresh).1 ∧
      ∀ key, (lookupSession env config users sessions now cookie refresh).2 = some key →
        ∃ row, sessions.get? key = some row ∧ row.revokedAt = none ∧
          row.isExpired now = false ∧ refusesUser users row.userId = false := by
  have nothing {property : Nat → Prop} : ∀ key, (none : Option Nat) = some key → property key := by
    rintro key wrong
    cases wrong
  unfold lookupSession
  split
  · exact ⟨.refl _ _, nothing⟩
  rename_i key session named
  have stored := get?_of_cookieSession named
  split
  · exact ⟨.refl _ _, nothing⟩
  rename_i unrevoked
  split
  · exact ⟨.modify key _ fun row => .revoke row "expired", nothing⟩
  rename_i unexpired
  split
  · exact ⟨.refl _ _, nothing⟩
  rename_i allowed
  have valid : session.revokedAt = none ∧ session.isExpired now = false ∧
      refusesUser users session.userId = false := by
    simpa using And.intro unrevoked (And.intro unexpired allowed)
  split
  · refine ⟨.modify key _ fun row => .refresh row rfl, fun other same => ?_⟩
    cases same
    exact ⟨session, stored, valid⟩
  · refine ⟨.refl _ _, fun other same => ?_⟩
    cases same
    exact ⟨session, stored, valid⟩

theorem lookupSession_ended (config : SessionConfig) (users : Table UserAccount)
    {cookie : Option String} (refresh : Bool) {key : Nat} {session : AuthSession}
    (named : cookieSession env sessions cookie = some (key, session))
    (ended : session.revokedAt.isSome = true ∨ session.isExpired now = true) :
    (lookupSession env config users sessions now cookie refresh).2 = none ∧
      ∃ row, (lookupSession env config users sessions now cookie refresh).1.get? key =
        some row ∧ row.revokedAt.isSome = true := by
  have stored := get?_of_cookieSession named
  simp only [lookupSession, named]
  split
  · rename_i revoked
    exact ⟨rfl, session, stored, revoked⟩
  rename_i unrevoked
  have expired : session.isExpired now = true := ended.resolve_left unrevoked
  rw [if_pos expired]
  refine ⟨rfl, session.revoke now "expired", ?_, rfl⟩
  rw [Table.get?_modify_self, stored]
  rfl

theorem RowEffect.revokeSession (row : AuthSession) {refreshed : Prop} (reason : String) :
    RowEffect config now refreshed row
      (if row.revokedAt.isSome then row else row.revoke now (Text.truncate 120 reason)) := by
  split
  · exact .refl row
  · exact .revoke row _

theorem logout_effect (env : Platform) (config : SessionConfig)
    (users : Table UserAccount) (sessions : Table AuthSession) (now : Instant)
    (cookie : Option String) (csrf : String) :
    RowsEffect config now (logout env config users sessions now cookie csrf).2 sessions
        (logout env config users sessions now cookie csrf).1 ∧
      (logout env config users sessions now cookie csrf).2 =
        (lookupSession env config users sessions now cookie true).2 := by
  obtain ⟨looked, -⟩ := lookupSession_effect env config users sessions now cookie true
  unfold logout
  generalize lookupSession env config users sessions now cookie true = result at looked ⊢
  obtain ⟨table, answer⟩ := result
  cases answer with
  | none => exact ⟨looked, rfl⟩
  | some key =>
    simp only
    split
    · exact ⟨looked.trans (.modify key _ fun row => .revokeSession row "logout"), rfl⟩
    · exact ⟨looked, rfl⟩

theorem logout_of_missing {users : Table UserAccount} {cookie : Option String} {csrf : String}
    (missing : (lookupSession env config users sessions now cookie true).2 = none) :
    logout env config users sessions now cookie csrf =
      lookupSession env config users sessions now cookie true := by
  unfold logout
  generalize lookupSession env config users sessions now cookie true = result at missing ⊢
  obtain ⟨table, answer⟩ := result
  cases missing
  rfl

theorem rotateCsrf_effect (env : Platform) (sessions : Table AuthSession) (target : Nat)
    (token : String) :
    RowsEffect config now found sessions (rotateCsrf env sessions target token) := by
  refine RowsEffect.modify target _ fun row => ?_
  exact .of_same rfl rfl rfl id rfl rfl

theorem revokeSession_effect (sessions : Table AuthSession) (target : Nat) (reason : String) :
    RowsEffect config now found sessions (revokeSession sessions now target reason) :=
  .modify target _ fun row => .revokeSession row reason

theorem revokeUserSessions_effect (sessions : Table AuthSession) (user : Nat) (reason : String)
    (exceptSession : Option Nat) :
    RowsEffect config now found sessions
      (revokeUserSessions sessions now user reason exceptSession) := by
  refine RowsEffect.update _ fun target row => ?_
  split
  · exact .revoke row _
  · exact .refl row

theorem get?_createSession {user : Nat} {token csrf : String} {mfaVerified : Bool}
    {created : Table AuthSession}
    (made : createSession env config sessions now user token csrf mfaVerified =
      some created) (key : Nat) :
    created.get? key = sessions.get? key ∨ sessions.get? key = none ∧
      ∃ row, created.get? key = some row ∧ Created config now row := by
  unfold createSession at made
  split at made
  · cases made
  · cases made
    by_cases fresh : key = sessions.nextKey
    · subst fresh
      exact .inr ⟨Table.get?_eq_none_of_ge _ (Nat.le_refl _), _, Table.get?_insert_nextKey _ _,
        rfl, rfl, rfl, rfl⟩
    · exact .inl (Table.get?_insert_of_ne _ _ fresh)

end Tables

section Calls

variable {env config} {state : SessionState} {request : SessionRequest}

/-- **What a call does to a row**: the call creates it, or it has its effect on the
row that was there. -/
theorem perform_effect (env : Platform) (config : SessionConfig) (state : SessionState)
    (request : SessionRequest) (key : Nat) :
    Option.Rel (RowEffect config request.now
          ((state.perform env config request).2 = some key)) (state.sessions.get? key)
        ((state.next env config request).sessions.get? key) ∨
      state.sessions.get? key = none ∧
        ∃ row, (state.next env config request).sessions.get? key = some row ∧
          Created config request.now row := by
  obtain ⟨now, call⟩ := request
  cases call with
  | create user token csrf mfaVerified =>
    simp only [SessionState.next, SessionState.perform]
    cases made : createSession env config state.sessions now user token csrf
        mfaVerified with
    | none => exact .inl (RowsEffect.refl none state.sessions key)
    | some created =>
      rcases get?_createSession made key with same | created
      · rw [Option.getD_some, same]
        exact .inl (RowsEffect.refl none state.sessions key)
      · exact .inr created
  | lookup cookie refresh =>
    exact .inl ((lookupSession_effect env config state.users state.sessions now cookie
      refresh).1 key)
  | logout cookie csrf =>
    exact .inl ((logout_effect env config state.users state.sessions now cookie csrf).1 key)
  | rotate target token => exact .inl (rotateCsrf_effect env state.sessions target token key)
  | revoke target reason => exact .inl (revokeSession_effect state.sessions target reason key)
  | revokeUser user reason exceptSession =>
    exact .inl (revokeUserSessions_effect state.sessions user reason exceptSession key)
  | accounts users => exact .inl (RowsEffect.refl none state.sessions key)

theorem perform_returns {key : Nat} (returns : (state.perform env config request).2 = some key) :
    ∃ row, state.sessions.get? key = some row ∧ row.revokedAt = none ∧
      row.isExpired request.now = false := by
  obtain ⟨now, call⟩ := request
  cases call with
  | lookup cookie refresh =>
    obtain ⟨row, stored, unrevoked, unexpired, -⟩ := (lookupSession_effect env config
      state.users state.sessions now cookie refresh).2 key returns
    exact ⟨row, stored, unrevoked, unexpired⟩
  | logout cookie csrf =>
    obtain ⟨-, same⟩ := logout_effect env config state.users state.sessions now cookie csrf
    obtain ⟨row, stored, unrevoked, unexpired, -⟩ := (lookupSession_effect env config
      state.users state.sessions now cookie true).2 key (same.symm.trans returns)
    exact ⟨row, stored, unrevoked, unexpired⟩
  | create user token csrf mfaVerified => cases returns
  | rotate target token => cases returns
  | revoke target reason => cases returns
  | revokeUser user reason exceptSession => cases returns
  | accounts users => cases returns

theorem isRevoked_of_findsEnded {move : Transition SessionState SessionRequest} {key : Nat}
    (shape : move.after = move.before.next env config move.input)
    (ended : FindsEnded env move key) : IsRevoked move key := by
  obtain ⟨session, named, ends⟩ := ended
  obtain ⟨before, ⟨now, call⟩, after⟩ := move
  simp only at shape named ends
  subst shape
  cases call with
  | lookup cookie refresh =>
    exact (lookupSession_ended config before.users refresh named ends).2
  | logout cookie csrf =>
    simp only [SessionCall.cookie] at named
    obtain ⟨missing, row, stored, revoked⟩ :=
      lookupSession_ended config before.users true named ends
    refine ⟨row, ?_, revoked⟩
    simp only [SessionState.next, SessionState.perform]
    rw [logout_of_missing missing]
    exact stored
  | create user token csrf mfaVerified => cases named
  | rotate target token => cases named
  | revoke target reason => cases named
  | revokeUser user reason exceptSession => cases named
  | accounts users => cases named

end Calls

/-! ## Runs -/

/-- What a run leaves of a row: its times follow from its creation and its last use,
and an unrevoked session was never revoked. -/
structure Lives (past : List (Transition SessionState SessionRequest)) (key : Nat)
    (row : AuthSession) : Prop where
  ends : row.expiresAt = row.createdAt + hours config.sessionHours
  idles : row.idleExpiresAt ≤ row.lastSeenAt + minutes config.idleMinutes
  used : ∃ use, lastUse env config past key = some use ∧ row.lastSeenAt ≤ use
  unrevoked : row.revokedAt = none → ∀ earlier ∈ past, ¬ IsRevoked earlier key
  refreshed : (∃ earlier ∈ past, Refreshes earlier key) → row.idleExpiresAt ≤ row.expiresAt

/-- Every row a run has left so far is still there, and its times fit its past. -/
structure History (past : List (Transition SessionState SessionRequest)) (state : SessionState) :
    Prop where
  kept : ∀ earlier ∈ past, ∀ key, (earlier.after.sessions.get? key).isSome = true →
    (state.sessions.get? key).isSome = true
  lives : ∀ key row, state.sessions.get? key = some row → Lives env config past key row

section Runs

variable {env config} {past : List (Transition SessionState SessionRequest)} {key : Nat}
  {move : Transition SessionState SessionRequest}

theorem lastUse_concat (move : Transition SessionState SessionRequest) :
    lastUse env config (past ++ [move]) key =
      if usesSession env config move key then some move.input.now
      else lastUse env config past key := by
  unfold lastUse
  rw [List.filter_append]
  by_cases uses : usesSession env config move key = true
  · simp [uses]
  · simp [uses]

theorem lastUse_le {use now : Instant} (found : lastUse env config past key = some use)
    (before : ∀ earlier ∈ past, earlier.input.now ≤ now) : use ≤ now := by
  obtain ⟨move, last, rfl⟩ := Option.map_eq_some_iff.mp found
  exact before move (List.mem_filter.mp (List.mem_of_getLast? last)).1

theorem Lives.of_effect {old new : AuthSession} (stored : move.before.sessions.get? key = some old)
    (left : move.after.sessions.get? key = some new) (lives : Lives env config past key old)
    (ordered : ∀ earlier ∈ past, earlier.input.now ≤ move.input.now)
    (effect : RowEffect config move.input.now
      (returned env config move = some key) old new) :
    Lives env config (past ++ [move]) key new := by
  obtain ⟨use, found, seen⟩ := lives.used
  have recent : use ≤ move.input.now := lastUse_le found ordered
  refine ⟨?_, ?_, ?_, ?_, ?_⟩
  · rw [effect.expiresAt, effect.createdAt]
    exact lives.ends
  · rcases effect.times with ⟨lastSeenAt, idleExpiresAt⟩ | ⟨-, lastSeenAt, idleExpiresAt⟩
    · rw [lastSeenAt, idleExpiresAt]
      exact lives.idles
    · rw [lastSeenAt, idleExpiresAt]
      exact Int.min_le_right _ _
  · rw [lastUse_concat]
    rcases effect.times with ⟨lastSeenAt, -⟩ | ⟨returns, lastSeenAt, -⟩
    · rw [lastSeenAt]
      split
      · exact ⟨_, rfl, Int.le_trans seen recent⟩
      · exact ⟨use, found, seen⟩
    · have uses : usesSession env config move key = true := by
        simp [usesSession, returns]
      rw [if_pos uses, lastSeenAt]
      exact ⟨_, rfl, Int.le_refl _⟩
  · intro unrevoked earlier member revokes
    rcases List.mem_append.mp member with before | now
    · have oldUnrevoked : old.revokedAt = none := by
        cases revoked : old.revokedAt with
        | none => rfl
        | some time => simpa [unrevoked] using effect.revoked (by rw [revoked]; rfl)
      exact lives.unrevoked oldUnrevoked earlier before revokes
    · obtain rfl := List.mem_singleton.mp now
      obtain ⟨row, same, revoked⟩ := revokes
      obtain rfl := Option.some.inj (left.symm.trans same)
      simp [unrevoked] at revoked
  · rintro ⟨earlier, member, moves⟩
    rcases effect.times with ⟨lastSeenAt, idleExpiresAt⟩ | ⟨-, -, idleExpiresAt⟩
    · rcases List.mem_append.mp member with before | now
      · rw [idleExpiresAt, effect.expiresAt]
        exact lives.refreshed ⟨earlier, before, moves⟩
      · obtain rfl := List.mem_singleton.mp now
        obtain ⟨first, second, isFirst, isSecond, moved⟩ := moves
        obtain rfl := Option.some.inj (stored.symm.trans isFirst)
        obtain rfl := Option.some.inj (left.symm.trans isSecond)
        exact absurd moved (by simp [lastSeenAt, idleExpiresAt])
    · rw [idleExpiresAt, effect.expiresAt]
      exact Int.min_le_left _ _

theorem Lives.of_created {row : AuthSession} (missing : move.before.sessions.get? key = none)
    (left : move.after.sessions.get? key = some row)
    (unused : ∀ earlier ∈ past, earlier.after.sessions.get? key = none)
    (created : Created config move.input.now row) :
    Lives env config (past ++ [move]) key row := by
  refine ⟨?_, ?_, ?_, ?_, ?_⟩
  · rw [created.expiresAt, created.createdAt]
  · exact Int.le_of_eq (by rw [created.idleExpiresAt, created.lastSeenAt])
  · have uses : usesSession env config move key = true := by
      simp [usesSession, missing, left]
    rw [lastUse_concat, if_pos uses, created.lastSeenAt]
    exact ⟨_, rfl, Int.le_refl _⟩
  · rintro unrevoked earlier member ⟨other, same, revoked⟩
    rcases List.mem_append.mp member with before | now
    · cases (unused earlier before).symm.trans same
    · obtain rfl := List.mem_singleton.mp now
      obtain rfl := Option.some.inj (left.symm.trans same)
      simp [unrevoked] at revoked
  · rintro ⟨earlier, member, first, second, isFirst, isSecond, -⟩
    rcases List.mem_append.mp member with before | now
    · cases (unused earlier before).symm.trans isSecond
    · obtain rfl := List.mem_singleton.mp now
      cases missing.symm.trans isFirst

/-- **One call keeps the history**, when no earlier call is later than it. -/
theorem History.step {state : SessionState} (request : SessionRequest)
    (history : History env config past state)
    (ordered : ∀ earlier ∈ past, earlier.input.now ≤ request.now) :
    History env config (past ++ [⟨state, request, state.next env config request⟩])
      (state.next env config request) := by
  refine ⟨?_, ?_⟩
  · intro earlier member key there
    rcases List.mem_append.mp member with before | now
    · have still := history.kept earlier before key there
      rcases perform_effect env config state request key with
        effect | ⟨missing, -⟩
      · revert still effect
        generalize state.sessions.get? key = old
        generalize (state.next env config request).sessions.get? key = new
        rintro still (_ | _)
        · rfl
        · cases still
      · rw [missing] at still
        cases still
    · obtain rfl := List.mem_singleton.mp now
      exact there
  · intro key row left
    rcases perform_effect env config state request key with
      effect | ⟨missing, other, same, created⟩
    · cases stored : state.sessions.get? key with
      | none =>
        rw [stored, left] at effect
        cases effect
      | some old =>
        rw [stored, left] at effect
        cases effect with
        | some effect =>
          exact .of_effect stored left
            (history.lives key old stored) ordered effect
    · obtain rfl := Option.some.inj (left.symm.trans same)
      refine .of_created missing left ?_ created
      intro earlier member
      cases there : earlier.after.sessions.get? key with
      | none => rfl
      | some session =>
        have still := history.kept earlier member key (by rw [there]; rfl)
        rw [missing] at still
        cases still

/-- Over a whole run the rows stay, and their times fit what came before. -/
theorem History.run (env : Platform) (config : SessionConfig) (users : Table UserAccount)
    (requests : List SessionRequest)
    (ordered : requests.Pairwise fun first second => first.now ≤ second.now) :
    History env config
      (trace (SessionState.next env config) ⟨users, Table.empty⟩ requests)
      (final (SessionState.next env config) ⟨users, Table.empty⟩ requests) := by
  induction requests using List.reverseRecOn with
  | nil => exact ⟨fun _ member => (List.not_mem_nil member).elim, fun _ _ wrong => nomatch wrong⟩
  | append_singleton requests request ih =>
    obtain ⟨sorted, -, last⟩ := List.pairwise_append.mp ordered
    rw [trace_concat, final_concat]
    apply History.step request (ih sorted)
    intro earlier member
    exact last _ (input_mem_of_mem_trace _ member) request (List.mem_singleton_self _)

/-- **The lifetime of a session.** In a run at nondecreasing times, a call that
returns a session comes before the end of its hours and of its idle time, counted
from its last use, and no earlier call revoked it or found it ended. Once it was
refreshed, its idle time never ends after its hours. -/
theorem session_lifetime (env : Platform) (config : SessionConfig)
    (users : Table UserAccount) (requests : List SessionRequest)
    (ordered : requests.Pairwise fun first second => first.now ≤ second.now)
    (past rest : List (Transition SessionState SessionRequest))
    (move : Transition SessionState SessionRequest)
    (splits : trace (SessionState.next env config) ⟨users, Table.empty⟩ requests =
      past ++ move :: rest) (key : Nat) :
    (returned env config move = some key →
      ∃ session use, move.before.sessions.get? key = some session ∧
        lastUse env config past key = some use ∧
        move.input.now < session.createdAt + hours config.sessionHours ∧
        move.input.now < use + minutes config.idleMinutes ∧
        ∀ earlier ∈ past, ¬ IsRevoked earlier key ∧ ¬ FindsEnded env earlier key) ∧
      ∀ session, move.after.sessions.get? key = some session →
        (∃ earlier ∈ past ++ [move], Refreshes earlier key) →
          session.idleExpiresAt ≤ session.expiresAt := by
  obtain ⟨first, request, second, rfl, rfl, rfl⟩ := exists_split_of_trace_eq _ splits
  obtain ⟨sorted, -, later⟩ := List.pairwise_append.mp ordered
  have history := History.run env config users first sorted
  refine ⟨?_, ?_⟩
  · intro returns
    obtain ⟨session, stored, unrevoked, unexpired⟩ := perform_returns returns
    have lives := history.lives key session stored
    obtain ⟨use, found, seen⟩ := lives.used
    have inTime : request.now < session.expiresAt ∧ request.now < session.idleExpiresAt := by
      simpa [AuthSession.isExpired] using unexpired
    refine ⟨session, use, stored, found, ?_, ?_, ?_⟩
    · rw [← lives.ends]
      exact inTime.1
    · exact Int.lt_of_lt_of_le inTime.2
        (Int.le_trans lives.idles (Int.add_le_add_right seen _))
    · intro earlier member
      have kept := lives.unrevoked unrevoked earlier member
      exact ⟨kept, fun ended =>
        kept (isRevoked_of_findsEnded (after_eq_of_mem_trace _ member) ended)⟩
  · have next : History env config _ _ := history.step request fun earlier member =>
      later _ (input_mem_of_mem_trace _ member) request (List.mem_cons_self ..)
    intro session left
    exact (next.lives key session left).refreshed

end Runs

def halfDay : SessionConfig where
  sessionHours := 12
  idleMinutes := 30

/-- The visit of a user: a session that is created and looked up a minute and a half
later. -/
def visit : List SessionRequest :=
  [⟨0, .create 1 "token" "csrf" false⟩, ⟨seconds 90, .lookup (some "token") true⟩]

def visitUsers : Table UserAccount := Table.empty.insert { pendingAccount with status := .active }

def visitTrace : List (Transition SessionState SessionRequest) :=
  trace (SessionState.next plainPlatform halfDay) ⟨visitUsers, Table.empty⟩ visit

theorem session_lifetime_visit :
    ∃ created looked, visitTrace = [created, looked] ∧
      returned plainPlatform halfDay looked = some 1 ∧
      ∃ session use, looked.before.sessions.get? 1 = some session ∧
        lastUse plainPlatform halfDay [created] 1 = some use ∧
        looked.input.now < session.createdAt + hours 12 ∧
        looked.input.now < use + minutes 30 ∧
        ∀ earlier ∈ [created], ¬ IsRevoked earlier 1 ∧ ¬ FindsEnded plainPlatform earlier 1 := by
  refine ⟨_, _, rfl, by decide, ?_⟩
  exact (session_lifetime plainPlatform halfDay visitUsers visit (by decide) [_] [] _ rfl 1).1
    (by decide)

end ThreatScope.AccessControl
