import ThreatScope.AccessControl.Authentication

/-!
# Online guessing

How often an account can be guessed at. A call compares the password when the
account it looks up is neither disabled nor locked and the rate limit lets it
through; every comparison that fails counts against the account, and the count
that reaches `login_max_attempts` locks it for `lockout_minutes`.

The guesses an account still allows until a time (`UserAccount.allowance`) never
grow while time passes before that time, and every comparison takes one of them
(`allowance_login`). So a window no longer than a lock contains at most
`login_max_attempts` comparisons (`guesses_bounded`), whichever identifier the
calls use: both name the same row.
-/

set_option autoImplicit false

namespace ThreatScope.AccessControl

open Library

variable (env : Platform) (config : LoginConfig)

/-- The state in which a call attempts its login: an expired lock is lifted, and
the failures under the identifier are forgotten with it. -/
def LoginState.lifted (state : LoginState) (request : LoginRequest) : LoginState :=
  let (unlocked, expiredLock) := match state.findUser env request.identifier with
    | some key => unlockIfExpired env state request.now key
    | none => (state, false)
  if expiredLock then
    { unlocked with
      attempts := unlocked.attempts.filter fun attempt => !attempt.failedUnder
        [usernameHash env (normalizedIdentifier env request.identifier).2] }
  else unlocked

theorem authenticatePassword_eq (state : LoginState) (request : LoginRequest) :
    authenticatePassword env config state request =
      attemptLogin env config (state.lifted env request) request
        (state.findUser env request.identifier)
        (normalizedIdentifier env request.identifier).2 := by
  unfold authenticatePassword LoginState.lifted
  generalize normalizedIdentifier env request.identifier = identifier
  obtain ⟨isEmail, normalized⟩ := identifier
  cases state.findUser env request.identifier with
  | none => rfl
  | some key => simp only

/-- The attempt compares the password of an account that is neither locked nor
disabled: the check of the password returns. -/
def comparesAt (state : LoginState) (request : LoginRequest) (key? : Option Nat)
    (normalized : Option String) (key : Nat) : Bool :=
  key? == some key &&
    !isRateLimited env config state request.now normalized
      (clientIpHash env request.clientHost) &&
    (state.users.get? key).any fun user => !user.status.refusesLogin &&
      (verifyPassword env (some user.passwordHash) request.password).toBool

/-- A call of `authenticate_password` compares the password of an account that is
neither locked nor disabled. -/
def comparesPassword (state : LoginState) (request : LoginRequest) (key : Nat) : Bool :=
  comparesAt env config (state.lifted env request) request
    (state.findUser env request.identifier)
    (normalizedIdentifier env request.identifier).2 key

/-- The account after a failure that counts. -/
def UserAccount.fail (user : UserAccount) (now : Instant) : UserAccount :=
  if config.loginMaxAttempts ≤ user.failedLoginCount + 1 then
    { user with
      failedLoginCount := user.failedLoginCount + 1
      status := .locked
      lockedUntil := some (now + minutes config.lockoutMinutes) }
  else { user with failedLoginCount := user.failedLoginCount + 1 }

/-- The account after its failures are cleared. -/
def UserAccount.clear (user : UserAccount) : UserAccount :=
  { user with
    failedLoginCount := 0
    lockedUntil := none
    status := if user.status = .locked then .active else user.status }

/-- The comparisons an account still allows before a time. -/
def UserAccount.allowance (user : UserAccount) (finish : Instant) : Nat :=
  if user.status = .locked then
    if user.lockedUntil.any (fun lockedUntil => decide (lockedUntil < finish)) then
      config.loginMaxAttempts
    else 0
  else max 1 (config.loginMaxAttempts - user.failedLoginCount)

/-- The comparisons the account with a key still allows before a time. -/
def LoginState.allowance (state : LoginState) (key : Nat) (finish : Instant) : Nat :=
  ((state.users.get? key).map fun user => user.allowance config finish).getD 0

section Account

variable {config} (user : UserAccount) (now finish : Instant)

theorem allowance_le : user.allowance config finish ≤ config.loginMaxAttempts := by
  have bound := config.two_le_attempts
  unfold UserAccount.allowance
  split
  · split
    · exact Nat.le_refl _
    · exact Nat.zero_le _
  · omega

theorem allowance_clear (early : now < finish) (expired : user.lockExpired now = true) :
    user.clear.allowance config finish ≤ user.allowance config finish := by
  simp only [UserAccount.lockExpired, Bool.and_eq_true, beq_iff_eq] at expired
  obtain ⟨locked, passed⟩ := expired
  cases until_ : user.lockedUntil with
  | none => simp [until_] at passed
  | some lockedUntil =>
    have before : lockedUntil < finish := by
      simp only [until_, decide_eq_true_eq] at passed
      exact Int.lt_of_le_of_lt passed early
    have all : user.allowance config finish = config.loginMaxAttempts := by
      simp [UserAccount.allowance, locked, until_, before]
    rw [all]
    exact allowance_le user.clear finish

/-- A counted failure takes one comparison: the last one locks the account until
the time is over. -/
theorem allowance_fail (admitted : user.status.refusesLogin = false)
    (late : finish ≤ now + minutes config.lockoutMinutes) :
    (user.fail config now).allowance config finish + 1 ≤ user.allowance config finish := by
  have unlocked : user.status ≠ .locked := by
    rintro locked
    simp [locked, AccountStatus.refusesLogin] at admitted
  have before : user.allowance config finish =
      max 1 (config.loginMaxAttempts - user.failedLoginCount) := if_neg unlocked
  rw [before]
  unfold UserAccount.fail
  split
  · have after : UserAccount.allowance config
        { user with
          failedLoginCount := user.failedLoginCount + 1
          status := .locked
          lockedUntil := some (now + minutes config.lockoutMinutes) } finish = 0 := by
      simp [UserAccount.allowance, Int.not_lt.mpr late]
    rw [after]
    omega
  · rename_i below
    have after : UserAccount.allowance config
        { user with failedLoginCount := user.failedLoginCount + 1 } finish =
          max 1 (config.loginMaxAttempts - (user.failedLoginCount + 1)) := if_neg unlocked
    rw [after]
    omega

end Account

section Call

variable {env config} {state : LoginState} {request : LoginRequest} {key : Nat}

theorem get?_unlockIfExpired (env : Platform) (state : LoginState) (now : Instant)
    (other key : Nat) :
    (unlockIfExpired env state now other).1.users.get? key = state.users.get? key ∨
      ∃ user, state.users.get? key = some user ∧ user.lockExpired now = true ∧
        (unlockIfExpired env state now other).1.users.get? key = some user.clear := by
  unfold unlockIfExpired
  split
  · exact .inl rfl
  rename_i user found
  split
  · rename_i expired
    by_cases same : key = other
    · subst same
      refine .inr ⟨user, found, expired, ?_⟩
      simp [clearFailures, found, UserAccount.clear]
    · refine .inl ?_
      simp [clearFailures, found, Table.get?_modify, same]
  · exact .inl rfl

theorem get?_lifted (env : Platform) (state : LoginState) (request : LoginRequest) (key : Nat) :
    (state.lifted env request).users.get? key = state.users.get? key ∨
      ∃ user, state.users.get? key = some user ∧ user.lockExpired request.now = true ∧
        (state.lifted env request).users.get? key = some user.clear := by
  unfold LoginState.lifted
  cases state.findUser env request.identifier with
  | none => exact .inl rfl
  | some other =>
    have unlocked := get?_unlockIfExpired env state request.now other key
    simp only
    split
    · exact unlocked
    · exact unlocked

/-- What an attempt does to an account it does not log in: it compares and counts
the failure, or it leaves the account alone. -/
theorem get?_attemptLogin (key? : Option Nat) (normalized : Option String) (key : Nat)
    (fails : (attemptLogin env config state request key? normalized).2 ≠ .ok key) :
    (comparesAt env config state request key? normalized key = false ∧
        (attemptLogin env config state request key? normalized).1.users.get? key =
          state.users.get? key) ∨
      ∃ user, state.users.get? key = some user ∧ user.status.refusesLogin = false ∧
        (attemptLogin env config state request key? normalized).1.users.get? key =
          some (user.fail config request.now) := by
  unfold attemptLogin at fails ⊢
  unfold comparesAt
  simp only at fails ⊢
  split
  · rename_i limited
    exact .inl ⟨by simp [limited], rfl⟩
  rename_i open_
  rw [if_neg open_] at fails
  cases key? with
  | none =>
    simp only [Option.bind_none, Option.map_none, verifyPassword]
    exact .inl ⟨by simp, rfl⟩
  | some other =>
    cases found : state.users.get? other with
    | none =>
      simp only [Option.bind_some, found, Option.map_none, verifyPassword]
      refine .inl ⟨?_, rfl⟩
      by_cases same : other = key
      · subst same
        simp [found]
      · simp [same]
    | some user =>
      simp only [Option.bind_some, found, Option.map_some] at fails ⊢
      cases verified : verifyPassword env (some user.passwordHash) request.password with
      | error error =>
        refine .inl ⟨?_, rfl⟩
        by_cases same : other = key
        · subst same
          simp [found, verified, Except.toBool]
        · simp [same]
      | ok valid =>
        simp only [verified] at fails ⊢
        cases refused : user.status.refusesLogin with
        | true =>
          simp only [refused, Bool.or_true, if_true] at fails ⊢
          refine .inl ⟨?_, rfl⟩
          by_cases same : other = key
          · subst same
            simp [found, refused]
          · simp [same]
        | false =>
          simp only [refused, Bool.or_false] at fails ⊢
          by_cases same : other = key
          · subst same
            cases valid with
            | false =>
              refine .inr ⟨user, found, refused, ?_⟩
              simp [recordAttempt, registerUserFailure, found, UserAccount.fail]
            | true => simp at fails
          · refine .inl ⟨by simp [same], ?_⟩
            have apart : key ≠ other := fun equal => same equal.symm
            cases valid with
            | false =>
              simp [recordAttempt, registerUserFailure, Table.get?_modify, apart]
            | true =>
              simp [recordAttempt, clearFailures, found, Table.get?_modify, apart]

/-- **A call takes the comparison it makes from the allowance** and gives none
back, when it comes before the time and a lock from now on outlasts it. -/
theorem allowance_login {finish : Instant} (early : request.now < finish)
    (late : finish ≤ request.now + minutes config.lockoutMinutes)
    (fails : (authenticatePassword env config state request).2 ≠ .ok key) :
    (login env config state request).allowance config key finish +
        (if comparesPassword env config state request key then 1 else 0) ≤
      state.allowance config key finish := by
  have lift : (state.lifted env request).allowance config key finish ≤
      state.allowance config key finish := by
    unfold LoginState.allowance
    rcases get?_lifted env state request key with
      same | ⟨user, found, expired, cleared⟩
    · exact Nat.le_of_eq (by rw [same])
    · rw [cleared, found]
      exact allowance_clear user request.now finish early expired
  refine Nat.le_trans ?_ lift
  rw [authenticatePassword_eq] at fails
  unfold login
  rw [authenticatePassword_eq]
  unfold comparesPassword LoginState.allowance
  rcases get?_attemptLogin _ _ key fails with
    ⟨spared, same⟩ | ⟨user, found, admitted, counted⟩
  · rw [spared, same]
    simp
  · rw [counted, found]
    have less := allowance_fail user request.now finish admitted late
    simp only [Option.map_some, Option.getD_some]
    split
    · exact less
    · omega

end Call

/-- No call of a run logs the account in. -/
def NeverAdmitted (start : LoginState) (key : Nat) (requests : List LoginRequest) : Prop :=
  ∀ move ∈ trace (login env config) start requests,
    (authenticatePassword env config move.before move.input).2 ≠ .ok key

/-- The comparisons a run makes at an account in a lock's length from a time on. -/
def guesses (start : LoginState) (key : Nat) (since : Instant) (requests : List LoginRequest) :
    Nat :=
  (trace (login env config) start requests).countP fun move =>
    since ≤ move.input.now &&
      move.input.now < since + minutes config.lockoutMinutes &&
      comparesPassword env config move.before move.input key

section Run

variable {env config} {key : Nat} {since : Instant}

theorem guesses_cons (start : LoginState) (request : LoginRequest) (rest : List LoginRequest) :
    guesses env config start key since (request :: rest) =
      guesses env config (login env config start request) key since rest +
        if since ≤ request.now && request.now < since + minutes config.lockoutMinutes &&
          comparesPassword env config start request key then 1 else 0 := by
  simp only [guesses, trace, List.countP_cons]

theorem NeverAdmitted.cons {start : LoginState} {request : LoginRequest}
    {rest : List LoginRequest} (never : NeverAdmitted env config start key (request :: rest)) :
    (authenticatePassword env config start request).2 ≠ .ok key ∧
      NeverAdmitted env config (login env config start request) key rest := by
  simp only [NeverAdmitted, trace, List.forall_mem_cons] at never
  exact never

theorem guesses_of_late {requests : List LoginRequest}
    (late : ∀ request ∈ requests, since + minutes config.lockoutMinutes ≤ request.now) :
    ∀ start, guesses env config start key since requests = 0 := by
  induction requests with
  | nil => exact fun _ => rfl
  | cons request rest ih =>
    intro start
    have after := late request (List.mem_cons_self ..)
    rw [guesses_cons, ih fun other member => late other (List.mem_cons_of_mem _ member)]
    simp [Int.not_lt.mpr after]

/-- From its beginning on, a window contains no more guesses than the account
allows before its end. -/
theorem guesses_le_allowance {requests : List LoginRequest}
    (ordered : requests.Pairwise fun first second => first.now ≤ second.now)
    (late : ∀ request ∈ requests, since ≤ request.now) :
    ∀ start, NeverAdmitted env config start key requests →
      guesses env config start key since requests ≤
        start.allowance config key (since + minutes config.lockoutMinutes) := by
  induction requests with
  | nil => exact fun _ _ => Nat.zero_le _
  | cons request rest ih =>
    intro start never
    obtain ⟨first, sorted⟩ := List.pairwise_cons.mp ordered
    have now := late request (List.mem_cons_self ..)
    by_cases inside : request.now < since + minutes config.lockoutMinutes
    · obtain ⟨fails, later⟩ := never.cons
      have tail := ih sorted (fun other member => late other (List.mem_cons_of_mem _ member))
        (login env config start request) later
      have taken := allowance_login inside (Int.add_le_add_right now _) fails
      rw [guesses_cons]
      simp only [decide_eq_true now, decide_eq_true inside, Bool.true_and]
      omega
    · have beyond : ∀ other ∈ request :: rest,
          since + minutes config.lockoutMinutes ≤ other.now := by
        intro other member
        rcases List.mem_cons.mp member with rfl | later
        · exact Int.not_lt.mp inside
        · exact Int.le_trans (Int.not_lt.mp inside) (first other later)
      rw [guesses_of_late beyond]
      exact Nat.zero_le _

/-- **Guessing is bounded by the lockout.** In a run of calls at nondecreasing
times that never logs the account in, every half-open interval as long as a lock
contains at most `login_max_attempts` comparisons of its password. -/
theorem guesses_bounded (env : Platform) (config : LoginConfig) (key : Nat)
    (since : Instant) (requests : List LoginRequest)
    (ordered : requests.Pairwise fun first second => first.now ≤ second.now) :
    ∀ start, NeverAdmitted env config start key requests →
      guesses env config start key since requests ≤ config.loginMaxAttempts := by
  induction requests with
  | nil => exact fun _ _ => Nat.zero_le _
  | cons request rest ih =>
    intro start never
    obtain ⟨first, sorted⟩ := List.pairwise_cons.mp ordered
    by_cases early : request.now < since
    · have tail := ih sorted (login env config start request) never.cons.2
      rw [guesses_cons]
      simpa [Int.not_le.mpr early] using tail
    · have late : ∀ other ∈ request :: rest, since ≤ other.now := by
        intro other member
        rcases List.mem_cons.mp member with rfl | later
        · exact Int.not_lt.mp early
        · exact Int.le_trans (Int.not_lt.mp early) (first other later)
      refine Nat.le_trans (guesses_le_allowance ordered late start never) ?_
      unfold LoginState.allowance
      cases start.users.get? key with
      | none => exact Nat.zero_le _
      | some user => exact allowance_le user _

end Run

theorem guesses_bounded_shortLock :
    guesses plainPlatform shortLock pendingStart 1 0
      [wrongPassword 0, wrongPassword 1, wrongPassword 2] ≤ 2 := by
  refine guesses_bounded plainPlatform shortLock 1 0
    [wrongPassword 0, wrongPassword 1, wrongPassword 2] (by simp [wrongPassword]) pendingStart ?_
  intro move member
  simp only [trace, List.mem_cons, List.not_mem_nil, or_false] at member
  rcases member with rfl | rfl | rfl <;> decide

end ThreatScope.AccessControl
