import ThreatScope.AccessControl.Administrators

/-!
# The administrator flag and the administrator role

An account carries a flag, and a role is assigned to it. The registration routes and
the assignment of roles derive the flag from the role keys they are given, so after
them the two agree. The creation of an account takes both from its payload: only where
no key is named does the flag choose the role. The two agree after it exactly when the
payload's own flag and keys do (`agree_createUser_iff`), and along every run exactly
when the payloads of all the accounts it creates do (`flag_agrees_iff`).
-/

set_option autoImplicit false

namespace ThreatScope.AccessControl

open Library

/-! ## Roles by key -/

/-- A role with the key is assigned to the user. -/
def Directory.Assigned (directory : Directory) (user : Nat) (key : String) : Prop :=
  ∃ id role, directory.roles.get? id = some role ∧ role.roleKey = key ∧
    (user, id) ∈ directory.assignments

/-- `role_key` is unique. -/
def Directory.DistinctRoles (directory : Directory) : Prop :=
  ∀ first second one other, directory.roles.get? first = some one →
    directory.roles.get? second = some other → one.roleKey = other.roleKey → first = second

theorem mem_rolesNamed_iff {directory : Directory} {keys : List String} {id : Nat}
    {role : AccessRole} :
    (id, role) ∈ rolesNamed directory keys ↔
      directory.roles.get? id = some role ∧ role.roleKey ∈ keys := by
  simp [rolesNamed, Table.get?_eq_some_iff]

theorem nodup_rolesNamed {directory : Directory} (distinct : directory.DistinctRoles)
    (keys : List String) : ((rolesNamed directory keys).map fun role => role.2.roleKey).Nodup := by
  apply List.Nodup.map_on
  · rintro ⟨first, one⟩ found ⟨second, other⟩ alsoFound same
    obtain ⟨stored, -⟩ := mem_rolesNamed_iff.mp found
    obtain ⟨alsoStored, -⟩ := mem_rolesNamed_iff.mp alsoFound
    obtain rfl := distinct first second one other stored alsoStored same
    rw [Option.some.inj (stored.symm.trans alsoStored)]
  · exact (List.Nodup.of_map Prod.fst directory.roles.keys_nodup).filter _

theorem exists_role_of_length_eq {directory : Directory} (distinct : directory.DistinctRoles)
    {keys : List String}
    (all : ((rolesNamed directory keys).filter fun row => row.2.enabled).length =
      keys.dedup.length) {key : String} (named : key ∈ keys) :
    ∃ id role, (id, role) ∈ (rolesNamed directory keys).filter (fun row => row.2.enabled) ∧
      role.roleKey = key := by
  let found := ((rolesNamed directory keys).filter fun row => row.2.enabled).map
    fun role => role.2.roleKey
  have nodup : found.Nodup :=
    (nodup_rolesNamed distinct keys).sublist (List.filter_sublist.map _)
  have within : found ⊆ keys.dedup := by
    intro text member
    obtain ⟨⟨id, role⟩, kept, rfl⟩ := List.mem_map.mp member
    exact List.mem_dedup.mpr (mem_rolesNamed_iff.mp (List.mem_of_mem_filter kept)).2
  have same : found.Perm keys.dedup := by
    apply (nodup.subperm within).perm_of_length_le
    rw [← all, List.length_map]
  obtain ⟨⟨id, role⟩, kept, text⟩ :=
    List.mem_map.mp (same.mem_iff.mpr (List.mem_dedup.mpr named))
  exact ⟨id, role, kept, text⟩

/-- What an assignment of roles leaves. -/
structure RolesAssigned (directory : Directory) (user : Nat) (keys : List String)
    (written : Directory) : Prop where
  users : written.users = directory.users
  roles : written.roles = directory.roles
  own : ∀ key, written.Assigned user key ↔ key ∈ keys
  others : ∀ other key, other ≠ user → (written.Assigned other key ↔ directory.Assigned other key)

/-- **The user has the roles of the keys, and every other user the same roles as before.** -/
theorem rolesAssigned_of_assignRoles {directory written : Directory} {user : Nat}
    {keys : List String} (assigned : assignRoles directory user keys = .ok written)
    (distinct : directory.DistinctRoles) :
    RolesAssigned directory user keys written := by
  simp only [assignRoles] at assigned
  split at assigned
  · cases assigned
  rename_i all
  obtain rfl := Except.ok.inj assigned
  refine ⟨rfl, rfl, ?_, ?_⟩
  · intro key
    constructor
    · rintro ⟨id, role, stored, rfl, member⟩
      rcases List.mem_append.mp member with old | new
      · simp at old
      · obtain ⟨⟨_, other⟩, kept, same⟩ := List.mem_map.mp new
        obtain ⟨-, rfl⟩ := Prod.mk.inj same
        obtain ⟨alsoStored, named⟩ := mem_rolesNamed_iff.mp (List.mem_of_mem_filter kept)
        rwa [Option.some.inj (stored.symm.trans alsoStored)]
    · intro named
      obtain ⟨id, role, kept, text⟩ := exists_role_of_length_eq distinct (not_not.mp all) named
      obtain ⟨stored, -⟩ := mem_rolesNamed_iff.mp (List.mem_of_mem_filter kept)
      exact ⟨id, role, stored, text,
        List.mem_append_right _ (List.mem_map.mpr ⟨(id, role), kept, rfl⟩)⟩
  · intro other key apart
    have kept : ∀ id, (other, id) ∈ (directory.assignments.filter fun assignment =>
          assignment.1 != user) ++ ((rolesNamed directory keys).filter fun row =>
            row.2.enabled).map (fun role => (user, role.1)) ↔
        (other, id) ∈ directory.assignments := by
      intro id
      simp [apart, Ne.symm apart]
    simp only [Directory.Assigned, kept]

/-! ## One call -/

/-- The flag of every account says whether the administrator role is assigned to it. -/
def Directory.FlagAgrees (directory : Directory) : Prop :=
  ∀ user account, directory.users.get? user = some account →
    (account.isSystemAdmin = true ↔ directory.Assigned user "administrator")

/-- No key is named, or the administrator's is exactly when the flag is set. -/
def UserCreate.Agrees (payload : UserCreate) : Prop :=
  payload.roleKeys = [] ∨ (payload.isSystemAdmin = true ↔ "administrator" ∈ payload.roleKeys)

/-- The calls that register, create and decide on accounts, and that assign roles. -/
inductive AccessCall.WritesRoles {ρ : Type} : AccessCall ρ → Prop where
  | register (payload : RegistrationRequest) (tokens : List String) (salt : String) :
      AccessCall.WritesRoles (.register payload tokens salt)
  | createUser (payload : UserCreate) (salt : String) :
      AccessCall.WritesRoles (.createUser payload salt)
  | approve (user : Nat) (keys : List String) (confirmAdministrator : Bool) :
      AccessCall.WritesRoles (.approve user keys confirmAdministrator)
  | reject (user : Nat) (reason : String) : AccessCall.WritesRoles (.reject user reason)
  | reopen (user : Nat) : AccessCall.WritesRoles (.reopen user)
  | setRoles (user : Nat) (keys : List String) : AccessCall.WritesRoles (.setRoles user keys)

section Directories

variable {directory written : Directory}

/-- A new account keeps the agreement exactly when its own flag agrees with its keys. -/
theorem RolesAssigned.flagAgrees_insert_iff {account : UserAccount} {keys : List String}
    (agrees : directory.FlagAgrees)
    (assigned : RolesAssigned { directory with users := directory.users.insert account }
      directory.users.nextKey keys written) :
    written.FlagAgrees ↔ (account.isSystemAdmin = true ↔ "administrator" ∈ keys) := by
  constructor
  · intro after
    rw [after directory.users.nextKey account (by simp [assigned.users]), assigned.own]
  · intro own user other stored
    rw [assigned.users] at stored
    by_cases here : user = directory.users.nextKey
    · subst here
      obtain rfl := Option.some.inj ((Table.get?_insert_nextKey _ _).symm.trans stored)
      rw [assigned.own, own]
    · rw [Table.get?_insert_of_ne _ _ here] at stored
      rw [assigned.others user _ here]
      exact agrees user other stored

theorem RolesAssigned.flagAgrees_modify {user : Nat} {keys : List String}
    {change : UserAccount → UserAccount} (agrees : directory.FlagAgrees)
    (assigned : RolesAssigned directory user keys written)
    (flag : ∀ account, (change account).isSystemAdmin = keys.contains "administrator") :
    Directory.FlagAgrees { written with users := written.users.modify user change } := by
  intro other account stored
  have same : Directory.Assigned { written with users := written.users.modify user change } other
      "administrator" ↔ written.Assigned other "administrator" := Iff.rfl
  rw [same]
  simp only [assigned.users] at stored
  by_cases here : other = user
  · subst here
    rw [Table.get?_modify_self] at stored
    obtain ⟨old, -, rfl⟩ := Option.map_eq_some_iff.mp stored
    rw [assigned.own, flag, List.contains_iff_mem]
  · rw [Table.get?_modify_of_ne _ _ here] at stored
    rw [assigned.others other _ here]
    exact agrees other account stored

theorem Directory.FlagAgrees.modify (agrees : directory.FlagAgrees) {user : Nat}
    {change : UserAccount → UserAccount}
    (flag : ∀ account, (change account).isSystemAdmin = account.isSystemAdmin) :
    Directory.FlagAgrees { directory with users := directory.users.modify user change } := by
  intro other account stored
  by_cases here : other = user
  · subst here
    rw [Table.get?_modify_self] at stored
    obtain ⟨old, before, rfl⟩ := Option.map_eq_some_iff.mp stored
    rw [flag]
    exact agrees other old before
  · rw [Table.get?_modify_of_ne _ _ here] at stored
    exact agrees other account stored

end Directories

section Services

variable (env : AccountPlatform) (config : AccessConfig) {state written : AccessState}

/-- The flag agrees with the keys the roles are assigned from exactly when the payload's
own do. -/
theorem UserCreate.agrees_iff (payload : UserCreate) :
    (payload.isSystemAdmin = true ↔ "administrator" ∈
      if !payload.roleKeys.isEmpty then payload.roleKeys
      else if payload.isSystemAdmin then ["administrator"] else []) ↔ payload.Agrees := by
  unfold UserCreate.Agrees
  cases keys : payload.roleKeys with
  | nil => cases payload.isSystemAdmin with
    | true => simp
    | false => simp
  | cons key rest => simp

/-- **A creation keeps the agreement exactly when its payload agrees.** -/
theorem agree_createUser_iff (distinct : state.directory.DistinctRoles)
    (agrees : state.directory.FlagAgrees) {payload : UserCreate} {salt : String}
    (created : createUser env state payload salt = .ok written) :
    written.directory.roles = state.directory.roles ∧
      (written.directory.FlagAgrees ↔ payload.Agrees) := by
  obtain ⟨username, -, created⟩ := bind_eq_ok_iff.mp created
  obtain ⟨email, -, created⟩ := bind_eq_ok_iff.mp created
  split at created
  · cases created
  split at created
  · cases created
  obtain ⟨displayName, -, created⟩ := bind_eq_ok_iff.mp created
  obtain ⟨passwordHash, -, created⟩ := bind_eq_ok_iff.mp created
  obtain ⟨directory, assigned, created⟩ := bind_eq_ok_iff.mp created
  obtain rfl := Except.ok.inj created
  have assigned := rolesAssigned_of_assignRoles assigned distinct
  refine ⟨assigned.roles, ?_⟩
  rw [← payload.agrees_iff]
  exact assigned.flagAgrees_insert_iff agrees

theorem flagAgrees_registerLocalAccount (distinct : state.directory.DistinctRoles)
    (agrees : state.directory.FlagAgrees) {payload : RegistrationRequest} {tokens : List String}
    {salt : String}
    (registered : registerLocalAccount env config state payload tokens salt = .ok written) :
    written.directory.roles = state.directory.roles ∧ written.directory.FlagAgrees := by
  unfold registerLocalAccount at registered
  split at registered
  · cases registered
  split at registered
  · cases registered
  · cases registered
  split at registered
  · cases registered
  rename_i email _ _ saved result
  obtain rfl := Except.ok.inj registered
  obtain ⟨account, checked, result⟩ := bind_eq_ok_iff.mp result
  obtain ⟨directory, assigned, result⟩ := bind_eq_ok_iff.mp result
  obtain rfl := Except.ok.inj result
  have assigned := rolesAssigned_of_assignRoles assigned distinct
  refine ⟨assigned.roles, (assigned.flagAgrees_insert_iff agrees).mpr ?_⟩
  simp [(registeredAccount_plain checked).1]

theorem flagAgrees_approveRegistration (distinct : state.directory.DistinctRoles)
    (agrees : state.directory.FlagAgrees) {key : Nat} {user : UserAccount} {keys : List String}
    {confirmAdministrator : Bool}
    (approved : approveRegistration state key user keys confirmAdministrator = .ok written) :
    written.directory.roles = state.directory.roles ∧ written.directory.FlagAgrees := by
  unfold approveRegistration at approved
  extract_lets unique roles at approved
  split at approved
  · cases approved
  split at approved
  · cases approved
  split at approved
  · cases approved
  obtain ⟨directory, assigned, approved⟩ := bind_eq_ok_iff.mp approved
  obtain rfl := Except.ok.inj approved
  have assigned := rolesAssigned_of_assignRoles assigned distinct
  exact ⟨assigned.roles, assigned.flagAgrees_modify agrees fun _ => rfl⟩

theorem flagAgrees_setUserRoles (distinct : state.directory.DistinctRoles)
    (agrees : state.directory.FlagAgrees) {now : Instant} {key : Nat} {user : UserAccount}
    {keys : List String} (assigned : setUserRoles state now key user keys = .ok written) :
    written.directory.roles = state.directory.roles ∧ written.directory.FlagAgrees := by
  unfold setUserRoles at assigned
  extract_lets becomingAdmin at assigned
  obtain ⟨-, -, assigned⟩ := bind_eq_ok_iff.mp assigned
  obtain ⟨directory, roles, assigned⟩ := bind_eq_ok_iff.mp assigned
  obtain rfl := Except.ok.inj assigned
  have roles := rolesAssigned_of_assignRoles roles distinct
  exact ⟨roles.roles, roles.flagAgrees_modify agrees fun _ => rfl⟩

theorem flagAgrees_rejectRegistration (agrees : state.directory.FlagAgrees) {now : Instant}
    {key : Nat} {user : UserAccount} {reason : String}
    (rejected : rejectRegistration state now key user reason = .ok written) :
    written.directory.roles = state.directory.roles ∧ written.directory.FlagAgrees := by
  unfold rejectRegistration at rejected
  extract_lets bounded at rejected
  split at rejected
  · cases rejected
  split at rejected
  · cases rejected
  obtain ⟨-, -, rejected⟩ := bind_eq_ok_iff.mp rejected
  obtain rfl := Except.ok.inj rejected
  exact ⟨rfl, agrees.modify fun _ => rfl⟩

theorem flagAgrees_reopenRegistration (agrees : state.directory.FlagAgrees) {key : Nat}
    {user : UserAccount} (reopened : reopenRegistration state key user = .ok written) :
    written.directory.roles = state.directory.roles ∧ written.directory.FlagAgrees := by
  unfold reopenRegistration at reopened
  split at reopened
  · cases reopened
  · obtain rfl := Except.ok.inj reopened
    exact ⟨rfl, agrees.modify fun _ => rfl⟩

end Services

/-! ## Runs -/

section Runs

variable {ρ : Type} (env : AccountPlatform) (config : AccessConfig) (soar : Soar.SoarPlatform ρ)

/-- The call creates an account from the payload. -/
def AccessRequest.Creates (request : AccessRequest ρ) (state : AccessState)
    (payload : UserCreate) : Prop :=
  ∃ salt written, request.call = .createUser payload salt ∧
    createUser env state payload salt = .ok written

variable {state : AccessState}

theorem flagAgrees_after {ε : Type} {result : Except ε AccessState}
    (agrees : state.directory.FlagAgrees)
    (kept : ∀ written, result = .ok written →
      written.directory.roles = state.directory.roles ∧ written.directory.FlagAgrees) :
    (state.after result).directory.roles = state.directory.roles ∧
      (state.after result).directory.FlagAgrees := by
  cases result with
  | error error => exact ⟨rfl, agrees⟩
  | ok written => exact kept written rfl

theorem flagAgrees_userRoute {key : Nat} {service : UserAccount → Except String AccessState}
    (agrees : state.directory.FlagAgrees)
    (kept : ∀ user written, service user = .ok written →
      written.directory.roles = state.directory.roles ∧ written.directory.FlagAgrees) :
    (state.after (userRoute state key service)).directory.roles = state.directory.roles ∧
      (state.after (userRoute state key service)).directory.FlagAgrees := by
  apply flagAgrees_after agrees
  intro written answered
  unfold userRoute at answered
  split at answered
  · cases answered
  split at answered
  · cases answered
  · rename_i user _ _ saved result
    obtain rfl := Except.ok.inj answered
    exact kept user saved result

/-- **One call** keeps the agreement exactly when the payload of an account it creates
agrees. -/
theorem flagAgrees_next_iff (distinct : state.directory.DistinctRoles)
    (agrees : state.directory.FlagAgrees) (request : AccessRequest ρ)
    (writes : request.call.WritesRoles) :
    (state.next env config soar request).directory.roles = state.directory.roles ∧
      ((state.next env config soar request).directory.FlagAgrees ↔
        ∀ payload, request.Creates env state payload → payload.Agrees) := by
  obtain ⟨now, call⟩ := request
  have other : (∀ payload salt, call ≠ .createUser payload salt) →
      (state.next env config soar ⟨now, call⟩).directory.roles = state.directory.roles ∧
        (state.next env config soar ⟨now, call⟩).directory.FlagAgrees →
      (state.next env config soar ⟨now, call⟩).directory.roles = state.directory.roles ∧
        ((state.next env config soar ⟨now, call⟩).directory.FlagAgrees ↔
          ∀ payload, AccessRequest.Creates env ⟨now, call⟩ state payload →
            payload.Agrees) := by
    rintro different ⟨roles, kept⟩
    refine ⟨roles, fun _ => ?_, fun _ => kept⟩
    rintro payload ⟨salt, written, same, -⟩
    exact absurd same (different payload salt)
  cases writes with
  | register payload tokens salt =>
    refine other (by simp) (flagAgrees_after agrees fun written => ?_)
    exact flagAgrees_registerLocalAccount env config distinct agrees
  | approve user keys confirmAdministrator =>
    refine other (by simp) (flagAgrees_userRoute agrees fun account written => ?_)
    exact flagAgrees_approveRegistration distinct agrees
  | reject user reason =>
    refine other (by simp) (flagAgrees_userRoute agrees fun account written => ?_)
    exact flagAgrees_rejectRegistration agrees
  | reopen user =>
    refine other (by simp) (flagAgrees_userRoute agrees fun account written => ?_)
    exact flagAgrees_reopenRegistration agrees
  | setRoles user keys =>
    refine other (by simp) (flagAgrees_userRoute agrees fun account written => ?_)
    exact flagAgrees_setUserRoles distinct agrees
  | createUser payload salt =>
    cases created : createUser env state payload salt with
    | error error =>
      simp only [AccessState.next, created, AccessState.after, true_and]
      refine ⟨fun _ => ?_, fun _ => agrees⟩
      rintro other ⟨_, written, same, done⟩
      cases same
      cases created.symm.trans done
    | ok written =>
      simp only [AccessState.next, created, AccessState.after]
      obtain ⟨roles, exact_iff⟩ := agree_createUser_iff env distinct agrees created
      refine ⟨roles, exact_iff.trans ⟨fun own => ?_, fun all => ?_⟩⟩
      · rintro other ⟨_, _, same, -⟩
        cases same
        exact own
      · exact all payload ⟨salt, written, rfl, created⟩

/-- **The flag and the role agree in every state of a run exactly when the payload of
every account the run creates agrees.** -/
theorem flag_agrees_iff (start : AccessState) (requests : List (AccessRequest ρ))
    (distinct : start.directory.DistinctRoles) (agrees : start.directory.FlagAgrees)
    (writes : ∀ request ∈ requests, request.call.WritesRoles) :
    (∀ move ∈ trace (AccessState.next env config soar) start requests,
        move.after.directory.FlagAgrees) ↔
      ∀ move ∈ trace (AccessState.next env config soar) start requests,
        ∀ payload, move.input.Creates env move.before payload →
          payload.Agrees := by
  induction requests generalizing start with
  | nil => simp [trace]
  | cons request rest ih =>
    obtain ⟨first, others⟩ := List.forall_mem_cons.mp writes
    obtain ⟨roles, one⟩ := flagAgrees_next_iff env config soar distinct agrees _ first
    have kept : (start.next env config soar request).directory.DistinctRoles := by
      unfold Directory.DistinctRoles
      rw [roles]
      exact distinct
    simp only [trace, List.forall_mem_cons]
    constructor
    · rintro ⟨here, later⟩
      exact ⟨one.mp here, (ih _ kept here others).mp later⟩
    · rintro ⟨here, later⟩
      exact ⟨one.mpr here, (ih _ kept (one.mpr here) others).mpr later⟩

end Runs

/-! ## An administrator without the role -/

/-- A platform before its first account, with two of the seeded roles. -/
def seededPlatform : AccessState :=
  .initial ["dashboard:view"] ((Table.empty.insert
    ⟨"administrator", true, ["dashboard:view"]⟩).insert
    ⟨"registered_user", true, ["dashboard:view"]⟩)

theorem get?_seededPlatform {id : Nat} {role : AccessRole}
    (stored : seededPlatform.directory.roles.get? id = some role) :
    id = 1 ∧ role.roleKey = "administrator" ∨ id = 2 ∧ role.roleKey = "registered_user" := by
  rw [Table.get?_eq_some_iff] at stored
  simp only [seededPlatform, AccessState.initial, Table.insert, Table.empty, List.nil_append,
    List.cons_append, List.mem_cons, Prod.mk.injEq, List.not_mem_nil, or_false] at stored
  rcases stored with ⟨rfl, rfl⟩ | ⟨rfl, rfl⟩
  · exact .inl ⟨rfl, rfl⟩
  · exact .inr ⟨rfl, rfl⟩

theorem distinctRoles_seededPlatform : seededPlatform.directory.DistinctRoles := by
  intro first second one other stored alsoStored same
  rcases get?_seededPlatform stored with ⟨rfl, key⟩ | ⟨rfl, key⟩
  · rcases get?_seededPlatform alsoStored with ⟨rfl, -⟩ | ⟨-, wrong⟩
    · rfl
    · simp [key, wrong] at same
  · rcases get?_seededPlatform alsoStored with ⟨-, wrong⟩ | ⟨rfl, -⟩
    · simp [key, wrong] at same
    · rfl

theorem flagAgrees_initial (permissions : List String) (roles : Table AccessRole) :
    (AccessState.initial permissions roles).directory.FlagAgrees := by
  intro user account stored
  cases stored

/-- A payload that sets the flag and names another role. -/
def flaggedUser : UserCreate :=
  ⟨"mallory", "Mallory", none, "correct horse battery", ["registered_user"], true, true⟩

/-- A payload that names no role. -/
def defaultAdministrator : UserCreate := { flaggedUser with roleKeys := [] }

/-- The platform after the payload's account was created. -/
def flaggedPlatform : AccessState :=
  final (AccessState.next plainAccounts localConfig Soar.plainPlatform) seededPlatform
    [⟨0, .createUser flaggedUser "salt"⟩]

/-- **The account has the flag and not the role.** -/
theorem flag_without_role :
    ∃ account, flaggedPlatform.directory.users.get? 1 = some account ∧
      ¬(account.isSystemAdmin = true ↔ flaggedPlatform.directory.Assigned 1 "administrator") := by
  have flagged : (flaggedPlatform.directory.users.get? 1).any
      (fun account => account.isSystemAdmin) = true := by
    decide +kernel
  have assigned : flaggedPlatform.directory.assignments = [(1, 2)] := by
    decide +kernel
  have roles : flaggedPlatform.directory.roles = seededPlatform.directory.roles := by
    rw [flaggedPlatform, final_cons, final_nil]
    exact (flagAgrees_next_iff plainAccounts localConfig Soar.plainPlatform
      distinctRoles_seededPlatform (flagAgrees_initial _ _) _ (.createUser flaggedUser "salt")).1
  obtain ⟨account, stored, flag⟩ := Option.any_eq_true _ _ |>.mp flagged
  refine ⟨account, stored, fun agrees => ?_⟩
  obtain ⟨id, role, found, key, member⟩ := agrees.mp flag
  rw [roles] at found
  rw [assigned] at member
  obtain rfl : id = 2 := by simpa using member
  rcases get?_seededPlatform found with ⟨wrong, -⟩ | ⟨-, wrong⟩
  · cases wrong
  · simp [key] at wrong

theorem flag_agrees_iff_default :
    seededPlatform.directory.FlagAgrees ∧
    (∀ move ∈ trace (AccessState.next plainAccounts localConfig Soar.plainPlatform)
        seededPlatform [⟨0, .createUser defaultAdministrator "salt"⟩, ⟨0, .setRoles 1 []⟩],
      move.after.directory.FlagAgrees) := by
  refine ⟨flagAgrees_initial _ _, ?_⟩
  refine (flag_agrees_iff plainAccounts localConfig Soar.plainPlatform seededPlatform _
    distinctRoles_seededPlatform (flagAgrees_initial _ _) ?_).mpr ?_
  · simp only [List.forall_mem_cons]
    exact ⟨.createUser _ _, .setRoles _ _, by simp⟩
  · rintro move member payload ⟨salt, written, called, -⟩
    have input := input_mem_of_mem_trace _ member
    simp only [List.mem_cons, List.not_mem_nil, or_false] at input
    rcases input with same | same
    · simp only [same, AccessCall.createUser.injEq] at called
      rw [← called.1]
      exact .inl rfl
    · simp [same] at called

end ThreatScope.AccessControl
