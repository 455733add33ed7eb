import ThreatScope.AccessControl.AccountEffects
import ThreatScope.AccessControl.SecondFactors
import ThreatScope.Soar.Operations

/-!
# The last administrator

Two guards keep a platform from losing its last administrator. They count different
accounts: the routes count the other administrators that are active or have to change
the password, the playbook counts the active ones, the target among them. Neither
counts a locked account, which failed logins make of any account. The invariant that
both preserve is that some administrator is active, has to change the password, or is
locked (`Governed`).
-/

set_option autoImplicit false

namespace ThreatScope.AccessControl

open Library

/-- An administrator that is active, has to change the password, or is locked. -/
structure UserAccount.Governs (account : UserAccount) : Prop where
  admin : account.isSystemAdmin = true
  status : account.status = .active ∨ account.status = .pendingPasswordChange ∨
    account.status = .locked

/-- The platform has such an administrator. -/
def Governed (users : Table UserAccount) : Prop :=
  ∃ key account, users.get? key = some account ∧ account.Governs

section Effects

variable {ended : Nat → Prop} {users written : Table UserAccount} {key : Nat}

theorem AccountEffect.governs {others ended : Prop} {old new : UserAccount}
    (effect : AccountEffect others ended old new) (governs : old.Governs) :
    new.Governs ∨ others := by
  obtain ⟨isAdmin, stands⟩ := governs
  cases effect with
  | keeps status admin _ => exact .inl ⟨admin.trans isAdmin, by rwa [status]⟩
  | locks status admin => exact .inl ⟨admin.trans isAdmin, .inr (.inr status)⟩
  | unlocks _ status admin => exact .inl ⟨admin.trans isAdmin, .inl status⟩
  | disables guarded _ => exact .inr (guarded isAdmin)
  | rejects guarded _ _ => exact .inr (guarded isAdmin)
  | reopens rejected _ => simp [rejected] at stands
  | approves undecided _ => rcases undecided with status | status <;> simp [status] at stands
  | readmits status admin =>
    rcases status with active | ⟨waits, -⟩
    · exact .inl ⟨admin.trans isAdmin, .inl active⟩
    · exact .inl ⟨admin.trans isAdmin, .inr (.inl waits)⟩
  | holds _ barred _ => rcases barred with status | status | status <;> simp [status] at stands
  | assigns guarded status _ =>
    rcases guarded isAdmin with admin | guard
    · exact .inl ⟨admin, by rwa [status]⟩
    · exact .inr guard

theorem AnotherAdmin.governed (another : AnotherAdmin users key)
    (apart : ∀ other, other ≠ key → written.get? other = users.get? other) : Governed written := by
  obtain ⟨other, account, different, stored, admin, status⟩ := another
  refine ⟨other, account, (apart other different).trans stored, admin, ?_⟩
  rcases status with active | waits
  · exact .inl active
  · exact .inr (.inl waits)

/-- **A call leaves the platform an administrator.** -/
theorem UsersEffect.governed (effect : UsersEffect ended users written)
    (governed : Governed users) : Governed written := by
  obtain ⟨key, account, stored, governs⟩ := governed
  cases effect with
  | harmless rows =>
    have row := rows key
    rw [stored] at row
    cases left : written.get? key with
    | none =>
      rw [left] at row
      cases row
    | some new =>
      rw [left] at row
      cases row with
      | some effect =>
        exact ⟨key, new, left, (effect.governs governs).resolve_right not_false⟩
  | changes target apart row =>
    by_cases here : key = target
    · subst here
      rw [stored] at row
      cases left : written.get? key with
      | none =>
        rw [left] at row
        cases row
      | some new =>
        rw [left] at row
        cases row with
        | some effect =>
          rcases effect.governs governs with kept | another
          · exact ⟨key, new, left, kept⟩
          · exact another.governed apart
    · exact ⟨key, account, (apart key here).trans stored, governs⟩
  | adds added same _ =>
    rw [same]
    refine ⟨key, account, ?_, governs⟩
    rw [Table.get?_insert_of_ne, stored]
    exact Nat.ne_of_lt (Table.lt_nextKey_of_get? stored)

end Effects

/-- **The platform never loses its last administrator.** From a state with an
administrator that is active or has to change the password, no sequence of calls leaves
every administrator disabled or rejected. -/
theorem administrator_remains {ρ : Type} (env : AccountPlatform) (config : AccessConfig)
    (soar : Soar.SoarPlatform ρ) (start : AccessState) (requests : List (AccessRequest ρ))
    (initially : ∃ key account, start.users.get? key = some account ∧
      account.isSystemAdmin = true ∧
      (account.status = .active ∨ account.status = .pendingPasswordChange)) :
    ∃ key account,
      (final (AccessState.next env config soar) start requests).users.get? key =
        some account ∧
      account.isSystemAdmin = true ∧ account.status ≠ .disabled ∧
      account.status ≠ .rejected := by
  obtain ⟨key, account, stored, admin, status⟩ := initially
  have governed : Governed start.users := by
    refine ⟨key, account, stored, admin, ?_⟩
    rcases status with active | waits
    · exact .inl active
    · exact .inr (.inl waits)
  have remains : Governed
      (final (AccessState.next env config soar) start requests).users := by
    apply invariant_final (AccessState.next env config soar)
      (fun state => Governed state.users) (fun _ => True) _ governed fun _ _ => trivial
    intro state request before _
    exact (next_users env config soar state request).governed before
  obtain ⟨key, account, stored, admin, status⟩ := remains
  refine ⟨key, account, stored, admin, ?_, ?_⟩
  · rintro disabled
    simp [disabled] at status
  · rintro rejected
    simp [rejected] at status

/-! ## A small platform -/

/-- Passwords stored as they are. -/
def plainAccounts : AccountPlatform where
  toMfaPlatform := plainMfa
  hasherHash := fun password _ => password

def localConfig : AccessConfig where
  login := shortLock
  session := halfDay
  localLoginEnabled := true
  selfRegistrationEnabled := true
  registrationMode := .autoActivateLimited
  privacyNoticeVersion := "local-privacy-v1"

/-- A platform before its first account, with one role. -/
def freshPlatform : AccessState :=
  .initial ["dashboard:view"] (Table.empty.insert ⟨"registered_user", true, ["dashboard:view"]⟩)

def soleAdministrator : AccessState :=
  freshPlatform.withUsers (Table.empty.insert (Soar.administrator "alice"))

theorem administrator_remains_alone :
    ∃ key account,
      (final (AccessState.next plainAccounts localConfig Soar.plainPlatform) soleAdministrator
        [⟨0, .disable 1⟩, ⟨0, .setRoles 1 []⟩, ⟨0, .reject 1 "obsolete"⟩]).users.get? key =
          some account ∧
      account.isSystemAdmin = true ∧ account.status ≠ .disabled ∧
      account.status ≠ .rejected :=
  administrator_remains plainAccounts localConfig Soar.plainPlatform soleAdministrator _
    ⟨1, Soar.administrator "alice", rfl, rfl, .inl rfl⟩

end ThreatScope.AccessControl
