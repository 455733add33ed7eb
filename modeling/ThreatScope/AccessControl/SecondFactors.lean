import ThreatScope.AccessControl.Mfa

/-!
# A second factor is accepted once

The counter a device accepted last is a watermark, and the unused recovery
codes are a token pool. Each call is one step of both: at most one device mark
is raised, and what happens to the codes is a short run of the pool
(`devicesStep`, `codesStep`). The rules for watermarks and pools then hold over
every run of calls (`secondFactors_singleUse`).
-/

set_option autoImplicit false

namespace ThreatScope.AccessControl

open Library

variable (env : MfaPlatform)

/-! ## Device marks -/

/-- The counter a device accepted last, for the devices that exist. -/
def deviceMark (devices : Table MfaDevice) (device : Nat) : Option (Option Int) :=
  (devices.get? device).map MfaDevice.lastUsedCounter

/-- Devices may be deleted and enrolled; the others keep their mark. -/
structure MarksKept (before after : Table MfaDevice) : Prop where
  nextKey_le : before.nextKey ≤ after.nextKey
  kept : ∀ device < before.nextKey, ∀ last, deviceMark after device = some last →
    deviceMark before device = some last

namespace MarksKept

variable {before middle after : Table MfaDevice}

theorem refl (devices : Table MfaDevice) : MarksKept devices devices :=
  ⟨Nat.le_refl _, fun _ _ _ found => found⟩

theorem trans (first : MarksKept before middle) (second : MarksKept middle after) :
    MarksKept before after where
  nextKey_le := Nat.le_trans first.nextKey_le second.nextKey_le
  kept := fun device old last found => first.kept device old last
    (second.kept device (Nat.lt_of_lt_of_le old first.nextKey_le) last found)

theorem update (change : Nat → MfaDevice → MfaDevice)
    (same : ∀ key device, (change key device).lastUsedCounter = device.lastUsedCounter) :
    MarksKept before (before.update change) where
  nextKey_le := Nat.le_refl _
  kept := by
    intro device _ last found
    rw [deviceMark, Table.get?_update, Option.map_map] at found
    rw [deviceMark, ← found]
    exact congrArg (fun f => Option.map f (before.get? device)) (funext fun row =>
      (same device row).symm)

theorem modify (key : Nat) (change : MfaDevice → MfaDevice)
    (same : ∀ device, (change device).lastUsedCounter = device.lastUsedCounter) :
    MarksKept before (before.modify key change) where
  nextKey_le := Nat.le_refl _
  kept := by
    intro device _ last found
    rw [deviceMark, Table.get?_modify] at found
    rw [deviceMark, ← found]
    cases before.get? device with
    | none => split <;> rfl
    | some row =>
      split
      · simp [same]
      · rfl

theorem deleteWhere (test : Nat → MfaDevice → Bool) :
    MarksKept before (before.deleteWhere test) where
  nextKey_le := Nat.le_refl _
  kept := by
    intro device _ last found
    rw [deviceMark, Table.get?_deleteWhere] at found
    obtain ⟨row, member, marked⟩ := Option.map_eq_some_iff.mp found
    rw [deviceMark, (Option.filter_eq_some_iff.mp member).1, Option.map_some, marked]

theorem insert (device : MfaDevice) : MarksKept before (before.insert device) where
  nextKey_le := Nat.le_succ _
  kept := by
    intro key old last found
    rwa [deviceMark, Table.get?_insert_of_ne _ _ (Nat.ne_of_lt old)] at found

end MarksKept

/-- A device accepts a counter above its mark and near the clock; the other
devices keep their mark. -/
structure MarkRaised (before after : Table MfaDevice) (now : Instant) (device : Nat)
    (counter : Int) : Prop where
  above : ∃ last, deviceMark before device = some last ∧
    ∀ bound, last = some bound → bound < counter
  near : (counter - totpCounter now).natAbs ≤ 1
  nextKey_le : before.nextKey ≤ after.nextKey
  moved : ∀ last, deviceMark after device = some last → last = some counter
  others : ∀ other < before.nextKey, other ≠ device → ∀ last,
    deviceMark after other = some last → deviceMark before other = some last

namespace MarkRaised

variable {before middle after : Table MfaDevice} {now : Instant} {device : Nat} {counter : Int}

theorem exists_device (raised : MarkRaised before after now device counter) :
    device < before.nextKey := by
  obtain ⟨last, found, -⟩ := raised.above
  obtain ⟨row, stored, -⟩ := Option.map_eq_some_iff.mp found
  exact Table.lt_nextKey_of_get? stored

theorem modify {row : MfaDevice} {change : MfaDevice → MfaDevice}
    (found : before.get? device = some row)
    (above : ∀ last, row.lastUsedCounter = some last → last < counter)
    (near : (counter - totpCounter now).natAbs ≤ 1)
    (set : ∀ row, (change row).lastUsedCounter = some counter) :
    MarkRaised before (before.modify device change) now device counter where
  above := ⟨row.lastUsedCounter, by rw [deviceMark, found, Option.map_some], above⟩
  near := near
  nextKey_le := Nat.le_refl _
  moved := by
    intro last read
    rw [deviceMark, Table.get?_modify_self, found] at read
    simp only [Option.map_some, set, Option.some.injEq] at read
    exact read.symm
  others := by
    intro other _ different last read
    rwa [deviceMark, Table.get?_modify_of_ne _ _ different] at read

theorem keep (raised : MarkRaised before middle now device counter)
    (kept : MarksKept middle after) : MarkRaised before after now device counter where
  above := raised.above
  near := raised.near
  nextKey_le := Nat.le_trans raised.nextKey_le kept.nextKey_le
  moved := fun last read => raised.moved last
    (kept.kept device (Nat.lt_of_lt_of_le raised.exists_device raised.nextKey_le) last read)
  others := fun other old different last read => raised.others other old different last
    (kept.kept other (Nat.lt_of_lt_of_le old raised.nextKey_le) last read)

end MarkRaised

theorem mem_of_matchedCounter {expected : Int → String} {normalized : String}
    {candidates : List Int} {counter : Int}
    (found : matchedCounter expected normalized candidates = .ok (some counter)) :
    counter ∈ candidates := by
  induction candidates with
  | nil => cases found
  | cons candidate rest ih =>
    unfold matchedCounter at found
    split at found
    · cases found
    · cases found
      exact List.mem_cons_self ..
    · exact List.mem_cons_of_mem _ (ih found)

/-- An accepted counter is within one step of the clock and above the last one
the device accepted. -/
theorem verifyTotp_some {device : MfaDevice} {now : Instant} {code : String} {counter : Int}
    (accepted : verifyTotp env device now code = .ok (some counter)) :
    (counter - totpCounter now).natAbs ≤ 1 ∧
      ∀ last, device.lastUsedCounter = some last → last < counter := by
  unfold verifyTotp at accepted
  simp only at accepted
  split at accepted
  · cases accepted
  · split at accepted
    · cases accepted
    · split at accepted
      · cases accepted
      · cases accepted
      · rename_i found
        have place := mem_of_matchedCounter found
        have near : ∀ other, other ∈ [totpCounter now - 1, totpCounter now, totpCounter now + 1] →
            (other - totpCounter now).natAbs ≤ 1 := by
          intro other member
          simp only [List.mem_cons, List.not_mem_nil, or_false] at member
          omega
        split at accepted
        · rename_i last used
          split at accepted
          · cases accepted
          · cases accepted
            refine ⟨near _ place, fun other same => ?_⟩
            rw [used] at same
            cases same
            omega
        · rename_i unused
          cases accepted
          exact ⟨near _ place, fun other same => absurd same (by simp [unused])⟩

/-- What accepting a factor, or none, does to the devices. -/
def DevicesStep (before after : Table MfaDevice) (now : Instant) : Option Factor → Prop
  | some (.totp device counter) => MarkRaised before after now device counter
  | _ => MarksKept before after

theorem DevicesStep.keep {before middle after : Table MfaDevice} {now : Instant}
    {accepted : Option Factor} (step : DevicesStep before middle now accepted)
    (kept : MarksKept middle after) : DevicesStep before after now accepted := by
  cases accepted with
  | none => exact MarksKept.trans step kept
  | some factor =>
    cases factor with
    | totp device counter => exact MarkRaised.keep step kept
    | recovery digest => exact MarksKept.trans step kept

/-- The factor an answer accepts. -/
def acceptedFactor {ε : Type} (answer : Except ε (Option Factor)) : Option Factor :=
  match answer with
  | .ok accepted => accepted
  | .error _ => none

theorem verifyUserFactor_devices (state : MfaState) (now : Instant) (user : Nat) (value : String)
    (recovery : Bool) :
    DevicesStep state.devices (verifyUserFactor env state now user value recovery).1.devices
      now (acceptedFactor (verifyUserFactor env state now user value recovery).2) := by
  unfold verifyUserFactor
  cases recovery with
  | true =>
    simp only [if_true, consumeRecoveryCode]
    split <;> exact MarksKept.refl _
  | false =>
    simp only [Bool.false_eq_true, if_false]
    split
    · exact MarksKept.refl _
    · rename_i key device selected
      split
      · exact MarksKept.refl _
      · exact MarksKept.refl _
      · rename_i counter accepted
        obtain ⟨near, above⟩ := verifyTotp_some env accepted
        dsimp only [DevicesStep, acceptedFactor]
        exact MarkRaised.modify (Table.get?_of_first? selected).1 above near fun _ => rfl

theorem disableDevices_kept (devices : Table MfaDevice) (now : Instant)
    (selected : MfaDevice → Bool) : MarksKept devices (disableDevices devices now selected) :=
  .update _ fun _ _ => by split <;> rfl

theorem beginEnrollment_devices (state : MfaState) (now : Instant) (user : Nat) (label : String)
    (restart : Bool) (secret : String) :
    MarksKept state.devices
      (beginEnrollment env state now user label restart secret).1.devices := by
  have fresh : ∀ device, MarksKept state.devices
      ((cancelEnrollment state user).devices.insert device) := fun device =>
    (MarksKept.deleteWhere _).trans (.insert device)
  unfold beginEnrollment
  simp only
  split
  · split
    · split
      · split <;> exact MarksKept.refl _
      · split
        · exact MarksKept.refl _
        · exact fresh _
    · split
      · exact MarksKept.refl _
      · exact fresh _
  · split
    · exact MarksKept.refl _
    · exact fresh _

theorem confirmEnrollment_devices (state : MfaState) (now : Instant) (user : Nat) (code : String)
    (deviceId : Option Nat) (tokens : List String) :
    DevicesStep state.devices
      (confirmEnrollment env state now user code deviceId tokens).1.devices now
      (match (confirmEnrollment env state now user code deviceId tokens).2 with
        | .ok answer => some answer.1
        | .error _ => none) := by
  unfold confirmEnrollment
  split
  · exact MarksKept.refl _
  · rename_i key device selected
    split
    · dsimp only [DevicesStep]
      exact MarksKept.deleteWhere _
    · split
      · exact MarksKept.refl _
      · split
        · exact MarksKept.refl _
        · dsimp only [DevicesStep]
          exact MarksKept.modify _ _ fun _ => rfl
        · rename_i counter accepted
          obtain ⟨near, above⟩ := verifyTotp_some env accepted
          split
          · exact MarksKept.refl _
          · dsimp only [DevicesStep]
            exact MarkRaised.modify (Table.get?_of_newest? selected).1 above near fun _ => rfl

/-- A request moves the mark of a device only as it accepts one of its codes. -/
theorem devicesStep (state : MfaState) (request : MfaRequest) :
    DevicesStep state.devices (mfaStep env state request).devices request.now
      (mfaReply env state request).accepted := by
  unfold mfaStep mfaReply
  cases request.call with
  | challenge user token => exact MarksKept.refl _
  | cancel user =>
    dsimp only [MfaReply.quiet, DevicesStep, cancelEnrollment]
    exact MarksKept.deleteWhere _
  | status user =>
    simp only [MfaReply.quiet, mfaStatus]
    split
    · split
      · exact MarksKept.refl _
      · dsimp only [DevicesStep]
        exact MarksKept.deleteWhere _
    · exact MarksKept.refl _
  | reset user =>
    simp only [resetMfa]
    split
    · exact MarksKept.refl _
    · dsimp only [DevicesStep]
      exact disableDevices_kept _ _ _
  | enroll user password label restart secret =>
    simp only [enrollMfa]
    split
    · exact MarksKept.refl _
    · split
      · exact MarksKept.refl _
      · split
        · exact MarksKept.refl _
        · exact MarksKept.refl _
        · split
          · exact MarksKept.refl _
          · have step := beginEnrollment_devices env state request.now user
              label restart secret
            split
            · rename_i same
              rw [same] at step
              exact step
            · rename_i same
              rw [same] at step
              exact step
  | confirm user code deviceId tokens =>
    simp only [confirmMfa]
    split
    · exact MarksKept.refl _
    · split
      · exact MarksKept.refl _
      · split
        · exact MarksKept.refl _
        · have step := confirmEnrollment_devices env state request.now user
            code deviceId tokens
          split
          · rename_i same
            rw [same] at step
            exact step
          · rename_i same
            rw [same] at step
            exact step
  | verifyLogin token code recovery =>
    simp only [verifyMfaLogin]
    split
    · exact MarksKept.refl _
    · rename_i challenge row _
      split
      · exact MarksKept.refl _
      · split
        · exact MarksKept.refl _
        · have step := verifyUserFactor_devices env state request.now row.userId code recovery
          split
          · rename_i same
            rw [same] at step
            exact step
          · rename_i same
            rw [same] at step
            exact step
          · rename_i same
            rw [same] at step
            exact step
  | disable user confirmDisable password code recovery =>
    simp only [disableMfa]
    split
    · exact MarksKept.refl _
    · split
      · exact MarksKept.refl _
      · split
        · exact MarksKept.refl _
        · split
          · exact MarksKept.refl _
          · exact MarksKept.refl _
          · have step := verifyUserFactor_devices env state request.now user
              code recovery
            split
            · rename_i same
              rw [same] at step
              exact step
            · rename_i same
              rw [same] at step
              exact step
            · rename_i same
              rw [same] at step
              refine DevicesStep.keep step ?_
              dsimp only
              exact disableDevices_kept _ _ _
  | regenerate user password code recovery tokens =>
    simp only [regenerateRecovery]
    split
    · exact MarksKept.refl _
    · split
      · exact MarksKept.refl _
      · split
        · exact MarksKept.refl _
        · exact MarksKept.refl _
        · have step := verifyUserFactor_devices env state request.now user
            code recovery
          split
          · rename_i same
            rw [same] at step
            exact step
          · rename_i same
            rw [same] at step
            exact step
          · rename_i same
            rw [same] at step
            split <;> exact step

/-! ## The pool of recovery codes -/

/-- An unused code of a user. -/
def heldCode (codes : Table MfaRecoveryCode) (user : Nat) (digest : String) : Prop :=
  ∃ key, codes.get? key = some ⟨user, digest, none⟩

/-- The digests stored in the table. -/
def storedDigests (codes : Table MfaRecoveryCode) : List String :=
  codes.rows.map fun row => row.2.codeHash

theorem mem_storedDigests {codes : Table MfaRecoveryCode} {key : Nat} {row : MfaRecoveryCode}
    (found : codes.get? key = some row) : row.codeHash ∈ storedDigests codes :=
  List.mem_map.mpr ⟨(key, row), (codes.get?_eq_some_iff key row).mp found, rfl⟩

theorem get?_inj_of_digest {codes : Table MfaRecoveryCode} (unique : (storedDigests codes).Nodup)
    {first second : Nat} {row other : MfaRecoveryCode} (here : codes.get? first = some row)
    (there : codes.get? second = some other) (same : row.codeHash = other.codeHash) :
    first = second ∧ row = other := by
  have equal := List.inj_on_of_nodup_map unique ((codes.get?_eq_some_iff _ _).mp here)
    ((codes.get?_eq_some_iff _ _).mp there) same
  exact ⟨congrArg Prod.fst equal, congrArg Prod.snd equal⟩

theorem withdrawn_allows (codes : Table MfaRecoveryCode) (user : Nat) :
    TokenEvent.Allows (heldCode codes)
      (heldCode (codes.deleteWhere fun _ row => row.userId == user)) (.withdrawn user) := by
  rintro other digest ⟨key, found⟩
  rw [Table.get?_deleteWhere] at found
  obtain ⟨stored, passes⟩ := Option.filter_eq_some_iff.mp found
  exact ⟨⟨key, stored⟩, by simpa using passes⟩

theorem insertCodes_source (user : Nat) {digests : List String} {codes : Table MfaRecoveryCode}
    {key : Nat} {row : MfaRecoveryCode}
    (found : (insertCodes user digests codes).get? key = some row) :
    codes.get? key = some row ∨ row.userId = user ∧ row.codeHash ∈ digests := by
  induction digests generalizing codes with
  | nil => exact .inl found
  | cons digest rest ih =>
    rcases ih found with stored | ⟨owner, member⟩
    · rw [Table.get?_insert] at stored
      split at stored
      · cases stored
        exact .inr ⟨rfl, List.mem_cons_self ..⟩
      · exact .inl stored
    · exact .inr ⟨owner, List.mem_cons_of_mem _ member⟩

theorem storedDigests_insertCodes (user : Nat) (digests : List String)
    (codes : Table MfaRecoveryCode) :
    storedDigests (insertCodes user digests codes) = storedDigests codes ++ digests := by
  induction digests generalizing codes with
  | nil => simp [insertCodes]
  | cons digest rest ih =>
    have one : storedDigests (codes.insert ⟨user, digest, none⟩) =
        storedDigests codes ++ [digest] := by
      simp [storedDigests, Table.insert]
    rw [insertCodes, ih, one, List.append_assoc, List.singleton_append]

theorem issued_allows (codes : Table MfaRecoveryCode) (user : Nat) (digests : List String) :
    TokenEvent.Allows (heldCode codes) (heldCode (insertCodes user digests codes))
      (.issued user digests) := by
  rintro other digest ⟨key, found⟩
  rcases insertCodes_source user found with stored | ⟨owner, member⟩
  · exact .inl ⟨key, stored⟩
  · exact .inr ⟨owner, member⟩

/-- The pool events of an accepted factor. -/
def factorEvents (user : Nat) : Option Factor → List (TokenEvent Nat String)
  | some (.recovery digest) => [.consumed user digest]
  | _ => []

/-- The pool event of handing out new codes. -/
def issueEvents (user : Nat) (digests : List String) : List (TokenEvent Nat String) :=
  if digests = [] then [] else [.issued user digests]

@[simp] theorem issueEvents_nil (user : Nat) : issueEvents user [] = [] := rfl

/-- The pool events of a reply, in the order they are committed. -/
def codeEvents (reply : MfaReply) : List (TokenEvent Nat String) :=
  factorEvents reply.user reply.accepted ++
    (if reply.withdrawn then [.withdrawn reply.user] else []) ++
    issueEvents reply.user reply.issued

theorem poolRun_issue (codes : Table MfaRecoveryCode) (user : Nat) (digests : List String) :
    PoolRun (heldCode codes) (issueEvents user digests)
      (heldCode (insertCodes user digests codes)) := by
  unfold issueEvents
  split
  · rename_i none
    rw [none]
    exact .refl _
  · exact .single (issued_allows codes user digests)

/-- What a call does to the codes: a run of the pool, which keeps the digests
of the table unique. -/
structure CodesStep (before after : Table MfaRecoveryCode)
    (events : List (TokenEvent Nat String)) : Prop where
  run : PoolRun (heldCode before) events (heldCode after)
  unique : (storedDigests after).Nodup

namespace CodesStep

variable {before middle after : Table MfaRecoveryCode} {first second : List (TokenEvent Nat String)}

theorem refl (unique : (storedDigests before).Nodup) : CodesStep before before [] :=
  ⟨.refl _, unique⟩

theorem trans (one : CodesStep before middle first) (two : CodesStep middle after second) :
    CodesStep before after (first ++ second) :=
  ⟨one.run.append two.run, two.unique⟩

theorem withdraw (unique : (storedDigests before).Nodup) (user : Nat) :
    CodesStep before (before.deleteWhere fun _ row => row.userId == user) [.withdrawn user] where
  run := .single (withdrawn_allows before user)
  unique := (List.filter_sublist.map _).nodup unique

end CodesStep

theorem verifyUserFactor_codes {state : MfaState}
    (unique : (storedDigests state.recoveryCodes).Nodup) (now : Instant) (user : Nat)
    (value : String) (recovery : Bool) :
    CodesStep state.recoveryCodes
      (verifyUserFactor env state now user value recovery).1.recoveryCodes
      (factorEvents user
        (acceptedFactor (verifyUserFactor env state now user value recovery).2)) := by
  unfold verifyUserFactor
  cases recovery with
  | false =>
    simp only [Bool.false_eq_true, if_false]
    split
    · exact .refl unique
    · split <;> exact .refl unique
  | true =>
    simp only [if_true, consumeRecoveryCode]
    split
    · exact .refl unique
    · rename_i key row selected
      obtain ⟨stored, passes⟩ := Table.get?_of_first? selected
      simp only [Bool.and_eq_true, beq_iff_eq] at passes
      obtain ⟨⟨owner, digest⟩, unused⟩ := passes
      have isRow : row = ⟨user, recoveryHash env value, none⟩ := by
        rw [← owner, ← digest, ← unused]
      rw [isRow] at stored
      refine ⟨.single ⟨⟨key, stored⟩, ?_⟩, ?_⟩
      · rintro other kept ⟨place, found⟩
        dsimp only at found
        rw [Table.get?_modify] at found
        by_cases same : place = key
        · subst same
          simp [stored] at found
        · rw [if_neg same] at found
          refine ⟨⟨place, found⟩, fun both => same ?_⟩
          exact (get?_inj_of_digest unique found stored both.2).1
      · have sameDigests : storedDigests (state.recoveryCodes.modify key fun row =>
            { row with usedAt := some now }) = storedDigests state.recoveryCodes := by
          simp only [storedDigests, Table.modify, List.map_map]
          refine List.map_congr_left fun row _ => ?_
          simp only [Function.comp]
          split <;> rfl
        dsimp only
        rw [sameDigests]
        exact unique

theorem generateRecoveryCodes_codes {codes after : Table MfaRecoveryCode} {digests : List String}
    (unique : (storedDigests codes).Nodup) {user : Nat} {tokens : List String}
    (generated : generateRecoveryCodes env codes user tokens = .ok (after, digests)) :
    CodesStep codes after (.withdrawn user :: issueEvents user digests) := by
  unfold generateRecoveryCodes at generated
  simp only at generated
  split at generated
  · rename_i distinct
    cases generated
    have withdrawn := CodesStep.withdraw unique user
    have stored : (storedDigests (insertCodes user
        (tokens.map fun token => recoveryHash env (formatCode env token))
        (codes.deleteWhere fun _ row => row.userId == user))).Nodup := by
      rw [storedDigests_insertCodes, List.nodup_append]
      refine ⟨withdrawn.unique, distinct.1, ?_⟩
      intro digest old other new same
      obtain ⟨row, member, rfl⟩ := List.mem_map.mp old
      exact distinct.2 row member (same ▸ new)
    exact withdrawn.trans ⟨poolRun_issue _ user _, stored⟩
  · cases generated

theorem confirmEnrollment_codes {state : MfaState}
    (unique : (storedDigests state.recoveryCodes).Nodup) (now : Instant) (user : Nat)
    (code : String) (deviceId : Option Nat) (tokens : List String) :
    CodesStep state.recoveryCodes
      (confirmEnrollment env state now user code deviceId tokens).1.recoveryCodes
      (match (confirmEnrollment env state now user code deviceId tokens).2 with
        | .ok answer => factorEvents user (some answer.1) ++ [.withdrawn user] ++
            issueEvents user answer.2
        | .error _ => []) := by
  unfold confirmEnrollment
  split
  · exact .refl unique
  · split
    · exact .refl unique
    · split
      · exact .refl unique
      · split
        · exact .refl unique
        · exact .refl unique
        · split
          · exact .refl unique
          · rename_i generated
            exact generateRecoveryCodes_codes env unique generated

theorem beginEnrollment_codes (state : MfaState) (now : Instant) (user : Nat) (label : String)
    (restart : Bool) (secret : String) :
    (beginEnrollment env state now user label restart secret).1.recoveryCodes =
      state.recoveryCodes := by
  unfold beginEnrollment
  simp only
  split
  · split
    · split
      · split <;> rfl
      · split <;> rfl
    · split <;> rfl
  · split <;> rfl

/-- What a request does to the recovery codes is a run of the pool. -/
theorem codesStep {state : MfaState} (unique : (storedDigests state.recoveryCodes).Nodup)
    (request : MfaRequest) :
    CodesStep state.recoveryCodes (mfaStep env state request).recoveryCodes
      (codeEvents (mfaReply env state request)) := by
  unfold mfaStep mfaReply
  cases request.call with
  | challenge user token => exact .refl unique
  | cancel user => exact .refl unique
  | status user =>
    simp only [MfaReply.quiet, mfaStatus]
    split
    · split <;> exact .refl unique
    · exact .refl unique
  | reset user =>
    simp only [resetMfa]
    split
    · exact .refl unique
    · exact .withdraw unique user
  | enroll user password label restart secret =>
    simp only [enrollMfa]
    split
    · exact .refl unique
    · split
      · exact .refl unique
      · split
        · exact .refl unique
        · exact .refl unique
        · split
          · exact .refl unique
          · have same := beginEnrollment_codes env state request.now user label restart secret
            split
            · rename_i answer
              rw [answer] at same
              dsimp only [MfaReply.raised] at same ⊢
              rw [same]
              exact .refl unique
            · rename_i answer
              rw [answer] at same
              dsimp only [MfaReply.quiet] at same ⊢
              rw [same]
              exact .refl unique
  | confirm user code deviceId tokens =>
    simp only [confirmMfa]
    split
    · exact .refl unique
    · split
      · exact .refl unique
      · split
        · exact .refl unique
        · have step := confirmEnrollment_codes env unique request.now user code deviceId
            tokens
          split
          · rename_i same
            rw [same] at step
            exact step
          · rename_i same
            rw [same] at step
            exact step
  | verifyLogin token code recovery =>
    simp only [verifyMfaLogin]
    split
    · exact .refl unique
    · rename_i challenge row _
      split
      · exact .refl unique
      · split
        · exact .refl unique
        · have step := verifyUserFactor_codes env unique request.now row.userId code recovery
          split
          · rename_i same
            rw [same] at step
            exact step
          · rename_i same
            rw [same] at step
            exact step
          · rename_i factor same
            rw [same] at step
            simpa [codeEvents, acceptedFactor] using step
  | disable user confirmDisable password code recovery =>
    simp only [disableMfa]
    split
    · exact .refl unique
    · split
      · exact .refl unique
      · split
        · exact .refl unique
        · split
          · exact .refl unique
          · exact .refl unique
          · have step := verifyUserFactor_codes env unique request.now user code recovery
            split
            · rename_i same
              rw [same] at step
              exact step
            · rename_i same
              rw [same] at step
              exact step
            · rename_i factor same
              rw [same] at step
              simpa [codeEvents, acceptedFactor] using step.trans (.withdraw step.unique user)
  | regenerate user password code recovery tokens =>
    simp only [regenerateRecovery]
    split
    · exact .refl unique
    · split
      · exact .refl unique
      · split
        · exact .refl unique
        · exact .refl unique
        · have step := verifyUserFactor_codes env unique request.now user code recovery
          split
          · rename_i same
            rw [same] at step
            exact step
          · rename_i same
            rw [same] at step
            exact step
          · rename_i factor same
            rw [same] at step
            split
            · simpa [codeEvents, acceptedFactor, MfaReply.raised] using step
            · rename_i generated
              simpa [codeEvents, acceptedFactor] using
                step.trans (generateRecoveryCodes_codes env step.unique generated)

/-! ## Runs -/

/-- The time step a reply accepts, with its device. -/
def totpEvents (reply : MfaReply) : List (Nat × Int) :=
  match reply.accepted with
  | some (.totp device counter) => [(device, counter)]
  | _ => []

/-- The time steps a run accepts, oldest first. -/
def totpLog (start : MfaState) (requests : List MfaRequest) : List (Nat × Int) :=
  (trace (mfaStep env) start requests).flatMap fun move =>
    totpEvents (mfaReply env move.before move.input)

/-- The pool events of a run, oldest first. -/
def codeLog (start : MfaState) (requests : List MfaRequest) : List (TokenEvent Nat String) :=
  (trace (mfaStep env) start requests).flatMap fun move =>
    codeEvents (mfaReply env move.before move.input)

/-- After every run the device marks cover what was accepted, and only devices
that were enrolled accepted anything. -/
theorem watermarked_run (start : MfaState) (requests : List MfaRequest) :
    Watermarked (totpLog env start requests)
        (deviceMark (final (mfaStep env) start requests).devices) ∧
      ∀ entry ∈ totpLog env start requests,
        entry.1 < (final (mfaStep env) start requests).devices.nextKey := by
  refine run_induction (mfaStep env)
    (motive := fun past state =>
      Watermarked (past.flatMap fun move =>
          totpEvents (mfaReply env move.before move.input))
        (deviceMark state.devices) ∧
      ∀ entry ∈ past.flatMap fun move =>
          totpEvents (mfaReply env move.before move.input),
        entry.1 < state.devices.nextKey)
    ⟨.initial _, fun _ member => absurd member (List.not_mem_nil)⟩ ?_ requests
  rintro past state request ⟨marked, enrolled⟩
  have step := devicesStep env state request
  rw [List.flatMap_append, List.flatMap_singleton]
  have unused : ∀ device, state.devices.nextKey ≤ device →
      acceptedUnder device (past.flatMap fun move =>
        totpEvents (mfaReply env move.before move.input)) = [] := by
    intro device fresh
    refine List.map_eq_nil_iff.mpr (List.filter_eq_nil_iff.mpr fun entry member => ?_)
    have bound := enrolled entry member
    simp only [decide_eq_true_eq]
    omega
  have quiet : MarksKept state.devices (mfaStep env state request).devices →
      totpEvents (mfaReply env state request) = [] →
      Watermarked (past.flatMap (fun move =>
          totpEvents (mfaReply env move.before move.input)) ++
            totpEvents (mfaReply env state request))
        (deviceMark (mfaStep env state request).devices) ∧
      ∀ entry ∈ past.flatMap (fun move =>
          totpEvents (mfaReply env move.before move.input)) ++
            totpEvents (mfaReply env state request),
        entry.1 < (mfaStep env state request).devices.nextKey := by
    intro kept none
    rw [none, List.append_nil]
    refine ⟨marked.keep fun device last found => ?_, fun entry member =>
      Nat.lt_of_lt_of_le (enrolled entry member) kept.nextKey_le⟩
    by_cases old : device < state.devices.nextKey
    · exact .inl (kept.kept device old last found)
    · exact .inr (unused device (Nat.le_of_not_lt old))
  cases accepted : (mfaReply env state request).accepted with
  | none =>
    rw [accepted] at step
    exact quiet step (by rw [totpEvents, accepted])
  | some factor =>
    rw [accepted] at step
    cases factor with
    | recovery digest => exact quiet step (by rw [totpEvents, accepted])
    | totp device counter =>
      have raised : MarkRaised state.devices (mfaStep env state request).devices
        request.now device counter := step
      obtain ⟨last, found, above⟩ := raised.above
      have event : totpEvents (mfaReply env state request) = [(device, counter)] := by
        rw [totpEvents, accepted]
      rw [event]
      refine ⟨marked.accept found above raised.moved ?_, ?_⟩
      · intro other different kept read
        by_cases old : other < state.devices.nextKey
        · exact .inl (raised.others other old different kept read)
        · exact .inr (unused other (Nat.le_of_not_lt old))
      · intro entry member
        rcases List.mem_append.mp member with earlier | now
        · exact Nat.lt_of_lt_of_le (enrolled entry earlier) raised.nextKey_le
        · rw [List.mem_singleton.mp now]
          exact Nat.lt_of_lt_of_le raised.exists_device raised.nextKey_le

theorem codeLog_append (start : MfaState) (first second : List MfaRequest) :
    codeLog env start (first ++ second) = codeLog env start first ++
      codeLog env (final (mfaStep env) start first) second := by
  rw [codeLog, trace_append, List.flatMap_append]
  rfl

/-- The codes after a run, by what its requests issued, accepted and withdrew. -/
theorem codes_run {start : MfaState} (unique : (storedDigests start.recoveryCodes).Nodup)
    (requests : List MfaRequest) :
    CodesStep start.recoveryCodes (final (mfaStep env) start requests).recoveryCodes
      (codeLog env start requests) := by
  induction requests generalizing start with
  | nil => exact .refl unique
  | cons request rest ih =>
    have step := codesStep env unique request
    exact step.trans (ih step.unique)

/-- A recovery code of a user that exists before a moment: stored at the start,
or issued since. -/
def GeneratedFor (start : MfaState) (requests : List MfaRequest) (user : Nat)
    (digest : String) : Prop :=
  (∃ key row, start.recoveryCodes.get? key = some row ∧ row.userId = user ∧
      row.codeHash = digest) ∨
    ∃ digests, TokenEvent.issued user digests ∈ codeLog env start requests ∧
      digest ∈ digests

/-- What single use means for a run: the counters a device accepts increase and
are within one step of the clock, a recovery code is accepted once, and no
code generated before a call that withdraws the user's codes is accepted after
that call. -/
structure SingleUse (env : MfaPlatform) (start : MfaState) (requests : List MfaRequest) :
    Prop where
  countersIncrease : ∀ device,
    (acceptedUnder device (totpLog env start requests)).Pairwise (· < ·)
  countersCurrent : ∀ move ∈ trace (mfaStep env) start requests,
    ∀ device counter, (mfaReply env move.before move.input).accepted =
      some (.totp device counter) → (counter - totpCounter move.input.now).natAbs ≤ 1
  codesOnce : (consumedTokens (codeLog env start requests)).Nodup
  codesWithdrawn : ∀ first request second, requests = first ++ request :: second →
    (mfaReply env (final (mfaStep env) start first) request).withdrawn = true →
    ∀ digest, GeneratedFor env start first
        (mfaReply env (final (mfaStep env) start first) request).user digest →
      digest ∉ consumedTokens
        (codeLog env (mfaStep env (final (mfaStep env) start first) request) second)

/-- **Second factors are single use, in every run in which no two recovery codes
share a digest.** -/
theorem secondFactors_singleUse (env : MfaPlatform) (start : MfaState) (requests : List MfaRequest)
    (distinct : (storedDigests start.recoveryCodes ++
      issuedTokens (codeLog env start requests)).Nodup) :
    SingleUse env start requests := by
  obtain ⟨unique, issuedOnce, apart⟩ := List.nodup_append.mp distinct
  have run := (codes_run env unique requests).run
  have fresh : FreshTokens (heldCode start.recoveryCodes) (codeLog env start requests) := by
    refine ⟨?_, issuedOnce, ?_⟩
    · rintro one two digest ⟨key, here⟩ ⟨other, there⟩
      exact congrArg MfaRecoveryCode.userId (get?_inj_of_digest unique here there rfl).2
    · rintro user digest ⟨key, found⟩ issued
      exact apart digest (mem_storedDigests found) digest issued rfl
  refine ⟨(watermarked_run env start requests).1.increasing, ?_, run.consumed_nodup fresh, ?_⟩
  · intro move member device counter accepted
    have step := devicesStep env move.before move.input
    rw [accepted] at step
    exact MarkRaised.near step
  · intro first request second split withdrawn digest generated
    subst split
    have later : ∀ item, item ∈ consumedTokens (codeLog env
          (mfaStep env (final (mfaStep env) start first) request) second) →
        item ∈ consumedTokens (codeLog env start (first ++ request :: second)) := by
      intro item consumed
      rw [codeLog_append, consumedTokens_append]
      refine List.mem_append_right _ ?_
      simp only [codeLog, trace, List.flatMap_cons, consumedTokens_append]
      exact List.mem_append_right _ consumed
    have ordered : codeLog env start (first ++ request :: second) =
        (codeLog env start first ++ factorEvents
          (mfaReply env (final (mfaStep env) start first) request).user
          (mfaReply env (final (mfaStep env) start first) request).accepted) ++
        .withdrawn (mfaReply env (final (mfaStep env) start first) request).user ::
          (issueEvents (mfaReply env (final (mfaStep env) start first) request).user
            (mfaReply env (final (mfaStep env) start first) request).issued ++
          codeLog env (mfaStep env (final (mfaStep env) start first) request)
            second) := by
      rw [codeLog_append]
      simp only [codeLog, trace, List.flatMap_cons, codeEvents, withdrawn, if_true,
        List.append_assoc, List.cons_append, List.nil_append]
    have source : heldCode start.recoveryCodes
          (mfaReply env (final (mfaStep env) start first) request).user digest ∨
        (∃ digests, TokenEvent.issued
            (mfaReply env (final (mfaStep env) start first) request).user digests ∈
              codeLog env start first ∧ digest ∈ digests) → digest ∉ consumedTokens
        (codeLog env (mfaStep env (final (mfaStep env) start first) request)
          second) := by
      intro origin consumed
      rw [ordered] at run fresh
      refine run.not_consumed_after_withdrawal fresh ?_ (by
        rw [consumedTokens_append]
        exact List.mem_append_right _ consumed)
      rcases origin with held | ⟨digests, issued, member⟩
      · exact .inl held
      · exact .inr ⟨digests, List.mem_append_left _ issued, member⟩
    rcases generated with ⟨key, row, found, owner, rfl⟩ | issued
    · cases used : row.usedAt with
      | none =>
        refine source (.inl ⟨key, ?_⟩)
        rw [← owner, ← used]
        exact found
      | some time =>
        intro consumed
        rcases run.consumed_source (later _ consumed) with ⟨user, other, held⟩ | issued
        · have same := (get?_inj_of_digest unique found held rfl).2
          rw [same] at used
          cases used
        · exact apart _ (mem_storedDigests found) _ issued rfl
    · exact source (.inr issued)

/-! A device is enrolled, logs in once by code and once by recovery code, and
draws a new recovery code. -/

/-- Secrets stored as they are, and a code that names its counter. -/
def plainMfa : MfaPlatform where
  nfkc := id
  foldTable := fun c => [c]
  hashValue := id
  hasherVerify := fun stored password =>
    if stored = password then .ok true else .error .verifyMismatch
  generateOtp := fun _ counter =>
    if counter = 0 then "000000" else if counter = 1 then "111111" else "222222"
  decryptSecret := some
  encryptSecret := some
  isDigit := Char.isDigit
  upper := id

def activeAccount : UserAccount where
  username := "alice"
  usernameNormalized := "alice"
  displayName := "Alice"
  emailNormalized := none
  passwordHash := "right"
  status := .active
  isSystemAdmin := false
  failedLoginCount := 0
  lockedUntil := none
  mustChangePassword := false
  mfaEnabled := false
  lastLoginAt := none
  lastLoginIpHash := none
  disabledAt := none

def mfaStart : MfaState where
  users := Table.empty.insert activeAccount
  devices := .empty
  recoveryCodes := .empty
  challenges := .empty

def mfaRequests : List MfaRequest :=
  [⟨0, .enroll 1 "right" "phone" false "secret"⟩,
    ⟨0, .confirm 1 "000000" none ["aaaabbbbcccc"]⟩,
    ⟨30000000, .challenge 1 "first"⟩,
    ⟨30000000, .verifyLogin "first" "111111" false⟩,
    ⟨30000000, .challenge 1 "second"⟩,
    ⟨30000000, .verifyLogin "second" "aaaa-bbbb-cccc" true⟩,
    ⟨60000000, .regenerate 1 "right" "222222" false ["ddddeeeeffff"]⟩]

example : totpLog plainMfa mfaStart mfaRequests = [(1, 0), (1, 1), (1, 2)] := by decide

theorem secondFactors_singleUse_enrollment : SingleUse plainMfa mfaStart mfaRequests :=
  secondFactors_singleUse plainMfa mfaStart mfaRequests (by decide)

end ThreatScope.AccessControl
