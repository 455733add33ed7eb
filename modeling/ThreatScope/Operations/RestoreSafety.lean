import ThreatScope.Library.Faults

/-!
# The offline restore

`main` of `scripts/restore_backup.py`. The script makes a candidate of the backup next to the
live database, checks it, backs the live database up, moves the live database aside and the
candidate in, checks the result, and revokes the sessions that the restored database has. Each
of these steps may raise, and so may the steps of the handlers. A rename either happens or
changes nothing.
-/

set_option autoImplicit false

namespace ThreatScope.Operations

open Library

/-! ## Files -/

/-- A database: its contents, and the sessions in it that are not revoked. Rows that the
script adds about itself (the safety backup, its job, the audit event) are left out. -/
structure Database (δ : Type) where
  contents : δ
  openSessions : List Nat

/-- A file with a database in it. -/
inductive DatabaseFile (δ : Type) where
  | complete (db : Database δ)
  | torn

/-- The three files of the script. -/
structure Disk (δ : Type) where
  /-- `database_path()`. -/
  live : Option (DatabaseFile δ)
  /-- The suffix `.pre-replace`. -/
  previous : Option (DatabaseFile δ)
  /-- The suffix `.restore-candidate`. -/
  candidate : Option (DatabaseFile δ)

/-- How the script ends. -/
inductive Ending where
  /-- It returns an exit code. -/
  | code (status : Nat)
  /-- An exception leaves `main`. -/
  | raised

/-! ## Steps -/

/-- The steps that may raise. -/
inductive RestoreStep where
  | materialize
  | count
  /-- `temp.unlink` after the candidate could not be made or counted. -/
  | unlinkInvalid
  | unlinkValidated
  | confirm
  | unlinkRefused
  | safetyBackup
  | unlinkPreserved
  | moveAside
  | moveIn
  | check
  /-- `source.unlink` in the handler. -/
  | unlinkLive
  | moveBack
  | unlinkCandidate
  | revoke
  | record
  | audit
deriving DecidableEq

/-- What the script is called with and what it finds. -/
structure RestoreCall (δ : Type) where
  /-- `find_backup` finds the record. -/
  found : Bool
  validateOnly : Bool
  confirmed : Bool
  /-- The database in the backup. -/
  restored : Database δ
  /-- What a materialization that raises leaves under the name of the candidate. -/
  torn : Option (DatabaseFile δ)
  fails : RestoreStep → Bool

section Script

variable {δ : Type} (call : RestoreCall δ)

/-- `temp.unlink(missing_ok=True)`. -/
def unlinkCandidate (step : RestoreStep) : Script Ending (Disk δ) Unit := fun disk =>
  Script.attempt (disk.candidate.isSome && call.fails step) .raised
    (fun disk => { disk with candidate := none }) disk

/-- The candidate is removed, and the script returns. -/
def discard (step : RestoreStep) (status : Nat) : Script Ending (Disk δ) Unit := do
  unlinkCandidate call step
  throw (.code status)

/-- `materialize_plain(backup, temp)` and `_safe_counts(temp)`. -/
def makeCandidate : Script Ending (Disk δ) Unit := do
  Script.attemptTorn (call.fails .materialize) .raised
    (fun disk => { disk with candidate := call.torn })
    fun disk => { disk with candidate := some (.complete call.restored) }
  Script.attempt (call.fails .count) .raised id

/-- The script up to the replacement. -/
def prepare : Script Ending (Disk δ) Unit := do
  Script.onlyWhen (fun _ => !call.found) (throw (.code 2))
  Script.onlyWhen (fun disk => disk.candidate.isSome) (throw (.code 3))
  Script.onError (makeCandidate call) (discard call .unlinkInvalid 4)
  Script.onlyWhen (fun _ => call.validateOnly) (discard call .unlinkValidated 0)
  Script.attempt (call.fails .confirm) .raised id
  Script.onlyWhen (fun _ => !call.confirmed) (discard call .unlinkRefused 5)
  Script.attempt (call.fails .safetyBackup) .raised id
  Script.onlyWhen (fun disk => disk.previous.isSome) (discard call .unlinkPreserved 6)

/-- The replacement: two renames and a check. -/
def moveFiles : Script Ending (Disk δ) Unit := do
  Script.attempt (call.fails .moveAside) .raised
    fun disk => { disk with live := none, previous := disk.live }
  Script.attempt (call.fails .moveIn) .raised
    fun disk => { disk with live := disk.candidate, candidate := none }
  Script.attempt (call.fails .check) .raised id

/-- The handler of the replacement. It does not know which step has failed. -/
def undoMoves : Script Ending (Disk δ) Unit := do
  Script.onlyWhen (fun disk => disk.live.isSome)
    (Script.attempt (call.fails .unlinkLive) .raised fun disk => { disk with live := none })
  Script.onlyWhen (fun disk => disk.previous.isSome)
    (Script.attempt (call.fails .moveBack) .raised
      fun disk => { disk with live := disk.previous, previous := none })
  discard call .unlinkCandidate 7

/-- The database with its sessions revoked. -/
def DatabaseFile.revoked : DatabaseFile δ → DatabaseFile δ
  | .complete db => .complete { db with openSessions := [] }
  | .torn => .torn

/-- `revoke_all_sessions_after_restore` and what is recorded of the restore. -/
def conclude : Script Ending (Disk δ) Unit := do
  Script.attempt (call.fails .revoke) .raised
    fun disk => { disk with live := disk.live.map DatabaseFile.revoked }
  Script.attempt (call.fails .record) .raised id
  Script.attempt (call.fails .audit) .raised id

/-- `main`. -/
def restoreMain : Script Ending (Disk δ) Unit := do
  prepare call
  Script.onError (moveFiles call) (undoMoves call)
  conclude call

/-- How `main` ends on a disk, and the disk that it leaves. -/
def RestoreCall.run (disk : Disk δ) : Ending × Disk δ :=
  match restoreMain call disk with
  | .ok _ after => (.code 0, after)
  | .error ending after => (ending, after)

end Script

/-!
## What the offline restore loses

The handler of the replacement does not know which step has failed. When the first rename
fails, it removes the live database, of which there is no other copy under the names of the
script. And two steps before the replacement raise through `main` and leave the candidate. At
every point of failure the script is safe exactly when these steps do not fail and the cleanup
that it comes to does (`restore_safe_iff`).
-/

variable {δ : Type}

/-! ## What the script owes -/

/-- What the script owes for the database that was live when it started. -/
structure RestoreSafe (call : RestoreCall δ) (original : Database δ) (start after : Disk δ)
    (ending : Ending) : Prop where
  /-- The live name holds the original database or the restored one. -/
  live : after.live = some (.complete original) ∨
    ∃ sessions, after.live = some (.complete { call.restored with openSessions := sessions })
  /-- The original database is under the live name or the name that it was moved to. -/
  kept : after.live = some (.complete original) ∨ after.previous = some (.complete original)
  /-- A failure leaves no candidate that was not there before. -/
  clean : ending ≠ .code 0 → after.candidate.isSome = true → start.candidate.isSome = true
  /-- A success, other than of a validation, leaves a database with no open session. -/
  revoked : ending = .code 0 → call.validateOnly = false →
    ∀ db, after.live = some (.complete db) → db.openSessions = []

/-! ## The condition -/

/-- In the replacement, the first rename does not fail, and what the handler has to undo is
undone. -/
def ReplaceHarmless (call : RestoreCall δ) : Prop :=
  call.fails .moveAside = false ∧
  if call.fails .moveIn then call.fails .moveBack = false ∧ call.fails .unlinkCandidate = false
  else call.fails .check = true → call.fails .unlinkLive = true ∨ call.fails .moveBack = false

/-- The steps whose failure the script does not undo do not fail. A step counts only when the
script comes to it. -/
def Harmless (call : RestoreCall δ) (start : Disk δ) : Prop :=
  call.found = true → start.candidate = none →
    if call.fails .materialize then call.torn.isSome = true → call.fails .unlinkInvalid = false
    else if call.fails .count then call.fails .unlinkInvalid = false
    else if call.validateOnly then call.fails .unlinkValidated = false
    else
      call.fails .confirm = false ∧
      if !call.confirmed then call.fails .unlinkRefused = false
      else
        call.fails .safetyBackup = false ∧
        if start.previous.isSome then call.fails .unlinkPreserved = false
        else ReplaceHarmless call

/-! ## Endings -/

section Endings

variable {call : RestoreCall δ} {original : Database δ} {start after : Disk δ} {ending : Ending}

theorem restoreSafe_iff_of_live (began : start.live = some (.complete original))
    (same : after.live = start.live) (validated : ending = .code 0 → call.validateOnly = true) :
    RestoreSafe call original start after ending ↔
      (ending ≠ .code 0 → after.candidate.isSome = true → start.candidate.isSome = true) := by
  constructor
  · exact fun safe => safe.clean
  · exact fun clean => ⟨.inl (same.trans began), .inl (same.trans began), clean,
      fun success moved => absurd (validated success) (by rw [moved]; exact Bool.false_ne_true)⟩

theorem not_restoreSafe_of_none (lost : after.live = none) :
    ¬RestoreSafe call original start after ending := by
  intro safe
  rcases safe.live with here | ⟨_, here⟩
  · exact absurd (lost.symm.trans here) nofun
  · exact absurd (lost.symm.trans here) nofun

end Endings

/-! ## The script -/

section Script

variable {call : RestoreCall δ} {original : Database δ} {start : Disk δ}

/-- Whether a run that has ended before the replacement leaves a candidate. -/
def LeavesNone (start : Disk δ) (ending : Ending) (after : Disk δ) : Prop :=
  ending ≠ .code 0 → after.candidate.isSome = true → start.candidate.isSome = true

/-- A run ends before the replacement, with the live database in its place. -/
structure EndsEarly (call : RestoreCall δ) (start : Disk δ) : Prop where
  exists_end : ∃ ending after, prepare call start = .error ending after ∧
    after.live = start.live ∧ (ending = .code 0 → call.validateOnly = true) ∧
    (LeavesNone start ending after ↔ Harmless call start)

/-! What a discard of the candidate comes to. -/

/-- How the script ends that discards the candidate. -/
def discardEnd (call : RestoreCall δ) (step : RestoreStep) (status : Nat) (disk : Disk δ) :
    Ending :=
  if disk.candidate.isSome && call.fails step then .raised else .code status

/-- The disk that it leaves. -/
def discardDisk (call : RestoreCall δ) (step : RestoreStep) (disk : Disk δ) : Disk δ :=
  if disk.candidate.isSome && call.fails step then disk else { disk with candidate := none }

theorem discard_apply (step : RestoreStep) (status : Nat) (disk : Disk δ) :
    discard call step status disk =
      .error (discardEnd call step status disk) (discardDisk call step disk) := by
  cases left : disk.candidate.isSome && call.fails step with
  | true => simp [discard, unlinkCandidate, discardEnd, discardDisk, left]
  | false => simp [discard, unlinkCandidate, discardEnd, discardDisk, left]

theorem discardDisk_live (step : RestoreStep) (disk : Disk δ) :
    (discardDisk call step disk).live = disk.live := by
  unfold discardDisk
  split <;> rfl

theorem status_of_discardEnd {step : RestoreStep} {status code : Nat} {disk : Disk δ}
    (ended : discardEnd call step status disk = .code code) : status = code := by
  unfold discardEnd at ended
  split at ended
  · cases ended
  · exact Ending.code.inj ended

theorem leavesNone_discard (step : RestoreStep) {status : Nat} (disk : Disk δ)
    (free : start.candidate = none) :
    LeavesNone start (discardEnd call step status disk) (discardDisk call step disk) ↔
      (disk.candidate.isSome = true → call.fails step = false) := by
  cases here : disk.candidate.isSome with
  | false => simp [LeavesNone, discardDisk, here]
  | true =>
    cases fails : call.fails step with
    | true => simp [LeavesNone, discardEnd, discardDisk, here, fails, free]
    | false => simp [LeavesNone, discardDisk, fails]

theorem EndsEarly.of_discard (step : RestoreStep) (status : Nat) (disk : Disk δ)
    (ends : prepare call start =
      .error (discardEnd call step status disk) (discardDisk call step disk))
    (same : disk.live = start.live) (zero : status = 0 → call.validateOnly = true)
    (free : start.candidate = none)
    (harmless : Harmless call start ↔ (disk.candidate.isSome = true → call.fails step = false)) :
    EndsEarly call start :=
  ⟨_, _, ends, (discardDisk_live step disk).trans same,
    fun success => zero (status_of_discardEnd success),
    (leavesNone_discard step disk free).trans harmless.symm⟩

theorem EndsEarly.of_error (ending : Ending) (disk : Disk δ)
    (ends : prepare call start = .error ending disk) (same : disk.live = start.live)
    (failed : ending ≠ .code 0) (harmless : LeavesNone start ending disk ↔ Harmless call start) :
    EndsEarly call start :=
  ⟨ending, disk, ends, same, fun success => absurd success failed, harmless⟩

/-- The disk with the candidate made. -/
def Disk.made (call : RestoreCall δ) (start : Disk δ) : Disk δ :=
  { start with candidate := some (.complete call.restored) }

/-- **The script up to the replacement**: it ends early, or comes to the replacement with the
candidate. -/
theorem prepare_cases (call : RestoreCall δ) (start : Disk δ) :
    EndsEarly call start ∨
      (prepare call start = .ok () (start.made call) ∧ start.candidate = none ∧
        start.previous = none ∧ (Harmless call start ↔ ReplaceHarmless call)) := by
  cases found : call.found with
  | false =>
    refine .inl (.of_error (.code 2) start (by simp [prepare, found]) rfl nofun ?_)
    simp [LeavesNone, Harmless, found]
  | true =>
  cases free : start.candidate with
  | some file =>
    refine .inl (.of_error (.code 3) start (by simp [prepare, found, free]) rfl nofun ?_)
    simp [LeavesNone, Harmless, free]
  | none =>
  cases unmade : call.fails .materialize with
  | true =>
    refine .inl (.of_discard .unlinkInvalid 4 { start with candidate := call.torn }
      ?_ rfl nofun free ?_)
    · simp [prepare, makeCandidate, discard_apply, found, free, unmade]
    · simp [Harmless, found, free, unmade]
  | false =>
  cases uncounted : call.fails .count with
  | true =>
    refine .inl (.of_discard .unlinkInvalid 4 (start.made call) ?_ rfl nofun free ?_)
    · simp [prepare, makeCandidate, discard_apply, Disk.made, found, free, unmade, uncounted]
    · simp [Harmless, Disk.made, found, free, unmade, uncounted]
  | false =>
  cases only : call.validateOnly with
  | true =>
    refine .inl (.of_discard .unlinkValidated 0 (start.made call) ?_ rfl (fun _ => only) free ?_)
    · simp [prepare, makeCandidate, discard_apply, Disk.made, found, free, unmade, uncounted, only]
    · simp [Harmless, Disk.made, found, free, unmade, uncounted, only]
  | false =>
  cases unasked : call.fails .confirm with
  | true =>
    refine .inl (.of_error .raised (start.made call) ?_ rfl nofun ?_)
    · simp [prepare, makeCandidate, Disk.made, found, free, unmade, uncounted, only, unasked]
    · simp [LeavesNone, Harmless, Disk.made, found, free, unmade, uncounted, only, unasked]
  | false =>
  cases agreed : call.confirmed with
  | false =>
    refine .inl (.of_discard .unlinkRefused 5 (start.made call) ?_ rfl nofun free ?_)
    · simp [prepare, makeCandidate, discard_apply, Disk.made, found, free, unmade, uncounted, only,
        unasked, agreed]
    · simp [Harmless, Disk.made, found, free, unmade, uncounted, only, unasked, agreed]
  | true =>
  cases unsaved : call.fails .safetyBackup with
  | true =>
    refine .inl (.of_error .raised (start.made call) ?_ rfl nofun ?_)
    · simp [prepare, makeCandidate, Disk.made, found, free, unmade, uncounted, only, unasked,
        agreed, unsaved]
    · simp [LeavesNone, Harmless, Disk.made, found, free, unmade, uncounted, only, unasked, agreed,
        unsaved]
  | false =>
  cases kept : start.previous with
  | some file =>
    refine .inl (.of_discard .unlinkPreserved 6 (start.made call) ?_ rfl nofun free ?_)
    · simp [prepare, makeCandidate, discard_apply, Disk.made, found, free, unmade, uncounted, only,
        unasked, agreed, unsaved, kept]
    · simp [Harmless, Disk.made, found, free, unmade, uncounted, only, unasked, agreed, unsaved,
        kept]
  | none =>
    refine .inr ⟨?_, rfl, rfl, ?_⟩
    · simp [prepare, makeCandidate, Disk.made, found, free, unmade, uncounted, only, unasked,
        agreed, unsaved, kept]
    · simp [Harmless, found, free, unmade, uncounted, only, unasked, agreed, unsaved, kept]

theorem run_of_error {ending : Ending} {disk : Disk δ}
    (ends : prepare call start = .error ending disk) : call.run start = (ending, disk) := by
  simp [RestoreCall.run, restoreMain, ends]

/-! The replacement. -/

/-- What is there when the first rename has failed: the live database is removed, if that does
not fail. -/
theorem replace_of_unmoved (began : start.live = some (.complete original))
    (preserved : start.previous = none) (ready : prepare call start = .ok () (start.made call))
    (unmoved : call.fails .moveAside = true) :
    (call.run start).2.live = none ∨
      (call.run start).1 = .raised ∧ (call.run start).2.candidate.isSome = true := by
  cases unlinked : call.fails .unlinkLive with
  | true =>
    right
    simp [RestoreCall.run, restoreMain, moveFiles, undoMoves, Disk.made, ready, unmoved, began,
      unlinked]
  | false =>
    left
    simp [RestoreCall.run, restoreMain, moveFiles, undoMoves, Disk.made, ready, unmoved, began,
      preserved, unlinked, discard_apply, discardDisk_live]

theorem replace_of_unplaced (began : start.live = some (.complete original))
    (ready : prepare call start = .ok () (start.made call))
    (moved : call.fails .moveAside = false) (unplaced : call.fails .moveIn = true) :
    call.run start =
      if call.fails .moveBack then
        (.raised, { (start.made call) with live := none, previous := start.live })
      else
        (discardEnd call .unlinkCandidate 7 { (start.made call) with previous := none },
          discardDisk call .unlinkCandidate { (start.made call) with previous := none }) := by
  cases back : call.fails .moveBack with
  | true =>
    simp [RestoreCall.run, restoreMain, moveFiles, undoMoves, Disk.made, ready, moved, unplaced,
      began, back]
  | false =>
    simp [RestoreCall.run, restoreMain, moveFiles, undoMoves, Disk.made, ready, moved, unplaced,
      began, back, discard_apply]

theorem replace_of_unchecked (began : start.live = some (.complete original))
    (ready : prepare call start = .ok () (start.made call))
    (moved : call.fails .moveAside = false) (placed : call.fails .moveIn = false)
    (unchecked : call.fails .check = true) :
    call.run start =
      if call.fails .unlinkLive then
        (.raised, ⟨some (.complete call.restored), start.live, none⟩)
      else if call.fails .moveBack then (.raised, ⟨none, start.live, none⟩)
      else (.code 7, ⟨start.live, none, none⟩) := by
  cases unlinked : call.fails .unlinkLive with
  | true =>
    simp [RestoreCall.run, restoreMain, moveFiles, undoMoves, Disk.made, ready, moved, placed,
      unchecked, began, unlinked]
  | false =>
  cases back : call.fails .moveBack with
  | true =>
    simp [RestoreCall.run, restoreMain, moveFiles, undoMoves, Disk.made, ready, moved, placed,
      unchecked, began, unlinked, back]
  | false =>
    simp [RestoreCall.run, restoreMain, moveFiles, undoMoves, Disk.made, ready, moved, placed,
      unchecked, began, unlinked, back, discard, unlinkCandidate]

theorem replace_of_checked (began : start.live = some (.complete original))
    (ready : prepare call start = .ok () (start.made call))
    (moved : call.fails .moveAside = false) (placed : call.fails .moveIn = false)
    (checked : call.fails .check = false) :
    call.run start =
      if call.fails .revoke then
        (.raised, ⟨some (.complete call.restored), start.live, none⟩)
      else
        (if call.fails .record || call.fails .audit then .raised else .code 0,
          ⟨some (.complete { call.restored with openSessions := [] }), start.live, none⟩) := by
  cases revoked : call.fails .revoke with
  | true =>
    simp [RestoreCall.run, restoreMain, moveFiles, conclude, Disk.made, ready, moved, placed,
      checked, began, revoked]
  | false =>
  cases recorded : call.fails .record with
  | true =>
    simp [RestoreCall.run, restoreMain, moveFiles, conclude, Disk.made, ready, moved, placed,
      checked, began, revoked, recorded, DatabaseFile.revoked]
  | false =>
  cases audited : call.fails .audit with
  | true =>
    simp [RestoreCall.run, restoreMain, moveFiles, conclude, Disk.made, ready, moved, placed,
      checked, began, revoked, recorded, audited, DatabaseFile.revoked]
  | false =>
    simp [RestoreCall.run, restoreMain, moveFiles, conclude, Disk.made, ready, moved, placed,
      checked, began, revoked, recorded, audited, DatabaseFile.revoked]

/-- **The replacement is safe exactly when its failures are undone.** -/
theorem replace_safe_iff (began : start.live = some (.complete original))
    (free : start.candidate = none) (preserved : start.previous = none)
    (ready : prepare call start = .ok () (start.made call)) :
    RestoreSafe call original start (call.run start).2 (call.run start).1 ↔
      ReplaceHarmless call := by
  cases moved : call.fails .moveAside with
  | true =>
    refine iff_of_false ?_ (by simp [ReplaceHarmless, moved])
    rcases replace_of_unmoved began preserved ready moved with lost | ⟨raised, left⟩
    · exact not_restoreSafe_of_none lost
    · intro safe
      have before := safe.clean (by rw [raised]; nofun) left
      rw [free] at before
      cases before
  | false =>
  cases placed : call.fails .moveIn with
  | true =>
    rw [replace_of_unplaced began ready moved placed]
    cases back : call.fails .moveBack with
    | true =>
      exact iff_of_false (not_restoreSafe_of_none rfl)
        (by simp [ReplaceHarmless, placed, back])
    | false =>
      have kept : (discardDisk call .unlinkCandidate
          { (start.made call) with previous := none }).live = start.live :=
        discardDisk_live .unlinkCandidate _
      refine (restoreSafe_iff_of_live began kept fun success => ?_).trans ?_
      · exact absurd (status_of_discardEnd success) (by decide)
      · refine (leavesNone_discard .unlinkCandidate _ free).trans ?_
        simp [ReplaceHarmless, Disk.made, moved, placed, back]
  | false =>
  cases checked : call.fails .check with
  | true =>
    rw [replace_of_unchecked began ready moved placed checked]
    cases unlinked : call.fails .unlinkLive with
    | true =>
      refine iff_of_true ⟨?_, ?_, ?_, ?_⟩ (by simp [ReplaceHarmless, moved, placed, unlinked])
      · exact .inr ⟨call.restored.openSessions, rfl⟩
      · exact .inr began
      · exact fun _ => nofun
      · nofun
    | false =>
    cases back : call.fails .moveBack with
    | true =>
      exact iff_of_false (not_restoreSafe_of_none rfl)
        (by simp [ReplaceHarmless, placed, checked, unlinked, back])
    | false =>
      refine iff_of_true ⟨?_, ?_, ?_, ?_⟩ (by simp [ReplaceHarmless, moved, placed, back])
      · exact .inl began
      · exact .inl began
      · exact fun _ => nofun
      · nofun
  | false =>
    rw [replace_of_checked began ready moved placed checked]
    have harmless : ReplaceHarmless call := by simp [ReplaceHarmless, moved, placed, checked]
    refine iff_of_true ?_ harmless
    cases revoked : call.fails .revoke with
    | true =>
      refine ⟨?_, ?_, ?_, ?_⟩
      · exact .inr ⟨call.restored.openSessions, rfl⟩
      · exact .inr began
      · exact fun _ => nofun
      · nofun
    | false =>
      refine ⟨?_, ?_, ?_, ?_⟩
      · exact .inr ⟨[], rfl⟩
      · exact .inr began
      · exact fun _ => nofun
      · intro _ _ db here
        cases here
        rfl

end Script

/-- **When the restore is safe**: at every combination of steps that fail, the script does what
it owes exactly when the steps that it does not undo do not fail. -/
theorem restore_safe_iff (call : RestoreCall δ) (original : Database δ) (start : Disk δ)
    (began : start.live = some (.complete original)) :
    RestoreSafe call original start (call.run start).2 (call.run start).1 ↔
      Harmless call start := by
  rcases prepare_cases call start with ⟨ending, after, ends, same, validated, clean⟩ |
    ⟨ready, free, preserved, harmless⟩
  · rw [run_of_error ends]
    exact (restoreSafe_iff_of_live began same validated).trans clean
  · exact (replace_safe_iff began free preserved ready).trans harmless.symm

/-! ## Runs -/

/-- A confirmed replacement, at the given steps that raise. -/
def replacing (fails : RestoreStep → Bool) : RestoreCall Nat where
  found := true
  validateOnly := false
  confirmed := true
  restored := ⟨1, [7]⟩
  torn := none
  fails := fails

/-- A disk with the live database alone. -/
def liveDisk : Disk Nat := ⟨some (.complete ⟨0, [5]⟩), none, none⟩

theorem restore_safe_iff_unchecked :
    RestoreSafe (replacing (· == .check)) ⟨0, [5]⟩ liveDisk
        ((replacing (· == .check)).run liveDisk).2 ((replacing (· == .check)).run liveDisk).1 ↔
      Harmless (replacing (· == .check)) liveDisk :=
  restore_safe_iff (replacing (· == .check)) ⟨0, [5]⟩ liveDisk rfl

/-- **The database is lost when the first rename fails**: the handler removes the live
database, which has not been moved. -/
theorem restore_loses_database :
    ¬∀ (call : RestoreCall Nat) (original : Database Nat) (start : Disk Nat),
      start.live = some (.complete original) →
      RestoreSafe call original start (call.run start).2 (call.run start).1 := by
  intro safe
  have lost : ((replacing (· == .moveAside)).run liveDisk).2.live = none := rfl
  exact not_restoreSafe_of_none lost (safe (replacing (· == .moveAside)) ⟨0, [5]⟩ liveDisk rfl)

end ThreatScope.Operations
