import ThreatScope.Operations.Backups

/-!
# Managed restores

`restore_service.py` and `scripts/restore_backup.py`, with the managed files as data that anybody
with access to the backup directory may change between two calls. A restore is validated once,
which compares the two files with the hashes of the record, and staged by a later call, which
reads the file again. The offline script reads it on its own. Failures of single steps of the
script and of a creation are left to `RestoreSafety` and `BackupAtomicity`.
-/

set_option autoImplicit false

namespace ThreatScope.Operations

open Library AccessControl

/-! ## Records -/

/-- A row of `backup_records`. -/
structure StoredBackup extends ManagedBackup where
  backupKey : String
  /-- `filename`, which is also the relative path. -/
  filename : String
  isProtected : Bool
  /-- `deleted_at` is set. -/
  deleted : Bool
deriving DecidableEq

/-- `RestoreRecord.status`. -/
inductive RestoreStatus where
  | validated
  | succeeded
  | validationFailed
  | pendingRestart
  | stageFailed
deriving DecidableEq

/-- A row of `restore_records`. -/
structure RestoreRecord where
  backupId : Nat
  status : RestoreStatus
  /-- `pre_restore_backup_id`. -/
  preRestoreBackupId : Option Nat
  createdAt : Instant

/-- A database: the two tables, the sessions that are not revoked, and the rest. -/
structure LiveData (δ : Type) where
  backups : Table StoredBackup
  restores : Table RestoreRecord
  openSessions : List Nat
  rest : δ

/-- The databases and the files. -/
structure RestoreStore (γ δ : Type) where
  live : LiveData δ
  /-- The files of the backup directory. -/
  files : String → Option γ
  /-- `restore-staged.sqlite`. -/
  staged : Option γ
  /-- `.pre-replace`, the database that the script has moved aside. -/
  previous : Option (LiveData δ)
  /-- `.restore-candidate`. -/
  leftCandidate : Option (LiveData δ)

/-- How a call ends. -/
inductive Outcome where
  | returned
  /-- A request is answered with an error. -/
  | refused (message : String)
  /-- The script ends with an exit code. -/
  | exited (code : Nat)
  /-- An exception that nothing handles. -/
  | raised
deriving DecidableEq

/-- An error, or an exit code other than zero. -/
def Outcome.IsRefusal : Outcome → Prop
  | .returned => False
  | .refused _ => True
  | .exited code => code ≠ 0
  | .raised => True

/-- What restores call. -/
structure RestoreRuntime (γ δ : Type) extends BackupRuntime γ where
  /-- A key is configured. -/
  encrypting : Bool
  /-- `Fernet.decrypt` with the configured key, none for an invalid token. -/
  decrypt : γ → Option γ
  /-- The SQLite file of a database. -/
  dump : LiveData δ → γ
  /-- `_safe_counts`, with the database in the file. -/
  load : γ → Except Outcome (LiveData δ)
  maxImportBytes : Nat
  /-- The manifest is JSON and names the schema of this version. -/
  schemaMatches : γ → Bool
  /-- `backup_sha256` of a manifest. -/
  manifestSha256 : γ → Option String

section Calls

variable {γ δ : Type} (env : RestoreRuntime γ δ)

/-! ## Backups -/

/-- The name of the file of a backup. -/
def backupFilename (encrypted : Bool) (key : String) : String :=
  if encrypted then key ++ ".sqlite.fernet" else key ++ ".sqlite"

/-- The files with one written, or removed. -/
def writeFile (files : String → Option γ) (name : String) (contents : Option γ) :
    String → Option γ :=
  fun other => if other = name then contents else files other

/-- `create_database_backup`, for a backup that can be completed. -/
def RestoreStore.backUp (store : RestoreStore γ δ) (key : String) (isProtected : Bool) :
    RestoreStore γ δ :=
  let plain := env.dump store.live
  let file := if env.encrypting then env.encrypt plain else plain
  let record : ManagedBackup :=
    { status := .verified
      encrypted := env.encrypting
      sizeBytes := env.size file
      sha256 := env.sha256 file
      manifestSha256 := "" }
  let manifest := env.manifest record
  let filename := backupFilename env.encrypting key
  { store with
    live := { store.live with
      backups := store.live.backups.insert
        { record.withManifest env.toBackupRuntime manifest with
          backupKey := key, filename, isProtected, deleted := false } }
    files := writeFile (writeFile store.files filename (some file)) (manifestName filename)
      (some manifest) }

/-- What a call says about the backup that it makes: its key, and whether it can be completed. -/
structure NewBackup where
  key : String
  completes : Bool

/-- `create_database_backup`. Where the name is taken, its handler removes the file. -/
def makeBackup (store : RestoreStore γ δ) (backup : NewBackup) (isProtected : Bool) :
    Bool × RestoreStore γ δ :=
  let filename := backupFilename env.encrypting backup.key
  if (store.files filename).isSome then
    (false, { store with files := writeFile store.files filename none })
  else if backup.completes then (true, store.backUp env backup.key isProtected)
  else (false, store)

/-- `backup_create`. -/
def createRoute (store : RestoreStore γ δ) (backup : NewBackup) : Outcome × RestoreStore γ δ :=
  match makeBackup env store backup false with
  | (true, after) => (.returned, after)
  | (false, after) => (.refused "Database backup failed safely", after)

/-- `backup_delete`. -/
def deleteRoute (store : RestoreStore γ δ) (backupId : Nat) : Outcome × RestoreStore γ δ :=
  match store.live.backups.get? backupId with
  | none => (.refused "Backup not found", store)
  | some backup =>
    if backup.deleted then (.refused "Backup not found", store)
    else if backup.isProtected then (.refused "Protected backups cannot be deleted", store)
    else
      (.returned,
        { store with
          live := { store.live with
            backups := store.live.backups.modify backupId fun backup =>
              { backup with deleted := true, status := .deleted } }
          files := writeFile (writeFile store.files backup.filename none)
            (manifestName backup.filename) none })

def materializePlain (store : RestoreStore γ δ) (backup : StoredBackup) : Except Outcome γ :=
  if backup.encrypted && !env.encrypting then
    .error (.refused "Backup encryption key is unavailable")
  else
    match store.files backup.filename with
    | none => .error .raised
    | some file =>
      if backup.encrypted then
        match env.decrypt file with
        | none => .error (.refused "Backup decryption failed")
        | some plain => .ok plain
      else .ok file

/-- The two files of a backup have the hashes of its record. -/
def hashesMatch (store : RestoreStore γ δ) (backup : StoredBackup) : Bool :=
  (store.files backup.filename).any (fun file => env.sha256 file == backup.sha256) &&
    (store.files (manifestName backup.filename)).any fun manifest =>
      env.sha256 manifest == backup.manifestSha256

/-- The file of a backup becomes a database that passes the checks. -/
def loads (store : RestoreStore γ δ) (backup : StoredBackup) : Bool :=
  match materializePlain env store backup with
  | .ok plain => (env.load plain).isOk
  | .error _ => false

/-- `backup_verify`, with `verify_backup`. -/
def verifyRoute (store : RestoreStore γ δ) (backupId : Nat) : Outcome × RestoreStore γ δ :=
  match store.live.backups.get? backupId with
  | none => (.refused "Backup not found", store)
  | some backup =>
    if backup.deleted then (.refused "Backup not found", store)
    else
      let valid := hashesMatch env store backup && loads env store backup &&
        (store.files (manifestName backup.filename)).any fun manifest =>
          env.manifestSha256 manifest == some backup.sha256 && env.schemaMatches manifest
      (.returned,
        { store with
          live := { store.live with
            backups := store.live.backups.modify backupId fun backup =>
              { backup with status := if valid then .verified else .invalid } } })

/-! ## Validation and staging -/

/-- The checks of `validate_managed_backup`. -/
def validates (store : RestoreStore γ δ) (backup : StoredBackup) : Bool :=
  (store.files backup.filename).any (fun file => env.size file ≤ env.maxImportBytes) &&
    (backup.filename.endsWith ".sqlite" || backup.filename.endsWith ".sqlite.fernet") &&
    hashesMatch env store backup &&
    (store.files (manifestName backup.filename)).any env.schemaMatches &&
    loads env store backup

/-- `restore_validate`, with `validate_managed_backup`. -/
def validateRoute (store : RestoreStore γ δ) (backupId : Nat) (now : Instant) :
    Outcome × RestoreStore γ δ :=
  match store.live.backups.get? backupId with
  | none => (.refused "Backup not found", store)
  | some backup =>
    if backup.deleted then (.refused "Backup not found", store)
    else
      let record (status : RestoreStatus) : RestoreStore γ δ :=
        { store with
          live := { store.live with
            restores := store.live.restores.insert ⟨backupId, status, none, now⟩ } }
      if validates env store backup then (.returned, record .validated)
      else (.refused "Restore package validation failed safely", record .validationFailed)

/-- The store with a restore changed. -/
def RestoreStore.modifyRestore (store : RestoreStore γ δ) (restoreId : Nat)
    (change : RestoreRecord → RestoreRecord) : RestoreStore γ δ :=
  { store with
    live := { store.live with restores := store.live.restores.modify restoreId change } }

/-- The database of a backup is written to the name of the staged restore. -/
def stageBackup (store : RestoreStore γ δ) (restoreId safetyId : Nat) (backup : StoredBackup) :
    Outcome × RestoreStore γ δ :=
  let failed := store.modifyRestore restoreId fun restore => { restore with status := .stageFailed }
  match materializePlain env store backup with
  | .error outcome => (outcome, failed)
  | .ok plain =>
    match env.load plain with
    | .error outcome => (outcome, failed)
    | .ok _ =>
      (.returned,
        { store.modifyRestore restoreId fun restore =>
            { restore with status := .pendingRestart, preRestoreBackupId := some safetyId } with
          staged := some plain })

/-- `restore_execute` after the confirmation, with `stage_restore`. -/
def stageRestore (store : RestoreStore γ δ) (restoreId : Nat) (safety : NewBackup) :
    Outcome × RestoreStore γ δ :=
  match store.live.restores.get? restoreId with
  | none => (.refused "Restore request not found", store)
  | some restore =>
    if restore.status ≠ .validated then
      (.refused "Restore validation must succeed before execution", store)
    else
      match store.live.backups.get? restore.backupId with
      | none => (.refused "Managed backup is unavailable", store)
      | some backup =>
        match makeBackup env store safety true with
        | (false, after) => (.refused "Database backup failed safely", after)
        | (true, saved) =>
          if saved.staged.isSome then (.refused "A staged restore is already pending", saved)
          else stageBackup env saved restoreId store.live.backups.nextKey backup

/-! ## The script -/

/-- The argument of the script. -/
inductive BackupArgument where
  | id (id : Nat)
  | name (name : String)

def findBackup (store : RestoreStore γ δ) : BackupArgument → Option (Nat × StoredBackup)
  | .id id =>
    ((store.live.backups.get? id).filter fun backup => !backup.deleted).map fun backup =>
      (id, backup)
  | .name name =>
    store.live.backups.first? fun _ backup =>
      !backup.deleted && (backup.backupKey == name || backup.filename == name)

/-- A run of the script. -/
structure ScriptCall where
  argument : BackupArgument
  validateOnly : Bool
  confirmed : Bool
  safety : NewBackup

/-- The store with a database in place of the live one, and its sessions revoked. -/
def RestoreStore.putInPlace (store : RestoreStore γ δ) (db : LiveData δ) : RestoreStore γ δ :=
  { store with live := { db with openSessions := [] }, previous := some store.live }

/-- What the script records in the database that it has put in place. A backup that this
database does not have cannot be referred to. -/
def recordRestore (store : RestoreStore γ δ) (backupId safetyId : Nat) :
    Outcome × RestoreStore γ δ :=
  match store.live.restores.newest? RestoreRecord.createdAt fun _ restore =>
      restore.backupId == backupId with
  | none => (.exited 0, store)
  | some (restoreId, _) =>
    if (store.live.backups.get? safetyId).isSome then
      (.exited 0, store.modifyRestore restoreId fun restore =>
        { restore with status := .succeeded, preRestoreBackupId := some safetyId })
    else (.raised, store)

/-- The script with a candidate that has passed its checks. -/
def replaceDatabase (store : RestoreStore γ δ) (call : ScriptCall) (backupId : Nat)
    (db : LiveData δ) : Outcome × RestoreStore γ δ :=
  if call.validateOnly then (.exited 0, store)
  else if !call.confirmed then (.exited 5, store)
  else
    match makeBackup env store call.safety false with
    | (false, after) => (.raised, { after with leftCandidate := some db })
    | (true, saved) =>
      if saved.previous.isSome then (.exited 6, saved)
      else recordRestore (saved.putInPlace db) backupId store.live.backups.nextKey

/-- `main` of the script. -/
def restoreScript (store : RestoreStore γ δ) (call : ScriptCall) : Outcome × RestoreStore γ δ :=
  match findBackup store call.argument with
  | none => (.exited 2, store)
  | some (backupId, backup) =>
    if store.leftCandidate.isSome then (.exited 3, store)
    else
      match materializePlain env store backup with
      | .error _ => (.exited 4, store)
      | .ok plain =>
        match env.load plain with
        | .error _ => (.exited 4, store)
        | .ok db => replaceDatabase env store call backupId db

/-! ## Runs -/

/-- What happens to the store. -/
inductive RestoreEvent (γ : Type) where
  | create (backup : NewBackup)
  | verify (backupId : Nat)
  | delete (backupId : Nat)
  /-- Anybody writes or removes a file of the backup directory. -/
  | change (name : String) (contents : Option γ)
  | validate (backupId : Nat) (now : Instant)
  | stage (restoreId : Nat) (safety : NewBackup)
  | script (call : ScriptCall)
  /-- An operator removes what a restore has left. -/
  | tidy

/-- How an event ends, and the store after it. -/
def RestoreStore.respond (store : RestoreStore γ δ) : RestoreEvent γ → Outcome × RestoreStore γ δ
  | .create backup => createRoute env store backup
  | .verify backupId => verifyRoute env store backupId
  | .delete backupId => deleteRoute store backupId
  | .change name contents =>
      (.returned, { store with files := writeFile store.files name contents })
  | .validate backupId now => validateRoute env store backupId now
  | .stage restoreId safety => stageRestore env store restoreId safety
  | .script call => restoreScript env store call
  | .tidy => (.returned, { store with staged := none, previous := none, leftCandidate := none })

/-- The store after an event. -/
def RestoreStore.next (store : RestoreStore γ δ) (event : RestoreEvent γ) : RestoreStore γ δ :=
  (store.respond env event).2

end Calls

/-!
## Which bytes are restored

Staging and the offline script read the file of a backup again and compare it with nothing: a
file that was changed after the validation is staged, and the script puts one in place that was
never validated. Over every run in which anybody may change the files, only recorded bytes are
restored exactly when each attempt on a changed file is turned away before it has had an effect
(`restores_only_recorded_iff`).
-/

variable {γ δ : Type}

/-! ## What a restore owes -/

/-- The file of a backup has the hash that was recorded when it was made. -/
def Intact (env : RestoreRuntime γ δ) (store : RestoreStore γ δ) (backup : StoredBackup) :
    Prop :=
  ∃ file, store.files backup.filename = some file ∧ env.sha256 file = backup.sha256

/-- The backup that an event restores, when it stages one or runs the script. -/
def RestoreEvent.backup? (store : RestoreStore γ δ) : RestoreEvent γ → Option StoredBackup
  | .stage restoreId _ =>
    (store.live.restores.get? restoreId).bind fun restore =>
      store.live.backups.get? restore.backupId
  | .script call => (findBackup store call.argument).map Prod.snd
  | _ => none

/-- A restore of a file that is not intact is refused and changes nothing. -/
def RefusesChanged (env : RestoreRuntime γ δ)
    (move : Transition (RestoreStore γ δ) (RestoreEvent γ)) : Prop :=
  ∀ backup, move.input.backup? move.before = some backup →
    ¬Intact env move.before backup →
    (move.before.respond env move.input).1.IsRefusal ∧
      move.after = move.before

/-! ## The recorded hash

The hash and the name of a record stay what they were when it was made, until the script puts
another database in place. -/

section Staging

variable (env : RestoreRuntime γ δ) (store : RestoreStore γ δ)

theorem backups_stageBackup (restoreId safetyId : Nat) (backup : StoredBackup) :
    (stageBackup env store restoreId safetyId backup).2.live.backups = store.live.backups := by
  unfold stageBackup
  cases materializePlain env store backup with
  | error outcome => rfl
  | ok plain =>
    dsimp only
    cases env.load plain <;> rfl

end Staging

/-! ## The condition -/

/-- The backup to be made is not completed, and no file has its name. -/
def NewBackup.Fails (env : RestoreRuntime γ δ) (store : RestoreStore γ δ) (backup : NewBackup) :
    Prop :=
  store.files (backupFilename env.encrypting backup.key) = none ∧ backup.completes = false

/-- A check that comes before the first effect turns an event away. -/
def TurnedAway (env : RestoreRuntime γ δ) (store : RestoreStore γ δ) (backup : StoredBackup) :
    RestoreEvent γ → Prop
  | .stage restoreId safety =>
    (∃ restore, store.live.restores.get? restoreId = some restore ∧ restore.status ≠ .validated) ∨
      safety.Fails env store
  | .script call =>
    store.leftCandidate.isSome = true ∨ loads env store backup = false ∨
      call.validateOnly = false ∧ call.confirmed = false
  | _ => True

/-- The file that an event restores is intact, or the event is turned away. -/
def Guarded (env : RestoreRuntime γ δ) (store : RestoreStore γ δ) (event : RestoreEvent γ) :
    Prop :=
  ∀ backup, event.backup? store = some backup →
    Intact env store backup ∨ TurnedAway env store backup event

/-! ## The backup that is made first -/

section Steps

variable {env : RestoreRuntime γ δ} {store : RestoreStore γ δ}

theorem nextKey_makeBackup {backup : NewBackup} {isProtected : Bool} {saved : RestoreStore γ δ}
    (made : makeBackup env store backup isProtected = (true, saved)) :
    saved.live.backups.nextKey = store.live.backups.nextKey + 1 := by
  unfold makeBackup at made
  cases taken : (store.files (backupFilename env.encrypting backup.key)).isSome with
  | true => simp [taken] at made
  | false =>
    cases completes : backup.completes with
    | false => simp [taken, completes] at made
    | true =>
      simp only [taken, completes, Bool.false_eq_true, if_false, if_true, Prod.mk.injEq,
        true_and] at made
      rw [← made]
      rfl

theorem makeBackup_false_iff {backup : NewBackup} {isProtected : Bool} {after : RestoreStore γ δ}
    (made : makeBackup env store backup isProtected = (false, after)) :
    after = store ↔ backup.Fails env store := by
  unfold makeBackup at made
  unfold NewBackup.Fails
  cases taken : store.files (backupFilename env.encrypting backup.key) with
  | some file =>
    simp only [taken, Option.isSome_some, if_true, Prod.mk.injEq, true_and] at made
    subst made
    refine iff_of_false ?_ nofun
    intro same
    have gone := congrFun (congrArg RestoreStore.files same)
      (backupFilename env.encrypting backup.key)
    simp [writeFile, taken] at gone
  | none =>
    cases completes : backup.completes with
    | true => simp [taken, completes] at made
    | false =>
      simp only [taken, completes, Option.isSome_none, Bool.false_eq_true, if_false,
        Prod.mk.injEq, true_and] at made
      exact iff_of_true made.symm ⟨rfl, rfl⟩

theorem ne_of_nextKey {first second : RestoreStore γ δ}
    (later : first.live.backups.nextKey = second.live.backups.nextKey + 1) : first ≠ second := by
  intro same
  rw [same] at later
  exact absurd later (Nat.ne_of_lt (Nat.lt_succ_self _))

/-! ## Steps -/

/-- **Staging refuses without an effect exactly when the restore is not validated or the safety
backup fails.** -/
theorem stageRestore_unchanged_iff {restoreId : Nat} {restore : RestoreRecord}
    {backup : StoredBackup} {safety : NewBackup}
    (found : store.live.restores.get? restoreId = some restore)
    (alsoFound : store.live.backups.get? restore.backupId = some backup) :
    ((stageRestore env store restoreId safety).1.IsRefusal ∧
        (stageRestore env store restoreId safety).2 = store) ↔
      restore.status ≠ .validated ∨ safety.Fails env store := by
  unfold stageRestore
  simp only [found, alsoFound]
  by_cases validated : restore.status = .validated
  · rw [if_neg (not_not.mpr validated)]
    rcases made : makeBackup env store safety true with ⟨done, saved⟩
    cases done with
    | false =>
      dsimp only
      rw [makeBackup_false_iff made]
      exact ⟨fun both => .inr both.2, fun either => ⟨trivial,
        either.resolve_left (not_not.mpr validated)⟩⟩
    | true =>
      have later := nextKey_makeBackup made
      refine iff_of_false ?_ ?_
      · rintro ⟨-, same⟩
        refine ne_of_nextKey ?_ same
        dsimp only
        split_ifs
        · exact later
        · rw [backups_stageBackup]
          exact later
      · rintro (wrong | fails)
        · exact wrong validated
        · unfold makeBackup at made
          simp [fails.1, fails.2] at made
  · rw [if_pos validated]
    exact iff_of_true ⟨trivial, rfl⟩ (.inl validated)

theorem previous_makeBackup (backup : NewBackup) (isProtected : Bool) :
    (makeBackup env store backup isProtected).2.previous = store.previous := by
  unfold makeBackup
  dsimp only
  split_ifs <;> rfl

theorem previous_recordRestore (backupId safetyId : Nat) :
    (recordRestore store backupId safetyId).2.previous = store.previous := by
  unfold recordRestore
  split
  · rfl
  · split_ifs <;> rfl

/-- **With a candidate, the script refuses without an effect exactly when it is not confirmed.** -/
theorem replaceDatabase_unchanged_iff {call : ScriptCall} {backupId : Nat}
    {db : LiveData δ} (free : store.leftCandidate = none) :
    ((replaceDatabase env store call backupId db).1.IsRefusal ∧
        (replaceDatabase env store call backupId db).2 = store) ↔
      call.validateOnly = false ∧ call.confirmed = false := by
  unfold replaceDatabase
  cases only : call.validateOnly with
  | true => exact iff_of_false (fun both => both.1 rfl) (fun both => Bool.noConfusion both.1)
  | false =>
  cases confirmed : call.confirmed with
  | false => exact iff_of_true ⟨Nat.succ_ne_zero 4, rfl⟩ ⟨rfl, rfl⟩
  | true =>
  refine iff_of_false ?_ (fun both => Bool.noConfusion both.2)
  rintro ⟨-, same⟩
  have before : (makeBackup env store call.safety false).2.previous = store.previous :=
    previous_makeBackup call.safety false
  rcases made : makeBackup env store call.safety false with ⟨done, saved⟩
  rw [made] at before
  simp only [made, Bool.false_eq_true, Bool.not_true, if_false] at same
  cases done with
  | false =>
    have left := congrArg RestoreStore.leftCandidate same
    exact absurd (left.trans free) nofun
  | true =>
    dsimp only at same
    split_ifs at same with kept
    · exact ne_of_nextKey (nextKey_makeBackup made) same
    · have moved := congrArg RestoreStore.previous same
      rw [previous_recordRestore, ← before] at moved
      exact kept (by rw [← moved]; rfl)

/-- **The script refuses without an effect exactly when it comes to no candidate, or is not
confirmed.** -/
theorem restoreScript_unchanged_iff {call : ScriptCall} {backupId : Nat} {backup : StoredBackup}
    (found : findBackup store call.argument = some (backupId, backup)) :
    ((restoreScript env store call).1.IsRefusal ∧
        (restoreScript env store call).2 = store) ↔
      store.leftCandidate.isSome = true ∨ loads env store backup = false ∨
        call.validateOnly = false ∧ call.confirmed = false := by
  unfold restoreScript loads
  simp only [found]
  cases left : store.leftCandidate with
  | some db => exact iff_of_true ⟨Nat.succ_ne_zero 2, rfl⟩ (.inl rfl)
  | none =>
  cases materializePlain env store backup with
  | error outcome => exact iff_of_true ⟨Nat.succ_ne_zero 3, rfl⟩ (.inr (.inl rfl))
  | ok plain =>
  dsimp only
  cases env.load plain with
  | error outcome => exact iff_of_true ⟨Nat.succ_ne_zero 3, rfl⟩ (.inr (.inl rfl))
  | ok db =>
    refine (replaceDatabase_unchanged_iff left).trans ⟨fun both => .inr (.inr both), ?_⟩
    rintro (wrong | wrong | both)
    · cases wrong
    · cases wrong
    · exact both

end Steps

/-- **One event refuses what was changed exactly when it is guarded.** -/
theorem refusesChanged_iff (env : RestoreRuntime γ δ) (store : RestoreStore γ δ)
    (event : RestoreEvent γ) :
    RefusesChanged env ⟨store, event, store.next env event⟩ ↔
      Guarded env store event := by
  refine forall₂_congr fun backup here => ?_
  refine Iff.trans (imp_congr_right fun _ => ?_) or_iff_not_imp_left.symm
  dsimp only [RestoreStore.next]
  cases event with
  | stage restoreId safety =>
    obtain ⟨restore, found, alsoFound⟩ := Option.bind_eq_some_iff.mp here
    refine (stageRestore_unchanged_iff found alsoFound).trans (or_congr_left ?_)
    constructor
    · exact fun wrong => ⟨restore, found, wrong⟩
    · rintro ⟨other, same, wrong⟩
      rwa [Option.some.inj (found.symm.trans same)]
  | script call =>
    obtain ⟨⟨backupId, found⟩, alsoFound, rfl⟩ := Option.map_eq_some_iff.mp here
    exact restoreScript_unchanged_iff alsoFound
  | create => cases here
  | verify => cases here
  | delete => cases here
  | change => cases here
  | validate => cases here
  | tidy => cases here

/-- **Only recorded bytes are restored exactly when changed files are turned away**: in every run
of requests, script runs and changes of files by anybody, an attempt to restore a file without the
recorded hash is refused and changes nothing, exactly when each such attempt meets a check that
comes before the first effect. -/
theorem restores_only_recorded_iff (env : RestoreRuntime γ δ) (start : RestoreStore γ δ)
    (events : List (RestoreEvent γ)) :
    (∀ move ∈ trace (RestoreStore.next env) start events,
        RefusesChanged env move) ↔
      ∀ move ∈ trace (RestoreStore.next env) start events,
        Guarded env move.before move.input :=
  good_transitions_iff (RestoreStore.next env) (fun _ _ (_ : True) _ => trivial)
    (fun store event _ => refusesChanged_iff env store event) trivial events

/-! ## A run -/

/-- Files that are a database or a text, without encryption. -/
def plainFiles : RestoreRuntime (LiveData Bool ⊕ String) Bool where
  encrypt := id
  size _ := 1
  sha256
    | .inl db => if db.rest then "1" else "0"
    | .inr text => text
  manifest record := .inr record.sha256
  encrypting := false
  decrypt _ := none
  dump := .inl
  load
    | .inl db => .ok db
    | .inr _ => .error .raised
  maxImportBytes := 10
  schemaMatches _ := true
  manifestSha256
    | .inl _ => none
    | .inr text => some text

/-- A store without backups. -/
def emptyRestores (rest : Bool) : RestoreStore (LiveData Bool ⊕ String) Bool where
  live := ⟨.empty, .empty, [], rest⟩
  files _ := none
  staged := none
  previous := none
  leftCandidate := none

/-- A backup is validated, its file is exchanged for another database, and the restore is
staged. -/
def exchangedBeforeStaging : List (RestoreEvent (LiveData Bool ⊕ String)) :=
  [.create ⟨"a", true⟩, .validate 1 0,
    .change "a.sqlite" (some (.inl (emptyRestores true).live))]

/-- **A file that was changed after its validation is staged.** -/
theorem changed_file_staged :
    ¬∀ (env : RestoreRuntime (LiveData Bool ⊕ String) Bool)
      (start : RestoreStore (LiveData Bool ⊕ String) Bool)
      (events : List (RestoreEvent (LiveData Bool ⊕ String))),
      ∀ move ∈ trace (RestoreStore.next env) start events,
        RefusesChanged env move := by
  intro all
  have staged := all plainFiles (emptyRestores false)
    (exchangedBeforeStaging ++ [.stage 1 ⟨"b", true⟩]) _ (mem_trace_concat _ _ _ _)
  have made : RestoreEvent.backup?
      (final (RestoreStore.next plainFiles) (emptyRestores false) exchangedBeforeStaging)
      (.stage 1 ⟨"b", true⟩) =
        some ⟨⟨.verified, false, 1, "0", "0"⟩, "a", "a.sqlite", false, false⟩ := by
    decide +kernel
  have exchanged : (final (RestoreStore.next plainFiles) (emptyRestores false)
      exchangedBeforeStaging).files "a.sqlite" = some (.inl (emptyRestores true).live) := rfl
  have answer : ((final (RestoreStore.next plainFiles) (emptyRestores false)
      exchangedBeforeStaging).respond plainFiles (.stage 1 ⟨"b", true⟩)).1 = .returned := by
    decide +kernel
  obtain ⟨refusal, -⟩ := staged _ made (by
    rintro ⟨file, found, same⟩
    obtain rfl := Option.some.inj (exchanged.symm.trans found)
    exact absurd same (by decide))
  rw [answer] at refusal
  exact refusal

end ThreatScope.Operations
