import ThreatScope.AccessControl.Accounts
import ThreatScope.Library.Faults
import ThreatScope.Library.Runs

/-!
# Backups

The backup routes of `platform_operations/router.py` with `backup_service.py`. A backup is
a record and two managed files, the snapshot and its manifest. Deleting one removes the
files and marks the record.

Retention takes two calls. The preview lists the backups that are old or too many, leaves
out the newest ones, the protected ones and the newest valid one, and is stored with a job.
The apply must repeat the latest preview, and then deletes the listed backups one after the
other. It looks at each one just before its turn, and what was deleted before stays deleted.
-/

set_option autoImplicit false

namespace ThreatScope.Operations

open Library AccessControl

/-! ## Records -/

/-- `BackupRecord.verification_status`. -/
inductive VerificationStatus where
  | pending
  | valid
  | invalid
deriving DecidableEq

/-- `BackupRecord.status`. -/
inductive BackupStatus where
  | verified
  | invalid
  | deleted
deriving DecidableEq

/-- A row of `backup_records`. -/
structure BackupRecord where
  relativePath : String
  status : BackupStatus
  isProtected : Bool
  createdAt : Instant
  verifiedAt : Option Instant
  verificationStatus : VerificationStatus
  deletedAt : Option Instant
deriving DecidableEq

/-- What `retention_preview` returns, without the count of the candidates. -/
structure RetentionPreview where
  previewToken : String
  candidateIds : List Nat
  minimumKeep : Nat
  expiresAt : Instant

/-- `OperationalJob.status` of a preview. -/
inductive JobStatus where
  | succeeded
  | consumed
deriving DecidableEq

/-- A row of `operational_jobs` of type `backup_retention_preview`. -/
structure PreviewJob where
  status : JobStatus
  /-- `_json(metadata_json)`, none for a text that was cut off. -/
  metadata : Option RetentionPreview
  createdAt : Instant

/-- The records of the backups, the names of the managed files and the previews. -/
structure BackupStore where
  backups : Table BackupRecord
  files : List String
  jobs : Table PreviewJob

/-- The settings of `get_operations_config` that retention reads. -/
structure BackupConfig where
  backupMaxCount : Nat
  backupMaxAgeDays : Nat
  backupMinKeep : Nat
  /-- `time.isoformat()`. -/
  isoformat : Instant → String

/-- The name of the manifest of a backup. -/
def manifestName (relativePath : String) : String := relativePath ++ ".manifest.json"

/-! ## Creating, verifying and deleting -/

/-- `create_database_backup`. A snapshot that cannot be completed, or whose name is
taken, leaves no file. -/
def createBackup (store : BackupStore) (name : String) (completes : Bool) (now : Instant) :
    BackupStore :=
  if completes = false ∨ name ∈ store.files ∨
      (store.backups.first? fun _ item => item.relativePath == name).isSome = true then
    { store with files := store.files.filter fun file => file != name }
  else
    { store with
      backups := store.backups.insert
        { relativePath := name
          status := .verified
          isProtected := false
          createdAt := now
          verifiedAt := some now
          verificationStatus := .valid
          deletedAt := none }
      files := name :: manifestName name :: store.files }

/-- `backup_verify`, given whether the contents of the two files match the record. -/
def verifyBackup (store : BackupStore) (id : Nat) (intact : Bool) (now : Instant) : BackupStore :=
  match store.backups.get? id with
  | none => store
  | some item =>
    if item.deletedAt.isSome then store
    else
      let valid := intact && store.files.contains item.relativePath &&
        store.files.contains (manifestName item.relativePath)
      { store with
        backups := store.backups.modify id fun item =>
          { item with
            verificationStatus := if valid then .valid else .invalid
            verifiedAt := some now
            status := if valid then .verified else .invalid } }

/-- `delete_backup`, for a record that is not protected. -/
def BackupStore.deleteBackup (store : BackupStore) (id : Nat) (item : BackupRecord)
    (now : Instant) : BackupStore :=
  { store with
    files := store.files.filter fun file =>
      file != item.relativePath && file != manifestName item.relativePath
    backups := store.backups.modify id fun item =>
      { item with deletedAt := some now, status := .deleted } }

def backupDelete (store : BackupStore) (id : Nat) (now : Instant) : BackupStore :=
  match store.backups.get? id with
  | none => store
  | some item =>
    if item.deletedAt.isSome || item.isProtected then store
    else store.deleteBackup id item now

/-! ## Retention -/

/-- The backups that are not deleted, newest first. -/
def BackupStore.active (store : BackupStore) : List (Nat × BackupRecord) :=
  (store.backups.rows.filter fun row => row.2.deletedAt.isNone).insertionSort
    fun first second => second.2.createdAt ≤ first.2.createdAt

/-- The newest backup that is not deleted and whose last verification was valid. -/
def BackupStore.newestValid (store : BackupStore) : Option Nat :=
  (store.active.find? fun row => row.2.verificationStatus == .valid).map Prod.fst

/-- The loop of `retention_preview`, from an index on and with the candidates so far. -/
def candidatesFrom (config : BackupConfig) (total : Nat) (cutoff : Instant)
    (newestValid : Option Nat) : Nat → List Nat → List (Nat × BackupRecord) → List Nat
  | _, candidates, [] => candidates
  | index, candidates, (id, item) :: rest =>
    candidatesFrom config total cutoff newestValid (index + 1)
      (if index < config.backupMinKeep || item.isProtected || newestValid == some id then candidates
      else if config.backupMaxCount < total - candidates.length || item.createdAt < cutoff then
        candidates ++ [id]
      else candidates) rest

/-- `backup_service.retention_preview`. -/
def BackupStore.retentionPreview (config : BackupConfig) (store : BackupStore)
    (previewToken : String) (now : Instant) : RetentionPreview where
  previewToken
  candidateIds := candidatesFrom config store.active.length (now - days config.backupMaxAgeDays)
    store.newestValid 0 [] store.active
  minimumKeep := config.backupMinKeep
  expiresAt := now + minutes 15

/-- The JSON text of a preview, with sorted keys. -/
def RetentionPreview.text (config : BackupConfig) (preview : RetentionPreview) : String :=
  "\x7b\"candidate_count\": " ++ toString preview.candidateIds.length ++ ", \"candidate_ids\": [" ++
    String.intercalate ", " (preview.candidateIds.map toString) ++ "], \"expires_at\": \"" ++
    config.isoformat preview.expiresAt ++ "\", \"minimum_keep\": " ++
    toString preview.minimumKeep ++ ", \"preview_token\": \"" ++ preview.previewToken ++ "\"\x7d"

/-- What can be read back from `metadata_json`, which holds 8000 characters. -/
def storedMetadata (config : BackupConfig) (preview : RetentionPreview) :
    Option RetentionPreview :=
  if (preview.text config).length ≤ 8000 then some preview else none

def backupRetentionPreview (config : BackupConfig) (store : BackupStore) (previewToken : String)
    (now : Instant) : BackupStore :=
  { store with
    jobs := store.jobs.insert
      { status := .succeeded
        metadata := storedMetadata config (store.retentionPreview config previewToken now)
        createdAt := now } }

/-- `BackupRetentionApply`. -/
structure RetentionApply where
  candidateIds : List Nat
  previewToken : String
  confirmationPhrase : String

/-- The latest preview that was not applied. -/
def BackupStore.latestPreview (store : BackupStore) : Option (Nat × PreviewJob) :=
  store.jobs.newest? PreviewJob.createdAt fun _ job => job.status == .succeeded

/-- The payload confirms and repeats the latest preview, which is found under a key. -/
def BackupStore.matchedPreview (store : BackupStore) (payload : RetentionApply) : Option Nat :=
  if payload.confirmationPhrase ≠ "DELETE PREVIEWED BACKUPS" then none
  else match store.latestPreview with
    | none => none
    | some (key, job) =>
      match job.metadata with
      | none => none
      | some preview =>
        if preview.previewToken = payload.previewToken ∧
            preview.candidateIds = payload.candidateIds then some key
        else none

/-- A candidate that may no longer be deleted. -/
def BackupStore.blocked (store : BackupStore) (newestValid : Option Nat) (id : Nat) : Bool :=
  match store.backups.get? id with
  | none => true
  | some item => item.isProtected || item.deletedAt.isSome || newestValid == some id

/-- The loop of the apply: the store afterwards, and whether it came to the end. -/
def deleteCandidates (newestValid : Option Nat) (now : Instant) :
    List Nat → BackupStore → BackupStore × Bool
  | [], store => (store, true)
  | id :: rest, store =>
    match store.backups.get? id with
    | none => (store, false)
    | some item =>
      if item.isProtected || item.deletedAt.isSome || newestValid == some id then (store, false)
      else deleteCandidates newestValid now rest (store.deleteBackup id item now)

/-- `backup_retention_apply`: the store afterwards, and whether the call succeeded. -/
def backupRetentionApply (store : BackupStore) (payload : RetentionApply) (now : Instant) :
    BackupStore × Bool :=
  match store.matchedPreview payload with
  | none => (store, false)
  | some key =>
    match deleteCandidates store.newestValid now payload.candidateIds store with
    | (after, false) => (after, false)
    | (after, true) =>
      ({ after with jobs := after.jobs.modify key fun job => { job with status := .consumed } },
        true)

/-! ## Steps -/

/-- A call that changes backups or previews. -/
inductive BackupCall where
  | create (name : String) (completes : Bool)
  | verify (id : Nat) (intact : Bool)
  | delete (id : Nat)
  | preview (previewToken : String)
  | apply (payload : RetentionApply)

/-- A call and its time. -/
structure TimedBackupCall where
  now : Instant
  call : BackupCall

/-- One call. -/
def BackupStore.next (config : BackupConfig) (store : BackupStore) (input : TimedBackupCall) :
    BackupStore :=
  match input.call with
  | .create name completes => createBackup store name completes input.now
  | .verify id intact => verifyBackup store id intact input.now
  | .delete id => backupDelete store id input.now
  | .preview previewToken => backupRetentionPreview config store previewToken input.now
  | .apply payload => (backupRetentionApply store payload input.now).1

/-!
## The creation of a backup

`create_database_backup` of `backup_service.py`, step by step. It takes a lock, starts a job,
copies the database into a plain file, encrypts it or moves it to its name, adds the record,
writes the manifest, commits, and finishes the job. One handler takes the exceptions of every
step from the name of the backup on: it rolls the session back, removes the files that have a
name by then, and fails the job. Each of these steps may raise.
-/

/-! ## Records and files -/

/-- The fields of a `BackupRecord` that bind it to its files. -/
structure ManagedBackup where
  status : BackupStatus
  encrypted : Bool
  sizeBytes : Nat
  sha256 : String
  manifestSha256 : String
deriving DecidableEq

/-- What the creation calls on files with contents `γ`. -/
structure BackupRuntime (γ : Type) where
  /-- `Fernet.encrypt` with the configured key. -/
  encrypt : γ → γ
  /-- `st_size`. -/
  size : γ → Nat
  /-- `sha256_file`. -/
  sha256 : γ → String
  /-- The text of `_manifest`. -/
  manifest : ManagedBackup → γ

/-- What a call changes: the lock, the three files of its backup, the variables that hold
their paths, and the record in the session and in the database. -/
structure BackupDesk (γ : Type) where
  lock : Bool
  plain : Option γ
  output : Option γ
  manifest : Option γ
  plainNamed : Bool
  outputNamed : Bool
  manifestNamed : Bool
  pending : Option ManagedBackup
  committed : Option ManagedBackup

/-- Before a call. The key of the backup is not generated yet. -/
def BackupDesk.start {γ : Type} (lock : Bool) : BackupDesk γ where
  lock
  plain := none
  output := none
  manifest := none
  plainNamed := false
  outputNamed := false
  manifestNamed := false
  pending := none
  committed := none

/-! ## Steps -/

/-- The exceptions of a call. -/
inductive BackupError where
  /-- "Backup encryption is required but no key is configured" -/
  | encryptionRequired
  /-- "A database backup is already running" -/
  | alreadyRunning
  /-- "Only SQLite backups are supported" -/
  | onlySqlite
  /-- "Generated backup already exists" -/
  | generatedExists
  /-- "Backup exceeds configured maximum size" -/
  | exceedsMaximum
  /-- "Database backup failed safely" -/
  | failedSafely
  /-- An exception of a step. -/
  | fault
deriving DecidableEq

/-- The steps that may raise. -/
inductive BackupStep where
  | configure
  | startJob
  | nameOutput
  | namePlain
  | snapshot
  | count
  | encrypt
  | unlinkPlain
  | move
  | measure
  | record
  | flush
  | nameManifest
  | writeManifest
  | hashManifest
  | notices
  | commit
  | refresh
  | finishJob
  | rollback
  /-- `path.unlink` in the handler. -/
  | dropPlain
  | dropOutput
  | dropManifest
  | failJob
  | notifyFailure
deriving DecidableEq

/-- What a call is made with and what it finds. -/
structure CreationCall (γ : Type) where
  requireEncryption : Bool
  /-- `bool(cfg.backup_encryption_key)`. -/
  encrypted : Bool
  maxBackupBytes : Nat
  /-- The database is an SQLite database. -/
  sqlite : Bool
  /-- A file that is already there under the generated name. -/
  taken : Option γ
  /-- The copy of the database. -/
  snapshot : γ
  /-- What a copy that raises leaves. -/
  tornPlain : Option γ
  tornOutput : Option γ
  tornManifest : Option γ
  fails : BackupStep → Bool

section Script

variable {γ : Type} (env : BackupRuntime γ) (call : CreationCall γ)

/-- A step that raises and changes nothing, or takes effect. -/
def CreationCall.step (step : BackupStep) (effect : BackupDesk γ → BackupDesk γ) :
    Script BackupError (BackupDesk γ) Unit :=
  Script.attempt (call.fails step) .fault effect

/-- From the check of the dialect to `_safe_counts(plain)`. -/
def copyDatabase : Script BackupError (BackupDesk γ) Unit := do
  Script.onlyWhen (fun _ => !call.sqlite) (throw .onlySqlite)
  call.step .nameOutput fun desk => { desk with outputNamed := true, output := call.taken }
  Script.onlyWhen (fun desk => desk.output.isSome) (throw .generatedExists)
  call.step .namePlain fun desk => { desk with plainNamed := true }
  Script.attemptTorn (call.fails .snapshot) .fault
    (fun desk => { desk with plain := call.tornPlain })
    fun desk => { desk with plain := some call.snapshot }
  call.step .count id

/-- The plain file is encrypted, or moved to the name of the backup. -/
def sealCopy : Script BackupError (BackupDesk γ) Unit := do
  Script.onlyWhen (fun _ => call.encrypted) do
    Script.attemptTorn (call.fails .encrypt) .fault
      (fun desk => { desk with output := call.tornOutput })
      fun desk => { desk with output := desk.plain.map env.encrypt }
    call.step .unlinkPlain fun desk => { desk with plain := none }
  Script.onlyWhen (fun _ => !call.encrypted)
    (call.step .move fun desk => { desk with output := desk.plain, plain := none })

/-- The record of a stored file. -/
def recordOf (file : γ) : ManagedBackup where
  status := .verified
  encrypted := call.encrypted
  sizeBytes := env.size file
  sha256 := env.sha256 file
  manifestSha256 := ""

/-- `record.manifest_sha256 = sha256_file(manifest)`. -/
def ManagedBackup.withManifest (record : ManagedBackup) (text : γ) : ManagedBackup :=
  { record with manifestSha256 := env.sha256 text }

/-- From the check of the size to the commit. -/
def registerBackup : Script BackupError (BackupDesk γ) Unit := do
  call.step .measure id
  Script.onlyWhen (fun desk => desk.output.any fun file => call.maxBackupBytes < env.size file)
    (throw .exceedsMaximum)
  call.step .record fun desk => { desk with pending := desk.output.map (recordOf env call) }
  call.step .flush id
  call.step .nameManifest fun desk => { desk with manifestNamed := true }
  Script.attemptTorn (call.fails .writeManifest) .fault
    (fun desk => { desk with manifest := call.tornManifest })
    fun desk => { desk with manifest := desk.pending.map env.manifest }
  call.step .hashManifest fun desk =>
    { desk with
      pending := desk.pending.bind fun record => desk.manifest.map (record.withManifest env) }
  call.step .notices id
  call.step .commit fun desk => { desk with committed := desk.pending, pending := none }

/-- `db.refresh(record)` and `finish_job`. -/
def reportBackup : Script BackupError (BackupDesk γ) Unit := do
  call.step .refresh id
  call.step .finishJob id

/-- `if path: path.unlink(missing_ok=True)`. -/
def dropFile (step : BackupStep) (named : BackupDesk γ → Bool) (file : BackupDesk γ → Option γ)
    (effect : BackupDesk γ → BackupDesk γ) : Script BackupError (BackupDesk γ) Unit :=
  Script.onlyWhen (fun desk => named desk && (file desk).isSome) (call.step step effect)

/-- The handler. -/
def recoverBackup : Script BackupError (BackupDesk γ) Unit := do
  call.step .rollback fun desk => { desk with pending := none }
  dropFile call .dropPlain BackupDesk.plainNamed BackupDesk.plain
    fun desk => { desk with plain := none }
  dropFile call .dropOutput BackupDesk.outputNamed BackupDesk.output
    fun desk => { desk with output := none }
  dropFile call .dropManifest BackupDesk.manifestNamed BackupDesk.manifest
    fun desk => { desk with manifest := none }
  call.step .failJob id
  call.step .notifyFailure id
  throw .failedSafely

/-- The body of the `try`. -/
def backupBody : Script BackupError (BackupDesk γ) Unit := do
  copyDatabase call
  sealCopy env call
  registerBackup env call
  reportBackup call

def createDatabaseBackup : Script BackupError (BackupDesk γ) Unit := do
  call.step .configure id
  Script.onlyWhen (fun _ => call.requireEncryption && !call.encrypted) (throw .encryptionRequired)
  Script.onlyWhen (fun desk => desk.lock) (throw .alreadyRunning)
  modify fun desk => { desk with lock := true }
  call.step .startJob id
  Script.always (Script.onError (backupBody env call) (recoverBackup call))
    fun desk => { desk with lock := false }

/-- The desk that a call leaves, and the exception that it raises. -/
def CreationCall.run (lock : Bool) : Option BackupError × BackupDesk γ :=
  match createDatabaseBackup env call (.start lock) with
  | .ok _ after => (none, after)
  | .error error after => (some error, after)

end Script

end ThreatScope.Operations
