import ThreatScope.Operations.Backups

/-!
# Where a creation is atomic

The handler of `create_database_backup` removes the files at every failure, and rolls back what
is not committed. It is atomic as long as nothing fails after the commit and the handler's own
steps do not fail where there is something to remove. The start of the job is outside of it, and
there the lock stays taken (`creation_atomic_iff`).
-/

set_option autoImplicit false

namespace ThreatScope.Operations

open Library

variable {γ : Type}

/-! ## What a call owes -/

/-- A committed record has its two files, as it was recorded. -/
structure Recorded (env : BackupRuntime γ) (desk : BackupDesk γ) (record : ManagedBackup) :
    Prop where
  committed : desk.committed = some record
  verified : record.status = .verified
  output : ∃ file, desk.output = some file ∧ env.sha256 file = record.sha256
  manifest : ∃ text, desk.manifest = some text ∧ env.sha256 text = record.manifestSha256

/-- There is no record and no file. -/
structure Absent (desk : BackupDesk γ) : Prop where
  committed : desk.committed = none
  plain : desk.plain = none
  output : desk.output = none
  manifest : desk.manifest = none

/-- What a call leaves. -/
structure BackupAtomic (env : BackupRuntime γ) (call : CreationCall γ) (lock : Bool)
    (after : BackupDesk γ) : Prop where
  outcome : (∃ record, Recorded env after record) ∨ Absent after
  /-- No unencrypted copy remains when encryption is configured. -/
  sealed : call.encrypted = true → after.plain = none
  /-- The lock is as it was. -/
  unlocked : after.lock = lock

/-! ## The condition -/

section Condition

variable (env : BackupRuntime γ) (call : CreationCall γ)

/-- The handler removes the files that are there. -/
def Undone (plain output manifest : Bool) : Prop :=
  (plain || output || manifest) = true →
    call.fails .rollback = false ∧ (plain = true → call.fails .dropPlain = false) ∧
    (output = true → call.fails .dropOutput = false) ∧
    (manifest = true → call.fails .dropManifest = false)

/-- A failure of the copy is undone; if there is none, it depends on the rest. -/
def CopyUndone (rest : Prop) : Prop :=
  if !call.sqlite || call.fails .nameOutput then True
  else if call.taken.isSome then Undone call false true false
  else if call.fails .namePlain then True
  else if call.fails .snapshot then Undone call call.tornPlain.isSome false false
  else if call.fails .count then Undone call true false false
  else rest

/-- So for the encryption or the move. -/
def SealUndone (rest : Prop) : Prop :=
  if call.encrypted then
    if call.fails .encrypt then Undone call true call.tornOutput.isSome false
    else if call.fails .unlinkPlain then Undone call true true false
    else rest
  else if call.fails .move then Undone call true false false
  else rest

/-- The stored file. -/
def CreationCall.stored : γ :=
  if call.encrypted then env.encrypt call.snapshot else call.snapshot

/-- So for the record and the manifest. -/
def RegisterUndone (rest : Prop) : Prop :=
  if call.fails .measure || decide (call.maxBackupBytes < env.size (call.stored env)) ||
      call.fails .record || call.fails .flush || call.fails .nameManifest then
    Undone call false true false
  else if call.fails .writeManifest then Undone call false true call.tornManifest.isSome
  else if call.fails .hashManifest || call.fails .notices || call.fails .commit then
    Undone call false true true
  else rest

/-- After the commit nothing fails, or the handler fails before it has removed a file. -/
def ReportKept : Prop :=
  (call.fails .refresh || call.fails .finishJob) = true →
    call.fails .rollback = true ∨ call.fails .dropOutput = true

/-- The job is started, and the failure that the call comes to is undone. -/
def CreationUndone (lock : Bool) : Prop :=
  if call.fails .configure || (call.requireEncryption && !call.encrypted) || lock then True
  else
    call.fails .startJob = false ∧
      CopyUndone call (SealUndone call (RegisterUndone env call (ReportKept call)))

end Condition

/-! ## The handler -/

section Handler

variable {env : BackupRuntime γ} {call : CreationCall γ}

/-- The desk that the handler and the release of the lock leave. -/
def recovered (call : CreationCall γ) (desk : BackupDesk γ) : BackupDesk γ :=
  match recoverBackup call desk with
  | .ok _ after => { after with lock := false }
  | .error _ after => { after with lock := false }

/-- A desk with names for the files that are there. -/
structure Stopped (desk : BackupDesk γ) : Prop where
  plain : desk.plain.isSome = true → desk.plainNamed = true
  output : desk.output.isSome = true → desk.outputNamed = true
  manifest : desk.manifest.isSome = true → desk.manifestNamed = true

theorem step_apply (step : BackupStep) (effect : BackupDesk γ → BackupDesk γ)
    (desk : BackupDesk γ) :
    call.step step effect desk =
      if call.fails step then .error .fault desk else .ok () (effect desk) := rfl

theorem dropFile_apply (step : BackupStep) {named : BackupDesk γ → Bool}
    {file : BackupDesk γ → Option γ} {effect : BackupDesk γ → BackupDesk γ} {desk : BackupDesk γ}
    (imp : (file desk).isSome = true → named desk = true)
    (absent : file desk = none → effect desk = desk) :
    dropFile call step named file effect desk =
      if (file desk).isSome && call.fails step then .error .fault desk
      else .ok () (effect desk) := by
  cases found : file desk with
  | none => simp [dropFile, found, absent found]
  | some contents =>
    have isNamed := imp (by rw [found]; rfl)
    simp [dropFile, step_apply, found, isNamed]

theorem recovered_lock (desk : BackupDesk γ) : (recovered call desk).lock = false := by
  unfold recovered
  split <;> rfl

/-- The files that the handler leaves. It stops at the first one that it cannot remove. -/
theorem recovered_eq {desk : BackupDesk γ} (stopped : Stopped desk) :
    recovered call desk =
      if call.fails .rollback then { desk with lock := false }
      else if desk.plain.isSome && call.fails .dropPlain then
        { desk with pending := none, lock := false }
      else if desk.output.isSome && call.fails .dropOutput then
        { desk with pending := none, plain := none, lock := false }
      else if desk.manifest.isSome && call.fails .dropManifest then
        { desk with pending := none, plain := none, output := none, lock := false }
      else
        { desk with
          pending := none, plain := none, output := none, manifest := none, lock := false } := by
  unfold recovered recoverBackup
  simp only [Script.bind_apply, step_apply]
  cases call.fails .rollback with
  | true => rfl
  | false =>
  simp only [Bool.false_eq_true, if_false]
  rw [dropFile_apply .dropPlain ?plainNamed ?plainAbsent]
  case plainNamed => exact stopped.plain
  case plainAbsent =>
    intro absent
    dsimp only at absent ⊢
    rw [absent]
  cases desk.plain.isSome && call.fails .dropPlain with
  | true => rfl
  | false =>
  simp only [Bool.false_eq_true, if_false]
  rw [dropFile_apply .dropOutput ?outputNamed ?outputAbsent]
  case outputNamed => exact stopped.output
  case outputAbsent =>
    intro absent
    dsimp only at absent ⊢
    rw [absent]
  cases desk.output.isSome && call.fails .dropOutput with
  | true => rfl
  | false =>
  simp only [Bool.false_eq_true, if_false]
  rw [dropFile_apply .dropManifest ?manifestNamed ?manifestAbsent]
  case manifestNamed => exact stopped.manifest
  case manifestAbsent =>
    intro absent
    dsimp only at absent ⊢
    rw [absent]
  cases desk.manifest.isSome && call.fails .dropManifest with
  | true => rfl
  | false =>
  cases call.fails .failJob with
  | true => rfl
  | false => cases call.fails .notifyFailure <;> rfl

/-- The files of a desk. -/
def UndoneAt (call : CreationCall γ) (desk : BackupDesk γ) : Prop :=
  Undone call desk.plain.isSome desk.output.isSome desk.manifest.isSome

theorem committed_recovered {desk : BackupDesk γ} (stopped : Stopped desk) :
    (recovered call desk).committed = desk.committed := by
  rw [recovered_eq stopped]
  split_ifs <;> rfl

theorem absent_iff {desk : BackupDesk γ} :
    Absent desk ↔ desk.committed = none ∧ desk.plain = none ∧ desk.output = none ∧
      desk.manifest = none :=
  ⟨fun absent => ⟨absent.committed, absent.plain, absent.output, absent.manifest⟩,
    fun ⟨committed, plain, output, manifest⟩ => ⟨committed, plain, output, manifest⟩⟩

/-- **Before the commit, the handler leaves nothing exactly when it can remove what is there.** -/
theorem absent_recovered_iff {desk : BackupDesk γ} (stopped : Stopped desk)
    (free : desk.committed = none) :
    Absent (recovered call desk) ↔ UndoneAt call desk := by
  rw [recovered_eq stopped, absent_iff]
  unfold UndoneAt Undone
  cases call.fails .rollback with
  | true => cases desk.plain <;> cases desk.output <;> cases desk.manifest <;> simp [free]
  | false =>
  cases desk.plain with
  | none =>
    cases desk.output with
    | none => cases desk.manifest <;> cases call.fails .dropManifest <;> simp [free]
    | some file =>
      cases call.fails .dropOutput with
      | true => simp
      | false => cases desk.manifest <;> cases call.fails .dropManifest <;> simp [free]
  | some file =>
  cases call.fails .dropPlain with
  | true => simp
  | false =>
  cases desk.output with
  | none => cases desk.manifest <;> cases call.fails .dropManifest <;> simp [free]
  | some file =>
  cases call.fails .dropOutput with
  | true => simp
  | false => cases desk.manifest <;> cases call.fails .dropManifest <;> simp [free]

end Handler

/-! ## The body -/

section Body

variable {env : BackupRuntime γ} {call : CreationCall γ} {rest : Prop}

/-- A part of the body raises before the commit. What is there is undone exactly under the
condition. -/
def Raises (call : CreationCall γ) (result : EStateM.Result BackupError (BackupDesk γ) Unit)
    (condition : Prop) : Prop :=
  ∃ error desk, result = .error error desk ∧ Stopped desk ∧ desk.committed = none ∧
    (condition ↔ UndoneAt call desk)

/-- The desk with the lock taken. -/
def BackupDesk.locked : BackupDesk γ := { BackupDesk.start false with lock := true }

/-- The desk with the database copied. -/
def copied (call : CreationCall γ) : BackupDesk γ :=
  { BackupDesk.locked with outputNamed := true, plainNamed := true, plain := some call.snapshot }

/-- The desk with the file in its place. -/
def stored (env : BackupRuntime γ) (call : CreationCall γ) : BackupDesk γ :=
  { copied call with plain := none, output := some (call.stored env) }

/-- The record of the file in its place. -/
def storedRecord (env : BackupRuntime γ) (call : CreationCall γ) : ManagedBackup :=
  recordOf env call (call.stored env)

/-- The desk with the record committed. -/
def registered (env : BackupRuntime γ) (call : CreationCall γ) : BackupDesk γ :=
  { stored env call with
    manifestNamed := true
    manifest := some (env.manifest (storedRecord env call))
    committed := some ((storedRecord env call).withManifest env
      (env.manifest (storedRecord env call))) }

/-- The copy raises, undone exactly under its condition, or it is made. -/
theorem copyDatabase_cases (call : CreationCall γ) (rest : Prop) :
    Raises call (copyDatabase call .locked) (CopyUndone call rest) ∨
      copyDatabase call .locked = .ok () (copied call) ∧ (CopyUndone call rest ↔ rest) := by
  cases sqlite : call.sqlite with
  | false =>
    refine .inl ⟨.onlySqlite, .locked, ?_, ⟨nofun, nofun, nofun⟩, rfl, ?_⟩
    · simp [copyDatabase, sqlite]
    · simp [CopyUndone, sqlite, UndoneAt, Undone, BackupDesk.locked, BackupDesk.start]
  | true =>
  cases unnamed : call.fails .nameOutput with
  | true =>
    refine .inl ⟨.fault, .locked, ?_, ⟨nofun, nofun, nofun⟩, rfl, ?_⟩
    · simp [copyDatabase, step_apply, sqlite, unnamed]
    · simp [CopyUndone, sqlite, unnamed, UndoneAt, Undone, BackupDesk.locked, BackupDesk.start]
  | false =>
  cases free : call.taken with
  | some file =>
    refine .inl ⟨.generatedExists,
      { BackupDesk.locked with outputNamed := true, output := some file }, ?_,
      ⟨nofun, fun _ => rfl, nofun⟩, rfl, ?_⟩
    · simp [copyDatabase, step_apply, sqlite, unnamed, free]
    · simp [CopyUndone, sqlite, unnamed, free, UndoneAt, BackupDesk.locked, BackupDesk.start]
  | none =>
  cases untitled : call.fails .namePlain with
  | true =>
    refine .inl ⟨.fault, { BackupDesk.locked with outputNamed := true }, ?_,
      ⟨nofun, nofun, nofun⟩, rfl, ?_⟩
    · simp [copyDatabase, step_apply, sqlite, unnamed, free, untitled, BackupDesk.locked,
        BackupDesk.start]
    · simp [CopyUndone, sqlite, unnamed, free, untitled, UndoneAt, Undone, BackupDesk.locked,
        BackupDesk.start]
  | false =>
  cases uncopied : call.fails .snapshot with
  | true =>
    refine .inl ⟨.fault,
      { BackupDesk.locked with outputNamed := true, plainNamed := true, plain := call.tornPlain },
      ?_, ⟨fun _ => rfl, fun _ => rfl, nofun⟩, rfl, ?_⟩
    · simp [copyDatabase, step_apply, sqlite, unnamed, free, untitled, uncopied,
        BackupDesk.locked, BackupDesk.start]
    · simp [CopyUndone, sqlite, unnamed, free, untitled, uncopied, UndoneAt, BackupDesk.locked,
        BackupDesk.start]
  | false =>
  cases uncounted : call.fails .count with
  | true =>
    refine .inl ⟨.fault, copied call, ?_, ⟨fun _ => rfl, fun _ => rfl, nofun⟩, rfl, ?_⟩
    · simp [copyDatabase, step_apply, copied, sqlite, unnamed, free, untitled, uncopied, uncounted,
        BackupDesk.locked, BackupDesk.start]
    · simp [CopyUndone, copied, sqlite, unnamed, free, untitled, uncopied, uncounted, UndoneAt,
        BackupDesk.locked, BackupDesk.start]
  | false =>
    refine .inr ⟨?_, ?_⟩
    · simp [copyDatabase, step_apply, copied, sqlite, unnamed, free, untitled, uncopied, uncounted,
        BackupDesk.locked, BackupDesk.start]
    · simp [CopyUndone, sqlite, unnamed, free, untitled, uncopied, uncounted]

/-- So for the encryption or the move. -/
theorem sealCopy_cases (env : BackupRuntime γ) (call : CreationCall γ) (rest : Prop) :
    Raises call (sealCopy env call (copied call)) (SealUndone call rest) ∨
      sealCopy env call (copied call) = .ok () (stored env call) ∧
        (SealUndone call rest ↔ rest) := by
  cases encrypted : call.encrypted with
  | true =>
    cases unencrypted : call.fails .encrypt with
    | true =>
      refine .inl ⟨.fault, { copied call with output := call.tornOutput }, ?_,
        ⟨fun _ => rfl, fun _ => rfl, nofun⟩, rfl, ?_⟩
      · simp [sealCopy, encrypted, unencrypted]
      · simp [SealUndone, encrypted, unencrypted, UndoneAt, copied, BackupDesk.locked,
          BackupDesk.start]
    | false =>
    cases left : call.fails .unlinkPlain with
    | true =>
      refine .inl ⟨.fault,
        { copied call with output := some (env.encrypt call.snapshot) }, ?_,
        ⟨fun _ => rfl, fun _ => rfl, nofun⟩, rfl, ?_⟩
      · simp [sealCopy, step_apply, copied, encrypted, unencrypted, left]
      · simp [SealUndone, encrypted, unencrypted, left, UndoneAt, copied, BackupDesk.locked,
          BackupDesk.start]
    | false =>
      refine .inr ⟨?_, ?_⟩
      · simp [sealCopy, step_apply, copied, stored, CreationCall.stored, encrypted, unencrypted,
          left]
      · simp [SealUndone, encrypted, unencrypted, left]
  | false =>
    cases unmoved : call.fails .move with
    | true =>
      refine .inl ⟨.fault, copied call, ?_, ⟨fun _ => rfl, fun _ => rfl, nofun⟩, rfl, ?_⟩
      · simp [sealCopy, step_apply, encrypted, unmoved]
      · simp [SealUndone, encrypted, unmoved, UndoneAt, copied, BackupDesk.locked,
          BackupDesk.start]
    | false =>
      refine .inr ⟨?_, ?_⟩
      · simp [sealCopy, step_apply, copied, stored, CreationCall.stored, encrypted, unmoved]
      · simp [SealUndone, encrypted, unmoved]

theorem raises_of_output {result : EStateM.Result BackupError (BackupDesk γ) Unit}
    {condition : Prop} (env : BackupRuntime γ) (error : BackupError)
    (pending : Option ManagedBackup)
    (ends : result = .error error { stored env call with pending := pending })
    (undone : condition ↔ Undone call false true false) : Raises call result condition :=
  ⟨error, _, ends, ⟨nofun, fun _ => rfl, nofun⟩, rfl, undone⟩

theorem raises_of_manifest {result : EStateM.Result BackupError (BackupDesk γ) Unit}
    {condition : Prop} (env : BackupRuntime γ) (error : BackupError)
    (pending : ManagedBackup) (manifest : Option γ)
    (ends : result = .error error
      { stored env call with
        pending := some pending, manifestNamed := true, manifest := manifest })
    (undone : condition ↔ Undone call false true manifest.isSome) : Raises call result condition :=
  ⟨error, _, ends, ⟨nofun, fun _ => rfl, fun _ => rfl⟩, rfl, undone⟩

/-- So for the record and the manifest. -/
theorem registerBackup_cases (env : BackupRuntime γ) (call : CreationCall γ) (rest : Prop) :
    Raises call (registerBackup env call (stored env call))
        (RegisterUndone env call rest) ∨
      registerBackup env call (stored env call) = .ok () (registered env call) ∧
        (RegisterUndone env call rest ↔ rest) := by
  have place : (stored env call).output = some (call.stored env) := rfl
  have noRecord : (stored env call).pending = none := rfl
  cases unmeasured : call.fails .measure with
  | true =>
    refine .inl (raises_of_output env .fault none ?_ ?_)
    · simp [registerBackup, step_apply, unmeasured, stored, copied, BackupDesk.locked,
        BackupDesk.start]
    · simp [RegisterUndone, unmeasured]
  | false =>
  by_cases large : call.maxBackupBytes < env.size (call.stored env)
  · refine .inl (raises_of_output env .exceedsMaximum none ?_ ?_)
    · simp [registerBackup, step_apply, unmeasured, place, large]
      rfl
    · simp [RegisterUndone, large]
  · cases unrecorded : call.fails .record with
    | true =>
      refine .inl (raises_of_output env .fault none ?_ ?_)
      · simp [registerBackup, step_apply, unmeasured, place, large, unrecorded]
        rfl
      · simp [RegisterUndone, unrecorded]
    | false =>
    cases unflushed : call.fails .flush with
    | true =>
      refine .inl (raises_of_output env .fault (some (storedRecord env call)) ?_ ?_)
      · simp [registerBackup, step_apply, storedRecord, unmeasured, place, large, unrecorded,
          unflushed]
      · simp [RegisterUndone, unflushed]
    | false =>
    cases unnamed : call.fails .nameManifest with
    | true =>
      refine .inl (raises_of_output env .fault (some (storedRecord env call)) ?_ ?_)
      · simp [registerBackup, step_apply, storedRecord, unmeasured, place, large, unrecorded,
          unflushed, unnamed]
      · simp [RegisterUndone, unnamed]
    | false =>
    cases unwritten : call.fails .writeManifest with
    | true =>
      refine .inl (raises_of_manifest env .fault (storedRecord env call) call.tornManifest
        ?_ ?_)
      · simp [registerBackup, step_apply, storedRecord, unmeasured, place, large, unrecorded,
          unflushed, unnamed, unwritten]
      · simp [RegisterUndone, unmeasured, large, unrecorded, unflushed, unnamed, unwritten]
    | false =>
    cases unhashed : call.fails .hashManifest with
    | true =>
      refine .inl (raises_of_manifest env .fault (storedRecord env call)
        (some (env.manifest (storedRecord env call))) ?_ ?_)
      · simp [registerBackup, step_apply, storedRecord, unmeasured, place, large, unrecorded,
          unflushed, unnamed, unwritten, unhashed]
      · simp [RegisterUndone, unmeasured, large, unrecorded, unflushed, unnamed, unwritten,
          unhashed]
    | false =>
    cases untold : call.fails .notices with
    | true =>
      refine .inl (raises_of_manifest env .fault ((storedRecord env call).withManifest
        env (env.manifest (storedRecord env call)))
        (some (env.manifest (storedRecord env call))) ?_ ?_)
      · simp [registerBackup, step_apply, storedRecord, unmeasured, place, large, unrecorded,
          unflushed, unnamed, unwritten, unhashed, untold]
      · simp [RegisterUndone, unmeasured, large, unrecorded, unflushed, unnamed, unwritten,
          untold]
    | false =>
    cases uncommitted : call.fails .commit with
    | true =>
      refine .inl (raises_of_manifest env .fault ((storedRecord env call).withManifest
        env (env.manifest (storedRecord env call)))
        (some (env.manifest (storedRecord env call))) ?_ ?_)
      · simp [registerBackup, step_apply, storedRecord, unmeasured, place, large, unrecorded,
          unflushed, unnamed, unwritten, unhashed, untold, uncommitted]
      · simp [RegisterUndone, unmeasured, large, unrecorded, unflushed, unnamed, unwritten,
          uncommitted]
    | false =>
      refine .inr ⟨?_, ?_⟩
      · simp [registerBackup, registered, step_apply, storedRecord, unmeasured, place, noRecord,
          large, unrecorded, unflushed, unnamed, unwritten, unhashed, untold, uncommitted]
      · simp [RegisterUndone, unmeasured, large, unrecorded, unflushed, unnamed, unwritten,
          unhashed, untold, uncommitted]

theorem backupBody_cases (env : BackupRuntime γ) (call : CreationCall γ) (rest : Prop) :
    Raises call (backupBody env call .locked)
        (CopyUndone call (SealUndone call (RegisterUndone env call rest))) ∨
      backupBody env call .locked = reportBackup call (registered env call) ∧
        (CopyUndone call (SealUndone call (RegisterUndone env call rest)) ↔ rest) := by
  unfold backupBody
  simp only [Script.bind_apply]
  rcases copyDatabase_cases call (SealUndone call (RegisterUndone env call rest)) with
    ⟨error, desk, ends, raised⟩ | ⟨copies, copyIff⟩
  · rw [ends]
    exact .inl ⟨error, desk, rfl, raised⟩
  rw [copies]
  dsimp only
  rcases sealCopy_cases env call (RegisterUndone env call rest) with
    ⟨error, desk, ends, stopped, free, undone⟩ | ⟨seals, sealIff⟩
  · rw [ends]
    exact .inl ⟨error, desk, rfl, stopped, free, copyIff.trans undone⟩
  rw [seals]
  dsimp only
  rcases registerBackup_cases env call rest with
    ⟨error, desk, ends, stopped, free, undone⟩ | ⟨registers, registerIff⟩
  · rw [ends]
    exact .inl ⟨error, desk, rfl, stopped, free, (copyIff.trans sealIff).trans undone⟩
  rw [registers]
  exact .inr ⟨rfl, (copyIff.trans sealIff).trans registerIff⟩

end Body

/-! ## The call -/

section Call

variable {env : BackupRuntime γ} {call : CreationCall γ}

theorem recorded_registered (env : BackupRuntime γ) (call : CreationCall γ) :
    Recorded env (registered env call) ((storedRecord env call).withManifest env
      (env.manifest (storedRecord env call))) where
  committed := rfl
  verified := rfl
  output := ⟨call.stored env, rfl, rfl⟩
  manifest := ⟨env.manifest (storedRecord env call), rfl, rfl⟩

theorem atomic_recovered_registered_iff :
    BackupAtomic env call false (recovered call (registered env call)) ↔
      call.fails .rollback = true ∨ call.fails .dropOutput = true := by
  have stopped : Stopped (registered env call) := ⟨nofun, fun _ => rfl, fun _ => rfl⟩
  have recorded := recorded_registered env call
  cases rolled : call.fails .rollback with
  | true =>
    refine iff_of_true ?_ (.inl rfl)
    rw [recovered_eq stopped, rolled]
    exact ⟨.inl ⟨_, recorded.committed, recorded.verified, recorded.output, recorded.manifest⟩,
      fun _ => rfl, rfl⟩
  | false =>
  cases dropped : call.fails .dropOutput with
  | true =>
    refine iff_of_true ?_ (.inr rfl)
    rw [recovered_eq stopped, rolled, dropped]
    exact ⟨.inl ⟨_, recorded.committed, recorded.verified, recorded.output, recorded.manifest⟩,
      fun _ => rfl, rfl⟩
  | false =>
    refine iff_of_false ?_ (by simp)
    have gone : (recovered call (registered env call)).output = none := by
      rw [recovered_eq stopped, rolled, dropped]
      cases call.fails .dropManifest <;> rfl
    intro atomic
    rcases atomic.outcome with ⟨record, recorded⟩ | absent
    · obtain ⟨file, found, -⟩ := recorded.output
      exact absurd (gone.symm.trans found) nofun
    · exact absurd ((committed_recovered stopped).symm.trans absent.committed) nofun

theorem atomic_recovered_iff {desk : BackupDesk γ} (stopped : Stopped desk)
    (free : desk.committed = none) :
    BackupAtomic env call false (recovered call desk) ↔ UndoneAt call desk := by
  rw [← absent_recovered_iff stopped free]
  constructor
  · intro atomic
    rcases atomic.outcome with ⟨record, recorded⟩ | absent
    · exact absurd ((committed_recovered stopped).symm.trans recorded.committed) (by simp [free])
    · exact absent
  · exact fun absent => ⟨.inr absent, fun _ => absent.plain, recovered_lock desk⟩

/-- A creation that has begun ends as its body does, or with what the handler recovers. -/
theorem run_of_begun (env : BackupRuntime γ) (configured : call.fails .configure = false)
    (allowed : (call.requireEncryption && !call.encrypted) = false)
    (started : call.fails .startJob = false) :
    (call.run env false).2 =
      match backupBody env call .locked with
      | .ok _ after => { after with lock := false }
      | .error _ after => recovered call after := by
  have begins : createDatabaseBackup env call (.start false) =
      Script.always (Script.onError (backupBody env call) (recoverBackup call))
        (fun desk => { desk with lock := false }) .locked := by
    simp [createDatabaseBackup, step_apply, configured, allowed, started, BackupDesk.locked,
      BackupDesk.start]
  unfold CreationCall.run
  rw [begins, Script.always_apply, Script.onError_apply]
  cases backupBody env call .locked with
  | ok _ after => rfl
  | error error after =>
    dsimp only
    unfold recovered
    cases recoverBackup call after <;> rfl

/-- A job that does not start leaves the lock behind. -/
theorem run_of_unstarted (env : BackupRuntime γ) (configured : call.fails .configure = false)
    (allowed : (call.requireEncryption && !call.encrypted) = false)
    (unstarted : call.fails .startJob = true) : (call.run env false).2 = .locked := by
  unfold CreationCall.run createDatabaseBackup
  simp [step_apply, configured, allowed, unstarted, BackupDesk.locked, BackupDesk.start]

/-- A refused creation touches nothing. -/
theorem run_of_refused (env : BackupRuntime γ) {lock : Bool}
    (refused : (call.fails .configure || (call.requireEncryption && !call.encrypted) || lock) =
      true) : (call.run env lock).2 = .start lock := by
  unfold CreationCall.run createDatabaseBackup
  cases configured : call.fails .configure with
  | true => simp [step_apply, configured]
  | false =>
  cases allowed : call.requireEncryption && !call.encrypted with
  | true => simp [step_apply, configured]
  | false =>
    have busy : lock = true := by simpa [configured, allowed] using refused
    simp [step_apply, configured, busy, BackupDesk.start]

end Call

/-- **When a creation is atomic**: at every combination of steps that fail, the call leaves a
committed record with its two files or nothing, no unencrypted copy, and the lock as it was,
exactly when its job is started and the failure that it comes to is undone. -/
theorem creation_atomic_iff (env : BackupRuntime γ) (call : CreationCall γ) (lock : Bool) :
    BackupAtomic env call lock (call.run env lock).2 ↔
      CreationUndone env call lock := by
  cases refused : call.fails .configure || (call.requireEncryption && !call.encrypted) || lock with
  | true =>
    rw [run_of_refused env refused]
    refine iff_of_true ⟨.inr ⟨rfl, rfl, rfl, rfl⟩, fun _ => rfl, rfl⟩ ?_
    simp [CreationUndone, refused]
  | false =>
  obtain ⟨⟨configured, allowed⟩, free⟩ :
      (call.fails .configure = false ∧ (call.requireEncryption && !call.encrypted) = false) ∧
        lock = false := by
    simpa [Bool.or_eq_false_iff] using refused
  subst free
  have condition : CreationUndone env call false ↔ call.fails .startJob = false ∧
      CopyUndone call (SealUndone call (RegisterUndone env call (ReportKept call))) := by
    simp [CreationUndone, refused]
  rw [condition]
  cases started : call.fails .startJob with
  | true =>
    refine iff_of_false (fun atomic => ?_) (fun both => Bool.noConfusion both.1)
    rw [run_of_unstarted env configured allowed started] at atomic
    exact Bool.noConfusion atomic.unlocked
  | false =>
  rw [run_of_begun env configured allowed started]
  simp only [true_and]
  rcases backupBody_cases env call (ReportKept call) with
    ⟨error, desk, ends, stopped, uncommitted, undone⟩ | ⟨reports, kept⟩
  · rw [ends]
    exact (atomic_recovered_iff stopped uncommitted).trans undone.symm
  · rw [reports, kept]
    cases unreported : call.fails .refresh || call.fails .finishJob with
    | true =>
      have fails : reportBackup call (registered env call) =
          .error .fault (registered env call) := by
        cases unrefreshed : call.fails .refresh with
        | true => simp [reportBackup, step_apply, unrefreshed]
        | false =>
          have unfinished : call.fails .finishJob = true := by
            simpa [unrefreshed] using unreported
          simp [reportBackup, step_apply, unrefreshed, unfinished]
      rw [fails]
      refine atomic_recovered_registered_iff.trans ?_
      simp [ReportKept, unreported]
    | false =>
      obtain ⟨refreshed, finished⟩ := Bool.or_eq_false_iff.mp unreported
      have returns : reportBackup call (registered env call) =
          .ok () (registered env call) := by
        simp [reportBackup, step_apply, refreshed, finished]
      rw [returns]
      have recorded := recorded_registered env call
      refine iff_of_true ?_ ?_
      · exact ⟨.inl ⟨_, recorded.committed, recorded.verified, recorded.output,
          recorded.manifest⟩, fun _ => rfl, rfl⟩
      · simp [ReportKept, unreported]

/-! ## A run -/

/-- A creation of an unencrypted backup in which the job cannot be finished. -/
def unfinishedCreation : CreationCall Nat where
  requireEncryption := false
  encrypted := false
  maxBackupBytes := 100
  sqlite := true
  taken := none
  snapshot := 1
  tornPlain := none
  tornOutput := none
  tornManifest := none
  fails step := step == .finishJob

/-- **A verified record stays without its files** when a step after the commit fails. -/
theorem record_without_files :
    ¬∀ (env : BackupRuntime Nat) (call : CreationCall Nat) (lock : Bool),
      BackupAtomic env call lock (call.run env lock).2 := by
  intro atomic
  let env : BackupRuntime Nat := ⟨id, id, fun _ => "digest", fun _ => 2⟩
  have gone : (unfinishedCreation.run env false).2.output = none := rfl
  have kept : (unfinishedCreation.run env false).2.committed.isSome = true := rfl
  rcases (atomic env unfinishedCreation false).outcome with ⟨record, recorded⟩ | absent
  · obtain ⟨file, found, -⟩ := recorded.output
    exact absurd (gone.symm.trans found) nofun
  · rw [absent.committed] at kept
    cases kept

end ThreatScope.Operations
