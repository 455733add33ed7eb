import ThreatScope.Library.Totals
import ThreatScope.Operations.Backups

/-!
# What an apply of the backup retention does

The apply deletes each candidate before it looks at the next one. It comes to the end
exactly when no candidate is blocked at its start and none is listed twice, and what is
blocked is never touched. When it stops in between, the candidates before are gone.
-/

set_option autoImplicit false

namespace ThreatScope.Operations

open Library AccessControl

/-- How many backups are not deleted. -/
def BackupStore.activeCount (store : BackupStore) : Nat :=
  store.backups.count fun _ item => item.deletedAt.isNone

/-- An apply is all or nothing: refused, it leaves every record and every file; otherwise it
leaves the minimum when there was that much, the protected backups and the newest valid
one. -/
def BackupStore.AppliesSafely (config : BackupConfig) (store : BackupStore)
    (payload : RetentionApply) (now : Instant) : Prop :=
  let result := backupRetentionApply store payload now
  (result.2 = false → result.1.backups = store.backups ∧ result.1.files = store.files) ∧
    (result.2 = true →
      (config.backupMinKeep ≤ store.activeCount → config.backupMinKeep ≤ result.1.activeCount) ∧
      (∀ id item, store.backups.get? id = some item → item.isProtected = true →
        result.1.backups.get? id = some item) ∧
      ∀ id, store.newestValid = some id → result.1.backups.get? id = store.backups.get? id)

/-- An apply may be made: it does not repeat the latest preview, or its first candidate is
blocked, or no candidate is blocked or listed twice, and the rest is no less than the
minimum. -/
def BackupStore.MayApply (config : BackupConfig) (store : BackupStore)
    (payload : RetentionApply) : Prop :=
  store.matchedPreview payload = none ∨
    (∃ id, payload.candidateIds.head? = some id ∧ store.blocked store.newestValid id = true) ∨
    ((∀ id ∈ payload.candidateIds, store.blocked store.newestValid id = false) ∧
      payload.candidateIds.Nodup ∧
      (store.activeCount < config.backupMinKeep ∨
        config.backupMinKeep + payload.candidateIds.length ≤ store.activeCount))

section Deletions

variable {store : BackupStore} {newestValid : Option Nat} {now : Instant} {id : Nat}
  {item : BackupRecord}

theorem blocked_eq_false (free : store.blocked newestValid id = false) :
    ∃ item, store.backups.get? id = some item ∧ item.isProtected = false ∧
      item.deletedAt = none ∧ newestValid ≠ some id := by
  unfold BackupStore.blocked at free
  split at free
  · cases free
  · rename_i item stored
    simp only [Bool.or_eq_false_iff, beq_eq_false_iff_ne, Option.isSome_eq_false_iff,
      Option.isNone_iff_eq_none] at free
    exact ⟨item, stored, free.1.1, free.1.2, free.2⟩

theorem deleteCandidates_cons_of_blocked {rest : List Nat}
    (blocked : store.blocked newestValid id = true) :
    deleteCandidates newestValid now (id :: rest) store = (store, false) := by
  unfold BackupStore.blocked at blocked
  unfold deleteCandidates
  split at blocked
  · rfl
  · exact if_pos blocked

theorem deleteCandidates_cons_of_free {rest : List Nat} (stored : store.backups.get? id = some item)
    (free : store.blocked newestValid id = false) :
    deleteCandidates newestValid now (id :: rest) store =
      deleteCandidates newestValid now rest (store.deleteBackup id item now) := by
  unfold BackupStore.blocked at free
  rw [stored] at free
  conv_lhs => unfold deleteCandidates
  rw [stored]
  exact if_neg (Bool.eq_false_iff.mp free)

theorem blocked_deleteBackup (newestValid : Option Nat) (now : Instant)
    (stored : store.backups.get? id = some item) (other : Nat) :
    (store.deleteBackup id item now).blocked newestValid other =
      (decide (other = id) || store.blocked newestValid other) := by
  unfold BackupStore.blocked BackupStore.deleteBackup
  dsimp only
  by_cases here : other = id
  · subst here
    rw [Table.get?_modify_self, stored]
    simp
  · rw [Table.get?_modify_of_ne _ _ here, decide_eq_false here, Bool.false_or]

/-- **The loop comes to its end** when no candidate is blocked or listed twice. -/
theorem deleteCandidates_completes_iff {candidates : List Nat} :
    ∀ {store : BackupStore}, (deleteCandidates newestValid now candidates store).2 = true ↔
      (∀ id ∈ candidates, store.blocked newestValid id = false) ∧ candidates.Nodup := by
  induction candidates with
  | nil =>
    intro store
    exact ⟨fun _ => ⟨fun _ member => (by cases member), List.nodup_nil⟩, fun _ => rfl⟩
  | cons id rest ih =>
    intro store
    rw [List.forall_mem_cons, List.nodup_cons]
    cases verdict : store.blocked newestValid id with
    | true =>
      rw [deleteCandidates_cons_of_blocked verdict]
      constructor
      · intro refused
        cases refused
      · rintro ⟨⟨free, -⟩, -⟩
        cases free
    | false =>
      obtain ⟨item, stored, -⟩ := blocked_eq_false verdict
      rw [deleteCandidates_cons_of_free stored verdict, ih]
      have blocks := blocked_deleteBackup newestValid now stored
      constructor
      · rintro ⟨free, distinct⟩
        refine ⟨⟨rfl, fun other member => ?_⟩, fun member => ?_, distinct⟩
        · have both := free other member
          rw [blocks, Bool.or_eq_false_iff] at both
          exact both.2
        · have both := free id member
          rw [blocks, Bool.or_eq_false_iff, decide_eq_false_iff_not] at both
          exact both.1 rfl
      · rintro ⟨⟨-, free⟩, fresh, distinct⟩
        refine ⟨fun other member => ?_, distinct⟩
        rw [blocks, Bool.or_eq_false_iff, decide_eq_false_iff_not]
        exact ⟨fun same => fresh (same ▸ member), free other member⟩

theorem get?_deleteCandidates_of_blocked {candidates : List Nat} :
    ∀ {store : BackupStore}, store.blocked newestValid id = true →
      (deleteCandidates newestValid now candidates store).1.backups.get? id =
        store.backups.get? id := by
  induction candidates with
  | nil => exact fun _ => rfl
  | cons first rest ih =>
    intro store blocked
    cases verdict : store.blocked newestValid first with
    | true => rw [deleteCandidates_cons_of_blocked verdict]
    | false =>
      obtain ⟨item, stored, -⟩ := blocked_eq_false verdict
      have apart : id ≠ first := by
        rintro rfl
        rw [blocked] at verdict
        cases verdict
      rw [deleteCandidates_cons_of_free stored verdict, ih]
      · exact Table.get?_modify_of_ne _ _ apart
      · rw [blocked_deleteBackup newestValid _ stored, blocked, Bool.or_true]

theorem activeCount_deleteBackup (now : Instant) (stored : store.backups.get? id = some item)
    (active : item.deletedAt = none) :
    (store.deleteBackup id item now).activeCount + 1 = store.activeCount := by
  unfold BackupStore.activeCount BackupStore.deleteBackup
  rw [Table.count_eq_total, Table.count_eq_total]
  have exchanged := Table.total_modify
    (fun item : BackupRecord => if item.deletedAt.isNone then 1 else 0) stored
    fun item => { item with deletedAt := some now, status := .deleted }
  simpa [active] using exchanged

theorem activeCount_deleteCandidates {candidates : List Nat} :
    ∀ {store : BackupStore}, (deleteCandidates newestValid now candidates store).2 = true →
      (deleteCandidates newestValid now candidates store).1.activeCount + candidates.length =
        store.activeCount := by
  induction candidates with
  | nil => exact fun _ => rfl
  | cons id rest ih =>
    intro store completes
    have free := (deleteCandidates_completes_iff.mp completes).1 id (List.mem_cons_self ..)
    obtain ⟨item, stored, -, active, -⟩ := blocked_eq_false free
    rw [deleteCandidates_cons_of_free stored free] at completes ⊢
    have fewer := activeCount_deleteBackup now stored active
    have others := ih completes
    rw [List.length_cons]
    omega

theorem changed_of_free {rest : List Nat} (free : store.blocked newestValid id = false) :
    (deleteCandidates newestValid now (id :: rest) store).1.backups ≠ store.backups := by
  obtain ⟨item, stored, -, active, -⟩ := blocked_eq_false free
  intro same
  have read : (deleteCandidates newestValid now (id :: rest) store).1.backups.get? id =
      some { item with deletedAt := some now, status := .deleted } := by
    rw [deleteCandidates_cons_of_free stored free, get?_deleteCandidates_of_blocked]
    · unfold BackupStore.deleteBackup
      rw [Table.get?_modify_self, stored, Option.map_some]
    · rw [blocked_deleteBackup newestValid _ stored, decide_eq_true rfl, Bool.true_or]
  rw [same, stored, Option.some.injEq] at read
  rw [read] at active
  cases active

end Deletions

/-- **Backup retention.** After every sequence of calls, an apply is all or nothing and keeps
what it must keep if and only if it may be made. -/
theorem backup_retention_apply (config : BackupConfig) (start : BackupStore)
    (calls : List TimedBackupCall) (payload : RetentionApply) (now : Instant) :
    (final (BackupStore.next config) start calls).AppliesSafely config payload now ↔
      (final (BackupStore.next config) start calls).MayApply config payload := by
  generalize final (BackupStore.next config) start calls = store
  unfold BackupStore.AppliesSafely BackupStore.MayApply backupRetentionApply
  dsimp only
  cases matched : store.matchedPreview payload with
  | none =>
    refine iff_of_true ⟨fun _ => ⟨rfl, rfl⟩, fun applied => ?_⟩ (.inl rfl)
    cases applied
  | some key =>
    have completes : (deleteCandidates store.newestValid now payload.candidateIds store).2 = true ↔
        _ := deleteCandidates_completes_iff
    have keeps : ∀ id, store.blocked store.newestValid id = true →
        (deleteCandidates store.newestValid now payload.candidateIds store).1.backups.get? id =
          store.backups.get? id := fun id => get?_deleteCandidates_of_blocked
    have fewer : (deleteCandidates store.newestValid now payload.candidateIds store).2 = true →
        (deleteCandidates store.newestValid now payload.candidateIds store).1.activeCount +
          payload.candidateIds.length = store.activeCount := activeCount_deleteCandidates
    have nothing : (deleteCandidates store.newestValid now payload.candidateIds store).1.backups =
        store.backups → ∀ id, payload.candidateIds.head? = some id →
          store.blocked store.newestValid id = true := by
      intro same id first
      obtain ⟨rest, listed⟩ := List.head?_eq_some_iff.mp first
      by_contra free
      rw [listed] at same
      exact changed_of_free (Bool.eq_false_iff.mpr free) same
    have untouched : ∀ id, payload.candidateIds.head? = some id →
        store.blocked store.newestValid id = true →
          deleteCandidates store.newestValid now payload.candidateIds store = (store, false) := by
      intro id first blocked
      obtain ⟨rest, listed⟩ := List.head?_eq_some_iff.mp first
      rw [listed]
      exact deleteCandidates_cons_of_blocked blocked
    rcases result : deleteCandidates store.newestValid now payload.candidateIds store with
      ⟨after, done⟩
    rw [result] at completes keeps fewer nothing untouched
    cases done with
    | true =>
      have all := completes.mp rfl
      have count := fewer rfl
      constructor
      · rintro ⟨-, safely⟩
        refine .inr (.inr ⟨all.1, all.2, ?_⟩)
        have enough := (safely rfl).1
        unfold BackupStore.activeCount at enough count ⊢
        dsimp only at enough count
        omega
      · rintro (missing | ⟨id, first, blocked⟩ | ⟨-, -, room⟩)
        · cases missing
        · cases (Prod.mk.inj (untouched id first blocked)).2
        · refine ⟨fun refused => (by cases refused), fun _ => ⟨fun enough => ?_, ?_, ?_⟩⟩
          · unfold BackupStore.activeCount at enough room count ⊢
            dsimp only at count ⊢
            omega
          · intro id item stored guarded
            refine (keeps id ?_).trans stored
            unfold BackupStore.blocked
            rw [stored]
            simp [guarded]
          · intro id newest
            refine keeps id ?_
            unfold BackupStore.blocked
            split
            · rfl
            · simp [newest]
    | false =>
      constructor
      · rintro ⟨unchanged, -⟩
        have same := nothing (unchanged rfl).1
        cases listed : payload.candidateIds.head? with
        | none =>
          rw [List.head?_eq_none_iff] at listed
          have empty := completes.mpr (by rw [listed]; simp)
          cases empty
        | some id => exact .inr (.inl ⟨id, rfl, same id listed⟩)
      · rintro (missing | ⟨id, first, blocked⟩ | ⟨free, distinct, -⟩)
        · cases missing
        · obtain ⟨rfl, -⟩ := Prod.mk.inj (untouched id first blocked)
          exact ⟨fun _ => ⟨rfl, rfl⟩, fun applied => by cases applied⟩
        · cases completes.mpr ⟨free, distinct⟩

/-! ## An apply that stops half-way -/

/-- One backup too many is kept, and one at least. -/
def tightRetention : BackupConfig where
  backupMaxCount := 1
  backupMaxAgeDays := 90
  backupMinKeep := 1
  isoformat _ := "2026-01-01T00:15:00"

/-- Four backups are made, three of them are listed by a preview, and one of these is then
deleted by hand. -/
def halfWayCalls : List TimedBackupCall :=
  [⟨1, .create "backup-1.sqlite" true⟩, ⟨2, .create "backup-2.sqlite" true⟩,
    ⟨3, .create "backup-3.sqlite" true⟩, ⟨4, .create "backup-4.sqlite" true⟩,
    ⟨5, .preview "token"⟩, ⟨6, .delete 2⟩]

/-- The apply of that preview. -/
def halfWayApply : RetentionApply := ⟨[3, 2, 1], "token", "DELETE PREVIEWED BACKUPS"⟩

/-- A store without backups. -/
def emptyBackups : BackupStore := ⟨Table.empty, [], Table.empty⟩

/-- **A refused apply has deleted the backups before the one it stopped at.** -/
theorem refused_apply_deletes :
    (backupRetentionApply (final (BackupStore.next tightRetention) emptyBackups halfWayCalls)
        halfWayApply 7).2 = false ∧
      "backup-3.sqlite" ∈
        (final (BackupStore.next tightRetention) emptyBackups halfWayCalls).files ∧
      "backup-3.sqlite" ∉ (backupRetentionApply
        (final (BackupStore.next tightRetention) emptyBackups halfWayCalls)
          halfWayApply 7).1.files ∧
      ¬ (final (BackupStore.next tightRetention) emptyBackups halfWayCalls).AppliesSafely
        tightRetention halfWayApply 7 := by
  have refused : (backupRetentionApply (final (BackupStore.next tightRetention) emptyBackups
      halfWayCalls) halfWayApply 7).2 = false := by decide +kernel
  have before : "backup-3.sqlite" ∈
      (final (BackupStore.next tightRetention) emptyBackups halfWayCalls).files := by decide +kernel
  have after : "backup-3.sqlite" ∉ (backupRetentionApply (final (BackupStore.next tightRetention)
      emptyBackups halfWayCalls) halfWayApply 7).1.files := by decide +kernel
  refine ⟨refused, before, after, fun safely => after ?_⟩
  rw [(safely.1 refused).2]
  exact before

/-!
## Which backups the retention lists

The preview goes from the newest backup to the oldest and lists a backup that may go while
there are too many, and after that only an expired one. So the backups that go for their
number are the newest of those that may go, and not the oldest ones
(`retention_lists_newest`). The order is the right one exactly when there is nothing to
choose (`retention_oldest_first_iff`).
-/

/-! ## What may go, and what stays -/

/-- The backups that retention may list, newest first: not among the first ones, not
protected and not the newest valid one. -/
def BackupStore.removable (config : BackupConfig) (store : BackupStore) :
    List (Nat × BackupRecord) :=
  (store.active.drop config.backupMinKeep).filter fun row =>
    !(row.2.isProtected || store.newestValid == some row.1)

/-- The time before which a backup is expired. -/
def BackupConfig.cutoff (config : BackupConfig) (now : Instant) : Instant :=
  now - days config.backupMaxAgeDays

/-- How many backups there are too many. -/
def BackupStore.excess (config : BackupConfig) (store : BackupStore) : Nat :=
  store.active.length - config.backupMaxCount

/-- The backups that a preview does not list. -/
def BackupStore.remaining (store : BackupStore) (preview : RetentionPreview) :
    List (Nat × BackupRecord) :=
  store.active.filter fun row => row.1 ∉ preview.candidateIds

/-- Retention deletes the oldest backups first, as many as it must and no more. -/
structure BackupStore.DeletesOldestFirst (config : BackupConfig) (store : BackupStore)
    (preview : RetentionPreview) (now : Instant) : Prop where
  /-- With a listed backup, each older one that may go is listed. -/
  oldest : ∀ row ∈ store.active, row.1 ∈ preview.candidateIds →
    ∀ other ∈ store.removable config, other.2.createdAt < row.2.createdAt →
      other.1 ∈ preview.candidateIds
  /-- What remains is within the count, or may not go. -/
  enough : (store.remaining preview).length ≤ max config.backupMaxCount
    (store.active.length - (store.removable config).length)
  /-- Without a listed backup that is younger than the maximum age, too many would remain. -/
  needed : ∀ row ∈ store.active, row.1 ∈ preview.candidateIds →
    config.cutoff now < row.2.createdAt →
      config.backupMaxCount < (store.remaining preview).length + 1

/-- There is nothing to choose: there are not too many backups, or none that may go is young,
or all of these must go, or they are all young and of one age. -/
def BackupStore.NothingToChoose (config : BackupConfig) (store : BackupStore)
    (now : Instant) : Prop :=
  store.excess config = 0 ∨
    (∀ row ∈ store.removable config, row.2.createdAt ≤ config.cutoff now) ∨
    (store.removable config).length ≤ store.excess config ∨
    ((∀ row ∈ store.removable config, config.cutoff now ≤ row.2.createdAt) ∧
      ∀ row ∈ store.removable config, ∀ other ∈ store.removable config,
        row.2.createdAt = other.2.createdAt)

/-! ## What the loop lists -/

/-- Of the backups that may go, the first ones go for the number and the expired ones for
their age. -/
def listed (cutoff : Instant) (excess : Nat) (rows : List (Nat × BackupRecord)) :
    List (Nat × BackupRecord) :=
  rows.take excess ++ (rows.drop excess).filter fun row => row.2.createdAt < cutoff

theorem listed_nil (cutoff : Instant) (excess : Nat) : listed cutoff excess [] = [] := by
  simp [listed]

theorem listed_cons (cutoff : Instant) (excess : Nat) (row : Nat × BackupRecord)
    (rows : List (Nat × BackupRecord)) :
    listed cutoff excess (row :: rows) =
      if 0 < excess ∨ row.2.createdAt < cutoff then row :: listed cutoff (excess - 1) rows
      else listed cutoff (excess - 1) rows := by
  cases excess with
  | zero =>
    by_cases expired : row.2.createdAt < cutoff
    · simp [listed, expired]
    · simp [listed, expired]
  | succ more => simp [listed]

theorem listed_sublist (cutoff : Instant) (excess : Nat) (rows : List (Nat × BackupRecord)) :
    (listed cutoff excess rows).Sublist rows := by
  have joined : (listed cutoff excess rows).Sublist (rows.take excess ++ rows.drop excess) :=
    List.Sublist.append (List.Sublist.refl _) List.filter_sublist
  rwa [List.take_append_drop] at joined

section Loop

variable (config : BackupConfig) (total : Nat) (cutoff : Instant) (newestValid : Option Nat)

/-- **The loop lists what is too many or expired** among the rows that it does not pass by. -/
theorem candidatesFrom_eq (rows : List (Nat × BackupRecord)) :
    ∀ (index : Nat) (candidates : List Nat),
      candidatesFrom config total cutoff newestValid index candidates rows =
        candidates ++ (listed cutoff (total - config.backupMaxCount - candidates.length)
          ((rows.drop (config.backupMinKeep - index)).filter fun row =>
            !(row.2.isProtected || newestValid == some row.1))).map Prod.fst := by
  induction rows with
  | nil =>
    intro index candidates
    simp [candidatesFrom, listed_nil]
  | cons row rest ih =>
    intro index candidates
    obtain ⟨id, item⟩ := row
    rw [candidatesFrom, ih]
    by_cases early : index < config.backupMinKeep
    · -- one of the first backups
      obtain ⟨more, further⟩ : ∃ more, config.backupMinKeep - index = more + 1 :=
        ⟨config.backupMinKeep - (index + 1), by omega⟩
      have next : config.backupMinKeep - (index + 1) = more := by omega
      simp [early, further, next]
    · have here : config.backupMinKeep - index = 0 := by omega
      have next : config.backupMinKeep - (index + 1) = 0 := by omega
      rw [here, next, List.drop_zero, List.drop_zero]
      by_cases exempt : (item.isProtected || newestValid == some id) = true
      · have passed : (index < config.backupMinKeep || item.isProtected ||
            newestValid == some id) = true := by
          rw [Bool.or_assoc, exempt, Bool.or_true]
        rw [if_pos passed, List.filter_cons_of_neg (by simp [exempt])]
      · rw [Bool.not_eq_true] at exempt
        have looked : ¬ (index < config.backupMinKeep || item.isProtected ||
            newestValid == some id) = true := by
          simp [exempt, early]
        rw [if_neg looked, List.filter_cons_of_pos (by simp [exempt]), listed_cons]
        have tooMany : config.backupMaxCount < total - candidates.length ↔
            0 < total - config.backupMaxCount - candidates.length := by omega
        by_cases chosen : 0 < total - config.backupMaxCount - candidates.length ∨
            item.createdAt < cutoff
        · rw [if_pos chosen, if_pos (by simpa [tooMany] using chosen), List.length_append,
            List.length_singleton, List.map_cons, List.append_assoc, List.singleton_append,
            Nat.sub_sub]
          simp only [Nat.sub_sub, Nat.add_assoc]
        · have none : total - config.backupMaxCount - candidates.length = 0 := by omega
          rw [if_neg chosen, if_neg (by simpa [tooMany] using chosen), none]

end Loop

section Preview

variable {config : BackupConfig} {store : BackupStore} {token : String} {now : Instant}

theorem candidateIds_eq :
    (store.retentionPreview config token now).candidateIds =
      (listed (config.cutoff now) (store.excess config) (store.removable config)).map
        Prod.fst := by
  have run := candidatesFrom_eq config store.active.length (config.cutoff now) store.newestValid
    store.active 0 []
  rwa [List.nil_append, List.length_nil, Nat.sub_zero, Nat.sub_zero] at run

theorem nodup_keys_active (store : BackupStore) : (store.active.map Prod.fst).Nodup := by
  have sorted := List.perm_insertionSort (fun first second : Nat × BackupRecord =>
    second.2.createdAt ≤ first.2.createdAt)
    (store.backups.rows.filter fun row => row.2.deletedAt.isNone)
  refine (sorted.map Prod.fst).nodup_iff.mpr ?_
  exact store.backups.keys_nodup.sublist (List.filter_sublist.map Prod.fst)

theorem removable_sublist (config : BackupConfig) (store : BackupStore) :
    (store.removable config).Sublist store.active :=
  List.filter_sublist.trans (List.drop_sublist _ _)

theorem pairwise_removable (config : BackupConfig) (store : BackupStore) :
    (store.removable config).Pairwise fun first second =>
      second.2.createdAt ≤ first.2.createdAt := by
  refine List.Pairwise.sublist (removable_sublist config store) ?_
  have : Std.Total fun first second : Nat × BackupRecord =>
      second.2.createdAt ≤ first.2.createdAt := ⟨fun first second => le_total _ _⟩
  have : IsTrans (Nat × BackupRecord) fun first second =>
      second.2.createdAt ≤ first.2.createdAt := ⟨fun _ _ _ first second => second.trans first⟩
  exact List.pairwise_insertionSort _ _

theorem nodup_removable (config : BackupConfig) (store : BackupStore) :
    (store.removable config).Nodup :=
  (List.Nodup.of_map _ (nodup_keys_active store)).sublist (removable_sublist config store)

theorem mem_candidateIds_iff {row : Nat × BackupRecord} (active : row ∈ store.active) :
    row.1 ∈ (store.retentionPreview config token now).candidateIds ↔
      row ∈ listed (config.cutoff now) (store.excess config) (store.removable config) := by
  rw [candidateIds_eq, List.mem_map]
  constructor
  · rintro ⟨other, member, same⟩
    have there := (removable_sublist config store).subset ((listed_sublist _ _ _).subset member)
    rwa [← List.inj_on_of_nodup_map (nodup_keys_active store) there active same]
  · exact fun member => ⟨row, member, rfl⟩

theorem length_remaining (config : BackupConfig) (store : BackupStore) (token : String)
    (now : Instant) :
    (store.remaining (store.retentionPreview config token now)).length +
        (listed (config.cutoff now) (store.excess config) (store.removable config)).length =
      store.active.length := by
  generalize same : listed (config.cutoff now) (store.excess config) (store.removable config) =
    gone
  have within : gone.Sublist store.active := by
    rw [← same]
    exact (listed_sublist _ _ _).trans (removable_sublist config store)
  have distinct := List.Nodup.of_map _ (nodup_keys_active store)
  have found : (store.active.filter fun row => decide (row ∈ gone)).Perm gone := by
    refine (List.perm_ext_iff_of_nodup (distinct.filter _) (distinct.sublist within)).mpr ?_
    intro row
    rw [List.mem_filter, decide_eq_true_eq]
    exact ⟨And.right, fun member => ⟨within.subset member, member⟩⟩
  have left : store.remaining (store.retentionPreview config token now) =
      store.active.filter fun row => !decide (row ∈ gone) := by
    refine List.filter_congr fun row active => ?_
    rw [decide_eq_decide.mpr (not_congr (mem_candidateIds_iff active)), decide_not, same]
  rw [left, List.length_eq_length_filter_add (l := store.active) fun row => decide (row ∈ gone),
    found.length_eq, Nat.add_comm]

/-! ## The order of the list -/

section Order

variable {cutoff : Instant} {excess : Nat} {rows : List (Nat × BackupRecord)}

theorem mem_listed_of_expired {row : Nat × BackupRecord} (member : row ∈ rows)
    (expired : row.2.createdAt < cutoff) : row ∈ listed cutoff excess rows := by
  rw [← List.take_append_drop excess rows, List.mem_append] at member
  refine List.mem_append.mpr (member.imp id fun later => ?_)
  exact List.mem_filter.mpr ⟨later, decide_eq_true expired⟩

theorem listed_of_length_le (few : rows.length ≤ excess) : listed cutoff excess rows = rows := by
  rw [listed, List.take_of_length_le few, List.drop_of_length_le few, List.filter_nil,
    List.append_nil]

theorem listed_of_young (young : ∀ row ∈ rows, cutoff ≤ row.2.createdAt) :
    listed cutoff excess rows = rows.take excess := by
  rw [listed, List.filter_eq_nil_iff.mpr, List.append_nil]
  intro row member
  rw [decide_eq_true_eq, not_lt]
  exact young row (List.mem_of_mem_drop member)

theorem min_le_length_listed (cutoff : Instant) (excess : Nat) (rows : List (Nat × BackupRecord)) :
    min excess rows.length ≤ (listed cutoff excess rows).length := by
  rw [listed, List.length_append, List.length_take]
  exact Nat.le_add_right _ _

end Order

theorem listed_of_candidate {row : Nat × BackupRecord} (active : row ∈ store.active)
    (candidate : row.1 ∈ (store.retentionPreview config token now).candidateIds) :
    row ∈ listed (config.cutoff now) (store.excess config) (store.removable config) ∧
      row ∈ store.removable config := by
  have member := (mem_candidateIds_iff active).mp candidate
  exact ⟨member, (listed_sublist _ _ _).subset member⟩

theorem candidate_of_listed (token : String) (now : Instant) {row : Nat × BackupRecord}
    (removable : row ∈ store.removable config)
    (member : row ∈ listed (config.cutoff now) (store.excess config) (store.removable config)) :
    row.1 ∈ (store.retentionPreview config token now).candidateIds :=
  (mem_candidateIds_iff ((removable_sublist config store).subset removable)).mpr member

theorem length_remaining_le :
    (store.remaining (store.retentionPreview config token now)).length ≤
      max config.backupMaxCount (store.active.length - (store.removable config).length) := by
  have all := length_remaining config store token now
  have many := min_le_length_listed (config.cutoff now) (store.excess config)
    (store.removable config)
  unfold BackupStore.excess at all many
  omega

/-- With an expired backup after the ones that go for their number, a young one of these need
not go. -/
theorem drop_not_expired
    (order : store.DeletesOldestFirst config (store.retentionPreview config token now) now)
    {newest : Nat × BackupRecord} (tooMany : 0 < store.excess config)
    (some : store.excess config < (store.removable config).length)
    (first : newest ∈ (store.removable config).take (store.excess config))
    (recent : config.cutoff now < newest.2.createdAt) :
    (((store.removable config).drop (store.excess config)).filter fun row =>
      row.2.createdAt < config.cutoff now) = [] := by
  have removable := List.mem_of_mem_take first
  have active := (removable_sublist config store).subset removable
  have candidate := candidate_of_listed token now removable
    (List.mem_append_left _ first)
  have needed := order.needed newest active candidate recent
  have all := length_remaining config store token now
  rw [listed, List.length_append, List.length_take] at all
  unfold BackupStore.excess at tooMany some all ⊢
  refine List.eq_nil_of_length_eq_zero ?_
  omega

/-- **The newest backup that may go is listed although another one stays**: then all of them
are of its age. -/
theorem createdAt_of_oldest_first
    (order : store.DeletesOldestFirst config (store.retentionPreview config token now) now)
    (tooMany : 0 < store.excess config)
    (some : store.excess config < (store.removable config).length)
    {newest : Nat × BackupRecord} {rest : List (Nat × BackupRecord)}
    (sorted : store.removable config = newest :: rest)
    (recent : config.cutoff now < newest.2.createdAt)
    {row : Nat × BackupRecord} (member : row ∈ store.removable config) :
    row.2.createdAt = newest.2.createdAt := by
  have first : newest ∈ (store.removable config).take (store.excess config) := by
    rw [sorted, List.take_cons tooMany]
    exact List.mem_cons_self ..
  have unexpired := drop_not_expired order tooMany some first recent
  have descending := pairwise_removable config store
  have distinct := nodup_removable config store
  have newestFirst : ∀ other ∈ store.removable config,
      other.2.createdAt ≤ newest.2.createdAt := by
    rw [sorted, List.pairwise_cons] at descending
    rw [sorted]
    exact List.forall_mem_cons.mpr ⟨le_rfl, descending.1⟩
  have removable := List.mem_of_mem_take first
  have candidate := candidate_of_listed token now removable
    (List.mem_append_left _ first)
  have stays : ∀ other ∈ (store.removable config).drop (store.excess config),
      newest.2.createdAt ≤ other.2.createdAt := by
    intro other later
    have otherRemovable := List.mem_of_mem_drop later
    rw [← not_lt]
    intro older
    have marked := (listed_of_candidate ((removable_sublist config store).subset otherRemovable)
      (order.oldest newest ((removable_sublist config store).subset removable) candidate other
        otherRemovable older)).1
    rw [listed, unexpired, List.append_nil] at marked
    exact List.disjoint_take_drop distinct le_rfl marked later
  rw [← List.take_append_drop (store.excess config) (store.removable config)] at descending member
  obtain ⟨-, -, across⟩ := List.pairwise_append.mp descending
  obtain ⟨last, tail, later⟩ : ∃ last tail,
      (store.removable config).drop (store.excess config) = last :: tail := by
    refine List.exists_cons_of_ne_nil fun nothing => ?_
    rw [List.drop_eq_nil_iff] at nothing
    omega
  have lastMember : last ∈ (store.removable config).drop (store.excess config) := by
    rw [later]
    exact List.mem_cons_self ..
  rcases List.mem_append.mp member with early | late
  · exact le_antisymm (newestFirst row (List.mem_of_mem_take early))
      ((stays last lastMember).trans (across row early last lastMember))
  · exact le_antisymm (newestFirst row (List.mem_of_mem_drop late)) (stays row late)

/-- **The order of backup retention.** For every list of backups and every configuration, a
preview deletes the oldest ones first, as many as it must and no more, if and only if there
is nothing to choose. -/
theorem retention_oldest_first_iff (config : BackupConfig) (store : BackupStore) (token : String)
    (now : Instant) :
    store.DeletesOldestFirst config (store.retentionPreview config token now) now ↔
      store.NothingToChoose config now := by
  constructor
  · intro order
    by_contra choice
    simp only [BackupStore.NothingToChoose, not_or, not_forall, not_le] at choice
    obtain ⟨tooMany, ⟨young, removable, recent⟩, some, mixed⟩ := choice
    obtain ⟨newest, rest, sorted⟩ := List.exists_cons_of_ne_nil (List.ne_nil_of_mem removable)
    have newestRecent : config.cutoff now < newest.2.createdAt := by
      have descending := pairwise_removable config store
      rw [sorted, List.pairwise_cons] at descending
      rw [sorted] at removable
      rcases List.mem_cons.mp removable with rfl | later
      · exact recent
      · exact recent.trans_le (descending.1 young later)
    have age : ∀ row ∈ store.removable config, row.2.createdAt = newest.2.createdAt := fun _ =>
      createdAt_of_oldest_first order (Nat.pos_of_ne_zero tooMany) some sorted newestRecent
    refine mixed ⟨fun row member => ?_, fun row member other otherMember => ?_⟩
    · rw [age row member]
      exact newestRecent.le
    · rw [age row member, age other otherMember]
  · intro nothing
    refine ⟨?_, length_remaining_le, ?_⟩
    · intro row active candidate other removable older
      obtain ⟨member, rowRemovable⟩ := listed_of_candidate active candidate
      refine candidate_of_listed token now removable ?_
      rcases nothing with none | old | few | ⟨-, same⟩
      · rw [none] at member ⊢
        rw [listed, List.take_zero, List.nil_append, List.drop_zero, List.mem_filter,
          decide_eq_true_eq] at member
        exact mem_listed_of_expired removable (older.trans member.2)
      · exact mem_listed_of_expired removable (older.trans_le (old row rowRemovable))
      · rwa [listed_of_length_le few]
      · exact absurd (same other removable row rowRemovable) older.ne
    · intro row active candidate recent
      obtain ⟨member, removable⟩ := listed_of_candidate active candidate
      have all := length_remaining config store token now
      rcases nothing with none | old | few | ⟨young, -⟩
      · rw [none, listed, List.take_zero, List.nil_append, List.drop_zero, List.mem_filter,
          decide_eq_true_eq] at member
        exact absurd (member.2.trans recent) (lt_irrefl _)
      · exact absurd recent (not_lt.mpr (old row removable))
      · have some : 0 < (store.removable config).length := List.length_pos_of_mem removable
        rw [listed_of_length_le few] at all
        unfold BackupStore.excess at few
        omega
      · rw [listed_of_young young] at all member
        have some : 0 < store.excess config := by
          refine Nat.pos_of_ne_zero fun none => ?_
          rw [none, List.take_zero] at member
          cases member
        rw [List.length_take] at all
        unfold BackupStore.excess at some all
        omega

end Preview

/-! ## The newest one goes -/

/-- Five backups, one after the other and within the maximum age. -/
def fiveBackups : List TimedBackupCall :=
  [⟨0, .create "backup-1.sqlite" true⟩, ⟨3600, .create "backup-2.sqlite" true⟩,
    ⟨7200, .create "backup-3.sqlite" true⟩, ⟨10800, .create "backup-4.sqlite" true⟩,
    ⟨14400, .create "backup-5.sqlite" true⟩]

/-- Four backups are kept, the newest one at least. -/
def fourKept : BackupConfig := { tightRetention with backupMaxCount := 4 }

/-- **With one backup too many, the second newest one is listed** and the oldest one stays. -/
theorem retention_lists_newest :
    ((final (BackupStore.next fourKept) emptyBackups fiveBackups).retentionPreview fourKept
        "token" 18000).candidateIds = [4] ∧
      ¬ (final (BackupStore.next fourKept) emptyBackups fiveBackups).DeletesOldestFirst fourKept
        ((final (BackupStore.next fourKept) emptyBackups fiveBackups).retentionPreview fourKept
          "token" 18000) 18000 := by
  generalize run : final (BackupStore.next fourKept) emptyBackups fiveBackups = store
  have listed : (store.retentionPreview fourKept "token" 18000).candidateIds = [4] := by
    subst run
    decide +kernel
  have kept : ∃ row ∈ store.active, row.1 = 4 ∧ ∃ other ∈ store.removable fourKept,
      other.2.createdAt < row.2.createdAt ∧ other.1 ≠ 4 := by
    subst run
    decide +kernel
  refine ⟨listed, fun order => ?_⟩
  obtain ⟨row, active, four, other, removable, older, another⟩ := kept
  have marked := order.oldest row active (by rw [listed, four]; exact List.mem_singleton_self 4)
    other removable older
  rw [listed, List.mem_singleton] at marked
  exact another marked

end ThreatScope.Operations
