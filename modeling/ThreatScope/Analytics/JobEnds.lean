import ThreatScope.Analytics.Jobs
import ThreatScope.Analytics.SuppressionScopes

/-!
# How jobs end

A job is claimed at most once in every run, because nothing makes a job queued again. It may
end more than once: a session that has read a job before it ended writes its own end over the
one that is there. And it may be succeeded without its work: the dispatcher reports success for
the seven types that it does not carry out. A run ends its jobs once exactly when no statement
does either (`jobs_end_once_iff`).
-/

set_option autoImplicit false

namespace ThreatScope.Analytics

open Library AccessControl

/-! ## What a run owes its jobs -/

/-- The end of a job is the same. -/
structure SameEnd (job later : AnalyticsJob) : Prop where
  status : later.status = job.status
  result : later.result = job.result
  completedAt : later.completedAt = job.completedAt

/-- The jobs that have ended keep their ends. -/
def Frozen (before after : JobStore) : Prop :=
  ∀ itemId job, before.jobs.get? itemId = some job → job.HasEnded →
    ∃ later, after.jobs.get? itemId = some later ∧ SameEnd job later

/-- The work of a job has been carried out: its window has been scored or its feature
extracted, or the record of its backtest exists. -/
def JobStore.CarriedOut (store : JobStore) (itemId : Nat) (jobType : JobType) : Prop :=
  (jobType.isDispatched = true ∧ itemId ∈ store.scored) ∨
    (jobType = .backtest ∧ itemId ∈ store.backtests)

/-- A job is succeeded only if its work has been carried out. -/
def JobStore.Earned (store : JobStore) : Prop :=
  ∀ itemId job, store.jobs.get? itemId = some job → job.status = .succeeded →
    store.CarriedOut itemId job.jobType

/-- The job that a transition dispatches. -/
def dispatched? (move : Transition JobStore (Nat × JobCall)) : Option Nat :=
  move.before.claimed? move.input

/-- A run ends each job once. -/
structure EndsOnce (env : AnalyticsRuntime) (calls : List (Nat × JobCall)) : Prop where
  frozen : ∀ move ∈ trace (JobStore.next env) .empty calls,
    Frozen move.before move.after
  /-- No job is dispatched twice. -/
  once : ((trace (JobStore.next env) .empty calls).filterMap dispatched?).Nodup
  earned : ∀ move ∈ trace (JobStore.next env) .empty calls, move.after.Earned

/-! ## When a statement ends its job properly -/

/-- A write leaves the end of a job: each of its columns is one that the session has not
changed, or has the value already. -/
structure JobWrite.Again (write : JobWrite) (job : AnalyticsJob) : Prop where
  status : write.new.status = write.seen.status ∨ write.new.status = job.status
  result : write.new.result = write.seen.result ∨ write.new.result = job.result
  completedAt : write.new.completedAt = write.seen.completedAt ∨
    write.new.completedAt = job.completedAt

/-- A write makes a job succeed. -/
structure JobWrite.Succeeds (write : JobWrite) (job : AnalyticsJob) : Prop where
  new : write.new.status = .succeeded
  seen : write.seen.status ≠ .succeeded
  current : job.status ≠ .succeeded

/-- A session may report success for a type: a worker for the two that it carries out,
`run_backtest` for a backtest, and both for a job whose work has been carried out. -/
def JobStore.MaySucceed (store : JobStore) (session itemId : Nat) (jobType : JobType) : Prop :=
  match store.activity session with
  | .backtesting _ _ => jobType = .backtest ∨ store.CarriedOut itemId jobType
  | _ => jobType.isDispatched = true ∨ store.CarriedOut itemId jobType

/-- A statement ends only jobs that have not ended, and reports only work that is carried
out. -/
structure EndsProperly (store : JobStore) (input : Nat × JobCall) : Prop where
  fresh : ∀ itemId job write, store.jobs.get? itemId = some job →
    writeOf (store.writes input) itemId = some write → job.HasEnded → write.Again job
  real : ∀ itemId job write, store.jobs.get? itemId = some job →
    writeOf (store.writes input) itemId = some write → write.Succeeds job →
    store.MaySucceed input.1 itemId job.jobType

theorem endsProperly_of_silent {store : JobStore} {input : Nat × JobCall}
    (silent : store.writes input = []) : EndsProperly store input := by
  constructor
  all_goals
    intro itemId job write _ found
    rw [silent] at found
    cases found

/-! ## One statement -/

section Flush

variable {store : JobStore} {writes : List JobWrite}

theorem written_eq_current_iff {α : Type} [DecidableEq α] {seen new current : α} :
    written seen new current = current ↔ new = seen ∨ new = current := by
  unfold written
  split
  · rename_i same
    exact ⟨fun _ => .inl same, fun _ => rfl⟩
  · rename_i changed
    exact ⟨.inr, fun either => either.resolve_left changed⟩

theorem sameEnd_flush_iff {write : JobWrite} {job : AnalyticsJob} :
    SameEnd job (write.seen.flush write.new job) ↔ write.Again job :=
  ⟨fun same => ⟨written_eq_current_iff.mp same.status, written_eq_current_iff.mp same.result,
      written_eq_current_iff.mp same.completedAt⟩,
    fun again => ⟨written_eq_current_iff.mpr again.status, written_eq_current_iff.mpr again.result,
      written_eq_current_iff.mpr again.completedAt⟩⟩

theorem frozen_flush_iff :
    Frozen store (store.flush writes) ↔
      ∀ itemId job write, store.jobs.get? itemId = some job →
        writeOf writes itemId = some write → job.HasEnded → write.Again job := by
  constructor
  · intro frozen itemId job write stored found ended
    obtain ⟨later, alsoStored, same⟩ := frozen itemId job stored ended
    rw [get?_flush, stored, Option.map_some, found] at alsoStored
    obtain rfl := Option.some.inj alsoStored
    exact sameEnd_flush_iff.mp same
  · intro again itemId job stored ended
    rw [get?_flush, stored, Option.map_some]
    refine ⟨_, rfl, ?_⟩
    cases found : writeOf writes itemId with
    | none => exact ⟨rfl, rfl, rfl⟩
    | some write => exact sameEnd_flush_iff.mpr (again itemId job write stored found ended)

theorem succeeded_flush_iff {write : JobWrite} {job : AnalyticsJob}
    (current : job.status ≠ .succeeded) :
    (write.seen.flush write.new job).status = .succeeded ↔ write.Succeeds job := by
  change written write.seen.status write.new.status job.status = .succeeded ↔ _
  unfold written
  split
  · rename_i same
    exact ⟨fun wrong => absurd wrong current,
      fun succeeds => absurd (same.symm.trans succeeds.new) succeeds.seen⟩
  · rename_i changed
    exact ⟨fun new => ⟨new, fun seen => changed (new.trans seen.symm), current⟩,
      fun succeeds => succeeds.new⟩

theorem JobStore.CarriedOut.mono {after : JobStore} {itemId : Nat} {jobType : JobType}
    (carried : store.CarriedOut itemId jobType) (grows : Grows store after) :
    after.CarriedOut itemId jobType :=
  carried.imp (fun done => ⟨done.1, grows.scored _ done.2⟩)
    fun recorded => ⟨recorded.1, grows.backtests _ recorded.2⟩

theorem earned_flush_iff (earned : store.Earned) {after : JobStore}
    (grows : Grows store after) (jobs : after.jobs = (store.flush writes).jobs) :
    after.Earned ↔ ∀ itemId job write, store.jobs.get? itemId = some job →
      writeOf writes itemId = some write → write.Succeeds job →
      after.CarriedOut itemId job.jobType := by
  constructor
  · intro later itemId job write stored found succeeds
    have flushed : after.jobs.get? itemId = some (write.seen.flush write.new job) := by
      rw [jobs, get?_flush, stored, Option.map_some, found]
    exact later itemId (write.seen.flush write.new job) flushed
      ((succeeded_flush_iff succeeds.current).mpr succeeds)
  · intro real itemId later stored succeeded
    rw [jobs, get?_flush] at stored
    obtain ⟨job, alsoStored, rfl⟩ := Option.map_eq_some_iff.mp stored
    cases found : writeOf writes itemId with
    | none =>
      rw [found] at succeeded
      exact (earned itemId job alsoStored succeeded).mono grows
    | some write =>
      rw [found] at succeeded
      by_cases current : job.status = .succeeded
      · exact (earned itemId job alsoStored current).mono grows
      · exact real itemId job write alsoStored found
          ((succeeded_flush_iff current).mp succeeded)

end Flush

section Step

variable {store : JobStore} {input : Nat × JobCall}

theorem finished_hasEnded (seen : AnalyticsJob) (outcome : Except String String) (now : Instant) :
    (seen.finished outcome now).HasEnded := by
  unfold AnalyticsJob.finished
  split
  · exact List.mem_cons_of_mem _ (List.mem_cons_of_mem _ (List.mem_cons_self ..))
  · cases outcome with
    | ok result => exact List.mem_cons_self ..
    | error error => exact List.mem_cons_of_mem _ (List.mem_cons_self ..)

theorem hasEnded_of_writeOf {itemId : Nat} {write : JobWrite}
    (found : writeOf (store.writes input) itemId = some write) : write.new.HasEnded := by
  have member := List.mem_of_find?_eq_some found
  unfold JobStore.writes at member
  split at member
  · obtain ⟨item, -, rfl⟩ := List.mem_map.mp member
    exact List.mem_cons_of_mem _ (List.mem_cons_self ..)
  · obtain rfl := List.mem_singleton.mp member
    exact finished_hasEnded _ _ _
  · obtain rfl := List.mem_singleton.mp member
    exact List.mem_cons_of_mem _ (List.mem_cons_of_mem _ (List.mem_cons_self ..))
  · split at member
    · cases member
    · obtain rfl := List.mem_singleton.mp member
      exact List.mem_cons_self ..
  · cases member

theorem finishing_of_succeeds {itemId : Nat} {write : JobWrite} {job : AnalyticsJob}
    (found : writeOf (store.writes input) itemId = some write) (succeeds : write.Succeeds job)
    (worked : ∀ other seen, store.activity input.1 ≠ .backtesting other seen) :
    ∃ seen outcome ids, store.activity input.1 = .finishing itemId seen outcome ids ∧
      outcome.isOk = true := by
  unfold JobStore.writes at found
  split at found
  · have member := List.mem_of_find?_eq_some found
    obtain ⟨item, -, rfl⟩ := List.mem_map.mp member
    cases succeeds.new
  · rename_i here call
    obtain ⟨rfl, rfl⟩ := writeOf_singleton found
    refine ⟨_, _, _, here, ?_⟩
    have new := succeeds.new
    dsimp only at new
    unfold AnalyticsJob.finished at new
    split at new
    · cases new
    · split at new
      · rfl
      · cases new
  · obtain ⟨-, rfl⟩ := writeOf_singleton found
    cases succeeds.new
  · exact absurd (by assumption) (worked _ _)
  · cases found

theorem writeOf_backtesting {itemId other : Nat} {seen : AnalyticsJob} {write : JobWrite}
    (backtesting : store.activity input.1 = .backtesting itemId seen)
    (found : writeOf (store.writes input) other = some write) : other = itemId := by
  unfold JobStore.writes at found
  split at found
  · rename_i here _
    rw [backtesting] at here
    cases here
  · rename_i here _
    rw [backtesting] at here
    cases here
  · rename_i here _
    rw [backtesting] at here
    cases here
  · rename_i here _
    rw [backtesting] at here
    obtain ⟨rfl, rfl⟩ := Activity.backtesting.inj here
    split at found
    · cases found
    · exact (writeOf_singleton found).1
  · cases found

theorem frozen_of_jobs_eq {after : JobStore} (jobs : after.jobs = store.jobs) :
    Frozen store after :=
  fun _ job stored _ => ⟨job, jobs ▸ stored, rfl, rfl, rfl⟩

theorem earned_of_jobs_eq (earned : store.Earned) {after : JobStore}
    (jobs : after.jobs = store.jobs) (grows : Grows store after) : after.Earned :=
  fun itemId job stored succeeded => (earned itemId job (jobs ▸ stored) succeeded).mono grows

theorem frozen_insert (store : JobStore) (job : AnalyticsJob) :
    Frozen store { store with jobs := store.jobs.insert job } := by
  intro itemId row stored _
  refine ⟨row, ?_, rfl, rfl, rfl⟩
  exact (store.jobs.get?_insert_of_ne _ (Table.lt_nextKey_of_get? stored).ne).trans stored

theorem earned_insert (earned : store.Earned) {job : AnalyticsJob} (new : job.status = .queued) :
    ({ store with jobs := store.jobs.insert job } : JobStore).Earned := by
  intro itemId row stored succeeded
  dsimp only at stored
  rw [Table.get?_insert] at stored
  split at stored
  · obtain rfl := Option.some.inj stored
    rw [new] at succeeded
    cases succeeded
  · exact earned itemId row stored succeeded

section Claim

variable {itemId : Nat} {job new : AnalyticsJob}

theorem frozen_claim (stored : store.jobs.get? itemId = some job) (queued : job.status = .queued) :
    Frozen store { store with jobs := store.jobs.modify itemId fun _ => new } := by
  intro other row found ended
  have apart : other ≠ itemId := by
    rintro rfl
    obtain rfl := Option.some.inj (found.symm.trans stored)
    rw [AnalyticsJob.HasEnded, queued] at ended
    exact absurd ended (by decide)
  exact ⟨row, (store.jobs.get?_modify_of_ne _ apart).trans found, rfl, rfl, rfl⟩

theorem earned_claim (earned : store.Earned)
    (started : new.status = .running ∨ new.status = .cancelled) :
    ({ store with jobs := store.jobs.modify itemId fun _ => new } : JobStore).Earned := by
  intro other row stored succeeded
  dsimp only at stored
  rw [Table.get?_modify] at stored
  split at stored
  · obtain ⟨old, -, rfl⟩ := Option.map_eq_some_iff.mp stored
    rcases started with here | here <;> rw [here] at succeeded <;> cases succeeded
  · exact earned other row stored succeeded

end Claim

theorem maySucceed_iff {session itemId : Nat} {jobType : JobType}
    (worked : ∀ other seen, store.activity session ≠ .backtesting other seen) :
    store.MaySucceed session itemId jobType ↔
      jobType.isDispatched = true ∨ store.CarriedOut itemId jobType := by
  unfold JobStore.MaySucceed
  split
  · exact absurd (by assumption) (worked _ _)
  · rfl

/-- A worker that reports the success of a type that it carries out has done the work. -/
theorem Sound.carriedOut (sound : Sound store) {itemId : Nat} {write : JobWrite}
    {job : AnalyticsJob} (stored : store.jobs.get? itemId = some job)
    (found : writeOf (store.writes input) itemId = some write) (succeeds : write.Succeeds job)
    (worked : ∀ other seen, store.activity input.1 ≠ .backtesting other seen)
    (dispatched : job.jobType.isDispatched = true) : store.CarriedOut itemId job.jobType := by
  obtain ⟨seen, outcome, ids, finishing, fine⟩ := finishing_of_succeeds found succeeds worked
  have knows := sound input.1
  rw [finishing] at knows
  obtain ⟨⟨row, alsoStored, typed⟩, done⟩ := knows
  obtain rfl := Option.some.inj (stored.symm.trans alsoStored)
  exact .inl ⟨dispatched, done fine (typed ▸ dispatched)⟩

/-- **One statement** keeps the ends and earns its successes exactly when it ends its jobs
properly. -/
theorem ends_next_iff (sound : Sound store) (earned : store.Earned) (env : AnalyticsRuntime)
    (input : Nat × JobCall) :
    (Frozen store (store.next env input) ∧ (store.next env input).Earned) ↔
      EndsProperly store input := by
  have effect := effect_next env store input
  generalize store.next env input = after at effect
  have grows := effect.grows
  cases effect with
  | stays silent =>
    exact iff_of_true ⟨frozen_of_jobs_eq rfl, earned⟩ (endsProperly_of_silent silent)
  | becomes activity quiet silent =>
    exact iff_of_true ⟨frozen_of_jobs_eq rfl, earned_of_jobs_eq earned rfl grows⟩
      (endsProperly_of_silent silent)
  | inserts job activity new quiet silent =>
    exact iff_of_true ⟨frozen_insert store job, earned_insert earned new⟩
      (endsProperly_of_silent silent)
  | claims itemId job new activity stored queued started typed quiet silent =>
    exact iff_of_true ⟨frozen_claim stored queued, earned_claim earned started⟩
      (endsProperly_of_silent silent)
  | loads itemId job ids stored silent =>
    exact iff_of_true ⟨frozen_of_jobs_eq rfl, earned_of_jobs_eq earned rfl grows⟩
      (endsProperly_of_silent silent)
  | works itemId seen ids answer commits working silent =>
    have jobs : (store.work input.1 itemId seen ids answer commits).jobs = store.jobs := by
      unfold JobStore.work
      dsimp only
      split <;> rfl
    exact iff_of_true ⟨frozen_of_jobs_eq jobs, earned_of_jobs_eq earned jobs grows⟩
      (endsProperly_of_silent silent)
  | flushes activity quiet worked =>
    have frozen : Frozen store (store.flush (store.writes input)) ↔ _ := frozen_flush_iff
    have successes := earned_flush_iff earned grows (become_jobs (store.flush (store.writes input))
      input.1 activity)
    constructor
    · rintro ⟨kept, real⟩
      refine ⟨frozen.mp kept, fun itemId job write stored found succeeds => ?_⟩
      rw [maySucceed_iff worked]
      exact .inr (successes.mp real itemId job write stored found succeeds)
    · intro proper
      refine ⟨frozen.mpr proper.fresh, successes.mpr ?_⟩
      intro itemId job write stored found succeeds
      have may := (maySucceed_iff worked).mp
        (proper.real itemId job write stored found succeeds)
      rcases may with dispatched | carried
      · exact (sound.carriedOut stored found succeeds worked dispatched).mono grows
      · exact carried.mono grows
  | replays itemId seen backtesting =>
    have frozen : Frozen store (store.flush (store.writes input)) ↔ _ := frozen_flush_iff
    have successes := earned_flush_iff earned grows
      (show _ = (store.flush (store.writes input)).jobs from rfl)
    have may : ∀ other jobType, store.MaySucceed input.1 other jobType ↔
        jobType = .backtest ∨ store.CarriedOut other jobType := by
      intro other jobType
      unfold JobStore.MaySucceed
      rw [backtesting]
    constructor
    · rintro ⟨kept, real⟩
      refine ⟨frozen.mp kept, fun other job write stored found succeeds => ?_⟩
      rw [may]
      rcases successes.mp real other job write stored found succeeds with done | recorded
      · exact .inr (.inl done)
      · exact .inl recorded.1
    · intro proper
      refine ⟨frozen.mpr proper.fresh, successes.mpr ?_⟩
      intro other job write stored found succeeds
      obtain rfl := writeOf_backtesting backtesting found
      rcases (may _ _).mp (proper.real _ _ _ stored found succeeds) with backtest | carried
      · exact .inr ⟨backtest, List.mem_cons_self ..⟩
      · exact carried.mono grows

/-! ## Dispatch -/

/-- Of a job with a key, nothing makes it queued. -/
def NotQueued (store : JobStore) (itemId : Nat) : Prop :=
  ∃ job, store.jobs.get? itemId = some job ∧ job.status ≠ .queued

/-- No call queues a job that is not queued. -/
theorem NotQueued.next {itemId : Nat} (started : NotQueued store itemId)
    (env : AnalyticsRuntime) (input : Nat × JobCall) :
    NotQueued (store.next env input) itemId := by
  obtain ⟨job, stored, running⟩ := started
  have flushed : ∃ later, (store.flush (store.writes input)).jobs.get? itemId = some later ∧
      later.status ≠ .queued := by
    rw [get?_flush, stored, Option.map_some]
    refine ⟨_, rfl, ?_⟩
    cases found : writeOf (store.writes input) itemId with
    | none => exact running
    | some write =>
      change written write.seen.status write.new.status job.status ≠ .queued
      unfold written
      split
      · exact running
      · intro queued
        have ended := hasEnded_of_writeOf found
        rw [AnalyticsJob.HasEnded, queued] at ended
        exact absurd ended (by decide)
  have effect := effect_next env store input
  generalize store.next env input = after at effect
  cases effect with
  | stays => exact ⟨job, stored, running⟩
  | becomes => exact ⟨job, stored, running⟩
  | inserts new =>
    refine ⟨job, ?_, running⟩
    exact (store.jobs.get?_insert_of_ne _ (Table.lt_nextKey_of_get? stored).ne).trans stored
  | claims other row new activity found queued =>
    have apart : itemId ≠ other := by
      rintro rfl
      obtain rfl := Option.some.inj (found.symm.trans stored)
      exact running queued
    exact ⟨job, (store.jobs.get?_modify_of_ne _ apart).trans stored, running⟩
  | loads => exact ⟨job, stored, running⟩
  | works other seen ids answer commits =>
    unfold JobStore.work
    dsimp only
    split <;> exact ⟨job, stored, running⟩
  | flushes => exact flushed
  | replays => exact flushed

theorem claimed_queued {itemId : Nat} (claimed : store.claimed? input = some itemId)
    (env : AnalyticsRuntime) :
    ¬NotQueued store itemId ∧ NotQueued (store.next env input) itemId := by
  have effect := effect_next env store input
  generalize store.next env input = after at effect
  cases effect with
  | stays _ unclaimed => exact absurd claimed (unclaimed ▸ nofun)
  | becomes _ _ _ unclaimed => exact absurd claimed (unclaimed ▸ nofun)
  | inserts _ _ _ _ _ unclaimed => exact absurd claimed (unclaimed ▸ nofun)
  | loads _ _ _ _ _ unclaimed => exact absurd claimed (unclaimed ▸ nofun)
  | works _ _ _ _ _ _ _ unclaimed => exact absurd claimed (unclaimed ▸ nofun)
  | flushes _ _ _ unclaimed => exact absurd claimed (unclaimed ▸ nofun)
  | replays _ _ _ unclaimed => exact absurd claimed (unclaimed ▸ nofun)
  | claims other job new activity stored queued started typed quiet silent claims =>
    obtain rfl := claims itemId claimed
    constructor
    · rintro ⟨row, found, running⟩
      obtain rfl := Option.some.inj (found.symm.trans stored)
      exact running queued
    · refine ⟨new, ?_, ?_⟩
      · change (store.jobs.modify itemId _).get? itemId = some new
        rw [Table.get?_modify_self, stored]
        rfl
      · rcases started with here | here <;> rw [here] <;> decide

end Step

/-- **No run dispatches a job twice.** -/
theorem dispatched_once (env : AnalyticsRuntime) (start : JobStore) (calls : List (Nat × JobCall)) :
    ((trace (JobStore.next env) start calls).filterMap dispatched?).Nodup := by
  have run : ((trace (JobStore.next env) start calls).filterMap dispatched?).Nodup ∧
      ∀ itemId ∈ (trace (JobStore.next env) start calls).filterMap dispatched?,
        NotQueued (final (JobStore.next env) start calls) itemId := by
    refine run_induction (JobStore.next env)
      (motive := fun past state => (past.filterMap dispatched?).Nodup ∧
        ∀ itemId ∈ past.filterMap dispatched?, NotQueued state itemId)
      ⟨List.nodup_nil, nofun⟩ ?_ calls
    rintro past state input ⟨distinct, started⟩
    rw [List.filterMap_append]
    cases claimed : dispatched? ⟨state, input, state.next env input⟩ with
    | none =>
      rw [List.filterMap_cons_none claimed, List.filterMap_nil, List.append_nil]
      exact ⟨distinct, fun itemId member => (started itemId member).next env input⟩
    | some itemId =>
      rw [List.filterMap_cons_some claimed, List.filterMap_nil]
      obtain ⟨queued, after⟩ := claimed_queued claimed env
      refine ⟨List.nodup_append.mpr ⟨distinct, List.nodup_singleton _, ?_⟩, ?_⟩
      · rintro other member _ last rfl
        obtain rfl := List.mem_singleton.mp last
        exact queued (started _ member)
      · intro other member
        rcases List.mem_append.mp member with earlier | last
        · exact (started other earlier).next env input
        · obtain rfl := List.mem_singleton.mp last
          exact after
  exact run.1

/-! ## Runs -/

theorem sound_empty : Sound .empty := fun _ => trivial

theorem earned_empty : JobStore.empty.Earned := by
  intro itemId job stored
  cases stored

/-- **A run ends its jobs once exactly when each of its statements ends jobs properly.** -/
theorem jobs_end_once_iff (env : AnalyticsRuntime) (calls : List (Nat × JobCall)) :
    EndsOnce env calls ↔
      ∀ move ∈ trace (JobStore.next env) .empty calls,
        EndsProperly move.before move.input := by
  have good : (∀ move ∈ trace (JobStore.next env) .empty calls,
      Frozen move.before move.after ∧ move.after.Earned) ↔
        ∀ move ∈ trace (JobStore.next env) .empty calls,
          EndsProperly move.before move.input :=
    good_transitions_iff (JobStore.next env)
      (fun store input (holds : Sound store ∧ store.Earned) kept =>
        ⟨holds.1.next env input, kept.2⟩)
      (fun store input holds => ends_next_iff holds.1 holds.2 env input)
      ⟨sound_empty, earned_empty⟩ calls
  rw [← good]
  constructor
  · exact fun ends move member =>
      ⟨ends.frozen move member, ends.earned move member⟩
  · exact fun all => ⟨fun move member => (all move member).1,
      dispatched_once env .empty calls, fun move member => (all move member).2⟩

/-! ## A backtest that is not replayed -/

/-- A backtest that is queued as a job of its own. -/
def backtestJob : QueueRequest where
  jobType := .backtest
  detectorVersionId := some 1
  userId := 1
  payload := .ok "\x7b\x7d"
  idempotencyKey := "weekly-backtest"
  demoOwned := false

/-- The job is queued, and a worker claims it and reads it. -/
def claimedBacktest : List (Nat × JobCall) :=
  [(1, .queueJob backtestJob 0), (1, .insertJob 0), (2, .recoverStaleJobs 30 1),
    (2, .writeRecovered 1), (2, .selectCandidates true 25), (2, .claim 2), (2, .load),
    (2, .work (.ok "\x7b\x7d") false)]

/-- The worker finishes the job. -/
def processedBacktest : List (Nat × JobCall) := claimedBacktest ++ [(2, .finish 3)]

theorem next_processedBacktest (env : AnalyticsRuntime) :
    final (JobStore.next env) .empty processedBacktest =
      final (JobStore.next plainAnalytics) .empty processedBacktest := by
  have same : ∀ input ∈ processedBacktest, ∀ store : JobStore,
      store.next env input = store.next plainAnalytics input := by
    intro input member store
    rcases input with ⟨session, call⟩
    unfold JobStore.next
    dsimp only
    generalize store.activity session = activity
    cases call with
    | runBacktest => simp [processedBacktest, claimedBacktest] at member
    | _ =>
      cases activity with
      | dispatching ids => cases ids <;> rfl
      | _ => rfl
  unfold final
  exact List.foldl_ext _ _ _ fun store input member => same input member store

/-- **A backtest job that a worker processes is succeeded without a backtest.** -/
theorem backtest_succeeds_unrun :
    ¬∃ env : AnalyticsRuntime, ∀ calls, EndsOnce env calls := by
  rintro ⟨env, ends⟩
  have earned := (ends processedBacktest).earned _
    (mem_trace_concat (JobStore.next env) .empty claimedBacktest (2, .finish 3))
  dsimp only at earned
  rw [← final_concat (JobStore.next env), ← processedBacktest,
    next_processedBacktest] at earned
  have succeeded : ((final (JobStore.next plainAnalytics) .empty processedBacktest).jobs.get?
      1).map (fun job => (job.status, job.jobType)) = some (.succeeded, .backtest) := by
    decide +kernel
  obtain ⟨job, stored, same⟩ := Option.map_eq_some_iff.mp succeeded
  obtain ⟨status, jobType⟩ := Prod.mk.inj same
  rcases earned 1 job stored status with ⟨dispatched, -⟩ | ⟨-, recorded⟩
  · rw [jobType] at dispatched
    cases dispatched
  · have none : (final (JobStore.next plainAnalytics) .empty processedBacktest).backtests = [] := by
      decide +kernel
    rw [none] at recorded
    cases recorded

end ThreatScope.Analytics
