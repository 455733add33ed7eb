import ThreatScope.Analytics.Records
import ThreatScope.Library.Runs

/-!
# Jobs

The queue of `analytics/service.py`. A request works in a session of its own: it reads the row
of a job, goes on with what it has read, and writes the columns that it has changed since.
Between two of its statements other sessions may write the same row. So a session is a state
of its own here, and a run interleaves the statements of all sessions.
-/

set_option autoImplicit false

namespace ThreatScope.Analytics

open Library AccessControl

/-! ## Rows -/

/-- `AnalyticsJob.job_type`. -/
inductive JobType where
  | scoreWindow
  | featureExtraction
  | retentionCleanup
  | reportGeneration
  | driftEvaluation
  | detectorValidation
  | baselineBuild
  | anomalyMaterialization
  | backtest
  | other (name : String)
deriving DecidableEq

/-- `AnalyticsJob.status`. -/
inductive JobStatus where
  | queued
  | running
  | succeeded
  | failed
  | cancelled
deriving DecidableEq

def terminalJobs : List JobStatus := [.succeeded, .failed, .cancelled]

/-- A row of `analytics_jobs`. -/
structure AnalyticsJob where
  jobType : JobType
  status : JobStatus := .queued
  idempotencyKey : String
  detectorVersionId : Option Nat
  requestedByUserId : Nat
  payload : String
  result : String := "\x7b\x7d"
  progressPercent : Nat := 0
  errorCode : Option String := none
  errorSummary : Option String := none
  cancellationRequested : Bool := false
  demoOwned : Bool
  createdAt : Instant
  startedAt : Option Instant := none
  heartbeatAt : Option Instant := none
  completedAt : Option Instant := none

/-- The status of a job is terminal. -/
def AnalyticsJob.HasEnded (job : AnalyticsJob) : Prop := job.status ∈ terminalJobs

instance (job : AnalyticsJob) : Decidable job.HasEnded :=
  inferInstanceAs (Decidable (_ ∈ terminalJobs))

/-- A column of a row that a session flushes: it is written when it has changed since it was
read. -/
def written {α : Type} [DecidableEq α] (seen new current : α) : α :=
  if new = seen then current else new

/-- The row after a session has flushed what it changed. -/
def AnalyticsJob.flush (seen new current : AnalyticsJob) : AnalyticsJob :=
  { current with
    status := written seen.status new.status current.status
    result := written seen.result new.result current.result
    progressPercent := written seen.progressPercent new.progressPercent current.progressPercent
    errorCode := written seen.errorCode new.errorCode current.errorCode
    errorSummary := written seen.errorSummary new.errorSummary current.errorSummary
    cancellationRequested :=
      written seen.cancellationRequested new.cancellationRequested current.cancellationRequested
    startedAt := written seen.startedAt new.startedAt current.startedAt
    completedAt := written seen.completedAt new.completedAt current.completedAt }

/-- What a session writes of a job: the row that it has read and the row that it has made
of it. -/
structure JobWrite where
  itemId : Nat
  seen : AnalyticsJob
  new : AnalyticsJob

/-! ## Sessions -/

/-- What `queue_job` is asked for. -/
structure QueueRequest where
  jobType : JobType
  detectorVersionId : Option Nat
  userId : Nat
  /-- The text of the payload, or the exception that its bound and its redaction raise. -/
  payload : Except ServiceError String
  idempotencyKey : String
  demoOwned : Bool

/-- What a session is about to do. -/
inductive Activity where
  | idle
  /-- `queue_job` has found no job with the key and is about to insert one. -/
  | queueing (request : QueueRequest) (payload : String) (backtest : Bool)
  /-- `recover_stale_jobs` has read the stale jobs. -/
  | recovering (items : List (Nat × AnalyticsJob))
  | recovered
  /-- `process_due` has these candidates before it. -/
  | dispatching (ids : List Nat)
  | claimed (itemId : Nat) (ids : List Nat)
  | working (itemId : Nat) (seen : AnalyticsJob) (ids : List Nat)
  | finishing (itemId : Nat) (seen : AnalyticsJob) (outcome : Except String String)
      (ids : List Nat)
  /-- `cancel_job` has read a job that has not ended. -/
  | cancelling (itemId : Nat) (seen : AnalyticsJob)
  /-- `run_backtest` has its job and replays the windows. -/
  | backtesting (itemId : Nat) (seen : AnalyticsJob)

/-- The tables of the queue, what each session is about to do, and the jobs of which a worker
has scored the window or extracted the feature. -/
structure JobStore where
  jobs : Table AnalyticsJob
  /-- The columns `job_id` of `analytics_backtests`. -/
  backtests : List Nat
  scored : List Nat
  activity : Nat → Activity

/-- No job has been queued. -/
def JobStore.empty : JobStore where
  jobs := Table.empty
  backtests := []
  scored := []
  activity _ := .idle

/-- A session goes on. -/
def JobStore.become (store : JobStore) (session : Nat) (activity : Activity) : JobStore :=
  { store with activity := Function.update store.activity session activity }

/-- A write for a job. -/
def writeOf (writes : List JobWrite) (itemId : Nat) : Option JobWrite :=
  writes.find? fun write => write.itemId == itemId

/-- The rows after a session has flushed its writes. -/
def JobStore.flush (store : JobStore) (writes : List JobWrite) : JobStore :=
  { store with
    jobs := store.jobs.update fun itemId job =>
      match writeOf writes itemId with
      | some write => write.seen.flush write.new job
      | none => job }

/-! ## `queue_job` -/

/-- The job with an idempotency key, of which there is at most one. -/
def JobStore.withKey (store : JobStore) (key : String) : Option (Nat × AnalyticsJob) :=
  store.jobs.first? fun _ job => job.idempotencyKey == key

/-- `_rate_limit_jobs`: the jobs of the last minute. -/
def JobStore.recentJobs (store : JobStore) (request : QueueRequest) (now : Instant) : Nat :=
  store.jobs.count fun _ job =>
    job.requestedByUserId == request.userId && job.jobType == request.jobType &&
      decide (now - 60000000 ≤ job.createdAt)

/-- What follows when `queue_job` returns: the answer, or the replay of a backtest that has no
record. -/
def JobStore.queued (store : JobStore) (session itemId : Nat) (job : AnalyticsJob)
    (backtest : Bool) : JobStore :=
  if backtest = true ∧ itemId ∉ store.backtests then
    store.become session (.backtesting itemId job)
  else store.become session .idle

/-- The first half of `queue_job`: a job with the key is returned, otherwise the limits are
checked. -/
def JobStore.lookForJob (store : JobStore) (session : Nat) (request : QueueRequest)
    (backtest : Bool) (now : Instant) : JobStore :=
  match store.withKey request.idempotencyKey with
  | some (itemId, job) => store.queued session itemId job backtest
  | none =>
    if 10 ≤ store.recentJobs request now then store
    else
      match request.payload with
      | .ok payload => store.become session (.queueing request payload backtest)
      | .error _ => store

/-- The row of a new job. -/
def QueueRequest.job (request : QueueRequest) (payload : String) (now : Instant) :
    AnalyticsJob where
  jobType := request.jobType
  idempotencyKey := request.idempotencyKey
  detectorVersionId := request.detectorVersionId
  requestedByUserId := request.userId
  payload := payload
  demoOwned := request.demoOwned
  createdAt := now

/-- The second half of `queue_job`. The unique key refuses the row when another session has
inserted one meanwhile, which is then returned. -/
def JobStore.insertJob (store : JobStore) (session : Nat) (request : QueueRequest)
    (payload : String) (backtest : Bool) (now : Instant) : JobStore :=
  match store.withKey request.idempotencyKey with
  | some (itemId, job) => store.queued session itemId job backtest
  | none =>
    { store with jobs := store.jobs.insert (request.job payload now) }.queued session
      store.jobs.nextKey (request.job payload now) backtest

/-- The request of `run_backtest`, whose key names the version. -/
def backtestRequest (env : AnalyticsRuntime) (versionId userId : Nat)
    (payload : Except ServiceError String) (key : String) (demoOwned : Bool) : QueueRequest where
  jobType := .backtest
  detectorVersionId := some versionId
  userId := userId
  payload := payload
  idempotencyKey := env.sha256 ("backtest:" ++ toString versionId ++ ":" ++ key)
  demoOwned := demoOwned

/-! ## Ends -/

/-- `cancel_job`. -/
def AnalyticsJob.cancelled (job : AnalyticsJob) (now : Instant) : AnalyticsJob :=
  { job with
    cancellationRequested := true
    status := .cancelled
    completedAt := some now
    errorCode := some "ANALYTICS_JOB_CANCELLED"
    errorSummary := some "Cancelled explicitly before terminal completion." }

/-- `recover_stale_jobs`. -/
def AnalyticsJob.recovered (job : AnalyticsJob) (now : Instant) : AnalyticsJob :=
  { job with
    status := .failed
    errorCode := some "ANALYTICS_JOB_STALE"
    errorSummary := some "Stale running job recovered safely; no automatic retry was started."
    completedAt := some now }

/-- The end that `process_due` gives a job after its work: it looks for a cancellation in the
row that it has read. -/
def AnalyticsJob.finished (job : AnalyticsJob) (outcome : Except String String) (now : Instant) :
    AnalyticsJob :=
  if job.cancellationRequested = true ∨ job.status = .cancelled then
    { job with status := .cancelled, completedAt := some now }
  else
    match outcome with
    | .ok result =>
      { job with
        result := result
        status := .succeeded
        progressPercent := 100
        completedAt := some now }
    | .error error =>
      { job with
        status := .failed
        errorCode := some "ANALYTICS_JOB_FAILED"
        errorSummary := some (Text.truncate 500 error)
        completedAt := some now }

/-- The end that `run_backtest` gives its job. -/
def AnalyticsJob.backtested (job : AnalyticsJob) (result : String) (now : Instant) :
    AnalyticsJob :=
  { job with
    status := .succeeded
    progressPercent := 100
    result := result
    startedAt := some (job.startedAt.getD now)
    completedAt := some now }

/-! ## `process_due` -/

/-- The stale jobs that `recover_stale_jobs` reads. -/
def JobStore.staleJobs (store : JobStore) (staleMinutes : Int) (now : Instant) :
    List (Nat × AnalyticsJob) :=
  let cutoff := now - 60000000 * min 1440 (max 5 staleMinutes)
  (store.jobs.rows.filter fun row =>
    row.2.status == .running && row.2.heartbeatAt.any fun beat => decide (beat < cutoff)).take 100

/-- The candidates that `process_due` reads. -/
def JobStore.candidateIds (store : JobStore) (batchSize : Int) : List Nat :=
  ((store.jobs.rows.filter fun row => row.2.status == .queued).map Prod.fst).take
    (min 100 (max 1 batchSize)).toNat

/-- The claim of a candidate: two conditional updates in one transaction. -/
def JobStore.claim (store : JobStore) (session itemId : Nat) (ids : List Nat) (now : Instant) :
    JobStore :=
  match store.jobs.get? itemId with
  | none => store.become session (.dispatching ids)
  | some job =>
    if job.status ≠ .queued then store.become session (.dispatching ids)
    else if job.cancellationRequested = true then
      { store with
        jobs := store.jobs.modify itemId fun job =>
          { job with status := .cancelled, completedAt := some now } }.become session
            (.dispatching ids)
    else
      { store with
        jobs := store.jobs.modify itemId fun job =>
          { job with
            status := .running
            startedAt := some now
            heartbeatAt := some now
            progressPercent := 10 } }.become session (.claimed itemId ids)

/-- The two types of which `process_due` does the work. -/
def JobType.isDispatched : JobType → Bool
  | .scoreWindow | .featureExtraction => true
  | _ => false

/-- The outcome of the work of a job. `answer` is what scoring the window or extracting the
feature returns or raises. -/
def JobType.outcome (jobType : JobType) (answer : Except String String) : Except String String :=
  match jobType with
  | .scoreWindow | .featureExtraction => answer
  | .retentionCleanup | .reportGeneration | .driftEvaluation | .detectorValidation
  | .baselineBuild | .anomalyMaterialization | .backtest =>
    .ok "\x7b\"safe\":true,\"status\":\"requires_explicit_typed_endpoint\"\x7d"
  | .other _ => .error "Unsupported analytics job type"

/-- The row that a worker looks at after the work: the one that it has read, unless a commit
or a rollback expired it. -/
def JobStore.reread (store : JobStore) (itemId : Nat) (seen : AnalyticsJob) (expired : Bool) :
    AnalyticsJob :=
  if expired then (store.jobs.get? itemId).getD seen else seen

/-- The work of a job. An exception rolls back, and a window that opens an anomaly commits. -/
def JobStore.work (store : JobStore) (session itemId : Nat) (seen : AnalyticsJob)
    (ids : List Nat) (answer : Except String String) (commits : Bool) : JobStore :=
  let outcome := seen.jobType.outcome answer
  let expired := commits || !outcome.isOk
  let after := if seen.jobType.isDispatched && answer.isOk
    then { store with scored := itemId :: store.scored } else store
  after.become session (.finishing itemId (store.reread itemId seen expired) outcome ids)

/-! ## The machine -/

/-- A statement of a session. -/
inductive JobCall where
  | queueJob (request : QueueRequest) (now : Instant)
  | runBacktest (versionId userId : Nat) (payload : Except ServiceError String) (key : String)
      (demoOwned : Bool) (now : Instant)
  | insertJob (now : Instant)
  | recoverStaleJobs (staleMinutes : Int) (now : Instant)
  | writeRecovered (now : Instant)
  | selectCandidates (permitted : Bool) (batchSize : Int)
  | claim (now : Instant)
  | load
  | work (answer : Except String String) (commits : Bool)
  | finish (now : Instant)
  | cancelJob (itemId : Nat)
  | writeCancelled (now : Instant)
  | writeBacktest (result : String) (now : Instant)
  /-- The request ends, or an exception ends it. -/
  | leave

/-- What a session flushes with a statement. -/
def JobStore.writes (store : JobStore) (input : Nat × JobCall) : List JobWrite :=
  match store.activity input.1, input.2 with
  | .recovering items, .writeRecovered now =>
    items.map fun item => ⟨item.1, item.2, item.2.recovered now⟩
  | .finishing itemId seen outcome _, .finish now => [⟨itemId, seen, seen.finished outcome now⟩]
  | .cancelling itemId seen, .writeCancelled now => [⟨itemId, seen, seen.cancelled now⟩]
  | .backtesting itemId seen, .writeBacktest result now =>
    -- The unique key of `job_id` refuses a second record, and everything is rolled back.
    if itemId ∈ store.backtests then [] else [⟨itemId, seen, seen.backtested result now⟩]
  | _, _ => []

/-- The store after a statement of a session. A statement that is not the session's next one
does nothing. -/
def JobStore.next (env : AnalyticsRuntime) (store : JobStore) (input : Nat × JobCall) :
    JobStore :=
  let session := input.1
  let after := store.flush (store.writes input)
  match store.activity session, input.2 with
  | .idle, .queueJob request now => store.lookForJob session request false now
  | .idle, .runBacktest versionId userId payload key demoOwned now =>
    store.lookForJob session (backtestRequest env versionId userId payload key demoOwned)
      true now
  | .queueing request payload backtest, .insertJob now =>
    store.insertJob session request payload backtest now
  | .idle, .recoverStaleJobs staleMinutes now =>
    store.become session (.recovering (store.staleJobs staleMinutes now))
  | .recovering _, .writeRecovered _ => after.become session .recovered
  | .recovered, .selectCandidates permitted batchSize =>
    if permitted then store.become session (.dispatching (store.candidateIds batchSize))
    else store.become session .idle
  | .dispatching (itemId :: ids), .claim now => store.claim session itemId ids now
  | .claimed itemId ids, .load =>
    match store.jobs.get? itemId with
    | some job => store.become session (.working itemId job ids)
    | none => store.become session .idle
  | .working itemId seen ids, .work answer commits =>
    store.work session itemId seen ids answer commits
  | .finishing _ _ _ ids, .finish _ => after.become session (.dispatching ids)
  | .idle, .cancelJob itemId =>
    match store.jobs.get? itemId with
    | some job =>
      if job.HasEnded then store else store.become session (.cancelling itemId job)
    | none => store
  | .cancelling _ _, .writeCancelled _ => after.become session .idle
  | .backtesting itemId _, .writeBacktest _ _ =>
    if itemId ∈ store.backtests then store.become session .idle
    else { after with backtests := itemId :: store.backtests }.become session .idle
  | _, .leave => store.become session .idle
  | _, _ => store

/-!
## What a statement does to the queue

Each statement leaves the store alone, moves its session on, queues a job, claims one, or
flushes what its session has changed (`effect_next`). What the sessions know of their jobs
stays true along every run (`Sound.next`).
-/

/-! ## Flushes -/

section Flushes

variable {store : JobStore} {writes : List JobWrite} {itemId : Nat}

theorem get?_flush (store : JobStore) (writes : List JobWrite) (itemId : Nat) :
    (store.flush writes).jobs.get? itemId =
      (store.jobs.get? itemId).map fun job =>
        match writeOf writes itemId with
        | some write => write.seen.flush write.new job
        | none => job := Table.get?_update _ _ _

@[simp] theorem activity_flush (store : JobStore) (writes : List JobWrite) :
    (store.flush writes).activity = store.activity := rfl

@[simp] theorem become_jobs (store : JobStore) (session : Nat) (activity : Activity) :
    (store.become session activity).jobs = store.jobs := rfl

theorem writeOf_singleton {write found : JobWrite} (same : writeOf [write] itemId = some found) :
    itemId = write.itemId ∧ found = write := by
  have here := List.find?_some same
  have member := List.mem_of_find?_eq_some same
  obtain rfl := List.mem_singleton.mp member
  exact ⟨(beq_iff_eq.mp here).symm, rfl⟩

end Flushes

/-! ## The effects -/

/-- The job that a statement claims. -/
def JobStore.claimed? (store : JobStore) (input : Nat × JobCall) : Option Nat :=
  match store.activity input.1, input.2 with
  | .dispatching (itemId :: _), .claim _ =>
    match store.jobs.get? itemId with
    | some job =>
      if job.status = .queued ∧ job.cancellationRequested = false then some itemId else none
    | none => none
  | _, _ => none

/-- A session that looks at no row of a job that it has claimed. -/
def Activity.IsQuiet : Activity → Prop
  | .working .. | .finishing .. => False
  | _ => True

/-- What a statement leaves. -/
inductive Effect (store : JobStore) (input : Nat × JobCall) : JobStore → Prop
  | stays (silent : store.writes input = []) (unclaimed : store.claimed? input = none) :
      Effect store input store
  | becomes (activity : Activity) (quiet : activity.IsQuiet) (silent : store.writes input = [])
      (unclaimed : store.claimed? input = none) :
      Effect store input (store.become input.1 activity)
  | inserts (job : AnalyticsJob) (activity : Activity) (new : job.status = .queued)
      (quiet : activity.IsQuiet) (silent : store.writes input = [])
      (unclaimed : store.claimed? input = none) :
      Effect store input
        ({ store with jobs := store.jobs.insert job }.become input.1 activity)
  | claims (itemId : Nat) (job new : AnalyticsJob) (activity : Activity)
      (stored : store.jobs.get? itemId = some job) (queued : job.status = .queued)
      (started : new.status = .running ∨ new.status = .cancelled)
      (typed : new.jobType = job.jobType) (quiet : activity.IsQuiet)
      (silent : store.writes input = [])
      (claims : ∀ other, store.claimed? input = some other → other = itemId) :
      Effect store input
        ({ store with jobs := store.jobs.modify itemId fun _ => new }.become input.1 activity)
  | loads (itemId : Nat) (job : AnalyticsJob) (ids : List Nat)
      (stored : store.jobs.get? itemId = some job) (silent : store.writes input = [])
      (unclaimed : store.claimed? input = none) :
      Effect store input (store.become input.1 (.working itemId job ids))
  | works (itemId : Nat) (seen : AnalyticsJob) (ids : List Nat) (answer : Except String String)
      (commits : Bool) (working : store.activity input.1 = .working itemId seen ids)
      (silent : store.writes input = []) (unclaimed : store.claimed? input = none) :
      Effect store input (store.work input.1 itemId seen ids answer commits)
  | flushes (activity : Activity) (quiet : activity.IsQuiet)
      (worked : ∀ itemId seen, store.activity input.1 ≠ .backtesting itemId seen)
      (unclaimed : store.claimed? input = none) :
      Effect store input ((store.flush (store.writes input)).become input.1 activity)
  | replays (itemId : Nat) (seen : AnalyticsJob)
      (backtesting : store.activity input.1 = .backtesting itemId seen)
      (unclaimed : store.claimed? input = none) :
      Effect store input
        ({ store.flush (store.writes input) with
          backtests := itemId :: store.backtests }.become input.1 .idle)

section Effects

variable {store : JobStore} {input : Nat × JobCall}

theorem Effect.queued (silent : store.writes input = [])
    (unclaimed : store.claimed? input = none) (itemId : Nat) (job : AnalyticsJob)
    (backtest : Bool) : Effect store input (store.queued input.1 itemId job backtest) := by
  unfold JobStore.queued
  split
  · exact .becomes _ trivial silent unclaimed
  · exact .becomes _ trivial silent unclaimed

theorem Effect.lookForJob (silent : store.writes input = [])
    (unclaimed : store.claimed? input = none) (request : QueueRequest) (backtest : Bool)
    (now : Instant) : Effect store input (store.lookForJob input.1 request backtest now) := by
  unfold JobStore.lookForJob
  split
  · exact .queued silent unclaimed _ _ _
  · split
    · exact .stays silent unclaimed
    · split
      · exact .becomes _ trivial silent unclaimed
      · exact .stays silent unclaimed

theorem Effect.insertJob (silent : store.writes input = [])
    (unclaimed : store.claimed? input = none) (request : QueueRequest) (payload : String)
    (backtest : Bool) (now : Instant) :
    Effect store input (store.insertJob input.1 request payload backtest now) := by
  unfold JobStore.insertJob
  split
  · exact .queued silent unclaimed _ _ _
  · unfold JobStore.queued
    split
    · exact .inserts _ _ rfl trivial silent unclaimed
    · exact .inserts _ _ rfl trivial silent unclaimed

theorem Effect.claim {itemId : Nat} {ids : List Nat} {now : Instant}
    (dispatching : store.activity input.1 = .dispatching (itemId :: ids))
    (call : input.2 = .claim now) :
    Effect store input (store.claim input.1 itemId ids now) := by
  have silent : store.writes input = [] := by simp only [JobStore.writes, dispatching]
  have same : store.claimed? input = match store.jobs.get? itemId with
      | some job =>
        if job.status = .queued ∧ job.cancellationRequested = false then some itemId else none
      | none => none := by
    simp only [JobStore.claimed?, dispatching, call]
  unfold JobStore.claim
  cases stored : store.jobs.get? itemId with
  | none => exact .becomes _ trivial silent (by rw [same, stored])
  | some job =>
    rw [stored] at same
    dsimp only at same ⊢
    split
    · rename_i started
      exact .becomes _ trivial silent (by rw [same, if_neg fun both => started both.1])
    · rename_i queued
      rw [not_not] at queued
      have only : ∀ other, store.claimed? input = some other → other = itemId := by
        intro other claimed
        rw [same] at claimed
        split at claimed
        · exact (Option.some.inj claimed).symm
        · cases claimed
      have modify : ∀ change : AnalyticsJob → AnalyticsJob,
          store.jobs.modify itemId change = store.jobs.modify itemId fun _ => change job := by
        intro change
        refine Table.modify_congr _ fun value found => ?_
        rw [Option.some.inj (found.symm.trans stored)]
      split
      · rw [modify]
        exact .claims itemId job _ _ stored queued (.inr rfl) rfl trivial silent only
      · rw [modify]
        exact .claims itemId job _ _ stored queued (.inl rfl) rfl trivial silent only

/-- **The effect of a statement.** -/
theorem effect_next (env : AnalyticsRuntime) (store : JobStore) (input : Nat × JobCall) :
    Effect store input (store.next env input) := by
  unfold JobStore.next
  dsimp only
  split <;> rename_i here call
  · exact .lookForJob (by simp [JobStore.writes, here]) (by simp [JobStore.claimed?, here]) _ _ _
  · exact .lookForJob (by simp [JobStore.writes, here]) (by simp [JobStore.claimed?, here]) _ _ _
  · exact .insertJob (by simp [JobStore.writes, here]) (by simp [JobStore.claimed?, here]) _ _ _ _
  · exact .becomes _ trivial (by simp [JobStore.writes, here]) (by simp [JobStore.claimed?, here])
  · exact .flushes _ trivial (by simp [here]) (by simp [JobStore.claimed?, here])
  · split
    · exact .becomes _ trivial (by simp [JobStore.writes, here])
        (by simp [JobStore.claimed?, here])
    · exact .becomes _ trivial (by simp [JobStore.writes, here])
        (by simp [JobStore.claimed?, here])
  · exact .claim here call
  · split
    · rename_i job stored
      exact .loads _ job _ stored (by simp [JobStore.writes, here])
        (by simp [JobStore.claimed?, here])
    · exact .becomes _ trivial (by simp [JobStore.writes, here])
        (by simp [JobStore.claimed?, here])
  · exact .works _ _ _ _ _ here (by simp [JobStore.writes, here])
      (by simp [JobStore.claimed?, here])
  · exact .flushes _ trivial (by simp [here]) (by simp [JobStore.claimed?, here])
  · split
    · split
      · exact .stays (by simp [JobStore.writes, here]) (by simp [JobStore.claimed?, here])
      · exact .becomes _ trivial (by simp [JobStore.writes, here])
          (by simp [JobStore.claimed?, here])
    · exact .stays (by simp [JobStore.writes, here]) (by simp [JobStore.claimed?, here])
  · exact .flushes _ trivial (by simp [here]) (by simp [JobStore.claimed?, here])
  · split
    · rename_i recorded
      exact .becomes _ trivial (by simp [JobStore.writes, here, call, recorded])
        (by simp [JobStore.claimed?, here])
    · exact .replays _ _ here (by simp [JobStore.claimed?, here])
  · exact .becomes _ trivial (by simp [JobStore.writes, call]) (by simp [JobStore.claimed?, call])
  · -- No statement that flushes or claims is left.
    refine .stays ?_ ?_
    · unfold JobStore.writes
      split
      all_goals first | rfl | grind
    · unfold JobStore.claimed?
      split
      · grind
      · rfl

end Effects

/-! ## What sessions know -/

/-- The job with a key has a type. -/
def JobStore.HasType (store : JobStore) (itemId : Nat) (jobType : JobType) : Prop :=
  ∃ job, store.jobs.get? itemId = some job ∧ job.jobType = jobType

/-- Jobs keep their types, and what has been done stays done. -/
structure Grows (before after : JobStore) : Prop where
  typed : ∀ itemId jobType, before.HasType itemId jobType → after.HasType itemId jobType
  scored : ∀ itemId ∈ before.scored, itemId ∈ after.scored
  backtests : ∀ itemId ∈ before.backtests, itemId ∈ after.backtests

/-- A worker has read a row of its job, and has done the work that it is about to report. -/
def Activity.Knows (store : JobStore) : Activity → Prop
  | .working itemId seen _ => store.HasType itemId seen.jobType
  | .finishing itemId seen outcome _ =>
    store.HasType itemId seen.jobType ∧
      (outcome.isOk = true → seen.jobType.isDispatched = true → itemId ∈ store.scored)
  | _ => True

/-- Every session knows its job. -/
def Sound (store : JobStore) : Prop := ∀ session, (store.activity session).Knows store

theorem Activity.IsQuiet.knows {activity : Activity} (quiet : activity.IsQuiet)
    (store : JobStore) : activity.Knows store := by
  cases activity <;> first | exact trivial | exact quiet.elim

theorem Activity.Knows.mono {activity : Activity} {before after : JobStore}
    (knows : activity.Knows before) (grows : Grows before after) : activity.Knows after := by
  cases activity with
  | working itemId seen ids => exact grows.typed _ _ knows
  | finishing itemId seen outcome ids =>
    exact ⟨grows.typed _ _ knows.1, fun fine done => grows.scored _ (knows.2 fine done)⟩
  | _ => trivial

theorem Sound.become {store after : JobStore} (sound : Sound store) (grows : Grows store after)
    (same : after.activity = store.activity) (session : Nat) {activity : Activity}
    (knows : activity.Knows after) : Sound (after.become session activity) := by
  intro other
  have grown : Grows after (after.become session activity) :=
    ⟨fun _ _ => id, fun _ => id, fun _ => id⟩
  change (Function.update after.activity session activity other).Knows _
  by_cases here : other = session
  · subst here
    rw [Function.update_self]
    exact knows.mono grown
  · rw [Function.update_of_ne here, same]
    exact ((sound other).mono grows).mono grown

section Growth

variable {store : JobStore} {input : Nat × JobCall}

theorem Grows.refl (store : JobStore) : Grows store store :=
  ⟨fun _ _ => id, fun _ => id, fun _ => id⟩

theorem Grows.become {after : JobStore} (grows : Grows store after) (session : Nat)
    (activity : Activity) : Grows store (after.become session activity) :=
  ⟨grows.typed, grows.scored, grows.backtests⟩

theorem HasType.of_get? {after : JobStore} {itemId : Nat} {jobType : JobType}
    (typed : store.HasType itemId jobType)
    (kept : ∀ job, store.jobs.get? itemId = some job →
      ∃ later, after.jobs.get? itemId = some later ∧ later.jobType = job.jobType) :
    after.HasType itemId jobType := by
  obtain ⟨job, stored, rfl⟩ := typed
  exact kept job stored

theorem Grows.insert (store : JobStore) (job : AnalyticsJob) :
    Grows store { store with jobs := store.jobs.insert job } := by
  refine ⟨fun itemId jobType typed => HasType.of_get? typed fun row stored => ?_, fun _ => id,
    fun _ => id⟩
  refine ⟨row, ?_, rfl⟩
  exact (store.jobs.get?_insert_of_ne _ (Table.lt_nextKey_of_get? stored).ne).trans stored

theorem Grows.modify {itemId : Nat} {job new : AnalyticsJob}
    (stored : store.jobs.get? itemId = some job) (typed : new.jobType = job.jobType) :
    Grows store { store with jobs := store.jobs.modify itemId fun _ => new } := by
  refine ⟨fun other jobType has => HasType.of_get? has fun row found => ?_, fun _ => id,
    fun _ => id⟩
  dsimp only
  rw [Table.get?_modify, found]
  split
  · rename_i here
    subst here
    obtain rfl := Option.some.inj (found.symm.trans stored)
    exact ⟨new, rfl, typed⟩
  · exact ⟨row, rfl, rfl⟩

theorem Grows.flush (store : JobStore) (writes : List JobWrite) :
    Grows store (store.flush writes) := by
  refine ⟨fun itemId jobType has => HasType.of_get? has fun row found => ?_, fun _ => id,
    fun _ => id⟩
  rw [get?_flush, found]
  refine ⟨_, rfl, ?_⟩
  split
  · rfl
  · rfl

theorem hasType_reread {itemId : Nat} {seen : AnalyticsJob}
    (typed : store.HasType itemId seen.jobType) (expired : Bool) :
    (store.reread itemId seen expired).jobType = seen.jobType := by
  unfold JobStore.reread
  split
  · obtain ⟨job, stored, same⟩ := typed
    rw [stored, Option.getD_some, same]
  · rfl

theorem Grows.score (store : JobStore) (itemId : Nat) :
    Grows store { store with scored := itemId :: store.scored } :=
  ⟨fun _ _ => id, fun _ => List.mem_cons_of_mem _, fun _ => id⟩

theorem Grows.replay (store : JobStore) (writes : List JobWrite) (itemId : Nat) :
    Grows store { store.flush writes with backtests := itemId :: store.backtests } :=
  ⟨(Grows.flush store writes).typed, fun _ => id, fun _ => List.mem_cons_of_mem _⟩

theorem outcome_of_isDispatched {jobType : JobType} (dispatched : jobType.isDispatched = true)
    (answer : Except String String) : jobType.outcome answer = answer := by
  cases jobType <;> first | rfl | cases dispatched

theorem Sound.work (sound : Sound store) {session itemId : Nat} {seen : AnalyticsJob}
    {ids : List Nat} (working : store.activity session = .working itemId seen ids)
    (answer : Except String String) (commits : Bool) :
    Sound (store.work session itemId seen ids answer commits) := by
  have typed : store.HasType itemId seen.jobType := by
    have knows := sound session
    rw [working] at knows
    exact knows
  have same := hasType_reread typed (commits || !(seen.jobType.outcome answer).isOk)
  unfold JobStore.work
  dsimp only
  split
  · refine sound.become (.score store itemId) rfl session (And.intro ?_ fun _ _ => ?_)
    · change store.HasType itemId _
      rw [same]
      exact typed
    · exact List.mem_cons_self ..
  · rename_i undone
    refine sound.become (.refl store) rfl session (And.intro ?_ fun fine dispatched => ?_)
    · rw [same]
      exact typed
    · rw [same] at dispatched
      rw [outcome_of_isDispatched dispatched] at fine
      exact absurd (by rw [dispatched, fine]; rfl) undone

theorem Effect.grows {after : JobStore} (effect : Effect store input after) :
    Grows store after := by
  cases effect with
  | stays => exact .refl store
  | becomes activity => exact (Grows.refl store).become _ _
  | inserts job => exact (Grows.insert store job).become _ _
  | claims _ _ _ _ stored _ _ typed => exact (Grows.modify stored typed).become _ _
  | loads => exact (Grows.refl store).become _ _
  | works itemId seen ids answer commits =>
    unfold JobStore.work
    dsimp only
    split
    · exact (Grows.score store itemId).become _ _
    · exact (Grows.refl store).become _ _
  | flushes => exact (Grows.flush store _).become _ _
  | replays itemId => exact (Grows.replay store _ itemId).become _ _

/-- **Every statement keeps what the sessions know true.** -/
theorem Sound.next (sound : Sound store) (env : AnalyticsRuntime) (input : Nat × JobCall) :
    Sound (store.next env input) := by
  have effect := effect_next env store input
  generalize store.next env input = after at effect
  cases effect with
  | stays => exact sound
  | becomes activity quiet => exact sound.become (.refl store) rfl _ (quiet.knows _)
  | inserts job activity new quiet => exact sound.become (.insert store job) rfl _ (quiet.knows _)
  | claims _ _ _ activity stored _ _ typed quiet =>
    exact sound.become (.modify stored typed) rfl _ (quiet.knows _)
  | loads itemId job ids stored => exact sound.become (.refl store) rfl _ ⟨job, stored, rfl⟩
  | works itemId seen ids answer commits working => exact sound.work working answer commits
  | flushes activity quiet => exact sound.become (.flush store _) rfl _ (quiet.knows _)
  | replays itemId => exact sound.become (.replay store _ itemId) rfl _ trivial

end Growth

end ThreatScope.Analytics
