import RCAA.Json
import RCAA.Library.KeyedRows
import RCAA.Library.Quantize

/-! The table of background jobs and the arithmetic of their retries. A job's two
generated ids, `id` and `job_id`, are unique and never change, so one stands for both.
The time a row was last updated is left out: nothing reads it. -/

namespace RCAA.Jobs

inductive JobStatus where
  | queued | running | retrying | succeeded | failed | deadLettered
deriving DecidableEq, Repr

/-- `JOB_TYPES`. -/
def jobTypes : List String :=
  ["INGEST_PAYMENTS", "INGEST_REFUNDS", "INGEST_SETTLEMENTS", "INGEST_BANK_TRANSACTIONS", "RUN_RECONCILIATION",
    "BUILD_EVIDENCE", "GENERATE_DETERMINISTIC_RCA", "AI_INVESTIGATION", "SYNC_CONNECTOR"]

/-- The number of attempts a job may have. -/
abbrev Attempts := { n : Nat // 1 ≤ n ∧ n ≤ 10 }

/-- `max(1, min(n, 10))`. -/
def clampAttempts (n : Int) : Attempts := ⟨(max 1 (min n 10)).toNat, by omega⟩

structure Job where
  id : String
  merchantId : String
  jobType : String
  status : JobStatus := .queued
  attemptCount : Nat := 0
  maxAttempts : Attempts
  createdAt : Int
  startedAt : Option Int := none
  completedAt : Option Int := none
  nextRetryAt : Option Int := none
  lastErrorCode : Option String := none
  lastErrorMessageSafe : Option String := none
  requestId : Option String
  createdBy : Option String
  payloadJson : List (String × Json)
  resultJson : Option Json := none
  idempotencyKey : String
  workerId : Option String := none
  leaseExpiresAt : Option Int := none
deriving DecidableEq

/-! ## Writes -/

/-- What a statement does to the rows; none touches a row's id or its bound on attempts. -/
structure Write where
  apply : Job → Job
  id : ∀ row, (apply row).id = row.id
  maxAttempts : ∀ row, (apply row).maxAttempts = row.maxAttempts

attribute [simp] Write.id Write.maxAttempts

/-- The value a flush stores in a column: what was assigned, unless it is the value loaded. -/
def flushed [DecidableEq α] (loaded assigned stored : α) : α := if assigned = loaded then stored else assigned

@[simp] theorem flushed_self [DecidableEq α] (loaded assigned : α) : flushed loaded assigned loaded = assigned := by
  unfold flushed
  split
  · next same => exact same.symm
  · rfl

theorem flushed_cases [DecidableEq α] (loaded assigned stored : α) :
    flushed loaded assigned stored = stored ∨ flushed loaded assigned stored = assigned := by
  unfold flushed
  split
  · exact .inl rfl
  · exact .inr rfl

@[simp] theorem flushed_unchanged [DecidableEq α] (loaded stored : α) : flushed loaded loaded stored = stored := if_pos rfl

/-- The row after the session that loaded `loaded` commits it as `assigned`: the
update names the row by its key alone and sets the columns that changed. -/
def Job.flush (loaded assigned row : Job) : Job :=
  { row with
    status := flushed loaded.status assigned.status row.status
    completedAt := flushed loaded.completedAt assigned.completedAt row.completedAt
    nextRetryAt := flushed loaded.nextRetryAt assigned.nextRetryAt row.nextRetryAt
    lastErrorCode := flushed loaded.lastErrorCode assigned.lastErrorCode row.lastErrorCode
    lastErrorMessageSafe := flushed loaded.lastErrorMessageSafe assigned.lastErrorMessageSafe row.lastErrorMessageSafe
    resultJson := flushed loaded.resultJson assigned.resultJson row.resultJson
    workerId := flushed loaded.workerId assigned.workerId row.workerId
    leaseExpiresAt := flushed loaded.leaseExpiresAt assigned.leaseExpiresAt row.leaseExpiresAt }

theorem Job.flush_status (loaded assigned row : Job) :
    (loaded.flush assigned row).status = flushed loaded.status assigned.status row.status := rfl

theorem Job.flush_nextRetryAt (loaded assigned row : Job) :
    (loaded.flush assigned row).nextRetryAt = flushed loaded.nextRetryAt assigned.nextRetryAt row.nextRetryAt := rfl

/-- The jobs, by their key. -/
structure Queue where
  jobs : List Job := []
  ids : (jobs.map (·.id)).Nodup := by decide

namespace Queue

def write (queue : Queue) (w : Write) : Queue where
  jobs := queue.jobs.map w.apply
  ids := by simpa only [List.map_map, Function.comp_def, w.id] using queue.ids

def insert (queue : Queue) (job : Job) (fresh : job.id ∉ queue.jobs.map (·.id)) : Queue where
  jobs := queue.jobs ++ [job]
  ids := by
    rw [List.map_append, List.map_singleton, ← List.concat_eq_append]
    exact queue.ids.concat fresh

def job? (queue : Queue) (id : String) : Option Job := queue.jobs.find? fun row => row.id = id

theorem mem_write {queue : Queue} {w : Write} {row : Job} :
    row ∈ (queue.write w).jobs ↔ ∃ before ∈ queue.jobs, w.apply before = row := List.mem_map

theorem job?_eq_some_iff {queue : Queue} {id : String} {row : Job} :
    queue.job? id = some row ↔ row ∈ queue.jobs ∧ row.id = id :=
  KeyedRows.find?_eq_some_iff Job.id queue.ids id row

theorem job?_write (queue : Queue) (w : Write) (id : String) : (queue.write w).job? id = (queue.job? id).map w.apply := by
  simp only [job?, write, List.find?_map, Function.comp_def, w.id]

theorem eq_of_id {queue : Queue} {a b : Job} (ha : a ∈ queue.jobs) (hb : b ∈ queue.jobs) (same : a.id = b.id) : a = b :=
  List.inj_on_of_nodup_map queue.ids ha hb same

end Queue

/-! ## Settings -/

/-- The worker's settings, in seconds. -/
structure WorkerSettings where
  baseBackoff : ℚ := 1
  maxBackoff : ℚ := 30
  leaseSeconds : Nat := 60
  base_nonneg : 0 ≤ baseBackoff := by decide
  max_nonneg : 0 ≤ maxBackoff := by decide

namespace WorkerSettings

def lease (settings : WorkerSettings) : Int := settings.leaseSeconds * 1000000

theorem lease_nonneg (settings : WorkerSettings) : 0 ≤ settings.lease := by
  unfold lease
  omega

end WorkerSettings

def retryDelaySeconds (attempt : Nat) (base maximum : ℚ) : ℚ := min maximum (base * 2 ^ (attempt - 1))

/-- `timedelta(seconds=seconds)` in microseconds. -/
def timedelta (seconds : ℚ) : Int := Decimal.halfEven (seconds.num * 1000000) seconds.den

theorem timedelta_nonneg {seconds : ℚ} (nonneg : 0 ≤ seconds) : 0 ≤ timedelta seconds := by
  have numerator : 0 ≤ seconds.num * 1000000 := by
    have := Rat.num_nonneg.mpr nonneg
    omega
  have quotient : 0 ≤ seconds.num * 1000000 / (seconds.den : Int) := Int.ediv_nonneg numerator (by omega)
  unfold timedelta Decimal.halfEven
  split <;> omega

/-- How long a job waits after a failed attempt. -/
def WorkerSettings.delay (settings : WorkerSettings) (attempt : Nat) : Int :=
  timedelta (retryDelaySeconds attempt settings.baseBackoff settings.maxBackoff)

theorem WorkerSettings.delay_nonneg (settings : WorkerSettings) (attempt : Nat) : 0 ≤ settings.delay attempt := by
  apply timedelta_nonneg
  exact le_min settings.max_nonneg (mul_nonneg settings.base_nonneg (by positivity))

end RCAA.Jobs
