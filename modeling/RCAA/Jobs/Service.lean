import RCAA.Jobs.Models
import RCAA.Reconciliation.Engine
import RCAA.Cases.Models

/-! What the job service reads and writes: creation, the claim, the recovery of stale
jobs and the manual retry. A statement is a function of the row it may change. Audit
events and metrics are left out. -/

namespace RCAA.Jobs

/-! ## Errors of a handler -/

/-- An exception: its classes, from its own up, and its text. -/
structure Raised where
  classes : List String
  message : String
  /-- The code of an `AIServiceError`. -/
  code : String := ""

namespace Raised

def name (exc : Raised) : String := exc.classes.headD ""
def isinstance (exc : Raised) (classes : List String) : Bool := classes.any (· ∈ exc.classes)

end Raised

def containsText (text part : String) : Bool := decide (part.toList <:+: text.toList)
def firstChars (n : Nat) (text : String) : String := String.ofList (text.toList.take n)
def singleLine (text : String) : String := String.ofList (text.toList.map fun c => if c = '\n' then ' ' else c)

section Errors
variable [Platform]

/-- `_safe_error`: the category and the bounded message. -/
def safeError (exc : Raised) : String × String :=
  let message := firstChars 500 (singleLine exc.message)
  let lowered := lower message
  let category :=
    if containsText lowered "timeout" then "timeout"
    else if containsText lowered "rate limit" || containsText lowered "429" then "rate_limit"
    else if ["connection", "network", "unavailable", "temporarily"].any (containsText lowered) then "transient_dependency"
    else if exc.isinstance ["PermissionError"] then "authorization"
    else if exc.isinstance ["ValueError", "KeyError", "TypeError"] then "validation"
    else if exc.name ∈ ["LookupError", "FileNotFoundError"] then "not_found"
    else "unknown"
  (category, message)

def isRetryable (exc : Raised) : Bool :=
  (safeError exc).1 ∈ ["timeout", "transient_dependency", "rate_limit", "OperationalError", "ConnectionError"]

/-- The worker's own exceptions to `is_retryable`. -/
def retryable (exc : Raised) : Bool :=
  if exc.isinstance ["AIServiceError"] then
    exc.code ∈ ["AI_TIMEOUT", "AI_PROVIDER_UNAVAILABLE", "AI_RATE_LIMIT", "AI_ERROR"]
  else if exc.isinstance ["PermissionError", "LookupError", "ValueError"] then false
  else isRetryable exc

end Errors

/-! ## Creation -/

inductive JobError where
  /-- `ValueError`. -/
  | value (message : String)
  /-- `PermissionError`. -/
  | permission (message : String)
deriving DecidableEq, Repr

structure JobRequest where
  merchantId : String
  jobType : String
  payload : List (String × Json) := []
  idempotencyKey : String
  createdBy : Option String := none
  requestId : Option String := none
  maxAttempts : Int := 3

def maxIdempotencyKey : Nat := 200

def sensitive : List String :=
  ["password", "password_hash", "token", "access_token", "jwt", "authorization", "api_key", "apikey", "webhook_secret",
    "private_key", "ai_api_key", "secret", "credential", "credentials"]

/-- `payload.pop("merchant_id", None)` is not the caller's own merchant. -/
def foreignMerchant (payload : List (String × Json)) (merchantId : String) : Bool :=
  match payload.find? fun entry => entry.1 = "merchant_id" with
  | none => false
  | some (_, supplied) => supplied ≠ .null && supplied ≠ .str merchantId

section Creation
variable [Platform]

def scrub (payload : List (String × Json)) : List (String × Json) :=
  Json.scrubFields (fun key => lower key ∈ sensitive) .timestamp payload

/-- The stored job of the merchant's idempotency key, or the new one. -/
def createJob (keys : KeySource) (now : Int) (queue : Queue) (request : JobRequest) :
    Except JobError (Job × Bool × Queue) :=
  let jobType := upper request.jobType
  let key := strip request.idempotencyKey
  if jobType ∉ jobTypes then .error (.value "Unsupported job type")
  else if foreignMerchant request.payload request.merchantId then
    .error (.permission "Job merchant scope cannot be changed by the client")
  else if key = "" ∨ maxIdempotencyKey < key.toList.length then .error (.value "Invalid Idempotency-Key")
  else
    match queue.jobs.find? fun job => job.merchantId = request.merchantId ∧ job.idempotencyKey = key with
    | some existing => .ok (existing, false, queue)
    | none =>
      let job : Job := {
        id := keys.draw (queue.jobs.map (·.id))
        merchantId := request.merchantId
        jobType
        maxAttempts := clampAttempts request.maxAttempts
        createdAt := now
        requestId := request.requestId
        createdBy := request.createdBy
        payloadJson := scrub (request.payload.filter fun entry => entry.1 ≠ "merchant_id")
        idempotencyKey := key }
      .ok (job, true, queue.insert job (keys.fresh _))

/-- The queue is as it was, or has one new job that waits for its first attempt. -/
theorem createJob_cases {keys : KeySource} {now : Int} {queue : Queue} {request : JobRequest} {job : Job} {created : Bool}
    {after : Queue} (done : createJob keys now queue request = .ok (job, created, after)) :
    after = queue ∨ (after.jobs = queue.jobs ++ [job] ∧ job.status = .queued ∧ job.attemptCount = 0) := by
  simp only [createJob] at done
  split_ifs at done
  split at done
  · cases done
    exact .inl rfl
  · cases done
    exact .inr ⟨rfl, rfl, rfl⟩

end Creation

/-! ## The claim -/

/-- `next_retry_at IS NULL OR next_retry_at <= now`. -/
def Job.due (now : Int) (job : Job) : Bool :=
  match job.nextRetryAt with
  | none => true
  | some retry => retry ≤ now

def Job.claimable (now : Int) (job : Job) : Bool := (job.status = .queued || job.status = .retrying) && job.due now

/-- The select of `claim_job`. -/
def claimCandidate (now : Int) (queue : Queue) : Option Job :=
  (orderRows (fun job => ⟨job.createdAt, some 0⟩) (·.id) (queue.jobs.filter (Job.claimable now))).head?

theorem claimCandidate_mem {now : Int} {queue : Queue} {candidate : Job} (found : claimCandidate now queue = some candidate) :
    candidate ∈ queue.jobs ∧ candidate.claimable now = true := by
  have member := List.mem_of_head? found
  rwa [orderRows, List.mem_insertionSort, List.mem_filter] at member

/-- The row the update of `claim_job` looks for. -/
def Job.unclaimed (candidate : Job) (now : Int) (row : Job) : Bool :=
  row.id = candidate.id && row.status = candidate.status && row.due now

/-- The update of `claim_job`. -/
def claimUpdate (workerId : String) (candidate : Job) (now leaseUntil : Int) : Write where
  apply row :=
    if Job.unclaimed candidate now row then
      { row with
        status := .running
        startedAt := some now
        workerId := some workerId
        leaseExpiresAt := some leaseUntil
        attemptCount := candidate.attemptCount + 1 }
    else row
  id row := by split <;> rfl
  maxAttempts row := by split <;> rfl

/-! ## Recovery and retry -/

/-- The select of `recover_stale_jobs`. -/
def staleJobs (staleBefore : Int) (queue : Queue) : List Job :=
  queue.jobs.filter fun job => job.status = .running && job.leaseExpiresAt.any (· < staleBefore)

def recovered (now : Int) (job : Job) : Job :=
  let job :=
    if job.maxAttempts ≤ job.attemptCount then
      { job with
        status := .deadLettered
        completedAt := some now
        lastErrorCode := some "WORKER_CRASH_RECOVERY_EXHAUSTED"
        lastErrorMessageSafe := some "Worker lease expired and retry limit was exhausted." }
    else
      { job with
        status := .retrying
        nextRetryAt := some now
        lastErrorCode := some "WORKER_CRASH_RECOVERED"
        lastErrorMessageSafe := some "Worker lease expired; job returned to retryable state." }
  { job with workerId := none, leaseExpiresAt := none }

/-- The commit of `recover_stale_jobs`: every job it selected, whatever its row holds by then. -/
def recoverStaleJobs (now : Int) (stale : List Job) : Write where
  apply row :=
    match stale.find? fun job => job.id = row.id with
    | none => row
    | some job => job.flush (recovered now job) row
  id row := by split <;> rfl
  maxAttempts row := by split <;> rfl

def retryJob (job : Job) : Except JobError Job :=
  if job.status ≠ .failed ∧ job.status ≠ .deadLettered then .error (.value "Only terminal failed jobs can be retried")
  else .ok { job with
    status := .queued
    attemptCount := 0
    resultJson := none
    startedAt := none
    completedAt := none
    nextRetryAt := none
    lastErrorCode := none
    lastErrorMessageSafe := none
    workerId := none
    leaseExpiresAt := none }

/-- `retry_job` of a stored job. -/
def retryUpdate (id : String) : Write where
  apply row := if row.id = id then (retryJob row).toOption.getD row else row
  id row := by
    unfold retryJob
    split_ifs <;> rfl
  maxAttempts row := by
    unfold retryJob
    split_ifs <;> rfl

end RCAA.Jobs
