import RCAA.Jobs.Service
import RCAA.Library.Runs

/-! The workers of the queue, interleaved. A worker is one pass of `run_once` under the
id it draws: it recovers stale jobs, claims one and executes it. A select and the write
that follows it are steps of their own, and so are the start check, each heartbeat and
the commit of the outcome. What a handler does to other tables is left out. All workers
read one clock, which moves on before each step. -/

namespace RCAA.Jobs

/-- Where a worker is in its pass. -/
inductive Phase where
  | idle
  /-- Between the select of the stale jobs and the commit. -/
  | recovering (stale : List Job)
  | recovered
  /-- Between the select of a candidate, at the time `now`, and the update. -/
  | claiming (candidate : Job) (now : Int)
  | claimed (jobId : String)
  /-- Running the handler of the job it loaded. The time of its last renewal is
  recorded for the proofs only. -/
  | executing (job : Job) (renewedAt : Int)
  /-- Committed, with a heartbeat that may still be under way. -/
  | finished (jobId : String)
  | stopped

structure State where
  clock : Int
  queue : Queue := {}
  phase : String → Phase := fun _ => .idle

inductive Event where
  | createJob (keys : KeySource) (request : JobRequest)
  | retryJob (jobId : String)
  /-- `waited` is the time since the bound of the select was computed. -/
  | recoverSelect (workerId : String) (waited : Nat)
  | recoverCommit (workerId : String)
  /-- The select and the commit in one step. -/
  | recoverAtOnce (workerId : String) (waited : Nat)
  /-- `waited` is the time since `now` was read. -/
  | claimSelect (workerId : String) (waited : Nat)
  /-- `waited` is the time since the new lease was computed. -/
  | claimUpdate (workerId : String) (waited : Nat)
  | start (workerId : String)
  | heartbeat (workerId : String)
  | succeed (workerId : String) (result : Json)
  | fail (workerId : String) (exc : Raised)
  /-- The pass ends, or its process dies. -/
  | stop (workerId : String)

/-- The worker whose step it is. -/
def Event.workerId : Event → Option String
  | .createJob .. | .retryJob .. => none
  | .recoverSelect workerId _ | .recoverCommit workerId | .recoverAtOnce workerId _ | .claimSelect workerId _
  | .claimUpdate workerId _ | .start workerId | .heartbeat workerId | .succeed workerId _ | .fail workerId _
  | .stop workerId => some workerId

/-- The worker whose outcome it commits. -/
def Event.completes : Event → Option String
  | .succeed workerId _ | .fail workerId _ => some workerId
  | _ => none

structure Action where
  elapsed : Nat
  event : Event

namespace State

def enter (s : State) (workerId : String) (phase : Phase) : State :=
  { s with phase := Function.update s.phase workerId phase }

def write (s : State) (w : Write) : State := { s with queue := s.queue.write w }

def tick (s : State) (elapsed : Nat) : State := { s with clock := s.clock + elapsed }

@[simp] theorem enter_phase (s : State) (workerId : String) (phase : Phase) :
    (s.enter workerId phase).phase workerId = phase := Function.update_self ..

theorem enter_phase_of_ne {v workerId : String} (differs : v ≠ workerId) (s : State) (phase : Phase) :
    (s.enter workerId phase).phase v = s.phase v := Function.update_of_ne differs ..

/-- A worker enters the phase it is in. -/
theorem enter_same {s : State} {workerId : String} {phase : Phase} (held : s.phase workerId = phase) :
    s.enter workerId phase = s := by
  rw [enter, ← held, Function.update_eq_self]

@[simp] theorem write_phase (s : State) (w : Write) : (s.write w).phase = s.phase := rfl

end State

/-! ## Writes of `execute_claimed_job` -/

def heartbeatUpdate (jobId workerId : String) (leaseUntil : Int) : Write where
  apply row :=
    if row.id = jobId ∧ row.status = .running ∧ row.workerId = some workerId then
      { row with leaseExpiresAt := some leaseUntil }
    else row
  id row := by split <;> rfl
  maxAttempts row := by split <;> rfl

def succeeded (now : Int) (result : Json) (job : Job) : Job :=
  { job with
    resultJson := some (match result with
      | .object fields => .object fields
      | value => .object [("result", value)])
    status := .succeeded
    completedAt := some now
    lastErrorCode := none
    lastErrorMessageSafe := none
    workerId := none
    leaseExpiresAt := none }

/-- The commit of a success: the job as it was loaded when the execution started. -/
def succeedCommit (now : Int) (result : Json) (job : Job) : Write where
  apply row := if row.id = job.id then job.flush (succeeded now result job) row else row
  id row := by split <;> rfl
  maxAttempts row := by split <;> rfl

section Steps
variable [Platform]

def failed (settings : WorkerSettings) (now : Int) (exc : Raised) (job : Job) : Job :=
  let (category, message) := safeError exc
  let job :=
    if retryable exc ∧ job.attemptCount < job.maxAttempts then
      { job with status := .retrying, nextRetryAt := some (now + settings.delay job.attemptCount) }
    else
      { job with
        status := if job.maxAttempts ≤ job.attemptCount then .deadLettered else .failed
        completedAt := some now }
  { job with
    lastErrorCode := some (firstChars 80 (upper category))
    lastErrorMessageSafe := some message
    workerId := none
    leaseExpiresAt := none }

/-- The commit of a failure: the job is loaded again and written. -/
def failCommit (settings : WorkerSettings) (now : Int) (exc : Raised) (jobId : String) : Write where
  apply row := if row.id = jobId then failed settings now exc row else row
  id row := by
    unfold failed
    split_ifs <;> rfl
  maxAttempts row := by
    unfold failed
    split_ifs <;> rfl

/-- The checks `execute_claimed_job` makes before it runs the handler. -/
def Job.startable (now : Int) (workerId : String) (job : Job) : Bool :=
  job.status = .running && job.workerId = some workerId && job.leaseExpiresAt.all (now < ·)

/-! ## Steps -/

section Step
variable (settings : WorkerSettings)

def recoverSelect (s : State) (workerId : String) (waited : Nat) : State :=
  match s.phase workerId with
  | .idle => s.enter workerId (.recovering (staleJobs (s.clock - waited - settings.lease) s.queue))
  | _ => s

def recoverCommit (s : State) (workerId : String) : State :=
  match s.phase workerId with
  | .recovering stale => (s.enter workerId .recovered).write (recoverStaleJobs s.clock stale)
  | _ => s

def recoverAtOnce (s : State) (workerId : String) (waited : Nat) : State :=
  match s.phase workerId with
  | .idle => (s.enter workerId .recovered).write
      (recoverStaleJobs s.clock (staleJobs (s.clock - waited - settings.lease) s.queue))
  | _ => s

def claimSelect (s : State) (workerId : String) (waited : Nat) : State :=
  match s.phase workerId with
  | .recovered => match claimCandidate (s.clock - waited) s.queue with
    | none => s.enter workerId .stopped
    | some candidate => s.enter workerId (.claiming candidate (s.clock - waited))
  | _ => s

/-- A claim whose update changes no row ends the pass. -/
def claimCommit (s : State) (workerId : String) (waited : Nat) : State :=
  match s.phase workerId with
  | .claiming candidate now =>
    if s.queue.jobs.any (Job.unclaimed candidate now) then
      (s.enter workerId (.claimed candidate.id)).write
        (claimUpdate workerId candidate now (s.clock - waited + settings.lease))
    else s.enter workerId .stopped
  | _ => s

def start (s : State) (workerId : String) : State :=
  match s.phase workerId with
  | .claimed jobId => match s.queue.job? jobId with
    | none => s.enter workerId .stopped
    | some job =>
      if job.startable s.clock workerId then
        s.enter workerId (.executing job ((job.leaseExpiresAt.getD (s.clock + settings.lease)) - settings.lease))
      else s.enter workerId .stopped
  | _ => s

def heartbeat (s : State) (workerId : String) : State :=
  match s.phase workerId with
  | .executing job _ =>
    (s.write (heartbeatUpdate job.id workerId (s.clock + settings.lease))).enter workerId (.executing job s.clock)
  | .finished jobId => s.write (heartbeatUpdate jobId workerId (s.clock + settings.lease))
  | _ => s

def succeed (s : State) (workerId : String) (result : Json) : State :=
  match s.phase workerId with
  | .executing job _ => (s.enter workerId (.finished job.id)).write (succeedCommit s.clock result job)
  | _ => s

def fail (s : State) (workerId : String) (exc : Raised) : State :=
  match s.phase workerId with
  | .executing job _ => (s.enter workerId (.finished job.id)).write (failCommit settings s.clock exc job.id)
  | _ => s

def create (s : State) (keys : KeySource) (request : JobRequest) : State :=
  match createJob keys s.clock s.queue request with
  | .error _ => s
  | .ok (_, _, queue) => { s with queue }

def perform (s : State) : Event → State
  | .createJob keys request => create s keys request
  | .retryJob jobId => s.write (retryUpdate jobId)
  | .recoverSelect workerId waited => recoverSelect settings s workerId waited
  | .recoverCommit workerId => recoverCommit s workerId
  | .recoverAtOnce workerId waited => recoverAtOnce settings s workerId waited
  | .claimSelect workerId waited => claimSelect s workerId waited
  | .claimUpdate workerId waited => claimCommit settings s workerId waited
  | .start workerId => start settings s workerId
  | .heartbeat workerId => heartbeat settings s workerId
  | .succeed workerId result => succeed s workerId result
  | .fail workerId exc => fail settings s workerId exc
  | .stop workerId => s.enter workerId .stopped

def step (s : State) (a : Action) : State := perform settings (s.tick a.elapsed) a.event

variable {settings}

/-- Only the passing of time moves the clock. -/
theorem perform_clock (s : State) (event : Event) : (perform settings s event).clock = s.clock := by
  cases event <;> simp only [perform, create, recoverSelect, recoverCommit, recoverAtOnce, claimSelect, claimCommit, start,
    heartbeat, succeed, fail]
  all_goals repeat' split
  all_goals rfl

/-- A step of one worker leaves the phase of the others. -/
theorem step_phase_other {s : State} {a : Action} {v : String} (other : a.event.workerId ≠ some v) :
    (step settings s a).phase v = s.phase v := by
  have kept (phase : Phase) {t : State} {workerId : String} (same : t.phase v = s.phase v) (differs : v ≠ workerId) :
      (t.enter workerId phase).phase v = s.phase v := (State.enter_phase_of_ne differs t phase).trans same
  have ticked : (s.tick a.elapsed).phase v = s.phase v := rfl
  unfold step
  generalize s.tick a.elapsed = t at ticked
  cases event : a.event with
  | createJob keys request =>
    simp only [perform, create]
    split <;> exact ticked
  | retryJob jobId => exact ticked
  | recoverSelect workerId waited | recoverCommit workerId | recoverAtOnce workerId waited | claimSelect workerId waited
  | claimUpdate workerId waited | start workerId | heartbeat workerId | succeed workerId result | fail workerId exc
  | stop workerId =>
    have differs : v ≠ workerId := fun same => other (by rw [event, same]; rfl)
    simp only [perform, recoverSelect, recoverCommit, recoverAtOnce, claimSelect, claimCommit, start, heartbeat, succeed,
      fail]
    repeat' split
    all_goals first
      | exact kept _ ticked differs
      | exact ticked

theorem run_phase_other {s : State} {actions : List Action} {v : String}
    (others : ∀ a ∈ actions, a.event.workerId ≠ some v) : (Runs.run (step settings) s actions).phase v = s.phase v := by
  induction actions generalizing s with
  | nil => rfl
  | cons a rest ih =>
    rw [Runs.run_cons, ih fun b member => others b (List.mem_cons_of_mem _ member)]
    exact step_phase_other (others a List.mem_cons_self)

end Step
end Steps
end RCAA.Jobs
