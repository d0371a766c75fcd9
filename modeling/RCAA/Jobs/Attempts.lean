import RCAA.Jobs.Ownership

/-! The count of attempts. A claim writes the count it read plus one, and its update
checks the status and the retry time only. That no attempt is lost rests on the clock:
a job that returns to the queue waits for a time later than every select before. -/

namespace RCAA.Jobs
variable {settings : WorkerSettings} {s : State} {a : Action}

/-- A step that is a whole operation, or one of the two steps of a claim. -/
def Event.atomic : Event → Bool
  | .recoverSelect .. | .recoverCommit .. => false
  | _ => true

/-- The step is taken at a time of its own, and only claims are taken apart. -/
def Sequential (a : Action) : Prop := 0 < a.elapsed ∧ a.event.atomic = true

instance (a : Action) : Decidable (Sequential a) := inferInstanceAs (Decidable (_ ∧ _))

/-! ## What happens to a row -/

/-- A row after a step that neither claims it nor retries it by hand: it waits as before,
it has ended, or it waits for a time that is still to come. -/
inductive Settled (clock : Int) (row row' : Job) : Prop where
  | kept (status : row'.status = row.status) (retry : row'.nextRetryAt = row.nextRetryAt)
  | ended (queued : row'.status ≠ .queued) (retrying : row'.status ≠ .retrying)
  | retried (status : row'.status = .retrying) (more : row.attemptCount < row.maxAttempts)
      (retry : ∃ time, row'.nextRetryAt = some time ∧ clock ≤ time)

/-- What a statement other than a claim or a manual retry does to the rows it meets. -/
structure Settles (clock : Int) (queue : Queue) (w : Write) : Prop where
  attempts : ∀ row ∈ queue.jobs, (w.apply row).attemptCount = row.attemptCount
  settled : ∀ row ∈ queue.jobs, Settled clock row (w.apply row)

theorem heartbeat_settles (clock : Int) (queue : Queue) (jobId workerId : String) (leaseUntil : Int) :
    Settles clock queue (heartbeatUpdate jobId workerId leaseUntil) := by
  constructor
  · intro row _
    simp only [heartbeatUpdate]
    split <;> rfl
  · intro row _
    simp only [heartbeatUpdate]
    split <;> exact .kept rfl rfl

/-- Also of a worker that lost its lease. -/
theorem succeed_settles (clock : Int) (queue : Queue) (result : Json) (job : Job) :
    Settles clock queue (succeedCommit clock result job) := by
  constructor
  · intro row _
    simp only [succeedCommit]
    split <;> rfl
  · intro row _
    simp only [succeedCommit]
    split
    · rcases flushed_cases job.status .succeeded row.status with kept | written
      · exact .kept kept (flushed_unchanged job.nextRetryAt row.nextRetryAt)
      · have status : (job.flush (succeeded clock result job) row).status = .succeeded := written
        exact .ended (by simp [status]) (by simp [status])
    · exact .kept rfl rfl

theorem recovered_settled (clock : Int) (row : Job) : Settled clock row (recovered clock row) := by
  unfold recovered
  split
  · exact .ended (by simp) (by simp)
  · next more => exact .retried rfl (not_le.mp more) ⟨clock, rfl, le_rfl⟩

/-- A recovery writes the rows it selected in the same step. -/
theorem recover_settles (clock staleBefore : Int) (queue : Queue) :
    Settles clock queue (recoverStaleJobs clock (staleJobs staleBefore queue)) := by
  have rows : ∀ row ∈ queue.jobs, (recoverStaleJobs clock (staleJobs staleBefore queue)).apply row = row ∨
      (recoverStaleJobs clock (staleJobs staleBefore queue)).apply row = row.flush (recovered clock row) row := by
    intro row member
    simp only [recoverStaleJobs]
    split
    · exact .inl rfl
    · next job found =>
      have id : job.id = row.id := by simpa using List.find?_some found
      have stored := (mem_staleJobs.mp (List.mem_of_find?_eq_some found)).1
      rw [Queue.eq_of_id stored member id]
      exact .inr rfl
  constructor
  · intro row member
    rcases rows row member with same | written
    · rw [same]
    · rw [written]
      rfl
  · intro row member
    rcases rows row member with same | written
    · rw [same]
      exact .kept rfl rfl
    · rw [written]
      have settled := recovered_settled clock row
      have status := Job.flush_status row (recovered clock row) row
      have retry := Job.flush_nextRetryAt row (recovered clock row) row
      rw [flushed_self] at status retry
      cases settled with
      | kept status' retry' => exact .kept (status.trans status') (retry.trans retry')
      | ended queued retrying => exact .ended (status ▸ queued) (status ▸ retrying)
      | retried status' more retry' => exact .retried (status.trans status') more (by rwa [retry])

theorem fail_settles [Platform] (clock : Int) (queue : Queue) (exc : Raised) (jobId : String) :
    Settles clock queue (failCommit settings clock exc jobId) := by
  constructor
  · intro row _
    simp only [failCommit, failed]
    split_ifs <;> rfl
  · intro row _
    simp only [failCommit, failed]
    split_ifs with own again exhausted
    · have wait := settings.delay_nonneg row.attemptCount
      exact .retried rfl again.2 ⟨_, rfl, by omega⟩
    · exact .ended (by simp) (by simp)
    · exact .ended (by simp) (by simp)
    · exact .kept rfl rfl

/-! ## One step -/

/-- The update of the worker finds the job as its select left it, and claims it. -/
def claims (jobId : String) (s : State) (a : Action) : Bool :=
  match a.event with
  | .claimUpdate workerId _ => match s.phase workerId with
    | .claiming candidate now => candidate.id = jobId && s.queue.jobs.any (Job.unclaimed candidate now)
    | _ => false
  | _ => false

/-- What a step does, at the time it is taken. -/
inductive Moved (s : State) (a : Action) : State → Prop where
  | entered (workerId : String) (phase : Phase) (quiet : ∀ candidate now, phase ≠ .claiming candidate now)
      (idle : ∀ jobId, claims jobId s a = false) : Moved s a ((s.tick a.elapsed).enter workerId phase)
  | selected (workerId : String) (candidate : Job) (waited : Nat)
      (found : claimCandidate (s.clock + a.elapsed - waited) s.queue = some candidate)
      (idle : ∀ jobId, claims jobId s a = false) :
      Moved s a ((s.tick a.elapsed).enter workerId (.claiming candidate (s.clock + a.elapsed - waited)))
  | created (queue : Queue) (job : Job) (grows : queue.jobs = s.queue.jobs ++ [job]) (status : job.status = .queued)
      (attempts : job.attemptCount = 0) (idle : ∀ jobId, claims jobId s a = false) :
      Moved s a { s.tick a.elapsed with queue }
  | requeued (jobId : String) (event : a.event = .retryJob jobId) : Moved s a ((s.tick a.elapsed).write (retryUpdate jobId))
  | claimed (workerId : String) (candidate : Job) (now leaseUntil : Int)
      (selected : s.phase workerId = .claiming candidate now)
      (claimed : ∀ jobId, claims jobId s a = (candidate.id = jobId && s.queue.jobs.any (Job.unclaimed candidate now))) :
      Moved s a (((s.tick a.elapsed).enter workerId (.claimed candidate.id)).write
        (claimUpdate workerId candidate now leaseUntil))
  | settled (workerId : String) (phase : Phase) (w : Write) (quiet : ∀ candidate now, phase ≠ .claiming candidate now)
      (settles : Settles (s.clock + a.elapsed) s.queue w) (idle : ∀ jobId, claims jobId s a = false) :
      Moved s a (((s.tick a.elapsed).enter workerId phase).write w)
  | stayed (idle : ∀ jobId, claims jobId s a = false) : Moved s a (s.tick a.elapsed)

section Step
variable {workerId : String} {waited : Nat}

theorem not_claims (other : ∀ workerId waited, a.event ≠ .claimUpdate workerId waited) (jobId : String) :
    claims jobId s a = false := by
  unfold claims
  split
  · next workerId waited event => exact absurd event (other workerId waited)
  · rfl

theorem recoverAtOnce_moved (idle : ∀ jobId, claims jobId s a = false) :
    Moved s a (recoverAtOnce settings (s.tick a.elapsed) workerId waited) := by
  unfold recoverAtOnce
  split
  · exact .settled workerId .recovered _ (by simp) (recover_settles _ _ _) idle
  · exact .stayed idle

theorem claimSelect_moved (idle : ∀ jobId, claims jobId s a = false) :
    Moved s a (claimSelect (s.tick a.elapsed) workerId waited) := by
  unfold claimSelect
  split
  · split
    · exact .entered workerId .stopped (by simp) idle
    · next candidate found => exact .selected workerId candidate waited found idle
  · exact .stayed idle

theorem claimCommit_moved (event : a.event = .claimUpdate workerId waited) :
    Moved s a (claimCommit settings (s.tick a.elapsed) workerId waited) := by
  unfold claimCommit
  split
  · next candidate now selected =>
    have selected : s.phase workerId = .claiming candidate now := selected
    have decided : ∀ jobId, claims jobId s a = (candidate.id = jobId && s.queue.jobs.any (Job.unclaimed candidate now)) := by
      intro jobId
      simp only [claims, event, selected]
    split
    · exact .claimed workerId candidate now _ selected decided
    · next refused =>
      apply Moved.entered workerId .stopped (by simp)
      intro jobId
      rw [decided, Bool.and_eq_false_iff]
      exact .inr (Bool.eq_false_iff.mpr refused)
  · next other =>
    apply Moved.stayed
    intro jobId
    unfold claims
    rw [event]
    simp only
    split
    · next candidate now selected => exact absurd selected (other candidate now)
    · rfl

theorem start_moved (idle : ∀ jobId, claims jobId s a = false) :
    Moved s a (start settings (s.tick a.elapsed) workerId) := by
  unfold start
  split
  · split
    · exact .entered workerId .stopped (by simp) idle
    · split
      · exact .entered workerId (.executing _ _) (by simp) idle
      · exact .entered workerId .stopped (by simp) idle
  · exact .stayed idle

theorem heartbeat_moved (idle : ∀ jobId, claims jobId s a = false) :
    Moved s a (heartbeat settings (s.tick a.elapsed) workerId) := by
  unfold heartbeat
  split
  · exact .settled workerId (.executing _ _) _ (by simp) (heartbeat_settles _ _ _ _ _) idle
  · next jobId finished =>
    have moved := Moved.settled workerId (.finished jobId) (heartbeatUpdate jobId workerId ((s.tick a.elapsed).clock +
      settings.lease)) (by simp) (heartbeat_settles _ _ _ _ _) idle
    rwa [State.enter_same finished] at moved
  · exact .stayed idle

theorem succeed_moved {result : Json} (idle : ∀ jobId, claims jobId s a = false) :
    Moved s a (succeed (s.tick a.elapsed) workerId result) := by
  unfold succeed
  split
  · exact .settled workerId (.finished _) _ (by simp) (succeed_settles _ _ _ _) idle
  · exact .stayed idle

variable [Platform]

theorem create_moved {keys : KeySource} {request : JobRequest} (idle : ∀ jobId, claims jobId s a = false) :
    Moved s a (create (s.tick a.elapsed) keys request) := by
  unfold create
  split
  · exact .stayed idle
  · next job created queue done =>
    rcases createJob_cases done with same | ⟨grows, status, attempts⟩
    · rw [same]
      exact .stayed idle
    · exact .created queue job grows status attempts idle

theorem fail_moved {exc : Raised} (idle : ∀ jobId, claims jobId s a = false) :
    Moved s a (fail settings (s.tick a.elapsed) workerId exc) := by
  unfold fail
  split
  · exact .settled workerId (.finished _) _ (by simp) (fail_settles _ _ _ _) idle
  · exact .stayed idle

theorem step_moved (sequential : Sequential a) : Moved s a (step settings s a) := by
  have atomic := sequential.2
  unfold Jobs.step
  cases event : a.event with
  | createJob keys request => exact create_moved (not_claims (by simp [event]))
  | retryJob jobId => exact .requeued jobId event
  -- The recovery is one step: its select and its update are not taken apart.
  | recoverSelect workerId waited => simp [event, Event.atomic] at atomic
  | recoverCommit workerId => simp [event, Event.atomic] at atomic
  | recoverAtOnce workerId waited => exact recoverAtOnce_moved (not_claims (by simp [event]))
  | claimSelect workerId waited => exact claimSelect_moved (not_claims (by simp [event]))
  | claimUpdate workerId waited => exact claimCommit_moved event
  | start workerId => exact start_moved (not_claims (by simp [event]))
  | heartbeat workerId => exact heartbeat_moved (not_claims (by simp [event]))
  | succeed workerId result => exact succeed_moved (not_claims (by simp [event]))
  | fail workerId exc => exact fail_moved (not_claims (by simp [event]))
  | stop workerId => exact .entered workerId .stopped (by simp) (not_claims (by simp [event]))

end Step

/-! ## The invariant -/

structure Job.Accounted (job : Job) : Prop where
  le : job.attemptCount ≤ job.maxAttempts
  queued : job.status = .queued → job.attemptCount = 0
  retrying : job.status = .retrying → job.attemptCount < job.maxAttempts

theorem Settled.accounted {clock : Int} {row row' : Job} (settled : Settled clock row row') (accounted : row.Accounted)
    (attempts : row'.attemptCount = row.attemptCount) (bound : row'.maxAttempts = row.maxAttempts) : row'.Accounted := by
  refine ⟨?_, ?_, ?_⟩
  · rw [attempts, bound]
    exact accounted.le
  · intro queued
    rw [attempts]
    cases settled with
    | kept status retry => exact accounted.queued (status.symm.trans queued)
    | ended notQueued notRetrying => exact absurd queued notQueued
    | retried status more retry => exact absurd (status.symm.trans queued) (by decide)
  · intro retrying
    rw [attempts, bound]
    cases settled with
    | kept status retry => exact accounted.retrying (status.symm.trans retrying)
    | ended notQueued notRetrying => exact absurd retrying notRetrying
    | retried status more retry => exact more

theorem Job.unclaimed_iff {candidate row : Job} {now : Int} :
    Job.unclaimed candidate now row = true ↔ row.id = candidate.id ∧ row.status = candidate.status ∧ row.due now = true := by
  simp only [Job.unclaimed, Bool.and_eq_true, decide_eq_true_eq, and_assoc]

/-- A row the update of an earlier select still takes is as it was before the step. -/
theorem Settled.unclaimed {clock now : Int} {candidate row row' : Job} (settled : Settled clock row row')
    (waiting : candidate.status = .queued ∨ candidate.status = .retrying) (earlier : now < clock) (id : row'.id = row.id)
    (unclaimed : Job.unclaimed candidate now row' = true) : Job.unclaimed candidate now row = true := by
  rw [Job.unclaimed_iff] at unclaimed ⊢
  obtain ⟨same, status, due⟩ := unclaimed
  cases settled with
  | kept kept retry =>
    refine ⟨id.symm.trans same, kept.symm.trans status, ?_⟩
    rwa [Job.due, ← retry]
  | ended notQueued notRetrying =>
    rw [status] at notQueued notRetrying
    exact absurd waiting (not_or.mpr ⟨notQueued, notRetrying⟩)
  | retried status more retry =>
    obtain ⟨time, retry, later⟩ := retry
    simp only [Job.due, retry, decide_eq_true_eq] at due
    omega

/-- What a select promises its update: the count it read is the row's, if the row can be claimed. -/
structure Candidate (s : State) (candidate : Job) (now : Int) : Prop where
  waiting : candidate.status = .queued ∨ candidate.status = .retrying
  accounted : candidate.Accounted
  past : now ≤ s.clock
  current : ∀ row ∈ s.queue.jobs, Job.unclaimed candidate now row = true → row.attemptCount = candidate.attemptCount

/-- Every row that can be claimed was so before, with the same count, or is new in the queue. -/
theorem Candidate.later {t : State} {candidate : Job} {now : Int} (read : Candidate s candidate now)
    (clock : s.clock ≤ t.clock)
    (rows : ∀ row' ∈ t.queue.jobs, Job.unclaimed candidate now row' = true →
      (∃ row ∈ s.queue.jobs, Job.unclaimed candidate now row = true ∧ row'.attemptCount = row.attemptCount) ∨
        (row'.status = .queued ∧ row'.attemptCount = 0)) : Candidate t candidate now := by
  refine ⟨read.waiting, read.accounted, read.past.trans clock, fun row' member unclaimed => ?_⟩
  rcases rows row' member unclaimed with ⟨row, stored, before, same⟩ | ⟨queued, none⟩
  · rw [same]
    exact read.current row stored before
  · have status := (Job.unclaimed_iff.mp unclaimed).2.1
    rw [none, read.accounted.queued (status.symm.trans queued)]

structure Accounting (s : State) : Prop where
  rows : ∀ row ∈ s.queue.jobs, row.Accounted
  candidates : ∀ workerId candidate now, s.phase workerId = .claiming candidate now → Candidate s candidate now

theorem accounting_initial (clock : Int) : Accounting { clock } := by
  constructor
  · intro row member
    cases member
  · intro workerId candidate now selected
    cases selected

/-- A worker enters a phase that holds no candidate. -/
theorem Accounting.enter {workerId : String} {phase : Phase} (accounting : Accounting s)
    (quiet : ∀ candidate now, phase ≠ .claiming candidate now) : Accounting (s.enter workerId phase) := by
  refine ⟨accounting.rows, fun v candidate now selected => ?_⟩
  by_cases own : v = workerId
  · subst own
    rw [State.enter_phase] at selected
    exact absurd selected (quiet candidate now)
  · rw [State.enter_phase_of_ne own] at selected
    exact (accounting.candidates v candidate now selected).later le_rfl
      fun row' member unclaimed => .inl ⟨row', member, unclaimed, rfl⟩

theorem Accounting.tick (accounting : Accounting s) (elapsed : Nat) : Accounting (s.tick elapsed) := by
  refine ⟨accounting.rows, fun v candidate now selected => ?_⟩
  apply (accounting.candidates v candidate now selected).later
  · simp only [State.tick]
    omega
  · exact fun row' member unclaimed => .inl ⟨row', member, unclaimed, rfl⟩

/-- A write whose rows stay accounted for and come back to no candidate. -/
theorem Accounting.write {w : Write} (accounting : Accounting s) (elapsed : Nat)
    (accounted : ∀ row ∈ s.queue.jobs, (w.apply row).Accounted)
    (rows : ∀ candidate now, Candidate s candidate now → ∀ row ∈ s.queue.jobs,
      Job.unclaimed candidate now (w.apply row) = true →
        (Job.unclaimed candidate now row = true ∧ (w.apply row).attemptCount = row.attemptCount) ∨
          ((w.apply row).status = .queued ∧ (w.apply row).attemptCount = 0)) :
    Accounting ((s.tick elapsed).write w) := by
  constructor
  · intro row' member
    obtain ⟨row, stored, rfl⟩ := Queue.mem_write.mp member
    exact accounted row stored
  · intro workerId candidate now selected
    have read := accounting.candidates workerId candidate now selected
    apply read.later
    · change s.clock ≤ s.clock + elapsed
      omega
    · intro row' member unclaimed
      obtain ⟨row, stored, rfl⟩ := Queue.mem_write.mp member
      rcases rows candidate now read row stored unclaimed with ⟨before, same⟩ | new
      · exact .inl ⟨row, stored, before, same⟩
      · exact .inr new

theorem retryUpdate_cases (id : String) (row : Job) : (retryUpdate id).apply row = row ∨
    ((retryUpdate id).apply row).status = .queued ∧ ((retryUpdate id).apply row).attemptCount = 0 := by
  simp only [retryUpdate, retryJob]
  split
  · split
    · exact .inl rfl
    · exact .inr ⟨rfl, rfl⟩
  · exact .inl rfl

theorem accounted_of_new {job : Job} (status : job.status = .queued) (attempts : job.attemptCount = 0) : job.Accounted := by
  refine ⟨by omega, fun _ => attempts, fun retrying => ?_⟩
  exact absurd (status.symm.trans retrying) (by decide)

theorem claimCandidate_reads {now : Int} {candidate : Job} (accounting : Accounting s)
    (found : claimCandidate now s.queue = some candidate) (past : now ≤ s.clock) : Candidate s candidate now := by
  obtain ⟨member, claimable⟩ := claimCandidate_mem found
  simp only [Job.claimable, Bool.and_eq_true, Bool.or_eq_true, decide_eq_true_eq] at claimable
  refine ⟨claimable.1, accounting.rows candidate member, past, fun row stored unclaimed => ?_⟩
  rw [Queue.eq_of_id stored member (Job.unclaimed_iff.mp unclaimed).1]

/-- The update of a claim: the row it takes is running with one attempt more. -/
theorem Candidate.claimed {candidate row : Job} {now : Int} (read : Candidate s candidate now) (workerId : String)
    (leaseUntil : Int) (member : row ∈ s.queue.jobs) (unclaimed : Job.unclaimed candidate now row = true) :
    ((claimUpdate workerId candidate now leaseUntil).apply row).status = .running ∧
      ((claimUpdate workerId candidate now leaseUntil).apply row).attemptCount = row.attemptCount + 1 := by
  simp only [claimUpdate, unclaimed, if_true]
  exact ⟨trivial, by rw [read.current row member unclaimed]⟩

theorem Candidate.claimed_accounted {workerId : String} {candidate row : Job} {now leaseUntil : Int}
    (read : Candidate s candidate now) (member : row ∈ s.queue.jobs) (unclaimed : Job.unclaimed candidate now row = true)
    (accounted : row.Accounted) : ((claimUpdate workerId candidate now leaseUntil).apply row).Accounted := by
  obtain ⟨running, more⟩ := read.claimed workerId leaseUntil member unclaimed
  have status := (Job.unclaimed_iff.mp unclaimed).2.1
  have room : row.attemptCount < row.maxAttempts := by
    rcases read.waiting with queued | retrying
    · have first := accounted.queued (status.trans queued)
      have atLeast := row.maxAttempts.property.1
      omega
    · exact accounted.retrying (status.trans retrying)
  refine ⟨?_, ?_, ?_⟩
  · rw [more, Write.maxAttempts]
    omega
  · intro queued
    exact absurd (running.symm.trans queued) (by decide)
  · intro retrying
    exact absurd (running.symm.trans retrying) (by decide)

/-- A worker that holds a candidate of its own has read it as the queue stores it. -/
theorem Accounting.selected {workerId : String} {candidate : Job} {now : Int} (accounting : Accounting s)
    (read : Candidate s candidate now) : Accounting (s.enter workerId (.claiming candidate now)) := by
  refine ⟨accounting.rows, fun v other since selected => ?_⟩
  by_cases own : v = workerId
  · subst own
    rw [State.enter_phase] at selected
    cases selected
    exact read.later le_rfl fun row' member unclaimed => .inl ⟨row', member, unclaimed, rfl⟩
  · rw [State.enter_phase_of_ne own] at selected
    exact (accounting.candidates v other since selected).later le_rfl
      fun row' member unclaimed => .inl ⟨row', member, unclaimed, rfl⟩

theorem Accounting.claimed {workerId : String} {candidate : Job} {now leaseUntil : Int} (accounting : Accounting s)
    (elapsed : Nat) (read : Candidate s candidate now) :
    Accounting ((s.tick elapsed).write (claimUpdate workerId candidate now leaseUntil)) := by
  have rows (row : Job) : Job.unclaimed candidate now row = true ∨
      (claimUpdate workerId candidate now leaseUntil).apply row = row := by
    by_cases unclaimed : Job.unclaimed candidate now row = true
    · exact .inl unclaimed
    · exact .inr (if_neg unclaimed)
  apply accounting.write
  · intro row member
    rcases rows row with unclaimed | same
    · exact read.claimed_accounted member unclaimed (accounting.rows row member)
    · rw [same]
      exact accounting.rows row member
  · intro other since earlier row member unclaimed'
    rcases rows row with unclaimed | same
    · -- The claimed row is running, so no other candidate finds it.
      have running := (read.claimed workerId leaseUntil member unclaimed).1
      have status := (Job.unclaimed_iff.mp unclaimed').2.1
      rw [running] at status
      rcases earlier.waiting with waits | waits <;> exact absurd (status.trans waits) (by decide)
    · rw [same] at unclaimed' ⊢
      exact .inl ⟨unclaimed', rfl⟩

theorem Accounting.settled {w : Write} {elapsed : Nat} (accounting : Accounting s) (positive : 0 < elapsed)
    (settles : Settles (s.clock + elapsed) s.queue w) : Accounting ((s.tick elapsed).write w) := by
  apply accounting.write
  · intro row member
    exact (settles.settled row member).accounted (accounting.rows row member) (settles.attempts row member)
      (w.maxAttempts row)
  · intro candidate now read row member unclaimed
    have past := read.past
    exact .inl ⟨(settles.settled row member).unclaimed read.waiting (by omega) (w.id row) unclaimed,
      settles.attempts row member⟩

theorem Moved.accounting {s' : State} (moved : Moved s a s') (positive : 0 < a.elapsed) (accounting : Accounting s) :
    Accounting s' := by
  cases moved with
  | entered workerId phase quiet idle => exact (accounting.tick a.elapsed).enter quiet
  | selected workerId candidate waited found idle =>
    have past : s.clock + a.elapsed - waited ≤ (s.tick a.elapsed).clock := by
      simp only [State.tick]
      omega
    have ticked := accounting.tick a.elapsed
    exact ticked.selected (claimCandidate_reads ticked found past)
  | created queue job grows status attempts idle =>
    have cases {row : Job} (member : row ∈ queue.jobs) : row ∈ s.queue.jobs ∨ row = job := by
      rwa [grows, List.mem_append, List.mem_singleton] at member
    constructor
    · intro row member
      rcases cases member with old | rfl
      · exact accounting.rows row old
      · exact accounted_of_new status attempts
    · intro workerId candidate now selected
      apply (accounting.candidates workerId candidate now selected).later
      · change s.clock ≤ s.clock + a.elapsed
        omega
      · intro row member unclaimed
        rcases cases member with old | rfl
        · exact .inl ⟨row, old, unclaimed, rfl⟩
        · exact .inr ⟨status, attempts⟩
  | requeued jobId event =>
    apply accounting.write
    · intro row member
      rcases retryUpdate_cases jobId row with same | ⟨queued, none⟩
      · rw [same]
        exact accounting.rows row member
      · exact accounted_of_new queued none
    · intro candidate now _ row _ unclaimed
      rcases retryUpdate_cases jobId row with same | new
      · rw [same] at unclaimed ⊢
        exact .inl ⟨unclaimed, rfl⟩
      · exact .inr new
  | claimed workerId candidate now leaseUntil selected claimed =>
    exact (accounting.claimed a.elapsed (accounting.candidates workerId candidate now selected)).enter (by simp)
  | settled workerId phase w quiet settles idle => exact (accounting.settled positive settles).enter quiet
  | stayed idle => exact accounting.tick a.elapsed

/-! ## Counting the claims -/

/-- The count of the job's row; a job that is not there has had no attempt. -/
def attempts (jobId : String) (s : State) : Nat := ((s.queue.job? jobId).map (·.attemptCount)).getD 0

theorem attempts_of_mem {row : Job} (member : row ∈ s.queue.jobs) : attempts row.id s = row.attemptCount := by
  rw [attempts, Queue.job?_eq_some_iff.mpr ⟨member, rfl⟩]
  rfl

/-- A write that leaves the count of the job's row. -/
theorem attempts_write {w : Write} {jobId : String}
    (same : ∀ row ∈ s.queue.jobs, row.id = jobId → (w.apply row).attemptCount = row.attemptCount) :
    attempts jobId (s.write w) = attempts jobId s := by
  simp only [attempts, State.write, Queue.job?_write]
  cases found : s.queue.job? jobId with
  | none => rfl
  | some row =>
    obtain ⟨member, id⟩ := Queue.job?_eq_some_iff.mp found
    exact same row member id

theorem mem_of_claims {jobId : String} (claimed : claims jobId s a = true) : ∃ row ∈ s.queue.jobs, row.id = jobId := by
  unfold claims at claimed
  split at claimed
  · split at claimed
    · simp only [Bool.and_eq_true, decide_eq_true_eq, List.any_eq_true] at claimed
      obtain ⟨same, row, member, unclaimed⟩ := claimed
      exact ⟨row, member, (Job.unclaimed_iff.mp unclaimed).1.trans same⟩
    · cases claimed
  · cases claimed

/-- A step counts one attempt of the job it claims, and otherwise only a manual retry changes a count. -/
theorem Moved.attempts {s' : State} {jobId : String} (moved : Moved s a s') (accounting : Accounting s)
    (noRetry : a.event ≠ .retryJob jobId) :
    attempts jobId s' = attempts jobId s + if claims jobId s a then 1 else 0 := by
  cases moved with
  | entered workerId phase quiet idle =>
    rw [idle jobId]
    rfl
  | selected workerId candidate waited found idle =>
    rw [idle jobId]
    rfl
  | created queue job grows status none idle =>
    rw [idle jobId]
    simp only [Jobs.attempts, Queue.job?, grows, List.find?_append]
    cases s.queue.jobs.find? fun row => row.id = jobId with
    | some row => rfl
    | none =>
      rw [Option.none_or, List.find?_singleton]
      split
      · exact none
      · rfl
  | requeued other event =>
    have idle : claims jobId s a = false := by
      simp only [claims, event]
    rw [idle]
    refine attempts_write fun row _ id => ?_
    have differs : row.id ≠ other := by
      rintro rfl
      exact noRetry (id ▸ event)
    simp only [retryUpdate, if_neg differs]
  | claimed workerId candidate now leaseUntil selected decided =>
    have read := accounting.candidates workerId candidate now selected
    by_cases claimed : claims jobId s a = true
    · obtain ⟨same, taken⟩ := Bool.and_eq_true_iff.mp ((decided jobId).symm.trans claimed)
      obtain ⟨row, member, unclaimed⟩ := List.any_eq_true.mp taken
      obtain rfl : row.id = jobId := (Job.unclaimed_iff.mp unclaimed).1.trans (of_decide_eq_true same)
      have more := (read.claimed workerId leaseUntil member unclaimed).2
      rw [if_pos claimed, attempts_of_mem member, ← more, ← Write.id (claimUpdate workerId candidate now leaseUntil) row]
      exact attempts_of_mem (Queue.mem_write.mpr ⟨row, member, rfl⟩)
    · rw [if_neg claimed]
      refine attempts_write fun row member id => ?_
      have refused : ¬Job.unclaimed candidate now row = true := by
        intro unclaimed
        apply claimed
        rw [decided, Bool.and_eq_true_iff]
        exact ⟨decide_eq_true ((Job.unclaimed_iff.mp unclaimed).1.symm.trans id),
          List.any_eq_true.mpr ⟨row, member, unclaimed⟩⟩
      simp only [claimUpdate, if_neg refused]
  | settled workerId phase w quiet settles idle =>
    rw [idle jobId]
    exact attempts_write fun row member _ => settles.attempts row member
  | stayed idle =>
    rw [idle jobId]
    rfl

section Runs
variable [Platform]

/-- How often a run claims the job. -/
def claimCount (settings : WorkerSettings) (jobId : String) : State → List Action → Nat
  | _, [] => 0
  | s, a :: rest => (if claims jobId s a then 1 else 0) + claimCount settings jobId (step settings s a) rest

theorem run_accounting {actions : List Action} (sequential : ∀ a ∈ actions, Sequential a) (accounting : Accounting s) :
    Accounting (Runs.run (step settings) s actions) := by
  have along : Runs.Along (step settings) (fun _ a => Sequential a) s actions := by
    rw [Runs.along_iff]
    rintro before a after rfl
    exact sequential a (by simp)
  exact Runs.invariant_along (fun s a holds allowed => (step_moved allowed).accounting allowed.1 holds) accounting along

theorem run_attempts {jobId : String} {actions : List Action} (sequential : ∀ a ∈ actions, Sequential a)
    (noRetry : ∀ a ∈ actions, a.event ≠ .retryJob jobId) (accounting : Accounting s) :
    attempts jobId (Runs.run (step settings) s actions) = attempts jobId s + claimCount settings jobId s actions := by
  induction actions generalizing s with
  | nil => rfl
  | cons a rest ih =>
    have moved : Moved s a (step settings s a) := step_moved (sequential a List.mem_cons_self)
    have next := moved.accounting (sequential a List.mem_cons_self).1 accounting
    have first := moved.attempts accounting (noRetry a List.mem_cons_self)
    rw [Runs.run_cons, ih (fun b member => sequential b (List.mem_cons_of_mem _ member))
      (fun b member => noRetry b (List.mem_cons_of_mem _ member)) next, first, claimCount, Nat.add_assoc]

/-- In every run whose steps other than the claim are atomic, each at a later time than
the one before: a claim counts one attempt, no job is claimed more often than it may be
between two manual retries, and no count passes its bound. -/
theorem attempts_accounted (clock : Int) (actions : List Action) (sequential : ∀ a ∈ actions, Sequential a) :
    (∀ before a after, actions = before ++ a :: after → ∀ jobId,
      claims jobId (Runs.run (step settings) { clock } before) a = true →
        ∃ row ∈ (Runs.run (step settings) { clock } before).queue.jobs,
          ∃ row' ∈ (Runs.run (step settings) { clock } (before ++ [a])).queue.jobs,
            row.id = jobId ∧ row'.id = jobId ∧ row'.attemptCount = row.attemptCount + 1) ∧
    (∀ before during after, actions = before ++ during ++ after → ∀ jobId, (∀ a ∈ during, a.event ≠ .retryJob jobId) →
      ∀ row ∈ (Runs.run (step settings) { clock } (before ++ during)).queue.jobs, row.id = jobId →
        claimCount settings jobId (Runs.run (step settings) { clock } before) during ≤ row.maxAttempts) ∧
    ∀ before, before <+: actions → ∀ row ∈ (Runs.run (step settings) { clock } before).queue.jobs,
      row.attemptCount ≤ row.maxAttempts := by
  have reached {before : List Action} (part : ∀ a ∈ before, Sequential a) :
      Accounting (Runs.run (step settings) { clock } before) := run_accounting part (accounting_initial clock)
  refine ⟨?_, ?_, ?_⟩
  · rintro before a after rfl jobId claimed
    have accounting : Accounting (Runs.run (step settings) { clock } before) :=
      reached fun b member => sequential b (List.mem_append_left _ member)
    have allowed := sequential a (by simp)
    have moved : Moved _ a (step settings (Runs.run (step settings) { clock } before) a) := step_moved allowed
    obtain ⟨row, member, rfl⟩ := mem_of_claims claimed
    have noRetry : a.event ≠ .retryJob row.id := by
      intro event
      simp only [claims, event] at claimed
      cases claimed
    have counted := moved.attempts accounting noRetry
    rw [if_pos claimed, attempts_of_mem member] at counted
    rw [Runs.run_append]
    cases after : (step settings (Runs.run (step settings) { clock } before) a).queue.job? row.id with
    | none =>
      rw [attempts, after] at counted
      cases counted
    | some row' =>
      rw [attempts, after] at counted
      obtain ⟨member', id⟩ := Queue.job?_eq_some_iff.mp after
      exact ⟨row, member, row', member', rfl, id, counted⟩
  · rintro before during after rfl jobId noRetry row member rfl
    have accounting : Accounting (Runs.run (step settings) { clock } before) :=
      reached fun b member => sequential b (by simp [member])
    have final : Accounting (Runs.run (step settings) { clock } (before ++ during)) :=
      reached fun b member => sequential b (List.mem_append_left _ member)
    have counted : attempts row.id (Runs.run (step settings) _ during) = _ :=
      run_attempts (fun b member => sequential b (by simp [member])) noRetry accounting
    rw [← Runs.run_append, attempts_of_mem member] at counted
    have bound := (final.rows row member).le
    omega
  · rintro before ⟨after, rfl⟩ row member
    exact ((reached fun b member => sequential b (List.mem_append_left _ member)).rows row member).le

end Runs

section Examples
open PlainText

def later (event : Event) : Action := ⟨1, event⟩

/-- Two workers select one job; one claims it and fails, and claims it again later. -/
def contended : List Action :=
  [later (.createJob keys { reconciliationJob with maxAttempts := 2 }),
    later (.recoverAtOnce "a" 0), later (.recoverAtOnce "b" 0), later (.claimSelect "a" 0), later (.claimSelect "b" 0),
    later (.claimUpdate "a" 0), later (.claimUpdate "b" 0), later (.start "a"),
    later (.fail "a" { classes := ["TimeoutError"], message := "timeout" }),
    later (.recoverAtOnce "c" 0), secondsLater 5 (.claimSelect "c" 0), later (.claimUpdate "c" 0)]

theorem attempts_accounted_contended :
    claimCount {} (longer []) { clock := 0 } contended = 2 ∧
      ∀ row ∈ (Runs.run (step {}) { clock := 0 } contended).queue.jobs, row.attemptCount ≤ row.maxAttempts :=
  ⟨by decide +kernel, (attempts_accounted 0 contended (by decide)).2.2 contended (List.prefix_refl _)⟩

end Examples
end RCAA.Jobs
