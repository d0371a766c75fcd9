import RCAA.Jobs.Attempts

/-! The queue runs empty. A pass of `run_once` ends a job, sends it back with one attempt
fewer left, or dies and leaves it to the recovery of a later pass. So passes that follow
one another at a distance end every job, however their handlers behave, after as many
passes as there are attempts left and one more. -/

namespace RCAA.Jobs
variable {settings : WorkerSettings} {s : State} {a : Action}

/-! ## The measure -/

def Job.ended (job : Job) : Bool := job.status = .succeeded || job.status = .failed || job.status = .deadLettered

/-- The attempts a job may still have. -/
def Job.left (job : Job) : Nat := if job.ended then 0 else job.maxAttempts - job.attemptCount

def Queue.left (queue : Queue) : Nat := (queue.jobs.map Job.left).sum

theorem Job.left_of_ended {job : Job} (ended : job.ended = true) : job.left = 0 := if_pos ended

theorem Job.left_le (job : Job) : job.left ≤ job.maxAttempts - job.attemptCount := by
  unfold left
  split <;> omega

theorem Job.ended_iff {job : Job} :
    job.ended = true ↔ job.status ≠ .queued ∧ job.status ≠ .retrying ∧ job.status ≠ .running := by
  simp only [ended, Bool.or_eq_true, decide_eq_true_eq]
  cases job.status <;> simp

theorem Job.left_of_open (job : Job) (open_ : job.ended ≠ true) : job.left = job.maxAttempts - job.attemptCount := if_neg open_

/-- A write that gives no row more attempts. -/
theorem Queue.left_write_le {queue : Queue} {w : Write} (each : ∀ row ∈ queue.jobs, (w.apply row).left ≤ row.left) :
    (queue.write w).left ≤ queue.left := by
  simp only [left, write, List.map_map]
  exact List.sum_le_sum fun row member => each row member

theorem Queue.left_write_lt {queue : Queue} {w : Write} (each : ∀ row ∈ queue.jobs, (w.apply row).left ≤ row.left)
    (less : ∃ row ∈ queue.jobs, (w.apply row).left < row.left) : (queue.write w).left < queue.left := by
  simp only [left, write, List.map_map]
  exact List.sum_lt_sum _ _ (fun row member => each row member) less

/-! ## Leases and retry times -/

/-- The longest a failed job waits. -/
def WorkerSettings.maxDelay (settings : WorkerSettings) : Int := timedelta settings.maxBackoff

theorem timedelta_error (seconds : ℚ) : |(timedelta seconds : ℚ) - seconds * 1000000| ≤ 1 / 2 := by
  have nearest := Decimal.halfEven_nearest (n := seconds.num * 1000000) seconds.den_pos
  have positive : (0 : ℚ) < seconds.den := by exact_mod_cast seconds.den_pos
  have exact : seconds * seconds.den = seconds.num := Rat.mul_den_eq_num seconds
  have scaled : |(timedelta seconds : ℚ) - seconds * 1000000| * seconds.den =
      |(timedelta seconds : ℚ) * seconds.den - seconds.num * 1000000| := by
    rw [← exact, ← abs_of_pos positive, ← abs_mul, abs_of_pos positive]
    ring_nf
  have bound : 2 * |(timedelta seconds : ℚ) * seconds.den - seconds.num * 1000000| ≤ seconds.den := by
    exact_mod_cast nearest
  rw [← scaled] at bound
  nlinarith

theorem timedelta_mono {a b : ℚ} (le : a ≤ b) : timedelta a ≤ timedelta b := by
  by_contra more
  have apart : (timedelta b : ℚ) + 1 ≤ timedelta a := by exact_mod_cast not_le.mp more
  have first := abs_le.mp (timedelta_error a)
  have second := abs_le.mp (timedelta_error b)
  obtain rfl : a = b := by linarith
  exact more le_rfl

theorem WorkerSettings.delay_le (settings : WorkerSettings) (attempt : Nat) : settings.delay attempt ≤ settings.maxDelay :=
  timedelta_mono (min_le_left _ _)

theorem WorkerSettings.maxDelay_nonneg (settings : WorkerSettings) : 0 ≤ settings.maxDelay :=
  timedelta_nonneg settings.max_nonneg

/-- What a row waits for is not far ahead. -/
structure Job.Timed (settings : WorkerSettings) (clock : Int) (row : Job) : Prop where
  lease : row.status = .running → ∃ expiry, row.leaseExpiresAt = some expiry ∧ expiry ≤ clock + settings.lease
  retry : ∀ time, row.nextRetryAt = some time → time ≤ clock + settings.maxDelay

theorem Job.Timed.later {clock clock' : Int} {row : Job} (timed : row.Timed settings clock) (later : clock ≤ clock') :
    row.Timed settings clock' := by
  refine ⟨fun running => ?_, fun time retry => ?_⟩
  · obtain ⟨expiry, lease, bound⟩ := timed.lease running
    exact ⟨expiry, lease, by omega⟩
  · have bound := timed.retry time retry
    omega

/-- A row that is not running and waits for nothing, or for a time it is given now. -/
theorem Job.timed_of_stopped {clock : Int} {row : Job} (stopped : row.status ≠ .running)
    (retry : ∀ time, row.nextRetryAt = some time → time ≤ clock + settings.maxDelay) : row.Timed settings clock :=
  ⟨fun running => absurd running stopped, retry⟩

structure Timely (settings : WorkerSettings) (s : State) : Prop where
  rows : ∀ row ∈ s.queue.jobs, row.Timed settings s.clock
  executing : ∀ workerId job renewedAt, s.phase workerId = .executing job renewedAt → job.status = .running

theorem timely_initial (clock : Int) : Timely settings { clock } := by
  constructor
  · intro row member
    cases member
  · intro workerId job renewedAt running
    cases running

theorem Timely.tick (timely : Timely settings s) (elapsed : Nat) : Timely settings (s.tick elapsed) := by
  refine ⟨fun row member => (timely.rows row member).later ?_, timely.executing⟩
  simp only [State.tick]
  omega

theorem Timely.enter (timely : Timely settings s) {workerId : String} {phase : Phase}
    (running : ∀ job renewedAt, phase = .executing job renewedAt → job.status = .running) :
    Timely settings (s.enter workerId phase) := by
  refine ⟨timely.rows, fun v job renewedAt holds => ?_⟩
  by_cases own : v = workerId
  · subst own
    rw [State.enter_phase] at holds
    exact running job renewedAt holds
  · rw [State.enter_phase_of_ne own] at holds
    exact timely.executing v job renewedAt holds

theorem Timely.write (timely : Timely settings s) {w : Write}
    (each : ∀ row ∈ s.queue.jobs, row.Timed settings s.clock → (w.apply row).Timed settings s.clock) :
    Timely settings (s.write w) := by
  refine ⟨fun row' member => ?_, timely.executing⟩
  obtain ⟨row, stored, rfl⟩ := Queue.mem_write.mp member
  exact each row stored (timely.rows row stored)

/-! ## What a statement does to the times -/

theorem retryUpdate_timed {clock : Int} (jobId : String) {row : Job} (timed : row.Timed settings clock) :
    ((retryUpdate jobId).apply row).Timed settings clock := by
  simp only [retryUpdate, retryJob]
  split
  · split
    · exact timed
    · refine Job.timed_of_stopped (by simp [Except.toOption]) fun time retry => ?_
      simp [Except.toOption] at retry
  · exact timed

theorem recovered_timed (clock : Int) (row : Job) (timed : row.Timed settings clock) : (recovered clock row).Timed settings clock := by
  have wait := settings.maxDelay_nonneg
  unfold recovered
  split
  · exact Job.timed_of_stopped (by simp) timed.retry
  · refine Job.timed_of_stopped (by simp) fun time retry => ?_
    obtain rfl : clock = time := Option.some.inj retry
    omega

theorem failed_timed [Platform] (clock : Int) (exc : Raised) {row : Job} (timed : row.Timed settings clock) :
    (failed settings clock exc row).Timed settings clock := by
  unfold failed
  split_ifs
  · refine Job.timed_of_stopped (by simp) fun time retry => ?_
    have bound := settings.delay_le row.attemptCount
    obtain rfl : clock + settings.delay row.attemptCount = time := Option.some.inj retry
    omega
  · exact Job.timed_of_stopped (by simp) timed.retry
  · exact Job.timed_of_stopped (by simp) timed.retry

/-- The row a recovery that selects and writes at once leaves. -/
theorem recoverAtOnce_apply {clock staleBefore : Int} {queue : Queue} {row : Job} (member : row ∈ queue.jobs) :
    (recoverStaleJobs clock (staleJobs staleBefore queue)).apply row =
      if row ∈ staleJobs staleBefore queue then row.flush (recovered clock row) row else row := by
  have found : (staleJobs staleBefore queue).find? (fun job => job.id = row.id) =
      if row ∈ staleJobs staleBefore queue then some row else none := by
    split
    · next stale =>
      refine (KeyedRows.find?_eq_some_iff Job.id (queue.ids.sublist (List.filter_sublist.map _)) row.id row).mpr ⟨stale, rfl⟩
    · next fresh =>
      rw [List.find?_eq_none]
      intro job stale same
      have stored := (mem_staleJobs.mp stale).1
      exact fresh (Queue.eq_of_id stored member (of_decide_eq_true same) ▸ stale)
  by_cases stale : row ∈ staleJobs staleBefore queue
  · simp only [recoverStaleJobs, found, if_pos stale]
  · simp only [recoverStaleJobs, found, if_neg stale]

theorem flush_recovered (clock : Int) (row : Job) :
    (row.flush (recovered clock row) row).status = (recovered clock row).status ∧
      (row.flush (recovered clock row) row).nextRetryAt = (recovered clock row).nextRetryAt :=
  ⟨flushed_self row.status _, flushed_self row.nextRetryAt _⟩

theorem recovered_stopped (clock : Int) (row : Job) : (recovered clock row).status ≠ .running := by
  unfold recovered
  split <;> simp

theorem recover_timed {clock staleBefore : Int} {queue : Queue} {row : Job} (member : row ∈ queue.jobs)
    (timed : row.Timed settings clock) :
    ((recoverStaleJobs clock (staleJobs staleBefore queue)).apply row).Timed settings clock := by
  rw [recoverAtOnce_apply member]
  split
  · obtain ⟨status, retry⟩ := flush_recovered clock row
    refine Job.timed_of_stopped (by rw [status]; exact recovered_stopped clock row) ?_
    rw [retry]
    exact (recovered_timed clock row timed).retry
  · exact timed

theorem claimUpdate_timed {clock leaseUntil now : Int} {workerId : String} {candidate row : Job} (timed : row.Timed settings clock)
    (bound : leaseUntil ≤ clock + settings.lease) :
    ((claimUpdate workerId candidate now leaseUntil).apply row).Timed settings clock := by
  simp only [claimUpdate]
  split
  · exact ⟨fun _ => ⟨leaseUntil, rfl, bound⟩, timed.retry⟩
  · exact timed

theorem heartbeat_timed {clock : Int} {jobId workerId : String} {row : Job} (timed : row.Timed settings clock) :
    ((heartbeatUpdate jobId workerId (clock + settings.lease)).apply row).Timed settings clock := by
  simp only [heartbeatUpdate]
  split
  · exact ⟨fun _ => ⟨_, rfl, le_rfl⟩, timed.retry⟩
  · exact timed

/-- The commit of a job that was loaded as running ends the row. -/
theorem succeedCommit_cases (clock : Int) (result : Json) {job : Job} (row : Job) (running : job.status = .running) :
    (succeedCommit clock result job).apply row = row ∨
      ((succeedCommit clock result job).apply row).status = .succeeded ∧
        ((succeedCommit clock result job).apply row).nextRetryAt = row.nextRetryAt := by
  simp only [succeedCommit]
  split
  · refine .inr ⟨?_, flushed_unchanged job.nextRetryAt row.nextRetryAt⟩
    rw [Job.flush_status, running]
    rfl
  · exact .inl rfl

theorem succeed_timed {clock : Int} {result : Json} {job row : Job} (running : job.status = .running)
    (timed : row.Timed settings clock) : ((succeedCommit clock result job).apply row).Timed settings clock := by
  rcases succeedCommit_cases clock result row running with same | ⟨status, retry⟩
  · rw [same]
    exact timed
  · refine Job.timed_of_stopped (by simp [status]) ?_
    rw [retry]
    exact timed.retry

section Step
variable [Platform]

/-- A new job may be taken at once. -/
theorem createJob_waits {keys : KeySource} {now : Int} {queue : Queue} {request : JobRequest} {job : Job} {created : Bool}
    {after : Queue} (done : createJob keys now queue request = .ok (job, created, after)) :
    after = queue ∨ (after.jobs = queue.jobs ++ [job] ∧ job.status = .queued ∧ job.nextRetryAt = none) := by
  simp only [createJob] at done
  split_ifs at done
  split at done
  · cases done
    exact .inl rfl
  · cases done
    exact .inr ⟨rfl, rfl, rfl⟩

theorem Timely.step (timely : Timely settings s) (atomic : a.event.atomic = true) : Timely settings (step settings s a) := by
  unfold Jobs.step
  have ticked := timely.tick a.elapsed
  generalize s.tick a.elapsed = t at ticked
  cases event : a.event with
  | createJob keys request =>
    simp only [perform, create]
    split
    · exact ticked
    · next job created queue done =>
      rcases createJob_waits done with rfl | ⟨grows, queued, none⟩
      · exact ticked
      · refine ⟨fun row member => ?_, ticked.executing⟩
        rw [grows, List.mem_append, List.mem_singleton] at member
        rcases member with old | rfl
        · exact ticked.rows row old
        · exact Job.timed_of_stopped (by simp [queued]) (by simp [none])
  | retryJob jobId => exact ticked.write fun row _ => retryUpdate_timed jobId
  | recoverSelect workerId waited => simp [event, Event.atomic] at atomic
  | recoverCommit workerId => simp [event, Event.atomic] at atomic
  | recoverAtOnce workerId waited =>
    simp only [perform, recoverAtOnce]
    split
    · exact (ticked.enter (by simp)).write fun row member => recover_timed member
    · exact ticked
  | claimSelect workerId waited =>
    simp only [perform, claimSelect]
    split
    · split <;> exact ticked.enter (by simp)
    · exact ticked
  | claimUpdate workerId waited =>
    simp only [perform, claimCommit]
    split
    · split
      · exact (ticked.enter (by simp)).write fun row _ timed => claimUpdate_timed timed (by
          change t.clock - waited + settings.lease ≤ t.clock + settings.lease
          omega)
      · exact ticked.enter (by simp)
    · exact ticked
  | start workerId =>
    simp only [perform, start]
    split
    · split
      · exact ticked.enter (by simp)
      · split
        · next job _ startable =>
          refine ticked.enter fun other renewedAt same => ?_
          obtain ⟨rfl, _⟩ := Phase.executing.inj same
          simp only [Job.startable, Bool.and_eq_true, decide_eq_true_eq] at startable
          exact startable.1.1
        · exact ticked.enter (by simp)
    · exact ticked
  | heartbeat workerId =>
    simp only [perform, heartbeat]
    split
    · next job renewedAt running =>
      refine (ticked.write fun row _ => heartbeat_timed).enter fun other since same => ?_
      obtain ⟨rfl, _⟩ := Phase.executing.inj same
      exact ticked.executing workerId job renewedAt running
    · exact ticked.write fun row _ => heartbeat_timed
    · exact ticked
  | succeed workerId result =>
    simp only [perform, succeed]
    split
    · next job renewedAt running =>
      exact (ticked.enter (by simp)).write fun row _ => succeed_timed (ticked.executing workerId job renewedAt running)
    · exact ticked
  | fail workerId exc =>
    simp only [perform, fail]
    split
    · refine (ticked.enter (by simp)).write fun row _ timed => ?_
      simp only [failCommit]
      split
      · exact failed_timed _ exc timed
      · exact timed
    · exact ticked
  | stop workerId => exact ticked.enter (by simp)

/-! ## One pass -/

/-- How long a step takes: until it reads the clock, and from there on. -/
structure Span where
  before : Nat
  waited : Nat

def Span.elapsed (span : Span) : Nat := span.before + span.waited

/-- How the execution of a job ends. -/
inductive Outcome where
  | succeeds (result : Json)
  | fails (exc : Raised)
  | dies

def Outcome.event (workerId : String) : Outcome → Event
  | .succeeds result => .succeed workerId result
  | .fails exc => .fail workerId exc
  | .dies => .stop workerId

/-- A call of `run_once` under the worker id it draws. -/
structure Pass where
  workerId : String
  recovery : Span
  selection : Span
  claim : Span
  start : Nat
  heartbeats : List Nat
  ending : Nat
  outcome : Outcome

namespace Pass

/-- The steps that follow a claim. -/
def execution (pass : Pass) : List Action :=
  ⟨pass.start, .start pass.workerId⟩ :: pass.heartbeats.map (fun elapsed => ⟨elapsed, .heartbeat pass.workerId⟩) ++
    [⟨pass.ending, pass.outcome.event pass.workerId⟩]

def actions (pass : Pass) : List Action :=
  ⟨pass.recovery.elapsed, .recoverAtOnce pass.workerId pass.recovery.waited⟩ ::
    ⟨pass.selection.elapsed, .claimSelect pass.workerId pass.selection.waited⟩ ::
    ⟨pass.claim.elapsed, .claimUpdate pass.workerId pass.claim.waited⟩ :: pass.execution

/-- It starts when every lease and every wait of the time before is over. -/
def Spaced (settings : WorkerSettings) (pass : Pass) : Prop :=
  2 * settings.lease < pass.recovery.before ∧ settings.maxDelay ≤ pass.recovery.before

instance (settings : WorkerSettings) (pass : Pass) : Decidable (pass.Spaced settings) :=
  inferInstanceAs (Decidable (_ ∧ _))

omit [Platform] in
theorem workerId_of_mem {pass : Pass} {b : Action} (member : b ∈ pass.actions) : b.event.workerId = some pass.workerId := by
  simp only [actions, execution, List.mem_cons, List.cons_append, List.mem_append, List.mem_map, List.not_mem_nil, or_false] at member
  rcases member with rfl | rfl | rfl | rfl | ⟨elapsed, _, rfl⟩ | rfl
  · rfl
  · rfl
  · rfl
  · rfl
  · rfl
  · cases pass.outcome <;> rfl

end Pass

/-! ### The recovery -/

/-- No job is running, and every other may be taken. -/
def Rested (s : State) : Prop :=
  ∀ row ∈ s.queue.jobs, row.status ≠ .running ∧ ∀ time, row.nextRetryAt = some time → time ≤ s.clock

omit [Platform] in
theorem recover_left_le (clock staleBefore : Int) {queue : Queue} {row : Job} (member : row ∈ queue.jobs) :
    ((recoverStaleJobs clock (staleJobs staleBefore queue)).apply row).left ≤ row.left := by
  rw [recoverAtOnce_apply member]
  split
  · next stale =>
    have running := (mem_staleJobs.mp stale).2.1
    rw [Job.left_of_open row (by simp [Job.ended, running])]
    exact Job.left_le (row.flush (recovered clock row) row)
  · exact le_rfl

/-- A recovery long after the last step leaves no job running. -/
theorem recovery_rests {workerId : String} {span : Span} (timely : Timely settings s) (idle : s.phase workerId = .idle)
    (leases : 2 * settings.lease < span.before) (waits : settings.maxDelay ≤ span.before) :
    let t := step settings s ⟨span.elapsed, .recoverAtOnce workerId span.waited⟩
    Rested t ∧ t.queue.left ≤ s.queue.left ∧ t.phase workerId = .recovered := by
  have ticked : (s.tick span.elapsed).phase workerId = .idle := idle
  simp only [Jobs.step, perform, recoverAtOnce, ticked]
  refine ⟨fun row' member => ?_, Queue.left_write_le fun row member => recover_left_le _ _ member, State.enter_phase ..⟩
  obtain ⟨row, stored, rfl⟩ := Queue.mem_write.mp member
  have stored : row ∈ s.queue.jobs := stored
  have timed := timely.rows row stored
  change ((recoverStaleJobs (s.clock + span.elapsed) (staleJobs (s.clock + span.elapsed - span.waited - settings.lease) s.queue)).apply row).status
      ≠ .running ∧ ∀ time, ((recoverStaleJobs (s.clock + span.elapsed)
        (staleJobs (s.clock + span.elapsed - span.waited - settings.lease) s.queue)).apply row).nextRetryAt = some time →
      time ≤ s.clock + span.elapsed
  have elapsed : (span.elapsed : Int) = span.before + span.waited := by simp [Span.elapsed]
  rw [recoverAtOnce_apply stored]
  split
  · obtain ⟨status, retry⟩ := flush_recovered (s.clock + span.elapsed) row
    refine ⟨by rw [status]; exact recovered_stopped _ row, fun time again => ?_⟩
    rw [retry] at again
    unfold recovered at again
    split at again
    · have bound := timed.retry time again
      omega
    · obtain rfl : s.clock + span.elapsed = time := Option.some.inj again
      exact le_rfl
  · next fresh =>
    refine ⟨fun running => fresh ?_, fun time again => ?_⟩
    · obtain ⟨expiry, lease, bound⟩ := timed.lease running
      exact mem_staleJobs.mpr ⟨stored, running, expiry, lease, by omega⟩
    · have bound := timed.retry time again
      omega

/-! ### The claim -/

omit [Platform] in
theorem claimCandidate_none {now : Int} {queue : Queue} (none : claimCandidate now queue = none) :
    ∀ row ∈ queue.jobs, row.claimable now = false := by
  intro row member
  have empty := List.head?_eq_none_iff.mp none
  have nothing : queue.jobs.filter (Job.claimable now) = [] :=
    List.length_eq_zero_iff.mp ((List.perm_insertionSort _ _).length_eq.symm.trans (List.length_eq_zero_iff.mpr empty))
  simpa using List.filter_eq_nil_iff.mp nothing row member

omit [Platform] in
/-- A rested queue that offers no candidate has ended. -/
theorem Rested.ended {now : Int} (rested : Rested s) (later : s.clock ≤ now) (none : claimCandidate now s.queue = none) :
    ∀ row ∈ s.queue.jobs, row.ended = true := by
  intro row member
  obtain ⟨stopped, waits⟩ := rested row member
  have due : row.due now = true := by
    unfold Job.due
    split
    · rfl
    · next time retry =>
      have bound := waits time retry
      simp only [decide_eq_true_eq]
      omega
  have refused := claimCandidate_none none row member
  simp only [Job.claimable, due, Bool.and_true, Bool.or_eq_false_iff, decide_eq_false_iff_not] at refused
  exact Job.ended_iff.mpr ⟨refused.1, refused.2, stopped⟩

omit [Platform] in
/-- The update of a claim takes an attempt from the job it claims and from no other. -/
theorem claimUpdate_left {workerId : String} {candidate row : Job} {now leaseUntil : Int} (accounted : row.Accounted)
    (waiting : candidate.status = .queued ∨ candidate.status = .retrying)
    (unclaimed : Job.unclaimed candidate now row = true) (count : row.attemptCount = candidate.attemptCount) :
    ((claimUpdate workerId candidate now leaseUntil).apply row).left < row.left := by
  have status := (Job.unclaimed_iff.mp unclaimed).2.1
  have room : row.attemptCount < row.maxAttempts := by
    rcases waiting with queued | retrying
    · have first := accounted.queued (status.trans queued)
      have atLeast := row.maxAttempts.property.1
      omega
    · exact accounted.retrying (status.trans retrying)
  have open_ : row.ended ≠ true := by
    rw [← status] at waiting
    rintro ended
    obtain ⟨queued, retrying, _⟩ := Job.ended_iff.mp ended
    exact waiting.elim queued retrying
  rw [Job.left_of_open _ open_]
  simp only [claimUpdate, if_pos unclaimed]
  refine (Job.left_le _).trans_lt ?_
  simp only
  omega

variable (settings) in
/-- A select finds a candidate or ends the pass. -/
theorem selection_step {workerId : String} (span : Span) (recovered : s.phase workerId = .recovered) :
    let now := s.clock + span.elapsed - span.waited
    let t := step settings s ⟨span.elapsed, .claimSelect workerId span.waited⟩
    t.queue = s.queue ∧
      ((claimCandidate now s.queue = none ∧ t.phase workerId = .stopped) ∨
        ∃ candidate, claimCandidate now s.queue = some candidate ∧ t.phase workerId = .claiming candidate now) := by
  have ticked : (s.tick span.elapsed).phase workerId = .recovered := recovered
  simp only [Jobs.step, perform, claimSelect, ticked]
  split
  · next none => exact ⟨rfl, .inl ⟨none, State.enter_phase ..⟩⟩
  · next candidate found => exact ⟨rfl, .inr ⟨candidate, found, State.enter_phase ..⟩⟩

variable (settings) in
theorem claim_step {workerId : String} (span : Span) {candidate : Job} {now : Int}
    (claiming : s.phase workerId = .claiming candidate now) (taken : s.queue.jobs.any (Job.unclaimed candidate now) = true) :
    let t := step settings s ⟨span.elapsed, .claimUpdate workerId span.waited⟩
    (∃ leaseUntil, t.queue = s.queue.write (claimUpdate workerId candidate now leaseUntil)) ∧
      t.phase workerId = .claimed candidate.id := by
  have ticked : (s.tick span.elapsed).phase workerId = .claiming candidate now := claiming
  have again : (s.tick span.elapsed).queue.jobs.any (Job.unclaimed candidate now) = true := taken
  simp only [Jobs.step, perform, claimCommit, ticked, again, if_true]
  exact ⟨⟨_, rfl⟩, State.enter_phase ..⟩

variable (settings) in
/-- A pass that has ended does nothing more. -/
theorem stopped_step {workerId : String} (elapsed : Nat) {event : Event} (stopped : s.phase workerId = .stopped)
    (mine : event = .start workerId ∨ event = .heartbeat workerId ∨ (∃ waited, event = .claimUpdate workerId waited) ∨
      ∃ outcome : Outcome, event = outcome.event workerId) :
    (step settings s ⟨elapsed, event⟩).queue = s.queue ∧ (step settings s ⟨elapsed, event⟩).phase workerId = .stopped := by
  have ticked : (s.tick elapsed).phase workerId = .stopped := stopped
  rcases mine with rfl | rfl | ⟨waited, rfl⟩ | ⟨outcome, rfl⟩
  · simp only [Jobs.step, perform, start, ticked]
    exact ⟨rfl, trivial⟩
  · simp only [Jobs.step, perform, heartbeat, ticked]
    exact ⟨rfl, trivial⟩
  · simp only [Jobs.step, perform, claimCommit, ticked]
    exact ⟨rfl, trivial⟩
  · cases outcome with
    | succeeds result =>
      simp only [Outcome.event, Jobs.step, perform, succeed, ticked]
      exact ⟨rfl, trivial⟩
    | fails exc =>
      simp only [Outcome.event, Jobs.step, perform, fail, ticked]
      exact ⟨rfl, trivial⟩
    | dies => exact ⟨rfl, State.enter_phase ..⟩

variable (settings) in
/-- After the recovery a pass finds that every job has ended, or takes an attempt from one. -/
theorem claim_progress {workerId : String} (selection claim : Span) (rows : ∀ row ∈ s.queue.jobs, row.Accounted)
    (rested : Rested s) (recovered : s.phase workerId = .recovered) :
    let t := step settings (step settings s ⟨selection.elapsed, .claimSelect workerId selection.waited⟩)
      ⟨claim.elapsed, .claimUpdate workerId claim.waited⟩
    ((∀ row ∈ t.queue.jobs, row.ended = true) ∧ t.phase workerId = .stopped) ∨
      (t.queue.left < s.queue.left ∧ ∃ jobId, t.phase workerId = .claimed jobId) := by
  have elapsed : (selection.elapsed : Int) = selection.before + selection.waited := by simp [Span.elapsed]
  obtain ⟨same, ⟨none, stopped⟩ | ⟨candidate, found, claiming⟩⟩ :=
    selection_step settings selection recovered
  · obtain ⟨kept, still⟩ := stopped_step settings claim.elapsed stopped (.inr (.inr (.inl ⟨claim.waited, rfl⟩)))
    refine .inl ⟨?_, still⟩
    rw [kept, same]
    exact rested.ended (by omega) none
  · obtain ⟨member, claimable⟩ := claimCandidate_mem found
    simp only [Job.claimable, Bool.and_eq_true, Bool.or_eq_true, decide_eq_true_eq] at claimable
    have unclaimed := Job.unclaimed_iff.mpr ⟨rfl, rfl, claimable.2⟩
    obtain ⟨⟨leaseUntil, written⟩, claimed⟩ := claim_step settings claim claiming
      (List.any_eq_true.mpr ⟨candidate, same ▸ member, unclaimed⟩)
    refine .inr ⟨?_, candidate.id, claimed⟩
    rw [written, same]
    refine Queue.left_write_lt (fun row stored => ?_) ⟨candidate, member, ?_⟩
    · by_cases mine : Job.unclaimed candidate (s.clock + selection.elapsed - selection.waited) row = true
      · obtain rfl : row = candidate := Queue.eq_of_id stored member (Job.unclaimed_iff.mp mine).1
        exact (claimUpdate_left (rows row stored) claimable.1 mine rfl).le
      · rw [claimUpdate]
        simp only [if_neg mine, le_refl]
    · exact claimUpdate_left (rows candidate member) claimable.1 unclaimed rfl

/-! ### The execution -/

/-- The row of the job that the worker executes is running. -/
def Working (s : State) (workerId : String) : Prop :=
  ∀ job renewedAt, s.phase workerId = .executing job renewedAt → job.status = .running ∧
    ∀ row ∈ s.queue.jobs, row.id = job.id → row.status = .running

omit [Platform] in
theorem working_enter {t : State} {workerId : String} {phase : Phase} (quiet : ∀ job renewedAt, phase ≠ .executing job renewedAt)
    (entered : t.phase workerId = phase) : Working t workerId := by
  intro job renewedAt running
  exact absurd (entered.symm.trans running) (quiet job renewedAt)

omit [Platform] in
theorem heartbeat_keeps (jobId workerId : String) (leaseUntil : Int) (row : Job) :
    ((heartbeatUpdate jobId workerId leaseUntil).apply row).left = row.left ∧
      ((heartbeatUpdate jobId workerId leaseUntil).apply row).status = row.status := by
  simp only [heartbeatUpdate]
  split
  · exact ⟨rfl, rfl⟩
  · exact ⟨rfl, rfl⟩

omit [Platform] in
theorem succeed_left {clock : Int} {result : Json} {job row : Job} (running : job.status = .running) :
    ((succeedCommit clock result job).apply row).left ≤ row.left := by
  rcases succeedCommit_cases clock result row running with same | ⟨status, _⟩
  · rw [same]
  · rw [Job.left_of_ended (by simp [Job.ended, status])]
    omega

theorem fail_left {clock : Int} {exc : Raised} {jobId : String} {row : Job} (running : row.id = jobId → row.status = .running) :
    ((failCommit settings clock exc jobId).apply row).left ≤ row.left := by
  simp only [failCommit]
  split
  · next own =>
    rw [Job.left_of_open row (by simp [Job.ended, running own])]
    refine (Job.left_le _).trans (le_of_eq ?_)
    simp only [failed]
    split_ifs <;> rfl
  · exact le_rfl

variable (settings) in
/-- The steps of an execution give no job more attempts. -/
theorem execution_step {workerId : String} (working : Working s workerId) {event : Event} (elapsed : Nat)
    (mine : event = .start workerId ∨ event = .heartbeat workerId ∨ ∃ outcome : Outcome, event = outcome.event workerId) :
    (step settings s ⟨elapsed, event⟩).queue.left ≤ s.queue.left ∧ Working (step settings s ⟨elapsed, event⟩) workerId := by
  have working : Working (s.tick elapsed) workerId := working
  have same : (s.tick elapsed).queue.left = s.queue.left := rfl
  unfold Jobs.step
  rw [← same]
  generalize s.tick elapsed = t at working
  rcases mine with rfl | rfl | ⟨outcome, rfl⟩
  · simp only [perform, start]
    split
    · split
      · exact ⟨le_rfl, working_enter (by simp) (State.enter_phase ..)⟩
      · next job loaded =>
        split
        · next startable =>
          refine ⟨le_rfl, fun other renewedAt running => ?_⟩
          rw [State.enter_phase] at running
          obtain ⟨rfl, _⟩ := Phase.executing.inj running
          simp only [Job.startable, Bool.and_eq_true, decide_eq_true_eq] at startable
          refine ⟨startable.1.1, fun row stored same => ?_⟩
          rw [Queue.eq_of_id stored (Queue.job?_eq_some_iff.mp loaded).1 same]
          exact startable.1.1
        · exact ⟨le_rfl, working_enter (by simp) (State.enter_phase ..)⟩
    · exact ⟨le_rfl, working⟩
  · simp only [perform, heartbeat]
    split
    · next job renewedAt running =>
      refine ⟨Queue.left_write_le fun row _ => (heartbeat_keeps _ _ _ row).1.le, fun other since holds => ?_⟩
      rw [State.enter_phase] at holds
      obtain ⟨rfl, _⟩ := Phase.executing.inj holds
      obtain ⟨loaded, rows⟩ := working job renewedAt running
      refine ⟨loaded, fun row' member same => ?_⟩
      obtain ⟨row, stored, rfl⟩ := Queue.mem_write.mp member
      rw [(heartbeat_keeps _ _ _ row).2]
      exact rows row stored ((Write.id _ row).symm.trans same)
    · next jobId finished =>
      exact ⟨Queue.left_write_le fun row _ => (heartbeat_keeps _ _ _ row).1.le, working_enter (by simp) finished⟩
    · exact ⟨le_rfl, working⟩
  · cases outcome with
    | succeeds result =>
      simp only [Outcome.event, perform, succeed]
      split
      · next job renewedAt running =>
        exact ⟨Queue.left_write_le fun row _ => succeed_left (working job renewedAt running).1,
          working_enter (by simp) (State.enter_phase ..)⟩
      · exact ⟨le_rfl, working⟩
    | fails exc =>
      simp only [Outcome.event, perform, fail]
      split
      · next job renewedAt running =>
        exact ⟨Queue.left_write_le fun row stored => fail_left ((working job renewedAt running).2 row stored),
          working_enter (by simp) (State.enter_phase ..)⟩
      · exact ⟨le_rfl, working⟩
    | dies => exact ⟨le_rfl, working_enter (by simp) (State.enter_phase ..)⟩

/-- What follows the claim in a pass: the start, heartbeats and an outcome. -/
def Follows (workerId : String) (b : Action) : Prop :=
  b.event = .start workerId ∨ b.event = .heartbeat workerId ∨ ∃ outcome : Outcome, b.event = outcome.event workerId

omit [Platform] in
theorem Pass.follows {pass : Pass} {b : Action} (member : b ∈ pass.execution) : Follows pass.workerId b := by
  simp only [execution, List.cons_append, List.mem_cons, List.mem_append, List.mem_map, List.not_mem_nil, or_false] at member
  rcases member with rfl | ⟨elapsed, _, rfl⟩ | rfl
  · exact .inl rfl
  · exact .inr (.inl rfl)
  · exact .inr (.inr ⟨pass.outcome, rfl⟩)

theorem execution_run {workerId : String} {actions : List Action} (working : Working s workerId)
    (follows : ∀ b ∈ actions, Follows workerId b) : (Runs.run (step settings) s actions).queue.left ≤ s.queue.left := by
  induction actions generalizing s with
  | nil => exact le_rfl
  | cons b rest ih =>
    obtain ⟨first, next⟩ := execution_step settings working b.elapsed (follows b List.mem_cons_self)
    exact (ih next fun c member => follows c (List.mem_cons_of_mem _ member)).trans first

theorem stopped_run {workerId : String} {actions : List Action} (stopped : s.phase workerId = .stopped)
    (follows : ∀ b ∈ actions, Follows workerId b) : (Runs.run (step settings) s actions).queue = s.queue := by
  induction actions generalizing s with
  | nil => rfl
  | cons b rest ih =>
    have mine := follows b List.mem_cons_self
    obtain ⟨same, still⟩ := stopped_step settings b.elapsed stopped
      (mine.imp_right fun other => other.imp_right .inr)
    rw [Runs.run_cons, ih still fun c member => follows c (List.mem_cons_of_mem _ member)]
    exact same

/-! ## Passes after one another -/

theorem run_timely {actions : List Action} (sequential : ∀ b ∈ actions, Sequential b) (timely : Timely settings s) :
    Timely settings (Runs.run (step settings) s actions) := by
  induction actions generalizing s with
  | nil => exact timely
  | cons b rest ih =>
    exact ih (fun c member => sequential c (List.mem_cons_of_mem _ member)) (timely.step (sequential b List.mem_cons_self).2)

/-- A pass finds that every job has ended, or leaves fewer attempts. -/
theorem pass_progress {pass : Pass} (accounting : Accounting s) (timely : Timely settings s)
    (idle : s.phase pass.workerId = .idle) (spaced : pass.Spaced settings) (sequential : ∀ b ∈ pass.actions, Sequential b) :
    (∀ row ∈ (Runs.run (step settings) s pass.actions).queue.jobs, row.ended = true) ∨
      (Runs.run (step settings) s pass.actions).queue.left < s.queue.left := by
  obtain ⟨rested, less, recovered⟩ := recovery_rests timely idle spaced.1 spaced.2
  have first : Accounting (step settings s ⟨pass.recovery.elapsed, .recoverAtOnce pass.workerId pass.recovery.waited⟩) := by
    have allowed := sequential _ List.mem_cons_self
    exact (step_moved allowed).accounting allowed.1 accounting
  have follows : ∀ b ∈ pass.execution, Follows pass.workerId b := fun b => Pass.follows
  rw [Pass.actions, Runs.run_cons, Runs.run_cons, Runs.run_cons]
  rcases claim_progress settings pass.selection pass.claim first.rows rested recovered
    with ⟨ended, stopped⟩ | ⟨fewer, jobId, claimed⟩
  · rw [stopped_run stopped follows]
    exact .inl ended
  · exact .inr ((execution_run (working_enter (by simp) claimed) follows).trans_lt (fewer.trans_le less))

omit [Platform] in
theorem Queue.left_of_ended {queue : Queue} (ended : ∀ row ∈ queue.jobs, row.ended = true) : queue.left = 0 := by
  rw [left, List.sum_eq_zero]
  simp only [List.mem_map, forall_exists_index, and_imp, forall_apply_eq_imp_iff₂]
  exact fun row member => Job.left_of_ended (ended row member)

/-- Passes of distinct workers, one more than there are attempts left, end every job. -/
theorem passes_progress {passes : List Pass} (accounting : Accounting s) (timely : Timely settings s)
    (idle : ∀ pass ∈ passes, s.phase pass.workerId = .idle) (apart : (passes.map Pass.workerId).Nodup)
    (spaced : ∀ pass ∈ passes, pass.Spaced settings) (sequential : ∀ pass ∈ passes, ∀ b ∈ pass.actions, Sequential b)
    (enough : s.queue.left < passes.length ∨ ∀ row ∈ s.queue.jobs, row.ended = true) :
    ∀ row ∈ (Runs.run (step settings) s (passes.flatMap Pass.actions)).queue.jobs, row.ended = true := by
  induction passes generalizing s with
  | nil => exact enough.resolve_left (Nat.not_lt_zero _)
  | cons pass rest ih =>
    obtain ⟨differs, apart⟩ := List.nodup_cons.mp apart
    have steps := sequential pass List.mem_cons_self
    have progress := pass_progress accounting timely (idle pass List.mem_cons_self) (spaced pass List.mem_cons_self) steps
    rw [List.flatMap_cons, Runs.run_append]
    refine ih (run_accounting steps accounting) (run_timely steps timely) (fun other member => ?_) apart
      (fun other member => spaced other (List.mem_cons_of_mem _ member))
      (fun other member => sequential other (List.mem_cons_of_mem _ member)) ?_
    · rw [run_phase_other]
      · exact idle other (List.mem_cons_of_mem _ member)
      · intro b inside own
        rw [Pass.workerId_of_mem inside, Option.some.injEq] at own
        exact differs (own ▸ List.mem_map_of_mem member)
    · rcases progress with ended | fewer
      · exact .inr ended
      · rcases enough with enough | ended
        · rw [List.length_cons] at enough
          exact .inl (by omega)
        · rw [Queue.left_of_ended ended] at fewer
          omega

/-- A step of a worker leaves the jobs that there are. -/
theorem step_ids {b : Action} (worker : b.event.workerId ≠ none) :
    (step settings s b).queue.jobs.map (·.id) = s.queue.jobs.map (·.id) := by
  have written (queue : Queue) (w : Write) : (queue.write w).jobs.map (·.id) = queue.jobs.map (·.id) := by
    simp only [Queue.write, List.map_map, Function.comp_def, w.id]
  unfold Jobs.step
  cases event : b.event with
  | createJob keys request => exact absurd (by rw [event]; rfl) worker
  | retryJob jobId => exact absurd (by rw [event]; rfl) worker
  | _ =>
    simp only [perform, recoverSelect, recoverCommit, recoverAtOnce, claimSelect, claimCommit, start, heartbeat, succeed,
      fail]
    repeat' split
    all_goals first
      | exact written _ _
      | rfl

theorem run_ids {actions : List Action} (workers : ∀ b ∈ actions, b.event.workerId ≠ none) :
    (Runs.run (step settings) s actions).queue.jobs.map (·.id) = s.queue.jobs.map (·.id) := by
  induction actions generalizing s with
  | nil => rfl
  | cons b rest ih =>
    rw [Runs.run_cons, ih fun c member => workers c (List.mem_cons_of_mem _ member)]
    exact step_ids (workers b List.mem_cons_self)

end Step

section Examples
open PlainText

/-- A pass of the worker two minutes and a second after the last, whose steps take a microsecond each. -/
def passOf (workerId : String) (outcome : Outcome) : Pass where
  workerId := workerId
  recovery := ⟨121000000, 0⟩
  selection := ⟨1, 0⟩
  claim := ⟨1, 0⟩
  start := 1
  heartbeats := []
  ending := 1
  outcome := outcome

def twoAttempts : List Action := [later (.createJob keys { reconciliationJob with maxAttempts := 2 })]

/-- The first worker dies, the second fails; a third pass would find the job dead-lettered. -/
def twoPasses : List Pass :=
  [passOf "a" .dies, passOf "b" (.fails { classes := ["TimeoutError"], message := "timeout" }), passOf "c" .dies]

end Examples
end RCAA.Jobs
