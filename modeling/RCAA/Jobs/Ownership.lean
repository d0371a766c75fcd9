import RCAA.Jobs.Worker
import RCAA.System

/-! Who owns a running job. A worker that executes a job holds its row: the row is
running under the worker, on the lease the worker last renewed. Every statement but the
commit of a recovery keeps that, since the claim and the heartbeat name the state they
expect. The recovery names the row alone, so both laws here hold of the runs in which
it writes no job under execution. -/

namespace RCAA.Jobs
variable {settings : WorkerSettings} {s : State} {a : Action}

/-! ## The invariant -/

structure Held (settings : WorkerSettings) (workerId : String) (renewedAt : Int) (row : Job) : Prop where
  running : row.status = .running
  owner : row.workerId = some workerId
  lease : ∀ expiry, row.leaseExpiresAt = some expiry → expiry = renewedAt + settings.lease

/-- What a worker in a phase may rely on. -/
def Phase.Fits (settings : WorkerSettings) (s : State) (workerId : String) : Phase → Prop
  | .recovering stale => ∀ job ∈ stale, ∃ expiry, job.leaseExpiresAt = some expiry ∧ expiry + settings.lease < s.clock
  | .claiming candidate _ => candidate.status = .queued ∨ candidate.status = .retrying
  | .executing job renewedAt => ∃ row ∈ s.queue.jobs, row.id = job.id ∧ Held settings workerId renewedAt row
  | _ => True

def Coherent (settings : WorkerSettings) (s : State) : Prop := ∀ workerId, (s.phase workerId).Fits settings s workerId

namespace State

/-- The job the worker is executing. -/
def executing (s : State) (workerId : String) : Option String :=
  match s.phase workerId with
  | .executing job _ => some job.id
  | _ => none

theorem executing_eq_some_iff {s : State} {workerId jobId : String} :
    s.executing workerId = some jobId ↔ ∃ job renewedAt, s.phase workerId = .executing job renewedAt ∧ job.id = jobId := by
  unfold executing
  split
  · next job renewedAt running => simp [running]
  · next other =>
    constructor
    · nofun
    · rintro ⟨job, renewedAt, running, -⟩
      exact absurd running (other job renewedAt)

end State

/-- No two workers execute one job. -/
def Exclusive (s : State) : Prop :=
  ∀ jobId v w, s.executing v = some jobId → s.executing w = some jobId → v = w

theorem Coherent.exclusive (coherent : Coherent settings s) : Exclusive s := by
  intro jobId v w first second
  obtain ⟨job, r, phase, rfl⟩ := State.executing_eq_some_iff.mp first
  obtain ⟨other, r', phase', same⟩ := State.executing_eq_some_iff.mp second
  have first := coherent v
  have second := coherent w
  rw [phase] at first
  rw [phase'] at second
  obtain ⟨row, member, id, held⟩ := first
  obtain ⟨row', member', id', held'⟩ := second
  obtain rfl : row = row' := Queue.eq_of_id member member' (by rw [id, id', same])
  exact Option.some.inj (held.owner.symm.trans held'.owner)

/-! ## What keeps it -/

/-- Time passes and rows change: a phase fits as long as the row it holds stays held. -/
theorem Phase.Fits.later {t : State} {workerId : String} {phase : Phase} (fits : phase.Fits settings s workerId)
    (clock : s.clock ≤ t.clock)
    (rows : ∀ job renewedAt, phase = .executing job renewedAt → ∀ row ∈ s.queue.jobs, row.id = job.id →
      Held settings workerId renewedAt row → ∃ row' ∈ t.queue.jobs, row'.id = job.id ∧ Held settings workerId renewedAt row') :
    phase.Fits settings t workerId := by
  cases phase with
  | recovering stale =>
    intro job member
    obtain ⟨expiry, lease, late⟩ := fits job member
    exact ⟨expiry, lease, late.trans_le clock⟩
  | claiming candidate now => exact fits
  | executing job renewedAt =>
    obtain ⟨row, member, id, held⟩ := fits
    exact rows job renewedAt rfl row member id held
  | idle | recovered | claimed jobId | finished jobId | stopped => trivial

theorem Coherent.tick (coherent : Coherent settings s) (elapsed : Nat) : Coherent settings (s.tick elapsed) := by
  intro w
  apply (coherent w).later
  · simp only [State.tick]
    omega
  · exact fun _ _ _ row member id held => ⟨row, member, id, held⟩

/-- A worker moves on without a write. -/
theorem Coherent.enter (coherent : Coherent settings s) {workerId : String} {phase : Phase}
    (fits : phase.Fits settings s workerId) : Coherent settings (s.enter workerId phase) := by
  intro v
  by_cases own : v = workerId
  · subst own
    rw [State.enter_phase]
    exact fits
  · rw [State.enter_phase_of_ne own]
    exact coherent v

/-- A worker moves on with a write: the rows the others hold stay held. -/
theorem Coherent.write {workerId : String} {phase : Phase} {w : Write} (coherent : Coherent settings s)
    (others : ∀ v job renewedAt, v ≠ workerId → s.phase v = .executing job renewedAt → ∀ row ∈ s.queue.jobs,
      row.id = job.id → Held settings v renewedAt row → w.apply row = row)
    (fits : phase.Fits settings (s.write w) workerId) : Coherent settings ((s.enter workerId phase).write w) := by
  intro v
  change ((s.enter workerId phase).phase v).Fits settings (s.write w) v
  by_cases own : v = workerId
  · subst own
    rw [State.enter_phase]
    exact fits
  · rw [State.enter_phase_of_ne own]
    apply (coherent v).later
    · exact le_rfl
    · intro job renewedAt running row member id held
      exact ⟨row, Queue.mem_write.mpr ⟨row, member, others v job renewedAt own running row member id held⟩, id, held⟩

/-- The queue changes but for its running rows. -/
theorem Coherent.requeue {queue : Queue} (coherent : Coherent settings s)
    (keeps : ∀ row ∈ s.queue.jobs, row.status = .running → row ∈ queue.jobs) : Coherent settings { s with queue } := by
  intro v
  apply (coherent v).later
  · exact le_rfl
  · intro job renewedAt _ row member id held
    exact ⟨row, keeps row member held.running, id, held⟩

/-! ## Which rows a statement leaves alone -/

theorem claimUpdate_running {workerId : String} {candidate row : Job} {now leaseUntil : Int}
    (waiting : candidate.status = .queued ∨ candidate.status = .retrying) (running : row.status = .running) :
    (claimUpdate workerId candidate now leaseUntil).apply row = row := by
  have refused : Job.unclaimed candidate now row = false := by
    rcases waiting with status | status <;> simp [Job.unclaimed, running, status]
  simp only [claimUpdate, refused]
  rfl

theorem retryUpdate_running {id : String} {row : Job} (running : row.status = .running) :
    (retryUpdate id).apply row = row := by
  simp only [retryUpdate, retryJob, running]
  split <;> rfl

theorem heartbeatUpdate_other {jobId workerId v : String} {leaseUntil : Int} {row : Job} (owner : row.workerId = some v)
    (differs : v ≠ workerId) : (heartbeatUpdate jobId workerId leaseUntil).apply row = row := by
  apply if_neg
  rintro ⟨-, -, own⟩
  exact differs (Option.some.inj (owner.symm.trans own))

theorem recoverStaleJobs_other {now : Int} {stale : List Job} {row : Job} (absent : ∀ job ∈ stale, job.id ≠ row.id) :
    (recoverStaleJobs now stale).apply row = row := by
  have none : (stale.find? fun job => decide (job.id = row.id)) = none := by
    simpa only [List.find?_eq_none, decide_eq_true_eq] using absent
  simp only [recoverStaleJobs, none]

theorem mem_staleJobs {staleBefore : Int} {queue : Queue} {job : Job} :
    job ∈ staleJobs staleBefore queue ↔ job ∈ queue.jobs ∧ job.status = .running ∧
      ∃ expiry, job.leaseExpiresAt = some expiry ∧ expiry < staleBefore := by
  simp only [staleJobs, List.mem_filter, Bool.and_eq_true, decide_eq_true_eq, Option.any_eq_true]

/-! ## One step -/

/-- The jobs a recovery writes in this step, as its select read them. -/
def recoveries (settings : WorkerSettings) (s : State) (a : Action) : List Job :=
  match a.event with
  | .recoverCommit workerId => match s.phase workerId with
    | .recovering stale => stale
    | _ => []
  | .recoverAtOnce workerId waited => match s.phase workerId with
    | .idle => staleJobs (s.clock + a.elapsed - waited - settings.lease) s.queue
    | _ => []
  | _ => []

/-- No recovery of the step writes a job under execution. -/
def Spares (settings : WorkerSettings) (s : State) (a : Action) : Prop :=
  ∀ workerId, ∀ job ∈ recoveries settings s a, s.executing workerId ≠ some job.id

/-- The commit of a recovery that spares every execution. -/
theorem Coherent.recover {workerId : String} {stale : List Job} (coherent : Coherent settings s)
    (spares : ∀ v, ∀ job ∈ stale, s.executing v ≠ some job.id) :
    Coherent settings ((s.enter workerId .recovered).write (recoverStaleJobs s.clock stale)) := by
  apply coherent.write
  · intro v job renewedAt _ running row _ id _
    apply recoverStaleJobs_other
    intro other member same
    exact spares v other member (State.executing_eq_some_iff.mpr ⟨job, renewedAt, running, by rw [← id, same]⟩)
  · trivial

/-- A worker's commit of its own job leaves the rows the others hold. -/
theorem Coherent.commit {workerId : String} {job : Job} {renewedAt : Int} {w : Write} (coherent : Coherent settings s)
    (running : s.phase workerId = .executing job renewedAt) (others : ∀ row, row.id ≠ job.id → w.apply row = row) :
    Coherent settings ((s.enter workerId (.finished job.id)).write w) := by
  apply coherent.write
  · intro v other r differs phase row _ id _
    apply others
    intro same
    apply differs
    apply coherent.exclusive job.id v workerId
    · exact State.executing_eq_some_iff.mpr ⟨other, r, phase, id.symm.trans same⟩
    · exact State.executing_eq_some_iff.mpr ⟨job, renewedAt, running, rfl⟩
  · trivial

theorem Coherent.start (coherent : Coherent settings s) (workerId : String) :
    Coherent settings (start settings s workerId) := by
  unfold Jobs.start
  split
  · next jobId _ =>
    split
    · exact coherent.enter trivial
    · next job found =>
      split
      · next startable =>
        simp only [Job.startable, Bool.and_eq_true, decide_eq_true_eq] at startable
        obtain ⟨⟨running, owner⟩, -⟩ := startable
        apply coherent.enter
        refine ⟨job, List.mem_of_find?_eq_some found, rfl, running, owner, fun expiry lease => ?_⟩
        rw [lease, Option.getD_some]
        omega
      · exact coherent.enter trivial
  · exact coherent

theorem Coherent.heartbeat (coherent : Coherent settings s) (workerId : String) :
    Coherent settings (heartbeat settings s workerId) := by
  have others (jobId : String) : ∀ v job renewedAt, v ≠ workerId → s.phase v = .executing job renewedAt →
      ∀ row ∈ s.queue.jobs, row.id = job.id → Held settings v renewedAt row →
        (heartbeatUpdate jobId workerId (s.clock + settings.lease)).apply row = row :=
    fun _ _ _ differs _ _ _ _ held => heartbeatUpdate_other held.owner differs
  unfold Jobs.heartbeat
  split
  · next job renewedAt running =>
    apply coherent.write (others job.id)
    have fits := coherent workerId
    rw [running] at fits
    obtain ⟨row, member, id, held⟩ := fits
    refine ⟨_, Queue.mem_write.mpr ⟨row, member, rfl⟩, (Write.id _ row).trans id, ?_⟩
    have renewed : (heartbeatUpdate job.id workerId (s.clock + settings.lease)).apply row =
        { row with leaseExpiresAt := some (s.clock + settings.lease) } := if_pos ⟨id, held.running, held.owner⟩
    rw [renewed]
    exact ⟨held.running, held.owner, fun expiry lease => (Option.some.inj lease).symm⟩
  · next jobId running =>
    have moved : Coherent settings ((s.enter workerId (.finished jobId)).write _) := coherent.write (others jobId) trivial
    rwa [State.enter_same running] at moved
  · exact coherent

theorem Coherent.recoverSelect (coherent : Coherent settings s) (workerId : String) (waited : Nat) :
    Coherent settings (recoverSelect settings s workerId waited) := by
  unfold Jobs.recoverSelect
  split
  · apply coherent.enter
    intro job member
    obtain ⟨-, -, expiry, lease, late⟩ := mem_staleJobs.mp member
    exact ⟨expiry, lease, by omega⟩
  · exact coherent

theorem Coherent.claimSelect (coherent : Coherent settings s) (workerId : String) (waited : Nat) :
    Coherent settings (claimSelect s workerId waited) := by
  unfold Jobs.claimSelect
  split
  · split
    · exact coherent.enter trivial
    · next candidate found =>
      apply coherent.enter
      have claimable := (claimCandidate_mem found).2
      simp only [Job.claimable, Bool.and_eq_true, Bool.or_eq_true, decide_eq_true_eq] at claimable
      exact claimable.1
  · exact coherent

theorem Coherent.claimCommit (coherent : Coherent settings s) (workerId : String) (waited : Nat) :
    Coherent settings (claimCommit settings s workerId waited) := by
  unfold Jobs.claimCommit
  split
  · next candidate since selected =>
    have fits := coherent workerId
    rw [selected] at fits
    split
    · apply coherent.write
      · exact fun v _ _ _ _ row _ _ held => claimUpdate_running fits held.running
      · trivial
    · exact coherent.enter trivial
  · exact coherent

section Step
variable [Platform]

theorem Coherent.create (coherent : Coherent settings s) (keys : KeySource) (request : JobRequest) :
    Coherent settings (create s keys request) := by
  unfold Jobs.create
  split
  · exact coherent
  · next created =>
    apply coherent.requeue
    intro row member _
    rcases createJob_cases created with same | ⟨added, -⟩
    · rwa [same]
    · rw [added]
      exact List.mem_append_left _ member

theorem Coherent.step (coherent : Coherent settings s) (spares : Spares settings s a) :
    Coherent settings (step settings s a) := by
  have ticked := coherent.tick a.elapsed
  unfold Spares recoveries at spares
  unfold Jobs.step
  generalize now : s.tick a.elapsed = t at ticked
  obtain ⟨phases, queue, clock⟩ : s.phase = t.phase ∧ s.queue = t.queue ∧ s.clock + a.elapsed = t.clock := by
    rw [← now]
    exact ⟨rfl, rfl, rfl⟩
  cases event : a.event with
  | createJob keys request => exact ticked.create keys request
  | retryJob jobId =>
    apply ticked.requeue
    exact fun row member running => Queue.mem_write.mpr ⟨row, member, retryUpdate_running running⟩
  | recoverSelect workerId waited => exact ticked.recoverSelect workerId waited
  | recoverCommit workerId =>
    simp only [event, phases] at spares
    simp only [perform, recoverCommit]
    split
    · next stale selected =>
      apply ticked.recover
      simpa only [selected, State.executing, phases] using spares
    · exact ticked
  | recoverAtOnce workerId waited =>
    simp only [event, phases, queue, clock] at spares
    simp only [perform, recoverAtOnce]
    split
    · next idle =>
      apply ticked.recover
      simpa only [idle, State.executing, phases] using spares
    · exact ticked
  | claimSelect workerId waited => exact ticked.claimSelect workerId waited
  | claimUpdate workerId waited => exact ticked.claimCommit workerId waited
  | start workerId => exact ticked.start workerId
  | heartbeat workerId => exact ticked.heartbeat workerId
  | succeed workerId result =>
    simp only [perform, succeed]
    split
    · next job renewedAt running => exact ticked.commit running fun row other => if_neg other
    · exact ticked
  | fail workerId exc =>
    simp only [perform, fail]
    split
    · next job renewedAt running => exact ticked.commit running fun row other => if_neg other
    · exact ticked
  | stop workerId => exact ticked.enter trivial

/-! ## Mutual exclusion -/

/-- A worker that executes a job has renewed its lease within the lease period. -/
def renewed (settings : WorkerSettings) (s : State) (a : Action) (workerId : String) : Bool :=
  match s.phase workerId with
  | .executing _ renewedAt => s.clock + a.elapsed ≤ renewedAt + settings.lease
  | _ => true

def Renewing (settings : WorkerSettings) (s : State) (a : Action) : Prop := ∀ workerId, renewed settings s a workerId = true

/-- The row of the job still has the status, the worker and the lease it was read with. -/
def AsRead (s : State) (job : Job) : Prop :=
  ∀ row ∈ s.queue.jobs, row.id = job.id →
    row.status = job.status ∧ row.workerId = job.workerId ∧ row.leaseExpiresAt = job.leaseExpiresAt

instance (s : State) (job : Job) : Decidable (AsRead s job) :=
  inferInstanceAs (Decidable (∀ row ∈ s.queue.jobs, row.id = job.id → _ ∧ _ ∧ _))

/-- A recovery finds each job under execution that it writes as its select read it. -/
def RecoversAsRead (settings : WorkerSettings) (s : State) (a : Action) : Prop :=
  ∀ workerId, ∀ job ∈ recoveries settings s a, s.executing workerId = some job.id → AsRead s job

omit [Platform] in
/-- The lease of a job that recovery writes expired more than a lease period ago when it was read. -/
theorem Coherent.recoveries_expired (coherent : Coherent settings s) {job : Job} (member : job ∈ recoveries settings s a) :
    ∃ expiry, job.leaseExpiresAt = some expiry ∧ expiry + settings.lease < s.clock + a.elapsed := by
  unfold recoveries at member
  split at member
  · next workerId event =>
    split at member
    · next stale selected =>
      have fits := coherent workerId
      rw [selected] at fits
      obtain ⟨expiry, lease, late⟩ := fits job member
      exact ⟨expiry, lease, by omega⟩
    · cases member
  · next workerId waited event =>
    split at member
    · obtain ⟨-, -, expiry, lease, late⟩ := mem_staleJobs.mp member
      exact ⟨expiry, lease, by omega⟩
    · cases member
  · cases member

omit [Platform] in
/-- While the executing workers renew, a job under execution is not stale as it was read. -/
theorem Coherent.spares (coherent : Coherent settings s) (renewing : Renewing settings s a)
    (asRead : RecoversAsRead settings s a) : Spares settings s a := by
  intro workerId job member executes
  have same := asRead workerId job member executes
  obtain ⟨loaded, renewedAt, running, id⟩ := State.executing_eq_some_iff.mp executes
  have fits := coherent workerId
  rw [running] at fits
  obtain ⟨row, stored, rowId, held⟩ := fits
  obtain ⟨expiry, lease, late⟩ := coherent.recoveries_expired member
  have kept : row.leaseExpiresAt = some expiry := (same row stored (rowId.trans id)).2.2.trans lease
  have granted := held.lease expiry kept
  have fresh : s.clock + a.elapsed ≤ renewedAt + settings.lease := by
    simpa only [renewed, running, decide_eq_true_eq] using renewing workerId
  have period := settings.lease_nonneg
  omega

omit [Platform] in
theorem coherent_initial (clock : Int) : Coherent settings { clock } := fun _ => trivial

/-- A condition on every worker that idle ones meet is one on those that take steps. -/
theorem along_workers_iff {P : State → Action → String → Prop} (idle : ∀ s a workerId, s.phase workerId = .idle → P s a workerId)
    {clock : Int} {actions : List Action} {workers : List String}
    (act : ∀ a ∈ actions, ∀ workerId, a.event.workerId = some workerId → workerId ∈ workers) :
    Runs.Along (step settings) (fun s a => ∀ workerId, P s a workerId) { clock } actions ↔
      Runs.Along (step settings) (fun s a => ∀ workerId ∈ workers, P s a workerId) { clock } actions := by
  constructor
  · intro along
    exact along.imp fun s a every workerId _ => every workerId
  · intro along
    rw [Runs.along_iff] at along ⊢
    intro before a after split workerId
    by_cases acting : workerId ∈ workers
    · exact along before a after split workerId acting
    · apply idle
      apply run_phase_other
      intro b member own
      exact acting (act b (by rw [split]; exact List.mem_append_left _ member) workerId own)

end Step

section Examples
open PlainText

def secondsLater (seconds : Nat) (event : Event) : Action := ⟨seconds * 1000000, event⟩
def now (event : Event) : Action := ⟨0, event⟩

def reconciliationJob : JobRequest := { merchantId := "m1", jobType := "RUN_RECONCILIATION", idempotencyKey := "k" }

/-- A worker claims the job and dies before it starts. -/
def abandoned : List Action :=
  [now (.createJob keys reconciliationJob), now (.recoverAtOnce "x" 0), now (.claimSelect "x" 0),
    now (.claimUpdate "x" 0), now (.stop "x")]

def claimAndStart (workerId : String) : List Action :=
  [now (.claimSelect workerId 0), now (.claimUpdate workerId 0), now (.start workerId)]

/-- Two workers select it as stale before either commits, and claim it in turn. -/
def recoveredTwice : List Action :=
  abandoned ++ [secondsLater 121 (.recoverSelect "a" 0), now (.recoverSelect "b" 0), now (.recoverCommit "a")] ++
    claimAndStart "a" ++ now (.recoverCommit "b") :: claimAndStart "b"

def recoveredOnce : List Action :=
  abandoned ++ [secondsLater 121 (.recoverSelect "a" 0), now (.recoverCommit "a")] ++ claimAndStart "a"

end Examples
end RCAA.Jobs
