import RCAA.Jobs.Ownership

/-! The commit of a worker's outcome. It names the row by its key alone, like the
recovery, so it is fenced as long as the worker still holds the row. -/

namespace RCAA.Jobs
variable {settings : WorkerSettings} {s : State} {a : Action}

/-- The columns the outcome of an execution is written to. -/
def Job.outcome (job : Job) :
    JobStatus × Option Json × Option String × Option String × Option Int × Option String :=
  (job.status, job.resultJson, job.lastErrorCode, job.lastErrorMessageSafe, job.leaseExpiresAt, job.workerId)

/-- A write by key changes a row only if it is the row of that key. -/
theorem Queue.changed_by_key {queue : Queue} {w : Write} {id : String} (others : ∀ row, row.id ≠ id → w.apply row = row)
    {row row' : Job} (member : row ∈ queue.jobs) (member' : row' ∈ (queue.write w).jobs) (same : row'.id = row.id)
    (changed : row'.outcome ≠ row.outcome) : row.id = id := by
  obtain ⟨before, stored, rfl⟩ := Queue.mem_write.mp member'
  obtain rfl : before = row := Queue.eq_of_id stored member ((w.id before).symm.trans same)
  by_contra other
  exact changed (by rw [others before other])

section Step
variable [Platform]

/-- A step that commits the outcome of a worker changes the outcome of jobs that are
running under that worker only. -/
def Fenced (settings : WorkerSettings) (s : State) (a : Action) : Prop :=
  ∀ workerId, a.event.completes = some workerId → ∀ row ∈ s.queue.jobs, ∀ row' ∈ (step settings s a).queue.jobs,
    row'.id = row.id → row'.outcome ≠ row.outcome → row.status = .running ∧ row.workerId = some workerId

/-- The commit of a worker that holds its row. -/
theorem Coherent.fenced (coherent : Coherent settings s) : Fenced settings s a := by
  intro workerId completes row member row' member' same changed
  have unchanged (kept : row' ∈ s.queue.jobs) : False :=
    changed (by rw [Queue.eq_of_id kept member same])
  have owned {job : Job} {renewedAt : Int} {w : Write} (running : s.phase workerId = .executing job renewedAt)
      (others : ∀ row, row.id ≠ job.id → w.apply row = row) (written : row' ∈ (s.queue.write w).jobs) :
      row.status = .running ∧ row.workerId = some workerId := by
    have fits := coherent workerId
    rw [running] at fits
    obtain ⟨held, stored, id, holds⟩ := fits
    have key := Queue.changed_by_key others member written same changed
    obtain rfl : held = row := Queue.eq_of_id stored member (id.trans key.symm)
    exact ⟨holds.running, holds.owner⟩
  unfold Jobs.step at member'
  cases event : a.event with
  | succeed worker result =>
    obtain rfl : worker = workerId := by simpa only [event, Event.completes, Option.some.injEq] using completes
    simp only [event, perform, succeed] at member'
    split at member'
    · next job renewedAt running => exact owned running (fun row other => if_neg other) member'
    · exact (unchanged member').elim
  | fail worker exc =>
    obtain rfl : worker = workerId := by simpa only [event, Event.completes, Option.some.injEq] using completes
    simp only [event, perform, fail] at member'
    split at member'
    · next job renewedAt running => exact owned running (fun row other => if_neg other) member'
    · exact (unchanged member').elim
  | _ => simp only [event, Event.completes, reduceCtorEq] at completes

end Step

section Examples
open PlainText

/-- A worker takes the abandoned job over and finishes it. -/
def takenOver : List Action := recoveredOnce ++ [secondsLater 20 (.succeed "a" (.object []))]

/-- A worker sleeps through its lease and finishes after another has taken the job over. -/
def wakesLate : List Action :=
  [now (.createJob keys reconciliationJob), now (.recoverAtOnce "x" 0)] ++ claimAndStart "x" ++
    secondsLater 121 (.recoverAtOnce "a" 0) :: claimAndStart "a"

def lateCommit : Action := now (.succeed "x" (.object []))

end Examples
end RCAA.Jobs
