import RCAA.Jobs.Service
import RCAA.Library.InsertOnce

/-! Calls of `create_job` that run at the same time, statement by statement. A call reads
the job of its merchant and idempotency key, flushes the row it builds and commits; a
flush that breaks a unique constraint is rolled back and the job read again. One call
alone does what `createJob` does. -/

namespace RCAA.Jobs
open InsertOnce

section Platform
variable [Platform]

/-- The request passes the tests made before the first query. -/
structure JobRequest.Accepted (request : JobRequest) : Prop where
  jobType : upper request.jobType ∈ jobTypes
  merchant : foreignMerchant request.payload request.merchantId = false
  key : ¬(strip request.idempotencyKey = "" ∨ maxIdempotencyKey < (strip request.idempotencyKey).toList.length)

/-- The row a call builds. -/
def jobRow (id : String) (now : Int) (request : JobRequest) : Job where
  id := id
  merchantId := request.merchantId
  jobType := upper request.jobType
  maxAttempts := clampAttempts request.maxAttempts
  createdAt := now
  requestId := request.requestId
  createdBy := request.createdBy
  payloadJson := scrub (request.payload.filter fun entry => entry.1 ≠ "merchant_id")
  idempotencyKey := strip request.idempotencyKey

theorem createJob_eq {keys : KeySource} {now : Int} {queue : Queue} {request : JobRequest} (accepted : request.Accepted) :
    createJob keys now queue request =
      match queue.jobs.find? fun job => job.merchantId = request.merchantId ∧ job.idempotencyKey = strip request.idempotencyKey with
      | some existing => .ok (existing, false, queue)
      | none => .ok (jobRow (keys.draw (queue.jobs.map (·.id))) now request, true,
          queue.insert (jobRow (keys.draw (queue.jobs.map (·.id))) now request) (keys.fresh _)) := by
  simp only [createJob, accepted.merchant, if_neg accepted.key, if_neg (not_not.mpr accepted.jobType), Bool.false_eq_true, if_false]
  rfl

end Platform

/-- A value of a unique column of the table of jobs. -/
inductive UniqueKey where
  | id (value : String)
  | idempotency (merchantId key : String)
deriving DecidableEq

def uniqueKeys (job : Job) : List UniqueKey := [.id job.id, .idempotency job.merchantId job.idempotencyKey]

theorem shared_iff {a b : Job} : (∃ k ∈ uniqueKeys a, k ∈ uniqueKeys b) ↔
    a.id = b.id ∨ (a.merchantId = b.merchantId ∧ a.idempotencyKey = b.idempotencyKey) := by
  simp [uniqueKeys]

/-- Calls with accepted requests, the key each has drawn, and the jobs there are: no two
have one merchant and key. -/
structure Creations (τ : Type) [Platform] where
  queue : Queue
  unique : (queue.jobs.map fun job => (job.merchantId, job.idempotencyKey)).Nodup
  id : τ → String
  now : τ → Int
  request : τ → JobRequest
  accepted : ∀ t, (request t).Accepted

section Calls
variable {τ : Type} [Platform] (calls : Creations τ)

namespace Creations

def row (t : τ) : Job := jobRow (calls.id t) (calls.now t) (calls.request t)

/-- The statements of the calls. -/
def protocol : Protocol τ UniqueKey Job where
  keys := uniqueKeys
  row := calls.row
  wanted t := .idempotency (calls.request t).merchantId (strip (calls.request t).idempotencyKey)
  wanted_mem t := by simp [uniqueKeys, row, jobRow]

def initial : Floor τ UniqueKey Job where
  rows := calls.queue.jobs

/-- No two calls draw one key, and none draws the key of a job there is. -/
def Apart : Prop := Function.Injective calls.id ∧ ∀ t, calls.id t ∉ calls.queue.jobs.map (·.id)

variable {calls}

theorem distinct : Distinct calls.protocol calls.queue.jobs := by
  refine ((List.pairwise_map.mp calls.queue.ids).and (List.pairwise_map.mp calls.unique)).imp fun {a b} differ shares => ?_
  rcases shared_iff.mp shares with same | ⟨merchant, key⟩
  · exact differ.1 same
  · exact differ.2 (by rw [merchant, key])

theorem wanted_iff {t : τ} {job : Job} : calls.protocol.wanted t ∈ uniqueKeys job ↔
    job.merchantId = (calls.request t).merchantId ∧ job.idempotencyKey = strip (calls.request t).idempotencyKey := by
  simp [protocol, uniqueKeys, eq_comm]

variable [DecidableEq τ]

theorem invariant (schedule : List τ) :
    Invariant calls.protocol calls.queue.jobs (Runs.run (step calls.protocol) calls.initial schedule) :=
  run_invariant distinct schedule

/-- With keys of their own no call fails. -/
theorem never_raised (apart : calls.Apart) (schedule : List τ) (t : τ) :
    (Runs.run (step calls.protocol) calls.initial schedule).phase t ≠ .raised := by
  intro raised
  have holds := calls.invariant schedule
  obtain ⟨job, member, k, mine, theirs, differs⟩ := holds.raised t raised
  have drawn : job.id = calls.id t := by
    have theirs : k = .id (calls.id t) ∨ k = calls.protocol.wanted t := by
      simpa [Creations.protocol, uniqueKeys, Creations.row, jobRow] using theirs
    rcases theirs with rfl | wanted
    · simpa [Creations.protocol, uniqueKeys, eq_comm] using mine
    · exact absurd wanted differs
  obtain ⟨made, rows, creators⟩ := holds.grown
  rw [rows] at member
  rcases List.mem_append.mp member with old | new
  · exact apart.2 t (List.mem_map.mpr ⟨job, old, drawn⟩)
  · obtain ⟨creator, done⟩ := creators job new
    have own := (holds.returned creator job true done).2.2 rfl
    rw [own] at drawn
    obtain rfl : creator = t := apart.1 drawn
    rw [raised] at done
    cases done

/-- One call alone does what `createJob` does with the key it has drawn. -/
theorem alone (t : τ) (keys : KeySource) (drawn : calls.id t = keys.draw (calls.queue.jobs.map (·.id))) :
    ∃ job created queue, createJob keys (calls.now t) calls.queue (calls.request t) = .ok (job, created, queue) ∧
      (Runs.run (step calls.protocol) calls.initial [t, t, t]).phase t = .returned job created ∧
      (Runs.run (step calls.protocol) calls.initial [t, t, t]).rows = queue.jobs := by
  have looked : lookup calls.protocol calls.queue.jobs (calls.protocol.wanted t) = calls.queue.jobs.find? fun job =>
      job.merchantId = (calls.request t).merchantId ∧ job.idempotencyKey = strip (calls.request t).idempotencyKey := by
    unfold lookup
    congr 1
    funext job
    exact decide_eq_decide.mpr wanted_iff
  rw [createJob_eq (calls.accepted t), ← looked]
  cases found : lookup calls.protocol calls.queue.jobs (calls.protocol.wanted t) with
  | some existing =>
    refine ⟨existing, false, calls.queue, rfl, ?_⟩
    rw [initial, alone_found found]
    exact ⟨enter_phase .., rfl⟩
  | none =>
    have row : jobRow (keys.draw (calls.queue.jobs.map (·.id))) (calls.now t) (calls.request t) = calls.row t := by
      rw [Creations.row, drawn]
    refine ⟨_, _, _, rfl, ?_⟩
    have clear (job : Job) (member : job ∈ calls.queue.jobs) : ¬Shares calls.protocol job (calls.protocol.row t) := by
      intro shares
      rcases shared_iff.mp shares with same | ⟨merchant, key⟩
      · refine keys.fresh (calls.queue.jobs.map (·.id)) (List.mem_map.mpr ⟨job, member, ?_⟩)
        exact same.trans drawn
      · exact lookup_none found job member (wanted_iff.mpr ⟨merchant, key⟩)
    obtain ⟨returned, rows⟩ := alone_missing found clear
    exact ⟨row ▸ returned, rows.trans (congrArg (fun job => calls.queue.jobs ++ [job]) row.symm)⟩

end Creations

/-! ## Any order of their statements -/

variable {calls} [DecidableEq τ]

end Calls
end RCAA.Jobs
