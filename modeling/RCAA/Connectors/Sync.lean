import RCAA.Connectors.Models

/-! Automatic synchronization as one system: the routes that configure a connector and ask
for a sync, the scheduler, and the workers of the queue with the handler of a sync job in
between. The handler reads the time and fetches its days in one step, and what it writes to
the connector is committed with the success of the job. A scheduler pass is one step. -/

namespace RCAA.Connectors
open Jobs

/-! ## The handler of a sync job -/

def syncJobType : String := "SYNC_CONNECTOR"

def payloadGet (payload : List (String × Json)) (key : String) : Option Json :=
  (payload.find? fun entry => entry.1 = key).map Prod.snd

/-- Digits with single underscores between them, behind an optional sign. -/
def parseInt (text : String) : Option Int :=
  let groups (cs : List Char) : Option Nat :=
    let parts := cs.splitOn '_'
    if [] ∈ parts then none else Decimal.digitsOnly parts.flatten
  match text.toList with
  | '-' :: cs => (groups cs).map fun n => -(n : Int)
  | '+' :: cs => (groups cs).map fun n => (n : Int)
  | cs => (groups cs).map fun n => (n : Int)

section Platform
variable [Platform]

/-- `int(value)`. -/
def jsonInt : Json → Except Raised Int
  | .scalar (.int n) => .ok n
  | .scalar (.bool b) => .ok b.toNat
  | .scalar (.float _ (some value)) => .ok (value.num.tdiv value.den)
  | .scalar (.float text none) =>
    if text = "nan" then .error (valueError "cannot convert float NaN to integer")
    else .error ⟨["OverflowError", "ArithmeticError", "Exception"], "cannot convert float infinity to integer", ""⟩
  | .scalar (.str text) => match parseInt (strip text) with
    | some n => .ok n
    | none => .error (valueError "invalid literal for int() with base 10")
  | _ => .error ⟨["TypeError", "Exception"], "int() argument must be a string, a bytes-like object or a real number", ""⟩

/-- `str(payload.get("connector_id", ""))`; a list or an object prints as no connector's id. -/
def connectorIdOf (job : Job) : Option String :=
  match payloadGet job.payloadJson "connector_id" with
  | none => some ""
  | some (.scalar value) => some value.text
  | some _ => none

/-- The payload names another merchant. -/
def misplaced (job : Job) : Bool :=
  match payloadGet job.payloadJson "merchant_id" with
  | none => false
  | some (.scalar value) => value.truthy && Json.scalar value ≠ Json.str job.merchantId
  | some (.list items) => !items.isEmpty
  | some (.object fields) => !fields.isEmpty
  | some (.timestamp _) => true

/-- What a handler has fetched, and the connector as it loaded it. -/
structure Fetch where
  connector : DataConnector
  startedAt : Int
  window : Nat
  dates : List Date

/-- The handler up to the end of the fetch. -/
def processSync (adapter : Adapter) (now : Int) (table : ConnectorTable) (job : Job) : Except Raised Fetch :=
  if misplaced job then .error ⟨["PermissionError", "OSError", "Exception"], "Job merchant scope mismatch", ""⟩
  else match (connectorIdOf job).bind fun id => table.find id job.merchantId with
    | none => .error (lookupError "Connector not found")
    | some connector =>
      if connector.provider ≠ "razorpay" then .error (valueError "Connector provider is not supported for automatic sync")
      else do
        let days ← jsonInt ((payloadGet job.payloadJson "days").getD (.scalar (.int 7)))
        let dates ← syncRazorpay adapter now connector days
        return ⟨connector, now, windowDays days, dates⟩

/-- What a handler fetched are the days of its window. -/
def Fetch.Whole (fetch : Fetch) : Prop :=
  ∀ day, civil day ∈ fetch.dates ↔ dayNumber fetch.startedAt - fetch.window ≤ day ∧ day ≤ dayNumber fetch.startedAt

theorem processSync_whole {adapter : Adapter} {now : Int} {table : ConnectorTable} {job : Job} {fetch : Fetch}
    (done : processSync adapter now table job = .ok fetch) : fetch.Whole ∧ fetch.startedAt = now := by
  unfold processSync at done
  split at done
  · cases done
  · split at done
    · cases done
    · split at done
      · cases done
      · obtain ⟨days, _, done⟩ := Outcome.bind_ok done
        obtain ⟨dates, fetched, done⟩ := Outcome.bind_ok done
        cases done
        exact ⟨syncRazorpay_dates fetched, rfl⟩

end Platform

/-- What the handler writes to the connector it loaded. -/
def succeededSync (now : Int) (loaded : DataConnector) : Change where
  apply row :=
    { row with
      lastSyncAt := flushed loaded.lastSyncAt (some now) row.lastSyncAt
      nextSyncAt := flushed loaded.nextSyncAt (if loaded.syncEnabled then some (now + loaded.interval) else none) row.nextSyncAt
      lastSyncStatus := flushed loaded.lastSyncStatus (some "SUCCEEDED") row.lastSyncStatus }
  id _ := rfl
  owner _ := rfl

/-! ## The scheduler -/

/-- `now.strftime('%Y%m%d%H%M')`, from the year 1000 on. -/
def minuteText (time : Int) : String :=
  let (year, month, dayOfMonth) := dateAt time
  let minutes := (time % DateTime.day / DateTime.minute).toNat
  padded 4 year.toNat ++ padded 2 month.toNat ++ padded 2 dayOfMonth.toNat ++ padded 2 (minutes / 60) ++ padded 2 (minutes % 60)

def DataConnector.due (now : Int) (connector : DataConnector) : Bool :=
  connector.syncEnabled && connector.status = .connected && connector.nextSyncAt.any (· ≤ now)

/-- The select of a scheduler pass. -/
def dueConnectors (now : Int) (limit : Nat) (table : ConnectorTable) : List DataConnector :=
  (orderRows (fun c => ⟨c.nextSyncAt.getD 0, some 0⟩) (·.id) (table.rows.filter (DataConnector.due now))).take limit

/-- `max(1, connector.sync_interval_minutes // 1440 + 2)`. -/
def scheduledDays (connector : DataConnector) : Int := max 1 (connector.syncIntervalMinutes.1 / 1440 + 2 : Nat)

/-- A scheduled sync goes back two days, or three when its interval is a whole day. -/
theorem scheduledDays_eq (connector : DataConnector) :
    scheduledDays connector = if connector.syncIntervalMinutes.1 = 1440 then 3 else 2 := by
  obtain ⟨_, upper⟩ := connector.syncIntervalMinutes.2
  unfold scheduledDays
  split <;> omega

def scheduledRequest (now : Int) (connector : DataConnector) : JobRequest where
  merchantId := connector.merchantId
  jobType := syncJobType
  payload := [("connector_id", .str connector.id), ("days", .scalar (.int (scheduledDays connector)))]
  idempotencyKey := "scheduled-sync:" ++ connector.id ++ ":" ++ minuteText now

def rescheduled (now : Int) (connector : DataConnector) : Change where
  apply row := { row with nextSyncAt := some (now + connector.interval) }
  id _ := rfl
  owner _ := rfl

section Platform
variable [Platform]

def enqueueDueConnectorJobs (keys : KeySource) (now : Int) (limit : Nat) (queue : Queue) (table : ConnectorTable) :
    Except JobError (Queue × ConnectorTable) :=
  (dueConnectors now limit table).foldlM (fun (queue, table) connector => do
    let (_, _, queue) ← createJob keys now queue (scheduledRequest now connector)
    return (queue, table.update connector.id (rescheduled now connector))) (queue, table)

/-! ## Routes -/

/-- The credentials are those it stores. -/
structure ConnectorRequest where
  provider : String
  credentialsEnc : String
  syncEnabled : Bool := false
  syncIntervalMinutes : SyncInterval := ⟨360, sixHours_accepted⟩

def supportedConnectors : List String := ["razorpay"]

def configured (now : Int) (request : ConnectorRequest) : Change where
  apply row :=
    { row with
      syncEnabled := request.syncEnabled
      syncIntervalMinutes := request.syncIntervalMinutes
      status := .connected
      credentialsEnc := some request.credentialsEnc
      nextSyncAt := if request.syncEnabled then some (now + request.syncIntervalMinutes.1 * DateTime.minute) else none }
  id _ := rfl
  owner _ := rfl

/-- `create_connector`. -/
def createConnector (keys : KeySource) (now : Int) (table : ConnectorTable) (merchantId : String) (request : ConnectorRequest) :
    ConnectorTable :=
  let provider := lower (strip request.provider)
  if provider ∉ supportedConnectors then table
  else match unowned : table.ofOwner merchantId provider with
    | some existing => table.update existing.id (configured now request)
    | none =>
      let blank : DataConnector := { id := keys.draw (table.rows.map (·.id)), merchantId, provider }
      table.insert ((configured now request).apply blank) (keys.fresh _) unowned

def checked (reachable : Bool) : Change where
  apply row :=
    if reachable then { row with status := .connected }
    else { row with status := .error, lastSyncStatus := some "FAILED" }
  id row := by split <;> rfl
  owner row := by split <;> rfl

/-- `test_connector`, whose provider answers or does not. -/
def testConnector (table : ConnectorTable) (connectorId merchantId : String) (reachable : Bool) : ConnectorTable :=
  match table.find connectorId merchantId with
  | none => table
  | some connector =>
    if connector.credentialsEnc.all (· = "") then table
    else table.update connectorId (checked (reachable || connector.provider ≠ "razorpay"))

/-- The days a request may ask for. -/
abbrev SyncDays := { days : Nat // 1 ≤ days ∧ days ≤ 31 }

def syncRequest (now : Int) (connector : DataConnector) (userId : String) (requestId : Option String) (days : SyncDays) :
    JobRequest where
  merchantId := connector.merchantId
  jobType := syncJobType
  payload := [("connector_id", .str connector.id), ("days", .scalar (.int days.1))]
  idempotencyKey := "connector-sync:" ++ connector.id ++ ":" ++ minuteText now
  createdBy := some userId
  requestId := requestId

/-! ## The system -/

/-- A sync that succeeded, recorded for the proofs only. -/
structure Synced where
  connectorId : String
  startedAt : Int
  window : Nat
  finishedAt : Int
  dates : List Date
deriving DecidableEq

structure State where
  jobs : Jobs.State
  connectors : ConnectorTable := {}
  /-- How the handler of a worker got through the fetch; a worker runs one. -/
  fetches : String → Option (Except Raised Fetch) := fun _ => none
  synced : List Synced := []

inductive Event where
  | createConnector (keys : KeySource) (merchantId : String) (request : ConnectorRequest)
  | testConnector (connectorId merchantId : String) (reachable : Bool)
  | syncConnector (keys : KeySource) (connectorId merchantId userId : String) (requestId : Option String) (days : SyncDays)
  | schedule (keys : KeySource) (limit : Nat)
  /-- The handler of a worker that executes a sync job. -/
  | fetch (workerId : String) (adapter : Adapter)
  | job (event : Jobs.Event)

structure Action where
  elapsed : Nat
  event : Event

namespace State

def clock (s : State) : Int := s.jobs.clock

def tick (s : State) (elapsed : Nat) : State := { s with jobs := s.jobs.tick elapsed }

/-- The sync job a worker executes. -/
def syncJob (s : State) (workerId : String) : Option Job :=
  match s.jobs.phase workerId with
  | .executing job _ => if job.jobType = syncJobType then some job else none
  | _ => none

/-- What the handler of that job has fetched, unless it raised. -/
def underway (s : State) (workerId : String) : Option Fetch :=
  (s.syncJob workerId).bind fun _ => (s.fetches workerId).bind Except.toOption

end State

section Step
variable (settings : WorkerSettings)

def fetch (s : State) (workerId : String) (adapter : Adapter) : State :=
  match s.syncJob workerId, s.fetches workerId with
  | some job, none =>
    { s with fetches := Function.update s.fetches workerId (some (processSync adapter s.clock s.connectors job)) }
  | _, _ => s

/-- The commit of a worker's success; that of a sync job with what its handler wrote. -/
def succeed (s : State) (workerId : String) (result : Json) : State :=
  if (s.syncJob workerId).isNone then { s with jobs := Jobs.succeed s.jobs workerId result }
  else match s.underway workerId with
    | none => s
    | some fetch =>
      { s with
        jobs := Jobs.succeed s.jobs workerId result
        connectors := s.connectors.update fetch.connector.id (succeededSync s.clock fetch.connector)
        synced := s.synced ++ [⟨fetch.connector.id, fetch.startedAt, fetch.window, s.clock, fetch.dates⟩] }

def schedule (s : State) (keys : KeySource) (limit : Nat) : State :=
  match enqueueDueConnectorJobs keys s.clock limit s.jobs.queue s.connectors with
  | .error _ => s
  | .ok (queue, connectors) => { s with jobs := { s.jobs with queue }, connectors }

def perform (s : State) : Event → State
  | .createConnector keys merchantId request =>
    { s with connectors := createConnector keys s.clock s.connectors merchantId request }
  | .testConnector connectorId merchantId reachable =>
    { s with connectors := testConnector s.connectors connectorId merchantId reachable }
  | .syncConnector keys connectorId merchantId userId requestId days =>
    match s.connectors.find connectorId merchantId with
    | none => s
    | some connector => { s with jobs := Jobs.create s.jobs keys (syncRequest s.clock connector userId requestId days) }
  | .schedule keys limit => schedule s keys limit
  | .fetch workerId adapter => fetch s workerId adapter
  | .job (.succeed workerId result) => succeed s workerId result
  | .job event => { s with jobs := Jobs.perform settings s.jobs event }

def step (s : State) (a : Action) : State := perform settings (s.tick a.elapsed) a.event

end Step
end Platform
end RCAA.Connectors
