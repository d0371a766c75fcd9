import RCAA.Jobs.Worker
import RCAA.Timestamps

/-! The connectors of merchants, and the days one synchronization asks the provider for.
A day is a date in UTC. What the provider answers for a day is ingested elsewhere; here an
answer only arrives or raises. A connector's name and the summary of its last sync are left
out: nothing reads them. -/

namespace RCAA.Connectors
open Jobs

export Jobs (Raised)

inductive ConnectorStatus where
  | disconnected | connected | error
deriving DecidableEq, Repr

/-- The minutes a request may ask for. -/
abbrev SyncInterval := { minutes : Nat // 60 ≤ minutes ∧ minutes ≤ 1440 }

theorem sixHours_accepted : 60 ≤ 360 ∧ 360 ≤ 1440 := by decide

structure DataConnector where
  id : String
  merchantId : String
  provider : String
  status : ConnectorStatus := .disconnected
  credentialsEnc : Option String := none
  syncEnabled : Bool := false
  syncIntervalMinutes : SyncInterval := ⟨360, sixHours_accepted⟩
  lastSyncAt : Option Int := none
  nextSyncAt : Option Int := none
  lastSyncStatus : Option String := none
deriving DecidableEq

def DataConnector.interval (connector : DataConnector) : Int := connector.syncIntervalMinutes.1 * DateTime.minute

structure ConnectorTable where
  rows : List DataConnector := []
  ids : (rows.map (·.id)).Nodup := by decide
  owners : (rows.map fun c => (c.merchantId, c.provider)).Nodup := by decide

/-- What a statement sets in a row; none changes whose connector it is. -/
structure Change where
  apply : DataConnector → DataConnector
  id : ∀ c, (apply c).id = c.id
  owner : ∀ c, ((apply c).merchantId, (apply c).provider) = (c.merchantId, c.provider)

namespace ConnectorTable

def find (table : ConnectorTable) (id merchantId : String) : Option DataConnector :=
  table.rows.find? fun c => c.id = id && c.merchantId = merchantId

def ofOwner (table : ConnectorTable) (merchantId provider : String) : Option DataConnector :=
  table.rows.find? fun c => (c.merchantId, c.provider) = (merchantId, provider)

def update (table : ConnectorTable) (id : String) (change : Change) : ConnectorTable where
  rows := KeyedRows.update (·.id) id change.apply table.rows
  ids := by
    rw [KeyedRows.map_update _ change.id]
    exact table.ids
  owners := by
    rw [KeyedRows.map_update _ change.owner]
    exact table.owners

def insert (table : ConnectorTable) (connector : DataConnector) (fresh : connector.id ∉ table.rows.map (·.id))
    (unowned : table.ofOwner connector.merchantId connector.provider = none) : ConnectorTable where
  rows := table.rows ++ [connector]
  ids := KeyedRows.nodup_snoc _ table.ids fresh
  owners := KeyedRows.nodup_snoc _ table.owners (by
    rw [ofOwner, KeyedRows.find?_eq_none_iff] at unowned
    rw [List.mem_map]
    rintro ⟨c, member, same⟩
    exact unowned c member same)

end ConnectorTable

/-! ## The days of a sync -/

/-- Year, month and day. -/
abbrev Date := Int × Int × Int

def dayNumber (time : Int) : Int := time / DateTime.day
def dateAt (time : Int) : Date := civil (dayNumber time)

theorem dayNumber_mono {time later : Int} (le : time ≤ later) : dayNumber time ≤ dayNumber later :=
  Int.ediv_le_ediv (by decide) le

/-- `max(1, min(days, 31))`. -/
def windowDays (days : Int) : Nat := (max 1 (min days 31)).toNat

section Fetch
variable (answers : Date → Except Raised Unit)

def fetchRounds : Nat → Int → Except Raised (List Date)
  | 0, _ => .ok []
  | rounds + 1, cursor => do
    answers (dateAt cursor)
    let rest ← fetchRounds rounds (cursor + DateTime.day)
    return dateAt cursor :: rest

/-- `while cursor <= now`, which ends after as many rounds as there are whole days left. -/
def fetchFrom (now cursor : Int) : Except Raised (List Date) :=
  fetchRounds answers ((now - cursor) / DateTime.day + 1).toNat cursor

/-- The loop as the source has it. -/
theorem fetchFrom_eq (now cursor : Int) :
    fetchFrom answers now cursor =
      if cursor ≤ now then do
        answers (dateAt cursor)
        let rest ← fetchFrom answers now (cursor + DateTime.day)
        return dateAt cursor :: rest
      else .ok [] := by
  unfold fetchFrom
  split
  · next more =>
    have rounds : ((now - cursor) / DateTime.day + 1).toNat =
        ((now - (cursor + DateTime.day)) / DateTime.day + 1).toNat + 1 := by
      simp only [DateTime.day, DateTime.minute]
      omega
    rw [rounds, fetchRounds]
  · next past =>
    have rounds : ((now - cursor) / DateTime.day + 1).toNat = 0 := by
      simp only [DateTime.day, DateTime.minute]
      omega
    rw [rounds, fetchRounds]

variable {answers}

theorem fetchRounds_dates {rounds : Nat} {cursor : Int} {dates : List Date} (done : fetchRounds answers rounds cursor = .ok dates)
    (day : Int) : civil day ∈ dates ↔ dayNumber cursor ≤ day ∧ day < dayNumber cursor + rounds := by
  induction rounds generalizing cursor dates with
  | zero =>
    cases done
    simp only [List.not_mem_nil, false_iff]
    omega
  | succ rounds ih =>
    obtain ⟨_, _, done⟩ := Outcome.bind_ok done
    obtain ⟨rest, fetched, done⟩ := Outcome.bind_ok done
    cases done
    have next : dayNumber (cursor + DateTime.day) = dayNumber cursor + 1 :=
      Int.add_ediv_of_dvd_right (dvd_refl _) |>.trans (by rw [Int.ediv_self (by decide)]; rfl)
    rw [List.mem_cons, dateAt, civil_injective.eq_iff, ih fetched, next]
    omega

end Fetch

/-! ## The sync of a connector -/

/-- What lies outside: decrypting the credentials and building the client, and the answers
of the provider. -/
structure Adapter where
  opened : Except Raised Unit
  answers : Date → Except Raised Unit

def valueError (message : String) : Raised := ⟨["ValueError", "Exception"], message, ""⟩
def lookupError (message : String) : Raised := ⟨["LookupError", "Exception"], message, ""⟩

/-- `sync_razorpay` at the time it reads: the dates it fetches, oldest first. -/
def syncRazorpay (adapter : Adapter) (now : Int) (connector : DataConnector) (days : Int) : Except Raised (List Date) := do
  if connector.credentialsEnc.all (· = "") then throw (valueError "Connector credentials are not configured")
  adapter.opened
  fetchFrom adapter.answers now (now - windowDays days * DateTime.day)

/-- A window is as many rounds as it has days, and one more. -/
theorem window_rounds (now days : Int) :
    ((now - (now - windowDays days * DateTime.day)) / DateTime.day + 1).toNat = windowDays days + 1 := by
  rw [sub_sub_cancel, Int.mul_ediv_cancel _ (by decide)]
  omega

/-- A sync that finishes has fetched the day it started on and as many days before it as its window has. -/
theorem syncRazorpay_dates {adapter : Adapter} {now days : Int} {connector : DataConnector} {dates : List Date}
    (done : syncRazorpay adapter now connector days = .ok dates) (day : Int) :
    civil day ∈ dates ↔ dayNumber now - windowDays days ≤ day ∧ day ≤ dayNumber now := by
  unfold syncRazorpay at done
  split at done
  · cases done
  · obtain ⟨_, _, done⟩ := Outcome.bind_ok done
    have start : dayNumber (now - windowDays days * DateTime.day) = dayNumber now - windowDays days := by
      rw [dayNumber, dayNumber, Int.sub_mul_ediv_right _ _ (by decide)]
    rw [fetchFrom, window_rounds] at done
    rw [fetchRounds_dates done, start]
    omega

end RCAA.Connectors
