import RCAA.Connectors.Sync
import RCAA.Ingestion.SettlementMoney

/-! What a synchronization ingests. The lines of each report go through up to three calls that
share one uncommitted session; the worker commits it when the sync is done and rolls it back
when the sync raises. A call that refuses its lines commits the session to keep its batch, and
with it what the calls before it have added. -/

namespace RCAA.Connectors

section Sync
variable [ProviderRuntime]

/-! ## The sync -/

/-- What lies outside: opening the connector's client, and the report of a day. -/
structure Provider where
  opened : Except Raised Unit
  report : Date → Except Raised (List RawData)

/-- The lines of one kind in a report. -/
structure LineCall where
  recordType : RecordType
  lines : List Dict

/-- The calls for a report: no call is made for a kind it has no line of. -/
def reportCalls (lines : Lines) : List LineCall :=
  [⟨.payment, lines.payments⟩, ⟨.refund, lines.refunds⟩, ⟨.settlement, lines.settlements⟩].filter fun call => !call.lines.isEmpty

inductive SyncFailure where
  | provider (raised : Raised)
  | report (error : IngestError)
  | ingest (error : IngestError)

/-- What a sync has come to: how it ended, its session, and how many calls it has made that returned. -/
structure Synchronized where
  outcome : Except SyncFailure Unit
  session : Session
  calls : Nat

def ingestLines (draws : Draws) (session : Session) (merchantId : String) (call : LineCall) :
    Except IngestError IngestReport × Session :=
  ingestRecords draws session (stampedLines merchantId call.lines) "razorpay_api" call.recordType (some "razorpay")
    (some merchantId) false

def ingestReport (draws : Nat → Draws) (merchantId : String) (session : Session) (calls : Nat) : List LineCall → Synchronized
  | [] => ⟨.ok (), session, calls⟩
  | call :: rest => match ingestLines (draws calls) session merchantId call with
    | (.error error, session) => ⟨.error (.ingest error), session, calls⟩
    | (.ok _, session) => ingestReport draws merchantId session (calls + 1) rest

def ingestReports (draws : Nat → Draws) (merchantId : String) (session : Session) (calls : Nat) :
    List (Except Raised (List RawData)) → Synchronized
  | [] => ⟨.ok (), session, calls⟩
  | .error raised :: _ => ⟨.error (.provider raised), session, calls⟩
  | .ok items :: rest => match normalizeCombined items with
    | .error error => ⟨.error (.report error), session, calls⟩
    | .ok lines =>
      let ingested := ingestReport draws merchantId session calls (reportCalls lines)
      match ingested.outcome with
      | .error failure => ⟨.error failure, ingested.session, ingested.calls⟩
      | .ok _ => ingestReports draws merchantId ingested.session ingested.calls rest

/-- The days a sync asks for, oldest first. -/
def syncDates (now days : Int) : List Date :=
  (List.range (windowDays days + 1)).map fun i : Nat => dateAt (now - windowDays days * DateTime.day + i * DateTime.day)

/-- `sync_razorpay` with the session it is given. -/
def ingestSync (provider : Provider) (draws : Nat → Draws) (now : Int) (connector : DataConnector) (days : Int)
    (session : Session) : Synchronized :=
  if connector.credentialsEnc.all (· = "") then
    ⟨.error (.provider (valueError "Connector credentials are not configured")), session, 0⟩
  else match provider.opened with
    | .error raised => ⟨.error (.provider raised), session, 0⟩
    | .ok _ => ingestReports draws connector.merchantId session 0 ((syncDates now days).map provider.report)

/-- What `execute_claimed_job` does with the session of a handler that raised: it rolls back,
and commits the row of the job. -/
def failedSession (session : Session) : Session := session.rollback.commit

/-! ## A sync that is done -/

omit [ProviderRuntime] in
theorem fetchRounds_done {answers : Date → Except Raised Unit} (rounds : Nat) (cursor : Int)
    (arrived : ∀ i < rounds, answers (dateAt (cursor + i * DateTime.day)) = .ok ()) :
    fetchRounds answers rounds cursor = .ok ((List.range rounds).map fun i : Nat => dateAt (cursor + i * DateTime.day)) := by
  induction rounds generalizing cursor with
  | zero => rfl
  | succ rounds ih =>
    have next (i : Nat) : cursor + DateTime.day + i * DateTime.day = cursor + (i + 1 : Nat) * DateTime.day := by
      rw [Nat.cast_succ, add_mul, one_mul, add_assoc, add_comm DateTime.day]
    have first : answers (dateAt cursor) = .ok () := by simpa using arrived 0 (Nat.zero_lt_succ rounds)
    have later := ih (cursor + DateTime.day) fun i below => by
      rw [next]
      exact arrived (i + 1) (Nat.succ_lt_succ below)
    rw [fetchRounds, first]
    change (fetchRounds answers rounds (cursor + DateTime.day) >>= _) = _
    rw [later, List.range_succ_eq_map, List.map_cons, List.map_map, Nat.cast_zero, zero_mul, add_zero]
    exact congrArg Except.ok (congrArg _ (List.map_congr_left fun i _ => congrArg dateAt (next i)))

omit [ProviderRuntime] in
/-- A sync whose days all arrive has fetched its days. -/
theorem syncRazorpay_done {answers : Date → Except Raised Unit} {now days : Int} {connector : DataConnector}
    (configured : ¬connector.credentialsEnc.all (· = "")) (arrived : ∀ date ∈ syncDates now days, answers date = .ok ()) :
    syncRazorpay ⟨.ok (), answers⟩ now connector days = .ok (syncDates now days) := by
  unfold syncRazorpay
  rw [if_neg configured]
  change fetchFrom answers now _ = _
  rw [fetchFrom, window_rounds]
  exact fetchRounds_done _ _ fun i below => arrived _ (List.mem_map_of_mem (List.mem_range.mpr below))

theorem ingestReports_arrived {draws : Nat → Draws} {merchantId : String} {session : Session} {calls : Nat}
    {reports : List (Except Raised (List RawData))} (done : (ingestReports draws merchantId session calls reports).outcome = .ok ()) :
    ∀ report ∈ reports, ∃ items, report = .ok items := by
  induction reports generalizing session calls with
  | nil => exact fun _ member => nomatch member
  | cons report rest ih =>
    cases report with
    | error raised => cases done
    | ok items =>
      simp only [ingestReports] at done
      split at done
      · cases done
      · split at done
        · cases done
        · exact List.forall_mem_cons.mpr ⟨⟨items, rfl⟩, ih done⟩

/-- A sync that ingests every report is one that fetched every day of its window. -/
theorem ingestSync_fetches {provider : Provider} {draws : Nat → Draws} {now days : Int} {connector : DataConnector}
    {session : Session} (done : (ingestSync provider draws now connector days session).outcome = .ok ()) :
    syncRazorpay ⟨provider.opened, fun date => (provider.report date).map fun _ => ()⟩ now connector days = .ok (syncDates now days) := by
  unfold ingestSync at done
  split at done
  · cases done
  · next configured =>
    split at done
    · cases done
    · next opened =>
      have arrived := ingestReports_arrived done
      rw [opened]
      refine syncRazorpay_done configured fun date asked => ?_
      obtain ⟨items, answered⟩ := arrived _ (List.mem_map_of_mem asked)
      exact congrArg (Except.map fun _ => ()) answered

/-! ## The calls of a sync -/

/-- The calls for reports, up to the first that does not arrive or cannot be adapted. -/
def reportsCalls : List (Except Raised (List RawData)) → List LineCall
  | .ok items :: rest => match normalizeCombined items with
    | .ok lines => reportCalls lines ++ reportsCalls rest
    | .error _ => []
  | _ => []

def syncCalls (provider : Provider) (now days : Int) : List LineCall := reportsCalls ((syncDates now days).map provider.report)

namespace LineCall

/-- The records a call reads. -/
def records (draws : Draws) (merchantId : String) (call : LineCall) : Except IngestError (List NormalizedRecord) :=
  normalizeAll draws (stampedLines merchantId call.lines) "razorpay_api" call.recordType (some "razorpay")

/-- The call does not get past reading its lines. -/
def Refused (draws : Draws) (merchantId : String) (call : LineCall) : Prop :=
  ∃ message, call.records draws merchantId = .error (.validation message)

def Brings (draws : Draws) (merchantId : String) (call : LineCall) (key : TableKey) : Prop :=
  ∃ records, call.records draws merchantId = .ok records ∧ key ∈ records.map NormalizedRecord.key

end LineCall

variable {draws : Nat → Draws} {merchantId : String}

/-- Calls that all return, numbered from `n` on. -/
inductive Ran (draws : Nat → Draws) (merchantId : String) : Session → Nat → List LineCall → Session → Prop
  | nil {session : Session} {n : Nat} : Ran draws merchantId session n [] session
  | cons {session next after : Session} {n : Nat} {call : LineCall} {rest : List LineCall} {report : IngestReport}
      (returned : ingestLines (draws n) session merchantId call = (.ok report, next))
      (later : Ran draws merchantId next (n + 1) rest after) : Ran draws merchantId session n (call :: rest) after

theorem Ran.append {start middle after : Session} {n : Nat} {first second : List LineCall}
    (one : Ran draws merchantId start n first middle) (two : Ran draws merchantId middle (n + first.length) second after) :
    Ran draws merchantId start n (first ++ second) after := by
  induction one with
  | nil => exact two
  | cons returned _ ih =>
    rw [List.length_cons, ← Nat.add_assoc, Nat.add_right_comm] at two
    exact .cons returned (ih two)

/-- Where a sync stands when a call raises: the calls before it have returned. -/
structure Stopped (draws : Nat → Draws) (merchantId : String) (start : Session) (n : Nat) (calls : List LineCall)
    (error : IngestError) (sync : Synchronized) : Prop where
  at_call : ∃ before call after session, calls = before ++ call :: after ∧ sync.calls = n + before.length ∧
    Ran draws merchantId start n before session ∧
    ingestLines (draws sync.calls) session merchantId call = (.error error, sync.session)

theorem ingestReport_spec (session : Session) (n : Nat) (calls : List LineCall) :
    ((ingestReport draws merchantId session n calls).outcome = .ok () ∧
        (ingestReport draws merchantId session n calls).calls = n + calls.length ∧
        Ran draws merchantId session n calls (ingestReport draws merchantId session n calls).session) ∨
      ∃ error, (ingestReport draws merchantId session n calls).outcome = .error (.ingest error) ∧
        Stopped draws merchantId session n calls error (ingestReport draws merchantId session n calls) := by
  induction calls generalizing session n with
  | nil => exact .inl ⟨rfl, rfl, .nil⟩
  | cons call rest ih =>
    rw [ingestReport]
    split
    · next error next raised => exact .inr ⟨error, rfl, [], call, rest, session, rfl, rfl, .nil, raised⟩
    · next report next returned =>
      rcases ih next (n + 1) with ⟨done, count, ran⟩ | ⟨error, failed, before, at_, after, reached, rfl, count, ran, raised⟩
      · refine .inl ⟨done, ?_, .cons returned ran⟩
        rw [count, List.length_cons]
        omega
      · refine .inr ⟨error, failed, call :: before, at_, after, reached, rfl, ?_, .cons returned ran, raised⟩
        rw [count, List.length_cons]
        omega

/-- A call before others that all return. -/
theorem Stopped.after {start middle : Session} {n : Nat} {first calls : List LineCall} {error : IngestError} {sync : Synchronized}
    (ran : Ran draws merchantId start n first middle)
    (stopped : Stopped draws merchantId middle (n + first.length) calls error sync) :
    Stopped draws merchantId start n (first ++ calls) error sync := by
  obtain ⟨before, call, after, session, rfl, count, later, raised⟩ := stopped
  refine ⟨first ++ before, call, after, session, by rw [List.append_assoc], ?_, ran.append later, raised⟩
  rw [count, List.length_append, Nat.add_assoc]

theorem Stopped.before {start : Session} {n : Nat} {calls rest : List LineCall} {error : IngestError} {sync : Synchronized}
    (stopped : Stopped draws merchantId start n calls error sync) :
    Stopped draws merchantId start n (calls ++ rest) error sync := by
  obtain ⟨before, call, after, session, rfl, count, ran, raised⟩ := stopped
  exact ⟨before, call, after ++ rest, session, by rw [List.append_assoc, List.cons_append], count, ran, raised⟩

theorem ingestReports_stopped {reports : List (Except Raised (List RawData))} {error : IngestError} {session : Session} {n : Nat}
    (failed : (ingestReports draws merchantId session n reports).outcome = .error (.ingest error)) :
    Stopped draws merchantId session n (reportsCalls reports) error (ingestReports draws merchantId session n reports) := by
  induction reports generalizing session n with
  | nil => cases failed
  | cons report rest ih =>
    cases report with
    | error raised => cases failed
    | ok items =>
      cases adapted : normalizeCombined items with
      | error error =>
        simp only [ingestReports, adapted] at failed
        cases failed
      | ok lines =>
        simp only [ingestReports, reportsCalls, adapted] at failed ⊢
        rcases @ingestReport_spec _ draws merchantId session n (reportCalls lines) with ⟨done, count, ran⟩ | ⟨raised, ended, stopped⟩
        · simp only [done] at failed ⊢
          rw [count] at failed ⊢
          exact Stopped.after ran (ih failed)
        · simp only [ended] at failed ⊢
          cases failed
          exact ⟨stopped.before.at_call⟩

/-! ## What is durable after a failure -/

/-- What calls that return leave: nothing committed, and a key for each of their records. -/
structure Pending (draws : Nat → Draws) (merchantId : String) (start : Session) (n : Nat) (calls : List LineCall)
    (session : Session) : Prop where
  durable : session.durable = start.durable
  keys : ∀ key, key ∈ session.current.store.keys ↔ key ∈ start.current.store.keys ∨
    ∃ (i : Nat) (call : LineCall), calls[i]? = some call ∧ call.Brings (draws (n + i)) merchantId key
  rows : ∀ row ∈ session.current.store.rows, row ∈ start.current.store.rows ∨ row.key ∉ start.current.store.keys

theorem ingestLines_ok {draws : Draws} {session next : Session} {call : LineCall} {report : IngestReport}
    (returned : ingestLines draws session merchantId call = (.ok report, next)) :
    next.durable = session.durable ∧
      (∀ key, key ∈ next.current.store.keys ↔ key ∈ session.current.store.keys ∨ call.Brings draws merchantId key) ∧
      ∀ row ∈ next.current.store.rows, row ∈ session.current.store.rows ∨ row.key ∉ session.current.store.keys := by
  obtain ⟨records, progress, written, normalized, done, _, _, _, stored⟩ := ran_persisted returned
  have added := (persistAll_kept done).2
  refine ⟨ingestRecords_uncommitted returned, fun key => ?_, fun row member => ?_⟩
  · rw [stored, added.mem_keys_iff]
    refine or_congr_right ⟨fun member => ⟨records, normalized, member⟩, ?_⟩
    rintro ⟨again, renormalized, member⟩
    cases normalized.symm.trans renormalized
    exact member
  · rw [stored] at member
    rcases List.mem_append.mp (added.rows.mem_iff.mp member) with old | new
    · exact .inl old
    · obtain ⟨c, inside, rfl⟩ := List.mem_map.mp new
      obtain ⟨_, _, _, unseen, _⟩ := (FirstByKey.mem_firsts_iff _ _ _ _).mp (added.kept inside)
      exact .inr (added.keyed c inside ▸ unseen)

theorem Ran.pending {start session : Session} {n : Nat} {calls : List LineCall} (ran : Ran draws merchantId start n calls session) :
    Pending draws merchantId start n calls session := by
  induction ran with
  | nil => exact ⟨rfl, fun key => by simp, fun row member => .inl member⟩
  | @cons session next after n call rest report returned _ ih =>
    obtain ⟨uncommitted, keys, rows⟩ := ingestLines_ok returned
    refine ⟨ih.durable.trans uncommitted, fun key => ?_, fun row member => ?_⟩
    · rw [ih.keys, keys, or_assoc]
      refine or_congr_right ⟨?_, ?_⟩
      · rintro (here | ⟨i, later, place, brings⟩)
        · exact ⟨0, call, rfl, here⟩
        · refine ⟨i + 1, later, place, ?_⟩
          rwa [Nat.add_right_comm, Nat.add_assoc] at brings
      · rintro ⟨i, later, place, brings⟩
        cases i with
        | zero =>
          cases place
          exact .inl brings
        | succ i =>
          refine .inr ⟨i, later, place, ?_⟩
          rwa [Nat.add_right_comm, Nat.add_assoc]
    · rcases ih.rows row member with old | new
      · exact rows row old
      · exact .inr fun known => new ((keys row.key).mpr (.inl known))

/-- A call that raises leaves durable what was, unless it is refused: then what its session held. -/
theorem ingestLines_error {draws : Draws} {session next : Session} {call : LineCall} {error : IngestError}
    (raised : ingestLines draws session merchantId call = (.error error, next)) :
    (call.Refused draws merchantId ∧ next.durable.store = session.current.store) ∨
      (¬call.Refused draws merchantId ∧ next.durable.store = session.durable.store) := by
  unfold LineCall.Refused
  cases read : call.records draws merchantId with
  | ok records =>
    have persisted : ingestLines draws session merchantId call = persistNormalized draws
        (createBatch session draws.batchId "razorpay_api" (some "razorpay") (some merchantId)).1 records
        (createBatch session draws.batchId "razorpay_api" (some "razorpay") (some merchantId)).2 false := by
      rw [LineCall.records] at read
      simp only [ingestLines, ingestRecords, read]
    rw [persisted] at raised
    refine .inr ⟨by simp, ?_⟩
    exact (persistNormalized_error_durable raised).trans rfl
  | error failed =>
    have rejected : ingestLines draws session merchantId call = rejectInput draws session "razorpay_api" (some "razorpay")
        (some merchantId) (stampedLines merchantId call.lines).length (stampedLines merchantId call.lines).length failed := by
      rw [LineCall.records] at read
      simp only [ingestLines, ingestRecords, read]
    rw [rejected] at raised
    cases failed with
    | validation message =>
      refine .inl ⟨⟨message, rfl⟩, ?_⟩
      obtain ⟨_, rfl⟩ := Prod.mk.inj raised
      rfl
    | _ =>
      refine .inr ⟨by simp, ?_⟩
      obtain ⟨_, rfl⟩ := Prod.mk.inj raised
      rfl

/-- A sync that a call of ingestion fails stores nothing, exactly unless that call is refused
while it is read and an earlier one has brought a key that was not stored. -/
theorem failed_sync_stores_nothing_iff {provider : Provider} {draws : Nat → Draws} {now days : Int} {connector : DataConnector}
    {database : Database} {error : IngestError}
    (failed : (ingestSync provider draws now connector days ⟨database, database⟩).outcome = .error (.ingest error)) :
    ∃ before call after, syncCalls provider now days = before ++ call :: after ∧
      (ingestSync provider draws now connector days ⟨database, database⟩).calls = before.length ∧
      ((∀ row ∈ (failedSession (ingestSync provider draws now connector days ⟨database, database⟩).session).durable.store.rows,
          row ∈ database.store.rows) ↔
        ¬(call.Refused (draws before.length) connector.merchantId ∧
          ∃ (i : Nat) (earlier : LineCall) (key : TableKey), before[i]? = some earlier ∧
            earlier.Brings (draws i) connector.merchantId key ∧ key ∉ database.store.keys)) := by
  have stopped : Stopped draws connector.merchantId ⟨database, database⟩ 0 (syncCalls provider now days) error
      (ingestSync provider draws now connector days ⟨database, database⟩) := by
    unfold ingestSync at failed ⊢
    split at failed
    · cases failed
    · next configured =>
      rw [if_neg configured]
      split at failed
      · cases failed
      · exact ingestReports_stopped failed
  generalize ingestSync provider draws now connector days ⟨database, database⟩ = sync at stopped
  obtain ⟨before, call, after, session, calls, count, ran, raised⟩ := stopped
  rw [Nat.zero_add] at count
  rw [count] at raised
  have pending := ran.pending
  refine ⟨before, call, after, calls, count, ?_⟩
  change (∀ row ∈ sync.session.durable.store.rows, _) ↔ _
  rcases ingestLines_error raised with ⟨refused, durable⟩ | ⟨read, durable⟩
  · rw [durable]
    constructor
    · rintro nothing ⟨_, i, earlier, key, place, brings, new⟩
      have stored := (pending.keys key).mpr (.inr ⟨i, earlier, place, by rwa [Nat.zero_add]⟩)
      obtain ⟨row, member, rfl⟩ := Store.mem_keys.mp stored
      exact new (Store.mem_keys.mpr ⟨row, nothing row member, rfl⟩)
    · intro spared row member
      rcases pending.rows row member with old | new
      · exact old
      · rcases (pending.keys row.key).mp (Store.mem_keys.mpr ⟨row, member, rfl⟩) with old | ⟨i, earlier, place, brings⟩
        · exact absurd old new
        · rw [Nat.zero_add] at brings
          exact absurd ⟨refused, i, earlier, row.key, place, brings, new⟩ spared
  · rw [durable, pending.durable]
    exact ⟨fun _ ⟨refused, _⟩ => read refused, fun _ row member => member⟩

end Sync

section Examples
open PlainText

def paymentLine : RawData :=
  [("entity_id", .str "pay_1"), ("type", .str "payment"), ("amount", .int 1000), ("settled", .bool true)]

/-- A refund that names no payment. -/
def unnamedRefund : RawData :=
  [("entity_id", .str "rfnd_1"), ("type", .str "refund"), ("amount", .int 500), ("settled", .bool true)]

/-- A provider with the same report for every day. -/
def reporting (items : List RawData) : Provider := ⟨.ok (), fun _ => .ok items⟩

def connected : DataConnector := { id := "c1", merchantId := "m1", provider := "razorpay", credentialsEnc := some "sealed" }

def emptyDatabase : Database := {}

def failedSync (items : List RawData) : Synchronized :=
  ingestSync (reporting items) (fun _ => importDraws) 0 connected 1 ⟨emptyDatabase, emptyDatabase⟩

/-- A refund that is refused before anything is ingested. -/
theorem failed_sync_stores_nothing_iff_first :
    (failedSync [unnamedRefund]).calls = 0 ∧
      ∀ row ∈ (failedSession (failedSync [unnamedRefund]).session).durable.store.rows, row ∈ emptyDatabase.store.rows := by
  have failed : (failedSync [unnamedRefund]).outcome = .error (.ingest (.validation "payment_reference is required")) := rfl
  obtain ⟨before, call, after, _, count, nothing⟩ := failed_sync_stores_nothing_iff failed
  have first : before = [] := List.length_eq_zero_iff.mp count.symm
  refine ⟨rfl, nothing.mpr ?_⟩
  rintro ⟨_, i, earlier, key, place, _⟩
  rw [first] at place
  cases place

/-- Refused after the payment of the same report was ingested, it commits the payment. -/
theorem refused_refund_commits_payment :
    ¬∀ (provider : Provider) (draws : Nat → Draws) (now days : Int) (connector : DataConnector) (database : Database)
      (error : IngestError),
      (ingestSync provider draws now connector days ⟨database, database⟩).outcome = .error (.ingest error) →
        ∀ row ∈ (failedSession (ingestSync provider draws now connector days ⟨database, database⟩).session).durable.store.rows,
          row ∈ database.store.rows := by
  intro law
  have nothing := law (reporting [paymentLine, unnamedRefund]) (fun _ => importDraws) 0 1 connected emptyDatabase
    (.validation "payment_reference is required") rfl
  have stored : (failedSession (failedSync [paymentLine, unnamedRefund]).session).durable.store.rows.map Record.key =
      [(.payment, some "razorpay", "pay_1")] := rfl
  obtain ⟨row, _, whole, _⟩ := List.map_eq_cons_iff.mp stored
  have member : row ∈ (failedSession (failedSync [paymentLine, unnamedRefund]).session).durable.store.rows :=
    whole ▸ List.mem_cons_self
  exact nomatch nothing row member

end Examples
end RCAA.Connectors
