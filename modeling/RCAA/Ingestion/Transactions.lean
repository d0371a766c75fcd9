import RCAA.Ingestion.Merchants
import RCAA.Ingestion.Validation

/-! The write endpoints for payments, refunds and settlements. The services leave the commit to
their route, and a session that is closed uncommitted loses what it holds. Reading the body,
which may refuse a request before its endpoint runs, and writing the answer are left out. -/

namespace RCAA

open FirstByKey

/-! ## Requests -/

structure PaymentIn where
  provider : String := "demo"
  providerPaymentId : String
  providerOrderId : Option String := none
  amount : Decimal
  currency : String := "INR"
  status : String := "captured"
  method : Option String := some "card"
  captured : Bool := true
  rawData : RawData := []
  positive : 0 < amount.coeff := by decide

structure RefundIn where
  provider : String := "demo"
  providerRefundId : String
  providerPaymentId : String
  amount : Decimal
  status : String := "processed"
  rawData : RawData := []
  positive : 0 < amount.coeff := by decide

structure SettlementIn where
  provider : String := "demo"
  providerSettlementId : String
  providerPaymentId : String
  grossAmount : Decimal
  fee : Decimal := .zero
  tax : Decimal := .zero
  netAmount : Decimal
  status : String := "processed"
  settledAt : DateTime
  utr : Option String := none
  rawData : RawData := []

structure ImportEnvelope where
  source : String
  provider : Option String := none
  records : List Dict
  sourceLength : 1 ≤ source.length ∧ source.length ≤ 64
  providerLength : ∀ text ∈ provider, text.length ≤ 64
  recordCount : 1 ≤ records.length ∧ records.length ≤ 10000

/-- The types the import endpoints take. -/
inductive ImportType where
  | payment | refund | settlement
deriving DecidableEq, Repr

def ImportType.recordType : ImportType → RecordType
  | .payment => .payment
  | .refund => .refund
  | .settlement => .settlement

inductive WriteRequest where
  | addPayment (v : PaymentIn)
  | importPaymentRecords (items : List PaymentIn)
  | addRefund (v : RefundIn)
  | addSettlement (v : SettlementIn)
  | importRecords (type : ImportType) (v : ImportEnvelope)

/-- The table a request writes. -/
def WriteRequest.recordType : WriteRequest → RecordType
  | .addPayment _ | .importPaymentRecords _ => .payment
  | .addRefund _ => .refund
  | .addSettlement _ => .settlement
  | .importRecords type _ => type.recordType

/-- The user of a request; the user of the tests has no merchant. -/
structure Caller where
  merchantId : String
  role : String
  testAdmin : Bool := false

namespace Caller

/-- `require_roles('ADMIN', 'OPS')`. -/
def mayWrite (caller : Caller) : Bool := caller.role ∈ ["ADMIN", "OPS"]

/-- The merchant `_data` sets. -/
def owner (caller : Caller) : Option String := if caller.testAdmin then none else some caller.merchantId

/-- The records of an import, each with the merchant of its caller. -/
def stamped (caller : Caller) (records : List Dict) : List Dict :=
  match caller.owner with
  | none => records
  | some merchantId => records.map (Dict.set "merchant_id" (.str merchantId))

end Caller

inductive Answer where
  | success (created : Nat)
  | error (status : Nat) (detail : String)
deriving DecidableEq, Repr

/-! ## Services -/

section Services
variable (money : Decimal → Decimal)

def PaymentIn.key (v : PaymentIn) : TableKey := (.payment, some v.provider, v.providerPaymentId)

/-- The row of a payment; `money` is what NUMERIC(14,2) makes of an amount. -/
def PaymentIn.row (id : String) (now : DateTime) (merchantId : Option String) (v : PaymentIn) : Payment :=
  { id, merchantId, provider := v.provider, providerPaymentId := v.providerPaymentId, providerOrderId := v.providerOrderId
    amount := money v.amount, currency := v.currency, status := v.status, method := v.method, captured := v.captured
    createdAt := now, rawData := v.rawData }

/-- The payment of the caller's own that a body names. -/
def ownPaymentId (store : Store) (provider providerPaymentId : String) (merchantId : Option String) : Option String :=
  match store.paymentByProviderId provider providerPaymentId with
  | none => none
  | some payment => if payment.merchantId = merchantId then some payment.id else none

def RefundIn.row (store : Store) (id : String) (now : DateTime) (merchantId : Option String) (v : RefundIn) : Refund :=
  { id, merchantId, provider := v.provider, providerRefundId := v.providerRefundId, providerPaymentId := v.providerPaymentId
    paymentId := ownPaymentId store v.provider v.providerPaymentId merchantId, amount := money v.amount, status := v.status
    createdAt := now, rawData := .object v.rawData }

def SettlementIn.row (store : Store) (id : String) (merchantId : Option String) (v : SettlementIn) : Settlement :=
  { id, merchantId, provider := v.provider, providerSettlementId := v.providerSettlementId
    providerPaymentId := v.providerPaymentId
    paymentId := ownPaymentId store v.provider v.providerPaymentId merchantId
    grossAmount := money v.grossAmount, fee := money v.fee, tax := money v.tax, netAmount := money v.netAmount
    status := v.status, settledAt := v.settledAt, utr := v.utr, rawData := v.rawData }

/-- One item of `import_payments`: the lookup sends the row added before it. -/
def importPayment (draws : Draws) (merchantId : Option String) (progress : Nat × Store) (item : PaymentIn × Nat) :
    Except IngestError (Nat × Store) :=
  if (progress.2.paymentByProviderId item.1.provider item.1.providerPaymentId).isSome then .ok progress
  else do
    let store ← progress.2.insert (.payment (item.1.row money (draws.rowId item.2) (draws.now item.2) merchantId))
    return (progress.1 + 1, store)

def importPayments (draws : Draws) (merchantId : Option String) (store : Store) (items : List PaymentIn) :
    Except IngestError (Nat × Store) :=
  items.zipIdx.foldlM (importPayment money draws merchantId) (0, store)

/-! ## Endpoints -/

/-- `record_event` and `session.commit()`. -/
def settle (audit : Except IngestError Unit) (created : Nat) (session : Session) : Answer × Session :=
  match audit with
  | .ok _ => (.success created, session.commit)
  | .error _ => (.error 500 "Internal Server Error", session)

/-- An endpoint that creates one row. -/
def addRow (audit : Except IngestError Unit) (session : Session) (row : Record) (conflict : String) : Answer × Session :=
  match session.current.store.insert row with
  | .ok store => settle audit 1 { session with current := { session.current with store } }
  | .error _ => (.error 409 conflict, session.rollback)

variable [Runtime]

/-- `_import`. -/
def importEnvelope (draws : Draws) (audit : Except IngestError Unit) (caller : Caller) (session : Session) (type : ImportType)
    (v : ImportEnvelope) : Answer × Session :=
  match ingestRecords draws session (caller.stamped v.records) v.source type.recordType v.provider caller.owner false with
  | (.ok report, session) => settle audit report.created session
  | (.error (.validation message), session) => (.error 422 message, session)
  | (.error _, session) => (.error 500 "Internal Server Error", session)

def endpoint (draws : Draws) (audit : Except IngestError Unit) (caller : Caller) (session : Session) : WriteRequest → Answer × Session
  | .addPayment v => addRow audit session (.payment (v.row money (draws.rowId 0) (draws.now 0) caller.owner))
      "Provider payment already exists"
  | .importPaymentRecords items =>
    match importPayments money draws caller.owner session.current.store items with
    | .ok (created, store) => (.success created, { session with current := { session.current with store } })
    | .error _ => (.error 500 "Internal Server Error", session)
  | .addRefund v => addRow audit session
      (.refund (v.row money session.current.store (draws.rowId 0) (draws.now 0) caller.owner)) "Provider refund already exists"
  | .addSettlement v => addRow audit session (.settlement (v.row money session.current.store (draws.rowId 0) caller.owner))
      "Provider settlement already exists"
  | .importRecords type v => importEnvelope draws audit caller session type v

/-- The answer to a request and what is durable once its session is closed. -/
def respond (draws : Draws) (audit : Except IngestError Unit) (caller : Caller) (database : Database) (request : WriteRequest) :
    Answer × Database :=
  if !caller.mayWrite then (.error 403 "Insufficient permissions", database)
  else
    let (answer, session) := endpoint money draws audit caller ⟨database, database⟩ request
    (answer, session.durable)

/-! ## Telling the truth -/

/-- The answer says what is durable: as many new rows of the kind as it says were created, or
after an error the rows there were. -/
def Truthful (request : WriteRequest) (before : Database) : Answer × Database → Prop
  | (.success created, after) => ∃ rows, after.store.rows.Perm (before.store.rows ++ rows) ∧ rows.length = created ∧
      ∀ row ∈ rows, row.key.1 = request.recordType
  | (.error _ _, after) => after.store = before.store

/-- An import of payments that creates one: some payment is not stored, and the column takes
the amount of each that is added. -/
def CreatesPayments (store : Store) (items : List PaymentIn) : Prop :=
  (∃ item ∈ items, item.key ∉ store.keys) ∧
    ∀ item ∈ firsts PaymentIn.key store.keys items, fitsMoney (money item.amount) = true

omit [Runtime] in
theorem addRow_truthful {request : WriteRequest} {database : Database} (audit : Except IngestError Unit) {row : Record}
    (type : row.key.1 = request.recordType) (conflict : String) :
    Truthful request database ((addRow audit ⟨database, database⟩ row conflict).1, (addRow audit ⟨database, database⟩ row conflict).2.durable) := by
  unfold addRow
  cases inserted : database.store.insert row with
  | error error => rfl
  | ok store =>
    cases audit with
    | error error => rfl
    | ok _ =>
      refine ⟨[row], (Store.insert_ok inserted).2, rfl, fun r member => ?_⟩
      rw [List.mem_singleton.mp member, type]

theorem importEnvelope_truthful (draws : Draws) (audit : Except IngestError Unit) (caller : Caller) (database : Database)
    (type : ImportType) (v : ImportEnvelope) :
    Truthful (.importRecords type v) database ((importEnvelope draws audit caller ⟨database, database⟩ type v).1,
      (importEnvelope draws audit caller ⟨database, database⟩ type v).2.durable) := by
  unfold importEnvelope
  generalize ran : ingestRecords draws ⟨database, database⟩ (caller.stamped v.records) v.source type.recordType v.provider
    caller.owner false = result
  obtain ⟨outcome, session⟩ := result
  cases outcome with
  | ok report =>
    cases audit with
    | error error => exact congrArg Database.store (ingestRecords_uncommitted ran)
    | ok _ =>
      obtain ⟨records, progress, written, normalized, done, created, _, _, stored⟩ := ran_persisted ran
      obtain ⟨kept, added⟩ := persistAll_kept done
      refine ⟨written.created.map Created.row, ?_, ?_, fun row member => ?_⟩
      · change session.current.store.rows.Perm _
        rw [stored]
        exact added.rows
      · rw [created, kept.created, ← added.new, List.length_map, List.length_map]
      · obtain ⟨c, inside, rfl⟩ := List.mem_map.mp member
        have place := List.mem_zipIdx_iff_getElem?.mp ((firsts_sublist _ _ _).subset (added.kept inside))
        obtain ⟨_, _, read⟩ := normalizeAll_getElem? normalized place
        rw [added.keyed c inside]
        exact (normalizeRecord_readFrom read).type
  | error error =>
    have kept : session.durable.store = database.store := ingestRecords_error_durable ran
    cases error <;> exact kept

end Services

/-! ## Importing payments -/

section ImportPayments
variable {money : Decimal → Decimal}

theorem PaymentIn.stored_iff {store : Store} (v : PaymentIn) :
    (store.paymentByProviderId v.provider v.providerPaymentId).isSome = true ↔ v.key ∈ store.keys := by
  rw [Option.isSome_iff_exists, Store.mem_keys]
  constructor
  · rintro ⟨p, found⟩
    obtain ⟨stored, provider, reference⟩ := (store.paymentByProviderId_eq_some_iff _ _ p).mp found
    exact ⟨.payment p, Store.payment_mem_rows.mpr stored, by rw [Record.key, provider, reference, PaymentIn.key]⟩
  · rintro ⟨row, stored, key⟩
    cases row with
    | payment p =>
      simp only [Record.key, PaymentIn.key, Prod.mk.injEq, Option.some.injEq, true_and] at key
      exact ⟨p, (store.paymentByProviderId_eq_some_iff _ _ p).mpr ⟨Store.payment_mem_rows.mp stored, key⟩⟩
    | refund | settlement | bank => cases key

/-- What the loop has counted and added over the items read, each row under the id drawn for its item. -/
structure Imported (money : Decimal → Decimal) (draws : Draws) (initial : Store) (read : List (PaymentIn × Nat)) (progress : Nat × Store) : Prop where
  created : progress.1 = (firsts (fun item => item.1.key) initial.keys read).length
  keys : ∀ key, key ∈ progress.2.keys ↔ key ∈ initial.keys ++ (firsts (fun item => item.1.key) initial.keys read).map fun item => item.1.key
  ids : ∀ row ∈ progress.2.rows, row ∈ initial.rows ∨ ∃ item ∈ read, row.id = draws.rowId item.2
  fits : ∀ item ∈ firsts (fun item => item.1.key) initial.keys read, fitsMoney (money item.1.amount) = true

/-- An item that is stored is passed; any other adds its row. -/
theorem importPayment_cases {draws : Draws} {merchantId : Option String} {progress progress' : Nat × Store} {item : PaymentIn × Nat}
    (stepped : importPayment money draws merchantId progress item = .ok progress') :
    (item.1.key ∈ progress.2.keys ∧ progress' = progress) ∨
      (item.1.key ∉ progress.2.keys ∧ ∃ store,
        progress.2.insert (.payment (item.1.row money (draws.rowId item.2) (draws.now item.2) merchantId)) = .ok store ∧
        progress' = (progress.1 + 1, store)) := by
  unfold importPayment at stepped
  split at stepped
  · next found =>
    cases stepped
    exact .inl ⟨item.1.stored_iff.mp found, rfl⟩
  · next absent =>
    obtain ⟨store, inserted, stepped⟩ := Outcome.bind_ok stepped
    cases stepped
    exact .inr ⟨fun stored => absent (item.1.stored_iff.mpr stored), store, inserted, rfl⟩

theorem Imported.step {draws : Draws} {merchantId : Option String} {initial : Store} {read : List (PaymentIn × Nat)}
    {progress progress' : Nat × Store} {item : PaymentIn × Nat} (imported : Imported money draws initial read progress)
    (stepped : importPayment money draws merchantId progress item = .ok progress') :
    Imported money draws initial (read ++ [item]) progress' := by
  have earlier {row : Record} (before : row ∈ initial.rows ∨ ∃ e ∈ read, row.id = draws.rowId e.2) :
      row ∈ initial.rows ∨ ∃ e ∈ read ++ [item], row.id = draws.rowId e.2 :=
    before.imp_right fun ⟨e, inside, id⟩ => ⟨e, List.mem_append_left _ inside, id⟩
  rcases importPayment_cases stepped with ⟨known, rfl⟩ | ⟨absent, store, inserted, rfl⟩
  · have same : firsts (fun item => item.1.key) initial.keys (read ++ [item]) = firsts (fun item => item.1.key) initial.keys read := by
      rw [firsts_snoc, if_pos ((imported.keys _).mp known), List.append_nil]
    exact ⟨by rw [same, imported.created], by rw [same]; exact imported.keys, fun row stored => earlier (imported.ids row stored),
      by rw [same]; exact imported.fits⟩
  · have grown : firsts (fun item => item.1.key) initial.keys (read ++ [item]) =
        firsts (fun item => item.1.key) initial.keys read ++ [item] := by
      rw [firsts_snoc, if_neg fun known => absent ((imported.keys _).mpr known)]
    obtain ⟨_, _, _, fits⟩ := Store.insert_isOk_iff.mp ⟨store, inserted⟩
    have rows := (Store.insert_ok inserted).2
    refine ⟨?_, fun key => ?_, fun row stored => ?_, fun e kept => ?_⟩
    · rw [grown, List.length_append, List.length_singleton, imported.created]
    · rw [grown, List.map_append, List.map_singleton, ← List.append_assoc, List.mem_append, ← imported.keys, Store.keys,
        (rows.map Record.key).mem_iff, List.map_append, List.mem_append]
      rfl
    · rcases List.mem_append.mp (rows.mem_iff.mp stored) with old | last
      · exact earlier (imported.ids row old)
      · rw [List.mem_singleton.mp last]
        exact .inr ⟨item, List.mem_append_right _ (List.mem_singleton_self _), rfl⟩
    · rw [grown] at kept
      rcases List.mem_append.mp kept with old | last
      · exact imported.fits e old
      · rw [List.mem_singleton.mp last]
        exact fits _ (List.mem_singleton_self _)

/-- The rows added before leave room for the next item's. -/
theorem Imported.next {draws : Draws} {merchantId : Option String} {initial : Store} (fresh : draws.Fresh initial)
    {read : List (PaymentIn × Nat)} {progress : Nat × Store} {item : PaymentIn × Nat}
    (imported : Imported money draws initial read progress) (later : ∀ e ∈ read, e.2 ≠ item.2)
    (fits : item.1.key ∉ progress.2.keys → fitsMoney (money item.1.amount) = true) :
    ∃ progress', importPayment money draws merchantId progress item = .ok progress' := by
  unfold importPayment
  split
  · exact ⟨progress, rfl⟩
  · next absent =>
    have new : item.1.key ∉ progress.2.keys := fun stored => absent (item.1.stored_iff.mpr stored)
    have unused : ∀ row ∈ progress.2.rows, row.id ≠ draws.rowId item.2 := by
      intro row stored
      rcases imported.ids row stored with old | ⟨e, before, id⟩
      · exact fresh.unused _ row old
      · exact fun same => later e before (fresh.distinct (id.symm.trans same))
    have accepted : ∃ store,
        progress.2.insert (.payment (item.1.row money (draws.rowId item.2) (draws.now item.2) merchantId)) = .ok store := by
      refine Store.insert_isOk_iff.mpr ⟨fun row stored _ => unused row stored, new, fresh.named _, fun amount member => ?_⟩
      rw [List.mem_singleton.mp member]
      exact fits new
    obtain ⟨store, inserted⟩ := accepted
    exact ⟨_, Outcome.bind_ok_iff.mpr ⟨store, inserted, rfl⟩⟩

theorem Imported.start (draws : Draws) (store : Store) : Imported money draws store [] (0, store) :=
  ⟨rfl, fun key => by rw [firsts, List.map_nil, List.append_nil], fun _ stored => .inl stored, fun _ kept => nomatch kept⟩

theorem firsts_zipIdx (seen : List TableKey) (items : List PaymentIn) :
    firsts PaymentIn.key seen items = (firsts (fun item => item.1.key) seen items.zipIdx).map Prod.fst := by
  rw [← firsts_map, List.zipIdx_map_fst]

theorem importPayments_imported {draws : Draws} {merchantId : Option String} {store after : Store} {items : List PaymentIn} {created : Nat}
    (done : importPayments money draws merchantId store items = .ok (created, after)) :
    Imported money draws store items.zipIdx (created, after) := by
  have imported := Outcome.foldlM_invariant (Imported money draws store) (fun imported stepped => imported.step stepped)
    (Imported.start draws store) done
  rwa [List.nil_append] at imported

/-- The items that are new decide whether an import returns. -/
theorem importPayments_isOk_iff {draws : Draws} {merchantId : Option String} {store : Store} {items : List PaymentIn}
    (fresh : draws.Fresh store) :
    (∃ done, importPayments money draws merchantId store items = .ok done) ↔
      ∀ item ∈ firsts PaymentIn.key store.keys items, fitsMoney (money item.amount) = true := by
  rw [firsts_zipIdx]
  simp only [List.forall_mem_map]
  constructor
  · rintro ⟨⟨created, after⟩, done⟩
    exact (importPayments_imported done).fits
  · intro fits
    have step : ∀ {read progress item rest}, items.zipIdx = read ++ item :: rest → Imported money draws store read progress →
        ∃ progress', importPayment money draws merchantId progress item = .ok progress' ∧
          Imported money draws store (read ++ [item]) progress' := by
      intro read progress item rest whole imported
      have later : ∀ e ∈ read, e.2 ≠ item.2 := FirstByKey.zipIdx_place_ne whole
      have room : item.1.key ∉ progress.2.keys → fitsMoney (money item.1.amount) = true := by
        intro new
        rw [imported.keys] at new
        refine fits item ?_
        rw [whole, firsts_append, List.mem_append]
        exact .inr (by rw [firsts, if_neg new]; exact List.mem_cons_self)
      obtain ⟨progress', stepped⟩ := imported.next fresh later room
      exact ⟨progress', stepped, imported.step stepped⟩
    obtain ⟨done, returned, _⟩ := Outcome.foldlM_returns (Imported money draws store) (Imported.start draws store) step
    exact ⟨done, returned⟩

/-- An import of payments, which is never committed, tells the truth when it creates none. -/
theorem importPayments_truthful_iff [Runtime] (draws : Draws) (audit : Except IngestError Unit) (caller : Caller) (database : Database)
    (items : List PaymentIn) (fresh : draws.Fresh database.store) :
    Truthful (.importPaymentRecords items) database
        ((endpoint money draws audit caller ⟨database, database⟩ (.importPaymentRecords items)).1,
          (endpoint money draws audit caller ⟨database, database⟩ (.importPaymentRecords items)).2.durable) ↔
      ¬CreatesPayments money database.store items := by
  have decided := @importPayments_isOk_iff money draws caller.owner _ items fresh
  simp only [endpoint]
  cases ran : importPayments money draws caller.owner database.store items with
  | error error =>
    refine iff_of_true rfl ?_
    rintro ⟨_, fits⟩
    obtain ⟨_, returned⟩ := decided.mpr fits
    rw [ran] at returned
    cases returned
  | ok done =>
    obtain ⟨created, store⟩ := done
    have fits := decided.mp ⟨_, ran⟩
    have count : created = (firsts PaymentIn.key database.store.keys items).length := by
      rw [firsts_zipIdx, List.length_map]
      exact (importPayments_imported ran).created
    have none : created = 0 ↔ ∀ item ∈ items, item.key ∈ database.store.keys := by
      rw [count, List.length_eq_zero_iff, firsts_eq_nil_iff]
    have creates : CreatesPayments money database.store items ↔ created ≠ 0 := by
      rw [Ne, none, CreatesPayments, and_iff_left fits]
      simp only [not_forall, exists_prop]
    rw [creates, not_not]
    constructor
    · rintro ⟨rows, added, length, _⟩
      have lengths := added.length_eq
      simp only [List.length_append] at lengths
      omega
    · intro zero
      exact ⟨[], by rw [List.append_nil], zero.symm, fun _ member => nomatch member⟩

/-- The write endpoints tell the truth, but for `/payments/import` when it creates a payment. -/
theorem transactions_truthful_iff [Runtime] (draws : Draws) (audit : Except IngestError Unit) (caller : Caller) (database : Database)
    (request : WriteRequest) (fresh : draws.Fresh database.store) :
    Truthful request database (respond money draws audit caller database request) ↔
      ¬(caller.mayWrite = true ∧ ∃ items, request = .importPaymentRecords items ∧ CreatesPayments money database.store items) := by
  by_cases may : caller.mayWrite = true
  · have answered : respond money draws audit caller database request =
        ((endpoint money draws audit caller ⟨database, database⟩ request).1,
          (endpoint money draws audit caller ⟨database, database⟩ request).2.durable) := by
      simp only [respond, may, Bool.not_true, Bool.false_eq_true, if_false]
    rw [answered, and_iff_right may]
    cases request with
    | addPayment v => exact iff_of_true (addRow_truthful audit rfl _) fun ⟨_, other, _⟩ => nomatch other
    | addRefund v => exact iff_of_true (addRow_truthful audit rfl _) fun ⟨_, other, _⟩ => nomatch other
    | addSettlement v => exact iff_of_true (addRow_truthful audit rfl _) fun ⟨_, other, _⟩ => nomatch other
    | importRecords type v => exact iff_of_true (importEnvelope_truthful draws audit caller database type v) fun ⟨_, other, _⟩ => nomatch other
    | importPaymentRecords items =>
      rw [importPayments_truthful_iff draws audit caller database items fresh]
      refine not_congr ⟨fun creates => ⟨items, rfl, creates⟩, ?_⟩
      rintro ⟨_, same, creates⟩
      cases same
      exact creates
  · have refused : respond money draws audit caller database request = (.error 403 "Insufficient permissions", database) := by
      simp only [respond, may, Bool.not_false, if_true]
    rw [refused]
    exact iff_of_true rfl fun ⟨allowed, _⟩ => may allowed

end ImportPayments

section Examples
open PlainText

def opsCaller : Caller := { merchantId := "m1", role := "OPS" }

def newPayment : PaymentIn := { providerPaymentId := "pay_1", amount := ⟨10000, -2⟩ }

/-- A single payment is stored, as its answer says. -/
theorem transactions_truthful_iff_payment :
    Truthful (.addPayment newPayment) {} (respond id uploadDraws (.ok ()) opsCaller {} (.addPayment newPayment)) :=
  (transactions_truthful_iff uploadDraws (.ok ()) opsCaller {} (.addPayment newPayment) uploadDraws_fresh).mpr
    fun ⟨_, _, other, _⟩ => nomatch other

/-- The import of one payment answers that it created one, and none is stored. -/
theorem imported_payments_are_lost :
    ¬∀ (draws : Draws) (audit : Except IngestError Unit) (caller : Caller) (database : Database) (request : WriteRequest),
      draws.Fresh database.store → Truthful request database (respond id draws audit caller database request) := by
  intro law
  have told := law uploadDraws (.ok ()) opsCaller {} (.importPaymentRecords [newPayment]) uploadDraws_fresh
  have answered : respond id uploadDraws (.ok ()) opsCaller {} (.importPaymentRecords [newPayment]) = (.success 1, {}) := rfl
  rw [answered] at told
  obtain ⟨rows, added, length, _⟩ := told
  have lengths := added.length_eq
  rw [List.length_append, length] at lengths
  omega

end Examples
end RCAA
