import RCAA.Ingestion.PersistProofs

/-! What a row is made from, and which records the database takes. A row depends on its
record and, for a refund or a settlement, on the payment the record names; whether it is
taken depends on the record alone, apart from its key and its identifier. -/

namespace RCAA

open FirstByKey

section Persist
variable [Runtime]

/-! ## What a row depends on -/

/-- The record types whose rows link to a payment. -/
def RecordType.links : RecordType → Bool
  | .refund | .settlement => true
  | .payment | .bankTransaction => false

def Record.paymentId : Record → Option String
  | .refund row => row.paymentId
  | .settlement row => row.paymentId
  | .payment _ | .bank _ => none

/-- The rows of the store a row depends on are the payments its record names. -/
theorem rowOf_congr {a b : Store} {id batchId : String} {record : NormalizedRecord} {amount : Decimal} {timestamp : DateTime}
    (same : record.recordType.links = true → linkedPaymentId a record = linkedPaymentId b record) :
    rowOf a id batchId record amount timestamp = rowOf b id batchId record amount timestamp := by
  cases type : record.recordType with
  | payment | bankTransaction => simp only [rowOf, type]
  | refund | settlement => simp only [rowOf, type, same (by rw [type]; rfl)]

/-- A row holds the payment its record names. -/
theorem rowOf_linked {store : Store} {id batchId : String} {record : NormalizedRecord} {amount : Decimal} {timestamp : DateTime}
    {row : Record} (links : record.recordType.links = true)
    (built : rowOf store id batchId record amount timestamp = .ok (.ok row)) :
    linkedPaymentId store record = .ok row.paymentId := by
  cases type : record.recordType with
  | payment | bankTransaction => simp [type, RecordType.links] at links
  | refund =>
    obtain ⟨refund, rfl, kept⟩ := rowOf_refund type built
    exact kept.linked
  | settlement =>
    obtain ⟨settlement, rfl, kept⟩ := rowOf_settlement type built
    exact kept.linked

theorem linkedPaymentId_congr {a b : Store} {record : NormalizedRecord} (payments : a.payments = b.payments) :
    linkedPaymentId a record = linkedPaymentId b record := by
  simp only [linkedPaymentId, Store.paymentByProviderId, payments]

omit [Runtime] in
theorem insert_payments {store grown : Store} {row : Record} (other : row.key.1 ≠ .payment) (added : store.insert row = .ok grown) :
    grown.payments = store.payments := by
  cases row with
  | payment row => exact absurd rfl other
  | refund row | settlement row | bank row =>
    simp only [Store.insert] at added
    split at added
    · cases added
      rfl
    · cases added

theorem rowOf_id {store : Store} {id batchId : String} {record : NormalizedRecord} {amount : Decimal} {timestamp : DateTime}
    {row : Record} (built : rowOf store id batchId record amount timestamp = .ok (.ok row)) : row.id = id := by
  cases type : record.recordType with
  | payment =>
    obtain ⟨payment, rfl, kept⟩ := rowOf_payment type built
    exact kept.drawn
  | refund =>
    obtain ⟨refund, rfl, kept⟩ := rowOf_refund type built
    exact kept.drawn
  | settlement =>
    obtain ⟨settlement, rfl, kept⟩ := rowOf_settlement type built
    exact kept.drawn
  | bankTransaction =>
    obtain ⟨entry, rfl, kept⟩ := rowOf_bank type built
    exact kept.drawn

/-! ## What the database takes -/

/-- A text column takes the value. -/
def Storable (value : Value) : Prop := ∃ text, column value = .ok text

/-- A text column that may not be null takes it. -/
def StorableText (value : Value) : Prop := ∃ text, requiredColumn value = .ok text

/-- The amounts in the columns of a row. -/
def Record.amounts : Record → List Decimal
  | .payment row => [row.amount]
  | .refund row => [row.amount]
  | .settlement row => [row.grossAmount, row.fee, row.tax, row.netAmount]
  | .bank row => [row.amount]

omit [Runtime] in
theorem Store.insert_isOk_iff {store : Store} {record : Record} :
    (∃ grown, store.insert record = .ok grown) ↔
      (∀ row ∈ store.rows, row.key.1 = record.key.1 → row.id ≠ record.id) ∧ record.key ∉ store.keys ∧ record.id ≠ "" ∧
        ∀ amount ∈ record.amounts, fitsMoney amount = true := by
  cases record with
  | payment row =>
    have ids : (∀ r ∈ store.rows, r.key.1 = (Record.payment row).key.1 → r.id ≠ (Record.payment row).id) ↔
        row.id ∉ store.payments.map Payment.id := by
      simp [Store.rows, Record.key, Record.id, or_imp, forall_and]
    have keys : (Record.payment row).key ∉ store.keys ↔
        (row.provider, row.providerPaymentId) ∉ store.payments.map fun p => (p.provider, p.providerPaymentId) := by
      simp [Store.keys, Store.rows, Record.key]
    rw [ids, keys]
    simp only [insert, Record.id, Record.amounts]
    split <;> simp_all
  | refund row =>
    have ids : (∀ r ∈ store.rows, r.key.1 = (Record.refund row).key.1 → r.id ≠ (Record.refund row).id) ↔
        row.id ∉ store.refunds.map Refund.id := by
      simp [Store.rows, Record.key, Record.id, or_imp, forall_and]
    have keys : (Record.refund row).key ∉ store.keys ↔
        (row.provider, row.providerRefundId) ∉ store.refunds.map fun r => (r.provider, r.providerRefundId) := by
      simp [Store.keys, Store.rows, Record.key]
    rw [ids, keys]
    simp only [insert, Record.id, Record.amounts]
    split <;> simp_all
  | settlement row =>
    have ids : (∀ r ∈ store.rows, r.key.1 = (Record.settlement row).key.1 → r.id ≠ (Record.settlement row).id) ↔
        row.id ∉ store.settlements.map Settlement.id := by
      simp [Store.rows, Record.key, Record.id, or_imp, forall_and]
    have keys : (Record.settlement row).key ∉ store.keys ↔
        (row.provider, row.providerSettlementId) ∉ store.settlements.map fun s => (s.provider, s.providerSettlementId) := by
      simp [Store.keys, Store.rows, Record.key]
    rw [ids, keys]
    simp only [insert, Record.id, Record.amounts, List.forall_mem_cons]
    split <;> simp_all
  | bank row =>
    have ids : (∀ r ∈ store.rows, r.key.1 = (Record.bank row).key.1 → r.id ≠ (Record.bank row).id) ↔
        row.id ∉ store.bankTransactions.map BankTransaction.id := by
      simp [Store.rows, Record.key, Record.id, or_imp, forall_and]
    have keys : (Record.bank row).key ∉ store.keys ↔
        (row.source, row.externalId) ∉ store.bankTransactions.map fun b => (b.source, b.externalId) := by
      simp [Store.keys, Store.rows, Record.key]
    rw [ids, keys]
    simp only [insert, Record.id, Record.amounts]
    split <;> simp_all

/-- What the table of a record asks of its values. -/
def NormalizedRecord.Accepted (record : NormalizedRecord) : Prop :=
  match record.recordType with
  | .payment => ∃ metadata, storedMetadata record = .object metadata ∧ StorableText record.provider ∧
      (∀ value ∈ [record.orderReference, record.merchantId, .scalar (metadata.get "method"), record.rawReference], Storable value) ∧
      ∀ amount ∈ record.amount, fitsMoney amount = true
  | .refund => StorableText record.provider ∧ StorableText (.ofOption record.paymentReference) ∧ Storable record.rawReference ∧
      ∀ amount ∈ record.amount, fitsMoney amount = true
  | .settlement => ∃ metadata, storedMetadata record = .object metadata ∧ StorableText record.provider ∧
      StorableText (.ofOption record.paymentReference) ∧ Storable record.rawReference ∧
      ∀ net ∈ record.amount, ∃ gross fee tax,
        toDecimal (metaGet metadata "gross_amount" (.decimal net)) "gross_amount" true = .ok gross ∧
        toDecimal (metaGet metadata "fee" (.scalar (.int 0))) "fee" true = .ok fee ∧
        toDecimal (metaGet metadata "tax" (.scalar (.int 0))) "tax" true = .ok tax ∧
        ∀ amount ∈ [gross, fee, tax, net], fitsMoney amount = true
  | .bankTransaction => (∀ value ∈ [record.provider, record.merchantId, record.orderReference, record.rawReference], Storable value) ∧
      ∀ amount ∈ record.amount, fitsMoney amount = true

omit [Runtime] in
theorem asObject_eq_ok_iff {value : Value} {fields : RawData} : asObject value = .ok fields ↔ value = .object fields := by
  refine ⟨asObject_ok, ?_⟩
  rintro rfl
  rfl

theorem linkedPaymentId_isOk {record : NormalizedRecord} (asked : ∃ provider, queried record.provider = .ok provider)
    (store : Store) : ∃ linked, linkedPaymentId store record = .ok linked := by
  obtain ⟨provider, read⟩ := asked
  simp only [linkedPaymentId, Outcome.bind_ok_iff]
  cases provider with
  | none => exact ⟨none, none, read, rfl⟩
  | some provider =>
    cases reference : record.paymentReference with
    | none => exact ⟨none, some provider, read, rfl⟩
    | some reference => exact ⟨_, some provider, read, rfl⟩

theorem rowOf_accepted_iff {store : Store} {id batchId : String} {record : NormalizedRecord} {amount : Decimal} {timestamp : DateTime}
    (checked : checkRecord record = .ok (amount, timestamp))
    (asked : record.recordType ≠ .bankTransaction → ∃ provider, queried record.provider = .ok provider) :
    (∃ row, rowOf store id batchId record amount timestamp = .ok (.ok row) ∧ ∀ a ∈ row.amounts, fitsMoney a = true) ↔
      record.Accepted := by
  obtain ⟨money, _⟩ := checkRecord_ok checked
  cases type : record.recordType with
  | payment =>
    simp only [rowOf, type, paymentRow, NormalizedRecord.Accepted, Outcome.bind_ok_iff, asObject_eq_ok_iff, pure, Except.pure,
      Except.ok.injEq, money, Option.mem_some_iff, forall_eq', List.forall_mem_cons, Storable, StorableText]
    constructor
    · rintro ⟨_, ⟨metadata, object, provider, text, order, o, merchant, m, method, me, reference, r, rfl⟩, fits⟩
      exact ⟨metadata, object, ⟨provider, text⟩, ⟨⟨order, o⟩, ⟨merchant, m⟩, ⟨method, me⟩, ⟨reference, r⟩, by simp⟩,
        fits amount (by simp [Record.amounts])⟩
    · rintro ⟨metadata, object, ⟨provider, text⟩, ⟨⟨order, o⟩, ⟨merchant, m⟩, ⟨method, me⟩, ⟨reference, r⟩, _⟩, fits⟩
      exact ⟨_, ⟨metadata, object, provider, text, order, o, merchant, m, method, me, reference, r, rfl⟩, by simpa [Record.amounts] using fits⟩
  | refund =>
    obtain ⟨linked, link⟩ := linkedPaymentId_isOk (asked (by simp [type])) store
    simp only [rowOf, type, refundRow, NormalizedRecord.Accepted, Outcome.bind_ok_iff, pure, Except.pure,
      Except.ok.injEq, money, Option.mem_some_iff, forall_eq', Storable, StorableText, link, exists_eq_left']
    constructor
    · rintro ⟨_, ⟨provider, text, payment, p, reference, r, rfl⟩, fits⟩
      exact ⟨⟨provider, text⟩, ⟨payment, p⟩, ⟨reference, r⟩, fits amount (by simp [Record.amounts])⟩
    · rintro ⟨⟨provider, text⟩, ⟨payment, p⟩, ⟨reference, r⟩, fits⟩
      exact ⟨_, ⟨provider, text, payment, p, reference, r, rfl⟩, by simpa [Record.amounts] using fits⟩
  | settlement =>
    obtain ⟨linked, link⟩ := linkedPaymentId_isOk (asked (by simp [type])) store
    simp only [rowOf, type, settlementRow, NormalizedRecord.Accepted, Outcome.bind_ok_iff, asObject_eq_ok_iff, pure, Except.pure,
      Except.ok.injEq, money, Option.mem_some_iff, forall_eq', Storable, StorableText, link, exists_eq_left']
    constructor
    · rintro ⟨_, ⟨metadata, object, gross, g, fee, f, tax, t, provider, text, payment, p, reference, r, rfl⟩, fits⟩
      exact ⟨metadata, object, ⟨provider, text⟩, ⟨payment, p⟩, ⟨reference, r⟩, gross, fee, tax, g, f, t, fits⟩
    · rintro ⟨metadata, object, ⟨provider, text⟩, ⟨payment, p⟩, ⟨reference, r⟩, gross, fee, tax, g, f, t, fits⟩
      exact ⟨_, ⟨metadata, object, gross, g, fee, f, tax, t, provider, text, payment, p, reference, r, rfl⟩, fits⟩
  | bankTransaction =>
    simp only [rowOf, type, bankRow, NormalizedRecord.Accepted, Outcome.bind_ok_iff, pure, Except.pure,
      Except.ok.injEq, money, Option.mem_some_iff, forall_eq', List.forall_mem_cons, Storable]
    constructor
    · rintro ⟨_, ⟨provider, text, merchant, m, order, o, reference, r, rfl⟩, fits⟩
      exact ⟨⟨⟨provider, text⟩, ⟨merchant, m⟩, ⟨order, o⟩, ⟨reference, r⟩, by simp⟩, fits amount (by simp [Record.amounts])⟩
    · rintro ⟨⟨⟨provider, text⟩, ⟨merchant, m⟩, ⟨order, o⟩, ⟨reference, r⟩, _⟩, fits⟩
      exact ⟨_, ⟨provider, text, merchant, m, order, o, reference, r, rfl⟩, by simpa [Record.amounts] using fits⟩
/-! ## The loop -/

/-- The rows of one type of record were made from the records and the payments there were
at the start. -/
structure MadeFrom (draws : Draws) (type : RecordType) (initial : Store) (written : Written) : Prop where
  payments : type ≠ .payment → written.store.payments = initial.payments
  made : ∀ c ∈ written.created, c.record.recordType = type ∧ ∃ amount timestamp,
    checkRecord c.record = .ok (amount, timestamp) ∧
    rowOf initial (draws.rowId c.index) draws.batchId c.record amount timestamp = .ok (.ok c.row)
  fits : ∀ c ∈ written.created, ∀ amount ∈ c.row.amounts, fitsMoney amount = true

theorem MadeFrom.add {draws : Draws} {initial : Store} {written grown : Written} {item : NormalizedRecord × Nat}
    {amount : Decimal} {timestamp : DateTime} {row : Except IngestError Record}
    (before : MadeFrom draws item.1.recordType initial written) (checked : checkRecord item.1 = .ok (amount, timestamp))
    (looked : existing written.store item.1 = .ok false)
    (built : rowOf written.store (draws.rowId item.2) draws.batchId item.1 amount timestamp = .ok row)
    (added : written.add item.2 item.1 row = .ok grown) : MadeFrom draws item.1.recordType initial grown := by
  obtain ⟨r, store, rfl, inserted, rfl⟩ := Written.add_ok added
  have key : r.key = item.1.key := (rowOf_built checked built).key ⟨_, _, looked⟩
  obtain ⟨_, _, _, fits⟩ := Store.insert_isOk_iff.mp ⟨_, inserted⟩
  refine ⟨fun other => ?_, fun c member => ?_, fun c member => ?_⟩
  · rw [insert_payments (by rw [key]; exact other) inserted, before.payments other]
  · rcases List.mem_append.mp member with old | last
    · exact before.made c old
    · rw [List.mem_singleton.mp last]
      refine ⟨rfl, amount, timestamp, checked, ?_⟩
      rw [← built]
      refine rowOf_congr fun links => linkedPaymentId_congr (before.payments ?_).symm
      intro payment
      rw [payment] at links
      cases links
  · rcases List.mem_append.mp member with old | last
    · exact before.fits c old
    · rw [List.mem_singleton.mp last]
      exact fits

theorem persistAll_madeFrom {draws : Draws} {type : RecordType} {store : Store} {records : List NormalizedRecord}
    {progress : Progress} {written : Written} (typed : ∀ record ∈ records, record.recordType = type)
    (done : persistAll draws store records = .ok (progress, written)) : MadeFrom draws type store written := by
  obtain ⟨final, looped, done⟩ := Outcome.bind_ok done
  obtain ⟨flushed, sent, done⟩ := Outcome.bind_ok done
  cases done
  let Tracks (items : List (NormalizedRecord × Nat)) (progress : Progress) : Prop :=
    (∀ item ∈ items, item.1.recordType = type) → ∀ written, progress.written = .ok written → MadeFrom draws type store written
  have start : Tracks [] { written := .ok { store } } := by
    intro _ written stored
    cases stored
    exact ⟨fun _ => rfl, by simp, by simp⟩
  have step : ∀ {read progress item progress'}, Tracks read progress → persistRecord draws progress item = .ok progress' →
      Tracks (read ++ [item]) progress' := by
    intro read progress item progress' kept stepped typed later stored
    obtain ⟨written, flushed, outcome⟩ := persistRecord_cases stepped
    have before := kept (fun item member => typed item (List.mem_append_left _ member)) written flushed
    have itemTyped := typed item (by simp)
    rcases outcome with ⟨_, rfl⟩ | ⟨looked, amount, timestamp, row, checked, built, rfl⟩
    · cases flushed.symm.trans stored
      exact before
    · rw [← itemTyped] at before ⊢
      exact before.add checked looked built stored
  have loop := Outcome.foldlM_invariant Tracks step start looped
  refine loop (fun item member => ?_) written sent
  rw [List.nil_append] at member
  exact typed _ (List.fst_mem_of_mem_zipIdx member)

/-- What a call says of a row it added: the record was read from the data at its place, and
the row was made from the record. -/
structure MadeOf (data : List Dict) (type : RecordType) (initial : Store) (c : Created) : Prop where
  read : ∃ item source provider received, data[c.index]? = some item ∧
    normalizeRecord item source type provider received = .ok c.record
  made : ∃ id batchId amount timestamp, checkRecord c.record = .ok (amount, timestamp) ∧
    rowOf initial id batchId c.record amount timestamp = .ok (.ok c.row)

theorem MadeOf.recordType {data : List Dict} {type : RecordType} {initial : Store} {c : Created}
    (made : MadeOf data type initial c) : c.record.recordType = type := by
  obtain ⟨item, source, provider, received, _, read⟩ := made.read
  exact (normalizeRecord_readFrom read).type

/-- Every row of a loop over records that were read from the data at their places. -/
theorem persistAll_madeOf {draws : Draws} {data : List Dict} {type : RecordType} {store : Store}
    {records : List NormalizedRecord} {progress : Progress} {written : Written}
    (normalized : ∀ (i : Nat) record, records[i]? = some record → ∃ item source provider received, data[i]? = some item ∧
      normalizeRecord item source type provider received = .ok record)
    (done : persistAll draws store records = .ok (progress, written)) {c : Created} (member : c ∈ written.created) :
    MadeOf data type store c := by
  have typed : ∀ record ∈ records, record.recordType = type := by
    intro record inside
    obtain ⟨i, place⟩ := List.mem_iff_getElem?.mp inside
    obtain ⟨item, source, provider, received, _, read⟩ := normalized i record place
    exact (normalizeRecord_readFrom read).type
  have added := (persistAll_kept done).2
  have place := List.mem_zipIdx_iff_getElem?.mp ((firsts_sublist _ _ _).subset (added.kept member))
  obtain ⟨_, amount, timestamp, checked, built⟩ := (persistAll_madeFrom typed done).made c member
  exact ⟨normalized c.index c.record place, _, _, amount, timestamp, checked, built⟩

theorem ingestRecords_madeOf {draws : Draws} {session after : Session} {data : List Dict} {source : String}
    {type : RecordType} {provider merchantId : Option String} {commit : Bool} {report : IngestReport}
    (ran : ingestRecords draws session data source type provider merchantId commit = (.ok report, after)) {c : Created}
    (member : c ∈ report.rows) : MadeOf data type session.current.store c ∧ c.row ∈ after.current.store.rows := by
  obtain ⟨records, progress, written, normalized, done, -, -, rows, stored⟩ := ran_persisted ran
  rw [rows] at member
  rw [stored]
  refine ⟨persistAll_madeOf (fun i record place => ?_) done member, (persistAll_kept done).2.stored member⟩
  obtain ⟨item, inside, read⟩ := normalizeAll_getElem? normalized place
  exact ⟨item, _, _, _, inside, read⟩

/-! ## Which loops return -/

/-- What normalizing leaves of the checks made before a row is written: the status. -/
structure NormalizedRecord.Normal (record : NormalizedRecord) : Prop where
  amount : ∃ amount, record.amount = some amount ∧ (record.recordType ≠ .bankTransaction → 0 ≤ amount.coeff)
  timestamp : ∃ timestamp, record.eventTimestamp = some timestamp

omit [Runtime] in
theorem checkRecord_isOk_iff {record : NormalizedRecord} (normal : record.Normal) :
    (∃ checked, checkRecord record = .ok checked) ↔ record.status ∈ supportedStatuses := by
  obtain ⟨amount, money, nonNegative⟩ := normal.amount
  obtain ⟨timestamp, time⟩ := normal.timestamp
  have inRange : ¬(amount.coeff < 0 ∧ record.recordType ≠ .bankTransaction) := by
    rintro ⟨below, other⟩
    exact absurd (nonNegative other) (by omega)
  unfold checkRecord
  rw [money, time]
  split
  · next unsupported => simp [invalid, unsupported]
  · next supported =>
    simp only [if_neg inRange, Except.ok.injEq, exists_eq', true_iff]
    exact not_not.mp supported

/-- What a call asks of its records: a supported status, a provider the tables can be
asked for, and values the table takes where the record adds a row. -/
structure Importable (store : Store) (records : List NormalizedRecord) : Prop where
  status : ∀ record ∈ records, record.status ∈ supportedStatuses
  asked : ∀ record ∈ records, record.recordType ≠ .bankTransaction → ∃ provider, queried record.provider = .ok provider
  accepted : ∀ item ∈ firsts (fun item : NormalizedRecord × Nat => item.1.key) store.keys records.zipIdx, item.1.Accepted

/-- The identifiers a call draws are new. -/
structure Draws.Fresh (draws : Draws) (store : Store) : Prop where
  distinct : Function.Injective draws.rowId
  named : ∀ i, draws.rowId i ≠ ""
  unused : ∀ i, ∀ row ∈ store.rows, row.id ≠ draws.rowId i

theorem existing_isOk {record : NormalizedRecord} (store : Store)
    (asked : record.recordType ≠ .bankTransaction → ∃ provider, queried record.provider = .ok provider) :
    ∃ found, existing store record = .ok found := by
  cases type : record.recordType with
  | payment | refund | settlement =>
    obtain ⟨provider, read⟩ := asked (by simp [type])
    simp only [existing, type, Outcome.bind_ok_iff]
    exact ⟨_, provider, read, rfl⟩
  | bankTransaction =>
    simp only [existing, type]
    exact ⟨_, rfl⟩

/-- The rows a loop has written so far do not stand in the way of the next. -/
theorem MadeFrom.add_isOk {draws : Draws} {type : RecordType} {initial : Store} {read : List (NormalizedRecord × Nat)}
    {written : Written} (fresh : draws.Fresh initial) (added : Added initial read written) (made : MadeFrom draws type initial written)
    {item : NormalizedRecord × Nat} (later : ∀ e ∈ read, e.2 ≠ item.2) {row : Record} (id : row.id = draws.rowId item.2)
    (new : row.key ∉ written.store.keys) (fits : ∀ amount ∈ row.amounts, fitsMoney amount = true) :
    ∃ grown, written.add item.2 item.1 (.ok row) = .ok grown := by
  have unused : ∀ r ∈ written.store.rows, r.id ≠ row.id := by
    intro r stored
    rw [id]
    rcases List.mem_append.mp (added.rows.mem_iff.mp stored) with old | grown
    · exact fresh.unused _ r old
    · obtain ⟨c, member, rfl⟩ := List.mem_map.mp grown
      obtain ⟨_, _, _, _, built⟩ := made.made c member
      have inside : (c.record, c.index) ∈ read := (firsts_sublist _ _ _).subset (added.kept member)
      rw [rowOf_id built]
      exact fun same => later _ inside (fresh.distinct same)
  obtain ⟨store, inserted⟩ :=
    Store.insert_isOk_iff.mpr ⟨fun r stored _ => unused r stored, new, by rw [id]; exact fresh.named _, fits⟩
  simp only [Written.add, Outcome.bind_ok_iff]
  exact ⟨_, row, rfl, store, inserted, rfl⟩

/-- A record that the loop can take leaves it able to take the next. -/
theorem persistRecord_isOk {draws : Draws} {initial : Store} {read : List (NormalizedRecord × Nat)}
    {progress : Progress} {written : Written} {item : NormalizedRecord × Nat} (fresh : draws.Fresh initial)
    (kept : Kept initial read progress) (sent : progress.written = .ok written) (made : MadeFrom draws item.1.recordType initial written)
    (later : ∀ e ∈ read, e.2 ≠ item.2) (normal : item.1.Normal) (status : item.1.status ∈ supportedStatuses)
    (asked : item.1.recordType ≠ .bankTransaction → ∃ provider, queried item.1.provider = .ok provider)
    (accepted : item.1.key ∉ written.store.keys → item.1.Accepted) :
    ∃ progress' written', persistRecord draws progress item = .ok progress' ∧ progress'.written = .ok written' ∧
      MadeFrom draws item.1.recordType initial written' := by
  obtain ⟨⟨amount, timestamp⟩, checked⟩ := (checkRecord_isOk_iff normal).mpr status
  obtain ⟨found, looked⟩ := existing_isOk written.store asked
  cases found with
  | true =>
    refine ⟨{ progress with duplicateRefs := progress.duplicateRefs ++ [item.1.externalId] }, written, ?_, sent, made⟩
    simp only [persistRecord, checked, sent]
    change (existing written.store item.1 >>= _) = _
    rw [looked]
    rfl
  | false =>
    have new : item.1.key ∉ written.store.keys := fun known => Bool.false_ne_true ((existing_iff looked).mpr known)
    obtain ⟨row, built, fits⟩ := (@rowOf_accepted_iff _ written.store (draws.rowId item.2) draws.batchId _ _ _ checked asked).mpr (accepted new)
    have key : row.key = item.1.key := (rowOf_built checked built).key ⟨_, _, looked⟩
    obtain ⟨grown, add⟩ := made.add_isOk fresh (kept.added written sent) later (rowOf_id built) (by rw [key]; exact new) fits
    refine ⟨{ progress with created := progress.created + 1, written := written.add item.2 item.1 (.ok row) }, grown, ?_, add,
      made.add checked looked built add⟩
    simp only [persistRecord, checked, sent]
    change (existing written.store item.1 >>= _) = _
    rw [looked]
    change (rowOf written.store (draws.rowId item.2) draws.batchId item.1 amount timestamp >>= _) = _
    rw [built]
    rfl

/-- A record whose key the store the loop has reached lacks is the first with its key. -/
theorem Added.first {initial : Store} {read rest : List (NormalizedRecord × Nat)} {written : Written} (added : Added initial read written)
    {item : NormalizedRecord × Nat} (new : item.1.key ∉ written.store.keys) :
    item ∈ firsts (fun item => item.1.key) initial.keys (read ++ item :: rest) := by
  rw [added.mem_keys, List.mem_append, not_or] at new
  refine (mem_firsts_iff _ _ _ _).mpr ⟨read, rest, rfl, new.1, fun e member same => ?_⟩
  rcases covered (fun item : NormalizedRecord × Nat => item.1.key) initial.keys read member with stored | ⟨d, kept, equal⟩
  · exact new.1 (same ▸ stored)
  · exact new.2 (List.mem_map.mpr ⟨d, kept, equal.trans same⟩)

/-- The checks a loop that returns has made of every record. -/
theorem persistAll_checked {draws : Draws} {store : Store} {records : List NormalizedRecord} {progress : Progress} {written : Written}
    (done : persistAll draws store records = .ok (progress, written)) {record : NormalizedRecord} (member : record ∈ records) :
    (∃ checked, checkRecord record = .ok checked) ∧ ∃ found before, existing before record = .ok found := by
  obtain ⟨final, looped, _⟩ := Outcome.bind_ok done
  let Checked (read : List (NormalizedRecord × Nat)) (_ : Progress) : Prop := ∀ item ∈ read,
    (∃ checked, checkRecord item.1 = .ok checked) ∧ ∃ found before, existing before item.1 = .ok found
  have step : ∀ {read progress item progress'}, Checked read progress → persistRecord draws progress item = .ok progress' →
      Checked (read ++ [item]) progress' := by
    intro read progress item progress' before stepped e inside
    rcases List.mem_append.mp inside with old | last
    · exact before e old
    · obtain ⟨checked, check, stepped⟩ := Outcome.bind_ok stepped
      obtain ⟨written, _, stepped⟩ := Outcome.bind_ok stepped
      obtain ⟨found, looked, _⟩ := Outcome.bind_ok stepped
      rw [List.mem_singleton.mp last]
      exact ⟨⟨checked, check⟩, found, written.store, looked⟩
  have start : Checked [] { written := .ok { store } } := by simp [Checked]
  have every := Outcome.foldlM_invariant Checked step start looped
  obtain ⟨i, place⟩ := List.mem_iff_getElem?.mp member
  exact every (record, i) (List.mem_zipIdx_iff_getElem?.mpr place)

/-- A loop over normalized records of one type returns exactly if they are importable. -/
theorem persistAll_isOk_iff {draws : Draws} {type : RecordType} {store : Store} {records : List NormalizedRecord}
    (fresh : draws.Fresh store) (typed : ∀ record ∈ records, record.recordType = type) (normal : ∀ record ∈ records, record.Normal) :
    (∃ done, persistAll draws store records = .ok done) ↔ Importable store records := by
  constructor
  · rintro ⟨⟨progress, written⟩, done⟩
    have checks {record : NormalizedRecord} (member : record ∈ records) := persistAll_checked done member
    have asked : ∀ record ∈ records, record.recordType ≠ .bankTransaction → ∃ provider, queried record.provider = .ok provider := by
      intro record member other
      obtain ⟨_, found, before, looked⟩ := checks member
      exact queried_provider looked other
    refine ⟨fun record member => (checkRecord_isOk_iff (normal record member)).mp (checks member).1, asked, fun item kept => ?_⟩
    have inside : item.1 ∈ records := List.fst_mem_of_mem_zipIdx ((firsts_sublist _ _ _).subset kept)
    have made := persistAll_madeFrom typed done
    rw [← (persistAll_kept done).2.new] at kept
    obtain ⟨c, member, rfl⟩ := List.mem_map.mp kept
    obtain ⟨_, amount, timestamp, checked, built⟩ := made.made c member
    exact (rowOf_accepted_iff checked (asked c.record inside)).mp ⟨c.row, built, made.fits c member⟩
  · intro importable
    let Going (read : List (NormalizedRecord × Nat)) (progress : Progress) : Prop :=
      Kept store read progress ∧ ∃ written, progress.written = .ok written ∧ MadeFrom draws type store written
    have start : Going [] { written := .ok { store } } := by
      refine ⟨⟨rfl, rfl, fun written stored => ?_⟩, { store }, rfl, fun _ => rfl, by simp, by simp⟩
      cases stored
      exact ⟨by simp, rfl, by simp, by simp⟩
    have step : ∀ {read progress item rest}, records.zipIdx = read ++ item :: rest → Going read progress →
        ∃ progress', persistRecord draws progress item = .ok progress' ∧ Going (read ++ [item]) progress' := by
      intro read progress item rest whole going
      obtain ⟨kept, written, sent, made⟩ := going
      have member : item ∈ records.zipIdx := by rw [whole]; simp
      have inside : item.1 ∈ records := List.fst_mem_of_mem_zipIdx member
      have later : ∀ e ∈ read, e.2 ≠ item.2 := FirstByKey.zipIdx_place_ne whole
      have accepted : item.1.key ∉ written.store.keys → item.1.Accepted := by
        intro new
        exact importable.accepted item (by rw [whole]; exact (kept.added written sent).first new)
      obtain ⟨progress', written', stepped, sent', made'⟩ :=
        persistRecord_isOk fresh kept sent (by rw [typed _ inside]; exact made) later (normal _ inside) (importable.status _ inside)
          (importable.asked _ inside) accepted
      rw [typed _ inside] at made'
      exact ⟨progress', stepped, kept.step stepped, written', sent', made'⟩
    obtain ⟨final, looped, _, written, sent, _⟩ := Outcome.foldlM_returns Going start step
    refine ⟨(final, written), ?_⟩
    simp only [persistAll, looped]
    change (final.written >>= _) = _
    rw [sent]
    rfl

/-! ## Which errors a loop raises -/

/-- `IngestionValidationError`. -/
def IngestError.Validation (error : IngestError) : Prop := ∃ message, error = .validation message

/-- No check of the loop refuses a normalized record: neither its status nor, for a
settlement, the money of its metadata. -/
structure NormalizedRecord.Sound (record : NormalizedRecord) : Prop where
  status : record.status ∈ supportedStatuses
  money : record.recordType = .settlement → ∀ metadata net, storedMetadata record = .object metadata → record.amount = some net →
    (∃ gross, toDecimal (metaGet metadata "gross_amount" (.decimal net)) "gross_amount" true = .ok gross) ∧
    (∃ fee, toDecimal (metaGet metadata "fee" (.scalar (.int 0))) "fee" true = .ok fee) ∧
    ∃ tax, toDecimal (metaGet metadata "tax" (.scalar (.int 0))) "tax" true = .ok tax

open Outcome (Avoids)

omit [Runtime] in
theorem database_avoids {α : Type} : Avoids IngestError.Validation (.error .database : Except IngestError α) :=
  Avoids.error fun ⟨_, same⟩ => nomatch same

theorem column_avoids (value : Value) : Avoids IngestError.Validation (column value) := by
  unfold column
  split
  · exact Avoids.ok _
  · exact Avoids.ok _
  · split
    · exact database_avoids
    · exact Avoids.ok _

theorem requiredColumn_avoids (value : Value) : Avoids IngestError.Validation (requiredColumn value) := by
  refine (column_avoids value).bind fun text _ => ?_
  cases text with
  | none => exact database_avoids
  | some text => exact Avoids.ok text

theorem queried_avoids (value : Value) : Avoids IngestError.Validation (queried value) := by
  unfold queried
  split
  · exact Avoids.ok _
  · exact Avoids.ok _
  · split
    · exact column_avoids _
    · exact database_avoids

theorem existing_avoids (store : Store) (record : NormalizedRecord) : Avoids IngestError.Validation (existing store record) := by
  unfold existing
  split
  · exact (queried_avoids _).bind fun _ _ => Avoids.ok _
  · exact (queried_avoids _).bind fun _ _ => Avoids.ok _
  · exact (queried_avoids _).bind fun _ _ => Avoids.ok _
  · exact Avoids.ok _

theorem linkedPaymentId_avoids (store : Store) (record : NormalizedRecord) :
    Avoids IngestError.Validation (linkedPaymentId store record) := by
  refine (queried_avoids _).bind fun provider _ => ?_
  split <;> exact Avoids.ok _

omit [Runtime] in
theorem asObject_avoids (value : Value) : Avoids IngestError.Validation (asObject value) := by
  unfold asObject
  split
  · exact Avoids.ok _
  · exact Avoids.error fun ⟨_, same⟩ => nomatch same

theorem rowOf_avoids {record : NormalizedRecord} {amount : Decimal} (sound : record.Sound) (money : record.amount = some amount)
    (store : Store) (id batchId : String) (timestamp : DateTime) :
    Avoids IngestError.Validation (rowOf store id batchId record amount timestamp) ∧
      ∀ row, rowOf store id batchId record amount timestamp = .ok row → Avoids IngestError.Validation row := by
  cases type : record.recordType with
  | payment =>
    simp only [rowOf, type]
    refine ⟨(asObject_avoids _).bind fun _ _ => Avoids.ok _, fun row built => ?_⟩
    obtain ⟨metadata, _, built⟩ := Outcome.bind_ok built
    cases built
    exact (requiredColumn_avoids _).bind fun _ _ => (column_avoids _).bind fun _ _ => (column_avoids _).bind fun _ _ =>
      (column_avoids _).bind fun _ _ => (column_avoids _).bind fun _ _ => Avoids.ok _
  | refund =>
    simp only [rowOf, type]
    refine ⟨(linkedPaymentId_avoids _ _).bind fun _ _ => Avoids.ok _, fun row built => ?_⟩
    obtain ⟨linked, _, built⟩ := Outcome.bind_ok built
    cases built
    exact (requiredColumn_avoids _).bind fun _ _ => (requiredColumn_avoids _).bind fun _ _ => (column_avoids _).bind fun _ _ =>
      Avoids.ok _
  | settlement =>
    simp only [rowOf, type]
    constructor
    · refine (linkedPaymentId_avoids _ _).bind fun _ _ => (asObject_avoids _).bind fun metadata object => ?_
      obtain ⟨⟨gross, grossRead⟩, ⟨fee, feeRead⟩, tax, taxRead⟩ := sound.money type metadata amount (asObject_ok object) money
      rw [grossRead, feeRead, taxRead]
      exact Avoids.ok _
    · intro row built
      obtain ⟨linked, _, built⟩ := Outcome.bind_ok built
      obtain ⟨metadata, _, built⟩ := Outcome.bind_ok built
      obtain ⟨gross, _, built⟩ := Outcome.bind_ok built
      obtain ⟨fee, _, built⟩ := Outcome.bind_ok built
      obtain ⟨tax, _, built⟩ := Outcome.bind_ok built
      cases built
      exact (requiredColumn_avoids _).bind fun _ _ => (requiredColumn_avoids _).bind fun _ _ => (column_avoids _).bind fun _ _ =>
        Avoids.ok _
  | bankTransaction =>
    simp only [rowOf, type]
    refine ⟨Avoids.ok _, fun row built => ?_⟩
    cases built
    exact (column_avoids _).bind fun _ _ => (column_avoids _).bind fun _ _ => (column_avoids _).bind fun _ _ =>
      (column_avoids _).bind fun _ _ => Avoids.ok _

omit [Runtime] in
theorem insert_avoids (store : Store) (row : Record) : Avoids IngestError.Validation (store.insert row) := by
  cases row with
  | payment row | refund row | settlement row | bank row =>
    simp only [Store.insert]
    split
    · exact Avoids.ok _
    · exact database_avoids

/-- A loop over sound records fails only on what the database refuses. -/
theorem persistAll_avoids {records : List NormalizedRecord} (normal : ∀ record ∈ records, record.Normal)
    (sound : ∀ record ∈ records, record.Sound) (draws : Draws) (store : Store) :
    Avoids IngestError.Validation (persistAll draws store records) := by
  let Sends (progress : Progress) : Prop := Avoids IngestError.Validation progress.written
  have step : ∀ {progress item}, item ∈ records.zipIdx → Sends progress →
      Avoids IngestError.Validation (persistRecord draws progress item) ∧
        ∀ progress', persistRecord draws progress item = .ok progress' → Sends progress' := by
    intro progress item member sends
    have inside := List.fst_mem_of_mem_zipIdx member
    obtain ⟨⟨amount, timestamp⟩, checked⟩ := (checkRecord_isOk_iff (normal _ inside)).mpr (sound _ inside).status
    have row (before : Store) := rowOf_avoids (sound _ inside) (checkRecord_ok checked).1 before (draws.rowId item.2) draws.batchId timestamp
    constructor
    · simp only [persistRecord, checked]
      refine sends.bind fun written _ => (existing_avoids _ _).bind fun found _ => ?_
      cases found with
      | true => exact Avoids.ok _
      | false => exact (row written.store).1.bind fun _ _ => Avoids.ok _
    · intro progress' stepped
      obtain ⟨written, sent, outcome⟩ := persistRecord_cases stepped
      rcases outcome with ⟨_, rfl⟩ | ⟨_, amount', timestamp', built, checked', read, rfl⟩
      · exact sends
      · cases checked.symm.trans checked'
        exact ((row written.store).2 built read).bind fun _ _ => (insert_avoids _ _).bind fun _ _ => Avoids.ok _
  have start : Sends { written := .ok { store } } := Avoids.ok _
  obtain ⟨avoids, last⟩ := Avoids.foldlM Sends start step
  exact avoids.bind fun final looped => (last final looped).bind fun _ _ => Avoids.ok _

end Persist
end RCAA
