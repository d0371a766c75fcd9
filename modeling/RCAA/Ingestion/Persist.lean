import RCAA.Ingestion.Tables

/-! Writing normalized records. A record whose key is stored is a duplicate; any
other adds one row. The session sends what was added with its next query, so a row
the database refuses is reported when the next record is looked up, or at the end.
On an error the session rolls back, and the batch row is marked rejected when it is
durable. Metrics and the times of a batch are left out. -/

namespace RCAA

structure IngestionBatch where
  id : String
  source : String
  provider : Option String
  merchantId : Option String
  recordType : Option RecordType := none
  status : String := "STARTED"
  receivedCount : Nat := 0
  createdCount : Nat := 0
  updatedCount : Nat := 0
  duplicateCount : Nat := 0
  rejectedCount : Nat := 0
  duplicateRecordsJson : List String := []
  errorSummary : Option String := none
deriving DecidableEq

structure Database where
  store : Store := {}
  batches : List IngestionBatch := []

/-- The last commit, and what the open transaction has made of it. -/
structure Session where
  durable : Database
  current : Database

def Database.put (database : Database) (batch : IngestionBatch) : Database :=
  { database with batches := database.batches.map fun b => if b.id = batch.id then batch else b }

def Session.commit (session : Session) : Session := ⟨session.current, session.current⟩
def Session.rollback (session : Session) : Session := ⟨session.durable, session.durable⟩

/-- The identifiers and the readings of the clock one call uses, by record. -/
structure Draws where
  batchId : String
  rowId : Nat → String
  now : Nat → DateTime

/-- A row a call added, with the record it was built from and that record's position. -/
structure Created where
  index : Nat
  record : NormalizedRecord
  row : Record

structure Written where
  store : Store
  created : List Created := []

/-- The state of the loop over the records. -/
structure Progress where
  created : Nat := 0
  duplicateRefs : List String := []
  written : Except IngestError Written

/-- The counts a call returns, and the rows it added. -/
structure IngestReport where
  received : Nat
  created : Nat
  updated : Nat := 0
  duplicates : Nat
  rejected : Nat := 0
  batchId : String
  rows : List Created

def supportedStatuses : List String :=
  ["created", "authorized", "captured", "failed", "refunded", "processed", "settled", "posted", "pending",
    "success", "successful"]

section Persist
variable [Runtime]

/-! ## Columns -/

/-- What a text column stores. -/
def column (value : Value) : Except IngestError (Option String) :=
  match value with
  | .scalar .null => .ok none
  | .scalar (.str text) => .ok (some text)
  | value => match Runtime.columnText value with
    | none => .error .database
    | some text => .ok (some text)

def requiredColumn (value : Value) : Except IngestError String := do
  match ← column value with
  | none => .error .database
  | some text => return text

/-- What a query compares a text column with. -/
def queried (value : Value) : Except IngestError (Option String) :=
  match value with
  | .scalar .null => .ok none
  | .scalar (.str text) => .ok (some text)
  | value => if Runtime.comparable value then column value else .error .database

theorem column_of_queried {value : Value} {text : Option String} (read : queried value = .ok text) :
    column value = .ok text := by
  unfold queried at read
  split at read
  · exact read
  · exact read
  · split at read
    · exact read
    · cases read

theorem column_of_required {value : Value} {text : String} (read : requiredColumn value = .ok text) :
    column value = .ok (some text) := by
  obtain ⟨found, stored, read⟩ := Outcome.bind_ok read
  cases found with
  | none => cases read
  | some other =>
    cases read
    exact stored

/-! ## Rows -/

/-- `_validate_status` and the checks after it. -/
def checkRecord (record : NormalizedRecord) : Except IngestError (Decimal × DateTime) :=
  if record.status ∉ supportedStatuses then invalid ("unsupported status: " ++ record.status)
  else match record.amount with
    | none => invalid "amount is required"
    | some amount =>
      if amount.coeff < 0 ∧ record.recordType ≠ .bankTransaction then invalid "amount must be non-negative"
      else match record.eventTimestamp with
        | none => invalid "event_timestamp is required"
        | some timestamp => .ok (amount, timestamp)

/-- Whether the table has the record's external id already. -/
def existing (store : Store) (record : NormalizedRecord) : Except IngestError Bool :=
  match record.recordType with
  | .payment => do
    let provider ← queried record.provider
    return store.payments.any fun p => some p.provider == provider && p.providerPaymentId == record.externalId
  | .refund => do
    let provider ← queried record.provider
    return store.refunds.any fun r => some r.provider == provider && r.providerRefundId == record.externalId
  | .settlement => do
    let provider ← queried record.provider
    return store.settlements.any fun s => some s.provider == provider && s.providerSettlementId == record.externalId
  | .bankTransaction =>
    return store.bankTransactions.any fun b => b.source == record.source && b.externalId == record.externalId

/-- The payment a refund or settlement names: `payment.id if payment else None`. -/
def linkedPaymentId (store : Store) (record : NormalizedRecord) : Except IngestError (Option String) := do
  match ← queried record.provider, record.paymentReference with
  | some provider, some reference => return (store.paymentByProviderId provider reference).map Payment.id
  | _, _ => return none

/-- `record.metadata or {}`. -/
def storedMetadata (record : NormalizedRecord) : Value := record.metadata.or (.object [])

/-- A value whose `get` is called. -/
def asObject (value : Value) : Except IngestError RawData :=
  match value with
  | .object fields => .ok fields
  | _ => .error .attribute

/-- `meta.get(key, default)`. -/
def metaGet (fields : RawData) (key : String) (default : Value) : Value := ((fields.get? key).map .scalar).getD default

def paymentRow (id batchId : String) (record : NormalizedRecord) (amount : Decimal) (timestamp : DateTime)
    (metadata : RawData) : Except IngestError Record := do
  let provider ← requiredColumn record.provider
  let providerOrderId ← column record.orderReference
  let merchantId ← column record.merchantId
  let method ← column (.scalar (metadata.get "method"))
  let rawReference ← column record.rawReference
  return .payment {
    id, provider, providerOrderId, merchantId, amount, method, rawReference
    providerPaymentId := record.externalId
    currency := record.currency
    status := record.status
    captured := record.status == "captured"
    createdAt := timestamp
    capturedAt := if record.status = "captured" then some timestamp else none
    rawData := metadata
    source := record.source
    externalId := some record.externalId
    ingestionBatchId := some batchId }

def refundRow (id batchId : String) (record : NormalizedRecord) (amount : Decimal) (timestamp : DateTime)
    (paymentId : Option String) : Except IngestError Record := do
  let provider ← requiredColumn record.provider
  let providerPaymentId ← requiredColumn (.ofOption record.paymentReference)
  let rawReference ← column record.rawReference
  return .refund {
    id, provider, providerPaymentId, paymentId, amount, rawReference
    providerRefundId := record.externalId
    status := record.status
    createdAt := timestamp
    processedAt := if record.status ∈ ["processed", "successful", "success"] then some timestamp else none
    rawData := storedMetadata record
    source := record.source
    externalId := some record.externalId
    ingestionBatchId := some batchId }

def settlementRow (id batchId : String) (record : NormalizedRecord) (amount : Decimal) (timestamp : DateTime)
    (paymentId : Option String) (metadata : RawData) (gross fee tax : Decimal) : Except IngestError Record := do
  let provider ← requiredColumn record.provider
  let providerPaymentId ← requiredColumn (.ofOption record.paymentReference)
  let rawReference ← column record.rawReference
  return .settlement {
    id, provider, providerPaymentId, paymentId, fee, tax, rawReference
    providerSettlementId := record.externalId
    grossAmount := gross
    netAmount := amount
    status := record.status
    settledAt := timestamp
    utr := record.utr
    rawData := metadata
    source := record.source
    externalId := some record.externalId
    ingestionBatchId := some batchId }

def bankRow (id batchId : String) (record : NormalizedRecord) (amount : Decimal) (timestamp : DateTime) :
    Except IngestError Record := do
  let provider ← column record.provider
  let merchantId ← column record.merchantId
  let reference ← column record.orderReference
  let rawReference ← column record.rawReference
  return .bank {
    id, provider, merchantId, reference, amount, rawReference
    source := record.source
    externalId := record.externalId
    currency := record.currency
    status := record.status
    eventTimestamp := timestamp
    ingestionBatchId := some batchId
    metadataJson := storedMetadata record }

/-- What the branch of a record type reads before it adds its row, and the row the
database is then sent. -/
def rowOf (store : Store) (id batchId : String) (record : NormalizedRecord) (amount : Decimal) (timestamp : DateTime) :
    Except IngestError (Except IngestError Record) :=
  match record.recordType with
  | .payment => do
    let metadata ← asObject (storedMetadata record)
    return paymentRow id batchId record amount timestamp metadata
  | .refund => do
    let paymentId ← linkedPaymentId store record
    return refundRow id batchId record amount timestamp paymentId
  | .settlement => do
    let paymentId ← linkedPaymentId store record
    let metadata ← asObject (storedMetadata record)
    let gross ← toDecimal (metaGet metadata "gross_amount" (.decimal amount)) "gross_amount" true
    let fee ← toDecimal (metaGet metadata "fee" (.scalar (.int 0))) "fee" true
    let tax ← toDecimal (metaGet metadata "tax" (.scalar (.int 0))) "tax" true
    return settlementRow id batchId record amount timestamp paymentId metadata gross fee tax
  | .bankTransaction => return bankRow id batchId record amount timestamp

/-! ## The loop -/

/-- Sends the row and notes it. -/
def Written.add (written : Written) (index : Nat) (record : NormalizedRecord) (row : Except IngestError Record) :
    Except IngestError Written := do
  let row ← row
  let store ← written.store.insert row
  return ⟨store, written.created ++ [⟨index, record, row⟩]⟩

def persistRecord (draws : Draws) (progress : Progress) (item : NormalizedRecord × Nat) :
    Except IngestError Progress := do
  let (amount, timestamp) ← checkRecord item.1
  let written ← progress.written
  if ← existing written.store item.1 then
    return { progress with duplicateRefs := progress.duplicateRefs ++ [item.1.externalId] }
  else
    let row ← rowOf written.store (draws.rowId item.2) draws.batchId item.1 amount timestamp
    return { progress with created := progress.created + 1, written := written.add item.2 item.1 row }

def persistAll (draws : Draws) (store : Store) (records : List NormalizedRecord) :
    Except IngestError (Progress × Written) := do
  let progress ← records.zipIdx.foldlM (persistRecord draws) { written := .ok { store } }
  let written ← progress.written
  return (progress, written)

/-! ## Calls -/

/-- `create_batch`. -/
def createBatch (session : Session) (id source : String) (provider merchantId : Option String) :
    Session × IngestionBatch :=
  let batch : IngestionBatch := { id, source, provider, merchantId }
  ({ session with current := { session.current with batches := session.current.batches ++ [batch] } }, batch)

def persistNormalized (draws : Draws) (session : Session) (records : List NormalizedRecord) (batch : IngestionBatch)
    (commit : Bool) : Except IngestError IngestReport × Session :=
  let batch := { batch with recordType := records.head?.map NormalizedRecord.recordType }
  match persistAll draws session.current.store records with
  | .ok (progress, written) =>
    let completed := { batch with
      receivedCount := records.length, createdCount := progress.created
      duplicateCount := progress.duplicateRefs.length
      duplicateRecordsJson := progress.duplicateRefs, status := "COMPLETED" }
    let flushed := { session with current := { session.current with store := written.store }.put completed }
    (.ok { received := records.length, created := progress.created, duplicates := progress.duplicateRefs.length,
           batchId := batch.id, rows := written.created },
      if commit then flushed.commit else flushed)
  | .error error =>
    let session := session.rollback
    match session.durable.batches.find? (fun b => b.id = batch.id) with
    | none => (.error error, session)
    | some batch =>
      let rejected := { batch with
        status := "REJECTED", receivedCount := records.length, rejectedCount := records.length
        errorSummary := some (String.ofList (error.text.toList.take 1000)) }
      (.error error, { session with current := session.current.put rejected }.commit)

/-- `[normalize_record(item, ...) for item in data]`. -/
def normalizeAll (draws : Draws) (data : List Dict) (source : String) (recordType : RecordType)
    (provider : Option String) : Except IngestError (List NormalizedRecord) :=
  data.zipIdx.mapM fun item => normalizeRecord item.1 source recordType provider (draws.now item.2)

/-- A call that refuses its input leaves a rejected batch; any other error leaves nothing. -/
def rejectInput (draws : Draws) (session : Session) (source : String) (provider merchantId : Option String)
    (received rejected : Nat) (error : IngestError) : Except IngestError IngestReport × Session :=
  match error with
  | .validation message =>
    let (session, batch) := createBatch session draws.batchId source provider merchantId
    let batch := { batch with
      receivedCount := received, rejectedCount := rejected, status := "REJECTED", errorSummary := some message }
    (.error error, { session with current := session.current.put batch }.commit)
  | error => (.error error, session)

def ingestRecords (draws : Draws) (session : Session) (data : List Dict) (source : String) (recordType : RecordType)
    (provider merchantId : Option String) (commit : Bool) : Except IngestError IngestReport × Session :=
  match normalizeAll draws data source recordType provider with
  | .error error => rejectInput draws session source provider merchantId data.length data.length error
  | .ok records =>
    let (session, batch) := createBatch session draws.batchId source provider merchantId
    persistNormalized draws session records batch commit

def maxBankRows : Nat := 10000

def bankRequired : List String := ["amount", "currency", "event_timestamp", "external_id"]

/-- `normalize_record` on the rows of a file, which are counted from its second line. -/
def normalizeBankRows (draws : Draws) (source : String) (provider : Option String) (rows : List Dict) :
    Except IngestError (List NormalizedRecord) :=
  rows.zipIdx.mapM fun item =>
    if maxBankRows ≤ item.2 then invalid "CSV files are limited to 10,000 rows"
    else match normalizeRecord item.1 source .bankTransaction provider (draws.now item.2) with
      | .error (.validation message) => invalid ("row " ++ toString (item.2 + 2) ++ ": " ++ message)
      | outcome => outcome

def parseBankCsv (maxUploadBytes : Nat) (draws : Draws) (content : List UInt8) (source : String)
    (provider : Option String) : Except IngestError (List NormalizedRecord) :=
  if maxUploadBytes < content.length then
    invalid ("CSV file exceeds " ++ toString (maxUploadBytes / (1024 * 1024)) ++ " MB limit")
  else match Runtime.readCsv content with
    | none => invalid "CSV must be UTF-8 encoded"
    | some (header, rows) =>
      let fieldnames := header.getD []
      if fieldnames.isEmpty || !bankRequired.all (fun name => (fieldnames.map strip).contains name) then
        invalid ("missing required column(s): " ++
          ", ".intercalate (bankRequired.filter fun name => !fieldnames.contains name))
      else normalizeBankRows draws source provider rows

def ingestBankCsv (maxUploadBytes : Nat) (draws : Draws) (session : Session) (content : List UInt8) (source : String)
    (provider merchantId : Option String) (commit : Bool) : Except IngestError IngestReport × Session :=
  match parseBankCsv maxUploadBytes draws content source provider with
  | .error error => rejectInput draws session source provider merchantId 0 1 error
  | .ok records =>
    let (session, batch) := createBatch session draws.batchId source provider merchantId
    persistNormalized draws session records batch commit

end Persist
end RCAA
