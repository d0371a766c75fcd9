import RCAA.Models
import RCAA.Library.Outcome
import RCAA.Library.Quantize

/-! Normalizing one client record: the checks of its text, money, currency and
timestamp, and the record each table is filled from. Callers pass one of the four
record types, so the branch that refuses any other is left out. The time a record
was received is kept only where it becomes the event's time. -/

namespace RCAA

inductive IngestError where
  /-- `IngestionValidationError`. -/
  | validation (message : String)
  | invalidOperation
  | overflow
  | attribute
  | key
  | type
  | database
deriving DecidableEq, Repr

/-- What the interpreter, the `csv` module and the database driver supply. -/
class Runtime extends Platform where
  /-- `str` of an object. -/
  objectText : RawData → String
  /-- What a text column stores for a value that is neither text nor null, unless the driver refuses it. -/
  columnText : Value → Option String
  /-- Whether a query may compare a text column with such a value. -/
  comparable : Value → Bool
  /-- The header and the rows of a CSV file that is UTF-8 text. -/
  readCsv : List UInt8 → Option (Option (List String) × List Dict)
  /-- `str` of an error this package does not raise itself. -/
  errorText : IngestError → String

section Runtime
variable [Runtime]

def IngestError.text : IngestError → String
  | .validation message => message
  | error => Runtime.errorText error

def invalid (message : String) : Except IngestError α := .error (.validation message)

/-- `str(value)`. -/
def Value.text : Value → String
  | .scalar value => value.text
  | .decimal value => value.str
  | .timestamp value => String.ofList (value.isoformat.toList.map fun c => if c = 'T' then ' ' else c)
  | .object fields => Runtime.objectText fields
  | .other text _ => text

/-! ## Checks -/

/-- `_text(value, field)`: nothing for a null or blank value. -/
def optionalText (value : Value) : Option String :=
  match value with
  | .scalar .null => none
  | value =>
    let text := strip value.text
    if text = "" then none else some text

/-- `_text(value, field, True)`. -/
def requiredText (value : Value) (field : String) : Except IngestError String :=
  match optionalText value with
  | none => invalid (field ++ " is required")
  | some text => .ok text

/-- The exponents `Decimal(text)` takes on a 64-bit host; a number outside them is not read. -/
def representable (d : Decimal) : Bool :=
  d.exponent + (Decimal.digits d.coeff.natAbs).length ≤ 1000000000000000000 && -1999999999999999997 ≤ d.exponent

/-- `_decimal`: two places, 28 digits. -/
def toDecimal (value : Value) (field : String) (nonNegative : Bool) : Except IngestError Decimal :=
  match Decimal.parse (strip value.text) with
  | .invalid => invalid (field ++ " must be a valid decimal")
  | .special => invalid (field ++ " must be finite")
  | .finite result =>
    if !representable result then invalid (field ++ " must be a valid decimal")
    else if nonNegative && result.coeff < 0 then invalid (field ++ " must be non-negative")
    else match result.quantize 28 (-2) with
      | none => .error .invalidOperation
      | some amount => .ok amount

def supportedCurrencies : List String := ["INR", "USD", "EUR", "GBP", "AED", "SGD", "AUD", "CAD"]

/-- `_currency`: every supported currency has the three letters the code asks for first. -/
def toCurrency (value : Value) : Except IngestError String := do
  let currency := upper (← requiredText value "currency")
  if currency ∈ supportedCurrencies then return currency
  else invalid ("currency is unsupported: " ++ currency)

/-- `text.replace("Z", "+00:00")`. -/
def replaceZulu (text : String) : String :=
  String.ofList (text.toList.flatMap fun c => if c = 'Z' then "+00:00".toList else [c])

/-- First and last microsecond of the years a timestamp may have. -/
def firstInstant : Int := -62135596800000000
def lastInstant : Int := 253402300799999999

/-- `dt.astimezone(timezone.utc)`, a naive timestamp taken as UTC. -/
def toUtc (dt : DateTime) : Except IngestError DateTime :=
  if firstInstant ≤ dt.instant ∧ dt.instant ≤ lastInstant then .ok ⟨dt.instant, some 0⟩ else .error .overflow

/-- `_timestamp`. -/
def toTimestamp (value : Value) (field : String) : Except IngestError DateTime :=
  match value with
  | .timestamp dt => toUtc dt
  | value => do
    let text ← requiredText value field
    match Platform.fromisoformat (replaceZulu text) with
    | none => invalid (field ++ " must be a valid ISO-8601 timestamp")
    | some (wall, offset) => toUtc ⟨wall, offset⟩

theorem requiredText_ok {value : Value} {field text : String} (read : requiredText value field = .ok text) :
    text = strip value.text := by
  unfold requiredText optionalText at read
  split at read
  · cases read
  · next found =>
    split at found
    · cases found
    · simp only at found
      split at found
      · cases found
      · cases found
        cases read
        rfl

theorem requiredText_named {value : Value} {field text : String} (read : requiredText value field = .ok text) : text ≠ "" := by
  unfold requiredText optionalText at read
  split at read
  · cases read
  · next found =>
    split at found
    · cases found
    · simp only at found
      split at found
      · cases found
      · next named =>
        cases found
        cases read
        exact named

end Runtime

/-! ## Normalized records -/

inductive RecordType where
  | payment | refund | settlement | bankTransaction
deriving DecidableEq, Repr

def RecordType.name : RecordType → String
  | .payment => "payment"
  | .refund => "refund"
  | .settlement => "settlement"
  | .bankTransaction => "bank_transaction"

structure NormalizedRecord where
  source : String
  provider : Value
  recordType : RecordType
  externalId : String
  merchantId : Value := .null
  orderReference : Value := .null
  paymentReference : Option String := none
  refundReference : Option String := none
  settlementReference : Option String := none
  utr : Option String := none
  amount : Option Decimal := none
  currency : String := "INR"
  status : String := "processed"
  eventTimestamp : Option DateTime := none
  metadata : Value := .null
  rawReference : Value := .null
deriving DecidableEq

section Normalize
variable [Runtime]

/-- The values every record type checks, in this order. -/
structure Terms where
  amount : Decimal
  currency : String
  status : String
  eventTimestamp : DateTime

def terms (data : Dict) (amount : Value) (field : String) (nonNegative : Bool) (status timestamp : Value) :
    Except IngestError Terms := do
  let amount ← toDecimal amount field nonNegative
  let currency ← toCurrency (data.getD "currency" (.str "INR"))
  let status ← requiredText status "status"
  let eventTimestamp ← toTimestamp timestamp "event_timestamp"
  return ⟨amount, currency, lower status, eventTimestamp⟩

/-- `provider or data.get("provider")`. -/
def providerOf (data : Dict) (provider : Option String) : Value := (Value.ofOption provider).or (data.get "provider")

/-- `data.get("metadata") or data.get("raw_data") or {}`. -/
def metadataOf (data : Dict) : Value := ((data.get "metadata").or (data.get "raw_data")).or (.object [])

/-- `data.get("net_amount", data.get("amount"))`. -/
def netOf (data : Dict) : Value := data.getD "net_amount" (data.get "amount")

/-- `normalize_record`. -/
def normalizeRecord (data : Dict) (source : String) (recordType : RecordType) (provider : Option String)
    (received : DateTime) : Except IngestError NormalizedRecord :=
  match recordType with
  | .payment => do
    let externalId ← requiredText ((data.get "external_id").or (data.get "provider_payment_id")) "external_id"
    let terms ← terms data (data.get "amount") "amount" true (data.get "status")
      (((data.get "event_timestamp").or (data.get "created_at")).or (.timestamp received))
    return {
      source, recordType, externalId
      provider := (providerOf data provider).or (.str "demo")
      merchantId := data.get "merchant_id"
      orderReference := (data.get "order_reference").or (data.get "provider_order_id")
      paymentReference := some externalId
      amount := some terms.amount
      currency := terms.currency
      status := terms.status
      eventTimestamp := some terms.eventTimestamp
      metadata := metadataOf data
      rawReference := data.get "raw_reference" }
  | .refund => do
    let externalId ← requiredText ((data.get "external_id").or (data.get "provider_refund_id")) "external_id"
    let paymentRef ← requiredText ((data.get "payment_reference").or (data.get "provider_payment_id")) "payment_reference"
    let terms ← terms data (data.get "amount") "amount" true (data.get "status")
      (((data.get "event_timestamp").or (data.get "created_at")).or (.timestamp received))
    return {
      source, recordType, externalId
      provider := (providerOf data provider).or (.str "demo")
      merchantId := data.get "merchant_id"
      paymentReference := some paymentRef
      refundReference := some externalId
      amount := some terms.amount
      currency := terms.currency
      status := terms.status
      eventTimestamp := some terms.eventTimestamp
      metadata := metadataOf data
      rawReference := data.get "raw_reference" }
  | .settlement => do
    let externalId ← requiredText ((data.get "external_id").or (data.get "provider_settlement_id")) "external_id"
    let paymentRef ← requiredText ((data.get "payment_reference").or (data.get "provider_payment_id")) "payment_reference"
    let terms ← terms data (netOf data) "net_amount" true (data.get "status")
      (((data.get "event_timestamp").or (data.get "settled_at")).or (.timestamp received))
    return {
      source, recordType, externalId
      provider := (providerOf data provider).or (.str "demo")
      merchantId := data.get "merchant_id"
      paymentReference := some paymentRef
      settlementReference := some externalId
      utr := optionalText (data.get "utr")
      amount := some terms.amount
      currency := terms.currency
      status := terms.status
      eventTimestamp := some terms.eventTimestamp
      metadata := metadataOf data
      rawReference := data.get "raw_reference" }
  | .bankTransaction => do
    let externalId ← requiredText (data.get "external_id") "external_id"
    let terms ← terms data (data.get "amount") "amount" false (data.getD "status" (.str "posted"))
      (data.get "event_timestamp")
    return {
      source, recordType, externalId
      provider := providerOf data provider
      merchantId := data.get "merchant_id"
      orderReference := Value.ofOption (optionalText ((data.get "reference").or (data.get "order_reference")))
      settlementReference := optionalText (data.get "settlement_reference")
      utr := optionalText (data.get "utr")
      amount := some terms.amount
      currency := terms.currency
      status := terms.status
      eventTimestamp := some terms.eventTimestamp
      metadata := (data.get "metadata").or (.object [])
      rawReference := data.get "raw_reference" }

theorem toCurrency_supported {value : Value} {currency : String} (read : toCurrency value = .ok currency) :
    currency ∈ supportedCurrencies := by
  obtain ⟨text, _, read⟩ := Outcome.bind_ok read
  simp only at read
  split at read
  · next supported =>
    cases read
    exact supported
  · cases read

theorem terms_read {data : Dict} {amount : Value} {field : String} {nonNegative : Bool} {status timestamp : Value}
    {found : Terms} (read : terms data amount field nonNegative status timestamp = .ok found) :
    toDecimal amount field nonNegative = .ok found.amount ∧
      toCurrency (data.getD "currency" (.str "INR")) = .ok found.currency ∧
      ∃ text, requiredText status "status" = .ok text ∧ found.status = lower text := by
  obtain ⟨money, parsed, read⟩ := Outcome.bind_ok read
  obtain ⟨currency, code, read⟩ := Outcome.bind_ok read
  obtain ⟨status, word, read⟩ := Outcome.bind_ok read
  obtain ⟨time, _, read⟩ := Outcome.bind_ok read
  cases read
  exact ⟨parsed, code, status, word, rfl⟩

/-- The value a record's amount is read from; only a bank transaction's may be negative. -/
def RecordType.amountValue (data : Dict) : RecordType → Value
  | .settlement => netOf data
  | _ => data.get "amount"

def RecordType.nonNegative : RecordType → Bool
  | .bankTransaction => false
  | _ => true

def RecordType.statusValue (data : Dict) : RecordType → Value
  | .bankTransaction => data.getD "status" (.str "posted")
  | _ => data.get "status"

/-- The field an error in the amount names. -/
def RecordType.amountField : RecordType → String
  | .settlement => "net_amount"
  | _ => "amount"

def RecordType.metadataValue (data : Dict) : RecordType → Value
  | .bankTransaction => (data.get "metadata").or (.object [])
  | _ => metadataOf data

/-- What every accepted record keeps of the data it is read from: its currency is one the
data names, rupees unless it says another. -/
structure ReadFrom (data : Dict) (source : String) (recordType : RecordType) (record : NormalizedRecord) : Prop where
  source : record.source = source
  type : record.recordType = recordType
  merchant : record.merchantId = data.get "merchant_id"
  money : ∃ amount, record.amount = some amount ∧
    toDecimal (recordType.amountValue data) recordType.amountField recordType.nonNegative = .ok amount
  currency : toCurrency (data.getD "currency" (.str "INR")) = .ok record.currency
  status : ∃ text, requiredText (recordType.statusValue data) "status" = .ok text ∧ record.status = lower text
  timed : ∃ timestamp, record.eventTimestamp = some timestamp
  metadata : record.metadata = recordType.metadataValue data

theorem normalizeRecord_readFrom {data : Dict} {source : String} {recordType : RecordType} {provider : Option String}
    {received : DateTime} {record : NormalizedRecord}
    (accepted : normalizeRecord data source recordType provider received = .ok record) :
    ReadFrom data source recordType record := by
  cases recordType with
  | payment | bankTransaction =>
    obtain ⟨externalId, _, accepted⟩ := Outcome.bind_ok accepted
    obtain ⟨found, read, accepted⟩ := Outcome.bind_ok accepted
    cases accepted
    obtain ⟨money, currency, status⟩ := terms_read read
    exact ⟨rfl, rfl, rfl, ⟨_, rfl, money⟩, currency, status, ⟨_, rfl⟩, rfl⟩
  | refund | settlement =>
    obtain ⟨externalId, _, accepted⟩ := Outcome.bind_ok accepted
    obtain ⟨reference, _, accepted⟩ := Outcome.bind_ok accepted
    obtain ⟨found, read, accepted⟩ := Outcome.bind_ok accepted
    cases accepted
    obtain ⟨money, currency, status⟩ := terms_read read
    exact ⟨rfl, rfl, rfl, ⟨_, rfl, money⟩, currency, status, ⟨_, rfl⟩, rfl⟩

/-- A settlement's provider, its name and the payment it names. -/
theorem normalizeRecord_settlement {data : Dict} {source : String} {provider : Option String} {received : DateTime}
    {record : NormalizedRecord} (accepted : normalizeRecord data source .settlement provider received = .ok record) :
    record.provider = (providerOf data provider).or (.str "demo") ∧
      requiredText ((data.get "external_id").or (data.get "provider_settlement_id")) "external_id" = .ok record.externalId ∧
      ∃ reference, record.paymentReference = some reference ∧
        requiredText ((data.get "payment_reference").or (data.get "provider_payment_id")) "payment_reference" =
          .ok reference := by
  obtain ⟨externalId, named, accepted⟩ := Outcome.bind_ok accepted
  obtain ⟨reference, linked, accepted⟩ := Outcome.bind_ok accepted
  obtain ⟨found, _, accepted⟩ := Outcome.bind_ok accepted
  cases accepted
  exact ⟨rfl, named, reference, rfl, linked⟩

/-- Of the references of a bank record only one goes into its own column of the row. -/
theorem normalizeRecord_bank {data : Dict} {source : String} {provider : Option String} {received : DateTime}
    {record : NormalizedRecord} (accepted : normalizeRecord data source .bankTransaction provider received = .ok record) :
    requiredText (data.get "external_id") "external_id" = .ok record.externalId ∧
      record.orderReference = .ofOption (optionalText ((data.get "reference").or (data.get "order_reference"))) := by
  obtain ⟨externalId, named, accepted⟩ := Outcome.bind_ok accepted
  obtain ⟨found, _, accepted⟩ := Outcome.bind_ok accepted
  cases accepted
  exact ⟨named, rfl⟩

end Normalize
end RCAA
