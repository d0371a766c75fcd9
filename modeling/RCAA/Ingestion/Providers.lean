import RCAA.Ingestion.Onboarding

/-! What the provider adapters make of their payloads. Amounts come in paise and leave
in rupees, computed with 28 digits. Infinities and NaNs are one value here, whose text is
refused like theirs when the record is normalized. A payload's nested entries are left
out, as everywhere in a record's JSON column. -/

namespace RCAA

/-- `datetime.fromtimestamp(seconds, tz=timezone.utc)` as microseconds, unless it raises. -/
class ProviderRuntime extends Runtime where
  fromTimestamp : Scalar → Option Int

/-! ## Payloads -/

namespace RawData

/-- `payload[key]`. -/
def item (payload : RawData) (key : String) : Except IngestError Scalar :=
  match payload.get? key with
  | none => .error .key
  | some value => .ok value

/-- `{**payload, key: value}`. -/
def set (key : String) (value : Scalar) : RawData → RawData
  | [] => [(key, value)]
  | entry :: rest => if entry.1 = key then (key, value) :: rest else entry :: set key value rest

end RawData

/-- `a or b`. -/
def Scalar.or (a b : Scalar) : Scalar := if a.truthy then a else b

/-! ## Amounts -/

/-- `amount / 100`. -/
def toRupees : Decimal.Parsed → Decimal.Parsed
  | .finite amount => .finite (amount.hundredth.inContext 28)
  | other => other

/-- `a - b`. -/
def minus : Decimal.Parsed → Decimal.Parsed → Decimal.Parsed
  | .finite a, .finite b => .finite ((a.sub b).inContext 28)
  | _, _ => .special

/-- `str(amount)`. -/
def amountText : Decimal.Parsed → String
  | .finite amount => amount.str
  | _ => "NaN"

def amountValue : Decimal.Parsed → Value
  | .finite amount => .decimal amount
  | _ => .str "NaN"

section Providers
variable [ProviderRuntime]

/-- `Decimal(text)`. -/
def readDecimal (text : String) : Except IngestError Decimal.Parsed :=
  match Decimal.parse (strip text) with
  | .invalid => .error .invalidOperation
  | parsed => .ok parsed

/-- `Decimal(value)`. -/
def exactDecimal (value : Scalar) : Except IngestError Decimal.Parsed :=
  match value with
  | .null => .error .type
  | .bool b => .ok (.finite (.ofInt (if b then 1 else 0)))
  | .int n => .ok (.finite (.ofInt n))
  | .float _ none => .ok .special
  | .float _ (some exact) => .ok (.finite (.ofFloat exact))
  | .str text => readDecimal text

/-- The timestamp of a number of seconds. -/
def secondsToUtc (seconds : Scalar) : Except IngestError DateTime :=
  match ProviderRuntime.fromTimestamp seconds with
  | none => .error .overflow
  | some wall => .ok ⟨wall, some 0⟩

/-- `isinstance(value, (int, float))`. -/
def isNumber : Scalar → Bool
  | .bool _ | .int _ | .float .. => true
  | .null | .str _ => false

/-- The timestamp of a value that is a number of seconds, or else the default. -/
def timestampOr (value : Scalar) (default : Value) : Except IngestError Value :=
  if isNumber value then Value.timestamp <$> secondsToUtc value else .ok default

/-! ## The webhook adapter -/

def normalizePayment (payload : RawData) : Except IngestError Dict := do
  let id ← payload.item "id"
  let amount ← exactDecimal (← payload.item "amount")
  let status ← payload.item "status"
  return [
    ("provider", .str "razorpay"),
    ("provider_payment_id", .scalar id),
    ("provider_order_id", .scalar (payload.get "order_id")),
    ("amount", .str (amountText (toRupees amount))),
    ("currency", .scalar (payload.getD "currency" (.str "INR"))),
    ("status", .scalar status),
    ("method", .scalar (payload.get "method")),
    ("captured", .scalar (payload.getD "captured" (.bool false))),
    ("raw_data", .object payload)]

def normalizeRefund (payload : RawData) : Except IngestError Dict := do
  let id ← payload.item "id"
  let paymentId ← payload.item "payment_id"
  let amount ← exactDecimal (← payload.item "amount")
  let status ← payload.item "status"
  return [
    ("provider", .str "razorpay"),
    ("provider_refund_id", .scalar id),
    ("provider_payment_id", .scalar paymentId),
    ("amount", .str (amountText (toRupees amount))),
    ("status", .scalar status),
    ("raw_data", .object payload)]

def normalizeSettlement (payload : RawData) : Except IngestError Dict := do
  let gross ← toRupees <$> exactDecimal (← payload.item "amount")
  let fee ← toRupees <$> exactDecimal (payload.getD "fees" (.int 0))
  let tax ← toRupees <$> exactDecimal (payload.getD "tax" (.int 0))
  let created := payload.get "created_at"
  let settledAt ← timestampOr created (.scalar created)
  let id ← payload.item "id"
  return [
    ("provider", .str "razorpay"),
    ("provider_settlement_id", .scalar id),
    ("provider_payment_id", .scalar (payload.getD "payment_id" (.str ""))),
    ("gross_amount", .str (amountText gross)),
    ("fee", .str (amountText fee)),
    ("tax", .str (amountText tax)),
    ("net_amount", .str (amountText (minus (minus gross fee) tax))),
    ("status", .scalar (payload.getD "status" (.str "processed"))),
    ("settled_at", settledAt),
    ("raw_data", .object payload)]

def ingestProviderPayload (draws : Draws) (session : Session) (payloads : List RawData) (recordType : RecordType)
    (source : String) (merchantId : Option String) : Except IngestError IngestReport × Session :=
  let normalized := match recordType with
    | .payment => payloads.mapM normalizePayment
    | .refund => payloads.mapM normalizeRefund
    | .settlement => payloads.mapM normalizeSettlement
    | .bankTransaction => invalid ("unsupported provider record_type: " ++ recordType.name)
  match normalized with
  | .error error => (.error error, session)
  | .ok records =>
    ingestRecords draws session records source recordType (if records.isEmpty then none else some "razorpay") merchantId true

/-! ## The settlement report -/

/-- `str(row.get("entity_id") or "").strip()`. -/
def entityId (row : RawData) : String := strip ((row.get "entity_id").or (.str "")).text

def entityType (row : RawData) : String := lower ((row.get "type").or (.str "")).text

/-- The payments, refunds and settlements of a report. -/
structure Lines where
  payments : List Dict := []
  refunds : List Dict := []
  settlements : List Dict := []

/-- The values the lines of a row share. -/
structure RowTerms where
  created : Value
  settled : Value
  currency : Value
  amount : Decimal.Parsed
  fee : Decimal.Parsed
  tax : Decimal.Parsed

/-- `Decimal(str(row.get(key) or 0))`. -/
def reportAmount (row : RawData) (key : String) : Except IngestError Decimal.Parsed :=
  readDecimal ((row.get key).or (.int 0)).text

def rowTerms (row : RawData) : Except IngestError RowTerms := do
  let created := row.get "created_at"
  let settled := (row.get "settled_at").or created
  let createdDt ← timestampOr created .null
  let settledDt ← timestampOr settled createdDt
  let amount ← reportAmount row "amount"
  let fee ← reportAmount row "fee"
  let tax ← reportAmount row "tax"
  return {
    created := createdDt
    settled := settledDt
    currency := .str (upper ((row.get "currency").or (.str "INR")).text)
    amount := toRupees amount
    fee := toRupees fee
    tax := toRupees tax }

/-- The settlement line of a payment row. -/
def settlementLine (row : RawData) (terms : RowTerms) : Dict :=
  let id := ((row.get "settlement_id").or (.str "unknown")).text ++ ":" ++ entityId row
  [("provider", .str "razorpay"),
    ("external_id", .str id),
    ("provider_settlement_id", .str id),
    ("provider_payment_id", .str (entityId row)),
    ("gross_amount", amountValue terms.amount),
    ("fee", amountValue terms.fee),
    ("tax", amountValue terms.tax),
    ("net_amount", amountValue (minus (minus terms.amount terms.fee) terms.tax)),
    ("currency", terms.currency),
    ("status", .str (if (row.get "settled").truthy then "processed" else "pending")),
    ("event_timestamp", terms.settled.or terms.created),
    ("utr", .scalar (row.get "settlement_utr")),
    ("metadata", .object (row.set "settlement_group_id" (row.get "settlement_id")))]

/-- One row of `normalize_combined`. -/
def normalizeRow (row : RawData) : Except IngestError Lines :=
  if entityId row = "" then .ok {}
  else do
    let terms ← rowTerms row
    if entityType row = "payment" then
      return {
        payments := [[
          ("provider", .str "razorpay"),
          ("external_id", .str (entityId row)),
          ("provider_payment_id", .str (entityId row)),
          ("provider_order_id", .scalar (row.get "order_id")),
          ("amount", amountValue terms.amount),
          ("currency", terms.currency),
          ("status", .str (if (row.get "settled").truthy then "captured" else "created")),
          ("event_timestamp", terms.created.or terms.settled),
          ("metadata", .object row)]]
        settlements := [settlementLine row terms] }
    else if entityType row = "refund" then
      return {
        refunds := [[
          ("provider", .str "razorpay"),
          ("external_id", .str (entityId row)),
          ("provider_refund_id", .str (entityId row)),
          ("provider_payment_id", .str ((row.get "payment_id").or (.str "")).text),
          ("amount", amountValue terms.amount),
          ("currency", terms.currency),
          ("status", .str (if (row.get "settled").truthy then "processed" else "created")),
          ("event_timestamp", terms.created.or terms.settled),
          ("metadata", .object row)]] }
    else return {}

def normalizeCombined (items : List RawData) : Except IngestError Lines := do
  let lines ← items.mapM normalizeRow
  return {
    payments := lines.flatMap Lines.payments
    refunds := lines.flatMap Lines.refunds
    settlements := lines.flatMap Lines.settlements }

/-- `dict(x, merchant_id=...)` for each line. -/
def stampedLines (merchantId : String) (lines : List Dict) : List Dict := lines.map (Dict.set "merchant_id" (.str merchantId))

/-- The settlements one report of `sync_razorpay` brings. -/
def syncSettlements (draws : Draws) (session : Session) (merchantId : String) (items : List RawData) :
    Except IngestError IngestReport × Session :=
  match normalizeCombined items with
  | .error error => (.error error, session)
  | .ok lines =>
    ingestRecords draws session (stampedLines merchantId lines.settlements) "razorpay_api" .settlement (some "razorpay")
      (some merchantId) false

end Providers
end RCAA
