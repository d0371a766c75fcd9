import RCAA.Billing.Models
import RCAA.Json
import RCAA.Security.Mfa

/-! The webhook of the payment provider: the check of a delivery, the events of a
subscription and the financial records. A delivery that raises leaves the tables as they
were; audit events and notifications are left out. What an event holds under a field is
read where it is a scalar. -/

namespace RCAA.Billing

/-- What the interpreter supplies for a delivery. -/
class WebhookRuntime extends ProviderRuntime where
  /-- `json.loads` -/
  loads : List UInt8 → Option Json
  hmacSha256 : (secret : String) → (body : List UInt8) → String
  sha256 : List UInt8 → String
  /-- Whether an address is in one of the networks, unless one of them is none. -/
  sourceAllowed : (allowed : List String) → (clientIp : String) → Option Bool

structure BillingSettings where
  razorpayWebhookSecret : String := ""
  razorpayWebhookAllowedIps : List String := []
  billingProvider : String := "manual"
  razorpayKeyId : String := ""
  razorpayKeySecret : String := ""
  razorpayPlanStarter : String := ""
  razorpayPlanGrowth : String := ""
  razorpayPlanBusiness : String := ""

/-! ## Documents -/

/-- Any exception of the ingestion, to the caller. -/
def raising {α : Type} (made : Except IngestError α) : Except Failure α := made.mapError fun _ => .raised

section Documents

/-- `document.get(key)`. -/
def get (document : Json) (key : String) : Except Failure Json :=
  match document with
  | .object fields => .ok (((fields.find? fun entry => entry.1 = key).map Prod.snd).getD .null)
  | _ => .error .raised

/-- `document or {}`. -/
def orEmpty (document : Json) : Json := if document.truthy then document else .object []

def scalars (document : Json) : Except Failure RawData :=
  match document with
  | .object fields => .ok (fields.filterMap fun (key, value) => match value with
    | .scalar value => some (key, value)
    | _ => none)
  | _ => .error .raised

/-- `((payload.get("payload") or {}).get(name) or {}).get("entity") or {}`. -/
def entityOf (payload : Json) (name : String) : Except Failure RawData := do
  let parts ← get payload "payload"
  let part ← get (orEmpty parts) name
  let entity ← get (orEmpty part) "entity"
  scalars (orEmpty entity)

end Documents

/-! ## The events of a subscription -/

structure SubscriptionEvent where
  eventType : String
  createdAt : Option Int
  entity : RawData
  payment : RawData
deriving DecidableEq

def statusMap : String → Option String
  | "authenticated" => some "PENDING_ACTIVATION"
  | "active" => some "ACTIVE"
  | "pending" => some "PAST_DUE"
  | "halted" => some "PAST_DUE"
  | "cancelled" => some "CANCELLED"
  | "completed" => some "CANCELLED"
  | "expired" => some "CANCELLED"
  | "created" => some "PENDING_ACTIVATION"
  | _ => none

namespace SubscriptionEvent

/-- The status the provider reports and what it means here, where it is a known one. -/
def mapped (event : SubscriptionEvent) : Option (String × String) :=
  match event.entity.get "status" with
  | .str providerStatus => (statusMap providerStatus).map fun status => (providerStatus, status)
  | _ => none

/-- A payment was captured for the subscription. -/
def captured (event : SubscriptionEvent) : Bool :=
  (event.eventType = "subscription.charged" || event.eventType = "subscription.completed") &&
    event.payment.get "status" = .str "captured"

end SubscriptionEvent

inductive WebhookReply where
  | ignored (reason : String)
  | duplicate
  | processed
  | rejected (error : String)
deriving DecidableEq

section Webhooks
variable [WebhookRuntime] (settings : BillingSettings)

/-- `_dt_from_epoch`. -/
def dtFromEpoch (value : Scalar) : Except Failure (Option Int) :=
  if isNumber value then match ProviderRuntime.fromTimestamp value with
    | none => .error .raised
    | some instant => .ok (some instant)
  else .ok none

/-- The time under a key of a document. -/
def timeOf (document : Json) (key : String) : Except Failure (Option Int) := do
  match ← get document key with
  | .scalar value => dtFromEpoch value
  | _ => return none

/-- What a text column takes from a field that is not empty. -/
def textField (fields : RawData) (key : String) : Except Failure (Option String) :=
  if (fields.get key).truthy then raising (column (.scalar (fields.get key))) else .ok none

/-- What a time column takes from a field that is not empty. -/
def timeField (fields : RawData) (key : String) : Except Failure (Option Int) :=
  if (fields.get key).truthy then dtFromEpoch (fields.get key) else .ok none

/-- What a query compares with a field that is not empty. -/
def queriedField (fields : RawData) (key : String) : Except Failure (Option String) :=
  if (fields.get key).truthy then raising (queried (.scalar (fields.get key))) else .ok none

/-- `not event_created_at or not previous or event_created_at >= previous`. -/
def inTime (createdAt previous : Option Int) : Bool :=
  match createdAt, previous with
  | some createdAt, some previous => previous ≤ createdAt
  | _, _ => true

/-- The status goes by the time of the event. -/
def applyStatus (sub : BillingSubscription) (event : SubscriptionEvent) : BillingSubscription :=
  match event.mapped with
  | none => sub
  | some (providerStatus, status) =>
    if inTime event.createdAt sub.providerEventCreatedAt then
      { sub with
        status
        providerStatus := some providerStatus
        providerEventCreatedAt := event.createdAt <|> sub.providerEventCreatedAt }
    else sub

/-- The subscription with what the event says about it; a captured payment makes it active. -/
def updated (sub : BillingSubscription) (event : SubscriptionEvent) : Except Failure BillingSubscription := do
  let customer ← textField event.entity "customer_id"
  let plan ← textField event.entity "plan_id"
  let start ← timeField event.entity "current_start"
  let finish ← timeField event.entity "current_end"
  let payment ← textField event.payment "id"
  let applied := applyStatus sub event
  return { applied with
    providerCustomerId := customer <|> applied.providerCustomerId
    providerPlanId := plan <|> applied.providerPlanId
    currentPeriodStart := start.getD applied.currentPeriodStart
    currentPeriodEnd := finish.getD applied.currentPeriodEnd
    cancelAtPeriodEnd := event.eventType = "subscription.cancelled" || applied.cancelAtPeriodEnd
    lastPaymentId := payment <|> applied.lastPaymentId
    status := if event.captured then "ACTIVE" else applied.status }

/-! ## Invoices -/

def nextInvoiceNumber (now : Int) (invoices : Invoices) (merchantId : String) : String :=
  let (year, month, _) := civil (now / DateTime.day)
  let count := (invoices.rows.filter fun row => row.merchantId = merchantId).length
  "RCAA-" ++ padded 4 year.toNat ++ padded 2 month.toNat ++ "-" ++ padded 5 (count + 1)

/-- `Decimal(payment_entity.get("amount", 0)) / Decimal(100)`. -/
def chargedAmount (payment : RawData) : Except Failure Decimal := do
  match toRupees (← raising (exactDecimal (payment.getD "amount" (.int 0)))) with
  | .finite amount => return amount
  | _ => .error .raised

/-- The stored invoice a captured payment is booked on: the one with its invoice id, or
the newest that is not paid. -/
def openInvoice (invoices : Invoices) (sub : BillingSubscription) (payment : RawData) :
    Except Failure (Option BillingInvoice) := do
  let named := (← queriedField payment "invoice_id").bind invoices.ofProvider?
  return named <|> invoices.newestUnpaid? sub.id

/-- An invoice made for a payment that has none. -/
def chargedInvoice (invoiceId : String) (now : Int) (invoices : Invoices) (sub : BillingSubscription) (payment : RawData) :
    Except Failure BillingInvoice := do
  let amount ← chargedAmount payment
  match ← raising (column (.scalar (payment.getD "currency" (.str "INR")))) with
  | none => .error .raised
  | some currency => return {
      id := invoiceId
      merchantId := sub.merchantId
      subscriptionId := some sub.id
      invoiceNumber := nextInvoiceNumber now invoices sub.merchantId
      subtotal := amount
      total := amount
      issuedAt := now
      dueAt := now
      provider := "RAZORPAY"
      currency }

/-- The invoices with one for the payment, and its id. -/
def invoiceFor (invoiceId : String) (now : Int) (invoices : Invoices) (sub : BillingSubscription) (payment : RawData) :
    Except Failure (String × Invoices) := do
  match ← openInvoice invoices sub payment with
  | some invoice => return (invoice.id, invoices)
  | none =>
    let made ← chargedInvoice invoiceId now invoices sub payment
    let grown ← invoices.insert made
    return (made.id, grown)

/-- A captured payment is booked on its invoice. -/
def bookPayment (invoiceId : String) (now : Int) (invoices : Invoices) (sub : BillingSubscription) (payment : RawData) :
    Except Failure Invoices := do
  let (id, invoices) ← invoiceFor invoiceId now invoices sub payment
  let providerInvoiceId ← textField payment "invoice_id"
  let providerPaymentId ← textField payment "id"
  return invoices.pay id now providerInvoiceId providerPaymentId

/-- The Razorpay subscription an event names. -/
def knownSubscription (subscriptions : Subscriptions) (entity : RawData) : Except Failure (Option BillingSubscription) := do
  return (← queriedField entity "id").bind subscriptions.ofProvider?

/-- `_subscription_event`. -/
def subscriptionEvent (invoiceId : String) (now : Int) (ledger : Ledger) (eventType : String) (payload : Json) :
    Except Failure (WebhookReply × Ledger) := do
  let entity ← entityOf payload "subscription"
  if (entity.get "id").truthy = false then return (.ignored "missing subscription entity", ledger)
  else match ← knownSubscription ledger.subscriptions entity with
    | none => return (.ignored "unknown subscription", ledger)
    | some sub =>
      let createdAt ← timeOf payload "created_at"
      let payment ← entityOf payload "payment"
      let event : SubscriptionEvent := ⟨eventType, createdAt, entity, payment⟩
      let changed ← updated sub event
      let invoices ←
        if event.captured then bookPayment invoiceId now ledger.invoices changed payment else pure ledger.invoices
      return (.processed, { ledger with subscriptions := ledger.subscriptions.put changed, invoices })

/-! ## Deliveries -/

/-- A request: its body and what comes with it, the time, and what it draws. -/
structure Delivery where
  raw : List UInt8
  signature : Option String
  eventId : Option String := none
  clientIp : Option String := none
  now : Int
  invoiceId : String
  draws : Draws

/-- The source address is on the allowlist, where there is one. -/
def sourceAccepted (clientIp : Option String) : Bool :=
  settings.razorpayWebhookAllowedIps = [] ||
    (WebhookRuntime.sourceAllowed settings.razorpayWebhookAllowedIps (clientIp.getD "")).getD false

def verifyWebhook (body : List UInt8) (signature : String) : Except Failure Bool :=
  Security.compareDigest (WebhookRuntime.hmacSha256 settings.razorpayWebhookSecret body) signature

/-- The delivery comes from the provider. -/
def verified (d : Delivery) : Except Failure Bool :=
  match d.signature.filter (· ≠ "") with
  | none => .ok false
  | some signature =>
    if settings.razorpayWebhookSecret = "" ∨ sourceAccepted settings d.clientIp = false then .ok false
    else verifyWebhook settings d.raw signature

/-- `event_id or payload.get("event_id") or sha256(raw)`, as a query compares it. -/
def resolvedEventId (d : Delivery) (payload : Json) : Except Failure String :=
  match d.eventId.filter (· ≠ "") with
  | some eventId => .ok eventId
  | none => do
    let value ← get payload "event_id"
    if value.truthy = false then return WebhookRuntime.sha256 d.raw
    else match value with
      | .scalar value => match ← raising (queried (.scalar value)) with
        | none => .error .raised
        | some eventId => return eventId
      | _ => .error .raised

/-- `payload.get("event", "unknown")`, on which `startswith` is called. -/
def eventTypeOf (payload : Json) : Except Failure String :=
  match payload with
  | .object fields => match (fields.find? fun entry => entry.1 = "event").map Prod.snd with
    | none => .ok "unknown"
    | some (.scalar (.str eventType)) => .ok eventType
    | some _ => .error .raised
  | _ => .error .raised

/-- The entity of a payment, refund or settlement. -/
def financialEntity (payload : Json) : Except Failure Json := do
  let parts := orEmpty (← get payload "payload")
  let payment ← get parts "payment"
  let refund ← get parts "refund"
  let settlement ← get parts "settlement"
  get (if payment.truthy then payment else if refund.truthy then refund else orEmpty settlement) "entity"

def startsWith (text start : String) : Bool := start.toList.isPrefixOf text.toList

/-- The records an event of the provider is about. -/
def recordTypeOf (eventType : String) : Option RecordType :=
  if startsWith eventType "payment." then some .payment
  else if startsWith eventType "refund." then some .refund
  else if startsWith eventType "settlement." then some .settlement
  else none

/-- The event is noted as processed. -/
def Ledger.note (ledger : Ledger) (eventId eventType : String) : Except Failure Ledger :=
  (ledger.events.insert ⟨"razorpay", eventId, eventType⟩).map fun events => { ledger with events }

/-- The financial records of an event, and what is committed. -/
def ingestEvent (d : Delivery) (ledger : Ledger) (eventType : String) (payload : Json) :
    Except Failure (Except IngestError Unit) × Ledger :=
  match financialEntity payload with
  | .error failure => (.error failure, ledger)
  | .ok entity => match recordTypeOf eventType with
    | none => (.ok (.ok ()), ledger)
    | some recordType =>
      if entity.truthy then match scalars entity with
        | .error failure => (.error failure, ledger)
        | .ok fields =>
          let (outcome, session) := ingestProviderPayload d.draws ⟨ledger.database, ledger.database⟩ [fields] recordType
            "razorpay_webhook" none
          (.ok (outcome.map fun _ => ()), { ledger with database := session.durable })
      else (.ok (.ok ()), ledger)

/-- The branch of an event that is not about a subscription. -/
def financialEvent (d : Delivery) (ledger : Ledger) (eventId eventType : String) (payload : Json) :
    Except Failure WebhookReply × Ledger :=
  match ingestEvent d ledger eventType payload with
  | (.error failure, ledger) => (.error failure, ledger)
  | (.ok (.error (.validation message)), ledger) => (.ok (.rejected message), ledger)
  | (.ok (.error .key), ledger) => (.ok (.rejected (IngestError.text .key)), ledger)
  | (.ok (.error _), ledger) => (.error .raised, ledger)
  | (.ok (.ok ()), ledger) => match ledger.note eventId eventType with
    | .error failure => (.error failure, ledger)
    | .ok noted => (.ok .processed, noted)

/-- The branch of an event of a subscription, which commits once. -/
def subscriptionBranch (d : Delivery) (ledger : Ledger) (eventId eventType : String) (payload : Json) :
    Except Failure (WebhookReply × Ledger) := do
  let (reply, changed) ← subscriptionEvent d.invoiceId d.now ledger eventType payload
  return (reply, ← changed.note eventId eventType)

/-- A verified delivery whose id is new. -/
def handleEvent (d : Delivery) (ledger : Ledger) (eventId : String) (payload : Json) :
    Except Failure WebhookReply × Ledger :=
  match eventTypeOf payload with
  | .error failure => (.error failure, ledger)
  | .ok eventType =>
    if startsWith eventType "subscription." then match subscriptionBranch d ledger eventId eventType payload with
      | .error failure => (.error failure, ledger)
      | .ok (reply, changed) => (.ok reply, changed)
    else financialEvent d ledger eventId eventType payload

/-- `process_razorpay_webhook`; a delivery that is not the provider's has no reply. -/
def processRazorpayWebhook (ledger : Ledger) (d : Delivery) : Except Failure (Option WebhookReply) × Ledger :=
  match verified settings d with
  | .error failure => (.error failure, ledger)
  | .ok false => (.ok none, ledger)
  | .ok true => match WebhookRuntime.loads d.raw with
    | none => (.error .raised, ledger)
    | some payload => match resolvedEventId d payload with
      | .error failure => (.error failure, ledger)
      | .ok eventId =>
        if (ledger.events.get? "razorpay" eventId).isSome then (.ok (some .duplicate), ledger)
        else
          let (outcome, after) := handleEvent d ledger eventId payload
          (outcome.map some, after)

end Webhooks
end RCAA.Billing
