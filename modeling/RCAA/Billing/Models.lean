import Mathlib
import RCAA.Ingestion.Providers
import RCAA.Security.Models

/-! The tables behind billing: one subscription for a merchant, its invoices, and the
webhook events that were processed. Times are instants in UTC. -/

namespace RCAA.Billing

export Security (Failure)

structure BillingSubscription where
  id : String
  merchantId : String
  planCode : String
  status : String := "TRIAL"
  currency : String := "INR"
  monthlyPrice : Decimal
  monthlyTransactionLimit : Option Int := none
  currentPeriodStart : Int
  currentPeriodEnd : Int
  cancelAtPeriodEnd : Bool := false
  provider : String := "MANUAL"
  providerSubscriptionId : Option String := none
  providerStatus : Option String := none
  providerEventCreatedAt : Option Int := none
  providerPlanId : Option String := none
  providerCustomerId : Option String := none
  lastPaymentId : Option String := none
deriving DecidableEq

structure BillingInvoice where
  id : String
  merchantId : String
  subscriptionId : Option String
  invoiceNumber : String
  status : String := "PENDING"
  currency : String := "INR"
  subtotal : Decimal
  tax : Decimal := ⟨0, -2⟩
  total : Decimal
  issuedAt : Int
  dueAt : Int
  paidAt : Option Int := none
  provider : String := "MANUAL"
  providerInvoiceId : Option String := none
  providerPaymentId : Option String := none
deriving DecidableEq

def BillingInvoice.number (invoice : BillingInvoice) : String × String := (invoice.merchantId, invoice.invoiceNumber)

structure WebhookEvent where
  provider : String
  eventId : String
  eventType : String
deriving DecidableEq

def WebhookEvent.key (event : WebhookEvent) : String × String := (event.provider, event.eventId)

/-! ## Subscriptions -/

structure Subscriptions where
  rows : List BillingSubscription := []
  ids : (rows.map (·.id)).Nodup := by decide
  merchants : (rows.map (·.merchantId)).Nodup := by decide

namespace Subscriptions

def ofMerchant? (table : Subscriptions) (merchantId : String) : Option BillingSubscription :=
  table.rows.find? fun row => row.merchantId = merchantId

/-- The Razorpay subscription with an id. -/
def ofProvider? (table : Subscriptions) (subscriptionId : String) : Option BillingSubscription :=
  table.rows.find? fun row => row.provider = "RAZORPAY" ∧ row.providerSubscriptionId = some subscriptionId

def insert (table : Subscriptions) (row : BillingSubscription) : Except Failure Subscriptions :=
  if accepted : row.id ∉ table.rows.map (·.id) ∧ row.merchantId ∉ table.rows.map (·.merchantId) then
    .ok {
      rows := table.rows ++ [row]
      ids := KeyedRows.nodup_snoc _ table.ids accepted.1
      merchants := KeyedRows.nodup_snoc _ table.merchants accepted.2 }
  else .error .integrity

/-- The columns of a row but for its keys, as a change of the row that is stored. -/
def columns (row stored : BillingSubscription) : BillingSubscription :=
  { row with id := stored.id, merchantId := stored.merchantId }

/-- The update of a row the request has changed. -/
def put (table : Subscriptions) (row : BillingSubscription) : Subscriptions where
  rows := KeyedRows.update BillingSubscription.id row.id (columns row) table.rows
  ids := by
    have fixed : ∀ stored, (columns row stored).id = stored.id := fun _ => rfl
    simpa only [KeyedRows.map_update BillingSubscription.id fixed] using table.ids
  merchants := by
    have fixed : ∀ stored, (columns row stored).merchantId = stored.merchantId := fun _ => rfl
    simpa only [KeyedRows.map_update BillingSubscription.id fixed] using table.merchants

end Subscriptions

/-! ## Invoices -/

structure Invoices where
  rows : List BillingInvoice := []
  ids : (rows.map (·.id)).Nodup := by decide
  numbers : (rows.map (·.number)).Nodup := by decide

namespace Invoices

def ofProvider? (table : Invoices) (invoiceId : String) : Option BillingInvoice :=
  table.rows.find? fun row => row.providerInvoiceId = some invoiceId

/-- The invoice of a subscription that was issued last of those not paid. -/
def newestUnpaid? (table : Invoices) (subscriptionId : String) : Option BillingInvoice :=
  let unpaid := table.rows.filter fun row => row.subscriptionId = some subscriptionId ∧ row.status ≠ "PAID"
  @List.argmax _ _ Int.instLinearOrder.toPartialOrder.toPreorder Int.instLinearOrder.toDecidableLT (·.issuedAt) unpaid

/-- NUMERIC(12,2) holds the amount. -/
def fits (amount : Decimal) : Bool := decide (amount.money.coeff.natAbs < 10 ^ 12)

/-- The row as its money columns return it. -/
def stored (row : BillingInvoice) : BillingInvoice :=
  { row with subtotal := row.subtotal.money, tax := row.tax.money, total := row.total.money }

def insert (table : Invoices) (row : BillingInvoice) : Except Failure Invoices :=
  if accepted : row.id ∉ table.rows.map (·.id) ∧ row.number ∉ table.rows.map (·.number) ∧ fits row.subtotal ∧
      fits row.tax ∧ fits row.total then
    .ok {
      rows := table.rows ++ [stored row]
      ids := KeyedRows.nodup_snoc _ table.ids accepted.1
      numbers := KeyedRows.nodup_snoc _ table.numbers accepted.2.1 }
  else .error .integrity

/-- An invoice marked paid by a webhook. -/
def paid (now : Int) (invoiceId paymentId : Option String) (row : BillingInvoice) : BillingInvoice :=
  { row with
    status := "PAID"
    paidAt := some now
    provider := "RAZORPAY"
    providerInvoiceId := invoiceId <|> row.providerInvoiceId
    providerPaymentId := paymentId <|> row.providerPaymentId }

def pay (table : Invoices) (id : String) (now : Int) (invoiceId paymentId : Option String) : Invoices where
  rows := KeyedRows.update BillingInvoice.id id (paid now invoiceId paymentId) table.rows
  ids := by
    have fixed : ∀ row, (paid now invoiceId paymentId row).id = row.id := fun _ => rfl
    simpa only [KeyedRows.map_update BillingInvoice.id fixed] using table.ids
  numbers := by
    have fixed : ∀ row, (paid now invoiceId paymentId row).number = row.number := fun _ => rfl
    simpa only [KeyedRows.map_update BillingInvoice.id fixed] using table.numbers

end Invoices

/-! ## Webhook events -/

structure WebhookEvents where
  rows : List WebhookEvent := []
  keys : (rows.map (·.key)).Nodup := by decide

namespace WebhookEvents

/-- `get_event`. -/
def get? (table : WebhookEvents) (provider eventId : String) : Option WebhookEvent :=
  table.rows.find? fun row => row.key = (provider, eventId)

def insert (table : WebhookEvents) (row : WebhookEvent) : Except Failure WebhookEvents :=
  if accepted : row.key ∉ table.rows.map (·.key) then
    .ok { rows := table.rows ++ [row], keys := KeyedRows.nodup_snoc _ table.keys accepted }
  else .error .integrity

end WebhookEvents

/-- The tables a billing request reads and writes, as committed. -/
structure Ledger where
  subscriptions : Subscriptions := {}
  invoices : Invoices := {}
  events : WebhookEvents := {}
  database : Database := {}

end RCAA.Billing
