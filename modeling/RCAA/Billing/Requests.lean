import RCAA.Api.Desk
import RCAA.Billing.Booking
import RCAA.Library.OffsetPages
import RCAA.Library.OwnedRows

/-! The requests of a workspace on its billing: reading the subscription, its invoices and its
use, checking out a plan and confirming the payment, and what an administrator does by hand
where no provider is configured. A request that fails leaves the tables as they were. The
counts of the use and audit events are left out. -/

namespace RCAA.Billing
open Api (requireRoles requireBody)
open OffsetPages (Listing)
open Security (User)

/-- Who makes a request and when, the ids drawn for it, and what the provider answers its call. -/
structure Request where
  user : User
  now : Int
  subscriptionId : String
  invoiceId : String
  answer : Except String RawData := .error "Unable to reach Razorpay"

def Request.checkout (r : Request) (plan : Plan) : CheckoutRequest where
  plan
  merchantId := r.user.merchantId
  email := r.user.email
  now := r.now
  subscriptionId := r.subscriptionId
  invoiceId := r.invoiceId
  answer := r.answer

inductive Operation where
  | overview
  | usage
  | invoices
  | checkout (plan : Plan)
  | verify (paymentId subscriptionId signature : String)
  | activate (plan : Plan)
  | cancel
  | markPaid (invoiceId : String)

inductive Answer where
  | overview (subscription : BillingSubscription) (invoices : List BillingInvoice)
  | usage (subscription : BillingSubscription)
  | invoices (rows : List BillingInvoice)
  | checkout (reply : CheckoutReply)
  | verified (subscriptionStatus : String)
  | subscription (row : BillingSubscription)
  /-- A paid invoice, and what became of its subscription where it was paid now. -/
  | paid (invoice : BillingInvoice) (subscriptionStatus : Option String)

/-! ## Tables -/

def Subscriptions.get? (table : Subscriptions) (id : String) : Option BillingSubscription :=
  table.rows.find? fun row => row.id = id

/-- An invoice an administrator marks paid. -/
def BillingInvoice.settled (now : Int) (row : BillingInvoice) : BillingInvoice := { row with status := "PAID", paidAt := some now }

def Invoices.settle (table : Invoices) (id : String) (now : Int) : Invoices where
  rows := KeyedRows.update BillingInvoice.id id (BillingInvoice.settled now) table.rows
  ids := by
    have fixed : ∀ row, (BillingInvoice.settled now row).id = row.id := fun _ => rfl
    simpa only [KeyedRows.map_update BillingInvoice.id fixed] using table.ids
  numbers := by
    have fixed : ∀ row, (BillingInvoice.settled now row).number = row.number := fun _ => rfl
    simpa only [KeyedRows.map_update BillingInvoice.id fixed] using table.numbers

/-! ## Operations -/

section Operations
variable [WebhookRuntime] (settings : BillingSettings) (listing : Listing BillingInvoice.issuedAt)

def manualOnly (detail : String) : Except Failure Unit :=
  if settings.billingProvider = "razorpay" then .error (.http 409 detail) else .ok ()

/-- `ensure_trial`, which does not read the plan of a checkout. -/
def trialOf (ledger : Ledger) (r : Request) : Except Failure (BillingSubscription × Ledger) :=
  (ensureTrial ledger.subscriptions (r.checkout .starter)).map fun (sub, subscriptions) => (sub, { ledger with subscriptions })

def invoicesOf (ledger : Ledger) (merchantId : String) : List BillingInvoice :=
  listing.list (ledger.invoices.rows.filter fun row => row.merchantId = merchantId)

def overview (ledger : Ledger) (r : Request) : Except Failure (Answer × Ledger) := do
  let (sub, after) ← trialOf ledger r
  return (.overview sub ((invoicesOf listing after r.user.merchantId).take 20), after)

/-- `current_usage`, less the counts. -/
def currentUsage (ledger : Ledger) (r : Request) : Except Failure (Answer × Ledger) := do
  let (sub, after) ← trialOf ledger r
  return (.usage sub, after)

/-- The lengths of the fields of `VerifyCheckoutPayload`. -/
def verifyBody (paymentId subscriptionId signature : String) : Bool :=
  5 ≤ paymentId.length && paymentId.length ≤ 100 && 5 ≤ subscriptionId.length && subscriptionId.length ≤ 100 &&
    32 ≤ signature.length && signature.length ≤ 128

def verifyCheckoutSignature (paymentId subscriptionId signature : String) : Except Failure Bool :=
  if paymentId = "" ∨ subscriptionId = "" ∨ signature = "" ∨ settings.razorpayKeySecret = "" then .ok false
  else
    let body := (paymentId ++ "|" ++ subscriptionId).toUTF8.toList
    Security.compareDigest (WebhookRuntime.hmacSha256 settings.razorpayKeySecret body) signature

def verifyRazorpayCheckout (ledger : Ledger) (r : Request) (paymentId subscriptionId signature : String) :
    Except Failure (Answer × Ledger) := do
  requireBody (verifyBody paymentId subscriptionId signature)
  if settings.billingProvider ≠ "razorpay" then .error (.http 409 "Razorpay billing is not enabled")
  else match ledger.subscriptions.ofMerchant? r.user.merchantId with
    | none => .error (.http 404 "Razorpay subscription not found")
    | some sub =>
      if sub.provider ≠ "RAZORPAY" ∨ sub.providerSubscriptionId ≠ some subscriptionId then
        .error (.http 404 "Razorpay subscription not found")
      else if ← verifyCheckoutSignature settings paymentId subscriptionId signature then
        let noted := { sub with lastPaymentId := some paymentId }
        return (.verified noted.status, { ledger with subscriptions := ledger.subscriptions.put noted })
      else .error (.http 400 "Invalid Razorpay payment signature")

def activate (ledger : Ledger) (r : Request) (plan : Plan) : Except Failure (Answer × Ledger) := do
  requireRoles ["ADMIN"] r.user
  let (sub, after) ← trialOf ledger r
  manualOnly settings "Manual activation is disabled while Razorpay billing is enabled"
  let finish ← addMonth r.now
  let active := { planned sub (r.checkout plan) finish with status := "ACTIVE" }
  return (.subscription active, { after with subscriptions := after.subscriptions.put active })

/-- `RazorpayBillingProvider().cancel_subscription`. -/
def cancelSubscription (answer : Except String RawData) : Except Failure RawData :=
  if settings.razorpayKeyId = "" ∨ settings.razorpayKeySecret = "" then
    .error (providerError "Razorpay billing credentials are not configured")
  else answer.mapError providerError

/-- The subscription a cancellation leaves, which ends with its period unless the provider has
ended it already. -/
def ended (sub : BillingSubscription) (r : Request) : Except Failure BillingSubscription := do
  let ending := { sub with cancelAtPeriodEnd := true }
  if settings.billingProvider = "razorpay" ∧ sub.providerSubscriptionId.getD "" ≠ "" then
    let remote ← cancelSubscription settings r.answer
    if remote.get "status" = .str "cancelled" ∧ (remote.get "current_end").truthy = false then
      return { ending with status := "CANCELLED" }
    else return ending
  else return ending

def cancel (ledger : Ledger) (r : Request) : Except Failure (Answer × Ledger) := do
  requireRoles ["ADMIN"] r.user
  match ledger.subscriptions.ofMerchant? r.user.merchantId with
  | none => .error (.http 404 "Subscription not found")
  | some sub =>
    let ending ← ended settings sub r
    return (.subscription ending, { ledger with subscriptions := ledger.subscriptions.put ending })

/-- The subscription of an invoice that is paid, where it waits for the payment. -/
def confirmed (ledger : Ledger) (invoice : BillingInvoice) : Option BillingSubscription :=
  ((invoice.subscriptionId.filter (· ≠ "")).bind ledger.subscriptions.get?).map fun sub =>
    if sub.status = "PENDING_ACTIVATION" then { sub with status := "ACTIVE" } else sub

def markPaid (ledger : Ledger) (r : Request) (invoiceId : String) : Except Failure (Answer × Ledger) := do
  requireRoles ["ADMIN"] r.user
  match (ledger.invoices.rows.filter fun row => row.merchantId = r.user.merchantId).find? fun row => row.id = invoiceId with
  | none => .error (.http 404 "Invoice not found")
  | some invoice =>
    manualOnly settings "Manual payment confirmation is disabled while Razorpay billing is enabled"
    if invoice.status = "PAID" then return (.paid invoice none, ledger)
    else
      let sub := confirmed ledger invoice
      return (.paid (invoice.settled r.now) (sub.map (·.status)),
        { ledger with
          invoices := ledger.invoices.settle invoice.id r.now
          subscriptions := (sub.map ledger.subscriptions.put).getD ledger.subscriptions })

def session (ledger : Ledger) (r : Request) : Operation → Except Failure (Answer × Ledger)
  | .overview => overview listing ledger r
  | .usage => currentUsage ledger r
  | .invoices => .ok (.invoices (invoicesOf listing ledger r.user.merchantId), ledger)
  | .checkout plan => (checkoutSession settings ledger (r.checkout plan)).map fun (reply, after) => (.checkout reply, after)
  | .verify paymentId subscriptionId signature => verifyRazorpayCheckout settings ledger r paymentId subscriptionId signature
  | .activate plan => activate settings ledger r plan
  | .cancel => cancel settings ledger r
  | .markPaid invoiceId => markPaid settings ledger r invoiceId

def serve (ledger : Ledger) (r : Request) (operation : Operation) : Except Failure Answer × Ledger :=
  match session settings listing ledger r operation with
  | .error failure => (.error failure, ledger)
  | .ok (answer, after) => (.ok answer, after)

/-! ## Events -/

/-- What happens to the ledger: a request of a user, or a delivery of the provider. -/
inductive BillingEvent where
  | request (r : Request) (operation : Operation)
  | webhook (d : Delivery)

def advance (ledger : Ledger) : BillingEvent → Ledger
  | .request r operation => (serve settings listing ledger r operation).2
  | .webhook d => deliver settings ledger d

end Operations
end RCAA.Billing
