import RCAA.Billing.Webhooks

/-! The checkout of a plan: the trial a workspace starts with, the subscription the
provider makes, and the invoice. A checkout that raises leaves the tables as they were;
audit events are left out. -/

namespace RCAA.Billing

/-! ## Plans -/

/-- A plan that can be bought. -/
inductive Plan where
  | starter
  | growth
  | business
deriving DecidableEq

namespace Plan

def code : Plan → String
  | .starter => "STARTER"
  | .growth => "GROWTH"
  | .business => "BUSINESS"

def name : Plan → String
  | .starter => "Starter"
  | .growth => "Growth"
  | .business => "Business"

def monthlyPrice : Plan → Decimal
  | .starter => ⟨999900, -2⟩
  | .growth => ⟨2499900, -2⟩
  | .business => ⟨4999900, -2⟩

def transactionLimit : Plan → Int
  | .starter => 100000
  | .growth => 500000
  | .business => 2000000

end Plan

def trialLimit : Int := 10000

/-! ## Months -/

/-- The day number of a date, the inverse of `civil`. -/
def dayNumber (year month dayOfMonth : Int) : Int :=
  let y := if month ≤ 2 then year - 1 else year
  let era := y / 400
  let yearOfEra := y - era * 400
  let dayOfYear := (153 * (month + if month > 2 then -3 else 9) + 2) / 5 + dayOfMonth - 1
  era * 146097 + (yearOfEra * 365 + yearOfEra / 4 - yearOfEra / 100 + dayOfYear) - 719468

def isLeap (year : Int) : Bool := year % 4 = 0 && (year % 100 ≠ 0 || year % 400 = 0)

/-- `calendar.monthrange(year, month)[1]`. -/
def monthDays (year month : Int) : Int :=
  if month = 2 then (if isLeap year then 29 else 28)
  else if month = 4 ∨ month = 6 ∨ month = 9 ∨ month = 11 then 30
  else 31

/-- `add_month`: the same day of the next month, or its last. -/
def addMonth (instant : Int) : Except Failure Int :=
  let (year, month, dayOfMonth) := civil (instant / DateTime.day)
  let (year, month) := if month = 12 then (year + 1, 1) else (year, month + 1)
  if year > 9999 then .error .raised
  else .ok (dayNumber year month (min dayOfMonth (monthDays year month)) * DateTime.day + instant % DateTime.day)

-- From 31 January 2024 at noon to 29 February.
example : addMonth 1706702400000000 = .ok 1709208000000000 := by decide

/-- A time some days later. -/
def plusDays (days instant : Int) : Except Failure Int :=
  if instant + days * DateTime.day > lastInstant then .error .raised else .ok (instant + days * DateTime.day)

/-! ## The provider -/

structure CheckoutRequest where
  plan : Plan
  merchantId : String
  email : String
  now : Int
  /-- The ids drawn for a subscription and an invoice. -/
  subscriptionId : String
  invoiceId : String
  /-- The provider's answer, or what its error says. -/
  answer : Except String RawData

def providerError (detail : String) : Failure := .http 502 detail

section Provider
variable (settings : BillingSettings)

def configuredPlan : Plan → String
  | .starter => settings.razorpayPlanStarter
  | .growth => settings.razorpayPlanGrowth
  | .business => settings.razorpayPlanBusiness

/-- `RazorpayBillingProvider.plan_id`. -/
def planId (plan : Plan) : Except Failure String :=
  if configuredPlan settings plan = "" then .error (providerError ("Razorpay plan is not configured for " ++ plan.code))
  else .ok (configuredPlan settings plan)

/-- `plan_[A-Za-z0-9]{14}`. -/
def isPlanId (text : String) : Bool :=
  startsWith text "plan_" && (text.toList.drop 5).length = 14 && (text.toList.drop 5).all Char.isAlphanum

/-- `RazorpayBillingProvider().create_subscription`. -/
def createSubscription (planId : String) (answer : Except String RawData) : Except Failure RawData :=
  if settings.razorpayKeyId = "" ∨ settings.razorpayKeySecret = "" then
    .error (providerError "Razorpay billing credentials are not configured")
  else if isPlanId planId = false then .error (providerError "Invalid Razorpay plan ID format")
  else answer.mapError providerError

end Provider

/-! ## The request -/

structure CheckoutData where
  provider : String := "RAZORPAY"
  keyId : String
  subscriptionId : Scalar
  shortUrl : Scalar
  name : String := "RCAA"
  description : String
  email : String
deriving DecidableEq

structure CheckoutReply where
  subscription : BillingSubscription
  invoice : BillingInvoice
  checkout : Option CheckoutData
  nextStep : String
deriving DecidableEq

section Checkout
variable [WebhookRuntime] (settings : BillingSettings)

/-- `ensure_trial`. -/
def ensureTrial (subscriptions : Subscriptions) (r : CheckoutRequest) : Except Failure (BillingSubscription × Subscriptions) :=
  match subscriptions.ofMerchant? r.merchantId with
  | some sub => .ok (sub, subscriptions)
  | none => do
    let finish ← addMonth r.now
    let sub : BillingSubscription := {
      id := r.subscriptionId
      merchantId := r.merchantId
      planCode := "TRIAL"
      monthlyPrice := ⟨0, -2⟩
      monthlyTransactionLimit := some trialLimit
      currentPeriodStart := r.now
      currentPeriodEnd := finish }
    return (sub, ← subscriptions.insert sub)

/-- What a workspace that has a subscription may not buy. -/
def refused (sub : BillingSubscription) (plan : Plan) : Option Failure :=
  if sub.status = "ACTIVE" ∧ sub.planCode = plan.code then some (.http 409 "This plan is already active")
  else if sub.provider = "RAZORPAY" ∧ sub.providerSubscriptionId.getD "" ≠ "" ∧
      sub.status ∈ ["PENDING_ACTIVATION", "ACTIVE", "PAST_DUE"] then
    some (.http 409 "An existing Razorpay subscription is already associated with this workspace")
  else none

/-- The subscription with the plan, before the provider is asked. -/
def planned (sub : BillingSubscription) (r : CheckoutRequest) (finish : Int) : BillingSubscription :=
  { sub with
    planCode := r.plan.code
    monthlyPrice := r.plan.monthlyPrice
    monthlyTransactionLimit := some r.plan.transactionLimit
    currentPeriodStart := r.now
    currentPeriodEnd := finish
    cancelAtPeriodEnd := false }

/-- The subscription as the provider or, without one, the checkout makes it. -/
def provided (sub : BillingSubscription) (r : CheckoutRequest) : Except Failure (BillingSubscription × Option CheckoutData) := do
  if settings.billingProvider = "razorpay" then
    let plan ← planId settings r.plan
    let remote ← createSubscription settings plan r.answer
    let subscriptionId ← raising (column (.scalar (remote.get "id")))
    let customerId ← raising (column (.scalar (remote.get "customer_id")))
    let sold : BillingSubscription := { sub with
      provider := "RAZORPAY"
      providerPlanId := some plan
      providerSubscriptionId := subscriptionId
      providerCustomerId := customerId
      status := "PENDING_ACTIVATION" }
    return (sold, some {
      keyId := settings.razorpayKeyId
      subscriptionId := remote.get "id"
      shortUrl := remote.get "short_url"
      description := "RCAA " ++ r.plan.name ++ " monthly subscription"
      email := r.email })
  else return ({ sub with provider := "MANUAL", status := "PENDING_ACTIVATION" }, none)

/-- `create_invoice`. -/
def createInvoice (invoiceId : String) (now : Int) (invoices : Invoices) (sub : BillingSubscription) :
    Except Failure (BillingInvoice × Invoices) := do
  let due ← plusDays 7 now
  let invoice : BillingInvoice := {
    id := invoiceId
    merchantId := sub.merchantId
    subscriptionId := some sub.id
    invoiceNumber := nextInvoiceNumber now invoices sub.merchantId
    currency := sub.currency
    subtotal := sub.monthlyPrice
    total := sub.monthlyPrice.add ⟨0, -2⟩
    issuedAt := now
    dueAt := due
    provider := sub.provider }
  return (invoice, ← invoices.insert invoice)

def nextStep (checkout : Option CheckoutData) : String :=
  if checkout.isSome then "Complete the Razorpay checkout to authorize the subscription."
  else "Contact RCAA support to activate the subscription after payment confirmation."

/-- The checkout, which commits once. -/
def checkoutSession (ledger : Ledger) (r : CheckoutRequest) : Except Failure (CheckoutReply × Ledger) := do
  let (sub, subscriptions) ← ensureTrial ledger.subscriptions r
  match refused sub r.plan with
  | some failure => .error failure
  | none =>
    let finish ← addMonth r.now
    let (sold, checkout) ← provided settings (planned sub r finish) r
    let (invoice, invoices) ← createInvoice r.invoiceId r.now ledger.invoices sold
    return (⟨sold, invoice, checkout, nextStep checkout⟩,
      { ledger with subscriptions := subscriptions.put sold, invoices })

/-- `checkout`. -/
def checkout (ledger : Ledger) (r : CheckoutRequest) : Except Failure CheckoutReply × Ledger :=
  match checkoutSession settings ledger r with
  | .error failure => (.error failure, ledger)
  | .ok (reply, after) => (.ok reply, after)

end Checkout
end RCAA.Billing
