import RCAA.Library.OffsetPages
import RCAA.Workspaces.Onboarding

/-! How far a workspace has come, as its users and the customer success team are shown it: the
steps of its activation, its health, and the portfolio of all workspaces. None of the requests
writes. -/

namespace RCAA.Workspaces
open Api (requireRoles)
open Billing (BillingSubscription)
open OffsetPages (Listing)
open Security (Failure User)

/-- The percentage of the parts that are done. There are four, so nothing is rounded. -/
def scoreOf (parts : List Bool) : Nat := 100 * parts.count true / parts.length

section Reads
variable (office : Office) (merchantId : String)

/-- `onboarding.status == 'COMPLETED'`. -/
def onboardingCompleted : Bool := (office.onboarding.ofMerchant? merchantId).any (·.status = "COMPLETED")

def subscriptionOf : Option BillingSubscription := office.ledger.subscriptions.ofMerchant? merchantId

def uploadCount : Nat := office.uploads.countP fun upload => upload.merchantId = merchantId

def casesOf (status : CaseStatus) : Nat :=
  office.desk.cases.countP fun row => row.merchantId = some merchantId ∧ row.status = status.value

def overdueInvoices (now : Int) : Nat :=
  office.ledger.invoices.rows.countP fun row => row.merchantId = merchantId ∧ row.status = "PENDING" ∧ row.dueAt < now

/-- The workspace has a paid plan in one of the statuses. -/
def paidPlan (statuses : List String) : Bool :=
  (subscriptionOf office merchantId).any fun sub => sub.planCode ≠ "TRIAL" && sub.status ∈ statuses

end Reads

/-! ## Activation -/

structure ActivationStep where
  key : String
  label : String
  complete : Bool
deriving DecidableEq

structure Activation where
  planCode : Option String
  status : Option String
  trialExpired : Bool
  daysRemaining : Option Int
  activationScore : Nat
  steps : List ActivationStep
  recommendedPlan : String
deriving DecidableEq

def activationSteps (office : Office) (merchantId : String) : List ActivationStep := [
  ⟨"onboarding", "Complete workspace onboarding", onboardingCompleted office merchantId⟩,
  ⟨"data", "Upload your first reconciliation dataset", 0 < uploadCount office merchantId⟩,
  ⟨"reconciliation", "Create your first reconciliation exception",
    office.desk.exceptions.any fun row => row.merchantId = some merchantId⟩,
  ⟨"plan", "Choose a paid plan", paidPlan office merchantId ["ACTIVE", "PENDING_ACTIVATION"]⟩]

/-- The days from the date of one time to that of another. -/
def daysUntil (now finish : Int) : Int := max 0 (finish / DateTime.day - now / DateTime.day)

def activation (office : Office) (user : User) (now : Int) : Activation :=
  let sub := subscriptionOf office user.merchantId
  let steps := activationSteps office user.merchantId
  { planCode := sub.map (·.planCode)
    status := sub.map (·.status)
    trialExpired := sub.any fun sub => sub.status = "TRIAL" && sub.currentPeriodEnd ≤ now
    daysRemaining := sub.map fun sub => daysUntil now sub.currentPeriodEnd
    activationScore := scoreOf (steps.map (·.complete))
    steps
    recommendedPlan := ((sub.filter (·.planCode ≠ "TRIAL")).map (·.planCode)).getD "STARTER" }

/-! ## Health -/

structure WorkspaceHealth where
  health : String
  healthScore : Nat
  nextAction : String
  openCases : Nat
  resolvedCases : Nat
  uploads : Nat
  overdueInvoices : Nat
  planCode : Option String
  subscriptionStatus : Option String
deriving DecidableEq

/-- The name of a score, and what to do next. -/
def healthOf (score : Nat) : String × String :=
  if score < 50 then ("ONBOARDING", "Finish onboarding and upload the first reconciliation dataset.")
  else if score < 100 then ("ACTIVE", "Run reconciliation regularly and move to a paid plan when ready.")
  else ("HEALTHY", "Keep reconciliation running and review exceptions on a regular cadence.")

def healthChecks (office : Office) (merchantId : String) : List Bool := [
  onboardingCompleted office merchantId,
  0 < uploadCount office merchantId,
  0 < casesOf office merchantId .resolved || 0 < casesOf office merchantId .opened,
  paidPlan office merchantId ["ACTIVE"]]

def workspaceHealth (office : Office) (user : User) (now : Int) : WorkspaceHealth :=
  let sub := subscriptionOf office user.merchantId
  let score := scoreOf (healthChecks office user.merchantId)
  let overdue := overdueInvoices office user.merchantId now
  let (health, nextAction) :=
    if 0 < overdue then ("ATTENTION", "Review the outstanding invoice and billing status.") else healthOf score
  { health
    healthScore := score
    nextAction
    openCases := casesOf office user.merchantId .opened
    resolvedCases := casesOf office user.merchantId .resolved
    uploads := uploadCount office user.merchantId
    overdueInvoices := overdue
    planCode := sub.map (·.planCode)
    subscriptionStatus := sub.map (·.status) }

/-! ## The portfolio -/

structure PortfolioRow where
  merchantId : String
  companyName : String
  email : String
  planCode : Option String
  subscriptionStatus : Option String
  monthlyPrice : Rat
  health : String
  healthScore : Nat
  uploads : Nat
  openCases : Nat
  createdAt : Int
deriving DecidableEq

structure Portfolio where
  items : List PortfolioRow
  customers : Nat
  activeCustomers : Nat
  trialCustomers : Nat
  attentionCustomers : Nat
  mrr : Rat
deriving DecidableEq

def portfolioParts (office : Office) (merchantId : String) : List Bool := [
  onboardingCompleted office merchantId,
  0 < uploadCount office merchantId,
  0 < casesOf office merchantId .opened || 0 < uploadCount office merchantId,
  paidPlan office merchantId ["ACTIVE"]]

def portfolioRow (office : Office) (merchant : Merchant) : PortfolioRow :=
  let sub := subscriptionOf office merchant.id
  let score := scoreOf (portfolioParts office merchant.id)
  { merchantId := merchant.id
    companyName := merchant.name
    email := merchant.email
    planCode := sub.map (·.planCode)
    subscriptionStatus := sub.map (·.status)
    -- A price is a float here, which holds those of the plans.
    monthlyPrice := (sub.map (·.monthlyPrice.toRat)).getD 0
    health := if sub.any (·.status = "PAST_DUE") then "ATTENTION" else (healthOf score).1
    healthScore := score
    uploads := uploadCount office merchant.id
    openCases := casesOf office merchant.id .opened
    createdAt := merchant.createdAt }

def customerPortfolio (listing : Listing Merchant.createdAt) (office : Office) (user : User) : Except Failure Portfolio := do
  requireRoles ["ADMIN"] user
  let rows := (listing.list office.merchants.rows).map (portfolioRow office)
  let active := rows.filter (·.subscriptionStatus = some "ACTIVE")
  return {
    items := rows
    customers := rows.length
    activeCustomers := active.length
    trialCustomers := rows.countP (·.planCode = some "TRIAL")
    attentionCustomers := rows.countP (·.health = "ATTENTION")
    mrr := (active.map (·.monthlyPrice)).sum }

end RCAA.Workspaces
