import RCAA.Audit.Models
import RCAA.Billing.Requests
import RCAA.Connectors.Models
import RCAA.Ingestion.Uploads

/-! The workspaces of the merchants: the sign-up that makes one, and its onboarding from the
profile of the business to the first reconciliation. A request that fails leaves the tables as
they were, but for the counters of the sign-up. Audit events, cookies and the address of the
sender in them are left out. -/

namespace RCAA.Workspaces
open Api (requireRoles)
open Audit (AuditEvent)
open Billing (Ledger)
open Connectors (DataConnector)
open Security (Accounts AuthRuntime AuthSettings Failure Origin Reply RequestDraws User fits)

/-! ## Tables -/

structure Merchant where
  id : String
  name : String
  email : String
  createdAt : Int
deriving DecidableEq

structure Merchants where
  rows : List Merchant := []
  ids : (rows.map (·.id)).Nodup := by exact List.nodup_nil
  emails : (rows.map (·.email)).Nodup := by exact List.nodup_nil

namespace Merchants

def get? (table : Merchants) (id : String) : Option Merchant := table.rows.find? fun merchant => merchant.id = id
def byEmail? (table : Merchants) (email : String) : Option Merchant := table.rows.find? fun merchant => merchant.email = email

def insert (table : Merchants) (merchant : Merchant) : Except Failure Merchants :=
  if accepted : merchant.id ∉ table.rows.map (·.id) ∧ merchant.email ∉ table.rows.map (·.email) then
    .ok {
      rows := table.rows ++ [merchant]
      ids := KeyedRows.nodup_snoc _ table.ids accepted.1
      emails := KeyedRows.nodup_snoc _ table.emails accepted.2 }
  else .error .integrity

end Merchants

inductive BusinessType where
  | d2cEcommerce | saas | marketplace | edtech | healthcare | other
deriving DecidableEq

inductive TransactionBand where
  | under10k | from10kTo100k | from100kTo1m | from1mTo5m | over5m
deriving DecidableEq

inductive PrimaryProvider where
  | razorpay | stripe | cashfree | payu | other
deriving DecidableEq

structure OnboardingProfile where
  businessType : BusinessType
  monthlyTransactionBand : TransactionBand
  primaryProvider : PrimaryProvider
deriving DecidableEq

/-- The profile is empty or whole: its three columns are set together. -/
structure MerchantOnboarding where
  id : String
  merchantId : String
  profile : Option OnboardingProfile := none
  status : String := "IN_PROGRESS"
  completedAt : Option Int := none
deriving DecidableEq

structure Onboardings where
  rows : List MerchantOnboarding := []
  ids : (rows.map (·.id)).Nodup := by exact List.nodup_nil
  merchants : (rows.map (·.merchantId)).Nodup := by exact List.nodup_nil

namespace Onboardings

def ofMerchant? (table : Onboardings) (merchantId : String) : Option MerchantOnboarding :=
  table.rows.find? fun row => row.merchantId = merchantId

def insert (table : Onboardings) (row : MerchantOnboarding) : Except Failure Onboardings :=
  if accepted : row.id ∉ table.rows.map (·.id) ∧ row.merchantId ∉ table.rows.map (·.merchantId) then
    .ok {
      rows := table.rows ++ [row]
      ids := KeyedRows.nodup_snoc _ table.ids accepted.1
      merchants := KeyedRows.nodup_snoc _ table.merchants accepted.2 }
  else .error .integrity

/-- What a request sets in the row of a merchant. -/
def set (profile : Option OnboardingProfile) (status : String) (completedAt : Option Int) (row : MerchantOnboarding) : MerchantOnboarding :=
  { row with profile, status, completedAt }

def write (table : Onboardings) (merchantId : String) (profile : Option OnboardingProfile) (status : String)
    (completedAt : Option Int) : Onboardings where
  rows := KeyedRows.update MerchantOnboarding.merchantId merchantId (set profile status completedAt) table.rows
  ids := by
    have fixed : ∀ row, (set profile status completedAt row).id = row.id := fun _ => rfl
    simpa only [KeyedRows.map_update MerchantOnboarding.merchantId fixed] using table.ids
  merchants := by
    have fixed : ∀ row, (set profile status completedAt row).merchantId = row.merchantId := fun _ => rfl
    simpa only [KeyedRows.map_update MerchantOnboarding.merchantId fixed] using table.merchants

end Onboardings

/-- The tables the requests read. The ledger holds the financial records too. -/
structure Office where
  accounts : Accounts := {}
  merchants : Merchants := {}
  onboarding : Onboardings := {}
  ledger : Ledger := {}
  desk : Desk := {}
  uploads : List DataUpload := []
  connectors : List DataConnector := []
  audit : List AuditEvent := []

/-! ## The state of an onboarding -/

structure Counts where
  payments : Nat
  settlements : Nat
  bankTransactions : Nat
  exceptions : Nat
  connectors : Nat
  reconciliations : Nat
deriving DecidableEq

/-- `_counts`. -/
def counts (office : Office) (merchantId : String) : Counts where
  payments := office.ledger.database.store.payments.countP fun row => row.merchantId = some merchantId
  settlements := office.ledger.database.store.settlements.countP fun row => row.merchantId = some merchantId
  bankTransactions := office.ledger.database.store.bankTransactions.countP fun row => row.merchantId = some merchantId
  exceptions := office.desk.exceptions.countP fun row => row.merchantId = some merchantId
  connectors := office.connectors.countP fun row => row.merchantId = merchantId ∧ row.status = .connected
  reconciliations := office.audit.countP fun row =>
    row.merchantId = some merchantId ∧ row.action = "RECONCILIATION_COMPLETED" ∧ row.outcome = "SUCCESS"

/-- `_profile`, with the id of a row it makes. -/
def profileOf (office : Office) (merchantId id : String) : Except Failure (MerchantOnboarding × Office) :=
  match office.onboarding.ofMerchant? merchantId with
  | some row => .ok (row, office)
  | none =>
    let row : MerchantOnboarding := { id, merchantId }
    (office.onboarding.insert row).map fun onboarding => (row, { office with onboarding })

structure OnboardingStep where
  key : String
  title : String
  description : String
  complete : Bool
deriving DecidableEq

structure OnboardingView where
  status : String
  completedAt : Option Int
  merchantId : String
  merchantName : Option String
  merchantEmail : Option String
  profile : Option OnboardingProfile
  counts : Counts
  recommendedPath : String
  steps : List OnboardingStep
  readyToComplete : Bool
  complete : Bool

/-- The payments and settlements of a merchant are there. -/
def dataReady (counts : Counts) : Bool := 0 < counts.payments && 0 < counts.settlements

/-- `_view` of a row. -/
def viewOf (office : Office) (user : User) (row : MerchantOnboarding) : OnboardingView :=
  let merchant := office.merchants.get? user.merchantId
  let counts := counts office user.merchantId
  let firstRunComplete : Bool := 0 < counts.reconciliations
  { status := row.status
    completedAt := row.completedAt
    merchantId := (merchant.map (·.id)).getD user.merchantId
    merchantName := merchant.map (·.name)
    merchantEmail := merchant.map (·.email)
    profile := row.profile
    counts
    recommendedPath := if row.profile.any (·.primaryProvider = .razorpay) then "RAZORPAY_CONNECTOR" else "FILE_IMPORT"
    steps := [
      ⟨"profile", "Business profile", "Tell RCAA what kind of operation you're reconciling.", row.profile.isSome⟩,
      ⟨"data", "Connect your data",
        "Use the Razorpay connector or import payments and settlements before the first run.", dataReady counts⟩,
      ⟨"reconciliation", "Run reconciliation", "Run the deterministic reconciliation engine on your data.", firstRunComplete⟩,
      ⟨"review", "Review exceptions", "Open the exception queue and investigate any breaks.",
        firstRunComplete && 0 ≤ counts.exceptions⟩]
    readyToComplete := row.profile.isSome && dataReady counts && firstRunComplete
    complete := row.status = "COMPLETE" }

/-! ## The requests of a workspace -/

/-- Who asks and when, and the id of a row that is made. -/
structure Request where
  user : User
  now : Int
  onboardingId : String

structure Guide where
  title : String := "Your first reconciliation"
  principle : String :=
    "Upload or connect data, reconcile deterministic financial truth, investigate exceptions, resolve them, and report."
  steps : List OnboardingStep
  recommendedPath : String
  nextAction : Option OnboardingStep

/-- `onboarding_guide`; a row it makes is not committed. -/
def onboardingGuide (office : Office) (r : Request) : Except Failure Guide :=
  (profileOf office r.user.merchantId r.onboardingId).map fun (row, after) =>
    let view := viewOf after r.user row
    { steps := view.steps
      recommendedPath := view.recommendedPath
      nextAction := (view.steps.find? (!·.complete)) <|> view.steps.getLast? }

def getOnboarding (office : Office) (r : Request) : Except Failure (OnboardingView × Office) :=
  (profileOf office r.user.merchantId r.onboardingId).map fun (row, after) => (viewOf after r.user row, after)

def updateProfile (office : Office) (r : Request) (payload : OnboardingProfile) : Except Failure (OnboardingView × Office) := do
  requireRoles ["ADMIN"] r.user
  let (row, after) ← profileOf office r.user.merchantId r.onboardingId
  let reopened := row.status = "COMPLETE"
  let changed := Onboardings.set (some payload) (if reopened then "IN_PROGRESS" else row.status)
    (if reopened then none else row.completedAt) row
  let written : Office := { after with
    onboarding := after.onboarding.write r.user.merchantId changed.profile changed.status changed.completedAt }
  return (viewOf written r.user changed, written)

def notReady : Failure :=
  .http 409 "Complete the business profile, import payment and settlement data, and run reconciliation before finishing onboarding."

def completeOnboarding (office : Office) (r : Request) : Except Failure (OnboardingView × Office) := do
  requireRoles ["ADMIN"] r.user
  let (row, after) ← profileOf office r.user.merchantId r.onboardingId
  if (viewOf after r.user row).readyToComplete = false then .error notReady
  else
    let changed := Onboardings.set row.profile "COMPLETE" (some r.now) row
    let written : Office := { after with
      onboarding := after.onboarding.write r.user.merchantId changed.profile changed.status changed.completedAt }
    return (viewOf written r.user changed, written)

/-! ## Sign-up -/

structure SignupSettings extends AuthSettings where
  rateLimitSignupIp : Int := 20
  rateLimitSignupEmail : Int := 5
  rateLimitSignupWindowSeconds : Int := 3600

structure SignupRequest where
  companyName : String
  name : String
  email : String
  password : String

/-- The ids of the rows a sign-up makes, and what its session draws. -/
structure SignupDraws where
  merchantId : String
  userId : String
  onboardingId : String
  subscriptionId : String
  request : RequestDraws

structure Signup where
  payload : SignupRequest
  origin : Origin
  now : Int
  draws : SignupDraws

/-- `^[^@\s]+@[^@\s]+\.[^@\s]+$` -/
def isEmail (isSpace : Char → Bool) (text : String) : Bool :=
  let name := text.toList.takeWhile (· ≠ '@')
  let domain := text.toList.dropWhile (· ≠ '@')
  -- A dot that has something before it and after it.
  let dotted : Bool := '.' ∈ (domain.drop 2).dropLast
  !text.toList.any isSpace && name ≠ [] && text.toList.count '@' = 1 && dotted

section Signup
variable [AuthRuntime] (isSpace : Char → Bool) (settings : SignupSettings)

/-- The rows of a new workspace: its merchant, an administrator, the onboarding and the trial. -/
def openWorkspace (office : Office) (s : Signup) (email : String) : Except Failure (User × Office) := do
  let merchants ← office.merchants.insert ⟨s.draws.merchantId, strip s.payload.companyName, email, s.now⟩
  let passwordHash ← Security.hashPassword s.draws.request.salt s.payload.password
  let user : User := { id := s.draws.userId, email, passwordHash, merchantId := s.draws.merchantId, role := "ADMIN" }
  let users ← office.accounts.users.insert user
  let onboarding ← office.onboarding.insert { id := s.draws.onboardingId, merchantId := s.draws.merchantId }
  let trial : Billing.CheckoutRequest := {
    plan := .starter
    merchantId := s.draws.merchantId
    email
    now := s.now
    subscriptionId := s.draws.subscriptionId
    invoiceId := ""
    answer := .error "" }
  let (_, subscriptions) ← Billing.ensureTrial office.ledger.subscriptions trial
  return (user, { office with
    accounts := { office.accounts with users }
    merchants
    onboarding
    ledger := { office.ledger with subscriptions } })

/-- The reply to a new workspace, with the tables of its session. -/
def admitted (s : Signup) (user : User) (office : Office) : Except Failure (Reply × Office) :=
  if user.role ∈ settings.mfaRequiredRoles then
    (Security.mfaSetupToken settings.toAuthSettings s.now s.draws.request.nonce user).map fun token => (.mfaSetupRequired token, office)
  else
    (office.accounts.issue settings.toAuthSettings s.draws.request s.now user (some s.origin.address) s.origin.userAgent).map
      fun (reply, accounts) => (reply, { office with accounts })

/-- The counters after the two limits, and whether they admit the call. -/
def signupLimits (office : Office) (s : Signup) (email : String) : Except Failure Unit × Office :=
  let limit (office : Office) (key : String) (most : Int) :=
    let (answer, limits) := Security.enforceRateLimit settings.toAuthSettings s.now office.accounts.limits "signup" key most
      settings.rateLimitSignupWindowSeconds
    (answer, { office with accounts := { office.accounts with limits } })
  match limit office ("ip:" ++ s.origin.address) settings.rateLimitSignupIp with
  | (.error failure, office) => (.error failure, office)
  | (.ok (), office) => limit office ("email:" ++ email) settings.rateLimitSignupEmail

/-- `signup`. -/
def signup (office : Office) (s : Signup) : Except Failure Reply × Office :=
  if !fits 2 120 s.payload.companyName ∨ !fits 2 100 s.payload.name ∨ !fits 5 254 s.payload.email ∨ !fits 10 128 s.payload.password then
    (.error .validation, office)
  else
    let email := lower (strip s.payload.email)
    match signupLimits settings office s email with
    | (.error failure, office) => (.error failure, office)
    | (.ok (), office) =>
      if !isEmail isSpace email then (.error (.http 422 "Enter a valid email address"), office)
      else if (office.accounts.users.byEmail? email).isSome ∨ (office.merchants.byEmail? email).isSome then
        (.error (.http 409 "An account already exists for this email"), office)
      else match (do let (user, opened) ← openWorkspace office s email; admitted settings s user opened) with
        | .error failure => (.error failure, office)
        | .ok (reply, after) => (.ok reply, after)

end Signup
end RCAA.Workspaces
