import RCAA.Api.Lists
import RCAA.Cases.Lifecycle
import RCAA.Security.Routes

/-! The requests on the case desk: opening, reading and working on a case, running the
reconciliation and handling its exceptions. Each answers a user, whose merchant and role
the route checks, and leaves the desk as committed. The evidence and the root cause of a
case, audit events and notifications are left out. -/

namespace RCAA.Api
open Cases
open Security (AuthSettings Failure User fits)

/-! ## Guards -/

def requireRoles (roles : List String) (user : User) : Except Failure Unit :=
  if user.role ∈ roles then .ok () else .error (.http 403 "Insufficient permissions")

/-- The body is of its model. -/
def requireBody (valid : Bool) : Except Failure Unit := if valid then .ok () else .error .validation

def ensureMerchant (value : Option String) (user : User) : Except Failure Unit :=
  if (given value).any (· ≠ user.merchantId) then .error (.http 404 "Resource not found") else .ok ()

/-- What the error handlers make of what an operation on a case raises. -/
def failureOf : CaseError → Failure
  | .business message => .http 400 message
  | .notFound => .http 404 "Case not found"
  | .integrity => .integrity
  | .value => .raised

section Guards
variable (auth : AuthSettings) (user : User)

/-- `_case`. -/
def caseOf (desk : Desk) (caseId : String) : Except Failure CaseRow :=
  match (visible auth user (fun c : CaseRow => c.merchantId) desk.cases).find? fun c => c.id = caseId with
  | none => .error (.http 404 "Case not found")
  | some case => .ok case

def exceptionOf (desk : Desk) (exceptionId : String) (missing : Failure) : Except Failure ReconciliationException :=
  match (visible auth user (fun e : ReconciliationException => e.merchantId) desk.exceptions).find? fun e => e.id = exceptionId with
  | none => .error missing
  | some exception => .ok exception

/-- The merchant a run is for; the fixture of the tests runs for all. -/
def runMerchant : Option String := if testAdminBypass auth user then none else some user.merchantId

end Guards

/-! ## Answers -/

/-- `_detail`; the recovery record it makes where there is none is not committed. -/
structure CaseDetail where
  case : CaseRow
  exceptions : List ReconciliationException
  notes : List CaseNote
  timeline : List CaseEvent
  recovery : RecoveryRecord

def detail (keys : KeySource) (now : Int) (desk : Desk) (case : CaseRow) : CaseDetail where
  case := case
  exceptions := desk.exceptions.filter fun e => desk.linked case.id e.id
  notes := desk.notes.filter fun n => n.caseId = case.id
  timeline := desk.timeline case.id
  recovery := (ensureRecovery keys now desk case).1

inductive Answer where
  | detail (detail : CaseDetail) (created : Option Bool)
  | case (row : CaseRow)
  | recovery (row : RecoveryRecord)
  | note (row : CaseNote)
  | exception (row : ReconciliationException)
  | generated (report : Exceptions.GenerationReport)

/-! ## Requests -/

/-- The routes below one case. -/
inductive CaseRoute where
  | recovery
  | initiate (body : RecoveryRequest)
  | verify (bankTransactionId : String) (verificationNote : Option String)
  | unrecoverable (note : String)
  | assign (assignedTo : Option String)
  | notes (note : String) (authorReference : Option String)
  | start
  | resolve (resolutionCode resolutionNote : Option String)
  | reopen
  | exceptions (exceptionId : String)

namespace CaseRoute

def operation : CaseRoute → CaseOperation
  | .recovery => .ensureRecovery
  | .initiate body => .initiateRecovery body
  | .verify bankTransactionId note => .verifyRecovery bankTransactionId note
  | .unrecoverable note => .markUnrecoverable note
  | .assign assignedTo => .assignCase assignedTo
  | .notes note authorReference => .addNote note authorReference
  | .start => .transition "IN_PROGRESS" none none
  | .resolve resolutionCode resolutionNote => .transition "RESOLVED" resolutionCode resolutionNote
  | .reopen => .transition "REOPENED" none none
  | .exceptions exceptionId => .attachException exceptionId

def roles : CaseRoute → Option (List String)
  | .recovery => none
  | _ => some ["ADMIN", "OPS"]

/-- The bounds of the request's model. -/
def valid : CaseRoute → Bool
  | .initiate body => (body.recoverableAmount.all fun amount => Decimal.zero.le amount) && fits 1 100 body.actionType &&
      body.externalReference.all (fits 0 200) && body.actionNote.all (fits 0 5000)
  | .verify _ note => note.all (fits 0 5000)
  | .unrecoverable note => fits 1 5000 note
  | .notes note _ => fits 1 10000 note
  | _ => true

end CaseRoute

inductive DeskRequest where
  | createCase (args : CaseArguments)
  | getCase (caseId : String)
  | onCase (caseId : String) (route : CaseRoute)
  | reconcile
  | acknowledgeException (exceptionId : String)
  | resolveException (exceptionId : String)

/-- The exception under another status; the time it is written at is left out. -/
def handled (status : String) (e : ReconciliationException) : ReconciliationException := { e with status }

def handleException (desk : Desk) (exceptionId status : String) : Desk :=
  have ids : ∀ e, (handled status e).id = e.id := fun _ => rfl
  have texts : ∀ e, (handled status e).fingerprint = e.fingerprint := fun _ => rfl
  have named : ∀ e, (handled status e).reconciliationCaseId = e.reconciliationCaseId := fun _ => rfl
  { desk with
    exceptions := KeyedRows.update (·.id) exceptionId (handled status) desk.exceptions
    exceptionIds := by rw [KeyedRows.map_update _ ids]; exact desk.exceptionIds
    exceptionFingerprints := by rw [KeyedRows.map_update _ texts]; exact desk.exceptionFingerprints
    reconciliationCases := desk.reconciliationCases.kept (·.id) named
    linkedExceptions := by rw [KeyedRows.map_update _ ids]; exact desk.linkedExceptions }

section Serving
variable [Platform] [Hashing] [Exceptions.ExceptionHashing]
variable (settings : Settings) (auth : AuthSettings) (keys : KeySource) (now : Int) (user : User)

abbrev Served := Except Failure Answer × Desk

/-- `create_case_api`. -/
def createCaseApi (desk : Desk) (args : CaseArguments) : Served :=
  let admitted : Except Failure Unit := do
    requireRoles ["ADMIN", "OPS"] user
    if !testAdminBypass auth user then ensureMerchant args.merchantId user
    if let some exceptionId := given args.exceptionId then
      let _ ← exceptionOf auth user desk exceptionId (.http 400 "Exception not found")
  let merchantId := if testAdminBypass auth user && (given args.merchantId).isSome then args.merchantId else some user.merchantId
  match admitted with
  | .error failure => (.error failure, desk)
  | .ok _ => match Cases.createCase settings keys now desk { args with merchantId } with
    | .error e => (.error (failureOf e), desk)
    | .ok (case, created, after) => (.ok (.detail (detail keys now after case) (some created)), after)

def CaseRoute.permitted (route : CaseRoute) : Except Failure Unit :=
  match route.roles with
  | none => .ok ()
  | some roles => requireRoles roles user

/-- The row that the body names besides the case is one of the merchant. -/
def CaseRoute.referenced (bank : List BankTransaction) (desk : Desk) (case : CaseRow) : CaseRoute → Except Failure Unit
  | .verify bankTransactionId _ =>
    if (merchantBank bank case bankTransactionId).isNone then .error (.http 404 "Bank transaction not found") else .ok ()
  | .exceptions exceptionId => (exceptionOf auth user desk exceptionId (.http 400 "Exception not found")).map fun _ => ()
  | _ => .ok ()

/-- The case a request may work on. -/
def routedCase (bank : List BankTransaction) (desk : Desk) (caseId : String) (route : CaseRoute) : Except Failure CaseRow := do
  route.permitted user
  requireBody route.valid
  let case ← caseOf auth user desk caseId
  route.referenced auth user bank desk case
  return case

/-- What a route answers when its operation has left the desk. -/
def answerOf (before after : Desk) (case : CaseRow) : CaseRoute → Answer
  | .recovery | .initiate _ | .verify .. | .unrecoverable _ => .recovery (ensureRecovery keys now after case).1
  | .notes note authorReference =>
    .note ⟨keys.draw (before.notes.map CaseNote.id), case.id, authorReference, strip note, now⟩
  | .exceptions _ => .detail (detail keys now after ((after.case? case.id).getD case)) none
  | .assign _ | .start | .resolve .. | .reopen => .case ((after.case? case.id).getD case)

def caseApi (bank : List BankTransaction) (desk : Desk) (caseId : String) (route : CaseRoute) : Served :=
  match routedCase auth user bank desk caseId route with
  | .error failure => (.error failure, desk)
  | .ok case =>
    let after := operate keys now bank desk case route.operation
    ((outcome keys now bank desk case route.operation).mapError failureOf |>.map fun _ => answerOf keys now desk after case route,
      after)

def getCaseApi (desk : Desk) (caseId : String) : Served :=
  ((caseOf auth user desk caseId).map fun case => .detail (detail keys now desk case) none, desk)

/-- The cases of the run are committed before the exceptions are generated. -/
def generateFor (batches : List IngestionBatch) (merchantId : Option String) (desk : Desk) : Served :=
  match Exceptions.generateExceptions settings keys batches desk merchantId with
  | .error e => (.error (failureOf e), desk)
  | .ok (report, after) => (.ok (.generated report), after)

def runFor (s : System) (order : SetOrder) (merchantId : Option String) : Except Failure Desk :=
  match survey order settings s.database.store merchantId with
  | .error _ => .error .raised
  | .ok survey => (survey.findings.requests.foldlM (recordCase settings keys now) s.desk).mapError failureOf

def reconcileApi (s : System) (order : SetOrder) : Served :=
  match requireRoles ["ADMIN", "OPS", "ANALYST"] user with
  | .error failure => (.error failure, s.desk)
  | .ok _ => match runFor settings keys now s order (runMerchant auth user) with
    | .error failure => (.error failure, s.desk)
    | .ok desk => generateFor settings keys s.database.batches (runMerchant auth user) desk

def exceptionApi (desk : Desk) (exceptionId status : String) : Served :=
  let admitted : Except Failure ReconciliationException := do
    requireRoles ["ADMIN", "OPS"] user
    exceptionOf auth user desk exceptionId (.http 404 "Exception not found")
  match admitted with
  | .error failure => (.error failure, desk)
  | .ok exception => (.ok (.exception (handled status exception)), handleException desk exception.id status)

def serve (s : System) (order : SetOrder) : DeskRequest → Served
  | .createCase args => createCaseApi settings auth keys now user s.desk args
  | .getCase caseId => getCaseApi auth keys now user s.desk caseId
  | .onCase caseId route => caseApi auth keys now user s.database.store.bankTransactions s.desk caseId route
  | .reconcile => reconcileApi settings auth keys now user s order
  | .acknowledgeException exceptionId => exceptionApi auth user s.desk exceptionId "ACKNOWLEDGED"
  | .resolveException exceptionId => exceptionApi auth user s.desk exceptionId "RESOLVED"

/-! ## Runs of the service -/

/-- A request, a reconciliation job of a merchant, which may generate exceptions after its
run, or anything that ingestion leaves in the database. -/
inductive Event where
  | request (keys : KeySource) (now : Int) (order : SetOrder) (user : User) (request : DeskRequest)
  | job (keys : KeySource) (now : Int) (order : SetOrder) (merchant : String) (generates : Bool)
  | stored (database : Database)

/-- The merchant that acts. -/
def Event.owner : Event → Option String
  | .request _ _ _ user _ => some user.merchantId
  | .job _ _ _ merchant _ => some merchant
  | .stored _ => none

def jobDesk (s : System) (order : SetOrder) (merchant : String) (generates : Bool) : Desk :=
  match runFor settings keys now s order (some merchant) with
  | .error _ => s.desk
  | .ok desk => if generates then (generateFor settings keys s.database.batches (some merchant) desk).2 else desk

def step (s : System) : Event → System
  | .request keys now order user request => { s with desk := (serve settings auth keys now user s order request).2 }
  | .job keys now order merchant generates => { s with desk := jobDesk settings keys now s order merchant generates }
  | .stored database => { s with database }

end Serving

end RCAA.Api
