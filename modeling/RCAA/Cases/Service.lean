import RCAA.Cases.Models

/-! The case desk: opening a case, recovering its money, moving it through its states,
and attaching exceptions. An operation that raises is rolled back, except that a
verification whose amount does not match records what it found and then raises. The
row an operation returns is read back from the desk. Evidence and the root cause of
a case are built elsewhere. -/

namespace RCAA.Cases

/-- A text that is there and not empty. -/
def given (text : Option String) : Option String := text.filter (· ≠ "")

section Platform
variable [Platform]

/-- `text.strip() if text else None`. -/
def stripped (text : Option String) : Option String := (given text).map strip

/-- `not text or not text.strip()`. -/
def blank (text : String) : Bool := text = "" || strip text = ""

/-! ## Recovery -/

omit [Platform] in
def newRecovery (keys : KeySource) (now : Int) (desk : Desk) (case : CaseRow) : RecoveryRecord :=
  let exposure := case.storedDifference.abs
  { id := keys.draw (desk.recoveries.map RecoveryRecord.id)
    caseId := case.id
    merchantId := case.merchantId
    status := if Decimal.zero.lt exposure then .identified else .notRequired
    exposureAmount := exposure
    recoverableAmount := exposure
    recoveredAmount := .zero
    currency := (case.metadataText "currency").getD "INR"
    createdAt := now
    updatedAt := now }

omit [Platform] in
def ensureRecovery (keys : KeySource) (now : Int) (desk : Desk) (case : CaseRow) : RecoveryRecord × Desk :=
  match found : desk.recovery? case.id with
  | some recovery => (recovery, desk)
  | none => (newRecovery keys now desk case, desk.addRecovery (newRecovery keys now desk case) found)

structure RecoveryRequest where
  recoverableAmount : Option Decimal := none
  actionType : String
  externalReference : Option String := none
  expectedRecoveryAt : Option DateTime := none
  actionNote : Option String := none

def RecoveryRecord.initiated (now : Int) (amount : Decimal) (request : RecoveryRequest) (recovery : RecoveryRecord) :
    RecoveryRecord :=
  { recovery with
    recoverableAmount := amount.money
    actionType := some (upper (strip request.actionType))
    externalReference := stripped request.externalReference
    expectedRecoveryAt := request.expectedRecoveryAt
    actionNote := stripped request.actionNote
    initiatedAt := some now
    status := .recoveryInitiated
    updatedAt := now }

def initiateRecovery (keys : KeySource) (now : Int) (desk : Desk) (case : CaseRow) (request : RecoveryRequest) :
    Except CaseError Desk :=
  let (recovery, desk) := ensureRecovery keys now desk case
  let amount := request.recoverableAmount.getD recovery.exposureAmount
  if amount.lt .zero || recovery.exposureAmount.lt amount then
    .error (.business "recoverable_amount must be between 0 and the financial exposure")
  else if blank request.actionType then .error (.business "action_type is required")
  else .ok (((desk.updateRecovery case.id (RecoveryRecord.initiated now amount request) fun _ => rfl).touchCase
    case.id now).log case.id "RECOVERY_INITIATED"
      [("recovery_id", .text recovery.id), ("recoverable_amount", .text amount.str),
        ("action_type", .text (upper (strip request.actionType))), ("external_reference", .ofOption (stripped request.externalReference))])

/-- What a bank row of another amount leaves in the record before the call raises. -/
def RecoveryRecord.unproven (now : Int) (recovered : Decimal) (note : Option String) (recovery : RecoveryRecord) :
    RecoveryRecord :=
  let short := recovered.lt recovery.recoverableAmount
  { recovery with
    recoveredAmount := if short then recovered else .zero
    status := if short then .partiallyRecovered else .recoveryInitiated
    verificationNote := stripped note
    updatedAt := now }

def RecoveryRecord.verified (now : Int) (bank : BankTransaction) (note : Option String) (recovery : RecoveryRecord) :
    RecoveryRecord :=
  { recovery with
    recoveredAmount := bank.amount
    recoveredAt := some bank.eventTimestamp
    verifiedAt := some now
    verifiedBankTransactionId := some bank.id
    verificationNote := stripped note
    status := .verified
    updatedAt := now }

/-- Both references of a bank row, joined by a space. -/
def bankReferenceText (bank : BankTransaction) : String := bank.reference.getD "" ++ " " ++ bank.rawReference.getD ""

/-- The bank row carries the reference of the recovery, where it has one. -/
def carriesReference (recovery : RecoveryRecord) (bank : BankTransaction) : Bool :=
  match given recovery.externalReference with
  | none => true
  | some reference => decide ((lower reference).toList <:+: (lower (bankReferenceText bank)).toList)

omit [Platform] in
/-- The bank row of the case's merchant with an identifier. -/
def merchantBank (bank : List BankTransaction) (case : CaseRow) (bankTransactionId : String) : Option BankTransaction :=
  bank.find? fun b => b.id = bankTransactionId && b.merchantId == case.merchantId

def verifyRecovery (keys : KeySource) (now : Int) (bank : List BankTransaction) (desk : Desk) (case : CaseRow)
    (bankTransactionId : String) (note : Option String) : Except CaseError Unit × Desk :=
  let (recovery, ensured) := ensureRecovery keys now desk case
  match merchantBank bank case bankTransactionId with
  | none => (.error (.business "Bank transaction not found"), desk)
  | some bank =>
    let recovered := bank.amount
    let required := recovery.recoverableAmount
    if required.le .zero then (.error (.business "No recoverable amount is recorded for this case"), desk)
    else if !recovered.numEq required then
      let message := if recovered.lt required then
          "Bank transaction proves only " ++ recovered.str ++ " recovered; " ++ required.str ++
            " is required for verification"
        else "Bank transaction amount " ++ recovered.str ++ " does not exactly match the recoverable amount " ++
          required.str
      (.error (.business message),
        ensured.updateRecovery case.id (RecoveryRecord.unproven now recovered note) fun _ => rfl)
    else if !carriesReference recovery bank then
      (.error (.business "Bank transaction reference does not match the recovery reference"), desk)
    else (.ok (), ((ensured.updateRecovery case.id (RecoveryRecord.verified now bank note) fun _ => rfl).touchCase
      case.id now).log case.id "RECOVERY_VERIFIED"
        [("recovery_id", .text recovery.id), ("bank_transaction_id", .text bank.id), ("verified_amount", .text recovered.str)])

def RecoveryRecord.markedUnrecoverable (now : Int) (note : String) (recovery : RecoveryRecord) : RecoveryRecord :=
  { recovery with status := .unrecoverable, verificationNote := some (strip note), updatedAt := now }

def markUnrecoverable (keys : KeySource) (now : Int) (desk : Desk) (case : CaseRow) (note : String) :
    Except CaseError Desk :=
  let (recovery, desk) := ensureRecovery keys now desk case
  if blank note then .error (.business "A reason is required to mark a recovery unrecoverable")
  else .ok (((desk.updateRecovery case.id (RecoveryRecord.markedUnrecoverable now note) fun _ => rfl).touchCase
    case.id now).log case.id "RECOVERY_MARKED_UNRECOVERABLE" [("recovery_id", .text recovery.id)])

/-! ## States of a case -/

omit [Platform] in
def CaseRow.resolved (now : Int) (code : ResolutionCode) (note : Option String) (case : CaseRow) : CaseRow :=
  { case with
    resolutionCode := some code.value, resolutionNote := note, resolvedAt := some now
    status := CaseStatus.resolved.value, updatedAt := now }

/-- Resolving needs a code and, unless the case is a false positive, verified money. -/
def resolve (keys : KeySource) (now : Int) (desk : Desk) (case : CaseRow) (resolutionCode resolutionNote : Option String) :
    Except CaseError Desk :=
  match given resolutionCode with
  | none => .error (.business "resolution_code is required to resolve a case")
  | some text => match ResolutionCode.ofValue (upper text) with
    | none => .error (.business "Invalid resolution_code")
    | some code =>
      let (recovery, desk) := ensureRecovery keys now desk case
      if code ≠ .falsePositive ∧ Decimal.zero.lt recovery.exposureAmount ∧ recovery.status ≠ .verified then
        .error (.business ("Financial case cannot be resolved until recovery is verified; " ++
          "use FALSE_POSITIVE only when the financial exception is proven invalid"))
      else .ok ((desk.updateCase case.id (CaseRow.resolved now code resolutionNote) fun _ => ⟨rfl, rfl, rfl⟩).log
        case.id "CASE_RESOLVED" [("resolution_code", .text code.value)])

def transition (keys : KeySource) (now : Int) (desk : Desk) (case : CaseRow) (target : String)
    (resolutionCode resolutionNote : Option String) : Except CaseError Desk :=
  match CaseStatus.ofValue (upper target) with
  | none => .error (.business "Invalid case status")
  | some targetStatus => match CaseStatus.ofValue case.status with
    | none => .error .value
    | some current =>
      if targetStatus ∉ current.validTransitions then
        .error (.business ("Invalid case status transition: " ++ current.value ++ " -> " ++ targetStatus.value))
      else match targetStatus with
        | .resolved => resolve keys now desk case resolutionCode resolutionNote
        | .reopened => .ok ((desk.updateCase case.id (fun c =>
            { c with resolvedAt := none, status := CaseStatus.reopened.value, updatedAt := now })
            fun _ => ⟨rfl, rfl, rfl⟩).log case.id "CASE_REOPENED")
        | other => .ok ((desk.updateCase case.id (fun c => { c with status := other.value, updatedAt := now })
            fun _ => ⟨rfl, rfl, rfl⟩).log case.id "CASE_STATUS_CHANGED"
              [("from", .text current.value), ("to", .text other.value)])

def assignCase (now : Int) (desk : Desk) (case : CaseRow) (assignedTo : Option String) : Except CaseError Desk :=
  let value := stripped assignedTo
  if assignedTo.isSome && (given value).isNone then
    .error (.business "assigned_to must be a non-empty identifier")
  else .ok ((desk.updateCase case.id (fun c => { c with assignedTo := value, updatedAt := now })
    fun _ => ⟨rfl, rfl, rfl⟩).log case.id "CASE_ASSIGNED" [("assigned_to", .ofOption value)])

def addNote (keys : KeySource) (now : Int) (desk : Desk) (case : CaseRow) (note : String)
    (authorReference : Option String) : Except CaseError Desk :=
  if blank note then .error (.business "note must not be empty")
  else
    let item : CaseNote := ⟨keys.draw (desk.notes.map CaseNote.id), case.id, authorReference, strip note, now⟩
    .ok (({ desk with notes := desk.notes ++ [item] }.log case.id "CASE_NOTE_ADDED" [("note_id", .text item.id)]).touchCase case.id now)

omit [Platform] in
/-- An exception names one case; further links group it with others. -/
def nameUnlessNamed (desk : Desk) (exception : ReconciliationException) (caseId : String) : Except CaseError Desk :=
  if (given exception.reconciliationCaseId).isNone then desk.nameCase exception.id caseId else .ok desk

omit [Platform] in
def attachException (now : Int) (desk : Desk) (case : CaseRow) (exceptionId : String) : Except CaseError Desk :=
  match found : desk.exception? exceptionId with
  | none => .error (.business "Exception not found")
  | some exception =>
    if desk.linked case.id exception.id then .error (.business "Exception is already attached to this case")
    else do
      let desk ← nameUnlessNamed (desk.link case.id exception.id (Desk.exception?_stored found)) exception case.id
      return (desk.log case.id "EXCEPTION_ATTACHED" [("exception_id", .text exception.id)]).touchCase case.id now

/-! ## Opening a case -/

structure CaseArguments where
  exceptionId : Option String := none
  merchantId : Option String := none
  title : Option String := none
  description : Option String := none
  priority : Option String := none
  assignedTo : Option String := none

def newCase (settings : Settings) (keys : KeySource) (now : Int) (desk : Desk) (args : CaseArguments)
    (exception : Option ReconciliationException) : CaseRow :=
  let code := exception.map (·.exceptionCode)
  let merchantId := (given args.merchantId).or (exception.bind (·.merchantId))
  let priority := upper ((given args.priority).getD ((exception.map (·.severity)).getD CasePriority.medium.value))
  { id := keys.draw (desk.cases.map (·.id))
    caseNumber := nextCaseNumber (desk.cases.map (·.caseNumber)) (yearOf now)
    merchantId := merchantId
    paymentId := none
    recordId := exception.bind (·.primaryRecordId)
    recordType := if exception.isSome then "exception" else "case"
    caseType := code.getD "OPERATIONAL"
    severity := (exception.map (·.severity)).getD ((given args.priority).getD CasePriority.medium.value)
    status := CaseStatus.opened.value
    priority := priority
    assignedTo := stripped args.assignedTo
    title := (given args.title).getD ((code.map ("Investigate " ++ ·)).getD "RCAA operational case")
    description := (given args.description).getD
      ((code.map fun code => "Operational investigation for exception " ++ code ++ ".").getD "")
    expectedAmount := (exception.map (·.expectedAmount)).getD .zero
    actualAmount := (exception.map (·.actualAmount)).getD .zero
    difference := (exception.map (·.difference)).getD .zero
    confidence := .zero
    matchMethod := "NONE"
    matchConfidence := "NONE"
    matchedRecordId := exception.bind (·.relatedRecordId)
    reasonCode := code.getD "UNKNOWN"
    summary := code.getD "Operational case"
    metadataJson := match given merchantId with
      | none => []
      | some merchant => [("merchant_id", .text merchant)]
    fingerprint := (exception.map (·.fingerprint)).getD ("manual:" ++ keys.draw (desk.cases.map (·.fingerprint)))
    slaDueAt := now + slaHours settings priority * (60 * DateTime.minute)
    createdAt := now
    updatedAt := now }

omit [Platform] in
/-- The exception a case is opened for names it. -/
def attachOpened (desk : Desk) (caseId : String) : Option ReconciliationException → Except CaseError Desk
  | none => .ok desk
  | some exception =>
    if stored : exception.id ∈ desk.exceptions.map (·.id) then
      ((desk.link caseId exception.id stored).log caseId "EXCEPTION_ATTACHED" [("exception_id", .text exception.id)]).nameCase exception.id caseId
    else .error .integrity

def openCase (settings : Settings) (keys : KeySource) (now : Int) (desk : Desk) (args : CaseArguments)
    (exception : Option ReconciliationException) : Except CaseError (CaseRow × Bool × Desk) := do
  if (given args.priority).any fun priority => upper priority ∉ CasePriority.values then
    .error (.business "Invalid priority")
  else
    let row := newCase settings keys now desk args exception
    let desk ← desk.insertCase row (yearOf now) rfl
    let desk ← attachOpened ((ensureRecovery keys now desk row).2.log row.id "CASE_CREATED") row.id exception
    let desk := if (given args.assignedTo).isSome then desk.log row.id "CASE_ASSIGNED" [("assigned_to", .ofOption (stripped args.assignedTo))] else desk
    return (row, true, desk)

/-- The case, and whether the call opened it: an exception that names a case gets that one. -/
def createCase (settings : Settings) (keys : KeySource) (now : Int) (desk : Desk) (args : CaseArguments) :
    Except CaseError (CaseRow × Bool × Desk) :=
  match given args.exceptionId with
  | none => openCase settings keys now desk args none
  | some exceptionId => match desk.exception? exceptionId with
    | none => .error (.business "Exception not found")
    | some exception => match (given exception.reconciliationCaseId).bind desk.case? with
      | some existing => .ok (existing, false, desk)
      | none => openCase settings keys now desk args (some exception)

end Platform
end RCAA.Cases
