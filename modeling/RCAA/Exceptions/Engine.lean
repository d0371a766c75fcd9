import RCAA.Cases.Service
import RCAA.Ingestion.Persist
import RCAA.Reconciliation.Engine

/-! Generating exceptions: one for each duplicate an ingestion batch reported and one
for each case in scope, unless its fingerprint is stored. A call that raises commits
nothing. Fingerprints are digests of a canonical JSON, a parameter; the evidence of an
exception and the root cause of a case are built elsewhere. -/

namespace RCAA.Exceptions

/-! ## Rules -/

/-- `CASE_TO_CODE`. -/
def caseToCode : List (String × String) :=
  [("PAYMENT_NOT_SETTLED", "PAYMENT_NOT_SETTLED"),
    ("SETTLEMENT_WITHOUT_PAYMENT", "SETTLEMENT_WITHOUT_PAYMENT"),
    ("REFUND_WITHOUT_PAYMENT", "REFUND_WITHOUT_PAYMENT"),
    ("REFUND_WITHOUT_SETTLEMENT", "REFUND_NOT_SETTLED"),
    ("MISSING_REFUND", "REFUND_NOT_SETTLED"),
    ("PAYMENT_WITHOUT_SETTLEMENT", "PAYMENT_NOT_SETTLED"),
    ("CURRENCY_MISMATCH", "UNKNOWN_REFERENCE"),
    ("SETTLEMENT_MISMATCH", "AMOUNT_MISMATCH"),
    ("STATUS_MISMATCH", "STATUS_MISMATCH"),
    ("DUPLICATE_PAYMENT", "DUPLICATE_PAYMENT"),
    ("DUPLICATE_REFUND", "DUPLICATE_REFUND"),
    ("DUPLICATE_SETTLEMENT", "DUPLICATE_SETTLEMENT"),
    ("AMBIGUOUS_MATCH", "AMBIGUOUS_MATCH"),
    ("DELAYED_SETTLEMENT", "DELAYED_SETTLEMENT"),
    ("UNKNOWN_REFERENCE", "UNKNOWN_REFERENCE"),
    ("BANK_SETTLEMENT_MISMATCH", "BANK_SETTLEMENT_MISMATCH"),
    ("BANK_WITHOUT_SETTLEMENT", "BANK_WITHOUT_SETTLEMENT"),
    ("BANK_AMBIGUOUS_MATCH", "BANK_AMBIGUOUS_MATCH")]

def codeForCase (caseType : String) : String :=
  ((caseToCode.find? fun entry => entry.1 = caseType).map Prod.snd).getD "UNKNOWN_REFERENCE"

def criticalCodes : List String :=
  ["SETTLEMENT_WITHOUT_PAYMENT", "PAYMENT_NOT_SETTLED", "REFUND_WITHOUT_PAYMENT", "BANK_WITHOUT_SETTLEMENT"]

def highCodes : List String :=
  ["BANK_SETTLEMENT_MISMATCH", "BANK_AMBIGUOUS_MATCH", "AMOUNT_MISMATCH", "STATUS_MISMATCH", "DUPLICATE_PAYMENT",
    "DUPLICATE_REFUND", "DUPLICATE_SETTLEMENT", "AMBIGUOUS_MATCH", "DELAYED_SETTLEMENT"]

def severityFor (settings : Settings) (code : String) (difference : Decimal) : String :=
  if code = "AMOUNT_MISMATCH" ∧ difference.abs.le settings.reconciliationAmountTolerance then "LOW"
  else if code ∈ criticalCodes then "CRITICAL"
  else if code ∈ highCodes then "HIGH"
  else "MEDIUM"

/-! ## What is reported -/

structure DuplicatePayload where
  batchId : String
  source : String
  provider : Option String
  recordType : String
  externalId : String
  exceptionCode : String
deriving DecidableEq

structure CasePayload where
  merchantId : Option String
  exceptionCode : String
  primaryRecord : Option String
  relatedRecord : Option String
  difference : String
  reasonCode : String
  matchMethod : String
deriving DecidableEq

/-- The two payloads have different fields, so none of one kind is one of the other. -/
inductive ExceptionPayload where
  | duplicate (payload : DuplicatePayload)
  | ofCase (payload : CasePayload)
deriving DecidableEq

/-- The digest of the canonical JSON of a payload. -/
class ExceptionHashing where
  digest : ExceptionPayload → String

/-- `case.record_id or case.payment_id`. -/
def primaryRecord (case : CaseRow) : Option String := (Cases.given case.recordId).or case.paymentId

def casePayload (case : CaseRow) : CasePayload where
  merchantId := case.metadataText "merchant_id"
  exceptionCode := codeForCase case.caseType
  primaryRecord := primaryRecord case
  relatedRecord := case.matchedRecordId
  difference := case.storedDifference.str
  reasonCode := case.reasonCode
  matchMethod := case.matchMethod

/-- One exception a call considers: a duplicate of a batch, or a case. -/
inductive ExceptionRequest where
  | duplicate (batch : IngestionBatch) (recordType code externalId : String)
  | ofCase (case : CaseRow)

namespace ExceptionRequest

def payload : ExceptionRequest → ExceptionPayload
  | .duplicate batch recordType code externalId =>
    .duplicate ⟨batch.id, batch.source, batch.provider, recordType, externalId, code⟩
  | .ofCase case => .ofCase (casePayload case)

/-- The case an exception would name. -/
def caseId : ExceptionRequest → Option String
  | .duplicate .. => none
  | .ofCase case => some case.id

variable [ExceptionHashing]

def content (settings : Settings) : ExceptionRequest → ExceptionContent
  | .duplicate batch recordType code externalId =>
    { reconciliationCaseId := none
      exceptionCode := code
      severity := severityFor settings code .zero
      status := "OPEN"
      source := some batch.source
      merchantId := batch.merchantId
      primaryRecordId := some externalId
      relatedRecordId := none
      expectedAmount := .zero
      actualAmount := .zero
      difference := .zero
      fingerprint := ExceptionHashing.digest (payload (.duplicate batch recordType code externalId)) }
  | .ofCase case =>
    { reconciliationCaseId := some case.id
      exceptionCode := codeForCase case.caseType
      severity := severityFor settings (codeForCase case.caseType) case.storedDifference
      status := case.status
      source := case.metadataText "source"
      merchantId := case.metadataText "merchant_id"
      primaryRecordId := primaryRecord case
      relatedRecordId := case.matchedRecordId
      expectedAmount := case.expectedAmount.money
      actualAmount := case.actualAmount.money
      difference := case.storedDifference
      fingerprint := ExceptionHashing.digest (payload (.ofCase case)) }

@[simp] theorem content_fingerprint (settings : Settings) (request : ExceptionRequest) :
    (request.content settings).fingerprint = ExceptionHashing.digest request.payload := by
  cases request <;> rfl

@[simp] theorem content_reconciliationCaseId (settings : Settings) (request : ExceptionRequest) :
    (request.content settings).reconciliationCaseId = request.caseId := by
  cases request <;> rfl

end ExceptionRequest

section Generation
variable [ExceptionHashing]

/-! ## Recording -/

/-- The exception of a case is linked to it. -/
def linkRecorded (keys : KeySource) (before stored : Desk) : ExceptionRequest → Except CaseError Desk
  | .duplicate .. => .ok stored
  | .ofCase case =>
    let id := keys.draw (before.exceptions.map (·.id))
    if added : id ∈ stored.exceptions.map (·.id) then
      .ok ((stored.link case.id id added).log case.id "EXCEPTION_ATTACHED" [("exception_id", .text id)])
    else .error .integrity

def recordException (settings : Settings) (keys : KeySource) (desk : Desk) (request : ExceptionRequest)
    (new : (request.content settings).fingerprint ∉ desk.exceptions.map (·.fingerprint)) : Except CaseError Desk := do
  let stored ← desk.insertException keys (request.content settings) new
  linkRecorded keys desk stored request

/-- No exception names the case a request would name. -/
def ExceptionRequest.Free (desk : Desk) (request : ExceptionRequest) : Prop :=
  ∀ id, request.caseId = some id → ∀ e ∈ desk.exceptions, e.reconciliationCaseId ≠ some id

/-- What recording one exception does to the desk. -/
structure Recorded (settings : Settings) (request : ExceptionRequest) (desk after : Desk) (row : ReconciliationException) :
    Prop where
  content : row.toExceptionContent = request.content settings
  exceptions : after.exceptions = desk.exceptions ++ [row]
  links : after.links = desk.links ++ (request.caseId.map fun id => ⟨id, row.id⟩).toList
  cases : after.cases = desk.cases
  recoveries : after.recoveries = desk.recoveries

theorem recordException_accepts {settings : Settings} {keys : KeySource} {desk : Desk} {request : ExceptionRequest}
    {new : (request.content settings).fingerprint ∉ desk.exceptions.map (·.fingerprint)} (free : request.Free desk) :
    ∃ after, recordException settings keys desk request new = .ok after ∧
      ∃ row, Recorded settings request desk after row := by
  have accepted : ∀ id, (request.content settings).reconciliationCaseId = some id →
      ∀ e ∈ desk.exceptions, e.reconciliationCaseId ≠ some id := by
    rwa [request.content_reconciliationCaseId]
  simp only [recordException, Desk.insertException, dif_pos accepted]
  cases request with
  | duplicate batch recordType code externalId =>
    exact ⟨_, rfl, _, rfl, rfl, (List.append_nil _).symm, rfl, rfl⟩
  | ofCase case =>
    simp only [bind, Except.bind, linkRecorded]
    rw [dif_pos (by simp)]
    exact ⟨_, rfl, _, rfl, rfl, rfl, rfl, rfl⟩

/-- A new exception is refused exactly for the case it names. -/
theorem recordException_ok_iff {settings : Settings} {keys : KeySource} {desk : Desk} {request : ExceptionRequest}
    {new : (request.content settings).fingerprint ∉ desk.exceptions.map (·.fingerprint)} :
    (∃ after, recordException settings keys desk request new = .ok after) ↔ request.Free desk := by
  constructor
  · rintro ⟨after, recorded⟩
    obtain ⟨stored, inserted, _⟩ := Outcome.bind_ok recorded
    simp only [Desk.insertException] at inserted
    split at inserted
    · next free => rwa [request.content_reconciliationCaseId] at free
    · cases inserted
  · intro free
    obtain ⟨after, recorded, _⟩ := recordException_accepts free
    exact ⟨after, recorded⟩

theorem recordException_ok {settings : Settings} {keys : KeySource} {desk after : Desk} {request : ExceptionRequest}
    {new : (request.content settings).fingerprint ∉ desk.exceptions.map (·.fingerprint)}
    (recorded : recordException settings keys desk request new = .ok after) :
    ∃ row, Recorded settings request desk after row := by
  obtain ⟨other, again, row, done⟩ := recordException_accepts (recordException_ok_iff.mp ⟨after, recorded⟩)
  rw [Except.ok.inj (recorded.symm.trans again)]
  exact ⟨row, done⟩

/-- The exceptions of a desk, to which new contents are added by fingerprint. -/
def exceptionRegistry (settings : Settings) (keys : KeySource) :
    Registry Desk ExceptionRequest ExceptionContent String CaseError where
  rows desk := desk.exceptions.map (·.toExceptionContent)
  row := ExceptionRequest.content settings
  key := ExceptionContent.fingerprint
  add desk request absent := recordException settings keys desk request (by
    simpa only [List.map_map, Function.comp_def] using absent)
  rows_add := by
    intro desk request absent desk' recorded
    obtain ⟨row, done⟩ := recordException_ok recorded
    rw [done.exceptions, List.map_append, List.map_singleton, done.content]

/-! ## A call -/

def duplicateCode : RecordType → Option String
  | .payment => some "DUPLICATE_PAYMENT"
  | .refund => some "DUPLICATE_REFUND"
  | .settlement => some "DUPLICATE_SETTLEMENT"
  | .bankTransaction => none

def batchRequests (batch : IngestionBatch) : List ExceptionRequest :=
  match batch.recordType with
  | none => []
  | some recordType => match duplicateCode recordType with
    | none => []
    | some code =>
      let externalIds := if batch.duplicateRecordsJson.isEmpty then [batch.id] else batch.duplicateRecordsJson
      externalIds.map (.duplicate batch recordType.name code)

def duplicateRequests (batches : List IngestionBatch) (merchantId : Option String) : List ExceptionRequest :=
  (batches.filter fun batch => 0 < batch.duplicateCount && batch.merchantId == merchantId).flatMap batchRequests

def casesInScope (desk : Desk) (merchantId : Option String) : List CaseRow :=
  orderRows (fun c => ⟨c.createdAt, none⟩) (·.id) (desk.cases.filter fun c => owned (scopeOf merchantId) c.merchantId)

structure GenerationReport where
  created : Nat
  existing : Nat
deriving DecidableEq

def generateExceptions (settings : Settings) (keys : KeySource) (batches : List IngestionBatch) (desk : Desk)
    (merchantId : Option String) : Except CaseError (GenerationReport × Desk) := do
  let duplicates := duplicateRequests batches merchantId
  let (desk, ofBatches) ← (exceptionRegistry settings keys).putAll desk duplicates
  let cases := casesInScope desk merchantId
  let (desk, ofCases) ← (exceptionRegistry settings keys).putAll desk (cases.map .ofCase)
  let created := ofBatches + ofCases
  return ({ created, existing := duplicates.length + cases.length - created }, desk)

end Generation
end RCAA.Exceptions

namespace RCAA.PlainText
open Exceptions

/-- A field that may be missing, with a terminator. -/
def optionField : Option String → List Char
  | none => ['-']
  | some text => '+' :: marked text

theorem optionField_append_inj {a b : Option String} {rest rest' : List Char}
    (same : optionField a ++ rest = optionField b ++ rest') : a = b ∧ rest = rest' := by
  cases a with
  | none =>
    cases b with
    | none => exact ⟨rfl, (List.cons.inj same).2⟩
    | some other => exact absurd (List.cons.inj same).1 (by decide)
  | some text =>
    cases b with
    | none => exact absurd (List.cons.inj same).1 (by decide)
    | some other =>
      obtain ⟨texts, rests⟩ := marked_append_inj (List.cons.inj same).2
      exact ⟨congrArg some texts, rests⟩

def payloadText : ExceptionPayload → List Char
  | .duplicate p => 'D' :: (marked p.batchId ++ (marked p.source ++ (optionField p.provider ++ (marked p.recordType ++
      (marked p.externalId ++ marked p.exceptionCode)))))
  | .ofCase p => 'C' :: (optionField p.merchantId ++ (marked p.exceptionCode ++ (optionField p.primaryRecord ++
      (optionField p.relatedRecord ++ (marked p.difference ++ (marked p.reasonCode ++ marked p.matchMethod))))))

/-- The fields of an exception's payload stand for the hash in evaluation. -/
scoped instance exceptionText : ExceptionHashing where
  digest payload := String.ofList (payloadText payload)

theorem exceptionText_injective : Function.Injective exceptionText.digest := by
  intro a b texts
  have same := String.ofList_inj.mp texts
  cases a with
  | duplicate p =>
    cases b with
    | ofCase q => exact absurd (List.cons.inj same).1 (by decide)
    | duplicate q =>
      obtain ⟨batchId, same⟩ := marked_append_inj (List.cons.inj same).2
      obtain ⟨source, same⟩ := marked_append_inj same
      obtain ⟨provider, same⟩ := optionField_append_inj same
      obtain ⟨recordType, same⟩ := marked_append_inj same
      obtain ⟨externalId, same⟩ := marked_append_inj same
      have code := marked_injective same
      cases p
      cases q
      simp_all
  | ofCase p =>
    cases b with
    | duplicate q => exact absurd (List.cons.inj same).1 (by decide)
    | ofCase q =>
      obtain ⟨merchantId, same⟩ := optionField_append_inj (List.cons.inj same).2
      obtain ⟨code, same⟩ := marked_append_inj same
      obtain ⟨primary, same⟩ := optionField_append_inj same
      obtain ⟨related, same⟩ := optionField_append_inj same
      obtain ⟨difference, same⟩ := marked_append_inj same
      obtain ⟨reason, same⟩ := marked_append_inj same
      have method := marked_injective same
      cases p
      cases q
      simp_all

end RCAA.PlainText
