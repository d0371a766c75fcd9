import RCAA.Rca.Service
import RCAA.Library.Quantize

/-! The tables behind the case desk: cases with the columns that change while they
are worked on, the recovery record of each, the exceptions of the merchant and their
links to cases. A desk satisfies the primary keys and unique constraints of its
tables; what would break one is refused. A money column returns what was written
with two places, ties away from zero. Columns no modelled function reads are left out. -/

namespace RCAA

/-- Generated keys: never one that is in use. -/
structure KeySource where
  draw : List String → String
  fresh : ∀ used, draw used ∉ used

/-! ## Enumerations -/

inductive CaseStatus where
  | opened | inProgress | resolved | reopened
deriving DecidableEq, Repr

namespace CaseStatus

def value : CaseStatus → String
  | opened => "OPEN"
  | inProgress => "IN_PROGRESS"
  | resolved => "RESOLVED"
  | reopened => "REOPENED"

def ofValue (text : String) : Option CaseStatus := [opened, inProgress, resolved, reopened].find? fun s => s.value = text

/-- `VALID_TRANSITIONS`. -/
def validTransitions : CaseStatus → List CaseStatus
  | opened => [inProgress, resolved]
  | inProgress => [resolved]
  | resolved => [reopened]
  | reopened => [inProgress, resolved]

@[simp] theorem ofValue_eq_some_iff (text : String) (status : CaseStatus) :
    ofValue text = some status ↔ text = status.value := by
  have distinct : ([opened, inProgress, resolved, reopened].map value).Nodup := by decide
  rw [ofValue, KeyedRows.find?_eq_some_iff value distinct]
  cases status <;> simp [eq_comm]

theorem value_injective : Function.Injective value := by
  intro a b
  cases a <;> cases b <;> decide

end CaseStatus

inductive CasePriority where
  | low | medium | high | critical
deriving DecidableEq, Repr

def CasePriority.value : CasePriority → String
  | .low => "LOW"
  | .medium => "MEDIUM"
  | .high => "HIGH"
  | .critical => "CRITICAL"

def CasePriority.values : List String := [CasePriority.low, .medium, .high, .critical].map CasePriority.value

inductive ResolutionCode where
  | settlementPosted | refundProcessed | duplicateConfirmed | bankCorrectionRequired
  | providerInvestigationRequired | falsePositive | other
deriving DecidableEq, Repr

namespace ResolutionCode

def value : ResolutionCode → String
  | settlementPosted => "SETTLEMENT_POSTED"
  | refundProcessed => "REFUND_PROCESSED"
  | duplicateConfirmed => "DUPLICATE_CONFIRMED"
  | bankCorrectionRequired => "BANK_CORRECTION_REQUIRED"
  | providerInvestigationRequired => "PROVIDER_INVESTIGATION_REQUIRED"
  | falsePositive => "FALSE_POSITIVE"
  | other => "OTHER"

def ofValue (text : String) : Option ResolutionCode :=
  [settlementPosted, refundProcessed, duplicateConfirmed, bankCorrectionRequired, providerInvestigationRequired,
    falsePositive, other].find? fun code => code.value = text

end ResolutionCode

inductive RecoveryStatus where
  | identified | notRequired | recoveryInitiated | partiallyRecovered | verified | unrecoverable
deriving DecidableEq, Repr

/-! ## Rows -/

/-- A case with the columns its handling writes. -/
structure CaseRow extends Case where
  assignedTo : Option String := none
  resolutionCode : Option String := none
  resolutionNote : Option String := none
  resolvedAt : Option Int := none
  updatedAt : Int
deriving DecidableEq

namespace CaseRow

/-- The difference as its column returns it. -/
def storedDifference (case : CaseRow) : Decimal := case.difference.money

/-- `(case.metadata_json or {}).get(key)`. -/
def metadataText (case : CaseRow) (key : String) : Option String := CaseMetadata.getText case.metadataJson key

end CaseRow

structure RecoveryRecord where
  id : String
  caseId : String
  merchantId : Option String
  status : RecoveryStatus
  exposureAmount : Decimal
  recoverableAmount : Decimal
  recoveredAmount : Decimal
  currency : String
  actionType : Option String := none
  externalReference : Option String := none
  expectedRecoveryAt : Option DateTime := none
  initiatedAt : Option Int := none
  recoveredAt : Option DateTime := none
  verifiedAt : Option Int := none
  verifiedBankTransactionId : Option String := none
  actionNote : Option String := none
  verificationNote : Option String := none
  createdAt : Int
  updatedAt : Int
deriving DecidableEq

/-- What an exception reports; its key is drawn when it is stored. -/
structure ExceptionContent where
  reconciliationCaseId : Option String
  exceptionCode : String
  severity : String
  status : String
  source : Option String
  merchantId : Option String
  primaryRecordId : Option String
  relatedRecordId : Option String
  expectedAmount : Decimal
  actualAmount : Decimal
  difference : Decimal
  fingerprint : String
deriving DecidableEq

structure ReconciliationException extends ExceptionContent where
  id : String
deriving DecidableEq

def ReconciliationException.naming (caseId : String) (e : ReconciliationException) : ReconciliationException :=
  { e with reconciliationCaseId := some caseId }

structure CaseExceptionLink where
  caseId : String
  exceptionId : String
deriving DecidableEq

structure CaseNote where
  id : String
  caseId : String
  authorReference : Option String
  note : String
  createdAt : Int
deriving DecidableEq

/-- Why an operation on a case ends without a result. -/
inductive CaseError where
  /-- `CaseBusinessError`. -/
  | business (message : String)
  | notFound
  /-- A key or a unique constraint refuses the write. -/
  | integrity
  | value
deriving DecidableEq, Repr

/-! ## The desk -/

theorem distinguishes_nil : KeyedRows.Distinguishes (·.reconciliationCaseId) ([] : List ReconciliationException) :=
  List.Pairwise.nil

theorem linked_nil : ∀ l ∈ ([] : List CaseExceptionLink), l.exceptionId ∈ ([] : List ReconciliationException).map (·.id) :=
  List.forall_mem_nil _

structure Desk where
  cases : List CaseRow := []
  events : List CaseEvent := []
  notes : List CaseNote := []
  recoveries : List RecoveryRecord := []
  exceptions : List ReconciliationException := []
  links : List CaseExceptionLink := []
  caseIds : (cases.map (·.id)).Nodup := by first | exact List.nodup_nil | decide
  fingerprints : (cases.map (·.fingerprint)).Nodup := by first | exact List.nodup_nil | decide
  numbering : Numbered (cases.map (·.caseNumber)) := by exact numbered_nil
  recoveryCases : (recoveries.map RecoveryRecord.caseId).Nodup := by first | exact List.nodup_nil | decide
  exceptionIds : (exceptions.map (·.id)).Nodup := by first | exact List.nodup_nil | decide
  exceptionFingerprints : (exceptions.map (·.fingerprint)).Nodup := by first | exact List.nodup_nil | decide
  reconciliationCases : KeyedRows.Distinguishes (·.reconciliationCaseId) exceptions := by exact distinguishes_nil
  linkedExceptions : ∀ l ∈ links, l.exceptionId ∈ exceptions.map (·.id) := by first | exact linked_nil | decide

namespace Desk

def case? (desk : Desk) (id : String) : Option CaseRow := desk.cases.find? fun c => c.id = id
def recovery? (desk : Desk) (caseId : String) : Option RecoveryRecord := desk.recoveries.find? fun r => r.caseId = caseId
def exception? (desk : Desk) (id : String) : Option ReconciliationException := desk.exceptions.find? fun e => e.id = id

theorem case?_eq_some_iff (desk : Desk) (id : String) (c : CaseRow) :
    desk.case? id = some c ↔ c ∈ desk.cases ∧ c.id = id :=
  KeyedRows.find?_eq_some_iff (fun c : CaseRow => c.id) desk.caseIds id c

theorem recovery?_eq_some_iff (desk : Desk) (caseId : String) (r : RecoveryRecord) :
    desk.recovery? caseId = some r ↔ r ∈ desk.recoveries ∧ r.caseId = caseId :=
  KeyedRows.find?_eq_some_iff RecoveryRecord.caseId desk.recoveryCases caseId r

theorem recovery?_eq_none_iff (desk : Desk) (caseId : String) :
    desk.recovery? caseId = none ↔ caseId ∉ desk.recoveries.map RecoveryRecord.caseId := by
  rw [recovery?, KeyedRows.find?_eq_none_iff, List.mem_map]
  grind

theorem exception?_stored {desk : Desk} {id : String} {e : ReconciliationException} (found : desk.exception? id = some e) :
    e.id ∈ desk.exceptions.map (·.id) := List.mem_map_of_mem (List.mem_of_find?_eq_some found)

theorem exception?_eq_some_iff (desk : Desk) (id : String) (e : ReconciliationException) :
    desk.exception? id = some e ↔ e ∈ desk.exceptions ∧ e.id = id :=
  KeyedRows.find?_eq_some_iff (fun e : ReconciliationException => e.id) desk.exceptionIds id e

/-! ## Writes -/

/-- `add_case_event`. -/
def log (desk : Desk) (caseId eventType : String) (metadata : CaseMetadata := []) : Desk :=
  { desk with events := desk.events ++ [⟨caseId, eventType, metadata⟩] }

/-- Writes columns of a case that its registration did not fix. -/
def updateCase (desk : Desk) (id : String) (f : CaseRow → CaseRow)
    (fixed : ∀ c, (f c).id = c.id ∧ (f c).fingerprint = c.fingerprint ∧ (f c).caseNumber = c.caseNumber) : Desk :=
  { desk with
    cases := KeyedRows.update (·.id) id f desk.cases
    caseIds := by rw [KeyedRows.map_update _ fun c => (fixed c).1]; exact desk.caseIds
    fingerprints := by rw [KeyedRows.map_update _ fun c => (fixed c).2.1]; exact desk.fingerprints
    numbering := by rw [KeyedRows.map_update _ fun c => (fixed c).2.2]; exact desk.numbering }

def touchCase (desk : Desk) (id : String) (now : Int) : Desk :=
  desk.updateCase id (fun c => { c with updatedAt := now }) fun _ => ⟨rfl, rfl, rfl⟩

/-- Adds a case under the next number of its year, unless its key or fingerprint is taken. -/
def insertCase (desk : Desk) (row : CaseRow) (year : Nat)
    (numbered : row.caseNumber = nextCaseNumber (desk.cases.map (·.caseNumber)) year) : Except CaseError Desk :=
  if new : row.id ∉ desk.cases.map (·.id) ∧ row.fingerprint ∉ desk.cases.map (·.fingerprint) then
    .ok { desk with
      cases := desk.cases ++ [row]
      caseIds := KeyedRows.nodup_snoc _ desk.caseIds new.1
      fingerprints := KeyedRows.nodup_snoc _ desk.fingerprints new.2
      numbering := by
        rw [List.map_append, List.map_singleton, numbered]
        exact desk.numbering.next year }
  else .error .integrity

def addRecovery (desk : Desk) (row : RecoveryRecord) (new : desk.recovery? row.caseId = none) : Desk :=
  { desk with
    recoveries := desk.recoveries ++ [row]
    recoveryCases := KeyedRows.nodup_snoc _ desk.recoveryCases ((desk.recovery?_eq_none_iff _).mp new) }

def updateRecovery (desk : Desk) (caseId : String) (f : RecoveryRecord → RecoveryRecord)
    (fixed : ∀ r, (f r).caseId = r.caseId) : Desk :=
  { desk with
    recoveries := KeyedRows.update RecoveryRecord.caseId caseId f desk.recoveries
    recoveryCases := by rw [KeyedRows.map_update _ fixed]; exact desk.recoveryCases }

/-- Adds an exception, unless it names a case another exception names already. -/
def insertException (desk : Desk) (keys : KeySource) (content : ExceptionContent)
    (new : content.fingerprint ∉ desk.exceptions.map (·.fingerprint)) : Except CaseError Desk :=
  let row : ReconciliationException := { content with id := keys.draw (desk.exceptions.map (·.id)) }
  if free : ∀ id, row.reconciliationCaseId = some id → ∀ e ∈ desk.exceptions, e.reconciliationCaseId ≠ some id then
    .ok { desk with
      exceptions := desk.exceptions ++ [row]
      exceptionIds := KeyedRows.nodup_snoc _ desk.exceptionIds (keys.fresh _)
      exceptionFingerprints := KeyedRows.nodup_snoc _ desk.exceptionFingerprints new
      reconciliationCases := desk.reconciliationCases.snoc free
      linkedExceptions := fun l member => by
        rw [List.map_append]
        exact List.mem_append_left _ (desk.linkedExceptions l member) }
  else .error .integrity

/-- `exception.reconciliation_case_id = case.id`. -/
def nameCase (desk : Desk) (exceptionId caseId : String) : Except CaseError Desk :=
  if free : ∀ e ∈ desk.exceptions, e.reconciliationCaseId ≠ some caseId then
    have ids : ∀ e : ReconciliationException, (e.naming caseId).id = e.id := fun _ => rfl
    have texts : ∀ e : ReconciliationException, (e.naming caseId).fingerprint = e.fingerprint := fun _ => rfl
    .ok { desk with
      exceptions := KeyedRows.update (·.id) exceptionId (.naming caseId) desk.exceptions
      exceptionIds := by rw [KeyedRows.map_update _ ids]; exact desk.exceptionIds
      exceptionFingerprints := by rw [KeyedRows.map_update _ texts]; exact desk.exceptionFingerprints
      reconciliationCases := desk.reconciliationCases.update (·.id) desk.exceptionIds fun _ value taken e member => by
        cases taken
        exact free e member
      linkedExceptions := by rw [KeyedRows.map_update _ ids]; exact desk.linkedExceptions }
  else .error .integrity

def link (desk : Desk) (caseId exceptionId : String) (stored : exceptionId ∈ desk.exceptions.map (·.id)) : Desk :=
  { desk with
    links := desk.links ++ [⟨caseId, exceptionId⟩]
    linkedExceptions := List.forall_mem_append.mpr ⟨desk.linkedExceptions, by simpa using stored⟩ }

def linked (desk : Desk) (caseId exceptionId : String) : Bool :=
  desk.links.any fun l => l.caseId = caseId && l.exceptionId = exceptionId

end Desk
end RCAA
