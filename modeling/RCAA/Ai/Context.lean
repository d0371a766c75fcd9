import RCAA.Ai.Models
import RCAA.Rca.Engine

/-! What a provider is told of a case: its exceptions, its evidence and its stored root
cause, with the fingerprints of the evidence and of the whole. A context that exceeds a
configured size is refused. -/

namespace RCAA.Ai

open AiRuntime

def maxEvidenceItems : Nat := 30
def maxSnapshotChars : Nat := 4000
def maxContextChars : Nat := 30000

/-! ## The context of a case -/

/-- The rows a context is built of, and when each exception was created. -/
structure CaseFiles where
  exceptions : List ReconciliationException := []
  exceptionCreatedAt : String → Int := fun _ => 0
  links : List CaseExceptionLink := []
  evidence : List Evidence := []
  rcas : List Rca := []

namespace CaseFiles

def listCaseExceptions (files : CaseFiles) (caseId : String) : List ReconciliationException :=
  orderRows (fun e => ⟨files.exceptionCreatedAt e.id, some 0⟩) (·.id)
    (files.exceptions.filter fun e => files.links.any fun l => l.caseId = caseId ∧ l.exceptionId = e.id)

def listCaseEvidence (files : CaseFiles) (caseId : String) : List Evidence :=
  orderRows (fun e => ⟨e.capturedAt, some 0⟩) (·.id) (files.evidence.filter fun e => e.caseId = caseId)

def rca (files : CaseFiles) (caseId : String) : Option Rca := files.rcas.find? fun r => r.reconciliationCaseId = caseId

end CaseFiles

def metaJson : MetaValue → Json
  | .null => .null
  | .text value => .str value
  | .texts values => textsJson values
  | .rows values => .list (values.map fun row => .object (row.map fun entry => (entry.1, .str entry.2)))

def metadataJson (metadata : CaseMetadata) : Json := .object (metadata.map fun entry => (entry.1, metaJson entry.2))

def capturedAtText (e : Evidence) : String := (⟨e.capturedAt, some 0⟩ : DateTime).isoformat

/-- The members of `evidence_dicts`. -/
def evidenceEntries (e : Evidence) : List (String × Json) :=
  [("id", .str e.id),
    ("evidence_type", .str e.evidenceType.value),
    ("source_entity_type", .str e.sourceEntityType),
    ("source_record_id", .str e.sourceEntityId),
    ("captured_at", .str (capturedAtText e)),
    ("relevance", .str e.relevance),
    ("snapshot", metadataJson e.snapshot)]

def evidenceKeys : List String :=
  ["id", "evidence_type", "source_entity_type", "source_record_id", "captured_at", "relevance", "snapshot"]

theorem evidenceEntries_keys (e : Evidence) : (evidenceEntries e).map Prod.fst = evidenceKeys := rfl

theorem id_of_entries :
    Function.FactorsThrough (fun e : Evidence => e.id) fun e => (Json.object (evidenceEntries e)).sorted := by
  intro e e' same
  have distinct : ((evidenceEntries e).map Prod.fst).Nodup := by
    rw [evidenceEntries_keys]
    decide
  have fields := Json.sortedFields_inj ((evidenceEntries_keys e).trans (evidenceEntries_keys e').symm) distinct same
  simp only [evidenceEntries, Json.sortedFields, Json.sorted_str, List.cons.injEq, Prod.mk.injEq, true_and, Json.str_inj]
    at fields
  exact fields.1

def evidenceDicts (evidence : List Evidence) : Json := .list (evidence.map fun e => .object (evidenceEntries e))

def categoryText : RootCauseCategory → String
  | .provider => "PROVIDER"
  | .settlement => "SETTLEMENT"
  | .refund => "REFUND"
  | .bank => "BANK"
  | .dataQuality => "DATA_QUALITY"
  | .duplication => "DUPLICATION"
  | .matching => "MATCHING"
  | .timing => "TIMING"
  | .unknown => "UNKNOWN"

def confidenceText : RcaConfidence → String
  | .high => "HIGH"
  | .medium => "MEDIUM"
  | .low => "LOW"
  | .unknown => "UNKNOWN"

def rcaDict (rca : Rca) : Json := .object
  [("root_cause_code", .str rca.cause.code),
    ("category", .str (categoryText rca.cause.category)),
    ("confidence", .str (confidenceText rca.cause.confidence)),
    ("explanation", .str rca.cause.explanation),
    ("recommended_action", .str rca.cause.action),
    ("evidence_ids", textsJson rca.evidenceIds),
    ("engine_version", .str rca.engineVersion)]

def caseData (case : CaseRow) : Json := .object
  [("id", .str case.id),
    ("case_number", .str case.caseNumber),
    ("merchant_id", .ofOption case.merchantId),
    ("title", .str case.title),
    ("status", .str case.status),
    ("priority", .str case.priority),
    ("severity", .str case.severity),
    ("record_id", .ofOption case.recordId),
    ("record_type", .str case.recordType)]

def exceptionData (e : ReconciliationException) : Json := .object
  [("id", .str e.id),
    ("exception_code", .str e.exceptionCode),
    ("severity", .str e.severity),
    ("status", .str e.status),
    ("primary_record_id", .ofOption e.primaryRecordId),
    ("related_record_id", .ofOption e.relatedRecordId),
    ("expected_amount", .str e.expectedAmount.str),
    ("actual_amount", .str e.actualAmount.str),
    ("difference", .str e.difference.str)]

def provenance (e : Evidence) : Json := .object
  [("evidence_id", .str e.id),
    ("source_entity_type", .str e.sourceEntityType),
    ("source_record_id", .str e.sourceEntityId),
    ("captured_at", .str (capturedAtText e))]

/-- The case's amounts, and those of the first payment, settlement and refund of its evidence. -/
def financialValues (case : CaseRow) (evidence : List Evidence) : CaseMetadata :=
  let amounts : CaseMetadata :=
    [("expected_amount", .text case.expectedAmount.money.str), ("actual_amount", .text case.actualAmount.money.str),
      ("difference", .text case.storedDifference.str)]
  evidence.foldl
    (fun values e =>
      match e.evidenceType with
      | .paymentRecord => CaseMetadata.setDefault values "payment_amount" (CaseMetadata.get e.snapshot "amount")
      | .settlementRecord => CaseMetadata.setDefault values "settlement_amount" (CaseMetadata.get e.snapshot "net_amount")
      | .refundRecord => CaseMetadata.setDefault values "refund_amount" (CaseMetadata.get e.snapshot "amount")
      | _ => values)
    amounts

def allowedActions : List String :=
  ["summarize evidence", "explain deterministic findings", "suggest investigation questions", "recommend operational next steps"]

structure InvestigationContext where
  case : CaseRow
  exceptions : List ReconciliationException
  evidence : List Evidence
  deterministicRca : Option Rca
  relevantFinancialValues : CaseMetadata
  evidenceFingerprint : String
  contextFingerprint : String

section Fingerprints
variable [AiRuntime]

/-- `_fingerprint`. -/
def fingerprint (value : Json) : String := sha256 (compact value.sorted)

def evidenceFingerprint (evidence : List Evidence) : String := fingerprint (evidenceDicts evidence)

def baseContext (case : CaseRow) (exceptions : List ReconciliationException) (evidence : List Evidence) (rca : Option Rca) : Json :=
  .object
    [("case", caseData case),
      ("exceptions", .list (exceptions.map exceptionData)),
      ("evidence", evidenceDicts evidence),
      ("deterministic_rca", (rca.map rcaDict).getD .null),
      ("relevant_financial_values", metadataJson (financialValues case evidence)),
      ("provenance", .list (evidence.map provenance)),
      ("allowed_actions", textsJson allowedActions),
      ("evidence_fingerprint", .str (evidenceFingerprint evidence))]

def insufficientContext (message : String) : AIServiceError := ⟨"INSUFFICIENT_CONTEXT", message⟩

def buildContext (files : CaseFiles) (case : CaseRow) : Except AIServiceError InvestigationContext :=
  let exceptions := files.listCaseExceptions case.id
  let evidence := files.listCaseEvidence case.id
  let rca := files.rca case.id
  let base := baseContext case exceptions evidence rca
  if maxEvidenceItems < evidence.length then
    .error (insufficientContext "Investigation evidence exceeds the configured context record limit")
  else if ∃ e ∈ evidence, maxSnapshotChars < (spaced (metadataJson e.snapshot).sorted).length then
    .error (insufficientContext "A required evidence snapshot exceeds the configured context size")
  else if maxContextChars < (compact base.sorted).length then
    .error (insufficientContext "Required investigation evidence exceeds the configured context size")
  else .ok {
    case, exceptions, evidence
    deterministicRca := rca
    relevantFinancialValues := financialValues case evidence
    evidenceFingerprint := evidenceFingerprint evidence
    contextFingerprint := fingerprint base }

/-- A context holds the evidence of its case, whole and in order, and its fingerprint. -/
theorem buildContext_ok {files : CaseFiles} {case : CaseRow} {context : InvestigationContext}
    (built : buildContext files case = .ok context) :
    context.evidence = files.listCaseEvidence case.id ∧
      context.evidenceFingerprint = evidenceFingerprint (files.listCaseEvidence case.id) := by
  simp only [buildContext] at built
  split_ifs at built
  cases built
  exact ⟨rfl, rfl⟩

end Fingerprints
end RCAA.Ai
