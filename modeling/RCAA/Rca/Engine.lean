import RCAA.Evidence.Builder

/-! The root cause of a case: what the rules say of its exception once the evidence is
complete, and the version of it that is stored. A version is replaced when what it says
changes, and what it replaces goes into the history. -/

namespace RCAA

inductive RootCauseCategory where
  | provider | settlement | refund | bank | dataQuality | duplication | matching | timing | unknown
deriving DecidableEq, Repr

inductive RcaConfidence where
  | high | medium | low | unknown
deriving DecidableEq, Repr

/-! ## Rules -/

/-- What `classify` returns. -/
structure RootCause where
  code : String
  category : RootCauseCategory
  confidence : RcaConfidence
  explanation : String
  action : String
deriving DecidableEq

/-- `RULES`. -/
def rcaRules : List (String × RootCause) :=
  [("BANK_SETTLEMENT_MISMATCH",
      ⟨"BANK_SETTLEMENT_MISMATCH", .settlement, .high,
        "A bank credit was linked to a provider settlement but the credited amount or currency differs from the settlement net amount.",
        "Compare the bank statement, provider settlement, bank charges and any split or adjusted payout records."⟩),
    ("BANK_WITHOUT_SETTLEMENT",
      ⟨"BANK_WITHOUT_SETTLEMENT", .provider, .high,
        "A positive bank credit could not be linked to a provider settlement using the configured deterministic matching rules.",
        "Identify the source of the credit and import the corresponding provider settlement or adjustment record."⟩),
    ("BANK_AMBIGUOUS_MATCH",
      ⟨"BANK_AMBIGUOUS_MATCH", .matching, .high,
        "Multiple bank transactions could represent the same settlement, so no bank credit was selected automatically.",
        "Review the candidate bank transactions and confirm the authoritative payout."⟩),
    ("PAYMENT_NOT_SETTLED",
      ⟨"SETTLEMENT_MISSING", .settlement, .high,
        "Payment was captured but no settlement record was found within the configured reconciliation window.",
        "Verify provider settlement status and settlement batch."⟩),
    ("DELAYED_SETTLEMENT",
      ⟨"SETTLEMENT_DELAYED", .timing, .high,
        "Payment was captured but settlement was not recorded within the configured settlement timing window.",
        "Verify provider settlement status and settlement batch."⟩),
    ("AMOUNT_MISMATCH",
      ⟨"SETTLEMENT_AMOUNT_MISMATCH", .settlement, .high,
        "The recorded settlement amount does not equal the deterministic expected net amount calculated from the payment and supported adjustments.",
        "Compare the provider settlement calculation against the recorded payment, refund, fee and tax components."⟩),
    ("STATUS_MISMATCH",
      ⟨"STATUS_INCONSISTENCY", .settlement, .high,
        "The payment and settlement records contain inconsistent financial statuses.",
        "Compare payment and settlement status with the provider records."⟩),
    ("DUPLICATE_PAYMENT",
      ⟨"DUPLICATE_PROVIDER_RECORD", .duplication, .high,
        "Multiple payment records were identified as the same provider/source record by deterministic duplicate rules.",
        "Review the duplicate provider records and retain the authoritative source record."⟩),
    ("DUPLICATE_REFUND",
      ⟨"DUPLICATE_PROVIDER_RECORD", .duplication, .high,
        "Multiple refund records were identified as the same provider/source record by deterministic duplicate rules.",
        "Review the duplicate refund records and confirm the authoritative provider record."⟩),
    ("DUPLICATE_SETTLEMENT",
      ⟨"DUPLICATE_PROVIDER_RECORD", .duplication, .high,
        "Multiple settlement records were identified as the same provider/source record by deterministic duplicate rules.",
        "Review the duplicate settlement records and confirm the authoritative provider record."⟩),
    ("AMBIGUOUS_MATCH",
      ⟨"AMBIGUOUS_TRANSACTION_MAPPING", .matching, .high,
        "Multiple candidate records satisfied the deterministic matching criteria, so no candidate was selected automatically.",
        "Review the candidate settlement records manually."⟩),
    ("SETTLEMENT_WITHOUT_PAYMENT",
      ⟨"PROVIDER_REFERENCE_MISMATCH", .provider, .high,
        "A settlement record was stored without a corresponding payment record in the normalized financial data.",
        "Verify the provider reference and settlement source data."⟩),
    ("REFUND_WITHOUT_PAYMENT",
      ⟨"REFUND_ORPHANED", .refund, .high, "A refund record was stored without a corresponding payment record.",
        "Compare the refund reference with provider payment records."⟩),
    ("REFUND_NOT_SETTLED",
      ⟨"REFUND_UNSETTLED", .refund, .medium,
        "A refund exists but the deterministic reconciliation result does not show a settled refund adjustment.",
        "Compare refund status with provider records and settlement data."⟩)]

def rcaRule (exceptionCode : String) : Option RootCause :=
  (rcaRules.find? fun entry => entry.1 = exceptionCode).map Prod.snd

def insufficientEvidence : RootCause where
  code := "INSUFFICIENT_EVIDENCE"
  category := .unknown
  confidence := .unknown
  explanation := "The available stored evidence is insufficient to determine a supported root cause."
  action := "Collect the missing source records before drawing a root-cause conclusion."

def unknownRootCause : RootCause where
  code := "UNKNOWN_ROOT_CAUSE"
  category := .unknown
  confidence := .unknown
  explanation := "The deterministic rules do not contain enough evidence to assign a supported root cause."
  action := "Review the stored financial records and reconciliation result."

def classify (exceptionCode : String) (evidenceComplete : Bool) : RootCause :=
  if evidenceComplete then (rcaRule exceptionCode).getD unknownRootCause else insufficientEvidence

/-- `_explanation`. -/
def explanationOf (code : String) (case : CaseRow) : String :=
  let base := (classify code true).explanation
  if code = "AMOUNT_MISMATCH" then
    base ++ " Gross/expected inputs: expected=" ++ case.expectedAmount.money.str ++ "; actual=" ++ case.actualAmount.money.str ++
      "; difference=" ++ case.storedDifference.str ++
      ". The calculation is based only on stored deterministic reconciliation values."
  else base

/-! ## Versions -/

def engineVersion : String := "rca-v1"

/-- What the fingerprint of a version is taken of. -/
structure RcaPayload where
  caseId : String
  exceptionId : Option String
  cause : RootCause
  evidenceIds : List String
  engineVersion : String
deriving DecidableEq

/-- The digest of the canonical JSON of a payload. -/
class RcaHashing where
  digest : RcaPayload → String

/-- The columns a result and its history have in common. -/
structure RcaVersion where
  reconciliationCaseId : String
  exceptionId : Option String
  cause : RootCause
  evidenceIds : List String
  engineVersion : String
  fingerprint : String
  generatedAt : Int
deriving DecidableEq

structure Rca extends RcaVersion where
  id : String
  confidence : Decimal
deriving DecidableEq

structure RcaHistory extends RcaVersion where
  archivedAt : Int
deriving DecidableEq

/-- A case has one result, whose fingerprint is the digest of what it says, for the
exception it was last generated from. -/
structure RcaTables [RcaHashing] where
  results : List Rca := []
  history : List RcaHistory := []
  cases : (results.map (·.reconciliationCaseId)).Nodup := by decide
  sealed : ∀ r ∈ results, ∃ exceptionId,
    r.fingerprint = RcaHashing.digest ⟨r.reconciliationCaseId, exceptionId, r.cause, r.evidenceIds, r.engineVersion⟩ := by simp

/-- The number stored with a new result. -/
def numericConfidence : RcaConfidence → Decimal
  | .high => ⟨95, -2⟩
  | .medium => ⟨75, -2⟩
  | .low => ⟨50, -2⟩
  | .unknown => ⟨0, -2⟩

section Hashing
variable [RcaHashing]

namespace RcaTables

def find (tables : RcaTables) (caseId : String) : Option Rca := tables.results.find? fun r => r.reconciliationCaseId = caseId

theorem find_eq_some_iff (tables : RcaTables) (caseId : String) (r : Rca) :
    tables.find caseId = some r ↔ r ∈ tables.results ∧ r.reconciliationCaseId = caseId :=
  KeyedRows.find?_eq_some_iff (fun r : Rca => r.reconciliationCaseId) tables.cases caseId r

/-- What replaces the columns of a result; its exception and its number stay. -/
def renewed (payload : RcaPayload) (now : Int) (r : Rca) : Rca :=
  { r with
    cause := payload.cause, evidenceIds := payload.evidenceIds, engineVersion := payload.engineVersion
    fingerprint := RcaHashing.digest payload, generatedAt := now }

/-- Archives a result and renews it. -/
def replace (tables : RcaTables) (payload : RcaPayload) (now : Int) (existing : Rca) : RcaTables where
  results := KeyedRows.update (·.reconciliationCaseId) payload.caseId (renewed payload now) tables.results
  history := tables.history ++ [{ existing.toRcaVersion with archivedAt := now }]
  cases := by
    have ids : ∀ r : Rca, (renewed payload now r).reconciliationCaseId = r.reconciliationCaseId := fun _ => rfl
    rw [KeyedRows.map_update _ ids]
    exact tables.cases
  sealed r member := by
    obtain ⟨old, inside, rfl⟩ := List.mem_map.mp member
    by_cases renews : old.reconciliationCaseId = payload.caseId
    · rw [if_pos renews]
      refine ⟨payload.exceptionId, ?_⟩
      change RcaHashing.digest payload = _
      rw [renewed, renews]
    · rw [if_neg renews]
      exact tables.sealed old inside

/-- The first result of a case. -/
def insert (tables : RcaTables) (id : String) (payload : RcaPayload) (now : Int) (new : tables.find payload.caseId = none) :
    Rca × RcaTables :=
  let item : Rca :=
    { reconciliationCaseId := payload.caseId
      exceptionId := payload.exceptionId
      cause := payload.cause
      evidenceIds := payload.evidenceIds
      engineVersion := payload.engineVersion
      fingerprint := RcaHashing.digest payload
      generatedAt := now
      id
      confidence := numericConfidence payload.cause.confidence }
  (item,
    { tables with
      results := tables.results ++ [item]
      cases := KeyedRows.nodup_snoc _ tables.cases (by
        rw [find, KeyedRows.find?_eq_none_iff] at new
        rw [List.mem_map]
        rintro ⟨r, member, same⟩
        exact new r member same)
      sealed := List.forall_mem_append.mpr ⟨tables.sealed, by
        simp only [List.mem_singleton, forall_eq, item]
        exact ⟨payload.exceptionId, rfl⟩⟩ })

/-- Stores what a payload says: the result of its case, and whether it is new. -/
def store (tables : RcaTables) (keys : KeySource) (payload : RcaPayload) (now : Int) : (Rca × Bool) × RcaTables :=
  match known : tables.find payload.caseId with
  | some existing =>
    if existing.fingerprint = RcaHashing.digest payload then ((existing, false), tables)
    else ((renewed payload now existing, false), tables.replace payload now existing)
  | none =>
    let (item, tables) := tables.insert (keys.draw (tables.results.map (·.id))) payload now known
    ((item, true), tables)

end RcaTables

/-- The result of a call says what the call says, whether it was there before or not. -/
theorem RcaTables.store_says (lossless : Function.Injective RcaHashing.digest) (tables : RcaTables) (keys : KeySource)
    (payload : RcaPayload) (now : Int) :
    (tables.store keys payload now).1.1.cause = payload.cause ∧
      (tables.store keys payload now).1.1.evidenceIds = payload.evidenceIds := by
  unfold store
  split
  · next existing known =>
    split
    · next same =>
      obtain ⟨member, _⟩ := (tables.find_eq_some_iff _ _).mp known
      obtain ⟨exceptionId, sealed⟩ := tables.sealed existing member
      rw [← lossless (sealed.symm.trans same)]
      exact ⟨rfl, rfl⟩
    · exact ⟨rfl, rfl⟩
  · exact ⟨rfl, rfl⟩

/-! ## Generating -/

variable [EvidenceHashing]

/-- What a call says of a case. -/
def rcaPayload (case : CaseRow) (exception : Option ReconciliationException) (bundle : EvidenceBuilder.EvidenceBundle) :
    RcaPayload :=
  let code := (exception.map (·.exceptionCode)).getD "UNKNOWN_REFERENCE"
  let cause := classify code bundle.complete
  { caseId := case.id
    exceptionId := exception.map (·.id)
    cause := if bundle.complete then { cause with explanation := explanationOf code case } else cause
    evidenceIds := bundle.items.map (·.id)
    engineVersion := engineVersion }

def generateRca (keys : KeySource) (now : Int) (store : Store) (desk : Desk) (table : EvidenceTable) (tables : RcaTables)
    (case : CaseRow) (exception : Option ReconciliationException) : (Rca × Bool) × EvidenceTable × RcaTables :=
  let exception := exception.or (EvidenceBuilder.exceptionOf desk case)
  let (bundle, table) := EvidenceBuilder.build keys store desk table case exception
  let (result, tables) := tables.store keys (rcaPayload case exception bundle) now
  (result, table, tables)

end Hashing

/-! ## Evaluation -/

namespace PlainText

def rcaCategories : List RootCauseCategory :=
  [.provider, .settlement, .refund, .bank, .dataQuality, .duplication, .matching, .timing, .unknown]

def rcaConfidences : List RcaConfidence := [.high, .medium, .low, .unknown]

/-- A value by its place in a list of them all, as that many commas. -/
def placeText [DecidableEq α] (values : List α) (value : α) : List Char :=
  delimitedList ',' ';' (fun _ : Unit => []) (List.replicate (values.idxOf value) ())

theorem delimited_placeText {α : Type} [DecidableEq α] {values : List α} (all : ∀ value, value ∈ values) :
    Delimited (placeText values) := by
  have units : Delimited fun _ : Unit => ([] : List Char) := fun _ _ _ _ same => ⟨rfl, same⟩
  have places : Delimited (delimitedList ',' ';' fun _ : Unit => []) := units.list (by decide)
  refine places.comp (f := fun value => List.replicate (values.idxOf value) ()) fun a b same => ?_
  exact (List.idxOf_inj (all a)).mp (List.replicate_left_injective () same)

def causeText (cause : RootCause) : List Char :=
  marked cause.code ++ (placeText rcaCategories cause.category ++ (placeText rcaConfidences cause.confidence ++
    (marked cause.explanation ++ marked cause.action)))

theorem delimited_causeText : Delimited causeText := by
  have categories : Delimited (placeText rcaCategories) := delimited_placeText fun category => by cases category <;> decide
  have confidences : Delimited (placeText rcaConfidences) := delimited_placeText fun confidence => by cases confidence <;> decide
  have fields := delimited_marked.pair (categories.pair (confidences.pair (delimited_marked.pair delimited_marked)))
  refine fields.comp (f := fun cause : RootCause =>
    (cause.code, cause.category, cause.confidence, cause.explanation, cause.action)) fun a b same => ?_
  cases a
  cases b
  simp_all

/-- The fields of a version one after another stand for the hash in evaluation. -/
scoped instance rcaText : RcaHashing where
  digest payload := String.ofList (marked payload.caseId ++ (optionField payload.exceptionId ++
    (causeText payload.cause ++ (delimitedList ',' ';' marked payload.evidenceIds ++ marked payload.engineVersion))))

theorem rcaText_injective : Function.Injective rcaText.digest := by
  intro a b texts
  have same := String.ofList_inj.mp texts
  obtain ⟨caseId, same⟩ := marked_append_inj same
  obtain ⟨exceptionId, same⟩ := optionField_append_inj same
  obtain ⟨cause, same⟩ := delimited_causeText _ _ _ _ same
  obtain ⟨evidenceIds, same⟩ := delimited_texts _ _ _ _ same
  have version := marked_injective same
  cases a
  cases b
  simp_all

end PlainText
end RCAA
