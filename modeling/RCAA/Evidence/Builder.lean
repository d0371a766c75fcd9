import RCAA.Exceptions.Engine
import RCAA.Library.Delimited

/-! The evidence of a case: snapshots of the stored records it names, of its result and of
its exception, and whether they are all an exception's code asks for. An item is stored
once, by a digest of what it says. Where several rows have one external id the first is
taken; the times rows were received, and the texts an item repeats, are left out. -/

namespace RCAA

inductive EvidenceType where
  | bankTransaction | exceptionRecord | paymentRecord | reconciliationResult | refundRecord | settlementRecord
deriving DecidableEq, Repr

def EvidenceType.value : EvidenceType → String
  | .bankTransaction => "BANK_TRANSACTION"
  | .exceptionRecord => "EXCEPTION_RECORD"
  | .paymentRecord => "PAYMENT_RECORD"
  | .reconciliationResult => "RECONCILIATION_RESULT"
  | .refundRecord => "REFUND_RECORD"
  | .settlementRecord => "SETTLEMENT_RECORD"

/-! ## Items -/

/-- What the fingerprint of an item is taken of. -/
structure EvidencePayload where
  caseId : String
  evidenceType : EvidenceType
  sourceEntityType : String
  sourceEntityId : String
  snapshot : CaseMetadata
  relevance : String
deriving DecidableEq

/-- The digest of the canonical JSON of a payload. -/
class EvidenceHashing where
  digest : EvidencePayload → String

structure Evidence extends EvidencePayload where
  id : String
  capturedAt : Int
  fingerprint : String
deriving DecidableEq

section Hashing
variable [EvidenceHashing]

/-- Every item has the digest of what it says. -/
structure EvidenceTable where
  rows : List Evidence := []
  ids : (rows.map (·.id)).Nodup := by decide
  fingerprints : (rows.map (·.fingerprint)).Nodup := by decide
  sealed : ∀ e ∈ rows, e.fingerprint = EvidenceHashing.digest e.toEvidencePayload := by simp

namespace EvidenceTable

def find (table : EvidenceTable) (payload : EvidencePayload) : Option Evidence :=
  table.rows.find? fun e => e.fingerprint = EvidenceHashing.digest payload

theorem find_eq_none_iff (table : EvidenceTable) (payload : EvidencePayload) :
    table.find payload = none ↔ EvidenceHashing.digest payload ∉ table.rows.map (·.fingerprint) := by
  rw [find, KeyedRows.find?_eq_none_iff, List.mem_map]
  grind

/-- `_add`: the item with this fingerprint, or else a new one. -/
def add (keys : KeySource) (capturedAt : Int) (table : EvidenceTable) (payload : EvidencePayload) :
    Evidence × EvidenceTable :=
  match known : table.find payload with
  | some e => (e, table)
  | none =>
    let item : Evidence :=
      { payload with
        id := keys.draw (table.rows.map (·.id)), capturedAt, fingerprint := EvidenceHashing.digest payload }
    (item,
      { rows := table.rows ++ [item]
        ids := KeyedRows.nodup_snoc _ table.ids (keys.fresh _)
        fingerprints := KeyedRows.nodup_snoc _ table.fingerprints ((table.find_eq_none_iff payload).mp known)
        sealed := List.forall_mem_append.mpr ⟨table.sealed, by simp [item]⟩ })

def addAll (keys : KeySource) (capturedAt : Int) (table : EvidenceTable) : List EvidencePayload → List Evidence × EvidenceTable
  | [] => ([], table)
  | payload :: rest =>
    let (item, table) := table.add keys capturedAt payload
    let (items, table) := table.addAll keys capturedAt rest
    (item :: items, table)

/-! ## Adding again -/

theorem add_found {keys : KeySource} {capturedAt : Int} {table : EvidenceTable} {payload : EvidencePayload} {e : Evidence}
    (found : table.find payload = some e) : table.add keys capturedAt payload = (e, table) := by
  unfold add
  split
  · next other known =>
    rw [found] at known
    rw [Option.some.inj known]
  · next new => cases found.symm.trans new

theorem add_finds (keys : KeySource) (capturedAt : Int) (table : EvidenceTable) (payload : EvidencePayload) :
    (table.add keys capturedAt payload).2.find payload = some (table.add keys capturedAt payload).1 := by
  unfold add
  split
  · next known => exact known
  · next new =>
    have absent : table.rows.find? (fun e => e.fingerprint = EvidenceHashing.digest payload) = none := new
    simp only [find, List.find?_append, absent, Option.none_or, List.find?_singleton, decide_true, if_true]

theorem add_grows (keys : KeySource) (capturedAt : Int) (table : EvidenceTable) (payload : EvidencePayload) :
    table.rows <+: (table.add keys capturedAt payload).2.rows := by
  unfold add
  split
  · exact List.prefix_refl _
  · exact List.prefix_append _ _

theorem addAll_grows (keys : KeySource) (capturedAt : Int) (table : EvidenceTable) (payloads : List EvidencePayload) :
    table.rows <+: (table.addAll keys capturedAt payloads).2.rows := by
  induction payloads generalizing table with
  | nil => exact List.prefix_refl _
  | cons payload rest ih => exact (table.add_grows keys capturedAt payload).trans (ih _)

/-- What was added is found again, and nothing is added for it, however the table has grown. -/
theorem addAll_again {keys : KeySource} {capturedAt : Int} {table later : EvidenceTable} {payloads : List EvidencePayload}
    (grown : (table.addAll keys capturedAt payloads).2.rows <+: later.rows) (again : KeySource) (time : Int) :
    later.addAll again time payloads = ((table.addAll keys capturedAt payloads).1, later) := by
  induction payloads generalizing table with
  | nil => rfl
  | cons payload rest ih =>
    have first : (table.add keys capturedAt payload).2.rows <+: later.rows :=
      (addAll_grows keys capturedAt (table.add keys capturedAt payload).2 rest).trans grown
    have found : later.find payload = some (table.add keys capturedAt payload).1 :=
      first.find?_eq_some (table.add_finds keys capturedAt payload)
    have others := @ih (table.add keys capturedAt payload).2 grown
    simp only [addAll, add_found found, others]

/-! ## What is added -/

variable (lossless : Function.Injective EvidenceHashing.digest)
include lossless

/-- An item that is there already says the same. -/
theorem add_payload (keys : KeySource) (capturedAt : Int) (table : EvidenceTable) (payload : EvidencePayload) :
    (table.add keys capturedAt payload).1.toEvidencePayload = payload := by
  unfold add
  split
  · next e known =>
    have same : e.fingerprint = EvidenceHashing.digest payload := by simpa using List.find?_some known
    exact lossless ((table.sealed e (List.mem_of_find?_eq_some known)).symm.trans same)
  · rfl

theorem addAll_payloads (keys : KeySource) (capturedAt : Int) (table : EvidenceTable) (payloads : List EvidencePayload) :
    (table.addAll keys capturedAt payloads).1.map (·.toEvidencePayload) = payloads := by
  induction payloads generalizing table with
  | nil => rfl
  | cons payload rest ih =>
    simp only [addAll, List.map_cons, ih]
    rw [table.add_payload lossless]

end EvidenceTable
end Hashing

/-! ## Snapshots -/

def isoText (time : Option DateTime) : MetaValue := .ofOption (time.map DateTime.isoformat)

def paymentSnapshot (p : Payment) : CaseMetadata :=
  [("id", .text p.id), ("provider", .text p.provider), ("provider_payment_id", .text p.providerPaymentId),
    ("provider_order_id", .ofOption p.providerOrderId), ("merchant_id", .ofOption p.merchantId),
    ("amount", .text p.amount.str), ("currency", .text p.currency), ("status", .text p.status),
    ("created_at", isoText p.createdAt), ("captured_at", isoText p.capturedAt), ("source", .text p.source),
    ("external_id", .ofOption p.externalId)]

def refundSnapshot (r : Refund) : CaseMetadata :=
  [("id", .text r.id), ("provider", .text r.provider), ("provider_refund_id", .text r.providerRefundId),
    ("provider_payment_id", .text r.providerPaymentId), ("payment_id", .ofOption r.paymentId), ("amount", .text r.amount.str),
    ("status", .text r.status), ("created_at", isoText r.createdAt), ("processed_at", isoText r.processedAt),
    ("source", .text r.source), ("external_id", .ofOption r.externalId)]

def settlementSnapshot (s : Settlement) : CaseMetadata :=
  [("id", .text s.id), ("provider", .text s.provider), ("provider_settlement_id", .text s.providerSettlementId),
    ("provider_payment_id", .text s.providerPaymentId), ("payment_id", .ofOption s.paymentId),
    ("gross_amount", .text s.grossAmount.str), ("fee", .text s.fee.str), ("tax", .text s.tax.str),
    ("net_amount", .text s.netAmount.str), ("status", .text s.status), ("settled_at", isoText s.settledAt),
    ("utr", .ofOption s.utr), ("source", .text s.source), ("external_id", .ofOption s.externalId)]

def bankSnapshot (b : BankTransaction) : CaseMetadata :=
  [("id", .text b.id), ("source", .text b.source), ("provider", .ofOption b.provider), ("external_id", .text b.externalId),
    ("merchant_id", .ofOption b.merchantId), ("reference", .ofOption b.reference), ("amount", .text b.amount.str),
    ("currency", .text b.currency), ("status", .text b.status), ("event_timestamp", isoText b.eventTimestamp)]

def Record.snapshot : Record → CaseMetadata
  | .payment p => paymentSnapshot p
  | .refund r => refundSnapshot r
  | .settlement s => settlementSnapshot s
  | .bank b => bankSnapshot b

def Record.evidenceType : Record → EvidenceType
  | .payment _ => .paymentRecord
  | .refund _ => .refundRecord
  | .settlement _ => .settlementRecord
  | .bank _ => .bankTransaction

/-- `type(record).__name__`. -/
def Record.entityType : Record → String
  | .payment _ => "Payment"
  | .refund _ => "Refund"
  | .settlement _ => "Settlement"
  | .bank _ => "BankTransaction"

def MetaValue.truthy : MetaValue → Bool
  | .null => false
  | .text value => value ≠ ""
  | .texts values => !values.isEmpty
  | .rows values => !values.isEmpty

/-! ## The builder -/

namespace EvidenceBuilder

/-- `REQUIRED`, each in the order in which what is missing is listed. -/
def requiredTypes : List (String × List EvidenceType) :=
  [("PAYMENT_NOT_SETTLED", [.exceptionRecord, .paymentRecord, .reconciliationResult]),
    ("DELAYED_SETTLEMENT", [.exceptionRecord, .paymentRecord, .reconciliationResult]),
    ("AMOUNT_MISMATCH", [.exceptionRecord, .paymentRecord, .reconciliationResult, .settlementRecord]),
    ("STATUS_MISMATCH", [.exceptionRecord, .paymentRecord, .reconciliationResult, .settlementRecord]),
    ("DUPLICATE_PAYMENT", [.exceptionRecord, .paymentRecord]),
    ("DUPLICATE_REFUND", [.exceptionRecord, .refundRecord]),
    ("DUPLICATE_SETTLEMENT", [.exceptionRecord, .settlementRecord]),
    ("AMBIGUOUS_MATCH", [.exceptionRecord, .reconciliationResult]),
    ("SETTLEMENT_WITHOUT_PAYMENT", [.exceptionRecord, .settlementRecord]),
    ("REFUND_WITHOUT_PAYMENT", [.exceptionRecord, .refundRecord]),
    ("REFUND_NOT_SETTLED", [.exceptionRecord, .paymentRecord, .reconciliationResult, .refundRecord]),
    ("BANK_SETTLEMENT_MISMATCH", [.bankTransaction, .exceptionRecord, .reconciliationResult, .settlementRecord]),
    ("BANK_WITHOUT_SETTLEMENT", [.bankTransaction, .exceptionRecord]),
    ("BANK_AMBIGUOUS_MATCH", [.bankTransaction, .exceptionRecord, .reconciliationResult])]

def required (code : String) : List EvidenceType :=
  ((requiredTypes.find? fun entry => entry.1 = code).map Prod.snd).getD [.exceptionRecord]

/-- `_find_by_id_or_external`, for the rows and the external id of one model. -/
def findByIdOrExternal (rows : List α) (id externalId : α → String) (value : Option String) : Option α :=
  match Cases.given value with
  | none => none
  | some value => (rows.find? fun row => id row = value).or (rows.find? fun row => externalId row = value)

def findPayment (store : Store) (value : Option String) : Option Payment :=
  findByIdOrExternal store.payments Payment.id Payment.providerPaymentId value

def findRefund (store : Store) (value : Option String) : Option Refund :=
  findByIdOrExternal store.refunds Refund.id Refund.providerRefundId value

def findSettlement (store : Store) (value : Option String) : Option Settlement :=
  findByIdOrExternal store.settlements Settlement.id Settlement.providerSettlementId value

def findBankTransaction (store : Store) (value : Option String) : Option BankTransaction :=
  findByIdOrExternal store.bankTransactions BankTransaction.id BankTransaction.externalId value

section Build
variable (store : Store) (case : CaseRow) (exception : ReconciliationException)

def primary : Option Record :=
  let recordId := (Cases.given case.recordId).or exception.primaryRecordId
  if case.recordType = "bank_transaction" then (findBankTransaction store recordId).map .bank
  else if case.recordType = "settlement" then (findSettlement store recordId).map .settlement
  else if case.recordType = "refund" then (findRefund store recordId).map .refund
  else match Cases.given case.paymentId with
    | some paymentId => (store.getPayment (some paymentId)).map .payment
    | none => (findPayment store recordId).map .payment

/-- Only a settlement is looked for; the bank row the source looks up besides is not used. -/
def related : Option Settlement := findSettlement store ((Cases.given case.matchedRecordId).or exception.relatedRecordId)

def primaryPayload (record : Record) : EvidencePayload where
  caseId := case.id
  evidenceType := record.evidenceType
  sourceEntityType := record.entityType
  sourceEntityId := record.id
  snapshot := record.snapshot
  relevance := "Primary financial record supporting the exception."

def relatedPayload (s : Settlement) : EvidencePayload where
  caseId := case.id
  evidenceType := .settlementRecord
  sourceEntityType := "Settlement"
  sourceEntityId := s.id
  snapshot := settlementSnapshot s
  relevance := "Matched settlement record used by reconciliation."

def resultPayload : EvidencePayload :=
  let candidateRecords := CaseMetadata.get case.metadataJson "candidate_records"
  if candidateRecords.truthy then
    { caseId := case.id
      evidenceType := .reconciliationResult
      sourceEntityType := "ReconciliationResult"
      sourceEntityId := case.id
      snapshot := [("candidate_records", candidateRecords), ("match_method", .text case.matchMethod),
        ("match_confidence", .text case.matchConfidence)]
      relevance := "Candidate comparison data recorded by deterministic reconciliation." }
  else
    { caseId := case.id
      evidenceType := .reconciliationResult
      sourceEntityType := "ReconciliationResult"
      sourceEntityId := case.id
      snapshot := [("expected_amount", .text case.expectedAmount.money.str),
        ("actual_amount", .text case.actualAmount.money.str), ("difference", .text case.storedDifference.str),
        ("match_method", .text case.matchMethod), ("match_confidence", .text case.matchConfidence),
        ("reason_code", .text case.reasonCode), ("matched_record_id", .ofOption case.matchedRecordId),
        ("record_id", .ofOption case.recordId)]
      relevance := "Stored deterministic reconciliation calculation and match result." }

def exceptionPayload : EvidencePayload where
  caseId := case.id
  evidenceType := .exceptionRecord
  sourceEntityType := "ReconciliationException"
  sourceEntityId := exception.id
  snapshot := [("id", .text exception.id), ("exception_code", .text exception.exceptionCode),
    ("severity", .text exception.severity), ("status", .text exception.status),
    ("primary_record_id", .ofOption exception.primaryRecordId), ("related_record_id", .ofOption exception.relatedRecordId),
    ("expected_amount", .text exception.expectedAmount.str), ("actual_amount", .text exception.actualAmount.str),
    ("difference", .text exception.difference.str), ("fingerprint", .text exception.fingerprint)]
  relevance := "Deterministic exception that triggered the investigation."

/-- What a build adds, in this order. -/
def payloads : List EvidencePayload :=
  ((primary store case exception).map (primaryPayload case)).toList ++
    ((related store case exception).map (relatedPayload case)).toList ++
    [resultPayload case, exceptionPayload case exception]

end Build

structure EvidenceBundle where
  items : List Evidence
  complete : Bool
  missing : List String

/-- The exception that names the case. -/
def exceptionOf (desk : Desk) (case : CaseRow) : Option ReconciliationException :=
  desk.exceptions.find? fun e => e.reconciliationCaseId = some case.id

variable [EvidenceHashing]

def build (keys : KeySource) (store : Store) (desk : Desk) (table : EvidenceTable) (case : CaseRow)
    (exception : Option ReconciliationException) : EvidenceBundle × EvidenceTable :=
  match exception.or (exceptionOf desk case) with
  | none => (⟨[], false, [EvidenceType.exceptionRecord.value]⟩, table)
  | some exception =>
    let (items, table) := table.addAll keys case.createdAt (payloads store case exception)
    let missing := (required exception.exceptionCode).filter fun type => type ∉ items.map (·.evidenceType)
    (⟨items, missing.isEmpty, missing.map EvidenceType.value⟩, table)

theorem build_grows (keys : KeySource) (store : Store) (desk : Desk) (table : EvidenceTable) (case : CaseRow)
    (exception : Option ReconciliationException) : table.rows <+: (build keys store desk table case exception).2.rows := by
  simp only [build]
  split
  · exact List.prefix_refl _
  · exact EvidenceTable.addAll_grows _ _ _ _

/-- Evidence that was built is found again, however the table has grown. -/
theorem build_again {keys : KeySource} {store : Store} {desk : Desk} {table later : EvidenceTable} {case : CaseRow}
    {exception : Option ReconciliationException} (grown : (build keys store desk table case exception).2.rows <+: later.rows)
    (again : KeySource) {now : Desk} {given : Option ReconciliationException}
    (same : given.or (exceptionOf now case) = exception.or (exceptionOf desk case)) :
    build again store now later case given = ((build keys store desk table case exception).1, later) := by
  unfold build at grown ⊢
  rw [same]
  cases about : exception.or (exceptionOf desk case) with
  | none => rfl
  | some exception =>
    simp only [about] at grown
    simp only [EvidenceTable.addAll_again grown]

/-! ## What is built -/

section Built
variable (lossless : Function.Injective EvidenceHashing.digest) (keys : KeySource) (store : Store) (desk : Desk)
  (table : EvidenceTable) (case : CaseRow) (exception : ReconciliationException)
include lossless

theorem build_items :
    (build keys store desk table case exception).1.items.map (·.toEvidencePayload) = payloads store case exception := by
  simp only [build, Option.some_or]
  exact table.addAll_payloads lossless keys case.createdAt _

/-- A bundle is complete when the types its code requires are among those it is made of. -/
theorem build_complete_iff :
    (build keys store desk table case exception).1.complete = true ↔
      ∀ type ∈ required exception.exceptionCode, type ∈ (payloads store case exception).map (·.evidenceType) := by
  have types : (build keys store desk table case exception).1.items.map (fun e => e.evidenceType) =
      (payloads store case exception).map (·.evidenceType) := by
    rw [← build_items lossless keys store desk table case exception, List.map_map]
    rfl
  rw [← types]
  simp only [build, Option.some_or, List.isEmpty_iff, List.filter_eq_nil_iff, decide_eq_true_eq, not_not]

end Built
end EvidenceBuilder

/-! ## Evaluation -/

namespace PlainText

theorem delimited_marked : Delimited marked := fun _ _ _ _ => marked_append_inj

/-- A sequence of texts, each behind a comma. -/
theorem delimited_texts : Delimited (delimitedList ',' ';' marked) := delimited_marked.list (by decide)

/-- A value as the name of its form and rows of pairs. -/
def metaRows : MetaValue → String × List (List (String × String))
  | .null => ("null", [])
  | .text value => ("text", [[(value, "")]])
  | .texts values => ("texts", [values.map fun value => (value, "")])
  | .rows values => ("rows", values)

theorem metaRows_injective : Function.Injective metaRows := by
  intro a b same
  have column : Function.Injective (List.map fun value : String => (value, "")) :=
    List.map_injective_iff.mpr fun _ _ same => (Prod.mk.inj same).1
  cases a <;> cases b <;> simp [metaRows] at same <;> simp_all [column.eq_iff]

def metaText (value : MetaValue) : List Char :=
  marked (metaRows value).1 ++
    delimitedList ',' ';' (delimitedList ',' ';' fun p : String × String => marked p.1 ++ marked p.2) (metaRows value).2

theorem delimited_metaText : Delimited metaText :=
  (delimited_marked.pair (((delimited_marked.pair delimited_marked).list (by decide)).list (by decide))).comp metaRows_injective

def snapshotText : CaseMetadata → List Char :=
  delimitedList ',' ';' fun entry => marked entry.1 ++ metaText entry.2

/-- The fields of an item one after another stand for the hash in evaluation. -/
scoped instance evidenceText : EvidenceHashing where
  digest payload := String.ofList (marked payload.caseId ++ (marked payload.evidenceType.value ++
    (marked payload.sourceEntityType ++ (marked payload.sourceEntityId ++ (snapshotText payload.snapshot ++
      marked payload.relevance)))))

theorem evidenceText_injective : Function.Injective evidenceText.digest := by
  have snapshots : Delimited snapshotText := (delimited_marked.pair delimited_metaText).list (by decide)
  intro a b texts
  have same := String.ofList_inj.mp texts
  obtain ⟨caseId, same⟩ := marked_append_inj same
  obtain ⟨type, same⟩ := marked_append_inj same
  obtain ⟨entityType, same⟩ := marked_append_inj same
  obtain ⟨entityId, same⟩ := marked_append_inj same
  obtain ⟨snapshot, same⟩ := snapshots _ _ _ _ same
  have relevance := marked_injective same
  have values : Function.Injective EvidenceType.value := by
    intro a b same
    cases a <;> cases b <;> simp_all [EvidenceType.value]
  have type := values type
  cases a
  cases b
  simp_all

end PlainText
end RCAA
