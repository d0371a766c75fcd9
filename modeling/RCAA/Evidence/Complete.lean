import RCAA.Rca.Engine
import RCAA.Exceptions.Generation
import RCAA.Reconciliation.Appends
import RCAA.Reconciliation.Sites

/-! Which cases of a run get complete evidence and the root cause of their exception's
code. The engine chooses how a case names its records, the builder looks them up by that,
and a table lists what each code requires. -/

namespace RCAA

open Exceptions EvidenceBuilder

/-! ## A case and its report -/

/-- The case has the columns of a report that name its kind and its records, and its metadata. -/
structure Reports (r : CaseRequest) (c : CaseRow) : Prop where
  caseType : c.caseType = r.caseType.name
  paymentId : c.paymentId = r.payment.map Payment.id
  recordId : c.recordId = r.recordId
  recordType : c.recordType = r.recordType
  matchedRecordId : c.matchedRecordId = r.matchedRecordId
  metadataJson : c.metadataJson = r.storedMetadata

/-- The exception has the code of the case and names the same records. -/
structure ExceptionFor (c : CaseRow) (e : ReconciliationException) : Prop where
  exceptionCode : e.exceptionCode = codeForCase c.caseType
  primaryRecordId : e.primaryRecordId = primaryRecord c
  relatedRecordId : e.relatedRecordId = c.matchedRecordId

/-- A row of one case at two times: what its report named stays. -/
structure SameReport (c row : CaseRow) : Prop where
  id : row.id = c.id
  caseType : row.caseType = c.caseType
  paymentId : row.paymentId = c.paymentId
  recordId : row.recordId = c.recordId
  recordType : row.recordType = c.recordType
  matchedRecordId : row.matchedRecordId = c.matchedRecordId
  metadataJson : row.metadataJson = c.metadataJson

/-- A call that generated exceptions added this one for the case. -/
def GeneratedFor [ExceptionHashing] (c : CaseRow) (e : ReconciliationException) : Prop :=
  ∃ (settings : Settings) (keys : KeySource) (batches : List IngestionBatch) (desk after : Desk)
    (merchantId : Option String) (report : GenerationReport),
    generateExceptions settings keys batches desk merchantId = .ok (report, after) ∧
      (e ∈ after.exceptions ∧ e ∉ desk.exceptions ∧ e.reconciliationCaseId = some c.id) ∧
      ∃ row ∈ desk.cases, SameReport c row

theorem Reports.of_content [Hashing] {r : CaseRequest} {c : CaseRow} (same : r.content = c.toCaseContent) : Reports r c := by
  constructor <;> rw [← same] <;> rfl

theorem Reports.of_sameReport {r : CaseRequest} {c row : CaseRow} (reports : Reports r c) (same : SameReport c row) :
    Reports r row where
  caseType := same.caseType.trans reports.caseType
  paymentId := same.paymentId.trans reports.paymentId
  recordId := same.recordId.trans reports.recordId
  recordType := same.recordType.trans reports.recordType
  matchedRecordId := same.matchedRecordId.trans reports.matchedRecordId
  metadataJson := same.metadataJson.trans reports.metadataJson

theorem GeneratedFor.exceptionFor [ExceptionHashing] {c : CaseRow} {e : ReconciliationException} (generated : GeneratedFor c e) :
    ExceptionFor c e := by
  obtain ⟨settings, keys, batches, desk, after, merchantId, report, done, ⟨stored, new, named⟩, row, member, same⟩ := generated
  obtain ⟨other, inside, id, content⟩ := generateExceptions_adds done stored new named
  have one : other = row := KeyedRows.faithful_of_nodup _ desk.caseIds other inside row member (id.trans same.id.symm)
  subst one
  constructor
  · rw [content, ← same.caseType]
    rfl
  · rw [content, primaryRecord, ← same.recordId, ← same.paymentId]
    rfl
  · rw [content, ← same.matchedRecordId]
    rfl

section Runs
variable [Runtime] [Hashing]

/-- A case that a run adds reports what was found at one of its sites. -/
theorem run_reports {settings : Settings} {s : System} {keys : KeySource} {now : Int} {order : SetOrder}
    {merchantId : Option String} {c : CaseRow}
    (raised : c ∈ (s.runReconciliation settings keys now order merchantId).2.desk.cases) (new : c ∉ s.desk.cases) :
    ∃ record r, Site order settings s.database.store merchantId record r ∧ Reports r c := by
  unfold System.runReconciliation at raised
  cases surveyed : survey order settings s.database.store merchantId with
  | error e =>
    rw [surveyed] at raised
    exact absurd raised new
  | ok found =>
    obtain ⟨after, created, recorded⟩ := recording_finishes settings keys now s.desk found.findings.requests
    obtain ⟨added, appends, _, contents⟩ := recording_appends recorded
    simp only [surveyed, recorded, appends.cases] at raised
    have content : c.toCaseContent ∈ added.map (·.toCaseContent) :=
      List.mem_map_of_mem ((List.mem_append.mp raised).resolve_left new)
    obtain ⟨r, fresh, same⟩ := List.mem_map.mp (contents ▸ content)
    obtain ⟨reviews, reviewed, rfl⟩ := Outcome.map_ok surveyed
    have reported := (FirstByKey.firsts_sublist _ _ _).subset fresh
    obtain ⟨record, site⟩ := (mem_requests_iff_site reviewed r).mp reported
    exact ⟨record, r, site, .of_content same⟩

end Runs

/-! ## What the builder finds -/

theorem find_by_id {α : Type} {rows : List α} {id externalId : α → String} (distinct : (rows.map id).Nodup) {row : α}
    (member : row ∈ rows) (named : id row ≠ "") : findByIdOrExternal rows id externalId (some (id row)) = some row := by
  have found := (KeyedRows.find?_eq_some_iff id distinct (id row) row).mpr ⟨member, rfl⟩
  have given : Cases.given (some (id row)) = some (id row) := by simp [Cases.given, named]
  simp only [findByIdOrExternal, given, found, Option.some_or]

theorem find_nothing {rows : List α} {id externalId : α → String} : findByIdOrExternal rows id externalId none = none := rfl

section Lookup
variable {store : Store} {c : CaseRow} {e : ReconciliationException}

/-- A case that says its record is a payment is about the payment it names. -/
theorem primary_payment {p : Payment} (type : c.recordType = "payment") (paid : c.paymentId = some p.id)
    (stored : p ∈ store.payments) : primary store c e = some (.payment p) := by
  have named := store.paymentNamed p stored
  have given : Cases.given c.paymentId = some p.id := by simp [Cases.given, paid, named]
  have found := (store.getPayment_eq_some_iff (some p.id) p).mpr ⟨stored, rfl⟩
  simp [primary, type, given, found]

theorem primary_settlement {s : Settlement} (type : c.recordType = "settlement") (record : c.recordId = some s.id)
    (stored : s ∈ store.settlements) : primary store c e = some (.settlement s) := by
  have named := store.settlementNamed s stored
  have given : Cases.given c.recordId = some s.id := by simp [Cases.given, record, named]
  simp [primary, type, given, findSettlement, find_by_id store.settlementIds stored named]

theorem primary_refund {x : Refund} (type : c.recordType = "refund") (record : c.recordId = some x.id)
    (stored : x ∈ store.refunds) : primary store c e = some (.refund x) := by
  have named := store.refundNamed x stored
  have given : Cases.given c.recordId = some x.id := by simp [Cases.given, record, named]
  simp [primary, type, given, findRefund, find_by_id store.refundIds stored named]

/-- Only a case that says so is about a bank row. -/
theorem primary_not_bank (type : c.recordType ≠ "bank_transaction") {record : Record}
    (found : primary store c e = some record) : record.evidenceType ≠ .bankTransaction := by
  simp only [primary, if_neg type] at found
  split at found
  · obtain ⟨s, _, rfl⟩ := Option.map_eq_some_iff.mp found
    simp [Record.evidenceType]
  · split at found
    · obtain ⟨x, _, rfl⟩ := Option.map_eq_some_iff.mp found
      simp [Record.evidenceType]
    · split at found <;> obtain ⟨p, _, rfl⟩ := Option.map_eq_some_iff.mp found <;> simp [Record.evidenceType]

theorem related_settlement {s : Settlement} (matched : c.matchedRecordId = some s.id) (stored : s ∈ store.settlements) :
    related store c e = some s := by
  have named := store.settlementNamed s stored
  have given : Cases.given c.matchedRecordId = some s.id := by simp [Cases.given, matched, named]
  simp [related, given, findSettlement, find_by_id store.settlementIds stored named]

theorem related_none (exceptionFor : ExceptionFor c e) (unmatched : c.matchedRecordId = none) :
    related store c e = none := by
  simp [related, exceptionFor.relatedRecordId, unmatched, Cases.given, findSettlement, find_nothing]

/-- The types a bundle has: of the record of the case, of its matched settlement, and of
its result and its exception in any case. -/
theorem mem_payload_types (type : EvidenceType) :
    type ∈ (payloads store c e).map (·.evidenceType) ↔
      (∃ record, primary store c e = some record ∧ record.evidenceType = type) ∨
        ((related store c e).isSome = true ∧ type = .settlementRecord) ∨
        type = .reconciliationResult ∨ type = .exceptionRecord := by
  have result : (resultPayload c).evidenceType = .reconciliationResult := by
    rw [resultPayload]
    split <;> rfl
  simp only [payloads, List.map_append, List.mem_append, List.map_cons, List.map_nil, List.mem_cons, List.not_mem_nil,
    or_false, result, exceptionPayload, or_assoc]
  cases primary store c e <;> cases related store c e <;> simp [primaryPayload, relatedPayload, eq_comm]

end Lookup

/-! ## What is required -/

/-- The types required for a kind of case besides its result and its exception. -/
def requiredRecords : CaseType → List EvidenceType
  | .paymentWithoutSettlement | .delayedSettlement | .duplicatePayment => [.paymentRecord]
  | .settlementMismatch | .statusMismatch => [.paymentRecord, .settlementRecord]
  | .duplicateRefund | .refundWithoutPayment => [.refundRecord]
  | .duplicateSettlement | .settlementWithoutPayment => [.settlementRecord]
  | .refundWithoutSettlement | .missingRefund => [.paymentRecord, .refundRecord]
  | .bankSettlementMismatch => [.bankTransaction, .settlementRecord]
  | .bankWithoutSettlement | .bankAmbiguousMatch => [.bankTransaction]
  | .ambiguousMatch | .currencyMismatch => []

theorem mem_required_iff (kind : CaseType) (type : EvidenceType)
    (record : type ≠ .reconciliationResult ∧ type ≠ .exceptionRecord) :
    type ∈ required (codeForCase kind.name) ↔ type ∈ requiredRecords kind := by
  have same : (required (codeForCase kind.name)).filter (fun type => type ≠ .reconciliationResult ∧ type ≠ .exceptionRecord) =
      requiredRecords kind := by
    cases kind <;> decide
  rw [← same, List.mem_filter, decide_eq_true_eq, and_iff_left record]

/-- What requires a bank row is not found for a case that does not say it is about one. -/
theorem bank_not_found {store : Store} {c : CaseRow} {e : ReconciliationException} (unsaid : c.recordType ≠ "bank_transaction")
    {kind : CaseType} (asked : .bankTransaction ∈ requiredRecords kind) :
    ¬∀ type ∈ requiredRecords kind, (∃ record, primary store c e = some record ∧ record.evidenceType = type) ∨
      ((related store c e).isSome = true ∧ type = .settlementRecord) := by
  intro all
  rcases all _ asked with ⟨record, found, bank⟩ | ⟨_, wrong⟩
  · exact primary_not_bank unsaid found bank
  · cases wrong

/-- The only kind whose code has no rule. -/
theorem rule_of_kind (kind : CaseType) : (∃ rule, rcaRule (codeForCase kind.name) = some rule) ↔ kind ≠ .currencyMismatch := by
  have ruled : (rcaRule (codeForCase kind.name)).isSome = decide (kind ≠ .currencyMismatch) := by
    cases kind <;> decide
  rw [← Option.isSome_iff_exists, ruled, decide_eq_true_iff]

/-- The kinds whose records the builder finds. -/
def explainableKinds : List CaseType :=
  [.duplicateSettlement, .duplicatePayment, .paymentWithoutSettlement, .ambiguousMatch, .delayedSettlement,
    .settlementMismatch, .settlementWithoutPayment, .refundWithoutPayment]

/-- The case is of one of these kinds, or is about the status of a matched settlement. -/
def Explainable (c : CaseRow) : Prop :=
  (∃ kind ∈ explainableKinds, c.caseType = kind.name) ∨
    (c.caseType = CaseType.statusMismatch.name ∧ c.matchedRecordId ≠ none)

theorem explainable_iff {c : CaseRow} {kind : CaseType} (same : c.caseType = kind.name) :
    Explainable c ↔ kind ∈ explainableKinds ∨ (kind = .statusMismatch ∧ c.matchedRecordId ≠ none) := by
  simp only [Explainable, same, CaseType.name_injective.eq_iff, exists_eq_right']

/-- The rows of the store that the case names are still there. -/
def StillStored (store later : Store) (c : CaseRow) : Prop :=
  ∀ row, store.Holds row →
    (c.paymentId = some row.id ∨ c.recordId = some row.id ∨ c.matchedRecordId = some row.id) → later.Holds row

/-! ## Which cases are explained -/

section Explained
variable [EvidenceHashing] [RcaHashing] (keys : KeySource) (now : Int) (store : Store) (desk : Desk)
  (table : EvidenceTable) (tables : RcaTables) (c : CaseRow) (given : Option ReconciliationException)
  (e : ReconciliationException)

/-- The evidence is complete and the root cause is that of the rule of the exception's code. -/
structure Explained : Prop where
  complete : (build keys store desk table c given).1.complete = true
  caused : ∃ rule, rcaRule e.exceptionCode = some rule ∧
    (generateRca keys now store desk table tables c given).1.1.cause =
      { rule with explanation := explanationOf e.exceptionCode c }

variable {keys now store desk table tables c given e} (chosen : given.or (exceptionOf desk c) = some e)

include chosen in
omit [RcaHashing] in
theorem build_chosen : build keys store desk table c given = build keys store desk table c (some e) := by
  simp only [build, chosen, Option.some_or]

variable (evidenceLossless : Function.Injective EvidenceHashing.digest) (rcaLossless : Function.Injective RcaHashing.digest)
include chosen evidenceLossless rcaLossless

theorem explained_iff : Explained keys now store desk table tables c given e ↔
    (∀ type ∈ required e.exceptionCode, type ∈ (payloads store c e).map (·.evidenceType)) ∧
      ∃ rule, rcaRule e.exceptionCode = some rule := by
  constructor
  · intro explained
    obtain ⟨rule, ruled, _⟩ := explained.caused
    have complete := explained.complete
    rw [build_chosen chosen] at complete
    exact ⟨(build_complete_iff evidenceLossless _ _ _ _ _ _).mp complete, rule, ruled⟩
  · rintro ⟨types, rule, ruled⟩
    have complete := (build_complete_iff evidenceLossless keys store desk table c e).mpr types
    refine ⟨build_chosen chosen ▸ complete, rule, ruled, ?_⟩
    rw [generateRca, chosen, (RcaTables.store_says rcaLossless _ _ _ _).1]
    simp only [rcaPayload, complete, if_true, Option.map_some, Option.getD_some, classify, ruled]

/-- Whether a case is explained, by its kind and by what the builder finds for it. -/
theorem explained_iff_found {kind : CaseType} (same : c.caseType = kind.name) (exceptionFor : ExceptionFor c e) :
    Explained keys now store desk table tables c given e ↔
      kind ≠ .currencyMismatch ∧ ∀ type ∈ requiredRecords kind,
        (∃ record, primary store c e = some record ∧ record.evidenceType = type) ∨
          ((related store c e).isSome = true ∧ type = .settlementRecord) := by
  rw [explained_iff chosen evidenceLossless rcaLossless, exceptionFor.exceptionCode, same, rule_of_kind, and_comm]
  refine and_congr_right fun _ => forall_congr' fun type => ?_
  by_cases always : type = .reconciliationResult ∨ type = .exceptionRecord
  · have listed : type ∉ requiredRecords kind := by
      rcases always with rfl | rfl <;> cases kind <;> decide
    simp only [mem_payload_types, always, or_true, implies_true, listed, false_implies]
  · rw [mem_required_iff kind type (not_or.mp always), mem_payload_types]
    simp only [always, or_false]

end Explained

/-! ## Every site -/

section Lookups
variable [Platform] {order : SetOrder} {settings : Settings} {store later : Store} {merchantId : Option String}
  {c : CaseRow} {e : ReconciliationException}

/-- A payment that a case says it is about is found. -/
theorem Site.primary_paid {record : Record} {r : CaseRequest} (site : Site order settings store merchantId record r)
    (reports : Reports r c) (stored : StillStored store later c) {p : Payment} (paid : r.payment = some p)
    (type : r.recordType = "payment") : primary later c e = some (.payment p) := by
  have named : c.paymentId = some p.id := by rw [reports.paymentId, paid]; rfl
  have held : later.Holds (.payment p) := stored (.payment p) (site.payment_stored paid) (.inl named)
  exact primary_payment (reports.recordType.trans type) named held

/-- No site calls its record a bank row. -/
theorem Site.not_bank {record : Record} {r : CaseRequest} (site : Site order settings store merchantId record r) :
    r.recordType ≠ "bank_transaction" := by
  cases site with
  | payment _ found => simp [found.about.2.1]
  | duplicateRefund _ _ first found => simp [(duplicateRefundGroupFindings_about first found).2.1]
  | matched _ _ _ found => simp [(matchedFindings_about found).2.1]
  | duplicateSettlement => simp [duplicateSettlementCase, caseOf]
  | orphanSettlement => simp [orphanSettlementCase, caseOf]
  | orphanRefund => simp [orphanRefundCase, caseOf]
  | unsettledRefund => simp [unsettledRefundCase, caseOf]
  | bankAmbiguous =>
    simp only [bankAmbiguousCase, caseOf]
    split <;> simp
  | bankMismatch =>
    simp only [bankMismatchCase, caseOf]
    split <;> simp
  | unexplainedCredit => simp [unexplainedCreditCase, caseOf]

end Lookups

section Sites
variable [Platform] [EvidenceHashing] [RcaHashing] {keys : KeySource} {now : Int} {later : Store} {desk : Desk}
  {table : EvidenceTable} {tables : RcaTables} {c : CaseRow} {given : Option ReconciliationException}
  {e : ReconciliationException} (chosen : given.or (exceptionOf desk c) = some e)
  (evidenceLossless : Function.Injective EvidenceHashing.digest) (rcaLossless : Function.Injective RcaHashing.digest)
  {order : SetOrder} {settings : Settings} {store : Store} {merchantId : Option String}
include chosen evidenceLossless rcaLossless

theorem Site.explained_iff {record : Record} {r : CaseRequest} (site : Site order settings store merchantId record r)
    (reports : Reports r c) (exceptionFor : ExceptionFor c e) (stored : StillStored store later c) :
    Explained keys now later desk table tables c given e ↔ Explainable c := by
  have paid {p : Payment} (pays : r.payment = some p) (type : r.recordType = "payment") : primary later c e = some (.payment p) :=
    site.primary_paid reports stored pays type
  have unsaid : c.recordType ≠ "bank_transaction" := reports.recordType ▸ site.not_bank
  have held : later.Holds record := stored record site.holds (.inr (.inl (by rw [reports.recordId, site.recordId])))
  rw [explained_iff_found chosen evidenceLossless rcaLossless reports.caseType exceptionFor, explainable_iff reports.caseType]
  cases site with
  | duplicateSettlement listed several first =>
    have found := primary_settlement (e := e) reports.recordType reports.recordId held
    simp [found, duplicateSettlementCase, caseOf, requiredRecords, explainableKinds, Record.evidenceType]
  | payment read found =>
    obtain ⟨about, type, kind⟩ := found.about
    have primary := paid about.payment type
    have unmatched : c.matchedRecordId = none := reports.matchedRecordId.trans about.matchedRecordId
    simp only [primary, related_none exceptionFor unmatched, unmatched]
    revert kind
    generalize r.caseType = kind
    intro kind
    simp only [paymentCases, List.mem_cons, List.not_mem_nil, or_false] at kind
    rcases kind with rfl | rfl | rfl | rfl | rfl <;>
      simp [requiredRecords, explainableKinds, Record.evidenceType]
  | duplicateRefund read listed first found =>
    obtain ⟨about, type, kind, _⟩ := duplicateRefundGroupFindings_about first found
    have primary := paid about.payment type
    simp [kind, primary, requiredRecords, explainableKinds, Record.evidenceType]
  | matched read only calculated found =>
    obtain ⟨about, type, kind⟩ := matchedFindings_about found
    have primary := paid about.payment type
    have matched := reports.matchedRecordId.trans about.matchedRecordId
    simp only [primary, related_settlement matched held, matched]
    revert kind
    generalize r.caseType = kind
    intro kind
    simp only [matchedCases, List.mem_cons, List.not_mem_nil, or_false] at kind
    rcases kind with rfl | rfl | rfl | rfl <;> simp [requiredRecords, explainableKinds, Record.evidenceType]
  | orphanSettlement =>
    have found := primary_settlement (e := e) reports.recordType reports.recordId held
    simp [found, orphanSettlementCase, caseOf, requiredRecords, explainableKinds, Record.evidenceType]
  | orphanRefund =>
    have found := primary_refund (e := e) reports.recordType reports.recordId held
    simp [found, orphanRefundCase, caseOf, requiredRecords, explainableKinds, Record.evidenceType]
  | unsettledRefund read unmatched linked unsettled =>
    have primary := paid rfl rfl
    simp [primary, unsettledRefundCase, caseOf, requiredRecords, explainableKinds, Record.evidenceType]
  | bankAmbiguous read several =>
    exact iff_of_false (fun found => bank_not_found unsaid (.head _) found.2)
      (by simp [bankAmbiguousCase, caseOf, explainableKinds])
  | bankMismatch read alone differs =>
    exact iff_of_false (fun found => bank_not_found unsaid (.head _) found.2)
      (by simp [bankMismatchCase, caseOf, explainableKinds])
  | unexplainedCredit read untaken credit =>
    exact iff_of_false (fun found => bank_not_found unsaid (.head _) found.2)
      (by simp [unexplainedCreditCase, caseOf, explainableKinds])

end Sites

/-! ## Every case of a run -/

section Completeness
variable [Runtime] [Hashing] [ExceptionHashing] [EvidenceHashing] [RcaHashing]

/-- A case of a run is explained exactly when it is explainable, while its records stay
stored; whichever way the exception generated for it is found. -/
theorem evidence_complete_iff (evidenceLossless : Function.Injective EvidenceHashing.digest)
    (rcaLossless : Function.Injective RcaHashing.digest) {settings : Settings} {s : System} {keys keys' : KeySource}
    {now now' : Int} {order : SetOrder} {merchantId : Option String} {c row : CaseRow}
    (raised : c ∈ (s.runReconciliation settings keys now order merchantId).2.desk.cases) (new : c ∉ s.desk.cases)
    (same : SameReport c row) {e : ReconciliationException} (generated : GeneratedFor row e) {later : Store}
    (stored : StillStored s.database.store later row) {desk : Desk} {given : Option ReconciliationException}
    (chosen : given.or (exceptionOf desk row) = some e) (table : EvidenceTable) (tables : RcaTables) :
    Explained keys' now' later desk table tables row given e ↔ Explainable row := by
  obtain ⟨record, r, site, reports⟩ := run_reports raised new
  exact site.explained_iff chosen evidenceLossless rcaLossless (reports.of_sameReport same) generated.exceptionFor stored

end Completeness

section Examples
open PlainText

theorem SameReport.refl (c : CaseRow) : SameReport c c := ⟨rfl, rfl, rfl, rfl, rfl, rfl, rfl⟩

/-- A desk without exceptions where a call makes one for each case. -/
theorem generated_each {desk : Desk} (unreported : desk.exceptions = [])
    (names : (generateExceptions {} keys [] desk none).toOption.map
      (fun result => result.2.exceptions.map (·.reconciliationCaseId)) = some (desk.cases.map fun c => some c.id)) :
    ∀ c ∈ desk.cases, ∃ e, GeneratedFor c e := by
  intro c member
  obtain ⟨⟨report, after⟩, returned, named⟩ := Option.map_eq_some_iff.mp names
  have done : generateExceptions {} keys [] desk none = .ok (report, after) := by
    cases result : generateExceptions {} keys [] desk none with
    | error e => simp [result, Except.toOption] at returned
    | ok value => simpa [result, Except.toOption] using returned
  have inside : some c.id ∈ after.exceptions.map (·.reconciliationCaseId) := named ▸ List.mem_map_of_mem member
  obtain ⟨e, stored, same⟩ := List.mem_map.mp inside
  exact ⟨e, {}, keys, [], desk, after, none, report, done, ⟨stored, by simp [unreported], same⟩, c, member, .refl c⟩

/-- Both cases of a payment without a settlement and a later credit. -/
theorem generated_once : ∀ c ∈ reconciledOnce.desk.cases, ∃ e, GeneratedFor c e :=
  generated_each (by decide) (by decide +kernel)

theorem evidence_complete_iff_unsettled :
    ∃ c e, c ∈ reconciledOnce.desk.cases ∧ GeneratedFor c e ∧ Explainable c ∧
      (Explained keys 1704196800000000 recoveredPayment.store reconciledOnce.desk {} {} c (some e) e ↔ Explainable c) := by
  have kinds : reconciledOnce.desk.cases.map (·.caseType) =
      [CaseType.paymentWithoutSettlement.name, CaseType.bankWithoutSettlement.name] := by decide
  obtain ⟨c, _, whole, kind, _⟩ := List.map_eq_cons_iff.mp kinds
  have member : c ∈ reconciledOnce.desk.cases := by simp [whole]
  obtain ⟨e, generated⟩ := generated_once c member
  exact ⟨c, e, member, generated, .inl ⟨_, by decide, kind⟩,
    evidence_complete_iff evidenceText_injective rcaText_injective member (by simp) (.refl c) generated
      (fun _ held _ => held) rfl {} {}⟩

/-- The credit's case is stored as one of a refund, so the bank row is never found. -/
theorem credit_is_not_explained :
    ¬∀ c ∈ reconciledOnce.desk.cases, ∀ e, GeneratedFor c e →
      Explained keys 1704196800000000 recoveredPayment.store reconciledOnce.desk {} {} c (some e) e := by
  intro law
  have kinds : reconciledOnce.desk.cases.map (fun c => (c.caseType, c.recordType)) =
      [(CaseType.paymentWithoutSettlement.name, "payment"), (CaseType.bankWithoutSettlement.name, "refund")] := by decide
  obtain ⟨_, rest, whole, _, others⟩ := List.map_eq_cons_iff.mp kinds
  obtain ⟨c, _, second, columns, _⟩ := List.map_eq_cons_iff.mp others
  obtain ⟨kind, type⟩ := Prod.mk.inj columns
  have member : c ∈ reconciledOnce.desk.cases := by simp [whole, second]
  obtain ⟨e, generated⟩ := generated_once c member
  have explained := law c member e generated
  rw [explained_iff_found rfl evidenceText_injective rcaText_injective kind generated.exceptionFor] at explained
  exact bank_not_found (type ▸ by decide) (.head _) explained.2

end Examples
end RCAA
