import RCAA.Evidence.Candidates

/-! Whose rows the evidence of a case shows. A reference is looked up by id and then by
external id, without a merchant or a provider, so another merchant's row may answer it. -/

namespace RCAA

open Exceptions EvidenceBuilder

/-! ## Owners -/

/-- The row is the merchant's, or linked to a payment that is. -/
def Record.OwnedBy (store : Store) (merchant : String) : Record → Prop
  | .payment p => p.merchantId = some merchant
  | .refund r => ownedOrLinked store (some merchant) r.merchantId r.paymentId = true
  | .settlement s => ownedOrLinked store (some merchant) s.merchantId s.paymentId = true
  | .bank b => b.merchantId = some merchant

instance (store : Store) (merchant : String) (record : Record) : Decidable (record.OwnedBy store merchant) := by
  cases record <;> exact inferInstanceAs (Decidable (_ = _))

/-- The item is a snapshot of the record. -/
def EvidencePayload.Shows (item : EvidencePayload) (record : Record) : Prop :=
  item.sourceEntityType = record.entityType ∧ item.sourceEntityId = record.id

/-- Every record that an item is a snapshot of is the merchant's. -/
def WithinTenant (store : Store) (merchant : String) (items : List Evidence) : Prop :=
  ∀ item ∈ items, ∀ record ∈ store.rows, item.Shows record → record.OwnedBy store merchant

/-- The model and the id tell the stored records apart. -/
theorem Store.record_unique {store : Store} {a b : Record} (first : a ∈ store.rows) (second : b ∈ store.rows)
    (type : a.entityType = b.entityType) (id : a.id = b.id) : a = b := by
  cases a with
  | payment p =>
    cases b with
    | payment q =>
      rw [KeyedRows.faithful_of_nodup _ store.paymentIds p (Store.payment_mem_rows.mp first) q (Store.payment_mem_rows.mp second) id]
    | refund | settlement | bank => simp [Record.entityType] at type
  | refund r =>
    cases b with
    | refund q =>
      rw [KeyedRows.faithful_of_nodup _ store.refundIds r (Store.refund_mem_rows.mp first) q (Store.refund_mem_rows.mp second) id]
    | payment | settlement | bank => simp [Record.entityType] at type
  | settlement s =>
    cases b with
    | settlement q =>
      rw [KeyedRows.faithful_of_nodup _ store.settlementIds s (Store.settlement_mem_rows.mp first) q
        (Store.settlement_mem_rows.mp second) id]
    | payment | refund | bank => simp [Record.entityType] at type
  | bank t =>
    cases b with
    | bank q =>
      rw [KeyedRows.faithful_of_nodup _ store.bankIds t (Store.bank_mem_rows.mp first) q (Store.bank_mem_rows.mp second) id]
    | payment | refund | settlement => simp [Record.entityType] at type

/-! ## References -/

section Lookup
variable {α : Type} (rows : List α) (id externalId : α → String)

/-- The rows that may answer a reference have the property: one with it as id and, where there is
none, the first with it as external id. -/
def AnsweredBy (mine : α → Prop) (reference : Option String) : Prop :=
  ∀ text, Cases.given reference = some text →
    (∀ row ∈ rows, id row = text → mine row) ∧
      ((∀ row ∈ rows, id row ≠ text) → ∀ before row after, rows = before ++ row :: after → externalId row = text →
        (∀ other ∈ before, externalId other ≠ text) → mine row)

variable {rows id externalId}

theorem answeredBy_iff (distinct : (rows.map id).Nodup) {mine : α → Prop} {reference : Option String} :
    AnsweredBy rows id externalId mine reference ↔ ∀ row, findByIdOrExternal rows id externalId reference = some row → mine row := by
  unfold AnsweredBy findByIdOrExternal
  cases Cases.given reference with
  | none => exact iff_of_true (fun _ none => nomatch none) fun _ none => nomatch none
  | some text =>
    simp only [Option.some.injEq, forall_eq']
    cases named : rows.find? fun row => id row = text with
    | some found =>
      obtain ⟨member, same⟩ := (KeyedRows.find?_eq_some_iff id distinct text found).mp named
      have only : ∀ row ∈ rows, id row = text → row = found := fun row inside equal =>
        KeyedRows.faithful_of_nodup id distinct row inside found member (equal.trans same.symm)
      rw [Option.some_or]
      constructor
      · rintro ⟨own, _⟩ row answer
        rw [← Option.some.inj answer]
        exact own found member same
      · intro own
        exact ⟨fun row inside equal => own row (by rw [only row inside equal]), fun none => absurd same (none found member)⟩
    | none =>
      have unnamed : ∀ row ∈ rows, id row ≠ text := (KeyedRows.find?_eq_none_iff id rows text).mp named
      rw [Option.none_or]
      constructor
      · rintro ⟨_, first⟩ row found
        obtain ⟨same, before, after, whole, earlier⟩ := List.find?_eq_some_iff_append.mp found
        exact first unnamed before row after whole (by simpa using same) (by simpa using earlier)
      · intro first
        refine ⟨fun row inside same => absurd same (unnamed row inside), fun _ before row after whole same earlier => ?_⟩
        exact first row (List.find?_eq_some_iff_append.mpr ⟨by simpa using same, before, after, whole, by simpa using earlier⟩)

end Lookup

section References
variable (store : Store) (merchant : String) (case : CaseRow) (exception : ReconciliationException)

/-- The rows that may answer the references of a case are the merchant's. -/
structure ReferencesOwned : Prop where
  primary :
    let reference := (Cases.given case.recordId).or exception.primaryRecordId
    if case.recordType = "bank_transaction" then
      AnsweredBy store.bankTransactions BankTransaction.id BankTransaction.externalId
        (fun b => Record.OwnedBy store merchant (.bank b)) reference
    else if case.recordType = "settlement" then
      AnsweredBy store.settlements Settlement.id Settlement.providerSettlementId
        (fun s => Record.OwnedBy store merchant (.settlement s)) reference
    else if case.recordType = "refund" then
      AnsweredBy store.refunds Refund.id Refund.providerRefundId (fun r => Record.OwnedBy store merchant (.refund r)) reference
    else match Cases.given case.paymentId with
      | some paymentId => ∀ p ∈ store.payments, paymentId = p.id → Record.OwnedBy store merchant (.payment p)
      | none => AnsweredBy store.payments Payment.id Payment.providerPaymentId
          (fun p => Record.OwnedBy store merchant (.payment p)) reference
  related : AnsweredBy store.settlements Settlement.id Settlement.providerSettlementId
    (fun s => Record.OwnedBy store merchant (.settlement s)) ((Cases.given case.matchedRecordId).or exception.relatedRecordId)

variable {store merchant case exception}

theorem mem_of_find {α : Type} {rows : List α} {id externalId : α → String} {reference : Option String} {row : α}
    (found : findByIdOrExternal rows id externalId reference = some row) : row ∈ rows := by
  unfold findByIdOrExternal at found
  split at found
  · cases found
  · rcases Option.or_eq_some_iff.mp found with named | ⟨_, named⟩
    · exact List.mem_of_find?_eq_some named
    · exact List.mem_of_find?_eq_some named

theorem primary_stored {record : Record} (found : primary store case exception = some record) : record ∈ store.rows := by
  simp only [primary] at found
  split at found
  · obtain ⟨b, answer, rfl⟩ := Option.map_eq_some_iff.mp found
    exact Store.bank_mem_rows.mpr (mem_of_find answer)
  · split at found
    · obtain ⟨s, answer, rfl⟩ := Option.map_eq_some_iff.mp found
      exact Store.settlement_mem_rows.mpr (mem_of_find answer)
    · split at found
      · obtain ⟨r, answer, rfl⟩ := Option.map_eq_some_iff.mp found
        exact Store.refund_mem_rows.mpr (mem_of_find answer)
      · split at found
        · obtain ⟨p, answer, rfl⟩ := Option.map_eq_some_iff.mp found
          exact Store.payment_mem_rows.mpr ((store.getPayment_eq_some_iff _ p).mp answer).1
        · obtain ⟨p, answer, rfl⟩ := Option.map_eq_some_iff.mp found
          exact Store.payment_mem_rows.mpr (mem_of_find answer)

theorem forall_found {α : Type} {found : Option α} {record : α → Record} {mine : Record → Prop} :
    (∀ r, found.map record = some r → mine r) ↔ ∀ row, found = some row → mine (record row) := by
  constructor
  · rintro every row rfl
    exact every _ rfl
  · intro every r answer
    obtain ⟨row, looked, rfl⟩ := Option.map_eq_some_iff.mp answer
    exact every row looked

/-- What is found for the references is the merchant's exactly if what may answer them is. -/
theorem referencesOwned_iff : ReferencesOwned store merchant case exception ↔
    (∀ record, primary store case exception = some record → record.OwnedBy store merchant) ∧
      ∀ s, related store case exception = some s → Record.OwnedBy store merchant (.settlement s) := by
  have parts : ReferencesOwned store merchant case exception ↔ _ ∧ _ :=
    ⟨fun owned => ⟨owned.primary, owned.related⟩, fun both => ⟨both.1, both.2⟩⟩
  rw [parts, answeredBy_iff store.settlementIds]
  refine and_congr ?_ Iff.rfl
  simp only [primary]
  split
  · rw [answeredBy_iff store.bankIds]
    exact forall_found.symm
  · split
    · rw [answeredBy_iff store.settlementIds]
      exact forall_found.symm
    · split
      · rw [answeredBy_iff store.refundIds]
        exact forall_found.symm
      · cases Cases.given case.paymentId with
        | some paymentId =>
          rw [forall_found]
          simp only [Store.getPayment_eq_some_iff, Option.some.injEq, and_imp]
        | none =>
          rw [answeredBy_iff store.paymentIds]
          exact forall_found.symm

end References

/-! ## The bundle -/

theorem Record.entityType_ne (record : Record) :
    record.entityType ≠ "ReconciliationResult" ∧ record.entityType ≠ "ReconciliationException" := by
  cases record <;> simp [Record.entityType]

theorem resultPayload_sourceEntityType (case : CaseRow) : (resultPayload case).sourceEntityType = "ReconciliationResult" := by
  simp only [resultPayload]
  split
  · rfl
  · rfl

section Built
variable [EvidenceHashing] (lossless : Function.Injective EvidenceHashing.digest)
include lossless

/-- The items of a bundle that show records show the two that were found. -/
theorem withinTenant_iff_found {keys : KeySource} {store : Store} {desk : Desk} {table : EvidenceTable} {case : CaseRow}
    {exception : ReconciliationException} {merchant : String} :
    WithinTenant store merchant (build keys store desk table case (some exception)).1.items ↔
      (∀ record, primary store case exception = some record → record.OwnedBy store merchant) ∧
        ∀ s, related store case exception = some s → Record.OwnedBy store merchant (.settlement s) := by
  have items := build_items lossless keys store desk table case exception
  constructor
  · intro within
    constructor
    · intro record found
      have shown : primaryPayload case record ∈ payloads store case exception := by simp [payloads, found]
      rw [← items] at shown
      obtain ⟨item, member, same⟩ := List.mem_map.mp shown
      exact within item member record (primary_stored found) (by rw [same]; exact ⟨rfl, rfl⟩)
    · intro s found
      have shown : relatedPayload case s ∈ payloads store case exception := by simp [payloads, found]
      rw [← items] at shown
      obtain ⟨item, member, same⟩ := List.mem_map.mp shown
      exact within item member (.settlement s) (Store.settlement_mem_rows.mpr (mem_of_find found)) (by rw [same]; exact ⟨rfl, rfl⟩)
  · rintro ⟨primaryOwned, relatedOwned⟩ item member record stored shows_
    have inside : item.toEvidencePayload ∈ payloads store case exception := items ▸ List.mem_map_of_mem member
    generalize item.toEvidencePayload = payload at inside shows_
    simp only [payloads, List.mem_append, Option.mem_toList, Option.map_eq_some_iff, List.mem_cons, List.not_mem_nil,
      or_false] at inside
    rcases inside with (⟨other, found, rfl⟩ | ⟨s, found, rfl⟩) | rfl | rfl
    · rw [← Store.record_unique (primary_stored found) stored shows_.1 shows_.2]
      exact primaryOwned other found
    · rw [← Store.record_unique (Store.settlement_mem_rows.mpr (mem_of_find found)) stored shows_.1 shows_.2]
      exact relatedOwned s found
    · exact absurd (shows_.1.symm.trans (resultPayload_sourceEntityType case)) record.entityType_ne.1
    · exact absurd shows_.1.symm record.entityType_ne.2

/-- The evidence of a case is of one merchant's records, in particular of those of the case's own
merchant, exactly if the rows that may answer the references of the case are. -/
theorem evidence_within_tenant_iff {keys : KeySource} {store : Store} {desk : Desk} {table : EvidenceTable} {case : CaseRow}
    {given : Option ReconciliationException} (merchant : String) :
    WithinTenant store merchant (build keys store desk table case given).1.items ↔
      ∀ exception, given.or (exceptionOf desk case) = some exception → ReferencesOwned store merchant case exception := by
  cases chosen : given.or (exceptionOf desk case) with
  | none =>
    have empty : (build keys store desk table case given).1.items = [] := by simp only [build, chosen]
    rw [empty]
    exact iff_of_true (List.forall_mem_nil _) (by simp)
  | some exception =>
    rw [build_chosen chosen, withinTenant_iff_found lossless, ← referencesOwned_iff]
    simp only [Option.some.injEq, forall_eq']

end Built

section Examples
open PlainText

/-- Two merchants' payments with one external id, each under its own provider. -/
def laterPayment : Payment := { unsettledPayment with createdAt := ⟨1704110500000000, some 0⟩ }
def stripePayment : Payment := { unsettledPayment with id := "p2", provider := "stripe", merchantId := some "m2" }

/-- A batch of the first merchant that repeated the payment. -/
def repeatedBatch : IngestionBatch :=
  { id := "batch-1", source := "upload", provider := some "razorpay", merchantId := some "m1", recordType := some .payment
    duplicateCount := 1, duplicateRecordsJson := ["pay_1"] }

def duplicateException : ReconciliationException :=
  { (ExceptionRequest.duplicate repeatedBatch "payment" "DUPLICATE_PAYMENT" "pay_1").content {} with id := "x1" }

/-- The case opened for the duplicate. -/
def duplicateCase : CaseRow :=
  Cases.newCase {} keys 1704110600000000 {} { exceptionId := some "x1", merchantId := some "m1" } (some duplicateException)

/-- With the merchant's own payment alone, that is what the evidence shows. -/
theorem evidence_within_tenant_iff_alone :
    WithinTenant { payments := [laterPayment] } "m1"
      (build keys { payments := [laterPayment] } {} {} duplicateCase (some duplicateException)).1.items := by
  refine (evidence_within_tenant_iff evidenceText_injective "m1").mpr fun exception chosen => ?_
  cases chosen
  have found : primary { payments := [laterPayment] } duplicateCase duplicateException = some (.payment laterPayment) := by decide
  have none : related { payments := [laterPayment] } duplicateCase duplicateException = none := by decide
  rw [referencesOwned_iff, found, none]
  refine ⟨fun record same => ?_, fun _ same => nomatch same⟩
  rw [← Option.some.inj same]
  rfl

/-- The payment of another merchant stored earlier is shown instead. -/
theorem duplicate_evidence_shows_foreign_payment :
    ¬∀ (merchant : String) (store : Store) (desk : Desk) (table : EvidenceTable) (case : CaseRow)
      (exception : ReconciliationException), case.merchantId = some merchant →
        WithinTenant store merchant (build keys store desk table case (some exception)).1.items := by
  intro law
  have within := law "m1" { payments := [stripePayment, laterPayment] } {} {} duplicateCase duplicateException (by decide)
  have found : primary { payments := [stripePayment, laterPayment] } duplicateCase duplicateException = some (.payment stripePayment) := by
    decide
  have owned := ((withinTenant_iff_found evidenceText_injective).mp within).1 _ found
  exact absurd owned (by decide)

end Examples
end RCAA
