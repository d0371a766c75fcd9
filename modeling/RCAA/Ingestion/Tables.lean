import RCAA.Ingestion.Records
import RCAA.Library.FirstByKey

/-! The rows of the store as one collection, their unique keys, and the insertion of
one row. The database refuses a row that breaks a primary key or a unique constraint
or holds an amount outside NUMERIC(14,2); foreign keys are not enforced here. -/

namespace RCAA

/-- NUMERIC(14,2) holds the amount. -/
def fitsMoney (amount : Decimal) : Bool := decide ((amount.rescale (-2)).natAbs < 10 ^ 14)

/-- The table, the owner of the external id (a provider, or the source of a bank
row), and the external id. -/
abbrev TableKey := RecordType × Option String × String

def Record.key : Record → TableKey
  | .payment row => (.payment, some row.provider, row.providerPaymentId)
  | .refund row => (.refund, some row.provider, row.providerRefundId)
  | .settlement row => (.settlement, some row.provider, row.providerSettlementId)
  | .bank row => (.bankTransaction, some row.source, row.externalId)

namespace Store

def rows (store : Store) : List Record :=
  store.payments.map .payment ++ store.refunds.map .refund ++ store.settlements.map .settlement ++
    store.bankTransactions.map .bank

def keys (store : Store) : List TableKey := store.rows.map Record.key

theorem payment_mem_rows {store : Store} {row : Payment} : .payment row ∈ store.rows ↔ row ∈ store.payments := by
  simp [rows]

theorem refund_mem_rows {store : Store} {row : Refund} : .refund row ∈ store.rows ↔ row ∈ store.refunds := by
  simp [rows]

theorem settlement_mem_rows {store : Store} {row : Settlement} :
    .settlement row ∈ store.rows ↔ row ∈ store.settlements := by
  simp [rows]

theorem bank_mem_rows {store : Store} {row : BankTransaction} : .bank row ∈ store.rows ↔ row ∈ store.bankTransactions := by
  simp [rows]

theorem mem_keys {store : Store} {key : TableKey} : key ∈ store.keys ↔ ∃ row ∈ store.rows, row.key = key := List.mem_map

/-- `session.add(row)` with the statement it is flushed as. -/
def insert (store : Store) (record : Record) : Except IngestError Store :=
  match record with
  | .payment row =>
    if accepted : row.id ∉ store.payments.map Payment.id ∧
        (row.provider, row.providerPaymentId) ∉ store.payments.map (fun p => (p.provider, p.providerPaymentId)) ∧
        row.id ≠ "" ∧ fitsMoney row.amount then
      .ok { store with
        payments := store.payments ++ [row]
        paymentIds := KeyedRows.nodup_snoc _ store.paymentIds accepted.1
        paymentProviderIds := KeyedRows.nodup_snoc _ store.paymentProviderIds accepted.2.1
        paymentNamed := List.forall_mem_append.mpr ⟨store.paymentNamed, by simpa using accepted.2.2.1⟩ }
    else .error .database
  | .refund row =>
    if accepted : row.id ∉ store.refunds.map Refund.id ∧
        (row.provider, row.providerRefundId) ∉ store.refunds.map (fun r => (r.provider, r.providerRefundId)) ∧
        row.id ≠ "" ∧ fitsMoney row.amount then
      .ok { store with
        refunds := store.refunds ++ [row]
        refundIds := KeyedRows.nodup_snoc _ store.refundIds accepted.1
        refundProviderIds := KeyedRows.nodup_snoc _ store.refundProviderIds accepted.2.1
        refundNamed := List.forall_mem_append.mpr ⟨store.refundNamed, by simpa using accepted.2.2.1⟩ }
    else .error .database
  | .settlement row =>
    if accepted : row.id ∉ store.settlements.map Settlement.id ∧
        (row.provider, row.providerSettlementId) ∉
          store.settlements.map (fun s => (s.provider, s.providerSettlementId)) ∧
        row.id ≠ "" ∧ fitsMoney row.grossAmount ∧ fitsMoney row.fee ∧ fitsMoney row.tax ∧ fitsMoney row.netAmount then
      .ok { store with
        settlements := store.settlements ++ [row]
        settlementIds := KeyedRows.nodup_snoc _ store.settlementIds accepted.1
        settlementProviderIds := KeyedRows.nodup_snoc _ store.settlementProviderIds accepted.2.1
        settlementNamed := List.forall_mem_append.mpr ⟨store.settlementNamed, by simpa using accepted.2.2.1⟩ }
    else .error .database
  | .bank row =>
    if accepted : row.id ∉ store.bankTransactions.map BankTransaction.id ∧
        (row.source, row.externalId) ∉ store.bankTransactions.map (fun b => (b.source, b.externalId)) ∧
        row.id ≠ "" ∧ fitsMoney row.amount then
      .ok { store with
        bankTransactions := store.bankTransactions ++ [row]
        bankIds := KeyedRows.nodup_snoc _ store.bankIds accepted.1
        bankSourceIds := KeyedRows.nodup_snoc _ store.bankSourceIds accepted.2.1
        bankNamed := List.forall_mem_append.mpr ⟨store.bankNamed, by simpa using accepted.2.2.1⟩ }
    else .error .database

/-- A row added to one table is last once the tables after it are passed. -/
theorem perm_last {before after moved : List Record} (record : Record) (same : moved = after ++ [record]) :
    (before ++ ([record] ++ after)).Perm (before ++ moved) :=
  same ▸ List.Perm.append_left before List.perm_append_comm

/-- What an insertion does to the rows: one more, under a key that was not there. -/
theorem insert_ok {store store' : Store} {record : Record} (added : store.insert record = .ok store') :
    record.key ∉ store.keys ∧ store'.rows.Perm (store.rows ++ [record]) := by
  cases record with
  | payment row =>
    simp only [insert] at added
    split at added
    · next accepted =>
      cases added
      refine ⟨fun known => accepted.2.1 ?_, ?_⟩
      · simpa [keys, rows, Record.key] using known
      · simp only [rows, List.map_append, List.map_singleton, List.append_assoc]
        exact perm_last (.payment row) (by simp only [List.append_assoc])
    · cases added
  | refund row =>
    simp only [insert] at added
    split at added
    · next accepted =>
      cases added
      refine ⟨fun known => accepted.2.1 ?_, ?_⟩
      · simpa [keys, rows, Record.key] using known
      · simp only [rows, List.map_append, List.map_singleton, List.append_assoc]
        exact (perm_last (.refund row) (by simp only [List.append_assoc])).append_left _
    · cases added
  | settlement row =>
    simp only [insert] at added
    split at added
    · next accepted =>
      cases added
      refine ⟨fun known => accepted.2.1 ?_, ?_⟩
      · simpa [keys, rows, Record.key] using known
      · simp only [rows, List.map_append, List.map_singleton, List.append_assoc]
        exact ((perm_last (.settlement row) rfl).append_left _).append_left _
    · cases added
  | bank row =>
    simp only [insert] at added
    split at added
    · next accepted =>
      cases added
      refine ⟨fun known => accepted.2.1 ?_, ?_⟩
      · simpa [keys, rows, Record.key] using known
      · simp only [rows, List.map_append, List.map_singleton, List.append_assoc]
        exact List.Perm.refl _
    · cases added

end Store
end RCAA
