import RCAA.Values
import RCAA.Library.KeyedRows

/-! The financial tables and their rows. A store satisfies the database's primary
keys and unique constraints, and a generated identifier is never empty. A foreign
key may dangle: the engine reads it through a lookup that may miss. Columns no
modelled function reads or writes are left out. -/

namespace RCAA

structure Payment where
  id : String
  provider : String
  providerPaymentId : String
  providerOrderId : Option String := none
  merchantId : Option String := none
  amount : Decimal
  currency : String := "INR"
  status : String
  method : Option String := none
  captured : Bool := false
  createdAt : DateTime
  capturedAt : Option DateTime := none
  rawData : RawData := []
  source : String := "manual_demo"
  externalId : Option String := none
  ingestionBatchId : Option String := none
  rawReference : Option String := none
deriving DecidableEq

structure Refund where
  id : String
  provider : String
  merchantId : Option String := none
  providerRefundId : String
  providerPaymentId : String
  paymentId : Option String := none
  amount : Decimal
  status : String
  createdAt : DateTime
  processedAt : Option DateTime := none
  rawData : Value := .object []
  source : String := "manual_demo"
  externalId : Option String := none
  ingestionBatchId : Option String := none
  rawReference : Option String := none
deriving DecidableEq

structure Settlement where
  id : String
  provider : String
  merchantId : Option String := none
  providerSettlementId : String
  providerPaymentId : String
  paymentId : Option String := none
  grossAmount : Decimal
  fee : Decimal := .zero
  tax : Decimal := .zero
  netAmount : Decimal
  status : String
  settledAt : DateTime
  utr : Option String := none
  rawData : RawData := []
  source : String := "manual_demo"
  externalId : Option String := none
  ingestionBatchId : Option String := none
  rawReference : Option String := none
deriving DecidableEq

structure BankTransaction where
  id : String
  source : String := "bank_csv"
  provider : Option String := none
  externalId : String
  merchantId : Option String := none
  reference : Option String := none
  amount : Decimal
  currency : String := "INR"
  status : String := "posted"
  eventTimestamp : DateTime
  ingestionBatchId : Option String := none
  rawReference : Option String := none
  metadataJson : Value := .object []
deriving DecidableEq

/-- A row of one of the four tables. -/
inductive Record where
  | payment (row : Payment)
  | refund (row : Refund)
  | settlement (row : Settlement)
  | bank (row : BankTransaction)
deriving DecidableEq

def Record.id : Record → String
  | .payment row => row.id
  | .refund row => row.id
  | .settlement row => row.id
  | .bank row => row.id

def Record.merchantId : Record → Option String
  | .payment row => row.merchantId
  | .refund row => row.merchantId
  | .settlement row => row.merchantId
  | .bank row => row.merchantId

/-- The pairs a table is unique in are compared as they are stored. -/
instance lawfulBEq_pairs : LawfulBEq (String × String) := inferInstance

section Keys
variable {α : Type} (id first second : α → String)

theorem keys_one (row : α) : ([row].map id).Nodup := List.nodup_singleton _

theorem pairs_nil : (([] : List α).map fun row => (first row, second row)).Nodup := List.nodup_nil

theorem pairs_one (row : α) : ([row].map fun row => (first row, second row)).Nodup := List.nodup_singleton _

theorem named_nil : ∀ row ∈ ([] : List α), id row ≠ "" := List.forall_mem_nil _

end Keys

/-- The four tables reconciliation reads. -/
structure Store where
  payments : List Payment := []
  refunds : List Refund := []
  settlements : List Settlement := []
  bankTransactions : List BankTransaction := []
  paymentIds : (payments.map Payment.id).Nodup := by first | exact List.nodup_nil | exact keys_one Payment.id _ | decide
  refundIds : (refunds.map Refund.id).Nodup := by first | exact List.nodup_nil | exact keys_one Refund.id _ | decide
  settlementIds : (settlements.map Settlement.id).Nodup := by first | exact List.nodup_nil | exact keys_one Settlement.id _ | decide
  bankIds : (bankTransactions.map BankTransaction.id).Nodup := by first | exact List.nodup_nil | exact keys_one BankTransaction.id _ | decide
  paymentProviderIds : (payments.map fun p => (p.provider, p.providerPaymentId)).Nodup := by
    first | exact pairs_nil Payment.provider Payment.providerPaymentId | exact pairs_one Payment.provider Payment.providerPaymentId _ | decide
  refundProviderIds : (refunds.map fun r => (r.provider, r.providerRefundId)).Nodup := by
    first | exact pairs_nil Refund.provider Refund.providerRefundId | exact pairs_one Refund.provider Refund.providerRefundId _ | decide
  settlementProviderIds : (settlements.map fun s => (s.provider, s.providerSettlementId)).Nodup := by
    first | exact pairs_nil Settlement.provider Settlement.providerSettlementId | exact pairs_one Settlement.provider Settlement.providerSettlementId _ | decide
  bankSourceIds : (bankTransactions.map fun b => (b.source, b.externalId)).Nodup := by
    first | exact pairs_nil BankTransaction.source BankTransaction.externalId | exact pairs_one BankTransaction.source BankTransaction.externalId _ | decide
  paymentNamed : ∀ p ∈ payments, p.id ≠ "" := by first | exact named_nil Payment.id | decide
  refundNamed : ∀ r ∈ refunds, r.id ≠ "" := by first | exact named_nil Refund.id | decide
  settlementNamed : ∀ s ∈ settlements, s.id ≠ "" := by first | exact named_nil Settlement.id | decide
  bankNamed : ∀ b ∈ bankTransactions, b.id ≠ "" := by first | exact named_nil BankTransaction.id | decide

namespace Store

/-- `session.get(Payment, payment_id) if payment_id else None`. -/
def getPayment (store : Store) (paymentId : Option String) : Option Payment :=
  match paymentId with
  | none => none
  | some id => if id = "" then none else store.payments.find? (fun p => p.id = id)

/-- The payment with a provider and provider payment id; the unique constraint leaves at most one. -/
def paymentByProviderId (store : Store) (provider providerPaymentId : String) : Option Payment :=
  store.payments.find? (fun p => (p.provider, p.providerPaymentId) = (provider, providerPaymentId))

theorem getPayment_eq_some_iff (store : Store) (paymentId : Option String) (p : Payment) :
    store.getPayment paymentId = some p ↔ p ∈ store.payments ∧ paymentId = some p.id := by
  cases paymentId with
  | none => simp [getPayment]
  | some id =>
    simp only [getPayment]
    by_cases blank : id = ""
    · subst blank
      simp only [if_pos, reduceCtorEq, Option.some.injEq, false_iff, not_and]
      exact fun member same => store.paymentNamed p member same.symm
    · rw [if_neg blank, KeyedRows.find?_eq_some_iff Payment.id store.paymentIds]
      simp only [Option.some.injEq, eq_comm]

theorem paymentByProviderId_eq_some_iff (store : Store) (provider providerPaymentId : String) (p : Payment) :
    store.paymentByProviderId provider providerPaymentId = some p ↔
      p ∈ store.payments ∧ p.provider = provider ∧ p.providerPaymentId = providerPaymentId := by
  rw [paymentByProviderId, KeyedRows.find?_eq_some_iff (fun p : Payment => (p.provider, p.providerPaymentId))
    store.paymentProviderIds, Prod.mk.injEq]

end Store
end RCAA
