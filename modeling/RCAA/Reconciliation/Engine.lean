import RCAA.Rca.Service
import RCAA.Reconciliation.Matcher

/-! One reconciliation run: the scoped queries, the payment loop, the records left
without a payment, and the bank leg. Every loop lists what it reports in source
order; the reports are then recorded as cases. A run that raises commits nothing.

The order a database returns equal timestamps in is by identifier. Metrics, logging
and the duration are left out. The pairs a run counts as matched are kept with the
report, which returns their number only. A bank row whose metadata is not an object
has no references here; the source raises. -/

namespace RCAA

inductive EngineError where
  | invalidOperation | stopIteration
deriving DecidableEq, Repr

def Settings.rules (settings : Settings) : ReconciliationRules where
  settlementWindowDays := settings.settlementWindowDays
  timestampToleranceMinutes := settings.reconciliationTimestampToleranceMinutes
  amountTolerance := settings.reconciliationAmountTolerance

structure Stats where
  matched : Nat := 0
  unmatched : Nat := 0
  ambiguous : Nat := 0
  mismatch : Nat := 0
  delayed : Nat := 0
  duplicates : Nat := 0
  bankMatched : Nat := 0
  bankUnmatched : Nat := 0
  bankMismatch : Nat := 0
  bankAmbiguous : Nat := 0
deriving DecidableEq, Repr

def Stats.add (a b : Stats) : Stats where
  matched := a.matched + b.matched
  unmatched := a.unmatched + b.unmatched
  ambiguous := a.ambiguous + b.ambiguous
  mismatch := a.mismatch + b.mismatch
  delayed := a.delayed + b.delayed
  duplicates := a.duplicates + b.duplicates
  bankMatched := a.bankMatched + b.bankMatched
  bankUnmatched := a.bankUnmatched + b.bankUnmatched
  bankMismatch := a.bankMismatch + b.bankMismatch
  bankAmbiguous := a.bankAmbiguous + b.bankAmbiguous

/-- The cases a piece of the run reports, and what it counts. -/
structure Findings where
  requests : List CaseRequest := []
  stats : Stats := {}

namespace Findings

def append (a b : Findings) : Findings := ⟨a.requests ++ b.requests, a.stats.add b.stats⟩
def flatten (findings : List Findings) : Findings := findings.foldr append {}
def only (condition : Bool) (findings : Findings) : Findings := if condition then findings else {}

@[simp] theorem requests_append (a b : Findings) : (a.append b).requests = a.requests ++ b.requests := rfl

@[simp] theorem requests_flatten (findings : List Findings) :
    (flatten findings).requests = findings.flatMap Findings.requests := by
  induction findings with
  | nil => rfl
  | cons first rest ih =>
    change first.requests ++ (flatten rest).requests = _
    rw [ih, List.flatMap_cons]

theorem mem_requests_only {condition : Bool} {findings : Findings} {request : CaseRequest} :
    request ∈ (only condition findings).requests ↔ condition = true ∧ request ∈ findings.requests := by
  cases condition <;> simp [only]

end Findings

/-! ## Scoped queries -/

/-- The merchant a run is restricted to; an empty merchant id restricts nothing. -/
def scopeOf (merchantId : Option String) : Option String := merchantId.filter (· ≠ "")

/-- `ORDER BY timestamp, id`. -/
def orderRows (timestamp : α → DateTime) (id : α → String) (rows : List α) : List α :=
  rows.insertionSort fun a b => (timestamp a).instant < (timestamp b).instant ∨
    ((timestamp a).instant = (timestamp b).instant ∧ id a ≤ id b)

def owned (scope : Option String) (merchantId : Option String) : Bool :=
  match scope with
  | none => true
  | some merchant => merchantId == some merchant

/-- Owned by the merchant, or linked to one of the merchant's payments. -/
def ownedOrLinked (store : Store) (scope : Option String) (merchantId paymentId : Option String) : Bool :=
  match scope with
  | none => true
  | some merchant => merchantId == some merchant ||
      store.payments.any fun p => p.merchantId == some merchant && paymentId == some p.id

def selectPayments (store : Store) (scope : Option String) : List Payment :=
  orderRows Payment.createdAt Payment.id (store.payments.filter fun p => owned scope p.merchantId)

def selectRefunds (store : Store) (scope : Option String) : List Refund :=
  orderRows Refund.createdAt Refund.id (store.refunds.filter fun r => ownedOrLinked store scope r.merchantId r.paymentId)

def selectSettlements (store : Store) (scope : Option String) : List Settlement :=
  orderRows Settlement.settledAt Settlement.id
    (store.settlements.filter fun s => ownedOrLinked store scope s.merchantId s.paymentId)

def selectBank (store : Store) (scope : Option String) : List BankTransaction :=
  orderRows BankTransaction.eventTimestamp BankTransaction.id
    (store.bankTransactions.filter fun b => owned scope b.merchantId)

/-! ## Cases -/

/-- `_case` without its optional arguments. -/
def caseOf (payment : Option Payment) (record : Record) (caseType : CaseType) (reasonCode : String)
    (expected actual : Decimal) (summary : String) : CaseRequest where
  payment := payment
  caseType := caseType
  expected := expected
  actual := actual
  summary := summary
  cause := reasonCode
  recordId := some record.id
  recordType := match payment, record with
    | some _, _ => "payment"
    | none, .settlement _ => "settlement"
    | none, _ => "refund"

def idTexts (ids : List String) : CaseMetadata := [("candidate_ids", .texts ids)]

section Platform
variable [Platform]

def paymentCurrency (payment : Payment) : String := upper payment.currency
def settlementCurrency (settlement : Settlement) : String := upper (settlement.rawData.getD "currency" (.str "INR")).text

/-! ## Duplicate settlements -/

/-- The financial fields two copies of a settlement row agree on, numbers by value. -/
structure SettlementKey where
  provider : String
  providerPaymentId : String
  grossAmount : ℚ
  fee : ℚ
  tax : ℚ
  netAmount : ℚ
  status : String
  settledAt : Bool × Int
  utr : Option String
  currency : String
deriving DecidableEq

def settlementKey (s : Settlement) : SettlementKey where
  provider := s.provider
  providerPaymentId := s.providerPaymentId
  grossAmount := s.grossAmount.toRat
  fee := s.fee.toRat
  tax := s.tax.toRat
  netAmount := s.netAmount.toRat
  status := s.status
  settledAt := s.settledAt.moment
  utr := s.utr
  currency := settlementCurrency s

def duplicateSettlementCase (first : Settlement) (group : List Settlement) : CaseRequest :=
  { caseOf none (.settlement first) .duplicateSettlement "DUPLICATE_SETTLEMENT" first.netAmount
      (Decimal.sum (group.map Settlement.netAmount)) "Identical settlement source records were ingested more than once." with
    metadata := idTexts (group.map Settlement.id) }

def duplicateSettlementFindings : List Settlement → Findings
  | first :: second :: rest =>
    { requests := [duplicateSettlementCase first (first :: second :: rest)]
      stats := { duplicates := 1 } }
  | _ => {}

def settlementGroups (settlements : List Settlement) : List (List Settlement) :=
  (MultiMap.collect (fun s => [settlementKey s]) settlements).values

/-! ## The payment loop -/

/-- Provider and normalized provider payment id: how the engine groups refunds and settlements. -/
def groupKey (provider providerPaymentId : String) : String × Option String :=
  (provider, normalize (.str providerPaymentId))

structure PaymentIndexes where
  refundsByPayment : MultiMap (String × Option String) Refund
  settlementsByPayment : MultiMap (String × Option String) Settlement
  paymentsByOrder : MultiMap (String × Option String) Payment

/-- The order key of a payment that has an order id. -/
def orderKey (payment : Payment) : Option (String × Option String) :=
  match payment.providerOrderId with
  | none => none
  | some orderId => if orderId = "" then none else some (payment.provider, normalize (.str orderId))

def buildPaymentIndexes (payments : List Payment) (refunds : List Refund) (settlements : List Settlement) :
    PaymentIndexes where
  refundsByPayment := MultiMap.collect (fun r => [groupKey r.provider r.providerPaymentId]) refunds
  settlementsByPayment := MultiMap.collect (fun s => [groupKey s.provider s.providerPaymentId]) settlements
  paymentsByOrder := MultiMap.collect (fun p => (orderKey p).toList) payments

def paymentRefunds (indexes : PaymentIndexes) (payment : Payment) : List Refund :=
  indexes.refundsByPayment.get (groupKey payment.provider payment.providerPaymentId)

def duplicatePaymentFindings (indexes : PaymentIndexes) (payment : Payment) : Findings :=
  let duplicateOrders := match orderKey payment with
    | some key => indexes.paymentsByOrder.get key
    | none => []
  .only (1 < duplicateOrders.length)
    { requests :=
        [{ caseOf payment (.payment payment) .duplicatePayment "DUPLICATE_PAYMENT" payment.amount
            (Decimal.sum (duplicateOrders.map Payment.amount))
            "Multiple payment records share the same provider order reference." with
            metadata := idTexts (duplicateOrders.map Payment.id) ++ [("rule", .text "ORDER_REFERENCE")] }]
      stats := { duplicates := 1 } }

def reconciliableStatuses : List String := ["captured", "authorized", "refunded", "partially_refunded"]

def paymentStatusFindings (payment : Payment) : Findings :=
  .only (payment.status ∉ reconciliableStatuses)
    { requests :=
        [caseOf payment (.payment payment) .statusMismatch "STATUS_MISMATCH" payment.amount .zero
          ("Payment status is " ++ payment.status ++ ".")]
      stats := { mismatch := 1 } }

/-- `_stable_record_key`. -/
def stableRecordKey (provider providerId : String) : String :=
  provider ++ ":" ++ if providerId = "" then "missing" else providerId

def duplicateRefundGroupFindings (payment : Payment) : List Refund → Findings
  | first :: second :: rest =>
    let group := first :: second :: rest
    { requests :=
        [{ caseOf payment (.refund first) .duplicateRefund "DUPLICATE_REFUND" first.amount
            (Decimal.sum (group.map Refund.amount)) "The same provider refund reference appears more than once." with
            metadata := idTexts (group.map Refund.id) }]
      stats := { duplicates := 1 } }
  | _ => {}

def duplicateRefundFindings (indexes : PaymentIndexes) (payment : Payment) : Findings :=
  let groups := (MultiMap.collect (fun r => [stableRecordKey r.provider r.providerRefundId])
    (paymentRefunds indexes payment)).values
  .flatten (groups.map (duplicateRefundGroupFindings payment))

def missingRefundFindings (indexes : PaymentIndexes) (payment : Payment) : Findings :=
  .only ((payment.rawData.get "expected_refund").truthy && (paymentRefunds indexes payment).isEmpty)
    { requests :=
        [caseOf payment (.payment payment) .missingRefund "REFUND_NOT_SETTLED" payment.amount .zero
          "A refund is expected but no refund record was ingested."]
      stats := { unmatched := 1 } }

def candidateText (c : Candidate) : List (String × String) :=
  [("record_id", c.recordId), ("record_type", c.recordType), ("amount", c.amount.str), ("currency", c.currency),
    ("timestamp", c.timestamp.isoformat)]

def ambiguousMatchFindings (payment : Payment) (decision : MatchDecision) : Findings where
  requests :=
    [{ caseOf payment (.payment payment) .ambiguousMatch "AMBIGUOUS_MATCH" payment.amount .zero
        "Multiple settlement candidates satisfy a deterministic matching rule." with
        matchMethod := decision.method.value
        matchConfidence := decision.confidence.value
        metadata := idTexts (decision.candidates.map Candidate.recordId) ++
          [("candidates", .rows (decision.candidates.map candidateText))] }]
  stats := { ambiguous := 1 }

def unsettledFindings (payment : Payment) (decision : MatchDecision) : Findings where
  requests :=
    [{ caseOf payment (.payment payment) .paymentWithoutSettlement "PAYMENT_NOT_SETTLED" payment.amount .zero
        "No unique settlement was found for the payment." with
        matchMethod := decision.method.value
        matchConfidence := decision.confidence.value }]
  stats := { unmatched := 1 }

/-! ## The matched payment -/

structure Expectation where
  gross : Decimal
  refunded : Decimal
  fees : Decimal
  tax : Decimal
  expected : Decimal
  actual : Decimal
  difference : Decimal

def deductedStatuses : List String := ["processed", "created"]

/-- `Decimal(str(raw_data.get("adjustment", "0")))`; a value that is not finite fits no money column. -/
def adjustment (settlement : Settlement) : Except EngineError Decimal :=
  match Decimal.parse (strip (settlement.rawData.getD "adjustment" (.str "0")).text) with
  | .finite value => .ok value
  | _ => .error .invalidOperation

def calculateExpectedSettlement (payment : Payment) (refunds : List Refund) (settlements : List Settlement) :
    Except EngineError Expectation := do
  let gross := payment.amount
  let refundAmount := Decimal.sum ((refunds.filter (fun r => r.status ∈ deductedStatuses)).map Refund.amount)
  let fees := Decimal.sum (settlements.map Settlement.fee)
  let tax := Decimal.sum (settlements.map Settlement.tax)
  let adjustments := Decimal.sum (← settlements.mapM adjustment)
  let expected := (((gross.sub refundAmount).sub fees).sub tax).add adjustments
  let actual := Decimal.sum (settlements.map Settlement.netAmount)
  pure ⟨gross, refundAmount, fees, tax, expected, actual, actual.sub expected⟩

def finalStatuses : List String := ["settled", "processed", "success", "paid"]

/-- The part of a case about a matched settlement that its four findings share. -/
def matchedCase (payment : Payment) (matched : Settlement) (decision : MatchDecision) (e : Expectation)
    (caseType : CaseType) (reasonCode summary : String) (metadata : CaseMetadata) : CaseRequest :=
  { caseOf payment (.settlement matched) caseType reasonCode e.expected e.actual summary with
    matchMethod := decision.method.value
    matchConfidence := decision.confidence.value
    matchedRecordId := some matched.id
    metadata := metadata }

def amountTexts (e : Expectation) : CaseMetadata :=
  [("gross", .text e.gross.str), ("refunds", .text e.refunded.str), ("fees", .text e.fees.str), ("tax", .text e.tax.str)]

def settlementStatusFindings (payment : Payment) (matched : Settlement) (decision : MatchDecision) (e : Expectation) :
    Findings :=
  .only (lower matched.status ∉ finalStatuses)
    { requests := [matchedCase payment matched decision e .statusMismatch "STATUS_MISMATCH"
        ("Settlement status is " ++ matched.status ++ ".") []]
      stats := { mismatch := 1 } }

def currencyFindings (payment : Payment) (matched : Settlement) (decision : MatchDecision) (e : Expectation) :
    Findings :=
  .only (settlementCurrency matched != paymentCurrency payment)
    { requests := [matchedCase payment matched decision e .currencyMismatch "CURRENCY_MISMATCH"
        "Payment and settlement currencies do not match." (amountTexts e)]
      stats := { mismatch := 1 } }

def rulesWindow (rules : ReconciliationRules) : Int := rules.settlementWindowDays * DateTime.day

def delayFindings (rules : ReconciliationRules) (payment : Payment) (matched : Settlement) (decision : MatchDecision)
    (e : Expectation) : Findings :=
  .only (payment.createdAt.dropZone + rulesWindow rules < matched.settledAt.dropZone)
    { requests := [matchedCase payment matched decision e .delayedSettlement "DELAYED_SETTLEMENT"
        "Settlement exceeded the configured settlement window."
        [("settled_at", .text matched.settledAt.isoformat), ("payment_created_at", .text payment.createdAt.isoformat)]]
      stats := { delayed := 1 } }

def amountFindings (payment : Payment) (matched : Settlement) (decision : MatchDecision) (e : Expectation) : Findings :=
  .only (!e.difference.isZero)
    { requests := [matchedCase payment matched decision e .settlementMismatch
        (if e.refunded.isZero then "AMOUNT_MISMATCH" else "REFUND_SETTLEMENT_ADJUSTMENT")
        ("Expected net settlement " ++ e.expected.str ++ "; received " ++ e.actual.str ++ ".")
        (amountTexts e ++ [("difference", .text e.difference.str)])]
      stats := { mismatch := 1 } }

/-- What the loop does with one payment, and the settlement it takes as the match. -/
structure PaymentReview where
  payment : Payment
  findings : Findings
  matched : Option Settlement := none
  matchedRefunds : List String := []

def matchedFindings (rules : ReconciliationRules) (payment : Payment) (matched : Settlement) (decision : MatchDecision)
    (e : Expectation) : Findings :=
  .flatten [settlementStatusFindings payment matched decision e, currencyFindings payment matched decision e,
    delayFindings rules payment matched decision e, amountFindings payment matched decision e]

/-- The findings made before the payment is matched. -/
def unmatchedFindings (indexes : PaymentIndexes) (payment : Payment) : Findings :=
  .flatten [duplicatePaymentFindings indexes payment, paymentStatusFindings payment,
    duplicateRefundFindings indexes payment, missingRefundFindings indexes payment]

/-- The rest of the loop body, once the matcher has decided. -/
def reviewDecision (rules : ReconciliationRules) (indexes : PaymentIndexes) (settlementIndexes : SettlementIndexes)
    (payment : Payment) (decision : MatchDecision) : Except EngineError PaymentReview :=
  let before := unmatchedFindings indexes payment
  match decision.matched, decision.matchedRecordId.filter (· ≠ "") with
  | true, some recordId =>
    match (settlementIndexes.byProvider.get (lower payment.provider)).find? (fun s => s.id = recordId) with
    | none => .error .stopIteration
    | some matched => do
      let e ← calculateExpectedSettlement payment (paymentRefunds indexes payment) [matched]
      pure
        { payment := payment
          findings := .flatten [before, { stats := { matched := 1 } }, matchedFindings rules payment matched decision e]
          matched := some matched
          matchedRefunds := (paymentRefunds indexes payment).map Refund.id }
  | _, _ =>
    if decision.candidates.isEmpty then pure { payment := payment, findings := before.append (unsettledFindings payment decision) }
    else pure { payment := payment, findings := before.append (ambiguousMatchFindings payment decision) }

def reviewPayment (order : SetOrder) (rules : ReconciliationRules) (indexes : PaymentIndexes)
    (settlementIndexes : SettlementIndexes) (payment : Payment) : Except EngineError PaymentReview :=
  reviewDecision rules indexes settlementIndexes payment
    (matchPaymentToSettlement order payment rules settlementIndexes)

/-! ## Records without a payment -/

/-- The payment a record points to, by key or else by provider payment id, of any merchant. -/
def linkedPayment (store : Store) (paymentId : Option String) (provider providerPaymentId : String) : Option Payment :=
  match store.getPayment paymentId with
  | some payment => some payment
  | none => if providerPaymentId = "" then none else store.paymentByProviderId provider providerPaymentId

def orphanSettlementCase (s : Settlement) : CaseRequest :=
  { caseOf none (.settlement s) .settlementWithoutPayment "SETTLEMENT_WITHOUT_PAYMENT" .zero s.netAmount
      "Settlement record has no matching payment." with
    metadata := [("settlement_id", .text s.id), ("provider_payment_id", .text s.providerPaymentId)] }

def orphanSettlementFindings (store : Store) (matchedSettlements : List String) (s : Settlement) : Findings :=
  if s.id ∈ matchedSettlements then {}
  else match linkedPayment store s.paymentId s.provider s.providerPaymentId with
    | some _ => {}
    | none => { requests := [orphanSettlementCase s] }

def orphanRefundCase (r : Refund) : CaseRequest :=
  caseOf none (.refund r) .refundWithoutPayment "REFUND_WITHOUT_PAYMENT" .zero r.amount
    "Refund record has no matching payment."

def unsettledRefundCase (linked : Payment) (r : Refund) : CaseRequest :=
  caseOf linked (.refund r) .refundWithoutSettlement "REFUND_NOT_SETTLED" r.amount .zero
    "Refund is linked to a payment but no settlement record exists for that payment."

def orphanRefundFindings (store : Store) (indexes : PaymentIndexes) (matchedRefunds : List String) (r : Refund) :
    Findings :=
  if r.id ∈ matchedRefunds then {}
  else match linkedPayment store r.paymentId r.provider r.providerPaymentId with
    | none => { requests := [orphanRefundCase r] }
    | some linked =>
      .only (indexes.settlementsByPayment.get (groupKey r.provider r.providerPaymentId)).isEmpty
        { requests := [unsettledRefundCase linked r] }

/-! ## The bank leg -/

structure BankIndexes where
  byRef : MultiMap (String × String) BankTransaction
  byUtr : MultiMap String BankTransaction
  byCurrency : MultiMap String BankTransaction

/-- A set display of normalized values, without the blank ones. -/
def referenceSet (values : List Scalar) : List String := ((values.filterMap normalize).filter (· ≠ "")).dedup

def bankReferences (b : BankTransaction) : List String :=
  referenceSet [.ofOption b.reference, b.metadataJson.fields.get "settlement_reference", b.metadataJson.fields.get "settlement_id"]

def bankUtr (b : BankTransaction) : Option String := (normalize (b.metadataJson.fields.get "utr")).filter (· ≠ "")

def buildBankIndexes (order : SetOrder) (bankTransactions : List BankTransaction) : BankIndexes where
  byRef := MultiMap.collect (fun b => (order.iter (bankReferences b)).flatMap fun ref =>
    [(lower (b.provider.getD ""), ref), ("*", ref)]) bankTransactions
  byUtr := MultiMap.collect (fun b => (bankUtr b).toList) bankTransactions
  byCurrency := MultiMap.collect (fun b => [upper b.currency]) bankTransactions

def payoutReferences (s : Settlement) : List String :=
  referenceSet [.str s.providerSettlementId, .ofOption s.utr]

/-- Bank rows one reference leads to. -/
def bankRowsByReference (indexes : BankIndexes) (provider ref : String) : List BankTransaction :=
  indexes.byRef.get (provider, ref) ++ indexes.byRef.get ("*", ref) ++ indexes.byUtr.get ref

def referencedBank (order : SetOrder) (indexes : BankIndexes) (s : Settlement) : List BankTransaction :=
  KeyedRows.collect BankTransaction.id
    ((order.iter (payoutReferences s)).flatMap (bankRowsByReference indexes (lower s.provider)))

/-- Whether a bank row is close enough to a settlement in date and amount. -/
def closeToPayout (settings : Settings) (s : Settlement) (b : BankTransaction) : Bool :=
  decide (|b.eventTimestamp.localNaive - s.settledAt.localNaive| / DateTime.day ≤ max 7 settings.settlementWindowDays) &&
    ((b.amount.sub s.netAmount).abs).le settings.rules.amountTolerance

def bankCandidates (order : SetOrder) (settings : Settings) (indexes : BankIndexes) (s : Settlement) :
    List BankTransaction :=
  let candidates := referencedBank order indexes s
  if candidates.isEmpty then (indexes.byCurrency.get (settlementCurrency s)).filter (closeToPayout settings s)
  else candidates

def bankAmbiguousCase (store : Store) (s : Settlement) (candidates : List BankTransaction) : CaseRequest :=
  { caseOf (store.getPayment s.paymentId) (.settlement s) .bankAmbiguousMatch "BANK_AMBIGUOUS_MATCH" s.netAmount .zero
      "Multiple bank transactions could represent the settlement payout." with
    matchedRecordId := candidates.head?.map BankTransaction.id
    metadata := [("merchant_id", .ofOption s.merchantId),
      ("candidate_bank_ids", .texts (candidates.map BankTransaction.id))] }

def bankMismatchCase (store : Store) (s : Settlement) (b : BankTransaction) : CaseRequest :=
  { caseOf (store.getPayment s.paymentId) (.bank b) .bankSettlementMismatch "BANK_SETTLEMENT_MISMATCH" s.netAmount b.amount
      ("Bank credit " ++ b.amount.str ++ " does not equal settlement net " ++ s.netAmount.str ++ ".") with
    matchedRecordId := some s.id
    metadata := [("merchant_id", .ofOption s.merchantId), ("settlement_id", .text s.id),
      ("bank_transaction_id", .text b.id), ("settlement_currency", .text (settlementCurrency s)),
      ("bank_currency", .text (upper b.currency))] }

/-- The bank row pays the settlement's net amount in its currency. -/
def paysOut (s : Settlement) (b : BankTransaction) : Bool :=
  b.amount.numEq s.netAmount && upper b.currency == settlementCurrency s

/-- What the bank leg does with one settlement: the row it takes, and whether it counts as matched. -/
structure BankReview where
  settlement : Settlement
  findings : Findings := {}
  taken : Option BankTransaction := none
  matched : Bool := false

def reviewBank (order : SetOrder) (settings : Settings) (store : Store) (indexes : BankIndexes) (s : Settlement) :
    BankReview :=
  match bankCandidates order settings indexes s with
  | [] => { settlement := s }
  | [b] =>
    if paysOut s b then
      { settlement := s, findings := { stats := { bankMatched := 1 } }, taken := some b, matched := true }
    else
      { settlement := s
        findings := { requests := [bankMismatchCase store s b], stats := { bankMismatch := 1 } }
        taken := some b }
  | candidates =>
    { settlement := s
      findings := { requests := [bankAmbiguousCase store s candidates], stats := { bankAmbiguous := 1 } } }

def unexplainedCreditCase (b : BankTransaction) : CaseRequest :=
  { caseOf none (.bank b) .bankWithoutSettlement "BANK_WITHOUT_SETTLEMENT" .zero b.amount
      ("Bank credit " ++ b.amount.str ++ " has no matching settlement.") with
    metadata := [("merchant_id", .ofOption b.merchantId), ("bank_transaction_id", .text b.id)] }

def unexplainedCreditFindings (taken : List String) (b : BankTransaction) : Findings :=
  .only (b.id ∉ taken && !b.amount.le .zero)
    { requests := [unexplainedCreditCase b]
      stats := { bankUnmatched := 1 } }

/-! ## A run -/

/-- What a run finds before it records any case. -/
structure Survey where
  payments : List PaymentReview
  bank : List BankReview
  findings : Findings
  totalRecords : Nat

def reviewPayments (order : SetOrder) (settings : Settings) (store : Store) (scope : Option String) :
    Except EngineError (List PaymentReview) :=
  let settlements := selectSettlements store scope
  let indexes := buildPaymentIndexes (selectPayments store scope) (selectRefunds store scope) settlements
  (selectPayments store scope).mapM
    (reviewPayment order settings.rules indexes (buildSettlementIndexes order settlements))

def reviewBankLeg (order : SetOrder) (settings : Settings) (store : Store) (scope : Option String) : List BankReview :=
  ((selectSettlements store scope).filter (fun s => owned scope s.merchantId)).map
    (reviewBank order settings store (buildBankIndexes order (selectBank store scope)))

def matchedSettlementIds (reviews : List PaymentReview) : List String :=
  reviews.filterMap fun review => review.matched.map Settlement.id

def matchedRefundIds (reviews : List PaymentReview) : List String := reviews.flatMap PaymentReview.matchedRefunds

def takenBankIds (reviews : List BankReview) : List String :=
  reviews.filterMap fun review => review.taken.map BankTransaction.id

/-- The rest of the run, once the payments are reviewed. -/
def surveyOf (order : SetOrder) (settings : Settings) (store : Store) (scope : Option String)
    (reviews : List PaymentReview) : Survey :=
  let payments := selectPayments store scope
  let refunds := selectRefunds store scope
  let settlements := selectSettlements store scope
  let bank := reviewBankLeg order settings store scope
  { payments := reviews
    bank := bank
    findings := .flatten
      [.flatten ((settlementGroups settlements).map duplicateSettlementFindings),
        .flatten (reviews.map PaymentReview.findings),
        .flatten (settlements.map (orphanSettlementFindings store (matchedSettlementIds reviews))),
        .flatten (refunds.map (orphanRefundFindings store (buildPaymentIndexes payments refunds settlements)
          (matchedRefundIds reviews))),
        .flatten (bank.map BankReview.findings),
        .flatten ((selectBank store scope).map (unexplainedCreditFindings (takenBankIds bank)))]
    totalRecords := payments.length + refunds.length + settlements.length }

def survey (order : SetOrder) (settings : Settings) (store : Store) (merchantId : Option String) :
    Except EngineError Survey :=
  let scope := scopeOf merchantId
  (reviewPayments order settings store scope).map (surveyOf order settings store scope)

structure Report where
  survey : Survey
  cases : CaseStore
  createdCases : Nat

def Report.stats (report : Report) : Stats := report.survey.findings.stats

def runReconciliation [Hashing] (order : SetOrder) (settings : Settings) (draws : Nat → Draw) (store : Store)
    (merchantId : Option String) (cases : CaseStore) : Except EngineError Report := do
  let survey ← survey order settings store merchantId
  let (cases, created) := createCases settings draws cases survey.findings.requests
  pure ⟨survey, cases, created⟩

end Platform
end RCAA
