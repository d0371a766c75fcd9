import RCAA.Reconciliation.Engine
import RCAA.Reconciliation.MatcherProofs

/-! What a run does, piece by piece: the rows its queries select, the three ways the
loop treats a payment, the three ways the bank leg treats a settlement, and what a
finished run consists of. Later results use these equations, not the loops. -/

namespace RCAA

/-! ## Selected rows -/

theorem orderRows_perm (timestamp : α → DateTime) (id : α → String) (rows : List α) :
    (orderRows timestamp id rows).Perm rows := List.perm_insertionSort _ _

theorem scopeOf_some {merchant : String} (named : merchant ≠ "") : scopeOf (some merchant) = some merchant := by
  simp [scopeOf, Option.filter, named]

theorem owned_some_iff {merchant : String} {merchantId : Option String} :
    owned (some merchant) merchantId = true ↔ merchantId = some merchant := by
  simp only [owned, beq_iff_eq]

theorem ownedOrLinked_some_iff {store : Store} {merchant : String} {merchantId paymentId : Option String} :
    ownedOrLinked store (some merchant) merchantId paymentId = true ↔
      merchantId = some merchant ∨ ∃ p ∈ store.payments, p.merchantId = some merchant ∧ paymentId = some p.id := by
  simp only [ownedOrLinked, Bool.or_eq_true, beq_iff_eq, List.any_eq_true, Bool.and_eq_true]

section Select
variable (store : Store) (scope : Option String)

@[simp] theorem mem_selectPayments (p : Payment) :
    p ∈ selectPayments store scope ↔ p ∈ store.payments ∧ owned scope p.merchantId = true := by
  rw [selectPayments, (orderRows_perm _ _ _).mem_iff, List.mem_filter]

@[simp] theorem mem_selectRefunds (r : Refund) :
    r ∈ selectRefunds store scope ↔ r ∈ store.refunds ∧ ownedOrLinked store scope r.merchantId r.paymentId = true := by
  rw [selectRefunds, (orderRows_perm _ _ _).mem_iff, List.mem_filter]

@[simp] theorem mem_selectSettlements (s : Settlement) :
    s ∈ selectSettlements store scope ↔
      s ∈ store.settlements ∧ ownedOrLinked store scope s.merchantId s.paymentId = true := by
  rw [selectSettlements, (orderRows_perm _ _ _).mem_iff, List.mem_filter]

@[simp] theorem mem_selectBank (b : BankTransaction) :
    b ∈ selectBank store scope ↔ b ∈ store.bankTransactions ∧ owned scope b.merchantId = true := by
  rw [selectBank, (orderRows_perm _ _ _).mem_iff, List.mem_filter]

theorem selected_ids_nodup {rows : List α} {key : α → κ} (distinct : (rows.map key).Nodup) (timestamp : α → DateTime)
    (id : α → String) (accepts : α → Bool) : ((orderRows timestamp id (rows.filter accepts)).map key).Nodup :=
  ((orderRows_perm timestamp id _).map key).nodup_iff.mpr (distinct.sublist (List.filter_sublist.map key))

theorem selectPayments_ids : ((selectPayments store scope).map Payment.id).Nodup :=
  selected_ids_nodup store.paymentIds _ _ _

theorem selectRefunds_ids : ((selectRefunds store scope).map Refund.id).Nodup :=
  selected_ids_nodup store.refundIds _ _ _

theorem selectSettlements_ids : ((selectSettlements store scope).map Settlement.id).Nodup :=
  selected_ids_nodup store.settlementIds _ _ _

theorem selectBank_ids : ((selectBank store scope).map BankTransaction.id).Nodup :=
  selected_ids_nodup store.bankIds _ _ _

theorem selectSettlements_named : ∀ s ∈ selectSettlements store scope, s.id ≠ "" :=
  fun s member => store.settlementNamed s ((mem_selectSettlements store scope s).mp member).1

end Select

/-! ## The payment loop -/

section Platform
variable [Platform]

theorem mem_decidingTier {rules : ReconciliationRules} {payment : Payment} {settlements : List Settlement} {s : Settlement}
    (member : s ∈ decidingTier rules payment settlements) :
    s ∈ settlements ∧ lower s.provider = lower payment.provider := by
  simpa only [decide_eq_true_eq] using List.mem_filter.mp ((decidingTier_sublist rules payment settlements).subset member)

/-- The review of a payment whose deciding rule accepts exactly one settlement. -/
def matchedReview (rules : ReconciliationRules) (indexes : PaymentIndexes) (payment : Payment) (matched : Settlement)
    (decision : MatchDecision) (e : Expectation) : PaymentReview where
  payment := payment
  findings := .flatten [unmatchedFindings indexes payment, { stats := { matched := 1 } },
    matchedFindings rules payment matched decision e]
  matched := some matched
  matchedRefunds := (paymentRefunds indexes payment).map Refund.id

/-- How the loop treats a payment, by the settlements its deciding rule accepts. -/
def reviewOf (rules : ReconciliationRules) (indexes : PaymentIndexes) (payment : Payment) (decision : MatchDecision) :
    List Settlement → Except EngineError PaymentReview
  | [] => .ok
    { payment := payment
      findings := (unmatchedFindings indexes payment).append (unsettledFindings payment decision) }
  | [s] => (calculateExpectedSettlement payment (paymentRefunds indexes payment) [s]).map
      (matchedReview rules indexes payment s decision)
  | _ => .ok
    { payment := payment
      findings := (unmatchedFindings indexes payment).append (ambiguousMatchFindings payment decision) }

theorem reviewDecision_eq (order : SetOrder) (rules : ReconciliationRules) (indexes : PaymentIndexes)
    {settlements : List Settlement} (distinct : (settlements.map Settlement.id).Nodup)
    (named : ∀ s ∈ settlements, s.id ≠ "") (payment : Payment) {decision : MatchDecision}
    (settles : Settles (decidingTier rules payment settlements) decision) :
    reviewDecision rules indexes (buildSettlementIndexes order settlements) payment decision =
      reviewOf rules indexes payment decision (decidingTier rules payment settlements) := by
  obtain ⟨matched, record, candidates⟩ := settles
  rcases tier : decidingTier rules payment settlements with _ | ⟨s, _ | ⟨t, rest⟩⟩ <;>
    simp only [tier] at matched record candidates
  · have unmatched : decision.matched = false := by simpa using matched
    have none : decision.candidates = [] := by simpa using candidates
    simp only [reviewDecision, unmatched, none, List.isEmpty_nil, if_true]
    rfl
  · have isMatched : decision.matched = true := by simpa using matched
    have recordId : decision.matchedRecordId = some s.id := (record s.id).mpr ⟨s, rfl, rfl⟩
    have accepted : s ∈ decidingTier rules payment settlements := by simp [tier]
    obtain ⟨member, provider⟩ := mem_decidingTier accepted
    have nonempty : (some s.id).filter (fun id => decide (id ≠ "")) = some s.id := by
      simp [Option.filter, named s member]
    have found : (settlements.filter (fun s => lower s.provider = lower payment.provider)).find? (fun t => t.id = s.id) = some s :=
      (KeyedRows.find?_eq_some_iff Settlement.id (distinct.sublist (List.filter_sublist.map _)) s.id s).mpr
        ⟨List.mem_filter.mpr ⟨member, by simpa using provider⟩, rfl⟩
    simp only [reviewDecision, isMatched, recordId, nonempty, byProvider_get, found, reviewOf]
    cases calculateExpectedSettlement payment (paymentRefunds indexes payment) [s] <;> rfl
  · have unmatched : decision.matched = false := by simpa using matched
    have several : decision.candidates.isEmpty = false := by
      rw [if_neg (by simp)] at candidates
      rw [List.isEmpty_eq_false_iff]
      rintro none
      simp [none] at candidates
    simp only [reviewDecision, unmatched, several, Bool.false_eq_true, if_false]
    rfl

/-- The loop treats a payment by the number of settlements its deciding rule accepts. -/
theorem reviewPayment_eq (order : SetOrder) (rules : ReconciliationRules) (indexes : PaymentIndexes)
    {settlements : List Settlement} (distinct : (settlements.map Settlement.id).Nodup)
    (named : ∀ s ∈ settlements, s.id ≠ "") (payment : Payment) :
    reviewPayment order rules indexes (buildSettlementIndexes order settlements) payment =
      reviewOf rules indexes payment
        (matchPaymentToSettlement order payment rules (buildSettlementIndexes order settlements))
        (decidingTier rules payment settlements) :=
  reviewDecision_eq order rules indexes distinct named payment
    (matchPaymentToSettlement_settles order payment rules distinct)

theorem reviewOf_matched_iff {rules : ReconciliationRules} {indexes : PaymentIndexes} {payment : Payment}
    {decision : MatchDecision} {tier : List Settlement} {review : PaymentReview}
    (done : reviewOf rules indexes payment decision tier = .ok review) :
    review.payment = payment ∧ ∀ s, review.matched = some s ↔ tier = [s] := by
  rcases tier with _ | ⟨s, _ | ⟨t, rest⟩⟩
  · cases done
    simp
  · obtain ⟨e, _, rfl⟩ := Outcome.map_ok done
    simp [matchedReview]
  · cases done
    simp

theorem reviewPayments_forall₂ {order : SetOrder} {settings : Settings} {store : Store} {scope : Option String}
    {reviews : List PaymentReview} (done : reviewPayments order settings store scope = .ok reviews) :
    List.Forall₂ (fun payment review =>
      reviewOf settings.rules
        (buildPaymentIndexes (selectPayments store scope) (selectRefunds store scope) (selectSettlements store scope))
        payment (matchPaymentToSettlement order payment settings.rules
          (buildSettlementIndexes order (selectSettlements store scope)))
        (decidingTier settings.rules payment (selectSettlements store scope)) = .ok review)
      (selectPayments store scope) reviews := by
  refine (Outcome.mapM_forall₂ done).imp fun payment review reviewed => ?_
  rwa [reviewPayment_eq order settings.rules _ (selectSettlements_ids store scope)
    (selectSettlements_named store scope) payment] at reviewed

/-- The run takes a settlement as a payment's match exactly when the deciding rule accepts no other. -/
theorem matched_iff {order : SetOrder} {settings : Settings} {store : Store} {scope : Option String}
    {reviews : List PaymentReview} (done : reviewPayments order settings store scope = .ok reviews)
    {review : PaymentReview} (reviewed : review ∈ reviews) (s : Settlement) :
    review.matched = some s ↔ decidingTier settings.rules review.payment (selectSettlements store scope) = [s] := by
  have every := reviewPayments_forall₂ done
  obtain ⟨payment, _, this⟩ := Outcome.forall₂_right every reviewed
  obtain ⟨rfl, matched⟩ := reviewOf_matched_iff this
  exact matched s

/-! ## The bank leg -/

/-- A reference of the payout is one the bank row carries. -/
def Referenced (s : Settlement) (b : BankTransaction) : Prop :=
  ∃ ref ∈ payoutReferences s, ref ∈ bankReferences b ∨ bankUtr b = some ref

instance (s : Settlement) (b : BankTransaction) : Decidable (Referenced s b) :=
  inferInstanceAs (Decidable (∃ ref ∈ payoutReferences s, ref ∈ bankReferences b ∨ bankUtr b = some ref))

/-- Bank rows that share a reference with a settlement; failing that, those of its
currency close to it in date and amount. -/
def payoutTier (settings : Settings) (s : Settlement) (bank : List BankTransaction) : List BankTransaction :=
  Tiers.deciding [bank.filter (Referenced s),
    bank.filter (fun b => upper b.currency = settlementCurrency s ∧ closeToPayout settings s b)]

theorem mem_bankRowsByReference (order : SetOrder) (bank : List BankTransaction) (provider ref : String)
    (b : BankTransaction) :
    b ∈ bankRowsByReference (buildBankIndexes order bank) provider ref ↔
      b ∈ bank ∧ (ref ∈ bankReferences b ∨ bankUtr b = some ref) := by
  simp only [bankRowsByReference, buildBankIndexes, List.mem_append, MultiMap.mem_get_collect, List.mem_flatMap,
    SetOrder.mem_iter, List.mem_cons, List.not_mem_nil, or_false, Prod.mk.injEq, Option.mem_toList]
  constructor
  · rintro ((⟨member, other, listed, (⟨_, rfl⟩ | ⟨_, rfl⟩)⟩ | ⟨member, other, listed, (⟨_, rfl⟩ | ⟨_, rfl⟩)⟩) | ⟨member, utr⟩)
    all_goals first | exact ⟨member, .inl listed⟩ | exact ⟨member, .inr utr⟩
  · rintro ⟨member, listed | utr⟩
    · exact .inl (.inr ⟨member, ref, listed, .inr ⟨trivial, rfl⟩⟩)
    · exact .inr ⟨member, utr⟩

theorem mem_referencedRows (order : SetOrder) (bank : List BankTransaction) (s : Settlement) (b : BankTransaction) :
    b ∈ (order.iter (payoutReferences s)).flatMap (bankRowsByReference (buildBankIndexes order bank) (lower s.provider)) ↔
      b ∈ bank ∧ Referenced s b := by
  simp only [List.mem_flatMap, SetOrder.mem_iter, mem_bankRowsByReference, Referenced]
  constructor
  · rintro ⟨ref, wanted, member, found⟩
    exact ⟨member, ref, wanted, found⟩
  · rintro ⟨member, ref, wanted, found⟩
    exact ⟨ref, wanted, member, found⟩

theorem referencedBank_perm (order : SetOrder) {bank : List BankTransaction}
    (distinct : (bank.map BankTransaction.id).Nodup) (s : Settlement) :
    (referencedBank order (buildBankIndexes order bank) s).Perm (bank.filter (Referenced s)) := by
  have faithful := (KeyedRows.faithful_of_nodup BankTransaction.id distinct).mono
    fun b member => ((mem_referencedRows order bank s b).mp member).1
  refine (List.perm_ext_iff_of_nodup (KeyedRows.nodup_collect _ faithful) ((distinct.of_map _).filter _)).mpr fun b => ?_
  rw [KeyedRows.mem_collect _ faithful, mem_referencedRows, List.mem_filter, decide_eq_true_eq]

theorem payoutTier_sublist (settings : Settings) (s : Settlement) (bank : List BankTransaction) :
    (payoutTier settings s bank).Sublist bank := by
  refine Tiers.deciding_sublist fun tier listed => ?_
  simp only [List.mem_cons, List.not_mem_nil, or_false] at listed
  rcases listed with rfl | rfl <;> exact List.filter_sublist

theorem byCurrency_get (order : SetOrder) (bank : List BankTransaction) (currency : String) :
    (buildBankIndexes order bank).byCurrency.get currency = bank.filter (fun b => upper b.currency = currency) := by
  simp only [buildBankIndexes]
  rw [MultiMap.get_collect _ _ (fun _ _ => List.nodup_singleton _)]
  simp only [List.mem_singleton, eq_comm]

/-- The candidates of a payout are its tier, in an order that depends on the iteration. -/
theorem bankCandidates_perm (order : SetOrder) (settings : Settings) {bank : List BankTransaction}
    (distinct : (bank.map BankTransaction.id).Nodup) (s : Settlement) :
    (bankCandidates order settings (buildBankIndexes order bank) s).Perm (payoutTier settings s bank) := by
  have referenced := referencedBank_perm order distinct s
  simp only [bankCandidates, payoutTier, byCurrency_get, List.filter_filter]
  cases found : referencedBank order (buildBankIndexes order bank) s with
  | nil =>
    rw [found] at referenced
    rw [← referenced.nil_eq, Tiers.deciding_cons_nil]
    simp only [List.isEmpty_nil, if_true]
    rw [Tiers.deciding_singleton]
    exact List.Perm.of_eq (List.filter_congr fun b _ => by rw [Bool.decide_and, Bool.decide_eq_true, Bool.and_comm])
  | cons b rest =>
    rw [found] at referenced
    rw [Tiers.deciding_cons_of_ne_nil (by rintro none; simp [none] at referenced)]
    simpa using referenced

/-! ## Where a case comes from -/

theorem mem_surveyOf_requests (order : SetOrder) (settings : Settings) (store : Store) (scope : Option String)
    (reviews : List PaymentReview) (r : CaseRequest) :
    r ∈ (surveyOf order settings store scope reviews).findings.requests ↔
      (∃ group ∈ settlementGroups (selectSettlements store scope), r ∈ (duplicateSettlementFindings group).requests) ∨
      (∃ review ∈ reviews, r ∈ review.findings.requests) ∨
      (∃ s ∈ selectSettlements store scope,
        r ∈ (orphanSettlementFindings store (matchedSettlementIds reviews) s).requests) ∨
      (∃ refund ∈ selectRefunds store scope, r ∈ (orphanRefundFindings store
        (buildPaymentIndexes (selectPayments store scope) (selectRefunds store scope) (selectSettlements store scope))
        (matchedRefundIds reviews) refund).requests) ∨
      (∃ review ∈ reviewBankLeg order settings store scope, r ∈ review.findings.requests) ∨
      (∃ b ∈ selectBank store scope, r ∈ (unexplainedCreditFindings
        (takenBankIds (reviewBankLeg order settings store scope)) b).requests) := by
  simp only [surveyOf, Findings.requests_flatten, List.flatMap_cons, List.flatMap_nil, List.append_nil, List.mem_append,
    List.mem_flatMap, List.mem_map, exists_exists_and_eq_and]

omit [Platform] in
theorem duplicateSettlementFindings_cases {group : List Settlement} {r : CaseRequest} :
    r ∈ (duplicateSettlementFindings group).requests ↔
      1 < group.length ∧ ∃ first ∈ group.head?, r = duplicateSettlementCase first group := by
  rcases group with _ | ⟨a, _ | ⟨b, rest⟩⟩ <;> simp [duplicateSettlementFindings]

omit [Platform] in
theorem orphanSettlementFindings_cases {store : Store} {matched : List String} {s : Settlement} {r : CaseRequest} :
    r ∈ (orphanSettlementFindings store matched s).requests ↔
      s.id ∉ matched ∧ linkedPayment store s.paymentId s.provider s.providerPaymentId = none ∧
        r = orphanSettlementCase s := by
  simp only [orphanSettlementFindings]
  by_cases known : s.id ∈ matched
  · simp [known]
  · cases linkedPayment store s.paymentId s.provider s.providerPaymentId <;> simp [known]

omit [Platform] in
theorem linkedPayment_mem {store : Store} {paymentId : Option String} {provider providerPaymentId : String} {p : Payment}
    (linked : linkedPayment store paymentId provider providerPaymentId = some p) : p ∈ store.payments := by
  simp only [linkedPayment] at linked
  split at linked
  · next found =>
    cases linked
    exact ((store.getPayment_eq_some_iff _ _).mp found).1
  · split at linked
    · cases linked
    · exact ((store.paymentByProviderId_eq_some_iff _ _ _).mp linked).1

theorem orphanRefundFindings_cases {store : Store} {indexes : PaymentIndexes} {matched : List String} {refund : Refund}
    {r : CaseRequest} :
    r ∈ (orphanRefundFindings store indexes matched refund).requests ↔
      refund.id ∉ matched ∧
      ((linkedPayment store refund.paymentId refund.provider refund.providerPaymentId = none ∧
          r = orphanRefundCase refund) ∨
        ∃ linked, linkedPayment store refund.paymentId refund.provider refund.providerPaymentId = some linked ∧
          indexes.settlementsByPayment.get (groupKey refund.provider refund.providerPaymentId) = [] ∧
          r = unsettledRefundCase linked refund) := by
  simp only [orphanRefundFindings]
  by_cases known : refund.id ∈ matched
  · simp [known]
  · cases linkedPayment store refund.paymentId refund.provider refund.providerPaymentId <;>
      simp [known, Findings.mem_requests_only]

omit [Platform] in
theorem unexplainedCreditFindings_cases {taken : List String} {b : BankTransaction} {r : CaseRequest} :
    r ∈ (unexplainedCreditFindings taken b).requests ↔
      (b.id ∉ taken ∧ ¬b.amount.toRat ≤ 0) ∧ r = unexplainedCreditCase b := by
  have positive : (!b.amount.le .zero) = true ↔ ¬b.amount.toRat ≤ 0 := by
    rw [Bool.not_eq_true', ← Bool.not_eq_true, Decimal.le_iff, Decimal.toRat_zero]
  simp only [unexplainedCreditFindings, Findings.mem_requests_only, Bool.and_eq_true, decide_eq_true_eq, positive,
    List.mem_singleton]

theorem reviewBank_requests {order : SetOrder} {settings : Settings} {store : Store} {indexes : BankIndexes}
    {s : Settlement} {r : CaseRequest} :
    r ∈ (reviewBank order settings store indexes s).findings.requests ↔
      (∃ b, bankCandidates order settings indexes s = [b] ∧ paysOut s b = false ∧ r = bankMismatchCase store s b) ∨
        (1 < (bankCandidates order settings indexes s).length ∧
          r = bankAmbiguousCase store s (bankCandidates order settings indexes s)) := by
  rcases candidates : bankCandidates order settings indexes s with _ | ⟨b, _ | ⟨c, rest⟩⟩ <;>
    simp only [reviewBank, candidates]
  · simp
  · cases pays : paysOut s b <;> simp [pays]
  · simp

/-- Every case the loop reports about a payment carries the payment. -/
theorem reviewOf_requests_payment {rules : ReconciliationRules} {indexes : PaymentIndexes} {p : Payment}
    {decision : MatchDecision} {tier : List Settlement} {review : PaymentReview}
    (done : reviewOf rules indexes p decision tier = .ok review) {r : CaseRequest}
    (reported : r ∈ review.findings.requests) : r.payment = some p ∧ r.recordType = "payment" := by
  have before : ∀ r ∈ (unmatchedFindings indexes p).requests, r.payment = some p ∧ r.recordType = "payment" := by
    intro r reported
    simp only [unmatchedFindings, Findings.requests_flatten, List.mem_flatMap, List.mem_cons, List.not_mem_nil, or_false,
      exists_eq_or_imp, exists_eq_left, duplicatePaymentFindings, paymentStatusFindings, missingRefundFindings,
      Findings.mem_requests_only, duplicateRefundFindings, List.mem_map, exists_exists_and_eq_and]
      at reported
    rcases reported with ⟨_, rfl⟩ | ⟨_, rfl⟩ | ⟨group, _, reported⟩ | ⟨_, rfl⟩
    · exact ⟨rfl, rfl⟩
    · exact ⟨rfl, rfl⟩
    · rcases group with _ | ⟨a, _ | ⟨b, rest⟩⟩
      · simp [duplicateRefundGroupFindings] at reported
      · simp [duplicateRefundGroupFindings] at reported
      · rw [duplicateRefundGroupFindings, List.mem_singleton] at reported
        rw [reported]
        exact ⟨rfl, rfl⟩
    · exact ⟨rfl, rfl⟩
  rcases tier with _ | ⟨s, _ | ⟨t, rest⟩⟩
  · cases done
    rcases List.mem_append.mp reported with reported | reported
    · exact before r reported
    · rw [List.mem_singleton.mp reported]
      exact ⟨rfl, rfl⟩
  · obtain ⟨e, _, rfl⟩ := Outcome.map_ok done
    simp only [matchedReview, matchedFindings, Findings.requests_flatten, List.mem_flatMap, List.mem_cons,
      List.not_mem_nil, or_false, exists_eq_or_imp, exists_eq_left, settlementStatusFindings, currencyFindings,
      delayFindings, amountFindings, Findings.mem_requests_only, false_or] at reported
    rcases reported with reported | ⟨_, rfl⟩ | ⟨_, rfl⟩ | ⟨_, rfl⟩ | ⟨_, rfl⟩
    · exact before r reported
    all_goals exact ⟨rfl, rfl⟩
  · cases done
    rcases List.mem_append.mp reported with reported | reported
    · exact before r reported
    · rw [List.mem_singleton.mp reported]
      exact ⟨rfl, rfl⟩

/-! ## When a run finishes -/

theorem calculateExpectedSettlement_isOk_iff (p : Payment) (refunds : List Refund) (s : Settlement) :
    (∃ e, calculateExpectedSettlement p refunds [s] = .ok e) ↔ ∃ adjusted, adjustment s = .ok adjusted := by
  cases parsed : adjustment s with
  | error e => simp [calculateExpectedSettlement, List.mapM_cons, parsed, bind, Except.bind]
  | ok adjusted => simp [calculateExpectedSettlement, List.mapM_cons, parsed, bind, Except.bind, pure, Except.pure]

theorem reviewOf_isOk_iff (rules : ReconciliationRules) (indexes : PaymentIndexes) (p : Payment)
    (decision : MatchDecision) (tier : List Settlement) :
    (∃ review, reviewOf rules indexes p decision tier = .ok review) ↔
      ∀ s, tier = [s] → ∃ adjusted, adjustment s = .ok adjusted := by
  rcases tier with _ | ⟨s, _ | ⟨t, rest⟩⟩
  · simp [reviewOf]
  · simp only [List.cons.injEq, and_true, forall_eq', ← calculateExpectedSettlement_isOk_iff p (paymentRefunds indexes p)]
    constructor
    · rintro ⟨review, done⟩
      obtain ⟨e, calculated, _⟩ := Outcome.map_ok done
      exact ⟨e, calculated⟩
    · rintro ⟨e, calculated⟩
      exact ⟨matchedReview rules indexes p s decision e, by simp only [reviewOf, calculated, Except.map]⟩
  · simp [reviewOf]

/-- A run finishes exactly when every settlement it matches has a readable adjustment. -/
theorem runReconciliation_isOk_iff [Hashing] (order : SetOrder) (settings : Settings) (draws : Nat → Draw) (store : Store)
    (merchantId : Option String) (cases : CaseStore) :
    (∃ report, runReconciliation order settings draws store merchantId cases = .ok report) ↔
      ∀ p ∈ selectPayments store (scopeOf merchantId), ∀ s,
        decidingTier settings.rules p (selectSettlements store (scopeOf merchantId)) = [s] →
          ∃ adjusted, adjustment s = .ok adjusted := by
  have reviewed : (∃ report, runReconciliation order settings draws store merchantId cases = .ok report) ↔
      ∃ reviews, reviewPayments order settings store (scopeOf merchantId) = .ok reviews := by
    cases reviews : reviewPayments order settings store (scopeOf merchantId) with
    | error e => simp [runReconciliation, survey, reviews, Except.map, bind, Except.bind]
    | ok reviews => simp [runReconciliation, survey, reviews, Except.map, bind, Except.bind, pure, Except.pure]
  rw [reviewed, reviewPayments, Outcome.mapM_isOk_iff]
  refine forall₂_congr fun p _ => ?_
  rw [reviewPayment_eq order settings.rules _ (selectSettlements_ids store _) (selectSettlements_named store _) p,
    reviewOf_isOk_iff]

/-! ## A finished run -/

theorem runReconciliation_ok [Hashing] {order : SetOrder} {settings : Settings} {draws : Nat → Draw} {store : Store}
    {merchantId : Option String} {cases : CaseStore} {report : Report}
    (ran : runReconciliation order settings draws store merchantId cases = .ok report) :
    ∃ reviews, reviewPayments order settings store (scopeOf merchantId) = .ok reviews ∧
      report.survey = surveyOf order settings store (scopeOf merchantId) reviews ∧
      createCases settings draws cases report.survey.findings.requests = (report.cases, report.createdCases) := by
  obtain ⟨found, surveyed, done⟩ := Outcome.bind_ok ran
  obtain ⟨reviews, reviewed, rfl⟩ := Outcome.map_ok surveyed
  cases done
  exact ⟨reviews, reviewed, rfl, rfl⟩

/-- The cases a run leaves: those there before, and one for each request whose
fingerprint is new, in order. -/
theorem report_cases [Hashing] {order : SetOrder} {settings : Settings} {draws : Nat → Draw} {store : Store}
    {merchantId : Option String} {cases : CaseStore} {report : Report}
    (ran : runReconciliation order settings draws store merchantId cases = .ok report) :
    report.cases.contents = cases.contents ++ ((caseRegistry settings draws).fresh
        (cases.cases.map (·.fingerprint)) report.survey.findings.requests).map CaseRequest.content ∧
      report.createdCases = ((caseRegistry settings draws).fresh
        (cases.cases.map (·.fingerprint)) report.survey.findings.requests).length := by
  obtain ⟨_, _, _, recorded⟩ := runReconciliation_ok ran
  have filled := putAll_eq_createCases settings draws cases report.survey.findings.requests
  rw [recorded] at filled
  have rows := (caseRegistry settings draws).putAll_rows filled
  rwa [caseRegistry_keys] at rows

end Platform
end RCAA
