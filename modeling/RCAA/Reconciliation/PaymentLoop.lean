import Mathlib
import RCAA.Reconciliation.EngineProofs

/-! The decision table of the payment loop: for each kind of case, what a store must
hold for a run to record one about a payment. Each finding raises its own kind; a
case is recorded for a kind exactly when some finding of that kind is made, since
equal fingerprints mean equal kinds of one payment. -/

namespace RCAA

def Findings.kinds (findings : Findings) : List CaseType := findings.requests.map CaseRequest.caseType

namespace Findings

@[simp] theorem mem_kinds_append (a b : Findings) (kind : CaseType) :
    kind ∈ (a.append b).kinds ↔ kind ∈ a.kinds ∨ kind ∈ b.kinds := by
  simp only [kinds, requests_append, List.map_append, List.mem_append]

@[simp] theorem mem_kinds_flatten (findings : List Findings) (kind : CaseType) :
    kind ∈ (flatten findings).kinds ↔ ∃ f ∈ findings, kind ∈ f.kinds := by
  simp only [kinds, requests_flatten, List.map_flatMap, List.mem_flatMap]

/-- A finding that reports one case when a condition holds. -/
theorem mem_kinds_only (condition : Bool) (request : CaseRequest) (stats : Stats) (kind : CaseType) :
    kind ∈ (only condition { requests := [request], stats := stats }).kinds ↔
      kind = request.caseType ∧ condition = true := by
  cases condition <;> simp [only, kinds]

end Findings

section Platform
variable [Platform]

/-! ## What each finding depends on -/

theorem paymentRefunds_eq (payments : List Payment) (refunds : List Refund) (settlements : List Settlement)
    (p : Payment) :
    paymentRefunds (buildPaymentIndexes payments refunds settlements) p =
      refunds.filter (fun r => groupKey r.provider r.providerPaymentId = groupKey p.provider p.providerPaymentId) := by
  simp only [paymentRefunds, buildPaymentIndexes]
  rw [MultiMap.get_collect _ _ (fun _ _ => List.nodup_singleton _)]
  simp only [List.mem_singleton, eq_comm]

theorem orderKey_eq_some_iff (p : Payment) (key : String × Option String) :
    orderKey p = some key ↔ ∃ orderId, p.providerOrderId = some orderId ∧ orderId ≠ "" ∧
      (p.provider, normalize (.str orderId)) = key := by
  simp only [orderKey]
  cases p.providerOrderId with
  | none => simp
  | some orderId => by_cases blank : orderId = "" <;> simp [blank]

/-- Another payment of the provider has an order id that normalizes alike. -/
def RepeatsOrder (payments : List Payment) (p : Payment) : Prop :=
  ∃ orderId, p.providerOrderId = some orderId ∧ orderId ≠ "" ∧
    ∃ q ∈ payments, q.id ≠ p.id ∧ q.provider = p.provider ∧
      ∃ other, q.providerOrderId = some other ∧ other ≠ "" ∧ normalize (.str other) = normalize (.str orderId)

theorem kinds_duplicatePayment {payments : List Payment} (distinct : (payments.map Payment.id).Nodup)
    (refunds : List Refund) (settlements : List Settlement) {p : Payment} (member : p ∈ payments) (kind : CaseType) :
    kind ∈ (duplicatePaymentFindings (buildPaymentIndexes payments refunds settlements) p).kinds ↔
      kind = .duplicatePayment ∧ RepeatsOrder payments p := by
  have orders (key : String × Option String) :
      (buildPaymentIndexes payments refunds settlements).paymentsByOrder.get key =
        payments.filter (fun q => orderKey q = some key) := by
    simp only [buildPaymentIndexes]
    rw [MultiMap.get_collect _ _ (fun q _ => by cases orderKey q <;> simp)]
    simp only [Option.mem_toList]
  simp only [duplicatePaymentFindings, Findings.mem_kinds_only, decide_eq_true_eq, caseOf]
  refine and_congr_right fun _ => ?_
  cases keyed : orderKey p with
  | none =>
    simp only [List.length_nil, Nat.not_lt_zero, false_iff]
    rintro ⟨orderId, ordered, named, _⟩
    rw [(orderKey_eq_some_iff p _).mpr ⟨orderId, ordered, named, rfl⟩] at keyed
    cases keyed
  | some key =>
    have self : p ∈ payments.filter (fun q => orderKey q = some key) := List.mem_filter.mpr ⟨member, by simpa using keyed⟩
    simp only [orders]
    rw [KeyedRows.one_lt_length_iff Payment.id (distinct.sublist (List.filter_sublist.map _)) self]
    obtain ⟨orderId, ordered, named, rfl⟩ := (orderKey_eq_some_iff p key).mp keyed
    simp only [List.mem_filter, decide_eq_true_eq, orderKey_eq_some_iff, Prod.mk.injEq]
    constructor
    · rintro ⟨q, ⟨inside, other, theirs, nonempty, provider, same⟩, different⟩
      exact ⟨orderId, ordered, named, q, inside, different, provider, other, theirs, nonempty, same⟩
    · rintro ⟨orderId', ordered', _, q, inside, different, provider, other, theirs, nonempty, same⟩
      cases ordered.symm.trans ordered'
      exact ⟨q, ⟨inside, other, theirs, nonempty, provider, same⟩, different⟩

omit [Platform] in
theorem kinds_paymentStatus (p : Payment) (kind : CaseType) :
    kind ∈ (paymentStatusFindings p).kinds ↔ kind = .statusMismatch ∧ p.status ∉ reconciliableStatuses := by
  simp only [paymentStatusFindings, Findings.mem_kinds_only, decide_eq_true_eq, caseOf]

/-- The refund id as the duplicate check reads it: an empty one is `missing`. -/
def refundIdOrMissing (r : Refund) : String := if r.providerRefundId = "" then "missing" else r.providerRefundId

omit [Platform] in
theorem stableRecordKey_eq_iff (provider a b : String) :
    stableRecordKey provider a = stableRecordKey provider b ↔
      (if a = "" then "missing" else a) = if b = "" then "missing" else b := by
  simp only [stableRecordKey, ← String.toList_inj, String.toList_append, List.append_cancel_left_eq]

/-- Two refunds of a payment share a refund id. -/
def RepeatsRefund (refunds : List Refund) (p : Payment) : Prop :=
  ∃ a ∈ refunds, ∃ b ∈ refunds, a.id ≠ b.id ∧
    groupKey a.provider a.providerPaymentId = groupKey p.provider p.providerPaymentId ∧
    groupKey b.provider b.providerPaymentId = groupKey p.provider p.providerPaymentId ∧
    refundIdOrMissing a = refundIdOrMissing b

theorem kinds_duplicateRefund (payments : List Payment) {refunds : List Refund}
    (distinct : (refunds.map Refund.id).Nodup) (settlements : List Settlement) (p : Payment) (kind : CaseType) :
    kind ∈ (duplicateRefundFindings (buildPaymentIndexes payments refunds settlements) p).kinds ↔
      kind = .duplicateRefund ∧ RepeatsRefund refunds p := by
  have single (group : List Refund) :
      kind ∈ (duplicateRefundGroupFindings p group).kinds ↔ kind = .duplicateRefund ∧ 1 < group.length := by
    rcases group with _ | ⟨a, _ | ⟨b, rest⟩⟩ <;> simp [duplicateRefundGroupFindings, Findings.kinds, caseOf]
  simp only [duplicateRefundFindings, Findings.mem_kinds_flatten, List.mem_map, exists_exists_and_eq_and,
    MultiMap.mem_values_collect, paymentRefunds_eq, single]
  constructor
  · rintro ⟨group, ⟨a, member, rfl⟩, rfl, several⟩
    refine ⟨rfl, ?_⟩
    obtain ⟨b, inside, different⟩ := (KeyedRows.one_lt_length_iff Refund.id
      (distinct.sublist ((List.filter_sublist.trans List.filter_sublist).map _))
      (List.mem_filter.mpr ⟨member, by simp⟩)).mp several
    obtain ⟨other, same⟩ := List.mem_filter.mp inside
    simp only [List.mem_filter, decide_eq_true_eq] at member other same
    have provider : b.provider = a.provider :=
      (congrArg Prod.fst other.2).trans (congrArg Prod.fst member.2).symm
    rw [provider, stableRecordKey_eq_iff] at same
    exact ⟨a, member.1, b, other.1, Ne.symm different, member.2, other.2, same.symm⟩
  · rintro ⟨rfl, a, ha, b, hb, different, mine, theirs, same⟩
    have provider : b.provider = a.provider := (congrArg Prod.fst theirs).trans (congrArg Prod.fst mine).symm
    have member : a ∈ refunds.filter
        (fun r => groupKey r.provider r.providerPaymentId = groupKey p.provider p.providerPaymentId) :=
      List.mem_filter.mpr ⟨ha, by simpa using mine⟩
    refine ⟨_, ⟨a, member, rfl⟩, rfl, ?_⟩
    refine (KeyedRows.one_lt_length_iff Refund.id
      (distinct.sublist ((List.filter_sublist.trans List.filter_sublist).map _))
      (List.mem_filter.mpr ⟨member, by simp⟩)).mpr ⟨b, ?_, Ne.symm different⟩
    refine List.mem_filter.mpr ⟨List.mem_filter.mpr ⟨hb, by simpa using theirs⟩, ?_⟩
    rw [decide_eq_true_eq, provider, stableRecordKey_eq_iff]
    exact same.symm

theorem kinds_missingRefund (payments : List Payment) (refunds : List Refund) (settlements : List Settlement)
    (p : Payment) (kind : CaseType) :
    kind ∈ (missingRefundFindings (buildPaymentIndexes payments refunds settlements) p).kinds ↔
      kind = .missingRefund ∧ (p.rawData.get "expected_refund").truthy = true ∧
        ∀ r ∈ refunds, groupKey r.provider r.providerPaymentId ≠ groupKey p.provider p.providerPaymentId := by
  simp only [missingRefundFindings, Findings.mem_kinds_only, caseOf, Bool.and_eq_true, List.isEmpty_iff,
    paymentRefunds_eq, List.filter_eq_nil_iff, decide_eq_true_eq, ne_eq]

/-! ## A matched payment -/

/-- What is deducted from a payment for its refunds. -/
def deductedRefunds (refunds : List Refund) (p : Payment) : ℚ :=
  ((refunds.filter (fun r => groupKey r.provider r.providerPaymentId = groupKey p.provider p.providerPaymentId ∧
    r.status ∈ deductedStatuses)).map fun r => r.amount.toRat).sum

/-- The exact net amount a settlement of a payment should have. -/
def expectedNet (refunds : List Refund) (p : Payment) (s : Settlement) (adjusted : Decimal) : ℚ :=
  p.amount.toRat - deductedRefunds refunds p - s.fee.toRat - s.tax.toRat + adjusted.toRat

theorem calculateExpectedSettlement_ok {payments : List Payment} {refunds : List Refund} {settlements : List Settlement}
    {p : Payment} {s : Settlement} {e : Expectation}
    (done : calculateExpectedSettlement p
      (paymentRefunds (buildPaymentIndexes payments refunds settlements) p) [s] = .ok e) :
    ∃ adjusted, adjustment s = .ok adjusted ∧
      e.difference.toRat = s.netAmount.toRat - expectedNet refunds p s adjusted := by
  simp only [calculateExpectedSettlement] at done
  obtain ⟨adjusted, collected, done⟩ := Outcome.bind_ok done
  obtain ⟨v, rest, first, others, rfl⟩ := Outcome.mapM_ok_cons collected
  cases others
  cases done
  refine ⟨v, first, ?_⟩
  simp only [Decimal.toRat_sub, Decimal.toRat_add, Decimal.toRat_sum, List.map_cons, List.map_nil, List.sum_cons,
    List.reverse_nil, List.sum_nil, add_zero, expectedNet, deductedRefunds, List.map_map, paymentRefunds_eq,
    List.filter_filter, Function.comp_def, Bool.decide_and, Bool.and_comm]

theorem kinds_matched (rules : ReconciliationRules) (p : Payment) (s : Settlement) (decision : MatchDecision)
    (e : Expectation) (kind : CaseType) :
    kind ∈ (matchedFindings rules p s decision e).kinds ↔
      (kind = .statusMismatch ∧ lower s.status ∉ finalStatuses) ∨
      (kind = .currencyMismatch ∧ settlementCurrency s ≠ paymentCurrency p) ∨
      (kind = .delayedSettlement ∧ p.createdAt.dropZone + rulesWindow rules < s.settledAt.dropZone) ∨
      (kind = .settlementMismatch ∧ e.difference.toRat ≠ 0) := by
  have zero : (!e.difference.isZero) = true ↔ e.difference.toRat ≠ 0 := by
    rw [Bool.not_eq_true', ← Bool.not_eq_true, Decimal.isZero_iff]
  simp only [matchedFindings, Findings.mem_kinds_flatten, List.mem_cons, List.not_mem_nil, or_false, exists_eq_or_imp,
    exists_eq_left, settlementStatusFindings, currencyFindings, delayFindings, amountFindings, Findings.mem_kinds_only,
    decide_eq_true_eq, bne_iff_ne, matchedCase, caseOf, zero]

/-! ## The decision table -/

/-- The kinds of case the payment loop records. -/
def paymentKinds : List CaseType :=
  [.duplicatePayment, .statusMismatch, .duplicateRefund, .missingRefund, .ambiguousMatch, .paymentWithoutSettlement,
    .currencyMismatch, .delayedSettlement, .settlementMismatch]

/-- The settlements the first accepting rule accepts for a payment. -/
def accepted (settings : Settings) (settlements : List Settlement) (p : Payment) : Set Settlement :=
  Tiers.decidingSet (rankedRules settlementReferences settings.rules p settlements)

/-- When a payment raises a case of a kind. -/
def Raised (settings : Settings) (payments : List Payment) (refunds : List Refund) (settlements : List Settlement)
    (p : Payment) : CaseType → Prop
  | .duplicatePayment => RepeatsOrder payments p
  | .statusMismatch => p.status ∉ ["captured", "authorized", "refunded", "partially_refunded"] ∨
      ∃ s, accepted settings settlements p = {s} ∧ lower s.status ∉ ["settled", "processed", "success", "paid"]
  | .duplicateRefund => RepeatsRefund refunds p
  | .missingRefund => (p.rawData.get "expected_refund").truthy = true ∧
      ∀ r ∈ refunds, groupKey r.provider r.providerPaymentId ≠ groupKey p.provider p.providerPaymentId
  | .ambiguousMatch => (accepted settings settlements p).Nontrivial
  | .paymentWithoutSettlement => accepted settings settlements p = ∅
  | .currencyMismatch => ∃ s, accepted settings settlements p = {s} ∧ settlementCurrency s ≠ paymentCurrency p
  | .delayedSettlement => ∃ s, accepted settings settlements p = {s} ∧
      p.createdAt.dropZone + settings.settlementWindowDays * DateTime.day < s.settledAt.dropZone
  | .settlementMismatch => ∃ s adjusted, accepted settings settlements p = {s} ∧ adjustment s = .ok adjusted ∧
      s.netAmount.toRat ≠ expectedNet refunds p s adjusted
  | _ => False

theorem mem_kinds_unmatched {payments : List Payment} (distinct : (payments.map Payment.id).Nodup)
    {refunds : List Refund} (distinctRefunds : (refunds.map Refund.id).Nodup) (settlements : List Settlement)
    {p : Payment} (member : p ∈ payments) (kind : CaseType) :
    kind ∈ (unmatchedFindings (buildPaymentIndexes payments refunds settlements) p).kinds ↔
      (kind = .duplicatePayment ∧ RepeatsOrder payments p) ∨
      (kind = .statusMismatch ∧ p.status ∉ reconciliableStatuses) ∨
      (kind = .duplicateRefund ∧ RepeatsRefund refunds p) ∨
      (kind = .missingRefund ∧ (p.rawData.get "expected_refund").truthy = true ∧
        ∀ r ∈ refunds, groupKey r.provider r.providerPaymentId ≠ groupKey p.provider p.providerPaymentId) := by
  simp only [unmatchedFindings, Findings.mem_kinds_flatten, List.mem_cons, List.not_mem_nil, or_false, exists_eq_or_imp,
    exists_eq_left, kinds_duplicatePayment distinct refunds settlements member, kinds_paymentStatus,
    kinds_duplicateRefund payments distinctRefunds settlements, kinds_missingRefund]

theorem members_decidingTier (settings : Settings) (settlements : List Settlement) (p : Payment) :
    Tiers.members (decidingTier settings.rules p settlements) = accepted settings settlements p := by
  rw [accepted, ← tiersWith_members, ← Tiers.members_deciding]
  rfl

/-- One payment raises exactly the kinds of its row of the table. -/
theorem mem_kinds_reviewOf {settings : Settings} {payments : List Payment} {refunds : List Refund}
    {settlements : List Settlement} (distinct : (payments.map Payment.id).Nodup)
    (distinctRefunds : (refunds.map Refund.id).Nodup) (distinctSettlements : (settlements.map Settlement.id).Nodup)
    {p : Payment} (member : p ∈ payments) {decision : MatchDecision} {review : PaymentReview}
    (done : reviewOf settings.rules (buildPaymentIndexes payments refunds settlements) p decision
      (decidingTier settings.rules p settlements) = .ok review) (kind : CaseType) :
    kind ∈ review.findings.kinds ↔ Raised settings payments refunds settlements p kind := by
  have members := members_decidingTier settings settlements p
  have distinctTier := (nodup_decidingTier distinctSettlements settings.rules p).of_map Settlement.id
  have before := mem_kinds_unmatched distinct distinctRefunds settlements member kind
  rcases tier : decidingTier settings.rules p settlements with _ | ⟨s, _ | ⟨t, rest⟩⟩ <;> rw [tier] at done members distinctTier
  · -- No rule accepts a settlement.
    have none : accepted settings settlements p = ∅ := members.symm.trans ((Tiers.members_eq_empty_iff _).mpr rfl)
    cases done
    rw [Findings.mem_kinds_append, before]
    cases kind <;> simp [Raised, none, Findings.kinds, unsettledFindings, caseOf, reconciliableStatuses]
  · -- The first accepting rule accepts `s` alone.
    have alone : accepted settings settlements p = {s} := by
      rw [← members]
      exact (Tiers.eq_singleton_iff distinctTier s).mp rfl
    obtain ⟨e, calculated, rfl⟩ := Outcome.map_ok done
    obtain ⟨adjusted, parsed, difference⟩ := calculateExpectedSettlement_ok calculated
    have differs : e.difference.toRat ≠ 0 ↔ s.netAmount.toRat ≠ expectedNet refunds p s adjusted := by
      rw [difference, ne_eq, sub_eq_zero]
    simp only [matchedReview, Findings.mem_kinds_flatten, List.mem_cons, List.not_mem_nil, or_false, exists_eq_or_imp,
      exists_eq_left, before, kinds_matched, differs]
    cases kind <;> simp [Raised, alone, parsed, Findings.kinds, reconciliableStatuses, finalStatuses, rulesWindow,
      Settings.rules]
  · -- It accepts several.
    have several : (accepted settings settlements p).Nontrivial := by
      rw [← members]
      refine ⟨s, by simp [Tiers.members], t, by simp [Tiers.members], ?_⟩
      rintro rfl
      simp at distinctTier
    have notEmpty : accepted settings settlements p ≠ ∅ := several.nonempty.ne_empty
    have notAlone : ∀ u, accepted settings settlements p ≠ {u} := fun u single => by
      rw [single] at several
      exact Set.not_nontrivial_singleton several
    cases done
    rw [Findings.mem_kinds_append, before]
    cases kind <;> simp [Raised, several, notEmpty, notAlone, Findings.kinds, ambiguousMatchFindings, caseOf,
      reconciliableStatuses]

/-! ## The table over the rows of a merchant -/

theorem accepted_congr (settings : Settings) {settlements others : List Settlement} (same : settlements.Perm others)
    (p : Payment) : accepted settings settlements p = accepted settings others p := by
  have members : rankedRules settlementReferences settings.rules p settlements =
      rankedRules settlementReferences settings.rules p others := by
    simp only [rankedRules, same.mem_iff]
  rw [accepted, accepted, members]

theorem Raised.congr {settings : Settings} {payments payments' : List Payment} {refunds refunds' : List Refund}
    {settlements settlements' : List Settlement} (samePayments : payments.Perm payments')
    (sameRefunds : refunds.Perm refunds') (sameSettlements : settlements.Perm settlements') (p : Payment)
    (kind : CaseType) :
    Raised settings payments refunds settlements p kind ↔ Raised settings payments' refunds' settlements' p kind := by
  have deducted : deductedRefunds refunds p = deductedRefunds refunds' p :=
    ((sameRefunds.filter _).map _).sum_eq
  cases kind <;> simp only [Raised, RepeatsOrder, RepeatsRefund, samePayments.mem_iff, sameRefunds.mem_iff,
    accepted_congr settings sameSettlements p, expectedNet, deducted]

/-- Every row of the three tables belongs to the merchant. -/
structure OwnedBy (merchant : String) (store : Store) : Prop where
  payments : ∀ p ∈ store.payments, p.merchantId = some merchant
  refunds : ∀ r ∈ store.refunds, r.merchantId = some merchant
  settlements : ∀ s ∈ store.settlements, s.merchantId = some merchant

omit [Platform] in
theorem OwnedBy.select {merchant : String} {store : Store} (own : OwnedBy merchant store) :
    (selectPayments store (some merchant)).Perm store.payments ∧
      (selectRefunds store (some merchant)).Perm store.refunds ∧
      (selectSettlements store (some merchant)).Perm store.settlements := by
  refine ⟨?_, ?_, ?_⟩ <;> refine (orderRows_perm _ _ _).trans (List.Perm.of_eq (List.filter_eq_self.mpr ?_))
  · exact fun p member => owned_some_iff.mpr (own.payments p member)
  · exact fun r member => ownedOrLinked_some_iff.mpr (.inl (own.refunds r member))
  · exact fun s member => ownedOrLinked_some_iff.mpr (.inl (own.settlements s member))

omit [Platform] in
/-- A run for the merchant, or for no one, is about the merchant. -/
theorem owned_scopeOf {merchant : String} {merchantId : Option String}
    (scope : merchantId = none ∨ merchantId = some merchant) : owned (scopeOf merchantId) (some merchant) = true := by
  rcases scope with rfl | rfl
  · rfl
  · by_cases named : merchant = ""
    · simp [scopeOf, Option.filter, named, owned]
    · rw [scopeOf_some named, owned_some_iff]

/-! ## Recorded cases -/

variable [Hashing]

omit [Hashing] in
theorem surveyed_in_payment_loop {order : SetOrder} {settings : Settings} {store : Store} {scope : Option String}
    {reviews : List PaymentReview} {r : CaseRequest}
    (reported : r ∈ (surveyOf order settings store scope reviews).findings.requests) (kind : r.caseType ∈ paymentKinds) :
    ∃ review ∈ reviews, r ∈ review.findings.requests := by
  rcases (mem_surveyOf_requests order settings store scope reviews r).mp reported with
    ⟨_, _, site⟩ | found | ⟨_, _, site⟩ | ⟨_, _, site⟩ | ⟨_, member, site⟩ | ⟨_, _, site⟩
  · obtain ⟨_, _, _, rfl⟩ := duplicateSettlementFindings_cases.mp site
    simp [duplicateSettlementCase, caseOf, paymentKinds] at kind
  · exact found
  · rw [(orphanSettlementFindings_cases.mp site).2.2] at kind
    simp [orphanSettlementCase, caseOf, paymentKinds] at kind
  · rcases (orphanRefundFindings_cases.mp site).2 with ⟨_, rfl⟩ | ⟨_, _, _, rfl⟩
    · simp [orphanRefundCase, caseOf, paymentKinds] at kind
    · simp [unsettledRefundCase, caseOf, paymentKinds] at kind
  · obtain ⟨s, _, rfl⟩ := List.mem_map.mp member
    rcases reviewBank_requests.mp site with ⟨_, _, _, rfl⟩ | ⟨_, rfl⟩
    · simp [bankMismatchCase, caseOf, paymentKinds] at kind
    · simp [bankAmbiguousCase, caseOf, paymentKinds] at kind
  · rw [(unexplainedCreditFindings_cases.mp site).2] at kind
    simp [unexplainedCreditCase, caseOf, paymentKinds] at kind

/-- Of the requests with one fingerprint the first is recorded; from an empty store the
recorded kinds of a payment are the kinds found. -/
theorem recorded_iff_found (injective : Function.Injective Hashing.digest) {order : SetOrder} {settings : Settings}
    {draws : Nat → Draw} {store : Store} {merchantId : Option String} {report : Report}
    (ran : runReconciliation order settings draws store merchantId .empty = .ok report)
    {reviews : List PaymentReview} (reviewed : reviewPayments order settings store (scopeOf merchantId) = .ok reviews)
    (p : Payment) {kind : CaseType} (inLoop : kind ∈ paymentKinds) :
    (∃ c ∈ report.cases.cases, c.paymentId = some p.id ∧ c.caseType = kind.name) ↔
      ∃ review ∈ reviews, review.payment.id = p.id ∧ kind ∈ review.findings.kinds := by
  obtain ⟨reviews', reviewed', found, _⟩ := runReconciliation_ok ran
  cases reviewed.symm.trans reviewed'
  have every := reviewPayments_forall₂ reviewed
  have carried {review : PaymentReview} (member : review ∈ reviews) {r : CaseRequest}
      (reported : r ∈ review.findings.requests) : r.payment = some review.payment := by
    obtain ⟨payment, _, done⟩ := Outcome.forall₂_right every member
    rw [(reviewOf_matched_iff done).1]
    exact (reviewOf_requests_payment done reported).1
  have contents := (report_cases ran).1
  simp only [CaseStore.contents, CaseStore.empty, List.map_nil, List.nil_append] at contents
  constructor
  · rintro ⟨c, recorded, paid, named⟩
    have content : c.toCaseContent ∈ report.cases.cases.map Case.toCaseContent := List.mem_map_of_mem recorded
    rw [contents] at content
    obtain ⟨r, fresh, same⟩ := List.mem_map.mp content
    have reported := (FirstByKey.firsts_sublist _ _ _).subset fresh
    have sameKind : r.caseType = kind := CaseType.name_injective ((congrArg CaseContent.caseType same).trans named)
    rw [found] at reported
    obtain ⟨review, member, reported⟩ := surveyed_in_payment_loop reported (sameKind ▸ inLoop)
    have payment := (congrArg CaseContent.paymentId same).trans paid
    simp only [CaseRequest.content, carried member reported, Option.map_some, Option.some.injEq] at payment
    exact ⟨review, member, payment, List.mem_map.mpr ⟨r, reported, sameKind⟩⟩
  · rintro ⟨review, member, same, raised⟩
    obtain ⟨r, reported, rfl⟩ := List.mem_map.mp raised
    have surveyed : r ∈ report.survey.findings.requests := by
      rw [found]
      exact (mem_surveyOf_requests order settings store _ reviews r).mpr (.inr (.inl ⟨review, member, reported⟩))
    rcases FirstByKey.covered (caseRegistry settings draws).keyOf [] report.survey.findings.requests surveyed with stored | ⟨e, fresh, key⟩
    · simp at stored
    -- The first request with this fingerprint is of the same kind and about the same payment.
    have payload : e.fingerprintPayload = r.fingerprintPayload := injective key
    have sameKind : e.caseType = r.caseType := CaseType.name_injective (congrArg FingerprintPayload.caseType payload)
    have reportedFirst := (FirstByKey.firsts_sublist _ _ _).subset fresh
    rw [found] at reportedFirst
    obtain ⟨first, memberFirst, reportedFirst⟩ := surveyed_in_payment_loop reportedFirst (sameKind ▸ inLoop)
    have source : e.sourceKey = r.sourceKey := congrArg FingerprintPayload.source payload
    simp only [CaseRequest.sourceKey, carried memberFirst reportedFirst, carried member reported] at source
    have recorded : e.content ∈ report.cases.cases.map Case.toCaseContent := by
      rw [contents]
      exact List.mem_map_of_mem fresh
    obtain ⟨c, inside, content⟩ := List.mem_map.mp recorded
    refine ⟨c, inside, ?_, ?_⟩
    · rw [content]
      simp only [CaseRequest.content, carried memberFirst reportedFirst, Option.map_some, source, same]
    · rw [content]
      exact congrArg CaseType.name sameKind

end Platform

section Examples
open PlainText

def refundedPayment : Payment where
  id := "p1"
  provider := "razorpay"
  providerPaymentId := "pay_1"
  merchantId := some "m1"
  amount := ⟨10000, -2⟩
  status := "captured"
  createdAt := ⟨0, none⟩

def namelessRefund : Refund where
  id := "r1"
  provider := "razorpay"
  merchantId := some "m1"
  providerRefundId := ""
  providerPaymentId := "pay_1"
  amount := ⟨1000, -2⟩
  status := "processed"
  createdAt := ⟨0, none⟩

def refundNamedMissing : Refund := { namelessRefund with id := "r2", providerRefundId := "missing" }

/-- A payment with two refunds, one without a refund id and one whose id is `missing`. -/
def twoRefunds : Store where
  payments := [refundedPayment]
  refunds := [namelessRefund, refundNamedMissing]

theorem twoRefunds_owned : OwnedBy "m1" twoRefunds :=
  ⟨by decide, by decide, by decide⟩

theorem twoRefunds_ran : ∃ report, runReconciliation .insertion {} draws twoRefunds (some "m1") .empty = .ok report ∧
    (report.cases.cases.any fun c => c.paymentId == some refundedPayment.id && c.caseType == CaseType.duplicateRefund.name) =
      true :=
  Outcome.exists_ok_of_map (by decide +kernel)

end Examples
end RCAA
