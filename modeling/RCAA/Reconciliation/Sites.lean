import RCAA.Reconciliation.Idempotence
import RCAA.Reconciliation.Ownership

/-! The creation sites of a run: for every case it reports, the record it passes to
`_case` and the rows the report rests on. Results about single cases go by these
sites instead of the loops. -/

namespace RCAA

section Platform
variable [Platform] (order : SetOrder) (settings : Settings) (store : Store) (merchantId : Option String)

/-! ## What the loops read -/

def runIndexes : PaymentIndexes :=
  buildPaymentIndexes (selectPayments store (scopeOf merchantId)) (selectRefunds store (scopeOf merchantId))
    (selectSettlements store (scopeOf merchantId))

def runTier (p : Payment) : List Settlement := decidingTier settings.rules p (selectSettlements store (scopeOf merchantId))

def runDecision (p : Payment) : MatchDecision :=
  matchPaymentToSettlement order p settings.rules
    (buildSettlementIndexes order (selectSettlements store (scopeOf merchantId)))

/-- The refunds of a payment by provider refund reference. -/
def refundGroups (p : Payment) : List (List Refund) :=
  (MultiMap.collect (fun r => [stableRecordKey r.provider r.providerRefundId])
    (paymentRefunds (runIndexes store merchantId) p)).values

/-- The findings whose record is the payment itself: three made before it is matched,
and one for each way it stays unmatched. -/
def PaymentFinding (p : Payment) (r : CaseRequest) : Prop :=
  (r ∈ (duplicatePaymentFindings (runIndexes store merchantId) p).requests ∨ r ∈ (paymentStatusFindings p).requests ∨
    r ∈ (missingRefundFindings (runIndexes store merchantId) p).requests) ∨
  (runTier settings store merchantId p = [] ∧
    r ∈ (unsettledFindings p (runDecision order settings store merchantId p)).requests) ∨
  (1 < (runTier settings store merchantId p).length ∧
    r ∈ (ambiguousMatchFindings p (runDecision order settings store merchantId p)).requests)

/-! ## The sites -/

inductive Site : Record → CaseRequest → Prop
  | duplicateSettlement {s : Settlement} {group : List Settlement}
      (listed : group ∈ settlementGroups (selectSettlements store (scopeOf merchantId))) (several : 1 < group.length)
      (first : s ∈ group.head?) : Site (.settlement s) (duplicateSettlementCase s group)
  | payment {p : Payment} {r : CaseRequest} (read : p ∈ selectPayments store (scopeOf merchantId))
      (found : PaymentFinding order settings store merchantId p r) : Site (.payment p) r
  | duplicateRefund {p : Payment} {x : Refund} {group : List Refund} {r : CaseRequest}
      (read : p ∈ selectPayments store (scopeOf merchantId)) (listed : group ∈ refundGroups store merchantId p)
      (first : x ∈ group.head?) (found : r ∈ (duplicateRefundGroupFindings p group).requests) : Site (.refund x) r
  | matched {p : Payment} {s : Settlement} {e : Expectation} {r : CaseRequest}
      (read : p ∈ selectPayments store (scopeOf merchantId)) (only : runTier settings store merchantId p = [s])
      (calculated : calculateExpectedSettlement p (paymentRefunds (runIndexes store merchantId) p) [s] = .ok e)
      (found : r ∈ (matchedFindings settings.rules p s (runDecision order settings store merchantId p) e).requests) :
      Site (.settlement s) r
  | orphanSettlement {s : Settlement} (read : s ∈ selectSettlements store (scopeOf merchantId))
      (unmatched : ∀ p ∈ selectPayments store (scopeOf merchantId), acceptedSettlements settings store merchantId p ≠ {s})
      (unlinked : linkedPayment store s.paymentId s.provider s.providerPaymentId = none) :
      Site (.settlement s) (orphanSettlementCase s)
  | orphanRefund {x : Refund} (read : x ∈ selectRefunds store (scopeOf merchantId))
      (unmatched : ∀ p ∈ selectPayments store (scopeOf merchantId),
        groupKey x.provider x.providerPaymentId = groupKey p.provider p.providerPaymentId →
          ∀ s, acceptedSettlements settings store merchantId p ≠ {s})
      (unlinked : linkedPayment store x.paymentId x.provider x.providerPaymentId = none) :
      Site (.refund x) (orphanRefundCase x)
  | unsettledRefund {x : Refund} {p : Payment} (read : x ∈ selectRefunds store (scopeOf merchantId))
      (unmatched : ∀ p ∈ selectPayments store (scopeOf merchantId),
        groupKey x.provider x.providerPaymentId = groupKey p.provider p.providerPaymentId →
          ∀ s, acceptedSettlements settings store merchantId p ≠ {s})
      (linked : linkedPayment store x.paymentId x.provider x.providerPaymentId = some p)
      (unsettled : (runIndexes store merchantId).settlementsByPayment.get (groupKey x.provider x.providerPaymentId) = []) :
      Site (.refund x) (unsettledRefundCase p x)
  | bankAmbiguous {s : Settlement} (read : s ∈ bankLegSettlements store merchantId)
      (several : (acceptedBankRows settings store merchantId s).Nontrivial) :
      Site (.settlement s) (bankAmbiguousCase store s (listedBankRows order settings store merchantId s))
  | bankMismatch {s : Settlement} {b : BankTransaction} (read : s ∈ bankLegSettlements store merchantId)
      (alone : acceptedBankRows settings store merchantId s = {b})
      (differs : ¬(b.amount.toRat = s.netAmount.toRat ∧ upper b.currency = settlementCurrency s)) :
      Site (.bank b) (bankMismatchCase store s b)
  | unexplainedCredit {b : BankTransaction} (read : b ∈ selectBank store (scopeOf merchantId))
      (untaken : ∀ s ∈ bankLegSettlements store merchantId, acceptedBankRows settings store merchantId s ≠ {b})
      (credit : 0 < b.amount.toRat) : Site (.bank b) (unexplainedCreditCase b)

/-! ## Every report has its site -/

variable {order settings store merchantId}

theorem mem_unmatchedFindings_iff {p : Payment} {r : CaseRequest} :
    r ∈ (unmatchedFindings (runIndexes store merchantId) p).requests ↔
      (r ∈ (duplicatePaymentFindings (runIndexes store merchantId) p).requests ∨ r ∈ (paymentStatusFindings p).requests ∨
        r ∈ (missingRefundFindings (runIndexes store merchantId) p).requests) ∨
      ∃ group ∈ refundGroups store merchantId p, r ∈ (duplicateRefundGroupFindings p group).requests := by
  have groups : r ∈ (duplicateRefundFindings (runIndexes store merchantId) p).requests ↔
      ∃ group ∈ refundGroups store merchantId p, r ∈ (duplicateRefundGroupFindings p group).requests := by
    simp only [duplicateRefundFindings, Findings.requests_flatten, List.mem_flatMap, List.mem_map,
      exists_exists_and_eq_and, refundGroups]
  simp only [unmatchedFindings, Findings.requests_flatten, List.flatMap_cons, List.flatMap_nil, List.append_nil,
    List.mem_append, groups, or_assoc, or_left_comm, or_comm]

/-- What the review of a payment reports. -/
theorem mem_review_requests_iff {p : Payment} {review : PaymentReview}
    (done : reviewOf settings.rules (runIndexes store merchantId) p (runDecision order settings store merchantId p)
      (runTier settings store merchantId p) = .ok review) (r : CaseRequest) :
    r ∈ review.findings.requests ↔ PaymentFinding order settings store merchantId p r ∨
      (∃ group ∈ refundGroups store merchantId p, r ∈ (duplicateRefundGroupFindings p group).requests) ∨
      ∃ s e, runTier settings store merchantId p = [s] ∧
        calculateExpectedSettlement p (paymentRefunds (runIndexes store merchantId) p) [s] = .ok e ∧
        r ∈ (matchedFindings settings.rules p s (runDecision order settings store merchantId p) e).requests := by
  rw [PaymentFinding]
  rcases tier : runTier settings store merchantId p with _ | ⟨s, _ | ⟨t, rest⟩⟩ <;> rw [tier] at done
  · cases done
    simp only [Findings.requests_append, List.mem_append, mem_unmatchedFindings_iff, List.length_nil, Nat.not_lt_zero,
      reduceCtorEq, false_and, exists_false, true_and, false_or, or_assoc, or_left_comm, or_comm]
  · obtain ⟨e, calculated, rfl⟩ := Outcome.map_ok done
    simp only [matchedReview, Findings.requests_flatten, List.flatMap_cons, List.flatMap_nil, List.append_nil,
      List.mem_append, List.not_mem_nil, false_or, mem_unmatchedFindings_iff, List.length_singleton, Nat.lt_irrefl,
      reduceCtorEq, false_and, or_false, List.cons.injEq, and_true, exists_and_left, exists_eq_left', calculated,
      Except.ok.injEq, or_assoc, or_left_comm, or_comm]
  · cases done
    simp only [Findings.requests_append, List.mem_append, mem_unmatchedFindings_iff, List.length_cons, reduceCtorEq,
      List.cons.injEq, and_false, false_and, exists_false, false_or, Nat.lt_add_left_iff_pos, Nat.succ_pos,
      true_and, or_assoc, or_left_comm, or_comm]

theorem mem_selectBank_of_accepted {s : Settlement} {b : BankTransaction}
    (accepted : b ∈ acceptedBankRows settings store merchantId s) : b ∈ selectBank store (scopeOf merchantId) := by
  rw [acceptedBankRows, ← payoutTier_members] at accepted
  exact (payoutTier_sublist _ _ _).subset accepted

theorem mem_takenBankIds_iff {b : BankTransaction} (listed : b ∈ selectBank store (scopeOf merchantId)) :
    b.id ∈ takenBankIds (reviewBankLeg order settings store (scopeOf merchantId)) ↔
      ∃ s ∈ bankLegSettlements store merchantId, acceptedBankRows settings store merchantId s = {b} := by
  simp only [takenBankIds, reviewBankLeg, List.filterMap_map, List.mem_filterMap, Function.comp_apply,
    Option.map_eq_some_iff, reviewBank_taken_iff]
  constructor
  · rintro ⟨s, read, c, alone, same⟩
    have accepted : c ∈ acceptedBankRows settings store merchantId s := alone ▸ rfl
    have found := mem_selectBank_of_accepted accepted
    exact ⟨s, read, List.inj_on_of_nodup_map (selectBank_ids store _) found listed same ▸ alone⟩
  · rintro ⟨s, read, alone⟩
    exact ⟨s, read, b, alone, rfl⟩

omit [Platform] in
/-- The first record of a group is the one its case is about. -/
theorem exists_head_of_found {p : Payment} {group : List Refund} {r : CaseRequest}
    (found : r ∈ (duplicateRefundGroupFindings p group).requests) : ∃ x, x ∈ group.head? := by
  cases group with
  | nil => simp [duplicateRefundGroupFindings] at found
  | cons x rest => exact ⟨x, rfl⟩

/-- A run reports a case exactly when one of its sites calls for it. -/
theorem mem_requests_iff_site {reviews : List PaymentReview}
    (reviewed : reviewPayments order settings store (scopeOf merchantId) = .ok reviews) (r : CaseRequest) :
    r ∈ (surveyOf order settings store (scopeOf merchantId) reviews).findings.requests ↔
      ∃ record, Site order settings store merchantId record r := by
  have every := reviewPayments_forall₂ reviewed
  rw [mem_surveyOf_requests]
  constructor
  · rintro (⟨group, listed, found⟩ | ⟨review, member, found⟩ | ⟨s, read, found⟩ | ⟨x, read, found⟩ |
      ⟨review, member, found⟩ | ⟨b, read, found⟩)
    · obtain ⟨several, s, first, rfl⟩ := duplicateSettlementFindings_cases.mp found
      exact ⟨_, .duplicateSettlement listed several first⟩
    · obtain ⟨p, read, done⟩ := Outcome.forall₂_right every member
      rcases (mem_review_requests_iff done r).mp found with found | ⟨group, listed, found⟩ | ⟨s, e, only, done, found⟩
      · exact ⟨_, .payment read found⟩
      · obtain ⟨x, first⟩ := exists_head_of_found found
        exact ⟨_, .duplicateRefund read listed first found⟩
      · exact ⟨_, .matched read only done found⟩
    · obtain ⟨unmatched, unlinked, rfl⟩ := orphanSettlementFindings_cases.mp found
      rw [mem_matchedSettlementIds reviewed read] at unmatched
      exact ⟨_, .orphanSettlement read (fun p inside alone => unmatched ⟨p, inside, alone⟩) unlinked⟩
    · obtain ⟨unmatched, found⟩ := orphanRefundFindings_cases.mp found
      rw [mem_matchedRefundIds reviewed read] at unmatched
      have loose : ∀ p ∈ selectPayments store (scopeOf merchantId),
          groupKey x.provider x.providerPaymentId = groupKey p.provider p.providerPaymentId →
            ∀ s, acceptedSettlements settings store merchantId p ≠ {s} :=
        fun p inside key s alone => unmatched ⟨p, inside, key, s, alone⟩
      rcases found with ⟨unlinked, rfl⟩ | ⟨p, linked, unsettled, rfl⟩
      · exact ⟨_, .orphanRefund read loose unlinked⟩
      · exact ⟨_, .unsettledRefund read loose linked unsettled⟩
    · obtain ⟨s, read, rfl⟩ := List.mem_map.mp member
      cases (mem_reportedInBankLeg_iff r).mp found with
      | mismatch alone differs => exact ⟨_, .bankMismatch read alone differs⟩
      | ambiguous several => exact ⟨_, .bankAmbiguous read several⟩
    · obtain ⟨⟨untaken, credit⟩, rfl⟩ := unexplainedCreditFindings_cases.mp found
      rw [mem_takenBankIds_iff read] at untaken
      exact ⟨_, .unexplainedCredit read (fun s inside alone => untaken ⟨s, inside, alone⟩) (not_le.mp credit)⟩
  · rintro ⟨record, site⟩
    have reviewOf {p : Payment} (read : p ∈ selectPayments store (scopeOf merchantId))
        (found : PaymentFinding order settings store merchantId p r ∨
          (∃ group ∈ refundGroups store merchantId p, r ∈ (duplicateRefundGroupFindings p group).requests) ∨
          ∃ s e, runTier settings store merchantId p = [s] ∧
            calculateExpectedSettlement p (paymentRefunds (runIndexes store merchantId) p) [s] = .ok e ∧
            r ∈ (matchedFindings settings.rules p s (runDecision order settings store merchantId p) e).requests) :
        ∃ review ∈ reviews, r ∈ review.findings.requests := by
      obtain ⟨review, member, done⟩ := Outcome.forall₂_left every read
      exact ⟨review, member, (mem_review_requests_iff done r).mpr found⟩
    cases site with
    | duplicateSettlement listed several first =>
      exact .inl ⟨_, listed, duplicateSettlementFindings_cases.mpr ⟨several, _, first, rfl⟩⟩
    | payment read found => exact .inr (.inl (reviewOf read (.inl found)))
    | duplicateRefund read listed _ found => exact .inr (.inl (reviewOf read (.inr (.inl ⟨_, listed, found⟩))))
    | matched read only calculated found =>
      exact .inr (.inl (reviewOf read (.inr (.inr ⟨_, _, only, calculated, found⟩))))
    | orphanSettlement read unmatched unlinked =>
      refine .inr (.inr (.inl ⟨_, read, orphanSettlementFindings_cases.mpr ⟨?_, unlinked, rfl⟩⟩))
      rw [mem_matchedSettlementIds reviewed read]
      exact fun ⟨p, inside, alone⟩ => unmatched p inside alone
    | orphanRefund read unmatched unlinked =>
      refine .inr (.inr (.inr (.inl ⟨_, read, orphanRefundFindings_cases.mpr ⟨?_, .inl ⟨unlinked, rfl⟩⟩⟩)))
      rw [mem_matchedRefundIds reviewed read]
      exact fun ⟨p, inside, key, s, alone⟩ => unmatched p inside key s alone
    | unsettledRefund read unmatched linked unsettled =>
      refine .inr (.inr (.inr (.inl ⟨_, read, orphanRefundFindings_cases.mpr ⟨?_, .inr ⟨_, linked, unsettled, rfl⟩⟩⟩)))
      rw [mem_matchedRefundIds reviewed read]
      exact fun ⟨p, inside, key, s, alone⟩ => unmatched p inside key s alone
    | bankAmbiguous read several =>
      exact .inr (.inr (.inr (.inr (.inl ⟨_, List.mem_map_of_mem read, (mem_reportedInBankLeg_iff _).mpr (.ambiguous several)⟩))))
    | bankMismatch read alone differs =>
      exact .inr (.inr (.inr (.inr (.inl ⟨_, List.mem_map_of_mem read,
        (mem_reportedInBankLeg_iff _).mpr (.mismatch alone differs)⟩))))
    | unexplainedCredit read untaken credit =>
      refine .inr (.inr (.inr (.inr (.inr ⟨_, read, unexplainedCreditFindings_cases.mpr ⟨⟨?_, not_le.mpr credit⟩, rfl⟩⟩))))
      rw [mem_takenBankIds_iff read]
      exact fun ⟨s, inside, alone⟩ => untaken s inside alone

/-! ## What the report of a site carries -/

def paymentCases : List CaseType :=
  [.duplicatePayment, .statusMismatch, .missingRefund, .paymentWithoutSettlement, .ambiguousMatch]

def matchedCases : List CaseType := [.statusMismatch, .currencyMismatch, .delayedSettlement, .settlementMismatch]

/-- What a report says of the payment it is about and the record it names. -/
structure About (r : CaseRequest) (payment : Option Payment) (recordId : String) (matchedRecordId : Option String) :
    Prop where
  payment : r.payment = payment
  recordId : r.recordId = some recordId
  matchedRecordId : r.matchedRecordId = matchedRecordId

theorem PaymentFinding.about {p : Payment} {r : CaseRequest} (found : PaymentFinding order settings store merchantId p r) :
    About r (some p) p.id none ∧ r.recordType = "payment" ∧ r.caseType ∈ paymentCases := by
  rcases found with (found | found | found) | ⟨_, found⟩ | ⟨_, found⟩
  · obtain ⟨_, found⟩ := Findings.mem_requests_only.mp found
    rw [List.mem_singleton.mp found]
    exact ⟨⟨rfl, rfl, rfl⟩, rfl, by simp [caseOf, paymentCases]⟩
  · obtain ⟨_, found⟩ := Findings.mem_requests_only.mp found
    rw [List.mem_singleton.mp found]
    exact ⟨⟨rfl, rfl, rfl⟩, rfl, by simp [caseOf, paymentCases]⟩
  · obtain ⟨_, found⟩ := Findings.mem_requests_only.mp found
    rw [List.mem_singleton.mp found]
    exact ⟨⟨rfl, rfl, rfl⟩, rfl, by simp [caseOf, paymentCases]⟩
  · rw [List.mem_singleton.mp found]
    exact ⟨⟨rfl, rfl, rfl⟩, rfl, by simp [caseOf, paymentCases]⟩
  · rw [List.mem_singleton.mp found]
    exact ⟨⟨rfl, rfl, rfl⟩, rfl, by simp [caseOf, paymentCases]⟩

theorem matchedFindings_about {rules : ReconciliationRules} {p : Payment} {s : Settlement} {decision : MatchDecision}
    {e : Expectation} {r : CaseRequest} (found : r ∈ (matchedFindings rules p s decision e).requests) :
    About r (some p) s.id (some s.id) ∧ r.recordType = "payment" ∧ r.caseType ∈ matchedCases := by
  simp only [matchedFindings, Findings.requests_flatten, List.mem_flatMap, List.mem_cons, List.not_mem_nil, or_false,
    exists_eq_or_imp, exists_eq_left, settlementStatusFindings, currencyFindings, delayFindings, amountFindings,
    Findings.mem_requests_only] at found
  rcases found with ⟨_, rfl⟩ | ⟨_, rfl⟩ | ⟨_, rfl⟩ | ⟨_, rfl⟩ <;>
    exact ⟨⟨rfl, rfl, rfl⟩, rfl, by simp [matchedCase, caseOf, matchedCases]⟩

omit [Platform] in
theorem duplicateRefundGroupFindings_about {p : Payment} {x : Refund} {group : List Refund} {r : CaseRequest}
    (first : x ∈ group.head?) (found : r ∈ (duplicateRefundGroupFindings p group).requests) :
    About r (some p) x.id none ∧ r.recordType = "payment" ∧ r.caseType = .duplicateRefund ∧ 1 < group.length := by
  rcases group with _ | ⟨y, _ | ⟨z, rest⟩⟩
  · cases first
  · simp [duplicateRefundGroupFindings] at found
  · cases first
    rw [List.mem_singleton.mp found]
    exact ⟨⟨rfl, rfl, rfl⟩, rfl, rfl, by simp⟩

/-- The site passes its record to the case. -/
theorem Site.recordId {record : Record} {r : CaseRequest} (site : Site order settings store merchantId record r) :
    r.recordId = some record.id := by
  cases site with
  | payment _ found => exact found.about.1.recordId
  | duplicateRefund _ _ first found => exact (duplicateRefundGroupFindings_about first found).1.recordId
  | matched _ _ _ found => exact (matchedFindings_about found).1.recordId
  | _ => rfl

/-- The store has the record. -/
def Store.Holds (store : Store) : Record → Prop
  | .payment p => p ∈ store.payments
  | .refund x => x ∈ store.refunds
  | .settlement s => s ∈ store.settlements
  | .bank b => b ∈ store.bankTransactions

theorem mem_of_mem_refundGroups {p : Payment} {group : List Refund} {x : Refund}
    (listed : group ∈ refundGroups store merchantId p) (member : x ∈ group) :
    x ∈ selectRefunds store (scopeOf merchantId) ∧
      groupKey x.provider x.providerPaymentId = groupKey p.provider p.providerPaymentId := by
  obtain ⟨y, _, rfl⟩ := (MultiMap.mem_values_collect _ _ group).mp listed
  have inside := (List.mem_filter.mp member).1
  rw [runIndexes, paymentRefunds_eq] at inside
  simpa using inside

omit [Platform] in
theorem mem_of_mem_settlementGroups [Platform] {group : List Settlement} {s : Settlement}
    (listed : group ∈ settlementGroups (selectSettlements store (scopeOf merchantId))) (member : s ∈ group) :
    s ∈ selectSettlements store (scopeOf merchantId) := by
  obtain ⟨y, _, rfl⟩ := (MultiMap.mem_values_collect _ _ group).mp listed
  exact (List.mem_filter.mp member).1

theorem Site.holds {record : Record} {r : CaseRequest} (site : Site order settings store merchantId record r) :
    store.Holds record := by
  cases site with
  | duplicateSettlement listed _ first =>
    exact ((mem_selectSettlements store _ _).mp (mem_of_mem_settlementGroups listed (List.mem_of_mem_head? first))).1
  | payment read => exact ((mem_selectPayments store _ _).mp read).1
  | duplicateRefund _ listed first =>
    exact ((mem_selectRefunds store _ _).mp (mem_of_mem_refundGroups listed (List.mem_of_mem_head? first)).1).1
  | matched _ only =>
    exact ((mem_selectSettlements store _ _).mp (mem_decidingTier (only ▸ List.mem_cons_self)).1).1
  | orphanSettlement read => exact ((mem_selectSettlements store _ _).mp read).1
  | orphanRefund read => exact ((mem_selectRefunds store _ _).mp read).1
  | unsettledRefund read => exact ((mem_selectRefunds store _ _).mp read).1
  | bankAmbiguous read => exact ((mem_bankLegSettlements _).mp read).1
  | bankMismatch _ alone =>
    exact ((mem_selectBank store _ _).mp (mem_selectBank_of_accepted (alone ▸ Set.mem_singleton _))).1
  | unexplainedCredit read => exact ((mem_selectBank store _ _).mp read).1

/-- A payment a report carries is stored. -/
theorem Site.payment_stored {record : Record} {r : CaseRequest} (site : Site order settings store merchantId record r)
    {p : Payment} (paid : r.payment = some p) : p ∈ store.payments := by
  cases site with
  | payment read found =>
    cases found.about.1.payment.symm.trans paid
    exact ((mem_selectPayments store _ _).mp read).1
  | duplicateRefund read _ first found =>
    cases (duplicateRefundGroupFindings_about first found).1.payment.symm.trans paid
    exact ((mem_selectPayments store _ _).mp read).1
  | matched read _ _ found =>
    cases (matchedFindings_about found).1.payment.symm.trans paid
    exact ((mem_selectPayments store _ _).mp read).1
  | unsettledRefund _ _ linked =>
    cases paid
    exact linkedPayment_mem linked
  | bankAmbiguous => exact ((store.getPayment_eq_some_iff _ _).mp paid).1
  | bankMismatch => exact ((store.getPayment_eq_some_iff _ _).mp paid).1
  | _ => cases paid

end Platform
end RCAA
