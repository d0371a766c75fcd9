import RCAA.Reconciliation.PaymentLoop
import RCAA.Reconciliation.Sites

/-! What a run that leaves no case says about the books: the conditions it has checked of
every record it reads, and the sums that follow from them. One settlement can clear two
payments and a payout can be without a bank row, so the sums are over the payments and
over the credits, each with the settlement that explains it. -/

namespace RCAA

section Platform
variable [Platform] (settings : Settings) (store : Store) (merchantId : Option String)

/-! ## Clear books -/

/-- The one settlement accepted for a payment is final, in its currency, in time and of
the expected net amount. -/
structure Clears (p : Payment) (s : Settlement) : Prop where
  alone : acceptedSettlements settings store merchantId p = {s}
  final : lower s.status ∈ finalStatuses
  currency : settlementCurrency s = paymentCurrency p
  onTime : s.settledAt.dropZone ≤ p.createdAt.dropZone + settings.settlementWindowDays * DateTime.day
  amount : ∀ adjusted, adjustment s = .ok adjusted →
    s.netAmount.toRat = expectedNet (selectRefunds store (scopeOf merchantId)) p s adjusted

structure PaymentClear (p : Payment) : Prop where
  status : p.status ∈ reconciliableStatuses
  ownOrder : ¬RepeatsOrder (selectPayments store (scopeOf merchantId)) p
  refundsDiffer : ¬RepeatsRefund (selectRefunds store (scopeOf merchantId)) p
  refunded : (p.rawData.get "expected_refund").truthy = true →
    ∃ r ∈ selectRefunds store (scopeOf merchantId), groupKey r.provider r.providerPaymentId = groupKey p.provider p.providerPaymentId
  settled : ∃ s, Clears settings store merchantId p s

/-- The settlement is the match of a payment the run reads, or points to a stored payment. -/
def SettlementExplained (s : Settlement) : Prop :=
  (∃ p ∈ selectPayments store (scopeOf merchantId), acceptedSettlements settings store merchantId p = {s}) ∨
    linkedPayment store s.paymentId s.provider s.providerPaymentId ≠ none

/-- The refund is of a matched payment, or of a stored one that has a settlement. -/
def RefundExplained (x : Refund) : Prop :=
  (∃ p ∈ selectPayments store (scopeOf merchantId), groupKey x.provider x.providerPaymentId = groupKey p.provider p.providerPaymentId ∧
      ∃ s, acceptedSettlements settings store merchantId p = {s}) ∨
    (linkedPayment store x.paymentId x.provider x.providerPaymentId ≠ none ∧
      ∃ s ∈ selectSettlements store (scopeOf merchantId),
        groupKey s.provider s.providerPaymentId = groupKey x.provider x.providerPaymentId)

/-- The bank row pays the settlement and nothing else could have. -/
structure PaidBy (s : Settlement) (b : BankTransaction) : Prop where
  alone : acceptedBankRows settings store merchantId s = {b}
  amount : b.amount.toRat = s.netAmount.toRat
  currency : upper b.currency = settlementCurrency s

/-- Every record the run reads is in order. -/
structure Clear : Prop where
  payments : ∀ p ∈ selectPayments store (scopeOf merchantId), PaymentClear settings store merchantId p
  settlementsDiffer : ∀ s ∈ selectSettlements store (scopeOf merchantId), ∀ t ∈ selectSettlements store (scopeOf merchantId),
    settlementKey s = settlementKey t → s = t
  settlements : ∀ s ∈ selectSettlements store (scopeOf merchantId), SettlementExplained settings store merchantId s
  refunds : ∀ x ∈ selectRefunds store (scopeOf merchantId), RefundExplained settings store merchantId x
  payouts : ∀ s ∈ bankLegSettlements store merchantId,
    acceptedBankRows settings store merchantId s = ∅ ∨ ∃ b, PaidBy settings store merchantId s b
  credits : ∀ b ∈ selectBank store (scopeOf merchantId), 0 < b.amount.toRat →
    ∃ s ∈ bankLegSettlements store merchantId, acceptedBankRows settings store merchantId s = {b}

variable {settings store merchantId}

/-! ## A run that reports nothing -/

omit [Platform] in
theorem duplicateSettlementFindings_eq_nil_iff (group : List Settlement) :
    (duplicateSettlementFindings group).requests = [] ↔ ¬1 < group.length := by
  rcases group with _ | ⟨s, _ | ⟨t, rest⟩⟩ <;> simp [duplicateSettlementFindings]

theorem no_duplicate_group_iff :
    (∀ group ∈ settlementGroups (selectSettlements store (scopeOf merchantId)), (duplicateSettlementFindings group).requests = []) ↔
      ∀ s ∈ selectSettlements store (scopeOf merchantId), ∀ t ∈ selectSettlements store (scopeOf merchantId),
        settlementKey s = settlementKey t → s = t := by
  have distinct := selectSettlements_ids store (scopeOf merchantId)
  have copied (s : Settlement) (read : s ∈ selectSettlements store (scopeOf merchantId)) :
      1 < ((selectSettlements store (scopeOf merchantId)).filter fun t => settlementKey t = settlementKey s).length ↔
        ∃ t ∈ selectSettlements store (scopeOf merchantId), settlementKey t = settlementKey s ∧ t.id ≠ s.id := by
    have self : s ∈ (selectSettlements store (scopeOf merchantId)).filter fun t => settlementKey t = settlementKey s :=
      List.mem_filter.mpr ⟨read, by simp⟩
    rw [KeyedRows.one_lt_length_iff Settlement.id (distinct.sublist (List.filter_sublist.map _)) self]
    simp only [List.mem_filter, decide_eq_true_eq, and_assoc]
  simp only [settlementGroups, MultiMap.mem_values_collect, duplicateSettlementFindings_eq_nil_iff]
  constructor
  · intro single s read t inside same
    by_contra differ
    refine single _ ⟨s, read, rfl⟩ ((copied s read).mpr ⟨t, inside, same.symm, fun equal => differ ?_⟩)
    exact (List.inj_on_of_nodup_map distinct inside read equal).symm
  · rintro alone group ⟨s, read, rfl⟩ several
    obtain ⟨t, inside, same, differ⟩ := (copied s read).mp several
    exact differ (congrArg Settlement.id (alone t inside s read same))

/-- A payment is reviewed in silence exactly when it is clear. -/
theorem review_silent_iff {order : SetOrder} {p : Payment} (read : p ∈ selectPayments store (scopeOf merchantId))
    {review : PaymentReview}
    (done : reviewOf settings.rules (runIndexes store merchantId) p (runDecision order settings store merchantId p)
      (runTier settings store merchantId p) = .ok review) :
    review.findings.requests = [] ↔ PaymentClear settings store merchantId p := by
  have raised := mem_kinds_reviewOf (selectPayments_ids store _) (selectRefunds_ids store _) (selectSettlements_ids store _)
    read done
  have silent : review.findings.requests = [] ↔ ∀ kind, kind ∉ review.findings.kinds := by
    rw [Findings.kinds, ← List.eq_nil_iff_forall_not_mem, List.map_eq_nil_iff]
  simp only [silent, raised]
  constructor
  · intro nothing
    have found : ∃ s, acceptedSettlements settings store merchantId p = {s} := by
      rcases Set.eq_empty_or_nonempty (acceptedSettlements settings store merchantId p) with none | some
      · exact absurd none (nothing .paymentWithoutSettlement)
      · exact Set.exists_eq_singleton_iff_nonempty_subsingleton.mpr
          ⟨some, Set.not_nontrivial_iff.mp (nothing .ambiguousMatch)⟩
    obtain ⟨s, alone⟩ := found
    have status := not_or.mp (nothing .statusMismatch)
    refine ⟨not_not.mp status.1, nothing .duplicatePayment, nothing .duplicateRefund, fun expected => ?_, s, alone, ?_, ?_, ?_, ?_⟩
    · by_contra missing
      push Not at missing
      exact nothing .missingRefund ⟨expected, missing⟩
    · by_contra open_
      exact status.2 ⟨s, alone, open_⟩
    · by_contra other
      exact nothing .currencyMismatch ⟨s, alone, other⟩
    · by_contra late
      exact nothing .delayedSettlement ⟨s, alone, not_le.mp late⟩
    · intro adjusted parsed
      by_contra differs
      exact nothing .settlementMismatch ⟨s, adjusted, alone, parsed, differs⟩
  · rintro ⟨status, ownOrder, refundsDiffer, refunded, s, clears⟩ kind
    have only (t : Settlement) (alone : acceptedSettlements settings store merchantId p = {t}) : t = s :=
      Set.singleton_injective (alone.symm.trans clears.alone)
    cases kind <;> simp only [Raised, not_false_iff]
    case duplicatePayment => exact ownOrder
    case duplicateRefund => exact refundsDiffer
    case statusMismatch =>
      rintro (outside | ⟨t, alone, open_⟩)
      · exact outside status
      · exact open_ (only t alone ▸ clears.final)
    case missingRefund =>
      rintro ⟨expected, missing⟩
      obtain ⟨r, read, same⟩ := refunded expected
      exact missing r read same
    case ambiguousMatch =>
      intro several
      have single : (acceptedSettlements settings store merchantId p).Nontrivial := several
      rw [clears.alone] at single
      exact Set.not_nontrivial_singleton single
    case paymentWithoutSettlement =>
      intro none
      have empty : acceptedSettlements settings store merchantId p = ∅ := none
      rw [clears.alone] at empty
      exact Set.singleton_ne_empty s empty
    case currencyMismatch =>
      rintro ⟨t, alone, differs⟩
      exact differs (only t alone ▸ clears.currency)
    case delayedSettlement =>
      rintro ⟨t, alone, late⟩
      exact absurd (only t alone ▸ clears.onTime) (not_le.mpr late)
    case settlementMismatch =>
      rintro ⟨t, adjusted, alone, parsed, differs⟩
      obtain rfl := only t alone
      exact differs (clears.amount adjusted parsed)

theorem settlement_silent_iff {order : SetOrder} {reviews : List PaymentReview}
    (reviewed : reviewPayments order settings store (scopeOf merchantId) = .ok reviews) {s : Settlement}
    (read : s ∈ selectSettlements store (scopeOf merchantId)) :
    (∀ r, r ∉ (orphanSettlementFindings store (matchedSettlementIds reviews) s).requests) ↔
      SettlementExplained settings store merchantId s := by
  simp only [orphanSettlementFindings_cases, mem_matchedSettlementIds reviewed read, SettlementExplained, not_and]
  constructor
  · intro silent
    by_contra unexplained
    obtain ⟨unmatched, unlinked⟩ := not_or.mp unexplained
    exact silent _ unmatched (not_not.mp unlinked) rfl
  · rintro (matched | linked) r unmatched unlinked
    · exact absurd matched unmatched
    · exact absurd unlinked linked

theorem refund_silent_iff {order : SetOrder} {reviews : List PaymentReview}
    (reviewed : reviewPayments order settings store (scopeOf merchantId) = .ok reviews) {x : Refund}
    (read : x ∈ selectRefunds store (scopeOf merchantId)) :
    (∀ r, r ∉ (orphanRefundFindings store (runIndexes store merchantId) (matchedRefundIds reviews) x).requests) ↔
      RefundExplained settings store merchantId x := by
  have settled : (runIndexes store merchantId).settlementsByPayment.get (groupKey x.provider x.providerPaymentId) = [] ↔
      ¬∃ s ∈ selectSettlements store (scopeOf merchantId),
        groupKey s.provider s.providerPaymentId = groupKey x.provider x.providerPaymentId := by
    rw [List.eq_nil_iff_forall_not_mem]
    simp only [runIndexes, buildPaymentIndexes, MultiMap.mem_get_collect, List.mem_singleton, not_exists, not_and]
    exact forall₂_congr fun _ _ => not_congr eq_comm
  simp only [orphanRefundFindings_cases, mem_matchedRefundIds reviewed read, settled, RefundExplained]
  constructor
  · intro silent
    by_contra unexplained
    obtain ⟨unmatched, unsettled⟩ := not_or.mp unexplained
    cases linked : linkedPayment store x.paymentId x.provider x.providerPaymentId with
    | none => exact silent _ ⟨unmatched, .inl ⟨linked, rfl⟩⟩
    | some p =>
      refine silent _ ⟨unmatched, .inr ⟨p, linked, fun found => unsettled ⟨?_, found⟩, rfl⟩⟩
      rw [linked]
      exact Option.some_ne_none p
  · rintro (matched | ⟨linked, found⟩) r ⟨unmatched, unlinked | ⟨p, _, unsettled, _⟩⟩
    · exact unmatched matched
    · exact unmatched matched
    · exact linked unlinked.1
    · exact unsettled found

theorem payout_silent_iff (order : SetOrder) (s : Settlement) :
    (∀ r, r ∉ reportedInBankLeg order settings store merchantId s) ↔
      acceptedBankRows settings store merchantId s = ∅ ∨ ∃ b, PaidBy settings store merchantId s b := by
  simp only [mem_reportedInBankLeg_iff]
  constructor
  · intro silent
    rcases Set.eq_empty_or_nonempty (acceptedBankRows settings store merchantId s) with none | ⟨b, accepted⟩
    · exact .inl none
    · have single : (acceptedBankRows settings store merchantId s).Subsingleton :=
        Set.not_nontrivial_iff.mp fun several => silent _ (.ambiguous several)
      have alone : acceptedBankRows settings store merchantId s = {b} := single.eq_singleton_of_mem accepted
      have pays := not_not.mp fun differs => silent _ (.mismatch alone differs)
      exact .inr ⟨b, alone, pays.1, pays.2⟩
  · rintro explained r (⟨alone, differs⟩ | several)
    · rcases explained with none | ⟨c, only, amount, currency⟩
      · exact Set.singleton_ne_empty _ (alone.symm.trans none)
      · obtain rfl := Set.singleton_injective (alone.symm.trans only)
        exact differs ⟨amount, currency⟩
    · rcases explained with none | ⟨c, only, _, _⟩
      · exact several.nonempty.ne_empty none
      · rw [only] at several
        exact Set.not_nontrivial_singleton several

theorem credit_silent_iff (order : SetOrder) {b : BankTransaction} (read : b ∈ selectBank store (scopeOf merchantId)) :
    (∀ r, r ∉ (unexplainedCreditFindings (takenBankIds (reviewBankLeg order settings store (scopeOf merchantId))) b).requests) ↔
      (0 < b.amount.toRat → ∃ s ∈ bankLegSettlements store merchantId, acceptedBankRows settings store merchantId s = {b}) := by
  simp only [unexplainedCreditFindings_cases, mem_takenBankIds_iff read, not_and, not_le]
  constructor
  · intro silent credit
    by_contra untaken
    exact silent _ ⟨untaken, credit⟩ rfl
  · rintro taken r ⟨untaken, credit⟩ _
    exact untaken (taken credit)

/-- A run reports nothing exactly when every record it reads is in order. -/
theorem silent_iff_clear {order : SetOrder} {reviews : List PaymentReview}
    (reviewed : reviewPayments order settings store (scopeOf merchantId) = .ok reviews) :
    (surveyOf order settings store (scopeOf merchantId) reviews).findings.requests = [] ↔ Clear settings store merchantId := by
  have every := reviewPayments_forall₂ reviewed
  have payments : (∀ review ∈ reviews, ∀ r, r ∉ review.findings.requests) ↔
      ∀ p ∈ selectPayments store (scopeOf merchantId), PaymentClear settings store merchantId p := by
    simp only [← List.eq_nil_iff_forall_not_mem]
    constructor
    · intro silent p read
      obtain ⟨review, member, done⟩ := Outcome.forall₂_left every read
      exact (review_silent_iff read done).mp (silent review member)
    · intro clear review member
      obtain ⟨p, read, done⟩ := Outcome.forall₂_right every member
      exact (review_silent_iff read done).mpr (clear p read)
  have payouts : (∀ review ∈ reviewBankLeg order settings store (scopeOf merchantId), ∀ r, r ∉ review.findings.requests) ↔
      ∀ s ∈ bankLegSettlements store merchantId, ∀ r, r ∉ reportedInBankLeg order settings store merchantId s := by
    simp only [reviewBankLeg, List.forall_mem_map]
    rfl
  simp only [List.eq_nil_iff_forall_not_mem, mem_surveyOf_requests, not_or, not_exists, not_and, forall_and]
  constructor
  · rintro ⟨duplicates, reviews, settlements, refunds, bank, credits⟩
    refine ⟨payments.mp fun review member r => reviews r review member, no_duplicate_group_iff.mp fun group listed =>
      List.eq_nil_iff_forall_not_mem.mpr fun r => duplicates r group listed, ?_, ?_, ?_, ?_⟩
    · exact fun s read => (settlement_silent_iff reviewed read).mp fun r => settlements r s read
    · exact fun x read => (refund_silent_iff reviewed read).mp fun r => refunds r x read
    · exact fun s read => (payout_silent_iff order s).mp (payouts.mp (fun review member r => bank r review member) s read)
    · exact fun b read => (credit_silent_iff order read).mp fun r => credits r b read
  · rintro ⟨clear, differ, settlements, refunds, paid, credits⟩
    refine ⟨fun r group listed => ?_, fun r review member => payments.mpr clear review member r, ?_, ?_, ?_, ?_⟩
    · exact List.eq_nil_iff_forall_not_mem.mp (no_duplicate_group_iff.mpr differ group listed) r
    · exact fun r s read => (settlement_silent_iff reviewed read).mpr (settlements s read) r
    · exact fun r x read => (refund_silent_iff reviewed read).mpr (refunds x read) r
    · exact fun r review member => payouts.mpr (fun s read => (payout_silent_iff order s).mpr (paid s read)) review member r
    · exact fun r b read => (credit_silent_iff order read).mpr (credits b read) r

/-! ## The sums -/

/-- What a settlement's fee and tax keep back of the gross, less its adjustment. -/
def withheld (s : Settlement) : ℚ :=
  s.fee.toRat + s.tax.toRat - match adjustment s with
    | .ok adjusted => adjusted.toRat
    | .error _ => 0

/-- The credits among the bank rows of the run. -/
def bankCredits (store : Store) (merchantId : Option String) : List BankTransaction :=
  (selectBank store (scopeOf merchantId)).filter fun b => 0 < b.amount.toRat

/-- The settlement that clears a payment accounts for its whole amount. -/
theorem Clears.gross {p : Payment} {s : Settlement} (clears : Clears settings store merchantId p s)
    (readable : ∃ adjusted, adjustment s = .ok adjusted) :
    p.amount.toRat = deductedRefunds (selectRefunds store (scopeOf merchantId)) p + withheld s + s.netAmount.toRat := by
  obtain ⟨adjusted, parsed⟩ := readable
  have net := clears.amount adjusted parsed
  simp only [expectedNet] at net
  simp only [withheld, parsed]
  linarith

theorem Clears.read {p : Payment} {s : Settlement} (clears : Clears settings store merchantId p s) :
    s ∈ selectSettlements store (scopeOf merchantId) := by
  have tier := (decidingTier_eq_singleton_iff settings store merchantId p s).mpr clears.alone
  exact (mem_decidingTier (tier ▸ List.mem_singleton_self s)).1

/-- In clear books every credit is paid to a settlement that nothing else could have paid. -/
theorem Clear.credit_paid (clear : Clear settings store merchantId) {b : BankTransaction} (listed : b ∈ bankCredits store merchantId) :
    ∃ s, s ∈ bankLegSettlements store merchantId ∧ PaidBy settings store merchantId s b := by
  obtain ⟨read, positive⟩ := List.mem_filter.mp listed
  obtain ⟨s, inside, alone⟩ := clear.credits b read (of_decide_eq_true positive)
  refine ⟨s, inside, ?_⟩
  rcases clear.payouts s inside with none | ⟨c, paid⟩
  · exact absurd (alone.symm.trans none) (Set.singleton_ne_empty b)
  · rwa [Set.singleton_injective (alone.symm.trans paid.alone)]

omit [Platform] in
theorem sum_gross {payments : List Payment} {refunded kept net : Payment → ℚ}
    (each : ∀ p ∈ payments, p.amount.toRat = refunded p + kept p + net p) :
    (payments.map fun p => p.amount.toRat).sum =
      (payments.map refunded).sum + (payments.map kept).sum + (payments.map net).sum := by
  rw [List.map_congr_left each, List.sum_map_add, List.sum_map_add]

variable [Hashing]

theorem report_quiet_iff {order : SetOrder} {draws : Nat → Draw} {cases : CaseStore} {report : Report}
    (ran : runReconciliation order settings draws store merchantId cases = .ok report) :
    report.cases.cases = [] ↔ cases.cases = [] ∧ report.survey.findings.requests = [] := by
  have contents := (report_cases ran).1
  have nothing (found : CaseStore) : found.cases = [] ↔ found.contents = [] := List.map_eq_nil_iff.symm
  rw [nothing, contents, List.append_eq_nil_iff, List.map_eq_nil_iff, ← nothing]
  refine and_congr_right fun empty => ?_
  rw [empty, List.map_nil, Registry.fresh, FirstByKey.firsts_eq_nil_iff]
  simp only [List.not_mem_nil, imp_false, ← List.eq_nil_iff_forall_not_mem]

end Platform

section Examples
open PlainText

def balancedPayment : Payment where
  id := "p1"
  provider := "razorpay"
  providerPaymentId := "pay_1"
  amount := ⟨10000, -2⟩
  status := "captured"
  createdAt := ⟨0, none⟩

def balancedSettlement : Settlement where
  id := "s1"
  provider := "razorpay"
  providerSettlementId := "setl_1"
  providerPaymentId := "pay_1"
  grossAmount := ⟨10000, -2⟩
  fee := ⟨200, -2⟩
  tax := ⟨36, -2⟩
  netAmount := ⟨9764, -2⟩
  status := "settled"
  settledAt := ⟨0, none⟩
  utr := some "utr_1"

def balancedCredit : BankTransaction where
  id := "b1"
  externalId := "bank_1"
  amount := ⟨9764, -2⟩
  eventTimestamp := ⟨0, none⟩
  metadataJson := .object [("utr", .str "UTR_1")]

/-- A payment, its settlement and the credit that pays it out. -/
def balancedBooks : Store where
  payments := [balancedPayment]
  settlements := [balancedSettlement]
  bankTransactions := [balancedCredit]

theorem balancedBooks_ran : ∃ report, runReconciliation .insertion {} draws balancedBooks none .empty = .ok report ∧
    report.cases.cases = [] :=
  Outcome.exists_ok_of_map (by decide +kernel)

end Examples
end RCAA
