import RCAA.Reconciliation.Sites

/-! When two records that one run reports under one kind end up as two cases. A case is
identified by the payment instead of the record wherever there is a payment, so what
tells two records of a payment apart is their amounts and the record matched. -/

namespace RCAA

/-! ## Tables -/

inductive TableName where
  | payments | refunds | settlements | bankTransactions
deriving DecidableEq

def Record.table : Record → TableName
  | .payment _ => .payments
  | .refund _ => .refunds
  | .settlement _ => .settlements
  | .bank _ => .bankTransactions

/-- The table of the record a case is reported for; only the status check reports both of two. -/
def CaseRequest.table (r : CaseRequest) : TableName :=
  match r.caseType with
  | .duplicatePayment | .missingRefund | .ambiguousMatch | .paymentWithoutSettlement => .payments
  | .statusMismatch => if r.matchedRecordId.isNone then .payments else .settlements
  | .duplicateRefund | .refundWithoutPayment | .refundWithoutSettlement => .refunds
  | .bankSettlementMismatch | .bankWithoutSettlement => .bankTransactions
  | .duplicateSettlement | .currencyMismatch | .delayedSettlement | .settlementMismatch | .settlementWithoutPayment
  | .bankAmbiguousMatch => .settlements

theorem Store.Holds.eq {store : Store} {a b : Record} (first : store.Holds a) (second : store.Holds b)
    (table : a.table = b.table) (id : a.id = b.id) : a = b := by
  cases a <;> cases b <;> simp only [Record.table, reduceCtorEq] at table
  · rw [List.inj_on_of_nodup_map store.paymentIds first second id]
  · rw [List.inj_on_of_nodup_map store.refundIds first second id]
  · rw [List.inj_on_of_nodup_map store.settlementIds first second id]
  · rw [List.inj_on_of_nodup_map store.bankIds first second id]

theorem Store.Holds.named {store : Store} {a : Record} (held : store.Holds a) : a.id ≠ "" := by
  cases a with
  | payment p => exact store.paymentNamed p held
  | refund x => exact store.refundNamed x held
  | settlement s => exact store.settlementNamed s held
  | bank b => exact store.bankNamed b held

section Platform
variable [Platform] {order : SetOrder} {settings : Settings} {store : Store} {merchantId : Option String}
  {a b : Record} {q r : CaseRequest}

theorem Site.table (site : Site order settings store merchantId a r) : a.table = r.table := by
  cases site with
  | payment _ found =>
    obtain ⟨about, _, kind⟩ := found.about
    simp only [paymentCases, List.mem_cons, List.not_mem_nil, or_false] at kind
    rcases kind with kind | kind | kind | kind | kind <;> simp [CaseRequest.table, kind, about.matchedRecordId, Record.table]
  | duplicateRefund _ _ first found =>
    have kind := (duplicateRefundGroupFindings_about first found).2.2.1
    simp only [CaseRequest.table, kind, Record.table]
  | matched _ _ _ found =>
    obtain ⟨about, _, kind⟩ := matchedFindings_about found
    simp only [matchedCases, List.mem_cons, List.not_mem_nil, or_false] at kind
    rcases kind with kind | kind | kind | kind <;> simp [CaseRequest.table, kind, about.matchedRecordId, Record.table]
  | _ => rfl

/-- One record of one table has one case of a kind. -/
theorem Site.record_eq (first : Site order settings store merchantId a q) (second : Site order settings store merchantId b r)
    (kind : q.caseType = r.caseType) (matched : q.matchedRecordId = r.matchedRecordId) (ids : q.recordId = r.recordId) :
    a = b := by
  refine first.holds.eq second.holds ?_ ?_
  · rw [first.table, second.table, CaseRequest.table, CaseRequest.table, kind, matched]
  · exact Option.some.inj (first.recordId.symm.trans (ids.trans second.recordId))

/-! ## The payment of a case -/

omit [Platform] in
theorem recordType_iff_of_caseOf (record : Record)
    (type : r.recordType = (caseOf r.payment record r.caseType r.cause r.expected r.actual r.summary).recordType) :
    r.recordType = "payment" ↔ ∃ p, r.payment = some p := by
  rw [type]
  cases r.payment <;> cases record <;> simp [caseOf]

theorem Site.recordType_iff (site : Site order settings store merchantId a r) :
    r.recordType = "payment" ↔ ∃ p, r.payment = some p := by
  have paid {p : Payment} {id : String} {matched : Option String} (about : About r (some p) id matched)
      (type : r.recordType = "payment") : r.recordType = "payment" ↔ ∃ p, r.payment = some p :=
    iff_of_true type ⟨p, about.payment⟩
  cases site with
  | payment _ found => exact paid found.about.1 found.about.2.1
  | duplicateRefund _ _ first found =>
    obtain ⟨about, type, _⟩ := duplicateRefundGroupFindings_about first found
    exact paid about type
  | matched _ _ _ found =>
    obtain ⟨about, type, _⟩ := matchedFindings_about found
    exact paid about type
  | @duplicateSettlement s => exact recordType_iff_of_caseOf (.settlement s) rfl
  | @orphanSettlement s => exact recordType_iff_of_caseOf (.settlement s) rfl
  | @orphanRefund x => exact recordType_iff_of_caseOf (.refund x) rfl
  | @unsettledRefund x => exact recordType_iff_of_caseOf (.refund x) rfl
  | @bankAmbiguous s => exact recordType_iff_of_caseOf (.settlement s) rfl
  | @bankMismatch _ c => exact recordType_iff_of_caseOf (.bank c) rfl
  | @unexplainedCredit c => exact recordType_iff_of_caseOf (.bank c) rfl

/-- Two reports of one source are about one payment, unless they have none and are one record's. -/
theorem Site.same_source (first : Site order settings store merchantId a q)
    (second : Site order settings store merchantId b r) (same : q.fingerprintPayload = r.fingerprintPayload) :
    (∃ p, q.payment = some p ∧ r.payment = some p) ∨ a = b := by
  have kind : q.caseType = r.caseType := CaseType.name_injective (congrArg FingerprintPayload.caseType same)
  have types : q.recordType = r.recordType := congrArg FingerprintPayload.recordType same
  have source : q.sourceKey = r.sourceKey := congrArg FingerprintPayload.source same
  have matched : q.matchedRecordId = r.matchedRecordId := congrArg FingerprintPayload.matchedRecordId same
  have paid : (∃ p, q.payment = some p) ↔ ∃ p, r.payment = some p := by
    rw [← first.recordType_iff, ← second.recordType_iff, types]
  cases payment : q.payment with
  | none =>
    have unpaid : r.payment = none := by
      rw [Option.eq_none_iff_forall_not_mem]
      intro p this
      obtain ⟨_, other⟩ := paid.mpr ⟨p, this⟩
      rw [payment] at other
      cases other
    simp only [CaseRequest.sourceKey, payment, unpaid, first.recordId, second.recordId, if_neg first.holds.named,
      if_neg second.holds.named] at source
    exact .inr (first.record_eq second kind matched (by rw [first.recordId, second.recordId, source]))
  | some p =>
    obtain ⟨p', payment'⟩ := paid.mp ⟨p, payment⟩
    simp only [CaseRequest.sourceKey, payment, payment'] at source
    have equal := List.inj_on_of_nodup_map store.paymentIds (first.payment_stored payment) (second.payment_stored payment')
      source
    exact .inl ⟨p, rfl, equal ▸ payment'⟩

/-! ## The sites of a kind -/

theorem Site.of_duplicateRefund (site : Site order settings store merchantId a r) (kind : r.caseType = .duplicateRefund) :
    ∃ p x group, a = .refund x ∧ r.payment = some p ∧ group ∈ refundGroups store merchantId p ∧ x ∈ group.head? ∧
      1 < group.length := by
  cases site with
  | payment _ found => exact absurd found.about.2.2 (by rw [kind]; decide)
  | duplicateRefund _ listed first found =>
    obtain ⟨about, _, _, several⟩ := duplicateRefundGroupFindings_about first found
    exact ⟨_, _, _, rfl, about.payment, listed, first, several⟩
  | matched _ _ _ found => exact absurd (matchedFindings_about found).2.2 (by rw [kind]; decide)
  | _ => cases kind

theorem Site.of_unsettledRefund (site : Site order settings store merchantId a r)
    (kind : r.caseType = .refundWithoutSettlement) :
    ∃ x p, a = .refund x ∧ linkedPayment store x.paymentId x.provider x.providerPaymentId = some p ∧
      r = unsettledRefundCase p x := by
  cases site with
  | payment _ found => exact absurd found.about.2.2 (by rw [kind]; decide)
  | duplicateRefund _ _ first found =>
    cases kind.symm.trans (duplicateRefundGroupFindings_about first found).2.2.1
  | matched _ _ _ found => exact absurd (matchedFindings_about found).2.2 (by rw [kind]; decide)
  | unsettledRefund _ _ linked => exact ⟨_, _, rfl, linked, rfl⟩
  | _ => cases kind

theorem Site.of_bankAmbiguous (site : Site order settings store merchantId a r) (kind : r.caseType = .bankAmbiguousMatch) :
    ∃ s, a = .settlement s ∧ (acceptedBankRows settings store merchantId s).Nontrivial ∧
      r = bankAmbiguousCase store s (listedBankRows order settings store merchantId s) := by
  cases site with
  | payment _ found => exact absurd found.about.2.2 (by rw [kind]; decide)
  | duplicateRefund _ _ first found =>
    cases kind.symm.trans (duplicateRefundGroupFindings_about first found).2.2.1
  | matched _ _ _ found => exact absurd (matchedFindings_about found).2.2 (by rw [kind]; decide)
  | bankAmbiguous _ several => exact ⟨_, rfl, several, rfl⟩
  | _ => cases kind

theorem Site.of_bankMismatch (site : Site order settings store merchantId a r)
    (kind : r.caseType = .bankSettlementMismatch) :
    ∃ s b, a = .bank b ∧ s ∈ store.settlements ∧ acceptedBankRows settings store merchantId s = {b} ∧
      r = bankMismatchCase store s b := by
  cases site with
  | payment _ found => exact absurd found.about.2.2 (by rw [kind]; decide)
  | duplicateRefund _ _ first found =>
    cases kind.symm.trans (duplicateRefundGroupFindings_about first found).2.2.1
  | matched _ _ _ found => exact absurd (matchedFindings_about found).2.2 (by rw [kind]; decide)
  | bankMismatch read alone => exact ⟨_, _, rfl, ((mem_bankLegSettlements _).mp read).1, alone, rfl⟩
  | _ => cases kind

/-! ## Equal payloads -/

/-- A payment has at most one group of repeated refunds: refund references are unique,
so only an empty one and one that reads `missing` are taken for the same. -/
theorem repeated_refunds_unique {p : Payment} {group : List Refund} (listed : group ∈ refundGroups store merchantId p)
    (several : 1 < group.length) :
    group = (paymentRefunds (runIndexes store merchantId) p).filter fun x =>
      stableRecordKey x.provider x.providerRefundId = stableRecordKey p.provider "missing" := by
  obtain ⟨y, inside, same⟩ := (MultiMap.mem_values_collect _ _ group).mp listed
  have provider {x : Refund} (member : x ∈ paymentRefunds (runIndexes store merchantId) p) :
      x ∈ store.refunds ∧ x.provider = p.provider := by
    rw [runIndexes, paymentRefunds_eq, List.mem_filter, mem_selectRefunds, decide_eq_true_eq] at member
    exact ⟨member.1.1, congrArg Prod.fst member.2⟩
  have ids : ((paymentRefunds (runIndexes store merchantId) p).map Refund.id).Nodup := by
    rw [runIndexes, paymentRefunds_eq]
    exact (selectRefunds_ids store _).sublist (List.filter_sublist.map _)
  have repeated : stableRecordKey y.provider y.providerRefundId = stableRecordKey p.provider "missing" := by
    rw [same] at several
    obtain ⟨x, other, different⟩ := (KeyedRows.one_lt_length_iff Refund.id (ids.sublist (List.filter_sublist.map _))
      (List.mem_filter.mpr ⟨inside, by simp⟩)).mp several
    obtain ⟨member, key⟩ := List.mem_filter.mp other
    obtain ⟨storedX, providerX⟩ := provider member
    obtain ⟨storedY, providerY⟩ := provider inside
    rw [decide_eq_true_eq, providerX, providerY, stableRecordKey_eq_iff] at key
    have apart : x.providerRefundId ≠ y.providerRefundId := fun equal => different
      (congrArg Refund.id (List.inj_on_of_nodup_map store.refundProviderIds storedX storedY
        (Prod.ext (providerX.trans providerY.symm) equal)))
    rw [providerY, stableRecordKey_eq_iff]
    grind
  rw [same, repeated]

/-- Two records of one kind of case whose reports have one fingerprint: refunds of one
payment and one amount that no settlement covers, or payouts whose ambiguity looks alike. -/
def Swallowed (order : SetOrder) (settings : Settings) (store : Store) (merchantId : Option String) (kind : CaseType) :
    Record → Record → Prop
  | .refund x, .refund y => kind = .refundWithoutSettlement ∧ x.amount = y.amount ∧
      ∃ p, linkedPayment store x.paymentId x.provider x.providerPaymentId = some p ∧
        linkedPayment store y.paymentId y.provider y.providerPaymentId = some p
  | .settlement s, .settlement t => kind = .bankAmbiguousMatch ∧ SharesBankCase order order settings store merchantId s t
  | _, _ => False

omit [Platform] in
theorem unsettledPayload_eq_iff {x y : Refund} {p p' : Payment}
    (linked : linkedPayment store x.paymentId x.provider x.providerPaymentId = some p)
    (linked' : linkedPayment store y.paymentId y.provider y.providerPaymentId = some p') :
    (unsettledRefundCase p x).fingerprintPayload = (unsettledRefundCase p' y).fingerprintPayload ↔
      x.amount = y.amount ∧ p = p' := by
  have same : p.id = p'.id ↔ p = p' :=
    ⟨fun equal => List.inj_on_of_nodup_map store.paymentIds (linkedPayment_mem linked) (linkedPayment_mem linked') equal,
      congrArg Payment.id⟩
  simp only [CaseRequest.fingerprintPayload, CaseRequest.sourceKey, unsettledRefundCase, caseOf,
    FingerprintPayload.mk.injEq, Decimal.str_injective.eq_iff, same, true_and, and_true]
  exact and_comm

theorem Site.swallowed (first : Site order settings store merchantId a q)
    (second : Site order settings store merchantId b r) (kind : q.caseType = r.caseType) (differ : a ≠ b)
    (same : q.fingerprintPayload = r.fingerprintPayload) : Swallowed order settings store merchantId q.caseType a b := by
  obtain ⟨p, paid, paid'⟩ := (first.same_source second same).resolve_right differ
  have matched : q.matchedRecordId = r.matchedRecordId := congrArg FingerprintPayload.matchedRecordId same
  cases first with
  | payment _ found =>
    -- The other record is a payment too, and its case carries the same one.
    obtain ⟨about, _, kinds⟩ := found.about
    rw [kind] at kinds
    cases second with
    | payment _ found' =>
      cases about.payment.symm.trans paid
      cases found'.about.1.payment.symm.trans paid'
      exact absurd rfl differ
    | duplicateRefund _ _ head found' =>
      exact absurd kinds (by rw [(duplicateRefundGroupFindings_about head found').2.2.1]; decide)
    | matched _ _ _ found' =>
      cases about.matchedRecordId.symm.trans (matched.trans (matchedFindings_about found').1.matchedRecordId)
    | unsettledRefund => simp [unsettledRefundCase, caseOf, paymentCases] at kinds
    | bankAmbiguous => simp [bankAmbiguousCase, caseOf, paymentCases] at kinds
    | bankMismatch => simp [bankMismatchCase, caseOf, paymentCases] at kinds
    | _ => cases paid'
  | duplicateRefund _ listed head found =>
    -- A payment has one group of repeated refunds, so both cases are about its first refund.
    obtain ⟨about, _, isRepeated, several⟩ := duplicateRefundGroupFindings_about head found
    obtain ⟨p', y, other, rfl, payment', listed', head', several'⟩ := second.of_duplicateRefund (kind.symm.trans isRepeated)
    cases about.payment.symm.trans paid
    cases payment'.symm.trans paid'
    rw [repeated_refunds_unique listed several] at head
    rw [repeated_refunds_unique listed' several'] at head'
    cases head.symm.trans head'
    exact absurd rfl differ
  | matched _ _ _ found =>
    -- The case names its settlement as the match.
    obtain ⟨about, _, kinds⟩ := matchedFindings_about found
    rw [kind] at kinds
    have named := matched.symm.trans about.matchedRecordId
    cases second with
    | payment _ found' => cases found'.about.1.matchedRecordId.symm.trans named
    | duplicateRefund _ _ head found' =>
      exact absurd kinds (by rw [(duplicateRefundGroupFindings_about head found').2.2.1]; decide)
    | @matched _ t _ _ read only calculated found' =>
      have about' := (matchedFindings_about found').1
      have ids := about'.matchedRecordId.symm.trans named
      exact absurd ((Site.matched ‹_› ‹_› ‹_› found).record_eq (.matched read only calculated found') kind matched
        (about.recordId.trans (ids.symm.trans about'.recordId.symm))) differ
    | unsettledRefund => simp [unsettledRefundCase, caseOf, matchedCases] at kinds
    | bankAmbiguous => simp [bankAmbiguousCase, caseOf, matchedCases] at kinds
    | bankMismatch => simp [bankMismatchCase, caseOf, matchedCases] at kinds
    | _ => cases paid'
  | unsettledRefund _ _ linked =>
    obtain ⟨y, p', rfl, linked', rfl⟩ := second.of_unsettledRefund kind.symm
    obtain ⟨amounts, rfl⟩ := (unsettledPayload_eq_iff linked linked').mp same
    exact ⟨rfl, amounts, _, linked, linked'⟩
  | bankAmbiguous read several =>
    obtain ⟨t, rfl, several', rfl⟩ := second.of_bankAmbiguous kind.symm
    have inside := ((mem_bankLegSettlements _).mp read).1
    exact ⟨rfl, (ambiguousPayload_eq_iff order order several several' inside second.holds).mp same⟩
  | bankMismatch read alone =>
    -- The case names its settlement as the match, and the settlement accepts one bank row.
    obtain ⟨t, c, rfl, inside, alone', rfl⟩ := second.of_bankMismatch kind.symm
    have settlements := List.inj_on_of_nodup_map store.settlementIds ((mem_bankLegSettlements _).mp read).1 inside
      (Option.some.inj matched)
    rw [← settlements, alone] at alone'
    cases Set.singleton_injective alone'
    exact absurd rfl differ
  | _ => cases paid

theorem Swallowed.payload_eq (first : Site order settings store merchantId a q)
    (second : Site order settings store merchantId b r) (kind : q.caseType = r.caseType)
    (swallowed : Swallowed order settings store merchantId q.caseType a b) :
    q.fingerprintPayload = r.fingerprintPayload := by
  cases a with
  | refund x =>
    cases b with
    | refund y =>
      obtain ⟨unsettled, amounts, p, linked, linked'⟩ := swallowed
      obtain ⟨_, _, same, paid, rfl⟩ := first.of_unsettledRefund unsettled
      cases same
      obtain ⟨_, _, same, paid', rfl⟩ := second.of_unsettledRefund (kind.symm.trans unsettled)
      cases same
      cases paid.symm.trans linked
      cases paid'.symm.trans linked'
      exact (unsettledPayload_eq_iff linked linked').mpr ⟨amounts, rfl⟩
    | _ => cases swallowed
  | settlement s =>
    cases b with
    | settlement t =>
      obtain ⟨ambiguous, shares⟩ := swallowed
      have inside := first.holds
      have inside' := second.holds
      obtain ⟨_, same, several, rfl⟩ := first.of_bankAmbiguous ambiguous
      cases same
      obtain ⟨_, same, several', rfl⟩ := second.of_bankAmbiguous (kind.symm.trans ambiguous)
      cases same
      exact (ambiguousPayload_eq_iff order order several several' inside inside').mpr shares
    | _ => cases swallowed
  | _ => cases swallowed

/-! ## Two cases -/

section Run
variable [Hashing]

/-- The case that holds what was reported, from this run or an earlier one. -/
def Holds (cases : CaseStore) (r : CaseRequest) (c : CaseContent) : Prop :=
  c ∈ cases.contents ∧ c.fingerprint = r.content.fingerprint

/-- Two reports of a finished run are held by two cases exactly when their fingerprints differ. -/
theorem held_apart_iff {draws : Nat → Draw} {cases : CaseStore} {report : Report}
    (ran : runReconciliation order settings draws store merchantId cases = .ok report)
    (reported : q ∈ report.survey.findings.requests) (reported' : r ∈ report.survey.findings.requests) :
    (∃ c d, Holds report.cases q c ∧ Holds report.cases r d ∧ c ≠ d) ↔
      q.content.fingerprint ≠ r.content.fingerprint := by
  have stored {e : CaseRequest} (listed : e ∈ report.survey.findings.requests) : ∃ c, Holds report.cases e c := by
    have kept := (stored_after_iff ran e.content.fingerprint).mpr (.inr ⟨e, listed, rfl⟩)
    obtain ⟨c, member, same⟩ := List.mem_map.mp kept
    exact ⟨c.toCaseContent, List.mem_map_of_mem member, same⟩
  have distinct : (report.cases.contents.map (·.fingerprint)).Nodup := by
    simpa only [CaseStore.contents, List.map_map, Function.comp_def] using report.cases.fingerprints
  constructor
  · rintro ⟨c, d, ⟨memberC, ofC⟩, ⟨memberD, ofD⟩, apart⟩ same
    exact apart (List.inj_on_of_nodup_map distinct memberC memberD (ofC.trans (same.trans ofD.symm)))
  · intro apart
    obtain ⟨c, heldC⟩ := stored reported
    obtain ⟨d, heldD⟩ := stored reported'
    exact ⟨c, d, heldC, heldD, fun same => apart (heldC.2.symm.trans ((congrArg _ same).trans heldD.2))⟩

/-- Of two records that one run reports under one kind, each has a case of its own exactly
when the fingerprint of the one does not swallow the other. -/
theorem distinct_records_iff (lossless : Function.Injective Hashing.digest) {draws : Nat → Draw} {cases : CaseStore}
    {report : Report} (ran : runReconciliation order settings draws store merchantId cases = .ok report)
    (first : Site order settings store merchantId a q) (second : Site order settings store merchantId b r)
    (kind : q.caseType = r.caseType) (differ : a ≠ b) :
    (q ∈ report.survey.findings.requests ∧ r ∈ report.survey.findings.requests) ∧
      ((∃ c d, Holds report.cases q c ∧ Holds report.cases r d ∧ c ≠ d) ↔
        ¬Swallowed order settings store merchantId q.caseType a b) := by
  obtain ⟨reviews, reviewed, found, _⟩ := runReconciliation_ok ran
  have reported : q ∈ report.survey.findings.requests := found ▸ (mem_requests_iff_site reviewed q).mpr ⟨a, first⟩
  have reported' : r ∈ report.survey.findings.requests := found ▸ (mem_requests_iff_site reviewed r).mpr ⟨b, second⟩
  refine ⟨⟨reported, reported'⟩, ?_⟩
  rw [held_apart_iff ran reported reported', ne_eq, not_iff_not]
  constructor
  · exact fun same => first.swallowed second kind differ (lossless same)
  · exact fun swallowed => congrArg Hashing.digest (swallowed.payload_eq first second kind)

end Run
end Platform

section Examples
open PlainText

def partialRefund : Refund where
  id := "r1"
  provider := "razorpay"
  merchantId := some "m1"
  providerRefundId := "rfnd_1"
  providerPaymentId := "pay_1"
  amount := ⟨2500, -2⟩
  status := "processed"
  createdAt := ⟨0, none⟩

def secondRefund : Refund := { partialRefund with id := "r2", providerRefundId := "rfnd_2" }

/-- A payment refunded twice by one amount, and not settled. -/
def refundedTwice : Store where
  payments := [clearedPayment]
  refunds := [partialRefund, secondRefund]
  paymentNamed := clearedPayment_named

theorem refundedTwice_site {x : Refund} (member : x ∈ refundedTwice.refunds) :
    Site .insertion {} refundedTwice (some "m1") (.refund x) (unsettledRefundCase clearedPayment x) := by
  have unread : selectSettlements refundedTwice (scopeOf (some "m1")) = [] := rfl
  have owner : x.merchantId = some "m1" := by
    have owners : ∀ x ∈ refundedTwice.refunds, x.merchantId = some "m1" := by decide
    exact owners x member
  refine .unsettledRefund ((mem_selectRefunds _ _ _).mpr ⟨member, ?_⟩) (fun p _ _ s alone => ?_) ?_ ?_
  · exact ownedOrLinked_some_iff.mpr (.inl owner)
  · have none := (decidingTier_eq_singleton_iff {} refundedTwice (some "m1") p s).mpr alone
    have listed := (mem_decidingTier (s := s) (none ▸ List.mem_cons_self)).1
    rw [unread] at listed
    cases listed
  · have linked : ∀ x ∈ refundedTwice.refunds,
        linkedPayment refundedTwice x.paymentId x.provider x.providerPaymentId = some clearedPayment := by decide
    exact linked x member
  · rfl

theorem refundedTwice_ran :
    ∃ report, runReconciliation .insertion {} draws refundedTwice (some "m1") .empty = .ok report :=
  Outcome.exists_ok (by decide +kernel)

theorem distinct_records_iff_refundedTwice :
    ∃ report, runReconciliation .insertion {} draws refundedTwice (some "m1") .empty = .ok report ∧
      (unsettledRefundCase clearedPayment partialRefund ∈ report.survey.findings.requests ∧
        unsettledRefundCase clearedPayment secondRefund ∈ report.survey.findings.requests) ∧
      ((∃ c d, Holds report.cases (unsettledRefundCase clearedPayment partialRefund) c ∧
          Holds report.cases (unsettledRefundCase clearedPayment secondRefund) d ∧ c ≠ d) ↔
        ¬Swallowed .insertion {} refundedTwice (some "m1") .refundWithoutSettlement (.refund partialRefund)
          (.refund secondRefund)) := by
  obtain ⟨report, ran⟩ := refundedTwice_ran
  exact ⟨report, ran, distinct_records_iff fieldText_injective ran (refundedTwice_site (by decide))
    (refundedTwice_site (by decide)) rfl (by decide)⟩

/-- The second refund is left without a case of its own. -/
theorem equal_refunds_share_a_case :
    ¬∀ report, runReconciliation .insertion {} draws refundedTwice (some "m1") .empty = .ok report →
      ∀ a b q r, Site .insertion {} refundedTwice (some "m1") a q → Site .insertion {} refundedTwice (some "m1") b r →
        q.caseType = r.caseType → a ≠ b → ∃ c d, Holds report.cases q c ∧ Holds report.cases r d ∧ c ≠ d := by
  intro law
  obtain ⟨report, ran⟩ := refundedTwice_ran
  have first := refundedTwice_site (x := partialRefund) (by decide)
  have second := refundedTwice_site (x := secondRefund) (by decide)
  obtain ⟨reviews, reviewed, found, _⟩ := runReconciliation_ok ran
  have apart := (held_apart_iff ran (found ▸ (mem_requests_iff_site reviewed _).mpr ⟨_, first⟩)
    (found ▸ (mem_requests_iff_site reviewed _).mpr ⟨_, second⟩)).mp (law report ran _ _ _ _ first second rfl (by decide))
  exact apart rfl

end Examples
end RCAA
