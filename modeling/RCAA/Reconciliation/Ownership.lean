import RCAA.Reconciliation.BankLeg

/-! Who owns the cases of a run restricted to one merchant. A case takes the merchant of
its payment, or else the one its metadata gives; the duplicate and orphan checks give
none, and payments are looked up by key whoever owns them. -/

namespace RCAA

section Platform
variable [Platform]

/-! ## What a run leaves unmatched -/

theorem mem_reviewOf_matchedRefunds {rules : ReconciliationRules} {indexes : PaymentIndexes} {p : Payment}
    {decision : MatchDecision} {tier : List Settlement} {review : PaymentReview}
    (done : reviewOf rules indexes p decision tier = .ok review) (id : String) :
    id ∈ review.matchedRefunds ↔ (∃ s, tier = [s]) ∧ ∃ r ∈ paymentRefunds indexes p, r.id = id := by
  rcases tier with _ | ⟨s, _ | ⟨t, rest⟩⟩
  · cases done
    simp
  · obtain ⟨e, _, rfl⟩ := Outcome.map_ok done
    simp [matchedReview]
  · cases done
    simp

section Matched
variable {order : SetOrder} {settings : Settings} {store : Store} {merchantId : Option String}
  {reviews : List PaymentReview} (reviewed : reviewPayments order settings store (scopeOf merchantId) = .ok reviews)
include reviewed

theorem mem_matchedSettlementIds {s : Settlement} (listed : s ∈ selectSettlements store (scopeOf merchantId)) :
    s.id ∈ matchedSettlementIds reviews ↔
      ∃ p ∈ selectPayments store (scopeOf merchantId), acceptedSettlements settings store merchantId p = {s} := by
  have every := reviewPayments_forall₂ reviewed
  simp only [matchedSettlementIds, List.mem_filterMap, Option.map_eq_some_iff]
  constructor
  · rintro ⟨review, member, t, matched, same⟩
    obtain ⟨p, inside, this⟩ := Outcome.forall₂_right every member
    have alone := ((reviewOf_matched_iff this).2 t).mp matched
    have found : t ∈ selectSettlements store (scopeOf merchantId) := (mem_decidingTier (s := t) (by rw [alone]; simp)).1
    have equal : t = s := List.inj_on_of_nodup_map (selectSettlements_ids store _) found listed same
    exact ⟨p, inside, equal ▸ (decidingTier_eq_singleton_iff settings store merchantId p t).mp alone⟩
  · rintro ⟨p, inside, alone⟩
    obtain ⟨review, member, this⟩ := Outcome.forall₂_left every inside
    exact ⟨review, member, s, ((reviewOf_matched_iff this).2 s).mpr
      ((decidingTier_eq_singleton_iff settings store merchantId p s).mpr alone), rfl⟩

theorem mem_matchedRefundIds {r : Refund} (listed : r ∈ selectRefunds store (scopeOf merchantId)) :
    r.id ∈ matchedRefundIds reviews ↔
      ∃ p ∈ selectPayments store (scopeOf merchantId),
        groupKey r.provider r.providerPaymentId = groupKey p.provider p.providerPaymentId ∧
          ∃ s, acceptedSettlements settings store merchantId p = {s} := by
  have every := reviewPayments_forall₂ reviewed
  have refunds (p : Payment) : (∃ q ∈ paymentRefunds (buildPaymentIndexes (selectPayments store (scopeOf merchantId))
      (selectRefunds store (scopeOf merchantId)) (selectSettlements store (scopeOf merchantId))) p, q.id = r.id) ↔
        groupKey r.provider r.providerPaymentId = groupKey p.provider p.providerPaymentId := by
    simp only [paymentRefunds_eq, List.mem_filter, decide_eq_true_eq]
    constructor
    · rintro ⟨q, ⟨inside, key⟩, same⟩
      rwa [List.inj_on_of_nodup_map (selectRefunds_ids store _) inside listed same] at key
    · exact fun key => ⟨r, ⟨listed, key⟩, rfl⟩
  simp only [matchedRefundIds, List.mem_flatMap]
  constructor
  · rintro ⟨review, member, found⟩
    obtain ⟨p, inside, this⟩ := Outcome.forall₂_right every member
    obtain ⟨⟨s, alone⟩, mine⟩ := (mem_reviewOf_matchedRefunds this r.id).mp found
    exact ⟨p, inside, (refunds p).mp mine, s, (decidingTier_eq_singleton_iff settings store merchantId p s).mp alone⟩
  · rintro ⟨p, inside, key, s, alone⟩
    obtain ⟨review, member, this⟩ := Outcome.forall₂_left every inside
    refine ⟨review, member, (mem_reviewOf_matchedRefunds this r.id).mpr ⟨⟨s, ?_⟩, (refunds p).mpr key⟩⟩
    exact (decidingTier_eq_singleton_iff settings store merchantId p s).mpr alone

end Matched

/-! ## The owner of a case -/

/-- The kinds of case that are reported without a merchant when they have no payment. -/
def unownedCases : List CaseType := [.duplicateSettlement, .settlementWithoutPayment, .refundWithoutPayment]

omit [Platform] in
@[simp] theorem duplicateSettlementCase_merchantId (first : Settlement) (group : List Settlement) :
    (duplicateSettlementCase first group).merchantId = none := rfl

omit [Platform] in
@[simp] theorem orphanSettlementCase_merchantId (s : Settlement) : (orphanSettlementCase s).merchantId = none := rfl

omit [Platform] in
@[simp] theorem orphanRefundCase_merchantId (r : Refund) : (orphanRefundCase r).merchantId = none := rfl

omit [Platform] in
theorem unexplainedCreditCase_merchantId (b : BankTransaction) : (unexplainedCreditCase b).merchantId = b.merchantId := by
  cases own : b.merchantId <;>
    simp [unexplainedCreditCase, caseOf, CaseRequest.merchantId, own, CaseRequest.storedMetadata, CaseMetadata.getText,
      CaseMetadata.get, MetaValue.ofOption]

/-- The bank leg's case about a settlement belongs to its payment's owner, or else to its own. -/
theorem RaisesBankCase.merchantId_eq {order : SetOrder} {settings : Settings} {store : Store} {merchantId : Option String}
    {s : Settlement} {r : CaseRequest} (raises : RaisesBankCase order settings store merchantId s r) :
    r.payment = store.getPayment s.paymentId ∧
      r.merchantId = match store.getPayment s.paymentId with
        | some p => p.merchantId
        | none => s.merchantId := by
  cases paid : store.getPayment s.paymentId <;> cases own : s.merchantId <;> cases raises <;>
    simp [CaseRequest.merchantId, bankMismatchCase, bankAmbiguousCase, caseOf, paid, own,
      CaseRequest.storedMetadata, CaseMetadata.getText, CaseMetadata.get, MetaValue.ofOption]

/-- A reported case is about a payment of the store, or has a merchant that its kind decides. -/
inductive OwnerForm (store : Store) (merchant : String) (r : CaseRequest) : Prop
  | payment (p : Payment) (member : p ∈ store.payments) (about : r.payment = some p) (type : r.recordType = "payment")
  | none (about : r.payment = none) (type : r.recordType ≠ "payment")
      (owner : r.merchantId = if r.caseType ∈ unownedCases then .none else some merchant)

theorem RaisesBankCase.ownerForm {order : SetOrder} {settings : Settings} {store : Store} {merchantId : Option String}
    {s : Settlement} {r : CaseRequest} (raises : RaisesBankCase order settings store merchantId s r) {merchant : String}
    (own : s.merchantId = some merchant) : OwnerForm store merchant r := by
  obtain ⟨about, owner⟩ := raises.merchantId_eq
  cases paid : store.getPayment s.paymentId with
  | none =>
    simp only [paid, own] at about owner
    refine .none about ?_ (owner.trans ?_) <;> cases raises <;>
      simp [bankMismatchCase, bankAmbiguousCase, caseOf, paid, unownedCases]
  | some p =>
    have member := ((store.getPayment_eq_some_iff _ _).mp paid).1
    rw [paid] at about
    cases raises <;> exact .payment p member about (by simp [bankMismatchCase, bankAmbiguousCase, caseOf, paid])

/-- No payment of the merchant is uniquely matched to the settlement. -/
def Unmatched (settings : Settings) (store : Store) (merchant : String) (s : Settlement) : Prop :=
  ∀ p ∈ selectPayments store (some merchant), acceptedSettlements settings store (some merchant) p ≠ {s}

/-- No uniquely matched payment of the merchant has the refund's provider and payment id. -/
def UnmatchedRefund (settings : Settings) (store : Store) (merchant : String) (r : Refund) : Prop :=
  ∀ p ∈ selectPayments store (some merchant),
    groupKey r.provider r.providerPaymentId = groupKey p.provider p.providerPaymentId →
      ∀ s, acceptedSettlements settings store (some merchant) p ≠ {s}

/-- No settlement in scope has the refund's provider and payment id. -/
def Unsettled (store : Store) (merchant : String) (r : Refund) : Prop :=
  ∀ s ∈ selectSettlements store (some merchant),
    groupKey s.provider s.providerPaymentId ≠ groupKey r.provider r.providerPaymentId

/-- The cases a run restricted to a merchant reports under another merchant or none. -/
inductive Misfiled (order : SetOrder) (settings : Settings) (store : Store) (merchant : String) : CaseRequest → Prop
  | duplicateSettlements {s first : Settlement} {copies : List Settlement}
      (alike : copies = (selectSettlements store (some merchant)).filter (fun t => settlementKey t = settlementKey s))
      (several : 1 < copies.length) (head : copies.head? = some first) :
      Misfiled order settings store merchant (duplicateSettlementCase first copies)
  | settlementWithoutPayment {s : Settlement} (listed : s ∈ selectSettlements store (some merchant))
      (unmatched : Unmatched settings store merchant s)
      (unlinked : linkedPayment store s.paymentId s.provider s.providerPaymentId = none) :
      Misfiled order settings store merchant (orphanSettlementCase s)
  | refundWithoutPayment {r : Refund} (listed : r ∈ selectRefunds store (some merchant))
      (unmatched : UnmatchedRefund settings store merchant r)
      (unlinked : linkedPayment store r.paymentId r.provider r.providerPaymentId = none) :
      Misfiled order settings store merchant (orphanRefundCase r)
  | refundOfForeignPayment {r : Refund} {p : Payment} (listed : r ∈ selectRefunds store (some merchant))
      (unmatched : UnmatchedRefund settings store merchant r)
      (linked : linkedPayment store r.paymentId r.provider r.providerPaymentId = some p)
      (unsettled : Unsettled store merchant r) (foreign : p.merchantId ≠ some merchant) : Misfiled order settings store merchant (unsettledRefundCase p r)
  | payoutOfForeignPayment {s : Settlement} {p : Payment} {r : CaseRequest} (member : s ∈ store.settlements)
      (own : s.merchantId = some merchant) (linked : store.getPayment s.paymentId = some p)
      (foreign : p.merchantId ≠ some merchant) (raises : RaisesBankCase order settings store (some merchant) s r) :
      Misfiled order settings store merchant r

section Scoped
variable {order : SetOrder} {settings : Settings} {store : Store} {merchant : String} {reviews : List PaymentReview}

omit [Platform] in
theorem owned_of_bankLeg (named : merchant ≠ "") {s : Settlement} (read : s ∈ bankLegSettlements store (some merchant)) :
    s.merchantId = some merchant := by
  have own := ((mem_bankLegSettlements s).mp read).2
  rwa [scopeOf_some named, owned_some_iff] at own

theorem reported_ownerForm (named : merchant ≠ "")
    (reviewed : reviewPayments order settings store (scopeOf (some merchant)) = .ok reviews) {r : CaseRequest}
    (reported : r ∈ (surveyOf order settings store (scopeOf (some merchant)) reviews).findings.requests) :
    OwnerForm store merchant r := by
  rcases (mem_surveyOf_requests order settings store _ reviews r).mp reported with
    ⟨group, _, site⟩ | ⟨review, member, found⟩ | ⟨s, _, site⟩ | ⟨refund, _, site⟩ | ⟨review, member, found⟩ | ⟨b, listed, site⟩
  · obtain ⟨_, first, _, rfl⟩ := duplicateSettlementFindings_cases.mp site
    exact .none rfl (by simp [duplicateSettlementCase, caseOf]) rfl
  · obtain ⟨p, inside, done⟩ := Outcome.forall₂_right (reviewPayments_forall₂ reviewed) member
    obtain ⟨about, type⟩ := reviewOf_requests_payment done found
    exact .payment p ((mem_selectPayments store _ p).mp inside).1 about type
  · rw [(orphanSettlementFindings_cases.mp site).2.2]
    exact .none rfl (by simp [orphanSettlementCase, caseOf]) rfl
  · rcases (orphanRefundFindings_cases.mp site).2 with ⟨_, rfl⟩ | ⟨p, linked, _, rfl⟩
    · exact .none rfl (by simp [orphanRefundCase, caseOf]) rfl
    · exact .payment p (linkedPayment_mem linked) rfl rfl
  · obtain ⟨s, read, rfl⟩ := List.mem_map.mp member
    exact ((mem_reportedInBankLeg_iff r).mp found).ownerForm (owned_of_bankLeg named read)
  · have own := ((mem_selectBank store _ b).mp listed).2
    rw [scopeOf_some named, owned_some_iff] at own
    rw [(unexplainedCreditFindings_cases.mp site).2]
    refine .none rfl (by simp [unexplainedCreditCase, caseOf]) ?_
    rw [unexplainedCreditCase_merchantId, own]
    simp [unexplainedCreditCase, caseOf, unownedCases]

omit [Platform] in
/-- Cases with one fingerprint have one owner. -/
theorem OwnerForm.merchantId_eq {r e : CaseRequest} (first : OwnerForm store merchant r) (second : OwnerForm store merchant e)
    (payload : r.fingerprintPayload = e.fingerprintPayload) : r.merchantId = e.merchantId := by
  have types : r.recordType = e.recordType := congrArg FingerprintPayload.recordType payload
  have kinds : r.caseType = e.caseType := CaseType.name_injective (congrArg FingerprintPayload.caseType payload)
  rcases first with ⟨p, member, about, type⟩ | ⟨about, type, owner⟩ <;>
    rcases second with ⟨q, inside, also, typeAlso⟩ | ⟨also, typeAlso, ownerAlso⟩
  · have source : r.sourceKey = e.sourceKey := congrArg FingerprintPayload.source payload
    simp only [CaseRequest.sourceKey, about, also] at source
    have same : p = q := List.inj_on_of_nodup_map store.paymentIds member inside source
    simp only [CaseRequest.merchantId, about, also, same]
  · exact absurd (types.symm.trans type) typeAlso
  · exact absurd (types.trans typeAlso) type
  · rw [owner, ownerAlso, kinds]

theorem unmatched_iff (named : merchant ≠ "")
    (reviewed : reviewPayments order settings store (scopeOf (some merchant)) = .ok reviews) {s : Settlement}
    (listed : s ∈ selectSettlements store (some merchant)) :
    s.id ∉ matchedSettlementIds reviews ↔ Unmatched settings store merchant s := by
  have scope := scopeOf_some named
  have matched := mem_matchedSettlementIds reviewed (s := s) (by rwa [scope])
  rw [scope] at matched
  simp only [matched, not_exists, not_and, ne_eq, Unmatched]

theorem unmatchedRefund_iff (named : merchant ≠ "")
    (reviewed : reviewPayments order settings store (scopeOf (some merchant)) = .ok reviews) {r : Refund}
    (listed : r ∈ selectRefunds store (some merchant)) :
    r.id ∉ matchedRefundIds reviews ↔ UnmatchedRefund settings store merchant r := by
  have scope := scopeOf_some named
  have matched := mem_matchedRefundIds reviewed (r := r) (by rwa [scope])
  rw [scope] at matched
  simp only [matched, not_exists, not_and, ne_eq, UnmatchedRefund]

theorem unsettled_iff (store : Store) (merchant : String) (r : Refund) :
    (buildPaymentIndexes (selectPayments store (some merchant)) (selectRefunds store (some merchant))
      (selectSettlements store (some merchant))).settlementsByPayment.get (groupKey r.provider r.providerPaymentId) = [] ↔
        Unsettled store merchant r := by
  simp only [buildPaymentIndexes]
  rw [MultiMap.get_collect _ _ (fun _ _ => List.nodup_singleton _), List.filter_eq_nil_iff]
  simp only [List.mem_singleton, decide_eq_true_eq, Unsettled, ne_eq]
  exact forall₂_congr fun _ _ => not_congr eq_comm

/-- What a run reports under another merchant or none. -/
theorem misfiled_iff (named : merchant ≠ "")
    (reviewed : reviewPayments order settings store (scopeOf (some merchant)) = .ok reviews) (r : CaseRequest) :
    Misfiled order settings store merchant r ↔
      r ∈ (surveyOf order settings store (scopeOf (some merchant)) reviews).findings.requests ∧
        r.merchantId ≠ some merchant := by
  have scope := scopeOf_some named
  have notMatched {s : Settlement} (listed : s ∈ selectSettlements store (some merchant)) :=
    unmatched_iff named reviewed listed
  have notRefunded {r : Refund} (listed : r ∈ selectRefunds store (some merchant)) :=
    unmatchedRefund_iff named reviewed listed
  have unsettled (r : Refund) := unsettled_iff store merchant r
  rw [mem_surveyOf_requests, scope]
  constructor
  · intro misfiled
    cases misfiled with
    | @duplicateSettlements s first copies alike several head =>
      have inside : first ∈ copies := List.mem_of_mem_head? head
      have same : copies = (selectSettlements store (some merchant)).filter
          (fun t => settlementKey t = settlementKey first) := by
        rw [alike] at inside ⊢
        rw [of_decide_eq_true (List.mem_filter.mp inside).2]
      refine ⟨.inl ⟨copies, ?_, duplicateSettlementFindings_cases.mpr ⟨several, first, head, rfl⟩⟩, by simp⟩
      rw [settlementGroups, MultiMap.mem_values_collect]
      exact ⟨first, (List.mem_filter.mp (same ▸ inside)).1, same⟩
    | settlementWithoutPayment listed unmatched unlinked =>
      refine ⟨.inr (.inr (.inl ⟨_, listed, ?_⟩)), by simp⟩
      exact orphanSettlementFindings_cases.mpr ⟨(notMatched listed).mpr unmatched, unlinked, rfl⟩
    | refundWithoutPayment listed unmatched unlinked =>
      refine ⟨.inr (.inr (.inr (.inl ⟨_, listed, ?_⟩))), by simp⟩
      exact orphanRefundFindings_cases.mpr ⟨(notRefunded listed).mpr unmatched, .inl ⟨unlinked, rfl⟩⟩
    | @refundOfForeignPayment r p listed unmatched linked settled foreign =>
      refine ⟨.inr (.inr (.inr (.inl ⟨r, listed, ?_⟩))), foreign⟩
      exact orphanRefundFindings_cases.mpr
        ⟨(notRefunded listed).mpr unmatched, .inr ⟨p, linked, (unsettled r).mpr settled, rfl⟩⟩
    | @payoutOfForeignPayment s p r member own linked foreign raises =>
      have read : s ∈ bankLegSettlements store (some merchant) :=
        (mem_bankLegSettlements s).mpr ⟨member, by rwa [scope, owned_some_iff]⟩
      have reported := (mem_surveyOf_requests order settings store _ reviews r).mp (mem_surveyOf_of_raises reviews read raises)
      rw [scope] at reported
      exact ⟨reported, by simpa only [raises.merchantId_eq.2, linked] using foreign⟩
  · rintro ⟨reported, foreign⟩
    rcases reported with ⟨group, listed, site⟩ | ⟨review, member, found⟩ | ⟨s, listed, site⟩ | ⟨refund, listed, site⟩ |
      ⟨review, member, found⟩ | ⟨b, listed, site⟩
    · obtain ⟨several, first, head, rfl⟩ := duplicateSettlementFindings_cases.mp site
      rw [settlementGroups, MultiMap.mem_values_collect] at listed
      obtain ⟨s, _, alike⟩ := listed
      exact .duplicateSettlements alike several head
    · obtain ⟨p, inside, done⟩ := Outcome.forall₂_right (reviewPayments_forall₂ reviewed) member
      have own := ((mem_selectPayments store _ p).mp inside).2
      rw [scope, owned_some_iff] at own
      simp only [CaseRequest.merchantId, (reviewOf_requests_payment done found).1] at foreign
      exact absurd own foreign
    · obtain ⟨unmatched, unlinked, rfl⟩ := orphanSettlementFindings_cases.mp site
      exact .settlementWithoutPayment listed ((notMatched listed).mp unmatched) unlinked
    · obtain ⟨unmatched, ⟨unlinked, rfl⟩ | ⟨p, linked, none, rfl⟩⟩ := orphanRefundFindings_cases.mp site
      · exact .refundWithoutPayment listed ((notRefunded listed).mp unmatched) unlinked
      · exact .refundOfForeignPayment listed ((notRefunded listed).mp unmatched) linked ((unsettled refund).mp none) foreign
    · rw [← scope] at member
      obtain ⟨s, read, rfl⟩ := List.mem_map.mp member
      have raises : RaisesBankCase order settings store (some merchant) s r := (mem_reportedInBankLeg_iff r).mp found
      have own := owned_of_bankLeg named read
      rw [raises.merchantId_eq.2] at foreign
      cases paid : store.getPayment s.paymentId with
      | none => exact absurd own (by simpa only [paid] using foreign)
      | some p =>
        exact .payoutOfForeignPayment ((mem_bankLegSettlements s).mp read).1 own paid (by simpa only [paid] using foreign) raises
    · have own := ((mem_selectBank store _ b).mp listed).2
      rw [owned_some_iff] at own
      rw [(unexplainedCreditFindings_cases.mp site).2, unexplainedCreditCase_merchantId] at foreign
      exact absurd own foreign

/-- Every case a run creates for a merchant is the merchant's exactly when each one it
would report under another merchant or none is stored already. -/
theorem created_cases_owned_iff [Hashing] (lossless : Function.Injective Hashing.digest) (named : merchant ≠ "")
    {draws : Nat → Draw} {cases : CaseStore} {report : Report}
    (ran : runReconciliation order settings draws store (some merchant) cases = .ok report) :
    (∀ c ∈ report.cases.contents.drop cases.contents.length, c.merchantId = some merchant) ↔
      ∀ r, Misfiled order settings store merchant r → r.content.fingerprint ∈ cases.cases.map (·.fingerprint) := by
  obtain ⟨reviews, reviewed, found, _⟩ := runReconciliation_ok ran
  have contents := (report_cases ran).1
  rw [found] at contents
  rw [contents, List.drop_left]
  have inside {r : CaseRequest} (recorded : r ∈ (caseRegistry settings draws).fresh (cases.cases.map (·.fingerprint))
      (surveyOf order settings store (scopeOf (some merchant)) reviews).findings.requests) :=
    (FirstByKey.firsts_sublist _ _ _).subset recorded
  constructor
  · intro owned r misfiled
    obtain ⟨reported, foreign⟩ := (misfiled_iff named reviewed r).mp misfiled
    rcases FirstByKey.covered (caseRegistry settings draws).keyOf (cases.cases.map (·.fingerprint)) _ reported with stored | ⟨e, recorded, same⟩
    · exact stored
    · have payload : e.fingerprintPayload = r.fingerprintPayload := lossless same
      have owner := (reported_ownerForm named reviewed (inside recorded)).merchantId_eq
        (reported_ownerForm named reviewed reported) payload
      exact absurd (owner.symm.trans (owned e.content (List.mem_map_of_mem recorded))) foreign
  · intro stored c created
    obtain ⟨r, recorded, rfl⟩ := List.mem_map.mp created
    by_contra foreign
    obtain ⟨_, _, _, unseen, _⟩ := (FirstByKey.mem_firsts_iff _ _ _ _).mp recorded
    exact unseen (stored r ((misfiled_iff named reviewed r).mpr ⟨inside recorded, foreign⟩))

end Scoped
end Platform

section Examples
open PlainText

/-- A settlement of a merchant, for a payment that was never ingested. -/
def orphanPayout : Store where
  settlements := [clearedPayout]
  settlementNamed := clearedPayout_named

theorem orphanPayout_ran : ∃ report, runReconciliation .insertion {} draws orphanPayout (some "m1") .empty = .ok report ∧
    report.cases.contents.map (fun c => (c.caseType, c.merchantId)) = [("SETTLEMENT_WITHOUT_PAYMENT", none)] :=
  Outcome.exists_ok_of_map (by decide +kernel)

theorem created_cases_owned_iff_orphanPayout :
    ∃ report, runReconciliation .insertion {} draws orphanPayout (some "m1") .empty = .ok report ∧
      ((∀ c ∈ report.cases.contents.drop CaseStore.empty.contents.length, c.merchantId = some "m1") ↔
        ∀ r, Misfiled .insertion {} orphanPayout "m1" r → r.content.fingerprint ∈ CaseStore.empty.cases.map (·.fingerprint)) := by
  obtain ⟨report, ran, _⟩ := orphanPayout_ran
  exact ⟨report, ran, created_cases_owned_iff fieldText_injective (by decide) ran⟩

/-- The case about the merchant's own settlement has no merchant. -/
theorem orphan_payout_case_has_no_merchant :
    ¬∀ report, runReconciliation .insertion {} draws orphanPayout (some "m1") .empty = .ok report →
      ∀ c ∈ report.cases.contents, c.merchantId = some "m1" := by
  intro owned
  obtain ⟨report, ran, evaluated⟩ := orphanPayout_ran
  obtain ⟨c, _, whole, first, _⟩ := List.map_eq_cons_iff.mp evaluated
  have mine := owned report ran c (by simp [whole])
  simp only [Prod.mk.injEq] at first
  rw [first.2] at mine
  cases mine

end Examples
end RCAA
