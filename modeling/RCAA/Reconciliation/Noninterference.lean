import RCAA.Reconciliation.Ownership

/-! What other merchants' rows can do to a run restricted to one merchant. The run reads
foreign rows in two ways: refunds and settlements that point to a payment of the
merchant, and the payment an unmatched refund or settlement, or a payout to be reported,
links to. Stores that agree there, and on the merchant's own rows, give the same run. -/

namespace RCAA

/-- The rows that are the merchant's or nobody's. -/
def visibleTo (merchant : String) (merchantId : Option String) : Prop :=
  merchantId = some merchant ∨ merchantId = none ∨ merchantId = some ""

/-- Two stores with the same rows visible to a merchant. -/
structure AgreeFor (merchant : String) (a b : Store) : Prop where
  payments : ∀ p : Payment, visibleTo merchant p.merchantId → (p ∈ a.payments ↔ p ∈ b.payments)
  refunds : ∀ r : Refund, visibleTo merchant r.merchantId → (r ∈ a.refunds ↔ r ∈ b.refunds)
  settlements : ∀ s : Settlement, visibleTo merchant s.merchantId → (s ∈ a.settlements ↔ s ∈ b.settlements)
  bank : ∀ t : BankTransaction, visibleTo merchant t.merchantId → (t ∈ a.bankTransactions ↔ t ∈ b.bankTransactions)

/-- The stores agree on the refunds and settlements that point to a payment of the merchant. -/
structure SameAttached (merchant : String) (a b : Store) : Prop where
  refunds : ∀ p ∈ a.payments, p.merchantId = some merchant →
    ∀ r : Refund, r.paymentId = some p.id → (r ∈ a.refunds ↔ r ∈ b.refunds)
  settlements : ∀ p ∈ a.payments, p.merchantId = some merchant →
    ∀ s : Settlement, s.paymentId = some p.id → (s ∈ a.settlements ↔ s ∈ b.settlements)

/-! ## The rows a run reads -/

theorem ordered_eq {timestamp : α → DateTime} {id : α → String} {rows others : List α}
    (sorted : rows.Pairwise (Precedes timestamp id)) (sortedToo : others.Pairwise (Precedes timestamp id))
    (same : ∀ a, a ∈ rows ↔ a ∈ others) : rows = others := by
  have nodup {list : List α} (ordered : list.Pairwise (Precedes timestamp id)) : list.Nodup :=
    ordered.imp fun {a b} before equal => (equal ▸ before).asymm (equal ▸ before)
  refine List.Perm.eq_of_pairwise (fun a b _ _ before after => absurd after before.asymm) sorted sortedToo ?_
  exact (List.perm_ext_iff_of_nodup (nodup sorted) (nodup sortedToo)).mpr same

section Agree
variable {merchant : String} {a b : Store} (agree : AgreeFor merchant a b)
include agree

theorem AgreeFor.selectPayments_eq : selectPayments a (some merchant) = selectPayments b (some merchant) := by
  refine ordered_eq (orderRows_precedes (a.paymentIds.sublist (List.filter_sublist.map _)))
    (orderRows_precedes (b.paymentIds.sublist (List.filter_sublist.map _))) fun p => ?_
  simp only [mem_selectPayments, owned_some_iff]
  exact and_congr_left fun own => agree.payments p (.inl own)

theorem AgreeFor.selectBank_eq : selectBank a (some merchant) = selectBank b (some merchant) := by
  refine ordered_eq (orderRows_precedes (a.bankIds.sublist (List.filter_sublist.map _)))
    (orderRows_precedes (b.bankIds.sublist (List.filter_sublist.map _))) fun t => ?_
  simp only [mem_selectBank, owned_some_iff]
  exact and_congr_left fun own => agree.bank t (.inl own)

/-- The two stores link the same payment ids to payments of the merchant. -/
theorem AgreeFor.linked_iff (paymentId : Option String) :
    (∃ p ∈ a.payments, p.merchantId = some merchant ∧ paymentId = some p.id) ↔
      ∃ p ∈ b.payments, p.merchantId = some merchant ∧ paymentId = some p.id := by
  refine exists_congr fun p => ?_
  constructor
  · exact fun ⟨member, own, linked⟩ => ⟨(agree.payments p (.inl own)).mp member, own, linked⟩
  · exact fun ⟨member, own, linked⟩ => ⟨(agree.payments p (.inl own)).mpr member, own, linked⟩

variable (attached : SameAttached merchant a b)
include attached

theorem AgreeFor.selectRefunds_eq : selectRefunds a (some merchant) = selectRefunds b (some merchant) := by
  refine ordered_eq (orderRows_precedes (a.refundIds.sublist (List.filter_sublist.map _)))
    (orderRows_precedes (b.refundIds.sublist (List.filter_sublist.map _))) fun r => ?_
  simp only [mem_selectRefunds, ownedOrLinked_some_iff, ← agree.linked_iff]
  refine and_congr_left ?_
  rintro (own | ⟨p, member, own, linked⟩)
  · exact agree.refunds r (.inl own)
  · exact attached.refunds p member own r linked

theorem AgreeFor.selectSettlements_eq : selectSettlements a (some merchant) = selectSettlements b (some merchant) := by
  refine ordered_eq (orderRows_precedes (a.settlementIds.sublist (List.filter_sublist.map _)))
    (orderRows_precedes (b.settlementIds.sublist (List.filter_sublist.map _))) fun s => ?_
  simp only [mem_selectSettlements, ownedOrLinked_some_iff, ← agree.linked_iff]
  refine and_congr_left ?_
  rintro (own | ⟨p, member, own, linked⟩)
  · exact agree.settlements s (.inl own)
  · exact attached.settlements p member own s linked

end Agree

/-! ## The run -/

section Platform
variable [Platform]

/-- Two stores whose foreign rows a run for the merchant cannot tell apart: those attached
to its payments, whether an unmatched refund or settlement links to a payment, which
payment a refund without a settlement links to, and which one a payout to be reported. -/
structure SameForeignReads (settings : Settings) (merchant : String) (a b : Store) : Prop
    extends SameAttached merchant a b where
  settlementLinks : ∀ s ∈ selectSettlements a (some merchant), Unmatched settings a merchant s →
    (linkedPayment a s.paymentId s.provider s.providerPaymentId).isSome =
      (linkedPayment b s.paymentId s.provider s.providerPaymentId).isSome
  refundLinks : ∀ r ∈ selectRefunds a (some merchant), UnmatchedRefund settings a merchant r →
    (linkedPayment a r.paymentId r.provider r.providerPaymentId).isSome =
      (linkedPayment b r.paymentId r.provider r.providerPaymentId).isSome
  unsettledRefundLinks : ∀ r ∈ selectRefunds a (some merchant), UnmatchedRefund settings a merchant r →
    Unsettled a merchant r → linkedPayment a r.paymentId r.provider r.providerPaymentId =
      linkedPayment b r.paymentId r.provider r.providerPaymentId
  payoutLinks : ∀ s ∈ a.settlements, s.merchantId = some merchant →
    acceptedBankRows settings a (some merchant) s ≠ ∅ → ¬PaidOut settings a (some merchant) s →
      a.getPayment s.paymentId = b.getPayment s.paymentId

theorem RaisesBankCase.not_paidOut {order : SetOrder} {settings : Settings} {store : Store} {merchantId : Option String}
    {s : Settlement} {r : CaseRequest} (raises : RaisesBankCase order settings store merchantId s r) :
    acceptedBankRows settings store merchantId s ≠ ∅ ∧ ¬PaidOut settings store merchantId s := by
  cases raises with
  | @mismatch b alone differs =>
    refine ⟨by simp [alone], ?_⟩
    rintro ⟨c, also, pays⟩
    rw [alone, Set.singleton_eq_singleton_iff] at also
    exact differs (also ▸ pays)
  | ambiguous several =>
    refine ⟨several.nonempty.ne_empty, ?_⟩
    rintro ⟨c, alone, _⟩
    rw [alone] at several
    exact Set.not_nontrivial_singleton several

theorem reviewBank_congr (order : SetOrder) (settings : Settings) {a b : Store} {indexes : BankIndexes} {s : Settlement}
    (linked : (reviewBank order settings a indexes s).findings.requests ≠ [] →
      a.getPayment s.paymentId = b.getPayment s.paymentId) :
    reviewBank order settings a indexes s = reviewBank order settings b indexes s := by
  rcases candidates : bankCandidates order settings indexes s with _ | ⟨c, _ | ⟨d, rest⟩⟩ <;>
    simp only [reviewBank, candidates] at linked ⊢
  · cases pays : paysOut s c
    · simp only [bankMismatchCase, linked (by simp [pays])]
    · rfl
  · simp only [bankAmbiguousCase, linked (by simp)]

section Survey
variable {merchant : String} (named : merchant ≠ "") {a b : Store} {order : SetOrder} {settings : Settings}
include named

theorem orphanSettlements_congr (agree : AgreeFor merchant a b) (reads : SameForeignReads settings merchant a b)
    {reviews : List PaymentReview} (reviewed : reviewPayments order settings a (scopeOf (some merchant)) = .ok reviews) :
    (selectSettlements a (some merchant)).map (orphanSettlementFindings a (matchedSettlementIds reviews)) =
      (selectSettlements b (some merchant)).map (orphanSettlementFindings b (matchedSettlementIds reviews)) := by
  rw [← agree.selectSettlements_eq reads.toSameAttached]
  refine List.map_congr_left fun s listed => ?_
  simp only [orphanSettlementFindings]
  split
  · rfl
  · next free =>
    have linked := reads.settlementLinks s listed ((unmatched_iff named reviewed listed).mp free)
    cases here : linkedPayment a s.paymentId s.provider s.providerPaymentId <;>
      cases there : linkedPayment b s.paymentId s.provider s.providerPaymentId <;> simp [here, there] at linked ⊢

theorem orphanRefunds_congr (agree : AgreeFor merchant a b) (reads : SameForeignReads settings merchant a b)
    {reviews : List PaymentReview} (reviewed : reviewPayments order settings a (scopeOf (some merchant)) = .ok reviews) :
    (selectRefunds a (some merchant)).map (orphanRefundFindings a (buildPaymentIndexes (selectPayments a (some merchant))
        (selectRefunds a (some merchant)) (selectSettlements a (some merchant))) (matchedRefundIds reviews)) =
      (selectRefunds b (some merchant)).map (orphanRefundFindings b (buildPaymentIndexes (selectPayments a (some merchant))
        (selectRefunds a (some merchant)) (selectSettlements a (some merchant))) (matchedRefundIds reviews)) := by
  rw [← agree.selectRefunds_eq reads.toSameAttached]
  refine List.map_congr_left fun r listed => ?_
  simp only [orphanRefundFindings]
  split
  · rfl
  · next free =>
    have unmatched := (unmatchedRefund_iff named reviewed listed).mp free
    by_cases unsettled : Unsettled a merchant r
    · rw [reads.unsettledRefundLinks r listed unmatched unsettled]
    · have linked := reads.refundLinks r listed unmatched
      have settled : ((buildPaymentIndexes (selectPayments a (some merchant)) (selectRefunds a (some merchant))
          (selectSettlements a (some merchant))).settlementsByPayment.get
            (groupKey r.provider r.providerPaymentId)).isEmpty = false := by
        rw [List.isEmpty_eq_false_iff]
        exact fun none => unsettled ((unsettled_iff a merchant r).mp none)
      cases here : linkedPayment a r.paymentId r.provider r.providerPaymentId <;>
        cases there : linkedPayment b r.paymentId r.provider r.providerPaymentId <;>
        simp [here, there, settled, Findings.only] at linked ⊢

theorem reviewBankLeg_congr (agree : AgreeFor merchant a b) (reads : SameForeignReads settings merchant a b) :
    reviewBankLeg order settings a (some merchant) = reviewBankLeg order settings b (some merchant) := by
  simp only [reviewBankLeg, ← agree.selectSettlements_eq reads.toSameAttached, ← agree.selectBank_eq]
  refine List.map_congr_left fun s listed => reviewBank_congr order settings fun found => ?_
  have read : s ∈ bankLegSettlements a (some merchant) := by rwa [bankLegSettlements, scopeOf_some named]
  obtain ⟨r, reported⟩ := List.exists_mem_of_ne_nil _ found
  rw [← scopeOf_some named] at reported
  obtain ⟨accepted, unpaid⟩ := ((mem_reportedInBankLeg_iff r).mp reported).not_paidOut
  exact reads.payoutLinks s ((mem_bankLegSettlements s).mp read).1 (owned_of_bankLeg named read) accepted unpaid

/-- A run finds the same whatever the foreign rows it does not read are. -/
theorem survey_eq (agree : AgreeFor merchant a b) (reads : SameForeignReads settings merchant a b) (order : SetOrder) :
    survey order settings a (some merchant) = survey order settings b (some merchant) := by
  have payments := agree.selectPayments_eq
  have bank := agree.selectBank_eq
  have refunds := agree.selectRefunds_eq reads.toSameAttached
  have settlements := agree.selectSettlements_eq reads.toSameAttached
  have loop : reviewPayments order settings b (some merchant) = reviewPayments order settings a (some merchant) := by
    simp only [reviewPayments, payments, refunds, settlements]
  simp only [survey, scopeOf_some named, loop]
  cases reviewed : reviewPayments order settings a (some merchant) with
  | error e => rfl
  | ok reviews =>
    rw [← scopeOf_some named] at reviewed
    have orphans := orphanSettlements_congr named agree reads reviewed
    have orphanRefunds := orphanRefunds_congr named agree reads reviewed
    have same : surveyOf order settings a (some merchant) reviews = surveyOf order settings b (some merchant) reviews := by
      simp only [surveyOf, reviewBankLeg_congr named agree reads, orphans, orphanRefunds]
      simp only [payments, refunds, settlements, bank]
    exact congrArg Except.ok same

end Survey

/-- What a run shows: its cases but for their ids, numbers and times, and its counts. -/
def Report.shown (report : Report) : List CaseContent × Nat × Stats × Nat :=
  (report.cases.contents, report.createdCases, report.stats, report.survey.totalRecords)

/-- A run restricted to a merchant shows the same for stores that agree on the rows
visible to it and on the foreign rows the run reads. -/
theorem runs_show_the_same [Hashing] {merchant : String} (named : merchant ≠ "") {a b : Store}
    (agree : AgreeFor merchant a b) {settings : Settings} (reads : SameForeignReads settings merchant a b) (order : SetOrder)
    (draws draws' : Nat → Draw) (cases : CaseStore) :
    (runReconciliation order settings draws a (some merchant) cases).map Report.shown =
      (runReconciliation order settings draws' b (some merchant) cases).map Report.shown := by
  have recorded (requests : List CaseRequest) :
      (createCases settings draws cases requests).1.contents = (createCases settings draws' cases requests).1.contents ∧
        (createCases settings draws cases requests).2 = (createCases settings draws' cases requests).2 := by
    obtain ⟨rows, created⟩ := (caseRegistry settings draws).putAll_rows (putAll_eq_createCases settings draws cases requests)
    obtain ⟨rows', created'⟩ := (caseRegistry settings draws').putAll_rows (putAll_eq_createCases settings draws' cases requests)
    have fresh := FirstByKey.firsts_congr (caseRegistry settings draws).keyOf
      (fun _ => rfl : ∀ r, _ = (caseRegistry settings draws').keyOf r) ((caseRegistry settings draws).keys cases) requests
    rw [Registry.fresh, fresh] at rows created
    exact ⟨rows.trans rows'.symm, created.trans created'.symm⟩
  simp only [runReconciliation, survey_eq named agree reads order]
  cases survey order settings b (some merchant) with
  | error e => rfl
  | ok found =>
    obtain ⟨contents, created⟩ := recorded found.findings.requests
    have shown {filled other : CaseStore × Nat} (contents : filled.1.contents = other.1.contents)
        (created : filled.2 = other.2) :
        (Report.mk found filled.1 filled.2).shown = (Report.mk found other.1 other.2).shown := by
      simp only [Report.shown, Report.stats, contents, created]
    exact congrArg Except.ok (shown contents created)

end Platform

section Examples
open PlainText

def foreignPayment : Payment := { firstAttempt with id := "p9", providerPaymentId := "pay_9", merchantId := some "m2" }

/-- The payout of `unpaidPayout`, with a payment of another merchant that nothing refers to. -/
def unpaidPayoutAndForeign : Store where
  payments := [clearedPayment, foreignPayment]
  settlements := [clearedPayout]
  settlementNamed := clearedPayout_named

theorem unpaidPayout_agrees : AgreeFor "m1" unpaidPayout unpaidPayoutAndForeign where
  payments := by
    intro p visible
    simp only [unpaidPayout, unpaidPayoutAndForeign, List.mem_cons, List.not_mem_nil, or_false]
    refine ⟨.inl, ?_⟩
    rintro (rfl | rfl)
    · rfl
    · simp [visibleTo, foreignPayment] at visible
  refunds _ _ := Iff.rfl
  settlements _ _ := Iff.rfl
  bank _ _ := Iff.rfl

theorem unpaidPayout_reads : SameForeignReads {} "m1" unpaidPayout unpaidPayoutAndForeign where
  refunds _ _ _ _ _ := Iff.rfl
  settlements _ _ _ _ _ := Iff.rfl
  settlementLinks s listed _ := by
    have same : ∀ s ∈ selectSettlements unpaidPayout (some "m1"),
        (linkedPayment unpaidPayout s.paymentId s.provider s.providerPaymentId).isSome =
          (linkedPayment unpaidPayoutAndForeign s.paymentId s.provider s.providerPaymentId).isSome := by decide
    exact same s listed
  refundLinks r listed _ := by simp [unpaidPayout] at listed
  unsettledRefundLinks r listed _ _ := by simp [unpaidPayout] at listed
  payoutLinks := by
    intro s member _ _ _
    rw [List.mem_singleton.mp member]
    rfl

theorem runs_show_the_same_unpaidPayout :
    (runReconciliation .insertion {} draws unpaidPayout (some "m1") .empty).map Report.shown =
      (runReconciliation .insertion {} draws unpaidPayoutAndForeign (some "m1") .empty).map Report.shown :=
  runs_show_the_same (by decide) unpaidPayout_agrees unpaidPayout_reads .insertion draws draws .empty

/-- The payout of `orphanPayout`, with another merchant's payment that has the provider's
id of the payment it misses. -/
def orphanPayoutAndForeign : Store where
  payments := [{ foreignPayment with providerPaymentId := "pay_1" }]
  settlements := [clearedPayout]
  settlementNamed := clearedPayout_named

/-- With the foreign payment stored, the merchant's orphan settlement is no longer reported. -/
theorem foreign_payment_hides_orphan_payout :
    ¬∀ a b : Store, AgreeFor "m1" a b →
      (runReconciliation .insertion {} draws a (some "m1") .empty).map Report.shown =
        (runReconciliation .insertion {} draws b (some "m1") .empty).map Report.shown := by
  intro same
  have agree : AgreeFor "m1" orphanPayout orphanPayoutAndForeign :=
    { payments := by
        intro p visible
        simp only [orphanPayout, orphanPayoutAndForeign, List.mem_cons, List.not_mem_nil, or_false, false_iff]
        rintro rfl
        simp [visibleTo, foreignPayment] at visible
      refunds := fun _ _ => Iff.rfl
      settlements := fun _ _ => Iff.rfl
      bank := fun _ _ => Iff.rfl }
  have created := congrArg (fun shown => shown.toOption.map fun s : List CaseContent × Nat × Stats × Nat => s.2.1)
    (same _ _ agree)
  have evaluated : ((runReconciliation .insertion {} draws orphanPayout (some "m1") .empty).map Report.shown).toOption.map
      (fun s => s.2.1) = some 1 := by decide
  have evaluatedToo : ((runReconciliation .insertion {} draws orphanPayoutAndForeign (some "m1") .empty).map
      Report.shown).toOption.map (fun s => s.2.1) = some 0 := by decide
  simp only [evaluated, evaluatedToo] at created
  cases created

end Examples
end RCAA
