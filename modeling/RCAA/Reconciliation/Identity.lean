import RCAA.Reconciliation.Distinct

/-! Which records a run takes for one. The matcher compares lower-cased providers and
normalized ids; the engine groups by the provider as spelled, and looks up the payment
of an orphan by both as spelled. -/

namespace RCAA

section Platform
variable [Platform]

/-! ## The matcher's identity -/

/-- The key under which the matcher indexes a record; a blank id identifies nothing. -/
def identity (provider id : String) : Option (String × String) := (paymentIdKey id).map (lower provider, ·)

def SameIdentity (provider id provider' id' : String) : Prop :=
  ∃ key, identity provider id = some key ∧ identity provider' id' = some key

theorem sameIdentity_iff {provider id provider' id' : String} :
    SameIdentity provider id provider' id' ↔
      lower provider = lower provider' ∧ ∃ key, paymentIdKey id = some key ∧ paymentIdKey id' = some key := by
  simp only [SameIdentity, identity, Option.map_eq_some_iff]
  constructor
  · rintro ⟨_, ⟨key, mine, rfl⟩, other, theirs, same⟩
    obtain ⟨providers, rfl⟩ := Prod.mk.inj same
    exact ⟨providers.symm, other, mine, theirs⟩
  · rintro ⟨providers, key, mine, theirs⟩
    exact ⟨_, ⟨key, mine, rfl⟩, key, theirs, by rw [providers]⟩

/-- The order a payment names, under the same identity. -/
def orderIdentity (p : Payment) : Option (String × String) := (p.providerOrderId.filter (· ≠ "")).bind (identity p.provider)

def SameOrder (p q : Payment) : Prop := ∃ key, orderIdentity p = some key ∧ orderIdentity q = some key

/-- The engine's group of a payment's order. -/
def orderGroup (indexes : PaymentIndexes) (p : Payment) : List Payment :=
  match orderKey p with
  | some key => indexes.paymentsByOrder.get key
  | none => []

/-! ## What a run treats as one -/

/-- A run recognises records by the matcher's identity: a settlement or a refund is
reported without a payment only when no payment is the same, and a payment's refunds and
duplicate orders are the ones that are. -/
structure OneIdentity (store : Store) (merchantId : Option String) (requests : List CaseRequest) : Prop where
  settlements : ∀ s ∈ store.settlements, orphanSettlementCase s ∈ requests →
    ∀ p ∈ store.payments, ¬SameIdentity s.provider s.providerPaymentId p.provider p.providerPaymentId
  refunds : ∀ x ∈ store.refunds, orphanRefundCase x ∈ requests →
    ∀ p ∈ store.payments, ¬SameIdentity x.provider x.providerPaymentId p.provider p.providerPaymentId
  collected : ∀ p ∈ store.payments, ∀ x ∈ store.refunds, x ∈ paymentRefunds (runIndexes store merchantId) p ↔
    SameIdentity x.provider x.providerPaymentId p.provider p.providerPaymentId
  duplicates : ∀ p ∈ store.payments, ∀ q ∈ store.payments, q ≠ p →
    (q ∈ orderGroup (runIndexes store merchantId) p ↔ SameOrder q p)

/-- The spellings do not get in the way. A settlement or refund that is some payment's has
a payment by key or by exact spelling, or else a match takes it; same identities have
the provider spelled alike, and blank ids are not taken for one another. -/
structure SpelledAlike (settings : Settings) (store : Store) (merchantId : Option String) : Prop where
  settlements : ∀ s ∈ store.settlements, ∀ p ∈ store.payments,
    SameIdentity s.provider s.providerPaymentId p.provider p.providerPaymentId →
      (∃ q, linkedPayment store s.paymentId s.provider s.providerPaymentId = some q) ∨
      (∀ t ∈ store.settlements,
        SameIdentity t.provider t.providerPaymentId p.provider p.providerPaymentId → t = s) ∨
      ∃ q ∈ store.payments, acceptedSettlements settings store merchantId q = {s}
  refunds : ∀ x ∈ store.refunds, ∀ p ∈ store.payments,
    SameIdentity x.provider x.providerPaymentId p.provider p.providerPaymentId →
      (∃ q, linkedPayment store x.paymentId x.provider x.providerPaymentId = some q) ∨
      ∃ q ∈ store.payments, groupKey x.provider x.providerPaymentId = groupKey q.provider q.providerPaymentId ∧
        ∃ s, acceptedSettlements settings store merchantId q = {s}
  refundProviders : ∀ p ∈ store.payments, ∀ x ∈ store.refunds,
    SameIdentity x.provider x.providerPaymentId p.provider p.providerPaymentId → x.provider = p.provider
  refundIds : ∀ p ∈ store.payments, ∀ x ∈ store.refunds,
    groupKey x.provider x.providerPaymentId = groupKey p.provider p.providerPaymentId →
      paymentIdKey p.providerPaymentId ≠ none
  orderProviders : ∀ p ∈ store.payments, ∀ q ∈ store.payments, SameOrder q p → q.provider = p.provider
  orderIds : ∀ p ∈ store.payments, ∀ q ∈ store.payments, q ≠ p →
    (∃ key, orderKey q = some key ∧ orderKey p = some key) → orderIdentity p ≠ none

/-! ## The engine's lookups -/

theorem normalize_of_paymentIdKey {id key : String} (named : paymentIdKey id = some key) : normalize (.str id) = some key :=
  ((paymentIdKey_eq_some_iff id key).mp named).2

theorem paymentIdKey_congr {id id' : String} (same : normalize (.str id) = normalize (.str id')) :
    paymentIdKey id = paymentIdKey id' := by
  rw [paymentIdKey, paymentIdKey, same]

/-- The engine's key is the same for records of one identity whose provider is spelled alike. -/
theorem groupKey_of_same {provider id provider' id' : String} (same : SameIdentity provider id provider' id')
    (spelled : provider = provider') : groupKey provider id = groupKey provider' id' := by
  obtain ⟨_, key, mine, theirs⟩ := sameIdentity_iff.mp same
  rw [groupKey, groupKey, spelled, normalize_of_paymentIdKey mine, normalize_of_paymentIdKey theirs]

theorem same_of_groupKey {provider id provider' id' : String} (key : groupKey provider id = groupKey provider' id')
    (named : paymentIdKey id' ≠ none) : SameIdentity provider id provider' id' := by
  obtain ⟨providers, ids⟩ := Prod.mk.inj key
  obtain ⟨this, found⟩ := Option.ne_none_iff_exists'.mp named
  exact sameIdentity_iff.mpr ⟨congrArg lower providers, this, (paymentIdKey_congr ids).trans found, found⟩

theorem not_same_of_blank {provider id provider' id' : String} (blank : paymentIdKey id' = none) :
    ¬SameIdentity provider id provider' id' := by
  intro same
  obtain ⟨_, key, _, theirs⟩ := sameIdentity_iff.mp same
  rw [blank] at theirs
  cases theirs

variable {order : SetOrder} {settings : Settings} {store : Store} {merchantId : Option String}

/-- Where a payment has settlements of its identity, those are what it accepts. -/
theorem acceptedSettlements_of_same {p : Payment} {s : Settlement} (read : s ∈ selectSettlements store (scopeOf merchantId))
    (same : SameIdentity s.provider s.providerPaymentId p.provider p.providerPaymentId) :
    acceptedSettlements settings store merchantId p = {t | t ∈ selectSettlements store (scopeOf merchantId) ∧
      SameIdentity t.provider t.providerPaymentId p.provider p.providerPaymentId} := by
  have first (t : Settlement) : ((t ∈ selectSettlements store (scopeOf merchantId) ∧ lower t.provider = lower p.provider) ∧
      ∃ paymentId, paymentId ≠ "" ∧ normalize (.str p.providerPaymentId) = some paymentId ∧
        normalize (.str t.providerPaymentId) = some paymentId) ↔
      t ∈ selectSettlements store (scopeOf merchantId) ∧
        SameIdentity t.provider t.providerPaymentId p.provider p.providerPaymentId := by
    simp only [sameIdentity_iff, paymentIdKey_eq_some_iff, and_assoc]
    refine and_congr_right fun _ => and_congr_right fun _ => exists_congr fun key => ?_
    tauto
  have inhabited : ¬∀ t, ¬(t ∈ selectSettlements store (scopeOf merchantId) ∧
      SameIdentity t.provider t.providerPaymentId p.provider p.providerPaymentId) := fun none => none s ⟨read, same⟩
  ext t
  simp only [acceptedSettlements, rankedRules, Tiers.decidingSet, Set.mem_ofPred_eq, first,
    Set.eq_empty_iff_forall_notMem, inhabited, false_and, or_false]

theorem Site.of_orphanSettlement {a : Record} {r : CaseRequest} (site : Site order settings store merchantId a r)
    (kind : r.caseType = .settlementWithoutPayment) :
    ∃ s, a = .settlement s ∧ (∀ p ∈ selectPayments store (scopeOf merchantId),
      acceptedSettlements settings store merchantId p ≠ {s}) ∧
      linkedPayment store s.paymentId s.provider s.providerPaymentId = none := by
  cases site with
  | payment _ found => exact absurd found.about.2.2 (by rw [kind]; decide)
  | duplicateRefund _ _ first found => cases kind.symm.trans (duplicateRefundGroupFindings_about first found).2.2.1
  | matched _ _ _ found => exact absurd (matchedFindings_about found).2.2 (by rw [kind]; decide)
  | orphanSettlement _ unmatched unlinked => exact ⟨_, rfl, unmatched, unlinked⟩
  | _ => cases kind

theorem Site.of_orphanRefund {a : Record} {r : CaseRequest} (site : Site order settings store merchantId a r)
    (kind : r.caseType = .refundWithoutPayment) :
    ∃ x, a = .refund x ∧ (∀ p ∈ selectPayments store (scopeOf merchantId),
      groupKey x.provider x.providerPaymentId = groupKey p.provider p.providerPaymentId →
        ∀ s, acceptedSettlements settings store merchantId p ≠ {s}) ∧
      linkedPayment store x.paymentId x.provider x.providerPaymentId = none := by
  cases site with
  | payment _ found => exact absurd found.about.2.2 (by rw [kind]; decide)
  | duplicateRefund _ _ first found => cases kind.symm.trans (duplicateRefundGroupFindings_about first found).2.2.1
  | matched _ _ _ found => exact absurd (matchedFindings_about found).2.2 (by rw [kind]; decide)
  | orphanRefund _ unmatched unlinked => exact ⟨_, rfl, unmatched, unlinked⟩
  | _ => cases kind

theorem orderKey_eq (p : Payment) : orderKey p = (p.providerOrderId.filter (· ≠ "")).map (groupKey p.provider) := by
  unfold orderKey
  cases order : p.providerOrderId with
  | none => rfl
  | some orderId => by_cases blank : orderId = "" <;> simp [blank, groupKey, Option.filter]

theorem sameOrder_iff (p q : Payment) :
    SameOrder q p ↔ ∃ mine theirs, q.providerOrderId.filter (· ≠ "") = some mine ∧
      p.providerOrderId.filter (· ≠ "") = some theirs ∧ SameIdentity q.provider mine p.provider theirs := by
  simp only [SameOrder, orderIdentity, Option.bind_eq_some_iff, SameIdentity]
  constructor
  · rintro ⟨key, ⟨mine, found, keyed⟩, theirs, found', keyed'⟩
    exact ⟨mine, theirs, found, found', key, keyed, keyed'⟩
  · rintro ⟨mine, theirs, found, found', key, keyed, keyed'⟩
    exact ⟨key, ⟨mine, found, keyed⟩, theirs, found', keyed'⟩

theorem orderKey_of_same {p q : Payment} (same : SameOrder q p) (spelled : q.provider = p.provider) :
    ∃ key, orderKey q = some key ∧ orderKey p = some key := by
  obtain ⟨mine, theirs, found, found', identical⟩ := (sameOrder_iff p q).mp same
  refine ⟨groupKey p.provider theirs, ?_, by rw [orderKey_eq, found', Option.map_some]⟩
  rw [orderKey_eq, found, Option.map_some, groupKey_of_same identical spelled]

theorem same_of_orderKey {p q : Payment} (key : ∃ key, orderKey q = some key ∧ orderKey p = some key)
    (named : orderIdentity p ≠ none) : SameOrder q p := by
  obtain ⟨k, keyed, keyed'⟩ := key
  rw [orderKey_eq, Option.map_eq_some_iff] at keyed keyed'
  obtain ⟨mine, found, same⟩ := keyed
  obtain ⟨theirs, found', same'⟩ := keyed'
  refine (sameOrder_iff p q).mpr ⟨mine, theirs, found, found', same_of_groupKey (same.trans same'.symm) fun blank => ?_⟩
  rw [orderIdentity, found', Option.bind_some, identity, blank] at named
  exact named rfl

theorem mem_orderGroup_iff (p q : Payment) : q ∈ orderGroup (runIndexes store merchantId) p ↔
    q ∈ selectPayments store (scopeOf merchantId) ∧ ∃ key, orderKey q = some key ∧ orderKey p = some key := by
  rw [orderGroup]
  cases mine : orderKey p with
  | none => simp
  | some key =>
    simp only [runIndexes, buildPaymentIndexes, MultiMap.mem_get_collect, Option.mem_toList]
    refine and_congr_right fun _ => ⟨fun keyed => ⟨key, keyed, rfl⟩, ?_⟩
    rintro ⟨other, keyed, same⟩
    exact keyed.trans same.symm

theorem mem_paymentRefunds_iff (p : Payment) (x : Refund) : x ∈ paymentRefunds (runIndexes store merchantId) p ↔
    x ∈ selectRefunds store (scopeOf merchantId) ∧
      groupKey x.provider x.providerPaymentId = groupKey p.provider p.providerPaymentId := by
  rw [runIndexes, paymentRefunds_eq, List.mem_filter, decide_eq_true_eq]

/-! ## A run -/

/-- The run reads every row: it is restricted to no merchant, or to the one they all belong to. -/
structure ReadsAll (store : Store) (merchantId : Option String) : Prop where
  payments : ∀ p ∈ store.payments, owned (scopeOf merchantId) p.merchantId = true
  refunds : ∀ x ∈ store.refunds, ownedOrLinked store (scopeOf merchantId) x.merchantId x.paymentId = true
  settlements : ∀ s ∈ store.settlements, ownedOrLinked store (scopeOf merchantId) s.merchantId s.paymentId = true

omit [Platform] in
theorem OwnedBy.readsAll {merchant : String} (own : OwnedBy merchant store)
    (scope : merchantId = none ∨ merchantId = some merchant) : ReadsAll store merchantId := by
  have mine := owned_scopeOf scope
  have linked (paymentId : Option String) : ownedOrLinked store (scopeOf merchantId) (some merchant) paymentId = true := by
    cases this : scopeOf merchantId with
    | none => rfl
    | some m =>
      rw [this, owned_some_iff] at mine
      exact ownedOrLinked_some_iff.mpr (.inl mine)
  exact ⟨fun p member => own.payments p member ▸ mine, fun x member => own.refunds x member ▸ linked _,
    fun s member => own.settlements s member ▸ linked _⟩

omit [Platform] in
theorem ReadsAll.reads (all : ReadsAll store merchantId) :
    (∀ p, p ∈ selectPayments store (scopeOf merchantId) ↔ p ∈ store.payments) ∧
      (∀ x, x ∈ selectRefunds store (scopeOf merchantId) ↔ x ∈ store.refunds) ∧
      ∀ s, s ∈ selectSettlements store (scopeOf merchantId) ↔ s ∈ store.settlements := by
  refine ⟨fun p => ?_, fun x => ?_, fun s => ?_⟩
  · rw [mem_selectPayments, and_iff_left_iff_imp]
    exact all.payments p
  · rw [mem_selectRefunds, and_iff_left_iff_imp]
    exact all.refunds x
  · rw [mem_selectSettlements, and_iff_left_iff_imp]
    exact all.settlements s

section Run
variable (all : ReadsAll store merchantId) {reviews : List PaymentReview}
  (reviewed : reviewPayments order settings store (scopeOf merchantId) = .ok reviews)
include all reviewed

theorem orphanSettlement_reported_iff {s : Settlement} (member : s ∈ store.settlements) :
    orphanSettlementCase s ∈ (surveyOf order settings store (scopeOf merchantId) reviews).findings.requests ↔
      (∀ p ∈ store.payments, acceptedSettlements settings store merchantId p ≠ {s}) ∧
        linkedPayment store s.paymentId s.provider s.providerPaymentId = none := by
  obtain ⟨payments, _, settlements⟩ := all.reads
  rw [mem_requests_iff_site reviewed]
  constructor
  · rintro ⟨a, site⟩
    have held := site.holds
    have id := site.recordId
    obtain ⟨t, rfl, unmatched, unlinked⟩ := site.of_orphanSettlement rfl
    cases List.inj_on_of_nodup_map store.settlementIds member held (Option.some.inj id)
    exact ⟨fun p inside => unmatched p ((payments p).mpr inside), unlinked⟩
  · rintro ⟨unmatched, unlinked⟩
    exact ⟨_, .orphanSettlement ((settlements s).mpr member)
      (fun p read => unmatched p ((payments p).mp read)) unlinked⟩

theorem orphanRefund_reported_iff {x : Refund} (member : x ∈ store.refunds) :
    orphanRefundCase x ∈ (surveyOf order settings store (scopeOf merchantId) reviews).findings.requests ↔
      (∀ p ∈ store.payments, groupKey x.provider x.providerPaymentId = groupKey p.provider p.providerPaymentId →
        ∀ s, acceptedSettlements settings store merchantId p ≠ {s}) ∧
        linkedPayment store x.paymentId x.provider x.providerPaymentId = none := by
  obtain ⟨payments, refunds, _⟩ := all.reads
  rw [mem_requests_iff_site reviewed]
  constructor
  · rintro ⟨a, site⟩
    have held := site.holds
    have id := site.recordId
    obtain ⟨y, rfl, unmatched, unlinked⟩ := site.of_orphanRefund rfl
    cases List.inj_on_of_nodup_map store.refundIds member held (Option.some.inj id)
    exact ⟨fun p inside => unmatched p ((payments p).mpr inside), unlinked⟩
  · rintro ⟨unmatched, unlinked⟩
    exact ⟨_, .orphanRefund ((refunds x).mpr member) (fun p read => unmatched p ((payments p).mp read)) unlinked⟩

end Run

/-- A run over all the records of a store, such as those of one merchant, recognises them by the matcher's identity
exactly when their spellings do not get in the way. -/
theorem one_identity_iff [Hashing] (all : ReadsAll store merchantId) {draws : Nat → Draw} {cases : CaseStore}
    {report : Report} (ran : runReconciliation order settings draws store merchantId cases = .ok report) :
    OneIdentity store merchantId report.survey.findings.requests ↔ SpelledAlike settings store merchantId := by
  obtain ⟨reviews, reviewed, found, _⟩ := runReconciliation_ok ran
  obtain ⟨payments, refunds, settlements⟩ := all.reads
  rw [found]
  constructor
  · intro one
    refine ⟨fun s member p inside same => ?_, fun x member p inside same => ?_, fun p inside x member same => ?_,
      fun p inside x member key => ?_, fun p inside q member same => ?_, fun p inside q member apart key => ?_⟩
    · by_contra none
      simp only [not_or, not_exists, not_and] at none
      have unlinked := Option.eq_none_iff_forall_ne_some.mpr none.1
      exact one.settlements s member ((orphanSettlement_reported_iff all reviewed member).mpr
        ⟨none.2.2, unlinked⟩) p inside same
    · by_contra none
      simp only [not_or, not_exists, not_and] at none
      have unlinked := Option.eq_none_iff_forall_ne_some.mpr none.1
      exact one.refunds x member ((orphanRefund_reported_iff all reviewed member).mpr
        ⟨none.2, unlinked⟩) p inside same
    · have grouped := ((mem_paymentRefunds_iff p x).mp ((one.collected p inside x member).mpr same)).2
      exact congrArg Prod.fst grouped
    · intro blank
      exact not_same_of_blank blank ((one.collected p inside x member).mp
        ((mem_paymentRefunds_iff p x).mpr ⟨(refunds x).mpr member, key⟩))
    · by_cases itself : q = p
      · rw [itself]
      · obtain ⟨_, key, keyed, keyed'⟩ := (mem_orderGroup_iff p q).mp ((one.duplicates p inside q member itself).mpr same)
        rw [orderKey_eq, Option.map_eq_some_iff] at keyed keyed'
        obtain ⟨_, _, rfl⟩ := keyed
        obtain ⟨_, _, other⟩ := keyed'
        exact (congrArg Prod.fst other).symm
    · intro blank
      obtain ⟨_, _, keyed⟩ := (one.duplicates p inside q member apart).mp
        ((mem_orderGroup_iff p q).mpr ⟨(payments q).mpr member, key⟩)
      rw [blank] at keyed
      cases keyed
  · intro alike
    refine ⟨fun s member orphan p inside same => ?_, fun x member orphan p inside same => ?_,
      fun p inside x member => ?_, fun p inside q member apart => ?_⟩
    · obtain ⟨unmatched, unlinked⟩ := (orphanSettlement_reported_iff all reviewed member).mp orphan
      rcases alike.settlements s member p inside same with ⟨q, linked⟩ | only | ⟨q, taking, alone⟩
      · cases unlinked.symm.trans linked
      · refine unmatched p inside ?_
        rw [acceptedSettlements_of_same ((settlements s).mpr member) same]
        refine Set.eq_singleton_iff_unique_mem.mpr ⟨⟨(settlements s).mpr member, same⟩, fun t ⟨read, also⟩ => ?_⟩
        exact only t ((settlements t).mp read) also
      · exact unmatched q taking alone
    · obtain ⟨unmatched, unlinked⟩ := (orphanRefund_reported_iff all reviewed member).mp orphan
      rcases alike.refunds x member p inside same with ⟨q, linked⟩ | ⟨q, taking, key, s, alone⟩
      · cases unlinked.symm.trans linked
      · exact unmatched q taking key s alone
    · rw [mem_paymentRefunds_iff]
      constructor
      · exact fun ⟨_, key⟩ => same_of_groupKey key (alike.refundIds p inside x member key)
      · exact fun same => ⟨(refunds x).mpr member, groupKey_of_same same (alike.refundProviders p inside x member same)⟩
    · rw [mem_orderGroup_iff]
      constructor
      · exact fun ⟨_, key⟩ => same_of_orderKey key (alike.orderIds p inside q member apart key)
      · exact fun same => ⟨(payments q).mpr member, orderKey_of_same same (alike.orderProviders p inside q member same)⟩

end Platform

section Examples
open PlainText

/-- A settled payment, and a refund of it whose provider is written with a capital. -/
def capitalRefund : Store where
  payments := [clearedPayment]
  settlements := [clearedPayout]
  refunds := [{ partialRefund with provider := "Razorpay" }]
  paymentNamed := clearedPayment_named
  settlementNamed := clearedPayout_named

theorem capitalRefund_owned : OwnedBy "m1" capitalRefund := ⟨by decide, by decide, by decide⟩

theorem capitalRefund_ran : ∃ report, runReconciliation .insertion {} draws capitalRefund (some "m1") .empty = .ok report ∧
    report.survey.findings.requests = [orphanRefundCase { partialRefund with provider := "Razorpay" }] :=
  Outcome.exists_ok_of_map (by decide +kernel)

theorem one_identity_iff_capitalRefund :
    ∃ report, runReconciliation .insertion {} draws capitalRefund (some "m1") .empty = .ok report ∧
      (OneIdentity capitalRefund (some "m1") report.survey.findings.requests ↔
        SpelledAlike {} capitalRefund (some "m1")) := by
  obtain ⟨report, ran, _⟩ := capitalRefund_ran
  exact ⟨report, ran, one_identity_iff (capitalRefund_owned.readsAll (.inr rfl)) ran⟩

/-- The refund is reported as one without a payment. -/
theorem capital_refund_is_orphaned :
    ¬∀ report, runReconciliation .insertion {} draws capitalRefund (some "m1") .empty = .ok report →
      OneIdentity capitalRefund (some "m1") report.survey.findings.requests := by
  intro law
  obtain ⟨report, ran, evaluated⟩ := capitalRefund_ran
  refine (law report ran).refunds { partialRefund with provider := "Razorpay" } (by simp [capitalRefund])
    (by rw [evaluated]; exact List.mem_singleton_self _) clearedPayment (by simp [capitalRefund]) ?_
  exact ⟨("razorpay", "pay_1"), by decide, by decide⟩

end Examples
end RCAA
