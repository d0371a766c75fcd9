import RCAA.Reconciliation.EngineProofs

/-! Which settlement a run counts as the match of which payment, and which bank row
as the payout of which settlement. Neither is consumed: each payment and each payout
is decided on its own, so one record can answer several. -/

namespace RCAA

section Platform
variable [Platform]

/-! ## Payments and settlements -/

/-- The settlements a payment's first accepting rule accepts, among those the run reads. -/
def acceptedSettlements (settings : Settings) (store : Store) (merchantId : Option String) (payment : Payment) :
    Set Settlement :=
  Tiers.decidingSet (rankedRules settlementReferences settings.rules payment
    (selectSettlements store (scopeOf merchantId)))

theorem decidingTier_eq_singleton_iff (settings : Settings) (store : Store) (merchantId : Option String)
    (payment : Payment) (s : Settlement) :
    decidingTier settings.rules payment (selectSettlements store (scopeOf merchantId)) = [s] ↔
      acceptedSettlements settings store merchantId payment = {s} := by
  rw [acceptedSettlements, ← tiersWith_members, ← Tiers.members_deciding]
  exact Tiers.eq_singleton_iff
    ((nodup_decidingTier (selectSettlements_ids store _) settings.rules payment).of_map Settlement.id) s

/-! ## Settlements and bank rows -/

/-- The rules that link a payout to bank rows, in rank order. -/
def payoutRules (settings : Settings) (s : Settlement) (bank : List BankTransaction) : List (Set BankTransaction) :=
  [{b | b ∈ bank ∧ ∃ ref ∈ payoutReferences s, ref ∈ bankReferences b ∨ bankUtr b = some ref},
    {b | b ∈ bank ∧ upper b.currency = settlementCurrency s ∧
      |b.eventTimestamp.localNaive - s.settledAt.localNaive| / DateTime.day ≤ max 7 settings.settlementWindowDays ∧
      |b.amount.toRat - s.netAmount.toRat| ≤ settings.reconciliationAmountTolerance.toRat}]

/-- The bank rows a settlement's first accepting rule accepts, among those the run reads. -/
def acceptedBankRows (settings : Settings) (store : Store) (merchantId : Option String) (s : Settlement) :
    Set BankTransaction :=
  Tiers.decidingSet (payoutRules settings s (selectBank store (scopeOf merchantId)))

theorem closeToPayout_iff (settings : Settings) (s : Settlement) (b : BankTransaction) :
    closeToPayout settings s b = true ↔
      |b.eventTimestamp.localNaive - s.settledAt.localNaive| / DateTime.day ≤ max 7 settings.settlementWindowDays ∧
        |b.amount.toRat - s.netAmount.toRat| ≤ settings.reconciliationAmountTolerance.toRat := by
  simp only [closeToPayout, Bool.and_eq_true, decide_eq_true_eq, Decimal.le_iff, Decimal.toRat_abs, Decimal.toRat_sub,
    Settings.rules]

theorem payoutTier_members (settings : Settings) (s : Settlement) (bank : List BankTransaction) :
    Tiers.members (payoutTier settings s bank) = Tiers.decidingSet (payoutRules settings s bank) := by
  rw [payoutTier, Tiers.members_deciding]
  congr 1
  simp only [payoutRules, List.map_cons, List.map_nil, List.cons.injEq, and_true]
  constructor <;> ext b <;> simp only [Tiers.members, Set.mem_ofPred_eq, List.mem_filter, decide_eq_true_eq]
  · rfl
  · rw [closeToPayout_iff]

theorem bankCandidates_eq_singleton_iff (order : SetOrder) (settings : Settings) (store : Store)
    (merchantId : Option String) (s : Settlement) (b : BankTransaction) :
    bankCandidates order settings (buildBankIndexes order (selectBank store (scopeOf merchantId))) s = [b] ↔
      acceptedBankRows settings store merchantId s = {b} := by
  have same := bankCandidates_perm order settings (selectBank_ids store (scopeOf merchantId)) s
  have distinct : (payoutTier settings s (selectBank store (scopeOf merchantId))).Nodup :=
    ((selectBank_ids store (scopeOf merchantId)).of_map BankTransaction.id).sublist (payoutTier_sublist _ _ _)
  rw [acceptedBankRows, ← payoutTier_members, ← Tiers.eq_singleton_iff distinct]
  constructor
  · intro single
    rw [single] at same
    exact (List.singleton_perm.mp same).symm
  · intro single
    rw [single] at same
    exact List.perm_singleton.mp same

theorem reviewBank_settlement (order : SetOrder) (settings : Settings) (store : Store) (indexes : BankIndexes)
    (s : Settlement) : (reviewBank order settings store indexes s).settlement = s := by
  rcases candidates : bankCandidates order settings indexes s with _ | ⟨b, _ | ⟨c, rest⟩⟩ <;>
    simp only [reviewBank, candidates]
  split <;> rfl

theorem reviewBank_matched_iff (order : SetOrder) (settings : Settings) (store : Store) (indexes : BankIndexes)
    (s : Settlement) (b : BankTransaction) :
    (reviewBank order settings store indexes s).matched = true ∧
        (reviewBank order settings store indexes s).taken = some b ↔
      bankCandidates order settings indexes s = [b] ∧ paysOut s b = true := by
  rcases candidates : bankCandidates order settings indexes s with _ | ⟨c, _ | ⟨d, rest⟩⟩ <;>
    simp only [reviewBank, candidates]
  · simp
  · split
    · next pays =>
      simp only [true_and, Option.some.injEq, List.cons.injEq, and_true]
      exact ⟨fun same => ⟨same, same ▸ pays⟩, And.left⟩
    · next short =>
      simp only [Bool.false_eq_true, false_and, List.cons.injEq, and_true, false_iff]
      rintro ⟨rfl, pays⟩
      exact short pays
  · simp

theorem paysOut_iff (s : Settlement) (b : BankTransaction) :
    paysOut s b = true ↔ b.amount.toRat = s.netAmount.toRat ∧ upper b.currency = settlementCurrency s := by
  simp only [paysOut, Bool.and_eq_true, Decimal.numEq_iff, beq_iff_eq]

/-! ## A run -/

variable [Hashing]

/-- A run reviews every payment in scope and matches it to a settlement exactly when its
first accepting rule accepts no other; the matches of two payments coincide exactly
when those rules accept the same settlement alone. -/
theorem matched_settlements_coincide_iff {order : SetOrder} {settings : Settings} {draws : Nat → Draw} {store : Store}
    {merchantId : Option String} {cases : CaseStore} {report : Report}
    (ran : runReconciliation order settings draws store merchantId cases = .ok report) :
    (∀ p, (∃ review ∈ report.survey.payments, review.payment = p) ↔ p ∈ selectPayments store (scopeOf merchantId)) ∧
    (∀ review ∈ report.survey.payments, ∀ s, review.matched = some s ↔
      acceptedSettlements settings store merchantId review.payment = {s}) ∧
    ∀ a ∈ report.survey.payments, ∀ b ∈ report.survey.payments, ∀ s t, a.matched = some s → b.matched = some t →
      (s.id ≠ t.id ↔ acceptedSettlements settings store merchantId a.payment ≠
        acceptedSettlements settings store merchantId b.payment) := by
  obtain ⟨reviews, reviewed, found, _⟩ := runReconciliation_ok ran
  have payments : report.survey.payments = reviews := by rw [found]; rfl
  have matched : ∀ review ∈ reviews, ∀ s, review.matched = some s ↔
      acceptedSettlements settings store merchantId review.payment = {s} := fun review member s => by
    rw [matched_iff reviewed member, decidingTier_eq_singleton_iff]
  rw [payments]
  refine ⟨fun p => ?_, matched, fun a ha b hb s t first second => ?_⟩
  · have every := reviewPayments_forall₂ reviewed
    constructor
    · rintro ⟨review, member, rfl⟩
      obtain ⟨payment, inside, this⟩ := Outcome.forall₂_right every member
      rwa [(reviewOf_matched_iff this).1]
    · intro inside
      obtain ⟨review, member, this⟩ := Outcome.forall₂_left every inside
      exact ⟨review, member, (reviewOf_matched_iff this).1⟩
  · have alone := (matched a ha s).mp first
    have alone' := (matched b hb t).mp second
    rw [alone, alone', ne_eq, ne_eq, Set.singleton_eq_singleton_iff]
    have inside (u : Settlement) (c : PaymentReview) (accepted : decidingTier settings.rules c.payment
        (selectSettlements store (scopeOf merchantId)) = [u]) : u ∈ selectSettlements store (scopeOf merchantId) :=
      (mem_decidingTier (s := u) (by rw [accepted]; simp)).1
    have ms := inside s a ((matched_iff reviewed ha s).mp first)
    have mt := inside t b ((matched_iff reviewed hb t).mp second)
    constructor
    · exact fun differ same => differ (congrArg Settlement.id same)
    · exact fun differ same => differ (List.inj_on_of_nodup_map (selectSettlements_ids store _) ms mt same)

end Platform

section Examples
open PlainText

def firstAttempt : Payment where
  id := "p1"
  provider := "razorpay"
  providerPaymentId := "pay_1"
  providerOrderId := some "order_1"
  amount := ⟨10000, -2⟩
  status := "captured"
  createdAt := ⟨0, none⟩

def secondAttempt : Payment := { firstAttempt with id := "p2", providerPaymentId := "pay_2" }

def orderSettlement : Settlement where
  id := "s1"
  provider := "razorpay"
  providerSettlementId := "setl_1"
  providerPaymentId := "pay_9"
  grossAmount := ⟨10000, -2⟩
  netAmount := ⟨10000, -2⟩
  status := "processed"
  settledAt := ⟨0, none⟩
  rawData := [("order_id", .str "order_1")]

/-- Two payment attempts for one order, and one settlement that names the order. -/
def sharedOrder : Store where
  payments := [firstAttempt, secondAttempt]
  settlements := [orderSettlement]

theorem sharedOrder_ran : ∃ report, runReconciliation .insertion {} draws sharedOrder none .empty = .ok report ∧
    report.survey.payments.map (fun review => (review.payment.id, review.matched)) =
      [("p1", some orderSettlement), ("p2", some orderSettlement)] :=
  Outcome.exists_ok_of_map (by decide +kernel)

theorem matched_settlements_coincide_iff_sharedOrder :
    ∃ report, runReconciliation .insertion {} draws sharedOrder none .empty = .ok report ∧
      ∀ a ∈ report.survey.payments, ∀ b ∈ report.survey.payments, ∀ s t, a.matched = some s → b.matched = some t →
        (s.id ≠ t.id ↔ acceptedSettlements {} sharedOrder none a.payment ≠ acceptedSettlements {} sharedOrder none b.payment) := by
  obtain ⟨report, ran, _⟩ := sharedOrder_ran
  exact ⟨report, ran, (matched_settlements_coincide_iff ran).2.2⟩

/-- The one settlement clears both payments. -/
theorem one_settlement_matches_two_payments :
    ¬∀ report, runReconciliation .insertion {} draws sharedOrder none .empty = .ok report →
      ∀ a ∈ report.survey.payments, ∀ b ∈ report.survey.payments, a.payment.id ≠ b.payment.id →
        ∀ s t, a.matched = some s → b.matched = some t → s.id ≠ t.id := by
  intro differ
  obtain ⟨report, ran, evaluated⟩ := sharedOrder_ran
  obtain ⟨a, rest, whole, first, more⟩ := List.map_eq_cons_iff.mp evaluated
  obtain ⟨b, _, rfl, second, _⟩ := List.map_eq_cons_iff.mp more
  simp only [Prod.mk.injEq] at first second
  exact differ report ran a (by simp [whole]) b (by simp [whole]) (by simp [first.1, second.1]) _ _ first.2 second.2 rfl

end Examples

section Platform
variable [Platform] [Hashing]

/-- A run's bank leg reads every settlement the scope owns and counts a bank row as its
payout exactly when the first accepting rule accepts no other row and that row pays
the net amount in the settlement's currency; the payouts of two settlements coincide
exactly when those rules accept the same row alone. -/
theorem payouts_coincide_iff {order : SetOrder} {settings : Settings} {draws : Nat → Draw} {store : Store}
    {merchantId : Option String} {cases : CaseStore} {report : Report}
    (ran : runReconciliation order settings draws store merchantId cases = .ok report) :
    (∀ s, (∃ review ∈ report.survey.bank, review.settlement = s) ↔
      s ∈ selectSettlements store (scopeOf merchantId) ∧ owned (scopeOf merchantId) s.merchantId = true) ∧
    (∀ review ∈ report.survey.bank, ∀ b, (review.matched = true ∧ review.taken = some b) ↔
      acceptedBankRows settings store merchantId review.settlement = {b} ∧
        b.amount.toRat = review.settlement.netAmount.toRat ∧
        upper b.currency = settlementCurrency review.settlement) ∧
    ∀ r ∈ report.survey.bank, ∀ q ∈ report.survey.bank, r.matched = true → q.matched = true →
      ∀ b c, r.taken = some b → q.taken = some c →
      (b.id ≠ c.id ↔ acceptedBankRows settings store merchantId r.settlement ≠
        acceptedBankRows settings store merchantId q.settlement) := by
  obtain ⟨reviews, _, found, _⟩ := runReconciliation_ok ran
  have leg : report.survey.bank = reviewBankLeg order settings store (scopeOf merchantId) := by rw [found]; rfl
  have matched : ∀ review ∈ report.survey.bank, ∀ b, (review.matched = true ∧ review.taken = some b) ↔
      acceptedBankRows settings store merchantId review.settlement = {b} ∧ paysOut review.settlement b = true := by
    rw [leg]
    intro review member b
    obtain ⟨s, _, rfl⟩ := List.mem_map.mp member
    rw [reviewBank_matched_iff, bankCandidates_eq_singleton_iff, reviewBank_settlement]
  refine ⟨fun s => ?_, fun review member b => ?_, fun r hr q hq matchedR matchedQ b c takenR takenQ => ?_⟩
  · rw [leg, reviewBankLeg]
    simp only [List.mem_map, exists_exists_and_eq_and, reviewBank_settlement, exists_eq_right, List.mem_filter]
  · rw [matched review member b, paysOut_iff]
  · have alone := ((matched r hr b).mp ⟨matchedR, takenR⟩).1
    have alone' := ((matched q hq c).mp ⟨matchedQ, takenQ⟩).1
    rw [alone, alone', ne_eq, ne_eq, Set.singleton_eq_singleton_iff]
    have inside (x : BankTransaction) (s : Settlement)
        (accepted : acceptedBankRows settings store merchantId s = {x}) : x ∈ selectBank store (scopeOf merchantId) := by
      have candidate := bankCandidates_perm order settings (selectBank_ids store (scopeOf merchantId)) s
      rw [(bankCandidates_eq_singleton_iff order settings store merchantId s x).mpr accepted] at candidate
      exact (payoutTier_sublist _ _ _).subset (candidate.mem_iff.mp (List.mem_singleton.mpr rfl))
    constructor
    · exact fun differ same => differ (congrArg BankTransaction.id same)
    · exact fun differ same =>
        differ (List.inj_on_of_nodup_map (selectBank_ids store _) (inside b _ alone) (inside c _ alone') same)

end Platform

section Examples
open PlainText

def firstPayout : Settlement where
  id := "s1"
  provider := "razorpay"
  providerSettlementId := "setl_1"
  providerPaymentId := "pay_1"
  grossAmount := ⟨10000, -2⟩
  netAmount := ⟨10000, -2⟩
  status := "processed"
  settledAt := ⟨0, none⟩
  utr := some "utr_1"

def secondPayout : Settlement := { firstPayout with id := "s2", providerSettlementId := "setl_2", providerPaymentId := "pay_2" }

def singleCredit : BankTransaction where
  id := "b1"
  externalId := "bank_1"
  amount := ⟨10000, -2⟩
  eventTimestamp := ⟨0, none⟩
  metadataJson := .object [("utr", .str "UTR_1")]

/-- Two equal payouts under one UTR, and one bank credit. -/
def sharedUtr : Store where
  settlements := [firstPayout, secondPayout]
  bankTransactions := [singleCredit]

theorem sharedUtr_ran : ∃ report, runReconciliation .insertion {} draws sharedUtr none .empty = .ok report ∧
    report.survey.bank.map (fun review => (review.settlement.id, review.matched, review.taken)) =
      [("s1", true, some singleCredit), ("s2", true, some singleCredit)] :=
  Outcome.exists_ok_of_map (by decide +kernel)

theorem payouts_coincide_iff_sharedUtr :
    ∃ report, runReconciliation .insertion {} draws sharedUtr none .empty = .ok report ∧
      ∀ r ∈ report.survey.bank, ∀ q ∈ report.survey.bank, r.matched = true → q.matched = true →
        ∀ b c, r.taken = some b → q.taken = some c → (b.id ≠ c.id ↔
          acceptedBankRows {} sharedUtr none r.settlement ≠ acceptedBankRows {} sharedUtr none q.settlement) := by
  obtain ⟨report, ran, _⟩ := sharedUtr_ran
  exact ⟨report, ran, (payouts_coincide_iff ran).2.2⟩

/-- The one credit pays both settlements. -/
theorem one_credit_pays_two_settlements :
    ¬∀ report, runReconciliation .insertion {} draws sharedUtr none .empty = .ok report →
      ∀ r ∈ report.survey.bank, ∀ q ∈ report.survey.bank, r.settlement.id ≠ q.settlement.id →
        r.matched = true → q.matched = true → ∀ b c, r.taken = some b → q.taken = some c → b.id ≠ c.id := by
  intro differ
  obtain ⟨report, ran, evaluated⟩ := sharedUtr_ran
  obtain ⟨r, rest, whole, first, more⟩ := List.map_eq_cons_iff.mp evaluated
  obtain ⟨q, _, rfl, second, _⟩ := List.map_eq_cons_iff.mp more
  simp only [Prod.mk.injEq] at first second
  exact differ report ran r (by simp [whole]) q (by simp [whole]) (by simp [first.1, second.1]) first.2.1 second.2.1
    _ _ first.2.2 second.2.2 rfl

end Examples
end RCAA
