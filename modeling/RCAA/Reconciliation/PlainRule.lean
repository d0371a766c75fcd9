import RCAA.Reconciliation.Distinct

/-! The bank leg as a plain rule over settlements and bank rows, and that a run's indexes,
set-valued references and deduplication record exactly what the rule asks for. -/

namespace RCAA

/-! ## The rule -/

section Rule
variable [Platform] (settings : Settings) (store : Store)

/-- The settlement's id or its UTR, normalized, is one of the references of the bank row. -/
def NamedBy (s : Settlement) (b : BankTransaction) : Prop :=
  ∃ ref, ref ≠ "" ∧
    (normalize (.str s.providerSettlementId) = some ref ∨ normalize (.ofOption s.utr) = some ref) ∧
    (normalize (.ofOption b.reference) = some ref ∨
      normalize (b.metadataJson.fields.get "settlement_reference") = some ref ∨
      normalize (b.metadataJson.fields.get "settlement_id") = some ref ∨
      normalize (b.metadataJson.fields.get "utr") = some ref)

/-- Whole days between the wall times of the row and the settlement. -/
def wholeDays (s : Settlement) (b : BankTransaction) : Int := |b.eventTimestamp.wall - s.settledAt.wall| / DateTime.day

def NearPayout (s : Settlement) (b : BankTransaction) : Prop :=
  upper b.currency = settlementCurrency s ∧ wholeDays s b ≤ max 7 settings.settlementWindowDays ∧
    |b.amount.toRat - s.netAmount.toRat| ≤ settings.reconciliationAmountTolerance.toRat

/-- The rows named by the settlement or, where there is none, those near its payout. -/
def plainCandidates (s : Settlement) : Set BankTransaction :=
  {b | b ∈ store.bankTransactions ∧ (NamedBy s b ∨ (∀ c ∈ store.bankTransactions, ¬NamedBy s c) ∧ NearPayout settings s b)}

/-- What a case is compared by: its kind, its source, and its two amounts. -/
structure Outline where
  kind : CaseType
  source : String
  expected : Decimal
  actual : Decimal

/-- A record's source is the payment it is linked to, if that is stored. -/
def sourceOf (paymentId : Option String) (recordId : String) : String :=
  match store.getPayment paymentId with
  | some p => p.id
  | none => recordId

inductive PlainBankCase : Outline → Prop
  | ambiguous {s : Settlement} (member : s ∈ store.settlements) (several : (plainCandidates settings store s).Nontrivial) :
      PlainBankCase ⟨.bankAmbiguousMatch, sourceOf store s.paymentId s.id, s.netAmount, .zero⟩
  | mismatch {s : Settlement} {b : BankTransaction} (member : s ∈ store.settlements)
      (alone : plainCandidates settings store s = {b})
      (differs : ¬(b.amount.toRat = s.netAmount.toRat ∧ upper b.currency = settlementCurrency s)) :
      PlainBankCase ⟨.bankSettlementMismatch, sourceOf store s.paymentId b.id, s.netAmount, b.amount⟩
  | withoutSettlement {b : BankTransaction} (member : b ∈ store.bankTransactions) (credit : 0 < b.amount.toRat)
      (unexplained : ∀ s ∈ store.settlements, plainCandidates settings store s ≠ {b}) :
      PlainBankCase ⟨.bankWithoutSettlement, b.id, .zero, b.amount⟩

end Rule

/-! ## The code's candidates -/

section Platform
variable [Platform]

theorem mem_referenceSet_iff (values : List Scalar) (ref : String) :
    ref ∈ referenceSet values ↔ ref ≠ "" ∧ ∃ value ∈ values, normalize value = some ref := by
  simp only [referenceSet, List.mem_dedup, List.mem_filter, List.mem_filterMap, decide_eq_true_eq, and_comm]

theorem bankUtr_eq_some_iff (b : BankTransaction) (ref : String) :
    bankUtr b = some ref ↔ ref ≠ "" ∧ normalize (b.metadataJson.fields.get "utr") = some ref := by
  simp only [bankUtr, Option.filter_eq_some_iff, decide_eq_true_eq, and_comm]

/-- The indexes' references are those of the rule. -/
theorem referenced_iff_namedBy (s : Settlement) (b : BankTransaction) : Referenced s b ↔ NamedBy s b := by
  simp only [Referenced, NamedBy, payoutReferences, bankReferences, mem_referenceSet_iff, bankUtr_eq_some_iff,
    List.mem_cons, List.not_mem_nil, or_false, exists_eq_or_imp, exists_eq_left]
  refine exists_congr fun ref => ?_
  tauto

/-- Every row belongs to the merchant. -/
structure WhollyOwned (merchant : String) (store : Store) : Prop extends OwnedBy merchant store where
  bank : ∀ b ∈ store.bankTransactions, b.merchantId = some merchant

/-- Neither the settlements nor the bank rows say their offset. -/
structure NaiveTimes (store : Store) : Prop where
  settlements : ∀ s ∈ store.settlements, s.settledAt.offset = none
  bank : ∀ b ∈ store.bankTransactions, b.eventTimestamp.offset = none

section Owned
variable {merchant : String} {merchantId : Option String} {store : Store} (own : WhollyOwned merchant store)
  (scope : merchantId = none ∨ merchantId = some merchant)
include own scope

omit [Platform] in
theorem mem_bankLegSettlements_owned (s : Settlement) : s ∈ bankLegSettlements store merchantId ↔ s ∈ store.settlements := by
  rw [mem_bankLegSettlements, and_iff_left_iff_imp]
  intro member
  rw [own.settlements s member]
  exact owned_scopeOf scope

omit [Platform] in
theorem mem_selectBank_owned (b : BankTransaction) :
    b ∈ selectBank store (scopeOf merchantId) ↔ b ∈ store.bankTransactions := by
  rw [mem_selectBank, and_iff_left_iff_imp]
  intro member
  rw [own.bank b member]
  exact owned_scopeOf scope

/-- What the first accepting rule of a run accepts is what the plain rule names. -/
theorem acceptedBankRows_eq_plain (naive : NaiveTimes store) (settings : Settings) {s : Settlement}
    (member : s ∈ store.settlements) : acceptedBankRows settings store merchantId s = plainCandidates settings store s := by
  have wall {b : BankTransaction} (inside : b ∈ store.bankTransactions) :
      |b.eventTimestamp.localNaive - s.settledAt.localNaive| / DateTime.day = wholeDays s b := by
    simp only [wholeDays, DateTime.localNaive, naive.settlements s member, naive.bank b inside]
  have named (b : BankTransaction) : (∃ ref ∈ payoutReferences s, ref ∈ bankReferences b ∨ bankUtr b = some ref) ↔
      NamedBy s b := referenced_iff_namedBy s b
  ext b
  simp only [acceptedBankRows, payoutRules, named, Tiers.decidingSet, plainCandidates, Set.mem_ofPred_eq,
    Set.mem_empty_iff_false, and_false, or_false, Set.eq_empty_iff_forall_notMem, not_and,
    mem_selectBank_owned own scope, NearPayout]
  constructor
  · rintro (⟨inside, this⟩ | ⟨none, inside, near⟩)
    · exact ⟨inside, .inl this⟩
    · exact ⟨inside, .inr ⟨none, wall inside ▸ near⟩⟩
  · rintro ⟨inside, this | ⟨none, near⟩⟩
    · exact .inl ⟨inside, this⟩
    · exact .inr ⟨none, inside, (wall inside).symm ▸ near⟩

end Owned

/-! ## The outlines a run records -/

/-- The source key of a stored case: its payment, or else its record. -/
def CaseContent.sourceKey (c : CaseContent) : String :=
  match c.paymentId with
  | some paymentId => paymentId
  | none => match c.recordId with
    | none => "none"
    | some recordId => if recordId = "" then "none" else recordId

def CaseRequest.outline (r : CaseRequest) : Outline := ⟨r.caseType, r.sourceKey, r.expected, r.actual⟩

/-- The outlines of the bank leg's cases. -/
def bankOutlines (cases : CaseStore) : Set Outline :=
  {o | o.kind ∈ bankLegCases ∧ ∃ c ∈ cases.contents, c.caseType = o.kind.name ∧ c.sourceKey = o.source ∧
    c.expectedAmount = o.expected ∧ c.actualAmount = o.actual}

omit [Platform] in
theorem sourceKey_content [Hashing] (r : CaseRequest) : r.content.sourceKey = r.sourceKey := by
  simp only [CaseContent.sourceKey, CaseRequest.content, CaseRequest.sourceKey]
  cases r.payment <;> rfl

omit [Platform] in
theorem outline_eq_of_payload {q r : CaseRequest} (same : q.fingerprintPayload = r.fingerprintPayload) :
    q.outline = r.outline := by
  simp only [CaseRequest.fingerprintPayload, FingerprintPayload.mk.injEq, CaseType.name_injective.eq_iff,
    Decimal.str_injective.eq_iff] at same
  obtain ⟨source, _, kind, expected, actual, _⟩ := same
  simp only [CaseRequest.outline, Outline.mk.injEq]
  exact ⟨kind, source, expected, actual⟩

omit [Platform] in
/-- The source of a bank case is the payment its settlement is linked to, or the record. -/
theorem sourceKey_linked {store : Store} {paymentId : Option String} {r : CaseRequest} {recordId : String}
    (payment : r.payment = store.getPayment paymentId) (record : r.recordId = some recordId) (named : recordId ≠ "") :
    r.sourceKey = sourceOf store paymentId recordId := by
  unfold CaseRequest.sourceKey sourceOf
  rw [payment, record]
  cases store.getPayment paymentId with
  | none => exact if_neg named
  | some payment => rfl

/-- The bank leg reports exactly the outlines the plain rule asks for. -/
theorem reported_outline_iff {merchant : String} {merchantId : Option String} {store : Store}
    (own : WhollyOwned merchant store) (scope : merchantId = none ∨ merchantId = some merchant) (naive : NaiveTimes store)
    {order : SetOrder} {settings : Settings} {reviews : List PaymentReview}
    (reviewed : reviewPayments order settings store (scopeOf merchantId) = .ok reviews) (o : Outline) :
    (o.kind ∈ bankLegCases ∧
      ∃ r ∈ (surveyOf order settings store (scopeOf merchantId) reviews).findings.requests, r.outline = o) ↔
      PlainBankCase settings store o := by
  have plain {s : Settlement} (member : s ∈ store.settlements) :
      acceptedBankRows settings store merchantId s = plainCandidates settings store s :=
    acceptedBankRows_eq_plain own scope naive settings member
  simp only [mem_requests_iff_site reviewed]
  constructor
  · rintro ⟨kind, r, ⟨record, site⟩, rfl⟩
    change r.caseType ∈ bankLegCases at kind
    cases site with
    | payment _ found =>
      have loop := found.about.2.2
      cases case : r.caseType <;> simp [case, bankLegCases, paymentCases] at kind loop
    | duplicateRefund _ _ first found =>
      simp [(duplicateRefundGroupFindings_about first found).2.2.1, bankLegCases] at kind
    | matched _ _ _ found =>
      have loop := (matchedFindings_about found).2.2
      cases case : r.caseType <;> simp [case, bankLegCases, matchedCases] at kind loop
    | bankAmbiguous read several =>
      have member := (mem_bankLegSettlements_owned own scope _).mp read
      rw [CaseRequest.outline, sourceKey_linked rfl rfl (store.settlementNamed _ member)]
      exact .ambiguous member (plain member ▸ several)
    | bankMismatch read alone differs =>
      have member := (mem_bankLegSettlements_owned own scope _).mp read
      have inside := (mem_selectBank_owned own scope _).mp (mem_selectBank_of_accepted (alone ▸ Set.mem_singleton _))
      rw [CaseRequest.outline, sourceKey_linked rfl rfl (store.bankNamed _ inside)]
      exact .mismatch member (plain member ▸ alone) differs
    | unexplainedCredit read untaken credit =>
      have inside := (mem_selectBank_owned own scope _).mp read
      have named := store.bankNamed _ inside
      simp only [CaseRequest.outline, CaseRequest.sourceKey, unexplainedCreditCase, caseOf, Record.id, if_neg named]
      refine .withoutSettlement inside credit fun s member => ?_
      rw [← plain member]
      exact untaken s ((mem_bankLegSettlements_owned own scope s).mpr member)
    | _ => simp [duplicateSettlementCase, orphanSettlementCase, orphanRefundCase, unsettledRefundCase, caseOf, bankLegCases] at kind
  · intro asked
    cases asked with
    | @ambiguous s member several =>
      have read := (mem_bankLegSettlements_owned own scope s).mpr member
      refine ⟨by simp [bankLegCases], _, ⟨_, .bankAmbiguous read (plain member ▸ several)⟩, ?_⟩
      rw [CaseRequest.outline, sourceKey_linked rfl rfl (store.settlementNamed s member)]
      rfl
    | @mismatch s b member alone differs =>
      have read := (mem_bankLegSettlements_owned own scope s).mpr member
      have accepted : acceptedBankRows settings store merchantId s = {b} := (plain member).trans alone
      have inside := (mem_selectBank_owned own scope b).mp (mem_selectBank_of_accepted (accepted ▸ Set.mem_singleton b))
      refine ⟨by simp [bankLegCases], _, ⟨_, .bankMismatch read accepted differs⟩, ?_⟩
      rw [CaseRequest.outline, sourceKey_linked rfl rfl (store.bankNamed b inside)]
      rfl
    | @withoutSettlement b member credit unexplained =>
      have read := (mem_selectBank_owned own scope b).mpr member
      refine ⟨by simp [bankLegCases], _, ⟨_, .unexplainedCredit read (fun s listed alone => ?_) credit⟩, ?_⟩
      · have inside := (mem_bankLegSettlements_owned own scope s).mp listed
        exact unexplained s inside ((plain inside).symm.trans alone)
      · have named := store.bankNamed b member
        simp only [CaseRequest.outline, CaseRequest.sourceKey, unexplainedCreditCase, caseOf, Record.id, if_neg named]

variable [Hashing]

/-- From no cases, a run records a case of every outline it reports, and of no other:
what has one fingerprint has one outline. -/
theorem recorded_outline_iff (lossless : Function.Injective Hashing.digest) {order : SetOrder} {settings : Settings}
    {draws : Nat → Draw} {store : Store} {merchantId : Option String} {cases : CaseStore} {report : Report}
    (ran : runReconciliation order settings draws store merchantId cases = .ok report) (none : cases.cases = [])
    (o : Outline) :
    (∃ c ∈ report.cases.contents, c.caseType = o.kind.name ∧ c.sourceKey = o.source ∧ c.expectedAmount = o.expected ∧
        c.actualAmount = o.actual) ↔ ∃ r ∈ report.survey.findings.requests, r.outline = o := by
  have contents := (report_cases ran).1
  have outlined (r : CaseRequest) : (r.content.caseType = o.kind.name ∧ r.content.sourceKey = o.source ∧
      r.content.expectedAmount = o.expected ∧ r.content.actualAmount = o.actual) ↔ r.outline = o := by
    rw [sourceKey_content]
    simp only [CaseRequest.content, CaseType.name_injective.eq_iff, CaseRequest.outline]
    constructor
    · rintro ⟨kind, source, expected, actual⟩
      simp only [kind, source, expected, actual]
    · rintro rfl
      exact ⟨rfl, rfl, rfl, rfl⟩
  rw [contents, CaseStore.contents, none, List.map_nil, List.map_nil, List.nil_append]
  constructor
  · rintro ⟨c, stored, same⟩
    obtain ⟨r, recorded, rfl⟩ := List.mem_map.mp stored
    exact ⟨r, (FirstByKey.firsts_sublist _ _ _).subset recorded, (outlined r).mp same⟩
  · rintro ⟨r, reported, rfl⟩
    obtain ⟨e, recorded, same⟩ :=
      (FirstByKey.covered (caseRegistry settings draws).keyOf [] _ reported).resolve_left List.not_mem_nil
    refine ⟨e.content, List.mem_map_of_mem recorded, (outlined e).mpr ?_⟩
    exact outline_eq_of_payload (lossless same)

/-- From no cases, the outlines of the bank leg's cases are those of the plain rule. -/
theorem bank_leg_eq_plain_rule (lossless : Function.Injective Hashing.digest) {merchant : String}
    {merchantId : Option String} {store : Store} (own : WhollyOwned merchant store)
    (scope : merchantId = none ∨ merchantId = some merchant) (naive : NaiveTimes store) {order : SetOrder}
    {settings : Settings} {draws : Nat → Draw} {cases : CaseStore} (none : cases.cases = []) {report : Report}
    (ran : runReconciliation order settings draws store merchantId cases = .ok report) :
    bankOutlines report.cases = {o | PlainBankCase settings store o} := by
  obtain ⟨reviews, reviewed, found, _⟩ := runReconciliation_ok ran
  ext o
  rw [bankOutlines, Set.mem_ofPred_eq, Set.mem_ofPred_eq, recorded_outline_iff lossless ran none, found]
  exact reported_outline_iff own scope naive reviewed o

end Platform

section Examples
open PlainText

/-- One credit reaches the payout by its reference and its UTR, another has no settlement. -/
def creditedPayout : Store where
  settlements := [clearedPayout]
  bankTransactions :=
    [{ singleCredit with merchantId := some "m1", reference := some "SETL_1", amount := ⟨9000, -2⟩ },
      { singleCredit with id := "b2", externalId := "bank_2", merchantId := some "m1", metadataJson := .object [] }]
  settlementNamed := clearedPayout_named

theorem bank_leg_eq_plain_rule_creditedPayout :
    ∃ report, runReconciliation .insertion {} draws creditedPayout (some "m1") .empty = .ok report ∧
      bankOutlines report.cases = {o | PlainBankCase {} creditedPayout o} := by
  obtain ⟨report, ran⟩ := Outcome.exists_ok
    (x := runReconciliation .insertion {} draws creditedPayout (some "m1") .empty) (by decide +kernel)
  have own : WhollyOwned "m1" creditedPayout := ⟨⟨by decide, by decide, by decide⟩, by decide⟩
  exact ⟨report, ran, bank_leg_eq_plain_rule fieldText_injective own (.inr rfl) ⟨by decide, by decide⟩ rfl ran⟩

end Examples
end RCAA
