import RCAA.Reconciliation.BankLeg

/-! A second run over the same records. Of everything a run reports, only the first row
of an ambiguous payout depends on the order in which sets of references are iterated;
every other case has one fingerprint in both runs and is not recorded again. -/

namespace RCAA

def Findings.payloads (findings : Findings) : List FingerprintPayload :=
  findings.requests.map CaseRequest.fingerprintPayload

namespace Findings

@[simp] theorem payloads_append (a b : Findings) : (a.append b).payloads = a.payloads ++ b.payloads := by
  simp only [payloads, requests_append, List.map_append]

@[simp] theorem payloads_flatten (findings : List Findings) : (flatten findings).payloads = findings.flatMap payloads := by
  simp only [payloads, requests_flatten, List.map_flatMap]
  rfl

theorem payloads_only (condition : Bool) (findings : Findings) :
    (only condition findings).payloads = if condition then findings.payloads else [] := by
  cases condition <;> rfl

theorem payloads_single (request : CaseRequest) (stats : Stats) :
    payloads { requests := [request], stats := stats } = [request.fingerprintPayload] := rfl

end Findings

section Platform
variable [Platform]

/-! ## The payment loop -/

theorem ruleDecision_method {unique ambiguous : MatchMethod} {confidence : MatchConfidence}
    {uniqueReason ambiguousReason : String} {found others : List Settlement} (same : found.Perm others) :
    (ruleDecision unique confidence uniqueReason ambiguous ambiguousReason found).map MatchDecision.method =
      (ruleDecision unique confidence uniqueReason ambiguous ambiguousReason others).map MatchDecision.method := by
  have counted := same.length_eq
  rcases found with _ | ⟨s, _ | ⟨t, rest⟩⟩ <;> rcases others with _ | ⟨u, _ | ⟨v, more⟩⟩ <;> simp at counted <;>
    simp [ruleDecision]

/-- The rule that decides does not depend on the order of the references. -/
theorem matchPaymentToSettlement_method (first second : SetOrder) (payment : Payment) (rules : ReconciliationRules)
    {settlements : List Settlement} (distinct : (settlements.map Settlement.id).Nodup) :
    (matchPaymentToSettlement first payment rules (buildSettlementIndexes first settlements)).method =
      (matchPaymentToSettlement second payment rules (buildSettlementIndexes second settlements)).method := by
  have alike (found : Settlement → List String) (refs : List String) :
      (referenceMatches first (MultiMap.collect (fun s => (first.iter (found s)).map (lower s.provider, ·)) settlements)
        (lower payment.provider) refs).Perm
      (referenceMatches second (MultiMap.collect (fun s => (second.iter (found s)).map (lower s.provider, ·)) settlements)
        (lower payment.provider) refs) :=
    (referenceMatches_perm first distinct found _ refs).trans (referenceMatches_perm second distinct found _ refs).symm
  have ranked (a b : Option MatchDecision) :
      (a <|> b).map MatchDecision.method = (a.map MatchDecision.method <|> b.map MatchDecision.method) := by
    cases a <;> rfl
  simp only [matchPaymentToSettlement, byProvider_get]
  split
  · rfl
  · simp only [← Option.getD_map MatchDecision.method, ranked]
    simp only [buildSettlementIndexes, ruleDecision_method (alike settlementReferences (references payment)),
      ruleDecision_method (alike settlementBankReferences (paymentBankReferences payment))]

/-- Two reviews of one payment with the same fingerprints and the same match. -/
structure PaymentReview.Alike (a b : PaymentReview) : Prop where
  payloads : a.findings.payloads = b.findings.payloads
  matched : a.matched = b.matched
  matchedRefunds : a.matchedRefunds = b.matchedRefunds

theorem reviewOf_alike {rules : ReconciliationRules} {indexes : PaymentIndexes} {p : Payment} {tier : List Settlement}
    {first second : MatchDecision} (method : first.method = second.method) {a b : PaymentReview}
    (reviewed : reviewOf rules indexes p first tier = .ok a) (again : reviewOf rules indexes p second tier = .ok b) :
    a.Alike b := by
  rcases tier with _ | ⟨s, _ | ⟨t, rest⟩⟩
  · cases reviewed
    cases again
    refine ⟨?_, rfl, rfl⟩
    simp only [Findings.payloads_append, unsettledFindings, Findings.payloads_single, CaseRequest.fingerprintPayload,
      CaseRequest.sourceKey, caseOf, method]
  · obtain ⟨e, calculated, rfl⟩ := Outcome.map_ok reviewed
    obtain ⟨e', calculated', rfl⟩ := Outcome.map_ok again
    cases calculated.symm.trans calculated'
    refine ⟨?_, rfl, rfl⟩
    have payload (kind : CaseType) (code summary : String) (metadata : CaseMetadata) :
        (matchedCase p s first e kind code summary metadata).fingerprintPayload =
          (matchedCase p s second e kind code summary metadata).fingerprintPayload := by
      simp only [CaseRequest.fingerprintPayload, CaseRequest.sourceKey, matchedCase, caseOf, method]
    simp only [matchedReview, matchedFindings, settlementStatusFindings, currencyFindings, delayFindings, amountFindings,
      Findings.payloads_flatten, List.flatMap_cons, Findings.payloads_only, Findings.payloads_single, payload]
  · cases reviewed
    cases again
    refine ⟨?_, rfl, rfl⟩
    simp only [Findings.payloads_append, ambiguousMatchFindings, Findings.payloads_single, CaseRequest.fingerprintPayload,
      CaseRequest.sourceKey, caseOf, method]

theorem reviewPayments_alike {first second : SetOrder} {settings : Settings} {store : Store} {scope : Option String}
    {reviews others : List PaymentReview} (reviewed : reviewPayments first settings store scope = .ok reviews)
    (again : reviewPayments second settings store scope = .ok others) :
    List.Forall₂ PaymentReview.Alike reviews others :=
  (Outcome.forall₂_common (reviewPayments_forall₂ reviewed) (reviewPayments_forall₂ again)).imp
    fun _ _ ⟨payment, one, other⟩ => reviewOf_alike
      (matchPaymentToSettlement_method first second payment settings.rules (selectSettlements_ids store scope)) one other

omit [Platform] in
/-- What the rest of a run reads of the reviews. -/
theorem reviews_alike {reviews others : List PaymentReview} (alike : List.Forall₂ PaymentReview.Alike reviews others) :
    reviews.flatMap (fun review => review.findings.payloads) = others.flatMap (fun review => review.findings.payloads) ∧
      matchedSettlementIds reviews = matchedSettlementIds others ∧ matchedRefundIds reviews = matchedRefundIds others := by
  induction alike with
  | nil => exact ⟨rfl, rfl, rfl⟩
  | cons first _ ih =>
    obtain ⟨payloads, settlements, refunds⟩ := ih
    simp only [matchedSettlementIds, matchedRefundIds] at settlements refunds ⊢
    simp only [List.flatMap_cons, List.filterMap_cons, first.payloads, first.matched, first.matchedRefunds, payloads,
      settlements, refunds, and_self]

/-! ## The bank leg -/

theorem reviewBank_taken_iff (order : SetOrder) (settings : Settings) (store : Store) (merchantId : Option String)
    (s : Settlement) (b : BankTransaction) :
    (reviewBank order settings store (buildBankIndexes order (selectBank store (scopeOf merchantId))) s).taken = some b ↔
      acceptedBankRows settings store merchantId s = {b} := by
  rw [← bankCandidates_eq_singleton_iff order settings store merchantId s b]
  rcases candidates : bankCandidates order settings (buildBankIndexes order (selectBank store (scopeOf merchantId))) s
    with _ | ⟨c, _ | ⟨d, rest⟩⟩ <;> simp only [reviewBank, candidates]
  · simp
  · split <;> simp
  · simp

theorem takenBankIds_alike (first second : SetOrder) (settings : Settings) (store : Store) (merchantId : Option String) :
    takenBankIds (reviewBankLeg first settings store (scopeOf merchantId)) =
      takenBankIds (reviewBankLeg second settings store (scopeOf merchantId)) := by
  have taken (s : Settlement) :
      (reviewBank first settings store (buildBankIndexes first (selectBank store (scopeOf merchantId))) s).taken =
        (reviewBank second settings store (buildBankIndexes second (selectBank store (scopeOf merchantId))) s).taken := by
    ext b
    simp only [reviewBank_taken_iff]
  simp only [takenBankIds, reviewBankLeg, List.filterMap_map, Function.comp_def, taken]

/-! ## Two runs -/

/-- A case the second run reports has the fingerprint of one the first reports, unless the
bank leg reports it. -/
theorem reported_before {first second : SetOrder} {settings : Settings} {store : Store} {merchantId : Option String}
    {reviews others : List PaymentReview} (reviewed : reviewPayments first settings store (scopeOf merchantId) = .ok reviews)
    (again : reviewPayments second settings store (scopeOf merchantId) = .ok others) {r : CaseRequest}
    (reported : r ∈ (surveyOf second settings store (scopeOf merchantId) others).findings.requests) :
    (∃ e ∈ (surveyOf first settings store (scopeOf merchantId) reviews).findings.requests,
        e.fingerprintPayload = r.fingerprintPayload) ∨
      ∃ s ∈ bankLegSettlements store merchantId, RaisesBankCase second settings store merchantId s r := by
  obtain ⟨payloads, settlements, refunds⟩ := reviews_alike (reviewPayments_alike reviewed again)
  simp only [mem_surveyOf_requests, ← settlements, ← refunds,
    ← takenBankIds_alike first second settings store merchantId] at reported ⊢
  rcases reported with dup | ⟨review, listed, found⟩ | orphan | refund | ⟨review, listed, found⟩ | credit
  · exact .inl ⟨r, .inl dup, rfl⟩
  · have payload : r.fingerprintPayload ∈ others.flatMap fun review => review.findings.payloads :=
      List.mem_flatMap.mpr ⟨review, listed, List.mem_map_of_mem found⟩
    rw [← payloads] at payload
    obtain ⟨earlier, inside, same⟩ := List.mem_flatMap.mp payload
    obtain ⟨e, reported, equal⟩ := List.mem_map.mp same
    exact .inl ⟨e, .inr (.inl ⟨earlier, inside, reported⟩), equal⟩
  · exact .inl ⟨r, .inr (.inr (.inl orphan)), rfl⟩
  · exact .inl ⟨r, .inr (.inr (.inr (.inl refund))), rfl⟩
  · obtain ⟨s, read, rfl⟩ := List.mem_map.mp listed
    exact .inr ⟨s, read, (mem_reportedInBankLeg_iff r).mp found⟩
  · exact .inl ⟨r, .inr (.inr (.inr (.inr (.inr credit)))), rfl⟩

variable [Hashing]

/-- Whether a run finishes depends neither on the order nor on the cases stored. -/
theorem rerun_finishes {first : SetOrder} {settings : Settings} {draws : Nat → Draw} {store : Store}
    {merchantId : Option String} {cases : CaseStore} {report : Report}
    (ran : runReconciliation first settings draws store merchantId cases = .ok report) (second : SetOrder)
    (draws' : Nat → Draw) (cases' : CaseStore) :
    ∃ again, runReconciliation second settings draws' store merchantId cases' = .ok again := by
  rw [runReconciliation_isOk_iff]
  exact (runReconciliation_isOk_iff first settings draws store merchantId cases).mp ⟨report, ran⟩

theorem stored_after_iff {order : SetOrder} {settings : Settings} {draws : Nat → Draw} {store : Store}
    {merchantId : Option String} {cases : CaseStore} {report : Report}
    (ran : runReconciliation order settings draws store merchantId cases = .ok report) (fingerprint : String) :
    fingerprint ∈ report.cases.cases.map (·.fingerprint) ↔ fingerprint ∈ cases.cases.map (·.fingerprint) ∨
      ∃ r ∈ report.survey.findings.requests, r.content.fingerprint = fingerprint := by
  obtain ⟨_, _, _, recorded⟩ := runReconciliation_ok ran
  have filled := putAll_eq_createCases settings draws cases report.survey.findings.requests
  rw [recorded] at filled
  have keys := (caseRegistry settings draws).mem_keys_putAll filled fingerprint
  rwa [caseRegistry_keys, caseRegistry_keys] at keys

/-- A run creates nothing exactly when the fingerprint of everything it reports is stored. -/
theorem createdCases_eq_zero_iff {order : SetOrder} {settings : Settings} {draws : Nat → Draw} {store : Store}
    {merchantId : Option String} {cases : CaseStore} {report : Report}
    (ran : runReconciliation order settings draws store merchantId cases = .ok report) :
    report.createdCases = 0 ↔
      ∀ r ∈ report.survey.findings.requests, r.content.fingerprint ∈ cases.cases.map (·.fingerprint) := by
  obtain ⟨_, _, _, recorded⟩ := runReconciliation_ok ran
  have filled := putAll_eq_createCases settings draws cases report.survey.findings.requests
  rw [recorded] at filled
  have created := (caseRegistry settings draws).created_eq_zero_iff filled
  rwa [caseRegistry_keys] at created

/-- A second run creates nothing exactly when the first bank row it lists for every
ambiguous payout is one for which a case was there before or the first run made one. -/
theorem rerun_creates_nothing_iff (lossless : Function.Injective Hashing.digest) {first : SetOrder} {settings : Settings}
    {draws : Nat → Draw} {store : Store} {merchantId : Option String} {cases : CaseStore} {report : Report}
    (ran : runReconciliation first settings draws store merchantId cases = .ok report) (second : SetOrder)
    (draws' : Nat → Draw) :
    ∃ again, runReconciliation second settings draws' store merchantId report.cases = .ok again ∧
      (again.createdCases = 0 ↔
        ∀ s ∈ store.settlements, owned (scopeOf merchantId) s.merchantId = true →
          (acceptedBankRows settings store merchantId s).Nontrivial →
          (bankAmbiguousCase store s (listedBankRows second settings store merchantId s)).content.fingerprint ∈
              cases.cases.map (·.fingerprint) ∨
            ∃ t ∈ store.settlements, owned (scopeOf merchantId) t.merchantId = true ∧
              SharesBankCase first second settings store merchantId t s) := by
  obtain ⟨again, reran⟩ := rerun_finishes ran second draws' report.cases
  refine ⟨again, reran, ?_⟩
  obtain ⟨reviews, reviewed, found, _⟩ := runReconciliation_ok ran
  obtain ⟨others, reviewedAgain, foundAgain, _⟩ := runReconciliation_ok reran
  rw [createdCases_eq_zero_iff reran]
  simp only [stored_after_iff ran, found, foundAgain]
  constructor
  · intro stored s member own several
    have read := (mem_bankLegSettlements s).mpr ⟨member, own⟩
    rcases stored _ (mem_surveyOf_of_raises others read (.ambiguous several)) with before | ⟨e, reported, same⟩
    · exact .inl before
    · have payload := lossless same
      have kind : e.caseType = .bankAmbiguousMatch :=
        CaseType.name_injective (congrArg FingerprintPayload.caseType payload)
      obtain ⟨t, readToo, raises⟩ :=
        reported_by_bank_leg reviewed reported (by simp [kind, bankLegCases]) (by simp [kind])
      obtain ⟨listed, inScope⟩ := (mem_bankLegSettlements t).mp readToo
      refine .inr ⟨t, listed, inScope, ?_⟩
      cases raises with
      | mismatch => cases kind
      | ambiguous more => exact (ambiguousPayload_eq_iff first second more several listed member).mp payload
  · intro stored r reported
    rcases reported_before reviewed reviewedAgain reported with ⟨e, earlier, same⟩ | ⟨s, read, raises⟩
    · exact .inr ⟨e, earlier, congrArg Hashing.digest same⟩
    · obtain ⟨member, own⟩ := (mem_bankLegSettlements s).mp read
      cases raises with
      | mismatch alone differs =>
        exact .inr ⟨_, mem_surveyOf_of_raises reviews read (.mismatch alone differs), rfl⟩
      | ambiguous several =>
        rcases stored s member own several with before | ⟨t, listed, inScope, shares⟩
        · exact .inl before
        · have readToo := (mem_bankLegSettlements t).mpr ⟨listed, inScope⟩
          have payload := (ambiguousPayload_eq_iff first second shares.1 several listed member).mpr shares
          exact .inr ⟨_, mem_surveyOf_of_raises reviews readToo (.ambiguous shares.1), congrArg Hashing.digest payload⟩

/-- In one iteration order the second run leaves the cases as they are. -/
theorem rerun_in_same_order {order : SetOrder} {settings : Settings} {draws : Nat → Draw} {store : Store}
    {merchantId : Option String} {cases : CaseStore} {report : Report}
    (ran : runReconciliation order settings draws store merchantId cases = .ok report) (draws' : Nat → Draw) :
    runReconciliation order settings draws' store merchantId report.cases = .ok ⟨report.survey, report.cases, 0⟩ := by
  obtain ⟨found, surveyed, done⟩ := Outcome.bind_ok ran
  have stored : ∀ r ∈ found.findings.requests, (caseRegistry settings draws').keyOf r ∈
      (caseRegistry settings draws').keys report.cases := by
    intro r reported
    rw [caseRegistry_keys]
    refine (stored_after_iff ran _).mpr (.inr ⟨r, ?_, rfl⟩)
    cases done
    exact reported
  have idle := (caseRegistry settings draws').putAll_stored stored
  rw [putAll_eq_createCases] at idle
  have same : report.survey = found := by
    cases done
    rfl
  simp only [runReconciliation, surveyed, same]
  change Except.ok _ = _
  rw [Except.ok.inj idle]

end Platform

section Examples
open PlainText

def namedBySettlement : BankTransaction := { singleCredit with metadataJson := .object [], reference := some "SETL_1" }
def namedByUtr : BankTransaction := { singleCredit with id := "b2", externalId := "bank_2" }

/-- One payout with two references, each naming another bank row. -/
def twoReferences : Store where
  settlements := [firstPayout]
  bankTransactions := [namedBySettlement, namedByUtr]

theorem twoReferences_ran : ∃ report, runReconciliation .insertion {} draws twoReferences none .empty = .ok report ∧
    ((runReconciliation .reversed {} draws twoReferences none report.cases).map Report.createdCases).toOption = some 1 :=
  Outcome.exists_ok_of_map (by decide +kernel)

theorem rerun_creates_nothing_iff_twoReferences :
    ∃ report again, runReconciliation .insertion {} draws twoReferences none .empty = .ok report ∧
      runReconciliation .reversed {} draws twoReferences none report.cases = .ok again ∧
      (again.createdCases = 0 ↔
        ∀ s ∈ twoReferences.settlements, owned (scopeOf none) s.merchantId = true →
          (acceptedBankRows {} twoReferences none s).Nontrivial →
          (bankAmbiguousCase twoReferences s (listedBankRows .reversed {} twoReferences none s)).content.fingerprint ∈
              CaseStore.empty.cases.map (·.fingerprint) ∨
            ∃ t ∈ twoReferences.settlements, owned (scopeOf none) t.merchantId = true ∧
              SharesBankCase .insertion .reversed {} twoReferences none t s) := by
  obtain ⟨report, ran, _⟩ := twoReferences_ran
  obtain ⟨again, reran, idle⟩ := rerun_creates_nothing_iff fieldText_injective ran .reversed draws
  exact ⟨report, again, ran, reran, idle⟩

/-- Iterating the two references the other way round reports the payout again. -/
theorem rerun_in_another_order_creates_a_case :
    ¬∀ (second : SetOrder) (report again : Report),
      runReconciliation .insertion {} draws twoReferences none .empty = .ok report →
      runReconciliation second {} draws twoReferences none report.cases = .ok again → again.createdCases = 0 := by
  intro idle
  obtain ⟨report, ran, evaluated⟩ := twoReferences_ran
  obtain ⟨again, reran⟩ := rerun_finishes ran .reversed draws report.cases
  simp only [reran, Except.map, Except.toOption, Option.some.injEq] at evaluated
  simp [idle .reversed report again ran reran] at evaluated

end Examples
end RCAA
