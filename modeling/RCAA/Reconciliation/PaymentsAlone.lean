import RCAA.Ingestion.Noninterference
import RCAA.Reconciliation.Identity

/-! A run that reads payments and nothing else. No settlement and no refund is there to
compare them with, so what it reports of a payment depends on the payments alone, neither
on their identifiers nor on their order. -/

namespace RCAA

/-! ## Payments up to their identifiers -/

/-- Payments that differ in what was generated for them only. -/
def Payment.Alike (p q : Payment) : Prop := (Record.payment p).withoutIds = (Record.payment q).withoutIds

theorem Payment.Alike.exists_ids {p q : Payment} (alike : p.Alike q) :
    ∃ id batchId, q = { p with id := id, ingestionBatchId := batchId } := by
  refine ⟨q.id, q.ingestionBatchId, ?_⟩
  exact (congrArg (fun row : Payment => { row with id := q.id, ingestionBatchId := q.ingestionBatchId })
    (Record.payment.inj alike)).symm

/-- The same payments, whatever their identifiers and their order. -/
def SamePayments (payments others : List Payment) : Prop :=
  ∃ paired, List.Forall₂ Payment.Alike payments paired ∧ paired.Perm others

theorem SamePayments.flatMap {α : Type} {payments others : List Payment} (same : SamePayments payments others)
    {f g : Payment → List α} (respects : ∀ p q, p.Alike q → f p = g q) :
    (payments.flatMap f).Perm (others.flatMap g) := by
  obtain ⟨paired, alike, moved⟩ := same
  have whole : payments.flatMap f = paired.flatMap g := by
    clear moved
    induction alike with
    | nil => rfl
    | cons first _ ih => rw [List.flatMap_cons, List.flatMap_cons, respects _ _ first, ih]
  rw [whole]
  exact moved.flatMap_right g

theorem SamePayments.filter_map {α : Type} {payments others : List Payment} (same : SamePayments payments others)
    {accepts accepts' : Payment → Bool} {f : Payment → α} (respects : ∀ p q, p.Alike q → accepts p = accepts' q ∧ f p = f q) :
    ((payments.filter accepts).map f).Perm ((others.filter accepts').map f) := by
  have selected (accepts : Payment → Bool) (list : List Payment) :
      (list.filter accepts).map f = list.flatMap fun p => if accepts p then [f p] else [] := by
    induction list with
    | nil => rfl
    | cons p rest ih => cases kept : accepts p <;> simp [kept, ih]
  rw [selected, selected]
  refine same.flatMap fun p q alike => ?_
  obtain ⟨acceptance, value⟩ := respects p q alike
  rw [acceptance, value]

/-! ## Cases up to identifiers -/

/-- The entries of a case's metadata that hold identifiers of rows. -/
def generatedEntries : List String :=
  ["candidate_ids", "candidates", "settlement_id", "bank_transaction_id", "candidate_bank_ids"]

/-- A case without the identifiers it holds, and without their digest. -/
def CaseContent.withoutIds (content : CaseContent) : CaseContent :=
  { content with
    paymentId := none
    recordId := none
    matchedRecordId := none
    metadataJson := content.metadataJson.filter fun entry => entry.1 ∉ generatedEntries
    fingerprint := "" }

section Platform
variable [Platform]

/-! ## What is reported of a payment -/

/-- The decision on a payment when there is no settlement. -/
def nothingToMatch : MatchDecision :=
  { matched := false, reason := "No settlement candidates for the payment provider." }

/-- What a run reports of a payment when it reads these payments alone. -/
def reportedAlone (payments : List Payment) (p : Payment) : List CaseRequest :=
  ((unmatchedFindings (buildPaymentIndexes payments [] []) p).append (unsettledFindings p nothingToMatch)).requests

theorem reviewPayment_alone (order : SetOrder) (rules : ReconciliationRules) (indexes : PaymentIndexes) :
    reviewPayment order rules indexes (buildSettlementIndexes order []) = fun p =>
      .ok { payment := p, findings := (unmatchedFindings indexes p).append (unsettledFindings p nothingToMatch) } := rfl

/-- Nothing but payments is in the scope of a run. -/
structure PaymentsAlone (store : Store) (scope : Option String) : Prop where
  refunds : selectRefunds store scope = []
  settlements : selectSettlements store scope = []
  bank : selectBank store scope = []

theorem survey_alone {order : SetOrder} {settings : Settings} {store : Store} {merchantId : Option String}
    (alone : PaymentsAlone store (scopeOf merchantId)) :
    ∃ found, survey order settings store merchantId = .ok found ∧ found.findings.requests =
      (selectPayments store (scopeOf merchantId)).flatMap (reportedAlone (selectPayments store (scopeOf merchantId))) := by
  obtain ⟨refunds, settlements, bank⟩ := alone
  have reviewed : reviewPayments order settings store (scopeOf merchantId) =
      .ok ((selectPayments store (scopeOf merchantId)).map fun p =>
        { payment := p
          findings := (unmatchedFindings (buildPaymentIndexes (selectPayments store (scopeOf merchantId)) [] []) p).append
            (unsettledFindings p nothingToMatch) }) := by
    simp only [reviewPayments, refunds, settlements, reviewPayment_alone]
    exact List.mapM_pure
  refine ⟨_, by rw [survey, reviewed]; rfl, ?_⟩
  simp only [surveyOf, reviewBankLeg, refunds, settlements, bank, List.filter_nil, List.map_nil, Findings.requests_flatten,
    List.flatMap_cons, List.flatMap_nil, List.flatMap_map, List.map_map, settlementGroups, List.append_nil]
  rfl

/-! ## What it depends on -/

theorem orderKey_congr {p q : Payment} (alike : p.Alike q) : orderKey p = orderKey q := by
  obtain ⟨id, batchId, rfl⟩ := alike.exists_ids
  rfl

theorem orderGroup_amounts {payments others : List Payment} (same : SamePayments payments others) {p q : Payment}
    (alike : p.Alike q) :
    ((orderGroup (buildPaymentIndexes payments [] []) p).map Payment.amount).Perm
      ((orderGroup (buildPaymentIndexes others [] []) q).map Payment.amount) := by
  have distinct (p : Payment) : (orderKey p).toList.Nodup := by cases orderKey p <;> simp
  rw [orderGroup, orderGroup, orderKey_congr alike]
  cases orderKey q with
  | none => exact List.Perm.refl _
  | some key =>
    simp only [buildPaymentIndexes]
    rw [MultiMap.get_collect _ _ (fun p _ => distinct p), MultiMap.get_collect _ _ (fun p _ => distinct p)]
    refine same.filter_map fun p q alike => ⟨by rw [orderKey_congr alike], ?_⟩
    obtain ⟨id, batchId, rfl⟩ := alike.exists_ids
    rfl

/-- The case of a payment whose order several payments have. -/
def repeatedOrderCase (p : Payment) (ids : List String) (total : Decimal) : CaseRequest :=
  { caseOf p (.payment p) .duplicatePayment "DUPLICATE_PAYMENT" p.amount total
      "Multiple payment records share the same provider order reference." with
    metadata := idTexts ids ++ [("rule", .text "ORDER_REFERENCE")] }

theorem duplicatePaymentFindings_requests (indexes : PaymentIndexes) (p : Payment) :
    (duplicatePaymentFindings indexes p).requests = if 1 < (orderGroup indexes p).length then
      [repeatedOrderCase p ((orderGroup indexes p).map Payment.id) (Decimal.sum ((orderGroup indexes p).map Payment.amount))]
    else [] := by
  change (Findings.only (decide (1 < (orderGroup indexes p).length)) _).requests = _
  by_cases several : 1 < (orderGroup indexes p).length
  · rw [if_pos several, decide_eq_true several]
    rfl
  · rw [if_neg several, decide_eq_false several]
    rfl

theorem reportedAlone_eq (payments : List Payment) (p : Payment) : reportedAlone payments p =
    (duplicatePaymentFindings (buildPaymentIndexes payments [] []) p).requests ++ (paymentStatusFindings p).requests ++
      (missingRefundFindings (buildPaymentIndexes [] [] []) p).requests ++ (unsettledFindings p nothingToMatch).requests := by
  simp only [reportedAlone, unmatchedFindings, Findings.requests_append, Findings.requests_flatten, List.flatMap_cons,
    List.flatMap_nil, List.append_nil, List.append_assoc]
  rfl

omit [Platform] in
theorem map_requests_only {α : Type} (f : CaseRequest → α) (condition : Bool) (findings : Findings) :
    (Findings.only condition findings).requests.map f = if condition then findings.requests.map f else [] := by
  cases condition <;> rfl

/-- What is reported of a payment depends on the payments up to identifiers and order. -/
theorem reportedAlone_congr [Hashing] {payments others : List Payment} (same : SamePayments payments others) {p q : Payment}
    (alike : p.Alike q) :
    (reportedAlone payments p).map (fun r => r.content.withoutIds) =
      (reportedAlone others q).map fun r => r.content.withoutIds := by
  have amounts := orderGroup_amounts same alike
  have several : (orderGroup (buildPaymentIndexes payments [] []) p).length =
      (orderGroup (buildPaymentIndexes others [] []) q).length := by
    simpa only [List.length_map] using amounts.length_eq
  have total := Decimal.sum_perm amounts
  obtain ⟨id, batchId, rfl⟩ := alike.exists_ids
  have content (ids ids' : List String) (total : Decimal) : (repeatedOrderCase p ids total).content.withoutIds =
      (repeatedOrderCase { p with id := id, ingestionBatchId := batchId } ids' total).content.withoutIds := rfl
  rw [reportedAlone_eq, reportedAlone_eq, duplicatePaymentFindings_requests, duplicatePaymentFindings_requests, several, total]
  simp only [paymentStatusFindings, missingRefundFindings, List.map_append, map_requests_only, apply_ite, List.map_cons,
    List.map_nil, content _ ((orderGroup (buildPaymentIndexes others [] [])
      { p with id := id, ingestionBatchId := batchId }).map Payment.id)]
  rfl

/-! ## Which cases it becomes -/

theorem reportedAlone_about {payments : List Payment} {p : Payment} {r : CaseRequest} (reported : r ∈ reportedAlone payments p) :
    About r (some p) p.id none := by
  rw [reportedAlone_eq, duplicatePaymentFindings_requests] at reported
  simp only [paymentStatusFindings, missingRefundFindings, unsettledFindings, List.mem_append, Findings.mem_requests_only,
    List.mem_ite_nil_right, List.mem_singleton] at reported
  rcases reported with ((⟨_, rfl⟩ | ⟨_, rfl⟩) | ⟨_, rfl⟩) | rfl <;> exact ⟨rfl, rfl, rfl⟩

theorem reportedAlone_kinds (payments : List Payment) (p : Payment) : ((reportedAlone payments p).map CaseRequest.caseType).Sublist
    [.duplicatePayment, .statusMismatch, .missingRefund, .paymentWithoutSettlement] := by
  have perhaps (condition : Bool) (request : CaseRequest) (stats : Stats) :
      ((Findings.only condition { requests := [request], stats := stats }).requests.map CaseRequest.caseType).Sublist
        [request.caseType] := by
    cases condition <;> simp [Findings.only]
  rw [reportedAlone_eq, List.map_append, List.map_append, List.map_append]
  exact (((perhaps _ _ _).append (perhaps _ _ _)).append (perhaps _ _ _)).append (List.Sublist.refl _)

/-- No two reports have one payload: they are about different payments or of different kinds. -/
theorem reportedAlone_payloads {payments others : List Payment} (distinct : (payments.map Payment.id).Nodup) :
    ((payments.flatMap (reportedAlone others)).map CaseRequest.fingerprintPayload).Nodup := by
  rw [List.map_flatMap, List.nodup_flatMap]
  constructor
  · intro p _
    have kinds : ((reportedAlone others p).map fun r => r.caseType.name).Nodup := by
      have named := ((reportedAlone_kinds others p).map CaseType.name).nodup (by decide)
      rwa [List.map_map] at named
    refine List.Nodup.of_map FingerprintPayload.caseType ?_
    rwa [List.map_map]
  · refine (List.pairwise_map.mp distinct).imp fun {p q} apart => List.disjoint_left.mpr fun payload first second => apart ?_
    obtain ⟨r, reported, rfl⟩ := List.mem_map.mp first
    obtain ⟨other, reported', same⟩ := List.mem_map.mp second
    have source := congrArg FingerprintPayload.source same
    simp only [CaseRequest.fingerprintPayload, CaseRequest.sourceKey, (reportedAlone_about reported).payment,
      (reportedAlone_about reported').payment] at source
    exact source.symm

/-- A run over payments alone makes a case of everything it reports. -/
theorem runReconciliation_alone [Hashing] (lossless : Function.Injective Hashing.digest) (order : SetOrder) (settings : Settings)
    (draws : Nat → Draw) {store : Store} {merchantId : Option String} (alone : PaymentsAlone store (scopeOf merchantId)) :
    ∃ report, runReconciliation order settings draws store merchantId .empty = .ok report ∧
      report.cases.contents = ((selectPayments store (scopeOf merchantId)).flatMap
        (reportedAlone (selectPayments store (scopeOf merchantId)))).map CaseRequest.content := by
  obtain ⟨found, surveyed, requests⟩ := @survey_alone _ order settings store merchantId alone
  have ran : ∃ report, runReconciliation order settings draws store merchantId .empty = .ok report ∧ report.survey = found := by
    rw [runReconciliation, surveyed]
    exact ⟨_, rfl, rfl⟩
  obtain ⟨report, ran, rfl⟩ := ran
  refine ⟨report, ran, ?_⟩
  rw [(report_cases ran).1, Registry.fresh, FirstByKey.firsts_of_distinct _ ?_ (by simp [CaseStore.empty]), requests]
  · rfl
  · have payloads := @reportedAlone_payloads _ _ (selectPayments store (scopeOf merchantId)) (selectPayments_ids store (scopeOf merchantId))
    have fingerprints := payloads.map lossless
    rw [List.map_map] at fingerprints
    rw [requests]
    exact fingerprints

end Platform
end RCAA
