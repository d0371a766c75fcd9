import RCAA.Evidence.Complete

/-! What the evidence of an ambiguous match lists. The engine stores the candidates of the
matcher under one key of the case's metadata and the builder reads another, so the result
item is the general summary whatever the candidates are. -/

namespace RCAA

open Exceptions EvidenceBuilder

/-! ## Keys of the stored metadata -/

def CaseMetadata.keys (metadata : CaseMetadata) : List String := metadata.map Prod.fst

theorem CaseMetadata.get_of_not_mem {metadata : CaseMetadata} {key : String} (absent : key ∉ metadata.keys) :
    CaseMetadata.get metadata key = .null := by
  have none : metadata.find? (fun entry => entry.1 = key) = none := by
    rw [KeyedRows.find?_eq_none_iff]
    exact fun entry member same => absent (same ▸ List.mem_map_of_mem member)
  rw [CaseMetadata.get, none]
  rfl

theorem CaseMetadata.mem_keys_setDefault {metadata : CaseMetadata} {key other : String} {value : MetaValue}
    (member : other ∈ (metadata.setDefault key value).keys) : other ∈ metadata.keys ∨ other = key := by
  unfold setDefault at member
  split at member
  · exact .inl member
  · simpa [keys] using member

/-- A case stores the keys of its report, and two more. -/
theorem CaseRequest.mem_keys_storedMetadata {r : CaseRequest} {key : String} (member : key ∈ r.storedMetadata.keys) :
    key ∈ r.metadata.keys ∨ key = "source" ∨ key = "merchant_id" := by
  unfold storedMetadata at member
  split at member
  · rcases CaseMetadata.mem_keys_setDefault member with member | same
    · exact (CaseMetadata.mem_keys_setDefault member).imp_right .inl
    · exact .inr (.inr same)
  · exact .inl member

section Sites
variable [Platform] {order : SetOrder} {settings : Settings} {store : Store} {merchantId : Option String}

theorem PaymentFinding.keys {p : Payment} {r : CaseRequest} (found : PaymentFinding order settings store merchantId p r) :
    "candidate_records" ∉ r.metadata.keys := by
  rcases found with (found | found | found) | ⟨_, found⟩ | ⟨_, found⟩
  · obtain ⟨_, found⟩ := Findings.mem_requests_only.mp found
    rw [List.mem_singleton.mp found]
    simp [CaseMetadata.keys, idTexts]
  · obtain ⟨_, found⟩ := Findings.mem_requests_only.mp found
    rw [List.mem_singleton.mp found]
    simp [CaseMetadata.keys, caseOf]
  · obtain ⟨_, found⟩ := Findings.mem_requests_only.mp found
    rw [List.mem_singleton.mp found]
    simp [CaseMetadata.keys, caseOf]
  · rw [List.mem_singleton.mp found]
    simp [CaseMetadata.keys, caseOf]
  · rw [List.mem_singleton.mp found]
    simp [CaseMetadata.keys, idTexts]

theorem matchedFindings_keys {rules : ReconciliationRules} {p : Payment} {s : Settlement} {decision : MatchDecision}
    {e : Expectation} {r : CaseRequest} (found : r ∈ (matchedFindings rules p s decision e).requests) :
    "candidate_records" ∉ r.metadata.keys := by
  simp only [matchedFindings, Findings.requests_flatten, List.mem_flatMap, List.mem_cons, List.not_mem_nil, or_false,
    exists_eq_or_imp, exists_eq_left, settlementStatusFindings, currencyFindings, delayFindings, amountFindings,
    Findings.mem_requests_only] at found
  rcases found with ⟨_, rfl⟩ | ⟨_, rfl⟩ | ⟨_, rfl⟩ | ⟨_, rfl⟩ <;>
    simp [CaseMetadata.keys, matchedCase, amountTexts]

/-- No site writes the key the builder reads. -/
theorem Site.keys {record : Record} {r : CaseRequest} (site : Site order settings store merchantId record r) :
    "candidate_records" ∉ r.metadata.keys := by
  cases site with
  | duplicateSettlement => simp [CaseMetadata.keys, duplicateSettlementCase, idTexts]
  | payment _ found => exact found.keys
  | @duplicateRefund p x group r read listed first found =>
    rcases group with _ | ⟨y, _ | ⟨z, rest⟩⟩
    · cases first
    · simp [duplicateRefundGroupFindings] at found
    · rw [List.mem_singleton.mp found]
      simp [CaseMetadata.keys, idTexts]
  | matched _ _ _ found => exact matchedFindings_keys found
  | orphanSettlement => simp [CaseMetadata.keys, orphanSettlementCase]
  | orphanRefund => simp [CaseMetadata.keys, orphanRefundCase, caseOf]
  | unsettledRefund => simp [CaseMetadata.keys, unsettledRefundCase, caseOf]
  | bankAmbiguous => simp [CaseMetadata.keys, bankAmbiguousCase]
  | bankMismatch => simp [CaseMetadata.keys, bankMismatchCase]
  | unexplainedCredit => simp [CaseMetadata.keys, unexplainedCreditCase]

end Sites

/-! ## What is listed -/

/-- The id, the amount and the currency a row of a listing names. -/
def namedTerms (row : List (String × String)) : Option String × Option String × Option String :=
  (row.lookup "record_id", row.lookup "amount", row.lookup "currency")

/-- An entry lists exactly these candidates, in any order. -/
def ListsCandidates (candidates : List Candidate) (metadata : CaseMetadata) : Prop :=
  ∃ entry ∈ metadata, ∃ rows, entry.2 = .rows rows ∧
    (rows.map namedTerms).Perm (candidates.map fun c => (some c.recordId, some c.amount.str, some c.currency))

theorem resultPayload_lists_nothing {row : CaseRow} (unread : CaseMetadata.get row.metadataJson "candidate_records" = .null)
    (candidates : List Candidate) : ¬ListsCandidates candidates (resultPayload row).snapshot := by
  rintro ⟨entry, member, rows, listing, _⟩
  simp only [resultPayload, unread, MetaValue.truthy, Bool.false_eq_true, if_false, List.mem_cons, List.not_mem_nil,
    or_false] at member
  have optional : ∀ value : Option String, MetaValue.ofOption value ≠ .rows rows := fun value => by cases value <;> simp [MetaValue.ofOption]
  rcases member with rfl | rfl | rfl | rfl | rfl | rfl | rfl | rfl
  all_goals first | cases listing | exact optional _ listing

/-- What the engine stores lists the candidates. -/
theorem ambiguousMatchFindings_lists {p : Payment} {decision : MatchDecision} {r : CaseRequest}
    (found : r ∈ (ambiguousMatchFindings p decision).requests) : ListsCandidates decision.candidates r.storedMetadata := by
  rw [List.mem_singleton.mp found]
  refine ⟨("candidates", .rows (decision.candidates.map candidateText)), ?_, _, rfl, ?_⟩
  · simp [CaseRequest.storedMetadata, caseOf, idTexts, CaseMetadata.setDefault]
  · rw [List.map_map]
    exact .of_eq (List.map_congr_left fun c _ => rfl)

section Built
variable [EvidenceHashing] (lossless : Function.Injective EvidenceHashing.digest)
include lossless

/-- The only item of a bundle that is about the result. -/
theorem result_item {keys : KeySource} {store : Store} {desk : Desk} {table : EvidenceTable} {row : CaseRow}
    {given : Option ReconciliationException} {item : Evidence}
    (member : item ∈ (build keys store desk table row given).1.items) (type : item.evidenceType = .reconciliationResult) :
    item.toEvidencePayload = resultPayload row := by
  cases chosen : given.or (exceptionOf desk row) with
  | none => simp [build, chosen] at member
  | some e =>
    rw [build_chosen chosen] at member
    have inside : item.toEvidencePayload ∈ payloads store row e := by
      rw [← build_items lossless keys store desk table row e]
      exact List.mem_map_of_mem member
    have typed : item.toEvidencePayload.evidenceType = .reconciliationResult := type
    generalize item.toEvidencePayload = payload at inside typed
    simp only [payloads, List.mem_append, Option.mem_toList, Option.map_eq_some_iff, List.mem_cons,
      List.not_mem_nil, or_false] at inside
    rcases inside with (⟨record, _, rfl⟩ | ⟨s, _, rfl⟩) | same | rfl
    · cases record <;> cases typed
    · cases typed
    · exact same
    · cases typed

end Built

section Run
variable [Runtime] [Hashing] {settings : Settings} {s : System} {order : SetOrder} {merchantId : Option String} {p : Payment}

omit [Hashing] in
/-- The report of an ambiguous match, whose metadata lists the candidates under a key of its own. -/
theorem ambiguous_match_reported {found : Survey} (surveyed : survey order settings s.database.store merchantId = .ok found)
    (read : p ∈ selectPayments s.database.store (scopeOf merchantId))
    (several : 1 < (runDecision order settings s.database.store merchantId p).candidates.length) :
    ∃ r ∈ found.findings.requests, r.caseType = .ambiguousMatch ∧ r.payment = some p ∧
      ListsCandidates (runDecision order settings s.database.store merchantId p).candidates r.storedMetadata := by
  obtain ⟨reviews, reviewed, rfl⟩ := Outcome.map_ok surveyed
  have settles : Settles (runTier settings s.database.store merchantId p)
      (runDecision order settings s.database.store merchantId p) :=
    matchPaymentToSettlement_settles order p settings.rules (selectSettlements_ids s.database.store (scopeOf merchantId))
  have tier : 1 < (runTier settings s.database.store merchantId p).length := by
    by_contra few
    have none := settles.candidates
    rw [if_pos (not_lt.mp few)] at none
    rw [none.length_eq] at several
    exact absurd several (by decide)
  have site : Site order settings s.database.store merchantId (.payment p) _ :=
    .payment read (.inr (.inr ⟨tier, List.mem_singleton_self _⟩))
  exact ⟨_, (mem_requests_iff_site reviewed _).mpr ⟨_, site⟩, rfl, rfl, ambiguousMatchFindings_lists (List.mem_singleton_self _)⟩

variable [EvidenceHashing]

/-- A payment with several candidates is reported with them, and no item of the evidence of
its case lists them. -/
theorem candidates_never_listed (lossless : Function.Injective EvidenceHashing.digest) {keys : KeySource} {now : Int}
    {found : Survey} (surveyed : survey order settings s.database.store merchantId = .ok found)
    (read : p ∈ selectPayments s.database.store (scopeOf merchantId))
    (several : 1 < (runDecision order settings s.database.store merchantId p).candidates.length) :
    (∃ r ∈ found.findings.requests, r.caseType = .ambiguousMatch ∧ r.payment = some p ∧
      ListsCandidates (runDecision order settings s.database.store merchantId p).candidates r.storedMetadata) ∧
    ∀ c ∈ (s.runReconciliation settings keys now order merchantId).2.desk.cases, c ∉ s.desk.cases →
      c.caseType = CaseType.ambiguousMatch.name → c.paymentId = some p.id → ∀ row, SameReport c row →
        ∀ keys' later desk table given, ¬∃ item ∈ (build keys' later desk table row given).1.items,
          item.evidenceType = .reconciliationResult ∧
            ListsCandidates (runDecision order settings s.database.store merchantId p).candidates item.snapshot := by
  refine ⟨ambiguous_match_reported surveyed read several, ?_⟩
  rintro c raised new - - row same keys' later desk table given ⟨item, member, type, lists⟩
  obtain ⟨record, r, site, reports⟩ := run_reports raised new
  have absent : "candidate_records" ∉ row.metadataJson.keys := by
    rw [(reports.of_sameReport same).metadataJson]
    intro inside
    rcases CaseRequest.mem_keys_storedMetadata inside with own | other | other
    · exact site.keys own
    · exact absurd other (by decide)
    · exact absurd other (by decide)
  have result := result_item lossless member type
  have shown : item.snapshot = (resultPayload row).snapshot := congrArg EvidencePayload.snapshot result
  exact resultPayload_lists_nothing (CaseMetadata.get_of_not_mem absent) _ (shown ▸ lists)

end Run

section Examples
open PlainText

/-- A captured payment, and two settlements that name it. -/
def settledTwice : System where
  database :=
    { store :=
        { payments := [unsettledPayment]
          settlements := [firstPayout, { firstPayout with id := "s2", providerSettlementId := "setl_2", netAmount := ⟨9900, -2⟩ }]
          paymentNamed := unsettledPayment_named } }

def settledTwiceRun : System := (settledTwice.runReconciliation {} keys 1704110400000000 .insertion none).2

theorem settledTwice_surveyed : ∃ found, survey .insertion {} settledTwice.database.store none = .ok found :=
  Outcome.exists_ok (by decide)

theorem candidates_never_listed_settledTwice :
    ∃ found, survey .insertion {} settledTwice.database.store none = .ok found ∧
      (∃ r ∈ found.findings.requests, r.caseType = .ambiguousMatch ∧ r.payment = some unsettledPayment ∧
        ListsCandidates (runDecision .insertion {} settledTwice.database.store none unsettledPayment).candidates
          r.storedMetadata) ∧
      ∀ c ∈ settledTwiceRun.desk.cases, c ∉ settledTwice.desk.cases →
        c.caseType = CaseType.ambiguousMatch.name → c.paymentId = some unsettledPayment.id → ∀ row, SameReport c row →
          ∀ keys' later desk table given, ¬∃ item ∈ (build keys' later desk table row given).1.items,
            item.evidenceType = .reconciliationResult ∧
              ListsCandidates (runDecision .insertion {} settledTwice.database.store none unsettledPayment).candidates
                item.snapshot := by
  obtain ⟨found, surveyed⟩ := settledTwice_surveyed
  exact ⟨found, surveyed, candidates_never_listed evidenceText_injective surveyed (by decide) (by decide)⟩

/-- Its case has the summary of the result as evidence. -/
theorem ambiguity_evidence_is_a_summary :
    ¬∀ c ∈ settledTwiceRun.desk.cases, c.caseType = CaseType.ambiguousMatch.name → ∀ e, GeneratedFor c e →
      ∃ item ∈ (build keys settledTwice.database.store settledTwiceRun.desk {} c (some e)).1.items,
        item.evidenceType = .reconciliationResult ∧
          ListsCandidates (runDecision .insertion {} settledTwice.database.store none unsettledPayment).candidates
            item.snapshot := by
  intro law
  have columns : settledTwiceRun.desk.cases.map
      (fun c => (c.caseType, CaseMetadata.get c.metadataJson "candidate_records")) =
        [(CaseType.ambiguousMatch.name, .null)] := by decide +kernel
  obtain ⟨c, _, whole, found, _⟩ := List.map_eq_cons_iff.mp columns
  obtain ⟨kind, unread⟩ := Prod.mk.inj found
  have member : c ∈ settledTwiceRun.desk.cases := by simp [whole]
  obtain ⟨e, generated⟩ := generated_each (by decide +kernel) (by decide +kernel) c member
  obtain ⟨item, inside, type, lists⟩ := law c member kind e generated
  have shown := congrArg EvidencePayload.snapshot (result_item evidenceText_injective inside type)
  exact resultPayload_lists_nothing unread _ (shown ▸ lists)

end Examples
end RCAA
