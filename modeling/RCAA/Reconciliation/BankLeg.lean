import RCAA.Reconciliation.Matches
import RCAA.Reconciliation.PaymentLoop

/-! The third leg: which settlements a run accounts for, by a payout it counts or by
an open case that names them. A settlement no bank row answers is left out, and two
settlements whose cases have one fingerprint share the case of the first. -/

namespace RCAA

/-! ## Rows in query order -/

/-- `a` comes before `b` in `ORDER BY timestamp, id`. -/
def Precedes (timestamp : α → DateTime) (id : α → String) (a b : α) : Prop :=
  (timestamp a).instant < (timestamp b).instant ∨ ((timestamp a).instant = (timestamp b).instant ∧ id a < id b)

section Order
variable {timestamp : α → DateTime} {id : α → String}

theorem Precedes.asymm {a b : α} (before : Precedes timestamp id a b) : ¬Precedes timestamp id b a := by
  rintro (later | ⟨same, later⟩)
  · rcases before with earlier | ⟨same, _⟩ <;> omega
  · rcases before with earlier | ⟨_, earlier⟩
    · omega
    · exact lt_asymm earlier later

theorem orderRows_precedes {rows : List α} (distinct : (rows.map id).Nodup) :
    (orderRows timestamp id rows).Pairwise (Precedes timestamp id) := by
  let weak : α → α → Prop := fun a b => (timestamp a).instant < (timestamp b).instant ∨
    ((timestamp a).instant = (timestamp b).instant ∧ id a ≤ id b)
  have total : Std.Total weak := ⟨fun a b => by
    rcases lt_trichotomy (timestamp a).instant (timestamp b).instant with less | same | more
    · exact .inl (.inl less)
    · rcases le_total (id a) (id b) with first | second
      · exact .inl (.inr ⟨same, first⟩)
      · exact .inr (.inr ⟨same.symm, second⟩)
    · exact .inr (.inl more)⟩
  have trans : IsTrans α weak := ⟨fun a b c first second => by
    rcases first with first | ⟨same, first⟩ <;> rcases second with second | ⟨equal, second⟩
    · exact .inl (first.trans second)
    · exact .inl (equal ▸ first)
    · exact .inl (same ▸ second)
    · exact .inr ⟨same.trans equal, first.trans second⟩⟩
  have sorted : (orderRows timestamp id rows).Pairwise weak := List.pairwise_insertionSort weak rows
  have apart : (orderRows timestamp id rows).Pairwise (fun a b => id a ≠ id b) :=
    List.pairwise_map.mp (((orderRows_perm timestamp id rows).map id).nodup_iff.mpr distinct)
  refine (sorted.and apart).imp fun both => ?_
  obtain ⟨earlier | ⟨same, below⟩, differ⟩ := both
  · exact .inl earlier
  · exact .inr ⟨same, lt_of_le_of_ne below differ⟩

/-- The rows before a given one are those that precede it. -/
theorem mem_before_iff {rows before after : List α} {a b : α} (sorted : rows.Pairwise (Precedes timestamp id))
    (split : rows = before ++ b :: after) : a ∈ before ↔ a ∈ rows ∧ Precedes timestamp id a b := by
  subst split
  rw [List.pairwise_append, List.pairwise_cons] at sorted
  obtain ⟨_, ⟨follow, _⟩, across⟩ := sorted
  constructor
  · exact fun earlier => ⟨List.mem_append_left _ earlier, across a earlier b List.mem_cons_self⟩
  · rintro ⟨listed, precedes⟩
    rcases List.mem_append.mp listed with earlier | rest
    · exact earlier
    · rcases List.mem_cons.mp rest with rfl | later
      · exact absurd precedes precedes.asymm
      · exact absurd precedes (follow a later).asymm

end Order

section Platform
variable [Platform]

/-! ## The case a settlement raises -/

/-- The only row the settlement's first accepting rule accepts pays its net amount in
its currency. -/
def PaidOut (settings : Settings) (store : Store) (merchantId : Option String) (s : Settlement) : Prop :=
  ∃ b, acceptedBankRows settings store merchantId s = {b} ∧ b.amount.toRat = s.netAmount.toRat ∧
    upper b.currency = settlementCurrency s

/-- The rows the bank leg considers for a settlement, as it lists them. -/
def listedBankRows (order : SetOrder) (settings : Settings) (store : Store) (merchantId : Option String)
    (s : Settlement) : List BankTransaction :=
  bankCandidates order settings (buildBankIndexes order (selectBank store (scopeOf merchantId))) s

/-- The case a settlement's bank rows call for. -/
inductive RaisesBankCase (order : SetOrder) (settings : Settings) (store : Store) (merchantId : Option String)
    (s : Settlement) : CaseRequest → Prop
  | mismatch {b : BankTransaction} (alone : acceptedBankRows settings store merchantId s = {b})
      (differs : ¬(b.amount.toRat = s.netAmount.toRat ∧ upper b.currency = settlementCurrency s)) :
      RaisesBankCase order settings store merchantId s (bankMismatchCase store s b)
  | ambiguous (several : (acceptedBankRows settings store merchantId s).Nontrivial) :
      RaisesBankCase order settings store merchantId s
        (bankAmbiguousCase store s (listedBankRows order settings store merchantId s))

def bankLegCases : List CaseType := [.bankAmbiguousMatch, .bankSettlementMismatch, .bankWithoutSettlement]

/-- The settlements the bank leg reads, in its order. -/
def bankLegSettlements (store : Store) (merchantId : Option String) : List Settlement :=
  (selectSettlements store (scopeOf merchantId)).filter fun s => owned (scopeOf merchantId) s.merchantId

/-- What the bank leg reports about a settlement. -/
def reportedInBankLeg (order : SetOrder) (settings : Settings) (store : Store) (merchantId : Option String)
    (s : Settlement) : List CaseRequest :=
  (reviewBank order settings store (buildBankIndexes order (selectBank store (scopeOf merchantId))) s).findings.requests

section Reported
variable {order : SetOrder} {settings : Settings} {store : Store} {merchantId : Option String} {s t : Settlement}

theorem one_lt_listedBankRows_iff : 1 < (listedBankRows order settings store merchantId s).length ↔
    (acceptedBankRows settings store merchantId s).Nontrivial := by
  have same := bankCandidates_perm order settings (selectBank_ids store (scopeOf merchantId)) s
  have distinct : (payoutTier settings s (selectBank store (scopeOf merchantId))).Nodup :=
    ((selectBank_ids store (scopeOf merchantId)).of_map BankTransaction.id).sublist (payoutTier_sublist _ _ _)
  rw [listedBankRows, same.length_eq, Tiers.one_lt_length_iff distinct, payoutTier_members, acceptedBankRows]

theorem mem_reportedInBankLeg_iff (r : CaseRequest) :
    r ∈ reportedInBankLeg order settings store merchantId s ↔ RaisesBankCase order settings store merchantId s r := by
  rw [reportedInBankLeg, reviewBank_requests]
  constructor
  · rintro (⟨b, alone, short, rfl⟩ | ⟨several, rfl⟩)
    · refine .mismatch ((bankCandidates_eq_singleton_iff order settings store merchantId s b).mp alone) ?_
      rw [← paysOut_iff, short]
      exact Bool.false_ne_true
    · exact .ambiguous (one_lt_listedBankRows_iff.mp several)
  · rintro (⟨alone, differs⟩ | several)
    · refine .inl ⟨_, (bankCandidates_eq_singleton_iff order settings store merchantId s _).mpr alone, ?_, rfl⟩
      rwa [← Bool.not_eq_true, paysOut_iff]
    · exact .inr ⟨one_lt_listedBankRows_iff.mpr several, rfl⟩

theorem reportedInBankLeg_eq {r : CaseRequest} (raises : RaisesBankCase order settings store merchantId s r) :
    reportedInBankLeg order settings store merchantId s = [r] := by
  have listed := (mem_reportedInBankLeg_iff r).mpr raises
  rw [reportedInBankLeg] at listed ⊢
  rcases candidates : bankCandidates order settings (buildBankIndexes order (selectBank store (scopeOf merchantId))) s
    with _ | ⟨b, _ | ⟨c, rest⟩⟩ <;> simp only [reviewBank, candidates] at listed ⊢
  · simp at listed
  · split at listed
    · simp at listed
    · next short => rw [if_neg short, List.mem_singleton.mp listed]
  · rw [List.mem_singleton.mp listed]

theorem RaisesBankCase.caseType {r : CaseRequest} (raises : RaisesBankCase order settings store merchantId s r) :
    r.caseType ∈ bankLegCases := by
  cases raises <;> simp [bankMismatchCase, bankAmbiguousCase, caseOf, bankLegCases]

end Reported

/-! ## The bank leg among everything a run reports -/

section Survey
variable {order : SetOrder} {settings : Settings} {store : Store} {merchantId : Option String}

theorem reviews_outside_bank_leg {reviews : List PaymentReview}
    (reviewed : reviewPayments order settings store (scopeOf merchantId) = .ok reviews) {review : PaymentReview}
    (listed : review ∈ reviews) {r : CaseRequest} (found : r ∈ review.findings.requests) :
    r.caseType ∉ bankLegCases := by
  obtain ⟨p, inside, this⟩ := Outcome.forall₂_right (reviewPayments_forall₂ reviewed) listed
  have raised := (mem_kinds_reviewOf (selectPayments_ids store _) (selectRefunds_ids store _)
    (selectSettlements_ids store _) inside this r.caseType).mp (List.mem_map_of_mem found)
  cases kind : r.caseType <;> simp [kind, Raised, bankLegCases] at raised ⊢

/-- A run reports the bank leg's cases settlement by settlement, and no other case of
those kinds before or after. -/
theorem surveyOf_requests_eq (order : SetOrder) (settings : Settings) {reviews : List PaymentReview}
    (reviewed : reviewPayments order settings store (scopeOf merchantId) = .ok reviews) :
    ∃ front back, (surveyOf order settings store (scopeOf merchantId) reviews).findings.requests =
        front ++ ((bankLegSettlements store merchantId).flatMap (reportedInBankLeg order settings store merchantId) ++ back) ∧
      (∀ r ∈ front, r.caseType ∉ bankLegCases) ∧
      ∀ r ∈ back, r.caseType = .bankWithoutSettlement ∧ r.storedMetadata.getText "settlement_id" = none := by
  have leg : (reviewBankLeg order settings store (scopeOf merchantId)).flatMap (fun review => review.findings.requests) =
      (bankLegSettlements store merchantId).flatMap (reportedInBankLeg order settings store merchantId) := by
    simp only [reviewBankLeg, List.flatMap_map, bankLegSettlements]
    rfl
  simp only [surveyOf, Findings.requests_flatten, List.flatMap_cons, List.flatMap_nil, List.append_nil, List.flatMap_map, leg]
  rw [← List.append_assoc, ← List.append_assoc, ← List.append_assoc]
  refine ⟨_, _, rfl, fun r listed => ?_, fun r listed => ?_⟩
  · simp only [List.mem_append, List.mem_flatMap] at listed
    rcases listed with ((⟨group, _, site⟩ | ⟨review, inside, found⟩) | ⟨t, _, site⟩) | ⟨refund, _, site⟩
    · obtain ⟨_, _, _, rfl⟩ := duplicateSettlementFindings_cases.mp site
      simp [duplicateSettlementCase, caseOf, bankLegCases]
    · exact reviews_outside_bank_leg reviewed inside found
    · rw [(orphanSettlementFindings_cases.mp site).2.2]
      simp [orphanSettlementCase, caseOf, bankLegCases]
    · rcases (orphanRefundFindings_cases.mp site).2 with ⟨_, rfl⟩ | ⟨_, _, _, rfl⟩
      · simp [orphanRefundCase, caseOf, bankLegCases]
      · simp [unsettledRefundCase, caseOf, bankLegCases]
  · obtain ⟨b, _, site⟩ := List.mem_flatMap.mp listed
    rw [(unexplainedCreditFindings_cases.mp site).2]
    exact ⟨rfl, rfl⟩

theorem mem_surveyOf_of_raises (reviews : List PaymentReview) {s : Settlement} (read : s ∈ bankLegSettlements store merchantId) {r : CaseRequest}
    (raises : RaisesBankCase order settings store merchantId s r) :
    r ∈ (surveyOf order settings store (scopeOf merchantId) reviews).findings.requests := by
  refine (mem_surveyOf_requests order settings store (scopeOf merchantId) reviews r).mpr
    (.inr (.inr (.inr (.inr (.inl ⟨_, List.mem_map_of_mem read, ?_⟩)))))
  exact (mem_reportedInBankLeg_iff r).mpr raises

theorem reported_by_bank_leg {reviews : List PaymentReview}
    (reviewed : reviewPayments order settings store (scopeOf merchantId) = .ok reviews) {r : CaseRequest}
    (reported : r ∈ (surveyOf order settings store (scopeOf merchantId) reviews).findings.requests)
    (kind : r.caseType ∈ bankLegCases) (linked : r.caseType ≠ .bankWithoutSettlement) :
    ∃ s ∈ bankLegSettlements store merchantId, RaisesBankCase order settings store merchantId s r := by
  obtain ⟨front, back, requests, outside, credits⟩ := surveyOf_requests_eq order settings reviewed
  rw [requests, List.mem_append, List.mem_append] at reported
  rcases reported with inFront | inLeg | inBack
  · exact absurd kind (outside r inFront)
  · obtain ⟨s, listed, found⟩ := List.mem_flatMap.mp inLeg
    exact ⟨s, listed, (mem_reportedInBankLeg_iff r).mp found⟩
  · exact absurd (credits r inBack).1 linked

omit [Platform] in
theorem mem_bankLegSettlements (s : Settlement) :
    s ∈ bankLegSettlements store merchantId ↔ s ∈ store.settlements ∧ owned (scopeOf merchantId) s.merchantId = true := by
  rw [bankLegSettlements, List.mem_filter, mem_selectSettlements]
  constructor
  · exact fun ⟨⟨member, _⟩, own⟩ => ⟨member, own⟩
  · rintro ⟨member, own⟩
    refine ⟨⟨member, ?_⟩, own⟩
    cases scope : scopeOf merchantId with
    | none => rfl
    | some merchant =>
      rw [scope, owned_some_iff] at own
      exact ownedOrLinked_some_iff.mpr (.inl own)

omit [Platform] in
theorem bankLegSettlements_precedes :
    (bankLegSettlements store merchantId).Pairwise (Precedes Settlement.settledAt Settlement.id) :=
  (orderRows_precedes (store.settlementIds.sublist (List.filter_sublist.map _))).filter _

end Survey

/-! ## Which settlement a case names -/

/-- The settlement a bank case is about: its record, its match, or the one its metadata gives. -/
def NamesSettlement (c : CaseContent) (s : Settlement) : Prop :=
  (c.caseType = CaseType.bankAmbiguousMatch.name ∧ c.recordId = some s.id) ∨
    (c.caseType = CaseType.bankSettlementMismatch.name ∧ c.matchedRecordId = some s.id) ∨
    (c.caseType = CaseType.bankWithoutSettlement.name ∧ c.metadataJson.getText "settlement_id" = some s.id)

/-- Two settlements whose ambiguous payouts have one fingerprint, `t` as read in the first
order and `s` in the second: one source record, one net amount and one first bank row. -/
def SharesBankCase (first second : SetOrder) (settings : Settings) (store : Store) (merchantId : Option String)
    (t s : Settlement) : Prop :=
  (acceptedBankRows settings store merchantId t).Nontrivial ∧ (acceptedBankRows settings store merchantId s).Nontrivial ∧
    (t = s ∨ ∃ p, store.getPayment t.paymentId = some p ∧ store.getPayment s.paymentId = some p) ∧
    t.netAmount = s.netAmount ∧
    (listedBankRows first settings store merchantId t).head?.map BankTransaction.id =
      (listedBankRows second settings store merchantId s).head?.map BankTransaction.id

section Names
variable {order : SetOrder} {settings : Settings} {store : Store} {merchantId : Option String} {s t : Settlement}

theorem RaisesBankCase.names [Hashing] {r : CaseRequest} (raises : RaisesBankCase order settings store merchantId s r) :
    NamesSettlement r.content s := by
  cases raises with
  | mismatch => exact .inr (.inl ⟨rfl, rfl⟩)
  | ambiguous => exact .inl ⟨rfl, rfl⟩

theorem RaisesBankCase.names_iff [Hashing] {r : CaseRequest} (raises : RaisesBankCase order settings store merchantId t r)
    (listed : t ∈ store.settlements) (inside : s ∈ store.settlements) : NamesSettlement r.content s ↔ t = s := by
  constructor
  · intro named
    have same : t.id = s.id := by
      cases raises with
      | mismatch => simpa [NamesSettlement, CaseRequest.content, bankMismatchCase, caseOf, CaseType.name] using named
      | ambiguous => simpa [NamesSettlement, CaseRequest.content, bankAmbiguousCase, caseOf, CaseType.name, Record.id] using named
    exact List.inj_on_of_nodup_map store.settlementIds listed inside same
  · rintro rfl
    exact raises.names

theorem ambiguousPayload_eq_iff (first second : SetOrder)
    (several : (acceptedBankRows settings store merchantId t).Nontrivial)
    (more : (acceptedBankRows settings store merchantId s).Nontrivial) (listed : t ∈ store.settlements)
    (inside : s ∈ store.settlements) :
    (bankAmbiguousCase store t (listedBankRows first settings store merchantId t)).fingerprintPayload =
        (bankAmbiguousCase store s (listedBankRows second settings store merchantId s)).fingerprintPayload ↔
      SharesBankCase first second settings store merchantId t s := by
  have namedT := store.settlementNamed t listed
  have namedS := store.settlementNamed s inside
  have same : t.id = s.id ↔ t = s :=
    ⟨fun equal => List.inj_on_of_nodup_map store.settlementIds listed inside equal, fun equal => by rw [equal]⟩
  simp only [SharesBankCase, several, more, true_and, CaseRequest.fingerprintPayload, CaseRequest.sourceKey,
    bankAmbiguousCase, caseOf, Record.id, FingerprintPayload.mk.injEq, Decimal.str_injective.eq_iff]
  cases paidT : store.getPayment t.paymentId with
  | none =>
    cases paidS : store.getPayment s.paymentId with
    | none => simp [namedT, namedS, same]
    | some q =>
      have apart : t ≠ s := fun equal => by simp [equal, paidS] at paidT
      simp [apart]
  | some p =>
    cases paidS : store.getPayment s.paymentId with
    | none =>
      have apart : t ≠ s := fun equal => by simp [equal, paidS] at paidT
      simp [apart]
    | some q =>
      have member := ((store.getPayment_eq_some_iff _ _).mp paidT).1
      have inside := ((store.getPayment_eq_some_iff _ _).mp paidS).1
      have samePayment : p.id = q.id ↔ p = q :=
        ⟨fun equal => List.inj_on_of_nodup_map store.paymentIds member inside equal, fun equal => by rw [equal]⟩
      have linked : (t = s ∨ ∃ r, p = r ∧ q = r) ↔ p = q := by
        constructor
        · rintro (rfl | ⟨r, rfl, rfl⟩)
          · exact Option.some.inj (paidT.symm.trans paidS)
          · rfl
        · exact fun equal => .inr ⟨q, equal, rfl⟩
      simp only [samePayment, true_and, Option.some.injEq, linked]

/-- A case of the bank leg has the fingerprint of an earlier one only when both are
ambiguous payouts that look alike. -/
theorem RaisesBankCase.payload_eq_iff {e r : CaseRequest} (first : RaisesBankCase order settings store merchantId t e)
    (second : RaisesBankCase order settings store merchantId s r) (listed : t ∈ store.settlements)
    (inside : s ∈ store.settlements) (differ : t ≠ s) :
    e.fingerprintPayload = r.fingerprintPayload ↔ SharesBankCase order order settings store merchantId t s := by
  have apart : t.id ≠ s.id := fun same => differ (List.inj_on_of_nodup_map store.settlementIds listed inside same)
  have single (u : Settlement) (b : BankTransaction) (alone : acceptedBankRows settings store merchantId u = {b}) :
      ¬(acceptedBankRows settings store merchantId u).Nontrivial := by
    rw [alone]
    exact Set.not_nontrivial_singleton
  cases first with
  | mismatch alone =>
    refine iff_of_false (fun same => ?_) fun shares => single t _ alone shares.1
    cases second with
    | mismatch => exact apart (Option.some.inj (congrArg FingerprintPayload.matchedRecordId same))
    | ambiguous =>
      have kinds : CaseType.bankSettlementMismatch.name = CaseType.bankAmbiguousMatch.name :=
        congrArg FingerprintPayload.caseType same
      exact absurd kinds (by decide)
  | ambiguous several =>
    cases second with
    | mismatch alone =>
      refine iff_of_false (fun same => ?_) fun shares => single s _ alone shares.2.1
      have kinds : CaseType.bankAmbiguousMatch.name = CaseType.bankSettlementMismatch.name :=
        congrArg FingerprintPayload.caseType same
      exact absurd kinds (by decide)
    | ambiguous more => exact ambiguousPayload_eq_iff order order several more listed inside

end Names

/-! ## A run -/

/-- The cases whose work is not done. -/
def openStatuses : List String := ["OPEN", "IN_PROGRESS", "REOPENED"]

/-- An open case among `cases` names the settlement. -/
def NamedOpen (cases : CaseStore) (s : Settlement) : Prop :=
  ∃ c ∈ cases.contents, c.status ∈ openStatuses ∧ NamesSettlement c s

/-- The third leg accounts for a settlement: it is paid out, or an open case names it. -/
def AccountedFor (settings : Settings) (store : Store) (merchantId : Option String) (cases : CaseStore)
    (s : Settlement) : Prop := PaidOut settings store merchantId s ∨ NamedOpen cases s

variable [Hashing]

/-- The bank case of a settlement is recorded exactly when its fingerprint is neither
stored nor that of a settlement the leg reads before it. -/
theorem bankCase_recorded_iff (lossless : Function.Injective Hashing.digest) {order : SetOrder} {settings : Settings}
    (draws : Nat → Draw) {store : Store} {merchantId : Option String} {cases : CaseStore}
    {reviews : List PaymentReview} (reviewed : reviewPayments order settings store (scopeOf merchantId) = .ok reviews)
    {s : Settlement} (read : s ∈ bankLegSettlements store merchantId) {r : CaseRequest}
    (raises : RaisesBankCase order settings store merchantId s r) :
    r ∈ (caseRegistry settings draws).fresh (cases.cases.map (·.fingerprint))
        (surveyOf order settings store (scopeOf merchantId) reviews).findings.requests ↔
      r.content.fingerprint ∉ cases.cases.map (·.fingerprint) ∧
        ∀ t ∈ bankLegSettlements store merchantId, Precedes Settlement.settledAt Settlement.id t s →
          ¬SharesBankCase order order settings store merchantId t s := by
  obtain ⟨front, back, requests, outside, _⟩ := surveyOf_requests_eq order settings reviewed
  obtain ⟨before, after, split⟩ := List.append_of_mem read
  have earlier (t : Settlement) : t ∈ before ↔ t ∈ bankLegSettlements store merchantId ∧
      Precedes Settlement.settledAt Settlement.id t s := mem_before_iff bankLegSettlements_precedes split
  have apart (t : Settlement) (first : t ∈ before) : t ≠ s := by
    rintro rfl
    have precedes := ((earlier t).mp first).2
    exact precedes.asymm precedes
  have inStore (t : Settlement) (listed : t ∈ bankLegSettlements store merchantId) : t ∈ store.settlements :=
    ((mem_bankLegSettlements t).mp listed).1
  have around : (surveyOf order settings store (scopeOf merchantId) reviews).findings.requests =
      (front ++ before.flatMap (reportedInBankLeg order settings store merchantId)) ++
        r :: (after.flatMap (reportedInBankLeg order settings store merchantId) ++ back) := by
    rw [requests, split, List.flatMap_append, List.flatMap_cons, reportedInBankLeg_eq raises]
    simp only [List.append_assoc, List.nil_append, List.cons_append]
  have new : r ∉ front ++ before.flatMap (reportedInBankLeg order settings store merchantId) := by
    intro listed
    rcases List.mem_append.mp listed with inFront | inLeg
    · exact outside r inFront raises.caseType
    · obtain ⟨t, first, found⟩ := List.mem_flatMap.mp inLeg
      have other := (mem_reportedInBankLeg_iff r).mp found
      exact apart t first ((other.names_iff (inStore t ((earlier t).mp first).1) (inStore s read)).mp raises.names)
  rw [around, Registry.fresh, FirstByKey.mem_firsts_first _ new]
  refine and_congr_right fun _ => ⟨fun differ t listed precedes shares => ?_, fun differ e listed same => ?_⟩
  · -- The earlier settlement would have the same fingerprint.
    have first := (earlier t).mpr ⟨listed, precedes⟩
    have raisesToo : RaisesBankCase order settings store merchantId t
        (bankAmbiguousCase store t (listedBankRows order settings store merchantId t)) := .ambiguous shares.1
    have payload := (raisesToo.payload_eq_iff raises (inStore t listed) (inStore s read) (apart t first)).mpr shares
    refine differ _ (List.mem_append_right _ (List.mem_flatMap.mpr ⟨t, first, ?_⟩)) (congrArg Hashing.digest payload)
    exact (mem_reportedInBankLeg_iff _).mpr raisesToo
  · have payload : e.fingerprintPayload = r.fingerprintPayload := lossless same
    rcases List.mem_append.mp listed with inFront | inLeg
    · have kind : e.caseType = r.caseType := CaseType.name_injective (congrArg FingerprintPayload.caseType payload)
      exact outside e inFront (kind ▸ raises.caseType)
    · obtain ⟨t, first, found⟩ := List.mem_flatMap.mp inLeg
      obtain ⟨listed, precedes⟩ := (earlier t).mp first
      have other := (mem_reportedInBankLeg_iff e).mp found
      exact differ t listed precedes
        ((other.payload_eq_iff raises (inStore t listed) (inStore s read) (apart t first)).mp payload)

/-- A reported case that names a settlement is the one its bank rows call for. -/
theorem reported_names_iff {order : SetOrder} {settings : Settings} {store : Store}
    {merchantId : Option String} {reviews : List PaymentReview}
    (reviewed : reviewPayments order settings store (scopeOf merchantId) = .ok reviews) {s : Settlement}
    (read : s ∈ bankLegSettlements store merchantId) {r : CaseRequest}
    (reported : r ∈ (surveyOf order settings store (scopeOf merchantId) reviews).findings.requests) :
    NamesSettlement r.content s ↔ RaisesBankCase order settings store merchantId s r := by
  obtain ⟨front, back, requests, outside, credits⟩ := surveyOf_requests_eq order settings reviewed
  refine ⟨fun named => ?_, RaisesBankCase.names⟩
  have kind : r.caseType ∈ bankLegCases := by
    rcases named with ⟨ambiguous, _⟩ | ⟨mismatch, _⟩ | ⟨credit, _⟩
    · simp [CaseType.name_injective ambiguous, bankLegCases]
    · simp [CaseType.name_injective mismatch, bankLegCases]
    · simp [CaseType.name_injective credit, bankLegCases]
  rw [requests, List.mem_append, List.mem_append] at reported
  rcases reported with inFront | inLeg | inBack
  · exact absurd kind (outside r inFront)
  · obtain ⟨t, listed, found⟩ := List.mem_flatMap.mp inLeg
    have raises := (mem_reportedInBankLeg_iff r).mp found
    have same := (raises.names_iff ((mem_bankLegSettlements t).mp listed).1 ((mem_bankLegSettlements s).mp read).1).mp named
    exact same ▸ raises
  · obtain ⟨credit, noText⟩ := credits r inBack
    simp [NamesSettlement, CaseRequest.content, credit, noText, CaseType.name] at named

/-- A run accounts for a settlement exactly when it is paid out, an open case named it
before, or its bank rows call for a case that the run records. -/
theorem accountedFor_iff (lossless : Function.Injective Hashing.digest) {order : SetOrder} {settings : Settings}
    {draws : Nat → Draw} {store : Store} {merchantId : Option String} {cases : CaseStore} {report : Report}
    (ran : runReconciliation order settings draws store merchantId cases = .ok report) {s : Settlement}
    (member : s ∈ store.settlements) (own : owned (scopeOf merchantId) s.merchantId = true) :
    AccountedFor settings store merchantId report.cases s ↔
      PaidOut settings store merchantId s ∨ NamedOpen cases s ∨
        ∃ r, RaisesBankCase order settings store merchantId s r ∧
          r.content.fingerprint ∉ cases.cases.map (·.fingerprint) ∧
          ∀ t ∈ store.settlements, owned (scopeOf merchantId) t.merchantId = true →
            Precedes Settlement.settledAt Settlement.id t s → ¬SharesBankCase order order settings store merchantId t s := by
  have read : s ∈ bankLegSettlements store merchantId := (mem_bankLegSettlements s).mpr ⟨member, own⟩
  obtain ⟨reviews, reviewed, found, _⟩ := runReconciliation_ok ran
  have contents := (report_cases ran).1
  rw [found] at contents
  rw [AccountedFor]
  refine or_congr_right ?_
  simp only [NamedOpen, contents, List.mem_append, or_and_right, exists_or]
  refine or_congr_right ?_
  constructor
  · rintro ⟨c, stored, _, named⟩
    obtain ⟨r, recorded, rfl⟩ := List.mem_map.mp stored
    have raises := (reported_names_iff reviewed read (FirstByKey.firsts_sublist _ _ _ |>.subset recorded)).mp named
    obtain ⟨unseen, differ⟩ := (bankCase_recorded_iff lossless draws reviewed read raises).mp recorded
    exact ⟨r, raises, unseen, fun t listed inScope => differ t ((mem_bankLegSettlements t).mpr ⟨listed, inScope⟩)⟩
  · rintro ⟨r, raises, unseen, differ⟩
    have recorded := (bankCase_recorded_iff lossless draws reviewed read raises).mpr ⟨unseen, fun t listed => ?_⟩
    · refine ⟨r.content, List.mem_map_of_mem recorded, ?_, raises.names⟩
      simp [CaseRequest.content, openStatuses]
    · obtain ⟨inside, inScope⟩ := (mem_bankLegSettlements t).mp listed
      exact differ t inside inScope

end Platform

section Examples
open PlainText

theorem accountedFor_iff_sharedUtr :
    ∃ report, runReconciliation .insertion {} draws sharedUtr none .empty = .ok report ∧
      (AccountedFor {} sharedUtr none report.cases firstPayout ↔
        PaidOut {} sharedUtr none firstPayout ∨ NamedOpen .empty firstPayout ∨
          ∃ r, RaisesBankCase .insertion {} sharedUtr none firstPayout r ∧
            r.content.fingerprint ∉ CaseStore.empty.cases.map (·.fingerprint) ∧
            ∀ t ∈ sharedUtr.settlements, owned (scopeOf none) t.merchantId = true →
              Precedes Settlement.settledAt Settlement.id t firstPayout →
              ¬SharesBankCase .insertion .insertion {} sharedUtr none t firstPayout) := by
  obtain ⟨report, ran, _⟩ := sharedUtr_ran
  exact ⟨report, ran, accountedFor_iff fieldText_injective ran (by simp [sharedUtr]) rfl⟩

def clearedPayment : Payment := { firstAttempt with merchantId := some "m1" }
def clearedPayout : Settlement := { firstPayout with merchantId := some "m1" }

theorem clearedPayment_named : ∀ p ∈ [clearedPayment], p.id ≠ "" := by decide
theorem clearedPayout_named : ∀ s ∈ [clearedPayout], s.id ≠ "" := by decide

/-- A payment and its settlement agree; no bank row was ever ingested. -/
def unpaidPayout : Store where
  payments := [clearedPayment]
  settlements := [clearedPayout]
  paymentNamed := clearedPayment_named
  settlementNamed := clearedPayout_named

/-- The run finds nothing to report. -/
theorem unpaid_payout_is_dropped :
    ¬∀ report, runReconciliation .insertion {} draws unpaidPayout (some "m1") .empty = .ok report →
      AccountedFor {} unpaidPayout (some "m1") report.cases clearedPayout := by
  intro accounted
  obtain ⟨report, ran, evaluated⟩ : ∃ report, runReconciliation .insertion {} draws unpaidPayout (some "m1") .empty = .ok report ∧
      report.cases.contents = [] := Outcome.exists_ok_of_map (by decide +kernel)
  rcases accounted report ran with ⟨b, alone, _⟩ | ⟨c, listed, _⟩
  · have accepted : b ∈ acceptedBankRows {} unpaidPayout (some "m1") clearedPayout := alone ▸ rfl
    rw [acceptedBankRows, ← payoutTier_members] at accepted
    simpa [selectBank, unpaidPayout, orderRows] using (payoutTier_sublist _ _ _).subset accepted
  · simp [evaluated] at listed

end Examples
end RCAA
