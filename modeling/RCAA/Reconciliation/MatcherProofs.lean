import RCAA.Reconciliation.Matcher

/-! The matcher over its indexes computes the scan of the settlement list. Each
index lookup lists the settlements one rule accepts, in some order and each once;
the first lookup that finds any decides. -/

namespace RCAA
section Platform
variable [Platform]

/-! ## What each index finds -/

theorem byProvider_get (order : SetOrder) (settlements : List Settlement) (provider : String) :
    (buildSettlementIndexes order settlements).byProvider.get provider =
      settlements.filter (fun s => lower s.provider = provider) := by
  simp only [buildSettlementIndexes]
  rw [MultiMap.get_collect _ _ (fun _ _ => List.nodup_singleton _)]
  simp only [List.mem_singleton, eq_comm]

theorem byPaymentId_get (order : SetOrder) (settlements : List Settlement) (provider paymentId : String) :
    (buildSettlementIndexes order settlements).byPaymentId.get (provider, paymentId) =
      (settlements.filter (fun s => lower s.provider = provider)).filter
        (fun s => paymentIdKey s.providerPaymentId = some paymentId) := by
  simp only [buildSettlementIndexes]
  rw [MultiMap.get_collect _ _ (fun s _ => by cases paymentIdKey s.providerPaymentId <;> simp), List.filter_filter]
  apply List.filter_congr
  intro s _
  cases paymentIdKey s.providerPaymentId <;> simp [and_comm, eq_comm]

/-- An index by references, looked up through all of a payment's references. -/
theorem referenceMatches_perm (order : SetOrder) {settlements : List Settlement}
    (distinct : (settlements.map Settlement.id).Nodup) (found : Settlement → List String) (provider : String)
    (refs : List String) :
    (referenceMatches order
      (MultiMap.collect (fun s => (order.iter (found s)).map (lower s.provider, ·)) settlements) provider refs).Perm
      ((settlements.filter (fun s => lower s.provider = provider)).filter (fun s => ∃ ref ∈ refs, ref ∈ found s)) := by
  have faithful := KeyedRows.faithful_of_nodup Settlement.id distinct
  have reached : ∀ s, s ∈ (order.iter refs).flatMap (fun ref =>
      (MultiMap.collect (fun s => (order.iter (found s)).map (lower s.provider, ·)) settlements).get (provider, ref)) ↔
      s ∈ settlements ∧ lower s.provider = provider ∧ ∃ ref ∈ refs, ref ∈ found s := by
    intro s
    simp only [List.mem_flatMap, SetOrder.mem_iter, MultiMap.mem_get_collect, List.mem_map, Prod.mk.injEq]
    constructor
    · rintro ⟨ref, wanted, member, other, listed, same, rfl⟩
      exact ⟨member, same, other, wanted, listed⟩
    · rintro ⟨member, same, ref, wanted, listed⟩
      exact ⟨ref, wanted, member, ref, listed, same, rfl⟩
  have inside := faithful.mono fun s h => ((reached s).mp h).1
  refine (List.perm_ext_iff_of_nodup (KeyedRows.nodup_collect _ inside) ?_).mpr fun s => ?_
  · exact (distinct.of_map Settlement.id).filter _ |>.filter _
  · simp only [KeyedRows.mem_collect _ inside, reached, List.mem_filter, decide_eq_true_eq, and_assoc]

omit [Platform] in
theorem sortEntries_sorted (entries : List (Int × Settlement)) :
    ((sortEntries entries).map Prod.fst).Pairwise (· ≤ ·) := by
  rw [List.pairwise_map]
  exact List.pairwise_insertionSort _ entries

/-- The bisected slice of the time index is the closed window around the payment. -/
theorem timeMatches_perm (order : SetOrder) (rules : ReconciliationRules) (payment : Payment)
    (settlements : List Settlement) (provider : String) :
    (timeMatches rules payment ((buildSettlementIndexes order settlements).byTime.get provider)).Perm
      ((settlements.filter (fun s => lower s.provider = provider)).filter (fun s => amountMatches rules payment s ∧
        payment.createdAt.localNaive - window rules ≤ s.settledAt.localNaive ∧
        s.settledAt.localNaive ≤ payment.createdAt.localNaive + window rules)) := by
  have lookup : (buildSettlementIndexes order settlements).byTime.get provider =
      sortEntries ((settlements.filter (fun s => lower s.provider = provider)).map
        fun s => (s.settledAt.localNaive, s)) := by
    simp only [buildSettlementIndexes]
    rw [MultiMap.get_mapValues _ rfl, MultiMap.get_collect _ _ (fun _ _ => List.nodup_singleton _), List.filter_map]
    simp only [List.mem_singleton, Function.comp_def, eq_comm]
  simp only [timeMatches, lookup]
  rw [Bisect.slice_eq_filter Prod.fst _ (sortEntries_sorted _)]
  have sorted := (List.perm_insertionSort (fun a b : Int × Settlement => a.1 ≤ b.1)
    ((settlements.filter (fun s => lower s.provider = provider)).map fun s => (s.settledAt.localNaive, s)))
  refine (((sorted.filter _).map Prod.snd).filter _).trans (List.Perm.of_eq ?_)
  simp only [List.filter_map, List.filter_filter, List.map_map, Function.comp_def, List.map_id']
  apply List.filter_congr
  intro s _
  simp only [Bool.decide_and, Bool.decide_eq_true, Bool.and_assoc]

/-! ## What a rule decides -/

theorem ruleDecision_eq_none_iff {unique ambiguous : MatchMethod} {confidence : MatchConfidence}
    {uniqueReason ambiguousReason : String} {found : List Settlement} :
    ruleDecision unique confidence uniqueReason ambiguous ambiguousReason found = none ↔ found = [] := by
  rcases found with _ | ⟨s, _ | ⟨t, rest⟩⟩ <;> simp [ruleDecision]

theorem ruleDecision_settles {unique ambiguous : MatchMethod} {confidence : MatchConfidence}
    {uniqueReason ambiguousReason : String} {found : List Settlement} {decision : MatchDecision}
    (decided : ruleDecision unique confidence uniqueReason ambiguous ambiguousReason found = some decision) :
    Settles found decision := by
  rcases found with _ | ⟨s, _ | ⟨t, rest⟩⟩
  · cases decided
  · cases decided
    exact ⟨by simp, by simp, by simp⟩
  · cases decided
    exact ⟨by simp, by simp, by simp⟩

theorem settles_nil {decision : MatchDecision} (unmatched : decision.matched = false)
    (noRecord : decision.matchedRecordId = none) (noCandidate : decision.candidates = []) : Settles [] decision :=
  ⟨by simp [unmatched], by simp [noRecord], by simp [noCandidate]⟩

theorem Settles.congr {found tier : List Settlement} {decision : MatchDecision} (same : found.Perm tier)
    (settles : Settles found decision) : Settles tier decision := by
  refine ⟨by rw [settles.matched, same.length_eq], fun id => ?_, ?_⟩
  · rw [settles.record]
    constructor
    · rintro ⟨s, rfl, rfl⟩
      exact ⟨s, (List.singleton_perm.mp same).symm, rfl⟩
    · rintro ⟨s, rfl, rfl⟩
      exact ⟨s, List.perm_singleton.mp same, rfl⟩
  · refine settles.candidates.trans ?_
    rw [same.length_eq]
    split
    · exact List.Perm.refl _
    · exact same.map candidate

/-- Two rules in order settle what the first inhabited of their tiers settles. -/
theorem settles_orElse {found : List Settlement} {tiers : List (List Settlement)} {first : Option MatchDecision}
    {others : Option MatchDecision} {fallback : MatchDecision} (none_iff : first = none ↔ found = [])
    (settles : ∀ decision, first = some decision → Settles found decision)
    (rest : Settles (Tiers.deciding tiers) (others.getD fallback)) :
    Settles (Tiers.deciding (found :: tiers)) ((first <|> others).getD fallback) := by
  cases first with
  | none =>
    rw [none_iff.mp rfl]
    exact rest
  | some decision =>
    have inhabited : found ≠ [] := fun h => by simpa using none_iff.mpr h
    rw [Tiers.deciding_cons_of_ne_nil inhabited]
    exact settles decision rfl

theorem settles_getD {found : List Settlement} {first : Option MatchDecision} {fallback : MatchDecision}
    (none_iff : first = none ↔ found = []) (settles : ∀ decision, first = some decision → Settles found decision)
    (otherwise : Settles [] fallback) : Settles (Tiers.deciding [found]) (first.getD fallback) := by
  have last : Settles (Tiers.deciding [found]) ((first <|> none).getD fallback) :=
    settles_orElse none_iff settles otherwise
  cases first <;> exact last

/-! ## The matcher and the scan -/

theorem tiersWith_eq_nil {orderReferences : Settlement → List String} {rules : ReconciliationRules} {payment : Payment}
    {settlements : List Settlement} (none : settlements.filter (fun s => lower s.provider = lower payment.provider) = []) :
    Tiers.deciding (tiersWith orderReferences rules payment settlements) = [] := by
  simp [tiersWith, none, Tiers.deciding]

/-- Matching over the indexes of a list of settlements is the tiered scan of the list. -/
theorem matchPaymentToSettlement_settles (order : SetOrder) (payment : Payment) (rules : ReconciliationRules)
    {settlements : List Settlement} (distinct : (settlements.map Settlement.id).Nodup) :
    Settles (decidingTier rules payment settlements)
      (matchPaymentToSettlement order payment rules (buildSettlementIndexes order settlements)) := by
  simp only [matchPaymentToSettlement, byProvider_get]
  split
  · next none =>
    rw [decidingTier, tiers, tiersWith_eq_nil (List.isEmpty_iff.mp none)]
    exact settles_nil rfl rfl rfl
  · refine Settles.congr (Tiers.deciding_perm ?_) (settles_orElse ruleDecision_eq_none_iff
      (fun _ => ruleDecision_settles) (settles_orElse ruleDecision_eq_none_iff (fun _ => ruleDecision_settles)
      (settles_orElse ruleDecision_eq_none_iff (fun _ => ruleDecision_settles)
      (settles_getD ruleDecision_eq_none_iff (fun _ => ruleDecision_settles) (settles_nil rfl rfl rfl)))))
    refine .cons ?_ (.cons (referenceMatches_perm order distinct _ _ _) (.cons (referenceMatches_perm order distinct _ _ _)
      (.cons (timeMatches_perm order rules payment settlements _) .nil)))
    cases paymentIdKey payment.providerPaymentId with
    | none => simp
    | some paymentId =>
      simp only [byPaymentId_get]
      exact List.Perm.of_eq (List.filter_congr fun s _ => by simp)

/-! ## The ranked rules as sets -/

/-- The settlements each rule accepts, in rank order. -/
def rankedRules (orderReferences : Settlement → List String) (rules : ReconciliationRules) (payment : Payment)
    (settlements : List Settlement) : List (Set Settlement) :=
  let pool := {s | s ∈ settlements ∧ lower s.provider = lower payment.provider}
  [{s | s ∈ pool ∧ ∃ paymentId, paymentId ≠ "" ∧ normalize (.str payment.providerPaymentId) = some paymentId ∧
      normalize (.str s.providerPaymentId) = some paymentId},
    {s | s ∈ pool ∧ ∃ ref ∈ references payment, ref ∈ orderReferences s},
    {s | s ∈ pool ∧ ∃ ref ∈ paymentBankReferences payment, ref ∈ settlementBankReferences s},
    {s | s ∈ pool ∧ upper (s.rawData.getD "currency" (.str payment.currency)).text = upper payment.currency ∧
      |s.netAmount.toRat - payment.amount.toRat| ≤ rules.amountTolerance.toRat ∧
      s.settledAt.localNaive ∈ Set.Icc (payment.createdAt.localNaive - window rules)
        (payment.createdAt.localNaive + window rules)}]

/-- What a decision must say of the settlements of the deciding rule. -/
structure Agrees (tier : Set Settlement) (decision : MatchDecision) : Prop where
  unique : ∀ s, tier = {s} → decision.matched = true ∧ decision.matchedRecordId = some s.id
  ambiguous : tier.Nontrivial → decision.matched = false ∧
    (decision.candidates.map Candidate.recordId).Nodup ∧ ∀ c, c ∈ decision.candidates ↔ ∃ s ∈ tier, c = candidate s
  unmatched : tier = ∅ → decision.matched = false ∧ decision.matchedRecordId = none ∧ decision.candidates = []

theorem paymentIdKey_eq_some_iff (providerPaymentId paymentId : String) :
    paymentIdKey providerPaymentId = some paymentId ↔
      paymentId ≠ "" ∧ normalize (.str providerPaymentId) = some paymentId := by
  simp only [paymentIdKey, Option.filter_eq_some_iff, decide_eq_true_eq, and_comm]

theorem amountMatches_iff (rules : ReconciliationRules) (payment : Payment) (s : Settlement) :
    amountMatches rules payment s = true ↔
      upper (s.rawData.getD "currency" (.str payment.currency)).text = upper payment.currency ∧
        |s.netAmount.toRat - payment.amount.toRat| ≤ rules.amountTolerance.toRat := by
  simp only [amountMatches, Bool.and_eq_true, beq_iff_eq, Decimal.le_iff, Decimal.toRat_abs, Decimal.toRat_sub]

/-- The tiers list the members of the rules. -/
theorem tiersWith_members (orderReferences : Settlement → List String) (rules : ReconciliationRules)
    (payment : Payment) (settlements : List Settlement) :
    (tiersWith orderReferences rules payment settlements).map Tiers.members =
      rankedRules orderReferences rules payment settlements := by
  simp only [tiersWith, rankedRules, List.map_cons, List.map_nil, List.cons.injEq, and_true]
  refine ⟨?_, ?_, ?_, ?_⟩ <;> ext s <;>
    simp only [Tiers.members, Set.mem_ofPred_eq, List.mem_filter, decide_eq_true_eq, and_congr_right_iff]
  · intro _
    simp only [Option.mem_def, paymentIdKey_eq_some_iff]
    constructor
    · rintro ⟨paymentId, ⟨named, mine⟩, _, theirs⟩
      exact ⟨paymentId, named, mine, theirs⟩
    · rintro ⟨paymentId, named, mine, theirs⟩
      exact ⟨paymentId, ⟨named, mine⟩, named, theirs⟩
  · intro _
    rw [amountMatches_iff, Set.mem_Icc, and_assoc]

theorem decidingTier_sublist (rules : ReconciliationRules) (payment : Payment) (settlements : List Settlement) :
    (decidingTier rules payment settlements).Sublist
      (settlements.filter (fun s => lower s.provider = lower payment.provider)) := by
  refine Tiers.deciding_sublist fun tier listed => ?_
  simp only [tiers, tiersWith, List.mem_cons, List.not_mem_nil, or_false] at listed
  rcases listed with rfl | rfl | rfl | rfl <;> exact List.filter_sublist

theorem nodup_decidingTier {settlements : List Settlement} (distinct : (settlements.map Settlement.id).Nodup)
    (rules : ReconciliationRules) (payment : Payment) :
    ((decidingTier rules payment settlements).map Settlement.id).Nodup :=
  distinct.sublist (((decidingTier_sublist rules payment settlements).trans List.filter_sublist).map Settlement.id)

/-- A decision that settles a list of distinct settlements agrees with their set. -/
theorem Settles.agrees {tier : List Settlement} {decision : MatchDecision}
    (distinct : (tier.map Settlement.id).Nodup) (settles : Settles tier decision) :
    Agrees (Tiers.members tier) decision := by
  have unmatched (several : tier.length ≠ 1) : decision.matched = false := by
    rw [← Bool.not_eq_true, settles.matched]
    exact several
  refine ⟨fun s single => ?_, fun several => ?_, fun empty => ?_⟩
  · have only : tier = [s] := (Tiers.eq_singleton_iff (distinct.of_map _) s).mpr single
    exact ⟨settles.matched.mpr (by simp [only]), (settles.record s.id).mpr ⟨s, only, rfl⟩⟩
  · obtain ⟨a, ha, b, hb, different⟩ := several
    have more : 1 < tier.length := by
      rcases tier with _ | ⟨c, _ | ⟨d, rest⟩⟩
      · simp [Tiers.members] at ha
      · simp only [Tiers.members, List.mem_singleton, Set.mem_ofPred_eq] at ha hb
        exact absurd (ha.trans hb.symm) different
      · simp
    have listed := settles.candidates
    rw [if_neg (by omega)] at listed
    have ids : (decision.candidates.map Candidate.recordId).Perm (tier.map Settlement.id) := by
      simpa only [List.map_map, Function.comp_def, candidate] using listed.map Candidate.recordId
    refine ⟨unmatched (by omega), ids.nodup_iff.mpr distinct, fun c => ?_⟩
    rw [listed.mem_iff, List.mem_map]
    simp only [Tiers.members, Set.mem_ofPred_eq, eq_comm]
  · have none : tier = [] := (Tiers.members_eq_empty_iff tier).mp empty
    subst none
    refine ⟨unmatched (by simp), ?_, ?_⟩
    · rw [Option.eq_none_iff_forall_ne_some]
      intro id found
      obtain ⟨s, single, _⟩ := (settles.record id).mp found
      cases single
    · simpa using settles.candidates

/-- Matching a payment over the indexes of a list of settlements agrees with the first
ranked rule that accepts any of them. -/
theorem matchPaymentToSettlement_agrees (order : SetOrder) (payment : Payment) (rules : ReconciliationRules)
    (settlements : List Settlement) (distinct : (settlements.map Settlement.id).Nodup) :
    Agrees (Tiers.decidingSet (rankedRules settlementReferences rules payment settlements))
      (matchPaymentToSettlement order payment rules (buildSettlementIndexes order settlements)) := by
  rw [← tiersWith_members, ← Tiers.members_deciding]
  exact (matchPaymentToSettlement_settles order payment rules distinct).agrees
    (nodup_decidingTier distinct rules payment)

/-- The references of a settlement that name an order, not its payout. -/
def orderReferences (settlement : Settlement) : List String :=
  normalizedSet [settlement.rawData.get "order_id", settlement.rawData.get "merchant_order_reference",
    settlement.rawData.get "provider_reference"]

end Platform

section Examples
open PlainText

def orderedPayment : Payment where
  id := "p1"
  provider := "razorpay"
  providerPaymentId := "pay_1"
  providerOrderId := some "X"
  amount := ⟨10000, -2⟩
  status := "captured"
  createdAt := ⟨0, none⟩

def payoutNamedAfterOrder : Settlement where
  id := "s1"
  provider := "razorpay"
  providerSettlementId := "setl_1"
  providerPaymentId := "pay_9"
  grossAmount := ⟨50000, -2⟩
  netAmount := ⟨50000, -2⟩
  status := "processed"
  settledAt := ⟨0, none⟩
  rawData := [("settlement_reference", .str "X")]

theorem matchPaymentToSettlement_agrees_named :
    ([payoutNamedAfterOrder].map Settlement.id).Nodup ∧
      Agrees (Tiers.decidingSet (rankedRules settlementReferences {} orderedPayment [payoutNamedAfterOrder]))
        (matchPaymentToSettlement .insertion orderedPayment {} (buildSettlementIndexes .insertion [payoutNamedAfterOrder])) :=
  ⟨by decide, matchPaymentToSettlement_agrees .insertion orderedPayment {} [payoutNamedAfterOrder] (by decide)⟩

/-- Read with the order references alone, the rules miss a settlement whose
settlement reference is the payment's order id; the matcher takes it. -/
theorem settlementReference_matches_order :
    ¬Agrees (Tiers.decidingSet (rankedRules orderReferences {} orderedPayment [payoutNamedAfterOrder]))
      (matchPaymentToSettlement .insertion orderedPayment {} (buildSettlementIndexes .insertion [payoutNamedAfterOrder])) := by
  intro agrees
  have nothing : Tiers.deciding (tiersWith orderReferences {} orderedPayment [payoutNamedAfterOrder]) = [] := by decide
  have matched : (matchPaymentToSettlement .insertion orderedPayment {}
      (buildSettlementIndexes .insertion [payoutNamedAfterOrder])).matched = true := by decide
  have empty := agrees.unmatched (by
    rw [← tiersWith_members, ← Tiers.members_deciding, nothing]
    exact (Tiers.members_eq_empty_iff _).mpr rfl)
  rw [empty.1] at matched
  cases matched

end Examples
end RCAA
