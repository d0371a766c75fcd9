import Mathlib
import RCAA.Models
import RCAA.Library.Bisect
import RCAA.Library.MultiMap
import RCAA.Library.Tiers

/-! Matching one payment against the settlements of a run: the indexes built once,
the four rules tried in order, and the plain scan of the settlement list that the
indexes stand for. Sets of references are iterated in an arbitrary order. -/

namespace RCAA

structure ReconciliationRules where
  settlementWindowDays : Int := 3
  timestampToleranceMinutes : Int := 30
  amountTolerance : Decimal := ⟨0, -2⟩

inductive MatchMethod where
  | exactPaymentId | orderReference | utrReference | amountCurrencyTime | toleranceMatch | none
deriving DecidableEq, Repr

def MatchMethod.value : MatchMethod → String
  | .exactPaymentId => "EXACT_PAYMENT_ID"
  | .orderReference => "ORDER_REFERENCE"
  | .utrReference => "UTR_REFERENCE"
  | .amountCurrencyTime => "AMOUNT_CURRENCY_TIME"
  | .toleranceMatch => "TOLERANCE_MATCH"
  | .none => "NONE"

inductive MatchConfidence where
  | high | medium | low | none
deriving DecidableEq, Repr

def MatchConfidence.value : MatchConfidence → String
  | .high => "HIGH"
  | .medium => "MEDIUM"
  | .low => "LOW"
  | .none => "NONE"

structure Candidate where
  recordId : String
  recordType : String
  amount : Decimal
  currency : String
  timestamp : DateTime
deriving DecidableEq

structure MatchDecision where
  matched : Bool
  method : MatchMethod := .none
  confidence : MatchConfidence := .none
  reason : String := ""
  matchedRecordId : Option String := none
  candidates : List Candidate := []
deriving DecidableEq

structure SettlementIndexes where
  byProvider : MultiMap String Settlement
  byPaymentId : MultiMap (String × String) Settlement
  byOrderRef : MultiMap (String × String) Settlement
  byBankRef : MultiMap (String × String) Settlement
  byTime : MultiMap String (Int × Settlement)

section Platform
variable [Platform]

def references (payment : Payment) : List String :=
  normalizedSet [.ofOption payment.providerOrderId, payment.rawData.get "order_id",
    payment.rawData.get "merchant_order_reference", payment.rawData.get "provider_reference"]

def settlementReferences (settlement : Settlement) : List String :=
  normalizedSet [settlement.rawData.get "order_id", settlement.rawData.get "merchant_order_reference",
    settlement.rawData.get "provider_reference", settlement.rawData.get "settlement_reference"]

def paymentBankReferences (payment : Payment) : List String :=
  normalizedSet [payment.rawData.get "utr", payment.rawData.get "bank_reference",
    payment.rawData.get "settlement_reference"]

def settlementBankReferences (settlement : Settlement) : List String :=
  normalizedSet [.ofOption settlement.utr, settlement.rawData.get "utr",
    settlement.rawData.get "bank_reference", settlement.rawData.get "settlement_reference"]

/-- The normalized identifier a record is indexed under, if it is not blank. -/
def paymentIdKey (providerPaymentId : String) : Option String :=
  (normalize (.str providerPaymentId)).filter (· ≠ "")

def candidate (item : Settlement) : Candidate where
  recordId := item.id
  recordType := "settlement"
  amount := item.netAmount
  currency := upper (item.rawData.getD "currency" (.str "INR")).text
  timestamp := item.settledAt

/-- Entries of the time index, in the order of the sort: stable, by timestamp. -/
def sortEntries (entries : List (Int × Settlement)) : List (Int × Settlement) :=
  entries.insertionSort (fun a b => a.1 ≤ b.1)

def buildSettlementIndexes (order : SetOrder) (settlements : List Settlement) : SettlementIndexes where
  byProvider := MultiMap.collect (fun s => [lower s.provider]) settlements
  byPaymentId := MultiMap.collect (fun s => ((paymentIdKey s.providerPaymentId).map (lower s.provider, ·)).toList) settlements
  byOrderRef := MultiMap.collect (fun s => (order.iter (settlementReferences s)).map (lower s.provider, ·)) settlements
  byBankRef := MultiMap.collect (fun s => (order.iter (settlementBankReferences s)).map (lower s.provider, ·)) settlements
  byTime := (MultiMap.collect (fun entry => [lower entry.2.provider])
    (settlements.map fun s => (s.settledAt.localNaive, s))).mapValues sortEntries

/-- What one rule says of the settlements it found: nothing when there are none. -/
def ruleDecision (unique : MatchMethod) (confidence : MatchConfidence) (uniqueReason : String)
    (ambiguous : MatchMethod) (ambiguousReason : String) : List Settlement → Option MatchDecision
  | [] => none
  | [item] => some
      { matched := true, method := unique, confidence := confidence, reason := uniqueReason,
        matchedRecordId := some item.id }
  | found => some
      { matched := false, method := ambiguous, confidence := .none, reason := ambiguousReason,
        candidates := found.map candidate }

/-- Settlements reached through any of the references, each once. -/
def referenceMatches (order : SetOrder) (index : MultiMap (String × String) Settlement) (provider : String)
    (refs : List String) : List Settlement :=
  KeyedRows.collect Settlement.id ((order.iter refs).flatMap fun ref => index.get (provider, ref))

/-- The currency, amount and tolerance test of the amount and time rule. -/
def amountMatches (rules : ReconciliationRules) (payment : Payment) (item : Settlement) : Bool :=
  upper (item.rawData.getD "currency" (.str payment.currency)).text == upper payment.currency &&
    ((item.netAmount.sub payment.amount).abs).le rules.amountTolerance

def window (rules : ReconciliationRules) : Int := rules.timestampToleranceMinutes * DateTime.minute

def timeMatches (rules : ReconciliationRules) (payment : Payment) (timed : List (Int × Settlement)) :
    List Settlement :=
  let timeKeys := timed.map Prod.fst
  let lo := Bisect.left timeKeys (payment.createdAt.localNaive - window rules)
  let hi := Bisect.right timeKeys (payment.createdAt.localNaive + window rules)
  (((timed.take hi).drop lo).map Prod.snd).filter (amountMatches rules payment)

def matchPaymentToSettlement (order : SetOrder) (payment : Payment) (rules : ReconciliationRules)
    (indexes : SettlementIndexes) : MatchDecision :=
  let provider := lower payment.provider
  if (indexes.byProvider.get provider).isEmpty then
    { matched := false, reason := "No settlement candidates for the payment provider." }
  else
    let exact := match paymentIdKey payment.providerPaymentId with
      | some paymentId => indexes.byPaymentId.get (provider, paymentId)
      | none => []
    let orderMatches := referenceMatches order indexes.byOrderRef provider (references payment)
    let bankMatches := referenceMatches order indexes.byBankRef provider (paymentBankReferences payment)
    let timed := timeMatches rules payment (indexes.byTime.get provider)
    (ruleDecision .exactPaymentId .high "Payment and settlement share the same provider payment ID."
        .exactPaymentId "Multiple settlements share the same provider payment ID." exact <|>
      ruleDecision .orderReference .high "A normalized order/provider reference uniquely identifies the settlement."
        .orderReference "Multiple settlements match the payment order/reference." orderMatches <|>
      ruleDecision .utrReference .high "A normalized UTR/bank/settlement reference uniquely identifies the settlement."
        .utrReference "Multiple settlements match the payment bank reference." bankMatches <|>
      ruleDecision (if rules.amountTolerance.isZero then .amountCurrencyTime else .toleranceMatch) .medium
        "Settlement matches currency, amount tolerance, and configured timestamp tolerance."
        .amountCurrencyTime "Multiple settlements satisfy the amount, currency, and time-window rule."
        timed).getD
      { matched := false, reason := "No deterministic matching rule produced a unique settlement." }

/-! ## The scan -/

/-- The settlements each rule accepts, found by reading the whole list; `orderReferences`
are the ones of a settlement that the order rule compares. -/
def tiersWith (orderReferences : Settlement → List String) (rules : ReconciliationRules) (payment : Payment)
    (settlements : List Settlement) : List (List Settlement) :=
  let pool := settlements.filter (fun s => lower s.provider = lower payment.provider)
  [pool.filter (fun s => ∃ paymentId ∈ paymentIdKey payment.providerPaymentId, paymentIdKey s.providerPaymentId = some paymentId),
    pool.filter (fun s => ∃ ref ∈ references payment, ref ∈ orderReferences s),
    pool.filter (fun s => ∃ ref ∈ paymentBankReferences payment, ref ∈ settlementBankReferences s),
    pool.filter (fun s => amountMatches rules payment s ∧
      payment.createdAt.localNaive - window rules ≤ s.settledAt.localNaive ∧
      s.settledAt.localNaive ≤ payment.createdAt.localNaive + window rules)]

def tiers (rules : ReconciliationRules) (payment : Payment) (settlements : List Settlement) :
    List (List Settlement) := tiersWith settlementReferences rules payment settlements

/-- The settlements of the first rule that accepts any. -/
def decidingTier (rules : ReconciliationRules) (payment : Payment) (settlements : List Settlement) :
    List Settlement := Tiers.deciding (tiers rules payment settlements)

/-- A decision says what a tier says: matched with its only member, or unmatched
with its members as the candidates, none when it has no member. -/
structure Settles (tier : List Settlement) (decision : MatchDecision) : Prop where
  matched : decision.matched = true ↔ tier.length = 1
  record : ∀ id, decision.matchedRecordId = some id ↔ ∃ s, tier = [s] ∧ s.id = id
  candidates : decision.candidates.Perm (if tier.length ≤ 1 then [] else tier.map candidate)

end Platform
end RCAA
