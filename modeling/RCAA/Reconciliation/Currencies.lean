import RCAA.Ingestion.SettlementMoney
import RCAA.Reconciliation.Sites

/-! The currency of a settlement from ingestion to reconciliation. Its table has no
column for it: what the record was accepted with is dropped, and the readers look in the
metadata, with two different defaults. -/

namespace RCAA

/-! ## What is supplied -/

/-- What a settlement's record reads its currency from, and the entries its row keeps. -/
structure Denomination where
  currency : Value
  metadata : RawData

section Providers
variable [ProviderRuntime]

/-- The settlements of a call, in the order of their records. -/
def SettlementSource.denominations : SettlementSource → List Denomination
  | .records data _ _ _ _ => data.map fun item => ⟨item.getD "currency" (.str "INR"), (metadataOf item).fields⟩
  | .upload _ rows mapping _ _ => rows.map fun row =>
    ⟨((mappedRow mapping row).get "currency").or (.str "INR"), (metadataOf (mappedRow mapping row)).fields⟩
  | .webhook payloads _ _ => payloads.map fun payload => ⟨.str "INR", payload⟩
  | .report _ items => (items.filter settles).map fun row =>
    ⟨.str (upper ((row.get "currency").or (.str "INR")).text), row.set "settlement_group_id" (row.get "settlement_id")⟩

/-- The record takes its currency and its metadata from what is supplied. -/
structure Denomination.Describes (d : Denomination) (data : Dict) : Prop where
  currency : data.getD "currency" (.str "INR") = d.currency
  metadata : (metadataOf data).fields = d.metadata

omit [ProviderRuntime] in
theorem upload_denominates (mapping : List (String × String)) (row : Dict) :
    Denomination.Describes
      ⟨((mappedRow mapping row).get "currency").or (.str "INR"), (metadataOf (mappedRow mapping row)).fields⟩
      (transformRow .settlements mapping row) := by
  constructor
  · simp only [Dict.getD, transformRow, if_true]
    rw [Dict.get?_setDefault (by decide), Dict.get?_setDefault (by decide), Dict.get?_setDefault (by decide),
      Dict.get?_setDefault (by decide), Dict.setDefault, Dict.get?_set, if_pos rfl, Option.getD_some]
  · simp only [metadataOf, Dict.get]
    rw [transformRow_get? (by decide), transformRow_get? (by decide)]

theorem payload_denominates {payload : RawData} {data : Dict} (normalized : normalizeSettlement payload = .ok data) :
    Denomination.Describes ⟨.str "INR", payload⟩ data := by
  obtain ⟨currency, metadata, _⟩ := normalizeSettlement_ok normalized
  exact ⟨currency, by rw [metadata, Value.fields]⟩

theorem settlementLine_denominates {row : RawData} {terms : RowTerms} (merchantId : String)
    (read : rowTerms row = .ok terms) :
    Denomination.Describes
      ⟨.str (upper ((row.get "currency").or (.str "INR")).text), row.set "settlement_group_id" (row.get "settlement_id")⟩
      ((settlementLine row terms).set "merchant_id" (.str merchantId)) := by
  refine ⟨(rowTerms_ok read).1, ?_⟩
  rw [settlementLine_metadata, Value.fields]

theorem SettlementSource.handedOn_denominates {source : SettlementSource} {data : List Dict}
    (handed : source.handedOn = .ok data) : List.Forall₂ Denomination.Describes source.denominations data := by
  have denominations : source.denominations = source.each
      (fun item => ⟨item.getD "currency" (.str "INR"), (metadataOf item).fields⟩)
      (fun mapping row => ⟨((mappedRow mapping row).get "currency").or (.str "INR"), (metadataOf (mappedRow mapping row)).fields⟩)
      (fun payload => ⟨.str "INR", payload⟩)
      (fun row => ⟨.str (upper ((row.get "currency").or (.str "INR")).text),
        row.set "settlement_group_id" (row.get "settlement_id")⟩) := by
    cases source <;> rfl
  rw [denominations]
  exact handedOn_forall₂ (fun _ => ⟨rfl, rfl⟩) upload_denominates (fun _ _ => payload_denominates)
    (fun merchantId _ _ => settlementLine_denominates merchantId) handed

end Providers

/-! ## What is compared -/

section Platform
variable [Platform]

/-- The codes are upper case already. -/
def UppersCodes : Prop := ∀ code ∈ supportedCurrencies, upper code = code

/-- Every comparison of the row's currency, in whatever run, is one of the currency `c`. -/
structure CurrencySurvives (c : String) (row : Settlement) : Prop where
  /-- The amount and time rule accepts the row for payments of the currency only, and for all of them. -/
  amountRule : ∀ rules payment, amountMatches rules payment row = true ↔
    upper payment.currency = c ∧ |row.netAmount.toRat - payment.amount.toRat| ≤ rules.amountTolerance.toRat
  /-- A match by amount and time is with a payment of the currency. -/
  matchedByAmount : ∀ order settlements rules payment, row ∈ settlements → (settlements.map Settlement.id).Nodup →
    ∀ decision, matchPaymentToSettlement order payment rules (buildSettlementIndexes order settlements) = decision →
      decision.method = .amountCurrencyTime ∨ decision.method = .toleranceMatch →
      decision.matchedRecordId = some row.id → upper payment.currency = c
  /-- A mismatch is found for payments of another currency only, and for all of them. -/
  mismatch : ∀ payment decision e, (currencyFindings payment row decision e).requests ≠ [] ↔ paymentCurrency payment ≠ c
  /-- A mismatch a run reports of the row is with a payment of another currency. -/
  mismatchReported : ∀ order settings store merchantId found, row ∈ store.settlements →
    survey order settings store merchantId = .ok found → ∀ r ∈ found.findings.requests,
      r.caseType = .currencyMismatch → r.matchedRecordId = some row.id →
      ∃ payment, r.payment = some payment ∧ paymentCurrency payment ≠ c
  /-- The bank leg looks among the bank rows of the currency, and compares with it. -/
  bankPool : ∀ order bank, (buildBankIndexes order bank).byCurrency.get (settlementCurrency row) =
    bank.filter fun b => upper b.currency = c
  bankPays : ∀ b, paysOut row b = true ↔ b.amount.toRat = row.netAmount.toRat ∧ upper b.currency = c

/-- The entries name the currency. -/
def Denomination.Carries (d : Denomination) (c : String) : Prop :=
  ∃ value, d.metadata.get? "currency" = some value ∧ upper value.text = c

theorem ruleDecision_eq_some {unique ambiguous : MatchMethod} {confidence : MatchConfidence} {reason reason' : String}
    {found : List Settlement} {decision : MatchDecision}
    (decided : ruleDecision unique confidence reason ambiguous reason' found = some decision) :
    (decision.method = unique ∨ decision.method = ambiguous) ∧
      ∀ id, decision.matchedRecordId = some id → ∃ s ∈ found, s.id = id := by
  rcases found with _ | ⟨s, _ | ⟨t, rest⟩⟩ <;> cases decided
  · exact ⟨.inl rfl, fun id record => ⟨s, List.mem_cons_self, Option.some.inj record⟩⟩
  · exact ⟨.inr rfl, fun id record => by cases record⟩

theorem not_by_amount {unique ambiguous : MatchMethod} {confidence : MatchConfidence} {reason reason' : String}
    {found : List Settlement} {decision : MatchDecision}
    (decided : ruleDecision unique confidence reason ambiguous reason' found = some decision)
    (other : ∀ method ∈ [unique, ambiguous], method ≠ .amountCurrencyTime ∧ method ≠ .toleranceMatch) :
    ¬(decision.method = .amountCurrencyTime ∨ decision.method = .toleranceMatch) := by
  rw [not_or]
  exact other _ (by simpa using (ruleDecision_eq_some decided).1)

/-- The settlement matched by amount and time passes their test. -/
theorem matched_by_amount {order : SetOrder} {settlements : List Settlement} {rules : ReconciliationRules} {payment : Payment}
    {decision : MatchDecision}
    (decided : matchPaymentToSettlement order payment rules (buildSettlementIndexes order settlements) = decision)
    (method : decision.method = .amountCurrencyTime ∨ decision.method = .toleranceMatch) {id : String}
    (record : decision.matchedRecordId = some id) : ∃ s ∈ settlements, s.id = id ∧ amountMatches rules payment s = true := by
  have listed {s : Settlement} (found : s ∈ timeMatches rules payment
      ((buildSettlementIndexes order settlements).byTime.get (lower payment.provider))) :
      s ∈ settlements ∧ amountMatches rules payment s = true := by
    have inside := (timeMatches_perm order rules payment settlements (lower payment.provider)).mem_iff.mp found
    simp only [List.mem_filter, decide_eq_true_eq] at inside
    exact ⟨inside.1.1, inside.2.1⟩
  simp only [matchPaymentToSettlement] at decided
  split at decided
  · subst decided
    cases record
  · rw [Option.getD_eq_iff] at decided
    rcases decided with decided | ⟨_, rfl⟩
    · simp only [Option.orElse_eq_some] at decided
      -- The three rules before it name methods of their own.
      rcases decided with decided | ⟨_, decided | ⟨_, decided | ⟨_, decided⟩⟩⟩
      · exact absurd method (not_by_amount decided (by decide))
      · exact absurd method (not_by_amount decided (by decide))
      · exact absurd method (not_by_amount decided (by decide))
      · obtain ⟨s, found, same⟩ := (ruleDecision_eq_some decided).2 id record
        exact ⟨s, (listed found).1, same, (listed found).2⟩
    · cases record

/-- A currency mismatch is found where the currencies differ. -/
theorem currencies_differ {rules : ReconciliationRules} {p : Payment} {s : Settlement} {decision : MatchDecision}
    {e : Expectation} {r : CaseRequest} (found : r ∈ (matchedFindings rules p s decision e).requests)
    (kind : r.caseType = .currencyMismatch) : settlementCurrency s ≠ paymentCurrency p := by
  simp only [matchedFindings, Findings.requests_flatten, List.mem_flatMap, List.mem_cons, List.not_mem_nil, or_false,
    exists_eq_or_imp, exists_eq_left, settlementStatusFindings, currencyFindings, delayFindings, amountFindings,
    Findings.mem_requests_only] at found
  rcases found with ⟨_, rfl⟩ | ⟨differs, rfl⟩ | ⟨_, rfl⟩ | ⟨_, rfl⟩
  · cases kind
  · simpa using differs
  · cases kind
  · cases kind

/-- The currency mismatches a run reports are at the matched settlements. -/
theorem Site.currencyMismatch {order : SetOrder} {settings : Settings} {store : Store} {merchantId : Option String}
    {record : Record} {r : CaseRequest} (site : Site order settings store merchantId record r)
    (kind : r.caseType = .currencyMismatch) :
    ∃ p s, s ∈ store.settlements ∧ r.payment = some p ∧ r.matchedRecordId = some s.id ∧
      settlementCurrency s ≠ paymentCurrency p := by
  have held := site.holds
  cases site with
  | payment _ found => exact absurd found.about.2.2 (by rw [kind]; decide)
  | duplicateRefund _ _ first found =>
    have other := (duplicateRefundGroupFindings_about first found).2.2.1
    rw [kind] at other
    cases other
  | @matched p s _ _ _ _ _ found =>
    obtain ⟨about, _⟩ := matchedFindings_about found
    exact ⟨p, s, held, about.payment, about.matchedRecordId, currencies_differ found kind⟩
  | _ => cases kind

/-! ## What the row keeps -/

/-- A row that names the currency is compared by it. -/
theorem CurrencySurvives.of_named {c : String} {row : Settlement} {value : Scalar}
    (named : row.rawData.get? "currency" = some value) (same : upper value.text = c) : CurrencySurvives c row := by
  have reads (default : Scalar) : upper (row.rawData.getD "currency" default).text = c := by
    rw [RawData.getD, named, Option.getD_some, same]
  have compared : settlementCurrency row = c := reads _
  have amountRule (rules : ReconciliationRules) (payment : Payment) : amountMatches rules payment row = true ↔
      upper payment.currency = c ∧ |row.netAmount.toRat - payment.amount.toRat| ≤ rules.amountTolerance.toRat := by
    rw [amountMatches_iff, reads, eq_comm]
  refine ⟨amountRule, ?_, ?_, ?_, ?_, ?_⟩
  · intro order settlements rules payment member distinct decision decided method record
    obtain ⟨s, listed, id, accepts⟩ := matched_by_amount decided method record
    obtain rfl := List.inj_on_of_nodup_map distinct listed member id
    exact ((amountRule rules payment).mp accepts).1
  · intro payment decision e
    by_cases same : c = paymentCurrency payment
    · simp [currencyFindings, compared, Findings.only, ← same]
    · simp [currencyFindings, compared, Findings.only, same, Ne.symm same]
  · intro order settings store merchantId found member surveyed r reported kind record
    obtain ⟨reviews, reviewed, rfl⟩ := Outcome.map_ok surveyed
    obtain ⟨_, site⟩ := (mem_requests_iff_site reviewed r).mp reported
    obtain ⟨p, s, held, payment, id, differs⟩ := site.currencyMismatch kind
    obtain rfl := List.inj_on_of_nodup_map store.settlementIds held member (Option.some.inj (id.symm.trans record))
    exact ⟨p, payment, compared ▸ differs.symm⟩
  · intro order bank
    rw [byCurrency_get, compared]
  · intro b
    rw [paysOut_iff, compared]

/-- A row compared by a supported currency names it: without an entry the amount and time
rule takes the payment's own currency. -/
theorem CurrencySurvives.named (codes : UppersCodes) {c : String} (supported : c ∈ supportedCurrencies) {row : Settlement}
    (survives : CurrencySurvives c row) : ∃ value, row.rawData.get? "currency" = some value ∧ upper value.text = c := by
  let credit : BankTransaction :=
    { id := "", externalId := "", amount := row.netAmount, currency := c, eventTimestamp := row.settledAt }
  have compared : settlementCurrency row = c := by
    have paid : paysOut row credit = true := (survives.bankPays credit).mpr ⟨rfl, codes c supported⟩
    rw [← ((paysOut_iff row credit).mp paid).2]
    exact codes c supported
  cases named : row.rawData.get? "currency" with
  | some value =>
    rw [settlementCurrency, RawData.getD, named, Option.getD_some] at compared
    exact ⟨value, rfl, compared⟩
  | none =>
    exfalso
    obtain ⟨other, code, differs⟩ : ∃ other ∈ supportedCurrencies, other ≠ c := by
      by_cases rupees : c = "INR"
      · exact ⟨"USD", by decide, by rw [rupees]; decide⟩
      · exact ⟨"INR", by decide, Ne.symm rupees⟩
    let payment : Payment :=
      { id := "", provider := "", providerPaymentId := "", amount := row.netAmount, currency := other, status := ""
        createdAt := row.settledAt }
    have accepts : amountMatches {} payment row = true := by
      rw [amountMatches_iff, RawData.getD, named, Option.getD_none]
      exact ⟨rfl, by simp [payment, Decimal.toRat]⟩
    have taken := ((survives.amountRule {} payment).mp accepts).1
    rw [codes other code] at taken
    exact differs taken

end Platform

section Providers
variable [ProviderRuntime]

/-- Every settlement a call accepts is compared by the currency its record names exactly
when its metadata names it too. -/
theorem settlement_currency_survives_iff (codes : UppersCodes) {draws : Draws} {session after : Session}
    {source : SettlementSource} {report : IngestReport} (ran : source.run draws session = (.ok report, after))
    {accepted : Created} (made : accepted ∈ report.rows) :
    ∃ d c row, source.denominations[accepted.index]? = some d ∧ toCurrency d.currency = .ok c ∧
      accepted.row = .settlement row ∧ row ∈ after.current.store.settlements ∧ (CurrencySurvives c row ↔ d.Carries c) := by
  obtain ⟨data, name, provider, merchantId, commit, handed, ran⟩ := source.run_ok ran
  obtain ⟨origin, stored⟩ := ingestRecords_madeOf ran made
  obtain ⟨item, _, _, _, inside, read⟩ := origin.read
  obtain ⟨_, _, amount, timestamp, checked, made⟩ := origin.made
  obtain ⟨d, found, describes⟩ := Outcome.forall₂_getElem? (SettlementSource.handedOn_denominates handed) inside
  obtain ⟨row, whole, kept⟩ := rowOf_settlement origin.recordType made
  have supplied := normalizeRecord_readFrom read
  have metadata : row.rawData = d.metadata := by
    rw [← storedMetadata_fields kept.metadata, supplied.metadata, ← describes.metadata]
    rfl
  have named := supplied.currency
  rw [describes.currency] at named
  rw [whole] at stored
  refine ⟨d, _, row, found, named, whole, Store.settlement_mem_rows.mp stored, fun survives => ?_, fun carries => ?_⟩
  · rw [Denomination.Carries, ← metadata]
    exact survives.named codes (toCurrency_supported named)
  · obtain ⟨value, named, same⟩ := carries
    exact .of_named (metadata ▸ named) same

end Providers

section Examples
open PlainText

theorem PlainText.uppersCodes : UppersCodes := by
  rw [UppersCodes]
  decide

/-- A settlement of 100 dollars, with and without an entry for its currency. -/
def dollarRecord (metadata : RawData) : Dict :=
  [("external_id", .str "S103"), ("provider_payment_id", .str "P103"), ("net_amount", .str "100"), ("currency", .str "USD"),
    ("status", .str "processed"), ("metadata", .object metadata)]

def importDollars (metadata : RawData) : SettlementSource :=
  .records [dollarRecord metadata] "razorpay_api" (some "razorpay") none true

theorem settlement_currency_survives_iff_named : ∃ report accepted row,
    ((importDollars [("currency", .str "USD")]).run importDraws emptySession).1 = .ok report ∧ report.rows = [accepted] ∧
      accepted.row = .settlement row ∧ CurrencySurvives "USD" row := by
  obtain ⟨report, returned⟩ : ∃ report,
      ((importDollars [("currency", .str "USD")]).run importDraws emptySession).1 = .ok report := Outcome.exists_ok (by decide)
  obtain ⟨accepted, rows, index⟩ := only_row returned (by decide)
  obtain ⟨d, c, row, place, code, settlement, _, survives_iff⟩ :=
    settlement_currency_survives_iff uppersCodes (Prod.ext returned rfl) (rows ▸ List.mem_singleton_self accepted)
  rw [index] at place
  cases place
  have dollars : toCurrency (.str "USD") = .ok "USD" := by decide
  cases dollars.symm.trans code
  exact ⟨report, accepted, row, returned, rows, settlement, survives_iff.mpr ⟨.str "USD", by decide, by decide⟩⟩

def storedRawData : Record → Option RawData
  | .settlement row => some row.rawData
  | _ => none

/-- Supplied under its own key, the currency is not in the row. -/
theorem supplied_currency_is_lost :
    ¬∀ (source : SettlementSource) (draws : Draws) (session after : Session) (report : IngestReport),
      source.run draws session = (.ok report, after) → ∀ accepted ∈ report.rows, ∀ d c row,
        source.denominations[accepted.index]? = some d → toCurrency d.currency = .ok c → accepted.row = .settlement row →
          CurrencySurvives c row := by
  intro law
  obtain ⟨report, returned, entries⟩ : ∃ report, ((importDollars []).run importDraws emptySession).1 = .ok report ∧
      report.rows.map (fun c => storedRawData c.row) = [some []] := Outcome.exists_ok_of_map (by decide)
  obtain ⟨accepted, rows, index⟩ := only_row returned (by decide)
  rw [rows, List.map_singleton, List.singleton_inj] at entries
  have every := law (importDollars []) importDraws emptySession _ report (Prod.ext returned rfl) accepted
    (rows ▸ List.mem_singleton_self accepted) ⟨.str "USD", []⟩ "USD"
  cases whole : accepted.row with
  | settlement row =>
    rw [whole, storedRawData, Option.some.injEq] at entries
    have survives := every row (by rw [index]; rfl) (by decide) whole
    obtain ⟨value, named, _⟩ := survives.named uppersCodes (by decide)
    rw [entries] at named
    cases named
  | payment | refund | bank =>
    rw [whole] at entries
    cases entries

end Examples
end RCAA
