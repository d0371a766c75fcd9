import RCAA.Ingestion.Merchants
import RCAA.Ingestion.Providers

/-! The money of a settlement from what a client or a provider supplies to its row. The
row reads its gross amount, fee and tax from the record's metadata alone, so they are the
supplied ones exactly when the metadata holds the same amounts, in rupees. -/

namespace RCAA

/-! ## What is supplied -/

/-- The amounts of a settlement in rupees, those that are given. -/
structure Supplied where
  gross : Option Decimal
  fee : Option Decimal
  tax : Option Decimal
  net : Option Decimal

/-- What a settlement is imported from: its amounts, and what its record takes as
metadata and as net amount. -/
structure SettlementInput where
  supplied : Supplied
  metadata : Value
  net : Option Decimal

/-- The row has the supplied amounts, to two places. -/
structure SettlementInput.Preserved (input : SettlementInput) (row : Settlement) : Prop where
  gross : ∀ x ∈ input.supplied.gross, Decimal.Rounds (-2) x.toRat row.grossAmount
  fee : ∀ x ∈ input.supplied.fee, Decimal.Rounds (-2) x.toRat row.fee
  tax : ∀ x ∈ input.supplied.tax, Decimal.Rounds (-2) x.toRat row.tax
  net : ∀ x ∈ input.supplied.net, Decimal.Rounds (-2) x.toRat row.netAmount

/-- The net amount an adapter computes, with 28 digits. -/
def netOfRupees (gross fee tax : Decimal) : Decimal :=
  ((((gross.inContext 28).sub (fee.inContext 28)).inContext 28).sub (tax.inContext 28)).inContext 28

/-- Amounts of a provider; what is not given counts as nothing in the net. -/
def providerInput (gross fee tax : Option Decimal) (metadata : RawData) : SettlementInput where
  supplied := { gross, fee, tax, net := some (((gross.getD .zero).sub (fee.getD .zero)).sub (tax.getD .zero)) }
  metadata := .object metadata
  net := some (netOfRupees (gross.getD .zero) (fee.getD .zero) (tax.getD .zero))

section Runtime
variable [Runtime]

/-- The amount the text of a value stands for. -/
def amountOf (value : Value) : Option Decimal :=
  match Decimal.parse (strip value.text) with
  | .finite amount => some amount
  | _ => none

/-- An amount under its key, or else under the same key of the metadata. -/
def suppliedAmount (data : Dict) (key : String) : Option Decimal :=
  ((data.get? key).bind amountOf).or (((metadataOf data).fields.get? key).bind fun value => amountOf (.scalar value))

def recordInput (data : Dict) : SettlementInput where
  supplied := {
    gross := suppliedAmount data "gross_amount"
    fee := suppliedAmount data "fee"
    tax := suppliedAmount data "tax"
    net := amountOf (netOf data) }
  metadata := metadataOf data
  net := amountOf (netOf data)

/-- The amount the row reads under a key of the metadata. -/
def SettlementInput.read (input : SettlementInput) (key : String) (default : Option Decimal) : Option Decimal :=
  match input.metadata.fields.get? key with
  | none => default
  | some value => amountOf (.scalar value)

/-- The metadata holds the supplied amounts, to two places; without a gross amount there
it is the net, without a fee or a tax there they are nothing. -/
structure SettlementInput.Carried (input : SettlementInput) : Prop where
  gross : ∀ x ∈ input.supplied.gross, ∃ y ∈ input.read "gross_amount" input.net, x.round (-2) = y.round (-2)
  fee : ∀ x ∈ input.supplied.fee, ∃ y ∈ input.read "fee" (some .zero), x.round (-2) = y.round (-2)
  tax : ∀ x ∈ input.supplied.tax, ∃ y ∈ input.read "tax" (some .zero), x.round (-2) = y.round (-2)
  net : ∀ x ∈ input.supplied.net, ∃ y ∈ input.net, x.round (-2) = y.round (-2)

end Runtime

section Providers
variable [ProviderRuntime]

/-- The rupees of an amount of a payload. -/
def payloadAmount (payload : RawData) (key : String) : Option Decimal :=
  match (payload.get? key).map exactDecimal with
  | some (.ok (.finite paise)) => some paise.hundredth
  | _ => none

def payloadInput (payload : RawData) : SettlementInput :=
  providerInput (payloadAmount payload "amount") (payloadAmount payload "fees") (payloadAmount payload "tax") payload

/-- The rupees of an amount of a row of the report. -/
def rowAmount (row : RawData) (key : String) : Option Decimal :=
  if (row.get key).truthy then (amountOf (.scalar (row.get key))).map Decimal.hundredth
  else (row.get? key).map fun _ => .zero

def rowInput (row : RawData) : SettlementInput :=
  providerInput (rowAmount row "amount") (rowAmount row "fee") (rowAmount row "tax")
    (row.set "settlement_group_id" (row.get "settlement_id"))

/-! ## Where settlements come from -/

/-- A call that imports settlements. -/
inductive SettlementSource where
  | records (data : List Dict) (source : String) (provider merchantId : Option String) (commit : Bool)
  | upload (merchantId : String) (rows : List Dict) (mapping : List (String × String)) (source : String)
      (provider : Option String)
  | webhook (payloads : List RawData) (source : String) (merchantId : Option String)
  | report (merchantId : String) (items : List RawData)

namespace SettlementSource

def run (draws : Draws) (session : Session) : SettlementSource → Except IngestError IngestReport × Session
  | .records data source provider merchantId commit =>
    ingestRecords draws session data source .settlement provider merchantId commit
  | .upload merchantId rows mapping source provider =>
    importRows draws session merchantId .settlements rows mapping source provider
  | .webhook payloads source merchantId => ingestProviderPayload draws session payloads .settlement source merchantId
  | .report merchantId items => syncSettlements draws session merchantId items

/-- The rows of a report that are settled payments or payments to settle. -/
def settles (row : RawData) : Bool := decide (entityId row ≠ "" ∧ entityType row = "payment")

/-- The settlements of a call, in the order of their records. -/
def inputs : SettlementSource → List SettlementInput
  | .records data _ _ _ _ => data.map recordInput
  | .upload _ rows mapping _ _ => rows.map fun row => recordInput (mappedRow mapping row)
  | .webhook payloads _ _ => payloads.map payloadInput
  | .report _ items => (items.filter settles).map rowInput

/-- The records a call hands on to be normalized. -/
def handedOn : SettlementSource → Except IngestError (List Dict)
  | .records data _ _ _ _ => .ok data
  | .upload _ rows mapping _ _ => .ok (transformRows .settlements rows mapping)
  | .webhook payloads _ _ => payloads.mapM normalizeSettlement
  | .report merchantId items => do
    let lines ← normalizeCombined items
    return stampedLines merchantId lines.settlements

end SettlementSource
end Providers

/-! ## One row -/

/-- Trimming leaves a text of letters, digits, points and signs as it is. -/
def StripsBlanks [Platform] : Prop :=
  ∀ text : String, (∀ c ∈ text.toList, c.isAlphanum = true ∨ c ∈ ['.', '+', '-']) → strip text = text

section Row
variable [Runtime]

theorem toDecimal_ok {value : Value} {field : String} {nonNegative : Bool} {amount : Decimal}
    (read : toDecimal value field nonNegative = .ok amount) :
    ∃ x, amountOf value = some x ∧ amount = x.round (-2) := by
  simp only [toDecimal] at read
  split at read
  · cases read
  · cases read
  · next x parsed =>
    split at read
    · cases read
    · split at read
      · cases read
      · split at read
        · cases read
        · next quantized =>
          cases read
          refine ⟨x, ?_, Decimal.quantize_eq quantized⟩
          simp only [amountOf, parsed]

namespace StripsBlanks

omit [Runtime] in
theorem strip_decimal [Platform] (strips : StripsBlanks) (d : Decimal) : strip d.str = d.str := by
  apply strips
  intro c member
  have digits : ∀ c ∈ Decimal.digits d.coeff.natAbs, c.isDigit = true := fun c inside => Decimal.digits_isDigit inside
  rw [Decimal.str, String.toList_ofList, List.mem_append] at member
  rcases member with sign | body
  · split at sign
    · rw [List.mem_singleton.mp sign]
      decide
    · cases sign
  · rcases Decimal.layout_mem digits d.exponent c body with digit | rfl | rfl | rfl | rfl
    · exact .inl (by simp [Char.isAlphanum, digit])
    all_goals decide

theorem amountOf_decimal (strips : StripsBlanks) (d : Decimal) : amountOf (.decimal d) = some d := by
  simp only [amountOf, Value.text, strips.strip_decimal d, Decimal.parse_str]

theorem amountOf_str (strips : StripsBlanks) (d : Decimal) : amountOf (.str d.str) = some d := by
  simp only [amountOf, Value.str, Value.text, Scalar.text, strips.strip_decimal d, Decimal.parse_str]

theorem amountOf_zero (strips : StripsBlanks) : amountOf (.scalar (.int 0)) = some .zero := strips.amountOf_str .zero

theorem amountOf_nan (strips : StripsBlanks) : amountOf (.str "NaN") = none := by
  have letters : "NaN".toList.all Char.isAlphanum = true := by decide
  have kept : strip "NaN" = "NaN" := strips "NaN" fun c member => .inl (List.all_eq_true.mp letters c member)
  have special : Decimal.parse "NaN" = .special := by decide
  simp only [amountOf, Value.str, Value.text, Scalar.text, kept, special]

end StripsBlanks

theorem SettlementInput.read_eq {input : SettlementInput} {fields : RawData} (whole : input.metadata.fields = fields)
    (key : String) (default : Value) : amountOf (metaGet fields key default) = input.read key (amountOf default) := by
  rw [read, whole, metaGet]
  cases fields.get? key <;> rfl

omit [Runtime] in
/-- The entries a row takes from a record's metadata. -/
theorem storedMetadata_fields {record : NormalizedRecord} {fields : RawData}
    (object : storedMetadata record = .object fields) : record.metadata.fields = fields := by
  unfold storedMetadata Value.or at object
  split at object
  · rw [object]
    rfl
  · next falsy =>
    cases object
    cases whole : record.metadata with
    | object entries => simpa [whole, Value.truthy, Value.fields] using falsy
    | scalar | decimal | timestamp | other => rfl

omit [Runtime] in
/-- What a supplied amount is compared with is what the row reads. -/
theorem rounds_iff {supplied read : Option Decimal} {stored y : Decimal} (found : read = some y)
    (rounded : stored = y.round (-2)) :
    (∀ x ∈ supplied, Decimal.Rounds (-2) x.toRat stored) ↔ ∀ x ∈ supplied, ∃ y ∈ read, x.round (-2) = y.round (-2) := by
  refine forall₂_congr fun x _ => ?_
  rw [(Decimal.round_rounds (-2) x).iff_eq, found, rounded]
  simp

/-- A record's data takes its metadata and its net amount from the input. -/
structure SettlementInput.Describes (input : SettlementInput) (data : Dict) : Prop where
  metadata : metadataOf data = input.metadata
  net : ∀ n, amountOf (netOf data) = some n → input.net = some n

/-- The row of a settlement has the supplied amounts exactly when its metadata carries them. -/
theorem Built.preserved_iff (strips : StripsBlanks) {record : NormalizedRecord} {row : Settlement} {data : Dict}
    {source : String} {provider : Option String} {received : DateTime} (built : Built record (.settlement row))
    (accepted : normalizeRecord data source .settlement provider received = .ok record) {input : SettlementInput}
    (describes : input.Describes data) : input.Preserved row ↔ input.Carried := by
  have kept := normalizeRecord_readFrom accepted
  have metadata : record.metadata = metadataOf data := kept.metadata
  obtain ⟨net, amount, read⟩ := kept.money
  obtain ⟨s, fields, net', same, object, amount', netAmount, gross, fee, tax⟩ := built.money kept.type
  cases same
  obtain rfl : net = net' := Option.some.inj (amount.symm.trans amount')
  have whole : input.metadata.fields = fields := by
    rw [← describes.metadata, ← metadata]
    exact storedMetadata_fields object
  obtain ⟨n, found, netRounded⟩ := toDecimal_ok read
  have netFound := describes.net n found
  obtain ⟨f, feeFound, feeRounded⟩ := toDecimal_ok fee
  obtain ⟨t, taxFound, taxRounded⟩ := toDecimal_ok tax
  rw [SettlementInput.read_eq whole, strips.amountOf_zero] at feeFound taxFound
  -- Without a gross amount in the metadata both read the net, the row its rounding.
  obtain ⟨g, grossFound, grossRounded⟩ : ∃ g, input.read "gross_amount" input.net = some g ∧
      row.grossAmount = g.round (-2) := by
    obtain ⟨x, found, rounded⟩ := toDecimal_ok gross
    rw [SettlementInput.read_eq whole, strips.amountOf_decimal] at found
    unfold SettlementInput.read at found ⊢
    split at found
    · cases found
      exact ⟨n, netFound, by rw [rounded, netRounded, Decimal.round_round]⟩
    · exact ⟨x, found, rounded⟩
  constructor
  · rintro ⟨sameGross, sameFee, sameTax, sameNet⟩
    exact ⟨(rounds_iff grossFound grossRounded).mp sameGross, (rounds_iff feeFound feeRounded).mp sameFee,
      (rounds_iff taxFound taxRounded).mp sameTax, (rounds_iff netFound (netAmount.trans netRounded)).mp sameNet⟩
  · rintro ⟨sameGross, sameFee, sameTax, sameNet⟩
    exact ⟨(rounds_iff grossFound grossRounded).mpr sameGross, (rounds_iff feeFound feeRounded).mpr sameFee,
      (rounds_iff taxFound taxRounded).mpr sameTax, (rounds_iff netFound (netAmount.trans netRounded)).mpr sameNet⟩

end Row

/-! ## What each source hands on -/

section Runtime
variable [Runtime]

theorem recordInput_describes (data : Dict) : (recordInput data).Describes data := ⟨rfl, fun _ found => found⟩

theorem upload_describes (mapping : List (String × String)) (row : Dict) :
    (recordInput (mappedRow mapping row)).Describes (transformRow .settlements mapping row) := by
  have metadata : metadataOf (transformRow .settlements mapping row) = metadataOf (mappedRow mapping row) := by
    simp only [metadataOf, Dict.get]
    rw [transformRow_get? (by decide), transformRow_get? (by decide)]
  have net : netOf (transformRow .settlements mapping row) = netOf (mappedRow mapping row) := by
    simp only [netOf, Dict.getD, Dict.get]
    rw [transformRow_get? (by decide), transformRow_get? (by decide)]
  exact ⟨metadata, fun n found => by rwa [net] at found⟩

end Runtime

theorem minus_finite {a b : Decimal.Parsed} {n : Decimal} (finite : minus a b = .finite n) :
    ∃ x y, a = .finite x ∧ b = .finite y ∧ n = (x.sub y).inContext 28 := by
  cases a <;> cases b <;> cases finite
  exact ⟨_, _, rfl, rfl, rfl⟩

theorem toRupees_finite {a : Decimal.Parsed} {n : Decimal} (finite : toRupees a = .finite n) :
    ∃ x, a = .finite x ∧ n = x.hundredth.inContext 28 := by
  cases a <;> cases finite
  exact ⟨_, rfl, rfl⟩

/-- A net amount that is a number is computed from numbers. -/
theorem net_finite {gross fee tax : Decimal.Parsed} {n : Decimal}
    (finite : minus (minus (toRupees gross) (toRupees fee)) (toRupees tax) = .finite n) :
    ∃ g f t, gross = .finite g ∧ fee = .finite f ∧ tax = .finite t ∧ n = netOfRupees g.hundredth f.hundredth t.hundredth := by
  obtain ⟨_, _, difference, third, rfl⟩ := minus_finite finite
  obtain ⟨_, _, first, second, rfl⟩ := minus_finite difference
  obtain ⟨g, rfl, rfl⟩ := toRupees_finite first
  obtain ⟨f, rfl, rfl⟩ := toRupees_finite second
  obtain ⟨t, rfl, rfl⟩ := toRupees_finite third
  exact ⟨g, f, t, rfl, rfl, rfl, rfl⟩

section Runtime
variable [Runtime]

theorem StripsBlanks.amountText_finite (strips : StripsBlanks) {amount : Decimal.Parsed} {n : Decimal}
    (found : amountOf (.str (amountText amount)) = some n) : amount = .finite n := by
  cases amount with
  | finite d =>
    rw [amountText, strips.amountOf_str] at found
    rw [Option.some.inj found]
  | special | invalid =>
    have none := strips.amountOf_nan.symm.trans found
    cases none

theorem StripsBlanks.amountValue_finite (strips : StripsBlanks) {amount : Decimal.Parsed} {n : Decimal}
    (found : amountOf (amountValue amount) = some n) : amount = .finite n := by
  cases amount with
  | finite d =>
    rw [amountValue, strips.amountOf_decimal] at found
    rw [Option.some.inj found]
  | special | invalid =>
    have none := strips.amountOf_nan.symm.trans found
    cases none

end Runtime

section Providers
variable [ProviderRuntime]

theorem payloadAmount_given {payload : RawData} {key : String} {value : Scalar} {paise : Decimal}
    (given : payload.get? key = some value) (read : exactDecimal value = .ok (.finite paise)) :
    payloadAmount payload key = some paise.hundredth := by
  simp only [payloadAmount, given, Option.map_some, read]

/-- An amount with a default of nothing. -/
theorem payloadAmount_default {payload : RawData} {key : String} {paise : Decimal}
    (read : exactDecimal (payload.getD key (.int 0)) = .ok (.finite paise)) :
    (payloadAmount payload key).getD .zero = paise.hundredth := by
  unfold RawData.getD at read
  cases given : payload.get? key with
  | none =>
    rw [given] at read
    cases read
    simp only [payloadAmount, given]
    rfl
  | some value =>
    rw [given] at read
    rw [payloadAmount_given given read]
    rfl

/-- A payload of a settlement names no currency and is its metadata. -/
theorem normalizeSettlement_ok {payload : RawData} {data : Dict} (normalized : normalizeSettlement payload = .ok data) :
    data.getD "currency" (.str "INR") = .str "INR" ∧ metadataOf data = .object payload ∧
      ∃ amount gross fee tax, payload.item "amount" = .ok amount ∧ exactDecimal amount = .ok gross ∧
        exactDecimal (payload.getD "fees" (.int 0)) = .ok fee ∧ exactDecimal (payload.getD "tax" (.int 0)) = .ok tax ∧
        netOf data = .str (amountText (minus (minus (toRupees gross) (toRupees fee)) (toRupees tax))) := by
  obtain ⟨amount, given, normalized⟩ := Outcome.bind_ok normalized
  obtain ⟨_, grossMade, normalized⟩ := Outcome.bind_ok normalized
  obtain ⟨_, feeMade, normalized⟩ := Outcome.bind_ok normalized
  obtain ⟨_, taxMade, normalized⟩ := Outcome.bind_ok normalized
  obtain ⟨settledAt, _, normalized⟩ := Outcome.bind_ok normalized
  obtain ⟨id, _, normalized⟩ := Outcome.bind_ok normalized
  cases normalized
  obtain ⟨gross, grossRead, rfl⟩ := Outcome.map_ok grossMade
  obtain ⟨fee, feeRead, rfl⟩ := Outcome.map_ok feeMade
  obtain ⟨tax, taxRead, rfl⟩ := Outcome.map_ok taxMade
  exact ⟨rfl, by cases payload <;> rfl, amount, gross, fee, tax, given, grossRead, feeRead, taxRead, rfl⟩

theorem payload_describes (strips : StripsBlanks) {payload : RawData} {data : Dict}
    (normalized : normalizeSettlement payload = .ok data) : (payloadInput payload).Describes data := by
  obtain ⟨_, metadata, amount, gross, fee, tax, given, grossRead, feeRead, taxRead, net⟩ := normalizeSettlement_ok normalized
  constructor
  · exact metadata
  · intro n found
    rw [net] at found
    obtain ⟨g, f, t, rfl, rfl, rfl, rfl⟩ := net_finite (strips.amountText_finite found)
    have amountGiven : payload.get? "amount" = some amount := by
      unfold RawData.item at given
      split at given
      · cases given
      · next value there =>
        cases given
        exact there
    rw [payloadInput, providerInput, payloadAmount_given amountGiven grossRead, payloadAmount_default feeRead,
      payloadAmount_default taxRead]
    rfl

theorem readDecimal_finite {text : String} {amount : Decimal} (read : readDecimal text = .ok (.finite amount)) :
    Decimal.parse (strip text) = .finite amount := by
  unfold readDecimal at read
  split at read
  · cases read
  · exact Except.ok.inj read

/-- An amount of the report, an empty one nothing. -/
theorem rowAmount_default (strips : StripsBlanks) {row : RawData} {key : String} {paise : Decimal}
    (read : reportAmount row key = .ok (.finite paise)) : (rowAmount row key).getD .zero = paise.hundredth := by
  have parsed := readDecimal_finite read
  unfold Scalar.or at parsed
  unfold rowAmount
  by_cases given : (row.get key).truthy = true
  · rw [if_pos given] at parsed ⊢
    have found : amountOf (.scalar (row.get key)) = some paise := by
      rw [amountOf, Value.text, parsed]
    rw [found]
    rfl
  · rw [if_neg given] at parsed ⊢
    have zero : some Decimal.zero = some paise := by
      rw [← strips.amountOf_zero, amountOf, Value.text, parsed]
    cases zero
    cases row.get? key <;> rfl

theorem rowTerms_ok {row : RawData} {terms : RowTerms} (read : rowTerms row = .ok terms) :
    terms.currency = .str (upper ((row.get "currency").or (.str "INR")).text) ∧
      ∃ amount fee tax, reportAmount row "amount" = .ok amount ∧ reportAmount row "fee" = .ok fee ∧
        reportAmount row "tax" = .ok tax ∧ terms.amount = toRupees amount ∧ terms.fee = toRupees fee ∧
        terms.tax = toRupees tax := by
  obtain ⟨createdDt, _, read⟩ := Outcome.bind_ok read
  obtain ⟨settledDt, _, read⟩ := Outcome.bind_ok read
  obtain ⟨amount, amountRead, read⟩ := Outcome.bind_ok read
  obtain ⟨fee, feeRead, read⟩ := Outcome.bind_ok read
  obtain ⟨tax, taxRead, read⟩ := Outcome.bind_ok read
  cases read
  exact ⟨rfl, amount, fee, tax, amountRead, feeRead, taxRead, rfl, rfl, rfl⟩

/-- The metadata of a settlement line is its row, the group it belongs to noted. -/
theorem settlementLine_metadata (row : RawData) (terms : RowTerms) (merchantId : String) :
    metadataOf ((settlementLine row terms).set "merchant_id" (.str merchantId)) =
      .object (row.set "settlement_group_id" (row.get "settlement_id")) := by
  change ((Value.object (row.set "settlement_group_id" (row.get "settlement_id"))).or .null).or (.object []) =
    .object (row.set "settlement_group_id" (row.get "settlement_id"))
  cases row.set "settlement_group_id" (row.get "settlement_id") <;> rfl

theorem settlementLine_describes (strips : StripsBlanks) {row : RawData} {terms : RowTerms} (merchantId : String)
    (read : rowTerms row = .ok terms) :
    (rowInput row).Describes ((settlementLine row terms).set "merchant_id" (.str merchantId)) := by
  obtain ⟨_, amount, fee, tax, amountRead, feeRead, taxRead, grossMade, feeMade, taxMade⟩ := rowTerms_ok read
  constructor
  · exact settlementLine_metadata row terms merchantId
  · intro n found
    change amountOf (amountValue (minus (minus terms.amount terms.fee) terms.tax)) = some n at found
    rw [grossMade, feeMade, taxMade] at found
    obtain ⟨g, f, t, rfl, rfl, rfl, rfl⟩ := net_finite (strips.amountValue_finite found)
    rw [rowInput, providerInput, rowAmount_default strips amountRead, rowAmount_default strips feeRead,
      rowAmount_default strips taxRead]

/-- A row brings one settlement when it settles a payment, and none otherwise. -/
theorem normalizeRow_settlements {row : RawData} {line : Lines} (normalized : normalizeRow row = .ok line) :
    (SettlementSource.settles row = true ∧ ∃ terms, rowTerms row = .ok terms ∧ line.settlements = [settlementLine row terms]) ∨
      (SettlementSource.settles row = false ∧ line.settlements = []) := by
  unfold normalizeRow at normalized
  by_cases unnamed : entityId row = ""
  · rw [if_pos unnamed] at normalized
    cases normalized
    exact .inr ⟨by simp [SettlementSource.settles, unnamed], rfl⟩
  · rw [if_neg unnamed] at normalized
    obtain ⟨terms, read, normalized⟩ := Outcome.bind_ok normalized
    by_cases payment : entityType row = "payment"
    · rw [if_pos payment] at normalized
      cases normalized
      exact .inl ⟨by simp [SettlementSource.settles, unnamed, payment], terms, read, rfl⟩
    · rw [if_neg payment] at normalized
      refine .inr ⟨by simp [SettlementSource.settles, payment], ?_⟩
      split at normalized <;> (cases normalized; rfl)

/-- The settlement lines of a report are those of the rows that settle a payment. -/
theorem report_lines {items : List RawData} {lines : List Lines} (merchantId : String)
    (normalized : items.mapM normalizeRow = .ok lines) :
    List.Forall₂ (fun row data => ∃ terms, rowTerms row = .ok terms ∧
        data = (settlementLine row terms).set "merchant_id" (.str merchantId))
      (items.filter SettlementSource.settles) (stampedLines merchantId (lines.flatMap Lines.settlements)) := by
  induction items generalizing lines with
  | nil =>
    cases normalized
    exact List.Forall₂.nil
  | cons row rest ih =>
    obtain ⟨line, others, first, later, rfl⟩ := Outcome.mapM_ok_cons normalized
    rcases normalizeRow_settlements first with ⟨settles, terms, read, line⟩ | ⟨other, line⟩
    · rw [List.filter_cons_of_pos settles, List.flatMap_cons, line]
      exact List.Forall₂.cons ⟨terms, read, rfl⟩ (ih later)
    · rw [List.filter_cons_of_neg (by simp [other]), List.flatMap_cons, line]
      exact ih later

/-! ## Every accepted settlement -/

/-- A call that returns has imported the records it handed on. -/
theorem SettlementSource.run_ok {draws : Draws} {session after : Session} {source : SettlementSource} {report : IngestReport}
    (ran : source.run draws session = (.ok report, after)) :
    ∃ data name provider merchantId commit, source.handedOn = .ok data ∧
      ingestRecords draws session data name .settlement provider merchantId commit = (.ok report, after) := by
  cases source with
  | records data name provider merchantId commit => exact ⟨data, name, provider, merchantId, commit, rfl, ran⟩
  | upload merchantId rows mapping name provider =>
    exact ⟨transformRows .settlements rows mapping, name, provider, some merchantId, false, rfl, ran⟩
  | webhook payloads name merchantId =>
    simp only [run, ingestProviderPayload] at ran
    split at ran
    · cases (Prod.mk.inj ran).1
    · next records normalized => exact ⟨records, name, _, merchantId, true, normalized, ran⟩
  | report merchantId items =>
    simp only [run, syncSettlements] at ran
    split at ran
    · cases (Prod.mk.inj ran).1
    · next lines normalized => exact ⟨_, _, _, _, _, by rw [handedOn, normalized]; rfl, ran⟩

/-- What is read of each settlement of a call, in the order of their records. -/
def SettlementSource.each {α : Type} (ofRecord : Dict → α) (ofUpload : List (String × String) → Dict → α)
    (ofPayload ofLine : RawData → α) : SettlementSource → List α
  | .records data _ _ _ _ => data.map ofRecord
  | .upload _ rows mapping _ _ => rows.map (ofUpload mapping)
  | .webhook payloads _ _ => payloads.map ofPayload
  | .report _ items => (items.filter settles).map ofLine

/-- What relates each supplied settlement to the record made of it relates a call to what it hands on. -/
theorem SettlementSource.handedOn_forall₂ {α : Type} {R : α → Dict → Prop} {ofRecord : Dict → α}
    {ofUpload : List (String × String) → Dict → α} {ofPayload ofLine : RawData → α}
    (records : ∀ item, R (ofRecord item) item)
    (uploads : ∀ mapping row, R (ofUpload mapping row) (transformRow .settlements mapping row))
    (payloads : ∀ payload data, normalizeSettlement payload = .ok data → R (ofPayload payload) data)
    (lines : ∀ merchantId row terms, rowTerms row = .ok terms →
      R (ofLine row) ((settlementLine row terms).set "merchant_id" (.str merchantId)))
    {source : SettlementSource} {data : List Dict} (handed : source.handedOn = .ok data) :
    List.Forall₂ R (source.each ofRecord ofUpload ofPayload ofLine) data := by
  cases source with
  | records items name provider merchantId commit =>
    cases handed
    rw [each, List.forall₂_map_left_iff]
    exact List.forall₂_same.mpr fun item _ => records item
  | upload merchantId rows mapping name provider =>
    cases handed
    rw [each, transformRows, List.forall₂_map_left_iff, List.forall₂_map_right_iff]
    exact List.forall₂_same.mpr fun row _ => uploads mapping row
  | webhook supplied name merchantId =>
    rw [each, List.forall₂_map_left_iff]
    exact (Outcome.mapM_forall₂ handed).imp payloads
  | report merchantId items =>
    obtain ⟨collected, normalized, rest⟩ := Outcome.bind_ok handed
    obtain ⟨perRow, made, rest'⟩ := Outcome.bind_ok normalized
    cases rest
    cases rest'
    rw [each, List.forall₂_map_left_iff]
    refine (report_lines merchantId made).imp fun row data line => ?_
    obtain ⟨terms, read, rfl⟩ := line
    exact lines merchantId row terms read

theorem SettlementSource.handedOn_describes (strips : StripsBlanks) {source : SettlementSource} {data : List Dict}
    (handed : source.handedOn = .ok data) : List.Forall₂ SettlementInput.Describes source.inputs data := by
  have inputs : source.inputs =
      source.each recordInput (fun mapping row => recordInput (mappedRow mapping row)) payloadInput rowInput := by
    cases source <;> rfl
  rw [inputs]
  exact handedOn_forall₂ recordInput_describes upload_describes (fun _ _ => payload_describes strips)
    (fun merchantId _ _ => settlementLine_describes strips merchantId) handed

/-- Every settlement a call accepts has the supplied amounts exactly when its input
carries them in its metadata. -/
theorem settlement_money_preserved_iff (strips : StripsBlanks) {draws : Draws} {session after : Session}
    {source : SettlementSource} {report : IngestReport} (ran : source.run draws session = (.ok report, after))
    {accepted : Created} (made : accepted ∈ report.rows) :
    ∃ input row, source.inputs[accepted.index]? = some input ∧ accepted.row = .settlement row ∧
      (input.Preserved row ↔ input.Carried) := by
  obtain ⟨data, name, provider, merchantId, commit, handed, ran⟩ := source.run_ok ran
  obtain ⟨origin, -⟩ := ingestRecords_madeOf ran made
  obtain ⟨item, _, _, _, inside, read⟩ := origin.read
  obtain ⟨_, _, amount, timestamp, checked, made⟩ := origin.made
  obtain ⟨input, found, describes⟩ := Outcome.forall₂_getElem? (SettlementSource.handedOn_describes strips handed) inside
  have built := rowOf_built checked made
  obtain ⟨row, _, _, whole, _⟩ := built.money origin.recordType
  rw [whole] at built
  exact ⟨input, row, found, whole, built.preserved_iff strips read describes⟩

end Providers

section Examples
open PlainText

namespace PlainText

theorem stripsBlanks : StripsBlanks := by
  intro text plain
  have kept {cs : List Char} (inside : ∀ c ∈ cs, c ∈ text.toList) : cs.dropWhile Char.isWhitespace = cs := by
    cases cs with
    | nil => rfl
    | cons c rest =>
      have visible : c.isWhitespace = false := by
        by_contra blank
        rw [Bool.not_eq_false, Char.isWhitespace, Bool.or_eq_true, Bool.or_eq_true, Bool.or_eq_true, decide_eq_true_iff,
          decide_eq_true_iff, decide_eq_true_iff, decide_eq_true_iff] at blank
        have letter := plain c (inside c List.mem_cons_self)
        rcases blank with ((rfl | rfl) | rfl) | rfl <;> exact absurd letter (by decide)
      rw [List.dropWhile_cons_of_neg (by simp [visible])]
  simp only [strip]
  rw [kept fun _ member => member, kept fun _ member => List.mem_reverse.mp member, List.reverse_reverse,
    String.ofList_toList]

/-- Timestamps of whole microseconds. -/
scoped instance plainProviders : ProviderRuntime where
  toRuntime := plainRuntime
  fromTimestamp seconds := seconds.number.map fun n => (n * 1000000).floor

end PlainText

/-- A settlement of 1000 less 10 and 2, with and without the amounts in its metadata. -/
def settlementRecord (metadata : RawData) : Dict :=
  [("external_id", .str "S102"), ("provider_payment_id", .str "P102"), ("gross_amount", .str "1000"), ("fee", .str "10"),
    ("tax", .str "2"), ("net_amount", .str "988"), ("status", .str "processed"), ("metadata", .object metadata)]

def importSettlement (metadata : RawData) : SettlementSource :=
  .records [settlementRecord metadata] "bank_csv" (some "demo") none true

def amounts : RawData := [("gross_amount", .str "1000"), ("fee", .str "10"), ("tax", .str "2")]

theorem settlement_money_preserved_iff_amounts : ∃ report accepted row,
    ((importSettlement amounts).run importDraws emptySession).1 = .ok report ∧ report.rows = [accepted] ∧
      accepted.row = .settlement row ∧ (recordInput (settlementRecord amounts)).Preserved row := by
  obtain ⟨report, returned⟩ : ∃ report, ((importSettlement amounts).run importDraws emptySession).1 = .ok report :=
    Outcome.exists_ok (by decide)
  obtain ⟨accepted, rows, index⟩ := only_row returned (by decide)
  obtain ⟨input, row, place, settlement, preserved_iff⟩ :=
    settlement_money_preserved_iff stripsBlanks (Prod.ext returned rfl) (rows ▸ List.mem_singleton_self accepted)
  rw [index] at place
  cases place
  exact ⟨report, accepted, row, returned, rows, settlement, preserved_iff.mpr (by constructor <;> decide)⟩

def storedFee : Record → Option Decimal
  | .settlement row => some row.fee
  | _ => none

/-- Supplied under its own keys, a fee of 10 is stored as 0. -/
theorem supplied_fee_is_lost :
    ¬∀ (source : SettlementSource) (draws : Draws) (session after : Session) (report : IngestReport),
      source.run draws session = (.ok report, after) → ∀ accepted ∈ report.rows, ∀ input row,
        source.inputs[accepted.index]? = some input → accepted.row = .settlement row → input.Preserved row := by
  intro law
  obtain ⟨report, returned, fee⟩ : ∃ report, ((importSettlement []).run importDraws emptySession).1 = .ok report ∧
      report.rows.map (fun c => storedFee c.row) = [some ⟨0, -2⟩] := Outcome.exists_ok_of_map (by decide)
  obtain ⟨accepted, rows, index⟩ := only_row returned (by decide)
  rw [rows, List.map_singleton, List.singleton_inj] at fee
  have every := law (importSettlement []) importDraws emptySession _ report (Prod.ext returned rfl) accepted
    (rows ▸ List.mem_singleton_self accepted) (recordInput (settlementRecord []))
  cases whole : accepted.row with
  | settlement row =>
    rw [whole, storedFee, Option.some.injEq] at fee
    have preserved := (every row (by rw [index]; rfl) whole).fee ⟨10, 0⟩ (by decide)
    rw [fee, (Decimal.round_rounds (-2) ⟨10, 0⟩).iff_eq] at preserved
    exact absurd preserved (by decide)
  | payment | refund | bank =>
    rw [whole] at fee
    cases fee

end Examples
end RCAA
