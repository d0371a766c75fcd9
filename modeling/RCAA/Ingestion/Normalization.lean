import RCAA.Ingestion.Validation
import RCAA.Reconciliation.BankReferences

/-! What a normalized record promises the tables, and which inputs normalization neither
refuses nor turns into such a record. An amount is rounded outside the guard that turns decimal
errors into refusals, its size is left to the tables, and a timestamp is moved to UTC outside
the guard of its parser. -/

namespace RCAA

open Outcome (Ends ends_bind ends_pure)

def RecordType.ofName (name : String) : Option RecordType :=
  [RecordType.payment, .refund, .settlement, .bankTransaction].find? (·.name = name)

/-- The texts each record type requires, and the keys they are read from. -/
def RecordType.references (data : Dict) : RecordType → List Value
  | .payment => [(data.get "external_id").or (data.get "provider_payment_id")]
  | .refund => [(data.get "external_id").or (data.get "provider_refund_id"),
      (data.get "payment_reference").or (data.get "provider_payment_id")]
  | .settlement => [(data.get "external_id").or (data.get "provider_settlement_id"),
      (data.get "payment_reference").or (data.get "provider_payment_id")]
  | .bankTransaction => [data.get "external_id"]

/-- The value the event's time is read from. -/
def RecordType.timeValue (data : Dict) (received : DateTime) : RecordType → Value
  | .payment => ((data.get "event_timestamp").or (data.get "created_at")).or (.timestamp received)
  | .refund => ((data.get "event_timestamp").or (data.get "created_at")).or (.timestamp received)
  | .settlement => ((data.get "event_timestamp").or (data.get "settled_at")).or (.timestamp received)
  | .bankTransaction => data.get "event_timestamp"

section Normalize
variable [Runtime]

/-- `normalize_record` by the name of the record type. -/
def normalizeNamed (data : Dict) (source name : String) (provider : Option String) (received : DateTime) :
    Except IngestError NormalizedRecord :=
  match RecordType.ofName name with
  | some recordType => normalizeRecord data source recordType provider received
  | none => invalid ("unsupported record_type: " ++ name)

/-- A record whose amount has two places and fits its column, and whose timestamp is in UTC. -/
structure NormalizedRecord.Clean (record : NormalizedRecord) : Prop where
  money : ∃ amount, record.amount = some amount ∧ amount.exponent = -2 ∧ fitsMoney amount
  time : ∃ timestamp, record.eventTimestamp = some timestamp ∧ timestamp.offset = some 0

/-- A number the checks of an amount take. -/
def amountRead (value : Value) (nonNegative : Bool) : Option Decimal :=
  match Decimal.parse (strip value.text) with
  | .finite result => if representable result ∧ (nonNegative = true → 0 ≤ result.coeff) then some result else none
  | _ => none

/-- The number in hundredths, rounded, has at most so many digits. -/
def Digits (places : Nat) (amount : Decimal) : Prop := (amount.rescale (-2)).natAbs < 10 ^ places

instance (places : Nat) (amount : Decimal) : Decidable (Digits places amount) := inferInstanceAs (Decidable (_ < _))

/-- The timestamp a value stands for, if any. -/
def timeRead (value : Value) : Option DateTime :=
  match value with
  | .timestamp time => some time
  | value => (optionalText value).bind fun text =>
    (Platform.fromisoformat (replaceZulu text)).map fun (wall, offset) => ⟨wall, offset⟩

/-! ## The checks -/

theorem ends_requiredText {good : String → Prop} {value : Value} {field : String} :
    Ends IngestError.Validation good (requiredText value field) ↔ ∀ text, optionalText value = some text → good text := by
  unfold requiredText
  cases optionalText value with
  | none => exact ⟨fun _ _ read => (nomatch read), fun _ => ⟨_, rfl⟩⟩
  | some text => simp [Ends]

/-- An amount its checks do not take is refused. -/
theorem toDecimal_refused {value : Value} {field : String} {nonNegative : Bool} (none : amountRead value nonNegative = none) :
    ∃ message, toDecimal value field nonNegative = .error (.validation message) := by
  unfold amountRead at none
  unfold toDecimal
  split at none
  · next result parsed =>
    rw [parsed]
    dsimp only
    split at none
    · cases none
    · next untaken =>
      split
      · exact ⟨_, rfl⟩
      · next read =>
        rw [if_pos]
        · exact ⟨_, rfl⟩
        · simp only [Bool.not_eq_true', Bool.not_eq_false] at read
          simp only [read, true_and, Classical.not_imp, not_le] at untaken
          simpa using untaken
  · next special =>
    split
    · exact ⟨_, rfl⟩
    · exact ⟨_, rfl⟩
    · next result parsed => exact absurd parsed (special result)

/-- An amount its checks take is rounded. -/
theorem toDecimal_taken {value : Value} {field : String} {nonNegative : Bool} {result : Decimal}
    (taken : amountRead value nonNegative = some result) :
    toDecimal value field nonNegative =
      if Digits 28 result then .ok ⟨result.rescale (-2), -2⟩ else .error .invalidOperation := by
  unfold amountRead at taken
  unfold toDecimal
  split at taken
  · next found parsed =>
    rw [parsed]
    split at taken
    · next both =>
      cases taken
      have signed : ¬(nonNegative && decide (result.coeff < 0)) = true := by
        simp only [Bool.and_eq_true, decide_eq_true_eq]
        rintro ⟨nonNegative, negative⟩
        exact absurd (both.2 nonNegative) (by omega)
      dsimp only
      rw [if_neg (by simp [both.1]), if_neg signed, Decimal.quantize]
      by_cases digits : Digits 28 result
      · rw [if_pos digits, if_pos (show (result.rescale (-2)).natAbs < 10 ^ 28 from digits)]
      · rw [if_neg digits, if_neg (show ¬(result.rescale (-2)).natAbs < 10 ^ 28 from digits)]
    · cases taken
  · cases taken

theorem ends_toDecimal {good : Decimal → Prop} {value : Value} {field : String} {nonNegative : Bool} :
    Ends IngestError.Validation good (toDecimal value field nonNegative) ↔
      ∀ amount, amountRead value nonNegative = some amount → Digits 28 amount ∧ good ⟨amount.rescale (-2), -2⟩ := by
  cases read : amountRead value nonNegative with
  | none =>
    obtain ⟨message, refused⟩ := @toDecimal_refused _ value field nonNegative read
    rw [refused]
    exact ⟨fun _ _ same => (nomatch same), fun _ => ⟨message, rfl⟩⟩
  | some amount =>
    rw [toDecimal_taken read]
    simp only [Option.some.injEq, forall_eq']
    by_cases digits : Digits 28 amount
    · rw [if_pos digits]
      exact ⟨fun holds => ⟨digits, holds⟩, And.right⟩
    · rw [if_neg digits]
      exact ⟨fun ⟨_, same⟩ => (nomatch same), fun holds => absurd holds.1 digits⟩

theorem ends_toCurrency {good : String → Prop} {value : Value} :
    Ends IngestError.Validation good (toCurrency value) ↔ ∀ currency, toCurrency value = .ok currency → good currency := by
  cases read : toCurrency value with
  | ok currency => simp [Ends]
  | error error =>
    refine ⟨fun _ _ same => (nomatch same), fun _ => ?_⟩
    unfold toCurrency requiredText at read
    cases given : optionalText value with
    | none =>
      rw [given] at read
      cases read
      exact ⟨_, rfl⟩
    | some text =>
      rw [given] at read
      change (if upper text ∈ supportedCurrencies then pure (upper text) else invalid _) = _ at read
      split at read
      · cases read
      · cases read
        exact ⟨_, rfl⟩

omit [Runtime] in
theorem ends_toUtc {good : DateTime → Prop} {time : DateTime} :
    Ends IngestError.Validation good (toUtc time) ↔ Timely time ∧ good ⟨time.instant, some 0⟩ := by
  unfold toUtc Timely
  split
  · next timely => exact ⟨fun holds => ⟨timely, holds⟩, And.right⟩
  · next untimely => exact ⟨fun ⟨_, same⟩ => (nomatch same), fun holds => absurd holds.1 untimely⟩

theorem ends_toTimestamp {good : DateTime → Prop} {value : Value} {field : String} :
    Ends IngestError.Validation good (toTimestamp value field) ↔
      ∀ time, timeRead value = some time → Timely time ∧ good ⟨time.instant, some 0⟩ := by
  cases value with
  | timestamp time => simp [toTimestamp, timeRead, ends_toUtc]
  | scalar | decimal | object | other =>
    simp only [toTimestamp, timeRead, ends_bind, ends_requiredText]
    generalize optionalText _ = given
    cases given with
    | none => simp
    | some text =>
      simp only [Option.some.injEq, forall_eq', Option.bind_some]
      cases Platform.fromisoformat (replaceZulu text) with
      | none => exact iff_of_true ⟨_, rfl⟩ (by simp)
      | some read => simp [ends_toUtc]

theorem ends_terms {good : Terms → Prop} {data : Dict} {amount : Value} {field : String} {nonNegative : Bool}
    {status timestamp : Value} :
    Ends IngestError.Validation good (terms data amount field nonNegative status timestamp) ↔
      ∀ number, amountRead amount nonNegative = some number → Digits 28 number ∧
        ∀ currency, toCurrency (data.getD "currency" (.str "INR")) = .ok currency → ∀ text, optionalText status = some text →
          ∀ time, timeRead timestamp = some time → Timely time ∧
            good ⟨⟨number.rescale (-2), -2⟩, currency, lower text, ⟨time.instant, some 0⟩⟩ := by
  simp only [terms, ends_bind, ends_toDecimal, ends_toCurrency, ends_requiredText, ends_toTimestamp, ends_pure]

/-! ## Whole records -/

/-- What the input is to satisfy: a number for an amount has at most 28 digits in hundredths
once the references are there; and if no other check refuses the record, the amount fits its
column and the timestamp is in UTC within the years one may have. -/
def CleanInput (data : Dict) (recordType : RecordType) (received : DateTime) : Prop :=
  (∀ reference ∈ recordType.references data, ∃ text, optionalText reference = some text) →
    ∀ number, amountRead (recordType.amountValue data) recordType.nonNegative = some number → Digits 28 number ∧
      ∀ currency, toCurrency (data.getD "currency" (.str "INR")) = .ok currency →
        ∀ text, optionalText (recordType.statusValue data) = some text →
          ∀ time, timeRead (recordType.timeValue data received) = some time → Timely time ∧ Digits 14 number

omit [Runtime] in
/-- A record of checked terms fits if its amount has 12 digits before the point. -/
theorem clean_iff {record : NormalizedRecord} {number : Decimal} {instant : Int}
    (amount : record.amount = some ⟨number.rescale (-2), -2⟩) (time : record.eventTimestamp = some ⟨instant, some 0⟩) :
    record.Clean ↔ Digits 14 number := by
  have fits : fitsMoney ⟨number.rescale (-2), -2⟩ = true ↔ Digits 14 number := by
    simp [fitsMoney, Digits, Decimal.rescale, Decimal.scaled]
  constructor
  · rintro ⟨⟨found, same, _, small⟩, _⟩
    rw [amount, Option.some.injEq] at same
    subst same
    exact fits.mp small
  · intro digits
    exact ⟨⟨_, amount, rfl, fits.mpr digits⟩, _, time, rfl⟩

theorem ends_normalizeRecord {data : Dict} {source : String} {recordType : RecordType} {provider : Option String} {received : DateTime} :
    Ends IngestError.Validation NormalizedRecord.Clean (normalizeRecord data source recordType provider received) ↔
      CleanInput data recordType received := by
  have checked {number : Decimal} {time : DateTime} {record : NormalizedRecord}
      (amount : record.amount = some ⟨number.rescale (-2), -2⟩) (timestamp : record.eventTimestamp = some ⟨time.instant, some 0⟩) :
      Timely time ∧ record.Clean ↔ Timely time ∧ Digits 14 number := and_congr_right fun _ => clean_iff amount timestamp
  cases recordType with
  | payment | bankTransaction =>
    simp only [normalizeRecord, ends_bind, ends_requiredText, ends_terms, ends_pure, CleanInput, RecordType.references,
      List.forall_mem_singleton]
    constructor
    · rintro every ⟨text, named⟩ number read
      obtain ⟨digits, rest⟩ := every text named number read
      exact ⟨digits, fun currency code status given time stamp => (checked rfl rfl).mp (rest currency code status given time stamp)⟩
    · intro every text named number read
      obtain ⟨digits, rest⟩ := every ⟨text, named⟩ number read
      exact ⟨digits, fun currency code status given time stamp => (checked rfl rfl).mpr (rest currency code status given time stamp)⟩
  | refund | settlement =>
    simp only [normalizeRecord, ends_bind, ends_requiredText, ends_terms, ends_pure, CleanInput, RecordType.references,
      List.forall_mem_cons, List.not_mem_nil]
    constructor
    · rintro every ⟨⟨text, named⟩, ⟨paid, linked⟩, _⟩ number read
      obtain ⟨digits, rest⟩ := every text named paid linked number read
      exact ⟨digits, fun currency code status given time stamp => (checked rfl rfl).mp (rest currency code status given time stamp)⟩
    · intro every text named paid linked number read
      obtain ⟨digits, rest⟩ := every ⟨⟨text, named⟩, ⟨paid, linked⟩, fun _ none => none.elim⟩ number read
      exact ⟨digits, fun currency code status given time stamp => (checked rfl rfl).mpr (rest currency code status given time stamp)⟩

end Normalize

section Examples
open DatedText

/-- A payment of an amount, complete and dated. -/
def paymentOf (amount : String) : Dict :=
  [("external_id", .str "pay-1"), ("amount", .str amount), ("status", .str "captured"),
    ("event_timestamp", .str "2024-01-01T12:00:00Z")]

end Examples
end RCAA
