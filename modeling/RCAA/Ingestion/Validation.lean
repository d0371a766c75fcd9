import RCAA.Ingestion.Onboarding
import RCAA.Ingestion.Rows
import RCAA.System

/-! Validating an upload before it is imported. Validation reads the mapping and passes every
row through the normalizer, as the provider "preview"; the import normalizes the rows again and
then makes the checks of the tables, the status first, that validation has not made. -/

namespace RCAA

/-- The fields of `FIELD_DEFINITIONS` and whether they are required; the aliases only suggest
a mapping. -/
def DataType.fields : DataType → List (String × Bool)
  | .payments => [("external_id", true), ("order_reference", false), ("amount", true), ("currency", false),
      ("status", false), ("event_timestamp", true)]
  | .settlements => [("external_id", true), ("payment_reference", true), ("gross_amount", false), ("fee", false),
      ("tax", false), ("net_amount", true), ("currency", false), ("status", false), ("event_timestamp", true),
      ("utr", false)]
  | .refunds => [("external_id", true), ("payment_reference", true), ("amount", true), ("currency", false),
      ("status", false), ("event_timestamp", true)]
  | .bankTransactions => [("external_id", true), ("reference", false), ("settlement_reference", false), ("utr", false),
      ("amount", true), ("currency", false), ("status", false), ("event_timestamp", true)]

/-- `mapping.get(field)`, blank where the field is not mapped. -/
def mappedColumn (mapping : List (String × String)) (field : String) : String :=
  ((mapping.find? (·.1 == field)).map Prod.snd).getD ""

/-- `validate_mapping`. -/
def validateMapping (dataType : DataType) (headers : List String) (mapping : List (String × String)) : List String :=
  dataType.fields.flatMap fun (field, required) =>
    (if required ∧ mappedColumn mapping field = "" then ["Missing mapping for required field: " ++ field] else []) ++
    (if mappedColumn mapping field ≠ "" ∧ mappedColumn mapping field ∉ headers then
      ["Mapped column does not exist: " ++ field] else [])

/-- What the loop over the rows has seen; the first twenty messages of each kind are kept. -/
structure Checked where
  validRows : Nat := 0
  warningRows : Nat := 0
  errors : List String := []
  warnings : List String := []

structure ValidationReport where
  valid : Bool
  rows : Nat
  validRows : Nat
  warningRows : Nat
  errorRows : Nat
  errors : List String
  warnings : List String

/-- `if len(messages) < 20: messages.append(message)`. -/
def noted (messages : List String) (message : String) : List String :=
  if messages.length < 20 then messages ++ [message] else messages

theorem noted_ne_nil (messages : List String) (message : String) : noted messages message ≠ [] := by
  unfold noted
  split
  · simp
  · next full =>
    rintro rfl
    exact full (by decide)

section Validate
variable [Runtime]

/-- The normalizer as validation calls it, at its own reading of the clock. -/
def previewRecord (received : Nat → DateTime) (dataType : DataType) (item : Dict × Nat) : Except IngestError NormalizedRecord :=
  normalizeRecord item.1 "customer_upload" dataType.recordType (some "preview") (received item.2)

def validateRow (received : Nat → DateTime) (dataType : DataType) (checked : Checked) (item : Dict × Nat) : Checked :=
  let row := "Row " ++ toString (item.2 + 2)
  match previewRecord received dataType item with
  | .ok _ =>
    let checked := { checked with validRows := checked.validRows + 1 }
    if dataType = .payments ∧ (item.1.get "order_reference").truthy = false then
      { checked with
        warningRows := checked.warningRows + 1
        warnings := noted checked.warnings
          (row ++ ": order reference is missing; matching may rely on payment ID or amount/date") }
    else checked
  | .error error => { checked with errors := noted checked.errors (row ++ ": " ++ error.text) }

def validateRows (received : Nat → DateTime) (dataType : DataType) (rows : List Dict) (mapping : List (String × String)) :
    ValidationReport :=
  let mappingErrors := validateMapping dataType (mapping.map Prod.snd) mapping
  if mappingErrors.isEmpty then
    let checked := (transformRows dataType rows mapping).zipIdx.foldl (validateRow received dataType) {}
    { valid := checked.errors.isEmpty, rows := rows.length, validRows := checked.validRows
      warningRows := checked.warningRows, errorRows := rows.length - checked.validRows
      errors := checked.errors, warnings := checked.warnings }
  else
    { valid := false, rows := rows.length, validRows := 0, warningRows := 0, errorRows := rows.length
      errors := mappingErrors.take 20, warnings := [] }

/-! ## What a valid upload has passed -/

theorem validateRow_errors {received : Nat → DateTime} {dataType : DataType} {checked : Checked} {item : Dict × Nat} :
    (validateRow received dataType checked item).errors = [] ↔
      checked.errors = [] ∧ ∃ record, previewRecord received dataType item = .ok record := by
  unfold validateRow
  cases read : previewRecord received dataType item with
  | ok record =>
    simp only
    split <;> simp
  | error error => simp [noted_ne_nil]

theorem foldl_validateRow_errors {received : Nat → DateTime} {dataType : DataType} (items : List (Dict × Nat)) (checked : Checked) :
    (items.foldl (validateRow received dataType) checked).errors = [] ↔
      checked.errors = [] ∧ ∀ item ∈ items, ∃ record, previewRecord received dataType item = .ok record := by
  induction items generalizing checked with
  | nil => simp
  | cons item rest ih => rw [List.foldl_cons, ih, validateRow_errors, List.forall_mem_cons, and_assoc]

/-- Every row of a valid upload normalizes. -/
theorem validateRows_rows {received : Nat → DateTime} {dataType : DataType} {rows : List Dict} {mapping : List (String × String)}
    (valid : (validateRows received dataType rows mapping).valid = true) :
    ∀ item ∈ (transformRows dataType rows mapping).zipIdx, ∃ record, previewRecord received dataType item = .ok record := by
  simp only [validateRows] at valid
  split at valid
  · rw [List.isEmpty_iff, foldl_validateRow_errors] at valid
    exact valid.2
  · cases valid

/-! ## Normalizing again -/

/-- A reading of the clock is a timestamp of the years one may have. -/
def Timely (now : DateTime) : Prop := firstInstant ≤ now.instant ∧ now.instant ≤ lastInstant

theorem toTimestamp_isOk_congr {value : Value} {received now : DateTime} {field : String} (timely : Timely now)
    (read : ∃ time, toTimestamp (value.or (.timestamp received)) field = .ok time) :
    ∃ time, toTimestamp (value.or (.timestamp now)) field = .ok time := by
  unfold Value.or at read ⊢
  split
  · next given => simpa only [given, if_true] using read
  · exact ⟨_, if_pos timely⟩

theorem terms_isOk_iff {data : Dict} {amount : Value} {field : String} {nonNegative : Bool} {status timestamp : Value} :
    (∃ found, terms data amount field nonNegative status timestamp = .ok found) ↔
      (∃ money, toDecimal amount field nonNegative = .ok money) ∧ (∃ currency, toCurrency (data.getD "currency" (.str "INR")) = .ok currency) ∧
        (∃ text, requiredText status "status" = .ok text) ∧ ∃ time, toTimestamp timestamp "event_timestamp" = .ok time := by
  simp only [terms, Outcome.bind_ok_iff]
  constructor
  · rintro ⟨_, money, amount, currency, read, text, status, time, stamp, _⟩
    exact ⟨⟨money, amount⟩, ⟨currency, read⟩, ⟨text, status⟩, time, stamp⟩
  · rintro ⟨⟨money, amount⟩, ⟨currency, read⟩, ⟨text, status⟩, time, stamp⟩
    exact ⟨_, money, amount, currency, read, text, status, time, stamp, rfl⟩

theorem terms_isOk_congr {data : Dict} {amount : Value} {field : String} {nonNegative : Bool} {status value : Value}
    {received now : DateTime} (timely : Timely now)
    (read : ∃ found, terms data amount field nonNegative status (value.or (.timestamp received)) = .ok found) :
    ∃ found, terms data amount field nonNegative status (value.or (.timestamp now)) = .ok found := by
  obtain ⟨money, currency, text, time⟩ := terms_isOk_iff.mp read
  exact terms_isOk_iff.mpr ⟨money, currency, text, toTimestamp_isOk_congr timely time⟩

/-- Whether a row normalizes depends neither on the source nor on the provider, and not on
the time it is received. -/
theorem normalizeRecord_isOk_congr {data : Dict} {source other : String} {recordType : RecordType} {provider also : Option String}
    {received now : DateTime} (timely : Timely now)
    (read : ∃ record, normalizeRecord data source recordType provider received = .ok record) :
    ∃ record, normalizeRecord data other recordType also now = .ok record := by
  obtain ⟨record, read⟩ := read
  cases recordType with
  | payment =>
    obtain ⟨externalId, named, read⟩ := Outcome.bind_ok read
    obtain ⟨found, read, _⟩ := Outcome.bind_ok read
    obtain ⟨again, reread⟩ := terms_isOk_congr timely ⟨found, read⟩
    simp only [normalizeRecord, Outcome.bind_ok_iff]
    exact ⟨_, externalId, named, again, reread, rfl⟩
  | refund | settlement =>
    obtain ⟨externalId, named, read⟩ := Outcome.bind_ok read
    obtain ⟨reference, linked, read⟩ := Outcome.bind_ok read
    obtain ⟨found, read, _⟩ := Outcome.bind_ok read
    obtain ⟨again, reread⟩ := terms_isOk_congr timely ⟨found, read⟩
    simp only [normalizeRecord, Outcome.bind_ok_iff]
    exact ⟨_, externalId, named, reference, linked, again, reread, rfl⟩
  | bankTransaction =>
    obtain ⟨externalId, named, read⟩ := Outcome.bind_ok read
    obtain ⟨found, read, _⟩ := Outcome.bind_ok read
    simp only [normalizeRecord, Outcome.bind_ok_iff]
    exact ⟨_, externalId, named, found, read, rfl⟩

theorem toDecimal_nonneg {value : Value} {field : String} {amount : Decimal} (read : toDecimal value field true = .ok amount) :
    0 ≤ amount.coeff := by
  simp only [toDecimal] at read
  split at read
  · cases read
  · cases read
  · next x parsed =>
    split at read
    · cases read
    · split at read
      · cases read
      · next above =>
        split at read
        · cases read
        · next quantized =>
          cases read
          rw [Decimal.quantize_eq quantized]
          exact Decimal.rescale_nonneg _ (by simpa using above)

/-- What a normalized record leaves for the checks of the tables. -/
theorem normalizeRecord_normal {data : Dict} {source : String} {recordType : RecordType} {provider : Option String}
    {received : DateTime} {record : NormalizedRecord}
    (accepted : normalizeRecord data source recordType provider received = .ok record) : record.Normal := by
  have kept := normalizeRecord_readFrom accepted
  obtain ⟨amount, money, read⟩ := kept.money
  refine ⟨⟨amount, money, fun other => ?_⟩, kept.timed⟩
  rw [kept.type] at other
  cases recordType with
  | payment | refund | settlement => exact toDecimal_nonneg read
  | bankTransaction => exact absurd rfl other

/-- The import normalizes every row of a valid upload. -/
theorem normalizeAll_of_valid {received : Nat → DateTime} {dataType : DataType} {rows : List Dict} {mapping : List (String × String)}
    (valid : (validateRows received dataType rows mapping).valid = true) {draws : Draws} (timely : ∀ i, Timely (draws.now i))
    (source : String) (provider : Option String) :
    ∃ records, normalizeAll draws (transformRows dataType rows mapping) source dataType.recordType provider = .ok records :=
  Outcome.mapM_isOk_iff.mpr fun item member =>
    normalizeRecord_isOk_congr (timely item.2) (validateRows_rows valid item member)

/-! ## Importing -/

/-- A valid upload is imported, every row created or counted as a duplicate, exactly if its
records are importable; no check refuses it if they are sound. -/
theorem import_agrees_iff {received : Nat → DateTime} {dataType : DataType} {rows : List Dict} {mapping : List (String × String)}
    (valid : (validateRows received dataType rows mapping).valid = true) {draws : Draws} (timely : ∀ i, Timely (draws.now i))
    {session : Session} (fresh : draws.Fresh session.current.store) (merchantId source : String) (provider : Option String) :
    ∃ records, normalizeAll draws (transformRows dataType rows mapping) source dataType.recordType provider = .ok records ∧
      ((∃ report, (importRows draws session merchantId dataType rows mapping source provider).1 = .ok report ∧
          report.created + report.duplicates = rows.length) ↔ Importable session.current.store records) ∧
      ((∀ record ∈ records, record.Sound) → ∀ message,
        (importRows draws session merchantId dataType rows mapping source provider).1 ≠ .error (.validation message)) := by
  obtain ⟨records, normalized⟩ := normalizeAll_of_valid valid timely source provider
  have normal : ∀ record ∈ records, record.Normal := by
    intro record member
    obtain ⟨i, place⟩ := List.mem_iff_getElem?.mp member
    obtain ⟨item, _, read⟩ := normalizeAll_getElem? normalized place
    exact normalizeRecord_normal read
  have typed : ∀ record ∈ records, record.recordType = dataType.recordType := normalizeAll_typed normalized
  have length : records.length = rows.length := by
    rw [← (Outcome.mapM_forall₂ normalized).length_eq, List.length_zipIdx, transformRows, List.length_map]
  obtain ⟨opened, batch, store, imports⟩ : ∃ opened batch, opened.current.store = session.current.store ∧
      importRows draws session merchantId dataType rows mapping source provider = persistNormalized draws opened records batch false :=
    ⟨(createBatch session draws.batchId source provider (some merchantId)).1,
      (createBatch session draws.batchId source provider (some merchantId)).2, rfl, by simp only [importRows, ingestRecords, normalized]⟩
  rw [imports]
  refine ⟨records, normalized, ?_, fun sound message raised => ?_⟩
  · rw [← persistAll_isOk_iff fresh typed normal, ← store]
    constructor
    · rintro ⟨report, returned, _⟩
      cases looped : persistAll draws opened.current.store records with
      | ok done => exact ⟨done, rfl⟩
      | error error =>
        rw [persistNormalized_raises looped] at returned
        cases returned
    · rintro ⟨⟨progress, written⟩, looped⟩
      obtain ⟨report, returned, created, duplicates⟩ := persistNormalized_returns looped
      refine ⟨report, returned, ?_⟩
      rw [created, duplicates, (persistAll_kept looped).1.total, List.length_zipIdx, length]
  · cases looped : persistAll draws opened.current.store records with
    | ok done =>
      obtain ⟨report, returned, _⟩ := persistNormalized_returns looped
      rw [returned] at raised
      cases raised
    | error error =>
      rw [persistNormalized_raises looped] at raised
      cases raised
      exact persistAll_avoids normal sound draws opened.current.store _ looped ⟨message, rfl⟩

end Validate

section Examples
open PlainText

theorem timely_upload : Timely ⟨1704110400000000, some 0⟩ := by
  unfold Timely
  decide

/-- One payment of an upload, its date left blank. -/
def paymentUpload (status : String) : List Dict :=
  [[("payment_id", .str "pay-1"), ("amount", .str "100.00"), ("status", .str status), ("created_at", .str "")]]

def paymentMapping : List (String × String) :=
  [("external_id", "payment_id"), ("amount", "amount"), ("status", "status"), ("event_timestamp", "created_at")]

def uploadDraws : Draws := ⟨"batch", fun i => String.ofList (List.replicate (i + 1) 'r'), fun _ => ⟨1704110400000000, some 0⟩⟩

theorem uploadDraws_fresh : uploadDraws.Fresh {} := by
  refine ⟨fun i j same => ?_, fun i named => ?_, fun _ _ stored => nomatch stored⟩
  · have lengths := congrArg String.length same
    simp only [uploadDraws, String.length_ofList, List.length_replicate] at lengths
    omega
  · have length := congrArg String.length named
    simp only [uploadDraws, String.length_ofList, List.length_replicate] at length
    exact absurd length (by simp)

theorem import_agrees_iff_captured :
    ∃ records, normalizeAll uploadDraws (transformRows .payments (paymentUpload "captured") paymentMapping) "upload" .payment none =
      .ok records ∧ Importable {} records := by
  obtain ⟨records, normalized, returns, _⟩ := @import_agrees_iff _ (fun _ => ⟨0, some 0⟩) .payments (paymentUpload "captured")
    paymentMapping (by decide) uploadDraws (fun _ => timely_upload) ⟨{}, {}⟩ uploadDraws_fresh "m1" "upload" none
  refine ⟨records, normalized, returns.mp ?_⟩
  obtain ⟨report, returned, counts⟩ : ∃ report, (importRows uploadDraws ⟨{}, {}⟩ "m1" .payments (paymentUpload "captured")
      paymentMapping "upload" none).1 = .ok report ∧ report.created + report.duplicates = 1 :=
    Outcome.exists_ok_of_map (by decide)
  exact ⟨report, returned, counts⟩

/-- A status that validation does not read is refused by the import. -/
theorem validated_status_is_refused :
    ¬∀ (received : Nat → DateTime) (dataType : DataType) (rows : List Dict) (mapping : List (String × String)) (draws : Draws)
      (session : Session) (merchantId source : String) (provider : Option String),
      (validateRows received dataType rows mapping).valid = true → (∀ i, Timely (draws.now i)) → draws.Fresh session.current.store →
        ∀ message, (importRows draws session merchantId dataType rows mapping source provider).1 ≠ .error (.validation message) := by
  intro law
  exact law (fun _ => ⟨0, some 0⟩) .payments (paymentUpload "reversed") paymentMapping uploadDraws ⟨{}, {}⟩ "m1" "upload" none
    (by decide) (fun _ => timely_upload) uploadDraws_fresh "unsupported status: reversed" rfl

end Examples
end RCAA
