import RCAA.Ingestion.Onboarding
import RCAA.Ingestion.Rows
import RCAA.System

/-! Whose rows a call of ingestion creates. The merchant a call is made for goes into its
batch only: a payment or a bank row takes the merchant its own record names, and a refund
or a settlement takes none. -/

namespace RCAA

open FirstByKey

/-! ## Calls -/

/-- A call of one of the entry points, its merchant apart. -/
inductive IngestCall where
  | ingestRecords (data : List Dict) (source : String) (recordType : RecordType) (provider : Option String) (commit : Bool)
  | ingestBankCsv (maxUploadBytes : Nat) (content : List UInt8) (source : String) (provider : Option String) (commit : Bool)
  | importRows (dataType : DataType) (rows : List Dict) (mapping : List (String × String)) (source : String)
      (provider : Option String)

namespace IngestCall
variable [Runtime]

def run (draws : Draws) (session : Session) (merchant : String) : IngestCall → Except IngestError IngestReport × Session
  | .ingestRecords data source recordType provider commit =>
    RCAA.ingestRecords draws session data source recordType provider (some merchant) commit
  | .ingestBankCsv maxUploadBytes content source provider commit =>
    RCAA.ingestBankCsv maxUploadBytes draws session content source provider (some merchant) commit
  | .importRows dataType rows mapping source provider =>
    RCAA.importRows draws session merchant dataType rows mapping source provider

/-- The records the client supplied, after the mapping of columns. -/
def supplied : IngestCall → List Dict
  | .ingestRecords data _ _ _ _ => data
  | .ingestBankCsv _ content _ _ _ => ((Runtime.readCsv content).map Prod.snd).getD []
  | .importRows dataType rows mapping _ _ => transformRows dataType rows mapping

def recordType : IngestCall → RecordType
  | .ingestRecords _ _ recordType _ _ => recordType
  | .ingestBankCsv .. => .bankTransaction
  | .importRows dataType _ _ _ _ => dataType.recordType

def normalized (draws : Draws) : IngestCall → Except IngestError (List NormalizedRecord)
  | .ingestRecords data source recordType provider _ => normalizeAll draws data source recordType provider
  | .ingestBankCsv maxUploadBytes content source provider _ => parseBankCsv maxUploadBytes draws content source provider
  | .importRows dataType rows mapping source provider =>
    normalizeAll draws (transformRows dataType rows mapping) source dataType.recordType provider

/-- Every record that adds a row, its key neither stored nor that of an earlier record,
is of a type that takes the merchant, and names the merchant itself. -/
def Stamped (draws : Draws) (store : Store) (merchant : String) (call : IngestCall) : Prop :=
  ∀ records, call.normalized draws = .ok records → ∀ item ∈ firsts (fun item => item.1.key) store.keys records.zipIdx,
    call.recordType.takesMerchant = true ∧
      ∃ data, call.supplied[item.2]? = some data ∧ column (data.get "merchant_id") = .ok (some merchant)

/-! ## What a call writes -/

theorem ok_persisted {draws : Draws} {session after : Session} {merchant : String} {call : IngestCall} {report : IngestReport}
    (ran : call.run draws session merchant = (.ok report, after)) :
    ∃ records progress written, call.normalized draws = .ok records ∧
      persistAll draws session.current.store records = .ok (progress, written) ∧ report.created = progress.created ∧
      report.duplicates = progress.duplicateRefs.length ∧ report.rows = written.created ∧ after.current.store = written.store := by
  cases call with
  | ingestRecords data source recordType provider commit => exact ran_persisted ran
  | ingestBankCsv maxUploadBytes content source provider commit => exact ran_persisted ran
  | importRows dataType rows mapping source provider => exact ran_persisted ran

/-- A call that raises adds no row. -/
theorem error_adds_nothing {draws : Draws} {session after : Session} {merchant : String} {call : IngestCall}
    {error : IngestError} (ran : call.run draws session merchant = (.error error, after)) :
    after.current.store = session.current.store ∨ after.current.store = session.durable.store := by
  cases call with
  | ingestRecords data source recordType provider commit => exact failed_unchanged ran
  | ingestBankCsv maxUploadBytes content source provider commit => exact failed_unchanged ran
  | importRows dataType rows mapping source provider => exact failed_unchanged ran

/-- A record names the merchant its supplied data names. -/
theorem normalized_supplied {draws : Draws} {call : IngestCall} {records : List NormalizedRecord}
    (normalized : call.normalized draws = .ok records) {i : Nat} {record : NormalizedRecord} (found : records[i]? = some record) :
    ∃ data, call.supplied[i]? = some data ∧ record.merchantId = data.get "merchant_id" ∧
      record.recordType = call.recordType := by
  cases call with
  | ingestRecords data source recordType provider commit =>
    obtain ⟨item, place, read⟩ := normalizeAll_getElem? normalized found
    have kept := normalizeRecord_readFrom read
    exact ⟨item, place, kept.merchant, kept.type⟩
  | ingestBankCsv maxUploadBytes content source provider commit =>
    obtain ⟨item, place, read⟩ := normalizeBankRows_getElem? (parseBankCsv_ok normalized) found
    have kept := normalizeRecord_readFrom read
    exact ⟨item, place, kept.merchant, kept.type⟩
  | importRows dataType rows mapping source provider =>
    obtain ⟨item, place, read⟩ := normalizeAll_getElem? normalized found
    have kept := normalizeRecord_readFrom read
    exact ⟨item, place, kept.merchant, kept.type⟩

theorem normalized_typed {draws : Draws} {call : IngestCall} {records : List NormalizedRecord}
    (normalized : call.normalized draws = .ok records) : ∀ record ∈ records, record.recordType = call.recordType := by
  intro record member
  obtain ⟨i, place⟩ := List.mem_iff_getElem?.mp member
  obtain ⟨_, _, _, type⟩ := normalized_supplied normalized place
  exact type

/-- A row a call added was made from the client's record at its place. -/
theorem made_of {draws : Draws} {session after : Session} {merchant : String} {call : IngestCall} {report : IngestReport}
    (ran : call.run draws session merchant = (.ok report, after)) {c : Created} (member : c ∈ report.rows) :
    MadeOf call.supplied call.recordType session.current.store c ∧ c.row ∈ after.current.store.rows := by
  cases call with
  | ingestRecords data source recordType provider commit => exact ingestRecords_madeOf ran member
  | importRows dataType rows mapping source provider => exact ingestRecords_madeOf ran member
  | ingestBankCsv maxUploadBytes content source provider commit =>
    obtain ⟨records, progress, written, normalized, done, -, -, rows, stored⟩ := ran_persisted ran
    rw [rows] at member
    rw [stored]
    refine ⟨persistAll_madeOf (fun i record place => ?_) done member, (persistAll_kept done).2.stored member⟩
    obtain ⟨item, inside, read⟩ := normalizeBankRows_getElem? (parseBankCsv_ok normalized) place
    exact ⟨item, _, _, _, inside, read⟩

end IngestCall

/-! ## Whose rows -/

section Persist
variable [Runtime]

/-- The rows of the store that were not there before are those the loop created. -/
theorem Added.new_rows {initial : Store} {items : List (NormalizedRecord × Nat)} {written : Written}
    (added : Added initial items written) (row : Record) :
    (row ∈ written.store.rows ∧ row ∉ initial.rows) ↔ ∃ c ∈ written.created, c.row = row := by
  rw [added.rows.mem_iff, List.mem_append, List.mem_map]
  constructor
  · rintro ⟨old | new, absent⟩
    · exact absurd old absent
    · exact new
  · rintro ⟨c, member, rfl⟩
    refine ⟨.inr ⟨c, member, rfl⟩, fun stored => ?_⟩
    obtain ⟨_, _, _, unseen, _⟩ := (mem_firsts_iff _ _ _ _).mp (added.kept member)
    apply unseen
    rw [← added.keyed c member]
    exact List.mem_map_of_mem stored

/-- A row belongs to a merchant exactly when its table takes one and its record names it. -/
theorem Built.merchant_iff {record : NormalizedRecord} {row : Record} (built : Built record row) (merchant : String) :
    row.merchantId = some merchant ↔
      record.recordType.takesMerchant = true ∧ column record.merchantId = .ok (some merchant) := by
  have taken := built.merchant
  split at taken
  · next takes => simp only [takes, taken, true_and, Except.ok.injEq]
  · next refuses => simp only [refuses, taken, reduceCtorEq, false_and]

/-- A call's new rows are its merchant's exactly when every record that adds one is a
payment or bank record that names the merchant itself. -/
theorem rows_stamped_iff {draws : Draws} {session after : Session} {merchant : String} (call : IngestCall)
    {report : IngestReport} (ran : call.run draws session merchant = (.ok report, after)) :
    (∀ row ∈ after.current.store.rows, row ∉ session.current.store.rows → row.merchantId = some merchant) ↔
      call.Stamped draws session.current.store merchant := by
  obtain ⟨records, progress, written, normalized, done, -, -, -, stored⟩ := call.ok_persisted ran
  have added := (persistAll_kept done).2
  have created_iff : (∀ row ∈ after.current.store.rows, row ∉ session.current.store.rows → row.merchantId = some merchant) ↔
      ∀ c ∈ written.created, c.row.merchantId = some merchant := by
    rw [stored]
    constructor
    · intro every c member
      obtain ⟨inside, outside⟩ := (added.new_rows c.row).mpr ⟨c, member, rfl⟩
      exact every c.row inside outside
    · intro every row inside outside
      obtain ⟨c, member, rfl⟩ := (added.new_rows row).mp ⟨inside, outside⟩
      exact every c member
  have supplied {item : NormalizedRecord × Nat}
      (kept : item ∈ firsts (fun item => item.1.key) session.current.store.keys records.zipIdx) :
      ∃ data, call.supplied[item.2]? = some data ∧ item.1.merchantId = data.get "merchant_id" ∧
        item.1.recordType = call.recordType :=
    IngestCall.normalized_supplied normalized (List.mem_zipIdx_iff_getElem?.mp ((firsts_sublist _ _ _).subset kept))
  rw [created_iff]
  constructor
  · intro every records' again item kept
    obtain rfl : records = records' := Except.ok.inj (normalized.symm.trans again)
    obtain ⟨data, place, named, type⟩ := supplied kept
    rw [← added.new, List.mem_map] at kept
    obtain ⟨c, member, rfl⟩ := kept
    obtain ⟨takes, stamped⟩ := ((added.built c member).merchant_iff merchant).mp (every c member)
    exact ⟨type ▸ takes, data, place, named ▸ stamped⟩
  · intro stamped c member
    obtain ⟨takes, data, place, column⟩ := stamped records normalized _ (added.kept member)
    obtain ⟨data', place', named, type⟩ := supplied (added.kept member)
    obtain rfl : data = data' := Option.some.inj (place.symm.trans place')
    exact ((added.built c member).merchant_iff merchant).mpr ⟨type ▸ takes, named ▸ column⟩

end Persist

section Examples
open PlainText

def importDraws : Draws := ⟨"batch", fun i => "row-" ++ toString i, fun _ => ⟨1704110400000000, some 0⟩⟩

def emptySession : Session := ⟨{}, {}⟩

/-- An import of one record that returns has one row, made from that record. -/
theorem only_row {outcome : Except IngestError IngestReport} {report : IngestReport} (returned : outcome = .ok report)
    (rows : outcome.toOption.map (fun report => report.rows.map Created.index) = some [0]) :
    ∃ accepted, report.rows = [accepted] ∧ accepted.index = 0 := by
  rw [returned] at rows
  obtain ⟨accepted, rest, whole, index, none⟩ := List.map_eq_cons_iff.mp (Option.some.inj rows)
  exact ⟨accepted, by rw [whole, List.map_eq_nil_iff.mp none], index⟩

/-- A record of the merchant `m1`, as the callers stamp it. -/
def stampedRecord : Dict :=
  [("external_id", .str "e1"), ("payment_reference", .str "p1"), ("amount", .str "10.00"), ("status", .str "processed"),
    ("merchant_id", .str "m1")]

def importOne (recordType : RecordType) : IngestCall :=
  .ingestRecords [stampedRecord] "manual_demo" recordType (some "demo") true

theorem rows_stamped_iff_payment :
    (∀ row ∈ ((importOne .payment).run importDraws emptySession "m1").2.current.store.rows, row.merchantId = some "m1") ∧
      (importOne .payment).Stamped importDraws {} "m1" := by
  obtain ⟨report, returned⟩ : ∃ report, ((importOne .payment).run importDraws emptySession "m1").1 = .ok report :=
    Outcome.exists_ok (by decide)
  have rows : ∀ row ∈ ((importOne .payment).run importDraws emptySession "m1").2.current.store.rows, row.merchantId = some "m1" := by
    decide
  exact ⟨rows, (rows_stamped_iff (importOne .payment) (Prod.ext returned rfl)).mp fun row member _ => rows row member⟩

/-- The refund of a record stamped `m1`, in a call for `m1`, belongs to nobody. -/
theorem stamped_refund_has_no_merchant :
    ¬∀ (call : IngestCall) (draws : Draws) (session after : Session) (merchant : String) (report : IngestReport),
      call.run draws session merchant = (.ok report, after) →
        ∀ row ∈ after.current.store.rows, row ∉ session.current.store.rows → row.merchantId = some merchant := by
  intro law
  obtain ⟨report, returned⟩ : ∃ report, ((importOne .refund).run importDraws emptySession "m1").1 = .ok report :=
    Outcome.exists_ok (by decide)
  have every := law (importOne .refund) importDraws emptySession _ "m1" report (Prod.ext returned rfl)
  have rows : ((importOne .refund).run importDraws emptySession "m1").2.current.store.rows.map (·.merchantId) = [none] := by
    decide
  obtain ⟨row, _, whole, nobody, _⟩ := List.map_eq_cons_iff.mp rows
  have owned := every row (by rw [whole]; exact List.mem_cons_self) List.not_mem_nil
  rw [nobody] at owned
  cases owned

end Examples
end RCAA
