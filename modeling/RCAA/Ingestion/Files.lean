import RCAA.Ingestion.Worksheets
import RCAA.Library.Csv
import RCAA.Security.Models

/-! Uploaded files: a CSV file is read by the `csv` module, a workbook by `openpyxl`, and the
columns are suggested from the header. What is read is a table: every row has the columns of
the header and no others, so a column that is suggested is one that every row has. -/

namespace RCAA

open Security (Failure)

/-- What `openpyxl` makes of a file. -/
class Workbooks where
  installed : Bool
  /-- The rows of the active sheet up to the first that cannot be read, and whether there is
  such a one; nothing if the file or its first row cannot be read. -/
  load : ByteArray → Option (List (List Value) × Bool)

/-- How the reading of a file ends without a table. -/
inductive UploadError where
  | refused (error : IngestError)
  /-- `csv.Error`. -/
  | csv (failure : Csv.Failure)
deriving DecidableEq, Repr

def unreadable {α : Type} (message : String) : Except UploadError α := .error (.refused (.validation message))

/-! ## CSV files -/

/-- `csv.field_size_limit()`. -/
def csvFieldLimit : Nat := 131072

/-- `content.decode("utf-8-sig")`: a byte order mark at the start is left out. -/
def decodeSig (content : ByteArray) : Option String :=
  (String.fromUTF8? content).map fun text => match text.toList with
    | '\uFEFF' :: rest => String.ofList rest
    | _ => text

/-- The rows of `csv.reader(io.StringIO(text))`. -/
def csvRows (text : String) : List (List String) × Option Csv.Failure :=
  let (rows, failure) := Csv.read csvFieldLimit text.toList
  (rows.map (·.map String.ofList), failure)

/-- A row of `csv.DictReader` but for the cells no field name is left for. -/
def dictRow (names cells : List String) : Dict :=
  (names.drop cells.length).foldl (fun row name => row.set name .null)
    ((names.zip cells).foldl (fun row entry => row.set entry.1 (.str entry.2)) [])

/-- `csv.DictReader` passes over blank lines. -/
def dictRows (names : List String) (rows : List (List String)) : List Dict :=
  (rows.filter (· ≠ [])).map (dictRow names)

section Parse
variable [Runtime]

/-- `v.strip() if isinstance(v, str) else v`. -/
def Value.stripped : Value → Value
  | .scalar (.str text) => .str (strip text)
  | value => value

/-- `{k.strip(): … for k, v in row.items()}`. -/
def cleanedRow (row : Dict) : Dict := row.foldl (fun cleaned entry => cleaned.set (strip entry.1) entry.2.stripped) []

/-- The loop over the rows of the reader, and the error that ends them. -/
def readCsvRows (failure : Option Csv.Failure) : List Dict → List Dict → Except UploadError (List Dict)
  | [], rows => match failure with
    | none => .ok rows
    | some failure => .error (.csv failure)
  | row :: rest, rows =>
    if rows.length ≥ 10000 then unreadable "Files are limited to 10,000 rows"
    else if (cleanedRow row).any (·.2.longText) then unreadable "Each text cell is limited to 10,000 characters"
    else readCsvRows failure rest (rows ++ [cleanedRow row])

/-- The table of the rows a reader hands out, of which the first is the header. -/
def parseRows : List (List String) × Option Csv.Failure → Except UploadError (List Dict × List String)
  | ([], some failure) => .error (.csv failure)
  | (rows, failure) =>
    let headers := (rows.headD []).map strip
    if headers.isEmpty then unreadable "The CSV must contain a header row"
    else if headers.length > 100 then unreadable "Files are limited to 100 columns"
    else (readCsvRows failure (dictRows (rows.headD []) rows.tail) []).map fun table => (table, headers)

/-! ## Files -/

variable [Workbooks]

def parseWorkbook (content : ByteArray) : Except UploadError (List Dict × List String) :=
  if Workbooks.installed = false then unreadable "Excel support is not installed on this server"
  else match Workbooks.load content with
    | none => unreadable "The Excel file could not be read"
    | some (sheet, broken) => match parseWorksheet sheet with
      | .error (.validation message) => unreadable message
      | .error _ => unreadable "The Excel file could not be read"
      | .ok table => if broken then unreadable "The Excel file could not be read" else .ok table

def endsWith (text ending : String) : Bool := ending.toList.isSuffixOf text.toList

def parseUpload (maxUploadBytes : Nat) (content : ByteArray) (filename : String) :
    Except UploadError (List Dict × List String) :=
  if content.size = 0 then unreadable "The uploaded file is empty"
  else if content.size > maxUploadBytes then unreadable "File exceeds the 5 MB upload limit"
  else if endsWith (lower filename) ".csv" || endsWith (lower filename) ".txt" then
    match decodeSig content with
    | none => unreadable "CSV must be UTF-8 encoded"
    | some text => parseRows (csvRows text)
  else if endsWith (lower filename) ".xlsx" then parseWorkbook content
  else unreadable "Unsupported file type. Upload CSV or XLSX"

end Parse

/-! ## Suggested columns -/

/-- The headers `FIELD_DEFINITIONS` knows a field by. -/
def DataType.aliases : DataType → List (List String)
  | .payments => [
    ["external_id", "provider_payment_id", "payment_id", "transaction_id"],
    ["order_reference", "provider_order_id", "order_id", "merchant_ref", "merchant_reference"],
    ["amount", "payment_amount", "gross_amount", "total_amount"],
    ["currency", "currency_code"],
    ["status", "payment_status"],
    ["event_timestamp", "created_at", "payment_date", "transaction_date", "date"]]
  | .settlements => [
    ["external_id", "provider_settlement_id", "settlement_id"],
    ["payment_reference", "provider_payment_id", "payment_id", "payment_reference_id"],
    ["gross_amount", "gross", "payment_amount", "amount"],
    ["fee", "fees", "gateway_fee", "processing_fee"],
    ["tax", "gst", "fee_tax"],
    ["net_amount", "net", "settlement_amount", "amount"],
    ["currency", "currency_code"],
    ["status", "settlement_status"],
    ["event_timestamp", "settled_at", "settlement_date", "transaction_date", "date"],
    ["utr", "bank_reference", "utr_number"]]
  | .refunds => [
    ["external_id", "provider_refund_id", "refund_id"],
    ["payment_reference", "provider_payment_id", "payment_id"],
    ["amount", "refund_amount"],
    ["currency", "currency_code"],
    ["status", "refund_status"],
    ["event_timestamp", "created_at", "processed_at", "refund_date", "date"]]
  | .bankTransactions => [
    ["external_id", "transaction_id", "bank_transaction_id", "id"],
    ["reference", "description", "narration", "transaction_reference"],
    ["settlement_reference", "settlement_id"],
    ["utr", "utr_number", "bank_reference"],
    ["amount", "credit", "credit_amount", "transaction_amount"],
    ["currency", "currency_code"],
    ["status", "transaction_status"],
    ["event_timestamp", "transaction_date", "value_date", "date", "created_at"]]

def DataType.name : DataType → String
  | .payments => "payments"
  | .settlements => "settlements"
  | .refunds => "refunds"
  | .bankTransactions => "bank_transactions"

/-- The member of `DATA_TYPES` with a name. -/
def DataType.ofName? (name : String) : Option DataType :=
  [DataType.payments, .settlements, .refunds, .bankTransactions].find? fun dataType => dataType.name = name

/-- The entries of `FIELD_DEFINITIONS`: the field, whether it is required, and its aliases. -/
def DataType.definitions (dataType : DataType) : List ((String × Bool) × List String) := dataType.fields.zip dataType.aliases

section Suggest
variable [Runtime]

/-- `_clean_header`. -/
def cleanHeader (header : String) : String :=
  String.ofList ((lower (strip header)).toList.map fun c => if c = ' ' ∨ c = '-' then '_' else c)

/-- `normalized.get(_clean_header(alias))`: of the headers that are cleaned to one, the last. -/
def headerFor (headers : List String) (name : String) : Option String :=
  headers.reverse.find? fun header => cleanHeader header = cleanHeader name

/-- The column of the first alias that has one, whose header is not blank. -/
def suggestedColumn (headers aliases : List String) : Option String :=
  aliases.findSome? fun name => (headerFor headers name).filter (· ≠ "")

/-- `suggest_mapping`. -/
def suggestMapping (dataType : DataType) (headers : List String) : List (String × String) :=
  dataType.definitions.filterMap fun definition => (suggestedColumn headers definition.2).map fun column => (definition.1.1, column)

/-- A JSON column takes it. -/
def Value.storable : Value → Bool
  | .scalar _ => true
  | .object _ => true
  | _ => false

variable [Workbooks]

/-- `create_upload`; the validation is made before the row is stored. -/
def createUpload (maxUploadBytes : Nat) (received : Nat → DateTime) (id merchantId dataTypeName : String)
    (provider : Option String) (content : ByteArray) (filename : String) : Except Failure DataUpload :=
  match DataType.ofName? dataTypeName with
  | none => .error (.http 422 "Unsupported data type")
  | some dataType =>
    if content.size > maxUploadBytes then
      .error (.http 413 ("File exceeds the " ++ toString (maxUploadBytes / (1024 * 1024)) ++ " MB upload limit"))
    else match parseUpload maxUploadBytes content (if filename = "" then "upload.csv" else filename) with
      | .error (.refused error) => .error (.http 422 error.text)
      | .error (.csv _) => .error .raised
      | .ok (rows, headers) =>
        let mapping := suggestMapping dataType headers
        let validation := validateRows received dataType rows mapping
        let named := lower (strip (provider.getD ""))
        if rows.all (·.all (·.2.storable)) then
          .ok {
            id, merchantId, dataType, headers, rows, mapping
            provider := if named = "" then none else some named
            validation := some validation
            status := if validation.valid then .ready else .validationFailed }
        else .error .raised

end Suggest

/-! ## The keys of a row -/

section Keys
variable {α : Type} (key : α → String) (value : α → Value)

def Dict.columns (data : Dict) : List String := data.map Prod.fst

@[simp] theorem Dict.columns_nil : Dict.columns [] = [] := rfl

@[simp] theorem Dict.columns_cons (entry : String × Value) (rest : Dict) : Dict.columns (entry :: rest) = entry.1 :: Dict.columns rest := rfl

theorem Dict.columns_set (data : Dict) (name : String) (cell : Value) :
    (data.set name cell).columns = if name ∈ data.columns then data.columns else data.columns ++ [name] := by
  induction data with
  | nil => rfl
  | cons entry rest ih =>
    rw [Dict.set, columns_cons]
    by_cases same : entry.1 = name
    · rw [if_pos same, if_pos (by simp [same]), columns_cons, same]
    · have differs : name ∈ entry.1 :: Dict.columns rest ↔ name ∈ Dict.columns rest := by simp [Ne.symm same]
      rw [if_neg same, columns_cons, ih]
      by_cases later : name ∈ Dict.columns rest
      · rw [if_pos later, if_pos (differs.mpr later)]
      · rw [if_neg later, if_neg (mt differs.mp later), List.cons_append]

/-- A row that is set entry by entry has each key once. -/
theorem Dict.nodup_foldl_set {data : Dict} (entries : List α) (distinct : data.columns.Nodup) :
    (entries.foldl (fun row entry => Dict.set (key entry) (value entry) row) data).columns.Nodup := by
  induction entries generalizing data with
  | nil => exact distinct
  | cons entry rest ih =>
    refine ih ?_
    rw [columns_set]
    split
    · exact distinct
    · next fresh =>
      refine List.nodup_append.mpr ⟨distinct, List.nodup_singleton _, fun name there other here => ?_⟩
      rw [List.mem_singleton.mp here]
      exact fun same => fresh (same ▸ there)

theorem Dict.mem_columns_foldl_set {data : Dict} (entries : List α) (name : String) :
    name ∈ (entries.foldl (fun row entry => Dict.set (key entry) (value entry) row) data).columns ↔
      name ∈ data.columns ∨ name ∈ entries.map key := by
  induction entries generalizing data with
  | nil => simp
  | cons entry rest ih =>
    have first : name ∈ (data.set (key entry) (value entry)).columns ↔ name ∈ data.columns ∨ name = key entry := by
      rw [columns_set]
      split
      · next there => exact ⟨.inl, fun member => member.elim id fun same => same ▸ there⟩
      · rw [List.mem_append, List.mem_singleton]
    rw [List.foldl_cons, ih, first, List.map_cons, List.mem_cons, or_assoc]

theorem Dict.mem_foldl_set {data : Dict} {entries : List α} {cell : String × Value}
    (member : cell ∈ entries.foldl (fun row entry => Dict.set (key entry) (value entry) row) data) :
    cell ∈ data ∨ ∃ entry ∈ entries, cell.2 = value entry := by
  induction entries generalizing data with
  | nil => exact .inl member
  | cons entry rest ih =>
    rcases ih member with before | ⟨later, listed, same⟩
    · rcases Dict.mem_set before with rfl | old
      · exact .inr ⟨entry, List.mem_cons_self, rfl⟩
      · exact .inl old
    · exact .inr ⟨later, List.mem_cons_of_mem _ listed, same⟩

/-- Entries with keys of their own are kept as they are. -/
theorem Dict.foldl_set_distinct {data : Dict} {entries : List α} (distinct : (data.columns ++ entries.map key).Nodup) :
    entries.foldl (fun row entry => Dict.set (key entry) (value entry) row) data =
      data ++ entries.map fun entry => (key entry, value entry) := by
  have fresh (data : Dict) (name : String) (cell : Value) (absent : name ∉ data.columns) : data.set name cell = data ++ [(name, cell)] := by
    induction data with
    | nil => rfl
    | cons entry rest ih =>
      simp only [columns_cons, List.mem_cons, not_or] at absent
      rw [Dict.set, if_neg (Ne.symm absent.1), ih absent.2, List.cons_append]
  induction entries generalizing data with
  | nil => simp
  | cons entry rest ih =>
    have absent : key entry ∉ data.columns := by
      rw [List.map_cons, List.nodup_append] at distinct
      exact fun member => distinct.2.2 _ member _ List.mem_cons_self rfl
    rw [List.foldl_cons, fresh data _ _ absent, ih, List.map_cons, List.append_assoc, List.singleton_append]
    rw [columns, List.map_append, List.append_assoc]
    exact distinct

theorem Dict.get?_isSome {data : Dict} {name : String} (member : name ∈ data.columns) : ∃ cell, data.get? name = some cell := by
  obtain ⟨entry, listed, rfl⟩ := List.mem_map.mp member
  cases found : data.find? (fun other => other.1 == entry.1) with
  | none => exact absurd (List.find?_eq_none.mp found entry listed) (by simp)
  | some other => exact ⟨other.2, by rw [get?, found]; rfl⟩

end Keys

/-! ## The tables that are read -/

/-- A table of a header and rows: within the limits, and every row has each column of the header
once and no other. -/
structure UploadTable (headers : List String) (rows : List Dict) : Prop where
  named : headers ≠ []
  fewColumns : headers.length ≤ 100
  fewRows : rows.length ≤ 10000
  once : ∀ row ∈ rows, row.columns.Nodup
  columns : ∀ row ∈ rows, ∀ name, name ∈ row.columns ↔ name ∈ headers
  short : ∀ row ∈ rows, ∀ cell ∈ row, cell.2.longText = false

theorem mem_columns_dictRow (names cells : List String) (name : String) : name ∈ (dictRow names cells).columns ↔ name ∈ names := by
  have parts : name ∈ (names.zip cells).map Prod.fst ∨ name ∈ names.drop cells.length ↔ name ∈ names := by
    induction names generalizing cells with
    | nil => simp
    | cons first rest ih =>
      cases cells with
      | nil => simp
      | cons cell later =>
        rw [List.zip_cons_cons, List.map_cons, List.mem_cons, List.length_cons, List.drop_succ_cons, List.mem_cons, or_assoc,
          ih later]
  rw [dictRow, Dict.mem_columns_foldl_set (fun name => name) (fun _ => .null), Dict.mem_columns_foldl_set Prod.fst,
    List.map_id', ← parts]
  simp

section Read
variable [Runtime]

theorem nodup_cleanedRow (row : Dict) : (cleanedRow row).columns.Nodup :=
  Dict.nodup_foldl_set (fun entry : String × Value => strip entry.1) (fun entry => entry.2.stripped) row List.nodup_nil

theorem mem_columns_cleanedRow (row : Dict) (name : String) :
    name ∈ (cleanedRow row).columns ↔ name ∈ row.columns.map strip := by
  rw [cleanedRow, Dict.mem_columns_foldl_set (fun entry : String × Value => strip entry.1) (fun entry => entry.2.stripped),
    Dict.columns, Dict.columns, List.map_map]
  simp

theorem mem_columns_read (names cells : List String) (name : String) :
    name ∈ (cleanedRow (dictRow names cells)).columns ↔ name ∈ names.map strip := by
  rw [mem_columns_cleanedRow, List.mem_map, List.mem_map]
  exact exists_congr fun raw => and_congr_left' (mem_columns_dictRow names cells raw)

theorem readCsvRows_ok_iff {failure : Option Csv.Failure} {data rows out : List Dict} (few : rows.length ≤ 10000) :
    readCsvRows failure data rows = .ok out ↔
      failure = none ∧ out = rows ++ data.map cleanedRow ∧ out.length ≤ 10000 ∧
        ∀ row ∈ data, (cleanedRow row).any (·.2.longText) = false := by
  induction data generalizing rows with
  | nil =>
    cases failure with
    | none =>
      simp only [readCsvRows, Except.ok.injEq, List.map_nil, List.append_nil, true_and]
      exact ⟨fun same => ⟨same.symm, same ▸ few, nofun⟩, fun read => read.1.symm⟩
    | some failure => simp [readCsvRows]
  | cons row rest ih =>
    rw [readCsvRows, List.forall_mem_cons]
    by_cases full : rows.length ≥ 10000
    · rw [if_pos full]
      refine ⟨nofun, fun ⟨_, same, bounded, _⟩ => ?_⟩
      rw [same, List.length_append, List.map_cons, List.length_cons] at bounded
      omega
    · rw [if_neg full]
      by_cases long : (cleanedRow row).any (·.2.longText) = true
      · rw [if_pos long]
        exact ⟨nofun, fun ⟨_, _, _, short, _⟩ => absurd long (by rw [short]; exact Bool.false_ne_true)⟩
      · rw [if_neg long, ih (by rw [List.length_append, List.length_singleton]; omega), List.append_assoc, List.singleton_append,
          List.map_cons]
        simp only [Bool.not_eq_true] at long
        simp only [long, true_and]

theorem parseRows_ok_iff {read : List (List String) × Option Csv.Failure} {rows : List Dict} {headers : List String} :
    parseRows read = .ok (rows, headers) ↔
      ∃ names data, read = (names :: data, none) ∧ headers = names.map strip ∧ headers ≠ [] ∧ headers.length ≤ 100 ∧
        rows = (dictRows names data).map cleanedRow ∧ rows.length ≤ 10000 ∧
        ∀ row ∈ rows, row.any (·.2.longText) = false := by
  obtain ⟨lines, failure⟩ := read
  cases lines with
  | nil => cases failure <;> simp [parseRows, unreadable]
  | cons names data =>
    have shape : parseRows (names :: data, failure) =
        if (names.map strip).isEmpty then unreadable "The CSV must contain a header row"
        else if (names.map strip).length > 100 then unreadable "Files are limited to 100 columns"
        else (readCsvRows failure (dictRows names data) []).map fun table => (table, names.map strip) := by
      cases failure <;> rfl
    rw [shape]
    constructor
    · intro parsed
      split at parsed
      · cases parsed
      · next named =>
        split at parsed
        · cases parsed
        · next few =>
          cases read : readCsvRows failure (dictRows names data) [] with
          | error failed =>
            rw [read] at parsed
            cases parsed
          | ok table =>
            rw [read] at parsed
            cases parsed
            obtain ⟨rfl, rfl, bounded, short⟩ := (readCsvRows_ok_iff (Nat.zero_le _)).mp read
            rw [List.nil_append] at bounded ⊢
            exact ⟨names, data, rfl, rfl, by simpa using named, by omega, rfl, bounded, List.forall_mem_map.mpr short⟩
    · rintro ⟨_, _, same, rfl, named, few, rfl, bounded, short⟩
      cases same
      have read : readCsvRows none (dictRows names data) [] = .ok ((dictRows names data).map cleanedRow) :=
        (readCsvRows_ok_iff (Nat.zero_le _)).mpr ⟨rfl, rfl, bounded, List.forall_mem_map.mp short⟩
      rw [if_neg (by simpa using named), if_neg (by omega), read]
      rfl

theorem parseRows_table {read : List (List String) × Option Csv.Failure} {rows : List Dict} {headers : List String}
    (parsed : parseRows read = .ok (rows, headers)) : UploadTable headers rows := by
  obtain ⟨names, data, rfl, rfl, named, few, rfl, bounded, short⟩ := parseRows_ok_iff.mp parsed
  refine ⟨named, few, bounded, ?_, ?_, fun row listed cell inside => ?_⟩
  · exact List.forall_mem_map.mpr fun row _ => nodup_cleanedRow row
  · refine List.forall_mem_map.mpr fun row listed name => ?_
    obtain ⟨cells, _, rfl⟩ := List.mem_map.mp listed
    exact mem_columns_read names cells name
  · simpa using List.any_eq_false.mp (short row listed) cell inside

/-! ## The sheets that are read -/

omit [Runtime] in
theorem readRows_bounded {headers : List String} {data : List (List Value)} {rows out : List Dict}
    (few : rows.length ≤ 10000) (short : ∀ row ∈ rows, row.any (·.2.longText) = false) (read : readRows headers data rows = .ok out) :
    out.length ≤ 10000 ∧ ∀ row ∈ out, row.any (·.2.longText) = false := by
  induction data generalizing rows with
  | nil =>
    cases read
    exact ⟨few, short⟩
  | cons values rest ih =>
    rw [readRows] at read
    dsimp only at read
    split at read
    · cases read
    · next room =>
      split at read
      · cases read
      · next within =>
        split at read
        · refine ih ?_ ?_ read
          · rw [List.length_append, List.length_singleton]
            omega
          · exact List.forall_mem_append.mpr ⟨short, List.forall_mem_singleton.mpr (by simpa using within)⟩
        · exact ih few short read

theorem parseWorksheet_table {sheet : List (List Value)} {rows : List Dict} {headers : List String}
    (parsed : parseWorksheet sheet = .ok (rows, headers)) : UploadTable headers rows := by
  unfold parseWorksheet at parsed
  dsimp only at parsed
  split at parsed
  · cases parsed
  · next named =>
    split at parsed
    · cases parsed
    · next few =>
      cases read : readRows (sheetHeaders (sheet.headD [])) sheet.tail [] with
      | error error =>
        rw [read] at parsed
        cases parsed
      | ok out =>
        rw [read] at parsed
        cases parsed
        obtain ⟨bounded, short⟩ := readRows_bounded (Nat.zero_le _) (by simp) read
        have made : ∀ row ∈ rows, ∃ values, row = sheetRow (sheetHeaders (sheet.headD [])) values := by
          rw [readRows_ok read]
          intro row listed
          obtain ⟨values, _, rfl⟩ := List.mem_map.mp (List.mem_filter.mp listed).1
          exact ⟨values, rfl⟩
        refine ⟨by simpa using named, by omega, bounded, fun row listed => ?_, fun row listed name => ?_, fun row listed cell inside => ?_⟩
        · obtain ⟨values, rfl⟩ := made row listed
          exact Dict.nodup_foldl_set _ _ _ List.nodup_nil
        · obtain ⟨values, rfl⟩ := made row listed
          rw [sheetRow, Dict.mem_columns_foldl_set (fun entry : String × Nat => entry.1) (fun entry => values.getD entry.2 .null)]
          simp
        · simpa using List.any_eq_false.mp (short row listed) cell inside

theorem parseUpload_table [Workbooks] {maxUploadBytes : Nat} {content : ByteArray} {filename : String} {rows : List Dict}
    {headers : List String} (parsed : parseUpload maxUploadBytes content filename = .ok (rows, headers)) : UploadTable headers rows := by
  unfold parseUpload at parsed
  split at parsed
  · cases parsed
  · split at parsed
    · cases parsed
    · split at parsed
      · split at parsed
        · cases parsed
        · exact parseRows_table parsed
      · split at parsed
        · unfold parseWorkbook at parsed
          split at parsed
          · cases parsed
          · split at parsed
            · cases parsed
            · split at parsed
              · cases parsed
              · cases parsed
              · next read =>
                split at parsed
                · cases parsed
                · cases parsed
                  exact parseWorksheet_table read
        · cases parsed


/-! ## The columns that are suggested -/

omit [Runtime] in
theorem definitions_fields (dataType : DataType) : dataType.definitions.map Prod.fst = dataType.fields := by
  cases dataType <;> rfl

omit [Runtime] in
theorem definitions_distinct (dataType : DataType) : (dataType.definitions.map fun definition => definition.1.1).Nodup := by
  cases dataType <;> decide

theorem suggestedColumn_some {headers aliases : List String} {column : String} (suggested : suggestedColumn headers aliases = some column) :
    column ∈ headers ∧ column ≠ "" := by
  obtain ⟨name, _, found⟩ := List.exists_of_findSome?_eq_some suggested
  obtain ⟨there, named⟩ := Option.filter_eq_some_iff.mp found
  exact ⟨List.mem_reverse.mp (List.mem_of_find?_eq_some there), by simpa using named⟩

/-- What one field of distinct ones is mapped to. -/
theorem mappedColumn_suggested {definitions : List ((String × Bool) × List String)}
    (distinct : (definitions.map fun definition => definition.1.1).Nodup) (headers : List String)
    {definition : (String × Bool) × List String} (listed : definition ∈ definitions) :
    mappedColumn (definitions.filterMap fun d => (suggestedColumn headers d.2).map fun column => (d.1.1, column)) definition.1.1 =
      (suggestedColumn headers definition.2).getD "" := by
  induction definitions with
  | nil => cases listed
  | cons first rest ih =>
    obtain ⟨apart, distinct⟩ := List.nodup_cons.mp distinct
    rw [List.filterMap_cons]
    rcases List.mem_cons.mp listed with rfl | later
    · cases suggested : suggestedColumn headers definition.2 with
      | none =>
        have absent : (rest.filterMap fun d => (suggestedColumn headers d.2).map fun column => (d.1.1, column)).find?
            (·.1 == definition.1.1) = none := by
          refine List.find?_eq_none.mpr fun entry member => ?_
          obtain ⟨d, inside, made⟩ := List.mem_filterMap.mp member
          obtain ⟨column, _, rfl⟩ := Option.map_eq_some_iff.mp made
          simp only [beq_iff_eq]
          exact fun same => apart (List.mem_map.mpr ⟨d, inside, same⟩)
        simp [mappedColumn, absent]
      | some column => simp [mappedColumn]
    · have other : first.1.1 ≠ definition.1.1 := fun same => apart (List.mem_map.mpr ⟨definition, later, same.symm⟩)
      rw [← ih distinct later]
      cases suggested : suggestedColumn headers first.2 with
      | none => simp
      | some column => simp [mappedColumn, other]

omit [Runtime] in
theorem mappedColumn_mem {mapping : List (String × String)} {field : String} (mapped : mappedColumn mapping field ≠ "") :
    mappedColumn mapping field ∈ mapping.map Prod.snd := by
  unfold mappedColumn at mapped ⊢
  cases found : mapping.find? (·.1 == field) with
  | none => simp [found] at mapped
  | some entry =>
    rw [Option.map_some, Option.getD_some]
    exact List.mem_map_of_mem (List.mem_of_find?_eq_some found)

/-- The suggested mapping lacks a required field exactly if no column is suggested for it. -/
theorem suggestMapping_valid_iff (dataType : DataType) (headers : List String) :
    validateMapping dataType ((suggestMapping dataType headers).map Prod.snd) (suggestMapping dataType headers) = [] ↔
      ∀ definition ∈ dataType.definitions, definition.1.2 = true → (suggestedColumn headers definition.2).isSome = true := by
  rw [validateMapping, List.flatMap_eq_nil_iff, ← definitions_fields, List.forall_mem_map]
  refine forall₂_congr fun definition listed => ?_
  have mapped : mappedColumn (suggestMapping dataType headers) definition.1.1 = (suggestedColumn headers definition.2).getD "" :=
    mappedColumn_suggested (definitions_distinct dataType) headers listed
  have known : ¬(mappedColumn (suggestMapping dataType headers) definition.1.1 ≠ "" ∧
      mappedColumn (suggestMapping dataType headers) definition.1.1 ∉ (suggestMapping dataType headers).map Prod.snd) :=
    fun ⟨given, absent⟩ => absent (mappedColumn_mem given)
  obtain ⟨⟨field, required⟩, aliases⟩ := definition
  dsimp only at mapped known ⊢
  rw [if_neg known, List.append_nil, mapped]
  cases suggested : suggestedColumn headers aliases with
  | none => simp
  | some column => simp [(suggestedColumn_some suggested).2]

theorem validateRows_valid_iff {received : Nat → DateTime} {dataType : DataType} {rows : List Dict} {mapping : List (String × String)} :
    (validateRows received dataType rows mapping).valid = true ↔
      validateMapping dataType (mapping.map Prod.snd) mapping = [] ∧
        ∀ item ∈ (transformRows dataType rows mapping).zipIdx, ∃ record, previewRecord received dataType item = .ok record := by
  unfold validateRows
  dsimp only
  split
  · next none =>
    rw [List.isEmpty_iff, foldl_validateRow_errors]
    exact and_congr_left' ⟨fun _ => List.isEmpty_iff.mp none, fun _ => rfl⟩
  · next missing =>
    rw [List.isEmpty_iff] at missing
    exact ⟨nofun, fun valid => absurd valid.1 missing⟩

/-- An upload that is created holds a table whose cells can be stored. Every column its mapping
names is one of the header, so each row has it; and the upload is ready exactly if every
required field has a column and each row passes the normalizer. -/
theorem created_upload_reads [Workbooks] {maxUploadBytes : Nat} {received : Nat → DateTime} {id merchantId dataTypeName : String}
    {provider : Option String} {content : ByteArray} {filename : String} {upload : DataUpload}
    (created : createUpload maxUploadBytes received id merchantId dataTypeName provider content filename = .ok upload) :
    UploadTable upload.headers upload.rows ∧
      (∀ entry ∈ upload.mapping, entry.2 ∈ upload.headers ∧
        ∀ row ∈ upload.rows, ∃ cell, row.get? entry.2 = some cell ∧ cell.storable = true) ∧
      (upload.status = .ready ↔
        (∀ definition ∈ upload.dataType.definitions, definition.1.2 = true →
          (suggestedColumn upload.headers definition.2).isSome = true) ∧
        ∀ item ∈ (transformRows upload.dataType upload.rows upload.mapping).zipIdx,
          ∃ record, previewRecord received upload.dataType item = .ok record) := by
  unfold createUpload at created
  split at created
  · cases created
  · next dataType known =>
    split at created
    · cases created
    · split at created
      · cases created
      · cases created
      · next rows headers parsed =>
        dsimp only at created
        split at created
        · next storable =>
          cases created
          have table := parseUpload_table parsed
          refine ⟨table, fun entry listed => ?_, ?_⟩
          · obtain ⟨definition, _, made⟩ := List.mem_filterMap.mp listed
            obtain ⟨column, suggested, rfl⟩ := Option.map_eq_some_iff.mp made
            have named := (suggestedColumn_some suggested).1
            refine ⟨named, fun row inside => ?_⟩
            obtain ⟨cell, found⟩ := Dict.get?_isSome ((table.columns row inside column).mpr named)
            obtain ⟨held, member, rfl⟩ := Option.map_eq_some_iff.mp found
            exact ⟨held.2, found,
              List.all_eq_true.mp (List.all_eq_true.mp storable row inside) held (List.mem_of_find?_eq_some member)⟩
          · rw [← suggestMapping_valid_iff, ← validateRows_valid_iff]
            dsimp only
            split
            · next valid => simp [valid]
            · next invalid => simp [invalid]
        · cases created

end Read

/-! ## Encoded text -/

theorem fromUTF8?_toUTF8 (text : String) : String.fromUTF8? text.toUTF8 = some text := dif_pos text.isValidUTF8

/-- A text that does not start with a byte order mark is decoded as it is. -/
theorem decodeSig_toUTF8 {text : String} (plain : text.toList.head? ≠ some '\uFEFF') : decodeSig text.toUTF8 = some text := by
  rw [decodeSig, fromUTF8?_toUTF8, Option.map_some]
  split
  · next rest starts => exact absurd (by rw [starts]; rfl) plain
  · rfl

section Upload
variable [Runtime] [Workbooks]

theorem parseUpload_text {maxUploadBytes : Nat} {text filename : String} (given : 0 < text.toUTF8.size)
    (small : text.toUTF8.size ≤ maxUploadBytes) (named : endsWith (lower filename) ".csv" = true)
    (plain : text.toList.head? ≠ some '\uFEFF') :
    parseUpload maxUploadBytes text.toUTF8 filename = parseRows (csvRows text) := by
  rw [parseUpload, if_neg (by omega), if_neg (by omega), if_pos (by rw [named]; rfl), decodeSig_toUTF8 plain]

end Upload

section Examples
open DatedText

namespace NoWorkbooks

/-- A server that reads no workbooks. -/
scoped instance noWorkbooks : Workbooks := ⟨false, fun _ => none⟩

end NoWorkbooks

open NoWorkbooks

def paymentsFile : String := "Payment ID,Amount,Date\r\npay-1,\"90.00\",2024-01-01T12:00:00+00:00\r\n"

theorem paymentsFile_parsed : parseUpload 5242880 paymentsFile.toUTF8 "payments.csv" =
    .ok ([[("Payment ID", .str "pay-1"), ("Amount", .str "90.00"), ("Date", .str "2024-01-01T12:00:00+00:00")]],
      ["Payment ID", "Amount", "Date"]) := by
  rw [parseUpload_text (by decide) (by decide) (by decide) (by decide)]
  rfl

theorem created_upload_reads_payments : ∃ upload,
    createUpload 5242880 (fun _ => ⟨0, some 0⟩) "u" "m1" "payments" none paymentsFile.toUTF8 "payments.csv" = .ok upload ∧
      UploadTable upload.headers upload.rows ∧ upload.headers = ["Payment ID", "Amount", "Date"] := by
  obtain ⟨upload, created, headers⟩ : ∃ upload,
      createUpload 5242880 (fun _ => ⟨0, some 0⟩) "u" "m1" "payments" none paymentsFile.toUTF8 "payments.csv" = .ok upload ∧
        upload.headers = ["Payment ID", "Amount", "Date"] := by
    unfold createUpload
    rw [show DataType.ofName? "payments" = some .payments by decide]
    dsimp only
    rw [if_neg (by decide), if_neg (by decide), paymentsFile_parsed]
    exact ⟨_, rfl, rfl⟩
  exact ⟨upload, created, (created_upload_reads created).1, headers⟩

end Examples
end RCAA
