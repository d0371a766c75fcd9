import RCAA.Reports.Summary
import RCAA.Ingestion.Files
import RCAA.Library.OffsetPages

/-! The CSV exports of a merchant's exceptions and cases. A file that is uploaded again is read
as the table it was written from: the cells trimmed, and nothing in place of a missing value
but an empty text. The audit event of an export is left out. -/

namespace RCAA.Reports
open OffsetPages (Listing)

/-! ## The exports -/

/-- What `csv.writer` writes of a value: nothing of `None`. -/
def fieldText (value : Option String) : String := value.getD ""

def csvText (table : List (List String)) : String := String.ofList (Csv.write (table.map (·.map String.toList)))

structure CsvResponse where
  mediaType : String := "text/csv; charset=utf-8"
  contentDisposition : String
  body : ByteArray

/-- `_csv_response`. -/
def csvResponse (filename : String) (headers : List String) (rows : List (List (Option String))) : CsvResponse where
  contentDisposition := "attachment; filename=\"" ++ filename ++ "\""
  body := (csvText (headers :: rows.map (·.map fieldText))).toUTF8

/-- `_date`, of an instant in UTC. -/
def dateText (instant : Int) : String := (⟨instant, some 0⟩ : DateTime).isoformat

section Exports
variable (tables : Tables) (merchantId : String) (start stop : Option DateTime)

def exceptionRows (listing : Listing tables.exceptionCreatedAt) : List ReconciliationException :=
  listing.list ((tables.exceptions merchantId).filter (inPeriod tables.exceptionCreatedAt start stop))

def caseRows (listing : Listing fun c : CaseRow => c.createdAt) : List CaseRow :=
  listing.list ((tables.cases merchantId).filter (inPeriod (fun c => c.createdAt) start stop))

def exceptionHeaders : List String :=
  ["exception_id", "code", "severity", "status", "source", "expected_amount", "actual_amount", "difference", "created_at"]

def exceptionFields (e : ReconciliationException) : List (Option String) :=
  [e.id, e.exceptionCode, e.severity, e.status, e.source, e.expectedAmount.money.str, e.actualAmount.money.str,
    e.difference.money.str, dateText (tables.exceptionCreatedAt e)]

def caseHeaders : List String :=
  ["case_id", "case_number", "status", "priority", "severity", "title", "expected_amount", "actual_amount", "difference",
    "resolution_code", "created_at", "updated_at"]

def caseFields (c : CaseRow) : List (Option String) :=
  [c.id, c.caseNumber, c.status, c.priority, c.severity, c.title, c.expectedAmount.money.str, c.actualAmount.money.str,
    c.storedDifference.str, c.resolutionCode, dateText c.createdAt, dateText c.updatedAt]

def exceptionsCsv (listing : Listing tables.exceptionCreatedAt) : CsvResponse :=
  csvResponse "rcaa-exceptions.csv" exceptionHeaders
    ((exceptionRows tables merchantId start stop listing).map (exceptionFields tables))

def casesCsv (listing : Listing fun c : CaseRow => c.createdAt) : CsvResponse :=
  csvResponse "rcaa-cases.csv" caseHeaders ((caseRows tables merchantId start stop listing).map caseFields)

end Exports

/-! ## What an upload reads of them -/

theorem csvRows_csvText {table : List (List String)} (short : ∀ row ∈ table, ∀ cell ∈ row, cell.length ≤ csvFieldLimit) :
    csvRows (csvText table) = (table, none) := by
  have read : Csv.read csvFieldLimit (csvText table).toList = (table.map (·.map String.toList), none) := by
    rw [csvText, String.toList_ofList]
    refine Csv.read_write (List.forall_mem_map.mpr fun row listed => List.forall_mem_map.mpr fun cell inside => ?_)
    rw [String.length_toList]
    exact short row listed cell inside
  rw [csvRows, read]
  simp [Function.comp_def]

/-- The record of a row: its cells under the headers, trimmed. -/
def tableRow [Platform] (headers row : List String) : Dict := headers.zip (row.map fun cell => .str (strip cell))

/-- A character of a word. -/
def WordCharacter (c : Char) : Prop := c.isAlphanum = true ∨ c = '_'

/-- Trimming leaves a text of letters, digits and underscores as it is. -/
def KeepsWords [Platform] : Prop := ∀ text : String, (∀ c ∈ text.toList, WordCharacter c) → strip text = text

/-- The names of a header: distinct words. -/
structure WordHeader (headers : List String) : Prop where
  named : headers ≠ []
  few : headers.length ≤ 100
  distinct : headers.Nodup
  given : ∀ name ∈ headers, name ≠ ""
  short : ∀ name ∈ headers, name.length ≤ csvFieldLimit
  words : ∀ name ∈ headers, ∀ c ∈ name.toList, WordCharacter c

/-- A text whose first name is a word starts with a character of a word. -/
theorem WordHeader.starts {headers : List String} (words : WordHeader headers) (rows : List (List String)) :
    ∃ c, (csvText (headers :: rows)).toList.head? = some c ∧ WordCharacter c := by
  cases headers with
  | nil => exact absurd rfl words.named
  | cons name later =>
    have characters := words.words name List.mem_cons_self
    cases spelled : name.toList with
    | nil => exact absurd (String.toList_eq_nil_iff.mp spelled) (words.given name List.mem_cons_self)
    | cons c rest =>
      rw [spelled] at characters
      have plain : ∀ d ∈ c :: rest, Csv.special d = false := by
        intro d inside
        rcases characters d inside with letter | rfl
        · by_contra special
          simp only [Csv.special, Csv.lineBreak, Bool.not_eq_false, Bool.or_eq_true, decide_eq_true_eq] at special
          rcases special with (rfl | rfl) | rfl | rfl <;> exact absurd letter (by decide)
        · rfl
      refine ⟨c, ?_, characters c List.mem_cons_self⟩
      rw [csvText, String.toList_ofList, List.map_cons, List.map_cons, spelled]
      exact Csv.write_head plain _ _

section Reading
variable [Runtime]

theorem cleanedRow_dictRow {headers row : List String} (kept : ∀ name ∈ headers, strip name = name) (distinct : headers.Nodup)
    (whole : row.length = headers.length) : cleanedRow (dictRow headers row) = tableRow headers row := by
  have named : (headers.zip row).map Prod.fst = headers := List.map_fst_zip (Nat.le_of_eq whole.symm)
  have read : dictRow headers row = (headers.zip row).map fun entry => (entry.1, .str entry.2) := by
    rw [dictRow, List.drop_of_length_le (Nat.le_of_eq whole.symm), List.foldl_nil,
      Dict.foldl_set_distinct Prod.fst (fun entry => .str entry.2), List.nil_append]
    rw [Dict.columns_nil, List.nil_append, named]
    exact distinct
  have names : (headers.zip row).map (fun entry => strip entry.1) = headers := by
    refine Eq.trans (List.map_congr_left fun entry listed => ?_) named
    exact kept entry.1 (List.of_mem_zip listed).1
  rw [cleanedRow, read, List.foldl_map, Dict.foldl_set_distinct (fun entry : String × String => strip entry.1)
    (fun entry => (Value.str entry.2).stripped), List.nil_append, tableRow, List.zip_map_right]
  · refine List.map_congr_left fun entry listed => ?_
    rw [kept entry.1 (List.of_mem_zip listed).1]
    rfl
  · rw [Dict.columns_nil, List.nil_append, names]
    exact distinct

theorem tableRow_short_iff {headers row : List String} (whole : row.length = headers.length) :
    (tableRow headers row).any (·.2.longText) = false ↔ ∀ cell ∈ row, (strip cell).length ≤ 10000 := by
  have cells : (tableRow headers row).map Prod.snd = row.map fun cell => .str (strip cell) :=
    List.map_snd_zip (by rw [List.length_map]; exact Nat.le_of_eq whole)
  have every : (tableRow headers row).any (·.2.longText) = ((tableRow headers row).map Prod.snd).any Value.longText := by
    rw [List.any_map]
    rfl
  rw [every, cells, List.any_map, List.any_eq_false]
  refine forall₂_congr fun cell _ => ?_
  simp [Value.str, Value.longText]

/-- A header of distinct names and rows that are as long is read as the table it is. -/
theorem parseRows_whole {headers : List String} {cells : List (List String)} (kept : ∀ name ∈ headers, strip name = name)
    (distinct : headers.Nodup) (named : headers ≠ []) (few : headers.length ≤ 100)
    (whole : ∀ row ∈ cells, row.length = headers.length) {rows : List Dict} {names : List String} :
    parseRows (headers :: cells, none) = .ok (rows, names) ↔
      names = headers ∧ rows = cells.map (tableRow headers) ∧ cells.length ≤ 10000 ∧
        ∀ row ∈ cells, ∀ cell ∈ row, (strip cell).length ≤ 10000 := by
  have trimmed : headers.map strip = headers := (List.map_congr_left kept).trans (List.map_id' headers)
  have read : (dictRows headers cells).map cleanedRow = cells.map (tableRow headers) := by
    have full : cells.filter (· ≠ []) = cells := by
      refine List.filter_eq_self.mpr fun row listed => ?_
      have positive := List.length_pos_iff.mpr named
      rw [← whole row listed] at positive
      simpa using List.length_pos_iff.mp positive
    rw [dictRows, full, List.map_map]
    exact List.map_congr_left fun row listed => cleanedRow_dictRow kept distinct (whole row listed)
  have short : (∀ row ∈ cells.map (tableRow headers), row.any (·.2.longText) = false) ↔
      ∀ row ∈ cells, ∀ cell ∈ row, (strip cell).length ≤ 10000 := by
    rw [List.forall_mem_map]
    exact forall₂_congr fun row listed => tableRow_short_iff (whole row listed)
  rw [parseRows_ok_iff]
  constructor
  · rintro ⟨_, _, same, rfl, _, _, rfl, bounded, within⟩
    cases same
    rw [read] at bounded within ⊢
    exact ⟨trimmed, rfl, by simpa using bounded, short.mp within⟩
  · rintro ⟨rfl, rfl, bounded, within⟩
    refine ⟨names, cells, rfl, trimmed.symm, named, few, read.symm, by simpa using bounded, short.mpr within⟩

variable [Workbooks]

/-- An upload reads what a file was written from, as far as the limits of an upload allow. -/
def ReadsBack (maxUploadBytes : Nat) (filename : String) (response : CsvResponse) (headers : List String)
    (rows : List (List (Option String))) : Prop :=
  response.body.size ≤ maxUploadBytes → (∀ row ∈ rows, ∀ value ∈ row, (fieldText value).length ≤ csvFieldLimit) →
    ∀ read names, parseUpload maxUploadBytes response.body filename = .ok (read, names) ↔
      names = headers ∧ read = rows.map (fun row => tableRow headers (row.map fieldText)) ∧ rows.length ≤ 10000 ∧
        ∀ row ∈ rows, ∀ value ∈ row, (strip (fieldText value)).length ≤ 10000

theorem csvResponse_readsBack (keeps : KeepsWords) {maxUploadBytes : Nat} {uploaded : String} {headers : List String}
    {rows : List (List (Option String))} (named : endsWith (lower uploaded) ".csv" = true) (words : WordHeader headers)
    (whole : ∀ row ∈ rows, row.length = headers.length) (filename : String) :
    ReadsBack maxUploadBytes uploaded (csvResponse filename headers rows) headers rows := by
  intro small short read names
  obtain ⟨c, starts, letter⟩ := words.starts (rows.map (·.map fieldText))
  have given : 0 < (csvText (headers :: rows.map (·.map fieldText))).toUTF8.size := by
    refine Nat.pos_of_ne_zero fun empty => ?_
    have none : csvText (headers :: rows.map (·.map fieldText)) = "" := String.utf8ByteSize_eq_zero_iff.mp empty
    rw [none] at starts
    cases starts
  have plain : (csvText (headers :: rows.map (·.map fieldText))).toList.head? ≠ some '\uFEFF' := by
    rw [starts]
    rintro ⟨⟩
    exact absurd letter (by unfold WordCharacter; decide)
  have cells : ∀ row ∈ headers :: rows.map (·.map fieldText), ∀ cell ∈ row, cell.length ≤ csvFieldLimit :=
    List.forall_mem_cons.mpr ⟨words.short, List.forall_mem_map.mpr fun row listed => List.forall_mem_map.mpr (short row listed)⟩
  have lengths : ∀ row ∈ rows.map (·.map fieldText), row.length = headers.length :=
    List.forall_mem_map.mpr fun row listed => (List.length_map fieldText).trans (whole row listed)
  rw [csvResponse, parseUpload_text given small named plain, csvRows_csvText cells,
    parseRows_whole (fun name listed => keeps name (words.words name listed)) words.distinct words.named words.few lengths,
    List.map_map, List.length_map]
  simp only [Function.comp_def, List.forall_mem_map]

omit [Runtime] [Workbooks] in
theorem wordCharacters {headers : List String}
    (checked : headers.all (fun name => name.toList.all fun c => c.isAlphanum || c = '_') = true) :
    ∀ name ∈ headers, ∀ c ∈ name.toList, WordCharacter c := by
  intro name listed c inside
  simpa [WordCharacter] using List.all_eq_true.mp (List.all_eq_true.mp checked name listed) c inside

omit [Runtime] [Workbooks] in
theorem exceptionHeaders_words : WordHeader exceptionHeaders :=
  ⟨by decide, by decide, by decide, by decide, by decide, wordCharacters rfl⟩

omit [Runtime] [Workbooks] in
theorem caseHeaders_words : WordHeader caseHeaders :=
  ⟨by decide, by decide, by decide, by decide, by decide, wordCharacters rfl⟩

/-- The exports of a merchant's exceptions and cases are read back: an upload of the file, under
any name of a CSV file, has the export's header and for each row that was listed its values,
trimmed and under their names, and is accepted exactly if the rows and values are few and
short enough. -/
theorem exports_read_back (keeps : KeepsWords) (maxUploadBytes : Nat) (uploaded : String) (named : endsWith (lower uploaded) ".csv" = true)
    (tables : Tables) (merchantId : String) (start stop : Option DateTime) :
    (∀ listing, ReadsBack maxUploadBytes uploaded (exceptionsCsv tables merchantId start stop listing) exceptionHeaders
      ((exceptionRows tables merchantId start stop listing).map (exceptionFields tables))) ∧
    ∀ listing, ReadsBack maxUploadBytes uploaded (casesCsv tables merchantId start stop listing) caseHeaders
      ((caseRows tables merchantId start stop listing).map caseFields) := by
  refine ⟨fun listing => ?_, fun listing => ?_⟩
  · exact csvResponse_readsBack keeps named exceptionHeaders_words (List.forall_mem_map.mpr fun _ _ => rfl) _
  · exact csvResponse_readsBack keeps named caseHeaders_words (List.forall_mem_map.mpr fun _ _ => rfl) _

end Reading

section Examples
open DatedText PlainText NoWorkbooks

theorem strip_visible {text : String} (visible : ∀ c ∈ text.toList, c.isWhitespace = false) : strip text = text := by
  rw [strip_eq, List.dropWhile_eq_self_iff.mpr, List.rdropWhile_eq_self_iff.mpr, String.ofList_toList]
  · intro some
    simp [visible _ (List.getLast_mem some)]
  · intro some
    simp [visible _ (List.getElem_mem some)]

theorem keepsWords : KeepsWords := by
  intro text words
  refine strip_visible fun c inside => ?_
  by_contra blank
  simp only [Char.isWhitespace, Bool.not_eq_false, Bool.or_eq_true, decide_eq_true_eq] at blank
  have letter := words c inside
  rcases blank with ((rfl | rfl) | rfl) | rfl <;> exact absurd letter (by unfold WordCharacter; decide)

/-- An exception whose source has a comma and quotes. -/
def nightly : ReconciliationException where
  id := "e1"
  reconciliationCaseId := none
  exceptionCode := "MISSING_SETTLEMENT"
  severity := "HIGH"
  status := "OPEN"
  source := some "reconciliation, \"nightly\""
  merchantId := some "m1"
  primaryRecordId := none
  relatedRecordId := none
  expectedAmount := ⟨9000, -2⟩
  actualAmount := ⟨0, -2⟩
  difference := ⟨9000, -2⟩
  fingerprint := "f1"

theorem nightly_alone : KeyedRows.Distinguishes (·.reconciliationCaseId) [nightly] := by
  simp [KeyedRows.Distinguishes, nightly]

def oneException : Tables where
  desk := { exceptions := [nightly], reconciliationCases := nightly_alone }

def asStored : Listing oneException.exceptionCreatedAt where
  list rows := rows
  descending _ := ⟨List.Perm.refl _, List.pairwise_of_forall fun _ _ => Int.le_refl 0⟩

theorem exports_read_back_nightly :
    parseUpload 5242880 (exceptionsCsv oneException "m1" none none asStored).body "again.csv" =
      .ok ([tableRow exceptionHeaders ["e1", "MISSING_SETTLEMENT", "HIGH", "OPEN", "reconciliation, \"nightly\"", "90.00", "0.00",
        "90.00", "1970-01-01T00:00:00+00:00"]], exceptionHeaders) := by
  have readsBack := (exports_read_back keepsWords 5242880 "again.csv" (by decide) oneException "m1" none none).1 asStored
  exact (readsBack (by decide +kernel) (by decide) _ _).mpr ⟨rfl, rfl, by decide, by decide⟩

end Examples
end RCAA.Reports
