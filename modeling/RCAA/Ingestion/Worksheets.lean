import Mathlib
import RCAA.Ingestion.Uploads

/-! The columns of an uploaded worksheet. The blank cells of the header row are dropped before
the rows are read by position, so a column after a blank header is read one column to its left. -/

namespace RCAA

/-- What holds a key of a record after entries are set in order: the last of them with the key. -/
theorem Dict.get?_foldl_set {α : Type} (key : α → String) (value : α → Value) (entries : List α) (name : String) :
    Dict.get? (entries.foldl (fun data entry => Dict.set (key entry) (value entry) data) []) name =
      (entries.reverse.find? fun entry => key entry == name).map value := by
  induction entries using List.reverseRecOn with
  | nil => rfl
  | append_singleton entries entry ih =>
    rw [List.foldl_append, List.foldl_cons, List.foldl_nil, Dict.get?_set, List.reverse_append, List.reverse_singleton,
      List.singleton_append, List.find?_cons]
    by_cases same : key entry = name
    · simp [same]
    · have differs : (key entry == name) = false := by simpa using same
      rw [if_neg same, differs]
      exact ih

theorem Dict.mem_set {data : Dict} {key : String} {value : Value} {entry : String × Value} (member : entry ∈ data.set key value) :
    entry = (key, value) ∨ entry ∈ data := by
  induction data with
  | nil => exact .inl (List.mem_singleton.mp member)
  | cons first rest ih =>
    simp only [Dict.set] at member
    split at member
    · rcases List.mem_cons.mp member with here | later
      · exact .inl here
      · exact .inr (List.mem_cons_of_mem _ later)
    · rcases List.mem_cons.mp member with rfl | later
      · exact .inr List.mem_cons_self
      · exact (ih later).imp id (List.mem_cons_of_mem _)

section Worksheet
variable [Runtime]

/-- `str(v).strip() if v is not None else ""`. -/
def headerText (cell : Value) : String := if cell = .null then "" else strip cell.text

/-- `[h for h in headers if h]`. -/
def sheetHeaders (header : List Value) : List String := (header.map headerText).filter (· ≠ "")

/-- `{headers[i]: values[i] if i < len(values) else None for i in range(len(headers))}`. -/
def sheetRow (headers : List String) (values : List Value) : Dict :=
  headers.zipIdx.foldl (fun row entry => row.set entry.1 (values.getD entry.2 .null)) []

def Value.longText : Value → Bool
  | .scalar (.str text) => text.length > 10000
  | _ => false

/-- `any(v not in (None, "") for v in row.values())`. -/
def Dict.filled (row : Dict) : Bool := row.any fun entry => entry.2 ≠ .null ∧ entry.2 ≠ .str ""

def readRows (headers : List String) : List (List Value) → List Dict → Except IngestError (List Dict)
  | [], rows => .ok rows
  | values :: rest, rows =>
    if rows.length ≥ 10000 then invalid "Files are limited to 10,000 rows"
    else
      let row := sheetRow headers values
      if row.any (·.2.longText) then invalid "Each text cell is limited to 10,000 characters"
      else readRows headers rest (if row.filled then rows ++ [row] else rows)

/-- The XLSX branch of `parse_upload`, from the rows `openpyxl` reads of the active sheet. -/
def parseWorksheet (sheet : List (List Value)) : Except IngestError (List Dict × List String) :=
  let headers := sheetHeaders (sheet.headD [])
  if headers.isEmpty then invalid "The Excel sheet must contain a header row"
  else if headers.length > 100 then invalid "Files are limited to 100 columns"
  else (readRows headers sheet.tail []).map fun rows => (rows, headers)

/-- The rows of a sheet that are not left out. -/
def keptRows (header : List Value) (data : List (List Value)) : List (List Value) :=
  data.filter fun values => (sheetRow (sheetHeaders header) values).filled

/-- A returned row has at each named header the value of the header's own column, none where
the row of the sheet ends before it. -/
def Aligned (header values : List Value) (row : Dict) : Prop :=
  ∀ (column : Nat) (name : String), (header.map headerText)[column]? = some name → name ≠ "" →
    row.get? name = some (values.getD column .null)

/-- The column a header is read from: its place among the named headers, the last if it is repeated. -/
def columnRead (header : List Value) (name : String) : Option Nat :=
  ((sheetHeaders header).zipIdx.reverse.find? (·.1 == name)).map Prod.snd

/-- Every named header's own column holds what the column it is read from does. -/
def ColumnsAgree (header values : List Value) : Prop :=
  ∀ (column : Nat) (name : String), (header.map headerText)[column]? = some name → name ≠ "" →
    ∀ place, columnRead header name = some place → values.getD place .null = values.getD column .null

/-- The names of a header row differ, and no blank is before one of them. -/
def RegularHeader (header : List Value) : Prop :=
  (header.map headerText).Pairwise fun name later => later ≠ "" → name ≠ "" ∧ name ≠ later

instance (header : List Value) : Decidable (RegularHeader header) := inferInstanceAs (Decidable (List.Pairwise _ _))

/-! ## The rows returned -/

omit [Runtime] in
theorem readRows_ok {headers : List String} {data : List (List Value)} {rows out : List Dict}
    (read : readRows headers data rows = .ok out) : out = rows ++ (data.map (sheetRow headers)).filter Dict.filled := by
  induction data generalizing rows with
  | nil =>
    cases read
    simp
  | cons values rest ih =>
    simp only [readRows] at read
    split at read
    · cases read
    · split at read
      · cases read
      · rw [ih read, List.map_cons, List.filter_cons]
        split <;> simp

theorem parseWorksheet_ok {header : List Value} {data : List (List Value)} {rows : List Dict} {headers : List String}
    (parsed : parseWorksheet (header :: data) = .ok (rows, headers)) :
    sheetHeaders header ≠ [] ∧ (sheetHeaders header).length ≤ 100 ∧
      rows = (keptRows header data).map (sheetRow (sheetHeaders header)) := by
  unfold parseWorksheet at parsed
  dsimp only [List.headD_cons, List.tail_cons] at parsed
  split at parsed
  · cases parsed
  · next named =>
    split at parsed
    · cases parsed
    · next few =>
      cases read : readRows (sheetHeaders header) data [] with
      | error error =>
        rw [read] at parsed
        cases parsed
      | ok out =>
        rw [read] at parsed
        cases parsed
        refine ⟨by simpa using named, by omega, ?_⟩
        rw [readRows_ok read, List.nil_append, keptRows, List.filter_map]
        rfl

/-! ## The columns read -/

theorem sheetRow_get? (header values : List Value) (name : String) :
    (sheetRow (sheetHeaders header) values).get? name = (columnRead header name).map fun place => values.getD place .null := by
  rw [sheetRow, Dict.get?_foldl_set, columnRead, Option.map_map]
  rfl

theorem mem_sheetHeaders {header : List Value} {column : Nat} {name : String} (there : (header.map headerText)[column]? = some name)
    (named : name ≠ "") : name ∈ sheetHeaders header :=
  List.mem_filter.mpr ⟨List.mem_of_getElem? there, by simpa using named⟩

theorem columnRead_isSome {header : List Value} {name : String} (member : name ∈ sheetHeaders header) :
    ∃ place, columnRead header name = some place := by
  obtain ⟨i, found⟩ := List.mem_iff_getElem?.mp member
  have listed : (name, i) ∈ (sheetHeaders header).zipIdx.reverse := by
    rw [List.mem_reverse]
    exact List.mem_zipIdx_iff_getElem?.mpr found
  cases looked : (sheetHeaders header).zipIdx.reverse.find? (·.1 == name) with
  | none => exact absurd (List.find?_eq_none.mp looked _ listed) (by simp)
  | some entry => exact ⟨entry.2, by rw [columnRead, looked]; rfl⟩

theorem columnRead_place {header : List Value} {name : String} {place : Nat} (read : columnRead header name = some place) :
    (sheetHeaders header)[place]? = some name := by
  obtain ⟨entry, found, rfl⟩ := Option.map_eq_some_iff.mp read
  have member := List.mem_reverse.mp (List.mem_of_find?_eq_some found)
  have same : entry.1 = name := by simpa using List.find?_some found
  rw [← same]
  exact List.mem_zipIdx_iff_getElem?.mp member

theorem aligned_iff (header values : List Value) :
    Aligned header values (sheetRow (sheetHeaders header) values) ↔ ColumnsAgree header values := by
  constructor
  · intro aligned column name there named place read
    have shown := aligned column name there named
    rw [sheetRow_get?, read, Option.map_some, Option.some.injEq] at shown
    exact shown
  · intro agree column name there named
    obtain ⟨place, read⟩ := columnRead_isSome (mem_sheetHeaders there named)
    rw [sheetRow_get?, read, Option.map_some, agree column name there named place read]

/-! ## Header rows -/

/-- A named header is the named one its rank says. -/
theorem sheetHeaders_rank {header : List Value} {column : Nat} {name : String}
    (there : (header.map headerText)[column]? = some name) (named : name ≠ "") :
    (sheetHeaders header)[(((header.map headerText).take column).filter (· ≠ "")).length]? = some name := by
  rw [sheetHeaders]
  generalize header.map headerText = texts at there ⊢
  obtain ⟨inside, rfl⟩ := List.getElem?_eq_some_iff.mp there
  have split : texts = texts.take column ++ texts[column] :: texts.drop (column + 1) := by
    rw [← List.drop_eq_getElem_cons inside, List.take_append_drop]
  conv_lhs => rw [split]
  rw [List.filter_append, List.filter_cons_of_pos (by simpa using named), ← split, List.getElem?_append_right (Nat.le_refl _),
    Nat.sub_self]
  rfl

theorem sheetHeaders_nodup {header : List Value}
    (differ : ∀ (column later : Nat) (name : String), (header.map headerText)[column]? = some name → (header.map headerText)[later]? = some name →
      name ≠ "" → column = later) : (sheetHeaders header).Nodup := by
  rw [sheetHeaders, List.Nodup, List.pairwise_filter, List.pairwise_iff_getElem]
  intro i j hi hj before named _ same
  refine absurd (differ i j _ (List.getElem?_eq_getElem hi) ?_ (by simpa using named)) (by omega)
  rw [same, List.getElem?_eq_getElem hj]

/-- In a regular header row every name is read from its own column. -/
theorem columnRead_of_regular {header : List Value} (regular : RegularHeader header) {column : Nat} {name : String}
    (there : (header.map headerText)[column]? = some name) (named : name ≠ "") : columnRead header name = some column := by
  have pairs := List.pairwise_iff_getElem.mp regular
  have distinct : (sheetHeaders header).Nodup := by
    refine sheetHeaders_nodup fun i j name here later named => ?_
    obtain ⟨hi, rfl⟩ := List.getElem?_eq_some_iff.mp here
    obtain ⟨hj, same⟩ := List.getElem?_eq_some_iff.mp later
    rcases Nat.lt_trichotomy i j with before | rfl | after
    · exact absurd same.symm (pairs i j hi hj before (same ▸ named)).2
    · rfl
    · exact absurd same (pairs j i hj hi after named).2
  have rank := sheetHeaders_rank there named
  have full : ((header.map headerText).take column).filter (· ≠ "") = (header.map headerText).take column := by
    refine List.filter_eq_self.mpr fun text member => ?_
    obtain ⟨i, found⟩ := List.mem_iff_getElem?.mp member
    obtain ⟨inside, rfl⟩ := List.getElem?_eq_some_iff.mp there
    rw [List.getElem?_take] at found
    split at found
    · next before =>
      obtain ⟨hi, rfl⟩ := List.getElem?_eq_some_iff.mp found
      simpa using (pairs i column hi inside before named).1
    · cases found
  have inside := (List.getElem?_eq_some_iff.mp there).1
  rw [full, List.length_take, Nat.min_eq_left (Nat.le_of_lt inside)] at rank
  obtain ⟨place, read⟩ := columnRead_isSome (mem_sheetHeaders there named)
  rw [read, Option.some.injEq]
  have found := columnRead_place read
  obtain ⟨placed, same⟩ := List.getElem?_eq_some_iff.mp found
  obtain ⟨ranked, also⟩ := List.getElem?_eq_some_iff.mp rank
  exact (distinct.getElem_inj_iff).mp (same.trans also.symm)

/-- A header row whose names are all read from their own columns is regular. -/
theorem regular_of_columnRead {header : List Value}
    (own : ∀ (column : Nat) (name : String), (header.map headerText)[column]? = some name → name ≠ "" → columnRead header name = some column) :
    RegularHeader header := by
  have differ : ∀ (column later : Nat) (name : String), (header.map headerText)[column]? = some name →
      (header.map headerText)[later]? = some name → name ≠ "" → column = later := fun column later name here there named =>
    Option.some.inj ((own column name here named).symm.trans (own later name there named))
  refine List.pairwise_iff_getElem.mpr fun i j hi hj before named => ?_
  have there := List.getElem?_eq_getElem hj
  refine ⟨fun blank => ?_, fun same => ?_⟩
  · -- A blank before the column makes its rank smaller than its place.
    have rank := sheetHeaders_rank there named
    have place := columnRead_place (own j _ there named)
    obtain ⟨placed, found⟩ := List.getElem?_eq_some_iff.mp place
    obtain ⟨ranked, also⟩ := List.getElem?_eq_some_iff.mp rank
    have equal := ((sheetHeaders_nodup differ).getElem_inj_iff).mp (found.trans also.symm)
    have fewer : (((header.map headerText).take j).filter (· ≠ "")).length < ((header.map headerText).take j).length := by
      refine List.length_filter_lt_length_iff_exists.mpr ⟨_, List.mem_take_iff_getElem.mpr ⟨i, by omega, blank⟩, by simp⟩
    rw [List.length_take] at fewer
    omega
  · have here := List.getElem?_eq_getElem hi
    rw [same] at here
    exact absurd (differ i j _ here there named) (by omega)

/-! ## Sheets -/

/-- A row that holds the number of each of its columns. -/
def numberedRow (width : Nat) : List Value := (List.range width).map fun (i : Nat) => .scalar (.int i)

omit [Runtime] in
theorem numberedRow_getD {width column : Nat} (inside : column < width) :
    (numberedRow width).getD column .null = .scalar (.int column) := by
  simp [numberedRow, List.getD, inside]

theorem columnRead_lt {header : List Value} {name : String} {place : Nat} (read : columnRead header name = some place) :
    place < header.length := by
  have placed := (List.getElem?_eq_some_iff.mp (columnRead_place read)).1
  have fewer := List.length_filter_le (· ≠ "") (header.map headerText)
  rw [List.length_map] at fewer
  exact Nat.lt_of_lt_of_le placed fewer

/-- A numbered row is not left out, and is short enough to be read. -/
theorem numberedRow_kept {header : List Value} (named : sheetHeaders header ≠ []) :
    keptRows header [numberedRow header.length] = [numberedRow header.length] := by
  obtain ⟨name, rest, listed⟩ := List.exists_cons_of_ne_nil named
  obtain ⟨place, read⟩ := columnRead_isSome (show name ∈ sheetHeaders header by rw [listed]; exact List.mem_cons_self)
  have shown := sheetRow_get? header (numberedRow header.length) name
  rw [read, Option.map_some, numberedRow_getD (columnRead_lt read)] at shown
  obtain ⟨entry, found, value⟩ := Option.map_eq_some_iff.mp shown
  rw [keptRows, List.filter_cons_of_pos, List.filter_nil]
  refine List.any_eq_true.mpr ⟨entry, List.mem_of_find?_eq_some found, ?_⟩
  rw [value]
  rfl

omit [Runtime] in
/-- A row holds nothing but cells of the sheet's row. -/
theorem mem_sheetRow {headers : List String} {values : List Value} {entry : String × Value}
    (member : entry ∈ sheetRow headers values) : ∃ place, entry.2 = values.getD place .null := by
  rw [sheetRow] at member
  generalize headers.zipIdx = places at member
  induction places using List.reverseRecOn with
  | nil => cases member
  | append_singleton places last ih =>
    rw [List.foldl_append, List.foldl_cons, List.foldl_nil] at member
    rcases Dict.mem_set member with rfl | before
    · exact ⟨last.2, rfl⟩
    · exact ih before

omit [Runtime] in
theorem numberedRow_short (headers : List String) (width : Nat) :
    (sheetRow headers (numberedRow width)).any (·.2.longText) = false := by
  refine List.any_eq_false.mpr fun entry member => ?_
  obtain ⟨place, value⟩ := mem_sheetRow member
  rw [value]
  by_cases inside : place < width
  · rw [numberedRow_getD inside]
    exact Bool.false_ne_true
  · rw [List.getD_eq_getElem?_getD, List.getElem?_eq_none (by simpa [numberedRow] using inside)]
    exact Bool.false_ne_true

/-- A sheet of an accepted header row and one numbered row is read. -/
theorem numberedRow_parsed {header : List Value} (named : sheetHeaders header ≠ []) (few : (sheetHeaders header).length ≤ 100) :
    ∃ rows headers, parseWorksheet [header, numberedRow header.length] = .ok (rows, headers) := by
  have read : ∃ rows, readRows (sheetHeaders header) [numberedRow header.length] [] = .ok rows := by
    rw [readRows, if_neg (by simp)]
    dsimp only
    rw [numberedRow_short]
    exact ⟨_, rfl⟩
  obtain ⟨rows, read⟩ := read
  refine ⟨rows, sheetHeaders header, ?_⟩
  unfold parseWorksheet
  dsimp only [List.headD_cons, List.tail_cons]
  rw [if_neg (by simpa using named), if_neg (by omega), read]
  rfl

/-- A sheet that is read has its columns aligned exactly if in every kept row each named
header's own column holds what the column it is read from does. Its header row aligns every
sheet exactly if its names differ and no blank is before one of them. -/
theorem columns_aligned_iff {header : List Value} {data : List (List Value)} {rows : List Dict} {headers : List String}
    (parsed : parseWorksheet (header :: data) = .ok (rows, headers)) :
    (List.Forall₂ (Aligned header) (keptRows header data) rows ↔ ∀ values ∈ keptRows header data, ColumnsAgree header values) ∧
      ((∀ others read names, parseWorksheet (header :: others) = .ok (read, names) →
          List.Forall₂ (Aligned header) (keptRows header others) read) ↔ RegularHeader header) := by
  have sheet {others : List (List Value)} {read : List Dict} {names : List String}
      (parsed : parseWorksheet (header :: others) = .ok (read, names)) :
      List.Forall₂ (Aligned header) (keptRows header others) read ↔ ∀ values ∈ keptRows header others, ColumnsAgree header values := by
    rw [(parseWorksheet_ok parsed).2.2, List.forall₂_map_right_iff, List.forall₂_same]
    exact forall₂_congr fun values _ => aligned_iff header values
  obtain ⟨named, few, _⟩ := parseWorksheet_ok parsed
  refine ⟨sheet parsed, fun every => ?_, fun regular others read names reads => ?_⟩
  · obtain ⟨read, names, reads⟩ := numberedRow_parsed named few
    have agree := (sheet reads).mp (every _ _ _ reads) (numberedRow header.length)
      (by rw [numberedRow_kept named]; exact List.mem_singleton_self _)
    refine regular_of_columnRead fun column name there name_ne => ?_
    obtain ⟨place, found⟩ := columnRead_isSome (mem_sheetHeaders there name_ne)
    have same := agree column name there name_ne place found
    have inside := (List.getElem?_eq_some_iff.mp there).1
    rw [List.length_map] at inside
    rw [numberedRow_getD (columnRead_lt found), numberedRow_getD inside] at same
    obtain rfl : place = column := by simpa using same
    exact found
  · refine (sheet reads).mpr fun values _ column name there name_ne place found => ?_
    rw [columnRead_of_regular regular there name_ne, Option.some.injEq] at found
    rw [found]

end Worksheet

section Examples
open DatedText

def textCells (texts : List String) : List Value := texts.map Value.str

theorem columns_aligned_iff_regular :
    List.Forall₂ (Aligned (textCells ["payment_id", "amount"])) [textCells ["pay-1", "90.00"]]
      [[("payment_id", .str "pay-1"), ("amount", .str "90.00")]] := by
  have sheets := (@columns_aligned_iff _ (textCells ["payment_id", "amount"]) [textCells ["pay-1", "90.00"]] _ _ rfl).2.mpr (by decide)
  exact sheets [textCells ["pay-1", "90.00"]] _ _ rfl

/-- Under a blank header the amount is read from the column before its own. -/
theorem blank_header_shifts_columns :
    ¬∀ (header : List Value) (data : List (List Value)) (rows : List Dict) (headers : List String),
      parseWorksheet (header :: data) = .ok (rows, headers) → List.Forall₂ (Aligned header) (keptRows header data) rows := by
  intro law
  cases law [.str "payment_id", .null, .str "amount"] [textCells ["pay-1", "7.00", "90.00"]] _ _ rfl with
  | cons aligned _ => exact absurd (aligned 2 "amount" rfl (by decide)) (by decide)

end Examples
end RCAA
