import Mathlib

/-! Comma-separated text: the reader and the writer of the usual dialect. The reader takes the
text line by line and hands out a row when a line ends outside a quoted field, so a row may
span lines; the rows before an error are handed out. -/

namespace Csv

inductive Failure where
  /-- A line break inside a line, outside a quoted field. -/
  | newLine
  /-- A field that is longer than the limit. -/
  | fieldLimit
deriving DecidableEq, Repr

inductive Phase where
  | startRecord | startField | inField | inQuoted | quoteInQuoted | eatCrnl
deriving DecidableEq, Repr

/-- The fields of a row that have ended, and the one that is read. -/
structure Reading where
  phase : Phase := .startRecord
  fields : List (List Char) := []
  field : List Char := []

abbrev Rows := List (List (List Char))

/-! ## The lines of a text -/

/-- A line ends behind its line feed. -/
def lines : List Char → List (List Char)
  | [] => []
  | c :: rest =>
    if c = '\n' then ['\n'] :: lines rest
    else match lines rest with
      | [] => [[c]]
      | line :: later => (c :: line) :: later

/-! ## The reader -/

namespace Reading

/-- The field that is read has ended. -/
def close (reading : Reading) (phase : Phase) : Reading := ⟨phase, reading.fields ++ [reading.field], []⟩

def add (limit : Nat) (reading : Reading) (c : Char) (phase : Phase) : Except Failure Reading :=
  if limit ≤ reading.field.length then .error .fieldLimit
  else .ok { reading with phase, field := reading.field ++ [c] }

end Reading

def lineBreak (c : Char) : Bool := c = '\n' || c = '\r'

/-- The next character where a field is expected, none at the end of the line. -/
def atField (limit : Nat) (reading : Reading) : Option Char → Except Failure Reading
  | none => .ok (reading.close .startRecord)
  | some c =>
    if lineBreak c then .ok (reading.close .eatCrnl)
    else if c = '"' then .ok { reading with phase := .inQuoted }
    else if c = ',' then .ok (reading.close .startField)
    else reading.add limit c .inField

def step (limit : Nat) (reading : Reading) (next : Option Char) : Except Failure Reading :=
  match reading.phase, next with
  | .startRecord, none => .ok reading
  | .startRecord, some c => if lineBreak c then .ok { reading with phase := .eatCrnl } else atField limit reading next
  | .startField, _ => atField limit reading next
  | .inField, none => .ok (reading.close .startRecord)
  | .inField, some c =>
    if lineBreak c then .ok (reading.close .eatCrnl)
    else if c = ',' then .ok (reading.close .startField)
    else reading.add limit c .inField
  | .inQuoted, none => .ok reading
  | .inQuoted, some c => if c = '"' then .ok { reading with phase := .quoteInQuoted } else reading.add limit c .inQuoted
  | .quoteInQuoted, none => .ok (reading.close .startRecord)
  | .quoteInQuoted, some c =>
    if c = '"' then reading.add limit c .inQuoted
    else if c = ',' then .ok (reading.close .startField)
    else if lineBreak c then .ok (reading.close .eatCrnl)
    else reading.add limit c .inField
  | .eatCrnl, none => .ok { reading with phase := .startRecord }
  | .eatCrnl, some c => if lineBreak c then .ok reading else .error .newLine

/-- A line and its end. -/
def readLine (limit : Nat) (reading : Reading) (line : List Char) : Except Failure Reading :=
  (line.map some ++ [none]).foldlM (step limit) reading

/-- The rows of the lines, and the error that ends them. Where the lines end in a row, the row
is handed out if a quoted field is open or something of a field was read. -/
def readLines (limit : Nat) (reading : Reading) : List (List Char) → Rows × Option Failure
  | [] => (if reading.field ≠ [] ∨ reading.phase = .inQuoted then [(reading.close .startRecord).fields] else [], none)
  | line :: rest =>
    match readLine limit reading line with
    | .error failure => ([], some failure)
    | .ok after =>
      if after.phase = .startRecord then
        let (rows, failure) := readLines limit {} rest
        (after.fields :: rows, failure)
      else readLines limit after rest

def read (limit : Nat) (text : List Char) : Rows × Option Failure := readLines limit {} (lines text)

/-! ## The writer -/

/-- A character that is written inside quotes only. -/
def special (c : Char) : Bool := c = ',' || c = '"' || lineBreak c

/-- A quote is written twice. -/
def escape (field : List Char) : List Char := field.flatMap fun c => if c = '"' then ['"', '"'] else [c]

def quoted (field : List Char) : List Char := '"' :: (escape field ++ ['"'])

def writeField (field : List Char) : List Char := if field.any special then quoted field else field

/-- The only field of a row is quoted if it is empty: the row would be empty. -/
def writeRow (fields : List (List Char)) : List Char :=
  (if fields = [[]] then quoted [] else [','].intercalate (fields.map writeField)) ++ ['\r', '\n']

def write (rows : Rows) : List Char := rows.flatMap writeRow

/-! ## Reading on in a line -/

/-- The rows read from inside a line. -/
def resume (limit : Nat) (reading : Reading) (text : List Char) : Rows × Option Failure :=
  readLines limit reading (match lines text with
    | [] => [[]]
    | line :: later => line :: later)

theorem lines_ne_nil {text : List Char} (some : text ≠ []) : lines text ≠ [] := by
  cases text with
  | nil => exact absurd rfl some
  | cons c rest =>
    rw [lines]
    split
    · exact List.cons_ne_nil _ _
    · split <;> exact List.cons_ne_nil _ _

theorem readLines_lines (limit : Nat) (reading : Reading) {text : List Char} (some : text ≠ []) :
    readLines limit reading (lines text) = resume limit reading text := by
  rw [resume]
  cases split : lines text with
  | nil => exact absurd split (lines_ne_nil some)
  | cons line later => rfl

theorem readLine_cons (limit : Nat) (reading : Reading) (c : Char) (line : List Char) :
    readLine limit reading (c :: line) = (step limit reading (some c)).bind (readLine limit · line) := by
  rw [readLine, List.map_cons, List.cons_append, List.foldlM_cons]
  rfl

/-- A character inside a line is one step of the reader. -/
theorem resume_cons {limit : Nat} {reading : Reading} (after : Reading) {c : Char} (inside : c ≠ '\n')
    (stepped : step limit reading (some c) = .ok after) (text : List Char) :
    resume limit reading (c :: text) = resume limit after text := by
  have line (rest : List Char) : readLine limit reading (c :: rest) = readLine limit after rest := by
    rw [readLine_cons, stepped]
    rfl
  rw [resume, lines, if_neg inside, resume]
  cases lines text <;> simp only [readLines, line]

/-- A line feed is a step, and then the line ends. -/
theorem resume_lineFeed {limit : Nat} {reading : Reading} (fed after : Reading) (stepped : step limit reading (some '\n') = .ok fed)
    (ended : step limit fed none = .ok after) (text : List Char) :
    resume limit reading ('\n' :: text) =
      if after.phase = .startRecord then
        (after.fields :: (read limit text).1, (read limit text).2)
      else readLines limit after (lines text) := by
  have line : readLine limit reading ['\n'] = .ok after := by
    rw [readLine_cons, stepped]
    change (step limit fed none).bind _ = _
    rw [ended]
    rfl
  rw [resume, lines, if_pos rfl]
  simp only [readLines, line, read]

/-! ## Reading what was written -/

section Written
variable {limit : Nat} {fields : List (List Char)}

/-- Plain characters are read into the field. -/
theorem resume_plain {field done : List Char} (plain : ∀ c ∈ field, special c = false)
    (short : (done ++ field).length ≤ limit) (text : List Char) :
    resume limit ⟨.inField, fields, done⟩ (field ++ text) = resume limit ⟨.inField, fields, done ++ field⟩ text := by
  induction field generalizing done with
  | nil => simp
  | cons c rest ih =>
    have ordinary := plain c List.mem_cons_self
    simp only [special, lineBreak, Bool.or_eq_false_iff, decide_eq_false_iff_not] at ordinary
    obtain ⟨⟨comma, _⟩, feed, carriage⟩ := ordinary
    have room : ¬limit ≤ done.length := by
      simp only [List.length_append, List.length_cons] at short
      omega
    rw [List.cons_append, resume_cons ⟨.inField, fields, done ++ [c]⟩ feed, ih, List.append_assoc]
    · rfl
    · exact fun d member => plain d (List.mem_cons_of_mem _ member)
    · simpa using short
    · simp [step, lineBreak, feed, carriage, comma, Reading.add, room]

/-- Inside quotes every character is read into the field, a line feed with the end of its line. -/
theorem resume_inQuoted {c : Char} {done : List Char} (other : c ≠ '"') (room : done.length < limit) {text : List Char}
    (more : text ≠ []) :
    resume limit ⟨.inQuoted, fields, done⟩ (c :: text) = resume limit ⟨.inQuoted, fields, done ++ [c]⟩ text := by
  have stepped : step limit ⟨.inQuoted, fields, done⟩ (some c) = .ok ⟨.inQuoted, fields, done ++ [c]⟩ := by
    simp [step, other, Reading.add, room]
  by_cases feed : c = '\n'
  · subst feed
    rw [resume_lineFeed _ ⟨.inQuoted, fields, done ++ ['\n']⟩ stepped rfl, if_neg (by simp), readLines_lines limit _ more]
  · exact resume_cons _ feed stepped text

/-- A quoted field is read up to its closing quote. -/
theorem resume_escaped {field : List Char} (done : List Char) (short : (done ++ field).length ≤ limit) (text : List Char) :
    resume limit ⟨.inQuoted, fields, done⟩ (escape field ++ '"' :: text) =
      resume limit ⟨.quoteInQuoted, fields, done ++ field⟩ text := by
  induction field generalizing done with
  | nil =>
    rw [List.append_nil]
    exact resume_cons _ (by decide) rfl text
  | cons c rest ih =>
    have room : done.length < limit := by
      simp only [List.length_append, List.length_cons] at short
      omega
    have later := ih (done ++ [c]) (by simpa using short)
    rw [List.append_assoc, List.singleton_append] at later
    rw [escape, List.flatMap_cons, List.append_assoc, ← escape]
    split
    · next quote =>
      subst quote
      rw [List.cons_append, List.singleton_append, resume_cons _ (by decide) rfl,
        resume_cons ⟨.inQuoted, fields, done ++ ['"']⟩ (by decide), later]
      simp [step, Reading.add, room]
    · next other =>
      rw [List.singleton_append, resume_inQuoted other room (by simp), later]

/-- Where a field is expected: at its start in a row or behind a comma. -/
def Expecting (phase : Phase) : Prop := phase = .startRecord ∨ phase = .startField

theorem step_expecting {phase : Phase} (expecting : Expecting phase) {c : Char} (within : lineBreak c = false) :
    step limit ⟨phase, fields, []⟩ (some c) = atField limit ⟨phase, fields, []⟩ (some c) := by
  rcases expecting with rfl | rfl
  · simp [step, within]
  · rfl

theorem resume_quoted {phase : Phase} (expecting : Expecting phase) {field : List Char} (short : field.length ≤ limit)
    (text : List Char) :
    resume limit ⟨phase, fields, []⟩ (quoted field ++ text) = resume limit ⟨.quoteInQuoted, fields, field⟩ text := by
  have opened : step limit ⟨phase, fields, []⟩ (some '"') = .ok ⟨.inQuoted, fields, []⟩ := by
    rw [step_expecting expecting (by decide)]
    rfl
  rw [quoted, List.cons_append, List.append_assoc, List.singleton_append, resume_cons _ (by decide) opened]
  exact resume_escaped [] (by simpa using short) text

/-- A field that was read ends at a comma, and the next is expected. -/
theorem resume_comma {phase : Phase} (within : phase ≠ .inQuoted ∧ phase ≠ .eatCrnl) (field text : List Char) :
    resume limit ⟨phase, fields, field⟩ (',' :: text) = resume limit ⟨.startField, fields ++ [field], []⟩ text := by
  refine resume_cons _ (by decide) ?_ text
  cases phase <;> simp_all [step, atField, lineBreak, Reading.close]

/-- The last field of a row ends at the line break, and the row is handed out. -/
theorem resume_lineBreak {phase : Phase} (within : phase ≠ .startRecord ∧ phase ≠ .inQuoted ∧ phase ≠ .eatCrnl)
    (field text : List Char) :
    resume limit ⟨phase, fields, field⟩ ('\r' :: '\n' :: text) =
      ((fields ++ [field]) :: (read limit text).1, (read limit text).2) := by
  have carriage : step limit ⟨phase, fields, field⟩ (some '\r') = .ok ⟨.eatCrnl, fields ++ [field], []⟩ := by
    cases phase <;> simp_all [step, atField, lineBreak, Reading.close]
  rw [resume_cons _ (by decide) carriage,
    resume_lineFeed ⟨.eatCrnl, fields ++ [field], []⟩ ⟨.startRecord, fields ++ [field], []⟩ rfl rfl]
  exact if_pos rfl

/-- What a field leaves the reader in. -/
theorem resume_field (fields : List (List Char)) {phase : Phase} (expecting : Expecting phase) {field : List Char} (short : field.length ≤ limit)
    (text : List Char) :
    ∃ reached, (reached ≠ .inQuoted ∧ reached ≠ .eatCrnl) ∧ (reached = .startRecord → phase = .startRecord ∧ field = []) ∧
      resume limit ⟨phase, fields, []⟩ (writeField field ++ text) = resume limit ⟨reached, fields, field⟩ text := by
  rw [writeField]
  split
  · exact ⟨.quoteInQuoted, by decide, nofun, resume_quoted expecting short text⟩
  · next plain =>
    cases field with
    | nil =>
      refine ⟨phase, ?_, fun record => ⟨record, rfl⟩, rfl⟩
      rcases expecting with rfl | rfl <;> decide
    | cons c rest =>
      have plain : ∀ d ∈ c :: rest, special d = false := by simpa using plain
      have ordinary := plain c List.mem_cons_self
      simp only [special, Bool.or_eq_false_iff, decide_eq_false_iff_not] at ordinary
      obtain ⟨⟨comma, quote⟩, within⟩ := ordinary
      have feed : c ≠ '\n' := by
        rintro rfl
        cases within
      have room : limit ≠ 0 := Nat.ne_of_gt (Nat.lt_of_lt_of_le (Nat.succ_pos _) short)
      refine ⟨.inField, by decide, nofun, ?_⟩
      rw [List.cons_append, resume_cons ⟨.inField, fields, [c]⟩ feed]
      · exact resume_plain (fun d member => plain d (List.mem_cons_of_mem _ member)) (by simpa using short) text
      · rw [step_expecting expecting within]
        simp [atField, within, quote, comma, Reading.add, room]

/-- The fields of a row, behind those that were read. -/
theorem resume_fields {later : List (List Char)} {field : List Char} {phase : Phase} (expecting : Expecting phase)
    (short : ∀ f ∈ field :: later, f.length ≤ limit) (whole : phase = .startRecord → (field :: later) ≠ [[]]) (text : List Char) :
    resume limit ⟨phase, fields, []⟩ ([','].intercalate ((field :: later).map writeField) ++ '\r' :: '\n' :: text) =
      ((fields ++ field :: later) :: (read limit text).1, (read limit text).2) := by
  induction later generalizing fields field phase with
  | nil =>
    obtain ⟨reached, within, started, resumed⟩ := resume_field fields expecting (short field List.mem_cons_self)
      ('\r' :: '\n' :: text)
    have ends : reached ≠ .startRecord := by
      intro record
      obtain ⟨same, rfl⟩ := started record
      exact whole same rfl
    rw [List.map_singleton, List.intercalate_singleton, resumed, resume_lineBreak ⟨ends, within⟩]
  | cons next later ih =>
    obtain ⟨reached, within, _, resumed⟩ := resume_field fields expecting (short field List.mem_cons_self)
      (',' :: ([','].intercalate ((next :: later).map writeField) ++ '\r' :: '\n' :: text))
    rw [List.map_cons, List.map_cons, List.intercalate_cons_cons, ← List.map_cons, List.append_assoc, List.append_assoc,
      List.singleton_append, resumed, resume_comma within,
      ih (.inr rfl) (fun f member => short f (List.mem_cons_of_mem _ member)) nofun, List.append_assoc, List.singleton_append]

end Written

/-- A row that was written is the next one that is read. -/
theorem read_writeRow {limit : Nat} {fields : List (List Char)} (short : ∀ f ∈ fields, f.length ≤ limit) (text : List Char) :
    read limit (writeRow fields ++ text) = (fields :: (read limit text).1, (read limit text).2) := by
  have some : writeRow fields ++ text ≠ [] := by simp [writeRow]
  rw [read, readLines_lines limit _ some, writeRow, List.append_assoc, List.cons_append, List.singleton_append]
  split
  · next alone =>
    subst alone
    rw [resume_quoted (.inl rfl) (Nat.zero_le _), resume_lineBreak (by decide), List.nil_append]
  · next several =>
    cases fields with
    | nil =>
      change resume limit {} ('\r' :: '\n' :: text) = _
      rw [resume_cons ⟨.eatCrnl, [], []⟩ (by decide) rfl, resume_lineFeed ⟨.eatCrnl, [], []⟩ ⟨.startRecord, [], []⟩ rfl rfl,
        if_pos rfl]
    | cons field later => exact resume_fields (.inl rfl) short (fun _ => several) text

/-- Rows that were written are read back. -/
theorem read_write {limit : Nat} {rows : Rows} (short : ∀ fields ∈ rows, ∀ f ∈ fields, f.length ≤ limit) :
    read limit (write rows) = (rows, none) := by
  induction rows with
  | nil => rfl
  | cons fields rest ih =>
    rw [write, List.flatMap_cons, ← write, read_writeRow (short fields List.mem_cons_self),
      ih fun later member => short later (List.mem_cons_of_mem _ member)]

/-- A text starts with the first character of its first field, if that is written as it is. -/
theorem write_head {c : Char} {rest : List Char} (plain : ∀ d ∈ c :: rest, special d = false) (later : List (List Char))
    (rows : Rows) : (write (((c :: rest) :: later) :: rows)).head? = some c := by
  have field : writeField (c :: rest) = c :: rest := if_neg (by simpa using plain)
  rw [write, List.flatMap_cons, writeRow, if_neg (by simp)]
  cases later <;> simp [field]

end Csv
