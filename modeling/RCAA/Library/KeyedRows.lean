import Mathlib

/-! Rows collected into an insertion-ordered dictionary by a key, `d[key(x)] = x`,
and read back as its values. A repeated key keeps its first position and takes the
later row, so rows that agree whenever their keys do are listed once each. -/

namespace KeyedRows
variable {κ α β : Type} (key : α → κ)

/-- The key tells the rows of a collection apart. -/
def Faithful (rows : List α) : Prop := ∀ a ∈ rows, ∀ b ∈ rows, key a = key b → a = b

theorem Faithful.mono {key : α → κ} {rows sub : List α} (faithful : Faithful key rows)
    (inside : ∀ a ∈ sub, a ∈ rows) : Faithful key sub :=
  fun a ha b hb same => faithful a (inside a ha) b (inside b hb) same

theorem faithful_of_nodup {rows : List α} (distinct : (rows.map key).Nodup) : Faithful key rows :=
  fun _ ha _ hb same => List.inj_on_of_nodup_map distinct ha hb same

theorem nodup_snoc {rows : List α} {row : α} (distinct : (rows.map key).Nodup) (absent : key row ∉ rows.map key) :
    ((rows ++ [row]).map key).Nodup := by
  rw [List.map_append, List.map_singleton, ← List.concat_eq_append]
  exact distinct.concat absent

/-- A list with a member has a second one exactly when another key occurs. -/
theorem one_lt_length_iff {rows : List α} (distinct : (rows.map key).Nodup) {row : α} (member : row ∈ rows) :
    1 < rows.length ↔ ∃ other ∈ rows, key other ≠ key row := by
  constructor
  · intro several
    rcases rows with _ | ⟨a, _ | ⟨b, rest⟩⟩
    · simp at several
    · simp at several
    · have different : key a ≠ key b := by
        intro same
        simp [same] at distinct
      by_cases first : key a = key row
      · exact ⟨b, by simp, fun same => different (first.trans same.symm)⟩
      · exact ⟨a, by simp, first⟩
  · rintro ⟨other, inside, different⟩
    rcases rows with _ | ⟨a, _ | ⟨b, rest⟩⟩
    · simp at member
    · rw [List.mem_singleton] at member inside
      exact absurd (by rw [member, inside]) different
    · simp

variable [DecidableEq κ]

def put (row : α) : List α → List α
  | [] => [row]
  | other :: rest => if key other = key row then row :: rest else other :: put row rest

def collect (rows : List α) : List α := rows.foldl (fun kept row => put key row kept) []

/-- Lookup in rows whose keys are distinct. -/
theorem find?_eq_some_iff {rows : List α} (distinct : (rows.map key).Nodup) (k : κ) (row : α) :
    rows.find? (fun r => key r = k) = some row ↔ row ∈ rows ∧ key row = k := by
  constructor
  · intro found
    exact ⟨List.mem_of_find?_eq_some found, by simpa using List.find?_some found⟩
  · rintro ⟨member, rfl⟩
    cases found : rows.find? (fun r => key r = key row) with
    | none => simpa using List.find?_eq_none.mp found row member
    | some other =>
      have same : key other = key row := by simpa using List.find?_some found
      rw [faithful_of_nodup key distinct other (List.mem_of_find?_eq_some found) row member same]

omit [DecidableEq κ] in
/-- A key that occurs is the key of one row. -/
theorem existsUnique_of_nodup {rows : List α} (distinct : (rows.map key).Nodup) {k : κ} (occurs : ∃ row ∈ rows, key row = k) :
    ∃! row, row ∈ rows ∧ key row = k := by
  obtain ⟨row, member, same⟩ := occurs
  refine ⟨row, ⟨member, same⟩, ?_⟩
  rintro other ⟨inside, equal⟩
  exact faithful_of_nodup key distinct other inside row member (equal.trans same.symm)

theorem find?_eq_none_iff (rows : List α) (k : κ) :
    rows.find? (fun r => key r = k) = none ↔ ∀ r ∈ rows, key r ≠ k := by
  simp [List.find?_eq_none]

theorem keys_put (row : α) (kept : List α) :
    (put key row kept).map key =
      if key row ∈ kept.map key then kept.map key else kept.map key ++ [key row] := by
  induction kept with
  | nil => simp [put]
  | cons other rest ih =>
    simp only [put]
    by_cases same : key other = key row
    · simp [same]
    · have distinct : (key row = key other) = False := eq_false (Ne.symm same)
      simp only [if_neg same, List.map_cons, ih, List.mem_cons, distinct, false_or]
      split <;> simp only [List.cons_append]

theorem nodup_keys_put (row : α) {kept : List α} (distinct : (kept.map key).Nodup) :
    ((put key row kept).map key).Nodup := by
  rw [keys_put]
  split
  · exact distinct
  · next fresh =>
    rw [← List.concat_eq_append]
    exact distinct.concat fresh

theorem mem_put {row : α} {kept : List α} (faithful : Faithful key (row :: kept)) (a : α) :
    a ∈ put key row kept ↔ a = row ∨ a ∈ kept := by
  induction kept with
  | nil => simp [put]
  | cons other rest ih =>
    have tail := ih (faithful.mono (by simp; tauto))
    simp only [put]
    by_cases same : key other = key row
    · have equal : other = row := faithful other (by simp) row (by simp) same
      subst equal
      simp
    · simp only [if_neg same, List.mem_cons, tail]
      tauto

theorem head?_put {row : α} {kept : List α} (faithful : Faithful key (row :: kept)) :
    (put key row kept).head? = (kept ++ [row]).head? := by
  cases kept with
  | nil => rfl
  | cons other rest =>
    simp only [put, List.cons_append, List.head?_cons]
    by_cases same : key other = key row
    · rw [if_pos same, faithful other (by simp) row (by simp) same, List.head?_cons]
    · rw [if_neg same, List.head?_cons]

theorem put_absent {row : α} {kept : List α} (absent : key row ∉ kept.map key) : put key row kept = kept ++ [row] := by
  induction kept with
  | nil => rfl
  | cons other rest ih =>
    rw [List.map_cons, List.mem_cons, not_or] at absent
    obtain ⟨differs, absent⟩ := absent
    rw [put, if_neg (Ne.symm differs), ih absent, List.cons_append]

theorem mem_of_put {row a : α} {kept : List α} (member : a ∈ put key row kept) : a = row ∨ a ∈ kept := by
  induction kept with
  | nil => exact .inl (List.mem_singleton.mp member)
  | cons other rest ih =>
    rw [put] at member
    split at member
    · exact (List.mem_cons.mp member).imp_right (List.mem_cons_of_mem _)
    · rcases List.mem_cons.mp member with rfl | inside
      · exact .inr List.mem_cons_self
      · exact (ih inside).imp_right (List.mem_cons_of_mem _)

theorem find?_put (row : α) (kept : List α) (k : κ) :
    (put key row kept).find? (fun r => key r = k) = if key row = k then some row else kept.find? fun r => key r = k := by
  induction kept with
  | nil => simp only [put, List.find?_singleton, List.find?_nil, decide_eq_true_eq]
  | cons other rest ih =>
    rw [put]
    by_cases same : key other = key row
    · rw [if_pos same, List.find?_cons, List.find?_cons, same]
      by_cases hit : key row = k <;> simp [hit]
    · rw [if_neg same, List.find?_cons, ih, List.find?_cons]
      by_cases hit : key row = k
      · have apart : key other ≠ k := fun other => same (other.trans hit.symm)
        simp [hit, apart]
      · simp [hit]

/-- Lookup among some of the rows, whose keys are distinct. -/
theorem find?_filter {rows : List α} (distinct : (rows.map key).Nodup) (p : α → Bool) (k : κ) :
    (rows.filter p).find? (fun r => key r = k) = (rows.find? fun r => key r = k).filter p := by
  have fewer : ((rows.filter p).map key).Nodup := distinct.sublist (List.filter_sublist.map key)
  refine Option.ext fun row => ?_
  rw [find?_eq_some_iff key fewer, Option.filter_eq_some_iff, find?_eq_some_iff key distinct, List.mem_filter, and_right_comm]

/-- The loop invariant of the collection, for the rows read so far. -/
structure Collected (rows kept : List α) : Prop where
  mem : ∀ a, a ∈ kept ↔ a ∈ rows
  keys : (kept.map key).Nodup
  head : kept.head? = rows.head?

theorem Collected.put {key : α → κ} {rows kept : List α} {row : α} (collected : Collected key rows kept)
    (faithful : Faithful key (rows ++ [row])) : Collected key (rows ++ [row]) (put key row kept) := by
  have sub : Faithful key (row :: kept) := faithful.mono fun a ha => by
    rcases List.mem_cons.mp ha with rfl | ha
    · simp
    · simp [(collected.mem a).mp ha]
  refine ⟨fun a => ?_, nodup_keys_put key row collected.keys, ?_⟩
  · rw [mem_put key sub, collected.mem, List.mem_append, List.mem_singleton, or_comm]
  · rw [head?_put key sub, List.head?_append, List.head?_append, collected.head]

theorem collected_foldl {rows kept more : List α} (collected : Collected key rows kept)
    (faithful : Faithful key (rows ++ more)) :
    Collected key (rows ++ more) (more.foldl (fun kept row => KeyedRows.put key row kept) kept) := by
  induction more generalizing rows kept with
  | nil => simpa only [List.append_nil, List.foldl_nil] using collected
  | cons row rest ih =>
    rw [List.append_cons] at faithful ⊢
    exact ih (collected.put (faithful.mono fun a ha => List.mem_append_left _ ha)) faithful

theorem collected {rows : List α} (faithful : Faithful key rows) : Collected key rows (collect key rows) := by
  have start : Collected key [] ([] : List α) := ⟨fun _ => Iff.rfl, List.nodup_nil, rfl⟩
  simpa only [List.nil_append, collect] using collected_foldl key start faithful

/-- The values of the dictionary are the rows, each once, in order of first appearance. -/
theorem mem_collect {rows : List α} (faithful : Faithful key rows) (a : α) :
    a ∈ collect key rows ↔ a ∈ rows := (collected key faithful).mem a

theorem nodup_collect {rows : List α} (faithful : Faithful key rows) : (collect key rows).Nodup :=
  (collected key faithful).keys.of_map key

theorem nodup_keys_collect (rows : List α) : ((collect key rows).map key).Nodup := by
  have general : ∀ (rows kept : List α), (kept.map key).Nodup →
      ((rows.foldl (fun kept row => put key row kept) kept).map key).Nodup := by
    intro rows
    induction rows with
    | nil => exact fun _ h => h
    | cons row rest ih => exact fun kept h => ih _ (nodup_keys_put key row h)
  exact general rows [] List.nodup_nil

/-! ## One row changed -/

/-- The row with a key changed by `f`. -/
def update (k : κ) (f : α → α) (rows : List α) : List α := rows.map fun row => if key row = k then f row else row

theorem update_id (k : κ) (rows : List α) : update key k id rows = rows := by
  rw [update]
  exact (List.map_congr_left fun row _ => ite_self row).trans (List.map_id' rows)

theorem map_update {column : α → β} {k : κ} {f : α → α} (fixed : ∀ row, column (f row) = column row) (rows : List α) :
    (update key k f rows).map column = rows.map column := by
  rw [update, List.map_map]
  refine List.map_congr_left fun row _ => ?_
  simp only [Function.comp_apply]
  split
  · exact fixed row
  · rfl

theorem mem_update {k : κ} {f : α → α} {rows : List α} (a : α) :
    a ∈ update key k f rows ↔ (a ∈ rows ∧ key a ≠ k) ∨ ∃ row ∈ rows, key row = k ∧ a = f row := by
  simp only [update, List.mem_map]
  constructor
  · rintro ⟨row, member, rfl⟩
    by_cases same : key row = k
    · rw [if_pos same]
      exact .inr ⟨row, member, same, rfl⟩
    · rw [if_neg same]
      exact .inl ⟨member, same⟩
  · rintro (⟨member, differs⟩ | ⟨row, member, same, rfl⟩)
    · exact ⟨a, member, if_neg differs⟩
    · exact ⟨row, member, if_pos same⟩

/-- A row put where one with its key is stored is a change of that one. -/
theorem put_present {row stored : α} {rows : List α} (distinct : (rows.map key).Nodup) (member : stored ∈ rows)
    (same : key row = key stored) : put key row rows = update key (key row) (fun _ => row) rows := by
  induction rows with
  | nil => exact absurd member List.not_mem_nil
  | cons other rest ih =>
    obtain ⟨fresh, distinct⟩ := List.nodup_cons.mp distinct
    rw [put, update, List.map_cons]
    by_cases hit : key other = key row
    · have others : ∀ r ∈ rest, key r ≠ key row := fun r inside equal => fresh (List.mem_map.mpr ⟨r, inside, equal.trans hit.symm⟩)
      rw [if_pos hit, if_pos hit]
      congr 1
      exact ((List.map_congr_left fun r inside => if_neg (others r inside)).trans (List.map_id' rest)).symm
    · rw [if_neg hit, if_neg hit]
      rcases List.mem_cons.mp member with first | inside
      · exact absurd (first ▸ same.symm) hit
      · rw [ih distinct inside, update]

theorem find?_update {k : κ} {f : α → α} (fixed : ∀ row, key (f row) = key row) (rows : List α) (other : κ) :
    (update key k f rows).find? (fun row => key row = other) =
      (rows.find? fun row => key row = other).map fun row => if key row = k then f row else row := by
  have seen (row : α) : key (if key row = k then f row else row) = key row := by
    split
    · exact fixed row
    · rfl
  rw [update, List.find?_map]
  simp only [Function.comp_def, seen]

/-- A column whose values, where there are any, differ from row to row. -/
def Distinguishes (column : α → Option β) (rows : List α) : Prop :=
  rows.Pairwise fun a b => ∀ value, column a = some value → column b ≠ some value

theorem Distinguishes.snoc {column : α → Option β} {rows : List α} (unique : Distinguishes column rows) {row : α}
    (new : ∀ value, column row = some value → ∀ a ∈ rows, column a ≠ some value) :
    Distinguishes column (rows ++ [row]) := by
  refine List.pairwise_append.mpr ⟨unique, List.pairwise_singleton _ _, fun a member b last value taken => ?_⟩
  rw [List.mem_singleton.mp last]
  exact fun same => new value same a member taken

/-- Changing the row of one key keeps such a column when the value it takes is new. -/
theorem Distinguishes.update {column : α → Option β} {rows : List α} (unique : Distinguishes column rows)
    (distinct : (rows.map key).Nodup) {k : κ} {f : α → α}
    (new : ∀ row value, column (f row) = some value → ∀ a ∈ rows, column a ≠ some value) :
    Distinguishes column (KeyedRows.update key k f rows) := by
  refine List.pairwise_map.mpr ?_
  have apart : rows.Pairwise fun a b => key a ≠ key b := List.pairwise_map.mp distinct
  refine (unique.and apart).imp_of_mem fun {a b} memberA memberB ⟨differ, keys⟩ value => ?_
  by_cases first : key a = k
  · rw [if_pos first, if_neg fun second => keys (first.trans second.symm)]
    exact fun taken => new a value taken b memberB
  · rw [if_neg first]
    by_cases second : key b = k
    · rw [if_pos second]
      exact fun taken same => new b value same a memberA taken
    · rw [if_neg second]
      exact differ value

/-- So does a change that leaves the column. -/
theorem Distinguishes.kept {column : α → Option β} {rows : List α} (unique : Distinguishes column rows) {k : κ} {f : α → α}
    (fixed : ∀ row, column (f row) = column row) : Distinguishes column (KeyedRows.update key k f rows) := by
  have same (row : α) : column (if key row = k then f row else row) = column row := by
    split
    · exact fixed row
    · rfl
  refine List.pairwise_map.mpr (unique.imp fun {a b} differ value => ?_)
  rw [same, same]
  exact differ value

end KeyedRows
