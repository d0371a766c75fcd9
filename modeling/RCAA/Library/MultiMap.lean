import Mathlib

/-! Insertion-ordered dictionaries whose values are lists, as built by one pass of
`setdefault(key, []).append(value)` over a sequence. Looking a key up in the
finished index is filtering the sequence; the groups are the filters of its keys. -/

abbrev MultiMap (κ α : Type) := List (κ × List α)

namespace MultiMap
variable {κ α : Type} [DecidableEq κ]

def append (key : κ) (value : α) : MultiMap κ α → MultiMap κ α
  | [] => [(key, [value])]
  | (k, values) :: rest =>
    if k = key then (k, values ++ [value]) :: rest else (k, values) :: append key value rest

def get : MultiMap κ α → κ → List α
  | [], _ => []
  | (k, values) :: rest, key => if k = key then values else get rest key

def values (m : MultiMap κ α) : List (List α) := m.map Prod.snd

def mapValues (f : List α → List α) (m : MultiMap κ α) : MultiMap κ α := m.map fun (k, values) => (k, f values)

/-- File one value under each of its keys. -/
def appendAll (keys : List κ) (value : α) (m : MultiMap κ α) : MultiMap κ α :=
  keys.foldl (fun m key => m.append key value) m

/-- The index of a sequence, each element filed under the keys it has. -/
def collect (keys : α → List κ) (items : List α) : MultiMap κ α :=
  items.foldl (fun m item => m.appendAll (keys item) item) []

/-! ## Looking a key up -/

theorem get_append (m : MultiMap κ α) (key k : κ) (value : α) :
    (m.append key value).get k = if key = k then m.get k ++ [value] else m.get k := by
  induction m with
  | nil => simp only [append, get, List.nil_append]
  | cons entry rest ih =>
    obtain ⟨k', values⟩ := entry
    simp only [append]
    by_cases same : k' = key
    · subst same
      by_cases wanted : k' = k <;> simp [get, wanted]
    · rw [if_neg same]
      by_cases wanted : k' = k
      · subst wanted
        simp [get, Ne.symm same]
      · simp [get, wanted, ih]

theorem get_appendAll (keys : List κ) (distinct : keys.Nodup) (m : MultiMap κ α) (k : κ) (value : α) :
    (m.appendAll keys value).get k = if k ∈ keys then m.get k ++ [value] else m.get k := by
  induction keys generalizing m with
  | nil => simp [appendAll]
  | cons key rest ih =>
    obtain ⟨fresh, distinct⟩ := List.nodup_cons.mp distinct
    have step := ih distinct (m.append key value)
    simp only [appendAll, List.foldl_cons] at step ⊢
    rw [step, get_append]
    by_cases first : key = k
    · subst first
      simp [fresh]
    · simp [first, Ne.symm first]

theorem get_collect_aux (keys : α → List κ) (items : List α)
    (distinct : ∀ item ∈ items, (keys item).Nodup) (m : MultiMap κ α) (k : κ) :
    (items.foldl (fun m item => m.appendAll (keys item) item) m).get k =
      m.get k ++ items.filter (fun item => k ∈ keys item) := by
  induction items generalizing m with
  | nil => simp
  | cons item rest ih =>
    rw [List.foldl_cons, ih (fun i h => distinct i (by simp [h])),
      get_appendAll _ (distinct item (by simp))]
    by_cases filed : k ∈ keys item <;> simp [filed]

/-- An index lookup is a filter of the indexed sequence, in its order. -/
theorem get_collect (keys : α → List κ) (items : List α)
    (distinct : ∀ item ∈ items, (keys item).Nodup) (k : κ) :
    (collect keys items).get k = items.filter (fun item => k ∈ keys item) := by
  simpa only [collect, get, List.nil_append] using get_collect_aux keys items distinct [] k

theorem get_mapValues (f : List α → List α) (nothing : f [] = []) (m : MultiMap κ α) (k : κ) :
    (m.mapValues f).get k = f (m.get k) := by
  induction m with
  | nil => exact nothing.symm
  | cons entry rest ih =>
    by_cases wanted : entry.1 = k
    · simp [mapValues, get, wanted]
    · simpa [mapValues, get, wanted] using ih

theorem mem_get_appendAll (keys : List κ) (m : MultiMap κ α) (k : κ) (value a : α) :
    a ∈ (m.appendAll keys value).get k ↔ a ∈ m.get k ∨ (k ∈ keys ∧ a = value) := by
  induction keys generalizing m with
  | nil => simp [appendAll]
  | cons key rest ih =>
    have step := ih (m.append key value)
    simp only [appendAll, List.foldl_cons] at step ⊢
    rw [step, get_append]
    by_cases first : key = k
    · subst first
      simp only [if_true, List.mem_append, List.mem_cons, List.not_mem_nil, or_false, true_or, true_and]
      tauto
    · simp [first, Ne.symm first]

/-- Without distinct keys an element may be filed twice, but never under a key
it does not have. -/
theorem mem_get_collect (keys : α → List κ) (items : List α) (k : κ) (a : α) :
    a ∈ (collect keys items).get k ↔ a ∈ items ∧ k ∈ keys a := by
  have general : ∀ (items : List α) (m : MultiMap κ α),
      a ∈ (items.foldl (fun m item => m.appendAll (keys item) item) m).get k ↔
        a ∈ m.get k ∨ (a ∈ items ∧ k ∈ keys a) := by
    intro items
    induction items with
    | nil => simp
    | cons item rest ih =>
      intro m
      rw [List.foldl_cons, ih, mem_get_appendAll]
      constructor
      · rintro ((h | ⟨h, rfl⟩) | ⟨h, hk⟩)
        · exact .inl h
        · exact .inr ⟨by simp, h⟩
        · exact .inr ⟨by simp [h], hk⟩
      · rintro (h | ⟨h, hk⟩)
        · exact .inl (.inl h)
        · rcases List.mem_cons.mp h with rfl | h
          · exact .inl (.inr ⟨hk, rfl⟩)
          · exact .inr ⟨h, hk⟩
  simpa only [collect, get, List.not_mem_nil, false_or] using general items []

/-! ## Groups -/

theorem keys_append (m : MultiMap κ α) (key : κ) (value : α) :
    (m.append key value).map Prod.fst =
      if key ∈ m.map Prod.fst then m.map Prod.fst else m.map Prod.fst ++ [key] := by
  induction m with
  | nil => simp [append]
  | cons entry rest ih =>
    obtain ⟨k, values⟩ := entry
    simp only [append]
    by_cases same : k = key
    · simp [same]
    · have other : (key = k) = False := eq_false (Ne.symm same)
      simp only [if_neg same, List.map_cons, ih, List.mem_cons, other, false_or]
      split <;> simp only [List.cons_append]

theorem nodup_keys_append (m : MultiMap κ α) (distinct : (m.map Prod.fst).Nodup) (key : κ) (value : α) :
    ((m.append key value).map Prod.fst).Nodup := by
  rw [keys_append]
  split
  · exact distinct
  · next fresh =>
    rw [← List.concat_eq_append]
    exact distinct.concat fresh

theorem get_of_mem (m : MultiMap κ α) (distinct : (m.map Prod.fst).Nodup) {k : κ} {found : List α}
    (h : (k, found) ∈ m) : m.get k = found := by
  induction m with
  | nil => simp at h
  | cons entry rest ih =>
    obtain ⟨k', values'⟩ := entry
    simp only [List.map_cons, List.nodup_cons] at distinct
    rcases List.mem_cons.mp h with same | h
    · cases same
      simp [get]
    · have other : k' ≠ k := by
        rintro rfl
        exact distinct.1 (List.mem_map_of_mem h)
      simp only [get, if_neg other]
      exact ih distinct.2 h

theorem mem_of_get (m : MultiMap κ α) {k : κ} (found : m.get k ≠ []) : (k, m.get k) ∈ m := by
  induction m with
  | nil => exact absurd rfl found
  | cons entry rest ih =>
    obtain ⟨k', values⟩ := entry
    by_cases same : k' = k
    · subst same
      simp [get]
    · simp only [get, if_neg same] at found ⊢
      exact List.mem_cons_of_mem _ (ih found)

theorem nodup_keys_appendAll (keys : List κ) (value : α) (m : MultiMap κ α)
    (distinct : (m.map Prod.fst).Nodup) : ((m.appendAll keys value).map Prod.fst).Nodup := by
  induction keys generalizing m with
  | nil => exact distinct
  | cons key rest ih => exact ih _ (nodup_keys_append m distinct key value)

theorem nodup_keys_collect (keys : α → List κ) (items : List α) :
    ((collect keys items).map Prod.fst).Nodup := by
  have general : ∀ (items : List α) (m : MultiMap κ α), (m.map Prod.fst).Nodup →
      ((items.foldl (fun m item => m.appendAll (keys item) item) m).map Prod.fst).Nodup := by
    intro items
    induction items with
    | nil => exact fun _ h => h
    | cons item rest ih => exact fun m h => ih _ (nodup_keys_appendAll _ _ m h)
  exact general items [] List.nodup_nil

theorem ne_nil_of_mem_appendAll (keys : List κ) (value : α) (m : MultiMap κ α)
    (full : ∀ entry ∈ m, entry.2 ≠ []) : ∀ entry ∈ m.appendAll keys value, entry.2 ≠ [] := by
  have one : ∀ (key : κ) (m : MultiMap κ α), (∀ entry ∈ m, entry.2 ≠ []) →
      ∀ entry ∈ m.append key value, entry.2 ≠ [] := by
    intro key m
    induction m with
    | nil => intro _ entry h; simp [append] at h; simp [h]
    | cons head rest ih =>
      intro full entry h
      simp only [append] at h
      split at h
      · rcases List.mem_cons.mp h with rfl | h
        · simp
        · exact full entry (by simp [h])
      · rcases List.mem_cons.mp h with rfl | h
        · exact full head (by simp)
        · exact ih (fun e he => full e (by simp [he])) entry h
  induction keys generalizing m with
  | nil => exact full
  | cons key rest ih => exact ih _ (one key m full)

/-- The groups of a sequence by one key are its filters at the keys that occur. -/
theorem mem_values_collect (key : α → κ) (items group : List α) :
    group ∈ (collect (fun item => [key item]) items).values ↔
      ∃ item ∈ items, group = items.filter (fun other => key other = key item) := by
  have lookup : ∀ k, (collect (fun item => [key item]) items).get k =
      items.filter (fun other => key other = k) := by
    intro k
    rw [get_collect _ _ (fun _ _ => List.nodup_singleton _)]
    simp only [List.mem_singleton, eq_comm]
  have full : ∀ entry ∈ collect (fun item => [key item]) items, entry.2 ≠ [] := by
    have general : ∀ (items : List α) (m : MultiMap κ α), (∀ entry ∈ m, entry.2 ≠ []) →
        ∀ entry ∈ items.foldl (fun m item => MultiMap.appendAll [key item] item m) m, entry.2 ≠ [] := by
      intro items
      induction items with
      | nil => exact fun _ h => h
      | cons item rest ih => exact fun m h => ih _ (ne_nil_of_mem_appendAll _ _ m h)
    exact general items [] (by simp)
  constructor
  · intro h
    obtain ⟨⟨k, values⟩, member, rfl⟩ := List.mem_map.mp h
    have found := get_of_mem _ (nodup_keys_collect _ items) member
    rw [lookup] at found
    obtain ⟨item, rest, nonempty⟩ := List.exists_cons_of_ne_nil (full _ member)
    have here : item ∈ items.filter (fun other => key other = k) := by
      rw [found]
      simp [show values = item :: rest from nonempty]
    obtain ⟨inside, same⟩ := List.mem_filter.mp here
    refine ⟨item, inside, ?_⟩
    rw [of_decide_eq_true same, found]
  · rintro ⟨item, inside, rfl⟩
    have found : (collect (fun item => [key item]) items).get (key item) ≠ [] := by
      rw [lookup]
      exact List.ne_nil_of_mem (List.mem_filter.mpr ⟨inside, by simp⟩)
    rw [← lookup]
    exact List.mem_map_of_mem (mem_of_get _ found)

end MultiMap
