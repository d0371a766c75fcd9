import Mathlib

/-! The items of a list whose key is not among those seen before: the ones a loop
keeps that drops what it has met already. -/

namespace FirstByKey
variable {α κ : Type} [DecidableEq κ] (key : α → κ)

/-- The items, in order, whose key neither `seen` nor an earlier item has. -/
def firsts (seen : List κ) : List α → List α
  | [] => []
  | item :: rest => if key item ∈ seen then firsts seen rest else item :: firsts (seen ++ [key item]) rest

theorem firsts_sublist (seen : List κ) (items : List α) : (firsts key seen items).Sublist items := by
  induction items generalizing seen with
  | nil => exact List.Sublist.slnil
  | cons item rest ih =>
    simp only [firsts]
    split
    · exact (ih seen).cons item
    · exact (ih _).cons_cons item

theorem mem_firsts_iff (seen : List κ) (items : List α) (item : α) :
    item ∈ firsts key seen items ↔
      ∃ pre post, items = pre ++ item :: post ∧ key item ∉ seen ∧ ∀ e ∈ pre, key e ≠ key item := by
  induction items generalizing seen with
  | nil => simp [firsts]
  | cons head rest ih =>
    simp only [firsts]
    constructor
    · intro h
      split at h
      · next stored =>
        obtain ⟨pre, post, rfl, unseen, first⟩ := (ih seen).mp h
        refine ⟨head :: pre, post, rfl, unseen, ?_⟩
        intro e he
        rcases List.mem_cons.mp he with rfl | he
        · exact fun same => unseen (same ▸ stored)
        · exact first e he
      · next absent =>
        rcases List.mem_cons.mp h with rfl | h
        · exact ⟨[], rest, rfl, absent, by simp⟩
        · obtain ⟨pre, post, rfl, unseen, first⟩ := (ih _).mp h
          simp only [List.mem_append, List.mem_singleton, not_or] at unseen
          refine ⟨head :: pre, post, rfl, unseen.1, ?_⟩
          intro e he
          rcases List.mem_cons.mp he with rfl | he
          · exact fun same => unseen.2 same.symm
          · exact first e he
    · rintro ⟨pre, post, split', unseen, first⟩
      cases pre with
      | nil =>
        obtain ⟨rfl, rfl⟩ := List.cons_eq_cons.mp split'
        rw [if_neg unseen]
        exact List.mem_cons_self
      | cons e pre =>
        obtain ⟨rfl, rfl⟩ := List.cons_eq_cons.mp split'
        have other := first head (by simp)
        have tail : ∀ e ∈ pre, key e ≠ key item := fun e he => first e (by simp [he])
        split
        · exact (ih seen).mpr ⟨pre, post, rfl, unseen, tail⟩
        · refine List.mem_cons_of_mem _ ((ih _).mpr ⟨pre, post, rfl, ?_, tail⟩)
          simp only [List.mem_append, List.mem_singleton, not_or]
          exact ⟨unseen, Ne.symm other⟩

theorem firsts_congr {other : α → κ} (same : ∀ item, key item = other item) (seen : List κ) (items : List α) :
    firsts key seen items = firsts other seen items := by
  induction items generalizing seen with
  | nil => rfl
  | cons item rest ih => simp only [firsts, same, ih]

theorem firsts_map {β : Type} (f : β → α) (seen : List κ) (items : List β) :
    firsts key seen (items.map f) = (firsts (fun item => key (f item)) seen items).map f := by
  induction items generalizing seen with
  | nil => rfl
  | cons item rest ih =>
    simp only [List.map_cons, firsts]
    split
    · exact ih seen
    · rw [ih, List.map_cons]

/-- Items with distinct keys that were not seen before are all kept. -/
theorem firsts_of_distinct {seen : List κ} {items : List α} (distinct : (items.map key).Nodup)
    (unseen : ∀ item ∈ items, key item ∉ seen) : firsts key seen items = items := by
  induction items generalizing seen with
  | nil => rfl
  | cons item rest ih =>
    obtain ⟨apart, distinct⟩ := List.nodup_cons.mp distinct
    rw [firsts, if_neg (unseen item List.mem_cons_self), ih distinct fun other member => ?_]
    rw [List.mem_append, List.mem_singleton, not_or]
    exact ⟨unseen other (List.mem_cons_of_mem _ member), fun same => apart (same ▸ List.mem_map_of_mem member)⟩

theorem firsts_append (seen : List κ) (first second : List α) :
    firsts key seen (first ++ second) =
      firsts key seen first ++ firsts key (seen ++ (firsts key seen first).map key) second := by
  induction first generalizing seen with
  | nil => simp [firsts]
  | cons item rest ih =>
    simp only [List.cons_append, firsts]
    split
    · exact ih seen
    · rw [ih]
      simp only [List.cons_append, List.map_cons, List.append_assoc, List.nil_append]

theorem firsts_snoc (seen : List κ) (items : List α) (item : α) :
    firsts key seen (items ++ [item]) = firsts key seen items ++
      if key item ∈ seen ++ (firsts key seen items).map key then [] else [item] := by
  rw [firsts_append]
  simp only [firsts]

/-- Every item's key was seen, or an item kept has it. -/
theorem covered (seen : List κ) (items : List α) {item : α} (h : item ∈ items) :
    key item ∈ seen ∨ ∃ e ∈ firsts key seen items, key e = key item := by
  induction items generalizing seen with
  | nil => simp at h
  | cons head rest ih =>
    simp only [firsts]
    rcases List.mem_cons.mp h with rfl | h
    · split
      · next stored => exact .inl stored
      · exact .inr ⟨item, by simp, rfl⟩
    · split
      · exact ih seen h
      · rcases ih (seen ++ [key head]) h with stored | ⟨e, he, same⟩
        · rcases List.mem_append.mp stored with stored | stored
          · exact .inl stored
          · exact .inr ⟨head, by simp, (List.mem_singleton.mp stored).symm⟩
        · exact .inr ⟨e, by simp [he], same⟩

theorem firsts_eq_nil_iff (seen : List κ) (items : List α) :
    firsts key seen items = [] ↔ ∀ item ∈ items, key item ∈ seen := by
  constructor
  · intro none item h
    rcases covered key seen items h with stored | ⟨e, he, _⟩
    · exact stored
    · simp [none] at he
  · intro all
    rw [List.eq_nil_iff_forall_not_mem]
    intro item h
    obtain ⟨pre, post, rfl, unseen, _⟩ := (mem_firsts_iff key seen items item).mp h
    exact unseen (all item (by simp))

/-- The keys kept tell which of the items' keys were seen before. -/
theorem agree_of_firsts {seen other : List κ} {items : List α} (same : (firsts key seen items).map key = (firsts key other items).map key) :
    ∀ item ∈ items, (key item ∈ seen ↔ key item ∈ other) := by
  have keeps {one two : List κ} (same : (firsts key one items).map key = (firsts key two items).map key) {item : α}
      (member : item ∈ items) (stored : key item ∈ two) : key item ∈ one := by
    rcases covered key one items member with here | ⟨e, kept, equal⟩
    · exact here
    · have again : key e ∈ (firsts key two items).map key := same ▸ List.mem_map_of_mem kept
      obtain ⟨d, inside, alike⟩ := List.mem_map.mp again
      obtain ⟨_, _, _, unseen, _⟩ := (mem_firsts_iff key _ _ _).mp inside
      rw [alike, equal] at unseen
      exact absurd stored unseen
  exact fun item member => ⟨keeps same.symm member, keeps same member⟩

/-- What was seen matters only where an item has it. -/
theorem firsts_of_agree {seen other : List κ} {items : List α} (agree : ∀ item ∈ items, (key item ∈ seen ↔ key item ∈ other)) :
    firsts key seen items = firsts key other items := by
  induction items generalizing seen other with
  | nil => rfl
  | cons item rest ih =>
    have head := agree item (by simp)
    have tail : ∀ e ∈ rest, (key e ∈ seen ↔ key e ∈ other) := fun e member => agree e (by simp [member])
    simp only [firsts, head]
    split
    · exact ih tail
    · have grown : ∀ e ∈ rest, (key e ∈ seen ++ [key item] ↔ key e ∈ other ++ [key item]) := fun e member => by
        simp only [List.mem_append, tail e member]
      rw [ih grown]

/-- An item at its first place is kept exactly when neither what was seen nor
anything before it has its key. -/
theorem mem_firsts_first {seen : List κ} {before after : List α} {item : α} (first : item ∉ before) :
    item ∈ firsts key seen (before ++ item :: after) ↔ key item ∉ seen ∧ ∀ e ∈ before, key e ≠ key item := by
  constructor
  · intro kept
    rw [firsts_append, List.mem_append] at kept
    have unseen : key item ∉ seen ++ (firsts key seen before).map key := by
      rcases kept with early | here
      · exact absurd ((firsts_sublist key _ _).subset early) first
      · obtain ⟨_, _, _, unseen, _⟩ := (mem_firsts_iff key _ _ _).mp here
        exact unseen
    rw [List.mem_append, not_or] at unseen
    refine ⟨unseen.1, fun e earlier same => ?_⟩
    rcases covered key seen before earlier with stored | ⟨d, kept, equal⟩
    · exact unseen.1 (same ▸ stored)
    · exact unseen.2 (List.mem_map.mpr ⟨d, kept, equal.trans same⟩)
  · rintro ⟨unseen, differ⟩
    exact (mem_firsts_iff key _ _ _).mpr ⟨before, after, rfl, unseen, differ⟩

theorem nodup_keys_firsts (seen : List κ) (items : List α) : ((firsts key seen items).map key).Nodup := by
  induction items generalizing seen with
  | nil => exact List.nodup_nil
  | cons item rest ih =>
    simp only [firsts]
    split
    · exact ih seen
    · rw [List.map_cons, List.nodup_cons]
      refine ⟨?_, ih _⟩
      intro again
      obtain ⟨e, he, same⟩ := List.mem_map.mp again
      obtain ⟨_, _, _, unseen, _⟩ := (mem_firsts_iff key _ _ _).mp he
      exact unseen (by simp [same])

/-! ## Keys and places -/

/-- The keys kept are the distinct keys that were not seen before. -/
theorem keys_firsts_perm (seen : List κ) (items : List α) :
    ((firsts key seen items).map key).Perm ((items.map key).dedup.filter fun k => k ∉ seen) := by
  refine (List.perm_ext_iff_of_nodup (nodup_keys_firsts key seen items) ((List.nodup_dedup _).filter _)).mpr fun k => ?_
  rw [List.mem_filter, List.mem_dedup, decide_eq_true_iff]
  constructor
  · intro kept
    obtain ⟨item, inside, rfl⟩ := List.mem_map.mp kept
    obtain ⟨_, _, _, unseen, _⟩ := (mem_firsts_iff key seen items item).mp inside
    exact ⟨List.mem_map_of_mem ((firsts_sublist key seen items).subset inside), unseen⟩
  · rintro ⟨present, unseen⟩
    obtain ⟨item, inside, rfl⟩ := List.mem_map.mp present
    rcases covered key seen items inside with stored | ⟨e, kept, same⟩
    · exact absurd stored unseen
    · exact List.mem_map.mpr ⟨e, kept, same⟩

theorem mem_seen_or_firsts {seen : List κ} {items : List α} (k : κ) :
    k ∈ seen ++ (firsts key seen items).map key ↔ k ∈ seen ++ items.map key := by
  rw [List.mem_append, List.mem_append]
  constructor
  · rintro (stored | kept)
    · exact .inl stored
    · exact .inr (((firsts_sublist key seen items).map key).subset kept)
  · rintro (stored | present)
    · exact .inl stored
    · obtain ⟨item, inside, rfl⟩ := List.mem_map.mp present
      rcases covered key seen items inside with stored | ⟨e, kept, same⟩
      · exact .inl stored
      · exact .inr (List.mem_map.mpr ⟨e, kept, same⟩)

/-- The items, in order, that are not kept. -/
def repeats (seen : List κ) : List α → List α
  | [] => []
  | item :: rest => if key item ∈ seen then item :: repeats seen rest else repeats (seen ++ [key item]) rest

theorem repeats_snoc (seen : List κ) (items : List α) (item : α) :
    repeats key seen (items ++ [item]) = repeats key seen items ++
      if key item ∈ seen ++ (firsts key seen items).map key then [item] else [] := by
  induction items generalizing seen with
  | nil => simp [repeats, firsts]
  | cons head rest ih =>
    simp only [List.cons_append, repeats, firsts]
    split
    · rw [ih, List.cons_append]
    · rw [ih, List.map_cons, List.append_assoc, List.cons_append, List.nil_append]

/-- No item has the place of an earlier one. -/
theorem zipIdx_place_ne {items : List α} {before after : List (α × Nat)} {item : α × Nat}
    (split : items.zipIdx = before ++ item :: after) : ∀ e ∈ before, e.2 ≠ item.2 := by
  intro e earlier same
  have distinct : (items.zipIdx.map Prod.snd).Nodup := by
    rw [List.zipIdx_map_snd]
    exact List.nodup_range'
  rw [split, List.map_append, List.map_cons] at distinct
  exact List.disjoint_of_nodup_append distinct (List.mem_map_of_mem earlier) (same ▸ List.mem_cons_self)

/-- Kept or not, by place: an item is dropped when its key was seen or stands before it. -/
def Repeated (seen : List κ) (items : List α) (item : α × Nat) : Prop :=
  key item.1 ∈ seen ++ (items.take item.2).map key

instance (seen : List κ) (items : List α) (item : α × Nat) : Decidable (Repeated key seen items item) :=
  inferInstanceAs (Decidable (_ ∈ _))

omit [DecidableEq κ] in
/-- What stands behind a place says nothing about it. -/
theorem repeated_snoc {seen : List κ} {items : List α} {last : α} {item : α × Nat} (place : item ∈ items.zipIdx) :
    Repeated key seen (items ++ [last]) item ↔ Repeated key seen items item := by
  have inside : item.2 < items.length := by
    have := List.snd_lt_of_mem_zipIdx place
    omega
  rw [Repeated, Repeated, List.take_append_of_le_length (Nat.le_of_lt inside)]

theorem repeated_last {seen : List κ} {items : List α} {last : α} :
    Repeated key seen (items ++ [last]) (last, items.length) ↔
      key last ∈ seen ++ (firsts (fun item : α × Nat => key item.1) seen items.zipIdx).map fun item => key item.1 := by
  have keys : items.zipIdx.map (fun item => key item.1) = items.map key := by
    rw [← Function.comp_def, ← List.map_map, List.zipIdx_map_fst]
  rw [Repeated, mem_seen_or_firsts, keys, List.take_left' rfl]

/-- The items kept and the others, each at its place. -/
theorem partition_zipIdx (seen : List κ) (items : List α) :
    (firsts (fun item : α × Nat => key item.1) seen items.zipIdx = items.zipIdx.filter fun item => ¬Repeated key seen items item) ∧
      repeats (fun item : α × Nat => key item.1) seen items.zipIdx = items.zipIdx.filter fun item => Repeated key seen items item := by
  induction items using List.reverseRecOn with
  | nil => exact ⟨rfl, rfl⟩
  | append_singleton items last ih =>
    obtain ⟨kept, dropped⟩ := ih
    have earlier (item : α × Nat) (place : item ∈ items.zipIdx) := @repeated_snoc _ _ key seen items last item place
    have sameKept : (items.zipIdx.filter fun item => ¬Repeated key seen (items ++ [last]) item) =
        items.zipIdx.filter fun item => ¬Repeated key seen items item :=
      List.filter_congr fun item place => decide_eq_decide.mpr (not_congr (earlier item place))
    have sameDropped : (items.zipIdx.filter fun item => Repeated key seen (items ++ [last]) item) =
        items.zipIdx.filter fun item => Repeated key seen items item :=
      List.filter_congr fun item place => decide_eq_decide.mpr (earlier item place)
    rw [List.zipIdx_append, List.zipIdx_singleton, Nat.zero_add, firsts_snoc, repeats_snoc, List.filter_append, List.filter_append,
      sameKept, sameDropped, kept, dropped]
    have placed := @repeated_last _ _ _ key seen items last
    rw [kept] at placed
    simp only [← placed, List.filter_cons, List.filter_nil, decide_eq_true_eq]
    by_cases met : Repeated key seen (items ++ [last]) (last, items.length) <;> simp [met]

end FirstByKey
